import Outbox.Proofs.Dkim.Relaxed
import Outbox.Proofs.Text.Lines

/-!
# Outbox.Proofs.Dkim.RelaxedLines — the relaxed form of a body, line by line

The relaxed form of a body is made of the relaxed forms of what stands between its line feeds
(`relaxedBody_eq`). What is changed in one of these lines does not reach into another:

* `relaxedLines_append_lf` — a line feed parts a body in two that do not affect each other.
* `splitLines_last`, `splitLines_first` — a text without a line feed, put anywhere into a body, is
  in one line.
* `relaxedLines_append_end` — blanks and a carriage return at the end of a line do not matter.
* `relaxedLines_run` — neither does the length of a run of blanks.
-/

namespace Outbox.Dkim

open Octets

/-! ## Blanks -/

/-- A text of spaces and tabs only. -/
def IsBlanks (text : Octets) : Prop := ∀ b ∈ text, isBlankOctet b = true

instance (text : Octets) : Decidable (IsBlanks text) := List.decidableBAll _ text

theorem isBlankOctet_space : isBlankOctet space = true := by decide

theorem isBlankOctet_cr : isBlankOctet cr = false := by decide

theorem isBlankOctet_lf : isBlankOctet lf = false := by decide

theorem IsBlanks.nil : IsBlanks [] := fun _ hb => absurd hb List.not_mem_nil

theorem IsBlanks.lf_notMem {blanks : Octets} (h : IsBlanks blanks) : lf ∉ blanks := by
  intro hlf
  have hblank := h lf hlf
  rw [isBlankOctet_lf] at hblank
  cases hblank

theorem IsBlanks.getLast?_ne {blanks : Octets} (h : IsBlanks blanks) :
    blanks.getLast? ≠ some cr := by
  intro hlast
  have hblank := h cr (List.mem_of_getLast? hlast)
  rw [isBlankOctet_cr] at hblank
  cases hblank

/-! ## The text of a line -/

/-- The relaxed form of a text that ends no line. -/
def relaxedText (text : Octets) : Octets :=
  squeeze isBlankOctet space false (text.rdropWhile isBlankOctet)

/-- The blanks at the end can be dropped after the others are reduced. -/
theorem relaxedText_eq_rdropWhile (text : Octets) : relaxedText text =
    (squeeze isBlankOctet space false text).rdropWhile isBlankOctet :=
  (rdropWhile_squeeze (fun _ => id) isBlankOctet_space false text).symm

theorem dropLastIf_concat (b : UInt8) (octets : Octets) :
    dropLastIf b (octets ++ [b]) = octets := by
  simp [dropLastIf]

theorem dropLastIf_of_ne {b : UInt8} {octets : Octets} (h : octets.getLast? ≠ some b) :
    dropLastIf b octets = octets := if_neg h

theorem dropLastIf_append {b : UInt8} {a : Octets} (ha : a.getLast? ≠ some b) (c : Octets) :
    dropLastIf b (a ++ c) = a ++ dropLastIf b c := by
  induction c using List.reverseRecOn with
  | nil =>
    have hnil : dropLastIf b [] = [] := rfl
    rw [hnil, List.append_nil, dropLastIf_of_ne ha]
  | append_singleton c x _ =>
    rw [← List.append_assoc]
    by_cases hx : x = b
    · rw [hx, dropLastIf_concat, dropLastIf_concat]
    · have hlast (t : Octets) : (t ++ [x]).getLast? ≠ some b := by simpa using hx
      rw [dropLastIf_of_ne (hlast _), dropLastIf_of_ne (hlast _), List.append_assoc]

/-- A line is relaxed by taking a carriage return off its end. -/
theorem relaxedLine_eq (line : Octets) : relaxedLine line = relaxedText (dropLastIf cr line) := by
  have hline : relaxedLine line =
      (squeeze isBlankOctet space false (dropLastIf cr line)).rdropWhile (· == space) := rfl
  -- Of the blanks only spaces are left, so that dropping these at the end drops all.
  have hspaces : ∀ b ∈ squeeze isBlankOctet space false (dropLastIf cr line),
      (b == space) = isBlankOctet b := by
    intro b hb
    rw [Bool.eq_iff_iff, beq_iff_eq]
    constructor
    · rintro rfl
      exact isBlankOctet_space
    · exact eq_space_of_mem_squeeze hb
  rw [hline, rdropWhile_congr hspaces, relaxedText_eq_rdropWhile]

theorem relaxedLine_concat_cr (text : Octets) : relaxedLine (text ++ [cr]) = relaxedText text := by
  rw [relaxedLine_eq, dropLastIf_concat]

theorem relaxedLine_of_ne {text : Octets} (h : text.getLast? ≠ some cr) :
    relaxedLine text = relaxedText text := by
  rw [relaxedLine_eq, dropLastIf_of_ne h]

/-- Blanks at the end of a text do not matter. -/
theorem relaxedText_append_blanks {blanks : Octets} (h : IsBlanks blanks) (text : Octets) :
    relaxedText (text ++ blanks) = relaxedText text := by
  induction blanks using List.reverseRecOn with
  | nil => rw [List.append_nil]
  | append_singleton blanks b ih =>
    have hb := h b (List.mem_append_right blanks (List.mem_singleton_self b))
    rw [relaxedText, ← List.append_assoc, List.rdropWhile_concat_pos _ _ _ hb]
    exact ih fun x hx => h x (List.mem_append_left [b] hx)

theorem relaxedText_relaxedText (text : Octets) :
    relaxedText (relaxedText text) = relaxedText text := by
  have htext : relaxedText text =
      squeeze isBlankOctet space false (text.rdropWhile isBlankOctet) := rfl
  rw [relaxedText_eq_rdropWhile (relaxedText text), htext, squeeze_squeeze isBlankOctet_space,
    rdropWhile_squeeze (fun _ => id) isBlankOctet_space, List.rdropWhile_idempotent]

/-! ## Lines -/

/-- The relaxed forms of the lines of a body. The last is what comes after the last line feed. -/
def relaxedLines (body : Octets) : List Octets := (splitLines body).map relaxedLine

theorem splitLines_eq_splitOn (body : Octets) : splitLines body = body.splitOn lf := by
  induction body with
  | nil => rfl
  | cons b rest ih =>
    obtain ⟨line, lines, hlines⟩ := List.exists_cons_of_ne_nil (List.splitOn_ne_nil lf rest)
    rw [splitLines, ih, List.splitOn_cons_eq_if_modifyHead, hlines]
    simp only [beq_iff_eq, List.modifyHead_cons]

theorem exists_splitLines_eq (body : Octets) : ∃ line lines, splitLines body = line :: lines := by
  rw [splitLines_eq_splitOn]
  exact List.exists_cons_of_ne_nil (List.splitOn_ne_nil lf body)

theorem splitLines_cons {b : UInt8} (hb : b ≠ lf) {rest line : Octets} {lines : List Octets}
    (h : splitLines rest = line :: lines) : splitLines (b :: rest) = (b :: line) :: lines := by
  rw [splitLines, h]
  exact if_neg hb

/-- A line feed parts the lines before it from those after it. -/
theorem splitLines_append_lf (a c : Octets) :
    splitLines (a ++ lf :: c) = splitLines a ++ splitLines c := by
  simp only [splitLines_eq_splitOn]
  exact List.splitOn_append_cons_self a c

theorem splitLines_line {line : Octets} (h : lf ∉ line) : splitLines line = [line] := by
  rw [splitLines_eq_splitOn, List.splitOn_eq_singleton h]

theorem splitLines_unlines {lines : List Octets} (h : ∀ line ∈ lines, lf ∉ line) (last : Octets) :
    splitLines (unlines lines ++ last) = lines.map (· ++ [cr]) ++ splitLines last := by
  induction lines with
  | nil => rfl
  | cons line lines ih =>
    have hline : lf ∉ line ++ [cr] := by
      simp [h line List.mem_cons_self, cr_ne_lf.symm]
    have hsplit : unlines (line :: lines) ++ last =
        (line ++ [cr]) ++ lf :: (unlines lines ++ last) := by
      simp [unlines_cons, crlf]
    rw [hsplit, splitLines_append_lf, splitLines_line hline,
      ih fun l hl => h l (List.mem_cons_of_mem line hl)]
    rfl

theorem lf_notMem_of_mem_splitLines {body line : Octets} (h : line ∈ splitLines body) :
    lf ∉ line := by
  rw [splitLines_eq_splitOn] at h
  exact notMem_of_mem_splitOn h

theorem relaxedLines_append_lf (a c : Octets) :
    relaxedLines (a ++ lf :: c) = relaxedLines a ++ relaxedLines c := by
  rw [relaxedLines, splitLines_append_lf, List.map_append]
  rfl

theorem relaxedLines_unlines {lines : List Octets} (h : ∀ line ∈ lines, lf ∉ line)
    {last : Octets} (hlast : lf ∉ last) (hend : last.getLast? ≠ some cr) :
    relaxedLines (unlines lines ++ last) = (lines ++ [last]).map relaxedText := by
  rw [relaxedLines, splitLines_unlines h, splitLines_line hlast, List.map_append, List.map_append,
    List.map_map]
  congr 1
  · apply List.map_congr_left
    intro line _
    exact relaxedLine_concat_cr line
  · rw [List.map_singleton, List.map_singleton, relaxedLine_of_ne hend]

/-! ## A change within a line -/

theorem eq_append_line (a : Octets) :
    lf ∉ a ∨ ∃ before line, a = before ++ lf :: line ∧ lf ∉ line := by
  induction a with
  | nil => exact Or.inl List.not_mem_nil
  | cons b a ih =>
    rcases ih with hnone | ⟨before, line, rfl, hline⟩
    · by_cases hb : b = lf
      · exact Or.inr ⟨[], a, by rw [hb, List.nil_append], hnone⟩
      · refine Or.inl ?_
        rw [List.mem_cons, not_or]
        exact ⟨Ne.symm hb, hnone⟩
    · exact Or.inr ⟨b :: before, line, rfl, hline⟩

/-- What comes after the last line feed of `a` is the beginning of a line. -/
theorem splitLines_last (a : Octets) : ∃ before line, line <:+ a ∧ lf ∉ line ∧
    ∀ y, splitLines (a ++ y) = before ++ splitLines (line ++ y) := by
  rcases eq_append_line a with hnone | ⟨before, line, rfl, hline⟩
  · exact ⟨[], a, List.suffix_refl a, hnone, fun _ => rfl⟩
  · refine ⟨splitLines before, line, ⟨before ++ [lf], by simp⟩, hline, ?_⟩
    intro y
    rw [List.append_assoc, List.cons_append, splitLines_append_lf]

/-- What comes before the first line feed of `c` is the end of a line. -/
theorem splitLines_first (c : Octets) :
    ∃ rest after, ∀ x, lf ∉ x → splitLines (x ++ c) = (x ++ rest) :: after := by
  obtain ⟨rest, after, hc⟩ := exists_splitLines_eq c
  refine ⟨rest, after, ?_⟩
  intro x hx
  induction x with
  | nil => exact hc
  | cons b x ih =>
    rw [List.mem_cons, not_or] at hx
    exact splitLines_cons (Ne.symm hx.1) (ih hx.2)

theorem getLast?_ne_of_suffix {line a : Octets} (h : line <:+ a) (ha : a.getLast? ≠ some cr) :
    line.getLast? ≠ some cr := by
  rcases h with ⟨before, rfl⟩
  intro hline
  rw [List.getLast?_append, hline] at ha
  exact ha rfl

/-- Blanks before a line end do not matter, and neither does a carriage return after them. -/
theorem relaxedLines_append_end {a blanks : Octets} (ha : a.getLast? ≠ some cr)
    (h : IsBlanks blanks) :
    relaxedLines (a ++ blanks) = relaxedLines a ∧
      relaxedLines (a ++ (blanks ++ [cr])) = relaxedLines a := by
  obtain ⟨before, line, hsuffix, hline, hsplit⟩ := splitLines_last a
  have hlast := getLast?_ne_of_suffix hsuffix ha
  have hend (x : Octets) (hx : lf ∉ x) :
      relaxedLines (a ++ x) = before.map relaxedLine ++ [relaxedLine (line ++ x)] := by
    rw [relaxedLines, hsplit, splitLines_line (List.not_mem_append hline hx), List.map_append]
    rfl
  have hreturn : lf ∉ blanks ++ [cr] :=
    List.not_mem_append h.lf_notMem (by simp [cr_ne_lf.symm])
  have hself := hend [] List.not_mem_nil
  rw [List.append_nil, List.append_nil, relaxedLine_of_ne hlast] at hself
  constructor
  · have hlast' : (line ++ blanks).getLast? ≠ some cr := by
      rcases blanks.eq_nil_or_concat with rfl | ⟨init, b, rfl⟩
      · rwa [List.append_nil]
      · rw [List.getLast?_append_of_ne_nil _ (by simp)]
        exact h.getLast?_ne
    rw [hend blanks h.lf_notMem, hself, relaxedLine_of_ne hlast', relaxedText_append_blanks h]
  · rw [hend _ hreturn, hself, ← List.append_assoc, relaxedLine_concat_cr,
      relaxedText_append_blanks h]

/-- A run of blanks counts as one, wherever it is in a line. -/
theorem relaxedLine_run {run run' : Octets} (h : IsBlanks run) (h' : IsBlanks run')
    (hne : run ≠ []) (hne' : run' ≠ []) (line rest : Octets) :
    relaxedLine (line ++ (run ++ rest)) = relaxedLine (line ++ (run' ++ rest)) := by
  -- The carriage return that is taken off comes after the run.
  have hdrop (r : Octets) (hr : IsBlanks r) (hrne : r ≠ []) :
      dropLastIf cr (line ++ (r ++ rest)) = line ++ (r ++ dropLastIf cr rest) := by
    have hlast : (line ++ r).getLast? ≠ some cr := by
      rw [List.getLast?_append_of_ne_nil _ hrne]
      exact hr.getLast?_ne
    rw [← List.append_assoc, dropLastIf_append hlast, List.append_assoc]
  rw [relaxedLine_eq, relaxedLine_eq, hdrop run h hne, hdrop run' h' hne',
    relaxedText_eq_rdropWhile, relaxedText_eq_rdropWhile]
  congr 1
  apply squeeze_congr_append
  intro after
  rw [squeeze_run h hne, squeeze_run h' hne']

theorem relaxedLines_run {run run' : Octets} (h : IsBlanks run) (h' : IsBlanks run')
    (hne : run ≠ []) (hne' : run' ≠ []) (a c : Octets) :
    relaxedLines (a ++ (run ++ c)) = relaxedLines (a ++ (run' ++ c)) := by
  obtain ⟨before, line, -, hline, hlast⟩ := splitLines_last a
  obtain ⟨rest, after, hfirst⟩ := splitLines_first c
  have haround (x : Octets) (hx : lf ∉ x) : relaxedLines (a ++ (x ++ c)) =
      before.map relaxedLine ++ relaxedLine (line ++ (x ++ rest)) :: after.map relaxedLine := by
    rw [relaxedLines, hlast, ← List.append_assoc, hfirst _ (List.not_mem_append hline hx),
      List.map_append, List.map_cons, List.append_assoc]
  rw [haround run h.lf_notMem, haround run' h'.lf_notMem,
    relaxedLine_run h h' hne hne']

/-! ## Empty lines at the end -/

theorem dropEmptyEnd_eq (lines : List Octets) :
    dropEmptyEnd lines = if lines.rdropWhile List.isEmpty = [] then [[]]
      else lines.rdropWhile List.isEmpty := by
  have hdrop : lines.rdropWhile List.isEmpty =
      (lines.reverse.dropWhile List.isEmpty).reverse := rfl
  rw [dropEmptyEnd, ← hdrop]
  split
  case h_1 hnil => rw [if_pos hnil]
  case h_2 hne => rw [if_neg hne]

/-- An empty line at the end is dropped. -/
theorem dropEmptyEnd_concat (lines : List Octets) :
    dropEmptyEnd (lines ++ [[]]) = dropEmptyEnd lines := by
  rw [dropEmptyEnd_eq, dropEmptyEnd_eq, List.rdropWhile_concat_pos _ _ _ rfl]

/-- What is left is one empty line, or ends with a line that is not empty. -/
theorem dropEmptyEnd_cases (lines : List Octets) :
    dropEmptyEnd lines = [[]] ∨
      ∃ last, (dropEmptyEnd lines).getLast? = some last ∧ last ≠ [] := by
  rw [dropEmptyEnd_eq]
  split
  case isTrue => exact Or.inl rfl
  case isFalse hne =>
    refine Or.inr ⟨_, List.getLast?_eq_some_getLast hne, ?_⟩
    have hlast := List.rdropWhile_last_not List.isEmpty lines hne
    rw [List.isEmpty_iff] at hlast
    exact hlast

theorem dropEmptyEnd_dropEmptyEnd (lines : List Octets) :
    dropEmptyEnd (dropEmptyEnd lines) = dropEmptyEnd lines := by
  rw [dropEmptyEnd_eq lines]
  split
  case isTrue => rfl
  case isFalse hne => rw [dropEmptyEnd_eq, List.rdropWhile_idempotent, if_neg hne]

theorem eq_nil_or_mem_of_mem_dropEmptyEnd {lines : List Octets} {line : Octets}
    (h : line ∈ dropEmptyEnd lines) : line = [] ∨ line ∈ lines := by
  rw [dropEmptyEnd_eq] at h
  split at h
  case isTrue => exact Or.inl (List.mem_singleton.1 h)
  case isFalse => exact Or.inr ((List.rdropWhile_prefix _ _).subset h)

/-- The relaxed form of a body is its relaxed lines, without the empty ones at the end. -/
theorem relaxedBody_eq (body : Octets) :
    relaxedBody body = unlines (dropEmptyEnd (relaxedLines body)) := by
  have hbody : relaxedBody body =
      unlines (dropEmptyEnd (relaxedLines (dropLastIf lf body))) := rfl
  by_cases hlast : body.getLast? = some lf
  · -- A line feed at the end of the body is dropped, and with it no more than an empty line.
    obtain ⟨init, rfl⟩ := List.getLast?_eq_some_iff.1 hlast
    have hempty : relaxedLines [] = [[]] := rfl
    rw [hbody, dropLastIf_concat, relaxedLines_append_lf, hempty, dropEmptyEnd_concat]
  · rw [hbody, dropLastIf_of_ne hlast]

end Outbox.Dkim
