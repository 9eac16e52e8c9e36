import Mathlib.Data.List.Basic
import Outbox.Octets

/-!
# Outbox.Proofs.Text.Lines — octets as lines

A reader cuts octets into lines, each with a line end. It takes no octet of a line end for
anything else, so every reader of mail cuts the same octets into the same lines.

* `lines?` reads all octets as lines, and `untilEmpty?` those before the first empty line.
* `OfLines P` says that octets are lines with the property `P`. What is put together from
  such octets is lines again.
* `Paired` says of positions that no carriage return and no line feed stands alone. Lines are so
  (`paired_of_ofLines`), and such octets are lines and the beginning of one (`exists_lines`).
-/

namespace Outbox.Octets

/-- A line has no octet of a line end. -/
def IsLine (line : Octets) : Prop := cr ∉ line ∧ lf ∉ line

/-- Lines with their ends. -/
def unlines (lines : List Octets) : Octets := lines.flatMap (· ++ crlf)

/-- Reads lines after `line`, the part of a line that came before. -/
def linesFrom? (line : Octets) : Octets → Option (List Octets)
  | 13 :: 10 :: rest => (linesFrom? [] rest).map (line :: ·)
  | b :: rest => if b = cr ∨ b = lf then none else linesFrom? (line ++ [b]) rest
  | [] => if line = [] then some [] else none

/-- Reads octets as lines. -/
def lines? (octets : Octets) : Option (List Octets) := linesFrom? [] octets

/-- Reads lines after `line`, the part of a line that came before, up to an empty one. The
result is the lines and the octets after the empty one. -/
def untilEmptyFrom? (line : Octets) : Octets → Option (List Octets × Octets)
  | 13 :: 10 :: rest =>
    if line = [] then some ([], rest)
    else (untilEmptyFrom? [] rest).map fun (lines, body) => (line :: lines, body)
  | b :: rest => if b = cr ∨ b = lf then none else untilEmptyFrom? (line ++ [b]) rest
  | [] => none

/-- Reads lines up to an empty one. -/
def untilEmpty? (octets : Octets) : Option (List Octets × Octets) := untilEmptyFrom? [] octets

/-! ## Lines -/

theorem isLine_nil : IsLine [] := ⟨List.not_mem_nil, List.not_mem_nil⟩

theorem isLine_cons {b : UInt8} {line : Octets} :
    IsLine (b :: line) ↔ b ≠ cr ∧ b ≠ lf ∧ IsLine line := by
  simp only [IsLine, List.mem_cons, not_or]
  constructor
  · rintro ⟨⟨hcr, hcr'⟩, hlf, hlf'⟩
    exact ⟨Ne.symm hcr, Ne.symm hlf, hcr', hlf'⟩
  · rintro ⟨hcr, hlf, hcr', hlf'⟩
    exact ⟨⟨hcr.symm, hcr'⟩, hlf.symm, hlf'⟩

theorem isLine_append {a b : Octets} : IsLine (a ++ b) ↔ IsLine a ∧ IsLine b := by
  simp only [IsLine, List.mem_append, not_or]
  constructor
  · rintro ⟨⟨ha, hb⟩, ha', hb'⟩
    exact ⟨⟨ha, ha'⟩, hb, hb'⟩
  · rintro ⟨⟨ha, ha'⟩, hb, hb'⟩
    exact ⟨⟨ha, hb⟩, ha', hb'⟩

@[simp] theorem unlines_nil : unlines [] = [] := rfl

theorem unlines_cons (line : Octets) (lines : List Octets) :
    unlines (line :: lines) = line ++ crlf ++ unlines lines := rfl

theorem unlines_append (a b : List Octets) : unlines (a ++ b) = unlines a ++ unlines b :=
  List.flatMap_append

theorem unlines_eq_nil_iff {lines : List Octets} : unlines lines = [] ↔ lines = [] := by
  cases lines with
  | nil => simp
  | cons line lines => simp [unlines_cons]

/-! ## Reading -/

theorem linesFrom?_line (current : Octets) {line : Octets} (hline : IsLine line) (rest : Octets) :
    linesFrom? current (line ++ crlf ++ rest) =
      (linesFrom? [] rest).map (fun lines => (current ++ line) :: lines) := by
  induction line generalizing current with
  | nil => simp [linesFrom?]
  | cons b line ih =>
    obtain ⟨hcr, hlf, hline⟩ := isLine_cons.1 hline
    have hstep : linesFrom? current (b :: (line ++ crlf ++ rest)) =
        linesFrom? (current ++ [b]) (line ++ crlf ++ rest) := by
      rw [linesFrom?, if_neg (by simp [hcr, hlf])]
      intro more hb
      exact absurd hb hcr
    rw [List.cons_append, List.cons_append, hstep, ih _ hline]
    simp

theorem lines?_unlines {lines : List Octets} (h : ∀ line ∈ lines, IsLine line) :
    lines? (unlines lines) = some lines := by
  induction lines with
  | nil => rfl
  | cons line lines ih =>
    have hrest := ih fun l hl => h l (List.mem_cons_of_mem line hl)
    rw [lines?] at hrest
    rw [lines?, unlines_cons, linesFrom?_line _ (h line List.mem_cons_self), hrest]
    rfl

theorem untilEmptyFrom?_line (current : Octets) {line : Octets} (hline : IsLine line)
    (hne : current ++ line ≠ []) (rest : Octets) :
    untilEmptyFrom? current (line ++ crlf ++ rest) =
      (untilEmptyFrom? [] rest).map (fun (lines, body) => ((current ++ line) :: lines, body)) := by
  induction line generalizing current with
  | nil =>
    have hcurrent : current ≠ [] := by simpa using hne
    simp [untilEmptyFrom?, hcurrent]
  | cons b line ih =>
    obtain ⟨hcr, hlf, hline⟩ := isLine_cons.1 hline
    have hstep : untilEmptyFrom? current (b :: (line ++ crlf ++ rest)) =
        untilEmptyFrom? (current ++ [b]) (line ++ crlf ++ rest) := by
      rw [untilEmptyFrom?, if_neg (by simp [hcr, hlf])]
      intro more hb
      exact absurd hb hcr
    rw [List.cons_append, List.cons_append, hstep, ih _ hline (by simp)]
    simp

/-- Lines before an empty one are read back, and so is what comes after it. -/
theorem untilEmpty?_unlines {lines : List Octets} (h : ∀ line ∈ lines, IsLine line ∧ line ≠ [])
    (body : Octets) : untilEmpty? (unlines lines ++ crlf ++ body) = some (lines, body) := by
  induction lines with
  | nil => rfl
  | cons line lines ih =>
    obtain ⟨hline, hne⟩ := h line List.mem_cons_self
    have hrest := ih fun l hl => h l (List.mem_cons_of_mem line hl)
    rw [untilEmpty?, List.append_assoc] at hrest
    rw [untilEmpty?, unlines_cons, List.append_assoc, List.append_assoc (line ++ crlf),
      untilEmptyFrom?_line _ hline (by simpa using hne), hrest]
    rfl

theorem isLine_of_untilEmptyFrom? {current octets : Octets} (hcurrent : IsLine current)
    {lines : List Octets} {body : Octets}
    (h : untilEmptyFrom? current octets = some (lines, body)) : ∀ line ∈ lines, IsLine line := by
  -- By induction on the octets, with the line that is being read on the way.
  induction current, octets using untilEmptyFrom?.induct generalizing lines with
  | case1 rest =>
    rw [untilEmptyFrom?, if_pos rfl] at h
    cases h
    exact fun _ hline => absurd hline List.not_mem_nil
  | case2 current rest hne ih =>
    rw [untilEmptyFrom?, if_neg hne] at h
    obtain ⟨⟨more, body'⟩, hmore, heq⟩ := Option.map_eq_some_iff.1 h
    cases heq
    intro line hline
    rcases List.mem_cons.1 hline with rfl | hline
    · exact hcurrent
    · exact ih isLine_nil hmore line hline
  | case3 current b rest hpair hbreak =>
    rw [untilEmptyFrom?, if_pos hbreak] at h
    · cases h
    · exact hpair
  | case4 current b rest hpair hbreak ih =>
    rw [untilEmptyFrom?, if_neg hbreak] at h
    · rw [not_or] at hbreak
      exact ih (isLine_append.2 ⟨hcurrent, isLine_cons.2 ⟨hbreak.1, hbreak.2, isLine_nil⟩⟩) h
    · exact hpair
  | case5 current => cases h

/-- What is read before an empty line are lines. -/
theorem isLine_of_untilEmpty? {octets : Octets} {lines : List Octets} {body : Octets}
    (h : untilEmpty? octets = some (lines, body)) : ∀ line ∈ lines, IsLine line :=
  isLine_of_untilEmptyFrom? isLine_nil h

/-! ## Octets made of lines -/

/-- Octets are lines with a property. -/
def OfLines (P : Octets → Prop) (octets : Octets) : Prop :=
  ∃ lines, octets = unlines lines ∧ ∀ line ∈ lines, P line

namespace OfLines

variable {P Q : Octets → Prop}

theorem nil : OfLines P [] := ⟨[], rfl, by simp⟩

theorem line {line : Octets} (h : P line) : OfLines P (line ++ crlf) :=
  ⟨[line], by simp [unlines], by simpa using h⟩

theorem append {a b : Octets} (ha : OfLines P a) (hb : OfLines P b) : OfLines P (a ++ b) := by
  obtain ⟨as, rfl, has⟩ := ha
  obtain ⟨bs, rfl, hbs⟩ := hb
  refine ⟨as ++ bs, (unlines_append as bs).symm, fun l hl => ?_⟩
  rcases List.mem_append.1 hl with h | h
  · exact has l h
  · exact hbs l h

theorem flatMap {α : Type} {xs : List α} {f : α → Octets} (h : ∀ x ∈ xs, OfLines P (f x)) :
    OfLines P (xs.flatMap f) := by
  induction xs with
  | nil => exact nil
  | cons x xs ih =>
    rw [List.flatMap_cons]
    exact (h x List.mem_cons_self).append (ih fun y hy => h y (List.mem_cons_of_mem x hy))

theorem mono (hPQ : ∀ line, P line → Q line) {octets : Octets} (h : OfLines P octets) :
    OfLines Q octets := by
  obtain ⟨lines, rfl, hlines⟩ := h
  exact ⟨lines, rfl, fun l hl => hPQ l (hlines l hl)⟩

end OfLines

/-! ## Line ends -/

theorem cr_ne_lf : cr ≠ lf := by decide

/-- A line feed stands after every carriage return, and nowhere else. -/
structure Paired (octets : Octets) : Prop where
  first : octets[0]? ≠ some lf
  pair : ∀ i, octets[i]? = some cr ↔ octets[i + 1]? = some lf

theorem Paired.nil : Paired [] := by
  constructor
  · simp
  · simp

theorem Paired.cons {b : UInt8} (hcr : b ≠ cr) (hlf : b ≠ lf) {octets : Octets}
    (h : Paired octets) : Paired (b :: octets) := by
  constructor
  · simpa using hlf
  · intro i
    cases i with
    | zero => simp [hcr, h.first]
    | succ i => simpa using h.pair i

theorem Paired.crlf {octets : Octets} (h : Paired octets) : Paired (crlf ++ octets) := by
  constructor
  · simp [cr_ne_lf]
  · intro i
    -- The two octets of the line end, and what comes after them.
    rcases i with _ | _ | i
    · simp
    · simp [h.first, cr_ne_lf.symm]
    · simpa using h.pair i

theorem Paired.line {line : Octets} (hline : IsLine line) {octets : Octets} (h : Paired octets) :
    Paired (line ++ Octets.crlf ++ octets) := by
  induction line with
  | nil => exact h.crlf
  | cons b line ih =>
    rw [isLine_cons] at hline
    rcases hline with ⟨hcr, hlf, hrest⟩
    exact (ih hrest).cons hcr hlf

theorem paired_of_isLine {line : Octets} (h : IsLine line) : Paired line := by
  induction line with
  | nil => exact .nil
  | cons b line ih =>
    rw [isLine_cons] at h
    rcases h with ⟨hcr, hlf, hrest⟩
    exact (ih hrest).cons hcr hlf

theorem paired_unlines {lines : List Octets} (h : ∀ line ∈ lines, IsLine line) {last : Octets}
    (hlast : IsLine last) : Paired (unlines lines ++ last) := by
  induction lines with
  | nil => exact paired_of_isLine hlast
  | cons line lines ih =>
    rw [unlines_cons, List.append_assoc]
    apply Paired.line
    · exact h line List.mem_cons_self
    · apply ih
      intro l hl
      exact h l (List.mem_cons_of_mem line hl)

theorem paired_of_ofLines {octets : Octets} (h : OfLines IsLine octets) : Paired octets := by
  rcases h with ⟨lines, rfl, hlines⟩
  have hpaired := paired_unlines hlines isLine_nil
  rwa [List.append_nil] at hpaired

theorem Paired.of_cons {b : UInt8} {octets : Octets} (h : Paired (b :: octets)) (hb : b ≠ cr) :
    b ≠ lf ∧ Paired octets := by
  refine ⟨by simpa using h.first, ?_, fun i => by simpa using h.pair (i + 1)⟩
  have hpair := h.pair 0
  simp only [List.getElem?_cons_zero, List.getElem?_cons_succ, Option.some.injEq] at hpair
  exact fun hfirst => hb (hpair.2 hfirst)

theorem Paired.of_crlf {octets : Octets} (h : Paired (cr :: lf :: octets)) : Paired octets := by
  refine ⟨?_, fun i => by simpa using h.pair (i + 2)⟩
  have hpair := h.pair 1
  simp only [List.getElem?_cons_zero, List.getElem?_cons_succ, Option.some.injEq] at hpair
  exact fun hfirst => cr_ne_lf (hpair.2 hfirst).symm

/-! ## Cutting -/

/-- No piece holds what the pieces are cut at. -/
theorem notMem_of_mem_splitOn {α : Type} [BEq α] [LawfulBEq α] {a : α} {xs piece : List α}
    (h : piece ∈ xs.splitOn a) : a ∉ piece := by
  induction xs generalizing piece with
  | nil =>
    rw [List.splitOn_nil] at h
    rw [List.mem_singleton.1 h]
    exact List.not_mem_nil
  | cons x xs ih =>
    obtain ⟨first, rest, hrest⟩ := List.exists_cons_of_ne_nil (List.splitOn_ne_nil a xs)
    rw [List.splitOn_cons_eq_if_modifyHead, hrest, List.modifyHead_cons] at h
    rw [hrest] at ih
    split at h
    · rcases List.mem_cons.1 h with rfl | h
      · exact List.not_mem_nil
      · exact ih h
    · rename_i hx
      rcases List.mem_cons.1 h with rfl | h
      · rw [List.mem_cons, not_or]
        constructor
        · rintro rfl
          exact hx (beq_self_eq_true a)
        · exact ih List.mem_cons_self
      · exact ih (List.mem_cons_of_mem first h)

/-- Cuts octets at every line end. The last piece is what comes after the last line end. -/
def crlfLines : Octets → List Octets
  | 13 :: 10 :: rest => [] :: crlfLines rest
  | b :: rest => (crlfLines rest).modifyHead (b :: ·)
  | [] => [[]]

theorem crlfLines_line {line : Octets} (h : IsLine line) (rest : Octets) :
    crlfLines (line ++ crlf ++ rest) = line :: crlfLines rest := by
  induction line with
  | nil => rfl
  | cons b line ih =>
    obtain ⟨hcr, hlf, hline⟩ := isLine_cons.1 h
    rw [List.cons_append, List.cons_append, crlfLines, ih hline]
    · rfl
    · intro more hb
      exact absurd hb hcr

theorem crlfLines_last {line : Octets} (h : IsLine line) : crlfLines line = [line] := by
  induction line with
  | nil => rfl
  | cons b line ih =>
    obtain ⟨hcr, hlf, hline⟩ := isLine_cons.1 h
    rw [crlfLines, ih hline]
    · rfl
    · intro more hb
      exact absurd hb hcr

theorem crlfLines_unlines {lines : List Octets} (h : ∀ line ∈ lines, IsLine line) {last : Octets}
    (hlast : IsLine last) : crlfLines (unlines lines ++ last) = lines ++ [last] := by
  induction lines with
  | nil => exact crlfLines_last hlast
  | cons line lines ih =>
    rw [unlines_cons, List.append_assoc, crlfLines_line (h line List.mem_cons_self),
      ih fun l hl => h l (List.mem_cons_of_mem line hl)]
    rfl

/-- Where no carriage return and no line feed stands alone, octets are lines and the beginning of
one more. -/
theorem Paired.exists_lines {octets : Octets} (h : Paired octets) :
    ∃ lines last, octets = unlines lines ++ last ∧ (∀ line ∈ lines, IsLine line) ∧
      IsLine last := by
  induction octets using crlfLines.induct with
  | case1 rest ih =>
    obtain ⟨lines, last, rfl, hlines, hlast⟩ := ih h.of_crlf
    refine ⟨[] :: lines, last, rfl, ?_, hlast⟩
    intro line hline
    rcases List.mem_cons.1 hline with rfl | hline
    · exact isLine_nil
    · exact hlines line hline
  | case2 b rest hend ih =>
    have hb : b ≠ cr := by
      rintro rfl
      have hfeed : rest[0]? = some lf := by simpa using h.pair 0
      cases rest with
      | nil => cases hfeed
      | cons d more =>
        obtain rfl : d = lf := by simpa using hfeed
        exact hend more rfl rfl
    obtain ⟨hlf, hrest⟩ := h.of_cons hb
    obtain ⟨lines, last, rfl, hlines, hlast⟩ := ih hrest
    -- The octet belongs to the first line, which may be the one that is only begun.
    cases lines with
    | nil => exact ⟨[], b :: last, rfl, hlines, isLine_cons.2 ⟨hb, hlf, hlast⟩⟩
    | cons line lines =>
      refine ⟨(b :: line) :: lines, last, rfl, ?_, hlast⟩
      intro l hl
      rcases List.mem_cons.1 hl with rfl | hl
      · exact isLine_cons.2 ⟨hb, hlf, hlines line List.mem_cons_self⟩
      · exact hlines l (List.mem_cons_of_mem line hl)
  | case3 => exact ⟨[], [], rfl, by simp, isLine_nil⟩

end Outbox.Octets
