import Mathlib.Logic.Relation
import Outbox.Proofs.Dkim.RelaxedLines

/-!
# Outbox.Proofs.Dkim.Transport — what a transport may change in a body

On its way a body may get other line ends and other blanks, and lines of blanks after its end.
`Altered` is one such change, and a transport makes any number of them.

* `relaxedBody_altered` — the relaxed form is the same after a change.
* `relaxedBody_relaxedBody` — it is its own relaxed form.
* `isRelaxedLine_relaxedText` — its lines hold no tab, no two spaces side by side and no space at
  the end.
* `relaxedBody_absorbs` — all of this for any number of changes.
-/

namespace Outbox.Dkim

open Octets

/-! ## The lines of the relaxed form -/

/-- A line that is left as it is. -/
structure IsRelaxedLine (line : Octets) : Prop where
  noFeed : lf ∉ line
  noTab : tab ∉ line
  single : ¬ [space, space] <:+: line
  trimmed : line.getLast? ≠ some space

theorem isRelaxedLine_relaxedText {text : Octets} (h : lf ∉ text) :
    IsRelaxedLine (relaxedText text) := by
  constructor
  · intro hfeed
    rcases mem_squeeze hfeed with hspace | hmem
    · exact absurd hspace (by decide)
    · exact h ((List.rdropWhile_prefix _ _).subset hmem)
  · intro htab
    exact absurd (eq_space_of_mem_squeeze htab (by decide)) (by decide)
  · exact not_spaces_squeeze isBlankOctet_space false _
  · rw [relaxedText_eq_rdropWhile]
    intro hlast
    have hne : (squeeze isBlankOctet space false text).rdropWhile isBlankOctet ≠ [] := by
      intro hnil
      rw [hnil] at hlast
      cases hlast
    have hother := List.rdropWhile_last_not _ _ hne
    rw [List.getLast?_eq_some_getLast hne] at hlast
    rw [Option.some.inj hlast] at hother
    exact hother isBlankOctet_space

theorem lf_notMem_dropLastIf {line : Octets} (h : lf ∉ line) (b : UInt8) :
    lf ∉ dropLastIf b line := by
  rw [dropLastIf]
  split
  · exact fun hmem => h ((List.dropLast_sublist line).subset hmem)
  · exact h

/-- A line that is left is the relaxed form of a text, if only of an empty one. -/
theorem exists_relaxedText_of_mem {body line : Octets}
    (h : line ∈ dropEmptyEnd (relaxedLines body)) :
    ∃ text, lf ∉ text ∧ line = relaxedText text := by
  rcases eq_nil_or_mem_of_mem_dropEmptyEnd h with rfl | hmem
  · exact ⟨[], List.not_mem_nil, rfl⟩
  · obtain ⟨before, hbefore, rfl⟩ := List.mem_map.1 hmem
    exact ⟨dropLastIf cr before,
      lf_notMem_dropLastIf (lf_notMem_of_mem_splitLines hbefore) cr, relaxedLine_eq before⟩

theorem isRelaxedLine_of_mem {body line : Octets} (h : line ∈ dropEmptyEnd (relaxedLines body)) :
    IsRelaxedLine line := by
  obtain ⟨text, htext, rfl⟩ := exists_relaxedText_of_mem h
  exact isRelaxedLine_relaxedText htext

/-- The relaxed form is its own relaxed form. -/
theorem relaxedBody_relaxedBody (body : Octets) :
    relaxedBody (relaxedBody body) = relaxedBody body := by
  have hlines : relaxedLines (unlines (dropEmptyEnd (relaxedLines body))) =
      dropEmptyEnd (relaxedLines body) ++ [[]] := by
    have hfeed : ∀ line ∈ dropEmptyEnd (relaxedLines body), lf ∉ line :=
      fun line hline => (isRelaxedLine_of_mem hline).noFeed
    have hself : ∀ line ∈ dropEmptyEnd (relaxedLines body), relaxedText line = line := by
      intro line hline
      obtain ⟨text, -, rfl⟩ := exists_relaxedText_of_mem hline
      exact relaxedText_relaxedText text
    have hunlines := relaxedLines_unlines hfeed List.not_mem_nil (by simp)
    rw [List.append_nil, List.map_append, List.map_congr_left hself, List.map_id'] at hunlines
    exact hunlines
  rw [relaxedBody_eq, relaxedBody_eq, hlines, dropEmptyEnd_concat, dropEmptyEnd_dropEmptyEnd]

/-! ## Changes -/

/-- The end of a line, with or without a carriage return. -/
def IsLineEnd (eol : Octets) : Prop := eol = [lf] ∨ eol = crlf

/-- One change to a body. What comes before a line end does not end with a carriage return itself,
which in a body without carriage returns is always so. -/
inductive Altered : Octets → Octets → Prop
  /-- A line feed gets a carriage return. -/
  | lineFeed {a : Octets} (ha : a.getLast? ≠ some cr) (c : Octets) :
      Altered (a ++ lf :: c) (a ++ (crlf ++ c))
  /-- Blanks are added before a line end. -/
  | padded {a blanks eol : Octets} (ha : a.getLast? ≠ some cr) (hblanks : IsBlanks blanks)
      (heol : IsLineEnd eol) (c : Octets) :
      Altered (a ++ (eol ++ c)) (a ++ (blanks ++ (eol ++ c)))
  /-- A run of blanks becomes another one. -/
  | respaced {run run' : Octets} (hrun : IsBlanks run) (hrun' : IsBlanks run') (hne : run ≠ [])
      (hne' : run' ≠ []) (a c : Octets) : Altered (a ++ (run ++ c)) (a ++ (run' ++ c))
  /-- An empty line or a line of blanks is added, of which the line end may be missing. -/
  | appended {a blanks eol : Octets} (ha : a.getLast? ≠ some cr) (hblanks : IsBlanks blanks)
      (heol : eol = [] ∨ IsLineEnd eol) :
      Altered a (a ++ (blanks ++ eol))

/-- A line end cuts off what comes before it, along with the blanks there. -/
theorem relaxedLines_lineEnd {a blanks eol : Octets} (ha : a.getLast? ≠ some cr)
    (hblanks : IsBlanks blanks) (heol : IsLineEnd eol) (c : Octets) :
    relaxedLines (a ++ (blanks ++ (eol ++ c))) = relaxedLines a ++ relaxedLines c := by
  rcases heol with rfl | rfl
  · have hsplit : a ++ (blanks ++ ([lf] ++ c)) = (a ++ blanks) ++ lf :: c := by simp
    rw [hsplit, relaxedLines_append_lf, (relaxedLines_append_end ha hblanks).1]
  · have hsplit : a ++ (blanks ++ (crlf ++ c)) = (a ++ (blanks ++ [cr])) ++ lf :: c := by simp
    rw [hsplit, relaxedLines_append_lf, (relaxedLines_append_end ha hblanks).2]

/-- A change leaves the relaxed form as it is. -/
theorem relaxedBody_altered {body body' : Octets} (h : Altered body body') :
    relaxedBody body' = relaxedBody body := by
  rw [relaxedBody_eq, relaxedBody_eq]
  cases h with
  | @lineFeed a ha c =>
    have hbefore := relaxedLines_append_lf a c
    have hafter := relaxedLines_lineEnd ha IsBlanks.nil (Or.inr rfl) c
    rw [List.nil_append] at hafter
    rw [hbefore, hafter]
  | @padded a blanks eol ha hblanks heol c =>
    have hbefore := relaxedLines_lineEnd ha IsBlanks.nil heol c
    rw [List.nil_append] at hbefore
    rw [hbefore, relaxedLines_lineEnd ha hblanks heol c]
  | respaced hrun hrun' hne hne' a c => rw [relaxedLines_run hrun hrun' hne hne' a c]
  | appended ha hblanks heol =>
    rcases heol with rfl | heol
    · rw [List.append_nil, (relaxedLines_append_end ha hblanks).1]
    · have hempty : relaxedLines [] = [[]] := rfl
      have hafter := relaxedLines_lineEnd ha hblanks heol []
      rw [List.append_nil, hempty] at hafter
      rw [hafter, dropEmptyEnd_concat]

/-- Whatever a transport changes, the relaxed form of a body stays the same. It is its own relaxed
form, and it is made of relaxed lines, the last of which is not empty, or is a single line end. -/
theorem relaxedBody_absorbs (body : Octets) :
    relaxedBody (relaxedBody body) = relaxedBody body ∧
      (∃ lines, relaxedBody body = unlines lines ∧ (∀ line ∈ lines, IsRelaxedLine line) ∧
        (relaxedBody body = crlf ∨ ∃ last, lines.getLast? = some last ∧ last ≠ [])) ∧
      ∀ body', Relation.ReflTransGen Altered body body' → relaxedBody body' = relaxedBody body := by
  refine ⟨relaxedBody_relaxedBody body, ?_, ?_⟩
  · refine ⟨dropEmptyEnd (relaxedLines body), relaxedBody_eq body,
      fun line => isRelaxedLine_of_mem, ?_⟩
    rcases dropEmptyEnd_cases (relaxedLines body) with hempty | hlast
    · refine Or.inl ?_
      rw [relaxedBody_eq, hempty]
      rfl
    · exact Or.inr hlast
  · intro body' h
    -- By induction on the changes, of which each leaves the relaxed form as it is.
    induction h with
    | refl => rfl
    | tail _ hstep ih => rw [relaxedBody_altered hstep, ih]

/-- A line of two words, changed in each of the four ways. -/
theorem relaxedBody_absorbs_words :
    Relation.ReflTransGen Altered [97, space, 98, lf] [97, tab, space, 98, tab, cr, lf, space, lf] ∧
      relaxedBody [97, tab, space, 98, tab, cr, lf, space, lf] = [97, space, 98, cr, lf] := by
  have hblank : IsBlanks [space] := by decide
  have htab : IsBlanks [tab] := by decide
  have hrun : IsBlanks [tab, space] := by decide
  have hchanges : Relation.ReflTransGen Altered [97, space, 98, lf]
      [97, tab, space, 98, tab, cr, lf, space, lf] :=
    calc
      Relation.ReflTransGen Altered [97, space, 98, lf] [97, space, 98, cr, lf] :=
        .single (.lineFeed (a := [97, space, 98]) (by decide) [])
      Relation.ReflTransGen Altered _ [97, space, 98, tab, cr, lf] :=
        .single (.padded (a := [97, space, 98]) (by decide) htab (Or.inr rfl) [])
      Relation.ReflTransGen Altered _ [97, tab, space, 98, tab, cr, lf] :=
        .single (.respaced hblank hrun (by decide) (by decide) [97] [98, tab, cr, lf])
      Relation.ReflTransGen Altered _ [97, tab, space, 98, tab, cr, lf, space, lf] :=
        .single (.appended (by decide) hblank (Or.inr (Or.inl rfl)))
  refine ⟨hchanges, ?_⟩
  rw [(relaxedBody_absorbs _).2.2 _ hchanges]
  decide

end Outbox.Dkim
