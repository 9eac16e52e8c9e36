import Outbox.Proofs.Dkim.RelaxedLines

/-!
# Outbox.Proofs.Dkim.CanonicalBody — the body that a verifier hashes

RFC 6376 section 3.4.4 makes the canonical body from the lines of a body: blanks at the end of a
line are ignored, runs of blanks within it are reduced to one space, and then empty lines at the
end of the body are ignored. `canonicalBody` is that, for a body with whole line ends, and leaves
nothing of a body in which there is nothing but blanks. `relaxedBody_canonical` says that the
relaxed form is the same, but for such a body: of that it makes a single line end.
-/

namespace Outbox.Dkim

open Octets

/-! ## The canonical body of the RFC -/

/-- A line with one space in place of every run of blanks: the last blank of a run becomes the
space, and those before it are dropped. -/
def oneSpace : Octets → Octets
  | [] => []
  | b :: rest =>
    if isBlankOctet b then
      if rest.head?.any isBlankOctet then oneSpace rest else space :: oneSpace rest
    else b :: oneSpace rest

/-- A line without blanks at its end and with one space in place of every other run of them. -/
def reduceBlanks (line : Octets) : Octets := oneSpace (line.rdropWhile isBlankOctet)

/-- The relaxed form of a body in RFC 6376 section 3.4.4. A line end is added to a last line that
has none, unless that line is empty and so ignored. -/
def canonicalBody (body : Octets) : Octets :=
  unlines (((crlfLines body).map reduceBlanks).rdropWhile List.isEmpty)

/-! ## Lines -/

/-- It does not matter which blank of a run is the one that stays. -/
theorem oneSpace_eq_squeeze (line : Octets) :
    oneSpace line = squeeze isBlankOctet space false line := by
  induction line with
  | nil => rfl
  | cons b rest ih =>
    cases hb : isBlankOctet b with
    | false => rw [oneSpace, if_neg (by simp [hb]), ih, squeeze_other hb]
    | true =>
      rw [oneSpace, if_pos hb, squeeze_blank hb]
      -- The one that stays is the last on one side and the first on the other.
      cases rest with
      | nil => rfl
      | cons c more =>
        cases hc : isBlankOctet c with
        | true => simp [ih, squeeze_blank hc, hc]
        | false => simp [ih, squeeze_other hc, hc]

theorem reduceBlanks_eq_relaxedText : reduceBlanks = relaxedText := by
  funext line
  rw [reduceBlanks, oneSpace_eq_squeeze]
  rfl

/-- Nothing is left of a line if there are only blanks in it. -/
theorem relaxedText_eq_nil_iff {text : Octets} : relaxedText text = [] ↔ IsBlanks text := by
  rw [relaxedText, squeeze_eq_nil_iff, List.rdropWhile_eq_nil_iff]
  rfl

/-! ## Bodies -/

/-- The lines of the relaxed form are those of the canonical body before the empty ones at the end
are dropped. -/
theorem relaxedLines_eq_reduceBlanks {body : Octets} (h : Paired body) :
    relaxedLines body = (crlfLines body).map reduceBlanks := by
  obtain ⟨lines, last, rfl, hlines, hlast⟩ := h.exists_lines
  have hend : last.getLast? ≠ some cr := fun hcr => hlast.1 (List.mem_of_getLast? hcr)
  rw [relaxedLines_unlines (fun line hline => (hlines line hline).2) hlast.2 hend,
    crlfLines_unlines hlines hlast, reduceBlanks_eq_relaxedText]

/-- The relaxed form of a body with whole line ends is the canonical body of the RFC, unless there
are only blanks in the body. The canonical body is empty then, and the relaxed form a single line
end. -/
theorem relaxedBody_canonical (body : Octets) (h : Paired body) :
    relaxedBody body = (if canonicalBody body = [] then crlf else canonicalBody body) ∧
      (canonicalBody body = [] ↔ ∀ line ∈ crlfLines body, IsBlanks line) := by
  constructor
  · rw [relaxedBody_eq, relaxedLines_eq_reduceBlanks h, dropEmptyEnd_eq, canonicalBody]
    simp only [unlines_eq_nil_iff]
    split
    case isTrue => rfl
    case isFalse => rfl
  · rw [canonicalBody, unlines_eq_nil_iff, List.rdropWhile_eq_nil_iff, List.forall_mem_map]
    simp only [List.isEmpty_iff, reduceBlanks_eq_relaxedText, relaxedText_eq_nil_iff]

/-- Two lines with blanks, an empty one, and a last one of blanks only that has no line end. -/
def letterLines : List Octets := [ofString " C ", ofString "D \t E", []]

theorem relaxedBody_canonical_letter :
    Paired (unlines letterLines ++ [space, tab]) ∧
      relaxedBody (unlines letterLines ++ [space, tab]) =
        canonicalBody (unlines letterLines ++ [space, tab]) ∧
      canonicalBody (unlines letterLines ++ [space, tab]) = ofString " C\r\nD E\r\n" := by
  have hpaired : Paired (unlines letterLines ++ [space, tab]) := by
    apply paired_unlines
    · unfold IsLine
      decide
    · unfold IsLine
      decide
  have hcanonical : canonicalBody (unlines letterLines ++ [space, tab]) =
      ofString " C\r\nD E\r\n" := by decide
  have hrelaxed := (relaxedBody_canonical _ hpaired).1
  rw [if_neg (by rw [hcanonical]; decide)] at hrelaxed
  exact ⟨hpaired, hrelaxed, hcanonical⟩

/-- Of an empty body the canonical body is empty, and the relaxed form is a line end. -/
theorem relaxedBody_empty_not_canonical :
    Paired [] ∧ canonicalBody [] = [] ∧ relaxedBody [] = crlf ∧
      relaxedBody [] ≠ canonicalBody [] := by
  have hcanonical : canonicalBody [] = [] := by decide
  have hrelaxed : relaxedBody [] = crlf := by decide
  refine ⟨Paired.nil, hcanonical, hrelaxed, ?_⟩
  rw [hcanonical, hrelaxed]
  exact List.cons_ne_nil cr [lf]

end Outbox.Dkim
