import Mathlib.Data.List.Induction
import Outbox.Mime.Base64Lines
import Outbox.Proofs.Base64
import Outbox.Proofs.Text.Lines

/-!
# Outbox.Proofs.Mime.Base64Lines — attachments in lines

The octets of a line are encoded on their own. A line that is not the last one takes whole groups
and fills the width, so the lines are those of the base64 of the whole attachment.

* `IsWrapped` — a whole in lines of one width.
* `exists_wrapped` — an attachment is written in lines of 76 symbols.
* `base64Lines_whole` — which symbols they are, where the padding is, and how it is read.
-/

namespace Outbox.Mime

open Octets

/-- A whole in lines of one width, of which the last may be shorter. -/
structure IsWrapped (width : Nat) (whole : Octets) (lines : List Octets) : Prop where
  joined : lines.flatten = whole
  full : ∀ line ∈ lines.dropLast, line.length = width
  last : ∀ line ∈ lines.getLast?, 0 < line.length ∧ line.length ≤ width

/-- Takes out the line ends. -/
def withoutLineEnds : Octets → Octets
  | 13 :: 10 :: rest => withoutLineEnds rest
  | b :: rest => b :: withoutLineEnds rest
  | [] => []

/-! ## Lines of one width -/

namespace IsWrapped

variable {width : Nat} {whole line : Octets} {lines : List Octets}

theorem nil (width : Nat) : IsWrapped width [] [] := ⟨rfl, nofun, nofun⟩

theorem single (hpos : 0 < line.length) (hle : line.length ≤ width) :
    IsWrapped width line [line] := by
  refine ⟨List.flatten_singleton, nofun, ?_⟩
  rintro _ ⟨⟩
  exact ⟨hpos, hle⟩

theorem cons (hpos : 0 < width) (hline : line.length = width)
    (h : IsWrapped width whole lines) : IsWrapped width (line ++ whole) (line :: lines) := by
  cases lines with
  | nil =>
    obtain rfl : [] = whole := h.joined
    rw [List.append_nil]
    exact single (hline ▸ hpos) (Nat.le_of_eq hline)
  | cons next more =>
    refine ⟨?_, ?_, ?_⟩
    · rw [List.flatten_cons, h.joined]
    · rw [List.dropLast_cons_of_ne_nil (List.cons_ne_nil next more)]
      exact List.forall_mem_cons.2 ⟨hline, h.full⟩
    · rw [List.getLast?_cons_cons]
      exact h.last

theorem length_of_mem (hpos : 0 < width) (h : IsWrapped width whole lines) :
    ∀ line ∈ lines, 0 < line.length ∧ line.length ≤ width := by
  intro line hmem
  cases lines using List.reverseRecOn with
  | nil => exact absurd hmem List.not_mem_nil
  | append_singleton before last =>
    rcases List.mem_append.1 hmem with hbefore | hlast
    · have hfull := h.full line (by rwa [List.dropLast_concat])
      exact ⟨hfull ▸ hpos, Nat.le_of_eq hfull⟩
    · rw [List.mem_singleton.1 hlast]
      exact h.last last List.getLast?_concat

end IsWrapped

/-! ## The lines of an attachment -/

/-- An attachment is written in lines of 76 symbols. -/
theorem exists_wrapped (content : Octets) :
    ∃ lines, base64Lines content = unlines lines ∧
      IsWrapped 76 (Base64.encode content) lines := by
  induction content using base64Lines.induct with
  | case1 content hempty =>
    obtain rfl : content = [] := List.isEmpty_iff.1 hempty
    refine ⟨[], ?_, IsWrapped.nil 76⟩
    rw [base64Lines, if_pos hempty]
    rfl
  | case2 content hne ih =>
    obtain ⟨lines, hlines, hwrapped⟩ := ih
    refine ⟨Base64.encode (content.take lineOctets) :: lines, ?_, ?_⟩
    · rw [base64Lines, if_neg hne, hlines, unlines_cons]
    · have hlength := Base64.length_encode (content.take lineOctets)
      by_cases hlong : lineOctets ≤ content.length
      · -- A full line takes whole groups.
        rw [List.length_take, Nat.min_eq_left hlong] at hlength
        have hgroups : (content.take lineOctets).length % 3 = 0 := by
          rw [List.length_take, Nat.min_eq_left hlong]
          rfl
        have hwhole := Base64.encode_append hgroups (content.drop lineOctets)
        rw [List.take_append_drop] at hwhole
        rw [hwhole]
        exact hwrapped.cons (by decide) hlength
      · -- A shorter one is the last.
        have hshort : content.length ≤ 57 := Nat.le_of_not_le hlong
        have hpos : content.length ≠ 0 := fun h => hne (by simpa using h)
        rw [List.drop_of_length_le hshort] at hwrapped
        obtain rfl : lines = [] := by
          cases lines with
          | nil => rfl
          | cons line more =>
            have hline := (hwrapped.length_of_mem (by decide) line List.mem_cons_self).1
            have hnil : line = [] := (List.append_eq_nil_iff.1 hwrapped.joined).1
            rw [hnil] at hline
            exact absurd hline (Nat.lt_irrefl 0)
        rw [List.take_of_length_le hshort] at hlength ⊢
        apply IsWrapped.single
        · omega
        · omega

theorem symbol_plain {s : UInt8} (h : Base64.IsSymbol s) : s ≠ cr ∧ s ≠ lf ∧ s ≠ 45 := by
  have hall : ∀ s, s = Base64.pad ∨ (Base64.value? s).isSome = true → s ≠ cr ∧ s ≠ lf ∧ s ≠ 45 :=
    Base64.forall_octet (by decide)
  exact hall s h

theorem isLine_of_symbols {line : Octets} (h : ∀ s ∈ line, Base64.IsSymbol s) : IsLine line :=
  ⟨fun hcr => (symbol_plain (h cr hcr)).1 rfl, fun hlf => (symbol_plain (h lf hlf)).2.1 rfl⟩

theorem IsWrapped.isSymbol {width : Nat} {content : Octets} {lines : List Octets}
    (h : IsWrapped width (Base64.encode content) lines) :
    ∀ line ∈ lines, ∀ s ∈ line, Base64.IsSymbol s := by
  intro line hline s hs
  have mem : s ∈ Base64.encode content := h.joined ▸ List.mem_flatten_of_mem hline hs
  exact Base64.isSymbol_of_mem_encode mem

/-- The lines of an attachment hold its base64. -/
theorem base64Lines_eq (content : Octets) :
    ∃ lines, base64Lines content = unlines lines ∧ lines.flatten = Base64.encode content ∧
      ∀ line ∈ lines, ∀ s ∈ line, Base64.IsSymbol s := by
  obtain ⟨lines, hlines, hwrapped⟩ := exists_wrapped content
  exact ⟨lines, hlines, hwrapped.joined, hwrapped.isSymbol⟩

/-! ## Reading -/

theorem withoutLineEnds_line {line : Octets} (hline : IsLine line) (rest : Octets) :
    withoutLineEnds (line ++ crlf ++ rest) = line ++ withoutLineEnds rest := by
  induction line with
  | nil => rfl
  | cons b line ih =>
    obtain ⟨hcr, -, hline⟩ := isLine_cons.1 hline
    have hstep : withoutLineEnds (b :: (line ++ crlf ++ rest)) =
        b :: withoutLineEnds (line ++ crlf ++ rest) := by
      rw [withoutLineEnds]
      intro more hb
      exact absurd hb hcr
    rw [List.cons_append, List.cons_append, hstep, ih hline, List.cons_append]

theorem withoutLineEnds_unlines {lines : List Octets} (h : ∀ line ∈ lines, IsLine line) :
    withoutLineEnds (unlines lines) = lines.flatten := by
  induction lines with
  | nil => rfl
  | cons line lines ih =>
    obtain ⟨hline, hlines⟩ := List.forall_mem_cons.1 h
    rw [unlines_cons, withoutLineEnds_line hline, ih hlines, List.flatten_cons]

/-- Lines that hold the base64 of a whole content. -/
structure HoldWhole (content : Octets) (lines : List Octets) : Prop where
  /-- They are the standard base64 of the content, cut every 76 characters. -/
  wrapped : IsWrapped 76 (ofChars (Base64.prescribed content)) lines
  /-- None of them is empty or too long. -/
  length : ∀ line ∈ lines, line ≠ [] ∧ line.length ≤ 76
  /-- Padding stands nowhere but after the last symbol of the last line. -/
  padded : ∃ symbols, Base64.pad ∉ symbols ∧
    lines.flatten = symbols ++ List.replicate ((3 - content.length % 3) % 3) Base64.pad
  /-- Without the line ends they are read as the content. -/
  readBack : Base64.decode (withoutLineEnds (unlines lines)) = some content

/-- An attachment is written line by line as it would be if its base64 were made at once. -/
theorem base64Lines_whole (content : Octets) :
    (base64Lines content = [] ↔ content = []) ∧
      ∃ lines, base64Lines content = unlines lines ∧ HoldWhole content lines := by
  obtain ⟨lines, hlines, hwrapped⟩ := exists_wrapped content
  have hlength := hwrapped.length_of_mem (by decide)
  have hisLine : ∀ line ∈ lines, IsLine line :=
    fun line hline => isLine_of_symbols (hwrapped.isSymbol line hline)
  constructor
  · rw [base64Lines]
    split
    case isTrue hempty => exact iff_of_true rfl (List.isEmpty_iff.1 hempty)
    case isFalse hne => exact iff_of_false (by simp) fun h => hne (by rw [h]; rfl)
  · refine ⟨lines, hlines, ?_, ?_, ?_, ?_⟩
    · rwa [← Base64.encodeText_eq_prescribed, Base64.ofChars_encodeText]
    · intro line hline
      exact ⟨List.length_pos_iff.1 (hlength line hline).1, (hlength line hline).2⟩
    · rw [hwrapped.joined]
      exact Base64.exists_encode_eq content
    · rw [withoutLineEnds_unlines hisLine, hwrapped.joined, Base64.decode_encode]

/-- The line is full, and what is left over has a line of its own. -/
example : base64Lines (List.replicate 58 0) =
    ofChars (List.replicate 76 'A') ++ crlf ++ ofChars ['A', 'A', '=', '='] ++ crlf := by
  cbv

end Outbox.Mime
