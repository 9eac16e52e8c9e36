import Mathlib.Data.Bool.AllAny
import Mathlib.Data.List.Basic
import Outbox.Mime.Payload
import Outbox.Proofs.Mime.Field

/-!
# Outbox.Proofs.Mime.Boundary — cutting a multipart body

A reader takes the boundary from the type of a multipart body (`boundaryOf?`) and cuts the
body at the lines of that boundary (`readParts?`).

* `boundary_injective`, `length_boundary` — boundaries with different numbers are different
  texts of one length, so no line of the one is a line of the other.
* `readParts?_flatMap` — parts that have no line of a boundary are cut where they were put
  together.
-/

namespace Outbox.Mime

open Octets

/-! ## Hexadecimal digits -/

/-- The lower case hexadecimal digits. -/
def hexAlphabet : List Char := "0123456789abcdef".toList

/-- The value of a digit. -/
def hexDigit (c : Char) : Nat := if c.isDigit then c.toNat - 48 else c.toNat - 87

/-- The number that digits spell, after the value of the digits before them. -/
def ofHexDigits (before : Nat) (digits : List Char) : Nat :=
  digits.foldl (fun n c => 16 * n + hexDigit c) before

theorem hexDigit_digitChar : ∀ n < 16, hexDigit n.digitChar = n ∧ n.digitChar ∈ hexAlphabet := by
  decide

theorem ofHexDigits_toDigits (n : Nat) : ofHexDigits 0 (Nat.toDigits 16 n) = n := by
  induction n using Nat.strongRecOn with
  | ind n ih =>
    rw [Nat.toDigits_eq_if (by decide)]
    split
    case isTrue hsmall => simpa [ofHexDigits] using (hexDigit_digitChar n hsmall).1
    case isFalse hlarge =>
      have hlast := (hexDigit_digitChar (n % 16) (Nat.mod_lt n (by decide))).1
      have hinit := ih (n / 16) (by omega)
      simp only [ofHexDigits, List.foldl_append, List.foldl_cons, List.foldl_nil] at hinit ⊢
      rw [hinit, hlast]
      omega

theorem mem_toDigits {n : Nat} {c : Char} (h : c ∈ Nat.toDigits 16 n) : c ∈ hexAlphabet := by
  induction n using Nat.strongRecOn with
  | ind n ih =>
    rw [Nat.toDigits_eq_if (by decide)] at h
    split at h
    case isTrue hsmall =>
      rw [List.mem_singleton.1 h]
      exact (hexDigit_digitChar n hsmall).2
    case isFalse hlarge =>
      rcases List.mem_append.1 h with h | h
      · exact ih (n / 16) (by omega) h
      · rw [List.mem_singleton.1 h]
        exact (hexDigit_digitChar (n % 16) (Nat.mod_lt n (by decide))).2

/-- Leading zeros do not count. -/
theorem ofHexDigits_hexDigits (width n : Nat) : ofHexDigits 0 (hexDigits width n) = n := by
  have hzeros : ∀ k, ofHexDigits 0 (List.replicate k '0') = 0 := by
    intro k
    induction k with
    | zero => rfl
    | succ k ih => exact ih
  have hdigits := ofHexDigits_toDigits n
  -- The zeros in front give the value that the digits start from.
  simp only [ofHexDigits] at hzeros hdigits
  rw [hexDigits, ofHexDigits, List.foldl_append, hzeros, hdigits]

theorem mem_hexDigits {width n : Nat} {c : Char} (h : c ∈ hexDigits width n) :
    c ∈ hexAlphabet := by
  rcases List.mem_append.1 h with h | h
  · rw [List.eq_of_mem_replicate h]
    decide
  · exact mem_toDigits h

theorem length_hexDigits {width n : Nat} (h : (Nat.toDigits 16 n).length ≤ width) :
    (hexDigits width n).length = width := by
  rw [hexDigits, List.length_append, List.length_replicate]
  omega

/-! ## Boundaries -/

theorem toList_boundary (n : BitVec 128) :
    (boundary n).toList = '=' :: '_' :: hexDigits 32 n.toNat := String.toList_ofList

theorem boundary_injective {a b : BitVec 128} (h : boundary a = boundary b) : a = b := by
  have htext : hexDigits 32 a.toNat = hexDigits 32 b.toNat := by
    have := congrArg String.toList h
    simpa [toList_boundary] using this
  have hnumber := congrArg (ofHexDigits 0) htext
  rw [ofHexDigits_hexDigits, ofHexDigits_hexDigits] at hnumber
  exact BitVec.eq_of_toNat_eq hnumber

theorem length_boundary (n : BitVec 128) : (boundary n).toList.length = 34 := by
  have hdigits : (Nat.toDigits 16 n.toNat).length ≤ 32 :=
    (Nat.length_toDigits_le_iff (by decide) (by decide)).2 n.isLt
  rw [toList_boundary, List.length_cons, List.length_cons, length_hexDigits hdigits]

theorem mem_boundary {n : BitVec 128} {c : Char} (h : c ∈ (boundary n).toList) :
    c ∈ '=' :: '_' :: hexAlphabet := by
  rw [toList_boundary] at h
  -- The equals sign, the underscore and the digits.
  rcases List.mem_cons.1 h with rfl | h
  · simp
  · rcases List.mem_cons.1 h with rfl | h
    · simp
    · exact List.mem_cons_of_mem _ (List.mem_cons_of_mem _ (mem_hexDigits h))

/-- The characters of a boundary have no meaning in a header. -/
theorem boundary_plain {n : BitVec 128} {c : Char} (h : c ∈ (boundary n).toList) :
    c ≠ '"' ∧ Text.isAsciiWhite c = false ∧ Text.isLineBreak c = false := by
  have hall : ∀ c ∈ '=' :: '_' :: hexAlphabet,
      c ≠ '"' ∧ Text.isAsciiWhite c = false ∧ Text.isLineBreak c = false :=
    List.all_iff_forall_prop.1 (by decide)
  exact hall c (mem_boundary h)

/-! ## Lines of a boundary -/

/-- The line before a part, without its end. -/
def openLine (boundary : List Char) : Octets := ofChars ('-' :: '-' :: boundary)

/-- The line after the last part, without its end. -/
def closeLine (boundary : List Char) : Octets := ofChars ('-' :: '-' :: boundary ++ ['-', '-'])

/-- A line that is not of a boundary. -/
def IsInside (boundary : List Char) (line : Octets) : Prop :=
  IsLine line ∧ line ≠ openLine boundary ∧ line ≠ closeLine boundary

theorem delimiter_eq (boundary : String) :
    delimiter boundary = openLine boundary.toList ++ crlf := by
  simp [delimiter, openLine, ofString]

theorem closing_eq (boundary : String) : closing boundary = closeLine boundary.toList ++ crlf := by
  simp [closing, closeLine, ofString]

theorem openLine_ne_closeLine (boundary : List Char) :
    openLine boundary ≠ closeLine boundary := by
  intro h
  have := congrArg List.length (ofChars_injective h)
  simp at this

/-! ## Cutting -/

/-- The parts in the lines of a multipart body, the first of them as far as it is among the
lines. There is no result unless the last line closes the body. -/
def partsAfter? (boundary : List Char) : List Octets → Option (List Octets)
  | [] => none
  | line :: rest =>
    if line = closeLine boundary then if rest = [] then some [[]] else none
    else if line = openLine boundary then (partsAfter? boundary rest).map ([] :: ·)
    else (partsAfter? boundary rest).map fun
      | part :: more => (line ++ crlf ++ part) :: more
      | [] => []

/-- The parts of a multipart body. Nothing may stand before the first line of the boundary. -/
def readParts? (boundary : List Char) (body : Octets) : Option (List Octets) :=
  match (lines? body).bind (partsAfter? boundary) with
  | some ([] :: parts) => some parts
  | _ => none

/-- Lines that are not of the boundary belong to the part that is being read. -/
theorem partsAfter?_append {boundary : List Char} {lines rest : List Octets} {part : Octets}
    {more : List Octets} (h : ∀ line ∈ lines, IsInside boundary line)
    (hrest : partsAfter? boundary rest = some (part :: more)) :
    partsAfter? boundary (lines ++ rest) = some ((unlines lines ++ part) :: more) := by
  induction lines with
  | nil => exact hrest
  | cons line lines ih =>
    obtain ⟨-, hopen, hclose⟩ := h line List.mem_cons_self
    have htail := ih fun l hl => h l (List.mem_cons_of_mem line hl)
    rw [List.cons_append, partsAfter?, if_neg hclose, if_neg hopen, htail, unlines_cons]
    simp

theorem partsAfter?_flatMap {boundary : List Char} {sections : List (List Octets)}
    (h : ∀ lines ∈ sections, ∀ line ∈ lines, IsInside boundary line) :
    partsAfter? boundary (sections.flatMap (openLine boundary :: ·) ++ [closeLine boundary]) =
      some ([] :: sections.map unlines) := by
  induction sections with
  | nil => simp [partsAfter?]
  | cons lines sections ih =>
    have hrest := ih fun ls hls => h ls (List.mem_cons_of_mem lines hls)
    have hpart := partsAfter?_append (h lines List.mem_cons_self) hrest
    rw [List.append_nil] at hpart
    rw [List.flatMap_cons, List.cons_append, List.cons_append, List.append_assoc, partsAfter?,
      if_neg (openLine_ne_closeLine boundary), if_pos rfl, hpart]
    rfl

/-- Octets that are made of lines, one after another. -/
theorem exists_lines {P : Octets → Prop} {parts : List Octets} (h : ∀ p ∈ parts, OfLines P p) :
    ∃ sections : List (List Octets), parts = sections.map unlines ∧
      ∀ lines ∈ sections, ∀ line ∈ lines, P line := by
  induction parts with
  | nil => exact ⟨[], rfl, by simp⟩
  | cons p parts ih =>
    obtain ⟨lines, rfl, hlines⟩ := h p List.mem_cons_self
    obtain ⟨sections, rfl, hsections⟩ := ih fun q hq => h q (List.mem_cons_of_mem _ hq)
    refine ⟨lines :: sections, rfl, fun ls hls => ?_⟩
    rcases List.mem_cons.1 hls with rfl | hls
    · exact hlines
    · exact hsections ls hls

/-- Parts are cut where they were put together. -/
theorem readParts?_flatMap {boundary : String} {parts : List Octets}
    (hboundary : IsLine (openLine boundary.toList) ∧ IsLine (closeLine boundary.toList))
    (h : ∀ p ∈ parts, OfLines (IsInside boundary.toList) p) :
    readParts? boundary.toList (parts.flatMap (delimiter boundary ++ ·) ++ closing boundary) =
      some parts := by
  obtain ⟨sections, rfl, hsections⟩ := exists_lines h
  have hbody : (sections.map unlines).flatMap (delimiter boundary ++ ·) ++ closing boundary =
      unlines
        (sections.flatMap (openLine boundary.toList :: ·) ++ [closeLine boundary.toList]) := by
    rw [delimiter_eq, closing_eq, unlines_append]
    congr 1
    · clear h hsections
      induction sections with
      | nil => rfl
      | cons lines sections ih =>
        rw [List.map_cons, List.flatMap_cons, List.flatMap_cons, unlines_append, ih, unlines_cons]
    · simp [unlines]
  have hlines : ∀ line ∈ sections.flatMap (openLine boundary.toList :: ·) ++
      [closeLine boundary.toList], IsLine line := by
    intro line hline
    rcases List.mem_append.1 hline with hline | hline
    · obtain ⟨lines, hls, hmem⟩ := List.mem_flatMap.1 hline
      rcases List.mem_cons.1 hmem with rfl | hmem
      · exact hboundary.1
      · exact (hsections lines hls line hmem).1
    · rw [List.mem_singleton.1 hline]
      exact hboundary.2
  rw [readParts?, hbody, lines?_unlines hlines, Option.bind_some, partsAfter?_flatMap hsections]

/-! ## Lines that no boundary has -/

/-- A line that does not begin like one of a boundary, whatever its number. -/
def IsUnmarked (line : Octets) : Prop := IsLine line ∧ ¬ [45, 45, 61, 95] <+: line

theorem prefix_ofChars_boundary (n : BitVec 128) (rest : List Char) :
    [45, 45, 61, 95] <+: ofChars ('-' :: '-' :: (boundary n).toList ++ rest) := by
  rw [toList_boundary]
  exact ⟨ofChars (hexDigits 32 n.toNat ++ rest), rfl⟩

theorem IsUnmarked.isInside {line : Octets} (h : IsUnmarked line) (n : BitVec 128) :
    IsInside (boundary n).toList line := by
  refine ⟨h.1, ?_, ?_⟩
  · rintro rfl
    have := prefix_ofChars_boundary n []
    rw [List.append_nil] at this
    exact h.2 this
  · rintro rfl
    exact h.2 (prefix_ofChars_boundary n ['-', '-'])

theorem isLine_boundary (n : BitVec 128) :
    IsLine (openLine (boundary n).toList) ∧ IsLine (closeLine (boundary n).toList) := by
  have hplain : ∀ c ∈ (boundary n).toList, Text.isLineBreak c = false :=
    fun c hc => (boundary_plain hc).2.2
  have hdash : ∀ c ∈ ['-', '-'], Text.isLineBreak c = false :=
    List.all_iff_forall_prop.1 (by decide)
  have hopen : ∀ c ∈ ['-', '-'] ++ (boundary n).toList, Text.isLineBreak c = false := by
    intro c hc
    rcases List.mem_append.1 hc with hc | hc
    · exact hdash c hc
    · exact hplain c hc
  refine ⟨isLine_ofChars hopen, isLine_ofChars ?_⟩
  intro c hc
  rcases List.mem_append.1 hc with hc | hc
  · exact hopen c hc
  · exact hdash c hc

/-- The lines of one boundary are inside the parts of another. -/
theorem isInside_of_ne {a b : BitVec 128} (h : a ≠ b) :
    IsInside (boundary a).toList (openLine (boundary b).toList) ∧
      IsInside (boundary a).toList (closeLine (boundary b).toList) := by
  have hne : (boundary b).toList ≠ (boundary a).toList := fun heq =>
    h (boundary_injective (String.toList_inj.1 heq)).symm
  have hlength (x y : List Char) (hxy : ofChars x = ofChars y) : x.length = y.length := by
    rw [ofChars_injective hxy]
  obtain ⟨hopen, hclose⟩ := isLine_boundary b
  -- Lines of one kind differ by their number, and lines of two kinds by their length.
  refine ⟨⟨hopen, ?_, ?_⟩, ⟨hclose, ?_, ?_⟩⟩
  · intro heq
    have := ofChars_injective heq
    exact hne (by simpa using this)
  · intro heq
    have := hlength _ _ heq
    simp [length_boundary] at this
  · intro heq
    have := hlength _ _ heq
    simp [length_boundary] at this
  · intro heq
    have := ofChars_injective heq
    exact hne (by simpa using this)

/-- Parts of lines with the lines of a boundary around them. -/
theorem ofLines_parts {P : Octets → Prop} {boundary : String}
    (hopen : P (openLine boundary.toList)) (hclose : P (closeLine boundary.toList))
    {parts : List Octets} (hparts : ∀ p ∈ parts, OfLines P p) :
    OfLines P (parts.flatMap (delimiter boundary ++ ·) ++ closing boundary) := by
  have hdelimited : OfLines P (parts.flatMap (delimiter boundary ++ ·)) := by
    apply OfLines.flatMap
    intro p hp
    rw [delimiter_eq]
    exact (OfLines.line hopen).append (hparts p hp)
  have hclosing : OfLines P (closing boundary) := by
    rw [closing_eq]
    exact .line hclose
  exact hdelimited.append hclosing

/-! ## The type of a multipart body -/

/-- The boundary that a multipart type names. -/
def boundaryOf? (type : List Char) : Option (List Char) :=
  (Dkim.Pem.stripPrefix? "multipart/".toList type).bind fun rest =>
    (Dkim.Pem.stripPrefix? "; boundary=\"".toList (rest.dropWhile (· != ';'))).bind fun rest =>
      if rest.dropWhile (· != '"') = ['"'] then some (rest.takeWhile (· != '"')) else none

theorem stripPrefix?_append (start rest : List Char) :
    Dkim.Pem.stripPrefix? start (start ++ rest) = some rest := by
  simp [Dkim.Pem.stripPrefix?]

theorem boundaryOf?_multipartType {kind boundary : String} (hkind : ∀ c ∈ kind.toList, c ≠ ';')
    (hboundary : ∀ c ∈ boundary.toList, c ≠ '"') :
    boundaryOf? (multipartType kind boundary).toList = some boundary.toList := by
  have hsemicolon : ∀ c ∈ kind.toList, (c != ';') = true := fun c hc => by simpa using hkind c hc
  have hquote : ∀ c ∈ boundary.toList, (c != '"') = true :=
    fun c hc => by simpa using hboundary c hc
  have htype : (multipartType kind boundary).toList = "multipart/".toList ++
      (kind.toList ++ ("; boundary=\"".toList ++ (boundary.toList ++ ['"']))) := by
    simp only [multipartType, String.toList_append, List.append_assoc]
    rfl
  have hdrop : (kind.toList ++ ("; boundary=\"".toList ++ (boundary.toList ++ ['"']))).dropWhile
      (· != ';') = "; boundary=\"".toList ++ (boundary.toList ++ ['"']) := by
    rw [List.dropWhile_append_of_pos hsemicolon]
    rfl
  rw [boundaryOf?, htype, stripPrefix?_append, Option.bind_some, hdrop, stripPrefix?_append,
    Option.bind_some, List.dropWhile_append_of_pos hquote, List.takeWhile_append_of_pos hquote]
  simp

end Outbox.Mime
