import Mathlib.Data.List.Basic
import Outbox.Proofs.Address.Scanner

/-!
# Outbox.Proofs.Mime.HeaderText — free text in a header is read back

RFC 2047 limits an encoded word to 75 characters and wants whole characters in each. RFC 5322
says what may stand in a quoted string. The readers here accept nothing else: `decodeWord?` reads
one encoded word, and `unquoteString?` one quoted string, and neither leaves anything over.

* `piece_of_mem_pieces` — a piece of a text is not empty and fits in a word.
* `spells_encodedWords` — the words of a text are short, and what they hold makes up the text.
* `unquoteString?_quotedString` — a printable text is read back from its quoted string.
* `headerText_readsBack` — what becomes of free text in a header.
-/

namespace Outbox
namespace Mime

open Octets Text
open Address.Scanner (isPrintableAscii)

/-! ## Readers -/

/-- Reads one encoded word of RFC 2047 in the B encoding and UTF-8: the base64 has to be whole, and
its octets have to be UTF-8. -/
def decodeWord? (word : List Char) : Option (List Char) :=
  match word.splitOn '?' with
  | [['='], charset, encoding, text, ['=']] =>
    if lower charset = "utf-8".toList ∧ lower encoding = ['b'] then
      (Base64.decodeText text).bind text?
    else none
  | _ => none

/-- A text cut at each of its spaces. An empty text has no words. -/
def cutAtSpaces (text : List Char) : List (List Char) :=
  if text = [] then [] else text.splitOn ' '

/-- Encoded words with single spaces between them, each of whole characters, that add up to a
text. -/
structure Spells (words text : List Char) : Prop where
  short : ∀ word ∈ cutAtSpaces words, word.length ≤ 75
  read : ∃ parts, (cutAtSpaces words).mapM decodeWord? = some parts ∧
    (∀ part ∈ parts, part ≠ []) ∧ parts.flatten = text

/-- Reads the rest of a quoted string of RFC 5322. A quotation mark and a backslash stand for
themselves only after a backslash, and nothing comes after the quotation mark at the end. -/
def unquoteFrom? : List Char → Option (List Char)
  | ['"'] => some []
  | '\\' :: c :: rest =>
    if isPrintableAscii c || c == '\t' then (unquoteFrom? rest).map (c :: ·) else none
  | c :: rest =>
    if (isPrintableAscii c || c == '\t') && c != '"' && c != '\\' then
      (unquoteFrom? rest).map (c :: ·)
    else none
  | [] => none

/-- Reads one quoted string. -/
def unquoteString? : List Char → Option (List Char)
  | '"' :: rest => unquoteFrom? rest
  | _ => none

/-- A text without its control characters. -/
def visible (text : List Char) : List Char := text.filter fun c => !isControl c

/-! ## Pieces -/

/-- A piece that is being filled stays within the limit, and it is given out only when a character
no longer fits. -/
theorem piece_of_mem_piecesFrom {current text piece : List Char} {used : Nat}
    (hused : size current.reverse = used) (hlimit : used ≤ wordLimit)
    (h : piece ∈ piecesFrom current used text) : piece ≠ [] ∧ size piece ≤ wordLimit := by
  induction text generalizing current used with
  | nil =>
    rw [piecesFrom] at h
    split at h
    case isTrue => exact absurd h List.not_mem_nil
    case isFalse hne =>
      rw [List.mem_singleton.1 h, hused]
      constructor
      · simpa using hne
      · exact hlimit
  | cons c rest ih =>
    have hc : c.utf8Size ≤ 4 := Char.utf8Size_le_four c
    rw [piecesFrom] at h
    split at h
    case isTrue hroom =>
      apply ih _ hroom h
      rw [List.reverse_cons, size_append, hused]
      rfl
    case isFalse hfull =>
      rcases List.mem_cons.1 h with rfl | h
      · constructor
        · -- An empty piece has room for any character.
          intro hnil
          rw [hnil] at hused
          have hzero : used = 0 := hused.symm
          have hlimit : wordLimit = 45 := rfl
          omega
        · rw [hused]
          exact hlimit
      · apply ih _ _ h
        · rfl
        · exact Nat.le_trans hc (by decide)

theorem piece_of_mem_pieces {text piece : List Char} (h : piece ∈ pieces text) :
    piece ≠ [] ∧ size piece ≤ wordLimit := by
  apply piece_of_mem_piecesFrom _ _ h
  · rfl
  · exact Nat.zero_le _

theorem length_encodedWord (piece : List Char) :
    (encodedWord piece).length = 12 + 4 * ((size piece + 2) / 3) := by
  have hopen : "=?UTF-8?B?".toList.length = 10 := rfl
  have hclose : "?=".toList.length = 2 := rfl
  unfold encodedWord Base64.encodeText
  rw [List.length_append, List.length_append, List.length_map, Base64.length_encode,
    length_ofChars, hopen, hclose]
  omega

/-! ## Words -/

theorem question_not_mem_encodeText (octets : Octets) : '?' ∉ Base64.encodeText octets := by
  have hsymbol : ∀ s, s = Base64.pad ∨ (Base64.value? s).isSome = true →
      Char.ofNat s.toNat ≠ '?' := Base64.forall_octet (by decide)
  intro hmem
  exact Base64.forall_mem_encodeText (P := (· ≠ '?')) hsymbol octets '?' hmem rfl

/-- The parts of an encoded word between its question marks. -/
def wordParts (piece : List Char) : List (List Char) :=
  [['='], "UTF-8".toList, ['B'], Base64.encodeText (ofChars piece), ['=']]

theorem encodedWord_eq (piece : List Char) :
    encodedWord piece = ['?'].intercalate (wordParts piece) := by
  have hopen : "=?UTF-8?B?".toList = ['=', '?', 'U', 'T', 'F', '-', '8', '?', 'B', '?'] := rfl
  have hname : "UTF-8".toList = ['U', 'T', 'F', '-', '8'] := rfl
  have hclose : "?=".toList = ['?', '='] := rfl
  unfold encodedWord wordParts
  rw [hopen, hname, hclose]
  simp [List.intercalate]

theorem decodeWord?_encodedWord (piece : List Char) :
    decodeWord? (encodedWord piece) = some piece := by
  have hparts : ∀ part ∈ wordParts piece, '?' ∉ part := by
    intro part hpart
    simp only [wordParts, List.mem_cons, List.not_mem_nil, or_false] at hpart
    rcases hpart with rfl | rfl | rfl | rfl | rfl
    · decide
    · decide
    · decide
    · exact question_not_mem_encodeText _
    · decide
  have hne : wordParts piece ≠ [] := by
    unfold wordParts
    exact List.cons_ne_nil _ _
  have hsplit : (encodedWord piece).splitOn '?' = wordParts piece := by
    rw [encodedWord_eq, List.splitOn_intercalate '?' hparts hne]
  have hread : Base64.decodeText (Base64.encodeText (ofChars piece)) = some (ofChars piece) := by
    rw [Base64.decodeText, Base64.ofChars_encodeText, Base64.decode_encode]
  rw [decodeWord?, hsplit, wordParts]
  simp only
  rw [if_pos (by decide), hread, Option.bind_some, text?_ofChars]

theorem space_not_mem_encodedWord (piece : List Char) : ' ' ∉ encodedWord piece := by
  have hsymbol : ∀ s, s = Base64.pad ∨ (Base64.value? s).isSome = true →
      Char.ofNat s.toNat ≠ ' ' := Base64.forall_octet (by decide)
  have hframe : ∀ c ∈ "=?UTF-8?B?".toList, c ≠ ' ' := by
    simp
  intro hspace
  exact forall_mem_encodedWord hframe hsymbol piece ' ' hspace rfl

theorem cutAtSpaces_encodedWords (text : List Char) :
    cutAtSpaces (encodedWords text) = (pieces text).map encodedWord := by
  by_cases hnil : text = []
  · subst hnil
    rfl
  · have hspace : ∀ word ∈ (pieces text).map encodedWord, ' ' ∉ word := by
      intro word hword
      rcases List.mem_map.1 hword with ⟨piece, -, rfl⟩
      exact space_not_mem_encodedWord piece
    have hne : (pieces text).map encodedWord ≠ [] := by
      simpa using pieces_ne_nil hnil
    rw [cutAtSpaces, if_neg (encodedWords_ne_nil hnil), encodedWords,
      List.splitOn_intercalate ' ' hspace hne]

theorem mapM_decodeWord? (parts : List (List Char)) :
    (parts.map encodedWord).mapM decodeWord? = some parts := by
  induction parts with
  | nil => rfl
  | cons part parts ih => simp [decodeWord?_encodedWord, ih]

/-- The encoded words of a text spell it. -/
theorem spells_encodedWords (text : List Char) : Spells (encodedWords text) text := by
  have hcut := cutAtSpaces_encodedWords text
  constructor
  · intro word hword
    rw [hcut] at hword
    rcases List.mem_map.1 hword with ⟨piece, hpiece, rfl⟩
    have hsize : size piece ≤ 45 := (piece_of_mem_pieces hpiece).2
    rw [length_encodedWord]
    omega
  · refine ⟨pieces text, ?_, ?_, flatten_pieces text⟩
    · rw [hcut]
      exact mapM_decodeWord? (pieces text)
    · intro piece hpiece
      exact (piece_of_mem_pieces hpiece).1

/-! ## Printable text -/

theorem isPrintableAscii_of_visible {text : List Char}
    (hascii : (visible text).all isAscii = true) : ∀ c ∈ visible text, isPrintableAscii c = true := by
  intro c hc
  have hsmall : c.toNat < 128 := by
    simpa [isAscii] using List.all_eq_true.1 hascii c hc
  have hcontrol : isControl c = false := by
    simpa using (List.mem_filter.1 hc).2
  simp only [isControl, Bool.or_eq_false_iff, Bool.and_eq_false_iff, decide_eq_false_iff_not]
    at hcontrol
  simp only [isPrintableAscii, Bool.and_eq_true, decide_eq_true_eq]
  omega

theorem isPrintableAscii_encodedWord (piece : List Char) :
    ∀ c ∈ encodedWord piece, isPrintableAscii c = true := by
  have hsymbol : ∀ s, s = Base64.pad ∨ (Base64.value? s).isSome = true →
      isPrintableAscii (Char.ofNat s.toNat) = true := Base64.forall_octet (by decide)
  have hframe : ∀ c ∈ "=?UTF-8?B?".toList, isPrintableAscii c = true := by
    simp [isPrintableAscii]
  exact forall_mem_encodedWord hframe hsymbol piece

theorem isPrintableAscii_encodedWords (text : List Char) :
    ∀ c ∈ encodedWords text, isPrintableAscii c = true := by
  intro c hc
  rcases mem_intercalate hc with hspace | ⟨word, hword, hc⟩
  · rw [List.mem_singleton.1 hspace]
    decide
  · rcases List.mem_map.1 hword with ⟨piece, -, rfl⟩
    exact isPrintableAscii_encodedWord piece c hc

theorem headerText_eq (text : List Char) :
    headerText text =
      if (visible text).all isAscii then visible text else encodedWords (visible text) := rfl

theorem isPrintableAscii_headerText (text : List Char) :
    ∀ c ∈ headerText text, isPrintableAscii c = true := by
  rw [headerText_eq]
  split
  case isTrue hascii => exact isPrintableAscii_of_visible hascii
  case isFalse => exact isPrintableAscii_encodedWords _

/-! ## Quoted strings -/

/-- A printable text is read back from its quoted string. -/
theorem unquoteString?_quotedString {text : List Char} (h : ∀ c ∈ text, isPrintableAscii c = true) :
    unquoteString? (quotedString text) = some text := by
  show unquoteFrom? (escapeQuotes text ++ ['"']) = some text
  induction text with
  | nil => rfl
  | cons c text ih =>
    have hc := h c List.mem_cons_self
    have ih := ih fun d hd => h d (List.mem_cons_of_mem c hd)
    by_cases hescape : c = '"' ∨ c = '\\'
    · -- A backslash comes before it, so it is read as it is.
      rw [escapeQuotes_escaped hescape, List.cons_append, List.cons_append, unquoteFrom?, hc, ih]
      rfl
    · have hplain := not_or.1 hescape
      rw [escapeQuotes_literal hescape, List.cons_append, unquoteFrom?, hc, ih]
      · simp [hplain]
      · intro hquote
        exact absurd hquote hplain.1
      · intro d rest hslash
        exact absurd hslash hplain.2

/-! ## Free text -/

/-- The encoded words of a text are short, hold whole characters and spell the text. Free text in
a header is printable ASCII: the text without its control characters if that is ASCII, and
otherwise encoded words that spell it. A file name becomes one quoted string around that. -/
theorem headerText_readsBack (text : List Char) :
    Spells (encodedWords text) text ∧
      (∀ c ∈ headerText text, isPrintableAscii c = true) ∧
      (if (visible text).all isAscii then headerText text = visible text
        else Spells (headerText text) (visible text)) ∧
      unquoteString? (quotedFilename text) = some (headerText text) := by
  refine ⟨spells_encodedWords text, isPrintableAscii_headerText text, ?_, ?_⟩
  · rw [headerText_eq]
    split
    case isTrue => rfl
    case isFalse => exact spells_encodedWords _
  · exact unquoteString?_quotedString (isPrintableAscii_headerText text)

end Mime
end Outbox
