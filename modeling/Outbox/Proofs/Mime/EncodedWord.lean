import Outbox.Mime.WordDecoding
import Outbox.Proofs.Base64
import Outbox.Proofs.Text.Encoding
import Outbox.Proofs.Text.Utf8

/-!
# Outbox.Proofs.Mime.EncodedWord — encoded words are read back

A text goes into encoded words piece by piece, each of whole characters. A lenient reader of
base64 gets the octets that a strict one would get, as the writer leaves nothing to be lenient
about: no symbol ends a word or a group, and only padding ends a group early.

* `flatten_pieces` — the pieces of a text make up the text.
* `readBase64_encode` — octets are read back from their base64, up to the end of the word.
* `encodedWord?_encodedWord` — a piece is read back from its word, and nothing more is taken.
-/

namespace Outbox.Mime

open Octets

/-! ## Pieces -/

theorem flatten_piecesFrom (current : List Char) (used : Nat) (text : List Char) :
    (piecesFrom current used text).flatten = current.reverse ++ text := by
  -- By induction on the text, with the piece that is being filled on the way.
  induction text generalizing current used with
  | nil =>
    rw [piecesFrom]
    split
    case isTrue hnil => simp [List.isEmpty_iff.1 hnil]
    case isFalse => simp
  | cons c rest ih =>
    rw [piecesFrom]
    split
    · rw [ih]
      simp
    · rw [List.flatten_cons, ih]
      simp

/-- The pieces of a text make up the text. -/
theorem flatten_pieces (text : List Char) : (pieces text).flatten = text :=
  flatten_piecesFrom [] 0 text

theorem pieces_ne_nil {text : List Char} (h : text ≠ []) : pieces text ≠ [] := by
  intro hnil
  have hflat := flatten_pieces text
  rw [hnil] at hflat
  exact h hflat.symm

/-! ## Base64 -/

/-- A symbol ends neither a group nor a word, and it is no blank. -/
theorem symbol_ends_nothing (v : UInt8) :
    Base64.symbol v ≠ 63 ∧ Base64.symbol v ≠ 61 ∧
      ¬ (Base64.symbol v = 32 ∨ Base64.symbol v = 9 ∨ Base64.symbol v = 13 ∨
        Base64.symbol v = 10) := by
  revert v
  exact Base64.forall_octet (by decide)

theorem readBase64_symbol {v : UInt8} (hv : v < 64) {group : List UInt8} (hgroup : group.length < 3)
    (rest : Octets) :
    readBase64 group (Base64.symbol v :: rest) =
      Reading.push 1 [] (readBase64 (group ++ [v]) rest) := by
  obtain ⟨hword, hpad, hblank⟩ := symbol_ends_nothing v
  rw [readBase64, if_neg hblank]
  · rintro more heq
    exact absurd heq hword
  · exact hpad
  · exact Base64.value?_symbol hv
  · rintro a b c rfl
    exact absurd hgroup (Nat.lt_irrefl 3)

theorem readBase64_fourth (a b c : UInt8) {v : UInt8} (hv : v < 64) (rest : Octets) :
    readBase64 [a, b, c] (Base64.symbol v :: rest) =
      Reading.push 1 [a <<< 2 ||| b >>> 4, b <<< 4 ||| c >>> 2, c <<< 6 ||| v]
        (readBase64 [] rest) := by
  obtain ⟨hword, hpad, hblank⟩ := symbol_ends_nothing v
  rw [readBase64, if_neg hblank]
  · rintro more heq
    exact absurd heq hword
  · exact hpad
  · exact Base64.value?_symbol hv

/-- Octets are read back from their base64 in a word. -/
theorem readBase64_encode (octets rest : Octets) :
    readBase64 [] (Base64.encode octets ++ 63 :: 61 :: rest) =
      some (octets, (Base64.encode octets).length + 2) := by
  induction octets using Base64.encode.induct with
  | case1 a b c more ih =>
    have h₁ := (Base64.high_lt a).1
    have h₂ := Base64.or_lt (Base64.low_lt a).1 (Base64.high_lt b).2.1
    have h₃ := Base64.or_lt (Base64.low_lt b).2.1 (Base64.high_lt c).2.2
    have h₄ := (Base64.low_lt c).2.2
    simp only [Base64.encode, List.cons_append]
    rw [readBase64_symbol h₁ (by simp), readBase64_symbol h₂ (by simp),
      readBase64_symbol h₃ (by simp)]
    simp only [List.nil_append, List.cons_append]
    rw [readBase64_fourth _ _ _ h₄, ih]
    simp [Reading.push, Base64.join_first, Base64.join_second, Base64.join_third]
  | case2 a b =>
    have h₁ := (Base64.high_lt a).1
    have h₂ := Base64.or_lt (Base64.low_lt a).1 (Base64.high_lt b).2.1
    have h₃ := (Base64.low_lt b).2.1
    simp only [Base64.encode, List.cons_append, List.nil_append]
    rw [readBase64_symbol h₁ (by simp), readBase64_symbol h₂ (by simp),
      readBase64_symbol h₃ (by simp)]
    simp [readBase64, Reading.push, flush, Base64.join_first, Base64.join_last]
  | case3 a =>
    have h₁ := (Base64.high_lt a).1
    have h₂ := (Base64.low_lt a).1
    simp only [Base64.encode, List.cons_append, List.nil_append]
    rw [readBase64_symbol h₁ (by simp), readBase64_symbol h₂ (by simp)]
    simp [readBase64, Reading.push, flush, Base64.join_two]
  | case4 => rfl

/-! ## Words -/

/-- The octets of an encoded word. -/
theorem ofChars_encodedWord (piece : List Char) :
    ofChars (encodedWord piece) =
      [61, 63, 85, 84, 70, 45, 56, 63, 66, 63] ++ Base64.encode (ofChars piece) ++ [63, 61] := by
  have hstart : "=?UTF-8?B?".toList = ['=', '?', 'U', 'T', 'F', '-', '8', '?', 'B', '?'] := rfl
  have hopen : ofChars ['=', '?', 'U', 'T', 'F', '-', '8', '?', 'B', '?'] =
      [61, 63, 85, 84, 70, 45, 56, 63, 66, 63] := rfl
  have hclose : ofChars "?=".toList = [63, 61] := by decide
  unfold encodedWord
  rw [ofChars_append, ofChars_append, Base64.ofChars_encodeText, hstart, hopen, hclose]

/-- What holds of the characters around an encoded word and of all base64 symbols holds of its
characters. -/
theorem forall_mem_encodedWord {P : Char → Prop} (hframe : ∀ c ∈ "=?UTF-8?B?".toList, P c)
    (hsymbol : ∀ s, Base64.IsSymbol s → P (Char.ofNat s.toNat)) (piece : List Char) :
    ∀ c ∈ encodedWord piece, P c := by
  have hsubset : "?=".toList ⊆ "=?UTF-8?B?".toList := by decide
  intro c hc
  unfold encodedWord at hc
  rw [List.mem_append, List.mem_append] at hc
  rcases hc with (hc | hc) | hc
  · exact hframe c hc
  · exact Base64.forall_mem_encodeText hsymbol _ c hc
  · exact hframe c (hsubset hc)

/-- Encoded words stand on one line. -/
theorem not_isLineBreak_encodedWord {piece : List Char} {c : Char} (hc : c ∈ encodedWord piece) :
    Text.isLineBreak c = false := by
  have hsymbol : ∀ s, s = Base64.pad ∨ (Base64.value? s).isSome = true →
      Text.isLineBreak (Char.ofNat s.toNat) = false := Base64.forall_octet (by decide)
  have hframe : ∀ c ∈ "=?UTF-8?B?".toList, Text.isLineBreak c = false := by
    simp [Text.isLineBreak]
  exact forall_mem_encodedWord (P := fun c => Text.isLineBreak c = false) hframe hsymbol piece c hc

/-- A text that is not empty takes at least one word. -/
theorem encodedWords_ne_nil {text : List Char} (h : text ≠ []) : encodedWords text ≠ [] := by
  rcases List.exists_cons_of_ne_nil (pieces_ne_nil h) with ⟨piece, more, hpieces⟩
  have hword : encodedWord piece ≠ [] := by
    unfold encodedWord
    simp
  rw [encodedWords, hpieces, List.map_cons]
  cases more with
  | nil => simpa using hword
  | cons next more => simp [hword]

theorem ofName?_utf8 {name : List Char} (h : Charset.normalName name = "utf-8".toList) :
    Charset.ofName? name = some .utf8 := by
  have hfirst : ∃ more, Charset.registered = (["utf-8", "csutf8"], .utf8) :: more := ⟨_, rfl⟩
  obtain ⟨more, hmore⟩ := hfirst
  rw [Charset.ofName?, hmore, List.find?_cons_of_pos (by simp [h])]
  rfl

theorem decodeCharset_utf8 (piece : List Char) :
    decodeCharset [85, 84, 70, 45, 56] (ofChars piece) = piece := by
  have hnormal : Charset.normalName (([85, 84, 70, 45, 56] : Octets).map
      fun b => Char.ofNat b.toNat) = "utf-8".toList := by decide
  simp only [decodeCharset, ofName?_utf8 hnormal]
  exact Utf8.decode_ofChars piece

/-- A piece is read back from its encoded word, and nothing after the word is taken. -/
theorem encodedWord?_encodedWord (piece : List Char) (rest : Octets) :
    encodedWord? (ofChars (encodedWord piece) ++ rest) =
      some (piece, (ofChars (encodedWord piece)).length) := by
  have hread := readBase64_encode (ofChars piece) rest
  have hword : ofChars (encodedWord piece) ++ rest =
      61 :: 63 :: ([85, 84, 70, 45, 56] ++ 63 :: 66 :: 63 ::
        (Base64.encode (ofChars piece) ++ 63 :: 61 :: rest)) := by
    rw [ofChars_encodedWord]
    simp
  have hcharset : ([85, 84, 70, 45, 56] ++ 63 :: 66 :: 63 ::
      (Base64.encode (ofChars piece) ++ 63 :: 61 :: rest)).takeWhile (· != 63) =
      [85, 84, 70, 45, 56] := rfl
  have hname : charsetName [85, 84, 70, 45, 56] = [85, 84, 70, 45, 56] := by decide
  have hencoded : readEncoded (66 :: 63 ::
      (Base64.encode (ofChars piece) ++ 63 :: 61 :: rest)) =
      some (ofChars piece, (Base64.encode (ofChars piece)).length + 4) := by
    rw [readEncoded, if_neg (by decide), if_pos (by decide), hread]
    rfl
  rw [hword, encodedWord?]
  simp only [hcharset, hname]
  rw [if_neg (by decide)]
  change Option.map _ (readEncoded (66 :: 63 ::
    (Base64.encode (ofChars piece) ++ 63 :: 61 :: rest))) = _
  rw [hencoded, Option.map_some, decodeCharset_utf8, ofChars_encodedWord]
  simp
  omega

/-! ## Quoted strings -/

theorem escapeQuotes_escaped {c : Char} (h : c = '"' ∨ c = '\\') (text : List Char) :
    escapeQuotes (c :: text) = '\\' :: c :: escapeQuotes text := by
  simp [escapeQuotes, h]

theorem escapeQuotes_literal {c : Char} (h : ¬ (c = '"' ∨ c = '\\')) (text : List Char) :
    escapeQuotes (c :: text) = c :: escapeQuotes text := by
  simp [escapeQuotes, h]

end Outbox.Mime
