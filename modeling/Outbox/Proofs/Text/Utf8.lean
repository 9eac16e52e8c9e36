import Outbox.Proofs.Text.Encoding
import Outbox.Text.Utf8

/-!
# Outbox.Proofs.Text.Utf8 — texts are read back from their octets

A reader goes by the first octet of a character: it says how many octets there are and which
ones may come second, so that no surrogate and no needlessly long form is read as a character.
What is written for a character is always within these ranges (`exists_lead_three`,
`exists_lead_four`), and the numbers add up again.

* `decode_utf8EncodeChar` — a character is read back, whatever comes after it.
* `decode_ofChars` — so is a text.
-/

namespace Outbox.Utf8

open Octets

/-- An octet below 128 is a character of its own. -/
theorem decode_cons_of_lt {a : UInt8} (h : a < 0x80) (rest : Octets) :
    decode (a :: rest) = Char.ofNat a.toNat :: decode rest := by
  rw [decode, if_pos h]

theorem decode_cons_of_le {a : UInt8} (h : 128 ≤ a.toNat) {octets : Octets} {c : Char} {used : Nat}
    (hchar : charAt a octets = (c, used)) :
    decode (a :: octets) = c :: decode (octets.drop used) := by
  have hlarge : ¬ a < 0x80 := by
    rw [UInt8.lt_iff_toNat_lt]
    exact Nat.not_lt.2 h
  rw [decode, if_neg hlarge, hchar]

/-- What a first octet asks for, by its number. -/
theorem lead_eq (a : UInt8) :
    lead a =
      if 0xC2 ≤ a.toNat ∧ a.toNat ≤ 0xDF then some (2, 0x80, 0xBF)
      else if a.toNat = 0xE0 then some (3, 0xA0, 0xBF)
      else if a.toNat = 0xED then some (3, 0x80, 0x9F)
      else if 0xE1 ≤ a.toNat ∧ a.toNat ≤ 0xEF then some (3, 0x80, 0xBF)
      else if a.toNat = 0xF0 then some (4, 0x90, 0xBF)
      else if 0xF1 ≤ a.toNat ∧ a.toNat ≤ 0xF3 then some (4, 0x80, 0xBF)
      else if a.toNat = 0xF4 then some (4, 0x80, 0x8F)
      else none := by
  simp only [lead, UInt8.le_iff_toNat_le, ← UInt8.toNat_inj]
  rfl

theorem isTail_iff (b : UInt8) : isTail b = true ↔ 128 ≤ b.toNat ∧ b.toNat ≤ 191 := by
  simp only [isTail, Bool.and_eq_true, decide_eq_true_eq, UInt8.le_iff_toNat_le]
  rfl

theorem charAt_two {a b : UInt8} {v : Nat} (hv : 128 ≤ v ∧ v < 2048)
    (ha : a.toNat = v / 64 + 192) (hb : b.toNat = v % 64 + 128) (rest : Octets) :
    charAt a (b :: rest) = (Char.ofNat v, 1) := by
  have hlead : lead a = some (2, 0x80, 0xBF) := by
    rw [lead_eq, if_pos (by omega)]
  have hrange : 0x80 ≤ b ∧ b ≤ 0xBF := by
    simp only [UInt8.le_iff_toNat_le]
    exact ⟨by show 128 ≤ b.toNat; omega, by show b.toNat ≤ 191; omega⟩
  have hvalue : a.toNat % 32 * 64 + tailBits b = v := by
    simp only [tailBits]
    omega
  simp only [charAt, hlead, if_pos hrange, hvalue]

/-- The second octet of a character of three is in the range that the first one sets: a surrogate
is no character, and a smaller number has a shorter form. -/
theorem exists_lead_three {a b : UInt8} {v : Nat} (hv : 2048 ≤ v ∧ v < 65536)
    (hsurrogate : ¬ (0xD800 ≤ v ∧ v ≤ 0xDFFF)) (ha : a.toNat = v / 4096 + 224)
    (hb : b.toNat = v / 64 % 64 + 128) :
    ∃ low high, lead a = some (3, low, high) ∧ low ≤ b ∧ b ≤ high := by
  simp only [lead_eq, UInt8.le_iff_toNat_le]
  rw [if_neg (by omega)]
  by_cases hfirst : a.toNat = 0xE0
  · exact ⟨0xA0, 0xBF, if_pos hfirst, by show 160 ≤ b.toNat; omega, by show b.toNat ≤ 191; omega⟩
  · rw [if_neg hfirst]
    by_cases hlast : a.toNat = 0xED
    · exact ⟨0x80, 0x9F, if_pos hlast, by show 128 ≤ b.toNat; omega, by show b.toNat ≤ 159; omega⟩
    · rw [if_neg hlast]
      exact ⟨0x80, 0xBF, if_pos (by omega), by show 128 ≤ b.toNat; omega,
        by show b.toNat ≤ 191; omega⟩

theorem charAt_three {a b c : UInt8} {v : Nat} (hv : 2048 ≤ v ∧ v < 65536)
    (hsurrogate : ¬ (0xD800 ≤ v ∧ v ≤ 0xDFFF)) (ha : a.toNat = v / 4096 + 224)
    (hb : b.toNat = v / 64 % 64 + 128) (hc : c.toNat = v % 64 + 128) (rest : Octets) :
    charAt a (b :: c :: rest) = (Char.ofNat v, 2) := by
  obtain ⟨low, high, hlead, hrange⟩ := exists_lead_three hv hsurrogate ha hb
  have htail : isTail c = true := (isTail_iff c).2 (by omega)
  have hvalue : (a.toNat % 16 * 64 + tailBits b) * 64 + tailBits c = v := by
    simp only [tailBits]
    omega
  simp only [charAt, hlead, if_pos hrange, htail, if_true, hvalue]

/-- The second octet of a character of four is in the range that the first one sets. -/
theorem exists_lead_four {a b : UInt8} {v : Nat} (hv : 65536 ≤ v ∧ v < 0x110000)
    (ha : a.toNat = v / 262144 + 240) (hb : b.toNat = v / 4096 % 64 + 128) :
    ∃ low high, lead a = some (4, low, high) ∧ low ≤ b ∧ b ≤ high := by
  simp only [lead_eq, UInt8.le_iff_toNat_le]
  rw [if_neg (by omega), if_neg (by omega), if_neg (by omega), if_neg (by omega)]
  by_cases hfirst : a.toNat = 0xF0
  · exact ⟨0x90, 0xBF, if_pos hfirst, by show 144 ≤ b.toNat; omega, by show b.toNat ≤ 191; omega⟩
  · rw [if_neg hfirst]
    by_cases hlast : a.toNat = 0xF4
    · rw [if_neg (by omega)]
      exact ⟨0x80, 0x8F, if_pos hlast, by show 128 ≤ b.toNat; omega, by show b.toNat ≤ 143; omega⟩
    · exact ⟨0x80, 0xBF, if_pos (by omega), by show 128 ≤ b.toNat; omega,
        by show b.toNat ≤ 191; omega⟩

theorem charAt_four {a b c d : UInt8} {v : Nat} (hv : 65536 ≤ v ∧ v < 0x110000)
    (ha : a.toNat = v / 262144 + 240) (hb : b.toNat = v / 4096 % 64 + 128)
    (hc : c.toNat = v / 64 % 64 + 128) (hd : d.toNat = v % 64 + 128) (rest : Octets) :
    charAt a (b :: c :: d :: rest) = (Char.ofNat v, 3) := by
  obtain ⟨low, high, hlead, hrange⟩ := exists_lead_four hv ha hb
  have hthird : isTail c = true := (isTail_iff c).2 (by omega)
  have hfourth : isTail d = true := (isTail_iff d).2 (by omega)
  have hvalue : ((a.toNat % 8 * 64 + tailBits b) * 64 + tailBits c) * 64 + tailBits d = v := by
    simp only [tailBits]
    omega
  simp only [charAt, hlead, if_pos hrange, hthird, hfourth, if_true, hvalue]

theorem toNat_ofNat {n : Nat} (h : n < 256) : (UInt8.ofNat n).toNat = n :=
  UInt8.toNat_ofNat_of_lt' h

/-- A character is read back from its octets. -/
theorem decode_utf8EncodeChar (c : Char) (rest : Octets) :
    decode (String.utf8EncodeChar c ++ rest) = c :: decode rest := by
  have hchar : Char.ofNat c.val.toNat = c := Char.ofNat_toNat c
  have hvalid : c.val.toNat < 0xD800 ∨ 0xDFFF < c.val.toNat ∧ c.val.toNat < 0x110000 := c.valid
  rw [String.utf8EncodeChar]
  generalize c.val.toNat = v at hchar hvalid
  have htail : (UInt8.ofNat (v % 64 + 128)).toNat = v % 64 + 128 := toNat_ofNat (by omega)
  have hmiddle : (UInt8.ofNat (v / 64 % 64 + 128)).toNat = v / 64 % 64 + 128 :=
    toNat_ofNat (by omega)
  -- One case for each number of octets.
  split
  case isTrue hone =>
    have hvalue : (UInt8.ofNat v).toNat = v := toNat_ofNat (by omega)
    have hsmall : UInt8.ofNat v < 0x80 := by
      rw [UInt8.lt_iff_toNat_lt, hvalue]
      exact Nat.lt_succ_of_le hone
    rw [List.singleton_append, decode_cons_of_lt hsmall, hvalue, hchar]
  case isFalse hone =>
    split
    case isTrue htwo =>
      have hlead : (UInt8.ofNat (v / 64 % 32 + 192)).toNat = v / 64 + 192 := by
        rw [toNat_ofNat (by omega)]
        omega
      have hread := charAt_two ⟨by omega, by omega⟩ hlead htail rest
      rw [List.cons_append, List.singleton_append, decode_cons_of_le (by omega) hread, hchar]
      rfl
    case isFalse htwo =>
      split
      case isTrue hthree =>
        have hlead : (UInt8.ofNat (v / 4096 % 16 + 224)).toNat = v / 4096 + 224 := by
          rw [toNat_ofNat (by omega)]
          omega
        have hread := charAt_three ⟨by omega, by omega⟩ (by omega) hlead hmiddle htail rest
        rw [List.cons_append, List.cons_append, List.singleton_append,
          decode_cons_of_le (by omega) hread, hchar]
        rfl
      case isFalse hthree =>
        have hlead : (UInt8.ofNat (v / 262144 % 8 + 240)).toNat = v / 262144 + 240 := by
          rw [toNat_ofNat (by omega)]
          omega
        have hsecond : (UInt8.ofNat (v / 4096 % 64 + 128)).toNat = v / 4096 % 64 + 128 :=
          toNat_ofNat (by omega)
        have hread := charAt_four ⟨by omega, by omega⟩ hlead hsecond hmiddle htail rest
        rw [List.cons_append, List.cons_append, List.cons_append, List.singleton_append,
          decode_cons_of_le (by omega) hread, hchar]
        rfl

/-- A text is read back from its octets. -/
theorem decode_ofChars (text : List Char) : decode (ofChars text) = text := by
  induction text with
  | nil => rw [ofChars_nil, decode]
  | cons c text ih => rw [ofChars_cons, decode_utf8EncodeChar, ih]

theorem decodeString_ofChars (text : List Char) :
    decodeString (ofChars text) = String.ofList text := by
  rw [decodeString, decode_ofChars]

end Outbox.Utf8
