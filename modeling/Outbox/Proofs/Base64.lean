import Mathlib.Data.List.Basic
import Outbox.Base64

/-!
# Outbox.Proofs.Base64 — base64 as it is written and read

Facts about one octet are checked for all 256 of them. A group is taken as a number: the symbols
are its digits to the base 64 and the octets its digits to the base 256, so that facts about
groups are arithmetic.

* `encodeText_eq_prescribed` — octets are written as RFC 2045 says.
* `decode_eq_some_iff` — octets are read back from their base64, and nothing else is read.
* `encode_append` — whole groups are written on their own.
-/

namespace Outbox
namespace Base64

/-! ## Octets -/

/-- What holds for all pairs of hexadecimal digits holds for all octets. -/
theorem forall_octet {P : UInt8 → Prop} (h : ∀ i < 16, ∀ j < 16, P (UInt8.ofNat (16 * i + j)))
    (b : UInt8) : P b := by
  have hb := b.toNat_lt
  have hdigits := h (b.toNat / 16) (by omega) (b.toNat % 16) (by omega)
  rwa [Nat.div_add_mod, UInt8.ofNat_toNat] at hdigits

theorem value?_symbol {v : UInt8} (h : v < 64) : value? (symbol v) = some v := by
  revert h
  exact forall_octet (P := fun v => v < 64 → value? (symbol v) = some v) (by decide) v

theorem value?_eq_some {s v : UInt8} (h : value? s = some v) : v < 64 ∧ symbol v = s := by
  have hall : ∀ s, (value? s).all (fun v => decide (v < 64) && symbol v == s) = true :=
    forall_octet (by decide)
  have hs := hall s
  rw [h] at hs
  simpa using hs

theorem or_lt {a b : UInt8} (ha : a < 64) (hb : b < 64) : a ||| b < 64 := by
  rw [UInt8.lt_iff_toNat_lt, UInt8.toNat_or]
  exact Nat.or_lt_two_pow (n := 6) (UInt8.lt_iff_toNat_lt.1 ha) (UInt8.lt_iff_toNat_lt.1 hb)

theorem high_lt (b : UInt8) : b >>> 2 < 64 ∧ b >>> 4 < 64 ∧ b >>> 6 < 64 := by
  revert b
  exact forall_octet (by decide)

theorem low_lt (b : UInt8) : (b &&& 3) <<< 4 < 64 ∧ (b &&& 15) <<< 2 < 64 ∧ b &&& 63 < 64 := by
  revert b
  exact forall_octet (by decide)

/-! ## Groups as numbers -/

theorem toNat_or_of_lt {u v : UInt8} {m k : Nat} (hu : u.toNat = m <<< k)
    (hv : v.toNat < 1 <<< k) : (u ||| v).toNat = u.toNat + v.toNat := by
  rw [Nat.one_shiftLeft] at hv
  rw [UInt8.toNat_or, hu, Nat.shiftLeft_add_eq_or_of_lt hv]

theorem toNat_high (b : UInt8) :
    (b >>> 2).toNat = b.toNat / 4 ∧ (b >>> 4).toNat = b.toNat / 16 ∧
      (b >>> 6).toNat = b.toNat / 64 := by
  revert b
  exact forall_octet (by decide)

theorem toNat_low (b : UInt8) :
    ((b &&& 3) <<< 4).toNat = (b.toNat % 4) <<< 4 ∧
      ((b &&& 15) <<< 2).toNat = (b.toNat % 16) <<< 2 ∧ (b &&& 63).toNat = b.toNat % 64 := by
  revert b
  exact forall_octet (by decide)

theorem toNat_shiftLeft (v : UInt8) :
    (v <<< 2).toNat = (v.toNat % 64) <<< 2 ∧ (v <<< 4).toNat = (v.toNat % 16) <<< 4 ∧
      (v <<< 6).toNat = (v.toNat % 4) <<< 6 := by
  revert v
  exact forall_octet (by decide)

/-- The second symbol of a group is made of two bits and four. -/
theorem toNat_second (a b : UInt8) :
    ((a &&& 3) <<< 4 ||| b >>> 4).toNat = a.toNat % 4 * 16 + b.toNat / 16 := by
  have hb := b.toNat_lt
  have high := (toNat_high b).2.1
  have low := (toNat_low a).1
  rw [toNat_or_of_lt low (by rw [high]; omega), low, high, Nat.shiftLeft_eq]

/-- The third symbol of a group is made of four bits and two. -/
theorem toNat_third (b c : UInt8) :
    ((b &&& 15) <<< 2 ||| c >>> 6).toNat = b.toNat % 16 * 4 + c.toNat / 64 := by
  have hc := c.toNat_lt
  have high := (toNat_high c).2.2
  have low := (toNat_low b).2.1
  rw [toNat_or_of_lt low (by rw [high]; omega), low, high, Nat.shiftLeft_eq]

/-- The bits under the padding of a shorter group. -/
theorem toNat_under (v : UInt8) :
    (v &&& 15).toNat = v.toNat % 16 ∧ (v &&& 3).toNat = v.toNat % 4 := by
  revert v
  exact forall_octet (by decide)

/-- The octets of a group are made of the values of its symbols. -/
theorem toNat_join {u v : UInt8} (h : v < 64) :
    (u <<< 2 ||| v >>> 4).toNat = u.toNat % 64 * 4 + v.toNat / 16 ∧
      (u <<< 4 ||| v >>> 2).toNat = u.toNat % 16 * 16 + v.toNat / 4 ∧
      (u <<< 6 ||| v).toNat = u.toNat % 4 * 64 + v.toNat := by
  have hv : v.toNat < 64 := UInt8.lt_iff_toNat_lt.1 h
  obtain ⟨high₂, high₄, -⟩ := toNat_high v
  obtain ⟨left₂, left₄, left₆⟩ := toNat_shiftLeft u
  refine ⟨?_, ?_, ?_⟩
  · rw [toNat_or_of_lt left₂ (by rw [high₄]; omega), left₂, high₄, Nat.shiftLeft_eq]
  · rw [toNat_or_of_lt left₄ (by rw [high₂]; omega), left₄, high₂, Nat.shiftLeft_eq]
  · rw [toNat_or_of_lt left₆ (by omega), left₆, Nat.shiftLeft_eq]

/-! ## The written form -/

/-- The alphabet of RFC 2045, section 6.8. -/
def alphabet : List Char :=
  "ABCDEFGHIJKLMNOPQRSTUVWXYZabcdefghijklmnopqrstuvwxyz0123456789+/".toList

/-- The four digits of a group. Three octets are taken as one number. -/
def digits (a b c : UInt8) : List Char :=
  let n := (a.toNat * 256 + b.toNat) * 256 + c.toNat
  [n / 64 / 64 / 64, n / 64 / 64 % 64, n / 64 % 64, n % 64].map fun d => alphabet.getD d '='

/-- Octets in base64, as RFC 2045 describes it: zeros stand in for the octets that the last group
lacks, and equals signs for the digits that say nothing of it. -/
def prescribed : Octets → List Char
  | a :: b :: c :: rest => digits a b c ++ prescribed rest
  | [a, b] => (digits a b 0).take 3 ++ ['=']
  | [a] => (digits a 0 0).take 2 ++ ['=', '=']
  | [] => []

theorem char_symbol {v : UInt8} (h : v < 64) :
    Char.ofNat (symbol v).toNat = alphabet.getD v.toNat '=' := by
  revert h
  exact forall_octet
    (P := fun v => v < 64 → Char.ofNat (symbol v).toNat = alphabet.getD v.toNat '=') (by decide) v

/-- The symbols of a group are its digits. -/
theorem chars_group (a b c : UInt8) :
    [symbol (a >>> 2), symbol ((a &&& 3) <<< 4 ||| b >>> 4),
        symbol ((b &&& 15) <<< 2 ||| c >>> 6), symbol (c &&& 63)].map
      (fun s => Char.ofNat s.toNat) = digits a b c := by
  have ha := a.toNat_lt
  have hb := b.toNat_lt
  have hc := c.toNat_lt
  have first := char_symbol (high_lt a).1
  have second := char_symbol (or_lt (low_lt a).1 (high_lt b).2.1)
  have third := char_symbol (or_lt (low_lt b).2.1 (high_lt c).2.2)
  have fourth := char_symbol (low_lt c).2.2
  rw [(toNat_high a).1] at first
  rw [toNat_second] at second
  rw [toNat_third] at third
  rw [(toNat_low c).2.2] at fourth
  have h₁ : a.toNat / 4 = ((a.toNat * 256 + b.toNat) * 256 + c.toNat) / 64 / 64 / 64 := by omega
  have h₂ : a.toNat % 4 * 16 + b.toNat / 16 =
      ((a.toNat * 256 + b.toNat) * 256 + c.toNat) / 64 / 64 % 64 := by omega
  have h₃ : b.toNat % 16 * 4 + c.toNat / 64 =
      ((a.toNat * 256 + b.toNat) * 256 + c.toNat) / 64 % 64 := by omega
  have h₄ : c.toNat % 64 = ((a.toNat * 256 + b.toNat) * 256 + c.toNat) % 64 := by omega
  simp only [List.map_cons, List.map_nil, first, second, third, fourth, digits, h₁, h₂, h₃, h₄]

theorem encodeText_eq_prescribed (octets : Octets) : encodeText octets = prescribed octets := by
  induction octets using encode.induct with
  | case1 a b c rest ih =>
    rw [prescribed, ← ih, ← chars_group]
    rfl
  | case2 a b =>
    rw [prescribed, ← chars_group]
    have none : (0 : UInt8) >>> 6 = 0 := by decide
    rw [none, UInt8.or_zero]
    rfl
  | case3 a =>
    rw [prescribed, ← chars_group]
    have none : (0 : UInt8) >>> 4 = 0 := by decide
    rw [none, UInt8.or_zero]
    rfl
  | case4 => rfl

/-- Every group of three octets takes four symbols, and so does what is left at the end. -/
theorem length_encode (octets : Octets) :
    (encode octets).length = 4 * ((octets.length + 2) / 3) := by
  induction octets using encode.induct with
  | case1 a b c rest ih =>
    simp only [encode, List.length_cons, ih]
    omega
  | case2 a b => simp [encode]
  | case3 a => simp [encode]
  | case4 => rfl

/-- Whole groups are written on their own. -/
theorem encode_append {a : Octets} (h : a.length % 3 = 0) (b : Octets) :
    encode (a ++ b) = encode a ++ encode b := by
  induction a using encode.induct with
  | case1 x y z rest ih =>
    have hrest : rest.length % 3 = 0 := by
      simp only [List.length_cons] at h
      omega
    simp [encode, ih hrest]
  | case2 x y => simp at h
  | case3 x => simp at h
  | case4 => rfl

/-! ## Symbols -/

/-- Whether an octet can stand in base64. -/
def IsSymbol (s : UInt8) : Prop := s = pad ∨ (value? s).isSome = true

theorem isSymbol_symbol {v : UInt8} (h : v < 64) : IsSymbol (symbol v) :=
  Or.inr (by rw [value?_symbol h]; rfl)

theorem isSymbol_of_mem_encode {octets : Octets} {s : UInt8} (h : s ∈ encode octets) :
    IsSymbol s := by
  induction octets using encode.induct with
  | case1 a b c rest ih =>
    simp only [encode, List.mem_cons] at h
    rcases h with rfl | rfl | rfl | rfl | h
    · exact isSymbol_symbol (high_lt a).1
    · exact isSymbol_symbol (or_lt (low_lt a).1 (high_lt b).2.1)
    · exact isSymbol_symbol (or_lt (low_lt b).2.1 (high_lt c).2.2)
    · exact isSymbol_symbol (low_lt c).2.2
    · exact ih h
  | case2 a b =>
    simp only [encode, List.mem_cons, List.not_mem_nil, or_false] at h
    rcases h with rfl | rfl | rfl | rfl
    · exact isSymbol_symbol (high_lt a).1
    · exact isSymbol_symbol (or_lt (low_lt a).1 (high_lt b).2.1)
    · exact isSymbol_symbol (low_lt b).2.1
    · exact Or.inl rfl
  | case3 a =>
    simp only [encode, List.mem_cons, List.not_mem_nil, or_false] at h
    rcases h with rfl | rfl | rfl | rfl
    · exact isSymbol_symbol (high_lt a).1
    · exact isSymbol_symbol (low_lt a).1
    · exact Or.inl rfl
    · exact Or.inl rfl
  | case4 => simp [encode] at h

theorem symbol_ne_pad {v : UInt8} (h : v < 64) : symbol v ≠ pad := by
  intro hpad
  have hvalue := value?_symbol h
  have hnone : value? pad = none := by decide
  rw [hpad, hnone] at hvalue
  cases hvalue

/-- Padding stands only at the end, for what the last group lacks. -/
theorem exists_encode_eq (octets : Octets) : ∃ symbols, pad ∉ symbols ∧
    encode octets = symbols ++ List.replicate ((3 - octets.length % 3) % 3) pad := by
  induction octets using encode.induct with
  | case1 a b c rest ih =>
    obtain ⟨symbols, unpadded, isEncoded⟩ := ih
    have second := symbol_ne_pad (or_lt (low_lt a).1 (high_lt b).2.1)
    have third := symbol_ne_pad (or_lt (low_lt b).2.1 (high_lt c).2.2)
    refine ⟨symbol (a >>> 2) :: symbol ((a &&& 3) <<< 4 ||| b >>> 4) ::
      symbol ((b &&& 15) <<< 2 ||| c >>> 6) :: symbol (c &&& 63) :: symbols, ?_, ?_⟩
    · simp [(symbol_ne_pad (high_lt a).1).symm, second.symm, third.symm,
        (symbol_ne_pad (low_lt c).2.2).symm, unpadded]
    · have same : (a :: b :: c :: rest).length % 3 = rest.length % 3 := by
        simp only [List.length_cons]
        omega
      rw [encode, isEncoded, same]
      rfl
  | case2 a b =>
    have second := symbol_ne_pad (or_lt (low_lt a).1 (high_lt b).2.1)
    refine ⟨[symbol (a >>> 2), symbol ((a &&& 3) <<< 4 ||| b >>> 4), symbol ((b &&& 15) <<< 2)],
      ?_, rfl⟩
    simp [(symbol_ne_pad (high_lt a).1).symm, second.symm, (symbol_ne_pad (low_lt b).2.1).symm]
  | case3 a =>
    refine ⟨[symbol (a >>> 2), symbol ((a &&& 3) <<< 4)], ?_, rfl⟩
    simp [(symbol_ne_pad (high_lt a).1).symm, (symbol_ne_pad (low_lt a).1).symm]
  | case4 => exact ⟨[], List.not_mem_nil, rfl⟩

/-- What holds of all symbols holds of the characters of a text in base64. -/
theorem forall_mem_encodeText {P : Char → Prop} (h : ∀ s, IsSymbol s → P (Char.ofNat s.toNat))
    (octets : Octets) : ∀ c ∈ encodeText octets, P c := by
  intro c hc
  obtain ⟨s, hs, rfl⟩ := List.mem_map.1 hc
  exact h s (isSymbol_of_mem_encode hs)

/-- Symbols are characters of one octet. -/
theorem ofChars_encodeText (octets : Octets) :
    Octets.ofChars (encodeText octets) = encode octets := by
  have hsymbol : ∀ s, s = pad ∨ (value? s).isSome = true →
      String.utf8EncodeChar (Char.ofNat s.toNat) = [s] := forall_octet (by decide)
  have hall : ∀ s ∈ encode octets, String.utf8EncodeChar (Char.ofNat s.toNat) = [s] :=
    fun s hs => hsymbol s (isSymbol_of_mem_encode hs)
  rw [encodeText, Octets.ofChars, List.flatMap_map, List.flatMap_congr hall]
  simp

/-! ## Reading -/

/-! The octets of a group are put together from the values of its symbols. -/

theorem join_two (b : UInt8) : (b >>> 2) <<< 2 ||| ((b &&& 3) <<< 4) >>> 4 = b := by
  revert b
  exact forall_octet (by decide)

theorem join_first (a b : UInt8) : (a >>> 2) <<< 2 ||| ((a &&& 3) <<< 4 ||| b >>> 4) >>> 4 = a := by
  have ha := a.toNat_lt
  have hb := b.toNat_lt
  apply UInt8.toNat_inj.1
  rw [(toNat_join (or_lt (low_lt a).1 (high_lt b).2.1)).1, (toNat_high a).1, toNat_second]
  omega

theorem join_second (a b c : UInt8) :
    ((a &&& 3) <<< 4 ||| b >>> 4) <<< 4 ||| ((b &&& 15) <<< 2 ||| c >>> 6) >>> 2 = b := by
  have hb := b.toNat_lt
  have hc := c.toNat_lt
  apply UInt8.toNat_inj.1
  rw [(toNat_join (or_lt (low_lt b).2.1 (high_lt c).2.2)).2.1, toNat_second, toNat_third]
  omega

theorem join_third (b c : UInt8) : ((b &&& 15) <<< 2 ||| c >>> 6) <<< 6 ||| (c &&& 63) = c := by
  have hc := c.toNat_lt
  apply UInt8.toNat_inj.1
  rw [(toNat_join (low_lt c).2.2).2.2, toNat_third, (toNat_low c).2.2]
  omega

theorem join_last (a b : UInt8) :
    ((a &&& 3) <<< 4 ||| b >>> 4) <<< 4 ||| ((b &&& 15) <<< 2) >>> 2 = b := by
  have joined := join_second a b 0
  have none : (0 : UInt8) >>> 6 = 0 := by decide
  rwa [none, UInt8.or_zero] at joined

/-- Bits under the padding. -/
theorem under_padding (b : UInt8) :
    ((b &&& 3) <<< 4) &&& 15 = 0 ∧ ((b &&& 15) <<< 2) &&& 3 = 0 := by
  revert b
  exact forall_octet (by decide)

theorem decodeThree_group (a b c : UInt8) :
    decodeThree (symbol (a >>> 2)) (symbol ((a &&& 3) <<< 4 ||| b >>> 4))
      (symbol ((b &&& 15) <<< 2 ||| c >>> 6)) (symbol (c &&& 63)) = some [a, b, c] := by
  have h₁ := value?_symbol (high_lt a).1
  have h₂ := value?_symbol (or_lt (low_lt a).1 (high_lt b).2.1)
  have h₃ := value?_symbol (or_lt (low_lt b).2.1 (high_lt c).2.2)
  have h₄ := value?_symbol (low_lt c).2.2
  simp only [decodeThree, h₁, h₂, h₃, h₄, Option.bind_eq_bind, Option.bind_some, join_first,
    join_second, join_third]

theorem decodeTwo_group (a b : UInt8) :
    decodeTwo (symbol (a >>> 2)) (symbol ((a &&& 3) <<< 4 ||| b >>> 4))
      (symbol ((b &&& 15) <<< 2)) = some [a, b] := by
  have h₁ := value?_symbol (high_lt a).1
  have h₂ := value?_symbol (or_lt (low_lt a).1 (high_lt b).2.1)
  have h₃ := value?_symbol (low_lt b).2.1
  simp only [decodeTwo, h₁, h₂, h₃, Option.bind_eq_bind, Option.bind_some, join_first, join_last,
    (under_padding b).2, if_true]

theorem decodeOne_group (a : UInt8) :
    decodeOne (symbol (a >>> 2)) (symbol ((a &&& 3) <<< 4)) = some [a] := by
  have h₁ := value?_symbol (high_lt a).1
  have h₂ := value?_symbol (low_lt a).1
  simp only [decodeOne, h₁, h₂, Option.bind_eq_bind, Option.bind_some, (under_padding a).1,
    if_true, join_two]

/-- Octets are read back from their base64. -/
theorem decode_encode (octets : Octets) : decode (encode octets) = some octets := by
  induction octets using encode.induct with
  | case1 a b c rest ih =>
    have h₄ : symbol (c &&& 63) ≠ pad := symbol_ne_pad (low_lt c).2.2
    simp [encode, decode, h₄, decodeThree_group, ih]
  | case2 a b =>
    have h₃ : symbol ((b &&& 15) <<< 2) ≠ pad := symbol_ne_pad (low_lt b).2.1
    simp [encode, decode, h₃, decodeTwo_group]
  | case3 a => simp [encode, decode, decodeOne_group]
  | case4 => rfl

/-! ## Strict reading -/

/-- The first value of a group is split off again. -/
theorem split_first {a b : UInt8} (ha : a < 64) (hb : b < 64) : (a <<< 2 ||| b >>> 4) >>> 2 = a := by
  have ha : a.toNat < 64 := UInt8.lt_iff_toNat_lt.1 ha
  have hb' : b.toNat < 64 := UInt8.lt_iff_toNat_lt.1 hb
  apply UInt8.toNat_inj.1
  rw [(toNat_high _).1, (toNat_join hb).1]
  omega

theorem split_second {a b c : UInt8} (hb : b < 64) (hc : c < 64) :
    ((a <<< 2 ||| b >>> 4) &&& 3) <<< 4 ||| (b <<< 4 ||| c >>> 2) >>> 4 = b := by
  have hb' : b.toNat < 64 := UInt8.lt_iff_toNat_lt.1 hb
  have hc' : c.toNat < 64 := UInt8.lt_iff_toNat_lt.1 hc
  apply UInt8.toNat_inj.1
  rw [toNat_second, (toNat_join hb).1, (toNat_join hc).2.1]
  omega

theorem split_third {b c d : UInt8} (hc : c < 64) (hd : d < 64) :
    ((b <<< 4 ||| c >>> 2) &&& 15) <<< 2 ||| (c <<< 6 ||| d) >>> 6 = c := by
  have hc' : c.toNat < 64 := UInt8.lt_iff_toNat_lt.1 hc
  have hd' : d.toNat < 64 := UInt8.lt_iff_toNat_lt.1 hd
  apply UInt8.toNat_inj.1
  rw [toNat_third, (toNat_join hc).2.1, (toNat_join hd).2.2]
  omega

theorem split_fourth {c d : UInt8} (hd : d < 64) : (c <<< 6 ||| d) &&& 63 = d := by
  have hd' : d.toNat < 64 := UInt8.lt_iff_toNat_lt.1 hd
  apply UInt8.toNat_inj.1
  rw [(toNat_low _).2.2, (toNat_join hd).2.2]
  omega

theorem encode_of_decodeThree {s₁ s₂ s₃ s₄ : UInt8} {group : Octets}
    (h : decodeThree s₁ s₂ s₃ s₄ = some group) (rest : Octets) :
    encode (group ++ rest) = s₁ :: s₂ :: s₃ :: s₄ :: encode rest := by
  simp only [decodeThree, Option.bind_eq_bind, Option.bind_eq_some_iff, Option.some.injEq] at h
  obtain ⟨a, ha, b, hb, c, hc, d, hd, rfl⟩ := h
  obtain ⟨a_lt, rfl⟩ := value?_eq_some ha
  obtain ⟨b_lt, rfl⟩ := value?_eq_some hb
  obtain ⟨c_lt, rfl⟩ := value?_eq_some hc
  obtain ⟨d_lt, rfl⟩ := value?_eq_some hd
  simp only [List.cons_append, List.nil_append, encode, split_first a_lt b_lt,
    split_second b_lt c_lt, split_third c_lt d_lt, split_fourth d_lt]

/-! The last value of a shorter group is whole, as no bits stand under the padding. -/

theorem split_last_two {a b : UInt8} (hb : b < 64) (bare : b &&& 15 = 0) :
    ((a <<< 2 ||| b >>> 4) &&& 3) <<< 4 = b := by
  have hb' : b.toNat < 64 := UInt8.lt_iff_toNat_lt.1 hb
  have bare : b.toNat % 16 = 0 := by rw [← (toNat_under b).1, bare]; rfl
  apply UInt8.toNat_inj.1
  rw [(toNat_low _).1, (toNat_join hb).1, Nat.shiftLeft_eq]
  omega

theorem split_last_three {b c : UInt8} (hc : c < 64) (bare : c &&& 3 = 0) :
    ((b <<< 4 ||| c >>> 2) &&& 15) <<< 2 = c := by
  have hc' : c.toNat < 64 := UInt8.lt_iff_toNat_lt.1 hc
  have bare : c.toNat % 4 = 0 := by rw [← (toNat_under c).2, bare]; rfl
  apply UInt8.toNat_inj.1
  rw [(toNat_low _).2.1, (toNat_join hc).2.1, Nat.shiftLeft_eq]
  omega

theorem encode_of_decodeTwo {s₁ s₂ s₃ : UInt8} {group : Octets}
    (h : decodeTwo s₁ s₂ s₃ = some group) : encode group = [s₁, s₂, s₃, pad] := by
  simp only [decodeTwo, Option.bind_eq_bind, Option.bind_eq_some_iff, Option.ite_none_right_eq_some,
    Option.some.injEq] at h
  obtain ⟨a, ha, b, hb, c, hc, bare, rfl⟩ := h
  obtain ⟨a_lt, rfl⟩ := value?_eq_some ha
  obtain ⟨b_lt, rfl⟩ := value?_eq_some hb
  obtain ⟨c_lt, rfl⟩ := value?_eq_some hc
  simp only [encode, split_first a_lt b_lt, split_second b_lt c_lt,
    split_last_three c_lt bare]

theorem encode_of_decodeOne {s₁ s₂ : UInt8} {group : Octets}
    (h : decodeOne s₁ s₂ = some group) : encode group = [s₁, s₂, pad, pad] := by
  simp only [decodeOne, Option.bind_eq_bind, Option.bind_eq_some_iff, Option.ite_none_right_eq_some,
    Option.some.injEq] at h
  obtain ⟨a, ha, b, hb, bare, rfl⟩ := h
  obtain ⟨a_lt, rfl⟩ := value?_eq_some ha
  obtain ⟨b_lt, rfl⟩ := value?_eq_some hb
  simp only [encode, split_first a_lt b_lt, split_last_two b_lt bare]

/-- Only what is written is read. -/
theorem encode_of_decode {symbols octets : Octets} (h : decode symbols = some octets) :
    encode octets = symbols := by
  induction symbols using decode.induct generalizing octets with
  | case1 =>
    cases h
    rfl
  | case2 s₁ s₂ s₃ s₄ rest padded =>
    rw [decode, if_pos padded] at h
    simp only [Bool.and_eq_true, List.isEmpty_iff, beq_iff_eq] at padded
    obtain ⟨⟨rfl, rfl⟩, rfl⟩ := padded
    exact encode_of_decodeOne h
  | case3 s₁ s₂ s₃ s₄ rest full padded =>
    rw [decode, if_neg full, if_pos padded] at h
    simp only [Bool.and_eq_true, List.isEmpty_iff, beq_iff_eq] at padded
    obtain ⟨rfl, rfl⟩ := padded
    exact encode_of_decodeTwo h
  | case4 s₁ s₂ s₃ s₄ rest full full' ih =>
    rw [decode, if_neg full, if_neg full'] at h
    simp only [Option.bind_eq_bind, Option.bind_eq_some_iff, Option.some.injEq] at h
    obtain ⟨group, read, more, readMore, rfl⟩ := h
    rw [encode_of_decodeThree read, ih readMore]
  | case5 symbols notNil notLong =>
    rw [decode] at h
    · cases h
    · exact notNil
    · exact notLong

theorem decode_eq_some_iff {symbols octets : Octets} :
    decode symbols = some octets ↔ symbols = encode octets :=
  ⟨fun h => (encode_of_decode h).symm, fun h => h ▸ decode_encode octets⟩

end Base64
end Outbox
