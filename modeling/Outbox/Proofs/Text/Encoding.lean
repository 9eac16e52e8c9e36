import Mathlib.Data.List.Basic
import Outbox.Octets
import Outbox.Text.Classes

/-!
# Outbox.Proofs.Text.Encoding — text and its octets

ASCII characters are octets of their own, and no other character has an octet below 128.
So what a rule says about ASCII in octets it says about the characters of the text.
-/

namespace Outbox

namespace Text

theorem size_cons (c : Char) (text : List Char) : size (c :: text) = c.utf8Size + size text := rfl

theorem size_append (a b : List Char) : size (a ++ b) = size a + size b := by
  induction a with
  | nil => exact (Nat.zero_add _).symm
  | cons c a ih => rw [List.cons_append, size_cons, size_cons, ih, Nat.add_assoc]

theorem mem_intercalate {separator : List Char} {texts : List (List Char)} {c : Char}
    (h : c ∈ separator.intercalate texts) : c ∈ separator ∨ ∃ text ∈ texts, c ∈ text := by
  induction texts with
  | nil => exact absurd h List.not_mem_nil
  | cons text more ih =>
    cases more with
    | nil =>
      rw [List.intercalate_singleton] at h
      exact Or.inr ⟨text, List.mem_cons_self, h⟩
    | cons next more =>
      rw [List.intercalate_cons_cons, List.mem_append, List.mem_append] at h
      rcases h with (h | h) | h
      · exact Or.inr ⟨text, List.mem_cons_self, h⟩
      · exact Or.inl h
      · rcases ih h with hc | ⟨found, hfound, hc⟩
        · exact Or.inl hc
        · exact Or.inr ⟨found, List.mem_cons_of_mem text hfound, hc⟩

theorem mem_intercalate_of_mem (separator : List Char) {texts : List (List Char)}
    {text : List Char} (htext : text ∈ texts) {c : Char} (hc : c ∈ text) :
    c ∈ separator.intercalate texts := by
  induction texts with
  | nil => exact absurd htext List.not_mem_nil
  | cons first more ih =>
    cases more with
    | nil =>
      rw [List.intercalate_singleton]
      exact List.mem_singleton.1 htext ▸ hc
    | cons next more =>
      rw [List.intercalate_cons_cons, List.mem_append, List.mem_append]
      rcases List.mem_cons.1 htext with rfl | htext
      · exact Or.inl (Or.inl hc)
      · exact Or.inr (ih htext)

end Text

namespace Octets

theorem ofChars_cons (c : Char) (text : List Char) :
    ofChars (c :: text) = String.utf8EncodeChar c ++ ofChars text := rfl

/-- The size of a text is the number of its octets. -/
theorem length_ofChars (text : List Char) : (ofChars text).length = Text.size text := by
  induction text with
  | nil => rfl
  | cons c text ih =>
    rw [ofChars_cons, List.length_append, ih, Text.size_cons, String.length_utf8EncodeChar]

theorem ofChars_flatten (texts : List (List Char)) :
    ofChars texts.flatten = (texts.map ofChars).flatten := by
  induction texts with
  | nil => rfl
  | cons text texts ih =>
    rw [List.flatten_cons, ofChars_append, ih, List.map_cons, List.flatten_cons]

theorem ofChars_ne_nil {text : List Char} (h : text ≠ []) : ofChars text ≠ [] := by
  obtain ⟨c, rest, rfl⟩ := List.exists_cons_of_ne_nil h
  rw [ofChars_cons]
  exact List.append_ne_nil_of_left_ne_nil String.utf8EncodeChar_ne_nil _

theorem utf8EncodeChar_of_ascii {c : Char} (hc : c.toNat < 128) :
    String.utf8EncodeChar c = [UInt8.ofNat c.toNat] := by
  have hsmall : c.val.toNat ≤ 127 := Nat.le_of_lt_succ hc
  rw [String.utf8EncodeChar, if_pos hsmall]
  rfl

theorem ofChars_cons_of_ascii {c : Char} (hc : c.toNat < 128) (text : List Char) :
    ofChars (c :: text) = UInt8.ofNat c.toNat :: ofChars text := by
  rw [ofChars_cons, utf8EncodeChar_of_ascii hc]
  rfl

theorem le_of_mem_utf8EncodeChar {c : Char} (hc : ¬ c.toNat < 128) {b : UInt8}
    (hb : b ∈ String.utf8EncodeChar c) : 128 ≤ b.toNat := by
  have hlarge : ¬ c.val.toNat ≤ 127 := fun h => hc (Nat.lt_succ_of_le h)
  simp only [String.utf8EncodeChar, hlarge, if_false] at hb
  -- Two, three or four octets, each with its highest bit set.
  split at hb
  · simp only [List.mem_cons, List.not_mem_nil, or_false] at hb
    rcases hb with rfl | rfl <;> rw [UInt8.toNat_ofNat'] <;> omega
  · split at hb
    · simp only [List.mem_cons, List.not_mem_nil, or_false] at hb
      rcases hb with rfl | rfl | rfl <;> rw [UInt8.toNat_ofNat'] <;> omega
    · simp only [List.mem_cons, List.not_mem_nil, or_false] at hb
      rcases hb with rfl | rfl | rfl | rfl <;> rw [UInt8.toNat_ofNat'] <;> omega

theorem getLast?_utf8EncodeChar_lt (c : Char) :
    ∃ b, (String.utf8EncodeChar c).getLast? = some b ∧ b.toNat < 192 := by
  have hsmall : ∀ n, n < 192 → (UInt8.ofNat n).toNat < 192 := by
    intro n hn
    rw [UInt8.toNat_ofNat']
    omega
  have htail : c.val.toNat % 64 + 128 < 192 := by omega
  rw [String.utf8EncodeChar]
  -- An octet of its own, or the last of several, which carries six bits.
  split
  · exact ⟨_, rfl, hsmall _ (by omega)⟩
  · split
    · exact ⟨_, rfl, hsmall _ htail⟩
    · split <;> exact ⟨_, rfl, hsmall _ htail⟩

/-- No text ends in an octet that begins a character of several octets. -/
theorem getLast?_ofChars_lt {text : List Char} {b : UInt8}
    (h : (ofChars text).getLast? = some b) : b.toNat < 192 := by
  rcases List.eq_nil_or_concat text with rfl | ⟨init, c, rfl⟩
  · cases h
  · obtain ⟨last, hlast, hlt⟩ := getLast?_utf8EncodeChar_lt c
    rw [List.concat_eq_append, ofChars_append, ofChars_cons, ofChars_nil, List.append_nil,
      List.getLast?_append, hlast] at h
    cases h
    exact hlt

/-- An ASCII octet of a text is a character of it. -/
theorem mem_of_mem_ofChars {text : List Char} {c : Char} (hc : c.toNat < 128)
    (h : UInt8.ofNat c.toNat ∈ ofChars text) : c ∈ text := by
  have hvalue : (UInt8.ofNat c.toNat).toNat = c.toNat := by
    rw [UInt8.toNat_ofNat']
    omega
  obtain ⟨d, hd, hmem⟩ := List.mem_flatMap.1 h
  by_cases hascii : d.toNat < 128
  · rw [utf8EncodeChar_of_ascii hascii, List.mem_singleton] at hmem
    have hequal : c.toNat = d.toNat := by
      have := congrArg UInt8.toNat hmem
      rw [hvalue, UInt8.toNat_ofNat'] at this
      omega
    rwa [Char.toNat_inj.1 hequal]
  · have := le_of_mem_utf8EncodeChar hascii hmem
    omega

theorem getLast?_ofChars {text : List Char} {c : Char} (h : text.getLast? = some c)
    (hc : c.toNat < 128) : (ofChars text).getLast? = some (UInt8.ofNat c.toNat) := by
  obtain ⟨init, rfl⟩ := List.getLast?_eq_some_iff.1 h
  rw [ofChars_append, ofChars_cons_of_ascii hc, ofChars_nil, List.getLast?_concat]

/-! ## ASCII -/

/-- What holds for all pairs of hexadecimal digits below 128 holds for all ASCII characters. -/
theorem forall_ascii {P : Char → Prop} (h : ∀ i < 8, ∀ j < 16, P (Char.ofNat (16 * i + j)))
    {c : Char} (hc : c.toNat < 128) : P c := by
  have hdigits := h (c.toNat / 16) (by omega) (c.toNat % 16) (by omega)
  rwa [Nat.div_add_mod, Char.ofNat_toNat] at hdigits

theorem toNat_lt_of_isAlphanum {c : Char} (h : c.isAlphanum = true) : c.toNat < 128 := by
  -- Upper case, lower case and digits have a last character each.
  change ((decide (_ ∧ c.val ≤ 'Z'.val) || _ && decide (c.val ≤ 'z'.val)) ||
    _ && decide (c.val ≤ '9'.val)) = true at h
  simp only [Bool.or_eq_true, Bool.and_eq_true, decide_eq_true_eq, UInt32.le_iff_toNat_le] at h
  rcases h with (⟨-, hupper⟩ | ⟨-, hlower⟩) | ⟨-, hdigit⟩
  · exact Nat.lt_of_le_of_lt hupper (by decide)
  · exact Nat.lt_of_le_of_lt hlower (by decide)
  · exact Nat.lt_of_le_of_lt hdigit (by decide)

/-! ## Reading -/

/-- Reads octets as a text; `none` if they are no UTF-8. -/
def text? (octets : Octets) : Option (List Char) :=
  octets.toByteArray.utf8Decode?.map Array.toList

theorem text?_ofChars (text : List Char) : text? (ofChars text) = some text := by
  have hencode : (ofChars text).toByteArray = text.utf8Encode := rfl
  rw [text?, hencode, List.utf8Decode?_utf8Encode]
  rfl

/-- Octets that are read as a text are the octets of that text. -/
theorem ofChars_of_text? {octets : Octets} {text : List Char} (h : text? octets = some text) :
    ofChars text = octets := by
  obtain ⟨chars, hdecode, rfl⟩ := Option.map_eq_some_iff.1 h
  have hsome : octets.toByteArray.utf8Decode?.isSome = true := by rw [hdecode]; rfl
  have hencode := ByteArray.utf8Encode_get_utf8Decode? (h := hsome)
  simp only [hdecode, Option.get_some] at hencode
  have hchars : (ofChars chars.toList).toByteArray = octets.toByteArray := hencode
  exact List.toByteArray_inj.1 hchars

theorem ofChars_injective {a b : List Char} (h : ofChars a = ofChars b) : a = b := by
  have := congrArg text? h
  simpa [text?_ofChars] using this

end Octets
end Outbox
