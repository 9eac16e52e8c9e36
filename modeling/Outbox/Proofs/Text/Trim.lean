import Mathlib.Data.List.DropRight
import Outbox.Proofs.Text.Encoding

/-!
# Outbox.Proofs.Text.Trim — texts without a class of characters at their ends

`strip` drops the members of a class from both ends of a text. What is left has bare ends, and a
text with bare ends is left as it is. Members of the class can be put around a text without a
change to what is left, so of two classes the smaller one can be stripped before the larger one.

Trimming does not look at the case of letters (`trim_lower`).
-/

namespace Outbox.Text

variable {p q : Char → Bool} {text : List Char}

/-- A text that neither begins nor ends with a member of a class. -/
structure BareEnds (p : Char → Bool) (text : List Char) : Prop where
  first : ∀ c ∈ text.head?, p c = false
  last : ∀ c ∈ text.getLast?, p c = false

instance (p : Char → Bool) (text : List Char) : Decidable (BareEnds p text) :=
  decidable_of_iff (text.head?.any p = false ∧ text.getLast?.any p = false) <| by
    simp only [Option.any_eq_false]
    exact ⟨fun h => ⟨h.1, h.2⟩, fun h => ⟨h.1, h.2⟩⟩

theorem BareEnds.of_imp (himp : ∀ c, q c = true → p c = true) (h : BareEnds p text) :
    BareEnds q text := by
  have hnot : ∀ c, p c = false → q c = false := by
    intro c hc
    cases hq : q c with
    | false => rfl
    | true => exact absurd (himp c hq) (by simp [hc])
  constructor
  · intro c hc
    exact hnot c (h.first c hc)
  · intro c hc
    exact hnot c (h.last c hc)

theorem strip_eq (p : Char → Bool) (text : List Char) :
    strip p text = (text.dropWhile p).rdropWhile p := rfl

theorem strip_of_bareEnds (h : BareEnds p text) : strip p text = text := by
  have hfirst : text.dropWhile p = text := by
    cases text with
    | nil => rfl
    | cons c rest => exact List.dropWhile_cons_of_neg (by simp [h.first c rfl])
  rw [strip_eq, hfirst]
  cases text using List.reverseRecOn with
  | nil => rfl
  | append_singleton init c =>
    have hlast := h.last c (by simp)
    exact List.rdropWhile_concat_neg _ _ _ (by simp [hlast])

/-- What is left begins as the text without its start does. -/
theorem bareEnds_strip (p : Char → Bool) (text : List Char) : BareEnds p (strip p text) := by
  rw [strip_eq]
  constructor
  · intro c hc
    rcases List.rdropWhile_prefix p (text.dropWhile p) with ⟨after, hafter⟩
    have hfirst : (text.dropWhile p).head? = some c := by
      rw [← hafter, List.head?_append, Option.mem_def.1 hc]
      rfl
    have hnot := List.head?_dropWhile_not p text
    rw [hfirst] at hnot
    exact hnot
  · intro c hc
    rw [List.rdropWhile, List.getLast?_reverse] at hc
    have hnot := List.head?_dropWhile_not p (text.dropWhile p).reverse
    rw [Option.mem_def.1 hc] at hnot
    exact hnot

theorem strip_strip (p : Char → Bool) (text : List Char) :
    strip p (strip p text) = strip p text :=
  strip_of_bareEnds (bareEnds_strip p text)

/-! ## Around a text -/

theorem strip_append_left {before : List Char} (h : ∀ c ∈ before, p c = true)
    (text : List Char) : strip p (before ++ text) = strip p text := by
  rw [strip_eq, List.dropWhile_append_of_pos h]
  rfl

theorem strip_concat {c : Char} (h : p c = true) (text : List Char) :
    strip p (text ++ [c]) = strip p text := by
  rw [strip_eq, strip_eq, List.dropWhile_append]
  split
  case isTrue hempty =>
    have hnil : text.dropWhile p = [] := by simpa using hempty
    rw [hnil, List.dropWhile_cons_of_pos h]
    rfl
  case isFalse => rw [List.rdropWhile_concat_pos _ _ _ h]

theorem strip_append_right {after : List Char} (h : ∀ c ∈ after, p c = true)
    (text : List Char) : strip p (text ++ after) = strip p text := by
  induction after using List.reverseRecOn with
  | nil => rw [List.append_nil]
  | append_singleton after c ih =>
    have hc := h c (List.mem_append_right after (List.mem_singleton_self c))
    rw [← List.append_assoc, strip_concat hc]
    exact ih fun x hx => h x (List.mem_append_left [c] hx)

/-- A text is what is left of it with members of the class around. -/
theorem exists_strip (p : Char → Bool) (text : List Char) :
    ∃ before after, text = before ++ (strip p text ++ after) ∧
      (∀ c ∈ before, p c = true) ∧ ∀ c ∈ after, p c = true := by
  refine ⟨text.takeWhile p, (text.dropWhile p).rtakeWhile p, ?_, ?_, ?_⟩
  · rw [strip_eq, List.rdropWhile_append_rtakeWhile, List.takeWhile_append_dropWhile]
  · intro c hc
    exact List.mem_takeWhile_imp hc
  · intro c hc
    exact List.mem_rtakeWhile_imp hc

/-- A smaller class can be stripped first. -/
theorem strip_strip_of_imp (h : ∀ c, q c = true → p c = true) (text : List Char) :
    strip p (strip q text) = strip p text := by
  rcases exists_strip q text with ⟨before, after, htext, hbefore, hafter⟩
  have hleft : ∀ c ∈ before, p c = true := fun c hc => h c (hbefore c hc)
  have hright : ∀ c ∈ after, p c = true := fun c hc => h c (hafter c hc)
  calc strip p (strip q text)
      = strip p (strip q text ++ after) := (strip_append_right hright _).symm
    _ = strip p (before ++ (strip q text ++ after)) := (strip_append_left hleft _).symm
    _ = strip p text := by rw [← htext]

theorem strip_of_forall (h : ∀ c ∈ text, p c = true) : strip p text = [] := by
  have hleft := strip_append_left h []
  rwa [List.append_nil] at hleft

/-- A class of which nothing is left can be taken out of the text altogether. -/
theorem strip_filter {text : List Char} (hnone : ∀ c ∈ strip p text, q c = false) :
    strip p (text.filter fun c => !q c) = strip p text := by
  rcases exists_strip p text with ⟨before, after, htext, hbefore, hafter⟩
  have hself : (strip p text).filter (fun c => !q c) = strip p text := by
    rw [List.filter_eq_self]
    intro c hc
    simp [hnone c hc]
  have hleft : ∀ c ∈ before.filter fun c => !q c, p c = true :=
    fun c hc => hbefore c (List.mem_of_mem_filter hc)
  have hright : ∀ c ∈ after.filter fun c => !q c, p c = true :=
    fun c hc => hafter c (List.mem_of_mem_filter hc)
  calc strip p (text.filter fun c => !q c)
      = strip p (before.filter (fun c => !q c) ++ (strip p text ++ after.filter fun c => !q c)) := by
        conv_lhs => rw [htext, List.filter_append, List.filter_append, hself]
    _ = strip p (strip p text ++ after.filter fun c => !q c) := strip_append_left hleft _
    _ = strip p (strip p text) := strip_append_right hright _
    _ = strip p text := strip_strip p text

/-- Characters of the same class can be put in place of others. -/
theorem strip_map {f : Char → Char} (h : ∀ c, p (f c) = p c) (text : List Char) :
    strip p (text.map f) = (strip p text).map f := by
  have hclass : p ∘ f = p := funext h
  simp only [strip, ← List.map_reverse, List.dropWhile_map, hclass]

theorem strip_subset (p : Char → Bool) (text : List Char) : strip p text ⊆ text := by
  intro c hc
  exact List.dropWhile_subset _ ((List.rdropWhile_prefix _ _).subset hc)

/-! ## Letters -/

/-- Only ASCII letters have another case. -/
theorem toLower_of_not_ascii {c : Char} (h : ¬ c.toNat < 128) : c.toLower = c := by
  apply dif_neg
  rintro ⟨-, hlast⟩
  exact h (Nat.lt_of_le_of_lt (UInt32.le_iff_toNat_le.1 hlast) (by decide))

theorem toLower_toLower (c : Char) : c.toLower.toLower = c.toLower := by
  by_cases hascii : c.toNat < 128
  · exact Octets.forall_ascii (P := fun c => c.toLower.toLower = c.toLower) (by decide) hascii
  · rw [toLower_of_not_ascii hascii, toLower_of_not_ascii hascii]

/-- A letter is no white space in either case. -/
theorem isWhite_toLower (c : Char) : isWhite c.toLower = isWhite c := by
  by_cases hascii : c.toNat < 128
  · exact Octets.forall_ascii (P := fun c => isWhite c.toLower = isWhite c) (by decide) hascii
  · rw [toLower_of_not_ascii hascii]

theorem lower_lower (text : List Char) : lower (lower text) = lower text := by
  rw [lower, lower, List.map_map]
  exact List.map_congr_left fun c _ => toLower_toLower c

theorem trim_lower (text : List Char) : trim (lower text) = lower (trim text) :=
  strip_map isWhite_toLower text

end Outbox.Text
