import Mathlib
import Outbox.Headers

/-!
# Outbox.Proofs.Headers — what is found in a header

A field that was set is found under every spelling of its name, and no other field changes.
That a field is gone after it was taken out rests on the names being distinct. Every statement
about a lookup is one `if` on the names.
-/

namespace Outbox

/-! ## Names -/

theorem nameKey_ofList_lower (name : List Char) :
    nameKey (String.ofList (Text.lower name)) = Text.lower name := by
  simp [nameKey, Text.lower]

theorem sameName_congr {a b : String} (h : nameKey a = nameKey b) (x : String) :
    sameName x a = sameName x b := by
  simp [sameName, h]

/-! ## Lists of fields -/

namespace Field

theorem mem_put {e : Field} {name value : String} {fields : List Field}
    (h : e ∈ put name value fields) : e = (name, value) ∨ e ∈ fields := by
  induction fields with
  | nil => exact Or.inl (List.mem_singleton.1 h)
  | cons d rest ih =>
    rw [put] at h
    split at h
    · rcases List.mem_cons.1 h with h | h
      · exact Or.inl h
      · exact Or.inr (List.mem_cons_of_mem d h)
    · rcases List.mem_cons.1 h with rfl | h
      · exact Or.inr List.mem_cons_self
      · exact (ih h).imp_right (List.mem_cons_of_mem d)

theorem mem_drop {e : Field} {name : String} {fields : List Field} (h : e ∈ drop name fields) :
    e ∈ fields := by
  induction fields with
  | nil => simp [drop] at h
  | cons d rest ih =>
    rw [drop] at h
    split at h
    · exact List.mem_cons_of_mem d h
    · rcases List.mem_cons.1 h with rfl | h
      · exact List.mem_cons_self
      · exact List.mem_cons_of_mem d (ih h)

theorem find?_put (k : List Char) (name value : String) (fields : List Field) :
    (put name value fields).find? (fun e => key e == k) =
      if nameKey name = k then some (name, value) else fields.find? fun e => key e == k := by
  induction fields with
  | nil =>
    by_cases hk : nameKey name = k
    · simp [put, key, hk]
    · simp [put, key, hk]
  | cons e rest ih =>
    by_cases he : key e = nameKey name
    · have hput : put name value (e :: rest) = (name, value) :: rest :=
        if_pos (sameName_iff.2 he)
      by_cases hk : nameKey name = k
      · simp [hput, key, hk]
      · have hek : ¬ key e = k := fun h => hk (he.symm.trans h)
        have hnk : ¬ key (name, value) = k := hk
        simp [hput, hk, hek, hnk]
    · have hput : put name value (e :: rest) = e :: put name value rest :=
        if_neg fun h => he (sameName_iff.1 h)
      rw [hput, List.find?_cons, List.find?_cons, ih]
      cases hek : key e == k with
      | true =>
        have hk : ¬ nameKey name = k := fun h => he ((beq_iff_eq.1 hek).trans h.symm)
        simp [hk]
      | false => rfl

theorem find?_drop {fields : List Field} (h : (fields.map key).Nodup) (k : List Char)
    (name : String) :
    (drop name fields).find? (fun e => key e == k) =
      if nameKey name = k then none else fields.find? fun e => key e == k := by
  induction fields with
  | nil => simp [drop]
  | cons e rest ih =>
    obtain ⟨hnew, hrest⟩ := List.nodup_cons.1 h
    by_cases he : key e = nameKey name
    · have hdrop : drop name (e :: rest) = rest := if_pos (sameName_iff.2 he)
      by_cases hk : nameKey name = k
      · -- No other field has the name that was taken out.
        rw [hdrop, if_pos hk, List.find?_eq_none]
        intro d hd hdk
        have hkey : key d = key e := (beq_iff_eq.1 hdk).trans (he.trans hk).symm
        exact hnew (hkey ▸ List.mem_map_of_mem hd)
      · have hek : ¬ key e = k := fun h => hk (he.symm.trans h)
        simp [hdrop, hk, hek]
    · have hdrop : drop name (e :: rest) = e :: drop name rest :=
        if_neg fun h => he (sameName_iff.1 h)
      rw [hdrop, List.find?_cons, List.find?_cons, ih hrest]
      cases hek : key e == k with
      | true =>
        have hk : ¬ nameKey name = k := fun h => he ((beq_iff_eq.1 hek).trans h.symm)
        simp [hk]
      | false => rfl

theorem find?_cons_drop {fields : List Field} (h : (fields.map key).Nodup) (k : List Char)
    (name value : String) :
    ((name, value) :: drop name fields).find? (fun e => key e == k) =
      if nameKey name = k then some (name, value) else fields.find? fun e => key e == k := by
  rw [List.find?_cons, find?_drop h]
  by_cases hk : nameKey name = k
  · simp [key, hk]
  · have hnew : (key (name, value) == k) = false := beq_eq_false_iff_ne.2 hk
    simp [hnew, hk]

end Field

/-! ## Updates -/

namespace Headers

section

variable {P : Field → Prop} {h : Headers} {name value : String}

theorem forall_insert (hfields : ∀ e ∈ h.entries, P e) (hnew : P (name, value)) :
    ∀ e ∈ (h.insert name value).entries, P e := by
  intro e he
  rcases Field.mem_put he with rfl | he
  · exact hnew
  · exact hfields e he

theorem forall_erase (hfields : ∀ e ∈ h.entries, P e) : ∀ e ∈ (h.erase name).entries, P e :=
  fun e he => hfields e (Field.mem_drop he)

theorem forall_insertFirst (hfields : ∀ e ∈ h.entries, P e) (hnew : P (name, value)) :
    ∀ e ∈ (h.insertFirst name value).entries, P e := by
  intro e he
  rcases List.mem_cons.1 he with rfl | he
  · exact hnew
  · exact hfields e (Field.mem_drop he)

end

/-! ## Lookups -/

theorem getEntry?_insert (h : Headers) (name value x : String) :
    getEntry? (h.insert name value) x =
      if nameKey name = nameKey x then some (name, value) else h.getEntry? x :=
  Field.find?_put (nameKey x) name value h.entries

theorem getEntry?_erase (h : Headers) (name x : String) :
    getEntry? (h.erase name) x = if nameKey name = nameKey x then none else h.getEntry? x :=
  Field.find?_drop h.distinct (nameKey x) name

theorem getEntry?_insertFirst (h : Headers) (name value x : String) :
    getEntry? (h.insertFirst name value) x =
      if nameKey name = nameKey x then some (name, value) else h.getEntry? x :=
  Field.find?_cons_drop h.distinct (nameKey x) name value

theorem getEntry?_congr {a b : String} (h : nameKey a = nameKey b) (headers : Headers) :
    headers.getEntry? a = headers.getEntry? b := by
  simp [sameName_congr h, getEntry?]

theorem get?_insert (h : Headers) (name value x : String) :
    (h.insert name value).get? x = if nameKey name = nameKey x then some value else h.get? x := by
  rw [get?, getEntry?_insert]
  split
  · rfl
  · rfl

theorem get?_erase (h : Headers) (name x : String) :
    (h.erase name).get? x = if nameKey name = nameKey x then none else h.get? x := by
  rw [get?, getEntry?_erase]
  split
  · rfl
  · rfl

theorem get?_insertFirst (h : Headers) (name value x : String) :
    (h.insertFirst name value).get? x =
      if nameKey name = nameKey x then some value else h.get? x := by
  rw [get?, getEntry?_insertFirst]
  split
  · rfl
  · rfl

/-- A name that nothing is found under is the name of no field. -/
theorem not_sameName_of_get? {h : Headers} {name : String} (hnone : h.get? name = none) :
    ∀ e ∈ h.entries, sameName e.1 name = false := by
  intro e he
  have hfind : h.entries.find? (fun e => sameName e.1 name) = none := Option.map_eq_none_iff.1 hnone
  rw [List.find?_eq_none] at hfind
  simpa using hfind e he

/-- A field that was found is found again by its own name in lower case. -/
theorem getEntry?_lower {headers : Headers} {name : String} {e : Field}
    (h : headers.getEntry? name = some e) :
    headers.getEntry? (String.ofList (Text.lower e.1.toList)) = some e := by
  have hsame : sameName e.1 name = true := by
    simpa using List.find?_some h
  have hkey : nameKey (String.ofList (Text.lower e.1.toList)) = nameKey name := by
    rw [nameKey_ofList_lower]
    exact sameName_iff.1 hsame
  have hcongr := getEntry?_congr hkey headers
  rw [hcongr, h]

end Headers
end Outbox
