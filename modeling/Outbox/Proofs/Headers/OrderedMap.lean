import Mathlib
import Outbox.Proofs.Headers

/-!
# Outbox.Proofs.Headers.OrderedMap — a header as an ordered map

A header is a list of fields, and all operations act on the first field of a name. They are right
because a name never occurs twice, which every operation preserves. So a header is a map from
lower case names to fields, whose keys stand in an order.

* `OrderedMap` — values under keys that are in an order, and what operations do to it.
* `Headers.toMap` — a header as such a map. It says all of the header (`toList_toMap`).
* `change_toMap`, `run_toMap` — operations on a header are those on its map, one by one and in
  sequence.
* `run_ordered` — what holds after any sequence of operations, and what the next one does.
-/

namespace Outbox

/-! ## Ordered maps -/

/-- Values under keys, and the order in which the keys stand. -/
@[ext]
structure OrderedMap (κ ν : Type) where
  keys : List κ
  get? : κ → Option ν

namespace OrderedMap

variable {κ ν : Type} [DecidableEq κ]

/-- No keys. -/
def empty : OrderedMap κ ν := ⟨[], fun _ => none⟩

/-- Sets the value under a key. A key that is there keeps its place, and a new one comes last. -/
def insert (m : OrderedMap κ ν) (k : κ) (v : ν) : OrderedMap κ ν :=
  ⟨if k ∈ m.keys then m.keys else m.keys ++ [k], Function.update m.get? k (some v)⟩

/-- Sets the value under a key and puts the key before all others. -/
def insertFirst (m : OrderedMap κ ν) (k : κ) (v : ν) : OrderedMap κ ν :=
  ⟨k :: m.keys.filter (· ≠ k), Function.update m.get? k (some v)⟩

/-- Takes a key out. -/
def erase (m : OrderedMap κ ν) (k : κ) : OrderedMap κ ν :=
  ⟨m.keys.filter (· ≠ k), Function.update m.get? k none⟩

/-- The values, in the order of their keys. -/
def toList (m : OrderedMap κ ν) : List ν := m.keys.filterMap m.get?

end OrderedMap

/-! ## Operations -/

/-- What is done with a header. -/
inductive Change where
  | insert (name value : String)
  | insertFirst (name value : String)
  | remove (name : String)
  /-- A new header is made of fields. -/
  | ofList (fields : List Field)

namespace Change

/-- Operations in sequence, and what they give. -/
def run {σ : Type} (step : σ → Change → Option String × σ) : σ → List Change →
    List (Option String) × σ
  | s, [] => ([], s)
  | s, c :: rest =>
    let (answer, s) := step s c
    let (answers, s) := run step s rest
    (answer :: answers, s)

end Change

/-- An operation on a header. -/
def Headers.change (h : Headers) : Change → Option String × Headers
  | .insert name value => (none, h.insert name value)
  | .insertFirst name value => (none, h.insertFirst name value)
  | .remove name => h.remove name
  | .ofList fields => (none, .ofList fields)

/-- An operation on a map of fields under lower case names. -/
def OrderedMap.change (m : OrderedMap (List Char) Field) :
    Change → Option String × OrderedMap (List Char) Field
  | .insert name value => (none, m.insert (nameKey name) (name, value))
  | .insertFirst name value => (none, m.insertFirst (nameKey name) (name, value))
  | .remove name => ((m.get? (nameKey name)).map Prod.snd, m.erase (nameKey name))
  | .ofList fields => (none, fields.foldl (fun m e => m.insert (nameKey e.1) e) .empty)

/-! ## Lists of fields -/

namespace Field

/-- The fields of other names, in order. -/
def others (name : String) (fields : List Field) : List Field :=
  fields.filter fun e => key e ≠ nameKey name

variable {name value : String} {fields : List Field}

theorem others_cons_self {e : Field} (same : key e = nameKey name) :
    others name (e :: fields) = others name fields :=
  List.filter_cons_of_neg (by simp [same])

theorem others_cons_other {e : Field} (other : key e ≠ nameKey name) :
    others name (e :: fields) = e :: others name fields :=
  List.filter_cons_of_pos (by simp [other])

theorem others_of_notMem (new : nameKey name ∉ fields.map key) : others name fields = fields := by
  refine List.filter_eq_self.2 fun e mem => ?_
  have other : key e ≠ nameKey name := fun same => new (same ▸ List.mem_map_of_mem mem)
  simp [other]

theorem others_others : others name (others name fields) = others name fields :=
  List.filter_eq_self.2 fun _ mem => (List.mem_filter.1 mem).2

theorem others_put : others name (put name value fields) = others name fields := by
  induction fields with
  | nil => exact others_cons_self rfl
  | cons e rest ih =>
    by_cases same : key e = nameKey name
    · have replaced : key (name, value) = nameKey name := rfl
      rw [put, if_pos (sameName_iff.2 same), others_cons_self replaced, others_cons_self same]
    · rw [put, if_neg fun h => same (sameName_iff.1 h), others_cons_other same,
        others_cons_other same, ih]

theorem drop_eq_others (distinct : (fields.map key).Nodup) :
    drop name fields = others name fields := by
  induction fields with
  | nil => rfl
  | cons e rest ih =>
    obtain ⟨new, distinct⟩ := List.nodup_cons.1 distinct
    by_cases same : key e = nameKey name
    · rw [drop, if_pos (sameName_iff.2 same), others_cons_self same]
      exact (others_of_notMem (same ▸ new)).symm
    · rw [drop, if_neg fun h => same (sameName_iff.1 h), others_cons_other same, ih distinct]

theorem put_of_notMem (new : nameKey name ∉ fields.map key) :
    put name value fields = fields ++ [(name, value)] := by
  induction fields with
  | nil => rfl
  | cons e rest ih =>
    have other : ¬ sameName e.1 name = true :=
      fun same => new ((sameName_iff.1 same) ▸ List.mem_cons_self)
    rw [put, if_neg other, ih fun mem => new (List.mem_cons_of_mem _ mem)]
    rfl

/-- A field is replaced in its place, as no other one has its name. -/
theorem put_split {before after : List Field} {old : Field}
    (distinct : ((before ++ old :: after).map key).Nodup) (same : key old = nameKey name) :
    put name value (before ++ old :: after) = before ++ (name, value) :: after := by
  induction before with
  | nil => exact if_pos (sameName_iff.2 same)
  | cons e before ih =>
    obtain ⟨new, distinct⟩ := List.nodup_cons.1 distinct
    have other : ¬ sameName e.1 name = true := by
      intro h
      have mem : key old ∈ (before ++ old :: after).map key :=
        List.mem_map_of_mem (List.mem_append_right before List.mem_cons_self)
      have sameKey : key e = key old := (sameName_iff.1 h).trans same.symm
      exact new (sameKey ▸ mem)
    rw [List.cons_append, put, if_neg other, ih distinct]
    rfl

theorem drop_eq_eraseP : drop name fields = fields.eraseP fun e => sameName e.1 name := by
  induction fields with
  | nil => rfl
  | cons e rest ih =>
    rw [drop, List.eraseP_cons, ih]
    cases sameName e.1 name with
    | true => rfl
    | false => rfl

end Field

namespace Headers

/-- The fields of other names, in order. -/
def others (h : Headers) (name : String) : List Field := Field.others name h.entries

/-- A field that is taken out is the one that is found. -/
theorem remove_eq (h : Headers) (name : String) : h.remove name = (h.get? name, h.erase name) := by
  have found : h.getEntry? name =
      (h.entries.findIdx? fun e => sameName e.1 name).bind fun i => h.entries[i]? :=
    List.find?_eq_bind_findIdx?_getElem?
  have taken := Field.drop_eq_eraseP.trans
    (List.eraseP_eq_eraseIdx : h.entries.eraseP (fun e => sameName e.1 name) = _)
  rw [get?, found]
  unfold remove
  split
  next i position =>
    rw [position] at taken ⊢
    simp only [erase, taken]
    rfl
  next position =>
    rw [position] at taken ⊢
    simp only [erase, taken]
    rfl

/-! ## The map of a header -/

/-- A header as an ordered map. -/
def toMap (h : Headers) : OrderedMap (List Char) Field :=
  ⟨h.entries.map Field.key, fun k => h.entries.find? fun e => Field.key e == k⟩

theorem get?_toMap (h : Headers) (name : String) :
    h.toMap.get? (nameKey name) = h.getEntry? name := rfl

/-- A field is what stands under its name. -/
theorem get?_toMap_of_mem {h : Headers} {e : Field} (mem : e ∈ h.entries) :
    h.toMap.get? (Field.key e) = some e := by
  obtain ⟨before, after, split⟩ := List.append_of_mem mem
  have distinct := h.distinct
  rw [split, List.map_append, List.map_cons] at distinct
  rw [toMap, List.find?_eq_some_iff_append]
  refine ⟨beq_self_eq_true _, before, after, split, fun d hd => ?_⟩
  have differs : Field.key d ≠ Field.key e := by
    intro same
    have disjoint := List.disjoint_of_nodup_append distinct
    exact disjoint (List.mem_map_of_mem hd) (same ▸ List.mem_cons_self)
  simp [differs]

/-- The map says all of the header. -/
theorem toList_toMap (h : Headers) : h.toMap.toList = h.entries := by
  have found : ∀ e ∈ h.entries, (h.toMap.get? ∘ Field.key) e = some e :=
    fun e mem => get?_toMap_of_mem mem
  rw [OrderedMap.toList]
  show List.filterMap h.toMap.get? (h.entries.map Field.key) = h.entries
  rw [List.filterMap_map, List.filterMap_congr found, List.filterMap_some]

theorem toMap_empty : empty.toMap = .empty := rfl

/-- A lookup that gives one field under a name and else what another one does. -/
theorem eq_update {lookup old : List Char → Option Field} {name : String} {found : Option Field}
    (h : ∀ k, lookup k = if nameKey name = k then found else old k) :
    lookup = Function.update old (nameKey name) found := by
  funext k
  rw [h, Function.update_apply]
  exact if_congr eq_comm rfl rfl

theorem toMap_insert (h : Headers) (name value : String) :
    (h.insert name value).toMap = h.toMap.insert (nameKey name) (name, value) := by
  have keys : (h.insert name value).toMap.keys =
      (h.toMap.insert (nameKey name) (name, value)).keys := by
    refine (Field.map_key_put name value h.entries).trans ?_
    by_cases mem : nameKey name ∈ h.entries.map Field.key
    · exact (if_pos mem).trans (if_pos mem).symm
    · exact (if_neg mem).trans (if_neg mem).symm
  exact OrderedMap.ext keys (eq_update fun k => Field.find?_put k name value h.entries)

theorem toMap_erase (h : Headers) (name : String) :
    (h.erase name).toMap = h.toMap.erase (nameKey name) := by
  have keys : (h.erase name).toMap.keys = (h.toMap.erase (nameKey name)).keys := by
    have erased := Field.map_key_drop name h.entries
    rw [h.distinct.erase_eq_filter] at erased
    refine erased.trans (List.filter_congr fun k _ => ?_)
    by_cases same : k = nameKey name
    · simp [same]
    · simp [same]
  exact OrderedMap.ext keys (eq_update fun k => Field.find?_drop h.distinct k name)

theorem toMap_insertFirst (h : Headers) (name value : String) :
    (h.insertFirst name value).toMap = h.toMap.insertFirst (nameKey name) (name, value) := by
  have keys : (h.insertFirst name value).toMap.keys =
      (h.toMap.insertFirst (nameKey name) (name, value)).keys :=
    congrArg (nameKey name :: ·) (congrArg OrderedMap.keys (toMap_erase h name))
  exact OrderedMap.ext keys (eq_update fun k => Field.find?_cons_drop h.distinct k name value)

theorem toMap_ofList (fields : List Field) :
    (ofList fields).toMap = fields.foldl (fun m e => m.insert (nameKey e.1) e) .empty := by
  have inserted : ∀ h : Headers, (fields.foldl (fun h e => h.insert e.1 e.2) h).toMap =
      fields.foldl (fun m e => m.insert (nameKey e.1) e) h.toMap := by
    induction fields with
    | nil => exact fun h => rfl
    | cons e rest ih =>
      intro h
      rw [List.foldl_cons, List.foldl_cons, ih, toMap_insert]
  rw [← toMap_empty]
  exact inserted empty

/-- An operation does with a header what it does with its map, and gives the same. -/
theorem change_toMap (h : Headers) (c : Change) :
    h.toMap.change c = ((h.change c).1, (h.change c).2.toMap) := by
  cases c with
  | insert name value => exact congrArg (none, ·) (toMap_insert h name value).symm
  | insertFirst name value => exact congrArg (none, ·) (toMap_insertFirst h name value).symm
  | remove name =>
    rw [change, remove_eq]
    exact congrArg (h.get? name, ·) (toMap_erase h name).symm
  | ofList fields => exact congrArg (none, ·) (toMap_ofList fields).symm

theorem run_toMap (h : Headers) (changes : List Change) :
    Change.run OrderedMap.change h.toMap changes =
      ((Change.run change h changes).1, (Change.run change h changes).2.toMap) := by
  induction changes generalizing h with
  | nil => rfl
  | cons c rest ih => simp only [Change.run, change_toMap, ih]

/-! ## What an operation does -/

/-- A field is set. It is found under all spellings of its name and bears the new one. -/
structure IsSet (h : Headers) (name value : String) (after : Headers) : Prop where
  found : ∀ x, nameKey x = nameKey name → after.get? x = some value
  spelling : ∀ x, nameKey x = nameKey name → after.getEntry? x = some (name, value)
  others : after.others name = h.others name

/-- A field is set in the place of the one that has its name, or as the last one. -/
structure IsInserted (h : Headers) (name value : String) (after : Headers) : Prop
    extends IsSet h name value after where
  replaced : ∀ before old rest, h.entries = before ++ old :: rest → sameName old.1 name = true →
    after.entries = before ++ (name, value) :: rest
  appended : h.contains name = false → after.entries = h.entries ++ [(name, value)]

/-- A field is set as the first one, and the one that had its name is gone. -/
structure IsInsertedFirst (h : Headers) (name value : String) (after : Headers) : Prop
    extends IsSet h name value after where
  first : after.entries = (name, value) :: h.others name

/-- A field is gone under all spellings of its name, and the others stay. -/
structure IsRemoved (h : Headers) (name : String) (after : Headers) : Prop where
  gone : ∀ x, nameKey x = nameKey name → after.contains x = false
  others : after.entries = h.others name

theorem isInserted (h : Headers) (name value : String) :
    IsInserted h name value (h.insert name value) where
  found x same := by rw [get?_insert, if_pos same.symm]
  spelling x same := by rw [getEntry?_insert, if_pos same.symm]
  others := Field.others_put
  replaced before old rest split same := by
    have distinct := h.distinct
    rw [split] at distinct
    show Field.put name value h.entries = before ++ (name, value) :: rest
    rw [split]
    exact Field.put_split distinct (sameName_iff.1 same)
  appended absent := by
    refine Field.put_of_notMem fun mem => ?_
    obtain ⟨e, mem, same⟩ := List.mem_map.1 mem
    have none : h.getEntry? name = none := by simpa [contains] using absent
    exact List.find?_eq_none.1 none e mem (sameName_iff.2 same)

theorem isInsertedFirst (h : Headers) (name value : String) :
    IsInsertedFirst h name value (h.insertFirst name value) where
  found x same := by rw [get?_insertFirst, if_pos same.symm]
  spelling x same := by rw [getEntry?_insertFirst, if_pos same.symm]
  others := by
    have own : Field.key (name, value) = nameKey name := rfl
    rw [others, insertFirst, Field.others_cons_self own, Field.drop_eq_others h.distinct]
    exact Field.others_others
  first := congrArg ((name, value) :: ·) (Field.drop_eq_others h.distinct)

theorem isRemoved (h : Headers) (name : String) : IsRemoved h name (h.erase name) where
  gone x same := by rw [contains, getEntry?_erase, if_pos same.symm, Option.isSome_none]
  others := Field.drop_eq_others h.distinct

/-- What an operation gives and does. -/
def Obeys (h : Headers) (answer : Option String) (after : Headers) : Change → Prop
  | .insert name value => answer = none ∧ IsInserted h name value after
  | .insertFirst name value => answer = none ∧ IsInsertedFirst h name value after
  | .remove name => answer = h.get? name ∧ IsRemoved h name after
  | .ofList fields => answer = none ∧
    after = (Change.run change empty (fields.map fun e => .insert e.1 e.2)).2

theorem ofList_eq_run (fields : List Field) :
    ofList fields = (Change.run change empty (fields.map fun e => .insert e.1 e.2)).2 := by
  have inserted : ∀ h : Headers, fields.foldl (fun h e => h.insert e.1 e.2) h =
      (Change.run change h (fields.map fun e => .insert e.1 e.2)).2 := by
    induction fields with
    | nil => exact fun h => rfl
    | cons e rest ih => exact fun h => ih (h.insert e.1 e.2)
  exact inserted empty

theorem change_obeys (h : Headers) (c : Change) : Obeys h (h.change c).1 (h.change c).2 c := by
  cases c with
  | insert name value => exact ⟨rfl, isInserted h name value⟩
  | insertFirst name value => exact ⟨rfl, isInsertedFirst h name value⟩
  | remove name =>
    rw [change, remove_eq]
    exact ⟨rfl, isRemoved h name⟩
  | ofList fields => exact ⟨rfl, ofList_eq_run fields⟩

/-- What holds of a header after operations that gave `answers` on the way. -/
structure IsOrdered (start : Headers) (changes : List Change) (answers : List (Option String))
    (h : Headers) : Prop where
  distinct : h.entries.Pairwise fun a b => ¬ sameName a.1 b.1 = true
  /-- The map of the header is what the same operations make of the map, with the same answers. -/
  refines : Change.run OrderedMap.change start.toMap changes = (answers, h.toMap)
  entries : h.toMap.toList = h.entries
  lookups : ∀ name, h.toMap.get? (nameKey name) = h.getEntry? name
  next : ∀ c, Obeys h (h.change c).1 (h.change c).2 c

theorem run_ordered (start : Headers) (changes : List Change) :
    IsOrdered start changes (Change.run change start changes).1
      (Change.run change start changes).2 where
  distinct := by
    have distinct := (Change.run change start changes).2.distinct
    refine (List.pairwise_map.1 distinct).imp fun differ same => ?_
    exact differ (sameName_iff.1 same)
  refines := run_toMap start changes
  entries := toList_toMap _
  lookups := get?_toMap _
  next := change_obeys _

example : (Change.run change .empty
    [.ofList [("X-Campaign", "spring"), ("Reply-To", "a@b.c")], .insert "x-CAMPAIGN" "summer",
      .insertFirst "DKIM-Signature" "v=1", .remove "reply-to"]).2.entries =
    [("DKIM-Signature", "v=1"), ("x-CAMPAIGN", "summer")] := by decide +kernel

end Headers

end Outbox
