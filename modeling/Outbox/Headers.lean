import Outbox.Text.Classes

/-!
# Outbox.Headers — the header fields of a message

An ordered map from field names to values. Names are told apart without regard to
the case of ASCII letters, but keep the spelling they were inserted with. An
insertion replaces a field in its place, so no name ever occurs twice, and the type
says so.
-/

namespace Outbox

/-- What two spellings of one field name share. -/
def nameKey (name : String) : List Char := Text.lower name.toList

/-- Whether two field names are the same. -/
def sameName (a b : String) : Bool := nameKey a == nameKey b

theorem sameName_iff {a b : String} : sameName a b = true ↔ nameKey a = nameKey b := by
  simp [sameName]

/-- A field, by its name and value. -/
abbrev Field := String × String

namespace Field

/-- What the names of fields are told apart by. -/
def key (e : Field) : List Char := nameKey e.1

/-- Replaces the first field of a name in its place, or adds a field at the end. -/
def put (name value : String) : List Field → List Field
  | [] => [(name, value)]
  | e :: rest => if sameName e.1 name then (name, value) :: rest else e :: put name value rest

/-- Drops the first field of a name. -/
def drop (name : String) : List Field → List Field
  | [] => []
  | e :: rest => if sameName e.1 name then rest else e :: drop name rest

theorem map_key_put (name value : String) (fields : List Field) :
    (put name value fields).map key =
      if nameKey name ∈ fields.map key then fields.map key
      else fields.map key ++ [nameKey name] := by
  induction fields with
  | nil => simp [put, key]
  | cons e rest ih =>
    by_cases h : nameKey name = nameKey e.1
    · simp [put, sameName, h, key]
    · have h' : ¬ nameKey e.1 = nameKey name := fun hc => h hc.symm
      simp only [put, sameName_iff, h', if_false, List.map_cons, ih, List.mem_cons, key, h,
        false_or]
      split
      · rfl
      · simp

theorem map_key_drop (name : String) (fields : List Field) :
    (drop name fields).map key = (fields.map key).erase (nameKey name) := by
  induction fields with
  | nil => rfl
  | cons e rest ih =>
    by_cases h : nameKey e.1 = nameKey name
    · simp [drop, sameName, h, key]
    · simp [drop, sameName, h, key, ih]

theorem nodup_put {fields : List Field} (h : (fields.map key).Nodup) (name value : String) :
    ((put name value fields).map key).Nodup := by
  rw [map_key_put]
  split
  case isTrue => exact h
  case isFalse hnew => exact List.nodup_append.2 ⟨h, by simp, by grind⟩

theorem nodup_drop {fields : List Field} (h : (fields.map key).Nodup) (name : String) :
    ((drop name fields).map key).Nodup := by
  rw [map_key_drop]
  exact h.erase _

theorem nodup_cons_drop {fields : List Field} (h : (fields.map key).Nodup)
    (name value : String) : (((name, value) :: drop name fields).map key).Nodup := by
  rw [List.map_cons, map_key_drop]
  exact List.nodup_cons.2 ⟨h.not_mem_erase, h.erase _⟩

end Field

/-- The header fields of a message, in order. -/
structure Headers where
  entries : List Field
  /-- No name occurs twice. -/
  distinct : (entries.map Field.key).Nodup
deriving DecidableEq, Repr

namespace Headers

/-- No fields. -/
def empty : Headers := ⟨[], List.nodup_nil⟩

/-- Sets a field. -/
def insert (h : Headers) (name value : String) : Headers :=
  ⟨Field.put name value h.entries, Field.nodup_put h.distinct name value⟩

/-- Sets a field as the first of all. -/
def insertFirst (h : Headers) (name value : String) : Headers :=
  ⟨(name, value) :: Field.drop name h.entries, Field.nodup_cons_drop h.distinct name value⟩

/-- The stored name and value of a field. -/
def getEntry? (h : Headers) (name : String) : Option Field :=
  h.entries.find? fun e => sameName e.1 name

/-- The value of a field. -/
def get? (h : Headers) (name : String) : Option String := (h.getEntry? name).map Prod.snd

/-- Whether there is a field of a name. -/
def contains (h : Headers) (name : String) : Bool := (h.getEntry? name).isSome

/-- Takes a field out. -/
def erase (h : Headers) (name : String) : Headers :=
  ⟨Field.drop name h.entries, Field.nodup_drop h.distinct name⟩

/-- Takes a field out and gives its value. -/
def remove (h : Headers) (name : String) : Option String × Headers :=
  match h.entries.findIdx? fun e => sameName e.1 name with
  | some i =>
    (h.entries[i]?.map Prod.snd,
      ⟨h.entries.eraseIdx i, h.distinct.sublist ((List.eraseIdx_sublist h.entries i).map _)⟩)
  | none => (none, h)

/-- The number of fields. -/
def size (h : Headers) : Nat := h.entries.length

/-- Whether there are no fields. -/
def isEmpty (h : Headers) : Bool := h.entries.isEmpty

/-- The fields of a list, inserted in order. -/
def ofList (fields : List Field) : Headers :=
  fields.foldl (fun h e => h.insert e.1 e.2) empty

end Headers
end Outbox
