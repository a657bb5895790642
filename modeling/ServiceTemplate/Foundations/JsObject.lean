import Mathlib.Data.List.Nodup

/-!
# Objects used as dictionaries

An object keeps its entries in the order in which the keys were added, and no
key twice.  An assignment to a key that is present replaces the value in place.
-/

namespace ServiceTemplate

/-- The own entries of an object whose keys are strings. -/
structure JsObject (Value : Type*) where
  entries : List (String × Value)
  keysNodup : (entries.map Prod.fst).Nodup

namespace JsObject

variable {Value : Type*}

def empty : JsObject Value := ⟨[], by simp⟩

/-- `object[key]`, where an absent key has no value -/
def get (object : JsObject Value) (key : String) : Option Value :=
  (object.entries.find? (·.1 = key)).map Prod.snd

/-- The entries after an assignment to one key. -/
def assign (key : String) (value : Value) : List (String × Value) → List (String × Value)
  | [] => [(key, value)]
  | (first, earlier) :: rest =>
      if first = key then (key, value) :: rest
      else (first, earlier) :: assign key value rest

theorem mem_keys_assign {key other : String} {value : Value}
    {entries : List (String × Value)} :
    other ∈ (assign key value entries).map Prod.fst ↔
      other = key ∨ other ∈ entries.map Prod.fst := by
  induction entries with
  | nil => simp [assign]
  | cons entry rest ih =>
      obtain ⟨first, earlier⟩ := entry
      by_cases same : first = key
      · subst same
        simp [assign]
      · simp only [assign, if_neg same, List.map_cons, List.mem_cons, ih]
        tauto

theorem keys_assign_nodup {key : String} {value : Value} {entries : List (String × Value)}
    (nodup : (entries.map Prod.fst).Nodup) :
    ((assign key value entries).map Prod.fst).Nodup := by
  induction entries with
  | nil => simp [assign]
  | cons entry rest ih =>
      obtain ⟨first, earlier⟩ := entry
      obtain ⟨new, restNodup⟩ := List.nodup_cons.mp nodup
      by_cases same : first = key
      · subst same
        simpa [assign] using nodup
      · simp only [assign, if_neg same, List.map_cons, List.nodup_cons]
        refine ⟨fun member => ?_, ih restNodup⟩
        rcases mem_keys_assign.mp member with equal | earlier
        · exact same equal
        · exact new earlier

/-- `object[key] = value` -/
def set (object : JsObject Value) (key : String) (value : Value) : JsObject Value where
  entries := assign key value object.entries
  keysNodup := keys_assign_nodup object.keysNodup

variable {object : JsObject Value}

theorem find?_assign (key other : String) (value : Value) (entries : List (String × Value)) :
    ((assign key value entries).find? (·.1 = other)).map Prod.snd =
      if other = key then some value
      else (entries.find? (·.1 = other)).map Prod.snd := by
  induction entries with
  | nil =>
      by_cases same : other = key
      · subst same
        simp [assign]
      · simp [assign, same, Ne.symm same]
  | cons entry rest ih =>
      obtain ⟨first, earlier⟩ := entry
      by_cases same : first = key
      · subst same
        by_cases isKey : other = first
        · subst isKey
          simp [assign]
        · simp [assign, isKey, Ne.symm isKey]
      · by_cases isKey : first = other
        · subst isKey
          simp [assign, same]
        · simp only [assign, if_neg same, List.find?_cons, isKey, decide_false]
          exact ih

theorem get_set (key other : String) (value : Value) :
    (object.set key value).get other = if other = key then some value else object.get other :=
  find?_assign key other value object.entries

theorem get_eq_some_iff {key : String} {value : Value} :
    object.get key = some value ↔ (key, value) ∈ object.entries := by
  unfold get
  constructor
  · intro found
    obtain ⟨⟨first, held⟩, isEntry, rfl⟩ := Option.map_eq_some_iff.mp found
    have sameKey : first = key := by simpa using List.find?_some isEntry
    rw [← sameKey]
    exact List.mem_of_find?_eq_some isEntry
  · intro present
    cases found : object.entries.find? (·.1 = key) with
    | none =>
        have missing := List.find?_eq_none.mp found (key, value) present
        simp at missing
    | some entry =>
        have sameKey : entry.1 = key := by simpa using List.find?_some found
        have same := List.inj_on_of_nodup_map object.keysNodup
          (List.mem_of_find?_eq_some found) present sameKey
        rw [same]
        rfl

end JsObject

end ServiceTemplate
