import Mathlib.Logic.Function.Basic

/-!
# Maps with a unique index

A map from keys to records in which no two keys have records with the same
index.  Putting a record under a key is possible exactly if the index of the
record is not in use under another key.
-/

namespace ServiceTemplate

@[ext]
structure IndexedMap (Key Record Index : Type*) (index : Record → Index) where
  find : Key → Option Record
  distinct : ∀ key other record found, find key = some record → find other = some found →
    index record = index found → key = other

namespace IndexedMap

variable {Key Record Index : Type*} {index : Record → Index}

def empty : IndexedMap Key Record Index index where
  find _ := none
  distinct _ _ _ _ found := nomatch found

variable (map : IndexedMap Key Record Index index)

/-- The index is not in use under another key. -/
def Free (key : Key) (value : Index) : Prop :=
  ∀ other found, map.find other = some found → index found = value → other = key

variable {map} [DecidableEq Key]

def put (map : IndexedMap Key Record Index index) (key : Key) (record : Record)
    (free : map.Free key (index record)) : IndexedMap Key Record Index index where
  find := Function.update map.find key (some record)
  distinct first second record₁ record₂ found₁ found₂ same := by
    by_cases atFirst : first = key
    · subst atFirst
      by_cases atSecond : second = first
      · exact atSecond.symm
      · rw [Function.update_self] at found₁
        rw [Function.update_of_ne atSecond] at found₂
        cases found₁
        exact (free second record₂ found₂ same.symm).symm
    · rw [Function.update_of_ne atFirst] at found₁
      by_cases atSecond : second = key
      · subst atSecond
        rw [Function.update_self] at found₂
        cases found₂
        exact free first record₁ found₁ same
      · rw [Function.update_of_ne atSecond] at found₂
        exact map.distinct first second record₁ record₂ found₁ found₂ same

def erase (map : IndexedMap Key Record Index index) (key : Key) :
    IndexedMap Key Record Index index where
  find := Function.update map.find key none
  distinct first second record₁ record₂ found₁ found₂ same := by
    have kept : ∀ {at' : Key} {record : Record},
        Function.update map.find key none at' = some record → map.find at' = some record := by
      intro at' record found
      by_cases erased : at' = key
      · subst erased
        simp at found
      · rwa [Function.update_of_ne erased] at found
    exact map.distinct first second record₁ record₂ (kept found₁) (kept found₂) same

open Classical in
/-- Put the record if its index is free for the key. -/
noncomputable def tryPut (map : IndexedMap Key Record Index index) (key : Key)
    (record : Record) : IndexedMap Key Record Index index :=
  if free : map.Free key (index record) then map.put key record free else map

theorem find_tryPut_of_free {key : Key} {record : Record}
    (free : map.Free key (index record)) (other : Key) :
    (map.tryPut key record).find other =
      if other = key then some record else map.find other := by
  simp [tryPut, free, put, Function.update_apply]

theorem tryPut_of_taken {key : Key} {record : Record}
    (taken : ¬ map.Free key (index record)) : map.tryPut key record = map :=
  dif_neg taken

theorem find_erase (key other : Key) :
    (map.erase key).find other = if other = key then none else map.find other := by
  simp [erase, Function.update_apply]

end IndexedMap

end ServiceTemplate
