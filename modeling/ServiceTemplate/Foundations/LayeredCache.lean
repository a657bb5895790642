import Mathlib.Logic.Function.Basic

/-!
# A cache of two layers in front of a source

A lookup tries the memory of the node, then the remote cache, then the source,
and stores what it found in the layers it passed.  The cache is coherent with a
source if every entry is what the source answers for its key.
-/

namespace ServiceTemplate

structure LayeredCache (Key Value : Type) where
  memory : Key → Option Value
  remote : Key → Option Value

namespace LayeredCache

section Definitions

variable {Key Value Error : Type}

def empty : LayeredCache Key Value :=
  ⟨fun _ => none, fun _ => none⟩

/-- Some layer has an entry for the key. -/
def Cached (cache : LayeredCache Key Value) (key : Key) : Prop :=
  (cache.memory key).isSome = true ∨ (cache.remote key).isSome = true

instance (cache : LayeredCache Key Value) (key : Key) : Decidable (cache.Cached key) :=
  inferInstanceAs (Decidable (_ ∨ _))

/-- Every entry of either layer is what the source answers. -/
structure Coherent (source : Key → Except Error Value) (cache : LayeredCache Key Value) :
    Prop where
  memory : ∀ key value, cache.memory key = some value → source key = .ok value
  remote : ∀ key value, cache.remote key = some value → source key = .ok value

theorem coherent_empty (source : Key → Except Error Value) :
    Coherent source (empty : LayeredCache Key Value) :=
  ⟨fun _ _ found => (nomatch found), fun _ _ found => (nomatch found)⟩

variable [DecidableEq Key]

def storeMemory (cache : LayeredCache Key Value) (key : Key) (value : Value) :
    LayeredCache Key Value :=
  { cache with memory := Function.update cache.memory key (some value) }

def storeRemote (cache : LayeredCache Key Value) (key : Key) (value : Value) :
    LayeredCache Key Value :=
  { cache with remote := Function.update cache.remote key (some value) }

def evictMemory (cache : LayeredCache Key Value) (key : Key) : LayeredCache Key Value :=
  { cache with memory := Function.update cache.memory key none }

def evictRemote (cache : LayeredCache Key Value) (key : Key) : LayeredCache Key Value :=
  { cache with remote := Function.update cache.remote key none }

def invalidate (cache : LayeredCache Key Value) (key : Key) : LayeredCache Key Value :=
  (cache.evictMemory key).evictRemote key

/-- Look a key up.  Nothing is stored when the source fails. -/
def get (source : Key → Except Error Value) (cache : LayeredCache Key Value) (key : Key) :
    LayeredCache Key Value × Except Error Value :=
  match cache.memory key with
  | some value => (cache, .ok value)
  | none =>
      match cache.remote key with
      | some value => (cache.storeMemory key value, .ok value)
      | none =>
          match source key with
          | .ok value => ((cache.storeRemote key value).storeMemory key value, .ok value)
          | .error error => (cache, .error error)

end Definitions

section Coherence

variable {Key Value Error : Type} [DecidableEq Key]
variable {source : Key → Except Error Value} {cache : LayeredCache Key Value}

theorem Coherent.storeMemory (coherent : Coherent source cache) {key : Key} {value : Value}
    (current : source key = .ok value) : Coherent source (cache.storeMemory key value) where
  memory other stored found := by
    by_cases same : other = key
    · subst same
      simp only [LayeredCache.storeMemory, Function.update_self] at found
      rw [current, Option.some.inj found]
    · simp only [LayeredCache.storeMemory, Function.update_of_ne same] at found
      exact coherent.memory other stored found
  remote := coherent.remote

theorem Coherent.storeRemote (coherent : Coherent source cache) {key : Key} {value : Value}
    (current : source key = .ok value) : Coherent source (cache.storeRemote key value) where
  memory := coherent.memory
  remote other stored found := by
    by_cases same : other = key
    · subst same
      simp only [LayeredCache.storeRemote, Function.update_self] at found
      rw [current, Option.some.inj found]
    · simp only [LayeredCache.storeRemote, Function.update_of_ne same] at found
      exact coherent.remote other stored found

theorem found_of_update_none {entries : Key → Option Value} {key other : Key}
    {value : Value} (found : Function.update entries key none other = some value) :
    other ≠ key ∧ entries other = some value := by
  by_cases same : other = key
  · subst same
    simp at found
  · exact ⟨same, by rwa [Function.update_of_ne same] at found⟩

theorem Coherent.evictMemory (coherent : Coherent source cache) (key : Key) :
    Coherent source (cache.evictMemory key) where
  memory other value found :=
    coherent.memory other value (found_of_update_none found).2
  remote := coherent.remote

theorem Coherent.evictRemote (coherent : Coherent source cache) (key : Key) :
    Coherent source (cache.evictRemote key) where
  memory := coherent.memory
  remote other value found :=
    coherent.remote other value (found_of_update_none found).2

/-- A coherent cache answers what the source answers. -/
theorem Coherent.get_answer (coherent : Coherent source cache) (key : Key) :
    (cache.get source key).2 = source key := by
  unfold get
  cases inMemory : cache.memory key with
  | some value => exact (coherent.memory key value inMemory).symm
  | none =>
      cases atRemote : cache.remote key with
      | some value => exact (coherent.remote key value atRemote).symm
      | none => cases source key <;> rfl

theorem Coherent.get (coherent : Coherent source cache) (key : Key) :
    Coherent source (cache.get source key).1 := by
  unfold LayeredCache.get
  cases inMemory : cache.memory key with
  | some value => exact coherent
  | none =>
      cases atRemote : cache.remote key with
      | some value => exact coherent.storeMemory (coherent.remote key value atRemote)
      | none =>
          cases answered : source key with
          | ok value => exact (coherent.storeRemote answered).storeMemory answered
          | error error => exact coherent

/-- After a change of the source and the removal of one key, the cache is
coherent if the other cached keys are not affected by the change. -/
theorem Coherent.invalidate {changed : Key → Except Error Value}
    (coherent : Coherent source cache) (key : Key)
    (unaffected : ∀ other, other ≠ key → cache.Cached other →
      changed other = source other) :
    Coherent changed (cache.invalidate key) where
  memory other value found := by
    obtain ⟨different, found⟩ := found_of_update_none found
    rw [unaffected other different (.inl (by rw [found]; rfl))]
    exact coherent.memory other value found
  remote other value found := by
    obtain ⟨different, stays⟩ := found_of_update_none found
    have found : cache.remote other = some value := stays
    rw [unaffected other different (.inr (by rw [found]; rfl))]
    exact coherent.remote other value found

/-- A cached key is answered by the cache, whatever the source has become. -/
theorem Coherent.get_answer_of_cached {changed : Key → Except Error Value}
    (coherent : Coherent source cache) {key other : Key} (different : other ≠ key)
    (cached : cache.Cached other) :
    ((cache.invalidate key).get changed other).2 = source other := by
  have sameMemory : (cache.invalidate key).memory other = cache.memory other :=
    Function.update_of_ne different _ _
  have sameRemote : (cache.invalidate key).remote other = cache.remote other :=
    Function.update_of_ne different _ _
  unfold LayeredCache.get
  rw [sameMemory, sameRemote]
  cases inMemory : cache.memory other with
  | some value => exact (coherent.memory other value inMemory).symm
  | none =>
      cases atRemote : cache.remote other with
      | some value => exact (coherent.remote other value atRemote).symm
      | none => simp [Cached, inMemory, atRemote] at cached

end Coherence

section OneKey

variable {Key Value Error : Type}

/-- The entries for one key are what the source answers for it. -/
structure CoherentAt (source : Key → Except Error Value) (cache : LayeredCache Key Value)
    (key : Key) : Prop where
  memory : ∀ value, cache.memory key = some value → source key = .ok value
  remote : ∀ value, cache.remote key = some value → source key = .ok value

variable {source changed : Key → Except Error Value} {cache : LayeredCache Key Value}
variable {key : Key}

/-- It depends on the entries and the answer for the key only. -/
theorem CoherentAt.congr (coherent : CoherentAt source cache key)
    (same : changed key = source key) : CoherentAt changed cache key where
  memory value found := same.trans (coherent.memory value found)
  remote value found := same.trans (coherent.remote value found)

variable [DecidableEq Key]

theorem CoherentAt.of_update {entries : Key → Option Value} {answer : Except Error Value}
    (holds : ∀ value, entries key = some value → answer = .ok value) {other : Key}
    {written : Option Value} (current : key = other → ∀ value ∈ written, answer = .ok value)
    (value : Value) (found : Function.update entries other written key = some value) :
    answer = .ok value := by
  by_cases same : key = other
  · subst same
    rw [Function.update_self] at found
    exact current rfl value found
  · rw [Function.update_of_ne same] at found
    exact holds value found

theorem CoherentAt.evictMemory (coherent : CoherentAt source cache key) (other : Key) :
    CoherentAt source (cache.evictMemory other) key where
  memory := CoherentAt.of_update coherent.memory fun _ _ none => (nomatch none)
  remote := coherent.remote

theorem CoherentAt.evictRemote (coherent : CoherentAt source cache key) (other : Key) :
    CoherentAt source (cache.evictRemote other) key where
  memory := coherent.memory
  remote := CoherentAt.of_update coherent.remote fun _ _ none => (nomatch none)

theorem CoherentAt.invalidate (coherent : CoherentAt source cache key) (other : Key) :
    CoherentAt source (cache.invalidate other) key :=
  (coherent.evictMemory other).evictRemote other

/-- After its removal a key is coherent, whatever was cached. -/
theorem coherentAt_invalidate (source : Key → Except Error Value)
    (cache : LayeredCache Key Value) (key : Key) :
    CoherentAt source (cache.invalidate key) key := by
  constructor
  · intro value found
    exact absurd rfl (found_of_update_none found).1
  · intro value found
    exact absurd rfl (found_of_update_none found).1

theorem CoherentAt.storeMemory (coherent : CoherentAt source cache key) {other : Key}
    {value : Value} (current : key = other → source key = .ok value) :
    CoherentAt source (cache.storeMemory other value) key where
  memory := CoherentAt.of_update coherent.memory fun same _ written => by
    cases written
    exact current same
  remote := coherent.remote

theorem CoherentAt.storeRemote (coherent : CoherentAt source cache key) {other : Key}
    {value : Value} (current : key = other → source key = .ok value) :
    CoherentAt source (cache.storeRemote other value) key where
  memory := coherent.memory
  remote := CoherentAt.of_update coherent.remote fun same _ written => by
    cases written
    exact current same

/-- A lookup of any key keeps the entries of every coherent key coherent. -/
theorem CoherentAt.get (coherent : CoherentAt source cache key) (other : Key) :
    CoherentAt source (cache.get source other).1 key := by
  unfold LayeredCache.get
  cases inMemory : cache.memory other with
  | some value => exact coherent
  | none =>
      cases atRemote : cache.remote other with
      | some value =>
          apply coherent.storeMemory
          rintro rfl
          exact coherent.remote value atRemote
      | none =>
          cases answered : source other with
          | error error => exact coherent
          | ok value =>
              have current : key = other → source key = .ok value := fun same => same ▸ answered
              exact (coherent.storeRemote current).storeMemory current

theorem CoherentAt.get_answer (coherent : CoherentAt source cache key) :
    (cache.get source key).2 = source key := by
  unfold LayeredCache.get
  cases inMemory : cache.memory key with
  | some value => exact (coherent.memory value inMemory).symm
  | none =>
      cases atRemote : cache.remote key with
      | some value => exact (coherent.remote value atRemote).symm
      | none => cases source key <;> rfl

end OneKey

section Entries

variable {Key Value Error : Type} [DecidableEq Key] {source : Key → Except Error Value}
variable {cache : LayeredCache Key Value} {key other : Key}

theorem isSome_of_update {entries : Key → Option Value} {written : Option Value}
    (present : (Function.update entries key written other).isSome = true) :
    (written.isSome = true ∧ other = key) ∨ (entries other).isSome = true := by
  by_cases same : other = key
  · subst same
    rw [Function.update_self] at present
    exact .inl ⟨present, rfl⟩
  · rw [Function.update_of_ne same] at present
    exact .inr present

theorem Cached.of_evictMemory (cached : (cache.evictMemory key).Cached other) :
    cache.Cached other := by
  obtain inMemory | atRemote := cached
  · obtain ⟨absent, -⟩ | earlier := isSome_of_update inMemory
    · cases absent
    · exact .inl earlier
  · exact .inr atRemote

theorem Cached.of_evictRemote (cached : (cache.evictRemote key).Cached other) :
    cache.Cached other := by
  obtain inMemory | atRemote := cached
  · exact .inl inMemory
  · obtain ⟨absent, -⟩ | earlier := isSome_of_update atRemote
    · cases absent
    · exact .inr earlier

theorem Cached.of_invalidate (cached : (cache.invalidate key).Cached other) :
    cache.Cached other :=
  Cached.of_evictMemory (Cached.of_evictRemote cached)

theorem Cached.of_storeMemory {value : Value}
    (cached : (cache.storeMemory key value).Cached other) :
    other = key ∨ cache.Cached other := by
  obtain inMemory | atRemote := cached
  · obtain ⟨-, same⟩ | earlier := isSome_of_update inMemory
    · exact .inl same
    · exact .inr (.inl earlier)
  · exact .inr (.inr atRemote)

theorem Cached.of_storeRemote {value : Value}
    (cached : (cache.storeRemote key value).Cached other) :
    other = key ∨ cache.Cached other := by
  obtain inMemory | atRemote := cached
  · exact .inr (.inl inMemory)
  · obtain ⟨-, same⟩ | earlier := isSome_of_update atRemote
    · exact .inl same
    · exact .inr (.inr earlier)

/-- A lookup caches nothing but its key. -/
theorem Cached.of_get (cached : (cache.get source key).1.Cached other) :
    other = key ∨ cache.Cached other := by
  unfold LayeredCache.get at cached
  cases inMemory : cache.memory key with
  | some value =>
      rw [inMemory] at cached
      exact .inr cached
  | none =>
      rw [inMemory] at cached
      cases atRemote : cache.remote key with
      | some value =>
          rw [atRemote] at cached
          exact Cached.of_storeMemory cached
      | none =>
          rw [atRemote] at cached
          cases answered : source key with
          | error error =>
              rw [answered] at cached
              exact .inr cached
          | ok value =>
              rw [answered] at cached
              obtain same | stored := Cached.of_storeMemory cached
              · exact .inl same
              · exact Cached.of_storeRemote stored

end Entries

end LayeredCache

end ServiceTemplate
