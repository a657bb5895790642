import Mathlib.Logic.Function.Basic
import ServiceTemplate.Foundations.Run

/-!
# A cache whose entries expire

Every node keeps entries in its memory, in front of a remote cache that all
nodes share and of a source.  A load asks the remote cache, then the source, and
stores what it found in the layers it passed; any number of loads run at once,
each of them for a limited time.  Entries may be deleted at any time, or not be
deleted although the source has changed.  However that may be, what was loaded
before a change is forgotten when both lifetimes have passed.
-/

namespace ServiceTemplate

/-- How a source is read and written.  A read may fail. -/
structure KeyedSource (Source Key Value Write : Type) where
  read : Source → Key → Option Value
  write : Source → Write → Source

/-- The lifetimes of entries, and the time in which a load settles. -/
structure CacheTimes where
  memoryTtl : Nat
  remoteTtl : Nat
  loadTime : Nat

structure TimedEntry (Value : Type) where
  value : Value
  expiresAt : Nat

/-- What a load does next. -/
inductive LoadStage (Value : Type) where
  | askRemote
  | askSource
  | storeRemote (value : Value)
  | storeMemory (value : Value)

structure Load (Node Key Value : Type) where
  node : Node
  key : Key
  startedAt : Nat
  stage : LoadStage Value

structure TimedCache (Node Source Key Value : Type) where
  now : Nat
  source : Source
  memory : Node → Key → Option (TimedEntry Value)
  remote : Key → Option (TimedEntry Value)
  loads : List (Load Node Key Value)

inductive TimedEvent (Node Key Write : Type) where
  | pass (duration : Nat)
  | write (write : Write)
  | load (node : Node) (key : Key)
  | advance (index : Nat)
  | fail (index : Nat)
  | forgetMemory (node : Node) (key : Key)
  | forgetRemote (key : Key)

/-- A load has found the value, or it is from so long ago that what it stores is
forgotten in time. -/
def LoadStage.Forgets {Value : Type} (times : CacheTimes) (start : Nat) (value : Value)
    (startedAt : Nat) : LoadStage Value → Prop
  | .askRemote | .askSource => True
  | .storeRemote found => found = value ∨ startedAt ≤ start
  | .storeMemory found => found = value ∨ startedAt ≤ start + times.loadTime + times.remoteTtl

namespace TimedCache

variable {Node Source Key Value Write : Type}

def initial (source : Source) : TimedCache Node Source Key Value where
  now := 0
  source := source
  memory _ _ := none
  remote _ := none
  loads := []

section Step

variable [DecidableEq Node] [DecidableEq Key]
variable (access : KeyedSource Source Key Value Write) (times : CacheTimes)
variable (state : TimedCache Node Source Key Value)

/-- What a node has in its memory for a key. -/
def lookup (node : Node) (key : Key) : Option Value :=
  match state.memory node key with
  | none => none
  | some entry => if state.now < entry.expiresAt then some entry.value else none

/-- What the remote cache answers for a key. -/
def lookupRemote (key : Key) : Option Value :=
  match state.remote key with
  | none => none
  | some entry => if state.now ≤ entry.expiresAt then some entry.value else none

def setMemory (node : Node) (key : Key) (entry : Option (TimedEntry Value)) :
    TimedCache Node Source Key Value :=
  { state with
    memory := Function.update state.memory node
      (Function.update (state.memory node) key entry) }

def setRemote (key : Key) (entry : Option (TimedEntry Value)) :
    TimedCache Node Source Key Value :=
  { state with remote := Function.update state.remote key entry }

def setStage (index : Nat) (load : Load Node Key Value) (stage : LoadStage Value) :
    TimedCache Node Source Key Value :=
  { state with loads := state.loads.set index { load with stage := stage } }

def endLoad (index : Nat) : TimedCache Node Source Key Value :=
  { state with loads := state.loads.eraseIdx index }

def advance (index : Nat) (load : Load Node Key Value) :
    TimedCache Node Source Key Value :=
  match load.stage with
  | .askRemote =>
      match state.lookupRemote load.key with
      | some value => state.setStage index load (.storeMemory value)
      | none => state.setStage index load .askSource
  | .askSource =>
      match access.read state.source load.key with
      | some value => state.setStage index load (.storeRemote value)
      | none => state.endLoad index
  | .storeRemote value =>
      (state.setRemote load.key (some ⟨value, state.now + times.remoteTtl⟩)).setStage
        index load (.storeMemory value)
  | .storeMemory value =>
      (state.setMemory load.node load.key
        (some ⟨value, state.now + times.memoryTtl⟩)).endLoad index

/-- Time does not pass the moment at which a load has to have settled. -/
def step : TimedEvent Node Key Write → Option (TimedCache Node Source Key Value)
  | .pass duration =>
      if ∀ load ∈ state.loads, state.now + duration ≤ load.startedAt + times.loadTime then
        some { state with now := state.now + duration }
      else none
  | .write write => some { state with source := access.write state.source write }
  | .load node key =>
      some { state with loads := ⟨node, key, state.now, .askRemote⟩ :: state.loads }
  | .advance index =>
      (state.loads[index]?).map fun load => state.advance access times index load
  | .fail index => some (state.endLoad index)
  | .forgetMemory node key => some (state.setMemory node key none)
  | .forgetRemote key => some (state.setRemote key none)

end Step

/-- A reader on the node is answered the value: it is in the memory of the node,
or a load has found it. -/
def Serves (state : TimedCache Node Source Key Value) (node : Node) (key : Key)
    (value : Value) : Prop :=
  state.lookup node key = some value ∨
    ∃ load ∈ state.loads, load.node = node ∧ load.key = key ∧
      load.stage = .storeMemory value

/-! ## Deadlines -/

/-- No entry outlives its lifetime and no load its time. -/
structure WellTimed (times : CacheTimes) (state : TimedCache Node Source Key Value) :
    Prop where
  memory : ∀ node key entry, state.memory node key = some entry →
    entry.expiresAt ≤ state.now + times.memoryTtl
  remote : ∀ key entry, state.remote key = some entry →
    entry.expiresAt ≤ state.now + times.remoteTtl
  loads : ∀ load ∈ state.loads, load.startedAt ≤ state.now ∧
    state.now ≤ load.startedAt + times.loadTime

/-- Whatever is cached or loaded for the key is the value, or is forgotten in
time. -/
structure Forgets (times : CacheTimes) (start : Nat) (key : Key) (value : Value)
    (state : TimedCache Node Source Key Value) : Prop where
  memory : ∀ node entry, state.memory node key = some entry → entry.value = value ∨
    entry.expiresAt ≤ start + 2 * times.loadTime + times.remoteTtl + times.memoryTtl
  remote : ∀ entry, state.remote key = some entry → entry.value = value ∨
    entry.expiresAt ≤ start + times.loadTime + times.remoteTtl
  loads : ∀ load ∈ state.loads, load.key = key →
    load.stage.Forgets times start value load.startedAt

section Frame

variable {times : CacheTimes} {state : TimedCache Node Source Key Value} {index : Nat}
variable {load : Load Node Key Value} {stage : LoadStage Value}
variable {start : Nat} {key : Key} {value : Value}

theorem wellTimed_initial (source : Source) :
    WellTimed times (initial source : TimedCache Node Source Key Value) where
  memory _ _ _ found := nomatch found
  remote _ _ found := nomatch found
  loads _ member := nomatch member

theorem WellTimed.endLoad (wellTimed : state.WellTimed times) :
    (state.endLoad index).WellTimed times where
  memory := wellTimed.memory
  remote := wellTimed.remote
  loads other member := wellTimed.loads other (List.mem_of_mem_eraseIdx member)

theorem WellTimed.setStage (wellTimed : state.WellTimed times) (member : load ∈ state.loads) :
    (state.setStage index load stage).WellTimed times where
  memory := wellTimed.memory
  remote := wellTimed.remote
  loads other present := by
    cases List.mem_or_eq_of_mem_set present with
    | inl earlier => exact wellTimed.loads other earlier
    | inr same => subst same; exact wellTimed.loads load member

theorem Forgets.endLoad (forgets : state.Forgets times start key value) :
    (state.endLoad index).Forgets times start key value where
  memory := forgets.memory
  remote := forgets.remote
  loads other member := forgets.loads other (List.mem_of_mem_eraseIdx member)

theorem Forgets.setStage (forgets : state.Forgets times start key value)
    (allowed : load.key = key → stage.Forgets times start value load.startedAt) :
    (state.setStage index load stage).Forgets times start key value where
  memory := forgets.memory
  remote := forgets.remote
  loads other present sameKey := by
    cases List.mem_or_eq_of_mem_set present with
    | inl earlier => exact forgets.loads other earlier sameKey
    | inr same => subst same; exact allowed sameKey

variable [DecidableEq Key]

theorem WellTimed.setRemote (wellTimed : state.WellTimed times) (key : Key)
    {entry : Option (TimedEntry Value)}
    (soon : ∀ stored ∈ entry, stored.expiresAt ≤ state.now + times.remoteTtl) :
    (state.setRemote key entry).WellTimed times where
  memory := wellTimed.memory
  remote at' stored found := by
    by_cases same : at' = key
    · subst same
      simp only [TimedCache.setRemote, Function.update_self] at found
      exact soon stored found
    · simp only [TimedCache.setRemote, Function.update_of_ne same] at found
      exact wellTimed.remote at' stored found
  loads := wellTimed.loads

theorem Forgets.setRemote (forgets : state.Forgets times start key value) (at' : Key)
    {entry : Option (TimedEntry Value)}
    (allowed : at' = key → ∀ stored ∈ entry, stored.value = value ∨
      stored.expiresAt ≤ start + times.loadTime + times.remoteTtl) :
    (state.setRemote at' entry).Forgets times start key value where
  memory := forgets.memory
  remote stored found := by
    by_cases same : key = at'
    · subst same
      simp only [TimedCache.setRemote, Function.update_self] at found
      exact allowed rfl stored found
    · simp only [TimedCache.setRemote, Function.update_of_ne same] at found
      exact forgets.remote stored found
  loads := forgets.loads

variable [DecidableEq Node]

theorem WellTimed.setMemory (wellTimed : state.WellTimed times) (node : Node) (key : Key)
    {entry : Option (TimedEntry Value)}
    (soon : ∀ stored ∈ entry, stored.expiresAt ≤ state.now + times.memoryTtl) :
    (state.setMemory node key entry).WellTimed times where
  memory other at' stored found := by
    by_cases sameNode : other = node
    · subst sameNode
      by_cases sameKey : at' = key
      · subst sameKey
        simp only [TimedCache.setMemory, Function.update_self] at found
        exact soon stored found
      · simp only [TimedCache.setMemory, Function.update_self,
          Function.update_of_ne sameKey] at found
        exact wellTimed.memory other at' stored found
    · simp only [TimedCache.setMemory, Function.update_of_ne sameNode] at found
      exact wellTimed.memory other at' stored found
  remote := wellTimed.remote
  loads := wellTimed.loads

theorem Forgets.setMemory (forgets : state.Forgets times start key value) (node : Node)
    (at' : Key) {entry : Option (TimedEntry Value)}
    (allowed : at' = key → ∀ stored ∈ entry, stored.value = value ∨ stored.expiresAt ≤
      start + 2 * times.loadTime + times.remoteTtl + times.memoryTtl) :
    (state.setMemory node at' entry).Forgets times start key value where
  memory other stored found := by
    by_cases sameNode : other = node
    · subst sameNode
      by_cases sameKey : key = at'
      · subst sameKey
        simp only [TimedCache.setMemory, Function.update_self] at found
        exact allowed rfl stored found
      · simp only [TimedCache.setMemory, Function.update_self,
          Function.update_of_ne sameKey] at found
        exact forgets.memory other stored found
    · simp only [TimedCache.setMemory, Function.update_of_ne sameNode] at found
      exact forgets.memory other stored found
  remote := forgets.remote
  loads := forgets.loads

end Frame

/-! ## One step and runs -/

section Runs

variable {access : KeyedSource Source Key Value Write} {times : CacheTimes}
variable {state next : TimedCache Node Source Key Value}
variable {start : Nat} {key : Key} {value : Value}

theorem exists_entry_of_lookupRemote (remembered : state.lookupRemote key = some value) :
    ∃ entry, state.remote key = some entry ∧ entry.value = value ∧
      state.now ≤ entry.expiresAt := by
  unfold lookupRemote at remembered
  split at remembered
  · cases remembered
  · next entry stored =>
    split at remembered
    · next inForce =>
      cases remembered
      exact ⟨entry, stored, rfl, inForce⟩
    · cases remembered

theorem exists_entry_of_lookup {node : Node} (remembered : state.lookup node key = some value) :
    ∃ entry, state.memory node key = some entry ∧ entry.value = value ∧
      state.now < entry.expiresAt := by
  unfold lookup at remembered
  split at remembered
  · cases remembered
  · next entry stored =>
    split at remembered
    · next inForce =>
      cases remembered
      exact ⟨entry, stored, rfl, inForce⟩
    · cases remembered

/-- At the start everything that is cached or loaded is forgotten in time. -/
theorem WellTimed.forgets (wellTimed : state.WellTimed times) (key : Key) (value : Value) :
    state.Forgets times state.now key value where
  memory node entry stored := by
    have := wellTimed.memory node key entry stored
    omega
  remote entry stored := by
    have := wellTimed.remote key entry stored
    omega
  loads load member _ := by
    have started := (wellTimed.loads load member).1
    cases load.stage with
    | askRemote => trivial
    | askSource => trivial
    | storeRemote found => exact .inr started
    | storeMemory found =>
        right
        omega

variable [DecidableEq Node] [DecidableEq Key]

theorem WellTimed.advance (wellTimed : state.WellTimed times) {index : Nat}
    {load : Load Node Key Value} (member : load ∈ state.loads) :
    (state.advance access times index load).WellTimed times := by
  unfold TimedCache.advance
  split
  · split
    · exact wellTimed.setStage member
    · exact wellTimed.setStage member
  · split
    · exact wellTimed.setStage member
    · exact wellTimed.endLoad
  · next value _ =>
    have stored : (state.setRemote load.key
        (some ⟨value, state.now + times.remoteTtl⟩)).WellTimed times := by
      apply wellTimed.setRemote
      intro entry written
      cases written
      exact Nat.le_refl _
    exact stored.setStage member
  · apply WellTimed.endLoad
    apply wellTimed.setMemory
    intro entry written
    cases written
    exact Nat.le_refl _

theorem WellTimed.step (wellTimed : state.WellTimed times)
    {event : TimedEvent Node Key Write} (steps : state.step access times event = some next) :
    next.WellTimed times := by
  cases event with
  | pass duration =>
      simp only [TimedCache.step, Option.ite_none_right_eq_some, Option.some.injEq] at steps
      obtain ⟨inTime, rfl⟩ := steps
      constructor
      · intro node key entry stored
        have := wellTimed.memory node key entry stored
        show entry.expiresAt ≤ state.now + duration + times.memoryTtl
        omega
      · intro key entry stored
        have := wellTimed.remote key entry stored
        show entry.expiresAt ≤ state.now + duration + times.remoteTtl
        omega
      · intro load member
        have started := (wellTimed.loads load member).1
        have settles := inTime load member
        show load.startedAt ≤ state.now + duration ∧
          state.now + duration ≤ load.startedAt + times.loadTime
        omega
  | write write =>
      cases steps
      exact ⟨wellTimed.memory, wellTimed.remote, wellTimed.loads⟩
  | load node key =>
      cases steps
      refine ⟨wellTimed.memory, wellTimed.remote, fun load member => ?_⟩
      cases List.mem_cons.mp member with
      | inl new => subst new; exact ⟨Nat.le_refl _, Nat.le_add_right _ _⟩
      | inr earlier => exact wellTimed.loads load earlier
  | advance index =>
      obtain ⟨load, found, rfl⟩ := Option.map_eq_some_iff.mp steps
      exact wellTimed.advance (List.mem_of_getElem? found)
  | fail index =>
      cases steps
      exact wellTimed.endLoad
  | forgetMemory node key =>
      cases steps
      exact wellTimed.setMemory node key fun _ written => (nomatch written)
  | forgetRemote key =>
      cases steps
      exact wellTimed.setRemote key fun _ written => (nomatch written)

theorem Forgets.advance (forgets : state.Forgets times start key value)
    (wellTimed : state.WellTimed times)
    (current : access.read state.source key = some value) {index : Nat}
    {load : Load Node Key Value} (member : load ∈ state.loads) :
    (state.advance access times index load).Forgets times start key value := by
  obtain ⟨started, inTime⟩ := wellTimed.loads load member
  have own := forgets.loads load member
  unfold TimedCache.advance
  split
  · split
    · next found remembered =>
      apply forgets.setStage
      intro sameKey
      rw [sameKey] at remembered
      obtain ⟨entry, stored, rfl, inForce⟩ := exists_entry_of_lookupRemote remembered
      cases forgets.remote entry stored with
      | inl same => exact .inl same
      | inr soon =>
          right
          omega
    · apply forgets.setStage
      intro _
      trivial
  · split
    · next found readSource =>
      apply forgets.setStage
      intro sameKey
      rw [sameKey, current] at readSource
      exact .inl (Option.some.inj readSource).symm
    · exact forgets.endLoad
  · next found stage =>
    have remembered : (state.setRemote load.key
        (some ⟨found, state.now + times.remoteTtl⟩)).Forgets times start key value := by
      apply forgets.setRemote
      intro sameKey entry written
      cases written
      have old := own sameKey
      rw [stage] at old
      cases old with
      | inl same => exact .inl same
      | inr early =>
          right
          show state.now + times.remoteTtl ≤ start + times.loadTime + times.remoteTtl
          omega
    apply remembered.setStage
    intro sameKey
    have old := own sameKey
    rw [stage] at old
    cases old with
    | inl same => exact .inl same
    | inr early =>
        right
        omega
  · next found stage =>
    apply Forgets.endLoad
    apply forgets.setMemory
    intro sameKey entry written
    cases written
    have old := own sameKey
    rw [stage] at old
    cases old with
    | inl same => exact .inl same
    | inr early =>
        right
        show state.now + times.memoryTtl ≤
          start + 2 * times.loadTime + times.remoteTtl + times.memoryTtl
        omega

theorem Forgets.step (forgets : state.Forgets times start key value)
    (wellTimed : state.WellTimed times)
    (current : access.read state.source key = some value)
    {event : TimedEvent Node Key Write} (steps : state.step access times event = some next) :
    next.Forgets times start key value := by
  cases event with
  | pass duration =>
      simp only [TimedCache.step, Option.ite_none_right_eq_some, Option.some.injEq] at steps
      obtain ⟨-, rfl⟩ := steps
      exact ⟨forgets.memory, forgets.remote, forgets.loads⟩
  | write write =>
      cases steps
      exact ⟨forgets.memory, forgets.remote, forgets.loads⟩
  | load node other =>
      cases steps
      refine ⟨forgets.memory, forgets.remote, fun load member sameKey => ?_⟩
      cases List.mem_cons.mp member with
      | inl new => subst new; trivial
      | inr earlier => exact forgets.loads load earlier sameKey
  | advance index =>
      obtain ⟨load, found, rfl⟩ := Option.map_eq_some_iff.mp steps
      exact forgets.advance wellTimed current (List.mem_of_getElem? found)
  | fail index =>
      cases steps
      exact forgets.endLoad
  | forgetMemory node other =>
      cases steps
      exact forgets.setMemory node other fun _ _ written => (nomatch written)
  | forgetRemote other =>
      cases steps
      exact forgets.setRemote other fun _ _ written => (nomatch written)

/-- While the source has one value for the key, what was loaded before is forgotten
in time. -/
theorem forgets_of_unchanged {first last : TimedCache Node Source Key Value}
    {events : List (TimedEvent Node Key Write)} (wellTimed : first.WellTimed times)
    (unchanged : EachState (step access times)
      (fun state => access.read state.source key = some value) first events)
    (reaches : run (step access times) first events = some last) :
    last.WellTimed times ∧ last.Forgets times first.now key value := by
  have preserves : ∀ (state : TimedCache Node Source Key Value) event next,
      (state.WellTimed times ∧ state.Forgets times first.now key value) →
      access.read state.source key = some value → step access times state event = some next →
      next.WellTimed times ∧ next.Forgets times first.now key value := by
    rintro state event next ⟨timed, forgets⟩ current stepTo
    exact ⟨timed.step stepTo, forgets.step timed current stepTo⟩
  have initially : first.WellTimed times ∧ first.Forgets times first.now key value :=
    ⟨wellTimed, wellTimed.forgets key value⟩
  exact run_invariant preserves initially unchanged.eachStep reaches

/-- When the source has had one value for a key for so long, the value is all that
any reader is answered. -/
theorem serves_of_unchanged {first last : TimedCache Node Source Key Value}
    {events : List (TimedEvent Node Key Write)} (wellTimed : first.WellTimed times)
    (unchanged : EachState (step access times)
      (fun state => access.read state.source key = some value) first events)
    (reaches : run (step access times) first events = some last)
    (lifetime : 0 < times.memoryTtl)
    (elapsed : first.now + (2 * times.loadTime + times.remoteTtl + times.memoryTtl) ≤
      last.now)
    {node : Node} {found : Value} (serves : last.Serves node key found) : found = value := by
  obtain ⟨timed, forgets⟩ := forgets_of_unchanged wellTimed unchanged reaches
  obtain remembered | ⟨load, member, -, sameKey, stage⟩ := serves
  · obtain ⟨entry, stored, rfl, inForce⟩ := exists_entry_of_lookup remembered
    cases forgets.memory node entry stored with
    | inl same => exact same
    | inr soon => omega
  · have old := forgets.loads load member sameKey
    rw [stage] at old
    cases old with
    | inl same => exact same
    | inr early =>
        have inTime := (timed.loads load member).2
        omega

end Runs

end TimedCache

end ServiceTemplate
