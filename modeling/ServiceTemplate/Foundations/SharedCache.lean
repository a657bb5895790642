import Mathlib.Logic.Function.Basic
import ServiceTemplate.Foundations.Run

/-!
# One key of a cache shared by several nodes

Every node keeps an entry in its memory, in front of one remote entry and one
source.  A read looks in the memory, the remote cache and the source in turn, and
stores what it found.  A write changes the source, then deletes the entry from
its own memory and from the remote cache, and notifies the other nodes, which
delete it from theirs.  Each of these is one step; any number of operations are
in flight at once.

An entry may differ from the source while a deletion that removes it is still to
come.  A run keeps this up exactly if each of its stores does.
-/

namespace ServiceTemplate

/-- How a source is read and written.  A write may be rejected. -/
structure SourceAccess (Source Row Write : Type) where
  read : Source → Row
  write : Write → Source → Option Source

/-- What an operation does next. -/
inductive CacheStage (Row Write : Type) where
  | readMemory
  | readRemote
  | readSource
  | storeRemote (row : Row)
  | storeMemory (row : Row)
  | writeSource (write : Write)
  | deleteMemory
  | deleteRemote
  | notify

/-- The stages in which a write has deletions still to come. -/
def CacheStage.Deletes {Row Write : Type} : CacheStage Row Write → Prop
  | .deleteMemory | .deleteRemote | .notify => True
  | _ => False

structure SharedCache (Node Source Row Write : Type) where
  source : Source
  memory : Node → Option Row
  remote : Option Row
  /-- the notifications that a node has not applied yet -/
  notices : Node → Nat
  operations : Nat → Option (Node × CacheStage Row Write)

inductive CacheEvent (Node Write : Type) where
  | beginRead (slot : Nat) (node : Node)
  | beginWrite (slot : Nat) (node : Node) (write : Write)
  | advance (slot : Nat)
  | deliver (node : Node)
  | evictMemory (node : Node)
  | evictRemote

namespace SharedCache

variable {Node Source Row Write : Type}

def initial (source : Source) : SharedCache Node Source Row Write where
  source := source
  memory := fun _ => none
  remote := none
  notices := fun _ => 0
  operations := fun _ => none

/-- No operation is in flight, and all notifications have been applied. -/
def Quiescent (state : SharedCache Node Source Row Write) : Prop :=
  (∀ slot, state.operations slot = none) ∧ ∀ node, state.notices node = 0

section Step

variable [DecidableEq Node] (access : SourceAccess Source Row Write)
variable (state : SharedCache Node Source Row Write)

/-- The operation of a slot goes on with another stage, or ends. -/
def continueWith (slot : Nat) (rest : Option (Node × CacheStage Row Write)) :
    SharedCache Node Source Row Write :=
  { state with operations := Function.update state.operations slot rest }

def setMemory (node : Node) (entry : Option Row) : SharedCache Node Source Row Write :=
  { state with memory := Function.update state.memory node entry }

def advance (slot : Nat) (node : Node) :
    CacheStage Row Write → SharedCache Node Source Row Write
  | .readMemory =>
      match state.memory node with
      | some _ => state.continueWith slot none
      | none => state.continueWith slot (some (node, .readRemote))
  | .readRemote =>
      match state.remote with
      | some row => state.continueWith slot (some (node, .storeMemory row))
      | none => state.continueWith slot (some (node, .readSource))
  | .readSource =>
      state.continueWith slot (some (node, .storeRemote (access.read state.source)))
  | .storeRemote row =>
      { state with remote := some row }.continueWith slot (some (node, .storeMemory row))
  | .storeMemory row => (state.setMemory node (some row)).continueWith slot none
  | .writeSource write =>
      match access.write write state.source with
      | some source =>
          { state with source := source }.continueWith slot (some (node, .deleteMemory))
      | none => state.continueWith slot none
  | .deleteMemory =>
      (state.setMemory node none).continueWith slot (some (node, .deleteRemote))
  | .deleteRemote =>
      { state with remote := none }.continueWith slot (some (node, .notify))
  | .notify =>
      { state with
        notices := fun other =>
          if other = node then state.notices other else state.notices other + 1
      }.continueWith slot none

def step : CacheEvent Node Write → Option (SharedCache Node Source Row Write)
  | .beginRead slot node =>
      if (state.operations slot).isNone then
        some (state.continueWith slot (some (node, .readMemory)))
      else none
  | .beginWrite slot node write =>
      if (state.operations slot).isNone then
        some (state.continueWith slot (some (node, .writeSource write)))
      else none
  | .advance slot =>
      match state.operations slot with
      | some (node, stage) => some (state.advance access slot node stage)
      | none => none
  | .deliver node =>
      if 0 < state.notices node then
        some
          { state.setMemory node none with
            notices := Function.update state.notices node (state.notices node - 1) }
      else none
  | .evictMemory node => some (state.setMemory node none)
  | .evictRemote => some { state with remote := none }

end Step

/-! ## Deletions that are still to come -/

section Pending

variable (state : SharedCache Node Source Row Write)

/-- A write that has changed the source has yet to delete the remote entry. -/
def RemotePending : Prop :=
  ∃ slot node, state.operations slot = some (node, .deleteMemory) ∨
    state.operations slot = some (node, .deleteRemote)

/-- The entry in the memory of a node is yet to be deleted: by a write of that
node, by a write of another node that has not sent its notification, or by a
notification. -/
def MemoryPending (node : Node) : Prop :=
  0 < state.notices node ∨
    ∃ slot writer, state.operations slot = some (writer, .deleteMemory) ∨
      writer ≠ node ∧ (state.operations slot = some (writer, .deleteRemote) ∨
        state.operations slot = some (writer, .notify))

/-- Every entry is the current row, or is yet to be deleted. -/
structure Bounded (access : SourceAccess Source Row Write) : Prop where
  remote : ∀ row, state.remote = some row →
    row = access.read state.source ∨ state.RemotePending
  memory : ∀ node row, state.memory node = some row →
    row = access.read state.source ∨ state.MemoryPending node

/-- A step that stores a row stores the current one, or one that is yet to be
deleted. -/
def StoresInTime (access : SourceAccess Source Row Write) :
    CacheEvent Node Write → Prop
  | .advance slot =>
      match state.operations slot with
      | some (_, .storeRemote row) =>
          row = access.read state.source ∨ state.RemotePending
      | some (node, .storeMemory row) =>
          row = access.read state.source ∨ state.MemoryPending node
      | _ => True
  | _ => True

structure Current (access : SourceAccess Source Row Write) : Prop where
  remote : ∀ row, state.remote = some row → row = access.read state.source
  memory : ∀ node row, state.memory node = some row → row = access.read state.source

end Pending

/-! ## One step -/

section Bounded

variable {access : SourceAccess Source Row Write}
variable {state after : SharedCache Node Source Row Write}

/-- A slot whose operation has no deletion to come may change its operation. -/
theorem RemotePending.of_update {slot : Nat} {rest : Option (Node × CacheStage Row Write)}
    (pending : state.RemotePending)
    (operations : after.operations = Function.update state.operations slot rest)
    (harmless : ∀ node stage, state.operations slot = some (node, stage) → ¬ stage.Deletes) :
    after.RemotePending := by
  obtain ⟨other, node, deletes⟩ := pending
  have different : other ≠ slot := by
    rintro rfl
    rcases deletes with deletes | deletes <;> exact harmless _ _ deletes trivial
  refine ⟨other, node, ?_⟩
  rwa [operations, Function.update_of_ne different]

/-- A deletion that is still to come from another slot than the given one is
still to come when that slot changes its operation. -/
theorem MemoryPending.of_update_or {slot : Nat}
    {rest : Option (Node × CacheStage Row Write)} {node : Node}
    (pending : state.MemoryPending node)
    (operations : after.operations = Function.update state.operations slot rest)
    (notices : state.notices node ≤ after.notices node) :
    after.MemoryPending node ∨ ∃ writer,
      state.operations slot = some (writer, .deleteMemory) ∨
        writer ≠ node ∧ (state.operations slot = some (writer, .deleteRemote) ∨
          state.operations slot = some (writer, .notify)) := by
  rcases pending with notified | ⟨other, writer, deletes⟩
  · exact .inl (.inl (Nat.lt_of_lt_of_le notified notices))
  · by_cases same : other = slot
    · subst same
      exact .inr ⟨writer, deletes⟩
    · refine .inl (.inr ⟨other, writer, ?_⟩)
      rwa [operations, Function.update_of_ne same]

theorem MemoryPending.of_update {slot : Nat} {rest : Option (Node × CacheStage Row Write)}
    {node : Node} (pending : state.MemoryPending node)
    (operations : after.operations = Function.update state.operations slot rest)
    (notices : state.notices node ≤ after.notices node)
    (harmless : ∀ node stage, state.operations slot = some (node, stage) → ¬ stage.Deletes) :
    after.MemoryPending node := by
  rcases pending.of_update_or operations notices with later | ⟨writer, deletes⟩
  · exact later
  · rcases deletes with deletes | ⟨-, deletes | deletes⟩ <;>
      exact absurd trivial (harmless _ _ deletes)

/-- A step that neither stores a row nor changes the source, and takes no
deletion that is still to come away. -/
theorem Bounded.of_harmless (bounded : state.Bounded access) {slot : Nat}
    {rest : Option (Node × CacheStage Row Write)}
    (source : after.source = state.source) (remote : after.remote = state.remote)
    (memory : after.memory = state.memory) (notices : after.notices = state.notices)
    (operations : after.operations = Function.update state.operations slot rest)
    (harmless : ∀ node stage, state.operations slot = some (node, stage) → ¬ stage.Deletes) :
    after.Bounded access where
  remote row stored := by
    rw [remote] at stored
    rw [source]
    exact (bounded.remote row stored).imp_right (·.of_update operations harmless)
  memory node row stored := by
    rw [memory] at stored
    rw [source]
    refine (bounded.memory node row stored).imp_right fun pending => ?_
    exact pending.of_update operations (Nat.le_of_eq (congrFun notices node).symm) harmless

theorem bounded_initial (source : Source) :
    (initial source : SharedCache Node Source Row Write).Bounded access :=
  ⟨fun _ found => (nomatch found), fun _ _ found => (nomatch found)⟩

/-- Nothing is yet to be deleted in a quiescent state. -/
theorem Bounded.current (bounded : state.Bounded access) (quiescent : state.Quiescent) :
    state.Current access := by
  obtain ⟨idle, delivered⟩ := quiescent
  refine ⟨fun row found => ?_, fun node row found => ?_⟩
  · apply (bounded.remote row found).resolve_right
    rintro ⟨slot, node, deletes⟩
    simp [idle] at deletes
  · apply (bounded.memory node row found).resolve_right
    rintro (notified | ⟨slot, writer, deletes⟩)
    · simp [delivered] at notified
    · simp [idle] at deletes

theorem not_deletes_of_running {slot : Nat} {node : Node}
    {stage : CacheStage Row Write}
    (running : state.operations slot = some (node, stage)) (quiet : ¬ stage.Deletes) :
    ∀ other later, state.operations slot = some (other, later) → ¬ later.Deletes := by
  intro other later same
  rw [running] at same
  cases same
  exact quiet

variable [DecidableEq Node]

section Stages

variable {slot : Nat} {node : Node}

theorem Bounded.advance_storeMemory (bounded : state.Bounded access) {row : Row}
    (running : state.operations slot = some (node, .storeMemory row))
    (inTime : row = access.read state.source ∨ state.MemoryPending node) :
    (state.advance access slot node (.storeMemory row)).Bounded access := by
  have harmless := not_deletes_of_running running id
  refine ⟨fun stored found => ?_, fun other stored found => ?_⟩
  · exact (bounded.remote stored found).imp_right (·.of_update rfl harmless)
  · by_cases same : other = node
    · subst same
      have isRow : stored = row := by
        simpa [SharedCache.advance, continueWith, setMemory] using found.symm
      subst isRow
      exact inTime.imp_right (·.of_update rfl (Nat.le_refl _) harmless)
    · have earlier : state.memory other = some stored := by
        simpa [SharedCache.advance, continueWith, setMemory, same] using found
      exact (bounded.memory other stored earlier).imp_right
        (·.of_update rfl (Nat.le_refl _) harmless)

/-- The source has changed, and all deletions are still to come. -/
theorem Bounded.advance_writeSource (bounded : state.Bounded access) {write : Write}
    (running : state.operations slot = some (node, .writeSource write)) :
    (state.advance access slot node (.writeSource write)).Bounded access := by
  simp only [SharedCache.advance]
  split
  · next source written =>
    have deletes : (({ state with source := source } : SharedCache _ _ _ _).continueWith
        slot (some (node, .deleteMemory))).operations slot = some (node, .deleteMemory) :=
      Function.update_self _ _ _
    exact ⟨fun _ _ => .inr ⟨slot, node, .inl deletes⟩,
      fun _ _ _ => .inr (.inr ⟨slot, node, .inl deletes⟩)⟩
  · exact bounded.of_harmless rfl rfl rfl rfl rfl (not_deletes_of_running running id)

/-- The node's own entry is gone, and the other entries are deleted later. -/
theorem bounded_advance_deleteMemory :
    (state.advance access slot node .deleteMemory).Bounded access := by
  have deletes : (state.advance access slot node .deleteMemory).operations slot =
      some (node, .deleteRemote) :=
    Function.update_self _ _ _
  refine ⟨fun _ _ => .inr ⟨slot, node, .inr deletes⟩, fun other stored found => ?_⟩
  have different : other ≠ node := by
    rintro rfl
    simp [SharedCache.advance, continueWith, setMemory] at found
  exact .inr (.inr ⟨slot, node, .inr ⟨different.symm, .inl deletes⟩⟩)

/-- The remote entry is gone, and the notification is sent later. -/
theorem Bounded.advance_deleteRemote (bounded : state.Bounded access)
    (running : state.operations slot = some (node, .deleteRemote)) :
    (state.advance access slot node .deleteRemote).Bounded access := by
  have operations : (state.advance access slot node .deleteRemote).operations =
      Function.update state.operations slot (some (node, .notify)) := rfl
  have deletes : (state.advance access slot node .deleteRemote).operations slot =
      some (node, .notify) :=
    Function.update_self _ _ _
  refine ⟨(fun stored found => by cases found), fun other stored found => ?_⟩
  refine (bounded.memory other stored found).imp_right fun pending => ?_
  rcases pending.of_update_or operations (Nat.le_refl _) with later | ⟨writer, own⟩
  · exact later
  · simp only [running, Option.some.injEq, Prod.mk.injEq, reduceCtorEq, and_false,
      or_false, false_or, and_true] at own
    obtain ⟨different, rfl⟩ := own
    exact .inr ⟨slot, node, .inr ⟨different, .inr deletes⟩⟩

/-- The other nodes have a notification to apply. -/
theorem Bounded.advance_notify (bounded : state.Bounded access)
    (running : state.operations slot = some (node, .notify)) :
    (state.advance access slot node .notify).Bounded access := by
  have notices (other : Node) :
      (state.advance access slot node .notify).notices other =
        if other = node then state.notices other else state.notices other + 1 := rfl
  refine ⟨fun stored found => ?_, fun other stored found => ?_⟩
  · refine (bounded.remote stored found).imp_right fun pending => ?_
    obtain ⟨other, writer, deletes⟩ := pending
    have different : other ≠ slot := by
      rintro rfl
      simp [running] at deletes
    refine ⟨other, writer, ?_⟩
    simpa [SharedCache.advance, continueWith, different] using deletes
  · refine (bounded.memory other stored found).imp_right fun pending => ?_
    have grows : state.notices other ≤
        (state.advance access slot node .notify).notices other := by
      rw [notices]
      split <;> omega
    rcases pending.of_update_or rfl grows with later | ⟨writer, own⟩
    · exact later
    · simp only [running, Option.some.injEq, Prod.mk.injEq, reduceCtorEq, and_false,
        false_or, and_true] at own
      obtain ⟨different, rfl⟩ := own
      left
      rw [notices, if_neg different.symm]
      exact Nat.succ_pos _

theorem Bounded.advance (bounded : state.Bounded access) {stage : CacheStage Row Write}
    (running : state.operations slot = some (node, stage))
    (inTime : state.StoresInTime access (.advance slot)) :
    (state.advance access slot node stage).Bounded access := by
  have harmless := not_deletes_of_running running
  simp only [StoresInTime, running] at inTime
  cases stage with
  | readMemory =>
      simp only [SharedCache.advance]
      split <;> exact bounded.of_harmless rfl rfl rfl rfl rfl (harmless id)
  | readRemote =>
      simp only [SharedCache.advance]
      split <;> exact bounded.of_harmless rfl rfl rfl rfl rfl (harmless id)
  | readSource => exact bounded.of_harmless rfl rfl rfl rfl rfl (harmless id)
  | storeRemote row =>
      refine ⟨fun stored found => ?_, fun other stored found => ?_⟩
      · cases found
        exact inTime.imp_right (·.of_update rfl (harmless id))
      · exact (bounded.memory other stored found).imp_right
          (·.of_update rfl (Nat.le_refl _) (harmless id))
  | storeMemory row => exact bounded.advance_storeMemory running inTime
  | writeSource write => exact bounded.advance_writeSource running
  | deleteMemory => exact bounded_advance_deleteMemory
  | deleteRemote => exact bounded.advance_deleteRemote running
  | notify => exact bounded.advance_notify running

end Stages

theorem Bounded.memory_setMemory_none (bounded : state.Bounded access) (node : Node) :
    ∀ other row, (state.setMemory node none).memory other = some row →
      other ≠ node ∧ (row = access.read state.source ∨ state.MemoryPending other) := by
  intro other row found
  have different : other ≠ node := by
    rintro rfl
    simp [setMemory] at found
  have earlier : state.memory other = some row := by
    simpa [setMemory, different] using found
  exact ⟨different, bounded.memory other row earlier⟩

/-- A step that meets the condition keeps every entry current or yet to be
deleted. -/
theorem Bounded.step (bounded : state.Bounded access) {event : CacheEvent Node Write}
    (steps : state.step access event = some after)
    (inTime : state.StoresInTime access event) : after.Bounded access := by
  cases event with
  | beginRead slot node =>
      simp only [SharedCache.step] at steps
      split at steps
      · next free =>
        cases steps
        refine bounded.of_harmless rfl rfl rfl rfl rfl fun other stage same => ?_
        simp [same] at free
      · cases steps
  | beginWrite slot node write =>
      simp only [SharedCache.step] at steps
      split at steps
      · next free =>
        cases steps
        refine bounded.of_harmless rfl rfl rfl rfl rfl fun other stage same => ?_
        simp [same] at free
      · cases steps
  | advance slot =>
      simp only [SharedCache.step] at steps
      split at steps
      · next node stage running =>
        cases steps
        exact bounded.advance running inTime
      · cases steps
  | deliver node =>
      simp only [SharedCache.step] at steps
      split at steps
      · cases steps
        refine ⟨bounded.remote, fun other stored found => ?_⟩
        obtain ⟨different, currentOrPending⟩ :=
          bounded.memory_setMemory_none node other stored found
        refine currentOrPending.imp_right fun pending => pending.imp_left fun notified => ?_
        simpa [different] using notified
      · cases steps
  | evictMemory node =>
      cases steps
      exact ⟨bounded.remote, fun other stored found =>
        (bounded.memory_setMemory_none node other stored found).2⟩
  | evictRemote =>
      cases steps
      exact ⟨(fun stored found => by cases found), bounded.memory⟩

/-- A step that stores a row too late leaves an entry that is neither current
nor yet to be deleted. -/
theorem storesInTime_of_bounded {event : CacheEvent Node Write}
    (steps : state.step access event = some after) (bounded : after.Bounded access) :
    state.StoresInTime access event := by
  cases event with
  | advance slot =>
      simp only [SharedCache.step] at steps
      simp only [StoresInTime]
      split
      · next node row running =>
        rw [running] at steps
        cases steps
        refine (bounded.remote row rfl).imp_right fun pending => ?_
        obtain ⟨other, writer, deletes⟩ := pending
        have different : other ≠ slot := by
          rintro rfl
          simp [SharedCache.advance, continueWith] at deletes
        exact ⟨other, writer, by
          simpa [SharedCache.advance, continueWith, different] using deletes⟩
      · next node row running =>
        rw [running] at steps
        cases steps
        have stored : (state.advance access slot node (.storeMemory row)).memory node =
            some row := by
          simp [SharedCache.advance, continueWith, setMemory]
        refine (bounded.memory node row stored).imp_right fun pending => ?_
        apply pending.imp_right
        rintro ⟨other, writer, deletes⟩
        have different : other ≠ slot := by
          rintro rfl
          simp [SharedCache.advance, continueWith] at deletes
        exact ⟨other, writer, by
          simpa [SharedCache.advance, continueWith, setMemory, different] using deletes⟩
      · trivial
  | _ => trivial

/-! ## Runs -/

/-- The entries of a run are current or yet to be deleted in all its states if
and only if all its stores meet the condition. -/
theorem eachState_bounded_iff (source : Source) (events : List (CacheEvent Node Write)) :
    EachState (fun state => state.step access) (fun state => state.Bounded access)
        (initial source) events ↔
      EachStep (fun state => state.step access) (fun state => state.StoresInTime access)
        (initial source) events := by
  have holds : ∀ state : SharedCache Node Source Row Write,
      state.Bounded access → state.Bounded access := fun _ bounded => bounded
  have disabled : ∀ (state : SharedCache Node Source Row Write) event,
      state.step access event = none → state.StoresInTime access event := by
    intro state event stuck
    cases event with
    | advance slot =>
        simp only [SharedCache.step] at stuck
        split at stuck
        · cases stuck
        · next idle => simp [StoresInTime, idle]
    | _ => trivial
  exact eachState_iff_eachStep holds
    (fun state event next bounded steps inTime => bounded.step steps inTime)
    (fun state event next _ steps bounded => storesInTime_of_bounded steps bounded)
    disabled (bounded_initial source)

/-- In a run whose stores meet the condition, every entry of a quiescent state is
the current row. -/
theorem current_of_run {source : Source} {events : List (CacheEvent Node Write)}
    (inTime : EachStep (fun state => state.step access)
      (fun state => state.StoresInTime access) (initial source) events)
    (reaches : run (fun state => state.step access) (initial source) events = some state)
    (quiescent : state.Quiescent) : state.Current access := by
  have preserves : ∀ (before : SharedCache Node Source Row Write) event next,
      before.Bounded access → before.StoresInTime access event →
      before.step access event = some next → next.Bounded access :=
    fun _ _ _ bounded met steps => bounded.step steps met
  exact (run_invariant preserves (bounded_initial source) inTime reaches).current quiescent

end Bounded

end SharedCache

end ServiceTemplate
