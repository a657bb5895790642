import ServiceTemplate.Foundations.SharedCache
import ServiceTemplate.Users.CacheRefinement

/-!
# Readers and writers of one user

Any number of nodes read and write one user under its canonical text at the same
time.  A reader may store the row it has read after a writer has deleted the
entries of that row.  Unless that happens, nothing stale is left once all
operations have ended.
-/

namespace ServiceTemplate.Users

open SharedCache

/-- The writes of the service to a user that exists. -/
inductive UserWrite where
  | updateUser (updatedData : UserUpdateDTO)
  | deleteUser

/-- The table, read and written under the canonical text of one identifier. -/
def userAccess (id : Uuid) : SourceAccess UserTable (Option User) UserWrite where
  read table := table.select id
  write write table :=
    match write with
    | .updateUser updatedData =>
        (UserRepository.updateUser table id.text updatedData.toUpdatedUser).toOption.map
          Prod.fst
    | .deleteUser => (UserRepository.deleteUser table id.text).toOption.map Prod.fst

theorem getUser_text (table : UserTable) (id : Uuid) :
    UserRepository.getUser table id.text = .ok ((userAccess id).read table) :=
  UserRepository.getUser_of_parse (Uuid.parse_text id)

/-- The cache of one user on all nodes. -/
abbrev UserCache (Node : Type) : Type :=
  SharedCache Node UserTable (Option User) UserWrite

section Nodes

variable {Node : Type} [DecidableEq Node]

def UserCache.step (id : Uuid) (state : UserCache Node)
    (event : CacheEvent Node UserWrite) : Option (UserCache Node) :=
  SharedCache.step (userAccess id) state event

/-- Every entry for the user, on every node and in Redis, is what the repository
answers. -/
def UserCache.Fresh (id : Uuid) (state : UserCache Node) : Prop :=
  (∀ entry, state.remote = some entry →
      UserRepository.getUser state.source id.text = .ok entry) ∧
    ∀ node entry, state.memory node = some entry →
      UserRepository.getUser state.source id.text = .ok entry

/-- In every state of a run, every entry is the current row or is still to be
deleted by an operation or a notification in flight, if and only if every row
that the run stores is. -/
theorem bounded_iff_storesInTime (id : Uuid) (table : UserTable)
    (events : List (CacheEvent Node UserWrite)) :
    EachState (UserCache.step id) (fun state => state.Bounded (userAccess id))
        (SharedCache.initial table) events ↔
      EachStep (UserCache.step id) (fun state => state.StoresInTime (userAccess id))
        (SharedCache.initial table) events :=
  eachState_bounded_iff table events

/-- If every row that is stored is the current one, or is deleted again by a
write or a notification in flight, then no stale entry is left when no operation
is in flight and all notifications have been applied. -/
theorem fresh_of_storesInTime (id : Uuid) (table : UserTable)
    (events : List (CacheEvent Node UserWrite))
    (inTime : EachStep (UserCache.step id) (fun state => state.StoresInTime (userAccess id))
      (SharedCache.initial table) events)
    (state : UserCache Node)
    (reaches : run (UserCache.step id) (SharedCache.initial table) events = some state)
    (quiescent : state.Quiescent) : UserCache.Fresh id state := by
  have current : state.Current (userAccess id) := current_of_run inTime reaches quiescent
  refine ⟨fun entry found => ?_, fun node entry found => ?_⟩
  · rw [getUser_text, current.remote entry found]
  · rw [getUser_text, current.memory node entry found]

end Nodes

inductive TwoNodes where
  | reader | writer
  deriving DecidableEq

def renamed : UserUpdateDTO :=
  { name := some "Eve", email := none }

/-- The reader stores the old row, in Redis and in its memory, between the write
to the table and the deletions of that write.  Then both nodes read again. -/
def storedBeforeDeleted : List (CacheEvent TwoNodes UserWrite) :=
  [.beginRead 0 .reader, .advance 0, .advance 0, .advance 0,
    .beginWrite 1 .writer (.updateUser renamed), .advance 1, .advance 0, .advance 0,
    .advance 1, .advance 1, .advance 1, .deliver .reader,
    .beginRead 0 .reader, .advance 0, .advance 0, .advance 0, .advance 0, .advance 0,
    .beginRead 1 .writer, .advance 1, .advance 1, .advance 1]

/-- No slot but the first two is ever used. -/
theorem quiescent_of_two {state : UserCache TwoNodes}
    (first : state.operations 0 = none) (second : state.operations 1 = none)
    (others : ∀ slot, state.operations (slot + 2) = none)
    (reader : state.notices .reader = 0) (writer : state.notices .writer = 0) :
    state.Quiescent := by
  refine ⟨fun slot => ?_, fun node => ?_⟩
  · match slot with
    | 0 => exact first
    | 1 => exact second
    | slot + 2 => exact others slot
  · cases node with
    | reader => exact reader
    | writer => exact writer

theorem fresh_of_storesInTime_storedBeforeDeleted :
    ∃ state, run (UserCache.step sampleId) (SharedCache.initial sampleTable)
        storedBeforeDeleted = some state ∧
      state.remote.join.map (·.name.text) = some "Eve" ∧
      (∀ node, state.memory node = state.remote) ∧ UserCache.Fresh sampleId state := by
  refine ⟨_, rfl, by decide, fun node => by cases node <;> rfl,
    fresh_of_storesInTime sampleId sampleTable storedBeforeDeleted ?_ _ rfl ?_⟩
  · refine .cons rfl trivial (.cons rfl trivial (.cons rfl trivial (.cons rfl trivial ?_)))
    refine .cons rfl trivial (.cons rfl trivial ?_)
    -- both stores of the old row, while the write of slot 1 has all deletions to come
    refine .cons rfl (.inr ⟨1, .writer, .inl rfl⟩) ?_
    refine .cons rfl (.inr (.inr ⟨1, .writer, .inl rfl⟩)) ?_
    refine .cons rfl trivial (.cons rfl trivial (.cons rfl trivial (.cons rfl trivial ?_)))
    -- the reads of the new row
    refine .cons rfl trivial (.cons rfl trivial (.cons rfl trivial (.cons rfl trivial ?_)))
    refine .cons rfl (.inl rfl) (.cons rfl (.inl rfl) ?_)
    refine .cons rfl trivial (.cons rfl trivial (.cons rfl trivial ?_))
    exact .cons rfl (.inl rfl) trivial
  · exact quiescent_of_two rfl rfl (fun _ => rfl) rfl rfl

/-- A read takes the row from the table, another node deletes the user, and then
the read stores the row in Redis. -/
def deletedWhileRead : List (CacheEvent TwoNodes UserWrite) :=
  [.beginRead 0 .reader, .advance 0, .advance 0, .advance 0,
    .beginWrite 1 .writer .deleteUser, .advance 1, .advance 1, .advance 1, .advance 1,
    .deliver .reader, .advance 0, .advance 0, .evictMemory .reader]

/-- The row stays in Redis, even when the reading node drops it from its memory. -/
theorem deletedWhileRead_not_fresh :
    ∃ state, run (UserCache.step sampleId) (SharedCache.initial sampleTable)
        deletedWhileRead = some state ∧
      state.Quiescent ∧ (∀ node, state.memory node = none) ∧
      ¬ UserCache.Fresh sampleId state := by
  refine ⟨_, rfl, quiescent_of_two rfl rfl (fun _ => rfl) rfl rfl,
    fun node => by cases node <;> rfl, fun fresh => ?_⟩
  have stale := congrArg Except.toOption (fresh.1 _ rfl)
  exact absurd stale (by decide)

end ServiceTemplate.Users
