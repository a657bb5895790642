import ServiceTemplate.Foundations.TimedCache
import ServiceTemplate.Users.StoredUsers
import ServiceTemplate.Users.UserService

/-!
# How long a stale user is served

The lifetimes of the user loader bound the time for which a node can answer with
an old row, whichever text the row is asked for under, and even if no entry is
ever deleted after a write.
-/

namespace ServiceTemplate.Users

def IN_MEMORY_CACHE_TTL : Nat := 1000 * 60 * 5

/-- The `ttlInMsecs` of the Redis cache of the user loader. -/
def REDIS_CACHE_TTL : Nat := 1000 * 60 * 60

/-- The lifetimes of the user loader, for loads that settle within a time. -/
def userLoaderTimes (loadTime : Nat) : CacheTimes where
  memoryTtl := IN_MEMORY_CACHE_TTL
  remoteTtl := REDIS_CACHE_TTL
  loadTime := loadTime

/-- A statement that the repository sends to change the table. -/
inductive UserStatement where
  | createUser (generated : Uuid) (user : UserCreateDTO)
  | updateUser (userId : String) (updatedData : UserUpdateDTO)
  | deleteUser (userId : String)

/-- The table after a statement.  A rejected one changes nothing. -/
def UserStatement.execute (table : UserTable) : UserStatement → UserTable
  | .createUser generated user =>
      match UserRepository.createUser table generated user.toNewUser with
      | .ok (inserted, _) => inserted
      | .error _ => table
  | .updateUser userId updatedData =>
      match UserRepository.updateUser table userId updatedData.toUpdatedUser with
      | .ok (updated, _) => updated
      | .error _ => table
  | .deleteUser userId =>
      match UserRepository.deleteUser table userId with
      | .ok (remaining, _) => remaining
      | .error _ => table

/-- The data source of the loader: a missing row is a value, a text that names no
identifier is an error. -/
def UserDataSource : KeyedSource UserTable String (Option User) UserStatement where
  read table userId := (UserRepository.getUser table userId).toOption
  write table statement := statement.execute table

theorem UserDataSource_read {table : UserTable} {userId : String} {row : Option User} :
    UserDataSource.read table userId = some row ↔
      UserRepository.getUser table userId = .ok row := by
  show (UserRepository.getUser table userId).toOption = some row ↔ _
  cases UserRepository.getUser table userId with
  | ok found => simp [Except.toOption]
  | error error => simp [Except.toOption]

section Nodes

variable {Node : Type} [DecidableEq Node]

/-- The user loaders of all nodes, over one Redis and one table. -/
abbrev UserLoaders (Node : Type) : Type := TimedCache Node UserTable String (Option User)

def UserLoaders.step (loadTime : Nat) (state : UserLoaders Node)
    (event : TimedEvent Node String UserStatement) : Option (UserLoaders Node) :=
  TimedCache.step UserDataSource (userLoaderTimes loadTime) state event

/-- Once the row of a text has not changed for 65 minutes and the time of two
loads, every node answers with it, whatever has happened before and whatever else
happens meanwhile. -/
theorem current_row_served (loadTime : Nat) (table : UserTable) (userId : String)
    (row : Option User) (before after : List (TimedEvent Node String UserStatement))
    (first last : UserLoaders Node)
    (starts : run (UserLoaders.step loadTime) (TimedCache.initial table) before = some first)
    (unchanged : EachState (UserLoaders.step loadTime)
      (fun state => UserRepository.getUser state.source userId = .ok row) first after)
    (reaches : run (UserLoaders.step loadTime) first after = some last)
    (elapsed : first.now + 2 * loadTime + 65 * 60 * 1000 ≤ last.now)
    (node : Node) (served : Option User) (serves : last.Serves node userId served) :
    served = row := by
  have timed : first.WellTimed (userLoaderTimes loadTime) := by
    refine run_invariant_of_step ?_ (TimedCache.wellTimed_initial table) starts
    intro state event next timed stepTo
    exact timed.step stepTo
  have reads : EachState (TimedCache.step UserDataSource (userLoaderTimes loadTime))
      (fun state => UserDataSource.read state.source userId = some row) first after := by
    simp only [UserDataSource_read]
    exact unchanged
  have lifetime : 0 < (userLoaderTimes loadTime).memoryTtl := by
    show 0 < IN_MEMORY_CACHE_TTL
    decide
  have lifetimes : 2 * loadTime + REDIS_CACHE_TTL + IN_MEMORY_CACHE_TTL =
      2 * loadTime + 65 * 60 * 1000 := by
    simp only [REDIS_CACHE_TTL, IN_MEMORY_CACHE_TTL, Nat.reduceMul, Nat.add_assoc,
      Nat.reduceAdd]
  refine TimedCache.serves_of_unchanged timed reads reaches lifetime ?_ serves
  calc
    first.now + (2 * loadTime + REDIS_CACHE_TTL + IN_MEMORY_CACHE_TTL) =
        first.now + 2 * loadTime + 65 * 60 * 1000 := by rw [lifetimes, Nat.add_assoc]
    _ ≤ last.now := elapsed

end Nodes

/-- The row is cached, and then deleted without a trace in the cache. -/
def cachedThenDeleted : List (TimedEvent Unit String UserStatement) :=
  [.load () sampleId.text, .advance 0, .advance 0, .advance 0, .advance 0,
    .write (.deleteUser sampleId.text)]

def waitedThenRead : List (TimedEvent Unit String UserStatement) :=
  [.pass (65 * 60 * 1000 + 2 * 1000), .load () sampleId.text, .advance 0, .advance 0,
    .advance 0]

theorem current_row_served_afterDelete :
    ∃ first last : UserLoaders Unit,
      run (UserLoaders.step 1000) (TimedCache.initial sampleTable) cachedThenDeleted =
        some first ∧
      run (UserLoaders.step 1000) first waitedThenRead = some last ∧
      (∃ stale, first.Serves () sampleId.text (some stale)) ∧
      last.Serves () sampleId.text none ∧
      ∀ served, last.Serves () sampleId.text served → served = none := by
  refine ⟨_, _, rfl, rfl, ⟨_, .inl rfl⟩, .inr ⟨_, List.mem_cons_self, rfl, rfl, rfl⟩, ?_⟩
  intro served serves
  refine current_row_served 1000 sampleTable sampleId.text none cachedThenDeleted
    waitedThenRead _ _ rfl ?_ rfl ?_ () served serves
  · refine .cons rfl rfl (.cons rfl rfl (.cons rfl rfl (.cons rfl rfl (.cons rfl rfl ?_))))
    exact rfl
  · exact Nat.le_of_eq rfl

end ServiceTemplate.Users
