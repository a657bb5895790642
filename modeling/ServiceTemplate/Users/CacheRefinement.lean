import ServiceTemplate.Foundations.Run
import ServiceTemplate.Users.UserService

/-!
# The cached service and the table

One node, one operation at a time.  The service answers what the table holds as
long as its cache is coherent.  A write removes the entry under one text of the
identifier: the text the caller wrote, or the canonical one after an insertion.
An entry that a reader left under another text of the same identifier stays.
-/

namespace ServiceTemplate.Users

open LayeredCache

/-- An operation of the service, or the loss of an entry of the cache. -/
inductive UserOperation where
  | createUser (generated : Uuid) (user : UserCreateDTO)
  | updateUser (userId : String) (updatedData : UserUpdateDTO)
  | deleteUser (userId : String)
  | getUser (userId : String)
  | findUserById (id : String)
  | evictMemory (key : String)
  | evictRedis (key : String)

namespace ServiceState

def step (state : ServiceState) : UserOperation → Option ServiceState
  | .createUser generated user => some (UserService.createUser state generated user).1
  | .updateUser userId updatedData => some (UserService.updateUser state userId updatedData).1
  | .deleteUser userId => some (UserService.deleteUser state userId).1
  | .getUser userId => some (UserService.getUser state userId).1
  | .findUserById id => some (UserService.findUserById state id).1
  | .evictMemory key => some { state with cache := state.cache.evictMemory key }
  | .evictRedis key => some { state with cache := state.cache.evictRemote key }

/-- The service answers every reader what the repository would. -/
def AnswersAsRepository (state : ServiceState) : Prop :=
  ∀ id, (UserService.getUser state id).2 =
      UserService.foundOrError id (UserRepository.getUser state.table id) ∧
    (UserService.findUserById state id).2 =
      UserService.foundOrNull (UserRepository.getUser state.table id)

/-- Every entry of the cache is what the repository answers for its key. -/
def CacheCoherent (state : ServiceState) : Prop :=
  Coherent (UserRepository.getUser state.table) state.cache

/-- The row that an operation writes, the text it removes from the cache, and
the table after it.  A rejected write writes nothing. -/
def written (state : ServiceState) : UserOperation → Option (Uuid × String × UserTable)
  | .createUser generated user =>
      match UserRepository.createUser state.table generated user.toNewUser with
      | .ok (table, newUser) => some (newUser.id, newUser.id.text, table)
      | .error _ => none
  | .updateUser userId updatedData =>
      match UserRepository.updateUser state.table userId updatedData.toUpdatedUser with
      | .ok (table, _) => (Uuid.parse userId).map fun uuid => (uuid, userId, table)
      | .error _ => none
  | .deleteUser userId =>
      match UserRepository.deleteUser state.table userId with
      | .ok (table, _) => (Uuid.parse userId).map fun uuid => (uuid, userId, table)
      | .error _ => none
  | _ => none

/-- A write that changes a row leaves no entry for it under another text than
the one it removes. -/
def NoOtherSpelling (state : ServiceState) (operation : UserOperation) : Prop :=
  ∀ uuid text after, state.written operation = some (uuid, text, after) →
    after.select uuid ≠ state.table.select uuid →
    ∀ key, key ≠ text → Uuid.parse key = some uuid → ¬ state.cache.Cached key

/-! ## Reading -/

variable {state : ServiceState}

theorem load_answer (coherent : state.CacheCoherent) (id : String) :
    (UserService.load state id).2 = UserRepository.getUser state.table id := by
  rw [UserService.load_eq_get]
  exact coherent.get_answer id

theorem load_coherent (coherent : state.CacheCoherent) (id : String) :
    (UserService.load state id).1.CacheCoherent := by
  rw [UserService.load_eq_get]
  exact Coherent.get coherent id

/-- A coherent cache is invisible to readers. -/
theorem CacheCoherent.answersAsRepository (coherent : state.CacheCoherent) :
    state.AnswersAsRepository :=
  fun id =>
    ⟨congrArg (UserService.foundOrError id) (load_answer coherent id),
      congrArg UserService.foundOrNull (load_answer coherent id)⟩

theorem foundOrNull_injective : Function.Injective UserService.foundOrNull := by
  intro first second same
  cases first <;> cases second <;> simp_all [UserService.foundOrNull]

/-! ## Writing -/

/-- A write changes its own row only, and its text names that row. -/
theorem written_spec {operation : UserOperation} {uuid : Uuid} {text : String}
    {after : UserTable} (writes : state.written operation = some (uuid, text, after)) :
    state.step operation = some ⟨after, state.cache.invalidate text⟩ ∧
      Uuid.parse text = some uuid ∧
      ∀ other, other ≠ uuid → after.select other = state.table.select other := by
  cases operation with
  | createUser generated user =>
      simp only [written, step, UserService.createUser] at writes ⊢
      split at writes
      · next table newUser created =>
        cases writes
        obtain ⟨-, -, inserted⟩ := UserRepository.createUser_eq_ok created
        refine ⟨by rw [created], Uuid.parse_text _, fun other different => ?_⟩
        rw [UserTable.select_insert inserted, if_neg different.symm]
      · cases writes
  | updateUser userId updatedData =>
      simp only [written, step, UserService.updateUser] at writes ⊢
      split at writes
      · next table updated done =>
        obtain ⟨named, assignment, parsed, -, stored⟩ := UserRepository.updateUser_eq_ok done
        rw [parsed] at writes
        cases writes
        refine ⟨by rw [done], parsed, fun other different => ?_⟩
        rw [UserTable.select_update stored, if_neg different]
      · cases writes
  | deleteUser userId =>
      simp only [written, step, UserService.deleteUser] at writes ⊢
      split at writes
      · next table deleted done =>
        obtain ⟨named, parsed, rfl⟩ := UserRepository.deleteUser_eq_ok done
        rw [parsed] at writes
        cases writes
        refine ⟨by rw [done], parsed, fun other different => ?_⟩
        rw [UserTable.select_delete, if_neg different]
      · cases writes
  | _ => cases writes

/-- What writes nothing keeps the table and the coherence of the cache. -/
theorem step_of_not_written {operation : UserOperation} {next : ServiceState}
    (nothing : state.written operation = none) (steps : state.step operation = some next)
    (coherent : state.CacheCoherent) : next.CacheCoherent := by
  cases operation with
  | createUser generated user =>
      simp only [written, step, UserService.createUser] at nothing steps
      split at nothing
      · cases nothing
      · next error refused =>
        rw [refused] at steps
        cases steps
        exact coherent
  | updateUser userId updatedData =>
      simp only [written, step, UserService.updateUser] at nothing steps
      split at nothing
      · next table updated done =>
        obtain ⟨named, -, parsed, -⟩ := UserRepository.updateUser_eq_ok done
        rw [parsed] at nothing
        cases nothing
      · next error refused =>
        rw [refused] at steps
        cases steps
        exact coherent
  | deleteUser userId =>
      simp only [written, step, UserService.deleteUser] at nothing steps
      split at nothing
      · next table deleted done =>
        obtain ⟨named, parsed, -⟩ := UserRepository.deleteUser_eq_ok done
        rw [parsed] at nothing
        cases nothing
      · next error refused =>
        rw [refused] at steps
        cases steps
        exact coherent
  | getUser userId =>
      cases steps
      exact load_coherent coherent userId
  | findUserById id =>
      cases steps
      exact load_coherent coherent id
  | evictMemory key =>
      cases steps
      exact coherent.evictMemory key
  | evictRedis key =>
      cases steps
      exact coherent.evictRemote key

/-- The repository answers a text differently only if the row it names changed. -/
theorem getUser_eq_of_select_eq {after : UserTable} {uuid : Uuid} {key : String}
    (others : ∀ other, other ≠ uuid → after.select other = state.table.select other)
    (same : Uuid.parse key = some uuid → after.select uuid = state.table.select uuid) :
    UserRepository.getUser after key = UserRepository.getUser state.table key := by
  cases parsed : Uuid.parse key with
  | none =>
      rw [UserRepository.getUser_of_not_parse parsed,
        UserRepository.getUser_of_not_parse parsed]
  | some named =>
      rw [UserRepository.getUser_of_parse parsed, UserRepository.getUser_of_parse parsed]
      by_cases changed : named = uuid
      · subst changed
        rw [same parsed]
      · rw [others named changed]

theorem CacheCoherent.step {operation : UserOperation} {next : ServiceState}
    (coherent : state.CacheCoherent) (steps : state.step operation = some next)
    (clean : state.NoOtherSpelling operation) : next.CacheCoherent := by
  cases writes : state.written operation with
  | none => exact step_of_not_written writes steps coherent
  | some change =>
      obtain ⟨uuid, text, after⟩ := change
      obtain ⟨stepTo, -, others⟩ := written_spec writes
      rw [stepTo] at steps
      cases steps
      refine Coherent.invalidate coherent text fun key different cached => ?_
      refine getUser_eq_of_select_eq others fun parsed => ?_
      by_contra changed
      exact clean uuid text after writes changed key different parsed cached

/-- An entry under another text is answered although the row has changed. -/
theorem noOtherSpelling_of_answers {operation : UserOperation} {next : ServiceState}
    (coherent : state.CacheCoherent) (steps : state.step operation = some next)
    (answers : next.AnswersAsRepository) : state.NoOtherSpelling operation := by
  intro uuid text after writes changed key different parsed cached
  obtain ⟨stepTo, -, -⟩ := written_spec writes
  rw [stepTo] at steps
  cases steps
  have stale : (UserService.load ⟨after, state.cache.invalidate text⟩ key).2 =
      UserRepository.getUser state.table key := by
    rw [UserService.load_eq_get]
    exact Coherent.get_answer_of_cached coherent different cached
  have current := foundOrNull_injective (answers key).2
  have same : UserRepository.getUser state.table key = UserRepository.getUser after key :=
    stale.symm.trans current
  rw [UserRepository.getUser_of_parse parsed, UserRepository.getUser_of_parse parsed] at same
  exact changed (Except.ok.inj same).symm

theorem step_ne_none (state : ServiceState) (operation : UserOperation) :
    state.step operation ≠ none := by
  cases operation <;> exact Option.some_ne_none _

/-- From an empty cache, the service answers like the repository in every state
of a run if and only if no write of the run leaves an entry for the row it
changes under another text of its identifier. -/
theorem answersAsRepository_iff (table : UserTable) (operations : List UserOperation) :
    EachState step AnswersAsRepository ⟨table, LayeredCache.empty⟩ operations ↔
      EachStep step NoOtherSpelling ⟨table, LayeredCache.empty⟩ operations := by
  have holds : ∀ state, CacheCoherent state → AnswersAsRepository state :=
    fun _ coherent => coherent.answersAsRepository
  have preserves : ∀ state operation next, CacheCoherent state →
      step state operation = some next → NoOtherSpelling state operation →
      CacheCoherent next :=
    fun _ _ _ coherent steps clean => coherent.step steps clean
  have needed : ∀ state operation next, CacheCoherent state →
      step state operation = some next → AnswersAsRepository next →
      NoOtherSpelling state operation :=
    fun _ _ _ coherent steps answers => noOtherSpelling_of_answers coherent steps answers
  exact eachState_iff_eachStep holds preserves needed
    (fun state operation stuck => absurd stuck (step_ne_none state operation))
    (coherent_empty _)

/-- A user is read under a text in upper case, then renamed under the canonical
text. -/
def renamedAfterRead : List UserOperation :=
  [.createUser sampleId { name := "Ada", age := none, email := "ada@example.com" },
    .findUserById "0190A5C4-0000-7000-8000-0000000000AB",
    .updateUser "0190a5c4-0000-7000-8000-0000000000ab" { name := some "Eve", email := none }]

theorem renamedAfterRead_not_answersAsRepository :
    ∃ state, run step ⟨UserTable.empty, LayeredCache.empty⟩ renamedAfterRead = some state ∧
      ¬ state.AnswersAsRepository := by
  have reads : (run step ⟨UserTable.empty, LayeredCache.empty⟩ renamedAfterRead).any
      (fun state => decide
        ((UserService.findUserById state "0190A5C4-0000-7000-8000-0000000000AB").2.toOption ≠
          (UserService.foundOrNull (UserRepository.getUser state.table
            "0190A5C4-0000-7000-8000-0000000000AB")).toOption)) = true := by
    decide
  obtain ⟨state, reaches, differ⟩ := (Option.any_eq_true _ _).mp reads
  refine ⟨state, reaches, fun answers => of_decide_eq_true differ ?_⟩
  exact congrArg Except.toOption (answers _).2

end ServiceState

end ServiceTemplate.Users
