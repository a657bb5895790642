import ServiceTemplate.Jobs.Discipline

/-!
# What a subclass can do

A `processInternal` works with the mutexes it has built itself: it cannot reach
the private field `singleConsumerLock`, and the mutexes of other calls are other
objects.  Besides, the identifiers it uses are subject to a condition.

The three jobs work with mutexes of their own that are built without an
identifier, and start the refresh timers of the acquired ones only.
-/

namespace ServiceTemplate.Jobs

open Program

/-- What a `processInternal` may do.  The mode lists the mutexes it has built. -/
def subclassContract (mayUse : Identifier → Prop) :
    Contract Command.Answer Thrown (List Nat) where
  allows built command :=
    match command with
    | .setNx mutex | .refresh mutex | .delete mutex =>
        mutex.ref ∈ built ∧ mayUse mutex.identifier
    | .startRefresh mutex | .stopRefresh mutex => mutex.ref ∈ built
    | .getSingleConsumerLock | .setSingleConsumerLock _ => False
    | .record event => event.plain = true
    | _ => True
  moves built command answer later :=
    match command, answer with
    | .construct, .ok ref => later = ref :: built
    | _, _ => later = built

/-- Every execution works with mutexes of its own, under identifiers it may use. -/
def AbstractPeriodicJob.UsesOwnMutexes (job : AbstractPeriodicJob)
    (mayUse : String → Identifier → Prop) : Prop :=
  ∀ executionUuid, (job.processInternal executionUuid).Follows
    (subclassContract (mayUse executionUuid)) [] fun _ _ => True

/-! ## Mutexes of its own, without an identifier -/

/-- Both contracts at once.  The mode lists the mutexes that have been built and
those that have been acquired. -/
def ownAnonymousLocks : Contract Command.Answer Thrown (List Nat × List Mutex) :=
  (subclassContract fun identifier => ∃ ref, identifier = .generated ref).prod anonymousLocks

def AbstractPeriodicJob.UsesOwnAnonymousLocks (job : AbstractPeriodicJob) : Prop :=
  ∀ executionUuid, (job.processInternal executionUuid).Follows ownAnonymousLocks ([], [])
    fun _ _ => True

theorem subclassContract_total (mayUse : Identifier → Prop) : (subclassContract mayUse).Total := by
  intro built command answer
  cases command with
  | construct =>
      rcases answer with error | ref
      · exact ⟨built, rfl⟩
      · exact ⟨ref :: built, rfl⟩
  | _ => exact ⟨built, rfl⟩

theorem anonymousLocks_total : anonymousLocks.Total := by
  intro acquired command answer
  cases command with
  | setNx mutex | refresh mutex =>
      rcases answer with error | given
      · exact ⟨acquired, rfl⟩
      cases given with
      | false => exact ⟨acquired, rfl⟩
      | true => exact ⟨mutex :: acquired, rfl⟩
  | _ => exact ⟨acquired, rfl⟩

namespace AbstractPeriodicJob.UsesOwnAnonymousLocks

variable {job : AbstractPeriodicJob}

theorem takesLocksAnonymously (uses : job.UsesOwnAnonymousLocks) : job.TakesLocksAnonymously :=
  fun executionUuid => (uses executionUuid).snd (subclassContract_total _)

theorem usesOwnMutexes (uses : job.UsesOwnAnonymousLocks)
    {mayUse : String → Identifier → Prop}
    (anonymous : ∀ executor ref, mayUse executor (.generated ref)) :
    job.UsesOwnMutexes mayUse := by
  intro executionUuid
  have own := (uses executionUuid).fst anonymousLocks_total
  have permitted {identifier : Identifier} (generated : ∃ ref, identifier = .generated ref) :
      mayUse executionUuid identifier := by
    obtain ⟨ref, rfl⟩ := generated
    exact anonymous executionUuid ref
  refine Follows.of_contract Eq ?_ ?_ rfl own
  · rintro built _ command rfl allowed
    cases command with
    | setNx mutex | refresh mutex | delete mutex => exact ⟨allowed.1, permitted allowed.2⟩
    | _ => exact allowed
  · rintro built _ command answer later rfl - moved
    exact ⟨later, moved, rfl⟩

end AbstractPeriodicJob.UsesOwnAnonymousLocks

/-! ## The three jobs -/

section Methods

variable {options : JobOptions} {mode : List Nat × List Mutex}

/-- A mutex that has been built without an identifier. -/
def OwnAnonymous (mode : List Nat × List Mutex) (mutex : Mutex) : Prop :=
  mutex.ref ∈ mode.1 ∧ mutex.Anonymous

/-- What asking for a lock gives. -/
def GivesOwnAnonymous (mode : List Nat × List Mutex) :
    Except Thrown (Option Mutex) → Prop :=
  fun result => ∀ lock, result = .ok (some lock) → OwnAnonymous mode lock

theorem issue_follows_own {command : Command}
    {post : List Nat × List Mutex → Except Thrown command.Answer → Prop}
    (allowed : ownAnonymousLocks.allows mode command)
    (continues : ∀ answer later, ownAnonymousLocks.moves mode command answer later →
      post later answer) :
    (issue command).Follows ownAnonymousLocks mode post :=
  Follows.perform allowed continues

/-- A refresh timer is started for a lock that has been acquired. -/
theorem afterAnswer_follows_own {mutex : Mutex} (own : OwnAnonymous mode mutex)
    {given : Bool} (acquired : given = true → mutex ∈ mode.2) :
    (mutex.afterAnswer given).Follows ownAnonymousLocks mode fun later _ => later.1 = mode.1 := by
  unfold Mutex.afterAnswer
  by_cases starts : (given && decide (0 < mutex.refreshInterval)) = true
  · rw [if_pos starts]
    have isGiven : given = true := (Bool.and_eq_true_iff.mp starts).1
    refine ⟨⟨own.1, acquired isGiven⟩, fun answer later moved => ?_⟩
    cases answer <;> exact moved.1
  · rw [if_neg starts]
    rfl

theorem tryAcquire_follows_own {mutex : Mutex} (own : OwnAnonymous mode mutex) :
    mutex.tryAcquire.Follows ownAnonymousLocks mode fun later _ => later.1 = mode.1 := by
  have goesOn (given : Bool) (later : List Nat × List Mutex) (same : later.1 = mode.1)
      (acquired : given = true → later.2 = mutex :: mode.2) :
      (mutex.afterAnswer given).Follows ownAnonymousLocks later fun last _ => last.1 = mode.1 := by
    rw [← same]
    refine afterAnswer_follows_own ⟨same ▸ own.1, own.2⟩ fun isGiven => ?_
    rw [acquired isGiven]
    exact List.mem_cons_self
  cases external : mutex.acquiredExternally with
  | true =>
      rw [Mutex.tryAcquire_of_external external]
      refine ⟨⟨own, own.2⟩, fun answer later moved => ?_⟩
      rcases answer with error | given
      · exact moved.1
      · exact goesOn given later moved.1 fun isGiven => by subst isGiven; exact moved.2
  | false =>
      rw [Mutex.tryAcquire_of_fresh external]
      refine ⟨⟨own, own.2⟩, fun answer later moved => ?_⟩
      rcases answer with error | given
      · exact moved.1
      · exact goesOn given later moved.1 fun isGiven => by subst isGiven; exact moved.2

theorem getJobMutex_follows_own (key : String) {lockOptions : LockOptions}
    (anonymous : ∀ ref, ∃ other, lockOptions.identifier.getD (.generated ref) = .generated other) :
    (options.getJobMutex key lockOptions).Follows ownAnonymousLocks mode
      fun later result => ∀ mutex, result = .ok mutex → OwnAnonymous later mutex := by
  refine ⟨⟨trivial, trivial⟩, fun answer later moved => ?_⟩
  rcases answer with error | ref
  · intro mutex returned
    cases returned
  · intro mutex returned
    cases returned
    have built : later.1 = ref :: mode.1 := moved.1
    exact ⟨built ▸ List.mem_cons_self, anonymous ref⟩

/-- A lock that is asked for without an identifier has a random one. -/
theorem tryAcquireExclusiveLock_follows_own {lockConfiguration : LockConfiguration}
    (noIdentifier : lockConfiguration.identifier = none) :
    (options.tryAcquireExclusiveLock lockConfiguration).Follows ownAnonymousLocks mode
      GivesOwnAnonymous := by
  unfold JobOptions.tryAcquireExclusiveLock
  simp only [noIdentifier, Option.isSome_none, Bool.and_false]
  refine Follows.bind ((getJobMutex_follows_own _ fun ref => ⟨ref, rfl⟩).mono ?_)
  rintro later (error | mutex) built
  · intro lock returned
    cases returned
  have own := built mutex rfl
  refine Follows.bind ((tryAcquire_follows_own own).mono ?_)
  rintro last (error | given) same
  · intro lock returned
    cases returned
  · intro lock returned
    cases given with
    | false => cases returned
    | true =>
        cases returned
        exact ⟨same ▸ own.1, own.2⟩

theorem updateMutex_follows_own {mutex : Mutex} (anonymous : mutex.Anonymous)
    (newLockTimeout : Nat) (key : String) :
    (options.updateMutex mutex newLockTimeout key).Follows ownAnonymousLocks mode
      fun _ _ => True := by
  refine Follows.bind ((getJobMutex_follows_own _ ?_).mono ?_)
  · exact fun _ => anonymous
  rintro later (error | renewal) built
  · trivial
  refine Follows.bind ((tryAcquire_follows_own (built renewal rfl)).mono ?_)
  rintro last (error | renewed) - <;> trivial

end Methods

theorem DeleteOldUsersJob.usesOwnAnonymousLocks : DeleteOldUsersJob.job.UsesOwnAnonymousLocks := by
  intro executionUuid
  refine Follows.bind ((tryAcquireExclusiveLock_follows_own rfl).mono ?_)
  rintro later (error | lock) given
  · trivial
  cases lock with
  | none => exact issue_follows_own ⟨rfl, rfl⟩ fun _ _ _ => trivial
  | some lock =>
      obtain ⟨own, anonymous⟩ := given lock rfl
      refine Follows.tryFinally
        (issue_follows_own ⟨trivial, trivial⟩ fun outcome worked moved => ?_)
      refine Follows.bind (issue_follows_own ⟨moved.1 ▸ own, anonymous⟩ ?_)
      rintro (error | stopped) last movedOn
      · trivial
      · have kept : last.1 = later.1 := movedOn.1.trans moved.1
        refine issue_follows_own ⟨⟨kept ▸ own, anonymous⟩, anonymous⟩ ?_
        rintro (error | deleted) final - <;> trivial

theorem SendEmailsJob.usesOwnAnonymousLocks : SendEmailsJob.job.UsesOwnAnonymousLocks := by
  intro executionUuid
  refine Follows.bind ((tryAcquireExclusiveLock_follows_own rfl).mono ?_)
  rintro later (error | lock) given
  · trivial
  cases lock with
  | none => exact issue_follows_own ⟨rfl, rfl⟩ fun _ _ _ => trivial
  | some lock =>
      refine Follows.bind (issue_follows_own ⟨trivial, trivial⟩ ?_)
      rintro (error | sent) later moved
      · trivial
      refine Follows.bind ((updateMutex_follows_own (given lock rfl).2 _ _).mono ?_)
      rintro later (error | updated) - <;> trivial

/-- Every iteration of the loop takes the lock of one file. -/
theorem ProcessLogFilesJob.processFiles_follows_own (executionUuid : String) (remaining : Nat) :
    ∀ mode, (processFiles executionUuid remaining).Follows ownAnonymousLocks mode
      fun _ _ => True := by
  induction remaining with
  | zero => exact fun _ => trivial
  | succ remaining ih =>
      intro mode
      refine Follows.bind (issue_follows_own ⟨trivial, trivial⟩ ?_)
      rintro (error | found) later moved
      · trivial
      dsimp only
      cases found.filter (· ≠ "") with
      | none => exact issue_follows_own ⟨rfl, rfl⟩ fun _ _ _ => trivial
      | some fileToProcess =>
          refine Follows.bind ((tryAcquireExclusiveLock_follows_own rfl).mono ?_)
          rintro later (error | lock) given
          · trivial
          cases lock with
          | none => exact ih later
          | some lock =>
              obtain ⟨own, anonymous⟩ := given lock rfl
              refine Follows.bind (Follows.tryFinally
                (issue_follows_own ⟨trivial, trivial⟩ fun outcome processed moved => ?_))
              refine issue_follows_own ⟨moved.1 ▸ own, anonymous⟩ ?_
              rintro (error | stopped) final -
              · trivial
              · cases outcome with
                | error error => trivial
                | ok value => exact ih final

theorem ProcessLogFilesJob.usesOwnAnonymousLocks :
    ProcessLogFilesJob.job.UsesOwnAnonymousLocks :=
  fun executionUuid => processFiles_follows_own executionUuid FILE_PROCESSING_BATCH_SIZE ([], [])

end ServiceTemplate.Jobs
