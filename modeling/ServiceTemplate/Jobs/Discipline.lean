import ServiceTemplate.Jobs.PeriodicJobs

/-!
# The locking discipline of one execution

An execution of a job goes through a fixed sequence of modes: it wins the
exclusive lock, keeps it alive by a refresh timer, runs `processInternal`, and
hands the lock over.  The contract below says which command belongs to which
mode and what each answer leads to.  `process` keeps to it for every job whose
`processInternal` takes further locks without an identifier only.
-/

namespace ServiceTemplate.Jobs

open Program

/-! ## Bodies that take further locks without an identifier -/

/-- A mutex with the random identifier of one built without an identifier. -/
def Mutex.Anonymous (mutex : Mutex) : Prop :=
  ∃ ref, mutex.identifier = .generated ref

/-- What a `processInternal` may do.  The mode lists the mutexes it has
acquired: it starts the refresh timer of no other one. -/
def anonymousLocks : Contract Command.Answer Thrown (List Mutex) where
  allows acquired command :=
    match command with
    | .setNx mutex | .refresh mutex | .delete mutex | .stopRefresh mutex =>
        mutex.Anonymous
    | .startRefresh mutex => mutex ∈ acquired
    | .getSingleConsumerLock | .setSingleConsumerLock _ => False
    | .record event => event.plain = true
    | _ => True
  moves acquired command answer later :=
    match command, answer with
    | .setNx mutex, .ok true | .refresh mutex, .ok true =>
        later = mutex :: acquired
    | _, _ => later = acquired

/-- The job takes further locks through `tryAcquireExclusiveLock` without an
identifier only. -/
def AbstractPeriodicJob.TakesLocksAnonymously (job : AbstractPeriodicJob) : Prop :=
  ∀ executionUuid, (job.processInternal executionUuid).Follows anonymousLocks []
    fun _ _ => True

/-! ## The contract of an execution -/

/-- Where an execution stands, with the mutex it won the lock by. -/
inductive Mode where
  /-- the lock is not won, or no longer held on behalf of a body -/
  | settled
  /-- a mutex has been built and its lock is asked for next -/
  | built (ref : Nat)
  /-- the lock is won, its timer not yet started -/
  | won (lock : Mutex)
  | holding (lock : Mutex)
  /-- the lock is remembered in `singleConsumerLock` -/
  | stored (lock : Mutex)
  /-- `transactionObservabilityManager.start` has been called -/
  | started (lock : Mutex)
  /-- `processInternal` runs and has acquired the listed mutexes -/
  | executing (lock : Mutex) (nested : List Mutex)
  /-- the lock has been renewed by a second mutex, whose timer starts next -/
  | renewed (lock renewal : Mutex)
  /-- the timer of the lock stops next -/
  | handedOver (lock : Mutex)

def JobOptions.exclusiveKey (options : JobOptions) : String :=
  options.getJobLockName DEFAULT_LOCK_NAME

/-- A mutex of the executor for the exclusive key. -/
structure OwnMutex (options : JobOptions) (executor : String) (mutex : Mutex) :
    Prop where
  key : mutex.key = options.exclusiveKey
  identifier : mutex.identifier = .given executor
  refreshInterval : mutex.refreshInterval = defaultRefreshInterval mutex.lockTimeout

section Contract

variable (options : JobOptions) (executor : String) (permitted : Task → Prop)

/-- The commands that belong to a mode. -/
def Mode.Allows : Mode → Command → Prop
  | .settled, .construct => True
  | .settled, .setSingleConsumerLock lock => lock = none
  | .settled, .record event => event.plain = true
  | .built ref, .setNx mutex => mutex.ref = ref ∧ OwnMutex options executor mutex
  | .built ref, .refresh mutex =>
      mutex.ref = ref ∧ OwnMutex options executor mutex ∧ 0 < mutex.lockTimeout
  | .won lock, .startRefresh mutex => mutex = lock
  | .holding lock, .setSingleConsumerLock written => written = some lock
  | .stored _, .observabilityStart _ _ => True
  | .started _, .construct => True
  | .started _, .getSingleConsumerLock => True
  | .started _, .report _ _ => True
  | .started _, .record event => event.plain = true ∨ event = .bodyCalled
  | .started lock, .refresh mutex =>
      OwnMutex options executor mutex ∧ mutex ≠ lock ∧
        mutex.lockTimeout = options.timeoutAfterRun
  | .executing _ _, .record event => event.plain = true ∨ event = .bodySettled
  | .executing _ _, .perform task => permitted task
  | .executing _ nested, command => anonymousLocks.allows nested command
  | .renewed _ renewal, .startRefresh mutex => mutex = renewal
  | .handedOver _, .getSingleConsumerLock => True
  | .handedOver lock, .stopRefresh mutex => mutex = lock
  | _, _ => False

/-- The modes that an answer leads to. -/
def Mode.Moves : Mode → (command : Command) → Except Thrown command.Answer →
    Mode → Prop
  | .settled, .construct, .ok ref, later => later = .built ref
  | .built _, .setNx mutex, .ok true, later =>
      later = .won mutex ∧ 0 < mutex.lockTimeout
  | .built _, .setNx mutex, .ok false, later =>
      later = .settled ∧ 0 < mutex.lockTimeout
  | .built _, .refresh mutex, .ok true, later => later = .won mutex
  | .built _, _, _, later => later = .settled
  | .won lock, .startRefresh _, .ok _, later => later = .holding lock
  | .holding lock, .setSingleConsumerLock _, .ok _, later => later = .stored lock
  | .stored lock, .observabilityStart _ _, _, later => later = .started lock
  | .started lock, .construct, .ok ref, later =>
      later = .started lock ∧ ref ≠ lock.ref
  | .started lock, .getSingleConsumerLock, .ok answered, later =>
      later = .started lock ∧ answered = some lock
  | .started lock, .record .bodyCalled, .ok _, later => later = .executing lock []
  | .started lock, .refresh mutex, .ok refreshed, later =>
      refreshed = true ∧
        later = if 0 < mutex.refreshInterval then .renewed lock mutex
          else .handedOver lock
  | .started _, .refresh _, .error _, later => later = .settled
  | .executing lock nested, .setNx mutex, .ok true, later
  | .executing lock nested, .refresh mutex, .ok true, later =>
      later = .executing lock (mutex :: nested) ∧ mutex.key ≠ options.exclusiveKey
  | .executing lock _, .record .bodySettled, .ok _, later => later = .started lock
  | .renewed lock _, .startRefresh _, .ok _, later => later = .handedOver lock
  | .handedOver lock, .getSingleConsumerLock, .ok answered, later =>
      later = .handedOver lock ∧ answered = some lock
  | .handedOver _, .stopRefresh _, .ok _, later => later = .settled
  | mode, _, _, later => later = mode

/-- The contract of one execution by an executor, whose body may await the
permitted tasks. -/
def executionContract : Contract Command.Answer Thrown Mode where
  allows := Mode.Allows options executor permitted
  moves mode command answer later :=
    Mode.Moves options mode command answer later ∧
      ∀ error, answer = .error error → command.fallible = true

end Contract

/-! ## `process` keeps to the contract -/

theorem defaultRefreshInterval_pos {lockTimeout : Nat} (positive : 0 < lockTimeout) :
    0 < defaultRefreshInterval lockTimeout := by
  unfold defaultRefreshInterval
  omega

theorem defaultRefreshInterval_le (lockTimeout : Nat) :
    defaultRefreshInterval lockTimeout ≤ lockTimeout := by
  unfold defaultRefreshInterval
  omega

section Process

variable {options : JobOptions} {executor : String} {permitted : Task → Prop}

theorem Mutex.refreshInterval_pos_of_own {mutex : Mutex}
    (own : OwnMutex options executor mutex) (positive : 0 < mutex.lockTimeout) :
    0 < mutex.refreshInterval := by
  rw [own.refreshInterval]
  exact defaultRefreshInterval_pos positive

theorem moves_of_ok {mode later : Mode} {command : Command} {value : command.Answer}
    (advanced : Mode.Moves options mode command (.ok value) later) :
    (executionContract options executor permitted).moves mode command (.ok value) later :=
  ⟨advanced, fun _ thrown => by cases thrown⟩

theorem moves_of_fallible {mode later : Mode} {command : Command}
    {answer : Except Thrown command.Answer} (fallible : command.fallible = true)
    (advanced : Mode.Moves options mode command answer later) :
    (executionContract options executor permitted).moves mode command answer later :=
  ⟨advanced, fun _ _ => fallible⟩

theorem executionContract_moves_ok {mode later : Mode} {command : Command}
    {answer : Except Thrown command.Answer}
    (infallible : command.fallible = false)
    (moved : (executionContract options executor permitted).moves
      mode command answer later) :
    ∃ value, answer = .ok value ∧ Mode.Moves options mode command (.ok value) later := by
  rcases answer with error | value
  · have fallible := moved.2 error rfl
    rw [infallible] at fallible
    cases fallible
  · exact ⟨value, rfl, moved.1⟩

/-- The rule of a command that cannot throw. -/
theorem follows_issue {Value : Type} {mode : Mode} {command : Command}
    {next : command.Answer → JobProgram Value}
    {post : Mode → Except Thrown Value → Prop}
    (infallible : command.fallible = false)
    (allowed : mode.Allows options executor permitted command)
    (continues : ∀ value later, Mode.Moves options mode command (.ok value) later →
      (next value).Follows (executionContract options executor permitted) later post) :
    ((issue command).bind next).Follows
      (executionContract options executor permitted) mode post := by
  refine Follows.bind (Follows.perform allowed fun answer later moved => ?_)
  obtain ⟨value, rfl, advanced⟩ := executionContract_moves_ok infallible moved
  exact continues value later advanced

theorem getJobMutex_follows (key : String) (lockOptions : LockOptions) :
    (options.getJobMutex key lockOptions).Follows
      (executionContract options executor permitted) .settled
      fun mode result => ∃ ref, mode = .built ref ∧
        result = .ok (Mutex.new ref (options.getJobLockName key) lockOptions) := by
  refine ⟨trivial, fun answer later moved => ?_⟩
  obtain ⟨ref, rfl, advanced⟩ := executionContract_moves_ok rfl moved
  exact ⟨ref, advanced, rfl⟩

/-- While the lock is held, a mutex that is built is another object. -/
theorem getJobMutex_follows_started {lock : Mutex} (key : String)
    (lockOptions : LockOptions) :
    (options.getJobMutex key lockOptions).Follows
      (executionContract options executor permitted) (.started lock)
      fun mode result => mode = .started lock ∧
        ∃ ref, ref ≠ lock.ref ∧
          result = .ok (Mutex.new ref (options.getJobLockName key) lockOptions) := by
  refine ⟨trivial, fun answer later moved => ?_⟩
  obtain ⟨ref, rfl, stays, fresh⟩ := executionContract_moves_ok rfl moved
  exact ⟨stays, ref, fresh, rfl⟩

/-- The first attempt to take the lock: `SET NX`. -/
theorem tryAcquire_follows_setNx {mutex : Mutex}
    (own : OwnMutex options executor mutex)
    (internal : mutex.acquiredExternally = false) :
    mutex.tryAcquire.Follows (executionContract options executor permitted)
      (.built mutex.ref) fun mode result =>
        match result with
        | .ok true => mode = .holding mutex
        | .ok false => mode = .settled ∧ 0 < mutex.lockTimeout
        | .error _ => mode = .settled := by
  unfold Mutex.tryAcquire
  rw [if_neg (by simp [internal])]
  refine ⟨⟨rfl, own⟩, fun answer later moved => ?_⟩
  rcases answer with error | acquired
  · exact moved.1
  cases acquired with
  | false => exact moved.1
  | true =>
      obtain ⟨rfl, positive⟩ := moved.1
      have timed := Mutex.refreshInterval_pos_of_own own positive
      simp only [timed, decide_true]
      refine ⟨rfl, fun answer later moved => ?_⟩
      obtain ⟨_, rfl, advanced⟩ := executionContract_moves_ok rfl moved
      exact advanced

/-- The second attempt: the lock is refreshed if it is the executor's own. -/
theorem tryAcquire_follows_refresh {mutex : Mutex}
    (own : OwnMutex options executor mutex) (positive : 0 < mutex.lockTimeout)
    (external : mutex.acquiredExternally = true) :
    mutex.tryAcquire.Follows (executionContract options executor permitted)
      (.built mutex.ref) fun mode result =>
        match result with
        | .ok true => mode = .holding mutex
        | _ => mode = .settled := by
  unfold Mutex.tryAcquire
  rw [if_pos external]
  refine ⟨⟨rfl, own, positive⟩, fun answer later moved => ?_⟩
  rcases answer with error | acquired
  · exact moved.1
  cases acquired with
  | false => exact moved.1
  | true =>
      cases moved.1
      have timed := Mutex.refreshInterval_pos_of_own own positive
      simp only [timed, decide_true]
      refine ⟨rfl, fun answer later moved => ?_⟩
      obtain ⟨_, rfl, advanced⟩ := executionContract_moves_ok rfl moved
      exact advanced

/-- The renewal of the lock after the body has run. -/
theorem tryAcquire_follows_renewal {lock mutex : Mutex}
    (own : OwnMutex options executor mutex) (different : mutex ≠ lock)
    (timeout : mutex.lockTimeout = options.timeoutAfterRun)
    (external : mutex.acquiredExternally = true) :
    mutex.tryAcquire.Follows (executionContract options executor permitted)
      (.started lock) fun mode result =>
        match result with
        | .ok _ => mode = .handedOver lock
        | .error _ => mode = .settled := by
  unfold Mutex.tryAcquire
  rw [if_pos external]
  refine ⟨⟨own, different, timeout⟩, fun answer later moved => ?_⟩
  rcases answer with error | refreshed
  · exact moved.1
  obtain ⟨rfl, rfl⟩ := moved.1
  by_cases timed : 0 < mutex.refreshInterval
  · simp only [timed, decide_true]
    refine ⟨rfl, fun answer later moved => ?_⟩
    obtain ⟨_, rfl, advanced⟩ := executionContract_moves_ok rfl moved
    exact advanced
  · rw [if_neg timed]
    simp only [timed, decide_false]
    rfl

theorem ownMutex_new (ref : Nat) (lockTimeout : Option Nat) (external : Bool) :
    OwnMutex options executor
      (Mutex.new ref options.exclusiveKey
        { identifier := some (.given executor)
          lockTimeout := lockTimeout
          acquiredExternally := external }) :=
  ⟨rfl, rfl, rfl⟩

theorem tryAcquireExclusiveLock_follows :
    (options.tryAcquireExclusiveLock
      { lockTimeout := options.singleConsumerMode.lockTimeout
        identifier := some (.given executor) }).Follows
      (executionContract options executor permitted) .settled
      fun mode result =>
        match result with
        | .ok (some lock) => mode = .holding lock ∧ OwnMutex options executor lock
        | _ => mode = .settled := by
  refine Follows.bind ((getJobMutex_follows _ _).mono ?_)
  rintro mode result ⟨ref, rfl, rfl⟩
  refine Follows.bind ((tryAcquire_follows_setNx (ownMutex_new ref _ false) rfl).mono ?_)
  rintro mode (error | acquired) tried
  · exact tried
  cases acquired with
  | true => exact ⟨tried, ownMutex_new ref _ false⟩
  | false =>
      obtain ⟨rfl, positive⟩ := tried
      refine Follows.bind ((getJobMutex_follows _ _).mono ?_)
      rintro mode result ⟨ref, rfl, rfl⟩
      refine Follows.bind
        ((tryAcquire_follows_refresh (ownMutex_new ref _ true) positive rfl).mono ?_)
      rintro mode (error | acquired) tried
      · exact tried
      cases acquired with
      | false => exact tried
      | true => exact ⟨tried, ownMutex_new ref _ true⟩

theorem updateMutex_follows {lock : Mutex} (own : OwnMutex options executor lock) :
    (options.updateMutex lock options.timeoutAfterRun).Follows
      (executionContract options executor permitted) (.started lock)
      fun mode result =>
        match result with
        | .ok _ => mode = .handedOver lock
        | .error _ => mode = .settled := by
  refine Follows.bind ((getJobMutex_follows_started _ _).mono ?_)
  rintro mode result ⟨rfl, ref, fresh, rfl⟩
  refine Follows.bind ((tryAcquire_follows_renewal ?_ ?_ rfl rfl).mono ?_)
  · exact ⟨rfl, own.identifier, rfl⟩
  · exact fun same => fresh (congrArg Mutex.ref same)
  · rintro mode (error | refreshed) renewed
    · exact renewed
    · exact renewed

theorem log_follows {mode : Mode} (outside : mode = .settled ∨ ∃ lock, mode = .started lock)
    (level : LogLevel) (message : String) (error : Option Thrown) :
    (log level message error).Follows
      (executionContract options executor permitted) mode
      fun later result => later = mode ∧ result = .ok () := by
  refine ⟨?_, fun answer later moved => ?_⟩
  · rcases outside with rfl | ⟨lock, rfl⟩
    · exact rfl
    · exact .inl rfl
  · obtain ⟨⟨⟩, rfl, advanced⟩ := executionContract_moves_ok rfl moved
    rcases outside with rfl | ⟨lock, rfl⟩ <;> exact ⟨advanced, rfl⟩

theorem catchBlock_follows {lock : Mutex} (err : Thrown) :
    (AbstractPeriodicJob.catchBlock executor err).Follows
      (executionContract options executor permitted) (.started lock)
      fun mode _ => mode = .started lock := by
  refine Follows.bind ((log_follows (.inr ⟨lock, rfl⟩) _ _ _).mono ?_)
  rintro mode result ⟨rfl, rfl⟩
  cases err with
  | value text => rfl
  | error message =>
      refine Follows.perform trivial fun answer later moved => ?_
      exact moved.1

/-- A body that takes further locks without an identifier keeps to the contract
of the execution. -/
theorem executing_of_anonymousLocks {lock : Mutex} {nested : List Mutex}
    {program : JobProgram Unit} (everyTask : ∀ task, permitted task)
    (follows : program.Follows anonymousLocks nested fun _ _ => True) :
    program.Follows (executionContract options executor permitted)
      (.executing lock nested)
      fun mode _ => ∃ nested, mode = .executing lock nested := by
  induction program generalizing nested with
  | done value => exact ⟨nested, rfl⟩
  | fail error => exact ⟨nested, rfl⟩
  | call command next ih =>
      obtain ⟨allowed, answered⟩ := follows
      refine ⟨?_, fun answer later moved => ?_⟩
      · cases command with
        | perform task => exact everyTask task
        | record event => exact .inl allowed
        | _ => exact allowed
      have continues (acquired : List Mutex)
          (moves : anonymousLocks.moves nested command answer acquired)
          (mode : later = .executing lock acquired) :
          (next answer).Follows (executionContract options executor permitted) later
            fun mode _ => ∃ nested, mode = .executing lock nested := by
        subst mode
        exact ih answer (answered answer acquired moves)
      cases command with
      | setNx mutex =>
          rcases answer with error | acquired
          · exact continues nested rfl moved.1
          cases acquired with
          | false => exact continues nested rfl moved.1
          | true => exact continues (mutex :: nested) rfl moved.1.1
      | refresh mutex =>
          rcases answer with error | acquired
          · exact continues nested rfl moved.1
          cases acquired with
          | false => exact continues nested rfl moved.1
          | true => exact continues (mutex :: nested) rfl moved.1.1
      | record event =>
          cases event with
          | bodySettled => cases allowed
          | _ => exact continues nested rfl moved.1
      | _ => exact continues nested rfl moved.1

end Process

namespace AbstractPeriodicJob

variable {job : AbstractPeriodicJob} {executor : String} {permitted : Task → Prop}

/-- The body of the job keeps to the contract, with the listed tasks. -/
def BodyFollows (job : AbstractPeriodicJob) (permitted : Task → Prop) : Prop :=
  ∀ executor lock, (job.processInternal executor).Follows
    (executionContract job.options executor permitted) (.executing lock [])
    fun mode _ => ∃ nested, mode = .executing lock nested

theorem BodyFollows.of_takesLocksAnonymously
    (anonymous : job.TakesLocksAnonymously) : job.BodyFollows fun _ => True :=
  fun executor _ => executing_of_anonymousLocks (fun _ => trivial) (anonymous executor)

theorem tryBlock_follows (body : job.BodyFollows permitted) (lock : Mutex) :
    (job.tryBlock executor).Follows
      (executionContract job.options executor permitted) (.stored lock)
      fun mode _ => mode = .started lock := by
  have runs : ((job.processInternal executor).tryFinally
      (issue (.record .bodySettled))).Follows
      (executionContract job.options executor permitted) (.executing lock [])
      fun mode _ => mode = .started lock := by
    refine Follows.tryFinally ((body executor lock).mono ?_)
    rintro mode result ⟨nested, rfl⟩
    refine Follows.perform (.inr rfl) fun answer later moved => ?_
    obtain ⟨_, rfl, advanced⟩ := executionContract_moves_ok rfl moved
    exact advanced
  have calls : ((issue (.record .bodyCalled)).bind fun _ =>
      (job.processInternal executor).tryFinally
        (issue (.record .bodySettled))).Follows
      (executionContract job.options executor permitted) (.started lock)
      fun mode _ => mode = .started lock := by
    refine follows_issue rfl (.inr rfl) fun _ later moved => ?_
    cases moved
    exact runs
  refine Follows.bind (Follows.perform trivial fun answer later moved => ?_)
  cases moved.1
  rcases answer with error | answer
  · rfl
  by_cases logs : job.options.shouldLogExecution = true
  · rw [if_pos logs]
    refine Follows.bind ((log_follows (.inr ⟨lock, rfl⟩) _ _ _).mono ?_)
    rintro mode result ⟨rfl, rfl⟩
    exact calls
  · rw [if_neg logs]
    exact calls

theorem finallyBlock_follows {lock : Mutex}
    (own : OwnMutex job.options executor lock) :
    (job.finallyBlock executor).Follows
      (executionContract job.options executor permitted) (.started lock)
      fun mode _ => mode = .settled := by
  have ends : (do
      if job.options.shouldLogExecution then log .info "Periodic job finished"
      issue (.record (.observabilityStop executor)) : JobProgram Unit).Follows
      (executionContract job.options executor permitted) .settled
      fun mode _ => mode = .settled := by
    have stops : (issue (.record (.observabilityStop executor))).Follows
        (executionContract job.options executor permitted) .settled
        fun mode _ => mode = .settled :=
      Follows.perform rfl fun _ _ moved => moved.1
    by_cases logs : job.options.shouldLogExecution = true
    · rw [if_pos logs]
      refine Follows.bind ((log_follows (.inl rfl) _ _ _).mono ?_)
      rintro mode result ⟨rfl, rfl⟩
      exact stops
    · rw [if_neg logs]
      exact stops
  refine follows_issue rfl trivial fun _ later moved => ?_
  obtain ⟨rfl, rfl⟩ := moved
  refine Follows.bind ((updateMutex_follows own).mono ?_)
  rintro mode (error | updated) renewed
  · exact renewed
  cases renewed
  refine follows_issue rfl trivial fun _ later moved => ?_
  obtain ⟨rfl, rfl⟩ := moved
  refine follows_issue rfl rfl fun _ later moved => ?_
  cases moved
  exact ends

theorem execute_follows (body : job.BodyFollows permitted) {lock : Mutex}
    (own : OwnMutex job.options executor lock) :
    (job.execute executor).Follows
      (executionContract job.options executor permitted) (.stored lock)
      fun mode _ => mode = .settled := by
  refine Follows.tryFinally (Follows.tryCatch ?_)
  apply (tryBlock_follows body lock).mono
  rintro mode (error | value) rfl
  · apply (catchBlock_follows error).mono
    rintro mode result rfl
    apply (finallyBlock_follows own).mono
    rintro mode (error | value) rfl <;> rfl
  · apply (finallyBlock_follows own).mono
    rintro mode (error | value) rfl <;> rfl

/-- Every execution in single consumer mode keeps to the contract and ends
without holding the lock on behalf of a body. -/
theorem process_follows (body : job.BodyFollows permitted)
    (enabled : job.options.singleConsumerMode.enabled = true) :
    (job.process executor).Follows
      (executionContract job.options executor permitted) .settled
      fun mode _ => mode = .settled := by
  unfold process
  rw [if_pos enabled]
  refine Follows.bind (tryAcquireExclusiveLock_follows.mono ?_)
  rintro mode (error | lock) acquired
  · exact acquired
  cases lock with
  | none =>
      cases acquired
      refine follows_issue rfl rfl fun _ later moved => ?_
      cases moved
      apply (log_follows (.inl rfl) _ _ _).mono
      rintro mode result ⟨rfl, rfl⟩
      rfl
  | some lock =>
      obtain ⟨rfl, own⟩ := acquired
      refine Follows.bind (Follows.perform rfl fun answer later moved => ?_)
      obtain ⟨_, rfl, advanced⟩ := executionContract_moves_ok rfl moved
      cases advanced
      exact execute_follows body own

end AbstractPeriodicJob

end ServiceTemplate.Jobs
