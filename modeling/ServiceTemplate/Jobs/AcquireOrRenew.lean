import ServiceTemplate.Foundations.AtomicAcquire
import ServiceTemplate.Jobs.Cluster

/-!
# `tryAcquireExclusiveLock` as an atomic step

The method sends a `SET NX`, or a compare-and-`PEXPIRE` for a lock that has been
acquired externally, and a compare-and-`PEXPIRE` if the former is refused.  While
it waits for a command, other executors may use the lock store and time may pass.
Its result and its effect on the store are those of one atomic acquire-or-renew,
unless both commands are refused although nobody else has the key.
-/

namespace ServiceTemplate.Jobs

open TimedLeases

section Attempts

namespace Cluster

def leases (cluster : Cluster) : TimedLeases String Identifier where
  now := cluster.now
  store := cluster.locks

/-- What happens to the lock store beside a call. -/
def interfere (cluster : Cluster) (during : List (Access String Identifier)) :
    Cluster :=
  let leases := cluster.leases.accesses during
  { cluster with now := leases.now, locks := leases.store }

end Cluster

/-- How a program that others disturb has settled. -/
structure Attempt (Value : Type) where
  cluster : Cluster
  outcome : Except Thrown Value
  /-- what happened beside the program until it settled -/
  during : List (Access String Identifier)
  /-- what would happen during the next commands -/
  rest : Nat → List (Access String Identifier)

/-- Run a program while others use the lock store: `schedule n` is what happens
between the moment at which the program waits for its `n`-th awaited command and
the moment at which that command is executed. -/
def attempt {Value : Type} (executor : String) (environment : Environment) :
    JobProgram Value → Cluster → (schedule : Nat → List (Access String Identifier)) →
      Attempt Value
  | .done value, cluster, schedule => ⟨cluster, .ok value, [], schedule⟩
  | .fail error, cluster, schedule => ⟨cluster, .error error, [], schedule⟩
  | .call command next, cluster, schedule =>
      if command.awaited then
        let (changed, answer) :=
          (cluster.interfere (schedule 0)).execute executor environment command
        let last := attempt executor environment (next answer) changed
          fun n => schedule (n + 1)
        { last with during := schedule 0 ++ last.during }
      else
        let (changed, answer) := cluster.execute executor environment command
        attempt executor environment (next answer) changed schedule

/-- The key and the duration that `tryAcquireExclusiveLock` asks for. -/
def JobOptions.lockKey (options : JobOptions) (lockName : Option String) : String :=
  options.getJobLockName (lockName.getD DEFAULT_LOCK_NAME)

def JobOptions.lockDuration (options : JobOptions) (lockTimeout : Option Nat) : Nat :=
  (lockTimeout <|> options.singleConsumerMode.lockTimeout).getD DEFAULT_LOCK_TIMEOUT

/-- The own lease is in force at the `SET NX`, or the key is free if the first
command is a compare-and-`PEXPIRE`; the key is free at the second command; and
nobody else holds it at any instant of the call. -/
def MissesTurn (key : String) (identifier : Identifier) (acquiredExternally : Bool)
    (first : TimedLeases String Identifier)
    (schedule : Nat → List (Access String Identifier)) : Prop :=
  (first.accesses (schedule 0)).holder key =
      (if acquiredExternally then none else some identifier) ∧
    (first.accesses (schedule 0 ++ schedule 1)).holder key = none ∧
    ¬ HeldByOther key identifier first (schedule 0 ++ schedule 1)

end Attempts

section Rules

variable {Value Result : Type} {executor : String} {environment : Environment}
variable {cluster : Cluster} {schedule : Nat → List (Access String Identifier)}

/-- Go on with the value of a program, unless it has failed. -/
def Attempt.andThen (first : Attempt Value)
    (next : Value → Cluster → (Nat → List (Access String Identifier)) →
      Attempt Result) : Attempt Result :=
  match first.outcome with
  | .ok value =>
      let last := next value first.cluster first.rest
      { last with during := first.during ++ last.during }
  | .error error => ⟨first.cluster, .error error, first.during, first.rest⟩

theorem attempt_bind (program : JobProgram Value)
    (next : Value → JobProgram Result) (cluster : Cluster)
    (schedule : Nat → List (Access String Identifier)) :
    attempt executor environment (program >>= next) cluster schedule =
      (attempt executor environment program cluster schedule).andThen
        fun value => attempt executor environment (next value) := by
  induction program generalizing cluster schedule with
  | done value => rfl
  | fail error => rfl
  | call command rest ih =>
      have bindCall : (Program.call command rest >>= next) =
          Program.call command fun answer => (rest answer >>= next) := rfl
      rw [bindCall, attempt, attempt]
      split
      · simp only [ih]
        unfold Attempt.andThen
        split <;> simp_all
      · simp only [ih]

theorem attempt_getJobMutex (options : JobOptions) (key : String)
    (lockOptions : LockOptions) :
    attempt executor environment (options.getJobMutex key lockOptions)
        cluster schedule =
      ⟨{ cluster with constructed := cluster.constructed + 1 },
        .ok (Mutex.new cluster.constructed
          (options.getJobLockName key) lockOptions), [], schedule⟩ := rfl

/-- What `tryAcquire` makes of the leases, and whether it succeeds. -/
def Mutex.acquire (mutex : Mutex) (leases : TimedLeases String Identifier) :
    TimedLeases String Identifier × Bool :=
  let (store, acquired) :=
    if mutex.acquiredExternally then
      leases.store.renew leases.now mutex.key mutex.identifier mutex.lockTimeout
    else
      leases.store.claim leases.now mutex.key mutex.identifier mutex.lockTimeout
  ({ leases with store := store }, acquired)

/-- Redis refuses to set a lease of no duration. -/
def Mutex.Sends (mutex : Mutex) : Prop :=
  mutex.acquiredExternally = true ∨ 0 < mutex.lockTimeout

section Acquire

variable {mutex : Mutex} {leases : TimedLeases String Identifier}

theorem Mutex.acquire_of_refused (refused : (mutex.acquire leases).2 = false) :
    (mutex.acquire leases).1 = leases := by
  unfold Mutex.acquire at refused ⊢
  cases external : mutex.acquiredExternally with
  | true =>
      simp only [external, if_true] at refused ⊢
      rw [LeaseStore.renew_of_false refused]
  | false =>
      simp only [external, Bool.false_eq_true, if_false] at refused ⊢
      rw [LeaseStore.claim_of_false refused]

/-- A `SET NX` needs a free key, a compare-and-`PEXPIRE` the own lease. -/
theorem Mutex.acquire_eq_true_iff :
    (mutex.acquire leases).2 = true ↔
      leases.holder mutex.key =
        if mutex.acquiredExternally then some mutex.identifier else none := by
  unfold Mutex.acquire TimedLeases.holder
  cases mutex.acquiredExternally with
  | true =>
      simp only [if_true]
      constructor
      · intro renewed
        by_contra notHeld
        rw [LeaseStore.renew_of_not_held notHeld] at renewed
        cases renewed
      · intro held
        rw [LeaseStore.renew_of_held held]
  | false =>
      simp only [Bool.false_eq_true, if_false]
      constructor
      · intro claimed
        by_contra held
        rw [LeaseStore.claim_of_held held] at claimed
        cases claimed
      · intro free
        rw [LeaseStore.claim_of_free free]

theorem Mutex.atomic_of_acquired (sends : mutex.Sends)
    {first : TimedLeases String Identifier} {during : List (Access String Identifier)}
    (acquired : (mutex.acquire (first.accesses during)).2 = true) :
    Atomic mutex.key mutex.identifier mutex.lockTimeout first during
      (mutex.acquire (first.accesses during)).1 true := by
  unfold Mutex.acquire at acquired ⊢
  cases external : mutex.acquiredExternally with
  | true =>
      simp only [external, if_true] at acquired ⊢
      exact atomic_of_renew acquired
  | false =>
      simp only [external, Bool.false_eq_true, if_false] at acquired ⊢
      have positive : 0 < mutex.lockTimeout := sends.resolve_left (by simp [external])
      exact atomic_of_claim positive acquired

end Acquire

variable (executor environment cluster schedule) in
theorem attempt_afterAnswer (mutex : Mutex) (acquired : Bool) :
    ∃ last, attempt executor environment (mutex.afterAnswer acquired)
        cluster schedule = ⟨last, .ok acquired, [], schedule⟩ ∧
      last.leases = cluster.leases := by
  unfold Mutex.afterAnswer
  split
  · exact ⟨_, rfl, rfl⟩
  · exact ⟨_, rfl, rfl⟩

/-- An awaited command that is answered, and then a program that nobody can
disturb. -/
theorem attempt_issue_bind {command : Command} {last : Cluster}
    {answer : command.Answer} {next : command.Answer → JobProgram Value}
    (awaited : command.awaited = true)
    (executed : (cluster.interfere (schedule 0)).execute executor environment command =
      (last, .ok answer)) :
    attempt executor environment (issue command >>= next) cluster schedule =
      let later := attempt executor environment (next answer) last
        fun n => schedule (n + 1)
      { later with during := schedule 0 ++ later.during } := by
  rw [attempt_bind]
  simp [issue, Program.perform, attempt, awaited, executed, Attempt.andThen]

variable (executor cluster schedule) in
/-- The command of `tryAcquire` is awaited, and what follows it leaves the leases
alone. -/
theorem attempt_tryAcquire (mutex : Mutex)
    (answers : environment.redis = .answered) (sends : mutex.Sends) :
    ∃ last, attempt executor environment mutex.tryAcquire cluster schedule =
        ⟨last, .ok (mutex.acquire (cluster.leases.accesses (schedule 0))).2,
          schedule 0, fun n => schedule (n + 1)⟩ ∧
      last.leases = (mutex.acquire (cluster.leases.accesses (schedule 0))).1 := by
  let acquired := mutex.acquire (cluster.leases.accesses (schedule 0))
  let answered : Cluster :=
    { cluster.interfere (schedule 0) with locks := acquired.1.store }
  obtain ⟨last, noted, unchanged⟩ := attempt_afterAnswer executor environment answered
    (fun n => schedule (n + 1)) mutex acquired.2
  refine ⟨last, ?_, unchanged.trans ?_⟩
  · cases external : mutex.acquiredExternally with
    | true =>
        have executed : (cluster.interfere (schedule 0)).execute executor
            environment (.refresh mutex) = (answered, .ok acquired.2) := by
          simp [Cluster.execute, Cluster.reply, answers, answered, acquired,
            Mutex.acquire, external, Cluster.interfere]
        rw [Mutex.tryAcquire_of_external external, attempt_issue_bind rfl executed, noted]
        simp [acquired]
    | false =>
        have positive : 0 < mutex.lockTimeout := sends.resolve_left (by simp [external])
        have notZero : mutex.lockTimeout ≠ 0 := Nat.ne_of_gt positive
        have executed : (cluster.interfere (schedule 0)).execute executor
            environment (.setNx mutex) = (answered, .ok acquired.2) := by
          simp [Cluster.execute, Cluster.reply, answers, answered, acquired,
            Mutex.acquire, external, Cluster.interfere, notZero]
        rw [Mutex.tryAcquire_of_fresh external, attempt_issue_bind rfl executed, noted]
        simp [acquired]
  · simp only [answered, acquired, Cluster.leases, Mutex.acquire, Cluster.interfere]

variable (executor environment cluster schedule) in
/-- A lock timeout of zero is refused by Redis. -/
theorem attempt_tryAcquire_zero (mutex : Mutex)
    (fresh : mutex.acquiredExternally = false) (zero : mutex.lockTimeout = 0) :
    ∃ error, (attempt executor environment mutex.tryAcquire
      cluster schedule).outcome = .error error := by
  rw [Mutex.tryAcquire_of_fresh fresh, attempt_bind]
  simp [issue, Program.perform, attempt, Command.awaited, Cluster.execute, zero,
    Attempt.andThen]

end Rules

section Atomicity

variable {options : JobOptions} {executor : String} {environment : Environment}
variable {cluster : Cluster} {schedule : Nat → List (Access String Identifier)}
variable {lockName : Option String} {identifier : Identifier}
variable {refreshInterval lockTimeout : Option Nat} {acquiredExternally : Bool}

/-- The configuration of a lock for an identifier of the caller. -/
def givenLock (lockName : Option String) (identifier : Identifier)
    (refreshInterval lockTimeout : Option Nat) (acquiredExternally : Bool) :
    LockConfiguration :=
  { lockName, identifier := some identifier, refreshInterval, lockTimeout,
    acquiredExternally }

/-- The options of the two mutexes that `tryAcquireExclusiveLock` builds. -/
def JobOptions.givenLockOptions (options : JobOptions) (identifier : Identifier)
    (refreshInterval lockTimeout : Option Nat) (acquiredExternally : Bool) :
    LockOptions :=
  { refreshInterval, acquiredExternally, identifier := some identifier,
    lockTimeout := lockTimeout <|> options.singleConsumerMode.lockTimeout }

theorem tryAcquireExclusiveLock_givenLock :
    options.tryAcquireExclusiveLock
        (givenLock lockName identifier refreshInterval lockTimeout acquiredExternally) =
      (do
        let lock ← options.getJobMutex (lockName.getD DEFAULT_LOCK_NAME)
          (options.givenLockOptions identifier refreshInterval lockTimeout
            acquiredExternally)
        let acquired ← lock.tryAcquire
        if acquired then pure (some lock)
        else do
          let lock ← options.getJobMutex (lockName.getD DEFAULT_LOCK_NAME)
            (options.givenLockOptions identifier refreshInterval lockTimeout true)
          let acquired ← lock.tryAcquire
          pure (if acquired then some lock else none)) := by
  change (options.getJobMutex (lockName.getD DEFAULT_LOCK_NAME)
    (options.givenLockOptions identifier refreshInterval lockTimeout
      acquiredExternally) >>=
      fun lock => lock.tryAcquire >>= fun acquired => _) = _
  congr 1
  funext lock
  congr 1
  funext acquired
  cases acquired <;> rfl

/-- What the constructor of `Mutex` throws for an empty identifier. -/
def emptyIdentifier : Thrown :=
  .error "identifier must be not empty random string"

/-- What the call does, from the state in which it is made.  The first `Mutex` is
built before anything is sent. -/
def acquireAttempt (options : JobOptions) (executor : String)
    (environment : Environment) (configuration : LockConfiguration)
    (cluster : Cluster) (schedule : Nat → List (Access String Identifier)) :
    Attempt (Option Mutex) :=
  if configuration.identifier = some (.given "") then
    ⟨cluster, .error emptyIdentifier, [], schedule⟩
  else
    attempt executor environment (options.tryAcquireExclusiveLock configuration)
      cluster schedule

/-- The result of a call and its effect on the leases are those of one atomic
acquire-or-renew at some instant of the call. -/
def ActsAtomically (key : String) (identifier : Identifier) (duration : Nat)
    (first : TimedLeases String Identifier) (call : Attempt (Option Mutex)) : Prop :=
  ∃ lock, call.outcome = .ok lock ∧
    Atomic key identifier duration first call.during call.cluster.leases lock.isSome

theorem not_actsAtomically_of_thrown {key : String} {duration : Nat}
    {first : TimedLeases String Identifier} {call : Attempt (Option Mutex)}
    {error : Thrown} (thrown : call.outcome = .error error) :
    ¬ ActsAtomically key identifier duration first call := by
  rintro ⟨lock, outcome, -⟩
  rw [thrown] at outcome
  cases outcome

/-- The mutex that is built with a given reference. -/
def JobOptions.givenMutex (options : JobOptions) (ref : Nat)
    (lockName : Option String) (identifier : Identifier)
    (refreshInterval lockTimeout : Option Nat) (acquiredExternally : Bool) : Mutex :=
  Mutex.new ref (options.lockKey lockName)
    (options.givenLockOptions identifier refreshInterval lockTimeout acquiredExternally)

/-- The second half of `tryAcquireExclusiveLock`, after a first command that was
refused. -/
def JobOptions.renewGiven (options : JobOptions) (lockName : Option String)
    (identifier : Identifier) (refreshInterval lockTimeout : Option Nat) :
    JobProgram (Option Mutex) := do
  let lock ← options.getJobMutex (lockName.getD DEFAULT_LOCK_NAME)
    (options.givenLockOptions identifier refreshInterval lockTimeout true)
  let acquired ← lock.tryAcquire
  return if acquired then some lock else none

theorem acquireAttempt_eq (given : identifier ≠ .given "") :
    acquireAttempt options executor environment
        (givenLock lockName identifier refreshInterval lockTimeout acquiredExternally)
        cluster schedule =
      let lock := options.givenMutex cluster.constructed lockName identifier
        refreshInterval lockTimeout acquiredExternally
      (attempt executor environment lock.tryAcquire
        { cluster with constructed := cluster.constructed + 1 } schedule).andThen
        fun acquired => attempt executor environment
          (if acquired then pure (some lock)
            else options.renewGiven lockName identifier refreshInterval lockTimeout) := by
  have notEmpty : (givenLock lockName identifier refreshInterval lockTimeout
      acquiredExternally).identifier ≠ some (.given "") :=
    fun empty => given (Option.some.inj empty)
  rw [acquireAttempt, if_neg notEmpty, tryAcquireExclusiveLock_givenLock, attempt_bind,
    attempt_getJobMutex]
  simp only [Attempt.andThen, List.nil_append]
  rw [attempt_bind]
  rfl

variable (options executor cluster schedule lockName identifier refreshInterval
  lockTimeout) in
/-- The renewal of a lease after the first command was refused. -/
theorem attempt_renewGiven (answers : environment.redis = .answered) :
    let leases := cluster.leases.accesses (schedule 0)
    ∃ last lock renewal, attempt executor environment
        (options.renewGiven lockName identifier refreshInterval lockTimeout)
        cluster schedule =
          ⟨last, .ok lock, schedule 0, fun n => schedule (n + 1)⟩ ∧
      renewal = options.givenMutex cluster.constructed lockName identifier
        refreshInterval lockTimeout true ∧
      lock.isSome = (renewal.acquire leases).2 ∧
      last.leases = (renewal.acquire leases).1 := by
  intro leases
  let renewal := options.givenMutex cluster.constructed lockName identifier
    refreshInterval lockTimeout true
  obtain ⟨last, ran, changed⟩ := attempt_tryAcquire executor
    { cluster with constructed := cluster.constructed + 1 } schedule renewal answers
    (.inl rfl)
  refine ⟨last, if (renewal.acquire leases).2 then some renewal else none, renewal, ?_, rfl,
    ?_, changed⟩
  · rw [JobOptions.renewGiven, attempt_bind, attempt_getJobMutex]
    simp only [Attempt.andThen, List.nil_append]
    rw [attempt_bind]
    change (attempt executor environment renewal.tryAcquire _ schedule).andThen _ = _
    rw [ran]
    simp only [Attempt.andThen, pure, attempt, List.append_nil]
    rfl
  · cases (renewal.acquire leases).2 <;> rfl

variable (executor environment cluster schedule lockName identifier refreshInterval) in
/-- A lock timeout of zero makes the call throw. -/
theorem acquireAttempt_zero (given : identifier ≠ .given "")
    (zero : options.lockDuration lockTimeout = 0) :
    ∃ error, (acquireAttempt options executor environment
      (givenLock lockName identifier refreshInterval lockTimeout false)
      cluster schedule).outcome = .error error := by
  obtain ⟨error, refused⟩ := attempt_tryAcquire_zero executor environment
    { cluster with constructed := cluster.constructed + 1 } schedule
    (options.givenMutex cluster.constructed lockName identifier
      refreshInterval lockTimeout false) rfl zero
  refine ⟨error, ?_⟩
  rw [acquireAttempt_eq given]
  simp only [Attempt.andThen, refused]

/-- The call ends with its first command if that succeeds. -/
theorem acquireAttempt_of_acquired (given : identifier ≠ .given "")
    (answers : environment.redis = .answered) {lock : Mutex}
    (isLock : lock = options.givenMutex cluster.constructed lockName identifier
      refreshInterval lockTimeout acquiredExternally)
    (sends : lock.Sends)
    (acquired : (lock.acquire (cluster.leases.accesses (schedule 0))).2 = true) :
    ∃ last, acquireAttempt options executor environment
        (givenLock lockName identifier refreshInterval lockTimeout acquiredExternally)
        cluster schedule =
          ⟨last, .ok (some lock), schedule 0, fun n => schedule (n + 1)⟩ ∧
      last.leases = (lock.acquire (cluster.leases.accesses (schedule 0))).1 := by
  obtain ⟨last, ran, leases⟩ := attempt_tryAcquire executor
    { cluster with constructed := cluster.constructed + 1 } schedule lock answers sends
  refine ⟨last, ?_, leases⟩
  rw [acquireAttempt_eq given, ← isLock]
  dsimp only
  rw [ran]
  simp only [Attempt.andThen, Cluster.leases] at acquired ⊢
  simp only [acquired, if_true, pure, attempt, List.append_nil]

/-- The call ends with the compare-and-`PEXPIRE` if its first command is refused. -/
theorem acquireAttempt_of_refused (given : identifier ≠ .given "")
    (answers : environment.redis = .answered) {lock : Mutex}
    (isLock : lock = options.givenMutex cluster.constructed lockName identifier
      refreshInterval lockTimeout acquiredExternally)
    (sends : lock.Sends)
    (refused : (lock.acquire (cluster.leases.accesses (schedule 0))).2 = false) :
    let leases := cluster.leases.accesses (schedule 0 ++ schedule 1)
    ∃ last found ref renewal, acquireAttempt options executor environment
        (givenLock lockName identifier refreshInterval lockTimeout acquiredExternally)
        cluster schedule =
          ⟨last, .ok found, schedule 0 ++ schedule 1, fun n => schedule (n + 2)⟩ ∧
      renewal = options.givenMutex ref lockName identifier refreshInterval lockTimeout
        true ∧
      found.isSome = (renewal.acquire leases).2 ∧
      last.leases = (renewal.acquire leases).1 := by
  obtain ⟨middle, ran, leases⟩ := attempt_tryAcquire executor
    { cluster with constructed := cluster.constructed + 1 } schedule lock answers sends
  have unchanged : middle.leases = cluster.leases.accesses (schedule 0) :=
    leases.trans (Mutex.acquire_of_refused refused)
  obtain ⟨last, found, renewal, renews, isRenewal, isSome, changed⟩ :=
    attempt_renewGiven options executor middle (fun n => schedule (n + 1)) lockName
      identifier refreshInterval lockTimeout answers
  rw [unchanged, ← accesses_append] at isSome changed
  refine ⟨last, found, middle.constructed, renewal, ?_, isRenewal, isSome, changed⟩
  rw [acquireAttempt_eq given, ← isLock]
  dsimp only
  rw [ran]
  simp only [Attempt.andThen, Cluster.leases] at refused ⊢
  simp only [refused, Bool.false_eq_true, if_false]
  rw [renews]

/-- A call whose commands are both refused misses its turn if nobody else has the
key. -/
theorem missesTurn_iff_of_refused {key : String} {first : TimedLeases String Identifier}
    (refused : (first.accesses (schedule 0)).holder key ≠
      if acquiredExternally then some identifier else none)
    (notRenewed : (first.accesses (schedule 0 ++ schedule 1)).holder key ≠
      some identifier) :
    MissesTurn key identifier acquiredExternally first schedule ↔
      ¬ HeldByOther key identifier first (schedule 0 ++ schedule 1) := by
  constructor
  · exact fun misses => misses.2.2
  · intro nobody
    -- at an instant of the call the key is free or the caller's own
    have own : ∀ before after, schedule 0 ++ schedule 1 = before ++ after →
        (first.accesses before).holder key = none ∨
          (first.accesses before).holder key = some identifier := by
      intro before after split
      cases held : (first.accesses before).holder key with
      | none => exact .inl rfl
      | some other =>
          refine .inr (congrArg some ?_)
          by_contra foreign
          exact nobody ⟨before, after, split, other, held, foreign⟩
    refine ⟨?_, ?_, nobody⟩
    · cases acquiredExternally with
      | true => exact (own _ _ rfl).resolve_right refused
      | false => exact (own _ _ rfl).resolve_left refused
    · exact (own _ [] (List.append_nil _).symm).resolve_right notRenewed

/-- A call one of whose commands succeeds does not miss its turn. -/
theorem not_missesTurn_of_acquired {key : String} {first : TimedLeases String Identifier}
    (acquired : (first.accesses (schedule 0)).holder key =
      (if acquiredExternally then some identifier else none) ∨
        (first.accesses (schedule 0 ++ schedule 1)).holder key = some identifier) :
    ¬ MissesTurn key identifier acquiredExternally first schedule := by
  rintro ⟨atFirst, atSecond, -⟩
  rcases acquired with claimed | renewed
  · rw [claimed] at atFirst
    cases acquiredExternally <;> cases atFirst
  · rw [renewed] at atSecond
    cases atSecond

variable (options executor lockName identifier refreshInterval lockTimeout
  acquiredExternally cluster schedule) in
/-- A call that sends its commands acts atomically unless it misses its turn. -/
theorem actsAtomically_iff_of_sends (given : identifier ≠ .given "")
    (answers : environment.redis = .answered)
    (sends : acquiredExternally = true ∨ 0 < options.lockDuration lockTimeout) :
    ActsAtomically (options.lockKey lockName) identifier
        (options.lockDuration lockTimeout) cluster.leases
        (acquireAttempt options executor environment
          (givenLock lockName identifier refreshInterval lockTimeout acquiredExternally)
          cluster schedule) ↔
      ¬ MissesTurn (options.lockKey lockName) identifier acquiredExternally
        cluster.leases schedule := by
  let lock := options.givenMutex cluster.constructed lockName identifier
    refreshInterval lockTimeout acquiredExternally
  cases acquired : (lock.acquire (cluster.leases.accesses (schedule 0))).2 with
  | true =>
      obtain ⟨last, ends, leases⟩ :=
        acquireAttempt_of_acquired given answers rfl sends acquired
      have acts := lock.atomic_of_acquired sends acquired
      rw [← leases] at acts
      rw [ends]
      refine iff_of_true ⟨some lock, rfl, acts⟩ (not_missesTurn_of_acquired (.inl ?_))
      exact Mutex.acquire_eq_true_iff.mp acquired
  | false =>
      obtain ⟨last, found, ref, renewal, ends, rfl, isSome, leases⟩ :=
        acquireAttempt_of_refused given answers rfl sends acquired
      let renewal := options.givenMutex ref lockName identifier refreshInterval
        lockTimeout true
      rw [ends]
      cases renewed : (renewal.acquire
          (cluster.leases.accesses (schedule 0 ++ schedule 1))).2 with
      | true =>
          have acts := renewal.atomic_of_acquired (.inl rfl) renewed
          rw [← leases, ← renewed, ← isSome] at acts
          refine iff_of_true ⟨found, rfl, acts⟩ (not_missesTurn_of_acquired (.inr ?_))
          exact Mutex.acquire_eq_true_iff.mp renewed
      | false =>
          have refused := mt Mutex.acquire_eq_true_iff.mpr (by rw [acquired]; simp)
          have notRenewed := mt Mutex.acquire_eq_true_iff.mpr (by rw [renewed]; simp)
          have misses : MissesTurn (options.lockKey lockName) identifier acquiredExternally
              cluster.leases schedule ↔ _ :=
            missesTurn_iff_of_refused refused notRenewed
          rw [misses, not_not, ← atomic_refused_iff (options.lockDuration lockTimeout)]
          have unchanged : last.leases =
              cluster.leases.accesses (schedule 0 ++ schedule 1) :=
            leases.trans (Mutex.acquire_of_refused renewed)
          rw [renewed] at isSome
          constructor
          · rintro ⟨result, outcome, acts⟩
            cases outcome
            rwa [isSome, unchanged] at acts
          · intro acts
            refine ⟨found, rfl, ?_⟩
            rwa [isSome, unchanged]

/-- For every lock store, lock name, identifier and interleaving the call acts as
one atomic acquire-or-renew, exactly unless its identifier is empty, its `SET NX`
has a lock timeout of zero, or both of its commands are refused with nobody else
holding the key. -/
theorem actsAtomically_iff (options : JobOptions) (executor : String)
    (environment : Environment) (answers : environment.redis = .answered)
    (lockName : Option String) (identifier : Identifier)
    (refreshInterval lockTimeout : Option Nat) (acquiredExternally : Bool)
    (cluster : Cluster) (schedule : Nat → List (Access String Identifier)) :
    ActsAtomically (options.lockKey lockName) identifier
        (options.lockDuration lockTimeout) cluster.leases
        (acquireAttempt options executor environment
          (givenLock lockName identifier refreshInterval lockTimeout acquiredExternally)
          cluster schedule) ↔
      identifier ≠ .given "" ∧
        (acquiredExternally = true ∨ options.lockDuration lockTimeout ≠ 0) ∧
        ¬ MissesTurn (options.lockKey lockName) identifier acquiredExternally
          cluster.leases schedule := by
  by_cases empty : identifier = .given ""
  · subst empty
    refine iff_of_false ?_ (fun holds => holds.1 rfl)
    exact not_actsAtomically_of_thrown (by rw [acquireAttempt, if_pos (by rfl)])
  by_cases sends : acquiredExternally = true ∨ options.lockDuration lockTimeout ≠ 0
  · rw [actsAtomically_iff_of_sends _ _ _ _ _ _ _ _ _ empty answers
      (sends.imp_right Nat.pos_of_ne_zero)]
    simp only [ne_eq, empty, not_false_eq_true, sends, true_and]
  · refine iff_of_false ?_ (fun holds => sends holds.2.1)
    obtain ⟨fresh, zero⟩ := not_or.mp sends
    rw [Bool.not_eq_true] at fresh
    obtain ⟨error, thrown⟩ := acquireAttempt_zero executor environment cluster
      schedule lockName identifier refreshInterval empty (not_not.mp zero)
    rw [fresh]
    exact not_actsAtomically_of_thrown thrown

/-- A cluster in which one executor holds every lock, for the last millisecond. -/
def lastMillisecond (executor : String) : Cluster :=
  AbstractPeriodicJob.initialCluster 10 fun _ => some ⟨.given executor, 10⟩

def redisAnswers : Environment where
  task := fun _ => .error (.value "not awaited")

/-- A call of a job with the default options, under its own identifier. -/
def defaultAttempt (acquiredExternally : Bool)
    (schedule : Nat → List (Access String Identifier)) : Attempt (Option Mutex) :=
  acquireAttempt (BackgroundJobConfiguration.options { jobId := "job" }) "a"
    redisAnswers (givenLock none (.given "a") none none acquiredExternally)
    (lastMillisecond "a") schedule

/-- A lease is renewed while it is in force, by either command. -/
theorem actsAtomically_lastMillisecond :
    ((defaultAttempt false fun _ => []).outcome.toOption.any Option.isSome = true ∧
        ActsAtomically "job:locks:exclusive" (.given "a") 120000
          (lastMillisecond "a").leases (defaultAttempt false fun _ => [])) ∧
      (defaultAttempt true fun _ => []).outcome.toOption.any Option.isSome = true ∧
        ActsAtomically "job:locks:exclusive" (.given "a") 120000
          (lastMillisecond "a").leases (defaultAttempt true fun _ => []) := by
  have acts := fun acquiredExternally => actsAtomically_iff
    (BackgroundJobConfiguration.options { jobId := "job" }) "a" redisAnswers rfl
    none (.given "a") none none acquiredExternally (lastMillisecond "a") fun _ => []
  have renews : ∀ acquiredExternally,
      ¬ MissesTurn "job:locks:exclusive" (.given "a") acquiredExternally
        (lastMillisecond "a").leases fun _ => [] := by
    rintro acquiredExternally ⟨-, free, -⟩
    cases free
  refine ⟨⟨rfl, (acts false).mpr ⟨by decide, .inr (by decide), renews false⟩⟩,
    rfl, (acts true).mpr ⟨by decide, .inl rfl, renews true⟩⟩

/-- When it runs out between the two commands, the call reports a failure,
although nobody else has held the lock. -/
theorem defaultAttempt_misses_turn :
    let call := defaultAttempt false fun command => if command = 1 then [.tick] else []
    call.outcome = .ok none ∧ call.during = [.tick] ∧
      ¬ ActsAtomically "job:locks:exclusive" (.given "a") 120000
        (lastMillisecond "a").leases call := by
  refine ⟨rfl, rfl, ?_⟩
  have acts := actsAtomically_iff_of_sends
    (BackgroundJobConfiguration.options { jobId := "job" }) "a" (lastMillisecond "a")
    (fun command => if command = 1 then [.tick] else []) none (.given "a") none none false
    (by decide) (show redisAnswers.redis = .answered from rfl) (.inr (by decide))
  intro atomically
  apply acts.mp atomically
  refine ⟨rfl, rfl, ?_⟩
  rintro ⟨before, after, split, other, held, foreign⟩
  cases before with
  | nil =>
      have same : some (Identifier.given "a") = some other := held
      cases same
      exact foreign rfl
  | cons access before =>
      have single : [Access.tick] = access :: (before ++ after) := split
      obtain ⟨rfl, rest⟩ := List.cons.inj single
      obtain ⟨rfl, rfl⟩ := List.append_eq_nil_iff.mp rest.symm
      have free : (none : Option Identifier) = some other := held
      cases free

end Atomicity

end ServiceTemplate.Jobs
