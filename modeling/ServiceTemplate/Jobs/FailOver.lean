import ServiceTemplate.Jobs.Conformance
import ServiceTemplate.Jobs.MutualExclusion

/-!
# Fail-over

The exclusive key is asked for at most for the lock timeout or for the time after
a run, and only by the executor under whose identifier it is held.  When the node
crashes, its timers end with it, and the key is free for the others as soon as
that time has passed.
-/

namespace ServiceTemplate.Jobs

open LeaseStore Program Cluster

namespace JobOptions

variable (options : JobOptions)

/-- The longest time for which the exclusive key is asked for at once. -/
def longestLease : Nat :=
  max (options.singleConsumerMode.lockTimeout.getD DEFAULT_LOCK_TIMEOUT) options.timeoutAfterRun

/-- Under the identifier of an executor, the mutex takes the exclusive key for the
given executor only, and not for longer than the longest lease. -/
def Leases (executor : String) (mutex : Mutex) : Prop :=
  mutex.key = options.exclusiveKey → ∀ text, mutex.identifier = .given text →
    text = executor ∧ mutex.lockTimeout ≤ options.longestLease

/-- The recorded lock of an instance is under the identifier of its executor. -/
def leaseContract (executor : String) : Contract Command.Answer Thrown Unit where
  allows _ command :=
    match command with
    | .setNx mutex | .refresh mutex | .startRefresh mutex => options.Leases executor mutex
    | .setSingleConsumerLock lock => ∀ mutex ∈ lock, mutex.identifier = .given executor
    | _ => True
  moves _ command answer _ :=
    match command, answer with
    | .getSingleConsumerLock, .ok lock => ∀ mutex ∈ lock, mutex.identifier = .given executor
    | _, _ => True

end JobOptions

/-! ## The programs -/

section Programs

variable {options : JobOptions} {executor : String}

/-- Whatever it is answered, the program leases the key within the bounds. -/
def LeasesWithin {Value : Type} (options : JobOptions) (executor : String)
    (program : JobProgram Value) : Prop :=
  program.Follows (options.leaseContract executor) () fun _ _ => True

variable {Value Result : Type} {program : JobProgram Value}

theorem leasesWithin_issue {command : Command}
    (allowed : (options.leaseContract executor).allows () command) :
    LeasesWithin options executor (issue command) :=
  Follows.perform allowed fun _ _ _ => trivial

theorem leasesWithin_log (level : LogLevel) (message : String) (error : Option Thrown) :
    LeasesWithin options executor (log level message error) :=
  leasesWithin_issue trivial

theorem LeasesWithin.bind {next : Value → JobProgram Result}
    (first : LeasesWithin options executor program)
    (rest : ∀ value, LeasesWithin options executor (next value)) :
    LeasesWithin options executor (program.bind next) := by
  refine Follows.bind (Follows.mono first ?_)
  rintro ⟨⟩ (error | value) -
  · trivial
  · exact rest value

theorem LeasesWithin.tryCatch {handler : Thrown → JobProgram Value}
    (first : LeasesWithin options executor program)
    (handles : ∀ error, LeasesWithin options executor (handler error)) :
    LeasesWithin options executor (program.tryCatch handler) := by
  refine Follows.tryCatch (Follows.mono first ?_)
  rintro ⟨⟩ (error | value) -
  · exact handles error
  · trivial

theorem LeasesWithin.tryFinally {cleanup : JobProgram Unit}
    (first : LeasesWithin options executor program)
    (cleans : LeasesWithin options executor cleanup) :
    LeasesWithin options executor (program.tryFinally cleanup) := by
  refine Follows.tryFinally (Follows.mono first ?_)
  rintro ⟨⟩ outcome -
  refine Follows.mono cleans ?_
  rintro last (error | value) - <;> trivial

theorem Mutex.tryAcquire_leasesWithin {mutex : Mutex} (leases : options.Leases executor mutex) :
    LeasesWithin options executor mutex.tryAcquire := by
  have starts : LeasesWithin options executor (issue (.startRefresh mutex)) :=
    leasesWithin_issue leases
  have rest (acquired : Bool) : LeasesWithin options executor (mutex.afterAnswer acquired) := by
    unfold Mutex.afterAnswer
    by_cases timed : (acquired && decide (0 < mutex.refreshInterval)) = true
    · rw [if_pos timed]
      exact starts.bind fun _ => trivial
    · rw [if_neg timed]
      trivial
  cases external : mutex.acquiredExternally with
  | true =>
      have renews : LeasesWithin options executor (issue (.refresh mutex)) :=
        leasesWithin_issue leases
      rw [Mutex.tryAcquire_of_external external]
      exact renews.bind rest
  | false =>
      have asks : LeasesWithin options executor (issue (.setNx mutex)) :=
        leasesWithin_issue leases
      rw [Mutex.tryAcquire_of_fresh external]
      exact asks.bind rest

/-- What a program learns when a mutex is built. -/
theorem getJobMutex_follows_lease (key : String) (lockOptions : LockOptions) :
    (options.getJobMutex key lockOptions).Follows (options.leaseContract executor) ()
      fun _ result => ∀ mutex, result = .ok mutex →
        ∃ ref, mutex = Mutex.new ref (options.getJobLockName key) lockOptions := by
  refine ⟨trivial, fun answer _ _ => ?_⟩
  cases answer with
  | error error =>
      intro mutex built
      cases built
  | ok ref =>
      intro mutex built
      cases built
      exact ⟨ref, rfl⟩

theorem leases_new {ref : Nat} {key : String} {lockOptions : LockOptions}
    (own : lockOptions.identifier = some (.given executor))
    (bounded : lockOptions.lockTimeout.getD DEFAULT_LOCK_TIMEOUT ≤ options.longestLease) :
    options.Leases executor (Mutex.new ref key lockOptions) := by
  intro _ text identifier
  have given : (Mutex.new ref key lockOptions).identifier = .given executor := by
    simp only [Mutex.new, own, Option.getD_some]
  rw [given] at identifier
  exact ⟨(Identifier.given.inj identifier).symm, bounded⟩

theorem tryAcquireExclusiveLock_follows_lease {lockConfiguration : LockConfiguration}
    (own : lockConfiguration.identifier = some (.given executor))
    (bounded : (lockConfiguration.lockTimeout <|>
      options.singleConsumerMode.lockTimeout).getD DEFAULT_LOCK_TIMEOUT ≤ options.longestLease) :
    (options.tryAcquireExclusiveLock lockConfiguration).Follows (options.leaseContract executor) ()
      fun _ result => ∀ lock, result = .ok (some lock) → lock.identifier = .given executor := by
  refine Follows.bind ((getJobMutex_follows_lease _ _).mono ?_)
  rintro ⟨⟩ (error | mutex) built
  · intro lock given
    cases given
  obtain ⟨ref, rfl⟩ := built mutex rfl
  refine Follows.bind (Follows.mono (Mutex.tryAcquire_leasesWithin (leases_new own bounded)) ?_)
  rintro ⟨⟩ (error | acquired) -
  · intro lock given
    cases given
  cases acquired with
  | true =>
      intro lock given
      cases given
      simp only [Mutex.new, own, Option.getD_some]
  | false =>
      simp only [own, Option.isSome_some, Bool.not_false, Bool.and_self, if_true]
      refine Follows.bind ((getJobMutex_follows_lease _ _).mono ?_)
      rintro ⟨⟩ (error | second) built
      · intro lock given
        cases given
      obtain ⟨again, rfl⟩ := built second rfl
      refine Follows.bind (Follows.mono
        (Mutex.tryAcquire_leasesWithin (leases_new rfl bounded)) ?_)
      rintro ⟨⟩ (error | acquired) -
      · intro lock given
        cases given
      · intro lock given
        cases acquired with
        | false => cases given
        | true =>
            cases given
            rfl

theorem updateMutex_leasesWithin {lock : Mutex} (own : lock.identifier = .given executor) :
    LeasesWithin options executor (options.updateMutex lock options.timeoutAfterRun) := by
  refine Follows.bind ((getJobMutex_follows_lease _ _).mono ?_)
  rintro ⟨⟩ (error | mutex) built
  · trivial
  obtain ⟨ref, rfl⟩ := built mutex rfl
  have leases : options.Leases executor (Mutex.new ref (options.getJobLockName DEFAULT_LOCK_NAME)
      { acquiredExternally := true
        identifier := some lock.identifier
        lockTimeout := some options.timeoutAfterRun }) := by
    apply leases_new
    · rw [own]
    · exact Nat.le_max_right _ _
  exact (Mutex.tryAcquire_leasesWithin leases).bind fun _ => trivial

end Programs

namespace AbstractPeriodicJob

variable {job : AbstractPeriodicJob} {executor : String}

/-- A body whose locks are anonymous does not lease the key under an identifier
that was given. -/
theorem processInternal_leasesWithin (anonymous : job.TakesLocksAnonymously) :
    LeasesWithin job.options executor (job.processInternal executor) := by
  have leases {mutex : Mutex} (unnamed : mutex.Anonymous) : job.options.Leases executor mutex := by
    intro _ text given
    obtain ⟨ref, generated⟩ := unnamed
    rw [generated] at given
    cases given
  have starts : ∀ mutex ∈ ([] : List Mutex), mutex.Anonymous := fun _ member => nomatch member
  refine Follows.of_contract (fun _ acquired => ∀ mutex ∈ acquired, mutex.Anonymous) ?_ ?_
    starts (anonymous executor)
  · intro _ acquired command unnamed allowed
    cases command with
    | setNx mutex => exact leases allowed
    | refresh mutex => exact leases allowed
    | startRefresh mutex => exact leases (unnamed mutex allowed)
    | setSingleConsumerLock lock => cases allowed
    | _ => trivial
  · intro _ acquired command answer _ unnamed allowed _
    have moves (mutex : Mutex) (isUnnamed : mutex.Anonymous) :
        ∀ other ∈ mutex :: acquired, other.Anonymous := by
      intro other member
      cases List.mem_cons.mp member with
      | inl same => exact same ▸ isUnnamed
      | inr earlier => exact unnamed other earlier
    cases command with
    | setNx mutex =>
        rcases answer with error | given
        · exact ⟨acquired, rfl, unnamed⟩
        cases given with
        | true => exact ⟨mutex :: acquired, rfl, moves mutex allowed⟩
        | false => exact ⟨acquired, rfl, unnamed⟩
    | refresh mutex =>
        rcases answer with error | given
        · exact ⟨acquired, rfl, unnamed⟩
        cases given with
        | true => exact ⟨mutex :: acquired, rfl, moves mutex allowed⟩
        | false => exact ⟨acquired, rfl, unnamed⟩
    | _ => exact ⟨acquired, rfl, unnamed⟩

theorem leasesWithin_logIf (logs : Bool) (message : String) {next : JobProgram Unit}
    (rest : LeasesWithin job.options executor next) :
    LeasesWithin job.options executor
      (do if logs then log .info message
          next) := by
  cases logs with
  | true => exact (leasesWithin_log _ _ _).bind fun _ => rest
  | false => exact rest

theorem execute_leasesWithin (anonymous : job.TakesLocksAnonymously) :
    LeasesWithin job.options executor (job.execute executor) := by
  have body : LeasesWithin job.options executor (job.processInternal executor) :=
    processInternal_leasesWithin anonymous
  have settles : LeasesWithin job.options executor (issue (.record .bodySettled)) :=
    leasesWithin_issue trivial
  have calls : LeasesWithin job.options executor (issue (.record .bodyCalled)) :=
    leasesWithin_issue trivial
  have starts : LeasesWithin job.options executor
      (issue (.observabilityStart job.options.jobId executor)) := leasesWithin_issue trivial
  have stops : LeasesWithin job.options executor (issue (.record (.observabilityStop executor))) :=
    leasesWithin_issue trivial
  have tries : LeasesWithin job.options executor (job.tryBlock executor) := by
    refine starts.bind fun _ => leasesWithin_logIf _ _ ?_
    exact calls.bind fun _ => body.tryFinally settles
  have catches (error : Thrown) :
      LeasesWithin job.options executor (catchBlock executor error) := by
    refine (leasesWithin_log _ _ _).bind fun _ => ?_
    cases error with
    | error message => exact leasesWithin_issue trivial
    | value text => trivial
  have ends : LeasesWithin job.options executor (job.finallyBlock executor) := by
    have last := leasesWithin_logIf job.options.shouldLogExecution "Periodic job finished" stops
    refine Follows.bind (Follows.perform trivial fun answer later recorded => ?_)
    rcases answer with error | lock
    · trivial
    cases lock with
    | none => exact last
    | some lock =>
        have renews : LeasesWithin job.options executor
            (job.options.updateMutex lock job.options.timeoutAfterRun) :=
          updateMutex_leasesWithin (recorded lock rfl)
        refine renews.bind fun _ => ?_
        have reads : LeasesWithin job.options executor (issue .getSingleConsumerLock) :=
          leasesWithin_issue trivial
        refine reads.bind fun lock => ?_
        cases lock with
        | none => trivial
        | some lock =>
            have stopsTimer : LeasesWithin job.options executor (issue (.stopRefresh lock)) :=
              leasesWithin_issue trivial
            exact stopsTimer.bind fun _ => last
  exact (tries.tryCatch catches).tryFinally ends

theorem process_leasesWithin (anonymous : job.TakesLocksAnonymously) :
    LeasesWithin job.options executor (job.process executor) := by
  have executes : LeasesWithin job.options executor (job.execute executor) :=
    execute_leasesWithin anonymous
  unfold process
  split
  · have own : (some (Identifier.given executor)) = some (.given executor) := rfl
    have bounded : (job.options.singleConsumerMode.lockTimeout <|>
        job.options.singleConsumerMode.lockTimeout).getD DEFAULT_LOCK_TIMEOUT ≤
        job.options.longestLease := by
      apply Nat.le_trans _ (Nat.le_max_left _ _)
      cases job.options.singleConsumerMode.lockTimeout <;> exact Nat.le_refl _
    refine Follows.bind ((tryAcquireExclusiveLock_follows_lease own bounded).mono ?_)
    rintro ⟨⟩ (error | lock) given
    · trivial
    have records : LeasesWithin job.options executor (issue (.setSingleConsumerLock lock)) := by
      apply leasesWithin_issue
      intro mutex member
      cases member
      exact given mutex rfl
    refine records.bind fun _ => ?_
    cases lock with
    | none => exact leasesWithin_log _ _ _
    | some lock => exact executes
  · exact executes

theorem dispose_leasesWithin : LeasesWithin job.options executor dispose := by
  have stops : LeasesWithin job.options executor (issue .stopScheduler) :=
    leasesWithin_issue trivial
  have reads : LeasesWithin job.options executor (issue .getSingleConsumerLock) :=
    leasesWithin_issue trivial
  refine stops.bind fun _ => reads.bind fun lock => ?_
  cases lock with
  | none => trivial
  | some lock =>
      have stopsTimer : LeasesWithin job.options executor (issue (.stopRefresh lock)) :=
        leasesWithin_issue trivial
      have deletes : LeasesWithin job.options executor (issue (.delete lock)) :=
        leasesWithin_issue trivial
      exact stopsTimer.bind fun _ => deletes

theorem body_leasesWithin (anonymous : job.TakesLocksAnonymously) (call : Call) :
    LeasesWithin job.options executor (job.body executor call) := by
  cases call with
  | process => exact process_leasesWithin anonymous
  | dispose => exact dispose_leasesWithin

end AbstractPeriodicJob

/-! ## The leases of an executor -/

section Leases

variable {options : JobOptions} {executor : String} {gone : Prop} {limit : Nat → Nat}
variable {cluster : Cluster}

/-- The leases of the executor for the exclusive key end by a limit.  If it is
gone, it has no timers. -/
structure BoundedLeases (options : JobOptions) (executor : String) (gone : Prop)
    (limit : Nat → Nat) (cluster : Cluster) : Prop where
  lease : ∀ expiresAt, cluster.locks options.exclusiveKey = some ⟨.given executor, expiresAt⟩ →
    expiresAt ≤ limit cluster.now
  timers : ∀ timer ∈ cluster.timers, options.Leases timer.owner timer.mutex ∧
    (gone → timer.owner ≠ executor)
  recorded : ∀ other mutex, (cluster.nodes other).singleConsumerLock = some mutex →
    mutex.identifier = .given other
  dead : gone → (cluster.nodes executor).live = false

/-- A store to which an actor has added at most a lease by one of its mutexes. -/
def WritesBy (cluster : Cluster) (mutex : Mutex) (store : LeaseStore String Identifier) : Prop :=
  ∀ key lease, store key = some lease → cluster.locks key = some lease ∨
    key = mutex.key ∧ lease = ⟨mutex.identifier, cluster.now + mutex.lockTimeout⟩

theorem BoundedLeases.write (bounded : BoundedLeases options executor gone limit cluster)
    (enough : ¬ gone → ∀ now, now + options.longestLease ≤ limit now) {actor : String}
    (acts : gone → actor ≠ executor) {mutex : Mutex} (leases : options.Leases actor mutex)
    {store : LeaseStore String Identifier} (writes : WritesBy cluster mutex store) :
    ∀ expiresAt, store options.exclusiveKey = some ⟨.given executor, expiresAt⟩ →
      expiresAt ≤ limit cluster.now := by
  intro expiresAt leased
  rcases writes _ _ leased with earlier | ⟨key, written⟩
  · exact bounded.lease expiresAt earlier
  · obtain ⟨identifier, expires⟩ := Lease.mk.inj written
    obtain ⟨own, short⟩ := leases key.symm executor identifier.symm
    have alive : ¬ gone := fun isGone => acts isGone own.symm
    calc
      expiresAt = cluster.now + mutex.lockTimeout := expires
      _ ≤ cluster.now + options.longestLease := Nat.add_le_add_left short _
      _ ≤ limit cluster.now := enough alive cluster.now

theorem writesBy_claim (mutex : Mutex) :
    WritesBy cluster mutex (cluster.locks.claim cluster.now mutex.key mutex.identifier
      mutex.lockTimeout).1 :=
  fun _ _ leased => lease_of_claim leased

theorem writesBy_renew (mutex : Mutex) :
    WritesBy cluster mutex (cluster.locks.renew cluster.now mutex.key mutex.identifier
      mutex.lockTimeout).1 :=
  fun _ _ leased => lease_of_renew leased

theorem BoundedLeases.reply {Value : Type} {store : LeaseStore String Identifier}
    {environment : Environment} {value : Value}
    (bounded : BoundedLeases options executor gone limit cluster)
    (stored : ∀ expiresAt, store options.exclusiveKey = some ⟨.given executor, expiresAt⟩ →
      expiresAt ≤ limit cluster.now) :
    BoundedLeases options executor gone limit (cluster.reply environment store value).1 := by
  have written : BoundedLeases options executor gone limit { cluster with locks := store } :=
    { bounded with lease := stored }
  rcases reply_cases cluster environment store value with same | ⟨error, same | same⟩
  · rw [same]; exact written
  · rw [same]; exact bounded
  · rw [same]; exact written

theorem BoundedLeases.setNode (bounded : BoundedLeases options executor gone limit cluster)
    {other : String} {node : NodeState} (live : node.live = (cluster.nodes other).live)
    (recorded : ∀ mutex, node.singleConsumerLock = some mutex → mutex.identifier = .given other) :
    BoundedLeases options executor gone limit (cluster.setNode other node) where
  lease := bounded.lease
  timers := bounded.timers
  recorded at' mutex := by
    by_cases same : at' = other
    · subst same
      simpa [Cluster.setNode] using recorded mutex
    · simpa [Cluster.setNode, same] using bounded.recorded at' mutex
  dead isGone := by
    by_cases same : executor = other
    · subst same
      simpa [Cluster.setNode, live] using bounded.dead isGone
    · simpa [Cluster.setNode, same] using bounded.dead isGone

theorem BoundedLeases.execute (bounded : BoundedLeases options executor gone limit cluster)
    (enough : ¬ gone → ∀ now, now + options.longestLease ≤ limit now) {actor : String}
    (live : (cluster.nodes actor).live = true) {command : Command} {mode : Unit}
    (allowed : (options.leaseContract actor).allows mode command) (environment : Environment) :
    BoundedLeases options executor gone limit (cluster.execute actor environment command).1 := by
  have acts : gone → actor ≠ executor := by
    rintro isGone rfl
    rw [bounded.dead isGone] at live
    cases live
  have own : ∀ mutex, (cluster.nodes actor).singleConsumerLock = some mutex →
      mutex.identifier = .given actor := bounded.recorded actor
  cases command with
  | setNx mutex =>
      simp only [Cluster.execute]
      split
      · exact bounded
      · exact bounded.reply (bounded.write enough acts allowed (writesBy_claim mutex))
  | refresh mutex =>
      exact bounded.reply (bounded.write enough acts allowed (writesBy_renew mutex))
  | delete mutex =>
      refine bounded.reply fun expiresAt leased => ?_
      exact bounded.lease expiresAt (lease_of_release leased)
  | startRefresh mutex =>
      refine { bounded with timers := fun timer member => ?_ }
      cases List.mem_cons.mp member with
      | inl started => subst started; exact ⟨allowed, acts⟩
      | inr earlier => exact bounded.timers timer earlier
  | stopRefresh mutex =>
      exact { bounded with
        timers := fun timer member => bounded.timers timer (List.mem_of_mem_filter member) }
  | setSingleConsumerLock lock => exact bounded.setNode rfl allowed
  | observabilityStart jobId executionUuid => exact bounded.setNode rfl own
  | report error executorId => exact bounded.setNode rfl own
  | stopScheduler => exact bounded.setNode rfl own
  | record event => exact bounded.setNode rfl own
  | perform task => exact bounded.setNode rfl own
  | construct => exact ⟨bounded.lease, bounded.timers, bounded.recorded, bounded.dead⟩
  | getSingleConsumerLock => exact bounded

theorem BoundedLeases.crash (bounded : BoundedLeases options executor gone limit cluster)
    (crashing : String) :
    BoundedLeases options executor gone limit (cluster.crashNode crashing) where
  lease := bounded.lease
  timers timer member := bounded.timers timer (List.mem_of_mem_filter member)
  recorded other mutex := by
    by_cases same : other = crashing
    · subst same
      simpa [crashNode] using bounded.recorded other mutex
    · simpa [crashNode, same] using bounded.recorded other mutex
  dead isGone := by
    by_cases same : executor = crashing
    · subst same
      simp [crashNode]
    · simpa [crashNode, same] using bounded.dead isGone

/-- Every step of conforming calls keeps the bound, while time only raises it. -/
theorem boundedLeases_preserved (enough : ¬ gone → ∀ now, now + options.longestLease ≤ limit now)
    (rises : ∀ now, limit now ≤ limit (now + 1)) :
    Preserved options.leaseContract (BoundedLeases options executor gone limit) where
  execute {cluster actor mode command} environment bounded live allowed := by
    refine ⟨bounded.execute enough live allowed environment, (), ?_⟩
    cases command with
    | getSingleConsumerLock => exact fun mutex member => bounded.recorded actor mutex member
    | _ => trivial
  suspend {cluster} actor call program bounded := by
    have own : ∀ mutex, (cluster.nodes actor).singleConsumerLock = some mutex →
        mutex.identifier = .given actor := bounded.recorded actor
    have settled (rejection : Option Thrown) : BoundedLeases options executor gone limit
        (cluster.recordEvent actor (.callSettled rejection)) := bounded.setNode rfl own
    cases program with
    | call command next => exact bounded.setNode rfl own
    | done value => exact (settled none).setNode rfl ((settled none).recorded actor)
    | fail error =>
        exact (settled (some error)).setNode rfl ((settled (some error)).recorded actor)
  tick bounded _ :=
    { bounded with
      lease := fun expiresAt leased =>
        Nat.le_trans (bounded.lease expiresAt leased) (rises _) }
  fire {cluster index timer} bounded atIndex := by
    obtain ⟨leases, acts⟩ := bounded.timers timer (List.mem_of_getElem? atIndex)
    constructor
    · exact bounded.write enough acts leases (writesBy_renew timer.mutex)
    · intro other member
      cases mem_fireTimer member with
      | inl earlier => exact bounded.timers other earlier
      | inr rearmed => subst rearmed; exact ⟨leases, acts⟩
    · exact bounded.recorded
    · exact bounded.dead
  crash crashing bounded := bounded.crash crashing

end Leases

/-! ## After a crash -/

/-- Whatever Redis answers and however the steps interleave, disposals included:
when a node has crashed, the exclusive key is held under its identifier for at
most the longest lease. -/
theorem free_after_crash (job : AbstractPeriodicJob) (anonymous : job.TakesLocksAnonymously)
    (now : Nat) (locks : LeaseStore String Identifier) (executor : String)
    (fresh : ∀ expiresAt, locks job.options.exclusiveKey ≠ some ⟨.given executor, expiresAt⟩)
    (before after : List Label) (crashing last : Cluster)
    (runs : run job.step (AbstractPeriodicJob.initialCluster now locks) before = some crashing)
    (rest : run job.step crashing (.crash executor :: after) = some last)
    (elapsed : crashing.now + job.options.longestLease < last.now) :
    last.locks.holder last.now job.options.exclusiveKey ≠ some (.given executor) := by
  have bodies (other : String) (call : Call) : ∃ mode,
      (job.body other call).Follows (job.options.leaseContract other) mode fun _ _ => True :=
    ⟨(), AbstractPeriodicJob.body_leasesWithin anonymous call⟩
  have initially : BoundedLeases job.options executor False (· + job.options.longestLease)
      (AbstractPeriodicJob.initialCluster now locks) :=
    { lease := fun expiresAt leased => absurd leased (fresh expiresAt)
      timers := fun _ member => nomatch member
      recorded := fun _ _ recorded => nomatch recorded
      dead := False.elim }
  obtain ⟨conforms, running⟩ := (conforms_initial now locks).run bodies
    (boundedLeases_preserved (fun _ _ => Nat.le_refl _) fun _ => by omega) initially runs
  obtain ⟨crashed, crashes, rest⟩ := run_cons_eq_some rest
  cases crashes
  have abandoned : BoundedLeases job.options executor True
      (fun _ => crashing.now + job.options.longestLease) (crashing.crashNode executor) := by
    have crashed := running.crash executor
    constructor
    · exact running.lease
    · intro timer member
      obtain ⟨earlier, kept⟩ := List.mem_filter.mp member
      exact ⟨(running.timers timer earlier).1, fun _ => of_decide_eq_true kept⟩
    · exact crashed.recorded
    · simp [crashNode]
  obtain ⟨-, ended⟩ := (conforms.crash executor).run bodies
    (boundedLeases_preserved (fun alive => absurd trivial alive) fun _ => Nat.le_refl _)
    abandoned rest
  intro held
  obtain ⟨expiresAt, leased, inForce⟩ := exists_lease_of_holder held
  have expired := ended.lease expiresAt leased
  omega

/-- A job that takes its lock for a short time. -/
def briefJob : AbstractPeriodicJob where
  options := BackgroundJobConfiguration.options
    { jobId := "BriefJob"
      singleConsumerMode := some
        { enabled := true, lockTimeout := some 3, lockTimeoutAfterSuccess := some 2 } }
  processInternal _ := do
    let _ ← issue (.perform (.other "work"))

theorem briefJob_takesLocksAnonymously : briefJob.TakesLocksAnonymously := by
  intro executionUuid
  refine Follows.bind (Program.Follows.perform trivial ?_)
  rintro (error | result) later - <;> trivial

def lockTaken : List Label :=
  [.start "a" .process allSucceeds, .resume "a" .process allSucceeds]

/-- After the crash the other node waits until the lease is over. -/
def takesOver : List Label :=
  [.tick, .tick, .tick, .tick, .start "b" .process allSucceeds,
    .resume "b" .process allSucceeds]

theorem free_after_crash_briefJob :
    ∃ crashing last,
      run briefJob.step (AbstractPeriodicJob.initialCluster 0 fun _ => none) lockTaken =
        some crashing ∧
      crashing.Executing "a" ∧
      run briefJob.step crashing (.crash "a" :: takesOver) = some last ∧
      last.Executing "b" ∧
      last.locks.holder last.now briefJob.options.exclusiveKey ≠ some (.given "a") := by
  have taken : (run briefJob.step (AbstractPeriodicJob.initialCluster 0 fun _ => none)
      lockTaken).any (fun crashing => decide (crashing.now = 0 ∧ crashing.Executing "a")) =
      true := by
    decide
  have takenOver : (run briefJob.step (AbstractPeriodicJob.initialCluster 0 fun _ => none)
      (lockTaken ++ .crash "a" :: takesOver)).any
      (fun last => decide (last.now = 4 ∧ last.Executing "b")) = true := by
    decide
  obtain ⟨crashing, runs, executes⟩ := (Option.any_eq_true _ _).mp taken
  obtain ⟨last, reaches, follows⟩ := (Option.any_eq_true _ _).mp takenOver
  obtain ⟨early, executing⟩ := of_decide_eq_true executes
  obtain ⟨late, other⟩ := of_decide_eq_true follows
  have rest : run briefJob.step crashing (.crash "a" :: takesOver) = some last := by
    rw [← run_append runs, reaches]
  refine ⟨crashing, last, runs, executing, rest, other, ?_⟩
  apply free_after_crash briefJob briefJob_takesLocksAnonymously 0 _ "a" _ lockTaken takesOver
    crashing last runs rest
  · rw [early, late]
    decide
  · intro expiresAt leased
    cases leased

end ServiceTemplate.Jobs
