import ServiceTemplate.Jobs.ClusterInvariant

/-!
# The phases of one call of `process`

A call asks for the exclusive lock, tries to renew it if it is refused, runs
`processInternal`, and renews the lock in its `finally` block.  Between two of
its Redis commands, or two awaited commands of `processInternal`, its code is
synchronous.  `processInternal` is any program that a subclass can have.
-/

namespace ServiceTemplate.Jobs

open Program

/-! ## An attempt to get a lock -/

section Attempt

variable {Value : Type} (mutex : Mutex) (next : Bool → JobProgram Value)

/-- What follows the answer to the Redis command of an attempt. -/
def Mutex.afterAttempt : Bool → JobProgram Value
  | false => next false
  | true =>
      if 0 < mutex.refreshInterval then
        (issue (.startRefresh mutex)).bind fun _ => next true
      else next true

theorem Mutex.afterAnswer_bind (acquired : Bool) :
    (mutex.afterAnswer acquired).bind next = mutex.afterAttempt next acquired := by
  cases acquired with
  | false => rfl
  | true =>
      unfold afterAnswer afterAttempt
      by_cases timed : 0 < mutex.refreshInterval
      · simp only [timed, decide_true, Bool.and_self, if_true]
        exact Program.call_congr (fun _ => rfl) fun _ => rfl
      · simp only [timed, decide_false, Bool.and_false]
        rfl

theorem Mutex.tryAcquire_bind (internal : mutex.acquiredExternally = false) :
    mutex.tryAcquire.bind next = (issue (.setNx mutex)).bind (mutex.afterAttempt next) := by
  rw [tryAcquire_of_fresh internal]
  show ((issue (.setNx mutex)).bind mutex.afterAnswer).bind next = _
  rw [bind_assoc]
  exact congrArg (Program.bind _) (funext (mutex.afterAnswer_bind next))

theorem Mutex.tryAcquire_bind_of_external (external : mutex.acquiredExternally = true) :
    mutex.tryAcquire.bind next = (issue (.refresh mutex)).bind (mutex.afterAttempt next) := by
  rw [tryAcquire_of_external external]
  show ((issue (.refresh mutex)).bind mutex.afterAnswer).bind next = _
  rw [bind_assoc]
  exact congrArg (Program.bind _) (funext (mutex.afterAnswer_bind next))

end Attempt

namespace AbstractPeriodicJob

/-! ## What is left of a call -/

section Programs

variable (job : AbstractPeriodicJob) (executor : String)

/-- The mutex by which `process` asks for the lock. -/
def lockMutex (ref : Nat) (acquiredExternally : Bool) : Mutex :=
  Mutex.new ref job.options.exclusiveKey
    { identifier := some (.given executor)
      lockTimeout := job.options.singleConsumerMode.lockTimeout
      acquiredExternally := acquiredExternally }

/-- The mutex by which `updateMutex` renews the lock. -/
def renewalMutex (lock : Mutex) (ref : Nat) : Mutex :=
  Mutex.new ref job.options.exclusiveKey
    { acquiredExternally := true
      identifier := some lock.identifier
      lockTimeout := some job.options.timeoutAfterRun }

def returned : Except Thrown Unit → JobProgram Unit
  | .ok value => .done value
  | .error error => .fail error

/-- The end of the `finally` block. -/
def endBlock (outcome : Except Thrown Unit) : JobProgram Unit := do
  if job.options.shouldLogExecution then log .info "Periodic job finished"
  issue (.record (.observabilityStop executor))
  returned outcome

/-- The `finally` block after `updateMutex`. -/
def stopBlock (outcome : Except Thrown Unit) : JobProgram Unit := do
  match ← issue .getSingleConsumerLock with
  | none => .fail (.error "Cannot read properties of undefined (reading 'stopRefresh')")
  | some lock => do
      issue (.stopRefresh lock)
      job.endBlock executor outcome

/-- The renewal of the lock, and what follows it. -/
def renew (lock : Mutex) (ref : Nat) (outcome : Except Thrown Unit) : JobProgram Unit :=
  (issue (.refresh (job.renewalMutex lock ref))).bind
    ((job.renewalMutex lock ref).afterAttempt fun _ => job.stopBlock executor outcome)

/-- The `finally` block, after which the call settles with the outcome. -/
def settling (outcome : Except Thrown Unit) : JobProgram Unit :=
  (job.finallyBlock executor).bind fun _ => returned outcome

/-- What is left of a call whose `processInternal` has `rest` to do. -/
def bodyRest (rest : JobProgram Unit) : JobProgram Unit :=
  ((rest.tryFinally (issue (.record .bodySettled))).tryCatch (catchBlock executor)).tryFinally
    (job.finallyBlock executor)

/-- What a call does with the lock it has got. -/
def won (lock : Mutex) : JobProgram Unit :=
  (issue (.setSingleConsumerLock (some lock))).bind fun _ => job.execute executor

/-- What a call does that has not got the lock. -/
def skipped : JobProgram Unit :=
  (issue (.setSingleConsumerLock none)).bind fun _ =>
    log .debug "Periodic job skipped: unable to acquire single consumer lock"

def afterRetry (ref : Nat) : Bool → JobProgram Unit
  | true => job.won executor (job.lockMutex executor ref true)
  | false => skipped

/-- The second attempt to get the lock. -/
def retry (ref : Nat) : JobProgram Unit :=
  (issue (.refresh (job.lockMutex executor ref true))).bind
    ((job.lockMutex executor ref true).afterAttempt (job.afterRetry executor ref))

def afterAsk (ref : Nat) : Bool → JobProgram Unit
  | true => job.won executor (job.lockMutex executor ref false)
  | false => (issue .construct).bind fun ref => job.retry executor ref

/-- The first attempt to get the lock. -/
def ask (ref : Nat) : JobProgram Unit :=
  (issue (.setNx (job.lockMutex executor ref false))).bind
    ((job.lockMutex executor ref false).afterAttempt (job.afterAsk executor ref))

end Programs

section Equations

variable (job : AbstractPeriodicJob) (executor : String) (outcome : Except Thrown Unit)

theorem endBlock_eq :
    (do
      if job.options.shouldLogExecution then log .info "Periodic job finished"
      issue (.record (.observabilityStop executor)) : JobProgram Unit).bind
        (fun _ => returned outcome) = job.endBlock executor outcome := by
  unfold endBlock
  by_cases logs : job.options.shouldLogExecution = true
  · simp only [logs, if_true]
    refine Program.call_congr (fun _ => rfl) fun logged => ?_
    exact Program.call_congr (fun _ => rfl) fun _ => rfl
  · simp only [logs]
    exact Program.call_congr (fun _ => rfl) fun _ => rfl

theorem stopBlock_eq :
    (do
      match ← issue .getSingleConsumerLock with
      | none => .fail (.error "Cannot read properties of undefined (reading 'stopRefresh')")
      | some lock => lock.stopRefresh
      if job.options.shouldLogExecution then log .info "Periodic job finished"
      issue (.record (.observabilityStop executor)) : JobProgram Unit).bind
        (fun _ => returned outcome) = job.stopBlock executor outcome := by
  refine Program.call_congr (fun _ => rfl) fun recorded => ?_
  cases recorded with
  | none => rfl
  | some lock =>
      refine Program.call_congr (fun _ => rfl) fun stopped => ?_
      exact job.endBlock_eq executor outcome

theorem settling_eq :
    job.settling executor outcome =
      (issue .getSingleConsumerLock).bind fun
        | none => job.endBlock executor outcome
        | some lock => (issue .construct).bind fun ref =>
            job.renew executor lock ref outcome := by
  refine Program.call_congr (fun _ => rfl) fun recorded => ?_
  cases recorded with
  | none => exact job.endBlock_eq executor outcome
  | some lock =>
      refine Program.call_congr (fun _ => rfl) fun ref => ?_
      let renewal := job.renewalMutex lock ref
      show (((renewal.tryAcquire.bind _).bind _).bind _) = _
      rw [bind_assoc, bind_assoc, renewal.tryAcquire_bind_of_external _ rfl]
      refine congrArg (fun next => (issue (.refresh renewal)).bind (renewal.afterAttempt next)) ?_
      funext acquired
      cases acquired <;> exact job.stopBlock_eq executor outcome

theorem process_eq (enabled : job.options.singleConsumerMode.enabled = true) :
    job.process executor = (issue .construct).bind fun ref => job.ask executor ref := by
  unfold process
  rw [if_pos enabled]
  have sameTimeout : (job.options.singleConsumerMode.lockTimeout <|>
      job.options.singleConsumerMode.lockTimeout) =
      job.options.singleConsumerMode.lockTimeout := by
    cases job.options.singleConsumerMode.lockTimeout <;> rfl
  unfold JobOptions.tryAcquireExclusiveLock
  simp only [sameTimeout]
  refine Program.call_congr (fun _ => rfl) fun ref => ?_
  let lock := job.lockMutex executor ref false
  show ((lock.tryAcquire.bind _).bind _) = _
  rw [bind_assoc, lock.tryAcquire_bind _ rfl]
  refine congrArg (fun next => (issue (.setNx lock)).bind (lock.afterAttempt next)) ?_
  funext acquired
  cases acquired with
  | true => rfl
  | false =>
      refine Program.call_congr (fun _ => rfl) fun ref => ?_
      let lock := job.lockMutex executor ref true
      show ((lock.tryAcquire.bind _).bind _) = _
      rw [bind_assoc, lock.tryAcquire_bind_of_external _ rfl]
      refine congrArg (fun next => (issue (.refresh lock)).bind (lock.afterAttempt next)) ?_
      funext acquired
      cases acquired <;> rfl

end Equations

end AbstractPeriodicJob

/-! ## The phases -/

/-- Where a call of `process` stands. -/
inductive ProcessPhase where
  | idle
  | asking (ref : Nat)
  | retrying (ref : Nat)
  | executing (lock : Mutex) (rest : JobProgram Unit)
  | renewing (lock : Mutex) (ref : Nat) (outcome : Except Thrown Unit)

namespace ProcessPhase

def waitsFor (job : AbstractPeriodicJob) (executor : String) :
    ProcessPhase → Option (JobProgram Unit)
  | .idle => none
  | .asking ref => some (job.ask executor ref)
  | .retrying ref => some (job.retry executor ref)
  | .executing _ rest => some (job.bodyRest executor rest)
  | .renewing lock ref outcome => some (job.renew executor lock ref outcome)

/-- The lock that the call has got. -/
def lock : ProcessPhase → Option Mutex
  | .idle | .asking _ | .retrying _ => none
  | .executing lock _ | .renewing lock _ _ => some lock

/-- What the call settles with. -/
def outcome : ProcessPhase → Except Thrown Unit
  | .idle | .asking _ | .retrying _ | .executing _ _ => .ok ()
  | .renewing _ _ outcome => outcome

end ProcessPhase

end ServiceTemplate.Jobs
