import ServiceTemplate.Jobs.Command

/-!
# `AbstractPeriodicJob`

The base class of the periodic jobs: its options with their defaults, the
acquisition and renewal of the exclusive lock, and one execution of the job.
A job is its options together with its `processInternal`.
-/

namespace ServiceTemplate.Jobs

def DEFAULT_LOCK_NAME : String := "exclusive"

def DEFAULT_JOB_INTERVAL : Nat := 60000

/-- The optional settings of `BackgroundJobConfiguration.singleConsumerMode`. -/
structure SingleConsumerConfiguration where
  enabled : Bool
  lockTimeout : Option Nat := none
  lockTimeoutAfterSuccess : Option Nat := none

structure BackgroundJobConfiguration where
  jobId : String
  intervalInMs : Option Nat := none
  singleConsumerMode : Option SingleConsumerConfiguration := none
  shouldLogExecution : Option Bool := none

/-- `Required<BackgroundJobConfiguration>` -/
structure JobOptions where
  jobId : String
  intervalInMs : Nat
  singleConsumerMode : SingleConsumerConfiguration
  shouldLogExecution : Bool

/-- The options the constructor computes: the defaults, overridden by what the
configuration sets. -/
def BackgroundJobConfiguration.options (configuration : BackgroundJobConfiguration) :
    JobOptions where
  jobId := configuration.jobId
  intervalInMs := configuration.intervalInMs.getD DEFAULT_JOB_INTERVAL
  shouldLogExecution := configuration.shouldLogExecution.getD false
  singleConsumerMode :=
    let lockTimeout :=
      configuration.intervalInMs.getD DEFAULT_JOB_INTERVAL * 2
    match configuration.singleConsumerMode with
    | none => { enabled := true, lockTimeout := some lockTimeout }
    | some mode => { mode with lockTimeout := mode.lockTimeout <|> some lockTimeout }

structure LockConfiguration where
  lockName : Option String := none
  identifier : Option Identifier := none
  refreshInterval : Option Nat := none
  lockTimeout : Option Nat := none
  acquiredExternally : Bool := false

/-- A concrete subclass of `AbstractPeriodicJob`. -/
structure AbstractPeriodicJob where
  options : JobOptions
  processInternal : (executionUuid : String) → JobProgram Unit

namespace JobOptions

variable (options : JobOptions)

def getJobLockName (key : String) : String :=
  s!"{options.jobId}:locks:{key}"

def getJobMutex (key : String) (lockOptions : LockOptions) : JobProgram Mutex := do
  let ref ← issue .construct
  return Mutex.new ref (options.getJobLockName key) lockOptions

def tryAcquireExclusiveLock (lockConfiguration : LockConfiguration) :
    JobProgram (Option Mutex) := do
  let mutexOptions : LockOptions :=
    { refreshInterval := lockConfiguration.refreshInterval
      acquiredExternally := lockConfiguration.acquiredExternally
      identifier := lockConfiguration.identifier
      lockTimeout :=
        lockConfiguration.lockTimeout <|> options.singleConsumerMode.lockTimeout }
  let lockName := lockConfiguration.lockName.getD DEFAULT_LOCK_NAME
  let lock ← options.getJobMutex lockName mutexOptions
  let acquired ← lock.tryAcquire
  -- a lock that this instance acquired earlier is refreshed
  let (lock, acquired) ←
    if !acquired && lockConfiguration.identifier.isSome then do
      let lock ← options.getJobMutex lockName
        { mutexOptions with acquiredExternally := true }
      let acquired ← lock.tryAcquire
      pure (lock, acquired)
    else pure (lock, acquired)
  return if acquired then some lock else none

def updateMutex (mutex : Mutex) (newLockTimeout : Nat)
    (key : String := DEFAULT_LOCK_NAME) : JobProgram (Option Mutex) := do
  let newMutex ← options.getJobMutex key
    { acquiredExternally := true
      identifier := some mutex.identifier
      lockTimeout := some newLockTimeout }
  let lock ← newMutex.tryAcquire
  return if lock then some newMutex else none

/-- `lockTimeoutAfterSuccess ?? intervalInMs` -/
def timeoutAfterRun : Nat :=
  options.singleConsumerMode.lockTimeoutAfterSuccess.getD options.intervalInMs

end JobOptions

namespace AbstractPeriodicJob

variable (job : AbstractPeriodicJob)

/-- The `try` block of `process`. -/
def tryBlock (executionUuid : String) : JobProgram Unit := do
  issue (.observabilityStart job.options.jobId executionUuid)
  if job.options.shouldLogExecution then log .info "Periodic job started"
  issue (.record .bodyCalled)
  (job.processInternal executionUuid).tryFinally (issue (.record .bodySettled))

/-- The `catch` block of `process`. -/
def catchBlock (executionUuid : String) (err : Thrown) : JobProgram Unit := do
  log .error "Error during periodic job execution" (some err)
  match err with
  | .error _ => issue (.report err executionUuid)
  | .value _ => pure ()

/-- The `finally` block of `process`. -/
def finallyBlock (executionUuid : String) : JobProgram Unit := do
  match ← issue .getSingleConsumerLock with
  | none => pure ()
  | some singleConsumerLock =>
      let _ ← job.options.updateMutex singleConsumerLock job.options.timeoutAfterRun
      match ← issue .getSingleConsumerLock with
      | none => .fail (.error "Cannot read properties of undefined (reading 'stopRefresh')")
      | some singleConsumerLock => singleConsumerLock.stopRefresh
  if job.options.shouldLogExecution then log .info "Periodic job finished"
  issue (.record (.observabilityStop executionUuid))

/-- The part of `process` that follows the acquisition of the lock. -/
def execute (executionUuid : String) : JobProgram Unit :=
  ((job.tryBlock executionUuid).tryCatch (catchBlock executionUuid)).tryFinally
    (job.finallyBlock executionUuid)

def process (executionUuid : String) : JobProgram Unit := do
  if job.options.singleConsumerMode.enabled then
    let lock ← job.options.tryAcquireExclusiveLock
      { lockTimeout := job.options.singleConsumerMode.lockTimeout
        identifier := some (.given executionUuid) }
    issue (.setSingleConsumerLock lock)
    if lock.isNone then
      log .debug "Periodic job skipped: unable to acquire single consumer lock"
    else job.execute executionUuid
  else job.execute executionUuid

def dispose : JobProgram Unit := do
  issue .stopScheduler
  match ← issue .getSingleConsumerLock with
  | none => pure ()
  | some singleConsumerLock => singleConsumerLock.release

end AbstractPeriodicJob

end ServiceTemplate.Jobs
