import ServiceTemplate.Jobs.AbstractPeriodicJob

/-!
# The three periodic jobs

`DeleteOldUsersJob` and `SendEmailsJob` take a second lock around their work;
`ProcessLogFilesJob` takes one lock for each file of a batch.
-/

namespace ServiceTemplate.Jobs

def LOCK_TIMEOUT_IN_MSECS : Nat := 60 * 1000

def LOCK_REFRESH_IN_MSECS : Nat := 10 * 1000

def LOCK_ON_SUCCESS_IN_MSECS : Nat := 60 * 1000 * 60

def FILE_PROCESSING_BATCH_SIZE : Nat := 20

/-- The message of the branch in which the nested lock was not obtained. -/
def alreadyRunning (executionUuid : String) : String :=
  s!"Job already running in another node, skipping ({executionUuid})"

/-- The lock both jobs ask for before they do their work. -/
def nestedLock : LockConfiguration :=
  { lockTimeout := some LOCK_TIMEOUT_IN_MSECS
    refreshInterval := some LOCK_REFRESH_IN_MSECS }

namespace DeleteOldUsersJob

def options : JobOptions :=
  BackgroundJobConfiguration.options { jobId := "DeleteOldUsersJob" }

def processInternal (executionUuid : String) : JobProgram Unit := do
  let lock ← options.tryAcquireExclusiveLock nestedLock
  match lock with
  | none => log .debug (alreadyRunning executionUuid)
  | some lock => (issue (.perform .deleteOldUsers)).tryFinally lock.release

def job : AbstractPeriodicJob := ⟨options, processInternal⟩

end DeleteOldUsersJob

namespace SendEmailsJob

def options : JobOptions :=
  BackgroundJobConfiguration.options { jobId := "SendEmailsJob" }

def processInternal (executionUuid : String) : JobProgram Unit := do
  let lock ← options.tryAcquireExclusiveLock nestedLock
  match lock with
  | none => log .debug (alreadyRunning executionUuid)
  | some lock => do
      issue (.perform .sendEmails)
      let _ ← options.updateMutex lock LOCK_ON_SUCCESS_IN_MSECS

def job : AbstractPeriodicJob := ⟨options, processInternal⟩

end SendEmailsJob

namespace ProcessLogFilesJob

def options : JobOptions :=
  BackgroundJobConfiguration.options { jobId := "ProcessLogFilesJob" }

def fileLock (fileToProcess : String) : LockConfiguration :=
  { lockName := some s!"log:{fileToProcess}"
    refreshInterval := some LOCK_REFRESH_IN_MSECS
    lockTimeout := some LOCK_TIMEOUT_IN_MSECS }

/-- The iterations of the loop that are left.  The empty file name is falsy. -/
def processFiles (executionUuid : String) : Nat → JobProgram Unit
  | 0 => pure ()
  | remaining + 1 => do
      let fileToProcess ← issue (.perform .getUnprocessedLogFile)
      match fileToProcess.filter (· ≠ "") with
      | none => log .debug s!"Nothing to process, skipping ({executionUuid})"
      | some fileToProcess => do
          let lock ← options.tryAcquireExclusiveLock (fileLock fileToProcess)
          match lock with
          | none => processFiles executionUuid remaining
          | some lock => do
              (issue (.perform (.processFile fileToProcess))).tryFinally
                lock.stopRefresh
              processFiles executionUuid remaining

def processInternal (executionUuid : String) : JobProgram Unit :=
  processFiles executionUuid FILE_PROCESSING_BATCH_SIZE

def job : AbstractPeriodicJob := ⟨options, processInternal⟩

end ProcessLogFilesJob

end ServiceTemplate.Jobs
