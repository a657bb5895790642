import ServiceTemplate.Foundations.Program

/-!
# The commands of a periodic job

A periodic job talks to Redis through the `Mutex` of `redis-semaphore`, starts
and stops refresh timers, reads and writes the fields of its own instance, and
awaits its business logic.  Each of these is one command; the methods of
`Mutex` are programs over them.
-/

namespace ServiceTemplate.Jobs

/-- What a JavaScript program can throw. -/
inductive Thrown where
  /-- an instance of `Error` -/
  | error (message : String)
  /-- any other value -/
  | value (text : String)
  deriving DecidableEq

/-- The text that identifies the holder of a lock: one the caller passes, or
the random one of a `Mutex` that is built without an identifier. -/
inductive Identifier where
  | given (text : String)
  | generated (mutexRef : Nat)
  deriving DecidableEq

/-- The options of the `Mutex` constructor. -/
structure LockOptions where
  identifier : Option Identifier := none
  lockTimeout : Option Nat := none
  refreshInterval : Option Nat := none
  acquiredExternally : Bool := false

/-- A `Mutex` object.  The reference tells objects with equal fields apart. -/
structure Mutex where
  ref : Nat
  key : String
  identifier : Identifier
  lockTimeout : Nat
  refreshInterval : Nat
  acquiredExternally : Bool
  deriving DecidableEq

/-- `Math.round(lockTimeout * 0.8)` -/
def defaultRefreshInterval (lockTimeout : Nat) : Nat :=
  (8 * lockTimeout + 5) / 10

/-- The lock timeout of a `Mutex` built without one. -/
def DEFAULT_LOCK_TIMEOUT : Nat := 10000

/-- `new Mutex(redis, key, options)` -/
def Mutex.new (ref : Nat) (key : String) (options : LockOptions) : Mutex where
  ref := ref
  key := key
  identifier := options.identifier.getD (.generated ref)
  lockTimeout := options.lockTimeout.getD DEFAULT_LOCK_TIMEOUT
  refreshInterval := options.refreshInterval.getD
    (defaultRefreshInterval (options.lockTimeout.getD DEFAULT_LOCK_TIMEOUT))
  acquiredExternally := options.acquiredExternally

/-- The business logic that a job awaits. -/
inductive Task where
  | deleteOldUsers
  | sendEmails
  | getUnprocessedLogFile
  | processFile (file : String)
  /-- whatever a job outside this repository awaits -/
  | other (description : String)
  deriving DecidableEq

/-- What a task resolves to. -/
abbrev Task.Result : Task → Type
  | .deleteOldUsers | .sendEmails | .processFile _ => Unit
  | .getUnprocessedLogFile => Option String
  | .other _ => String

inductive LogLevel where
  | debug
  | info
  | error
  deriving DecidableEq

/-- What a node does besides locking, in the order in which it does it. -/
inductive Event where
  | log (level : LogLevel) (message : String) (error : Option Thrown)
  | observabilityStart (jobId executionUuid : String)
  | observabilityStop (executionUuid : String)
  | report (error : Thrown) (executorId : String)
  | taskSettled (task : Task)
  /-- `processInternal` is called -/
  | bodyCalled
  /-- `processInternal` has settled -/
  | bodySettled
  /-- a call of `process` has settled, with the error it rejects with if any -/
  | callSettled (rejection : Option Thrown)
  deriving DecidableEq

/-- The events that a program may note by itself, besides the two marks of its
body. -/
def Event.plain : Event → Bool
  | .log _ _ _ | .observabilityStop _ => true
  | _ => false

inductive Command where
  /-- `new Mutex`: a fresh object reference -/
  | construct
  /-- `SET key identifier PX lockTimeout NX` -/
  | setNx (mutex : Mutex)
  /-- compare the identifier and `PEXPIRE key lockTimeout` -/
  | refresh (mutex : Mutex)
  /-- compare the identifier and `DEL key` -/
  | delete (mutex : Mutex)
  | startRefresh (mutex : Mutex)
  | stopRefresh (mutex : Mutex)
  | getSingleConsumerLock
  | setSingleConsumerLock (lock : Option Mutex)
  /-- `transactionObservabilityManager.start` -/
  | observabilityStart (jobId executionUuid : String)
  /-- `errorReporter.report` -/
  | report (error : Thrown) (executorId : String)
  | stopScheduler
  | record (event : Event)
  | perform (task : Task)

/-- What a command answers. -/
abbrev Command.Answer : Command → Type
  | .construct => Nat
  | .setNx _ | .refresh _ => Bool
  | .getSingleConsumerLock => Option Mutex
  | .perform task => task.Result
  | .delete _ | .startRefresh _ | .stopRefresh _ | .setSingleConsumerLock _ => Unit
  | .observabilityStart _ _ | .report _ _ | .stopScheduler | .record _ => Unit

/-- The commands that are sent to Redis or run business logic.  The code
between two of them is synchronous. -/
def Command.awaited : Command → Bool
  | .setNx _ | .refresh _ | .delete _ | .perform _ => true
  | _ => false

/-- The commands that may throw or be rejected. -/
def Command.fallible : Command → Bool
  | .setNx _ | .refresh _ | .delete _ | .perform _ => true
  | .observabilityStart _ _ | .report _ _ => true
  | _ => false

abbrev JobProgram (Value : Type) : Type :=
  Program Command.Answer Thrown Value

def issue (command : Command) : JobProgram command.Answer :=
  .perform command

def log (level : LogLevel) (message : String) (error : Option Thrown := none) :
    JobProgram Unit :=
  issue (.record (.log level message error))

namespace Mutex

/-- `mutex.tryAcquire()`, for a `Mutex` whose `acquireAttemptsLimit` is one or
which is acquired externally.  A refresh interval of zero disables the timer. -/
def tryAcquire (mutex : Mutex) : JobProgram Bool := do
  let acquired : Bool ←
    if mutex.acquiredExternally then issue (.refresh mutex)
    else issue (.setNx mutex)
  if acquired && 0 < mutex.refreshInterval then
    issue (.startRefresh mutex)
  return acquired

/-- What `tryAcquire` does with the answer of its command. -/
def afterAnswer (mutex : Mutex) (acquired : Bool) : JobProgram Bool := do
  if acquired && 0 < mutex.refreshInterval then
    issue (.startRefresh mutex)
  return acquired

theorem tryAcquire_of_external {mutex : Mutex} (external : mutex.acquiredExternally = true) :
    mutex.tryAcquire = issue (.refresh mutex) >>= mutex.afterAnswer := by
  simp only [tryAcquire, external, if_true]
  rfl

theorem tryAcquire_of_fresh {mutex : Mutex} (fresh : mutex.acquiredExternally = false) :
    mutex.tryAcquire = issue (.setNx mutex) >>= mutex.afterAnswer := by
  simp only [tryAcquire, fresh, Bool.false_eq_true, if_false]
  rfl

def stopRefresh (mutex : Mutex) : JobProgram Unit :=
  issue (.stopRefresh mutex)

def release (mutex : Mutex) : JobProgram Unit := do
  mutex.stopRefresh
  issue (.delete mutex)

end Mutex

end ServiceTemplate.Jobs
