import ServiceTemplate.Foundations.LeaseStore
import ServiceTemplate.Foundations.Run
import ServiceTemplate.Jobs.AbstractPeriodicJob

/-!
# A cluster of nodes that run the same job

Every node has one instance of the job and one executor identifier, by which
the node is named.  The nodes share the lock store of Redis.  One step is the
passing of a millisecond, the firing of a refresh timer, the start of a call,
the answer to the command a call waits for together with the synchronous code
up to the next one, or the crash of a node.

Time does not pass a timer that is due: timers fire when they are due, and a
Redis command takes effect and is answered at one instant.
-/

namespace ServiceTemplate.Jobs

open LeaseStore

/-- A live `setInterval` that refreshes the lock of one mutex. -/
structure RefreshTimer where
  owner : String
  mutex : Mutex
  dueAt : Nat

/-- The two methods of a job that run concurrently. -/
inductive Call where
  | process
  | dispose
  deriving DecidableEq

structure NodeState where
  live : Bool := true
  schedulerStopped : Bool := false
  singleConsumerLock : Option Mutex := none
  calls : Call → Option (JobProgram Unit) := fun _ => none
  /-- the events of the node with their instants, the newest one first -/
  journal : List (Nat × Event) := []

structure Cluster where
  now : Nat
  locks : LeaseStore String Identifier
  timers : List RefreshTimer
  /-- the number of `Mutex` objects built so far -/
  constructed : Nat
  nodes : String → NodeState

/-- What becomes of a Redis command. -/
inductive RedisReply where
  | answered
  /-- rejected without having been executed -/
  | rejected (error : Thrown)
  /-- executed, but the reply is lost -/
  | lost (error : Thrown)
  deriving DecidableEq

/-- What the environment decides in one step of a call. -/
structure Environment where
  redis : RedisReply := .answered
  task : (task : Task) → Except Thrown task.Result
  startThrows : Option Thrown := none
  reportThrows : Option Thrown := none

inductive Label where
  | tick
  | fire (timer : Nat)
  | start (executor : String) (call : Call) (environment : Environment)
  | resume (executor : String) (call : Call) (environment : Environment)
  | crash (executor : String)

namespace Cluster

/-- The error Redis answers to `SET` with the expiry zero. -/
def invalidExpireTime : Thrown :=
  .error "ERR invalid expire time in 'set' command"

def setNode (cluster : Cluster) (executor : String) (node : NodeState) : Cluster :=
  { cluster with nodes := Function.update cluster.nodes executor node }

def recordEvent (cluster : Cluster) (executor : String) (event : Event) : Cluster :=
  cluster.setNode executor
    { cluster.nodes executor with
      journal := (cluster.now, event) :: (cluster.nodes executor).journal }

/-- The answer of a Redis command that leaves the store as given. -/
def reply {Value : Type} (cluster : Cluster) (environment : Environment)
    (store : LeaseStore String Identifier) (value : Value) :
    Cluster × Except Thrown Value :=
  match environment.redis with
  | .answered => ({ cluster with locks := store }, .ok value)
  | .rejected error => (cluster, .error error)
  | .lost error => ({ cluster with locks := store }, .error error)

def outcome (thrown : Option Thrown) : Except Thrown Unit :=
  match thrown with
  | none => .ok ()
  | some error => .error error

def execute (executor : String) (environment : Environment) (cluster : Cluster) :
    (command : Command) → Cluster × Except Thrown command.Answer
  | .construct =>
      ({ cluster with constructed := cluster.constructed + 1 },
        .ok cluster.constructed)
  | .setNx mutex =>
      if mutex.lockTimeout = 0 then (cluster, .error invalidExpireTime)
      else
        let (store, acquired) :=
          cluster.locks.claim cluster.now mutex.key mutex.identifier mutex.lockTimeout
        cluster.reply environment store acquired
  | .refresh mutex =>
      let (store, refreshed) :=
        cluster.locks.renew cluster.now mutex.key mutex.identifier mutex.lockTimeout
      cluster.reply environment store refreshed
  | .delete mutex =>
      let store := cluster.locks.release cluster.now mutex.key mutex.identifier
      cluster.reply environment store ()
  | .startRefresh mutex =>
      ({ cluster with
          timers :=
            ⟨executor, mutex, cluster.now + mutex.refreshInterval⟩ :: cluster.timers },
        .ok ())
  | .stopRefresh mutex =>
      ({ cluster with
          timers := cluster.timers.filter fun timer =>
            ¬ (timer.owner = executor ∧ timer.mutex = mutex) },
        .ok ())
  | .getSingleConsumerLock =>
      (cluster, .ok (cluster.nodes executor).singleConsumerLock)
  | .setSingleConsumerLock lock =>
      (cluster.setNode executor
        { cluster.nodes executor with singleConsumerLock := lock }, .ok ())
  | .observabilityStart jobId executionUuid =>
      (cluster.recordEvent executor (.observabilityStart jobId executionUuid),
        outcome environment.startThrows)
  | .report error executorId =>
      (cluster.recordEvent executor (.report error executorId),
        outcome environment.reportThrows)
  | .stopScheduler =>
      (cluster.setNode executor
        { cluster.nodes executor with schedulerStopped := true }, .ok ())
  | .record event => (cluster.recordEvent executor event, .ok ())
  | .perform task =>
      (cluster.recordEvent executor (.taskSettled task), environment.task task)

/-- The commands that are executed without waiting. -/
def executeNow (executor : String) (environment : Environment) (cluster : Cluster)
    (command : Command) : Option (Cluster × Except Thrown command.Answer) :=
  if command.awaited then none
  else some (cluster.execute executor environment command)

/-- Note what has become of a call: it waits for a command, or it has settled. -/
def suspend (cluster : Cluster) (executor : String) (call : Call)
    (program : JobProgram Unit) : Cluster :=
  let setCall (cluster : Cluster) (waiting : Option (JobProgram Unit)) : Cluster :=
    cluster.setNode executor
      { cluster.nodes executor with
        calls := Function.update (cluster.nodes executor).calls call waiting }
  match program with
  | .call command next => setCall cluster (some (.call command next))
  | .done _ => setCall (cluster.recordEvent executor (.callSettled none)) none
  | .fail error =>
      setCall (cluster.recordEvent executor (.callSettled (some error))) none

/-- Run the synchronous code of a call up to its next awaited command. -/
def advance (cluster : Cluster) (executor : String) (call : Call)
    (environment : Environment) (program : JobProgram Unit) : Cluster :=
  let (settled, waiting) :=
    program.settle (executeNow executor environment) cluster
  settled.suspend executor call waiting

/-- A refresh timer fires and is armed again. -/
def fireTimer (cluster : Cluster) (index : Nat) (timer : RefreshTimer) : Cluster :=
  { cluster with
    locks := (cluster.locks.renew cluster.now timer.mutex.key
      timer.mutex.identifier timer.mutex.lockTimeout).1
    timers := cluster.timers.set index
      { timer with dueAt := cluster.now + timer.mutex.refreshInterval } }

def crashNode (cluster : Cluster) (executor : String) : Cluster :=
  { cluster with
    timers := cluster.timers.filter fun timer => timer.owner ≠ executor
    nodes := Function.update cluster.nodes executor
      { cluster.nodes executor with live := false, calls := fun _ => none } }

/-- A call may start on a live node that is not running it already.  A stopped
scheduler starts no further runs. -/
def MayStart (node : NodeState) (call : Call) : Prop :=
  node.live = true ∧ (node.calls call).isNone = true ∧
    (call = .process → node.schedulerStopped = false)

instance (node : NodeState) (call : Call) : Decidable (MayStart node call) := by
  unfold MayStart
  infer_instance

/-- One step of a cluster whose calls run the given programs. -/
def stepOf (body : String → Call → JobProgram Unit) (cluster : Cluster) :
    Label → Option Cluster
  | .tick =>
      if ∀ timer ∈ cluster.timers, cluster.now < timer.dueAt then
        some { cluster with now := cluster.now + 1 }
      else none
  | .fire index =>
      match cluster.timers[index]? with
      | none => none
      | some timer =>
          if timer.dueAt ≤ cluster.now then some (cluster.fireTimer index timer)
          else none
  | .start executor call environment =>
      if MayStart (cluster.nodes executor) call then
        some (cluster.advance executor call environment (body executor call))
      else none
  | .resume executor call environment =>
      match (cluster.nodes executor).calls call with
      | some (.call command next) =>
          let (changed, answer) := cluster.execute executor environment command
          some (changed.advance executor call environment (next answer))
      | _ => none
  | .crash executor => some (cluster.crashNode executor)

/-! ### What a step can do -/

section Inversion

variable {body : String → Call → JobProgram Unit} {cluster next : Cluster}
variable {executor : String} {call : Call} {environment : Environment}

theorem stepOf_tick (steps : cluster.stepOf body .tick = some next) :
    (∀ timer ∈ cluster.timers, cluster.now < timer.dueAt) ∧
      next = { cluster with now := cluster.now + 1 } := by
  simp only [stepOf] at steps
  split at steps
  · next early => exact ⟨early, (Option.some.inj steps).symm⟩
  · cases steps

theorem stepOf_fire {index : Nat} (steps : cluster.stepOf body (.fire index) = some next) :
    ∃ timer, cluster.timers[index]? = some timer ∧ timer.dueAt ≤ cluster.now ∧
      next = cluster.fireTimer index timer := by
  simp only [stepOf] at steps
  split at steps
  · cases steps
  · next timer atIndex =>
    split at steps
    · next due => exact ⟨timer, atIndex, due, (Option.some.inj steps).symm⟩
    · cases steps

theorem stepOf_start (steps : cluster.stepOf body (.start executor call environment) = some next) :
    MayStart (cluster.nodes executor) call ∧
      next = cluster.advance executor call environment (body executor call) := by
  simp only [stepOf] at steps
  split at steps
  · next starts => exact ⟨starts, (Option.some.inj steps).symm⟩
  · cases steps

theorem stepOf_resume
    (steps : cluster.stepOf body (.resume executor call environment) = some next) :
    ∃ command continuation,
      (cluster.nodes executor).calls call = some (.call command continuation) ∧
      next = (cluster.execute executor environment command).1.advance executor call
        environment (continuation (cluster.execute executor environment command).2) := by
  simp only [stepOf] at steps
  split at steps
  · next command continuation waits =>
    exact ⟨command, continuation, waits, (Option.some.inj steps).symm⟩
  · cases steps

end Inversion

end Cluster

namespace AbstractPeriodicJob

def body (job : AbstractPeriodicJob) (executor : String) : Call → JobProgram Unit
  | .process => job.process executor
  | .dispose => dispose

/-- One step of a cluster of nodes that run the job. -/
def step (job : AbstractPeriodicJob) : Cluster → Label → Option Cluster :=
  Cluster.stepOf job.body

/-- Before any node has run: whatever the lock store holds, there are no timers
and no calls. -/
def initialCluster (now : Nat) (locks : LeaseStore String Identifier) : Cluster where
  now := now
  locks := locks
  timers := []
  constructed := 0
  nodes := fun _ => {}

end AbstractPeriodicJob

end ServiceTemplate.Jobs
