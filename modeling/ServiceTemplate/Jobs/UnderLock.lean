import ServiceTemplate.Jobs.Executors
import ServiceTemplate.Jobs.ProcessPhases
import ServiceTemplate.Jobs.SubclassContract

/-!
# The code of a call that runs under the lock

Whatever `processInternal` does, it leaves the recorded lock and its refresh
timer alone.  So the code between two awaited commands comes to rest in
`processInternal` again, or at the renewal of the lock in the `finally` block.
-/

namespace ServiceTemplate.Jobs

open LeaseStore Program Cluster

/-! ## What a call changes -/

/-- How often `process` has called `transactionObservabilityManager.stop`.  What
`processInternal` calls by itself does not count. -/
def stopCalls (executor : String) : List (Nat × Event) → Nat
  | [] => 0
  | (_, event) :: earlier =>
      stopCalls executor earlier +
        if event = .observabilityStop executor ∧ inBody earlier = false then 1 else 0

/-- What a call may change, as the other nodes see it. -/
structure Affects (mayUse : Identifier → Prop) (executor : String)
    (before after : Cluster) : Prop where
  now : after.now = before.now
  constructed : before.constructed ≤ after.constructed
  nodes : ∀ other, other ≠ executor → after.nodes other = before.nodes other
  timers : ∀ timer ∈ after.timers, timer.owner ≠ executor → timer ∈ before.timers
  gives : ∀ key identifier, ¬ mayUse identifier →
    after.locks.holder after.now key = some identifier →
      before.locks.holder before.now key = some identifier

/-- The identifiers that an instance may use: the one of its executor, and those of its
`processInternal`. -/
def OwnOr (executor : String) (mayUse : Identifier → Prop) (identifier : Identifier) : Prop :=
  identifier = .given executor ∨ mayUse identifier

/-- What the code that runs under the lock changes on its own node: it leaves
the recorded lock and its timer alone. -/
structure Within (executor : String) (lock : Mutex) (before after : Cluster) : Prop where
  live : (after.nodes executor).live = (before.nodes executor).live
  calls : (after.nodes executor).calls = (before.nodes executor).calls
  recorded : (after.nodes executor).singleConsumerLock =
    (before.nodes executor).singleConsumerLock
  scheduler : (before.nodes executor).schedulerStopped = true →
    (after.nodes executor).schedulerStopped = true
  stops : stopCalls executor (after.nodes executor).journal =
    stopCalls executor (before.nodes executor).journal
  timers : ∀ timer ∈ after.timers, timer ∈ before.timers ∨ lock.ref < timer.mutex.ref

/-- `processInternal` runs under the lock and has `rest` to do. -/
structure InBody (mayUse : Identifier → Prop) (executor : String) (lock : Mutex)
    (rest : JobProgram Unit) (cluster : Cluster) : Prop where
  inside : inBody (cluster.nodes executor).journal = true
  recorded : (cluster.nodes executor).singleConsumerLock = some lock
  fresh : lock.ref < cluster.constructed
  follows : ∃ built, rest.Follows (subclassContract mayUse) built (fun _ _ => True) ∧
    ∀ ref ∈ built, lock.ref < ref

section Execute

variable {mayUse : Identifier → Prop} {executor : String} {lock : Mutex}
variable {before middle after cluster : Cluster} {environment : Environment}

theorem Affects.refl (mayUse : Identifier → Prop) (executor : String) (cluster : Cluster) :
    Affects mayUse executor cluster cluster :=
  ⟨rfl, Nat.le_refl _, fun _ _ => rfl, fun _ member _ => member, fun _ _ _ held => held⟩

theorem Affects.trans (first : Affects mayUse executor before middle)
    (second : Affects mayUse executor middle after) : Affects mayUse executor before after where
  now := second.now.trans first.now
  constructed := Nat.le_trans first.constructed second.constructed
  nodes other different := (second.nodes other different).trans (first.nodes other different)
  timers timer member foreign :=
    first.timers timer (second.timers timer member foreign) foreign
  gives key identifier forbidden held :=
    first.gives key identifier forbidden (second.gives key identifier forbidden held)

theorem Affects.mono {more : Identifier → Prop} (affects : Affects mayUse executor before after)
    (implies : ∀ identifier, mayUse identifier → more identifier) :
    Affects more executor before after :=
  { affects with
    gives := fun key identifier forbidden =>
      affects.gives key identifier fun permitted => forbidden (implies identifier permitted) }

theorem Within.refl (executor : String) (lock : Mutex) (cluster : Cluster) :
    Within executor lock cluster cluster :=
  ⟨rfl, rfl, rfl, fun stopped => stopped, rfl, fun _ member => .inl member⟩

theorem Within.trans (first : Within executor lock before middle)
    (second : Within executor lock middle after) : Within executor lock before after where
  live := second.live.trans first.live
  calls := second.calls.trans first.calls
  recorded := second.recorded.trans first.recorded
  scheduler stopped := second.scheduler (first.scheduler stopped)
  stops := second.stops.trans first.stops
  timers timer member := by
    rcases second.timers timer member with earlier | newer
    · exact first.timers timer earlier
    · exact .inr newer

theorem affects_reply {Value : Type} {identifier : Identifier}
    {store : LeaseStore String Identifier} {value : Value}
    (permitted : mayUse identifier)
    (owned : OwnedBy identifier cluster.now cluster.locks store) :
    Affects mayUse executor cluster (cluster.reply environment store value).1 := by
  have written : Affects mayUse executor cluster { cluster with locks := store } := by
    refine ⟨rfl, Nat.le_refl _, fun _ _ => rfl, fun _ member _ => member, ?_⟩
    intro key other forbidden held
    apply owned.gives key other _ held
    rintro rfl
    exact forbidden permitted
  rcases reply_cases cluster environment store value with answered | ⟨error, rejected | lost⟩
  · rw [answered]
    exact written
  · rw [rejected]
    exact .refl mayUse executor cluster
  · rw [lost]
    exact written

theorem affects_setNode (node : NodeState) :
    Affects mayUse executor cluster (cluster.setNode executor node) :=
  ⟨rfl, Nat.le_refl _, fun _ different => Function.update_of_ne different _ _,
    fun _ member _ => member, fun _ _ _ held => held⟩

theorem affects_construct :
    Affects mayUse executor cluster { cluster with constructed := cluster.constructed + 1 } :=
  ⟨rfl, Nat.le_succ _, fun _ _ => rfl, fun _ member _ => member, fun _ _ _ held => held⟩

/-- A command acts on the lock store under its own identifier only. -/
theorem affects_execute {command : Command}
    (permitted : ∀ identifier ∈ command.lockIdentifier, mayUse identifier) :
    Affects mayUse executor cluster (cluster.execute executor environment command).1 := by
  cases command with
  | setNx mutex =>
      by_cases zero : mutex.lockTimeout = 0
      · rw [execute_setNx_of_zero zero]
        exact .refl mayUse executor cluster
      · rw [execute_setNx_of_ne_zero zero]
        exact affects_reply (permitted _ rfl) (claim_ownedBy _ _ _ _ _)
  | refresh mutex => exact affects_reply (permitted _ rfl) (renew_ownedBy _ _ _ _ _)
  | delete mutex => exact affects_reply (permitted _ rfl) (release_ownedBy _ _ _ _)
  | construct => exact affects_construct
  | startRefresh mutex =>
      refine ⟨rfl, Nat.le_refl _, fun _ _ => rfl, fun timer member foreign => ?_,
        fun _ _ _ held => held⟩
      rcases List.mem_cons.mp member with rfl | earlier
      · exact absurd rfl foreign
      · exact earlier
  | stopRefresh mutex =>
      exact ⟨rfl, Nat.le_refl _, fun _ _ => rfl,
        fun timer member _ => List.mem_of_mem_filter member, fun _ _ _ held => held⟩
  | getSingleConsumerLock => exact .refl mayUse executor cluster
  | setSingleConsumerLock written => exact affects_setNode _
  | observabilityStart jobId executionUuid => exact affects_setNode _
  | report error executorId => exact affects_setNode _
  | stopScheduler => exact affects_setNode _
  | record event => exact affects_setNode _
  | perform task => exact affects_setNode _

theorem stopCalls_cons_of_inBody {event : Event} {instant : Nat}
    {journal : List (Nat × Event)} (inside : inBody journal = true) :
    stopCalls executor ((instant, event) :: journal) = stopCalls executor journal := by
  simp [stopCalls, inside]

/-- What a body notes does not count, and it stays in the body. -/
theorem within_recordEvent {event : Event}
    (uncounted : stopCalls executor ((cluster.now, event) :: (cluster.nodes executor).journal) =
      stopCalls executor (cluster.nodes executor).journal) :
    Within executor lock cluster (cluster.recordEvent executor event) where
  live := by simp [recordEvent, setNode]
  calls := by simp [recordEvent, setNode]
  recorded := by simp
  scheduler := by simp [recordEvent, setNode]
  stops := by simpa using uncounted
  timers _ member := .inl member

theorem within_of_nodes (nodes : after.nodes = before.nodes)
    (timers : ∀ timer ∈ after.timers, timer ∈ before.timers ∨ lock.ref < timer.mutex.ref) :
    Within executor lock before after := by
  constructor <;> first | exact timers | simp [nodes]

theorem execute_nodes_of_redis {command : Command}
    (redis : command.lockIdentifier ≠ none) :
    (cluster.execute executor environment command).1.nodes = cluster.nodes ∧
      (cluster.execute executor environment command).1.timers = cluster.timers := by
  cases command with
  | setNx mutex => simp only [execute]; split <;> simp
  | refresh mutex => simp [execute]
  | delete mutex => simp [execute]
  | _ => exact absurd rfl redis

/-- What `processInternal` does leaves the lock of its call alone. -/
theorem within_execute {command : Command} {built : List Nat}
    (allowed : (subclassContract mayUse).allows built command)
    (younger : ∀ ref ∈ built, lock.ref < ref)
    (inside : inBody (cluster.nodes executor).journal = true) :
    Within executor lock cluster (cluster.execute executor environment command).1 ∧
      inBody ((cluster.execute executor environment command).1.nodes executor).journal =
        true := by
  have redis (same : (cluster.execute executor environment command).1.nodes = cluster.nodes ∧
      (cluster.execute executor environment command).1.timers = cluster.timers) :
      Within executor lock cluster (cluster.execute executor environment command).1 ∧
        inBody ((cluster.execute executor environment command).1.nodes executor).journal =
          true := by
    constructor
    · apply within_of_nodes same.1
      rw [same.2]
      exact fun _ member => .inl member
    · rw [same.1]
      exact inside
  have notes (event : Event)
      (mark : ∀ instant journal, inBody ((instant, event) :: journal) = inBody journal) :
      Within executor lock cluster (cluster.recordEvent executor event) ∧
        inBody ((cluster.recordEvent executor event).nodes executor).journal = true := by
    constructor
    · exact within_recordEvent (stopCalls_cons_of_inBody inside)
    · rw [recordEvent_journal, mark]
      exact inside
  cases command with
  | setNx mutex => exact redis (execute_nodes_of_redis (Option.some_ne_none _))
  | refresh mutex => exact redis (execute_nodes_of_redis (Option.some_ne_none _))
  | delete mutex => exact redis (execute_nodes_of_redis (Option.some_ne_none _))
  | construct => exact ⟨within_of_nodes rfl fun _ member => .inl member, inside⟩
  | startRefresh mutex =>
      refine ⟨within_of_nodes rfl fun timer member => ?_, inside⟩
      rcases List.mem_cons.mp member with rfl | earlier
      · exact .inr (younger mutex.ref allowed)
      · exact .inl earlier
  | stopRefresh mutex =>
      exact ⟨within_of_nodes rfl fun _ member => .inl (List.mem_of_mem_filter member), inside⟩
  | getSingleConsumerLock => exact allowed.elim
  | setSingleConsumerLock written => exact allowed.elim
  | observabilityStart jobId executionUuid => exact notes _ fun _ _ => rfl
  | report error executorId => exact notes _ fun _ _ => rfl
  | perform task => exact notes _ fun _ _ => rfl
  | record event => exact notes event (inBody_cons_of_plain allowed)
  | stopScheduler =>
      constructor
      · refine ⟨?_, ?_, ?_, ?_, ?_, fun _ member => .inl member⟩ <;> simp [execute, setNode]
      · simpa [execute, setNode] using inside

theorem subclassContract_lockIdentifier {command : Command} {built : List Nat}
    (allowed : (subclassContract mayUse).allows built command) :
    ∀ identifier ∈ command.lockIdentifier, mayUse identifier := by
  intro identifier member
  cases command with
  | setNx mutex => cases member; exact allowed.2
  | refresh mutex => cases member; exact allowed.2
  | delete mutex => cases member; exact allowed.2
  | _ => cases member

variable (environment) in
/-- One command of `processInternal`. -/
theorem InBody.execute {command : Command}
    {next : Except Thrown command.Answer → JobProgram Unit}
    (body : InBody mayUse executor lock (.call command next) cluster) :
    InBody mayUse executor lock (next (cluster.execute executor environment command).2)
        (cluster.execute executor environment command).1 ∧
      Within executor lock cluster (cluster.execute executor environment command).1 ∧
      Affects mayUse executor cluster (cluster.execute executor environment command).1 := by
  obtain ⟨built, ⟨allowed, continues⟩, younger⟩ := body.follows
  have affects : Affects mayUse executor cluster
      (cluster.execute executor environment command).1 :=
    affects_execute (subclassContract_lockIdentifier allowed)
  obtain ⟨within, inside⟩ := within_execute allowed younger body.inside
  refine ⟨⟨inside, within.recorded.trans body.recorded,
    Nat.lt_of_lt_of_le body.fresh affects.constructed, ?_⟩, within, affects⟩
  cases command with
  | construct =>
      refine ⟨cluster.constructed :: built, continues _ _ rfl, ?_⟩
      intro ref member
      rcases List.mem_cons.mp member with rfl | earlier
      · exact body.fresh
      · exact younger ref earlier
  | _ => exact ⟨built, continues _ _ (by rfl), younger⟩

end Execute

/-- What the suspension of a call leaves alone: everything but what the call
waits for. -/
structure Suspends (executor : String) (call : Call) (waiting : Option (JobProgram Unit))
    (before after : Cluster) : Prop where
  now : after.now = before.now
  locks : after.locks = before.locks
  timers : after.timers = before.timers
  constructed : after.constructed = before.constructed
  nodes : ∀ other, other ≠ executor → after.nodes other = before.nodes other
  live : (after.nodes executor).live = (before.nodes executor).live
  calls : (after.nodes executor).calls =
    Function.update (before.nodes executor).calls call waiting
  recorded : (after.nodes executor).singleConsumerLock =
    (before.nodes executor).singleConsumerLock
  scheduler : (after.nodes executor).schedulerStopped =
    (before.nodes executor).schedulerStopped
  body : inBody (after.nodes executor).journal = inBody (before.nodes executor).journal
  stops : stopCalls executor (after.nodes executor).journal =
    stopCalls executor (before.nodes executor).journal

theorem suspends_suspend (cluster : Cluster) (executor : String) (call : Call)
    (program : JobProgram Unit) :
    Suspends executor call (remaining program) cluster
      (cluster.suspend executor call program) := by
  have others {node : NodeState} (changed : Cluster)
      (same : ∀ other, other ≠ executor → changed.nodes other = cluster.nodes other)
      (other : String) (different : other ≠ executor) :
      (changed.setNode executor node).nodes other = cluster.nodes other :=
    (Function.update_of_ne different _ _).trans (same other different)
  cases program with
  | call command next =>
      refine ⟨rfl, rfl, rfl, rfl, others cluster fun _ _ => rfl, ?_, ?_, ?_, ?_, ?_, ?_⟩ <;>
        simp [suspend, setNode, remaining]
  | done value =>
      refine ⟨rfl, rfl, rfl, rfl, others _ (others cluster fun _ _ => rfl),
          ?_, ?_, ?_, ?_, ?_, ?_⟩ <;>
        simp [suspend, setNode, remaining, recordEvent, inBody, stopCalls]
  | fail error =>
      refine ⟨rfl, rfl, rfl, rfl, others _ (others cluster fun _ _ => rfl),
          ?_, ?_, ?_, ?_, ?_, ?_⟩ <;>
        simp [suspend, setNode, remaining, recordEvent, inBody, stopCalls]

/-- What a phase says about the cluster. -/
def ProcessPhase.Holds (mayUse : Identifier → Prop) (executor : String) (cluster : Cluster) :
    ProcessPhase → Prop
  | .idle => inBody (cluster.nodes executor).journal = false
  | .asking ref | .retrying ref =>
      inBody (cluster.nodes executor).journal = false ∧ ref < cluster.constructed
  | .executing lock rest =>
      InBody mayUse executor lock rest cluster ∧
        ∃ command next, rest = .call command next ∧ command.awaited = true
  | .renewing lock ref _ =>
      inBody (cluster.nodes executor).journal = false ∧
        (cluster.nodes executor).singleConsumerLock = some lock ∧
        lock.ref < ref ∧ ref < cluster.constructed

/-! ## The code under the lock -/

section Advance

variable {job : AbstractPeriodicJob} {mayUse : Identifier → Prop} {executor : String}
variable {call : Call} {environment : Environment} {lock : Mutex} {cluster next : Cluster}

theorem advance_issue (command : Command) {rest : command.Answer → JobProgram Unit}
    {value : command.Answer} (atOnce : command.awaited = false)
    (answers : (cluster.execute executor environment command).2 = .ok value) :
    cluster.advance executor call environment ((issue command).bind rest) =
      (cluster.execute executor environment command).1.advance executor call environment
        (rest value) := by
  show cluster.advance executor call environment (.call command _) = _
  rw [advance_of_now command atOnce, answers]
  rfl

theorem suspends_of_issue {command : Command} {rest : command.Answer → JobProgram Unit}
    (awaited : command.awaited = true) :
    Suspends executor call (some ((issue command).bind rest)) cluster
      (cluster.advance executor call environment ((issue command).bind rest)) := by
  show Suspends _ _ _ cluster (cluster.advance _ _ _ (.call command _))
  rw [advance_of_awaited awaited]
  exact suspends_suspend cluster executor call (.call command _)

/-- The code under the lock has come to its next awaited command. -/
def RestsUnderLock (job : AbstractPeriodicJob) (mayUse : Identifier → Prop)
    (executor : String) (lock : Mutex) (environment : Environment)
    (before next : Cluster) : Prop :=
  ∃ phase middle, ProcessPhase.lock phase = some lock ∧
    phase.Holds mayUse executor middle ∧
    Within executor lock before middle ∧ Affects mayUse executor before middle ∧
    Suspends executor .process (phase.waitsFor job executor) middle next ∧
    (environment.reportThrows = none → phase.outcome = .ok ())

theorem RestsUnderLock.after {before : Cluster}
    (rests : RestsUnderLock job mayUse executor lock environment cluster next)
    (within : Within executor lock before cluster)
    (affects : Affects mayUse executor before cluster) :
    RestsUnderLock job mayUse executor lock environment before next := by
  obtain ⟨phase, middle, locked, holds, more, moreAffects, suspends, harmless⟩ := rests
  exact ⟨phase, middle, locked, holds, within.trans more, affects.trans moreAffects, suspends,
    harmless⟩

/-- The call has left `processInternal` and the block that reports its error. -/
theorem rests_of_settling {outcome : Except Thrown Unit}
    (outside : inBody (cluster.nodes executor).journal = false)
    (recorded : (cluster.nodes executor).singleConsumerLock = some lock)
    (fresh : lock.ref < cluster.constructed)
    (harmless : environment.reportThrows = none → outcome = .ok ()) :
    RestsUnderLock job mayUse executor lock environment cluster
      (cluster.advance executor .process environment (job.settling executor outcome)) := by
  refine ⟨.renewing lock cluster.constructed outcome,
    { cluster with constructed := cluster.constructed + 1 }, rfl,
    ⟨outside, recorded, fresh, Nat.lt_succ_self _⟩,
    within_of_nodes rfl fun _ member => .inl member,
    affects_construct, ?_, harmless⟩
  rw [job.settling_eq, advance_issue .getSingleConsumerLock rfl (congrArg Except.ok recorded),
    advance_issue .construct rfl rfl]
  exact suspends_of_issue rfl

/-- The code under the lock notes an event. -/
theorem RestsUnderLock.of_recordEvent {event : Event}
    (uncounted : event ≠ .observabilityStop executor)
    (rests : RestsUnderLock job mayUse executor lock environment
      (cluster.recordEvent executor event) next) :
    RestsUnderLock job mayUse executor lock environment cluster next := by
  apply rests.after
  · apply within_recordEvent
    simp [stopCalls, uncounted]
  · exact affects_setNode _

/-- The `catch` block, which may itself throw. -/
theorem rests_of_catch (error : Thrown)
    (outside : inBody (cluster.nodes executor).journal = false)
    (recorded : (cluster.nodes executor).singleConsumerLock = some lock)
    (fresh : lock.ref < cluster.constructed) :
    RestsUnderLock job mayUse executor lock environment cluster
      (cluster.advance executor .process environment
        ((AbstractPeriodicJob.catchBlock executor error).tryFinally
          (job.finallyBlock executor))) := by
  let message : Event := .log .error "Error during periodic job execution" (some error)
  let logged := cluster.recordEvent executor message
  have outsideLogged : inBody (logged.nodes executor).journal = false := by
    rw [recordEvent_journal]
    exact outside
  have recordedLogged : (logged.nodes executor).singleConsumerLock = some lock := by
    rw [recordEvent_singleConsumerLock, recorded]
  show RestsUnderLock _ _ _ _ _ cluster (cluster.advance _ _ _ (.call (.record message) _))
  rw [advance_of_now (.record message) rfl]
  refine RestsUnderLock.of_recordEvent (Event.noConfusion : message ≠ _) ?_
  cases error with
  | value text =>
      have settles : RestsUnderLock job mayUse executor lock environment logged
          (logged.advance executor .process environment (job.settling executor (.ok ()))) :=
        rests_of_settling outsideLogged recordedLogged fresh fun _ => rfl
      exact settles
  | error text =>
      let reported := logged.recordEvent executor (.report (.error text) executor)
      have outsideReported : inBody (reported.nodes executor).journal = false := by
        rw [recordEvent_journal]
        exact outsideLogged
      have recordedReported : (reported.nodes executor).singleConsumerLock = some lock := by
        rw [recordEvent_singleConsumerLock, recordedLogged]
      show RestsUnderLock _ _ _ _ _ logged (logged.advance _ _ _ (.call (.report _ _) _))
      rw [advance_of_now (.report (.error text) executor) rfl]
      refine RestsUnderLock.of_recordEvent
        (Event.noConfusion : Event.report (.error text) executor ≠ _) ?_
      simp only [execute]
      cases throws : environment.reportThrows with
      | none =>
          have settles : RestsUnderLock job mayUse executor lock environment reported
              (reported.advance executor .process environment (job.settling executor (.ok ()))) :=
            rests_of_settling outsideReported recordedReported fresh fun _ => rfl
          exact settles
      | some error =>
          have settles : RestsUnderLock job mayUse executor lock environment reported
              (reported.advance executor .process environment
                (job.settling executor (.error error))) := by
            refine rests_of_settling outsideReported recordedReported fresh fun returns => ?_
            rw [throws] at returns
            cases returns
          exact settles

/-- `processInternal` goes on up to its next awaited command, or settles. -/
theorem rests_of_body {rest : JobProgram Unit} (body : InBody mayUse executor lock rest cluster) :
    RestsUnderLock job mayUse executor lock environment cluster
      (cluster.advance executor .process environment (job.bodyRest executor rest)) := by
  induction rest generalizing cluster with
  | done value =>
      show RestsUnderLock _ _ _ _ _ cluster (cluster.advance _ _ _ (.call (.record .bodySettled) _))
      rw [advance_of_now (.record .bodySettled) rfl]
      refine RestsUnderLock.of_recordEvent (Event.noConfusion : Event.bodySettled ≠ _) ?_
      let settled := cluster.recordEvent executor .bodySettled
      have settles : RestsUnderLock job mayUse executor lock environment settled
          (settled.advance executor .process environment (job.settling executor (.ok ()))) := by
        apply rests_of_settling
        · rw [recordEvent_journal]
          rfl
        · rw [recordEvent_singleConsumerLock, body.recorded]
        · exact body.fresh
        · exact fun _ => rfl
      exact settles
  | fail error =>
      show RestsUnderLock _ _ _ _ _ cluster (cluster.advance _ _ _ (.call (.record .bodySettled) _))
      rw [advance_of_now (.record .bodySettled) rfl]
      refine RestsUnderLock.of_recordEvent (Event.noConfusion : Event.bodySettled ≠ _) ?_
      apply rests_of_catch error
      · rw [recordEvent_journal]
        rfl
      · rw [recordEvent_singleConsumerLock, body.recorded]
      · exact body.fresh
  | call command next ih =>
      cases awaited : command.awaited with
      | true =>
          refine ⟨.executing lock (.call command next), cluster, rfl,
            ⟨body, command, next, rfl, awaited⟩, .refl executor lock cluster,
            .refl mayUse executor cluster, ?_, fun _ => rfl⟩
          show Suspends _ _ _ cluster (cluster.advance _ _ _ (.call command _))
          rw [advance_of_awaited awaited]
          exact suspends_suspend cluster executor .process (.call command _)
      | false =>
          obtain ⟨continues, within, affects⟩ := body.execute environment
          show RestsUnderLock _ _ _ _ _ cluster (cluster.advance _ _ _ (.call command _))
          rw [advance_of_now command awaited]
          exact (ih _ continues).after within affects

/-- `processInternal` is called. -/
theorem rests_of_bodyCall
    (follows : (job.processInternal executor).Follows (subclassContract mayUse) []
      fun _ _ => True)
    (recorded : (cluster.nodes executor).singleConsumerLock = some lock)
    (fresh : lock.ref < cluster.constructed) :
    RestsUnderLock job mayUse executor lock environment cluster
      (cluster.advance executor .process environment
        ((((issue (.record .bodyCalled)).bind fun _ =>
            (job.processInternal executor).tryFinally (issue (.record .bodySettled))).tryCatch
              (AbstractPeriodicJob.catchBlock executor)).tryFinally
                (job.finallyBlock executor))) := by
  show RestsUnderLock _ _ _ _ _ cluster (cluster.advance _ _ _ (.call (.record .bodyCalled) _))
  rw [advance_of_now (.record .bodyCalled) rfl]
  refine RestsUnderLock.of_recordEvent (Event.noConfusion : Event.bodyCalled ≠ _) ?_
  apply rests_of_body
  exact
    { inside := by
        rw [recordEvent_journal]
        rfl
      recorded := by rw [recordEvent_singleConsumerLock, recorded]
      fresh := fresh
      follows := ⟨[], follows, fun ref member => by cases member⟩ }

/-- A call that has got the lock observes the transaction and runs its body. -/
theorem rests_of_execute
    (follows : (job.processInternal executor).Follows (subclassContract mayUse) []
      fun _ _ => True)
    (outside : inBody (cluster.nodes executor).journal = false)
    (recorded : (cluster.nodes executor).singleConsumerLock = some lock)
    (fresh : lock.ref < cluster.constructed) :
    RestsUnderLock job mayUse executor lock environment cluster
      (cluster.advance executor .process environment (job.execute executor)) := by
  let start : Event := .observabilityStart job.options.jobId executor
  let started := cluster.recordEvent executor start
  have outsideStarted : inBody (started.nodes executor).journal = false := by
    rw [recordEvent_journal]
    exact outside
  have recordedStarted : (started.nodes executor).singleConsumerLock = some lock := by
    rw [recordEvent_singleConsumerLock, recorded]
  show RestsUnderLock _ _ _ _ _ cluster (cluster.advance _ _ _ (.call (.observabilityStart _ _) _))
  rw [advance_of_now (.observabilityStart job.options.jobId executor) rfl]
  refine RestsUnderLock.of_recordEvent (Event.noConfusion : start ≠ _) ?_
  simp only [execute]
  cases environment.startThrows with
  | some error => exact rests_of_catch error outsideStarted recordedStarted fresh
  | none =>
      by_cases logs : job.options.shouldLogExecution = true
      · let message : Event := .log .info "Periodic job started" none
        have recordedLogged : ((started.recordEvent executor message).nodes
            executor).singleConsumerLock = some lock := by
          rw [recordEvent_singleConsumerLock, recordedStarted]
        simp only [logs, if_true]
        show RestsUnderLock _ _ _ _ _ started (started.advance _ _ _ (.call (.record message) _))
        rw [advance_of_now (.record message) rfl]
        refine RestsUnderLock.of_recordEvent (Event.noConfusion : message ≠ _) ?_
        exact rests_of_bodyCall follows recordedLogged fresh
      · simp only [logs]
        exact rests_of_bodyCall follows recordedStarted fresh

end Advance

end ServiceTemplate.Jobs
