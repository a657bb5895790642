import ServiceTemplate.Jobs.UnderLock

/-!
# The steps of one call of `process`

What one step of a call does to its phase, to the recorded lock, to the refresh
timers and to the exclusive key, whatever its environment decides.
-/

namespace ServiceTemplate.Jobs

open LeaseStore Program Cluster

/-- Neither the recorded lock nor a timer has changed. -/
structure Quiet (executor : String) (before after : Cluster) : Prop where
  recorded : (after.nodes executor).singleConsumerLock =
    (before.nodes executor).singleConsumerLock
  timers : after.timers = before.timers
  stops : stopCalls executor (after.nodes executor).journal =
    stopCalls executor (before.nodes executor).journal

/-- The executor has not been given the exclusive key. -/
def Ungiven (options : JobOptions) (executor : String) (before after : Cluster) : Prop :=
  after.locks.holder after.now options.exclusiveKey = some (.given executor) →
    before.locks.holder before.now options.exclusiveKey = some (.given executor)

/-- One step of a call, with the phases before and after it. -/
inductive ProcessStep (job : AbstractPeriodicJob) (mayUse : Identifier → Prop)
    (executor : String) (environment : Environment) (cluster next : Cluster) :
    ProcessPhase → ProcessPhase → Prop
  | begin (quiet : Quiet executor cluster next)
      (ungiven : Ungiven job.options executor cluster next) :
      ProcessStep job mayUse executor environment cluster next .idle (.asking cluster.constructed)
  | refuse (ref : Nat) (quiet : Quiet executor cluster next)
      (ungiven : Ungiven job.options executor cluster next) :
      ProcessStep job mayUse executor environment cluster next (.asking ref)
        (.retrying cluster.constructed)
  /-- an attempt to get the lock has failed -/
  | fail (phase : ProcessPhase) (attempting : phase.lock = none)
      (quiet : Quiet executor cluster next)
      (ungiven : environment.redis = .answered → Ungiven job.options executor cluster next) :
      ProcessStep job mayUse executor environment cluster next phase .idle
  /-- the second attempt is refused -/
  | skip (ref : Nat) (recorded : (next.nodes executor).singleConsumerLock = none)
      (timers : next.timers = cluster.timers)
      (stops : stopCalls executor (next.nodes executor).journal =
        stopCalls executor (cluster.nodes executor).journal)
      (free : next.locks.holder next.now job.options.exclusiveKey ≠ some (.given executor)) :
      ProcessStep job mayUse executor environment cluster next (.retrying ref) .idle
  /-- the lock is got and recorded -/
  | enter (phase later : ProcessPhase) (ref : Nat) (external : Bool)
      (attempting : phase = .asking ref ∨ phase = .retrying ref)
      (locked : later.lock = some (job.lockMutex executor ref external))
      (recorded : (next.nodes executor).singleConsumerLock =
        some (job.lockMutex executor ref external))
      (timers : ∀ timer ∈ next.timers, timer ∈ cluster.timers ∨
        timer.mutex = job.lockMutex executor ref external ∨ ref < timer.mutex.ref)
      (stops : stopCalls executor (next.nodes executor).journal =
        stopCalls executor (cluster.nodes executor).journal)
      (harmless : environment.reportThrows = none → later.outcome = .ok ()) :
      ProcessStep job mayUse executor environment cluster next phase later
  /-- `processInternal` goes on or settles -/
  | proceed (lock : Mutex) (rest : JobProgram Unit) (later : ProcessPhase)
      (locked : later.lock = some lock)
      (recorded : (next.nodes executor).singleConsumerLock =
        (cluster.nodes executor).singleConsumerLock)
      (timers : ∀ timer ∈ next.timers, timer ∈ cluster.timers ∨ lock.ref < timer.mutex.ref)
      (stops : stopCalls executor (next.nodes executor).journal =
        stopCalls executor (cluster.nodes executor).journal)
      (harmless : environment.reportThrows = none → later.outcome = .ok ())
      (ungiven : ¬ mayUse (.given executor) → Ungiven job.options executor cluster next) :
      ProcessStep job mayUse executor environment cluster next (.executing lock rest) later
  /-- the `finally` block runs to its end -/
  | close (lock : Mutex) (ref : Nat) (outcome : Except Thrown Unit)
      (answered : environment.redis = .answered)
      (recorded : (next.nodes executor).singleConsumerLock =
        (cluster.nodes executor).singleConsumerLock)
      (timers : ∀ timer ∈ next.timers, (timer ∈ cluster.timers ∨ timer.mutex.ref = ref) ∧
        ¬ (timer.owner = executor ∧ timer.mutex = lock))
      (ungiven : Ungiven job.options executor cluster next)
      (stops : stopCalls executor (next.nodes executor).journal =
        stopCalls executor (cluster.nodes executor).journal + 1)
      (settles : outcome = .ok () →
        (next.nodes executor).journal.head? = some (next.now, .callSettled none)) :
      ProcessStep job mayUse executor environment cluster next (.renewing lock ref outcome) .idle
  /-- the command of `updateMutex` fails -/
  | abandon (lock : Mutex) (ref : Nat) (outcome : Except Thrown Unit)
      (unanswered : environment.redis ≠ .answered) (quiet : Quiet executor cluster next)
      (ungiven : Ungiven job.options executor cluster next) :
      ProcessStep job mayUse executor environment cluster next (.renewing lock ref outcome) .idle

/-- A call has come to rest in a phase. -/
structure ComesToRest (job : AbstractPeriodicJob) (mayUse : Identifier → Prop)
    (executor : String) (later : ProcessPhase) (cluster next : Cluster) : Prop where
  waits : (next.nodes executor).calls .process = later.waitsFor job executor
  holds : later.Holds mayUse executor next
  affects : Affects (OwnOr executor mayUse) executor cluster next
  live : (next.nodes executor).live = (cluster.nodes executor).live
  disposing : (next.nodes executor).calls .dispose = (cluster.nodes executor).calls .dispose
  scheduler : (cluster.nodes executor).schedulerStopped = true →
    (next.nodes executor).schedulerStopped = true

/-- The outcome of a step of a call. -/
def Proceeds (job : AbstractPeriodicJob) (mayUse : Identifier → Prop) (executor : String)
    (environment : Environment) (phase : ProcessPhase) (cluster next : Cluster) : Prop :=
  ∃ later, ProcessStep job mayUse executor environment cluster next phase later ∧
    ComesToRest job mayUse executor later cluster next

section Suspended

variable {job : AbstractPeriodicJob} {mayUse : Identifier → Prop} {executor : String}
variable {call : Call} {waiting : Option (JobProgram Unit)} {before middle next : Cluster}

/-- A phase speaks about the journal, the recorded lock and the mutexes built. -/
theorem ProcessPhase.Holds.of_same {phase : ProcessPhase}
    (holds : phase.Holds mayUse executor before)
    (body : inBody (next.nodes executor).journal = inBody (before.nodes executor).journal)
    (recorded : (next.nodes executor).singleConsumerLock =
      (before.nodes executor).singleConsumerLock)
    (constructed : before.constructed ≤ next.constructed) :
    phase.Holds mayUse executor next := by
  cases phase with
  | idle => exact body.trans holds
  | asking ref => exact ⟨body.trans holds.1, Nat.lt_of_lt_of_le holds.2 constructed⟩
  | retrying ref => exact ⟨body.trans holds.1, Nat.lt_of_lt_of_le holds.2 constructed⟩
  | executing lock rest =>
      obtain ⟨inside, awaits⟩ := holds
      exact ⟨⟨body.trans inside.inside, recorded.trans inside.recorded,
        Nat.lt_of_lt_of_le inside.fresh constructed, inside.follows⟩, awaits⟩
  | renewing lock ref outcome =>
      obtain ⟨outside, isRecorded, older, fresh⟩ := holds
      exact ⟨body.trans outside, recorded.trans isRecorded, older,
        Nat.lt_of_lt_of_le fresh constructed⟩

theorem ProcessPhase.Holds.suspends {phase : ProcessPhase}
    (holds : phase.Holds mayUse executor middle)
    (suspends : Suspends executor call waiting middle next) :
    phase.Holds mayUse executor next :=
  holds.of_same suspends.body suspends.recorded (Nat.le_of_eq suspends.constructed.symm)

theorem Affects.suspends (affects : Affects mayUse executor before middle)
    (suspends : Suspends executor call waiting middle next) :
    Affects mayUse executor before next where
  now := suspends.now.trans affects.now
  constructed := by
    rw [suspends.constructed]
    exact affects.constructed
  nodes other different := (suspends.nodes other different).trans (affects.nodes other different)
  timers := by
    rw [suspends.timers]
    exact affects.timers
  gives := by
    rw [suspends.locks, suspends.now]
    exact affects.gives

/-- What has changed before a call comes to rest. -/
structure Leads (mayUse : Identifier → Prop) (executor : String) (before after : Cluster) :
    Prop where
  affects : Affects (OwnOr executor mayUse) executor before after
  live : (after.nodes executor).live = (before.nodes executor).live
  calls : (after.nodes executor).calls = (before.nodes executor).calls
  scheduler : (before.nodes executor).schedulerStopped = true →
    (after.nodes executor).schedulerStopped = true

theorem Leads.comesToRest {later : ProcessPhase} (leads : Leads mayUse executor before middle)
    (holds : later.Holds mayUse executor middle)
    (suspends : Suspends executor .process (later.waitsFor job executor) middle next) :
    ComesToRest job mayUse executor later before next where
  waits := by rw [suspends.calls, Function.update_self]
  holds := holds.suspends suspends
  affects := leads.affects.suspends suspends
  live := suspends.live.trans leads.live
  disposing := by
    rw [suspends.calls, Function.update_of_ne (by decide), leads.calls]
  scheduler stopped := suspends.scheduler.trans (leads.scheduler stopped)

theorem Leads.refl (mayUse : Identifier → Prop) (executor : String) (cluster : Cluster) :
    Leads mayUse executor cluster cluster :=
  ⟨.refl _ executor cluster, rfl, rfl, fun stopped => stopped⟩

theorem Leads.trans {after : Cluster} (first : Leads mayUse executor before middle)
    (second : Leads mayUse executor middle after) : Leads mayUse executor before after :=
  ⟨first.affects.trans second.affects, second.live.trans first.live,
    second.calls.trans first.calls, fun stopped => second.scheduler (first.scheduler stopped)⟩

end Suspended

section Steps

variable {job : AbstractPeriodicJob} {mayUse : Identifier → Prop} {executor : String}
variable {environment : Environment} {cluster next : Cluster}

theorem Leads.of_within {lock : Mutex} {after : Cluster}
    (within : Within executor lock cluster after)
    (affects : Affects mayUse executor cluster after) : Leads mayUse executor cluster after :=
  ⟨affects.mono fun _ => .inr, within.live, within.calls, within.scheduler⟩

/-- A Redis command under the identifier of the executor. -/
theorem leads_of_redis {command : Command}
    (own : command.lockIdentifier = some (.given executor)) :
    Leads mayUse executor cluster (cluster.execute executor environment command).1 := by
  have redis : command.lockIdentifier ≠ none := by rw [own]; exact Option.some_ne_none _
  have nodes : (cluster.execute executor environment command).1.nodes = cluster.nodes :=
    (execute_nodes_of_redis redis).1
  refine ⟨affects_execute fun identifier member => ?_, ?_, ?_, ?_⟩
  · rw [own] at member
    cases member
    exact Or.inl rfl
  all_goals simp [nodes]

/-- The lock has been got: its timer is started, and it is recorded. -/
theorem enters_of_attempt {lock : Mutex} {rest : Bool → JobProgram Unit}
    (wins : rest true = job.won executor lock)
    (follows : (job.processInternal executor).Follows (subclassContract mayUse) []
      fun _ _ => True)
    (outside : inBody (cluster.nodes executor).journal = false)
    (fresh : lock.ref < cluster.constructed) :
    ∃ entered, Leads mayUse executor cluster entered ∧
      (entered.nodes executor).singleConsumerLock = some lock ∧
      (∀ timer ∈ entered.timers, timer ∈ cluster.timers ∨ timer.mutex = lock) ∧
      (entered.nodes executor).journal = (cluster.nodes executor).journal ∧
      RestsUnderLock job mayUse executor lock environment entered
        (cluster.advance executor .process environment (lock.afterAttempt rest true)) := by
  have records (timed : Cluster) (leads : Leads mayUse executor cluster timed)
      (journal : (timed.nodes executor).journal = (cluster.nodes executor).journal)
      (timers : ∀ timer ∈ timed.timers, timer ∈ cluster.timers ∨ timer.mutex = lock) :
      ∃ entered, Leads mayUse executor cluster entered ∧
        (entered.nodes executor).singleConsumerLock = some lock ∧
        (∀ timer ∈ entered.timers, timer ∈ cluster.timers ∨ timer.mutex = lock) ∧
        (entered.nodes executor).journal = (cluster.nodes executor).journal ∧
        RestsUnderLock job mayUse executor lock environment entered
          (timed.advance executor .process environment (job.won executor lock)) := by
    let entered := timed.setNode executor
      { timed.nodes executor with singleConsumerLock := some lock }
    have recorded : (entered.nodes executor).singleConsumerLock = some lock := by
      simp [entered, setNode]
    have sameJournal : (entered.nodes executor).journal = (cluster.nodes executor).journal := by
      simpa [entered, setNode] using journal
    refine ⟨entered, leads.trans ⟨affects_setNode _, ?_, ?_, ?_⟩, recorded, timers, sameJournal,
      ?_⟩
    · simp [entered, setNode]
    · simp [entered, setNode]
    · simp [entered, setNode]
    · unfold AbstractPeriodicJob.won
      rw [advance_issue (.setSingleConsumerLock (some lock)) rfl rfl]
      apply rests_of_execute follows _ recorded
      · exact Nat.lt_of_lt_of_le fresh leads.affects.constructed
      · rw [sameJournal]
        exact outside
  unfold Mutex.afterAttempt
  by_cases timed : 0 < lock.refreshInterval
  · simp only [if_pos timed]
    rw [advance_issue (.startRefresh lock) rfl rfl, wins]
    apply records
    · exact ⟨affects_execute (by rintro _ ⟨⟩), rfl, rfl, fun stopped => stopped⟩
    · rfl
    · intro timer member
      rcases List.mem_cons.mp member with rfl | earlier
      · exact .inr rfl
      · exact .inl earlier
  · simp only [if_neg timed, wins]
    exact records cluster (.refl mayUse executor cluster) rfl fun _ member => .inl member

/-- What a call does with the answer it has waited for. -/
def resumeWith {Value : Type} (rest : Value → JobProgram Unit) :
    Except Thrown Value → JobProgram Unit
  | .ok value => rest value
  | .error error => .fail error

theorem step_of_issue {call : Call} {command : Command} {rest : command.Answer → JobProgram Unit}
    (waits : (cluster.nodes executor).calls call = some ((issue command).bind rest))
    (steps : job.step cluster (.resume executor call environment) = some next) :
    next = (cluster.execute executor environment command).1.advance executor call environment
      (resumeWith rest (cluster.execute executor environment command).2) := by
  obtain ⟨waiting, continuation, isWaiting, rfl⟩ := stepOf_resume steps
  rw [waits] at isWaiting
  cases isWaiting
  cases (cluster.execute executor environment command).2 <;> rfl

theorem quiet_of_suspends {middle : Cluster} {waiting : Option (JobProgram Unit)}
    (nodes : middle.nodes = cluster.nodes) (timers : middle.timers = cluster.timers)
    (suspends : Suspends executor .process waiting middle next) :
    Quiet executor cluster next where
  recorded := by rw [suspends.recorded, nodes]
  timers := suspends.timers.trans timers
  stops := by rw [suspends.stops, nodes]

theorem Ungiven.suspends {middle : Cluster} {waiting : Option (JobProgram Unit)}
    (ungiven : Ungiven job.options executor cluster middle)
    (suspends : Suspends executor .process waiting middle next) :
    Ungiven job.options executor cluster next := by
  unfold Ungiven
  rw [suspends.locks, suspends.now]
  exact ungiven

theorem proceeds_of_fail {phase : ProcessPhase} {middle : Cluster} (error : Thrown)
    (attempting : phase.lock = none)
    (outside : inBody (cluster.nodes executor).journal = false)
    (leads : Leads mayUse executor cluster middle)
    (nodes : middle.nodes = cluster.nodes) (timers : middle.timers = cluster.timers)
    (ungiven : environment.redis = .answered → Ungiven job.options executor cluster middle) :
    Proceeds job mayUse executor environment phase cluster
      (middle.suspend executor .process (.fail error)) := by
  have suspends : Suspends executor .process (ProcessPhase.waitsFor job executor .idle) middle
      (middle.suspend executor .process (.fail error)) :=
    suspends_suspend middle executor .process (.fail error)
  refine ⟨.idle, .fail phase attempting (quiet_of_suspends nodes timers suspends) ?_, ?_⟩
  · exact fun answered => (ungiven answered).suspends suspends
  · apply leads.comesToRest _ suspends
    show inBody (middle.nodes executor).journal = false
    rw [nodes]
    exact outside

theorem proceeds_of_attempt {phase : ProcessPhase} {ref : Nat} {external : Bool}
    {rest : Bool → JobProgram Unit} {answered : Cluster}
    (attempting : phase = .asking ref ∨ phase = .retrying ref)
    (wins : rest true = job.won executor (job.lockMutex executor ref external))
    (follows : (job.processInternal executor).Follows (subclassContract mayUse) []
      fun _ _ => True)
    (outside : inBody (cluster.nodes executor).journal = false)
    (fresh : ref < cluster.constructed) (leads : Leads mayUse executor cluster answered)
    (nodes : answered.nodes = cluster.nodes) (timers : answered.timers = cluster.timers) :
    Proceeds job mayUse executor environment phase cluster
      (answered.advance executor .process environment
        ((job.lockMutex executor ref external).afterAttempt rest true)) := by
  have outsideAnswered : inBody (answered.nodes executor).journal = false := by
    rw [nodes]
    exact outside
  have freshAnswered : (job.lockMutex executor ref external).ref < answered.constructed :=
    Nat.lt_of_lt_of_le fresh leads.affects.constructed
  obtain ⟨entered, entering, recorded, started, journal, later, middle, locked, holds, within,
    affects, suspends, harmless⟩ := enters_of_attempt wins follows outsideAnswered freshAnswered
  refine ⟨later, .enter phase later ref external attempting locked ?_ ?_ ?_ harmless, ?_⟩
  · rw [suspends.recorded, within.recorded, recorded]
  · intro timer member
    rw [suspends.timers] at member
    rcases within.timers timer member with earlier | newer
    · rcases started timer earlier with earlier | same
      · exact .inl (timers ▸ earlier)
      · exact .inr (.inl same)
    · exact .inr (.inr newer)
  · rw [suspends.stops, within.stops, journal, nodes]
  · exact ((leads.trans entering).trans (.of_within within affects)).comesToRest holds suspends

/-- Redis has answered the first attempt, or has not. -/
theorem proceeds_of_asking {ref : Nat}
    (follows : (job.processInternal executor).Follows (subclassContract mayUse) []
      fun _ _ => True)
    (waits : (cluster.nodes executor).calls .process = some (job.ask executor ref))
    (holds : (ProcessPhase.asking ref).Holds mayUse executor cluster)
    (steps : job.step cluster (.resume executor .process environment) = some next) :
    Proceeds job mayUse executor environment (.asking ref) cluster next := by
  obtain ⟨outside, fresh⟩ := holds
  have next_eq := step_of_issue waits steps
  subst next_eq
  have leads : Leads mayUse executor cluster (cluster.execute executor environment
      (.setNx (job.lockMutex executor ref false))).1 := leads_of_redis rfl
  by_cases zero : (job.lockMutex executor ref false).lockTimeout = 0
  · rw [execute_setNx_of_zero zero] at leads ⊢
    exact proceeds_of_fail invalidExpireTime rfl outside leads rfl rfl fun _ held => held
  rw [execute_setNx_of_ne_zero zero] at leads ⊢
  generalize hStore : cluster.locks.claim cluster.now (job.lockMutex executor ref false).key
    (job.lockMutex executor ref false).identifier
    (job.lockMutex executor ref false).lockTimeout = claimed at leads ⊢
  cases replied : environment.redis with
  | rejected error =>
      simp only [reply, replied] at leads ⊢
      refine proceeds_of_fail error rfl outside leads rfl rfl fun answered => ?_
      rw [replied] at answered
      cases answered
  | lost error =>
      simp only [reply, replied] at leads ⊢
      refine proceeds_of_fail error rfl outside leads rfl rfl fun answered => ?_
      rw [replied] at answered
      cases answered
  | answered =>
      simp only [reply, replied] at leads ⊢
      cases acquired : claimed.2 with
      | true =>
          show Proceeds _ _ _ _ _ _
            (Cluster.advance _ _ _ _ (Mutex.afterAttempt _ (job.afterAsk executor ref) true))
          exact proceeds_of_attempt (.inl rfl) rfl follows outside fresh leads rfl rfl
      | false =>
          have refused : claimed.1 = cluster.locks := by
            subst hStore
            exact claim_of_false acquired
          rw [refused] at leads ⊢
          show Proceeds _ _ _ _ _ _ (cluster.advance _ _ _ ((issue .construct).bind _))
          rw [advance_issue .construct rfl rfl]
          let built : Cluster := { cluster with constructed := cluster.constructed + 1 }
          have suspends : Suspends executor .process
              (ProcessPhase.waitsFor job executor (.retrying cluster.constructed)) built
              (built.advance executor .process environment
                (job.retry executor cluster.constructed)) :=
            suspends_of_issue rfl
          have builds : Leads mayUse executor cluster built :=
            ⟨affects_construct, rfl, rfl, fun stopped => stopped⟩
          have sameNodes : built.nodes = cluster.nodes := rfl
          have sameTimers : built.timers = cluster.timers := rfl
          have ungiven : Ungiven job.options executor cluster built := fun held => held
          exact ⟨_, .refuse ref (quiet_of_suspends sameNodes sameTimers suspends)
            (ungiven.suspends suspends),
            builds.comesToRest ⟨outside, Nat.lt_succ_self _⟩ suspends⟩

theorem ungiven_renew {mutex : Mutex} :
    Ungiven job.options executor cluster
      { cluster with
        locks := (cluster.locks.renew cluster.now mutex.key mutex.identifier
          mutex.lockTimeout).1 } :=
  fun held => holder_of_renew held

/-- The lock belongs to somebody else. -/
theorem proceeds_of_skipped {ref : Nat}
    (outside : inBody (cluster.nodes executor).journal = false)
    (free : cluster.locks.holder cluster.now job.options.exclusiveKey ≠ some (.given executor)) :
    Proceeds job mayUse executor environment (.retrying ref) cluster
      (cluster.advance executor .process environment AbstractPeriodicJob.skipped) := by
  let message : Event :=
    .log .debug "Periodic job skipped: unable to acquire single consumer lock" none
  let forgotten := cluster.setNode executor
    { cluster.nodes executor with singleConsumerLock := none }
  let noted := forgotten.recordEvent executor message
  unfold AbstractPeriodicJob.skipped
  rw [advance_issue (.setSingleConsumerLock none) rfl rfl]
  show Proceeds _ _ _ _ _ _ (forgotten.advance _ _ _ (.call (.record message) _))
  rw [advance_of_now (.record message) rfl]
  show Proceeds _ _ _ _ _ _ (noted.suspend executor .process (.done ()))
  have suspends : Suspends executor .process (ProcessPhase.waitsFor job executor .idle) noted
      (noted.suspend executor .process (.done ())) :=
    suspends_suspend noted executor .process (.done ())
  have journal : (noted.nodes executor).journal =
      (cluster.now, message) :: (cluster.nodes executor).journal := by
    simp [noted, forgotten, recordEvent, setNode]
  have leads : Leads mayUse executor cluster noted := by
    refine ⟨(affects_setNode _).trans (affects_setNode _), ?_, ?_, ?_⟩ <;>
      simp [noted, forgotten, recordEvent, setNode]
  refine ⟨.idle, .skip ref ?_ suspends.timers ?_ ?_, leads.comesToRest ?_ suspends⟩
  · rw [suspends.recorded]
    simp [noted, forgotten, recordEvent, setNode]
  · rw [suspends.stops, journal]
    simp [stopCalls, message]
  · rw [suspends.locks, suspends.now]
    exact free
  · show inBody (noted.nodes executor).journal = false
    rw [journal]
    exact outside

/-- Redis has answered the second attempt, or has not. -/
theorem proceeds_of_retrying {ref : Nat}
    (follows : (job.processInternal executor).Follows (subclassContract mayUse) []
      fun _ _ => True)
    (waits : (cluster.nodes executor).calls .process = some (job.retry executor ref))
    (holds : (ProcessPhase.retrying ref).Holds mayUse executor cluster)
    (steps : job.step cluster (.resume executor .process environment) = some next) :
    Proceeds job mayUse executor environment (.retrying ref) cluster next := by
  obtain ⟨outside, fresh⟩ := holds
  have next_eq := step_of_issue waits steps
  subst next_eq
  have leads : Leads mayUse executor cluster (cluster.execute executor environment
      (.refresh (job.lockMutex executor ref true))).1 := leads_of_redis rfl
  simp only [execute] at leads ⊢
  cases replied : environment.redis with
  | rejected error =>
      simp only [reply, replied] at leads ⊢
      exact proceeds_of_fail error rfl outside leads rfl rfl fun _ held => held
  | lost error =>
      simp only [reply, replied] at leads ⊢
      exact proceeds_of_fail error rfl outside leads rfl rfl fun _ => ungiven_renew
  | answered =>
      simp only [reply, replied] at leads ⊢
      cases acquired : (cluster.locks.renew cluster.now (job.lockMutex executor ref true).key
          (job.lockMutex executor ref true).identifier
          (job.lockMutex executor ref true).lockTimeout).2 with
      | true =>
          show Proceeds _ _ _ _ _ _
            (Cluster.advance _ _ _ _ (Mutex.afterAttempt _ (job.afterRetry executor ref) true))
          exact proceeds_of_attempt (.inr rfl) rfl follows outside fresh leads rfl rfl
      | false =>
          have free := not_held_of_renew acquired
          rw [renew_of_false acquired] at leads ⊢
          exact proceeds_of_skipped outside free

/-- The command that `processInternal` has waited for is answered. -/
theorem proceeds_of_executing {lock : Mutex} {rest : JobProgram Unit}
    (waits : (cluster.nodes executor).calls .process = some (job.bodyRest executor rest))
    (holds : (ProcessPhase.executing lock rest).Holds mayUse executor cluster)
    (steps : job.step cluster (.resume executor .process environment) = some next) :
    Proceeds job mayUse executor environment (.executing lock rest) cluster next := by
  obtain ⟨body, command, continuation, rfl, awaited⟩ := holds
  obtain ⟨waiting, resumed, isWaiting, rfl⟩ := stepOf_resume steps
  rw [waits] at isWaiting
  cases isWaiting
  show Proceeds _ _ _ _ _ _ (Cluster.advance _ _ _ _ (job.bodyRest executor (continuation _)))
  obtain ⟨continues, within, affects⟩ := body.execute environment
  obtain ⟨later, middle, locked, holds, more, moreAffects, suspends, harmless⟩ :=
    (rests_of_body continues).after within affects
  refine ⟨later, .proceed lock _ later locked ?_ ?_ ?_ harmless fun leaves => ?_,
    (Leads.of_within more moreAffects).comesToRest holds suspends⟩
  · rw [suspends.recorded, more.recorded]
  · rw [suspends.timers]
    exact more.timers
  · rw [suspends.stops, more.stops]
  · exact Ungiven.suspends (moreAffects.gives _ _ leaves) suspends

/-- The transaction is no longer observed. -/
structure Ends (mayUse : Identifier → Prop) (executor : String) (before ended : Cluster) :
    Prop where
  leads : Leads mayUse executor before ended
  locks : ended.locks = before.locks
  timers : ended.timers = before.timers
  recorded : (ended.nodes executor).singleConsumerLock =
    (before.nodes executor).singleConsumerLock
  outside : inBody (ended.nodes executor).journal = false
  stops : stopCalls executor (ended.nodes executor).journal =
    stopCalls executor (before.nodes executor).journal + 1

theorem leads_recordEvent (event : Event) :
    Leads mayUse executor cluster (cluster.recordEvent executor event) := by
  refine ⟨affects_setNode _, ?_, ?_, ?_⟩ <;> simp [recordEvent, setNode]

theorem Ends.of_recordEvent {event : Event} {ended : Cluster}
    (uncounted : event ≠ .observabilityStop executor)
    (ends : Ends mayUse executor (cluster.recordEvent executor event) ended) :
    Ends mayUse executor cluster ended where
  leads := (leads_recordEvent event).trans ends.leads
  locks := ends.locks
  timers := ends.timers
  recorded := by rw [ends.recorded, recordEvent_singleConsumerLock]
  outside := ends.outside
  stops := by
    rw [ends.stops, recordEvent_journal]
    simp [stopCalls, uncounted]

/-- The end of the `finally` block. -/
theorem ends_of_endBlock {outcome : Except Thrown Unit}
    (outside : inBody (cluster.nodes executor).journal = false) :
    ∃ ended, Ends mayUse executor cluster ended ∧
      cluster.advance executor .process environment (job.endBlock executor outcome) =
        ended.suspend executor .process (AbstractPeriodicJob.returned outcome) := by
  let stop : Event := .observabilityStop executor
  have stops (noted : Cluster) (outside : inBody (noted.nodes executor).journal = false) :
      ∃ ended, Ends mayUse executor noted ended ∧
        noted.advance executor .process environment
          ((issue (.record stop)).bind fun _ => AbstractPeriodicJob.returned outcome) =
          ended.suspend executor .process (AbstractPeriodicJob.returned outcome) := by
    refine ⟨noted.recordEvent executor stop, ⟨leads_recordEvent stop, rfl, rfl, ?_, ?_, ?_⟩, ?_⟩
    · rw [recordEvent_singleConsumerLock]
    · rw [recordEvent_journal]
      exact outside
    · rw [recordEvent_journal]
      simp [stopCalls, stop, outside]
    · rw [advance_issue (.record stop) rfl rfl]
      cases outcome <;> rfl
  unfold AbstractPeriodicJob.endBlock
  by_cases logs : job.options.shouldLogExecution = true
  · let message : Event := .log .info "Periodic job finished" none
    have outsideNoted : inBody ((cluster.recordEvent executor message).nodes
        executor).journal = false := by
      rw [recordEvent_journal]
      exact outside
    obtain ⟨ended, ends, reaches⟩ := stops (cluster.recordEvent executor message) outsideNoted
    refine ⟨ended, ends.of_recordEvent Event.noConfusion, ?_⟩
    simp only [logs, if_true]
    rw [← reaches]
    exact advance_issue (.record message) rfl rfl
  · simp only [logs]
    exact stops cluster outside

/-- The `finally` block after a renewal that has been answered. -/
theorem proceeds_of_renewed {lock : Mutex} {ref : Nat} {outcome : Except Thrown Unit}
    {renewed : Cluster} (answered : environment.redis = .answered)
    (outside : inBody (cluster.nodes executor).journal = false)
    (recorded : (cluster.nodes executor).singleConsumerLock = some lock)
    (leads : Leads mayUse executor cluster renewed) (nodes : renewed.nodes = cluster.nodes)
    (timers : ∀ timer ∈ renewed.timers, timer ∈ cluster.timers ∨ timer.mutex.ref = ref)
    (ungiven : Ungiven job.options executor cluster renewed) :
    Proceeds job mayUse executor environment (.renewing lock ref outcome) cluster
      (renewed.advance executor .process environment (job.stopBlock executor outcome)) := by
  have recordedStill : (renewed.nodes executor).singleConsumerLock = some lock := by
    rw [nodes, recorded]
  let stopped : Cluster :=
    { renewed with
      timers := renewed.timers.filter fun timer =>
        ¬ (timer.owner = executor ∧ timer.mutex = lock) }
  have outsideStopped : inBody (stopped.nodes executor).journal = false := by
    show inBody (renewed.nodes executor).journal = false
    rw [nodes]
    exact outside
  obtain ⟨ended, ends, reaches⟩ : ∃ ended, Ends mayUse executor stopped ended ∧
      stopped.advance executor .process environment (job.endBlock executor outcome) =
        ended.suspend executor .process (AbstractPeriodicJob.returned outcome) :=
    ends_of_endBlock outsideStopped
  have stops : renewed.advance executor .process environment (job.stopBlock executor outcome) =
      ended.suspend executor .process (AbstractPeriodicJob.returned outcome) := by
    rw [← reaches]
    show renewed.advance _ _ _ ((issue .getSingleConsumerLock).bind _) = _
    rw [advance_issue .getSingleConsumerLock rfl (congrArg Except.ok recordedStill)]
    exact advance_issue (.stopRefresh lock) rfl rfl
  rw [stops]
  have suspends : Suspends executor .process (ProcessPhase.waitsFor job executor .idle) ended
      (ended.suspend executor .process (AbstractPeriodicJob.returned outcome)) := by
    cases outcome with
    | ok value => exact suspends_suspend ended executor .process (.done value)
    | error error => exact suspends_suspend ended executor .process (.fail error)
  have stopping : Leads mayUse executor renewed stopped :=
    ⟨⟨rfl, Nat.le_refl _, fun _ _ => rfl, fun _ member _ => List.mem_of_mem_filter member,
      fun _ _ _ held => held⟩, rfl, rfl, fun stopped => stopped⟩
  refine ⟨.idle, .close lock ref outcome answered ?_ ?_ ?_ ?_ ?_,
    ((leads.trans stopping).trans ends.leads).comesToRest ends.outside suspends⟩
  · rw [suspends.recorded, ends.recorded]
    show (renewed.nodes executor).singleConsumerLock = _
    rw [nodes]
  · intro timer member
    rw [suspends.timers, ends.timers] at member
    obtain ⟨earlier, kept⟩ := List.mem_filter.mp member
    exact ⟨timers timer earlier, of_decide_eq_true kept⟩
  · have same : Ungiven job.options executor cluster ended := by
      unfold Ungiven
      rw [ends.locks, ends.leads.affects.now]
      exact ungiven
    exact same.suspends suspends
  · rw [suspends.stops, ends.stops]
    show stopCalls executor (renewed.nodes executor).journal + 1 = _
    rw [nodes]
  · rintro rfl
    rw [suspends.now]
    exact congrArg List.head? suspend_done_journal

theorem proceeds_of_abandoned {lock : Mutex} {ref : Nat} {outcome : Except Thrown Unit}
    {middle : Cluster} (error : Thrown) (unanswered : environment.redis ≠ .answered)
    (outside : inBody (cluster.nodes executor).journal = false)
    (leads : Leads mayUse executor cluster middle) (nodes : middle.nodes = cluster.nodes)
    (timers : middle.timers = cluster.timers)
    (ungiven : Ungiven job.options executor cluster middle) :
    Proceeds job mayUse executor environment (.renewing lock ref outcome) cluster
      (middle.suspend executor .process (.fail error)) := by
  have suspends : Suspends executor .process (ProcessPhase.waitsFor job executor .idle) middle
      (middle.suspend executor .process (.fail error)) :=
    suspends_suspend middle executor .process (.fail error)
  refine ⟨.idle, .abandon lock ref outcome unanswered (quiet_of_suspends nodes timers suspends)
    (ungiven.suspends suspends), leads.comesToRest ?_ suspends⟩
  show inBody (middle.nodes executor).journal = false
  rw [nodes]
  exact outside

/-- Redis has answered the renewal of the lock, or has not. -/
theorem proceeds_of_renewing {lock : Mutex} {ref : Nat} {outcome : Except Thrown Unit}
    (own : lock.identifier = .given executor)
    (waits : (cluster.nodes executor).calls .process =
      some (job.renew executor lock ref outcome))
    (holds : (ProcessPhase.renewing lock ref outcome).Holds mayUse executor cluster)
    (steps : job.step cluster (.resume executor .process environment) = some next) :
    Proceeds job mayUse executor environment (.renewing lock ref outcome) cluster next := by
  obtain ⟨outside, recorded, -, -⟩ := holds
  have next_eq := step_of_issue waits steps
  subst next_eq
  have leads : Leads mayUse executor cluster (cluster.execute executor environment
      (.refresh (job.renewalMutex lock ref))).1 := leads_of_redis (congrArg some own)
  simp only [execute] at leads ⊢
  cases replied : environment.redis with
  | rejected error =>
      simp only [reply, replied] at leads ⊢
      exact proceeds_of_abandoned error (by simp [replied]) outside leads rfl rfl
        fun held => held
  | lost error =>
      simp only [reply, replied] at leads ⊢
      exact proceeds_of_abandoned error (by simp [replied]) outside leads rfl rfl ungiven_renew
  | answered =>
      simp only [reply, replied] at leads ⊢
      generalize (cluster.locks.renew cluster.now (job.renewalMutex lock ref).key
          (job.renewalMutex lock ref).identifier
          (job.renewalMutex lock ref).lockTimeout).2 = renewed
      cases renewed with
      | false =>
          exact proceeds_of_renewed replied outside recorded leads rfl
            (fun _ member => .inl member) ungiven_renew
      | true =>
          show Proceeds _ _ _ _ _ _ (Cluster.advance _ _ _ _
            (Mutex.afterAttempt _ (fun _ => job.stopBlock executor outcome) true))
          unfold Mutex.afterAttempt
          by_cases timed : 0 < (job.renewalMutex lock ref).refreshInterval
          · simp only [if_pos timed]
            rw [advance_issue (.startRefresh (job.renewalMutex lock ref)) rfl rfl]
            refine proceeds_of_renewed replied outside recorded (leads.trans ?_) rfl ?_ ?_
            · exact ⟨affects_execute (by rintro _ ⟨⟩), rfl, rfl, fun stopped => stopped⟩
            · intro timer member
              rcases List.mem_cons.mp member with rfl | earlier
              · exact .inr rfl
              · exact .inl earlier
            · exact ungiven_renew
          · simp only [if_neg timed]
            exact proceeds_of_renewed replied outside recorded leads rfl
              (fun _ member => .inl member) ungiven_renew

/-- A call starts by building the mutex by which it asks for the lock. -/
theorem proceeds_of_start (enabled : job.options.singleConsumerMode.enabled = true)
    (outside : inBody (cluster.nodes executor).journal = false)
    (steps : job.step cluster (.start executor .process environment) = some next) :
    Proceeds job mayUse executor environment .idle cluster next := by
  obtain ⟨-, rfl⟩ := stepOf_start steps
  show Proceeds _ _ _ _ _ _ (cluster.advance _ _ _ (job.process executor))
  rw [job.process_eq executor enabled, advance_issue .construct rfl rfl]
  let built : Cluster := { cluster with constructed := cluster.constructed + 1 }
  have suspends : Suspends executor .process
      (ProcessPhase.waitsFor job executor (.asking cluster.constructed)) built
      (built.advance executor .process environment (job.ask executor cluster.constructed)) :=
    suspends_of_issue rfl
  have builds : Leads mayUse executor cluster built :=
    ⟨affects_construct, rfl, rfl, fun stopped => stopped⟩
  have sameNodes : built.nodes = cluster.nodes := rfl
  have sameTimers : built.timers = cluster.timers := rfl
  have ungiven : Ungiven job.options executor cluster built := fun held => held
  exact ⟨_, .begin (quiet_of_suspends sameNodes sameTimers suspends) (ungiven.suspends suspends),
    builds.comesToRest ⟨outside, Nat.lt_succ_self _⟩ suspends⟩

/-- A step of a call, whatever its phase. -/
theorem proceeds_of_step {phase : ProcessPhase} {label : Label}
    (enabled : job.options.singleConsumerMode.enabled = true)
    (follows : (job.processInternal executor).Follows (subclassContract mayUse) []
      fun _ _ => True)
    (owns : ∀ lock, (cluster.nodes executor).singleConsumerLock = some lock →
      OwnMutex job.options executor lock)
    (waits : (cluster.nodes executor).calls .process = phase.waitsFor job executor)
    (holds : phase.Holds mayUse executor cluster)
    (runs : label = .start executor .process environment ∨
      label = .resume executor .process environment)
    (steps : job.step cluster label = some next) :
    Proceeds job mayUse executor environment phase cluster next := by
  rcases runs with rfl | rfl
  · have unstarted := (idle_of_start steps).2
    rw [waits] at unstarted
    cases phase with
    | idle => exact proceeds_of_start enabled holds steps
    | _ => cases unstarted
  · cases phase with
    | idle => exact absurd waits (inFlight_of_resume steps)
    | asking ref => exact proceeds_of_asking follows waits holds steps
    | retrying ref => exact proceeds_of_retrying follows waits holds steps
    | executing lock rest => exact proceeds_of_executing waits holds steps
    | renewing lock ref outcome =>
        exact proceeds_of_renewing (owns lock holds.2.1).identifier waits holds steps

end Steps

end ServiceTemplate.Jobs
