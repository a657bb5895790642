import ServiceTemplate.Jobs.ProcessStep

/-!
# The instances of a job

Every node has one instance of the job.  Its `process` is in one of its phases,
its `dispose` waits for the deletion of the lock that was recorded, and what the
other nodes, the timers and time do leaves the instance alone.
-/

namespace ServiceTemplate.Jobs

open LeaseStore Program Cluster

/-- What the steps of others leave of an instance: its state, and its timers,
except that they fire.  Nobody else takes the key under its identifier. -/
structure Aside (options : JobOptions) (mayUse : String → Identifier → Prop)
    (executor : String) (before after : Cluster) : Prop where
  node : after.nodes executor = before.nodes executor
  constructed : before.constructed ≤ after.constructed
  timers : ∀ timer ∈ after.timers, timer.owner = executor →
    ∃ earlier ∈ before.timers, earlier.owner = executor ∧ earlier.mutex = timer.mutex
  ungiven : (∀ other, other ≠ executor → ¬ mayUse other (.given executor)) →
    Ungiven options executor before after

/-- One step of `dispose`: it stops the timer of the recorded lock, and deletes
the lock. -/
inductive DisposeStep (options : JobOptions) (executor : String) (environment : Environment)
    (cluster next : Cluster) : Prop
  | unlocked (recorded : (cluster.nodes executor).singleConsumerLock = none)
      (idle : (cluster.nodes executor).calls .dispose = none)
      (ended : (next.nodes executor).calls .dispose = none)
      (stopped : (next.nodes executor).schedulerStopped = true)
  | release (lock : Mutex) (recorded : (cluster.nodes executor).singleConsumerLock = some lock)
      (idle : (cluster.nodes executor).calls .dispose = none)
      (waits : (next.nodes executor).calls .dispose = some (issue (.delete lock)))
      (stopped : (next.nodes executor).schedulerStopped = true)
      (timer : ∀ timer ∈ next.timers, ¬ (timer.owner = executor ∧ timer.mutex = lock))
  | delete (lock : Mutex)
      (waits : (cluster.nodes executor).calls .dispose = some (issue (.delete lock)))
      (ended : (next.nodes executor).calls .dispose = none)
      (deleted : environment.redis = .answered →
        next.locks.holder next.now options.exclusiveKey ≠ some (.given executor))

/-- What `dispose` leaves alone. -/
structure Disposes (options : JobOptions) (mayUse : Identifier → Prop) (executor : String)
    (before after : Cluster) : Prop where
  affects : Affects (OwnOr executor mayUse) executor before after
  live : (after.nodes executor).live = (before.nodes executor).live
  process : (after.nodes executor).calls .process = (before.nodes executor).calls .process
  recorded : (after.nodes executor).singleConsumerLock =
    (before.nodes executor).singleConsumerLock
  scheduler : (before.nodes executor).schedulerStopped = true →
    (after.nodes executor).schedulerStopped = true
  body : inBody (after.nodes executor).journal = inBody (before.nodes executor).journal
  stops : stopCalls executor (after.nodes executor).journal =
    stopCalls executor (before.nodes executor).journal
  timers : ∀ timer ∈ after.timers, timer ∈ before.timers
  ungiven : Ungiven options executor before after

section Dispose

variable {job : AbstractPeriodicJob} {mayUse : Identifier → Prop} {executor : String}
variable {environment : Environment} {cluster next : Cluster}

theorem Disposes.suspends {middle : Cluster} {waiting : Option (JobProgram Unit)}
    (disposes : Disposes job.options mayUse executor cluster middle)
    (suspends : Suspends executor .dispose waiting middle next) :
    Disposes job.options mayUse executor cluster next where
  affects := disposes.affects.suspends suspends
  live := suspends.live.trans disposes.live
  process := by rw [suspends.calls, Function.update_of_ne (by decide), disposes.process]
  recorded := suspends.recorded.trans disposes.recorded
  scheduler stopped := suspends.scheduler.trans (disposes.scheduler stopped)
  body := suspends.body.trans disposes.body
  stops := suspends.stops.trans disposes.stops
  timers := by
    rw [suspends.timers]
    exact disposes.timers
  ungiven := by
    unfold Ungiven
    rw [suspends.locks, suspends.now]
    exact disposes.ungiven

theorem dispose_of_start
    (steps : job.step cluster (.start executor .dispose environment) = some next) :
    DisposeStep job.options executor environment cluster next ∧
      Disposes job.options mayUse executor cluster next := by
  obtain ⟨⟨-, idle, -⟩, rfl⟩ := stepOf_start steps
  have unstarted := Option.isNone_iff_eq_none.mp idle
  let stopped := cluster.setNode executor
    { cluster.nodes executor with schedulerStopped := true }
  have schedulerStopped : (stopped.nodes executor).schedulerStopped = true := by
    simp [stopped, setNode]
  have stopping : Disposes job.options mayUse executor cluster stopped := by
    refine ⟨affects_setNode _, ?_, ?_, ?_, ?_, ?_, ?_, fun _ member => member,
      fun held => held⟩ <;> simp [stopped, setNode]
  have reads (found : Option Mutex)
      (recorded : (cluster.nodes executor).singleConsumerLock = found) :
      cluster.advance executor .dispose environment AbstractPeriodicJob.dispose =
        stopped.advance executor .dispose environment (found.elim (pure ()) Mutex.release) := by
    show cluster.advance _ _ _ ((issue .stopScheduler).bind _) = _
    rw [advance_issue .stopScheduler rfl rfl]
    have answers : (stopped.nodes executor).singleConsumerLock = found :=
      stopping.recorded.trans recorded
    cases found with
    | none => exact advance_issue .getSingleConsumerLock rfl (congrArg Except.ok answers)
    | some lock => exact advance_issue .getSingleConsumerLock rfl (congrArg Except.ok answers)
  show DisposeStep _ _ _ _ (cluster.advance _ _ _ AbstractPeriodicJob.dispose) ∧
    Disposes _ _ _ _ (cluster.advance _ _ _ AbstractPeriodicJob.dispose)
  cases recorded : (cluster.nodes executor).singleConsumerLock with
  | none =>
      rw [reads none recorded]
      have suspends := suspends_suspend stopped executor .dispose (.done ())
      refine ⟨.unlocked recorded unstarted ?_ ?_, stopping.suspends suspends⟩
      · exact (congrFun suspends.calls .dispose).trans (Function.update_self _ _ _)
      · exact suspends.scheduler.trans schedulerStopped
  | some lock =>
      let released : Cluster :=
        { stopped with
          timers := stopped.timers.filter fun timer =>
            ¬ (timer.owner = executor ∧ timer.mutex = lock) }
      have deletes : stopped.advance executor .dispose environment lock.release =
          released.advance executor .dispose environment (issue (.delete lock)) :=
        advance_issue (.stopRefresh lock) rfl rfl
      have suspends : Suspends executor .dispose (some (issue (.delete lock))) released
          (cluster.advance executor .dispose environment AbstractPeriodicJob.dispose) := by
        rw [reads (some lock) recorded, Option.elim_some, deletes]
        show Suspends _ _ _ released (released.advance _ _ _ (.call (.delete lock) _))
        rw [advance_of_awaited rfl]
        exact suspends_suspend released executor .dispose (.call (.delete lock) _)
      have releasing : Disposes job.options mayUse executor cluster released :=
        { stopping with
          affects := stopping.affects.trans ⟨rfl, Nat.le_refl _, fun _ _ => rfl,
            fun _ member _ => List.mem_of_mem_filter member, fun _ _ _ held => held⟩
          timers := fun timer member => stopping.timers timer (List.mem_of_mem_filter member) }
      refine ⟨.release lock recorded unstarted ?_ ?_ ?_, releasing.suspends suspends⟩
      · exact (congrFun suspends.calls .dispose).trans (Function.update_self _ _ _)
      · exact suspends.scheduler.trans schedulerStopped
      · intro timer member
        rw [suspends.timers] at member
        exact of_decide_eq_true (List.mem_filter.mp member).2

theorem dispose_of_resume {lock : Mutex} (own : OwnMutex job.options executor lock)
    (waits : (cluster.nodes executor).calls .dispose = some (issue (.delete lock)))
    (steps : job.step cluster (.resume executor .dispose environment) = some next) :
    DisposeStep job.options executor environment cluster next ∧
      Disposes job.options mayUse executor cluster next := by
  obtain ⟨command, continuation, waiting, rfl⟩ := stepOf_resume steps
  rw [waits] at waiting
  cases waiting
  let store := cluster.locks.release cluster.now lock.key lock.identifier
  let released : Cluster := { cluster with locks := store }
  have free : released.locks.holder released.now job.options.exclusiveKey ≠
      some (.given executor) := by
    rw [← own.key, ← own.identifier]
    exact not_held_of_release
  have deleting : Disposes job.options mayUse executor cluster released := by
    refine ⟨?_, rfl, rfl, rfl, fun stopped => stopped, rfl, rfl, fun _ member => member,
      fun held => holder_of_release held⟩
    refine ⟨rfl, Nat.le_refl _, fun _ _ => rfl, fun _ member _ => member, ?_⟩
    exact fun _ _ _ held => holder_of_release held
  have unchanged : Disposes job.options mayUse executor cluster cluster :=
    ⟨.refl _ executor cluster, rfl, rfl, rfl, fun stopped => stopped, rfl, rfl,
      fun _ member => member, fun held => held⟩
  have settles (middle : Cluster) (program : JobProgram Unit) (ended : remaining program = none)
      (disposes : Disposes job.options mayUse executor cluster middle)
      (deleted : environment.redis = .answered →
        middle.locks.holder middle.now job.options.exclusiveKey ≠ some (.given executor)) :
      DisposeStep job.options executor environment cluster
          (middle.suspend executor .dispose program) ∧
        Disposes job.options mayUse executor cluster
          (middle.suspend executor .dispose program) := by
    have suspends := suspends_suspend middle executor .dispose program
    refine ⟨.delete lock waits ?_ ?_, disposes.suspends suspends⟩
    · rw [suspends.calls, Function.update_self, ended]
    · rw [suspends.locks, suspends.now]
      exact deleted
  simp only [execute, reply]
  cases replied : environment.redis with
  | answered => exact settles released (.done ()) rfl deleting fun _ => free
  | lost error => exact settles released (.fail error) rfl deleting fun _ => free
  | rejected error =>
      refine settles cluster (.fail error) rfl unchanged fun answered => ?_
      rw [replied] at answered
      cases answered

end Dispose

/-! ## The invariant of an instance -/

/-- What holds of an instance on a live node whose `process` is in the phase. -/
structure InstanceInvariant (job : AbstractPeriodicJob) (mayUse : String → Identifier → Prop)
    (executor : String) (cluster : Cluster) (phase : ProcessPhase) : Prop where
  waits : (cluster.nodes executor).calls .process = phase.waitsFor job executor
  holds : phase.Holds (mayUse executor) executor cluster
  owns : ∀ lock, (cluster.nodes executor).singleConsumerLock = some lock →
    OwnMutex job.options executor lock ∧ lock.ref < cluster.constructed
  disposing : (cluster.nodes executor).calls .dispose = none ∨
    ∃ lock, (cluster.nodes executor).calls .dispose = some (issue (.delete lock)) ∧
      OwnMutex job.options executor lock

/-- Every live node has an instance, and nothing runs on the other ones. -/
structure Instances (job : AbstractPeriodicJob) (mayUse : String → Identifier → Prop)
    (cluster : Cluster) : Prop where
  dead : ∀ executor, (cluster.nodes executor).live = false →
    ∀ call, (cluster.nodes executor).calls call = none
  live : ∀ executor, (cluster.nodes executor).live = true →
    ∃ phase, InstanceInvariant job mayUse executor cluster phase

/-- What one step does to an instance, with the phases before and after it. -/
inductive InstanceStep (job : AbstractPeriodicJob) (mayUse : String → Identifier → Prop)
    (executor : String) (cluster next : Cluster) (label : Label) :
    ProcessPhase → ProcessPhase → Prop
  /-- the step is somebody else's -/
  | aside (phase : ProcessPhase) (aside : Aside job.options mayUse executor cluster next) :
      InstanceStep job mayUse executor cluster next label phase phase
  | process (environment : Environment) (phase later : ProcessPhase)
      (runs : label = .start executor .process environment ∧
          (cluster.nodes executor).schedulerStopped = false ∨
        label = .resume executor .process environment)
      (step : ProcessStep job (mayUse executor) executor environment cluster next phase later)
      (rests : ComesToRest job (mayUse executor) executor later cluster next) :
      InstanceStep job mayUse executor cluster next label phase later
  | dispose (environment : Environment) (phase : ProcessPhase)
      (runs : label = .start executor .dispose environment ∨
        label = .resume executor .dispose environment)
      (step : DisposeStep job.options executor environment cluster next)
      (disposes : Disposes job.options (mayUse executor) executor cluster next) :
      InstanceStep job mayUse executor cluster next label phase phase

section Instances

variable {job : AbstractPeriodicJob} {mayUse : String → Identifier → Prop}
variable {executor : String} {cluster next : Cluster} {phase later : ProcessPhase}
variable {label : Label}

theorem Affects.aside {actor : String}
    (affects : Affects (OwnOr actor (mayUse actor)) actor cluster next)
    (different : executor ≠ actor) : Aside job.options mayUse executor cluster next where
  node := affects.nodes executor different
  constructed := affects.constructed
  timers timer member owner := by
    have foreign : timer.owner ≠ actor := by rw [owner]; exact different
    exact ⟨timer, affects.timers timer member foreign, owner, rfl⟩
  ungiven forbidden := by
    apply affects.gives
    rintro (own | permitted)
    · exact different (Identifier.given.inj own)
    · exact forbidden actor different.symm permitted

theorem InstanceInvariant.of_aside
    (invariant : InstanceInvariant job mayUse executor cluster phase)
    (aside : Aside job.options mayUse executor cluster next) :
    InstanceInvariant job mayUse executor next phase where
  waits := by rw [aside.node, invariant.waits]
  holds := by
    apply invariant.holds.of_same _ _ aside.constructed <;> rw [aside.node]
  owns lock := by
    rw [aside.node]
    intro recorded
    obtain ⟨own, fresh⟩ := invariant.owns lock recorded
    exact ⟨own, Nat.lt_of_lt_of_le fresh aside.constructed⟩
  disposing := by
    rw [aside.node]
    exact invariant.disposing

/-- The lock that is recorded after a step was recorded before, or is a mutex
that the call has built. -/
theorem ProcessStep.recorded_cases {environment : Environment} {lock : Mutex}
    (step : ProcessStep job (mayUse executor) executor environment cluster next phase later)
    (recorded : (next.nodes executor).singleConsumerLock = some lock) :
    (cluster.nodes executor).singleConsumerLock = some lock ∨
      ∃ ref external, lock = job.lockMutex executor ref external ∧
        (phase = .asking ref ∨ phase = .retrying ref) ∧ later.lock = some lock := by
  cases step with
  | begin quiet ungiven => exact .inl (quiet.recorded ▸ recorded)
  | refuse ref quiet ungiven => exact .inl (quiet.recorded ▸ recorded)
  | fail phase attempting quiet ungiven => exact .inl (quiet.recorded ▸ recorded)
  | abandon held ref outcome unanswered quiet ungiven => exact .inl (quiet.recorded ▸ recorded)
  | proceed held rest later locked same timers stops harmless => exact .inl (same ▸ recorded)
  | close held ref outcome answered same timers ungiven stops settles =>
      exact .inl (same ▸ recorded)
  | skip ref forgotten timers stops free =>
      rw [forgotten] at recorded
      cases recorded
  | enter phase later ref external attempting locked entered timers stops harmless =>
      rw [entered] at recorded
      cases recorded
      exact .inr ⟨ref, external, rfl, attempting, locked⟩

/-- A step that changes the recorded lock to another leaves the calls counted. -/
theorem ProcessStep.stops_of_changed {environment : Environment}
    (step : ProcessStep job (mayUse executor) executor environment cluster next phase later)
    (changed : (next.nodes executor).singleConsumerLock ≠
      (cluster.nodes executor).singleConsumerLock) :
    stopCalls executor (next.nodes executor).journal =
      stopCalls executor (cluster.nodes executor).journal := by
  cases step with
  | close held ref outcome answered same => exact absurd same changed
  | begin quiet ungiven => exact quiet.stops
  | refuse ref quiet ungiven => exact quiet.stops
  | fail phase attempting quiet ungiven => exact quiet.stops
  | abandon held ref outcome unanswered quiet ungiven => exact quiet.stops
  | skip ref recorded timers stops free => exact stops
  | enter phase later ref external attempting locked recorded timers stops harmless => exact stops
  | proceed held rest later locked same timers stops harmless => exact stops

/-- A step in which `errorReporter.report` returns leaves no error to settle with. -/
theorem ProcessStep.outcome_of_returns {environment : Environment}
    (step : ProcessStep job (mayUse executor) executor environment cluster next phase later)
    (returns : environment.reportThrows = none) : later.outcome = .ok () := by
  cases step with
  | enter phase later ref external attempting locked recorded timers stops harmless =>
      exact harmless returns
  | proceed held rest later locked same timers stops harmless => exact harmless returns
  | _ => rfl

theorem InstanceInvariant.of_process {environment : Environment}
    (invariant : InstanceInvariant job mayUse executor cluster phase)
    (step : ProcessStep job (mayUse executor) executor environment cluster next phase later)
    (rests : ComesToRest job (mayUse executor) executor later cluster next) :
    InstanceInvariant job mayUse executor next later where
  waits := rests.waits
  holds := rests.holds
  owns lock recorded := by
    have constructed := rests.affects.constructed
    rcases step.recorded_cases recorded with earlier | ⟨ref, external, rfl, attempting, -⟩
    · obtain ⟨own, fresh⟩ := invariant.owns lock earlier
      exact ⟨own, Nat.lt_of_lt_of_le fresh constructed⟩
    · refine ⟨ownMutex_new ref _ external, Nat.lt_of_lt_of_le ?_ constructed⟩
      rcases attempting with rfl | rfl
      · exact invariant.holds.2
      · exact invariant.holds.2
  disposing := by
    rw [rests.disposing]
    exact invariant.disposing

theorem InstanceInvariant.of_dispose {environment : Environment}
    (invariant : InstanceInvariant job mayUse executor cluster phase)
    (step : DisposeStep job.options executor environment cluster next)
    (disposes : Disposes job.options (mayUse executor) executor cluster next) :
    InstanceInvariant job mayUse executor next phase where
  waits := disposes.process.trans invariant.waits
  holds := invariant.holds.of_same disposes.body disposes.recorded disposes.affects.constructed
  owns lock := by
    rw [disposes.recorded]
    intro recorded
    obtain ⟨own, fresh⟩ := invariant.owns lock recorded
    exact ⟨own, Nat.lt_of_lt_of_le fresh disposes.affects.constructed⟩
  disposing := by
    cases step with
    | unlocked recorded idle ended stopped => exact .inl ended
    | release lock recorded idle waits stopped timer =>
        exact .inr ⟨lock, waits, (invariant.owns lock recorded).1⟩
    | delete lock waits ended deleted => exact .inl ended

theorem InstanceStep.invariant (invariant : InstanceInvariant job mayUse executor cluster phase)
    (step : InstanceStep job mayUse executor cluster next label phase later) :
    InstanceInvariant job mayUse executor next later := by
  cases step with
  | aside phase aside => exact invariant.of_aside aside
  | process environment phase later runs step rests => exact invariant.of_process step rests
  | dispose environment phase runs step disposes => exact invariant.of_dispose step disposes

/-! ## The steps of a cluster -/

theorem aside_tick : Aside job.options mayUse executor cluster
    { cluster with now := cluster.now + 1 } where
  node := rfl
  constructed := Nat.le_refl _
  timers timer member owner := ⟨timer, member, owner, rfl⟩
  ungiven _ held := holder_later (Nat.le_succ _) held

theorem aside_fire {index : Nat} {timer : RefreshTimer}
    (atIndex : cluster.timers[index]? = some timer) :
    Aside job.options mayUse executor cluster (cluster.fireTimer index timer) where
  node := rfl
  constructed := Nat.le_refl _
  timers other member owner := by
    rcases mem_fireTimer member with earlier | rfl
    · exact ⟨other, earlier, owner, rfl⟩
    · exact ⟨timer, List.mem_of_getElem? atIndex, owner, rfl⟩
  ungiven _ held := holder_of_renew held

theorem aside_crash {actor : String} (different : executor ≠ actor) :
    Aside job.options mayUse executor cluster (cluster.crashNode actor) where
  node := Function.update_of_ne different _ _
  constructed := Nat.le_refl _
  timers timer member owner := ⟨timer, List.mem_of_mem_filter member, owner, rfl⟩
  ungiven _ held := held

/-- A step of one of the calls of an instance. -/
theorem InstanceInvariant.step_own {environment : Environment} {call : Call}
    (enabled : job.options.singleConsumerMode.enabled = true) (uses : job.UsesOwnMutexes mayUse)
    (invariant : InstanceInvariant job mayUse executor cluster phase)
    (runs : label = .start executor call environment ∨ label = .resume executor call environment)
    (steps : job.step cluster label = some next) :
    ∃ later, InstanceStep job mayUse executor cluster next label phase later ∧
      Affects (OwnOr executor (mayUse executor)) executor cluster next ∧
      (next.nodes executor).live = (cluster.nodes executor).live := by
  cases call with
  | process =>
      obtain ⟨later, step, rests⟩ : Proceeds job (mayUse executor) executor environment phase
          cluster next :=
        proceeds_of_step enabled (uses executor) (fun lock recorded =>
          (invariant.owns lock recorded).1) invariant.waits invariant.holds runs steps
      refine ⟨later, .process environment phase later ?_ step rests, rests.affects, rests.live⟩
      apply runs.imp_left
      rintro rfl
      exact ⟨rfl, (mayStart_of_start steps).2.2 rfl⟩
  | dispose =>
      have disposal : DisposeStep job.options executor environment cluster next ∧
          Disposes job.options (mayUse executor) executor cluster next := by
        rcases runs with rfl | rfl
        · exact dispose_of_start steps
        · rcases invariant.disposing with idle | ⟨lock, waits, own⟩
          · exact absurd idle (inFlight_of_resume steps)
          · exact dispose_of_resume own waits steps
      exact ⟨phase, .dispose environment phase runs disposal.1 disposal.2, disposal.2.affects,
        disposal.2.live⟩

/-- A call runs on a live node only. -/
theorem Instances.live_of_runs {environment : Environment} {call : Call}
    (instances : Instances job mayUse cluster)
    (runs : label = .start executor call environment ∨ label = .resume executor call environment)
    (steps : job.step cluster label = some next) : (cluster.nodes executor).live = true := by
  rcases runs with rfl | rfl
  · exact (idle_of_start steps).1
  · by_contra dead
    exact inFlight_of_resume steps (instances.dead executor (by simpa using dead) call)

theorem Label.Runs.cases {call : Call} (runs : label.Runs executor call) :
    ∃ environment, label = .start executor call environment ∨
      label = .resume executor call environment := by
  cases label with
  | start node method environment =>
      obtain ⟨rfl, rfl⟩ := runs
      exact ⟨environment, .inl rfl⟩
  | resume node method environment =>
      obtain ⟨rfl, rfl⟩ := runs
      exact ⟨environment, .inr rfl⟩
  | _ => exact runs.elim

/-- A step that is somebody else's. -/
theorem Instances.aside
    (enabled : job.options.singleConsumerMode.enabled = true) (uses : job.UsesOwnMutexes mayUse)
    (instances : Instances job mayUse cluster) (steps : job.step cluster label = some next)
    (foreign : ∀ call, ¬ label.Runs executor call) (survives : label ≠ .crash executor) :
    Aside job.options mayUse executor cluster next := by
  have acts (actor : String) (call : Call) (environment : Environment)
      (different : executor ≠ actor)
      (runs : label = .start actor call environment ∨ label = .resume actor call environment) :
      Aside job.options mayUse executor cluster next := by
    obtain ⟨other, invariant⟩ := instances.live actor (instances.live_of_runs runs steps)
    obtain ⟨-, -, affects, -⟩ := invariant.step_own enabled uses runs steps
    exact affects.aside different
  cases label with
  | tick =>
      obtain ⟨-, rfl⟩ := stepOf_tick steps
      exact aside_tick
  | fire index =>
      obtain ⟨timer, atIndex, -, rfl⟩ := stepOf_fire steps
      exact aside_fire atIndex
  | crash actor =>
      cases steps
      exact aside_crash fun same => survives (by rw [same])
  | start actor call environment =>
      exact acts actor call environment (fun same => foreign call ⟨same.symm, rfl⟩) (.inl rfl)
  | resume actor call environment =>
      exact acts actor call environment (fun same => foreign call ⟨same.symm, rfl⟩) (.inr rfl)

/-- A dead node takes no steps. -/
theorem Instances.aside_of_dead
    (enabled : job.options.singleConsumerMode.enabled = true) (uses : job.UsesOwnMutexes mayUse)
    (instances : Instances job mayUse cluster) (steps : job.step cluster label = some next)
    (dead : (cluster.nodes executor).live = false) (survives : label ≠ .crash executor) :
    Aside job.options mayUse executor cluster next := by
  apply instances.aside enabled uses steps _ survives
  intro call runs
  obtain ⟨environment, runs⟩ := runs.cases
  rw [instances.live_of_runs runs steps] at dead
  cases dead

/-- What a step does to a live instance, unless its node crashes. -/
theorem Instances.instanceStep
    (enabled : job.options.singleConsumerMode.enabled = true) (uses : job.UsesOwnMutexes mayUse)
    (instances : Instances job mayUse cluster) (live : (cluster.nodes executor).live = true)
    (invariant : InstanceInvariant job mayUse executor cluster phase)
    (steps : job.step cluster label = some next) (survives : label ≠ .crash executor) :
    (next.nodes executor).live = true ∧
      ∃ later, InstanceStep job mayUse executor cluster next label phase later := by
  by_cases acts : ∃ call, label.Runs executor call
  · obtain ⟨call, runs⟩ := acts
    obtain ⟨environment, runs⟩ := runs.cases
    obtain ⟨later, step, -, stillLive⟩ := invariant.step_own enabled uses runs steps
    exact ⟨stillLive.trans live, later, step⟩
  · have aside : Aside job.options mayUse executor cluster next :=
      instances.aside enabled uses steps (not_exists.mp acts) survives
    exact ⟨by rw [aside.node, live], phase, .aside phase aside⟩

theorem Instances.step
    (enabled : job.options.singleConsumerMode.enabled = true) (uses : job.UsesOwnMutexes mayUse)
    (instances : Instances job mayUse cluster) (steps : job.step cluster label = some next) :
    Instances job mayUse next := by
  have crashed (executor : String) (crashes : label = .crash executor) :
      (next.nodes executor).live = false ∧ ∀ call, (next.nodes executor).calls call = none := by
    subst crashes
    cases steps
    simp [crashNode]
  have stays (executor : String) (dead : (cluster.nodes executor).live = false)
      (survives : label ≠ .crash executor) : next.nodes executor = cluster.nodes executor :=
    (instances.aside_of_dead enabled uses steps dead survives).node
  constructor
  · intro executor dead call
    by_cases crashes : label = .crash executor
    · exact (crashed executor crashes).2 call
    · cases live : (cluster.nodes executor).live with
      | true =>
          obtain ⟨phase, invariant⟩ := instances.live executor live
          have stillLive := (instances.instanceStep enabled uses live invariant steps crashes).1
          rw [dead] at stillLive
          cases stillLive
      | false =>
          rw [stays executor live crashes]
          exact instances.dead executor live call
  · intro executor live
    by_cases crashes : label = .crash executor
    · rw [(crashed executor crashes).1] at live
      cases live
    · cases wasLive : (cluster.nodes executor).live with
      | true =>
          obtain ⟨phase, invariant⟩ := instances.live executor wasLive
          obtain ⟨-, later, step⟩ :=
            instances.instanceStep enabled uses wasLive invariant steps crashes
          exact ⟨later, step.invariant invariant⟩
      | false =>
          rw [stays executor wasLive crashes, wasLive] at live
          cases live

theorem Instances.initial (now : Nat) (locks : LeaseStore String Identifier) :
    Instances job mayUse (AbstractPeriodicJob.initialCluster now locks) where
  dead executor dead := by cases dead
  live executor _ := by
    refine ⟨.idle, rfl, rfl, ?_, .inl rfl⟩
    intro lock recorded
    cases recorded

theorem instances_of_run
    (enabled : job.options.singleConsumerMode.enabled = true) (uses : job.UsesOwnMutexes mayUse)
    {now : Nat} {locks : LeaseStore String Identifier} {labels : List Label}
    (reaches : run job.step (AbstractPeriodicJob.initialCluster now locks) labels =
      some cluster) : Instances job mayUse cluster :=
  run_invariant_of_step (fun _ _ _ instances steps => instances.step enabled uses steps)
    (.initial now locks) reaches

end Instances

/-! ## Invariants of one instance -/

/-- A property of an instance and its phase, which holds while its node lives. -/
structure InstanceHolds (job : AbstractPeriodicJob) (mayUse : String → Identifier → Prop)
    (executor : String) (property : Cluster → ProcessPhase → Prop) (cluster : Cluster) :
    Prop where
  instances : Instances job mayUse cluster
  live : (cluster.nodes executor).live = true →
    ∃ phase, InstanceInvariant job mayUse executor cluster phase ∧ property cluster phase

section InstanceHolds

variable {job : AbstractPeriodicJob} {mayUse : String → Identifier → Prop}
variable {executor : String} {property : Cluster → ProcessPhase → Prop}

theorem InstanceHolds.step {cluster next : Cluster} {label : Label}
    (enabled : job.options.singleConsumerMode.enabled = true) (uses : job.UsesOwnMutexes mayUse)
    (preserves : ∀ phase later, (next.nodes executor).live = true →
      InstanceInvariant job mayUse executor cluster phase →
      InstanceStep job mayUse executor cluster next label phase later →
      property cluster phase → property next later)
    (holds : InstanceHolds job mayUse executor property cluster)
    (steps : job.step cluster label = some next) :
    InstanceHolds job mayUse executor property next where
  instances := holds.instances.step enabled uses steps
  live := by
    intro live
    have survives : label ≠ .crash executor := by
      rintro rfl
      cases steps
      simp [crashNode] at live
    have wasLive : (cluster.nodes executor).live = true := by
      by_contra dead
      have aside := holds.instances.aside_of_dead enabled uses steps (by simpa using dead) survives
      rw [aside.node] at live
      exact dead live
    obtain ⟨phase, invariant, satisfied⟩ := holds.live wasLive
    obtain ⟨-, later, step⟩ :=
      holds.instances.instanceStep enabled uses wasLive invariant steps survives
    exact ⟨later, step.invariant invariant,
      preserves phase later live invariant step satisfied⟩

/-- What every permitted step preserves of an instance, a run of them preserves. -/
theorem InstanceHolds.run {condition : Cluster → Label → Prop} {first last : Cluster}
    {labels : List Label}
    (enabled : job.options.singleConsumerMode.enabled = true) (uses : job.UsesOwnMutexes mayUse)
    (preserves : ∀ cluster label next phase later, condition cluster label →
      job.step cluster label = some next → (next.nodes executor).live = true →
      InstanceInvariant job mayUse executor cluster phase →
      InstanceStep job mayUse executor cluster next label phase later →
      property cluster phase → property next later)
    (holds : InstanceHolds job mayUse executor property first)
    (permitted : EachStep job.step condition first labels)
    (runs : ServiceTemplate.run job.step first labels = some last) :
    InstanceHolds job mayUse executor property last := by
  apply run_invariant _ holds permitted runs
  intro cluster label next holds meets steps
  apply holds.step enabled uses _ steps
  exact fun phase later => preserves cluster label next phase later meets steps

end InstanceHolds

end ServiceTemplate.Jobs
