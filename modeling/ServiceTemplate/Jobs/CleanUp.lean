import ServiceTemplate.Jobs.Instances
import ServiceTemplate.Jobs.NestedLock

/-!
# What a call of `process` cleans up

Whatever fails under the lock, the call should stop the refresh timer of its
lock, and stop observing its transaction.  It does, unless the Redis command of
`updateMutex` fails: the `finally` block awaits it unguarded, before either.
-/

namespace ServiceTemplate.Jobs

open LeaseStore Cluster

/-- A step in which `errorReporter.report` does not throw on the node. -/
def Label.ReportReturns (executor : String) : Label → Prop
  | .start node _ environment | .resume node _ environment =>
      node = executor → environment.reportThrows = none
  | _ => True

/-- What a call has done when it settles that has acquired the lock in one of
the steps. -/
structure CleansUp (executor : String) (lock : Mutex) (steps : List Label) (redis : RedisReply)
    (asking settled : Cluster) : Prop where
  timerStopped : ∀ timer ∈ settled.timers, timer.owner = executor → timer.mutex ≠ lock
  stopCalled : stopCalls executor (settled.nodes executor).journal =
    stopCalls executor (asking.nodes executor).journal + 1
  /-- if nothing has failed but `processInternal`, the call succeeds -/
  resolves : (∀ label ∈ steps, label.ReportReturns executor) → redis = .answered →
    (settled.nodes executor).journal.head? = some (settled.now, .callSettled none)

/-- A call holds the lock, with what it will settle with. -/
structure UnderLock (job : AbstractPeriodicJob) (mayUse : String → Identifier → Prop)
    (executor : String) (lock : Mutex) (harmless : Prop) (stops : Nat) (cluster : Cluster)
    (phase : ProcessPhase) : Prop where
  live : (cluster.nodes executor).live = true
  invariant : InstanceInvariant job mayUse executor cluster phase
  locked : phase.lock = some lock
  counted : stopCalls executor (cluster.nodes executor).journal = stops
  outcome : harmless → phase.outcome = .ok ()

section CleanUp

variable {job : AbstractPeriodicJob} {mayUse : String → Identifier → Prop}
variable {executor : String} {lock : Mutex} {harmless : Prop} {stops : Nat}
variable {cluster next : Cluster} {phase : ProcessPhase} {label : Label}

theorem ProcessPhase.waits_of_lock (locked : phase.lock = some lock) :
    phase.waitsFor job executor ≠ none := by
  cases phase with
  | executing held rest => exact Option.some_ne_none _
  | renewing held ref outcome => exact Option.some_ne_none _
  | _ => cases locked

theorem Label.ReportReturns.environment {environment : Environment} {call : Call}
    (returns : label.ReportReturns executor)
    (runs : label = .start executor call environment ∨ label = .resume executor call environment) :
    environment.reportThrows = none := by
  rcases runs with rfl | rfl
  · exact returns rfl
  · exact returns rfl

/-- The step in which the recorded lock becomes the given one is a step of
`process` that has got this lock. -/
theorem underLock_of_recorded
    (enabled : job.options.singleConsumerMode.enabled = true) (uses : job.UsesOwnMutexes mayUse)
    (instances : Instances job mayUse cluster) (steps : job.step cluster label = some next)
    (unrecorded : (cluster.nodes executor).singleConsumerLock ≠ some lock)
    (recorded : (next.nodes executor).singleConsumerLock = some lock)
    (returns : harmless → label.ReportReturns executor) :
    ∃ later, UnderLock job mayUse executor lock harmless
      (stopCalls executor (cluster.nodes executor).journal) next later := by
  have changed : (next.nodes executor).singleConsumerLock ≠
      (cluster.nodes executor).singleConsumerLock := by
    rw [recorded]
    exact unrecorded.symm
  have survives : label ≠ .crash executor := by
    rintro rfl
    cases steps
    apply changed
    simp [crashNode]
  have live : (cluster.nodes executor).live = true := by
    by_contra dead
    apply changed
    rw [(instances.aside_of_dead enabled uses steps (by simpa using dead) survives).node]
  obtain ⟨phase, invariant⟩ := instances.live executor live
  obtain ⟨liveStill, later, step⟩ :=
    instances.instanceStep enabled uses live invariant steps survives
  have after : InstanceInvariant job mayUse executor next later := step.invariant invariant
  cases step with
  | aside phase aside => exact absurd (by rw [aside.node]) changed
  | dispose environment phase runs step disposes => exact absurd disposes.recorded changed
  | process environment phase later runs step rests =>
      refine ⟨later, liveStill, after, ?_, ?_, ?_⟩
      · rcases step.recorded_cases recorded with earlier | ⟨ref, external, -, -, locked⟩
        · exact absurd earlier unrecorded
        · exact locked
      · exact step.stops_of_changed changed
      · intro harmless
        apply step.outcome_of_returns
        exact (returns harmless).environment (runs.imp_left And.left)

/-- A call that is still in flight after a step keeps the lock it has got. -/
theorem UnderLock.step
    (enabled : job.options.singleConsumerMode.enabled = true) (uses : job.UsesOwnMutexes mayUse)
    (instances : Instances job mayUse cluster) (steps : job.step cluster label = some next)
    (holds : UnderLock job mayUse executor lock harmless stops cluster phase)
    (returns : harmless → label.ReportReturns executor)
    (inFlight : (next.nodes executor).calls .process ≠ none) :
    ∃ later, UnderLock job mayUse executor lock harmless stops next later := by
  have survives : label ≠ .crash executor := by
    rintro rfl
    cases steps
    apply inFlight
    simp [crashNode]
  obtain ⟨liveStill, later, step⟩ :=
    instances.instanceStep enabled uses holds.live holds.invariant steps survives
  have after : InstanceInvariant job mayUse executor next later := step.invariant holds.invariant
  have going : later ≠ .idle := by
    rintro rfl
    exact inFlight after.waits
  cases step with
  | aside phase aside =>
      refine ⟨phase, liveStill, after, holds.locked, ?_, holds.outcome⟩
      rw [aside.node, holds.counted]
  | dispose environment phase runs step disposes =>
      exact ⟨phase, liveStill, after, holds.locked, disposes.stops.trans holds.counted,
        holds.outcome⟩
  | process environment phase later runs step rests =>
      have locked := holds.locked
      cases step with
      | proceed held rest later lockedStill recorded timers stops outcome =>
          refine ⟨later, liveStill, after, lockedStill.trans locked, stops.trans holds.counted, ?_⟩
          intro harmless
          exact outcome ((returns harmless).environment (runs.imp_left And.left))
      | enter phase later ref external attempting =>
          rcases attempting with rfl | rfl
          · cases locked
          · cases locked
      | begin => cases locked
      | refuse ref => cases locked
      | _ => exact absurd rfl going

/-- A call keeps the lock it has got for as long as it is in flight. -/
theorem UnderLock.run
    (enabled : job.options.singleConsumerMode.enabled = true) (uses : job.UsesOwnMutexes mayUse)
    {labels : List Label} {acquired inFlight : Cluster}
    (instances : Instances job mayUse acquired)
    (holds : UnderLock job mayUse executor lock harmless stops acquired phase)
    (returns : harmless → ∀ label ∈ labels, label.ReportReturns executor)
    (unsettled : EachState job.step
      (fun cluster => (cluster.nodes executor).calls .process ≠ none) acquired labels)
    (runs : ServiceTemplate.run job.step acquired labels = some inFlight) :
    ∃ later, UnderLock job mayUse executor lock harmless stops inFlight later := by
  induction labels generalizing acquired phase with
  | nil =>
      cases runs
      exact ⟨phase, holds⟩
  | cons label labels ih =>
      obtain ⟨next, steps, rest⟩ := run_cons_eq_some runs
      have nextUnsettled := unsettled.2 next steps
      obtain ⟨later, nextHolds⟩ : ∃ later,
          UnderLock job mayUse executor lock harmless stops next later := by
        apply holds.step enabled uses instances steps _ nextUnsettled.first
        exact fun harmless => returns harmless label List.mem_cons_self
      apply ih (instances.step enabled uses steps) nextHolds _ nextUnsettled rest
      exact fun harmless other member => returns harmless other (List.mem_cons_of_mem _ member)

/-- The last step of a call under its lock is the end of its `finally` block. -/
theorem UnderLock.settle {environment : Environment} {settled : Cluster}
    (enabled : job.options.singleConsumerMode.enabled = true) (uses : job.UsesOwnMutexes mayUse)
    (holds : UnderLock job mayUse executor lock harmless stops cluster phase)
    (settles : job.step cluster (.resume executor .process environment) = some settled)
    (ended : (settled.nodes executor).calls .process = none) :
    environment.redis = .answered ∧
        (∀ timer ∈ settled.timers, timer.owner = executor → timer.mutex ≠ lock) ∧
        stopCalls executor (settled.nodes executor).journal = stops + 1 ∧
        (harmless →
          (settled.nodes executor).journal.head? = some (settled.now, .callSettled none)) ∨
      environment.redis ≠ .answered ∧
        stopCalls executor (settled.nodes executor).journal = stops := by
  obtain ⟨later, step, rests⟩ : Proceeds job (mayUse executor) executor environment phase
      cluster settled :=
    proceeds_of_step enabled (uses executor) (fun lock recorded =>
      (holds.invariant.owns lock recorded).1) holds.invariant.waits holds.invariant.holds
      (.inr rfl) settles
  have gone : later.waitsFor job executor = none := by rw [← rests.waits, ended]
  have locked := holds.locked
  have outcome := holds.outcome
  cases step with
  | close held ref outcomeHeld answered recorded timers ungiven stopped settling =>
      cases locked
      refine .inl ⟨answered, ?_, ?_, fun harmless => settling (outcome harmless)⟩
      · exact fun timer member owner same => (timers timer member).2 ⟨owner, same⟩
      · rw [stopped, holds.counted]
  | abandon held ref outcomeHeld unanswered quiet ungiven =>
      exact .inr ⟨unanswered, quiet.stops.trans holds.counted⟩
  | proceed held rest later lockedStill =>
      exact absurd gone (ProcessPhase.waits_of_lock lockedStill)
  | enter phase later ref external attempting lockedStill =>
      exact absurd gone (ProcessPhase.waits_of_lock lockedStill)
  | fail phase attempting =>
      rw [attempting] at locked
      cases locked
  | begin => cases locked
  | refuse ref => cases locked
  | skip ref => cases locked

end CleanUp

/-- Of every call that has got the lock, whatever it does under the lock and
whatever fails in it and around it: when it settles, it has cleaned up if and
only if Redis has answered the command of `updateMutex`, which is the last
command that a call waits for. -/
theorem cleansUp_iff (job : AbstractPeriodicJob)
    (enabled : job.options.singleConsumerMode.enabled = true)
    (uses : job.UsesOwnMutexes fun _ _ => True) (now : Nat)
    (locks : LeaseStore String Identifier) (labels : List Label) (asking : Cluster)
    (reaches : run job.step (AbstractPeriodicJob.initialCluster now locks) labels = some asking)
    (executor : String) (label : Label) (lock : Mutex) (acquired : Cluster)
    (acquires : job.step asking label = some acquired)
    (unrecorded : (asking.nodes executor).singleConsumerLock ≠ some lock)
    (recorded : (acquired.nodes executor).singleConsumerLock = some lock)
    (during : List Label) (inFlight : Cluster)
    (unsettled : EachState job.step
      (fun cluster => (cluster.nodes executor).calls .process ≠ none) acquired during)
    (runs : run job.step acquired during = some inFlight)
    (environment : Environment) (settled : Cluster)
    (settles : job.step inFlight (.resume executor .process environment) = some settled)
    (ended : (settled.nodes executor).calls .process = none) :
    CleansUp executor lock (label :: during ++ [.resume executor .process environment])
        environment.redis asking settled ↔ environment.redis = .answered := by
  let harmless : Prop := ∀ step ∈ label :: during ++ [.resume executor .process environment],
    step.ReportReturns executor
  have instances : Instances job (fun _ _ => True) asking :=
    instances_of_run enabled uses reaches
  obtain ⟨phase, holds⟩ : ∃ phase, UnderLock job (fun _ _ => True) executor lock harmless
      (stopCalls executor (asking.nodes executor).journal) acquired phase := by
    apply underLock_of_recorded enabled uses instances acquires unrecorded recorded
    exact fun returns => returns label (by simp)
  obtain ⟨later, still⟩ := holds.run enabled uses (instances.step enabled uses acquires)
    (fun returns step member => returns step (by simp [member])) unsettled runs
  rcases still.settle enabled uses settles ended with
    ⟨answered, timers, stopped, resolves⟩ | ⟨unanswered, notStopped⟩
  · exact iff_of_true ⟨timers, stopped, fun returns _ => resolves returns⟩ answered
  · apply iff_of_false _ unanswered
    intro cleansUp
    have stopped := cleansUp.stopCalled
    rw [notStopped] at stopped
    exact absurd stopped (Nat.ne_add_one _)

/-- The lock that the first call on a node acquires. -/
def firstLock : Mutex :=
  DeleteOldUsersJob.job.lockMutex "a" 0 false

/-- Redis rejects a command. -/
def redisFails : Environment :=
  { allSucceeds with redis := .rejected (.error "Connection is closed.") }

/-- Redis rejects a command, and the error cannot be reported. -/
def redisAndReportFail : Environment :=
  { redisFails with reportThrows := some (.error "reporter is down") }

/-- The call gets its lock.  Its `processInternal` rejects, the report of the
error throws, and the renewal of the lock is answered. -/
def failsUnderLock : List Label :=
  [.resume "a" .process allSucceeds, .resume "a" .process redisAndReportFail,
    .resume "a" .process allSucceeds]

/-- A call in which both `processInternal` and the report of its error fail cleans up. -/
theorem failedCall_cleansUp :
    ∃ asking settled, run DeleteOldUsersJob.job.step
        (AbstractPeriodicJob.initialCluster 0 fun _ => none)
        [.start "a" .process allSucceeds] = some asking ∧
      run DeleteOldUsersJob.job.step asking failsUnderLock = some settled ∧
      (settled.nodes "a").journal.head? =
        some (settled.now, .callSettled (some (.error "reporter is down"))) ∧
      CleansUp "a" firstLock failsUnderLock .answered asking settled := by
  refine ⟨_, _, rfl, rfl, ?_, ?_⟩
  · decide +kernel
  · have cleansUp := cleansUp_iff DeleteOldUsersJob.job rfl
      (DeleteOldUsersJob.usesOwnAnonymousLocks.usesOwnMutexes fun _ _ => trivial) 0 (fun _ => none)
      [.start "a" .process allSucceeds] _ rfl "a" (.resume "a" .process allSucceeds) firstLock _ rfl
      (Option.some_ne_none firstLock).symm rfl [.resume "a" .process redisAndReportFail] _
      (by
        refine ⟨Option.some_ne_none _, fun next steps => ?_⟩
        cases steps
        exact Option.some_ne_none _)
      rfl allSucceeds _ rfl rfl
    exact cleansUp.mpr rfl

/-- When the command of `updateMutex` is rejected, the timer of the lock goes on,
and the transaction is observed for ever. -/
theorem not_cleansUp_of_rejected :
    ∃ asking settled, run DeleteOldUsersJob.job.step
        (AbstractPeriodicJob.initialCluster 0 fun _ => none)
        [.start "a" .process allSucceeds] = some asking ∧
      run DeleteOldUsersJob.job.step asking
        [.resume "a" .process allSucceeds, .resume "a" .process allSucceeds,
          .resume "a" .process redisFails] = some settled ∧
      (asking.nodes "a").singleConsumerLock = none ∧
      (settled.nodes "a").singleConsumerLock = some firstLock ∧
      (settled.nodes "a").calls .process = none ∧
      (∃ timer ∈ settled.timers, timer.owner = "a" ∧ timer.mutex = firstLock) ∧
      stopCalls "a" (settled.nodes "a").journal = stopCalls "a" (asking.nodes "a").journal := by
  exact ⟨_, _, rfl, rfl, rfl, rfl, rfl, ⟨_, List.mem_cons_self, rfl, rfl⟩, rfl⟩

end ServiceTemplate.Jobs
