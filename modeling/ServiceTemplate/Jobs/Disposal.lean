import ServiceTemplate.Jobs.CleanUp

/-!
# The disposal of an instance

`dispose` deletes the lock that is recorded when it starts, and does not wait
for the call of `process` that is in flight.  It is safe and complete if this
call has left `processInternal`, or does not get the lock any more.  It is
complete also while `processInternal` runs without the executor's identifier.
-/

namespace ServiceTemplate.Jobs

open LeaseStore Program Cluster

/-- Redis answers the commands of the executor. -/
def Label.RedisAnswersTo (executor : String) : Label → Prop
  | .start node _ environment | .resume node _ environment =>
      node = executor → environment.redis = .answered
  | _ => True

/-- No timer of the executor refreshes the lock of the mutex. -/
def Unrefreshed (executor : String) (lock : Mutex) (cluster : Cluster) : Prop :=
  ∀ timer ∈ cluster.timers, timer.owner = executor → timer.mutex ≠ lock

/-- No call of `process` is in flight, or the one in flight has left
`processInternal` and waits for the renewal of its lock. -/
def LeftBody (job : AbstractPeriodicJob) (executor : String) (cluster : Cluster) : Prop :=
  (cluster.nodes executor).calls .process = none ∨
    ∃ lock ref outcome,
      (cluster.nodes executor).calls .process = some (job.renew executor lock ref outcome)

/-- No call on the node has got a lock since the state `before`. -/
def Unacquired (executor : String) (before cluster : Cluster) : Prop :=
  (cluster.nodes executor).live = true →
    (cluster.nodes executor).singleConsumerLock = none ∨
      (cluster.nodes executor).singleConsumerLock = (before.nodes executor).singleConsumerLock

/-- The call of `process` that is in flight when `dispose` starts has left
`processInternal`, or has not entered it and does not get the lock any more. -/
def Undisturbed (job : AbstractPeriodicJob) (executor : String) (before disposing : Cluster)
    (later : List Label) : Prop :=
  LeftBody job executor before ∨
    ¬ before.Executing executor ∧ EachState job.step (Unacquired executor before) disposing later

/-- Only the executor itself uses its identifier. -/
def LeavesIdentifier (executor node : String) (identifier : Identifier) : Prop :=
  node ≠ executor → identifier ≠ .given executor

/-- No body uses the identifier of the executor, its own included. -/
def SparesIdentifier (executor _node : String) (identifier : Identifier) : Prop :=
  identifier ≠ .given executor

/-! ## The locks that an instance has got -/

/-- The mutex is older than the ones by which the call asks for a lock, and not
newer than the one that the call holds. -/
structure OlderThan (lock : Mutex) (cluster : Cluster) (phase : ProcessPhase) : Prop where
  constructed : lock.ref < cluster.constructed
  attempt : ∀ ref, phase = .asking ref ∨ phase = .retrying ref → lock.ref < ref
  held : ∀ other, phase.lock = some other → lock.ref ≤ other.ref

/-- The timer of the lock runs under the lock only, if Redis answers. -/
structure Tracks (executor : String) (reliable : Prop) (lock : Mutex) (cluster : Cluster)
    (phase : ProcessPhase) : Prop where
  older : OlderThan lock cluster phase
  timer : reliable → phase.lock = some lock ∨ Unrefreshed executor lock cluster

/-- The key is not held while no lock is recorded, if Redis answers. -/
structure Accounts (options : JobOptions) (executor : String) (reliable : Prop)
    (cluster : Cluster) (phase : ProcessPhase) : Prop where
  recorded : ∀ lock, (cluster.nodes executor).singleConsumerLock = some lock →
    Tracks executor reliable lock cluster phase
  unheld : reliable → (cluster.nodes executor).singleConsumerLock = none →
    cluster.locks.holder cluster.now options.exclusiveKey ≠ some (.given executor)

section Locks

variable {job : AbstractPeriodicJob} {mayUse : String → Identifier → Prop}
variable {executor : String} {lock : Mutex} {reliable : Prop}
variable {cluster next : Cluster} {phase later : ProcessPhase} {label : Label}

theorem Label.RedisAnswersTo.environment {environment : Environment} {call : Call}
    (answers : label.RedisAnswersTo executor)
    (runs : label = .start executor call environment ∨ label = .resume executor call environment) :
    environment.redis = .answered := by
  rcases runs with rfl | rfl
  · exact answers rfl
  · exact answers rfl

theorem OlderThan.of_idle (constructed : lock.ref < cluster.constructed) :
    OlderThan lock cluster .idle where
  constructed := constructed
  attempt := by rintro ref (asks | retries) <;> contradiction
  held := by rintro other ⟨⟩

theorem OlderThan.of_lock {held : Mutex} (constructed : lock.ref < cluster.constructed)
    (locked : phase.lock = some held) (older : lock.ref ≤ held.ref) :
    OlderThan lock cluster phase where
  constructed := constructed
  attempt := by
    rintro ref (rfl | rfl)
    · cases locked
    · cases locked
  held other same := by
    rw [locked] at same
    cases same
    exact older

theorem OlderThan.step (older : OlderThan lock cluster phase)
    (step : InstanceStep job mayUse executor cluster next label phase later) :
    OlderThan lock next later := by
  cases step with
  | aside phase aside =>
      exact ⟨Nat.lt_of_lt_of_le older.constructed aside.constructed, older.attempt, older.held⟩
  | dispose environment phase runs step disposes =>
      exact ⟨Nat.lt_of_lt_of_le older.constructed disposes.affects.constructed, older.attempt,
        older.held⟩
  | process environment phase later runs step rests =>
      have constructed : lock.ref < next.constructed :=
        Nat.lt_of_lt_of_le older.constructed rests.affects.constructed
      cases step with
      | begin =>
          refine ⟨constructed, ?_, by rintro other ⟨⟩⟩
          rintro ref (same | same)
          · cases same
            exact older.constructed
          · cases same
      | refuse ref =>
          refine ⟨constructed, ?_, by rintro other ⟨⟩⟩
          rintro ref (same | same)
          · cases same
          · cases same
            exact older.constructed
      | enter phase later ref external attempting locked =>
          exact .of_lock constructed locked (Nat.le_of_lt (older.attempt ref attempting))
      | proceed held rest later locked =>
          exact .of_lock constructed locked (older.held held rfl)
      | _ => exact .of_idle constructed

/-- No step starts the timer of a lock that was got before. -/
theorem Unrefreshed.step (invariant : InstanceInvariant job mayUse executor cluster phase)
    (older : OlderThan lock cluster phase)
    (step : InstanceStep job mayUse executor cluster next label phase later)
    (unrefreshed : Unrefreshed executor lock cluster) : Unrefreshed executor lock next := by
  have keeps (same : next.timers = cluster.timers) : Unrefreshed executor lock next := by
    unfold Unrefreshed
    rw [same]
    exact unrefreshed
  cases step with
  | aside phase aside =>
      intro timer member owner same
      obtain ⟨earlier, wasMember, wasOwner, mutex⟩ := aside.timers timer member owner
      exact unrefreshed earlier wasMember wasOwner (mutex.trans same)
  | dispose environment phase runs step disposes =>
      exact fun timer member => unrefreshed timer (disposes.timers timer member)
  | process environment phase later runs step rests =>
      cases step with
      | begin quiet => exact keeps quiet.timers
      | refuse ref quiet => exact keeps quiet.timers
      | fail phase attempting quiet => exact keeps quiet.timers
      | abandon held ref outcome unanswered quiet => exact keeps quiet.timers
      | skip ref recorded timers => exact keeps timers
      | enter phase later ref external attempting locked recorded timers =>
          have younger : lock.ref < ref := older.attempt ref attempting
          rintro timer member owner rfl
          rcases timers timer member with earlier | isLock | newer
          · exact unrefreshed timer earlier owner rfl
          · rw [isLock] at younger
            exact Nat.lt_irrefl _ younger
          · omega
      | proceed held rest later locked recorded timers =>
          have younger : lock.ref ≤ held.ref := older.held held rfl
          rintro timer member owner rfl
          rcases timers timer member with earlier | newer
          · exact unrefreshed timer earlier owner rfl
          · omega
      | close held ref outcome answered recorded timers =>
          have younger : lock.ref ≤ held.ref := older.held held rfl
          obtain ⟨-, -, fresh, -⟩ := invariant.holds
          rintro timer member owner rfl
          rcases (timers timer member).1 with earlier | renewal
          · exact unrefreshed timer earlier owner rfl
          · omega

theorem Tracks.step (invariant : InstanceInvariant job mayUse executor cluster phase)
    (tracks : Tracks executor reliable lock cluster phase)
    (answers : reliable → label.RedisAnswersTo executor)
    (step : InstanceStep job mayUse executor cluster next label phase later) :
    Tracks executor reliable lock next later where
  older := tracks.older.step step
  timer := by
    intro isReliable
    rcases tracks.timer isReliable with locked | unrefreshed
    · cases step with
      | aside phase aside => exact .inl locked
      | dispose environment phase runs step disposes => exact .inl locked
      | process environment phase later runs step rests =>
          cases step with
          | begin => cases locked
          | refuse ref => cases locked
          | skip ref => cases locked
          | fail phase attempting =>
              rw [attempting] at locked
              cases locked
          | enter phase later ref external attempting =>
              rcases attempting with rfl | rfl
              · cases locked
              · cases locked
          | proceed held rest later lockedStill =>
              exact .inl (lockedStill.trans locked)
          | close held ref outcome answered recorded timers =>
              cases locked
              exact .inr fun timer member owner same => (timers timer member).2 ⟨owner, same⟩
          | abandon held ref outcome unanswered =>
              have answered := (answers isReliable).environment (runs.imp_left And.left)
              exact absurd answered unanswered
    · exact .inr (unrefreshed.step invariant tracks.older step)

/-- What a step records is what was recorded before, or a lock it has got. -/
theorem InstanceStep.recorded_cases
    (step : InstanceStep job mayUse executor cluster next label phase later)
    (recorded : (next.nodes executor).singleConsumerLock = some lock) :
    (cluster.nodes executor).singleConsumerLock = some lock ∨ later.lock = some lock := by
  cases step with
  | aside phase aside => exact .inl (aside.node ▸ recorded)
  | dispose environment phase runs step disposes => exact .inl (disposes.recorded ▸ recorded)
  | process environment phase later runs step rests =>
      rcases step.recorded_cases recorded with earlier | ⟨ref, external, -, -, locked⟩
      · exact .inl earlier
      · exact .inr locked

theorem Accounts.step (forbidden : ∀ other, other ≠ executor → ¬ mayUse other (.given executor))
    (invariant : InstanceInvariant job mayUse executor cluster phase)
    (accounts : Accounts job.options executor reliable cluster phase)
    (answers : reliable → label.RedisAnswersTo executor)
    (step : InstanceStep job mayUse executor cluster next label phase later) :
    Accounts job.options executor reliable next later where
  recorded lock recorded := by
    rcases step.recorded_cases recorded with earlier | locked
    · exact (accounts.recorded lock earlier).step invariant answers step
    · have constructed := ((step.invariant invariant).owns lock recorded).2
      exact ⟨.of_lock constructed locked (Nat.le_refl _), fun _ => .inl locked⟩
  unheld isReliable recorded := by
    have keeps (same : (next.nodes executor).singleConsumerLock =
          (cluster.nodes executor).singleConsumerLock)
        (ungiven : Ungiven job.options executor cluster next) :
        next.locks.holder next.now job.options.exclusiveKey ≠ some (.given executor) :=
      fun held => accounts.unheld isReliable (same ▸ recorded) (ungiven held)
    cases step with
    | aside phase aside => exact keeps (by rw [aside.node]) (aside.ungiven forbidden)
    | dispose environment phase runs step disposes => exact keeps disposes.recorded disposes.ungiven
    | process environment phase later runs step rests =>
        cases step with
        | begin quiet ungiven => exact keeps quiet.recorded ungiven
        | refuse ref quiet ungiven => exact keeps quiet.recorded ungiven
        | fail phase attempting quiet ungiven =>
            apply keeps quiet.recorded
            exact ungiven ((answers isReliable).environment (runs.imp_left And.left))
        | skip ref forgotten timers stops free => exact free
        | enter phase later ref external attempting locked entered =>
            rw [entered] at recorded
            cases recorded
        | proceed held rest later locked same =>
            obtain ⟨body, -⟩ := invariant.holds
            rw [same, body.recorded] at recorded
            cases recorded
        | close held ref outcome answered same timers ungiven => exact keeps same ungiven
        | abandon held ref outcome unanswered quiet ungiven => exact keeps quiet.recorded ungiven

theorem Accounts.run
    (enabled : job.options.singleConsumerMode.enabled = true) (uses : job.UsesOwnMutexes mayUse)
    (forbidden : ∀ other, other ≠ executor → ¬ mayUse other (.given executor))
    {now : Nat} {locks : LeaseStore String Identifier} {labels : List Label}
    (initially : reliable → locks.holder now job.options.exclusiveKey ≠ some (.given executor))
    (answers : reliable → ∀ label ∈ labels, label.RedisAnswersTo executor)
    (reaches : ServiceTemplate.run job.step (AbstractPeriodicJob.initialCluster now locks) labels =
      some cluster) :
    InstanceHolds job mayUse executor (Accounts job.options executor reliable) cluster := by
  have first : InstanceHolds job mayUse executor (Accounts job.options executor reliable)
      (AbstractPeriodicJob.initialCluster now locks) := by
    have instances : Instances job mayUse (AbstractPeriodicJob.initialCluster now locks) :=
      .initial now locks
    refine ⟨instances, fun live => ?_⟩
    obtain ⟨phase, invariant⟩ := instances.live executor live
    exact ⟨phase, invariant, (by rintro lock ⟨⟩), fun isReliable _ => initially isReliable⟩
  apply first.run enabled uses _ (.of_forall _ _) reaches
  · exact fun _ label => reliable → label.RedisAnswersTo executor
  · intro state label next phase later answered steps live invariant step accounts
    exact accounts.step forbidden invariant answered step
  · exact fun label member _ isReliable => answers isReliable label member

theorem Tracks.run {first last : Cluster} {labels : List Label}
    (enabled : job.options.singleConsumerMode.enabled = true) (uses : job.UsesOwnMutexes mayUse)
    (tracks : InstanceHolds job mayUse executor (Tracks executor reliable lock) first)
    (answers : reliable → ∀ label ∈ labels, label.RedisAnswersTo executor)
    (runs : ServiceTemplate.run job.step first labels = some last) :
    InstanceHolds job mayUse executor (Tracks executor reliable lock) last := by
  apply tracks.run enabled uses _ (.of_forall _ _) runs
  · exact fun _ label => reliable → label.RedisAnswersTo executor
  · intro state label next phase later answered steps live invariant step tracks
    exact tracks.step invariant answered step
  · exact fun label member _ isReliable => answers isReliable label member

/-- While no call is in flight, no timer runs for a lock that was recorded. -/
theorem unrefreshed_of_recorded {now : Nat} {locks : LeaseStore String Identifier}
    {labels rest : List Label} {state last : Cluster}
    (enabled : job.options.singleConsumerMode.enabled = true) (uses : job.UsesOwnMutexes mayUse)
    (forbidden : ∀ other, other ≠ executor → ¬ mayUse other (.given executor))
    (free : locks.holder now job.options.exclusiveKey ≠ some (.given executor))
    (answers : ∀ label ∈ labels ++ rest, label.RedisAnswersTo executor)
    (reaches : run job.step (AbstractPeriodicJob.initialCluster now locks) labels = some state)
    (recorded : (state.nodes executor).singleConsumerLock = some lock)
    (continues : run job.step state rest = some last)
    (live : (last.nodes executor).live = true)
    (settled : (last.nodes executor).calls .process = none) :
    Unrefreshed executor lock last := by
  have accounts : InstanceHolds job mayUse executor
      (Accounts job.options executor True) state :=
    Accounts.run enabled uses forbidden (fun _ => free)
      (fun _ label member => answers label (List.mem_append_left _ member)) reaches
  have tracked : InstanceHolds job mayUse executor (Tracks executor True lock) state := by
    refine ⟨accounts.instances, fun living => ?_⟩
    obtain ⟨phase, invariant, accounts⟩ := accounts.live living
    exact ⟨phase, invariant, accounts.recorded lock recorded⟩
  have tracks : InstanceHolds job mayUse executor (Tracks executor True lock) last :=
    Tracks.run enabled uses tracked
      (fun _ label member => answers label (List.mem_append_right _ member)) continues
  obtain ⟨phase, invariant, tracks⟩ := tracks.live live
  rcases tracks.timer trivial with locked | unrefreshed
  · rw [invariant.waits] at settled
    exact absurd settled (ProcessPhase.waits_of_lock locked)
  · exact unrefreshed

end Locks

/-! ## After the start of `dispose` -/

/-- What holds of an instance that is being disposed of, as long as no call gets
the lock. -/
structure Disposed (options : JobOptions) (mayUse : String → Identifier → Prop)
    (executor : String) (before : Cluster) (reliable : Prop) (cluster : Cluster)
    (phase : ProcessPhase) : Prop where
  /-- a body in flight spares the identifier -/
  outside : mayUse executor (.given executor) → ∀ lock rest, phase ≠ .executing lock rest
  retired : ∀ lock, (before.nodes executor).singleConsumerLock = some lock →
    OlderThan lock cluster phase ∧ Unrefreshed executor lock cluster
  unheld : reliable → (cluster.nodes executor).calls .dispose = none →
    cluster.locks.holder cluster.now options.exclusiveKey ≠ some (.given executor)

section Dispose

variable {job : AbstractPeriodicJob} {mayUse : String → Identifier → Prop}
variable {executor : String} {reliable : Prop}
variable {before cluster next : Cluster} {phase later : ProcessPhase} {label : Label}

theorem InstanceInvariant.outside
    (invariant : InstanceInvariant job mayUse executor cluster phase)
    (outside : ∀ lock rest, phase ≠ .executing lock rest) : ¬ cluster.Executing executor := by
  rintro ⟨-, inside⟩
  have holds := invariant.holds
  have notInside : inBody (cluster.nodes executor).journal = false := by
    cases phase with
    | idle => exact holds
    | asking ref => exact holds.1
    | retrying ref => exact holds.1
    | executing lock rest => exact absurd rfl (outside lock rest)
    | renewing lock ref outcome => exact holds.1
  rw [inside] at notInside
  cases notInside

/-- A lock that is recorded anew is one that a call has got. -/
theorem Disposed.unattempted {ref : Nat} {external : Bool}
    (disposed : Disposed job.options mayUse executor before reliable cluster phase)
    (recorded : (next.nodes executor).singleConsumerLock =
      some (job.lockMutex executor ref external))
    (unacquired : (next.nodes executor).singleConsumerLock = none ∨
      (next.nodes executor).singleConsumerLock = (before.nodes executor).singleConsumerLock) :
    ¬ (phase = .asking ref ∨ phase = .retrying ref) := by
  intro attempting
  rcases unacquired with none | same
  · rw [recorded] at none
    cases none
  · obtain ⟨older, -⟩ := disposed.retired _ (same.symm.trans recorded)
    exact Nat.lt_irrefl _ (older.attempt ref attempting)

theorem Disposed.step (forbidden : ∀ other, other ≠ executor → ¬ mayUse other (.given executor))
    (invariant : InstanceInvariant job mayUse executor cluster phase)
    (disposed : Disposed job.options mayUse executor before reliable cluster phase)
    (answers : reliable → label.RedisAnswersTo executor)
    (step : InstanceStep job mayUse executor cluster next label phase later)
    (live : (next.nodes executor).live = true) (unacquired : Unacquired executor before next) :
    Disposed job.options mayUse executor before reliable next later where
  outside permitted := by
    cases step with
    | aside phase aside => exact disposed.outside permitted
    | dispose environment phase runs step disposes => exact disposed.outside permitted
    | process environment phase later runs step rests =>
        cases step with
        | proceed held rest => exact absurd rfl (disposed.outside permitted held rest)
        | enter phase later ref external attempting locked recorded =>
            exact absurd attempting (disposed.unattempted recorded (unacquired live))
        | _ => rintro lock rest ⟨⟩
  retired lock recorded := by
    obtain ⟨older, unrefreshed⟩ := disposed.retired lock recorded
    exact ⟨older.step step, unrefreshed.step invariant older step⟩
  unheld isReliable ended := by
    have keeps (same : (next.nodes executor).calls .dispose =
          (cluster.nodes executor).calls .dispose)
        (ungiven : Ungiven job.options executor cluster next) :
        next.locks.holder next.now job.options.exclusiveKey ≠ some (.given executor) :=
      fun held => disposed.unheld isReliable (same ▸ ended) (ungiven held)
    cases step with
    | aside phase aside => exact keeps (by rw [aside.node]) (aside.ungiven forbidden)
    | dispose environment phase runs step disposes =>
        cases step with
        | unlocked recorded idle stillIdle => exact keeps (ended.trans idle.symm) disposes.ungiven
        | release lock recorded idle waits =>
            rw [waits] at ended
            cases ended
        | delete lock waits stillIdle deleted =>
            exact deleted ((answers isReliable).environment runs)
    | process environment phase later runs step rests =>
        cases step with
        | begin quiet ungiven => exact keeps rests.disposing ungiven
        | refuse ref quiet ungiven => exact keeps rests.disposing ungiven
        | fail phase attempting quiet ungiven =>
            apply keeps rests.disposing
            exact ungiven ((answers isReliable).environment (runs.imp_left And.left))
        | skip ref forgotten timers stops free => exact free
        | enter phase later ref external attempting locked recorded =>
            exact absurd attempting (disposed.unattempted recorded (unacquired live))
        | proceed held rest later locked same timers stops harmless ungiven =>
            apply keeps rests.disposing
            exact ungiven fun permitted => disposed.outside permitted held rest rfl
        | close held ref outcome answered same timers ungiven => exact keeps rests.disposing ungiven
        | abandon held ref outcome unanswered quiet ungiven => exact keeps rests.disposing ungiven

theorem disposed_of_start {environment : Environment}
    (enabled : job.options.singleConsumerMode.enabled = true) (uses : job.UsesOwnMutexes mayUse)
    (outside : mayUse executor (.given executor) → ¬ before.Executing executor)
    (accounts : InstanceHolds job mayUse executor (Accounts job.options executor reliable) before)
    (steps : job.step before (.start executor .dispose environment) = some next) :
    InstanceHolds job mayUse executor (Disposed job.options mayUse executor before reliable)
      next where
  instances := accounts.instances.step enabled uses steps
  live := by
    intro liveNext
    obtain ⟨step, disposes⟩ : DisposeStep job.options executor environment before next ∧
        Disposes job.options (mayUse executor) executor before next := dispose_of_start steps
    obtain ⟨live, unstarted⟩ := idle_of_start steps
    obtain ⟨phase, invariant, accounts⟩ := accounts.live live
    have instanceStep : InstanceStep job mayUse executor before next
        (.start executor .dispose environment) phase phase :=
      .dispose environment phase (.inl rfl) step disposes
    refine ⟨phase, instanceStep.invariant invariant, ?_, ?_, ?_⟩
    · rintro permitted lock rest rfl
      obtain ⟨body, -⟩ := invariant.holds
      exact outside permitted ⟨live, body.inside⟩
    · intro lock recorded
      refine ⟨(accounts.recorded lock recorded).older.step instanceStep, ?_⟩
      cases step with
      | unlocked unrecorded =>
          rw [recorded] at unrecorded
          cases unrecorded
      | release released isRecorded idle waits stopped timers =>
          rw [recorded] at isRecorded
          cases isRecorded
          exact fun timer member owner same => timers timer member ⟨owner, same⟩
      | delete released waits =>
          rw [waits] at unstarted
          cases unstarted
    · intro isReliable ended
      cases step with
      | unlocked unrecorded =>
          exact fun held => accounts.unheld isReliable unrecorded (disposes.ungiven held)
      | release released isRecorded idle waits =>
          rw [waits] at ended
          cases ended
      | delete released waits =>
          rw [waits] at unstarted
          cases unstarted

theorem disposed_of_run {labels : List Label} {disposing last : Cluster}
    (enabled : job.options.singleConsumerMode.enabled = true) (uses : job.UsesOwnMutexes mayUse)
    (forbidden : ∀ other, other ≠ executor → ¬ mayUse other (.given executor))
    (disposed : InstanceHolds job mayUse executor
      (Disposed job.options mayUse executor before reliable) disposing)
    (answers : reliable → ∀ label ∈ labels, label.RedisAnswersTo executor)
    (unacquired : EachState job.step (Unacquired executor before) disposing labels)
    (runs : run job.step disposing labels = some last) :
    InstanceHolds job mayUse executor (Disposed job.options mayUse executor before reliable)
      last := by
  apply disposed.run enabled uses _ (.of_eachState _ unacquired) runs
  · exact fun state label => (reliable → label.RedisAnswersTo executor) ∧
      ∀ next, job.step state label = some next → Unacquired executor before next
  · rintro state label next phase later ⟨answered, leads⟩ steps live invariant step disposed
    exact disposed.step forbidden invariant answered step live (leads next steps)
  · exact fun label member state leads => ⟨fun isReliable => answers isReliable label member, leads⟩

/-! ## A call that has left its body -/

/-- What a call does next whose renewal is refused. -/
def afterRefusal : JobProgram Unit → JobProgram Unit
  | .call (.refresh _) next => next (.ok false)
  | program => program

/-- No other phase waits for the renewal of a lock that was got. -/
theorem ProcessPhase.of_renew {mayUse : Identifier → Prop} {lock : Mutex} {ref : Nat}
    {outcome : Except Thrown Unit} (holds : phase.Holds mayUse executor cluster)
    (waits : phase.waitsFor job executor = some (job.renew executor lock ref outcome)) :
    ∃ lock ref outcome, phase = .renewing lock ref outcome := by
  have refused := congrArg (Option.map afterRefusal) waits
  cases phase with
  | idle => cases waits
  | asking asked => cases waits
  | retrying asked => cases refused
  | executing held rest =>
      obtain ⟨body, command, next, rfl, awaited⟩ := holds
      obtain ⟨built, ⟨allowed, continues⟩, younger⟩ := body.follows
      cases command with
      | refresh mutex =>
          have stops : job.bodyRest executor (next (.ok false)) =
              job.stopBlock executor outcome := Option.some.inj refused
          have follows := continues (.ok false) built rfl
          cases goesOn : next (.ok false) with
          | done value =>
              rw [goesOn] at stops
              cases stops
          | fail error =>
              rw [goesOn] at stops
              cases stops
          | call command rest =>
              rw [goesOn] at stops follows
              -- only `process` reads the recorded lock
              cases command with
              | getSingleConsumerLock => exact follows.1.elim
              | _ => cases stops
      | _ => cases waits
  | renewing held renewal outcome => exact ⟨held, renewal, outcome, rfl⟩

/-- What holds of an instance that is being disposed of, once its call has got the
lock or has ended. -/
structure Leaving (executor : String) (before cluster : Cluster) (phase : ProcessPhase) :
    Prop where
  stopped : (cluster.nodes executor).schedulerStopped = true
  left : phase = .idle ∨ ∃ lock, phase.lock = some lock
  recorded : (cluster.nodes executor).singleConsumerLock =
    (before.nodes executor).singleConsumerLock

theorem Leaving.step (leaving : Leaving executor before cluster phase)
    (invariant : InstanceInvariant job mayUse executor cluster phase)
    (steps : job.step cluster label = some next)
    (step : InstanceStep job mayUse executor cluster next label phase later) :
    Leaving executor before next later := by
  cases step with
  | aside phase aside =>
      constructor
      · rw [aside.node, leaving.stopped]
      · exact leaving.left
      · rw [aside.node, leaving.recorded]
  | dispose environment phase runs step disposes =>
      exact ⟨disposes.scheduler leaving.stopped, leaving.left,
        disposes.recorded.trans leaving.recorded⟩
  | process environment phase later runs step rests =>
      rcases leaving.left with rfl | ⟨lock, locked⟩
      · -- a stopped scheduler starts no call, and there is none to go on
        rcases runs with ⟨-, running⟩ | rfl
        · rw [leaving.stopped] at running
          cases running
        · exact absurd invariant.waits (inFlight_of_resume steps)
      · have stopped := rests.scheduler leaving.stopped
        cases step with
        | proceed held rest later lockedStill recorded =>
            exact ⟨stopped, .inr ⟨held, lockedStill⟩, recorded.trans leaving.recorded⟩
        | close held ref outcome answered recorded =>
            exact ⟨stopped, .inl rfl, recorded.trans leaving.recorded⟩
        | abandon held ref outcome unanswered quiet =>
            exact ⟨stopped, .inl rfl, quiet.recorded.trans leaving.recorded⟩
        | fail phase attempting =>
            rw [attempting] at locked
            cases locked
        | enter phase later ref external attempting =>
            rcases attempting with rfl | rfl
            · cases locked
            · cases locked
        | begin => cases locked
        | refuse ref => cases locked
        | skip ref => cases locked

theorem LeftBody.phase_cases (left : LeftBody job executor cluster)
    (invariant : InstanceInvariant job mayUse executor cluster phase) :
    phase = .idle ∨ ∃ lock ref outcome, phase = .renewing lock ref outcome := by
  rcases left with settled | ⟨lock, ref, outcome, renews⟩
  · rw [invariant.waits] at settled
    cases phase with
    | idle => exact .inl rfl
    | _ => cases settled
  · rw [invariant.waits] at renews
    exact .inr (ProcessPhase.of_renew invariant.holds renews)

theorem LeftBody.outside (left : LeftBody job executor cluster)
    (invariant : InstanceInvariant job mayUse executor cluster phase) :
    ¬ cluster.Executing executor := by
  apply invariant.outside
  rintro lock rest rfl
  rcases left.phase_cases invariant with atIdle | ⟨held, ref, outcome, renewing⟩
  · cases atIdle
  · cases renewing

theorem locked_of_executing (executing : cluster.Executing executor)
    (invariant : InstanceInvariant job mayUse executor cluster phase) :
    ∃ lock, phase.lock = some lock := by
  by_contra unlocked
  apply invariant.outside _ executing
  rintro lock rest rfl
  exact unlocked ⟨lock, rfl⟩

/-- If the call in flight has got the lock or has ended, no call gets the lock any more. -/
theorem unacquired_of_locked {labels : List Label} {environment : Environment}
    {disposing : Cluster}
    (enabled : job.options.singleConsumerMode.enabled = true) (uses : job.UsesOwnMutexes mayUse)
    (instances : Instances job mayUse before)
    (left : ∀ phase, InstanceInvariant job mayUse executor before phase →
      phase = .idle ∨ ∃ lock, phase.lock = some lock)
    (steps : job.step before (.start executor .dispose environment) = some disposing) :
    EachState job.step (Unacquired executor before) disposing labels := by
  obtain ⟨live, idle⟩ := idle_of_start steps
  obtain ⟨phase, invariant⟩ := instances.live executor live
  obtain ⟨step, disposes⟩ : DisposeStep job.options executor environment before disposing ∧
      Disposes job.options (mayUse executor) executor before disposing := dispose_of_start steps
  have leaving : InstanceHolds job mayUse executor (Leaving executor before) disposing := by
    refine ⟨instances.step enabled uses steps, fun _ => ⟨phase, invariant.of_dispose step disposes,
      ?_, left phase invariant, disposes.recorded⟩⟩
    cases step with
    | unlocked recorded idle ended stopped => exact stopped
    | release lock recorded idle waits stopped => exact stopped
    | delete lock waits =>
        rw [waits] at idle
        cases idle
  rw [eachState_iff]
  intro first rest state split reaches living
  have still : InstanceHolds job mayUse executor (Leaving executor before) state := by
    apply leaving.run enabled uses _ (.of_forall _ _) reaches
    · exact fun _ _ => True
    · intro cluster label next phase later _ steps _ invariant step leaving
      exact leaving.step invariant steps step
    · exact fun _ _ _ => trivial
  obtain ⟨phase, invariant, leaving⟩ := still.live living
  exact .inr leaving.recorded

/-- The run after a disposal that does not disturb a call. -/
theorem Undisturbed.unacquired {environment : Environment} {disposing : Cluster}
    {labels : List Label} (undisturbed : Undisturbed job executor before disposing labels)
    (enabled : job.options.singleConsumerMode.enabled = true) (uses : job.UsesOwnMutexes mayUse)
    (instances : Instances job mayUse before)
    (steps : job.step before (.start executor .dispose environment) = some disposing) :
    ¬ before.Executing executor ∧
      EachState job.step (Unacquired executor before) disposing labels := by
  rcases undisturbed with left | undisturbed
  · constructor
    · intro executing
      obtain ⟨phase, invariant⟩ := instances.live executor executing.1
      exact left.outside invariant executing
    · apply unacquired_of_locked enabled uses instances _ steps
      intro phase invariant
      rcases left.phase_cases invariant with idle | ⟨lock, ref, outcome, rfl⟩
      · exact .inl idle
      · exact .inr ⟨lock, rfl⟩
  · exact undisturbed

theorem disposed_of_disposal {labels rest : List Label} {environment : Environment}
    {disposing last : Cluster} {now : Nat} {locks : LeaseStore String Identifier}
    (enabled : job.options.singleConsumerMode.enabled = true) (uses : job.UsesOwnMutexes mayUse)
    (forbidden : ∀ other, other ≠ executor → ¬ mayUse other (.given executor))
    (reaches : run job.step (AbstractPeriodicJob.initialCluster now locks) labels = some before)
    (disposes : job.step before (.start executor .dispose environment) = some disposing)
    (outside : mayUse executor (.given executor) → ¬ before.Executing executor)
    (unacquired : EachState job.step (Unacquired executor before) disposing rest)
    (passes : run job.step disposing rest = some last)
    (initially : reliable → locks.holder now job.options.exclusiveKey ≠ some (.given executor))
    (answers : reliable → ∀ label ∈ labels ++ .start executor .dispose environment :: rest,
      label.RedisAnswersTo executor) :
    InstanceHolds job mayUse executor
      (Disposed job.options mayUse executor before reliable) last := by
  have accounts : InstanceHolds job mayUse executor
      (Accounts job.options executor reliable) before :=
    Accounts.run enabled uses forbidden initially
      (fun isReliable label member => answers isReliable label (by simp [member])) reaches
  exact disposed_of_run enabled uses forbidden
    (disposed_of_start enabled uses outside accounts disposes)
    (fun isReliable label member => answers isReliable label (by simp [member])) unacquired passes

end Dispose

/-- What holds after a disposal on a live node: the timer of the lock that was recorded
is stopped.  If Redis answers the instance, and the key was not held under its
identifier at first, then as soon as nothing is in flight the key is not held under
it, and no timer runs for a lock that the instance had got. -/
structure Completes (job : AbstractPeriodicJob) (executor : String) (now : Nat)
    (locks : LeaseStore String Identifier) (labels : List Label) (before : Cluster)
    (environment : Environment) (later : List Label) (last : Cluster) : Prop where
  stopped : ∀ lock, (before.nodes executor).singleConsumerLock = some lock →
    Unrefreshed executor lock last
  settles : locks.holder now job.options.exclusiveKey ≠ some (.given executor) →
    (∀ label ∈ labels ++ .start executor .dispose environment :: later,
      label.RedisAnswersTo executor) →
    (∀ call, (last.nodes executor).calls call = none) →
    last.locks.holder last.now job.options.exclusiveKey ≠ some (.given executor) ∧
    ∀ earlier rest state lock, labels = earlier ++ rest →
      run job.step (AbstractPeriodicJob.initialCluster now locks) earlier = some state →
      (state.nodes executor).singleConsumerLock = some lock →
      Unrefreshed executor lock last

section Completes

variable {job : AbstractPeriodicJob} {mayUse : String → Identifier → Prop}
variable {executor : String} {before disposing last : Cluster} {labels later : List Label}
variable {environment : Environment} {now : Nat} {locks : LeaseStore String Identifier}

theorem completes_of_disposal
    (enabled : job.options.singleConsumerMode.enabled = true) (uses : job.UsesOwnMutexes mayUse)
    (forbidden : ∀ other, other ≠ executor → ¬ mayUse other (.given executor))
    (reaches : run job.step (AbstractPeriodicJob.initialCluster now locks) labels = some before)
    (disposes : job.step before (.start executor .dispose environment) = some disposing)
    (outside : mayUse executor (.given executor) → ¬ before.Executing executor)
    (unacquired : EachState job.step (Unacquired executor before) disposing later)
    (passes : run job.step disposing later = some last)
    (live : (last.nodes executor).live = true) :
    Completes job executor now locks labels before environment later last := by
  let reliable : Prop := locks.holder now job.options.exclusiveKey ≠ some (.given executor) ∧
    ∀ label ∈ labels ++ .start executor .dispose environment :: later,
      label.RedisAnswersTo executor
  have disposed : InstanceHolds job mayUse executor
      (Disposed job.options mayUse executor before reliable) last :=
    disposed_of_disposal enabled uses forbidden reaches disposes outside unacquired passes
      And.left And.right
  obtain ⟨phase, invariant, disposed⟩ := disposed.live live
  refine ⟨fun lock recorded => (disposed.retired lock recorded).2, fun free answers settled => ?_⟩
  refine ⟨disposed.unheld ⟨free, answers⟩ (settled .dispose), ?_⟩
  rintro earlier rest state lock rfl reachesState recorded
  have continues : run job.step state (rest ++ .start executor .dispose environment :: later) =
      some last := by
    rw [run_append reachesState] at reaches
    rw [run_append reaches, run_cons disposes, passes]
  apply unrefreshed_of_recorded enabled uses forbidden free _ reachesState recorded continues live
  · exact settled .process
  · rw [← List.append_assoc]
    exact answers

end Completes

/-- Of every `dispose`: while it disturbs no call, the instance never executes
`processInternal` from then on.  It is complete in this case, and also when it starts
while `processInternal` runs and this leaves the identifier of the executor alone. -/
theorem dispose_safe_and_complete (job : AbstractPeriodicJob)
    (enabled : job.options.singleConsumerMode.enabled = true) (executor : String)
    (uses : job.UsesOwnMutexes (LeavesIdentifier executor))
    (now : Nat) (locks : LeaseStore String Identifier) (labels : List Label) (before : Cluster)
    (reaches : run job.step (AbstractPeriodicJob.initialCluster now locks) labels = some before)
    (environment : Environment) (disposing : Cluster)
    (disposes : job.step before (.start executor .dispose environment) = some disposing)
    (later : List Label) (last : Cluster) (passes : run job.step disposing later = some last) :
    (Undisturbed job executor before disposing later → ¬ last.Executing executor) ∧
      (Undisturbed job executor before disposing later ∨
          before.Executing executor ∧ job.UsesOwnMutexes (SparesIdentifier executor) →
        (last.nodes executor).live = true →
        Completes job executor now locks labels before environment later last) := by
  have forbidden (other : String) (different : other ≠ executor) :
      ¬ LeavesIdentifier executor other (.given executor) :=
    fun permitted => permitted different rfl
  have instances : Instances job (LeavesIdentifier executor) before :=
    instances_of_run enabled uses reaches
  constructor
  · intro undisturbed executing
    obtain ⟨outside, unacquired⟩ := undisturbed.unacquired enabled uses instances disposes
    have disposed : InstanceHolds job (LeavesIdentifier executor) executor
        (Disposed job.options (LeavesIdentifier executor) executor before False) last :=
      disposed_of_disposal enabled uses forbidden reaches disposes (fun _ => outside) unacquired
        passes False.elim False.elim
    obtain ⟨phase, invariant, disposed⟩ := disposed.live executing.1
    have ownIdentifier : LeavesIdentifier executor executor (.given executor) :=
      fun different => absurd rfl different
    exact invariant.outside (disposed.outside ownIdentifier) executing
  · rintro (undisturbed | ⟨executing, spares⟩) live
    · obtain ⟨outside, unacquired⟩ := undisturbed.unacquired enabled uses instances disposes
      exact completes_of_disposal enabled uses forbidden reaches disposes (fun _ => outside)
        unacquired passes live
    · have unacquired : EachState job.step (Unacquired executor before) disposing later :=
        unacquired_of_locked enabled uses instances
          (fun _ invariant => .inr (locked_of_executing executing invariant)) disposes
      exact completes_of_disposal enabled spares (fun _ _ permitted => permitted rfl) reaches
        disposes (fun permitted => absurd rfl permitted) unacquired passes live

/-- A call that has got its lock and executes `processInternal`. -/
def untilBody : List Label :=
  [.start "a" .process allSucceeds, .resume "a" .process allSucceeds]

/-- A call whose `processInternal` has settled, up to the renewal of its lock. -/
def untilRenewal : List Label :=
  untilBody ++ [.resume "a" .process allSucceeds]

/-- The call and `dispose` settle. -/
def bothSettle : List Label :=
  [.resume "a" .process allSucceeds, .resume "a" .dispose allSucceeds]

/-- First `processInternal` settles. -/
def bodySettles : List Label :=
  .resume "a" .process allSucceeds :: bothSettle

/-- The key is given up, and the timer of the lock is stopped. -/
def GivesUpLock (cluster : Cluster) : Prop :=
  cluster.locks.holder cluster.now DeleteOldUsersJob.options.exclusiveKey ≠ some (.given "a") ∧
    Unrefreshed "a" firstLock cluster

/-- `dispose` starts before the renewal of the lock is answered, or while
`processInternal` runs. -/
theorem dispose_during_call :
    (∃ before disposing last,
      run DeleteOldUsersJob.job.step (AbstractPeriodicJob.initialCluster 0 fun _ => none)
        untilRenewal = some before ∧
      DeleteOldUsersJob.job.step before (.start "a" .dispose allSucceeds) = some disposing ∧
      run DeleteOldUsersJob.job.step disposing bothSettle = some last ∧
      ¬ last.Executing "a" ∧ GivesUpLock last) ∧
    ∃ before disposing last,
      run DeleteOldUsersJob.job.step (AbstractPeriodicJob.initialCluster 0 fun _ => none)
        untilBody = some before ∧
      before.Executing "a" ∧
      DeleteOldUsersJob.job.step before (.start "a" .dispose allSucceeds) = some disposing ∧
      run DeleteOldUsersJob.job.step disposing bodySettles = some last ∧
      GivesUpLock last := by
  have uses : DeleteOldUsersJob.job.UsesOwnMutexes (LeavesIdentifier "a") :=
    DeleteOldUsersJob.usesOwnAnonymousLocks.usesOwnMutexes fun _ _ _ => Identifier.noConfusion
  have spares : DeleteOldUsersJob.job.UsesOwnMutexes (SparesIdentifier "a") :=
    DeleteOldUsersJob.usesOwnAnonymousLocks.usesOwnMutexes fun _ _ => Identifier.noConfusion
  have keeps (state before : Cluster)
      (recorded : (state.nodes "a").singleConsumerLock = some firstLock)
      (wasRecorded : (before.nodes "a").singleConsumerLock = some firstLock) :
      Unacquired "a" before state := fun _ => .inr (recorded.trans wasRecorded.symm)
  have disposal (labels later : List Label) (before disposing last : Cluster)
      (reaches : run DeleteOldUsersJob.job.step
        (AbstractPeriodicJob.initialCluster 0 fun _ => none) labels = some before)
      (disposes : DeleteOldUsersJob.job.step before (.start "a" .dispose allSucceeds) =
        some disposing)
      (passes : run DeleteOldUsersJob.job.step disposing later = some last)
      (answers : ∀ label ∈ labels ++ .start "a" .dispose allSucceeds :: later,
        label.RedisAnswersTo "a")
      (live : (last.nodes "a").live = true)
      (settled : ∀ call, (last.nodes "a").calls call = none)
      (recorded : (before.nodes "a").singleConsumerLock = some firstLock) :
      (Undisturbed DeleteOldUsersJob.job "a" before disposing later →
          ¬ last.Executing "a" ∧ GivesUpLock last) ∧
        (before.Executing "a" → GivesUpLock last) := by
    obtain ⟨safe, complete⟩ := dispose_safe_and_complete DeleteOldUsersJob.job rfl "a" uses 0
      (fun _ => none) labels before reaches allSucceeds disposing disposes later last passes
    have givesUp (completes : Completes DeleteOldUsersJob.job "a" 0 (fun _ => none) labels before
        allSucceeds later last) : GivesUpLock last := by
      obtain ⟨unheld, unrefreshed⟩ := completes.settles (by decide) answers settled
      exact ⟨unheld, unrefreshed labels [] before firstLock (List.append_nil _).symm reaches
        recorded⟩
    exact ⟨fun undisturbed => ⟨safe undisturbed, givesUp (complete (.inl undisturbed) live)⟩,
      fun executing => givesUp (complete (.inr ⟨executing, spares⟩) live)⟩
  constructor
  · refine ⟨_, _, _, rfl, rfl, rfl, (disposal untilRenewal bothSettle _ _ _ rfl rfl rfl ?_ rfl ?_
      rfl).1 ?_⟩
    · simp [untilRenewal, untilBody, bothSettle, Label.RedisAnswersTo, allSucceeds]
    · intro call
      cases call <;> rfl
    · refine .inr ⟨by decide, keeps _ _ rfl rfl, fun next steps => ?_⟩
      cases steps
      refine ⟨keeps _ _ rfl rfl, fun next steps => ?_⟩
      cases steps
      exact keeps _ _ rfl rfl
  · have executing : ∀ before, run DeleteOldUsersJob.job.step
        (AbstractPeriodicJob.initialCluster 0 fun _ => none) untilBody = some before →
          before.Executing "a" := by
      rintro before ⟨⟩
      exact ⟨rfl, rfl⟩
    refine ⟨_, _, _, rfl, executing _ rfl, rfl, rfl, (disposal untilBody bodySettles _ _ _ rfl rfl
      rfl ?_ rfl ?_ rfl).2 (executing _ rfl)⟩
    · simp [untilBody, bodySettles, bothSettle, Label.RedisAnswersTo, allSucceeds]
    · intro call
      cases call <;> rfl

/-- A `dispose` that starts while `processInternal` runs frees the key under it,
and another node executes beside it.  A `dispose` that starts while the lock is
asked for leaves the key to the call that gets it: when both have settled, it is
held.  So it is if Redis rejects the deletion. -/
theorem dispose_unsafe_and_incomplete :
    (∃ disposed both,
      run DeleteOldUsersJob.job.step (AbstractPeriodicJob.initialCluster 0 fun _ => none)
        [.start "a" .process allSucceeds, .resume "a" .process allSucceeds,
          .start "a" .dispose allSucceeds, .resume "a" .dispose allSucceeds] = some disposed ∧
      disposed.Executing "a" ∧
      disposed.locks.holder disposed.now DeleteOldUsersJob.options.exclusiveKey = none ∧
      run DeleteOldUsersJob.job.step disposed
        [.start "b" .process allSucceeds, .resume "b" .process allSucceeds] = some both ∧
      both.Executing "a" ∧ both.Executing "b") ∧
    (∃ settled,
      run DeleteOldUsersJob.job.step (AbstractPeriodicJob.initialCluster 0 fun _ => none)
        [.start "a" .process allSucceeds, .start "a" .dispose allSucceeds,
          .resume "a" .process allSucceeds, .resume "a" .process allSucceeds,
          .resume "a" .process allSucceeds] = some settled ∧
      (settled.nodes "a").calls .process = none ∧ (settled.nodes "a").calls .dispose = none ∧
      settled.locks.holder settled.now DeleteOldUsersJob.options.exclusiveKey =
        some (.given "a")) ∧
    ∃ settled,
      run DeleteOldUsersJob.job.step (AbstractPeriodicJob.initialCluster 0 fun _ => none)
        (oneCall ++ [.start "a" .dispose allSucceeds, .resume "a" .dispose redisFails]) =
          some settled ∧
      (settled.nodes "a").calls .process = none ∧ (settled.nodes "a").calls .dispose = none ∧
      settled.locks.holder settled.now DeleteOldUsersJob.options.exclusiveKey =
        some (.given "a") := by
  refine ⟨⟨_, _, rfl, ?_, ?_, rfl, ?_, ?_⟩, ⟨_, rfl, rfl, rfl, ?_⟩, _, rfl, rfl, rfl, ?_⟩
  · exact ⟨rfl, rfl⟩
  · decide
  · exact ⟨rfl, rfl⟩
  · exact ⟨rfl, rfl⟩
  · decide
  · decide

end ServiceTemplate.Jobs
