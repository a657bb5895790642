import ServiceTemplate.Jobs.NestedLock

/-!
# What an execution leaves behind

At the end of an execution the lock is renewed by a new mutex, and the timer of
the mutex that won the lock is stopped.  The timer of the new mutex is not: it
refreshes the lock for as long as the node lives, unless the lock is to be
released at once.
-/

namespace ServiceTemplate.Jobs

open LeaseStore

/-- The instant of the last `transactionObservabilityManager.stop`.  When no
Redis command fails, that is the instant at which the lock was renewed for the
last time by an execution. -/
def lastUpdate : List (Nat × Event) → Option Nat
  | [] => none
  | (instant, .observabilityStop _) :: _ => some instant
  | _ :: earlier => lastUpdate earlier

/-- The node refreshes the exclusive key no longer, and after a run of the job
the key expires when the time set by the last update has passed. -/
structure HandedOver (options : JobOptions) (executor : String) (cluster : Cluster) :
    Prop where
  stopped : ∀ mutex, ¬ Refreshes options executor cluster mutex
  expires : HasWon (cluster.nodes executor).journal →
    ∀ instant ∈ lastUpdate (cluster.nodes executor).journal,
      ∀ expiresAt, cluster.locks options.exclusiveKey = some ⟨.given executor, expiresAt⟩ →
        cluster.now ≤ expiresAt → expiresAt ≤ instant + options.timeoutAfterRun

theorem ClusterInvariant.leftovers {options : JobOptions} {permitted : Task → Prop}
    {cluster : Cluster} {executor : String}
    (invariant : ClusterInvariant options True permitted cluster)
    (live : (cluster.nodes executor).live = true)
    (idle : (cluster.nodes executor).calls .process = none) :
    Leftovers options executor cluster := by
  obtain ⟨mode, inMode, holds⟩ := (invariant.nodes executor).live live
  rw [idle] at inMode
  cases inMode
  exact holds.2 trivial

/-- In runs in which no Redis command fails: while no call of an executor is in
flight, its lock is handed over if and only if the time after a run is zero, or
none of its calls has got the lock yet. -/
theorem handedOver_iff (job : AbstractPeriodicJob)
    (enabled : job.options.singleConsumerMode.enabled = true)
    (anonymous : job.TakesLocksAnonymously) (now : Nat)
    (locks : LeaseStore String Identifier) (labels : List Label)
    (undisposed : ∀ label ∈ labels, label.WithoutDisposal)
    (answers : ∀ label ∈ labels, label.RedisAnswers) (cluster : Cluster)
    (reaches : run job.step (AbstractPeriodicJob.initialCluster now locks) labels =
      some cluster)
    (executor : String) (live : (cluster.nodes executor).live = true)
    (idle : (cluster.nodes executor).calls .process = none) :
    HandedOver job.options executor cluster ↔
      job.options.timeoutAfterRun = 0 ∨ ¬ HasWon (cluster.nodes executor).journal := by
  have invariant : ClusterInvariant job.options True (fun _ => True) cluster :=
    clusterInvariant_of_run (.of_takesLocksAnonymously anonymous) enabled undisposed
      (fun _ => answers) reaches
  have left := invariant.leftovers live idle
  constructor
  · intro handedOver
    by_contra leaks
    obtain ⟨positive, won⟩ := not_or.mp leaks
    obtain ⟨mutex, refreshes⟩ := left.leak positive (not_not.mp won)
    exact handedOver.stopped mutex refreshes
  · intro harmless
    refine ⟨fun mutex refreshes => ?_, fun won instant _ expiresAt leased inForce => ?_⟩
    · obtain ⟨positive, won⟩ := left.timers mutex refreshes
      exact harmless.elim positive fun never => never won
    · have zero := harmless.resolve_right fun never => never won
      exact absurd (holder_of_lease leased inForce) (left.released zero won)

/-- A job that gives up its lock as soon as a run has ended. -/
def releasingJob : AbstractPeriodicJob where
  options := BackgroundJobConfiguration.options
    { jobId := "ReleasingJob"
      singleConsumerMode := some { enabled := true, lockTimeoutAfterSuccess := some 0 } }
  processInternal _ := do
    let _ ← issue (.perform (.other "work"))

theorem releasingJob_takesLocksAnonymously : releasingJob.TakesLocksAnonymously := by
  intro executionUuid
  refine Program.Follows.bind (Program.Follows.perform trivial ?_)
  rintro (error | result) later - <;> trivial

theorem handedOver_iff_releasingJob :
    ∃ cluster, run releasingJob.step
        (AbstractPeriodicJob.initialCluster 0 fun _ => none) oneCall = some cluster ∧
      HasWon (cluster.nodes "a").journal ∧
      HandedOver releasingJob.options "a" cluster := by
  have runs : (run releasingJob.step
      (AbstractPeriodicJob.initialCluster 0 fun _ => none) oneCall).any
      (fun cluster => decide ((cluster.nodes "a").live = true ∧
        ((cluster.nodes "a").calls .process).isNone = true ∧
        (0, .observabilityStart "ReleasingJob" "a") ∈ (cluster.nodes "a").journal)) =
      true := by
    decide
  obtain ⟨cluster, reaches, holds⟩ := (Option.any_eq_true _ _).mp runs
  obtain ⟨live, idle, started⟩ := of_decide_eq_true holds
  refine ⟨cluster, reaches, ⟨_, _, _, started⟩, ?_⟩
  exact (handedOver_iff releasingJob rfl releasingJob_takesLocksAnonymously 0 _ oneCall
    (by simp [oneCall, Label.WithoutDisposal])
    (by simp [oneCall, Label.RedisAnswers, allSucceeds]) cluster reaches "a" live
    (Option.isNone_iff_eq_none.mp idle)).mpr (.inl rfl)

/-- After one run of `DeleteOldUsersJob` on an otherwise empty cluster, a timer
still refreshes the exclusive key. -/
theorem not_handedOver_deleteOldUsers :
    ∃ cluster, run DeleteOldUsersJob.job.step
        (AbstractPeriodicJob.initialCluster 0 fun _ => none) oneCall = some cluster ∧
      (cluster.nodes "a").live = true ∧
      ((cluster.nodes "a").calls .process).isNone = true ∧
      ¬ HandedOver DeleteOldUsersJob.options "a" cluster := by
  have runs : (run DeleteOldUsersJob.job.step
      (AbstractPeriodicJob.initialCluster 0 fun _ => none) oneCall).any
      (fun cluster => decide ((cluster.nodes "a").live = true ∧
        ((cluster.nodes "a").calls .process).isNone = true ∧
        cluster.timers.any (fun timer => decide (timer.owner = "a" ∧
          timer.mutex.key = DeleteOldUsersJob.options.exclusiveKey)) = true)) = true := by
    decide
  obtain ⟨cluster, reaches, holds⟩ := (Option.any_eq_true _ _).mp runs
  obtain ⟨live, idle, leftTimer⟩ := of_decide_eq_true holds
  obtain ⟨timer, present, matching⟩ := List.any_eq_true.mp leftTimer
  obtain ⟨owner, key⟩ := of_decide_eq_true matching
  refine ⟨cluster, reaches, live, idle, fun handedOver => ?_⟩
  exact handedOver.stopped timer.mutex ⟨key, timer, present, owner, rfl⟩

end ServiceTemplate.Jobs
