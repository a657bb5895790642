import ServiceTemplate.Jobs.Reachable
import ServiceTemplate.Jobs.SubclassContract

/-!
# Mutual exclusion

At most one live node executes `processInternal`, for every job whose
`processInternal` takes further locks without an identifier only.  The three
periodic jobs are such jobs.
-/

namespace ServiceTemplate.Jobs

open Program

/-! ## At most one node executes the body -/

/-- A live node executes `processInternal`. -/
def Cluster.Executing (cluster : Cluster) (executor : String) : Prop :=
  (cluster.nodes executor).live = true ∧
    inBody (cluster.nodes executor).journal = true

instance (cluster : Cluster) (executor : String) :
    Decidable (cluster.Executing executor) := by
  unfold Cluster.Executing
  infer_instance

/-- The executor of a running body holds the exclusive key. -/
theorem ClusterInvariant.holder_of_executing {options : JobOptions} {reliable : Prop}
    {permitted : Task → Prop} {cluster : Cluster} {executor : String}
    (invariant : ClusterInvariant options reliable permitted cluster)
    (executing : cluster.Executing executor) :
    cluster.locks.holder cluster.now options.exclusiveKey = some (.given executor) := by
  obtain ⟨live, inside⟩ := executing
  obtain ⟨mode, inMode, holds⟩ := (invariant.nodes executor).live live
  have outside : inBody (cluster.nodes executor).journal ≠ false := by simp [inside]
  rcases inMode.resting with rfl | ⟨ref, rfl⟩ | ⟨lock, rfl⟩ | ⟨lock, nested, rfl⟩
  · exact absurd holds.1 outside
  · exact absurd holds.1 outside
  · exact absurd holds.1 outside
  · exact holds.2.2.2.1.holder invariant.sound.notOverdue

/-- Whatever the lock store held at first, and however the steps of the nodes,
of the timers and of time interleave, at most one live node executes the body. -/
theorem at_most_one_executing (job : AbstractPeriodicJob)
    (enabled : job.options.singleConsumerMode.enabled = true)
    (anonymous : job.TakesLocksAnonymously) (now : Nat)
    (locks : LeaseStore String Identifier) (labels : List Label)
    (undisposed : ∀ label ∈ labels, label.WithoutDisposal) (cluster : Cluster)
    (reaches : run job.step (AbstractPeriodicJob.initialCluster now locks) labels =
      some cluster)
    (first second : String) (firstExecutes : cluster.Executing first)
    (secondExecutes : cluster.Executing second) : first = second := by
  have body := AbstractPeriodicJob.BodyFollows.of_takesLocksAnonymously anonymous
  have invariant : ClusterInvariant job.options False (fun _ => True) cluster :=
    clusterInvariant_of_run body enabled undisposed (fun never => never.elim) reaches
  have firstHolds := invariant.holder_of_executing firstExecutes
  have secondHolds := invariant.holder_of_executing secondExecutes
  rw [firstHolds] at secondHolds
  exact Identifier.given.inj (Option.some.inj secondHolds)

/-- Every command is answered, and every task succeeds. -/
def allSucceeds : Environment where
  task
    | .deleteOldUsers | .sendEmails | .processFile _ => .ok ()
    | .getUnprocessedLogFile => .ok none
    | .other _ => .ok ""

/-- Two nodes start their runs, and the second one is the first to get the lock. -/
def twoNodes : List Label :=
  [.start "a" .process allSucceeds, .start "b" .process allSucceeds,
    .resume "b" .process allSucceeds, .resume "a" .process allSucceeds]

theorem at_most_one_executing_twoNodes :
    ∃ cluster, run DeleteOldUsersJob.job.step
        (AbstractPeriodicJob.initialCluster 0 fun _ => none) twoNodes = some cluster ∧
      cluster.Executing "b" ∧
      ∀ other, cluster.Executing other → other = "b" := by
  have executes : (run DeleteOldUsersJob.job.step
      (AbstractPeriodicJob.initialCluster 0 fun _ => none) twoNodes).any
      (fun cluster => decide (cluster.Executing "b")) = true := by
    decide
  obtain ⟨cluster, reaches, executing⟩ := (Option.any_eq_true _ _).mp executes
  refine ⟨cluster, reaches, of_decide_eq_true executing, fun other otherExecutes => ?_⟩
  exact at_most_one_executing DeleteOldUsersJob.job rfl
    DeleteOldUsersJob.usesOwnAnonymousLocks.takesLocksAnonymously 0 _ twoNodes
    (by simp [twoNodes, Label.WithoutDisposal]) cluster reaches other "b" otherExecutes
    (of_decide_eq_true executing)

end ServiceTemplate.Jobs
