import ServiceTemplate.Jobs.MutualExclusion

/-!
# The nested lock of two jobs

`DeleteOldUsersJob` and `SendEmailsJob` ask for a lock again inside
`processInternal`.  It has the name of the lock that their execution holds and
another identifier, so it is refused while that lock is held, and their work is
not done.
-/

namespace ServiceTemplate.Jobs

open Program

/-- The jobs with a nested lock, each with the work that the lock protects. -/
def nestedLockJobs : List (AbstractPeriodicJob × Task) :=
  [(DeleteOldUsersJob.job, .deleteOldUsers), (SendEmailsJob.job, .sendEmails)]

/-! ## The calls of `process` in a journal -/

/-- The events of each call, the calls with the newest one first.  The first
entry is the call that has not settled yet. -/
def callsOf : List (Nat × Event) → List Event × List (List Event)
  | [] => ([], [])
  | (_, event) :: earlier =>
      let (current, settled) := callsOf earlier
      match event with
      | .callSettled _ => ([], (event :: current) :: settled)
      | _ => (event :: current, settled)

/-- The calls of `process` that have settled. -/
def settledCalls (journal : List (Nat × Event)) : List (List Event) :=
  (callsOf journal).2

/-- The call got the single consumer lock: the first thing it does then is to
start the observed transaction. -/
def GotLock (call : List Event) : Prop :=
  ∃ jobId executionUuid, Event.observabilityStart jobId executionUuid ∈ call

/-- The call did its work exactly once, and did not report that the job is
running elsewhere. -/
def DidWork (work : Task) (executor : String) (call : List Event) : Prop :=
  call.count (.taskSettled work) = 1 ∧
    Event.log .debug (alreadyRunning executor) none ∉ call

theorem mem_of_mem_callsOf {journal : List (Nat × Event)} {event : Event}
    (member : event ∈ (callsOf journal).1 ∨ ∃ call ∈ (callsOf journal).2, event ∈ call) :
    ∃ instant, (instant, event) ∈ journal := by
  induction journal with
  | nil => simp [callsOf] at member
  | cons entry earlier ih =>
      obtain ⟨instant, first⟩ := entry
      have split : event = first ∨ event ∈ (callsOf earlier).1 ∨
          ∃ call ∈ (callsOf earlier).2, event ∈ call := by
        cases first <;> simp only [callsOf, List.mem_cons] at member <;> aesop
      rcases split with rfl | older
      · exact ⟨instant, List.mem_cons_self⟩
      · obtain ⟨noted, present⟩ := ih older
        exact ⟨noted, List.mem_cons_of_mem _ present⟩

/-! ## The nested lock is refused -/

section Refused

variable {options : JobOptions} {executor : String} {permitted : Task → Prop}
variable {lock : Mutex}

/-- While the exclusive lock is held, a request for it under a random identifier
is refused or fails. -/
theorem nestedLock_refused :
    (options.tryAcquireExclusiveLock nestedLock).Follows
      (executionContract options executor permitted) (.executing lock [])
      fun mode result => mode = .executing lock [] ∧ ∀ nested, result ≠ .ok (some nested) := by
  unfold JobOptions.tryAcquireExclusiveLock
  refine Follows.bind ⟨trivial, fun answer later moved => ?_⟩
  obtain ⟨ref, rfl, stays⟩ := executionContract_moves_ok rfl moved
  cases stays
  refine Follows.bind ⟨⟨ref, rfl⟩, fun answer later moved => ?_⟩
  rcases answer with error | given
  · exact ⟨moved.1, fun _ returned => by cases returned⟩
  cases given with
  | false => exact ⟨moved.1, fun _ returned => by cases returned⟩
  | true => exact absurd rfl moved.1.2

/-- The body reports that the job is running elsewhere, or fails. -/
theorem body_follows_of_nestedLock
    {next : Option Mutex → JobProgram Unit} {message : String}
    (refused : next none = log .debug message) :
    ((options.tryAcquireExclusiveLock nestedLock).bind next).Follows
      (executionContract options executor permitted) (.executing lock [])
      fun mode _ => ∃ nested, mode = .executing lock nested := by
  refine Follows.bind (nestedLock_refused.mono ?_)
  rintro mode (error | given) ⟨rfl, notGiven⟩
  · exact ⟨[], rfl⟩
  cases given with
  | some nested => exact absurd rfl (notGiven nested)
  | none =>
      show (next none).Follows _ _ _
      rw [refused]
      refine Follows.perform (.inl rfl) fun answer later moved => ?_
      exact ⟨[], moved.1⟩

end Refused

theorem bodyFollows_of_nestedLock {job : AbstractPeriodicJob} {work : Task}
    (listed : (job, work) ∈ nestedLockJobs) : job.BodyFollows (· ≠ work) := by
  intro executor lock
  simp only [nestedLockJobs, List.mem_cons, Prod.mk.injEq, List.not_mem_nil, or_false] at listed
  rcases listed with ⟨rfl, rfl⟩ | ⟨rfl, rfl⟩
  · exact body_follows_of_nestedLock rfl
  · exact body_follows_of_nestedLock rfl

theorem enabled_of_nestedLock {job : AbstractPeriodicJob} {work : Task}
    (listed : (job, work) ∈ nestedLockJobs) :
    job.options.singleConsumerMode.enabled = true := by
  simp only [nestedLockJobs, List.mem_cons, Prod.mk.injEq, List.not_mem_nil, or_false] at listed
  rcases listed with ⟨rfl, rfl⟩ | ⟨rfl, rfl⟩ <;> rfl

/-- A call that gets the lock does its work. -/
def WinnerWorks (work : Task) (executor : String) (call : List Event) : Prop :=
  GotLock call → DidWork work executor call

theorem work_not_in_call {job : AbstractPeriodicJob} {work : Task}
    (listed : (job, work) ∈ nestedLockJobs) {now : Nat}
    {locks : LeaseStore String Identifier} {labels : List Label}
    (undisposed : ∀ label ∈ labels, label.WithoutDisposal) {cluster : Cluster}
    (reaches : run job.step (AbstractPeriodicJob.initialCluster now locks) labels =
      some cluster)
    {executor : String} {call : List Event}
    (settled : call ∈ settledCalls (cluster.nodes executor).journal) :
    Event.taskSettled work ∉ call := by
  have invariant : ClusterInvariant job.options False (· ≠ work) cluster :=
    clusterInvariant_of_run (bodyFollows_of_nestedLock listed)
      (enabled_of_nestedLock listed) undisposed (fun never => never.elim) reaches
  intro done
  obtain ⟨instant, noted⟩ := mem_of_mem_callsOf (.inr ⟨call, settled, done⟩)
  exact invariant.sound.tasks executor instant work noted rfl

/-- Whatever the lock store held at first and whatever the other nodes do, no
call that gets the lock does its work. -/
theorem not_winnerWorks_of_gotLock (job : AbstractPeriodicJob) (work : Task)
    (listed : (job, work) ∈ nestedLockJobs) (now : Nat)
    (locks : LeaseStore String Identifier) (labels : List Label)
    (undisposed : ∀ label ∈ labels, label.WithoutDisposal) (cluster : Cluster)
    (reaches : run job.step (AbstractPeriodicJob.initialCluster now locks) labels =
      some cluster)
    (executor : String) (call : List Event)
    (settled : call ∈ settledCalls (cluster.nodes executor).journal)
    (gotLock : GotLock call) : ¬ WinnerWorks work executor call := by
  intro works
  obtain ⟨once, -⟩ := works gotLock
  apply work_not_in_call listed undisposed reaches settled
  rw [← List.count_pos_iff, once]
  exact Nat.one_pos

/-- One node runs one call of `process` to its end. -/
def oneCall : List Label :=
  [.start "a" .process allSucceeds, .resume "a" .process allSucceeds,
    .resume "a" .process allSucceeds, .resume "a" .process allSucceeds]

/-- What that call does, the last event first. -/
def skippedCall : List Event :=
  [.callSettled none, .observabilityStop "a", .bodySettled,
    .log .debug (alreadyRunning "a") none, .bodyCalled,
    .observabilityStart "DeleteOldUsersJob" "a"]

/-- A single node on an empty lock store wins the lock, keeps it, reports that
the job is running in another node, and does not do its work. -/
theorem winnerWorks_fails :
    ∃ cluster, run DeleteOldUsersJob.job.step
        (AbstractPeriodicJob.initialCluster 0 fun _ => none) oneCall = some cluster ∧
      cluster.locks.holder cluster.now DeleteOldUsersJob.options.exclusiveKey =
        some (.given "a") ∧
      ∃ call ∈ settledCalls (cluster.nodes "a").journal,
        ¬ WinnerWorks .deleteOldUsers "a" call ∧
        Event.log .debug (alreadyRunning "a") none ∈ call := by
  have runs : (run DeleteOldUsersJob.job.step
      (AbstractPeriodicJob.initialCluster 0 fun _ => none) oneCall).any
      (fun cluster => decide
        (cluster.locks.holder cluster.now DeleteOldUsersJob.options.exclusiveKey =
            some (.given "a") ∧
          settledCalls (cluster.nodes "a").journal = [skippedCall])) = true := by
    decide
  obtain ⟨cluster, reaches, holds⟩ := (Option.any_eq_true _ _).mp runs
  obtain ⟨held, calls⟩ := of_decide_eq_true holds
  refine ⟨cluster, reaches, held, skippedCall, by simp [calls], fun works => ?_, by decide⟩
  have notOnce : skippedCall.count (.taskSettled .deleteOldUsers) ≠ 1 := by decide
  exact notOnce (works ⟨_, "a", by simp [skippedCall]; rfl⟩).1

/-- The same for the other job, by the general statement. -/
theorem not_winnerWorks_sendEmails :
    ∃ cluster, run SendEmailsJob.job.step
        (AbstractPeriodicJob.initialCluster 0 fun _ => none) oneCall = some cluster ∧
      ∃ call ∈ settledCalls (cluster.nodes "a").journal,
        GotLock call ∧ ¬ WinnerWorks .sendEmails "a" call := by
  have runs : (run SendEmailsJob.job.step
      (AbstractPeriodicJob.initialCluster 0 fun _ => none) oneCall).any
      (fun cluster => (settledCalls (cluster.nodes "a").journal).any
        fun call => decide (.observabilityStart "SendEmailsJob" "a" ∈ call)) = true := by
    decide
  obtain ⟨cluster, reaches, called⟩ := (Option.any_eq_true _ _).mp runs
  obtain ⟨call, settled, started⟩ := List.any_eq_true.mp called
  have gotLock : GotLock call := ⟨_, _, of_decide_eq_true started⟩
  refine ⟨cluster, reaches, call, settled, gotLock, ?_⟩
  exact not_winnerWorks_of_gotLock SendEmailsJob.job .sendEmails (by simp [nestedLockJobs]) 0 _
    oneCall (by simp [oneCall, Label.WithoutDisposal]) cluster reaches "a" call settled gotLock

end ServiceTemplate.Jobs
