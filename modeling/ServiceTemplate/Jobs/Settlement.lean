import ServiceTemplate.Foundations.Spending
import ServiceTemplate.Jobs.FileExclusivity

/-!
# Every execution settles

A call waits for a bounded number of answers, whatever they are and whatever
other calls do in between.  The bound comes from the program of the call alone:
the loop over the files of a batch has twenty iterations, and each of them waits
for three answers at most.
-/

namespace ServiceTemplate.Jobs

open Program Cluster

section Prices

/-- What the commands cost that a call waits for.  The others cost nothing. -/
structure Prices where
  claim : Nat := 0
  renew : Nat := 0
  release : Nat := 0
  deleteOldUsers : Nat := 0
  sendEmails : Nat := 0
  getUnprocessedLogFile : Nat := 0
  processFile : Nat := 0
  other : Nat := 0

def Prices.price (prices : Prices) : Command → Nat
  | .setNx _ => prices.claim
  | .refresh _ => prices.renew
  | .delete _ => prices.release
  | .perform .deleteOldUsers => prices.deleteOldUsers
  | .perform .sendEmails => prices.sendEmails
  | .perform .getUnprocessedLogFile => prices.getUnprocessedLogFile
  | .perform (.processFile _) => prices.processFile
  | .perform (.other _) => prices.other
  | _ => 0

end Prices

/-! ## What the programs of a job spend -/

section Programs

variable {prices : Prices} {options : JobOptions}

theorem spends_issue {command : Command} {most : Nat}
    (affordable : prices.price command ≤ most) :
    (issue command).Spends prices.price most :=
  spends_perform affordable

theorem log_spends (level : LogLevel) (message : String) (error : Option Thrown) :
    (log level message error).Spends prices.price 0 :=
  spends_issue (Nat.le_refl 0)

theorem logIf_spends (logs : Bool) (message : String) {next : JobProgram Unit} {most : Nat}
    (rest : next.Spends prices.price most) :
    (do if logs then log .info message
        next : JobProgram Unit).Spends prices.price most := by
  cases logs with
  | true => exact ((log_spends _ _ _).bind fun _ => rest).mono (Nat.le_of_eq (Nat.zero_add _))
  | false => exact rest

namespace Mutex

variable {mutex : Mutex}

theorem afterAnswer_spends (acquired : Bool) :
    (mutex.afterAnswer acquired).Spends prices.price 0 := by
  unfold afterAnswer
  split
  · have starts : (issue (.startRefresh mutex)).Spends prices.price 0 :=
      spends_issue (Nat.le_refl 0)
    exact starts.bind fun _ => spends_done acquired 0
  · exact spends_done acquired 0

theorem tryAcquire_spends_of_fresh (fresh : mutex.acquiredExternally = false) :
    mutex.tryAcquire.Spends prices.price prices.claim := by
  rw [tryAcquire_of_fresh fresh]
  have claims : (issue (.setNx mutex)).Spends prices.price prices.claim :=
    spends_issue (Nat.le_refl _)
  exact claims.bind fun acquired => afterAnswer_spends acquired

theorem tryAcquire_spends_of_external (external : mutex.acquiredExternally = true) :
    mutex.tryAcquire.Spends prices.price prices.renew := by
  rw [tryAcquire_of_external external]
  have renews : (issue (.refresh mutex)).Spends prices.price prices.renew :=
    spends_issue (Nat.le_refl _)
  exact renews.bind fun acquired => afterAnswer_spends acquired

theorem release_spends : mutex.release.Spends prices.price prices.release := by
  have stops : mutex.stopRefresh.Spends prices.price 0 := spends_issue (Nat.le_refl 0)
  have deletes : (issue (.delete mutex)).Spends prices.price prices.release :=
    spends_issue (Nat.le_refl _)
  exact (stops.bind fun _ => deletes).mono (Nat.le_of_eq (Nat.zero_add _))

end Mutex

theorem getJobMutex_spends {Value : Type} {key : String} {lockOptions : LockOptions} {most : Nat}
    {next : Mutex → JobProgram Value}
    (rest : ∀ ref, (next (Mutex.new ref (options.getJobLockName key) lockOptions)).Spends
      prices.price most) :
    ((options.getJobMutex key lockOptions).bind next).Spends prices.price most := by
  have constructs : (issue .construct).Spends prices.price 0 := spends_issue (Nat.le_refl 0)
  unfold JobOptions.getJobMutex
  rw [show (issue .construct >>= fun ref =>
      pure (Mutex.new ref (options.getJobLockName key) lockOptions)).bind next =
      (issue .construct).bind fun ref =>
        next (Mutex.new ref (options.getJobLockName key) lockOptions) from
    Program.bind_assoc _ _ _]
  exact (constructs.bind rest).mono (Nat.le_of_eq (Nat.zero_add most))

/-- Only a lock with an identifier is asked for a second time. -/
theorem tryAcquireExclusiveLock_spends {lockConfiguration : LockConfiguration}
    (fresh : lockConfiguration.acquiredExternally = false) :
    (options.tryAcquireExclusiveLock lockConfiguration).Spends prices.price
      (prices.claim + if lockConfiguration.identifier.isSome then prices.renew else 0) := by
  apply getJobMutex_spends
  intro ref
  refine (Mutex.tryAcquire_spends_of_fresh fresh).bind fun acquired => ?_
  by_cases again : (!acquired && lockConfiguration.identifier.isSome) = true
  · rw [if_pos again, if_pos (Bool.and_eq_true_iff.mp again).2]
    apply getJobMutex_spends
    intro second
    exact (Mutex.tryAcquire_spends_of_external rfl).bind fun acquired => spends_done _ 0
  · rw [if_neg again]
    exact spends_done _ _

theorem updateMutex_spends (mutex : Mutex) (newLockTimeout : Nat) (key : String) :
    (options.updateMutex mutex newLockTimeout key).Spends prices.price prices.renew := by
  apply getJobMutex_spends
  intro ref
  exact (Mutex.tryAcquire_spends_of_external rfl).bind fun lock => spends_done _ 0

end Programs

namespace AbstractPeriodicJob

variable {prices : Prices} {job : AbstractPeriodicJob} {executor : String} {most : Nat}

theorem catchBlock_spends (error : Thrown) :
    (catchBlock executor error).Spends prices.price 0 := by
  refine ((log_spends _ _ _).bind fun _ => ?_).mono (Nat.le_of_eq (Nat.zero_add 0))
  cases error with
  | error message => exact spends_issue (Nat.le_refl 0)
  | value text => exact spends_done () 0

theorem tryBlock_spends (body : (job.processInternal executor).Spends prices.price most) :
    (job.tryBlock executor).Spends prices.price most := by
  have starts : (issue (.observabilityStart job.options.jobId executor)).Spends prices.price 0 :=
    spends_issue (Nat.le_refl 0)
  have calls : (issue (.record .bodyCalled)).Spends prices.price 0 := spends_issue (Nat.le_refl 0)
  have settles : (issue (.record .bodySettled)).Spends prices.price 0 :=
    spends_issue (Nat.le_refl 0)
  have rest := (calls.bind fun _ => body.tryFinally settles).mono
    (Nat.le_of_eq (Nat.zero_add most))
  exact (starts.bind fun _ => logIf_spends _ _ rest).mono (Nat.le_of_eq (Nat.zero_add most))

theorem finallyBlock_spends : (job.finallyBlock executor).Spends prices.price prices.renew := by
  have reads : (issue .getSingleConsumerLock).Spends prices.price 0 :=
    spends_issue (Nat.le_refl 0)
  have stops : (issue (.record (.observabilityStop executor))).Spends prices.price 0 :=
    spends_issue (Nat.le_refl 0)
  have last := logIf_spends job.options.shouldLogExecution "Periodic job finished" stops
  refine (reads.bind fun lock => ?_).mono (Nat.le_of_eq (Nat.zero_add prices.renew))
  cases lock with
  | none => exact last.mono (Nat.zero_le _)
  | some lock =>
      refine ((updateMutex_spends lock job.options.timeoutAfterRun DEFAULT_LOCK_NAME).bind
        fun _ => ?_).mono (Nat.le_of_eq (Nat.add_zero prices.renew))
      refine (reads.bind fun lock => ?_).mono (Nat.le_of_eq (Nat.zero_add 0))
      cases lock with
      | none => exact spends_fail _ 0
      | some lock =>
          have stopsTimer : lock.stopRefresh.Spends prices.price 0 := spends_issue (Nat.le_refl 0)
          exact stopsTimer.bind fun _ => last

theorem execute_spends (body : (job.processInternal executor).Spends prices.price most) :
    (job.execute executor).Spends prices.price (most + prices.renew) :=
  ((tryBlock_spends body).tryCatch catchBlock_spends).tryFinally finallyBlock_spends

/-- Besides its body, an execution asks for the lock, twice at most, and renews it
once. -/
theorem process_spends (body : (job.processInternal executor).Spends prices.price most) :
    (job.process executor).Spends prices.price
      (prices.claim + prices.renew + (most + prices.renew)) := by
  unfold process
  split
  · refine (tryAcquireExclusiveLock_spends rfl).bind fun lock => ?_
    have records : (issue (.setSingleConsumerLock lock)).Spends prices.price 0 :=
      spends_issue (Nat.le_refl 0)
    refine (records.bind fun _ => ?_).mono (Nat.le_of_eq (Nat.zero_add _))
    cases lock with
    | none => exact (log_spends _ _ _).mono (Nat.zero_le _)
    | some lock => exact execute_spends body
  · exact (execute_spends body).mono (Nat.le_add_left _ _)

end AbstractPeriodicJob

/-! ## The bodies of the three jobs -/

section Bodies

variable {prices : Prices} {executor : String}

theorem DeleteOldUsersJob.processInternal_spends :
    (DeleteOldUsersJob.processInternal executor).Spends prices.price
      (prices.claim + (prices.deleteOldUsers + prices.release)) := by
  refine (tryAcquireExclusiveLock_spends rfl).bind fun lock => ?_
  cases lock with
  | none => exact (log_spends _ _ _).mono (Nat.zero_le _)
  | some lock =>
      have deletes : (issue (.perform .deleteOldUsers)).Spends prices.price
          prices.deleteOldUsers := spends_issue (Nat.le_refl _)
      exact deletes.tryFinally lock.release_spends

theorem SendEmailsJob.processInternal_spends :
    (SendEmailsJob.processInternal executor).Spends prices.price
      (prices.claim + (prices.sendEmails + prices.renew)) := by
  refine (tryAcquireExclusiveLock_spends rfl).bind fun lock => ?_
  cases lock with
  | none => exact (log_spends _ _ _).mono (Nat.zero_le _)
  | some lock =>
      have sends : (issue (.perform .sendEmails)).Spends prices.price
          prices.sendEmails := spends_issue (Nat.le_refl _)
      refine sends.bind fun _ => ?_
      exact (updateMutex_spends lock LOCK_ON_SUCCESS_IN_MSECS DEFAULT_LOCK_NAME).bind
        fun _ => spends_done () 0

/-- Every iteration asks for a file, claims its lock and processes it, at most. -/
theorem ProcessLogFilesJob.processFiles_spends (iterations : Nat) :
    (ProcessLogFilesJob.processFiles executor iterations).Spends prices.price
      (iterations * (prices.getUnprocessedLogFile + (prices.claim + prices.processFile))) := by
  induction iterations with
  | zero => exact spends_done () _
  | succ iterations ih =>
      have asks : (issue (.perform .getUnprocessedLogFile)).Spends prices.price
          prices.getUnprocessedLogFile := spends_issue (Nat.le_refl _)
      rw [Nat.succ_mul, Nat.add_comm, Nat.add_assoc]
      refine asks.bind fun found => ?_
      cases found.filter (· ≠ "") with
      | none => exact (log_spends _ _ _).mono (Nat.zero_le _)
      | some file =>
          rw [Nat.add_assoc]
          refine (tryAcquireExclusiveLock_spends rfl).bind fun lock => ?_
          cases lock with
          | none => exact ih.mono (Nat.le_add_left _ _)
          | some lock =>
              have processes : (issue (.perform (.processFile file))).Spends prices.price
                  prices.processFile := spends_issue (Nat.le_refl _)
              have stops : lock.stopRefresh.Spends prices.price 0 := spends_issue (Nat.le_refl 0)
              exact (processes.tryFinally stops).bind fun _ => ih

end Bodies

/-! ## What a call is answered in a run -/

section Answers

variable (body : String → Call → JobProgram Unit) (executor : String) (call : Call)

/-- The command that a step answers to the call. -/
def answeredBy (cluster : Cluster) : Label → Option Command
  | .resume node method _ =>
      if node = executor ∧ method = call then
        match (cluster.nodes executor).calls call with
        | some (.call command _) => some command
        | _ => none
      else none
  | _ => none

/-- The commands that a run answers to the call, in this order. -/
def answered : Cluster → List Label → List Command
  | _, [] => []
  | cluster, label :: labels =>
      match cluster.stepOf body label with
      | none => []
      | some next =>
          (answeredBy executor call cluster label).toList ++ answered next labels

def Label.Starts (executor : String) (call : Call) : Label → Prop
  | .start node method _ => node = executor ∧ method = call
  | _ => False

/-- The call has settled, or it waits for a command and spends no more than what
is left. -/
def Affords (price : Command → Nat) (left : Nat) (cluster : Cluster) : Prop :=
  ∀ program, (cluster.nodes executor).calls call = some program →
    program.Spends price left ∧
      ∃ command next, program = .call command next ∧ command.awaited = true

variable {body executor call} {environment : Environment} {cluster next : Cluster}
variable {price : Command → Nat} {left : Nat}

theorem advance_calls (program : JobProgram Unit) :
    ((cluster.advance executor call environment program).nodes executor).calls call =
        remaining (program.settle (executeNow executor environment) cluster).2 ∧
      ∀ other method, (other, method) ≠ (executor, call) →
        ((cluster.advance executor call environment program).nodes other).calls method =
          (cluster.nodes other).calls method := by
  let sameCalls (state : Cluster) (_ : JobProgram Unit) : Prop :=
    ∀ other, (state.nodes other).calls = (cluster.nodes other).calls
  have settled : sameCalls (program.settle (executeNow executor environment) cluster).1
      (program.settle (executeNow executor environment) cluster).2 := by
    refine Program.settle_invariant ?_ cluster program fun _ => rfl
    intro state command next changed answer same executed other
    unfold executeNow at executed
    split at executed
    · cases executed
    · obtain ⟨rfl, rfl⟩ := Prod.ext_iff.mp (Option.some.inj executed)
      rw [(execute_node executor environment state command other).2, same other]
  have sets : SetsCall executor call
      (remaining (program.settle (executeNow executor environment) cluster).2)
      (program.settle (executeNow executor environment) cluster).1
      (cluster.advance executor call environment program) := suspend_setsCall _
  constructor
  · exact sets.own
  · intro other method different
    rw [← settled other]
    exact sets.others other method different

theorem affords_advance {program : JobProgram Unit} (spends : program.Spends price left) :
    Affords executor call price left (cluster.advance executor call environment program) := by
  intro waiting waits
  rw [(advance_calls program).1] at waits
  have settles : (program.settle (executeNow executor environment) cluster).2.Spends price left :=
    spends.settle cluster
  generalize settled : program.settle (executeNow executor environment) cluster = reached at *
  obtain ⟨state, rest⟩ := reached
  cases rest with
  | done value => cases waits
  | fail error => cases waits
  | call command next =>
      cases waits
      refine ⟨settles, command, next, rfl, ?_⟩
      obtain ⟨at', now⟩ := Program.settle_waits (congrArg Prod.snd settled)
      unfold executeNow at now
      split at now
      · assumption
      · cases now

theorem Affords.of_calls (affords : Affords executor call price left cluster)
    (same : (next.nodes executor).calls call = (cluster.nodes executor).calls call) :
    Affords executor call price left next := by
  intro program waits
  rw [same] at waits
  exact affords program waits

/-- A step pays for the command that it answers to the call. -/
theorem Affords.step {label : Label} (affords : Affords executor call price left cluster)
    (unstarted : ¬ label.Starts executor call) (steps : cluster.stepOf body label = some next) :
    ∃ later, Affords executor call price later next ∧
      total price (answeredBy executor call cluster label).toList + later = left := by
  cases label with
  | tick =>
      obtain ⟨-, rfl⟩ := stepOf_tick steps
      exact ⟨left, affords.of_calls rfl, Nat.zero_add left⟩
  | fire index =>
      obtain ⟨timer, -, -, rfl⟩ := stepOf_fire steps
      exact ⟨left, affords.of_calls rfl, Nat.zero_add left⟩
  | start node method environment =>
      obtain ⟨-, rfl⟩ := stepOf_start steps
      have different : (executor, call) ≠ (node, method) :=
        fun same => unstarted ⟨(congrArg Prod.fst same).symm, (congrArg Prod.snd same).symm⟩
      exact ⟨left, affords.of_calls ((advance_calls _).2 _ _ different), Nat.zero_add left⟩
  | resume node method environment =>
      obtain ⟨command, continuation, waits, rfl⟩ := stepOf_resume steps
      by_cases own : node = executor ∧ method = call
      · obtain ⟨rfl, rfl⟩ := own
        obtain ⟨affordable, continues⟩ := (affords _ waits).1.of_call
        refine ⟨left - price command, affords_advance (continues _), ?_⟩
        simp [answeredBy, waits, total, Nat.add_sub_cancel' affordable]
      · have different : (executor, call) ≠ (node, method) :=
          fun same => own ⟨(congrArg Prod.fst same).symm, (congrArg Prod.snd same).symm⟩
        refine ⟨left, affords.of_calls ?_, by simp [answeredBy, own, total]⟩
        rw [(advance_calls _).2 _ _ different,
          (execute_node node environment cluster command executor).2]
  | crash node =>
      cases steps
      refine ⟨left, ?_, Nat.zero_add left⟩
      by_cases own : executor = node
      · subst own
        intro program waits
        simp [crashNode] at waits
      · exact affords.of_calls (by simp [crashNode, own])

/-- What the answers to a call cost is paid from what was left at first. -/
theorem Affords.run {last : Cluster} {labels : List Label}
    (affords : Affords executor call price left cluster)
    (unstarted : ∀ label ∈ labels, ¬ label.Starts executor call)
    (reaches : run (stepOf body) cluster labels = some last) :
    ∃ later, Affords executor call price later last ∧
      total price (answered body executor call cluster labels) + later = left := by
  induction labels generalizing cluster left with
  | nil =>
      cases reaches
      exact ⟨left, affords, Nat.zero_add left⟩
  | cons label labels ih =>
      obtain ⟨next, steps, rest⟩ := run_cons_eq_some reaches
      obtain ⟨middle, affordsNext, paid⟩ := affords.step (unstarted label List.mem_cons_self) steps
      obtain ⟨later, affordsLast, paidLater⟩ :=
        ih affordsNext (fun other member => unstarted other (List.mem_cons_of_mem _ member)) rest
      refine ⟨later, affordsLast, ?_⟩
      simp only [answered, steps, total_append]
      omega

/-- A call is answered nothing but what it waits for. -/
theorem awaited_of_mem_answered {last : Cluster} {labels : List Label}
    (affords : Affords executor call price left cluster)
    (unstarted : ∀ label ∈ labels, ¬ label.Starts executor call)
    (reaches : run (stepOf body) cluster labels = some last) {command : Command}
    (member : command ∈ answered body executor call cluster labels) :
    command.awaited = true := by
  induction labels generalizing cluster left with
  | nil => cases member
  | cons label labels ih =>
      obtain ⟨next, steps, rest⟩ := run_cons_eq_some reaches
      obtain ⟨middle, affordsNext, -⟩ := affords.step (unstarted label List.mem_cons_self) steps
      simp only [answered, steps, List.mem_append, Option.mem_toList] at member
      cases member with
      | inl now =>
          unfold answeredBy at now
          split at now
          · split at now
            · split at now
              · next waits =>
                cases now
                obtain ⟨-, _, _, same, awaited⟩ := affords _ waits
                cases same
                exact awaited
              · cases now
            · cases now
          · cases now
      | inr later =>
          exact ih affordsNext
            (fun other member => unstarted other (List.mem_cons_of_mem _ member)) rest later

end Answers

/-! ## Executions of the three jobs -/

section Executions

def Command.asksForFile : Command → Bool
  | .perform .getUnprocessedLogFile => true
  | _ => false

def Command.processesFile : Command → Bool
  | .perform (.processFile _) => true
  | _ => false

/-- The command runs what `DeleteOldUsersJob` or `SendEmailsJob` is there for. -/
def Command.works : Command → Bool
  | .perform .deleteOldUsers | .perform .sendEmails => true
  | _ => false

inductive RepositoryJob where
  | deleteOldUsers
  | sendEmails
  | processLogFiles
  deriving DecidableEq

def RepositoryJob.job : RepositoryJob → AbstractPeriodicJob
  | .deleteOldUsers => DeleteOldUsersJob.job
  | .sendEmails => SendEmailsJob.job
  | .processLogFiles => ProcessLogFilesJob.job

/-- What the body of each job costs at most. -/
def RepositoryJob.bodyCost (prices : Prices) : RepositoryJob → Nat
  | .deleteOldUsers => prices.claim + (prices.deleteOldUsers + prices.release)
  | .sendEmails => prices.claim + (prices.sendEmails + prices.renew)
  | .processLogFiles => FILE_PROCESSING_BATCH_SIZE *
      (prices.getUnprocessedLogFile + (prices.claim + prices.processFile))

/-- For how many answers an execution of each job waits at most. -/
def RepositoryJob.mostAnswers : RepositoryJob → Nat
  | .deleteOldUsers | .sendEmails => 6
  | .processLogFiles => 3 + 3 * FILE_PROCESSING_BATCH_SIZE

/-- Every answer counts. -/
def Prices.answers : Prices := ⟨1, 1, 1, 1, 1, 1, 1, 1⟩

/-- The bounds for what an execution of a job is answered. -/
structure WithinBounds (repositoryJob : RepositoryJob) (answers : List Command) : Prop where
  length : answers.length ≤ repositoryJob.mostAnswers
  asked : answers.countP Command.asksForFile ≤ FILE_PROCESSING_BATCH_SIZE
  processed : answers.countP Command.processesFile ≤ FILE_PROCESSING_BATCH_SIZE
  worked : answers.countP Command.works ≤ 1

variable {prices : Prices} {repositoryJob : RepositoryJob} {executor : String}
variable {environment : Environment} {idle started last : Cluster} {labels : List Label}

theorem body_spends :
    (repositoryJob.job.processInternal executor).Spends prices.price
      (repositoryJob.bodyCost prices) := by
  cases repositoryJob with
  | deleteOldUsers => exact DeleteOldUsersJob.processInternal_spends
  | sendEmails => exact SendEmailsJob.processInternal_spends
  | processLogFiles => exact ProcessLogFilesJob.processFiles_spends _

/-- What an execution costs at most: its body, the claim of the lock, and two
renewals. -/
def RepositoryJob.cost (prices : Prices) (repositoryJob : RepositoryJob) : Nat :=
  prices.claim + prices.renew + (repositoryJob.bodyCost prices + prices.renew)

theorem affords_of_start
    (starts : repositoryJob.job.step idle (.start executor .process environment) = some started) :
    Affords executor .process prices.price (repositoryJob.cost prices) started := by
  obtain ⟨-, rfl⟩ := stepOf_start starts
  exact affords_advance (AbstractPeriodicJob.process_spends body_spends)

theorem countP_answered_le {selected : Command → Bool} {limit : Nat} (prices : Prices)
    (starts : repositoryJob.job.step idle (.start executor .process environment) = some started)
    (unstarted : ∀ label ∈ labels, ¬ label.Starts executor .process)
    (runs : run repositoryJob.job.step started labels = some last)
    (priced : ∀ command, selected command = true → 1 ≤ prices.price command)
    (cost : repositoryJob.cost prices ≤ limit) :
    (answered repositoryJob.job.body executor .process started labels).countP selected ≤ limit := by
  have affords : Affords executor .process prices.price (repositoryJob.cost prices) started :=
    affords_of_start starts
  obtain ⟨later, -, paid⟩ := affords.run unstarted runs
  have counted := countP_le_total priced
    (answered repositoryJob.job.body executor .process started labels)
  omega

theorem answers_of_awaited (command : Command) (awaited : command.awaited = true) :
    1 ≤ Prices.answers.price command := by
  cases command with
  | setNx _ | refresh _ | delete _ => exact Nat.le_refl 1
  | perform task => cases task <;> exact Nat.le_refl 1
  | _ => cases awaited

theorem length_answered (starts : repositoryJob.job.step idle
      (.start executor .process environment) = some started)
    (unstarted : ∀ label ∈ labels, ¬ label.Starts executor .process)
    (runs : run repositoryJob.job.step started labels = some last) :
    (answered repositoryJob.job.body executor .process started labels).length =
      (answered repositoryJob.job.body executor .process started labels).countP
        Command.awaited := by
  have affords : Affords executor .process Prices.answers.price
      (repositoryJob.cost Prices.answers) started := affords_of_start starts
  symm
  rw [List.countP_eq_length]
  intro command member
  exact awaited_of_mem_answered affords unstarted runs member

theorem cost_answers : repositoryJob.cost Prices.answers = repositoryJob.mostAnswers := by
  cases repositoryJob <;> rfl

/-- A call in flight still has an answer to come within the bound. -/
theorem answered_lt_of_inFlight
    (starts : repositoryJob.job.step idle (.start executor .process environment) = some started)
    (unstarted : ∀ label ∈ labels, ¬ label.Starts executor .process)
    (runs : run repositoryJob.job.step started labels = some last) {program : JobProgram Unit}
    (inFlight : (last.nodes executor).calls .process = some program) :
    (answered repositoryJob.job.body executor .process started labels).length <
        repositoryJob.mostAnswers ∧
      ∀ reply, ∃ next,
        repositoryJob.job.step last (.resume executor .process reply) = some next := by
  rw [length_answered starts unstarted runs, ← cost_answers]
  have affords : Affords executor .process Prices.answers.price
      (repositoryJob.cost Prices.answers) started := affords_of_start starts
  obtain ⟨later, affordsLast, paid⟩ := affords.run unstarted runs
  have counted := countP_le_total answers_of_awaited
    (answered repositoryJob.job.body executor .process started labels)
  obtain ⟨spends, command, next, rfl, awaited⟩ := affordsLast program inFlight
  have price := answers_of_awaited command awaited
  have affordable := spends.of_call.1
  constructor
  · omega
  · intro reply
    simp only [AbstractPeriodicJob.step, stepOf, inFlight]
    exact ⟨_, rfl⟩

/-- Whatever is answered to an execution, and whatever else happens in between:
it settles after a bounded number of answers, asks for and processes no more
files than a batch has, and does its work once at most.  Until it has settled it
goes on with every answer. -/
theorem executions_settle (repositoryJob : RepositoryJob) (executor : String)
    (environment : Environment) (idle started last : Cluster) (labels : List Label)
    (starts : repositoryJob.job.step idle (.start executor .process environment) = some started)
    (unstarted : ∀ label ∈ labels, ¬ label.Starts executor .process)
    (runs : run repositoryJob.job.step started labels = some last) :
    WithinBounds repositoryJob
        (answered repositoryJob.job.body executor .process started labels) ∧
      ∀ program, (last.nodes executor).calls .process = some program →
        (answered repositoryJob.job.body executor .process started labels).length <
            repositoryJob.mostAnswers ∧
          ∀ reply, ∃ next,
            repositoryJob.job.step last (.resume executor .process reply) = some next := by
  constructor
  · constructor
    · rw [length_answered starts unstarted runs]
      apply countP_answered_le .answers starts unstarted runs
      · exact answers_of_awaited
      · exact Nat.le_of_eq cost_answers
    · apply countP_answered_le { getUnprocessedLogFile := 1 } starts unstarted runs
      · intro command asks
        unfold Command.asksForFile at asks
        split at asks
        · exact Nat.le_refl 1
        · cases asks
      · cases repositoryJob <;> decide
    · apply countP_answered_le { processFile := 1 } starts unstarted runs
      · intro command processes
        unfold Command.processesFile at processes
        split at processes
        · exact Nat.le_refl 1
        · cases processes
      · cases repositoryJob <;> decide
    · apply countP_answered_le { deleteOldUsers := 1, sendEmails := 1 } starts unstarted runs
      · intro command works
        unfold Command.works at works
        split at works
        · exact Nat.le_refl 1
        · exact Nat.le_refl 1
        · cases works
      · cases repositoryJob <;> decide
  · intro program inFlight
    exact answered_lt_of_inFlight starts unstarted runs inFlight

instance (executor : String) (call : Call) :
    (label : Label) → Decidable (label.Starts executor call)
  | .start _ _ _ => inferInstanceAs (Decidable (_ ∧ _))
  | .tick | .fire _ | .resume _ _ _ | .crash _ => inferInstanceAs (Decidable False)

/-- The node gets the lock, is given a file, gets the lock of the file, processes
it, is told that there is nothing more, and renews the lock. -/
def oneFile : List Label :=
  [.resume "a" .process allSucceeds, .resume "a" .process ProcessLogFilesJob.findsUserLog,
    .resume "a" .process allSucceeds, .resume "a" .process allSucceeds,
    .resume "a" .process allSucceeds, .resume "a" .process allSucceeds]

theorem executions_settle_oneFile :
    ∃ started last,
      ProcessLogFilesJob.job.step (AbstractPeriodicJob.initialCluster 0 fun _ => none)
        (.start "a" .process allSucceeds) = some started ∧
      run ProcessLogFilesJob.job.step started oneFile = some last ∧
      ((last.nodes "a").calls .process).isNone = true ∧
      WithinBounds .processLogFiles
        (answered ProcessLogFilesJob.job.body "a" .process started oneFile) := by
  have runs : (run ProcessLogFilesJob.job.step
      (AbstractPeriodicJob.initialCluster 0 fun _ => none)
      (.start "a" .process allSucceeds :: oneFile)).any
      (fun last => ((last.nodes "a").calls .process).isNone) = true := by
    decide
  obtain ⟨last, reaches, settled⟩ := (Option.any_eq_true _ _).mp runs
  obtain ⟨started, starts, rest⟩ := run_cons_eq_some reaches
  have bounds := executions_settle .processLogFiles "a" allSucceeds _ started last oneFile starts
    (by decide) rest
  exact ⟨started, last, starts, rest, settled, bounds.1⟩

end Executions

end ServiceTemplate.Jobs
