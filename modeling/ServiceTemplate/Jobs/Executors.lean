import ServiceTemplate.Jobs.Reachable

/-!
# Executors that run programs of their own

How a cluster steps does not depend on what its calls run, so executors may run
`processInternal` by itself, without the exclusive lock that `process` takes
around it.
-/

namespace ServiceTemplate.Jobs

open LeaseStore

/-- A step of the given call. -/
def Label.Runs (executor : String) (call : Call) : Label → Prop
  | .start node method _ | .resume node method _ => node = executor ∧ method = call
  | _ => False

/-- A step that ends what the call waits for: its answer, or the crash of its node. -/
def Label.Ends (executor : String) (call : Call) : Label → Prop
  | .resume node method _ => node = executor ∧ method = call
  | .crash node => node = executor
  | _ => False

namespace Cluster

/-- The task that a call waits for. -/
def awaitedTask : Option (JobProgram Unit) → Option Task
  | some (.call (.perform task) _) => some task
  | _ => none

def Awaits (cluster : Cluster) (executor : String) (call : Call) (task : Task) : Prop :=
  awaitedTask ((cluster.nodes executor).calls call) = some task

instance (cluster : Cluster) (executor : String) (call : Call) (task : Task) :
    Decidable (cluster.Awaits executor call task) := by
  unfold Awaits
  infer_instance

/-! ## What a step can do -/

section Inversion

variable {job : AbstractPeriodicJob} {cluster next : Cluster}
variable {executor : String} {call : Call} {environment : Environment}

theorem mayStart_of_start
    (steps : job.step cluster (.start executor call environment) = some next) :
    MayStart (cluster.nodes executor) call :=
  (stepOf_start steps).1

theorem idle_of_start (steps : job.step cluster (.start executor call environment) = some next) :
    (cluster.nodes executor).live = true ∧ (cluster.nodes executor).calls call = none := by
  obtain ⟨live, idle, -⟩ := mayStart_of_start steps
  exact ⟨live, Option.isNone_iff_eq_none.mp idle⟩

theorem inFlight_of_resume
    (steps : job.step cluster (.resume executor call environment) = some next) :
    (cluster.nodes executor).calls call ≠ none := by
  obtain ⟨command, continuation, waiting, -⟩ := stepOf_resume steps
  rw [waiting]
  exact Option.some_ne_none _

end Inversion

/-- What can become of a Redis command. -/
theorem reply_cases {Value : Type} (cluster : Cluster) (environment : Environment)
    (store : LeaseStore String Identifier) (value : Value) :
    cluster.reply environment store value = ({ cluster with locks := store }, .ok value) ∨
      ∃ error, cluster.reply environment store value = (cluster, .error error) ∨
        cluster.reply environment store value =
          ({ cluster with locks := store }, .error error) := by
  unfold reply
  cases environment.redis with
  | answered => exact .inl rfl
  | rejected error => exact .inr ⟨error, .inl rfl⟩
  | lost error => exact .inr ⟨error, .inr rfl⟩

/-! ## The synchronous code of a call -/

section Advance

variable {executor : String} {call : Call} {environment : Environment} {cluster : Cluster}
theorem advance_of_now (command : Command)
    {next : Except Thrown command.Answer → JobProgram Unit} (atOnce : command.awaited = false) :
    cluster.advance executor call environment (.call command next) =
      (cluster.execute executor environment command).1.advance executor call environment
        (next (cluster.execute executor environment command).2) := by
  simp [advance, Program.settle, executeNow, atOnce]

theorem advance_of_awaited {command : Command}
    {next : Except Thrown command.Answer → JobProgram Unit} (awaited : command.awaited = true) :
    cluster.advance executor call environment (.call command next) =
      cluster.suspend executor call (.call command next) := by
  simp [advance, Program.settle, executeNow, awaited]

end Advance

section Time

variable {body : String → Call → JobProgram Unit} {cluster next : Cluster} {label : Label}

theorem advance_now (executor : String) (call : Call) (environment : Environment)
    (cluster : Cluster) (program : JobProgram Unit) :
    (cluster.advance executor call environment program).now = cluster.now := by
  let atNow (state : Cluster) (_ : JobProgram Unit) : Prop := state.now = cluster.now
  have settled : atNow (program.settle (executeNow executor environment) cluster).1
      (program.settle (executeNow executor environment) cluster).2 := by
    refine Program.settle_invariant ?_ cluster program rfl
    intro state command next changed answer same executed
    unfold executeNow at executed
    split at executed
    · cases executed
    · have executed := Option.some.inj executed
      have now := execute_now executor environment state command
      rw [executed] at now
      exact now.trans same
  refine Eq.trans ?_ settled
  unfold advance suspend
  dsimp only
  split <;> rfl

/-- A step takes no time, or it is the passing of a millisecond. -/
theorem stepOf_now (steps : cluster.stepOf body label = some next) :
    next.now = cluster.now ∨ next.now = cluster.now + 1 := by
  cases label with
  | tick =>
      obtain ⟨-, rfl⟩ := stepOf_tick steps
      exact .inr rfl
  | fire index =>
      obtain ⟨timer, -, -, rfl⟩ := stepOf_fire steps
      exact .inl rfl
  | start executor call environment =>
      obtain ⟨-, rfl⟩ := stepOf_start steps
      exact .inl (advance_now _ _ _ _ _)
  | resume executor call environment =>
      obtain ⟨command, continuation, -, rfl⟩ := stepOf_resume steps
      exact .inl ((advance_now _ _ _ _ _).trans (execute_now _ _ _ _))
  | crash executor =>
      cases steps
      exact .inl rfl

theorem now_le_of_run {first last : Cluster} {labels : List Label}
    (reaches : run (stepOf body) first labels = some last) : first.now ≤ last.now := by
  induction labels generalizing first with
  | nil =>
      cases reaches
      exact Nat.le_refl _
  | cons label labels ih =>
      obtain ⟨next, stepTo, rest⟩ := run_cons_eq_some reaches
      have later := ih rest
      rcases stepOf_now stepTo with same | passed <;> omega

/-- Time does not jump: a run goes through every instant. -/
theorem exists_state_at {first last : Cluster} {labels : List Label}
    (reaches : run (stepOf body) first labels = some last) {instant : Nat}
    (notBefore : first.now ≤ instant) (notAfter : instant ≤ last.now) :
    ∃ before after state, labels = before ++ after ∧
      run (stepOf body) first before = some state ∧ state.now = instant := by
  induction labels generalizing first with
  | nil =>
      cases reaches
      exact ⟨[], [], _, rfl, rfl, by omega⟩
  | cons label labels ih =>
      obtain ⟨next, stepTo, rest⟩ := run_cons_eq_some reaches
      by_cases now : first.now = instant
      · exact ⟨[], label :: labels, first, rfl, rfl, now⟩
      · have stillBefore : next.now ≤ instant := by
          rcases stepOf_now stepTo with same | passed <;> omega
        obtain ⟨before, after, state, split, reached, at'⟩ := ih rest stillBefore
        refine ⟨label :: before, after, state, ?_, ?_, at'⟩
        · rw [split, List.cons_append]
        · rw [run_cons stepTo, reached]

end Time

/-! ## What a call waits for after a step -/

/-- What is left of a program that has been run up to its next awaited command. -/
def remaining : JobProgram Unit → Option (JobProgram Unit)
  | .call command next => some (.call command next)
  | .done _ | .fail _ => none

/-- Afterwards the call waits for the given program.  Besides, only events have
been noted. -/
structure SetsCall (executor : String) (call : Call) (waiting : Option (JobProgram Unit))
    (before after : Cluster) : Prop where
  now : after.now = before.now
  locks : after.locks = before.locks
  timers : after.timers = before.timers
  constructed : after.constructed = before.constructed
  live : ∀ other, (after.nodes other).live = (before.nodes other).live
  own : (after.nodes executor).calls call = waiting
  others : ∀ other method, (other, method) ≠ (executor, call) →
    (after.nodes other).calls method = (before.nodes other).calls method

section SetsCall

variable {executor : String} {call : Call} {cluster after : Cluster}
variable {waiting : Option (JobProgram Unit)}

theorem SetsCall.of_recordEvent {event : Event}
    (sets : SetsCall executor call waiting (cluster.recordEvent executor event) after) :
    SetsCall executor call waiting cluster after where
  now := sets.now
  locks := sets.locks
  timers := sets.timers
  constructed := sets.constructed
  live other := by
    rw [sets.live other]
    exact (execute_node executor ⟨.answered, fun _ => .error (.value ""), none, none⟩
      cluster (.record event) other).1
  own := sets.own
  others other method different := by
    rw [sets.others other method different]
    exact congrFun (execute_node executor ⟨.answered, fun _ => .error (.value ""), none, none⟩
      cluster (.record event) other).2 method

theorem setCall_setsCall :
    SetsCall executor call waiting cluster
      (cluster.setNode executor
        { cluster.nodes executor with
          calls := Function.update (cluster.nodes executor).calls call waiting }) where
  now := rfl
  locks := rfl
  timers := rfl
  constructed := rfl
  live other := by
    by_cases same : other = executor
    · subst same; simp [setNode]
    · simp [setNode, same]
  own := by simp [setNode]
  others other method different := by
    by_cases same : other = executor
    · subst same
      have otherCall : method ≠ call := fun equal => different (by rw [equal])
      simp [setNode, otherCall]
    · simp [setNode, same]

theorem suspend_done_journal :
    ((cluster.suspend executor call (.done ())).nodes executor).journal =
      (cluster.now, .callSettled none) :: (cluster.nodes executor).journal := by
  simp [suspend, recordEvent, setNode]

theorem suspend_fail_journal (error : Thrown) :
    ((cluster.suspend executor call (.fail error)).nodes executor).journal =
      (cluster.now, .callSettled (some error)) :: (cluster.nodes executor).journal := by
  simp [suspend, recordEvent, setNode]

theorem suspend_setsCall (program : JobProgram Unit) :
    SetsCall executor call (remaining program) cluster
      (cluster.suspend executor call program) := by
  cases program with
  | call command next => exact setCall_setsCall
  | done value => exact setCall_setsCall.of_recordEvent
  | fail error => exact setCall_setsCall.of_recordEvent

/-- A call that has come to an awaited command waits for it. -/
theorem advance_setsCall {environment : Environment} {command : Command}
    {next : Except Thrown command.Answer → JobProgram Unit} (awaited : command.awaited = true) :
    SetsCall executor call (some (.call command next)) cluster
      (cluster.advance executor call environment (.call command next)) := by
  rw [advance_of_awaited awaited]
  exact setCall_setsCall

theorem advance_waits {environment : Environment} {command : Command}
    {next : Except Thrown command.Answer → JobProgram Unit} (awaited : command.awaited = true) :
    ((cluster.advance executor call environment (.call command next)).nodes executor).calls call ≠
      none := by
  rw [(advance_setsCall awaited).own]
  exact Option.some_ne_none _

end SetsCall

end Cluster

end ServiceTemplate.Jobs
