import ServiceTemplate.Jobs.Executors

/-!
# Invariants from contracts

Every executor keeps to a contract of its own.  A property of the cluster that
each permitted command preserves, and that firing timers, passing time and
crashes preserve, holds after every run.
-/

namespace ServiceTemplate.Jobs

open Program Cluster

section Conformance

variable {Mode : Type}

/-- Every call in flight belongs to a live node and keeps to the contract of its
executor. -/
structure Conforms (contract : String → Contract Command.Answer Thrown Mode)
    (cluster : Cluster) : Prop where
  follows : ∀ executor call program, (cluster.nodes executor).calls call = some program →
    ∃ mode, program.Follows (contract executor) mode fun _ _ => True
  dead : ∀ executor call, (cluster.nodes executor).live = false →
    (cluster.nodes executor).calls call = none

/-- What one step of a cluster of conforming calls preserves. -/
structure Preserved (contract : String → Contract Command.Answer Thrown Mode)
    (property : Cluster → Prop) : Prop where
  execute : ∀ {cluster : Cluster} {executor : String} {mode : Mode} {command : Command}
    (environment : Environment), property cluster →
    (cluster.nodes executor).live = true → (contract executor).allows mode command →
    property (cluster.execute executor environment command).1 ∧
      ∃ later, (contract executor).moves mode command
        (cluster.execute executor environment command).2 later
  suspend : ∀ {cluster : Cluster} (executor : String) (call : Call) (program : JobProgram Unit),
    property cluster → property (cluster.suspend executor call program)
  tick : ∀ {cluster : Cluster}, property cluster →
    (∀ timer ∈ cluster.timers, cluster.now < timer.dueAt) →
    property { cluster with now := cluster.now + 1 }
  fire : ∀ {cluster : Cluster} {index : Nat} {timer : RefreshTimer}, property cluster →
    cluster.timers[index]? = some timer → property (cluster.fireTimer index timer)
  crash : ∀ {cluster : Cluster} (executor : String), property cluster →
    property (cluster.crashNode executor)

variable {contract : String → Contract Command.Answer Thrown Mode}
variable {property : Cluster → Prop}

/-- The synchronous code of a call of the executor has the program left. -/
structure Executes (contract : String → Contract Command.Answer Thrown Mode)
    (property : Cluster → Prop) (executor : String) (cluster : Cluster)
    (program : JobProgram Unit) : Prop where
  conforms : Conforms contract cluster
  holds : property cluster
  live : (cluster.nodes executor).live = true
  follows : ∃ mode, program.Follows (contract executor) mode fun _ _ => True

section Calls

variable {executor : String} {environment : Environment} {cluster next : Cluster}

theorem Conforms.of_node (conforms : Conforms contract cluster)
    (same : ∀ other, (next.nodes other).live = (cluster.nodes other).live ∧
      (next.nodes other).calls = (cluster.nodes other).calls) :
    Conforms contract next where
  follows other call program waits := by
    rw [(same other).2] at waits
    exact conforms.follows other call program waits
  dead other call isDead := by
    rw [(same other).2]
    rw [(same other).1] at isDead
    exact conforms.dead other call isDead

theorem Executes.execute (preserved : Preserved contract property) {command : Command}
    {rest : Except Thrown command.Answer → JobProgram Unit}
    (executes : Executes contract property executor cluster (.call command rest)) :
    Executes contract property executor (cluster.execute executor environment command).1
      (rest (cluster.execute executor environment command).2) := by
  obtain ⟨mode, allowed, continues⟩ := executes.follows
  obtain ⟨holds, later, moved⟩ :=
    preserved.execute environment executes.holds executes.live allowed
  constructor
  · exact executes.conforms.of_node (execute_node executor environment cluster command)
  · exact holds
  · rw [(execute_node executor environment cluster command executor).1, executes.live]
  · exact ⟨later, continues _ later moved⟩

theorem Conforms.suspend {call : Call} {program : JobProgram Unit}
    (conforms : Conforms contract cluster) (live : (cluster.nodes executor).live = true)
    (follows : ∃ mode, program.Follows (contract executor) mode fun _ _ => True) :
    Conforms contract (cluster.suspend executor call program) := by
  have sets : SetsCall executor call (remaining program) cluster
      (cluster.suspend executor call program) := suspend_setsCall program
  constructor
  · intro other method waiting waits
    by_cases own : (other, method) = (executor, call)
    · cases own
      rw [sets.own] at waits
      cases program with
      | done value => cases waits
      | fail error => cases waits
      | call command rest =>
          cases waits
          exact follows
    · rw [sets.others other method own] at waits
      exact conforms.follows other method waiting waits
  · intro other method isDead
    rw [sets.live other] at isDead
    have different : other ≠ executor := by
      rintro rfl
      rw [live] at isDead
      cases isDead
    rw [sets.others other method fun same => different (congrArg Prod.fst same)]
    exact conforms.dead other method isDead

theorem Executes.advance (preserved : Preserved contract property) {call : Call}
    {program : JobProgram Unit}
    (executes : Executes contract property executor cluster program) :
    Conforms contract (cluster.advance executor call environment program) ∧
      property (cluster.advance executor call environment program) := by
  have settled : Executes contract property executor
      (program.settle (executeNow executor environment) cluster).1
      (program.settle (executeNow executor environment) cluster).2 := by
    refine settle_invariant ?_ cluster program executes
    intro state command rest changed answer executes now
    unfold executeNow at now
    split at now
    · cases now
    · obtain ⟨rfl, rfl⟩ := Prod.ext_iff.mp (Option.some.inj now)
      exact executes.execute preserved
  constructor
  · exact settled.conforms.suspend settled.live settled.follows
  · exact preserved.suspend executor call _ settled.holds

theorem Conforms.crash (conforms : Conforms contract cluster) (crashing : String) :
    Conforms contract (cluster.crashNode crashing) where
  follows executor call program waits := by
    by_cases same : executor = crashing
    · subst same
      simp [crashNode] at waits
    · simp only [crashNode, Function.update_of_ne same] at waits
      exact conforms.follows executor call program waits
  dead executor call isDead := by
    by_cases same : executor = crashing
    · subst same
      simp [crashNode]
    · simp only [crashNode, Function.update_of_ne same] at isDead ⊢
      exact conforms.dead executor call isDead

end Calls

section Runs

variable {body : String → Call → JobProgram Unit} {cluster next : Cluster} {label : Label}

theorem Conforms.step
    (bodies : ∀ executor call, ∃ mode,
      (body executor call).Follows (contract executor) mode fun _ _ => True)
    (preserved : Preserved contract property) (conforms : Conforms contract cluster)
    (holds : property cluster) (steps : cluster.stepOf body label = some next) :
    Conforms contract next ∧ property next := by
  cases label with
  | tick =>
      obtain ⟨early, rfl⟩ := stepOf_tick steps
      exact ⟨⟨conforms.follows, conforms.dead⟩, preserved.tick holds early⟩
  | fire index =>
      obtain ⟨timer, atIndex, -, rfl⟩ := stepOf_fire steps
      exact ⟨⟨conforms.follows, conforms.dead⟩, preserved.fire holds atIndex⟩
  | start executor call environment =>
      obtain ⟨⟨live, -⟩, rfl⟩ := stepOf_start steps
      have starts : Executes contract property executor cluster (body executor call) :=
        ⟨conforms, holds, live, bodies executor call⟩
      exact starts.advance preserved
  | resume executor call environment =>
      obtain ⟨command, continuation, waits, rfl⟩ := stepOf_resume steps
      have live : (cluster.nodes executor).live = true := by
        cases isLive : (cluster.nodes executor).live with
        | true => rfl
        | false =>
            rw [conforms.dead executor call isLive] at waits
            cases waits
      have waiting : Executes contract property executor cluster
          (.call command continuation) :=
        ⟨conforms, holds, live, conforms.follows executor call _ waits⟩
      exact (waiting.execute preserved).advance preserved
  | crash executor =>
      cases steps
      exact ⟨conforms.crash executor, preserved.crash executor holds⟩

/-- What every permitted command preserves, every run preserves. -/
theorem Conforms.run {first last : Cluster} {labels : List Label}
    (bodies : ∀ executor call, ∃ mode,
      (body executor call).Follows (contract executor) mode fun _ _ => True)
    (preserved : Preserved contract property) (conforms : Conforms contract first)
    (holds : property first)
    (reaches : ServiceTemplate.run (stepOf body) first labels = some last) :
    Conforms contract last ∧ property last := by
  have preserves : ∀ (state : Cluster) label next,
      (Conforms contract state ∧ property state) → state.stepOf body label = some next →
      Conforms contract next ∧ property next := by
    rintro state label next ⟨conforms, holds⟩ steps
    exact conforms.step bodies preserved holds steps
  exact run_invariant_of_step preserves ⟨conforms, holds⟩ reaches

theorem conforms_initial (now : Nat) (locks : LeaseStore String Identifier) :
    Conforms contract (AbstractPeriodicJob.initialCluster now locks) where
  follows _ _ _ waits := nomatch waits
  dead _ _ _ := rfl

end Runs

end Conformance

end ServiceTemplate.Jobs
