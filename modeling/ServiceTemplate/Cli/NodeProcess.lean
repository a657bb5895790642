import ServiceTemplate.Cli.ExitStatus

/-!
# Signals and the exit status of a CLI command

The plugin listens to each of two signals once.  When one of them arrives again,
nobody listens any more and the process is killed; and the plugin ends a process
that takes too long after a signal.  Apart from that the process goes on as the
wrapper and the plugin let it, and comes to its exit by itself.
-/

namespace ServiceTemplate.Cli

section Model

/-- The signals that the plugin listens to. -/
inductive ShutdownSignal where
  | SIGINT
  | SIGTERM
  deriving DecidableEq, Repr

def ShutdownSignal.number : ShutdownSignal → Nat
  | .SIGINT => 2
  | .SIGTERM => 15

/-- What ends a process wherever it is. -/
inductive Termination where
  | timeout
  | killed (signal : ShutdownSignal)
  deriving DecidableEq, Repr

structure NodeProcess where
  process : Process
  /-- The signals that have reached the plugin. -/
  received : List ShutdownSignal
  termination : Option Termination
  deriving DecidableEq, Repr

inductive NodeLabel where
  | signal (signal : ShutdownSignal)
  | timeout
  | process (label : ProcessLabel)
  deriving DecidableEq, Repr

namespace NodeProcess

def booting : NodeProcess :=
  { process := Process.booting, received := [], termination := none }

/-- The status that the shell is told. -/
def exitStatus (node : NodeProcess) : Option Nat :=
  match node.termination with
  | some .timeout => some 1
  | some (.killed signal) => some (128 + signal.number)
  | none => node.process.exitCode

def step (node : NodeProcess) (label : NodeLabel) : Option NodeProcess :=
  if node.exitStatus.isSome then none
  else
    match label with
    | .signal signal =>
        if signal ∈ node.received then
          some { node with termination := some (.killed signal) }
        else
          (node.process.step .signal).map fun process =>
            { node with process, received := signal :: node.received }
    | .timeout =>
        if node.received = [] then none
        else some { node with termination := some .timeout }
    | .process .signal => none
    | .process label => (node.process.step label).map fun process => { node with process }

end NodeProcess

/-- The label that the process itself takes. -/
def NodeLabel.processLabel : NodeLabel → Option ProcessLabel
  | .signal _ => some .signal
  | .timeout => none
  | .process label => some label

/-- How a process has come to its end, by its last label. -/
inductive Ends (labels : List NodeLabel) (node : NodeProcess) (status : Nat) : Prop
  | exits (exits : Exits (labels.filterMap NodeLabel.processLabel) node.process status)
  | timeout (last : labels.getLast? = some .timeout) (failed : status = 1)
      (signalled : ∃ signal, .signal signal ∈ labels)
  | killed (signal : ShutdownSignal) (last : labels.getLast? = some (.signal signal))
      (again : .signal signal ∈ labels.dropLast) (failed : status = 128 + signal.number)

end Model

namespace NodeProcess

variable {node next : NodeProcess} {label : NodeLabel} {labels : List NodeLabel}

/-- A step of the process itself. -/
structure Moves (node : NodeProcess) (label : NodeLabel) (next : NodeProcess) : Prop where
  running : node.termination = none
  still : next.termination = none
  step : ∃ inner, label.processLabel = some inner ∧
    node.process.step inner = some next.process
  received : ∀ signal ∈ next.received, signal ∈ node.received ∨ label = .signal signal

theorem running_of_exitStatus (running : node.exitStatus = none) :
    node.termination = none := by
  unfold exitStatus at running
  split at running
  · cases running
  · cases running
  · assumption

/-- A process is killed by a signal that has come before, is ended by the plugin
after a signal, or takes a step of its own. -/
theorem step_cases (stepTo : node.step label = some next) :
    (∃ signal, label = .signal signal ∧ signal ∈ node.received ∧
        next = { node with termination := some (.killed signal) }) ∨
      (label = .timeout ∧ node.received ≠ [] ∧
        next = { node with termination := some .timeout }) ∨
      Moves node label next := by
  unfold step at stepTo
  split at stepTo
  · cases stepTo
  · next notExited =>
    have running := running_of_exitStatus (by simpa using notExited)
    cases label with
    | signal signal =>
        simp only at stepTo
        split at stepTo
        · next again => exact .inl ⟨signal, rfl, again, (Option.some.inj stepTo).symm⟩
        · obtain ⟨process, moved, rfl⟩ := Option.map_eq_some_iff.mp stepTo
          refine .inr (.inr ⟨running, running, ⟨_, rfl, moved⟩, fun other member => ?_⟩)
          rcases List.mem_cons.mp member with rfl | earlier
          · exact .inr rfl
          · exact .inl earlier
    | timeout =>
        simp only at stepTo
        split at stepTo
        · cases stepTo
        · next signalled => exact .inr (.inl ⟨rfl, signalled, (Option.some.inj stepTo).symm⟩)
    | process inner =>
        have moves : (node.process.step inner).map
            (fun process => { node with process }) = some next := by
          cases inner <;> first | exact stepTo | cases stepTo
        obtain ⟨process, moved, rfl⟩ := Option.map_eq_some_iff.mp moves
        exact .inr (.inr ⟨running, running, ⟨_, rfl, moved⟩, fun other member => .inl member⟩)

/-- What the labels so far say about the process and its end. -/
structure Followed (labels : List NodeLabel) (node : NodeProcess) : Prop where
  runs : node.termination = none →
    run Process.step Process.booting (labels.filterMap NodeLabel.processLabel) =
      some node.process
  received : ∀ signal ∈ node.received, .signal signal ∈ labels
  ends : ∀ status, node.termination ≠ none → node.exitStatus = some status →
    Ends labels node status

theorem Followed.step (followed : Followed labels node)
    (stepTo : node.step label = some next) : Followed (labels ++ [label]) next := by
  obtain ⟨signal, rfl, again, rfl⟩ | ⟨rfl, signalled, rfl⟩ | moves := step_cases stepTo
  · refine ⟨fun running => (nomatch running), fun other member => ?_,
      fun status _ exited => ?_⟩
    · exact List.mem_append_left _ (followed.received other member)
    · cases exited
      refine .killed signal List.getLast?_concat ?_ rfl
      rw [List.dropLast_concat]
      exact followed.received signal again
  · refine ⟨fun running => (nomatch running), fun other member => ?_,
      fun status _ exited => ?_⟩
    · exact List.mem_append_left _ (followed.received other member)
    · cases exited
      obtain ⟨signal, member⟩ := List.exists_mem_of_ne_nil _ signalled
      refine .timeout List.getLast?_concat rfl ⟨signal, ?_⟩
      exact List.mem_append_left _ (followed.received signal member)
  · obtain ⟨running, still, ⟨inner, ofProcess, moved⟩, received⟩ := moves
    refine ⟨fun _ => ?_, fun signal member => ?_, fun _ ended => absurd still ended⟩
    · rw [List.filterMap_append, run_append (followed.runs running)]
      simp only [List.filterMap_cons, ofProcess, List.filterMap_nil]
      rw [run_cons moved, run]
    · rcases received signal member with earlier | rfl
      · exact List.mem_append_left _ (followed.received signal earlier)
      · exact List.mem_append_right _ (List.mem_singleton_self _)

theorem followed_of_run (reaches : run step booting labels = some node) :
    Followed labels node := by
  have initially : Followed [] booting :=
    ⟨fun _ => rfl, fun _ member => absurd member List.not_mem_nil,
      fun _ ended => absurd rfl ended⟩
  apply run_history _ initially reaches
  intro earlier state label next followed stepTo
  exact followed.step stepTo

theorem step_process {inner : ProcessLabel} (notExited : node.exitStatus = none)
    (silent : inner ≠ .signal) :
    node.step (.process inner) =
      (node.process.step inner).map fun process => { node with process } := by
  cases inner with
  | signal => exact absurd rfl silent
  | _ => simp only [step, notExited, Option.isSome_none, Bool.false_eq_true, if_false]

/-- The process goes on by itself when no signal comes. -/
theorem run_process {last : Process} {inner : List ProcessLabel}
    (running : node.termination = none) (silent : .signal ∉ inner)
    (reaches : run Process.step node.process inner = some last) :
    run step node (inner.map .process) = some { node with process := last } := by
  induction inner generalizing node with
  | nil => cases reaches; rfl
  | cons label inner ih =>
      obtain ⟨process, stepTo, rest⟩ := run_cons_eq_some reaches
      simp only [List.mem_cons, not_or] at silent
      have notExited : node.exitStatus = none := by
        simp only [exitStatus, running]
        exact Process.running_of_step stepTo
      have moves : node.step (.process label) = some { node with process } := by
        rw [step_process notExited (Ne.symm silent.1), stepTo, Option.map_some]
      rw [List.map_cons, run_cons moves]
      exact ih running silent.2 rest

/-- A process that has ended was killed by a signal that came twice, was ended by
the timeout of the plugin, or has exited in one of its three places; and a process
that is still running, wherever it is, can go on to its exit by itself. -/
theorem exit_status (labels : List NodeLabel) (node : NodeProcess)
    (reaches : run step booting labels = some node) :
    (∀ status, node.exitStatus = some status → Ends labels node status) ∧
      ∃ (more : List ProcessLabel) (last : NodeProcess),
        run step node (more.map .process) = some last ∧ last.exitStatus ≠ none := by
  have followed := followed_of_run reaches
  by_cases running : node.termination = none
  · constructor
    · intro status exited
      simp only [exitStatus, running] at exited
      exact .exits ((Process.explained_of_run (followed.runs running)).exits status exited)
    · obtain ⟨more, last, silent, goesOn, exited⟩ := Process.can_exit node.process
      refine ⟨more, _, run_process running silent goesOn, ?_⟩
      simpa only [exitStatus, running] using exited
  · refine ⟨fun status => followed.ends status running, [], node, rfl, ?_⟩
    unfold exitStatus
    split
    · exact Option.some_ne_none _
    · exact Option.some_ne_none _
    · contradiction

/-- A command that waits for nothing after the first signal is killed by the
second one. -/
theorem exit_status_of_repeated :
    ∃ node, run step booting
        [.process .registerRoutes, .process .ready, .process .registerHandler,
          .process (.validateArguments true), .signal .SIGTERM, .signal .SIGINT,
          .signal .SIGTERM] = some node ∧
      node.exitStatus = some 143 ∧
      Ends [.process .registerRoutes, .process .ready, .process .registerHandler,
        .process (.validateArguments true), .signal .SIGTERM, .signal .SIGINT,
        .signal .SIGTERM] node 143 := by
  have runs : (run step booting
      [.process .registerRoutes, .process .ready, .process .registerHandler,
        .process (.validateArguments true), .signal .SIGTERM, .signal .SIGINT,
        .signal .SIGTERM]).any (fun node => decide (node.exitStatus = some 143)) = true := by
    decide
  obtain ⟨node, reaches, killed⟩ := (Option.any_eq_true _ _).mp runs
  have status := of_decide_eq_true killed
  exact ⟨node, reaches, status, (exit_status _ node reaches).1 143 status⟩

end NodeProcess

end ServiceTemplate.Cli
