import ServiceTemplate.Cli.GracefulShutdown

/-!
# The exit code of a CLI command

The process exits in three places: when the start fails, when the wrapper has
closed the app, and when the plugin has closed it after a signal.  The exit code
of the wrapper tells whether the command was called and has succeeded; that of
the plugin tells nothing.  Wherever the process is, it can exit.
-/

namespace ServiceTemplate.Cli

open Process

section Definitions

/-- What the labels so far say about the call of the command, by the phase. -/
def Phase.Explains (labels : List ProcessLabel) : Phase → Prop
  | .commandSettled isSuccess => isSuccess = true ↔ .commandSettles .resolved ∈ labels
  | .closing exitCode =>
      (exitCode = 0 ∨ exitCode = 1) ∧ (exitCode = 0 ↔ .commandSettles .resolved ∈ labels)
  | _ => ∀ outcome, .commandSettles outcome ∉ labels

/-- How many steps the wrapper has before it. -/
def Phase.remaining : Phase → Nat
  | .registeringPlugins => 6
  | .awaitingReady => 5
  | .gotApp => 4
  | .validatingArguments => 3
  | .running => 2
  | .commandSettled _ => 1
  | .closing _ => 0

/-- How a process has come to its exit, by its last label. -/
inductive Exits (labels : List ProcessLabel) (process : Process) (exitCode : Nat) : Prop
  | startupFails (last : labels.getLast? = some .startupFails) (failed : exitCode = 1)
      (uncalled : ∀ outcome, .commandSettles outcome ∉ labels)
  | wrapper (last : labels.getLast? = some .closed) (binary : exitCode = 0 ∨ exitCode = 1)
      (succeeded : exitCode = 0 ↔ .commandSettles .resolved ∈ labels)
      (closes : ∃ start ∈ process.closeStarts, start.closer = .cliCommandWrapper)
  | plugin (shutdown : Nat) (last : labels.getLast? = some (.pluginClosed shutdown))
      (zero : exitCode = 0) (signalled : .signal ∈ labels)
      (closes : ∃ start ∈ process.closeStarts, start.closer = .plugin)

end Definitions

/-- Only the end of the command's call says something new. -/
theorem Phase.Explains.append {labels : List ProcessLabel} {label : ProcessLabel}
    {phase : Phase} (explains : phase.Explains labels)
    (other : ∀ outcome, label ≠ .commandSettles outcome) :
    phase.Explains (labels ++ [label]) := by
  have same (outcome : CommandOutcome) :
      .commandSettles outcome ∈ labels ++ [label] ↔ .commandSettles outcome ∈ labels := by
    simp [(other outcome).symm]
  cases phase <;> simp only [Phase.Explains, same] at explains ⊢ <;> exact explains

namespace Process

/-- What the labels so far say about the process. -/
structure Explained (labels : List ProcessLabel) (process : Process) : Prop where
  phase : process.phase.Explains labels
  signalled : process.shutdowns ≠ [] → .signal ∈ labels
  pluginCloses : [] ∈ process.shutdowns →
    ∃ start ∈ process.closeStarts, start.closer = .plugin
  wrapperCloses : ∀ exitCode, process.phase = .closing exitCode →
    ∃ start ∈ process.closeStarts, start.closer = .cliCommandWrapper
  exits : ∀ exitCode, process.exitCode = some exitCode → Exits labels process exitCode

variable {process next : Process} {label : ProcessLabel} {labels : List ProcessLabel}

theorem closes_of_waitFor {closer : Closer} (pending : List ShutdownHandler)
    (closes : ∃ start ∈ process.closeStarts, start.closer = closer) :
    ∃ start ∈ (process.waitFor pending).closeStarts, start.closer = closer := by
  obtain ⟨start, member, same⟩ := closes
  refine ⟨start, ?_, same⟩
  unfold waitFor
  split
  · exact List.mem_append_left _ member
  · exact member

theorem exitCode_waitFor (pending : List ShutdownHandler) :
    (process.waitFor pending).exitCode = process.exitCode := by
  unfold waitFor
  split <;> rfl

theorem plugin_closes_of_waitFor :
    ∃ start ∈ (process.waitFor []).closeStarts, start.closer = .plugin := by
  refine ⟨⟨.plugin, process.phase = .running, process.commandDone⟩, ?_, rfl⟩
  simp [waitFor, startClose]

theorem pluginClosed_eq_some {shutdown : Nat}
    (stepTo : process.step (.pluginClosed shutdown) = some next) :
    [] ∈ process.shutdowns ∧ next = { process with exitCode := some 0 } := by
  unfold step at stepTo
  split at stepTo
  · cases stepTo
  · simp only [Option.ite_none_right_eq_some, Option.some.injEq] at stepTo
    exact ⟨List.mem_of_getElem? stepTo.1, stepTo.2.symm⟩

/-- The plugin goes on: the wrapper stays where it is, and a shutdown that waits
for nothing has closed the app. -/
theorem Explained.waitFor {changed : Process} {pending : List ShutdownHandler}
    (explained : Explained labels process) (notExited : process.exitCode = none)
    (other : ∀ outcome, label ≠ .commandSettles outcome)
    (phase : changed.phase = process.phase) (exitCode : changed.exitCode = process.exitCode)
    (closeStarts : changed.closeStarts = process.closeStarts)
    (signalled : .signal ∈ labels ++ [label])
    (shutdowns : ∀ waits ∈ changed.shutdowns, waits ∈ process.shutdowns ∨ waits = pending) :
    Explained (labels ++ [label]) (changed.waitFor pending) where
  phase := by
    rw [waitFor_phase, phase]
    exact explained.phase.append other
  signalled _ := signalled
  pluginCloses := by
    rw [waitFor_shutdowns]
    intro closed
    cases shutdowns [] closed with
    | inl earlier =>
        apply closes_of_waitFor
        rw [closeStarts]
        exact explained.pluginCloses earlier
    | inr now => rw [← now]; exact plugin_closes_of_waitFor
  wrapperCloses exitCode := by
    rw [waitFor_phase, phase]
    intro closing
    apply closes_of_waitFor
    rw [closeStarts]
    exact explained.wrapperCloses exitCode closing
  exits code := by
    rw [exitCode_waitFor, exitCode, notExited]
    intro exited
    cases exited

/-- The wrapper goes on to another phase. -/
theorem Explained.of_phase (explained : Explained labels process)
    (phase : next.phase.Explains (labels ++ [label]))
    (shutdowns : next.shutdowns = process.shutdowns)
    (closeStarts : ∀ start ∈ process.closeStarts, start ∈ next.closeStarts)
    (wrapperCloses : ∀ exitCode, next.phase = .closing exitCode →
      ∃ start ∈ next.closeStarts, start.closer = .cliCommandWrapper)
    (exits : ∀ exitCode, next.exitCode = some exitCode →
      Exits (labels ++ [label]) next exitCode) :
    Explained (labels ++ [label]) next where
  phase := phase
  signalled := by
    rw [shutdowns]
    exact fun waiting => List.mem_append_left _ (explained.signalled waiting)
  pluginCloses := by
    rw [shutdowns]
    intro closed
    obtain ⟨start, member, same⟩ := explained.pluginCloses closed
    exact ⟨start, closeStarts start member, same⟩
  wrapperCloses := wrapperCloses
  exits := exits

/-- The wrapper goes on without calling or closing anything. -/
theorem Explained.of_early (explained : Explained labels process)
    (notExited : next.exitCode = none) (other : ∀ outcome, label ≠ .commandSettles outcome)
    (phase : next.phase.Explains labels) (shutdowns : next.shutdowns = process.shutdowns)
    (closeStarts : next.closeStarts = process.closeStarts)
    (notClosing : ∀ exitCode, next.phase ≠ .closing exitCode) :
    Explained (labels ++ [label]) next := by
  apply explained.of_phase (phase.append other) shutdowns
  · rw [closeStarts]
    exact fun start member => member
  · exact fun exitCode closing => absurd closing (notClosing exitCode)
  · intro exitCode exited
    rw [notExited] at exited
    cases exited

/-- The start fails before the command has been called. -/
theorem Explained.of_startupFails (explained : Explained labels process)
    (uncalled : ∀ outcome, .commandSettles outcome ∉ labels)
    (notClosing : ∀ exitCode, process.phase ≠ .closing exitCode) :
    Explained (labels ++ [.startupFails]) { process with exitCode := some 1 } := by
  apply explained.of_phase
  · exact explained.phase.append (by simp)
  · rfl
  · exact fun start member => member
  · exact fun exitCode closing => absurd closing (notClosing exitCode)
  · intro exitCode exited
    cases exited
    refine .startupFails List.getLast?_concat rfl fun outcome member => ?_
    exact uncalled outcome (by simpa using member)

/-- The wrapper closes the app and keeps the exit code in mind. -/
theorem Explained.of_close (explained : Explained labels process)
    (notExited : process.exitCode = none) {exitCode : Nat}
    (phase : (Phase.closing exitCode).Explains (labels ++ [label])) :
    Explained (labels ++ [label])
      { process.startClose .cliCommandWrapper with phase := .closing exitCode } := by
  apply explained.of_phase
  · exact phase
  · rfl
  · exact fun start member => List.mem_append_left _ member
  · intro _ _
    refine ⟨⟨.cliCommandWrapper, process.phase = .running, process.commandDone⟩, ?_, rfl⟩
    exact List.mem_append_right _ (List.mem_singleton_self _)
  · intro code exited
    have running : process.exitCode = some code := exited
    rw [notExited] at running
    cases running

theorem Explained.of_closed (explained : Explained labels process) {exitCode : Nat}
    (closing : process.phase = .closing exitCode) :
    Explained (labels ++ [.closed]) { process with exitCode := some exitCode } := by
  have phase : process.phase.Explains (labels ++ [.closed]) :=
    explained.phase.append (by simp)
  apply explained.of_phase
  · exact phase
  · rfl
  · exact fun start member => member
  · exact explained.wrapperCloses
  · intro code exited
    cases exited
    rw [closing] at phase
    exact .wrapper List.getLast?_concat phase.1 phase.2
      (explained.wrapperCloses exitCode closing)

theorem Explained.wrapperStep (explained : Explained labels process)
    (notExited : process.exitCode = none)
    (stepTo : process.wrapperStep process.phase label = some next) :
    Explained (labels ++ [label]) next := by
  have before := explained.phase
  cases phase : process.phase <;> rw [phase] at stepTo before
  case registeringPlugins =>
    cases label <;> cases stepTo
    case registerRoutes =>
      exact explained.of_early notExited (by simp) before rfl rfl (by simp)
    case startupFails => exact explained.of_startupFails before (by simp [phase])
  case awaitingReady =>
    cases label <;> cases stepTo
    case ready => exact explained.of_early notExited (by simp) before rfl rfl (by simp)
    case startupFails => exact explained.of_startupFails before (by simp [phase])
  case gotApp =>
    cases label <;> cases stepTo
    exact explained.of_early notExited (by simp) before rfl rfl (by simp)
  case validatingArguments =>
    cases label with
    | validateArguments success =>
        cases success with
        | true =>
            cases stepTo
            exact explained.of_early notExited (by simp) before rfl rfl (by simp)
        | false =>
            cases stepTo
            have uncalled := before .resolved
            apply explained.of_close notExited
            simp [Phase.Explains, uncalled]
    | _ => cases stepTo
  case running =>
    cases label with
    | commandSettles outcome =>
        cases stepTo
        have uncalled := before .resolved
        apply explained.of_phase
        · simp [Phase.Explains, uncalled, eq_comm]
        · rfl
        · exact fun start member => member
        · exact fun exitCode closing => nomatch closing
        · intro exitCode exited
          have running : process.exitCode = some exitCode := exited
          rw [notExited] at running
          cases running
    | _ => cases stepTo
  case commandSettled isSuccess =>
    cases label <;> cases stepTo
    have succeeded : isSuccess = true ↔ .commandSettles .resolved ∈ labels := before
    apply explained.of_close notExited
    cases isSuccess <;> simpa [Phase.Explains] using succeeded
  case closing exitCode =>
    cases label <;> cases stepTo
    exact explained.of_closed phase

theorem Explained.step (explained : Explained labels process)
    (stepTo : process.step label = some next) : Explained (labels ++ [label]) next := by
  have notExited := running_of_step stepTo
  obtain ⟨rfl, rfl⟩ | ⟨shutdown, handler, rfl, returned⟩ | ⟨shutdown, rfl, -⟩ | moves :=
    step_cases stepTo
  · apply explained.waitFor notExited <;> simp
  · obtain ⟨pending, member, -, -, rfl⟩ := handlerReturns_eq_some returned
    have signalled := explained.signalled (List.ne_nil_of_mem member)
    apply explained.waitFor notExited
    · simp
    · rfl
    · rfl
    · rfl
    · exact List.mem_append_left _ signalled
    · intro waits present
      exact List.mem_or_eq_of_mem_set present
  · obtain ⟨closed, rfl⟩ := pluginClosed_eq_some stepTo
    have signalled : .signal ∈ labels ++ [.pluginClosed shutdown] :=
      List.mem_append_left _ (explained.signalled (List.ne_nil_of_mem closed))
    constructor
    · exact explained.phase.append (by simp)
    · exact fun _ => signalled
    · exact explained.pluginCloses
    · exact explained.wrapperCloses
    · intro exitCode exited
      cases exited
      exact .plugin shutdown List.getLast?_concat rfl signalled (explained.pluginCloses closed)
  · exact explained.wrapperStep notExited moves

theorem booting_explained : Explained [] booting where
  phase _ := List.not_mem_nil
  signalled waiting := absurd rfl waiting
  pluginCloses closed := absurd closed List.not_mem_nil
  wrapperCloses _ closing := nomatch closing
  exits _ exited := nomatch exited

theorem explained_of_run (reaches : run step booting labels = some process) :
    Explained labels process := by
  apply run_history _ booting_explained reaches
  intro earlier state label next explained stepTo
  exact explained.step stepTo

/-- The wrapper always has a step to take, which takes it nearer to the exit. -/
theorem exists_step (notExited : process.exitCode = none) :
    ∃ label next, label ≠ .signal ∧ process.step label = some next ∧
      (next.exitCode = none → next.phase.remaining < process.phase.remaining) := by
  cases process
  cases notExited
  rename_i phase _ _ _ _ _
  cases phase with
  | registeringPlugins =>
      exact ⟨.registerRoutes, _, by simp, rfl, fun _ => Nat.lt_succ_self _⟩
  | awaitingReady => exact ⟨.ready, _, by simp, rfl, fun _ => Nat.lt_succ_self _⟩
  | gotApp => exact ⟨.registerHandler, _, by simp, rfl, fun _ => Nat.lt_succ_self _⟩
  | validatingArguments =>
      exact ⟨.validateArguments true, _, by simp, rfl, fun _ => Nat.lt_succ_self _⟩
  | running =>
      exact ⟨.commandSettles .resolved, _, by simp, rfl, fun _ => Nat.lt_succ_self _⟩
  | commandSettled isSuccess =>
      exact ⟨.close, _, by simp, rfl, fun _ => Nat.lt_succ_self _⟩
  | closing exitCode => exact ⟨.closed, _, by simp, rfl, fun still => nomatch still⟩

theorem can_exit (process : Process) :
    ∃ labels last, .signal ∉ labels ∧ run step process labels = some last ∧
      last.exitCode ≠ none := by
  induction bound : process.phase.remaining using Nat.strongRecOn
    generalizing process with
  | ind remaining ih =>
      by_cases notExited : process.exitCode = none
      · obtain ⟨label, next, notSignal, stepTo, nearer⟩ := exists_step notExited
        by_cases still : next.exitCode = none
        · have less := nearer still
          rw [bound] at less
          obtain ⟨labels, last, silent, reaches, exited⟩ := ih _ less next rfl
          refine ⟨label :: labels, last, ?_, ?_, exited⟩
          · simp [silent, notSignal.symm]
          · rw [run_cons stepTo, reaches]
        · refine ⟨[label], next, ?_, ?_, still⟩
          · simp [notSignal.symm]
          · rw [run_cons stepTo, run]
      · exact ⟨[], process, by simp, rfl, notExited⟩

end Process

end ServiceTemplate.Cli
