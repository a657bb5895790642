import ServiceTemplate.Cli.CommandWrapper

/-!
# Closing the app and the command that uses it

The app must not be closed under a running command, and what the shutdown
handler of the wrapper waits for must be resolved when the wrapper closes the
app itself.  Two kinds of steps break this: a signal that arrives when only the
handler of `app.ts` is registered, and the rejection of the arguments.
-/

namespace ServiceTemplate.Cli

section Properties

def CloseStart.Safe (start : CloseStart) : Prop :=
  start.commandRunning = false ∧
    (start.closer = .cliCommandWrapper → start.commandDone = true)

instance (start : CloseStart) : Decidable start.Safe :=
  inferInstanceAs (Decidable (_ ∧ _))

/-- Every call of `app.close()` so far was made outside the command, and by the
wrapper only with `commandDone` resolved. -/
def Process.ClosesSafely (process : Process) : Prop :=
  ∀ start ∈ process.closeStarts, start.Safe

instance (process : Process) : Decidable process.ClosesSafely :=
  inferInstanceAs (Decidable (∀ start ∈ process.closeStarts, start.Safe))

/-- The steps after which the app is closed safely: no signal arrives between the
registrations of the two handlers, and the arguments are valid. -/
def Orderly (process : Process) : ProcessLabel → Prop
  | .signal => process.handlers ≠ [.app]
  | .validateArguments success => success = true
  | _ => True

instance (process : Process) :
    (label : ProcessLabel) → Decidable (Orderly process label)
  | .signal => inferInstanceAs (Decidable (_ ≠ _))
  | .validateArguments _ => inferInstanceAs (Decidable (_ = _))
  | .handlerReturns _ _ | .pluginClosed _ | .registerRoutes | .ready
  | .startupFails | .registerHandler | .commandSettles _ | .close
  | .closed => inferInstanceAs (Decidable True)

/-- The handlers that are registered when the wrapper is in a phase. -/
def Phase.handlers : Phase → List ShutdownHandler
  | .registeringPlugins => []
  | .awaitingReady | .gotApp => [.app]
  | _ => [.app, .cliCommandWrapper]

/-- Whether `commandDone` is resolved in a phase; while the app is closing, that
depends on the way there. -/
def Phase.commandDone : Phase → Option Bool
  | .commandSettled _ => some true
  | .closing _ => none
  | _ => some false

end Properties

namespace Process

section Fields

variable (process : Process) (closer : Closer) (pending : List ShutdownHandler)

@[simp]
theorem waitFor_phase : (process.waitFor pending).phase = process.phase := by
  unfold waitFor
  split <;> rfl

@[simp]
theorem waitFor_handlers : (process.waitFor pending).handlers = process.handlers := by
  unfold waitFor
  split <;> rfl

@[simp]
theorem waitFor_shutdowns :
    (process.waitFor pending).shutdowns = process.shutdowns := by
  unfold waitFor
  split <;> rfl

@[simp]
theorem waitFor_commandDone :
    (process.waitFor pending).commandDone = process.commandDone := by
  unfold waitFor
  split <;> rfl

theorem ClosesSafely.startClose {process : Process} {closer : Closer}
    (safely : process.ClosesSafely) (idle : process.phase ≠ .running)
    (done : closer = .cliCommandWrapper → process.commandDone = true) :
    (process.startClose closer).ClosesSafely := by
  intro start member
  simp only [Process.startClose, List.mem_append, List.mem_singleton] at member
  cases member with
  | inl earlier => exact safely start earlier
  | inr new =>
      subst new
      exact ⟨by simpa using idle, done⟩

theorem ClosesSafely.waitFor {process : Process} {pending : List ShutdownHandler}
    (safely : process.ClosesSafely)
    (idle : pending = [] → process.phase ≠ .running) :
    (process.waitFor pending).ClosesSafely := by
  unfold Process.waitFor
  split
  · next nobody => exact safely.startClose (idle nobody) (by simp)
  · exact safely

end Fields

/-- What holds in every process: the phase tells which handlers are registered
and whether the command is done. -/
structure Registered (process : Process) : Prop where
  handlers : process.handlers = process.phase.handlers
  commandDone : ∀ done, process.phase.commandDone = some done →
    process.commandDone = done

/-- What holds after orderly steps: a shutdown that still waits for something
waits for the command. -/
structure Guarded (process : Process) : Prop extends Registered process where
  awaited : ∀ pending ∈ process.shutdowns, pending ≠ [] →
    .cliCommandWrapper ∈ pending ∨ process.commandDone = true
  closesSafely : process.ClosesSafely

variable {process next : Process} {label : ProcessLabel}

theorem booting_guarded : booting.Guarded where
  handlers := rfl
  commandDone := fun done phaseDone => Option.some.inj phaseDone
  awaited := by simp [booting]
  closesSafely := by simp [ClosesSafely, booting]

theorem running_of_step (stepTo : process.step label = some next) :
    process.exitCode = none := by
  unfold step at stepTo
  split at stepTo
  · cases stepTo
  · next notExited => simpa using notExited

theorem handlerReturns_eq_some {shutdown : Nat} {handler : ShutdownHandler}
    (returned : process.handlerReturns shutdown handler = some next) :
    ∃ pending ∈ process.shutdowns, handler ∈ pending ∧
      process.MayReturn handler ∧
      next = waitFor
        { process with
          shutdowns := process.shutdowns.set shutdown (pending.erase handler) }
        (pending.erase handler) := by
  simp only [handlerReturns, Option.bind_eq_bind,
    Option.bind_eq_some_iff] at returned
  obtain ⟨pending, found, returned⟩ := returned
  split at returned
  · next waiting =>
    obtain ⟨isPending, mayReturn⟩ := waiting
    exact ⟨pending, List.mem_of_getElem? found, isPending, mayReturn,
      (Option.some.inj returned).symm⟩
  · cases returned

/-- The wrapper does not touch the shutdowns that are under way. -/
theorem wrapperStep_shutdowns
    (stepTo : process.wrapperStep process.phase label = some next) :
    next.shutdowns = process.shutdowns := by
  unfold wrapperStep at stepTo
  split at stepTo <;> cases stepTo <;> rfl

theorem registered_of_wrapperStep (registered : process.Registered)
    (stepTo : process.wrapperStep process.phase label = some next) :
    next.Registered := by
  have handlers := registered.handlers
  have commandDone := registered.commandDone
  unfold wrapperStep at stepTo
  split at stepTo
  case h_11 => cases stepTo
  all_goals
    next phase =>
      cases stepTo
      rw [phase] at handlers commandDone
      constructor
      · simp [startClose, Phase.handlers, handlers, phase]
      · simp_all [startClose, Phase.commandDone]

/-- The steps of the plugin leave alone what the wrapper decides. -/
theorem Registered.of_eq (registered : process.Registered)
    (phase : next.phase = process.phase)
    (handlers : next.handlers = process.handlers)
    (commandDone : next.commandDone = process.commandDone) : next.Registered where
  handlers := by rw [handlers, phase, registered.handlers]
  commandDone := by rw [phase, commandDone]; exact registered.commandDone

/-- The steps by party: the plugin receives a signal, goes on after a handler has
returned or exits, and everything else is done by the wrapper. -/
theorem step_cases (stepTo : process.step label = some next) :
    (label = .signal ∧ next = process.receiveSignal) ∨
      (∃ shutdown handler, label = .handlerReturns shutdown handler ∧
        process.handlerReturns shutdown handler = some next) ∨
      (∃ shutdown, label = .pluginClosed shutdown ∧
        next = { process with exitCode := some 0 }) ∨
      process.wrapperStep process.phase label = some next := by
  unfold step at stepTo
  split at stepTo
  · cases stepTo
  · cases label with
    | signal => exact .inl ⟨rfl, (Option.some.inj stepTo).symm⟩
    | handlerReturns shutdown handler =>
        exact .inr (.inl ⟨shutdown, handler, rfl, stepTo⟩)
    | pluginClosed shutdown =>
        simp only [Option.ite_none_right_eq_some, Option.some.injEq] at stepTo
        exact .inr (.inr (.inl ⟨shutdown, rfl, stepTo.2.symm⟩))
    | _ => exact .inr (.inr (.inr stepTo))

theorem registered_of_step (registered : process.Registered)
    (stepTo : process.step label = some next) : next.Registered := by
  obtain ⟨-, rfl⟩ | ⟨shutdown, handler, -, returned⟩ | ⟨shutdown, -, rfl⟩ | moves :=
    step_cases stepTo
  · apply registered.of_eq <;> simp [receiveSignal]
  · obtain ⟨pending, -, -, -, rfl⟩ := handlerReturns_eq_some returned
    apply registered.of_eq <;> simp
  · exact registered.of_eq rfl rfl rfl
  · exact registered_of_wrapperStep registered moves

theorem registered_of_run {labels : List ProcessLabel}
    (reaches : run step booting labels = some process) : process.Registered := by
  apply run_invariant_of_step _ booting_guarded.toRegistered reaches
  intro state label next registered stepTo
  exact registered_of_step registered stepTo

/-- While the command runs it is not done. -/
theorem Registered.not_running (registered : process.Registered)
    (done : process.commandDone = true) : process.phase ≠ .running := by
  intro running
  have notDone := registered.commandDone false (by rw [running]; rfl)
  rw [notDone] at done
  cases done

theorem guarded_receiveSignal (guarded : process.Guarded)
    (orderly : process.handlers ≠ [.app]) : process.receiveSignal.Guarded where
  toRegistered := by
    apply guarded.toRegistered.of_eq <;> simp [receiveSignal]
  awaited := by
    intro pending member waits
    simp only [receiveSignal, waitFor_shutdowns, waitFor_commandDone,
      List.mem_append, List.mem_singleton] at member ⊢
    cases member with
    | inl earlier => exact guarded.awaited pending earlier waits
    | inr new =>
        subst new
        -- the handler of `app.ts` is not the only one
        have handlers := guarded.handlers
        cases phase : process.phase <;> simp [phase, Phase.handlers] at handlers <;>
          simp_all
  closesSafely := by
    apply ClosesSafely.waitFor
    · exact guarded.closesSafely
    · intro nobody running
      have handlers := guarded.handlers
      simp [nobody, show process.phase = .running from running,
        Phase.handlers] at handlers

theorem guarded_of_handlerReturns {shutdown : Nat} {handler : ShutdownHandler}
    (guarded : process.Guarded)
    (returned : process.handlerReturns shutdown handler = some next) :
    next.Guarded := by
  obtain ⟨pending, member, isPending, mayReturn, rfl⟩ :=
    handlerReturns_eq_some returned
  have awaited := guarded.awaited pending member (List.ne_nil_of_mem isPending)
  -- the handler of the wrapper stays, unless the command is done
  have stays : .cliCommandWrapper ∈ pending.erase handler ∨
      process.commandDone = true := by
    cases awaited with
    | inr done => exact .inr done
    | inl wrapperWaits =>
        cases handler with
        | app => exact .inl ((List.mem_erase_of_ne (by decide)).mpr wrapperWaits)
        | cliCommandWrapper => exact .inr mayReturn
  constructor
  · apply guarded.toRegistered.of_eq <;> simp
  · intro others member waits
    simp only [waitFor_shutdowns, waitFor_commandDone] at member ⊢
    cases List.mem_or_eq_of_mem_set member with
    | inl earlier => exact guarded.awaited others earlier waits
    | inr same => exact same ▸ stays
  · apply ClosesSafely.waitFor
    · exact guarded.closesSafely
    · intro nobody
      apply guarded.toRegistered.not_running
      cases stays with
      | inl wrapperWaits => simp [nobody] at wrapperWaits
      | inr done => exact done

/-- `commandDone` stays resolved. -/
theorem commandDone_of_wrapperStep
    (stepTo : process.wrapperStep process.phase label = some next)
    (done : process.commandDone = true) : next.commandDone = true := by
  unfold wrapperStep at stepTo
  split at stepTo <;> cases stepTo <;> first | exact done | rfl

/-- The wrapper closes the app in two places only. -/
theorem closeStarts_of_wrapperStep
    (stepTo : process.wrapperStep process.phase label = some next) :
    next.closeStarts = process.closeStarts ∨
      (next.closeStarts = (process.startClose .cliCommandWrapper).closeStarts ∧
        (label = .validateArguments false ∨
          ∃ isSuccess, process.phase = .commandSettled isSuccess)) := by
  unfold wrapperStep at stepTo
  split at stepTo
  case h_7 => cases stepTo; exact .inr ⟨rfl, .inl rfl⟩
  case h_9 isSuccess phase => cases stepTo; exact .inr ⟨rfl, .inr ⟨isSuccess, phase⟩⟩
  case h_11 => cases stepTo
  all_goals cases stepTo; exact .inl rfl

theorem Guarded.closesSafely_of_wrapperStep (guarded : process.Guarded)
    (orderly : Orderly process label)
    (stepTo : process.wrapperStep process.phase label = some next) :
    next.ClosesSafely := by
  have cases := closeStarts_of_wrapperStep stepTo
  unfold ClosesSafely
  obtain unchanged | ⟨closes, rfl | ⟨isSuccess, phase⟩⟩ := cases
  · rw [unchanged]
    exact guarded.closesSafely
  · cases orderly
  · rw [closes]
    apply ClosesSafely.startClose guarded.closesSafely
    · rw [phase]
      exact Phase.noConfusion
    · intro _
      exact guarded.commandDone true (by rw [phase]; rfl)

theorem guarded_of_step (guarded : process.Guarded)
    (orderly : Orderly process label)
    (stepTo : process.step label = some next) : next.Guarded := by
  obtain ⟨rfl, rfl⟩ | ⟨shutdown, handler, -, returned⟩ |
    ⟨shutdown, -, rfl⟩ | moves := step_cases stepTo
  · exact guarded_receiveSignal guarded orderly
  · exact guarded_of_handlerReturns guarded returned
  · exact ⟨guarded.toRegistered.of_eq rfl rfl rfl, guarded.awaited,
      guarded.closesSafely⟩
  · constructor
    · exact registered_of_wrapperStep guarded.toRegistered moves
    · rw [wrapperStep_shutdowns moves]
      intro pending member waits
      cases guarded.awaited pending member waits with
      | inl wrapperWaits => exact .inl wrapperWaits
      | inr done => exact .inr (commandDone_of_wrapperStep moves done)
    · exact guarded.closesSafely_of_wrapperStep orderly moves

/-- From the place where the wrapper has got the app, it may start the command
while a shutdown waits for the handler of `app.ts` only. -/
theorem exists_close_while_running (phase : process.phase = .gotApp)
    (notExited : process.exitCode = none)
    (waits : ∃ shutdown : Nat, process.shutdowns[shutdown]? = some [.app]) :
    ∃ labels last, run step process labels = some last ∧
      ¬ last.ClosesSafely := by
  obtain ⟨shutdown, found⟩ := waits
  have bound := (List.getElem?_eq_some_iff.mp found).1
  let running : Process :=
    { process with
      phase := .running
      handlers := process.handlers ++ [.cliCommandWrapper] }
  let flushed : Process :=
    { running with shutdowns := running.shutdowns.set shutdown [] }
  have starts : run step process
      [.registerHandler, .validateArguments true] = some running := by
    simp [run, step, notExited, wrapperStep, phase, running]
  have closes : run step running [.handlerReturns shutdown .app] =
      some (flushed.startClose .plugin) := by
    simp [run, step, handlerReturns, notExited, found, running, flushed,
      MayReturn, waitFor]
  refine ⟨[.registerHandler, .validateArguments true] ++
    [.handlerReturns shutdown .app], flushed.startClose .plugin, ?_, ?_⟩
  · rw [run_append starts, closes]
  · intro safely
    have := safely ⟨.plugin, true, process.commandDone⟩
      (by simp [startClose, flushed, running])
    simp [CloseStart.Safe] at this

/-- After a signal between the registrations of the handlers the app may be
closed under the running command. -/
theorem Registered.exists_unsafe_after_signal (registered : process.Registered)
    (notExited : process.exitCode = none) (between : process.handlers = [.app]) :
    ∃ labels last, run step process (.signal :: labels) = some last ∧
      ¬ last.ClosesSafely := by
  let received := process.receiveSignal
  have stepTo : process.step .signal = some received := by
    simp [step, notExited, received]
  have receivedRuns : received.exitCode = none := by
    simp [received, receiveSignal, waitFor, between, notExited]
  have waits : received.shutdowns[process.shutdowns.length]? = some [.app] := by
    simp [received, receiveSignal, between]
  have handlers := registered.handlers
  rw [between] at handlers
  cases phase : process.phase with
  | awaitingReady =>
      let ready : Process := { received with phase := .gotApp }
      have readyStep : received.step .ready = some ready := by
        have receivedPhase : received.phase = .awaitingReady := by
          simpa [received, receiveSignal] using phase
        simp [step, receivedRuns, wrapperStep, receivedPhase, ready]
      have readyPhase : ready.phase = .gotApp := rfl
      obtain ⟨labels, last, reaches, notSafe⟩ :=
        exists_close_while_running readyPhase receivedRuns ⟨process.shutdowns.length, waits⟩
      refine ⟨.ready :: labels, last, ?_, notSafe⟩
      rw [run_cons stepTo, run_cons readyStep, reaches]
  | gotApp =>
      have receivedPhase : received.phase = .gotApp := by
        simpa [received, receiveSignal] using phase
      obtain ⟨labels, last, reaches, notSafe⟩ :=
        exists_close_while_running receivedPhase receivedRuns ⟨process.shutdowns.length, waits⟩
      refine ⟨labels, last, ?_, notSafe⟩
      rw [run_cons stepTo, reaches]
  | _ => simp [phase, Phase.handlers] at handlers

/-- When the arguments are rejected, the app is closed while `commandDone` is
pending. -/
theorem Registered.not_closesSafely_of_rejected (registered : process.Registered)
    (stepTo : process.step (.validateArguments false) = some next) :
    ¬ next.ClosesSafely := by
  obtain ⟨label, -⟩ | ⟨_, _, label, -⟩ | ⟨_, label, -⟩ | moves := step_cases stepTo
  · cases label
  · cases label
  · cases label
  · cases phase : process.phase with
    | validatingArguments =>
        rw [phase] at moves
        cases moves
        have pending := registered.commandDone false (by rw [phase]; rfl)
        intro safely
        have := safely ⟨.cliCommandWrapper, false, process.commandDone⟩
          (by simp [startClose, phase])
        simp [CloseStart.Safe, pending] at this
    | _ => rw [phase] at moves; cases moves

/-- A step that is not orderly can be followed by a close that is not safe. -/
theorem Registered.exists_unsafe_close (registered : process.Registered)
    (stepTo : process.step label = some next)
    (disorderly : ¬ Orderly process label) :
    ∃ labels last, run step process (label :: labels) = some last ∧
      ¬ last.ClosesSafely := by
  cases label with
  | signal =>
      have between : process.handlers = [.app] := by
        simpa [Orderly] using disorderly
      exact registered.exists_unsafe_after_signal (running_of_step stepTo) between
  | validateArguments success =>
      have rejected : success = false := by
        simpa [Orderly] using disorderly
      subst rejected
      refine ⟨[], next, ?_, registered.not_closesSafely_of_rejected stepTo⟩
      rw [run_cons stepTo, run]
  | _ => exact absurd trivial disorderly

/-- In every run of orderly steps the app is closed safely, and wherever a run
takes a step that is not orderly, it can go on to a close that is not safe. -/
theorem graceful_shutdown (labels : List ProcessLabel) (process : Process)
    (reaches : run step booting labels = some process) :
    (EachStep step Orderly booting labels → process.ClosesSafely) ∧
      ∀ label next, process.step label = some next → ¬ Orderly process label →
        ∃ more last, run step process (label :: more) = some last ∧
          ¬ last.ClosesSafely := by
  constructor
  · intro orderly
    have guarded : process.Guarded :=
      run_invariant (fun _ _ _ holds meets stepTo => guarded_of_step holds meets stepTo)
        booting_guarded orderly reaches
    exact guarded.closesSafely
  · intro label next stepTo disorderly
    exact (registered_of_run reaches).exists_unsafe_close stepTo disorderly

/-- A run in which a signal arrives while the command runs, and the app is closed
after the command has settled. -/
theorem graceful_shutdown_while_running :
    ∃ process, run step booting
        [.registerRoutes, .ready, .registerHandler, .validateArguments true,
          .signal, .handlerReturns 0 .app, .commandSettles .resolved,
          .handlerReturns 0 .cliCommandWrapper, .close] = some process ∧
      process.closeStarts.length = 2 ∧ process.ClosesSafely := by
  have runs : (run step booting
      [.registerRoutes, .ready, .registerHandler, .validateArguments true,
        .signal, .handlerReturns 0 .app, .commandSettles .resolved,
        .handlerReturns 0 .cliCommandWrapper, .close]).any
      (fun process => decide (process.closeStarts.length = 2)) = true := by decide
  obtain ⟨process, reaches, twice⟩ := (Option.any_eq_true _ _).mp runs
  have shutdown := graceful_shutdown _ process reaches
  exact ⟨process, reaches, of_decide_eq_true twice, shutdown.1 (by decide)⟩

/-- A signal before the wrapper has registered its handler lets the plugin close
the app under the running command, and the rejection of the arguments lets the
wrapper close it with `commandDone` pending. -/
theorem graceful_shutdown_fails :
    (∃ process, run step booting
        [.registerRoutes, .signal, .ready, .registerHandler,
          .validateArguments true, .handlerReturns 0 .app] = some process ∧
      process.closeStarts = [⟨.plugin, true, false⟩] ∧
      ¬ process.ClosesSafely) ∧
    ∃ process, run step booting
        [.registerRoutes, .ready, .registerHandler,
          .validateArguments false] = some process ∧
      process.closeStarts = [⟨.cliCommandWrapper, false, false⟩] ∧
      ¬ process.ClosesSafely := by
  constructor
  · exact ⟨_, rfl, by decide, by decide⟩
  · exact ⟨_, rfl, by decide, by decide⟩

end Process

end ServiceTemplate.Cli
