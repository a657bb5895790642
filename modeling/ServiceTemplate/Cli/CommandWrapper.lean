import ServiceTemplate.Foundations.Run

/-!
# The process of a CLI command and its shutdown

The process runs outside development, so that the shutdown plugin is
registered.  `getApp` registers the handler of `app.ts` on the way,
`cliCommandWrapper` registers its own handler afterwards, and on every signal
the plugin runs the handlers registered so far, waits for them and closes the
app.
-/

namespace ServiceTemplate.Cli

section Model

/-- The shutdown handlers: the one of `app.ts` aborts the signal of the app and
flushes the telemetry, the one of the wrapper awaits `commandDone`. -/
inductive ShutdownHandler where
  | app
  | cliCommandWrapper
  deriving DecidableEq, Repr

/-- Where `cliCommandWrapper` is, `getApp` included. -/
inductive Phase where
  | registeringPlugins
  | awaitingReady
  | gotApp
  | validatingArguments
  | running
  | commandSettled (isSuccess : Bool)
  | closing (exitCode : Nat)
  deriving DecidableEq, Repr

inductive Closer where
  | cliCommandWrapper
  | plugin
  deriving DecidableEq, Repr

/-- A call of `app.close()`, with the state in which it was made. -/
structure CloseStart where
  closer : Closer
  commandRunning : Bool
  commandDone : Bool
  deriving DecidableEq, Repr

structure Process where
  phase : Phase
  /-- What is registered with the plugin. -/
  handlers : List ShutdownHandler
  /-- For each signal received, the handlers that have not returned yet. -/
  shutdowns : List (List ShutdownHandler)
  /-- `appAbortController` is aborted. -/
  aborted : Bool
  /-- The promise `commandDone` is resolved. -/
  commandDone : Bool
  closeStarts : List CloseStart
  exitCode : Option Nat
  deriving DecidableEq, Repr

/-- How the call of the command ends. -/
inductive CommandOutcome where
  | resolved
  | thrown
  | rejected
  deriving DecidableEq, Repr

inductive ProcessLabel where
  | signal
  | handlerReturns (shutdown : Nat) (handler : ShutdownHandler)
  | pluginClosed (shutdown : Nat)
  | registerRoutes
  | ready
  | startupFails
  | registerHandler
  | validateArguments (success : Bool)
  | commandSettles (outcome : CommandOutcome)
  | close
  | closed
  deriving DecidableEq, Repr

namespace Process

/-- The plugin has just been registered. -/
def booting : Process where
  phase := .registeringPlugins
  handlers := []
  shutdowns := []
  aborted := false
  commandDone := false
  closeStarts := []
  exitCode := none

/-- `app.close()` is called. -/
def startClose (process : Process) (closer : Closer) : Process :=
  { process with
    closeStarts := process.closeStarts ++
      [{ closer
         commandRunning := process.phase = .running
         commandDone := process.commandDone }] }

/-- The plugin calls `app.close()` once no handler is left to wait for. -/
def waitFor (process : Process) (pending : List ShutdownHandler) : Process :=
  if pending = [] then process.startClose .plugin else process

/-- The plugin runs the handlers registered so far. -/
def receiveSignal (process : Process) : Process :=
  waitFor
    { process with
      shutdowns := process.shutdowns ++ [process.handlers]
      aborted := process.aborted || process.handlers.contains .app }
    process.handlers

/-- The handler of the wrapper returns after `commandDone` is resolved, the one of
`app.ts` when the telemetry is flushed. -/
def MayReturn (process : Process) : ShutdownHandler → Prop
  | .app => True
  | .cliCommandWrapper => process.commandDone = true

instance (process : Process) :
    (handler : ShutdownHandler) → Decidable (process.MayReturn handler)
  | .app => inferInstanceAs (Decidable True)
  | .cliCommandWrapper => inferInstanceAs (Decidable (_ = _))

def handlerReturns (process : Process) (shutdown : Nat)
    (handler : ShutdownHandler) : Option Process := do
  let pending ← process.shutdowns[shutdown]?
  if handler ∈ pending ∧ process.MayReturn handler then
    let pending := pending.erase handler
    return waitFor
      { process with shutdowns := process.shutdowns.set shutdown pending }
      pending
  else none

/-- What the wrapper does next, by its phase. -/
def wrapperStep (process : Process) : Phase → ProcessLabel → Option Process
  | .registeringPlugins, .registerRoutes =>
      some { process with
        phase := .awaitingReady
        handlers := process.handlers ++ [.app] }
  | .registeringPlugins, .startupFails => some { process with exitCode := some 1 }
  | .awaitingReady, .ready => some { process with phase := .gotApp }
  | .awaitingReady, .startupFails => some { process with exitCode := some 1 }
  | .gotApp, .registerHandler =>
      some { process with
        phase := .validatingArguments
        handlers := process.handlers ++ [.cliCommandWrapper] }
  | .validatingArguments, .validateArguments true =>
      some { process with phase := .running }
  | .validatingArguments, .validateArguments false =>
      -- the branch of invalid arguments does not resolve `commandDone`
      some { process.startClose .cliCommandWrapper with phase := .closing 1 }
  | .running, .commandSettles outcome =>
      some { process with
        phase := .commandSettled (outcome = .resolved)
        commandDone := true }
  | .commandSettled isSuccess, .close =>
      some { process.startClose .cliCommandWrapper with
        phase := .closing (if isSuccess then 0 else 1) }
  | .closing exitCode, .closed => some { process with exitCode := some exitCode }
  | _, _ => none

def step (process : Process) (label : ProcessLabel) : Option Process :=
  if process.exitCode.isSome then none
  else
    match label with
    | .signal => some process.receiveSignal
    | .handlerReturns shutdown handler => process.handlerReturns shutdown handler
    | .pluginClosed shutdown =>
        if process.shutdowns[shutdown]? = some [] then
          some { process with exitCode := some 0 }
        else none
    | label => process.wrapperStep process.phase label

end Process

end Model

end ServiceTemplate.Cli
