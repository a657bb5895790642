import Mathlib.Logic.Basic

/-!
# Programs that issue commands

A program is a value, an exception, or a command together with what to do with
its answer.  An answer may itself be an exception, as a rejected promise is.
Sequencing, `try`/`catch` and `finally` are the usual ones.

A contract says in which mode each command may be issued and how its answer
changes the mode.  `Program.Follows` is the resulting logic of pre- and
postconditions: one rule for each way of composing programs.
-/

namespace ServiceTemplate

/-- A program over a signature of commands with typed answers. -/
inductive Program {Command : Type} (Answer : Command → Type)
    (Error Value : Type) : Type where
  | done (value : Value)
  | fail (error : Error)
  | call (command : Command)
      (next : Except Error (Answer command) → Program Answer Error Value)

namespace Program

variable {Command : Type} {Answer : Command → Type} {Error Value Result : Type}

def bind : Program Answer Error Value →
    (Value → Program Answer Error Result) → Program Answer Error Result
  | .done value, next => next value
  | .fail error, _ => .fail error
  | .call command rest, next =>
      .call command fun answer => (rest answer).bind next

instance : Monad (Program Answer Error) where
  pure := .done
  bind := bind

theorem bind_assoc {Final : Type} (program : Program Answer Error Value)
    (next : Value → Program Answer Error Result)
    (last : Result → Program Answer Error Final) :
    (program.bind next).bind last = program.bind fun value => (next value).bind last := by
  induction program with
  | done value => rfl
  | fail error => rfl
  | call command rest ih => exact congrArg (call command) (funext ih)

def perform (command : Command) : Program Answer Error (Answer command) :=
  .call command fun
    | .ok value => .done value
    | .error error => .fail error

/-- Two programs that issue the same command go on in the same way. -/
theorem call_congr {command : Command}
    {next other : Except Error (Answer command) → Program Answer Error Value}
    (errors : ∀ error, next (.error error) = other (.error error))
    (values : ∀ value, next (.ok value) = other (.ok value)) :
    call command next = call command other := by
  refine congrArg (call command) (funext fun answer => ?_)
  cases answer with
  | error error => exact errors error
  | ok value => exact values value

/-- `try { program } catch (error) { handler error }` -/
def tryCatch : Program Answer Error Value →
    (Error → Program Answer Error Value) → Program Answer Error Value
  | .done value, _ => .done value
  | .fail error, handler => handler error
  | .call command rest, handler =>
      .call command fun answer => (rest answer).tryCatch handler

/-- `try { program } finally { cleanup }`.  An exception of the cleanup
replaces the outcome of the program. -/
def tryFinally : Program Answer Error Value →
    Program Answer Error Unit → Program Answer Error Value
  | .done value, cleanup => cleanup.bind fun _ => .done value
  | .fail error, cleanup => cleanup.bind fun _ => .fail error
  | .call command rest, cleanup =>
      .call command fun answer => (rest answer).tryFinally cleanup

/-! ## Execution up to the next awaited command -/

/-- Execute the commands that the interpreter answers at once, up to the first
one it does not: that one the program waits for. -/
def settle {State : Type}
    (interpret : State → (command : Command) →
      Option (State × Except Error (Answer command))) :
    State → Program Answer Error Value → State × Program Answer Error Value
  | state, .done value => (state, .done value)
  | state, .fail error => (state, .fail error)
  | state, .call command next =>
      match interpret state command with
      | none => (state, .call command next)
      | some (changed, answer) => settle interpret changed (next answer)

/-- What each immediate command preserves, `settle` preserves. -/
theorem settle_invariant {State : Type}
    {interpret : State → (command : Command) →
      Option (State × Except Error (Answer command))}
    {property : State → Program Answer Error Value → Prop}
    (preserves : ∀ state command next changed answer,
      property state (.call command next) →
      interpret state command = some (changed, answer) →
      property changed (next answer))
    (state : State) (program : Program Answer Error Value)
    (initially : property state program) :
    property (settle interpret state program).1
      (settle interpret state program).2 := by
  induction program generalizing state with
  | done value => exact initially
  | fail error => exact initially
  | call command next ih =>
      rw [settle]
      cases interpreted : interpret state command with
      | none => exact initially
      | some outcome =>
          obtain ⟨changed, answer⟩ := outcome
          exact ih answer changed
            (preserves state command next changed answer initially interpreted)

theorem settle_waits {State : Type}
    {interpret : State → (command : Command) →
      Option (State × Except Error (Answer command))}
    {state : State} {program : Program Answer Error Value} {command : Command}
    {next : Except Error (Answer command) → Program Answer Error Value}
    (waits : (settle interpret state program).2 = .call command next) :
    ∃ reached, interpret reached command = none := by
  induction program generalizing state with
  | done value => cases waits
  | fail error => cases waits
  | call first rest ih =>
      rw [settle] at waits
      cases interpreted : interpret state first with
      | none =>
          simp only [interpreted] at waits
          cases waits
          exact ⟨state, interpreted⟩
      | some outcome =>
          simp only [interpreted] at waits
          exact ih outcome.2 waits

end Program

/-- A contract between a program and its environment: the mode in which a
command may be issued, and the modes its possible answers lead to. -/
structure Contract {Command : Type} (Answer : Command → Type)
    (Error Mode : Type) where
  allows : Mode → Command → Prop
  moves : Mode → (command : Command) → Except Error (Answer command) →
    Mode → Prop

namespace Contract

variable {Command : Type} {Answer : Command → Type} {Error Mode OtherMode : Type}

/-- Every answer leads to some mode. -/
def Total (contract : Contract Answer Error Mode) : Prop :=
  ∀ mode command answer, ∃ later, contract.moves mode command answer later

/-- Two contracts at once. -/
def prod (first : Contract Answer Error Mode) (second : Contract Answer Error OtherMode) :
    Contract Answer Error (Mode × OtherMode) where
  allows mode command := first.allows mode.1 command ∧ second.allows mode.2 command
  moves mode command answer later :=
    first.moves mode.1 command answer later.1 ∧ second.moves mode.2 command answer later.2

end Contract

namespace Program

variable {Command : Type} {Answer : Command → Type}
variable {Error Mode Value Result : Type}

/-- Started in a mode, the program issues allowed commands only, whatever the
environment answers within the contract, and settles in a mode and with an
outcome that satisfy the postcondition. -/
def Follows (contract : Contract Answer Error Mode) :
    Program Answer Error Value → Mode →
      (Mode → Except Error Value → Prop) → Prop
  | .done value, mode, post => post mode (.ok value)
  | .fail error, mode, post => post mode (.error error)
  | .call command next, mode, post =>
      contract.allows mode command ∧
        ∀ answer later, contract.moves mode command answer later →
          (next answer).Follows contract later post

variable {contract : Contract Answer Error Mode}

theorem Follows.mono {program : Program Answer Error Value} {mode : Mode}
    {post weaker : Mode → Except Error Value → Prop}
    (follows : program.Follows contract mode post)
    (implies : ∀ last outcome, post last outcome → weaker last outcome) :
    program.Follows contract mode weaker := by
  induction program generalizing mode with
  | done value => exact implies _ _ follows
  | fail error => exact implies _ _ follows
  | call command next ih =>
      exact ⟨follows.1, fun answer later moved =>
        ih answer (follows.2 answer later moved)⟩

/-- The rule of sequencing. -/
theorem Follows.bind {program : Program Answer Error Value} {mode : Mode}
    {next : Value → Program Answer Error Result}
    {post : Mode → Except Error Result → Prop}
    (follows : program.Follows contract mode fun last outcome =>
      match outcome with
      | .ok value => (next value).Follows contract last post
      | .error error => post last (.error error)) :
    (program.bind next).Follows contract mode post := by
  induction program generalizing mode with
  | done value => exact follows
  | fail error => exact follows
  | call command rest ih =>
      exact ⟨follows.1, fun answer later moved =>
        ih answer (follows.2 answer later moved)⟩

/-- The rule of a single command. -/
theorem Follows.perform {command : Command} {mode : Mode}
    {post : Mode → Except Error (Answer command) → Prop}
    (allowed : contract.allows mode command)
    (answered : ∀ answer later, contract.moves mode command answer later →
      post later answer) :
    (Program.perform command : Program Answer Error _).Follows
      contract mode post := by
  refine ⟨allowed, fun answer later moved => ?_⟩
  cases answer with
  | ok value => exact answered _ _ moved
  | error error => exact answered _ _ moved

/-- The rule of `try`/`catch`. -/
theorem Follows.tryCatch {program : Program Answer Error Value} {mode : Mode}
    {handler : Error → Program Answer Error Value}
    {post : Mode → Except Error Value → Prop}
    (follows : program.Follows contract mode fun last outcome =>
      match outcome with
      | .ok value => post last (.ok value)
      | .error error => (handler error).Follows contract last post) :
    (program.tryCatch handler).Follows contract mode post := by
  induction program generalizing mode with
  | done value => exact follows
  | fail error => exact follows
  | call command rest ih =>
      exact ⟨follows.1, fun answer later moved =>
        ih answer (follows.2 answer later moved)⟩

/-- The rule of `finally`: the cleanup runs after either outcome. -/
theorem Follows.tryFinally {program : Program Answer Error Value}
    {mode : Mode} {cleanup : Program Answer Error Unit}
    {post : Mode → Except Error Value → Prop}
    (follows : program.Follows contract mode fun last outcome =>
      cleanup.Follows contract last fun final cleaned =>
        match cleaned with
        | .ok _ => post final outcome
        | .error error => post final (.error error)) :
    (program.tryFinally cleanup).Follows contract mode post := by
  induction program generalizing mode with
  | done value =>
      have cleans : cleanup.Follows contract mode _ := follows
      refine Follows.bind (cleans.mono fun final cleaned holds => ?_)
      cases cleaned <;> exact holds
  | fail error =>
      have cleans : cleanup.Follows contract mode _ := follows
      refine Follows.bind (cleans.mono fun final cleaned holds => ?_)
      cases cleaned <;> exact holds
  | call command rest ih =>
      exact ⟨follows.1, fun answer later moved =>
        ih answer (follows.2 answer later moved)⟩

/-- A program that keeps to one contract keeps to every contract that allows what
the first one does, and whose answers it accounts for. -/
theorem Follows.of_contract {OtherMode : Type} {other : Contract Answer Error OtherMode}
    (relates : OtherMode → Mode → Prop)
    (allowed : ∀ {later mode command}, relates later mode → contract.allows mode command →
      other.allows later command)
    (answered : ∀ {later mode command answer last}, relates later mode →
      contract.allows mode command → other.moves later command answer last →
      ∃ next, contract.moves mode command answer next ∧ relates last next)
    {program : Program Answer Error Value} {mode : Mode} {later : OtherMode}
    (related : relates later mode)
    (follows : program.Follows contract mode fun _ _ => True) :
    program.Follows other later fun _ _ => True := by
  induction program generalizing mode later with
  | done value => trivial
  | fail error => trivial
  | call command next ih =>
      refine ⟨allowed related follows.1, fun answer last moved => ?_⟩
      obtain ⟨reached, accounted, stillRelated⟩ := answered related follows.1 moved
      exact ih answer stillRelated (follows.2 answer reached accounted)

section Prod

variable {OtherMode : Type} {other : Contract Answer Error OtherMode}
variable {program : Program Answer Error Value} {mode : Mode × OtherMode}

/-- A program that keeps to two contracts at once keeps to each of them. -/
theorem Follows.fst (total : other.Total)
    (follows : program.Follows (contract.prod other) mode fun _ _ => True) :
    program.Follows contract mode.1 fun _ _ => True := by
  refine Follows.of_contract (fun later mode => mode.1 = later) ?_ ?_ rfl follows
  · rintro _ both command rfl allowed
    exact allowed.1
  · rintro _ both command answer last rfl - moved
    obtain ⟨next, others⟩ := total both.2 command answer
    exact ⟨(last, next), ⟨moved, others⟩, rfl⟩

theorem Follows.snd (total : contract.Total)
    (follows : program.Follows (contract.prod other) mode fun _ _ => True) :
    program.Follows other mode.2 fun _ _ => True := by
  refine Follows.of_contract (fun later mode => mode.2 = later) ?_ ?_ rfl follows
  · rintro _ both command rfl allowed
    exact allowed.2
  · rintro _ both command answer last rfl - moved
    obtain ⟨next, others⟩ := total both.1 command answer
    exact ⟨(next, last), ⟨others, moved⟩, rfl⟩

end Prod

end Program

end ServiceTemplate
