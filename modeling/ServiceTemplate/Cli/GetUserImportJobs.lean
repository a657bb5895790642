import ServiceTemplate.Cli.GracefulShutdown
import ServiceTemplate.Cli.ParseArgsOptions
import ServiceTemplate.Foundations.SpelledOptions

/-!
# The command that lists import jobs

The command takes one option, the status of the jobs to list.  Whatever else is
on the command line, the status is the last one spelled out for the option, and
without a valid one the command is not called.
-/

namespace ServiceTemplate.Cli

open ParseArgs

section Model

/-- The values of the enum of `ARGUMENTS_SCHEMA`. -/
inductive JobStatus where
  | active
  | failed
  | delayed
  | completed
  | waiting
  | prioritized
  deriving DecidableEq, Repr

def JobStatus.text : JobStatus → String
  | .active => "active"
  | .failed => "failed"
  | .delayed => "delayed"
  | .completed => "completed"
  | .waiting => "waiting"
  | .prioritized => "prioritized"

def JobStatus.all : List JobStatus :=
  [.active, .failed, .delayed, .completed, .waiting, .prioritized]

/-- `z.enum`: one of the texts, and nothing that is no text. -/
def JobStatus.parse : Option StoredOption → Option JobStatus
  | some (.single (.string text)) => JobStatus.all.find? (·.text = text)
  | _ => none

structure GetUserImportJobs.Arguments where
  queue : JobStatus
  deriving DecidableEq

/-- What the queue manager is asked for. -/
structure JobsQuery where
  queueId : String
  states : List JobStatus
  deriving DecidableEq

namespace GetUserImportJobs

def ARGUMENTS_SCHEMA : Schema :=
  .object [("queue", .stringLike)]

/-- `ARGUMENTS_SCHEMA.safeParse(values)` -/
def safeParse (values : JsObject StoredOption) : Option Arguments :=
  (JobStatus.parse (values.get "queue")).map fun queue => { queue }

/-- The arguments the wrapper calls the command with, if they are valid. -/
def arguments (argv : List String) : Option Arguments :=
  safeParse (getArgs ARGUMENTS_SCHEMA argv)

def command (args : Arguments) : JobsQuery where
  queueId := "UserImportJob"
  states := [args.queue]

/-- The wrapper goes on after the arguments by whether they are valid. -/
def Validates (argv : List String) (labels : List ProcessLabel) : Prop :=
  ∀ success, .validateArguments success ∈ labels → success = (arguments argv).isSome

end GetUserImportJobs

end Model

namespace GetUserImportJobs

/-! ## The arguments -/

def options : JsObject OptionConfig :=
  JsObject.empty.set "queue" ⟨.string, false⟩

theorem getArgs_eq (argv : List String) :
    getArgs ARGUMENTS_SCHEMA argv = (parseArgs options argv).values := rfl

theorem get_options (name : String) :
    options.get name = if name = "queue" then some ⟨.string, false⟩ else none := by
  rw [options, JsObject.get_set]
  rfl

theorem onlyValued : OnlyValued options "queue" where
  isName := by decide
  long := by decide
  takesValue := by simp [ParseArgs.takesValue, get_options]
  others := by
    intro name takes
    by_contra different
    simp [ParseArgs.takesValue, get_options, different] at takes

theorem parse_single {text : String} {status : JobStatus} :
    JobStatus.parse (some (.single (.string text))) = some status ↔ text = status.text := by
  constructor
  · intro found
    have listed : JobStatus.all.find? (·.text = text) = some status := found
    have same := List.find?_some listed
    exact (of_decide_eq_true same).symm
  · rintro rfl
    cases status <;> decide

/-- The status is the last one spelled out for the option. -/
theorem arguments_eq_some_iff {argv : List String} {args : Arguments} :
    arguments argv = some args ↔
      (spelled "queue" argv).getLast? = some (some args.queue.text) := by
  have values : (getArgs ARGUMENTS_SCHEMA argv).get "queue" =
      stored false ((spelled "queue" argv).map OptionValue.ofToken) := by
    rw [getArgs_eq]
    apply onlyValued.get_parseArgs (by decide)
    simp [get_options]
  rw [arguments, safeParse, values, stored, List.getLast?_map]
  cases (spelled "queue" argv).getLast? with
  | none => simp [JobStatus.parse]
  | some last =>
      cases last with
      | none => simp [JobStatus.parse, OptionValue.ofToken]
      | some text =>
          simp only [Option.map_some, OptionValue.ofToken, Option.map_eq_some_iff, parse_single,
            Option.some.injEq]
          constructor
          · rintro ⟨status, rfl, rfl⟩
            rfl
          · rintro rfl
            exact ⟨args.queue, rfl, rfl⟩

/-! ## The calls of the command -/

section Runs

open Process

/-- The command is called only after the arguments have been found valid. -/
structure CalledAfter (labels : List ProcessLabel) (process : Process) : Prop where
  running : process.phase = .running → .validateArguments true ∈ labels
  settled : ∀ outcome, .commandSettles outcome ∈ labels → .validateArguments true ∈ labels

variable {process next : Process} {label : ProcessLabel} {labels : List ProcessLabel}

theorem CalledAfter.append (calledAfter : CalledAfter labels process)
    (running : next.phase = .running → process.phase = .running ∨ label = .validateArguments true)
    (settles : ∀ outcome, label = .commandSettles outcome → process.phase = .running) :
    CalledAfter (labels ++ [label]) next where
  running now := by
    cases running now with
    | inl before => exact List.mem_append_left _ (calledAfter.running before)
    | inr validated => simp [validated]
  settled outcome member := by
    apply List.mem_append_left
    cases List.mem_append.mp member with
    | inl before => exact calledAfter.settled outcome before
    | inr now => exact calledAfter.running (settles outcome (List.mem_singleton.mp now).symm)

theorem validated_of_running (moves : process.wrapperStep process.phase label = some next)
    (now : next.phase = .running) : label = .validateArguments true := by
  unfold wrapperStep at moves
  split at moves <;> cases moves <;> simp_all

theorem running_of_settles {outcome : CommandOutcome}
    (moves : process.wrapperStep process.phase (.commandSettles outcome) = some next) :
    process.phase = .running := by
  unfold wrapperStep at moves
  split at moves <;> simp_all

theorem CalledAfter.step (calledAfter : CalledAfter labels process)
    (stepTo : process.step label = some next) : CalledAfter (labels ++ [label]) next := by
  obtain ⟨rfl, rfl⟩ | ⟨shutdown, handler, rfl, returned⟩ | ⟨shutdown, rfl, rfl⟩ | moves :=
    step_cases stepTo
  · apply calledAfter.append <;> simp [receiveSignal]
  · obtain ⟨pending, -, -, -, rfl⟩ := handlerReturns_eq_some returned
    apply calledAfter.append <;> simp
  · exact calledAfter.append (fun now => .inl now) (by simp)
  · apply calledAfter.append
    · exact fun now => .inr (validated_of_running moves now)
    · rintro outcome rfl
      exact running_of_settles moves

theorem calledAfter_of_run (reaches : run Process.step booting labels = some process) :
    CalledAfter labels process := by
  apply run_history _ ⟨nofun, nofun⟩ reaches
  intro earlier state label next calledAfter stepTo
  exact calledAfter.step stepTo

end Runs

/-- For every command line, in every run of the process: the queue manager is asked
for the status that is the last one spelled out for the option, and the command is
called only if that is one of the six. -/
theorem lists_last_spelled (argv : List String) :
    (∀ query, (arguments argv).map command = some query ↔
      ∃ status : JobStatus, (spelled "queue" argv).getLast? = some (some status.text) ∧
        query = ⟨"UserImportJob", [status]⟩) ∧
    ∀ labels process, run Process.step .booting labels = some process →
      Validates argv labels → ∀ outcome, .commandSettles outcome ∈ labels →
        ∃ query, (arguments argv).map command = some query := by
  constructor
  · intro query
    rw [Option.map_eq_some_iff]
    constructor
    · rintro ⟨args, valid, rfl⟩
      exact ⟨args.queue, arguments_eq_some_iff.mp valid, rfl⟩
    · rintro ⟨status, last, rfl⟩
      exact ⟨⟨status⟩, arguments_eq_some_iff.mpr last, rfl⟩
  · intro labels process reaches validates outcome called
    have valid := validates true ((calledAfter_of_run reaches).settled outcome called)
    obtain ⟨args, valid⟩ := Option.isSome_iff_exists.mp valid.symm
    exact ⟨command args, by rw [valid]; rfl⟩

/-- The first status is overridden, and the last one is behind the end of the
options. -/
def overriding : List String :=
  ["node", "getUserImportJobs.ts", "--queue=failed", "-v", "--queue", "active", "--dry",
    "-x-y", "--queue=waiting"]

theorem lists_last_spelled_overriding :
    (arguments overriding).map command = some ⟨"UserImportJob", [.active]⟩ ∧
      ∃ process, run Process.step .booting
          [.registerRoutes, .ready, .registerHandler, .validateArguments true,
            .commandSettles .resolved] = some process ∧
        ∃ query, (arguments overriding).map command = some query := by
  obtain ⟨lists, called⟩ := lists_last_spelled overriding
  have asked : (arguments overriding).map command = some ⟨"UserImportJob", [.active]⟩ :=
    (lists _).mpr ⟨.active, by decide, rfl⟩
  have valid : (arguments overriding).isSome = true := by
    have parsed := congrArg Option.isSome asked
    rwa [Option.isSome_map] at parsed
  have validates : Validates overriding [.registerRoutes, .ready, .registerHandler,
      .validateArguments true, .commandSettles .resolved] := by
    intro success member
    rw [valid]
    simpa using member
  exact ⟨asked, _, rfl, called _ _ rfl validates .resolved (by simp)⟩

end GetUserImportJobs

end ServiceTemplate.Cli
