import ServiceTemplate.Cli.ParseArgsOptions

/-!
# Flags on the command line

What is given to the fields of an arguments schema is written on the command
line, in any order that keeps the order of the values of each array, between
words and options of other names.  Reading the command line gives it back.
-/

namespace ServiceTemplate.Cli

open ParseArgs

def OptionValueOf : OptionType → Type
  | .string => String
  | .boolean => Unit

def OptionValueOf.toOptionValue : {type : OptionType} → OptionValueOf type → OptionValue
  | .string, text => .string text
  | .boolean, () => .given

/-- What a field is given: a list for an array, and otherwise one value or
nothing. -/
inductive Given (type : OptionType) : Bool → Type where
  | single (value : Option (OptionValueOf type)) : Given type false
  | multiple (values : List (OptionValueOf type)) : Given type true

namespace Given

variable {type : OptionType} {multiple : Bool}

def values : Given type multiple → List OptionValue
  | .single value => (value.map OptionValueOf.toOptionValue).toList
  | .multiple values => values.map OptionValueOf.toOptionValue

/-- The entry of the field in the parsed values: none where nothing was given. -/
def entry : Given type multiple → Option StoredOption
  | .single value => value.map fun value => .single value.toOptionValue
  | .multiple [] => none
  | .multiple (first :: rest) =>
      some (.multiple ((first :: rest).map OptionValueOf.toOptionValue))

end Given

variable {args : ArgsSchema}

def Assignment (args : ArgsSchema) : Type :=
  (key : String) → Given (args.config key).type (args.config key).multiple

/-- An argument after the program words. -/
inductive Argument where
  | flag (key : String) (value : OptionValue)
  | unknown (name : String) (value : Option String)
  | word (text : String)

namespace Argument

def written (name : String) : Option String → String
  | none => "--" ++ name
  | some value => "--" ++ name ++ "=" ++ value

def text : Argument → String
  | .flag key (.string value) => written key (some value)
  | .flag key .given => written key none
  | .unknown name value => written name value
  | .word text => text

/-- The arguments that may occur: options of the schema's keys, of other names,
and words. -/
def Admissible (keys : List String) : Argument → Prop
  | .flag key _ => key ∈ keys
  | .unknown name _ => IsName name ∧ name ∉ keys
  | .word text => IsWord text

instance (keys : List String) : (argument : Argument) → Decidable (argument.Admissible keys)
  | .flag key _ => inferInstanceAs (Decidable (key ∈ keys))
  | .unknown name _ => inferInstanceAs (Decidable (IsName name ∧ name ∉ keys))
  | .word text => inferInstanceAs (Decidable (IsWord text))

def valueFor (key : String) : Argument → Option OptionValue
  | .flag other value => if other = key then some value else none
  | _ => none

end Argument

/-- A command line for an assignment. -/
structure CommandLine (assignment : Assignment args) where
  program : List String
  programIsWords : ∀ word ∈ program, IsWord word
  twoWords : program.length = 2
  arguments : List Argument
  admissible : ∀ argument ∈ arguments, argument.Admissible args.keys
  inOrder : ∀ key ∈ args.keys,
    arguments.filterMap (Argument.valueFor key) = (assignment key).values

/-- `process.argv` -/
def CommandLine.argv {assignment : Assignment args} (line : CommandLine assignment) :
    List String :=
  line.program ++ line.arguments.map Argument.text

/-! ## Reading the command line -/

namespace Given

variable {type : OptionType} {multiple : Bool}

theorem stored_values (given : Given type multiple) :
    stored multiple given.values = given.entry := by
  cases given with
  | single value => cases value <;> rfl
  | multiple values => cases values <;> rfl

/-- Only Boolean fields are given values without a text. -/
theorem type_of_given_mem {given : Given type multiple}
    (member : OptionValue.given ∈ given.values) : type = .boolean := by
  have noText (value : OptionValueOf type) (same : value.toOptionValue = .given) :
      type = .boolean := by
    cases type with
    | boolean => rfl
    | string => cases same
  cases given with
  | single value =>
      obtain ⟨chosen, -, same⟩ := Option.map_eq_some_iff.mp (Option.mem_toList.mp member)
      exact noText chosen same
  | multiple values =>
      obtain ⟨chosen, -, same⟩ := List.mem_map.mp member
      exact noText chosen same

end Given

namespace Argument

def token : Argument → Token
  | .flag key (.string value) => .option key (some value)
  | .flag key .given => .option key none
  | .unknown name value => .option name value
  | .word text => .positional text

theorem reads_written {options : JsObject OptionConfig} {name : String}
    (isName : IsName name) (lone : takesValue options name = false) (value : Option String) :
    Reads options (written name value) (.option name value) := by
  cases value with
  | none => exact reads_long isName lone
  | some value => exact reads_longWithValue isName value

/-- Arguments of other names do not get in the way of a key. -/
theorem valueFor_token {argument : Argument} {keys : List String} {key : String}
    (admissible : argument.Admissible keys) (isKey : key ∈ keys) :
    argument.token.valueFor key = argument.valueFor key := by
  cases argument with
  | flag other value => cases value <;> rfl
  | unknown name value =>
      have different : name ≠ key := fun same => admissible.2 (same ▸ isKey)
      exact if_neg different
  | word text => rfl

end Argument

namespace ArgsSchema

theorem isName_of_mem {key : String} (member : key ∈ args.keys) : IsName key := by
  obtain ⟨field, isField, rfl⟩ := List.mem_map.mp member
  exact args.isName field isField

theorem notProto_of_mem {key : String} (member : key ∈ args.keys) : key ≠ "__proto__" := by
  obtain ⟨field, isField, rfl⟩ := List.mem_map.mp member
  exact args.notProto field isField

end ArgsSchema

namespace CommandLine

variable {assignment : Assignment args} (line : CommandLine assignment)

theorem reads_text {argument : Argument} (member : argument ∈ line.arguments) :
    Reads args.options argument.text argument.token := by
  have admissible := line.admissible argument member
  cases argument with
  | flag key value =>
      have isName := ArgsSchema.isName_of_mem admissible
      cases value with
      | string value => exact reads_longWithValue isName value
      | given =>
          apply reads_long isName
          have holds : OptionValue.given ∈ (assignment key).values := by
            rw [← line.inOrder key admissible]
            exact List.mem_filterMap.mpr ⟨_, member, if_pos rfl⟩
          have isBoolean := Given.type_of_given_mem holds
          simp [takesValue, ArgsSchema.get_options_of_mem admissible, isBoolean]
  | unknown name value =>
      obtain ⟨isName, unknown⟩ := admissible
      refine Argument.reads_written isName ?_ value
      simp [takesValue, ArgsSchema.get_options_of_notMem unknown]
  | word text => exact reads_word admissible

theorem reads_argv :
    List.Forall₂ (Reads args.options) line.argv
      (line.program.map Token.positional ++ line.arguments.map Argument.token) := by
  refine List.rel_append ?_ ?_
  · refine List.forall₂_map_right_iff.mpr (List.forall₂_same.mpr fun word member => ?_)
    exact reads_word (line.programIsWords word member)
  · refine List.forall₂_map_left_iff.mpr (List.forall₂_map_right_iff.mpr ?_)
    exact List.forall₂_same.mpr fun argument member => line.reads_text member

/-- The parsed values hold, for each key of the schema, what the key is given. -/
theorem get_getArgs {key : String} (isKey : key ∈ args.keys) :
    (getArgs args.schema line.argv).get key = (assignment key).entry := by
  have config : (args.options.get key).any (·.multiple) = (args.config key).multiple := by
    rw [ArgsSchema.get_options_of_mem isKey]
    rfl
  have values : (line.program.map Token.positional ++
      line.arguments.map Argument.token).filterMap (Token.valueFor key) =
      (assignment key).values := by
    rw [List.filterMap_append, List.filterMap_map, List.filterMap_map, ← line.inOrder key isKey]
    have program : line.program.filterMap (Token.valueFor key ∘ Token.positional) = [] := by
      simp [Token.valueFor]
    rw [program, List.nil_append]
    refine List.filterMap_congr fun argument member => ?_
    exact Argument.valueFor_token (line.admissible argument member) isKey
  rw [getArgs, args.deriveParseArgsOptions_eq, Option.getD_some,
    get_parseArgs line.reads_argv (ArgsSchema.notProto_of_mem isKey) config, values,
    Given.stored_values]

/-- On the keys of the schema, the parsed values are the assignment, whatever the
order of the flags and the other arguments between them. -/
theorem getArgs_argv :
    (∀ key ∈ args.keys,
      (getArgs args.schema line.argv).get key = (assignment key).entry) ∧
    ∀ other : CommandLine assignment, ∀ key ∈ args.keys,
      (getArgs args.schema line.argv).get key = (getArgs args.schema other.argv).get key := by
  refine ⟨fun key isKey => line.get_getArgs isKey, fun other key isKey => ?_⟩
  rw [line.get_getArgs isKey, other.get_getArgs isKey]

end CommandLine

/-- A text, a Boolean with a default and an optional array. -/
def sampleShape : List (String × Schema) :=
  [("queue", .stringLike), ("dryRun", .default .boolean),
    ("id", .optional (.array (.nullable .stringLike)))]

def sampleArgs : ArgsSchema where
  schema := .pipe (.object sampleShape) .other
  shape := sampleShape
  isRoot := .pipe .object
  keysNodup := by decide
  config key := { type := if key = "dryRun" then .boolean else .string, multiple := key = "id" }
  isField := by
    intro field member
    simp only [sampleShape, List.mem_cons, List.not_mem_nil, or_false] at member
    rcases member with rfl | rfl | rfl
    · exact .stringLike
    · exact .default .boolean
    · exact .optional (.array (.nullable .stringLike))
  isName := by decide
  notProto := by decide

def sampleAssignment : Assignment sampleArgs := fun key =>
  match sampleArgs.config key with
  | ⟨.string, false⟩ => .single (some "active")
  | ⟨.boolean, false⟩ => .single (some ())
  | ⟨.string, true⟩ => .multiple ["a", "b=c"]
  | ⟨.boolean, true⟩ => .multiple []

def sampleLine : CommandLine sampleAssignment where
  program := ["node", "script.ts"]
  programIsWords := by decide
  twoWords := rfl
  arguments := [.unknown "verbose" none, .flag "id" (.string "a"), .word "now",
    .flag "dryRun" .given, .flag "queue" (.string "active"), .unknown "dry" (some "1"),
    .flag "id" (.string "b=c")]
  admissible := by decide
  inOrder := by decide

theorem getArgs_argv_sampleLine :
    (getArgs sampleArgs.schema sampleLine.argv).get "queue" =
        some (.single (.string "active")) ∧
      (getArgs sampleArgs.schema sampleLine.argv).get "dryRun" = some (.single .given) ∧
      (getArgs sampleArgs.schema sampleLine.argv).get "id" =
        some (.multiple [.string "a", .string "b=c"]) := by
  obtain ⟨assigned, -⟩ := CommandLine.getArgs_argv sampleLine
  refine ⟨?_, ?_, ?_⟩
  · exact assigned "queue" (by decide)
  · exact assigned "dryRun" (by decide)
  · exact assigned "id" (by decide)

end ServiceTemplate.Cli
