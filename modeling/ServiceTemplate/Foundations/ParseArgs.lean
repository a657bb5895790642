import Mathlib.Data.List.Induction
import ServiceTemplate.Foundations.JsObject

/-!
# Reading command line arguments

The function `parseArgs` of `node:util` with `strict: false`, for options without
short names and without defaults.  The arguments are first read into tokens, and
then the options among the tokens are stored.
-/

namespace ServiceTemplate

inductive OptionType where
  | boolean
  | string
  deriving DecidableEq

structure OptionConfig where
  type : OptionType
  multiple : Bool
  deriving DecidableEq

/-- The values of options: a text, or `true` for an option without a text. -/
inductive OptionValue where
  | string (text : String)
  | given
  deriving DecidableEq

/-- What the result holds under the name of an option. -/
inductive StoredOption where
  | single (value : OptionValue)
  | multiple (values : List OptionValue)
  deriving DecidableEq

namespace ParseArgs

inductive Token where
  | option (name : String) (value : Option String)
  | positional (value : String)
  | optionTerminator
  deriving DecidableEq

/-- How far the arguments have been read. -/
structure Reader where
  tokens : List Token := []
  /-- a lone option of type `string`, which takes the next argument whatever it is -/
  awaiting : Option String := none
  /-- everything after a bare `--` is positional -/
  terminated : Bool := false

namespace Reader

def push (reader : Reader) (token : Token) : Reader :=
  { reader with tokens := reader.tokens ++ [token] }

def finish (reader : Reader) : List Token :=
  match reader.awaiting with
  | none => reader.tokens
  | some name => reader.tokens ++ [.option name none]

end Reader

section Tokens

variable (options : JsObject OptionConfig)

def takesValue (name : String) : Bool :=
  (options.get name).any (·.type = .string)

/-- Several short options without values written as one argument. -/
def isShortOptionGroup (arg : String) : Bool :=
  match arg.toList with
  | '-' :: first :: _ :: _ => first ≠ '-' && !takesValue options (String.singleton first)
  | _ => false

/-- The arguments that a group stands for.  The first option in it that takes a
value takes the rest of the group. -/
def expandGroup : List Char → List String
  | [] => []
  | [short] => [String.ofList ['-', short]]
  | short :: rest =>
      if takesValue options (String.singleton short) then
        [String.ofList ('-' :: short :: rest)]
      else String.ofList ['-', short] :: expandGroup rest

def Reader.readLone (reader : Reader) (name : String) : Reader :=
  if takesValue options name then { reader with awaiting := some name }
  else reader.push (.option name none)

/-- Read an argument that is no group. -/
def Reader.readSingle (reader : Reader) (arg : String) : Reader :=
  match reader.terminated, reader.awaiting with
  | true, _ => reader.push (.positional arg)
  | false, some name =>
      { reader with
        tokens := reader.tokens ++ [.option name (some arg)]
        awaiting := none }
  | false, none =>
      match arg.toList with
      | ['-', '-'] => { reader.push .optionTerminator with terminated := true }
      | '-' :: '-' :: long =>
          -- an equals sign right after the dashes belongs to the name
          if '=' ∈ long.tail then
            reader.push (.option (String.ofList (long.takeWhile (· ≠ '=')))
              (some (String.ofList (long.dropWhile (· ≠ '=')).tail)))
          else reader.readLone options (String.ofList long)
      | ['-', short] => reader.readLone options (String.singleton short)
      | '-' :: short :: value =>
          reader.push (.option (String.singleton short) (some (String.ofList value)))
      | _ => reader.push (.positional arg)

def Reader.read (reader : Reader) (arg : String) : Reader :=
  if !reader.terminated && reader.awaiting.isNone && isShortOptionGroup options arg then
    (expandGroup options arg.toList.tail).foldl (Reader.readSingle options) reader
  else reader.readSingle options arg

def argsToTokens (args : List String) : List Token :=
  (args.foldl (Reader.read options) {}).finish

end Tokens

section Values

variable (options : JsObject OptionConfig)

def OptionValue.ofToken : Option String → OptionValue
  | some text => .string text
  | none => .given

def storeOption (values : JsObject StoredOption) (name : String) (value : Option String) :
    JsObject StoredOption :=
  if name = "__proto__" then values
  else if (options.get name).any (·.multiple) then
    match values.get name with
    | some (.multiple earlier) =>
        values.set name (.multiple (earlier ++ [OptionValue.ofToken value]))
    | _ => values.set name (.multiple [OptionValue.ofToken value])
  else values.set name (.single (OptionValue.ofToken value))

def storeToken (values : JsObject StoredOption) : Token → JsObject StoredOption
  | .option name value => storeOption options values name value
  | _ => values

end Values

structure Results where
  values : JsObject StoredOption
  positionals : List String

def Token.positional? : Token → Option String
  | .positional value => some value
  | _ => none

end ParseArgs

open ParseArgs in
def parseArgs (options : JsObject OptionConfig) (args : List String) : Results :=
  let tokens := argsToTokens options args
  { values := tokens.foldl (storeToken options) .empty
    positionals := tokens.filterMap Token.positional? }

namespace ParseArgs

/-! ## Arguments that are read by themselves -/

section Reads

variable {options : JsObject OptionConfig}

/-- An argument is read as one token, and takes nothing from the next one. -/
def Reads (options : JsObject OptionConfig) (arg : String) (token : Token) : Prop :=
  ∀ tokens : List Token,
    Reader.read options { tokens := tokens } arg = { tokens := tokens ++ [token] }

/-- A word is an argument that does not start with a dash. -/
def IsWord (arg : String) : Prop :=
  arg.toList.head? ≠ some '-'

instance (arg : String) : Decidable (IsWord arg) :=
  inferInstanceAs (Decidable (_ ≠ _))

/-- The names that an argument can hold in front of an equals sign. -/
structure IsName (name : String) : Prop where
  nonempty : name ≠ ""
  noEquals : '=' ∉ name.toList

instance (name : String) : Decidable (IsName name) :=
  decidable_of_iff (name ≠ "" ∧ '=' ∉ name.toList)
    ⟨fun ⟨nonempty, noEquals⟩ => ⟨nonempty, noEquals⟩,
      fun isName => ⟨isName.nonempty, isName.noEquals⟩⟩

theorem reads_word {arg : String} (word : IsWord arg) :
    Reads options arg (.positional arg) := by
  intro tokens
  have noGroup : isShortOptionGroup options arg = false := by
    unfold isShortOptionGroup
    split
    · next isDash => simp [IsWord, isDash] at word
    · rfl
  simp only [Reader.read, noGroup, Bool.and_false, Bool.false_eq_true, if_false,
    Reader.readSingle]
  split
  · next isDash => simp [IsWord, isDash] at word
  · next isDash => simp [IsWord, isDash] at word
  · next isDash => simp [IsWord, isDash] at word
  · next isDash => simp [IsWord, isDash] at word
  · rfl

theorem isShortOptionGroup_long {arg : String} {long : List Char}
    (dashes : arg.toList = '-' :: '-' :: long) : isShortOptionGroup options arg = false := by
  unfold isShortOptionGroup
  rw [dashes]
  cases long <;> rfl

theorem reads_long {name : String} (isName : IsName name)
    (lone : takesValue options name = false) :
    Reads options ("--" ++ name) (.option name none) := by
  intro tokens
  have dashes : ("--" ++ name).toList = '-' :: '-' :: name.toList := String.toList_append
  obtain ⟨first, rest, long⟩ := List.exists_cons_of_ne_nil
    (mt String.toList_eq_nil_iff.mp isName.nonempty)
  have noEquals : '=' ∉ rest := fun member => isName.noEquals (by simp [long, member])
  have named : String.ofList (first :: rest) = name := by rw [← long, String.ofList_toList]
  simp only [Reader.read, isShortOptionGroup_long dashes, Bool.and_false, Bool.false_eq_true,
    if_false, Reader.readSingle, dashes, long, List.tail_cons, noEquals, Reader.readLone, named,
    lone, Reader.push]

theorem reads_longWithValue {name : String} (isName : IsName name) (value : String) :
    Reads options ("--" ++ name ++ "=" ++ value) (.option name (some value)) := by
  intro tokens
  obtain ⟨first, rest, long⟩ := List.exists_cons_of_ne_nil
    (mt String.toList_eq_nil_iff.mp isName.nonempty)
  have dashes : ("--" ++ name ++ "=" ++ value).toList =
      '-' :: '-' :: first :: (rest ++ '=' :: value.toList) := by
    simp [String.toList_append, long]
  have before : ∀ char ∈ first :: rest, decide (char ≠ '=') = true := by
    intro char member
    rw [← long] at member
    exact decide_eq_true fun same => isName.noEquals (same ▸ member)
  have takes : (first :: (rest ++ '=' :: value.toList)).takeWhile (· ≠ '=') =
      name.toList := by
    rw [long, ← List.cons_append, List.takeWhile_append_of_pos before]
    simp
  have drops : (first :: (rest ++ '=' :: value.toList)).dropWhile (· ≠ '=') =
      '=' :: value.toList := by
    rw [← List.cons_append, List.dropWhile_append_of_pos before]
    simp
  have hasEquals : '=' ∈ rest ++ '=' :: value.toList := by simp
  simp only [Reader.read, isShortOptionGroup_long dashes, Bool.and_false, Bool.false_eq_true,
    if_false, Reader.readSingle, dashes, List.tail_cons, hasEquals, if_true, takes, drops,
    String.ofList_toList, Reader.push]

theorem argsToTokens_of_reads {args : List String} {tokens : List Token}
    (reads : List.Forall₂ (Reads options) args tokens) :
    argsToTokens options args = tokens := by
  have reader : ∀ earlier : List Token,
      args.foldl (Reader.read options) { tokens := earlier } =
        { tokens := earlier ++ tokens } := by
    induction reads with
    | nil => simp
    | cons read _ ih =>
        intro earlier
        rw [List.foldl_cons, read, ih, List.append_assoc, List.singleton_append]
  rw [argsToTokens, reader]
  rfl

end Reads

/-! ## What is stored -/

section Stored

variable {options : JsObject OptionConfig}

def Token.valueFor (name : String) : Token → Option OptionValue
  | .option other value => if other = name then some (OptionValue.ofToken value) else none
  | _ => none

/-- What the result holds for an option that was given values: all of them when
the option may be repeated, and otherwise the last one. -/
def stored (multiple : Bool) (values : List OptionValue) : Option StoredOption :=
  match multiple, values with
  | true, [] => none
  | true, values => some (.multiple values)
  | false, values => values.getLast?.map .single

/-- Storing an option adds its value to those given to the option of that name,
and does not touch the others. -/
theorem get_storeOption {values : JsObject StoredOption} {name : String} {multiple : Bool}
    {earlier : List OptionValue} (notProto : name ≠ "__proto__")
    (config : (options.get name).any (·.multiple) = multiple)
    (holds : values.get name = stored multiple earlier) (value : Option String) :
    (storeOption options values name value).get name =
      stored multiple (earlier ++ [OptionValue.ofToken value]) := by
  unfold storeOption
  rw [if_neg notProto, config]
  cases multiple with
  | false => simp [stored, JsObject.get_set]
  | true =>
      cases earlier with
      | nil => simp [holds, stored, JsObject.get_set]
      | cons first rest => simp [holds, stored, JsObject.get_set]

theorem get_storeOption_of_ne {values : JsObject StoredOption} {name other : String}
    (different : name ≠ other) (value : Option String) :
    (storeOption options values other value).get name = values.get name := by
  unfold storeOption
  split
  · rfl
  · split
    · split <;> rw [JsObject.get_set, if_neg different]
    · rw [JsObject.get_set, if_neg different]

theorem get_storeToken {values : JsObject StoredOption} {name : String} {multiple : Bool}
    {earlier : List OptionValue} (notProto : name ≠ "__proto__")
    (config : (options.get name).any (·.multiple) = multiple)
    (holds : values.get name = stored multiple earlier) (token : Token) :
    (storeToken options values token).get name =
      stored multiple (earlier ++ (token.valueFor name).toList) := by
  cases token with
  | option other value =>
      by_cases same : other = name
      · subst same
        rw [Token.valueFor, if_pos rfl]
        exact get_storeOption notProto config holds value
      · rw [Token.valueFor, if_neg same, Option.toList_none, List.append_nil, ← holds]
        exact get_storeOption_of_ne (Ne.symm same) value
  | positional value => simpa [storeToken, Token.valueFor] using holds
  | optionTerminator => simpa [storeToken, Token.valueFor] using holds

theorem get_foldl_storeToken {tokens : List Token} {name : String} {multiple : Bool}
    (notProto : name ≠ "__proto__")
    (config : (options.get name).any (·.multiple) = multiple) :
    (tokens.foldl (storeToken options) .empty).get name =
      stored multiple (tokens.filterMap (Token.valueFor name)) := by
  induction tokens using List.reverseRecOn with
  | nil => cases multiple <;> rfl
  | append_singleton tokens token ih =>
      rw [List.foldl_append, List.foldl_cons, List.foldl_nil, List.filterMap_append,
        get_storeToken notProto config ih]
      cases given : token.valueFor name <;> simp [given]

/-- The result holds, for each option, what the values given to it make up. -/
theorem get_parseArgs {args : List String} {tokens : List Token} {name : String}
    {multiple : Bool} (reads : List.Forall₂ (Reads options) args tokens)
    (notProto : name ≠ "__proto__")
    (config : (options.get name).any (·.multiple) = multiple) :
    (parseArgs options args).values.get name =
      stored multiple (tokens.filterMap (Token.valueFor name)) := by
  simp only [parseArgs, argsToTokens_of_reads reads]
  exact get_foldl_storeToken notProto config

end Stored

end ParseArgs

end ServiceTemplate
