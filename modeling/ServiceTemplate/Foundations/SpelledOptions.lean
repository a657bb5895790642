import Mathlib.Data.List.Basic
import ServiceTemplate.Foundations.ParseArgs

/-!
# What arbitrary arguments give to an option

Where one option is the only one that takes values, its values can be read off
the arguments directly: they stand behind an equals sign or are the next
argument, whatever that is.  Nothing else gives it a value, and everything from
the end of the options on is left alone.  A group of short options with a dash in
it ends the options as well.
-/

namespace ServiceTemplate.ParseArgs

section Definitions

/-- The value that an argument carries for the option behind an equals sign. -/
def inlineValue (key arg : String) : Option String :=
  (arg.toList.dropPrefix? ("--" ++ key ++ "=").toList).map String.ofList

/-- A bare `--`, or a group of short options one of which is a dash. -/
def endsOptions (arg : String) : Bool :=
  match arg.toList with
  | ['-', '-'] => true
  | '-' :: first :: rest => first ≠ '-' && '-' ∈ rest
  | _ => false

/-- The values that the arguments spell out for the option. -/
def spelled (key : String) : List String → List (Option String)
  | [] => []
  | arg :: rest =>
      if endsOptions arg then []
      else if arg = "--" ++ key then
        match rest with
        | [] => [none]
        | value :: rest => some value :: spelled key rest
      else ((inlineValue key arg).map some).toList ++ spelled key rest

/-- The option is the only one that takes a value, and it has no short name. -/
structure OnlyValued (options : JsObject OptionConfig) (key : String) : Prop where
  isName : IsName key
  long : 1 < key.toList.length
  takesValue : takesValue options key = true
  others : ∀ name, ParseArgs.takesValue options name = true → name = key

end Definitions

theorem inlineValue_eq_some_iff {key arg value : String} :
    inlineValue key arg = some value ↔ arg = "--" ++ key ++ "=" ++ value := by
  simp only [inlineValue, Option.map_eq_some_iff, List.dropPrefix?_eq_some_iff, beq_iff_eq]
  constructor
  · rintro ⟨rest, ⟨_, split, rfl⟩, rfl⟩
    rw [← String.toList_inj, split]
    simp
  · rintro rfl
    exact ⟨value.toList, ⟨_, String.toList_append, rfl⟩, String.ofList_toList⟩

variable {options : JsObject OptionConfig} {key : String}

/-! ## Short options -/

theorem OnlyValued.singleton_ne (only : OnlyValued options key) (short : Char) :
    String.singleton short ≠ key := by
  rintro rfl
  have long := only.long
  simp at long

theorem OnlyValued.takesValue_singleton (only : OnlyValued options key) (short : Char) :
    ParseArgs.takesValue options (String.singleton short) = false := by
  cases takes : ParseArgs.takesValue options (String.singleton short) with
  | false => rfl
  | true => exact absurd (only.others _ takes) (only.singleton_ne short)

theorem OnlyValued.expandGroup_eq (only : OnlyValued options key) (shorts : List Char) :
    expandGroup options shorts = shorts.map fun short => String.ofList ['-', short] := by
  induction shorts with
  | nil => rfl
  | cons short rest ih =>
      cases rest with
      | nil => rfl
      | cons second rest =>
          rw [expandGroup]
          · simp only [only.takesValue_singleton, Bool.false_eq_true, if_false, ih, List.map_cons]
          · simp

/-- Once the options have ended, every argument is positional. -/
theorem foldl_terminated {read : Reader → String → Reader}
    (positional : ∀ tokens arg, read { tokens := tokens, terminated := true } arg =
      { tokens := tokens ++ [.positional arg], terminated := true })
    (args : List String) (tokens : List Token) :
    args.foldl read { tokens := tokens, terminated := true } =
      { tokens := tokens ++ args.map .positional, terminated := true } := by
  induction args generalizing tokens with
  | nil => simp
  | cons arg rest ih =>
      rw [List.foldl_cons, positional, ih, List.map_cons, List.append_assoc, List.singleton_append]

theorem valueFor_of_ne {name : String} (different : name ≠ key) (value : Option String) :
    [Token.option name value].filterMap (Token.valueFor key) = [] := by
  simp [Token.valueFor, different]

/-- A group of short options gives nothing to the option, and a dash in it ends the
options. -/
theorem OnlyValued.readShorts (only : OnlyValued options key) (shorts : List Char)
    (tokens : List Token) :
    ∃ more, more.filterMap (Token.valueFor key) = [] ∧
      (shorts.map fun short => String.ofList ['-', short]).foldl (Reader.readSingle options)
          { tokens := tokens } =
        { tokens := tokens ++ more, terminated := decide ('-' ∈ shorts) } := by
  induction shorts generalizing tokens with
  | nil => exact ⟨[], rfl, by simp⟩
  | cons short rest ih =>
      rw [List.map_cons, List.foldl_cons]
      by_cases dash : short = '-'
      · subst dash
        have terminates :
            Reader.readSingle options { tokens := tokens } (String.ofList ['-', '-']) =
              { tokens := tokens ++ [.optionTerminator], terminated := true } := by
          simp [Reader.readSingle, Reader.push]
        refine ⟨.optionTerminator :: (rest.map fun short =>
          Token.positional (String.ofList ['-', short])), ?_, ?_⟩
        · simp [Token.valueFor]
        · rw [terminates, foldl_terminated fun _ _ => rfl, List.map_map]
          simp
      · have pushes : Reader.readSingle options { tokens := tokens } (String.ofList ['-', short]) =
            { tokens := tokens ++ [.option (String.singleton short) none] } := by
          simp [Reader.readSingle, Reader.readLone, Reader.push, only.takesValue_singleton]
        obtain ⟨more, silent, reads⟩ := ih (tokens ++ [.option (String.singleton short) none])
        refine ⟨.option (String.singleton short) none :: more, ?_, ?_⟩
        · simp [Token.valueFor, only.singleton_ne, silent]
        · rw [pushes, reads]
          simp [Ne.symm dash]

/-! ## One argument -/

/-- How an argument is read while the options have not ended and none waits for its
value. -/
inductive ReadsAs (options : JsObject OptionConfig) (key : String) (tokens : List Token)
    (arg : String) : Reader → Prop
  | ends (more : List Token) (last : endsOptions arg = true)
      (silent : more.filterMap (Token.valueFor key) = []) :
      ReadsAs options key tokens arg { tokens := tokens ++ more, terminated := true }
  | awaits (goesOn : endsOptions arg = false) (lone : arg = "--" ++ key) :
      ReadsAs options key tokens arg { tokens := tokens, awaiting := some key }
  | gives (goesOn : endsOptions arg = false) (notLone : arg ≠ "--" ++ key) (more : List Token)
      (values : more.filterMap (Token.valueFor key) =
        ((inlineValue key arg).map OptionValue.string).toList) :
      ReadsAs options key tokens arg { tokens := tokens ++ more }

theorem inlineValue_eq_none {arg : String}
    (short : ∀ long, arg.toList ≠ '-' :: '-' :: long) : inlineValue key arg = none := by
  rw [Option.eq_none_iff_forall_not_mem]
  intro value spelledOut
  have split := inlineValue_eq_some_iff.mp spelledOut
  apply short (key ++ "=" ++ value).toList
  rw [split]
  simp

theorem ne_lone {arg : String} (short : ∀ long, arg.toList ≠ '-' :: '-' :: long) :
    arg ≠ "--" ++ key := by
  rintro rfl
  exact short key.toList (by simp)

theorem OnlyValued.readsAs_group (only : OnlyValued options key) {arg : String}
    {first second : Char} {rest : List Char} (shorts : arg.toList = '-' :: first :: second :: rest)
    (single : first ≠ '-') (tokens : List Token) :
    ReadsAs options key tokens arg (Reader.read options { tokens := tokens } arg) := by
  have isGroup : isShortOptionGroup options arg = true := by
    simp [isShortOptionGroup, shorts, single, only.takesValue_singleton]
  obtain ⟨more, silent, reads⟩ := only.readShorts (first :: second :: rest) tokens
  have read : Reader.read options { tokens := tokens } arg =
      { tokens := tokens ++ more, terminated := decide ('-' ∈ first :: second :: rest) } := by
    simp only [Reader.read, isGroup, Bool.not_false, Option.isNone_none, Bool.and_self, if_true]
    rw [only.expandGroup_eq, shorts, List.tail_cons, reads]
  have notLong : ∀ long, arg.toList ≠ '-' :: '-' :: long := by
    intro long
    rw [shorts]
    simp [single]
  have ends : endsOptions arg = decide ('-' ∈ first :: second :: rest) := by
    simp [endsOptions, shorts, single, Ne.symm single]
  rw [read, ← ends]
  cases last : endsOptions arg with
  | true => exact .ends more last silent
  | false =>
      refine .gives last (ne_lone notLong) more ?_
      rw [silent, inlineValue_eq_none notLong]
      rfl

theorem read_long {arg : String} {first : Char} {rest : List Char}
    (dashes : arg.toList = '-' :: '-' :: first :: rest) (tokens : List Token) :
    Reader.read options { tokens := tokens } arg =
      if '=' ∈ rest then
        { tokens := tokens ++ [.option (String.ofList ((first :: rest).takeWhile (· ≠ '=')))
          (some (String.ofList ((first :: rest).dropWhile (· ≠ '=')).tail))] }
      else Reader.readLone options { tokens := tokens } (String.ofList (first :: rest)) := by
  by_cases hasValue : '=' ∈ rest <;>
    simp only [Reader.read, isShortOptionGroup_long dashes, Bool.and_false, Bool.false_eq_true,
      if_false, Reader.readSingle, dashes, List.tail_cons, Reader.push, hasValue, if_true]

/-- An argument whose name is that of the option carries a value for it. -/
theorem inlineValue_of_takeWhile {arg : String} {long : List Char}
    (dashes : arg.toList = '-' :: '-' :: long) (hasValue : '=' ∈ long)
    (named : long.takeWhile (· ≠ '=') = key.toList) :
    inlineValue key arg = some (String.ofList (long.dropWhile (· ≠ '=')).tail) := by
  obtain ⟨name, value, rfl, absent⟩ := List.eq_append_cons_of_mem hasValue
  have before : ∀ char ∈ name, decide (char ≠ '=') = true := by
    intro char member
    exact decide_eq_true fun same => absent (same ▸ member)
  have same : name = key.toList := by
    rw [List.takeWhile_append_of_pos before] at named
    simpa using named
  rw [List.dropWhile_append_of_pos before, inlineValue_eq_some_iff, ← String.toList_inj, dashes]
  simp [same]

theorem long_of_inlineValue {arg value : String} {long : List Char}
    (dashes : arg.toList = '-' :: '-' :: long) (carries : inlineValue key arg = some value) :
    long = key.toList ++ '=' :: value.toList := by
  have split := inlineValue_eq_some_iff.mp carries
  rw [split] at dashes
  simpa using dashes.symm

theorem lone_iff {arg : String} {long : List Char} (dashes : arg.toList = '-' :: '-' :: long) :
    arg = "--" ++ key ↔ String.ofList long = key := by
  rw [← String.toList_inj, ← String.toList_inj, dashes]
  simp

/-- An argument with an equals sign in it. -/
theorem OnlyValued.readsAs_inline (only : OnlyValued options key) {arg : String}
    {first : Char} {rest : List Char} (dashes : arg.toList = '-' :: '-' :: first :: rest)
    (goesOn : endsOptions arg = false) (hasValue : '=' ∈ rest) (tokens : List Token) :
    ReadsAs options key tokens arg (Reader.read options { tokens := tokens } arg) := by
  have noEquals := only.isName.noEquals
  have notLone : arg ≠ "--" ++ key := by
    rintro lone
    apply noEquals
    rw [← (lone_iff dashes).mp lone, String.toList_ofList]
    exact List.mem_cons_of_mem _ hasValue
  rw [read_long dashes, if_pos hasValue]
  refine .gives goesOn notLone _ ?_
  by_cases named : (first :: rest).takeWhile (· ≠ '=') = key.toList
  · rw [inlineValue_of_takeWhile dashes (List.mem_cons_of_mem _ hasValue) named, named,
      String.ofList_toList]
    simp [Token.valueFor, OptionValue.ofToken]
  · have different : String.ofList ((first :: rest).takeWhile (· ≠ '=')) ≠ key := by
      rintro same
      apply named
      rw [← same, String.toList_ofList]
    have carriesNone : inlineValue key arg = none := by
      rw [Option.eq_none_iff_forall_not_mem]
      intro value carries
      have split := long_of_inlineValue dashes carries
      have before : ∀ char ∈ key.toList, decide (char ≠ '=') = true := by
        intro char member
        exact decide_eq_true fun same => noEquals (same ▸ member)
      apply named
      rw [split, List.takeWhile_append_of_pos before]
      simp
    rw [carriesNone, valueFor_of_ne different]
    rfl

/-- An argument without an equals sign in it. -/
theorem OnlyValued.readsAs_lone (only : OnlyValued options key) {arg : String}
    {first : Char} {rest : List Char} (dashes : arg.toList = '-' :: '-' :: first :: rest)
    (goesOn : endsOptions arg = false) (noValue : '=' ∉ rest) (tokens : List Token) :
    ReadsAs options key tokens arg (Reader.read options { tokens := tokens } arg) := by
  rw [read_long dashes, if_neg noValue, Reader.readLone]
  by_cases named : String.ofList (first :: rest) = key
  · rw [named, if_pos only.takesValue]
    exact .awaits goesOn ((lone_iff dashes).mpr named)
  · have takesNone : ParseArgs.takesValue options (String.ofList (first :: rest)) ≠ true :=
      fun takes => named (only.others _ takes)
    have carriesNone : inlineValue key arg = none := by
      rw [Option.eq_none_iff_forall_not_mem]
      intro value carries
      have split := long_of_inlineValue dashes carries
      have nonempty : key.toList ≠ [] := mt String.toList_eq_nil_iff.mp only.isName.nonempty
      obtain ⟨letter, letters, spelling⟩ := List.exists_cons_of_ne_nil nonempty
      rw [spelling, List.cons_append, List.cons.injEq] at split
      apply noValue
      rw [split.2]
      simp
    rw [if_neg takesNone]
    refine .gives goesOn (mt (lone_iff dashes).mp named) _ ?_
    rw [carriesNone, valueFor_of_ne named]
    rfl

theorem OnlyValued.readsAs_long (only : OnlyValued options key) {arg : String}
    {long : List Char} (dashes : arg.toList = '-' :: '-' :: long) (tokens : List Token) :
    ReadsAs options key tokens arg (Reader.read options { tokens := tokens } arg) := by
  cases long with
  | nil =>
      have last : endsOptions arg = true := by simp [endsOptions, dashes]
      have read : Reader.read options { tokens := tokens } arg =
          { tokens := tokens ++ [.optionTerminator], terminated := true } := by
        simp only [Reader.read, isShortOptionGroup_long dashes, Bool.and_false,
          Bool.false_eq_true, if_false, Reader.readSingle, dashes, Reader.push]
      rw [read]
      exact .ends [.optionTerminator] last rfl
  | cons first rest =>
      have goesOn : endsOptions arg = false := by simp [endsOptions, dashes]
      by_cases hasValue : '=' ∈ rest
      · exact only.readsAs_inline dashes goesOn hasValue tokens
      · exact only.readsAs_lone dashes goesOn hasValue tokens

/-- An argument that is not long gives nothing to the option. -/
theorem readsAs_of_short {arg : String} {tokens : List Token} {token : Token}
    (notLong : ∀ long, arg.toList ≠ '-' :: '-' :: long) (goesOn : endsOptions arg = false)
    (silent : [token].filterMap (Token.valueFor key) = [])
    (read : Reader.read options { tokens := tokens } arg = { tokens := tokens ++ [token] }) :
    ReadsAs options key tokens arg (Reader.read options { tokens := tokens } arg) := by
  rw [read]
  refine .gives goesOn (ne_lone notLong) _ ?_
  rw [silent, inlineValue_eq_none notLong]
  rfl

/-- Every argument is read in one of the three ways. -/
theorem OnlyValued.readsAs (only : OnlyValued options key) (arg : String)
    (tokens : List Token) :
    ReadsAs options key tokens arg (Reader.read options { tokens := tokens } arg) := by
  cases chars : arg.toList with
  | nil =>
      have word : IsWord arg := by simp [IsWord, chars]
      apply readsAs_of_short _ _ _ (reads_word word tokens)
      · simp [chars]
      · simp [endsOptions, chars]
      · rfl
  | cons head rest =>
      by_cases dash : head = '-'
      · subst dash
        cases rest with
        | nil =>
            have read : Reader.read options { tokens := tokens } arg =
                { tokens := tokens ++ [.positional arg] } := by
              simp [Reader.read, isShortOptionGroup, Reader.readSingle, chars, Reader.push]
            apply readsAs_of_short _ _ _ read
            · simp [chars]
            · simp [endsOptions, chars]
            · rfl
        | cons first rest =>
            by_cases long : first = '-'
            · subst long
              exact only.readsAs_long chars tokens
            · cases rest with
              | nil =>
                  have read : Reader.read options { tokens := tokens } arg =
                      { tokens := tokens ++ [.option (String.singleton first) none] } := by
                    simp [Reader.read, isShortOptionGroup, Reader.readSingle, chars,
                      Reader.readLone, Reader.push, only.takesValue_singleton]
                  apply readsAs_of_short _ _ (valueFor_of_ne (only.singleton_ne first) none) read
                  · simp [chars, long]
                  · simp [endsOptions, chars, long]
              | cons second rest => exact only.readsAs_group chars long tokens
      · have word : IsWord arg := by simp [IsWord, chars, dash]
        apply readsAs_of_short _ _ _ (reads_word word tokens)
        · simp [chars, dash]
        · simp [endsOptions, chars, dash]
        · rfl

/-! ## All arguments -/

theorem spelled_of_ends {arg : String} (last : endsOptions arg = true) (rest : List String) :
    spelled key (arg :: rest) = [] := by
  cases rest <;> simp [spelled, last]

theorem spelled_of_other {arg : String} (goesOn : ¬ endsOptions arg = true)
    (notLone : ¬ arg = "--" ++ key) (rest : List String) :
    spelled key (arg :: rest) =
      ((inlineValue key arg).map some).toList ++ spelled key rest := by
  cases rest <;> simp [spelled, goesOn, notLone]

/-- The tokens of any arguments hold just the values that are spelled out. -/
theorem OnlyValued.values_eq (only : OnlyValued options key) (args : List String)
    (tokens : List Token) :
    (args.foldl (Reader.read options) { tokens := tokens }).finish.filterMap
        (Token.valueFor key) =
      tokens.filterMap (Token.valueFor key) ++ (spelled key args).map OptionValue.ofToken := by
  induction args using spelled.induct key generalizing tokens with
  | case1 => simp [Reader.finish, spelled]
  | case2 arg rest last =>
      have reads := only.readsAs arg tokens
      rw [List.foldl_cons, spelled_of_ends last]
      generalize Reader.read options { tokens := tokens } arg = reader at reads ⊢
      cases reads with
      | ends more _ silent =>
          rw [foldl_terminated fun _ _ => rfl, Reader.finish, List.filterMap_append,
            List.filterMap_append, silent]
          simp [Token.valueFor]
      | awaits goesOn lone => simp [goesOn] at last
      | gives goesOn notLone more values => simp [goesOn] at last
  | case3 goesOn =>
      have reads := only.readsAs ("--" ++ key) tokens
      rw [List.foldl_cons, List.foldl_nil, spelled, if_neg goesOn, if_pos rfl]
      generalize Reader.read options { tokens := tokens } ("--" ++ key) = reader at reads ⊢
      cases reads with
      | ends more last silent => exact absurd last goesOn
      | awaits _ lone => simp [Reader.finish, Token.valueFor]
      | gives _ notLone more values => exact absurd rfl notLone
  | case4 value rest goesOn ih =>
      have reads := only.readsAs ("--" ++ key) tokens
      rw [List.foldl_cons, List.foldl_cons, spelled, if_neg goesOn, if_pos rfl]
      generalize Reader.read options { tokens := tokens } ("--" ++ key) = reader at reads ⊢
      cases reads with
      | ends more last silent => exact absurd last goesOn
      | awaits _ lone =>
          have takes : Reader.read options { tokens := tokens, awaiting := some key } value =
              { tokens := tokens ++ [.option key (some value)] } := rfl
          rw [takes, ih]
          simp [Token.valueFor]
      | gives _ notLone more values => exact absurd rfl notLone
  | case5 arg rest goesOn notLone ih =>
      have reads := only.readsAs arg tokens
      rw [List.foldl_cons, spelled_of_other goesOn notLone]
      generalize Reader.read options { tokens := tokens } arg = reader at reads ⊢
      cases reads with
      | ends more last silent => exact absurd last goesOn
      | awaits _ lone => exact absurd lone notLone
      | gives _ _ more values =>
          rw [ih, List.filterMap_append, values]
          cases inlineValue key arg <;> simp [OptionValue.ofToken]

/-- The result holds what the values spelled out for the option make up. -/
theorem OnlyValued.get_parseArgs (only : OnlyValued options key) {multiple : Bool}
    (notProto : key ≠ "__proto__") (config : (options.get key).any (·.multiple) = multiple)
    (args : List String) :
    (parseArgs options args).values.get key =
      stored multiple ((spelled key args).map OptionValue.ofToken) := by
  rw [parseArgs, get_foldl_storeToken notProto config, argsToTokens, only.values_eq]
  rfl

end ServiceTemplate.ParseArgs
