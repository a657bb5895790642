import ServiceTemplate.Foundations.ParseArgs

/-!
# Options derived from an arguments schema

The options are read off the object at the input side of the pipes that the
schema ends in.  Wrappers are removed from each field, and, when an array is
found, from its elements.
-/

namespace ServiceTemplate.Cli

/-- A zod schema, by the classes that the derivation tells apart. -/
inductive Schema where
  /-- strings, enums, formats such as guids, and coerced numbers -/
  | stringLike
  | boolean
  | array (element : Schema)
  | optional (inner : Schema)
  | nullable (inner : Schema)
  | default (inner : Schema)
  | object (shape : List (String × Schema))
  /-- The result of both `.transform` and `.pipe`. -/
  | pipe (input output : Schema)
  /-- transforms, unions, records and all the rest -/
  | other

namespace Schema

def unwrapSchemaIfNeeded : Schema → Schema
  | .optional inner => unwrapSchemaIfNeeded inner
  | .nullable inner => unwrapSchemaIfNeeded inner
  | .default inner => unwrapSchemaIfNeeded inner
  | schema => schema

/-- The shape of the object on the input side. -/
def resolveInputObjectSchema : Schema → Option (List (String × Schema))
  | .object shape => some shape
  | .pipe input _ => resolveInputObjectSchema input
  | _ => none

def optionType : Schema → OptionType
  | .boolean => .boolean
  | _ => .string

def optionConfig (fieldSchema : Schema) : OptionConfig :=
  match fieldSchema.unwrapSchemaIfNeeded with
  | .array element => { type := element.unwrapSchemaIfNeeded.optionType, multiple := true }
  | unwrappedFieldSchema => { type := unwrappedFieldSchema.optionType, multiple := false }

/-- `options[key] = …`, which for one key sets the prototype instead of an entry. -/
def addOption (options : JsObject OptionConfig) (field : String × Schema) :
    JsObject OptionConfig :=
  if field.1 = "__proto__" then options
  else options.set field.1 field.2.optionConfig

def deriveParseArgsOptions (schema : Schema) : Option (JsObject OptionConfig) :=
  schema.resolveInputObjectSchema.map fun shape => shape.foldl addOption .empty

end Schema

def getArgs (argsSchema : Schema) (argv : List String) : JsObject StoredOption :=
  (parseArgs (argsSchema.deriveParseArgsOptions.getD .empty) argv).values

/-! ## The supported schemas -/

/-- A text or a Boolean under any wrappers. -/
inductive IsScalar : OptionType → Schema → Prop
  | stringLike : IsScalar .string .stringLike
  | boolean : IsScalar .boolean .boolean
  | optional {type inner} : IsScalar type inner → IsScalar type (.optional inner)
  | nullable {type inner} : IsScalar type inner → IsScalar type (.nullable inner)
  | default {type inner} : IsScalar type inner → IsScalar type (.default inner)

/-- A text or a Boolean, or an array of these, under any wrappers. -/
inductive IsField : OptionConfig → Schema → Prop
  | stringLike : IsField ⟨.string, false⟩ .stringLike
  | boolean : IsField ⟨.boolean, false⟩ .boolean
  | array {type element} : IsScalar type element → IsField ⟨type, true⟩ (.array element)
  | optional {config inner} : IsField config inner → IsField config (.optional inner)
  | nullable {config inner} : IsField config inner → IsField config (.nullable inner)
  | default {config inner} : IsField config inner → IsField config (.default inner)

/-- An object, followed by transforms and pipes. -/
inductive IsRoot (shape : List (String × Schema)) : Schema → Prop
  | object : IsRoot shape (.object shape)
  | pipe {input output} : IsRoot shape input → IsRoot shape (.pipe input output)

/-- A supported arguments schema: its fields and what each of them takes. -/
structure ArgsSchema where
  schema : Schema
  shape : List (String × Schema)
  isRoot : IsRoot shape schema
  keysNodup : (shape.map Prod.fst).Nodup
  config : String → OptionConfig
  isField : ∀ field ∈ shape, IsField (config field.1) field.2
  isName : ∀ field ∈ shape, ParseArgs.IsName field.1
  notProto : ∀ field ∈ shape, field.1 ≠ "__proto__"

/-! ## The derived options -/

theorem IsScalar.optionType_eq {type : OptionType} {schema : Schema}
    (scalar : IsScalar type schema) : schema.unwrapSchemaIfNeeded.optionType = type := by
  induction scalar with
  | stringLike => rfl
  | boolean => rfl
  | optional _ ih => exact ih
  | nullable _ ih => exact ih
  | default _ ih => exact ih

theorem IsField.optionConfig_eq {config : OptionConfig} {schema : Schema}
    (field : IsField config schema) : schema.optionConfig = config := by
  induction field with
  | stringLike => rfl
  | boolean => rfl
  | array scalar => simp [Schema.optionConfig, Schema.unwrapSchemaIfNeeded, scalar.optionType_eq]
  | optional _ ih => exact ih
  | nullable _ ih => exact ih
  | default _ ih => exact ih

theorem IsRoot.resolveInputObjectSchema_eq {shape : List (String × Schema)} {schema : Schema}
    (root : IsRoot shape schema) : schema.resolveInputObjectSchema = some shape := by
  induction root with
  | object => rfl
  | pipe _ ih => exact ih

theorem get_foldl_addOption_of_notMem {shape : List (String × Schema)} {key : String}
    (absent : key ∉ shape.map Prod.fst) (options : JsObject OptionConfig) :
    (shape.foldl Schema.addOption options).get key = options.get key := by
  induction shape generalizing options with
  | nil => rfl
  | cons field rest ih =>
      obtain ⟨different, restAbsent⟩ := not_or.mp (mt List.mem_cons.mpr absent)
      rw [List.foldl_cons, ih restAbsent, Schema.addOption]
      split
      · rfl
      · rw [JsObject.get_set, if_neg different]

theorem get_foldl_addOption_of_mem {shape : List (String × Schema)}
    (nodup : (shape.map Prod.fst).Nodup) {field : String × Schema} (member : field ∈ shape)
    (notProto : field.1 ≠ "__proto__") (options : JsObject OptionConfig) :
    (shape.foldl Schema.addOption options).get field.1 = some field.2.optionConfig := by
  induction shape generalizing options with
  | nil => cases member
  | cons first rest ih =>
      obtain ⟨new, restNodup⟩ := List.nodup_cons.mp nodup
      rw [List.foldl_cons]
      rcases List.mem_cons.mp member with rfl | later
      · rw [get_foldl_addOption_of_notMem new, Schema.addOption, if_neg notProto,
          JsObject.get_set, if_pos rfl]
      · exact ih restNodup later _

namespace ArgsSchema

variable (args : ArgsSchema)

def keys : List String :=
  args.shape.map Prod.fst

def options : JsObject OptionConfig :=
  args.shape.foldl Schema.addOption .empty

theorem deriveParseArgsOptions_eq : args.schema.deriveParseArgsOptions = some args.options := by
  rw [Schema.deriveParseArgsOptions, args.isRoot.resolveInputObjectSchema_eq]
  rfl

variable {args}

theorem get_options_of_mem {key : String} (member : key ∈ args.keys) :
    args.options.get key = some (args.config key) := by
  obtain ⟨field, isField, rfl⟩ := List.mem_map.mp member
  rw [options, get_foldl_addOption_of_mem args.keysNodup isField (args.notProto field isField),
    (args.isField field isField).optionConfig_eq]

theorem get_options_of_notMem {key : String} (unknown : key ∉ args.keys) :
    args.options.get key = none := by
  rw [options, get_foldl_addOption_of_notMem unknown]
  rfl

end ArgsSchema

end ServiceTemplate.Cli
