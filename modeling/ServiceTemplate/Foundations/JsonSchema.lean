import Mathlib.Data.Rat.Defs

/-!
# Values and their schemas

A schema accepts a value and returns its output, or rejects it.  The combinators
are those of a schema library for JavaScript: `undefined` is the value of a
field that an object does not have.  A schema is run forwards to decode what
comes in, and backwards to encode what goes out.
-/

namespace ServiceTemplate

/-- A value of JavaScript without functions.  A finite number is a rational. -/
inductive JsonValue where
  | undefined
  | null
  | boolean (value : Bool)
  | number (value : ℚ)
  | string (text : String)
  | array (elements : List JsonValue)
  | object (fields : List (String × JsonValue))

namespace JsonValue

def field (key : String) : JsonValue → JsonValue
  | .object fields => (fields.lookup key).getD .undefined
  | _ => .undefined

def ofNullable {Value : Type} (encode : Value → JsonValue) : Option Value → JsonValue
  | some value => encode value
  | none => .null

end JsonValue

/-- What a schema makes of a value; `none` is a rejection. -/
abbrev Schema (Output : Type) : Type := JsonValue → Option Output

namespace Schema

variable {Output : Type}

def string : Schema String
  | .string text => some text
  | _ => none

def number : Schema ℚ
  | .number value => some value
  | _ => none

/-- A string in a format. -/
def format (accepts : String → Bool) : Schema String
  | .string text => if accepts text then some text else none
  | _ => none

def optional (schema : Schema Output) : Schema (Option Output)
  | .undefined => some none
  | value => (schema value).map some

def nullable (schema : Schema Output) : Schema (Option Output)
  | .null => some none
  | value => (schema value).map some

inductive Direction where
  | decode
  | encode
  deriving DecidableEq

/-- A preprocessor has no way back, so nothing is encoded with it. -/
def preprocess (preprocessor : JsonValue → JsonValue) (schema : Schema Output) :
    Direction → Schema Output
  | .decode => fun value => schema (preprocessor value)
  | .encode => fun _ => none

def array (schema : Schema Output) : Schema (List Output)
  | .array elements => elements.mapM schema
  | _ => none

/-- An array with at least so many elements. -/
def min (least : Nat) (schema : Schema (List Output)) : Schema (List Output) :=
  fun value => (schema value).filter fun elements => least ≤ elements.length

/-- An array with at least one element. -/
def nonempty (schema : Schema (List Output)) :
    Schema { elements : List Output // elements ≠ [] } :=
  fun value => (schema value).bind fun elements =>
    if isNonempty : elements ≠ [] then some ⟨elements, isNonempty⟩ else none

def literal (expected : String) : Schema Unit
  | .string text => if text = expected then some () else none
  | _ => none

/-- An object whose fields the given schema reads; other fields are ignored. -/
def object (fields : Schema Output) : Schema Output
  | .object entries => fields (.object entries)
  | _ => none

/-- The schema of one field of an object. -/
def atField (key : String) (schema : Schema Output) : Schema Output :=
  fun value => schema (value.field key)

theorem array_isSome {schema : Schema Output} {elements : List JsonValue}
    (accepts : ∀ element ∈ elements, (schema element).isSome = true) :
    (array schema (.array elements)).isSome = true := by
  simp only [array]
  induction elements with
  | nil => rfl
  | cons first rest ih =>
      obtain ⟨output, accepted⟩ := Option.isSome_iff_exists.mp (accepts first (by simp))
      obtain ⟨outputs, others⟩ := Option.isSome_iff_exists.mp
        (ih fun element member => accepts element (List.mem_cons_of_mem _ member))
      simp [List.mapM_cons, accepted, others]

end Schema

end ServiceTemplate
