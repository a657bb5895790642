import ServiceTemplate.Foundations.JsonSchema
import ServiceTemplate.Users.UserService

/-!
# The schemas of requests, job payloads and responses

Each entry point validates what it is given with a schema of its own.  The
schema of a user is that of the responses; the serializer runs it backwards.
-/

namespace ServiceTemplate.Users

open Schema

section Schemas

/-- What the schemas take from other packages: `toNumberPreprocessor`, the strings
that `z.email()` accepts, and the schema that every job payload extends. -/
structure ExternalSchemas where
  toNumberPreprocessor : JsonValue → JsonValue
  isEmail : String → Bool
  BASE_JOB_PAYLOAD_SCHEMA : Schema Unit

/-- A number is not changed by the preprocessor. -/
def ExternalSchemas.LeavesNumbers (external : ExternalSchemas) : Prop :=
  ∀ value, external.toNumberPreprocessor (.number value) = .number value

variable (external : ExternalSchemas)

/-- `z.optional(z.nullable(z.preprocess(toNumberPreprocessor, z.number())))` -/
def ageSchema (direction : Direction) : Schema (Nullish JsNumber) :=
  optional (nullable (preprocess external.toNumberPreprocessor number direction))

structure UserDTO where
  id : String
  name : String
  age : Nullish JsNumber
  email : String

def USER_SCHEMA (direction : Direction) : Schema UserDTO :=
  object fun value => do
    let id ← atField "id" string value
    let name ← atField "name" string value
    let age ← atField "age" (ageSchema external direction) value
    let email ← atField "email" (format external.isEmail) value
    return { id, name, age, email }

def CREATE_USER_BODY_SCHEMA : Schema UserCreateDTO :=
  object fun value => do
    let name ← atField "name" string value
    let age ← atField "age" (ageSchema external .decode) value
    let email ← atField "email" (format external.isEmail) value
    return { name, age, email }

def UPDATE_USER_BODY_SCHEMA : Schema UserUpdateDTO :=
  object fun value => do
    let name ← atField "name" (optional string) value
    let email ← atField "email" (optional (format external.isEmail)) value
    return { name, email }

/-- The schema of the path parameters of `getUser`, `updateUser` and
`deleteUser`. -/
def userIdParamsSchema : Schema String :=
  object (atField "userId" string)

def GET_USER_PARAMS_SCHEMA : Schema String := userIdParamsSchema

def UPDATE_USER_PARAMS_SCHEMA : Schema String := userIdParamsSchema

def DELETE_USER_PARAMS_SCHEMA : Schema String := userIdParamsSchema

def GET_USERS_BY_IDS_BODY_SCHEMA : Schema (List String) :=
  object (atField "userIds" (min 1 (array string)))

def GET_USER_SCHEMA_RESPONSE_SCHEMA (direction : Direction) : Schema UserDTO :=
  object (atField "data" (USER_SCHEMA external direction))

def GET_USERS_BY_IDS_RESPONSE_SCHEMA (direction : Direction) : Schema (List UserDTO) :=
  object (atField "data" (array (USER_SCHEMA external direction)))

/-- The payload of `UserImportJob`: the fields of every job payload, and these.
Nothing but a string is asked of the email. -/
def USER_IMPORT_JOB_PAYLOAD : Schema UserCreateDTO :=
  object fun value => do
    external.BASE_JOB_PAYLOAD_SCHEMA value
    let name ← atField "name" string value
    let age ← atField "age" number value
    let email ← atField "email" string value
    return { name, age := some (some age), email }

end Schemas

/-! ## Rows as response bodies -/

/-- A row as it is sent. -/
def User.toJson (user : User) : JsonValue :=
  .object
    [("id", .string user.id.text),
      ("age", .ofNullable (fun age : Int4 => .number age.value) user.age),
      ("email", .string user.email.text),
      ("name", .string user.name.text)]

/-- The body of a response of `getUser`. -/
def getUserResponse (user : User) : JsonValue :=
  .object [("data", user.toJson)]

/-- The body of a response of `getUsersByIds`. -/
def getUsersByIdsResponse (users : List User) : JsonValue :=
  .object [("data", .array (users.map User.toJson))]

section Accepted

variable {external : ExternalSchemas}

theorem ageSchema_decode (leavesNumbers : external.LeavesNumbers) (user : User) :
    atField "age" (ageSchema external .decode) user.toJson =
      some (some (user.age.map fun age => (age.value : JsNumber))) := by
  show ageSchema external .decode
    (.ofNullable (fun age : Int4 => .number age.value) user.age) = _
  cases user.age with
  | none => rfl
  | some age =>
      have preprocessed := leavesNumbers age.value
      simp [ageSchema, JsonValue.ofNullable, Schema.optional, Schema.nullable,
        Schema.preprocess, preprocessed, Schema.number]

theorem ageSchema_encode (user : User) :
    atField "age" (ageSchema external .encode) user.toJson =
      if user.age = none then some (some none) else none := by
  show ageSchema external .encode
    (.ofNullable (fun age : Int4 => .number age.value) user.age) = _
  cases user.age <;> rfl

/-- A row passes the schema of a user if its age and its email do. -/
theorem user_schema_toJson (direction : Direction) (user : User) :
    USER_SCHEMA external direction user.toJson =
      (atField "age" (ageSchema external direction) user.toJson).bind fun age =>
        if external.isEmail user.email.text then
          some { id := user.id.text, name := user.name.text, age, email := user.email.text }
        else none := by
  have emailField : atField "email" (format external.isEmail) user.toJson =
      if external.isEmail user.email.text then some user.email.text else none := rfl
  have fields : USER_SCHEMA external direction user.toJson =
      (do
        let id ← some user.id.text
        let name ← some user.name.text
        let age ← atField "age" (ageSchema external direction) user.toJson
        let email ← atField "email" (format external.isEmail) user.toJson
        return { id, name, age, email }) := rfl
  rw [fields, emailField]
  cases external.isEmail user.email.text <;> rfl

theorem user_schema_isSome_iff (leavesNumbers : external.LeavesNumbers) (user : User) :
    (USER_SCHEMA external .decode user.toJson).isSome = true ↔
      external.isEmail user.email.text = true := by
  rw [user_schema_toJson, ageSchema_decode leavesNumbers, Option.bind_some]
  cases external.isEmail user.email.text <;> simp

theorem accepts_of_format {accepts : String → Bool} {value : JsonValue} {text : String}
    (output : format accepts value = some text) : accepts text = true := by
  cases value with
  | string given =>
      simp only [format, Option.ite_none_right_eq_some] at output
      obtain ⟨accepted, same⟩ := output
      cases same
      exact accepted
  | _ => cases output

theorem isEmail_of_create_user_body {body : JsonValue} {user : UserCreateDTO}
    (accepted : CREATE_USER_BODY_SCHEMA external body = some user) :
    external.isEmail user.email = true := by
  cases body with
  | object fields =>
      simp only [CREATE_USER_BODY_SCHEMA, object, Option.bind_eq_bind, Option.pure_def,
        Option.bind_eq_some_iff, Option.some.injEq] at accepted
      obtain ⟨name, -, age, -, email, output, rfl⟩ := accepted
      exact accepts_of_format output
  | _ => cases accepted

theorem isEmail_of_update_user_body {body : JsonValue} {updatedData : UserUpdateDTO}
    (accepted : UPDATE_USER_BODY_SCHEMA external body = some updatedData) {email : String}
    (sets : updatedData.email = some email) : external.isEmail email = true := by
  cases body with
  | object fields =>
      simp only [UPDATE_USER_BODY_SCHEMA, object, Option.bind_eq_bind, Option.pure_def,
        Option.bind_eq_some_iff, Option.some.injEq] at accepted
      obtain ⟨name, -, given, output, rfl⟩ := accepted
      cases sets
      simp only [atField, Schema.optional] at output
      split at output
      · cases output
      · obtain ⟨text, formatted, same⟩ := Option.map_eq_some_iff.mp output
        cases same
        exact accepts_of_format formatted
  | _ => cases accepted

end Accepted

end ServiceTemplate.Users
