import ServiceTemplate.Users.Routes
import ServiceTemplate.Users.StoredUsers

/-!
# The controller of the users API

A route validates the parameters, the body and the headers of its contract,
calls its handler, and sends what the schema of the response makes of the
answer when it is run backwards.  The handlers pass on to the user service.
-/

namespace ServiceTemplate.Users

section Contracts

def AUTH_HEADERS : Schema String :=
  Schema.object (Schema.atField "authorization" Schema.string)

def CREATE_USER_RESPONSE_BODY_SCHEMA (external : ExternalSchemas)
    (direction : Schema.Direction) : Schema UserDTO :=
  Schema.object (Schema.atField "data" (USER_SCHEMA external direction))

/-- What is sent: the output of the schema of the response, or the value that
the handler gave if its status has none. -/
inductive ReplyBody where
  | user (data : UserDTO)
  | users (data : List UserDTO)
  | noBody
  | raw (value : JsonValue)

structure Reply where
  status : Nat
  body : ReplyBody

/-- What a handler resolves to. -/
structure HandlerResponse where
  status : Nat
  body : JsonValue

inductive RequestPart where
  | params
  | body
  | headers
  deriving DecidableEq

/-- What a request fails with: the router refuses a malformed url, and the error
handler of the app is given everything else. -/
inductive RequestError where
  | badUrl (url : String)
  | unauthorized (message : String)
  | routeNotFound
  | invalidRequest (part : RequestPart)
  | service (error : UserError)
  | invalidResponse
  deriving DecidableEq

/-- A request as the server sees it, with what the plugins and the database make
of it. -/
structure HttpRequest where
  method : Method
  url : String
  headers : JsonValue
  /-- what `req.jwtVerify()` settles with -/
  jwtVerify : Except String Unit
  /-- what a plugin replies, if the request selects a route of a plugin -/
  pluginReply : Reply
  /-- the parsed body, `undefined` if there is none -/
  body : JsonValue
  /-- the identifier of a row that the request inserts -/
  generated : Uuid

/-- The schemas of a contract besides its path. -/
structure ServedContract (Params Body : Type) extends ApiContract Params where
  requestBodySchema : Schema Body
  responsesByStatusCode : Nat → Option (Schema ReplyBody)

/-- `{ [status]: schema }` -/
def onStatus (status : Nat) (schema : Schema ReplyBody) :
    Nat → Option (Schema ReplyBody) :=
  fun answered => if answered = status then some schema else none

def noBodyResponse : Schema ReplyBody :=
  fun _ => some .noBody

/-- The contract has no body. -/
def noRequestBody : Schema Unit :=
  fun _ => some ()

namespace UserController.contracts

variable (external : ExternalSchemas)

def createUser : ServedContract Unit UserCreateDTO where
  toApiContract := postCreateUserContract
  requestBodySchema := CREATE_USER_BODY_SCHEMA external
  responsesByStatusCode := onStatus 201 fun body =>
    (CREATE_USER_RESPONSE_BODY_SCHEMA external .encode body).map .user

def getUser : ServedContract String Unit where
  toApiContract := getUserContract
  requestBodySchema := noRequestBody
  responsesByStatusCode := onStatus 200 fun body =>
    (GET_USER_SCHEMA_RESPONSE_SCHEMA external .encode body).map .user

def getUsersByIds : ServedContract Unit (List String) where
  toApiContract := postGetUsersByIdsContract
  requestBodySchema := GET_USERS_BY_IDS_BODY_SCHEMA
  responsesByStatusCode := onStatus 200 fun body =>
    (GET_USERS_BY_IDS_RESPONSE_SCHEMA external .encode body).map .users

def deleteUser : ServedContract String Unit where
  toApiContract := deleteUserContract
  requestBodySchema := noRequestBody
  responsesByStatusCode := onStatus 204 noBodyResponse

def updateUser : ServedContract String UserUpdateDTO where
  toApiContract := patchUpdateUserContract
  requestBodySchema := UPDATE_USER_BODY_SCHEMA external
  responsesByStatusCode := onStatus 204 noBodyResponse

end UserController.contracts

end Contracts

section Serving

variable {Params Body : Type}

/-- The parameters and the body of a request that passes all validations. -/
def ServedContract.validate (contract : ServedContract Params Body)
    (params : List (String × String)) (request : HttpRequest) :
    Except RequestError (Params × Body) :=
  match contract.requestPathParamsSchema
      (.object (params.map fun (name, value) => (name, .string value))) with
  | none => .error (.invalidRequest .params)
  | some params =>
      match contract.requestBodySchema request.body with
      | none => .error (.invalidRequest .body)
      | some body =>
          match AUTH_HEADERS request.headers with
          | none => .error (.invalidRequest .headers)
          | some _ => .ok (params, body)

def ServedContract.serialize (contract : ServedContract Params Body)
    (response : HandlerResponse) : Except RequestError Reply :=
  match contract.responsesByStatusCode response.status with
  | none => .ok ⟨response.status, .raw response.body⟩
  | some schema =>
      match schema response.body with
      | none => .error .invalidResponse
      | some body => .ok ⟨response.status, body⟩

/-- What is sent for the outcome of a handler. -/
def ServedContract.respond (contract : ServedContract Params Body) :
    Except UserError HandlerResponse → Except RequestError Reply
  | .error error => .error (.service error)
  | .ok response => contract.serialize response

/-- The handler of a route runs on valid requests only. -/
def ServedContract.serve (contract : ServedContract Params Body)
    (handler : Params → Body → ServiceState × Except UserError HandlerResponse)
    (state : ServiceState) (params : List (String × String)) (request : HttpRequest) :
    ServiceState × Except RequestError Reply :=
  match contract.validate params request with
  | .error error => (state, .error error)
  | .ok (params, body) =>
      let (next, outcome) := handler params body
      (next, contract.respond outcome)

end Serving

namespace UserController

variable (state : ServiceState)

def createUser (generated : Uuid) (body : UserCreateDTO) :
    ServiceState × Except UserError HandlerResponse :=
  let (next, createdUser) := UserService.createUser state generated
    { name := body.name, email := body.email, age := body.age }
  (next, createdUser.map fun user => ⟨201, .object [("data", user.toJson)]⟩)

def getUser (userId : String) : ServiceState × Except UserError HandlerResponse :=
  let (next, found) := UserService.getUser state userId
  (next, found.map fun user => ⟨200, .object [("data", user.toJson)]⟩)

def getUsersByIds (userIds : List String) :
    ServiceState × Except UserError HandlerResponse :=
  (state, (UserService.getUsers state userIds).map fun users =>
    ⟨200, .object [("data", .array (users.map User.toJson))]⟩)

def deleteUser (userId : String) : ServiceState × Except UserError HandlerResponse :=
  let (next, deleted) := UserService.deleteUser state userId
  (next, deleted.map fun _ => ⟨204, .null⟩)

def updateUser (userId : String) (updatedUser : UserUpdateDTO) :
    ServiceState × Except UserError HandlerResponse :=
  let (next, updated) := UserService.updateUser state userId updatedUser
  (next, updated.map fun _ => ⟨204, .null⟩)

/-- `UserController.routes`, by the name of the route. -/
def handle (external : ExternalSchemas) (params : List (String × String))
    (request : HttpRequest) : RouteName → ServiceState × Except RequestError Reply
  | .createUser =>
      (contracts.createUser external).serve
        (fun _ body => createUser state request.generated body) state params request
  | .getUser =>
      (contracts.getUser external).serve (fun userId _ => getUser state userId)
        state params request
  | .getUsersByIds =>
      (contracts.getUsersByIds external).serve (fun _ userIds => getUsersByIds state userIds)
        state params request
  | .deleteUser =>
      (contracts.deleteUser).serve (fun userId _ => deleteUser state userId)
        state params request
  | .updateUser =>
      (contracts.updateUser external).serve
        (fun userId body => updateUser state userId body) state params request

end UserController

/-! ## Rows as they are sent -/

/-- A row as the schema of a user reads it. -/
def User.toDTO (user : User) : UserDTO where
  id := user.id.text
  name := user.name.text
  age := some (user.age.map fun age => (age.value : JsNumber))
  email := user.email.text

section Rows

variable (external : ExternalSchemas)

/-- The serializer lets a user pass who has an email and no age. -/
def UserDTO.Sendable (user : UserDTO) : Prop :=
  user.age.join = none ∧ external.isEmail user.email = true

instance (user : UserDTO) : Decidable (user.Sendable external) :=
  inferInstanceAs (Decidable (_ ∧ _))

/-- The reply with a user, or the error of the serializer. -/
def userReply (status : Nat) (user : UserDTO) : Except RequestError Reply :=
  if user.Sendable external then .ok ⟨status, .user user⟩ else .error .invalidResponse

/-- The reply with several rows; one that cannot be sent spoils it. -/
def usersReply (users : List User) : Except RequestError Reply :=
  if ∀ user ∈ users, user.toDTO.Sendable external then
    .ok ⟨200, .users (users.map User.toDTO)⟩
  else .error .invalidResponse

variable {external}

theorem user_schema_encode (user : User) :
    USER_SCHEMA external .encode user.toJson =
      if user.toDTO.Sendable external then some user.toDTO else none := by
  rw [user_schema_toJson, ageSchema_encode]
  obtain ⟨id, age, email, name⟩ := user
  cases age <;> simp [UserDTO.Sendable, User.toDTO]

theorem users_schema_encode (users : List User) :
    Schema.array (USER_SCHEMA external .encode) (.array (users.map User.toJson)) =
      if ∀ user ∈ users, user.toDTO.Sendable external then some (users.map User.toDTO)
      else none := by
  simp only [Schema.array]
  induction users with
  | nil => rfl
  | cons user users ih =>
      rw [List.map_cons, List.mapM_cons, ih, user_schema_encode]
      by_cases first : user.toDTO.Sendable external
      · by_cases others : ∀ user ∈ users, user.toDTO.Sendable external
        · have all : ∀ row ∈ user :: users, row.toDTO.Sendable external :=
            List.forall_mem_cons.mpr ⟨first, others⟩
          rw [if_pos first, if_pos others, if_pos all]
          rfl
        · have notAll : ¬ ∀ row ∈ user :: users, row.toDTO.Sendable external :=
            fun all => others (List.forall_mem_cons.mp all).2
          rw [if_pos first, if_neg others, if_neg notAll]
          rfl
      · have notAll : ¬ ∀ row ∈ user :: users, row.toDTO.Sendable external :=
          fun all => first (List.forall_mem_cons.mp all).1
        rw [if_neg first, if_neg notAll]
        rfl

variable {Params Body : Type}

theorem serialize_user (contract : ServedContract Params Body) (status : Nat)
    (declared : contract.responsesByStatusCode status = some fun body =>
      (Schema.object (Schema.atField "data" (USER_SCHEMA external .encode)) body).map .user)
    (user : User) :
    contract.serialize ⟨status, .object [("data", user.toJson)]⟩ =
      userReply external status user.toDTO := by
  have read : Schema.object (Schema.atField "data" (USER_SCHEMA external .encode))
      (.object [("data", user.toJson)]) = USER_SCHEMA external .encode user.toJson := rfl
  simp only [ServedContract.serialize, declared, read, user_schema_encode, userReply]
  by_cases sendable : user.toDTO.Sendable external <;> simp [sendable]

theorem serialize_users (users : List User) :
    (UserController.contracts.getUsersByIds external).serialize
        ⟨200, .object [("data", .array (users.map User.toJson))]⟩ =
      usersReply external users := by
  have declared : (UserController.contracts.getUsersByIds external).responsesByStatusCode 200 =
      some fun body =>
        (GET_USERS_BY_IDS_RESPONSE_SCHEMA external .encode body).map ReplyBody.users := rfl
  have read : GET_USERS_BY_IDS_RESPONSE_SCHEMA external .encode
      (.object [("data", .array (users.map User.toJson))]) =
      Schema.array (USER_SCHEMA external .encode) (.array (users.map User.toJson)) := rfl
  simp only [ServedContract.serialize, declared, read, users_schema_encode, usersReply]
  by_cases sendable : ∀ user ∈ users, user.toDTO.Sendable external
  · rw [if_pos sendable, if_pos sendable]
    rfl
  · rw [if_neg sendable, if_neg sendable]
    rfl

end Rows

end ServiceTemplate.Users
