import ServiceTemplate.Users.Admission
import ServiceTemplate.Users.Application

/-!
# What a request does

A request is refused, answered without the user service, or leads to one call of
the service; the request alone decides which.  A call leaves the state as it is, reads one
user through the cache, or writes one row and removes one text from the cache.
-/

namespace ServiceTemplate.Users

open Url

section Calls

section Schemas

variable (schemas : ExternalSchemas)

/-- The call that the handler of a route makes for a valid request. -/
def UserController.call (params : List (String × String)) (request : HttpRequest) :
    RouteName → Except RequestError ServiceCall
  | .createUser =>
      ((contracts.createUser schemas).validate params request).map fun valid =>
        .createUser valid.2
  | .getUser =>
      ((contracts.getUser schemas).validate params request).map fun valid =>
        .getUser valid.1
  | .getUsersByIds =>
      ((contracts.getUsersByIds schemas).validate params request).map fun valid =>
        .getUsers valid.2
  | .deleteUser =>
      (contracts.deleteUser.validate params request).map fun valid => .deleteUser valid.1
  | .updateUser =>
      ((contracts.updateUser schemas).validate params request).map fun valid =>
        .updateUser valid.1 valid.2

/-- The handler that makes the call. -/
def ServiceCall.handle (state : ServiceState) (generated : Uuid) :
    ServiceCall → ServiceState × Except UserError HandlerResponse
  | .createUser user => UserController.createUser state generated user
  | .updateUser userId updatedData => UserController.updateUser state userId updatedData
  | .getUser userId => UserController.getUser state userId
  | .deleteUser userId => UserController.deleteUser state userId
  | .getUsers userIds => UserController.getUsersByIds state userIds

/-- What is sent for the outcome of the handler. -/
def ServiceCall.respond :
    ServiceCall → Except UserError HandlerResponse → Except RequestError Reply
  | .createUser _ => (UserController.contracts.createUser schemas).respond
  | .updateUser _ _ => (UserController.contracts.updateUser schemas).respond
  | .getUser _ => (UserController.contracts.getUser schemas).respond
  | .deleteUser _ => UserController.contracts.deleteUser.respond
  | .getUsers _ => (UserController.contracts.getUsersByIds schemas).respond

/-- What a request leads to that is not refused. -/
inductive RequestAction where
  | reply (reply : Reply)
  | call (call : ServiceCall)

/-- What becomes of a request that is refused or leads to an action. -/
def HttpRequest.answered (request : HttpRequest) (state : ServiceState) :
    Except RequestError RequestAction → ServiceState × Except RequestError Reply
  | .error error => (state, .error error)
  | .ok (.reply reply) => (state, .ok reply)
  | .ok (.call call) =>
      let (next, outcome) := call.handle state request.generated
      (next, call.respond schemas outcome)

end Schemas

/-- The row that a call writes, if the storage admits it. -/
def ServiceCall.row (generated : Uuid) : ServiceCall → Option Uuid
  | .createUser _ => some generated
  | .updateUser userId _ | .deleteUser userId => Uuid.parse userId
  | .getUser _ | .getUsers _ => none

variable (external : ExternalPackages)

/-- What a request leads to; `GET /live` and the plugins do not call the service. -/
def HttpRequest.action (request : HttpRequest) : Except RequestError RequestAction :=
  if WellFormed request.url then
    let selected := selectedRoute external request.method request.url
    match jwtTokenPlugin skipList (selected.map (·.1.url)) request.jwtVerify with
    | .error error => .error error
    | .ok _ =>
        match selected with
        | none => .error .routeNotFound
        | some (route, params) =>
            match route.handler with
            | .live => .ok (.reply liveReply)
            | .plugin => .ok (.reply request.pluginReply)
            | .users name =>
                (UserController.call external.toExternalSchemas params request name).map .call
  else .error (.badUrl request.url)

/-- The row that an input writes, if anything. -/
def AppInput.row : AppInput → Option Uuid
  | .http request =>
      match request.action external with
      | .ok (.call call) => call.row request.generated
      | _ => none
  | .importUser generated payload =>
      (USER_IMPORT_JOB_PAYLOAD external.toExternalSchemas payload).map fun _ => generated
  | .evictMemory _ | .evictRedis _ => none

end Calls

section Handling

variable {schemas : ExternalSchemas} {request : HttpRequest} {state : ServiceState}
variable {params : List (String × String)} {name : RouteName}

/-- A route answers with the handler of its call, if the request is valid. -/
theorem serve_eq_answered {Params Body : Type} {contract : ServedContract Params Body}
    {handler : Params → Body → ServiceState × Except UserError HandlerResponse}
    {call : Params × Body → ServiceCall}
    (handles : ∀ valid : Params × Body,
      handler valid.1 valid.2 = (call valid).handle state request.generated)
    (responds : ∀ valid, (call valid).respond schemas = contract.respond) :
    contract.serve handler state params request =
      request.answered schemas state
        (((contract.validate params request).map call).map .call) := by
  unfold ServedContract.serve
  cases contract.validate params request with
  | error error => rfl
  | ok valid =>
      simp only [Except.map, HttpRequest.answered, ← handles valid, responds valid]

theorem UserController.handle_eq_answered :
    UserController.handle state schemas params request name =
      request.answered schemas state
        ((UserController.call schemas params request name).map .call) := by
  cases name <;>
    · dsimp only [handle, call]
      apply serve_eq_answered
      · exact fun valid => rfl
      · exact fun valid => rfl

/-- The action that a request leads to says all about what becomes of it. -/
theorem handleRequest_eq_answered {external : ExternalPackages} :
    handleRequest external state request =
      request.answered external.toExternalSchemas state (request.action external) := by
  unfold handleRequest HttpRequest.action
  split
  · dsimp only
    cases jwtTokenPlugin skipList
      ((selectedRoute external request.method request.url).map (·.1.url))
      request.jwtVerify with
    | error error => rfl
    | ok _ =>
        cases selectedRoute external request.method request.url with
        | none => rfl
        | some found =>
            obtain ⟨route, params⟩ := found
            dsimp only [handleRoute]
            cases route.handler with
            | live => rfl
            | plugin => rfl
            | users name => exact UserController.handle_eq_answered
  · rfl

end Handling

/-! ## What becomes of the state -/

/-- What an input that writes the given row, if any, can do to the state. -/
inductive Moves (state : ServiceState) (row : Option Uuid) : ServiceState → Prop where
  | stays : Moves state row state
  | reads (key : String) :
      Moves state row
        ⟨state.table, (state.cache.get (UserRepository.getUser state.table) key).1⟩
  | writes (uuid : Uuid) (text : String) (table : UserTable) (named : row = some uuid)
      (parsed : Uuid.parse text = some uuid)
      (others : ∀ other, other ≠ uuid → table.select other = state.table.select other) :
      Moves state row ⟨table, state.cache.invalidate text⟩
  | evictsMemory (key : String) :
      Moves state row { state with cache := state.cache.evictMemory key }
  | evictsRedis (key : String) :
      Moves state row { state with cache := state.cache.evictRemote key }

section Moves

variable {external : ExternalPackages} {state : ServiceState}

theorem createUser_moves (generated : Uuid) (user : UserCreateDTO) :
    Moves state (some generated) (UserService.createUser state generated user).1 := by
  unfold UserService.createUser
  split
  · exact .stays
  · next table newUser created =>
    obtain ⟨isNew, -, inserted⟩ := UserRepository.createUser_eq_ok created
    refine .writes newUser.id newUser.id.text table (by rw [isNew]) (Uuid.parse_text _) ?_
    intro other different
    rw [UserTable.select_insert inserted, if_neg (Ne.symm different)]

theorem handle_moves (generated : Uuid) (call : ServiceCall) :
    Moves state (call.row generated) (call.handle state generated).1 := by
  cases call with
  | createUser user => exact createUser_moves generated user
  | updateUser userId updatedData =>
      show Moves _ _ (UserService.updateUser state userId updatedData).1
      unfold UserService.updateUser
      split
      · exact .stays
      · next table updated done =>
        obtain ⟨uuid, assignment, parsed, -, stored⟩ := UserRepository.updateUser_eq_ok done
        refine .writes uuid userId table parsed parsed fun other different => ?_
        rw [UserTable.select_update stored, if_neg different]
  | deleteUser userId =>
      show Moves _ _ (UserService.deleteUser state userId).1
      unfold UserService.deleteUser
      split
      · exact .stays
      · next table deleted done =>
        obtain ⟨uuid, parsed, rfl⟩ := UserRepository.deleteUser_eq_ok done
        refine .writes uuid userId _ parsed parsed fun other different => ?_
        rw [UserTable.select_delete, if_neg different]
  | getUser userId =>
      show Moves _ _ (UserService.load state userId).1
      rw [UserService.load_eq_get]
      exact .reads userId
  | getUsers userIds => exact .stays

theorem app_moves (input : AppInput) :
    Moves state (input.row external) (app external state input).1 := by
  cases input with
  | http request =>
      show Moves _ _ (handleRequest external state request).1
      rw [handleRequest_eq_answered]
      cases leads : request.action external with
      | error error => exact .stays
      | ok action =>
          cases action with
          | reply reply => exact .stays
          | call call =>
              simp only [AppInput.row, leads]
              exact handle_moves request.generated call
  | importUser generated payload =>
      show Moves _ _ (UserImportJob.process external state generated payload)
      unfold UserImportJob.process
      cases accepted : USER_IMPORT_JOB_PAYLOAD external.toExternalSchemas payload with
      | none => exact .stays
      | some user =>
          simp only [AppInput.row, accepted, Option.map_some]
          exact createUser_moves generated user
  | evictMemory key => exact .evictsMemory key
  | evictRedis key => exact .evictsRedis key

end Moves

/-! ## Requests for one user -/

section Targets

variable {external : ExternalPackages} {request : HttpRequest}

theorem segments_user (id : Uuid) :
    segments ("/users/" ++ id.text) = [[], "users".toList, id.text.toList] := by
  obtain ⟨noQuery, noFragment, noSlash, -⟩ := plain_of_uuid id
  rw [segments_users, cut_eq_self_iff.mpr ⟨noQuery, noFragment⟩,
    List.splitOn_eq_singleton noSlash]
  rfl

theorem wellFormed_user (id : Uuid) : WellFormed ("/users/" ++ id.text) := by
  unfold WellFormed
  rw [segments_user]
  have noPercent := (plain_of_uuid id).2.2.2
  simp only [List.mem_cons, List.not_mem_nil, or_false, forall_eq_or_imp, forall_eq]
  rw [decodeURIComponent_of_plain (by decide), decodeURIComponent_of_plain (by decide),
    decodeURIComponent_of_plain noPercent]
  exact ⟨rfl, rfl, rfl⟩

/-- A path elsewhere does not match a request for a user. -/
theorem matchSegments_elsewhere {path : String} (isElsewhere : elsewhere path = true)
    (id : Uuid) : matchSegments (pattern path) (segments ("/users/" ++ id.text)) = none := by
  rw [segments_user]
  unfold elsewhere at isElsewhere
  split at isElsewhere
  · next first rest registered =>
    have different : "users".toList ≠ first := Ne.symm (of_decide_eq_true isElsewhere)
    rw [registered, matchSegments_literal (by decide), if_pos rfl,
      matchSegments_literal (by decide), if_neg different]
  · cases isElsewhere

theorem selectedRoute_user {contract : ApiContract String} {name : RouteName}
    (isContract : (contract, name) ∈ userContracts) (id : Uuid) :
    selectedRoute external contract.method ("/users/" ++ id.text) =
      some (⟨contract.method, "/users/:userId", .users name⟩, [("userId", id.text)]) := by
  have live : matchSegments (pattern "/live") (segments ("/users/" ++ id.text)) = none :=
    matchSegments_elsewhere (by decide) id
  have path : "/users/" ++ ":userId" = "/users/:userId" := by decide
  have own : matchSegments (pattern "/users/:userId") (segments ("/users/" ++ id.text)) =
      some [("userId", id.text)] := by
    rw [← path, matchSegments_users]
    exact (matchSegments_parameter_eq_some_iff "userId".toList id.text).mpr (plain_of_uuid id)
  have noPlugin : dispatch ((external.pluginRoutes.map fun route =>
      (⟨route.1, route.2, .plugin⟩ : Route Method AppRoute)).map fun route =>
        ⟨route.method, route.url, route⟩) contract.method ("/users/" ++ id.text) = none := by
    apply List.findSome?_eq_none_iff.mpr
    intro entry member
    obtain ⟨route, registered, rfl⟩ := List.mem_map.mp member
    obtain ⟨registration, isPlugin, rfl⟩ := List.mem_map.mp registered
    have elsewhere := external.pluginsElsewhere registration isPlugin
    simp [matchSegments_elsewhere elsewhere]
  unfold selectedRoute appRoutes
  rw [List.map_append, dispatch, List.findSome?_append]
  rw [dispatch] at noPlugin
  rw [noPlugin, Option.none_or]
  simp only [userContracts, List.mem_cons, Prod.mk.injEq, List.not_mem_nil,
    or_false] at isContract
  obtain ⟨rfl, rfl⟩ | ⟨rfl, rfl⟩ | ⟨rfl, rfl⟩ := isContract
  all_goals
    simp only [routes, buildApiRoute, getUserContract, deleteUserContract,
      patchUpdateUserContract, postCreateUserContract, postGetUsersByIdsContract, path,
      List.map_cons, List.map_nil, List.findSome?_cons, reduceCtorEq, if_false, if_true,
      live, own, Option.map_none, Option.map_some]

/-- A request with a verified token that is sent to the path of a user is given to
the route of its contract. -/
theorem action_user {contract : ApiContract String} {name : RouteName}
    (isContract : (contract, name) ∈ userContracts) {id : Uuid}
    (method : request.method = contract.method) (url : request.url = "/users/" ++ id.text)
    (verified : request.jwtVerify = .ok ()) :
    request.action external =
      (UserController.call external.toExternalSchemas [("userId", id.text)] request name).map
        .call := by
  have passes : jwtTokenPlugin skipList (some "/users/:userId") (.ok ()) = .ok () := by
    simp [jwtTokenPlugin]
  unfold HttpRequest.action
  rw [method, url, verified, if_pos (wellFormed_user id), selectedRoute_user isContract]
  dsimp only [Option.map_some]
  rw [passes]

/-- A request for a user by the text that the API prints. -/
structure Asks (id : Uuid) (request : HttpRequest) : Prop where
  method : request.method = .get
  url : request.url = "/users/" ++ id.text
  verified : request.jwtVerify = .ok ()
  headers : (AUTH_HEADERS request.headers).isSome = true

theorem Asks.action {id : Uuid} (asks : Asks id request) :
    request.action external = .ok (.call (.getUser id.text)) := by
  obtain ⟨authorization, present⟩ := Option.isSome_iff_exists.mp asks.headers
  have isContract : (getUserContract, RouteName.getUser) ∈ userContracts := by
    simp [userContracts]
  rw [action_user isContract asks.method asks.url asks.verified]
  dsimp only [UserController.call]
  have valid : (UserController.contracts.getUser external.toExternalSchemas).validate
      [("userId", id.text)] request = .ok (id.text, ()) := by
    simp only [ServedContract.validate, present]
    rfl
  rw [valid]
  rfl

/-- The routes of the plugins that the skip list names. -/
def samplePackages : ExternalPackages where
  toExternalSchemas := sampleSchemas
  pluginRoutes :=
    [(.get, "/favicon.ico"), (.get, "/documentation"), (.get, "/documentation/"),
      (.get, "/documentation/openapi.json"), (.get, "/documentation/js/scalar.js"),
      (.get, "/"), (.get, "/health")]
  pluginsElsewhere := by decide

/-- A request with a token, as a client sends it. -/
def sampleRequest (method : Method) (url : String) (body : JsonValue) : HttpRequest where
  method := method
  url := url
  headers := .object [("authorization", .string "Bearer token")]
  jwtVerify := .ok ()
  pluginReply := ⟨200, .noBody⟩
  body := body
  generated := sampleId

/-- The creation of a user, and a request for the user. -/
def createAda : HttpRequest :=
  sampleRequest .post "/users"
    (.object [("name", .string "Ada"), ("email", .string "ada@example.com")])

def askForAda : HttpRequest :=
  sampleRequest .get ("/users/" ++ sampleId.text) .undefined

theorem askForAda_asks : Asks sampleId askForAda where
  method := rfl
  url := rfl
  verified := rfl
  headers := rfl

end Targets

end ServiceTemplate.Users
