import ServiceTemplate.Foundations.Url
import ServiceTemplate.Users.Schemas

/-!
# The contracts of the users API and the routes that serve them

A contract resolves the path of a request from its parameters, and the route is
registered under the path that the same contract resolves for the name of the
parameter.
-/

namespace ServiceTemplate.Users

open Url

section Contracts

inductive Method where
  | get
  | post
  | patch
  | delete
  deriving DecidableEq, Repr

/-- What the client and the server take from a contract. -/
structure ApiContract (Params : Type) where
  method : Method
  requestPathParamsSchema : Schema Params
  pathResolver : Params → String

def postCreateUserContract : ApiContract Unit where
  method := .post
  requestPathParamsSchema := fun _ => some ()
  pathResolver := fun _ => "/users"

def getUserContract : ApiContract String where
  method := .get
  requestPathParamsSchema := GET_USER_PARAMS_SCHEMA
  pathResolver := fun userId => "/users/" ++ userId

def deleteUserContract : ApiContract String where
  method := .delete
  requestPathParamsSchema := DELETE_USER_PARAMS_SCHEMA
  pathResolver := fun userId => "/users/" ++ userId

def patchUpdateUserContract : ApiContract String where
  method := .patch
  requestPathParamsSchema := UPDATE_USER_PARAMS_SCHEMA
  pathResolver := fun userId => "/users/" ++ userId

def postGetUsersByIdsContract : ApiContract Unit where
  method := .post
  requestPathParamsSchema := fun _ => some ()
  pathResolver := fun _ => "/internal/users/get-by-ids"

/-- The keys of `UserController.routes`. -/
inductive RouteName where
  | createUser
  | getUser
  | getUsersByIds
  | deleteUser
  | updateUser
  deriving DecidableEq, Repr

/-- `buildApiRoute`: the placeholders of the parameters are put into the path. -/
def buildApiRoute {Params : Type} (contract : ApiContract Params)
    (placeholders : Params) (name : RouteName) : Route Method RouteName where
  method := contract.method
  url := contract.pathResolver placeholders
  handler := name

/-- `UserController.routes` -/
def routes : List (Route Method RouteName) :=
  [buildApiRoute postCreateUserContract () .createUser,
    buildApiRoute getUserContract ":userId" .getUser,
    buildApiRoute postGetUsersByIdsContract () .getUsersByIds,
    buildApiRoute deleteUserContract ":userId" .deleteUser,
    buildApiRoute patchUpdateUserContract ":userId" .updateUser]

/-- The contracts with a parameter, and the routes that are meant to serve
them. -/
def userContracts : List (ApiContract String × RouteName) :=
  [(getUserContract, .getUser), (deleteUserContract, .deleteUser),
    (patchUpdateUserContract, .updateUser)]

/-- The route that a request of a contract selects and the parameters that the
route is given, when the client sends the resolved path. -/
def request (contract : ApiContract String) (userId : String) :
    Option (RouteName × List (String × String)) :=
  dispatch routes contract.method (contract.pathResolver userId)

/-- `req.params` after the validation: the parameters of the path, as the schema
of the contract reads them. -/
def receivedParams (contract : ApiContract String)
    (params : List (String × String)) : Option String :=
  contract.requestPathParamsSchema
    (.object (params.map fun (name, value) => (name, .string value)))

end Contracts

section Routing

variable {contract : ApiContract String} {name : RouteName}

theorem segments_users (userId : String) :
    segments ("/users/" ++ userId) =
      [[], "users".toList] ++ (cut userId.toList).splitOn '/' := by
  have kept : cut "/users/".toList = "/users/".toList := by decide
  have ends : "/users/".toList = "/users".toList ++ ['/'] := by decide
  rw [segments_append kept ends]
  congr 1

/-- The path of a request matches the pattern of its own route as far as the
parameter. -/
theorem matchSegments_users (userId : String) :
    matchSegments (pattern ("/users/" ++ ":userId"))
        (segments ("/users/" ++ userId)) =
      matchSegments [.parameter "userId".toList]
        ((cut userId.toList).splitOn '/') := by
  have registered : pattern ("/users/" ++ ":userId") =
      [.literal [], .literal "users".toList, .parameter "userId".toList] := by
    decide
  rw [registered, segments_users]
  simp only [List.cons_append, List.nil_append]
  rw [matchSegments_literal (by decide), if_pos rfl, matchSegments_literal (by decide),
    if_pos rfl]

/-- A request selects the route of its contract or none, and which of the two
depends on the segments behind `/users/`. -/
theorem request_eq (isContract : (contract, name) ∈ userContracts)
    (userId : String) :
    request contract userId =
      (matchSegments [.parameter "userId".toList]
        ((cut userId.toList).splitOn '/')).map (fun params => (name, params)) := by
  rw [← matchSegments_users userId]
  simp only [userContracts, List.mem_cons, Prod.mk.injEq, List.not_mem_nil,
    or_false] at isContract
  -- the routes of the other methods are passed over
  obtain ⟨rfl, rfl⟩ | ⟨rfl, rfl⟩ | ⟨rfl, rfl⟩ := isContract
  all_goals
    simp only [request, dispatch, routes, buildApiRoute, getUserContract,
      deleteUserContract, patchUpdateUserContract, postCreateUserContract,
      postGetUsersByIdsContract, List.findSome?_cons, List.findSome?_nil,
      reduceCtorEq, if_false, if_true]
    cases matchSegments (pattern ("/users/" ++ ":userId"))
      (segments ("/users/" ++ userId)) <;> rfl

theorem receivedParams_userId (isContract : (contract, name) ∈ userContracts)
    (userId : String) :
    receivedParams contract [("userId", userId)] = some userId := by
  simp only [userContracts, List.mem_cons, Prod.mk.injEq, List.not_mem_nil,
    or_false] at isContract
  obtain ⟨rfl, -⟩ | ⟨rfl, -⟩ | ⟨rfl, -⟩ := isContract <;> rfl

/-- A user is addressed by its own id exactly if the id is plain. -/
theorem request_eq_some_iff (isContract : (contract, name) ∈ userContracts)
    (userId : String) :
    request contract userId = some (name, [("userId", userId)]) ↔
      Plain userId := by
  have givenBack := matchSegments_parameter_eq_some_iff "userId".toList userId
  rw [String.ofList_toList] at givenBack
  rw [request_eq isContract, ← givenBack]
  simp

/-- Whatever the id is, the request is not served by another route. -/
theorem route_of_request (isContract : (contract, name) ∈ userContracts)
    {userId : String} {selected : RouteName} {params : List (String × String)}
    (served : request contract userId = some (selected, params)) :
    selected = name := by
  rw [request_eq isContract, Option.map_eq_some_iff] at served
  obtain ⟨_, -, same⟩ := served
  exact (congrArg Prod.fst same).symm

/-- Two plain ids do not address the same user. -/
theorem userId_injective (isContract : (contract, name) ∈ userContracts)
    {userId other : String} (plain : Plain userId) (otherPlain : Plain other)
    (same : request contract userId = request contract other) :
    userId = other := by
  rw [(request_eq_some_iff isContract userId).mpr plain,
    (request_eq_some_iff isContract other).mpr otherPlain] at same
  simpa using same

/-- For every contract with a parameter the path that the client resolves and
the route of the server agree exactly on the ids that are plain, so that
distinct plain ids address distinct users; and no id at all makes a request
reach the route of another contract. -/
theorem paths_agree_iff_plain :
    ∀ contract name, (contract, name) ∈ userContracts →
      (∀ userId, (∃ params, request contract userId = some (name, params) ∧
          params = [("userId", userId)] ∧
          receivedParams contract params = some userId) ↔ Plain userId) ∧
      (∀ userId other, Plain userId → Plain other →
        request contract userId = request contract other → userId = other) ∧
      ∀ userId selected params,
        request contract userId = some (selected, params) → selected = name := by
  intro contract name isContract
  constructor
  · intro userId
    rw [← request_eq_some_iff isContract userId]
    constructor
    · rintro ⟨params, served, rfl, -⟩
      exact served
    · intro served
      exact ⟨_, served, rfl, receivedParams_userId isContract userId⟩
  constructor
  · intro userId other plain otherPlain same
    exact userId_injective isContract plain otherPlain same
  · intro userId selected params served
    exact route_of_request isContract served

/-- The id of a user that a service generated is plain. -/
theorem paths_agree_on_uuid :
    request getUserContract "0b9b1f4e-8d1c-4b7e-9d52-5f1f3c2b7a10" =
      some (.getUser, [("userId", "0b9b1f4e-8d1c-4b7e-9d52-5f1f3c2b7a10")]) := by
  have agree := paths_agree_iff_plain getUserContract .getUser
    (by simp [userContracts])
  obtain ⟨params, served, rfl, -⟩ :=
    (agree.1 "0b9b1f4e-8d1c-4b7e-9d52-5f1f3c2b7a10").mpr (by decide)
  exact served

/-- An id with a question mark is cut there, so that it addresses the user of
another id. -/
theorem distinct_ids_address_one_user :
    request getUserContract "a?b" = some (.getUser, [("userId", "a")]) ∧
      request getUserContract "a" = some (.getUser, [("userId", "a")]) := by
  have isContract : (getUserContract, RouteName.getUser) ∈ userContracts := by
    simp [userContracts]
  have cutOff : request getUserContract "a?b" = request getUserContract "a" := by
    rw [request_eq isContract, request_eq isContract]
    have same : cut "a?b".toList = cut "a".toList := by decide
    rw [same]
  have own := (request_eq_some_iff isContract "a").mpr (by decide)
  exact ⟨cutOff.trans own, own⟩

/-- The id of a stored user is plain. -/
theorem plain_of_uuid (id : Uuid) : Plain id.text := by
  have absent : ∀ char, char ≠ '-' → (∀ digit, char ≠ Uuid.hexChar digit) →
      char ∉ id.text.toList := by
    intro char notHyphen notDigit member
    obtain hyphen | ⟨digit, isDigit⟩ := Uuid.mem_text member
    · exact notHyphen hyphen
    · exact notDigit digit isDigit
  apply And.intro (absent '?' (by decide) (by decide))
  apply And.intro (absent '#' (by decide) (by decide))
  exact ⟨absent '/' (by decide) (by decide), absent '%' (by decide) (by decide)⟩

/-- Every user that the service has stored is addressed by its own id. -/
theorem request_of_user (isContract : (contract, name) ∈ userContracts)
    (user : User) :
    request contract user.id.text = some (name, [("userId", user.id.text)]) :=
  (request_eq_some_iff isContract user.id.text).mpr (plain_of_uuid user.id)

end Routing

end ServiceTemplate.Users
