import ServiceTemplate.Foundations.Machine
import ServiceTemplate.Users.UserController

/-!
# The application

A request selects a route, passes the hook that verifies its token unless the
route is on the skip list, and is handled.  Besides, jobs import users and
entries of the cache are lost.  A request whose token is not verified does not
reach the users, whatever its target: the skip list is consulted with the
pattern of the selected route.
-/

namespace ServiceTemplate.Users

open Url

section Definitions

inductive AppRoute where
  | live
  | plugin
  | users (name : RouteName)
  deriving DecidableEq

/-- The first segment of a path is fixed, and not that of the paths of users. -/
def elsewhere (path : String) : Bool :=
  match pattern path with
  | .literal [] :: .literal first :: _ => first ≠ "users".toList
  | _ => false

/-- What the application takes from other packages: schemas, and plugins that
serve routes of their own, for the documentation, the icon and the health
checks. -/
structure ExternalPackages extends ExternalSchemas where
  pluginRoutes : List (Method × String)
  pluginsElsewhere : ∀ route ∈ pluginRoutes, elsewhere route.2 = true

/-- The routes of the plugins, `GET /live` and the routes of the controller. -/
def appRoutes (external : ExternalPackages) : List (Route Method AppRoute) :=
  (external.pluginRoutes.map fun route => ⟨route.1, route.2, .plugin⟩) ++
    ⟨.get, "/live", .live⟩ ::
      routes.map fun route => ⟨route.method, route.url, .users route.handler⟩

/-- The route that a request selects, and the parameters it is given. -/
def selectedRoute (external : ExternalPackages) (method : Method) (url : String) :
    Option (Route Method AppRoute × List (String × String)) :=
  dispatch ((appRoutes external).map fun route => ⟨route.method, route.url, route⟩)
    method url

/-- The skip list that `app.ts` gives to the plugin. -/
def skipList : List String :=
  ["/favicon.ico", "/documentation", "/documentation/", "/documentation/openapi.json",
    "/documentation/js/scalar.js", "/", "/health", "/live", "/metrics"]

/-- The `onRequest` hook.  The url of the route is undefined if no route was
selected. -/
def jwtTokenPlugin (skipList : List String) (routeUrl : Option String)
    (jwtVerify : Except String Unit) : Except RequestError Unit :=
  if routeUrl.any fun url => url ≠ "" ∧ url ∈ skipList then .ok ()
  else
    match jwtVerify with
    | .ok _ => .ok ()
    | .error message => .error (.unauthorized message)

/-- The handler of `GET /live`. -/
def liveReply : Reply :=
  ⟨200, .raw (.object [("status", .string "OK")])⟩

inductive AppInput where
  | http (request : HttpRequest)
  | importUser (generated : Uuid) (payload : JsonValue)
  | evictMemory (key : String)
  | evictRedis (key : String)

/-- What an input is answered; only requests are answered. -/
abbrev AppAnswer : Type := Option (Except RequestError Reply)

variable (external : ExternalPackages)

/-- What the selected route answers. -/
def handleRoute (state : ServiceState) (request : HttpRequest) :
    Option (Route Method AppRoute × List (String × String)) →
      ServiceState × Except RequestError Reply
  | none => (state, .error .routeNotFound)
  | some (route, params) =>
      match route.handler with
      | .live => (state, .ok liveReply)
      | .plugin => (state, .ok request.pluginReply)
      | .users name =>
          UserController.handle state external.toExternalSchemas params request name

/-- The router refuses a malformed url before any hook runs. -/
def handleRequest (state : ServiceState) (request : HttpRequest) :
    ServiceState × Except RequestError Reply :=
  if WellFormed request.url then
    let selected := selectedRoute external request.method request.url
    match jwtTokenPlugin skipList (selected.map (·.1.url)) request.jwtVerify with
    | .error error => (state, .error error)
    | .ok _ => handleRoute external state request selected
  else (state, .error (.badUrl request.url))

/-- `UserImportJob.process`; a payload that is not accepted is not processed. -/
def UserImportJob.process (state : ServiceState) (generated : Uuid) (payload : JsonValue) :
    ServiceState :=
  match USER_IMPORT_JOB_PAYLOAD external.toExternalSchemas payload with
  | some user => (UserService.createUser state generated user).1
  | none => state

def app : Machine ServiceState AppInput AppAnswer
  | state, .http request =>
      let (next, answer) := handleRequest external state request
      (next, some answer)
  | state, .importUser generated payload =>
      (UserImportJob.process external state generated payload, none)
  | state, .evictMemory key => ({ state with cache := state.cache.evictMemory key }, none)
  | state, .evictRedis key => ({ state with cache := state.cache.evictRemote key }, none)

theorem app_http (state : ServiceState) (request : HttpRequest) :
    app external state (.http request) =
      ((handleRequest external state request).1,
        some (handleRequest external state request).2) := rfl

end Definitions

/-! ## Routes and the skip list -/

section Authorization

variable {external : ExternalPackages} {request : HttpRequest}

/-- The route of a request is one of the routes of the app. -/
theorem mem_of_selectedRoute {method : Method} {url : String}
    {route : Route Method AppRoute} {params : List (String × String)}
    (selected : selectedRoute external method url = some (route, params)) :
    route ∈ appRoutes external := by
  obtain ⟨entry, member, found⟩ := List.exists_of_findSome?_eq_some selected
  obtain ⟨original, isRoute, rfl⟩ := List.mem_map.mp member
  split at found
  · obtain ⟨given, -, same⟩ := Option.map_eq_some_iff.mp found
    cases same
    exact isRoute
  · cases found

/-- The answers to a request without a verified token. -/
inductive PublicAnswer (external : ExternalPackages) (request : HttpRequest)
    (message : String) : Except RequestError Reply → Prop where
  | badUrl (malformed : ¬ WellFormed request.url) :
      PublicAnswer external request message (.error (.badUrl request.url))
  | unauthorized : PublicAnswer external request message (.error (.unauthorized message))
  | live {params : List (String × String)}
      (selected : selectedRoute external request.method request.url =
        some (⟨.get, "/live", .live⟩, params)) :
      PublicAnswer external request message (.ok liveReply)
  | plugin {method : Method} {url : String} {params : List (String × String)}
      (selected : selectedRoute external request.method request.url =
        some (⟨method, url, .plugin⟩, params))
      (registered : (method, url) ∈ external.pluginRoutes) (skipped : url ∈ skipList) :
      PublicAnswer external request message (.ok request.pluginReply)

/-- A route on the skip list that a request selects. -/
theorem publicAnswer_of_skipped {route : Route Method AppRoute}
    {params : List (String × String)} (message : String)
    (selected : selectedRoute external request.method request.url = some (route, params))
    (skipped : route.url ∈ skipList) :
    ∃ answer, PublicAnswer external request message answer ∧
      ∀ state, handleRoute external state request (some (route, params)) =
        (state, answer) := by
  rcases List.mem_append.mp (mem_of_selectedRoute selected) with registered | own
  · obtain ⟨⟨method, url⟩, registration, rfl⟩ := List.mem_map.mp registered
    exact ⟨_, .plugin selected registration skipped, fun state => rfl⟩
  · simp only [routes, List.map_cons, List.map_nil, List.mem_cons, List.not_mem_nil,
      or_false] at own
    -- no route of the controller is on the skip list
    obtain rfl | rfl | rfl | rfl | rfl | rfl := own
    · exact ⟨_, .live selected, fun state => rfl⟩
    all_goals exact absurd skipped (by decide)

/-- Without a verified token a request is answered without regard to the state. -/
theorem handleRequest_unverified (external : ExternalPackages) {message : String}
    (unverified : request.jwtVerify = .error message) :
    ∃ answer, PublicAnswer external request message answer ∧
      ∀ state, handleRequest external state request = (state, answer) := by
  unfold handleRequest jwtTokenPlugin
  by_cases wellFormed : WellFormed request.url
  · simp only [if_pos wellFormed, unverified]
    cases selected : selectedRoute external request.method request.url with
    | none => exact ⟨_, .unauthorized, fun state => rfl⟩
    | some found =>
        obtain ⟨route, params⟩ := found
        by_cases skipped : route.url ≠ "" ∧ route.url ∈ skipList
        · obtain ⟨answer, isPublic, handled⟩ :=
            publicAnswer_of_skipped message selected skipped.2
          refine ⟨answer, isPublic, fun state => ?_⟩
          simp [skipped, handled]
        · refine ⟨_, .unauthorized, fun state => ?_⟩
          simp [skipped]
  · simp only [if_neg wellFormed]
    exact ⟨_, .badUrl wellFormed, fun state => rfl⟩

/-- The inputs other than requests without a verified token. -/
def AppInput.trusted : AppInput → Bool
  | .http request => request.jwtVerify.toBool
  | _ => true

theorem app_untrusted (external : ExternalPackages) {state : ServiceState}
    {input : AppInput} (untrusted : input.trusted = false) :
    (app external state input).1 = state := by
  cases input with
  | http request =>
      cases verified : request.jwtVerify with
      | ok _ => simp [AppInput.trusted, verified, Except.toBool] at untrusted
      | error message =>
          obtain ⟨answer, -, handled⟩ := handleRequest_unverified external verified
          simp [app, handled state]
  | _ => cases untrusted

end Authorization

/-- Requests without a verified token are invisible.  Whatever they ask for and
whenever they arrive, the state at the end and the answers to all other inputs
are those of the run without them; and each of them is answered in the same way
in every state: by a refusal, or by `GET /live` or a plugin whose route is on the
skip list. -/
theorem unverified_requests_invisible (external : ExternalPackages) (state : ServiceState)
    (inputs : List AppInput) :
    (app external).final state (inputs.filter AppInput.trusted) =
        (app external).final state inputs ∧
      (app external).transcript state (inputs.filter AppInput.trusted) =
        ((app external).transcript state inputs).filter (fun entry => entry.1.trusted) ∧
      ∀ request message, request.jwtVerify = .error message →
        ∃ answer, PublicAnswer external request message answer ∧
          ∀ reached, app external reached (.http request) = (reached, some answer) := by
  constructor
  · apply Machine.final_filter
    exact fun reached input untrusted => app_untrusted external untrusted
  constructor
  · apply Machine.transcript_filter
    exact fun reached input untrusted => app_untrusted external untrusted
  · intro request message unverified
    obtain ⟨answer, isPublic, handled⟩ :=
      handleRequest_unverified external unverified
    refine ⟨answer, isPublic, fun reached => ?_⟩
    simp [app, handled reached]

end ServiceTemplate.Users
