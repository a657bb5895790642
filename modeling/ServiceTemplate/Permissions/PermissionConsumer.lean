import ServiceTemplate.Foundations.Machine
import ServiceTemplate.Permissions.Queue
import ServiceTemplate.Users.Application

/-!
# The consumer of permission messages

The consumer parses a message, selects the handler for its type and validates the
message with the schema of that type.  Its permissions are kept beside the users
of the application.  The permissions of a user are those of the last message that
listed the user at a moment at which all the users it lists existed.
-/

namespace ServiceTemplate.Permissions

open ServiceTemplate.Users Schema

/-- The fields that `enrichMessageSchemaWithBase` adds to every message besides its
type and its payload. -/
structure ExternalMessageSchemas where
  CONSUMER_BASE_MESSAGE_SCHEMA : Schema Unit

def enrichMessageSchemaWithBase {Payload : Type} (external : ExternalMessageSchemas)
    (type : String) (payloadSchema : Schema Payload) : Schema Payload :=
  object fun value => do
    external.CONSUMER_BASE_MESSAGE_SCHEMA value
    atField "type" (literal type) value
    atField "payload" payloadSchema value

/-- The payload of both messages. -/
def permissionsPayload : Schema AddedMessage :=
  object fun value => do
    let userIds ← atField "userIds" (array string) value
    let permissions ← atField "permissions" (nonempty (array string)) value
    return ⟨userIds, permissions.val, permissions.property⟩

namespace PermissionsMessages

def added (external : ExternalMessageSchemas) : Schema AddedMessage :=
  enrichMessageSchemaWithBase external "permissions.added" permissionsPayload

def removed (external : ExternalMessageSchemas) : Schema AddedMessage :=
  enrichMessageSchemaWithBase external "permissions.removed" permissionsPayload

end PermissionsMessages

/-- Why a message handler did not settle with a result. -/
inductive HandlerError where
  | user (error : UserError)
  | error (message : String)
  deriving DecidableEq

def removePermissionsHandler (_users : ServiceState) (_service : PermissionsService)
    (_message : AddedMessage) : Except HandlerError (PermissionsService × HandlerResult) :=
  .error (.error "Not implemented yet")

/-- A schema and the handler of the messages it accepts. -/
structure MessageHandlerConfig where
  messageType : String
  schema : Schema AddedMessage
  handler : ServiceState → PermissionsService → AddedMessage →
    Except HandlerError (PermissionsService × HandlerResult)

inductive ErrorReason where
  | invalidMessage
  | handlerError (error : HandlerError)
  deriving DecidableEq

inductive MessageProcessingResult where
  | consumed
  | retryLater
  | error (reason : ErrorReason)
  deriving DecidableEq

namespace PermissionConsumer

section Definitions

variable (external : ExternalMessageSchemas)

def handlers : List MessageHandlerConfig :=
  [⟨"permissions.added", PermissionsMessages.added external,
      fun users service message => (addPermissionsHandler users service message).mapError .user⟩,
    ⟨"permissions.removed", PermissionsMessages.removed external, removePermissionsHandler⟩]

/-- The handler for the type that a message names. -/
def resolveHandler (message : JsonValue) : Option MessageHandlerConfig :=
  match message.field "type" with
  | .string type => (handlers external).find? (·.messageType = type)
  | _ => none

/-- What becomes of a message; its content is missing if it is not JSON. -/
def consume (users : ServiceState) (service : PermissionsService)
    (content : Option JsonValue) : PermissionsService × MessageProcessingResult :=
  match content.bind fun message => (resolveHandler external message).bind fun config =>
      (config.schema message).map fun payload => config.handler users service payload with
  | none => (service, .error .invalidMessage)
  | some (.error error) => (service, .error (.handlerError error))
  | some (.ok (changed, .success)) => (changed, .consumed)
  | some (.ok (changed, .retryLater)) => (changed, .retryLater)

end Definitions

end PermissionConsumer

/-! ## The consumer beside the application -/

structure PermissionsState where
  users : ServiceState
  permissions : PermissionsService

inductive PermissionsInput where
  | app (input : AppInput)
  | message (content : Option JsonValue)

inductive PermissionsAnswer where
  | app (answer : AppAnswer)
  | message (result : MessageProcessingResult)

def permissionsApp (packages : ExternalPackages) (external : ExternalMessageSchemas) :
    Machine PermissionsState PermissionsInput PermissionsAnswer
  | state, .app input =>
      let (users, answer) := app packages state.users input
      ({ state with users }, .app answer)
  | state, .message content =>
      let (permissions, result) :=
        PermissionConsumer.consume external state.users state.permissions content
      ({ state with permissions }, .message result)

/-! ## Messages that take effect -/

namespace AddedMessage

/-- The listed texts name users that exist, and no user twice. -/
def Effective (message : AddedMessage) (table : UserTable) : Prop :=
  match message.userIds.mapM toUuid with
  | .ok ids => ids.Nodup ∧ ∀ id ∈ ids, (table.select id).isSome = true
  | .error _ => False

instance (message : AddedMessage) (table : UserTable) : Decidable (message.Effective table) := by
  unfold Effective
  split <;> infer_instance

/-- The message sets the permissions under the key: the canonical text of a user
that it lists, in whatever spelling. -/
def sets (message : AddedMessage) (key : String) : Bool :=
  (Uuid.parse key).any fun uuid => uuid.text = key ∧ message.lists uuid = true

end AddedMessage

section Handler

variable {users : ServiceState} {service after : PermissionsService} {message : AddedMessage}

/-- The handler succeeds for the effective messages. -/
theorem success_iff_effective :
    (∃ after, addPermissionsHandler users service message = .ok (after, .success)) ↔
      message.Effective users.table := by
  unfold AddedMessage.Effective
  cases read : message.userIds.mapM toUuid with
  | error error =>
      have refused : UserService.getUsers users message.userIds = .error (.storage error) := by
        simp only [UserService.getUsers, UserRepository.getUsers, read]
        rfl
      simp [addPermissionsHandler, refused]
  | ok ids =>
      rw [addPermissionsHandler_of_read read]
      simp only [← length_le_selectIn_iff]
      split
      · next fewer =>
        refine iff_of_false ?_ (Nat.not_le_of_lt fewer)
        rintro ⟨after, same⟩
        cases same
      · next enough => exact iff_of_true ⟨_, rfl⟩ (Nat.le_of_not_lt enough)

theorem not_effective
    {result : Except UserError (PermissionsService × HandlerResult)}
    (handled : addPermissionsHandler users service message = result)
    (unsuccessful : ∀ after, result ≠ .ok (after, .success)) :
    ¬ message.Effective users.table := by
  intro effective
  obtain ⟨after, success⟩ :
      ∃ after, addPermissionsHandler users service message = .ok (after, .success) :=
    success_iff_effective.mpr effective
  exact unsuccessful after (handled.symm.trans success)

theorem mem_map_text_iff_sets {ids : List Uuid} (read : message.userIds.mapM toUuid = .ok ids)
    (key : String) : key ∈ ids.map Uuid.text ↔ message.sets key = true := by
  have listed (uuid : Uuid) : message.lists uuid = true ↔ uuid ∈ ids := by
    have member : some uuid ∈ message.userIds.map Uuid.parse ↔ uuid ∈ ids := by
      rw [mapM_toUuid_eq_ok read, List.mem_map_of_injective fun _ _ => Option.some.inj]
    rw [← member]
    simp [AddedMessage.lists]
  unfold AddedMessage.sets
  constructor
  · intro member
    obtain ⟨uuid, isListed, rfl⟩ := List.mem_map.mp member
    rw [Uuid.parse_text]
    simp [listed, isListed]
  · intro sets
    obtain ⟨uuid, -, canonical⟩ := (Option.any_eq_true _ _).mp sets
    obtain ⟨text, lists⟩ := of_decide_eq_true canonical
    exact List.mem_map.mpr ⟨uuid, (listed uuid).mp lists, text⟩

/-- A success sets the permissions under the keys of the listed users, and under
no others. -/
theorem permissionsOf_eq_of_success
    (success : addPermissionsHandler users service message = .ok (after, .success))
    (key : String) :
    after.permissionsOf key =
      if message.sets key then some message.permissions else service.permissionsOf key := by
  cases read : message.userIds.mapM toUuid with
  | error error =>
      have effective := success_iff_effective.mp ⟨after, success⟩
      simp [AddedMessage.Effective, read] at effective
  | ok ids =>
      rw [permissionsOf_of_success read success]
      simp only [mem_map_text_iff_sets read]

end Handler

/-! ## What the consumer does with a message -/

section Consumer

variable (external : ExternalMessageSchemas)

/-- The message of type `permissions.added` that a content is, if it is one. -/
def addedMessage (content : Option JsonValue) : Option AddedMessage :=
  content.bind (PermissionsMessages.added external)

/-- The permissions that an input gives to the key. -/
def given (key : String) (state : PermissionsState) : PermissionsInput → Option (List String)
  | .app _ => none
  | .message content =>
      (addedMessage external content).bind fun message =>
        if message.Effective state.users.table ∧ message.sets key = true then
          some message.permissions
        else none

variable {external} {users : ServiceState} {service : PermissionsService}

theorem type_of_accepted {Payload : Type} {type : String} {payloadSchema : Schema Payload}
    {message : JsonValue} {payload : Payload}
    (accepted : enrichMessageSchemaWithBase external type payloadSchema message = some payload) :
    message.field "type" = .string type := by
  cases message with
  | object fields =>
      simp only [enrichMessageSchemaWithBase, object, Option.bind_eq_bind,
        Option.bind_eq_some_iff] at accepted
      obtain ⟨_, _, _, named, _⟩ := accepted
      simp only [atField] at named
      cases found : (JsonValue.object fields).field "type" with
      | string text =>
          rw [found] at named
          simp only [literal, Option.ite_none_right_eq_some] at named
          rw [named.1]
      | _ =>
          rw [found] at named
          cases named
  | _ => cases accepted

theorem consume_of_added {content : Option JsonValue} {message : AddedMessage}
    (added : addedMessage external content = some message) :
    PermissionConsumer.consume external users service content =
      match addPermissionsHandler users service message with
      | .error error => (service, .error (.handlerError (.user error)))
      | .ok (changed, .success) => (changed, .consumed)
      | .ok (changed, .retryLater) => (changed, .retryLater) := by
  obtain ⟨parsed, rfl, accepted⟩ := Option.bind_eq_some_iff.mp added
  have type : parsed.field "type" = .string "permissions.added" := type_of_accepted accepted
  have resolved : PermissionConsumer.resolveHandler external parsed =
      (PermissionConsumer.handlers external).head? := by
    simp [PermissionConsumer.resolveHandler, type, PermissionConsumer.handlers]
  simp only [PermissionConsumer.consume, resolved, PermissionConsumer.handlers, Option.bind_some,
    List.head?_cons, accepted, Option.map_some]
  cases addPermissionsHandler users service message with
  | error error => rfl
  | ok result =>
      obtain ⟨changed, outcome⟩ := result
      cases outcome <;> rfl

theorem consume_of_not_added {content : Option JsonValue}
    (notAdded : addedMessage external content = none) :
    ∃ reason, PermissionConsumer.consume external users service content =
      (service, .error reason) := by
  unfold PermissionConsumer.consume
  cases content with
  | none => exact ⟨_, rfl⟩
  | some parsed =>
      simp only [Option.bind_some]
      cases resolved : PermissionConsumer.resolveHandler external parsed with
      | none => exact ⟨_, rfl⟩
      | some config =>
          have isHandler : config ∈ PermissionConsumer.handlers external := by
            unfold PermissionConsumer.resolveHandler at resolved
            split at resolved
            · exact List.mem_of_find?_eq_some resolved
            · cases resolved
          simp only [PermissionConsumer.handlers, List.mem_cons, List.not_mem_nil,
            or_false] at isHandler
          obtain rfl | rfl := isHandler
          · have rejected : PermissionsMessages.added external parsed = none := notAdded
            simp only [Option.bind_some, rejected]
            exact ⟨_, rfl⟩
          · simp only [Option.bind_some]
            cases PermissionsMessages.removed external parsed with
            | none => exact ⟨_, rfl⟩
            | some payload => exact ⟨_, rfl⟩

/-- What the permissions under a key are after one input. -/
theorem permissionsOf_permissionsApp (packages : ExternalPackages)
    (external : ExternalMessageSchemas) (key : String) (state : PermissionsState)
    (input : PermissionsInput) :
    (permissionsApp packages external state input).1.permissions.permissionsOf key =
      (given external key state input).or (state.permissions.permissionsOf key) := by
  cases input with
  | app input => rfl
  | message content =>
      simp only [permissionsApp, given]
      cases added : addedMessage external content with
      | none =>
          obtain ⟨reason, consumed⟩ :=
            @consume_of_not_added external state.users state.permissions content added
          simp only [consumed, Option.bind_none, Option.none_or]
      | some message =>
          rw [consume_of_added added, Option.bind_some]
          cases handled : addPermissionsHandler state.users state.permissions message with
          | error error =>
              have ineffective : ¬ message.Effective state.users.table := by
                apply not_effective handled
                simp
              simp only [ineffective, false_and, if_false, Option.none_or]
          | ok result =>
              obtain ⟨after, outcome⟩ := result
              cases outcome with
              | success =>
                  have effective : message.Effective state.users.table :=
                    success_iff_effective.mp ⟨after, handled⟩
                  simp only [permissionsOf_eq_of_success handled key, effective, true_and]
                  split <;> simp
              | retryLater =>
                  have ineffective : ¬ message.Effective state.users.table := by
                    apply not_effective handled
                    simp
                  simp only [eq_of_retryLater handled, ineffective, false_and, if_false,
                    Option.none_or]

end Consumer

/-- The permissions under a key are those of the last message that took effect for
it.  Requests, jobs, removals, messages that are invalid, and messages that list a
user twice, or one that does not exist at the time, change nothing; nor does the
deletion of a user. -/
theorem permissions_iff_givenLast (packages : ExternalPackages)
    (external : ExternalMessageSchemas) (users : ServiceState)
    (inputs : List PermissionsInput) (key : String) (held : List String) :
    ((permissionsApp packages external).final ⟨users, PermissionsService.empty⟩
        inputs).permissions.permissionsOf key = some held ↔
      (permissionsApp packages external).WrittenLast (given external key)
        ⟨users, PermissionsService.empty⟩ inputs held := by
  refine (Machine.observe_final_eq_some_iff
    (fun state : PermissionsState => state.permissions.permissionsOf key)
    (permissionsOf_permissionsApp packages external key)).trans ?_
  constructor
  · rintro (last | ⟨-, heldBefore⟩)
    · exact last
    · cases heldBefore
  · exact .inl

end ServiceTemplate.Permissions
