import ServiceTemplate.Foundations.Run
import ServiceTemplate.Users.Schemas

/-!
# Every stored user can be served

A row is served if its email is one.  Both routes that write an email validate
it; the import job asks for any string.
-/

namespace ServiceTemplate.Users

/-- A write through one of the entry points of the service, with what it is
given before any validation. -/
inductive WriteRequest where
  | createUser (generated : Uuid) (body : JsonValue)
  | updateUser (params body : JsonValue)
  | importUser (generated : Uuid) (payload : JsonValue)

section Requests

variable (external : ExternalSchemas)

/-- Requests and payloads that are not accepted write nothing. -/
def WriteRequest.perform (state : ServiceState) : WriteRequest → Option ServiceState
  | .createUser generated body =>
      match CREATE_USER_BODY_SCHEMA external body with
      | some user => some (UserService.createUser state generated user).1
      | none => some state
  | .updateUser params body =>
      match UPDATE_USER_PARAMS_SCHEMA params, UPDATE_USER_BODY_SCHEMA external body with
      | some userId, some updatedData =>
          some (UserService.updateUser state userId updatedData).1
      | _, _ => some state
  | .importUser generated payload =>
      match USER_IMPORT_JOB_PAYLOAD external payload with
      | some user => some (UserService.createUser state generated user).1
      | none => some state

/-- Every row satisfies the schema of a user, and the responses that are built
from rows are accepted. -/
structure Servable (state : ServiceState) : Prop where
  rows : ∀ user ∈ state.table.rows,
    (USER_SCHEMA external .decode user.toJson).isSome = true
  getUser : ∀ user ∈ state.table.rows,
    (GET_USER_SCHEMA_RESPONSE_SCHEMA external .decode (getUserResponse user)).isSome = true
  getUsersByIds : ∀ ids, (GET_USERS_BY_IDS_RESPONSE_SCHEMA external .decode
    (getUsersByIdsResponse (state.table.selectIn ids))).isSome = true

/-- An import that is stored has an email that the routes would accept. -/
def ImportsEmail (state : ServiceState) (request : WriteRequest) : Prop :=
  ∀ generated payload user stored, request = .importUser generated payload →
    USER_IMPORT_JOB_PAYLOAD external payload = some user →
    UserRepository.createUser state.table generated user.toNewUser = .ok stored →
    external.isEmail user.email = true

end Requests

section Serving

variable {external : ExternalSchemas} {state : ServiceState}

/-- All rows are served if and only if each of them has an email. -/
theorem servable_iff (leavesNumbers : external.LeavesNumbers) :
    Servable external state ↔
      ∀ user ∈ state.table.rows, external.isEmail user.email.text = true := by
  constructor
  · intro servable user member
    exact (user_schema_isSome_iff leavesNumbers user).mp (servable.rows user member)
  · intro emails
    have accepted : ∀ user ∈ state.table.rows,
        (USER_SCHEMA external .decode user.toJson).isSome = true :=
      fun user member => (user_schema_isSome_iff leavesNumbers user).mpr (emails user member)
    refine ⟨accepted, accepted, fun ids => ?_⟩
    refine Schema.array_isSome fun element member => ?_
    obtain ⟨user, selected, rfl⟩ := List.mem_map.mp member
    exact accepted user (List.mem_of_mem_filter selected)

theorem emails_createUser {generated : Uuid} {user : UserCreateDTO}
    (emails : ∀ row ∈ state.table.rows, external.isEmail row.email.text = true)
    (isEmail : ∀ stored, UserRepository.createUser state.table generated user.toNewUser =
      .ok stored → external.isEmail user.email = true) :
    ∀ row ∈ (UserService.createUser state generated user).1.table.rows,
      external.isEmail row.email.text = true := by
  unfold UserService.createUser
  split
  · exact emails
  · next table newUser created =>
    obtain ⟨-, email, inserted⟩ := UserRepository.createUser_eq_ok created
    obtain ⟨rows, -⟩ := UserTable.insert_eq_ok inserted
    intro row member
    simp only [rows, List.mem_cons] at member
    rcases member with rfl | earlier
    · rw [email]; exact isEmail _ created
    · exact emails row earlier

theorem emails_updateUser {userId : String} {updatedData : UserUpdateDTO}
    (emails : ∀ row ∈ state.table.rows, external.isEmail row.email.text = true)
    (isEmail : ∀ email, updatedData.email = some email → external.isEmail email = true) :
    ∀ row ∈ (UserService.updateUser state userId updatedData).1.table.rows,
      external.isEmail row.email.text = true := by
  unfold UserService.updateUser
  split
  · exact emails
  · next table updated done =>
    obtain ⟨uuid, assignment, -, email, stored⟩ := UserRepository.updateUser_eq_ok done
    intro row member
    simp only [UserTable.update_eq_ok stored, UserTable.updatedRows, List.mem_map] at member
    obtain ⟨before, present, rfl⟩ := member
    split
    · cases sets : assignment.email with
      | none =>
          simp only [UserTable.Assignment.apply, sets, Option.getD_none]
          exact emails before present
      | some value =>
          simp only [UserTable.Assignment.apply, sets, Option.getD_some]
          exact isEmail _ (by simpa [sets, UserUpdateDTO.toUpdatedUser] using email.symm)
    · exact emails before present

/-- One write keeps every row servable, if it meets the condition. -/
theorem Servable.perform (leavesNumbers : external.LeavesNumbers)
    (servable : Servable external state) {request : WriteRequest} {next : ServiceState}
    (steps : request.perform external state = some next)
    (imports : ImportsEmail external state request) : Servable external next := by
  rw [servable_iff leavesNumbers] at servable ⊢
  cases request with
  | createUser generated body =>
      simp only [WriteRequest.perform] at steps
      split at steps <;> cases steps
      · next user accepted =>
        exact emails_createUser servable fun _ _ => isEmail_of_create_user_body accepted
      · exact servable
  | updateUser params body =>
      simp only [WriteRequest.perform] at steps
      split at steps <;> cases steps
      · next userId updatedData _ accepted =>
        exact emails_updateUser servable fun email sets =>
          isEmail_of_update_user_body accepted sets
      · exact servable
  | importUser generated payload =>
      simp only [WriteRequest.perform] at steps
      split at steps <;> cases steps
      · next user accepted =>
        exact emails_createUser servable fun stored created =>
          imports generated payload user stored rfl accepted created
      · exact servable

def emptyService : ServiceState := ⟨UserTable.empty, LayeredCache.empty⟩

/-- Schemas that tell an email by its `@`, and leave all values as they are.  A
job payload carries the correlation of the request it comes from. -/
def sampleSchemas : ExternalSchemas where
  toNumberPreprocessor value := value
  isEmail text := decide ('@' ∈ text.toList)
  BASE_JOB_PAYLOAD_SCHEMA value :=
    (Schema.object (Schema.atField "metadata"
      (Schema.object (Schema.atField "correlationId" Schema.string))) value).map fun _ => ()

/-- A payload of the import job with the given email. -/
def samplePayload (email : String) : JsonValue :=
  .object
    [("metadata", .object [("correlationId", .string "dummy")]),
      ("name", .string "Ada"), ("age", .number 36), ("email", .string email)]

end Serving

end ServiceTemplate.Users
