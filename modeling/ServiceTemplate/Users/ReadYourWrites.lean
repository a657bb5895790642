import ServiceTemplate.Users.Requests

/-!
# Readers see what was written

A successful write removes one text of the identifier from the cache.  From then
on, and until the row is written again, a reader who uses that text is answered
with the row of the table, however many other requests, imports and losses of
cached entries come in between.  Readers who use another text of the identifier
are promised nothing.
-/

namespace ServiceTemplate.Users

open Url LayeredCache

section Settled

/-- The table holds what was found for the row, and so does the cache under the
text. -/
structure Settled (uuid : Uuid) (text : String) (found : Option User)
    (state : ServiceState) : Prop where
  named : Uuid.parse text = some uuid
  row : state.table.select uuid = found
  coherent : CoherentAt (UserRepository.getUser state.table) state.cache text

variable {external : ExternalPackages} {state next : ServiceState}
variable {uuid : Uuid} {text : String} {found : Option User}

/-- What does not write the row keeps it settled. -/
theorem Settled.moves (settled : Settled uuid text found state) {row : Option Uuid}
    (untouched : row ≠ some uuid) (moves : Moves state row next) :
    Settled uuid text found next := by
  obtain ⟨named, held, coherent⟩ := settled
  cases moves with
  | stays => exact ⟨named, held, coherent⟩
  | reads key => exact ⟨named, held, coherent.get key⟩
  | writes other key table writes parsed others =>
      have different : uuid ≠ other := by
        rintro rfl
        exact untouched writes
      have same : table.select uuid = state.table.select uuid := others uuid different
      refine ⟨named, same.trans held, CoherentAt.invalidate (coherent.congr ?_) key⟩
      rw [UserRepository.getUser_of_parse named, UserRepository.getUser_of_parse named, same]
  | evictsMemory key => exact ⟨named, held, coherent.evictMemory key⟩
  | evictsRedis key => exact ⟨named, held, coherent.evictRemote key⟩

theorem Settled.final (settled : Settled uuid text found state) {inputs : List AppInput}
    (untouched : ∀ input ∈ inputs, input.row external ≠ some uuid) :
    Settled uuid text found ((app external).final state inputs) := by
  apply Machine.final_invariant _ settled untouched
  intro reached input settled permitted
  exact settled.moves permitted (app_moves input)

/-- Right after the removal of its text the row is settled. -/
theorem settled_invalidate {table : UserTable} (named : Uuid.parse text = some uuid)
    (held : table.select uuid = found) :
    Settled uuid text found ⟨table, state.cache.invalidate text⟩ :=
  ⟨named, held, coherentAt_invalidate _ _ _⟩

theorem Settled.load (settled : Settled uuid text found state) :
    (UserService.load state text).2 = .ok found := by
  rw [UserService.load_eq_get]
  have answered := settled.coherent.get_answer
  rw [UserRepository.getUser_of_parse settled.named, settled.row] at answered
  exact answered

end Settled

section Replies

variable {external : ExternalPackages}

/-- What a reader is sent. -/
def foundReply (schemas : ExternalSchemas) (userId : String) :
    Option UserDTO → Except RequestError Reply
  | some user => userReply schemas 200 user
  | none => .error (.service (.entityNotFound "User not found" userId))

theorem respond_loaded (schemas : ExternalSchemas) (userId : String)
    (loaded : Option User) :
    (ServiceCall.getUser userId).respond schemas
        ((UserService.foundOrError userId (.ok loaded)).map fun user =>
          ⟨200, .object [("data", user.toJson)]⟩) =
      foundReply schemas userId (loaded.map User.toDTO) := by
  cases loaded with
  | none => rfl
  | some user => exact serialize_user (UserController.contracts.getUser schemas) 200 rfl user

theorem Settled.read {uuid : Uuid} {text : String} {found : Option User}
    {state : ServiceState} (settled : Settled uuid text found state)
    {request : HttpRequest}
    (reads : request.action external = .ok (.call (.getUser text))) :
    (app external state (.http request)).2 =
      some (foundReply external.toExternalSchemas text (found.map User.toDTO)) := by
  have answered := respond_loaded external.toExternalSchemas text found
  rw [← settled.load] at answered
  show some (handleRequest external state request).2 = _
  rw [handleRequest_eq_answered, reads, ← answered]
  rfl

end Replies

/-! ## The three writes -/

section Writes

variable {external : ExternalPackages} {state : ServiceState} {request : HttpRequest}

/-- A row after an update through the API. -/
def User.updated (user : User) (updatedData : UserUpdateDTO) : UserDTO :=
  { user.toDTO with
    name := updatedData.name.getD user.name.text
    email := updatedData.email.getD user.email.text }

/-- A creation that the service does not refuse has stored its row, even if the
row cannot be sent. -/
theorem created_settled {user : UserCreateDTO}
    (calls : request.action external = .ok (.call (.createUser user))) :
    (∃ error, (app external state (.http request)).2 = some (.error (.service error))) ∨
      ∃ row : User,
        (app external state (.http request)).2 =
          some (userReply external.toExternalSchemas 201 row.toDTO) ∧
        Settled request.generated request.generated.text (some row)
          (app external state (.http request)).1 := by
  show (∃ error, some (handleRequest external state request).2 = _) ∨
    ∃ row : User, some (handleRequest external state request).2 = _ ∧
      Settled _ _ _ (handleRequest external state request).1
  rw [handleRequest_eq_answered, calls]
  simp only [HttpRequest.answered, ServiceCall.handle, UserController.createUser,
    UserService.createUser]
  split
  · next error refused => exact .inl ⟨.storage error, rfl⟩
  · next table row stored =>
    obtain ⟨isNew, -, inserted⟩ := UserRepository.createUser_eq_ok stored
    refine .inr ⟨row, ?_, ?_⟩
    · exact congrArg some (serialize_user
        (UserController.contracts.createUser external.toExternalSchemas) 201 rfl row)
    · rw [← isNew]
      apply settled_invalidate (Uuid.parse_text _)
      rw [UserTable.select_insert inserted, if_pos rfl]

theorem deleted_settled {userId : String} {reply : Reply}
    (calls : request.action external = .ok (.call (.deleteUser userId)))
    (deleted : (app external state (.http request)).2 = some (.ok reply)) :
    ∃ uuid, Uuid.parse userId = some uuid ∧
      Settled uuid userId none (app external state (.http request)).1 := by
  have answered := Option.some.inj deleted
  change (handleRequest external state request).2 = _ at answered
  show ∃ uuid, _ ∧ Settled _ _ _ (handleRequest external state request).1
  rw [handleRequest_eq_answered, calls] at answered ⊢
  simp only [HttpRequest.answered, ServiceCall.handle, UserController.deleteUser,
    UserService.deleteUser] at answered ⊢
  split at answered
  · cases answered
  · next table row done =>
    obtain ⟨uuid, parsed, rfl⟩ := UserRepository.deleteUser_eq_ok done
    refine ⟨uuid, parsed, settled_invalidate parsed ?_⟩
    rw [UserTable.select_delete, if_pos rfl]

theorem updateUser_assignment {table next : UserTable} {userId : String}
    {updatedData : UserUpdateDTO} {updated : Option User}
    (done : UserRepository.updateUser table userId updatedData.toUpdatedUser =
      .ok (next, updated)) :
    ∃ uuid assignment, Uuid.parse userId = some uuid ∧
      table.update uuid assignment = .ok next ∧
      ∀ user : User, (assignment.apply user).toDTO = user.updated updatedData := by
  unfold UserRepository.updateUser at done
  split at done
  · cases done
  · obtain ⟨uuid, parsed, done⟩ := bind_eq_ok.mp done
    obtain ⟨age, noAge, done⟩ := bind_eq_ok.mp done
    obtain ⟨email, emailFits, done⟩ := bind_eq_ok.mp done
    obtain ⟨name, nameFits, done⟩ := bind_eq_ok.mp done
    obtain ⟨after, stored, done⟩ := bind_eq_ok.mp done
    cases done
    cases noAge
    have emails : email.map Varchar.text = updatedData.email :=
      UserRepository.convertOptional_toVarchar_eq_ok emailFits
    have names : name.map Varchar.text = updatedData.name :=
      UserRepository.convertOptional_toVarchar_eq_ok nameFits
    refine ⟨uuid, _, UserRepository.toUuid_eq_ok.mp parsed, stored, fun user => ?_⟩
    simp only [User.updated, User.toDTO, UserTable.Assignment.apply, ← emails, ← names]
    cases email <;> cases name <;> rfl

theorem updated_settled {userId : String} {updatedData : UserUpdateDTO} {reply : Reply}
    (calls : request.action external = .ok (.call (.updateUser userId updatedData)))
    (updated : (app external state (.http request)).2 = some (.ok reply)) :
    ∃ uuid found, Uuid.parse userId = some uuid ∧
      Settled uuid userId found (app external state (.http request)).1 ∧
      found.map User.toDTO =
        (state.table.select uuid).map fun user => user.updated updatedData := by
  have answered := Option.some.inj updated
  change (handleRequest external state request).2 = _ at answered
  show ∃ uuid found, _ ∧ Settled _ _ _ (handleRequest external state request).1 ∧ _
  rw [handleRequest_eq_answered, calls] at answered ⊢
  simp only [HttpRequest.answered, ServiceCall.handle, UserController.updateUser,
    UserService.updateUser] at answered ⊢
  split at answered
  · cases answered
  · next table row done =>
    obtain ⟨uuid, assignment, parsed, stored, rows⟩ := updateUser_assignment done
    refine ⟨uuid, _, parsed, settled_invalidate parsed rfl, ?_⟩
    rw [UserTable.select_update stored, if_pos rfl, Option.map_map]
    congr 1
    exact funext rows

end Writes

/-- Readers see what was written.  Let a request write a user with success, from
any state of the table and of the cache, and let any requests, imports and losses
of cached entries follow that do not write the same row.  After a creation,
whoever asks for the user by the printed identifier is sent the very user that the
creation was answered with, or fails like the creation if the user cannot be sent;
after a deletion, whoever asks by the text that was used is told that there is no
such user; after an update, whoever asks by the text that was used is sent the row
of before with the new name and email, if there was one and it can be sent. -/
theorem read_your_writes (external : ExternalPackages) (state : ServiceState)
    (write : HttpRequest) (later : List AppInput) :
    let written := app external state (.http write)
    let reached := (app external).final written.1 later
    (∀ user, write.action external = .ok (.call (.createUser user)) →
      (∀ input ∈ later, input.row external ≠ some write.generated) →
      ∀ read, Asks write.generated read →
        (∀ dto, written.2 = some (.ok ⟨201, .user dto⟩) →
          (app external reached (.http read)).2 = some (.ok ⟨200, .user dto⟩)) ∧
        (written.2 = some (.error .invalidResponse) →
          (app external reached (.http read)).2 = some (.error .invalidResponse))) ∧
    (∀ userId reply, write.action external = .ok (.call (.deleteUser userId)) →
      written.2 = some (.ok reply) →
      (∀ input ∈ later, input.row external ≠ Uuid.parse userId) →
      ∀ read : HttpRequest, read.action external = .ok (.call (.getUser userId)) →
        (app external reached (.http read)).2 =
          some (.error (.service (.entityNotFound "User not found" userId)))) ∧
    ∀ userId updatedData reply,
      write.action external = .ok (.call (.updateUser userId updatedData)) →
      written.2 = some (.ok reply) →
      (∀ input ∈ later, input.row external ≠ Uuid.parse userId) →
      ∀ read : HttpRequest, read.action external = .ok (.call (.getUser userId)) →
        (app external reached (.http read)).2 =
          some (foundReply external.toExternalSchemas userId
            (((Uuid.parse userId).bind state.table.select).map
              fun user => user.updated updatedData)) := by
  refine ⟨?_, ?_, ?_⟩
  · intro user calls untouched read asks
    obtain ⟨error, refused⟩ | ⟨row, replied, settled⟩ := created_settled calls
    · constructor
      · intro dto created
        rw [refused] at created
        cases created
      · intro invalid
        rw [refused] at invalid
        cases invalid
    · have asked : read.action external = _ := asks.action
      rw [(settled.final untouched).read asked, replied]
      unfold foundReply userReply
      dsimp only [Option.map_some]
      split
      · exact ⟨fun dto created => by cases created; rfl, fun invalid => by cases invalid⟩
      · exact ⟨fun dto created => by (cases created), fun _ => rfl⟩
  · intro userId reply calls deleted untouched read reads
    obtain ⟨uuid, parsed, settled⟩ := deleted_settled calls deleted
    rw [parsed] at untouched
    exact (settled.final untouched).read reads
  · intro userId updatedData reply calls updated untouched read reads
    obtain ⟨uuid, found, parsed, settled, rows⟩ := updated_settled calls updated
    rw [parsed] at untouched ⊢
    rw [Option.bind_some, ← rows]
    exact (settled.final untouched).read reads

def renameAda : HttpRequest :=
  sampleRequest .patch ("/users/" ++ sampleId.text) (.object [("name", .string "Eve")])

theorem renameAda_action :
    renameAda.action samplePackages =
      .ok (.call (.updateUser sampleId.text ⟨some "Eve", none⟩)) := by
  have isContract : (patchUpdateUserContract, RouteName.updateUser) ∈ userContracts := by
    simp [userContracts]
  rw [action_user isContract rfl rfl rfl]
  rfl

theorem renameAda_answer :
    (app samplePackages ⟨sampleTable, LayeredCache.empty⟩ (.http renameAda)).2 =
      some (.ok ⟨204, .noBody⟩) := by
  rw [app_http, handleRequest_eq_answered, renameAda_action]
  rfl

/-- A user who has been created is read, and a user is read after an update. -/
theorem read_your_writes_sample :
    (app samplePackages
        ((app samplePackages).final (app samplePackages emptyService (.http createAda)).1
          [.http askForAda, .evictMemory sampleId.text]) (.http askForAda)).2 =
      some (.ok ⟨200, .user ⟨sampleId.text, "Ada", some none, "ada@example.com"⟩⟩) ∧
    (app samplePackages
        ((app samplePackages).final
          (app samplePackages ⟨sampleTable, LayeredCache.empty⟩ (.http renameAda)).1
          [.http askForAda, .evictMemory sampleId.text]) (.http askForAda)).2 =
      some (.ok ⟨200, .user ⟨sampleId.text, "Eve", some none, "ada@example.com"⟩⟩) := by
  have untouched : ∀ input ∈ [AppInput.http askForAda, .evictMemory sampleId.text],
      input.row samplePackages = none := by
    intro input member
    simp only [List.mem_cons, List.not_mem_nil, or_false] at member
    obtain rfl | rfl := member
    · simp [AppInput.row, askForAda_asks.action, ServiceCall.row]
    · simp [AppInput.row]
  constructor
  · refine ((read_your_writes samplePackages emptyService createAda
      [.http askForAda, .evictMemory sampleId.text]).1
      ⟨"Ada", none, "ada@example.com"⟩ rfl ?_ askForAda askForAda_asks).1 _ rfl
    intro input member
    rw [untouched input member]
    exact Option.some_ne_none _ ∘ Eq.symm
  · refine ((read_your_writes samplePackages ⟨sampleTable, LayeredCache.empty⟩ renameAda
      [.http askForAda, .evictMemory sampleId.text]).2.2
      sampleId.text ⟨some "Eve", none⟩ ⟨204, .noBody⟩ renameAda_action renameAda_answer ?_
      askForAda askForAda_asks.action).trans ?_
    · intro input member
      rw [untouched input member, Uuid.parse_text]
      exact Option.some_ne_none _ ∘ Eq.symm
    · rw [Uuid.parse_text]
      rfl

end ServiceTemplate.Users
