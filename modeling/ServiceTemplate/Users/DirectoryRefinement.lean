import ServiceTemplate.Users.CacheRefinement
import ServiceTemplate.Users.Directory

/-!
# The application refines the directory

A state represents the directory of its table if its cache is coherent and holds
canonical texts only.  Every call answers like the command it stands for and
goes on to a state that represents the directory after the command.
-/

namespace ServiceTemplate.Users

open LayeredCache

/-! ## The command of a call -/

section Commands

variable {table : UserTable}

/-- A creation is refused for its values, or it inserts a row. -/
theorem createUser_command (table : UserTable) (generated : Uuid) (user : UserCreateDTO) :
    (∃ error, (ServiceCall.createUser user).command generated = .error error ∧
        UserRepository.createUser table generated user.toNewUser = .error error) ∨
      ∃ row : User, row.id = generated ∧
        (ServiceCall.createUser user).command generated =
          .ok (.enter row.id row.profile) ∧
        UserRepository.createUser table generated user.toNewUser =
          (table.insert row).map fun next => (next, row) := by
  have given : convertOptional toVarchar (some user.name) = (toVarchar user.name).map some :=
    rfl
  simp only [ServiceCall.command, UserRepository.createUser, UserCreateDTO.toNewUser, given]
  cases convertOptional toInt4 user.age.join with
  | error error => exact .inl ⟨error, rfl, rfl⟩
  | ok age =>
      cases toVarchar user.email with
      | error error => exact .inl ⟨error, rfl, rfl⟩
      | ok email =>
          cases toVarchar user.name with
          | error error => exact .inl ⟨error, rfl, rfl⟩
          | ok name =>
              refine .inr ⟨⟨generated, age, email, name⟩, rfl, rfl, ?_⟩
              show (do
                let inserted ← table.insert ⟨generated, age, email, name⟩
                return (inserted, _)) = _
              cases table.insert ⟨generated, age, email, name⟩ <;> rfl

/-- An update is refused for its values, or it updates a row. -/
theorem updateUser_command (table : UserTable) (generated : Uuid) (userId : String)
    (updatedData : UserUpdateDTO) :
    (∃ error, (ServiceCall.updateUser userId updatedData).command generated = .error error ∧
        UserRepository.updateUser table userId updatedData.toUpdatedUser = .error error) ∨
      ∃ uuid assignment, Uuid.parse userId = some uuid ∧
        (ServiceCall.updateUser userId updatedData).command generated =
          .ok (.amend uuid assignment) ∧
        UserRepository.updateUser table userId updatedData.toUpdatedUser =
          (table.update uuid assignment).map fun next => (next, next.select uuid) := by
  have noAge : convertOptional toInt4 none = .ok none := rfl
  simp only [ServiceCall.command, UserRepository.updateUser, UserUpdateDTO.toUpdatedUser,
    noAge, Option.isNone_none, true_and]
  split
  · exact .inl ⟨.noValuesToSet, rfl, rfl⟩
  · cases parsed : toUuid userId with
    | error error => exact .inl ⟨error, rfl, rfl⟩
    | ok uuid =>
        cases convertOptional toVarchar updatedData.email with
        | error error => exact .inl ⟨error, rfl, rfl⟩
        | ok email =>
            cases convertOptional toVarchar updatedData.name with
            | error error => exact .inl ⟨error, rfl, rfl⟩
            | ok name =>
                refine .inr ⟨uuid, ⟨none, email, name⟩,
                  UserRepository.toUuid_eq_ok.mp parsed, rfl, ?_⟩
                show (do
                  let updated ← table.update uuid ⟨none, email, name⟩
                  return (updated, updated.select uuid)) = _
                cases table.update uuid ⟨none, email, name⟩ <;> rfl

theorem toUuid_cases (userId : String) :
    (∃ uuid, Uuid.parse userId = some uuid ∧ toUuid userId = .ok uuid) ∨
      Uuid.parse userId = none ∧ toUuid userId = .error (.invalidUuid userId) := by
  cases parsed : Uuid.parse userId with
  | some uuid => exact .inl ⟨uuid, rfl, UserRepository.toUuid_eq_ok.mpr parsed⟩
  | none => exact .inr ⟨rfl, by simp [toUuid, parsed]⟩

end Commands

/-! ## States and directories -/

/-- The directory is that of the table, the cache agrees with the table, and it
holds texts only as the API prints them. -/
structure Represents (state : ServiceState) (directory : Directory) : Prop where
  directory : directory = state.table.directory
  coherent : state.CacheCoherent
  canonical : ∀ key uuid, state.cache.Cached key → Uuid.parse key = some uuid →
    key = uuid.text

section Simulation

variable {state : ServiceState} {directory : Directory} {schemas : ExternalSchemas}

theorem represents_empty (table : UserTable) :
    Represents ⟨table, LayeredCache.empty⟩ table.directory where
  directory := rfl
  coherent := coherent_empty _
  canonical key uuid cached := by
    simp [Cached, LayeredCache.empty] at cached

theorem Represents.read (represents : Represents state directory) {key : String}
    (spelled : ∀ uuid, Uuid.parse key = some uuid → key = uuid.text) :
    Represents
      ⟨state.table, (state.cache.get (UserRepository.getUser state.table) key).1⟩
      directory where
  directory := represents.directory
  coherent := Coherent.get represents.coherent key
  canonical other uuid cached parsed := by
    obtain rfl | earlier := Cached.of_get cached
    · exact spelled uuid parsed
    · exact represents.canonical other uuid earlier parsed

/-- After a write of one row and the removal of its text the cache still agrees. -/
theorem Represents.write (represents : Represents state directory) {table : UserTable}
    {uuid : Uuid}
    (others : ∀ other, other ≠ uuid → table.select other = state.table.select other) :
    Represents ⟨table, state.cache.invalidate uuid.text⟩ table.directory where
  directory := rfl
  coherent := by
    apply Coherent.invalidate represents.coherent
    intro key different cached
    apply ServiceState.getUser_eq_of_select_eq others
    intro parsed
    exact absurd (represents.canonical key uuid cached parsed) different
  canonical key named cached parsed :=
    represents.canonical key named (Cached.of_invalidate cached) parsed

@[simp]
theorem performed_ok (directory : Directory) (command : DirectoryCommand) :
    directory.performed (.ok command) = directory.next command := rfl

/-- What a call answers, and the state it goes on to, are those of its command. -/
def Simulates (schemas : ExternalSchemas) (directory : Directory) (generated : Uuid)
    (call : ServiceCall)
    (handled : ServiceState × Except UserError HandlerResponse) : Prop :=
  (∃ outcome, directory.Permits (call.command generated) outcome ∧
      call.respond schemas handled.2 = outcomeReply schemas outcome) ∧
    Represents handled.1 (directory.performed (call.command generated))

theorem respond_entered (input : UserCreateDTO) (user : User) :
    (ServiceCall.createUser input).respond schemas
        (.ok ⟨201, .object [("data", user.toJson)]⟩) =
      outcomeReply schemas (.ok (.entered user)) :=
  serialize_user (UserController.contracts.createUser schemas) 201 rfl user

theorem respond_found (userId : String) (user : User) :
    (ServiceCall.getUser userId).respond schemas
        (.ok ⟨200, .object [("data", user.toJson)]⟩) =
      outcomeReply schemas (.ok (.found user)) :=
  serialize_user (UserController.contracts.getUser schemas) 200 rfl user

theorem respond_listed (userIds : List String) (users : List User) :
    (ServiceCall.getUsers userIds).respond schemas
        (.ok ⟨200, .object [("data", .array (users.map User.toJson))]⟩) =
      outcomeReply schemas (.ok (.listed users)) :=
  serialize_users users

theorem createUser_simulates (represents : Represents state directory) (generated : Uuid)
    (user : UserCreateDTO) :
    Simulates schemas directory generated (.createUser user)
      (UserController.createUser state generated user) := by
  have isDirectory := represents.directory
  subst isDirectory
  simp only [UserController.createUser, UserService.createUser]
  obtain ⟨error, command, refused⟩ | ⟨row, rfl, command, stores⟩ :=
    createUser_command state.table generated user
  · rw [refused]
    constructor
    · exact ⟨.error (.storage error), by rw [command]; rfl, rfl⟩
    · rw [command]
      exact represents
  · rw [stores]
    obtain ⟨next, inserted, answers, after⟩ | ⟨error, refused, answers, unchanged⟩ :=
      insert_cases state.table row
    · rw [inserted]
      constructor
      · refine ⟨.ok (.entered row), by rw [command]; exact answers, ?_⟩
        exact respond_entered user row
      · rw [command, performed_ok, ← after]
        apply represents.write
        intro other different
        rw [UserTable.select_insert inserted, if_neg (Ne.symm different)]
    · rw [refused]
      constructor
      · exact ⟨.error (.storage error), by rw [command]; exact answers, rfl⟩
      · rw [command, performed_ok, unchanged]
        exact represents

theorem updateUser_simulates (represents : Represents state directory) (generated : Uuid)
    {userId : String} {updatedData : UserUpdateDTO}
    (spelled : (ServiceCall.updateUser userId updatedData).Canonical) :
    Simulates schemas directory generated (.updateUser userId updatedData)
      (UserController.updateUser state userId updatedData) := by
  have isDirectory := represents.directory
  subst isDirectory
  simp only [UserController.updateUser, UserService.updateUser]
  obtain ⟨error, command, refused⟩ | ⟨uuid, assignment, parsed, command, stores⟩ :=
    updateUser_command state.table generated userId updatedData
  · rw [refused]
    constructor
    · exact ⟨.error (.storage error), by rw [command]; rfl, rfl⟩
    · rw [command]
      exact represents
  · rw [stores]
    obtain ⟨next, updated, answers, after⟩ | ⟨refused, answers, unchanged⟩ :=
      update_cases state.table uuid assignment
    · rw [updated]
      constructor
      · exact ⟨.ok .done, by rw [command]; exact answers, rfl⟩
      · rw [command, performed_ok, ← after, spelled uuid parsed]
        apply represents.write
        intro other different
        rw [UserTable.select_update updated, if_neg different]
    · rw [refused]
      constructor
      · exact ⟨.error (.storage emailTaken), by rw [command]; exact answers, rfl⟩
      · rw [command, performed_ok, unchanged]
        exact represents

theorem deleteUser_simulates (represents : Represents state directory) (generated : Uuid)
    {userId : String} (spelled : (ServiceCall.deleteUser userId).Canonical) :
    Simulates schemas directory generated (.deleteUser userId)
      (UserController.deleteUser state userId) := by
  have isDirectory := represents.directory
  subst isDirectory
  simp only [UserController.deleteUser, UserService.deleteUser, UserRepository.deleteUser]
  obtain ⟨uuid, parsed, read⟩ | ⟨-, read⟩ := toUuid_cases userId
  · have command : (ServiceCall.deleteUser userId).command generated = .ok (.remove uuid) := by
      simp only [ServiceCall.command, read]
      rfl
    rw [read]
    constructor
    · exact ⟨.ok .done, by rw [command]; exact .removed, rfl⟩
    · rw [command, performed_ok, ← directory_delete, spelled uuid parsed]
      apply represents.write
      intro other different
      rw [UserTable.select_delete, if_neg different]
  · have command : (ServiceCall.deleteUser userId).command generated =
        .error (.invalidUuid userId) := by
      simp only [ServiceCall.command, read]
      rfl
    rw [read]
    constructor
    · exact ⟨.error (.storage (.invalidUuid userId)), by rw [command]; rfl, rfl⟩
    · rw [command]
      exact represents

theorem getUser_simulates (represents : Represents state directory) (generated : Uuid)
    {userId : String} (spelled : (ServiceCall.getUser userId).Canonical) :
    Simulates schemas directory generated (.getUser userId)
      (UserController.getUser state userId) := by
  have isDirectory := represents.directory
  subst isDirectory
  have answered := ServiceState.load_answer represents.coherent userId
  have moved : Represents (UserService.load state userId).1 state.table.directory := by
    rw [UserService.load_eq_get]
    exact represents.read spelled
  simp only [UserController.getUser, UserService.getUser, answered]
  obtain ⟨uuid, parsed, read⟩ | ⟨invalid, read⟩ := toUuid_cases userId
  · have command : (ServiceCall.getUser userId).command generated =
        .ok (.find userId uuid) := by
      simp only [ServiceCall.command, read]
      rfl
    rw [UserRepository.getUser_of_parse parsed]
    constructor
    · rw [command]
      cases selected : state.table.select uuid with
      | none =>
          have absent : state.table.directory.find uuid = none := by
            rw [find_directory, selected, Option.map_none]
          exact ⟨_, .notFound absent, rfl⟩
      | some user =>
          have held : state.table.directory.find uuid = some user.profile := by
            rw [find_directory, selected, Option.map_some]
          have sameUser : user.profile.user uuid = user := by
            rw [← (UserTable.select_eq_some.mp selected).2]
            exact user.profile_user
          have answer : state.table.directory.Answers (.find userId uuid)
              (.ok (.found (user.profile.user uuid))) := .found held
          rw [sameUser] at answer
          exact ⟨_, answer, respond_found userId user⟩
    · rw [command]
      exact moved
  · have command : (ServiceCall.getUser userId).command generated =
        .error (.invalidUuid userId) := by
      simp only [ServiceCall.command, read]
      rfl
    rw [UserRepository.getUser_of_not_parse invalid]
    constructor
    · exact ⟨.error (.storage (.invalidUuid userId)), by rw [command]; rfl, rfl⟩
    · rw [command]
      exact moved

theorem getUsers_simulates (represents : Represents state directory) (generated : Uuid)
    (userIds : List String) :
    Simulates schemas directory generated (.getUsers userIds)
      (UserController.getUsersByIds state userIds) := by
  have isDirectory := represents.directory
  subst isDirectory
  simp only [UserController.getUsersByIds, UserService.getUsers, UserRepository.getUsers]
  cases read : userIds.mapM toUuid with
  | error error =>
      have command : (ServiceCall.getUsers userIds).command generated = .error error := by
        simp only [ServiceCall.command, read]
        rfl
      constructor
      · exact ⟨.error (.storage error), by rw [command]; rfl, rfl⟩
      · rw [command]
        exact represents
  | ok ids =>
      have command : (ServiceCall.getUsers userIds).command generated =
          .ok (.findAll ids) := by
        simp only [ServiceCall.command, read]
        rfl
      constructor
      · refine ⟨.ok (.listed (state.table.selectIn ids)), ?_, respond_listed userIds _⟩
        rw [command]
        exact answers_selectIn state.table ids
      · rw [command]
        exact represents

theorem handle_simulates (represents : Represents state directory) (generated : Uuid)
    (call : ServiceCall) (spelled : call.Canonical) :
    Simulates schemas directory generated call (call.handle state generated) := by
  cases call with
  | createUser user => exact createUser_simulates represents generated user
  | updateUser userId updatedData => exact updateUser_simulates represents generated spelled
  | getUser userId => exact getUser_simulates represents generated spelled
  | deleteUser userId => exact deleteUser_simulates represents generated spelled
  | getUsers userIds => exact getUsers_simulates represents generated userIds

/-- One input. -/
theorem app_simulates {external : ExternalPackages}
    (represents : Represents state directory) (input : AppInput)
    (spelled : input.Canonical external) :
    directory.Admits external input (app external state input).2 ∧
      Represents (app external state input).1 (directory.after external input) := by
  cases input with
  | http request =>
      simp only [app, Directory.Admits, Directory.after]
      rw [handleRequest_eq_answered]
      cases leads : request.action external with
      | error error => exact ⟨rfl, represents⟩
      | ok action =>
          cases action with
          | reply reply => exact ⟨rfl, represents⟩
          | call call =>
              obtain ⟨⟨outcome, permitted, same⟩, moved⟩ :=
                handle_simulates represents request.generated call (spelled call leads)
              exact ⟨⟨outcome, permitted, congrArg some same⟩, moved⟩
  | importUser generated payload =>
      refine ⟨rfl, ?_⟩
      simp only [app, UserImportJob.process, Directory.after]
      cases USER_IMPORT_JOB_PAYLOAD external.toExternalSchemas payload with
      | none => exact represents
      | some user =>
          have simulated : Simulates external.toExternalSchemas directory generated
              (.createUser user) _ :=
            createUser_simulates represents generated user
          exact simulated.2
  | evictMemory key =>
      refine ⟨rfl, represents.directory, represents.coherent.evictMemory key, ?_⟩
      intro other uuid cached parsed
      exact represents.canonical other uuid (Cached.of_evictMemory cached) parsed
  | evictRedis key =>
      refine ⟨rfl, represents.directory, represents.coherent.evictRemote key, ?_⟩
      intro other uuid cached parsed
      exact represents.canonical other uuid (Cached.of_evictRemote cached) parsed

end Simulation

/-- The application is a directory of users.  Started on any table with an empty
cache, it gives every request an answer that the directory of the table admits,
where the directory goes on from command to command; and at the end the table is
that of the directory.  Requests have to spell identifiers as the API prints them;
imports and losses of cached entries may happen at any time. -/
theorem app_refines_directory (external : ExternalPackages) (table : UserTable)
    (inputs : List AppInput) (spelled : ∀ input ∈ inputs, input.Canonical external) :
    Machine.Admissible (Directory.after external) (Directory.Admits external)
        table.directory
        ((app external).transcript ⟨table, LayeredCache.empty⟩ inputs) ∧
      ((app external).final ⟨table, LayeredCache.empty⟩ inputs).table.directory =
        inputs.foldl (Directory.after external) table.directory := by
  have simulates : ∀ state directory input, Represents state directory →
      AppInput.Canonical external input →
      directory.Admits external input (app external state input).2 ∧
        Represents (app external state input).1 (directory.after external input) :=
    fun _ _ input represents spelled => app_simulates represents input spelled
  have simulated := Machine.transcript_admissible simulates (represents_empty table) spelled
  exact ⟨simulated.1, simulated.2.directory.symm⟩

/-- A user is created and asked for twice. -/
def createAndAsk : List AppInput :=
  [.http createAda, .http askForAda, .evictMemory sampleId.text, .http askForAda]

theorem createAndAsk_canonical :
    ∀ input ∈ createAndAsk, input.Canonical samplePackages := by
  have creates : createAda.action samplePackages =
      .ok (.call (.createUser ⟨"Ada", none, "ada@example.com"⟩)) := rfl
  have created : AppInput.Canonical samplePackages (.http createAda) := by
    intro call calls
    have same : .createUser ⟨"Ada", none, "ada@example.com"⟩ = call :=
      RequestAction.call.inj (Except.ok.inj (creates.symm.trans calls))
    rw [← same]
    trivial
  have asked : AppInput.Canonical samplePackages (.http askForAda) := by
    intro call calls
    have same : .getUser sampleId.text = call :=
      RequestAction.call.inj (Except.ok.inj (askForAda_asks.action.symm.trans calls))
    rw [← same]
    intro uuid parsed
    rw [Uuid.parse_text] at parsed
    rw [Option.some.inj parsed]
  intro input member
  simp only [createAndAsk, List.mem_cons, List.not_mem_nil, or_false] at member
  rcases member with same | same | same | same <;> rw [same]
  · exact created
  · exact asked
  · trivial
  · exact asked

theorem app_refines_directory_createAndAsk :
    Machine.Admissible (Directory.after samplePackages) (Directory.Admits samplePackages)
      UserTable.empty.directory
      ((app samplePackages).transcript ⟨UserTable.empty, LayeredCache.empty⟩ createAndAsk) :=
  (app_refines_directory samplePackages UserTable.empty createAndAsk createAndAsk_canonical).1

end ServiceTemplate.Users
