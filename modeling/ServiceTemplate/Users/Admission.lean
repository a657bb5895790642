import ServiceTemplate.Users.StoredUsers

/-!
# What the storage makes of accepted requests

Every accepted request leads to one statement on the user table.  The statement
should fail on the uniqueness of the email only; when it does is decided by the
values that the schemas let through.
-/

namespace ServiceTemplate.Users

/-- A request of the API or a payload of the import job, before validation. -/
inductive ApiRequest where
  | createUser (body : JsonValue)
  | updateUser (params body : JsonValue)
  | getUser (params : JsonValue)
  | deleteUser (params : JsonValue)
  | getUsersByIds (body : JsonValue)
  | importUser (payload : JsonValue)

/-- The call of the service that an accepted request leads to. -/
inductive ServiceCall where
  | createUser (user : UserCreateDTO)
  | updateUser (userId : String) (updatedData : UserUpdateDTO)
  | getUser (userId : String)
  | deleteUser (userId : String)
  | getUsers (userIds : List String)

/-- The schemas in front of the service. -/
def ApiRequest.accepted (external : ExternalSchemas) : ApiRequest → Option ServiceCall
  | .createUser body => (CREATE_USER_BODY_SCHEMA external body).map .createUser
  | .updateUser params body => do
      let userId ← UPDATE_USER_PARAMS_SCHEMA params
      let updatedData ← UPDATE_USER_BODY_SCHEMA external body
      return .updateUser userId updatedData
  | .getUser params => (GET_USER_PARAMS_SCHEMA params).map .getUser
  | .deleteUser params => (DELETE_USER_PARAMS_SCHEMA params).map .deleteUser
  | .getUsersByIds body => (GET_USERS_BY_IDS_BODY_SCHEMA body).map .getUsers
  | .importUser payload => (USER_IMPORT_JOB_PAYLOAD external payload).map .createUser

/-- The outcome of a call when nothing is cached, so that its statement reaches
the table.  An inserted row is given the generated identifier. -/
def ServiceCall.outcome (table : UserTable) (generated : Uuid) :
    ServiceCall → Except UserError Unit
  | .createUser user =>
      (UserService.createUser ⟨table, LayeredCache.empty⟩ generated user).2.map fun _ => ()
  | .updateUser userId updatedData =>
      (UserService.updateUser ⟨table, LayeredCache.empty⟩ userId updatedData).2
  | .getUser userId =>
      (UserService.getUser ⟨table, LayeredCache.empty⟩ userId).2.map fun _ => ()
  | .deleteUser userId => (UserService.deleteUser ⟨table, LayeredCache.empty⟩ userId).2
  | .getUsers userIds =>
      (UserService.getUsers ⟨table, LayeredCache.empty⟩ userIds).map fun _ => ()

/-- The error of the unique index on the email. -/
def emailTaken : StorageError := .uniqueViolation "user_email_unique"

/-- The storage refuses the call for the uniqueness of the email, or not at all. -/
def ServiceCall.StorageAdmits (table : UserTable) (generated : Uuid) (call : ServiceCall) :
    Prop :=
  ∀ error, call.outcome table generated = .error (.storage error) → error = emailTaken

/-! ## Values that fit their column -/

def FitsInteger (value : JsNumber) : Prop :=
  value.den = 1 ∧ -2147483648 ≤ value.num ∧ value.num ≤ 2147483647

def FitsVarchar (text : String) : Prop :=
  '\x00' ∉ text.toList

def FitsUuid (text : String) : Prop :=
  (Uuid.parse text).isSome = true

/-- All values of the statement fit, and an update sets some column. -/
def ServiceCall.Fits : ServiceCall → Prop
  | .createUser user =>
      (∀ age ∈ user.age.join, FitsInteger age) ∧ FitsVarchar user.email ∧
        FitsVarchar user.name
  | .updateUser userId updatedData =>
      (updatedData.email.isSome = true ∨ updatedData.name.isSome = true) ∧
        FitsUuid userId ∧ (∀ email ∈ updatedData.email, FitsVarchar email) ∧
        ∀ name ∈ updatedData.name, FitsVarchar name
  | .getUser userId | .deleteUser userId => FitsUuid userId
  | .getUsers userIds => ∀ userId ∈ userIds, FitsUuid userId

/-! ## Statements that fail on the email only -/

/-- The statement fails on the uniqueness of the email, or not at all. -/
def FailsOnEmailOnly {Value : Type} (statement : Except StorageError Value) : Prop :=
  ∀ error, statement = .error error → error = emailTaken

section FailsOnEmailOnly

variable {Value Result : Type}

@[simp]
theorem failsOnEmailOnly_ok (value : Value) :
    FailsOnEmailOnly (.ok value : Except StorageError Value) :=
  fun _ failed => (nomatch failed)

@[simp]
theorem failsOnEmailOnly_error {error : StorageError} :
    FailsOnEmailOnly (.error error : Except StorageError Value) ↔ error = emailTaken :=
  ⟨fun only => only error rfl, fun taken _ failed => by cases failed; exact taken⟩

/-- The rule of sequencing. -/
theorem failsOnEmailOnly_bind {first : Except StorageError Value}
    {next : Value → Except StorageError Result} :
    FailsOnEmailOnly (first >>= next) ↔
      FailsOnEmailOnly first ∧ ∀ value, first = .ok value → FailsOnEmailOnly (next value) := by
  cases first with
  | error error =>
      have stops : (Except.error error >>= next) = .error error := rfl
      simp [stops]
  | ok value =>
      constructor
      · intro only
        refine ⟨failsOnEmailOnly_ok value, fun other same => ?_⟩
        cases same
        exact only
      · exact fun only => only.2 value rfl

/-- The rule of a conversion, whose error is another one, before a statement that
depends on its value in no relevant way. -/
theorem failsOnEmailOnly_convert {first : Except StorageError Value}
    {next : Value → Except StorageError Result} {condition : Prop}
    (converts : first ≠ .error emailTaken)
    (rest : ∀ value, FailsOnEmailOnly (next value) ↔ condition) :
    FailsOnEmailOnly (first >>= next) ↔ FailsOnEmailOnly first ∧ condition := by
  rw [failsOnEmailOnly_bind]
  cases first with
  | error error =>
      have other : error ≠ emailTaken := fun same => converts (congrArg _ same)
      simp [other]
  | ok value => simp [rest]

theorem toInt4_ne (value : JsNumber) : toInt4 value ≠ .error emailTaken := by
  unfold toInt4
  split
  · split <;> simp [emailTaken]
  · simp [emailTaken]

theorem toVarchar_ne (text : String) : toVarchar text ≠ .error emailTaken := by
  unfold toVarchar
  split <;> simp [emailTaken]

theorem toUuid_ne (text : String) : toUuid text ≠ .error emailTaken := by
  unfold toUuid
  split <;> simp [emailTaken]

theorem convertOptional_ne {convert : Value → Except StorageError Result}
    (converts : ∀ given, convert given ≠ .error emailTaken) (value : Option Value) :
    convertOptional convert value ≠ .error emailTaken := by
  cases value with
  | none => simp [convertOptional]
  | some given =>
      have other := converts given
      cases converted : convert given with
      | error error =>
          rw [converted] at other
          simpa [convertOptional, converted, Except.map] using other
      | ok result => simp [convertOptional, converted, Except.map]

theorem failsOnEmailOnly_toInt4 {value : JsNumber} :
    FailsOnEmailOnly (toInt4 value) ↔ FitsInteger value := by
  unfold toInt4 FitsInteger
  split
  · next integral =>
    split
    · next bounds => exact iff_of_true (failsOnEmailOnly_ok _) ⟨integral, bounds⟩
    · next outside =>
      rw [failsOnEmailOnly_error]
      exact iff_of_false (by simp [emailTaken]) fun fits => outside fits.2
  · next fractional =>
    rw [failsOnEmailOnly_error]
    exact iff_of_false (by simp [emailTaken]) fun fits => fractional fits.1

theorem failsOnEmailOnly_toVarchar {text : String} :
    FailsOnEmailOnly (toVarchar text) ↔ FitsVarchar text := by
  unfold toVarchar FitsVarchar
  split
  · next noZero => simp [noZero]
  · next zero => simp [zero, emailTaken]

theorem failsOnEmailOnly_toUuid {text : String} :
    FailsOnEmailOnly (toUuid text) ↔ FitsUuid text := by
  unfold toUuid FitsUuid
  cases Uuid.parse text <;> simp [emailTaken]

theorem failsOnEmailOnly_convertOptional {convert : Value → Except StorageError Result}
    {value : Option Value} :
    FailsOnEmailOnly (convertOptional convert value) ↔
      ∀ given ∈ value, FailsOnEmailOnly (convert given) := by
  cases value with
  | none => simp [convertOptional]
  | some given =>
      cases converted : convert given <;>
        simp [convertOptional, converted, Except.map]

theorem failsOnEmailOnly_mapM_toUuid {ids : List String} :
    FailsOnEmailOnly (ids.mapM toUuid) ↔ ∀ id ∈ ids, FitsUuid id := by
  induction ids with
  | nil => simp [pure, Except.pure]
  | cons first rest ih =>
      rw [List.mapM_cons, failsOnEmailOnly_bind, failsOnEmailOnly_toUuid]
      simp only [failsOnEmailOnly_bind, ih, List.forall_mem_cons]
      refine and_congr_right fun fits => ?_
      obtain ⟨uuid, parsed⟩ := Option.isSome_iff_exists.mp fits
      constructor
      · intro continues
        exact (continues uuid (UserRepository.toUuid_eq_ok.mpr parsed)).1
      · intro others _ _
        exact ⟨others, fun _ _ => failsOnEmailOnly_ok _⟩

theorem failsOnEmailOnly_update (table : UserTable) (id : Uuid)
    (assignment : UserTable.Assignment) : FailsOnEmailOnly (table.update id assignment) := by
  unfold UserTable.update
  split <;> simp [emailTaken]

theorem failsOnEmailOnly_insert {table : UserTable} {user : User}
    (fresh : table.select user.id = none) : FailsOnEmailOnly (table.insert user) := by
  have newId : user.id ∉ table.rows.map User.id := by
    intro member
    obtain ⟨row, present, same⟩ := List.mem_map.mp member
    exact UserTable.select_eq_none.mp fresh row present same
  unfold UserTable.insert
  rw [dif_pos newId]
  split <;> simp [emailTaken]

end FailsOnEmailOnly

/-! ## The statements of the repository -/

namespace UserRepository

variable {table : UserTable}

theorem failsOnEmailOnly_getUser {id : String} :
    FailsOnEmailOnly (getUser table id) ↔ FitsUuid id := by
  unfold getUser
  rw [failsOnEmailOnly_bind, failsOnEmailOnly_toUuid]
  exact and_iff_left fun _ _ => failsOnEmailOnly_ok _

theorem failsOnEmailOnly_deleteUser {id : String} :
    FailsOnEmailOnly (deleteUser table id) ↔ FitsUuid id := by
  unfold deleteUser
  rw [failsOnEmailOnly_bind, failsOnEmailOnly_toUuid]
  exact and_iff_left fun _ _ => failsOnEmailOnly_ok _

theorem failsOnEmailOnly_getUsers {ids : List String} :
    FailsOnEmailOnly (getUsers table ids) ↔ ∀ id ∈ ids, FitsUuid id := by
  unfold getUsers
  rw [failsOnEmailOnly_bind, failsOnEmailOnly_mapM_toUuid]
  exact and_iff_left fun _ _ => failsOnEmailOnly_ok _

theorem failsOnEmailOnly_updateUser {id : String} {updatedUser : UpdatedUser}
    (noAge : updatedUser.age = none) :
    FailsOnEmailOnly (updateUser table id updatedUser) ↔
      (updatedUser.email.isSome = true ∨ updatedUser.name.isSome = true) ∧ FitsUuid id ∧
        (∀ email ∈ updatedUser.email, FitsVarchar email) ∧
        ∀ name ∈ updatedUser.name, FitsVarchar name := by
  unfold updateUser
  split
  · next nothing =>
    obtain ⟨-, noEmail, noName⟩ := nothing
    refine iff_of_false (fun only => ?_) ?_
    · have same := only _ rfl
      cases same
    · rintro ⟨sets | sets, -⟩
      · simp_all
      · simp_all
  · next sets =>
    have setsSome : updatedUser.email.isSome = true ∨ updatedUser.name.isSome = true := by
      simp only [noAge, Option.isNone_none, true_and, not_and_or] at sets
      simpa [Option.isNone_iff_eq_none, Option.isSome_iff_ne_none] using sets
    have stores (uuid : Uuid) (assignment : UserTable.Assignment) :
        FailsOnEmailOnly (do
          let updated ← table.update uuid assignment
          return (updated, updated.select uuid)) ↔ True := by
      rw [failsOnEmailOnly_bind]
      exact iff_true_intro ⟨failsOnEmailOnly_update table uuid assignment,
        fun _ _ => failsOnEmailOnly_ok _⟩
    rw [noAge, failsOnEmailOnly_convert (toUuid_ne id) fun uuid =>
      failsOnEmailOnly_convert (convertOptional_ne toInt4_ne none) fun age =>
      failsOnEmailOnly_convert (convertOptional_ne toVarchar_ne updatedUser.email) fun email =>
      failsOnEmailOnly_convert (convertOptional_ne toVarchar_ne updatedUser.name) fun name =>
      stores uuid _]
    simp only [failsOnEmailOnly_toUuid, failsOnEmailOnly_convertOptional,
      failsOnEmailOnly_toVarchar, setsSome]
    simp

theorem failsOnEmailOnly_createUser {generated : Uuid} {user : NewUser} {name : String}
    (fresh : table.select generated = none) (named : user.name = some name) :
    FailsOnEmailOnly (createUser table generated user) ↔
      (∀ age ∈ user.age, FitsInteger age) ∧ FitsVarchar user.email ∧ FitsVarchar name := by
  have stores (row : User) (isNew : row.id = generated) :
      FailsOnEmailOnly (do
        let inserted ← table.insert row
        return (inserted, row)) := by
    rw [failsOnEmailOnly_bind]
    exact ⟨failsOnEmailOnly_insert (by rw [isNew]; exact fresh),
      fun _ _ => failsOnEmailOnly_ok _⟩
  unfold createUser
  refine (failsOnEmailOnly_convert (convertOptional_ne toInt4_ne user.age) fun age =>
    failsOnEmailOnly_convert (toVarchar_ne user.email) fun email =>
      (?inserts : _ ↔ FitsVarchar name)).trans ?_
  case inserts =>
    rw [failsOnEmailOnly_bind, failsOnEmailOnly_convertOptional, named]
    simp only [Option.mem_def, Option.some.injEq, forall_eq', failsOnEmailOnly_toVarchar]
    refine and_iff_left fun value converted => ?_
    have isSome := UserRepository.convertOptional_toVarchar_eq_ok converted
    cases value with
    | none => cases isSome
    | some value => exact stores _ rfl
  simp only [failsOnEmailOnly_convertOptional, failsOnEmailOnly_toInt4,
    failsOnEmailOnly_toVarchar]

end UserRepository

/-! ## The calls of the service -/

section Calls

variable {table : UserTable} {generated : Uuid}

theorem storageAdmits_iff_statement {Value : Type} {call : ServiceCall}
    {statement : Except StorageError Value}
    (passes : ∀ error, call.outcome table generated = .error (.storage error) ↔
      statement = .error error) :
    call.StorageAdmits table generated ↔ FailsOnEmailOnly statement :=
  forall_congr' fun error => imp_congr_left (passes error)

theorem storageAdmits_iff_fits (fresh : table.select generated = none)
    (call : ServiceCall) : call.StorageAdmits table generated ↔ call.Fits := by
  cases call with
  | createUser user =>
      have fits : FailsOnEmailOnly
          (UserRepository.createUser table generated user.toNewUser) ↔
            (ServiceCall.createUser user).Fits :=
        UserRepository.failsOnEmailOnly_createUser fresh rfl
      refine (storageAdmits_iff_statement fun error => ?_).trans fits
      simp only [ServiceCall.outcome, UserService.createUser]
      cases UserRepository.createUser table generated user.toNewUser <;>
        simp [Except.map]
  | updateUser userId updatedData =>
      have fits : FailsOnEmailOnly
          (UserRepository.updateUser table userId updatedData.toUpdatedUser) ↔
            (ServiceCall.updateUser userId updatedData).Fits :=
        UserRepository.failsOnEmailOnly_updateUser rfl
      refine (storageAdmits_iff_statement fun error => ?_).trans fits
      simp only [ServiceCall.outcome, UserService.updateUser]
      cases UserRepository.updateUser table userId updatedData.toUpdatedUser <;> simp
  | getUser userId =>
      have fits : FailsOnEmailOnly (UserRepository.getUser table userId) ↔
          (ServiceCall.getUser userId).Fits :=
        UserRepository.failsOnEmailOnly_getUser
      refine (storageAdmits_iff_statement fun error => ?_).trans fits
      have loads : (UserService.load ⟨table, LayeredCache.empty⟩ userId).2 =
          UserRepository.getUser table userId := by
        rw [UserService.load_eq_get]
        exact LayeredCache.Coherent.get_answer (LayeredCache.coherent_empty _) userId
      simp only [ServiceCall.outcome, UserService.getUser, loads]
      rcases UserRepository.getUser table userId with refused | (_ | user) <;>
        simp [UserService.foundOrError, Except.map]
  | deleteUser userId =>
      have fits : FailsOnEmailOnly (UserRepository.deleteUser table userId) ↔
          (ServiceCall.deleteUser userId).Fits :=
        UserRepository.failsOnEmailOnly_deleteUser
      refine (storageAdmits_iff_statement fun error => ?_).trans fits
      simp only [ServiceCall.outcome, UserService.deleteUser]
      cases UserRepository.deleteUser table userId <;> simp
  | getUsers userIds =>
      have fits : FailsOnEmailOnly (UserRepository.getUsers table userIds) ↔
          (ServiceCall.getUsers userIds).Fits :=
        UserRepository.failsOnEmailOnly_getUsers
      refine (storageAdmits_iff_statement fun error => ?_).trans fits
      simp only [ServiceCall.outcome, UserService.getUsers]
      cases UserRepository.getUsers table userIds <;> simp [Except.map]

end Calls

/-- An accepted request is admitted by the storage, up to the uniqueness of the
email, if and only if the values its schema let through fit their columns and an
update sets some column.  The generated identifier is a new one. -/
theorem accepted_storageAdmits_iff (external : ExternalSchemas) (table : UserTable)
    (generated : Uuid) (fresh : table.select generated = none) (request : ApiRequest) :
    (∀ call ∈ request.accepted external, call.StorageAdmits table generated) ↔
      ∀ call ∈ request.accepted external, call.Fits :=
  forall₂_congr fun call _ => storageAdmits_iff_fits fresh call

theorem accepted_storageAdmits_iff_sample :
    ∃ call ∈ (ApiRequest.importUser (samplePayload "ada@example.com")).accepted sampleSchemas,
      call.StorageAdmits UserTable.empty sampleId := by
  refine ⟨_, rfl, (accepted_storageAdmits_iff sampleSchemas UserTable.empty sampleId rfl
    (.importUser (samplePayload "ada@example.com"))).mpr ?_ _ rfl⟩
  intro call accepted
  cases accepted
  refine ⟨fun age given => ?_, by unfold FitsVarchar; decide, by unfold FitsVarchar; decide⟩
  cases given
  exact ⟨by decide, by decide, by decide⟩

def oneAndAHalf : JsNumber := ⟨3, 2, by decide, by decide⟩

/-- An update without any field, and an age of one and a half, are accepted and
refused by the storage. -/
theorem accepted_not_storageAdmits :
    (∃ call ∈ (ApiRequest.updateUser
        (.object [("userId", .string "0190a5c4-0000-7000-8000-0000000000ab")])
        (.object [])).accepted sampleSchemas,
      ¬ call.StorageAdmits sampleTable sampleId) ∧
    ∃ call ∈ (ApiRequest.createUser (.object
        [("name", .string "Ada"), ("age", .number oneAndAHalf),
          ("email", .string "ada@example.com")])).accepted sampleSchemas,
      ¬ call.StorageAdmits UserTable.empty sampleId := by
  constructor
  · refine ⟨_, rfl, fun admits => ?_⟩
    have taken := admits .noValuesToSet rfl
    cases taken
  · refine ⟨_, rfl, fun admits => ?_⟩
    have taken := admits (.invalidInteger oneAndAHalf) rfl
    cases taken

end ServiceTemplate.Users
