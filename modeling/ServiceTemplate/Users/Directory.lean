import ServiceTemplate.Foundations.IndexedMap
import ServiceTemplate.Users.Requests

/-!
# The directory of users

What the users API is for: a directory has at most one profile for an
identifier, and no two users with the same email.  A command enters, amends,
removes or looks up users.  The application answers every request like the
directory does, provided that the requests spell identifiers as the API prints
them; the cache, its losses and the order of the rows do not show.
-/

namespace ServiceTemplate.Users

section Definitions

/-- What is kept for an identifier. -/
structure Profile where
  age : Option Int4
  email : Varchar
  name : Varchar
  deriving DecidableEq

def User.profile (user : User) : Profile :=
  { age := user.age, email := user.email, name := user.name }

def Profile.user (profile : Profile) (id : Uuid) : User :=
  { id, age := profile.age, email := profile.email, name := profile.name }

def Profile.amended (profile : Profile) (assignment : UserTable.Assignment) : Profile where
  age := assignment.age <|> profile.age
  email := assignment.email.getD profile.email
  name := assignment.name.getD profile.name

abbrev Directory : Type :=
  IndexedMap Uuid Profile Varchar Profile.email

inductive DirectoryCommand where
  | enter (id : Uuid) (profile : Profile)
  | amend (id : Uuid) (assignment : UserTable.Assignment)
  | remove (id : Uuid)
  | find (userId : String) (id : Uuid)
  | findAll (ids : List Uuid)

inductive Finding where
  | entered (user : User)
  | found (user : User)
  | listed (users : List User)
  | done

namespace Directory

/-- A command that the directory refuses changes nothing. -/
noncomputable def next (directory : Directory) : DirectoryCommand → Directory
  | .enter id profile =>
      match directory.find id with
      | some _ => directory
      | none => directory.tryPut id profile
  | .amend id assignment =>
      match directory.find id with
      | some profile => directory.tryPut id (profile.amended assignment)
      | none => directory
  | .remove id => directory.erase id
  | .find _ _ | .findAll _ => directory

/-- The answers of the directory; a listing may come in any order. -/
inductive Answers (directory : Directory) :
    DirectoryCommand → Except UserError Finding → Prop where
  | entered {id : Uuid} {profile : Profile} (fresh : directory.find id = none)
      (free : directory.Free id profile.email) :
      Answers directory (.enter id profile) (.ok (.entered (profile.user id)))
  | idTaken {id : Uuid} {profile : Profile} (held : directory.find id ≠ none) :
      Answers directory (.enter id profile)
        (.error (.storage (.uniqueViolation "user_pkey")))
  | emailTaken {id : Uuid} {profile : Profile} (fresh : directory.find id = none)
      (taken : ¬ directory.Free id profile.email) :
      Answers directory (.enter id profile) (.error (.storage emailTaken))
  | amended {id : Uuid} {assignment : UserTable.Assignment}
      (free : ∀ profile ∈ directory.find id,
        directory.Free id (profile.amended assignment).email) :
      Answers directory (.amend id assignment) (.ok .done)
  | notAmended {id : Uuid} {assignment : UserTable.Assignment} {profile : Profile}
      (held : directory.find id = some profile)
      (taken : ¬ directory.Free id (profile.amended assignment).email) :
      Answers directory (.amend id assignment) (.error (.storage emailTaken))
  | removed {id : Uuid} : Answers directory (.remove id) (.ok .done)
  | found {userId : String} {id : Uuid} {profile : Profile}
      (held : directory.find id = some profile) :
      Answers directory (.find userId id) (.ok (.found (profile.user id)))
  | notFound {userId : String} {id : Uuid} (absent : directory.find id = none) :
      Answers directory (.find userId id)
        (.error (.entityNotFound "User not found" userId))
  | listed {ids : List Uuid} {users : List User} (distinct : (users.map User.id).Nodup)
      (exact : ∀ user, user ∈ users ↔
        user.id ∈ ids ∧ directory.find user.id = some user.profile) :
      Answers directory (.findAll ids) (.ok (.listed users))

end Directory

/-- The command of a call, if all its values fit their columns. -/
def ServiceCall.command (generated : Uuid) :
    ServiceCall → Except StorageError DirectoryCommand
  | .createUser user => do
      let age ← convertOptional toInt4 user.age.join
      let email ← toVarchar user.email
      let name ← toVarchar user.name
      return .enter generated { age, email, name }
  | .updateUser userId updatedData =>
      if updatedData.email.isNone ∧ updatedData.name.isNone then .error .noValuesToSet
      else do
        let id ← toUuid userId
        let email ← convertOptional toVarchar updatedData.email
        let name ← convertOptional toVarchar updatedData.name
        return .amend id { email, name }
  | .getUser userId => do
      let id ← toUuid userId
      return .find userId id
  | .deleteUser userId => do
      let id ← toUuid userId
      return .remove id
  | .getUsers userIds => do
      let ids ← userIds.mapM toUuid
      return .findAll ids

section Sending

variable (schemas : ExternalSchemas)

/-- What is sent for an answer: the users, if all of them can be sent. -/
def Finding.reply : Finding → Except RequestError Reply
  | .entered user => userReply schemas 201 user.toDTO
  | .found user => userReply schemas 200 user.toDTO
  | .listed users => usersReply schemas users
  | .done => .ok ⟨204, .noBody⟩

def outcomeReply : Except UserError Finding → Except RequestError Reply
  | .ok finding => finding.reply schemas
  | .error error => .error (.service error)

end Sending

namespace Directory

/-- A call whose values do not fit does not reach the directory. -/
noncomputable def performed (directory : Directory) :
    Except StorageError DirectoryCommand → Directory
  | .ok command => directory.next command
  | .error _ => directory

def Permits (directory : Directory) :
    Except StorageError DirectoryCommand → Except UserError Finding → Prop
  | .ok command, outcome => directory.Answers command outcome
  | .error error, outcome => outcome = .error (.storage error)

variable (external : ExternalPackages) (directory : Directory)

/-- The directory after an input of the application. -/
noncomputable def after : AppInput → Directory
  | .http request =>
      match request.action external with
      | .ok (.call call) => directory.performed (call.command request.generated)
      | _ => directory
  | .importUser generated payload =>
      match USER_IMPORT_JOB_PAYLOAD external.toExternalSchemas payload with
      | some user => directory.performed ((ServiceCall.createUser user).command generated)
      | none => directory
  | .evictMemory _ | .evictRedis _ => directory

/-- The answers to an input that agree with the directory. -/
def Admits : AppInput → AppAnswer → Prop
  | .http request, answer =>
      match request.action external with
      | .error error => answer = some (.error error)
      | .ok (.reply reply) => answer = some (.ok reply)
      | .ok (.call call) =>
          ∃ outcome, directory.Permits (call.command request.generated) outcome ∧
            answer = some (outcomeReply external.toExternalSchemas outcome)
  | _, answer => answer = none

end Directory

/-- The call spells its identifier as the API prints it. -/
def ServiceCall.Canonical : ServiceCall → Prop
  | .updateUser userId _ | .deleteUser userId | .getUser userId =>
      ∀ uuid, Uuid.parse userId = some uuid → userId = uuid.text
  | .createUser _ | .getUsers _ => True

def AppInput.Canonical (external : ExternalPackages) : AppInput → Prop
  | .http request => ∀ call, request.action external = .ok (.call call) → call.Canonical
  | _ => True

end Definitions

/-! ## The directory of a table -/

section Tables

/-- The directory that a table stands for. -/
def UserTable.directory (table : UserTable) : Directory where
  find id := (table.select id).map User.profile
  distinct id other profile found held heldOther same := by
    obtain ⟨first, selected, rfl⟩ := Option.map_eq_some_iff.mp held
    obtain ⟨second, selectedOther, rfl⟩ := Option.map_eq_some_iff.mp heldOther
    obtain ⟨present, rfl⟩ := UserTable.select_eq_some.mp selected
    obtain ⟨presentOther, rfl⟩ := UserTable.select_eq_some.mp selectedOther
    exact congrArg User.id
      (List.inj_on_of_nodup_map table.emailsNodup present presentOther same)

variable {table next : UserTable}

theorem User.profile_user (user : User) : user.profile.user user.id = user := rfl

theorem find_directory (table : UserTable) (id : Uuid) :
    table.directory.find id = (table.select id).map User.profile := rfl

/-- An email is free for an identifier if no other row has it. -/
theorem free_directory_iff {id : Uuid} {email : Varchar} :
    table.directory.Free id email ↔
      ∀ user ∈ table.rows, user.email = email → user.id = id := by
  constructor
  · intro free user present same
    apply free user.id user.profile _ same
    rw [find_directory, UserTable.select_eq_some.mpr ⟨present, rfl⟩, Option.map_some]
  · intro free other profile held same
    obtain ⟨user, selected, rfl⟩ := Option.map_eq_some_iff.mp held
    obtain ⟨present, rfl⟩ := UserTable.select_eq_some.mp selected
    exact free user present same

theorem directory_ext (same : ∀ id, next.select id = table.select id) :
    next.directory = table.directory := by
  apply IndexedMap.ext
  funext id
  rw [find_directory, find_directory, same id]

/-- An insertion is an entry of the directory. -/
theorem insert_cases (table : UserTable) (user : User) :
    (∃ next, table.insert user = .ok next ∧
        table.directory.Answers (.enter user.id user.profile) (.ok (.entered user)) ∧
        next.directory = table.directory.next (.enter user.id user.profile)) ∨
      ∃ error, table.insert user = .error error ∧
        table.directory.Answers (.enter user.id user.profile) (.error (.storage error)) ∧
        table.directory.next (.enter user.id user.profile) = table.directory := by
  by_cases newId : user.id ∉ table.rows.map User.id
  · have absent : table.select user.id = none := by
      apply UserTable.select_eq_none.mpr
      intro other present same
      exact newId (same ▸ List.mem_map_of_mem present)
    have fresh : table.directory.find user.id = none := by
      rw [find_directory, absent, Option.map_none]
    by_cases newEmail : user.email ∉ table.rows.map User.email
    · have free : table.directory.Free user.id user.email := by
        apply free_directory_iff.mpr
        intro other present same
        exact absurd (List.mem_map.mpr ⟨other, present, same⟩) newEmail
      obtain ⟨next, inserted⟩ : ∃ next, table.insert user = .ok next := by
        simp only [UserTable.insert, dif_pos newId, dif_pos newEmail]
        exact ⟨_, rfl⟩
      refine .inl ⟨next, inserted, .entered fresh free, ?_⟩
      apply IndexedMap.ext
      funext id
      simp only [Directory.next, fresh]
      rw [IndexedMap.find_tryPut_of_free free, find_directory, find_directory,
        UserTable.select_insert inserted]
      by_cases same : user.id = id
      · rw [if_pos same, if_pos same.symm, Option.map_some]
      · rw [if_neg same, if_neg (Ne.symm same)]
    · have taken : ¬ table.directory.Free user.id user.email := by
        intro free
        obtain ⟨other, present, same⟩ := List.mem_map.mp (not_not.mp newEmail)
        have sameId := free_directory_iff.mp free other present same
        exact newId (sameId ▸ List.mem_map_of_mem present)
      refine .inr ⟨emailTaken, ?_, .emailTaken fresh taken, ?_⟩
      · simp only [UserTable.insert, dif_pos newId, dif_neg newEmail]
        rfl
      · simp only [Directory.next, fresh]
        exact IndexedMap.tryPut_of_taken taken
  · obtain ⟨other, present, same⟩ := List.mem_map.mp (not_not.mp newId)
    have held : table.directory.find user.id = some other.profile := by
      rw [find_directory, ← same, UserTable.select_eq_some.mpr ⟨present, rfl⟩, Option.map_some]
    refine .inr ⟨.uniqueViolation "user_pkey", ?_, .idTaken ?_, ?_⟩
    · simp only [UserTable.insert, dif_neg newId]
    · rw [held]
      exact Option.some_ne_none _
    · simp only [Directory.next, held]

/-- The emails of an updated table differ if the new email of the row is free. -/
theorem updated_emails_nodup_iff {id : Uuid} {assignment : UserTable.Assignment} :
    ((table.updatedRows id assignment).map User.email).Nodup ↔
      ∀ profile ∈ table.directory.find id,
        table.directory.Free id (profile.amended assignment).email := by
  have rowsNodup : table.rows.Nodup := List.Nodup.of_map _ table.idsNodup
  rw [UserTable.updatedRows, List.map_map, List.nodup_map_iff_inj_on rowsNodup]
  constructor
  · intro injective profile held
    obtain ⟨user, selected, rfl⟩ := Option.map_eq_some_iff.mp held
    obtain ⟨present, rfl⟩ := UserTable.select_eq_some.mp selected
    apply free_directory_iff.mpr
    intro other presentOther same
    by_contra different
    have equal := injective user present other presentOther (by
      simp only [Function.comp_apply, if_neg different, if_true]
      exact same.symm)
    exact different (congrArg User.id equal.symm)
  · intro free first present second presentSecond same
    have other (user : User) (member : user ∈ table.rows) (own : user.id = id)
        (rival : User) (memberRival : rival ∈ table.rows)
        (sameEmail : (assignment.apply user).email = rival.email) : rival.id = id := by
      have held : table.directory.find id = some user.profile := by
        rw [find_directory, UserTable.select_eq_some.mpr ⟨member, own⟩, Option.map_some]
      exact free_directory_iff.mp (free user.profile held) rival memberRival sameEmail.symm
    simp only [Function.comp_apply] at same
    have sameRow (bothIds : first.id = second.id) : first = second :=
      List.inj_on_of_nodup_map table.idsNodup present presentSecond bothIds
    by_cases atFirst : first.id = id
    · by_cases atSecond : second.id = id
      · exact sameRow (atFirst.trans atSecond.symm)
      · rw [if_pos atFirst, if_neg atSecond] at same
        exact absurd (other first present atFirst second presentSecond same) atSecond
    · by_cases atSecond : second.id = id
      · rw [if_neg atFirst, if_pos atSecond] at same
        exact absurd (other second presentSecond atSecond first present same.symm) atFirst
      · rw [if_neg atFirst, if_neg atSecond] at same
        exact List.inj_on_of_nodup_map table.emailsNodup present presentSecond same

/-- An update is an amendment of the directory. -/
theorem update_cases (table : UserTable) (id : Uuid) (assignment : UserTable.Assignment) :
    (∃ next, table.update id assignment = .ok next ∧
        table.directory.Answers (.amend id assignment) (.ok .done) ∧
        next.directory = table.directory.next (.amend id assignment)) ∨
      table.update id assignment = .error emailTaken ∧
        table.directory.Answers (.amend id assignment) (.error (.storage emailTaken)) ∧
        table.directory.next (.amend id assignment) = table.directory := by
  by_cases unique : ((table.updatedRows id assignment).map User.email).Nodup
  · have free := updated_emails_nodup_iff.mp unique
    obtain ⟨next, updated⟩ : ∃ next, table.update id assignment = .ok next := by
      simp only [UserTable.update, dif_pos unique]
      exact ⟨_, rfl⟩
    refine .inl ⟨next, updated, .amended free, ?_⟩
    cases held : table.directory.find id with
    | none =>
        simp only [Directory.next, held]
        apply directory_ext
        intro other
        rw [UserTable.select_update updated]
        split
        · next same =>
          rw [same, Option.map_eq_none_iff.mp held, Option.map_none]
        · rfl
    | some profile =>
        simp only [Directory.next, held]
        apply IndexedMap.ext
        funext other
        rw [IndexedMap.find_tryPut_of_free (free profile held), find_directory, find_directory,
          UserTable.select_update updated]
        by_cases same : other = id
        · subst same
          obtain ⟨user, selected, rfl⟩ := Option.map_eq_some_iff.mp held
          rw [if_pos rfl, if_pos rfl, selected, Option.map_some, Option.map_some]
          rfl
        · rw [if_neg same, if_neg same]
  · refine .inr ⟨?_, ?_⟩
    · simp only [UserTable.update, dif_neg unique]
      rfl
    · have refused := mt updated_emails_nodup_iff.mpr unique
      push Not at refused
      obtain ⟨profile, held, taken⟩ := refused
      refine ⟨.notAmended held taken, ?_⟩
      simp only [Directory.next, Option.mem_def.mp held]
      exact IndexedMap.tryPut_of_taken taken

theorem directory_delete (table : UserTable) (id : Uuid) :
    (table.delete id).directory = table.directory.next (.remove id) := by
  apply IndexedMap.ext
  funext other
  show _ = (table.directory.erase id).find other
  rw [IndexedMap.find_erase, find_directory, find_directory, UserTable.select_delete]
  split <;> rfl

/-- The rows of a list of identifiers are a listing of the directory. -/
theorem answers_selectIn (table : UserTable) (ids : List Uuid) :
    table.directory.Answers (.findAll ids) (.ok (.listed (table.selectIn ids))) := by
  apply Directory.Answers.listed
  · exact table.idsNodup.sublist (List.filter_sublist.map _)
  · intro user
    simp only [UserTable.selectIn, List.mem_filter, decide_eq_true_eq]
    constructor
    · rintro ⟨present, listed⟩
      refine ⟨listed, ?_⟩
      rw [find_directory, UserTable.select_eq_some.mpr ⟨present, rfl⟩, Option.map_some]
    · rintro ⟨listed, held⟩
      obtain ⟨row, selected, sameProfile⟩ := Option.map_eq_some_iff.mp held
      obtain ⟨present, sameId⟩ := UserTable.select_eq_some.mp selected
      have same : row = user := by
        rw [← row.profile_user, ← user.profile_user, sameProfile, sameId]
      exact ⟨same ▸ present, listed⟩

end Tables

end ServiceTemplate.Users
