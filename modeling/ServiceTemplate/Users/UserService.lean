import ServiceTemplate.Foundations.LayeredCache
import ServiceTemplate.Users.UserTable

/-!
# The user repository and the user service

The repository turns the texts and numbers it is given into statements on the
user table.  The service writes through it and reads through a cache of two
layers, whose keys are the texts of the identifiers as the caller wrote them.
-/

namespace ServiceTemplate.Users

def convertOptional {Value Result : Type} (convert : Value → Except StorageError Result) :
    Option Value → Except StorageError (Option Result)
  | none => .ok none
  | some value => (convert value).map some

theorem bind_eq_ok {Value Result : Type} {first : Except StorageError Value}
    {next : Value → Except StorageError Result} {result : Result} :
    (first >>= next) = .ok result ↔ ∃ value, first = .ok value ∧ next value = .ok result := by
  cases first with
  | error error => exact ⟨fun done => (nomatch done), fun ⟨_, done, _⟩ => (nomatch done)⟩
  | ok value =>
      constructor
      · intro done
        exact ⟨value, rfl, done⟩
      · rintro ⟨other, same, done⟩
        cases same
        exact done

structure NewUser where
  name : Option String
  age : Option JsNumber
  email : String

/-- The columns to set; an undefined one is left as it is. -/
structure UpdatedUser where
  age : Option JsNumber := none
  email : Option String := none
  name : Option String := none

namespace UserRepository

def getUser (table : UserTable) (id : String) : Except StorageError (Option User) := do
  let id ← toUuid id
  return table.select id

def getUsers (table : UserTable) (userIds : List String) :
    Except StorageError (List User) := do
  let ids ← userIds.mapM toUuid
  return table.selectIn ids

def deleteUser (table : UserTable) (id : String) :
    Except StorageError (UserTable × Option User) := do
  let id ← toUuid id
  return (table.delete id, table.select id)

def updateUser (table : UserTable) (id : String) (updatedUser : UpdatedUser) :
    Except StorageError (UserTable × Option User) := do
  -- `drizzle` refuses an update that sets no column
  if updatedUser.age.isNone ∧ updatedUser.email.isNone ∧ updatedUser.name.isNone then
    throw .noValuesToSet
  let id ← toUuid id
  let age ← convertOptional toInt4 updatedUser.age
  let email ← convertOptional toVarchar updatedUser.email
  let name ← convertOptional toVarchar updatedUser.name
  let updated ← table.update id { age, email, name }
  return (updated, updated.select id)

/-- The column `id` is filled with a generated identifier. -/
def createUser (table : UserTable) (generated : Uuid) (user : NewUser) :
    Except StorageError (UserTable × User) := do
  let age ← convertOptional toInt4 user.age
  let email ← toVarchar user.email
  let name ← convertOptional toVarchar user.name
  match name with
  | none => throw (.notNullViolation "name")
  | some name =>
      let row : User := { id := generated, age, email, name }
      let inserted ← table.insert row
      return (inserted, row)

end UserRepository

/-! ## The service -/

/-- A field that may be undefined or null. -/
abbrev Nullish (Value : Type) : Type := Option (Option Value)

structure UserCreateDTO where
  name : String
  age : Nullish JsNumber
  email : String

structure UserUpdateDTO where
  name : Option String
  email : Option String

/-- The row to insert: an undefined field becomes null. -/
def UserCreateDTO.toNewUser (user : UserCreateDTO) : NewUser :=
  { name := some user.name, age := user.age.join, email := user.email }

def UserUpdateDTO.toUpdatedUser (updatedData : UserUpdateDTO) : UpdatedUser :=
  { name := updatedData.name, email := updatedData.email }

inductive UserError where
  | storage (error : StorageError)
  | entityNotFound (message id : String)
  deriving DecidableEq

/-- The table, and the cache of the user loader.  A cached absence is an entry. -/
structure ServiceState where
  table : UserTable
  cache : LayeredCache String (Option User)

namespace UserService

variable (state : ServiceState)

def createUser (generated : Uuid) (user : UserCreateDTO) :
    ServiceState × Except UserError User :=
  match UserRepository.createUser state.table generated user.toNewUser with
  | .error error => (state, .error (.storage error))
  | .ok (table, newUser) =>
      (⟨table, state.cache.invalidate newUser.id.text⟩, .ok newUser)

def deleteUser (userId : String) : ServiceState × Except UserError Unit :=
  match UserRepository.deleteUser state.table userId with
  | .error error => (state, .error (.storage error))
  | .ok (table, _) => (⟨table, state.cache.invalidate userId⟩, .ok ())

def updateUser (userId : String) (updatedData : UserUpdateDTO) :
    ServiceState × Except UserError Unit :=
  match UserRepository.updateUser state.table userId updatedData.toUpdatedUser with
  | .error error => (state, .error (.storage error))
  | .ok (table, _) => (⟨table, state.cache.invalidate userId⟩, .ok ())

/-- `userLoader.getInMemoryOnly(id) ?? await userLoader.get(id)`.  A cached
absence in memory is nullish, so the loader is asked again. -/
def load (id : String) : ServiceState × Except StorageError (Option User) :=
  match state.cache.memory id with
  | some (some user) => (state, .ok (some user))
  | _ =>
      let (cache, answer) := state.cache.get (UserRepository.getUser state.table) id
      (⟨state.table, cache⟩, answer)

/-- Asking the memory of the node first makes no difference: the loader does so
itself. -/
theorem load_eq_get (id : String) :
    load state id =
      (⟨state.table, (state.cache.get (UserRepository.getUser state.table) id).1⟩,
        (state.cache.get (UserRepository.getUser state.table) id).2) := by
  unfold load
  split
  · next user inMemory => simp [LayeredCache.get, inMemory]
  · rfl

def foundOrError (userId : String) :
    Except StorageError (Option User) → Except UserError User
  | .ok (some user) => .ok user
  | .ok none => .error (.entityNotFound "User not found" userId)
  | .error error => .error (.storage error)

def foundOrNull : Except StorageError (Option User) → Except UserError (Option User)
  | .ok found => .ok found
  | .error error => .error (.storage error)

def getUser (userId : String) : ServiceState × Except UserError User :=
  let (state, loaded) := load state userId
  (state, foundOrError userId loaded)

def findUserById (id : String) : ServiceState × Except UserError (Option User) :=
  let (state, loaded) := load state id
  (state, foundOrNull loaded)

def getUsers (userIds : List String) : Except UserError (List User) :=
  match UserRepository.getUsers state.table userIds with
  | .error error => .error (.storage error)
  | .ok users => .ok users

end UserService

/-! ## What a write does to the table -/

namespace UserRepository

variable {table : UserTable}

theorem toUuid_eq_ok {id : String} {uuid : Uuid} :
    toUuid id = .ok uuid ↔ Uuid.parse id = some uuid := by
  unfold toUuid
  cases Uuid.parse id <;> simp

/-- The source answers a text that names an identifier with the row of it. -/
theorem getUser_of_parse {id : String} {uuid : Uuid} (names : Uuid.parse id = some uuid) :
    getUser table id = .ok (table.select uuid) := by
  unfold getUser
  rw [toUuid_eq_ok.mpr names]
  rfl

/-- A text that names no identifier is refused, whatever the table holds. -/
theorem getUser_of_not_parse {id : String} (invalid : Uuid.parse id = none) :
    getUser table id = .error (.invalidUuid id) := by
  simp only [getUser, toUuid, invalid]
  rfl

theorem deleteUser_eq_ok {id : String} {next : UserTable} {deleted : Option User}
    (done : deleteUser table id = .ok (next, deleted)) :
    ∃ uuid, Uuid.parse id = some uuid ∧ next = table.delete uuid := by
  obtain ⟨uuid, parsed, rest⟩ := bind_eq_ok.mp done
  cases rest
  exact ⟨uuid, toUuid_eq_ok.mp parsed, rfl⟩

theorem toVarchar_eq_ok {text : String} {value : Varchar} (fits : toVarchar text = .ok value) :
    value.text = text := by
  unfold toVarchar at fits
  split at fits
  · cases fits; rfl
  · cases fits

theorem convertOptional_toVarchar_eq_ok {text : Option String} {value : Option Varchar}
    (fits : convertOptional toVarchar text = .ok value) : value.map Varchar.text = text := by
  cases text with
  | none => cases fits; rfl
  | some text =>
      simp only [convertOptional] at fits
      cases converted : toVarchar text with
      | error error => rw [converted] at fits; cases fits
      | ok varchar =>
          rw [converted] at fits
          cases fits
          exact congrArg some (toVarchar_eq_ok converted)

theorem updateUser_eq_ok {id : String} {updatedUser : UpdatedUser} {next : UserTable}
    {updated : Option User} (done : updateUser table id updatedUser = .ok (next, updated)) :
    ∃ uuid assignment, Uuid.parse id = some uuid ∧
      assignment.email.map Varchar.text = updatedUser.email ∧
      table.update uuid assignment = .ok next := by
  unfold updateUser at done
  split at done
  · cases done
  · obtain ⟨uuid, parsed, done⟩ := bind_eq_ok.mp done
    obtain ⟨age, -, done⟩ := bind_eq_ok.mp done
    obtain ⟨email, emailFits, done⟩ := bind_eq_ok.mp done
    obtain ⟨name, -, done⟩ := bind_eq_ok.mp done
    obtain ⟨after, stored, done⟩ := bind_eq_ok.mp done
    cases done
    exact ⟨uuid, _, toUuid_eq_ok.mp parsed, convertOptional_toVarchar_eq_ok emailFits,
      stored⟩

theorem createUser_eq_ok {generated : Uuid} {user : NewUser} {next : UserTable}
    {newUser : User} (done : createUser table generated user = .ok (next, newUser)) :
    newUser.id = generated ∧ newUser.email.text = user.email ∧
      table.insert newUser = .ok next := by
  obtain ⟨age, -, done⟩ := bind_eq_ok.mp done
  obtain ⟨email, emailFits, done⟩ := bind_eq_ok.mp done
  obtain ⟨name, -, done⟩ := bind_eq_ok.mp done
  cases name with
  | none => cases done
  | some name =>
      obtain ⟨inserted, stored, done⟩ := bind_eq_ok.mp done
      cases done
      exact ⟨rfl, toVarchar_eq_ok emailFits, stored⟩

end UserRepository

end ServiceTemplate.Users
