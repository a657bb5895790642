import Mathlib.Data.List.Nodup
import Mathlib.Data.Rat.Defs
import ServiceTemplate.Foundations.Uuid

/-!
# The user table

The columns of the table `user.user`, its rows, and the statements that the
repository sends: each is rejected when a value does not fit its column, or when
a row would violate the uniqueness of the primary key or of the email.
-/

namespace ServiceTemplate.Users

/-- Every finite number of JavaScript is a rational number. -/
abbrev JsNumber : Type := ℚ

/-- The values of an `integer` column. -/
structure Int4 where
  value : Int
  lower : -2147483648 ≤ value
  upper : value ≤ 2147483647
  deriving DecidableEq

/-- The values of a `varchar` column without a length: every text without the
character zero. -/
structure Varchar where
  text : String
  noZero : '\x00' ∉ text.toList
  deriving DecidableEq

/-- What the database, or `drizzle` before it, answers to a statement that it
does not execute. -/
inductive StorageError where
  | invalidUuid (text : String)
  | invalidInteger (value : JsNumber)
  | integerOutOfRange (value : JsNumber)
  | zeroInText (text : String)
  | notNullViolation (column : String)
  | noValuesToSet
  | uniqueViolation (constraint : String)
  deriving DecidableEq

structure User where
  id : Uuid
  age : Option Int4
  email : Varchar
  name : Varchar
  deriving DecidableEq

/-! ## Values for a column -/

def toUuid (text : String) : Except StorageError Uuid :=
  match Uuid.parse text with
  | some uuid => .ok uuid
  | none => .error (.invalidUuid text)

def toInt4 (value : JsNumber) : Except StorageError Int4 :=
  if value.den = 1 then
    if bounds : -2147483648 ≤ value.num ∧ value.num ≤ 2147483647 then
      .ok ⟨value.num, bounds.1, bounds.2⟩
    else .error (.integerOutOfRange value)
  else .error (.invalidInteger value)

def toVarchar (text : String) : Except StorageError Varchar :=
  if noZero : '\x00' ∉ text.toList then .ok ⟨text, noZero⟩
  else .error (.zeroInText text)

/-! ## The table -/

structure UserTable where
  rows : List User
  idsNodup : (rows.map User.id).Nodup
  emailsNodup : (rows.map User.email).Nodup

namespace UserTable

def empty : UserTable := ⟨[], by simp, by simp⟩

variable (table : UserTable)

/-- `SELECT … WHERE id = …` -/
def select (id : Uuid) : Option User :=
  table.rows.find? (·.id = id)

/-- `SELECT … WHERE id IN (…)`: every matching row once. -/
def selectIn (ids : List Uuid) : List User :=
  table.rows.filter (·.id ∈ ids)

/-- `INSERT INTO …` -/
def insert (user : User) : Except StorageError UserTable :=
  if newId : user.id ∉ table.rows.map User.id then
    if newEmail : user.email ∉ table.rows.map User.email then
      .ok
        { rows := user :: table.rows
          idsNodup := by simpa using ⟨by simpa using newId, table.idsNodup⟩
          emailsNodup := by simpa using ⟨by simpa using newEmail, table.emailsNodup⟩ }
    else .error (.uniqueViolation "user_email_unique")
  else .error (.uniqueViolation "user_pkey")

/-- `DELETE … WHERE id = …` -/
def delete (id : Uuid) : UserTable where
  rows := table.rows.filter (·.id ≠ id)
  idsNodup := table.idsNodup.sublist (List.filter_sublist.map _)
  emailsNodup := table.emailsNodup.sublist (List.filter_sublist.map _)

/-- The columns that an `UPDATE` sets. -/
structure Assignment where
  age : Option Int4 := none
  email : Option Varchar := none
  name : Option Varchar := none
  deriving DecidableEq

def Assignment.apply (assignment : Assignment) (user : User) : User where
  id := user.id
  age := assignment.age <|> user.age
  email := assignment.email.getD user.email
  name := assignment.name.getD user.name

def updatedRows (id : Uuid) (assignment : Assignment) : List User :=
  table.rows.map fun user => if user.id = id then assignment.apply user else user

theorem map_id_updatedRows (id : Uuid) (assignment : Assignment) :
    (table.updatedRows id assignment).map User.id = table.rows.map User.id := by
  simp only [updatedRows, List.map_map]
  refine List.map_congr_left fun user _ => ?_
  simp only [Function.comp_apply]
  split <;> rfl

/-- `UPDATE … SET … WHERE id = …` -/
def update (id : Uuid) (assignment : Assignment) : Except StorageError UserTable :=
  if unique : ((table.updatedRows id assignment).map User.email).Nodup then
    .ok
      { rows := table.updatedRows id assignment
        idsNodup := by rw [map_id_updatedRows]; exact table.idsNodup
        emailsNodup := unique }
  else .error (.uniqueViolation "user_email_unique")

variable {table}

/-! ## What a statement does to the row of an identifier -/

theorem select_eq_some {id : Uuid} {user : User} :
    table.select id = some user ↔ user ∈ table.rows ∧ user.id = id := by
  constructor
  · intro found
    exact ⟨List.mem_of_find?_eq_some found, by simpa using List.find?_some found⟩
  · rintro ⟨present, rfl⟩
    cases found : table.select user.id with
    | none =>
        have missing := List.find?_eq_none.mp found user present
        simp at missing
    | some other =>
        have sameId : other.id = user.id := by simpa using List.find?_some found
        have same := List.inj_on_of_nodup_map table.idsNodup
          (List.mem_of_find?_eq_some found) present sameId
        rw [same]

theorem select_eq_none {id : Uuid} :
    table.select id = none ↔ ∀ user ∈ table.rows, user.id ≠ id := by
  simp [select]

/-- Two tables with the same rows up to their order select the same. -/
theorem select_congr {other : UserTable} {id : Uuid}
    (same : ∀ user, user.id = id → (user ∈ table.rows ↔ user ∈ other.rows)) :
    table.select id = other.select id := by
  refine Option.ext fun user => ?_
  rw [select_eq_some, select_eq_some]
  constructor
  · rintro ⟨present, hasId⟩
    exact ⟨(same user hasId).mp present, hasId⟩
  · rintro ⟨present, hasId⟩
    exact ⟨(same user hasId).mpr present, hasId⟩

/-- An insertion that succeeds adds exactly its row. -/
theorem insert_eq_ok {user : User} {next : UserTable}
    (inserted : table.insert user = .ok next) :
    next.rows = user :: table.rows ∧ table.select user.id = none := by
  unfold insert at inserted
  split at inserted
  · next newId =>
    split at inserted
    · cases inserted
      refine ⟨rfl, select_eq_none.mpr fun other present same => newId ?_⟩
      rw [← same]
      exact List.mem_map_of_mem present
    · cases inserted
  · cases inserted

theorem select_insert {user : User} {next : UserTable}
    (inserted : table.insert user = .ok next) (id : Uuid) :
    next.select id = if user.id = id then some user else table.select id := by
  obtain ⟨rows, -⟩ := insert_eq_ok inserted
  by_cases same : user.id = id
  · rw [if_pos same, select_eq_some]
    exact ⟨by rw [rows]; exact List.mem_cons_self, same⟩
  · rw [if_neg same]
    refine select_congr fun other hasId => ?_
    rw [rows, List.mem_cons]
    refine or_iff_right fun equal => same ?_
    rw [← equal, hasId]

theorem select_delete (id other : Uuid) :
    (table.delete id).select other = if other = id then none else table.select other := by
  by_cases same : other = id
  · rw [if_pos same, select_eq_none]
    intro user present
    have kept := (List.mem_filter.mp present).2
    simpa [same] using kept
  · rw [if_neg same]
    refine select_congr fun user hasId => ?_
    simp [delete, hasId, same]

theorem update_eq_ok {id : Uuid} {assignment : Assignment} {next : UserTable}
    (updated : table.update id assignment = .ok next) :
    next.rows = table.updatedRows id assignment := by
  unfold update at updated
  split at updated
  · cases updated; rfl
  · cases updated

theorem select_update {id : Uuid} {assignment : Assignment} {next : UserTable}
    (updated : table.update id assignment = .ok next) (other : Uuid) :
    next.select other =
      if other = id then (table.select other).map assignment.apply
      else table.select other := by
  have rows := update_eq_ok updated
  refine Option.ext fun user => ?_
  rw [select_eq_some, rows, updatedRows, List.mem_map]
  split
  · next same =>
    rw [Option.map_eq_some_iff]
    constructor
    · rintro ⟨⟨before, present, rfl⟩, hasId⟩
      by_cases touched : before.id = id
      · rw [if_pos touched]
        exact ⟨before, select_eq_some.mpr ⟨present, touched.trans same.symm⟩, rfl⟩
      · rw [if_neg touched] at hasId
        exact absurd (hasId.trans same) touched
    · rintro ⟨before, found, rfl⟩
      obtain ⟨present, hasId⟩ := select_eq_some.mp found
      exact ⟨⟨before, present, if_pos (hasId.trans same)⟩, hasId⟩
  · next different =>
    rw [select_eq_some]
    constructor
    · rintro ⟨⟨before, present, rfl⟩, hasId⟩
      by_cases touched : before.id = id
      · rw [if_pos touched] at hasId
        exact absurd (hasId.symm.trans touched) different
      · rw [if_neg touched] at hasId ⊢
        exact ⟨present, hasId⟩
    · rintro ⟨present, hasId⟩
      refine ⟨⟨user, present, if_neg fun touched => different ?_⟩, hasId⟩
      exact hasId.symm.trans touched

end UserTable

/-! ## A table with one row -/

/-- The identifier of that user. -/
def sampleId : Uuid :=
  (Uuid.parse "0190a5c4-0000-7000-8000-0000000000ab").get (by decide)

def sampleTable : UserTable where
  rows := [{ id := sampleId, age := none, email := ⟨"ada@example.com", by decide⟩,
             name := ⟨"Ada", by decide⟩ }]
  idsNodup := by decide
  emailsNodup := by decide

end ServiceTemplate.Users
