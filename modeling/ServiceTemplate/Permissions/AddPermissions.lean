import ServiceTemplate.Permissions.PermissionsService
import ServiceTemplate.Users.UserService

/-!
# The handler of `permissions.added`

The handler sets the permissions of all listed users, or asks for a later retry
when there are fewer rows than listed texts.
-/

namespace ServiceTemplate.Permissions

open ServiceTemplate.Users

/-- The payload of `permissions.added`. -/
structure AddedMessage where
  userIds : List String
  permissions : List String
  nonempty : permissions ≠ []
  deriving DecidableEq

inductive HandlerResult where
  | success
  | retryLater
  deriving DecidableEq

def setAll (permissions : List String) (service : PermissionsService) (users : List User) :
    PermissionsService :=
  users.foldl (fun service user => service.setPermissions user.id.text permissions) service

/-- The users are read past the cache. -/
def addPermissionsHandler (users : ServiceState) (service : PermissionsService)
    (message : AddedMessage) : Except UserError (PermissionsService × HandlerResult) :=
  match UserService.getUsers users message.userIds with
  | .error error => .error error
  | .ok projectUsers =>
      if projectUsers.length < message.userIds.length then .ok (service, .retryLater)
      else .ok (setAll message.permissions service projectUsers, .success)

/-! ## The rows of a list of identifiers -/

section Rows

variable {table : UserTable} {ids : List Uuid}

/-- The rows found are those of the distinct identifiers that have one. -/
theorem map_id_selectIn_perm (table : UserTable) (ids : List Uuid) :
    List.Perm ((table.selectIn ids).map User.id)
      (ids.dedup.filter fun id => (table.select id).isSome) := by
  have rowsNodup : ((table.selectIn ids).map User.id).Nodup :=
    table.idsNodup.sublist (List.filter_sublist.map _)
  rw [List.perm_ext_iff_of_nodup rowsNodup ((List.nodup_dedup ids).filter _)]
  intro id
  simp only [List.mem_map, UserTable.selectIn, List.mem_filter, List.mem_dedup,
    decide_eq_true_eq]
  constructor
  · rintro ⟨user, ⟨present, listed⟩, rfl⟩
    exact ⟨listed, by rw [UserTable.select_eq_some.mpr ⟨present, rfl⟩]; rfl⟩
  · rintro ⟨listed, exists'⟩
    obtain ⟨user, found⟩ := Option.isSome_iff_exists.mp exists'
    obtain ⟨present, rfl⟩ := UserTable.select_eq_some.mp found
    exact ⟨user, ⟨present, listed⟩, rfl⟩

/-- There are as many rows as listed identifiers only if these are distinct and
each of them has a row. -/
theorem length_le_selectIn_iff :
    ids.length ≤ (table.selectIn ids).length ↔
      ids.Nodup ∧ ∀ id ∈ ids, (table.select id).isSome = true := by
  have found : (table.selectIn ids).length =
      (ids.dedup.filter fun id => (table.select id).isSome).length := by
    simpa using (map_id_selectIn_perm table ids).length_eq
  have fewer := List.length_filter_le (fun id => (table.select id).isSome) ids.dedup
  have distinct := (List.dedup_sublist ids).length_le
  rw [found]
  constructor
  · intro enough
    have all : ids.dedup.length = ids.length := by omega
    have same : ids.dedup = ids := (List.dedup_sublist ids).eq_of_length all
    refine ⟨List.dedup_eq_self.mp same, ?_⟩
    have every := List.length_filter_eq_length_iff.mp
      (Nat.le_antisymm fewer (by omega))
    simpa [same] using every
  · rintro ⟨nodup, every⟩
    rw [List.dedup_eq_self.mpr nodup, List.filter_eq_self.mpr every]

theorem permissionsOf_setAll (permissions : List String) (service : PermissionsService)
    (users : List User) (key : String) :
    (setAll permissions service users).permissionsOf key =
      if key ∈ users.map (·.id.text) then some permissions
      else service.permissionsOf key := by
  unfold setAll
  induction users generalizing service with
  | nil => rfl
  | cons user rest ih =>
      rw [List.foldl_cons, ih, PermissionsService.permissionsOf_setPermissions]
      by_cases later : key ∈ rest.map (·.id.text)
      · simp [later]
      · by_cases first : key = user.id.text <;> simp [later, first]

end Rows

/-- Texts that all name identifiers are read one by one. -/
theorem mapM_toUuid_eq_ok {texts : List String} (read : texts.mapM toUuid = .ok ids) :
    texts.map Uuid.parse = ids.map some := by
  induction texts generalizing ids with
  | nil => cases read; rfl
  | cons text rest ih =>
      rw [List.mapM_cons] at read
      obtain ⟨id, parsed, read⟩ := bind_eq_ok.mp read
      obtain ⟨others, readOthers, read⟩ := bind_eq_ok.mp read
      cases read
      rw [List.map_cons, List.map_cons, ih readOthers, UserRepository.toUuid_eq_ok.mp parsed]

theorem mapM_toUuid_text (ids : List Uuid) : (ids.map Uuid.text).mapM toUuid = .ok ids := by
  induction ids with
  | nil => rfl
  | cons id rest ih =>
      rw [List.map_cons, List.mapM_cons,
        UserRepository.toUuid_eq_ok.mpr (Uuid.parse_text id), ih]
      rfl

/-! ## What the handler does -/

section Handler

variable {users : ServiceState} {service : PermissionsService} {message : AddedMessage}
variable {ids : List Uuid}

/-- The handler compares the number of rows with the number of listed texts. -/
theorem addPermissionsHandler_of_read (read : message.userIds.mapM toUuid = .ok ids) :
    addPermissionsHandler users service message =
      if (users.table.selectIn ids).length < ids.length then .ok (service, .retryLater)
      else
        .ok (setAll message.permissions service (users.table.selectIn ids), .success) := by
  have sameLength : message.userIds.length = ids.length := by
    simpa using congrArg List.length (mapM_toUuid_eq_ok read)
  have found : UserService.getUsers users message.userIds =
      .ok (users.table.selectIn ids) := by
    simp only [UserService.getUsers, UserRepository.getUsers, read]
    rfl
  simp only [addPermissionsHandler, found, sameLength]

/-- After a success, the permissions of the listed users are those of the
message, and no others have changed. -/
theorem permissionsOf_of_success (read : message.userIds.mapM toUuid = .ok ids)
    {after : PermissionsService}
    (success : addPermissionsHandler users service message = .ok (after, .success))
    (key : String) :
    after.permissionsOf key =
      if key ∈ ids.map Uuid.text then some message.permissions
      else service.permissionsOf key := by
  rw [addPermissionsHandler_of_read read] at success
  split at success
  · cases success
  · next enough =>
    cases success
    obtain ⟨-, every⟩ := length_le_selectIn_iff.mp (Nat.le_of_not_lt enough)
    have sameKeys : key ∈ (users.table.selectIn ids).map (·.id.text) ↔
        key ∈ ids.map Uuid.text := by
      constructor
      · intro member
        obtain ⟨user, chosen, rfl⟩ := List.mem_map.mp member
        have listed : user.id ∈ ids := by simpa using (List.mem_filter.mp chosen).2
        exact List.mem_map_of_mem listed
      · intro member
        obtain ⟨id, listed, rfl⟩ := List.mem_map.mp member
        obtain ⟨user, found⟩ := Option.isSome_iff_exists.mp (every id listed)
        obtain ⟨present, rfl⟩ := UserTable.select_eq_some.mp found
        refine List.mem_map.mpr ⟨user, List.mem_filter.mpr ⟨present, ?_⟩, rfl⟩
        simpa using listed
    rw [permissionsOf_setAll]
    simp only [sameKeys]

end Handler

/-! ## All or nothing -/

/-- A text names a user that exists. -/
def NamesUser (users : ServiceState) (userId : String) : Prop :=
  ∃ user, UserRepository.getUser users.table userId = .ok (some user)

/-- What the handler should do with a message. -/
structure AllOrNothing (users : ServiceState) (service : PermissionsService)
    (message : AddedMessage) : Prop where
  success_iff : (∃ after, addPermissionsHandler users service message =
      .ok (after, .success)) ↔ ∀ userId ∈ message.userIds, NamesUser users userId
  all : ∀ after, addPermissionsHandler users service message = .ok (after, .success) →
    (∀ userId ∈ message.userIds, after.permissionsOf userId = some message.permissions) ∧
    (∀ userId, userId ∉ message.userIds →
      after.permissionsOf userId = service.permissionsOf userId) ∧
    after.getUserPermissionsBulk message.userIds =
      List.replicate message.userIds.dedup.length message.permissions
  nothing : (∀ after, addPermissionsHandler users service message ≠ .ok (after, .success)) →
    addPermissionsHandler users service message = .ok (service, .retryLater)

section AllOrNothing

variable {users : ServiceState} {service : PermissionsService} {message : AddedMessage}
variable {ids : List Uuid}

theorem namesUser_text {id : Uuid} :
    NamesUser users id.text ↔ (users.table.select id).isSome = true := by
  unfold NamesUser
  rw [UserRepository.getUser_of_parse (Uuid.parse_text id), Option.isSome_iff_exists]
  simp

/-- The handler succeeds if and only if the listed texts are distinct and all
name users. -/
theorem addPermissionsHandler_success_iff (users : ServiceState)
    (service : PermissionsService) (ids : List Uuid)
    (canonical : message.userIds = ids.map Uuid.text) :
    (∃ after, addPermissionsHandler users service message = .ok (after, .success)) ↔
      message.userIds.Nodup ∧ ∀ userId ∈ message.userIds, NamesUser users userId := by
  have read : message.userIds.mapM toUuid = .ok ids := by
    rw [canonical, mapM_toUuid_text]
  have every : (∀ userId ∈ message.userIds, NamesUser users userId) ↔
      ∀ id ∈ ids, (users.table.select id).isSome = true := by
    simp [canonical, namesUser_text]
  have distinct : message.userIds.Nodup ↔ ids.Nodup := by
    rw [canonical, List.nodup_map_iff Uuid.text_injective]
  rw [addPermissionsHandler_of_read read, every, distinct, ← length_le_selectIn_iff]
  split
  · next fewer =>
    refine iff_of_false ?_ (Nat.not_le_of_lt fewer)
    rintro ⟨after, same⟩
    cases same
  · next enough => exact iff_of_true ⟨_, rfl⟩ (Nat.le_of_not_lt enough)

/-- For canonical texts, the handler does what it should if and only if no text
is listed twice or some listed text names no user. -/
theorem allOrNothing_iff (users : ServiceState) (service : PermissionsService)
    (message : AddedMessage) (ids : List Uuid)
    (canonical : message.userIds = ids.map Uuid.text) :
    AllOrNothing users service message ↔
      message.userIds.Nodup ∨ ∃ userId ∈ message.userIds, ¬ NamesUser users userId := by
  have succeeds := addPermissionsHandler_success_iff users service ids canonical
  have read : message.userIds.mapM toUuid = .ok ids := by
    rw [canonical, mapM_toUuid_text]
  constructor
  · intro behaves
    by_contra repeated
    obtain ⟨notDistinct, noneMissing⟩ := not_or.mp repeated
    have every : ∀ userId ∈ message.userIds, NamesUser users userId := by
      intro userId listed
      by_contra missing
      exact noneMissing ⟨userId, listed, missing⟩
    exact notDistinct (succeeds.mp (behaves.success_iff.mpr every)).1
  · intro condition
    refine ⟨succeeds.trans ⟨And.right, fun every => ⟨?_, every⟩⟩, fun after success => ?_,
      fun fails => ?_⟩
    · apply condition.resolve_right
      rintro ⟨userId, listed, missing⟩
      exact missing (every userId listed)
    · have permissions := permissionsOf_of_success read success
      rw [← canonical] at permissions
      have all : ∀ userId ∈ message.userIds,
          after.permissionsOf userId = some message.permissions :=
        fun userId listed => (permissions userId).trans (if_pos listed)
      exact ⟨all, fun userId unlisted => (permissions userId).trans (if_neg unlisted),
        PermissionsService.getUserPermissionsBulk_eq_replicate all⟩
    · rw [addPermissionsHandler_of_read read] at fails ⊢
      split
      · rfl
      · next enough => exact absurd (if_neg enough) (fails _)

def secondId : Uuid :=
  (Uuid.parse "0190a5c4-0000-7000-8000-0000000000ac").get (by decide)

def thirdId : Uuid :=
  (Uuid.parse "0190a5c4-0000-7000-8000-0000000000ad").get (by decide)

def twoUsers : UserTable where
  rows := { id := secondId, age := none, email := ⟨"eve@example.com", by decide⟩,
            name := ⟨"Eve", by decide⟩ } :: sampleTable.rows
  idsNodup := by decide
  emailsNodup := by decide

/-- Two users have permissions, one of whom the message lists. -/
def storedPermissions : PermissionsService :=
  (PermissionsService.empty.setPermissions thirdId.text ["admin"]).setPermissions sampleId.text
    ["write"]

/-- Both listed users exist, or one is missing while the other is listed twice. -/
theorem allOrNothing_iff_twoUsers :
    AllOrNothing ⟨twoUsers, LayeredCache.empty⟩ storedPermissions
        ⟨[sampleId.text, secondId.text], ["read"], by simp⟩ ∧
      AllOrNothing ⟨sampleTable, LayeredCache.empty⟩ storedPermissions
        ⟨[sampleId.text, sampleId.text, secondId.text], ["read"], by simp⟩ := by
  constructor
  · exact (allOrNothing_iff _ _ _ [sampleId, secondId] rfl).mpr (.inl (by decide))
  · have missing : ¬ NamesUser ⟨sampleTable, LayeredCache.empty⟩ secondId.text := by
      rw [namesUser_text]
      decide
    exact (allOrNothing_iff _ _ _ [sampleId, sampleId, secondId] rfl).mpr
      (.inr ⟨secondId.text, by simp, missing⟩)

/-- A user that exists is listed twice: the handler asks for a retry, and will
do so for ever. -/
theorem repeated_not_allOrNothing :
    ¬ AllOrNothing ⟨sampleTable, LayeredCache.empty⟩ PermissionsService.empty
      ⟨[sampleId.text, sampleId.text], ["read"], by simp⟩ := by
  intro behaves
  have every : ∀ userId ∈ [sampleId.text, sampleId.text],
      NamesUser ⟨sampleTable, LayeredCache.empty⟩ userId := by
    intro userId listed
    have same : userId = sampleId.text := by simpa using listed
    rw [same, namesUser_text]
    decide
  obtain ⟨distinct, -⟩ := (addPermissionsHandler_success_iff _ _ [sampleId, sampleId] rfl).mp
    (behaves.success_iff.mpr every)
  simp at distinct

end AllOrNothing

end ServiceTemplate.Permissions
