import Mathlib.Data.List.Dedup
import ServiceTemplate.Foundations.JsObject

/-!
# The permissions service

The permissions of each user are kept in an object whose keys are the texts of
the identifiers.
-/

namespace ServiceTemplate.Permissions

structure PermissionsService where
  permissions : JsObject (List String)

namespace PermissionsService

def empty : PermissionsService := ⟨JsObject.empty⟩

variable (service : PermissionsService)

/-- `this.permissions[userId]` -/
def permissionsOf (userId : String) : Option (List String) :=
  service.permissions.get userId

def setPermissions (userId : String) (permissions : List String) : PermissionsService where
  permissions := service.permissions.set userId permissions

def getUserPermissionsBulk (userIds : List String) : List (List String) :=
  (service.permissions.entries.filter fun entry => userIds.contains entry.1).map Prod.snd

variable {service}

theorem permissionsOf_setPermissions (userId key : String) (permissions : List String) :
    (service.setPermissions userId permissions).permissionsOf key =
      if key = userId then some permissions else service.permissionsOf key :=
  JsObject.get_set userId key permissions

/-- When all listed users have the same permissions, the bulk answer is one copy
of them for each distinct listed user. -/
theorem getUserPermissionsBulk_eq_replicate {userIds permissions : List String}
    (uniform : ∀ userId ∈ userIds, service.permissionsOf userId = some permissions) :
    service.getUserPermissionsBulk userIds =
      List.replicate userIds.dedup.length permissions := by
  have keys : List.Perm
      ((service.permissions.entries.filter fun entry => userIds.contains entry.1).map Prod.fst)
      userIds.dedup := by
    rw [List.perm_ext_iff_of_nodup
      (service.permissions.keysNodup.sublist (List.filter_sublist.map _)) (List.nodup_dedup _)]
    intro key
    simp only [List.mem_map, List.mem_filter, List.contains_iff_mem, List.mem_dedup]
    constructor
    · rintro ⟨entry, ⟨-, listed⟩, rfl⟩
      exact listed
    · intro listed
      have present := JsObject.get_eq_some_iff.mp (uniform key listed)
      exact ⟨(key, permissions), ⟨present, listed⟩, rfl⟩
  refine List.eq_replicate_iff.mpr ⟨?_, fun answer member => ?_⟩
  · simpa [getUserPermissionsBulk] using keys.length_eq
  · obtain ⟨⟨key, held⟩, chosen, rfl⟩ := List.mem_map.mp member
    obtain ⟨present, listed⟩ := List.mem_filter.mp chosen
    have same := uniform key (by simpa using listed)
    rw [permissionsOf, JsObject.get_eq_some_iff.mpr present] at same
    exact Option.some.inj same

end PermissionsService

end ServiceTemplate.Permissions
