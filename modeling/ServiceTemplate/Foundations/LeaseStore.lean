import Mathlib.Logic.Function.Basic

/-!
# A store of expiring leases

A key is either free or leased to one owner until some instant.  A lease is in
force up to and including that instant.  The three operations are atomic: claim
a free key, renew a lease one owns, and release a lease one owns.
-/

namespace ServiceTemplate

structure Lease (Owner : Type) where
  owner : Owner
  expiresAt : Nat

abbrev LeaseStore (Key Owner : Type) : Type :=
  Key → Option (Lease Owner)

namespace LeaseStore

section Holder

variable {Key Owner : Type}

/-- The owner whose lease of the key is in force. -/
def holder (store : LeaseStore Key Owner) (now : Nat) (key : Key) :
    Option Owner :=
  match store key with
  | none => none
  | some lease => if now ≤ lease.expiresAt then some lease.owner else none

variable {store : LeaseStore Key Owner} {now : Nat} {key : Key} {owner : Owner}

theorem holder_of_lease {expiresAt : Nat}
    (leased : store key = some ⟨owner, expiresAt⟩) (inForce : now ≤ expiresAt) :
    store.holder now key = some owner := by
  simp [holder, leased, inForce]

theorem exists_lease_of_holder (held : store.holder now key = some owner) :
    ∃ expiresAt, store key = some ⟨owner, expiresAt⟩ ∧ now ≤ expiresAt := by
  unfold holder at held
  cases leased : store key with
  | none => simp [leased] at held
  | some lease =>
      simp only [leased] at held
      split at held
      · next inForce =>
        cases held
        exact ⟨lease.expiresAt, rfl, inForce⟩
      · cases held

/-- Time only takes leases away. -/
theorem holder_later {later : Nat} (notBefore : now ≤ later)
    (held : store.holder later key = some owner) :
    store.holder now key = some owner := by
  unfold holder at held ⊢
  cases leased : store key with
  | none => simp [leased] at held
  | some lease =>
      simp only [leased] at held ⊢
      split at held
      · rw [if_pos (by omega)]; exact held
      · cases held

/-- A step from one store to the next that belongs to one owner: a lease that
somebody else holds stays as it is, and nobody else is given one. -/
structure OwnedBy (owner : Owner) (now : Nat)
    (before after : LeaseStore Key Owner) : Prop where
  keeps : ∀ key holder, holder ≠ owner →
    before.holder now key = some holder → after key = before key
  gives : ∀ key holder, holder ≠ owner →
    after.holder now key = some holder → before.holder now key = some holder

theorem OwnedBy.refl (owner : Owner) (now : Nat)
    (store : LeaseStore Key Owner) : OwnedBy owner now store store :=
  ⟨fun _ _ _ _ => rfl, fun _ _ _ held => held⟩

end Holder

section Operations

variable {Key Owner : Type} [DecidableEq Key]

def claim (store : LeaseStore Key Owner) (now : Nat) (key : Key)
    (owner : Owner) (duration : Nat) : LeaseStore Key Owner × Bool :=
  if store.holder now key = none then
    (Function.update store key (some ⟨owner, now + duration⟩), true)
  else
    (store, false)

variable {store : LeaseStore Key Owner} {now duration : Nat}
variable {key other : Key} {owner : Owner}

@[simp]
theorem holder_update_none :
    LeaseStore.holder (Function.update store key none) now key = none := by
  simp [holder]

theorem holder_update_of_ne {lease : Option (Lease Owner)}
    (different : other ≠ key) :
    LeaseStore.holder (Function.update store key lease) now other =
      store.holder now other := by
  simp [holder, Function.update_of_ne different]

theorem claim_of_held (held : store.holder now key ≠ none) :
    store.claim now key owner duration = (store, false) :=
  if_neg held

theorem claim_of_free (free : store.holder now key = none) :
    store.claim now key owner duration =
      (Function.update store key (some ⟨owner, now + duration⟩), true) :=
  if_pos free

theorem claim_of_true (claimed : (store.claim now key owner duration).2 = true) :
    (store.claim now key owner duration).1 key = some ⟨owner, now + duration⟩ := by
  by_cases free : store.holder now key = none
  · rw [claim_of_free free]
    exact Function.update_self _ _ _
  · rw [claim_of_held free] at claimed
    cases claimed

theorem claim_of_false (refused : (store.claim now key owner duration).2 = false) :
    (store.claim now key owner duration).1 = store := by
  by_cases free : store.holder now key = none
  · rw [claim_of_free free] at refused
    cases refused
  · rw [claim_of_held free]

theorem claim_other (different : other ≠ key) :
    (store.claim now key owner duration).1 other = store other := by
  unfold claim
  split
  · exact Function.update_of_ne different _ _
  · rfl

/-- A claim leaves every lease that is in force as it is. -/
theorem claim_of_leased {lease : Lease Owner} (leased : store other = some lease)
    (inForce : now ≤ lease.expiresAt) :
    (store.claim now key owner duration).1 other = store other := by
  by_cases same : other = key
  · subst same
    have held : store.holder now other = some lease.owner := holder_of_lease leased inForce
    rw [claim_of_held (by simp [held])]
  · exact claim_other same

/-- A lease after a claim was there before, or it is the claimed one. -/
theorem lease_of_claim {lease : Lease Owner}
    (leased : (store.claim now key owner duration).1 other = some lease) :
    store other = some lease ∨ other = key ∧ lease = ⟨owner, now + duration⟩ := by
  by_cases same : other = key
  · subst same
    by_cases free : store.holder now other = none
    · simp only [claim_of_free free, Function.update_self] at leased
      exact .inr ⟨rfl, (Option.some.inj leased).symm⟩
    · rw [claim_of_held free] at leased
      exact .inl leased
  · rw [claim_other same] at leased
    exact .inl leased

/-- Write a lease of one's own, or none, at a key that nobody else holds. -/
theorem ownedBy_update {lease : Option (Lease Owner)}
    (available : ∀ holder, store.holder now key = some holder → holder = owner)
    (own : ∀ written ∈ lease, written.owner = owner) :
    OwnedBy owner now store (Function.update store key lease) where
  keeps other holder foreign held := by
    have different : other ≠ key := by
      rintro rfl
      exact foreign (available holder held)
    exact Function.update_of_ne different _ _
  gives other holder foreign held := by
    by_cases same : other = key
    · subst same
      cases lease with
      | none => simp at held
      | some written =>
          have isOwn : written.owner = owner := own written rfl
          unfold LeaseStore.holder at held
          simp only [Function.update_self] at held
          split at held
          · cases held; exact absurd isOwn foreign
          · cases held
    · rwa [holder_update_of_ne same] at held

theorem claim_ownedBy (store : LeaseStore Key Owner) (now : Nat) (key : Key)
    (owner : Owner) (duration : Nat) :
    OwnedBy owner now store (store.claim now key owner duration).1 := by
  unfold claim
  split
  · next free =>
    exact ownedBy_update (fun holder held => by simp [free] at held)
      (fun written member => by cases member; rfl)
  · exact OwnedBy.refl owner now store

variable [DecidableEq Owner]

/-- Let one's own lease run for the given duration from now on.  The duration
zero ends it. -/
def renew (store : LeaseStore Key Owner) (now : Nat) (key : Key)
    (owner : Owner) (duration : Nat) : LeaseStore Key Owner × Bool :=
  if store.holder now key = some owner then
    (Function.update store key
      (if duration = 0 then none else some ⟨owner, now + duration⟩), true)
  else
    (store, false)

def release (store : LeaseStore Key Owner) (now : Nat) (key : Key)
    (owner : Owner) : LeaseStore Key Owner :=
  if store.holder now key = some owner then Function.update store key none
  else store

theorem renew_of_not_held (notHeld : store.holder now key ≠ some owner) :
    store.renew now key owner duration = (store, false) :=
  if_neg notHeld

theorem renew_of_held (held : store.holder now key = some owner) :
    store.renew now key owner duration =
      (Function.update store key
        (if duration = 0 then none else some ⟨owner, now + duration⟩), true) :=
  if_pos held

theorem renew_of_true (positive : 0 < duration)
    (renewed : (store.renew now key owner duration).2 = true) :
    (store.renew now key owner duration).1 key = some ⟨owner, now + duration⟩ := by
  by_cases held : store.holder now key = some owner
  · rw [renew_of_held held, if_neg (Nat.ne_of_gt positive)]
    exact Function.update_self _ _ _
  · rw [renew_of_not_held held] at renewed
    cases renewed

theorem renew_lease_of_held (positive : 0 < duration)
    (held : store.holder now key = some owner) :
    (store.renew now key owner duration).1 key = some ⟨owner, now + duration⟩ :=
  renew_of_true positive (by rw [renew_of_held held])

theorem renew_of_false (refused : (store.renew now key owner duration).2 = false) :
    (store.renew now key owner duration).1 = store := by
  by_cases held : store.holder now key = some owner
  · rw [renew_of_held held] at refused
    cases refused
  · rw [renew_of_not_held held]

theorem not_held_of_renew (refused : (store.renew now key owner duration).2 = false) :
    store.holder now key ≠ some owner := by
  intro held
  rw [renew_of_held held] at refused
  cases refused

/-- A renewal gives nobody a lease that was not in force. -/
theorem holder_of_renew {holder : Owner} {at' : Key}
    (held : (store.renew now key owner duration).1.holder now at' = some holder) :
    store.holder now at' = some holder := by
  by_cases own : store.holder now key = some owner
  · rw [renew_of_held own] at held
    by_cases same : at' = key
    · subst same
      by_cases ends : duration = 0
      · simp [ends] at held
      · simp only [if_neg ends, LeaseStore.holder, Function.update_self] at held
        rw [if_pos (Nat.le_add_right _ _)] at held
        rw [own, held]
    · rwa [holder_update_of_ne same] at held
  · rwa [renew_of_not_held own] at held

theorem renew_other (different : other ≠ key) :
    (store.renew now key owner duration).1 other = store other := by
  unfold renew
  split
  · exact Function.update_of_ne different _ _
  · rfl

/-- A lease after a renewal was there before, or it is the renewed one. -/
theorem lease_of_renew {lease : Lease Owner}
    (leased : (store.renew now key owner duration).1 other = some lease) :
    store other = some lease ∨ other = key ∧ lease = ⟨owner, now + duration⟩ := by
  by_cases same : other = key
  · subst same
    by_cases held : store.holder now other = some owner
    · simp only [renew_of_held held, Function.update_self] at leased
      split at leased
      · cases leased
      · exact .inr ⟨rfl, (Option.some.inj leased).symm⟩
    · rw [renew_of_not_held held] at leased
      exact .inl leased
  · rw [renew_other same] at leased
    exact .inl leased

theorem lease_of_release {lease : Lease Owner}
    (leased : store.release now key owner other = some lease) :
    store other = some lease := by
  unfold release at leased
  split at leased
  · by_cases same : other = key
    · subst same
      rw [Function.update_self] at leased
      cases leased
    · rwa [Function.update_of_ne same] at leased
  · exact leased

theorem release_other (different : other ≠ key) :
    store.release now key owner other = store other := by
  unfold release
  split
  · exact Function.update_of_ne different _ _
  · rfl

theorem not_held_of_release :
    (store.release now key owner).holder now key ≠ some owner := by
  unfold release
  split
  · simp
  · assumption

theorem release_of_not_held (notHeld : store.holder now key ≠ some owner) :
    store.release now key owner = store :=
  if_neg notHeld

/-- A release gives nobody a lease. -/
theorem holder_of_release {holder : Owner} {at' : Key}
    (held : (store.release now key owner).holder now at' = some holder) :
    store.holder now at' = some holder := by
  unfold release at held
  split at held
  · by_cases same : at' = key
    · subst same
      simp at held
    · rwa [holder_update_of_ne same] at held
  · exact held

theorem renew_ownedBy (store : LeaseStore Key Owner) (now : Nat) (key : Key)
    (owner : Owner) (duration : Nat) :
    OwnedBy owner now store (store.renew now key owner duration).1 := by
  unfold renew
  split
  · next held =>
    refine ownedBy_update (fun holder same => ?_) (fun written member => ?_)
    · rw [held] at same; exact (Option.some.inj same).symm
    · split at member
      · cases member
      · cases member; rfl
  · exact OwnedBy.refl owner now store

theorem release_ownedBy (store : LeaseStore Key Owner) (now : Nat) (key : Key)
    (owner : Owner) : OwnedBy owner now store (store.release now key owner) := by
  unfold release
  split
  · next held =>
    refine ownedBy_update (fun holder same => ?_) (by simp)
    rw [held] at same; exact (Option.some.inj same).symm
  · exact OwnedBy.refl owner now store

end Operations

end LeaseStore

end ServiceTemplate
