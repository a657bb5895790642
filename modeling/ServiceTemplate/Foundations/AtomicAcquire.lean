import ServiceTemplate.Foundations.LeaseStore

/-!
# Acquiring or renewing a lease as one atomic step

A client that claims a key, and renews its lease of the key if the claim is
refused, sends two commands between which anything may happen to the store.
Here it is compared with a single step that takes the key if it is free or
already the client's own, performed at some instant while the client runs.
-/

namespace ServiceTemplate

/-- A lease store together with its clock. -/
structure TimedLeases (Key Owner : Type) where
  now : Nat
  store : LeaseStore Key Owner

/-- What may happen to the store beside the client. -/
inductive Access (Key Owner : Type) where
  | tick
  | claim (key : Key) (owner : Owner) (duration : Nat)
  | renew (key : Key) (owner : Owner) (duration : Nat)
  | release (key : Key) (owner : Owner)

namespace TimedLeases

variable {Key Owner : Type} [DecidableEq Key] [DecidableEq Owner]

def holder (leases : TimedLeases Key Owner) (key : Key) : Option Owner :=
  leases.store.holder leases.now key

def access (leases : TimedLeases Key Owner) :
    Access Key Owner → TimedLeases Key Owner
  | .tick => { leases with now := leases.now + 1 }
  | .claim key owner duration =>
      { leases with store := (leases.store.claim leases.now key owner duration).1 }
  | .renew key owner duration =>
      { leases with store := (leases.store.renew leases.now key owner duration).1 }
  | .release key owner =>
      { leases with store := leases.store.release leases.now key owner }

def accesses (leases : TimedLeases Key Owner) (during : List (Access Key Owner)) :
    TimedLeases Key Owner :=
  during.foldl access leases

/-- The atomic step: take a key that is free or one's own for the given duration,
where the duration zero is over at once, and leave it alone otherwise. -/
def acquireOrRenew (leases : TimedLeases Key Owner) (key : Key) (owner : Owner)
    (duration : Nat) : TimedLeases Key Owner × Bool :=
  if leases.holder key = none ∨ leases.holder key = some owner then
    ({ leases with
        store := Function.update leases.store key
          (if duration = 0 then none else some ⟨owner, leases.now + duration⟩) }, true)
  else (leases, false)

/-- From `first` to `last` everything is as if the atomic step had been performed
at one instant among the accesses, with the given result. -/
def Atomic (key : Key) (owner : Owner) (duration : Nat)
    (first : TimedLeases Key Owner) (during : List (Access Key Owner))
    (last : TimedLeases Key Owner) (result : Bool) : Prop :=
  ∃ before after, during = before ++ after ∧
    ∃ taken, (first.accesses before).acquireOrRenew key owner duration =
      (taken, result) ∧ last = taken.accesses after

/-- At some instant among the accesses somebody else holds the key. -/
def HeldByOther (key : Key) (owner : Owner) (first : TimedLeases Key Owner)
    (during : List (Access Key Owner)) : Prop :=
  ∃ before after, during = before ++ after ∧
    ∃ other, (first.accesses before).holder key = some other ∧ other ≠ owner

variable {key : Key} {owner : Owner} {duration : Nat}
variable {first last : TimedLeases Key Owner}
variable {during : List (Access Key Owner)}

theorem accesses_append (first : TimedLeases Key Owner)
    (before after : List (Access Key Owner)) :
    first.accesses (before ++ after) = (first.accesses before).accesses after :=
  List.foldl_append

/-- The step may be performed at the end. -/
theorem atomic_of_last {taken : TimedLeases Key Owner} {result : Bool}
    (takes : (first.accesses during).acquireOrRenew key owner duration =
      (taken, result)) :
    Atomic key owner duration first during taken result :=
  ⟨during, [], (List.append_nil during).symm, taken, takes, rfl⟩

theorem atomic_of_claim (positive : 0 < duration)
    (claimed : ((first.accesses during).store.claim (first.accesses during).now
      key owner duration).2 = true) :
    Atomic key owner duration first during
      { first.accesses during with
        store := ((first.accesses during).store.claim (first.accesses during).now
          key owner duration).1 } true := by
  apply atomic_of_last
  have free : (first.accesses during).holder key = none := by
    by_contra held
    rw [LeaseStore.claim_of_held held] at claimed
    cases claimed
  rw [acquireOrRenew, if_pos (.inl free), if_neg (Nat.ne_of_gt positive),
    LeaseStore.claim_of_free free]

theorem atomic_of_renew
    (renewed : ((first.accesses during).store.renew (first.accesses during).now
      key owner duration).2 = true) :
    Atomic key owner duration first during
      { first.accesses during with
        store := ((first.accesses during).store.renew (first.accesses during).now
          key owner duration).1 } true := by
  apply atomic_of_last
  have own : (first.accesses during).holder key = some owner := by
    by_contra notHeld
    rw [LeaseStore.renew_of_not_held notHeld] at renewed
    cases renewed
  rw [acquireOrRenew, if_pos (.inr own), LeaseStore.renew_of_held own]

/-- The step is refused where somebody else holds the key, and nowhere else. -/
theorem acquireOrRenew_eq_false_iff {leases taken : TimedLeases Key Owner} :
    leases.acquireOrRenew key owner duration = (taken, false) ↔
      taken = leases ∧ ∃ other, leases.holder key = some other ∧ other ≠ owner := by
  unfold acquireOrRenew
  cases held : leases.holder key with
  | none => simp
  | some other =>
      by_cases own : other = owner
      · simp [own]
      · simp only [reduceCtorEq, Option.some.injEq, own, or_self, if_false,
          Prod.mk.injEq, and_true, exists_eq_left', ne_eq, not_false_eq_true]
        exact eq_comm

variable (duration) in
/-- To change nothing and report a failure is atomic exactly if somebody else
holds the key at some instant. -/
theorem atomic_refused_iff :
    Atomic key owner duration first during (first.accesses during) false ↔
      HeldByOther key owner first during := by
  constructor
  · rintro ⟨before, after, split, taken, refused, -⟩
    exact ⟨before, after, split, (acquireOrRenew_eq_false_iff.mp refused).2⟩
  · rintro ⟨before, after, split, held⟩
    refine ⟨before, after, split, first.accesses before, ?_, ?_⟩
    · exact acquireOrRenew_eq_false_iff.mpr ⟨rfl, held⟩
    · rw [split, accesses_append]

end TimedLeases

end ServiceTemplate
