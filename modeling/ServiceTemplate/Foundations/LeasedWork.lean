import ServiceTemplate.Foundations.LeaseStore

/-!
# Work under leases that outlive it

A worker claims the lease of a free key, works on the key while it renews the
lease from time to time, and stops without releasing it.  The lease then runs
out by itself.  So the workers exclude each other, and after one of them has
stopped, the key rests for a while.
-/

namespace ServiceTemplate

/-- What a worker works on, as whom it has claimed the lease, and when at the
latest it renews the lease next. -/
structure Work (Key Owner : Type) where
  key : Key
  owner : Owner
  dueAt : Nat

structure LeasedWork (Key Owner Worker : Type) where
  now : Nat
  locks : LeaseStore Key Owner
  works : Worker → Option (Work Key Owner)

namespace LeasedWork

variable {Key Owner Worker : Type}

/-- A worker holds the lease of its key, which is renewed before it ends and
never ends much later than that. -/
structure Kept (timeout interval : Nat) (state : LeasedWork Key Owner Worker)
    (work : Work Key Owner) : Prop where
  notOverdue : state.now ≤ work.dueAt
  leased : ∃ expiresAt, state.locks work.key = some ⟨work.owner, expiresAt⟩ ∧
    work.dueAt + timeout ≤ expiresAt + interval ∧ expiresAt ≤ state.now + timeout

/-- The workers hold their leases, and no two of them work on one key. -/
structure Sound (timeout interval : Nat) (state : LeasedWork Key Owner Worker) : Prop where
  kept : ∀ worker work, state.works worker = some work → state.Kept timeout interval work
  exclusive : ∀ first second firstWork secondWork,
    state.works first = some firstWork → state.works second = some secondWork →
      firstWork.key = secondWork.key → first = second

section Kept

variable {timeout interval : Nat} {state next : LeasedWork Key Owner Worker}
variable {work : Work Key Owner}

theorem Kept.held (kept : state.Kept timeout interval work) (refreshed : interval ≤ timeout) :
    state.locks.holder state.now work.key = some work.owner := by
  obtain ⟨expiresAt, leased, inTime, -⟩ := kept.leased
  have notOverdue := kept.notOverdue
  exact LeaseStore.holder_of_lease leased (by omega)

/-- A lease is kept by every step that changes neither its key nor the time. -/
theorem Kept.of_same_lease (kept : state.Kept timeout interval work)
    (now : next.now = state.now) (locks : next.locks work.key = state.locks work.key) :
    next.Kept timeout interval work := by
  obtain ⟨expiresAt, leased, inTime, bounded⟩ := kept.leased
  constructor
  · rw [now]; exact kept.notOverdue
  · exact ⟨expiresAt, locks.trans leased, inTime, by rw [now]; exact bounded⟩

theorem Kept.of_written (leased : state.locks work.key = some ⟨work.owner, state.now + timeout⟩)
    (notBefore : state.now ≤ work.dueAt) (inTime : work.dueAt ≤ state.now + interval) :
    state.Kept timeout interval work := by
  constructor
  · exact notBefore
  · exact ⟨state.now + timeout, leased, by omega, Nat.le_refl _⟩

end Kept

section Sound

variable {timeout interval : Nat} {state : LeasedWork Key Owner Worker}

theorem Sound.pass (sound : state.Sound timeout interval)
    (early : ∀ worker work, state.works worker = some work → state.now < work.dueAt) :
    Sound timeout interval { state with now := state.now + 1 } where
  kept worker work working := by
    obtain ⟨expiresAt, leased, inTime, bounded⟩ := (sound.kept worker work working).leased
    constructor
    · exact early worker work working
    · exact ⟨expiresAt, leased, inTime, Nat.le_trans bounded (by simp only; omega)⟩
  exclusive := sound.exclusive

theorem Sound.stop (sound : state.Sound timeout interval)
    {works : Worker → Option (Work Key Owner)}
    (fewer : ∀ worker, works worker = state.works worker ∨ works worker = none) :
    Sound timeout interval { state with works := works } := by
  have worked (worker : Worker) (work : Work Key Owner) (working : works worker = some work) :
      state.works worker = some work := by
    rcases fewer worker with same | stopped
    · rw [← same, working]
    · rw [stopped] at working
      cases working
  constructor
  · intro worker work working
    exact (sound.kept worker work (worked worker work working)).of_same_lease rfl rfl
  · intro first second firstWork secondWork firstWorking secondWorking
    exact sound.exclusive first second firstWork secondWork (worked _ _ firstWorking)
      (worked _ _ secondWorking)

end Sound

/-- Until the given instant the key is leased and nobody works on it. -/
def RestsUntil (state : LeasedWork Key Owner Worker) (key : Key) (instant : Nat) : Prop :=
  state.now < instant →
    (∀ worker work, state.works worker = some work → work.key ≠ key) ∧
      ∃ lease, state.locks key = some lease ∧ instant ≤ lease.expiresAt

/-- Nobody works on the key, and its lease ends at the given instant at the latest. -/
structure EndsBy (state : LeasedWork Key Owner Worker) (key : Key) (instant : Nat) : Prop where
  unworked : ∀ worker work, state.works worker = some work → work.key ≠ key
  bounded : ∀ lease, state.locks key = some lease → lease.expiresAt ≤ instant

section Unworked

variable {timeout interval instant : Nat} {state : LeasedWork Key Owner Worker} {key : Key}

theorem EndsBy.free (ends : state.EndsBy key instant) (later : instant < state.now) :
    state.locks.holder state.now key = none := by
  unfold LeaseStore.holder
  cases leased : state.locks key with
  | none => rfl
  | some lease =>
      have bounded := ends.bounded lease leased
      exact if_neg (by omega)

/-- The worker of a key stops. -/
theorem Sound.stopped (refreshed : interval ≤ timeout)
    (sound : state.Sound timeout interval) {worker : Worker}
    {work : Work Key Owner} (working : state.works worker = some work)
    {works : Worker → Option (Work Key Owner)}
    (fewer : ∀ other, works other = state.works other ∨ works other = none)
    (stops : works worker = none) :
    RestsUntil { state with works := works } work.key (state.now + (timeout - interval)) ∧
      EndsBy { state with works := works } work.key (state.now + timeout) := by
  have unworked (other : Worker) (otherWork : Work Key Owner)
      (otherWorking : works other = some otherWork) : otherWork.key ≠ work.key := by
    intro sameKey
    rcases fewer other with same | stopped
    · rw [same] at otherWorking
      have isWorker :=
        sound.exclusive other worker otherWork work otherWorking working sameKey
      rw [isWorker] at same otherWorking
      rw [← same, stops] at otherWorking
      cases otherWorking
    · rw [stopped] at otherWorking
      cases otherWorking
  have kept := sound.kept worker work working
  have notOverdue := kept.notOverdue
  obtain ⟨expiresAt, leased, inTime, bounded⟩ := kept.leased
  constructor
  · intro early
    exact ⟨unworked, _, leased, by simp only; omega⟩
  · apply EndsBy.mk unworked
    intro lease leasedNow
    rw [leased] at leasedNow
    cases leasedNow
    exact bounded

end Unworked

section Attempts

variable [DecidableEq Key]
variable {timeout interval : Nat} {state : LeasedWork Key Owner Worker}

/-- Nobody's attempt touches a lease that is kept. -/
theorem Kept.claim {work : Work Key Owner} (kept : state.Kept timeout interval work)
    (refreshed : interval ≤ timeout) (key : Key) (owner : Owner) :
    (state.locks.claim state.now key owner timeout).1 work.key = state.locks work.key := by
  obtain ⟨expiresAt, leased, inTime, -⟩ := kept.leased
  have notOverdue := kept.notOverdue
  exact LeaseStore.claim_of_leased leased (by simp only; omega)

theorem Sound.attempt (refreshed : interval ≤ timeout) (sound : state.Sound timeout interval)
    (key : Key) (owner : Owner) :
    Sound timeout interval
      { state with locks := (state.locks.claim state.now key owner timeout).1 } where
  kept worker work working := by
    have kept := sound.kept worker work working
    exact kept.of_same_lease rfl (kept.claim refreshed key owner)
  exclusive := sound.exclusive

variable [DecidableEq Worker]

theorem Sound.begin (refreshed : interval ≤ timeout) (sound : state.Sound timeout interval)
    {worker : Worker} {key : Key} (owner : Owner)
    (free : state.locks.holder state.now key = none) :
    Sound timeout interval
      { state with
        locks := (state.locks.claim state.now key owner timeout).1
        works := Function.update state.works worker
          (some ⟨key, owner, state.now + interval⟩) } := by
  have claimed : state.locks.claim state.now key owner timeout =
      (Function.update state.locks key (some ⟨owner, state.now + timeout⟩), true) :=
    LeaseStore.claim_of_free free
  -- nobody works on a key that is free
  have unworked (other : Worker) (work : Work Key Owner)
      (working : state.works other = some work) : work.key ≠ key := by
    rintro rfl
    have held := (sound.kept other work working).held refreshed
    rw [free] at held
    cases held
  constructor
  · intro other work working
    by_cases same : other = worker
    · subst same
      simp only [Function.update_self, Option.some.injEq] at working
      subst working
      apply Kept.of_written _ (Nat.le_add_right _ _) (Nat.le_refl _)
      simp [claimed]
    · simp only [Function.update_of_ne same] at working
      have kept := sound.kept other work working
      exact kept.of_same_lease rfl (kept.claim refreshed key owner)
  · intro first second firstWork secondWork firstWorking secondWorking sameKey
    by_cases firstNew : first = worker <;> by_cases secondNew : second = worker
    · rw [firstNew, secondNew]
    · simp only [firstNew, Function.update_self, Option.some.injEq] at firstWorking
      subst firstWorking
      simp only [Function.update_of_ne secondNew] at secondWorking
      exact absurd sameKey.symm (unworked second secondWork secondWorking)
    · simp only [secondNew, Function.update_self, Option.some.injEq] at secondWorking
      subst secondWorking
      simp only [Function.update_of_ne firstNew] at firstWorking
      exact absurd sameKey (unworked first firstWork firstWorking)
    · simp only [Function.update_of_ne firstNew] at firstWorking
      simp only [Function.update_of_ne secondNew] at secondWorking
      exact sound.exclusive first second firstWork secondWork firstWorking secondWorking sameKey

end Attempts

variable [DecidableEq Key] [DecidableEq Owner] [DecidableEq Worker]

/-- One step, with the key that somebody attempts to claim in it.  The leases
have the given duration, and are renewed at the given interval. -/
inductive Step (timeout interval : Nat) :
    LeasedWork Key Owner Worker → Option Key → LeasedWork Key Owner Worker → Prop
  | pass {state : LeasedWork Key Owner Worker}
      (early : ∀ worker work, state.works worker = some work → state.now < work.dueAt) :
      Step timeout interval state none { state with now := state.now + 1 }
  | renew {state : LeasedWork Key Owner Worker} {worker : Worker} {work : Work Key Owner}
      {dueAt : Nat} (working : state.works worker = some work)
      (notBefore : state.now ≤ dueAt) (inTime : dueAt ≤ state.now + interval) :
      Step timeout interval state none
        { state with
          locks := (state.locks.renew state.now work.key work.owner timeout).1
          works := Function.update state.works worker (some { work with dueAt := dueAt }) }
  | begin {state : LeasedWork Key Owner Worker} {worker : Worker} {key : Key}
      (owner : Owner) (idle : state.works worker = none)
      (free : state.locks.holder state.now key = none) :
      Step timeout interval state (some key)
        { state with
          locks := (state.locks.claim state.now key owner timeout).1
          works := Function.update state.works worker
            (some ⟨key, owner, state.now + interval⟩) }
  /-- an attempt that is refused, or whose success nobody learns of -/
  | attempt {state : LeasedWork Key Owner Worker} (key : Key) (owner : Owner) :
      Step timeout interval state (some key)
        { state with locks := (state.locks.claim state.now key owner timeout).1 }
  | stop {state : LeasedWork Key Owner Worker} (works : Worker → Option (Work Key Owner))
      (fewer : ∀ worker, works worker = state.works worker ∨ works worker = none) :
      Step timeout interval state none { state with works := works }

section Steps

variable {timeout interval : Nat} {state next : LeasedWork Key Owner Worker}
variable {attempted : Option Key}

theorem Sound.renew (positive : 0 < timeout) (refreshed : interval ≤ timeout)
    (sound : state.Sound timeout interval) {worker : Worker} {work : Work Key Owner}
    {dueAt : Nat} (working : state.works worker = some work)
    (notBefore : state.now ≤ dueAt) (inTime : dueAt ≤ state.now + interval) :
    Sound timeout interval
      { state with
        locks := (state.locks.renew state.now work.key work.owner timeout).1
        works := Function.update state.works worker (some { work with dueAt := dueAt }) } := by
  have held := (sound.kept worker work working).held refreshed
  have renewed := LeaseStore.renew_lease_of_held positive held
  constructor
  · intro other otherWork otherWorking
    by_cases same : other = worker
    · subst same
      simp only [Function.update_self, Option.some.injEq] at otherWorking
      subst otherWorking
      apply Kept.of_written _ notBefore inTime
      simp [renewed]
    · simp only [Function.update_of_ne same] at otherWorking
      have different : otherWork.key ≠ work.key := by
        intro sameKey
        exact same (sound.exclusive other worker otherWork work otherWorking working sameKey)
      have kept := sound.kept other otherWork otherWorking
      exact kept.of_same_lease rfl (LeaseStore.renew_other different)
  · have works (other : Worker) (otherWork : Work Key Owner)
        (otherWorking : Function.update state.works worker
          (some { work with dueAt := dueAt }) other = some otherWork) :
        ∃ earlier, state.works other = some earlier ∧ earlier.key = otherWork.key := by
      by_cases same : other = worker
      · subst same
        simp only [Function.update_self, Option.some.injEq] at otherWorking
        subst otherWorking
        exact ⟨work, working, rfl⟩
      · rw [Function.update_of_ne same] at otherWorking
        exact ⟨otherWork, otherWorking, rfl⟩
    intro first second firstWork secondWork firstWorking secondWorking sameKey
    obtain ⟨firstEarlier, firstWorked, firstKey⟩ := works first firstWork firstWorking
    obtain ⟨secondEarlier, secondWorked, secondKey⟩ := works second secondWork secondWorking
    apply sound.exclusive first second firstEarlier secondEarlier firstWorked secondWorked
    rw [firstKey, secondKey, sameKey]

theorem Sound.step (positive : 0 < timeout) (refreshed : interval ≤ timeout)
    (sound : state.Sound timeout interval) (steps : Step timeout interval state attempted next) :
    next.Sound timeout interval := by
  cases steps with
  | pass early => exact sound.pass early
  | renew working notBefore inTime =>
      exact sound.renew positive refreshed working notBefore inTime
  | begin owner idle free => exact sound.begin refreshed owner free
  | attempt key owner => exact sound.attempt refreshed key owner
  | stop works fewer => exact sound.stop fewer

end Steps

/-! ## A key on which nobody works -/

section Rest

variable {timeout interval instant : Nat} {state next : LeasedWork Key Owner Worker}
variable {attempted : Option Key} {key : Key}

/-- A key that is not worked on keeps its lease in every step that attempts no
claim of it. -/
theorem Step.keeps_unworked (steps : Step timeout interval state attempted next)
    (unworked : ∀ worker work, state.works worker = some work → work.key ≠ key)
    (elsewhere : attempted ≠ some key) :
    (∀ worker work, next.works worker = some work → work.key ≠ key) ∧
      next.locks key = state.locks key := by
  cases steps with
  | pass early => exact ⟨unworked, rfl⟩
  | @renew worker work dueAt working notBefore inTime =>
      have different : key ≠ work.key := (unworked worker work working).symm
      constructor
      · intro other otherWork otherWorking
        by_cases same : other = worker
        · subst same
          simp only [Function.update_self, Option.some.injEq] at otherWorking
          subst otherWorking
          exact unworked other work working
        · simp only [Function.update_of_ne same] at otherWorking
          exact unworked other otherWork otherWorking
      · exact LeaseStore.renew_other different
  | @begin worker claimed owner idle free =>
      have different : key ≠ claimed := fun same => elsewhere (by rw [same])
      constructor
      · intro other work working
        by_cases same : other = worker
        · subst same
          simp only [Function.update_self, Option.some.injEq] at working
          subst working
          exact different.symm
        · simp only [Function.update_of_ne same] at working
          exact unworked other work working
      · exact LeaseStore.claim_other different
  | attempt claimed owner =>
      have different : key ≠ claimed := fun same => elsewhere (by rw [same])
      exact ⟨unworked, LeaseStore.claim_other different⟩
  | stop works fewer =>
      constructor
      · intro worker work working
        have working : works worker = some work := working
        rcases fewer worker with same | stopped
        · rw [same] at working
          exact unworked worker work working
        · rw [stopped] at working
          cases working
      · rfl

theorem EndsBy.step (steps : Step timeout interval state attempted next)
    (ends : state.EndsBy key instant) (elsewhere : attempted ≠ some key) :
    next.EndsBy key instant := by
  obtain ⟨unworked, kept⟩ := steps.keeps_unworked ends.unworked elsewhere
  constructor
  · exact unworked
  · rw [kept]
    exact ends.bounded

theorem Step.now_le (steps : Step timeout interval state attempted next) :
    state.now ≤ next.now := by
  cases steps with
  | pass early => exact Nat.le_succ _
  | _ => exact Nat.le_refl _

/-- A claim of a leased key is refused. -/
theorem Step.keeps_leased {lease : Lease Owner}
    (steps : Step timeout interval state (some key) next)
    (leased : state.locks key = some lease) (inForce : state.now ≤ lease.expiresAt) :
    next.works = state.works ∧ next.locks key = state.locks key := by
  cases steps with
  | begin owner idle free =>
      have held := LeaseStore.holder_of_lease leased inForce
      rw [free] at held
      cases held
  | attempt claimed owner =>
      exact ⟨rfl, LeaseStore.claim_of_leased leased inForce⟩

theorem RestsUntil.step (steps : Step timeout interval state attempted next)
    (rests : state.RestsUntil key instant) : next.RestsUntil key instant := by
  intro early
  have notBefore := steps.now_le
  obtain ⟨unworked, lease, leased, inTime⟩ := rests (by omega)
  by_cases attempts : attempted = some key
  · subst attempts
    obtain ⟨works, kept⟩ := steps.keeps_leased leased (by omega)
    rw [works, kept]
    exact ⟨unworked, lease, leased, inTime⟩
  · obtain ⟨stillUnworked, kept⟩ := steps.keeps_unworked unworked attempts
    rw [kept]
    exact ⟨stillUnworked, lease, leased, inTime⟩

end Rest

end LeasedWork

end ServiceTemplate
