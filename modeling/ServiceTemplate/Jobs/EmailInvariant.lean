import ServiceTemplate.Jobs.EmailLock

/-!
# Who refreshes the lock of `SendEmailsJob`

A call that has got the lock holds it under a number of its own, and a timer of
its node refreshes the lock in time.  A step of anybody else leaves both alone.
-/

namespace ServiceTemplate.Jobs

open LeaseStore Cluster

namespace SendEmailsJob

/-- A mutex whose timer refreshes the lock under the given number. -/
structure RefreshesAs (ref : Nat) (mutex : Mutex) : Prop where
  key : mutex.key = emailsKey
  identifier : mutex.identifier = .generated ref
  timed : 0 < mutex.lockTimeout
  inTime : mutex.refreshInterval ≤ mutex.lockTimeout
  bounded : mutex.lockTimeout ≤ LOCK_ON_SUCCESS_IN_MSECS

theorem emailsMutex_refreshesAs (ref : Nat) : RefreshesAs ref (emailsMutex ref) := by
  refine ⟨rfl, rfl, ?_, ?_, ?_⟩ <;> simp only [emailsMutex, Mutex.new] <;> decide

theorem renewalMutex_refreshesAs (ref renewal : Nat) :
    RefreshesAs ref (renewalMutex ref renewal) := by
  refine ⟨rfl, rfl, Nat.succ_pos _, defaultRefreshInterval_le _, Nat.le_refl _⟩

/-- A timer that is not overdue and refreshes the lock under some number. -/
structure TimerSound (cluster : Cluster) (timer : RefreshTimer) : Prop where
  notOverdue : cluster.now ≤ timer.dueAt
  inTime : timer.dueAt ≤ cluster.now + LOCK_ON_SUCCESS_IN_MSECS
  refreshes : ∃ ref, RefreshesAs ref timer.mutex ∧ ref < cluster.constructed

/-- The lock is held under the number, and a timer of the executor refreshes it
before its lease ends. -/
def KeptAlive (executor : String) (ref : Nat) (cluster : Cluster) : Prop :=
  ∃ expiresAt, cluster.locks emailsKey = some ⟨.generated ref, expiresAt⟩ ∧
    ∃ timer ∈ cluster.timers, timer.owner = executor ∧
      timer.mutex.identifier = .generated ref ∧ timer.dueAt ≤ expiresAt

structure EmailInvariant (phases : String × Call → EmailPhase) (cluster : Cluster) : Prop where
  waits : ∀ worker : String × Call, (cluster.nodes worker.1).calls worker.2 =
    (phases worker).waitsFor worker.1
  fresh : ∀ worker ref, (phases worker).ref = some ref → ref < cluster.constructed
  distinct : ∀ first second ref, (phases first).ref = some ref →
    (phases second).ref = some ref → first = second
  timers : ∀ timer ∈ cluster.timers, TimerSound cluster timer
  owned : ∀ timer ∈ cluster.timers, ∀ worker ref,
    timer.mutex.identifier = .generated ref → (phases worker).ref = some ref →
      timer.owner = worker.1 ∧ (phases worker).held = some ref
  kept : ∀ worker ref, (phases worker).held = some ref → KeptAlive worker.1 ref cluster

/-- A step that does not act under the number. -/
structure Untouched (ref : Nat) (before after : Cluster) : Prop where
  now : after.now = before.now
  constructed : before.constructed ≤ after.constructed
  owned : ∃ other, other ≠ ref ∧
    OwnedBy (.generated other) before.now before.locks after.locks
  timers : ∀ timer, timer.mutex.identifier = .generated ref →
    (timer ∈ after.timers ↔ timer ∈ before.timers)

section Frame

variable {executor : String} {ref : Nat} {cluster next : Cluster}

theorem Untouched.keeps (untouched : Untouched ref cluster next) {key : String}
    (held : cluster.locks.holder cluster.now key = some (.generated ref)) :
    next.locks key = cluster.locks key := by
  obtain ⟨other, different, owned⟩ := untouched.owned
  apply owned.keeps key _ _ held
  intro same
  exact different (Identifier.generated.inj same).symm

theorem Untouched.gives (untouched : Untouched ref cluster next) {key : String}
    (held : next.locks.holder cluster.now key = some (.generated ref)) :
    cluster.locks.holder cluster.now key = some (.generated ref) := by
  obtain ⟨other, different, owned⟩ := untouched.owned
  apply owned.gives key _ _ held
  intro same
  exact different (Identifier.generated.inj same).symm

theorem KeptAlive.holder (kept : KeptAlive executor ref cluster)
    (notOverdue : ∀ timer ∈ cluster.timers, cluster.now ≤ timer.dueAt) :
    cluster.locks.holder cluster.now emailsKey = some (.generated ref) := by
  obtain ⟨expiresAt, leased, timer, member, -, -, inTime⟩ := kept
  exact holder_of_lease leased (Nat.le_trans (notOverdue timer member) inTime)

theorem KeptAlive.of_untouched (kept : KeptAlive executor ref cluster)
    (notOverdue : ∀ timer ∈ cluster.timers, cluster.now ≤ timer.dueAt)
    (untouched : Untouched ref cluster next) : KeptAlive executor ref next := by
  have held := kept.holder notOverdue
  obtain ⟨expiresAt, leased, timer, member, owner, identifier, inTime⟩ := kept
  refine ⟨expiresAt, ?_, timer, (untouched.timers timer identifier).mpr member, owner,
    identifier, inTime⟩
  rw [untouched.keeps held, leased]

theorem KeptAlive.of_same {after : Cluster} (kept : KeptAlive executor ref cluster)
    (locks : after.locks = cluster.locks) (timers : after.timers = cluster.timers) :
    KeptAlive executor ref after := by
  unfold KeptAlive
  rw [locks, timers]
  exact kept

theorem KeptAlive.crash {other : String} (kept : KeptAlive executor ref cluster)
    (alive : executor ≠ other) : KeptAlive executor ref (cluster.crashNode other) := by
  obtain ⟨expiresAt, leased, timer, member, owner, identifier, inTime⟩ := kept
  refine ⟨expiresAt, leased, timer, ?_, owner, identifier, inTime⟩
  simp [crashNode, member, owner, alive]

section Fire

variable {index : Nat} {timer : RefreshTimer}

theorem fireTimer_untouched (sound : TimerSound cluster timer)
    (atIndex : cluster.timers[index]? = some timer)
    (other : timer.mutex.identifier ≠ .generated ref) :
    Untouched ref cluster (cluster.fireTimer index timer) where
  now := rfl
  constructed := Nat.le_refl _
  owned := by
    obtain ⟨acting, refreshes, -⟩ := sound.refreshes
    refine ⟨acting, ?_, ?_⟩
    · rintro rfl
      exact other refreshes.identifier
    · rw [← refreshes.identifier]
      exact renew_ownedBy _ _ _ _ _
  timers unlike identifier := by
    constructor
    · intro member
      rcases mem_fireTimer member with earlier | rfl
      · exact earlier
      · exact absurd identifier other
    · intro member
      have different : unlike ≠ timer := by
        rintro rfl
        exact other identifier
      exact other_mem_fireTimer atIndex different member

/-- A timer that fires under the number of a lock keeps it alive. -/
theorem KeptAlive.fireTimer (kept : KeptAlive executor ref cluster)
    (sound : ∀ timer ∈ cluster.timers, TimerSound cluster timer)
    (atIndex : cluster.timers[index]? = some timer)
    (owned : timer.mutex.identifier = .generated ref → timer.owner = executor) :
    KeptAlive executor ref (cluster.fireTimer index timer) := by
  have present := List.mem_of_getElem? atIndex
  have notOverdue : ∀ timer ∈ cluster.timers, cluster.now ≤ timer.dueAt :=
    fun timer member => (sound timer member).notOverdue
  by_cases own : timer.mutex.identifier = .generated ref
  · obtain ⟨acting, refreshes, -⟩ := (sound timer present).refreshes
    have renewed := renew_lease_of_held refreshes.timed (kept.holder notOverdue)
    refine ⟨cluster.now + timer.mutex.lockTimeout, ?_, _, rearmed_mem_fireTimer atIndex,
      owned own, own, Nat.add_le_add_left refreshes.inTime _⟩
    simp only [Cluster.fireTimer, refreshes.key, own]
    exact renewed
  · exact kept.of_untouched notOverdue (fireTimer_untouched (sound timer present) atIndex own)

end Fire

theorem callStep_untouched {phase later : EmailPhase}
    (steps : CallStep executor cluster phase later next) (other : phase.ref ≠ some ref) :
    Untouched ref cluster next := by
  have unchanged {constructed : Nat} (more : cluster.constructed ≤ constructed) :
      Untouched ref cluster { cluster with constructed := constructed } :=
    ⟨rfl, more, ⟨ref + 1, Nat.succ_ne_self ref, OwnedBy.refl _ _ _⟩, fun _ _ => Iff.rfl⟩
  have different {acting : Nat} (acts : phase.ref = some acting) : acting ≠ ref := by
    rintro rfl
    exact other acts
  have started {acting dueAt : Nat} {mutex : Mutex} (refreshes : RefreshesAs acting mutex)
      (unlike : acting ≠ ref) (timer : RefreshTimer)
      (identifier : timer.mutex.identifier = .generated ref) :
      timer ∈ ⟨executor, mutex, dueAt⟩ :: cluster.timers ↔ timer ∈ cluster.timers := by
    have notNew : timer ≠ ⟨executor, mutex, dueAt⟩ := by
      rintro rfl
      exact unlike (Identifier.generated.inj (refreshes.identifier.symm.trans identifier))
    simp [notNew]
  cases steps with
  | begin => exact unchanged (Nat.le_succ _)
  | fail => exact unchanged (Nat.le_refl _)
  | sent acting => exact unchanged (Nat.le_succ _)
  | attempt acting =>
      exact ⟨rfl, Nat.le_refl _, ⟨acting, different rfl, claim_ownedBy _ _ _ _ _⟩,
        fun _ _ => Iff.rfl⟩
  | unrenewed acting renewal =>
      exact ⟨rfl, Nat.le_refl _, ⟨acting, different rfl, renew_ownedBy _ _ _ _ _⟩,
        fun _ _ => Iff.rfl⟩
  | acquire acting free =>
      refine ⟨rfl, Nat.le_refl _, ⟨acting, different rfl, claim_ownedBy _ _ _ _ _⟩, ?_⟩
      exact started (emailsMutex_refreshesAs acting) (different rfl)
  | renewed acting renewal =>
      refine ⟨rfl, Nat.le_refl _, ⟨acting, different rfl, renew_ownedBy _ _ _ _ _⟩, ?_⟩
      exact started (renewalMutex_refreshesAs acting renewal) (different rfl)

/-! ## The steps of a call -/

theorem EmailPhase.ref_of_held {phase : EmailPhase} (held : phase.held = some ref) :
    phase.ref = some ref := by
  cases phase <;> first | exact held | cases held

theorem CallStep.nodes {phase later : EmailPhase}
    (steps : CallStep executor cluster phase later next) : next.nodes = cluster.nodes := by
  cases steps <;> rfl

theorem CallStep.now {phase later : EmailPhase}
    (steps : CallStep executor cluster phase later next) : next.now = cluster.now := by
  cases steps <;> rfl

theorem CallStep.constructed_le {phase later : EmailPhase}
    (steps : CallStep executor cluster phase later next) :
    cluster.constructed ≤ next.constructed := by
  cases steps <;> first | exact Nat.le_refl _ | exact Nat.le_succ _

/-- The number of a call is the one of its first mutex. -/
theorem CallStep.numbered {phase later : EmailPhase}
    (steps : CallStep executor cluster phase later next) (numbered : later.ref = some ref) :
    phase.ref = some ref ∨ ref = cluster.constructed ∧ ref < next.constructed := by
  cases steps with
  | begin =>
      cases numbered
      exact .inr ⟨rfl, Nat.lt_succ_self _⟩
  | acquire acting free => exact .inl numbered
  | sent acting => exact .inl numbered
  | _ => cases numbered

theorem CallStep.held {phase later : EmailPhase}
    (steps : CallStep executor cluster phase later next) (held : phase.held = some ref)
    (numbered : later.ref = some ref) : later.held = some ref := by
  cases steps with
  | sent acting => exact held
  | acquire acting free => cases held
  | begin => cases held
  | _ => cases numbered

/-- The timers that a call starts refresh the lock under its number. -/
theorem CallStep.timers {phase later : EmailPhase}
    (steps : CallStep executor cluster phase later next) {timer : RefreshTimer}
    (member : timer ∈ next.timers) :
    timer ∈ cluster.timers ∨
      ∃ ref, phase.ref = some ref ∧ timer.owner = executor ∧ RefreshesAs ref timer.mutex ∧
        timer.dueAt = cluster.now + timer.mutex.refreshInterval ∧
        (later.ref = some ref → later.held = some ref) := by
  cases steps with
  | acquire acting free =>
      rcases List.mem_cons.mp member with rfl | earlier
      · exact .inr ⟨acting, rfl, rfl, emailsMutex_refreshesAs acting, rfl, fun same => same⟩
      · exact .inl earlier
  | renewed acting renewal =>
      rcases List.mem_cons.mp member with rfl | earlier
      · exact .inr ⟨acting, rfl, rfl, renewalMutex_refreshesAs acting renewal, rfl,
          fun same => same⟩
      · exact .inl earlier
  | _ => exact .inl member

/-- A call that holds the lock keeps it alive in each of its steps. -/
theorem KeptAlive.callStep {phase later : EmailPhase}
    (kept : KeptAlive executor ref cluster)
    (sound : ∀ timer ∈ cluster.timers, TimerSound cluster timer)
    (steps : CallStep executor cluster phase later next) (held : phase.held = some ref) :
    KeptAlive executor ref next := by
  have notOverdue : ∀ timer ∈ cluster.timers, cluster.now ≤ timer.dueAt :=
    fun timer member => (sound timer member).notOverdue
  have renewed : (cluster.locks.renew cluster.now emailsKey (.generated ref)
      LOCK_ON_SUCCESS_IN_MSECS).1 emailsKey =
        some ⟨.generated ref, cluster.now + LOCK_ON_SUCCESS_IN_MSECS⟩ :=
    renew_lease_of_held (by decide) (kept.holder notOverdue)
  obtain ⟨expiresAt, leased, timer, member, owner, identifier, inTime⟩ := kept
  have bounded := (sound timer member).inTime
  cases steps with
  | fail => exact ⟨expiresAt, leased, timer, member, owner, identifier, inTime⟩
  | sent acting => exact ⟨expiresAt, leased, timer, member, owner, identifier, inTime⟩
  | unrenewed acting renewal =>
      cases held
      exact ⟨_, renewed, timer, member, owner, identifier, bounded⟩
  | renewed acting renewal =>
      cases held
      exact ⟨_, renewed, timer, List.mem_cons_of_mem _ member, owner, identifier, bounded⟩
  | _ => cases held

theorem KeptAlive.acquire (ref : Nat)
    (free : cluster.locks.holder cluster.now emailsKey = none) :
    KeptAlive executor ref
      { cluster with
        locks := (cluster.locks.claim cluster.now emailsKey (.generated ref)
          LOCK_TIMEOUT_IN_MSECS).1
        timers := ⟨executor, emailsMutex ref, cluster.now + LOCK_REFRESH_IN_MSECS⟩ ::
          cluster.timers } := by
  refine ⟨cluster.now + LOCK_TIMEOUT_IN_MSECS, ?_, _, List.mem_cons_self, rfl, rfl,
    Nat.add_le_add_left (by decide) _⟩
  simp [claim_of_free free]

/-- A call that holds the lock has held it before or has just got it. -/
theorem CallStep.holds {phase later : EmailPhase}
    (steps : CallStep executor cluster phase later next) (held : later.held = some ref) :
    phase.held = some ref ∨ KeptAlive executor ref next := by
  cases steps with
  | acquire acting free =>
      cases held
      exact .inr (KeptAlive.acquire ref free)
  | sent acting => exact .inl held
  | _ => cases held

theorem TimerSound.of_same_now {timer : RefreshTimer} (sound : TimerSound cluster timer)
    (now : next.now = cluster.now) (constructed : cluster.constructed ≤ next.constructed) :
    TimerSound next timer := by
  obtain ⟨ref, refreshes, fresh⟩ := sound.refreshes
  constructor
  · rw [now]; exact sound.notOverdue
  · rw [now]; exact sound.inTime
  · exact ⟨ref, refreshes, Nat.lt_of_lt_of_le fresh constructed⟩

theorem TimerSound.started {timer : RefreshTimer} (refreshes : RefreshesAs ref timer.mutex)
    (fresh : ref < cluster.constructed)
    (due : timer.dueAt = cluster.now + timer.mutex.refreshInterval) :
    TimerSound cluster timer := by
  have inTime := refreshes.inTime
  have bounded := refreshes.bounded
  constructor
  · omega
  · omega
  · exact ⟨ref, refreshes, fresh⟩

end Frame

section Invariant

variable {phases : String × Call → EmailPhase} {cluster next : Cluster}

/-- Nobody acts under the number any more. -/
structure Retired (phases : String × Call → EmailPhase) (cluster : Cluster) (ref : Nat) :
    Prop where
  fresh : ref < cluster.constructed
  unused : ∀ worker, (phases worker).ref ≠ some ref

theorem EmailInvariant.callStep (invariant : EmailInvariant phases cluster)
    {executor : String} {call : Call} {later : EmailPhase} {middle : Cluster}
    (steps : CallStep executor cluster (phases (executor, call)) later middle)
    (sets : SetsCall executor call (later.waitsFor executor) middle next) :
    EmailInvariant (Function.update phases (executor, call) later) next where
  waits worker := by
    by_cases same : worker = (executor, call)
    · subst same
      simpa using sets.own
    · rw [Function.update_of_ne same, sets.others worker.1 worker.2 same, steps.nodes]
      exact invariant.waits worker
  fresh worker ref numbered := by
    rw [sets.constructed]
    by_cases same : worker = (executor, call)
    · subst same
      rw [Function.update_self] at numbered
      rcases steps.numbered numbered with before | ⟨-, fresh⟩
      · exact Nat.lt_of_lt_of_le (invariant.fresh _ ref before) steps.constructed_le
      · exact fresh
    · rw [Function.update_of_ne same] at numbered
      exact Nat.lt_of_lt_of_le (invariant.fresh worker ref numbered) steps.constructed_le
  distinct first second ref firstRef secondRef := by
    -- a number that is new to the call is new to everybody
    have unshared (other : String × Call) (different : other ≠ (executor, call))
        (own : later.ref = some ref) (others : (phases other).ref = some ref) : False := by
      rcases steps.numbered own with before | ⟨rfl, -⟩
      · exact different (invariant.distinct other _ ref others before)
      · exact Nat.lt_irrefl _ (invariant.fresh other _ others)
    by_cases firstOwn : first = (executor, call) <;> by_cases secondOwn : second = (executor, call)
    · rw [firstOwn, secondOwn]
    · rw [firstOwn, Function.update_self] at firstRef
      rw [Function.update_of_ne secondOwn] at secondRef
      exact (unshared second secondOwn firstRef secondRef).elim
    · rw [secondOwn, Function.update_self] at secondRef
      rw [Function.update_of_ne firstOwn] at firstRef
      exact (unshared first firstOwn secondRef firstRef).elim
    · rw [Function.update_of_ne firstOwn] at firstRef
      rw [Function.update_of_ne secondOwn] at secondRef
      exact invariant.distinct first second ref firstRef secondRef
  timers timer member := by
    rw [sets.timers] at member
    have now : next.now = cluster.now := sets.now.trans steps.now
    have constructed : cluster.constructed ≤ next.constructed := by
      rw [sets.constructed]
      exact steps.constructed_le
    rcases steps.timers member with earlier | ⟨ref, numbered, -, refreshes, due, -⟩
    · exact (invariant.timers timer earlier).of_same_now now constructed
    · have started := TimerSound.started refreshes (invariant.fresh _ ref numbered) due
      exact started.of_same_now now constructed
  owned timer member worker ref identifier numbered := by
    rw [sets.timers] at member
    by_cases same : worker = (executor, call)
    · subst same
      rw [Function.update_self] at numbered ⊢
      rcases steps.timers member with earlier | ⟨acting, acts, owner, refreshes, -, held⟩
      · rcases steps.numbered numbered with before | ⟨rfl, -⟩
        · obtain ⟨owner, held⟩ := invariant.owned timer earlier _ ref identifier before
          exact ⟨owner, steps.held held numbered⟩
        · -- a timer has an older number
          obtain ⟨old, refreshes, fresh⟩ := (invariant.timers timer earlier).refreshes
          rw [refreshes.identifier] at identifier
          cases identifier
          exact absurd fresh (Nat.lt_irrefl _)
      · rw [refreshes.identifier] at identifier
        cases identifier
        exact ⟨owner, held numbered⟩
    · rw [Function.update_of_ne same] at numbered ⊢
      rcases steps.timers member with earlier | ⟨acting, acts, -, refreshes, -, -⟩
      · exact invariant.owned timer earlier worker ref identifier numbered
      · rw [refreshes.identifier] at identifier
        cases identifier
        exact absurd (invariant.distinct worker _ _ numbered acts) same
  kept worker ref held := by
    have alive : KeptAlive worker.1 ref middle := by
      by_cases same : worker = (executor, call)
      · subst same
        rw [Function.update_self] at held
        rcases steps.holds held with before | acquired
        · exact (invariant.kept _ ref before).callStep invariant.timers steps before
        · exact acquired
      · rw [Function.update_of_ne same] at held
        have kept := invariant.kept worker ref held
        have other : (phases (executor, call)).ref ≠ some ref := by
          intro acts
          exact same (invariant.distinct worker _ ref (EmailPhase.ref_of_held held) acts)
        exact kept.of_untouched (fun timer member => (invariant.timers timer member).notOverdue)
          (callStep_untouched steps other)
    exact alive.of_same sets.locks sets.timers

theorem EmailInvariant.tick (invariant : EmailInvariant phases cluster)
    (early : ∀ timer ∈ cluster.timers, cluster.now < timer.dueAt) :
    EmailInvariant phases { cluster with now := cluster.now + 1 } where
  waits := invariant.waits
  fresh := invariant.fresh
  distinct := invariant.distinct
  timers timer member := by
    have sound := invariant.timers timer member
    constructor
    · exact early timer member
    · exact Nat.le_trans sound.inTime (by simp only; omega)
    · exact sound.refreshes
  owned := invariant.owned
  kept := invariant.kept

theorem EmailInvariant.fire (invariant : EmailInvariant phases cluster) {index : Nat}
    {timer : RefreshTimer} (atIndex : cluster.timers[index]? = some timer) :
    EmailInvariant phases (cluster.fireTimer index timer) where
  waits := invariant.waits
  fresh := invariant.fresh
  distinct := invariant.distinct
  timers other member := by
    rcases mem_fireTimer member with earlier | rfl
    · exact (invariant.timers other earlier).of_same_now rfl (Nat.le_refl _)
    · obtain ⟨ref, refreshes, fresh⟩ :=
        (invariant.timers timer (List.mem_of_getElem? atIndex)).refreshes
      exact TimerSound.started refreshes fresh rfl
  owned other member := by
    rcases mem_fireTimer member with earlier | rfl
    · exact invariant.owned other earlier
    · exact invariant.owned timer (List.mem_of_getElem? atIndex)
  kept worker ref held := by
    apply (invariant.kept worker ref held).fireTimer invariant.timers atIndex
    intro identifier
    exact (invariant.owned timer (List.mem_of_getElem? atIndex) worker ref identifier
      (EmailPhase.ref_of_held held)).1

/-- A crash ends both calls of a node. -/
def crashed (executor : String) (phases : String × Call → EmailPhase) :
    String × Call → EmailPhase :=
  fun worker => if worker.1 = executor then .idle else phases worker

theorem crashed_of_ref {executor : String} {worker : String × Call} {ref : Nat}
    (numbered : (crashed executor phases worker).ref = some ref) :
    worker.1 ≠ executor ∧ crashed executor phases worker = phases worker := by
  unfold crashed at numbered ⊢
  split at numbered
  · cases numbered
  · next alive => exact ⟨alive, if_neg alive⟩

theorem EmailInvariant.crash (invariant : EmailInvariant phases cluster) (executor : String) :
    EmailInvariant (crashed executor phases) (cluster.crashNode executor) where
  waits worker := by
    by_cases down : worker.1 = executor
    · simp [crashNode, crashed, down, EmailPhase.waitsFor]
    · simp only [crashNode, crashed, down, if_false, Function.update_of_ne down]
      exact invariant.waits worker
  fresh worker ref numbered := by
    obtain ⟨-, same⟩ := crashed_of_ref numbered
    rw [same] at numbered
    exact invariant.fresh worker ref numbered
  distinct first second ref firstRef secondRef := by
    obtain ⟨-, firstSame⟩ := crashed_of_ref firstRef
    obtain ⟨-, secondSame⟩ := crashed_of_ref secondRef
    rw [firstSame] at firstRef
    rw [secondSame] at secondRef
    exact invariant.distinct first second ref firstRef secondRef
  timers timer member :=
    (invariant.timers timer (List.mem_of_mem_filter member)).of_same_now rfl (Nat.le_refl _)
  owned timer member worker ref identifier numbered := by
    obtain ⟨-, same⟩ := crashed_of_ref numbered
    rw [same] at numbered ⊢
    exact invariant.owned timer (List.mem_of_mem_filter member) worker ref identifier numbered
  kept worker ref held := by
    obtain ⟨alive, same⟩ := crashed_of_ref (EmailPhase.ref_of_held held)
    rw [same] at held
    exact (invariant.kept worker ref held).crash alive

end Invariant

/-! ## Steps -/

/-- When a step refreshes the lock under the identifier, and for how long. -/
def refreshOf (identifier : Identifier) (cluster : Cluster) : Label → Option (Nat × Nat)
  | .fire index =>
      match cluster.timers[index]? with
      | some timer =>
          if timer.mutex.identifier = identifier then
            some (cluster.now, timer.mutex.lockTimeout)
          else none
      | none => none
  | .tick | .start _ _ _ | .resume _ _ _ | .crash _ => none

theorem refreshOf_fire {identifier : Identifier} {cluster : Cluster} {index : Nat}
    {timer : RefreshTimer} (atIndex : cluster.timers[index]? = some timer) :
    refreshOf identifier cluster (.fire index) =
      if timer.mutex.identifier = identifier then some (cluster.now, timer.mutex.lockTimeout)
      else none := by
  simp only [refreshOf, atIndex]

theorem refreshOf_of_runs {identifier : Identifier} {cluster : Cluster} {label : Label}
    {executor : String} {call : Call} (runs : label.Runs executor call) :
    refreshOf identifier cluster label = none := by
  cases label with
  | fire index => exact runs.elim
  | _ => rfl

/-- What a step does, as seen by a number under which no call acts any more. -/
inductive Effect (ref : Nat) (cluster : Cluster) : Label → Cluster → Prop
  | tick : Effect ref cluster .tick { cluster with now := cluster.now + 1 }
  | refresh {index : Nat} {timer : RefreshTimer}
      (atIndex : cluster.timers[index]? = some timer)
      (own : timer.mutex.identifier = .generated ref) :
      Effect ref cluster (.fire index) (cluster.fireTimer index timer)
  | elsewhere {label : Label} {next : Cluster}
      (unrefreshed : refreshOf (.generated ref) cluster label = none)
      (untouched : Untouched ref cluster next) :
      Effect ref cluster label next
  | crash (executor : String) :
      Effect ref cluster (.crash executor) (cluster.crashNode executor)

section Step

variable {phases : String × Call → EmailPhase} {cluster next : Cluster} {label : Label}

theorem Untouched.of_setsCall {executor : String} {call : Call} {ref : Nat}
    {waiting : Option (JobProgram Unit)} {middle : Cluster}
    (untouched : Untouched ref cluster middle)
    (sets : SetsCall executor call waiting middle next) : Untouched ref cluster next where
  now := sets.now.trans untouched.now
  constructed := by
    rw [sets.constructed]
    exact untouched.constructed
  owned := by
    rw [sets.locks]
    exact untouched.owned
  timers timer identifier := by
    rw [sets.timers]
    exact untouched.timers timer identifier

/-- What every step does to the calls: the invariant holds again, a retired
number stays retired, and a call that holds the lock holds it until it settles. -/
structure StepsTo (phases : String × Call → EmailPhase) (cluster : Cluster) (label : Label)
    (later : String × Call → EmailPhase) (next : Cluster) : Prop where
  invariant : EmailInvariant later next
  retired : ∀ ref, Retired phases cluster ref →
    Retired later next ref ∧ Effect ref cluster label next
  inFlight : ∀ worker ref, (phases worker).held = some ref →
    (next.nodes worker.1).calls worker.2 ≠ none → (later worker).held = some ref

theorem EmailInvariant.stepsTo_call (invariant : EmailInvariant phases cluster)
    {executor : String} {call : Call} (runs : label.Runs executor call)
    (steps : Steps executor call (phases (executor, call)) cluster next) :
    ∃ later, StepsTo phases cluster label later next := by
  obtain ⟨later, middle, callStep, sets⟩ := steps
  refine ⟨_, invariant.callStep callStep sets, fun ref retired => ⟨⟨?_, fun worker => ?_⟩, ?_⟩, ?_⟩
  · rw [sets.constructed]
    exact Nat.lt_of_lt_of_le retired.fresh callStep.constructed_le
  · by_cases same : worker = (executor, call)
    · subst same
      rw [Function.update_self]
      intro numbered
      rcases callStep.numbered numbered with before | ⟨rfl, -⟩
      · exact retired.unused _ before
      · exact Nat.lt_irrefl _ retired.fresh
    · rw [Function.update_of_ne same]
      exact retired.unused worker
  · exact .elsewhere (refreshOf_of_runs runs)
      ((callStep_untouched callStep (retired.unused _)).of_setsCall sets)
  · intro worker ref held waits
    by_cases same : worker = (executor, call)
    · subst same
      rw [Function.update_self]
      rw [sets.own] at waits
      generalize phases (executor, call) = phase at held callStep
      cases callStep with
      | sent acting => exact held
      | begin => cases held
      | acquire acting free => cases held
      | _ => exact absurd rfl waits
    · rw [Function.update_of_ne same]
      exact held

/-- Every step keeps the invariant. -/
theorem EmailInvariant.step (invariant : EmailInvariant phases cluster)
    (steps : internalStep cluster label = some next) :
    ∃ later, StepsTo phases cluster label later next := by
  cases label with
  | tick =>
      obtain ⟨early, rfl⟩ := stepOf_tick steps
      exact ⟨phases, invariant.tick early, fun ref retired => ⟨⟨retired.fresh, retired.unused⟩,
        .tick⟩, fun _ _ held _ => held⟩
  | fire index =>
      obtain ⟨timer, atIndex, -, rfl⟩ := stepOf_fire steps
      refine ⟨phases, invariant.fire atIndex, fun ref retired => ⟨⟨retired.fresh, retired.unused⟩,
        ?_⟩, fun _ _ held _ => held⟩
      by_cases own : timer.mutex.identifier = .generated ref
      · exact .refresh atIndex own
      · have sound := invariant.timers timer (List.mem_of_getElem? atIndex)
        have unrefreshed : refreshOf (.generated ref) cluster (.fire index) = none := by
          rw [refreshOf_fire atIndex, if_neg own]
        exact .elsewhere unrefreshed (fireTimer_untouched sound atIndex own)
  | crash executor =>
      cases steps
      refine ⟨crashed executor phases, invariant.crash executor, fun ref retired =>
        ⟨⟨retired.fresh, fun worker numbered => ?_⟩, .crash executor⟩,
          fun worker ref held waits => ?_⟩
      · obtain ⟨-, same⟩ := crashed_of_ref numbered
        rw [same] at numbered
        exact retired.unused worker numbered
      · have alive : worker.1 ≠ executor := by
          intro down
          simp [crashNode, down] at waits
        unfold crashed
        rw [if_neg alive]
        exact held
  | start executor call environment =>
      exact invariant.stepsTo_call ⟨rfl, rfl⟩
        (steps_of_start (invariant.waits (executor, call)) steps)
  | resume executor call environment =>
      exact invariant.stepsTo_call ⟨rfl, rfl⟩
        (steps_of_resume (invariant.waits (executor, call)) steps)

theorem emailInvariant_initial (now : Nat) (locks : LeaseStore String Identifier) :
    EmailInvariant (fun _ => .idle) (AbstractPeriodicJob.initialCluster now locks) := by
  constructor
  · exact fun _ => rfl
  · exact fun _ _ numbered => by cases numbered
  · exact fun _ _ _ numbered => by cases numbered
  · exact fun _ member => by cases member
  · exact fun _ member => by cases member
  · exact fun _ _ held => by cases held

theorem emailInvariant_of_run {now : Nat} {locks : LeaseStore String Identifier}
    {labels : List Label}
    (reaches : run internalStep (AbstractPeriodicJob.initialCluster now locks) labels =
      some cluster) : ∃ phases, EmailInvariant phases cluster := by
  apply run_invariant_of_step _ ⟨_, emailInvariant_initial now locks⟩ reaches
  intro state label next ⟨phases, invariant⟩ steps
  obtain ⟨later, stepped⟩ := invariant.step steps
  exact ⟨later, stepped.invariant⟩

end Step

/-! ## A lock after its run -/

/-- The timers that refresh the lock under the number belong to the executor,
and keep it alive. -/
structure LeftRefreshing (executor : String) (ref : Nat) (cluster : Cluster) : Prop where
  owned : ∀ timer ∈ cluster.timers, timer.mutex.identifier = .generated ref →
    timer.owner = executor
  kept : KeptAlive executor ref cluster

/-- Nothing refreshes the lock under the number, and a lease under it ends at the
given instant at the latest. -/
structure LeftToExpire (ref expiresAt : Nat) (cluster : Cluster) : Prop where
  unrefreshed : ∀ timer ∈ cluster.timers, timer.mutex.identifier ≠ .generated ref
  bounded : ∀ lease, cluster.locks emailsKey = some ⟨.generated ref, lease⟩ →
    cluster.now ≤ lease → lease ≤ expiresAt

/-- The lease under the number lasts until the given instant. -/
def HeldUntil (ref expiresAt : Nat) (cluster : Cluster) : Prop :=
  cluster.now ≤ expiresAt → cluster.locks emailsKey = some ⟨.generated ref, expiresAt⟩

section Left

variable {executor : String} {ref expiresAt : Nat} {cluster next : Cluster} {label : Label}

theorem LeftRefreshing.step (left : LeftRefreshing executor ref cluster)
    (sound : ∀ timer ∈ cluster.timers, TimerSound cluster timer)
    (effect : Effect ref cluster label next) (survives : label ≠ .crash executor) :
    LeftRefreshing executor ref next := by
  cases effect with
  | tick => exact ⟨left.owned, left.kept⟩
  | @refresh index timer atIndex own =>
      have owner := left.owned timer (List.mem_of_getElem? atIndex) own
      constructor
      · intro other member identifier
        rcases mem_fireTimer member with earlier | rfl
        · exact left.owned other earlier identifier
        · exact owner
      · exact left.kept.fireTimer sound atIndex fun _ => owner
  | elsewhere unrefreshed untouched =>
      constructor
      · intro timer member identifier
        exact left.owned timer ((untouched.timers timer identifier).mp member) identifier
      · exact left.kept.of_untouched (fun timer member => (sound timer member).notOverdue) untouched
  | crash other =>
      have alive : executor ≠ other := fun same => survives (by rw [same])
      constructor
      · intro timer member
        exact left.owned timer (List.mem_of_mem_filter member)
      · exact left.kept.crash alive

/-- While its node lives, the lease is the one of the last refresh. -/
theorem LeftRefreshing.leased_step (left : LeftRefreshing executor ref cluster)
    (sound : ∀ timer ∈ cluster.timers, TimerSound cluster timer)
    (effect : Effect ref cluster label next) {refresh : Nat × Nat}
    (leased : cluster.locks emailsKey = some ⟨.generated ref, refresh.1 + refresh.2⟩) :
    next.locks emailsKey = some ⟨.generated ref,
      ((refreshOf (.generated ref) cluster label).getD refresh).1 +
        ((refreshOf (.generated ref) cluster label).getD refresh).2⟩ := by
  have held := left.kept.holder fun timer member => (sound timer member).notOverdue
  cases effect with
  | tick => exact leased
  | @refresh index timer atIndex own =>
      obtain ⟨acting, refreshes, -⟩ := (sound timer (List.mem_of_getElem? atIndex)).refreshes
      rw [refreshOf_fire atIndex, if_pos own]
      simp only [Cluster.fireTimer, refreshes.key, own]
      exact renew_lease_of_held refreshes.timed held
  | elsewhere unrefreshed untouched =>
      rw [unrefreshed, untouched.keeps held]
      exact leased
  | crash other => exact leased

theorem LeftToExpire.step (left : LeftToExpire ref expiresAt cluster)
    (effect : Effect ref cluster label next) : LeftToExpire ref expiresAt next := by
  cases effect with
  | tick =>
      constructor
      · exact left.unrefreshed
      · intro lease leased inForce
        exact left.bounded lease leased (Nat.le_of_succ_le inForce)
  | refresh atIndex own =>
      exact absurd own (left.unrefreshed _ (List.mem_of_getElem? atIndex))
  | elsewhere unrefreshed untouched =>
      constructor
      · intro timer member identifier
        exact left.unrefreshed timer ((untouched.timers timer identifier).mp member) identifier
      · intro lease leased inForce
        rw [untouched.now] at inForce
        have held := untouched.gives (holder_of_lease leased inForce)
        rw [untouched.keeps held] at leased
        exact left.bounded lease leased inForce
  | crash other =>
      constructor
      · intro timer member
        exact left.unrefreshed timer (List.mem_of_mem_filter member)
      · exact left.bounded

theorem HeldUntil.step (held : HeldUntil ref expiresAt cluster)
    (left : LeftToExpire ref expiresAt cluster) (effect : Effect ref cluster label next) :
    HeldUntil ref expiresAt next := by
  cases effect with
  | tick => exact fun inForce => held (Nat.le_of_succ_le inForce)
  | refresh atIndex own =>
      exact absurd own (left.unrefreshed _ (List.mem_of_getElem? atIndex))
  | elsewhere unrefreshed untouched =>
      intro inForce
      rw [untouched.now] at inForce
      have leased := held inForce
      rw [untouched.keeps (holder_of_lease leased inForce), leased]
  | crash other => exact held

/-- The crash of its node leaves the lock with the lease that it has then. -/
theorem LeftRefreshing.crash (left : LeftRefreshing executor ref cluster)
    (leased : cluster.locks emailsKey = some ⟨.generated ref, expiresAt⟩) :
    LeftToExpire ref expiresAt (cluster.crashNode executor) ∧
      HeldUntil ref expiresAt (cluster.crashNode executor) := by
  constructor
  · constructor
    · intro timer member identifier
      have notOwn : timer.owner ≠ executor := by simpa [crashNode] using List.of_mem_filter member
      exact notOwn (left.owned timer (List.mem_of_mem_filter member) identifier)
    · intro lease leasedNow _
      have same : cluster.locks emailsKey = some ⟨.generated ref, lease⟩ := leasedNow
      rw [leased] at same
      cases same
      exact Nat.le_refl _
  · exact fun _ => leased

end Left

end SendEmailsJob

end ServiceTemplate.Jobs
