import ServiceTemplate.Jobs.EmailInvariant
import ServiceTemplate.Jobs.MutualExclusion

/-!
# The cool-down of `SendEmailsJob`

After a successful run the lock should be held for an hour and then be free;
after a failed one it should run out within a minute.  The timers of a run are
never stopped, so the lock is refreshed for as long as the node lives.
-/

namespace ServiceTemplate.Jobs

open LeaseStore Cluster

namespace SendEmailsJob

/-- The last event of the node is that a call has settled, without an error. -/
def Resolved (executor : String) (settled : Cluster) : Prop :=
  (settled.nodes executor).journal.head? = some (settled.now, .callSettled none)

/-- What the job promises of every state after a run under the identifier. -/
structure CoolsDown (executor : String) (identifier : Identifier) (settled state : Cluster) :
    Prop where
  held : Resolved executor settled → state.now < settled.now + LOCK_ON_SUCCESS_IN_MSECS →
    state.locks.holder state.now emailsKey = some identifier ∧
      ∀ other method, ¬ state.Awaits other method .sendEmails
  -- unless somebody else has acquired it, the lock is free then
  freed : Resolved executor settled → settled.now + LOCK_ON_SUCCESS_IN_MSECS < state.now →
    state.locks.holder state.now emailsKey ≠ some identifier
  unrefreshed : ¬ Resolved executor settled →
    ∀ timer ∈ state.timers, timer.mutex.identifier ≠ identifier
  freedSoon : ¬ Resolved executor settled → settled.now + LOCK_TIMEOUT_IN_MSECS < state.now →
    state.locks.holder state.now emailsKey ≠ some identifier

/-- The call waits for the answer to `SET`. -/
def AsksForLock (executor : String) (call : Call) (cluster : Cluster) : Prop :=
  ∃ mutex continuation,
    (cluster.nodes executor).calls call = some (.call (.setNx mutex) continuation)

/-- The call waits for the answer to the renewal of its lock. -/
def RenewsLock (executor : String) (call : Call) (cluster : Cluster) : Prop :=
  ∃ mutex continuation,
    (cluster.nodes executor).calls call = some (.call (.refresh mutex) continuation)

/-- The last refresh of the lock in a schedule: when it is made, and for how long. -/
def lastRefresh (identifier : Identifier) : Cluster → List Label → Option (Nat × Nat) :=
  lastSeen internalStep (refreshOf identifier)

/-- The node crashes after the run, for the first time, before a timer has refreshed
the lock, or when the last refresh has been for the rest of the hour. -/
def CrashesInTime (executor : String) (identifier : Identifier) (settled : Cluster)
    (later : List Label) : Prop :=
  ∃ before after, later = before ++ .crash executor :: after ∧ .crash executor ∉ before ∧
    ∀ instant lockTimeout, lastRefresh identifier settled before = some (instant, lockTimeout) →
      instant + lockTimeout = settled.now + LOCK_ON_SUCCESS_IN_MSECS ∨
        instant + lockTimeout + 1 = settled.now + LOCK_ON_SUCCESS_IN_MSECS

/-- Where nothing has refreshed the lock, it ends with the hour. -/
theorem endsWithHour_iff {now : Nat} (refresh : Option (Nat × Nat)) :
    (∀ instant lockTimeout, refresh = some (instant, lockTimeout) →
      instant + lockTimeout = now + LOCK_ON_SUCCESS_IN_MSECS ∨
        instant + lockTimeout + 1 = now + LOCK_ON_SUCCESS_IN_MSECS) ↔
    ((refresh.getD (now, LOCK_ON_SUCCESS_IN_MSECS)).1 +
        (refresh.getD (now, LOCK_ON_SUCCESS_IN_MSECS)).2 = now + LOCK_ON_SUCCESS_IN_MSECS ∨
      (refresh.getD (now, LOCK_ON_SUCCESS_IN_MSECS)).1 +
        (refresh.getD (now, LOCK_ON_SUCCESS_IN_MSECS)).2 + 1 =
          now + LOCK_ON_SUCCESS_IN_MSECS) := by
  cases refresh with
  | none => simp
  | some refresh =>
      obtain ⟨instant, lockTimeout⟩ := refresh
      simp

section Run

variable {phases : String × Call → EmailPhase} {before inFlight cluster settled : Cluster}
variable {executor : String} {call : Call} {environment : Environment} {ref : Nat}

/-- A call that waits for `SET` is in the phase in which it does. -/
theorem EmailInvariant.claiming (invariant : EmailInvariant phases cluster)
    (asks : AsksForLock executor call cluster) :
    ∃ ref, phases (executor, call) = .claiming ref := by
  obtain ⟨mutex, continuation, waiting⟩ := asks
  have waits := invariant.waits (executor, call)
  rw [waiting] at waits
  generalize phases (executor, call) = phase at waits
  cases phase with
  | claiming ref => exact ⟨ref, rfl⟩
  | _ => cases waits

/-- A call that gets the lock and does not settle holds it. -/
theorem EmailInvariant.held_of_claiming (invariant : EmailInvariant phases cluster)
    (claiming : phases (executor, call) = .claiming ref) {label : Label} {next : Cluster}
    (runs : label.Runs executor call) (steps : internalStep cluster label = some next)
    (inFlight : (next.nodes executor).calls call ≠ none) :
    ∃ later, EmailInvariant later next ∧ (later (executor, call)).held = some ref := by
  obtain ⟨later, middle, callStep, sets⟩ :=
    steps_of_runs (invariant.waits (executor, call)) runs steps
  refine ⟨_, invariant.callStep callStep sets, ?_⟩
  rw [Function.update_self]
  rw [sets.own] at inFlight
  rw [claiming] at callStep
  cases callStep with
  | acquire ref free => rfl
  | _ => exact absurd rfl inFlight

/-- It holds the lock until it settles. -/
theorem EmailInvariant.held_of_run {labels : List Label}
    (invariant : EmailInvariant phases cluster)
    (held : (phases (executor, call)).held = some ref)
    (unsettled : EachState internalStep
      (fun state => (state.nodes executor).calls call ≠ none) cluster labels)
    (reaches : run internalStep cluster labels = some inFlight) :
    ∃ later, EmailInvariant later inFlight ∧ (later (executor, call)).held = some ref := by
  induction labels generalizing cluster phases with
  | nil =>
      cases reaches
      exact ⟨phases, invariant, held⟩
  | cons label labels ih =>
      obtain ⟨next, stepTo, rest⟩ := run_cons_eq_some reaches
      obtain ⟨later, stepped⟩ := invariant.step stepTo
      have unsettledNext := unsettled.2 next stepTo
      have stillHeld := stepped.inFlight (executor, call) ref held unsettledNext.first
      exact ih stepped.invariant stillHeld unsettledNext rest

/-- Before a call settles, it has not been answered since it asked for the lock,
or it holds the lock. -/
theorem EmailInvariant.asks_or_holds {during : List Label}
    (invariant : EmailInvariant phases before)
    (claiming : phases (executor, call) = .claiming ref)
    (first : ∀ label ∈ during.head?, label.Runs executor call)
    (unsettled : EachState internalStep
      (fun state => (state.nodes executor).calls call ≠ none) before during)
    (reaches : run internalStep before during = some inFlight) :
    before = inFlight ∨
      ∃ later, EmailInvariant later inFlight ∧ (later (executor, call)).held = some ref := by
  cases during with
  | nil =>
      cases reaches
      exact .inl rfl
  | cons label during =>
      obtain ⟨next, stepTo, rest⟩ := run_cons_eq_some reaches
      have unsettledNext := unsettled.2 next stepTo
      obtain ⟨later, stillInvariant, held⟩ :=
        invariant.held_of_claiming claiming (first label rfl) stepTo unsettledNext.first
      exact .inr (stillInvariant.held_of_run held unsettledNext rest)

theorem idle_of_ended {phase : EmailPhase} {middle : Cluster}
    (sets : SetsCall executor call (phase.waitsFor executor) middle settled)
    (ended : (settled.nodes executor).calls call = none) : phase = .idle := by
  rw [sets.own] at ended
  cases phase <;> first | rfl | cases ended

/-- A call that settles gives up its number. -/
theorem EmailInvariant.retired (invariant : EmailInvariant phases inFlight) {middle : Cluster}
    (numbered : (phases (executor, call)).ref = some ref)
    (callStep : CallStep executor inFlight (phases (executor, call)) .idle middle)
    (sets : SetsCall executor call none middle settled) :
    Retired (Function.update phases (executor, call) .idle) settled ref where
  fresh := by
    rw [sets.constructed]
    exact Nat.lt_of_lt_of_le (invariant.fresh _ ref numbered) callStep.constructed_le
  unused worker other := by
    by_cases same : worker = (executor, call)
    · subst same
      rw [Function.update_self] at other
      cases other
    · rw [Function.update_of_ne same] at other
      exact same (invariant.distinct worker _ ref other numbered)

/-- A call that has held the lock leaves a timer behind that refreshes it. -/
theorem EmailInvariant.leftRefreshing (invariant : EmailInvariant phases inFlight)
    (held : (phases (executor, call)).held = some ref)
    (settles : internalStep inFlight (.resume executor call environment) = some settled)
    (ended : (settled.nodes executor).calls call = none) :
    ∃ later, EmailInvariant later settled ∧ Retired later settled ref ∧
      LeftRefreshing executor ref settled := by
  obtain ⟨later, middle, callStep, sets⟩ :=
    steps_of_resume (invariant.waits (executor, call)) settles
  have idle := idle_of_ended sets ended
  subst idle
  have numbered := EmailPhase.ref_of_held held
  refine ⟨_, invariant.callStep callStep sets, invariant.retired numbered callStep sets, ?_, ?_⟩
  · intro timer member identifier
    rw [sets.timers] at member
    rcases callStep.timers member with earlier | ⟨acting, -, owner, -, -, -⟩
    · exact (invariant.owned timer earlier (executor, call) ref identifier numbered).1
    · exact owner
  · have kept := invariant.kept (executor, call) ref held
    exact (kept.callStep invariant.timers callStep held).of_same sets.locks sets.timers

/-- A call whose `SET` fails leaves a lease behind that ends soon, or none. -/
theorem EmailInvariant.leftToExpire (invariant : EmailInvariant phases inFlight)
    (claiming : phases (executor, call) = .claiming ref)
    (free : inFlight.locks.holder inFlight.now emailsKey = none)
    (settles : internalStep inFlight (.resume executor call environment) = some settled)
    (ended : (settled.nodes executor).calls call = none) :
    ∃ later, EmailInvariant later settled ∧ Retired later settled ref ∧
      LeftToExpire ref (settled.now + LOCK_TIMEOUT_IN_MSECS) settled := by
  obtain ⟨later, middle, callStep, sets⟩ :=
    steps_of_resume (invariant.waits (executor, call)) settles
  have idle := idle_of_ended sets ended
  subst idle
  have numbered : (phases (executor, call)).ref = some ref := by rw [claiming]; rfl
  refine ⟨_, invariant.callStep callStep sets, invariant.retired numbered callStep sets, ?_⟩
  have unrefreshed : ∀ timer ∈ inFlight.timers, timer.mutex.identifier ≠ .generated ref := by
    intro timer member identifier
    have held := (invariant.owned timer member (executor, call) ref identifier numbered).2
    rw [claiming] at held
    cases held
  have expires : LeftToExpire ref (middle.now + LOCK_TIMEOUT_IN_MSECS) middle := by
    rw [claiming] at callStep
    cases callStep with
    | fail =>
        refine ⟨unrefreshed, fun lease leased inForce => ?_⟩
        rw [holder_of_lease leased inForce] at free
        cases free
    | attempt =>
        refine ⟨unrefreshed, fun lease leased inForce => ?_⟩
        simp only [claim_of_free free, Function.update_self] at leased
        cases leased
        exact Nat.le_refl _
  constructor
  · rw [sets.timers]
    exact expires.unrefreshed
  · rw [sets.locks, sets.now]
    exact expires.bounded

/-! ### How the call settles -/

theorem resolved_suspend : Resolved executor (cluster.suspend executor call (.done ())) := by
  unfold Resolved
  rw [suspend_done_journal]
  rfl

theorem not_resolved_suspend (error : Thrown) :
    ¬ Resolved executor (cluster.suspend executor call (.fail error)) := by
  unfold Resolved
  rw [suspend_fail_journal]
  simp

/-- A call that is answered while it asks for the lock, and settles, fails. -/
theorem EmailInvariant.not_resolved_of_claiming (invariant : EmailInvariant phases inFlight)
    (claiming : phases (executor, call) = .claiming ref)
    (free : inFlight.locks.holder inFlight.now emailsKey = none)
    (settles : internalStep inFlight (.resume executor call environment) = some settled)
    (ended : (settled.nodes executor).calls call = none) : ¬ Resolved executor settled := by
  obtain ⟨command, continuation, waiting, rfl⟩ := stepOf_resume settles
  have waits := invariant.waits (executor, call)
  rw [claiming] at waits
  rw [waits] at waiting
  cases waiting
  rw [execute_claim] at ended ⊢
  rcases reply_cases inFlight environment
      (inFlight.locks.claim inFlight.now emailsKey (.generated ref) LOCK_TIMEOUT_IN_MSECS).1
      (inFlight.locks.claim inFlight.now emailsKey (.generated ref) LOCK_TIMEOUT_IN_MSECS).2
    with answered | ⟨error, rejected | lost⟩
  · rw [answered] at ended
    have taken : (inFlight.locks.claim inFlight.now emailsKey (.generated ref)
        LOCK_TIMEOUT_IN_MSECS).2 = true := by rw [claim_of_free free]
    simp only [taken, afterClaim, advance_of_now (.startRefresh _) rfl] at ended
    exact absurd ended (advance_waits rfl)
  · rw [rejected]
    exact not_resolved_suspend error
  · rw [lost]
    exact not_resolved_suspend error

/-- A call that settles while it sends the emails fails. -/
theorem EmailInvariant.not_resolved_of_sending (invariant : EmailInvariant phases inFlight)
    (sending : phases (executor, call) = .sending ref)
    (settles : internalStep inFlight (.resume executor call environment) = some settled)
    (ended : (settled.nodes executor).calls call = none) : ¬ Resolved executor settled := by
  obtain ⟨command, continuation, waiting, rfl⟩ := stepOf_resume settles
  have waits := invariant.waits (executor, call)
  rw [sending] at waits
  rw [waits] at waiting
  cases waiting
  cases answer : environment.task .sendEmails with
  | error error =>
      simp only [execute, answer]
      exact not_resolved_suspend error
  | ok sent =>
      simp only [execute, answer, afterSend, advance_of_now .construct rfl] at ended
      exact absurd ended (advance_waits rfl)

/-- A call that renews its lock succeeds if Redis answers. -/
theorem EmailInvariant.resolved_iff_of_renewing {renewal : Nat}
    (invariant : EmailInvariant phases inFlight)
    (renewing : phases (executor, call) = .renewing ref renewal)
    (settles : internalStep inFlight (.resume executor call environment) = some settled) :
    Resolved executor settled ↔ environment.redis = .answered := by
  obtain ⟨command, continuation, waiting, rfl⟩ := stepOf_resume settles
  have waits := invariant.waits (executor, call)
  rw [renewing] at waits
  rw [waits] at waiting
  cases waiting
  simp only [execute, reply]
  cases answers : environment.redis with
  | rejected error => exact iff_of_false (not_resolved_suspend error) RedisReply.noConfusion
  | lost error => exact iff_of_false (not_resolved_suspend error) RedisReply.noConfusion
  | answered =>
      apply iff_of_true _ rfl
      simp only
      generalize (inFlight.locks.renew inFlight.now _ _ _).2 = renewed
      cases renewed with
      | true =>
          simp only [afterRenewal, advance_of_now (.startRefresh _) rfl]
          exact resolved_suspend
      | false => exact resolved_suspend

/-- A run that succeeds leaves the lock leased for the hour. -/
theorem EmailInvariant.leased_of_renewing {renewal : Nat}
    (invariant : EmailInvariant phases inFlight)
    (renewing : phases (executor, call) = .renewing ref renewal)
    (settles : internalStep inFlight (.resume executor call environment) = some settled)
    (answers : environment.redis = .answered) :
    settled.locks emailsKey =
      some ⟨.generated ref, settled.now + LOCK_ON_SUCCESS_IN_MSECS⟩ := by
  have kept := invariant.kept (executor, call) ref (by rw [renewing]; rfl)
  have held := kept.holder fun timer member => (invariant.timers timer member).notOverdue
  obtain ⟨command, continuation, waiting, rfl⟩ := stepOf_resume settles
  have waits := invariant.waits (executor, call)
  rw [renewing] at waits
  rw [waits] at waiting
  cases waiting
  have renewed := renew_lease_of_held (Nat.succ_pos _ : 0 < LOCK_ON_SUCCESS_IN_MSECS) held
  have found : (inFlight.locks.renew inFlight.now emailsKey (.generated ref)
      LOCK_ON_SUCCESS_IN_MSECS).2 = true := by rw [renew_of_held held]
  rw [execute_renewal]
  simp only [reply, answers, found, afterRenewal, advance_of_now (.startRefresh _) rfl]
  change (suspend _ executor call (.done ())).locks emailsKey =
    some ⟨_, (suspend _ executor call (.done ())).now + _⟩
  rw [(suspend_setsCall _).locks, (suspend_setsCall _).now]
  exact renewed

end Run

/-! ## The lock after the run -/

section After

variable {phases : String × Call → EmailPhase} {cluster last : Cluster}
variable {executor : String} {ref expiresAt : Nat} {labels : List Label}

/-- While the lock is held under a retired number, nobody sends emails. -/
theorem EmailInvariant.not_sending (invariant : EmailInvariant phases cluster)
    (retired : Retired phases cluster ref)
    (held : cluster.locks.holder cluster.now emailsKey = some (.generated ref))
    (other : String) (method : Call) : ¬ cluster.Awaits other method .sendEmails := by
  intro awaits
  have waits := invariant.waits (other, method)
  rw [Awaits, waits] at awaits
  have kept := invariant.kept (other, method)
  have unused := retired.unused (other, method)
  generalize phases (other, method) = phase at awaits kept unused
  cases phase with
  | sending acting =>
      have holds := (kept acting rfl).holder fun timer member =>
        (invariant.timers timer member).notOverdue
      rw [held] at holds
      cases holds
      exact unused rfl
  | _ => cases awaits

theorem LeftToExpire.not_held (left : LeftToExpire ref expiresAt cluster)
    (passed : expiresAt < cluster.now) :
    cluster.locks.holder cluster.now emailsKey ≠ some (.generated ref) := by
  intro held
  obtain ⟨lease, leased, inForce⟩ := exists_lease_of_holder held
  have bounded := left.bounded lease leased inForce
  omega

/-- The node refreshes the lock after its run, and the lease in force is the one
of the given refresh. -/
structure LeasedFor (executor : String) (ref : Nat) (refresh : Nat × Nat) (cluster : Cluster) :
    Prop where
  refreshing : ∃ phases, EmailInvariant phases cluster ∧ Retired phases cluster ref ∧
    LeftRefreshing executor ref cluster
  leased : cluster.locks emailsKey = some ⟨.generated ref, refresh.1 + refresh.2⟩

theorem LeasedFor.inForce {refresh : Nat × Nat}
    (leasedFor : LeasedFor executor ref refresh cluster) :
    cluster.now ≤ refresh.1 + refresh.2 := by
  obtain ⟨phases, invariant, -, left⟩ := leasedFor.refreshing
  have held := left.kept.holder fun timer member => (invariant.timers timer member).notOverdue
  obtain ⟨expiresAt, leased, inForce⟩ := exists_lease_of_holder held
  rw [leasedFor.leased] at leased
  cases leased
  exact inForce

theorem LeasedFor.step {refresh : Nat × Nat} {label : Label} {next : Cluster}
    (leasedFor : LeasedFor executor ref refresh cluster) (survives : label ≠ .crash executor)
    (steps : internalStep cluster label = some next) :
    LeasedFor executor ref ((refreshOf (.generated ref) cluster label).getD refresh) next := by
  obtain ⟨phases, invariant, retired, left⟩ := leasedFor.refreshing
  obtain ⟨later, stepped⟩ := invariant.step steps
  obtain ⟨stillRetired, effect⟩ := stepped.retired ref retired
  exact ⟨⟨later, stepped.invariant, stillRetired, left.step invariant.timers effect survives⟩,
    left.leased_step invariant.timers effect leasedFor.leased⟩

/-- As long as the node lives, the last refresh gives the lease. -/
theorem LeasedFor.of_run {refresh : Nat × Nat} (leasedFor : LeasedFor executor ref refresh cluster)
    (survives : .crash executor ∉ labels)
    (reaches : run internalStep cluster labels = some last) :
    LeasedFor executor ref ((lastRefresh (.generated ref) cluster labels).getD refresh) last := by
  have noCrash : EachStep internalStep (fun _ label => label ≠ .crash executor)
      cluster labels := by
    apply EachStep.of_forall
    rintro label member state rfl
    exact survives member
  exact run_lastSeen (fun _ _ _ _ leasedFor survived steps => leasedFor.step survived steps)
    leasedFor noCrash reaches

/-- As long as the node lives, it refreshes the lock. -/
theorem leftRefreshing_of_run (invariant : EmailInvariant phases cluster)
    (retired : Retired phases cluster ref) (left : LeftRefreshing executor ref cluster)
    (survives : .crash executor ∉ labels)
    (reaches : run internalStep cluster labels = some last) :
    ∃ later, EmailInvariant later last ∧ Retired later last ref ∧
      LeftRefreshing executor ref last := by
  obtain ⟨expiresAt, leased, -⟩ := left.kept
  have leasedFor : LeasedFor executor ref (expiresAt, 0) cluster :=
    ⟨⟨phases, invariant, retired, left⟩, leased⟩
  exact (leasedFor.of_run survives reaches).refreshing

/-- A lock that nothing refreshes keeps its last lease until that ends. -/
theorem leftToExpire_of_run (invariant : EmailInvariant phases cluster)
    (retired : Retired phases cluster ref) (left : LeftToExpire ref expiresAt cluster)
    (reaches : run internalStep cluster labels = some last) :
    ∃ later, EmailInvariant later last ∧ Retired later last ref ∧
      LeftToExpire ref expiresAt last ∧
      (HeldUntil ref expiresAt cluster → HeldUntil ref expiresAt last) := by
  apply run_invariant_of_step _ ⟨phases, invariant, retired, left, id⟩ reaches
  intro state label next ⟨phases, invariant, retired, left, holds⟩ steps
  obtain ⟨later, stepped⟩ := invariant.step steps
  obtain ⟨stillRetired, effect⟩ := stepped.retired ref retired
  exact ⟨later, stepped.invariant, stillRetired, left.step effect,
    fun held => (holds held).step left effect⟩

end After

section CoolDown

variable {phases : String × Call → EmailPhase} {settled last : Cluster}
variable {executor : String} {ref : Nat} {later : List Label}

/-- A failed run that has left nothing behind but a lease cools down. -/
theorem coolsDown_of_leftToExpire (invariant : EmailInvariant phases settled)
    (retired : Retired phases settled ref)
    (left : LeftToExpire ref (settled.now + LOCK_TIMEOUT_IN_MSECS) settled)
    (failed : ¬ Resolved executor settled) :
    EachState internalStep (CoolsDown executor (.generated ref) settled) settled later := by
  apply eachState_iff.mpr
  intro before after state split reaches
  obtain ⟨-, -, -, stillLeft, -⟩ := leftToExpire_of_run invariant retired left reaches
  exact
    { held := fun resolved => absurd resolved failed
      freed := fun resolved => absurd resolved failed
      unrefreshed := fun _ => stillLeft.unrefreshed
      freedSoon := fun _ passed => stillLeft.not_held passed }

/-- A failed run that has left a timer behind does not cool down. -/
theorem not_coolsDown_of_leftRefreshing (left : LeftRefreshing executor ref settled)
    (failed : ¬ Resolved executor settled) :
    ¬ CoolsDown executor (.generated ref) settled settled := by
  intro cools
  obtain ⟨expiresAt, -, timer, member, -, identifier, -⟩ := left.kept
  exact cools.unrefreshed failed timer member identifier

/-- While the node lives and the hour has not passed, a successful run cools down. -/
theorem coolsDown_of_leftRefreshing {state : Cluster} (invariant : EmailInvariant phases settled)
    (retired : Retired phases settled ref) (left : LeftRefreshing executor ref settled)
    (resolved : Resolved executor settled) (survives : .crash executor ∉ later)
    (reaches : run internalStep settled later = some state)
    (early : state.now ≤ settled.now + LOCK_ON_SUCCESS_IN_MSECS) :
    CoolsDown executor (.generated ref) settled state := by
  obtain ⟨now, stillInvariant, stillRetired, stillLeft⟩ :=
    leftRefreshing_of_run invariant retired left survives reaches
  have held := stillLeft.kept.holder fun timer member =>
    (stillInvariant.timers timer member).notOverdue
  exact
    { held := fun _ _ => ⟨held, stillInvariant.not_sending stillRetired held⟩
      freed := fun _ passed => absurd early (Nat.not_le_of_lt passed)
      unrefreshed := fun failed => absurd resolved failed
      freedSoon := fun failed => absurd resolved failed }

/-- Once the node has crashed, the last lease decides. -/
theorem coolsDown_of_crashed {crashing state : Cluster} {expiresAt : Nat}
    (invariant : EmailInvariant phases crashing) (retired : Retired phases crashing ref)
    (left : LeftRefreshing executor ref crashing)
    (leased : crashing.locks emailsKey = some ⟨.generated ref, expiresAt⟩)
    (resolved : Resolved executor settled)
    (hour : expiresAt = settled.now + LOCK_ON_SUCCESS_IN_MSECS ∨
      expiresAt + 1 = settled.now + LOCK_ON_SUCCESS_IN_MSECS)
    (reaches : run internalStep crashing (.crash executor :: later) = some state) :
    CoolsDown executor (.generated ref) settled state := by
  obtain ⟨crashed, steps, rest⟩ := run_cons_eq_some reaches
  obtain ⟨afterCrash, stepped⟩ := invariant.step steps
  cases steps
  obtain ⟨expires, lasts⟩ := left.crash leased
  obtain ⟨now, stillInvariant, stillRetired, stillExpires, stillLasts⟩ :=
    leftToExpire_of_run stepped.invariant (stepped.retired ref retired).1 expires rest
  exact
    { held := fun _ early => by
        have inForce : state.now ≤ expiresAt := by omega
        have held := holder_of_lease (stillLasts lasts inForce) inForce
        exact ⟨held, stillInvariant.not_sending stillRetired held⟩
      freed := fun _ passed => stillExpires.not_held (by omega)
      unrefreshed := fun failed => absurd resolved failed
      freedSoon := fun failed => absurd resolved failed }

/-- A successful run cools down if the node crashes in time. -/
theorem coolsDown_of_crashesInTime
    (leasedFor : LeasedFor executor ref (settled.now, LOCK_ON_SUCCESS_IN_MSECS) settled)
    (resolved : Resolved executor settled)
    (passes : run internalStep settled later = some last)
    (inTime : CrashesInTime executor (.generated ref) settled later) :
    EachState internalStep (CoolsDown executor (.generated ref) settled) settled later := by
  obtain ⟨before, after, rfl, survives, refreshed⟩ := inTime
  obtain ⟨crashing, reaches, -⟩ := run_append_eq_some passes
  obtain ⟨phases, invariant, retired, left⟩ := leasedFor.refreshing
  have atCrash := leasedFor.of_run survives reaches
  obtain ⟨crashPhases, crashInvariant, crashRetired, crashLeft⟩ := atCrash.refreshing
  have hour := (endsWithHour_iff _).mp refreshed
  have inForce := atCrash.inForce
  have crashEarly : crashing.now ≤ settled.now + LOCK_ON_SUCCESS_IN_MSECS := by omega
  apply eachState_iff.mpr
  intro first rest state split reached
  rcases List.append_eq_append_iff.mp split with ⟨more, rfl, afterSplit⟩ | ⟨more, rfl, -⟩
  · cases more with
    | nil =>
        rw [List.append_nil, reaches] at reached
        cases reached
        exact coolsDown_of_leftRefreshing invariant retired left resolved survives reaches
          crashEarly
    | cons label more =>
        rw [List.cons_append] at afterSplit
        obtain ⟨rfl, -⟩ := List.cons.inj afterSplit
        rw [run_append reaches] at reached
        exact coolsDown_of_crashed crashInvariant crashRetired crashLeft atCrash.leased
          resolved hour reached
  · have survivesFirst : .crash executor ∉ first :=
      fun member => survives (List.mem_append_left _ member)
    have until' : state.now ≤ crashing.now := by
      rw [run_append reached] at reaches
      exact now_le_of_run reaches
    exact coolsDown_of_leftRefreshing invariant retired left resolved survivesFirst reached
      (Nat.le_trans until' crashEarly)

/-- A successful run that cools down for more than the hour does so because the
node crashes in time. -/
theorem crashesInTime_of_coolsDown
    (leasedFor : LeasedFor executor ref (settled.now, LOCK_ON_SUCCESS_IN_MSECS) settled)
    (resolved : Resolved executor settled)
    (passes : run internalStep settled later = some last)
    (long : settled.now + LOCK_ON_SUCCESS_IN_MSECS < last.now)
    (cools : EachState internalStep (CoolsDown executor (.generated ref) settled) settled later) :
    CrashesInTime executor (.generated ref) settled later := by
  have coolsAt := eachState_iff.mp cools
  by_cases crashes : .crash executor ∈ later
  · obtain ⟨before, after, rfl, survives⟩ := List.eq_append_cons_of_mem crashes
    obtain ⟨crashing, reaches, rest⟩ := run_append_eq_some passes
    refine ⟨before, after, rfl, survives, (endsWithHour_iff _).mpr ?_⟩
    have atCrash := leasedFor.of_run survives reaches
    obtain ⟨crashPhases, crashInvariant, crashRetired, crashLeft⟩ := atCrash.refreshing
    have leased := atCrash.leased
    have inForce := atCrash.inForce
    generalize (lastRefresh (.generated ref) settled before).getD _ = refresh at leased inForce ⊢
    generalize refresh.1 + refresh.2 = expiresAt at leased inForce ⊢
    obtain ⟨expires, lasts⟩ := crashLeft.crash leased
    obtain ⟨crashed, steps, passesOn⟩ := run_cons_eq_some rest
    obtain ⟨afterCrash, stepped⟩ := crashInvariant.step steps
    have crashedRetired := (stepped.retired ref crashRetired).1
    cases steps
    -- what holds at an instant between the crash and the end of the run
    have atInstant (instant : Nat) (notBefore : crashing.now ≤ instant)
        (notAfter : instant ≤ last.now) :
        ∃ state, state.now = instant ∧ LeftToExpire ref expiresAt state ∧
          HeldUntil ref expiresAt state ∧
          CoolsDown executor (.generated ref) settled state := by
      obtain ⟨first, more, state, split, reached, now⟩ :=
        exists_state_at passesOn notBefore notAfter
      obtain ⟨-, -, -, stillExpires, stillLasts⟩ :=
        leftToExpire_of_run stepped.invariant crashedRetired expires reached
      refine ⟨state, now, stillExpires, stillLasts lasts, ?_⟩
      apply coolsAt (before ++ .crash executor :: first) more state
      · rw [split]
        simp
      · rw [run_append reaches]
        exact reached
    have crashEarly : crashing.now ≤ settled.now + LOCK_ON_SUCCESS_IN_MSECS := by
      by_contra late
      have cooling := coolsAt before _ crashing rfl reaches
      exact cooling.freed resolved (Nat.lt_of_not_le late) (holder_of_lease leased inForce)
    by_contra notHour
    by_cases late : settled.now + LOCK_ON_SUCCESS_IN_MSECS < expiresAt
    · -- the lease outlives the hour
      obtain ⟨state, now, -, lastsStill, atState⟩ :=
        atInstant (settled.now + LOCK_ON_SUCCESS_IN_MSECS + 1) (by omega) (by omega)
      have inForceStill : state.now ≤ expiresAt := by omega
      exact atState.freed resolved (by omega)
        (holder_of_lease (lastsStill inForceStill) inForceStill)
    · -- the lease ends before the hour is over
      obtain ⟨state, now, expiresStill, -, atState⟩ :=
        atInstant (expiresAt + 1) (by omega) (by omega)
      exact expiresStill.not_held (by omega) (atState.held resolved (by omega)).1
  · obtain ⟨lastPhases, lastInvariant, -, lastLeft⟩ :=
      (leasedFor.of_run crashes passes).refreshing
    have held := lastLeft.kept.holder fun timer member =>
      (lastInvariant.timers timer member).notOverdue
    have atEnd := coolsAt later [] last (by simp) passes
    exact absurd held (atEnd.freed resolved long)

end CoolDown

/-- A run that is given the free lock and settles cools down if its `SET` has
failed, or if it has succeeded and its node crashes in time; and if it cools down
for more than an hour, it is one of these. -/
theorem coolsDown_iff (now : Nat) (locks : LeaseStore String Identifier) (labels : List Label)
    (before : Cluster)
    (reaches : run internalStep (AbstractPeriodicJob.initialCluster now locks) labels =
      some before) (executor : String) (call : Call) (mutex : Mutex)
    (continuation : Except Thrown Bool → JobProgram Unit)
    (asks : (before.nodes executor).calls call = some (.call (.setNx mutex) continuation))
    (free : before.locks.holder before.now emailsKey = none) (during : List Label)
    (first : ∀ label ∈ during.head?, label.Runs executor call)
    (unsettled : EachState internalStep
      (fun state => (state.nodes executor).calls call ≠ none) before during)
    (inFlight : Cluster) (runs : run internalStep before during = some inFlight)
    (environment : Environment) (settled : Cluster)
    (settles : internalStep inFlight (.resume executor call environment) = some settled)
    (ended : (settled.nodes executor).calls call = none) (later : List Label)
    (last : Cluster) (passes : run internalStep settled later = some last) :
    (AsksForLock executor call inFlight ∨
        RenewsLock executor call inFlight ∧ environment.redis = .answered ∧
          CrashesInTime executor mutex.identifier settled later →
      EachState internalStep (CoolsDown executor mutex.identifier settled) settled later) ∧
    (settled.now + LOCK_ON_SUCCESS_IN_MSECS < last.now →
      EachState internalStep (CoolsDown executor mutex.identifier settled) settled later →
        AsksForLock executor call inFlight ∨
          RenewsLock executor call inFlight ∧ environment.redis = .answered ∧
            CrashesInTime executor mutex.identifier settled later) := by
  obtain ⟨phases, invariant⟩ := emailInvariant_of_run reaches
  obtain ⟨ref, claiming⟩ := invariant.claiming ⟨mutex, continuation, asks⟩
  have identifier : mutex.identifier = .generated ref := by
    have waits := invariant.waits (executor, call)
    rw [claiming, asks] at waits
    cases waits
    rfl
  rw [identifier]
  rcases invariant.asks_or_holds claiming first unsettled runs with rfl | ⟨now, invariant, held⟩
  · obtain ⟨after, stillInvariant, retired, left⟩ :=
      invariant.leftToExpire claiming free settles ended
    have failed := invariant.not_resolved_of_claiming claiming free settles ended
    have cools : EachState internalStep (CoolsDown executor (.generated ref) settled)
        settled later := coolsDown_of_leftToExpire stillInvariant retired left failed
    exact ⟨fun _ => cools, fun _ _ => .inl ⟨mutex, continuation, asks⟩⟩
  obtain ⟨after, stillInvariant, retired, left⟩ := invariant.leftRefreshing held settles ended
  have notAsking : ¬ AsksForLock executor call inFlight := by
    intro asking
    obtain ⟨other, claims⟩ := invariant.claiming asking
    rw [claims] at held
    cases held
  have waits := invariant.waits (executor, call)
  cases inPhase : now (executor, call) with
  | idle =>
      rw [inPhase] at held
      cases held
  | claiming other =>
      rw [inPhase] at held
      cases held
  | sending other =>
      have failed := invariant.not_resolved_of_sending inPhase settles ended
      have notCool := not_coolsDown_of_leftRefreshing left failed
      constructor
      · rintro (asking | ⟨⟨renewal, next, renewing⟩, -⟩)
        · exact absurd asking notAsking
        · rw [inPhase, renewing] at waits
          cases waits
      · intro _ cools
        exact absurd cools.first notCool
  | renewing other renewal =>
      have resolved := invariant.resolved_iff_of_renewing inPhase settles
      have same : ref = other := by
        rw [inPhase] at held
        exact (Option.some.inj held).symm
      subst same
      have leasedFor (answers : environment.redis = .answered) :
          LeasedFor executor ref (settled.now, LOCK_ON_SUCCESS_IN_MSECS) settled :=
        ⟨⟨after, stillInvariant, retired, left⟩,
          invariant.leased_of_renewing inPhase settles answers⟩
      have renews : RenewsLock executor call inFlight := by
        rw [inPhase] at waits
        exact ⟨_, _, waits⟩
      constructor
      · rintro (asking | ⟨-, answers, inTime⟩)
        · exact absurd asking notAsking
        · exact coolsDown_of_crashesInTime (leasedFor answers) (resolved.mpr answers) passes inTime
      · intro long cools
        have succeeded : Resolved executor settled := by
          by_contra failed
          exact not_coolsDown_of_leftRefreshing left failed cools.first
        exact .inr ⟨renews, resolved.mp succeeded,
          crashesInTime_of_coolsDown (leasedFor (resolved.mp succeeded)) succeeded passes long
            cools⟩

/-- A node sends the emails. -/
def sendsEmails : List Label :=
  [.start "a" .process allSucceeds, .resume "a" .process allSucceeds,
    .resume "a" .process allSucceeds, .resume "a" .process allSucceeds]

/-- The node crashes as soon as its run has succeeded. -/
theorem coolsDown_of_crash :
    ∃ settled, run internalStep (AbstractPeriodicJob.initialCluster 0 fun _ => none)
        sendsEmails = some settled ∧ Resolved "a" settled ∧
      EachState internalStep (CoolsDown "a" (.generated 0) settled) settled [.crash "a"] := by
  refine ⟨_, rfl, rfl, ?_⟩
  have cools := coolsDown_iff 0 (fun _ => none) [.start "a" .process allSucceeds] _ rfl "a"
    .process (emailsMutex 0) _ rfl rfl
    [.resume "a" .process allSucceeds, .resume "a" .process allSucceeds]
    (by rintro label ⟨⟩; exact ⟨rfl, rfl⟩)
    (by
      refine ⟨Option.some_ne_none _, fun next steps => ?_⟩
      cases steps
      refine ⟨Option.some_ne_none _, fun next steps => ?_⟩
      cases steps
      exact Option.some_ne_none _)
    _ rfl allSucceeds _ rfl rfl [.crash "a"] _ rfl
  apply cools.1
  exact .inr ⟨⟨_, _, rfl⟩, rfl, [], [], rfl, by simp, fun _ _ refreshed => by cases refreshed⟩

/-- The emails cannot be sent. -/
def sendingFails : Environment :=
  { allSucceeds with
    task
      | .sendEmails => .error (.error "no mail server")
      | .deleteOldUsers | .processFile _ => .ok ()
      | .getUnprocessedLogFile => .ok none
      | .other _ => .ok "" }

/-- After a run in which the emails could not be sent, a timer still refreshes
the lock. -/
theorem failed_run_does_not_cool_down :
    ∃ settled, run internalStep (AbstractPeriodicJob.initialCluster 0 fun _ => none)
        [.start "a" .process sendingFails, .resume "a" .process sendingFails,
          .resume "a" .process sendingFails] = some settled ∧
      (settled.nodes "a").calls .process = none ∧ ¬ Resolved "a" settled ∧
      ¬ CoolsDown "a" (.generated 0) settled settled := by
  refine ⟨_, rfl, rfl, ?_, ?_⟩
  · intro resolved
    cases resolved
  · intro cools
    have unrefreshed := cools.unrefreshed (fun resolved => by cases resolved)
    exact unrefreshed _ List.mem_cons_self rfl

end SendEmailsJob

end ServiceTemplate.Jobs
