import ServiceTemplate.Jobs.Executors

/-!
# The lock of `SendEmailsJob`

Any number of executors run `processInternal` at the same time.  The one that
gets the lock refreshes it while the emails are sent, and renews it for an hour
by a second mutex with the same identifier.  Neither timer is ever stopped.
-/

namespace ServiceTemplate.Jobs

open LeaseStore Cluster

namespace SendEmailsJob

/-- Executors that run `processInternal` by itself. -/
def internalStep : Cluster → Label → Option Cluster :=
  Cluster.stepOf fun executor _ => processInternal executor

def emailsKey : String :=
  options.exclusiveKey

/-- The mutex by which the lock is asked for. -/
def emailsMutex (ref : Nat) : Mutex :=
  Mutex.new ref emailsKey
    { refreshInterval := some LOCK_REFRESH_IN_MSECS
      lockTimeout := some LOCK_TIMEOUT_IN_MSECS }

/-- The mutex by which the lock is renewed after the emails have been sent. -/
def renewalMutex (ref renewal : Nat) : Mutex :=
  Mutex.new renewal emailsKey
    { acquiredExternally := true
      identifier := some (.generated ref)
      lockTimeout := some LOCK_ON_SUCCESS_IN_MSECS }

/-! ## The phases of `processInternal` -/

/-- What an executor waits for, with the mutexes it has built. -/
inductive EmailPhase where
  | idle
  | claiming (ref : Nat)
  | sending (ref : Nat)
  | renewing (ref renewal : Nat)

section Phases

variable (executor : String)

/-- What follows the answer to the renewal of the lock. -/
def afterRenewal (renewal : Mutex) : Except Thrown Bool → JobProgram Unit
  | .error error => .fail error
  | .ok false => .done ()
  | .ok true =>
      .call (.startRefresh renewal) fun
        | .error error => .fail error
        | .ok _ => .done ()

/-- What follows the sending of the emails. -/
def afterSend (ref : Nat) : Except Thrown Unit → JobProgram Unit
  | .error error => .fail error
  | .ok _ =>
      .call .construct fun
        | .error error => .fail error
        | .ok renewal =>
            .call (.refresh (renewalMutex ref renewal))
              (afterRenewal (renewalMutex ref renewal))

/-- What follows the answer to `SET`. -/
def afterClaim (ref : Nat) : Except Thrown Bool → JobProgram Unit
  | .error error => .fail error
  | .ok false => log .debug (alreadyRunning executor)
  | .ok true =>
      .call (.startRefresh (emailsMutex ref)) fun
        | .error error => .fail error
        | .ok _ => .call (.perform .sendEmails) (afterSend ref)

def EmailPhase.waitsFor : EmailPhase → Option (JobProgram Unit)
  | .idle => none
  | .claiming ref => some (.call (.setNx (emailsMutex ref)) (afterClaim executor ref))
  | .sending ref => some (.call (.perform .sendEmails) (afterSend ref))
  | .renewing ref renewal =>
      some (.call (.refresh (renewalMutex ref renewal))
        (afterRenewal (renewalMutex ref renewal)))

/-- The number under which the lock is or will be held. -/
def EmailPhase.ref : EmailPhase → Option Nat
  | .idle => none
  | .claiming ref | .sending ref | .renewing ref _ => some ref

/-- The number under which the lock is held. -/
def EmailPhase.held : EmailPhase → Option Nat
  | .idle | .claiming _ => none
  | .sending ref | .renewing ref _ => some ref

end Phases

theorem renewalMutex_timed (ref renewal : Nat) : 0 < (renewalMutex ref renewal).refreshInterval :=
  defaultRefreshInterval_pos (Nat.succ_pos _)

/-- The renewal of the lock, as the commands it issues. -/
theorem updateMutex_eq (ref : Nat) :
    ((issue (.perform .sendEmails)).bind fun _ => do
        let _ ← options.updateMutex (emailsMutex ref) LOCK_ON_SUCCESS_IN_MSECS) =
      .call (.perform .sendEmails) (afterSend ref) := by
  refine Program.call_congr (fun _ => rfl) fun sent => ?_
  refine Program.call_congr (fun _ => rfl) fun renewal => ?_
  refine Program.call_congr (fun _ => rfl) fun renewed => ?_
  cases renewed with
  | false => rfl
  | true =>
      have timed : 0 < (Mutex.new renewal (options.getJobLockName DEFAULT_LOCK_NAME)
          { identifier := some (emailsMutex ref).identifier
            lockTimeout := some LOCK_ON_SUCCESS_IN_MSECS
            acquiredExternally := true }).refreshInterval := renewalMutex_timed ref renewal
      simp only [Program.bind, timed, decide_true, Bool.and_self, if_true]
      exact Program.call_congr (fun _ => rfl) fun _ => rfl

theorem processInternal_eq (executor : String) :
    processInternal executor =
      .call .construct fun
        | .error error => .fail error
        | .ok ref => .call (.setNx (emailsMutex ref)) (afterClaim executor ref) := by
  refine Program.call_congr (fun _ => rfl) fun ref => ?_
  refine Program.call_congr (fun _ => rfl) fun acquired => ?_
  cases acquired with
  | false =>
      exact Program.call_congr (fun _ => rfl) fun _ => rfl
  | true =>
      refine Program.call_congr (fun _ => rfl) fun started => ?_
      exact updateMutex_eq ref

/-! ## What a step of a call does -/

/-- What a step of a call does to the lock and the timers, and how its phase
changes. -/
inductive CallStep (executor : String) (cluster : Cluster) :
    EmailPhase → EmailPhase → Cluster → Prop
  | begin :
      CallStep executor cluster .idle (.claiming cluster.constructed)
        { cluster with constructed := cluster.constructed + 1 }
  /-- what the call waited for has failed -/
  | fail (phase : EmailPhase) : CallStep executor cluster phase .idle cluster
  /-- the lock is refused, or the reply is lost -/
  | attempt (ref : Nat) :
      CallStep executor cluster (.claiming ref) .idle
        { cluster with
          locks := (cluster.locks.claim cluster.now emailsKey (.generated ref)
            LOCK_TIMEOUT_IN_MSECS).1 }
  | acquire (ref : Nat) (free : cluster.locks.holder cluster.now emailsKey = none) :
      CallStep executor cluster (.claiming ref) (.sending ref)
        { cluster with
          locks := (cluster.locks.claim cluster.now emailsKey (.generated ref)
            LOCK_TIMEOUT_IN_MSECS).1
          timers := ⟨executor, emailsMutex ref, cluster.now + LOCK_REFRESH_IN_MSECS⟩ ::
            cluster.timers }
  | sent (ref : Nat) :
      CallStep executor cluster (.sending ref) (.renewing ref cluster.constructed)
        { cluster with constructed := cluster.constructed + 1 }
  /-- the renewal is refused, or the reply is lost -/
  | unrenewed (ref renewal : Nat) :
      CallStep executor cluster (.renewing ref renewal) .idle
        { cluster with
          locks := (cluster.locks.renew cluster.now emailsKey (.generated ref)
            LOCK_ON_SUCCESS_IN_MSECS).1 }
  | renewed (ref renewal : Nat) :
      CallStep executor cluster (.renewing ref renewal) .idle
        { cluster with
          locks := (cluster.locks.renew cluster.now emailsKey (.generated ref)
            LOCK_ON_SUCCESS_IN_MSECS).1
          timers := ⟨executor, renewalMutex ref renewal,
            cluster.now + (renewalMutex ref renewal).refreshInterval⟩ :: cluster.timers }

/-- The outcome of a step of a call. -/
def Steps (executor : String) (call : Call) (phase : EmailPhase) (cluster next : Cluster) :
    Prop :=
  ∃ later middle, CallStep executor cluster phase later middle ∧
    SetsCall executor call (later.waitsFor executor) middle next

section Calls

variable {executor : String} {call : Call} {environment : Environment}
variable {cluster next : Cluster}

theorem Steps.of_recordEvent {phase : EmailPhase} {event : Event}
    (steps : Steps executor call phase (cluster.recordEvent executor event) next) :
    Steps executor call phase cluster next := by
  obtain ⟨later, middle, step, sets⟩ := steps
  cases step with
  | begin => exact ⟨_, _, .begin, sets.of_recordEvent⟩
  | fail => exact ⟨_, _, .fail phase, sets.of_recordEvent⟩
  | attempt ref => exact ⟨_, _, .attempt ref, sets.of_recordEvent⟩
  | acquire ref free => exact ⟨_, _, .acquire ref free, sets.of_recordEvent⟩
  | sent ref => exact ⟨_, _, .sent ref, sets.of_recordEvent⟩
  | unrenewed ref renewal => exact ⟨_, _, .unrenewed ref renewal, sets.of_recordEvent⟩
  | renewed ref renewal => exact ⟨_, _, .renewed ref renewal, sets.of_recordEvent⟩

theorem execute_claim (ref : Nat) :
    cluster.execute executor environment (.setNx (emailsMutex ref)) =
      cluster.reply environment
        (cluster.locks.claim cluster.now emailsKey (.generated ref) LOCK_TIMEOUT_IN_MSECS).1
        (cluster.locks.claim cluster.now emailsKey (.generated ref) LOCK_TIMEOUT_IN_MSECS).2 :=
  execute_setNx_of_ne_zero (Nat.succ_ne_zero _)

theorem execute_renewal (ref renewal : Nat) :
    cluster.execute executor environment (.refresh (renewalMutex ref renewal)) =
      cluster.reply environment
        (cluster.locks.renew cluster.now emailsKey (.generated ref) LOCK_ON_SUCCESS_IN_MSECS).1
        (cluster.locks.renew cluster.now emailsKey (.generated ref)
          LOCK_ON_SUCCESS_IN_MSECS).2 := rfl

/-- Redis has been asked for the lock. -/
theorem steps_of_claiming {ref : Nat} :
    Steps executor call (.claiming ref) cluster
      ((cluster.execute executor environment (.setNx (emailsMutex ref))).1.advance
        executor call environment
        (afterClaim executor ref
          (cluster.execute executor environment (.setNx (emailsMutex ref))).2)) := by
  rw [execute_claim]
  rcases reply_cases cluster environment
      (cluster.locks.claim cluster.now emailsKey (.generated ref) LOCK_TIMEOUT_IN_MSECS).1
      (cluster.locks.claim cluster.now emailsKey (.generated ref) LOCK_TIMEOUT_IN_MSECS).2
    with answered | ⟨error, rejected | lost⟩
  · rw [answered]
    by_cases free : cluster.locks.holder cluster.now emailsKey = none
    · have taken : (cluster.locks.claim cluster.now emailsKey (.generated ref)
          LOCK_TIMEOUT_IN_MSECS).2 = true := by rw [claim_of_free free]
      refine ⟨.sending ref, _, .acquire ref free, ?_⟩
      simp only [taken, afterClaim, advance_of_now (.startRefresh _) rfl]
      exact advance_setsCall rfl
    · have refused : (cluster.locks.claim cluster.now emailsKey (.generated ref)
          LOCK_TIMEOUT_IN_MSECS).2 = false := by rw [claim_of_held free]
      refine ⟨.idle, _, .attempt ref, ?_⟩
      simp only [refused, afterClaim]
      exact (suspend_setsCall (.done ())).of_recordEvent
  · rw [rejected]
    exact ⟨.idle, _, .fail _, suspend_setsCall (.fail error)⟩
  · rw [lost]
    exact ⟨.idle, _, .attempt ref, suspend_setsCall (.fail error)⟩

/-- The sending of the emails has settled. -/
theorem steps_of_sending {ref : Nat} (answer : Except Thrown Unit) :
    Steps executor call (.sending ref) cluster
      (cluster.advance executor call environment (afterSend ref answer)) := by
  rcases answer with error | sent
  · exact ⟨.idle, _, .fail _, suspend_setsCall (.fail error)⟩
  · refine ⟨.renewing ref cluster.constructed, _, .sent ref, ?_⟩
    simp only [afterSend, advance_of_now .construct rfl]
    exact advance_setsCall rfl

/-- Redis has been asked to renew the lock. -/
theorem steps_of_renewing {ref renewal : Nat} :
    Steps executor call (.renewing ref renewal) cluster
      ((cluster.execute executor environment (.refresh (renewalMutex ref renewal))).1.advance
        executor call environment
        (afterRenewal (renewalMutex ref renewal)
          (cluster.execute executor environment (.refresh (renewalMutex ref renewal))).2)) := by
  rw [execute_renewal]
  rcases reply_cases cluster environment
      (cluster.locks.renew cluster.now emailsKey (.generated ref) LOCK_ON_SUCCESS_IN_MSECS).1
      (cluster.locks.renew cluster.now emailsKey (.generated ref) LOCK_ON_SUCCESS_IN_MSECS).2
    with answered | ⟨error, rejected | lost⟩
  · rw [answered]
    cases renewed : (cluster.locks.renew cluster.now emailsKey (.generated ref)
        LOCK_ON_SUCCESS_IN_MSECS).2 with
    | true =>
        refine ⟨.idle, _, .renewed ref renewal, ?_⟩
        simp only [afterRenewal, advance_of_now (.startRefresh _) rfl]
        exact suspend_setsCall (.done ())
    | false => exact ⟨.idle, _, .unrenewed ref renewal, suspend_setsCall (.done ())⟩
  · rw [rejected]
    exact ⟨.idle, _, .fail _, suspend_setsCall (.fail error)⟩
  · rw [lost]
    exact ⟨.idle, _, .unrenewed ref renewal, suspend_setsCall (.fail error)⟩

/-- What a call does when it is answered, whatever the answer. -/
theorem steps_of_resume {phase : EmailPhase}
    (waits : (cluster.nodes executor).calls call = phase.waitsFor executor)
    (steps : internalStep cluster (.resume executor call environment) = some next) :
    Steps executor call phase cluster next := by
  obtain ⟨command, continuation, waiting, rfl⟩ := stepOf_resume steps
  rw [waits] at waiting
  cases phase with
  | idle => cases waiting
  | claiming ref =>
      cases waiting
      exact steps_of_claiming
  | sending ref =>
      cases waiting
      exact (steps_of_sending _).of_recordEvent
  | renewing ref renewal =>
      cases waiting
      exact steps_of_renewing

theorem steps_of_start {phase : EmailPhase}
    (waits : (cluster.nodes executor).calls call = phase.waitsFor executor)
    (steps : internalStep cluster (.start executor call environment) = some next) :
    Steps executor call phase cluster next := by
  obtain ⟨⟨-, unstarted, -⟩, rfl⟩ := stepOf_start steps
  rw [waits] at unstarted
  cases phase with
  | idle =>
      refine ⟨.claiming cluster.constructed, _, .begin, ?_⟩
      rw [processInternal_eq, advance_of_now .construct rfl]
      exact advance_setsCall rfl
  | _ => cases unstarted

theorem steps_of_runs {phase : EmailPhase} {label : Label}
    (waits : (cluster.nodes executor).calls call = phase.waitsFor executor)
    (runs : label.Runs executor call) (steps : internalStep cluster label = some next) :
    Steps executor call phase cluster next := by
  cases label with
  | start node method environment =>
      obtain ⟨rfl, rfl⟩ := runs
      exact steps_of_start waits steps
  | resume node method environment =>
      obtain ⟨rfl, rfl⟩ := runs
      exact steps_of_resume waits steps
  | _ => exact runs.elim

end Calls

end SendEmailsJob

end ServiceTemplate.Jobs
