import ServiceTemplate.Jobs.ClusterInvariant

/-!
# Commands of an executor and its own mode

Every command that a mode allows is answered in accordance with the contract,
and the invariant of the mode that follows holds.
-/

namespace ServiceTemplate.Jobs

open LeaseStore Program

section Own

open Cluster

variable {options : JobOptions} {reliable : Prop} {permitted : Task → Prop}
variable {executor : String} {environment : Environment} {cluster : Cluster}

/-- Nothing that the modes speak about has changed. -/
structure Unchanged (options : JobOptions) (executor : String)
    (before after : Cluster) : Prop where
  now : after.now = before.now
  constructed : before.constructed ≤ after.constructed
  locks : after.locks options.exclusiveKey = before.locks options.exclusiveKey
  timers : ∀ timer, timer.owner = executor → timer.mutex.key = options.exclusiveKey →
    (timer ∈ after.timers ↔ timer ∈ before.timers)
  lock : (after.nodes executor).singleConsumerLock =
    (before.nodes executor).singleConsumerLock
  inBody : inBody (after.nodes executor).journal = inBody (before.nodes executor).journal
  hasWon : HasWon (after.nodes executor).journal ↔ HasWon (before.nodes executor).journal

section Unchanged

variable {after : Cluster} (same : Unchanged options executor cluster after)

include same

theorem Unchanged.refreshes (mutex : Mutex) :
    Refreshes options executor after mutex ↔ Refreshes options executor cluster mutex := by
  refine and_congr_right fun key => ?_
  constructor
  · rintro ⟨timer, member, owner, rfl⟩
    exact ⟨timer, (same.timers timer owner key).mp member, owner, rfl⟩
  · rintro ⟨timer, member, owner, rfl⟩
    exact ⟨timer, (same.timers timer owner key).mpr member, owner, rfl⟩

theorem Unchanged.guarded (guarded : Guarded options executor cluster) :
    Guarded options executor after := by
  obtain ⟨expiresAt, leased, timer, member, owner, key, rest⟩ := guarded
  exact ⟨expiresAt, by rw [same.locks, leased], timer,
    (same.timers timer owner key).mpr member, owner, key, rest⟩

theorem Unchanged.holder :
    after.locks.holder after.now options.exclusiveKey =
      cluster.locks.holder cluster.now options.exclusiveKey := by
  unfold LeaseStore.holder
  rw [same.locks, same.now]

theorem Unchanged.onlyLeftovers {lock : Mutex}
    (left : OnlyLeftovers options executor cluster lock) :
    OnlyLeftovers options executor after lock := by
  intro mutex refreshes
  rw [same.hasWon]
  exact left mutex ((same.refreshes mutex).mp refreshes)

theorem Unchanged.leftovers (left : Leftovers options executor cluster) :
    Leftovers options executor after where
  timers mutex refreshes := by
    rw [same.hasWon]
    exact left.timers mutex ((same.refreshes mutex).mp refreshes)
  leak positive won := by
    obtain ⟨mutex, refreshes⟩ := left.leak positive (same.hasWon.mp won)
    exact ⟨mutex, (same.refreshes mutex).mpr refreshes⟩
  released zero won := by
    rw [same.holder]
    exact left.released zero (same.hasWon.mp won)

theorem Unchanged.fresh {ref : Nat} (less : ref < cluster.constructed) :
    ref < after.constructed :=
  Nat.lt_of_lt_of_le less same.constructed

theorem Unchanged.started {lock : Mutex}
    (holds : ModeInvariant options reliable executor cluster (.started lock)) :
    ModeInvariant options reliable executor after (.started lock) := by
  obtain ⟨outside, left, fresh, guarded, stored, won⟩ := holds
  exact ⟨by rw [same.inBody, outside], fun answers => same.onlyLeftovers (left answers),
    same.fresh fresh, same.guarded guarded, by rw [same.lock, stored], same.hasWon.mpr won⟩

theorem Unchanged.executing {lock : Mutex} {nested : List Mutex}
    (holds : ModeInvariant options reliable executor cluster (.executing lock nested)) :
    ModeInvariant options reliable executor after (.executing lock nested) := by
  obtain ⟨inside, left, fresh, guarded, stored, won, elsewhere⟩ := holds
  exact ⟨by rw [same.inBody, inside], fun answers => same.onlyLeftovers (left answers),
    same.fresh fresh, same.guarded guarded, by rw [same.lock, stored],
    same.hasWon.mpr won, elsewhere⟩

theorem Unchanged.built {ref : Nat}
    (holds : ModeInvariant options reliable executor cluster (.built ref)) :
    ModeInvariant options reliable executor after (.built ref) :=
  ⟨by rw [same.inBody, holds.1], fun answers => same.leftovers (holds.2.1 answers),
    same.fresh holds.2.2⟩

theorem Unchanged.settled
    (holds : ModeInvariant options reliable executor cluster .settled) :
    ModeInvariant options reliable executor after .settled :=
  ⟨by rw [same.inBody, holds.1], fun answers => same.leftovers (holds.2 answers)⟩

end Unchanged

theorem unchanged_recordEvent {event : Event}
    (mark : ∀ instant journal, inBody ((instant, event) :: journal) = inBody journal)
    (notStart : ∀ jobId executionUuid, event ≠ .observabilityStart jobId executionUuid) :
    Unchanged options executor cluster (cluster.recordEvent executor event) := by
  refine ⟨rfl, Nat.le_refl _, rfl, fun _ _ _ => Iff.rfl, ?_, ?_, ?_⟩ <;>
    simp only [recordEvent, setNode, Function.update_self]
  · exact mark _ _
  · exact hasWon_cons notStart

section RecordEvent

variable (executor cluster) (event : Event)

@[simp]
theorem recordEvent_journal :
    ((cluster.recordEvent executor event).nodes executor).journal =
      (cluster.now, event) :: (cluster.nodes executor).journal := by
  simp [recordEvent, setNode]

@[simp]
theorem recordEvent_singleConsumerLock :
    ((cluster.recordEvent executor event).nodes executor).singleConsumerLock =
      (cluster.nodes executor).singleConsumerLock := by
  simp [recordEvent, setNode]

end RecordEvent

theorem HasWon.cons {journal : List (Nat × Event)} (won : HasWon journal)
    (entry : Nat × Event) : HasWon (entry :: journal) := by
  obtain ⟨instant, jobId, executionUuid, member⟩ := won
  exact ⟨instant, jobId, executionUuid, List.mem_cons_of_mem _ member⟩

theorem OnlyLeftovers.recordEvent {lock : Mutex} (event : Event)
    (left : OnlyLeftovers options executor cluster lock) :
    OnlyLeftovers options executor (cluster.recordEvent executor event) lock := by
  intro mutex refreshes
  refine (left mutex refreshes).imp_right fun earlier => ⟨earlier.1, ?_⟩
  rw [recordEvent_journal]
  exact earlier.2.cons _

theorem unchanged_observabilityStart {jobId executionUuid : String}
    (won : HasWon (cluster.nodes executor).journal) :
    Unchanged options executor cluster
      (cluster.recordEvent executor (.observabilityStart jobId executionUuid)) := by
  refine ⟨rfl, Nat.le_refl _, rfl, fun _ _ _ => Iff.rfl, ?_, ?_, ?_⟩
  · rw [recordEvent_singleConsumerLock]
  · rw [recordEvent_journal]; rfl
  · rw [recordEvent_journal]
    exact iff_of_true (won.cons _) won

/-- The commands that change nothing the modes speak about. -/
def Command.Neutral : Command → Prop
  | .construct | .getSingleConsumerLock | .report _ _ | .stopScheduler | .perform _ => True
  | .record event => event.plain = true
  | _ => False

theorem execute_unchanged {command : Command} (neutral : command.Neutral) :
    Unchanged options executor cluster (cluster.execute executor environment command).1 := by
  cases command with
  | construct =>
      exact ⟨rfl, Nat.le_succ _, rfl, fun _ _ _ => Iff.rfl, rfl, rfl, Iff.rfl⟩
  | getSingleConsumerLock =>
      exact ⟨rfl, Nat.le_refl _, rfl, fun _ _ _ => Iff.rfl, rfl, rfl, Iff.rfl⟩
  | stopScheduler =>
      refine ⟨rfl, Nat.le_refl _, rfl, fun _ _ _ => Iff.rfl, ?_, ?_, ?_⟩ <;>
        simp [execute, setNode]
  | report error executorId =>
      exact unchanged_recordEvent (fun _ _ => rfl) fun _ _ => Event.noConfusion
  | perform task =>
      exact unchanged_recordEvent (fun _ _ => rfl) fun _ _ => Event.noConfusion
  | record event =>
      apply unchanged_recordEvent (inBody_cons_of_plain neutral)
      rintro jobId executionUuid rfl
      cases neutral
  | _ => exact neutral.elim

/-- The outcome of a command: the environment answers within the contract, and
the mode that follows holds. -/
def Advances (options : JobOptions) (reliable : Prop) (permitted : Task → Prop)
    (executor : String) (environment : Environment) (cluster : Cluster) (mode : Mode)
    (command : Command) : Prop :=
  ∃ later, (executionContract options executor permitted).moves mode command
      (cluster.execute executor environment command).2 later ∧
    ModeInvariant options reliable executor
      (cluster.execute executor environment command).1 later

theorem reply_unchanged {Value : Type} {store : LeaseStore String Identifier}
    {value : Value}
    (sameKey : store options.exclusiveKey = cluster.locks options.exclusiveKey) :
    Unchanged options executor cluster (cluster.reply environment store value).1 := by
  have unchanged : Unchanged options executor cluster cluster :=
    ⟨rfl, Nat.le_refl _, rfl, fun _ _ _ => Iff.rfl, rfl, rfl, Iff.rfl⟩
  have written : Unchanged options executor cluster { cluster with locks := store } :=
    ⟨rfl, Nat.le_refl _, sameKey, fun _ _ _ => Iff.rfl, rfl, rfl, Iff.rfl⟩
  unfold reply
  cases environment.redis <;> first | exact written | exact unchanged

theorem reply_answer {Value : Type} (cluster : Cluster) (environment : Environment)
    (store : LeaseStore String Identifier) (value : Value) :
    (cluster.reply environment store value).2 = .ok value ∨
      environment.redis ≠ .answered ∧
        ∃ error, (cluster.reply environment store value).2 = .error error := by
  unfold reply
  cases environment.redis with
  | answered => exact .inl rfl
  | rejected error => exact .inr ⟨RedisReply.noConfusion, error, rfl⟩
  | lost error => exact .inr ⟨RedisReply.noConfusion, error, rfl⟩

/-! ### While the body runs -/

theorem executing_advances_of_unchanged {lock : Mutex} {nested acquired : List Mutex}
    {command : Command}
    (same : Unchanged options executor cluster
      (cluster.execute executor environment command).1)
    (holds : ModeInvariant options reliable executor cluster (.executing lock nested))
    (elsewhere : ∀ mutex ∈ acquired, mutex.key ≠ options.exclusiveKey)
    (moves : (executionContract options executor permitted).moves (.executing lock nested)
      command (cluster.execute executor environment command).2
      (.executing lock acquired)) :
    Advances options reliable permitted executor environment cluster
      (.executing lock nested) command := by
  have after := same.executing holds
  exact ⟨.executing lock acquired, moves, after.1, after.2.1, after.2.2.1, after.2.2.2.1,
    after.2.2.2.2.1, after.2.2.2.2.2.1, elsewhere⟩

theorem execute_setNx_of_zero {mutex : Mutex} (zero : mutex.lockTimeout = 0) :
    cluster.execute executor environment (.setNx mutex) =
      (cluster, .error invalidExpireTime) :=
  if_pos zero

theorem execute_setNx_of_ne_zero {mutex : Mutex} (positive : mutex.lockTimeout ≠ 0) :
    cluster.execute executor environment (.setNx mutex) =
      cluster.reply environment
        (cluster.locks.claim cluster.now mutex.key mutex.identifier mutex.lockTimeout).1
        (cluster.locks.claim cluster.now mutex.key mutex.identifier mutex.lockTimeout).2 :=
  if_neg positive

/-- While the executor holds the exclusive key, nobody claims it. -/
theorem claim_exclusive (mutex : Mutex)
    (held : cluster.locks.holder cluster.now options.exclusiveKey = some (.given executor)) :
    (cluster.locks.claim cluster.now mutex.key mutex.identifier
        mutex.lockTimeout).1 options.exclusiveKey = cluster.locks options.exclusiveKey ∧
      ((cluster.locks.claim cluster.now mutex.key mutex.identifier
        mutex.lockTimeout).2 = true → mutex.key ≠ options.exclusiveKey) := by
  by_cases sameKey : mutex.key = options.exclusiveKey
  · have taken : cluster.locks.holder cluster.now mutex.key ≠ none := by
      rw [sameKey, held]; simp
    rw [claim_of_held taken]
    exact ⟨rfl, fun absurdly => by cases absurdly⟩
  · exact ⟨claim_other fun same => sameKey same.symm, fun _ => sameKey⟩

theorem Mutex.Anonymous.not_holder {mutex : Mutex} (anonymous : mutex.Anonymous)
    (held : cluster.locks.holder cluster.now options.exclusiveKey = some (.given executor))
    (sameKey : mutex.key = options.exclusiveKey) :
    cluster.locks.holder cluster.now mutex.key ≠ some mutex.identifier := by
  obtain ⟨ref, generated⟩ := anonymous
  rw [sameKey, held, generated]
  simp

/-- While the executor holds the exclusive key, no random identifier renews it. -/
theorem renew_exclusive (mutex : Mutex) (anonymous : mutex.Anonymous)
    (held : cluster.locks.holder cluster.now options.exclusiveKey = some (.given executor)) :
    (cluster.locks.renew cluster.now mutex.key mutex.identifier
        mutex.lockTimeout).1 options.exclusiveKey = cluster.locks options.exclusiveKey ∧
      ((cluster.locks.renew cluster.now mutex.key mutex.identifier
        mutex.lockTimeout).2 = true → mutex.key ≠ options.exclusiveKey) := by
  by_cases sameKey : mutex.key = options.exclusiveKey
  · rw [renew_of_not_held (anonymous.not_holder held sameKey)]
    exact ⟨rfl, fun absurdly => by cases absurdly⟩
  · exact ⟨renew_other fun same => sameKey same.symm, fun _ => sameKey⟩

theorem release_exclusive {mutex : Mutex} (anonymous : mutex.Anonymous)
    (held : cluster.locks.holder cluster.now options.exclusiveKey = some (.given executor)) :
    cluster.locks.release cluster.now mutex.key mutex.identifier options.exclusiveKey =
      cluster.locks options.exclusiveKey := by
  by_cases sameKey : mutex.key = options.exclusiveKey
  · rw [release_of_not_held (anonymous.not_holder held sameKey)]
  · exact release_other fun same => sameKey same.symm

theorem mem_cons_elsewhere {mutex : Mutex} {nested : List Mutex}
    (first : mutex.key ≠ options.exclusiveKey)
    (elsewhere : ∀ mutex ∈ nested, mutex.key ≠ options.exclusiveKey) :
    ∀ other ∈ mutex :: nested, other.key ≠ options.exclusiveKey := by
  simpa using ⟨first, elsewhere⟩

/-- A timer more for another key, or one less for a random identifier, does not
matter while the body runs. -/
theorem executing_of_timers {lock : Mutex} {nested : List Mutex}
    {timers : List RefreshTimer}
    (keeps : ∀ timer ∈ cluster.timers, timer.mutex.identifier = .given executor →
      timer ∈ timers)
    (adds : ∀ timer ∈ timers, timer.mutex.key = options.exclusiveKey →
      timer ∈ cluster.timers)
    (holds : ModeInvariant options reliable executor cluster (.executing lock nested)) :
    ModeInvariant options reliable executor { cluster with timers := timers }
      (.executing lock nested) := by
  obtain ⟨inside, left, fresh, guarded, rest⟩ := holds
  refine ⟨inside, fun answers mutex refreshes => ?_, fresh, ?_, rest⟩
  · obtain ⟨key, timer, member, owner, rfl⟩ := refreshes
    exact left answers timer.mutex ⟨key, timer, adds timer member key, owner, rfl⟩
  · obtain ⟨expiresAt, leased, timer, member, owner, key, identifier, inTime⟩ := guarded
    exact ⟨expiresAt, leased, timer, keeps timer member identifier, owner, key,
      identifier, inTime⟩

/-- A lock that the body asks for is a lock of another key, if it is given. -/
theorem executing_reply {lock mutex : Mutex} {nested : List Mutex}
    {store : LeaseStore String Identifier} {acquired : Bool}
    {moves : Except Thrown Bool → Mode → Prop}
    (holds : ModeInvariant options reliable executor cluster (.executing lock nested))
    (sameKey : store options.exclusiveKey = cluster.locks options.exclusiveKey)
    (elsewhere : acquired = true → mutex.key ≠ options.exclusiveKey)
    (gives : mutex.key ≠ options.exclusiveKey →
      moves (.ok true) (.executing lock (mutex :: nested)))
    (refuses : moves (.ok false) (.executing lock nested))
    (throws : ∀ error, moves (.error error) (.executing lock nested)) :
    ∃ later, moves (cluster.reply environment store acquired).2 later ∧
      ModeInvariant options reliable executor
        (cluster.reply environment store acquired).1 later := by
  have same : Unchanged options executor cluster
      (cluster.reply environment store acquired).1 := reply_unchanged sameKey
  have after := same.executing holds
  rcases reply_answer cluster environment store acquired with answered | ⟨-, error, thrown⟩
  · rw [answered]
    cases acquired with
    | false => exact ⟨_, refuses, after⟩
    | true =>
        have otherKey := elsewhere rfl
        obtain ⟨inside, left, fresh, guarded, stored, won, nestedElsewhere⟩ := after
        exact ⟨_, gives otherKey, inside, left, fresh, guarded, stored, won,
          mem_cons_elsewhere otherKey nestedElsewhere⟩
  · rw [thrown]
    exact ⟨_, throws error, after⟩

theorem advances_executing {lock : Mutex} {nested : List Mutex} {command : Command}
    (sound : Sound options permitted cluster)
    (holds : ModeInvariant options reliable executor cluster (.executing lock nested))
    (allowed : (Mode.executing lock nested).Allows options executor permitted command) :
    Advances options reliable permitted executor environment cluster
      (.executing lock nested) command := by
  have held := holds.2.2.2.1.holder sound.notOverdue
  have elsewhere := holds.2.2.2.2.2.2
  cases command with
  | setNx mutex =>
      by_cases zero : mutex.lockTimeout = 0
      · refine ⟨.executing lock nested, ?_, ?_⟩ <;> rw [execute_setNx_of_zero zero]
        · exact moves_of_fallible rfl rfl
        · exact holds
      obtain ⟨sameKey, takes⟩ := claim_exclusive mutex held
      unfold Advances
      rw [execute_setNx_of_ne_zero zero]
      exact executing_reply holds sameKey takes
        (fun otherKey => ⟨⟨rfl, otherKey⟩, fun _ thrown => by cases thrown⟩)
        ⟨rfl, fun _ thrown => by cases thrown⟩ fun _ => ⟨rfl, fun _ _ => rfl⟩
  | refresh mutex =>
      obtain ⟨sameKey, takes⟩ := renew_exclusive mutex allowed held
      exact executing_reply holds sameKey takes
        (fun otherKey => ⟨⟨rfl, otherKey⟩, fun _ thrown => by cases thrown⟩)
        ⟨rfl, fun _ thrown => by cases thrown⟩ fun _ => ⟨rfl, fun _ _ => rfl⟩
  | delete mutex =>
      exact executing_advances_of_unchanged (reply_unchanged (release_exclusive allowed held))
        holds elsewhere (moves_of_fallible rfl rfl)
  | startRefresh mutex =>
      have otherKey : mutex.key ≠ options.exclusiveKey := elsewhere mutex allowed
      refine ⟨.executing lock nested, moves_of_ok rfl,
        executing_of_timers (fun timer member _ => List.mem_cons_of_mem _ member)
          (fun timer member key => ?_) holds⟩
      rcases List.mem_cons.mp member with rfl | member
      · exact absurd key otherKey
      · exact member
  | stopRefresh mutex =>
      refine ⟨.executing lock nested, moves_of_ok rfl,
        executing_of_timers (fun timer member identifier => ?_)
          (fun timer member _ => List.mem_of_mem_filter member) holds⟩
      have unlike : timer.mutex ≠ mutex := by
        obtain ⟨ref, generated⟩ := allowed
        rintro rfl
        rw [generated] at identifier
        cases identifier
      exact List.mem_filter.mpr ⟨member, by simp [unlike]⟩
  | getSingleConsumerLock => exact allowed.elim
  | setSingleConsumerLock written => exact allowed.elim
  | construct =>
      exact executing_advances_of_unchanged (execute_unchanged trivial) holds elsewhere
        (moves_of_ok rfl)
  | stopScheduler =>
      exact executing_advances_of_unchanged (execute_unchanged trivial) holds elsewhere
        (moves_of_ok rfl)
  | report error executorId =>
      exact executing_advances_of_unchanged (execute_unchanged trivial) holds elsewhere
        (moves_of_fallible rfl rfl)
  | perform task =>
      exact executing_advances_of_unchanged (execute_unchanged trivial) holds elsewhere
        (moves_of_fallible rfl rfl)
  | observabilityStart jobId executionUuid =>
      refine executing_advances_of_unchanged
        (unchanged_observabilityStart holds.2.2.2.2.2.1) holds elsewhere (moves_of_fallible rfl rfl)
  | record event =>
      rcases allowed with plain | rfl
      · refine executing_advances_of_unchanged (execute_unchanged plain) holds elsewhere
          ⟨?_, fun _ thrown => by cases thrown⟩
        cases event <;> first | rfl | cases plain
      · obtain ⟨inside, left, fresh, guarded, stored, won, -⟩ := holds
        refine ⟨.started lock, moves_of_ok rfl, ?_, ?_, fresh,
          guarded, ?_, ?_⟩
        · simp [execute, inBody]
        · exact fun answers => (left answers).recordEvent _
        · simp [execute, stored]
        · simpa [execute] using won.cons _

/-! ### Before and after the body -/

theorem Leftovers.transfer {after : Cluster} (left : Leftovers options executor cluster)
    (now : after.now = cluster.now) (locks : after.locks = cluster.locks)
    (timers : after.timers = cluster.timers)
    (journal : (after.nodes executor).journal = (cluster.nodes executor).journal) :
    Leftovers options executor after where
  timers mutex refreshes := by
    rw [journal]
    apply left.timers mutex
    unfold Refreshes at refreshes ⊢
    rwa [timers] at refreshes
  leak positive won := by
    rw [journal] at won
    obtain ⟨mutex, refreshes⟩ := left.leak positive won
    unfold Refreshes at refreshes ⊢
    exact ⟨mutex, by rwa [timers]⟩
  released zero won := by
    rw [journal] at won
    rw [locks, now]
    exact left.released zero won

theorem Leftovers.onlyLeftovers (left : Leftovers options executor cluster) (lock : Mutex) :
    OnlyLeftovers options executor cluster lock :=
  fun mutex refreshes => .inr (left.timers mutex refreshes)

theorem advances_settled {command : Command}
    (holds : ModeInvariant options reliable executor cluster .settled)
    (allowed : Mode.settled.Allows options executor permitted command) :
    Advances options reliable permitted executor environment cluster .settled command := by
  cases command with
  | construct =>
      refine ⟨.built cluster.constructed, moves_of_ok rfl,
        holds.1, fun answers => ?_, Nat.lt_succ_self _⟩
      exact (holds.2 answers).transfer rfl rfl rfl rfl
  | setSingleConsumerLock lock =>
      have journal : ((cluster.execute executor environment
          (.setSingleConsumerLock lock)).1.nodes executor).journal =
          (cluster.nodes executor).journal := by
        simp [execute, setNode]
      refine ⟨.settled, moves_of_ok rfl, ?_, fun answers => ?_⟩
      · rw [journal]; exact holds.1
      · exact (holds.2 answers).transfer rfl rfl rfl journal
  | record event =>
      refine ⟨.settled, moves_of_ok rfl, ?_⟩
      exact Unchanged.settled (execute_unchanged allowed) holds
  | _ => exact allowed.elim

/-- The lock store answers that the executor has got the exclusive key. -/
theorem won_of_lease {mutex : Mutex} {store : LeaseStore String Identifier}
    (holds : ModeInvariant options reliable executor cluster (.built mutex.ref))
    (own : OwnMutex options executor mutex) (positive : 0 < mutex.lockTimeout)
    (leased : store options.exclusiveKey =
      some ⟨.given executor, cluster.now + mutex.lockTimeout⟩) :
    ModeInvariant options reliable executor { cluster with locks := store }
      (.won mutex) :=
  ⟨holds.1, fun answers => (holds.2.1 answers).onlyLeftovers mutex, own, positive,
    holds.2.2, leased⟩

/-- An attempt to get the lock: it is won, refused, or fails. -/
theorem attempt_reply {mutex : Mutex} {store : LeaseStore String Identifier}
    {acquired : Bool} {moves : Except Thrown Bool → Mode → Prop}
    (answers : reliable → environment.redis = .answered)
    (holds : ModeInvariant options reliable executor cluster (.built mutex.ref))
    (own : OwnMutex options executor mutex) (positive : 0 < mutex.lockTimeout)
    (given : acquired = true → store options.exclusiveKey =
      some ⟨.given executor, cluster.now + mutex.lockTimeout⟩)
    (refused : acquired = false → store = cluster.locks)
    (gives : moves (.ok true) (.won mutex)) (refuses : moves (.ok false) .settled)
    (throws : ∀ error, moves (.error error) .settled) :
    ∃ later, moves (cluster.reply environment store acquired).2 later ∧
      ModeInvariant options reliable executor
        (cluster.reply environment store acquired).1 later := by
  have settled : ModeInvariant options reliable executor cluster .settled :=
    ⟨holds.1, holds.2.1⟩
  unfold reply
  cases replied : environment.redis with
  | answered =>
      cases acquired with
      | true => exact ⟨_, gives, won_of_lease holds own positive (given rfl)⟩
      | false =>
          refine ⟨_, refuses, ?_⟩
          rw [refused rfl]
          exact settled
  | rejected error => exact ⟨_, throws error, settled⟩
  | lost error =>
      refine ⟨_, throws error, holds.1, fun reliably => ?_⟩
      rw [answers reliably] at replied
      cases replied

theorem advances_built {ref : Nat} {command : Command}
    (answers : reliable → environment.redis = .answered)
    (holds : ModeInvariant options reliable executor cluster (.built ref))
    (allowed : (Mode.built ref).Allows options executor permitted command) :
    Advances options reliable permitted executor environment cluster (.built ref)
      command := by
  cases command with
  | setNx mutex =>
      obtain ⟨rfl, own⟩ := allowed
      by_cases zero : mutex.lockTimeout = 0
      · refine ⟨.settled, ?_, ?_⟩ <;> rw [execute_setNx_of_zero zero]
        · exact moves_of_fallible rfl rfl
        · exact ⟨holds.1, holds.2.1⟩
      have positive := Nat.pos_of_ne_zero zero
      unfold Advances
      rw [execute_setNx_of_ne_zero zero]
      refine attempt_reply answers holds own positive (fun acquired => ?_)
        (fun refused => ?_) ⟨⟨rfl, positive⟩, fun _ thrown => by cases thrown⟩
        ⟨⟨rfl, positive⟩, fun _ thrown => by cases thrown⟩ fun _ => ⟨rfl, fun _ _ => rfl⟩
      · rw [← own.key, ← own.identifier]
        exact claim_of_true acquired
      · exact claim_of_false refused
  | refresh mutex =>
      obtain ⟨rfl, own, positive⟩ := allowed
      refine attempt_reply answers holds own positive (fun acquired => ?_)
        (fun refused => ?_) ⟨rfl, fun _ thrown => by cases thrown⟩
        ⟨rfl, fun _ thrown => by cases thrown⟩ fun _ => ⟨rfl, fun _ _ => rfl⟩
      · rw [← own.key, ← own.identifier]
        exact renew_of_true positive acquired
      · exact renew_of_false refused
  | _ => exact allowed.elim

theorem refreshes_startRefresh {mutex other : Mutex}
    (refreshes : Refreshes options executor
      (cluster.execute executor environment (.startRefresh mutex)).1 other) :
    other = mutex ∨ Refreshes options executor cluster other := by
  obtain ⟨key, timer, member, owner, rfl⟩ := refreshes
  rcases List.mem_cons.mp member with rfl | member
  · exact .inl rfl
  · exact .inr ⟨key, timer, member, owner, rfl⟩

theorem advances_won {lock : Mutex} {command : Command}
    (holds : ModeInvariant options reliable executor cluster (.won lock))
    (allowed : (Mode.won lock).Allows options executor permitted command) :
    Advances options reliable permitted executor environment cluster (.won lock)
      command := by
  obtain ⟨outside, left, own, positive, fresh, leased⟩ := holds
  cases command with
  | startRefresh mutex =>
      cases allowed
      refine ⟨.holding lock, moves_of_ok rfl, outside,
        fun answers other refreshes => ?_, fresh, _, leased, _, List.mem_cons_self,
        rfl, own.key, own.identifier, ?_⟩
      · rcases refreshes_startRefresh refreshes with rfl | refreshes
        · exact .inl rfl
        · exact left answers other refreshes
      · have inTime := defaultRefreshInterval_le lock.lockTimeout
        rw [← own.refreshInterval] at inTime
        exact Nat.add_le_add_left inTime _
  | _ => exact allowed.elim

theorem advances_holding {lock : Mutex} {command : Command}
    (holds : ModeInvariant options reliable executor cluster (.holding lock))
    (allowed : (Mode.holding lock).Allows options executor permitted command) :
    Advances options reliable permitted executor environment cluster (.holding lock)
      command := by
  obtain ⟨outside, left, fresh, guarded⟩ := holds
  cases command with
  | setSingleConsumerLock written =>
      cases allowed
      have journal : ((cluster.execute executor environment
          (.setSingleConsumerLock (some lock))).1.nodes executor).journal =
          (cluster.nodes executor).journal := by
        simp [execute, setNode]
      refine ⟨.stored lock, moves_of_ok rfl, ?_,
        fun answers mutex refreshes => ?_, fresh, guarded, ?_⟩
      · rw [journal]; exact outside
      · rw [journal]; exact left answers mutex refreshes
      · simp [execute, setNode]
  | _ => exact allowed.elim

theorem advances_stored {lock : Mutex} {command : Command}
    (holds : ModeInvariant options reliable executor cluster (.stored lock))
    (allowed : (Mode.stored lock).Allows options executor permitted command) :
    Advances options reliable permitted executor environment cluster (.stored lock)
      command := by
  obtain ⟨outside, left, fresh, guarded, stored⟩ := holds
  cases command with
  | observabilityStart jobId executionUuid =>
      refine ⟨.started lock, moves_of_fallible rfl rfl, ?_,
        fun answers => (left answers).recordEvent _, fresh, guarded, ?_, ?_⟩
      · simpa [execute, inBody] using outside
      · simpa [execute] using stored
      · refine ⟨cluster.now, jobId, executionUuid, ?_⟩
        simp [execute]
  | _ => exact allowed.elim

/-- The renewal of the lock after the body: the lock is still held. -/
theorem advances_renewal {lock mutex : Mutex}
    (sound : Sound options permitted cluster)
    (answers : reliable → environment.redis = .answered)
    (holds : ModeInvariant options reliable executor cluster (.started lock))
    (own : OwnMutex options executor mutex) (different : mutex ≠ lock)
    (timeout : mutex.lockTimeout = options.timeoutAfterRun) :
    Advances options reliable permitted executor environment cluster (.started lock)
      (.refresh mutex) := by
  obtain ⟨outside, left, fresh, guarded, stored, won⟩ := holds
  have held : cluster.locks.holder cluster.now mutex.key = some mutex.identifier := by
    rw [own.key, own.identifier]
    exact guarded.holder sound.notOverdue
  have replies : cluster.execute executor environment (.refresh mutex) =
      cluster.reply environment
        (Function.update cluster.locks mutex.key
          (if mutex.lockTimeout = 0 then none
            else some ⟨mutex.identifier, cluster.now + mutex.lockTimeout⟩)) true := by
    simp only [execute, renew_of_held held]
  unfold Advances
  rw [replies]
  unfold reply
  cases replied : environment.redis with
  | answered =>
      by_cases timed : 0 < mutex.refreshInterval
      · refine ⟨.renewed lock mutex, ⟨⟨rfl, (if_pos timed).symm⟩,
          fun _ thrown => by cases thrown⟩, ?_⟩
        exact ⟨outside, left, stored, won, own, different, timed, timeout⟩
      · have zero : mutex.lockTimeout = 0 := by
          by_contra positive
          exact timed (Mutex.refreshInterval_pos_of_own own (Nat.pos_of_ne_zero positive))
        refine ⟨.handedOver lock, ⟨⟨rfl, (if_neg timed).symm⟩,
          fun _ thrown => by cases thrown⟩, ?_⟩
        refine ⟨outside, left, stored, won, fun positive => ?_, fun _ => ?_⟩
        · exact absurd (timeout.symm.trans zero) positive
        · rw [if_pos zero, ← own.key]
          simp
  | rejected error =>
      refine ⟨.settled, moves_of_fallible rfl rfl, outside, fun reliably => ?_⟩
      rw [answers reliably] at replied
      cases replied
  | lost error =>
      refine ⟨.settled, moves_of_fallible rfl rfl, outside, fun reliably => ?_⟩
      rw [answers reliably] at replied
      cases replied

theorem started_of_neutral {lock : Mutex} (command : Command) (neutral : command.Neutral)
    (holds : ModeInvariant options reliable executor cluster (.started lock)) :
    ModeInvariant options reliable executor
      (cluster.execute executor environment command).1 (.started lock) := by
  have same : Unchanged options executor cluster
      (cluster.execute executor environment command).1 := execute_unchanged neutral
  exact same.started holds

theorem advances_started {lock : Mutex} {command : Command}
    (sound : Sound options permitted cluster)
    (answers : reliable → environment.redis = .answered)
    (holds : ModeInvariant options reliable executor cluster (.started lock))
    (allowed : (Mode.started lock).Allows options executor permitted command) :
    Advances options reliable permitted executor environment cluster (.started lock)
      command := by
  cases command with
  | construct =>
      refine ⟨.started lock, ⟨⟨rfl, Nat.ne_of_gt holds.2.2.1⟩,
        fun _ thrown => by cases thrown⟩, ?_⟩
      exact started_of_neutral .construct trivial holds
  | getSingleConsumerLock =>
      exact ⟨.started lock, moves_of_ok ⟨rfl, holds.2.2.2.2.1⟩,
        holds⟩
  | report error executorId =>
      refine ⟨.started lock, moves_of_fallible rfl rfl, ?_⟩
      exact started_of_neutral (.report error executorId) trivial holds
  | refresh mutex =>
      exact advances_renewal sound answers holds allowed.1 allowed.2.1 allowed.2.2
  | record event =>
      rcases allowed with plain | rfl
      · refine ⟨.started lock, ⟨?_, fun _ thrown => by cases thrown⟩, ?_⟩
        · cases event <;> first | rfl | cases plain
        · exact started_of_neutral (.record event) plain holds
      · obtain ⟨outside, left, fresh, guarded, stored, won⟩ := holds
        refine ⟨.executing lock [], moves_of_ok rfl, ?_,
          fun answers => (left answers).recordEvent _, fresh, guarded, ?_, ?_,
          fun mutex member => by cases member⟩
        · simp [execute, inBody]
        · simp [execute, stored]
        · simpa [execute] using won.cons _
  | _ => exact allowed.elim

theorem advances_renewed {lock renewal : Mutex} {command : Command}
    (holds : ModeInvariant options reliable executor cluster (.renewed lock renewal))
    (allowed : (Mode.renewed lock renewal).Allows options executor permitted command) :
    Advances options reliable permitted executor environment cluster
      (.renewed lock renewal) command := by
  obtain ⟨outside, left, stored, won, own, different, timed, timeout⟩ := holds
  cases command with
  | startRefresh mutex =>
      cases allowed
      have positive : options.timeoutAfterRun ≠ 0 := by
        intro zero
        rw [own.refreshInterval, timeout, zero] at timed
        simp [defaultRefreshInterval] at timed
      refine ⟨.handedOver lock, moves_of_ok rfl, outside,
        fun answers other refreshes => ?_, stored, won, fun _ => ?_,
        fun zero => absurd zero positive⟩
      · rcases refreshes_startRefresh refreshes with rfl | refreshes
        · exact .inr ⟨positive, won⟩
        · exact left answers other refreshes
      · exact ⟨renewal, different, own.key, _, List.mem_cons_self, rfl, rfl⟩
  | _ => exact allowed.elim

theorem advances_handedOver {lock : Mutex} {command : Command}
    (holds : ModeInvariant options reliable executor cluster (.handedOver lock))
    (allowed : (Mode.handedOver lock).Allows options executor permitted command) :
    Advances options reliable permitted executor environment cluster (.handedOver lock)
      command := by
  obtain ⟨outside, left, stored, won, leak, released⟩ := holds
  cases command with
  | getSingleConsumerLock =>
      exact ⟨.handedOver lock, moves_of_ok ⟨rfl, stored⟩,
        outside, left, stored, won, leak, released⟩
  | stopRefresh mutex =>
      cases allowed
      refine ⟨.settled, moves_of_ok rfl, outside, fun answers => ?_⟩
      refine ⟨fun mutex refreshes => ?_, fun positive _ => ?_, fun zero _ => released zero⟩
      · obtain ⟨key, timer, member, owner, rfl⟩ := refreshes
        obtain ⟨member, kept⟩ := List.mem_filter.mp member
        rcases left answers timer.mutex ⟨key, timer, member, owner, rfl⟩ with same | earlier
        · simp [owner, same] at kept
        · exact earlier
      · obtain ⟨mutex, different, key, timer, member, owner, rfl⟩ := leak positive
        refine ⟨timer.mutex, key, timer, List.mem_filter.mpr ⟨member, ?_⟩, owner, rfl⟩
        simp [different]
  | _ => exact allowed.elim

/-- Whatever a call issues in accordance with its mode, the answer leads to a
mode whose invariant holds. -/
theorem advances {mode : Mode} {command : Command}
    (sound : Sound options permitted cluster)
    (answers : reliable → environment.redis = .answered)
    (holds : ModeInvariant options reliable executor cluster mode)
    (allowed : mode.Allows options executor permitted command) :
    Advances options reliable permitted executor environment cluster mode command := by
  cases mode with
  | settled => exact advances_settled holds allowed
  | built ref => exact advances_built answers holds allowed
  | won lock => exact advances_won holds allowed
  | holding lock => exact advances_holding holds allowed
  | stored lock => exact advances_stored holds allowed
  | started lock => exact advances_started sound answers holds allowed
  | executing lock nested => exact advances_executing sound holds allowed
  | renewed lock renewal => exact advances_renewed holds allowed
  | handedOver lock => exact advances_handedOver holds allowed

end Own

end ServiceTemplate.Jobs
