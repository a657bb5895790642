import ServiceTemplate.Jobs.Cluster
import ServiceTemplate.Jobs.Discipline

/-!
# The invariant of a cluster without disposal

An executor whose body runs holds the exclusive key, and one of its refresh
timers fires before the lease of the key ends.  This is kept by every step:
timers of one executor renew only its own lease, and no command of another
executor touches a lease that is in force.

The invariant also accounts for the refresh timers that an execution leaves
behind, for runs in which Redis answers every command.
-/

namespace ServiceTemplate.Jobs

open LeaseStore Program

/-! ## What the journal of a node tells -/

/-- Whether `processInternal` has been called and has not settled since. -/
def inBody : List (Nat × Event) → Bool
  | [] => false
  | (_, .bodyCalled) :: _ => true
  | (_, .bodySettled) :: _ => false
  | _ :: earlier => inBody earlier

/-- Some execution on the node got the lock: it called
`transactionObservabilityManager.start`, the first thing it does then. -/
def HasWon (journal : List (Nat × Event)) : Prop :=
  ∃ instant jobId executionUuid,
    (instant, Event.observabilityStart jobId executionUuid) ∈ journal

theorem inBody_cons_of_plain {event : Event} (plain : event.plain = true)
    (instant : Nat) (journal : List (Nat × Event)) :
    inBody ((instant, event) :: journal) = inBody journal := by
  cases event <;> first | rfl | cases plain

theorem hasWon_cons {event : Event} {instant : Nat} {journal : List (Nat × Event)}
    (notStart : ∀ jobId executionUuid, event ≠ .observabilityStart jobId executionUuid) :
    HasWon ((instant, event) :: journal) ↔ HasWon journal := by
  constructor
  · rintro ⟨at', jobId, executionUuid, member⟩
    rcases List.mem_cons.mp member with same | member
    · exact absurd (congrArg Prod.snd same).symm (notStart jobId executionUuid)
    · exact ⟨at', jobId, executionUuid, member⟩
  · rintro ⟨at', jobId, executionUuid, member⟩
    exact ⟨at', jobId, executionUuid, List.mem_cons_of_mem _ member⟩

/-! ## The invariant -/

section Invariant

variable (options : JobOptions) (reliable : Prop) (permitted : Task → Prop)

/-- A refresh timer of the executor for the exclusive key runs for the mutex. -/
def Refreshes (executor : String) (cluster : Cluster) (mutex : Mutex) : Prop :=
  mutex.key = options.exclusiveKey ∧
    ∃ timer ∈ cluster.timers, timer.owner = executor ∧ timer.mutex = mutex

/-- The executor holds the exclusive key, and one of its timers fires before
its lease ends. -/
def Guarded (executor : String) (cluster : Cluster) : Prop :=
  ∃ expiresAt, cluster.locks options.exclusiveKey = some ⟨.given executor, expiresAt⟩ ∧
    ∃ timer ∈ cluster.timers, timer.owner = executor ∧
      timer.mutex.key = options.exclusiveKey ∧
      timer.mutex.identifier = .given executor ∧ timer.dueAt ≤ expiresAt

/-- Besides the timer of the current lock, there are only timers that earlier
executions left behind. -/
def OnlyLeftovers (executor : String) (cluster : Cluster) (lock : Mutex) : Prop :=
  ∀ mutex, Refreshes options executor cluster mutex →
    mutex = lock ∨
      (options.timeoutAfterRun ≠ 0 ∧ HasWon (cluster.nodes executor).journal)

/-- What is left of the executions of an executor while none is in flight. -/
structure Leftovers (executor : String) (cluster : Cluster) : Prop where
  timers : ∀ mutex, Refreshes options executor cluster mutex →
    options.timeoutAfterRun ≠ 0 ∧ HasWon (cluster.nodes executor).journal
  leak : options.timeoutAfterRun ≠ 0 → HasWon (cluster.nodes executor).journal →
    ∃ mutex, Refreshes options executor cluster mutex
  released : options.timeoutAfterRun = 0 → HasWon (cluster.nodes executor).journal →
    cluster.locks.holder cluster.now options.exclusiveKey ≠ some (.given executor)

/-- What a mode says about the cluster. -/
def ModeInvariant (executor : String) (cluster : Cluster) : Mode → Prop
  | .settled =>
      inBody (cluster.nodes executor).journal = false ∧
        (reliable → Leftovers options executor cluster)
  | .built ref =>
      inBody (cluster.nodes executor).journal = false ∧
        (reliable → Leftovers options executor cluster) ∧
        ref < cluster.constructed
  | .won lock =>
      inBody (cluster.nodes executor).journal = false ∧
        (reliable → OnlyLeftovers options executor cluster lock) ∧
        OwnMutex options executor lock ∧ 0 < lock.lockTimeout ∧
        lock.ref < cluster.constructed ∧
        cluster.locks options.exclusiveKey =
          some ⟨.given executor, cluster.now + lock.lockTimeout⟩
  | .holding lock =>
      inBody (cluster.nodes executor).journal = false ∧
        (reliable → OnlyLeftovers options executor cluster lock) ∧
        lock.ref < cluster.constructed ∧ Guarded options executor cluster
  | .stored lock =>
      inBody (cluster.nodes executor).journal = false ∧
        (reliable → OnlyLeftovers options executor cluster lock) ∧
        lock.ref < cluster.constructed ∧ Guarded options executor cluster ∧
        (cluster.nodes executor).singleConsumerLock = some lock
  | .started lock =>
      inBody (cluster.nodes executor).journal = false ∧
        (reliable → OnlyLeftovers options executor cluster lock) ∧
        lock.ref < cluster.constructed ∧ Guarded options executor cluster ∧
        (cluster.nodes executor).singleConsumerLock = some lock ∧
        HasWon (cluster.nodes executor).journal
  | .executing lock nested =>
      inBody (cluster.nodes executor).journal = true ∧
        (reliable → OnlyLeftovers options executor cluster lock) ∧
        lock.ref < cluster.constructed ∧ Guarded options executor cluster ∧
        (cluster.nodes executor).singleConsumerLock = some lock ∧
        HasWon (cluster.nodes executor).journal ∧
        ∀ mutex ∈ nested, mutex.key ≠ options.exclusiveKey
  | .renewed lock renewal =>
      inBody (cluster.nodes executor).journal = false ∧
        (reliable → OnlyLeftovers options executor cluster lock) ∧
        (cluster.nodes executor).singleConsumerLock = some lock ∧
        HasWon (cluster.nodes executor).journal ∧
        OwnMutex options executor renewal ∧ renewal ≠ lock ∧
        0 < renewal.refreshInterval ∧
        renewal.lockTimeout = options.timeoutAfterRun
  | .handedOver lock =>
      inBody (cluster.nodes executor).journal = false ∧
        (reliable → OnlyLeftovers options executor cluster lock) ∧
        (cluster.nodes executor).singleConsumerLock = some lock ∧
        HasWon (cluster.nodes executor).journal ∧
        (options.timeoutAfterRun ≠ 0 →
          ∃ mutex, mutex ≠ lock ∧ Refreshes options executor cluster mutex) ∧
        (options.timeoutAfterRun = 0 →
          cluster.locks.holder cluster.now options.exclusiveKey ≠
            some (.given executor))

/-- No timer is overdue, a timer that refreshes a lock under the identifier of
an executor belongs to it and fires in time, and only permitted tasks run. -/
structure Sound (cluster : Cluster) : Prop where
  notOverdue : ∀ timer ∈ cluster.timers, cluster.now ≤ timer.dueAt
  owned : ∀ timer ∈ cluster.timers, timer.mutex.key = options.exclusiveKey →
    ∀ text, timer.mutex.identifier = .given text →
      timer.owner = text ∧ 0 < timer.mutex.refreshInterval ∧
        timer.mutex.refreshInterval ≤ timer.mutex.lockTimeout
  tasks : ∀ executor instant task,
    (instant, Event.taskSettled task) ∈ (cluster.nodes executor).journal → permitted task

/-- A call that is in flight waits for a command and keeps to the contract. -/
def InMode (executor : String) (mode : Mode) : Option (JobProgram Unit) → Prop
  | none => mode = .settled
  | some program =>
      program.Follows (executionContract options executor permitted) mode
          (fun last _ => last = .settled) ∧
        ∃ command next, program = .call command next ∧ command.awaited = true

structure NodeInvariant (executor : String) (cluster : Cluster) : Prop where
  noDispose : (cluster.nodes executor).calls .dispose = none
  dead : (cluster.nodes executor).live = false →
    (cluster.nodes executor).calls .process = none
  live : (cluster.nodes executor).live = true →
    ∃ mode, InMode options permitted executor mode
        ((cluster.nodes executor).calls .process) ∧
      ModeInvariant options reliable executor cluster mode

structure ClusterInvariant (cluster : Cluster) : Prop where
  sound : Sound options permitted cluster
  nodes : ∀ executor, NodeInvariant options reliable permitted executor cluster

end Invariant

/-! ## Commands of one executor and the invariant of the others -/

section Frame

variable {options : JobOptions} {reliable : Prop} {permitted : Task → Prop}

/-- What one executor's command may change, as seen by the other executors. -/
structure Foreign (options : JobOptions) (executor : String)
    (before after : Cluster) : Prop where
  now : after.now = before.now
  constructed : before.constructed ≤ after.constructed
  nodes : ∀ other, other ≠ executor → after.nodes other = before.nodes other
  timers : ∀ timer, timer.owner ≠ executor →
    (timer ∈ after.timers ↔ timer ∈ before.timers)
  keeps : ∀ other, other ≠ executor →
    before.locks.holder before.now options.exclusiveKey = some (.given other) →
      after.locks options.exclusiveKey = before.locks options.exclusiveKey
  gives : ∀ other, other ≠ executor →
    after.locks.holder before.now options.exclusiveKey = some (.given other) →
      before.locks.holder before.now options.exclusiveKey = some (.given other)

theorem Foreign.refreshes {executor other : String} {before after : Cluster}
    (foreign : Foreign options executor before after) (different : other ≠ executor)
    (mutex : Mutex) :
    Refreshes options other after mutex ↔ Refreshes options other before mutex := by
  unfold Refreshes
  constructor
  · rintro ⟨key, timer, member, rfl, same⟩
    exact ⟨key, timer, (foreign.timers timer different).mp member, rfl, same⟩
  · rintro ⟨key, timer, member, rfl, same⟩
    exact ⟨key, timer, (foreign.timers timer different).mpr member, rfl, same⟩

theorem Guarded.holder {executor : String} {cluster : Cluster}
    (guarded : Guarded options executor cluster)
    (notOverdue : ∀ timer ∈ cluster.timers, cluster.now ≤ timer.dueAt) :
    cluster.locks.holder cluster.now options.exclusiveKey = some (.given executor) := by
  obtain ⟨expiresAt, leased, timer, member, -, -, -, inTime⟩ := guarded
  exact holder_of_lease leased (Nat.le_trans (notOverdue timer member) inTime)

theorem Foreign.guarded {executor other : String} {before after : Cluster}
    (foreign : Foreign options executor before after) (different : other ≠ executor)
    (notOverdue : ∀ timer ∈ before.timers, before.now ≤ timer.dueAt)
    (guarded : Guarded options other before) : Guarded options other after := by
  have held := guarded.holder notOverdue
  obtain ⟨expiresAt, leased, timer, member, rfl, key, identifier, inTime⟩ := guarded
  refine ⟨expiresAt, ?_, timer, (foreign.timers timer different).mpr member, rfl, key,
    identifier, inTime⟩
  rw [foreign.keeps _ different held, leased]

theorem Foreign.leftovers {executor other : String} {before after : Cluster}
    (foreign : Foreign options executor before after) (different : other ≠ executor)
    (leftovers : Leftovers options other before) : Leftovers options other after where
  timers mutex refreshes := by
    rw [foreign.nodes other different]
    exact leftovers.timers mutex ((foreign.refreshes different mutex).mp refreshes)
  leak positive won := by
    rw [foreign.nodes other different] at won
    obtain ⟨mutex, refreshes⟩ := leftovers.leak positive won
    exact ⟨mutex, (foreign.refreshes different mutex).mpr refreshes⟩
  released zero won held := by
    rw [foreign.nodes other different] at won
    rw [foreign.now] at held
    exact leftovers.released zero won (foreign.gives other different held)

theorem Foreign.onlyLeftovers {executor other : String} {before after : Cluster}
    {lock : Mutex}
    (foreign : Foreign options executor before after) (different : other ≠ executor)
    (leftovers : OnlyLeftovers options other before lock) :
    OnlyLeftovers options other after lock := by
  intro mutex refreshes
  rw [foreign.nodes other different]
  exact leftovers mutex ((foreign.refreshes different mutex).mp refreshes)

theorem InMode.resting {executor : String} {mode : Mode} {call : Option (JobProgram Unit)}
    (inMode : InMode options permitted executor mode call) :
    mode = .settled ∨ (∃ ref, mode = .built ref) ∨ (∃ lock, mode = .started lock) ∨
      ∃ lock nested, mode = .executing lock nested := by
  cases call with
  | none => exact .inl inMode
  | some program =>
      obtain ⟨follows, command, next, rfl, awaited⟩ := inMode
      have allowed : mode.Allows options executor permitted command := follows.1
      cases mode with
      | settled => exact .inl rfl
      | built ref => exact .inr (.inl ⟨ref, rfl⟩)
      | started lock => exact .inr (.inr (.inl ⟨lock, rfl⟩))
      | executing lock nested => exact .inr (.inr (.inr ⟨lock, nested, rfl⟩))
      | _ =>
          -- the remaining modes allow commands that are executed at once only
          exfalso
          cases command <;> first | exact allowed | simp [Command.awaited] at awaited

theorem Foreign.nodeInvariant {executor other : String} {before after : Cluster}
    (foreign : Foreign options executor before after) (different : other ≠ executor)
    (notOverdue : ∀ timer ∈ before.timers, before.now ≤ timer.dueAt)
    (invariant : NodeInvariant options reliable permitted other before) :
    NodeInvariant options reliable permitted other after where
  noDispose := by rw [foreign.nodes other different]; exact invariant.noDispose
  dead := by rw [foreign.nodes other different]; exact invariant.dead
  live := by
    rw [foreign.nodes other different]
    intro live
    obtain ⟨mode, inMode, holds⟩ := invariant.live live
    refine ⟨mode, inMode, ?_⟩
    rcases inMode.resting with rfl | ⟨ref, rfl⟩ | ⟨lock, rfl⟩ | ⟨lock, nested, rfl⟩
    · obtain ⟨outside, left⟩ := holds
      refine ⟨?_, fun reliable => foreign.leftovers different (left reliable)⟩
      rw [foreign.nodes other different]; exact outside
    · obtain ⟨outside, left, fresh⟩ := holds
      refine ⟨?_, fun reliable => foreign.leftovers different (left reliable),
        Nat.lt_of_lt_of_le fresh foreign.constructed⟩
      rw [foreign.nodes other different]; exact outside
    · obtain ⟨outside, left, fresh, guarded, stored, won⟩ := holds
      refine ⟨?_, fun reliable => foreign.onlyLeftovers different (left reliable),
        Nat.lt_of_lt_of_le fresh foreign.constructed,
        foreign.guarded different notOverdue guarded, ?_, ?_⟩ <;>
        rw [foreign.nodes other different] <;> assumption
    · obtain ⟨inside, left, fresh, guarded, stored, won, nestedElsewhere⟩ := holds
      refine ⟨?_, fun reliable => foreign.onlyLeftovers different (left reliable),
        Nat.lt_of_lt_of_le fresh foreign.constructed,
        foreign.guarded different notOverdue guarded, ?_, ?_, nestedElsewhere⟩ <;>
        rw [foreign.nodes other different] <;> assumption

/-- The identifier under which a command acts on the lock store. -/
def Command.lockIdentifier : Command → Option Identifier
  | .setNx mutex | .refresh mutex | .delete mutex => some mutex.identifier
  | _ => none

/-- An execution acts on the lock store under the identifier of its executor, or
under random ones. -/
theorem Mode.Allows.lockIdentifier_ne {executor other : String} {mode : Mode}
    {command : Command} (allowed : mode.Allows options executor permitted command)
    (different : other ≠ executor) : command.lockIdentifier ≠ some (.given other) := by
  have own {mutex : Mutex} (own : OwnMutex options executor mutex) :
      some mutex.identifier ≠ some (.given other) := by
    rw [own.identifier]
    simpa using different.symm
  have anonymous {mutex : Mutex} (anonymous : mutex.Anonymous) :
      some mutex.identifier ≠ some (.given other) := by
    obtain ⟨ref, generated⟩ := anonymous
    simp [generated]
  cases command with
  | setNx mutex =>
      cases mode with
      | built ref => exact own allowed.2
      | executing lock nested => exact anonymous allowed
      | _ => exact allowed.elim
  | refresh mutex =>
      cases mode with
      | built ref => exact own allowed.2.1
      | started lock => exact own allowed.1
      | executing lock nested => exact anonymous allowed
      | _ => exact allowed.elim
  | delete mutex =>
      cases mode with
      | executing lock nested => exact anonymous allowed
      | _ => exact allowed.elim
  | _ => exact fun same => by cases same

open Cluster

theorem reply_foreign {Value : Type} {executor : String} {cluster : Cluster}
    {identifier : Identifier} (environment : Environment)
    {store : LeaseStore String Identifier} (value : Value)
    (owned : OwnedBy identifier cluster.now cluster.locks store)
    (unlike : ∀ other, other ≠ executor → identifier ≠ .given other) :
    Foreign options executor cluster (cluster.reply environment store value).1 := by
  have unchanged : Foreign options executor cluster cluster :=
    ⟨rfl, Nat.le_refl _, fun _ _ => rfl, fun _ _ => Iff.rfl, fun _ _ _ => rfl,
      fun _ _ held => held⟩
  have written : Foreign options executor cluster { cluster with locks := store } :=
    ⟨rfl, Nat.le_refl _, fun _ _ => rfl, fun _ _ => Iff.rfl,
      fun other different => owned.keeps _ _ (unlike other different).symm,
      fun other different => owned.gives _ _ (unlike other different).symm⟩
  unfold reply
  cases environment.redis <;> first | exact written | exact unchanged

/-- A command that leaves the lock store alone and changes only the executor's
own node and timers. -/
theorem Foreign.of_local {executor : String} {before after : Cluster}
    (now : after.now = before.now) (constructed : before.constructed ≤ after.constructed)
    (locks : after.locks = before.locks)
    (nodes : ∀ other, other ≠ executor → after.nodes other = before.nodes other)
    (timers : ∀ timer, timer.owner ≠ executor →
      (timer ∈ after.timers ↔ timer ∈ before.timers)) :
    Foreign options executor before after :=
  ⟨now, constructed, nodes, timers, fun _ _ _ => by rw [locks],
    fun _ _ held => by rwa [locks] at held⟩

theorem setNode_foreign (executor : String) (cluster : Cluster) (node : NodeState) :
    Foreign options executor cluster (cluster.setNode executor node) :=
  .of_local rfl (Nat.le_refl _) rfl (fun _ different => Function.update_of_ne different _ _)
    fun _ _ => Iff.rfl

theorem execute_foreign (executor : String) (environment : Environment)
    (cluster : Cluster) (command : Command)
    (unlike : ∀ other, other ≠ executor →
      command.lockIdentifier ≠ some (.given other)) :
    Foreign options executor cluster (cluster.execute executor environment command).1 := by
  have unlike' (identifier : Identifier)
      (same : command.lockIdentifier = some identifier) (other : String)
      (different : other ≠ executor) : identifier ≠ .given other :=
    fun equal => unlike other different (by rw [same, equal])
  cases command with
  | setNx mutex =>
      simp only [execute]
      split
      · exact .of_local rfl (Nat.le_refl _) rfl (fun _ _ => rfl) fun _ _ => Iff.rfl
      · exact reply_foreign environment _ (claim_ownedBy _ _ _ _ _) (unlike' _ rfl)
  | refresh mutex =>
      exact reply_foreign environment _ (renew_ownedBy _ _ _ _ _) (unlike' _ rfl)
  | delete mutex =>
      exact reply_foreign environment _ (release_ownedBy _ _ _ _) (unlike' _ rfl)
  | construct =>
      exact .of_local rfl (Nat.le_succ _) rfl (fun _ _ => rfl) fun _ _ => Iff.rfl
  | getSingleConsumerLock =>
      exact .of_local rfl (Nat.le_refl _) rfl (fun _ _ => rfl) fun _ _ => Iff.rfl
  | startRefresh mutex =>
      refine .of_local rfl (Nat.le_refl _) rfl (fun _ _ => rfl) fun timer foreign => ?_
      refine ⟨fun member => ?_, List.mem_cons_of_mem _⟩
      rcases List.mem_cons.mp member with rfl | member
      · exact absurd rfl foreign
      · exact member
  | stopRefresh mutex =>
      refine .of_local rfl (Nat.le_refl _) rfl (fun _ _ => rfl) fun timer foreign => ?_
      simp [execute, foreign]
  | setSingleConsumerLock lock => exact setNode_foreign _ _ _
  | observabilityStart jobId executionUuid => exact setNode_foreign _ _ _
  | report error executorId => exact setNode_foreign _ _ _
  | stopScheduler => exact setNode_foreign _ _ _
  | record event => exact setNode_foreign _ _ _
  | perform task => exact setNode_foreign _ _ _

end Frame

end ServiceTemplate.Jobs
