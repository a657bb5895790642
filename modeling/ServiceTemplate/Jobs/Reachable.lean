import ServiceTemplate.Foundations.Run
import ServiceTemplate.Jobs.Advances

/-!
# Runs of a cluster without disposal

Every step keeps the invariant: a call advances through the modes of its
execution, time does not pass a due timer, and a timer that fires renews the
lease of its own executor only.
-/

namespace ServiceTemplate.Jobs

open LeaseStore Program Cluster

variable {options : JobOptions} {reliable : Prop} {permitted : Task → Prop}

/-! ## What a command leaves alone -/

section Execute

variable (executor : String) (environment : Environment) (cluster : Cluster)

section Reply

variable {Value : Type} (store : LeaseStore String Identifier) (value : Value)

@[simp]
theorem reply_now : (cluster.reply environment store value).1.now = cluster.now := by
  unfold reply
  cases environment.redis <;> rfl

@[simp]
theorem reply_timers :
    (cluster.reply environment store value).1.timers = cluster.timers := by
  unfold reply
  cases environment.redis <;> rfl

@[simp]
theorem reply_nodes : (cluster.reply environment store value).1.nodes = cluster.nodes := by
  unfold reply
  cases environment.redis <;> rfl

end Reply

@[simp]
theorem execute_now (command : Command) :
    (cluster.execute executor environment command).1.now = cluster.now := by
  cases command with
  | setNx mutex => simp only [execute]; split <;> simp
  | refresh mutex => exact reply_now _ _ _ _
  | delete mutex => exact reply_now _ _ _ _
  | _ => rfl

theorem execute_timers (command : Command) {timer : RefreshTimer}
    (member : timer ∈ (cluster.execute executor environment command).1.timers) :
    timer ∈ cluster.timers ∨ ∃ mutex, command = .startRefresh mutex ∧
      timer = ⟨executor, mutex, cluster.now + mutex.refreshInterval⟩ := by
  cases command with
  | setNx mutex =>
      simp only [execute] at member
      split at member
      · exact .inl member
      · exact .inl (by simpa using member)
  | refresh mutex => exact .inl (by simpa [execute] using member)
  | delete mutex => exact .inl (by simpa [execute] using member)
  | startRefresh mutex =>
      rcases List.mem_cons.mp member with rfl | member
      · exact .inr ⟨mutex, rfl, rfl⟩
      · exact .inl member
  | stopRefresh mutex => exact .inl (List.mem_of_mem_filter member)
  | _ => exact .inl member

theorem execute_node (command : Command) (other : String) :
    ((cluster.execute executor environment command).1.nodes other).live =
        (cluster.nodes other).live ∧
      ((cluster.execute executor environment command).1.nodes other).calls =
        (cluster.nodes other).calls := by
  have updated {node : NodeState} (live : node.live = (cluster.nodes executor).live)
      (calls : node.calls = (cluster.nodes executor).calls) :
      ((cluster.setNode executor node).nodes other).live = (cluster.nodes other).live ∧
        ((cluster.setNode executor node).nodes other).calls =
          (cluster.nodes other).calls := by
    by_cases same : other = executor
    · subst same
      simpa [setNode] using ⟨live, calls⟩
    · simp [setNode, same]
  cases command with
  | setNx mutex => simp only [execute]; split <;> simp
  | refresh mutex => simp [execute]
  | delete mutex => simp [execute]
  | setSingleConsumerLock lock => exact updated rfl rfl
  | observabilityStart jobId executionUuid => exact updated rfl rfl
  | report error executorId => exact updated rfl rfl
  | stopScheduler => exact updated rfl rfl
  | record event => exact updated rfl rfl
  | perform task => exact updated rfl rfl
  | _ => exact ⟨rfl, rfl⟩

theorem execute_tasks (command : Command) {other : String} {instant : Nat} {task : Task}
    (notRecorded : command ≠ .record (.taskSettled task))
    (member : (instant, Event.taskSettled task) ∈
      ((cluster.execute executor environment command).1.nodes other).journal) :
    (instant, Event.taskSettled task) ∈ (cluster.nodes other).journal ∨
      command = .perform task := by
  have updated {event : Event} (unlike : event ≠ .taskSettled task)
      (member : (instant, Event.taskSettled task) ∈
        ((cluster.recordEvent executor event).nodes other).journal) :
      (instant, Event.taskSettled task) ∈ (cluster.nodes other).journal := by
    by_cases same : other = executor
    · subst same
      rw [recordEvent_journal] at member
      rcases List.mem_cons.mp member with same | member
      · exact absurd (congrArg Prod.snd same).symm unlike
      · exact member
    · simpa [recordEvent, setNode, same] using member
  have kept (node : NodeState) (journal : node.journal = (cluster.nodes executor).journal)
      (member : (instant, Event.taskSettled task) ∈
        ((cluster.setNode executor node).nodes other).journal) :
      (instant, Event.taskSettled task) ∈ (cluster.nodes other).journal := by
    by_cases same : other = executor
    · subst same
      simpa [setNode, journal] using member
    · simpa [setNode, same] using member
  cases command with
  | setNx mutex =>
      simp only [execute] at member
      split at member
      · exact .inl member
      · exact .inl (by simpa using member)
  | refresh mutex => exact .inl (by simpa [execute] using member)
  | delete mutex => exact .inl (by simpa [execute] using member)
  | setSingleConsumerLock lock =>
      exact .inl (kept { cluster.nodes executor with singleConsumerLock := lock } rfl member)
  | stopScheduler =>
      exact .inl (kept { cluster.nodes executor with schedulerStopped := true } rfl member)
  | observabilityStart jobId executionUuid =>
      exact .inl (updated Event.noConfusion member)
  | report error executorId => exact .inl (updated Event.noConfusion member)
  | record event =>
      exact .inl (updated (fun same => notRecorded (congrArg Command.record same)) member)
  | perform awaited =>
      by_cases same : awaited = task
      · exact .inr (congrArg Command.perform same)
      · refine .inl (updated (fun settled => same ?_) member)
        exact Event.taskSettled.inj settled
  | _ => exact .inl member

end Execute

/-! ## The invariant of all nodes while one call runs -/

/-- The timer that a mode lets an execution start. -/
theorem Mode.Allows.startRefresh_own {executor : String} {cluster : Cluster}
    {mode : Mode} {mutex : Mutex}
    (allowed : mode.Allows options executor permitted (.startRefresh mutex))
    (holds : ModeInvariant options reliable executor cluster mode)
    (exclusive : mutex.key = options.exclusiveKey) :
    OwnMutex options executor mutex ∧ 0 < mutex.lockTimeout := by
  cases mode with
  | won lock =>
      cases allowed
      exact ⟨holds.2.2.1, holds.2.2.2.1⟩
  | renewed lock renewal =>
      cases allowed
      obtain ⟨-, -, -, -, own, -, timed, -⟩ := holds
      refine ⟨own, Nat.pos_of_ne_zero fun zero => ?_⟩
      rw [own.refreshInterval, zero] at timed
      simp [defaultRefreshInterval] at timed
  | executing lock nested =>
      exact absurd exclusive (holds.2.2.2.2.2.2 mutex allowed)
  | _ => exact allowed.elim

theorem Mode.Allows.not_record_task {executor : String} {mode : Mode} {task : Task}
    (allowed : mode.Allows options executor permitted (.record (.taskSettled task))) :
    False := by
  cases mode with
  | settled => cases allowed
  | started lock => rcases allowed with plain | same <;> contradiction
  | executing lock nested => rcases allowed with plain | same <;> contradiction
  | _ => exact allowed.elim

theorem Mode.Allows.task_permitted {executor : String} {mode : Mode} {task : Task}
    (allowed : mode.Allows options executor permitted (.perform task)) :
    permitted task := by
  cases mode with
  | executing lock nested => exact allowed
  | _ => exact allowed.elim

theorem Sound.execute {executor : String} {environment : Environment} {cluster : Cluster}
    {mode : Mode} {command : Command} (sound : Sound options permitted cluster)
    (holds : ModeInvariant options reliable executor cluster mode)
    (allowed : mode.Allows options executor permitted command) :
    Sound options permitted (cluster.execute executor environment command).1 where
  notOverdue timer member := by
    rw [execute_now]
    rcases execute_timers _ _ _ _ member with earlier | ⟨mutex, -, rfl⟩
    · exact sound.notOverdue timer earlier
    · exact Nat.le_add_right _ _
  owned timer member exclusive text identifier := by
    rcases execute_timers _ _ _ _ member with earlier | ⟨mutex, rfl, rfl⟩
    · exact sound.owned timer earlier exclusive text identifier
    · obtain ⟨own, positive⟩ := allowed.startRefresh_own holds exclusive
      refine ⟨?_, Mutex.refreshInterval_pos_of_own own positive, ?_⟩
      · exact Identifier.given.inj (own.identifier.symm.trans identifier)
      · rw [own.refreshInterval]
        exact defaultRefreshInterval_le _
  tasks other instant task member := by
    rcases execute_tasks _ _ _ _ (by rintro rfl; exact allowed.not_record_task) member with
      earlier | rfl
    · exact sound.tasks other instant task earlier
    · exact allowed.task_permitted

/-- While an executor runs a call: its own mode, and the invariant of the others. -/
structure Running (options : JobOptions) (reliable : Prop) (permitted : Task → Prop)
    (executor : String) (cluster : Cluster) (program : JobProgram Unit) : Prop where
  sound : Sound options permitted cluster
  others : ∀ other, other ≠ executor →
    NodeInvariant options reliable permitted other cluster
  alive : (cluster.nodes executor).live = true
  noDispose : (cluster.nodes executor).calls .dispose = none
  inMode : ∃ mode, program.Follows (executionContract options executor permitted) mode
      (fun last _ => last = .settled) ∧
    ModeInvariant options reliable executor cluster mode

section Calls

variable {executor : String} {environment : Environment} {cluster : Cluster}

theorem Running.execute {command : Command}
    {next : Except Thrown command.Answer → JobProgram Unit}
    (answers : reliable → environment.redis = .answered)
    (running : Running options reliable permitted executor cluster (.call command next)) :
    Running options reliable permitted executor
      (cluster.execute executor environment command).1
      (next (cluster.execute executor environment command).2) := by
  obtain ⟨mode, ⟨allowed, continues⟩, holds⟩ := running.inMode
  have node := execute_node executor environment cluster command executor
  have foreign : Foreign options executor cluster
      (cluster.execute executor environment command).1 :=
    execute_foreign executor environment cluster command fun other different =>
      Mode.Allows.lockIdentifier_ne allowed different
  obtain ⟨later, moved, laterHolds⟩ := advances running.sound answers holds allowed
  exact
    { sound := running.sound.execute holds allowed
      others := fun other different =>
        foreign.nodeInvariant different running.sound.notOverdue
          (running.others other different)
      alive := node.1.trans running.alive
      noDispose := by rw [node.2]; exact running.noDispose
      inMode := ⟨later, continues _ later moved, laterHolds⟩ }

theorem Running.settle {program : JobProgram Unit}
    (answers : reliable → environment.redis = .answered)
    (running : Running options reliable permitted executor cluster program) :
    Running options reliable permitted executor
      (program.settle (executeNow executor environment) cluster).1
      (program.settle (executeNow executor environment) cluster).2 := by
  refine settle_invariant (fun state command next changed answer running now => ?_)
    cluster program running
  unfold executeNow at now
  split at now
  · cases now
  · have executed := running.execute answers
    rw [Option.some.inj now] at executed
    exact executed

/-- The note of what has become of a call. -/
theorem unchanged_setCalls (calls : Call → Option (JobProgram Unit)) :
    Unchanged options executor cluster
      (cluster.setNode executor { cluster.nodes executor with calls := calls }) := by
  refine ⟨rfl, Nat.le_refl _, rfl, fun _ _ _ => Iff.rfl, ?_, ?_, ?_⟩ <;> simp [setNode]

theorem Sound.setNode {node : NodeState} (sound : Sound options permitted cluster)
    (tasks : ∀ instant task, (instant, Event.taskSettled task) ∈ node.journal →
      permitted task) :
    Sound options permitted (cluster.setNode executor node) where
  notOverdue := sound.notOverdue
  owned := sound.owned
  tasks other instant task member := by
    by_cases same : other = executor
    · subst same
      exact tasks instant task (by simpa [Cluster.setNode] using member)
    · exact sound.tasks other instant task (by simpa [Cluster.setNode, same] using member)

theorem Running.note {program : JobProgram Unit} (waiting : Option (JobProgram Unit))
    (running : Running options reliable permitted executor cluster program)
    (inMode : ∃ mode, InMode options permitted executor mode waiting ∧
      ModeInvariant options reliable executor cluster mode) :
    ClusterInvariant options reliable permitted
      (cluster.setNode executor
        { cluster.nodes executor with
          calls := Function.update (cluster.nodes executor).calls .process waiting }) where
  sound := running.sound.setNode (running.sound.tasks executor)
  nodes other := by
    by_cases same : other = executor
    · subst same
      refine ⟨?_, ?_, fun _ => ?_⟩
      · simpa [Cluster.setNode] using running.noDispose
      · simp [Cluster.setNode, running.alive]
      · obtain ⟨mode, waits, holds⟩ := inMode
        refine ⟨mode, by simpa [Cluster.setNode] using waits, ?_⟩
        have same : Unchanged options other cluster _ :=
          unchanged_setCalls (Function.update (cluster.nodes other).calls .process waiting)
        rcases waits.resting with rfl | ⟨ref, rfl⟩ | ⟨lock, rfl⟩ | ⟨lock, nested, rfl⟩
        · exact same.settled holds
        · exact same.built holds
        · exact same.started holds
        · exact same.executing holds
    · exact (setNode_foreign executor cluster _).nodeInvariant same
        running.sound.notOverdue (running.others other same)

theorem Running.recordCallSettled {program : JobProgram Unit}
    (running : Running options reliable permitted executor cluster program)
    (rejection : Option Thrown)
    (settled : ModeInvariant options reliable executor cluster .settled) :
    Running options reliable permitted executor
      (cluster.recordEvent executor (.callSettled rejection)) (.done ()) where
  sound := running.sound.setNode fun instant task member => by
    rcases List.mem_cons.mp member with same | member
    · cases same
    · exact running.sound.tasks executor instant task member
  others other different :=
    (setNode_foreign executor cluster _).nodeInvariant different
      running.sound.notOverdue (running.others other different)
  alive := by simpa [recordEvent, Cluster.setNode] using running.alive
  noDispose := by simpa [recordEvent, Cluster.setNode] using running.noDispose
  inMode := by
    have same : Unchanged options executor cluster
        (cluster.recordEvent executor (.callSettled rejection)) :=
      unchanged_recordEvent (fun _ _ => rfl) fun _ _ => Event.noConfusion
    exact ⟨.settled, rfl, same.settled settled⟩

theorem Running.suspend {program : JobProgram Unit}
    (running : Running options reliable permitted executor cluster program)
    (awaited : ∀ command next, program = .call command next → command.awaited = true) :
    ClusterInvariant options reliable permitted
      (cluster.suspend executor .process program) := by
  obtain ⟨mode, follows, holds⟩ := running.inMode
  have ends (rejection : Option Thrown)
      (settled : ModeInvariant options reliable executor cluster .settled) :=
    let noted := running.recordCallSettled rejection settled
    noted.note none (by
      obtain ⟨last, atEnd, lastHolds⟩ := noted.inMode
      exact ⟨last, atEnd, lastHolds⟩)
  cases program with
  | done value =>
      cases follows
      exact ends none holds
  | fail error =>
      cases follows
      exact ends (some error) holds
  | call command next =>
      exact running.note _
        ⟨mode, ⟨follows, command, next, rfl, awaited command next rfl⟩, holds⟩

theorem Running.advance {program : JobProgram Unit}
    (answers : reliable → environment.redis = .answered)
    (running : Running options reliable permitted executor cluster program) :
    ClusterInvariant options reliable permitted
      (cluster.advance executor .process environment program) := by
  refine (running.settle answers).suspend fun command next waits => ?_
  obtain ⟨state, refused⟩ := settle_waits waits
  unfold executeNow at refused
  split at refused
  · assumption
  · cases refused

end Calls

/-! ## The other steps -/

section Steps

variable {cluster : Cluster}

/-- An invariant of one node that holds of the modes in which a call waits. -/
theorem NodeInvariant.of_modes {executor : String} {after : Cluster}
    (invariant : NodeInvariant options reliable permitted executor cluster)
    (node : after.nodes executor = cluster.nodes executor)
    (constructed : after.constructed = cluster.constructed)
    (leftovers : Leftovers options executor cluster → Leftovers options executor after)
    (onlyLeftovers : ∀ lock, OnlyLeftovers options executor cluster lock →
      OnlyLeftovers options executor after lock)
    (guarded : Guarded options executor cluster → Guarded options executor after) :
    NodeInvariant options reliable permitted executor after where
  noDispose := by rw [node]; exact invariant.noDispose
  dead := by rw [node]; exact invariant.dead
  live := by
    rw [node]
    intro live
    obtain ⟨mode, inMode, holds⟩ := invariant.live live
    refine ⟨mode, inMode, ?_⟩
    rcases inMode.resting with rfl | ⟨ref, rfl⟩ | ⟨lock, rfl⟩ | ⟨lock, nested, rfl⟩
    · refine ⟨?_, fun answers => leftovers (holds.2 answers)⟩
      rw [node]; exact holds.1
    · refine ⟨?_, fun answers => leftovers (holds.2.1 answers), ?_⟩
      · rw [node]; exact holds.1
      · rw [constructed]; exact holds.2.2
    · obtain ⟨outside, left, fresh, guards, stored, won⟩ := holds
      refine ⟨?_, fun answers => onlyLeftovers lock (left answers), ?_, guarded guards,
        ?_, ?_⟩ <;> first | rw [node]; assumption | rw [constructed]; assumption
    · obtain ⟨inside, left, fresh, guards, stored, won, elsewhere⟩ := holds
      refine ⟨?_, fun answers => onlyLeftovers lock (left answers), ?_, guarded guards,
        ?_, ?_, elsewhere⟩ <;>
        first | rw [node]; assumption | rw [constructed]; assumption

theorem ClusterInvariant.tick
    (invariant : ClusterInvariant options reliable permitted cluster)
    (early : ∀ timer ∈ cluster.timers, cluster.now < timer.dueAt) :
    ClusterInvariant options reliable permitted { cluster with now := cluster.now + 1 } where
  sound := ⟨early, invariant.sound.owned, invariant.sound.tasks⟩
  nodes executor := by
    refine (invariant.nodes executor).of_modes rfl rfl (fun left => ?_)
      (fun _ left => left) (fun guarded => guarded)
    refine ⟨left.timers, left.leak, fun zero won held => ?_⟩
    exact left.released zero won (holder_later (Nat.le_succ _) held)

theorem ClusterInvariant.crash (executor : String)
    (invariant : ClusterInvariant options reliable permitted cluster) :
    ClusterInvariant options reliable permitted (cluster.crashNode executor) where
  sound := by
    refine ⟨fun timer member => ?_, fun timer member => ?_,
      fun other instant task member => ?_⟩
    · exact invariant.sound.notOverdue timer (List.mem_of_mem_filter member)
    · exact invariant.sound.owned timer (List.mem_of_mem_filter member)
    · apply invariant.sound.tasks other instant task
      by_cases same : other = executor
      · subst same
        simpa [crashNode] using member
      · simpa [crashNode, same] using member
  nodes other := by
    by_cases same : other = executor
    · subst same
      refine ⟨?_, ?_, ?_⟩ <;> simp [crashNode]
    · have foreign : Foreign options executor cluster (cluster.crashNode executor) := by
        refine .of_local rfl (Nat.le_refl _) rfl (fun _ different => ?_)
          fun timer different => ?_
        · exact Function.update_of_ne different _ _
        · simp [crashNode, different]
      exact foreign.nodeInvariant same invariant.sound.notOverdue (invariant.nodes other)

section Fire

variable {index : Nat} {timer : RefreshTimer}

theorem mem_fireTimer {other : RefreshTimer}
    (member : other ∈ (cluster.fireTimer index timer).timers) :
    other ∈ cluster.timers ∨
      other = { timer with dueAt := cluster.now + timer.mutex.refreshInterval } :=
  List.mem_or_eq_of_mem_set member

variable (atIndex : cluster.timers[index]? = some timer)

include atIndex

theorem rearmed_mem_fireTimer :
    { timer with dueAt := cluster.now + timer.mutex.refreshInterval } ∈
      (cluster.fireTimer index timer).timers := by
  obtain ⟨inside, -⟩ := List.getElem?_eq_some_iff.mp atIndex
  exact List.mem_set inside _

theorem other_mem_fireTimer {other : RefreshTimer} (different : other ≠ timer)
    (member : other ∈ cluster.timers) :
    other ∈ (cluster.fireTimer index timer).timers := by
  obtain ⟨position, found⟩ := List.mem_iff_getElem?.mp member
  have elsewhere : index ≠ position := by
    rintro rfl
    exact different (Option.some.inj (found.symm.trans atIndex))
  refine List.mem_iff_getElem?.mpr ⟨position, ?_⟩
  rw [fireTimer, List.getElem?_set_ne elsewhere, found]

/-- The firing of a timer neither starts nor stops the refreshing of a lock. -/
theorem refreshes_fireTimer {executor : String} {mutex : Mutex} :
    Refreshes options executor (cluster.fireTimer index timer) mutex ↔
      Refreshes options executor cluster mutex := by
  have present := List.mem_of_getElem? atIndex
  refine and_congr_right fun key => ?_
  constructor
  · rintro ⟨other, member, owner, rfl⟩
    rcases mem_fireTimer member with earlier | rfl
    · exact ⟨other, earlier, owner, rfl⟩
    · exact ⟨timer, present, owner, rfl⟩
  · rintro ⟨other, member, owner, rfl⟩
    by_cases same : other = timer
    · subst same
      exact ⟨_, rearmed_mem_fireTimer atIndex, owner, rfl⟩
    · exact ⟨other, other_mem_fireTimer atIndex same member, owner, rfl⟩

/-- A guarded lock is renewed by the timers of its holder only, and each of them
fires again before the new lease ends. -/
theorem Guarded.fireTimer {executor : String}
    (sound : Sound options permitted cluster)
    (guarded : Guarded options executor cluster) :
    Guarded options executor (cluster.fireTimer index timer) := by
  have held := guarded.holder sound.notOverdue
  have present := List.mem_of_getElem? atIndex
  by_cases own : timer.mutex.key = options.exclusiveKey ∧
      timer.mutex.identifier = .given executor
  · obtain ⟨key, identifier⟩ := own
    obtain ⟨owner, positive, inTime⟩ := sound.owned timer present key executor identifier
    have renewed : cluster.locks.holder cluster.now timer.mutex.key =
        some timer.mutex.identifier := by
      rw [key, identifier, held]
    refine ⟨cluster.now + timer.mutex.lockTimeout, ?_, _, rearmed_mem_fireTimer atIndex,
      owner, key, identifier, Nat.add_le_add_left inTime _⟩
    simp only [Cluster.fireTimer, renew_of_held renewed]
    rw [if_neg (by omega), ← key, identifier]
    exact Function.update_self _ _ _
  · obtain ⟨expiresAt, leased, guard, member, owner, key, identifier, inTime⟩ := guarded
    have different : guard ≠ timer := by
      rintro rfl
      exact own ⟨key, identifier⟩
    refine ⟨expiresAt, ?_, guard, other_mem_fireTimer atIndex different member, owner, key,
      identifier, inTime⟩
    rw [← leased]
    by_cases sameKey : timer.mutex.key = options.exclusiveKey
    · have notHeld : cluster.locks.holder cluster.now timer.mutex.key ≠
          some timer.mutex.identifier := by
        rw [sameKey, held]
        intro same
        exact own ⟨sameKey, (Option.some.inj same).symm⟩
      simp only [Cluster.fireTimer, renew_of_not_held notHeld]
    · exact renew_other fun same => sameKey same.symm

theorem Sound.fireTimer (sound : Sound options permitted cluster) :
    Sound options permitted (cluster.fireTimer index timer) where
  notOverdue other member := by
    rcases mem_fireTimer member with earlier | rfl
    · exact sound.notOverdue other earlier
    · exact Nat.le_add_right _ _
  owned other member := by
    rcases mem_fireTimer member with earlier | rfl
    · exact sound.owned other earlier
    · exact sound.owned timer (List.mem_of_getElem? atIndex)
  tasks := sound.tasks

theorem ClusterInvariant.fire
    (invariant : ClusterInvariant options reliable permitted cluster) :
    ClusterInvariant options reliable permitted (cluster.fireTimer index timer) where
  sound := invariant.sound.fireTimer atIndex
  nodes executor := by
    refine (invariant.nodes executor).of_modes rfl rfl (fun left => ?_)
      (fun lock left mutex refreshes => ?_)
      (fun guarded => guarded.fireTimer atIndex invariant.sound)
    · refine ⟨fun mutex refreshes => ?_, fun positive won => ?_, fun zero won held => ?_⟩
      · exact left.timers mutex ((refreshes_fireTimer atIndex).mp refreshes)
      · obtain ⟨mutex, refreshes⟩ := left.leak positive won
        exact ⟨mutex, (refreshes_fireTimer atIndex).mpr refreshes⟩
      · exact left.released zero won (holder_of_renew held)
    · exact left mutex ((refreshes_fireTimer atIndex).mp refreshes)

end Fire

end Steps

/-! ## Runs -/

/-- A step of a run that disposes of no job. -/
def Label.WithoutDisposal : Label → Prop
  | .start _ method _ | .resume _ method _ => method = .process
  | _ => True

/-- A step in which no Redis command fails. -/
def Label.RedisAnswers : Label → Prop
  | .start _ _ environment | .resume _ _ environment => environment.redis = .answered
  | _ => True

section Runs

variable {job : AbstractPeriodicJob}

theorem ClusterInvariant.initial (now : Nat) (locks : LeaseStore String Identifier) :
    ClusterInvariant options reliable permitted
      (AbstractPeriodicJob.initialCluster now locks) where
  sound := by
    refine ⟨?_, ?_, ?_⟩ <;> simp [AbstractPeriodicJob.initialCluster]
  nodes executor := by
    have nothing (mutex : Mutex) : ¬ Refreshes options executor
        (AbstractPeriodicJob.initialCluster now locks) mutex := by
      rintro ⟨-, timer, member, -⟩
      cases member
    have never : ¬ HasWon ((AbstractPeriodicJob.initialCluster now locks).nodes
        executor).journal := by
      rintro ⟨instant, jobId, executionUuid, member⟩
      cases member
    refine ⟨rfl, (fun dead => by cases dead), fun _ => ⟨.settled, rfl, rfl, fun _ => ?_⟩⟩
    exact ⟨fun mutex refreshes => (nothing mutex refreshes).elim,
      fun _ won => (never won).elim, fun _ won => (never won).elim⟩

/-- Every step without disposal keeps the invariant. -/
theorem ClusterInvariant.step (body : job.BodyFollows permitted)
    (enabled : job.options.singleConsumerMode.enabled = true)
    {cluster next : Cluster} {label : Label}
    (invariant : ClusterInvariant job.options reliable permitted cluster)
    (undisposed : label.WithoutDisposal) (answers : reliable → label.RedisAnswers)
    (steps : job.step cluster label = some next) :
    ClusterInvariant job.options reliable permitted next := by
  cases label with
  | tick =>
      obtain ⟨early, rfl⟩ := stepOf_tick steps
      exact invariant.tick early
  | fire index =>
      obtain ⟨timer, atIndex, -, rfl⟩ := stepOf_fire steps
      exact invariant.fire atIndex
  | crash executor =>
      cases steps
      exact invariant.crash executor
  | start executor call environment =>
      cases undisposed
      obtain ⟨⟨alive, idle, -⟩, rfl⟩ := stepOf_start steps
      have node := invariant.nodes executor
      obtain ⟨mode, inMode, holds⟩ := node.live alive
      rw [Option.isNone_iff_eq_none.mp idle] at inMode
      cases inMode
      exact Running.advance answers
        ⟨invariant.sound, fun other _ => invariant.nodes other, alive, node.noDispose,
          .settled, AbstractPeriodicJob.process_follows body enabled, holds⟩
  | resume executor call environment =>
      cases undisposed
      obtain ⟨command, continuation, waits, rfl⟩ := stepOf_resume steps
      have node := invariant.nodes executor
      have alive : (cluster.nodes executor).live = true := by
        by_contra dead
        have gone := node.dead (by simpa using dead)
        rw [gone] at waits
        cases waits
      obtain ⟨mode, inMode, holds⟩ := node.live alive
      rw [waits] at inMode
      have running : Running job.options reliable permitted executor cluster
          (.call command continuation) :=
        ⟨invariant.sound, fun other _ => invariant.nodes other, alive, node.noDispose,
          mode, inMode.1, holds⟩
      exact (running.execute answers).advance answers

/-- The invariant holds in every state of every run without disposal. -/
theorem clusterInvariant_of_run (body : job.BodyFollows permitted)
    (enabled : job.options.singleConsumerMode.enabled = true)
    {now : Nat} {locks : LeaseStore String Identifier} {labels : List Label}
    {cluster : Cluster} (undisposed : ∀ label ∈ labels, label.WithoutDisposal)
    (answers : reliable → ∀ label ∈ labels, label.RedisAnswers)
    (reaches : run job.step (AbstractPeriodicJob.initialCluster now locks) labels =
      some cluster) :
    ClusterInvariant job.options reliable permitted cluster := by
  have eachLabel : EachStep job.step
      (fun _ label => label.WithoutDisposal ∧ (reliable → label.RedisAnswers))
      (AbstractPeriodicJob.initialCluster now locks) labels :=
    EachStep.of_forall (fun label member _ =>
      ⟨undisposed label member, fun reliably => answers reliably label member⟩) _
  exact run_invariant (fun state label next holds allowed steps =>
    holds.step body enabled allowed.1 allowed.2 steps) (.initial now locks) eachLabel reaches

end Runs

end ServiceTemplate.Jobs
