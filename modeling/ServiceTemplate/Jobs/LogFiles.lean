import ServiceTemplate.Foundations.LeasedWork
import ServiceTemplate.Jobs.Executors

/-!
# The file locks of `ProcessLogFilesJob`

Any number of executors run `processInternal` at the same time.  Each of them
takes the lock of a file before it processes the file, and stops refreshing the
lock afterwards without releasing it.  That is work under leases that outlive
it: the steps of the cluster are steps of that abstract machine.
-/

namespace ServiceTemplate.Jobs

open LeaseStore Cluster

namespace ProcessLogFilesJob

/-- Executors that run `processInternal` by itself. -/
def internalStep : Cluster → Label → Option Cluster :=
  Cluster.stepOf fun executor _ => processInternal executor

def fileKey (file : String) : String :=
  options.getJobLockName s!"log:{file}"

/-- The mutex by which the lock of a file is asked for. -/
def fileMutex (file : String) (ref : Nat) : Mutex :=
  Mutex.new ref (fileKey file)
    { refreshInterval := some LOCK_REFRESH_IN_MSECS
      lockTimeout := some LOCK_TIMEOUT_IN_MSECS }

/-! ## The phases of `processInternal` -/

/-- What an executor waits for, with the iterations of the loop that are left. -/
inductive FilePhase where
  | idle
  | fetching (remaining : Nat)
  | claiming (remaining : Nat) (file : String) (ref : Nat)
  | processing (remaining : Nat) (file : String) (ref : Nat)

section Phases

variable (executor : String) (remaining : Nat) (file : String)

/-- The rest of an iteration, after the processing of the file. -/
def afterWork (lock : Mutex) : Except Thrown Unit → JobProgram Unit
  | .error error =>
      .call (.stopRefresh lock) fun
        | .error error => .fail error
        | .ok _ => .fail error
  | .ok _ =>
      .call (.stopRefresh lock) fun
        | .error error => .fail error
        | .ok _ => processFiles executor remaining

/-- The rest of an iteration, after the answer to `SET`. -/
def afterClaim (lock : Mutex) : Except Thrown Bool → JobProgram Unit
  | .error error => .fail error
  | .ok false => processFiles executor remaining
  | .ok true =>
      .call (.startRefresh lock) fun
        | .error error => .fail error
        | .ok _ => .call (.perform (.processFile file)) (afterWork executor remaining lock)

/-- The rest of an iteration, after the answer to `getUnprocessedLogFile`. -/
def afterFetch : Except Thrown (Option String) → JobProgram Unit
  | .error error => .fail error
  | .ok found =>
      match found.filter (· ≠ "") with
      | none => log .debug s!"Nothing to process, skipping ({executor})"
      | some file =>
          .call .construct fun
            | .error error => .fail error
            | .ok ref =>
                .call (.setNx (fileMutex file ref))
                  (afterClaim executor remaining file (fileMutex file ref))

def FilePhase.waitsFor : FilePhase → Option (JobProgram Unit)
  | .idle => none
  | .fetching remaining => some (processFiles executor (remaining + 1))
  | .claiming remaining file ref =>
      some (.call (.setNx (fileMutex file ref))
        (afterClaim executor remaining file (fileMutex file ref)))
  | .processing remaining file ref =>
      some (.call (.perform (.processFile file))
        (afterWork executor remaining (fileMutex file ref)))

/-- The lock that is refreshed in a phase. -/
def FilePhase.lock : FilePhase → Option Mutex
  | .processing _ file ref => some (fileMutex file ref)
  | _ => none

/-- The phase in which an iteration of the loop begins. -/
def FilePhase.next : Nat → FilePhase
  | 0 => .idle
  | remaining + 1 => .fetching remaining

end Phases

/-- An iteration that has been given a file. -/
theorem tryAcquireFile_eq (executor : String) (remaining : Nat) (file : String) :
    ((options.tryAcquireExclusiveLock (fileLock file)).bind fun lock =>
        match lock with
        | none => processFiles executor remaining
        | some lock => do
            (issue (.perform (.processFile file))).tryFinally lock.stopRefresh
            processFiles executor remaining) =
      .call .construct fun
        | .error error => .fail error
        | .ok ref =>
            .call (.setNx (fileMutex file ref))
              (afterClaim executor remaining file (fileMutex file ref)) := by
  refine Program.call_congr (fun _ => rfl) fun ref => ?_
  refine Program.call_congr (fun _ => rfl) fun acquired => ?_
  cases acquired with
  | false => rfl
  | true =>
      refine Program.call_congr (fun _ => rfl) fun started => ?_
      -- the refresh is stopped whether the file has been processed or not
      apply Program.call_congr
      · exact fun error => Program.call_congr (fun _ => rfl) fun _ => rfl
      · exact fun value => Program.call_congr (fun _ => rfl) fun _ => rfl

theorem processFiles_succ (executor : String) (remaining : Nat) :
    processFiles executor (remaining + 1) =
      .call (.perform .getUnprocessedLogFile) (afterFetch executor remaining) := by
  refine Program.call_congr (fun _ => rfl) fun found => ?_
  simp only [afterFetch, ← tryAcquireFile_eq]
  rfl

/-! ## What a step of a call does -/

/-- What a step of a call does to the locks and timers, and how its phase changes. -/
inductive CallStep (executor : String) (cluster : Cluster) :
    FilePhase → FilePhase → Cluster → Prop
  | goOn {phase later : FilePhase} (constructed : Nat) (unlocked : phase.lock = none)
      (still : later.lock = none) :
      CallStep executor cluster phase later { cluster with constructed := constructed }
  /-- the lock is refused, or the reply is lost -/
  | attempt (remaining : Nat) (file : String) (ref : Nat) {later : FilePhase}
      (still : later.lock = none) :
      CallStep executor cluster (.claiming remaining file ref) later
        { cluster with
          locks := (cluster.locks.claim cluster.now (fileKey file) (.generated ref)
            LOCK_TIMEOUT_IN_MSECS).1 }
  | begin (remaining : Nat) (file : String) (ref : Nat)
      (free : cluster.locks.holder cluster.now (fileKey file) = none) :
      CallStep executor cluster (.claiming remaining file ref)
        (.processing remaining file ref)
        { cluster with
          locks := (cluster.locks.claim cluster.now (fileKey file) (.generated ref)
            LOCK_TIMEOUT_IN_MSECS).1
          timers := ⟨executor, fileMutex file ref, cluster.now + LOCK_REFRESH_IN_MSECS⟩ ::
            cluster.timers }
  | stop (remaining : Nat) (file : String) (ref : Nat) {later : FilePhase}
      (still : later.lock = none) :
      CallStep executor cluster (.processing remaining file ref) later
        { cluster with
          timers := cluster.timers.filter fun timer =>
            ¬ (timer.owner = executor ∧ timer.mutex = fileMutex file ref) }

/-- The outcome of a step of a call. -/
def Steps (executor : String) (call : Call) (phase : FilePhase) (cluster next : Cluster) :
    Prop :=
  ∃ later middle, CallStep executor cluster phase later middle ∧
    SetsCall executor call (later.waitsFor executor) middle next

section Calls

variable {executor : String} {call : Call} {environment : Environment}
variable {cluster next : Cluster}

@[simp]
theorem lock_next (remaining : Nat) : (FilePhase.next remaining).lock = none := by
  cases remaining <;> rfl

theorem next_setsCall (remaining : Nat) :
    SetsCall executor call ((FilePhase.next remaining).waitsFor executor) cluster
      (cluster.advance executor call environment (processFiles executor remaining)) := by
  cases remaining with
  | zero => exact suspend_setsCall (.done ())
  | succ remaining =>
      have eq := processFiles_succ executor remaining
      simp only [FilePhase.next, FilePhase.waitsFor, eq]
      exact advance_setsCall rfl

/-- A call has been answered which file to process. -/
theorem steps_of_fetching {remaining : Nat} (answer : Except Thrown (Option String)) :
    Steps executor call (.fetching remaining) cluster
      (cluster.advance executor call environment (afterFetch executor remaining answer)) := by
  rcases answer with error | found
  · exact ⟨.idle, _, .goOn cluster.constructed rfl rfl, suspend_setsCall (.fail error)⟩
  simp only [afterFetch]
  cases found.filter (· ≠ "") with
  | none =>
      refine ⟨.idle, _, .goOn cluster.constructed rfl rfl, ?_⟩
      exact (suspend_setsCall (.done ())).of_recordEvent
  | some file =>
      refine ⟨.claiming remaining file cluster.constructed, _,
        .goOn (cluster.constructed + 1) rfl rfl, ?_⟩
      simp only [advance_of_now .construct rfl]
      exact advance_setsCall rfl

theorem execute_claim (file : String) (ref : Nat) :
    cluster.execute executor environment (.setNx (fileMutex file ref)) =
      cluster.reply environment
        (cluster.locks.claim cluster.now (fileKey file) (.generated ref) LOCK_TIMEOUT_IN_MSECS).1
        (cluster.locks.claim cluster.now (fileKey file) (.generated ref)
          LOCK_TIMEOUT_IN_MSECS).2 :=
  execute_setNx_of_ne_zero (Nat.succ_ne_zero _)

/-- Redis has been asked for the lock of a file. -/
theorem steps_of_claiming {remaining ref : Nat} {file : String} :
    Steps executor call (.claiming remaining file ref) cluster
      ((cluster.execute executor environment (.setNx (fileMutex file ref))).1.advance
        executor call environment
        (afterClaim executor remaining file (fileMutex file ref)
          (cluster.execute executor environment (.setNx (fileMutex file ref))).2)) := by
  rw [execute_claim]
  rcases reply_cases cluster environment
      (cluster.locks.claim cluster.now (fileKey file) (.generated ref) LOCK_TIMEOUT_IN_MSECS).1
      (cluster.locks.claim cluster.now (fileKey file) (.generated ref) LOCK_TIMEOUT_IN_MSECS).2
    with answered | ⟨error, rejected | lost⟩
  · rw [answered]
    by_cases free : cluster.locks.holder cluster.now (fileKey file) = none
    · have taken : (cluster.locks.claim cluster.now (fileKey file) (.generated ref)
          LOCK_TIMEOUT_IN_MSECS).2 = true := by rw [claim_of_free free]
      refine ⟨.processing remaining file ref, _, .begin remaining file ref free, ?_⟩
      simp only [taken, afterClaim, advance_of_now (.startRefresh _) rfl]
      exact advance_setsCall rfl
    · have refused : (cluster.locks.claim cluster.now (fileKey file) (.generated ref)
          LOCK_TIMEOUT_IN_MSECS).2 = false := by rw [claim_of_held free]
      refine ⟨FilePhase.next remaining, _, .attempt remaining file ref (lock_next remaining), ?_⟩
      simp only [refused, afterClaim]
      exact next_setsCall remaining
  · rw [rejected]
    exact ⟨.idle, _, .goOn cluster.constructed rfl rfl, suspend_setsCall (.fail error)⟩
  · rw [lost]
    exact ⟨.idle, _, .attempt remaining file ref rfl, suspend_setsCall (.fail error)⟩

/-- The processing of a file has settled. -/
theorem steps_of_processing {remaining ref : Nat} {file : String}
    (answer : Except Thrown Unit) :
    Steps executor call (.processing remaining file ref) cluster
      (cluster.advance executor call environment
        (afterWork executor remaining (fileMutex file ref) answer)) := by
  rcases answer with error | processed
  · refine ⟨.idle, _, .stop remaining file ref rfl, ?_⟩
    simp only [afterWork, advance_of_now (.stopRefresh _) rfl]
    exact suspend_setsCall (.fail error)
  · refine ⟨FilePhase.next remaining, _, .stop remaining file ref (lock_next remaining), ?_⟩
    simp only [afterWork, advance_of_now (.stopRefresh _) rfl]
    exact next_setsCall remaining

theorem Steps.of_recordEvent {phase : FilePhase} {event : Event}
    (steps : Steps executor call phase (cluster.recordEvent executor event) next) :
    Steps executor call phase cluster next := by
  obtain ⟨later, middle, step, sets⟩ := steps
  cases step with
  | goOn constructed unlocked still =>
      exact ⟨later, _, .goOn constructed unlocked still, sets.of_recordEvent⟩
  | attempt remaining file ref still =>
      exact ⟨later, _, .attempt remaining file ref still, sets.of_recordEvent⟩
  | begin remaining file ref free =>
      exact ⟨_, _, .begin remaining file ref free, sets.of_recordEvent⟩
  | stop remaining file ref still =>
      exact ⟨later, _, .stop remaining file ref still, sets.of_recordEvent⟩

/-- What a call does when it is answered, whatever the answer. -/
theorem steps_of_resume {phase : FilePhase}
    (waits : (cluster.nodes executor).calls call = phase.waitsFor executor)
    (steps : internalStep cluster (.resume executor call environment) = some next) :
    Steps executor call phase cluster next := by
  obtain ⟨command, continuation, waiting, rfl⟩ := stepOf_resume steps
  rw [waits] at waiting
  cases phase with
  | idle => cases waiting
  | fetching remaining =>
      rw [FilePhase.waitsFor, processFiles_succ] at waiting
      cases waiting
      exact (steps_of_fetching _).of_recordEvent
  | claiming remaining file ref =>
      cases waiting
      exact steps_of_claiming
  | processing remaining file ref =>
      cases waiting
      exact (steps_of_processing _).of_recordEvent

theorem steps_of_start {phase : FilePhase}
    (waits : (cluster.nodes executor).calls call = phase.waitsFor executor)
    (steps : internalStep cluster (.start executor call environment) = some next) :
    Steps executor call phase cluster next := by
  obtain ⟨⟨-, unstarted, -⟩, rfl⟩ := stepOf_start steps
  have unlocked : phase.lock = none := by
    rw [waits] at unstarted
    cases phase with
    | processing remaining file ref => cases unstarted
    | _ => rfl
  exact ⟨.next FILE_PROCESSING_BATCH_SIZE, _, .goOn cluster.constructed unlocked (lock_next _),
    next_setsCall _⟩

theorem steps_of_runs {phase : FilePhase} {label : Label}
    (waits : (cluster.nodes executor).calls call = phase.waitsFor executor)
    (runs : label.Runs executor call) (steps : internalStep cluster label = some next) :
    Steps executor call phase cluster next := by
  cases label with
  | start node method environment =>
      obtain ⟨rfl, rfl⟩ := runs
      exact steps_of_start waits steps
  | resume node method environment =>
      obtain ⟨rfl, rfl⟩ := runs
      exact steps_of_resume waits steps
  | _ => exact runs.elim

end Calls

/-! ## The cluster as leased work -/

abbrev FileWork : Type :=
  LeasedWork String Identifier (String × Call)

/-- The timers of a call refresh the lock of its phase. -/
def Serves (executor : String) (phase : FilePhase) (timer : RefreshTimer) : Prop :=
  timer.owner = executor ∧ phase.lock = some timer.mutex

/-- What a call works on, as its phase and the timers have it. -/
def WorksOn (executor : String) (timers : List RefreshTimer) (phase : FilePhase) :
    Option (Work String Identifier) → Prop
  | none => phase.lock = none
  | some work =>
      ∃ timer ∈ timers, Serves executor phase timer ∧
        work = ⟨timer.mutex.key, timer.mutex.identifier, timer.dueAt⟩

/-- The calls of the cluster are in the given phases, and work as the abstract
state has it. -/
structure Simulates (phases : String × Call → FilePhase) (work : FileWork)
    (cluster : Cluster) : Prop where
  now : work.now = cluster.now
  locks : work.locks = cluster.locks
  waits : ∀ worker : String × Call, (cluster.nodes worker.1).calls worker.2 =
    (phases worker).waitsFor worker.1
  works : ∀ worker, WorksOn worker.1 cluster.timers (phases worker) (work.works worker)
  timers : ∀ timer ∈ cluster.timers, ∃ worker, Serves worker.1 (phases worker) timer

section Simulation

variable {phases : String × Call → FilePhase} {work : FileWork} {cluster next : Cluster}

theorem lock_eq {phase : FilePhase} {mutex : Mutex} (locked : phase.lock = some mutex) :
    ∃ remaining file ref, phase = .processing remaining file ref ∧
      mutex = fileMutex file ref := by
  cases phase with
  | processing remaining file ref =>
      cases locked
      exact ⟨remaining, file, ref, rfl, rfl⟩
  | _ => cases locked

theorem WorksOn.mono {executor : String} {timers fewer : List RefreshTimer}
    {phase : FilePhase} {given : Option (Work String Identifier)}
    (worksOn : WorksOn executor timers phase given)
    (kept : ∀ timer ∈ timers, Serves executor phase timer → timer ∈ fewer) :
    WorksOn executor fewer phase given := by
  cases given with
  | none => exact worksOn
  | some given =>
      obtain ⟨timer, member, serves, rfl⟩ := worksOn
      exact ⟨timer, kept timer member serves, serves, rfl⟩

/-- The work of a call that refreshes a lock. -/
theorem Simulates.working_of_lock (simulates : Simulates phases work cluster)
    {worker : String × Call} {mutex : Mutex} (locked : (phases worker).lock = some mutex) :
    ∃ dueAt, work.works worker = some ⟨mutex.key, mutex.identifier, dueAt⟩ := by
  have worksOn := simulates.works worker
  cases working : work.works worker with
  | none =>
      rw [working, WorksOn, locked] at worksOn
      cases worksOn
  | some given =>
      rw [working] at worksOn
      obtain ⟨timer, -, ⟨-, serves⟩, rfl⟩ := worksOn
      rw [locked] at serves
      cases serves
      exact ⟨timer.dueAt, rfl⟩

/-- Only one call refreshes a lock. -/
theorem Simulates.serves_unique (simulates : Simulates phases work cluster)
    (sound : work.Sound LOCK_TIMEOUT_IN_MSECS LOCK_REFRESH_IN_MSECS)
    {first second : String × Call} {mutex : Mutex}
    (firstLock : (phases first).lock = some mutex)
    (secondLock : (phases second).lock = some mutex) : first = second := by
  obtain ⟨firstDue, firstWorks⟩ := simulates.working_of_lock firstLock
  obtain ⟨secondDue, secondWorks⟩ := simulates.working_of_lock secondLock
  exact sound.exclusive first second _ _ firstWorks secondWorks rfl

theorem Simulates.tick (simulates : Simulates phases work cluster)
    (early : ∀ timer ∈ cluster.timers, cluster.now < timer.dueAt) :
    work.Step LOCK_TIMEOUT_IN_MSECS LOCK_REFRESH_IN_MSECS none { work with now := work.now + 1 } ∧
      Simulates phases { work with now := work.now + 1 }
        { cluster with now := cluster.now + 1 } := by
  constructor
  · apply LeasedWork.Step.pass
    intro worker given working
    have worksOn := simulates.works worker
    rw [working] at worksOn
    obtain ⟨timer, member, -, rfl⟩ := worksOn
    rw [simulates.now]
    exact early timer member
  · exact ⟨congrArg (· + 1) simulates.now, simulates.locks, simulates.waits, simulates.works,
      simulates.timers⟩

theorem Simulates.fire (simulates : Simulates phases work cluster)
    (sound : work.Sound LOCK_TIMEOUT_IN_MSECS LOCK_REFRESH_IN_MSECS) {index : Nat}
    {timer : RefreshTimer} (atIndex : cluster.timers[index]? = some timer) :
    ∃ after, work.Step LOCK_TIMEOUT_IN_MSECS LOCK_REFRESH_IN_MSECS none after ∧
      Simulates phases after (cluster.fireTimer index timer) := by
  obtain ⟨worker, serves⟩ := simulates.timers timer (List.mem_of_getElem? atIndex)
  obtain ⟨dueAt, working⟩ := simulates.working_of_lock serves.2
  obtain ⟨remaining, file, ref, -, isFile⟩ := lock_eq serves.2
  have rearmed := rearmed_mem_fireTimer atIndex
  have interval : timer.mutex.refreshInterval = LOCK_REFRESH_IN_MSECS := by rw [isFile]; rfl
  have timeout : timer.mutex.lockTimeout = LOCK_TIMEOUT_IN_MSECS := by rw [isFile]; rfl
  refine ⟨_, .renew working (Nat.le_add_right _ _) (Nat.le_refl _), ?_⟩
  constructor
  · exact simulates.now
  · simp only [fireTimer, simulates.now, simulates.locks, timeout]
  · exact simulates.waits
  · intro other
    by_cases same : other = worker
    · subst same
      simp only [Function.update_self]
      refine ⟨_, rearmed, serves, ?_⟩
      simp only [simulates.now, interval]
    · simp only [Function.update_of_ne same]
      apply (simulates.works other).mono
      intro otherTimer member otherServes
      have different : otherTimer ≠ timer := by
        rintro rfl
        exact same (simulates.serves_unique sound otherServes.2 serves.2)
      exact other_mem_fireTimer atIndex different member
  · intro other member
    rcases mem_fireTimer member with earlier | rfl
    · exact simulates.timers other earlier
    · exact ⟨worker, serves⟩

/-- A crash ends the work of both calls of a node. -/
theorem Simulates.crash (simulates : Simulates phases work cluster) (executor : String) :
    ∃ works, (∀ worker, works worker = work.works worker ∨ works worker = none) ∧
      (∀ call, works (executor, call) = none) ∧
      Simulates (fun worker => if worker.1 = executor then .idle else phases worker)
        { work with works := works } (cluster.crashNode executor) := by
  refine ⟨fun worker => if worker.1 = executor then none else work.works worker, fun worker => ?_,
    fun call => if_pos rfl, ?_⟩
  · by_cases crashed : worker.1 = executor
    · exact .inr (if_pos crashed)
    · exact .inl (if_neg crashed)
  constructor
  · exact simulates.now
  · exact simulates.locks
  · intro worker
    by_cases crashed : worker.1 = executor
    · simp [crashNode, crashed, FilePhase.waitsFor]
    · simp only [crashNode, crashed, if_false, Function.update_of_ne crashed]
      exact simulates.waits worker
  · intro worker
    by_cases crashed : worker.1 = executor
    · simp only [crashed, if_true]
      rfl
    · simp only [crashed, if_false]
      apply (simulates.works worker).mono
      intro timer member serves
      have owner := serves.1
      simp [crashNode, member, owner, crashed]
  · intro timer member
    have owner : timer.owner ≠ executor := by simpa [crashNode] using List.of_mem_filter member
    obtain ⟨worker, serves⟩ := simulates.timers timer (List.mem_of_mem_filter member)
    refine ⟨worker, ?_⟩
    have alive : worker.1 ≠ executor := fun same => owner (serves.1.trans same)
    simp only [alive, if_false]
    exact serves

/-- A call goes on to a later phase.  Its own timers are the only ones that may
change. -/
theorem Simulates.setsCall (simulates : Simulates phases work cluster)
    (sound : work.Sound LOCK_TIMEOUT_IN_MSECS LOCK_REFRESH_IN_MSECS)
    {executor : String} {call : Call} {later : FilePhase} {after : FileWork}
    {middle : Cluster}
    (sets : SetsCall executor call (later.waitsFor executor) middle next)
    (now : after.now = middle.now) (locks : after.locks = middle.locks)
    (nodes : middle.nodes = cluster.nodes)
    (others : ∀ other, other ≠ (executor, call) → after.works other = work.works other)
    (own : WorksOn executor middle.timers later (after.works (executor, call)))
    (kept : ∀ timer ∈ cluster.timers, ¬ Serves executor (phases (executor, call)) timer →
      timer ∈ middle.timers)
    (only : ∀ timer ∈ middle.timers,
      timer ∈ cluster.timers ∧ ¬ Serves executor (phases (executor, call)) timer ∨
        Serves executor later timer) :
    Simulates (Function.update phases (executor, call) later) after next where
  now := now.trans sets.now.symm
  locks := locks.trans sets.locks.symm
  waits worker := by
    by_cases same : worker = (executor, call)
    · subst same
      simpa using sets.own
    · rw [Function.update_of_ne same, sets.others worker.1 worker.2 same, nodes]
      exact simulates.waits worker
  works worker := by
    rw [sets.timers]
    by_cases same : worker = (executor, call)
    · subst same
      simpa using own
    · rw [Function.update_of_ne same, others worker same]
      apply (simulates.works worker).mono
      intro timer member serves
      apply kept timer member
      intro ownServes
      exact same (simulates.serves_unique sound serves.2 ownServes.2)
  timers timer member := by
    rw [sets.timers] at member
    rcases only timer member with ⟨earlier, notOwn⟩ | serves
    · obtain ⟨worker, serves⟩ := simulates.timers timer earlier
      have different : worker ≠ (executor, call) := by
        rintro rfl
        exact notOwn serves
      exact ⟨worker, by rwa [Function.update_of_ne different]⟩
    · exact ⟨(executor, call), by simpa using serves⟩

theorem not_serves_of_unlocked {executor : String} {phase : FilePhase}
    (unlocked : phase.lock = none) (timer : RefreshTimer) : ¬ Serves executor phase timer := by
  rintro ⟨-, locked⟩
  rw [unlocked] at locked
  cases locked

theorem Simulates.idle (simulates : Simulates phases work cluster) {worker : String × Call}
    (unlocked : (phases worker).lock = none) : work.works worker = none := by
  have worksOn := simulates.works worker
  cases working : work.works worker with
  | none => rfl
  | some given =>
      rw [working] at worksOn
      obtain ⟨timer, -, serves, -⟩ := worksOn
      exact absurd serves (not_serves_of_unlocked unlocked timer)

/-- A step of a call is a step of the abstract machine. -/
theorem Simulates.callStep (simulates : Simulates phases work cluster)
    (sound : work.Sound LOCK_TIMEOUT_IN_MSECS LOCK_REFRESH_IN_MSECS)
    {executor : String} {call : Call} {phase later : FilePhase} {middle : Cluster}
    (inPhase : phases (executor, call) = phase)
    (steps : CallStep executor cluster phase later middle)
    (sets : SetsCall executor call (later.waitsFor executor) middle next) :
    ∃ attempted after,
      work.Step LOCK_TIMEOUT_IN_MSECS LOCK_REFRESH_IN_MSECS attempted after ∧
      Simulates (Function.update phases (executor, call) later) after next ∧
      (∀ key, attempted = some key → ∃ remaining file ref,
        phase = .claiming remaining file ref ∧ key = fileKey file) ∧
      (phase.lock ≠ none → ∃ works,
        (∀ other, works other = work.works other ∨ works other = none) ∧
        works (executor, call) = none ∧ after = { work with works := works }) := by
  have now := simulates.now
  have locks := simulates.locks
  cases steps with
  | goOn constructed unlocked still =>
      have unlocked' : (phases (executor, call)).lock = none := by rw [inPhase, unlocked]
      refine ⟨none, work, .stop work.works fun _ => .inl rfl, ?_, by simp,
        fun locked => absurd unlocked locked⟩
      apply simulates.setsCall sound sets now locks rfl
      · exact fun _ _ => rfl
      · rw [simulates.idle unlocked']
        exact still
      · exact fun timer member _ => member
      · exact fun timer member => .inl ⟨member, not_serves_of_unlocked unlocked' timer⟩
  | attempt remaining file ref still =>
      have unlocked : (phases (executor, call)).lock = none := by rw [inPhase]; rfl
      refine ⟨_, _, .attempt (fileKey file) (.generated ref), ?_, ?_,
        fun locked => absurd rfl locked⟩
      · apply simulates.setsCall sound sets
        · exact now
        · simp only [now, locks]
        · rfl
        · exact fun _ _ => rfl
        · rw [simulates.idle unlocked]
          exact still
        · exact fun timer member _ => member
        · exact fun timer member => .inl ⟨member, not_serves_of_unlocked unlocked timer⟩
      · rintro key ⟨⟩
        exact ⟨remaining, file, ref, rfl, rfl⟩
  | begin remaining file ref free =>
      have unlocked : (phases (executor, call)).lock = none := by rw [inPhase]; rfl
      have free' : work.locks.holder work.now (fileKey file) = none := by rw [locks, now, free]
      refine ⟨_, _, (.begin (.generated ref) (simulates.idle unlocked) free'), ?_, ?_,
        fun locked => absurd rfl locked⟩
      · apply simulates.setsCall sound sets
        · exact now
        · simp only [now, locks]
        · rfl
        · exact fun other different => Function.update_of_ne different _ _
        · simp only [Function.update_self]
          exact ⟨_, List.mem_cons_self, ⟨rfl, rfl⟩, by rw [now]; rfl⟩
        · exact fun timer member _ => List.mem_cons_of_mem _ member
        · intro timer member
          rcases List.mem_cons.mp member with rfl | earlier
          · exact .inr ⟨rfl, rfl⟩
          · exact .inl ⟨earlier, not_serves_of_unlocked unlocked timer⟩
      · rintro key ⟨⟩
        exact ⟨remaining, file, ref, rfl, rfl⟩
  | stop remaining file ref still =>
      have served (timer : RefreshTimer) :
          Serves executor (phases (executor, call)) timer ↔
            timer.owner = executor ∧ timer.mutex = fileMutex file ref := by
        simp only [Serves, inPhase, FilePhase.lock, Option.some.injEq, eq_comm]
      have fewer (other : String × Call) :
          Function.update work.works (executor, call) none other = work.works other ∨
            Function.update work.works (executor, call) none other = none := by
        by_cases same : other = (executor, call)
        · rw [same]
          exact .inr (Function.update_self _ _ _)
        · exact .inl (Function.update_of_ne same _ _)
      refine ⟨none, _, .stop _ fewer, ?_, by simp,
        fun _ => ⟨_, fewer, Function.update_self _ _ _, rfl⟩⟩
      apply simulates.setsCall sound sets
      · exact now
      · exact locks
      · rfl
      · exact fun other different => Function.update_of_ne different _ _
      · simp only [Function.update_self]
        exact still
      · intro timer member notOwn
        rw [served] at notOwn
        exact List.mem_filter.mpr ⟨member, decide_eq_true notOwn⟩
      · intro timer member
        obtain ⟨earlier, notOwn⟩ := List.mem_filter.mp member
        exact .inl ⟨earlier, fun serves => of_decide_eq_true notOwn ((served timer).mp serves)⟩

end Simulation

/-! ## Steps and runs -/

/-- Somebody asks for the lock of the file. -/
def Attempts (file : String) (cluster : Cluster) : Label → Prop
  | .resume executor call _ => ∃ mutex next,
      (cluster.nodes executor).calls call = some (.call (.setNx mutex) next) ∧
        mutex.key = fileKey file
  | _ => False

section Runs

variable {phases : String × Call → FilePhase} {work : FileWork} {cluster next : Cluster}

/-- Every step of the cluster is a step of the abstract machine. -/
theorem Simulates.step (simulates : Simulates phases work cluster)
    (sound : work.Sound LOCK_TIMEOUT_IN_MSECS LOCK_REFRESH_IN_MSECS) {label : Label}
    (steps : internalStep cluster label = some next) :
    ∃ attempted after later,
      work.Step LOCK_TIMEOUT_IN_MSECS LOCK_REFRESH_IN_MSECS attempted after ∧
      Simulates later after next ∧
      ∀ file, attempted = some (fileKey file) → Attempts file cluster label := by
  have ofCall {executor : String} {call : Call}
      (steps : Steps executor call (phases (executor, call)) cluster next) :
      ∃ attempted after later,
        work.Step LOCK_TIMEOUT_IN_MSECS LOCK_REFRESH_IN_MSECS attempted after ∧
        Simulates later after next ∧
        ∀ file, attempted = some (fileKey file) → ∃ mutex next,
          (cluster.nodes executor).calls call = some (.call (.setNx mutex) next) ∧
            mutex.key = fileKey file := by
    obtain ⟨later, middle, callStep, sets⟩ := steps
    obtain ⟨attempted, after, step, simulated, attempts, -⟩ :=
      simulates.callStep sound rfl callStep sets
    refine ⟨attempted, after, _, step, simulated, fun file asked => ?_⟩
    obtain ⟨remaining, claimed, ref, claims, same⟩ := attempts _ asked
    have waits := simulates.waits (executor, call)
    rw [claims] at waits
    exact ⟨_, _, waits, same.symm⟩
  cases label with
  | tick =>
      obtain ⟨early, rfl⟩ := stepOf_tick steps
      obtain ⟨step, simulated⟩ := simulates.tick early
      exact ⟨none, _, phases, step, simulated, by simp⟩
  | fire index =>
      obtain ⟨timer, atIndex, -, rfl⟩ := stepOf_fire steps
      obtain ⟨after, step, simulated⟩ := simulates.fire sound atIndex
      exact ⟨none, after, phases, step, simulated, by simp⟩
  | crash executor =>
      cases steps
      obtain ⟨works, fewer, -, simulated⟩ := simulates.crash executor
      exact ⟨none, _, _, .stop works fewer, simulated, by simp⟩
  | start executor call environment =>
      have waits := simulates.waits (executor, call)
      obtain ⟨⟨-, unstarted, -⟩, -⟩ := stepOf_start steps
      obtain ⟨attempted, after, later, step, simulated, attempts⟩ :=
        ofCall (steps_of_start waits steps)
      refine ⟨attempted, after, later, step, simulated, fun file asked => ?_⟩
      obtain ⟨mutex, continuation, waiting, -⟩ := attempts file asked
      rw [waiting] at unstarted
      cases unstarted
  | resume executor call environment =>
      exact ofCall (steps_of_resume (simulates.waits (executor, call)) steps)

/-- The cluster is in some phases, and its abstract state is sound. -/
def Represents (cluster : Cluster) (work : FileWork) : Prop :=
  work.Sound LOCK_TIMEOUT_IN_MSECS LOCK_REFRESH_IN_MSECS ∧
    ∃ phases, Simulates phases work cluster

theorem Represents.step {label : Label} (represents : Represents cluster work)
    (steps : internalStep cluster label = some next) :
    ∃ attempted after,
      work.Step LOCK_TIMEOUT_IN_MSECS LOCK_REFRESH_IN_MSECS attempted after ∧
      Represents next after ∧
      ∀ file, attempted = some (fileKey file) → Attempts file cluster label := by
  obtain ⟨sound, phases, simulates⟩ := represents
  obtain ⟨attempted, after, later, step, simulated, attempts⟩ := simulates.step sound steps
  have stillSound := sound.step (by decide) (by decide) step
  exact ⟨attempted, after, step, ⟨stillSound, later, simulated⟩, attempts⟩

theorem represents_initial (now : Nat) (locks : LeaseStore String Identifier) :
    Represents (AbstractPeriodicJob.initialCluster now locks) ⟨now, locks, fun _ => none⟩ := by
  constructor
  · constructor <;> simp
  · refine ⟨fun _ => .idle, rfl, rfl, fun _ => rfl, fun _ => rfl, fun timer member => ?_⟩
    cases member

theorem represents_of_run {now : Nat} {locks : LeaseStore String Identifier}
    {labels : List Label}
    (reaches : run internalStep (AbstractPeriodicJob.initialCluster now locks) labels =
      some cluster) : ∃ work, Represents cluster work := by
  apply run_invariant_of_step _ ⟨_, represents_initial now locks⟩ reaches
  intro state label next ⟨work, represents⟩ steps
  obtain ⟨attempted, after, -, represented, -⟩ := represents.step steps
  exact ⟨after, represented⟩

end Runs

end ProcessLogFilesJob

end ServiceTemplate.Jobs
