import ServiceTemplate.Jobs.LogFiles
import ServiceTemplate.Jobs.MutualExclusion

/-!
# One executor for each file

A file is processed by the executor that has just acquired its lock, by no two
executors at once, and not again for some time after it has been processed.
-/

namespace ServiceTemplate.Jobs

open LeaseStore Cluster

namespace ProcessLogFilesJob

/-- The call asks for the lock of the file, which is free, and gets it. -/
def Acquires (file executor : String) (call : Call) (cluster next : Cluster) : Prop :=
  ∃ mutex continuation,
    (cluster.nodes executor).calls call = some (.call (.setNx mutex) continuation) ∧
      mutex.key = fileKey file ∧
      cluster.locks.holder cluster.now (fileKey file) = none ∧
      next.locks (fileKey file) =
        some ⟨mutex.identifier, next.now + LOCK_TIMEOUT_IN_MSECS⟩

section

variable {cluster next : Cluster} {work : FileWork} {executor file : String} {call : Call}

theorem processing_of_awaits {phase : FilePhase}
    (awaits : awaitedTask (phase.waitsFor executor) = some (.processFile file)) :
    ∃ remaining ref, phase = .processing remaining file ref := by
  cases phase with
  | idle => cases awaits
  | fetching remaining =>
      rw [FilePhase.waitsFor, processFiles_succ] at awaits
      cases awaits
  | claiming remaining claimed ref => cases awaits
  | processing remaining processed ref =>
      cases awaits
      exact ⟨remaining, ref, rfl⟩

/-- A call that processes a file refreshes its lock. -/
theorem Simulates.locked_of_awaits {phases : String × Call → FilePhase}
    (simulates : Simulates phases work cluster)
    (awaits : cluster.Awaits executor call (.processFile file)) :
    ∃ ref, (phases (executor, call)).lock = some (fileMutex file ref) := by
  rw [Awaits, simulates.waits (executor, call)] at awaits
  obtain ⟨remaining, ref, processing⟩ := processing_of_awaits awaits
  exact ⟨ref, by rw [processing]; rfl⟩

/-- A call that processes a file works on the key of the file. -/
theorem Represents.works_of_awaits (represents : Represents cluster work)
    (awaits : cluster.Awaits executor call (.processFile file)) :
    ∃ given, work.works (executor, call) = some given ∧ given.key = fileKey file := by
  obtain ⟨-, phases, simulates⟩ := represents
  obtain ⟨ref, locked⟩ := simulates.locked_of_awaits awaits
  obtain ⟨dueAt, works⟩ := simulates.working_of_lock locked
  exact ⟨_, works, rfl⟩

theorem Represents.acquires (represents : Represents cluster work) {label : Label}
    (runs : label.Runs executor call) (steps : internalStep cluster label = some next)
    (awaits : next.Awaits executor call (.processFile file)) :
    Acquires file executor call cluster next := by
  obtain ⟨-, phases, simulates⟩ := represents
  have waits := simulates.waits (executor, call)
  obtain ⟨later, middle, callStep, sets⟩ := steps_of_runs waits runs steps
  rw [Awaits, sets.own] at awaits
  obtain ⟨remaining, ref, processing⟩ := processing_of_awaits awaits
  subst processing
  generalize phases (executor, call) = phase at waits callStep
  cases callStep with
  | begin remaining file ref free =>
      refine ⟨_, _, waits, rfl, free, ?_⟩
      rw [sets.locks, sets.now]
      simp only [claim_of_free free, Function.update_self]
      rfl
  | goOn constructed unlocked still => cases still
  | attempt remaining file ref still => cases still
  | stop remaining file ref still => cases still

theorem Represents.exclusive (represents : Represents cluster work)
    {other : String} {method : Call}
    (first : cluster.Awaits executor call (.processFile file))
    (second : cluster.Awaits other method (.processFile file)) :
    executor = other ∧ call = method := by
  obtain ⟨firstWork, firstWorks, firstKey⟩ := represents.works_of_awaits first
  obtain ⟨secondWork, secondWorks, secondKey⟩ := represents.works_of_awaits second
  have same := represents.1.exclusive _ _ _ _ firstWorks secondWorks (by rw [firstKey, secondKey])
  exact Prod.mk.inj same

/-- After the processing of a file has ended, its key rests. -/
theorem Represents.ended (represents : Represents cluster work) {label : Label}
    (awaits : cluster.Awaits executor call (.processFile file))
    (ends : label.Ends executor call) (steps : internalStep cluster label = some next) :
    ∃ after, Represents next after ∧
      after.RestsUntil (fileKey file)
        (cluster.now + (LOCK_TIMEOUT_IN_MSECS - LOCK_REFRESH_IN_MSECS)) ∧
      after.EndsBy (fileKey file) (cluster.now + LOCK_TIMEOUT_IN_MSECS) := by
  obtain ⟨given, working, key⟩ := represents.works_of_awaits awaits
  obtain ⟨sound, phases, simulates⟩ := represents
  have stopped : ∃ works later,
      (∀ worker, works worker = work.works worker ∨ works worker = none) ∧
      works (executor, call) = none ∧ Simulates later { work with works := works } next := by
    cases label with
    | crash node =>
        cases ends
        cases steps
        obtain ⟨works, fewer, stops, simulated⟩ := simulates.crash executor
        exact ⟨works, _, fewer, stops call, simulated⟩
    | resume node method environment =>
        obtain ⟨rfl, rfl⟩ := ends
        obtain ⟨later, middle, callStep, sets⟩ :=
          steps_of_resume (simulates.waits (node, method)) steps
        obtain ⟨attempted, after, -, simulated, -, stopping⟩ :=
          simulates.callStep sound rfl callStep sets
        obtain ⟨ref, locked⟩ := simulates.locked_of_awaits awaits
        obtain ⟨works, fewer, stops, rfl⟩ := stopping (by simp [locked])
        exact ⟨works, _, fewer, stops, simulated⟩
    | _ => exact ends.elim
  obtain ⟨works, later, fewer, stops, simulated⟩ := stopped
  have stillSound := sound.stop fewer
  obtain ⟨rests, endsBy⟩ := sound.stopped (by decide) working fewer stops
  rw [key] at rests endsBy
  rw [← simulates.now]
  exact ⟨_, ⟨stillSound, later, simulated⟩, rests, endsBy⟩

/-- While a key rests, nobody processes its file. -/
theorem rests_of_run {last : Cluster} {labels : List Label} {instant : Nat}
    (represents : Represents cluster work) (rests : work.RestsUntil (fileKey file) instant)
    (reaches : run internalStep cluster labels = some last)
    (awaits : last.Awaits executor call (.processFile file)) : instant ≤ last.now := by
  have resting : ∃ work, Represents last work ∧ work.RestsUntil (fileKey file) instant := by
    apply run_invariant_of_step _ ⟨work, represents, rests⟩ reaches
    intro state label next ⟨work, represents, rests⟩ steps
    obtain ⟨attempted, after, step, represented, -⟩ := represents.step steps
    exact ⟨after, represented, rests.step step⟩
  obtain ⟨atLast, represented, restsStill⟩ := resting
  obtain ⟨given, works, key⟩ := represented.works_of_awaits awaits
  by_contra early
  obtain ⟨-, phases, simulates⟩ := represented
  have before : atLast.now < instant := by
    rw [simulates.now]
    exact Nat.lt_of_not_le early
  exact (restsStill before).1 _ given works key

/-- A key that nobody asks for becomes free. -/
theorem free_of_run {last : Cluster} {labels : List Label} {instant : Nat}
    (represents : Represents cluster work) (ends : work.EndsBy (fileKey file) instant)
    (unattempted : EachStep internalStep (fun state label => ¬ Attempts file state label)
      cluster labels)
    (reaches : run internalStep cluster labels = some last) (later : instant < last.now) :
    last.locks.holder last.now (fileKey file) = none := by
  have ending : ∃ work, Represents last work ∧ work.EndsBy (fileKey file) instant := by
    apply run_invariant _ ⟨work, represents, ends⟩ unattempted reaches
    intro state label next ⟨work, represents, ends⟩ unasked steps
    obtain ⟨attempted, after, step, represented, attempts⟩ := represents.step steps
    have elsewhere : attempted ≠ some (fileKey file) := fun asked => unasked (attempts file asked)
    exact ⟨after, represented, ends.step step elsewhere⟩
  obtain ⟨atLast, ⟨-, phases, simulates⟩, endsStill⟩ := ending
  rw [← simulates.locks, ← simulates.now]
  apply endsStill.free
  rw [simulates.now]
  exact later

end

/-- Whatever the lock store held at first, whatever the files are and however
their processing ends: a file is processed by the executor that has just
acquired its lock, by no two executors at once, not again for a while after its
processing has ended, and its lock ends soon after if nobody asks for it. -/
theorem file_processed_exclusively (now : Nat) (locks : LeaseStore String Identifier)
    (labels : List Label) (cluster : Cluster)
    (reaches : run internalStep (AbstractPeriodicJob.initialCluster now locks) labels =
      some cluster) (file executor : String) (call : Call) :
    (∀ label next, label.Runs executor call → internalStep cluster label = some next →
      next.Awaits executor call (.processFile file) →
        Acquires file executor call cluster next) ∧
    (cluster.Awaits executor call (.processFile file) →
      (∀ other method, cluster.Awaits other method (.processFile file) →
        executor = other ∧ call = method) ∧
      ∀ label ended, label.Ends executor call → internalStep cluster label = some ended →
        ∀ later last, run internalStep ended later = some last →
          (∀ other method, last.Awaits other method (.processFile file) →
            cluster.now + (LOCK_TIMEOUT_IN_MSECS - LOCK_REFRESH_IN_MSECS) ≤ last.now) ∧
          (EachStep internalStep (fun state label => ¬ Attempts file state label) ended later →
            cluster.now + LOCK_TIMEOUT_IN_MSECS < last.now →
              last.locks.holder last.now (fileKey file) = none)) := by
  obtain ⟨work, represents⟩ := represents_of_run reaches
  constructor
  · intro label next runs steps awaits
    exact represents.acquires runs steps awaits
  intro awaits
  constructor
  · intro other method otherAwaits
    exact represents.exclusive awaits otherAwaits
  intro label ended ends steps later last reachesLast
  obtain ⟨after, represented, rests, endsBy⟩ := represents.ended awaits ends steps
  constructor
  · intro other method otherAwaits
    exact rests_of_run represented rests reachesLast otherAwaits
  · intro unattempted passed
    exact free_of_run represented endsBy unattempted reachesLast passed

/-- There is always the same file to process. -/
def findsUserLog : Environment :=
  { allSucceeds with
    task
      | .getUnprocessedLogFile => .ok (some "users.log")
      | .deleteOldUsers | .sendEmails | .processFile _ => .ok ()
      | .other _ => .ok "" }

/-- A node starts a batch, is given the file, and gets its lock. -/
def claimsUserLog : List Label :=
  [.start "a" .process findsUserLog, .resume "a" .process findsUserLog,
    .resume "a" .process findsUserLog]

/-- The node crashes while it processes the file. -/
theorem userLog_processed_exclusively :
    ∃ cluster ended, run internalStep (AbstractPeriodicJob.initialCluster 0 fun _ => none)
        claimsUserLog = some cluster ∧
      cluster.Awaits "a" .process (.processFile "users.log") ∧
      internalStep cluster (.crash "a") = some ended ∧
      ∀ later last, run internalStep ended later = some last →
        ∀ other method, last.Awaits other method (.processFile "users.log") →
          50000 ≤ last.now := by
  have processes : (run internalStep (AbstractPeriodicJob.initialCluster 0 fun _ => none)
      claimsUserLog).any (fun cluster => decide
        (cluster.now = 0 ∧ cluster.Awaits "a" .process (.processFile "users.log"))) = true := by
    decide
  obtain ⟨cluster, reaches, holds⟩ := (Option.any_eq_true _ _).mp processes
  obtain ⟨now, awaits⟩ := of_decide_eq_true holds
  have exclusively := file_processed_exclusively 0 _ claimsUserLog cluster reaches
    "users.log" "a" .process
  refine ⟨cluster, _, reaches, awaits, rfl, fun later last reachesLast other method again => ?_⟩
  obtain ⟨-, backsOff⟩ := exclusively.2 awaits
  have rested := (backsOff (.crash "a") _ rfl rfl later last reachesLast).1 other method again
  rw [now] at rested
  exact rested

end ProcessLogFilesJob

end ServiceTemplate.Jobs
