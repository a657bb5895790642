import Mathlib.Data.List.Basic
import Mathlib.Data.List.Induction

/-!
# Runs of a partial step function

A transition system is given by a partial step function from a state and a
label.  A run follows a list of labels.  The induction over runs is made once,
here: an invariant is established by one step lemma, and the labels of a run
may be restricted by a condition on the state in which each of them is taken.
-/

namespace ServiceTemplate

variable {State Label : Type*}

/-- Follow a list of labels, stopping at the first one that is not enabled. -/
def run (step : State → Label → Option State) :
    State → List Label → Option State
  | state, [] => some state
  | state, label :: labels =>
      match step state label with
      | none => none
      | some next => run step next labels

/-- Every label of a run is taken in a state that satisfies the condition. -/
def EachStep (step : State → Label → Option State)
    (condition : State → Label → Prop) : State → List Label → Prop
  | _, [] => True
  | state, label :: labels =>
      condition state label ∧
        ∀ next, step state label = some next →
          EachStep step condition next labels

/-- Every state of a run, the first one included, satisfies a property. -/
def EachState (step : State → Label → Option State)
    (property : State → Prop) : State → List Label → Prop
  | state, [] => property state
  | state, label :: labels =>
      property state ∧
        ∀ next, step state label = some next →
          EachState step property next labels

/-- What can be seen last in a run, when some of its steps let something be seen. -/
def lastSeen {Seen : Type*} (step : State → Label → Option State)
    (seen : State → Label → Option Seen) : State → List Label → Option Seen
  | _, [] => none
  | state, label :: labels =>
      match step state label with
      | none => none
      | some next => (lastSeen step seen next labels).or (seen state label)

section Runs

variable {step : State → Label → Option State}

theorem run_cons {state next : State} {label : Label} {labels : List Label}
    (stepTo : step state label = some next) :
    run step state (label :: labels) = run step next labels := by
  simp only [run, stepTo]

theorem run_cons_eq_some {first last : State} {label : Label}
    {labels : List Label}
    (reaches : run step first (label :: labels) = some last) :
    ∃ next, step first label = some next ∧
      run step next labels = some last := by
  cases stepTo : step first label with
  | none => simp [run, stepTo] at reaches
  | some next => exact ⟨next, rfl, by rwa [run_cons stepTo] at reaches⟩

theorem run_append {first middle : State} {labels : List Label}
    (reaches : run step first labels = some middle) (more : List Label) :
    run step first (labels ++ more) = run step middle more := by
  induction labels generalizing first with
  | nil => cases reaches; rfl
  | cons label labels ih =>
      obtain ⟨next, stepTo, rest⟩ := run_cons_eq_some reaches
      rw [List.cons_append, run_cons stepTo, ih rest]

theorem run_append_eq_some {first last : State} {labels more : List Label}
    (reaches : run step first (labels ++ more) = some last) :
    ∃ middle, run step first labels = some middle ∧ run step middle more = some last := by
  induction labels generalizing first with
  | nil => exact ⟨first, rfl, reaches⟩
  | cons label labels ih =>
      obtain ⟨next, stepTo, rest⟩ := run_cons_eq_some reaches
      obtain ⟨middle, before, after⟩ := ih rest
      exact ⟨middle, by rw [run_cons stepTo, before], after⟩

/-- The invariant rule: what one permitted step preserves, a run of permitted
steps preserves. -/
theorem run_invariant {condition : State → Label → Prop}
    {property : State → Prop}
    (preserves : ∀ state label next, property state →
      condition state label → step state label = some next → property next)
    {first last : State} {labels : List Label}
    (initially : property first)
    (permitted : EachStep step condition first labels)
    (reaches : run step first labels = some last) : property last := by
  induction labels generalizing first with
  | nil => cases reaches; exact initially
  | cons label labels ih =>
      obtain ⟨next, stepTo, rest⟩ := run_cons_eq_some reaches
      have nextHolds := preserves first label next initially permitted.1 stepTo
      exact ih nextHolds (permitted.2 next stepTo) rest

/-- What every step preserves, every run preserves. -/
theorem run_invariant_of_step {property : State → Prop}
    (preserves : ∀ state label next, property state → step state label = some next →
      property next)
    {first last : State} {labels : List Label} (initially : property first)
    (reaches : run step first labels = some last) : property last := by
  induction labels generalizing first with
  | nil => cases reaches; exact initially
  | cons label labels ih =>
      obtain ⟨next, stepTo, rest⟩ := run_cons_eq_some reaches
      exact ih (preserves first label next initially stepTo) rest

/-- A property may speak about the labels so far. -/
theorem run_history {property : List Label → State → Prop}
    (preserves : ∀ labels state label next, property labels state →
      step state label = some next → property (labels ++ [label]) next)
    {first last : State} {labels : List Label} (initially : property [] first)
    (reaches : run step first labels = some last) : property labels last := by
  induction labels using List.reverseRecOn generalizing last with
  | nil => cases reaches; exact initially
  | append_singleton labels label ih =>
      obtain ⟨middle, before, ends⟩ := run_append_eq_some reaches
      obtain ⟨next, stepTo, stops⟩ := run_cons_eq_some ends
      cases stops
      exact preserves labels middle label _ (ih before) stepTo

theorem lastSeen_cons {Seen : Type*} {seen : State → Label → Option Seen} {state next : State}
    {label : Label} {labels : List Label} (stepTo : step state label = some next) :
    lastSeen step seen state (label :: labels) =
      (lastSeen step seen next labels).or (seen state label) := by
  simp only [lastSeen, stepTo]

/-- A property of what has been seen last holds after a run, when a step that
lets something be seen establishes it and every other step preserves it. -/
theorem run_lastSeen {Seen : Type*} {seen : State → Label → Option Seen}
    {condition : State → Label → Prop} {property : Seen → State → Prop}
    (preserves : ∀ state label next last, property last state → condition state label →
      step state label = some next → property ((seen state label).getD last) next)
    {first last : State} {initial : Seen} {labels : List Label}
    (initially : property initial first) (permitted : EachStep step condition first labels)
    (reaches : run step first labels = some last) :
    property ((lastSeen step seen first labels).getD initial) last := by
  induction labels generalizing first initial with
  | nil => cases reaches; exact initially
  | cons label labels ih =>
      obtain ⟨next, stepTo, rest⟩ := run_cons_eq_some reaches
      have nextHolds := preserves first label next initial initially permitted.1 stepTo
      rw [lastSeen_cons stepTo, Option.getD_or]
      exact ih nextHolds (permitted.2 next stepTo) rest

theorem EachStep.of_forall {condition : State → Label → Prop}
    {labels : List Label}
    (holds : ∀ label ∈ labels, ∀ state, condition state label)
    (first : State) : EachStep step condition first labels := by
  induction labels generalizing first with
  | nil => trivial
  | cons label labels ih =>
      refine ⟨holds label (by simp) first, fun next _ => ?_⟩
      exact ih (fun later member => holds later (by simp [member])) next

theorem EachStep.mono {condition weaker : State → Label → Prop} {first : State}
    {labels : List Label} (holds : EachStep step condition first labels)
    (implies : ∀ state label, condition state label → weaker state label) :
    EachStep step weaker first labels := by
  induction labels generalizing first with
  | nil => trivial
  | cons label labels ih =>
      exact ⟨implies first label holds.1, fun next stepTo => ih (holds.2 next stepTo)⟩

theorem EachStep.cons {condition : State → Label → Prop} {state next : State}
    {label : Label} {labels : List Label} (stepTo : step state label = some next)
    (holds : condition state label) (rest : EachStep step condition next labels) :
    EachStep step condition state (label :: labels) := by
  refine ⟨holds, fun other steps => ?_⟩
  rw [stepTo] at steps
  cases steps
  exact rest

theorem eachStep_cons_iff {condition : State → Label → Prop} {state next : State}
    {label : Label} {labels : List Label} (stepTo : step state label = some next) :
    EachStep step condition state (label :: labels) ↔
      condition state label ∧ EachStep step condition next labels :=
  ⟨fun holds => ⟨holds.1, holds.2 next stepTo⟩,
    fun holds => EachStep.cons stepTo holds.1 holds.2⟩

theorem eachStep_cons_iff_of_disabled {condition : State → Label → Prop}
    {state : State} {label : Label} {labels : List Label}
    (disabled : step state label = none) :
    EachStep step condition state (label :: labels) ↔ condition state label := by
  constructor
  · exact And.left
  · intro holds
    refine ⟨holds, fun next stepTo => ?_⟩
    rw [disabled] at stepTo
    cases stepTo

instance EachStep.decidable {condition : State → Label → Prop}
    [∀ state label, Decidable (condition state label)] :
    (first : State) → (labels : List Label) →
      Decidable (EachStep step condition first labels)
  | _, [] => isTrue trivial
  | state, label :: labels =>
      match stepTo : step state label with
      | none => decidable_of_iff _ (eachStep_cons_iff_of_disabled stepTo).symm
      | some next =>
          have : Decidable (EachStep step condition next labels) := EachStep.decidable next labels
          decidable_of_iff (condition state label ∧ EachStep step condition next labels)
            (eachStep_cons_iff stepTo).symm

theorem EachState.first {property : State → Prop} {first : State}
    {labels : List Label} (holds : EachState step property first labels) :
    property first := by
  cases labels with
  | nil => exact holds
  | cons label labels => exact holds.1

theorem EachState.cons {property : State → Prop} {state next : State} {label : Label}
    {labels : List Label} (stepTo : step state label = some next) (holds : property state)
    (rest : EachState step property next labels) :
    EachState step property state (label :: labels) := by
  refine ⟨holds, fun other steps => ?_⟩
  rw [stepTo] at steps
  cases steps
  exact rest

theorem EachState.eachStep {property : State → Prop} {first : State}
    {labels : List Label} (holds : EachState step property first labels) :
    EachStep step (fun state _ => property state) first labels := by
  induction labels generalizing first with
  | nil => trivial
  | cons label labels ih =>
      exact ⟨holds.1, fun next stepTo => ih (holds.2 next stepTo)⟩

/-- A condition may speak about the state that a label leads to. -/
theorem EachStep.of_eachState {condition : State → Label → Prop} {property : State → Prop}
    {first : State} {labels : List Label}
    (enough : ∀ label ∈ labels, ∀ state,
      (∀ next, step state label = some next → property next) → condition state label)
    (holds : EachState step property first labels) :
    EachStep step condition first labels := by
  induction labels generalizing first with
  | nil => trivial
  | cons label labels ih =>
      constructor
      · apply enough label List.mem_cons_self
        exact fun next stepTo => (holds.2 next stepTo).first
      · intro next stepTo
        apply ih _ (holds.2 next stepTo)
        exact fun later member => enough later (List.mem_cons_of_mem _ member)

/-- The states of a run are those that its first labels lead to. -/
theorem eachState_iff {property : State → Prop} {first : State} {labels : List Label} :
    EachState step property first labels ↔
      ∀ before after state, labels = before ++ after →
        run step first before = some state → property state := by
  constructor
  · intro holds before
    induction before generalizing first labels with
    | nil =>
        rintro after state rfl reaches
        cases reaches
        exact holds.first
    | cons label before ih =>
        rintro after state rfl reaches
        obtain ⟨next, stepTo, rest⟩ := run_cons_eq_some reaches
        exact ih (holds.2 next stepTo) after state rfl rest
  · induction labels generalizing first with
    | nil =>
        intro holds
        exact holds [] [] first rfl rfl
    | cons label labels ih =>
        intro holds
        constructor
        · exact holds [] (label :: labels) first rfl rfl
        · intro next stepTo
          apply ih
          intro before after state split reaches
          apply holds (label :: before) after state (by rw [split, List.cons_append])
          rw [run_cons stepTo, reaches]

/-- When a condition is both enough and needed for a step to keep the invariant
up, the states of a run have the property that the invariant implies if and only
if every step of the run meets the condition. -/
theorem eachState_iff_eachStep {condition : State → Label → Prop}
    {invariant property : State → Prop}
    (holds : ∀ state, invariant state → property state)
    (preserves : ∀ state label next, invariant state → step state label = some next →
      condition state label → invariant next)
    (needed : ∀ state label next, invariant state → step state label = some next →
      property next → condition state label)
    (disabled : ∀ state label, step state label = none → condition state label)
    {first : State} {labels : List Label} (initially : invariant first) :
    EachState step property first labels ↔ EachStep step condition first labels := by
  induction labels generalizing first with
  | nil => exact iff_of_true (holds first initially) trivial
  | cons label labels ih =>
      constructor
      · rintro ⟨-, rest⟩
        have met : condition first label := by
          cases stepTo : step first label with
          | none => exact disabled first label stepTo
          | some next => exact needed first label next initially stepTo (rest next stepTo).first
        refine ⟨met, fun other reached => ?_⟩
        exact (ih (preserves first label other initially reached met)).mp (rest other reached)
      · rintro ⟨met, rest⟩
        refine ⟨holds first initially, fun other reached => ?_⟩
        exact (ih (preserves first label other initially reached met)).mpr (rest other reached)

end Runs

end ServiceTemplate
