import Mathlib.Data.List.Basic

/-!
# Machines that answer their inputs

A machine answers every input and goes on to its next state.  Two rules compare
transcripts: inputs that leave the state alone may be removed without any other
answer changing, and a machine that is simulated by another one gives answers
that the other one admits.
-/

namespace ServiceTemplate

/-- What becomes of the state on an input, and the answer to the input. -/
abbrev Machine (State Input Answer : Type*) : Type _ :=
  State → Input → State × Answer

namespace Machine

section Definitions

variable {State Input Answer : Type*}

/-- The state after a list of inputs. -/
def final (machine : Machine State Input Answer) : State → List Input → State
  | state, [] => state
  | state, input :: inputs => final machine (machine state input).1 inputs

/-- The inputs with their answers, the first one first. -/
def transcript (machine : Machine State Input Answer) :
    State → List Input → List (Input × Answer)
  | _, [] => []
  | state, input :: inputs =>
      (input, (machine state input).2) ::
        transcript machine (machine state input).1 inputs

end Definitions

section Invariants

variable {State Input Answer : Type*} {machine : Machine State Input Answer}

/-- What every permitted input preserves holds after permitted inputs. -/
theorem final_invariant {property : State → Prop} {permitted : Input → Prop}
    (preserves : ∀ state input, property state → permitted input →
      property (machine state input).1)
    {state : State} {inputs : List Input} (initially : property state)
    (allPermitted : ∀ input ∈ inputs, permitted input) :
    property (machine.final state inputs) := by
  induction inputs generalizing state with
  | nil => exact initially
  | cons input inputs ih =>
      apply ih
      · exact preserves state input initially (allPermitted input List.mem_cons_self)
      · intro later member
        exact allPermitted later (List.mem_cons_of_mem input member)

end Invariants

section Silence

variable {State Input Answer : Type*} {machine : Machine State Input Answer}
variable {visible : Input → Bool}

/-- Inputs that leave every state alone may be left out. -/
theorem final_filter
    (silent : ∀ state input, visible input = false → (machine state input).1 = state)
    (state : State) (inputs : List Input) :
    machine.final state (inputs.filter visible) = machine.final state inputs := by
  induction inputs generalizing state with
  | nil => rfl
  | cons input inputs ih =>
      cases seen : visible input with
      | true =>
          rw [List.filter_cons_of_pos seen]
          exact ih (machine state input).1
      | false =>
          rw [List.filter_cons_of_neg (by simp [seen]), ih state, final,
            silent state input seen]

/-- The other inputs are answered as if those had not been made. -/
theorem transcript_filter
    (silent : ∀ state input, visible input = false → (machine state input).1 = state)
    (state : State) (inputs : List Input) :
    machine.transcript state (inputs.filter visible) =
      (machine.transcript state inputs).filter fun entry => visible entry.1 := by
  induction inputs generalizing state with
  | nil => rfl
  | cons input inputs ih =>
      cases seen : visible input with
      | true =>
          rw [List.filter_cons_of_pos seen, transcript, transcript, ih]
          simp [seen]
      | false =>
          rw [List.filter_cons_of_neg (by simp [seen]), ih, transcript,
            silent state input seen]
          simp [seen]

end Silence

section LastWrite

variable {State Input Answer Value : Type*} {machine : Machine State Input Answer}
variable {writes : State → Input → Option Value}

/-- None of the inputs writes, each in the state in which it is made. -/
def NeverWrites (machine : Machine State Input Answer) (writes : State → Input → Option Value)
    (state : State) (inputs : List Input) : Prop :=
  ∀ before input after, inputs = before ++ input :: after →
    writes (machine.final state before) input = none

/-- The value is what the last writing input wrote. -/
def WrittenLast (machine : Machine State Input Answer) (writes : State → Input → Option Value)
    (state : State) (inputs : List Input) (value : Value) : Prop :=
  ∃ before input after, inputs = before ++ input :: after ∧
    writes (machine.final state before) input = some value ∧
    machine.NeverWrites writes (machine.final state (before ++ [input])) after

theorem neverWrites_cons {state : State} {input : Input} {inputs : List Input} :
    machine.NeverWrites writes state (input :: inputs) ↔
      writes state input = none ∧ machine.NeverWrites writes (machine state input).1 inputs := by
  constructor
  · intro never
    refine ⟨never [] input inputs rfl, fun before later after split => ?_⟩
    apply never (input :: before) later after
    rw [split, List.cons_append]
  · rintro ⟨first, rest⟩ before later after split
    cases before with
    | nil =>
        obtain ⟨rfl, -⟩ := List.cons.inj split
        exact first
    | cons earlier before =>
        obtain ⟨rfl, same⟩ := List.cons.inj split
        exact rest before later after same

theorem writtenLast_cons {state : State} {input : Input} {inputs : List Input} {value : Value} :
    machine.WrittenLast writes state (input :: inputs) value ↔
      machine.WrittenLast writes (machine state input).1 inputs value ∨
        writes state input = some value ∧
          machine.NeverWrites writes (machine state input).1 inputs := by
  constructor
  · rintro ⟨before, writer, after, split, wrote, never⟩
    cases before with
    | nil =>
        obtain ⟨rfl, rfl⟩ := List.cons.inj split
        exact .inr ⟨wrote, never⟩
    | cons earlier before =>
        obtain ⟨rfl, same⟩ := List.cons.inj split
        exact .inl ⟨before, writer, after, same, wrote, never⟩
  · rintro (⟨before, writer, after, rfl, wrote, never⟩ | ⟨wrote, never⟩)
    · exact ⟨input :: before, writer, after, rfl, wrote, never⟩
    · exact ⟨[], input, inputs, rfl, wrote, never⟩

/-- The last write wins: what is observed after the inputs is what the last
writing input wrote, or what was observed before if none of them wrote. -/
theorem observe_final_eq_some_iff (observe : State → Option Value)
    (updates : ∀ state input, observe (machine state input).1 =
      (writes state input).or (observe state))
    {state : State} {inputs : List Input} {value : Value} :
    observe (machine.final state inputs) = some value ↔
      machine.WrittenLast writes state inputs value ∨
        machine.NeverWrites writes state inputs ∧ observe state = some value := by
  induction inputs generalizing state with
  | nil =>
      constructor
      · intro observed
        refine .inr ⟨fun before input after split => ?_, observed⟩
        simp at split
      · rintro (⟨before, input, after, split, -⟩ | ⟨-, observed⟩)
        · simp at split
        · exact observed
  | cons input inputs ih =>
      rw [final, ih, writtenLast_cons, neverWrites_cons, updates]
      cases wrote : writes state input with
      | none => simp
      | some written =>
          simp only [Option.some_or, Option.some.injEq, reduceCtorEq, false_and, or_false]
          rw [and_comm]

end LastWrite

section Simulation

variable {State Abstract Input Answer : Type*} {machine : Machine State Input Answer}

/-- A list of inputs with the answers that an abstract machine admits for them. -/
def Admissible (next : Abstract → Input → Abstract)
    (admits : Abstract → Input → Answer → Prop) :
    Abstract → List (Input × Answer) → Prop
  | _, [] => True
  | state, (input, answer) :: rest =>
      admits state input answer ∧ Admissible next admits (next state input) rest

/-- The rule of simulation: if related states give admitted answers and go on to
related states, the transcript is admissible and the last states are related. -/
theorem transcript_admissible {next : Abstract → Input → Abstract}
    {admits : Abstract → Input → Answer → Prop} {related : State → Abstract → Prop}
    {permitted : Input → Prop}
    (simulates : ∀ state abstract input, related state abstract → permitted input →
      admits abstract input (machine state input).2 ∧
        related (machine state input).1 (next abstract input))
    {state : State} {abstract : Abstract} (initially : related state abstract)
    {inputs : List Input} (allPermitted : ∀ input ∈ inputs, permitted input) :
    Admissible next admits abstract (machine.transcript state inputs) ∧
      related (machine.final state inputs) (inputs.foldl next abstract) := by
  induction inputs generalizing state abstract with
  | nil => exact ⟨trivial, initially⟩
  | cons input inputs ih =>
      have step := simulates state abstract input initially
        (allPermitted input List.mem_cons_self)
      have rest := ih step.2 fun later member =>
        allPermitted later (List.mem_cons_of_mem input member)
      exact ⟨⟨step.1, rest.1⟩, rest.2⟩

end Simulation

end Machine

end ServiceTemplate
