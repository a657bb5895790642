import ServiceTemplate.Foundations.Program

/-!
# What a program spends

Every command has a price.  A bound on what a program spends holds on each of
its paths, whatever its commands are answered.  Bounds add up along a sequence,
through `try`/`catch` and through `finally`.
-/

namespace ServiceTemplate

variable {Command : Type} {Answer : Command → Type} {Error Value Result : Type}

/-- The mode is what is left to spend. -/
def budget (price : Command → Nat) : Contract Answer Error Nat where
  allows left command := price command ≤ left
  moves left command _ later := later + price command = left

/-- What the commands cost together. -/
def total (price : Command → Nat) : List Command → Nat
  | [] => 0
  | command :: commands => price command + total price commands

theorem total_append (price : Command → Nat) (commands more : List Command) :
    total price (commands ++ more) = total price commands + total price more := by
  induction commands with
  | nil => exact (Nat.zero_add _).symm
  | cons command commands ih => rw [List.cons_append, total, total, ih, Nat.add_assoc]

/-- Where the selected commands cost something, their number is bounded by the
total. -/
theorem countP_le_total {price : Command → Nat} {selected : Command → Bool}
    (priced : ∀ command, selected command = true → 1 ≤ price command) (commands : List Command) :
    commands.countP selected ≤ total price commands := by
  induction commands with
  | nil => exact Nat.le_refl 0
  | cons command commands ih =>
      rw [List.countP_cons, total]
      split
      · next isSelected =>
        have cost := priced command isSelected
        omega
      · omega

namespace Program

/-- On each of its paths the program leaves what exceeds the bound. -/
def Spends (price : Command → Nat) (most : Nat) (program : Program Answer Error Value) :
    Prop :=
  ∀ spare, program.Follows (budget price) (most + spare) fun left _ => spare ≤ left

variable {price : Command → Nat} {most more : Nat} {program : Program Answer Error Value}

theorem spends_done (value : Value) (most : Nat) :
    (done value : Program Answer Error Value).Spends price most :=
  fun spare => Nat.le_add_left spare most

theorem spends_fail (error : Error) (most : Nat) :
    (fail error : Program Answer Error Value).Spends price most :=
  fun spare => Nat.le_add_left spare most

theorem spends_perform {command : Command} (affordable : price command ≤ most) :
    (perform command : Program Answer Error _).Spends price most := by
  intro spare
  apply Follows.perform
  · exact Nat.le_trans affordable (Nat.le_add_right most spare)
  · intro answer later moved
    have spent : later + price command = most + spare := moved
    omega

/-- Started with more than it spends, the program leaves the difference. -/
theorem Spends.leaves {left spare : Nat} (spends : program.Spends price most)
    (enough : most + spare ≤ left) :
    program.Follows (budget price) left fun last _ => spare ≤ last := by
  have follows := spends (left - most)
  have same : most + (left - most) = left := by omega
  rw [same] at follows
  apply follows.mono
  intro last outcome kept
  omega

theorem Spends.mono (spends : program.Spends price most) (enough : most ≤ more) :
    program.Spends price more := by
  intro spare
  apply spends.leaves
  omega

theorem Spends.bind {next : Value → Program Answer Error Result}
    (first : program.Spends price most) (rest : ∀ value, (next value).Spends price more) :
    (program.bind next).Spends price (most + more) := by
  intro spare
  have enough : most + (more + spare) ≤ most + more + spare := by omega
  refine Follows.bind ((first.leaves enough).mono ?_)
  rintro left (error | value) kept
  · exact Nat.le_trans (Nat.le_add_left spare more) kept
  · exact (rest value).leaves kept

theorem Spends.tryCatch {handler : Error → Program Answer Error Value}
    (first : program.Spends price most) (catches : ∀ error, (handler error).Spends price more) :
    (program.tryCatch handler).Spends price (most + more) := by
  intro spare
  have enough : most + (more + spare) ≤ most + more + spare := by omega
  refine Follows.tryCatch ((first.leaves enough).mono ?_)
  rintro left (error | value) kept
  · exact (catches error).leaves kept
  · exact Nat.le_trans (Nat.le_add_left spare more) kept

theorem Spends.tryFinally {cleanup : Program Answer Error Unit}
    (first : program.Spends price most) (cleans : cleanup.Spends price more) :
    (program.tryFinally cleanup).Spends price (most + more) := by
  intro spare
  have enough : most + (more + spare) ≤ most + more + spare := by omega
  refine Follows.tryFinally ((first.leaves enough).mono ?_)
  intro left outcome kept
  apply (cleans.leaves kept).mono
  rintro last (error | value) leftOver
  · exact leftOver
  · exact leftOver

/-- What has been paid for a command is not left for the rest. -/
theorem Spends.of_call {command : Command}
    {next : Except Error (Answer command) → Program Answer Error Value}
    (spends : (call command next).Spends price most) :
    price command ≤ most ∧ ∀ answer, (next answer).Spends price (most - price command) := by
  have affordable : price command ≤ most := (spends 0).1
  refine ⟨affordable, fun answer spare => ?_⟩
  apply (spends spare).2 answer
  show most - price command + spare + price command = most + spare
  omega

/-- The commands executed at once do not raise the bound. -/
theorem Spends.settle {State : Type}
    {interpret : State → (command : Command) → Option (State × Except Error (Answer command))}
    (spends : program.Spends price most) (state : State) :
    (settle interpret state program).2.Spends price most := by
  let bounded (_ : State) (rest : Program Answer Error Value) : Prop := rest.Spends price most
  show bounded (Program.settle interpret state program).1
    (Program.settle interpret state program).2
  refine settle_invariant ?_ state program spends
  intro reached command next changed answer holds interpreted
  exact ((holds : Spends price most _).of_call.2 answer).mono (Nat.sub_le _ _)

end Program

end ServiceTemplate
