import Zangpu.Foundation.Program

/-!
Programs run by themselves.

Owns: environments that answer every interaction at once; the execution of a
program in such an environment to its end; and the rules for what a routine
returns or raises and in which world it leaves off.

Does not own: programs with a child task or a consumer, whose execution stops
at the first such interaction.
-/

set_option autoImplicit false

namespace Zangpu.Foundation

/-- An environment with a world of its own that answers at once. -/
structure Responder (I : Interface) (World : Type) where
  read : I.Clock → World → Int × World
  answer : (call : I.Call) → World → Except I.Failure (I.Answer call) × World

section Execution

variable {I : Interface} {World : Type} (responder : Responder I World)

/-- Run a program to its end; `none` when it does not get there. -/
def Program.execute {Result : Type} : Program I Result → World → Option Result × World
  | .done result, world => (some result, world)
  | .observe clock next, world =>
      (next (responder.read clock world).1).execute (responder.read clock world).2
  | .await call next, world | .perform call next, world =>
      (next (responder.answer call world).1).execute (responder.answer call world).2
  | .stuck, world | .spawn _ _, world | .wait _ _ _, world | .abandon _ _, world
  | .emit _ _, world => (none, world)

variable {First Second Locals : Type}

theorem Program.execute_bind (program : Program I First) (rest : First → Program I Second)
    (world : World) :
    (program.bind rest).execute responder world =
      match program.execute responder world with
      | (some result, reached) => (rest result).execute responder reached
      | (none, reached) => (none, reached) := by
  induction program generalizing world with
  | done result => rfl
  | observe clock next inductionHypothesis => exact inductionHypothesis _ _
  | await call next inductionHypothesis => exact inductionHypothesis _ _
  | perform call next inductionHypothesis => exact inductionHypothesis _ _
  | stuck => rfl
  | spawn call next _ => rfl
  | wait call timeout next _ => rfl
  | abandon call next _ => rfl
  | emit frame next _ => rfl

theorem Program.execute_bind_of_ended {program : Program I First} {result : First}
    {world reached : World} (ended : program.execute responder world = (some result, reached))
    (rest : First → Program I Second) :
    (program.bind rest).execute responder world = (rest result).execute responder reached := by
  rw [Program.execute_bind, ended]

/-- The routine ends, and its outcome meets the goal. -/
def Executes (routine : Routine I Locals First) (locals : Locals) (world : World)
    (goal : Except I.Failure First → Locals → World → Prop) : Prop :=
  ∃ outcome left reached,
    (routine.start locals).execute responder world = (some (outcome, left), reached) ∧
      goal outcome left reached

variable {responder} {locals : Locals} {world : World}

theorem Executes.mono {routine : Routine I Locals First}
    {goal weaker : Except I.Failure First → Locals → World → Prop}
    (executes : Executes responder routine locals world goal)
    (weaken : ∀ outcome left reached, goal outcome left reached → weaker outcome left reached) :
    Executes responder routine locals world weaker := by
  obtain ⟨outcome, left, reached, ended, holds⟩ := executes
  exact ⟨outcome, left, reached, ended, weaken outcome left reached holds⟩

theorem Executes.pure {value : First} {goal : Except I.Failure First → Locals → World → Prop}
    (holds : goal (.ok value) locals world) :
    Executes responder (Pure.pure value : Routine I Locals First) locals world goal :=
  ⟨_, _, _, rfl, holds⟩

theorem Executes.throw {failure : I.Failure}
    {goal : Except I.Failure First → Locals → World → Prop}
    (holds : goal (.error failure) locals world) :
    Executes responder (MonadExcept.throw failure : Routine I Locals First) locals world goal :=
  ⟨_, _, _, rfl, holds⟩

theorem Executes.await {call : I.Call}
    {goal : Except I.Failure (I.Answer call) → Locals → World → Prop}
    (holds : goal (responder.answer call world).1 locals (responder.answer call world).2) :
    Executes responder (Routine.await call : Routine I Locals _) locals world goal :=
  ⟨_, _, _, rfl, holds⟩

theorem Executes.perform {call : I.Call}
    {goal : Except I.Failure (I.Answer call) → Locals → World → Prop}
    (holds : goal (responder.answer call world).1 locals (responder.answer call world).2) :
    Executes responder (Routine.perform call : Routine I Locals _) locals world goal :=
  ⟨_, _, _, rfl, holds⟩

/-- Sequencing: a failure of the first part is the failure of the whole. -/
theorem Executes.bind {routine : Routine I Locals First} {rest : First → Routine I Locals Second}
    {goal : Except I.Failure Second → Locals → World → Prop}
    (executes : Executes responder routine locals world fun outcome left reached =>
      match outcome with
      | .ok value => Executes responder (rest value) left reached goal
      | .error failure => goal (.error failure) left reached) :
    Executes responder (routine >>= rest) locals world goal := by
  obtain ⟨outcome, left, reached, ended, holds⟩ := executes
  cases outcome with
  | ok value =>
      obtain ⟨last, final, end_, finished, met⟩ := holds
      refine ⟨last, final, end_, ?_, met⟩
      rw [← finished]
      exact Program.execute_bind_of_ended responder ended _
  | error failure =>
      refine ⟨.error failure, left, reached, ?_, holds⟩
      exact Program.execute_bind_of_ended responder ended _

/-- Exception handling: the handler runs in the world left behind. -/
theorem Executes.tryCatch {routine : Routine I Locals First}
    {handler : I.Failure → Routine I Locals First}
    {goal : Except I.Failure First → Locals → World → Prop}
    (executes : Executes responder routine locals world fun outcome left reached =>
      match outcome with
      | .ok value => goal (.ok value) left reached
      | .error failure => Executes responder (handler failure) left reached goal) :
    Executes responder (MonadExcept.tryCatch routine handler) locals world goal := by
  obtain ⟨outcome, left, reached, ended, holds⟩ := executes
  cases outcome with
  | ok value =>
      refine ⟨.ok value, left, reached, ?_, holds⟩
      exact Program.execute_bind_of_ended responder ended _
  | error failure =>
      obtain ⟨last, final, end_, finished, met⟩ := holds
      refine ⟨last, final, end_, ?_, met⟩
      rw [← finished]
      exact Program.execute_bind_of_ended responder ended _

end Execution

end Zangpu.Foundation
