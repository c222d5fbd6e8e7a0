import Mathlib.Tactic.Common

/-!
Inversion of fallible computations.

Owns: the guard that fails with a given error; the laws that take a successful
`Except` computation apart, one step at a time; and the rules for the errors a
computation can end with.
-/

set_option autoImplicit false

namespace Zangpu.Foundation

universe u v w

variable {ε : Type u} {α : Type v} {β : Type v}

/-- Fail with `error` unless `condition` holds. -/
def require (condition : Prop) [Decidable condition] (error : ε) : Except ε Unit :=
  if condition then .ok () else .error error

@[simp] theorem require_ok_iff (condition : Prop) [Decidable condition] (error : ε) (result : Unit) :
    require condition error = .ok result ↔ condition := by
  unfold require
  split <;> simp_all

theorem require_error_iff (condition : Prop) [Decidable condition] (error other : ε) :
    require condition error = .error other ↔ ¬ condition ∧ error = other := by
  unfold require
  split <;> simp_all

/-- A successful sequence is a successful first step and a successful rest. -/
@[simp] theorem bind_ok_iff (first : Except ε α) (next : α → Except ε β) (result : β) :
    (first >>= next) = .ok result ↔ ∃ value, first = .ok value ∧ next value = .ok result := by
  cases first with
  | error failure => simp [Bind.bind, Except.bind]
  | ok value => simp [Bind.bind, Except.bind]

/-- A failed sequence fails in its first step or in the rest. -/
theorem bind_error_iff (first : Except ε α) (next : α → Except ε β) (failure : ε) :
    (first >>= next) = .error failure ↔
      first = .error failure ∨ ∃ value, first = .ok value ∧ next value = .error failure := by
  cases first with
  | error other => simp [Bind.bind, Except.bind]
  | ok value => simp [Bind.bind, Except.bind]

@[simp] theorem ok_bind (value : α) (next : α → Except ε β) :
    ((Except.ok value : Except ε α) >>= next) = next value := rfl

@[simp] theorem error_bind (failure : ε) (next : α → Except ε β) :
    ((Except.error failure : Except ε α) >>= next) = .error failure := rfl

/-! ## Possible errors -/

/-- A computation that fails with the given errors only. -/
def FailsOnly (errors : ε → Prop) (outcome : Except ε α) : Prop :=
  ∀ failure, outcome = .error failure → errors failure

namespace FailsOnly

variable {errors : ε → Prop}

theorem ok (value : α) : FailsOnly errors (.ok value : Except ε α) := fun _ failed => by cases failed

theorem error {failure : ε} (possible : errors failure) :
    FailsOnly errors (.error failure : Except ε α) := fun other failed => by
  cases failed
  exact possible

theorem require {condition : Prop} [Decidable condition] {failure : ε}
    (possible : ¬condition → errors failure) : FailsOnly errors (require condition failure) := by
  intro other failed
  obtain ⟨fails, rfl⟩ := (require_error_iff _ _ _).mp failed
  exact possible fails

theorem bind {first : Except ε α} {next : α → Except ε β} (head : FailsOnly errors first)
    (rest : ∀ value, first = .ok value → FailsOnly errors (next value)) :
    FailsOnly errors (first >>= next) := by
  intro failure failed
  rcases (bind_error_iff _ _ _).mp failed with failed | ⟨value, done, failed⟩
  · exact head failure failed
  · exact rest value done failure failed

end FailsOnly

end Zangpu.Foundation
