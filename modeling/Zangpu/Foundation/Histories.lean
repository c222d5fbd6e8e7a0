import Mathlib.Tactic.Common

/-!
Lists read as histories.

Owns: the statement that every element of a list relates to the list of the
elements before it, and how it extends when the list grows at its end.

Does not own: what the relation is.
-/

set_option autoImplicit false

namespace Zangpu.Foundation

universe u

variable {α : Type u}

/-- Every element relates to the list of the elements before it. -/
def Preceded (relates : List α → α → Prop) (history : List α) : Prop :=
  ∀ earlier element later, history = earlier ++ element :: later → relates earlier element

namespace Preceded

variable {relates : List α → α → Prop}

theorem nil : Preceded relates ([] : List α) := by
  intro earlier element later split
  cases earlier <;> cases split

/-- A history grows by an element that relates to all of it. -/
theorem snoc {history : List α} (preceded : Preceded relates history) {last : α}
    (related : relates history last) : Preceded relates (history ++ [last]) := by
  intro earlier element later split
  rcases List.eq_nil_or_concat later with rfl | ⟨front, final, rfl⟩
  · obtain ⟨rfl, rfl⟩ := List.append_singleton_inj.mp split
    exact related
  · have regrouped : earlier ++ element :: (front ++ [final]) =
        (earlier ++ element :: front) ++ [final] := by simp
    rw [List.concat_eq_append, regrouped] at split
    obtain ⟨rfl, _⟩ := List.append_singleton_inj.mp split
    exact preceded earlier element front rfl

end Preceded

end Zangpu.Foundation
