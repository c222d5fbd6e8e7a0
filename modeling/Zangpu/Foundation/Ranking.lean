import Mathlib.Data.List.Nodup
import Mathlib.Data.List.Perm.Subperm
import Mathlib.Tactic.Common

/-!
Ranks in a list sorted by a total order.

Owns: the number of elements strictly before a given one, and the first part of
the list as the elements of small rank.

Does not own: sorting itself.
-/

set_option autoImplicit false

namespace Zangpu.Foundation

section Ranking

variable {Element : Type} (precedes : Element → Element → Bool)

/-- How many elements come strictly before the given one. -/
def rank (elements : List Element) (element : Element) : Nat :=
  elements.countP fun other => !precedes element other

/-- A sorted list of distinct elements. -/
structure Ranked (elements : List Element) : Prop where
  sorted : elements.Pairwise fun left right => precedes left right = true
  distinct : elements.Nodup
  total : ∀ left right, precedes left right = true ∨ precedes right left = true
  antisymmetric : ∀ left ∈ elements, ∀ right ∈ elements,
    precedes left right = true → precedes right left = true → left = right
  transitive : ∀ first second third, precedes first second = true →
    precedes second third = true → precedes first third = true

variable {precedes} {elements : List Element} {element other : Element}

theorem Ranked.refl (ranked : Ranked precedes elements) (element : Element) :
    precedes element element = true := (ranked.total element element).elim id id

theorem Ranked.tail {rest : List Element} (ranked : Ranked precedes (element :: rest)) :
    Ranked precedes rest where
  sorted := (List.pairwise_cons.mp ranked.sorted).2
  distinct := (List.nodup_cons.mp ranked.distinct).2
  total := ranked.total
  antisymmetric left leftMember right rightMember :=
    ranked.antisymmetric left (List.mem_cons_of_mem _ leftMember) right
      (List.mem_cons_of_mem _ rightMember)
  transitive := ranked.transitive

/-- The first elements of a sorted list are those of small rank. -/
theorem Ranked.mem_take_iff (ranked : Ranked precedes elements) (bound : Nat) :
    element ∈ elements.take bound ↔ element ∈ elements ∧ rank precedes elements element < bound := by
  induction elements generalizing bound with
  | nil => simp
  | cons head rest inductionHypothesis =>
      obtain ⟨first, _⟩ := List.pairwise_cons.mp ranked.sorted
      have fresh := (List.nodup_cons.mp ranked.distinct).1
      cases bound with
      | zero => simp
      | succ bound =>
          rw [List.take_succ_cons, List.mem_cons, List.mem_cons,
            inductionHypothesis ranked.tail]
          by_cases same : element = head
          · subst same
            have before : rank precedes (element :: rest) element = 0 := by
              unfold rank
              rw [List.countP_eq_zero]
              intro other member
              rcases List.mem_cons.mp member with rfl | later
              · simp [ranked.refl other]
              · simp [first other later]
            simp [before]
          · simp only [same, false_or]
            apply and_congr_right
            intro member
            have notBefore : precedes element head = false := by
              rw [← Bool.not_eq_true]
              intro reversed
              exact same (ranked.antisymmetric element (List.mem_cons_of_mem _ member) head
                List.mem_cons_self reversed (first element member))
            unfold rank
            rw [List.countP_cons_of_pos (by simp [notBefore])]
            exact Nat.add_lt_add_iff_right.symm

/-- An element that comes no later has no larger rank. -/
theorem Ranked.rank_le (ranked : Ranked precedes elements)
    (order : precedes element other = true) :
    rank precedes elements element ≤ rank precedes elements other := by
  apply List.countP_mono_left
  intro third _ before
  rw [Bool.not_eq_true', ← Bool.not_eq_true] at before ⊢
  exact fun later => before (ranked.transitive element other third order later)

/-- A list of distinct elements that come no later, the element included, has at
most one more than its rank. -/
theorem Ranked.length_le_rank (ranked : Ranked precedes elements) {chosen : List Element}
    (distinct : chosen.Nodup) (among : ∀ other ∈ chosen, other ∈ elements)
    (member : element ∈ elements)
    (order : ∀ other ∈ chosen, precedes other element = true) :
    chosen.length ≤ rank precedes elements element + 1 := by
  have inside : chosen ⊆ element :: elements.filter fun other => !precedes element other := by
    intro other chosenMember
    by_cases same : other = element
    · exact same ▸ List.mem_cons_self
    · refine List.mem_cons_of_mem _ (List.mem_filter.mpr ⟨among other chosenMember, ?_⟩)
      rw [Bool.not_eq_true', ← Bool.not_eq_true]
      exact fun reversed => same (ranked.antisymmetric other (among other chosenMember) element
        member (order other chosenMember) reversed)
  have bound := (List.subperm_of_subset distinct inside).length_le
  rw [List.length_cons] at bound
  rwa [rank, List.countP_eq_length_filter]

/-- An element has fewer elements before it than a list that holds it and them. -/
theorem rank_lt_length {chosen : List Element} (distinct : elements.Nodup)
    (reflexive : precedes element element = true) (member : element ∈ chosen)
    (holds : ∀ other ∈ elements, precedes element other = false → other ∈ chosen) :
    rank precedes elements element < chosen.length := by
  have inside : element :: (elements.filter fun other => !precedes element other) ⊆ chosen := by
    intro other listed
    rcases List.mem_cons.mp listed with rfl | before
    · exact member
    · obtain ⟨among, notAfter⟩ := List.mem_filter.mp before
      exact holds other among (by simpa using notAfter)
  have apart : (element :: elements.filter fun other => !precedes element other).Nodup := by
    rw [List.nodup_cons]
    refine ⟨?_, distinct.filter _⟩
    intro itself
    simp [reflexive] at itself
  have bound := (List.subperm_of_subset apart inside).length_le
  rw [List.length_cons] at bound
  rw [rank, List.countP_eq_length_filter]
  exact bound

end Ranking

end Zangpu.Foundation
