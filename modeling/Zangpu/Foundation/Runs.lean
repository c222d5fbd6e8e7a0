import Mathlib.Data.List.Basic
import Mathlib.Tactic.Common

/-!
Runs of a labelled partial step function.

Owns: reachability by steps that each meet a condition on the state before them,
the invariant rules, the executable replay of a list of labels and of a strategy, and
the two laws of a pool of components of which one moves at a time.

Does not own: any particular system.
-/

set_option autoImplicit false

namespace Zangpu.Foundation

/-! ## Runs -/

section Runs

variable {State Label : Type} (step : State → Label → Option State)
  (condition : State → Label → Prop)

/-- States reached by steps that all meet the condition. -/
inductive Reached (start : State) : State → Prop where
  | start : Reached start start
  | step {before after : State} {label : Label} (earlier : Reached start before)
      (meets : condition before label) (stepped : step before label = some after) :
      Reached start after

variable {step condition} {start last : State}

/-- What every step keeps, every run keeps. -/
theorem Reached.invariant {Invariant : State → Prop} (initial : Invariant start)
    (preserved : ∀ before label after, Invariant before → condition before label →
      step before label = some after → Invariant after)
    (run : Reached step condition start last) : Invariant last := by
  induction run with
  | start => exact initial
  | step _ meets stepped inductionHypothesis =>
      exact preserved _ _ _ inductionHypothesis meets stepped

theorem Reached.weaken {weaker : State → Label → Prop}
    (implies : ∀ state label, condition state label → weaker state label)
    (run : Reached step condition start last) : Reached step weaker start last := by
  induction run with
  | start => exact .start
  | step _ meets stepped inductionHypothesis =>
      exact .step inductionHypothesis (implies _ _ meets) stepped

variable (step condition)

/-- Replay labels, checking the condition before each step. -/
def replay [∀ state label, Decidable (condition state label)] :
    State → List Label → Option State
  | state, [] => some state
  | state, label :: rest =>
      if condition state label then
        match step state label with
        | some after => replay after rest
        | none => none
      else none

variable {step condition}

theorem Reached.replay_from [∀ state label, Decidable (condition state label)]
    {middle : State} {labels : List Label} (run : Reached step condition start middle)
    (replayed : replay step condition middle labels = some last) :
    Reached step condition start last := by
  induction labels generalizing middle with
  | nil =>
      rw [replay, Option.some.injEq] at replayed
      exact replayed ▸ run
  | cons label rest inductionHypothesis =>
      rw [replay] at replayed
      split at replayed
      · rename_i meets
        split at replayed
        · rename_i after stepped
          exact inductionHypothesis (.step run meets stepped) replayed
        · cases replayed
      · cases replayed

variable (step condition start)

/-- A replay that ends in a state with a property is a run to such a state. -/
theorem Reached.of_replay [∀ state label, Decidable (condition state label)]
    (labels : List Label) (Holds : State → Prop) [DecidablePred Holds]
    (replayed : (replay step condition start labels).any fun state => Holds state) :
    ∃ state, Reached step condition start state ∧ Holds state := by
  rw [Option.any_eq_true] at replayed
  obtain ⟨state, ended, holds⟩ := replayed
  exact ⟨state, Reached.start.replay_from ended, of_decide_eq_true holds⟩

/-- The state after some steps of a strategy, which names the label of each. -/
def follow (strategy : State → Label) : Nat → State
  | 0 => start
  | count + 1 =>
      let reached := follow strategy count
      (step reached (strategy reached)).getD reached

theorem follow_reached (strategy : State → Label) (count : Nat) :
    Reached step (fun _ _ => True) start (follow step start strategy count) := by
  induction count with
  | zero => exact .start
  | succ count inductionHypothesis =>
      unfold follow
      cases stepped : step (follow step start strategy count)
          (strategy (follow step start strategy count)) with
      | none => simpa [stepped] using inductionHypothesis
      | some after => simpa [stepped] using inductionHypothesis.step trivial stepped

end Runs

/-! ## Pools -/

section Pools

variable {Component : Type} {pool : List Component} {position : Nat} {before after : Component}

/-- After a move, a position holds the moved component or an untouched one. -/
theorem position_set_cases {other : Nat} {component : Component}
    (found : (pool.set position after)[other]? = some component) :
    (other = position ∧ component = after) ∨ (other ≠ position ∧ pool[other]? = some component) := by
  rw [List.getElem?_set] at found
  split at found
  · rename_i same
    split at found
    · exact Or.inl ⟨same.symm, (Option.some.inj found).symm⟩
    · cases found
  · rename_i different
    exact Or.inr ⟨fun equal => different equal.symm, found⟩

/-- A component of the pool after a move is the moved one or an untouched one. -/
theorem mem_set_cases {component : Component} (member : component ∈ pool.set position after) :
    component = after ∨ component ∈ pool.eraseIdx position := by
  rw [List.mem_iff_getElem?] at member
  obtain ⟨other, found⟩ := member
  rcases position_set_cases found with ⟨_, moved⟩ | ⟨different, untouched⟩
  · exact Or.inl moved
  · exact Or.inr (List.mem_eraseIdx_iff_getElem?.mpr ⟨other, different, untouched⟩)

theorem mem_of_mem_eraseIdx {component : Component} (member : component ∈ pool.eraseIdx position) :
    component ∈ pool :=
  (List.eraseIdx_sublist pool position).subset member

theorem mem_eraseIdx_set {component : Component}
    (member : component ∈ pool.eraseIdx position) : component ∈ pool.set position after := by
  obtain ⟨other, different, found⟩ := List.mem_eraseIdx_iff_getElem?.mp member
  refine List.mem_iff_getElem?.mpr ⟨other, ?_⟩
  rw [List.getElem?_set_ne (fun equal => different equal.symm)]
  exact found

/-- Moving one component changes a count by that component alone. -/
theorem countP_set_add (test : Component → Bool) (found : pool[position]? = some before) :
    (pool.set position after).countP test + (if test before then 1 else 0) =
      pool.countP test + if test after then 1 else 0 := by
  induction pool generalizing position with
  | nil => cases found
  | cons head tail inductionHypothesis =>
      cases position with
      | zero =>
          rw [List.getElem?_cons_zero, Option.some.injEq] at found
          subst found
          rw [List.set_cons_zero, List.countP_cons, List.countP_cons]
          omega
      | succ position =>
          rw [List.getElem?_cons_succ] at found
          have rest := inductionHypothesis found
          rw [List.set_cons_succ, List.countP_cons, List.countP_cons]
          omega

/-- Removing one component changes a count by that component alone. -/
theorem countP_eraseIdx_add (test : Component → Bool) (found : pool[position]? = some before) :
    (pool.eraseIdx position).countP test + (if test before then 1 else 0) = pool.countP test := by
  induction pool generalizing position with
  | nil => cases found
  | cons head tail inductionHypothesis =>
      cases position with
      | zero =>
          rw [List.getElem?_cons_zero, Option.some.injEq] at found
          subst found
          rw [List.eraseIdx_cons_zero, List.countP_cons]
      | succ position =>
          rw [List.getElem?_cons_succ] at found
          have rest := inductionHypothesis found
          rw [List.eraseIdx_cons_succ, List.countP_cons, List.countP_cons]
          omega

end Pools

end Zangpu.Foundation
