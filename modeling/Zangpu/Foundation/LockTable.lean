import Mathlib.Logic.Function.Basic
import Mathlib.Logic.Relation
import Mathlib.Data.List.Basic
import Mathlib.Data.Fintype.Basic
import Mathlib.Tactic.Common

/-!
Row locks, waiting transactions and their wait-for graph.

Owns: workers that take the locks of a call one request at a time and release
them together; the wait-for relation between workers; runs restricted by a
condition on the state before each step; the compatibility of granted locks; and
the measure rule for an acyclic wait-for graph.

Does not own: the rows, the lock modes and the calls of any particular system.
-/

set_option autoImplicit false

namespace Zangpu.Foundation.LockTable

structure Request (Row Mode : Type) where
  row : Row
  mode : Mode
  deriving DecidableEq, Repr

/-- What each call locks, in order, and which modes exclude each other. -/
structure Discipline (Row Mode Call : Type) where
  locks : Call → List (Request Row Mode)
  conflicts : Mode → Mode → Bool
  symmetric : ∀ left right, conflicts left right = conflicts right left

/-- A running call and how many of its requests have been granted. -/
structure Activity (Call : Type) where
  call : Call
  granted : Nat
  deriving DecidableEq, Repr

/-- Every worker is idle or runs one call. -/
abbrev State (Worker Call : Type) := Worker → Option (Activity Call)

section Locks

variable {Row Mode Call Worker : Type}
variable (discipline : Discipline Row Mode Call)

def held (activity : Activity Call) : List (Request Row Mode) :=
  (discipline.locks activity.call).take activity.granted

def pending? (activity : Activity Call) : Option (Request Row Mode) :=
  (discipline.locks activity.call)[activity.granted]?

/-- `lock` is granted to `worker`. -/
def Holds (state : State Worker Call) (worker : Worker) (lock : Request Row Mode) : Prop :=
  ∃ activity, state worker = some activity ∧ lock ∈ held discipline activity

/-- `request` is the next request of `worker`. -/
def Wants (state : State Worker Call) (worker : Worker) (request : Request Row Mode) : Prop :=
  ∃ activity, state worker = some activity ∧ pending? discipline activity = some request

/-- The edge of the wait-for graph: the next request of `waiter` conflicts with a
lock of `holder`. -/
def WaitsFor (state : State Worker Call) (waiter holder : Worker) : Prop :=
  waiter ≠ holder ∧
    ∃ request lock, Wants discipline state waiter request ∧ Holds discipline state holder lock ∧
      lock.row = request.row ∧ discipline.conflicts request.mode lock.mode = true

/-- No worker waits, directly or through others, for itself. -/
def Acyclic (state : State Worker Call) : Prop :=
  ∀ worker, ¬ Relation.TransGen (WaitsFor discipline state) worker worker

/-! ## Runs -/

inductive Step (Worker Call : Type) where
  | start (worker : Worker) (call : Call)
  | grant (worker : Worker)
  | finish (worker : Worker)

variable [DecidableEq Worker]

/-- A worker starts a call, is granted its next request when nobody holds a
conflicting lock, or ends its call, by commit or by rollback, at any time. -/
inductive Transition : State Worker Call → Step Worker Call → State Worker Call → Prop where
  | start {state : State Worker Call} (worker : Worker) (call : Call)
      (idle : state worker = none) :
      Transition state (.start worker call)
        (Function.update state worker (some ⟨call, 0⟩))
  | grant {state : State Worker Call} (worker : Worker) (activity : Activity Call)
      (running : state worker = some activity)
      (wants : (pending? discipline activity).isSome)
      (free : ∀ other, ¬ WaitsFor discipline state worker other) :
      Transition state (.grant worker)
        (Function.update state worker (some ⟨activity.call, activity.granted + 1⟩))
  | finish {state : State Worker Call} (worker : Worker) :
      Transition state (.finish worker) (Function.update state worker none)

/-- The states reached from all workers idle by steps that meet `allowed`. -/
inductive Run (allowed : State Worker Call → Step Worker Call → Prop) :
    State Worker Call → Prop where
  | idle : Run allowed (fun _ => none)
  | step {before after : State Worker Call} {step : Step Worker Call}
      (earlier : Run allowed before) (meets : allowed before step)
      (transition : Transition discipline before step after) : Run allowed after

/-- Granted locks of different workers never conflict. -/
def Compatible (state : State Worker Call) : Prop :=
  ∀ left right, left ≠ right → ∀ leftLock rightLock,
    Holds discipline state left leftLock → Holds discipline state right rightLock →
      leftLock.row = rightLock.row →
        discipline.conflicts leftLock.mode rightLock.mode = false

end Locks

section Laws

variable {Row Mode Call Worker : Type}
variable {discipline : Discipline Row Mode Call}

theorem holds_update_same [DecidableEq Worker] {state : State Worker Call} {worker : Worker}
    {activity : Activity Call} {lock : Request Row Mode} :
    Holds discipline (Function.update state worker (some activity)) worker lock ↔
      lock ∈ held discipline activity := by
  simp [Holds]

theorem holds_update_other [DecidableEq Worker] {state : State Worker Call}
    {worker other : Worker} {activity : Option (Activity Call)} {lock : Request Row Mode}
    (different : other ≠ worker) :
    Holds discipline (Function.update state worker activity) other lock ↔
      Holds discipline state other lock := by
  simp [Holds, Function.update_of_ne different]

theorem mem_held_iff {activity : Activity Call} {lock : Request Row Mode} :
    lock ∈ held discipline activity ↔
      ∃ index < activity.granted, (discipline.locks activity.call)[index]? = some lock := by
  simp only [held, List.mem_take_iff_getElem, List.getElem?_eq_some_iff]
  constructor
  · rintro ⟨index, bound, rfl⟩
    exact ⟨index, by omega, by omega, rfl⟩
  · rintro ⟨index, early, bound, rfl⟩
    exact ⟨index, by omega, rfl⟩

/-- A grant adds the pending request to the held locks. -/
theorem mem_held_succ {call : Call} {granted : Nat} {lock : Request Row Mode} :
    lock ∈ held discipline ⟨call, granted + 1⟩ ↔
      lock ∈ held discipline ⟨call, granted⟩ ∨
        pending? discipline ⟨call, granted⟩ = some lock := by
  simp only [held, pending?, List.take_add_one, List.mem_append, Option.mem_toList]

/-- Replacing one worker's activity by nothing keeps the locks compatible. -/
private theorem compatible_release [DecidableEq Worker] {state : State Worker Call}
    (compatible : Compatible discipline state) (worker : Worker)
    {activity : Option (Activity Call)}
    (nothing : ∀ lock, ¬ Holds discipline (Function.update state worker activity) worker lock) :
    Compatible discipline (Function.update state worker activity) := by
  intro left right different leftLock rightLock leftHolds rightHolds sameRow
  by_cases leftIs : left = worker
  · subst leftIs
    exact absurd leftHolds (nothing leftLock)
  · by_cases rightIs : right = worker
    · subst rightIs
      exact absurd rightHolds (nothing rightLock)
    · exact compatible left right different leftLock rightLock
        ((holds_update_other leftIs).mp leftHolds) ((holds_update_other rightIs).mp rightHolds)
        sameRow

/-- A granted lock conflicts with no lock of another worker. -/
private theorem granted_free {state : State Worker Call} {worker other : Worker}
    {activity : Activity Call} {request lock : Request Row Mode}
    (running : state worker = some activity)
    (wants : pending? discipline activity = some request)
    (free : ∀ holder, ¬ WaitsFor discipline state worker holder) (different : worker ≠ other)
    (holds : Holds discipline state other lock) (sameRow : request.row = lock.row) :
    discipline.conflicts request.mode lock.mode = false := by
  by_contra conflict
  exact free other ⟨different, request, lock, ⟨activity, running, wants⟩, holds, sameRow.symm,
    by simpa using conflict⟩

/-- A worker that runs a call with some request granted did so before the step, or
the step granted it that request. -/
theorem Transition.granted_succ [DecidableEq Worker] {before after : State Worker Call}
    {step : Step Worker Call} (transition : Transition discipline before step after)
    {worker : Worker} {call : Call} {granted : Nat}
    (later : after worker = some ⟨call, granted + 1⟩) :
    before worker = some ⟨call, granted + 1⟩ ∨
      step = .grant worker ∧ before worker = some ⟨call, granted⟩ := by
  cases transition with
  | start other other_call idle =>
      by_cases same : worker = other
      · subst same
        simp at later
      · rw [Function.update_of_ne same] at later
        exact .inl later
  | finish other =>
      by_cases same : worker = other
      · subst same
        simp at later
      · rw [Function.update_of_ne same] at later
        exact .inl later
  | grant other activity running wants free =>
      by_cases same : worker = other
      · subst same
        rw [Function.update_self, Option.some.injEq, Activity.mk.injEq,
          Nat.add_right_cancel_iff] at later
        obtain ⟨rfl, rfl⟩ := later
        exact .inr ⟨rfl, running⟩
      · rw [Function.update_of_ne same] at later
        exact .inl later

theorem Compatible.transition [DecidableEq Worker] {before after : State Worker Call}
    {step : Step Worker Call} (compatible : Compatible discipline before)
    (transition : Transition discipline before step after) : Compatible discipline after := by
  cases transition with
  | start worker call idle =>
      refine compatible_release compatible worker ?_
      intro lock holds
      rw [holds_update_same] at holds
      simp [held] at holds
  | finish worker =>
      refine compatible_release compatible worker ?_
      rintro lock ⟨activity, running, _⟩
      simp at running
  | grant worker activity running wants free =>
      obtain ⟨request, requested⟩ := Option.isSome_iff_exists.mp wants
      -- The worker's own locks: those it held, and the one just granted.
      have own : ∀ lock, Holds discipline
          (Function.update before worker (some ⟨activity.call, activity.granted + 1⟩)) worker
            lock → Holds discipline before worker lock ∨ lock = request := by
        intro lock holds
        rw [holds_update_same, mem_held_succ] at holds
        rcases holds with earlier | now
        · exact .inl ⟨activity, running, earlier⟩
        · exact .inr (Option.some.inj (now.symm.trans requested))
      intro left right different leftLock rightLock leftHolds rightHolds sameRow
      by_cases leftIs : left = worker
      · subst leftIs
        have rightBefore := (holds_update_other (Ne.symm different)).mp rightHolds
        rcases own leftLock leftHolds with earlier | rfl
        · exact compatible left right different leftLock rightLock earlier rightBefore sameRow
        · exact granted_free running requested free different rightBefore sameRow
      · have leftBefore := (holds_update_other leftIs).mp leftHolds
        by_cases rightIs : right = worker
        · subst rightIs
          rcases own rightLock rightHolds with earlier | rfl
          · exact compatible left right different leftLock rightLock leftBefore earlier sameRow
          · rw [discipline.symmetric]
            exact granted_free running requested free (Ne.symm different) leftBefore
              sameRow.symm
        · exact compatible left right different leftLock rightLock leftBefore
            ((holds_update_other rightIs).mp rightHolds) sameRow

/-- Granted locks are compatible in every state of every run. -/
theorem Run.compatible [DecidableEq Worker]
    {allowed : State Worker Call → Step Worker Call → Prop} {state : State Worker Call}
    (run : Run discipline allowed state) : Compatible discipline state := by
  induction run with
  | idle =>
      rintro left right _ _ _ ⟨activity, running, _⟩
      cases running
  | step earlier meets transition inductionHypothesis =>
      exact inductionHypothesis.transition transition

/-- A worker that already holds a lock excluding every mode on the row of its
next request does not wait. -/
theorem not_waitsFor_of_holds {state : State Worker Call}
    (compatible : Compatible discipline state) {waiter : Worker}
    {request own : Request Row Mode} (wants : Wants discipline state waiter request)
    (holds : Holds discipline state waiter own) (sameRow : own.row = request.row)
    (excludes : ∀ mode, discipline.conflicts own.mode mode = true) (holder : Worker) :
    ¬ WaitsFor discipline state waiter holder := by
  rintro ⟨different, other, lock, otherWants, otherHolds, row, _⟩
  obtain ⟨activity, running, requested⟩ := wants
  obtain ⟨activity', running', requested'⟩ := otherWants
  obtain rfl : activity = activity' := Option.some.inj (running.symm.trans running')
  obtain rfl : request = other := Option.some.inj (requested.symm.trans requested')
  have clear := compatible waiter holder different own lock holds otherHolds
    (sameRow.trans row.symm)
  rw [excludes] at clear
  cases clear

/-- **The measure rule.** A measure that grows along every edge into a worker
that waits itself leaves no cycle. -/
theorem acyclic_of_measure {state : State Worker Call} (measure : Worker → Nat)
    (grows : ∀ first second third, WaitsFor discipline state first second →
      WaitsFor discipline state second third → measure first < measure second) :
    Acyclic discipline state := by
  intro worker cycle
  have chain : ∀ first last, Relation.TransGen (WaitsFor discipline state) first last →
      (∃ next, WaitsFor discipline state last next) → measure first < measure last := by
    intro first last path
    induction path with
    | single edge =>
        rintro ⟨next, waits⟩
        exact grows _ _ _ edge waits
    | tail path edge inductionHypothesis =>
        rintro ⟨next, waits⟩
        exact Nat.lt_trans (inductionHypothesis ⟨_, edge⟩) (grows _ _ _ edge waits)
  have waits : ∃ next, WaitsFor discipline state worker next := by
    obtain ⟨next, edge, _⟩ := Relation.TransGen.head'_iff.mp cycle
    exact ⟨next, edge⟩
  exact Nat.lt_irrefl _ (chain worker worker cycle waits)

end Laws

/-! ## Executing a schedule -/

section Execution

variable {Row Mode Call Worker : Type} [DecidableEq Row] [DecidableEq Worker]
variable (discipline : Discipline Row Mode Call)

/-- The edge test on two activities. -/
def blocks (waiting holding : Option (Activity Call)) : Bool :=
  match waiting, holding with
  | some first, some second =>
      match pending? discipline first with
      | some request => (held discipline second).any fun lock =>
          decide (lock.row = request.row) && discipline.conflicts request.mode lock.mode
      | none => false
  | _, _ => false

omit [DecidableEq Worker] in
theorem waitsFor_iff (state : State Worker Call) (waiter holder : Worker) :
    WaitsFor discipline state waiter holder ↔
      waiter ≠ holder ∧ blocks discipline (state waiter) (state holder) = true := by
  unfold WaitsFor Wants Holds blocks
  cases state waiter with
  | none => simp
  | some first =>
      cases state holder with
      | none => simp
      | some second =>
          cases wanted : pending? discipline first with
          | none => simp [wanted]
          | some request => simp [wanted]

instance (state : State Worker Call) (waiter holder : Worker) :
    Decidable (WaitsFor discipline state waiter holder) :=
  decidable_of_iff _ (waitsFor_iff discipline state waiter holder).symm

variable [Fintype Worker]

/-- One step of a schedule, refused where the transition is not enabled. -/
def transition? (state : State Worker Call) : Step Worker Call → Option (State Worker Call)
  | .start worker call =>
      if (state worker).isNone then some (Function.update state worker (some ⟨call, 0⟩)) else none
  | .grant worker =>
      match state worker with
      | none => none
      | some activity =>
          if (pending? discipline activity).isSome ∧
              ∀ other, ¬ WaitsFor discipline state worker other then
            some (Function.update state worker (some ⟨activity.call, activity.granted + 1⟩))
          else none
  | .finish worker => some (Function.update state worker none)

theorem transition?_sound {before after : State Worker Call} {step : Step Worker Call}
    (done : transition? discipline before step = some after) :
    Transition discipline before step after := by
  cases step with
  | start worker call =>
      simp only [transition?, Option.isNone_iff_eq_none] at done
      split at done
      · rename_i idle
        obtain rfl := Option.some.inj done
        exact .start worker call idle
      · cases done
  | grant worker =>
      simp only [transition?] at done
      split at done
      · cases done
      · rename_i activity running
        split at done
        · rename_i enabled
          obtain rfl := Option.some.inj done
          exact .grant worker activity running enabled.1 enabled.2
        · cases done
  | finish worker =>
      obtain rfl := Option.some.inj done
      exact .finish worker

variable (allowed : State Worker Call → Step Worker Call → Prop)
variable [∀ state step, Decidable (allowed state step)]

/-- A whole schedule, every step of which must be enabled and meet `allowed`. -/
def execute : List (Step Worker Call) → State Worker Call → Option (State Worker Call)
  | [], state => some state
  | step :: rest, state =>
      if allowed state step then
        match transition? discipline state step with
        | none => none
        | some next => execute rest next
      else none

theorem execute_run {steps : List (Step Worker Call)} {before after : State Worker Call}
    (earlier : Run discipline allowed before)
    (done : execute discipline allowed steps before = some after) :
    Run discipline allowed after := by
  induction steps generalizing before with
  | nil =>
      obtain rfl := Option.some.inj done
      exact earlier
  | cons step rest inductionHypothesis =>
      simp only [execute] at done
      split at done
      · rename_i meets
        split at done
        · cases done
        · rename_i next moved
          exact inductionHypothesis
            (earlier.step meets (transition?_sound discipline moved)) done
      · cases done

end Execution

end Zangpu.Foundation.LockTable
