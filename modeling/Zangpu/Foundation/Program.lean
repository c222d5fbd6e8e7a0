import Mathlib.Tactic.Common

/-!
Asynchronous programs and the discipline they follow.

Owns: programs as trees of interactions (clock reads, awaited calls, calls made
in a child task, frames yielded to a consumer); the events of a run; disciplines,
which say by phase what a program may send or emit next; the rules that check a
program against a discipline along its sequencing and its exception handling; and
routines that preserve an invariant of the phase.

Does not own: the world the calls act on, or any other process.
-/

set_option autoImplicit false

namespace Zangpu.Foundation

/-! ## Programs -/

/-- What a program exchanges with its environment. -/
structure Interface where
  Clock : Type
  Call : Type
  Answer : Call → Type
  Failure : Type
  Frame : Type

/-- A program as the tree of its interactions.

`await` sends a call and suspends until the answer or an exception arrives;
`perform` runs a call without suspending. `spawn` starts the one child task,
`wait` suspends until that task finishes or a timeout elapses, and `abandon`
cancels it. `emit` yields a frame and suspends until the consumer resumes the
program or throws into it. `stuck` ends a run whose loop bound is exhausted. -/
inductive Program (I : Interface) (Result : Type) where
  | done (result : Result)
  | stuck
  | observe (clock : I.Clock) (next : Int → Program I Result)
  | await (call : I.Call) (next : Except I.Failure (I.Answer call) → Program I Result)
  | perform (call : I.Call) (next : Except I.Failure (I.Answer call) → Program I Result)
  | spawn (call : I.Call) (next : Program I Result)
  | wait (call : I.Call) (timeout : Int)
      (next : Except I.Failure (Option (Except I.Failure (I.Answer call))) → Program I Result)
  | abandon (call : I.Call) (next : Except I.Failure Unit → Program I Result)
  | emit (frame : I.Frame) (next : Except I.Failure Unit → Program I Result)

namespace Program

variable {I : Interface} {First Second : Type}

def bind : Program I First → (First → Program I Second) → Program I Second
  | done result, rest => rest result
  | stuck, _ => stuck
  | observe clock next, rest => observe clock fun reading => (next reading).bind rest
  | await call next, rest => await call fun answer => (next answer).bind rest
  | perform call next, rest => perform call fun answer => (next answer).bind rest
  | spawn call next, rest => spawn call (next.bind rest)
  | wait call timeout next, rest => wait call timeout fun outcome => (next outcome).bind rest
  | abandon call next, rest => abandon call fun outcome => (next outcome).bind rest
  | emit frame next, rest => emit frame fun outcome => (next outcome).bind rest

instance : Monad (Program I) where
  pure := done
  bind := bind

/-- A program that takes no further step. -/
def halted : Program I First → Bool
  | done _ | stuck => true
  | _ => false

end Program

/-! ## Disciplines -/

/-- What can be seen of one process from outside. -/
inductive Event (I : Interface) where
  | sent (call : I.Call)
  | answered (call : I.Call) (answer : Except I.Failure (I.Answer call))
  | lost (call : I.Call)
  | emitted (frame : I.Frame)

/-- A discipline: how events move the phase, which calls and frames each phase
permits, which answers a call can get and which exceptions can interrupt an
await point. -/
structure Discipline (I : Interface) (Phase : Type) where
  after : Phase → Event I → Phase
  permits : Phase → Event I → Prop
  answerable : (call : I.Call) → Except I.Failure (I.Answer call) → Prop
  interrupts : I.Failure → Prop

namespace Discipline

variable {I : Interface} {Phase : Type}

/-- The phase reached by a history, newest event first. -/
def phase (discipline : Discipline I Phase) (start : Phase) : List (Event I) → Phase
  | [] => start
  | event :: earlier => discipline.after (discipline.phase start earlier) event

/-- The phase after a call was sent and answered. -/
def afterCall (discipline : Discipline I Phase) (current : Phase) (call : I.Call)
    (answer : Except I.Failure (I.Answer call)) : Phase :=
  discipline.after (discipline.after current (.sent call)) (.answered call answer)

/-- The phase after a call was sent and its answer lost. -/
def afterLoss (discipline : Discipline I Phase) (current : Phase) (call : I.Call) : Phase :=
  discipline.after (discipline.after current (.sent call)) (.lost call)

end Discipline

section Follows

variable {I : Interface} {Phase First Second : Type} (discipline : Discipline I Phase)

/-- From the given phase, every call and frame of the program is permitted,
whatever is answered, lost or thrown into it; a result meets the goal. -/
def Follows {Result : Type} :
    Program I Result → Phase → (Result → Phase → Prop) → Prop
  | .done result, current, goal => goal result current
  | .stuck, _, _ => True
  | .observe _ next, current, goal => ∀ reading, Follows (next reading) current goal
  | .await call next, current, goal =>
      discipline.permits current (.sent call) ∧
      (∀ answer, discipline.answerable call answer →
        Follows (next answer) (discipline.afterCall current call answer) goal) ∧
      ∀ failure, discipline.interrupts failure →
        Follows (next (.error failure)) (discipline.afterLoss current call) goal
  | .perform call next, current, goal =>
      discipline.permits current (.sent call) ∧
      ∀ answer, discipline.answerable call answer →
        Follows (next answer) (discipline.afterCall current call answer) goal
  | .spawn call next, current, goal =>
      discipline.permits current (.sent call) ∧
      Follows next (discipline.after current (.sent call)) goal
  | .wait call _ next, current, goal =>
      (∀ answer, discipline.answerable call answer →
        Follows (next (.ok (some answer)))
          (discipline.after current (.answered call answer)) goal) ∧
      Follows (next (.ok none)) current goal ∧
      ∀ failure, discipline.interrupts failure →
        Follows (next (.error failure)) current goal
  | .abandon call next, current, goal =>
      Follows (next (.ok ())) (discipline.after current (.lost call)) goal ∧
      ∀ failure, discipline.interrupts failure →
        Follows (next (.error failure)) (discipline.after current (.lost call)) goal
  | .emit frame next, current, goal =>
      discipline.permits current (.emitted frame) ∧
      Follows (next (.ok ())) (discipline.after current (.emitted frame)) goal ∧
      ∀ failure, discipline.interrupts failure →
        Follows (next (.error failure)) (discipline.after current (.emitted frame)) goal

variable {discipline}

theorem Follows.mono {Result : Type} {program : Program I Result} {current : Phase}
    {goal weaker : Result → Phase → Prop} (follows : Follows discipline program current goal)
    (weaken : ∀ result reached, goal result reached → weaker result reached) :
    Follows discipline program current weaker := by
  induction program generalizing current with
  | done result => exact weaken _ _ follows
  | stuck => exact follows
  | observe clock next inductionHypothesis =>
      intro reading
      exact inductionHypothesis reading (follows reading)
  | await call next inductionHypothesis =>
      obtain ⟨permitted, answered, interrupted⟩ := follows
      exact ⟨permitted,
        fun answer answerable => inductionHypothesis answer (answered answer answerable),
        fun failure interrupts => inductionHypothesis _ (interrupted failure interrupts)⟩
  | perform call next inductionHypothesis =>
      obtain ⟨permitted, answered⟩ := follows
      exact ⟨permitted,
        fun answer answerable => inductionHypothesis answer (answered answer answerable)⟩
  | spawn call next inductionHypothesis =>
      exact ⟨follows.1, inductionHypothesis follows.2⟩
  | wait call timeout next inductionHypothesis =>
      obtain ⟨answered, pending, interrupted⟩ := follows
      exact ⟨fun answer answerable => inductionHypothesis _ (answered answer answerable),
        inductionHypothesis _ pending,
        fun failure interrupts => inductionHypothesis _ (interrupted failure interrupts)⟩
  | abandon call next inductionHypothesis =>
      exact ⟨inductionHypothesis _ follows.1,
        fun failure interrupts => inductionHypothesis _ (follows.2 failure interrupts)⟩
  | emit frame next inductionHypothesis =>
      obtain ⟨permitted, resumed, interrupted⟩ := follows
      exact ⟨permitted, inductionHypothesis _ resumed,
        fun failure interrupts => inductionHypothesis _ (interrupted failure interrupts)⟩

/-- A sequence follows the discipline when its first part does and every result
of that part lets the rest follow it. -/
theorem Follows.bind {program : Program I First} {rest : First → Program I Second}
    {current : Phase} {goal : Second → Phase → Prop}
    (follows : Follows discipline program current fun result reached =>
      Follows discipline (rest result) reached goal) :
    Follows discipline (program.bind rest) current goal := by
  induction program generalizing current with
  | done result => exact follows
  | stuck => exact follows
  | observe clock next inductionHypothesis =>
      intro reading
      exact inductionHypothesis reading (follows reading)
  | await call next inductionHypothesis =>
      obtain ⟨permitted, answered, interrupted⟩ := follows
      exact ⟨permitted,
        fun answer answerable => inductionHypothesis answer (answered answer answerable),
        fun failure interrupts => inductionHypothesis _ (interrupted failure interrupts)⟩
  | perform call next inductionHypothesis =>
      obtain ⟨permitted, answered⟩ := follows
      exact ⟨permitted,
        fun answer answerable => inductionHypothesis answer (answered answer answerable)⟩
  | spawn call next inductionHypothesis =>
      exact ⟨follows.1, inductionHypothesis follows.2⟩
  | wait call timeout next inductionHypothesis =>
      obtain ⟨answered, pending, interrupted⟩ := follows
      exact ⟨fun answer answerable => inductionHypothesis _ (answered answer answerable),
        inductionHypothesis _ pending,
        fun failure interrupts => inductionHypothesis _ (interrupted failure interrupts)⟩
  | abandon call next inductionHypothesis =>
      exact ⟨inductionHypothesis _ follows.1,
        fun failure interrupts => inductionHypothesis _ (follows.2 failure interrupts)⟩
  | emit frame next inductionHypothesis =>
      obtain ⟨permitted, resumed, interrupted⟩ := follows
      exact ⟨permitted, inductionHypothesis _ resumed,
        fun failure interrupts => inductionHypothesis _ (interrupted failure interrupts)⟩

end Follows

/-! ## Routines

A routine is a program with local variables and exceptions: the variables keep
what was written to them when an exception passes. -/

/-- A program over local variables `Locals` that returns or raises. -/
abbrev Routine (I : Interface) (Locals : Type) :=
  ExceptT I.Failure (StateT Locals (Program I))

namespace Routine

variable {I : Interface} {Locals Result Other : Type}

/-- The program of a routine from given local variables. -/
def start (routine : Routine I Locals Result) (locals : Locals) :
    Program I (Except I.Failure Result × Locals) :=
  routine.run.run locals

/-- A routine from the program of each value of the local variables. -/
def of (body : Locals → Program I (Except I.Failure Result × Locals)) :
    Routine I Locals Result :=
  ExceptT.mk fun locals => body locals

/-- End the modelled run: a loop bound is exhausted. -/
def exhausted : Routine I Locals Result := of fun _ => .stuck

def observe (clock : I.Clock) : Routine I Locals Int :=
  of fun locals => .observe clock fun reading => .done (.ok reading, locals)

def await (call : I.Call) : Routine I Locals (I.Answer call) :=
  of fun locals => .await call fun answer => .done (answer, locals)

def perform (call : I.Call) : Routine I Locals (I.Answer call) :=
  of fun locals => .perform call fun answer => .done (answer, locals)

def spawn (call : I.Call) : Routine I Locals Unit :=
  of fun locals => .spawn call (.done (.ok (), locals))

def wait (call : I.Call) (timeout : Int) :
    Routine I Locals (Option (Except I.Failure (I.Answer call))) :=
  of fun locals => .wait call timeout fun outcome => .done (outcome, locals)

def abandon (call : I.Call) : Routine I Locals Unit :=
  of fun locals => .abandon call fun outcome => .done (outcome, locals)

def emit (frame : I.Frame) : Routine I Locals Unit :=
  of fun locals => .emit frame fun outcome => .done (outcome, locals)

/-- Return a value or raise a failure. -/
def reply (outcome : Except I.Failure Result) : Routine I Locals Result :=
  of fun locals => .done (outcome, locals)

/-- `try: body finally: cleanup`. An exception of the cleanup replaces the outcome. -/
def andFinally (body : Routine I Locals Result) (cleanup : Routine I Locals Unit) :
    Routine I Locals Result :=
  of fun locals => (body.start locals).bind fun outcome =>
    (cleanup.start outcome.2).bind fun cleaned =>
      match cleaned.1 with
      | .ok () => .done (outcome.1, cleaned.2)
      | .error failure => .done (.error failure, cleaned.2)

end Routine

section Obeys

variable {I : Interface} {Phase Locals First Second : Type} (discipline : Discipline I Phase)

/-- A routine follows the discipline from given local variables and phase, and
its outcome meets the goal. -/
def Obeys (routine : Routine I Locals First) (locals : Locals) (current : Phase)
    (goal : Except I.Failure First → Locals → Phase → Prop) : Prop :=
  Follows discipline (routine.start locals) current fun outcome reached =>
    goal outcome.1 outcome.2 reached

variable {discipline} {locals : Locals} {current : Phase}

theorem Obeys.mono {routine : Routine I Locals First}
    {goal weaker : Except I.Failure First → Locals → Phase → Prop}
    (obeys : Obeys discipline routine locals current goal)
    (weaken : ∀ outcome left reached, goal outcome left reached → weaker outcome left reached) :
    Obeys discipline routine locals current weaker :=
  Follows.mono obeys fun _ _ => weaken _ _ _

theorem Obeys.pure {value : First} {goal : Except I.Failure First → Locals → Phase → Prop}
    (reached : goal (.ok value) locals current) :
    Obeys discipline (Pure.pure value : Routine I Locals First) locals current goal := reached

theorem Obeys.throw {failure : I.Failure}
    {goal : Except I.Failure First → Locals → Phase → Prop}
    (reached : goal (.error failure) locals current) :
    Obeys discipline (MonadExcept.throw failure : Routine I Locals First) locals current goal :=
  reached

theorem Obeys.reply {outcome : Except I.Failure First}
    {goal : Except I.Failure First → Locals → Phase → Prop}
    (reached : goal outcome locals current) :
    Obeys discipline (Routine.reply outcome : Routine I Locals First) locals current goal := reached

/-- Sequencing: a failure of the first part is the failure of the whole. -/
theorem Obeys.bind {routine : Routine I Locals First}
    {rest : First → Routine I Locals Second}
    {goal : Except I.Failure Second → Locals → Phase → Prop}
    (obeys : Obeys discipline routine locals current fun outcome left reached =>
      match outcome with
      | .ok value => Obeys discipline (rest value) left reached goal
      | .error failure => goal (.error failure) left reached) :
    Obeys discipline (routine >>= rest) locals current goal := by
  apply Follows.bind
  refine Follows.mono obeys ?_
  rintro ⟨outcome, left⟩ reached holds
  cases outcome with
  | ok value => exact holds
  | error failure => exact holds

/-- Exception handling: the handler runs on the local variables left behind. -/
theorem Obeys.tryCatch {routine : Routine I Locals First}
    {handler : I.Failure → Routine I Locals First}
    {goal : Except I.Failure First → Locals → Phase → Prop}
    (obeys : Obeys discipline routine locals current fun outcome left reached =>
      match outcome with
      | .ok value => goal (.ok value) left reached
      | .error failure => Obeys discipline (handler failure) left reached goal) :
    Obeys discipline (MonadExcept.tryCatch routine handler) locals current goal := by
  apply Follows.bind
  refine Follows.mono obeys ?_
  rintro ⟨outcome, left⟩ reached holds
  cases outcome with
  | ok value => exact holds
  | error failure => exact holds

/-- Cleanup: it runs on every outcome, and its own failure wins. -/
theorem Obeys.andFinally {routine : Routine I Locals First} {cleanup : Routine I Locals Unit}
    {goal : Except I.Failure First → Locals → Phase → Prop}
    (obeys : Obeys discipline routine locals current fun outcome left reached =>
      Obeys discipline cleanup left reached fun cleaned final last =>
        match cleaned with
        | .ok () => goal outcome final last
        | .error failure => goal (.error failure) final last) :
    Obeys discipline (routine.andFinally cleanup) locals current goal := by
  apply Follows.bind
  refine Follows.mono obeys ?_
  intro outcome reached holds
  apply Follows.bind
  refine Follows.mono holds ?_
  rintro ⟨cleaned, final⟩ last met
  cases cleaned with
  | ok => exact met
  | error failure => exact met

theorem Obeys.exhausted {goal : Except I.Failure First → Locals → Phase → Prop} :
    Obeys discipline (Routine.exhausted : Routine I Locals First) locals current goal := trivial

theorem Obeys.observe {clock : I.Clock} {goal : Except I.Failure Int → Locals → Phase → Prop}
    (reached : ∀ reading, goal (.ok reading) locals current) :
    Obeys discipline (Routine.observe clock : Routine I Locals Int) locals current goal := reached

theorem Obeys.get {goal : Except I.Failure Locals → Locals → Phase → Prop}
    (reached : goal (.ok locals) locals current) :
    Obeys discipline (MonadState.get : Routine I Locals Locals) locals current goal := reached

theorem Obeys.modify {change : Locals → Locals}
    {goal : Except I.Failure Unit → Locals → Phase → Prop}
    (reached : goal (.ok ()) (change locals) current) :
    Obeys discipline (modify change : Routine I Locals Unit) locals current goal := reached

theorem Obeys.await {call : I.Call}
    {goal : Except I.Failure (I.Answer call) → Locals → Phase → Prop}
    (permitted : discipline.permits current (.sent call))
    (answered : ∀ answer, discipline.answerable call answer →
      goal answer locals (discipline.afterCall current call answer))
    (interrupted : ∀ failure, discipline.interrupts failure →
      goal (.error failure) locals (discipline.afterLoss current call)) :
    Obeys discipline (Routine.await call : Routine I Locals _) locals current goal :=
  ⟨permitted, answered, interrupted⟩

theorem Obeys.perform {call : I.Call}
    {goal : Except I.Failure (I.Answer call) → Locals → Phase → Prop}
    (permitted : discipline.permits current (.sent call))
    (answered : ∀ answer, discipline.answerable call answer →
      goal answer locals (discipline.afterCall current call answer)) :
    Obeys discipline (Routine.perform call : Routine I Locals _) locals current goal :=
  ⟨permitted, answered⟩

theorem Obeys.spawn {call : I.Call} {goal : Except I.Failure Unit → Locals → Phase → Prop}
    (permitted : discipline.permits current (.sent call))
    (started : goal (.ok ()) locals (discipline.after current (.sent call))) :
    Obeys discipline (Routine.spawn call : Routine I Locals Unit) locals current goal :=
  ⟨permitted, started⟩

theorem Obeys.wait {call : I.Call} {timeout : Int}
    {goal : Except I.Failure (Option (Except I.Failure (I.Answer call))) →
      Locals → Phase → Prop}
    (answered : ∀ answer, discipline.answerable call answer →
      goal (.ok (some answer)) locals (discipline.after current (.answered call answer)))
    (pending : goal (.ok none) locals current)
    (interrupted : ∀ failure, discipline.interrupts failure →
      goal (.error failure) locals current) :
    Obeys discipline (Routine.wait call timeout : Routine I Locals _) locals current goal :=
  ⟨answered, pending, interrupted⟩

theorem Obeys.abandon {call : I.Call} {goal : Except I.Failure Unit → Locals → Phase → Prop}
    (cancelled : goal (.ok ()) locals (discipline.after current (.lost call)))
    (interrupted : ∀ failure, discipline.interrupts failure →
      goal (.error failure) locals (discipline.after current (.lost call))) :
    Obeys discipline (Routine.abandon call : Routine I Locals Unit) locals current goal :=
  ⟨cancelled, interrupted⟩

theorem Obeys.emit {frame : I.Frame} {goal : Except I.Failure Unit → Locals → Phase → Prop}
    (permitted : discipline.permits current (.emitted frame))
    (resumed : goal (.ok ()) locals (discipline.after current (.emitted frame)))
    (interrupted : ∀ failure, discipline.interrupts failure →
      goal (.error failure) locals (discipline.after current (.emitted frame))) :
    Obeys discipline (Routine.emit frame : Routine I Locals Unit) locals current goal :=
  ⟨permitted, resumed, interrupted⟩

end Obeys

section Preserves

variable {I : Interface} {Phase Locals First Second : Type} (discipline : Discipline I Phase)

/-- From any phase with the invariant, the routine follows the discipline and ends,
in whatever way, with the invariant. -/
def Preserves (invariant : Phase → Prop) (routine : Routine I Locals First) : Prop :=
  ∀ locals phase, invariant phase →
    Obeys discipline routine locals phase fun _ _ reached => invariant reached

variable {discipline} {invariant : Phase → Prop}

namespace Preserves

theorem pure (value : First) :
    Preserves discipline invariant (Pure.pure value : Routine I Locals First) :=
  fun _ _ holds => Obeys.pure holds

theorem throw (failure : I.Failure) :
    Preserves discipline invariant (MonadExcept.throw failure : Routine I Locals First) :=
  fun _ _ holds => Obeys.throw holds

theorem exhausted : Preserves discipline invariant (Routine.exhausted : Routine I Locals First) :=
  fun _ _ _ => Obeys.exhausted

theorem observe (clock : I.Clock) :
    Preserves discipline invariant (Routine.observe clock : Routine I Locals Int) :=
  fun _ _ holds => Obeys.observe fun _ => holds

theorem get : Preserves discipline invariant (MonadState.get : Routine I Locals Locals) :=
  fun _ _ holds => Obeys.get holds

theorem update (change : Locals → Locals) :
    Preserves discipline invariant (modify change : Routine I Locals Unit) :=
  fun _ _ holds => Obeys.modify holds

theorem bind {routine : Routine I Locals First} {rest : First → Routine I Locals Second}
    (preserves : Preserves discipline invariant routine)
    (continues : ∀ value, Preserves discipline invariant (rest value)) :
    Preserves discipline invariant (routine >>= rest) := by
  intro locals phase holds
  apply Obeys.bind
  apply (preserves locals phase holds).mono
  intro outcome left reached kept
  cases outcome with
  | ok value => exact continues value left reached kept
  | error failure => exact kept

theorem tryCatch {routine : Routine I Locals First}
    {handler : I.Failure → Routine I Locals First}
    (preserves : Preserves discipline invariant routine)
    (handles : ∀ failure, Preserves discipline invariant (handler failure)) :
    Preserves discipline invariant (MonadExcept.tryCatch routine handler) := by
  intro locals phase holds
  apply Obeys.tryCatch
  apply (preserves locals phase holds).mono
  intro outcome left reached kept
  cases outcome with
  | ok value => exact kept
  | error failure => exact handles failure left reached kept

theorem andFinally {routine : Routine I Locals First} {cleanup : Routine I Locals Unit}
    (preserves : Preserves discipline invariant routine)
    (cleans : Preserves discipline invariant cleanup) :
    Preserves discipline invariant (routine.andFinally cleanup) := by
  intro locals phase holds
  apply Obeys.andFinally
  apply (preserves locals phase holds).mono
  intro outcome left reached kept
  apply (cleans left reached kept).mono
  intro cleaned final last still
  cases cleaned with
  | ok => exact still
  | error failure => exact still

end Preserves

end Preserves

end Zangpu.Foundation
