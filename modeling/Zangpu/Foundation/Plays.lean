import Zangpu.Foundation.Program

/-!
Plays of programs against oracles.

Owns: oracles that decide every interaction of a program by the run so far; the run of
a program against one, with its interactions; the monad laws of programs; programs that
proceed in lockstep, whose runs agree against every oracle; a view of calls under which
programs are compared; and the same for routines, with rules for their sequencing, their
exception handling and their cleanup.

Does not own: any world that the calls act on.
-/

set_option autoImplicit false

namespace Zangpu.Foundation

variable {I : Interface} {First Second Third Fourth : Type}

/-! ## Plays -/

/-- One interaction of a run. -/
inductive Interaction (I : Interface) where
  | observed (clock : I.Clock)
  | awaited (call : I.Call)
  | performed (call : I.Call)
  | spawned (call : I.Call)
  | waited (call : I.Call) (timeout : Int)
  | abandoned (call : I.Call)
  | emitted (frame : I.Frame)

/-- The interactions so far, newest first. -/
abbrev Transcript (I : Interface) := List (Interaction I)

/-- An environment: what comes back from each interaction, by the run before it. -/
structure Oracle (I : Interface) where
  reading : Transcript I → I.Clock → Int
  answer : Transcript I → (call : I.Call) → Except I.Failure (I.Answer call)
  performance : Transcript I → (call : I.Call) → Except I.Failure (I.Answer call)
  completion : Transcript I → (call : I.Call) → Int →
    Except I.Failure (Option (Except I.Failure (I.Answer call)))
  abandonment : Transcript I → I.Call → Except I.Failure Unit
  resumption : Transcript I → I.Frame → Except I.Failure Unit

/-- The result of a program against an oracle, unless it is stuck, and the transcript. -/
def Program.play (oracle : Oracle I) :
    Program I First → Transcript I → Option First × Transcript I
  | .done result, before => (some result, before)
  | .stuck, before => (none, before)
  | .observe clock next, before =>
      (next (oracle.reading before clock)).play oracle (.observed clock :: before)
  | .await call next, before =>
      (next (oracle.answer before call)).play oracle (.awaited call :: before)
  | .perform call next, before =>
      (next (oracle.performance before call)).play oracle (.performed call :: before)
  | .spawn call next, before => next.play oracle (.spawned call :: before)
  | .wait call timeout next, before =>
      (next (oracle.completion before call timeout)).play oracle (.waited call timeout :: before)
  | .abandon call next, before =>
      (next (oracle.abandonment before call)).play oracle (.abandoned call :: before)
  | .emit frame next, before =>
      (next (oracle.resumption before frame)).play oracle (.emitted frame :: before)

/-- A play of a sequence is a play of its second part after the first. -/
theorem Program.play_bind (oracle : Oracle I) (program : Program I First)
    (rest : First → Program I Second) (before : Transcript I) :
    (program.bind rest).play oracle before =
      match program.play oracle before with
      | (some result, reached) => (rest result).play oracle reached
      | (none, reached) => (none, reached) := by
  induction program generalizing before with
  | done result => rfl
  | stuck => rfl
  | observe clock next inductionHypothesis => exact inductionHypothesis _ _
  | await call next inductionHypothesis => exact inductionHypothesis _ _
  | perform call next inductionHypothesis => exact inductionHypothesis _ _
  | spawn call next inductionHypothesis => exact inductionHypothesis _
  | wait call timeout next inductionHypothesis => exact inductionHypothesis _ _
  | abandon call next inductionHypothesis => exact inductionHypothesis _ _
  | emit frame next inductionHypothesis => exact inductionHypothesis _ _

/-- A play adds to its transcript. -/
theorem Program.play_extends (oracle : Oracle I) (program : Program I First)
    (before : Transcript I) : before <:+ (program.play oracle before).2 := by
  induction program generalizing before with
  | done result => exact List.suffix_refl before
  | stuck => exact List.suffix_refl before
  | observe clock next inductionHypothesis =>
      exact (List.suffix_cons _ before).trans (inductionHypothesis _ _)
  | await call next inductionHypothesis =>
      exact (List.suffix_cons _ before).trans (inductionHypothesis _ _)
  | perform call next inductionHypothesis =>
      exact (List.suffix_cons _ before).trans (inductionHypothesis _ _)
  | spawn call next inductionHypothesis =>
      exact (List.suffix_cons _ before).trans (inductionHypothesis _)
  | wait call timeout next inductionHypothesis =>
      exact (List.suffix_cons _ before).trans (inductionHypothesis _ _)
  | abandon call next inductionHypothesis =>
      exact (List.suffix_cons _ before).trans (inductionHypothesis _ _)
  | emit frame next inductionHypothesis =>
      exact (List.suffix_cons _ before).trans (inductionHypothesis _ _)

/-! ## Monad laws -/

theorem Program.bind_done (program : Program I First) : program.bind .done = program := by
  induction program with
  | done result => rfl
  | stuck => rfl
  | observe clock next inductionHypothesis =>
      exact congrArg (Program.observe clock) (funext inductionHypothesis)
  | await call next inductionHypothesis =>
      exact congrArg (Program.await call) (funext inductionHypothesis)
  | perform call next inductionHypothesis =>
      exact congrArg (Program.perform call) (funext inductionHypothesis)
  | spawn call next inductionHypothesis => exact congrArg (Program.spawn call) inductionHypothesis
  | wait call timeout next inductionHypothesis =>
      exact congrArg (Program.wait call timeout) (funext inductionHypothesis)
  | abandon call next inductionHypothesis =>
      exact congrArg (Program.abandon call) (funext inductionHypothesis)
  | emit frame next inductionHypothesis =>
      exact congrArg (Program.emit frame) (funext inductionHypothesis)

theorem Program.bind_assoc (program : Program I First) (middle : First → Program I Second)
    (last : Second → Program I Third) :
    (program.bind middle).bind last = program.bind fun result => (middle result).bind last := by
  induction program with
  | done result => rfl
  | stuck => rfl
  | observe clock next inductionHypothesis =>
      exact congrArg (Program.observe clock) (funext inductionHypothesis)
  | await call next inductionHypothesis =>
      exact congrArg (Program.await call) (funext inductionHypothesis)
  | perform call next inductionHypothesis =>
      exact congrArg (Program.perform call) (funext inductionHypothesis)
  | spawn call next inductionHypothesis => exact congrArg (Program.spawn call) inductionHypothesis
  | wait call timeout next inductionHypothesis =>
      exact congrArg (Program.wait call timeout) (funext inductionHypothesis)
  | abandon call next inductionHypothesis =>
      exact congrArg (Program.abandon call) (funext inductionHypothesis)
  | emit frame next inductionHypothesis =>
      exact congrArg (Program.emit frame) (funext inductionHypothesis)

instance : LawfulMonad (Program I) := LawfulMonad.mk' _ Program.bind_done
  (fun _ _ => rfl) Program.bind_assoc

/-! ## Views -/

/-- A way of looking at calls that keeps the types of their answers. -/
structure View (I : Interface) where
  call : I.Call → I.Call
  answer : ∀ sent, I.Answer (call sent) = I.Answer sent

/-- The program as it looks: its calls are seen through the view. -/
def Program.seen (view : View I) : Program I First → Program I First
  | .done result => .done result
  | .stuck => .stuck
  | .observe clock next => .observe clock fun reading => (next reading).seen view
  | .await call next =>
      .await (view.call call) fun answer => (next (answer.map (cast (view.answer call)))).seen view
  | .perform call next =>
      .perform (view.call call) fun answer =>
        (next (answer.map (cast (view.answer call)))).seen view
  | .spawn call next => .spawn (view.call call) (next.seen view)
  | .wait call timeout next =>
      .wait (view.call call) timeout fun outcome =>
        (next (outcome.map (Option.map (Except.map (cast (view.answer call)))))).seen view
  | .abandon call next => .abandon (view.call call) fun outcome => (next outcome).seen view
  | .emit frame next => .emit frame fun outcome => (next outcome).seen view

theorem Program.seen_bind (view : View I) (program : Program I First)
    (rest : First → Program I Second) :
    (program.bind rest).seen view = (program.seen view).bind fun result => (rest result).seen view := by
  induction program with
  | done result => rfl
  | stuck => rfl
  | observe clock next inductionHypothesis =>
      exact congrArg (Program.observe clock) (funext fun _ => inductionHypothesis _)
  | await call next inductionHypothesis =>
      exact congrArg (Program.await _) (funext fun _ => inductionHypothesis _)
  | perform call next inductionHypothesis =>
      exact congrArg (Program.perform _) (funext fun _ => inductionHypothesis _)
  | spawn call next inductionHypothesis => exact congrArg (Program.spawn _) inductionHypothesis
  | wait call timeout next inductionHypothesis =>
      exact congrArg (Program.wait _ _) (funext fun _ => inductionHypothesis _)
  | abandon call next inductionHypothesis =>
      exact congrArg (Program.abandon _) (funext fun _ => inductionHypothesis _)
  | emit frame next inductionHypothesis =>
      exact congrArg (Program.emit frame) (funext fun _ => inductionHypothesis _)

/-! ## Lockstep -/

/-- Two programs with the same interactions, whatever comes back, and related results. -/
inductive Lockstep (related : First → Second → Prop) : Program I First → Program I Second → Prop
  | done {left : First} {right : Second} (relates : related left right) :
      Lockstep related (.done left) (.done right)
  | stuck : Lockstep related .stuck .stuck
  | observe {clock : I.Clock} {left : Int → Program I First} {right : Int → Program I Second}
      (next : ∀ reading, Lockstep related (left reading) (right reading)) :
      Lockstep related (.observe clock left) (.observe clock right)
  | await {call : I.Call} {left : Except I.Failure (I.Answer call) → Program I First}
      {right : Except I.Failure (I.Answer call) → Program I Second}
      (next : ∀ answer, Lockstep related (left answer) (right answer)) :
      Lockstep related (.await call left) (.await call right)
  | perform {call : I.Call} {left : Except I.Failure (I.Answer call) → Program I First}
      {right : Except I.Failure (I.Answer call) → Program I Second}
      (next : ∀ answer, Lockstep related (left answer) (right answer)) :
      Lockstep related (.perform call left) (.perform call right)
  | spawn {call : I.Call} {left : Program I First} {right : Program I Second}
      (next : Lockstep related left right) :
      Lockstep related (.spawn call left) (.spawn call right)
  | wait {call : I.Call} {timeout : Int}
      {left : Except I.Failure (Option (Except I.Failure (I.Answer call))) → Program I First}
      {right : Except I.Failure (Option (Except I.Failure (I.Answer call))) → Program I Second}
      (next : ∀ outcome, Lockstep related (left outcome) (right outcome)) :
      Lockstep related (.wait call timeout left) (.wait call timeout right)
  | abandon {call : I.Call} {left : Except I.Failure Unit → Program I First}
      {right : Except I.Failure Unit → Program I Second}
      (next : ∀ outcome, Lockstep related (left outcome) (right outcome)) :
      Lockstep related (.abandon call left) (.abandon call right)
  | emit {frame : I.Frame} {left : Except I.Failure Unit → Program I First}
      {right : Except I.Failure Unit → Program I Second}
      (next : ∀ outcome, Lockstep related (left outcome) (right outcome)) :
      Lockstep related (.emit frame left) (.emit frame right)

namespace Lockstep

variable {related : First → Second → Prop} {continued : Third → Fourth → Prop}

/-- A program is in lockstep with itself. -/
theorem refl {same : First → First → Prop} (reflexive : ∀ result, same result result)
    (program : Program I First) : Lockstep same program program := by
  induction program with
  | done result => exact .done (reflexive result)
  | stuck => exact .stuck
  | observe clock next inductionHypothesis => exact .observe inductionHypothesis
  | await call next inductionHypothesis => exact .await inductionHypothesis
  | perform call next inductionHypothesis => exact .perform inductionHypothesis
  | spawn call next inductionHypothesis => exact .spawn inductionHypothesis
  | wait call timeout next inductionHypothesis => exact .wait inductionHypothesis
  | abandon call next inductionHypothesis => exact .abandon inductionHypothesis
  | emit frame next inductionHypothesis => exact .emit inductionHypothesis

theorem bind {left : Program I First} {right : Program I Second}
    {leftRest : First → Program I Third} {rightRest : Second → Program I Fourth}
    (steps : Lockstep related left right)
    (rest : ∀ first second, related first second →
      Lockstep continued (leftRest first) (rightRest second)) :
    Lockstep continued (left.bind leftRest) (right.bind rightRest) := by
  induction steps with
  | done relates => exact rest _ _ relates
  | stuck => exact .stuck
  | observe _ inductionHypothesis => exact .observe inductionHypothesis
  | await _ inductionHypothesis => exact .await inductionHypothesis
  | perform _ inductionHypothesis => exact .perform inductionHypothesis
  | spawn _ inductionHypothesis => exact .spawn inductionHypothesis
  | wait _ inductionHypothesis => exact .wait inductionHypothesis
  | abandon _ inductionHypothesis => exact .abandon inductionHypothesis
  | emit _ inductionHypothesis => exact .emit inductionHypothesis

/-- **Programs in lockstep play alike against every oracle.** -/
theorem play {left : Program I First} {right : Program I Second}
    (steps : Lockstep related left right) (oracle : Oracle I) (before : Transcript I) :
    (right.play oracle before).2 = (left.play oracle before).2 ∧
      Option.Rel related (left.play oracle before).1 (right.play oracle before).1 := by
  induction steps generalizing before with
  | done relates => exact ⟨rfl, .some relates⟩
  | stuck => exact ⟨rfl, .none⟩
  | observe _ inductionHypothesis => exact inductionHypothesis _ _
  | await _ inductionHypothesis => exact inductionHypothesis _ _
  | perform _ inductionHypothesis => exact inductionHypothesis _ _
  | spawn _ inductionHypothesis => exact inductionHypothesis _
  | wait _ inductionHypothesis => exact inductionHypothesis _ _
  | abandon _ inductionHypothesis => exact inductionHypothesis _ _
  | emit _ inductionHypothesis => exact inductionHypothesis _ _

end Lockstep

/-! ## Routines -/

namespace Routine

variable {Locals : Type}

/-- The run of a routine, as it looks, against an oracle. -/
def play (view : View I) (oracle : Oracle I) (routine : Routine I Locals First) (locals : Locals)
    (before : Transcript I) : Option (Except I.Failure First × Locals) × Transcript I :=
  ((routine.start locals).seen view).play oracle before

theorem seen_bind (view : View I) (routine : Routine I Locals First)
    (rest : First → Routine I Locals Second) (locals : Locals) :
    ((routine >>= rest).start locals).seen view =
      ((routine.start locals).seen view).bind fun outcome =>
        match outcome with
        | (.ok value, reached) => ((rest value).start reached).seen view
        | (.error failure, reached) => .done (.error failure, reached) := by
  refine (Program.seen_bind view _ _).trans (congrArg (Program.bind _) (funext ?_))
  rintro ⟨outcome, reached⟩
  cases outcome with
  | ok value => rfl
  | error failure => rfl

theorem seen_tryCatch (view : View I) (routine : Routine I Locals First)
    (handler : I.Failure → Routine I Locals First) (locals : Locals) :
    ((MonadExcept.tryCatch routine handler).start locals).seen view =
      ((routine.start locals).seen view).bind fun outcome =>
        match outcome with
        | (.ok value, reached) => .done (.ok value, reached)
        | (.error failure, reached) => ((handler failure).start reached).seen view := by
  refine (Program.seen_bind view _ _).trans (congrArg (Program.bind _) (funext ?_))
  rintro ⟨outcome, reached⟩
  cases outcome with
  | ok value => rfl
  | error failure => rfl

theorem seen_andFinally (view : View I) (body : Routine I Locals First)
    (cleanup : Routine I Locals Unit) (locals : Locals) :
    ((body.andFinally cleanup).start locals).seen view =
      ((body.start locals).seen view).bind fun outcome =>
        ((cleanup.start outcome.2).seen view).bind fun cleaned =>
          match cleaned.1 with
          | .ok () => .done (outcome.1, cleaned.2)
          | .error failure => .done (.error failure, cleaned.2) := by
  refine (Program.seen_bind view _ _).trans (congrArg (Program.bind _) (funext fun outcome => ?_))
  refine (Program.seen_bind view _ _).trans (congrArg (Program.bind _) (funext ?_))
  rintro ⟨cleaned, reached⟩
  cases cleaned with
  | ok done => rfl
  | error failure => rfl

end Routine

section Agree

variable {Locals : Type} {view : View I} {related : First → Second → Prop}
  {continued : Third → Fourth → Prop}

/-- Two ends of routines: the same failure or related values, and the same variables. -/
inductive SameEnd (related : First → Second → Prop) :
    Except I.Failure First × Locals → Except I.Failure Second × Locals → Prop
  | ok {left : First} {right : Second} {locals : Locals} (relates : related left right) :
      SameEnd related (.ok left, locals) (.ok right, locals)
  | error {failure : I.Failure} {locals : Locals} :
      SameEnd related (.error failure, locals) (.error failure, locals)

/-- From the same variables, two routines look alike under the view. -/
def Agree (view : View I) (related : First → Second → Prop) (left : Routine I Locals First)
    (right : Routine I Locals Second) : Prop :=
  ∀ locals, Lockstep (SameEnd related) ((left.start locals).seen view)
    ((right.start locals).seen view)

namespace Agree

theorem refl {same : First → First → Prop} (reflexive : ∀ result, same result result)
    (routine : Routine I Locals First) : Agree view same routine routine := by
  intro locals
  apply Lockstep.refl
  rintro ⟨outcome, left⟩
  cases outcome with
  | ok value => exact .ok (reflexive value)
  | error failure => exact .error

theorem pure {left : First} {right : Second} (relates : related left right) :
    Agree view related (Pure.pure left : Routine I Locals First) (Pure.pure right) :=
  fun _ => .done (.ok relates)

theorem throw (failure : I.Failure) : Agree view related
    (MonadExcept.throw failure : Routine I Locals First) (MonadExcept.throw failure) :=
  fun _ => .done .error

theorem bind {left : Routine I Locals First} {right : Routine I Locals Second}
    {leftRest : First → Routine I Locals Third} {rightRest : Second → Routine I Locals Fourth}
    (agree : Agree view related left right)
    (rest : ∀ first second, related first second →
      Agree view continued (leftRest first) (rightRest second)) :
    Agree view continued (left >>= leftRest) (right >>= rightRest) := by
  intro locals
  rw [Routine.seen_bind, Routine.seen_bind]
  refine (agree locals).bind fun first second same => ?_
  cases same with
  | ok relates => exact rest _ _ relates _
  | error => exact .done .error

theorem tryCatch {left : Routine I Locals First} {right : Routine I Locals Second}
    {leftHandler : I.Failure → Routine I Locals First}
    {rightHandler : I.Failure → Routine I Locals Second}
    (agree : Agree view related left right)
    (handle : ∀ failure, Agree view related (leftHandler failure) (rightHandler failure)) :
    Agree view related (MonadExcept.tryCatch left leftHandler)
      (MonadExcept.tryCatch right rightHandler) := by
  intro locals
  rw [Routine.seen_tryCatch, Routine.seen_tryCatch]
  refine (agree locals).bind fun first second same => ?_
  cases same with
  | ok relates => exact .done (.ok relates)
  | error => exact handle _ _

theorem spawn {left right : I.Call} (same : view.call left = view.call right) :
    Agree view Eq (Routine.spawn left : Routine I Locals Unit) (Routine.spawn right) := by
  intro locals
  simp only [Routine.spawn, Routine.of, Routine.start, ExceptT.run_mk, StateT.run, Program.seen, same]
  exact .spawn (.done (.ok rfl))

theorem abandon {left right : I.Call} (same : view.call left = view.call right) :
    Agree view Eq (Routine.abandon left : Routine I Locals Unit) (Routine.abandon right) := by
  intro locals
  simp only [Routine.abandon, Routine.of, Routine.start, ExceptT.run_mk, StateT.run, Program.seen,
    same]
  refine .abandon fun outcome => ?_
  cases outcome with
  | ok value => exact .done (.ok rfl)
  | error failure => exact .done .error

end Agree

/-! ## Failing alike -/

/-- Where the second run fails, the first fails in the same way after the same
interactions; where the second returns, the first goes on with a given interaction. -/
structure FailsAlike (onwards : Second → Interaction I)
    (first : Option (Except I.Failure First × Locals) × Transcript I)
    (second : Option (Except I.Failure Second × Locals) × Transcript I) : Prop where
  failing : ∀ failure locals after, second = (some (.error failure, locals), after) →
    first = (some (.error failure, locals), after)
  stuck : ∀ after, second = (none, after) → first = (none, after)
  returning : ∀ value locals after, second = (some (.ok value, locals), after) →
    onwards value :: after <:+ first.2

namespace FailsAlike

variable {oracle : Oracle I} {locals : Locals} {before : Transcript I}
  {onwards : Second → Interaction I}

theorem failed (failure : I.Failure) (locals : Locals) (after : Transcript I) :
    FailsAlike onwards
      ((some (.error failure, locals), after) : Option (Except I.Failure First × Locals) × _)
      (some (.error failure, locals), after) where
  failing := by
    intro other reached last same
    cases same
    rfl
  stuck := by
    intro last impossible
    cases impossible
  returning := by
    intro value reached last impossible
    cases impossible

theorem unfinished (after : Transcript I) : FailsAlike onwards
    ((none, after) : Option (Except I.Failure First × Locals) × _) (none, after) where
  failing := by
    intro other reached last impossible
    cases impossible
  stuck := by
    intro last same
    cases same
    rfl
  returning := by
    intro value reached last impossible
    cases impossible

theorem returned {value : Second} {after : Transcript I}
    {first : Option (Except I.Failure First × Locals) × Transcript I}
    (goesOn : onwards value :: after <:+ first.2) :
    FailsAlike onwards first (some (.ok value, locals), after) where
  failing := by
    intro other reached last impossible
    cases impossible
  stuck := by
    intro last impossible
    cases impossible
  returning := by
    intro result reached last same
    cases same
    exact goesOn

/-- Routines that agree and never return. -/
theorem of_agree {left : Routine I Locals First} {right : Routine I Locals Second}
    (agree : Agree view (fun _ _ => False) left right) :
    FailsAlike onwards (left.play view oracle locals before)
      (right.play view oracle locals before) := by
  obtain ⟨sameAfter, ends⟩ := (agree locals).play oracle before
  unfold Routine.play
  cases leftPlay : ((left.start locals).seen view).play oracle before with
  | mk leftEnd leftAfter =>
      cases rightPlay : ((right.start locals).seen view).play oracle before with
      | mk rightEnd rightAfter =>
          rw [leftPlay, rightPlay] at sameAfter ends
          simp only at sameAfter ends
          subst sameAfter
          cases ends with
          | none => exact unfinished _
          | some same =>
              cases same with
              | ok relates => exact relates.elim
              | error => exact failed _ _ _

theorem bind {left : Routine I Locals First} {right : Routine I Locals Second}
    {leftRest : First → Routine I Locals Third} {rightRest : Second → Routine I Locals Fourth}
    {onwards : Fourth → Interaction I} (agree : Agree view related left right)
    (rest : ∀ first second reached after, related first second →
      FailsAlike onwards ((leftRest first).play view oracle reached after)
        ((rightRest second).play view oracle reached after)) :
    FailsAlike onwards ((left >>= leftRest).play view oracle locals before)
      ((right >>= rightRest).play view oracle locals before) := by
  obtain ⟨sameAfter, ends⟩ := (agree locals).play oracle before
  unfold Routine.play
  rw [Routine.seen_bind, Routine.seen_bind, Program.play_bind, Program.play_bind]
  cases leftPlay : ((left.start locals).seen view).play oracle before with
  | mk leftEnd leftAfter =>
      cases rightPlay : ((right.start locals).seen view).play oracle before with
      | mk rightEnd rightAfter =>
          rw [leftPlay, rightPlay] at sameAfter ends
          simp only at sameAfter ends
          subst sameAfter
          cases ends with
          | none => exact unfinished _
          | some same =>
              cases same with
              | ok relates => exact rest _ _ _ _ relates
              | error => exact failed _ _ _

theorem ite {condition : Prop} [Decidable condition] {left leftElse : Routine I Locals First}
    {right rightElse : Routine I Locals Second}
    (yes : condition → FailsAlike onwards (left.play view oracle locals before)
      (right.play view oracle locals before))
    (no : ¬condition → FailsAlike onwards (leftElse.play view oracle locals before)
      (rightElse.play view oracle locals before)) :
    FailsAlike onwards
      ((if condition then left else leftElse : Routine I Locals First).play view oracle locals
        before)
      ((if condition then right else rightElse : Routine I Locals Second).play view oracle locals
        before) := by
  by_cases holds : condition
  · rw [if_pos holds, if_pos holds]
    exact yes holds
  · rw [if_neg holds, if_neg holds]
    exact no holds

/-- A body that cleans up at its end, against one that cleans up where it fails. -/
theorem cleanup {body : Routine I Locals First} {other : Routine I Locals Second}
    {cleanup : Routine I Locals Unit} {handler : I.Failure → Routine I Locals Second}
    (handles : ∀ failure, handler failure = cleanup >>= fun _ => MonadExcept.throw failure)
    (alike : FailsAlike onwards (body.play view oracle locals before)
      (other.play view oracle locals before)) :
    FailsAlike onwards ((body.andFinally cleanup).play view oracle locals before)
      ((MonadExcept.tryCatch other handler).play view oracle locals before) := by
  unfold Routine.play at alike ⊢
  rw [Routine.seen_andFinally, Routine.seen_tryCatch, Program.play_bind, Program.play_bind]
  cases otherPlay : ((other.start locals).seen view).play oracle before with
  | mk otherEnd after =>
      rw [otherPlay] at alike
      cases otherEnd with
      | none =>
          rw [alike.stuck after rfl]
          exact unfinished _
      | some ended =>
          obtain ⟨outcome, reached⟩ := ended
          cases outcome with
          | error failure =>
              rw [alike.failing failure reached after rfl]
              simp only [handles, Routine.seen_bind, Program.play_bind]
              cases ((cleanup.start reached).seen view).play oracle after with
              | mk cleaned last =>
                  cases cleaned with
                  | none => exact unfinished _
                  | some cleaned =>
                      obtain ⟨outcome, final⟩ := cleaned
                      cases outcome with
                      | ok done => exact failed _ _ _
                      | error other => exact failed _ _ _
          | ok value =>
              apply returned
              refine (alike.returning value reached after rfl).trans ?_
              cases ((body.start locals).seen view).play oracle before with
              | mk bodyEnd bodyAfter =>
                  cases bodyEnd with
                  | none => exact List.suffix_refl _
                  | some ended => exact Program.play_extends oracle _ bodyAfter

end FailsAlike

end Agree

end Zangpu.Foundation
