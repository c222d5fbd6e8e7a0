import Zangpu.Foundation.Assertions

/-!
What a program does of itself, and what it keeps by that alone.

Owns: manners, which say what a program may send, spawn and emit whatever it is
answered; the rules that check a routine against them; the proof that a program
with manners keeps every invariant that tolerates them; and the calls that take effect
in a session of such a program.

Does not own: programs that perform calls without suspending.
-/

set_option autoImplicit false

namespace Zangpu.Foundation

structure Manners (I : Interface) where
  sends : I.Call → Prop
  spawns : I.Call → Prop
  emits : I.Frame → Prop

/-- The permitted calls, sent or spawned, and any frame. -/
def Manners.calls {I : Interface} (permits : I.Call → Prop) : Manners I :=
  ⟨permits, permits, fun _ => True⟩

section Keeps

variable {I : Interface} {First Second : Type} (manners : Manners I)

/-- The program does nothing outside its manners, whatever it is answered. -/
def Keeps {Result : Type} : Program I Result → Prop
  | .done _ | .stuck => True
  | .observe _ next => ∀ reading, Keeps (next reading)
  | .await call next => manners.sends call ∧ ∀ answer, Keeps (next answer)
  | .perform _ _ => False
  | .spawn call next => manners.spawns call ∧ Keeps next
  | .wait call _ next => manners.spawns call ∧ ∀ outcome, Keeps (next outcome)
  | .abandon _ next => ∀ outcome, Keeps (next outcome)
  | .emit frame next => manners.emits frame ∧ ∀ outcome, Keeps (next outcome)

variable {manners}

theorem Keeps.bind {program : Program I First} {rest : First → Program I Second}
    (keeps : Keeps manners program) (keepsRest : ∀ result, Keeps manners (rest result)) :
    Keeps manners (program.bind rest) := by
  induction program with
  | done result => exact keepsRest result
  | stuck => exact keeps
  | observe clock next inductionHypothesis =>
      exact fun reading => inductionHypothesis reading (keeps reading)
  | await call next inductionHypothesis =>
      exact ⟨keeps.1, fun answer => inductionHypothesis answer (keeps.2 answer)⟩
  | perform call next => exact keeps.elim
  | spawn call next inductionHypothesis => exact ⟨keeps.1, inductionHypothesis keeps.2⟩
  | wait call timeout next inductionHypothesis =>
      exact ⟨keeps.1, fun outcome => inductionHypothesis outcome (keeps.2 outcome)⟩
  | abandon call next inductionHypothesis =>
      exact fun outcome => inductionHypothesis outcome (keeps outcome)
  | emit frame next inductionHypothesis =>
      exact ⟨keeps.1, fun outcome => inductionHypothesis outcome (keeps.2 outcome)⟩

/-- Every result of the program meets the goal, whatever it is answered. -/
def Ends {Result : Type} (goal : Result → Prop) : Program I Result → Prop
  | .done result => goal result
  | .stuck => True
  | .observe _ next => ∀ reading, Ends goal (next reading)
  | .await _ next | .perform _ next => ∀ answer, Ends goal (next answer)
  | .spawn _ next => Ends goal next
  | .wait _ _ next => ∀ outcome, Ends goal (next outcome)
  | .abandon _ next | .emit _ next => ∀ outcome, Ends goal (next outcome)

theorem Ends.bind {goal : Second → Prop} {program : Program I First}
    {rest : First → Program I Second} (endsRest : ∀ result, Ends goal (rest result)) :
    Ends goal (program.bind rest) := by
  induction program with
  | done result => exact endsRest result
  | stuck => trivial
  | spawn call next inductionHypothesis => exact inductionHypothesis
  | observe clock next inductionHypothesis => exact fun reading => inductionHypothesis reading
  | await call next inductionHypothesis | perform call next inductionHypothesis =>
      exact fun answer => inductionHypothesis answer
  | wait call timeout next inductionHypothesis => exact fun outcome => inductionHypothesis outcome
  | abandon call next inductionHypothesis | emit frame next inductionHypothesis =>
      exact fun outcome => inductionHypothesis outcome

/-- What follows a program keeps the manners after the results the program has. -/
theorem Keeps.bind_of_ends {goal : First → Prop} {program : Program I First}
    {rest : First → Program I Second} (keeps : Keeps manners program) (ends : Ends goal program)
    (keepsRest : ∀ result, goal result → Keeps manners (rest result)) :
    Keeps manners (program.bind rest) := by
  induction program with
  | done result => exact keepsRest result ends
  | stuck => trivial
  | observe clock next inductionHypothesis =>
      exact fun reading => inductionHypothesis reading (keeps reading) (ends reading)
  | await call next inductionHypothesis =>
      exact ⟨keeps.1, fun answer => inductionHypothesis answer (keeps.2 answer) (ends answer)⟩
  | perform call next => exact keeps.elim
  | spawn call next inductionHypothesis => exact ⟨keeps.1, inductionHypothesis keeps.2 ends⟩
  | wait call timeout next inductionHypothesis =>
      exact ⟨keeps.1, fun outcome => inductionHypothesis outcome (keeps.2 outcome) (ends outcome)⟩
  | abandon call next inductionHypothesis =>
      exact fun outcome => inductionHypothesis outcome (keeps outcome) (ends outcome)
  | emit frame next inductionHypothesis =>
      exact ⟨keeps.1, fun outcome => inductionHypothesis outcome (keeps.2 outcome) (ends outcome)⟩

end Keeps

/-! ## Routines -/

/-- The routine keeps its manners from any local variables. -/
def Mannered {I : Interface} {Locals Result : Type} (manners : Manners I)
    (routine : Routine I Locals Result) : Prop :=
  ∀ locals, Keeps manners (routine.start locals)

/-- Every value the routine returns meets the goal. -/
def Yields {I : Interface} {Locals Result : Type} (goal : Result → Prop)
    (routine : Routine I Locals Result) : Prop :=
  ∀ locals, Ends (fun outcome => ∀ value, outcome.1 = .ok value → goal value)
    (routine.start locals)

section Mannered

variable {I : Interface} {Locals First Second : Type} {manners : Manners I}

theorem Mannered.pure (value : First) : Mannered manners (Pure.pure value : Routine I Locals First) :=
  fun _ => trivial

theorem Mannered.throw (failure : I.Failure) :
    Mannered manners (MonadExcept.throw failure : Routine I Locals First) := fun _ => trivial

theorem Mannered.reply (outcome : Except I.Failure First) :
    Mannered manners (Routine.reply outcome : Routine I Locals First) := fun _ => trivial

theorem Mannered.exhausted : Mannered manners (Routine.exhausted : Routine I Locals First) :=
  fun _ => trivial

theorem Mannered.observe (clock : I.Clock) :
    Mannered manners (Routine.observe clock : Routine I Locals Int) := fun _ _ => trivial

theorem Mannered.get : Mannered manners (MonadState.get : Routine I Locals Locals) := fun _ => trivial

theorem Mannered.set (locals : Locals) :
    Mannered manners (MonadStateOf.set locals : Routine I Locals PUnit) := fun _ => trivial

theorem Mannered.modify (change : Locals → Locals) :
    Mannered manners (modify change : Routine I Locals PUnit) := fun _ => trivial

theorem Mannered.await {call : I.Call} (may : manners.sends call) :
    Mannered manners (Routine.await call : Routine I Locals (I.Answer call)) :=
  fun _ => ⟨may, fun _ => trivial⟩

theorem Mannered.spawn {call : I.Call} (may : manners.spawns call) :
    Mannered manners (Routine.spawn call : Routine I Locals Unit) := fun _ => ⟨may, trivial⟩

theorem Mannered.wait {call : I.Call} (timeout : Int) (may : manners.spawns call) :
    Mannered manners (Routine.wait call timeout :
      Routine I Locals (Option (Except I.Failure (I.Answer call)))) :=
  fun _ => ⟨may, fun _ => trivial⟩

theorem Mannered.abandon (call : I.Call) :
    Mannered manners (Routine.abandon call : Routine I Locals Unit) := fun _ _ => trivial

theorem Mannered.emit {frame : I.Frame} (may : manners.emits frame) :
    Mannered manners (Routine.emit frame : Routine I Locals Unit) :=
  fun _ => ⟨may, fun _ => trivial⟩

theorem Mannered.bind {routine : Routine I Locals First} {rest : First → Routine I Locals Second}
    (mannered : Mannered manners routine) (manneredRest : ∀ value, Mannered manners (rest value)) :
    Mannered manners (routine >>= rest) := by
  intro locals
  apply Keeps.bind (mannered locals)
  rintro ⟨outcome, left⟩
  cases outcome with
  | ok value => exact manneredRest value left
  | error failure => trivial

/-- What follows a routine has manners after the values the routine returns. -/
theorem Mannered.bind_of_yields {goal : First → Prop} {routine : Routine I Locals First}
    {rest : First → Routine I Locals Second} (mannered : Mannered manners routine)
    (yields : Yields goal routine) (manneredRest : ∀ value, goal value → Mannered manners (rest value)) :
    Mannered manners (routine >>= rest) := by
  intro locals
  apply Keeps.bind_of_ends (mannered locals) (yields locals)
  rintro ⟨outcome, left⟩ met
  cases outcome with
  | ok value => exact manneredRest value (met value rfl) left
  | error failure => trivial

theorem Mannered.ite {condition : Prop} [Decidable condition]
    {routine other : Routine I Locals First} (mannered : Mannered manners routine)
    (manneredOther : Mannered manners other) :
    Mannered manners (if condition then routine else other) := by
  split
  · exact mannered
  · exact manneredOther

theorem Mannered.tryCatch {routine : Routine I Locals First} {handler : I.Failure → Routine I Locals First}
    (mannered : Mannered manners routine)
    (manneredHandler : ∀ failure, Mannered manners (handler failure)) :
    Mannered manners (MonadExcept.tryCatch routine handler) := by
  intro locals
  apply Keeps.bind (mannered locals)
  rintro ⟨outcome, left⟩
  cases outcome with
  | ok value => trivial
  | error failure => exact manneredHandler failure left

theorem Mannered.andFinally {routine : Routine I Locals First} {cleanup : Routine I Locals Unit}
    (mannered : Mannered manners routine) (manneredCleanup : Mannered manners cleanup) :
    Mannered manners (routine.andFinally cleanup) := by
  intro locals
  apply Keeps.bind (mannered locals)
  intro outcome
  apply Keeps.bind (manneredCleanup outcome.2)
  rintro ⟨cleaned, left⟩
  cases cleaned <;> trivial

theorem Yields.pure {goal : First → Prop} {value : First} (met : goal value) :
    Yields goal (Pure.pure value : Routine I Locals First) := by
  rintro locals _ ⟨⟩
  exact met

theorem Yields.throw {goal : First → Prop} (failure : I.Failure) :
    Yields goal (MonadExcept.throw failure : Routine I Locals First) := by
  rintro locals _ ⟨⟩

theorem Yields.bind {goal : Second → Prop} {routine : Routine I Locals First}
    {rest : First → Routine I Locals Second} (yieldsRest : ∀ value, Yields goal (rest value)) :
    Yields goal (routine >>= rest) := by
  intro locals
  apply Ends.bind
  rintro ⟨outcome, left⟩
  cases outcome with
  | ok value => exact yieldsRest value left
  | error failure => rintro _ ⟨⟩

theorem Yields.ite {goal : First → Prop} {condition : Prop} [Decidable condition]
    {routine other : Routine I Locals First} (yields : Yields goal routine)
    (yieldsOther : Yields goal other) : Yields goal (if condition then routine else other) := by
  split
  · exact yields
  · exact yieldsOther

end Mannered

/-! ## Invariants -/

/-- The awaited call takes effect. -/
def Act.isExecution {I : Interface} {Change : Type} : Act I Change → Bool
  | .executes _ _ => true
  | _ => false

section Tolerates

variable {I : Interface} {World Change : Type} [DecidableEq I.Call]
variable (setting : Setting I World Change) (rules : Rules I World Change) (manners : Manners I)

/-- An invariant that nothing a program with manners does, and nothing that happens
to it, breaks; and that owes what the rules owe. -/
structure Tolerates (Invariant : Situation I World → Prop) : Prop where
  always : ∀ situation, Invariant situation → rules.always situation
  sends : ∀ situation call, Invariant situation → manners.sends call →
    rules.permits situation (.sends call)
  spawns : ∀ situation call, Invariant situation → manners.spawns call →
    rules.permits situation (.spawns call)
  joins : ∀ situation call, Invariant situation → manners.spawns call →
    rules.permits situation (.joins call)
  emits : ∀ situation frame, Invariant situation → manners.emits frame →
    rules.permits situation (.emits frame)
  stirs : ∀ waiting before act after, (∀ call, waiting = .call call → manners.sends call) →
    Invariant before.toSituation → rules.assumes before act →
      Stirs setting waiting before act after → Invariant after.toSituation
  leaves : ∀ (pause : Pause I World) call, Invariant pause.toSituation → manners.sends call →
    Invariant { pause.toSituation with orphans := call :: pause.orphans }
  starts : ∀ situation call, Invariant situation → manners.spawns call →
    Invariant (situation.withTask (some ⟨call, none⟩))
  takes : ∀ situation, Invariant situation → Invariant (situation.withTask none)
  drops : ∀ situation, Invariant situation → Invariant situation.dropTask

variable {setting rules manners} {Invariant : Situation I World → Prop}

theorem Tolerates.stirred (tolerates : Tolerates setting rules manners Invariant)
    {waiting : Waiting I} {start pause : Pause I World}
    (may : ∀ call, waiting = .call call → manners.sends call) (initial : Invariant start.toSituation)
    (stirred : Stirred setting rules waiting start pause) : Invariant pause.toSituation :=
  Stirred.invariant (fun reached => Invariant reached.toSituation) initial
    (fun before act after invariant assumed stirs =>
      tolerates.stirs waiting before act after may invariant assumed stirs) stirred

omit [DecidableEq I.Call] in
theorem Tolerates.leave (tolerates : Tolerates setting rules manners Invariant)
    {pause : Pause I World} {call : I.Call} (invariant : Invariant pause.toSituation)
    (may : manners.sends call) : Invariant (pause.leave call) := by
  unfold Pause.leave
  split
  · exact tolerates.leaves pause call invariant may
  · exact invariant

/-- A program with manners keeps what tolerates them. -/
theorem Tolerates.upholds {Result : Type} (tolerates : Tolerates setting rules manners Invariant)
    {program : Program I Result} {situation : Situation I World} (keeps : Keeps manners program)
    (initial : Invariant situation) :
    Upholds setting rules program situation fun _ reached => Invariant reached := by
  have always := tolerates.always
  induction program generalizing situation with
  | done result => exact ⟨always _ initial, initial⟩
  | stuck => exact always _ initial
  | observe clock next inductionHypothesis =>
      exact ⟨always _ initial, fun reading _ => inductionHypothesis reading (keeps reading) initial⟩
  | await call next inductionHypothesis =>
      refine ⟨always _ initial, tolerates.sends _ _ initial keeps.1, fun pause stirred => ?_⟩
      have reached := tolerates.stirred (by rintro _ ⟨⟩; exact keeps.1) initial stirred
      exact ⟨always _ reached,
        fun answer _ _ => inductionHypothesis answer (keeps.2 answer) reached,
        fun failure _ _ => inductionHypothesis _ (keeps.2 _) (tolerates.leave reached keeps.1)⟩
  | perform call next => exact keeps.elim
  | spawn call next inductionHypothesis =>
      exact ⟨always _ initial, tolerates.spawns _ _ initial keeps.1,
        fun _ => inductionHypothesis keeps.2 (tolerates.starts _ _ initial keeps.1)⟩
  | wait call timeout next inductionHypothesis =>
      refine ⟨always _ initial, fun pause stirred => ?_⟩
      have reached := tolerates.stirred (by rintro _ ⟨⟩) initial stirred
      exact ⟨always _ reached,
        fun answer _ => ⟨tolerates.joins _ _ reached keeps.1,
          inductionHypothesis _ (keeps.2 _) (tolerates.takes _ reached)⟩,
        fun _ _ => inductionHypothesis _ (keeps.2 _) reached,
        fun failure _ _ => inductionHypothesis _ (keeps.2 _) reached⟩
  | abandon call next inductionHypothesis =>
      exact ⟨always _ initial,
        fun outcome _ _ => inductionHypothesis _ (keeps outcome) (tolerates.drops _ initial)⟩
  | emit frame next inductionHypothesis =>
      refine ⟨always _ initial, tolerates.emits _ _ initial keeps.1, fun pause stirred => ?_⟩
      have reached := tolerates.stirred (by rintro _ ⟨⟩) initial stirred
      exact ⟨always _ reached, fun _ => inductionHypothesis _ (keeps.2 _) reached,
        fun failure _ _ => inductionHypothesis _ (keeps.2 _) reached⟩

/-- A routine with manners keeps what tolerates them. -/
theorem Tolerates.maintains {Locals Result : Type}
    (tolerates : Tolerates setting rules manners Invariant)
    {routine : Routine I Locals Result} {locals : Locals} {situation : Situation I World}
    (mannered : Mannered manners routine) (initial : Invariant situation) :
    Maintains setting rules routine locals situation fun _ _ reached => Invariant reached :=
  tolerates.upholds (mannered locals) initial

end Tolerates

/-! ## Sessions -/

/-- The call that takes effect with an act. -/
def Act.served? {I : Interface} {Change : Type} : Act I Change → Option I.Call
  | .performs call _ | .executes call _ | .finishes call _ | .late _ call _ => some call
  | _ => none

section Behaves

variable {I : Interface} {World Change Result : Type}

/-- A session whose code, task and orphans are within the permitted calls. -/
structure Behaves (permits : I.Call → Prop) (session : Session I World Result) : Prop where
  keeps : Keeps (.calls permits) session.code
  task : ∀ running ∈ session.task, permits running.call
  orphans : ∀ call ∈ session.orphans, permits call

variable [DecidableEq I.Call] [DecidableEq I.Frame] {setting : Setting I World Change}
  {permits : I.Call → Prop}

omit [DecidableEq I.Call] [DecidableEq I.Frame] in
/-- Code within the permitted calls is entered with no call under way. -/
theorem Behaves.enter {situation : Situation I World} {code : Program I Result}
    (keeps : Keeps (.calls permits) code) (idle : situation.task = none)
    (settled : situation.orphans = []) : Behaves permits (situation.enter code) := by
  refine ⟨keeps, ?_, ?_⟩
  · show ∀ running ∈ situation.task, permits running.call
    simp [idle]
  · show ∀ call ∈ situation.orphans, permits call
    simp [settled]

omit [DecidableEq I.Call] [DecidableEq I.Frame] in
/-- A call nothing waits for any more was awaited before. -/
theorem orphans_of_leave {pause : Pause I World} {awaited : I.Call} (permitted : permits awaited)
    (earlier : ∀ call ∈ pause.orphans, permits call) :
    ∀ call ∈ (pause.leave awaited).orphans, permits call := by
  unfold Pause.leave
  split
  · exact List.forall_mem_cons.mpr ⟨permitted, earlier⟩
  · exact earlier

omit [DecidableEq I.Call] [DecidableEq I.Frame] in
theorem task_of_leave (pause : Pause I World) (awaited : I.Call) :
    (pause.leave awaited).task = pause.task := by
  unfold Pause.leave
  split <;> rfl

omit [DecidableEq I.Call] [DecidableEq I.Frame] in
theorem orphans_of_dropTask {situation : Situation I World}
    (task : ∀ running ∈ situation.task, permits running.call)
    (earlier : ∀ call ∈ situation.orphans, permits call) :
    ∀ call ∈ situation.dropTask.orphans, permits call := by
  intro call member
  rcases List.mem_append.mp member with dropped | before
  · unfold Task.running at dropped
    split at dropped
    · rename_i running task_
      rw [List.mem_singleton.mp dropped]
      exact task _ task_
    · cases dropped
  · exact earlier call before

theorem Behaves.proceed {session after : Session I World Result} {act : Act I Change}
    (behaves : Behaves permits session) (proceeds : setting.proceed session act = some after) :
    Behaves permits after := by
  obtain ⟨pause, code⟩ := session
  obtain ⟨keeps, task, orphans⟩ := behaves
  cases proceeds_of_proceed proceeds with
  | observes => exact ⟨keeps _, task, orphans⟩
  | sends | emits => exact ⟨keeps, task, orphans⟩
  | replies => exact ⟨keeps.2 _, task, orphans⟩
  | fails =>
      refine ⟨keeps.2 _, ?_, orphans_of_leave keeps.1 orphans⟩
      show ∀ running ∈ (pause.leave _).task, _
      rw [task_of_leave]
      exact task
  | performs => exact keeps.elim
  | spawns => exact ⟨keeps.2, by rintro _ ⟨⟩; exact keeps.1, orphans⟩
  | joins => exact ⟨keeps.2 _, nofun, orphans⟩
  | expires | interrupts | resumes | throws => exact ⟨keeps.2 _, task, orphans⟩
  | abandons => exact ⟨keeps _, nofun, orphans_of_dropTask task orphans⟩

/-- Every act keeps the session within the permitted calls. -/
theorem Behaves.advance {session after : Session I World Result} {act : Act I Change}
    (behaves : Behaves permits session) (advances : setting.advance session act = some after) :
    Behaves permits after := by
  unfold Setting.advance at advances
  split at advances
  · rename_i proceeds
    cases advances
    exact behaves.proceed proceeds
  · split at advances
    · rename_i waiting waits
      obtain ⟨pause, stirred, rfl⟩ := Option.map_eq_some_iff.mp advances
      obtain ⟨keeps, task, orphans⟩ := behaves
      cases stirs_of_stir stirred with
      | executes | changes | elapses => exact ⟨keeps, task, orphans⟩
      | finishes running =>
          have permitted := task _ running
          exact ⟨keeps, by rintro _ ⟨⟩; exact permitted, orphans⟩
      | late | drops =>
          exact ⟨keeps, task, fun call member =>
            orphans call ((List.eraseIdx_sublist _ _).subset member)⟩
    · cases advances

/-- A call that takes effect is a permitted one, served in the world it finds. -/
theorem Behaves.served {session after : Session I World Result} {act : Act I Change} {call : I.Call}
    (behaves : Behaves permits session) (advances : setting.advance session act = some after)
    (serves : act.served? = some call) :
    permits call ∧ ∃ choice answer,
      setting.serves session.now session.world call choice = some (after.world, answer) := by
  obtain ⟨pause, code⟩ := session
  unfold Setting.advance at advances
  split at advances
  · rename_i proceeds
    cases proceeds_of_proceed proceeds with
    | performs => exact behaves.keeps.elim
    | observes | sends | replies | fails | spawns | joins | expires | interrupts | abandons | emits
    | resumes | throws => cases serves
  · split at advances
    · rename_i waiting waits
      obtain ⟨stirredPause, stirred, rfl⟩ := Option.map_eq_some_iff.mp advances
      cases stirs_of_stir stirred with
      | executes awaits sent served =>
          cases serves
          cases code with
          | await awaited next =>
              have same : waiting = .call awaited := by
                simp only [Program.waiting] at waits
                split at waits <;> cases waits
                rfl
              cases awaits.symm.trans same
              exact ⟨behaves.keeps.1, _, _, served⟩
          | emit frame next =>
              simp only [Program.waiting] at waits
              split at waits <;> cases waits
              cases awaits
          | wait | done =>
              cases waits
              cases awaits
          | stuck | observe | perform | spawn | abandon => cases waits
      | finishes running served =>
          cases serves
          exact ⟨behaves.task _ running, _, _, served⟩
      | late found served =>
          cases serves
          exact ⟨behaves.orphans _ (List.mem_of_getElem? found), _, _, served⟩
      | drops | changes | elapses => cases serves
    · cases advances

end Behaves

end Zangpu.Foundation
