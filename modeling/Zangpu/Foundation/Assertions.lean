import Zangpu.Foundation.Runs
import Zangpu.Foundation.Sessions

/-!
Assertions about timed sessions.

Owns: rules, which say what is assumed of the environment of a session and what
the session owes at every instant and with every act of its own; the assertion
that a program upholds rules from a situation; its soundness for runs; and the
rules that check a routine along its sequencing and exception handling.

Does not own: any particular setting.
-/

set_option autoImplicit false

namespace Zangpu.Foundation

/-! ## Assertions -/

/-- What is assumed of the acts of the environment, what the session owes for its
own acts, and what it owes at every instant. -/
structure Rules (I : Interface) (World Change : Type) where
  assumes : Pause I World → Act I Change → Prop
  permits : Situation I World → Act I Change → Prop
  always : Situation I World → Prop

section Upholds

variable {I : Interface} {World Change First Second : Type} [DecidableEq I.Call]
variable (setting : Setting I World Change) (rules : Rules I World Change)

/-- Pauses reached from one another while the code stays where it is. -/
def Stirred (waiting : Waiting I) (start : Pause I World) : Pause I World → Prop :=
  Reached (setting.stir waiting) rules.assumes start

variable {setting rules} in
/-- What every act within the assumptions keeps, a pause keeps. -/
theorem Stirred.invariant {waiting : Waiting I} {start pause : Pause I World}
    (Invariant : Pause I World → Prop) (initial : Invariant start)
    (preserved : ∀ before act after, Invariant before → rules.assumes before act →
      Stirs setting waiting before act after → Invariant after)
    (stirred : Stirred setting rules waiting start pause) : Invariant pause :=
  Reached.invariant initial
    (fun _ _ _ invariant assumed stirs => preserved _ _ _ invariant assumed (stirs_of_stir stirs))
    stirred

variable {setting rules} in
theorem Stirred.since {waiting : Waiting I} {start pause : Pause I World}
    (stirred : Stirred setting rules waiting start pause) : pause.since = start.since := by
  refine Stirred.invariant (fun reached => reached.since = start.since) rfl ?_ stirred
  intro before act after same _ stirs
  cases stirs <;> exact same

variable {setting rules} in
theorem Stirred.sent {waiting : Waiting I} {start pause : Pause I World}
    (stirred : Stirred setting rules waiting start pause)
    (gone : start.flight.isUnsent = false) : pause.flight.isUnsent = false := by
  refine Stirred.invariant (fun reached => reached.flight.isUnsent = false) gone ?_
    stirred
  intro before act after same _ stirs
  cases stirs with
  | executes => rfl
  | finishes | late | drops | changes | elapses => exact same

/-- From the situation, the program keeps the rules whatever its environment does
within the assumptions; a result meets the goal. -/
def Upholds {Result : Type} :
    Program I Result → Situation I World → (Result → Situation I World → Prop) → Prop
  | .done result, situation, goal => rules.always situation ∧ goal result situation
  | .stuck, situation, _ => rules.always situation
  | .observe clock next, situation, goal =>
      rules.always situation ∧
      ∀ reading, setting.shows situation.now clock reading = true →
        Upholds (next reading) situation goal
  | .await call next, situation, goal =>
      rules.always situation ∧ rules.permits situation (.sends call) ∧
      ∀ pause, Stirred setting rules (.call call) situation.send pause →
        rules.always pause.toSituation ∧
        (∀ answer, pause.flight = .executed call answer → rules.assumes pause (.replies call) →
          Upholds (next answer) pause.toSituation goal) ∧
        ∀ failure, setting.breaks call failure = true → rules.assumes pause (.fails call failure) →
          Upholds (next (.error failure)) (pause.leave call) goal
  | .perform call next, situation, goal =>
      rules.always situation ∧
      ∀ choice world answer,
        setting.serves situation.now situation.world call choice = some (world, answer) →
          rules.permits situation (.performs call choice) ∧
          Upholds (next answer) (situation.withWorld world) goal
  | .spawn call next, situation, goal =>
      rules.always situation ∧ rules.permits situation (.spawns call) ∧
      (situation.task = none →
        Upholds next (situation.withTask (some ⟨call, none⟩)) goal)
  | .wait call timeout next, situation, goal =>
      rules.always situation ∧
      ∀ pause, Stirred setting rules (.task timeout) situation.pause pause →
        rules.always pause.toSituation ∧
        (∀ answer, pause.task = some ⟨call, some answer⟩ →
          rules.permits pause.toSituation (.joins call) ∧
          Upholds (next (.ok (some answer))) (pause.withTask none) goal) ∧
        (pause.task = some ⟨call, none⟩ → pause.since + timeout.toNat ≤ pause.now →
          Upholds (next (.ok none)) pause.toSituation goal) ∧
        ∀ failure, setting.interrupts failure = true →
          rules.assumes pause (.interrupts call failure) →
            Upholds (next (.error failure)) pause.toSituation goal
  | .abandon call next, situation, goal =>
      rules.always situation ∧
      ∀ outcome, setting.endsWith outcome = true →
        rules.assumes situation.pause (.abandons call outcome) →
          Upholds (next outcome) situation.dropTask goal
  | .emit frame next, situation, goal =>
      rules.always situation ∧ rules.permits situation (.emits frame) ∧
      ∀ pause, Stirred setting rules .consumer situation.send pause →
        rules.always pause.toSituation ∧
        (rules.assumes pause (.resumes frame) → Upholds (next (.ok ())) pause.toSituation goal) ∧
        ∀ failure, setting.interrupts failure = true →
          rules.assumes pause (.throws frame failure) →
            Upholds (next (.error failure)) pause.toSituation goal

variable {setting rules}

theorem Upholds.mono {Result : Type} {program : Program I Result}
    {situation : Situation I World} {goal weaker : Result → Situation I World → Prop}
    (upholds : Upholds setting rules program situation goal)
    (weaken : ∀ result reached, rules.always reached → goal result reached →
      weaker result reached) :
    Upholds setting rules program situation weaker := by
  induction program generalizing situation with
  | done result => exact ⟨upholds.1, weaken _ _ upholds.1 upholds.2⟩
  | stuck => exact upholds
  | observe clock next inductionHypothesis =>
      exact ⟨upholds.1, fun reading shown => inductionHypothesis _ (upholds.2 reading shown)⟩
  | await call next inductionHypothesis =>
      obtain ⟨always, permitted, waits⟩ := upholds
      refine ⟨always, permitted, fun pause stirred => ?_⟩
      obtain ⟨held, answered, failed⟩ := waits pause stirred
      exact ⟨held, fun answer at_ assumed => inductionHypothesis _ (answered answer at_ assumed),
        fun failure breaks assumed => inductionHypothesis _ (failed failure breaks assumed)⟩
  | perform call next inductionHypothesis =>
      refine ⟨upholds.1, fun choice world answer served => ?_⟩
      obtain ⟨permitted, rest⟩ := upholds.2 choice world answer served
      exact ⟨permitted, inductionHypothesis _ rest⟩
  | spawn call next inductionHypothesis =>
      exact ⟨upholds.1, upholds.2.1, fun free => inductionHypothesis (upholds.2.2 free)⟩
  | wait call timeout next inductionHypothesis =>
      refine ⟨upholds.1, fun pause stirred => ?_⟩
      obtain ⟨held, joined, expired, interrupted⟩ := upholds.2 pause stirred
      exact ⟨held,
        fun answer at_ => ⟨(joined answer at_).1, inductionHypothesis _ (joined answer at_).2⟩,
        fun running due => inductionHypothesis _ (expired running due),
        fun failure interrupts assumed =>
          inductionHypothesis _ (interrupted failure interrupts assumed)⟩
  | abandon call next inductionHypothesis =>
      exact ⟨upholds.1,
        fun outcome ends assumed => inductionHypothesis _ (upholds.2 outcome ends assumed)⟩
  | emit frame next inductionHypothesis =>
      obtain ⟨always, permitted, waits⟩ := upholds
      refine ⟨always, permitted, fun pause stirred => ?_⟩
      obtain ⟨held, resumed, thrown⟩ := waits pause stirred
      exact ⟨held, fun assumed => inductionHypothesis _ (resumed assumed),
        fun failure interrupts assumed => inductionHypothesis _ (thrown failure interrupts assumed)⟩

theorem Upholds.always {Result : Type} {program : Program I Result}
    {situation : Situation I World} {goal : Result → Situation I World → Prop}
    (upholds : Upholds setting rules program situation goal) : rules.always situation := by
  cases program with
  | stuck => exact upholds
  | done | observe | await | perform | spawn | wait | abandon | emit => exact upholds.1

/-- A sequence upholds the rules when its first part does and every result of that
part lets the rest uphold them. -/
theorem Upholds.bind {program : Program I First} {rest : First → Program I Second}
    {situation : Situation I World} {goal : Second → Situation I World → Prop}
    (upholds : Upholds setting rules program situation fun result reached =>
      Upholds setting rules (rest result) reached goal) :
    Upholds setting rules (program.bind rest) situation goal := by
  induction program generalizing situation with
  | done result => exact upholds.2
  | stuck => exact upholds
  | observe clock next inductionHypothesis =>
      exact ⟨upholds.1, fun reading shown => inductionHypothesis _ (upholds.2 reading shown)⟩
  | await call next inductionHypothesis =>
      obtain ⟨always, permitted, waits⟩ := upholds
      refine ⟨always, permitted, fun pause stirred => ?_⟩
      obtain ⟨held, answered, failed⟩ := waits pause stirred
      exact ⟨held, fun answer at_ assumed => inductionHypothesis _ (answered answer at_ assumed),
        fun failure breaks assumed => inductionHypothesis _ (failed failure breaks assumed)⟩
  | perform call next inductionHypothesis =>
      refine ⟨upholds.1, fun choice world answer served => ?_⟩
      obtain ⟨permitted, rest⟩ := upholds.2 choice world answer served
      exact ⟨permitted, inductionHypothesis _ rest⟩
  | spawn call next inductionHypothesis =>
      exact ⟨upholds.1, upholds.2.1, fun free => inductionHypothesis (upholds.2.2 free)⟩
  | wait call timeout next inductionHypothesis =>
      refine ⟨upholds.1, fun pause stirred => ?_⟩
      obtain ⟨held, joined, expired, interrupted⟩ := upholds.2 pause stirred
      exact ⟨held,
        fun answer at_ => ⟨(joined answer at_).1, inductionHypothesis _ (joined answer at_).2⟩,
        fun running due => inductionHypothesis _ (expired running due),
        fun failure interrupts assumed =>
          inductionHypothesis _ (interrupted failure interrupts assumed)⟩
  | abandon call next inductionHypothesis =>
      exact ⟨upholds.1,
        fun outcome ends assumed => inductionHypothesis _ (upholds.2 outcome ends assumed)⟩
  | emit frame next inductionHypothesis =>
      obtain ⟨always, permitted, waits⟩ := upholds
      refine ⟨always, permitted, fun pause stirred => ?_⟩
      obtain ⟨held, resumed, thrown⟩ := waits pause stirred
      exact ⟨held, fun assumed => inductionHypothesis _ (resumed assumed),
        fun failure interrupts assumed => inductionHypothesis _ (thrown failure interrupts assumed)⟩

end Upholds

/-! ## Runs of a session -/

section Runs

variable {I : Interface} {World Change Result : Type} [DecidableEq I.Call]
variable (setting : Setting I World Change) (rules : Rules I World Change)

/-- How a pause comes from the situation in which its code began. -/
def Suspended : Program I Result → Situation I World → Pause I World → Prop
  | .await call _, origin, pause =>
      pause = origin.pause ∨ Stirred setting rules (.call call) origin.send pause
  | .wait _ timeout _, origin, pause => Stirred setting rules (.task timeout) origin.pause pause
  | .emit _ _, origin, pause =>
      pause = origin.pause ∨ Stirred setting rules .consumer origin.send pause
  | .done _, origin, pause => Stirred setting rules .nothing origin.pause pause
  | _, origin, pause => pause = origin.pause

/-- The code upholds the rules from the situation in which it began. -/
def Sustained (goal : Result → Situation I World → Prop) (session : Session I World Result) :
    Prop :=
  ∃ origin, Upholds setting rules session.code origin goal ∧
    Suspended setting rules session.code origin session.toPause

/-- The assumptions, as a condition on the acts of a run. -/
def Rules.condition (session : Session I World Result) (act : Act I Change) : Prop :=
  rules.assumes session.toPause act

variable {setting rules} {goal : Result → Situation I World → Prop}

theorem suspended_enter (situation : Situation I World) (code : Program I Result) :
    Suspended setting rules code situation situation.pause := by
  cases code with
  | await | emit => exact Or.inl rfl
  | wait | done => exact .start
  | stuck | observe | perform | spawn | abandon => rfl

theorem Sustained.enter {situation : Situation I World} {code : Program I Result}
    (upholds : Upholds setting rules code situation goal) :
    Sustained setting rules goal (situation.enter code) :=
  ⟨situation, upholds, suspended_enter situation code⟩

/-- An act that leaves the code alone. -/
theorem Sustained.stir {session : Session I World Result} {waiting : Waiting I}
    {act : Act I Change} {pause : Pause I World}
    (sustained : Sustained setting rules goal session)
    (waits : session.code.waiting session.flight = some waiting)
    (assumed : rules.assumes session.toPause act)
    (stirred : setting.stir waiting session.toPause act = some pause) :
    Sustained setting rules goal ⟨pause, session.code⟩ := by
  obtain ⟨origin, upholds, suspended⟩ := sustained
  refine ⟨origin, upholds, ?_⟩
  obtain ⟨before, code⟩ := session
  cases code with
  | await call next =>
      rcases suspended with rfl | earlier
      · cases waits
      · simp only [Program.waiting] at waits
        split at waits <;> cases waits
        exact Or.inr (.step earlier assumed stirred)
  | emit frame next =>
      rcases suspended with rfl | earlier
      · cases waits
      · simp only [Program.waiting] at waits
        split at waits <;> cases waits
        exact Or.inr (.step earlier assumed stirred)
  | wait | done =>
      cases waits
      exact .step suspended assumed stirred
  | stuck | observe | perform | spawn | abandon => cases waits

/-- The rules hold at every instant of a run, given that they do after its end. -/
theorem Sustained.always {session : Session I World Result}
    (rests : ∀ result origin pause, goal result origin →
      Stirred setting rules .nothing origin.pause pause → rules.always pause.toSituation)
    (sustained : Sustained setting rules goal session) :
    rules.always session.toSituation := by
  obtain ⟨pause, code⟩ := session
  obtain ⟨origin, upholds, suspended⟩ := sustained
  cases code with
  | done result => exact rests result origin pause upholds.2 suspended
  | await call next | emit frame next =>
      rcases suspended with rfl | stirred
      · exact upholds.1
      · exact (upholds.2.2 pause stirred).1
  | wait call timeout next => exact (upholds.2 pause suspended).1
  | stuck | observe | perform | spawn | abandon =>
      cases suspended
      exact upholds.always

/-- A finished session met its goal when it finished. -/
theorem Sustained.finished {session : Session I World Result} {result : Result}
    (sustained : Sustained setting rules goal session) (done : session.code = .done result) :
    ∃ origin, goal result origin ∧ Stirred setting rules .nothing origin.pause session.toPause := by
  obtain ⟨pause, code⟩ := session
  obtain ⟨origin, upholds, suspended⟩ := sustained
  cases done
  exact ⟨origin, upholds.2, suspended⟩

variable [DecidableEq I.Frame]

/-- An act that moves the code on. -/
theorem Sustained.proceed {session after : Session I World Result} {act : Act I Change}
    (sustained : Sustained setting rules goal session)
    (assumed : rules.assumes session.toPause act)
    (proceeds : setting.proceed session act = some after) :
    Sustained setting rules goal after := by
  obtain ⟨pause, code⟩ := session
  obtain ⟨origin, upholds, suspended⟩ := sustained
  cases proceeds_of_proceed proceeds with
  | observes shown =>
      cases suspended
      exact .enter (upholds.2 _ shown)
  | sends unsent =>
      rcases suspended with rfl | stirred
      · exact ⟨origin, upholds, Or.inr .start⟩
      · exact absurd unsent (by simp [stirred.sent rfl])
  | replies executed =>
      rcases suspended with rfl | stirred
      · cases executed
      · exact .enter ((upholds.2.2 pause stirred).2.1 _ executed assumed)
  | fails gone breaks =>
      rcases suspended with rfl | stirred
      · exact absurd rfl gone
      · exact .enter ((upholds.2.2 pause stirred).2.2 _ breaks assumed)
  | performs served =>
      cases suspended
      exact .enter (upholds.2 _ _ _ served).2
  | spawns free =>
      cases suspended
      exact .enter (upholds.2.2 free)
  | joins finished => exact .enter ((upholds.2 pause suspended).2.1 _ finished).2
  | expires running due => exact .enter ((upholds.2 pause suspended).2.2.1 running due)
  | interrupts interrupts =>
      exact .enter ((upholds.2 pause suspended).2.2.2 _ interrupts assumed)
  | abandons ends =>
      cases suspended
      exact .enter (upholds.2 _ ends assumed)
  | emits unsent =>
      rcases suspended with rfl | stirred
      · exact ⟨origin, upholds, Or.inr .start⟩
      · exact absurd unsent (by simp [stirred.sent rfl])
  | resumes gone =>
      rcases suspended with rfl | stirred
      · exact absurd rfl gone
      · exact .enter ((upholds.2.2 pause stirred).2.1 assumed)
  | throws gone interrupts =>
      rcases suspended with rfl | stirred
      · exact absurd rfl gone
      · exact .enter ((upholds.2.2 pause stirred).2.2 _ interrupts assumed)

theorem Sustained.advance {session after : Session I World Result} {act : Act I Change}
    (sustained : Sustained setting rules goal session)
    (assumed : rules.assumes session.toPause act)
    (advances : setting.advance session act = some after) :
    Sustained setting rules goal after := by
  unfold Setting.advance at advances
  split at advances
  · rename_i proceeds
    cases advances
    exact sustained.proceed assumed proceeds
  · split at advances
    · rename_i waits
      obtain ⟨pause, stirred, rfl⟩ := Option.map_eq_some_iff.mp advances
      exact sustained.stir waits assumed stirred
    · cases advances

/-- **Soundness.** A program that upholds the rules sustains them along every run
whose acts meet the assumptions. -/
theorem Sustained.run {start : Situation I World} {code : Program I Result}
    {session : Session I World Result}
    (upholds : Upholds setting rules code start goal)
    (run : Reached setting.advance rules.condition (start.enter code) session) :
    Sustained setting rules goal session :=
  Reached.invariant (.enter upholds)
    (fun _ _ _ sustained meets advances => sustained.advance meets advances) run

/-- The acts a session performs of itself are permitted. -/
theorem Sustained.permits {session after : Session I World Result} {act : Act I Change}
    (sustained : Sustained setting rules goal session) (owed : act.isOwed = true)
    (advances : setting.advance session act = some after) :
    rules.permits session.toSituation act := by
  obtain ⟨pause, code⟩ := session
  obtain ⟨origin, upholds, suspended⟩ := sustained
  unfold Setting.advance at advances
  split at advances
  · rename_i proceeds
    cases proceeds_of_proceed proceeds with
    | sends unsent | emits unsent =>
        rcases suspended with rfl | stirred
        · exact upholds.2.1
        · exact absurd unsent (by simp [stirred.sent rfl])
    | performs served =>
        cases suspended
        exact (upholds.2 _ _ _ served).1
    | spawns free =>
        cases suspended
        exact upholds.2.1
    | joins finished => exact ((upholds.2 pause suspended).2.1 _ finished).1
    | observes | replies | fails | expires | interrupts | abandons | resumes | throws => cases owed
  · split at advances
    · obtain ⟨stirred, stirs, _⟩ := Option.map_eq_some_iff.mp advances
      cases stirs_of_stir stirs <;> cases owed
    · cases advances

end Runs

/-! ## Routines -/

section Maintains

variable {I : Interface} {World Change Locals First Second : Type} [DecidableEq I.Call]
variable (setting : Setting I World Change) (rules : Rules I World Change)

/-- A routine upholds the rules from given local variables and situation, and its
outcome meets the goal. -/
def Maintains (routine : Routine I Locals First) (locals : Locals)
    (situation : Situation I World)
    (goal : Except I.Failure First → Locals → Situation I World → Prop) : Prop :=
  Upholds setting rules (routine.start locals) situation fun outcome reached =>
    goal outcome.1 outcome.2 reached

variable {setting rules} {locals : Locals} {situation : Situation I World}

theorem Maintains.mono {routine : Routine I Locals First}
    {goal weaker : Except I.Failure First → Locals → Situation I World → Prop}
    (maintains : Maintains setting rules routine locals situation goal)
    (weaken : ∀ outcome left reached, rules.always reached → goal outcome left reached →
      weaker outcome left reached) :
    Maintains setting rules routine locals situation weaker :=
  Upholds.mono maintains fun _ _ => weaken _ _ _

theorem Maintains.reply {outcome : Except I.Failure First}
    {goal : Except I.Failure First → Locals → Situation I World → Prop}
    (always : rules.always situation) (reached : goal outcome locals situation) :
    Maintains setting rules (Routine.reply outcome : Routine I Locals First) locals situation
      goal :=
  ⟨always, reached⟩

theorem Maintains.pure {value : First}
    {goal : Except I.Failure First → Locals → Situation I World → Prop}
    (always : rules.always situation) (reached : goal (.ok value) locals situation) :
    Maintains setting rules (Pure.pure value : Routine I Locals First) locals situation goal :=
  ⟨always, reached⟩

theorem Maintains.throw {failure : I.Failure}
    {goal : Except I.Failure First → Locals → Situation I World → Prop}
    (always : rules.always situation) (reached : goal (.error failure) locals situation) :
    Maintains setting rules (MonadExcept.throw failure : Routine I Locals First) locals situation
      goal :=
  ⟨always, reached⟩

/-- Sequencing: a failure of the first part is the failure of the whole. -/
theorem Maintains.bind {routine : Routine I Locals First}
    {rest : First → Routine I Locals Second}
    {goal : Except I.Failure Second → Locals → Situation I World → Prop}
    (maintains : Maintains setting rules routine locals situation fun outcome left reached =>
      match outcome with
      | .ok value => Maintains setting rules (rest value) left reached goal
      | .error failure => goal (.error failure) left reached) :
    Maintains setting rules (routine >>= rest) locals situation goal := by
  apply Upholds.bind
  refine Upholds.mono maintains ?_
  rintro ⟨outcome, left⟩ reached always holds
  cases outcome with
  | ok value => exact holds
  | error failure => exact ⟨always, holds⟩

/-- Exception handling: the handler runs on the local variables left behind. -/
theorem Maintains.tryCatch {routine : Routine I Locals First}
    {handler : I.Failure → Routine I Locals First}
    {goal : Except I.Failure First → Locals → Situation I World → Prop}
    (maintains : Maintains setting rules routine locals situation fun outcome left reached =>
      match outcome with
      | .ok value => goal (.ok value) left reached
      | .error failure => Maintains setting rules (handler failure) left reached goal) :
    Maintains setting rules (MonadExcept.tryCatch routine handler) locals situation goal := by
  apply Upholds.bind
  refine Upholds.mono maintains ?_
  rintro ⟨outcome, left⟩ reached always holds
  cases outcome with
  | ok value => exact ⟨always, holds⟩
  | error failure => exact holds

/-- Cleanup: it runs on every outcome, and its own failure wins. -/
theorem Maintains.andFinally {routine : Routine I Locals First} {cleanup : Routine I Locals Unit}
    {goal : Except I.Failure First → Locals → Situation I World → Prop}
    (maintains : Maintains setting rules routine locals situation fun outcome left reached =>
      Maintains setting rules cleanup left reached fun cleaned final last =>
        match cleaned with
        | .ok () => goal outcome final last
        | .error failure => goal (.error failure) final last) :
    Maintains setting rules (routine.andFinally cleanup) locals situation goal := by
  apply Upholds.bind
  refine Upholds.mono maintains ?_
  intro outcome reached _ holds
  apply Upholds.bind
  refine Upholds.mono holds ?_
  rintro ⟨cleaned, final⟩ last always met
  cases cleaned with
  | ok => exact ⟨always, met⟩
  | error failure => exact ⟨always, met⟩

theorem Maintains.exhausted
    {goal : Except I.Failure First → Locals → Situation I World → Prop}
    (always : rules.always situation) :
    Maintains setting rules (Routine.exhausted : Routine I Locals First) locals situation goal :=
  always

theorem Maintains.observe {clock : I.Clock}
    {goal : Except I.Failure Int → Locals → Situation I World → Prop}
    (always : rules.always situation)
    (reached : ∀ reading, setting.shows situation.now clock reading = true →
      goal (.ok reading) locals situation) :
    Maintains setting rules (Routine.observe clock : Routine I Locals Int) locals situation goal :=
  ⟨always, fun reading shown => ⟨always, reached reading shown⟩⟩

theorem Maintains.get {goal : Except I.Failure Locals → Locals → Situation I World → Prop}
    (always : rules.always situation) (reached : goal (.ok locals) locals situation) :
    Maintains setting rules (MonadState.get : Routine I Locals Locals) locals situation goal :=
  ⟨always, reached⟩

theorem Maintains.modify {change : Locals → Locals}
    {goal : Except I.Failure Unit → Locals → Situation I World → Prop}
    (always : rules.always situation) (reached : goal (.ok ()) (change locals) situation) :
    Maintains setting rules (modify change : Routine I Locals Unit) locals situation goal :=
  ⟨always, reached⟩

theorem Maintains.spawn {call : I.Call}
    {goal : Except I.Failure Unit → Locals → Situation I World → Prop}
    (always : rules.always situation) (permitted : rules.permits situation (.spawns call))
    (running : rules.always (situation.withTask (some ⟨call, none⟩)))
    (started : goal (.ok ()) locals (situation.withTask (some ⟨call, none⟩))) :
    Maintains setting rules (Routine.spawn call : Routine I Locals Unit) locals situation goal :=
  ⟨always, permitted, fun _ => ⟨running, started⟩⟩

/-- Awaiting a call, by an invariant of the pauses in between. -/
theorem Maintains.await {call : I.Call}
    {goal : Except I.Failure (I.Answer call) → Locals → Situation I World → Prop}
    (Invariant : Pause I World → Prop) (always : rules.always situation)
    (permitted : rules.permits situation (.sends call)) (initial : Invariant situation.send)
    (preserved : ∀ before act after, before.since = situation.now → Invariant before →
      rules.assumes before act → Stirs setting (.call call) before act after → Invariant after)
    (held : ∀ pause, Invariant pause → rules.always pause.toSituation)
    (answered : ∀ pause answer, Invariant pause → pause.flight = .executed call answer →
      rules.assumes pause (.replies call) → goal answer locals pause.toSituation)
    (failed : ∀ pause failure, Invariant pause → pause.flight.isUnsent = false →
      setting.breaks call failure = true → rules.assumes pause (.fails call failure) →
        rules.always (pause.leave call) ∧ goal (.error failure) locals (pause.leave call)) :
    Maintains setting rules (Routine.await call : Routine I Locals _) locals situation goal := by
  refine ⟨always, permitted, fun pause stirred => ?_⟩
  have invariant : pause.since = situation.now ∧ Invariant pause := by
    refine Stirred.invariant (fun reached => reached.since = situation.now ∧ Invariant reached)
      ⟨rfl, initial⟩ ?_ stirred
    intro before act after kept assumed stirs
    refine ⟨?_, preserved before act after kept.1 kept.2 assumed stirs⟩
    cases stirs <;> exact kept.1
  refine ⟨held pause invariant.2, fun answer executed assumed => ?_,
    fun failure breaks assumed => ?_⟩
  · exact ⟨held pause invariant.2, answered pause answer invariant.2 executed assumed⟩
  · exact failed pause failure invariant.2 (stirred.sent rfl) breaks assumed

/-- Waiting for the task, by an invariant of the pauses in between. -/
theorem Maintains.wait {call : I.Call} {timeout : Int}
    {goal : Except I.Failure (Option (Except I.Failure (I.Answer call))) → Locals →
      Situation I World → Prop}
    (Invariant : Pause I World → Prop) (always : rules.always situation)
    (initial : Invariant situation.pause)
    (preserved : ∀ before act after, before.since = situation.now → Invariant before →
      rules.assumes before act → Stirs setting (.task timeout) before act after → Invariant after)
    (held : ∀ pause, Invariant pause → rules.always pause.toSituation)
    (joined : ∀ pause answer, Invariant pause → pause.task = some ⟨call, some answer⟩ →
      rules.permits pause.toSituation (.joins call) ∧ rules.always (pause.withTask none) ∧
        goal (.ok (some answer)) locals (pause.withTask none))
    (expired : ∀ pause, Invariant pause → pause.task = some ⟨call, none⟩ →
      situation.now + timeout.toNat ≤ pause.now → goal (.ok none) locals pause.toSituation)
    (interrupted : ∀ pause failure, Invariant pause → setting.interrupts failure = true →
      rules.assumes pause (.interrupts call failure) →
        goal (.error failure) locals pause.toSituation) :
    Maintains setting rules (Routine.wait call timeout : Routine I Locals _) locals situation
      goal := by
  refine ⟨always, fun pause stirred => ?_⟩
  have invariant : pause.since = situation.now ∧ Invariant pause := by
    refine Stirred.invariant (fun reached => reached.since = situation.now ∧ Invariant reached)
      ⟨rfl, initial⟩ ?_ stirred
    intro before act after kept assumed stirs
    refine ⟨?_, preserved before act after kept.1 kept.2 assumed stirs⟩
    cases stirs <;> exact kept.1
  have always := held pause invariant.2
  refine ⟨always, fun answer finished => ?_, fun running due => ?_,
    fun failure interrupts assumed => ?_⟩
  · obtain ⟨permitted, rested, reached⟩ := joined pause answer invariant.2 finished
    exact ⟨permitted, rested, reached⟩
  · rw [invariant.1] at due
    exact ⟨always, expired pause invariant.2 running due⟩
  · exact ⟨always, interrupted pause failure invariant.2 interrupts assumed⟩

theorem Maintains.abandon {call : I.Call}
    {goal : Except I.Failure Unit → Locals → Situation I World → Prop}
    (always : rules.always situation) (rested : rules.always situation.dropTask)
    (reached : ∀ outcome, setting.endsWith outcome = true →
      rules.assumes situation.pause (.abandons call outcome) →
        goal outcome locals situation.dropTask) :
    Maintains setting rules (Routine.abandon call : Routine I Locals Unit) locals situation goal :=
  ⟨always, fun outcome ends assumed => ⟨rested, reached outcome ends assumed⟩⟩

/-- Handing a frame over, by an invariant of the pauses before the consumer
returns. -/
theorem Maintains.emit {frame : I.Frame}
    {goal : Except I.Failure Unit → Locals → Situation I World → Prop}
    (Invariant : Pause I World → Prop) (always : rules.always situation)
    (permitted : rules.permits situation (.emits frame)) (initial : Invariant situation.send)
    (preserved : ∀ before act after, Invariant before → rules.assumes before act →
      Stirs setting .consumer before act after → Invariant after)
    (held : ∀ pause, Invariant pause → rules.always pause.toSituation)
    (resumed : ∀ pause, Invariant pause → rules.assumes pause (.resumes frame) →
      goal (.ok ()) locals pause.toSituation)
    (thrown : ∀ pause failure, Invariant pause → setting.interrupts failure = true →
      rules.assumes pause (.throws frame failure) →
        goal (.error failure) locals pause.toSituation) :
    Maintains setting rules (Routine.emit frame : Routine I Locals Unit) locals situation goal := by
  refine ⟨always, permitted, fun pause stirred => ?_⟩
  have invariant : Invariant pause := Stirred.invariant Invariant initial preserved stirred
  have always := held pause invariant
  exact ⟨always, fun assumed => ⟨always, resumed pause invariant assumed⟩,
    fun failure interrupts assumed => ⟨always, thrown pause failure invariant interrupts assumed⟩⟩

end Maintains

end Zangpu.Foundation
