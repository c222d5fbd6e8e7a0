import Zangpu.Foundation.Processes

/-!
Timed sessions of one program.

Owns: a program run by itself against a clock and a world, and its acts, among
them the passing of time, changes of the world by others, and calls that take
effect after the program stopped waiting for them.

Does not own: what a call does to the world. Time passes only while the session
waits: for a call, for its task, for its consumer, or after its end.
-/

set_option autoImplicit false

namespace Zangpu.Foundation

/-! ## Situations -/

/-- Everything around the code of a session: the time, the world, the child task,
and the calls that may still take effect although nothing waits for them. -/
structure Situation (I : Interface) (World : Type) where
  now : Nat
  world : World
  task : Option (Task I)
  orphans : List I.Call

/-- How far the awaited call, or the frame to hand over, has got. -/
inductive Flight (I : Interface) where
  | unsent
  | sent
  | executed (call : I.Call) (answer : Except I.Failure (I.Answer call))

namespace Flight

def isSent {I : Interface} : Flight I → Bool
  | sent => true
  | _ => false

def isUnsent {I : Interface} : Flight I → Bool
  | unsent => true
  | _ => false

end Flight

/-- A situation with the state of the current interaction and its beginning. -/
structure Pause (I : Interface) (World : Type) extends Situation I World where
  since : Nat
  flight : Flight I

/-- What a session waits for. -/
inductive Waiting (I : Interface) where
  | call (call : I.Call)
  | task (timeout : Int)
  | consumer
  | nothing

structure Session (I : Interface) (World Result : Type) extends Pause I World where
  code : Program I Result

namespace Situation

variable {I : Interface} {World : Type}

/-- At the beginning of an interaction. -/
def pause (situation : Situation I World) : Pause I World := ⟨situation, situation.now, .unsent⟩

/-- The same, once the call left or the frame was handed over. -/
def send (situation : Situation I World) : Pause I World := ⟨situation, situation.now, .sent⟩

def withWorld (situation : Situation I World) (world : World) : Situation I World :=
  { situation with world := world }

def withTask (situation : Situation I World) (task : Option (Task I)) : Situation I World :=
  { situation with task := task }

/-- The task is cancelled; its call may still take effect. -/
def dropTask (situation : Situation I World) : Situation I World where
  now := situation.now
  world := situation.world
  task := none
  orphans := Task.running situation.task ++ situation.orphans

end Situation

/-- Nothing waits for the call any more: it may still take effect unless it has. -/
def Pause.leave {I : Interface} {World : Type} (pause : Pause I World) (call : I.Call) :
    Situation I World :=
  if pause.flight.isSent then
    { pause.toSituation with orphans := call :: pause.orphans }
  else pause.toSituation

/-- A session about to run the code. -/
def Situation.enter {I : Interface} {World Result : Type} (situation : Situation I World)
    (code : Program I Result) : Session I World Result :=
  ⟨situation.pause, code⟩

/-! ## Acts -/

/-- The acts of a session and of its environment. `choice` is the answer of a
call where the world does not determine it. -/
inductive Act (I : Interface) (Change : Type) where
  | observes (reading : Int)
  | sends (call : I.Call)
  | performs (call : I.Call) (choice : Option (Except I.Failure (I.Answer call)))
  | spawns (call : I.Call)
  | joins (call : I.Call)
  | expires (call : I.Call)
  | abandons (call : I.Call) (outcome : Except I.Failure Unit)
  | emits (frame : I.Frame)
  | replies (call : I.Call)
  | fails (call : I.Call) (failure : I.Failure)
  | interrupts (call : I.Call) (failure : I.Failure)
  | resumes (frame : I.Frame)
  | throws (frame : I.Frame) (failure : I.Failure)
  | executes (call : I.Call) (choice : Option (Except I.Failure (I.Answer call)))
  | finishes (call : I.Call) (choice : Option (Except I.Failure (I.Answer call)))
  | late (position : Nat) (call : I.Call) (choice : Option (Except I.Failure (I.Answer call)))
  | drops (position : Nat) (call : I.Call)
  | changes (change : Change)
  | elapses (duration : Nat)

/-- The acts of the session itself for which it answers. -/
def Act.isOwed {I : Interface} {Change : Type} : Act I Change → Bool
  | sends _ | performs _ _ | spawns _ | joins _ | emits _ => true
  | _ => false

/-- An environment: what a clock can show, what a call does and answers, the
failures that can end an await instead of its answer, the failures thrown into
the session from outside, the longest an await lasts, and the changes others
make. -/
structure Setting (I : Interface) (World Change : Type) where
  shows : Nat → I.Clock → Int → Bool
  serves : Nat → World → (call : I.Call) → Option (Except I.Failure (I.Answer call)) →
    Option (World × Except I.Failure (I.Answer call))
  breaks : I.Call → I.Failure → Bool
  interrupts : I.Failure → Bool
  patience : I.Call → Option Nat
  changes : Change → Nat → World → World

section Acts

variable {I : Interface} {World Change Result : Type} [DecidableEq I.Call]
variable (setting : Setting I World Change)

/-- The code of a waiting session, `none` where the code goes on at once. -/
def Program.waiting : Program I Result → Flight I → Option (Waiting I)
  | .await call _, flight => if flight.isUnsent then none else some (.call call)
  | .wait _ timeout _, _ => some (.task timeout)
  | .emit _ _, flight => if flight.isUnsent then none else some .consumer
  | .done _, _ => some .nothing
  | _, _ => none

/-- Whether time may pass up to an instant: an await ends within its patience, a
wait at its timeout or as soon as the task has finished. -/
def Setting.lets (waiting : Waiting I) (pause : Pause I World) (until_ : Nat) : Bool :=
  match waiting with
  | .call call =>
      match setting.patience call with
      | none => true
      | some bound => decide (until_ ≤ pause.since + bound)
  | .task timeout =>
      match pause.task with
      | some ⟨_, none⟩ => decide (until_ ≤ pause.since + timeout.toNat)
      | _ => false
  | .consumer | .nothing => true

/-- The acts that leave the code where it is. -/
def Setting.stir (waiting : Waiting I) (pause : Pause I World) :
    Act I Change → Option (Pause I World)
  | .executes call choice =>
      match waiting with
      | .call awaited =>
          if awaited = call ∧ pause.flight.isSent then
            (setting.serves pause.now pause.world call choice).map fun served =>
              ⟨pause.withWorld served.1, pause.since, .executed call served.2⟩
          else none
      | _ => none
  | .finishes call choice =>
      match pause.task with
      | some ⟨running, none⟩ =>
          if running = call then
            (setting.serves pause.now pause.world call choice).map fun served =>
              { pause with world := served.1, task := some ⟨call, some served.2⟩ }
          else none
      | _ => none
  | .late position call choice =>
      if pause.orphans[position]? = some call then
        (setting.serves pause.now pause.world call choice).map fun served =>
          { pause with world := served.1, orphans := pause.orphans.eraseIdx position }
      else none
  | .drops position call =>
      if pause.orphans[position]? = some call then
        some { pause with orphans := pause.orphans.eraseIdx position }
      else none
  | .changes change =>
      some { pause with world := setting.changes change pause.now pause.world }
  | .elapses duration =>
      if setting.lets waiting pause (pause.now + duration) then
        some { pause with now := pause.now + duration }
      else none
  | _ => none

/-- What an act that leaves the code alone does. -/
inductive Stirs (setting : Setting I World Change) (waiting : Waiting I)
    (pause : Pause I World) : Act I Change → Pause I World → Prop where
  | executes {call : I.Call} {choice : Option (Except I.Failure (I.Answer call))}
      {world : World} {answer : Except I.Failure (I.Answer call)}
      (awaits : waiting = .call call) (sent : pause.flight.isSent = true)
      (served : setting.serves pause.now pause.world call choice = some (world, answer)) :
      Stirs setting waiting pause (.executes call choice)
        ⟨pause.withWorld world, pause.since, .executed call answer⟩
  | finishes {call : I.Call} {choice : Option (Except I.Failure (I.Answer call))}
      {world : World} {answer : Except I.Failure (I.Answer call)}
      (running : pause.task = some ⟨call, none⟩)
      (served : setting.serves pause.now pause.world call choice = some (world, answer)) :
      Stirs setting waiting pause (.finishes call choice)
        { pause with world := world, task := some ⟨call, some answer⟩ }
  | late {position : Nat} {call : I.Call} {choice : Option (Except I.Failure (I.Answer call))}
      {world : World} {answer : Except I.Failure (I.Answer call)}
      (found : pause.orphans[position]? = some call)
      (served : setting.serves pause.now pause.world call choice = some (world, answer)) :
      Stirs setting waiting pause (.late position call choice)
        { pause with world := world, orphans := pause.orphans.eraseIdx position }
  | drops {position : Nat} {call : I.Call} (found : pause.orphans[position]? = some call) :
      Stirs setting waiting pause (.drops position call)
        { pause with orphans := pause.orphans.eraseIdx position }
  | changes (change : Change) :
      Stirs setting waiting pause (.changes change)
        { pause with world := setting.changes change pause.now pause.world }
  | elapses {duration : Nat}
      (lets : setting.lets waiting pause (pause.now + duration) = true) :
      Stirs setting waiting pause (.elapses duration) { pause with now := pause.now + duration }

variable {setting}

theorem stirs_of_stir {waiting : Waiting I} {pause after : Pause I World} {act : Act I Change}
    (stirs : setting.stir waiting pause act = some after) :
    Stirs setting waiting pause act after := by
  cases act with
  | executes call choice =>
      cases waiting with
      | call awaited =>
          simp only [Setting.stir] at stirs
          split at stirs
          · rename_i held
            obtain ⟨rfl, sent⟩ := held
            obtain ⟨served, serves, rfl⟩ := Option.map_eq_some_iff.mp stirs
            exact .executes rfl sent serves
          · cases stirs
      | task | consumer | nothing => cases stirs
  | finishes call choice =>
      simp only [Setting.stir] at stirs
      split at stirs
      · rename_i running
        split at stirs
        · rename_i same
          subst same
          obtain ⟨served, serves, rfl⟩ := Option.map_eq_some_iff.mp stirs
          exact .finishes running serves
        · cases stirs
      · cases stirs
  | late position call choice =>
      simp only [Setting.stir] at stirs
      split at stirs
      · rename_i found
        obtain ⟨served, serves, rfl⟩ := Option.map_eq_some_iff.mp stirs
        exact .late found serves
      · cases stirs
  | drops position call =>
      simp only [Setting.stir] at stirs
      split at stirs <;> cases stirs
      exact .drops ‹_›
  | changes change =>
      cases stirs
      exact .changes change
  | elapses duration =>
      simp only [Setting.stir] at stirs
      split at stirs <;> cases stirs
      exact .elapses ‹_›
  | observes | sends | performs | spawns | joins | expires | abandons | emits | replies | fails
  | interrupts | resumes | throws => cases stirs

variable (setting) [DecidableEq I.Frame]

/-- What cancelling the task can end with. -/
def Setting.endsWith (outcome : Except I.Failure Unit) : Bool :=
  match outcome with
  | .ok () => true
  | .error failure => setting.interrupts failure

/-- The acts that move the code on. -/
def Setting.proceed (session : Session I World Result) :
    Act I Change → Option (Session I World Result)
  | .observes reading =>
      match session.code with
      | .observe clock next =>
          if setting.shows session.now clock reading then
            some (session.toSituation.enter (next reading))
          else none
      | _ => none
  | .sends call =>
      match session.code with
      | .await awaited _ =>
          if awaited = call ∧ session.flight.isUnsent then
            some { session with flight := .sent }
          else none
      | _ => none
  | .replies call =>
      match session.code, session.flight with
      | .await awaited next, .executed executed answer =>
          if same : executed = awaited then
            if awaited = call then some (session.toSituation.enter (next (same ▸ answer))) else none
          else none
      | _, _ => none
  | .fails call failure =>
      match session.code with
      | .await awaited next =>
          if awaited = call ∧ ¬session.flight.isUnsent ∧ setting.breaks call failure then
            some ((session.toPause.leave call).enter (next (.error failure)))
          else none
      | _ => none
  | .performs call choice =>
      match session.code with
      | .perform performed next =>
          if same : call = performed then
            (setting.serves session.now session.world call choice).map fun served =>
              (session.withWorld served.1).enter (next (same ▸ served.2))
          else none
      | _ => none
  | .spawns call =>
      match session.code with
      | .spawn spawned next =>
          if spawned = call ∧ session.task.isNone then
            some ((session.withTask (some ⟨call, none⟩)).enter next)
          else none
      | _ => none
  | .joins call =>
      match session.code, session.task with
      | .wait awaited _ next, some ⟨finished, some answer⟩ =>
          if same : finished = awaited then
            if awaited = call then
              some ((session.withTask none).enter (next (.ok (some (same ▸ answer)))))
            else none
          else none
      | _, _ => none
  | .expires call =>
      match session.code, session.task with
      | .wait awaited timeout next, some ⟨running, none⟩ =>
          if awaited = call ∧ running = call ∧ session.since + timeout.toNat ≤ session.now then
            some (session.toSituation.enter (next (.ok none)))
          else none
      | _, _ => none
  | .interrupts call failure =>
      match session.code with
      | .wait awaited _ next =>
          if awaited = call ∧ setting.interrupts failure then
            some (session.toSituation.enter (next (.error failure)))
          else none
      | _ => none
  | .abandons call outcome =>
      match session.code with
      | .abandon abandoned next =>
          if abandoned = call ∧ setting.endsWith outcome then
            some (session.dropTask.enter (next outcome))
          else none
      | _ => none
  | .emits frame =>
      match session.code with
      | .emit emitted _ =>
          if emitted = frame ∧ session.flight.isUnsent then
            some { session with flight := .sent }
          else none
      | _ => none
  | .resumes frame =>
      match session.code with
      | .emit emitted next =>
          if emitted = frame ∧ ¬session.flight.isUnsent then
            some (session.toSituation.enter (next (.ok ())))
          else none
      | _ => none
  | .throws frame failure =>
      match session.code with
      | .emit emitted next =>
          if emitted = frame ∧ ¬session.flight.isUnsent ∧ setting.interrupts failure then
            some (session.toSituation.enter (next (.error failure)))
          else none
      | _ => none
  | _ => none

/-- What an act that moves the code on does, by the code it finds. -/
inductive Proceeds (setting : Setting I World Change) (pause : Pause I World) :
    Program I Result → Act I Change → Session I World Result → Prop where
  | observes {clock : I.Clock} {next : Int → Program I Result} {reading : Int}
      (shown : setting.shows pause.now clock reading = true) :
      Proceeds setting pause (.observe clock next) (.observes reading)
        (pause.toSituation.enter (next reading))
  | sends {call : I.Call} {next : Except I.Failure (I.Answer call) → Program I Result}
      (unsent : pause.flight.isUnsent = true) :
      Proceeds setting pause (.await call next) (.sends call)
        ⟨{ pause with flight := .sent }, .await call next⟩
  | replies {call : I.Call} {next : Except I.Failure (I.Answer call) → Program I Result}
      {answer : Except I.Failure (I.Answer call)} (executed : pause.flight = .executed call answer) :
      Proceeds setting pause (.await call next) (.replies call)
        (pause.toSituation.enter (next answer))
  | fails {call : I.Call} {next : Except I.Failure (I.Answer call) → Program I Result}
      {failure : I.Failure} (gone : ¬pause.flight.isUnsent = true)
      (breaks : setting.breaks call failure = true) :
      Proceeds setting pause (.await call next) (.fails call failure)
        ((pause.leave call).enter (next (.error failure)))
  | performs {call : I.Call} {next : Except I.Failure (I.Answer call) → Program I Result}
      {choice : Option (Except I.Failure (I.Answer call))} {world : World}
      {answer : Except I.Failure (I.Answer call)}
      (served : setting.serves pause.now pause.world call choice = some (world, answer)) :
      Proceeds setting pause (.perform call next) (.performs call choice)
        ((pause.withWorld world).enter (next answer))
  | spawns {call : I.Call} {next : Program I Result} (free : pause.task = none) :
      Proceeds setting pause (.spawn call next) (.spawns call)
        ((pause.withTask (some ⟨call, none⟩)).enter next)
  | joins {call : I.Call} {timeout : Int}
      {next : Except I.Failure (Option (Except I.Failure (I.Answer call))) → Program I Result}
      {answer : Except I.Failure (I.Answer call)}
      (finished : pause.task = some ⟨call, some answer⟩) :
      Proceeds setting pause (.wait call timeout next) (.joins call)
        ((pause.withTask none).enter (next (.ok (some answer))))
  | expires {call : I.Call} {timeout : Int}
      {next : Except I.Failure (Option (Except I.Failure (I.Answer call))) → Program I Result}
      (running : pause.task = some ⟨call, none⟩)
      (due : pause.since + timeout.toNat ≤ pause.now) :
      Proceeds setting pause (.wait call timeout next) (.expires call)
        (pause.toSituation.enter (next (.ok none)))
  | interrupts {call : I.Call} {timeout : Int}
      {next : Except I.Failure (Option (Except I.Failure (I.Answer call))) → Program I Result}
      {failure : I.Failure} (interrupts : setting.interrupts failure = true) :
      Proceeds setting pause (.wait call timeout next) (.interrupts call failure)
        (pause.toSituation.enter (next (.error failure)))
  | abandons {call : I.Call} {next : Except I.Failure Unit → Program I Result}
      {outcome : Except I.Failure Unit} (ends : setting.endsWith outcome = true) :
      Proceeds setting pause (.abandon call next) (.abandons call outcome)
        (pause.dropTask.enter (next outcome))
  | emits {frame : I.Frame} {next : Except I.Failure Unit → Program I Result}
      (unsent : pause.flight.isUnsent = true) :
      Proceeds setting pause (.emit frame next) (.emits frame)
        ⟨{ pause with flight := .sent }, .emit frame next⟩
  | resumes {frame : I.Frame} {next : Except I.Failure Unit → Program I Result}
      (gone : ¬pause.flight.isUnsent = true) :
      Proceeds setting pause (.emit frame next) (.resumes frame)
        (pause.toSituation.enter (next (.ok ())))
  | throws {frame : I.Frame} {next : Except I.Failure Unit → Program I Result}
      {failure : I.Failure} (gone : ¬pause.flight.isUnsent = true)
      (interrupts : setting.interrupts failure = true) :
      Proceeds setting pause (.emit frame next) (.throws frame failure)
        (pause.toSituation.enter (next (.error failure)))

variable {setting}

theorem proceeds_of_proceed {pause : Pause I World} {code : Program I Result}
    {act : Act I Change} {after : Session I World Result}
    (proceeds : setting.proceed ⟨pause, code⟩ act = some after) :
    Proceeds setting pause code act after := by
  cases act with
  | observes reading =>
      cases code with
      | observe clock next =>
          simp only [Setting.proceed] at proceeds
          split at proceeds <;> cases proceeds
          exact .observes ‹_›
      | _ => cases proceeds
  | sends call =>
      cases code with
      | await awaited next =>
          simp only [Setting.proceed] at proceeds
          split at proceeds <;> cases proceeds
          rename_i held
          obtain ⟨rfl, unsent⟩ := held
          exact .sends unsent
      | _ => cases proceeds
  | replies call =>
      cases code with
      | await awaited next =>
          simp only [Setting.proceed] at proceeds
          split at proceeds
          · rename_i executed answer awaited' next' code executing
            cases code
            split at proceeds
            · rename_i same
              subst same
              split at proceeds <;> cases proceeds
              rename_i same
              subst same
              exact .replies executing
            · cases proceeds
          · cases proceeds
      | _ => cases proceeds
  | fails call failure =>
      cases code with
      | await awaited next =>
          simp only [Setting.proceed] at proceeds
          split at proceeds <;> cases proceeds
          rename_i held
          obtain ⟨rfl, gone, breaks⟩ := held
          exact .fails gone breaks
      | _ => cases proceeds
  | performs call choice =>
      cases code with
      | perform performed next =>
          simp only [Setting.proceed] at proceeds
          split at proceeds
          · rename_i same
            subst same
            obtain ⟨served, serves, rfl⟩ := Option.map_eq_some_iff.mp proceeds
            exact .performs serves
          · cases proceeds
      | _ => cases proceeds
  | spawns call =>
      cases code with
      | spawn spawned next =>
          simp only [Setting.proceed] at proceeds
          split at proceeds <;> cases proceeds
          rename_i held
          obtain ⟨rfl, free⟩ := held
          exact .spawns (Option.isNone_iff_eq_none.mp free)
      | _ => cases proceeds
  | joins call =>
      cases code with
      | wait awaited timeout next =>
          simp only [Setting.proceed] at proceeds
          split at proceeds
          · rename_i code task
            cases code
            split at proceeds
            · rename_i same
              subst same
              split at proceeds <;> cases proceeds
              rename_i same
              subst same
              exact .joins task
            · cases proceeds
          · cases proceeds
      | _ => cases proceeds
  | expires call =>
      cases code with
      | wait awaited timeout next =>
          simp only [Setting.proceed] at proceeds
          split at proceeds
          · rename_i code task
            cases code
            split at proceeds <;> cases proceeds
            rename_i held
            obtain ⟨rfl, rfl, due⟩ := held
            exact .expires task due
          · cases proceeds
      | _ => cases proceeds
  | interrupts call failure =>
      cases code with
      | wait awaited timeout next =>
          simp only [Setting.proceed] at proceeds
          split at proceeds <;> cases proceeds
          rename_i held
          obtain ⟨rfl, interrupts⟩ := held
          exact .interrupts interrupts
      | _ => cases proceeds
  | abandons call outcome =>
      cases code with
      | abandon abandoned next =>
          simp only [Setting.proceed] at proceeds
          split at proceeds <;> cases proceeds
          rename_i held
          obtain ⟨rfl, ends⟩ := held
          exact .abandons ends
      | _ => cases proceeds
  | emits frame =>
      cases code with
      | emit emitted next =>
          simp only [Setting.proceed] at proceeds
          split at proceeds <;> cases proceeds
          rename_i held
          obtain ⟨rfl, unsent⟩ := held
          exact .emits unsent
      | _ => cases proceeds
  | resumes frame =>
      cases code with
      | emit emitted next =>
          simp only [Setting.proceed] at proceeds
          split at proceeds <;> cases proceeds
          rename_i held
          obtain ⟨rfl, gone⟩ := held
          exact .resumes gone
      | _ => cases proceeds
  | throws frame failure =>
      cases code with
      | emit emitted next =>
          simp only [Setting.proceed] at proceeds
          split at proceeds <;> cases proceeds
          rename_i held
          obtain ⟨rfl, gone, interrupts⟩ := held
          exact .throws gone interrupts
      | _ => cases proceeds
  | executes | finishes | late | drops | changes | elapses => cases proceeds

variable (setting)

/-- One act. -/
def Setting.advance (session : Session I World Result) (act : Act I Change) :
    Option (Session I World Result) :=
  match setting.proceed session act with
  | some after => some after
  | none =>
      match session.code.waiting session.flight with
      | some waiting =>
          (setting.stir waiting session.toPause act).map fun pause => ⟨pause, session.code⟩
      | none => none

end Acts

end Zangpu.Foundation
