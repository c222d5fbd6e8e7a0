import Mathlib.Data.List.Basic
import Zangpu.Foundation.Program

/-!
Systems of processes over one shared world.

Owns: processes with their child task and history; the moves of one process;
the steps of a system, where calls of different processes interleave, a call in
flight may outlive the process that sent it, and any process may be stopped at
any point; and runs under a condition on the steps.

Does not own: what a phase or a call tells about the world.
-/

set_option autoImplicit false

namespace Zangpu.Foundation

/-- A child task: the call it makes and, once finished, the answer. -/
structure Task (I : Interface) where
  call : I.Call
  outcome : Option (Except I.Failure (I.Answer call))

/-- The call of a child task that has not finished. -/
def Task.running {I : Interface} : Option (Task I) → List I.Call
  | some ⟨call, none⟩ => [call]
  | _ => []

/-- One process. `sent` marks that the call at the await point is in flight, or
that the frame at the yield point was handed over. The history is newest first. -/
structure Process (I : Interface) (Role Result : Type) where
  role : Role
  code : Program I Result
  sent : Bool
  task : Option (Task I)
  history : List (Event I)

/-- All processes, the world, and the calls in flight whose process no longer
waits for them. -/
structure System (I : Interface) (Role Result World : Type) where
  world : World
  processes : List (Process I Role Result)
  orphans : List (Nat × I.Call)

/-- What the environment of the processes does: the program a role runs, when a
role may start, what a call does to the world and answers, which exceptions
interrupt an await point, and how the world changes by itself. -/
structure Behaviour (I : Interface) (Role Result World : Type) where
  program : Role → Program I Result
  mayStart : System I Role Result World → Role → Prop
  semantics : World → (call : I.Call) → Except I.Failure (I.Answer call) → World → Prop
  interrupts : I.Failure → Prop
  drifts : World → World → Prop

/-- What one move shows: the events it adds to the history and the call it
applied to the world. -/
structure Happening (I : Interface) where
  events : List (Event I)
  applied : Option ((call : I.Call) × Except I.Failure (I.Answer call))

namespace Process

variable {I : Interface} {Role Result : Type}

/-- A process about to start. -/
def fresh (role : Role) (code : Program I Result) : Process I Role Result where
  role := role
  code := code
  sent := false
  task := none
  history := []

/-- The awaited call, while it is in flight. -/
def awaited (process : Process I Role Result) : List I.Call :=
  match process.code, process.sent with
  | .await call _, true => [call]
  | _, _ => []

/-- The calls of the process that may still change the world. -/
def inFlight (process : Process I Role Result) : List I.Call := process.awaited ++ Task.running process.task

/-- The process takes no further step of its own. -/
def halted (process : Process I Role Result) : Bool := process.code.halted

/-- Continue with the code after an interaction. -/
def resume (process : Process I Role Result) (code : Program I Result)
    (events : List (Event I)) (task : Option (Task I)) : Process I Role Result where
  role := process.role
  code := code
  sent := false
  task := task
  history := events ++ process.history

theorem inFlight_of_unsent {process : Process I Role Result} (unsent : process.sent = false) :
    process.inFlight = Task.running process.task := by
  unfold inFlight awaited
  rw [unsent]
  split <;> simp_all

@[simp] theorem inFlight_resume (process : Process I Role Result) (code : Program I Result)
    (events : List (Event I)) (task : Option (Task I)) :
    (process.resume code events task).inFlight = Task.running task :=
  inFlight_of_unsent rfl

theorem mem_inFlight_of_await {process : Process I Role Result} {call : I.Call}
    {next : Except I.Failure (I.Answer call) → Program I Result}
    (code : process.code = .await call next) (sent : process.sent = true) :
    call ∈ process.inFlight := by
  simp [inFlight, awaited, code, sent]

theorem mem_inFlight_of_task {process : Process I Role Result} {call : I.Call}
    (running : process.task = some ⟨call, none⟩) : call ∈ process.inFlight := by
  simp [inFlight, Task.running, running]

end Process

section Moves

variable {I : Interface} {Role Result World : Type} (behaviour : Behaviour I Role Result World)

/-- The moves of one process: the world and the process before, what happens,
and the world, the process and the abandoned calls after. -/
inductive Moves : World → Process I Role Result → Happening I → World →
    Process I Role Result → List I.Call → Prop where
  | observe {world : World} {process : Process I Role Result}
      {clock : I.Clock} {next : Int → Program I Result} (at_ : process.code = .observe clock next)
      (reading : Int) :
      Moves world process ⟨[], none⟩ world (process.resume (next reading) [] process.task) []
  | send {world : World} {process : Process I Role Result} {call : I.Call}
      {next : Except I.Failure (I.Answer call) → Program I Result}
      (at_ : process.code = .await call next) (unsent : process.sent = false) :
      Moves world process ⟨[.sent call], none⟩ world
        { process with sent := true, history := .sent call :: process.history } []
  | reply {world after : World} {process : Process I Role Result} {call : I.Call}
      {next : Except I.Failure (I.Answer call) → Program I Result}
      {answer : Except I.Failure (I.Answer call)}
      (at_ : process.code = .await call next) (sent : process.sent = true)
      (applied : behaviour.semantics world call answer after) :
      Moves world process ⟨[.answered call answer], some ⟨call, answer⟩⟩ after
        (process.resume (next answer) [.answered call answer] process.task) []
  | interrupt {world : World} {process : Process I Role Result} {call : I.Call}
      {next : Except I.Failure (I.Answer call) → Program I Result} {failure : I.Failure}
      (at_ : process.code = .await call next) (sent : process.sent = true)
      (interrupts : behaviour.interrupts failure) :
      Moves world process ⟨[.lost call], none⟩ world
        (process.resume (next (.error failure)) [.lost call] process.task) [call]
  | perform {world after : World} {process : Process I Role Result} {call : I.Call}
      {next : Except I.Failure (I.Answer call) → Program I Result}
      {answer : Except I.Failure (I.Answer call)}
      (at_ : process.code = .perform call next)
      (applied : behaviour.semantics world call answer after) :
      Moves world process ⟨[.answered call answer, .sent call], some ⟨call, answer⟩⟩ after
        (process.resume (next answer) [.answered call answer, .sent call] process.task) []
  | spawn {world : World} {process : Process I Role Result} {call : I.Call}
      {next : Program I Result} (at_ : process.code = .spawn call next)
      (free : process.task = none) :
      Moves world process ⟨[.sent call], none⟩ world
        (process.resume next [.sent call] (some ⟨call, none⟩)) []
  | finish {world after : World} {process : Process I Role Result} {call : I.Call}
      {answer : Except I.Failure (I.Answer call)} (running : process.task = some ⟨call, none⟩)
      (applied : behaviour.semantics world call answer after) :
      Moves world process ⟨[], some ⟨call, answer⟩⟩ after
        { process with task := some ⟨call, some answer⟩ } []
  | join {world : World} {process : Process I Role Result} {call : I.Call} {timeout : Int}
      {next : Except I.Failure (Option (Except I.Failure (I.Answer call))) → Program I Result}
      {answer : Except I.Failure (I.Answer call)}
      (at_ : process.code = .wait call timeout next)
      (finished : process.task = some ⟨call, some answer⟩) :
      Moves world process ⟨[.answered call answer], none⟩ world
        (process.resume (next (.ok (some answer))) [.answered call answer] none) []
  | timeout {world : World} {process : Process I Role Result} {call : I.Call} {timeout : Int}
      {next : Except I.Failure (Option (Except I.Failure (I.Answer call))) → Program I Result}
      (at_ : process.code = .wait call timeout next)
      (running : process.task = some ⟨call, none⟩) :
      Moves world process ⟨[], none⟩ world (process.resume (next (.ok none)) [] process.task) []
  | interruptWait {world : World} {process : Process I Role Result} {call : I.Call}
      {timeout : Int}
      {next : Except I.Failure (Option (Except I.Failure (I.Answer call))) → Program I Result}
      {failure : I.Failure} (at_ : process.code = .wait call timeout next)
      (interrupts : behaviour.interrupts failure) :
      Moves world process ⟨[], none⟩ world (process.resume (next (.error failure)) [] process.task) []
  | abandon {world : World} {process : Process I Role Result} {call : I.Call}
      {next : Except I.Failure Unit → Program I Result} {outcome : Except I.Failure Unit}
      (at_ : process.code = .abandon call next)
      (ends : outcome = .ok () ∨ ∃ failure, behaviour.interrupts failure ∧ outcome = .error failure) :
      Moves world process ⟨[.lost call], none⟩ world
        (process.resume (next outcome) [.lost call] none)
        (Task.running process.task)
  | emit {world : World} {process : Process I Role Result} {frame : I.Frame}
      {next : Except I.Failure Unit → Program I Result}
      (at_ : process.code = .emit frame next) (unsent : process.sent = false) :
      Moves world process ⟨[.emitted frame], none⟩ world
        { process with sent := true, history := .emitted frame :: process.history } []
  | resume {world : World} {process : Process I Role Result} {frame : I.Frame}
      {next : Except I.Failure Unit → Program I Result} {outcome : Except I.Failure Unit}
      (at_ : process.code = .emit frame next) (sent : process.sent = true)
      (ends : outcome = .ok () ∨ ∃ failure, behaviour.interrupts failure ∧ outcome = .error failure) :
      Moves world process ⟨[], none⟩ world (process.resume (next outcome) [] process.task) []
  | halt {world : World} {process : Process I Role Result} :
      Moves world process ⟨[], none⟩ world (process.resume .stuck [] none) process.inFlight

/-- What a step of the system was. -/
inductive Occurrence (I : Interface) (Role : Type) where
  | started (role : Role)
  | moved (pid : Nat) (happening : Happening I)
  | applied (pid : Nat) (call : I.Call) (answer : Except I.Failure (I.Answer call))
  | dropped (pid : Nat) (call : I.Call)
  | drifted

/-- One step of the system. -/
inductive Step : System I Role Result World → Occurrence I Role →
    System I Role Result World → Prop where
  | start {system : System I Role Result World} {role : Role}
      (allowed : behaviour.mayStart system role) :
      Step system (.started role)
        { system with
          processes := system.processes ++ [Process.fresh role (behaviour.program role)] }
  | move {system : System I Role Result World} {pid : Nat}
      {process moved : Process I Role Result} {happening : Happening I} {world : World}
      {lost : List I.Call} (found : system.processes[pid]? = some process)
      (moves : Moves behaviour system.world process happening world moved lost) :
      Step system (.moved pid happening)
        ⟨world, system.processes.set pid moved,
          lost.map (fun call => (pid, call)) ++ system.orphans⟩
  | apply {system : System I Role Result World} {pid : Nat} {call : I.Call}
      {answer : Except I.Failure (I.Answer call)} {world : World}
      {before after : List (Nat × I.Call)}
      (found : system.orphans = before ++ (pid, call) :: after)
      (applied : behaviour.semantics system.world call answer world) :
      Step system (.applied pid call answer) ⟨world, system.processes, before ++ after⟩
  | drop {system : System I Role Result World} {pid : Nat} {call : I.Call}
      {before after : List (Nat × I.Call)}
      (found : system.orphans = before ++ (pid, call) :: after) :
      Step system (.dropped pid call) ⟨system.world, system.processes, before ++ after⟩
  | drift {system : System I Role Result World} {world : World}
      (drifts : behaviour.drifts system.world world) :
      Step system .drifted { system with world := world }

/-- A condition that every step of a run meets in the state before it. -/
abbrev Condition (I : Interface) (Role Result World : Type) :=
  System I Role Result World → Occurrence I Role → Prop

/-- Runs whose steps all meet a condition. -/
inductive Reaches (condition : Condition I Role Result World) :
    System I Role Result World → System I Role Result World → Prop where
  | refl (system : System I Role Result World) : Reaches condition system system
  | step {start middle last : System I Role Result World} {occurrence : Occurrence I Role}
      (earlier : Reaches condition start middle)
      (step : Step behaviour middle occurrence last) (meets : condition middle occurrence) :
      Reaches condition start last

variable {behaviour}

/-- An invariant of the steps that meet the condition holds along a run. -/
theorem Reaches.invariant {condition : Condition I Role Result World}
    {Invariant : System I Role Result World → Prop}
    (preserved : ∀ before occurrence after, Invariant before →
      Step behaviour before occurrence after → condition before occurrence → Invariant after)
    {start last : System I Role Result World} (initial : Invariant start)
    (run : Reaches behaviour condition start last) : Invariant last := by
  induction run with
  | refl => exact initial
  | step _ step meets inductionHypothesis =>
      exact preserved _ _ _ inductionHypothesis step meets

theorem Reaches.weaken {stronger weaker : Condition I Role Result World}
    {start last : System I Role Result World}
    (implies : ∀ system occurrence, stronger system occurrence → weaker system occurrence)
    (run : Reaches behaviour stronger start last) : Reaches behaviour weaker start last := by
  induction run with
  | refl => exact .refl _
  | step _ step meets inductionHypothesis =>
      exact .step inductionHypothesis step (implies _ _ meets)

theorem Reaches.trans {condition : Condition I Role Result World}
    {start middle last : System I Role Result World}
    (first : Reaches behaviour condition start middle)
    (second : Reaches behaviour condition middle last) :
    Reaches behaviour condition start last := by
  induction second with
  | refl => exact first
  | step _ step meets inductionHypothesis => exact .step inductionHypothesis step meets

end Moves

/-! ## Looking processes up -/

section Lookup

variable {I : Interface} {Role Result : Type} {processes : List (Process I Role Result)}
  {pid other : Nat} {process moved candidate : Process I Role Result}

/-- After a move, a process is the moved one or an untouched one. -/
theorem getElem?_set_cases (found : processes[pid]? = some process)
    (after : (processes.set pid moved)[other]? = some candidate) :
    (other = pid ∧ candidate = moved) ∨ (other ≠ pid ∧ processes[other]? = some candidate) := by
  by_cases same : pid = other
  · subst same
    rw [List.getElem?_set_self (List.getElem?_eq_some_iff.mp found).1, Option.some.injEq] at after
    exact Or.inl ⟨rfl, after.symm⟩
  · rw [List.getElem?_set_ne same] at after
    exact Or.inr ⟨fun equal => same equal.symm, after⟩

theorem getElem?_set_moved (found : processes[pid]? = some process) :
    (processes.set pid moved)[pid]? = some moved :=
  List.getElem?_set_self (List.getElem?_eq_some_iff.mp found).1

/-- After a start, a process is the new one or an old one. -/
theorem getElem?_append_cases
    (after : (processes ++ [moved])[other]? = some candidate) :
    (other = processes.length ∧ candidate = moved) ∨ processes[other]? = some candidate := by
  rw [List.getElem?_append] at after
  split at after
  · exact Or.inr after
  · rename_i outside
    rw [List.getElem?_singleton] at after
    split at after
    · rename_i zero
      exact Or.inl ⟨by omega, (Option.some.inj after).symm⟩
    · cases after

theorem getElem?_append_old (found : processes[pid]? = some process) :
    (processes ++ [moved])[pid]? = some process := by
  rw [List.getElem?_append_left (List.getElem?_eq_some_iff.mp found).1]
  exact found

end Lookup

/-! ## What a move keeps -/

section Summary

variable {I : Interface} {Role Result World : Type} {behaviour : Behaviour I Role Result World}
  {world after : World} {process moved : Process I Role Result} {happening : Happening I}
  {lost : List I.Call}

theorem Moves.role_eq (moves : Moves behaviour world process happening after moved lost) :
    moved.role = process.role := by
  cases moves <;> rfl

theorem Moves.history_eq (moves : Moves behaviour world process happening after moved lost) :
    moved.history = happening.events ++ process.history := by
  cases moves <;> rfl

/-- The code of a halted process never changes. -/
theorem Moves.halted (moves : Moves behaviour world process happening after moved lost)
    (halted : process.halted = true) : moved.halted = true ∧ happening.events = [] := by
  cases moves with
  | finish => exact ⟨halted, rfl⟩
  | halt => exact ⟨rfl, rfl⟩
  | observe at_ | send at_ | reply at_ | interrupt at_ | perform at_ | spawn at_ | join at_
  | timeout at_ | interruptWait at_ | abandon at_ | emit at_ | resume at_ =>
      simp [Process.halted, at_, Program.halted] at halted

/-- A call that is in flight after a move was in flight before it or sent by it. -/
theorem Moves.inFlight (moves : Moves behaviour world process happening after moved lost)
    {call : I.Call} (member : call ∈ moved.inFlight ∨ call ∈ lost) :
    call ∈ process.inFlight ∨ Event.sent call ∈ happening.events := by
  have tasked (running : call ∈ Task.running process.task) : call ∈ process.inFlight :=
    List.mem_append_right _ running
  cases moves with
  | observe | reply | perform | timeout | interruptWait | resume =>
      left
      apply tasked
      simpa using member
  | send at_ unsent =>
      simp only [Process.inFlight, Process.awaited, at_, List.mem_append, List.mem_singleton,
        List.not_mem_nil, or_false] at member
      rcases member with rfl | running
      · exact Or.inr (by simp)
      · exact Or.inl (tasked running)
  | interrupt at_ sent =>
      left
      rcases member with running | lost
      · exact tasked (by simpa using running)
      · simp only [Process.inFlight, Process.awaited, at_, sent, List.mem_append]
        exact Or.inl lost
  | spawn at_ free =>
      right
      simpa [Task.running] using member
  | finish running =>
      left
      have awaited : call ∈ process.awaited := by
        simpa [Process.inFlight, Process.awaited, Task.running] using member
      exact List.mem_append_left _ awaited
  | join => simp [Task.running] at member
  | abandon =>
      left
      apply tasked
      simpa [Task.running] using member
  | emit at_ unsent =>
      left
      apply tasked
      simpa [Process.inFlight, Process.awaited, at_] using member
  | halt =>
      left
      simpa [Task.running] using member

/-- A move leaves the world alone or applies one call, in flight before the move
or sent by it. -/
theorem Moves.effect (moves : Moves behaviour world process happening after moved lost) :
    (happening.applied = none ∧ after = world) ∨
      ∃ call answer, happening.applied = some ⟨call, answer⟩ ∧
        behaviour.semantics world call answer after ∧
        (call ∈ process.inFlight ∨ Event.sent call ∈ happening.events) := by
  cases moves with
  | reply at_ sent applied =>
      exact Or.inr ⟨_, _, rfl, applied, Or.inl (Process.mem_inFlight_of_await at_ sent)⟩
  | perform at_ applied => exact Or.inr ⟨_, _, rfl, applied, Or.inr (by simp)⟩
  | finish running applied =>
      exact Or.inr ⟨_, _, rfl, applied, Or.inl (Process.mem_inFlight_of_task running)⟩
  | observe | send | interrupt | spawn | join | timeout | interruptWait | abandon | emit
  | resume | halt => exact Or.inl ⟨rfl, rfl⟩

end Summary

end Zangpu.Foundation
