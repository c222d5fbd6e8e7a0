import Zangpu.Foundation.Execution
import Zangpu.Foundation.Processes

/-!
Executions inside a system.

Owns: that the execution of a program by itself is a run of the system in which its
process is the only one to move.

Does not own: runs in which other processes move in between.
-/

set_option autoImplicit false

namespace Zangpu.Foundation

section Embedding

variable {I : Interface} {First Role Result World : Type}
  {behaviour : Behaviour I Role Result World} {condition : Condition I Role Result World}
  {responder : Responder I World}

/-- A responder does what the environment of a system can do. -/
structure Responder.Lawful (responder : Responder I World)
    (behaviour : Behaviour I Role Result World) : Prop where
  reads : ∀ clock world, (responder.read clock world).2 = world
  answers : ∀ call world, behaviour.semantics world call (responder.answer call world).1
    (responder.answer call world).2

/-- A process that runs the program, the rest after it apart. -/
structure Runs (processes : List (Process I Role Result)) (pid : Nat)
    (process : Process I Role Result) (code : Program I Result) : Prop where
  found : processes[pid]? = some process
  unsent : process.sent = false
  code : process.code = code

theorem Runs.set {processes : List (Process I Role Result)} {pid : Nat}
    {process moved : Process I Role Result} {code next : Program I Result}
    (runs : Runs processes pid process code) (unsent : moved.sent = false)
    (reached : moved.code = next) : Runs (processes.set pid moved) pid moved next :=
  ⟨getElem?_set_moved runs.found, unsent, reached⟩

theorem Reaches.move {first : System I Role Result World} {orphans : List (Nat × I.Call)}
    {pid : Nat} {world after : World} {processes : List (Process I Role Result)}
    {process moved : Process I Role Result} {happening : Happening I}
    (found : processes[pid]? = some process)
    (moves : Moves behaviour world process happening after moved [])
    (meets : ∀ system, condition system (.moved pid happening))
    (run : Reaches behaviour condition first ⟨world, processes, orphans⟩) :
    Reaches behaviour condition first ⟨after, processes.set pid moved, orphans⟩ := by
  let system : System I Role Result World := ⟨world, processes, orphans⟩
  have step : Step behaviour system (.moved pid happening)
      ⟨after, processes.set pid moved, orphans⟩ :=
    @Step.move _ _ _ _ behaviour system pid process moved happening after [] found moves
  exact .step run step (meets system)

/-- A program executed to its end, in the place of a process of a system. -/
theorem Reaches.executes (lawful : responder.Lawful behaviour)
    (meets : ∀ system pid happening, condition system (.moved pid happening))
    {first : System I Role Result World} {orphans : List (Nat × I.Call)} {pid : Nat}
    {program : Program I First} {rest : First → Program I Result} {value : First}
    {world after : World} (ended : program.execute responder world = (some value, after))
    {processes : List (Process I Role Result)} {process : Process I Role Result}
    (runs : Runs processes pid process (program.bind rest))
    (run : Reaches behaviour condition first ⟨world, processes, orphans⟩) :
    ∃ reached moved, Runs reached pid moved (rest value) ∧
      Reaches behaviour condition first ⟨after, reached, orphans⟩ := by
  have moved {happening : Happening I} (system : System I Role Result World) :
      condition system (.moved pid happening) := meets system pid happening
  induction program generalizing world processes process with
  | done result =>
      cases ended
      exact ⟨processes, process, runs, run⟩
  | observe clock next inductionHypothesis =>
      have read := run.move runs.found
        (Moves.observe runs.code (responder.read clock world).1) moved
      unfold Program.execute at ended
      rw [lawful.reads] at ended
      exact inductionHypothesis _ ended (runs.set rfl rfl) read
  | await call next inductionHypothesis =>
      have sent := run.move runs.found (Moves.send runs.code runs.unsent) moved
      have waits : (processes.set pid { process with
          sent := true
          history := .sent call :: process.history })[pid]? = some _ :=
        getElem?_set_moved runs.found
      have replied : Moves behaviour world
          { process with sent := true, history := .sent call :: process.history } _ _ _ [] :=
        Moves.reply runs.code rfl (lawful.answers call world)
      exact inductionHypothesis _ ended ⟨getElem?_set_moved waits, rfl, rfl⟩
        (sent.move waits replied moved)
  | perform call next inductionHypothesis =>
      exact inductionHypothesis _ ended (runs.set rfl rfl)
        (run.move runs.found (Moves.perform runs.code (lawful.answers call world)) moved)
  | stuck | spawn | wait | abandon | emit => cases ended

end Embedding

end Zangpu.Foundation
