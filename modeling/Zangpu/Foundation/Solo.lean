import Zangpu.Foundation.Processes

/-!
A process alone with its environment.

Owns: hosts that answer every call at once; the run of a single process against a
host, by which concrete runs of a system are computed; and that every stage of it is
reached.

Does not own: runs with several processes, or with abandoned calls.
-/

set_option autoImplicit false

namespace Zangpu.Foundation

/-- An environment that shows fixed clocks and answers every call at once. -/
structure Host (I : Interface) (World : Type) where
  reading : I.Clock → Int
  answer : (call : I.Call) → World → Except I.Failure (I.Answer call) × World

section Solo

variable {I : Interface} {Role Result World : Type} (host : Host I World)

/-- One interaction of the process with the host. A child task is answered when it
is waited for; an abandoned one, or a program at its end, stays where it is. -/
def Process.interact [DecidableEq I.Call] (world : World) (process : Process I Role Result) :
    World × Process I Role Result :=
  match process.code with
  | .observe clock next => (world, process.resume (next (host.reading clock)) [] process.task)
  | .await call next | .perform call next =>
      let (answer, after) := host.answer call world
      (after, process.resume (next answer) [.answered call answer, .sent call] process.task)
  | .spawn call next =>
      if process.task.isNone then (world, process.resume next [.sent call] (some ⟨call, none⟩))
      else (world, process)
  | .wait call _ next =>
      match process.task with
      | some ⟨running, none⟩ =>
          if running = call then
            let (answer, after) := host.answer call world
            (after, process.resume (next (.ok (some answer))) [.answered call answer] none)
          else (world, process)
      | _ => (world, process)
  | .emit frame next =>
      (world, process.resume (next (.ok ())) [.emitted frame] process.task)
  | _ => (world, process)

/-- The world and the process after some interactions. -/
def Process.interactions [DecidableEq I.Call] (world : World) (process : Process I Role Result) :
    Nat → World × Process I Role Result
  | 0 => (world, process)
  | count + 1 =>
      let reached := process.interactions world count
      reached.2.interact host reached.1

variable {host} {behaviour : Behaviour I Role Result World}

/-- A move of the only process, which drops no call, is a step of the system. -/
theorem Moves.alone {world after : World} {process moved : Process I Role Result}
    {happening : Happening I} (moves : Moves behaviour world process happening after moved [])
    {first : System I Role Result World}
    (run : Reaches behaviour (fun _ _ => True) first ⟨world, [process], []⟩) :
    Reaches behaviour (fun _ _ => True) first ⟨after, [moved], []⟩ := by
  let system : System I Role Result World := ⟨world, [process], []⟩
  have found : system.processes[0]? = some process := rfl
  have stepped : Step behaviour system (.moved 0 happening) ⟨after, [moved], []⟩ :=
    Step.move found moves
  exact .step run stepped trivial

/-- An interaction with a host that answers as the environment can is a few moves. -/
theorem Process.interact_reaches [DecidableEq I.Call]
    (lawful : ∀ call world, behaviour.semantics world call (host.answer call world).1
      (host.answer call world).2)
    {first : System I Role Result World} {world : World} {process : Process I Role Result}
    (unsent : process.sent = false)
    (run : Reaches behaviour (fun _ _ => True) first ⟨world, [process], []⟩) :
    (process.interact host world).2.sent = false ∧
      Reaches behaviour (fun _ _ => True) first
        ⟨(process.interact host world).1, [(process.interact host world).2], []⟩ := by
  unfold Process.interact
  split
  · rename_i clock next at_
    exact ⟨rfl, Moves.alone (Moves.observe at_ (host.reading clock)) run⟩
  · rename_i call next at_
    refine ⟨rfl, ?_⟩
    have sent := Moves.alone (Moves.send at_ unsent) run
    have replied : Moves behaviour world
        { process with sent := true, history := .sent call :: process.history } _ _ _ [] :=
      Moves.reply at_ rfl (lawful call world)
    exact Moves.alone replied sent
  · rename_i call next at_
    exact ⟨rfl, Moves.alone (Moves.perform at_ (lawful call world)) run⟩
  · rename_i call next at_
    split
    · rename_i free
      exact ⟨rfl, Moves.alone (Moves.spawn at_ (Option.isNone_iff_eq_none.mp free)) run⟩
    · exact ⟨unsent, run⟩
  · rename_i call timeout next at_
    split
    · rename_i running busy
      split
      · rename_i same
        subst same
        refine ⟨rfl, ?_⟩
        have finished := Moves.alone (Moves.finish busy (lawful running world)) run
        have joined : Moves behaviour (host.answer running world).2
            { process with task := some ⟨running, some (host.answer running world).1⟩ } _ _ _ [] :=
          Moves.join at_ rfl
        exact Moves.alone joined finished
      · exact ⟨unsent, run⟩
    · exact ⟨unsent, run⟩
  · rename_i frame next at_
    refine ⟨rfl, ?_⟩
    have emitted := Moves.alone (Moves.emit at_ unsent) run
    have resumed : Moves behaviour world
        { process with sent := true, history := .emitted frame :: process.history } _ _ _ [] :=
      Moves.resume at_ rfl (Or.inl rfl)
    exact Moves.alone resumed emitted
  · exact ⟨unsent, run⟩

/-- A started process and its interactions are a run of the system. -/
theorem Process.interactions_reach [DecidableEq I.Call]
    (lawful : ∀ call world, behaviour.semantics world call (host.answer call world).1
      (host.answer call world).2)
    {world : World} {role : Role} (allowed : behaviour.mayStart ⟨world, [], []⟩ role)
    (count : Nat) :
    Reaches behaviour (fun _ _ => True) ⟨world, [], []⟩
      ⟨((Process.fresh role (behaviour.program role)).interactions host world count).1,
        [((Process.fresh role (behaviour.program role)).interactions host world count).2], []⟩ := by
  suffices reached : ((Process.fresh role (behaviour.program role)).interactions host world
      count).2.sent = false ∧ Reaches behaviour (fun _ _ => True) ⟨world, [], []⟩
      ⟨((Process.fresh role (behaviour.program role)).interactions host world count).1,
        [((Process.fresh role (behaviour.program role)).interactions host world count).2], []⟩ from
    reached.2
  induction count with
  | zero => exact ⟨rfl, .step (.refl _) (Step.start allowed) trivial⟩
  | succ count inductionHypothesis =>
      exact Process.interact_reaches lawful inductionHypothesis.1 inductionHypothesis.2

end Solo

end Zangpu.Foundation
