import Zangpu.Foundation.Processes

/-!
Rely and guarantee for disciplined processes.

Owns: that every process of a system keeps the discipline its program follows;
contracts, which attach stable knowledge about the world to phases, to calls in
flight and to answers; and the invariant a contract establishes on every run.

Does not own: knowledge that other processes can take away.
-/

set_option autoImplicit false

namespace Zangpu.Foundation

section Discipline

variable {I : Interface} {Phase Role Result World : Type} (discipline : Discipline I Phase)

/-- Every call and frame of a history was permitted when it was sent. -/
def Lawful (start : Phase) : List (Event I) → Prop
  | [] => True
  | .sent call :: earlier =>
      discipline.permits (discipline.phase start earlier) (.sent call) ∧ Lawful start earlier
  | .emitted frame :: earlier =>
      discipline.permits (discipline.phase start earlier) (.emitted frame) ∧
        Lawful start earlier
  | .answered _ _ :: earlier => Lawful start earlier
  | .lost _ :: earlier => Lawful start earlier

/-- The phase of a process. -/
def Process.phase (start : Role → Phase) (process : Process I Role Result) : Phase :=
  discipline.phase (start process.role) process.history

/-- The rest of a process follows the discipline, also when it waits for the
answer to a call it has sent. -/
def Process.Continues (start : Role → Phase) (process : Process I Role Result) : Prop :=
  match process.code, process.sent with
  | .await call next, true =>
      (∀ answer, discipline.answerable call answer →
        Follows discipline (next answer)
          (discipline.after (process.phase discipline start) (.answered call answer))
          fun _ _ => True) ∧
      ∀ failure, discipline.interrupts failure →
        Follows discipline (next (.error failure))
          (discipline.after (process.phase discipline start) (.lost call)) fun _ _ => True
  | .emit _ next, true =>
      Follows discipline (next (.ok ())) (process.phase discipline start) (fun _ _ => True) ∧
      ∀ failure, discipline.interrupts failure →
        Follows discipline (next (.error failure)) (process.phase discipline start)
          fun _ _ => True
  | code, _ => Follows discipline code (process.phase discipline start) fun _ _ => True

structure Process.Disciplined (start : Role → Phase) (process : Process I Role Result) :
    Prop where
  continues : process.Continues discipline start
  lawful : Lawful discipline (start process.role) process.history
  finished : ∀ call answer, process.task = some ⟨call, some answer⟩ →
    discipline.answerable call answer

variable {discipline}

theorem Process.continues_of_unsent {start : Role → Phase} {process : Process I Role Result}
    (unsent : process.sent = false)
    (follows : Follows discipline process.code (process.phase discipline start)
      fun _ _ => True) : process.Continues discipline start := by
  unfold Process.Continues
  rw [unsent]
  split <;> simp_all

theorem Process.follows_of_continues {start : Role → Phase} {process : Process I Role Result}
    (continues : process.Continues discipline start)
    (unsent : process.sent = false ∨
      ((∀ call next, process.code ≠ .await call next) ∧
        ∀ frame next, process.code ≠ .emit frame next)) :
    Follows discipline process.code (process.phase discipline start) fun _ _ => True := by
  unfold Process.Continues at continues
  split at continues
  · rename_i code sent
    rcases unsent with unsent | ⟨noAwait, _⟩
    · rw [unsent] at sent
      cases sent
    · exact absurd code (noAwait _ _)
  · rename_i code sent
    rcases unsent with unsent | ⟨_, noEmit⟩
    · rw [unsent] at sent
      cases sent
    · exact absurd code (noEmit _ _)
  · exact continues

/-- A disciplined process stays disciplined: its program never sends or emits
what the phase forbids. -/
theorem Process.Disciplined.moves {behaviour : Behaviour I Role Result World}
    {start : Role → Phase}
    (answerable : ∀ before call answer after, behaviour.semantics before call answer after →
      discipline.answerable call answer)
    (interrupts : ∀ failure, behaviour.interrupts failure → discipline.interrupts failure)
    {world after : World} {process moved : Process I Role Result} {happening : Happening I}
    {lost : List I.Call} (disciplined : process.Disciplined discipline start)
    (moves : Moves behaviour world process happening after moved lost) :
    moved.Disciplined discipline start := by
  obtain ⟨continues, lawful, finished⟩ := disciplined
  cases moves with
  | observe at_ clock =>
      have follows := Process.follows_of_continues continues (Or.inr (by simp [at_]))
      rw [at_] at follows
      exact ⟨Process.continues_of_unsent rfl (follows clock), lawful, finished⟩
  | send at_ unsent =>
      have follows := Process.follows_of_continues continues (Or.inl unsent)
      rw [at_] at follows
      obtain ⟨permitted, answered, interrupted⟩ := follows
      refine ⟨?_, ⟨permitted, lawful⟩, finished⟩
      simp only [Process.Continues, at_]
      exact ⟨answered, interrupted⟩
  | reply at_ sent applied =>
      simp only [Process.Continues, at_, sent] at continues
      exact ⟨Process.continues_of_unsent rfl (continues.1 _ (answerable _ _ _ _ applied)),
        lawful, finished⟩
  | interrupt at_ sent interrupted =>
      simp only [Process.Continues, at_, sent] at continues
      exact ⟨Process.continues_of_unsent rfl (continues.2 _ (interrupts _ interrupted)),
        lawful, finished⟩
  | perform at_ applied =>
      have follows := Process.follows_of_continues continues (Or.inr (by simp [at_]))
      rw [at_] at follows
      exact ⟨Process.continues_of_unsent rfl (follows.2 _ (answerable _ _ _ _ applied)),
        ⟨follows.1, lawful⟩, finished⟩
  | spawn at_ free =>
      have follows := Process.follows_of_continues continues (Or.inr (by simp [at_]))
      rw [at_] at follows
      exact ⟨Process.continues_of_unsent rfl follows.2, ⟨follows.1, lawful⟩,
        by intro call answer equal; cases equal⟩
  | finish running applied =>
      refine ⟨continues, lawful, ?_⟩
      intro call answer equal
      cases equal
      exact answerable _ _ _ _ applied
  | join at_ done =>
      have follows := Process.follows_of_continues continues (Or.inr (by simp [at_]))
      rw [at_] at follows
      exact ⟨Process.continues_of_unsent rfl (follows.1 _ (finished _ _ done)), lawful,
        by intro call answer equal; cases equal⟩
  | timeout at_ running =>
      have follows := Process.follows_of_continues continues (Or.inr (by simp [at_]))
      rw [at_] at follows
      exact ⟨Process.continues_of_unsent rfl follows.2.1, lawful, finished⟩
  | interruptWait at_ interrupted =>
      have follows := Process.follows_of_continues continues (Or.inr (by simp [at_]))
      rw [at_] at follows
      exact ⟨Process.continues_of_unsent rfl (follows.2.2 _ (interrupts _ interrupted)), lawful,
        finished⟩
  | abandon at_ ends =>
      have follows := Process.follows_of_continues continues (Or.inr (by simp [at_]))
      rw [at_] at follows
      refine ⟨Process.continues_of_unsent rfl ?_, lawful, by intro call answer equal; cases equal⟩
      rcases ends with rfl | ⟨failure, interrupted, rfl⟩
      · exact follows.1
      · exact follows.2 failure (interrupts _ interrupted)
  | emit at_ unsent =>
      have follows := Process.follows_of_continues continues (Or.inl unsent)
      rw [at_] at follows
      obtain ⟨permitted, resumed, interrupted⟩ := follows
      refine ⟨?_, ⟨permitted, lawful⟩, finished⟩
      simp only [Process.Continues, at_]
      exact ⟨resumed, interrupted⟩
  | resume at_ sent ends =>
      simp only [Process.Continues, at_, sent] at continues
      refine ⟨Process.continues_of_unsent rfl ?_, lawful, finished⟩
      rcases ends with rfl | ⟨failure, interrupted, rfl⟩
      · exact continues.1
      · exact continues.2 failure (interrupts _ interrupted)
  | halt =>
      exact ⟨Process.continues_of_unsent rfl trivial, lawful,
        by intro call answer equal; cases equal⟩

/-- What was permitted in a history was permitted in its past. -/
theorem Lawful.earlier {start : Phase} {later earlier : List (Event I)}
    (lawful : Lawful discipline start (later ++ earlier)) : Lawful discipline start earlier := by
  induction later with
  | nil => exact lawful
  | cons event later inductionHypothesis =>
      apply inductionHypothesis
      cases event with
      | sent | emitted => exact lawful.2
      | answered | lost => exact lawful

/-- Where every program follows the discipline, every process of a run does. -/
theorem disciplined_of_reaches {behaviour : Behaviour I Role Result World} {start : Role → Phase}
    (follows : ∀ role, Follows discipline (behaviour.program role) (start role) fun _ _ => True)
    (answerable : ∀ before call answer after, behaviour.semantics before call answer after →
      discipline.answerable call answer)
    (interrupts : ∀ failure, behaviour.interrupts failure → discipline.interrupts failure)
    {condition : Condition I Role Result World} {first last : System I Role Result World}
    (initial : ∀ process ∈ first.processes, process.Disciplined discipline start)
    (run : Reaches behaviour condition first last) :
    ∀ process ∈ last.processes, process.Disciplined discipline start := by
  induction run with
  | refl => exact initial
  | step _ step _ inductionHypothesis =>
      have disciplined := inductionHypothesis
      intro process member
      cases step with
      | start allowed =>
          rcases List.mem_append.mp member with old | fresh
          · exact disciplined process old
          · obtain rfl := List.mem_singleton.mp fresh
            exact ⟨Process.continues_of_unsent rfl (follows _), trivial,
              by intro call answer equal; cases equal⟩
      | move found moves =>
          rcases List.mem_or_eq_of_mem_set member with old | rfl
          · exact disciplined process old
          · exact (disciplined _ (List.mem_of_getElem? found)).moves answerable interrupts moves
      | apply | drop | drift => exact disciplined process member

end Discipline

/-! ## Contracts -/

/-- Stable knowledge about the world: `Knows` of a process in a phase,
`Licensed` of a call in flight, `Answered` of an answer. Every step lets the
world grow, and knowledge survives growth. -/
structure Contract {I : Interface} {Phase Role Result World : Type}
    (behaviour : Behaviour I Role Result World) (discipline : Discipline I Phase)
    (start : Role → Phase) where
  Sound : World → Prop
  Grows : World → World → Prop
  Knows : Phase → World → Prop
  Licensed : I.Call → World → Prop
  Answered : (call : I.Call) → Except I.Failure (I.Answer call) → World → Prop
  follows : ∀ role, Follows discipline (behaviour.program role) (start role) fun _ _ => True
  interrupts : ∀ failure, behaviour.interrupts failure → discipline.interrupts failure
  answerable : ∀ before call answer after, behaviour.semantics before call answer after →
    discipline.answerable call answer
  grows_refl : ∀ world, Grows world world
  knows_stable : ∀ phase before after, Grows before after → Knows phase before →
    Knows phase after
  licensed_stable : ∀ call before after, Grows before after → Licensed call before →
    Licensed call after
  answered_stable : ∀ call answer before after, Grows before after →
    Answered call answer before → Answered call answer after
  apply : ∀ before call answer after, Sound before → Licensed call before →
    behaviour.semantics before call answer after →
    Sound after ∧ Grows before after ∧ Answered call answer after
  drift : ∀ before after, Sound before → behaviour.drifts before after →
    Sound after ∧ Grows before after
  knows_start : ∀ role world, Knows (start role) world
  knows_sent : ∀ phase call world, Knows phase world → discipline.permits phase (.sent call) →
    Knows (discipline.after phase (.sent call)) world ∧ Licensed call world
  knows_answered : ∀ phase call answer world, Knows phase world → Answered call answer world →
    discipline.answerable call answer → Knows (discipline.after phase (.answered call answer)) world
  knows_lost : ∀ phase call world, Knows phase world →
    Knows (discipline.after phase (.lost call)) world
  knows_emitted : ∀ phase frame world, Knows phase world →
    discipline.permits phase (.emitted frame) →
    Knows (discipline.after phase (.emitted frame)) world

namespace Contract

variable {I : Interface} {Phase Role Result World : Type}
  {behaviour : Behaviour I Role Result World} {discipline : Discipline I Phase}
  {start : Role → Phase} (contract : Contract behaviour discipline start)

/-- What a contract says of one process in a world. -/
structure Keeps (world : World) (process : Process I Role Result) : Prop where
  disciplined : process.Disciplined discipline start
  knows : contract.Knows (process.phase discipline start) world
  licensed : ∀ call ∈ process.inFlight, contract.Licensed call world
  answered : ∀ call answer, process.task = some ⟨call, some answer⟩ →
    contract.Answered call answer world
  recorded : ∀ call ∈ process.inFlight, Event.sent call ∈ process.history

/-- The invariant of a contract. -/
structure Holds (system : System I Role Result World) : Prop where
  sound : contract.Sound system.world
  keeps : ∀ (pid : Nat) process, system.processes[pid]? = some process →
    contract.Keeps system.world process
  licensed : ∀ pid call, (pid, call) ∈ system.orphans → contract.Licensed call system.world
  recorded : ∀ (pid : Nat) call, (pid, call) ∈ system.orphans →
    ∃ process, system.processes[pid]? = some process ∧ Event.sent call ∈ process.history

variable {contract}

theorem Keeps.grows {before after : World} {process : Process I Role Result}
    (keeps : contract.Keeps before process) (grows : contract.Grows before after) :
    contract.Keeps after process where
  disciplined := keeps.disciplined
  knows := contract.knows_stable _ _ _ grows keeps.knows
  licensed call member := contract.licensed_stable _ _ _ grows (keeps.licensed call member)
  answered call answer finished :=
    contract.answered_stable _ _ _ _ grows (keeps.answered call answer finished)
  recorded := keeps.recorded

theorem Keeps.fresh (world : World) (role : Role) :
    contract.Keeps world (Process.fresh role (behaviour.program role)) where
  disciplined := ⟨Process.continues_of_unsent rfl (contract.follows role), trivial,
    by intro call answer equal; cases equal⟩
  knows := contract.knows_start role world
  licensed call member := by
    rw [Process.inFlight_of_unsent rfl] at member
    cases member
  answered call answer equal := by cases equal
  recorded call member := by
    rw [Process.inFlight_of_unsent rfl] at member
    cases member

/-- The knowledge of a process after a move. -/
theorem Keeps.knows_moved {world after : World} {process moved : Process I Role Result}
    {happening : Happening I} {lost : List I.Call} (keeps : contract.Keeps world process)
    (sound : contract.Sound world)
    (moves : Moves behaviour world process happening after moved lost) :
    contract.Knows (moved.phase discipline start) after := by
  have knows := keeps.knows
  cases moves with
  | observe | timeout | interruptWait | resume | halt => exact knows
  | send at_ unsent =>
      have follows := Process.follows_of_continues keeps.disciplined.continues (Or.inl unsent)
      rw [at_] at follows
      exact (contract.knows_sent _ _ _ knows follows.1).1
  | reply at_ sent applied =>
      have licensed := keeps.licensed _ (Process.mem_inFlight_of_await at_ sent)
      obtain ⟨_, grows, answered⟩ := contract.apply _ _ _ _ sound licensed applied
      exact contract.knows_answered _ _ _ _ (contract.knows_stable _ _ _ grows knows) answered
        (contract.answerable _ _ _ _ applied)
  | interrupt => exact contract.knows_lost _ _ _ knows
  | perform at_ applied =>
      have follows := Process.follows_of_continues keeps.disciplined.continues
        (Or.inr (by simp [at_]))
      rw [at_] at follows
      obtain ⟨knowsSent, licensed⟩ := contract.knows_sent _ _ _ knows follows.1
      obtain ⟨_, grows, answered⟩ := contract.apply _ _ _ _ sound licensed applied
      exact contract.knows_answered _ _ _ _ (contract.knows_stable _ _ _ grows knowsSent) answered
        (contract.answerable _ _ _ _ applied)
  | spawn at_ free =>
      have follows := Process.follows_of_continues keeps.disciplined.continues
        (Or.inr (by simp [at_]))
      rw [at_] at follows
      exact (contract.knows_sent _ _ _ knows follows.1).1
  | finish running applied =>
      have licensed := keeps.licensed _ (Process.mem_inFlight_of_task running)
      obtain ⟨_, grows, _⟩ := contract.apply _ _ _ _ sound licensed applied
      exact contract.knows_stable _ _ _ grows knows
  | join at_ finished =>
      exact contract.knows_answered _ _ _ _ knows (keeps.answered _ _ finished)
        (keeps.disciplined.finished _ _ finished)
  | abandon => exact contract.knows_lost _ _ _ knows
  | emit at_ unsent =>
      have follows := Process.follows_of_continues keeps.disciplined.continues (Or.inl unsent)
      rw [at_] at follows
      exact contract.knows_emitted _ _ _ knows follows.1

/-- A call a process sends in a move is licensed. -/
theorem Keeps.licensed_sent {world after : World} {process moved : Process I Role Result}
    {happening : Happening I} {lost : List I.Call} (keeps : contract.Keeps world process)
    (moves : Moves behaviour world process happening after moved lost) {call : I.Call}
    (sent : Event.sent call ∈ happening.events) : contract.Licensed call world := by
  have knows := keeps.knows
  cases moves with
  | send at_ unsent =>
      simp only [List.mem_singleton, Event.sent.injEq] at sent
      subst sent
      have follows := Process.follows_of_continues keeps.disciplined.continues (Or.inl unsent)
      rw [at_] at follows
      exact (contract.knows_sent _ _ _ knows follows.1).2
  | perform at_ applied =>
      simp only [List.mem_cons, reduceCtorEq, Event.sent.injEq, List.not_mem_nil, or_false,
        false_or] at sent
      subst sent
      have follows := Process.follows_of_continues keeps.disciplined.continues
        (Or.inr (by simp [at_]))
      rw [at_] at follows
      exact (contract.knows_sent _ _ _ knows follows.1).2
  | spawn at_ free =>
      simp only [List.mem_singleton, Event.sent.injEq] at sent
      subst sent
      have follows := Process.follows_of_continues keeps.disciplined.continues
        (Or.inr (by simp [at_]))
      rw [at_] at follows
      exact (contract.knows_sent _ _ _ knows follows.1).2
  | observe | reply | interrupt | finish | join | timeout | interruptWait | abandon | emit
  | resume | halt => simp at sent

/-- A move keeps the world sound and lets it grow. -/
theorem Keeps.world {world after : World} {process moved : Process I Role Result}
    {happening : Happening I} {lost : List I.Call} (keeps : contract.Keeps world process)
    (sound : contract.Sound world)
    (moves : Moves behaviour world process happening after moved lost) :
    contract.Sound after ∧ contract.Grows world after := by
  rcases moves.effect with ⟨_, rfl⟩ | ⟨call, answer, _, applied, source⟩
  · exact ⟨sound, contract.grows_refl _⟩
  · have licensed : contract.Licensed call world := by
      rcases source with inFlight | sent
      · exact keeps.licensed call inFlight
      · exact keeps.licensed_sent moves sent
    obtain ⟨soundAfter, grows, _⟩ := contract.apply _ _ _ _ sound licensed applied
    exact ⟨soundAfter, grows⟩

/-- Calls in flight after a move are licensed and recorded. -/
theorem Keeps.flight {world after : World} {process moved : Process I Role Result}
    {happening : Happening I} {lost : List I.Call} (keeps : contract.Keeps world process)
    (grows : contract.Grows world after)
    (moves : Moves behaviour world process happening after moved lost) {call : I.Call}
    (member : call ∈ moved.inFlight ∨ call ∈ lost) :
    contract.Licensed call after ∧ Event.sent call ∈ moved.history := by
  rw [moves.history_eq]
  rcases moves.inFlight member with old | sent
  · exact ⟨contract.licensed_stable _ _ _ grows (keeps.licensed call old),
      List.mem_append_right _ (keeps.recorded call old)⟩
  · exact ⟨contract.licensed_stable _ _ _ grows (keeps.licensed_sent moves sent),
      List.mem_append_left _ sent⟩

/-- The answer of a finished task is known. -/
theorem Keeps.answered_moved {world after : World} {process moved : Process I Role Result}
    {happening : Happening I} {lost : List I.Call} (keeps : contract.Keeps world process)
    (sound : contract.Sound world) (grows : contract.Grows world after)
    (moves : Moves behaviour world process happening after moved lost) {call : I.Call}
    {answer : Except I.Failure (I.Answer call)}
    (finished : moved.task = some ⟨call, some answer⟩) :
    contract.Answered call answer after := by
  cases moves with
  | finish running applied =>
      cases finished
      have licensed := keeps.licensed _ (Process.mem_inFlight_of_task running)
      exact (contract.apply _ _ _ _ sound licensed applied).2.2
  | spawn | join | abandon | halt => cases finished
  | observe | send | reply | interrupt | perform | timeout | interruptWait | emit | resume =>
      exact contract.answered_stable _ _ _ _ grows (keeps.answered call answer finished)

theorem Keeps.moves {world after : World} {process moved : Process I Role Result}
    {happening : Happening I} {lost : List I.Call} (keeps : contract.Keeps world process)
    (sound : contract.Sound world)
    (moves : Moves behaviour world process happening after moved lost) :
    contract.Keeps after moved := by
  obtain ⟨_, grows⟩ := keeps.world sound moves
  exact
    { disciplined := keeps.disciplined.moves contract.answerable contract.interrupts moves
      knows := keeps.knows_moved sound moves
      licensed := fun call member => (keeps.flight grows moves (Or.inl member)).1
      answered := fun call answer finished => keeps.answered_moved sound grows moves finished
      recorded := fun call member => (keeps.flight grows moves (Or.inl member)).2 }

/-- Every step keeps the invariant of the contract, and the world grows. -/
theorem Holds.step {before after : System I Role Result World}
    {occurrence : Occurrence I Role} (holds : contract.Holds before)
    (step : Step behaviour before occurrence after) :
    contract.Holds after ∧ contract.Grows before.world after.world := by
  obtain ⟨sound, keeps, licensed, recorded⟩ := holds
  cases step with
  | start allowed =>
      refine ⟨⟨sound, ?_, licensed, ?_⟩, contract.grows_refl _⟩
      · intro pid process found
        rcases getElem?_append_cases found with ⟨_, rfl⟩ | old
        · exact Keeps.fresh _ _
        · exact keeps pid process old
      · intro pid call member
        obtain ⟨process, found, sent⟩ := recorded pid call member
        exact ⟨process, getElem?_append_old found, sent⟩
  | @move pid process moved happening world lost found moves =>
      have processKeeps := keeps pid process found
      obtain ⟨soundAfter, grows⟩ := processKeeps.world sound moves
      refine ⟨⟨soundAfter, ?_, ?_, ?_⟩, grows⟩
      · intro other candidate candidateFound
        rcases getElem?_set_cases found candidateFound with ⟨rfl, rfl⟩ | ⟨_, old⟩
        · exact processKeeps.moves sound moves
        · exact (keeps other candidate old).grows grows
      · intro owner call member
        simp only [List.mem_append, List.mem_map, Prod.mk.injEq] at member
        rcases member with ⟨_, isLost, rfl, rfl⟩ | old
        · exact (processKeeps.flight grows moves (Or.inr isLost)).1
        · exact contract.licensed_stable _ _ _ grows (licensed owner call old)
      · intro owner call member
        simp only [List.mem_append, List.mem_map, Prod.mk.injEq] at member
        rcases member with ⟨_, isLost, rfl, rfl⟩ | old
        · exact ⟨moved, getElem?_set_moved found,
            (processKeeps.flight grows moves (Or.inr isLost)).2⟩
        · obtain ⟨candidate, candidateFound, sent⟩ := recorded owner call old
          by_cases same : pid = owner
          · subst same
            rw [found, Option.some.injEq] at candidateFound
            subst candidateFound
            refine ⟨moved, getElem?_set_moved found, ?_⟩
            rw [moves.history_eq]
            exact List.mem_append_right _ sent
          · exact ⟨candidate, by rw [List.getElem?_set_ne same]; exact candidateFound, sent⟩
  | @apply pid call answer world earlier later found applied =>
      have member : (pid, call) ∈ before.orphans := by rw [found]; simp
      obtain ⟨soundAfter, grows, _⟩ :=
        contract.apply _ _ _ _ sound (licensed pid call member) applied
      have still : ∀ entry, entry ∈ earlier ++ later → entry ∈ before.orphans := by
        intro entry inside
        rw [found]
        simp only [List.mem_append, List.mem_cons] at inside ⊢
        tauto
      exact ⟨⟨soundAfter, fun owner process owned => (keeps owner process owned).grows grows,
        fun owner other inside => contract.licensed_stable _ _ _ grows
          (licensed owner other (still _ inside)),
        fun owner other inside => recorded owner other (still _ inside)⟩, grows⟩
  | @drop pid call earlier later found =>
      have still : ∀ entry, entry ∈ earlier ++ later → entry ∈ before.orphans := by
        intro entry inside
        rw [found]
        simp only [List.mem_append, List.mem_cons] at inside ⊢
        tauto
      exact ⟨⟨sound, keeps, fun owner other inside => licensed owner other (still _ inside),
        fun owner other inside => recorded owner other (still _ inside)⟩,
        contract.grows_refl _⟩
  | drift drifts =>
      obtain ⟨soundAfter, grows⟩ := contract.drift _ _ sound drifts
      exact ⟨⟨soundAfter, fun pid process found => (keeps pid process found).grows grows,
        fun pid call member => contract.licensed_stable _ _ _ grows (licensed pid call member),
        recorded⟩, grows⟩

/-- A system without processes and calls in flight meets the contract. -/
theorem Holds.initial {world : World} (sound : contract.Sound world) :
    contract.Holds (⟨world, [], []⟩ : System I Role Result World) where
  sound := sound
  keeps pid process found := by simp at found
  licensed pid call member := by cases member
  recorded pid call member := by cases member

/-- **Contract soundness.** The invariant holds in every state of every run. -/
theorem Holds.reaches {condition : Condition I Role Result World}
    {first last : System I Role Result World} (holds : contract.Holds first)
    (run : Reaches behaviour condition first last) : contract.Holds last :=
  run.invariant (fun _ _ _ before step _ => (before.step step).1) holds

/-- A step leaves the world alone, lets it drift, or applies a call that a process has
sent. -/
theorem Holds.effect {before after : System I Role Result World}
    {occurrence : Occurrence I Role} (holds : contract.Holds before)
    (step : Step behaviour before occurrence after) :
    after.world = before.world ∨ behaviour.drifts before.world after.world ∨
      ∃ call answer, behaviour.semantics before.world call answer after.world ∧
        ∃ process ∈ after.processes, Event.sent call ∈ process.history := by
  cases step with
  | start | drop => exact Or.inl rfl
  | drift drifts => exact Or.inr (Or.inl drifts)
  | @move pid process moved happening world lost found moves =>
      rcases moves.effect with ⟨_, same⟩ | ⟨call, answer, _, applied, source⟩
      · exact Or.inl same
      · refine Or.inr (Or.inr ⟨call, answer, applied, moved,
          List.mem_of_getElem? (getElem?_set_moved found), ?_⟩)
        rw [moves.history_eq]
        rcases source with inFlight | sent
        · exact List.mem_append_right _ ((holds.keeps pid process found).recorded call inFlight)
        · exact List.mem_append_left _ sent
  | @apply pid call answer world earlier later found applied =>
      have member : (pid, call) ∈ before.orphans := by rw [found]; simp
      obtain ⟨process, known, sent⟩ := holds.recorded pid call member
      exact Or.inr (Or.inr ⟨call, answer, applied, process, List.mem_of_getElem? known, sent⟩)

/-- What a process knew at some point of a history, it knew after every move since. -/
theorem Keeps.knew_moved {world after : World} {process moved : Process I Role Result}
    {happening : Happening I} {lost : List I.Call} (keeps : contract.Keeps world process)
    (sound : contract.Sound world)
    (moves : Moves behaviour world process happening after moved lost)
    (knew : ∀ earlier, earlier <:+ process.history →
      contract.Knows (discipline.phase (start process.role) earlier) world) :
    ∀ earlier, earlier <:+ moved.history →
      contract.Knows (discipline.phase (start moved.role) earlier) after := by
  intro earlier suffix
  obtain ⟨_, grows⟩ := keeps.world sound moves
  have knows := keeps.knows_moved sound moves
  have old (inside : earlier <:+ process.history) :
      contract.Knows (discipline.phase (start process.role) earlier) after :=
    contract.knows_stable _ _ _ grows (knew earlier inside)
  cases moves with
  | observe | finish | timeout | interruptWait | resume | halt => exact old suffix
  | send | reply | interrupt | spawn | join | abandon | emit =>
      rcases List.suffix_cons_iff.mp suffix with rfl | inside
      · exact knows
      · exact old inside
  | perform at_ applied =>
      rcases List.suffix_cons_iff.mp suffix with rfl | inside
      · exact knows
      · rcases List.suffix_cons_iff.mp inside with rfl | before
        · have follows := Process.follows_of_continues keeps.disciplined.continues
            (Or.inr (by simp [at_]))
          rw [at_] at follows
          exact contract.knows_stable _ _ _ grows
            (contract.knows_sent _ _ _ keeps.knows follows.1).1
        · exact old before

/-- What a process knew at any point of its history still holds. -/
theorem Holds.knew {condition : Condition I Role Result World}
    {first last : System I Role Result World} (holds : contract.Holds first)
    (initial : ∀ process ∈ first.processes, ∀ earlier, earlier <:+ process.history →
      contract.Knows (discipline.phase (start process.role) earlier) first.world)
    (run : Reaches behaviour condition first last) :
    ∀ process ∈ last.processes, ∀ earlier, earlier <:+ process.history →
      contract.Knows (discipline.phase (start process.role) earlier) last.world := by
  induction run with
  | refl => exact initial
  | @step middle last occurrence run step meets inductionHypothesis =>
      have before : contract.Holds middle := holds.reaches run
      obtain ⟨_, grows⟩ := before.step step
      intro process member earlier suffix
      have old (known : process ∈ middle.processes) :
          contract.Knows (discipline.phase (start process.role) earlier) last.world :=
        contract.knows_stable _ _ _ grows (inductionHypothesis process known earlier suffix)
      cases step with
      | start =>
          rcases List.mem_append.mp member with known | fresh
          · exact old known
          · obtain rfl := List.mem_singleton.mp fresh
            obtain rfl := List.suffix_nil.mp suffix
            exact contract.knows_start _ _
      | move found moves =>
          rcases List.mem_or_eq_of_mem_set member with known | rfl
          · exact old known
          · exact (before.keeps _ _ found).knew_moved before.sound moves
              (inductionHypothesis _ (List.mem_of_getElem? found)) earlier suffix
      | apply | drop | drift => exact old member

/-- Every call of a history is licensed: its sender knew enough, and still does. -/
theorem Holds.sent_licensed {condition : Condition I Role Result World}
    {first last : System I Role Result World} (holds : contract.Holds first)
    (initial : ∀ process ∈ first.processes, ∀ earlier, earlier <:+ process.history →
      contract.Knows (discipline.phase (start process.role) earlier) first.world)
    (run : Reaches behaviour condition first last) {process : Process I Role Result}
    (member : process ∈ last.processes) {call : I.Call} (sent : Event.sent call ∈ process.history) :
    contract.Licensed call last.world := by
  obtain ⟨later, earlier, history⟩ := List.append_of_mem sent
  obtain ⟨pid, found⟩ := List.mem_iff_getElem?.mp member
  have lawful := ((holds.reaches run).keeps pid process found).disciplined.lawful
  rw [history] at lawful
  have knew := holds.knew initial run process member earlier ⟨later ++ [.sent call], by simp [history]⟩
  exact (contract.knows_sent _ _ _ knew lawful.earlier.1).2

end Contract

end Zangpu.Foundation
