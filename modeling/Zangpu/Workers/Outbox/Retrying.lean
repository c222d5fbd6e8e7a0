import Zangpu.Workers.Outbox.Effects

/-!
Items whose claim timed out.

Owns: what one `run_once` makes of an item left in processing by a claim that timed
out: whether its claim takes the item again, and what the rest of the pass can write
to it; the exact condition under which such an item has a way out; and a run of
crashes that uses up every attempt.

Does not own: what a worker does with an item it has claimed.
-/

set_option autoImplicit false

namespace Zangpu.Workers.Outbox

open Zangpu.Foundation
open Zangpu.Models
open Zangpu.Integrations.Bifrost
open Zangpu.Services.Admin

/-! ## Ways out -/

/-- A processing item whose claim timed out. -/
structure TimedOut (bounds : WorkerBounds) (now : Int) (item : ControlOutbox) : Prop where
  processing : item.status = .processing
  stale : ∃ lockedAt, item.lockedAt = some lockedAt ∧ lockedAt ≤ now - bounds.claimTimeoutSeconds

/-- No other row that a claim can take comes before the item. -/
def Foremost (bounds : WorkerBounds) (now : Int) (locked : List String) (outbox : OutboxTable)
    (item : ControlOutbox) : Prop :=
  ∀ other ∈ outbox.rows, claimable bounds now other = true → other.id ∉ locked →
    other.id ≠ item.id → ¬claimsBefore other item

/-- The claim took the item into the worker's batch. -/
def ClaimedAgain (after : System) (index : Nat) (now : Int) (item : ControlOutbox) : Prop :=
  after.item? item.id = some (claimItem now item) ∧
    ∃ worker, after.workers[index]? = some worker ∧
      ⟨item.id, item.attemptCount + 1⟩ ∈ worker.batch

/-- Any step but the next claim of the worker. -/
def SamePass (index : Nat) (_ : System) (action : Action) : Prop :=
  ∀ now locked, action ≠ .work index (.claim now locked)

/-- In the rest of its pass the worker moves the item to failed, and the binding shows
the error. -/
def FailedInPass (runtime : Runtime) (after : System) (index : Nat) (itemId : String) : Prop :=
  ∃ before later work failed binding,
    Reached runtime.step (SamePass index) after before ∧
      SamePass index before (.work index work) ∧
      runtime.step before (.work index work) = some later ∧
      before.item? itemId ≠ later.item? itemId ∧
      later.item? itemId = some failed ∧ failed.status = .failed ∧
      later.binding? failed.aggregateId = some binding ∧
      binding.syncStatus = .error ∧ binding.lastSyncErrorCode = failed.lastErrorCode

/-- What `run_once` owes to an item whose claim timed out; `after` is the system behind
the worker's claim. -/
def Handled (runtime : Runtime) (after : System) (index : Nat) (now : Int)
    (item : ControlOutbox) : Prop :=
  ClaimedAgain after index now item ∨ FailedInPass runtime after index item.id

/-! ## The order of a claim -/

instance : Std.Total claimsBefore where
  total left right := by
    unfold claimsBefore
    rcases lt_trichotomy left.availableAt right.availableAt with earlier | same | later
    · exact Or.inl (Or.inl earlier)
    · rcases le_total left.id right.id with before | behind
      · exact Or.inl (Or.inr ⟨same, before⟩)
      · exact Or.inr (Or.inr ⟨same.symm, behind⟩)
    · exact Or.inr (Or.inl later)

instance : IsTrans ControlOutbox claimsBefore where
  trans left middle right first second := by
    rcases first with earlier | ⟨same, before⟩
    · rcases second with earlier' | ⟨same', _⟩
      · exact Or.inl (lt_trans earlier earlier')
      · exact Or.inl (same' ▸ earlier)
    · rcases second with earlier' | ⟨same', before'⟩
      · exact Or.inl (same ▸ earlier')
      · exact Or.inr ⟨same.trans same', le_trans before before'⟩

section Claims

variable {bounds : WorkerBounds} {now : Int} {locked : List String} {outbox : OutboxTable}
  {item : ControlOutbox}

/-- A claim passes over the rows that other transactions hold. -/
theorem unlocked_of_claimed (taken : item ∈ claimedRows bounds now locked outbox) :
    item.id ∉ locked := by
  have sorted := List.mem_of_mem_take taken
  rw [List.mem_insertionSort, List.mem_filter, Bool.and_eq_true] at sorted
  exact of_decide_eq_true sorted.2.2

/-- The first row in the order of a claim is taken. -/
theorem claimed_of_foremost (stored : item ∈ outbox.rows)
    (passes : claimable bounds now item = true) (free : item.id ∉ locked)
    (foremost : Foremost bounds now locked outbox item) :
    item ∈ claimedRows bounds now locked outbox := by
  have kept : item ∈ outbox.rows.filter fun item =>
      claimable bounds now item && decide (item.id ∉ locked) := by
    rw [List.mem_filter, Bool.and_eq_true]
    exact ⟨stored, passes, decide_eq_true free⟩
  have sorted := List.pairwise_insertionSort claimsBefore (outbox.rows.filter fun item =>
    claimable bounds now item && decide (item.id ∉ locked))
  have batch : bounds.batchSize = (bounds.batchSize - 1) + 1 := by
    have := bounds.batchSizeValid
    omega
  unfold claimedRows
  have listed := (List.mem_insertionSort claimsBefore).mpr kept
  cases order : (outbox.rows.filter fun item =>
      claimable bounds now item && decide (item.id ∉ locked)).insertionSort claimsBefore with
  | nil =>
      rw [order] at listed
      cases listed
  | cons head rest =>
      rw [order] at listed sorted
      rw [batch, List.take_succ_cons]
      rcases List.mem_cons.mp listed with rfl | behind
      · exact List.mem_cons_self
      · -- the head is no other row: none comes before the item
        have inside : head ∈ outbox.rows.filter fun item =>
            claimable bounds now item && decide (item.id ∉ locked) := by
          rw [← List.mem_insertionSort claimsBefore, order]
          exact List.mem_cons_self
        rw [List.mem_filter, Bool.and_eq_true] at inside
        obtain ⟨headStored, headPasses, headFree⟩ := inside
        by_cases same : head.id = item.id
        · rw [Table.eq_of_key_eq headStored stored same]
          exact List.mem_cons_self
        · exact absurd (List.rel_of_pairwise_cons sorted behind)
            (foremost head headStored headPasses (of_decide_eq_true headFree) same)

/-- A timed-out row at the head of the order is taken exactly while attempts are left and
no other transaction holds it. -/
theorem claimed_iff (stored : item ∈ outbox.rows) (target : item.target = .bifrost)
    (timedOut : TimedOut bounds now item) (foremost : Foremost bounds now locked outbox item) :
    item ∈ claimedRows bounds now locked outbox ↔
      item.attemptCount < bounds.maxAttempts ∧ item.id ∉ locked := by
  have passes_iff : claimable bounds now item = true ↔ item.attemptCount < bounds.maxAttempts := by
    obtain ⟨lockedAt, held, stale⟩ := timedOut.stale
    simp [claimable, target, timedOut.processing, held, stale]
  constructor
  · intro taken
    exact ⟨passes_iff.mp (mem_claimedRows taken).2, unlocked_of_claimed taken⟩
  · intro free
    exact claimed_of_foremost stored (passes_iff.mpr free.1) free.2 foremost

end Claims

/-! ## What a pass leaves alone -/

/-- The worker has neither claimed the item nor opened it. -/
structure Spares (itemId : String) (worker : Worker) : Prop where
  unclaimed : ∀ claim ∈ worker.batch, claim.itemId ≠ itemId
  unopened : ∀ item, worker.opened? = some item → item.id ≠ itemId

section Turns

variable {keyring : CredentialKeyring} {bounds : WorkerBounds} {shared after : Shared}
  {worker moved : Worker} {work : Work} {itemId : String}

theorem Spares.next (spares : Spares itemId worker) : Spares itemId worker.next where
  unclaimed claim member := spares.unclaimed claim (List.mem_of_mem_tail member)
  unopened _ opened := by cases opened

/-- A worker that spares an item goes on to, and does not write it, until it claims. -/
theorem Turn.spares (turn : Turn keyring bounds shared worker work after moved)
    (spares : Spares itemId worker) (unclaiming : ∀ now locked, work ≠ .claim now locked) :
    Spares itemId moved ∧
      after.database.outbox.find? itemId = shared.database.outbox.find? itemId := by
  have closed {phase : Phase} (opens : ({ worker with phase := phase } : Worker).opened? = none) :
      Spares itemId { worker with phase := phase } :=
    ⟨spares.unclaimed, fun item opened => by rw [opens] at opened; cases opened⟩
  cases turn with
  | claim => exact absurd rfl (unclaiming _ _)
  | raise | loadItem => exact ⟨closed rfl, rfl⟩
  | loadBinding | deliver | fault => exact ⟨closed (opened?_execution _ _ _), rfl⟩
  | skip => exact ⟨spares.next, rfl⟩
  | readItem at_ first found =>
      refine ⟨⟨spares.unclaimed, fun item opened => ?_⟩, rfl⟩
      cases opened
      rw [Table.key_of_find? found]
      exact spares.unclaimed _ (by simp [first])
  | readBinding at_ =>
      refine ⟨⟨spares.unclaimed, fun item opened => ?_⟩, rfl⟩
      cases opened
      exact spares.unopened _ (by simp [Worker.opened?, at_])
  | complete at_ _ committed =>
      have other := spares.unopened _ (by simp [Worker.opened?, at_]; rfl)
      exact ⟨spares.next, by rw [(commitComplete_find committed).1, if_neg other.symm]⟩
  | fail at_ committed =>
      have other := spares.unopened _ (by simp [Worker.opened?, at_]; rfl)
      exact ⟨spares.next, by rw [(commitFail_find committed).1, if_neg other.symm]⟩
  | crash => exact ⟨⟨by simp, by simp [Worker.opened?]⟩, rfl⟩

/-- A claim that does not take an item spares it. -/
theorem Spares.of_claim {now : Int} {items : List ControlOutbox}
    (passed : itemId ∉ items.map ControlOutbox.id) :
    Spares itemId ⟨now, claimsOf items, .ready⟩ where
  unclaimed claim member same := by
    obtain ⟨item, taken, rfl⟩ := List.mem_map.mp member
    exact passed (List.mem_map.mpr ⟨item, taken, same⟩)
  unopened _ opened := by cases opened

end Turns

section Passes

variable {runtime : Runtime} {before after : System} {index : Nat} {itemId : String}

/-- The worker at the position spares the item. -/
def SparedBy (index : Nat) (itemId : String) (system : System) : Prop :=
  ∃ worker, system.workers[index]? = some worker ∧ Spares itemId worker

theorem SparedBy.step {action : Action} (spared : SparedBy index itemId before)
    (samePass : SamePass index before action)
    (stepped : runtime.step before action = some after) : SparedBy index itemId after := by
  obtain ⟨worker, found, spares⟩ := spared
  cases Runtime.step_moved stepped with
  | stage | serveStray | loseStray => exact ⟨worker, found, spares⟩
  | work foundMoved turn =>
      rename_i position mover moved work shared
      by_cases same : position = index
      · subst same
        rw [found, Option.some.injEq] at foundMoved
        subst foundMoved
        refine ⟨moved, ?_, (turn.spares spares ?_).1⟩
        · exact List.getElem?_set_self (List.getElem?_eq_some_iff.mp found).1
        · rintro now locked rfl
          exact samePass now locked rfl
      · exact ⟨worker, by rw [← found]; exact List.getElem?_set_ne same, spares⟩

/-- A worker never moves an item it spares, up to its next claim. -/
theorem not_failedInPass (spared : SparedBy index itemId after) :
    ¬FailedInPass runtime after index itemId := by
  rintro ⟨before, later, work, failed, binding, pass, samePass, stepped, changed, -⟩
  have still : SparedBy index itemId before :=
    pass.invariant spared fun _ _ _ spared samePass stepped => spared.step samePass stepped
  obtain ⟨worker, found, spares⟩ := still
  cases Runtime.step_moved stepped with
  | work foundMoved turn =>
      rw [found, Option.some.injEq] at foundMoved
      subst foundMoved
      refine changed (turn.spares spares ?_).2.symm
      rintro now locked rfl
      exact samePass now locked rfl

end Passes

/-! ## Runs -/

section Runs

variable {runtime : Runtime}

/-- Every stored item is one for Bifrost. -/
theorem target_bifrost {sessions workers : Nat} {system : System} {itemId : String}
    {item : ControlOutbox}
    (run : Reached runtime.step (fun _ _ => True) (System.start sessions workers) system)
    (found : system.item? itemId = some item) : item.target = .bifrost := by
  let Targets (system : System) : Prop :=
    ∀ itemId item, system.item? itemId = some item → item.target = .bifrost
  suffices targets : Targets system from targets itemId item found
  refine run.invariant ?_ ?_
  · intro itemId item nothing
    cases nothing
  · intro before action after invariant _ stepped itemId item found
    cases Runtime.step_moved stepped with
    | serveStray | loseStray => exact invariant itemId item found
    | stage _ staged =>
        rcases staged.outbox with same | ⟨added, fresh, target, _, _, grown⟩
        · exact invariant itemId item (by rw [← found]; exact congrArg (·.find? itemId) same.symm)
        · have rows : (before.shared.database.outbox.insertNew added).find? itemId = some item :=
            (congrArg (·.find? itemId) grown).symm.trans found
          rw [Table.find?_insertNew fresh] at rows
          split at rows
          · exact Option.some.inj rows ▸ target
          · exact invariant itemId item rows
    | work _ turn =>
        obtain ⟨change, changed, keeps⟩ := turn.items itemId
        obtain ⟨row, stored, rfl⟩ := Option.map_eq_some_iff.mp (changed.symm.trans found)
        exact (keeps row).2.trans (invariant itemId row stored)

/-- Behind its claim, a worker has either taken the item or spares it. -/
theorem claim_takes_iff {system after : System} {index : Nat} {now : Int} {locked : List String}
    {item : ControlOutbox} (found : system.item? item.id = some item)
    (stepped : runtime.step system (.work index (.claim now locked)) = some after) :
    (item ∈ claimedRows runtime.bounds now locked system.shared.database.outbox →
        ClaimedAgain after index now item) ∧
      (item ∉ claimedRows runtime.bounds now locked system.shared.database.outbox →
        ¬ClaimedAgain after index now item ∧ SparedBy index item.id after) := by
  have stored := Table.mem_of_find? found
  have row_of_id {row : ControlOutbox} (named : row.id = item.id)
      (taken : row ∈ claimedRows runtime.bounds now locked system.shared.database.outbox) :
      row = item := Table.eq_of_key_eq (mem_claimedRows taken).1 stored named
  cases Runtime.step_moved stepped with
  | work foundWorker turn =>
      have position (moved : Worker) : (system.workers.set index moved)[index]? = some moved :=
        List.getElem?_set_self (List.getElem?_eq_some_iff.mp foundWorker).1
      cases turn with
      | raise failure quiet unclaiming => exact absurd rfl (unclaiming now locked)
      | claim idle taken =>
          subst taken
          constructor
          · intro taken
            refine ⟨?_, _, position _, List.mem_map.mpr ⟨item, taken, rfl⟩⟩
            exact (find?_claimRows (claimedRows_nodup _ _ _ _) _ _ _).trans (by
              rw [if_pos (List.mem_map_of_mem taken)]
              exact congrArg (Option.map (claimItem now)) found)
          · intro passed
            constructor
            · rintro ⟨-, worker, foundAfter, member⟩
              rw [position, Option.some.injEq] at foundAfter
              subst foundAfter
              obtain ⟨row, taken, same⟩ := List.mem_map.mp member
              exact passed (row_of_id (congrArg Claim.itemId same) taken ▸ taken)
            · refine ⟨_, position _, .of_claim fun member => ?_⟩
              obtain ⟨row, taken, named⟩ := List.mem_map.mp member
              exact passed (row_of_id named taken ▸ taken)

/-- What a worker's claim decides about a timed-out item at the head of the order. -/
theorem handled_iff {sessions workers : Nat} {system after : System} {index : Nat} {now : Int}
    {locked : List String} {item : ControlOutbox}
    (run : Reached runtime.step (fun _ _ => True) (System.start sessions workers) system)
    (found : system.item? item.id = some item) (timedOut : TimedOut runtime.bounds now item)
    (foremost : Foremost runtime.bounds now locked system.shared.database.outbox item)
    (stepped : runtime.step system (.work index (.claim now locked)) = some after) :
    Handled runtime after index now item ↔
      item.attemptCount < runtime.bounds.maxAttempts ∧ item.id ∉ locked := by
  have taken_iff := claimed_iff (Table.mem_of_find? found) (target_bifrost run found) timedOut
    foremost
  obtain ⟨takes, spares⟩ := claim_takes_iff found stepped
  rw [← taken_iff]
  constructor
  · intro handled
    by_contra passed
    obtain ⟨notAgain, spared⟩ := spares passed
    rcases handled with again | failedLater
    · exact notAgain again
    · exact not_failedInPass spared failedLater
  · exact fun taken => Or.inl (takes taken)

/-- **A timed-out item has a way out exactly while attempts are left.** In every reachable
state, `run_once` takes a timed-out item at the head of the batch, or moves it to
failed, if and only if the last allowed attempt has not been claimed yet and no other
transaction holds the row. -/
theorem no_outbox_item_is_stuck_iff (runtime : Runtime) (sessions workers : Nat)
    (system after : System) (index : Nat) (now : Int) (locked : List String)
    (item : ControlOutbox)
    (run : Reached runtime.step (fun _ _ => True) (System.start sessions workers) system)
    (found : system.item? item.id = some item) (timedOut : TimedOut runtime.bounds now item)
    (foremost : Foremost runtime.bounds now locked system.shared.database.outbox item)
    (stepped : runtime.step system (.work index (.claim now locked)) = some after) :
    Handled runtime after index now item ↔
      item.attemptCount < runtime.bounds.maxAttempts ∧ item.id ∉ locked :=
  handled_iff run found timedOut foremost stepped

/-- Nothing ever changes an item whose attempts are used up and that no worker holds. -/
theorem exhausted_item_stays {system later : System} {item : ControlOutbox}
    (found : system.item? item.id = some item)
    (exhausted : runtime.bounds.maxAttempts ≤ item.attemptCount)
    (spared : ∀ worker ∈ system.workers, Spares item.id worker)
    (run : Reached runtime.step (fun _ _ => True) system later) :
    later.item? item.id = some item := by
  let Untouched (system : System) : Prop :=
    system.item? item.id = some item ∧ ∀ worker ∈ system.workers, Spares item.id worker
  suffices untouched : Untouched later from untouched.1
  refine run.invariant ⟨found, spared⟩ ?_
  rintro before action after ⟨stored, spares⟩ _ stepped
  cases Runtime.step_moved stepped with
  | serveStray | loseStray => exact ⟨stored, spares⟩
  | stage _ staged => exact ⟨staged.item? stored, spares⟩
  | work foundWorker turn =>
      rename_i index worker moved work shared
      have others {moved : Worker} (sparesMoved : Spares item.id moved) :
          ∀ other ∈ before.workers.set index moved, Spares item.id other := fun other member =>
        (List.mem_or_eq_of_mem_set member).elim (spares other) fun same => same ▸ sparesMoved
      by_cases claims : ∃ now locked, work = .claim now locked
      · obtain ⟨now, locked, rfl⟩ := claims
        have passed : item.id ∉ (claimedRows runtime.bounds now locked
            before.shared.database.outbox).map ControlOutbox.id := by
          intro taken
          have passes := claimable_of_taken taken stored
          simp only [claimable, Bool.and_eq_true, decide_eq_true_eq] at passes
          omega
        cases turn with
        | raise failure quiet unclaiming => exact absurd rfl (unclaiming now locked)
        | claim idle taken =>
            subst taken
            refine ⟨?_, others (.of_claim passed)⟩
            exact (find?_claimRows (claimedRows_nodup _ _ _ _) _ _ _).trans
              ((if_neg passed).trans stored)
      · obtain ⟨sparesMoved, same⟩ := turn.spares (spares worker (List.mem_of_getElem? foundWorker))
          fun now locked asked => claims ⟨now, locked, asked⟩
        exact ⟨same.trans stored, others sparesMoved⟩

end Runs

/-! ## Crashes after every claim -/

/-- A caller is staged, and the worker crashes after each of its first claims. -/
def crashes (attempts : Nat) : List Action :=
  .stage 0 (.createCaller smallRegistration) ::
    (List.range attempts).flatMap fun attempt =>
      [.work 0 (.claim (100 + 200 * attempt) []), .work 0 .crash]

/-- When the worker claims next. -/
def nextClaim (attempts : Nat) : Int := 100 + 200 * attempts

/-- The crashes left the only item in processing, claimed long ago. -/
def LeftBehind (attempts : Nat) (system : System) : Prop :=
  (system.shared.database.outbox.rows.all fun item =>
      item.status = .processing && item.attemptCount = attempts &&
        item.lockedAt = some (nextClaim attempts - 200)) = true ∧
    system.shared.database.outbox.rows.length = 1 ∧
    (smallRuntime.step system (.work 0 (.claim (nextClaim attempts) []))).isSome = true

instance (attempts : Nat) (system : System) : Decidable (LeftBehind attempts system) :=
  inferInstanceAs (Decidable (_ ∧ _ ∧ _))

/-- The item the crashes left behind timed out, and nothing else waits. -/
theorem leftBehind_item {attempts : Nat} {system : System} (left : LeftBehind attempts system) :
    ∃ item after, system.item? item.id = some item ∧ item.attemptCount = attempts ∧
      TimedOut smallBounds (nextClaim attempts) item ∧
      Foremost smallBounds (nextClaim attempts) [] system.shared.database.outbox item ∧
      smallRuntime.step system (.work 0 (.claim (nextClaim attempts) [])) = some after := by
  obtain ⟨columns, single, enabled⟩ := left
  obtain ⟨item, rows⟩ := List.length_eq_one_iff.mp single
  obtain ⟨after, stepped⟩ := Option.isSome_iff_exists.mp enabled
  have stored : item ∈ system.shared.database.outbox.rows := by simp [rows]
  have column := List.all_eq_true.mp columns item stored
  simp only [Bool.and_eq_true, decide_eq_true_eq] at column
  obtain ⟨⟨processing, counted⟩, held⟩ := column
  refine ⟨item, after, Table.find?_of_mem stored, counted, ⟨processing, _, held, ?_⟩, ?_, stepped⟩
  · have : smallBounds.claimTimeoutSeconds = 120 := rfl
    omega
  · intro other member _ _ different
    rw [rows, List.mem_singleton] at member
    exact absurd (congrArg ControlOutbox.id member) different

theorem no_outbox_item_is_stuck_iff_sample :
    ∃ system after item, Reached smallRuntime.step (fun _ _ => True) (System.start 1 1) system ∧
      (Handled smallRuntime after 0 (nextClaim 1) item ↔
        item.attemptCount < smallBounds.maxAttempts ∧ item.id ∉ ([] : List String)) := by
  obtain ⟨system, run, left⟩ := Reached.of_replay smallRuntime.step (fun _ _ => True)
    (System.start 1 1) (crashes 1) (LeftBehind 1) (by decide +kernel)
  obtain ⟨item, after, found, _, timedOut, foremost, stepped⟩ := leftBehind_item left
  exact ⟨system, after, item, run, no_outbox_item_is_stuck_iff smallRuntime 1 1 system after 0
    (nextClaim 1) [] item run found timedOut foremost stepped⟩

/-- After a crash behind the claim of the last allowed attempt, no pass takes the item or
moves it to failed. -/
theorem outbox_item_can_be_stuck :
    ¬ ∀ (runtime : Runtime) (sessions workers : Nat) (system after : System) (index : Nat)
      (now : Int) (item : ControlOutbox),
      Reached runtime.step (fun _ _ => True) (System.start sessions workers) system →
      system.item? item.id = some item → TimedOut runtime.bounds now item →
      Foremost runtime.bounds now [] system.shared.database.outbox item →
      runtime.step system (.work index (.claim now [])) = some after →
      Handled runtime after index now item := by
  intro always
  obtain ⟨system, run, left⟩ := Reached.of_replay smallRuntime.step (fun _ _ => True)
    (System.start 1 1) (crashes 8) (LeftBehind 8) (by decide +kernel)
  obtain ⟨item, after, found, counted, timedOut, foremost, stepped⟩ := leftBehind_item left
  have handled := always smallRuntime 1 1 system after 0 (nextClaim 8) item run found timedOut
    foremost stepped
  have open_ := ((handled_iff run found timedOut foremost stepped).mp handled).1
  rw [counted] at open_
  exact absurd open_ (by decide)

end Zangpu.Workers.Outbox
