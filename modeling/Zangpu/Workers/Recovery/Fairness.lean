import Zangpu.Foundation.Execution
import Zangpu.Foundation.Ranking
import Zangpu.Services.Chat.Environment
import Zangpu.Services.Quota.Transactions

/-!
Which stale operations the recovery worker gets to.

Owns: passes of `run_once` without live requests, among remote services that
answer by any rule and keep any state; the effect of a pass on the ledger and
the operations it processes; and the exact condition under which as many passes
as the batch size allows process every operation that was stale at first.

Does not own: the schedule on which passes run.
-/

set_option autoImplicit false

namespace Zangpu.Workers.Recovery

open Zangpu.Foundation
open Zangpu.Models
open Zangpu.Integrations.OpenWebUI
open Zangpu.Services.Quota
open Zangpu.Services.Chat

/-! ## Passes without live requests -/

/-- The worker, the caller tables, and what answers the worker: remote services
with a state of their own, and the source of row identifiers. -/
structure Surroundings (Remote : Type) where
  worker : ExternalChatRecoveryWorker
  callers : Callers
  reply : (call : Call) → Remote → Except Failure call.Answer × Remote
  rowIds : Remote → RowIds × Remote

/-- The ledger, the state of the remote services, and the calls made so far,
newest first. -/
structure Scene (Remote : Type) where
  ledger : Ledger
  remote : Remote
  sent : List Call

section Passes

variable {Remote : Type} (surroundings : Surroundings Remote)

/-- What a call of the worker does and answers. -/
def Surroundings.answer :
    (call : Call) → Scene Remote → Except Failure call.Answer × Scene Remote
  | .loadCandidates now, scene =>
      (.ok (loadCandidates surroundings.worker surroundings.callers scene.ledger now),
        { scene with sent := .loadCandidates now :: scene.sent })
  | .finalizeRecovered operationId usage fields, scene =>
      match recoveryTransaction scene.ledger (surroundings.rowIds scene.remote).1 operationId usage
          fields with
      | .ok ((), ledger) =>
          (.ok (), ⟨ledger, (surroundings.rowIds scene.remote).2,
            .finalizeRecovered operationId usage fields :: scene.sent⟩)
      | .error failure =>
          (.error (.ofLedger failure), ⟨scene.ledger, (surroundings.rowIds scene.remote).2,
            .finalizeRecovered operationId usage fields :: scene.sent⟩)
  | call, scene =>
      ((surroundings.reply call scene.remote).1,
        ⟨scene.ledger, (surroundings.reply call scene.remote).2, call :: scene.sent⟩)

/-- The worker reads no clock: a pass gets its time from the caller. -/
def Surroundings.responder : Responder backend (Scene Remote) where
  read _ scene := (0, scene)
  answer := surroundings.answer

/-- What `_process` of a candidate raises, and the scene it leaves. -/
def attempt (now : Int) (candidate : RecoveryCandidate) (scene : Scene Remote) :
    Except Failure Unit × Scene Remote :=
  match ((process candidate now).start .initial).execute surroundings.responder scene with
  | (some (outcome, _), after) => (outcome, after)
  | (none, after) => (.ok (), after)

/-- `except (OpenWebUIUpstreamError, ValueError, RuntimeError): continue`. -/
def isCaught : Except Failure Unit → Bool
  | .ok () => true
  | .error failure => failure.isRecoverable

/-- The scene after `run_once`, also when it raises. -/
def runPass (now : Nat) (scene : Scene Remote) : Scene Remote :=
  (((runOnce now).start .initial).execute surroundings.responder scene).2

def runPasses (times : List Nat) (scene : Scene Remote) : Scene Remote :=
  times.foldl (fun scene now => runPass surroundings now scene) scene

/-- The stale operations in the order of the candidate query. -/
def waiting (ledger : Ledger) (now : Int) : List ApiCallOperation :=
  (ledger.operations.rows.filter (isStale surroundings.worker surroundings.callers now)).mergeSort
    olderFirst

/-- `_process` asks the credit service about every operation it is called for. -/
def IsProcessed (sent : List Call) (operationId : String) : Prop :=
  ∃ serviceUserId, Call.creditStatus operationId serviceUserId ∈ sent

/-! ## Transactions of the worker -/

/-- What the transactions of the worker for one operation can make of a ledger. -/
def Concluded (operationId : String) (before after : Ledger) : Prop :=
  after = before ∨ ∃ ids usage fields,
    recoveryTransaction before ids operationId usage fields = .ok ((), after)

theorem mem_updateOperation {ledger : Ledger} {operationId : String}
    {change : ApiCallOperation → ApiCallOperation} (keeps : ∀ row, (change row).id = row.id)
    {row : ApiCallOperation} (other : row.id ≠ operationId) :
    row ∈ (updateOperation ledger operationId change keeps).operations.rows ↔
      row ∈ ledger.operations.rows := by
  unfold updateOperation
  rw [Table.mem_modify keeps]
  constructor
  · rintro ⟨old, stored, same⟩
    split at same
    · rename_i own
      rw [same, keeps] at other
      exact (other own).elim
    · exact same ▸ stored
  · intro stored
    exact ⟨row, stored, (if_neg other).symm⟩

theorem toStatus_ne_pending (status : TerminalStatus) : status.toStatus ≠ .pending := by
  cases status <;> decide

/-- A finalized operation is not pending, and the other operations are as before. -/
theorem finalizeOperation_operations {before after : Ledger} {operationId eventId : String}
    {terminal : OperationTerminal} {snapshot : OperationTerminalSnapshot}
    (finalized : finalizeOperation before operationId eventId terminal = .ok (snapshot, after))
    {row : ApiCallOperation} :
    (row.id ≠ operationId → (row ∈ after.operations.rows ↔ row ∈ before.operations.rows)) ∧
      (row ∈ after.operations.rows → row.status = .pending → row.id ≠ operationId) := by
  obtain ⟨operation, rows, found, _, _, _, outcome⟩ := finalizeOperation_ok_iff.mp finalized
  obtain ⟨_, named⟩ := (Table.find?_some_iff _ _ _).mp found
  rcases outcome with ⟨terminalStatus, _, _, _, _, _, rfl⟩ | ⟨_, _, rfl⟩
  · refine ⟨fun _ => Iff.rfl, ?_⟩
    intro stored pending same
    have this := Table.find?_of_mem stored
    rw [same, found, Option.some.injEq] at this
    exact terminalStatus (this ▸ pending)
  · subst named
    refine ⟨fun other => mem_updateOperation (terminalOperation_id terminal) other, ?_⟩
    intro stored pending same
    obtain ⟨old, _, changed⟩ := (Table.mem_modify (terminalOperation_id terminal)).mp stored
    split at changed
    · rw [changed] at pending
      exact toStatus_ne_pending _ pending
    · rename_i different
      rw [changed] at same
      exact different same

/-- A recovery transaction leaves other operations alone, and its own not pending. -/
theorem recoveryTransaction_operations {before after : Ledger} {ids : RowIds}
    {operationId : String} {usage : Option (Int × Int)} {fields : TerminalFields}
    (committed : recoveryTransaction before ids operationId usage fields = .ok ((), after))
    {row : ApiCallOperation} :
    (row.id ≠ operationId → (row ∈ after.operations.rows ↔ row ∈ before.operations.rows)) ∧
      (row ∈ after.operations.rows → row.status = .pending → row.id ≠ operationId) := by
  have finishes (recorded : Ledger)
      (rest : terminalTransaction recorded ids operationId fields = .ok ((), after)) :
      (row.id ≠ operationId → (row ∈ after.operations.rows ↔ row ∈ recorded.operations.rows)) ∧
        (row ∈ after.operations.rows → row.status = .pending → row.id ≠ operationId) := by
    simp only [terminalTransaction, bind_ok_iff] at rest
    obtain ⟨terminal, _, ⟨snapshot, final⟩, finalized, returned⟩ := rest
    cases returned
    exact finalizeOperation_operations finalized
  cases usage with
  | none => exact finishes before committed
  | some tokens =>
      simp only [recoveryTransaction, bind_ok_iff] at committed
      obtain ⟨recorded, records, rest⟩ := committed
      obtain ⟨_, _, _, _, _, rfl⟩ := recordProviderUsage_ok_iff.mp records
      obtain ⟨others, own⟩ := finishes _ rest
      exact ⟨fun other => (others other).trans (mem_updateOperation _ other), own⟩

/-! ## One candidate -/

variable {surroundings} {candidate : RecoveryCandidate} {now : Int} {locals : Locals}
  {before scene : Scene Remote}

/-- The credit service was asked about the candidate, and nothing was committed. -/
def Asked (candidate : RecoveryCandidate) (before scene : Scene Remote) : Prop :=
  (∀ operationId, IsProcessed scene.sent operationId ↔
    IsProcessed before.sent operationId ∨ operationId = candidate.operationId) ∧
  scene.ledger = before.ledger

/-- The candidate was processed: the effect of `_process`. -/
def Attempted (candidate : RecoveryCandidate) (before scene : Scene Remote) : Prop :=
  (∀ operationId, IsProcessed scene.sent operationId ↔
    IsProcessed before.sent operationId ∨ operationId = candidate.operationId) ∧
  Concluded candidate.operationId before.ledger scene.ledger

theorem Asked.attempted (asked : Asked candidate before scene) :
    Attempted candidate before scene := ⟨asked.1, Or.inl asked.2⟩

theorem isProcessed_cons {call : Call} {sent : List Call} {operationId : String}
    (other : ∀ operationId serviceUserId, call ≠ .creditStatus operationId serviceUserId) :
    IsProcessed (call :: sent) operationId ↔ IsProcessed sent operationId := by
  constructor
  · rintro ⟨serviceUserId, member⟩
    rcases List.mem_cons.mp member with same | earlier
    · exact (other _ _ same.symm).elim
    · exact ⟨serviceUserId, earlier⟩
  · rintro ⟨serviceUserId, member⟩
    exact ⟨serviceUserId, List.mem_cons_of_mem _ member⟩

theorem isProcessed_creditStatus {asked serviceUserId : String} {sent : List Call}
    {operationId : String} :
    IsProcessed (.creditStatus asked serviceUserId :: sent) operationId ↔
      IsProcessed sent operationId ∨ operationId = asked := by
  constructor
  · rintro ⟨user, member⟩
    rcases List.mem_cons.mp member with same | earlier
    · cases same
      exact Or.inr rfl
    · exact Or.inl ⟨user, earlier⟩
  · rintro (⟨user, member⟩ | rfl)
    · exact ⟨user, List.mem_cons_of_mem _ member⟩
    · exact ⟨serviceUserId, List.mem_cons_self⟩

/-- A later call of `_process` to the credit service. -/
theorem Asked.asks {call : Call} {answered : Remote} (asked : Asked candidate before scene)
    (other : ∀ operationId serviceUserId, call ≠ .creditStatus operationId serviceUserId) :
    Asked candidate before ⟨scene.ledger, answered, call :: scene.sent⟩ :=
  ⟨fun operationId => (isProcessed_cons other).trans (asked.1 operationId), asked.2⟩

section Specifications

/-- The local variables stay, and the candidate was asked about or processed. -/
def Leaves {Result : Type} (locals : Locals) (reached : Scene Remote → Prop) :
    Except Failure Result → Locals → Scene Remote → Prop :=
  fun _ left after => left = locals ∧ reached after

theorem validateIdentity_executes {remote : CreditOperationSnapshot}
    (asked : Asked candidate before scene) :
    Executes surroundings.responder (validateIdentity candidate remote) locals scene
      (Leaves locals (Asked candidate before)) := by
  unfold validateIdentity
  split
  · exact Executes.pure ⟨rfl, asked⟩
  · exact Executes.throw ⟨rfl, asked⟩

/-- The scene after a call that the remote services answer. -/
def Surroundings.replied (surroundings : Surroundings Remote) (call : Call)
    (scene : Scene Remote) : Scene Remote :=
  ⟨scene.ledger, (surroundings.reply call scene.remote).2, call :: scene.sent⟩

/-- A call to the credit service and what follows its answer. -/
theorem askCredit_executes {Result : Type} {call : Call} {rest : call.Answer → Action Result}
    {reached : Scene Remote → Prop}
    (replies : surroundings.answer call scene =
      ((surroundings.reply call scene.remote).1, surroundings.replied call scene))
    (raises : reached (surroundings.replied call scene))
    (continues : ∀ value, Executes surroundings.responder (rest value) locals
      (surroundings.replied call scene) (Leaves locals reached)) :
    Executes surroundings.responder (await call >>= rest) locals scene
      (Leaves locals reached) := by
  apply Executes.bind
  apply Executes.await
  rw [show surroundings.responder.answer call scene = _ from replies]
  cases (surroundings.reply call scene.remote).1 with
  | ok value => exact continues value
  | error failure => exact ⟨rfl, raises⟩

/-- The identity check before what depends on the remote record. -/
theorem afterIdentity_executes {Result : Type} {remote : CreditOperationSnapshot}
    {rest : Action Result} (asked : Asked candidate before scene) {reached : Scene Remote → Prop}
    (raises : Asked candidate before scene → reached scene)
    (continues : Executes surroundings.responder rest locals scene (Leaves locals reached)) :
    Executes surroundings.responder (do validateIdentity candidate remote; rest) locals scene
      (Leaves locals reached) := by
  apply Executes.bind
  unfold validateIdentity
  split
  · exact Executes.pure continues
  · exact Executes.throw ⟨rfl, raises asked⟩

theorem concludeRemote_executes (asked : Asked candidate before scene) :
    Executes surroundings.responder (concludeRemote candidate) locals scene
      (Leaves locals (Asked candidate before)) := by
  unfold concludeRemote
  split
  · have kept : Asked candidate before (surroundings.replied (.settleCredit candidate.operationId
        candidate.serviceUserId candidate.promptTokens candidate.completionTokens) scene) :=
      asked.asks fun _ _ impossible => by cases impossible
    apply askCredit_executes rfl kept
    intro remote
    apply afterIdentity_executes kept id
    split
    · exact Executes.throw ⟨rfl, kept⟩
    · exact Executes.pure ⟨rfl, kept⟩
  · have kept : Asked candidate before (surroundings.replied
        (.cancelCredit candidate.operationId candidate.serviceUserId) scene) :=
      asked.asks fun _ _ impossible => by cases impossible
    apply askCredit_executes rfl kept
    intro remote
    apply afterIdentity_executes kept id
    split
    · exact Executes.throw ⟨rfl, kept⟩
    · exact Executes.pure ⟨rfl, kept⟩

theorem finalizeRecovered_executes {usage : Option (Int × Int)} {fields : TerminalFields}
    (asked : Asked candidate before scene) :
    Executes surroundings.responder
      (perform (.finalizeRecovered candidate.operationId usage fields)) locals scene
      (Leaves locals (Attempted candidate before)) := by
  apply Executes.perform
  show Leaves _ _ (surroundings.answer _ scene).1 _ (surroundings.answer _ scene).2
  have told (operationId : String) :
      IsProcessed (.finalizeRecovered candidate.operationId usage fields :: scene.sent)
        operationId ↔ IsProcessed scene.sent operationId :=
    isProcessed_cons fun _ _ impossible => by cases impossible
  refine ⟨rfl, ?_⟩
  unfold Surroundings.answer
  dsimp only
  split
  · rename_i ledger committed
    refine ⟨fun operationId => (told operationId).trans (asked.1 operationId), Or.inr ?_⟩
    exact ⟨_, usage, fields, asked.2 ▸ committed⟩
  · exact ⟨fun operationId => (told operationId).trans (asked.1 operationId), Or.inl asked.2⟩

theorem finalize_executes {remote : CreditOperationSnapshot}
    (asked : Asked candidate before scene) :
    Executes surroundings.responder (finalize candidate remote now) locals scene
      (Leaves locals (Attempted candidate before)) := by
  unfold finalize
  split
  · exact Executes.throw ⟨rfl, asked.attempted⟩
  · split
    · exact Executes.throw ⟨rfl, asked.attempted⟩
    · exact finalizeRecovered_executes asked

theorem processKnown_executes {remote : CreditOperationSnapshot}
    (asked : Asked candidate before scene) :
    Executes surroundings.responder (processKnown candidate now remote) locals scene
      (Leaves locals (Attempted candidate before)) := by
  unfold processKnown
  apply afterIdentity_executes asked Asked.attempted
  split
  · exact Executes.pure ⟨rfl, asked.attempted⟩
  · have concludes (remote : CreditOperationSnapshot) (latest : Scene Remote)
        (kept : Asked candidate before latest) :
        Executes surroundings.responder
          (if !isTerminal remote.status then Pure.pure () else finalize candidate remote now)
          locals latest (Leaves locals (Attempted candidate before)) := by
      split
      · exact Executes.pure ⟨rfl, kept.attempted⟩
      · exact finalize_executes kept
    dsimp only
    split
    · apply Executes.bind
      refine (concludeRemote_executes asked).mono ?_
      rintro outcome left reached ⟨rfl, kept⟩
      cases outcome with
      | error failure => exact ⟨rfl, kept.attempted⟩
      | ok concluded => exact concludes concluded reached kept
    · exact Executes.bind (Executes.pure (concludes remote scene asked))

variable (surroundings) in
/-- `_process` asks about its candidate and changes at most this operation. -/
theorem process_executes :
    Executes surroundings.responder (process candidate now) locals scene
      (Leaves locals (Attempted candidate scene)) := by
  unfold process
  apply Executes.bind
  have asked : Asked candidate scene (surroundings.replied
      (.creditStatus candidate.operationId candidate.serviceUserId) scene) :=
    ⟨fun _ => isProcessed_creditStatus, rfl⟩
  apply Executes.tryCatch
  apply Executes.bind
  apply Executes.await
  have replies : surroundings.responder.answer
      (.creditStatus candidate.operationId candidate.serviceUserId) scene =
        ((surroundings.reply (.creditStatus candidate.operationId candidate.serviceUserId)
          scene.remote).1, surroundings.replied
            (.creditStatus candidate.operationId candidate.serviceUserId) scene) := rfl
  rw [replies]
  cases (surroundings.reply (.creditStatus candidate.operationId candidate.serviceUserId)
    scene.remote).1 with
  | ok status => exact Executes.pure (processKnown_executes asked)
  | error failure =>
      dsimp only
      split
      · apply Executes.bind
        refine (finalizeRecovered_executes asked).mono ?_
        rintro outcome left reached ⟨rfl, attempted⟩
        cases outcome with
        | ok => exact Executes.pure (Executes.pure ⟨rfl, attempted⟩)
        | error failure => exact ⟨rfl, attempted⟩
      · exact Executes.throw ⟨rfl, asked.attempted⟩

end Specifications

/-! ## One pass -/

variable (surroundings)

/-- The candidates the loop of `run_once` gets to: an exception it does not catch
ends it. -/
def reachedBy (now : Int) : List RecoveryCandidate → Scene Remote → List RecoveryCandidate
  | [], _ => []
  | candidate :: rest, scene =>
      candidate ::
        if isCaught (attempt surroundings now candidate scene).1 then
          reachedBy now rest (attempt surroundings now candidate scene).2
        else []

/-- The scene after the loop. -/
def attemptAll (now : Int) : List RecoveryCandidate → Scene Remote → Scene Remote
  | [], scene => scene
  | candidate :: rest, scene =>
      if isCaught (attempt surroundings now candidate scene).1 then
        attemptAll now rest (attempt surroundings now candidate scene).2
      else (attempt surroundings now candidate scene).2

/-- No candidate but the last raises an exception that `run_once` does not catch. -/
def Unbroken (now : Int) : List RecoveryCandidate → Scene Remote → Prop
  | candidate :: next :: rest, scene =>
      isCaught (attempt surroundings now candidate scene).1 = true ∧
        Unbroken now (next :: rest) (attempt surroundings now candidate scene).2
  | _, _ => True

instance (now : Int) : (candidates : List RecoveryCandidate) → (scene : Scene Remote) →
    Decidable (Unbroken surroundings now candidates scene)
  | [], _ | [_], _ => isTrue trivial
  | candidate :: next :: rest, scene =>
      have := instDecidableUnbroken now (next :: rest) (attempt surroundings now candidate scene).2
      inferInstanceAs (Decidable (_ ∧ _))

variable {surroundings}

variable (surroundings) in
theorem attempt_spec (now : Int) (candidate : RecoveryCandidate) (scene : Scene Remote) :
    ((process candidate now).start .initial).execute surroundings.responder scene =
        (some ((attempt surroundings now candidate scene).1, .initial),
          (attempt surroundings now candidate scene).2) ∧
      Attempted candidate scene (attempt surroundings now candidate scene).2 := by
  obtain ⟨outcome, left, reached, ended, rfl, attempted⟩ :=
    @process_executes _ surroundings candidate now .initial scene
  have same : attempt surroundings now candidate scene = (outcome, reached) := by
    unfold attempt
    rw [ended]
  rw [same]
  exact ⟨ended, attempted⟩

theorem processAll_executes (candidates : List RecoveryCandidate) (scene : Scene Remote) :
    Executes surroundings.responder (processAll now candidates) .initial scene
      fun _ left after => left = .initial ∧ after = attemptAll surroundings now candidates scene := by
  induction candidates generalizing scene with
  | nil => exact Executes.pure ⟨rfl, rfl⟩
  | cons candidate rest inductionHypothesis =>
      unfold processAll attemptAll
      apply Executes.bind
      apply Executes.tryCatch
      refine ⟨_, _, _, (attempt_spec surroundings now candidate scene).1, ?_⟩
      cases raised : (attempt surroundings now candidate scene).1 with
      | ok => exact inductionHypothesis _
      | error failure =>
          cases recoverable : failure.isRecoverable with
          | true =>
              simp only [isCaught, recoverable, ↓reduceIte]
              exact Executes.pure (inductionHypothesis _)
          | false =>
              simp only [isCaught, recoverable, Bool.false_eq_true, ↓reduceIte]
              exact Executes.throw ⟨rfl, rfl⟩

variable (surroundings) in
theorem reachedBy_eq_take (candidates : List RecoveryCandidate) (scene : Scene Remote) :
    reachedBy surroundings now candidates scene =
      candidates.take (reachedBy surroundings now candidates scene).length := by
  induction candidates generalizing scene with
  | nil => rfl
  | cons candidate rest inductionHypothesis =>
      unfold reachedBy
      split
      · rw [List.length_cons, List.take_succ_cons, ← inductionHypothesis]
      · rfl

theorem unbroken_take (candidates : List RecoveryCandidate) (scene : Scene Remote) (count : Nat)
    (within : count ≤ candidates.length) :
    Unbroken surroundings now (candidates.take count) scene ↔
      count ≤ (reachedBy surroundings now candidates scene).length := by
  induction candidates generalizing scene count with
  | nil =>
      rw [Nat.le_zero.mp within]
      simp [Unbroken]
  | cons candidate rest inductionHypothesis =>
      rw [reachedBy, List.length_cons]
      match count, rest with
      | 0, _ => simp [Unbroken]
      | 1, _ => simp [Unbroken]
      | count + 2, [] => simp at within
      | count + 2, next :: rest =>
          have step := inductionHypothesis (attempt surroundings now candidate scene).2 (count + 1)
            (by simpa using within)
          rw [List.take_succ_cons] at step ⊢
          rw [List.take_succ_cons, Unbroken, step]
          split
          · rename_i caught
            simp [caught]
          · rename_i uncaught
            simp [uncaught]

/-- What a loop over candidates does to the calls and to the ledger. -/
structure Swept (before after : Scene Remote) (reached : List RecoveryCandidate) : Prop where
  processed : ∀ operationId, IsProcessed after.sent operationId ↔
    IsProcessed before.sent operationId ∨
      ∃ candidate ∈ reached, candidate.operationId = operationId
  unchanged : ∀ row ∈ after.ledger.operations.rows, row.status = .pending →
    row ∈ before.ledger.operations.rows
  kept : ∀ row ∈ before.ledger.operations.rows,
    (∀ candidate ∈ reached, candidate.operationId ≠ row.id) → row ∈ after.ledger.operations.rows

theorem Swept.refl : Swept scene scene [] where
  processed _ := by simp
  unchanged _ stored _ := stored
  kept _ stored _ := stored

theorem Attempted.swept (attempted : Attempted candidate before scene) :
    Swept before scene [candidate] where
  processed operationId := by
    rw [attempted.1 operationId]
    simp [eq_comm]
  unchanged row stored pending := by
    rcases attempted.2 with same | ⟨ids, usage, fields, committed⟩
    · rwa [same] at stored
    · obtain ⟨others, own⟩ := @recoveryTransaction_operations _ _ _ _ _ _ committed row
      exact (others (own stored pending)).mp stored
  kept row stored untouched := by
    rcases attempted.2 with same | ⟨ids, usage, fields, committed⟩
    · rwa [same]
    · obtain ⟨others, _⟩ := @recoveryTransaction_operations _ _ _ _ _ _ committed row
      exact (others (untouched candidate List.mem_cons_self).symm).mpr stored

theorem Swept.trans {middle after : Scene Remote} {first second : List RecoveryCandidate}
    (left : Swept before middle first) (right : Swept middle after second) :
    Swept before after (first ++ second) where
  processed operationId := by
    rw [right.processed, left.processed]
    simp only [List.mem_append, or_and_right, exists_or, or_assoc]
  unchanged row stored pending :=
    left.unchanged row (right.unchanged row stored pending) pending
  kept row stored untouched :=
    right.kept row
      (left.kept row stored fun candidate member =>
        untouched candidate (List.mem_append_left _ member))
      fun candidate member => untouched candidate (List.mem_append_right _ member)

variable (surroundings) in
theorem attemptAll_swept (candidates : List RecoveryCandidate) (scene : Scene Remote) :
    Swept scene (attemptAll surroundings now candidates scene)
      (reachedBy surroundings now candidates scene) := by
  induction candidates generalizing scene with
  | nil => exact Swept.refl
  | cons candidate rest inductionHypothesis =>
      have first := (attempt_spec surroundings now candidate scene).2.swept
      unfold attemptAll reachedBy
      split
      · exact first.trans (inductionHypothesis _)
      · exact first

/-- The scene once the candidates of a pass are loaded. -/
def Scene.loaded (now : Int) (scene : Scene Remote) : Scene Remote :=
  { scene with sent := .loadCandidates now :: scene.sent }

theorem runPass_eq (now : Nat) (scene : Scene Remote) :
    runPass surroundings now scene =
      attemptAll surroundings now
        (loadCandidates surroundings.worker surroundings.callers scene.ledger now)
        (scene.loaded now) := by
  have executes : Executes surroundings.responder (runOnce now) .initial scene
      fun _ _ after => after = attemptAll surroundings now
        (loadCandidates surroundings.worker surroundings.callers scene.ledger now)
        (scene.loaded now) := by
    unfold runOnce
    rw [if_neg (by omega)]
    apply Executes.bind
    apply Executes.perform
    show Executes _ _ _ _ _
    apply Executes.bind
    refine (processAll_executes _ _).mono ?_
    rintro outcome left reached ⟨rfl, rfl⟩
    cases outcome with
    | ok => exact Executes.pure rfl
    | error failure => rfl
  obtain ⟨outcome, left, reached, ended, rfl⟩ := executes
  unfold runPass
  rw [ended]

/-! ## The order of the candidates -/

theorem olderFirst_total (left right : ApiCallOperation) :
    olderFirst left right = true ∨ olderFirst right left = true := by
  unfold olderFirst
  simp only [Bool.or_eq_true, Bool.and_eq_true, decide_eq_true_eq]
  rcases lt_trichotomy left.updatedAt right.updatedAt with earlier | same | later
  · exact Or.inl (Or.inl earlier)
  · rcases le_total left.id right.id with first | second
    · exact Or.inl (Or.inr ⟨same, first⟩)
    · exact Or.inr (Or.inr ⟨same.symm, second⟩)
  · exact Or.inr (Or.inl later)

theorem olderFirst_trans (first second third : ApiCallOperation)
    (left : olderFirst first second = true) (right : olderFirst second third = true) :
    olderFirst first third = true := by
  unfold olderFirst at *
  simp only [Bool.or_eq_true, Bool.and_eq_true, decide_eq_true_eq] at *
  rcases left with left | ⟨left, small⟩
  · rcases right with right | ⟨right, _⟩
    · exact Or.inl (left.trans right)
    · exact Or.inl (right ▸ left)
  · rcases right with right | ⟨right, large⟩
    · exact Or.inl (left ▸ right)
    · exact Or.inr ⟨left.trans right, small.trans large⟩

theorem updatedAt_le_of_olderFirst {left right : ApiCallOperation}
    (order : olderFirst left right = true) : left.updatedAt ≤ right.updatedAt := by
  unfold olderFirst at order
  simp only [Bool.or_eq_true, Bool.and_eq_true, decide_eq_true_eq] at order
  omega

theorem mem_waiting {ledger : Ledger} {row : ApiCallOperation} :
    row ∈ waiting surroundings ledger now ↔
      row ∈ ledger.operations.rows ∧
        isStale surroundings.worker surroundings.callers now row = true := by
  unfold waiting
  rw [List.mem_mergeSort, List.mem_filter]

theorem isStale_iff {row : ApiCallOperation} :
    isStale surroundings.worker surroundings.callers now row = true ↔
      row.status = .pending ∧ row.updatedAt ≤ now - surroundings.worker.staleAfterSeconds ∧
        (serviceUserOf surroundings.callers row).isSome = true := by
  unfold isStale
  simp only [Bool.and_eq_true, decide_eq_true_eq, and_assoc]

variable (surroundings) in
theorem waiting_ranked (ledger : Ledger) (now : Int) :
    Ranked olderFirst (waiting surroundings ledger now) where
  sorted := List.pairwise_mergeSort olderFirst_trans
    (fun left right => by simpa using olderFirst_total left right) _
  distinct := by
    unfold waiting
    rw [(List.mergeSort_perm _ _).nodup_iff]
    exact (List.Nodup.of_map _ ledger.operations.unique).filter _
  total := olderFirst_total
  antisymmetric left leftMember right rightMember before after := by
    have sameId : left.id = right.id := by
      unfold olderFirst at before after
      simp only [Bool.or_eq_true, Bool.and_eq_true, decide_eq_true_eq] at before after
      rcases before with before | ⟨before, first⟩
      · omega
      · rcases after with after | ⟨after, second⟩
        · omega
        · exact le_antisymm first second
    exact Table.eq_of_key_eq (mem_waiting.mp leftMember).1 (mem_waiting.mp rightMember).1 sameId
  transitive := olderFirst_trans

variable (surroundings) in
/-- The candidates are the first rows that wait. -/
theorem loadCandidates_ids (ledger : Ledger) (now : Int) :
    (loadCandidates surroundings.worker surroundings.callers ledger now).map
        RecoveryCandidate.operationId =
      ((waiting surroundings ledger now).take surroundings.worker.batchSize).map
        ApiCallOperation.id := by
  have served (rows : List ApiCallOperation)
      (stale : ∀ row ∈ rows, (serviceUserOf surroundings.callers row).isSome = true) :
      (rows.filterMap fun operation => (serviceUserOf surroundings.callers operation).map
        fun serviceUserId => candidateOf operation serviceUserId).map
          RecoveryCandidate.operationId = rows.map ApiCallOperation.id := by
    induction rows with
    | nil => rfl
    | cons row rest inductionHypothesis =>
        obtain ⟨serviceUserId, found⟩ := Option.isSome_iff_exists.mp
          (stale row List.mem_cons_self)
        rw [List.filterMap_cons_some (by rw [found]; rfl), List.map_cons, List.map_cons,
          inductionHypothesis fun other member => stale other (List.mem_cons_of_mem _ member)]
        rfl
  apply served
  intro row member
  exact (isStale_iff.mp (mem_waiting.mp (List.mem_of_mem_take member)).2).2.2

/-! ## Progress over passes -/

variable (surroundings) in
/-- How many candidates a pass gets to. -/
def reach (now : Int) (scene : Scene Remote) : Nat :=
  (reachedBy surroundings now
    (loadCandidates surroundings.worker surroundings.callers scene.ledger now)
    (scene.loaded now)).length

variable (surroundings) in
theorem reached_ids (now : Int) (scene : Scene Remote) :
    reach surroundings now scene ≤ surroundings.worker.batchSize ∧
      (reachedBy surroundings now
        (loadCandidates surroundings.worker surroundings.callers scene.ledger now)
        (scene.loaded now)).map RecoveryCandidate.operationId =
      ((waiting surroundings scene.ledger now).take (reach surroundings now scene)).map
        ApiCallOperation.id := by
  have loaded := loadCandidates_ids surroundings scene.ledger now
  have first := @reachedBy_eq_take _ surroundings now
    (loadCandidates surroundings.worker surroundings.callers scene.ledger now) (scene.loaded now)
  have few : reach surroundings now scene ≤ surroundings.worker.batchSize := by
    have lengths := congrArg List.length loaded
    rw [List.length_map, List.length_map, List.length_take] at lengths
    have short := congrArg List.length first
    rw [List.length_take] at short
    unfold reach
    omega
  refine ⟨few, ?_⟩
  rw [first, List.map_take, loaded, ← List.map_take, List.take_take]
  unfold reach at few ⊢
  rw [Nat.min_eq_left few]

/-- What a pass does: it processes the first waiting operations it gets to. -/
structure Passed (now : Int) (before after : Scene Remote) (surroundings : Surroundings Remote) :
    Prop where
  processed : ∀ operationId, IsProcessed after.sent operationId ↔
    IsProcessed before.sent operationId ∨
      ∃ row ∈ (waiting surroundings before.ledger now).take (reach surroundings now before),
        row.id = operationId
  unchanged : ∀ row ∈ after.ledger.operations.rows, row.status = .pending →
    row ∈ before.ledger.operations.rows
  kept : ∀ row ∈ before.ledger.operations.rows, ¬IsProcessed after.sent row.id →
    row ∈ after.ledger.operations.rows

variable (surroundings) in
theorem runPass_passed (now : Nat) (scene : Scene Remote) :
    Passed now scene (runPass surroundings now scene) surroundings := by
  rw [runPass_eq]
  have swept := @attemptAll_swept _ surroundings now
    (loadCandidates surroundings.worker surroundings.callers scene.ledger now) (scene.loaded now)
  obtain ⟨_, ids⟩ := reached_ids surroundings now scene
  have named (operationId : String) :
      (∃ candidate ∈ reachedBy surroundings now
        (loadCandidates surroundings.worker surroundings.callers scene.ledger now)
        (scene.loaded now), candidate.operationId = operationId) ↔
      ∃ row ∈ (waiting surroundings scene.ledger now).take (reach surroundings now scene),
        row.id = operationId := by
    rw [← List.mem_map, ids, List.mem_map]
  have before (operationId : String) :
      IsProcessed (scene.loaded now).sent operationId ↔ IsProcessed scene.sent operationId :=
    isProcessed_cons fun _ _ impossible => by cases impossible
  refine ⟨?_, swept.unchanged, ?_⟩
  · intro operationId
    rw [swept.processed, named, before]
  · intro row stored unprocessed
    apply swept.kept row stored
    intro candidate member same
    exact unprocessed ((swept.processed row.id).mpr (Or.inr ⟨candidate, member, same⟩))

/-- What holds between passes, for the operations that waited at first. -/
structure Progress (surroundings : Surroundings Remote) (start : Ledger) (first : Int)
    (passes : Nat) (scene : Scene Remote) : Prop where
  unchanged : ∀ row ∈ scene.ledger.operations.rows, row.status = .pending →
    row ∈ start.operations.rows
  accounted : ∀ row ∈ waiting surroundings start first,
    row ∈ scene.ledger.operations.rows ∨ IsProcessed scene.sent row.id
  inOrder : ∀ row ∈ waiting surroundings start first, IsProcessed scene.sent row.id →
    ∀ other ∈ waiting surroundings start first, olderFirst other row = true →
      IsProcessed scene.sent other.id
  bounded : ∃ ids : List String, ids.length ≤ passes * surroundings.worker.batchSize ∧
    ∀ operationId, IsProcessed scene.sent operationId → operationId ∈ ids

section Runs

variable {start : Ledger} {first : Int} {passes : Nat} {row other : ApiCallOperation}

theorem Progress.initial (remote : Remote) :
    Progress surroundings start first 0 ⟨start, remote, []⟩ where
  unchanged _ stored _ := stored
  accounted _ waits := Or.inl (mem_waiting.mp waits).1
  inOrder _ _ processed := by
    obtain ⟨_, impossible⟩ := processed
    cases impossible
  bounded := by
    refine ⟨[], Nat.zero_le _, ?_⟩
    rintro _ ⟨_, impossible⟩
    cases impossible

/-- An operation that waited at first and is stored still waits. -/
theorem waits_later (waits : row ∈ waiting surroundings start first)
    (stored : row ∈ scene.ledger.operations.rows) (passes : first ≤ now) :
    row ∈ waiting surroundings scene.ledger now := by
  obtain ⟨pending, old, served⟩ := isStale_iff.mp (mem_waiting.mp waits).2
  exact mem_waiting.mpr ⟨stored, isStale_iff.mpr ⟨pending, by omega, served⟩⟩

/-- What waits before an operation that waited at first, waited at first. -/
theorem Progress.waited_before (progress : Progress surroundings start first passes scene)
    (waits : row ∈ waiting surroundings start first)
    (ahead : other ∈ waiting surroundings scene.ledger now)
    (order : olderFirst other row = true) : other ∈ waiting surroundings start first := by
  obtain ⟨_, old, _⟩ := isStale_iff.mp (mem_waiting.mp waits).2
  obtain ⟨stored, stale⟩ := mem_waiting.mp ahead
  obtain ⟨pending, _, served⟩ := isStale_iff.mp stale
  have earlier := updatedAt_le_of_olderFirst order
  exact mem_waiting.mpr ⟨progress.unchanged other stored pending,
    isStale_iff.mpr ⟨pending, by omega, served⟩⟩

/-- The row that a pass processes under the identifier of an old one is this one. -/
theorem Progress.processed_row (progress : Progress surroundings start first passes scene)
    {count : Nat} (waits : row ∈ waiting surroundings start first)
    (chosen : other ∈ (waiting surroundings scene.ledger now).take count)
    (same : other.id = row.id) : other = row := by
  obtain ⟨stored, stale⟩ := mem_waiting.mp (List.mem_of_mem_take chosen)
  exact Table.eq_of_key_eq (progress.unchanged other stored (isStale_iff.mp stale).1)
    (mem_waiting.mp waits).1 same

theorem Progress.pass {time : Nat} (progress : Progress surroundings start first passes scene)
    (later : first ≤ time) :
    Progress surroundings start first (passes + 1) (runPass surroundings time scene) := by
  have passed := runPass_passed surroundings time scene
  have ranked := waiting_ranked surroundings scene.ledger time
  obtain ⟨few, _⟩ := reached_ids surroundings time scene
  refine ⟨?_, ?_, ?_, ?_⟩
  · intro row stored pending
    exact progress.unchanged row (passed.unchanged row stored pending) pending
  · intro row waits
    by_cases processed : IsProcessed (runPass surroundings time scene).sent row.id
    · exact Or.inr processed
    · rcases progress.accounted row waits with stored | earlier
      · exact Or.inl (passed.kept row stored processed)
      · exact (processed ((passed.processed row.id).mpr (Or.inl earlier))).elim
  · intro row waits processed other waited order
    apply (passed.processed other.id).mpr
    rcases (passed.processed row.id).mp processed with earlier | ⟨chosen, taken, same⟩
    · exact Or.inl (progress.inOrder row waits earlier other waited order)
    · have itself := progress.processed_row waits taken same
      subst itself
      rcases progress.accounted other waited with stored | earlier
      · obtain ⟨_, small⟩ := (ranked.mem_take_iff _).mp taken
        have smaller := ranked.rank_le order
        exact Or.inr ⟨other, (ranked.mem_take_iff _).mpr
          ⟨waits_later waited stored later, by omega⟩, rfl⟩
      · exact Or.inl earlier
  · obtain ⟨ids, short, named⟩ := progress.bounded
    refine ⟨ids ++ ((waiting surroundings scene.ledger time).take
      (reach surroundings time scene)).map ApiCallOperation.id, ?_, ?_⟩
    · rw [List.length_append, List.length_map, List.length_take, Nat.add_mul]
      omega
    · intro operationId processed
      rcases (passed.processed operationId).mp processed with earlier | ⟨chosen, taken, same⟩
      · exact List.mem_append_left _ (named operationId earlier)
      · exact List.mem_append_right _ (List.mem_map.mpr ⟨chosen, taken, same⟩)

theorem Progress.run (times : List Nat) (progress : Progress surroundings start first passes scene)
    (later : ∀ time ∈ times, first ≤ time) :
    Progress surroundings start first (passes + times.length)
      (runPasses surroundings times scene) := by
  induction times generalizing passes scene with
  | nil => exact progress
  | cons time rest inductionHypothesis =>
      have next := inductionHypothesis (progress.pass (later time List.mem_cons_self))
        fun other member => later other (List.mem_cons_of_mem _ member)
      rw [List.length_cons, Nat.add_comm rest.length 1, ← Nat.add_assoc]
      exact next

/-! ## The last pass -/

/-- The operations among the given ones that the ledger still holds as pending. -/
def stillPending (ledger : Ledger) (operations : List ApiCallOperation) : List ApiCallOperation :=
  operations.filter fun operation =>
    (ledger.operations.find? operation.id).any fun row => row.status = .pending

theorem Progress.mem_stillPending (progress : Progress surroundings start first passes scene) :
    row ∈ stillPending scene.ledger (waiting surroundings start first) ↔
      row ∈ waiting surroundings start first ∧ row ∈ scene.ledger.operations.rows := by
  unfold stillPending
  rw [List.mem_filter]
  apply and_congr_right
  intro waits
  obtain ⟨began, stale⟩ := mem_waiting.mp waits
  constructor
  · intro pending
    rw [Option.any_eq_true] at pending
    obtain ⟨stored, found, isPending⟩ := pending
    rw [decide_eq_true_eq] at isPending
    obtain ⟨member, named⟩ := (Table.find?_some_iff _ _ _).mp found
    exact Table.eq_of_key_eq (progress.unchanged stored member isPending) began named ▸ member
  · intro stored
    rw [Table.find?_of_mem stored]
    simp [(isStale_iff.mp stale).1]

variable (surroundings) in
/-- The last of the waiting operations comes after all of them. -/
theorem exists_last (nonempty : waiting surroundings start first ≠ []) :
    ∃ last ∈ waiting surroundings start first,
      ∀ other ∈ waiting surroundings start first, olderFirst other last = true := by
  have ranked := waiting_ranked surroundings start first
  refine ⟨(waiting surroundings start first).getLast nonempty, List.getLast_mem _, ?_⟩
  intro other member
  have split := List.dropLast_append_getLast nonempty
  rw [← split, List.mem_append, List.mem_singleton] at member
  have sorted := ranked.sorted
  rw [← split, List.pairwise_append] at sorted
  rcases member with before | rfl
  · exact sorted.2.2 other before _ (List.mem_singleton_self _)
  · exact ranked.refl _

/-- The rank of the last waiting operation in the last pass. -/
theorem Progress.rank_last (progress : Progress surroundings start first passes scene)
    (later : first ≤ now) {last : ApiCallOperation}
    (waits : last ∈ waiting surroundings start first)
    (stored : last ∈ scene.ledger.operations.rows)
    (latest : ∀ other ∈ waiting surroundings start first, olderFirst other last = true) :
    rank olderFirst (waiting surroundings scene.ledger now) last + 1 =
      (stillPending scene.ledger (waiting surroundings start first)).length := by
  have ranked := waiting_ranked surroundings scene.ledger now
  apply le_antisymm
  · apply rank_lt_length ranked.distinct (ranked.refl last)
      (progress.mem_stillPending.mpr ⟨waits, stored⟩)
    intro other ahead notAfter
    have order : olderFirst other last = true := by
      rcases olderFirst_total last other with reversed | order
      · rw [notAfter] at reversed
        cases reversed
      · exact order
    exact progress.mem_stillPending.mpr
      ⟨progress.waited_before waits ahead order, (mem_waiting.mp ahead).1⟩
  · have distinct := (waiting_ranked surroundings start first).distinct
    apply ranked.length_le_rank (distinct.filter _)
    · intro other pending
      obtain ⟨waited, kept⟩ := progress.mem_stillPending.mp pending
      exact waits_later waited kept later
    · exact waits_later waits stored later
    · intro other pending
      exact latest other (progress.mem_stillPending.mp pending).1

/-- Fewer operations processed than waited: the last one was not. -/
theorem Progress.last_unprocessed (progress : Progress surroundings start first passes scene)
    (many : passes * surroundings.worker.batchSize < (waiting surroundings start first).length)
    {last : ApiCallOperation} (waits : last ∈ waiting surroundings start first)
    (latest : ∀ other ∈ waiting surroundings start first, olderFirst other last = true) :
    ¬IsProcessed scene.sent last.id := by
  intro processed
  obtain ⟨ids, short, named⟩ := progress.bounded
  have distinct : ((waiting surroundings start first).map ApiCallOperation.id).Nodup := by
    unfold waiting
    rw [((List.mergeSort_perm _ _).map _).nodup_iff]
    exact start.operations.unique.sublist (List.filter_sublist.map _)
  have inside : (waiting surroundings start first).map ApiCallOperation.id ⊆ ids := by
    intro operationId listed
    obtain ⟨other, waited, rfl⟩ := List.mem_map.mp listed
    exact named other.id (progress.inOrder last waits processed other waited (latest other waited))
  have bound := (List.subperm_of_subset distinct inside).length_le
  rw [List.length_map] at bound
  omega

end Runs

end Passes

/-- ⌈n / b⌉. -/
def passesNeeded (operations batchSize : Nat) : Nat := (operations + batchSize - 1) / batchSize

theorem staleAfter_valid : (30 : Int) ≤ 30 ∧ (30 : Int) ≤ 86400 := by decide

/-- A worker with the given batch size that takes what is 30 seconds old. -/
def sampleWorker (batchSize : Nat) (valid : 1 ≤ batchSize ∧ batchSize ≤ 100) :
    ExternalChatRecoveryWorker :=
  ⟨30, batchSize, staleAfter_valid, valid⟩

def sampleOperation (id : String) (updatedAt : Int) : ApiCallOperation where
  id := id
  apiClientId := "client"
  credentialId := "credential"
  clientRequestId := id
  requestFingerprint := ""
  endpoint := "/external/v1/chat/completions"
  method := "POST"
  modelId := "model"
  stream := false
  status := .pending
  reservedTokens := 0
  promptTokens := 0
  completionTokens := 0
  totalTokens := 0
  providerUsageRecorded := false
  creditSettlementId := none
  usageOperationId := none
  terminalHttpStatus := none
  terminalCode := none
  startedAt := updatedAt
  completedAt := none
  updatedAt := updatedAt

/-- Two stale operations of one client. -/
def sampleLedger : Ledger :=
  { Ledger.empty with
    operations := (Table.empty.insertNew (sampleOperation "first" 0)).insertNew
      (sampleOperation "second" 10) }

def sampleBinding : ApiClientBinding where
  id := "binding"
  apiClientId := "client"
  zangpuServiceUserId := some "user"
  bifrostVirtualKeyId := none
  bifrostValueCiphertext := none
  bifrostValueKeyVersion := none
  bifrostConfigHash := ""
  syncStatus := .active
  lastSyncErrorCode := none
  version := 1
  createdAt := 0
  updatedAt := 0

/-- A credit service that keeps every settlement in an error state. -/
def sampleReply : (call : Call) → Except Failure call.Answer
  | .creditStatus operationId serviceUserId =>
      .ok ⟨operationId, "settlement", serviceUserId, "model", some "bifrost", .settlementError,
        0, 0, 0, 0, some (usageOperationIdOf operationId)⟩
  | _ => .error (.runtimeError "unavailable")

def sampleCallers : Callers :=
  { Callers.empty with bindings := Table.empty.insertNew sampleBinding }

def sampleSurroundings (worker : ExternalChatRecoveryWorker) : Surroundings Unit where
  worker := worker
  callers := sampleCallers
  reply call _ := (sampleReply call, ())
  rowIds _ := (⟨"daily", "lifetime", "event"⟩, ())

theorem batchOfOne_valid : 1 ≤ 1 ∧ 1 ≤ 100 := by decide

theorem batchOfTwo_valid : 1 ≤ 2 ∧ 2 ≤ 100 := by decide

/-- A worker that takes operations one by one. -/
def singly : Surroundings Unit := sampleSurroundings (sampleWorker 1 batchOfOne_valid)

/-- A worker that takes operations in pairs. -/
def pairwise : Surroundings Unit := sampleSurroundings (sampleWorker 2 batchOfTwo_valid)

/-- Both operations are stale 40 seconds after the epoch. -/
theorem waiting_sample (worker : ExternalChatRecoveryWorker)
    (thirty : worker.staleAfterSeconds = 30) {now : Int} (late : 40 ≤ now) :
    waiting (sampleSurroundings worker) sampleLedger now =
      [sampleOperation "first" 0, sampleOperation "second" 10] := by
  have stale (id : String) (updatedAt : Int) (old : updatedAt ≤ 10) :
      isStale worker (sampleSurroundings worker).callers now (sampleOperation id updatedAt) =
        true := by
    apply (@isStale_iff _ (sampleSurroundings worker) now _).mpr
    have served : serviceUserOf sampleCallers (sampleOperation "" 0) = some "user" := by
      decide
    refine ⟨rfl, ?_, congrArg Option.isSome served⟩
    show updatedAt ≤ now - worker.staleAfterSeconds
    omega
  have rows : sampleLedger.operations.rows =
      [sampleOperation "first" 0, sampleOperation "second" 10] := by decide
  unfold waiting
  rw [rows]
  have both : [sampleOperation "first" 0, sampleOperation "second" 10].filter
      (isStale worker (sampleSurroundings worker).callers now) =
        [sampleOperation "first" 0, sampleOperation "second" 10] := by
    rw [List.filter_cons_of_pos (stale _ _ (by decide)),
      List.filter_cons_of_pos (stale _ _ (by decide)), List.filter_nil]
  rw [show (sampleSurroundings worker).worker = worker from rfl, both]
  exact List.mergeSort_of_pairwise (by decide)

theorem loadCandidates_sample (worker : ExternalChatRecoveryWorker)
    (thirty : worker.staleAfterSeconds = 30) {now : Int} (late : 40 ≤ now) :
    loadCandidates worker (sampleSurroundings worker).callers sampleLedger now =
      ([sampleOperation "first" 0, sampleOperation "second" 10].take worker.batchSize).filterMap
        fun operation => (serviceUserOf (sampleSurroundings worker).callers operation).map
          fun serviceUserId => candidateOf operation serviceUserId := by
  rw [← waiting_sample worker thirty late]
  rfl

/-- A pass of one candidate asks about the first operation again. -/
theorem runPass_singly (now : Nat) (late : 40 ≤ now) (sent : List Call) :
    runPass singly now ⟨sampleLedger, (), sent⟩ =
      ⟨sampleLedger, (), .creditStatus "first" "user" :: .loadCandidates now :: sent⟩ := by
  rw [runPass_eq]
  have candidates := @loadCandidates_sample singly.worker rfl now (by omega)
  rw [show singly.callers = (sampleSurroundings singly.worker).callers from rfl, candidates]
  rfl

end Zangpu.Workers.Recovery
