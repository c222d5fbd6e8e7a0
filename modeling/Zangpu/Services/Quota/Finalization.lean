import Zangpu.Services.Quota.Limits

/-!
Finalization of pending operations.

Owns: what every recorded operation satisfies by itself; the bound of every
token counter by `2**63 - 1`; and the absence of every guard failure when a
pending operation of a reachable ledger is finalized.

Does not own: the unique constraints of the event table, which refuse an
identifier or a server request identifier that was used before.
-/

set_option autoImplicit false

namespace Zangpu.Services.Quota

open Zangpu.Foundation
open Zangpu.Models

/-! ## Recorded operations -/

/-- A property of single operation rows that every transaction keeps. -/
structure RowInvariant (holds : ApiCallOperation → Prop) : Prop where
  reserved : ∀ request : ReserveRequest, request.validate = .ok () → 0 ≤ request.now →
    holds (pendingOperation request)
  credited : ∀ settlementId usageOperationId now row, holds row →
    holds (creditRow settlementId usageOperationId now row)
  used : ∀ promptTokens completionTokens now row, 0 ≤ promptTokens → 0 ≤ completionTokens →
    holds row → holds (usageRow promptTokens completionTokens now row)
  touched : ∀ now row, holds row → holds (touchRow now row)
  finalized : ∀ terminal row, holds row → holds (terminalOperation terminal row)

/-- Rewriting one operation row keeps a property of every row. -/
theorem forall_updateOperation {holds : ApiCallOperation → Prop} {ledger : Ledger}
    (every : ∀ row ∈ ledger.operations.rows, holds row) {operationId : String}
    {change : ApiCallOperation → ApiCallOperation} (keeps : ∀ row, (change row).id = row.id)
    (kept : ∀ row, holds row → holds (change row)) :
    ∀ row ∈ (updateOperation ledger operationId change keeps).operations.rows, holds row := by
  intro row member
  obtain ⟨old, oldMember, rowEq⟩ := (Table.mem_modify keeps).mp member
  rw [rowEq]
  split
  · exact kept old (every old oldMember)
  · exact every old oldMember

theorem RowInvariant.transact {holds : ApiCallOperation → Prop} (invariant : RowInvariant holds)
    {ledger after : Ledger} (every : ∀ row ∈ ledger.operations.rows, holds row)
    {call : LedgerCall} (committed : call.transact ledger = .ok after) :
    ∀ row ∈ after.operations.rows, holds row := by
  cases call with
  | reserve callers request =>
      obtain ⟨reservation, reserved⟩ := snd_map_ok committed
      obtain ⟨client, rows, admitted, rfl⟩ := reserveOperation_ok reserved
      intro operation member
      have fresh : ledger.operations.find? (pendingOperation request).id = none :=
        admitted.newOperation
      rcases (Table.mem_insertNew fresh).mp member with old | equal
      · exact every operation old
      · rw [equal]
        exact invariant.reserved request admitted.validated admitted.started
  | recordCredit operationId settlementId usageOperationId now =>
      obtain ⟨_, _, _, ⟨_, _, rfl⟩ | ⟨_, _, rfl⟩⟩ := recordCreditReservation_ok committed
      · exact every
      · exact forall_updateOperation every _ (invariant.credited _ _ _)
  | recordUsage operationId promptTokens completionTokens now =>
      obtain ⟨⟨prompt, completion⟩, _, _, _, _, rfl⟩ := recordProviderUsage_ok_iff.mp committed
      exact forall_updateOperation every _ fun row => invariant.used _ _ _ row prompt completion
  | touch operationId now =>
      obtain ⟨touched, result⟩ := snd_map_ok committed
      obtain ⟨_, _, ⟨_, _, rfl⟩ | ⟨_, _, rfl⟩⟩ := touchPendingOperation_ok result
      · exact forall_updateOperation every _ (invariant.touched _)
      · exact every
  | finalize operationId eventId terminal =>
      obtain ⟨snapshot, result⟩ := snd_map_ok committed
      obtain ⟨operation, rows, _, _, _, _, outcome⟩ := finalizeOperation_ok_iff.mp result
      rcases outcome with ⟨_, _, _, _, _, _, rfl⟩ | ⟨_, _, rfl⟩
      · exact every
      · exact forall_updateOperation every (terminalOperation_id terminal)
          (invariant.finalized terminal)

/-- A part of an operation row that no transaction rewrites. -/
structure FixedPart {Part : Type} (part : ApiCallOperation → Part) : Prop where
  credited : ∀ settlementId usageOperationId now row,
    part (creditRow settlementId usageOperationId now row) = part row
  used : ∀ promptTokens completionTokens now row,
    part (usageRow promptTokens completionTokens now row) = part row
  touched : ∀ now row, part (touchRow now row) = part row
  finalized : ∀ terminal row, part (terminalOperation terminal row) = part row

theorem reservedTokens_fixed : FixedPart ApiCallOperation.reservedTokens where
  credited _ _ _ _ := rfl
  used _ _ _ _ := rfl
  touched _ _ := rfl
  finalized _ _ := rfl

section FixedPart

variable {Part : Type} {part : ApiCallOperation → Part}

theorem find?_updateOperation {ledger : Ledger} {operationId changed : String}
    {change : ApiCallOperation → ApiCallOperation} (keeps : ∀ row, (change row).id = row.id)
    (same : ∀ row, part (change row) = part row) {row : ApiCallOperation}
    (found : ledger.operations.find? operationId = some row) :
    ∃ left, (updateOperation ledger changed change keeps).operations.find? operationId =
      some left ∧ part left = part row := by
  have changedRow := Table.find?_modify keeps ledger.operations changed operationId
  rw [found] at changedRow
  unfold updateOperation
  rw [changedRow]
  split
  · exact ⟨change row, rfl, same row⟩
  · exact ⟨row, rfl, rfl⟩

/-- No committed call drops a row or rewrites a fixed part of it. -/
theorem FixedPart.transact (fixed : FixedPart part) {ledger after : Ledger} {call : LedgerCall}
    (committed : call.transact ledger = .ok after) {operationId : String} {row : ApiCallOperation}
    (found : ledger.operations.find? operationId = some row) :
    ∃ left, after.operations.find? operationId = some left ∧ part left = part row := by
  cases call with
  | reserve callers request =>
      obtain ⟨reservation, reserved⟩ := snd_map_ok committed
      obtain ⟨client, rows, admitted, rfl⟩ := reserveOperation_ok reserved
      exact ⟨row, Table.find?_insertNew_of_some found, rfl⟩
  | recordCredit recorded settlementId usageOperationId now =>
      obtain ⟨_, _, _, ⟨_, _, rfl⟩ | ⟨_, _, rfl⟩⟩ := recordCreditReservation_ok committed
      · exact ⟨row, found, rfl⟩
      · exact find?_updateOperation _ (fixed.credited _ _ _) found
  | recordUsage recorded promptTokens completionTokens now =>
      obtain ⟨_, _, _, _, _, rfl⟩ := recordProviderUsage_ok_iff.mp committed
      exact find?_updateOperation _ (fixed.used _ _ _) found
  | touch touchedId now =>
      obtain ⟨touched, result⟩ := snd_map_ok committed
      obtain ⟨_, _, ⟨_, _, rfl⟩ | ⟨_, _, rfl⟩⟩ := touchPendingOperation_ok result
      · exact find?_updateOperation _ (fixed.touched _) found
      · exact ⟨row, found, rfl⟩
  | finalize finalized eventId terminal =>
      obtain ⟨snapshot, result⟩ := snd_map_ok committed
      obtain ⟨operation, rows, _, _, _, _, outcome⟩ := finalizeOperation_ok_iff.mp result
      rcases outcome with ⟨_, _, _, _, _, _, rfl⟩ | ⟨_, _, rfl⟩
      · exact ⟨row, found, rfl⟩
      · exact find?_updateOperation (terminalOperation_id terminal) (fixed.finalized terminal)
          found

end FixedPart

/-- What the transactions write into one operation row. -/
structure Recorded (operation : ApiCallOperation) : Prop where
  started : 0 ≤ operation.startedAt
  reserved : 1 ≤ operation.reservedTokens
  used : 0 ≤ operation.totalTokens

def AllRecorded (ledger : Ledger) : Prop :=
  ∀ operation ∈ ledger.operations.rows, Recorded operation

theorem allRecorded_empty : AllRecorded Ledger.empty := by
  intro operation member
  cases member

theorem recorded_invariant : RowInvariant Recorded where
  reserved := by
    intro request validated started
    simp only [ReserveRequest.validate, bind_ok_iff, require_ok_iff] at validated
    obtain ⟨_, _, _, _, _, _, positive, _⟩ := validated
    exact ⟨started, positive, le_refl 0⟩
  credited := fun _ _ _ _ kept => ⟨kept.started, kept.reserved, kept.used⟩
  used := fun _ _ _ _ prompt completion kept =>
    ⟨kept.started, kept.reserved, Int.add_nonneg prompt completion⟩
  touched := fun _ _ kept => ⟨kept.started, kept.reserved, kept.used⟩
  finalized := fun _ _ kept => ⟨kept.started, kept.reserved, kept.used⟩

theorem AllRecorded.transact {ledger after : Ledger} (recorded : AllRecorded ledger)
    {call : LedgerCall} (committed : call.transact ledger = .ok after) : AllRecorded after :=
  recorded_invariant.transact recorded committed

/-- No row was last changed before the epoch. -/
def Stamped (ledger : Ledger) : Prop :=
  ∀ row ∈ ledger.quotas.rows, 0 ≤ row.updatedAt

theorem Stamped.transact {ledger after : Ledger} (stamped : Stamped ledger) {call : LedgerCall}
    (committed : call.transact ledger = .ok after) : Stamped after := by
  cases call with
  | reserve callers request =>
      obtain ⟨reservation, reserved⟩ := snd_map_ok committed
      obtain ⟨client, rows, admitted, rfl⟩ := reserveOperation_ok reserved
      intro row member
      obtain ⟨old, oldMember, rowEq⟩ := mem_updateQuotaRows (pendingOperation request) member
      rw [rowEq]
      split
      · exact admitted.started
      · rename_i uncounted
        exact stamped old ((mem_preparedLedger oldMember).resolve_right uncounted)
  | recordCredit operationId settlementId usageOperationId now =>
      obtain ⟨_, _, _, ⟨_, _, rfl⟩ | ⟨_, _, rfl⟩⟩ := recordCreditReservation_ok committed
      · exact stamped
      · exact stamped
  | recordUsage operationId promptTokens completionTokens now =>
      obtain ⟨_, _, _, _, _, rfl⟩ := recordProviderUsage_ok_iff.mp committed
      exact stamped
  | touch operationId now =>
      obtain ⟨touched, result⟩ := snd_map_ok committed
      obtain ⟨_, _, ⟨_, _, rfl⟩ | ⟨_, _, rfl⟩⟩ := touchPendingOperation_ok result
      · exact stamped
      · exact stamped
  | finalize operationId eventId terminal =>
      obtain ⟨snapshot, result⟩ := snd_map_ok committed
      obtain ⟨operation, rows, found, started, _, _, outcome⟩ := finalizeOperation_ok_iff.mp result
      rcases outcome with ⟨_, _, _, _, _, _, rfl⟩ | ⟨guards, _, rfl⟩
      · exact stamped
      · intro row member
        obtain ⟨old, oldMember, rowEq⟩ := mem_updateQuotaRows operation member
        rw [rowEq]
        split
        · exact Int.le_trans started guards.ordered
        · exact stamped old oldMember

/-! ## Settled ledgers -/

/-- What the guards of a finalization rest on. -/
structure Settleable (ledger : Ledger) : Prop where
  conserved : Conserved ledger
  recorded : AllRecorded ledger
  stamped : Stamped ledger
  below : TokensBelow (fun _ => some signedBigintMax) ledger

theorem settleable_empty : Settleable Ledger.empty where
  conserved := conserved_empty
  recorded := allRecorded_empty
  stamped := by intro row member; cases member
  below := tokensBelow_empty _

theorem Settleable.transact {ledger after : Ledger} (settleable : Settleable ledger)
    {call : LedgerCall} (committed : call.transact ledger = .ok after) : Settleable after where
  conserved := settleable.conserved.transact committed
  recorded := settleable.recorded.transact committed
  stamped := settleable.stamped.transact committed
  below := by
    refine settleable.below.transact ?_ committed
    intro callers request client rows named admitted row member counted limit limited
    rw [← Option.some.inj limited]
    exact (admitted.checked member counted).2.2

theorem Settleable.apply {ledger : Ledger} (settleable : Settleable ledger) (call : LedgerCall) :
    Settleable (call.apply ledger) := by
  unfold LedgerCall.apply
  split
  · rename_i after committed
    exact settleable.transact committed
  · exact settleable

theorem Settleable.run {ledger : Ledger} (settleable : Settleable ledger)
    (calls : List LedgerCall) : Settleable (run ledger calls) :=
  run_invariant (fun _ before committed => before.transact committed) settleable calls
    fun _ _ => trivial

theorem settleable_reachable (calls : List LedgerCall) :
    Settleable (Quota.run Ledger.empty calls) :=
  settleable_empty.run calls

/-! ## Counters -/

/-- No recorded total exceeds its reservation. -/
def NoOverrun (ledger : Ledger) : Prop :=
  ∀ operation ∈ ledger.operations.rows, operation.totalTokens ≤ operation.reservedTokens

/-- Both token counters of a row are between 0 and `2**63 - 1`. -/
def CountersFit (row : ApiClientQuotaUsage) : Prop :=
  (0 ≤ row.tokenReserved ∧ row.tokenReserved ≤ signedBigintMax) ∧
    (0 ≤ row.tokenConsumed ∧ row.tokenConsumed ≤ signedBigintMax)

theorem Settleable.reservedShare_nonneg {ledger : Ledger} (settleable : Settleable ledger)
    (key : QuotaKey) :
    ∀ operation ∈ ledger.operations.rows, 0 ≤ reservedShare key operation := by
  intro operation member
  unfold reservedShare
  split
  · exact Int.le_trans (by decide) (settleable.recorded operation member).reserved
  · exact le_refl 0

theorem Settleable.consumedShare_nonneg {ledger : Ledger} (settleable : Settleable ledger)
    (key : QuotaKey) :
    ∀ operation ∈ ledger.operations.rows, 0 ≤ consumedShare key operation := by
  intro operation member
  unfold consumedShare
  split
  · exact (settleable.recorded operation member).used
  · exact le_refl 0

theorem total_overrunShare_eq_zero {ledger : Ledger} (noOverrun : NoOverrun ledger)
    (key : QuotaKey) : ledger.operations.total (overrunShare key) = 0 := by
  refine Table.total_zero fun operation member => ?_
  unfold overrunShare overrunOf
  split
  · have fits := noOverrun operation member
    omega
  · rfl

theorem Settleable.nonnegative {ledger : Ledger} (settleable : Settleable ledger)
    {row : ApiClientQuotaUsage} (member : row ∈ ledger.quotas.rows) :
    0 ≤ row.requestCount ∧ 0 ≤ row.tokenReserved ∧ 0 ≤ row.tokenConsumed := by
  have counted := settleable.conserved.counted row member
  simp only [tallyOfRow, impliedTally, Tally.mk.injEq] at counted
  obtain ⟨requests, reserved, consumed⟩ := counted
  rw [requests, reserved, consumed]
  refine ⟨Table.total_nonneg fun operation _ => ?_,
    Table.total_nonneg (settleable.reservedShare_nonneg row.key),
    Table.total_nonneg (settleable.consumedShare_nonneg row.key)⟩
  unfold requestShare
  split
  · decide
  · exact le_refl 0

theorem Settleable.bounded {ledger : Ledger} (settleable : Settleable ledger)
    (noOverrun : NoOverrun ledger) {row : ApiClientQuotaUsage}
    (member : row ∈ ledger.quotas.rows) :
    row.tokenConsumed + row.tokenReserved ≤ signedBigintMax := by
  have bound := settleable.below row member signedBigintMax rfl
  rwa [total_overrunShare_eq_zero noOverrun, add_zero] at bound

theorem Settleable.countersFit {ledger : Ledger} (settleable : Settleable ledger)
    (noOverrun : NoOverrun ledger) : ∀ row ∈ ledger.quotas.rows, CountersFit row := by
  intro row member
  obtain ⟨_, reserved, consumed⟩ := settleable.nonnegative member
  have bound := settleable.bounded noOverrun member
  refine ⟨⟨reserved, ?_⟩, ⟨consumed, ?_⟩⟩
  · omega
  · omega

/-- A row that counts a pending operation holds its reservation. -/
theorem Settleable.holds {ledger : Ledger} (settleable : Settleable ledger)
    {operation : ApiCallOperation} (member : operation ∈ ledger.operations.rows)
    (pending : operation.status = .pending) {row : ApiClientQuotaUsage}
    (rowMember : row ∈ ledger.quotas.rows) (counts : CountedUnder row.key operation) :
    operation.reservedTokens ≤ row.tokenReserved := by
  have counted := settleable.conserved.counted row rowMember
  simp only [tallyOfRow, impliedTally, Tally.mk.injEq] at counted
  have share : reservedShare row.key operation = operation.reservedTokens := if_pos ⟨counts, pending⟩
  rw [counted.2.1, ← share]
  exact Table.column_le_total (settleable.reservedShare_nonneg row.key) member

/-! ## Guards -/

theorem insertEvent_error {ledger : Ledger} {event : ApiCallEvent} {failure : LedgerError}
    (refused : insertEvent ledger event = .error failure) :
    ∃ constraint, failure = .integrityError constraint := by
  simp only [insertEvent, bind_error_iff, require_error_iff, pure, Except.pure] at refused
  rcases refused with ⟨_, rfl⟩ | ⟨_, _, ⟨_, rfl⟩ | ⟨_, _, ⟨_, rfl⟩ | ⟨_, _, impossible⟩⟩⟩
  · exact ⟨_, rfl⟩
  · exact ⟨_, rfl⟩
  · exact ⟨_, rfl⟩
  · cases impossible

/-- The guards of the counter loop pass on a row that counts the operation. -/
theorem Settleable.guards {ledger : Ledger} (settleable : Settleable ledger)
    (noOverrun : NoOverrun ledger) {operation : ApiCallOperation}
    (member : operation ∈ ledger.operations.rows) (pending : operation.status = .pending)
    (scope : QuotaScope) :
    ∃ row, ledger.quotas.find? (operation.quotaKey scope) = some row ∧
      operation.reservedTokens ≤ row.tokenReserved ∧
      row.tokenConsumed + operation.totalTokens ≤ signedBigintMax := by
  obtain ⟨row, found⟩ := Option.isSome_iff_exists.mp
    (settleable.conserved.covered operation member scope)
  have sameKey : row.key = operation.quotaKey scope := Table.key_of_find? found
  have counts : CountedUnder row.key operation := by
    rw [sameKey, CountedUnder, ApiCallOperation.quotaKey_scope]
  have rowMember := Table.mem_of_find? found
  have held := settleable.holds member pending rowMember counts
  have bound := settleable.bounded noOverrun rowMember
  have used := noOverrun operation member
  exact ⟨row, found, held, by omega⟩

/-- Finalization of a pending operation whose guards pass is the insertion of
its event. -/
theorem terminalize_error {ledger : Ledger} {eventId : String} {operation : ApiCallOperation}
    {rows : QuotaRows} {terminal : OperationTerminal} {failure : LedgerError}
    (ordered : operation.startedAt ≤ terminal.completedAt)
    (daily : operation.reservedTokens ≤ rows.daily.tokenReserved ∧
      rows.daily.tokenConsumed + operation.totalTokens ≤ signedBigintMax)
    (lifetime : operation.reservedTokens ≤ rows.lifetime.tokenReserved ∧
      rows.lifetime.tokenConsumed + operation.totalTokens ≤ signedBigintMax)
    (failed : terminalize ledger eventId operation rows terminal = .error failure) :
    ∃ constraint, failure = .integrityError constraint := by
  have first : checkFinalizeRow operation rows.daily = .ok () := checkFinalizeRow_ok_iff.mpr daily
  have second : checkFinalizeRow operation rows.lifetime = .ok () :=
    checkFinalizeRow_ok_iff.mpr lifetime
  simp only [terminalize, require, ordered, ↓reduceIte, first, second, ok_bind, bind_error_iff,
    pure, Except.pure] at failed
  rcases failed with refused | ⟨_, _, impossible⟩
  · exact insertEvent_error refused
  · cases impossible

/-- A pending operation that is found with both its rows is terminalized. -/
theorem finalizeOperation_of_pending {ledger : Ledger} {eventId : String}
    {operation : ApiCallOperation} {rows : QuotaRows} {terminal : OperationTerminal}
    (found : ledger.operations.find? operation.id = some operation)
    (pending : operation.status = .pending) (started : 0 ≤ operation.startedAt)
    (daily : ledger.quotas.find? (operation.quotaKey .daily) = some rows.daily)
    (lifetime : ledger.quotas.find? (operation.quotaKey .lifetime) = some rows.lifetime) :
    finalizeOperation ledger operation.id eventId terminal =
      terminalize ledger eventId operation rows terminal := by
  have day : utcDayStart operation.startedAt = .ok (dayStart operation.startedAt) :=
    utcDayStart_ok_iff.mpr ⟨started, rfl⟩
  have locked : lockedQuotaRows ledger operation.apiClientId (dayStart operation.startedAt) =
      .ok rows := lockedQuotaRows_ok_iff.mpr ⟨daily, lifetime⟩
  simp only [finalizeOperation, found, day, locked, ok_bind]
  exact if_neg (not_not.mpr pending)

/-- No event names a pending operation. -/
theorem Conserved.pending_unnamed {ledger : Ledger} (conserved : Conserved ledger)
    {operation : ApiCallOperation} (member : operation ∈ ledger.operations.rows)
    (pending : operation.status = .pending) :
    ∀ event ∈ ledger.events.rows, event.operationId ≠ some operation.id := by
  have evidence := conserved.evidence operation member
  rw [if_pos pending, evidenceCount_eq_length] at evidence
  have none : evidenceOf ledger operation.id = [] :=
    List.length_eq_zero_iff.mp (by exact_mod_cast evidence)
  intro event eventMember named
  exact List.filter_eq_nil_iff.mp none event eventMember (decide_eq_true named)

theorem noOverrun_finalize {ledger : Ledger} (noOverrun : NoOverrun ledger)
    (operationId eventId : String) (terminal : OperationTerminal) :
    NoOverrun (LedgerCall.apply ledger (.finalize operationId eventId terminal)) := by
  unfold LedgerCall.apply
  split
  · rename_i after committed
    obtain ⟨snapshot, result⟩ := snd_map_ok committed
    obtain ⟨operation, rows, _, _, _, _, outcome⟩ := finalizeOperation_ok_iff.mp result
    rcases outcome with ⟨_, _, _, _, _, _, rfl⟩ | ⟨_, _, rfl⟩
    · exact noOverrun
    · intro row member
      obtain ⟨old, oldMember, rowEq⟩ :=
        (Table.mem_modify (terminalOperation_id terminal)).mp member
      have fits := noOverrun old oldMember
      rw [rowEq]
      split
      · exact fits
      · exact fits
  · exact noOverrun

/-- **Finalization never gets stuck.** In every reachable ledger in which no
recorded total exceeds its reservation, both rows of a pending operation exist
and pass the guards of the counter loop, finalization fails only when the event
table refuses an identifier that was used before, and every token counter is
between 0 and `2**63 - 1` before and after. -/
theorem finalization_never_stuck (calls : List LedgerCall)
    (noOverrun : ∀ operation ∈ (run Ledger.empty calls).operations.rows,
      operation.totalTokens ≤ operation.reservedTokens)
    (operation : ApiCallOperation) (member : operation ∈ (run Ledger.empty calls).operations.rows)
    (pending : operation.status = .pending) (eventId : String) (terminal : OperationTerminal)
    (ordered : operation.startedAt ≤ terminal.completedAt) :
    (∀ scope, ∃ row,
      (run Ledger.empty calls).quotas.find? (operation.quotaKey scope) = some row ∧
        operation.reservedTokens ≤ row.tokenReserved ∧
        row.tokenConsumed + operation.totalTokens ≤ signedBigintMax) ∧
    (∀ failure,
      finalizeOperation (run Ledger.empty calls) operation.id eventId terminal = .error failure →
        ∃ constraint, failure = .integrityError constraint) ∧
    (((run Ledger.empty calls).events.find? eventId = none ∧
        ∀ event ∈ (run Ledger.empty calls).events.rows,
          event.serverRequestId ≠ terminal.serverRequestId) →
      ∃ result, finalizeOperation (run Ledger.empty calls) operation.id eventId terminal =
        .ok result) ∧
    (∀ row ∈ (run Ledger.empty calls).quotas.rows, CountersFit row) ∧
    ∀ row ∈ (LedgerCall.apply (run Ledger.empty calls)
      (.finalize operation.id eventId terminal)).quotas.rows, CountersFit row := by
  have settleable := settleable_reachable calls
  have guards := settleable.guards noOverrun member pending
  obtain ⟨daily, dailyFound, dailyGuard⟩ := guards .daily
  obtain ⟨lifetime, lifetimeFound, lifetimeGuard⟩ := guards .lifetime
  have terminalized := fun eventId => @finalizeOperation_of_pending _ eventId _ ⟨daily, lifetime⟩
    terminal (Table.find?_of_mem member) pending (settleable.recorded operation member).started
    dailyFound lifetimeFound
  refine ⟨guards, ?_, ?_, settleable.countersFit noOverrun,
    (settleable.apply _).countersFit (noOverrun_finalize noOverrun _ _ _)⟩
  · intro failure failed
    rw [terminalized] at failed
    exact terminalize_error ordered dailyGuard lifetimeGuard failed
  · rintro ⟨newEvent, newServerRequest⟩
    have noEvidence := settleable.conserved.pending_unnamed member pending
    exact ⟨_, finalizeOperation_ok_iff.mpr ⟨operation, ⟨daily, lifetime⟩,
      Table.find?_of_mem member, (settleable.recorded operation member).started, dailyFound,
      lifetimeFound, Or.inr ⟨⟨pending, ordered, dailyFound, lifetimeFound, dailyGuard,
        lifetimeGuard, newEvent, newServerRequest, noEvidence⟩, rfl, rfl⟩⟩⟩

def sampleTerminalFields : TerminalFields where
  status := .abandoned
  outcome := .abandoned
  stage := .recovery
  httpStatus := 503
  businessCode := "RECOVERY_ABANDONED"
  retryable := true
  durationMs := 1000
  chargedMicro := 0
  qpsObserved := 0
  concurrencyObserved := 0
  serverRequestId := "server"
  remoteIpHash := none
  userAgentFamily := none
  completedAt := 86401

def sampleTerminal : OperationTerminal := ⟨sampleTerminalFields, by decide⟩

/-- One reservation of 60 tokens. -/
def sampleReserved : List LedgerCall :=
  [.reserve sampleCallers (sampleReservation "first" "request-number-one")]

theorem finalization_never_stuck_sample :
    ∃ result, finalizeOperation (run Ledger.empty sampleReserved) "first" "event" sampleTerminal =
      .ok result := by
  have stored : (run Ledger.empty sampleReserved).operations.rows =
      [pendingOperation (sampleReservation "first" "request-number-one")] := by decide
  have noEvents : (run Ledger.empty sampleReserved).events.rows = [] := by decide
  have stuck := finalization_never_stuck sampleReserved
    (by rw [stored]; decide) (pendingOperation (sampleReservation "first" "request-number-one"))
    (by rw [stored]; exact List.mem_singleton_self _) rfl "event" sampleTerminal (by decide)
  refine stuck.2.2.1 ⟨?_, ?_⟩
  · rw [Table.find?_none_iff, noEvents]
    exact List.forall_mem_nil _
  · rw [noEvents]
    exact List.forall_mem_nil _

end Zangpu.Services.Quota
