import Zangpu.Services.Quota

/-!
What each ledger transaction can do.

Owns: the total ledger updates behind a reservation and a finalization, and one
inversion law per transaction, which names the guards that passed and the exact
ledger it returned. Later modules use these laws and unfold no transaction.

Does not own: any invariant.
-/

set_option autoImplicit false

namespace Zangpu.Services.Quota

open Zangpu.Foundation
open Zangpu.Models

/-! ## Guards -/

theorem checkQuotaLimit_ok_iff {row : ApiClientQuotaUsage} {requestLimit tokenLimit : Option Int}
    {reservedTokens : Int} {requestCode usageLimitCode : QuotaAdmissionCode} {result : Unit} :
    checkQuotaLimit row requestLimit tokenLimit reservedTokens requestCode usageLimitCode =
        .ok result ↔
      (∀ limit ∈ requestLimit, row.requestCount + 1 ≤ limit) ∧
        (∀ limit ∈ tokenLimit, row.tokenConsumed + row.tokenReserved + reservedTokens ≤ limit) ∧
        row.tokenConsumed + row.tokenReserved + reservedTokens ≤ signedBigintMax := by
  simp only [checkQuotaLimit, bind_ok_iff, require_ok_iff, exists_and_left, exists_const]

theorem checkFinalizeRow_ok_iff {operation : ApiCallOperation} {row : ApiClientQuotaUsage}
    {result : Unit} :
    checkFinalizeRow operation row = .ok result ↔
      operation.reservedTokens ≤ row.tokenReserved ∧
        row.tokenConsumed + operation.totalTokens ≤ signedBigintMax := by
  simp [checkFinalizeRow]

theorem utcDayStart_ok_iff {timestamp day : Int} :
    utcDayStart timestamp = .ok day ↔ 0 ≤ timestamp ∧ day = dayStart timestamp := by
  simp only [utcDayStart, bind_ok_iff, require_ok_iff, pure, Except.pure, Except.ok.injEq,
    exists_and_left, exists_const]
  exact and_congr_right fun _ => eq_comm

theorem lockedQuotaRows_ok_iff {ledger : Ledger} {apiClientId : String} {periodStart : Int}
    {rows : QuotaRows} :
    lockedQuotaRows ledger apiClientId periodStart = .ok rows ↔
      ledger.quotas.find? ⟨apiClientId, .daily, periodStart⟩ = some rows.daily ∧
        ledger.quotas.find? ⟨apiClientId, .lifetime, 0⟩ = some rows.lifetime := by
  unfold lockedQuotaRows
  split
  · rename_i daily lifetime dailyFound lifetimeFound
    rw [dailyFound, lifetimeFound]
    constructor
    · intro equal
      cases equal
      exact ⟨rfl, rfl⟩
    · rintro ⟨sameDaily, sameLifetime⟩
      cases sameDaily
      cases sameLifetime
      rfl
  · rename_i missing
    constructor
    · intro equal
      cases equal
    · rintro ⟨dailyFound, lifetimeFound⟩
      exact absurd lifetimeFound (missing _ _ dailyFound)

theorem insertQuotaRowIfMissing_ok {ledger after : Ledger} {rowId : String} {key : QuotaKey}
    {now : Int} (inserted : insertQuotaRowIfMissing ledger rowId key now = .ok after) :
    scopePeriodCheck key ∧
      after = { ledger with quotas := ledger.quotas.insertNew (freshQuotaRow rowId key now) } := by
  simp only [insertQuotaRowIfMissing, bind_ok_iff, require_ok_iff, pure, Except.pure,
    Except.ok.injEq] at inserted
  obtain ⟨_, check, _, _, rfl⟩ := inserted
  exact ⟨check, rfl⟩

/-! ## Reservation -/

/-- The ledger after both quota rows of a request were offered. -/
def preparedLedger (ledger : Ledger) (request : ReserveRequest) : Ledger :=
  { ledger with
    quotas := (ledger.quotas.insertNew
        (freshQuotaRow request.dailyRowId
          ⟨request.apiClientId, .daily, dayStart request.now⟩ request.now)).insertNew
      (freshQuotaRow request.lifetimeRowId ⟨request.apiClientId, .lifetime, 0⟩ request.now) }

/-- The ledger after an admitted reservation. -/
def reservedLedger (ledger : Ledger) (request : ReserveRequest) : Ledger :=
  { reserveQuotaRows (preparedLedger ledger request) request.apiClientId (dayStart request.now)
      request.reservedTokens request.now with
    operations := ledger.operations.insertNew (pendingOperation request) }

/-- The guards an admitted reservation passed. -/
structure Admitted (callers : Callers) (ledger : Ledger) (request : ReserveRequest)
    (client : ApiClient) (rows : QuotaRows) : Prop where
  validated : request.validate = .ok ()
  caller : request.admittedClient callers = .ok client
  started : 0 ≤ request.now
  dailyCheck : scopePeriodCheck ⟨request.apiClientId, .daily, dayStart request.now⟩
  daily : (preparedLedger ledger request).quotas.find?
    ⟨request.apiClientId, .daily, dayStart request.now⟩ = some rows.daily
  lifetime : (preparedLedger ledger request).quotas.find?
    ⟨request.apiClientId, .lifetime, 0⟩ = some rows.lifetime
  newRequest : ledger.operationByRequest? request.apiClientId request.clientRequestId = none
  newOperation : ledger.operations.find? request.operationId = none
  dailyLimit : checkQuotaLimit rows.daily client.dailyRequestLimit client.dailyTokenLimit
    request.reservedTokens .dailyRequestQuotaExceeded .dailyTokenQuotaExceeded = .ok ()
  lifetimeLimit : checkQuotaLimit rows.lifetime client.totalRequestLimit client.totalTokenLimit
    request.reservedTokens .totalRequestQuotaExceeded .totalTokenQuotaExceeded = .ok ()

theorem reserveOperation_ok {callers : Callers} {ledger after : Ledger}
    {request : ReserveRequest} {reservation : OperationReservation}
    (reserved : reserveOperation callers ledger request = .ok (reservation, after)) :
    ∃ client rows, Admitted callers ledger request client rows ∧
      after = reservedLedger ledger request := by
  simp only [reserveOperation, bind_ok_iff] at reserved
  obtain ⟨_, validated, client, caller, periodStart, day, dailyLedger, dailyInserted,
    bothLedger, bothInserted, rows, locked, rest⟩ := reserved
  obtain ⟨started, rfl⟩ := utcDayStart_ok_iff.mp day
  obtain ⟨dailyCheck, rfl⟩ := insertQuotaRowIfMissing_ok dailyInserted
  obtain ⟨_, rfl⟩ := insertQuotaRowIfMissing_ok bothInserted
  obtain ⟨dailyFound, lifetimeFound⟩ := lockedQuotaRows_ok_iff.mp locked
  split at rest
  · cases rest
  · rename_i newRequest
    simp only [bind_ok_iff, require_ok_iff] at rest
    obtain ⟨_, newOperation, _, dailyLimit, _, lifetimeLimit, returned⟩ := rest
    cases returned
    exact ⟨client, rows,
      ⟨validated, caller, started, dailyCheck, dailyFound, lifetimeFound, newRequest,
        newOperation, dailyLimit, lifetimeLimit⟩, rfl⟩

/-- A request that nothing refuses before the quota checks. The second epoch day
is the first one that a daily row accepts. -/
structure Unrefused (callers : Callers) (ledger : Ledger) (request : ReserveRequest)
    (client : ApiClient) : Prop where
  validated : request.validate = .ok ()
  caller : request.admittedClient callers = .ok client
  secondDay : 86400 ≤ request.now
  newRequest : ledger.operationByRequest? request.apiClientId request.clientRequestId = none
  newOperation : ledger.operations.find? request.operationId = none
  newRows : ∀ row ∈ ledger.quotas.rows,
    row.id ≠ request.dailyRowId ∧ row.id ≠ request.lifetimeRowId
  distinctRows : request.dailyRowId ≠ request.lifetimeRowId

/-- The identifier drawn for the row of a scope. -/
def ReserveRequest.rowId (request : ReserveRequest) : QuotaScope → String
  | .daily => request.dailyRowId
  | .lifetime => request.lifetimeRowId

/-- The row of a scope that a reservation locks: the stored one, else the row
that it offers. -/
def countingRow (ledger : Ledger) (request : ReserveRequest) (scope : QuotaScope) :
    ApiClientQuotaUsage :=
  (ledger.quotas.find? ((pendingOperation request).quotaKey scope)).getD
    (freshQuotaRow (request.rowId scope) ((pendingOperation request).quotaKey scope) request.now)

def countingRows (ledger : Ledger) (request : ReserveRequest) : QuotaRows :=
  ⟨countingRow ledger request .daily, countingRow ledger request .lifetime⟩

/-- The counters that an admitted reservation returns. -/
def reservationOf (ledger : Ledger) (request : ReserveRequest) : OperationReservation :=
  let daily := reserveRow request.reservedTokens request.now (countingRow ledger request .daily)
  let lifetime :=
    reserveRow request.reservedTokens request.now (countingRow ledger request .lifetime)
  ⟨request.operationId, daily.requestCount, daily.tokenConsumed + daily.tokenReserved,
    lifetime.requestCount, lifetime.tokenConsumed + lifetime.tokenReserved⟩

theorem insertQuotaRowIfMissing_eq {ledger : Ledger} {rowId : String} {key : QuotaKey}
    {now : Int} (check : scopePeriodCheck key)
    (fresh : ∀ row ∈ ledger.quotas.rows, row.id ≠ rowId) :
    insertQuotaRowIfMissing ledger rowId key now =
      .ok { ledger with quotas := ledger.quotas.insertNew (freshQuotaRow rowId key now) } := by
  have allowed : (ledger.quotas.find? key).isSome ∨ ∀ row ∈ ledger.quotas.rows, row.id ≠ rowId :=
    Or.inr fresh
  simp only [insertQuotaRowIfMissing, require, check, allowed, ↓reduceIte, ok_bind, pure,
    Except.pure]

theorem lockedQuotaRows_prepared (ledger : Ledger) (request : ReserveRequest) :
    lockedQuotaRows (preparedLedger ledger request) request.apiClientId (dayStart request.now) =
      .ok (countingRows ledger request) := by
  let daily := freshQuotaRow request.dailyRowId
    ⟨request.apiClientId, .daily, dayStart request.now⟩ request.now
  let lifetime := freshQuotaRow request.lifetimeRowId ⟨request.apiClientId, .lifetime, 0⟩
    request.now
  have different : daily.key ≠ lifetime.key := by
    intro equal
    cases congrArg QuotaKey.scope equal
  refine lockedQuotaRows_ok_iff.mpr ⟨?_, ?_⟩
  · have untouched : ((ledger.quotas.insertNew daily).insertNew lifetime).find? daily.key =
        (ledger.quotas.insertNew daily).find? daily.key :=
      Table.find?_insertNew_of_ne different.symm
    exact untouched.trans (Table.find?_insertNew_key ledger.quotas daily)
  · have untouched : (ledger.quotas.insertNew daily).find? lifetime.key =
        ledger.quotas.find? lifetime.key := Table.find?_insertNew_of_ne different
    have stored := Table.find?_insertNew_key (ledger.quotas.insertNew daily) lifetime
    rw [untouched] at stored
    exact stored

namespace Unrefused

variable {callers : Callers} {ledger : Ledger} {request : ReserveRequest} {client : ApiClient}

theorem inserted (unrefused : Unrefused callers ledger request client) :
    (insertQuotaRowIfMissing ledger request.dailyRowId
        ⟨request.apiClientId, .daily, dayStart request.now⟩ request.now >>= fun ledger =>
      insertQuotaRowIfMissing ledger request.lifetimeRowId ⟨request.apiClientId, .lifetime, 0⟩
        request.now) = .ok (preparedLedger ledger request) := by
  have laterDay : 0 < dayStart request.now := by
    have later := unrefused.secondDay
    unfold dayStart
    omega
  rw [insertQuotaRowIfMissing_eq (Or.inl ⟨rfl, laterDay⟩)
    fun row member => (unrefused.newRows row member).1, ok_bind]
  refine insertQuotaRowIfMissing_eq (Or.inr ⟨rfl, rfl⟩) fun row member => ?_
  cases found : ledger.quotas.find?
      (freshQuotaRow request.dailyRowId ⟨request.apiClientId, .daily, dayStart request.now⟩
        request.now).key with
  | none =>
      rcases (Table.mem_insertNew found).mp member with old | equal
      · exact (unrefused.newRows row old).2
      · rw [equal]
        exact unrefused.distinctRows
  | some stored =>
      rw [Table.insertNew_occupied found] at member
      exact (unrefused.newRows row member).2

/-- What an unrefused reservation does is what its two quota checks decide. -/
theorem reserve_eq (unrefused : Unrefused callers ledger request client) :
    reserveOperation callers ledger request = (do
      checkQuotaLimit (countingRow ledger request .daily) client.dailyRequestLimit
        client.dailyTokenLimit request.reservedTokens .dailyRequestQuotaExceeded
        .dailyTokenQuotaExceeded
      checkQuotaLimit (countingRow ledger request .lifetime) client.totalRequestLimit
        client.totalTokenLimit request.reservedTokens .totalRequestQuotaExceeded
        .totalTokenQuotaExceeded
      return (reservationOf ledger request, reservedLedger ledger request)) := by
  have later := unrefused.secondDay
  have day : utcDayStart request.now = .ok (dayStart request.now) :=
    utcDayStart_ok_iff.mpr ⟨by omega, rfl⟩
  have newRequest : (preparedLedger ledger request).operationByRequest? request.apiClientId
      request.clientRequestId = none := unrefused.newRequest
  have newOperation : (preparedLedger ledger request).operations.find? request.operationId =
      none := unrefused.newOperation
  have inserted := unrefused.inserted
  rw [bind_ok_iff] at inserted
  obtain ⟨dailyLedger, dailyInserted, bothInserted⟩ := inserted
  simp only [reserveOperation, unrefused.validated, unrefused.caller, day, dailyInserted,
    bothInserted, lockedQuotaRows_prepared, newRequest, require, newOperation, ↓reduceIte, ok_bind]
  rfl

end Unrefused

/-! ## Pending operations -/

theorem findPendingOperation_ok_iff {ledger : Ledger} {operationId : String}
    {operation : ApiCallOperation} :
    findPendingOperation ledger operationId = .ok operation ↔
      ledger.operations.find? operationId = some operation ∧ operation.status = .pending := by
  unfold findPendingOperation
  split
  · rename_i absent
    simp [absent]
  · rename_i other found
    rw [found]
    split
    · rename_i pending
      constructor
      · intro equal
        cases equal
        exact ⟨rfl, pending⟩
      · rintro ⟨equal, _⟩
        cases equal
        rfl
    · rename_i terminal
      constructor
      · intro equal
        cases equal
      · rintro ⟨equal, pending⟩
        cases equal
        exact absurd pending terminal

theorem recordCreditReservation_ok {ledger after : Ledger}
    {operationId settlementId usageOperationId : String} {now : Int}
    (recorded : recordCreditReservation ledger operationId settlementId usageOperationId now =
      .ok after) :
    ∃ operation, ledger.operations.find? operationId = some operation ∧
      operation.status = .pending ∧
      ((operation.creditSettlementId = some settlementId ∧
          operation.usageOperationId = some usageOperationId ∧ after = ledger) ∨
        (operation.creditSettlementId = none ∧ operation.usageOperationId = none ∧
          after = updateOperation ledger operationId
            (creditRow settlementId usageOperationId now)
            (creditRow_id settlementId usageOperationId now))) := by
  simp only [recordCreditReservation, bind_ok_iff] at recorded
  obtain ⟨operation, found, rest⟩ := recorded
  obtain ⟨found, pending⟩ := findPendingOperation_ok_iff.mp found
  refine ⟨operation, found, pending, ?_⟩
  split at rest
  · simp only [bind_ok_iff, require_ok_iff, pure, Except.pure, Except.ok.injEq] at rest
    obtain ⟨_, ⟨sameSettlement, sameUsage⟩, rfl⟩ := rest
    exact Or.inl ⟨sameSettlement, sameUsage, rfl⟩
  · rename_i unset
    cases rest
    refine Or.inr ⟨?_, ?_, rfl⟩
    · exact not_not.mp fun set => unset (Or.inl set)
    · exact not_not.mp fun set => unset (Or.inr set)

theorem recordProviderUsage_ok_iff {ledger after : Ledger} {operationId : String}
    {promptTokens completionTokens now : Int} :
    recordProviderUsage ledger operationId promptTokens completionTokens now = .ok after ↔
      (0 ≤ promptTokens ∧ 0 ≤ completionTokens) ∧
        promptTokens + completionTokens ≤ signedBigintMax ∧
        ∃ operation, (ledger.operations.find? operationId = some operation ∧
          operation.status = .pending) ∧
          (operation.providerUsageRecorded = false ∨
            (operation.promptTokens, operation.completionTokens, operation.totalTokens) =
              (promptTokens, completionTokens, promptTokens + completionTokens)) ∧
          updateOperation ledger operationId (usageRow promptTokens completionTokens now)
            (usageRow_id promptTokens completionTokens now) = after := by
  simp only [recordProviderUsage, bind_ok_iff, require_ok_iff, findPendingOperation_ok_iff,
    exists_and_left, exists_const, pure, Except.pure, Except.ok.injEq]

theorem touchPendingOperation_ok {ledger after : Ledger} {operationId : String} {now : Int}
    {touched : Bool}
    (result : touchPendingOperation ledger operationId now = .ok (touched, after)) :
    ∃ operation, ledger.operations.find? operationId = some operation ∧
      ((operation.status = .pending ∧ touched = true ∧
          after = updateOperation ledger operationId (touchRow now) (touchRow_id now)) ∨
        (operation.status ≠ .pending ∧ touched = false ∧ after = ledger)) := by
  simp only [touchPendingOperation, bind_ok_iff, require_ok_iff] at result
  obtain ⟨_, _, rest⟩ := result
  split at rest
  · cases rest
  · rename_i operation found
    refine ⟨operation, found, ?_⟩
    split at rest
    · rename_i pending
      cases rest
      exact Or.inl ⟨pending, rfl, rfl⟩
    · rename_i terminal
      cases rest
      exact Or.inr ⟨terminal, rfl, rfl⟩

/-! ## Finalization -/

/-- The ledger after a pending operation was finalized with two given rows. -/
def finalizedLedger (ledger : Ledger) (eventId : String) (operation : ApiCallOperation)
    (rows : QuotaRows) (terminal : OperationTerminal) : Ledger where
  quotas := (finalizeQuotaRows ledger operation terminal.completedAt).quotas
  operations := (markTerminal ledger operation terminal).operations
  events := ledger.events.insertNew (terminalEvent eventId operation
    ⟨finalizeRow operation terminal.completedAt rows.daily,
      finalizeRow operation terminal.completedAt rows.lifetime⟩ terminal)

/-- The guards a finalization of a pending operation passed. -/
structure Finalizable (ledger : Ledger) (eventId : String) (operation : ApiCallOperation)
    (rows : QuotaRows) (terminal : OperationTerminal) : Prop where
  pending : operation.status = .pending
  ordered : operation.startedAt ≤ terminal.completedAt
  daily : ledger.quotas.find? (operation.quotaKey .daily) = some rows.daily
  lifetime : ledger.quotas.find? (operation.quotaKey .lifetime) = some rows.lifetime
  dailyGuard : operation.reservedTokens ≤ rows.daily.tokenReserved ∧
    rows.daily.tokenConsumed + operation.totalTokens ≤ signedBigintMax
  lifetimeGuard : operation.reservedTokens ≤ rows.lifetime.tokenReserved ∧
    rows.lifetime.tokenConsumed + operation.totalTokens ≤ signedBigintMax
  newEvent : ledger.events.find? eventId = none
  newServerRequest : ∀ event ∈ ledger.events.rows,
    event.serverRequestId ≠ terminal.serverRequestId
  noEvidence : ∀ event ∈ ledger.events.rows, event.operationId ≠ some operation.id

/-- A successful finalization found a terminal operation with matching evidence
and changed nothing, or finalized a pending one. -/
theorem finalizeOperation_ok_iff {ledger after : Ledger} {operationId eventId : String}
    {terminal : OperationTerminal} {snapshot : OperationTerminalSnapshot} :
    finalizeOperation ledger operationId eventId terminal = .ok (snapshot, after) ↔
      ∃ operation rows, ledger.operations.find? operationId = some operation ∧
        0 ≤ operation.startedAt ∧
        ledger.quotas.find? (operation.quotaKey .daily) = some rows.daily ∧
        ledger.quotas.find? (operation.quotaKey .lifetime) = some rows.lifetime ∧
        ((operation.status ≠ .pending ∧ ledger.eventByOperation? operation.id ≠ none ∧
            operation.status = terminal.status.toStatus ∧
            operation.terminalHttpStatus = some terminal.httpStatus ∧
            operation.terminalCode = some terminal.businessCode ∧
            snapshot = terminalSnapshot operation rows ∧ after = ledger) ∨
          (Finalizable ledger eventId operation rows terminal ∧
            snapshot = terminalSnapshot operation
              ⟨finalizeRow operation terminal.completedAt rows.daily,
                finalizeRow operation terminal.completedAt rows.lifetime⟩ ∧
            after = finalizedLedger ledger eventId operation rows terminal)) := by
  unfold finalizeOperation
  cases found : ledger.operations.find? operationId with
  | none => simp [throw, throwThe, MonadExceptOf.throw]
  | some operation =>
      simp only [bind_ok_iff, utcDayStart_ok_iff, lockedQuotaRows_ok_iff, Option.some.injEq]
      constructor
      · rintro ⟨_, ⟨started, rfl⟩, rows, ⟨daily, lifetime⟩, rest⟩
        refine ⟨operation, rows, rfl, started, daily, lifetime, ?_⟩
        split at rest
        · rename_i terminalStatus
          simp only [replayTerminal, bind_ok_iff, require_ok_iff, pure, Except.pure,
            Except.ok.injEq, Prod.mk.injEq] at rest
          obtain ⟨_, ⟨evidence, status, httpStatus, code⟩, snapshotEq, ledgerEq⟩ := rest
          exact Or.inl ⟨terminalStatus, evidence, status, httpStatus, code, snapshotEq.symm,
            ledgerEq.symm⟩
        · rename_i pending
          simp only [terminalize, insertEvent, bind_ok_iff, require_ok_iff,
            checkFinalizeRow_ok_iff, pure, Except.pure, Except.ok.injEq, Prod.mk.injEq] at rest
          obtain ⟨_, ordered, _, dailyGuard, _, lifetimeGuard, _, ⟨_, newEvent, _, newServer, _,
            noEvidence, rfl⟩, rfl, rfl⟩ := rest
          exact Or.inr ⟨⟨not_not.mp pending, ordered, daily, lifetime, dailyGuard, lifetimeGuard,
            newEvent, newServer, noEvidence⟩, rfl, rfl⟩
      · rintro ⟨_, rows, rfl, started, daily, lifetime, outcome⟩
        refine ⟨_, ⟨started, rfl⟩, rows, ⟨daily, lifetime⟩, ?_⟩
        rcases outcome with ⟨terminalStatus, evidence, status, httpStatus, code, rfl, rfl⟩ |
          ⟨guards, rfl, rfl⟩
        · rw [if_pos terminalStatus]
          simp [replayTerminal, evidence, status, httpStatus, code, pure, Except.pure]
        · rw [if_neg (not_not.mpr guards.pending)]
          simp only [terminalize, insertEvent, bind_ok_iff, require_ok_iff,
            checkFinalizeRow_ok_iff, pure, Except.pure, Except.ok.injEq, Prod.mk.injEq]
          exact ⟨(), guards.ordered, (), guards.dailyGuard, (), guards.lifetimeGuard, _,
            ⟨(), guards.newEvent, (), guards.newServerRequest, (), guards.noEvidence, rfl⟩,
            trivial, rfl⟩

end Zangpu.Services.Quota
