import Zangpu.Foundation.Outcome
import Zangpu.Models.Callers
import Zangpu.Models.Ledger

/-!
The quota ledger service.

Owns: the five ledger transactions `reserve_operation`,
`record_credit_reservation`, `record_provider_usage`, `touch_pending_operation`
and `finalize_operation` as functions from a ledger to a ledger or an error;
their argument validation, the caller checks, the quota limit checks and the
terminal record with its own validity.

Does not own: row locks, which the transactions take on PostgreSQL, and the
commit or rollback around them. An error result leaves no new ledger, which is
the rollback. Row identifiers drawn by `new_uuid` are arguments.
-/

set_option autoImplicit false

namespace Zangpu.Services.Quota

open Zangpu.Foundation
open Zangpu.Models

/-- `2**63 - 1`. -/
def signedBigintMax : Int := 9223372036854775807

inductive QuotaAdmissionCode where
  | clientDisabled
  | credentialRevoked
  | credentialExpired
  | endpointForbidden
  | modelForbidden
  | requestIdConflict
  | requestInProgress
  | requestAlreadyCompleted
  | dailyRequestQuotaExceeded
  | dailyTokenQuotaExceeded
  | totalRequestQuotaExceeded
  | totalTokenQuotaExceeded
  deriving DecidableEq, Repr

/-- What a ledger transaction can raise. `integrityError` is the database
refusing a row by the named constraint. -/
inductive LedgerError where
  | quotaAdmission (code : QuotaAdmissionCode) (operationId : Option String)
  | quotaState (message : String)
  | valueError (message : String)
  | integrityError (constraint : String)
  deriving DecidableEq, Repr

/-! ## Arguments -/

def isRequestIdCharacter (character : Char) : Bool :=
  character.isAlphanum || character = '_' || character = '-'

/-- `^[A-Za-z0-9_-]{16,64}$`, matched in full. -/
def matchesRequestId (text : String) : Bool :=
  16 ≤ text.toList.length && text.toList.length ≤ 64 && text.toList.all isRequestIdCharacter

def isHexDigit (character : Char) : Bool :=
  character.isDigit || ('a' ≤ character && character ≤ 'f')

/-- `^[0-9a-f]{64}$`, matched in full. -/
def matchesFingerprint (text : String) : Bool :=
  text.toList.length = 64 && text.toList.all isHexDigit

structure ReserveRequest where
  apiClientId : String
  credentialId : String
  operationId : String
  clientRequestId : String
  requestFingerprint : String
  modelId : String
  stream : Bool
  reservedTokens : Int
  now : Int
  dailyRowId : String
  lifetimeRowId : String
  deriving DecidableEq, Repr

namespace ReserveRequest

def validate (request : ReserveRequest) : Except LedgerError Unit := do
  require (matchesRequestId request.clientRequestId)
    (.valueError "client request ID is invalid")
  require (matchesFingerprint request.requestFingerprint)
    (.valueError "request fingerprint is invalid")
  require (request.modelId ≠ "" ∧ request.modelId.toList.length ≤ 255)
    (.valueError "model ID is invalid")
  require (1 ≤ request.reservedTokens ∧ request.reservedTokens ≤ signedBigintMax)
    (.valueError "reserved tokens are invalid")

/-- The caller, credential and permission checks; the admitted client. -/
def admittedClient (request : ReserveRequest) (callers : Callers) :
    Except LedgerError ApiClient := do
  match callers.clients.find? request.apiClientId,
      callers.credentials.find? request.credentialId with
  | some client, some credential =>
      require (credential.apiClientId = request.apiClientId)
        (.quotaState "caller state is unavailable")
      require (client.status = .active) (.quotaAdmission .clientDisabled none)
      require (credential.status = .active) (.quotaAdmission .credentialRevoked none)
      require (∀ expiry ∈ credential.expiresAt, request.now < expiry)
        (.quotaAdmission .credentialExpired none)
      require ("chat.completions" ∈ client.allowedEndpoints)
        (.quotaAdmission .endpointForbidden none)
      require (request.modelId ∈ client.allowedModels)
        (.quotaAdmission .modelForbidden none)
      return client
  | _, _ => throw (.quotaState "caller state is unavailable")

end ReserveRequest

/-! ## Quota rows -/

def utcDayStart (timestamp : Int) : Except LedgerError Int := do
  require (0 ≤ timestamp) (.valueError "timestamp must be nonnegative")
  return dayStart timestamp

/-- The row that `_insert_quota_row_if_missing` offers to the database. -/
def freshQuotaRow (rowId : String) (key : QuotaKey) (now : Int) : ApiClientQuotaUsage where
  id := rowId
  apiClientId := key.apiClientId
  scope := key.scope
  periodStart := key.periodStart
  requestCount := 0
  tokenReserved := 0
  tokenConsumed := 0
  version := 1
  updatedAt := now

/-- The check constraint on the scope and the period start of a quota row. -/
def scopePeriodCheck (key : QuotaKey) : Prop :=
  (key.scope = .daily ∧ 0 < key.periodStart) ∨ (key.scope = .lifetime ∧ key.periodStart = 0)

instance (key : QuotaKey) : Decidable (scopePeriodCheck key) :=
  inferInstanceAs (Decidable (_ ∨ _))

/-- `INSERT … ON CONFLICT DO NOTHING` on the unique quota key. The check
constraint is tested on the offered row, conflict or not. -/
def insertQuotaRowIfMissing (ledger : Ledger) (rowId : String) (key : QuotaKey) (now : Int) :
    Except LedgerError Ledger := do
  require (scopePeriodCheck key) (.integrityError "ck_api_client_quota_usage_scope_period")
  require ((ledger.quotas.find? key).isSome ∨ ∀ row ∈ ledger.quotas.rows, row.id ≠ rowId)
    (.integrityError "pk_api_client_quota_usage")
  return { ledger with quotas := ledger.quotas.insertNew (freshQuotaRow rowId key now) }

/-- The two locked counter rows of an operation. -/
structure QuotaRows where
  daily : ApiClientQuotaUsage
  lifetime : ApiClientQuotaUsage
  deriving DecidableEq, Repr

def lockedQuotaRows (ledger : Ledger) (apiClientId : String) (periodStart : Int) :
    Except LedgerError QuotaRows :=
  match ledger.quotas.find? ⟨apiClientId, .daily, periodStart⟩,
      ledger.quotas.find? ⟨apiClientId, .lifetime, 0⟩ with
  | some daily, some lifetime => .ok ⟨daily, lifetime⟩
  | _, _ => .error (.quotaState "quota rows are unavailable")

def existingOperationError (operation : ApiCallOperation) (requestFingerprint : String) :
    LedgerError :=
  .quotaAdmission
    (if operation.requestFingerprint ≠ requestFingerprint then .requestIdConflict
      else if operation.status = .pending then .requestInProgress
      else .requestAlreadyCompleted)
    (some operation.id)

def checkQuotaLimit (row : ApiClientQuotaUsage) (requestLimit tokenLimit : Option Int)
    (reservedTokens : Int) (requestCode usageLimitCode : QuotaAdmissionCode) :
    Except LedgerError Unit := do
  require (∀ limit ∈ requestLimit, row.requestCount + 1 ≤ limit)
    (.quotaAdmission requestCode none)
  let projectedTokens := row.tokenConsumed + row.tokenReserved + reservedTokens
  require (∀ limit ∈ tokenLimit, projectedTokens ≤ limit)
    (.quotaAdmission usageLimitCode none)
  require (projectedTokens ≤ signedBigintMax)
    (.quotaState "quota token counter would overflow")

/-! ## Reservation -/

structure OperationReservation where
  operationId : String
  dailyRequestsAfter : Int
  dailyTokensReservedAfter : Int
  totalRequestsAfter : Int
  totalTokensReservedAfter : Int
  deriving DecidableEq, Repr

def reserveRow (reservedTokens now : Int) (row : ApiClientQuotaUsage) : ApiClientQuotaUsage :=
  { row with
    requestCount := row.requestCount + 1
    tokenReserved := row.tokenReserved + reservedTokens
    version := row.version + 1
    updatedAt := now }

theorem reserveRow_key (reservedTokens now : Int) (row : ApiClientQuotaUsage) :
    (reserveRow reservedTokens now row).key = row.key := rfl

/-- Apply one row update to the daily and the lifetime row of an operation. -/
def updateQuotaRows (ledger : Ledger) (apiClientId : String) (periodStart : Int)
    (change : ApiClientQuotaUsage → ApiClientQuotaUsage)
    (keeps : ∀ row, (change row).key = row.key) : Ledger :=
  { ledger with
    quotas := (ledger.quotas.modify ⟨apiClientId, .daily, periodStart⟩ change keeps).modify
      ⟨apiClientId, .lifetime, 0⟩ change keeps }

/-- Count one reservation on the daily and the lifetime row. -/
def reserveQuotaRows (ledger : Ledger) (apiClientId : String)
    (periodStart reservedTokens now : Int) : Ledger :=
  updateQuotaRows ledger apiClientId periodStart (reserveRow reservedTokens now)
    (reserveRow_key reservedTokens now)

def pendingOperation (request : ReserveRequest) : ApiCallOperation where
  id := request.operationId
  apiClientId := request.apiClientId
  credentialId := request.credentialId
  clientRequestId := request.clientRequestId
  requestFingerprint := request.requestFingerprint
  endpoint := "chat.completions"
  method := "POST"
  modelId := request.modelId
  stream := request.stream
  status := .pending
  reservedTokens := request.reservedTokens
  promptTokens := 0
  completionTokens := 0
  totalTokens := 0
  providerUsageRecorded := false
  creditSettlementId := none
  usageOperationId := none
  terminalHttpStatus := none
  terminalCode := none
  startedAt := request.now
  completedAt := none
  updatedAt := request.now

def reserveOperation (callers : Callers) (ledger : Ledger) (request : ReserveRequest) :
    Except LedgerError (OperationReservation × Ledger) := do
  request.validate
  let client ← request.admittedClient callers
  let periodStart ← utcDayStart request.now
  let ledger ← insertQuotaRowIfMissing ledger request.dailyRowId
    ⟨request.apiClientId, .daily, periodStart⟩ request.now
  let ledger ← insertQuotaRowIfMissing ledger request.lifetimeRowId
    ⟨request.apiClientId, .lifetime, 0⟩ request.now
  let rows ← lockedQuotaRows ledger request.apiClientId periodStart
  match ledger.operationByRequest? request.apiClientId request.clientRequestId with
  | some existing => throw (existingOperationError existing request.requestFingerprint)
  | none =>
      require (ledger.operations.find? request.operationId = none)
        (.quotaState "operation ID already exists")
      checkQuotaLimit rows.daily client.dailyRequestLimit client.dailyTokenLimit
        request.reservedTokens .dailyRequestQuotaExceeded .dailyTokenQuotaExceeded
      checkQuotaLimit rows.lifetime client.totalRequestLimit client.totalTokenLimit
        request.reservedTokens .totalRequestQuotaExceeded .totalTokenQuotaExceeded
      let daily := reserveRow request.reservedTokens request.now rows.daily
      let lifetime := reserveRow request.reservedTokens request.now rows.lifetime
      let ledger := reserveQuotaRows ledger request.apiClientId periodStart
        request.reservedTokens request.now
      return (⟨request.operationId, daily.requestCount, daily.tokenConsumed + daily.tokenReserved,
          lifetime.requestCount, lifetime.tokenConsumed + lifetime.tokenReserved⟩,
        { ledger with operations := ledger.operations.insertNew (pendingOperation request) })

/-! ## Pending operations -/

/-- `_pending_operation`: the locked row, refused once terminal. -/
def findPendingOperation (ledger : Ledger) (operationId : String) :
    Except LedgerError ApiCallOperation :=
  match ledger.operations.find? operationId with
  | none => .error (.quotaState "operation is unavailable")
  | some operation =>
      if operation.status = .pending then .ok operation
      else .error (.quotaState "operation is already terminal")

/-- Rewrite one operation row, keeping its identifier. -/
def updateOperation (ledger : Ledger) (operationId : String)
    (change : ApiCallOperation → ApiCallOperation) (keeps : ∀ row, (change row).id = row.id) :
    Ledger :=
  { ledger with operations := ledger.operations.modify operationId change keeps }

/-- The row written by `record_credit_reservation`. -/
def creditRow (settlementId usageOperationId : String) (now : Int) (row : ApiCallOperation) :
    ApiCallOperation :=
  { row with
    creditSettlementId := some settlementId
    usageOperationId := some usageOperationId
    updatedAt := now }

theorem creditRow_id (settlementId usageOperationId : String) (now : Int)
    (row : ApiCallOperation) : (creditRow settlementId usageOperationId now row).id = row.id := rfl

def recordCreditReservation (ledger : Ledger)
    (operationId settlementId usageOperationId : String) (now : Int) :
    Except LedgerError Ledger := do
  let operation ← findPendingOperation ledger operationId
  if operation.creditSettlementId ≠ none ∨ operation.usageOperationId ≠ none then
    require (operation.creditSettlementId = some settlementId ∧
        operation.usageOperationId = some usageOperationId)
      (.quotaState "operation credit reservation conflicts")
    return ledger
  else
    return updateOperation ledger operationId (creditRow settlementId usageOperationId now)
      (creditRow_id settlementId usageOperationId now)

/-- The row written by `record_provider_usage`. -/
def usageRow (promptTokens completionTokens now : Int) (row : ApiCallOperation) :
    ApiCallOperation :=
  { row with
    promptTokens := promptTokens
    completionTokens := completionTokens
    totalTokens := promptTokens + completionTokens
    providerUsageRecorded := true
    updatedAt := now }

theorem usageRow_id (promptTokens completionTokens now : Int) (row : ApiCallOperation) :
    (usageRow promptTokens completionTokens now row).id = row.id := rfl

def recordProviderUsage (ledger : Ledger) (operationId : String)
    (promptTokens completionTokens now : Int) : Except LedgerError Ledger := do
  require (0 ≤ promptTokens ∧ 0 ≤ completionTokens)
    (.valueError "provider usage must be nonnegative")
  let totalTokens := promptTokens + completionTokens
  require (totalTokens ≤ signedBigintMax) (.valueError "provider usage is too large")
  let operation ← findPendingOperation ledger operationId
  require (operation.providerUsageRecorded = false ∨
      (operation.promptTokens, operation.completionTokens, operation.totalTokens) =
        (promptTokens, completionTokens, totalTokens))
    (.quotaState "provider usage conflicts")
  return updateOperation ledger operationId (usageRow promptTokens completionTokens now)
    (usageRow_id promptTokens completionTokens now)

/-- The row written by `touch_pending_operation`. -/
def touchRow (now : Int) (row : ApiCallOperation) : ApiCallOperation :=
  { row with updatedAt := max row.updatedAt now }

theorem touchRow_id (now : Int) (row : ApiCallOperation) : (touchRow now row).id = row.id := rfl

def touchPendingOperation (ledger : Ledger) (operationId : String) (now : Int) :
    Except LedgerError (Bool × Ledger) := do
  require (0 ≤ now) (.valueError "operation heartbeat time is invalid")
  match ledger.operations.find? operationId with
  | none => throw (.quotaState "operation is unavailable")
  | some operation =>
      if operation.status = .pending then
        return (true, updateOperation ledger operationId (touchRow now) (touchRow_id now))
      else return (false, ledger)

/-! ## Terminal record -/

inductive TerminalStatus where
  | completed
  | rejected
  | abandoned
  deriving DecidableEq, Repr

def TerminalStatus.toStatus : TerminalStatus → OperationStatus
  | .completed => .completed
  | .rejected => .rejected
  | .abandoned => .abandoned

structure TerminalFields where
  status : TerminalStatus
  outcome : EventOutcome
  stage : EventStage
  httpStatus : Int
  businessCode : String
  retryable : Bool
  durationMs : Int
  chargedMicro : Int
  qpsObserved : Int
  concurrencyObserved : Int
  serverRequestId : String
  remoteIpHash : Option String
  userAgentFamily : Option String
  completedAt : Int
  deriving DecidableEq, Repr

/-- `__post_init__`; the outcome and the stage are valid by their types. -/
def TerminalFields.postInit (fields : TerminalFields) : Except LedgerError Unit := do
  require (100 ≤ fields.httpStatus ∧ fields.httpStatus ≤ 599)
    (.valueError "terminal HTTP status is invalid")
  require (fields.businessCode ≠ "" ∧ fields.businessCode.toList.length ≤ 64)
    (.valueError "terminal business code is invalid")
  require (0 ≤ fields.durationMs ∧ fields.durationMs ≤ signedBigintMax)
    (.valueError "terminal duration is invalid")
  require (0 ≤ fields.chargedMicro ∧ 0 ≤ fields.qpsObserved ∧ 0 ≤ fields.concurrencyObserved)
    (.valueError "terminal counters must be nonnegative")
  require (fields.serverRequestId ≠ "" ∧ fields.serverRequestId.toList.length ≤ 128)
    (.valueError "server request ID is invalid")
  require (∀ hash ∈ fields.remoteIpHash, hash.toList.length ≤ 64)
    (.valueError "remote IP hash is invalid")
  require (∀ family ∈ fields.userAgentFamily, family.toList.length ≤ 64)
    (.valueError "user-agent family is invalid")

/-- A terminal record that passed its own validation. -/
structure OperationTerminal extends TerminalFields where
  valid : toTerminalFields.postInit = .ok ()
  deriving DecidableEq

def OperationTerminal.create (fields : TerminalFields) : Except LedgerError OperationTerminal :=
  match valid : fields.postInit with
  | .ok () => .ok ⟨fields, valid⟩
  | .error failure => .error failure

structure OperationTerminalSnapshot where
  operationId : String
  totalTokens : Int
  dailyRequestsAfter : Int
  dailyTokensAfter : Int
  totalRequestsAfter : Int
  totalTokensAfter : Int
  quotaOverrun : Bool
  deriving DecidableEq, Repr

def terminalSnapshot (operation : ApiCallOperation) (rows : QuotaRows) :
    OperationTerminalSnapshot where
  operationId := operation.id
  totalTokens := operation.totalTokens
  dailyRequestsAfter := rows.daily.requestCount
  dailyTokensAfter := rows.daily.tokenConsumed
  totalRequestsAfter := rows.lifetime.requestCount
  totalTokensAfter := rows.lifetime.tokenConsumed
  quotaOverrun := decide (operation.reservedTokens < operation.totalTokens)

/-! ## Finalization -/

def finalizeRow (operation : ApiCallOperation) (completedAt : Int) (row : ApiClientQuotaUsage) :
    ApiClientQuotaUsage :=
  { row with
    tokenReserved := row.tokenReserved - operation.reservedTokens
    tokenConsumed := row.tokenConsumed + operation.totalTokens
    version := row.version + 1
    updatedAt := completedAt }

theorem finalizeRow_key (operation : ApiCallOperation) (completedAt : Int)
    (row : ApiClientQuotaUsage) : (finalizeRow operation completedAt row).key = row.key := rfl

/-- The two guards of the counter loop, for one row. -/
def checkFinalizeRow (operation : ApiCallOperation) (row : ApiClientQuotaUsage) :
    Except LedgerError Unit := do
  require (operation.reservedTokens ≤ row.tokenReserved)
    (.quotaState "quota reservation is inconsistent")
  require (row.tokenConsumed + operation.totalTokens ≤ signedBigintMax)
    (.quotaState "quota token counter would overflow")

def terminalOperation (terminal : OperationTerminal) (operation : ApiCallOperation) :
    ApiCallOperation :=
  { operation with
    status := terminal.status.toStatus
    terminalHttpStatus := some terminal.httpStatus
    terminalCode := some terminal.businessCode
    completedAt := some terminal.completedAt
    updatedAt := terminal.completedAt }

theorem terminalOperation_id (terminal : OperationTerminal) (operation : ApiCallOperation) :
    (terminalOperation terminal operation).id = operation.id := rfl

/-- Settle the reservation of an operation on its two counter rows. -/
def finalizeQuotaRows (ledger : Ledger) (operation : ApiCallOperation) (completedAt : Int) :
    Ledger :=
  updateQuotaRows ledger operation.apiClientId (dayStart operation.startedAt)
    (finalizeRow operation completedAt) (finalizeRow_key operation completedAt)

/-- Write the terminal columns of an operation. -/
def markTerminal (ledger : Ledger) (operation : ApiCallOperation)
    (terminal : OperationTerminal) : Ledger :=
  updateOperation ledger operation.id (terminalOperation terminal)
    (terminalOperation_id terminal)

def terminalEvent (eventId : String) (operation : ApiCallOperation) (rows : QuotaRows)
    (terminal : OperationTerminal) : ApiCallEvent where
  id := eventId
  serverRequestId := terminal.serverRequestId
  clientRequestId := operation.clientRequestId
  operationId := some operation.id
  apiClientId := some operation.apiClientId
  credentialId := some operation.credentialId
  endpoint := operation.endpoint
  method := operation.method
  modelId := some operation.modelId
  stream := operation.stream
  outcome := terminal.outcome
  stage := terminal.stage
  httpStatus := terminal.httpStatus
  businessCode := terminal.businessCode
  retryable := terminal.retryable
  durationMs := terminal.durationMs
  quotaOverrun := decide (operation.reservedTokens < operation.totalTokens)
  promptTokens := operation.promptTokens
  completionTokens := operation.completionTokens
  totalTokens := operation.totalTokens
  chargedMicro := terminal.chargedMicro
  qpsObserved := terminal.qpsObserved
  concurrencyObserved := terminal.concurrencyObserved
  dailyRequestsAfter := rows.daily.requestCount
  dailyTokensAfter := rows.daily.tokenConsumed
  totalRequestsAfter := rows.lifetime.requestCount
  totalTokensAfter := rows.lifetime.tokenConsumed
  remoteIpHash := terminal.remoteIpHash
  userAgentFamily := terminal.userAgentFamily
  startedAt := operation.startedAt
  completedAt := terminal.completedAt
  createdAt := terminal.completedAt

/-- Insert the terminal event under the unique constraints of its table. -/
def insertEvent (ledger : Ledger) (event : ApiCallEvent) : Except LedgerError Ledger := do
  require (ledger.events.find? event.id = none) (.integrityError "pk_api_call_event")
  require (∀ other ∈ ledger.events.rows, other.serverRequestId ≠ event.serverRequestId)
    (.integrityError "uq_api_call_event_server_request_id")
  require (∀ other ∈ ledger.events.rows, other.operationId ≠ event.operationId)
    (.integrityError "uq_api_call_event_operation_id")
  return { ledger with events := ledger.events.insertNew event }

/-- Finalization of an operation found terminal: accepted when the stored
evidence agrees with the record, without any change. -/
def replayTerminal (ledger : Ledger) (operation : ApiCallOperation) (rows : QuotaRows)
    (terminal : OperationTerminal) : Except LedgerError (OperationTerminalSnapshot × Ledger) := do
  require (ledger.eventByOperation? operation.id ≠ none ∧
      operation.status = terminal.status.toStatus ∧
      operation.terminalHttpStatus = some terminal.httpStatus ∧
      operation.terminalCode = some terminal.businessCode)
    (.quotaState "terminal operation evidence conflicts")
  return (terminalSnapshot operation rows, ledger)

/-- Finalization of a pending operation. -/
def terminalize (ledger : Ledger) (eventId : String) (operation : ApiCallOperation)
    (rows : QuotaRows) (terminal : OperationTerminal) :
    Except LedgerError (OperationTerminalSnapshot × Ledger) := do
  require (operation.startedAt ≤ terminal.completedAt)
    (.valueError "terminal completion precedes operation start")
  checkFinalizeRow operation rows.daily
  checkFinalizeRow operation rows.lifetime
  let finalized : QuotaRows :=
    ⟨finalizeRow operation terminal.completedAt rows.daily,
      finalizeRow operation terminal.completedAt rows.lifetime⟩
  let ledger := markTerminal (finalizeQuotaRows ledger operation terminal.completedAt)
    operation terminal
  let ledger ← insertEvent ledger (terminalEvent eventId operation finalized terminal)
  return (terminalSnapshot operation finalized, ledger)

def finalizeOperation (ledger : Ledger) (operationId eventId : String)
    (terminal : OperationTerminal) : Except LedgerError (OperationTerminalSnapshot × Ledger) := do
  match ledger.operations.find? operationId with
  | none => throw (.quotaState "operation is unavailable")
  | some operation =>
      let periodStart ← utcDayStart operation.startedAt
      let rows ← lockedQuotaRows ledger operation.apiClientId periodStart
      if operation.status ≠ .pending then replayTerminal ledger operation rows terminal
      else terminalize ledger eventId operation rows terminal

end Zangpu.Services.Quota
