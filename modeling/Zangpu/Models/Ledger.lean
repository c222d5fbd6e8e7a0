import Zangpu.Foundation.Table

/-!
Ledger rows: quota counters, call operations and terminal call events.

Owns: the row types of `api_client_quota_usage`, `api_call_operation` and
`api_call_event`; the quota key under which an operation is counted; and the
ledger, the three tables that one quota transaction reads and writes.

Does not own: the transactions themselves.
-/

set_option autoImplicit false

namespace Zangpu.Models

open Zangpu.Foundation

inductive QuotaScope where
  | daily
  | lifetime
  deriving DecidableEq, Repr

/-- The columns of the unique constraint on quota rows. -/
structure QuotaKey where
  apiClientId : String
  scope : QuotaScope
  periodStart : Int
  deriving DecidableEq, Repr

structure ApiClientQuotaUsage where
  id : String
  apiClientId : String
  scope : QuotaScope
  periodStart : Int
  requestCount : Int
  tokenReserved : Int
  tokenConsumed : Int
  version : Int
  updatedAt : Int
  deriving DecidableEq, Repr

namespace ApiClientQuotaUsage

def key (row : ApiClientQuotaUsage) : QuotaKey := ⟨row.apiClientId, row.scope, row.periodStart⟩

end ApiClientQuotaUsage

inductive OperationStatus where
  | pending
  | completed
  | rejected
  | abandoned
  deriving DecidableEq, Repr

structure ApiCallOperation where
  id : String
  apiClientId : String
  credentialId : String
  clientRequestId : String
  requestFingerprint : String
  endpoint : String
  method : String
  modelId : String
  stream : Bool
  status : OperationStatus
  reservedTokens : Int
  promptTokens : Int
  completionTokens : Int
  totalTokens : Int
  providerUsageRecorded : Bool
  creditSettlementId : Option String
  usageOperationId : Option String
  terminalHttpStatus : Option Int
  terminalCode : Option String
  startedAt : Int
  completedAt : Option Int
  updatedAt : Int
  deriving DecidableEq, Repr

/-- First second of the UTC day of a timestamp. -/
def dayStart (timestamp : Int) : Int := timestamp - timestamp % 86400

namespace ApiCallOperation

/-- The quota row of a scope that counts an operation. -/
def quotaKey (operation : ApiCallOperation) : QuotaScope → QuotaKey
  | .daily => ⟨operation.apiClientId, .daily, dayStart operation.startedAt⟩
  | .lifetime => ⟨operation.apiClientId, .lifetime, 0⟩

@[simp] theorem quotaKey_scope (operation : ApiCallOperation) (scope : QuotaScope) :
    (operation.quotaKey scope).scope = scope := by
  cases scope <;> rfl

end ApiCallOperation

inductive EventOutcome where
  | success
  | cancelled
  | rejected
  | providerError
  | systemError
  | abandoned
  deriving DecidableEq, Repr

inductive EventStage where
  | request
  | auth
  | permission
  | rateLimit
  | quota
  | credit
  | provider
  | response
  | recovery
  deriving DecidableEq, Repr

/-- The append-only evidence of one terminal call. -/
structure ApiCallEvent where
  id : String
  serverRequestId : String
  clientRequestId : String
  operationId : Option String
  apiClientId : Option String
  credentialId : Option String
  endpoint : String
  method : String
  modelId : Option String
  stream : Bool
  outcome : EventOutcome
  stage : EventStage
  httpStatus : Int
  businessCode : String
  retryable : Bool
  durationMs : Int
  quotaOverrun : Bool
  promptTokens : Int
  completionTokens : Int
  totalTokens : Int
  chargedMicro : Int
  qpsObserved : Int
  concurrencyObserved : Int
  dailyRequestsAfter : Int
  dailyTokensAfter : Int
  totalRequestsAfter : Int
  totalTokensAfter : Int
  remoteIpHash : Option String
  userAgentFamily : Option String
  startedAt : Int
  completedAt : Int
  createdAt : Int
  deriving DecidableEq, Repr

/-- The tables of the quota ledger. -/
structure Ledger where
  quotas : Table ApiClientQuotaUsage ApiClientQuotaUsage.key
  operations : Table ApiCallOperation ApiCallOperation.id
  events : Table ApiCallEvent ApiCallEvent.id

namespace Ledger

def empty : Ledger := ⟨.empty, .empty, .empty⟩

/-- The row of the unique pair (client, client request id). -/
def operationByRequest? (ledger : Ledger) (apiClientId clientRequestId : String) :
    Option ApiCallOperation :=
  ledger.operations.rows.find? fun operation =>
    decide (operation.apiClientId = apiClientId ∧ operation.clientRequestId = clientRequestId)

/-- The event of an operation; its `operation_id` is unique. -/
def eventByOperation? (ledger : Ledger) (operationId : String) : Option ApiCallEvent :=
  ledger.events.rows.find? fun event => decide (event.operationId = some operationId)

theorem operationByRequest?_some {ledger : Ledger} {apiClientId clientRequestId : String}
    {operation : ApiCallOperation}
    (found : ledger.operationByRequest? apiClientId clientRequestId = some operation) :
    operation ∈ ledger.operations.rows ∧ operation.apiClientId = apiClientId ∧
      operation.clientRequestId = clientRequestId :=
  ⟨List.mem_of_find?_eq_some found, by simpa using List.find?_some found⟩

theorem operationByRequest?_none {ledger : Ledger} {apiClientId clientRequestId : String}
    (absent : ledger.operationByRequest? apiClientId clientRequestId = none)
    {operation : ApiCallOperation} (member : operation ∈ ledger.operations.rows)
    (sameClient : operation.apiClientId = apiClientId) :
    operation.clientRequestId ≠ clientRequestId := by
  intro sameRequest
  have negative := List.find?_eq_none.mp absent operation member
  exact negative (decide_eq_true ⟨sameClient, sameRequest⟩)

theorem eventByOperation?_none_iff {ledger : Ledger} {operationId : String} :
    ledger.eventByOperation? operationId = none ↔
      ∀ event ∈ ledger.events.rows, event.operationId ≠ some operationId := by
  simp [eventByOperation?, List.find?_eq_none]

end Ledger

end Zangpu.Models
