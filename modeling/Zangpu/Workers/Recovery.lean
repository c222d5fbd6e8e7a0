import Zangpu.Services.Chat.Calls

/-!
The recovery worker of the chat service.

Owns: `ExternalChatRecoveryWorker`: the selection of its candidates, `run_once`,
`_process` with its three ways to a terminal record, and the validation of the
remote evidence.

Does not own: the schedule on which passes run. The worker's transactions are
synchronous, so it performs them without an await point.
-/

set_option autoImplicit false

namespace Zangpu.Workers.Recovery

open Zangpu.Foundation
open Zangpu.Models
open Zangpu.Integrations.OpenWebUI
open Zangpu.Services.Quota
open Zangpu.Services.Chat

/-- The configuration of the worker, as its constructor accepts it. -/
structure ExternalChatRecoveryWorker where
  staleAfterSeconds : Int
  batchSize : Nat
  staleAfterValid : 30 ≤ staleAfterSeconds ∧ staleAfterSeconds ≤ 86400
  batchSizeValid : 1 ≤ batchSize ∧ batchSize ≤ 100

/-! ## Candidates -/

/-- The order of the candidate query: last update, then identifier. -/
def olderFirst (left right : ApiCallOperation) : Bool :=
  left.updatedAt < right.updatedAt || (left.updatedAt = right.updatedAt && left.id ≤ right.id)

def candidateOf (operation : ApiCallOperation) (serviceUserId : String) : RecoveryCandidate where
  operationId := operation.id
  serviceUserId := serviceUserId
  modelId := operation.modelId
  settlementId := operation.creditSettlementId
  usageOperationId := operation.usageOperationId
  providerUsageRecorded := operation.providerUsageRecorded
  promptTokens := operation.promptTokens
  completionTokens := operation.completionTokens
  startedAt := operation.startedAt

/-- The service user of the client of an operation, when its binding has one. -/
def serviceUserOf (callers : Callers) (operation : ApiCallOperation) : Option String :=
  (callers.bindings.find? operation.apiClientId).bind ApiClientBinding.zangpuServiceUserId

def isStale (worker : ExternalChatRecoveryWorker) (callers : Callers) (now : Int)
    (operation : ApiCallOperation) : Bool :=
  operation.status = .pending && operation.updatedAt ≤ now - worker.staleAfterSeconds &&
    (serviceUserOf callers operation).isSome

/-- `_load_candidates`. -/
def loadCandidates (worker : ExternalChatRecoveryWorker) (callers : Callers) (ledger : Ledger)
    (now : Int) : List RecoveryCandidate :=
  let rows := ((ledger.operations.rows.filter (isStale worker callers now)).mergeSort
    olderFirst).take worker.batchSize
  rows.filterMap fun operation =>
    (serviceUserOf callers operation).map fun serviceUserId => candidateOf operation serviceUserId

/-! ## Evidence -/

/-- `_validate_identity` accepts the remote record. -/
def validIdentity (candidate : RecoveryCandidate) (remote : CreditOperationSnapshot) : Bool :=
  remote.operationId = candidate.operationId &&
    remote.serviceUserId = candidate.serviceUserId &&
    remote.modelId = candidate.modelId && remote.provider = some "bifrost" &&
    remote.usageOperationId = some (usageOperationIdOf candidate.operationId) &&
    (candidate.settlementId = none || candidate.settlementId = some remote.settlementId) &&
    (candidate.usageOperationId = none || candidate.usageOperationId = remote.usageOperationId)

def validateIdentity (candidate : RecoveryCandidate) (remote : CreditOperationSnapshot) :
    Action Unit :=
  if validIdentity candidate remote then return ()
  else throw (.runtimeError "recovery identity evidence conflicts")

/-- The counters of a terminal remote record are nonnegative and add up. -/
def validCounters (remote : CreditOperationSnapshot) : Bool :=
  0 ≤ remote.promptTokens && 0 ≤ remote.completionTokens && 0 ≤ remote.totalTokens &&
    0 ≤ remote.chargedMicro && remote.totalTokens = remote.promptTokens + remote.completionTokens

def isTerminal : CreditStatus → Bool
  | .succeededCharged | .cancelledCharged | .failedNoCharge => true
  | _ => false

def isCancelled : CreditStatus → Bool
  | .cancelledCharged | .failedNoCharge => true
  | _ => false

/-! ## Terminal records -/

def completedAt (candidate : RecoveryCandidate) (now : Int) : Int := max now candidate.startedAt

def durationMs (candidate : RecoveryCandidate) (now : Int) : Int :=
  min ((completedAt candidate now - candidate.startedAt) * 1000) Services.Quota.signedBigintMax

/-- The terminal record of a recovery, for its five varying fields. -/
def terminalFields (candidate : RecoveryCandidate) (now : Int) (status : TerminalStatus)
    (outcome : EventOutcome) (httpStatus : Int) (businessCode : String) (chargedMicro : Int) :
    TerminalFields where
  status := status
  outcome := outcome
  stage := .recovery
  httpStatus := httpStatus
  businessCode := businessCode
  retryable := false
  durationMs := durationMs candidate now
  chargedMicro := chargedMicro
  qpsObserved := 0
  concurrencyObserved := 0
  serverRequestId := "recovery_" ++ candidate.operationId
  remoteIpHash := none
  userAgentFamily := none
  completedAt := completedAt candidate now

/-- The record of `_finalize`. -/
def remoteFields (candidate : RecoveryCandidate) (remote : CreditOperationSnapshot) (now : Int) :
    TerminalFields :=
  if remote.status = .succeededCharged then
    terminalFields candidate now .completed .success 200 "OK" remote.chargedMicro
  else
    terminalFields candidate now .abandoned .abandoned 499 "RECOVERED_CANCELLED"
      remote.chargedMicro

/-- The record of `_finalize_without_credit`. -/
def unknownFields (candidate : RecoveryCandidate) (now : Int) : TerminalFields :=
  terminalFields candidate now .abandoned .abandoned 499 "RECOVERED_NO_CREDIT" 0

/-- The usage `_finalize` records along with the terminal record. -/
def remoteUsage (candidate : RecoveryCandidate) (remote : CreditOperationSnapshot) :
    Option (Int × Int) :=
  if remote.status = .succeededCharged ∨ 0 < remote.totalTokens ∨
      candidate.providerUsageRecorded then
    some (remote.promptTokens, remote.completionTokens)
  else none

/-- `_finalize`. -/
def finalize (candidate : RecoveryCandidate) (remote : CreditOperationSnapshot) (now : Int) :
    Action Unit :=
  if !validCounters remote then throw (.runtimeError "recovery terminal evidence is invalid")
  else if remote.status = .failedNoCharge ∧ remote.chargedMicro ≠ 0 then
    throw (.runtimeError "no-charge recovery evidence is invalid")
  else
    perform (.finalizeRecovered candidate.operationId (remoteUsage candidate remote)
      (remoteFields candidate remote now))

/-- `_finalize_without_credit`. -/
def finalizeWithoutCredit (candidate : RecoveryCandidate) (now : Int) : Action Unit :=
  perform (.finalizeRecovered candidate.operationId none (unknownFields candidate now))

/-! ## Passes -/

/-- A pending remote record: settle the usage the candidate carries, or cancel. -/
def concludeRemote (candidate : RecoveryCandidate) : Action CreditOperationSnapshot :=
  if candidate.providerUsageRecorded then do
    let remote ← await (.settleCredit candidate.operationId candidate.serviceUserId
      candidate.promptTokens candidate.completionTokens)
    validateIdentity candidate remote
    if remote.status ≠ .succeededCharged then
      throw (.runtimeError "recovery settlement is not terminal")
    else return remote
  else do
    let remote ← await (.cancelCredit candidate.operationId candidate.serviceUserId)
    validateIdentity candidate remote
    if !isCancelled remote.status then
      throw (.runtimeError "recovery cancellation is not terminal")
    else return remote

/-- `_process` once the credit service knows the operation. -/
def processKnown (candidate : RecoveryCandidate) (now : Int) (remote : CreditOperationSnapshot) :
    Action Unit := do
  validateIdentity candidate remote
  if remote.status = .settlementError then return ()
  else do
    let remote ← if remote.status = .pending then concludeRemote candidate else pure remote
    if !isTerminal remote.status then return ()
    else finalize candidate remote now

/-- An operation the credit service does not know and the ledger holds no credit
evidence for. -/
def isWithoutCredit (candidate : RecoveryCandidate) (failure : Failure) : Bool :=
  match failure with
  | .openWebUI error =>
      error.code = notFoundCode && candidate.settlementId.isNone &&
        !candidate.providerUsageRecorded
  | _ => false

/-- `_process`. -/
def process (candidate : RecoveryCandidate) (now : Int) : Action Unit := do
  let remote ← tryCatch
    (do
      let status ← await (.creditStatus candidate.operationId candidate.serviceUserId)
      return some status)
    fun failure =>
      if isWithoutCredit candidate failure then do
        finalizeWithoutCredit candidate now
        return none
      else throw failure
  match remote with
  | none => return ()
  | some status => processKnown candidate now status

/-- The loop of `run_once`: a recoverable failure passes to the next candidate. -/
def processAll (now : Int) : List RecoveryCandidate → Action Unit
  | [] => return ()
  | candidate :: rest => do
      tryCatch (process candidate now) fun failure =>
        if failure.isRecoverable then return () else throw failure
      processAll now rest

/-- `run_once`; the number of candidates it found. -/
def runOnce (now : Int) : Action Nat := do
  if now < 0 then throw (.valueError "recovery time is invalid")
  else do
    let candidates ← perform (.loadCandidates now)
    processAll now candidates
    return candidates.length

end Zangpu.Workers.Recovery
