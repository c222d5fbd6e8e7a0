import Zangpu.Services.Chat.Calls

/-!
The external chat service.

Owns: `ExternalChatService` as routines over its awaited calls: admission, the
concurrency lease and its heartbeats, `execute`, `prepare_stream` and
`_stream_response`, with their exception handlers and cleanup.

Does not own: the effect of a call, the HTTP layer, and the recovery worker.

Loops (`while True` around the lease, the queue and the stream) run at most
`loopBound` times and then end the modelled run; results hold for every bound.
Clock reads are milliseconds for the monotonic clock.
-/

set_option autoImplicit false

namespace Zangpu.Services.Chat

open Zangpu.Foundation
open Zangpu.Api
open Zangpu.Models
open Zangpu.Integrations.OpenWebUI
open Zangpu.Services.Quota
open Zangpu.Services.Streaming

/-! ## Clocks, headers and errors -/

/-- `int(time())`. -/
def time : Action Int := Routine.observe .wall

/-- The monotonic clock of the service. -/
def monotonic : Action Int := Routine.observe .monotonic

/-- `monotonic_ns()`. -/
def monotonicNs : Action Int := Routine.observe .monotonicNs

def setHeader (headers : Headers) (entry : String × String) : Headers :=
  if headers.any fun present => present.1 = entry.1 then
    headers.map fun present => if present.1 = entry.1 then entry else present
  else headers ++ [entry]

/-- `headers.update(entries)`. -/
def updateHeaders (entries : Headers) : Action Unit :=
  modify fun locals => { locals with headers := entries.foldl setHeader locals.headers }

/-- Milliseconds rounded up to seconds. -/
def ceilingSeconds (milliseconds : Int) : String := toString ((milliseconds + 999) / 1000)

def rateLimitHeaders (decision : QpsDecision) : Headers :=
  [("X-RateLimit-Limit", toString decision.limit),
    ("X-RateLimit-Remaining", toString decision.remaining),
    ("X-RateLimit-Reset", ceilingSeconds decision.resetAtMs)]

/-- The `Retry-After` of a refusal: at least one second. -/
def retryAfter (expiresAtMs observedAtMs : Int) : String × String :=
  ("Retry-After", toString (max ((expiresAtMs - observedAtMs + 999) / 1000) 1))

def concurrencyLimitHeaders (decision : ConcurrencyDecision) : Headers :=
  [("X-Concurrency-Limit", toString decision.limit),
    ("X-Concurrency-Remaining", toString decision.remaining),
    ("X-Concurrency-Reset", ceilingSeconds decision.leaseExpiresAtMs)] ++
    if decision.allowed then []
    else [retryAfter decision.leaseExpiresAtMs decision.observedAtMs]

def modelPoolLimitHeaders (decision : ModelPoolDecision) : Headers :=
  [("X-Model-Pool-Limit", toString decision.activeLimit),
    ("X-Model-Pool-Remaining", toString decision.activeRemaining),
    ("X-Queue-Limit", toString decision.queueLimit),
    ("X-Queue-Remaining", toString decision.queueRemaining),
    ("X-Model-Pool-Reset", ceilingSeconds decision.expiresAtMs)] ++
    if decision.status = .admitted then []
    else [retryAfter decision.expiresAtMs decision.observedAtMs]

/-- Raise an `ExternalApiError` with the headers collected so far. -/
def raiseExternal {Result : Type} (code : ErrorCode) (operationId : Option String) :
    Action Result := do
  let locals ← get
  throw (.externalApi code operationId locals.headers)

def callerPolicyError : CallerPolicyCode → ErrorCode
  | .clientDisabled => .clientDisabled
  | .credentialRevoked | .credentialExpired => .authFailed
  | _ => .controlPlaneUnavailable

def quotaError : QuotaAdmissionCode → ErrorCode
  | .credentialRevoked | .credentialExpired => .authFailed
  | .clientDisabled => .clientDisabled
  | .endpointForbidden => .endpointForbidden
  | .modelForbidden => .modelForbidden
  | .requestIdConflict => .requestIdConflict
  | .requestInProgress => .requestInProgress
  | .requestAlreadyCompleted => .requestAlreadyCompleted
  | .dailyRequestQuotaExceeded => .dailyRequestQuotaExceeded
  | .dailyTokenQuotaExceeded => .dailyTokenQuotaExceeded
  | .totalRequestQuotaExceeded => .totalRequestQuotaExceeded
  | .totalTokenQuotaExceeded => .totalTokenQuotaExceeded

def creditError (error : UpstreamError) : ErrorCode :=
  if error.code = "CREDIT_BALANCE_EXHAUSTED" then .creditBalanceExhausted
  else if error.code = "CREDIT_ACCOUNT_FROZEN" then .creditAccountFrozen
  else if error.code = "CREDIT_PRICING_UNAVAILABLE" then .modelUnavailable
  else .controlPlaneUnavailable

/-- `needle in haystack` on strings. -/
def containsText (haystack needle : String) : Bool :=
  haystack.toList.tails.any fun tail => needle.toList.isPrefixOf tail

def providerError (error : UpstreamError) : ErrorCode :=
  if error.statusCode = 404 then .modelNotFound
  else if error.statusCode = 504 ∨ containsText error.code "TIMEOUT" then .modelTimeout
  else .modelUnavailable

/-! ## The service -/

/-- The configuration of the service, as its constructor accepts it. -/
structure ExternalChatService where
  modelPoolPolicies : List (String × ModelPoolPolicy)
  globalMaxOutputTokens : Int
  heartbeatIntervalMilliseconds : Int
  globalQueueLimit : Int
  callerQueueLimit : Int
  queueWaitSeconds : Int
  queuePollMilliseconds : Int
  parser : Parser
  loopBound : Nat
  outputTokensValid : 1 ≤ globalMaxOutputTokens ∧ globalMaxOutputTokens ≤ 1000000
  heartbeatValid : 0 < heartbeatIntervalMilliseconds ∧ heartbeatIntervalMilliseconds ≤ 300000
  globalQueueValid : 0 ≤ globalQueueLimit ∧ globalQueueLimit ≤ 10000
  callerQueueValid : 0 ≤ callerQueueLimit ∧ callerQueueLimit ≤ 1000
  callerQueuePositive : globalQueueLimit > 0 → callerQueueLimit ≠ 0
  queueWaitValid : 1 ≤ queueWaitSeconds ∧ queueWaitSeconds ≤ 300
  queuePollValid : 50 ≤ queuePollMilliseconds ∧ queuePollMilliseconds ≤ 2000

/-- A service with one pool for the model `model`. -/
def sampleService : ExternalChatService where
  modelPoolPolicies := [("model", ⟨"pool", 1⟩)]
  globalMaxOutputTokens := 4096
  heartbeatIntervalMilliseconds := 10000
  globalQueueLimit := 4
  callerQueueLimit := 2
  queueWaitSeconds := 30
  queuePollMilliseconds := 100
  parser := ⟨fun _ => none, fun _ => none⟩
  loopBound := 2
  outputTokensValid := by decide
  heartbeatValid := by decide
  globalQueueValid := by decide
  callerQueueValid := by decide
  callerQueuePositive := by decide
  queueWaitValid := by decide
  queuePollValid := by decide

variable (service : ExternalChatService)

/-- `_ConcurrencyLeaseGuard`; its timer is a local variable. -/
structure ConcurrencyLeaseGuard where
  modelPoolId : String
  apiClientId : String
  operationId : String

namespace ConcurrencyLeaseGuard

/-- `__post_init__`, and the reset after a renewal. -/
def armTimer : Action Unit := do
  let now ← monotonic
  modify fun locals =>
    { locals with nextHeartbeatAt := now + service.heartbeatIntervalMilliseconds }

def secondsUntilHeartbeat : Action Int := do
  let now ← monotonic
  let locals ← get
  return max (locals.nextHeartbeatAt - now) 0

def heartbeatDue (observedAt : Int) : Action Bool := do
  let locals ← get
  return decide (locals.nextHeartbeatAt ≤ observedAt)

variable (lease : ConcurrencyLeaseGuard)

def heartbeat : Action Unit := do
  let renewed ← await (.heartbeatConcurrency lease.apiClientId lease.operationId)
  let modelRenewed ← await (.heartbeatPool lease.modelPoolId lease.operationId)
  if !renewed || !modelRenewed then throw .controlPlaneUnavailable
  else armTimer service

/-- The loop of `run`: wait for the task, renewing the lease in between. -/
def waitFor (call : Call) : Nat → Action (Except Failure call.Answer)
  | 0 => Routine.exhausted
  | bound + 1 => do
      let timeout ← secondsUntilHeartbeat
      let completed ← wait call timeout
      match completed with
      | some answer => return answer
      | none =>
          heartbeat service lease
          waitFor call bound

/-- `run`: make a call in a task of its own and cancel the task when the wait
fails. -/
def run (call : Call) : Action call.Answer := do
  spawn call
  let answer ← tryCatch (waitFor service lease call service.loopBound) fun failure => do
    abandon call
    throw failure
  Routine.reply answer

end ConcurrencyLeaseGuard

/-! ## Model pool -/

def poolRequest (policy : ModelPoolPolicy) (apiClientId operationId : String) : PoolRequest where
  poolId := policy.poolId
  apiClientId := apiClientId
  operationId := operationId
  activeLimit := policy.activeLimit
  queueLimit := service.globalQueueLimit
  callerQueueLimit := service.callerQueueLimit
  queueWaitSeconds := service.queueWaitSeconds

/-- Ask the pool once and keep its decision. -/
def askPool (arguments : PoolRequest) : Action ModelPoolDecision := do
  let decision ← await (.admitOrEnqueue arguments)
  modify fun locals => { locals with poolDecision := some decision }
  updateHeaders (modelPoolLimitHeaders decision)
  return decision

def raiseQueueTimeout {Result : Type} : Action Result := do
  updateHeaders [("Retry-After", "1")]
  raiseExternal .modelCapacityLimited none

/-- The queue loop of `_acquire_model_pool`. -/
def waitInQueue (arguments : PoolRequest) (queueDeadline : Int) : Nat → Action Unit
  | 0 => Routine.exhausted
  | bound + 1 => do
      let now ← monotonic
      let remaining := queueDeadline - now
      if remaining ≤ 0 then raiseQueueTimeout
      else do
        await (.queueSleep (min service.queuePollMilliseconds remaining))
        let woken ← monotonic
        if queueDeadline ≤ woken then raiseQueueTimeout
        else do
          let decision ← askPool arguments
          if decision.status = .admitted then return ()
          else if decision.status ≠ .queued then raiseExternal .modelCapacityLimited none
          else waitInQueue arguments queueDeadline bound

/-- The handlers around the queue loop: leave the queue, then raise again. -/
def leaveQueue (policy : ModelPoolPolicy) (apiClientId operationId : String) (failure : Failure) :
    Action Unit := do
  let cancel : Action Unit := do
    let _ ← await (.cancelQueued policy.poolId apiClientId operationId)
  if failure.isInterrupt then
    tryCatch cancel fun suppressed =>
      if suppressed = .controlPlaneUnavailable then return () else throw suppressed
  else do
    let locals ← get
    if locals.poolDecision.map ModelPoolDecision.status = some .queued then cancel else pure ()
  throw failure

def acquireModelPool (modelId apiClientId operationId : String) : Action ModelPoolPolicy := do
  match service.modelPoolPolicies.lookup modelId with
  | none => raiseExternal .modelUnavailable none
  | some policy =>
      let arguments := poolRequest service policy apiClientId operationId
      let decision ← askPool arguments
      if decision.status = .admitted then return policy
      else if decision.status ≠ .queued then raiseExternal .modelCapacityLimited none
      else do
        let now ← monotonic
        let queueDeadline := now + max (decision.expiresAtMs - decision.observedAtMs) 0
        tryCatch (waitInQueue service arguments queueDeadline service.loopBound) fun failure =>
          leaveQueue policy apiClientId operationId failure
        return policy

/-- One release of `_release_active_leases`: an unavailable control plane only
makes the release unclean. -/
def releaseQuietly (call : Call) : Action Bool :=
  tryCatch
    (do
      let _ ← await call
      return true)
    fun failure => if failure = .controlPlaneUnavailable then return false else throw failure

def releaseActiveLeases (apiClientId poolId operationId : String) : Action Bool := do
  let concurrencyReleased ← releaseQuietly (.releaseConcurrency apiClientId operationId)
  let poolReleased ← releaseQuietly (.releasePool poolId operationId)
  return concurrencyReleased && poolReleased

/-! ## Admission -/

/-- One request as the HTTP layer hands it over, with the operation identifier
that `new_uuid` draws for it. -/
structure ChatRequest where
  request : ChatCompletionRequest
  caller : AuthenticatedCaller
  serverRequestId : String
  requestFingerprint : String
  operationId : String
  deriving DecidableEq

/-- The local constants of an admitted request; `_ChatAdmission` without the
evidence of the credit reservation. -/
structure ChatAdmission where
  request : ChatCompletionRequest
  caller : AuthenticatedCaller
  policy : CallerPolicy
  operationId : String
  operationStartedAt : Int
  startedNs : Int
  serverRequestId : String
  requestFingerprint : String
  qps : QpsDecision
  concurrency : ConcurrencyDecision
  modelPoolId : String

namespace ChatAdmission

def lease (admission : ChatAdmission) : ConcurrencyLeaseGuard where
  modelPoolId := admission.modelPoolId
  apiClientId := admission.caller.apiClientId
  operationId := admission.operationId

/-- `max(int(time()), operation_started_at)`. -/
def operationTime (admission : ChatAdmission) : Action Int := do
  let now ← time
  return max now admission.operationStartedAt

def release (admission : ChatAdmission) : Action Bool :=
  releaseActiveLeases admission.caller.apiClientId admission.modelPoolId admission.operationId

/-- Release the leases; an unclean release before the terminal record is an
unavailable control plane. -/
def releaseOrRaise (admission : ChatAdmission) : Action Unit := do
  let releasedCleanly ← admission.release
  let locals ← get
  if !releasedCleanly && !locals.terminalCommitted then throw .controlPlaneUnavailable
  else pure ()

end ChatAdmission

/-- Read the policy of the caller, with its errors as public ones. -/
def loadPolicy (caller : AuthenticatedCaller) (now : Int) : Action CallerPolicy :=
  tryCatch (await (.loadPolicy caller now)) fun failure =>
    match failure with
    | .callerPolicy code => raiseExternal (callerPolicyError code) none
    | other => throw other

/-- Take the concurrency lease; a failure gives the pool lease back. -/
def acquireConcurrency (policy : CallerPolicy) (poolPolicy : ModelPoolPolicy)
    (apiClientId operationId : String) : Action ConcurrencyDecision := do
  let releasePool : Action Unit := do
    let _ ← await (.releasePool poolPolicy.poolId operationId)
  let concurrency ←
    tryCatch (await (.acquireConcurrency apiClientId operationId policy.concurrencyLimit))
      fun failure => do
        releasePool
        throw failure
  updateHeaders (concurrencyLimitHeaders concurrency)
  if !concurrency.allowed then do
    releasePool
    raiseExternal .concurrencyLimited none
  else return concurrency

/-- The common beginning of `execute` and `prepare_stream`, up to the lease. -/
def admitRequest (chat : ChatRequest) : Action ChatAdmission := do
  let operationStartedAt ← time
  let startedNs ← monotonicNs
  let claimed ← await
    (.claimNonce chat.caller.apiClientId chat.caller.credentialId chat.caller.nonce)
  if !claimed then raiseExternal .authFailed none
  else do
    let policy ← loadPolicy chat.caller operationStartedAt
    if "chat.completions" ∉ policy.allowedEndpoints then raiseExternal .endpointForbidden none
    else if chat.request.model ∉ policy.allowedModels then raiseExternal .modelForbidden none
    else do
      let qps ← await
        (.admitQps chat.caller.apiClientId chat.serverRequestId policy.qpsLimit)
      updateHeaders (rateLimitHeaders qps)
      if !qps.allowed then raiseExternal .qpsLimited none
      else do
        let poolPolicy ← acquireModelPool service chat.request.model chat.caller.apiClientId
          chat.operationId
        let concurrency ← acquireConcurrency policy poolPolicy chat.caller.apiClientId
          chat.operationId
        ConcurrencyLeaseGuard.armTimer service
        return {
          request := chat.request
          caller := chat.caller
          policy := policy
          operationId := chat.operationId
          operationStartedAt := operationStartedAt
          startedNs := startedNs
          serverRequestId := chat.serverRequestId
          requestFingerprint := chat.requestFingerprint
          qps := qps
          concurrency := concurrency
          modelPoolId := poolPolicy.poolId }

/-! ## Terminal records -/

/-- What one call of `_terminalize` records; `none` is the code `OK`. -/
structure Verdict where
  status : TerminalStatus
  outcome : EventOutcome
  stage : EventStage
  code : Option ErrorCode
  chargedMicro : Int

namespace Verdict

def completed (chargedMicro : Int) : Verdict := ⟨.completed, .success, .response, none, chargedMicro⟩

def creditRejected (code : ErrorCode) : Verdict := ⟨.rejected, .rejected, .credit, some code, 0⟩

def providerRejected (code : ErrorCode) (chargedMicro : Int) : Verdict :=
  ⟨.rejected, .providerError, .provider, some code, chargedMicro⟩

end Verdict

/-- The record `_terminalize` builds, with the clocks it reads. -/
def terminalFields (admission : ChatAdmission) (verdict : Verdict) : Action TerminalFields := do
  let completedAt ← admission.operationTime
  let nowNs ← monotonicNs
  return {
    status := verdict.status
    outcome := verdict.outcome
    stage := verdict.stage
    httpStatus := (verdict.code.map fun code => code.spec.statusCode).getD 200
    businessCode := (verdict.code.map ErrorCode.text).getD "OK"
    retryable := (verdict.code.map fun code => code.spec.retryable).getD false
    durationMs := max ((nowNs - admission.startedNs) / 1000000) 0
    chargedMicro := verdict.chargedMicro
    qpsObserved := admission.qps.count
    concurrencyObserved := admission.concurrency.count
    serverRequestId := admission.serverRequestId
    remoteIpHash := none
    userAgentFamily := none
    completedAt := completedAt }

/-- `terminal_committed = True`. -/
def markTerminalCommitted : Action Unit :=
  modify fun locals => { locals with terminalCommitted := true }

/-- `_terminalize` under the lease, as `execute` and `prepare_stream` run it. -/
def terminalizeLeased (admission : ChatAdmission) (verdict : Verdict) : Action Unit := do
  let fields ← terminalFields admission verdict
  admission.lease.run service (.terminalize admission.operationId fields)
  markTerminalCommitted

/-- `_terminalize` as the stream runs it. -/
def terminalize (admission : ChatAdmission) (verdict : Verdict) : Action Unit := do
  let fields ← terminalFields admission verdict
  await (.terminalize admission.operationId fields)

/-! ## Credit evidence -/

/-- The identity a credit reply must carry. -/
def sameIdentity (admission : ChatAdmission) (snapshot : CreditOperationSnapshot) : Bool :=
  snapshot.operationId = admission.operationId &&
    snapshot.serviceUserId = admission.policy.serviceUserId &&
    snapshot.modelId = admission.request.model && snapshot.provider = some "bifrost" &&
    snapshot.usageOperationId = some (usageOperationIdOf admission.operationId)

/-- A reservation reply that opens the operation. -/
def validReservation (admission : ChatAdmission) (snapshot : CreditOperationSnapshot) : Bool :=
  sameIdentity admission snapshot && snapshot.status = .pending

/-- A cancellation reply without tokens and without a charge. -/
def validCancellation (admission : ChatAdmission) (settlementId : String)
    (snapshot : CreditOperationSnapshot) : Bool :=
  sameIdentity admission snapshot && snapshot.settlementId = settlementId &&
    snapshot.promptTokens = 0 && snapshot.completionTokens = 0 && snapshot.totalTokens = 0 &&
    (snapshot.status = .cancelledCharged || snapshot.status = .failedNoCharge) &&
    snapshot.chargedMicro = 0

/-- A settlement reply for the counted tokens. -/
def validSettlement (admission : ChatAdmission) (settlementId : String) (usage : ChatUsage)
    (snapshot : CreditOperationSnapshot) : Bool :=
  sameIdentity admission snapshot && snapshot.settlementId = settlementId &&
    snapshot.status = .succeededCharged && snapshot.promptTokens = usage.promptTokens &&
    snapshot.completionTokens = usage.completionTokens && snapshot.totalTokens = usage.totalTokens

/-- Evidence that does not hold up is an unavailable control plane. -/
def requireEvidence (admission : ChatAdmission) (valid : Bool) : Action Unit :=
  if valid then return ()
  else raiseExternal .controlPlaneUnavailable (some admission.operationId)

/-! ## Reservation -/

/-- Tokens reserved for a request: the estimate of its prompt and its admitted
output. -/
def reservedTokens (admission : ChatAdmission) : Action Int :=
  match admission.request.admittedOutputTokens admission.policy.maxOutputTokensPerRequest
      service.globalMaxOutputTokens with
  | .ok admitted => return estimatePromptTokens admission.request + admitted
  | .error (.externalPayload code) => raiseExternal code none
  | .error (.valueError message) => throw (.valueError message)

def reserveArguments (admission : ChatAdmission) (stream : Bool) (reservedTokens : Int) :
    ReserveArguments where
  apiClientId := admission.caller.apiClientId
  credentialId := admission.caller.credentialId
  operationId := admission.operationId
  clientRequestId := admission.caller.requestId
  requestFingerprint := admission.requestFingerprint
  modelId := admission.request.model
  stream := stream
  reservedTokens := reservedTokens
  now := admission.operationStartedAt

/-- The quota reservation, with its refusals as public errors. -/
def reserveQuota (admission : ChatAdmission) (stream : Bool) : Action Unit := do
  let tokens ← reservedTokens service admission
  tryCatch (admission.lease.run service (.reserveQuota (reserveArguments admission stream tokens)))
    fun failure =>
      match failure with
      | .quotaAdmission code operationId => raiseExternal (quotaError code) operationId
      | other => throw other

/-- The credit reservation. A refusal for want of credit ends the operation. -/
def reserveCredit (admission : ChatAdmission) : Action CreditOperationSnapshot :=
  tryCatch
    (admission.lease.run service (.reserveCredit admission.operationId
      admission.policy.serviceUserId admission.request.model (some "bifrost")))
    fun failure =>
      match failure with
      | .openWebUI error => do
          let publicCode := creditError error
          if publicCode = .creditBalanceExhausted ∨ publicCode = .creditAccountFrozen then
            terminalizeLeased service admission (.creditRejected publicCode)
          else pure ()
          raiseExternal publicCode (some admission.operationId)
      | other => throw other

/-- From the admitted request to the recorded credit reservation; the settlement
identifier. -/
def openCredit (admission : ChatAdmission) (stream : Bool) : Action String := do
  reserveQuota service admission stream
  let credit ← reserveCredit service admission
  requireEvidence admission (validReservation admission credit)
  let now ← admission.operationTime
  admission.lease.run service (.recordCredit admission.operationId credit.settlementId
    (usageOperationIdOf admission.operationId) now)
  return credit.settlementId

/-! ## Non-streaming requests -/

structure ExternalChatResult where
  response : ChatCompletionResponse
  rateLimitHeaders : Headers

/-- The provider failed: cancel the credit operation, record the rejection and
raise. -/
def rejectProvider {Result : Type} (admission : ChatAdmission) (settlementId : String)
    (error : UpstreamError) : Action Result := do
  let publicCode := providerError error
  let cancelled ← tryCatch
    (admission.lease.run service (.cancelCredit admission.operationId
      admission.policy.serviceUserId))
    fun failure =>
      match failure with
      | .openWebUI _ => raiseExternal .controlPlaneUnavailable (some admission.operationId)
      | other => throw other
  requireEvidence admission (validCancellation admission settlementId cancelled)
  terminalizeLeased service admission (.providerRejected publicCode 0)
  raiseExternal publicCode (some admission.operationId)

def forwardChat (admission : ChatAdmission) (settlementId : String) :
    Action ChatCompletionResponse :=
  tryCatch
    (admission.lease.run service (.forwardChat admission.request
      admission.policy.bifrostVirtualKey))
    fun failure =>
      match failure with
      | .bifrost error => rejectProvider service admission settlementId error
      | other => throw other

def settleResponse (admission : ChatAdmission) (settlementId : String) (usage : ChatUsage) :
    Action CreditOperationSnapshot := do
  let now ← admission.operationTime
  admission.lease.run service (.recordUsage admission.operationId usage.promptTokens
    usage.completionTokens now)
  let settled ← tryCatch
    (admission.lease.run service (.settleCredit admission.operationId
      admission.policy.serviceUserId usage.promptTokens usage.completionTokens))
    fun failure =>
      match failure with
      | .openWebUI error => raiseExternal (creditError error) (some admission.operationId)
      | other => throw other
  requireEvidence admission (validSettlement admission settlementId usage settled)
  return settled

/-- The body of `execute` between the lease and its release. -/
def executeAdmitted (admission : ChatAdmission) : Action ExternalChatResult := do
  let settlementId ← openCredit service admission false
  let response ← forwardChat service admission settlementId
  let settled ← settleResponse service admission settlementId response.usage
  terminalizeLeased service admission (.completed settled.chargedMicro)
  let locals ← get
  return ⟨response, locals.headers⟩

/-- Raise an `ExternalPayloadError` as the public error of its code. -/
def requirePayload (checked : Except ChatCompletionRequest.PayloadError Unit) : Action Unit :=
  match checked with
  | .ok () => return ()
  | .error (.externalPayload code) => raiseExternal code none
  | .error (.valueError message) => throw (.valueError message)

def execute (chat : ChatRequest) : Action ExternalChatResult := do
  requirePayload chat.request.requireNonStreaming
  let admission ← admitRequest service chat
  Routine.andFinally (executeAdmitted service admission) admission.releaseOrRaise

/-! ## Streams -/

/-- `_ChatAdmission`, as `prepare_stream` returns it inside its stream. -/
structure StreamAdmission extends ChatAdmission where
  settlementId : String

/-- `prepare_stream`: the admission its stream runs on. -/
def prepareStream (chat : ChatRequest) : Action StreamAdmission :=
  if !chat.request.stream then raiseExternal .invalidRequest none
  else do
    let admission ← admitRequest service chat
    let settlementId ← tryCatch (openCredit service admission true) fun failure => do
      admission.releaseOrRaise
      throw failure
    return { toChatAdmission := admission, settlementId := settlementId }

variable (admission : StreamAdmission)

/-- `_settle_stream`: the charge. -/
def settleStream (usage : ChatUsage) : Action Int := do
  let now ← admission.operationTime
  await (.recordUsage admission.operationId usage.promptTokens usage.completionTokens now)
  let settled ← await (.settleCredit admission.operationId admission.policy.serviceUserId
    usage.promptTokens usage.completionTokens)
  requireEvidence admission.toChatAdmission
    (validSettlement admission.toChatAdmission admission.settlementId usage settled)
  return settled.chargedMicro

/-- `_cancel_stream`. -/
def cancelStream : Action Unit := do
  let cancelled ← await
    (.cancelCredit admission.operationId admission.policy.serviceUserId)
  requireEvidence admission.toChatAdmission
    (validCancellation admission.toChatAdmission admission.settlementId cancelled)

/-- `_finish_stream_failure`: cancel without usage evidence, settle with it. -/
def finishStreamFailure (verdict : Int → Verdict) : Action Unit := do
  let locals ← get
  let chargedMicro ←
    match locals.decoder.usage with
    | none => do
        cancelStream admission
        pure (0 : Int)
    | some usage => settleStream admission usage
  terminalize admission.toChatAdmission (verdict chargedMicro)

/-- `_try_finish_stream_failure`: whether the terminal record was committed. -/
def tryFinishStreamFailure (verdict : Int → Verdict) : Action Bool :=
  tryCatch
    (do
      finishStreamFailure admission verdict
      return true)
    fun failure => if failure.isException then return false else throw failure

/-- `_heartbeat_stream`. -/
def heartbeatStream : Action Unit := do
  admission.lease.heartbeat service
  let now ← admission.operationTime
  let touched ← await (.touchOperation admission.operationId now)
  if !touched then throw (.runtimeError "stream operation is already terminal")
  else pure ()

/-- `_close_stream_iterator`. -/
def closeStreamIterator : Action Bool :=
  tryCatch
    (do
      await .closeStream
      return true)
    fun failure => if failure.isException then return false else throw failure

/-- Feed a chunk to the decoder, which keeps what it accepted when it raises. -/
def feedChunk (chunk : Bytes) : Action (List Bytes) := do
  let locals ← get
  let fed := locals.decoder.feed service.parser chunk
  set { locals with decoder := fed.2 }
  match fed.1 with
  | .ok frames => return frames
  | .error _ => throw (.bifrost ⟨"BIFROST_PROTOCOL_ERROR", 502, true⟩)

/-- `decoder.finish()`. -/
def finishDecoder : Action Unit := do
  let locals ← get
  match locals.decoder.finish with
  | .ok () => return ()
  | .error _ => throw (.bifrost ⟨"BIFROST_PROTOCOL_ERROR", 502, true⟩)

/-- Settle, record the completed operation, and only then say so. -/
def finishStream : Action Unit := do
  let locals ← get
  match locals.decoder.usage with
  | none => throw (.assertionError "decoder returned DONE without usage")
  | some usage => do
      let chargedMicro ← settleStream admission usage
      terminalize admission.toChatAdmission (.completed chargedMicro)
      markTerminalCommitted
      emit .done

/-- Relay the frames of one chunk; whether the stream is over. -/
def relayFrames : List Bytes → Action Bool
  | [] => return false
  | frame :: rest =>
      if frame ≠ sseDone then do
        emit (.data frame)
        relayFrames rest
      else do
        finishStream admission
        return true

/-- The call that reads the next chunk from the provider. -/
def nextChunk : Call := .streamNext admission.request admission.policy.bifrostVirtualKey

def setReadPending (pending : Bool) : Action Unit :=
  modify fun locals => { locals with readPending := pending }

/-- `pending = asyncio.create_task(anext(upstream))`, unless one is running. -/
def ensureRead : Action Unit := do
  let locals ← get
  if locals.readPending then return ()
  else do
    spawn (nextChunk admission)
    setReadPending true

/-- The rest of one turn of the stream loop, once the pending read finished;
whether the stream is over. -/
def consumeRead (observedAt : Int) (answer : Except Failure (Option Bytes)) : Action Bool := do
  setReadPending false
  let due ← ConcurrencyLeaseGuard.heartbeatDue observedAt
  if due then do
    heartbeatStream service admission
    emit .heartbeat
  else pure ()
  match answer with
  | .error failure => throw failure
  | .ok none => do
      finishDecoder
      return true
  | .ok (some chunk) => do
      let frames ← feedChunk service chunk
      relayFrames admission frames

/-- The stream loop. -/
def streamLoop : Nat → Action Unit
  | 0 => Routine.exhausted
  | bound + 1 => do
      ensureRead admission
      let timeout ← ConcurrencyLeaseGuard.secondsUntilHeartbeat
      let completed ← wait (nextChunk admission) timeout
      let observedAt ← monotonic
      match completed with
      | none => do
          heartbeatStream service admission
          emit .heartbeat
          streamLoop bound
      | some answer => do
          let finished ← consumeRead service admission observedAt answer
          if finished then pure () else streamLoop bound

def errorFrame (code : ErrorCode) : Frame :=
  .error code admission.serverRequestId admission.operationId

/-- The four exception handlers of `_stream_response`, in order. -/
def handleStreamFailure (failure : Failure) : Action Unit :=
  match failure with
  | .cancelled | .generatorExit => do
      let committed ← tryFinishStreamFailure admission
        fun charged => ⟨.abandoned, .cancelled, .response, some .clientDisconnected, charged⟩
      modify fun locals => { locals with terminalCommitted := committed }
      throw failure
  | .bifrost error => do
      let publicCode ← tryCatch
        (do
          finishStreamFailure admission (.providerRejected (providerError error))
          markTerminalCommitted
          return providerError error)
        fun inner =>
          if inner.isException then return .controlPlaneUnavailable else throw inner
      emit (errorFrame admission publicCode)
  | .controlPlaneUnavailable => do
      let committed ← tryFinishStreamFailure admission
        fun charged => ⟨.abandoned, .systemError, .recovery, some .controlPlaneUnavailable, charged⟩
      modify fun locals => { locals with terminalCommitted := committed }
      emit (errorFrame admission .controlPlaneUnavailable)
  | _ => do
      let committed ← tryFinishStreamFailure admission
        fun charged => ⟨.abandoned, .systemError, .recovery, some .internalError, charged⟩
      modify fun locals => { locals with terminalCommitted := committed }
      emit (errorFrame admission .internalError)

/-- The `finally` block: drop the pending read, close the provider stream and
release the leases. -/
def cleanUpStream : Action Unit := do
  let locals ← get
  if locals.readPending then abandon (nextChunk admission) else pure ()
  Routine.andFinally
    (do
      let _ ← closeStreamIterator
      return ())
    admission.releaseOrRaise

/-- `_stream_response`. Its decoder and flags start afresh. -/
def streamResponse : Action Unit := do
  modify fun locals =>
    { locals with decoder := .new, readPending := false, terminalCommitted := false }
  Routine.andFinally
    (tryCatch (streamLoop service admission service.loopBound) (handleStreamFailure admission))
    (cleanUpStream admission)

end Zangpu.Services.Chat
