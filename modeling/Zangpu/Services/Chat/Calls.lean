import Zangpu.Api.ExternalModels
import Zangpu.Foundation.Program
import Zangpu.Integrations.OpenWebUI.Operations
import Zangpu.Services.Quota
import Zangpu.Services.Streaming

/-!
What the chat service and its recovery worker exchange with their environment.

Owns: the decisions of the Redis limiters, the caller policy and the recovery
candidate; the exceptions; every call the two programs await, with the type of
its answer; and the frames a stream yields.

Does not own: what a call does, and which answers it can get.
-/

set_option autoImplicit false

namespace Zangpu.Services.Chat

open Zangpu.Foundation
open Zangpu.Api
open Zangpu.Integrations.OpenWebUI
open Zangpu.Services.Quota
open Zangpu.Services.Streaming

/-! ## Data -/

structure AuthenticatedCaller where
  apiClientId : String
  credentialId : String
  keyId : String
  requestId : String
  nonce : String
  timestamp : Int
  deriving DecidableEq, Repr

structure CallerPolicy where
  apiClientId : String
  credentialId : String
  allowedEndpoints : List String
  allowedModels : List String
  qpsLimit : Int
  concurrencyLimit : Int
  maxOutputTokensPerRequest : Int
  serviceUserId : String
  bifrostVirtualKey : String
  deriving DecidableEq, Repr

structure QpsDecision where
  allowed : Bool
  count : Int
  limit : Int
  remaining : Int
  resetAtMs : Int
  observedAtMs : Int
  deriving DecidableEq, Repr

structure ConcurrencyDecision where
  allowed : Bool
  count : Int
  limit : Int
  remaining : Int
  leaseExpiresAtMs : Int
  observedAtMs : Int
  deriving DecidableEq, Repr

inductive ModelPoolStatus where
  | admitted
  | queued
  | callerQueueFull
  | queueFull
  deriving DecidableEq, Repr

structure ModelPoolDecision where
  status : ModelPoolStatus
  activeLimit : Int
  activeRemaining : Int
  queueLimit : Int
  queueRemaining : Int
  expiresAtMs : Int
  observedAtMs : Int
  deriving DecidableEq, Repr

structure ModelPoolPolicy where
  poolId : String
  activeLimit : Int
  deriving DecidableEq, Repr

/-- The arguments of `admit_or_enqueue`. -/
structure PoolRequest where
  poolId : String
  apiClientId : String
  operationId : String
  activeLimit : Int
  queueLimit : Int
  callerQueueLimit : Int
  queueWaitSeconds : Int
  deriving DecidableEq, Repr

/-- The arguments of `_reserve_quota`; the transaction draws the row identifiers. -/
structure ReserveArguments where
  apiClientId : String
  credentialId : String
  operationId : String
  clientRequestId : String
  requestFingerprint : String
  modelId : String
  stream : Bool
  reservedTokens : Int
  now : Int
  deriving DecidableEq, Repr

def ReserveArguments.request (arguments : ReserveArguments) (dailyRowId lifetimeRowId : String) :
    ReserveRequest where
  apiClientId := arguments.apiClientId
  credentialId := arguments.credentialId
  operationId := arguments.operationId
  clientRequestId := arguments.clientRequestId
  requestFingerprint := arguments.requestFingerprint
  modelId := arguments.modelId
  stream := arguments.stream
  reservedTokens := arguments.reservedTokens
  now := arguments.now
  dailyRowId := dailyRowId
  lifetimeRowId := lifetimeRowId

structure ChatCompletionResponse where
  id : String
  usage : ChatUsage
  deriving DecidableEq

/-- `_RecoveryCandidate`. -/
structure RecoveryCandidate where
  operationId : String
  serviceUserId : String
  modelId : String
  settlementId : Option String
  usageOperationId : Option String
  providerUsageRecorded : Bool
  promptTokens : Int
  completionTokens : Int
  startedAt : Int
  deriving DecidableEq, Repr

/-- A header dictionary, by insertion order. -/
abbrev Headers := List (String × String)

/-! ## Exceptions -/

inductive CallerPolicyCode where
  | callerStateUnavailable
  | clientDisabled
  | credentialRevoked
  | credentialExpired
  | callerBindingUnavailable
  deriving DecidableEq, Repr

/-- The exceptions that pass through the services, by class. `unexpected` stands
for any other `Exception`; the last two derive from `BaseException` only. -/
inductive Failure where
  | externalApi (code : ErrorCode) (operationId : Option String) (headers : Headers)
  | callerPolicy (code : CallerPolicyCode)
  | quotaAdmission (code : QuotaAdmissionCode) (operationId : Option String)
  | openWebUI (error : UpstreamError)
  | bifrost (error : UpstreamError)
  | controlPlaneUnavailable
  | runtimeError (message : String)
  | valueError (message : String)
  | assertionError (message : String)
  | database
  | unexpected
  | cancelled
  | generatorExit
  deriving DecidableEq, Repr

namespace Failure

/-- What `except Exception` catches. -/
def isException : Failure → Bool
  | cancelled | generatorExit => false
  | _ => true

/-- `(OpenWebUIUpstreamError, ValueError, RuntimeError)`: the upstream errors,
the admission errors and the public errors are `RuntimeError`s themselves. -/
def isRecoverable : Failure → Bool
  | externalApi _ _ _ | callerPolicy _ | quotaAdmission _ _ | openWebUI _ | bifrost _
  | controlPlaneUnavailable | runtimeError _ | valueError _ => true
  | _ => false

/-- The exception a ledger transaction raises. -/
def ofLedger : LedgerError → Failure
  | .quotaAdmission code operationId => .quotaAdmission code operationId
  | .quotaState message => .runtimeError message
  | .valueError message => .valueError message
  | .integrityError _ => .database

/-- What is thrown into a task from outside: cancellation, or the close of its
generator. -/
def isInterrupt : Failure → Bool
  | cancelled | generatorExit => true
  | _ => false

end Failure

/-! ## Calls -/

inductive Call where
  | claimNonce (apiClientId credentialId nonce : String)
  | loadPolicy (caller : AuthenticatedCaller) (now : Int)
  | admitQps (apiClientId serverRequestId : String) (limit : Int)
  | admitOrEnqueue (arguments : PoolRequest)
  | cancelQueued (poolId apiClientId operationId : String)
  | heartbeatPool (poolId operationId : String)
  | releasePool (poolId operationId : String)
  | acquireConcurrency (apiClientId operationId : String) (limit : Int)
  | heartbeatConcurrency (apiClientId operationId : String)
  | releaseConcurrency (apiClientId operationId : String)
  | queueSleep (milliseconds : Int)
  | reserveQuota (arguments : ReserveArguments)
  | recordCredit (operationId settlementId usageOperationId : String) (now : Int)
  | recordUsage (operationId : String) (promptTokens completionTokens now : Int)
  | touchOperation (operationId : String) (now : Int)
  | terminalize (operationId : String) (fields : TerminalFields)
  | reserveCredit (operationId serviceUserId modelId : String) (provider : Option String)
  | settleCredit (operationId serviceUserId : String) (promptTokens completionTokens : Int)
  | cancelCredit (operationId serviceUserId : String)
  | creditStatus (operationId serviceUserId : String)
  | forwardChat (request : ChatCompletionRequest) (virtualKey : String)
  | streamNext (request : ChatCompletionRequest) (virtualKey : String)
  | closeStream
  | loadCandidates (now : Int)
  | finalizeRecovered (operationId : String) (usage : Option (Int × Int)) (fields : TerminalFields)
  deriving DecidableEq

/-- The type of an answer. `streamNext` answers `none` at the end of the stream. -/
@[reducible] def Call.Answer : Call → Type
  | claimNonce _ _ _ => Bool
  | loadPolicy _ _ => CallerPolicy
  | admitQps _ _ _ => QpsDecision
  | admitOrEnqueue _ => ModelPoolDecision
  | cancelQueued _ _ _ | heartbeatPool _ _ | releasePool _ _ => Bool
  | acquireConcurrency _ _ _ => ConcurrencyDecision
  | heartbeatConcurrency _ _ | releaseConcurrency _ _ => Bool
  | queueSleep _ => Unit
  | reserveQuota _ | recordCredit _ _ _ _ | recordUsage _ _ _ _ => Unit
  | touchOperation _ _ => Bool
  | terminalize _ _ => Unit
  | reserveCredit _ _ _ _ | settleCredit _ _ _ _ | cancelCredit _ _ | creditStatus _ _ =>
      CreditOperationSnapshot
  | forwardChat _ _ => ChatCompletionResponse
  | streamNext _ _ => Option Bytes
  | closeStream => Unit
  | loadCandidates _ => List RecoveryCandidate
  | finalizeRecovered _ _ _ => Unit

/-! ## Frames -/

/-- What a stream yields; `opened` stands for its hand-over, before the first pull. -/
inductive Frame where
  | opened
  | heartbeat
  | data (frame : Bytes)
  | done
  | error (code : ErrorCode) (serverRequestId operationId : String)
  deriving DecidableEq

namespace Frame

/-- The frames after which a stream is over. -/
def isFinal : Frame → Bool
  | done | error _ _ _ => true
  | _ => false

end Frame

/-- The clocks of the service: `time()`, its monotonic clock and `monotonic_ns()`. -/
inductive Clock where
  | wall
  | monotonic
  | monotonicNs
  deriving DecidableEq, Repr

/-- The interface of the chat service and its recovery worker. -/
@[reducible] def backend : Interface where
  Clock := Clock
  Call := Call
  Answer := Call.Answer
  Failure := Failure
  Frame := Frame

/-! ## Local variables -/

/-- The mutable objects of one request: response headers, the timer of its
lease, the latest decision of the model pool, the terminal flag, and the decoder
and the pending read of a stream. -/
structure Locals where
  headers : Headers
  nextHeartbeatAt : Int
  poolDecision : Option ModelPoolDecision
  terminalCommitted : Bool
  decoder : OpenAIStreamDecoder
  readPending : Bool

def Locals.initial : Locals where
  headers := []
  nextHeartbeatAt := 0
  poolDecision := none
  terminalCommitted := false
  decoder := .new
  readPending := false

/-- A routine of one request or of one recovery pass. -/
abbrev Action := Routine backend Locals

/-! ## Interactions -/

abbrev await (call : Call) : Action call.Answer := Routine.await (I := backend) call

abbrev perform (call : Call) : Action call.Answer := Routine.perform (I := backend) call

abbrev spawn (call : Call) : Action Unit := Routine.spawn (I := backend) call

abbrev wait (call : Call) (timeout : Int) : Action (Option (Except Failure call.Answer)) :=
  Routine.wait (I := backend) call timeout

abbrev abandon (call : Call) : Action Unit := Routine.abandon (I := backend) call

abbrev emit (frame : Frame) : Action Unit := Routine.emit (I := backend) frame

end Zangpu.Services.Chat
