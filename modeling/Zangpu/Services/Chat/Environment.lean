import Zangpu.Foundation.Processes
import Zangpu.Services.Callers
import Zangpu.Services.Chat
import Zangpu.Workers.Recovery

/-!
The environment of live requests and recovery passes.

Owns: the shared world of caller tables, quota ledger and credit service; what
every call does to it and answers, with every way a call can fail before or
after its effect; the roles of processes; and the behaviour of the system they
form.

Does not own: Redis and the provider, whose answers are arbitrary within the
exceptions of their clients.
-/

set_option autoImplicit false

namespace Zangpu.Services.Chat

open Zangpu.Foundation
open Zangpu.Models
open Zangpu.Integrations.OpenWebUI
open Zangpu.Services.Quota
open Zangpu.Services.Callers
open Zangpu.Workers.Recovery

structure World where
  callers : Callers
  ledger : Ledger
  credit : CreditLedger

/-- A deployment: the two configured services and the parts of their environment
that stay fixed. -/
structure Deployment where
  service : ExternalChatService
  worker : ExternalChatRecoveryWorker
  canonical : CreditLedger.Canonical
  reader : BindingReader

/-! ## Calls outside the database and the credit service -/

/-- Calls that leave the world alone: Redis, the provider and timers. -/
def Call.isPassive : Call → Bool
  | claimNonce _ _ _ | admitQps _ _ _ | admitOrEnqueue _ | cancelQueued _ _ _
  | heartbeatPool _ _ | releasePool _ _ | acquireConcurrency _ _ _ | heartbeatConcurrency _ _
  | releaseConcurrency _ _ | queueSleep _ | forwardChat _ _ | streamNext _ _ | closeStream => true
  | _ => false

/-- Calls to the credit service. -/
def Call.isCredit : Call → Bool
  | reserveCredit _ _ _ _ | settleCredit _ _ _ _ | cancelCredit _ _ | creditStatus _ _ => true
  | _ => false

/-- The exceptions of a Redis client call. -/
def Failure.isRedis : Failure → Bool
  | controlPlaneUnavailable | valueError _ | unexpected => true
  | _ => false

/-- The exceptions a lease renewal or a wait can raise: those of Redis and those
thrown in from outside. -/
def Failure.isLocal (failure : Failure) : Bool := failure.isRedis || failure.isInterrupt

/-- The exceptions of a provider call. -/
def Failure.isProvider : Failure → Bool
  | bifrost _ | unexpected => true
  | _ => false

/-- The exceptions a passive call can raise. -/
def Call.raises : Call → Failure → Bool
  | forwardChat _ _, failure | streamNext _ _, failure => failure.isProvider
  | closeStream, failure => failure.isException
  | queueSleep _, _ => false
  | _, failure => failure.isRedis

/-! ## Transactions -/

/-- The identifiers a transaction draws with `new_uuid`. -/
structure RowIds where
  dailyRow : String
  lifetimeRow : String
  event : String

/-- The transaction of `_terminalize`. -/
def terminalTransaction (ledger : Ledger) (ids : RowIds) (operationId : String)
    (fields : TerminalFields) : Except LedgerError (Unit × Ledger) := do
  let terminal ← OperationTerminal.create fields
  let (_, after) ← finalizeOperation ledger operationId ids.event terminal
  return ((), after)

/-- The transaction of a recovery: record the usage, if any, and finalize. -/
def recoveryTransaction (ledger : Ledger) (ids : RowIds) (operationId : String)
    (usage : Option (Int × Int)) (fields : TerminalFields) :
    Except LedgerError (Unit × Ledger) := do
  let recorded ←
    match usage with
    | none => pure ledger
    | some (promptTokens, completionTokens) =>
        recordProviderUsage ledger operationId promptTokens completionTokens fields.completedAt
  terminalTransaction recorded ids operationId fields

/-- The transaction of a call, `none` for calls that make none. -/
def Call.transact (deployment : Deployment) (ids : RowIds) (world : World) :
    (call : Call) → Option (Except LedgerError (call.Answer × Ledger))
  | reserveQuota arguments =>
      some ((reserveOperation world.callers world.ledger
        (arguments.request ids.dailyRow ids.lifetimeRow)).map fun result => ((), result.2))
  | recordCredit operationId settlementId usageOperationId now =>
      some ((recordCreditReservation world.ledger operationId settlementId usageOperationId
        now).map fun ledger => ((), ledger))
  | recordUsage operationId promptTokens completionTokens now =>
      some ((recordProviderUsage world.ledger operationId promptTokens completionTokens
        now).map fun ledger => ((), ledger))
  | touchOperation operationId now => some (touchPendingOperation world.ledger operationId now)
  | terminalize operationId fields =>
      some (terminalTransaction world.ledger ids operationId fields)
  | finalizeRecovered operationId usage fields =>
      some (recoveryTransaction world.ledger ids operationId usage fields)
  | loadCandidates now =>
      some (.ok (Workers.Recovery.loadCandidates deployment.worker world.callers world.ledger now,
        world.ledger))
  | _ => none

/-! ## Effects -/

/-- The reply of the credit client as the service sees it. -/
def fromCredit {Answer : Type} (reply : Except UpstreamError Answer) : Except Failure Answer :=
  reply.mapError Failure.openWebUI

/-- What a call does to the world and answers. A transaction commits, is refused
by the ledger, or fails in the database before or after its commit. -/
inductive Effects (deployment : Deployment) :
    World → (call : Call) → Except Failure call.Answer → World → Prop where
  | passive {world : World} {call : Call} (isPassive : call.isPassive = true)
      (answer : call.Answer) : Effects deployment world call (.ok answer) world
  | passiveFailure {world : World} {call : Call} {failure : Failure}
      (isPassive : call.isPassive = true) (raises : call.raises failure = true) :
      Effects deployment world call (.error failure) world
  | policy {world : World} (caller : AuthenticatedCaller) (now : Int) :
      Effects deployment world (.loadPolicy caller now)
        ((loadCallerPolicy deployment.reader world.callers caller now).mapError
          Failure.callerPolicy) world
  | policyFailure {world : World} (caller : AuthenticatedCaller) (now : Int) :
      Effects deployment world (.loadPolicy caller now) (.error .database) world
  | committed {world : World} {call : Call} {answer : call.Answer} {ledger : Ledger}
      (ids : RowIds) (result : call.transact deployment ids world = some (.ok (answer, ledger))) :
      Effects deployment world call (.ok answer) { world with ledger := ledger }
  | refused {world : World} {call : Call} {error : LedgerError} (ids : RowIds)
      (result : call.transact deployment ids world = some (.error error)) :
      Effects deployment world call (.error (.ofLedger error)) world
  | unreachable {world : World} {call : Call} (ids : RowIds)
      (transaction : (call.transact deployment ids world).isSome = true) :
      Effects deployment world call (.error .database) world
  | committedUnseen {world : World} {call : Call} {answer : call.Answer} {ledger : Ledger}
      (ids : RowIds) (result : call.transact deployment ids world = some (.ok (answer, ledger))) :
      Effects deployment world call (.error .database) { world with ledger := ledger }
  | reserveCredit {world : World} {operationId serviceUserId modelId : String}
      {provider : Option String} {reply : Except UpstreamError CreditOperationSnapshot}
      {credit : CreditLedger} (reserve : CreditLedger.Reserve deployment.canonical world.credit
        operationId serviceUserId modelId provider reply credit) :
      Effects deployment world (.reserveCredit operationId serviceUserId modelId provider)
        (fromCredit reply) { world with credit := credit }
  | settleCredit {world : World} {operationId serviceUserId : String}
      {promptTokens completionTokens chargedMicro : Int}
      {reply : Except UpstreamError CreditOperationSnapshot} {credit : CreditLedger}
      (charged : 0 ≤ chargedMicro ∧ chargedMicro ≤ Integrations.OpenWebUI.signedBigintMax)
      (conclude : CreditLedger.Conclude world.credit operationId
        (.succeeded promptTokens completionTokens chargedMicro) reply credit) :
      Effects deployment world
        (.settleCredit operationId serviceUserId promptTokens completionTokens)
        (fromCredit reply) { world with credit := credit }
  | cancelCredit {world : World} {operationId serviceUserId : String} {reported : CancelledAs}
      {reply : Except UpstreamError CreditOperationSnapshot} {credit : CreditLedger}
      (conclude : CreditLedger.Conclude world.credit operationId (.cancelled reported) reply
        credit) :
      Effects deployment world (.cancelCredit operationId serviceUserId) (fromCredit reply)
        { world with credit := credit }
  | creditStatus {world : World} {operationId serviceUserId : String}
      {reply : Except UpstreamError CreditOperationSnapshot}
      (status : CreditLedger.Status world.credit operationId reply) :
      Effects deployment world (.creditStatus operationId serviceUserId) (fromCredit reply) world
  | creditFailure {world : World} {call : Call} {failure : Failure}
      (isCredit : call.isCredit = true)
      (raised : failure = .unexpected ∨ ∃ message, failure = .valueError message) :
      Effects deployment world call (.error failure) world

/-! ## Processes -/

/-- The processes of the system: a non-streaming request, a streaming request
with the consumption of its stream, and one recovery pass. -/
inductive Role where
  | execute (chat : ChatRequest)
  | stream (chat : ChatRequest)
  | recovery (now : Int)

namespace Role

/-- The request of a live role. -/
def chat? : Role → Option ChatRequest
  | execute chat | stream chat => some chat
  | recovery _ => none

end Role

/-- The stream in the hands of its consumer. Its body starts with the first pull:
closing it before runs none of it. -/
def handOver (service : ExternalChatService) (admission : StreamAdmission) : Action Unit := do
  emit .opened
  streamResponse service admission

/-- A streaming request: prepare it, then hand over the stream it returns. -/
def serveStream (service : ExternalChatService) (chat : ChatRequest) : Action Unit := do
  let admission ← prepareStream service chat
  handOver service admission

/-- The program of a role. What it returns or raises is not used further. -/
def Deployment.program (deployment : Deployment) : Role → Program backend Unit
  | .execute chat =>
      ((execute deployment.service chat).start .initial).bind fun _ => .done ()
  | .stream chat =>
      ((serveStream deployment.service chat).start .initial).bind fun _ => .done ()
  | .recovery now => ((runOnce now).start .initial).bind fun _ => .done ()

abbrev ChatSystem := System backend Role Unit World

abbrev ChatProcess := Process backend Role Unit

/-- An identifier that `new_uuid` can draw: no row, no credit operation and no
other request uses it. -/
def Unused (system : ChatSystem) (operationId : String) : Prop :=
  system.world.ledger.operations.find? operationId = none ∧
    system.world.credit.find? operationId = none ∧
    ∀ process ∈ system.processes, ∀ chat ∈ process.role.chat?, chat.operationId ≠ operationId

instance (system : ChatSystem) (operationId : String) : Decidable (Unused system operationId) :=
  inferInstanceAs (Decidable (_ ∧ _ ∧ _))

/-- The system of a deployment. Caller tables change at any time. -/
def Deployment.behaviour (deployment : Deployment) : Behaviour backend Role Unit World where
  program := deployment.program
  mayStart system role := ∀ chat ∈ role.chat?, Unused system chat.operationId
  semantics := Effects deployment
  interrupts failure := failure.isInterrupt = true
  drifts before after := ∃ callers, after = { before with callers := callers }

end Zangpu.Services.Chat
