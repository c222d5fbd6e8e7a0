import Zangpu.Foundation.Solo
import Zangpu.Foundation.Uuid
import Zangpu.Services.Chat.Environment
import Zangpu.Services.Quota.Limits

/-!
An environment without contention.

Owns: the host that admits every request at once, commits every transaction that the
ledger accepts, answers for the credit service from its records and for the provider
with a fixed response; and that all its answers are answers of the environment.

Does not own: failures, queues and lost answers.
-/

set_option autoImplicit false

namespace Zangpu.Services.Chat

open Zangpu.Foundation
open Zangpu.Api
open Zangpu.Models
open Zangpu.Integrations.OpenWebUI
open Zangpu.Services.Quota
open Zangpu.Services.Callers

/-- `str(UUID(text))`, for a text that the parser accepts. -/
def canonicalUuid (text : String) : String := ((Uuid.parse text).map Uuid.str).getD text

/-- What is fixed about the host: its clock, the identifiers its transactions draw and
the response of the provider. -/
structure Hosting where
  now : Int
  ids : RowIds
  response : ChatCompletionResponse

variable (deployment : Deployment) (hosting : Hosting)

/-- Commit the transaction of a call, or refuse it with the error of the ledger. -/
def commit (call : Call) (world : World) : Except Failure call.Answer × World :=
  match call.transact deployment hosting.ids world with
  | some (.ok (answer, ledger)) => (.ok answer, { world with ledger := ledger })
  | some (.error error) => (.error (.ofLedger error), world)
  | none => (.error .database, world)

/-- Open a credit operation, or report the one there is. -/
def hostReserve (operationId serviceUserId modelId : String) (provider : Option String)
    (world : World) : Except Failure CreditOperationSnapshot × World :=
  match world.credit.find? operationId with
  | some operation => (.ok operation.snapshot, world)
  | none =>
      let opened : CreditOperation := ⟨operationId, "settlement", deployment.canonical
        serviceUserId, modelId, provider, .pending⟩
      (.ok opened.snapshot, { world with credit := world.credit.insertNew opened })

def hostStatus (operationId : String) (world : World) :
    Except Failure CreditOperationSnapshot × World :=
  match world.credit.find? operationId with
  | some operation => (.ok operation.snapshot, world)
  | none => (.error (.openWebUI ⟨notFoundCode, 404, false⟩), world)

/-- Conclude a credit operation the service knows. -/
def hostConclude (operationId : String) (state : CreditState) (world : World) :
    Except Failure CreditOperationSnapshot × World :=
  match world.credit.find? operationId with
  | some operation =>
      (.ok (operation.conclude state).snapshot,
        { world with
          credit := world.credit.modify operationId (CreditOperation.conclude state)
            (CreditOperation.conclude_operationId state) })
  | none => (.error (.openWebUI ⟨notFoundCode, 404, false⟩), world)

def hostAnswer : (call : Call) → World → Except Failure call.Answer × World
  | .claimNonce _ _ _, world => (.ok true, world)
  | .loadPolicy caller now, world =>
      ((loadCallerPolicy deployment.reader world.callers caller now).mapError
        Failure.callerPolicy, world)
  | .admitQps _ _ limit, world => (.ok ⟨true, 1, limit, limit - 1, 1000, 0⟩, world)
  | .admitOrEnqueue arguments, world =>
      (.ok ⟨.admitted, arguments.activeLimit, arguments.activeLimit - 1, arguments.queueLimit,
        arguments.queueLimit, 1000, 0⟩, world)
  | .cancelQueued _ _ _, world | .heartbeatPool _ _, world | .releasePool _ _, world
  | .heartbeatConcurrency _ _, world | .releaseConcurrency _ _, world => (.ok true, world)
  | .acquireConcurrency _ _ limit, world => (.ok ⟨true, 1, limit, limit - 1, 1000, 0⟩, world)
  | .queueSleep _, world | .closeStream, world => (.ok (), world)
  | .forwardChat _ _, world => (.ok hosting.response, world)
  | .streamNext _ _, world => (.ok none, world)
  | .reserveCredit operationId serviceUserId modelId provider, world =>
      hostReserve deployment operationId serviceUserId modelId provider world
  | .settleCredit operationId _ promptTokens completionTokens, world =>
      hostConclude operationId (.succeeded promptTokens completionTokens 0) world
  | .cancelCredit operationId _, world =>
      hostConclude operationId (.cancelled .failedNoCharge) world
  | .creditStatus operationId _, world => hostStatus operationId world
  | call, world => commit deployment hosting call world

def Deployment.host : Host backend World where
  reading clock := match clock with
    | .wall => hosting.now
    | .monotonic | .monotonicNs => 0
  answer := hostAnswer deployment hosting

/-- Committed transactions are effects of their call. -/
theorem commit_effects (call : Call) (world : World)
    (transacts : ∀ ids, (call.transact deployment ids world).isSome = true) :
    Effects deployment world call (commit deployment hosting call world).1
      (commit deployment hosting call world).2 := by
  unfold commit
  split
  · rename_i answer ledger result
    exact .committed hosting.ids result
  · rename_i error result
    exact .refused hosting.ids result
  · exact .unreachable hosting.ids (transacts _)

theorem hostReserve_effects (operationId serviceUserId modelId : String)
    (provider : Option String) (world : World) :
    Effects deployment world (.reserveCredit operationId serviceUserId modelId provider)
      (hostReserve deployment operationId serviceUserId modelId provider world).1
      (hostReserve deployment operationId serviceUserId modelId provider world).2 := by
  unfold hostReserve
  split
  · rename_i operation found
    exact .reserveCredit (.repeated found)
  · rename_i absent
    exact .reserveCredit (.opened absent "settlement")

theorem hostStatus_effects (operationId serviceUserId : String) (world : World) :
    Effects deployment world (.creditStatus operationId serviceUserId)
      (hostStatus operationId world).1 (hostStatus operationId world).2 := by
  unfold hostStatus
  split
  · rename_i operation found
    exact .creditStatus (.known found)
  · rename_i absent
    exact .creditStatus (.unknown absent rfl)

theorem hostSettle_effects (operationId serviceUserId : String)
    (promptTokens completionTokens : Int) (world : World) :
    Effects deployment world
      (.settleCredit operationId serviceUserId promptTokens completionTokens)
      (hostConclude operationId (.succeeded promptTokens completionTokens 0) world).1
      (hostConclude operationId (.succeeded promptTokens completionTokens 0) world).2 := by
  unfold hostConclude
  split
  · rename_i operation found
    exact .settleCredit (by decide) (.concluded found)
  · rename_i absent
    have unknown : CreditLedger.Conclude world.credit operationId
        (.succeeded promptTokens completionTokens 0) (.error ⟨notFoundCode, 404, false⟩)
        world.credit := .unknown absent rfl
    exact .settleCredit (by decide) unknown

theorem hostCancel_effects (operationId serviceUserId : String) (world : World) :
    Effects deployment world (.cancelCredit operationId serviceUserId)
      (hostConclude operationId (.cancelled .failedNoCharge) world).1
      (hostConclude operationId (.cancelled .failedNoCharge) world).2 := by
  unfold hostConclude
  split
  · rename_i operation found
    exact .cancelCredit (.concluded found)
  · rename_i absent
    have unknown : CreditLedger.Conclude world.credit operationId (.cancelled .failedNoCharge)
        (.error ⟨notFoundCode, 404, false⟩) world.credit := .unknown absent rfl
    exact .cancelCredit unknown

/-- The host answers as the environment can. -/
theorem host_lawful (call : Call) (world : World) :
    deployment.behaviour.semantics world call ((deployment.host hosting).answer call world).1
      ((deployment.host hosting).answer call world).2 := by
  cases call with
  | claimNonce | admitQps | admitOrEnqueue | cancelQueued | heartbeatPool | releasePool
  | heartbeatConcurrency | releaseConcurrency | acquireConcurrency | queueSleep | closeStream
  | forwardChat | streamNext => exact .passive rfl _
  | loadPolicy caller now => exact .policy caller now
  | reserveQuota | recordCredit | recordUsage | touchOperation | terminalize | finalizeRecovered
  | loadCandidates => exact commit_effects deployment hosting _ world fun _ => rfl
  | reserveCredit => exact hostReserve_effects deployment _ _ _ _ world
  | settleCredit => exact hostSettle_effects deployment _ _ _ _ world
  | cancelCredit => exact hostCancel_effects deployment _ _ world
  | creditStatus => exact hostStatus_effects deployment _ _ world

/-! ## A sample deployment -/

/-- Its credit service reads user identifiers as UUIDs, and every bound key decrypts. -/
def sampleDeployment : Deployment where
  service := sampleService
  worker := ⟨30, 1, by decide, by decide⟩
  canonical := canonicalUuid
  reader := ⟨fun text => (Uuid.parse text).isSome, fun _ => some "virtual key"⟩

/-- An active binding of the client `client` to a service user. -/
def sampleUserBinding (serviceUserId : String) : ApiClientBinding where
  id := "binding"
  apiClientId := "client"
  zangpuServiceUserId := some serviceUserId
  bifrostVirtualKeyId := some "key"
  bifrostValueCiphertext := some "ciphertext"
  bifrostValueKeyVersion := some "version"
  bifrostConfigHash := ""
  syncStatus := .active
  lastSyncErrorCode := none
  version := 1
  createdAt := 0
  updatedAt := 0

def sampleWorld (serviceUserId : String) : World where
  callers := { sampleCallers with
    bindings := Table.empty.insertNew (sampleUserBinding serviceUserId) }
  ledger := .empty
  credit := .empty

theorem uncapped_bounded : ∀ limit ∈ (none : Option Int), 0 < limit ∧ limit ≤ 2147483647 := by
  simp

/-- A request of the sample client for the sample model. -/
def sampleChat (maxTokens : Option Int)
    (bounded : ∀ limit ∈ maxTokens, 0 < limit ∧ limit ≤ 2147483647) : ChatRequest where
  request := {
    model := "model"
    messages := [⟨.user, "hello"⟩]
    stream := false
    maxTokens := maxTokens
    maxCompletionTokens := none
    maxTokensBounded := bounded
    maxCompletionTokensBounded := uncapped_bounded
    exclusive := .inr rfl }
  caller := ⟨"client", "credential", "key", "request-number-one", "nonce", 86400⟩
  serverRequestId := "server"
  requestFingerprint := String.ofList (List.replicate 64 'a')
  operationId := "operation"

def sampleHosting : Hosting where
  now := 86400
  ids := ⟨"daily", "lifetime", "event"⟩
  response := ⟨"response", ⟨3, 4, 7, by decide, by decide, by decide, by decide⟩⟩

/-- The request after some interactions with the sample host. -/
def sampleRun (serviceUserId : String) (chat : ChatRequest) (count : Nat) : World × ChatProcess :=
  (Process.fresh (.execute chat) (sampleDeployment.behaviour.program (.execute chat))).interactions
    (sampleDeployment.host sampleHosting) (sampleWorld serviceUserId) count

theorem sampleRun_reaches (serviceUserId : String) (chat : ChatRequest) (count : Nat) :
    Reaches sampleDeployment.behaviour (fun _ _ => True) ⟨sampleWorld serviceUserId, [], []⟩
      ⟨(sampleRun serviceUserId chat count).1, [(sampleRun serviceUserId chat count).2], []⟩ := by
  apply Process.interactions_reach (host_lawful sampleDeployment sampleHosting)
  intro started member
  exact ⟨rfl, rfl, fun _ absent => by cases absent⟩

end Zangpu.Services.Chat
