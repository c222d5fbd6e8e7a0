import Zangpu.Foundation.Contract
import Zangpu.Services.Chat.Quiet

/-!
The settlement protocol of an operation, as a discipline.

Owns: what a live request has done about its operation and was told of it, from its
reservation to its final frame; what a recovery pass was told; which calls and
frames each may send next; and the discipline made of both.

Does not own: that the programs follow it, and what it is good for.
-/

set_option autoImplicit false

namespace Zangpu.Services.Chat

open Zangpu.Foundation
open Zangpu.Api
open Zangpu.Models
open Zangpu.Integrations.OpenWebUI
open Zangpu.Services.Quota
open Zangpu.Services.Streaming
open Zangpu.Workers.Recovery

/-- The prompt and completion tokens of a usage report. -/
def tokensOf (usage : ChatUsage) : Int × Int := (usage.promptTokens, usage.completionTokens)

/-! ## Live requests -/

/-- What a live request has done about its operation so far. `reported` is every usage
the provider reported, `usage` the one it sent for recording, `recorded` the one whose
recording was answered, and `charged` the charge of a settlement reply that confirmed
the tokens it was asked for. -/
structure Account where
  chat : ChatRequest
  reserved : Bool
  settlementId : Option String
  refused : Bool
  opened : Bool
  forwarded : Bool
  decoder : OpenAIStreamDecoder
  reported : List (Int × Int)
  usage : Option (Int × Int)
  recorded : Option (Int × Int)
  charged : Option Int
  completed : Bool
  cancelling : Bool
  cancelled : Bool
  closed : Bool

namespace Account

def start (chat : ChatRequest) : Account where
  chat := chat
  reserved := false
  settlementId := none
  refused := false
  opened := false
  forwarded := false
  decoder := .new
  reported := []
  usage := none
  recorded := none
  charged := none
  completed := false
  cancelling := false
  cancelled := false
  closed := false

/-- A settlement reply that confirms the tokens it was asked for. -/
def confirms (promptTokens completionTokens : Int) (snapshot : CreditOperationSnapshot) : Bool :=
  snapshot.status = .succeededCharged && snapshot.promptTokens = promptTokens &&
    snapshot.completionTokens = completionTokens

/-- Take in a chunk of the provider stream. -/
def fed (parser : Parser) (account : Account) (chunk : Bytes) : Account :=
  let decoder := (account.decoder.feed parser chunk).2
  { account with
    decoder := decoder
    reported := (decoder.usage.map tokensOf).toList ++ account.reported }

def sent (account : Account) : Call → Account
  | .forwardChat _ _ => { account with forwarded := true }
  | .recordUsage _ promptTokens completionTokens _ =>
      { account with usage := some (promptTokens, completionTokens) }
  | .cancelCredit _ _ => { account with cancelling := true }
  | _ => account

/-- The call names the request or its operation, or none at all. -/
def concerns (account : Account) : Call → Bool
  | .reserveQuota arguments =>
      arguments.operationId = account.chat.operationId &&
        arguments.apiClientId = account.chat.caller.apiClientId &&
        arguments.clientRequestId = account.chat.caller.requestId &&
        arguments.modelId = account.chat.request.model
  | .reserveCredit operationId _ _ _ | .recordCredit operationId _ _ _
  | .recordUsage operationId _ _ _ | .settleCredit operationId _ _ _
  | .cancelCredit operationId _ | .terminalize operationId _ =>
      operationId = account.chat.operationId
  | _ => true

/-- What the answer to a call tells a request. -/
def heard (parser : Parser) (account : Account) :
    (call : Call) → Except Failure call.Answer → Account
  | .reserveQuota _, .ok () => { account with reserved := true }
  | .reserveCredit _ _ _ _, .ok snapshot =>
      { account with settlementId := some snapshot.settlementId }
  | .reserveCredit _ _ _ _, .error (.openWebUI error) =>
      { account with refused := account.refused || decide (error.code ∈ refusalCodes) }
  | .recordCredit _ _ _ _, .ok () => { account with opened := true }
  | .forwardChat _ _, .ok response =>
      { account with reported := tokensOf response.usage :: account.reported }
  | .streamNext _ _, .ok (some chunk) => account.fed parser chunk
  | .recordUsage _ promptTokens completionTokens _, .ok () =>
      { account with recorded := some (promptTokens, completionTokens) }
  | .settleCredit _ _ promptTokens completionTokens, .ok snapshot =>
      if confirms promptTokens completionTokens snapshot then
        { account with charged := some snapshot.chargedMicro }
      else account
  | .cancelCredit _ _, .ok snapshot =>
      { account with cancelled := account.cancelled || isCancelled snapshot.status }
  | .terminalize _ fields, .ok () =>
      { account with completed := account.completed || decide (fields.status = .completed) }
  | _, _ => account

def answered (parser : Parser) (account : Account) (call : Call)
    (answer : Except Failure call.Answer) : Account :=
  if account.concerns call then account.heard parser call answer else account

def after (parser : Parser) (account : Account) : Event backend → Account
  | .sent call => account.sent call
  | .answered call answer => account.answered parser call answer
  | .lost _ => account
  | .emitted frame => { account with closed := account.closed || frame.isFinal }

/-- The evidence for a verdict: the charge of a confirming settlement, or no charge
where no usage was sent and the credit was refused or cancelled. -/
def supports (account : Account) (verdict : Verdict) : Prop :=
  account.charged = some verdict.chargedMicro ∨
    (verdict.chargedMicro = 0 ∧ verdict.status ≠ .completed ∧ account.usage = none ∧
      (account.refused = true ∧
          (verdict.code = some .creditBalanceExhausted ∨ verdict.code = some .creditAccountFrozen) ∨
        account.cancelled = true ∧ account.cancelling = true))

/-- The public code of a verdict. -/
def textOf (verdict : Verdict) : String := (verdict.code.map ErrorCode.text).getD "OK"

/-- A terminal record for a supported verdict. -/
def justifies (account : Account) (fields : TerminalFields) : Prop :=
  ∃ verdict : Verdict, account.supports verdict ∧ fields.status = verdict.status ∧
    fields.chargedMicro = verdict.chargedMicro ∧ fields.businessCode = textOf verdict

/-- Which calls a live request may send. -/
def permitsCall (account : Account) : Call → Prop
  | .reserveQuota arguments =>
      arguments.operationId = account.chat.operationId ∧
        arguments.apiClientId = account.chat.caller.apiClientId ∧
        arguments.clientRequestId = account.chat.caller.requestId ∧
        arguments.modelId = account.chat.request.model
  | .reserveCredit operationId _ modelId provider =>
      operationId = account.chat.operationId ∧ account.reserved = true ∧
        modelId = account.chat.request.model ∧ provider = some "bifrost"
  | .recordCredit operationId settlementId usageOperationId _ =>
      operationId = account.chat.operationId ∧ account.settlementId = some settlementId ∧
        usageOperationId = usageOperationIdOf operationId
  | .forwardChat request _ =>
      request = account.chat.request ∧ account.reserved = true ∧ account.opened = true ∧
        account.forwarded = false
  | .streamNext request _ =>
      request = account.chat.request ∧ account.reserved = true ∧ account.opened = true
  | .recordUsage operationId promptTokens completionTokens _ =>
      operationId = account.chat.operationId ∧
        (promptTokens, completionTokens) ∈ account.reported ∧
        (∀ earlier ∈ account.usage, earlier = (promptTokens, completionTokens)) ∧
        account.settlementId ≠ none ∧ account.refused = false ∧ account.cancelling = false
  | .settleCredit operationId _ promptTokens completionTokens =>
      operationId = account.chat.operationId ∧
        account.recorded = some (promptTokens, completionTokens)
  | .cancelCredit operationId _ =>
      operationId = account.chat.operationId ∧ account.usage = none
  | .terminalize operationId fields =>
      operationId = account.chat.operationId ∧
        fields.serverRequestId = account.chat.serverRequestId ∧ account.justifies fields
  | .creditStatus _ _ | .loadCandidates _ | .finalizeRecovered _ _ _ => False
  | _ => True

/-- Which frames a live request may yield: none after a final one, and `[DONE]` only
for the decoded usage, once its completed record is committed. -/
def permitsFrame (account : Account) (frame : Frame) : Prop :=
  account.closed = false ∧
    (frame = .done → account.completed = true ∧
      ∃ usage, account.decoder.usage = some usage ∧ account.recorded = some (tokensOf usage))

end Account

/-! ## Recovery passes -/

/-- What a recovery pass was told: its candidates, the records of the credit service,
and the operations the credit service does not know. -/
structure Inquiry where
  candidates : List RecoveryCandidate
  told : List CreditOperationSnapshot
  unknown : List String

namespace Inquiry

def start : Inquiry := ⟨[], [], []⟩

/-- The credit service does not know the operation. -/
def misses (inquiry : Inquiry) (operationId : String) : Inquiry :=
  { inquiry with unknown := operationId :: inquiry.unknown }

def answered (inquiry : Inquiry) : (call : Call) → Except Failure call.Answer → Inquiry
  | .loadCandidates _, .ok candidates =>
      { inquiry with candidates := candidates ++ inquiry.candidates }
  | .creditStatus _ _, .ok remote | .settleCredit _ _ _ _, .ok remote
  | .cancelCredit _ _, .ok remote => { inquiry with told := remote :: inquiry.told }
  | .creditStatus operationId _, .error (.openWebUI error) =>
      if error.code = notFoundCode then inquiry.misses operationId else inquiry
  | _, _ => inquiry

def after (inquiry : Inquiry) : Event backend → Inquiry
  | .answered call answer => inquiry.answered call answer
  | _ => inquiry

/-- A candidate the credit service reported open, with the usage it was loaded with. -/
def Concludes (inquiry : Inquiry) (operationId serviceUserId : String)
    (usage : Option (Int × Int)) : Prop :=
  ∃ candidate ∈ inquiry.candidates, ∃ remote ∈ inquiry.told,
    operationId = candidate.operationId ∧ serviceUserId = candidate.serviceUserId ∧
      validIdentity candidate remote = true ∧ remote.status = .pending ∧
      usage = if candidate.providerUsageRecorded then
        some (candidate.promptTokens, candidate.completionTokens) else none

/-- The evidence for the record of a candidate: a terminal record of the credit
service, or its ignorance of an operation without credit evidence. -/
def Justifies (inquiry : Inquiry) (operationId : String) (usage : Option (Int × Int))
    (fields : TerminalFields) : Prop :=
  ∃ candidate ∈ inquiry.candidates, operationId = candidate.operationId ∧ ∃ now,
    (∃ remote ∈ inquiry.told, validIdentity candidate remote = true ∧
        isTerminal remote.status = true ∧ usage = remoteUsage candidate remote ∧
        fields = remoteFields candidate remote now) ∨
      (operationId ∈ inquiry.unknown ∧ candidate.settlementId = none ∧
        candidate.providerUsageRecorded = false ∧ usage = none ∧
        fields = unknownFields candidate now)

/-- Which calls a recovery pass may send. -/
def permitsCall (inquiry : Inquiry) : Call → Prop
  | .loadCandidates _ => True
  | .creditStatus operationId serviceUserId =>
      ∃ candidate ∈ inquiry.candidates,
        operationId = candidate.operationId ∧ serviceUserId = candidate.serviceUserId
  | .settleCredit operationId serviceUserId promptTokens completionTokens =>
      inquiry.Concludes operationId serviceUserId (some (promptTokens, completionTokens))
  | .cancelCredit operationId serviceUserId =>
      inquiry.Concludes operationId serviceUserId none
  | .finalizeRecovered operationId usage fields => inquiry.Justifies operationId usage fields
  | _ => False

end Inquiry

/-! ## The discipline -/

/-- Where a process stands in the settlement protocol. -/
inductive Standing where
  | live (account : Account)
  | recovery (inquiry : Inquiry)

namespace Standing

def start : Role → Standing
  | .execute chat | .stream chat => live (.start chat)
  | .recovery _ => recovery .start

def after (parser : Parser) : Standing → Event backend → Standing
  | live account, event => live (account.after parser event)
  | recovery inquiry, event => recovery (inquiry.after event)

def permits : Standing → Event backend → Prop
  | live account, .sent call => account.permitsCall call
  | live account, .emitted frame => account.permitsFrame frame
  | recovery inquiry, .sent call => inquiry.permitsCall call
  | recovery _, .emitted _ => False
  | _, _ => True

/-- A live request, whatever it has done. -/
def IsLive (standing : Standing) : Prop := ∃ account, standing = live account

end Standing

/-- The settlement protocol. An answer is one the environment can give. -/
def Deployment.settlement (deployment : Deployment) : Discipline backend Standing where
  after := Standing.after deployment.service.parser
  permits := Standing.permits
  answerable call answer := ∃ before after, Effects deployment before call answer after
  interrupts failure := failure.isInterrupt = true

/-! ## Calls it takes no notice of -/

/-- Calls that tell nothing and are always free. -/
def Call.isUnnoticed : Call → Bool
  | loadPolicy _ _ | touchOperation _ _ => true
  | call => call.isNeutral

theorem isUnnoticed_of_isNeutral {call : Call} (neutral : call.isNeutral = true) :
    call.isUnnoticed = true := by
  cases call <;> first | rfl | cases neutral

section Unnoticed

variable {call : Call} (unnoticed : call.isUnnoticed = true)

include unnoticed

theorem Account.permitsCall_of_unnoticed (account : Account) : account.permitsCall call := by
  cases call <;> first | exact trivial | cases unnoticed

theorem Account.sent_of_unnoticed (account : Account) : account.sent call = account := by
  cases call <;> first | rfl | cases unnoticed

theorem Account.answered_of_unnoticed (parser : Parser) (account : Account)
    (answer : Except Failure call.Answer) : account.answered parser call answer = account := by
  cases call <;> first | (cases answer <;> rfl) | cases unnoticed

end Unnoticed

/-- A permitted call concerns the request, and its answer is heard. -/
theorem Account.answered_of_permitted {account : Account} {call : Call}
    (permitted : account.permitsCall call) (parser : Parser) (answer : Except Failure call.Answer) :
    (account.sent call).answered parser call answer =
      (account.sent call).heard parser call answer := by
  apply if_pos
  cases call with
  | reserveQuota arguments =>
      obtain ⟨operation, client, request, model⟩ := permitted
      simp only [concerns, Bool.and_eq_true, decide_eq_true_eq]
      exact ⟨⟨⟨operation, client⟩, request⟩, model⟩
  | reserveCredit | recordCredit | recordUsage | settleCredit | cancelCredit | terminalize =>
      exact decide_eq_true permitted.1
  | _ => rfl

/-- A live request is free to make neutral calls, and they change nothing. -/
theorem settlement_overlooks (deployment : Deployment) :
    Overlooks deployment.settlement Standing.IsLive where
  permits := by
    rintro call _ neutral ⟨account, rfl⟩
    exact account.permitsCall_of_unnoticed (isUnnoticed_of_isNeutral neutral)
  sent := by
    rintro call _ neutral ⟨account, rfl⟩
    exact congrArg Standing.live (account.sent_of_unnoticed (isUnnoticed_of_isNeutral neutral))
  answered := by
    rintro call _ answer neutral ⟨account, rfl⟩
    exact congrArg Standing.live
      (account.answered_of_unnoticed (isUnnoticed_of_isNeutral neutral) _ answer)
  lost := by
    rintro call _ ⟨account, rfl⟩
    rfl
  raises := by
    rintro call failure passive ⟨before, after, effects⟩
    exact raises_of_effects passive effects
  interrupts := fun _ interrupts => interrupts

end Zangpu.Services.Chat
