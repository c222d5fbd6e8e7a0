import Zangpu.Foundation.Contract
import Zangpu.Services.Chat.Quiet

/-!
What a live request says in its calls, as a discipline.

Owns: what a request has learnt of its policy, its reservation and the credit reply
it checks; the contents each call must have in return; which call must follow a
credit reply that passes its check; and the discipline made of them.

Does not own: that the programs follow it, and the order of the calls.
-/

set_option autoImplicit false

namespace Zangpu.Services.Chat

open Zangpu.Foundation
open Zangpu.Api
open Zangpu.Integrations.OpenWebUI
open Zangpu.Services.Quota
open Zangpu.Services.Streaming

/-! ## Credit replies -/

/-- The checks of credit replies: of the one that opens the operation, and of one
that concludes it. -/
inductive Check where
  | reservation
  | conclusion
  deriving DecidableEq, Repr

/-- The call that follows a reply that passes the check. -/
def Check.isConfirmedBy : Check → Call → Bool
  | reservation, .recordCredit _ _ _ _ => true
  | conclusion, .terminalize _ _ => true
  | _, _ => false

/-- What a credit reply must say of the operation of a request, its user apart. -/
def sameOperation (chat : ChatRequest) (snapshot : CreditOperationSnapshot) : Bool :=
  snapshot.operationId = chat.operationId && snapshot.modelId = chat.request.model &&
    snapshot.provider = some "bifrost" &&
    snapshot.usageOperationId = some (usageOperationIdOf chat.operationId)

def opens (chat : ChatRequest) (snapshot : CreditOperationSnapshot) : Bool :=
  sameOperation chat snapshot && snapshot.status = .pending

def settles (chat : ChatRequest) (settlementId : String) (promptTokens completionTokens : Int)
    (snapshot : CreditOperationSnapshot) : Bool :=
  sameOperation chat snapshot && snapshot.settlementId = settlementId &&
    snapshot.status = .succeededCharged && snapshot.promptTokens = promptTokens &&
    snapshot.completionTokens = completionTokens &&
    snapshot.totalTokens = promptTokens + completionTokens

def cancels (chat : ChatRequest) (settlementId : String)
    (snapshot : CreditOperationSnapshot) : Bool :=
  sameOperation chat snapshot && snapshot.settlementId = settlementId &&
    snapshot.promptTokens = 0 && snapshot.completionTokens = 0 && snapshot.totalTokens = 0 &&
    (snapshot.status = .cancelledCharged || snapshot.status = .failedNoCharge) &&
    snapshot.chargedMicro = 0

/-! ## Phases -/

/-- What a request has learnt so far: its policy, the first reservation made for it,
the settlement of its credit reservation, and the verdict on the latest credit reply. -/
structure Dialogue where
  policy : Option CallerPolicy
  reservation : Option ReserveArguments
  settlementId : Option String
  verdict : Option (Check × Bool)

namespace Dialogue

def start : Dialogue := ⟨none, none, none, none⟩

/-- The reply names the service user of the policy. -/
def sameUser (dialogue : Dialogue) (snapshot : CreditOperationSnapshot) : Bool :=
  dialogue.policy.map CallerPolicy.serviceUserId = some snapshot.serviceUserId

/-- The check of the answer to a call, and whether the answer passes it, its user
apart. -/
def checked (chat : ChatRequest) (dialogue : Dialogue) :
    (call : Call) → Except Failure call.Answer → Option (Check × CreditOperationSnapshot × Bool)
  | .reserveCredit _ _ _ _, .ok snapshot => some (.reservation, snapshot, opens chat snapshot)
  | .settleCredit _ _ promptTokens completionTokens, .ok snapshot =>
      some (.conclusion, snapshot, dialogue.settlementId.any fun settlementId =>
        settles chat settlementId promptTokens completionTokens snapshot)
  | .cancelCredit _ _, .ok snapshot =>
      some (.conclusion, snapshot, dialogue.settlementId.any fun settlementId =>
        cancels chat settlementId snapshot)
  | _, _ => none

def sent (dialogue : Dialogue) : Call → Dialogue
  | .recordCredit _ _ _ _ | .terminalize _ _ => { dialogue with verdict := none }
  | _ => dialogue

/-- The verdict on an answer, where it is a credit reply. -/
def judged (chat : ChatRequest) (dialogue : Dialogue) (call : Call)
    (answer : Except Failure call.Answer) : Option (Check × Bool) :=
  match dialogue.checked chat call answer with
  | some (check, snapshot, valid) => some (check, valid && dialogue.sameUser snapshot)
  | none => dialogue.verdict

def answered (chat : ChatRequest) (dialogue : Dialogue) (call : Call)
    (answer : Except Failure call.Answer) : Dialogue where
  policy :=
    match call, answer with
    | .loadPolicy _ _, .ok policy => some policy
    | _, _ => dialogue.policy
  reservation :=
    match call, answer with
    | .reserveQuota arguments, .ok () => dialogue.reservation.or (some arguments)
    | _, _ => dialogue.reservation
  settlementId :=
    match call, answer with
    | .reserveCredit _ _ _ _, .ok snapshot => some snapshot.settlementId
    | _, _ => dialogue.settlementId
  verdict := dialogue.judged chat call answer

def after (chat : ChatRequest) (dialogue : Dialogue) : Event backend → Dialogue
  | .sent call => dialogue.sent call
  | .answered call answer => dialogue.answered chat call answer
  | .lost _ | .emitted _ => dialogue

/-- A credit reply that passed its check has not been followed up yet. -/
def isOwed (dialogue : Dialogue) : Bool :=
  match dialogue.verdict with
  | some (_, passed) => passed
  | none => false

/-- The call follows the verdict on the latest credit reply: after one that passed
nothing but its confirmation, after one that failed no confirmation. -/
def follows (dialogue : Dialogue) (call : Call) : Prop :=
  match dialogue.verdict with
  | some (check, passed) => check.isConfirmedBy call = passed
  | none => True

/-- A call to the credit service for the request and the user of its policy. -/
def addresses (chat : ChatRequest) (dialogue : Dialogue) (operationId serviceUserId : String) :
    Prop :=
  operationId = chat.operationId ∧
    dialogue.policy.map CallerPolicy.serviceUserId = some serviceUserId

/-- The tokens of a reservation: the estimate and the output admitted under the
policy. -/
def covers (service : ExternalChatService) (chat : ChatRequest) (dialogue : Dialogue)
    (reservedTokens : Int) : Prop :=
  ∃ policy admitted, dialogue.policy = some policy ∧
    chat.request.admittedOutputTokens policy.maxOutputTokensPerRequest
      service.globalMaxOutputTokens = .ok admitted ∧
    reservedTokens = estimatePromptTokens chat.request + admitted

/-- Its reservation is for the operation, and for the tokens of its request. -/
def Covered (service : ExternalChatService) (chat : ChatRequest) (dialogue : Dialogue) : Prop :=
  ∃ arguments, dialogue.reservation = some arguments ∧ arguments.operationId = chat.operationId ∧
    dialogue.covers service chat arguments.reservedTokens

/-- What the calls of a request say. -/
def tells (service : ExternalChatService) (chat : ChatRequest) (dialogue : Dialogue) :
    Call → Prop
  | .reserveQuota arguments =>
      arguments.operationId = chat.operationId ∧
        dialogue.covers service chat arguments.reservedTokens
  | .forwardChat request _ | .streamNext request _ =>
      request = chat.request ∧ dialogue.Covered service chat
  | .reserveCredit operationId serviceUserId _ _ | .settleCredit operationId serviceUserId _ _
  | .cancelCredit operationId serviceUserId =>
      dialogue.addresses chat operationId serviceUserId
  | _ => True

def permits (service : ExternalChatService) (chat : ChatRequest) (dialogue : Dialogue) :
    Event backend → Prop
  | .sent call => dialogue.follows call ∧ dialogue.tells service chat call
  | .emitted _ => dialogue.isOwed = false
  | _ => True

end Dialogue

/-- A live request with what it has learnt, or a recovery pass. -/
inductive Conversation where
  | live (chat : ChatRequest) (dialogue : Dialogue)
  | recovery

namespace Conversation

def start : Role → Conversation
  | .execute chat | .stream chat => live chat .start
  | .recovery _ => recovery

def after : Conversation → Event backend → Conversation
  | live chat dialogue, event => live chat (dialogue.after chat event)
  | recovery, _ => recovery

def permits (service : ExternalChatService) : Conversation → Event backend → Prop
  | live chat dialogue, event => dialogue.permits service chat event
  | recovery, _ => True

/-- No confirmation of a credit reply is owed. -/
def rests : Conversation → Prop
  | live _ dialogue => dialogue.isOwed = false
  | recovery => True

end Conversation

/-- The conversation of every process. An answer is one the environment can give. -/
def Deployment.conversation (deployment : Deployment) : Discipline backend Conversation where
  after := Conversation.after
  permits := Conversation.permits deployment.service
  answerable call answer := ∃ before after, Effects deployment before call answer after
  interrupts failure := failure.isInterrupt = true

/-! ## Neutral calls -/

theorem isConfirmedBy_of_isNeutral {call : Call} (neutral : call.isNeutral = true)
    (check : Check) : check.isConfirmedBy call = false := by
  cases check <;> cases call <;> first | rfl | cases neutral

/-- Without a confirmation owed, a call that is none follows any verdict. -/
theorem Dialogue.follows_of_rest {dialogue : Dialogue} (unowed : dialogue.isOwed = false)
    {call : Call} (unconfirming : ∀ check : Check, check.isConfirmedBy call = false) :
    dialogue.follows call := by
  unfold Dialogue.isOwed at unowed
  unfold Dialogue.follows
  split
  · rename_i check passed judged
    rw [judged] at unowed
    rw [unconfirming, show passed = false from unowed]
  · trivial

variable (deployment : Deployment)

/-- While no confirmation is owed, neutral calls are free and tell nothing. -/
theorem conversation_overlooks : Overlooks deployment.conversation Conversation.rests where
  permits := by
    intro call conversation neutral unowed
    cases conversation with
    | recovery => trivial
    | live chat dialogue =>
        refine ⟨dialogue.follows_of_rest unowed (isConfirmedBy_of_isNeutral neutral), ?_⟩
        cases call <;> first | exact True.intro | cases neutral
  sent := by
    intro call conversation neutral _
    cases conversation with
    | recovery => rfl
    | live chat dialogue => cases call <;> first | rfl | cases neutral
  answered := by
    intro call conversation answer neutral _
    cases conversation with
    | recovery => rfl
    | live chat dialogue => cases call <;> first | (cases answer <;> rfl) | cases neutral
  lost := fun _ conversation _ => by cases conversation <;> rfl
  raises := by
    rintro call failure passive ⟨before, after, effects⟩
    exact raises_of_effects passive effects
  interrupts := fun _ interrupts => interrupts

/-- A recovery pass may say anything. -/
theorem recovery_follows {Result : Type} (program : Program backend Result) :
    Follows deployment.conversation program .recovery fun _ _ => True := by
  induction program with
  | done result => trivial
  | stuck => trivial
  | observe clock next inductionHypothesis => exact fun reading => inductionHypothesis reading
  | await call next inductionHypothesis =>
      exact ⟨trivial, fun answer _ => inductionHypothesis answer,
        fun failure _ => inductionHypothesis _⟩
  | perform call next inductionHypothesis =>
      exact ⟨trivial, fun answer _ => inductionHypothesis answer⟩
  | spawn call next inductionHypothesis => exact ⟨trivial, inductionHypothesis⟩
  | wait call timeout next inductionHypothesis =>
      exact ⟨fun answer _ => inductionHypothesis _, inductionHypothesis _,
        fun failure _ => inductionHypothesis _⟩
  | abandon call next inductionHypothesis =>
      exact ⟨inductionHypothesis _, fun failure _ => inductionHypothesis _⟩
  | emit frame next inductionHypothesis =>
      exact ⟨trivial, inductionHypothesis _, fun failure _ => inductionHypothesis _⟩

end Zangpu.Services.Chat
