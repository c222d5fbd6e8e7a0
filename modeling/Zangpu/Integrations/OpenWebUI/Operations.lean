import Zangpu.Foundation.Table

/-!
The credit service as an automaton per operation.

Owns: the wire snapshots of `CreditOperationSnapshot` with the fields the
services read; the record the credit service keeps for an operation; and what
its reserve, settle, cancel and status requests do to that record and reply.

Does not own: the signed HTTP exchange, accounts and balances.
-/

set_option autoImplicit false

namespace Zangpu.Integrations.OpenWebUI

open Zangpu.Foundation

/-- `2**63 - 1`. -/
def signedBigintMax : Int := 9223372036854775807

inductive CreditStatus where
  | pending
  | succeededCharged
  | cancelledCharged
  | failedNoCharge
  | settlementError
  deriving DecidableEq, Repr

structure CreditOperationSnapshot where
  operationId : String
  settlementId : String
  serviceUserId : String
  modelId : String
  provider : Option String
  status : CreditStatus
  promptTokens : Int
  completionTokens : Int
  totalTokens : Int
  chargedMicro : Int
  usageOperationId : Option String
  deriving DecidableEq, Repr

/-- `f"{operation_id}:usage"`. -/
def usageOperationIdOf (operationId : String) : String := operationId ++ ":usage"

/-- How a cancelled operation is reported. -/
inductive CancelledAs where
  | cancelledCharged
  | failedNoCharge
  deriving DecidableEq, Repr

/-- The state of a credit operation: open, settled for counted tokens and a
charge, or cancelled without either. -/
inductive CreditState where
  | pending
  | succeeded (promptTokens completionTokens chargedMicro : Int)
  | cancelled (reported : CancelledAs)
  deriving DecidableEq, Repr

namespace CreditState

def status : CreditState → CreditStatus
  | pending => .pending
  | succeeded _ _ _ => .succeededCharged
  | cancelled .cancelledCharged => .cancelledCharged
  | cancelled .failedNoCharge => .failedNoCharge

def promptTokens : CreditState → Int
  | succeeded prompt _ _ => prompt
  | _ => 0

def completionTokens : CreditState → Int
  | succeeded _ completion _ => completion
  | _ => 0

def chargedMicro : CreditState → Int
  | succeeded _ _ charged => charged
  | _ => 0

end CreditState

/-- What the credit service keeps for an operation. -/
structure CreditOperation where
  operationId : String
  settlementId : String
  serviceUserId : String
  modelId : String
  provider : Option String
  state : CreditState
  deriving DecidableEq, Repr

namespace CreditOperation

def snapshot (operation : CreditOperation) : CreditOperationSnapshot where
  operationId := operation.operationId
  settlementId := operation.settlementId
  serviceUserId := operation.serviceUserId
  modelId := operation.modelId
  provider := operation.provider
  status := operation.state.status
  promptTokens := operation.state.promptTokens
  completionTokens := operation.state.completionTokens
  totalTokens := operation.state.promptTokens + operation.state.completionTokens
  chargedMicro := operation.state.chargedMicro
  usageOperationId := some (usageOperationIdOf operation.operationId)

/-- Move an open operation to a terminal state; a terminal one keeps its state. -/
def conclude (state : CreditState) (operation : CreditOperation) : CreditOperation :=
  if operation.state = .pending then { operation with state := state } else operation

theorem conclude_operationId (state : CreditState) (operation : CreditOperation) :
    (conclude state operation).operationId = operation.operationId := by
  unfold conclude
  split <;> rfl

/-- The later record of an operation: the same identity, and a terminal state
is final. -/
def Evolves (earlier later : CreditOperation) : Prop :=
  later = earlier ∨
    (earlier.state = .pending ∧ ∃ state, state ≠ .pending ∧ later = { earlier with state := state })

theorem Evolves.refl (operation : CreditOperation) : operation.Evolves operation := Or.inl rfl

theorem Evolves.trans {first second third : CreditOperation} (left : first.Evolves second)
    (right : second.Evolves third) : first.Evolves third := by
  rcases left with rfl | ⟨pending, state, terminal, rfl⟩
  · exact right
  · rcases right with rfl | ⟨stillPending, _⟩
    · exact Or.inr ⟨pending, state, terminal, rfl⟩
    · exact absurd stillPending terminal

theorem Evolves.of_terminal {earlier later : CreditOperation} (evolves : earlier.Evolves later)
    (terminal : earlier.state ≠ .pending) : later = earlier := by
  rcases evolves with same | ⟨pending, _⟩
  · exact same
  · exact absurd pending terminal

theorem Evolves.settlementId_eq {earlier later : CreditOperation}
    (evolves : earlier.Evolves later) : later.settlementId = earlier.settlementId := by
  rcases evolves with rfl | ⟨_, _, _, rfl⟩ <;> rfl

theorem Evolves.identity_eq {earlier later : CreditOperation} (evolves : earlier.Evolves later) :
    later.operationId = earlier.operationId ∧ later.serviceUserId = earlier.serviceUserId ∧
      later.modelId = earlier.modelId ∧ later.provider = earlier.provider := by
  rcases evolves with rfl | ⟨_, _, _, rfl⟩ <;> exact ⟨rfl, rfl, rfl, rfl⟩

theorem conclude_evolves {state : CreditState} (terminal : state ≠ .pending)
    (operation : CreditOperation) : operation.Evolves (conclude state operation) := by
  unfold conclude
  split
  · rename_i pending
    exact Or.inr ⟨pending, state, terminal, rfl⟩
  · exact .refl operation

end CreditOperation

/-- The credit service: one record per operation. -/
abbrev CreditLedger := Table CreditOperation CreditOperation.operationId

/-- A failed request to the credit service. -/
structure UpstreamError where
  code : String
  statusCode : Int
  retryable : Bool
  deriving DecidableEq, Repr

def notFoundCode : String := "OPENWEBUI_CREDIT_NOT_FOUND"

/-- The two codes by which the credit service refuses a reservation. -/
def refusalCodes : List String := ["CREDIT_BALANCE_EXHAUSTED", "CREDIT_ACCOUNT_FROZEN"]

namespace CreditLedger

/-- `str(UUID(text))`: how an identifier reads once it went through the wire. The
identifier of an operation, drawn by `new_uuid`, reads as itself. -/
abbrev Canonical := String → String

/-- A request that fails on its way, or whose reply is lost, claims neither that
the operation is unknown nor that its reservation was refused. -/
def Unanswered (failure : UpstreamError) : Prop :=
  failure.code ≠ notFoundCode ∧ failure.code ∉ refusalCodes

/-- Reserve: an unknown operation is opened or refused; a known one replies with
its record. -/
inductive Reserve (canonical : Canonical) (ledger : CreditLedger)
    (operationId serviceUserId modelId : String) (provider : Option String) :
    Except UpstreamError CreditOperationSnapshot → CreditLedger → Prop where
  | opened (absent : ledger.find? operationId = none) (settlementId : String) :
      Reserve canonical ledger operationId serviceUserId modelId provider
        (.ok (CreditOperation.mk operationId settlementId (canonical serviceUserId) modelId provider
          .pending).snapshot)
        (ledger.insertNew ⟨operationId, settlementId, canonical serviceUserId, modelId,
          provider, .pending⟩)
  | openedUnseen (absent : ledger.find? operationId = none) (settlementId : String)
      {failure : UpstreamError} (unanswered : Unanswered failure) :
      Reserve canonical ledger operationId serviceUserId modelId provider (.error failure)
        (ledger.insertNew ⟨operationId, settlementId, canonical serviceUserId, modelId,
          provider, .pending⟩)
  | refused (absent : ledger.find? operationId = none) {failure : UpstreamError}
      (known : failure.code ≠ notFoundCode) :
      Reserve canonical ledger operationId serviceUserId modelId provider (.error failure) ledger
  | repeated {operation : CreditOperation}
      (found : ledger.find? operationId = some operation) :
      Reserve canonical ledger operationId serviceUserId modelId provider
        (.ok operation.snapshot) ledger
  | failed {failure : UpstreamError} (unanswered : Unanswered failure) :
      Reserve canonical ledger operationId serviceUserId modelId provider (.error failure) ledger

/-- Settle and cancel: move a known open operation to the terminal state and
reply with the record, or fail on the way there or back; an unknown operation is
reported as such. -/
inductive Conclude (ledger : CreditLedger) (operationId : String) (state : CreditState) :
    Except UpstreamError CreditOperationSnapshot → CreditLedger → Prop where
  | concluded {operation : CreditOperation}
      (found : ledger.find? operationId = some operation) :
      Conclude ledger operationId state (.ok (operation.conclude state).snapshot)
        (ledger.modify operationId (CreditOperation.conclude state)
          (CreditOperation.conclude_operationId state))
  | unseen {operation : CreditOperation}
      (found : ledger.find? operationId = some operation)
      {failure : UpstreamError} (unanswered : Unanswered failure) :
      Conclude ledger operationId state (.error failure)
        (ledger.modify operationId (CreditOperation.conclude state)
          (CreditOperation.conclude_operationId state))
  | unknown (absent : ledger.find? operationId = none) {failure : UpstreamError}
      (code : failure.code = notFoundCode) :
      Conclude ledger operationId state (.error failure) ledger
  | failed {failure : UpstreamError} (unanswered : Unanswered failure) :
      Conclude ledger operationId state (.error failure) ledger

/-- Status: the record of a known operation. -/
inductive Status (ledger : CreditLedger) (operationId : String) :
    Except UpstreamError CreditOperationSnapshot → Prop where
  | known {operation : CreditOperation}
      (found : ledger.find? operationId = some operation) :
      Status ledger operationId (.ok operation.snapshot)
  | unknown (absent : ledger.find? operationId = none) {failure : UpstreamError}
      (code : failure.code = notFoundCode) :
      Status ledger operationId (.error failure)
  | failed {failure : UpstreamError} (unanswered : Unanswered failure) :
      Status ledger operationId (.error failure)

end CreditLedger

end Zangpu.Integrations.OpenWebUI
