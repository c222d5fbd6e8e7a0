import Zangpu.Integrations.Bifrost.Material

/-!
The Bifrost outbox worker.

Owns: `BifrostOutboxWorker` as the functions of its transactions: which items a
claim takes and what it writes, what `_execute` asks of Bifrost and makes of each
reply, and the rows that `_complete` and `_fail` write.

Does not own: the order in which transactions and requests of several workers
take effect. The clock reading of a pass and the random nonces are arguments.
-/

set_option autoImplicit false

namespace Zangpu.Workers.Outbox

open Zangpu.Foundation
open Zangpu.Models
open Zangpu.Integrations.Bifrost

/-! ## Settings -/

/-- The bounds of a worker, as its constructor accepts them. -/
structure WorkerBounds where
  maxAttempts : Int := 8
  baseRetrySeconds : Int := 5
  maxRetrySeconds : Int := 300
  claimTimeoutSeconds : Int := 120
  batchSize : Nat := 25
  maxAttemptsValid : 1 ≤ maxAttempts ∧ maxAttempts ≤ 100
  batchSizeValid : 1 ≤ batchSize ∧ batchSize ≤ 100
  baseRetryValid : 1 ≤ baseRetrySeconds
  maxRetryValid : baseRetrySeconds ≤ maxRetrySeconds
  claimTimeoutValid : 1 ≤ claimTimeoutSeconds

variable (bounds : WorkerBounds)

/-! ## Claiming -/

abbrev OutboxTable := Table ControlOutbox ControlOutbox.id

/-- The `WHERE` clause of `_claim`. -/
def claimable (now : Int) (item : ControlOutbox) : Bool :=
  item.target = .bifrost && item.attemptCount < bounds.maxAttempts &&
    (((item.status = .pending || item.status = .failed) && item.availableAt ≤ now) ||
      (item.status = .processing &&
        item.lockedAt.any fun lockedAt => lockedAt ≤ now - bounds.claimTimeoutSeconds))

/-- `order_by(available_at, id)`. -/
def claimsBefore (left right : ControlOutbox) : Prop :=
  left.availableAt < right.availableAt ∨
    (left.availableAt = right.availableAt ∧ left.id ≤ right.id)

instance : DecidableRel claimsBefore := fun _ _ =>
  inferInstanceAs (Decidable (_ ∨ _))

/-- The rows one claim takes. `FOR UPDATE SKIP LOCKED` passes over the rows that
other transactions hold. -/
def claimedRows (now : Int) (locked : List String) (outbox : OutboxTable) : List ControlOutbox :=
  ((outbox.rows.filter fun item =>
    claimable bounds now item && decide (item.id ∉ locked)).insertionSort claimsBefore).take
      bounds.batchSize

def claimItem (now : Int) (item : ControlOutbox) : ControlOutbox :=
  { item with
    status := .processing
    attemptCount := item.attemptCount + 1
    lockedAt := some now
    updatedAt := now }

theorem claimItem_id (now : Int) (item : ControlOutbox) : (claimItem now item).id = item.id := rfl

/-! ## Execution -/

/-- What `_load` hands to `_execute`. -/
structure Loaded where
  action : OutboxAction
  binding : ApiClientBinding
  payload : BifrostOutboxPayload
  deriving DecidableEq, Repr

/-- What `_execute` returns. -/
inductive Result where
  | nothing
  | created (result : VirtualKeyCreationResult)
  | changed (state : VirtualKeyState)
  deriving DecidableEq, Repr

/-- The exceptions `_process` handles. -/
inductive Failure where
  | upstream (error : BifrostUpstreamError)
  | model (error : ModelError)
  deriving DecidableEq, Repr

/-- The arguments with which `_process` calls `_fail`. -/
structure FailureCode where
  code : String
  retryable : Bool
  deriving DecidableEq, Repr

def Failure.reported : Failure → FailureCode
  | .upstream error => ⟨error.code, error.retryable⟩
  | .model _ => ⟨"BIFROST_RECONCILIATION_FAILED", false⟩

/-- How far `_execute` runs without waiting. -/
inductive Execution where
  | calls (request : Request)
  | returns (result : Result)
  | raises (failure : Failure)
  deriving DecidableEq, Repr

/-- Call the client, which checks the identifier first. -/
def call (request : Request) : Execution :=
  match request.check with
  | .ok () => .calls request
  | .error error => .raises (.model error)

def desiredMissing : Execution :=
  .raises (.model (.valueError "Bifrost desired configuration is missing"))

/-- `_execute` up to its first request. -/
def execute (loaded : Loaded) : Execution :=
  match loaded.action with
  | .disable =>
      match loaded.binding.bifrostVirtualKeyId with
      | none => .returns .nothing
      | some virtualKeyId => call (.disable virtualKeyId)
  | action =>
      match loaded.payload.desired with
      | none => desiredMissing
      | some desired =>
          match action, loaded.binding.bifrostVirtualKeyId.filter (· ≠ "") with
          | .create, some virtualKeyId => call (.material virtualKeyId)
          | .create, none => call (.find desired.name)
          | .update, some virtualKeyId => call (.update virtualKeyId desired)
          | _, _ => .raises (.model (.valueError "unsupported Bifrost outbox action"))

/-- `_verify_desired`, then the result. -/
def verifyDesired (state : VirtualKeyState) (desired : Option VirtualKeySpec)
    (result : Result) : Execution :=
  match desired with
  | none => desiredMissing
  | some desired =>
      if state.name ≠ desired.name ∨ state.provider ≠ desired.provider ∨
          state.model ≠ desired.model ∨ state.isActive = false then
        .raises (.upstream bifrostProtocolError)
      else .returns result

/-- `_execute` after the answer to a request. -/
def resume (loaded : Loaded) :
    (request : Request) → Except BifrostUpstreamError request.Reply → Execution
  | .find _, .ok (some existing) =>
      verifyDesired existing.state loaded.payload.desired (.created existing)
  | .find _, .ok none =>
      match loaded.payload.desired with
      | none => desiredMissing
      | some desired => call (.create desired)
  | .create _, .ok result | .material _, .ok result =>
      verifyDesired result.state loaded.payload.desired (.created result)
  | .update _ _, .ok state => verifyDesired state loaded.payload.desired (.changed state)
  | .disable _, .ok state =>
      if state.isActive then .raises (.upstream bifrostProtocolError)
      else .returns (.changed state)
  | .disable _, .error error =>
      if error.code = bifrostNotFound then .returns .nothing else .raises (.upstream error)
  | .find _, .error error | .create _, .error error | .material _, .error error
  | .update _ _, .error error => .raises (.upstream error)

/-! ## Finishing -/

/-- The item `_complete` writes. -/
def completeItem (now : Int) (item : ControlOutbox) : ControlOutbox :=
  { item with
    status := .completed
    completedAt := some now
    lockedAt := none
    lastErrorCode := none
    updatedAt := now }

/-- The status a result without new material leaves. -/
def settledStatus (action : OutboxAction) (binding : ApiClientBinding) : BindingSyncStatus :=
  if bindingRemoteFieldsComplete binding then
    if action = .disable then .disabled else .active
  else .pending

/-- What `_complete` makes of the result, before it looks at the version. -/
def settleBinding (keyring : CredentialKeyring) (nonce : Nat) (now : Int) (item : ControlOutbox)
    (binding : ApiClientBinding) : Result → Except ModelError ApiClientBinding
  | .created material => persistCreatedBinding keyring nonce now material binding
  | .nothing | .changed _ => .ok { binding with
      syncStatus := settledStatus item.action binding
      lastSyncErrorCode := none
      updatedAt := now }

/-- The binding `_complete` writes. -/
def completeBinding (keyring : CredentialKeyring) (nonce : Nat) (now : Int)
    (item : ControlOutbox) (result : Result) (binding : ApiClientBinding) :
    Except ModelError ApiClientBinding := do
  let settled ← settleBinding keyring nonce now item binding result
  return if binding.version ≠ item.payload.bindingVersion then
      { settled with syncStatus := .pending }
    else settled

/-- `code[:64]`. -/
def boundedCode (code : String) : String := String.ofList (code.toList.take 64)

/-- `min(base * 2 ** (attempt_count - 1), maximum)`. -/
def retryDelay (attemptCount : Int) : Int :=
  min (bounds.baseRetrySeconds * 2 ^ (attemptCount - 1).toNat) bounds.maxRetrySeconds

/-- The item `_fail` writes. -/
def failItem (failure : FailureCode) (now : Int) (item : ControlOutbox) : ControlOutbox :=
  { item with
    status := .failed
    lockedAt := none
    lastErrorCode := some (boundedCode failure.code)
    attemptCount := if failure.retryable then item.attemptCount else bounds.maxAttempts
    availableAt :=
      if failure.retryable then now + retryDelay bounds item.attemptCount else now
    updatedAt := now }

/-- The binding `_fail` writes. -/
def failBinding (failure : FailureCode) (now : Int) (item : ControlOutbox)
    (binding : ApiClientBinding) : ApiClientBinding :=
  if binding.version = item.payload.bindingVersion then
    { binding with
      syncStatus := .error
      lastSyncErrorCode := some (boundedCode failure.code)
      updatedAt := now }
  else binding
/-! ## What is written -/

section Written

variable {keyring : CredentialKeyring} {nonce : Nat} {now : Int} {item : ControlOutbox}
  {result : Result} {binding wrote : ApiClientBinding}

/-- `_complete` keeps the version, and a stale completion leaves the binding pending. -/
theorem completeBinding_version
    (written : completeBinding keyring nonce now item result binding = .ok wrote) :
    wrote.version = binding.version ∧
      (binding.version ≠ item.payload.bindingVersion → wrote.syncStatus = .pending) := by
  simp only [completeBinding, bind_ok_iff, pure, Except.pure, Except.ok.injEq] at written
  obtain ⟨settled, settles, rfl⟩ := written
  have sameVersion : settled.version = binding.version := by
    cases result with
    | created material =>
        simp only [settleBinding, persistCreatedBinding, bind_ok_iff, pure, Except.pure,
          Except.ok.injEq] at settles
        obtain ⟨_, _, _, _, rfl⟩ := settles
        rfl
    | nothing | changed state =>
        cases settles
        rfl
  split
  · exact ⟨sameVersion, fun _ => rfl⟩
  · rename_i current
    exact ⟨sameVersion, fun stale => absurd stale current⟩

/-- `_fail` keeps the version, and writes the status only of the version it carries. -/
theorem failBinding_cases (failure : FailureCode) (now : Int) (item : ControlOutbox)
    (binding : ApiClientBinding) :
    (binding.version = item.payload.bindingVersion ∧
        (failBinding failure now item binding).syncStatus = .error ∧
        (failBinding failure now item binding).version = binding.version) ∨
      (binding.version ≠ item.payload.bindingVersion ∧
        failBinding failure now item binding = binding) := by
  unfold failBinding
  split
  · rename_i current
    exact Or.inl ⟨current, rfl, rfl⟩
  · rename_i stale
    exact Or.inr ⟨stale, rfl⟩

end Written

end Zangpu.Workers.Outbox
