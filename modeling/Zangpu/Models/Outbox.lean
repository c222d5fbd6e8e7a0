import Zangpu.Models.Audits
import Zangpu.Models.Callers

/-!
The control outbox.

Owns: outbox rows and their Bifrost payload, the sensitive-key filter on a
payload, and `queue_binding_sync`, which stages a binding version together with
the item that will push it.

Does not own: the workers that claim and process outbox items.
-/

set_option autoImplicit false

namespace Zangpu.Models

open Zangpu.Foundation

inductive OutboxTarget where
  | bifrost
  | openwebui
  deriving DecidableEq, Repr

inductive OutboxAction where
  | create
  | update
  | disable
  | compensate
  deriving DecidableEq, Repr

inductive OutboxStatus where
  | pending
  | processing
  | completed
  | failed
  deriving DecidableEq, Repr

/-- The desired state of a remote virtual key. -/
structure VirtualKeySpec where
  name : String
  description : String
  provider : String
  model : String
  providerKeyIds : List String
  deriving DecidableEq, Repr

structure BifrostOutboxPayload where
  configHash : String
  bindingVersion : Int
  desired : Option VirtualKeySpec
  deriving DecidableEq, Repr

structure ControlOutbox where
  id : String
  aggregateType : String
  aggregateId : String
  target : OutboxTarget
  action : OutboxAction
  idempotencyKey : String
  payload : BifrostOutboxPayload
  status : OutboxStatus
  attemptCount : Int
  availableAt : Int
  lockedAt : Option Int
  completedAt : Option Int
  lastErrorCode : Option String
  createdAt : Int
  updatedAt : Int
  deriving DecidableEq, Repr

def sensitivePayloadFragments : List String :=
  ["answer", "authorization", "bifrostvalue", "ciphertext", "nonce", "prompt", "rawbody",
    "rawrequest", "rawresponse", "secret", "signature", "upstreamerror", "xbfvk"]

/-- The keys of the dumped payload at every depth; absent fields are excluded. -/
def BifrostOutboxPayload.keys (payload : BifrostOutboxPayload) : List String :=
  ["config_hash", "binding_version"] ++
    match payload.desired with
    | none => []
    | some _ => ["desired", "name", "description", "provider", "model", "provider_key_ids"]

def keyIsSensitive (key : String) : Bool :=
  sensitivePayloadFragments.any fun fragment =>
    decide (fragment.toList <:+: (key.toList.filter Char.isAlphanum).map Char.toLower)

def payloadContainsSensitiveKey (payload : BifrostOutboxPayload) : Bool :=
  payload.keys.any keyIsSensitive

/-- Every payload the binding services build passes the sensitive-key filter. -/
theorem payloadContainsSensitiveKey_eq_false (payload : BifrostOutboxPayload) :
    payloadContainsSensitiveKey payload = false := by
  have versioned : ["config_hash", "binding_version"].any keyIsSensitive = false := by
    decide +kernel
  have specified :
      ["desired", "name", "description", "provider", "model", "provider_key_ids"].any
        keyIsSensitive = false := by
    decide +kernel
  unfold payloadContainsSensitiveKey BifrostOutboxPayload.keys
  cases payload.desired with
  | none => simpa using versioned
  | some spec => rw [List.any_append, versioned, specified, Bool.or_false]

/-- The binding staged for a sync and the outbox item that carries it. -/
def queueBindingSync (binding : ApiClientBinding) (desiredConfigHash : String)
    (target : OutboxTarget) (action : OutboxAction) (idempotencyKey : String)
    (payload : BifrostOutboxPayload) (itemId : String) (now : Int) :
    Except ModelError (ApiClientBinding × ControlOutbox) := do
  require (payloadContainsSensitiveKey payload = false)
    (.valueError "outbox payload contains a sensitive key")
  let staged := { binding with
    bifrostConfigHash := desiredConfigHash
    syncStatus := .pending
    lastSyncErrorCode := none
    version := binding.version + 1
    updatedAt := now }
  return (staged, {
    id := itemId
    aggregateType := "api_client_binding"
    aggregateId := binding.id
    target := target
    action := action
    idempotencyKey := idempotencyKey
    payload := payload
    status := .pending
    attemptCount := 0
    availableAt := now
    lockedAt := none
    completedAt := none
    lastErrorCode := none
    createdAt := now
    updatedAt := now })
/-- The binding a sync stages: one version later, and pending. -/
def stagedRow (binding : ApiClientBinding) (desiredConfigHash : String) (now : Int) :
    ApiClientBinding :=
  { binding with
    bifrostConfigHash := desiredConfigHash
    syncStatus := .pending
    lastSyncErrorCode := none
    version := binding.version + 1
    updatedAt := now }

/-- The item that carries a staged sync. -/
structure CarriesSync (binding : ApiClientBinding) (target : OutboxTarget) (action : OutboxAction)
    (payload : BifrostOutboxPayload) (item : ControlOutbox) : Prop where
  aggregateId : item.aggregateId = binding.id
  target : item.target = target
  action : item.action = action
  payload : item.payload = payload
  pending : item.status = .pending
  unclaimed : item.attemptCount = 0

theorem queueBindingSync_ok {binding staged : ApiClientBinding} {desiredConfigHash : String}
    {target : OutboxTarget} {action : OutboxAction} {idempotencyKey itemId : String}
    {payload : BifrostOutboxPayload} {now : Int} {item : ControlOutbox}
    (queued : queueBindingSync binding desiredConfigHash target action idempotencyKey payload
      itemId now = .ok (staged, item)) :
    staged = stagedRow binding desiredConfigHash now ∧
      CarriesSync binding target action payload item := by
  simp only [queueBindingSync, bind_ok_iff, pure, Except.pure, Except.ok.injEq,
    Prod.mk.injEq] at queued
  obtain ⟨_, _, rfl, rfl⟩ := queued
  exact ⟨rfl, rfl, rfl, rfl, rfl, rfl, rfl⟩

end Zangpu.Models
