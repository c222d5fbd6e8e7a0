import Zangpu.Models.Outbox

/-!
Staging of remote virtual-key bindings.

Owns: the canonical JSON text of a virtual-key specification, its configuration
hash, and the staging of a create, update or disable of a binding.

Does not own: the protected virtual-key value, its encryption, or the remote calls.
The SHA-256 hex digest is an argument.
-/

set_option autoImplicit false

namespace Zangpu.Integrations.Bifrost

open Zangpu.Foundation
open Zangpu.Models

/-! ## Canonical JSON -/

def hexDigit (value : Nat) : Char :=
  if value < 10 then Char.ofNat (48 + value) else Char.ofNat (87 + value)

/-- One UTF-16 code unit as `\uXXXX`. -/
def unicodeEscape (unit : Nat) : List Char :=
  ['\\', 'u', hexDigit (unit / 4096 % 16), hexDigit (unit / 256 % 16),
    hexDigit (unit / 16 % 16), hexDigit (unit % 16)]

/-- A character inside a JSON string under `ensure_ascii=True`; a character
outside the basic plane is its surrogate pair. -/
def jsonCharacter (character : Char) : List Char :=
  let point := character.toNat
  if point = 34 then ['\\', '"']
  else if point = 92 then ['\\', '\\']
  else if point = 10 then ['\\', 'n']
  else if point = 13 then ['\\', 'r']
  else if point = 9 then ['\\', 't']
  else if point = 12 then ['\\', 'f']
  else if point = 8 then ['\\', 'b']
  else if 32 ≤ point ∧ point < 127 then [character]
  else if point < 65536 then unicodeEscape point
  else unicodeEscape (55296 + (point - 65536) / 1024) ++
    unicodeEscape (56320 + (point - 65536) % 1024)

def jsonString (text : String) : String :=
  "\"" ++ String.ofList (text.toList.flatMap jsonCharacter) ++ "\""

def jsonStrings (texts : List String) : String :=
  "[" ++ ",".intercalate (texts.map jsonString) ++ "]"

/-- `json.dumps(spec.create_payload(), ensure_ascii=True, separators=(",", ":"), sort_keys=True)`. -/
def canonicalSpec (spec : VirtualKeySpec) : String :=
  "\x7b\"budgets\":[],\"calendar_aligned\":false,\"description\":" ++ jsonString spec.description ++
    ",\"is_active\":true,\"mcp_configs\":[],\"name\":" ++ jsonString spec.name ++
    ",\"provider_configs\":[\x7b\"allowed_models\":" ++ jsonStrings [spec.model] ++
    ",\"blacklisted_models\":[],\"key_ids\":" ++ jsonStrings spec.providerKeyIds ++
    ",\"provider\":" ++ jsonString spec.provider ++ ",\"weight\":1.0\x7d]\x7d"

/-! ## Staging -/

section Staging

variable (sha256 : String → String)

def desiredConfigHash (spec : VirtualKeySpec) : String :=
  sha256 (canonicalSpec spec)

def stageBifrostBindingSync (binding : ApiClientBinding) (spec : VirtualKeySpec)
    (action : OutboxAction) (idempotencyKey itemId : String) (now : Int) :
    Except ModelError (ApiClientBinding × ControlOutbox) := do
  require (action = .create ∨ action = .update)
    (.valueError "unsupported Bifrost binding action")
  require (¬(action = .create ∧ binding.bifrostVirtualKeyId.isSome))
    (.valueError "Bifrost binding already exists")
  require (¬(action = .update ∧ binding.bifrostVirtualKeyId.isNone))
    (.valueError "Bifrost binding does not exist")
  let configHash := desiredConfigHash sha256 spec
  queueBindingSync binding configHash .bifrost action idempotencyKey
    ⟨configHash, binding.version + 1, some spec⟩ itemId now

theorem stageBifrostBindingSync_ok {binding staged : ApiClientBinding} {spec : VirtualKeySpec}
    {action : OutboxAction} {idempotencyKey itemId : String} {now : Int} {item : ControlOutbox}
    (stagedSync : stageBifrostBindingSync sha256 binding spec action idempotencyKey itemId now =
      .ok (staged, item)) :
    (action = .create ∨ action = .update) ∧
      staged = stagedRow binding (desiredConfigHash sha256 spec) now ∧
      CarriesSync binding .bifrost action
        ⟨desiredConfigHash sha256 spec, binding.version + 1, some spec⟩ item := by
  simp only [stageBifrostBindingSync, bind_ok_iff, require_ok_iff, exists_const] at stagedSync
  obtain ⟨known, _, _, queued⟩ := stagedSync
  exact ⟨known, queueBindingSync_ok queued⟩

end Staging

/-- The binding half of `stage_local_client_disable`. -/
def stageBindingDisable (binding : ApiClientBinding) (idempotencyKey itemId : String)
    (now : Int) : Except ModelError (ApiClientBinding × ControlOutbox) :=
  queueBindingSync binding binding.bifrostConfigHash .bifrost .disable idempotencyKey
    ⟨binding.bifrostConfigHash, binding.version + 1, none⟩ itemId now
theorem stageBindingDisable_ok {binding staged : ApiClientBinding} {idempotencyKey itemId : String}
    {now : Int} {item : ControlOutbox}
    (stagedDisable : stageBindingDisable binding idempotencyKey itemId now =
      .ok (staged, item)) :
    staged = stagedRow binding binding.bifrostConfigHash now ∧
      CarriesSync binding .bifrost .disable
        ⟨binding.bifrostConfigHash, binding.version + 1, none⟩ item :=
  queueBindingSync_ok stagedDisable

end Zangpu.Integrations.Bifrost
