import Zangpu.Integrations.Bifrost.Material
import Zangpu.Services.Chat.Calls

/-!
The policy of an authenticated caller.

Owns: `load_caller_policy`, with the completeness check of the remote binding;
`load_caller_metadata_policy`, which reads no binding.

Does not own: the decryption of the bound virtual key and the parser of service
user identifiers, which are parameters.
-/

set_option autoImplicit false

namespace Zangpu.Services.Callers

open Zangpu.Foundation
open Zangpu.Models
open Zangpu.Integrations.Bifrost
open Zangpu.Services.Chat

/-- What `load_caller_policy` takes from the keyring and the UUID parser:
`decrypt` is `none` when the bound value cannot be decrypted. -/
structure BindingReader where
  isUuid : String → Bool
  decrypt : ApiClientBinding → Option String

/-- The policy of the binding of an active client and credential. -/
def boundPolicy (reader : BindingReader) (client : ApiClient) (credential : ApiClientCredential)
    (binding : ApiClientBinding) : Except CallerPolicyCode CallerPolicy :=
  match binding.zangpuServiceUserId, reader.decrypt binding with
  | some serviceUserId, some virtualKey =>
      if binding.syncStatus = .active ∧ bindingRemoteFieldsComplete binding ∧
          reader.isUuid serviceUserId then
        .ok {
          apiClientId := client.id
          credentialId := credential.id
          allowedEndpoints := client.allowedEndpoints
          allowedModels := client.allowedModels
          qpsLimit := client.qpsLimit
          concurrencyLimit := client.concurrencyLimit
          maxOutputTokensPerRequest := client.maxOutputTokensPerRequest
          serviceUserId := serviceUserId
          bifrostVirtualKey := virtualKey }
      else .error .callerBindingUnavailable
  | _, _ => .error .callerBindingUnavailable

def loadCallerPolicy (reader : BindingReader) (callers : Callers) (caller : AuthenticatedCaller)
    (now : Int) : Except CallerPolicyCode CallerPolicy :=
  match callers.clients.find? caller.apiClientId,
      callers.credentials.find? caller.credentialId,
      callers.bindings.find? caller.apiClientId with
  | some client, some credential, some binding =>
      if credential.apiClientId ≠ client.id ∨ credential.keyId ≠ caller.keyId then
        .error .callerStateUnavailable
      else if client.status ≠ .active then .error .clientDisabled
      else if credential.status ≠ .active then .error .credentialRevoked
      else if ∃ expiry ∈ credential.expiresAt, expiry ≤ now then .error .credentialExpired
      else boundPolicy reader client credential binding
  | _, _, _ => .error .callerStateUnavailable

/-- The policy behind the metadata endpoints, which needs no binding. -/
structure CallerMetadataPolicy where
  apiClientId : String
  credentialId : String
  allowedEndpoints : List String
  allowedModels : List String
  qpsLimit : Int
  dailyRequestLimit : Option Int
  dailyTokenLimit : Option Int
  totalRequestLimit : Option Int
  totalTokenLimit : Option Int
  deriving DecidableEq, Repr

def metadataPolicy (client : ApiClient) (credential : ApiClientCredential) :
    CallerMetadataPolicy where
  apiClientId := client.id
  credentialId := credential.id
  allowedEndpoints := client.allowedEndpoints
  allowedModels := client.allowedModels
  qpsLimit := client.qpsLimit
  dailyRequestLimit := client.dailyRequestLimit
  dailyTokenLimit := client.dailyTokenLimit
  totalRequestLimit := client.totalRequestLimit
  totalTokenLimit := client.totalTokenLimit

def loadCallerMetadataPolicy (callers : Callers) (caller : AuthenticatedCaller) (now : Int) :
    Except CallerPolicyCode CallerMetadataPolicy :=
  match callers.clients.find? caller.apiClientId,
      callers.credentials.find? caller.credentialId with
  | some client, some credential =>
      if credential.apiClientId ≠ client.id ∨ credential.keyId ≠ caller.keyId then
        .error .callerStateUnavailable
      else if client.status ≠ .active then .error .clientDisabled
      else if credential.status ≠ .active then .error .credentialRevoked
      else if ∃ expiry ∈ credential.expiresAt, expiry ≤ now then .error .credentialExpired
      else .ok (metadataPolicy client credential)
  | _, _ => .error .callerStateUnavailable

/-- A metadata policy is read off the row of the caller's client. -/
theorem loadCallerMetadataPolicy_ok {callers : Callers} {caller : AuthenticatedCaller}
    {now : Int} {policy : CallerMetadataPolicy}
    (loaded : loadCallerMetadataPolicy callers caller now = .ok policy) :
    ∃ client credential, callers.clients.find? caller.apiClientId = some client ∧
      policy = metadataPolicy client credential := by
  unfold loadCallerMetadataPolicy at loaded
  split at loaded
  · rename_i client credential clientFound _
    refine ⟨client, credential, clientFound, ?_⟩
    split_ifs at loaded
    exact (Except.ok.inj loaded).symm
  · cases loaded

end Zangpu.Services.Callers
