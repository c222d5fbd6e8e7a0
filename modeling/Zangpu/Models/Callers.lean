import Zangpu.Foundation.Table

/-!
Caller rows: clients, their credentials and their remote binding.

Owns: the row types of `api_client`, `api_client_credential` and
`api_client_binding`, with the columns the modelled services read or write, and
the tables they live in.

Does not own: encrypted credential material, which `Security.Credentials` adds.
-/

set_option autoImplicit false

namespace Zangpu.Models

open Zangpu.Foundation

inductive ClientStatus where
  | active
  | disabled
  | archived
  deriving DecidableEq, Repr

inductive CredentialStatus where
  | active
  | revoked
  deriving DecidableEq, Repr

inductive BindingSyncStatus where
  | pending
  | active
  | disabled
  | error
  deriving DecidableEq, Repr

/-- One external caller: permissions, quota ceilings and the optimistic version. -/
structure ApiClient where
  id : String
  name : String
  description : Option String
  status : ClientStatus
  allowedEndpoints : List String
  allowedModels : List String
  groupIds : List String
  qpsLimit : Int
  concurrencyLimit : Int
  dailyRequestLimit : Option Int
  dailyTokenLimit : Option Int
  totalRequestLimit : Option Int
  totalTokenLimit : Option Int
  maxOutputTokensPerRequest : Int
  version : Int
  createdBy : String
  updatedBy : String
  createdAt : Int
  updatedAt : Int
  disabledAt : Option Int
  deriving DecidableEq, Repr

structure ApiClientCredential where
  id : String
  apiClientId : String
  keyId : String
  status : CredentialStatus
  expiresAt : Option Int
  replacedById : Option String
  createdBy : String
  revokedBy : Option String
  createdAt : Int
  revokedAt : Option Int
  deriving DecidableEq, Repr

structure ApiClientBinding where
  id : String
  apiClientId : String
  zangpuServiceUserId : Option String
  bifrostVirtualKeyId : Option String
  bifrostValueCiphertext : Option String
  bifrostValueKeyVersion : Option String
  bifrostConfigHash : String
  syncStatus : BindingSyncStatus
  lastSyncErrorCode : Option String
  version : Int
  createdAt : Int
  updatedAt : Int
  deriving DecidableEq, Repr

/-- The three caller tables. A binding is unique per client, so its table is
keyed by the client. -/
structure Callers where
  clients : Table ApiClient ApiClient.id
  credentials : Table ApiClientCredential ApiClientCredential.id
  bindings : Table ApiClientBinding ApiClientBinding.apiClientId

namespace Callers

def empty : Callers := ⟨.empty, .empty, .empty⟩

end Callers

end Zangpu.Models
