import Zangpu.Integrations.Bifrost.Binding

/-!
The administrator caller service.

Owns: the create and patch requests with their validation, the unit of work of
one transaction with its autoflush, and the five caller transactions
`create_caller`, `rotate_credential`, `revoke_credential`, `update_caller` and
`disable_caller`, with the audit rows and outbox items they write.

Does not own: the HTTP layer, the read-only `get_caller` and `list_callers`, and
the encrypted secret itself. Identifiers that the source draws at random, the
clock reading and the SHA-256 hex digest are arguments. A failed validation
reports one refused field, where the source lists them all.
-/

set_option autoImplicit false

namespace Zangpu.Services.Admin

open Zangpu.Foundation
open Zangpu.Models
open Zangpu.Integrations.Bifrost

inductive AdminError where
  | callerNotFound (message : String)
  | callerState (message : String)
  | validation (field : String)
  | model (error : ModelError)
  deriving DecidableEq, Repr

def fromModel {α : Type} : Except ModelError α → Except AdminError α
  | .ok value => .ok value
  | .error error => .error (.model error)

@[simp] theorem fromModel_ok_iff {α : Type} {outcome : Except ModelError α} {value : α} :
    fromModel outcome = .ok value ↔ outcome = .ok value := by
  cases outcome <;> simp [fromModel]

/-! ## Request validation -/

/-- The Unicode white space that `str_strip_whitespace` removes. -/
def isWhitespace (character : Char) : Bool :=
  let point := character.toNat
  (9 ≤ point && point ≤ 13) || point = 32 || point = 133 || point = 160 || point = 5760 ||
    (8192 ≤ point && point ≤ 8202) || point = 8232 || point = 8233 || point = 8239 ||
    point = 8287 || point = 12288

def strip (text : String) : String :=
  String.ofList (((text.toList.dropWhile isWhitespace).reverse.dropWhile isWhitespace).reverse)

def checkText (field : String) (minimum maximum : Nat) (text : String) :
    Except AdminError String := do
  let stripped := strip text
  require (minimum ≤ stripped.toList.length ∧ stripped.toList.length ≤ maximum)
    (.validation field)
  return stripped

def checkCount (field : String) (maximum : Int) (value : Int) : Except AdminError Int := do
  require (1 ≤ value ∧ value ≤ maximum) (.validation field)
  return value

def checkOptional {α : Type} (check : α → Except AdminError α) :
    Option α → Except AdminError (Option α)
  | none => return none
  | some value => return some (← check value)

def endpointPermissions : List String :=
  ["chat.completions", "models.read", "usage.read", "health.read"]

/-- `allowed_endpoints` must name known permissions. -/
def checkEndpoints (values : List String) : Except AdminError (List String) :=
  fromModel (validateStringSet "allowed_endpoints" (values.map strip) (some endpointPermissions)
    endpointPermissions.length 255)

def checkStrings (field : String) (minimum : Nat) (values : List String) :
    Except AdminError (List String) := do
  require (minimum ≤ values.length ∧ values.length ≤ 256) (.validation field)
  fromModel (validateStringSet field (values.map strip) none 256 255)

/-- `2**63 - 1`. -/
def bigintMax : Int := 9223372036854775807

/-- The fields of a create request, with the source's defaults. -/
structure AdminCallerCreateFields where
  name : String
  description : Option String := none
  serviceUserId : String
  provider : String
  model : String
  allowedEndpoints : List String := ["chat.completions"]
  allowedModels : List String
  groupIds : List String := []
  qpsLimit : Int := 10
  concurrencyLimit : Int := 2
  dailyRequestLimit : Option Int := none
  dailyTokenLimit : Option Int := none
  totalRequestLimit : Option Int := none
  totalTokenLimit : Option Int := none
  maxOutputTokensPerRequest : Int := 4096
  deriving DecidableEq, Repr

def AdminCallerCreateFields.validate (fields : AdminCallerCreateFields) :
    Except AdminError AdminCallerCreateFields := do
  let name ← checkText "name" 1 128 fields.name
  let description ← checkOptional (checkText "description" 0 1024) fields.description
  let serviceUserId ← checkText "service_user_id" 1 128 fields.serviceUserId
  let provider ← checkText "provider" 1 128 fields.provider
  let model ← checkText "model" 1 255 fields.model
  let allowedEndpoints ← checkEndpoints fields.allowedEndpoints
  let allowedModels ← checkStrings "allowed_models" 1 fields.allowedModels
  let groupIds ← checkStrings "group_ids" 0 fields.groupIds
  let qpsLimit ← checkCount "qps_limit" 100000 fields.qpsLimit
  let concurrencyLimit ← checkCount "concurrency_limit" 10000 fields.concurrencyLimit
  let dailyRequestLimit ←
    checkOptional (checkCount "daily_request_limit" bigintMax) fields.dailyRequestLimit
  let dailyTokenLimit ←
    checkOptional (checkCount "daily_token_limit" bigintMax) fields.dailyTokenLimit
  let totalRequestLimit ←
    checkOptional (checkCount "total_request_limit" bigintMax) fields.totalRequestLimit
  let totalTokenLimit ←
    checkOptional (checkCount "total_token_limit" bigintMax) fields.totalTokenLimit
  let maxOutputTokensPerRequest ←
    checkCount "max_output_tokens_per_request" 1000000 fields.maxOutputTokensPerRequest
  require (model ∈ allowedModels) (.validation "model")
  return ⟨name, description, serviceUserId, provider, model, allowedEndpoints, allowedModels,
    groupIds, qpsLimit, concurrencyLimit, dailyRequestLimit, dailyTokenLimit, totalRequestLimit,
    totalTokenLimit, maxOutputTokensPerRequest⟩

/-- A create request is what validation produced from some submission. -/
structure AdminCallerCreateRequest where
  fields : AdminCallerCreateFields
  validated : ∃ submitted : AdminCallerCreateFields, submitted.validate = .ok fields

/-- One field that an update sets, with its validated value. -/
inductive CallerField where
  | name (value : String)
  | description (value : Option String)
  | allowedEndpoints (values : List String)
  | allowedModels (values : List String)
  | groupIds (values : List String)
  | qpsLimit (value : Int)
  | concurrencyLimit (value : Int)
  | dailyRequestLimit (value : Option Int)
  | dailyTokenLimit (value : Option Int)
  | totalRequestLimit (value : Option Int)
  | totalTokenLimit (value : Option Int)
  | maxOutputTokensPerRequest (value : Int)
  deriving DecidableEq, Repr

def auditText : Option String → AuditValue
  | none => .null
  | some value => .text value

def auditCount : Option Int → AuditValue
  | none => .null
  | some value => .integer value

namespace CallerField

def fieldName : CallerField → String
  | .name _ => "name"
  | .description _ => "description"
  | .allowedEndpoints _ => "allowed_endpoints"
  | .allowedModels _ => "allowed_models"
  | .groupIds _ => "group_ids"
  | .qpsLimit _ => "qps_limit"
  | .concurrencyLimit _ => "concurrency_limit"
  | .dailyRequestLimit _ => "daily_request_limit"
  | .dailyTokenLimit _ => "daily_token_limit"
  | .totalRequestLimit _ => "total_request_limit"
  | .totalTokenLimit _ => "total_token_limit"
  | .maxOutputTokensPerRequest _ => "max_output_tokens_per_request"

/-- The value the update assigns, as the audit records it. -/
def assigned : CallerField → AuditValue
  | .name value => .text value
  | .description value => auditText value
  | .allowedEndpoints values | .allowedModels values | .groupIds values => .texts values
  | .qpsLimit value | .concurrencyLimit value | .maxOutputTokensPerRequest value =>
      .integer value
  | .dailyRequestLimit value | .dailyTokenLimit value | .totalRequestLimit value
  | .totalTokenLimit value => auditCount value

/-- The field's value on a client, as the audit records it. -/
def read (client : ApiClient) : CallerField → AuditValue
  | .name _ => .text client.name
  | .description _ => auditText client.description
  | .allowedEndpoints _ => .texts client.allowedEndpoints
  | .allowedModels _ => .texts client.allowedModels
  | .groupIds _ => .texts client.groupIds
  | .qpsLimit _ => .integer client.qpsLimit
  | .concurrencyLimit _ => .integer client.concurrencyLimit
  | .dailyRequestLimit _ => auditCount client.dailyRequestLimit
  | .dailyTokenLimit _ => auditCount client.dailyTokenLimit
  | .totalRequestLimit _ => auditCount client.totalRequestLimit
  | .totalTokenLimit _ => auditCount client.totalTokenLimit
  | .maxOutputTokensPerRequest _ => .integer client.maxOutputTokensPerRequest

def write (client : ApiClient) : CallerField → ApiClient
  | .name value => { client with name := value }
  | .description value => { client with description := value }
  | .allowedEndpoints values => { client with allowedEndpoints := values }
  | .allowedModels values => { client with allowedModels := values }
  | .groupIds values => { client with groupIds := values }
  | .qpsLimit value => { client with qpsLimit := value }
  | .concurrencyLimit value => { client with concurrencyLimit := value }
  | .dailyRequestLimit value => { client with dailyRequestLimit := value }
  | .dailyTokenLimit value => { client with dailyTokenLimit := value }
  | .totalRequestLimit value => { client with totalRequestLimit := value }
  | .totalTokenLimit value => { client with totalTokenLimit := value }
  | .maxOutputTokensPerRequest value => { client with maxOutputTokensPerRequest := value }

theorem write_id (client : ApiClient) (field : CallerField) :
    (write client field).id = client.id := by
  cases field <;> rfl

end CallerField

/-- A submitted update. `none` is a field left out, `some none` a null. -/
structure AdminCallerPatch where
  name : Option (Option String) := none
  description : Option (Option String) := none
  allowedEndpoints : Option (Option (List String)) := none
  allowedModels : Option (Option (List String)) := none
  groupIds : Option (Option (List String)) := none
  qpsLimit : Option (Option Int) := none
  concurrencyLimit : Option (Option Int) := none
  dailyRequestLimit : Option (Option Int) := none
  dailyTokenLimit : Option (Option Int) := none
  totalRequestLimit : Option (Option Int) := none
  totalTokenLimit : Option (Option Int) := none
  maxOutputTokensPerRequest : Option (Option Int) := none
  deriving DecidableEq, Repr

/-- A field that may be left out but not cleared. -/
def checkRequired {α : Type} (field : String) (check : α → Except AdminError α)
    (assign : α → CallerField) : Option (Option α) → Except AdminError (List CallerField)
  | none => return []
  | some none => throw (.validation field)
  | some (some value) => return [assign (← check value)]

/-- A field that may be left out or cleared. -/
def checkNullable {α : Type} (check : α → Except AdminError α)
    (assign : Option α → CallerField) : Option (Option α) → Except AdminError (List CallerField)
  | none => return []
  | some value => return [assign (← checkOptional check value)]

/-- The validated fields of an update, in the order the service assigns them. -/
def AdminCallerPatch.validate (patch : AdminCallerPatch) (expectedVersion : Int) :
    Except AdminError (List CallerField) := do
  require (0 < expectedVersion) (.validation "expected_version")
  let name ← checkRequired "name" (checkText "name" 1 128) .name patch.name
  let description ←
    checkNullable (checkText "description" 0 1024) .description patch.description
  let allowedEndpoints ←
    checkRequired "allowed_endpoints" checkEndpoints .allowedEndpoints patch.allowedEndpoints
  let allowedModels ←
    checkRequired "allowed_models" (checkStrings "allowed_models" 1) .allowedModels
      patch.allowedModels
  let groupIds ←
    checkRequired "group_ids" (checkStrings "group_ids" 0) .groupIds patch.groupIds
  let qpsLimit ←
    checkRequired "qps_limit" (checkCount "qps_limit" 100000) .qpsLimit patch.qpsLimit
  let concurrencyLimit ←
    checkRequired "concurrency_limit" (checkCount "concurrency_limit" 10000) .concurrencyLimit
      patch.concurrencyLimit
  let dailyRequestLimit ←
    checkNullable (checkCount "daily_request_limit" bigintMax) .dailyRequestLimit
      patch.dailyRequestLimit
  let dailyTokenLimit ←
    checkNullable (checkCount "daily_token_limit" bigintMax) .dailyTokenLimit
      patch.dailyTokenLimit
  let totalRequestLimit ←
    checkNullable (checkCount "total_request_limit" bigintMax) .totalRequestLimit
      patch.totalRequestLimit
  let totalTokenLimit ←
    checkNullable (checkCount "total_token_limit" bigintMax) .totalTokenLimit
      patch.totalTokenLimit
  let maxOutputTokensPerRequest ←
    checkRequired "max_output_tokens_per_request"
      (checkCount "max_output_tokens_per_request" 1000000) .maxOutputTokensPerRequest
      patch.maxOutputTokensPerRequest
  return name ++ description ++ allowedEndpoints ++ allowedModels ++ groupIds ++ qpsLimit ++
    concurrencyLimit ++ dailyRequestLimit ++ dailyTokenLimit ++ totalRequestLimit ++
    totalTokenLimit ++ maxOutputTokensPerRequest

/-! ## The unit of work -/

structure AdminDatabase where
  callers : Callers
  outbox : Table ControlOutbox ControlOutbox.idempotencyKey
  audits : List ApiClientAdminAudit

def AdminDatabase.empty : AdminDatabase :=
  ⟨.empty, .empty, []⟩

/-- A row handed to `session.add` and not yet flushed. -/
inductive AddedRow where
  | client (row : ApiClient)
  | credential (row : ApiClientCredential)
  | binding (row : ApiClientBinding)
  | outbox (row : ControlOutbox)
  | audit (row : ApiClientAdminAudit)
  deriving DecidableEq, Repr

def checkClientRow (clients : Table ApiClient ApiClient.id) (row : ApiClient) :
    Except ModelError Unit := do
  require (∀ other ∈ clients.rows, other.id ≠ row.id → other.name ≠ row.name)
    (.integrityError "uq_api_client_name")
  require (row.name ≠ "" ∧ row.name.toList.length ≤ 128)
    (.integrityError "ck_api_client_name_length")
  require (∀ description ∈ row.description, description.toList.length ≤ 1024)
    (.integrityError "ck_api_client_description_length")
  require (0 < row.qpsLimit) (.integrityError "ck_api_client_qps_positive")
  require (0 < row.concurrencyLimit) (.integrityError "ck_api_client_concurrency_positive")
  require (∀ limit ∈ row.dailyRequestLimit, 0 < limit)
    (.integrityError "ck_api_client_daily_requests_positive")
  require (∀ limit ∈ row.dailyTokenLimit, 0 < limit)
    (.integrityError "ck_api_client_daily_tokens_positive")
  require (∀ limit ∈ row.totalRequestLimit, 0 < limit)
    (.integrityError "ck_api_client_total_requests_positive")
  require (∀ limit ∈ row.totalTokenLimit, 0 < limit)
    (.integrityError "ck_api_client_total_tokens_positive")
  require (0 < row.maxOutputTokensPerRequest)
    (.integrityError "ck_api_client_max_output_tokens_positive")
  require (0 < row.version) (.integrityError "ck_api_client_version_positive")

def checkCredentialRow (callers : Callers) (row : ApiClientCredential) :
    Except ModelError Unit := do
  require (callers.clients.find? row.apiClientId).isSome
    (.integrityError "fk_api_client_credential_api_client_id_api_client")
  require (callers.credentials.find? row.id = none)
    (.integrityError "pk_api_client_credential")
  require (∀ other ∈ callers.credentials.rows, other.keyId ≠ row.keyId)
    (.integrityError "uq_api_client_credential_key_id")
  require (8 ≤ row.keyId.toList.length ∧ row.keyId.toList.length ≤ 80)
    (.integrityError "ck_api_client_credential_key_id_length")
  require (row.keyId.toList.take 4 = "zpk_".toList)
    (.integrityError "ck_api_client_credential_key_id_prefix")
  require (∀ expiry ∈ row.expiresAt, 0 < expiry)
    (.integrityError "ck_api_client_credential_expires_at_positive")

def checkBindingRow (callers : Callers) (row : ApiClientBinding) : Except ModelError Unit := do
  require (callers.clients.find? row.apiClientId).isSome
    (.integrityError "fk_api_client_binding_api_client_id_api_client")
  require (callers.bindings.find? row.apiClientId = none)
    (.integrityError "uq_api_client_binding_api_client_id")
  require (∀ other ∈ callers.bindings.rows, other.id ≠ row.id)
    (.integrityError "pk_api_client_binding")
  require (∀ user ∈ row.zangpuServiceUserId, ∀ other ∈ callers.bindings.rows,
      other.zangpuServiceUserId ≠ some user)
    (.integrityError "uq_api_client_binding_service_user_id")
  require (0 < row.version) (.integrityError "ck_api_client_binding_version_positive")

/-- One INSERT of a flush. -/
def AdminDatabase.insert (database : AdminDatabase) :
    AddedRow → Except ModelError AdminDatabase
  | .client row => do
      require (database.callers.clients.find? row.id = none) (.integrityError "pk_api_client")
      checkClientRow database.callers.clients row
      return { database with
        callers.clients := database.callers.clients.insertNew row }
  | .credential row => do
      checkCredentialRow database.callers row
      return { database with
        callers.credentials := database.callers.credentials.insertNew row }
  | .binding row => do
      checkBindingRow database.callers row
      return { database with
        callers.bindings := database.callers.bindings.insertNew row }
  | .outbox row => do
      require (database.outbox.find? row.idempotencyKey = none)
        (.integrityError "uq_control_outbox_idempotency_key")
      require (∀ other ∈ database.outbox.rows, other.id ≠ row.id)
        (.integrityError "pk_control_outbox")
      return { database with outbox := database.outbox.insertNew row }
  | .audit row => do
      require (∀ client ∈ row.apiClientId, (database.callers.clients.find? client).isSome)
        (.integrityError "fk_api_client_admin_audit_api_client_id_api_client")
      require (∀ other ∈ database.audits, other.id ≠ row.id)
        (.integrityError "pk_api_client_admin_audit")
      row.checkInsert
      return { database with audits := database.audits ++ [row] }

/-- The rows a transaction sees through its identity map, and the rows added and
not yet inserted. -/
structure Session where
  database : AdminDatabase
  added : List AddedRow

namespace Session

/-- `sessions.begin()`. -/
def begin (database : AdminDatabase) : Session := ⟨database, []⟩

def add (session : Session) (row : AddedRow) : Session :=
  { session with added := session.added ++ [row] }

def flush (session : Session) : Except ModelError Session := do
  let database ← session.added.foldlM AdminDatabase.insert session.database
  return ⟨database, []⟩

/-- The lazy load of `client.credentials`: an autoflush, then every credential
row of the client. -/
def clientCredentials (session : Session) (clientId : String) :
    Except ModelError (Session × List ApiClientCredential) := do
  let flushed ← session.flush
  return (flushed, flushed.database.callers.credentials.rows.filter
    fun credential => credential.apiClientId = clientId)

/-- Attribute changes on one loaded credential. -/
def changeCredential (session : Session) (credentialId : String)
    (change : ApiClientCredential → ApiClientCredential)
    (keeps : ∀ credential, (change credential).id = credential.id) : Session :=
  { session with
    database.callers.credentials :=
      session.database.callers.credentials.modify credentialId change keeps }

/-- Attribute changes on one loaded client, with the constraints its UPDATE meets. -/
def changeClient (session : Session) (clientId : String)
    (change : ApiClient → ApiClient) (keeps : ∀ client, (change client).id = client.id) :
    Except ModelError Session := do
  let clients := session.database.callers.clients.modify clientId change keeps
  match clients.find? clientId with
  | none => return session
  | some row =>
      checkClientRow clients row
      return { session with database.callers.clients := clients }

/-- Attribute changes on the binding of one client. -/
def changeBinding (session : Session) (clientId : String)
    (change : ApiClientBinding → ApiClientBinding)
    (keeps : ∀ binding, (change binding).apiClientId = binding.apiClientId) : Session :=
  { session with
    database.callers.bindings :=
      session.database.callers.bindings.modify clientId change keeps }

end Session

/-! ## Credentials -/

/-- The identifiers drawn for a new credential. -/
structure CredentialDraw where
  credentialId : String
  keyId : String
  deriving DecidableEq, Repr

/-- `credential_aad`: identifiers that can be joined by line breaks. -/
def checkCredentialAad (credentialId apiClientId keyId masterKeyId : String) :
    Except ModelError Unit :=
  require (∀ value ∈ [credentialId, apiClientId, keyId, masterKeyId],
      value ≠ "" ∧ '\n' ∉ value.toList ∧ '\r' ∉ value.toList)
    (.valueError "credential AAD identifiers must be non-empty single-line values")

def createProtectedCredential (masterKeyId apiClientId createdBy : String)
    (draw : CredentialDraw) (now : Int) : Except ModelError ApiClientCredential := do
  checkCredentialAad draw.credentialId apiClientId draw.keyId masterKeyId
  return {
    id := draw.credentialId
    apiClientId := apiClientId
    keyId := draw.keyId
    status := .active
    expiresAt := none
    replacedById := none
    createdBy := createdBy
    revokedBy := none
    createdAt := now
    revokedAt := none }

def revokeRow (actorId : String) (now : Int) (credential : ApiClientCredential) :
    ApiClientCredential :=
  { credential with status := .revoked, revokedBy := some actorId, revokedAt := some now }

def replaceRow (actorId : String) (now : Int) (replacement : String)
    (credential : ApiClientCredential) : ApiClientCredential :=
  { revokeRow actorId now credential with replacedById := some replacement }

theorem revokeRow_id (actorId : String) (now : Int) (credential : ApiClientCredential) :
    (revokeRow actorId now credential).id = credential.id := rfl

theorem replaceRow_id (actorId : String) (now : Int) (replacement : String)
    (credential : ApiClientCredential) :
    (replaceRow actorId now replacement credential).id = credential.id := rfl

/-- The loop over loaded credentials that changes the active ones. -/
def changeActive (change : ApiClientCredential → ApiClientCredential)
    (keeps : ∀ credential, (change credential).id = credential.id) :
    List ApiClientCredential → Session → Session
  | [], session => session
  | credential :: rest, session =>
      changeActive change keeps rest
        (if credential.status = .active then
          session.changeCredential credential.id change keeps
        else session)

/-! ## Client changes -/

def touchClient (actorId : String) (now : Int) (client : ApiClient) : ApiClient :=
  { client with updatedBy := actorId, updatedAt := now, version := client.version + 1 }

def disableClient (actorId : String) (now : Int) (client : ApiClient) : ApiClient :=
  { touchClient actorId now client with status := .disabled, disabledAt := some now }

def patchClient (actorId : String) (now : Int) (fields : List CallerField)
    (client : ApiClient) : ApiClient :=
  touchClient actorId now (fields.foldl CallerField.write client)

theorem touchClient_id (actorId : String) (now : Int) (client : ApiClient) :
    (touchClient actorId now client).id = client.id := rfl

theorem disableClient_id (actorId : String) (now : Int) (client : ApiClient) :
    (disableClient actorId now client).id = client.id := rfl

theorem foldl_write_id (fields : List CallerField) (client : ApiClient) :
    (fields.foldl CallerField.write client).id = client.id := by
  induction fields generalizing client with
  | nil => rfl
  | cons field rest inductionHypothesis =>
      rw [List.foldl_cons, inductionHypothesis, CallerField.write_id]

theorem patchClient_id (actorId : String) (now : Int) (fields : List CallerField)
    (client : ApiClient) : (patchClient actorId now fields client).id = client.id := by
  rw [patchClient, touchClient_id, foldl_write_id]

/-- The columns that no field of an update writes. -/
def fixedColumns (client : ApiClient) : String × ClientStatus × Int × String × Int × Option Int :=
  (client.id, client.status, client.version, client.createdBy, client.createdAt,
    client.disabledAt)

theorem fixedColumns_foldl (fields : List CallerField) (client : ApiClient) :
    fixedColumns (fields.foldl CallerField.write client) = fixedColumns client := by
  induction fields generalizing client with
  | nil => rfl
  | cons field rest inductionHypothesis =>
      rw [List.foldl_cons, inductionHypothesis]
      cases field <;> rfl

/-- A staged binding replaces the stored one of the same client. -/
def stagedBinding (staged binding : ApiClientBinding) : ApiClientBinding :=
  { staged with apiClientId := binding.apiClientId }

theorem stagedBinding_apiClientId (staged binding : ApiClientBinding) :
    (stagedBinding staged binding).apiClientId = binding.apiClientId := rfl

/-! ## Transactions -/

/-- The row of `_write_audit`, through its attribute validators. -/
def writeAudit (actorId clientId : String) (targetType action : String)
    (changedFields : List String) (before after : AuditSummary) (targetId : Option String)
    (auditId : String) (now : Int) : Except ModelError ApiClientAdminAudit :=
  ApiClientAdminAudit.construct {
    id := auditId
    actorUserId := actorId
    apiClientId := some clientId
    targetType := targetType
    targetId := some (match targetId with
      | none => clientId
      | some target => if target = "" then clientId else target)
    action := action
    changedFields := changedFields
    beforeSummary := before
    afterSummary := after
    createdAt := now }

/-- What `_detail` returns. -/
structure AdminCallerDetail where
  client : ApiClient
  credentials : List ApiClientCredential
  binding : Option ApiClientBinding
  deriving DecidableEq, Repr

def detail (session : Session) (client : ApiClient) :
    Except AdminError (Session × AdminCallerDetail) := do
  let (session, credentials) ← fromModel (session.clientCredentials client.id)
  return (session, ⟨client, credentials, session.database.callers.bindings.find? client.id⟩)

/-- The configuration a transaction reads: the key ring's active version and the
SHA-256 hex digest. -/
structure AdminRuntime where
  activeKeyId : String
  sha256 : String → String

/-- The identifiers and the clock reading one transaction draws. -/
structure AdminDraw where
  clientId : String := ""
  credential : CredentialDraw := ⟨"", ""⟩
  bindingId : String := ""
  outboxId : String := ""
  auditId : String
  now : Int
  deriving DecidableEq, Repr

section Transactions

variable (runtime : AdminRuntime)

def idempotencyKey (action actorId supplied : String) : Except AdminError String := do
  require (supplied ≠ "" ∧ supplied.toList.length ≤ 128)
    (.model (.valueError "administrator idempotency key is invalid"))
  return "admin:" ++ runtime.sha256 (action ++ "\n" ++ actorId ++ "\n" ++ supplied)

/-- The client row of a create request. -/
def createdClient (fields : AdminCallerCreateFields) (actorId : String) (draw : AdminDraw) :
    ApiClient where
  id := draw.clientId
  name := fields.name
  description := fields.description
  status := .active
  allowedEndpoints := fields.allowedEndpoints
  allowedModels := fields.allowedModels
  groupIds := fields.groupIds
  qpsLimit := fields.qpsLimit
  concurrencyLimit := fields.concurrencyLimit
  dailyRequestLimit := fields.dailyRequestLimit
  dailyTokenLimit := fields.dailyTokenLimit
  totalRequestLimit := fields.totalRequestLimit
  totalTokenLimit := fields.totalTokenLimit
  maxOutputTokensPerRequest := fields.maxOutputTokensPerRequest
  version := 1
  createdBy := actorId
  updatedBy := actorId
  createdAt := draw.now
  updatedAt := draw.now
  disabledAt := none

/-- The fields a `caller.created` audit records. -/
def createdFields (client : ApiClient) : List CallerField :=
  [.name client.name, .description client.description,
    .allowedEndpoints (client.allowedEndpoints.insertionSort (· ≤ ·)),
    .allowedModels (client.allowedModels.insertionSort (· ≤ ·)),
    .groupIds (client.groupIds.insertionSort (· ≤ ·)),
    .qpsLimit client.qpsLimit, .concurrencyLimit client.concurrencyLimit,
    .dailyRequestLimit client.dailyRequestLimit, .dailyTokenLimit client.dailyTokenLimit,
    .totalRequestLimit client.totalRequestLimit, .totalTokenLimit client.totalTokenLimit,
    .maxOutputTokensPerRequest client.maxOutputTokensPerRequest]

structure AdminCallerCreateResult where
  client : ApiClient
  credential : ApiClientCredential
  binding : ApiClientBinding
  outboxId : String
  deriving DecidableEq, Repr

def createCaller (request : AdminCallerCreateRequest) (actorId supplied : String)
    (draw : AdminDraw) (database : AdminDatabase) :
    Except AdminError (AdminDatabase × AdminCallerCreateResult) := do
  let client := createdClient request.fields actorId draw
  let session ← fromModel ((Session.begin database).add (.client client)).flush
  let credential ← fromModel
    (createProtectedCredential runtime.activeKeyId client.id actorId draw.credential draw.now)
  let session := session.add (.credential credential)
  let spec : VirtualKeySpec := {
    name := "zangpu-" ++ client.id
    description := match request.fields.description with
      | none => "Managed by Zangpu control plane"
      | some description =>
          if description = "" then "Managed by Zangpu control plane" else description
    provider := request.fields.provider
    model := request.fields.model
    providerKeyIds := [] }
  require (spec.name.toList.length ≤ 128) (.validation "name")
  let binding : ApiClientBinding := {
    id := draw.bindingId
    apiClientId := client.id
    zangpuServiceUserId := some request.fields.serviceUserId
    bifrostVirtualKeyId := none
    bifrostValueCiphertext := none
    bifrostValueKeyVersion := none
    bifrostConfigHash := desiredConfigHash runtime.sha256 spec
    syncStatus := .pending
    lastSyncErrorCode := none
    version := 1
    createdAt := draw.now
    updatedAt := draw.now }
  let key ← idempotencyKey runtime "create" actorId supplied
  let (binding, outbox) ← fromModel
    (stageBifrostBindingSync runtime.sha256 binding spec .create key draw.outboxId draw.now)
  let fields := createdFields client
  let audit ← fromModel (writeAudit actorId client.id "client" "caller.created"
    (fields.map CallerField.fieldName ++ ["status"]) []
    (fields.map (fun field => (field.fieldName, field.assigned)) ++ [("status", .text "active")])
    none draw.auditId draw.now)
  let session ← fromModel
    (((session.add (.binding binding)).add (.outbox outbox)).add (.audit audit)).flush
  return (session.database, ⟨client, credential, binding, outbox.id⟩)

def disableCaller (clientId actorId supplied : String) (draw : AdminDraw)
    (database : AdminDatabase) : Except AdminError (AdminDatabase × AdminCallerDetail) := do
  let session := Session.begin database
  match session.database.callers.clients.find? clientId with
  | none => throw (.callerNotFound "caller was not found")
  | some client =>
      if client.status = .disabled then
        let (session, found) ← detail session client
        return (session.database, found)
      else
        require (client.status = .active)
          (.callerState "only active callers can be disabled")
        match session.database.callers.bindings.find? clientId with
        | none => throw (.callerState "caller binding is not configured")
        | some binding =>
            let key ← idempotencyKey runtime "disable" actorId supplied
            -- `stage_local_client_disable`: the client first, then its credentials.
            let session ← fromModel (session.changeClient clientId
              (disableClient actorId draw.now) (disableClient_id actorId draw.now))
            let (session, credentials) ← fromModel (session.clientCredentials clientId)
            let session := changeActive (revokeRow actorId draw.now)
              (revokeRow_id actorId draw.now) credentials session
            let (staged, outbox) ← fromModel
              (stageBindingDisable binding key draw.outboxId draw.now)
            let session := session.changeBinding clientId (stagedBinding staged)
              (stagedBinding_apiClientId staged)
            let audit ← fromModel (writeAudit actorId clientId "client" "caller.disabled"
              ["status", "credentials"]
              [("status", .text "active"), ("credentials", .text "active")]
              [("status", .text "disabled"), ("credentials", .text "revoked")]
              none draw.auditId draw.now)
            let session ← fromModel ((session.add (.outbox outbox)).add (.audit audit)).flush
            let (session, found) ← detail session (disableClient actorId draw.now client)
            return (session.database, found)

/-- The rotation. The new credential is added to the session before the loop
loads `client.credentials`, and that load flushes it first. -/
def rotateCredential (clientId actorId : String) (draw : AdminDraw)
    (database : AdminDatabase) :
    Except AdminError (AdminDatabase × ApiClientCredential) := do
  let session := Session.begin database
  match session.database.callers.clients.find? clientId with
  | none => throw (.callerNotFound "caller was not found")
  | some client =>
      require (client.status = .active)
        (.callerState "disabled caller cannot rotate credentials")
      let issued ← fromModel (createProtectedCredential runtime.activeKeyId client.id actorId
        draw.credential draw.now)
      let session := session.add (.credential issued)
      let (session, credentials) ← fromModel (session.clientCredentials client.id)
      let session := changeActive (replaceRow actorId draw.now issued.id)
        (replaceRow_id actorId draw.now issued.id) credentials session
      let session ← fromModel (session.changeClient clientId
        (touchClient actorId draw.now) (touchClient_id actorId draw.now))
      let audit ← fromModel (writeAudit actorId client.id "credential" "credential.rotated"
        ["credentials"] [("credentials", .text "active")] [("credentials", .text "rotated")]
        (some issued.id) draw.auditId draw.now)
      let session ← fromModel (session.add (.audit audit)).flush
      match session.database.callers.credentials.find? issued.id with
      | none => throw (.callerNotFound "credential was not found")
      | some summary => return (session.database, summary)

def revokeCredential (clientId credentialId actorId : String) (draw : AdminDraw)
    (database : AdminDatabase) :
    Except AdminError (AdminDatabase × ApiClientCredential) := do
  let session := Session.begin database
  match session.database.callers.clients.find? clientId with
  | none => throw (.callerNotFound "caller was not found")
  | some client =>
      match session.database.callers.credentials.find? credentialId with
      | none => throw (.callerNotFound "credential was not found")
      | some credential =>
          require (credential.apiClientId = client.id)
            (.callerNotFound "credential was not found")
          if credential.status = .active then
            let session := session.changeCredential credentialId
              (revokeRow actorId draw.now) (revokeRow_id actorId draw.now)
            let session ← fromModel (session.changeClient clientId
              (touchClient actorId draw.now) (touchClient_id actorId draw.now))
            let audit ← fromModel (writeAudit actorId client.id "credential"
              "credential.revoked" ["credential_status"]
              [("credential_status", .text "active")]
              [("credential_status", .text "revoked")] (some credential.id) draw.auditId
              draw.now)
            let session ← fromModel (session.add (.audit audit)).flush
            return (session.database, revokeRow actorId draw.now credential)
          else
            return (session.database, credential)

def updateCaller (clientId : String) (expectedVersion : Int) (patch : AdminCallerPatch)
    (actorId : String) (draw : AdminDraw) (database : AdminDatabase) :
    Except AdminError (AdminDatabase × AdminCallerDetail) := do
  let fields ← patch.validate expectedVersion
  let session := Session.begin database
  match session.database.callers.clients.find? clientId with
  | none => throw (.callerNotFound "caller was not found")
  | some client =>
      require (client.version = expectedVersion) (.callerState "caller version is stale")
      require (fields ≠ []) (.callerState "caller update is empty")
      let session ← fromModel (session.changeClient clientId
        (patchClient actorId draw.now fields) (patchClient_id actorId draw.now fields))
      let audit ← fromModel (writeAudit actorId client.id "client" "caller.updated"
        (fields.map CallerField.fieldName)
        (fields.map fun field => (field.fieldName, field.read client))
        (fields.map fun field => (field.fieldName, field.assigned)) none draw.auditId draw.now)
      let session ← fromModel (session.add (.audit audit)).flush
      let (session, found) ← detail session (patchClient actorId draw.now fields client)
      return (session.database, found)

end Transactions

end Zangpu.Services.Admin
