import Zangpu.Foundation.Outcome
import Zangpu.Foundation.Table

/-!
Administrator audit rows and bounded string sets.

Owns: `validate_string_set`, which client columns and audit rows share; the flat
summary values of an audit row; the sensitive-name filter; and the construction
of an audit row through its attribute validators, insert hook and check
constraints.

Does not own: the services that write audit rows. Field names are ASCII column
names here, so `isalnum` and `lower` are the ASCII ones.
-/

set_option autoImplicit false

namespace Zangpu.Models

open Zangpu.Foundation

/-- A value refused by a model validator, or a row refused by the database by
the named constraint. -/
inductive ModelError where
  | valueError (message : String)
  | integrityError (constraint : String)
  deriving DecidableEq, Repr

/-- A bounded duplicate-free list of bounded non-empty texts, returned sorted. -/
def validateStringSet (fieldName : String) (values : List String)
    (allowed : Option (List String)) (maxItems maxItemLength : Nat) :
    Except ModelError (List String) := do
  require (values.length ≤ maxItems) (.valueError (fieldName ++ " must be a bounded list"))
  require (∀ value ∈ values, value ≠ "" ∧ value.toList.length ≤ maxItemLength)
    (.valueError (fieldName ++ " contains an invalid value"))
  require values.Nodup (.valueError (fieldName ++ " must not contain duplicates"))
  require (∀ names ∈ allowed, ∀ value ∈ values, value ∈ names)
    (.valueError (fieldName ++ " contains an unsupported value"))
  return values.insertionSort (· ≤ ·)

/-! ## Audit summaries -/

/-- The JSON values that occur in audit summaries. -/
inductive AuditValue where
  | null
  | integer (value : Int)
  | text (value : String)
  | texts (values : List String)
  deriving DecidableEq, Repr

/-- A summary object, as its entries. -/
abbrev AuditSummary := List (String × AuditValue)

def sensitiveAuditTokens : List String :=
  ["authorization", "body", "ciphertext", "nonce", "prompt", "query", "secret", "signature"]

def sensitiveAuditFragments : List String :=
  ["answer", "authorization", "bifrost_value", "body", "ciphertext", "nonce", "prompt", "query",
    "raw_error", "raw_response", "secret", "signature", "upstream_error", "x_bf_vk"]

def auditMaxFields : Nat := 64

def auditMaxListItems : Nat := 256

def auditMaxValueLength : Nat := 512

/-- The maximal runs of alphanumeric characters, lower-cased. The second
argument is the current run, reversed. -/
def fieldWords : List Char → List Char → List (List Char)
  | [], word => if word = [] then [] else [word.reverse]
  | character :: rest, word =>
      if character.isAlphanum then fieldWords rest (character.toLower :: word)
      else if word = [] then fieldWords rest []
      else word.reverse :: fieldWords rest []

def normalizedFieldName (fieldName : String) : List Char :=
  ['_'].intercalate (fieldWords fieldName.toList [])

def auditFieldIsSensitive (fieldName : String) : Bool :=
  (fieldWords fieldName.toList []).any
      (fun word => sensitiveAuditTokens.any fun token => token.toList == word) ||
    sensitiveAuditFragments.any fun fragment =>
      decide (fragment.toList <:+: normalizedFieldName fieldName)

def validateSummaryValue (fieldName : String) : AuditValue → Except ModelError Unit
  | .null => .ok ()
  | .integer _ => .ok ()
  | .text value =>
      require (value.toList.length ≤ auditMaxValueLength)
        (.valueError (fieldName ++ " contains an oversized value"))
  | .texts values => do
      require (values.length ≤ auditMaxListItems)
        (.valueError (fieldName ++ " contains an oversized list"))
      require (∀ value ∈ values, value.toList.length ≤ auditMaxValueLength)
        (.valueError (fieldName ++ " contains an oversized value"))

/-- The entries of a summary are checked in order; the first refusal wins. -/
def validateSummaryEntries (fieldName : String) : AuditSummary → Except ModelError Unit
  | [] => .ok ()
  | (name, value) :: rest => do
      require (name ≠ "" ∧ name.toList.length ≤ 64)
        (.valueError (fieldName ++ " contains an invalid field name"))
      require (auditFieldIsSensitive name = false)
        (.valueError (fieldName ++ " contains a sensitive field"))
      validateSummaryValue fieldName value
      validateSummaryEntries fieldName rest

/-- The validated summary, its entries sorted by name. -/
def validateAuditSummary (fieldName : String) (summary : AuditSummary) :
    Except ModelError AuditSummary := do
  require (summary.length ≤ auditMaxFields)
    (.valueError (fieldName ++ " must be a bounded object"))
  validateSummaryEntries fieldName summary
  return summary.insertionSort (fun left right => left.1 ≤ right.1)

/-! ## Audit rows -/

/-- An administrator audit row. -/
structure ApiClientAdminAudit where
  id : String
  actorUserId : String
  apiClientId : Option String
  targetType : String
  targetId : Option String
  action : String
  changedFields : List String
  beforeSummary : AuditSummary
  afterSummary : AuditSummary
  createdAt : Int
  deriving DecidableEq, Repr

namespace ApiClientAdminAudit

def targetTypes : List String :=
  ["client", "credential", "permission", "quota", "group", "status", "retention", "export"]

/-- The row as its attribute validators leave it. -/
def construct (audit : ApiClientAdminAudit) : Except ModelError ApiClientAdminAudit := do
  require (audit.targetType ∈ targetTypes) (.valueError "unsupported audit target type")
  require (audit.action ≠ "" ∧ audit.action.toList.length ≤ 64)
    (.valueError "audit action must be between 1 and 64 characters")
  let changedFields ←
    validateStringSet "changed_fields" audit.changedFields none auditMaxFields 64
  require (∀ field ∈ changedFields, auditFieldIsSensitive field = false)
    (.valueError "changed_fields contains a sensitive field")
  let beforeSummary ← validateAuditSummary "before_summary" audit.beforeSummary
  let afterSummary ← validateAuditSummary "after_summary" audit.afterSummary
  return { audit with
    changedFields := changedFields, beforeSummary := beforeSummary, afterSummary := afterSummary }

/-- The insert hook and the check constraints. -/
def checkInsert (audit : ApiClientAdminAudit) : Except ModelError Unit := do
  require (∀ entry ∈ audit.beforeSummary ++ audit.afterSummary, entry.1 ∈ audit.changedFields)
    (.valueError "audit summary fields must be included in changed_fields")
  require (audit.actorUserId ≠ "" ∧ audit.actorUserId.toList.length ≤ 128)
    (.integrityError "ck_api_client_admin_audit_actor_user_id_length")
  require (∀ target ∈ audit.targetId, target ≠ "" ∧ target.toList.length ≤ 128)
    (.integrityError "ck_api_client_admin_audit_target_id_length")

end ApiClientAdminAudit

end Zangpu.Models
