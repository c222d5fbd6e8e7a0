import Zangpu.Foundation.Batches
import Zangpu.Models.Audits
import Zangpu.Models.Ledger

/-!
The retention service.

Owns: `RetentionService` with its accepted settings; `preview` and `purge` on the
event and audit tables, with the errors of each and the audit row of a purge; and
one law for what a successful purge does and when it succeeds.

Does not own: the HTTP layer, and the bounds of the request model. The identifier
drawn for the audit row is an argument.
-/

set_option autoImplicit false

namespace Zangpu.Services.Retention

open Zangpu.Foundation
open Zangpu.Models

def secondsPerDay : Int := 86400

inductive RetentionError where
  | confirmation (message : String)
  | snapshotConflict (message : String)
  | nothingToPurge (message : String)
  | valueError (message : String)
  | model (error : ModelError)
  deriving DecidableEq, Repr

/-- The settings that the constructor accepts. -/
structure RetentionService where
  eventRetentionDays : Int
  adminAuditRetentionDays : Int
  batchSize : Nat
  eventBounds : 30 ≤ eventRetentionDays ∧ eventRetentionDays ≤ 3650
  auditBounds : 365 ≤ adminAuditRetentionDays ∧ adminAuditRetentionDays ≤ 3650
  auditsOutlast : eventRetentionDays ≤ adminAuditRetentionDays
  batchBounds : 1 ≤ batchSize ∧ batchSize ≤ 10000

/-- The tables that a purge reads and writes. -/
structure RetentionDatabase where
  events : Table ApiCallEvent ApiCallEvent.id
  audits : Table ApiClientAdminAudit ApiClientAdminAudit.id

structure RetentionPreview where
  generatedAt : Int
  eventRetentionDays : Int
  adminAuditRetentionDays : Int
  eventCutoff : Int
  auditCutoff : Int
  eventEligibleCount : Nat
  auditEligibleCount : Nat
  eventBatchCount : Nat
  auditBatchCount : Nat
  batchSize : Nat
  deriving DecidableEq, Repr

structure RetentionPurgeResult where
  auditId : String
  completedAt : Int
  eventCutoff : Int
  auditCutoff : Int
  eventDeletedCount : Nat
  auditDeletedCount : Nat
  eventRemainingCount : Int
  auditRemainingCount : Int
  batchSize : Nat
  deriving DecidableEq, Repr

/-! ## Eligible rows -/

def eventExpired (cutoff : Int) (event : ApiCallEvent) : Bool := decide (event.createdAt < cutoff)

def auditExpired (cutoff : Int) (audit : ApiClientAdminAudit) : Bool :=
  decide (audit.createdAt < cutoff)

/-- `ORDER BY created_at, id`. -/
def eventRank (event : ApiCallEvent) : Int ×ₗ String := toLex (event.createdAt, event.id)

def auditRank (audit : ApiClientAdminAudit) : Int ×ₗ String := toLex (audit.createdAt, audit.id)

theorem eventRank_injective (left right : ApiCallEvent) (same : eventRank left = eventRank right) :
    left.id = right.id :=
  congrArg Prod.snd (toLex.injective same)

theorem auditRank_injective (left right : ApiClientAdminAudit)
    (same : auditRank left = auditRank right) : left.id = right.id :=
  congrArg Prod.snd (toLex.injective same)

/-- The expired events, oldest first. -/
def expiredEvents (cutoff : Int) (database : RetentionDatabase) : List ApiCallEvent :=
  database.events.ordered eventRank (eventExpired cutoff)

/-- The expired audit rows, oldest first. -/
def expiredAudits (cutoff : Int) (database : RetentionDatabase) : List ApiClientAdminAudit :=
  database.audits.ordered auditRank (auditExpired cutoff)

def eventCount (cutoff : Int) (database : RetentionDatabase) : Nat :=
  database.events.rows.countP (eventExpired cutoff)

def auditCount (cutoff : Int) (database : RetentionDatabase) : Nat :=
  database.audits.rows.countP (auditExpired cutoff)

/-! ## Service -/

variable (service : RetentionService)

def cutoffs (now : Int) : Except RetentionError (Int × Int) := do
  require (0 ≤ now) (.valueError "retention time must not be negative")
  return (max 0 (now - service.eventRetentionDays * secondsPerDay),
    max 0 (now - service.adminAuditRetentionDays * secondsPerDay))

def preview (now : Int) (database : RetentionDatabase) :
    Except RetentionError RetentionPreview := do
  let (eventCutoff, auditCutoff) ← cutoffs service now
  let eventCount := eventCount eventCutoff database
  let auditCount := auditCount auditCutoff database
  return {
    generatedAt := now
    eventRetentionDays := service.eventRetentionDays
    adminAuditRetentionDays := service.adminAuditRetentionDays
    eventCutoff := eventCutoff
    auditCutoff := auditCutoff
    eventEligibleCount := eventCount
    auditEligibleCount := auditCount
    eventBatchCount := min eventCount service.batchSize
    auditBatchCount := min auditCount service.batchSize
    batchSize := service.batchSize }

/-- The entries `before` of a purge. -/
def beforeSummary (eventCount auditCount : Nat) : AuditSummary :=
  [("event_eligible_count", .integer eventCount), ("audit_eligible_count", .integer auditCount)]

/-- The entries `after` of a purge. -/
def afterSummary (result : RetentionPurgeResult) : AuditSummary :=
  [("event_deleted_count", .integer result.eventDeletedCount),
    ("audit_deleted_count", .integer result.auditDeletedCount),
    ("event_remaining_count", .integer result.eventRemainingCount),
    ("audit_remaining_count", .integer result.auditRemainingCount),
    ("event_cutoff", .integer result.eventCutoff),
    ("audit_cutoff", .integer result.auditCutoff),
    ("event_retention_days", .integer service.eventRetentionDays),
    ("admin_audit_retention_days", .integer service.adminAuditRetentionDays),
    ("batch_size", .integer result.batchSize)]

/-- The audit row that a purge adds. -/
def retentionAudit (actorId : String) (eventCount auditCount : Nat)
    (result : RetentionPurgeResult) : ApiClientAdminAudit where
  id := result.auditId
  actorUserId := actorId
  apiClientId := none
  targetType := "retention"
  targetId := some result.auditId
  action := "retention.purged"
  changedFields := (beforeSummary eventCount auditCount).map Prod.fst ++
    (afterSummary service result).map Prod.fst
  beforeSummary := beforeSummary eventCount auditCount
  afterSummary := afterSummary service result
  createdAt := result.completedAt

def fromModel {α : Type} : Except ModelError α → Except RetentionError α
  | .ok value => .ok value
  | .error error => .error (.model error)

/-- The audit row through its validators, its insert hook and its primary key. -/
def addAudit (audit : ApiClientAdminAudit) (database : RetentionDatabase) :
    Except RetentionError RetentionDatabase := do
  let audit ← fromModel audit.construct
  fromModel audit.checkInsert
  require (database.audits.find? audit.id = none)
    (.model (.integrityError "pk_api_client_admin_audit"))
  return { database with audits := database.audits.insertNew audit }

/-- One transaction; an error rolls it back. -/
def purge (actorId : String) (now expectedEventCount expectedAuditCount : Int)
    (confirmed : Bool) (auditId : String) (database : RetentionDatabase) :
    Except RetentionError (RetentionPurgeResult × RetentionDatabase) := do
  require (confirmed = true) (.confirmation "retention purge requires explicit confirmation")
  require (0 ≤ expectedEventCount ∧ 0 ≤ expectedAuditCount)
    (.valueError "expected retention counts must not be negative")
  let (eventCutoff, auditCutoff) ← cutoffs service now
  let eventCount := eventCount eventCutoff database
  let auditCount := auditCount auditCutoff database
  require ((eventCount : Int) = expectedEventCount ∧ (auditCount : Int) = expectedAuditCount)
    (.snapshotConflict "retention preview is stale; preview again before purging")
  require (¬(eventCount = 0 ∧ auditCount = 0))
    (.nothingToPurge "no records are eligible for retention purge")
  let eventIds := database.events.firstKeys eventRank (eventExpired eventCutoff) service.batchSize
  let auditIds := database.audits.firstKeys auditRank (auditExpired auditCutoff) service.batchSize
  let (events, eventDeleted) := database.events.deleteKeys eventIds
  let (audits, auditDeleted) := database.audits.deleteKeys auditIds
  require (eventDeleted = eventIds.length ∧ auditDeleted = auditIds.length)
    (.snapshotConflict "retention rows changed while the purge was running")
  let result : RetentionPurgeResult := {
    auditId := auditId
    completedAt := now
    eventCutoff := eventCutoff
    auditCutoff := auditCutoff
    eventDeletedCount := eventDeleted
    auditDeletedCount := auditDeleted
    eventRemainingCount := (eventCount : Int) - eventDeleted
    auditRemainingCount := (auditCount : Int) - auditDeleted
    batchSize := service.batchSize }
  let database ← addAudit (retentionAudit service actorId eventCount auditCount result)
    ⟨events, audits⟩
  return (result, database)

/-- The database after a purge: what it committed, or the database before it. -/
def purged (actorId : String) (now expectedEventCount expectedAuditCount : Int)
    (confirmed : Bool) (auditId : String) (database : RetentionDatabase) : RetentionDatabase :=
  match purge service actorId now expectedEventCount expectedAuditCount confirmed auditId
    database with
  | .ok (_, after) => after
  | .error _ => database

/-! ## The audit row of a purge -/

/-- A field name that the audit validators accept. -/
def PlainName (name : String) : Prop :=
  (name ≠ "" ∧ name.toList.length ≤ 64) ∧ auditFieldIsSensitive name = false

instance (name : String) : Decidable (PlainName name) :=
  inferInstanceAs (Decidable (_ ∧ _))

/-- The names of all entries of a retention audit. -/
def retentionNames : List String :=
  ["event_eligible_count", "audit_eligible_count", "event_deleted_count", "audit_deleted_count",
    "event_remaining_count", "audit_remaining_count", "event_cutoff", "audit_cutoff",
    "event_retention_days", "admin_audit_retention_days", "batch_size"]

theorem retentionNames_plain : ∀ name ∈ retentionNames, PlainName name := by decide +kernel

theorem retentionNames_nodup : retentionNames.Nodup := by decide

/-- Integer entries with plain names pass the summary validator. -/
theorem validateSummaryEntries_integers (fieldName : String) {summary : AuditSummary}
    (integers : ∀ entry ∈ summary, ∃ value, entry.2 = .integer value)
    (plain : ∀ entry ∈ summary, PlainName entry.1) :
    validateSummaryEntries fieldName summary = .ok () := by
  induction summary with
  | nil => rfl
  | cons entry rest inductionHypothesis =>
      obtain ⟨name, value⟩ := entry
      obtain ⟨number, rfl⟩ : ∃ number, value = .integer number := integers _ List.mem_cons_self
      obtain ⟨bounded, harmless⟩ := plain _ List.mem_cons_self
      have later := inductionHypothesis
        (fun entry member => integers entry (List.mem_cons_of_mem _ member))
        (fun entry member => plain entry (List.mem_cons_of_mem _ member))
      simp only [validateSummaryEntries, validateSummaryValue, bind_ok_iff, require_ok_iff]
      exact ⟨(), bounded, (), harmless, (), trivial, later⟩

theorem validateAuditSummary_integers (fieldName : String) {summary : AuditSummary}
    (integers : ∀ entry ∈ summary, ∃ value, entry.2 = .integer value)
    (named : ∀ entry ∈ summary, entry.1 ∈ retentionNames)
    (short : summary.length ≤ auditMaxFields) :
    ∃ sorted : AuditSummary, validateAuditSummary fieldName summary = .ok sorted ∧
      ∀ entry ∈ sorted, entry.1 ∈ retentionNames := by
  refine ⟨summary.insertionSort fun left right => left.1 ≤ right.1, ?_, ?_⟩
  · simp only [validateAuditSummary, bind_ok_iff, require_ok_iff]
    exact ⟨(), short, (), validateSummaryEntries_integers fieldName integers
      (fun entry member => retentionNames_plain _ (named entry member)), rfl⟩
  · intro entry member
    exact named entry ((List.mem_insertionSort _).mp member)

/-- An administrator, as the claims of a session name one. -/
structure AdminActor where
  id : String
  bounds : id ≠ "" ∧ id.toList.length ≤ 128

/-- The audit row of a purge passes its validators, its insert hook and the checks. -/
theorem retentionAudit_accepted {service : RetentionService} (actor : AdminActor)
    (eventCount auditCount : Nat) {result : RetentionPurgeResult}
    (uuid : result.auditId.toList.length = 36) :
    ∃ row, (retentionAudit service actor.id eventCount auditCount result).construct = .ok row ∧
      row.checkInsert = .ok () ∧ row.id = result.auditId ∧
      row.createdAt = result.completedAt := by
  obtain ⟨before, beforeValid, beforeNamed⟩ := @validateAuditSummary_integers "before_summary"
    (beforeSummary eventCount auditCount)
    (by simp [beforeSummary]) (by simp [beforeSummary, retentionNames])
    (by simp [beforeSummary, auditMaxFields])
  obtain ⟨after, afterValid, afterNamed⟩ := @validateAuditSummary_integers "after_summary"
    (afterSummary service result)
    (by simp [afterSummary]) (by simp [afterSummary, retentionNames])
    (by simp [afterSummary, auditMaxFields])
  have fields : validateStringSet "changed_fields" retentionNames none auditMaxFields 64 =
      .ok (retentionNames.insertionSort (· ≤ ·)) := by
    simp only [validateStringSet, bind_ok_iff, require_ok_iff]
    refine ⟨(), by decide, (), fun name member => (retentionNames_plain name member).1, (),
      retentionNames_nodup, (), ?_, rfl⟩
    intro names impossible
    cases impossible
  have nonempty : result.auditId ≠ "" := by
    intro empty
    rw [empty] at uuid
    cases uuid
  refine ⟨{ retentionAudit service actor.id eventCount auditCount result with
    changedFields := retentionNames.insertionSort (· ≤ ·), beforeSummary := before,
    afterSummary := after }, ?_, ?_, rfl, rfl⟩
  · simp only [ApiClientAdminAudit.construct, bind_ok_iff, require_ok_iff]
    have target : "retention" ∈ ApiClientAdminAudit.targetTypes := by decide
    have action : "retention.purged" ≠ "" ∧ "retention.purged".toList.length ≤ 64 := by decide
    refine ⟨(), target, (), action, _, fields, (), ?_, before, beforeValid, after, afterValid, rfl⟩
    intro name member
    exact (retentionNames_plain name ((List.mem_insertionSort _).mp member)).2
  · simp only [ApiClientAdminAudit.checkInsert, bind_ok_iff, require_ok_iff]
    refine ⟨(), ?_, (), actor.bounds, ?_⟩
    · intro entry member
      refine (List.mem_insertionSort _).mpr ?_
      rcases List.mem_append.mp member with inBefore | inAfter
      · exact beforeNamed entry inBefore
      · exact afterNamed entry inAfter
    · intro target named
      obtain rfl : result.auditId = target := Option.mem_some_iff.mp named
      exact ⟨nonempty, by omega⟩

end Zangpu.Services.Retention
