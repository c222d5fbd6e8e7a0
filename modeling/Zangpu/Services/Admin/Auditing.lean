import Zangpu.Services.Admin.Rotation

/-!
The audit log as a replay of the callers.

Owns: the fold of a caller's audit summaries, what each of the five transactions
does to the client rows and to the audit log, and the agreement of the fold with
the stored policy, status and version in every serial history.

Does not own: the retention purge, and the read side of the log.
-/

set_option autoImplicit false

namespace Zangpu.Services.Admin

open Zangpu.Foundation
open Zangpu.Models
open Zangpu.Integrations.Bifrost

/-! ## Replaying summaries -/

def statusText : ClientStatus → String
  | .active => "active"
  | .disabled => "disabled"
  | .archived => "archived"

/-- The twelve policy columns. Only their names and readers matter here. -/
def policyColumns : List CallerField :=
  [.name "", .description none, .allowedEndpoints [], .allowedModels [], .groupIds [],
    .qpsLimit 0, .concurrencyLimit 0, .dailyRequestLimit none, .dailyTokenLimit none,
    .totalRequestLimit none, .totalTokenLimit none, .maxOutputTokensPerRequest 0]

/-- The policy fields and the status of a client, as audits record them. -/
def tracked (client : ApiClient) : AuditSummary :=
  policyColumns.map (fun field => (field.fieldName, field.read client)) ++
    [("status", .text (statusText client.status))]

def trackedNames : List String := policyColumns.map CallerField.fieldName ++ ["status"]

theorem tracked_names (client : ApiClient) : (tracked client).map Prod.fst = trackedNames := rfl

/-- The actions whose summaries the fold takes up. -/
def isReplayed (action : String) : Bool :=
  action = "caller.created" || action = "caller.updated" || action = "caller.disabled"

/-- `caller.*` and `credential.*`. -/
def isCounted (action : String) : Bool :=
  decide ("caller.".toList <+: action.toList) || decide ("credential.".toList <+: action.toList)

/-- The values left by the summaries of some rows, the later ones winning. -/
def replaySummaries (rows : List ApiClientAdminAudit) (name : String) : Option AuditValue :=
  (rows.filter fun row => isReplayed row.action).foldl
    (fun latest row => (row.afterSummary.lookup name).or latest) none

theorem replaySummaries_append (rows : List ApiClientAdminAudit) (row : ApiClientAdminAudit)
    (name : String) :
    replaySummaries (rows ++ [row]) name =
      if isReplayed row.action then (row.afterSummary.lookup name).or (replaySummaries rows name)
      else replaySummaries rows name := by
  unfold replaySummaries
  rw [List.filter_append, List.foldl_append, List.filter_singleton]
  cases isReplayed row.action <;> rfl

/-! ## Lookup in a summary -/

theorem lookup_of_mem {summary : AuditSummary} (distinct : (summary.map Prod.fst).Nodup)
    {name : String} {value : AuditValue} (member : (name, value) ∈ summary) :
    summary.lookup name = some value := by
  induction summary with
  | nil => cases member
  | cons head rest inductionHypothesis =>
      rw [List.map_cons, List.nodup_cons] at distinct
      rw [List.lookup_cons]
      rcases List.mem_cons.mp member with rfl | later
      · simp
      · have other : (name == head.1) = false := by
          rw [beq_eq_false_iff_ne]
          rintro rfl
          exact distinct.1 (List.mem_map.mpr ⟨_, later, rfl⟩)
        rw [other]
        exact inductionHypothesis distinct.2 later

theorem lookup_eq_none {summary : AuditSummary} {name : String}
    (absent : name ∉ summary.map Prod.fst) : summary.lookup name = none := by
  induction summary with
  | nil => rfl
  | cons head rest inductionHypothesis =>
      rw [List.map_cons, List.mem_cons, not_or] at absent
      rw [List.lookup_cons, beq_eq_false_iff_ne.mpr absent.1]
      exact inductionHypothesis absent.2

theorem lookup_perm {left right : AuditSummary} (same : left.Perm right)
    (distinct : (right.map Prod.fst).Nodup) (name : String) :
    left.lookup name = right.lookup name := by
  have names := same.map Prod.fst
  by_cases present : name ∈ right.map Prod.fst
  · obtain ⟨entry, member, rfl⟩ := List.mem_map.mp present
    rw [lookup_of_mem distinct member,
      lookup_of_mem (names.nodup_iff.mpr distinct) (same.mem_iff.mpr member)]
  · rw [lookup_eq_none present, lookup_eq_none fun other => present (names.mem_iff.mp other)]

/-! ## Audit rows -/

/-- What a row of `_write_audit` holds: both summaries, reordered. -/
structure Records (row : ApiClientAdminAudit) (clientId action : String)
    (before after : AuditSummary) : Prop where
  owner : row.apiClientId = some clientId
  action : row.action = action
  before : row.beforeSummary.Perm before
  after : row.afterSummary.Perm after

theorem writeAudit_ok {actorId clientId targetType action : String} {changedFields : List String}
    {before after : AuditSummary} {targetId : Option String} {auditId : String} {now : Int}
    {row : ApiClientAdminAudit}
    (written : writeAudit actorId clientId targetType action changedFields before after targetId
      auditId now = .ok row) :
    Records row clientId action before after ∧ changedFields.Nodup := by
  simp only [writeAudit, ApiClientAdminAudit.construct, validateAuditSummary, validateStringSet,
    bind_ok_iff, require_ok_iff, exists_const, pure, Except.pure, Except.ok.injEq] at written
  obtain ⟨_, _, _, ⟨_, _, distinct, _, rfl⟩, _, _, ⟨_, _, _, rfl⟩, _, ⟨_, _, _, rfl⟩, rfl⟩ := written
  exact ⟨⟨rfl, rfl, List.perm_insertionSort _ _, List.perm_insertionSort _ _⟩, distinct⟩

/-! ## Flushes -/

def auditsOf : AddedRow → List ApiClientAdminAudit
  | .audit row => [row]
  | _ => []

def clientsOf : AddedRow → List ApiClient
  | .client row => [row]
  | _ => []

theorem insert_audits {database after : AdminDatabase} {row : AddedRow}
    (inserted : database.insert row = .ok after) :
    after.audits = database.audits ++ auditsOf row ∧
      (clientsOf row = [] → after.callers.clients = database.callers.clients) := by
  cases row with
  | client row =>
      simp only [AdminDatabase.insert, bind_ok_iff, pure, Except.pure, Except.ok.injEq] at inserted
      obtain ⟨_, _, _, _, rfl⟩ := inserted
      exact ⟨(List.append_nil _).symm, fun impossible => by cases impossible⟩
  | credential row =>
      simp only [AdminDatabase.insert, bind_ok_iff, pure, Except.pure, Except.ok.injEq] at inserted
      obtain ⟨_, _, rfl⟩ := inserted
      exact ⟨(List.append_nil _).symm, fun _ => rfl⟩
  | binding row =>
      simp only [AdminDatabase.insert, bind_ok_iff, pure, Except.pure, Except.ok.injEq] at inserted
      obtain ⟨_, _, rfl⟩ := inserted
      exact ⟨(List.append_nil _).symm, fun _ => rfl⟩
  | outbox row =>
      simp only [AdminDatabase.insert, bind_ok_iff, pure, Except.pure, Except.ok.injEq] at inserted
      obtain ⟨_, _, _, _, rfl⟩ := inserted
      exact ⟨(List.append_nil _).symm, fun _ => rfl⟩
  | audit row =>
      simp only [AdminDatabase.insert, bind_ok_iff, pure, Except.pure, Except.ok.injEq] at inserted
      obtain ⟨_, _, _, _, _, _, rfl⟩ := inserted
      exact ⟨rfl, fun _ => rfl⟩

theorem insertAll_audits {added : List AddedRow} {database after : AdminDatabase}
    (inserted : added.foldlM AdminDatabase.insert database = .ok after) :
    after.audits = database.audits ++ added.flatMap auditsOf ∧
      (added.flatMap clientsOf = [] → after.callers.clients = database.callers.clients) := by
  induction added generalizing database with
  | nil =>
      cases inserted
      exact ⟨(List.append_nil _).symm, fun _ => rfl⟩
  | cons row rest inductionHypothesis =>
      rw [List.foldlM_cons, bind_ok_iff] at inserted
      obtain ⟨middle, first, others⟩ := inserted
      obtain ⟨firstAudits, firstClients⟩ := insert_audits first
      obtain ⟨restAudits, restClients⟩ := inductionHypothesis others
      refine ⟨?_, ?_⟩
      · rw [restAudits, firstAudits, List.flatMap_cons, List.append_assoc]
      · intro none
        rw [List.flatMap_cons, List.append_eq_nil_iff] at none
        rw [restClients none.2, firstClients none.1]

/-- A flush writes the added audit rows, and no client row unless one was added. -/
theorem flush_audits {session flushed : Session} (done : session.flush = .ok flushed) :
    flushed.database.audits = session.database.audits ++ session.added.flatMap auditsOf ∧
      (session.added.flatMap clientsOf = [] →
        flushed.database.callers.clients = session.database.callers.clients) := by
  simp only [Session.flush, bind_ok_iff, pure, Except.pure, Except.ok.injEq] at done
  obtain ⟨_, inserted, rfl⟩ := done
  exact insertAll_audits inserted

/-- The flush that closes a transaction writes its audit row and no client row. -/
theorem flush_closing {session closed : Session} (pending : List AddedRow)
    (audit : ApiClientAdminAudit) (added : session.added = pending ++ [.audit audit])
    (noClients : pending.flatMap clientsOf = []) (noAudits : pending.flatMap auditsOf = [])
    (done : session.flush = .ok closed) :
    closed.database.callers.clients = session.database.callers.clients ∧
      closed.database.audits = session.database.audits ++ [audit] := by
  obtain ⟨written, kept⟩ := flush_audits done
  rw [added, List.flatMap_append, noAudits] at written
  rw [added, List.flatMap_append, noClients] at kept
  exact ⟨kept rfl, written⟩

theorem changeClient_clients {session changed : Session} {clientId : String}
    {change : ApiClient → ApiClient} {keeps : ∀ client, (change client).id = client.id}
    {client : ApiClient} (found : session.database.callers.clients.find? clientId = some client)
    (done : session.changeClient clientId change keeps = .ok changed) :
    changed.database.callers.clients =
        session.database.callers.clients.modify clientId change keeps ∧
      changed.database.audits = session.database.audits := by
  simp only [Session.changeClient, Table.find?_modify_same found, bind_ok_iff, pure, Except.pure,
    Except.ok.injEq] at done
  obtain ⟨_, _, rfl⟩ := done
  exact ⟨rfl, rfl⟩

theorem changeActive_database (change : ApiClientCredential → ApiClientCredential)
    (keeps : ∀ credential, (change credential).id = credential.id)
    (loaded : List ApiClientCredential) (session : Session) :
    (changeActive change keeps loaded session).database.callers.clients =
        session.database.callers.clients ∧
      (changeActive change keeps loaded session).database.audits = session.database.audits := by
  induction loaded generalizing session with
  | nil => exact ⟨rfl, rfl⟩
  | cons credential rest inductionHypothesis =>
      obtain ⟨clients, audits⟩ := inductionHypothesis
        (if credential.status = .active then session.changeCredential credential.id change keeps
          else session)
      rw [changeActive, clients, audits]
      split <;> exact ⟨rfl, rfl⟩

/-- `_detail` writes nothing: the flush of its lazy load finds nothing added. -/
theorem detail_ok {session closed : Session} {client : ApiClient} {found : AdminCallerDetail}
    (nothingAdded : session.added = [])
    (loaded : detail session client = .ok (closed, found)) :
    closed.database.callers.clients = session.database.callers.clients ∧
      closed.database.audits = session.database.audits := by
  simp only [detail, bind_ok_iff, fromModel_ok_iff, pure, Except.pure, Except.ok.injEq,
    Prod.mk.injEq] at loaded
  obtain ⟨⟨flushed, credentials⟩, loads, rfl, _⟩ := loaded
  obtain ⟨flush, _⟩ := clientCredentials_ok loads
  obtain ⟨audits, clients⟩ := flush_audits flush
  rw [nothingAdded] at audits clients
  exact ⟨clients rfl, audits.trans (List.append_nil _)⟩

/-! ## Columns -/

/-- What an update leaves in a column. -/
theorem read_write (column field : CallerField) (client : ApiClient) :
    column.read (field.write client) =
      if column.fieldName = field.fieldName then field.assigned else column.read client := by
  cases column <;> cases field <;> rfl

theorem read_foldl {fields : List CallerField}
    (distinct : (fields.map CallerField.fieldName).Nodup) (column : CallerField)
    (client : ApiClient) :
    column.read (fields.foldl CallerField.write client) =
      ((fields.map fun field => (field.fieldName, field.assigned)).lookup
        column.fieldName).getD (column.read client) := by
  induction fields generalizing client with
  | nil => rfl
  | cons field rest inductionHypothesis =>
      rw [List.map_cons, List.nodup_cons] at distinct
      rw [List.foldl_cons, inductionHypothesis distinct.2, read_write, List.map_cons,
        List.lookup_cons]
      by_cases same : column.fieldName = field.fieldName
      · have absent : (rest.map fun other => (other.fieldName, other.assigned)).lookup
            column.fieldName = none := by
          apply lookup_eq_none
          rw [List.map_map, same]
          exact distinct.1
        rw [absent, if_pos same, same]
        simp
      · rw [if_neg same, beq_eq_false_iff_ne.mpr same]

theorem trackedNames_nodup : trackedNames.Nodup := by decide

theorem tracked_column (client : ApiClient) (column : CallerField) :
    (tracked client).lookup column.fieldName = some (column.read client) := by
  apply lookup_of_mem (tracked_names client ▸ trackedNames_nodup)
  cases column <;> simp [tracked, policyColumns, CallerField.fieldName, CallerField.read]

theorem tracked_status (client : ApiClient) :
    (tracked client).lookup "status" = some (.text (statusText client.status)) := by
  apply lookup_of_mem (tracked_names client ▸ trackedNames_nodup)
  exact List.mem_append_right _ (List.mem_singleton_self _)

theorem fieldName_ne_status (field : CallerField) : field.fieldName ≠ "status" := by
  cases field <;> simp [CallerField.fieldName]

/-- Clients that agree on every column and the status are tracked alike. -/
theorem tracked_congr {left right : ApiClient}
    (columns : ∀ column : CallerField, column.read left = column.read right)
    (status : left.status = right.status) : tracked left = tracked right := by
  unfold tracked
  rw [status]
  congr 1
  exact List.map_congr_left fun column _ => by rw [columns]

theorem mem_trackedNames {name : String} (tracks : name ∈ trackedNames) :
    (∃ column : CallerField, column.fieldName = name) ∨ name = "status" := by
  rcases List.mem_append.mp tracks with column | status
  · obtain ⟨column, _, named⟩ := List.mem_map.mp column
    exact Or.inl ⟨column, named⟩
  · exact Or.inr (List.mem_singleton.mp status)

/-! ## Effects -/

/-- How an audit row tells the change of a client. -/
structure Explained (client changed : ApiClient) (row : ApiClientAdminAudit) : Prop where
  version : changed.version = client.version + 1
  counted : isCounted row.action = true
  silent : isReplayed row.action = false → tracked changed = tracked client
  told : isReplayed row.action = true → ∀ name ∈ trackedNames,
    (tracked changed).lookup name = (row.afterSummary.lookup name).or ((tracked client).lookup name)
  found : isReplayed row.action = true → ∀ entry ∈ row.beforeSummary, entry.1 ∈ trackedNames →
    (tracked client).lookup entry.1 = some entry.2

/-- How an audit row tells a new client. -/
structure Introduced (client : ApiClient) (row : ApiClientAdminAudit) : Prop where
  version : client.version = 1
  counted : isCounted row.action = true
  replayed : isReplayed row.action = true
  told : ∀ name ∈ trackedNames, (tracked client).lookup name = row.afterSummary.lookup name
  found : row.beforeSummary = []

/-- What a transaction does to the client rows and to the audit log. -/
inductive Effect (before after : AdminDatabase) : Prop where
  | nothing (clients : after.callers.clients = before.callers.clients)
      (audits : after.audits = before.audits)
  | created (client : ApiClient) (row : ApiClientAdminAudit)
      (absent : before.callers.clients.find? client.id = none)
      (clients : after.callers.clients = before.callers.clients.insertNew client)
      (audits : after.audits = before.audits ++ [row]) (owner : row.apiClientId = some client.id)
      (constructed : ∃ given : ApiClientAdminAudit, given.construct = .ok row)
      (introduced : Introduced client row)
  | changed (client : ApiClient) (change : ApiClient → ApiClient)
      (keeps : ∀ client, (change client).id = client.id) (row : ApiClientAdminAudit)
      (present : before.callers.clients.find? client.id = some client)
      (clients : after.callers.clients = before.callers.clients.modify client.id change keeps)
      (audits : after.audits = before.audits ++ [row]) (owner : row.apiClientId = some client.id)
      (constructed : ∃ given : ApiClientAdminAudit, given.construct = .ok row)
      (explained : Explained client (change client) row)

/-- The new version of a client is the only change of a silent row. -/
theorem explained_touch {client : ApiClient} {row : ApiClientAdminAudit} {actorId action : String}
    {now : Int} {before after : AuditSummary} (records : Records row client.id action before after)
    (counted : isCounted action = true) (silent : isReplayed action = false) :
    Explained client (touchClient actorId now client) row := by
  rw [← records.action] at counted silent
  refine ⟨rfl, counted, fun _ => ?_, ?_, ?_⟩
  · exact tracked_congr (fun column => by cases column <;> rfl) rfl
  · intro replayed
    rw [silent] at replayed
    cases replayed
  · intro replayed
    rw [silent] at replayed
    cases replayed

theorem read_touchClient (column : CallerField) (actorId : String) (now : Int)
    (client : ApiClient) : column.read (touchClient actorId now client) = column.read client := by
  cases column <;> rfl

theorem read_disableClient (column : CallerField) (actorId : String) (now : Int)
    (client : ApiClient) : column.read (disableClient actorId now client) = column.read client := by
  cases column <;> rfl

theorem explained_patch {client : ApiClient} {row : ApiClientAdminAudit} {actorId : String}
    {now : Int} {fields : List CallerField}
    (records : Records row client.id "caller.updated"
      (fields.map fun field => (field.fieldName, field.read client))
      (fields.map fun field => (field.fieldName, field.assigned)))
    (distinct : (fields.map CallerField.fieldName).Nodup) :
    Explained client (patchClient actorId now fields client) row := by
  have fixed := fixedColumns_foldl fields client
  simp only [fixedColumns, Prod.mk.injEq] at fixed
  obtain ⟨_, sameStatus, sameVersion, _⟩ := fixed
  have assigned : ((fields.map fun field => (field.fieldName, field.assigned)).map
      Prod.fst).Nodup := by
    rwa [List.map_map]
  refine ⟨?_, by rw [records.action]; decide, ?_, ?_, ?_⟩
  · exact congrArg (· + 1) sameVersion
  · intro silent
    rw [records.action] at silent
    cases silent
  · intro _ name tracks
    rw [lookup_perm records.after assigned]
    rcases mem_trackedNames tracks with ⟨column, rfl⟩ | rfl
    · rw [tracked_column, tracked_column, patchClient, read_touchClient, read_foldl distinct]
      cases (fields.map fun field => (field.fieldName, field.assigned)).lookup column.fieldName <;>
        rfl
    · have absent : (fields.map fun field => (field.fieldName, field.assigned)).lookup "status" =
          none := by
        apply lookup_eq_none
        rw [List.map_map]
        intro member
        obtain ⟨field, _, named⟩ := List.mem_map.mp member
        exact fieldName_ne_status field named
      rw [absent, tracked_status, tracked_status]
      exact congrArg (fun status => some (AuditValue.text (statusText status))) sameStatus
  · intro _ entry member _
    obtain ⟨field, _, rfl⟩ := List.mem_map.mp (records.before.mem_iff.mp member)
    exact tracked_column client field

theorem explained_disable {client : ApiClient} {row : ApiClientAdminAudit} {actorId : String}
    {now : Int} (active : client.status = .active)
    (records : Records row client.id "caller.disabled"
      [("status", .text "active"), ("credentials", .text "active")]
      [("status", .text "disabled"), ("credentials", .text "revoked")]) :
    Explained client (disableClient actorId now client) row := by
  refine ⟨rfl, by rw [records.action]; decide, ?_, ?_, ?_⟩
  · intro silent
    rw [records.action] at silent
    cases silent
  · intro _ name tracks
    rw [lookup_perm records.after (by decide)]
    rcases mem_trackedNames tracks with ⟨column, rfl⟩ | rfl
    · have absent : ([("status", AuditValue.text "disabled"),
          ("credentials", .text "revoked")] : AuditSummary).lookup column.fieldName = none := by
        apply lookup_eq_none
        cases column <;> simp [CallerField.fieldName]
      rw [absent, tracked_column, tracked_column, read_disableClient]
      rfl
    · rw [tracked_status]
      rfl
  · intro _ entry member tracks
    rcases List.mem_cons.mp (records.before.mem_iff.mp member) with rfl | other
    · rw [tracked_status, active]
      rfl
    · rw [List.mem_singleton.mp other] at tracks
      exact absurd tracks (by decide)

/-! ## The five transactions -/

/-- A validated list passes its validator again, unchanged: the request model and
the client column check the same lists. -/
theorem validateStringSet_again {fieldName : String} {values sorted : List String}
    {allowed : Option (List String)} {maxItems maxItemLength : Nat}
    (valid : validateStringSet fieldName values allowed maxItems maxItemLength = .ok sorted) :
    validateStringSet fieldName sorted allowed maxItems maxItemLength = .ok sorted := by
  simp only [validateStringSet, bind_ok_iff, require_ok_iff, exists_const, pure, Except.pure,
    Except.ok.injEq] at valid ⊢
  obtain ⟨bounded, items, distinct, known, rfl⟩ := valid
  have same := List.perm_insertionSort (· ≤ ·) values
  refine ⟨?_, ?_, ?_, ?_, (List.pairwise_insertionSort _ _).insertionSort_eq⟩
  · rwa [same.length_eq]
  · exact fun value member => items value (same.mem_iff.mp member)
  · exact same.nodup_iff.mpr distinct
  · exact fun names given value member => known names given value (same.mem_iff.mp member)

theorem validateStringSet_sorted {fieldName : String} {values sorted : List String}
    {allowed : Option (List String)} {maxItems maxItemLength : Nat}
    (valid : validateStringSet fieldName values allowed maxItems maxItemLength = .ok sorted) :
    sorted.insertionSort (· ≤ ·) = sorted := by
  have again := validateStringSet_again valid
  simp only [validateStringSet, bind_ok_iff, pure, Except.pure, Except.ok.injEq] at again
  obtain ⟨_, _, _, _, _, _, _, _, same⟩ := again
  exact same

/-- `ApiClient.validate_sets`, which runs on each assignment to a list column. The
transactions leave it out: it returns every validated field as it is. -/
def CallerField.validateSets : CallerField → Except ModelError CallerField
  | .allowedEndpoints values =>
      return .allowedEndpoints (← validateStringSet "allowed_endpoints" values
        (some endpointPermissions) endpointPermissions.length 255)
  | .allowedModels values =>
      return .allowedModels (← validateStringSet "allowed_models" values none 256 255)
  | .groupIds values => return .groupIds (← validateStringSet "group_ids" values none 256 255)
  | field => return field

theorem checkEndpoints_kept {values kept : List String} (valid : checkEndpoints values = .ok kept) :
    (CallerField.allowedEndpoints kept).validateSets = .ok (.allowedEndpoints kept) := by
  rw [checkEndpoints, fromModel_ok_iff] at valid
  rw [CallerField.validateSets, validateStringSet_again valid]
  rfl

theorem checkStrings_again {field : String} {minimum : Nat} {values kept : List String}
    (valid : checkStrings field minimum values = .ok kept) :
    validateStringSet field kept none 256 255 = .ok kept := by
  simp only [checkStrings, bind_ok_iff, fromModel_ok_iff] at valid
  obtain ⟨_, _, valid⟩ := valid
  exact validateStringSet_again valid

theorem checkModels_kept {minimum : Nat} {values kept : List String}
    (valid : checkStrings "allowed_models" minimum values = .ok kept) :
    (CallerField.allowedModels kept).validateSets = .ok (.allowedModels kept) := by
  rw [CallerField.validateSets, checkStrings_again valid]
  rfl

theorem checkGroups_kept {minimum : Nat} {values kept : List String}
    (valid : checkStrings "group_ids" minimum values = .ok kept) :
    (CallerField.groupIds kept).validateSets = .ok (.groupIds kept) := by
  rw [CallerField.validateSets, checkStrings_again valid]
  rfl

section Kept

variable {α : Type} {check : α → Except AdminError α} {fields : List CallerField}
  {property : CallerField → Prop}

theorem checkRequired_all {name : String} {assign : α → CallerField} {given : Option (Option α)}
    (kept : ∀ value result, check value = .ok result → property (assign result))
    (valid : checkRequired name check assign given = .ok fields) :
    ∀ field ∈ fields, property field := by
  match given with
  | none =>
      cases valid
      exact List.forall_mem_nil _
  | some none => cases valid
  | some (some value) =>
      simp only [checkRequired, bind_ok_iff, pure, Except.pure, Except.ok.injEq] at valid
      obtain ⟨result, checked, rfl⟩ := valid
      intro field member
      rw [List.mem_singleton.mp member]
      exact kept value result checked

theorem checkNullable_all {assign : Option α → CallerField} {given : Option (Option α)}
    (kept : ∀ value, property (assign value))
    (valid : checkNullable check assign given = .ok fields) : ∀ field ∈ fields, property field := by
  match given with
  | none =>
      cases valid
      exact List.forall_mem_nil _
  | some value =>
      simp only [checkNullable, bind_ok_iff, pure, Except.pure, Except.ok.injEq] at valid
      obtain ⟨result, _, rfl⟩ := valid
      intro field member
      rw [List.mem_singleton.mp member]
      exact kept result

end Kept

/-- The column validator returns every field of a validated update as it is. -/
theorem AdminCallerPatch.validate_kept {patch : AdminCallerPatch} {expectedVersion : Int}
    {fields : List CallerField} (valid : patch.validate expectedVersion = .ok fields) :
    ∀ field ∈ fields, field.validateSets = .ok field := by
  simp only [AdminCallerPatch.validate, bind_ok_iff, pure, Except.pure, Except.ok.injEq] at valid
  obtain ⟨_, _, _, name, _, description, _, endpoints, _, models, _, groups, _, qps, _,
    concurrency, _, dailyRequests, _, dailyTokens, _, totalRequests, _, totalTokens, _, output,
    rfl⟩ := valid
  simp only [List.forall_mem_append]
  refine ⟨⟨⟨⟨⟨⟨⟨⟨⟨⟨⟨?_, ?_⟩, ?_⟩, ?_⟩, ?_⟩, ?_⟩, ?_⟩, ?_⟩, ?_⟩, ?_⟩, ?_⟩, ?_⟩
  · exact checkRequired_all (fun _ _ _ => rfl) name
  · exact checkNullable_all (fun _ => rfl) description
  · exact checkRequired_all (fun _ _ => checkEndpoints_kept) endpoints
  · exact checkRequired_all (fun _ _ => checkModels_kept) models
  · exact checkRequired_all (fun _ _ => checkGroups_kept) groups
  · exact checkRequired_all (fun _ _ _ => rfl) qps
  · exact checkRequired_all (fun _ _ _ => rfl) concurrency
  · exact checkNullable_all (fun _ => rfl) dailyRequests
  · exact checkNullable_all (fun _ => rfl) dailyTokens
  · exact checkNullable_all (fun _ => rfl) totalRequests
  · exact checkNullable_all (fun _ => rfl) totalTokens
  · exact checkRequired_all (fun _ _ _ => rfl) output

/-- The lists of a create request came out of the three list checks. -/
theorem AdminCallerCreateRequest.checked (request : AdminCallerCreateRequest) :
    (∃ values, checkEndpoints values = .ok request.fields.allowedEndpoints) ∧
      (∃ values, checkStrings "allowed_models" 1 values = .ok request.fields.allowedModels) ∧
      ∃ values, checkStrings "group_ids" 0 values = .ok request.fields.groupIds := by
  obtain ⟨submitted, valid⟩ := request.validated
  simp only [AdminCallerCreateFields.validate, bind_ok_iff, pure, Except.pure,
    Except.ok.injEq] at valid
  obtain ⟨_, _, _, _, _, _, _, _, _, _, endpoints, endpointsValid, models, modelsValid, groups,
    groupsValid, rest⟩ := valid
  obtain ⟨_, _, _, _, _, _, _, _, _, _, _, _, _, _, _, _, same⟩ := rest
  rw [← same]
  exact ⟨⟨_, endpointsValid⟩, ⟨_, modelsValid⟩, ⟨_, groupsValid⟩⟩

/-- The validated lists of a create request are sorted. -/
theorem AdminCallerCreateRequest.sorted (request : AdminCallerCreateRequest) :
    request.fields.allowedEndpoints.insertionSort (· ≤ ·) = request.fields.allowedEndpoints ∧
      request.fields.allowedModels.insertionSort (· ≤ ·) = request.fields.allowedModels ∧
      request.fields.groupIds.insertionSort (· ≤ ·) = request.fields.groupIds := by
  obtain ⟨⟨_, endpoints⟩, ⟨_, models⟩, ⟨_, groups⟩⟩ := request.checked
  rw [checkEndpoints, fromModel_ok_iff] at endpoints
  exact ⟨validateStringSet_sorted endpoints, validateStringSet_sorted (checkStrings_again models),
    validateStringSet_sorted (checkStrings_again groups)⟩

/-- The column validator returns every field of a new client as it is. -/
theorem AdminCallerCreateRequest.kept (request : AdminCallerCreateRequest) {actorId : String}
    {draw : AdminDraw} :
    ∀ field ∈ createdFields (createdClient request.fields actorId draw),
      field.validateSets = .ok field := by
  obtain ⟨endpointsSorted, modelsSorted, groupsSorted⟩ := request.sorted
  obtain ⟨⟨_, endpoints⟩, ⟨_, models⟩, ⟨_, groups⟩⟩ := request.checked
  simp only [createdFields, createdClient, endpointsSorted, modelsSorted, groupsSorted,
    List.forall_mem_cons]
  exact ⟨rfl, rfl, checkEndpoints_kept endpoints, checkModels_kept models, checkGroups_kept groups,
    rfl, rfl, rfl, rfl, rfl, rfl, rfl, List.forall_mem_nil _⟩

theorem flush_client {database : AdminDatabase} {client : ApiClient} {flushed : Session}
    (done : ((Session.begin database).add (.client client)).flush = .ok flushed) :
    database.callers.clients.find? client.id = none ∧
      flushed.database.callers.clients = database.callers.clients.insertNew client ∧
      flushed.database.audits = database.audits ∧ flushed.added = [] := by
  simp only [Session.flush, Session.add, Session.begin, List.nil_append, List.foldlM_cons,
    List.foldlM_nil, AdminDatabase.insert, bind_ok_iff, require_ok_iff, exists_const, pure,
    Except.pure, Except.ok.injEq] at done
  obtain ⟨_, ⟨_, ⟨absent, _, _, rfl⟩, rfl⟩, rfl⟩ := done
  exact ⟨absent, rfl, rfl, rfl⟩

theorem createdFields_tracked {request : AdminCallerCreateRequest} {actorId : String}
    {draw : AdminDraw} :
    (createdFields (createdClient request.fields actorId draw)).map
        (fun field => (field.fieldName, field.assigned)) ++ [("status", .text "active")] =
      tracked (createdClient request.fields actorId draw) := by
  obtain ⟨endpoints, models, groups⟩ := request.sorted
  simp only [createdFields, createdClient, endpoints, models, groups]
  rfl

theorem createCaller_effect {runtime : AdminRuntime} {request : AdminCallerCreateRequest}
    {actorId supplied : String} {draw : AdminDraw} {before after : AdminDatabase}
    {result : AdminCallerCreateResult}
    (created : createCaller runtime request actorId supplied draw before = .ok (after, result)) :
    Effect before after := by
  simp only [createCaller, bind_ok_iff, fromModel_ok_iff, pure, Except.pure, Except.ok.injEq,
    Prod.mk.injEq] at created
  obtain ⟨session, inserted, credential, _, _, _, _, _, ⟨binding, outbox⟩, _, audit, written,
    closed, flushed, rfl, _⟩ := created
  obtain ⟨absent, clients, audits, nothingAdded⟩ := flush_client inserted
  obtain ⟨records, _⟩ := writeAudit_ok written
  obtain ⟨closedClients, closedAudits⟩ := flush_closing
    [.credential credential, .binding binding, .outbox outbox] audit
    (by simp [Session.add, nothingAdded]) rfl rfl flushed
  rw [createdFields_tracked] at records
  refine .created (createdClient request.fields actorId draw) audit absent
    (closedClients.trans clients) (closedAudits.trans (congrArg (· ++ [audit]) audits))
    records.owner ⟨_, written⟩ ?_
  refine ⟨rfl, by rw [records.action]; decide, by rw [records.action]; decide, ?_, ?_⟩
  · intro name _
    exact (lookup_perm records.after
      (tracked_names (createdClient request.fields actorId draw) ▸ trackedNames_nodup) name).symm
  · exact List.perm_nil.mp records.before

theorem disableCaller_effect {runtime : AdminRuntime} {clientId actorId supplied : String}
    {draw : AdminDraw} {before after : AdminDatabase} {found : AdminCallerDetail}
    (disabled : disableCaller runtime clientId actorId supplied draw before =
      .ok (after, found)) : Effect before after := by
  simp only [disableCaller, Session.begin] at disabled
  split at disabled
  · cases disabled
  · next client stored =>
      have sameId : client.id = clientId := Table.key_of_find? stored
      subst sameId
      split at disabled
      · simp only [bind_ok_iff, pure, Except.pure, Except.ok.injEq, Prod.mk.injEq] at disabled
        obtain ⟨⟨closed, _⟩, loaded, rfl, _⟩ := disabled
        obtain ⟨clients, audits⟩ := detail_ok rfl loaded
        exact .nothing clients audits
      · simp only [bind_ok_iff, require_ok_iff, exists_const] at disabled
        obtain ⟨active, disabled⟩ := disabled
        split at disabled
        · cases disabled
        · simp only [bind_ok_iff, fromModel_ok_iff, pure, Except.pure, Except.ok.injEq,
            Prod.mk.injEq] at disabled
          obtain ⟨_, _, changed, changes, ⟨loaded, credentials⟩, loads, ⟨staged, outbox⟩, _, audit,
            written, closed, flushed, ⟨shown, _⟩, shows, rfl, _⟩ := disabled
          obtain ⟨clients, audits⟩ := changeClient_clients stored changes
          obtain ⟨flush, _⟩ := clientCredentials_ok loads
          obtain ⟨loadAudits, loadClients⟩ := flush_audits flush
          rw [changeClient_added changes] at loadAudits loadClients
          obtain ⟨revokedClients, revokedAudits⟩ := changeActive_database
            (revokeRow actorId draw.now) (revokeRow_id actorId draw.now) credentials loaded
          obtain ⟨closedClients, closedAudits⟩ := flush_closing [.outbox outbox] audit
            (by
              show (changeActive _ _ credentials loaded).added ++ [_] ++ [_] = _
              rw [changeActive_added, flush_added flush]
              rfl)
            rfl rfl flushed
          obtain ⟨shownClients, shownAudits⟩ := detail_ok (flush_added flushed) shows
          obtain ⟨records, _⟩ := writeAudit_ok written
          refine .changed client (disableClient actorId draw.now)
            (disableClient_id actorId draw.now) audit stored ?_ ?_ records.owner ⟨_, written⟩
            (explained_disable active records)
          · rw [shownClients, closedClients]
            exact revokedClients.trans ((loadClients rfl).trans clients)
          · rw [shownAudits, closedAudits]
            exact congrArg (· ++ [audit])
              (revokedAudits.trans ((loadAudits.trans (List.append_nil _)).trans audits))

theorem rotateCredential_effect {runtime : AdminRuntime} {clientId actorId : String}
    {draw : AdminDraw} {before after : AdminDatabase} {issued : ApiClientCredential}
    (rotated : rotateCredential runtime clientId actorId draw before = .ok (after, issued)) :
    Effect before after := by
  simp only [rotateCredential, Session.begin] at rotated
  split at rotated
  · cases rotated
  · next client stored =>
      have sameId : client.id = clientId := Table.key_of_find? stored
      subst sameId
      simp only [bind_ok_iff, require_ok_iff, exists_const, fromModel_ok_iff] at rotated
      obtain ⟨_, fresh, _, ⟨loaded, credentials⟩, loads, touched, touches, audit, written, closed,
        flushed, rotated⟩ := rotated
      split at rotated
      · cases rotated
      · simp only [pure, Except.pure, Except.ok.injEq, Prod.mk.injEq] at rotated
        obtain ⟨rfl, _⟩ := rotated
        obtain ⟨flush, _⟩ := clientCredentials_ok loads
        obtain ⟨loadAudits, loadClients⟩ := flush_audits flush
        obtain ⟨replacedClients, replacedAudits⟩ := changeActive_database
          (replaceRow actorId draw.now fresh.id) (replaceRow_id actorId draw.now fresh.id)
          credentials loaded
        have found : (changeActive (replaceRow actorId draw.now fresh.id)
            (replaceRow_id actorId draw.now fresh.id) credentials
            loaded).database.callers.clients.find? client.id = some client := by
          rw [replacedClients, loadClients rfl]
          exact stored
        obtain ⟨clients, audits⟩ := changeClient_clients found touches
        obtain ⟨closedClients, closedAudits⟩ := flush_closing [] audit
          (by
            show touched.added ++ [_] = _
            rw [changeClient_added touches, changeActive_added, flush_added flush])
          rfl rfl flushed
        obtain ⟨records, _⟩ := writeAudit_ok written
        refine .changed client (touchClient actorId draw.now) (touchClient_id actorId draw.now)
          audit stored ?_ ?_ records.owner ⟨_, written⟩
          (explained_touch records (by decide) (by decide +kernel))
        · refine closedClients.trans (clients.trans ?_)
          rw [replacedClients, loadClients rfl]
          rfl
        · refine closedAudits.trans (congrArg (· ++ [audit]) ?_)
          exact audits.trans (replacedAudits.trans (loadAudits.trans (List.append_nil _)))

theorem revokeCredential_effect {clientId credentialId actorId : String} {draw : AdminDraw}
    {before after : AdminDatabase} {revoked : ApiClientCredential}
    (done : revokeCredential clientId credentialId actorId draw before = .ok (after, revoked)) :
    Effect before after := by
  simp only [revokeCredential, Session.begin] at done
  split at done
  · cases done
  · next client stored =>
      have sameId : client.id = clientId := Table.key_of_find? stored
      subst sameId
      split at done
      · cases done
      · simp only [bind_ok_iff, require_ok_iff, exists_const] at done
        obtain ⟨_, done⟩ := done
        split at done
        · simp only [bind_ok_iff, fromModel_ok_iff, pure, Except.pure, Except.ok.injEq,
            Prod.mk.injEq] at done
          obtain ⟨touched, touches, audit, written, closed, flushed, rfl, _⟩ := done
          obtain ⟨clients, audits⟩ := @changeClient_clients _ _ _ _ _ client stored touches
          obtain ⟨closedClients, closedAudits⟩ := flush_closing [] audit
            (by
              show touched.added ++ [_] = _
              rw [changeClient_added touches]
              rfl)
            rfl rfl flushed
          obtain ⟨records, _⟩ := writeAudit_ok written
          exact .changed client (touchClient actorId draw.now) (touchClient_id actorId draw.now)
            audit stored (closedClients.trans clients)
            (closedAudits.trans (congrArg (· ++ [audit]) audits)) records.owner ⟨_, written⟩
            (explained_touch records (by decide) (by decide +kernel))
        · simp only [pure, Except.pure, Except.ok.injEq, Prod.mk.injEq] at done
          obtain ⟨rfl, _⟩ := done
          exact .nothing rfl rfl

theorem updateCaller_effect {clientId : String} {expectedVersion : Int} {patch : AdminCallerPatch}
    {actorId : String} {draw : AdminDraw} {before after : AdminDatabase}
    {found : AdminCallerDetail}
    (updated : updateCaller clientId expectedVersion patch actorId draw before =
      .ok (after, found)) : Effect before after := by
  simp only [updateCaller, Session.begin, bind_ok_iff] at updated
  obtain ⟨fields, _, updated⟩ := updated
  split at updated
  · cases updated
  · next client stored =>
      have sameId : client.id = clientId := Table.key_of_find? stored
      subst sameId
      simp only [bind_ok_iff, require_ok_iff, exists_const, fromModel_ok_iff, pure, Except.pure,
        Except.ok.injEq, Prod.mk.injEq] at updated
      obtain ⟨_, _, patched, patches, audit, written, closed, flushed, ⟨shown, _⟩, shows, rfl, _⟩ :=
        updated
      obtain ⟨clients, audits⟩ := changeClient_clients stored patches
      obtain ⟨closedClients, closedAudits⟩ := flush_closing [] audit
        (by
          show patched.added ++ [_] = _
          rw [changeClient_added patches])
        rfl rfl flushed
      obtain ⟨shownClients, shownAudits⟩ := detail_ok (flush_added flushed) shows
      obtain ⟨records, distinct⟩ := writeAudit_ok written
      refine .changed client (patchClient actorId draw.now fields)
        (patchClient_id actorId draw.now fields) audit stored ?_ ?_ records.owner ⟨_, written⟩
        (explained_patch records distinct)
      · exact shownClients.trans (closedClients.trans clients)
      · exact shownAudits.trans (closedAudits.trans (congrArg (· ++ [audit]) audits))

/-- Every call has one of the three effects. -/
theorem apply_effect (runtime : AdminRuntime) (database : AdminDatabase) (call : AdminCall) :
    Effect database (call.apply runtime database) := by
  cases call with
  | createCaller request actorId supplied draw =>
      rw [AdminCall.apply]
      cases outcome : Admin.createCaller runtime request actorId supplied draw database with
      | ok result => exact createCaller_effect outcome
      | error _ => exact .nothing rfl rfl
  | rotateCredential clientId actorId draw =>
      rw [AdminCall.apply]
      cases outcome : Admin.rotateCredential runtime clientId actorId draw database with
      | ok result => exact rotateCredential_effect outcome
      | error _ => exact .nothing rfl rfl
  | revokeCredential clientId credentialId actorId draw =>
      rw [AdminCall.apply]
      cases outcome : Admin.revokeCredential clientId credentialId actorId draw database with
      | ok result => exact revokeCredential_effect outcome
      | error _ => exact .nothing rfl rfl
  | updateCaller clientId expectedVersion patch actorId draw =>
      rw [AdminCall.apply]
      cases outcome : Admin.updateCaller clientId expectedVersion patch actorId draw database with
      | ok result => exact updateCaller_effect outcome
      | error _ => exact .nothing rfl rfl
  | disableCaller clientId actorId supplied draw =>
      rw [AdminCall.apply]
      cases outcome : Admin.disableCaller runtime clientId actorId supplied draw database with
      | ok result => exact disableCaller_effect outcome
      | error _ => exact .nothing rfl rfl

/-! ## The replay -/

/-- The audit rows of one caller, in commit order. -/
def AdminDatabase.auditsFor (database : AdminDatabase) (clientId : String) :
    List ApiClientAdminAudit :=
  database.audits.filter fun row => row.apiClientId = some clientId

/-- The rows tell the client: the fold of their summaries is its policy and its
status, each before summary is the fold so far, and the counted rows number its
versions. -/
structure Replays (client : ApiClient) (rows : List ApiClientAdminAudit) : Prop where
  current : ∀ name ∈ trackedNames, replaySummaries rows name = (tracked client).lookup name
  befores : ∀ earlier row later, rows = earlier ++ row :: later → isReplayed row.action = true →
    ∀ entry ∈ row.beforeSummary, entry.1 ∈ trackedNames →
      replaySummaries earlier entry.1 = some entry.2
  version : client.version = (rows.countP fun row => isCounted row.action)

/-- The audit log replays every stored caller. -/
def ReplaysCallers (database : AdminDatabase) : Prop :=
  ∀ client ∈ database.callers.clients.rows, Replays client (database.auditsFor client.id)

/-- The invariant: the log replays every caller, and no row names a caller that is
not stored. -/
structure Audited (database : AdminDatabase) : Prop where
  replays : ReplaysCallers database
  owned : ∀ row ∈ database.audits, ∀ clientId ∈ row.apiClientId,
    (database.callers.clients.find? clientId).isSome

/-- A first row that introduces the client replays it. -/
theorem Introduced.replays {client : ApiClient} {row : ApiClientAdminAudit}
    (introduced : Introduced client row) : Replays client [row] := by
  refine ⟨?_, ?_, ?_⟩
  · intro name tracks
    rw [← List.nil_append [row], replaySummaries_append, introduced.replayed, if_pos rfl,
      introduced.told name tracks]
    exact Option.or_none
  · intro earlier other later split _ entry member _
    obtain ⟨_, rest⟩ : earlier = [] ∧ [row] = other :: later := by
      cases earlier with
      | nil => exact ⟨rfl, split⟩
      | cons head tail => simp at split
    have same : other = row := by
      injection rest with head _
      exact head.symm
    rw [same, introduced.found] at member
    cases member
  · rw [introduced.version, List.countP_singleton, introduced.counted]
    rfl

/-- A row that explains a change carries the replay over to the changed client. -/
theorem Replays.append {client changed : ApiClient} {rows : List ApiClientAdminAudit}
    {row : ApiClientAdminAudit} (replays : Replays client rows)
    (explained : Explained client changed row) : Replays changed (rows ++ [row]) := by
  refine ⟨?_, ?_, ?_⟩
  · intro name tracks
    rw [replaySummaries_append, replays.current name tracks]
    cases replayed : isReplayed row.action with
    | true => exact (explained.told replayed name tracks).symm
    | false => exact (congrArg (List.lookup name) (explained.silent replayed)).symm
  · intro earlier other later split replayed entry member tracks
    rcases List.eq_nil_or_concat later with rfl | ⟨front, last, rfl⟩
    · obtain ⟨sameRows, sameRow⟩ := List.append_inj' split rfl
      injection sameRow with same _
      subst same
      rw [← sameRows, replays.current entry.1 tracks]
      exact explained.found replayed entry member tracks
    · have inside : rows = earlier ++ other :: front := by
        rw [List.concat_eq_append, ← List.cons_append, ← List.append_assoc] at split
        exact (List.append_inj' split rfl).1
      exact replays.befores earlier other front inside replayed entry member tracks
  · rw [explained.version, replays.version, List.countP_append, List.countP_singleton,
      explained.counted]
    push_cast
    rfl

theorem auditsFor_append {before after : AdminDatabase} {row : ApiClientAdminAudit}
    (audits : after.audits = before.audits ++ [row]) (clientId : String) :
    after.auditsFor clientId =
      before.auditsFor clientId ++ if row.apiClientId = some clientId then [row] else [] := by
  rw [AdminDatabase.auditsFor, audits, List.filter_append, List.filter_singleton]
  by_cases own : row.apiClientId = some clientId <;> simp [own, AdminDatabase.auditsFor]

theorem Audited.preserved {before after : AdminDatabase} (audited : Audited before)
    (effect : Effect before after) : Audited after := by
  cases effect with
  | nothing clients audits =>
      have same : ∀ clientId, after.auditsFor clientId = before.auditsFor clientId := by
        intro clientId
        rw [AdminDatabase.auditsFor, audits]
        rfl
      refine ⟨?_, ?_⟩
      · intro client member
        rw [same]
        exact audited.replays client (clients ▸ member)
      · rw [audits, clients]
        exact audited.owned
  | created client row absent clients audits owner _ introduced =>
      refine ⟨?_, ?_⟩
      · intro other member
        rw [auditsFor_append audits, owner]
        rw [clients] at member
        rcases Table.mem_insertNew absent |>.mp member with stored | rfl
        · have different : some client.id ≠ some other.id := by
            intro same
            rw [Option.some.injEq] at same
            rw [same, Table.find?_of_mem stored] at absent
            cases absent
          rw [if_neg different, List.append_nil]
          exact audited.replays other stored
        · have none : before.auditsFor other.id = [] := by
            apply List.filter_eq_nil_iff.mpr
            intro earlier logged own
            have exists_ := audited.owned earlier logged other.id (of_decide_eq_true own)
            rw [absent] at exists_
            cases exists_
          rw [none, if_pos rfl]
          exact introduced.replays
      · intro other logged clientId own
        rw [clients, Table.find?_insertNew absent]
        split
        · rfl
        · next different =>
            rw [audits] at logged
            rcases List.mem_append.mp logged with earlier | last
            · exact audited.owned other earlier clientId own
            · rw [List.mem_singleton.mp last, owner] at own
              exact absurd (Option.some.inj own).symm different
  | changed client change keeps row present clients audits owner _ explained =>
      refine ⟨?_, ?_⟩
      · intro other member
        rw [auditsFor_append audits, owner]
        rw [clients] at member
        obtain ⟨old, stored, rfl⟩ := (Table.mem_modify keeps).mp member
        by_cases same : old.id = client.id
        · have oldClient : old = client :=
            Table.eq_of_key_eq stored (Table.mem_of_find? present) same
          subst oldClient
          rw [if_pos rfl, keeps, if_pos rfl]
          exact (audited.replays old stored).append explained
        · have different : some client.id ≠ some old.id := fun equal =>
            same (Option.some.inj equal).symm
          rw [if_neg same, if_neg different, List.append_nil]
          exact audited.replays old stored
      · intro other logged clientId own
        have kept : (before.callers.clients.find? clientId).isSome := by
          rw [audits] at logged
          rcases List.mem_append.mp logged with earlier | last
          · exact audited.owned other earlier clientId own
          · rw [List.mem_singleton.mp last, owner] at own
            rw [← Option.some.inj own, present]
            rfl
        rw [clients, Table.find?_modify keeps]
        split
        · rwa [Option.isSome_map]
        · exact kept

theorem history_audited (runtime : AdminRuntime) (calls : List AdminCall) :
    Audited (history runtime calls) := by
  induction calls using List.reverseRecOn with
  | nil => exact ⟨List.forall_mem_nil _, List.forall_mem_nil _⟩
  | append_singleton earlier call inductionHypothesis =>
      rw [history, List.foldl_append]
      exact inductionHypothesis.preserved (apply_effect runtime _ call)

/-- The audit log replays the callers: after any serial history of the five
transactions, the created, updated and disabled rows of each caller fold to its
policy and its status, every before summary is the fold of the rows before it, and
the version counts the caller and credential rows. -/
theorem audit_log_replays_callers (runtime : AdminRuntime) (calls : List AdminCall) :
    ReplaysCallers (history runtime calls) :=
  (history_audited runtime calls).replays

end Zangpu.Services.Admin
