import Zangpu.Services.Admin.Auditing

/-!
The request models against the audit model.

Owns: the audit rows that `create_caller` and `update_caller` build; which values an
audit summary can hold; that every stored policy column is such a value; and the exact
condition under which a validated request can be audited.

Does not own: who may send the requests.
-/

set_option autoImplicit false

namespace Zangpu.Services.Admin

open Zangpu.Foundation
open Zangpu.Models
open Zangpu.Integrations.Bifrost

/-! ## The rows -/

/-- The audit row of `create_caller`. -/
def createAudit (fields : AdminCallerCreateFields) (actorId : String) (draw : AdminDraw) :
    Except ModelError ApiClientAdminAudit :=
  let recorded := createdFields (createdClient fields actorId draw)
  writeAudit actorId draw.clientId "client" "caller.created"
    (recorded.map CallerField.fieldName ++ ["status"]) []
    (recorded.map (fun field => (field.fieldName, field.assigned)) ++ [("status", .text "active")])
    none draw.auditId draw.now

/-- The audit row of `update_caller`. -/
def updateAudit (client : ApiClient) (fields : List CallerField) (actorId : String)
    (draw : AdminDraw) : Except ModelError ApiClientAdminAudit :=
  writeAudit actorId client.id "client" "caller.updated" (fields.map CallerField.fieldName)
    (fields.map fun field => (field.fieldName, field.read client))
    (fields.map fun field => (field.fieldName, field.assigned)) none draw.auditId draw.now

/-- The insert hook lets the row pass. -/
def Aligned (row : ApiClientAdminAudit) : Prop :=
  ∀ entry ∈ row.beforeSummary ++ row.afterSummary, entry.1 ∈ row.changedFields

/-- The attribute validators and the insert hook let the row pass. -/
def AuditAccepted (written : Except ModelError ApiClientAdminAudit) : Prop :=
  ∃ row, written = .ok row ∧ Aligned row

/-- The texts with which the audit model refuses a row. -/
def auditRefusals : List String :=
  ["unsupported audit target type", "audit action must be between 1 and 64 characters",
    "audit summary fields must be included in changed_fields"] ++
  ["must be a bounded list", "contains an invalid value", "must not contain duplicates",
    "contains a sensitive field"].map ("changed_fields " ++ ·) ++
  ["before_summary", "after_summary"].flatMap fun summary =>
    ["must be a bounded object", "contains an invalid field name", "contains a sensitive field",
      "contains an oversized value", "contains an oversized list"].map (summary ++ " " ++ ·)

def refusesAudit : ModelError → Prop
  | .valueError message => message ∈ auditRefusals
  | .integrityError _ => False

/-- The operation raises what the audit model raised. -/
def FailsForAudit {α : Type} (outcome : Except AdminError α) : Prop :=
  ∃ error, outcome = .error (.model error) ∧ refusesAudit error

/-- The audit row passes, and the operation does not fail because of it. -/
structure Auditable {α : Type} (written : Except ModelError ApiClientAdminAudit)
    (outcome : Except AdminError α) : Prop where
  accepted : AuditAccepted written
  unrefused : ¬FailsForAudit outcome

/-! ## Summary values -/

/-- The values a summary can hold. -/
def Fits : AuditValue → Prop
  | .null | .integer _ => True
  | .text value => value.toList.length ≤ auditMaxValueLength
  | .texts values => values.length ≤ auditMaxListItems ∧
      ∀ value ∈ values, value.toList.length ≤ auditMaxValueLength

/-- The names a summary can use. -/
def Nameable (name : String) : Prop :=
  name ≠ "" ∧ name.toList.length ≤ 64 ∧ auditFieldIsSensitive name = false

theorem validateSummaryValue_ok_iff (fieldName : String) (value : AuditValue) (result : Unit) :
    validateSummaryValue fieldName value = .ok result ↔ Fits value := by
  cases value with
  | null | integer => simp [validateSummaryValue, Fits]
  | text => simp [validateSummaryValue, Fits]
  | texts =>
      simp only [validateSummaryValue, Fits, bind_ok_iff, require_ok_iff, exists_const]

theorem validateSummaryEntries_ok_iff (fieldName : String) (summary : AuditSummary)
    (result : Unit) :
    validateSummaryEntries fieldName summary = .ok result ↔
      ∀ entry ∈ summary, Nameable entry.1 ∧ Fits entry.2 := by
  induction summary with
  | nil => simp [validateSummaryEntries]
  | cons entry rest inductionHypothesis =>
      rw [validateSummaryEntries]
      simp only [bind_ok_iff, require_ok_iff, exists_const, inductionHypothesis,
        validateSummaryValue_ok_iff, List.forall_mem_cons, Nameable, and_assoc]

theorem validateAuditSummary_ok_iff (fieldName : String) (summary sorted : AuditSummary) :
    validateAuditSummary fieldName summary = .ok sorted ↔
      summary.length ≤ auditMaxFields ∧ (∀ entry ∈ summary, Nameable entry.1 ∧ Fits entry.2) ∧
        summary.insertionSort (fun left right => left.1 ≤ right.1) = sorted := by
  simp only [validateAuditSummary, bind_ok_iff, require_ok_iff, exists_const,
    validateSummaryEntries_ok_iff, pure, Except.pure, Except.ok.injEq]

/-- The summaries of a constructed row hold fitting values. -/
theorem construct_fits {given row : ApiClientAdminAudit} (constructed : given.construct = .ok row) :
    (∀ entry ∈ given.beforeSummary, Fits entry.2) ∧ (∀ entry ∈ given.afterSummary, Fits entry.2) ∧
      ∀ entry ∈ row.afterSummary, Fits entry.2 := by
  simp only [ApiClientAdminAudit.construct, bind_ok_iff, require_ok_iff, exists_const, pure,
    Except.pure, Except.ok.injEq] at constructed
  obtain ⟨_, _, _, _, _, before, beforeValid, after, afterValid, rfl⟩ := constructed
  obtain ⟨_, beforeFits, _⟩ := (validateAuditSummary_ok_iff _ _ _).mp beforeValid
  obtain ⟨_, afterFits, rfl⟩ := (validateAuditSummary_ok_iff _ _ _).mp afterValid
  exact ⟨fun entry member => (beforeFits entry member).2,
    fun entry member => (afterFits entry member).2,
    fun entry member => (afterFits entry ((List.mem_insertionSort _).mp member)).2⟩

/-! ## Acceptance -/

theorem trackedNames_nameable : ∀ name ∈ trackedNames, Nameable name := by
  unfold Nameable
  decide +kernel

/-- A row about tracked fields is accepted exactly when its values fit. -/
theorem writeAudit_accepted_iff {actorId clientId targetType action : String}
    {changedFields : List String} {before after : AuditSummary} {targetId : Option String}
    {auditId : String} {now : Int} (known : targetType ∈ ApiClientAdminAudit.targetTypes)
    (named : action ≠ "" ∧ action.toList.length ≤ 64) (tracks : changedFields.Sublist trackedNames)
    (befores : (before.map Prod.fst).Sublist changedFields)
    (afters : (after.map Prod.fst).Sublist changedFields) :
    AuditAccepted (writeAudit actorId clientId targetType action changedFields before after
        targetId auditId now) ↔
      (∀ entry ∈ before, Fits entry.2) ∧ ∀ entry ∈ after, Fits entry.2 := by
  have changedShort : changedFields.length ≤ auditMaxFields :=
    le_trans tracks.length_le (by decide)
  have nameable : ∀ name ∈ changedFields, Nameable name := fun name member =>
    trackedNames_nameable name (tracks.subset member)
  have short {summary : AuditSummary} (inside : (summary.map Prod.fst).Sublist changedFields) :
      summary.length ≤ auditMaxFields := by
    have := inside.length_le
    rw [List.length_map] at this
    omega
  have valid {summary : AuditSummary} (inside : (summary.map Prod.fst).Sublist changedFields)
      (fits : ∀ entry ∈ summary, Fits entry.2) (fieldName : String) :
      validateAuditSummary fieldName summary =
        .ok (summary.insertionSort fun left right => left.1 ≤ right.1) :=
    (validateAuditSummary_ok_iff fieldName summary _).mpr ⟨short inside, fun entry member =>
      ⟨nameable _ (inside.subset (List.mem_map_of_mem member)), fits entry member⟩, rfl⟩
  constructor
  · rintro ⟨row, written, _⟩
    obtain ⟨beforeFits, afterFits, _⟩ := construct_fits written
    exact ⟨beforeFits, afterFits⟩
  · rintro ⟨beforeFits, afterFits⟩
    have changed : validateStringSet "changed_fields" changedFields none auditMaxFields 64 =
        .ok (changedFields.insertionSort (· ≤ ·)) := by
      simp only [validateStringSet, bind_ok_iff, require_ok_iff, exists_const, pure, Except.pure]
      exact ⟨changedShort, fun name member => ⟨(nameable name member).1, (nameable name member).2.1⟩,
        trackedNames_nodup.sublist tracks, by simp, trivial⟩
    simp only [AuditAccepted, writeAudit, ApiClientAdminAudit.construct, bind_ok_iff,
      require_ok_iff, exists_const, pure, Except.pure, Except.ok.injEq]
    refine ⟨_, ⟨known, named, _, changed, ?_, _, valid befores beforeFits _, _,
      valid afters afterFits _, rfl⟩, ?_⟩
    · intro field member
      exact (nameable field ((List.mem_insertionSort _).mp member)).2.2
    · intro entry member
      rw [List.mem_insertionSort]
      rcases List.mem_append.mp member with inside | inside
      · exact befores.subset (List.mem_map_of_mem ((List.mem_insertionSort _).mp inside))
      · exact afters.subset (List.mem_map_of_mem ((List.mem_insertionSort _).mp inside))

/-! ## Stored columns -/

theorem replaySummaries_mem {rows : List ApiClientAdminAudit} {name : String} {value : AuditValue}
    (left : replaySummaries rows name = some value) :
    ∃ row ∈ rows, (name, value) ∈ row.afterSummary := by
  induction rows using List.reverseRecOn with
  | nil => cases left
  | append_singleton earlier row inductionHypothesis =>
      rw [replaySummaries_append] at left
      have older (left : replaySummaries earlier name = some value) :
          ∃ other ∈ earlier ++ [row], (name, value) ∈ other.afterSummary := by
        obtain ⟨other, member, told⟩ := inductionHypothesis left
        exact ⟨other, List.mem_append_left _ member, told⟩
      split at left
      · cases told : row.afterSummary.lookup name with
        | none =>
            rw [told] at left
            exact older left
        | some latest =>
            rw [told, Option.some_or, Option.some.injEq] at left
            subst left
            obtain ⟨before, after, split, _⟩ := List.lookup_eq_some_iff.mp told
            exact ⟨row, by simp, by simp [split]⟩
      · exact older left

/-- Every stored audit row went through the audit model. -/
theorem history_constructed (runtime : AdminRuntime) (calls : List AdminCall) :
    ∀ row ∈ (history runtime calls).audits,
      ∃ given : ApiClientAdminAudit, given.construct = .ok row := by
  induction calls using List.reverseRecOn with
  | nil => exact List.forall_mem_nil _
  | append_singleton earlier call inductionHypothesis =>
      rw [history, List.foldl_append]
      have effect := apply_effect runtime (history runtime earlier) call
      have added {row : ApiClientAdminAudit} {after : AdminDatabase}
          (constructed : ∃ given : ApiClientAdminAudit, given.construct = .ok row)
          (audits : after.audits = (history runtime earlier).audits ++ [row]) :
          ∀ row ∈ after.audits, ∃ given : ApiClientAdminAudit, given.construct = .ok row := by
        rw [audits, List.forall_mem_append, List.forall_mem_singleton]
        exact ⟨inductionHypothesis, constructed⟩
      cases effect with
      | nothing _ audits => exact audits ▸ inductionHypothesis
      | created _ _ _ _ audits _ constructed _ => exact added constructed audits
      | changed _ _ _ _ _ _ audits _ constructed _ => exact added constructed audits

/-- Every policy column of a stored caller was audited when it was set, and so fits. -/
theorem history_columns_fit (runtime : AdminRuntime) (calls : List AdminCall) {client : ApiClient}
    (stored : client ∈ (history runtime calls).callers.clients.rows) (column : CallerField) :
    Fits (column.read client) := by
  have tracks : column.fieldName ∈ trackedNames := by
    cases column <;> simp [trackedNames, policyColumns, CallerField.fieldName]
  have current := ((history_audited runtime calls).replays client stored).current
    column.fieldName tracks
  rw [tracked_column] at current
  obtain ⟨row, member, told⟩ := replaySummaries_mem current
  obtain ⟨given, constructed⟩ := history_constructed runtime calls row
    (List.mem_of_mem_filter member)
  exact (construct_fits constructed).2.2 _ told

/-! ## Validated values -/

/-- A description that a summary can hold. -/
def Summarizable (description : Option String) : Prop :=
  ∀ text ∈ description, text.toList.length ≤ auditMaxValueLength

theorem fits_auditText_iff (description : Option String) :
    Fits (auditText description) ↔ Summarizable description := by
  cases description <;> simp [Fits, auditText, Summarizable]

theorem fits_auditCount (limit : Option Int) : Fits (auditCount limit) := by
  cases limit <;> trivial

theorem checkText_fits {field : String} {minimum maximum : Nat} {text kept : String}
    (checked : checkText field minimum maximum text = .ok kept)
    (below : maximum ≤ auditMaxValueLength) : Fits (.text kept) := by
  simp only [checkText, bind_ok_iff, require_ok_iff, exists_const, pure, Except.pure,
    Except.ok.injEq] at checked
  obtain ⟨bounds, rfl⟩ := checked
  exact le_trans bounds.2 below

theorem validateStringSet_fits {fieldName : String} {values kept : List String}
    {allowed : Option (List String)} {maxItems : Nat}
    (checked : validateStringSet fieldName values allowed maxItems 255 = .ok kept)
    (below : maxItems ≤ auditMaxListItems) : Fits (.texts kept) := by
  simp only [validateStringSet, bind_ok_iff, require_ok_iff, exists_const, pure, Except.pure,
    Except.ok.injEq] at checked
  obtain ⟨bounded, items, _, _, rfl⟩ := checked
  constructor
  · rw [List.length_insertionSort]
    exact le_trans bounded below
  · intro value member
    exact le_trans (items value ((List.mem_insertionSort _).mp member)).2 (by decide)

theorem checkEndpoints_fits {values kept : List String}
    (checked : checkEndpoints values = .ok kept) : Fits (.texts kept) := by
  rw [checkEndpoints, fromModel_ok_iff] at checked
  exact validateStringSet_fits checked (by decide)

theorem checkStrings_fits {field : String} {minimum : Nat} {values kept : List String}
    (checked : checkStrings field minimum values = .ok kept) : Fits (.texts kept) :=
  validateStringSet_fits (checkStrings_again checked) (by decide)

/-- Of the values an update assigns, only the description can be too long. -/
theorem AdminCallerPatch.validate_fits {patch : AdminCallerPatch} {expectedVersion : Int}
    {fields : List CallerField} (valid : patch.validate expectedVersion = .ok fields) :
    ∀ field ∈ fields, field.fieldName ≠ "description" → Fits field.assigned := by
  simp only [AdminCallerPatch.validate, bind_ok_iff, pure, Except.pure, Except.ok.injEq] at valid
  obtain ⟨_, _, _, name, _, description, _, endpoints, _, models, _, groups, _, qps, _,
    concurrency, _, dailyRequests, _, dailyTokens, _, totalRequests, _, totalTokens, _, output,
    rfl⟩ := valid
  simp only [List.forall_mem_append]
  refine ⟨⟨⟨⟨⟨⟨⟨⟨⟨⟨⟨?_, ?_⟩, ?_⟩, ?_⟩, ?_⟩, ?_⟩, ?_⟩, ?_⟩, ?_⟩, ?_⟩, ?_⟩, ?_⟩
  · refine checkRequired_all ?_ name
    exact fun _ _ checked _ => checkText_fits checked (by decide)
  · refine checkNullable_all ?_ description
    exact fun _ other => absurd rfl other
  · refine checkRequired_all ?_ endpoints
    exact fun _ _ checked _ => checkEndpoints_fits checked
  · refine checkRequired_all ?_ models
    exact fun _ _ checked _ => checkStrings_fits checked
  · refine checkRequired_all ?_ groups
    exact fun _ _ checked _ => checkStrings_fits checked
  · refine checkRequired_all ?_ qps
    exact fun _ _ _ _ => trivial
  · refine checkRequired_all ?_ concurrency
    exact fun _ _ _ _ => trivial
  · refine checkNullable_all ?_ dailyRequests
    exact fun limit _ => fits_auditCount limit
  · refine checkNullable_all ?_ dailyTokens
    exact fun limit _ => fits_auditCount limit
  · refine checkNullable_all ?_ totalRequests
    exact fun limit _ => fits_auditCount limit
  · refine checkNullable_all ?_ totalTokens
    exact fun limit _ => fits_auditCount limit
  · refine checkRequired_all ?_ output
    exact fun _ _ _ _ => trivial

section Names

variable {α : Type} {check : α → Except AdminError α} {fields : List CallerField} {column : String}

theorem checkRequired_names {name : String} {assign : α → CallerField} {given : Option (Option α)}
    (named : ∀ value, (assign value).fieldName = column)
    (valid : checkRequired name check assign given = .ok fields) :
    (fields.map CallerField.fieldName).Sublist [column] := by
  match given with
  | none =>
      cases valid
      exact List.nil_sublist _
  | some none => cases valid
  | some (some value) =>
      simp only [checkRequired, bind_ok_iff, pure, Except.pure, Except.ok.injEq] at valid
      obtain ⟨result, _, rfl⟩ := valid
      rw [List.map_singleton, named]

theorem checkNullable_names {assign : Option α → CallerField} {given : Option (Option α)}
    (named : ∀ value, (assign value).fieldName = column)
    (valid : checkNullable check assign given = .ok fields) :
    (fields.map CallerField.fieldName).Sublist [column] := by
  match given with
  | none =>
      cases valid
      exact List.nil_sublist _
  | some value =>
      simp only [checkNullable, bind_ok_iff, pure, Except.pure, Except.ok.injEq] at valid
      obtain ⟨result, _, rfl⟩ := valid
      rw [List.map_singleton, named]

end Names

/-- An update names each policy column at most once, in the order of the columns. -/
theorem AdminCallerPatch.validate_names {patch : AdminCallerPatch} {expectedVersion : Int}
    {fields : List CallerField} (valid : patch.validate expectedVersion = .ok fields) :
    (fields.map CallerField.fieldName).Sublist trackedNames := by
  simp only [AdminCallerPatch.validate, bind_ok_iff, pure, Except.pure, Except.ok.injEq] at valid
  obtain ⟨_, _, _, name, _, description, _, endpoints, _, models, _, groups, _, qps, _,
    concurrency, _, dailyRequests, _, dailyTokens, _, totalRequests, _, totalTokens, _, output,
    rfl⟩ := valid
  have columns : trackedNames = ["name"] ++ ["description"] ++ ["allowed_endpoints"] ++
      ["allowed_models"] ++ ["group_ids"] ++ ["qps_limit"] ++ ["concurrency_limit"] ++
      ["daily_request_limit"] ++ ["daily_token_limit"] ++ ["total_request_limit"] ++
      ["total_token_limit"] ++ ["max_output_tokens_per_request"] ++ ["status"] := rfl
  rw [columns]
  simp only [List.map_append]
  refine .trans ?_ (List.sublist_append_left _ ["status"])
  refine .append (.append (.append (.append (.append (.append (.append (.append (.append (.append
    (.append ?_ ?_) ?_) ?_) ?_) ?_) ?_) ?_) ?_) ?_) ?_) ?_
  · refine checkRequired_names ?_ name
    exact fun _ => rfl
  · refine checkNullable_names ?_ description
    exact fun _ => rfl
  · refine checkRequired_names ?_ endpoints
    exact fun _ => rfl
  · refine checkRequired_names ?_ models
    exact fun _ => rfl
  · refine checkRequired_names ?_ groups
    exact fun _ => rfl
  · refine checkRequired_names ?_ qps
    exact fun _ => rfl
  · refine checkRequired_names ?_ concurrency
    exact fun _ => rfl
  · refine checkNullable_names ?_ dailyRequests
    exact fun _ => rfl
  · refine checkNullable_names ?_ dailyTokens
    exact fun _ => rfl
  · refine checkNullable_names ?_ totalRequests
    exact fun _ => rfl
  · refine checkNullable_names ?_ totalTokens
    exact fun _ => rfl
  · refine checkRequired_names ?_ output
    exact fun _ => rfl

/-- Of the values of a new caller, only the description can be too long. -/
theorem AdminCallerCreateRequest.fits (request : AdminCallerCreateRequest) (actorId : String)
    (draw : AdminDraw) :
    (∀ field ∈ createdFields (createdClient request.fields actorId draw), Fits field.assigned) ↔
      Summarizable request.fields.description := by
  obtain ⟨endpointsSorted, modelsSorted, groupsSorted⟩ := request.sorted
  obtain ⟨⟨_, endpoints⟩, ⟨_, models⟩, ⟨_, groups⟩⟩ := request.checked
  have name : Fits (.text request.fields.name) := by
    obtain ⟨submitted, valid⟩ := request.validated
    simp only [AdminCallerCreateFields.validate, bind_ok_iff, pure, Except.pure,
      Except.ok.injEq] at valid
    obtain ⟨kept, checked, rest⟩ := valid
    obtain ⟨_, _, _, _, _, _, _, _, _, _, _, _, _, _, rest⟩ := rest
    obtain ⟨_, _, _, _, _, _, _, _, _, _, _, _, _, _, _, _, same⟩ := rest
    rw [← same]
    exact checkText_fits checked (by decide)
  simp only [createdFields, createdClient, endpointsSorted, modelsSorted, groupsSorted,
    List.forall_mem_cons, CallerField.assigned, fits_auditText_iff, fits_auditCount]
  constructor
  · exact fun all => all.2.1
  · intro description
    exact ⟨name, description, checkEndpoints_fits endpoints, checkStrings_fits models,
      checkStrings_fits groups, trivial, trivial, trivial, trivial, trivial, trivial, trivial,
      List.forall_mem_nil _⟩

/-! ## Acceptance of the two rows -/

theorem createAudit_accepted_iff (request : AdminCallerCreateRequest) (actorId : String)
    (draw : AdminDraw) :
    AuditAccepted (createAudit request.fields actorId draw) ↔
      Summarizable request.fields.description := by
  rw [← request.fits actorId draw]
  unfold createAudit
  refine (writeAudit_accepted_iff ?_ ?_ ?_ ?_ ?_).trans ?_
  · decide
  · decide
  · exact List.Sublist.refl trackedNames
  · exact List.nil_sublist _
  · rw [List.map_append, List.map_map]
    exact List.Sublist.refl trackedNames
  · simp only [List.forall_mem_append, List.forall_mem_map, List.forall_mem_singleton]
    constructor
    · exact fun fits => fits.2.1
    · exact fun fits => ⟨List.forall_mem_nil _, fits, by unfold Fits; decide⟩

/-- The values an update replaces fit, and so only its new description decides. -/
theorem updateAudit_accepted_iff {client : ApiClient} {patch : AdminCallerPatch}
    {expectedVersion : Int} {fields : List CallerField} (actorId : String) (draw : AdminDraw)
    (valid : patch.validate expectedVersion = .ok fields)
    (stored : ∀ column : CallerField, Fits (column.read client)) :
    AuditAccepted (updateAudit client fields actorId draw) ↔
      ∀ description, .description description ∈ fields → Summarizable description := by
  have names {value : CallerField → AuditValue} :
      ((fields.map fun field => (field.fieldName, value field)).map Prod.fst).Sublist
        (fields.map CallerField.fieldName) := by
    rw [List.map_map]
    exact List.Sublist.refl _
  rw [updateAudit, writeAudit_accepted_iff (by decide) (by decide) (AdminCallerPatch.validate_names
    valid) names names]
  simp only [List.forall_mem_map]
  constructor
  · intro fits description member
    exact (fits_auditText_iff description).mp (fits.2 _ member)
  · intro short
    refine ⟨fun field _ => stored field, fun field member => ?_⟩
    cases field with
    | description description => exact (fits_auditText_iff description).mpr (short _ member)
    | _ => exact AdminCallerPatch.validate_fits valid _ member (by simp [CallerField.fieldName])

/-! ## Failures of other kinds -/

/-- No error of the audit model. -/
def OtherModelError (error : ModelError) : Prop := ¬refusesAudit error

def OtherAdminError : AdminError → Prop
  | .model error => ¬refusesAudit error
  | _ => True

theorem not_failsForAudit {α : Type} {outcome : Except AdminError α}
    (only : FailsOnly OtherAdminError outcome) : ¬FailsForAudit outcome := by
  rintro ⟨error, raised, refuses⟩
  exact only _ raised refuses

theorem failsOnly_fromModel {α : Type} {outcome : Except ModelError α}
    (only : FailsOnly OtherModelError outcome) :
    FailsOnly OtherAdminError (Admin.fromModel outcome) := by
  intro failure failed
  cases outcome with
  | ok value => cases failed
  | error error =>
      cases failed
      exact only error rfl

/-- A constraint of the database is no refusal of the audit model. -/
theorem failsOnly_constraint {condition : Prop} [Decidable condition] {name : String} :
    FailsOnly OtherModelError (require condition (.integrityError name)) :=
  .require fun _ => id

theorem checkClientRow_failsOnly (clients : Table ApiClient ApiClient.id) (row : ApiClient) :
    FailsOnly OtherModelError (checkClientRow clients row) := by
  unfold checkClientRow
  repeat' first | exact failsOnly_constraint | refine .bind failsOnly_constraint fun _ _ => ?_

theorem insert_failsOnly (database : AdminDatabase) (row : AddedRow)
    (aligned : ∀ audit, row = .audit audit → Aligned audit) :
    FailsOnly OtherModelError (database.insert row) := by
  cases row with
  | client row =>
      exact .bind failsOnly_constraint fun _ _ => .bind (checkClientRow_failsOnly _ _) fun _ _ => .ok _
  | credential row =>
      refine .bind ?_ fun _ _ => .ok _
      unfold checkCredentialRow
      repeat' first | exact failsOnly_constraint | refine .bind failsOnly_constraint fun _ _ => ?_
  | binding row =>
      refine .bind ?_ fun _ _ => .ok _
      unfold checkBindingRow
      repeat' first | exact failsOnly_constraint | refine .bind failsOnly_constraint fun _ _ => ?_
  | outbox row => exact .bind failsOnly_constraint fun _ _ => .bind failsOnly_constraint fun _ _ => .ok _
  | audit row =>
      refine .bind failsOnly_constraint fun _ _ => .bind failsOnly_constraint fun _ _ => .bind ?_ fun _ _ => .ok _
      refine .bind (.require fun misaligned => absurd (aligned row rfl) misaligned) fun _ _ => ?_
      exact .bind failsOnly_constraint fun _ _ => failsOnly_constraint

theorem flush_failsOnly (session : Session)
    (aligned : ∀ audit, .audit audit ∈ session.added → Aligned audit) :
    FailsOnly OtherModelError session.flush := by
  refine .bind ?_ fun _ _ => .ok _
  generalize session.database = database
  generalize session.added = added at aligned
  induction added generalizing database with
  | nil => exact .ok _
  | cons row rest inductionHypothesis =>
      rw [List.foldlM_cons]
      refine .bind (insert_failsOnly database row ?_) fun after _ => ?_
      · exact fun audit same => aligned audit (same ▸ List.mem_cons_self)
      · exact inductionHypothesis after fun audit member =>
          aligned audit (List.mem_cons_of_mem _ member)

/-- An accepted row is written, and is aligned when it is inserted. -/
theorem AuditAccepted.failsOnly {written : Except ModelError ApiClientAdminAudit}
    (accepted : AuditAccepted written) : FailsOnly OtherModelError written := by
  obtain ⟨row, rfl, _⟩ := accepted
  exact .ok row

theorem AuditAccepted.aligned {written : Except ModelError ApiClientAdminAudit}
    {row : ApiClientAdminAudit} (accepted : AuditAccepted written) (same : written = .ok row) :
    Aligned row := by
  obtain ⟨other, done, aligned⟩ := accepted
  rw [same, Except.ok.injEq] at done
  exact done ▸ aligned

theorem stageBifrostBindingSync_failsOnly (sha256 : String → String) (binding : ApiClientBinding)
    (spec : VirtualKeySpec) (action : OutboxAction) (key itemId : String) (now : Int) :
    FailsOnly OtherModelError
      (stageBifrostBindingSync sha256 binding spec action key itemId now) := by
  have other {message : String} (unknown : message ∉ auditRefusals) {condition : Prop}
      [Decidable condition] :
      FailsOnly OtherModelError (require condition (.valueError message)) :=
    .require fun _ => unknown
  refine .bind (other (by decide)) fun _ _ => .bind (other (by decide +kernel)) fun _ _ =>
    .bind (other (by decide)) fun _ _ => ?_
  exact .bind (other (by decide)) fun _ _ => .ok _

theorem createCaller_failsOnly (runtime : AdminRuntime) (request : AdminCallerCreateRequest)
    (actorId supplied : String) (draw : AdminDraw) (database : AdminDatabase)
    (accepted : AuditAccepted (createAudit request.fields actorId draw)) :
    FailsOnly OtherAdminError (createCaller runtime request actorId supplied draw database) := by
  unfold createCaller
  refine .bind (failsOnly_fromModel (flush_failsOnly _ ?_)) fun session inserted => ?_
  · intro audit member
    simp [Session.add, Session.begin] at member
  have nothingAdded := (flush_client (fromModel_ok_iff.mp inserted)).2.2.2
  refine .bind (failsOnly_fromModel (.bind (.require fun _ => ?_) fun _ _ => .ok _)) fun credential _ => ?_
  · show _ ∉ auditRefusals
    decide
  refine .bind (.require fun _ => trivial) fun _ _ => ?_
  refine .bind (.bind (.require fun _ => ?_) fun _ _ => .ok _) fun key _ => ?_
  · show _ ∉ auditRefusals
    decide
  refine .bind (failsOnly_fromModel (stageBifrostBindingSync_failsOnly _ _ _ _ _ _ _)) fun staged _ => ?_
  refine .bind (failsOnly_fromModel accepted.failsOnly) fun audit written => ?_
  refine .bind (failsOnly_fromModel (flush_failsOnly _ ?_)) fun _ _ => .ok _
  intro row member
  have same : row = audit := by
    simpa [Session.add, nothingAdded] using member
  exact same ▸ accepted.aligned (fromModel_ok_iff.mp written)

theorem updateCaller_failsOnly {client : ApiClient} {expectedVersion : Int}
    {patch : AdminCallerPatch} {fields : List CallerField} {database : AdminDatabase}
    (actorId : String) (draw : AdminDraw) (valid : patch.validate expectedVersion = .ok fields)
    (found : database.callers.clients.find? client.id = some client)
    (accepted : AuditAccepted (updateAudit client fields actorId draw)) :
    FailsOnly OtherAdminError
      (updateCaller client.id expectedVersion patch actorId draw database) := by
  unfold updateCaller
  rw [valid, ok_bind]
  simp only [Session.begin, found]
  refine .bind (.require fun _ => trivial) fun _ _ => .bind (.require fun _ => trivial) fun _ _ => ?_
  refine .bind (failsOnly_fromModel ?_) fun patched patches => ?_
  · unfold Session.changeClient
    dsimp only
    split
    · exact .ok _
    · exact .bind (checkClientRow_failsOnly _ _) fun _ _ => .ok _
  have nothingAdded := changeClient_added (fromModel_ok_iff.mp patches)
  refine .bind (failsOnly_fromModel accepted.failsOnly) fun audit written => ?_
  refine .bind (failsOnly_fromModel (flush_failsOnly _ ?_)) fun closed flushed => ?_
  · intro row member
    have same : row = audit := by
      simpa [Session.add, nothingAdded] using member
    exact same ▸ accepted.aligned (fromModel_ok_iff.mp written)
  refine .bind (.bind (failsOnly_fromModel (.bind (flush_failsOnly _ ?_) fun _ _ => .ok _)) fun _ _ =>
    .ok _) fun _ _ => .ok _
  intro row member
  rw [flush_added (fromModel_ok_iff.mp flushed)] at member
  cases member

/-! ## Which requests can be audited -/

theorem createCaller_auditable_iff (runtime : AdminRuntime) (database : AdminDatabase)
    (request : AdminCallerCreateRequest) (actorId supplied : String) (draw : AdminDraw) :
    Auditable (createAudit request.fields actorId draw)
        (createCaller runtime request actorId supplied draw database) ↔
      Summarizable request.fields.description := by
  rw [← createAudit_accepted_iff request actorId draw]
  constructor
  · exact Auditable.accepted
  · exact fun accepted => ⟨accepted, not_failsForAudit
      (createCaller_failsOnly runtime request actorId supplied draw database accepted)⟩

theorem updateCaller_auditable_iff {database : AdminDatabase} {client : ApiClient}
    {patch : AdminCallerPatch} {fields : List CallerField} (actorId : String) (draw : AdminDraw)
    (found : database.callers.clients.find? client.id = some client)
    (valid : patch.validate client.version = .ok fields)
    (stored : ∀ column : CallerField, Fits (column.read client)) :
    Auditable (updateAudit client fields actorId draw)
        (updateCaller client.id client.version patch actorId draw database) ↔
      ∀ description, .description description ∈ fields → Summarizable description := by
  rw [← updateAudit_accepted_iff actorId draw valid stored]
  constructor
  · exact Auditable.accepted
  · exact fun accepted => ⟨accepted, not_failsForAudit
      (updateCaller_failsOnly actorId draw valid found accepted)⟩

/-- **A validated request can be audited exactly when its description fits.** After any
history, the audit row of a creation passes, and of an update at the current version,
if and only if the description it sets has at most 512 characters; the values that an
update replaces always pass. -/
theorem admin_requests_are_audited_iff (runtime : AdminRuntime) (calls : List AdminCall)
    (actorId : String) (draw : AdminDraw) :
    (∀ (request : AdminCallerCreateRequest) (supplied : String),
      Auditable (createAudit request.fields actorId draw)
          (createCaller runtime request actorId supplied draw (history runtime calls)) ↔
        Summarizable request.fields.description) ∧
      ∀ (client : ApiClient) (patch : AdminCallerPatch) (fields : List CallerField),
        (history runtime calls).callers.clients.find? client.id = some client →
        patch.validate client.version = .ok fields →
        (Auditable (updateAudit client fields actorId draw)
            (updateCaller client.id client.version patch actorId draw (history runtime calls)) ↔
          ∀ description, .description description ∈ fields → Summarizable description) := by
  constructor
  · intro request supplied
    exact createCaller_auditable_iff runtime _ request actorId supplied draw
  · intro client patch fields found valid
    exact updateCaller_auditable_iff actorId draw found valid
      (history_columns_fit runtime calls (Table.mem_of_find? found))

/-- The caller `c` after its creation. -/
def createdSample : ApiClient :=
  createdClient sampleFields "admin"
    { clientId := "c", credential := ⟨"k1", "zpk_first"⟩, bindingId := "b",
      outboxId := "o", auditId := "a1", now := 100 }

theorem admin_requests_are_audited_iff_sample :
    Auditable (updateAudit createdSample [.qpsLimit 20] "admin" sampleRotation)
        (updateCaller "c" 1 { qpsLimit := some (some 20) } "admin" sampleRotation
          (history sampleRuntime [sampleCreation])) ↔
      ∀ description, .description description ∈ [CallerField.qpsLimit 20] →
        Summarizable description :=
  (admin_requests_are_audited_iff sampleRuntime [sampleCreation] "admin" sampleRotation).2
    createdSample { qpsLimit := some (some 20) } [.qpsLimit 20] (by decide +kernel)
    (by decide +kernel)

/-! ## A description that fits the request only -/

/-- The description of a create request is validated by itself. -/
theorem validate_description {fields : AdminCallerCreateFields} {description : Option String}
    (valid : fields.validate = .ok fields)
    (described : checkOptional (checkText "description" 0 1024) description = .ok description) :
    ({ fields with description := description } : AdminCallerCreateFields).validate =
      .ok { fields with description := description } := by
  simp only [AdminCallerCreateFields.validate, bind_ok_iff, pure, Except.pure,
    Except.ok.injEq] at valid ⊢
  obtain ⟨name, named, _, _, rest⟩ := valid
  refine ⟨name, named, description, described, ?_⟩
  obtain ⟨user, users, provider, providers, model, models, endpoints, endpointed, allowed, allows,
    groups, grouped, rest⟩ := rest
  obtain ⟨qps, paced, concurrency, leased, dailyRequests, daily, dailyTokens, dailySum,
    totalRequests, total, totalTokens, totalSum, output, bounded, listed, included, same⟩ := rest
  refine ⟨user, users, provider, providers, model, models, endpoints, endpointed, allowed, allows,
    groups, grouped, qps, paced, concurrency, leased, dailyRequests, daily, dailyTokens, dailySum,
    totalRequests, total, totalTokens, totalSum, output, bounded, listed, included, ?_⟩
  rw [← same]

/-- A text of the same letter over and over. -/
def letters (count : Nat) : String := String.ofList (List.replicate count 'a')

theorem letters_length (count : Nat) : (letters count).toList.length = count := by
  rw [letters, String.toList_ofList, List.length_replicate]

theorem letters_checked {count : Nat} (short : count ≤ 1024) :
    checkOptional (checkText "description" 0 1024) (some (letters count)) =
      .ok (some (letters count)) := by
  have stripped : strip (letters count) = letters count := by
    simp [strip, letters, isWhitespace]
  simp [checkOptional, checkText, stripped, letters_length, short, require, pure, Except.pure]

def longFields : AdminCallerCreateFields :=
  { sampleFields with description := some (letters 513) }

theorem longFields_validate :
    ∃ submitted : AdminCallerCreateFields, submitted.validate = .ok longFields :=
  ⟨_, validate_description (by decide +kernel) (letters_checked (by decide))⟩

/-- A description of 513 characters passes validation, and its audit does not. -/
def longRequest : AdminCallerCreateRequest := ⟨longFields, longFields_validate⟩

theorem admin_requests_can_be_unauditable :
    ¬ ∀ (runtime : AdminRuntime) (calls : List AdminCall) (request : AdminCallerCreateRequest)
      (actorId supplied : String) (draw : AdminDraw),
      Auditable (createAudit request.fields actorId draw)
        (createCaller runtime request actorId supplied draw (history runtime calls)) := by
  intro always
  have auditable := always sampleRuntime [] longRequest "admin" "create-1" sampleRotation
  have short := (createCaller_auditable_iff sampleRuntime (history sampleRuntime []) longRequest
    "admin" "create-1" sampleRotation).mp auditable
  have bound := short (letters 513) rfl
  rw [letters_length] at bound
  exact absurd bound (by decide)

end Zangpu.Services.Admin
