import Zangpu.Services.Callers
import Zangpu.Services.Quota.Finalization

/-!
The usage endpoint.

Owns: `get_usage` over the caller tables and the quota ledger, with the bounds
of its response fields; the headroom a reported scope leaves; the agreement of
that headroom with the quota checks of a reservation; and the validity of every
report on a reachable ledger.

Does not own: the nonce claim and the rate window, whose answers are arguments;
the rate limit headers.
-/

set_option autoImplicit false

namespace Zangpu.Services.Metadata

open Zangpu.Foundation
open Zangpu.Models
open Zangpu.Api
open Zangpu.Services.Callers
open Zangpu.Services.Chat
open Zangpu.Services.Quota

/-- What the metadata service raises. `validation` is the response model
refusing the named field. -/
inductive MetadataError where
  | externalApi (code : ErrorCode)
  | valueError (message : String)
  | validation (field : String)
  deriving DecidableEq, Repr

/-! ## The response -/

structure UsageScopeFields where
  scope : QuotaScope
  periodStart : Int
  periodEnd : Option Int
  requestCount : Int
  requestLimit : Option Int
  requestRemaining : Option Int
  tokenConsumed : Int
  tokenReserved : Int
  tokenLimit : Option Int
  tokenRemaining : Option Int
  updatedAt : Option Int
  deriving DecidableEq, Repr

def UsageScopeFields.validate (fields : UsageScopeFields) : Except MetadataError Unit := do
  require (0 ≤ fields.periodStart) (.validation "period_start")
  require (∀ value ∈ fields.periodEnd, 0 ≤ value) (.validation "period_end")
  require (0 ≤ fields.requestCount) (.validation "request_count")
  require (∀ limit ∈ fields.requestLimit, 0 < limit) (.validation "request_limit")
  require (∀ value ∈ fields.requestRemaining, 0 ≤ value) (.validation "request_remaining")
  require (0 ≤ fields.tokenConsumed) (.validation "token_consumed")
  require (0 ≤ fields.tokenReserved) (.validation "token_reserved")
  require (∀ limit ∈ fields.tokenLimit, 0 < limit) (.validation "token_limit")
  require (∀ value ∈ fields.tokenRemaining, 0 ≤ value) (.validation "token_remaining")
  require (∀ value ∈ fields.updatedAt, 0 ≤ value) (.validation "updated_at")

/-- The usage of one scope, with every field within its bounds. -/
structure ExternalUsageScope extends UsageScopeFields where
  valid : toUsageScopeFields.validate = .ok ()
  deriving DecidableEq

def ExternalUsageScope.create (fields : UsageScopeFields) :
    Except MetadataError ExternalUsageScope :=
  match valid : fields.validate with
  | .ok () => .ok ⟨fields, valid⟩
  | .error failure => .error failure

theorem ExternalUsageScope.create_ok_iff {fields : UsageScopeFields}
    {scope : ExternalUsageScope} :
    ExternalUsageScope.create fields = .ok scope ↔ scope.toUsageScopeFields = fields := by
  unfold ExternalUsageScope.create
  constructor
  · intro created
    split at created
    · rw [← Except.ok.inj created]
    · cases created
  · rintro rfl
    split
    · rfl
    · rename_i failure invalid
      rw [scope.valid] at invalid
      cases invalid

structure ExternalUsage where
  asOf : Int
  daily : ExternalUsageScope
  lifetime : ExternalUsageScope
  asOfValid : 0 ≤ asOf

instance : DecidableEq ExternalUsage := fun one other =>
  decidable_of_iff (one.asOf = other.asOf ∧ one.daily = other.daily ∧
    one.lifetime = other.lifetime) (by cases one; cases other; simp)

def ExternalUsage.scope (usage : ExternalUsage) : QuotaScope → ExternalUsageScope
  | .daily => usage.daily
  | .lifetime => usage.lifetime

/-! ## The service -/

structure UsageSnapshot where
  requestCount : Int
  tokenReserved : Int
  tokenConsumed : Int
  updatedAt : Option Int
  deriving DecidableEq, Repr

/-- The usage of a scope without a row. -/
def UsageSnapshot.empty : UsageSnapshot := ⟨0, 0, 0, none⟩

def UsageSnapshot.ofRow (row : ApiClientQuotaUsage) : UsageSnapshot :=
  ⟨row.requestCount, row.tokenReserved, row.tokenConsumed, some row.updatedAt⟩

def callerErrorCode : CallerPolicyCode → ErrorCode
  | .clientDisabled => .clientDisabled
  | .credentialRevoked | .credentialExpired => .authFailed
  | _ => .controlPlaneUnavailable

def remaining (limit : Option Int) (used : Int) : Option Int :=
  limit.map fun limit => max (limit - used) 0

/-- `_load_usage`: the snapshot of each scope that has a row. -/
def loadUsage (ledger : Ledger) (apiClientId : String) (dayStart : Int) :
    QuotaScope → Option UsageSnapshot
  | .daily => (ledger.quotas.find? ⟨apiClientId, .daily, dayStart⟩).map UsageSnapshot.ofRow
  | .lifetime => (ledger.quotas.find? ⟨apiClientId, .lifetime, 0⟩).map UsageSnapshot.ofRow

/-- `_admit`, with the answers of the nonce guard and of the rate window. -/
def admitCaller (callers : Callers) (caller : AuthenticatedCaller) (permission : String)
    (claimed : Bool) (qps : QpsDecision) (now : Int) :
    Except MetadataError CallerMetadataPolicy := do
  require claimed (.externalApi .authFailed)
  match loadCallerMetadataPolicy callers caller now with
  | .error code => throw (.externalApi (callerErrorCode code))
  | .ok policy =>
      require (permission ∈ policy.allowedEndpoints) (.externalApi .endpointForbidden)
      require qps.allowed (.externalApi .qpsLimited)
      return policy

/-- The fields of one reported scope. -/
def usageScope (scope : QuotaScope) (periodStart : Int) (periodEnd : Option Int)
    (row : UsageSnapshot) (requestLimit tokenLimit : Option Int) : UsageScopeFields where
  scope := scope
  periodStart := periodStart
  periodEnd := periodEnd
  requestCount := row.requestCount
  requestLimit := requestLimit
  requestRemaining := remaining requestLimit row.requestCount
  tokenConsumed := row.tokenConsumed
  tokenReserved := row.tokenReserved
  tokenLimit := tokenLimit
  tokenRemaining := remaining tokenLimit (row.tokenConsumed + row.tokenReserved)
  updatedAt := row.updatedAt

/-- The fields that `get_usage` reports for a scope under a policy. -/
def reportedScope (ledger : Ledger) (policy : CallerMetadataPolicy) (now : Int) :
    QuotaScope → UsageScopeFields
  | .daily =>
      usageScope .daily (dayStart now) (some (dayStart now + 86400))
        ((loadUsage ledger policy.apiClientId (dayStart now) .daily).getD .empty)
        policy.dailyRequestLimit policy.dailyTokenLimit
  | .lifetime =>
      usageScope .lifetime 0 none
        ((loadUsage ledger policy.apiClientId (dayStart now) .lifetime).getD .empty)
        policy.totalRequestLimit policy.totalTokenLimit

def getUsage (callers : Callers) (ledger : Ledger) (caller : AuthenticatedCaller)
    (claimed : Bool) (qps : QpsDecision) (now : Int) : Except MetadataError ExternalUsage := do
  if valid : 0 ≤ now then
    let policy ← admitCaller callers caller "usage.read" claimed qps now
    let daily ← ExternalUsageScope.create (reportedScope ledger policy now .daily)
    let lifetime ← ExternalUsageScope.create (reportedScope ledger policy now .lifetime)
    return ⟨now, daily, lifetime, valid⟩
  else throw (.valueError "metadata clock returned an invalid value")

theorem admitCaller_ok {callers : Callers} {caller : AuthenticatedCaller} {permission : String}
    {claimed : Bool} {qps : QpsDecision} {now : Int} {policy : CallerMetadataPolicy}
    (admitted : admitCaller callers caller permission claimed qps now = .ok policy) :
    loadCallerMetadataPolicy callers caller now = .ok policy := by
  simp only [admitCaller, bind_ok_iff] at admitted
  obtain ⟨_, _, rest⟩ := admitted
  split at rest
  · cases rest
  · rename_i loaded found
    simp only [bind_ok_iff, pure, Except.pure, Except.ok.injEq] at rest
    obtain ⟨_, _, _, _, rfl⟩ := rest
    exact found

/-- A report reads the row of the caller's client and the rows of the ledger. -/
theorem getUsage_ok {callers : Callers} {ledger : Ledger} {caller : AuthenticatedCaller}
    {claimed : Bool} {qps : QpsDecision} {now : Int} {usage : ExternalUsage}
    (reported : getUsage callers ledger caller claimed qps now = .ok usage) :
    ∃ client credential, callers.clients.find? caller.apiClientId = some client ∧
      ∀ scope, (usage.scope scope).toUsageScopeFields =
        reportedScope ledger (metadataPolicy client credential) now scope := by
  unfold getUsage at reported
  split at reported
  · simp only [bind_ok_iff, ExternalUsageScope.create_ok_iff, pure, Except.pure,
      Except.ok.injEq] at reported
    obtain ⟨policy, admitted, daily, dailyFields, lifetime, lifetimeFields, rfl⟩ := reported
    obtain ⟨client, credential, found, rfl⟩ :=
      loadCallerMetadataPolicy_ok (admitCaller_ok admitted)
    refine ⟨client, credential, found, fun scope => ?_⟩
    cases scope with
    | daily => exact dailyFields
    | lifetime => exact lifetimeFields
  · cases reported

/-! ## Reports -/

/-- The limits of a stored client row are positive by its check constraints. -/
def PositiveLimits (policy : CallerMetadataPolicy) : Prop :=
  (∀ limit ∈ policy.dailyRequestLimit, 0 < limit) ∧ (∀ limit ∈ policy.dailyTokenLimit, 0 < limit) ∧
    (∀ limit ∈ policy.totalRequestLimit, 0 < limit) ∧ ∀ limit ∈ policy.totalTokenLimit, 0 < limit

theorem remaining_nonneg (limit : Option Int) (used : Int) :
    ∀ left ∈ remaining limit used, 0 ≤ left := by
  intro left member
  obtain ⟨bound, _, rfl⟩ := Option.map_eq_some_iff.mp member
  exact le_max_right _ _

/-- The fields of a scope are within the bounds of the response. -/
theorem usageScope_valid {scope : QuotaScope} {periodStart : Int} {periodEnd : Option Int}
    {row : UsageSnapshot} {requestLimit tokenLimit : Option Int} (start : 0 ≤ periodStart)
    (ending : ∀ value ∈ periodEnd, 0 ≤ value)
    (counters : 0 ≤ row.requestCount ∧ 0 ≤ row.tokenReserved ∧ 0 ≤ row.tokenConsumed)
    (stamped : ∀ value ∈ row.updatedAt, 0 ≤ value) (requests : ∀ limit ∈ requestLimit, 0 < limit)
    (tokens : ∀ limit ∈ tokenLimit, 0 < limit) :
    ∃ reported, ExternalUsageScope.create
      (usageScope scope periodStart periodEnd row requestLimit tokenLimit) = .ok reported := by
  have valid : (usageScope scope periodStart periodEnd row requestLimit tokenLimit).validate =
      .ok () := by
    simp only [UsageScopeFields.validate, bind_ok_iff, require_ok_iff]
    exact ⟨(), start, (), ending, (), counters.1, (), requests, (),
      remaining_nonneg _ _, (), counters.2.2, (), counters.2.1, (), tokens, (),
      remaining_nonneg _ _, stamped⟩
  exact ⟨⟨_, valid⟩, ExternalUsageScope.create_ok_iff.mpr rfl⟩

theorem loadUsage_bounds {ledger : Ledger} (settleable : Settleable ledger) (apiClientId : String)
    (day : Int) (scope : QuotaScope) :
    let row := (loadUsage ledger apiClientId day scope).getD .empty
    (0 ≤ row.requestCount ∧ 0 ≤ row.tokenReserved ∧ 0 ≤ row.tokenConsumed) ∧
      ∀ value ∈ row.updatedAt, 0 ≤ value := by
  have bounds : ∀ key, (0 ≤ ((((ledger.quotas.find? key).map UsageSnapshot.ofRow).getD
      .empty).requestCount) ∧
      0 ≤ (((ledger.quotas.find? key).map UsageSnapshot.ofRow).getD .empty).tokenReserved ∧
      0 ≤ (((ledger.quotas.find? key).map UsageSnapshot.ofRow).getD .empty).tokenConsumed) ∧
      ∀ value ∈ (((ledger.quotas.find? key).map UsageSnapshot.ofRow).getD .empty).updatedAt,
        0 ≤ value := by
    intro key
    cases found : ledger.quotas.find? key with
    | none => exact ⟨⟨le_refl 0, le_refl 0, le_refl 0⟩, by intro value absent; cases absent⟩
    | some row =>
        have member := Table.mem_of_find? found
        refine ⟨settleable.nonnegative member, ?_⟩
        intro value stamped
        rw [← Option.some.inj stamped]
        exact settleable.stamped row member
  cases scope with
  | daily => exact bounds _
  | lifetime => exact bounds _

/-- On a reachable ledger every admitted caller with positive limits gets its
report. -/
theorem usage_is_reported (calls : List LedgerCall) {callers : Callers}
    {caller : AuthenticatedCaller} {claimed : Bool} {qps : QpsDecision} {now : Int}
    {policy : CallerMetadataPolicy} (started : 0 ≤ now)
    (admitted : admitCaller callers caller "usage.read" claimed qps now = .ok policy)
    (positive : PositiveLimits policy) :
    ∃ usage, getUsage callers (run Ledger.empty calls) caller claimed qps now = .ok usage := by
  have bounds := loadUsage_bounds (settleable_reachable calls) policy.apiClientId (dayStart now)
  have day : 0 ≤ dayStart now := by
    unfold dayStart
    omega
  obtain ⟨dailyRequests, dailyTokens, totalRequests, totalTokens⟩ := positive
  obtain ⟨daily, dailyReported⟩ := @usageScope_valid .daily (dayStart now)
    (some (dayStart now + 86400)) _ _ _ day
    (by intro value member; rw [← Option.some.inj member]; omega)
    (bounds .daily).1 (bounds .daily).2 dailyRequests dailyTokens
  obtain ⟨lifetime, lifetimeReported⟩ := @usageScope_valid .lifetime 0 none _ _ _ (le_refl 0)
    (by intro value member; cases member) (bounds .lifetime).1 (bounds .lifetime).2 totalRequests
    totalTokens
  refine ⟨⟨now, daily, lifetime, started⟩, ?_⟩
  unfold getUsage
  rw [dif_pos started]
  simp only [bind_ok_iff, pure, Except.pure]
  exact ⟨policy, admitted, daily, dailyReported, lifetime, lifetimeReported, rfl⟩

/-! ## Headroom -/

/-- What a reported scope leaves for a reservation of some tokens. -/
def UsageScopeFields.leaves (fields : UsageScopeFields) (reservedTokens : Int) : Prop :=
  (∀ left ∈ fields.requestRemaining, 1 ≤ left) ∧
    ∀ left ∈ fields.tokenRemaining, reservedTokens ≤ left

/-- Clamping at zero hides no headroom of at least one. -/
theorem le_remaining_iff {limit : Option Int} {used wanted : Int} (positive : 1 ≤ wanted) :
    (∀ left ∈ remaining limit used, wanted ≤ left) ↔ ∀ bound ∈ limit, used + wanted ≤ bound := by
  cases limit with
  | none => simp [remaining]
  | some bound =>
      simp only [remaining, Option.map_some, Option.mem_some_iff, forall_eq']
      omega

/-- The snapshot of a scope shows the counters of the row a reservation locks. -/
theorem loadUsage_eq (ledger : Ledger) (request : ReserveRequest) (scope : QuotaScope) :
    ((loadUsage ledger request.apiClientId (dayStart request.now) scope).getD .empty).requestCount =
        (countingRow ledger request scope).requestCount ∧
      ((loadUsage ledger request.apiClientId (dayStart request.now) scope).getD
          .empty).tokenConsumed = (countingRow ledger request scope).tokenConsumed ∧
      ((loadUsage ledger request.apiClientId (dayStart request.now) scope).getD
          .empty).tokenReserved = (countingRow ledger request scope).tokenReserved := by
  have loaded : loadUsage ledger request.apiClientId (dayStart request.now) scope =
      (ledger.quotas.find? ((pendingOperation request).quotaKey scope)).map
        UsageSnapshot.ofRow := by
    cases scope <;> rfl
  rw [loaded, countingRow]
  cases ledger.quotas.find? ((pendingOperation request).quotaKey scope) with
  | none => exact ⟨rfl, rfl, rfl⟩
  | some row => exact ⟨rfl, rfl, rfl⟩

/-- A reported scope leaves room exactly when the row that a reservation locks
is within both limits of the scope. -/
theorem leaves_iff {ledger : Ledger} {request : ReserveRequest} {client : ApiClient}
    {credential : ApiClientCredential} (sameClient : client.id = request.apiClientId)
    (positive : 1 ≤ request.reservedTokens) (scope : QuotaScope) :
    (reportedScope ledger (metadataPolicy client credential) request.now scope).leaves
        request.reservedTokens ↔
      (∀ limit ∈ (QuotaLimits.ofClient client).requestLimit scope,
        (countingRow ledger request scope).requestCount + 1 ≤ limit) ∧
      ∀ limit ∈ (QuotaLimits.ofClient client).tokenLimit scope,
        (countingRow ledger request scope).tokenConsumed +
          (countingRow ledger request scope).tokenReserved + request.reservedTokens ≤ limit := by
  obtain ⟨requests, consumed, reserved⟩ := loadUsage_eq ledger request scope
  have samePolicy : (metadataPolicy client credential).apiClientId = request.apiClientId :=
    sameClient
  rw [← requests, ← consumed, ← reserved]
  cases scope with
  | daily =>
      simp only [reportedScope, samePolicy]
      exact and_congr (le_remaining_iff (le_refl 1)) (le_remaining_iff positive)
  | lifetime =>
      simp only [reportedScope, samePolicy]
      exact and_congr (le_remaining_iff (le_refl 1)) (le_remaining_iff positive)

/-- A quota check within 64 bits fails with one of its two codes. -/
theorem checkQuotaLimit_error {row : ApiClientQuotaUsage} {requestLimit tokenLimit : Option Int}
    {reservedTokens : Int} {requestCode usageLimitCode : QuotaAdmissionCode}
    {failure : LedgerError}
    (fits : row.tokenConsumed + row.tokenReserved + reservedTokens ≤ signedBigintMax)
    (refused : checkQuotaLimit row requestLimit tokenLimit reservedTokens requestCode
      usageLimitCode = .error failure) :
    failure = .quotaAdmission requestCode none ∨ failure = .quotaAdmission usageLimitCode none := by
  simp only [checkQuotaLimit, bind_error_iff, require_error_iff] at refused
  rcases refused with ⟨_, rfl⟩ | ⟨_, _, ⟨_, rfl⟩ | ⟨_, _, overflow, _⟩⟩
  · exact Or.inl rfl
  · exact Or.inr rfl
  · exact absurd fits overflow

/-- The refusals of the two quota checks. -/
def quotaExceededCodes : List QuotaAdmissionCode :=
  [.dailyRequestQuotaExceeded, .dailyTokenQuotaExceeded, .totalRequestQuotaExceeded,
    .totalTokenQuotaExceeded]

/-- **The usage endpoint agrees with admission.** On every reachable ledger, from
the second epoch day on, a reservation that only its quota checks can refuse
passes them exactly when both scopes that `get_usage` reports at its time leave
at least one request and its tokens. -/
theorem usage_agrees_with_admission (calls : List LedgerCall) (callers : Callers)
    (caller : AuthenticatedCaller) (claimed : Bool) (qps : QpsDecision) (request : ReserveRequest)
    (client : ApiClient) (usage : ExternalUsage)
    (sameCaller : caller.apiClientId = request.apiClientId)
    (reported : getUsage callers (run Ledger.empty calls) caller claimed qps request.now =
      .ok usage)
    (unrefused : Unrefused callers (run Ledger.empty calls) request client)
    (fits : ∀ scope, (usage.scope scope).tokenConsumed + (usage.scope scope).tokenReserved +
      request.reservedTokens ≤ signedBigintMax) :
    ((∃ result, reserveOperation callers (run Ledger.empty calls) request = .ok result) ↔
      ∀ scope, (usage.scope scope).leaves request.reservedTokens) ∧
    ∀ failure, reserveOperation callers (run Ledger.empty calls) request = .error failure →
      ∃ code ∈ quotaExceededCodes, failure = .quotaAdmission code none := by
  obtain ⟨reportedClient, credential, found, fields⟩ := getUsage_ok reported
  obtain ⟨member, sameId⟩ := admittedClient_ok unrefused.caller
  have reportedId : reportedClient.id = request.apiClientId :=
    (Table.key_of_find? found).trans sameCaller
  have sameRow : reportedClient = client :=
    Table.eq_of_key_eq (Table.mem_of_find? found) member (reportedId.trans sameId.symm)
  rw [sameRow] at fields
  have positive : 1 ≤ request.reservedTokens := by
    have validated := unrefused.validated
    simp only [ReserveRequest.validate, bind_ok_iff, require_ok_iff] at validated
    exact validated.choose_spec.2.choose_spec.2.choose_spec.2.1
  have within : ∀ scope, (countingRow (run Ledger.empty calls) request scope).tokenConsumed +
      (countingRow (run Ledger.empty calls) request scope).tokenReserved +
        request.reservedTokens ≤ signedBigintMax := by
    intro scope
    obtain ⟨_, consumed, reserved⟩ := loadUsage_eq (run Ledger.empty calls) request scope
    have bound := fits scope
    rw [fields scope] at bound
    rw [← consumed, ← reserved, ← sameId]
    cases scope with
    | daily => exact bound
    | lifetime => exact bound
  rw [unrefused.reserve_eq]
  constructor
  · simp only [bind_ok_iff, checkQuotaLimit_ok_iff, fields, leaves_iff sameId positive]
    constructor
    · rintro ⟨_, _, ⟨dailyRequests, dailyTokens, _⟩, _, ⟨totalRequests, totalTokens, _⟩, _⟩ scope
      cases scope with
      | daily => exact ⟨dailyRequests, dailyTokens⟩
      | lifetime => exact ⟨totalRequests, totalTokens⟩
    · intro room
      exact ⟨_, (), ⟨(room .daily).1, (room .daily).2, within .daily⟩, (),
        ⟨(room .lifetime).1, (room .lifetime).2, within .lifetime⟩, rfl⟩
  · intro failure refused
    simp only [bind_error_iff, pure, Except.pure] at refused
    rcases refused with daily | ⟨_, _, lifetime | ⟨_, _, impossible⟩⟩
    · rcases checkQuotaLimit_error (within .daily) daily with equal | equal
      · exact ⟨_, by simp [quotaExceededCodes], equal⟩
      · exact ⟨_, by simp [quotaExceededCodes], equal⟩
    · rcases checkQuotaLimit_error (within .lifetime) lifetime with equal | equal
      · exact ⟨_, by simp [quotaExceededCodes], equal⟩
      · exact ⟨_, by simp [quotaExceededCodes], equal⟩
    · cases impossible

/-- The sample client with the permission to read its usage. -/
def reportingClient : ApiClient :=
  { sampleClient with allowedEndpoints := ["chat.completions", "usage.read"] }

def reportingCallers : Callers :=
  { sampleCallers with clients := Table.empty.insertNew reportingClient }

def reportingCaller : AuthenticatedCaller where
  apiClientId := "client"
  credentialId := "credential"
  keyId := "key"
  requestId := "request-number-two"
  nonce := "nonce"
  timestamp := 86400

def openWindow : QpsDecision := ⟨true, 1, 10, 9, 87400000, 86400000⟩

/-- A second reservation that takes the last 40 tokens of the day. -/
def lastReservation : ReserveRequest :=
  { sampleReservation "second" "request-number-two" with
    reservedTokens := 40
    dailyRowId := "other daily"
    lifetimeRowId := "other lifetime" }

theorem usage_agrees_with_admission_sample :
    ∃ result, reserveOperation reportingCallers (run Ledger.empty sampleReserved) lastReservation =
      .ok result := by
  have admitted : admitCaller reportingCallers reportingCaller "usage.read" true openWindow 86400 =
      .ok (metadataPolicy reportingClient sampleCredential) := by decide +kernel
  have positive : PositiveLimits (metadataPolicy reportingClient sampleCredential) := by
    refine ⟨?_, ?_, ?_, ?_⟩ <;> decide
  obtain ⟨usage, reported⟩ := usage_is_reported sampleReserved (by decide) admitted positive
  obtain ⟨client, credential, found, fields⟩ := getUsage_ok reported
  have sameClient : reportingCallers.clients.find? "client" = some reportingClient := by
    decide +kernel
  have rows : (run Ledger.empty sampleReserved).quotas.rows.map ApiClientQuotaUsage.id =
      ["daily", "lifetime"] := by decide +kernel
  obtain rfl : reportingClient = client := Option.some.inj (sameClient.symm.trans found)
  have unrefused : Unrefused reportingCallers (run Ledger.empty sampleReserved) lastReservation
      reportingClient := by
    refine ⟨by decide +kernel, by decide +kernel, by decide, by decide +kernel, by decide +kernel,
      ?_, by decide⟩
    intro row member
    have named : row.id ∈ ["daily", "lifetime"] := rows ▸ List.mem_map_of_mem member
    rcases List.mem_pair.mp named with equal | equal
    · rw [equal]
      decide
    · rw [equal]
      decide
  -- The report does not depend on which credential was used.
  have shown : ∀ scope, (usage.scope scope).toUsageScopeFields =
      reportedScope (run Ledger.empty sampleReserved)
        (metadataPolicy reportingClient sampleCredential) 86400 scope := fun scope =>
    (fields scope).trans (by cases scope <;> rfl)
  refine (usage_agrees_with_admission sampleReserved reportingCallers reportingCaller true
    openWindow lastReservation reportingClient usage rfl reported unrefused ?_).1.mpr ?_
  · intro scope
    rw [shown scope]
    cases scope with
    | daily => decide +kernel
    | lifetime => decide +kernel
  · intro scope
    rw [shown scope]
    cases scope with
    | daily => exact ⟨by decide +kernel, by decide +kernel⟩
    | lifetime => exact ⟨by decide +kernel, by decide +kernel⟩

end Zangpu.Services.Metadata
