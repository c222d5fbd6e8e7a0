import Zangpu.Services.Quota.Conservation

/-!
Quota limits over whole runs.

Owns: the limits of a client by scope; the over-run of terminal operations; the
bound of a row's tokens by a ceiling and that over-run, kept by each ledger
transaction; and the invariant that every counter row is within its limits.

Does not own: changes of limits, which a run here leaves alone.
-/

set_option autoImplicit false

namespace Zangpu.Services.Quota

open Zangpu.Foundation
open Zangpu.Models

/-! ## Limits and over-runs -/

/-- The quota ceilings of one client. -/
structure QuotaLimits where
  dailyRequestLimit : Option Int
  dailyTokenLimit : Option Int
  totalRequestLimit : Option Int
  totalTokenLimit : Option Int
  deriving DecidableEq, Repr

namespace QuotaLimits

def ofClient (client : ApiClient) : QuotaLimits where
  dailyRequestLimit := client.dailyRequestLimit
  dailyTokenLimit := client.dailyTokenLimit
  totalRequestLimit := client.totalRequestLimit
  totalTokenLimit := client.totalTokenLimit

def requestLimit (limits : QuotaLimits) : QuotaScope → Option Int
  | .daily => limits.dailyRequestLimit
  | .lifetime => limits.totalRequestLimit

def tokenLimit (limits : QuotaLimits) : QuotaScope → Option Int
  | .daily => limits.dailyTokenLimit
  | .lifetime => limits.totalTokenLimit

end QuotaLimits

/-- Every reservation reads a client row with the given limits. -/
def LedgerCall.ReadsLimits (limits : String → QuotaLimits) : LedgerCall → Prop
  | .reserve callers _ =>
      ∀ client ∈ callers.clients.rows, QuotaLimits.ofClient client = limits client.id
  | _ => True

/-- Tokens an operation used beyond its reservation. -/
def overrunOf (operation : ApiCallOperation) : Int :=
  max 0 (operation.totalTokens - operation.reservedTokens)

/-- The over-run of the terminal operations of a list. -/
def totalOverrun (operations : List ApiCallOperation) : Int :=
  ((operations.filter fun operation => decide (operation.status ≠ .pending)).map overrunOf).sum

/-- What one operation adds to the over-run of a key. -/
def overrunShare (key : QuotaKey) (operation : ApiCallOperation) : Int :=
  if CountedUnder key operation ∧ operation.status ≠ .pending then overrunOf operation else 0

theorem overrunShare_nonneg (key : QuotaKey) (operation : ApiCallOperation) :
    0 ≤ overrunShare key operation := by
  unfold overrunShare overrunOf
  split
  · exact le_max_left _ _
  · exact le_refl _

theorem overrunShare_of_pending (key : QuotaKey) {operation : ApiCallOperation}
    (pending : operation.status = .pending) : overrunShare key operation = 0 := by
  unfold overrunShare
  rw [if_neg]
  exact fun both => both.2 pending

theorem total_overrunShare (ledger : Ledger) (key : QuotaKey) :
    ledger.operations.total (overrunShare key) =
      totalOverrun (ledger.operations.rows.filter fun operation =>
        decide (CountedUnder key operation)) := by
  unfold overrunShare totalOverrun
  rw [Table.total_ite _ (fun operation => CountedUnder key operation ∧
    operation.status ≠ .pending)]
  simp [List.filter_filter, Bool.and_comm]

/-! ## Admitted reservations -/

theorem admittedClient_ok {request : ReserveRequest} {callers : Callers} {client : ApiClient}
    (admitted : request.admittedClient callers = .ok client) :
    client ∈ callers.clients.rows ∧ client.id = request.apiClientId := by
  unfold ReserveRequest.admittedClient at admitted
  split at admitted
  · rename_i found _ clientFound _
    simp only [bind_ok_iff, require_ok_iff, pure, Except.pure, Except.ok.injEq] at admitted
    obtain ⟨_, _, _, _, _, _, _, _, _, _, _, _, rfl⟩ := admitted
    exact ⟨Table.mem_of_find? clientFound, Table.key_of_find? clientFound⟩
  · cases admitted

/-- A row of the prepared ledger is an old one or one of the two offered rows, which
count nothing yet. -/
theorem mem_preparedLedger_offered {ledger : Ledger} {request : ReserveRequest}
    {row : ApiClientQuotaUsage} (member : row ∈ (preparedLedger ledger request).quotas.rows) :
    row ∈ ledger.quotas.rows ∨
      (CountedUnder row.key (pendingOperation request) ∧ row.tokenConsumed = 0) := by
  have offered : ∀ (table : Table ApiClientQuotaUsage ApiClientQuotaUsage.key) added,
      row ∈ (table.insertNew added).rows → row ∈ table.rows ∨ row = added := by
    intro table added inside
    cases found : table.find? added.key with
    | none => exact (Table.mem_insertNew found).mp inside
    | some old =>
        rw [Table.insertNew_occupied found] at inside
        exact Or.inl inside
  rcases offered _ _ member with inside | equal
  · rcases offered _ _ inside with old | equal
    · exact Or.inl old
    · exact Or.inr (equal ▸ ⟨rfl, rfl⟩)
  · exact Or.inr (equal ▸ ⟨rfl, rfl⟩)

theorem mem_preparedLedger {ledger : Ledger} {request : ReserveRequest}
    {row : ApiClientQuotaUsage} (member : row ∈ (preparedLedger ledger request).quotas.rows) :
    row ∈ ledger.quotas.rows ∨ CountedUnder row.key (pendingOperation request) :=
  (mem_preparedLedger_offered member).imp_right And.left

/-- A row that counts a pending operation belongs to the operation's client. -/
theorem countedUnder_client {row : ApiClientQuotaUsage} {operation : ApiCallOperation}
    (counted : CountedUnder row.key operation) : row.apiClientId = operation.apiClientId := by
  rcases countedUnder_iff.mp counted with equal | equal
  · exact congrArg QuotaKey.apiClientId equal
  · exact congrArg QuotaKey.apiClientId equal

/-- The row a reservation counts on passed the check of its scope. -/
theorem Admitted.checked {callers : Callers} {ledger : Ledger} {request : ReserveRequest}
    {client : ApiClient} {rows : QuotaRows}
    (admitted : Admitted callers ledger request client rows) {row : ApiClientQuotaUsage}
    (member : row ∈ (preparedLedger ledger request).quotas.rows)
    (counted : CountedUnder row.key (pendingOperation request)) :
    (∀ limit ∈ (QuotaLimits.ofClient client).requestLimit row.scope,
        row.requestCount + 1 ≤ limit) ∧
      (∀ limit ∈ (QuotaLimits.ofClient client).tokenLimit row.scope,
        row.tokenConsumed + row.tokenReserved + request.reservedTokens ≤ limit) ∧
      row.tokenConsumed + row.tokenReserved + request.reservedTokens ≤ signedBigintMax := by
  have stored := Table.find?_of_mem member
  rcases countedUnder_iff.mp counted with daily | lifetime
  · have same : rows.daily = row := by
      have found := admitted.daily
      rw [daily] at stored
      exact Option.some.inj (found.symm.trans stored)
    have scope : row.scope = .daily := congrArg QuotaKey.scope daily
    have passed := checkQuotaLimit_ok_iff.mp admitted.dailyLimit
    rw [same] at passed
    rw [scope]
    exact passed
  · have same : rows.lifetime = row := by
      have found := admitted.lifetime
      rw [lifetime] at stored
      exact Option.some.inj (found.symm.trans stored)
    have scope : row.scope = .lifetime := congrArg QuotaKey.scope lifetime
    have passed := checkQuotaLimit_ok_iff.mp admitted.lifetimeLimit
    rw [same] at passed
    rw [scope]
    exact passed

/-! ## Tokens under a ceiling -/

/-- The tokens of every row with a ceiling are below it, up to the over-run of
the row's scope. -/
def TokensBelow (ceiling : QuotaKey → Option Int) (ledger : Ledger) : Prop :=
  ∀ row ∈ ledger.quotas.rows, ∀ limit ∈ ceiling row.key,
    row.tokenConsumed + row.tokenReserved ≤
      limit + ledger.operations.total (overrunShare row.key)

theorem tokensBelow_empty (ceiling : QuotaKey → Option Int) :
    TokensBelow ceiling Ledger.empty := by
  intro row member
  cases member

theorem TokensBelow.reserved {ceiling : QuotaKey → Option Int} {callers : Callers}
    {ledger : Ledger} {request : ReserveRequest} {client : ApiClient} {rows : QuotaRows}
    (below : TokensBelow ceiling ledger)
    (admitted : Admitted callers ledger request client rows)
    (checked : ∀ row ∈ (preparedLedger ledger request).quotas.rows,
      CountedUnder row.key (pendingOperation request) → ∀ limit ∈ ceiling row.key,
        row.tokenConsumed + row.tokenReserved + request.reservedTokens ≤ limit) :
    TokensBelow ceiling (reservedLedger ledger request) := by
  have fresh : ledger.operations.find? (pendingOperation request).id = none :=
    admitted.newOperation
  have sameOverrun : ∀ key, (reservedLedger ledger request).operations.total (overrunShare key) =
      ledger.operations.total (overrunShare key) := by
    intro key
    simp only [reservedLedger, Table.total_insertNew _ fresh,
      overrunShare_of_pending key (rfl : (pendingOperation request).status = .pending), add_zero]
  have nonneg : ∀ key, 0 ≤ ledger.operations.total (overrunShare key) := fun key =>
    Table.total_nonneg fun operation _ => overrunShare_nonneg key operation
  intro row member limit limited
  rw [sameOverrun]
  obtain ⟨old, oldMember, rowEq⟩ := mem_updateQuotaRows (pendingOperation request) member
  by_cases counted : CountedUnder old.key (pendingOperation request)
  · rw [if_pos counted] at rowEq
    subst rowEq
    have bound := checked old oldMember counted limit limited
    have overrun := nonneg (reserveRow request.reservedTokens request.now old).key
    simp only [reserveRow] at overrun ⊢
    omega
  · rw [if_neg counted] at rowEq
    subst rowEq
    have stored := (mem_preparedLedger oldMember).resolve_right counted
    exact below row stored limit limited

theorem TokensBelow.pendingUpdate {ceiling : QuotaKey → Option Int} {ledger : Ledger}
    (below : TokensBelow ceiling ledger) {operation : ApiCallOperation}
    {change : ApiCallOperation → ApiCallOperation} (harmless : KeepsAccounting change)
    (found : ledger.operations.find? operation.id = some operation)
    (pending : operation.status = .pending) :
    TokensBelow ceiling (updateOperation ledger operation.id change harmless.id) := by
  intro row member limit limited
  have stillPending : (change operation).status = .pending :=
    (harmless.status operation).trans pending
  simp only [updateOperation, Table.total_modify _ found, overrunShare_of_pending row.key pending,
    overrunShare_of_pending row.key stillPending, sub_zero, add_zero]
  exact below row member limit limited

theorem TokensBelow.finalized {ceiling : QuotaKey → Option Int} {ledger : Ledger}
    (below : TokensBelow ceiling ledger) {eventId : String} {operation : ApiCallOperation}
    {rows : QuotaRows} {terminal : OperationTerminal}
    (found : ledger.operations.find? operation.id = some operation)
    (guards : Finalizable ledger eventId operation rows terminal) :
    TokensBelow ceiling (finalizedLedger ledger eventId operation rows terminal) := by
  have terminalStatus : (terminalOperation terminal operation).status ≠ .pending := by
    simp only [terminalOperation]
    cases terminal.status <;> decide
  intro row member limit limited
  obtain ⟨old, oldMember, rowEq⟩ := mem_updateQuotaRows operation member
  have sameKey : row.key = old.key := by
    rw [rowEq]
    split <;> rfl
  rw [sameKey] at limited
  have before := below old oldMember limit limited
  have sameCounted : CountedUnder old.key (terminalOperation terminal operation) ↔
      CountedUnder old.key operation := Iff.rfl
  rw [sameKey]
  simp only [finalizedLedger, markTerminal, updateOperation, Table.total_modify _ found,
    overrunShare_of_pending old.key guards.pending, sub_zero]
  simp only [overrunShare, sameCounted, terminalStatus, ne_eq, not_false_eq_true, and_true]
  rw [rowEq]
  by_cases counted : CountedUnder old.key operation
  · -- The reservation is swapped for the actual tokens; the difference is the over-run.
    have swapped : operation.totalTokens - operation.reservedTokens ≤
        overrunOf (terminalOperation terminal operation) := le_max_right _ _
    rw [if_pos counted, if_pos counted]
    simp only [finalizeRow]
    omega
  · rw [if_neg counted, if_neg counted]
    omega

/-- A committed call keeps the tokens below the ceiling when a reservation
checks against it. -/
theorem TokensBelow.transact {ceiling : QuotaKey → Option Int} {ledger after : Ledger}
    (below : TokensBelow ceiling ledger) {call : LedgerCall}
    (checked : ∀ callers request client rows, call = .reserve callers request →
      Admitted callers ledger request client rows →
      ∀ row ∈ (preparedLedger ledger request).quotas.rows,
        CountedUnder row.key (pendingOperation request) → ∀ limit ∈ ceiling row.key,
          row.tokenConsumed + row.tokenReserved + request.reservedTokens ≤ limit)
    (committed : call.transact ledger = .ok after) : TokensBelow ceiling after := by
  cases call with
  | reserve callers request =>
      obtain ⟨reservation, reserved⟩ := snd_map_ok committed
      obtain ⟨client, rows, admitted, rfl⟩ := reserveOperation_ok reserved
      exact below.reserved admitted (checked callers request client rows rfl admitted)
  | recordCredit operationId settlementId usageOperationId now =>
      obtain ⟨operation, found, pending, outcome⟩ := recordCreditReservation_ok committed
      obtain rfl := Table.key_of_find? found
      rcases outcome with ⟨_, _, rfl⟩ | ⟨_, _, rfl⟩
      · exact below
      · exact below.pendingUpdate (keepsAccounting_creditRow _ _ _) found pending
  | recordUsage operationId promptTokens completionTokens now =>
      obtain ⟨_, _, operation, ⟨found, pending⟩, _, rfl⟩ :=
        recordProviderUsage_ok_iff.mp committed
      obtain rfl := Table.key_of_find? found
      exact below.pendingUpdate (keepsAccounting_usageRow _ _ _) found pending
  | touch operationId now =>
      obtain ⟨touched, result⟩ := snd_map_ok committed
      obtain ⟨operation, found, outcome⟩ := touchPendingOperation_ok result
      obtain rfl := Table.key_of_find? found
      rcases outcome with ⟨pending, _, rfl⟩ | ⟨_, _, rfl⟩
      · exact below.pendingUpdate (keepsAccounting_touchRow _) found pending
      · exact below
  | finalize operationId eventId terminal =>
      obtain ⟨snapshot, result⟩ := snd_map_ok committed
      obtain ⟨operation, rows, found, _, _, _, outcome⟩ := finalizeOperation_ok_iff.mp result
      rcases outcome with ⟨_, _, _, _, _, _, rfl⟩ | ⟨guards, _, rfl⟩
      · exact below
      · obtain rfl := Table.key_of_find? found
        exact below.finalized found guards

/-! ## The invariant -/

/-- Every counter row is within its limits, up to the over-run of its scope. -/
structure WithinLimits (limits : String → QuotaLimits) (ledger : Ledger) : Prop where
  requests : ∀ row ∈ ledger.quotas.rows,
    ∀ limit ∈ (limits row.apiClientId).requestLimit row.scope, row.requestCount ≤ limit
  tokens : ∀ row ∈ ledger.quotas.rows,
    ∀ limit ∈ (limits row.apiClientId).tokenLimit row.scope,
      row.tokenConsumed + row.tokenReserved ≤
        limit + ledger.operations.total (overrunShare row.key)

theorem withinLimits_empty (limits : String → QuotaLimits) :
    WithinLimits limits Ledger.empty where
  requests := by intro row member; cases member
  tokens := by intro row member; cases member

/-! ### Requests -/

theorem WithinLimits.requests_reserved {limits : String → QuotaLimits} {callers : Callers}
    {ledger : Ledger} {request : ReserveRequest} {client : ApiClient} {rows : QuotaRows}
    (within : WithinLimits limits ledger)
    (admitted : Admitted callers ledger request client rows)
    (constant : QuotaLimits.ofClient client = limits request.apiClientId) :
    ∀ row ∈ (reservedLedger ledger request).quotas.rows,
      ∀ limit ∈ (limits row.apiClientId).requestLimit row.scope, row.requestCount ≤ limit := by
  intro row member limit limited
  obtain ⟨old, oldMember, rowEq⟩ := mem_updateQuotaRows (pendingOperation request) member
  by_cases counted : CountedUnder old.key (pendingOperation request)
  · rw [if_pos counted] at rowEq
    subst rowEq
    have sameClient : old.apiClientId = request.apiClientId := countedUnder_client counted
    have bound := (admitted.checked oldMember counted).1 limit
    rw [constant, ← sameClient] at bound
    exact bound limited
  · rw [if_neg counted] at rowEq
    subst rowEq
    have stored := (mem_preparedLedger oldMember).resolve_right counted
    exact within.requests row stored limit limited

theorem WithinLimits.requests_finalized {limits : String → QuotaLimits} {ledger : Ledger}
    (within : WithinLimits limits ledger) (eventId : String) (operation : ApiCallOperation)
    (rows : QuotaRows) (terminal : OperationTerminal) :
    ∀ row ∈ (finalizedLedger ledger eventId operation rows terminal).quotas.rows,
      ∀ limit ∈ (limits row.apiClientId).requestLimit row.scope, row.requestCount ≤ limit := by
  intro row member limit limited
  obtain ⟨old, oldMember, rowEq⟩ := mem_updateQuotaRows operation member
  have sameCount : row.requestCount = old.requestCount := by
    rw [rowEq]
    split <;> rfl
  have sameKey : row.key = old.key := by
    rw [rowEq]
    split <;> rfl
  have sameClient : row.apiClientId = old.apiClientId := congrArg QuotaKey.apiClientId sameKey
  have sameScope : row.scope = old.scope := congrArg QuotaKey.scope sameKey
  rw [sameCount]
  rw [sameClient, sameScope] at limited
  exact within.requests old oldMember limit limited

/-! ## Runs -/

/-- Every committed call that reads the limits keeps the invariant. -/
theorem WithinLimits.transact {limits : String → QuotaLimits} {ledger after : Ledger}
    (within : WithinLimits limits ledger) {call : LedgerCall}
    (reads : call.ReadsLimits limits) (committed : call.transact ledger = .ok after) :
    WithinLimits limits after := by
  have constant : ∀ callers request client rows, call = .reserve callers request →
      Admitted callers ledger request client rows →
      QuotaLimits.ofClient client = limits request.apiClientId := by
    intro callers request client rows named admitted
    subst named
    obtain ⟨member, sameId⟩ := admittedClient_ok admitted.caller
    exact sameId ▸ reads client member
  constructor
  · cases call with
    | reserve callers request =>
        obtain ⟨reservation, reserved⟩ := snd_map_ok committed
        obtain ⟨client, rows, admitted, rfl⟩ := reserveOperation_ok reserved
        exact within.requests_reserved admitted (constant _ _ _ _ rfl admitted)
    | recordCredit operationId settlementId usageOperationId now =>
        obtain ⟨_, _, _, ⟨_, _, rfl⟩ | ⟨_, _, rfl⟩⟩ := recordCreditReservation_ok committed
        · exact within.requests
        · exact within.requests
    | recordUsage operationId promptTokens completionTokens now =>
        obtain ⟨_, _, _, _, _, rfl⟩ := recordProviderUsage_ok_iff.mp committed
        exact within.requests
    | touch operationId now =>
        obtain ⟨touched, result⟩ := snd_map_ok committed
        obtain ⟨_, _, ⟨_, _, rfl⟩ | ⟨_, _, rfl⟩⟩ := touchPendingOperation_ok result
        · exact within.requests
        · exact within.requests
    | finalize operationId eventId terminal =>
        obtain ⟨snapshot, result⟩ := snd_map_ok committed
        obtain ⟨operation, rows, _, _, _, _, outcome⟩ := finalizeOperation_ok_iff.mp result
        rcases outcome with ⟨_, _, _, _, _, _, rfl⟩ | ⟨_, _, rfl⟩
        · exact within.requests
        · exact within.requests_finalized eventId operation rows terminal
  · have below : TokensBelow (fun key => (limits key.apiClientId).tokenLimit key.scope) ledger :=
      within.tokens
    refine below.transact ?_ committed
    intro callers request client rows named admitted row member counted limit limited
    have sameClient : row.apiClientId = request.apiClientId := countedUnder_client counted
    have bound := (admitted.checked member counted).2.1 limit
    rw [constant _ _ _ _ named admitted, ← sameClient] at bound
    exact bound limited

theorem WithinLimits.run {limits : String → QuotaLimits} {ledger : Ledger}
    (within : WithinLimits limits ledger) (calls : List LedgerCall)
    (reads : ∀ call ∈ calls, call.ReadsLimits limits) :
    WithinLimits limits (run ledger calls) :=
  run_invariant (fun read before committed => before.transact read committed) within calls reads

/-- **Admission never exceeds the quota.** After any sequence of ledger calls from
the empty ledger that read constant limits, every counter row of a client, daily
or lifetime, is within its request limit, and within its token limit up to what
the terminal operations of its scope used beyond their reservations. -/
theorem admission_never_exceeds_quota (limits : String → QuotaLimits) (calls : List LedgerCall)
    (constant : ∀ call ∈ calls, call.ReadsLimits limits) :
    ∀ row ∈ (run Ledger.empty calls).quotas.rows,
      (∀ limit ∈ (limits row.apiClientId).requestLimit row.scope, row.requestCount ≤ limit) ∧
      (∀ limit ∈ (limits row.apiClientId).tokenLimit row.scope,
        row.tokenConsumed + row.tokenReserved ≤
          limit + totalOverrun ((run Ledger.empty calls).operations.rows.filter fun operation =>
            decide (CountedUnder row.key operation))) ∧
      ((∀ operation ∈ (run Ledger.empty calls).operations.rows,
          CountedUnder row.key operation → operation.status ≠ .pending →
            operation.totalTokens ≤ operation.reservedTokens) →
        ∀ limit ∈ (limits row.apiClientId).tokenLimit row.scope,
          row.tokenConsumed + row.tokenReserved ≤ limit) := by
  have within := (withinLimits_empty limits).run calls constant
  intro row member
  refine ⟨within.requests row member, ?_, ?_⟩
  · intro limit limited
    rw [← total_overrunShare]
    exact within.tokens row member limit limited
  · intro noOverrun limit limited
    have bound := within.tokens row member limit limited
    have none : (run Ledger.empty calls).operations.total (overrunShare row.key) = 0 := by
      refine Table.total_zero fun operation operationMember => ?_
      unfold overrunShare overrunOf
      split
      · rename_i counted
        have fits := noOverrun operation operationMember counted.1 counted.2
        omega
      · rfl
    omega

/-- One active client with at most two requests and 100 tokens a day. -/
def sampleClient : ApiClient where
  id := "client"
  name := "client"
  description := none
  status := .active
  allowedEndpoints := ["chat.completions"]
  allowedModels := ["model"]
  groupIds := []
  qpsLimit := 10
  concurrencyLimit := 2
  dailyRequestLimit := some 2
  dailyTokenLimit := some 100
  totalRequestLimit := none
  totalTokenLimit := some 1000
  maxOutputTokensPerRequest := 64
  version := 1
  createdBy := "admin"
  updatedBy := "admin"
  createdAt := 0
  updatedAt := 0
  disabledAt := none

def sampleCredential : ApiClientCredential where
  id := "credential"
  apiClientId := "client"
  keyId := "key"
  status := .active
  expiresAt := none
  replacedById := none
  createdBy := "admin"
  revokedBy := none
  createdAt := 0
  revokedAt := none

def sampleCallers : Callers where
  clients := Table.empty.insertNew sampleClient
  credentials := Table.empty.insertNew sampleCredential
  bindings := .empty

def sampleReservation (operationId clientRequestId : String) : ReserveRequest where
  apiClientId := "client"
  credentialId := "credential"
  operationId := operationId
  clientRequestId := clientRequestId
  requestFingerprint := String.ofList (List.replicate 64 'a')
  modelId := "model"
  stream := false
  reservedTokens := 60
  now := 86400
  dailyRowId := "daily"
  lifetimeRowId := "lifetime"

/-- Two reservations, of which the second does not fit the daily tokens, and an
over-run of the first. -/
def sampleCalls : List LedgerCall :=
  [.reserve sampleCallers (sampleReservation "first" "request-number-one"),
    .reserve sampleCallers (sampleReservation "second" "request-number-two"),
    .recordUsage "first" 50 70 86401]

theorem admission_never_exceeds_quota_sample :
    (run Ledger.empty sampleCalls).operations.rows.map ApiCallOperation.totalTokens = [120] ∧
      ∀ row ∈ (run Ledger.empty sampleCalls).quotas.rows,
        ∀ limit ∈ (QuotaLimits.ofClient sampleClient).requestLimit row.scope,
          row.requestCount ≤ limit := by
  have constant : ∀ call ∈ sampleCalls,
      call.ReadsLimits fun _ => QuotaLimits.ofClient sampleClient := by
    intro call member
    have read : ∀ client ∈ sampleCallers.clients.rows,
        QuotaLimits.ofClient client = QuotaLimits.ofClient sampleClient := by decide
    simp only [sampleCalls, List.mem_cons, List.not_mem_nil, or_false] at member
    rcases member with rfl | rfl | rfl
    · exact read
    · exact read
    · trivial
  refine ⟨by decide +kernel, ?_⟩
  intro row member
  exact (admission_never_exceeds_quota _ sampleCalls constant row member).1

end Zangpu.Services.Quota
