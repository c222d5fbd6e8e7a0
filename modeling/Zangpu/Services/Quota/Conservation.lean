import Zangpu.Services.Quota.Transactions

/-!
Conservation of the quota ledger.

Owns: the conservation invariant, which ties both counter rows of every scope to
sums over the operation table and every operation to its terminal evidence; its
preservation by each transaction; runs of ledger calls in any order; and the
resulting statement about every reachable ledger.

Does not own: quota limits, which bound the counters but do not define them.
-/

set_option autoImplicit false

namespace Zangpu.Services.Quota

open Zangpu.Foundation
open Zangpu.Models

/-! ## What the operation table implies about a quota row -/

/-- An operation is counted under a quota key. -/
def CountedUnder (key : QuotaKey) (operation : ApiCallOperation) : Prop :=
  operation.quotaKey key.scope = key

instance (key : QuotaKey) : DecidablePred (CountedUnder key) := fun operation =>
  inferInstanceAs (Decidable (operation.quotaKey key.scope = key))

theorem countedUnder_lifetime {client : String} {operation : ApiCallOperation} :
    CountedUnder ⟨client, .lifetime, 0⟩ operation ↔ operation.apiClientId = client := by
  simp [CountedUnder, ApiCallOperation.quotaKey]

theorem countedUnder_daily {client : String} {day : Int} {operation : ApiCallOperation} :
    CountedUnder ⟨client, .daily, day⟩ operation ↔
      operation.apiClientId = client ∧ dayStart operation.startedAt = day := by
  simp [CountedUnder, ApiCallOperation.quotaKey]

/-- The three counters of one scope. -/
structure Tally where
  requestCount : Int
  tokenReserved : Int
  tokenConsumed : Int
  deriving DecidableEq, Repr

/-- The counters that a list of operations implies. -/
def tallyOf (operations : List ApiCallOperation) : Tally where
  requestCount := operations.length
  tokenReserved :=
    ((operations.filter fun operation => decide (operation.status = .pending)).map
      ApiCallOperation.reservedTokens).sum
  tokenConsumed :=
    ((operations.filter fun operation => decide (operation.status ≠ .pending)).map
      ApiCallOperation.totalTokens).sum

def tallyOfRow (row : ApiClientQuotaUsage) : Tally :=
  ⟨row.requestCount, row.tokenReserved, row.tokenConsumed⟩

/-- What one operation adds to the request counter of a key. -/
def requestShare (key : QuotaKey) (operation : ApiCallOperation) : Int :=
  if CountedUnder key operation then 1 else 0

/-- What one operation adds to the reserved tokens of a key. -/
def reservedShare (key : QuotaKey) (operation : ApiCallOperation) : Int :=
  if CountedUnder key operation ∧ operation.status = .pending then operation.reservedTokens else 0

/-- What one operation adds to the consumed tokens of a key. -/
def consumedShare (key : QuotaKey) (operation : ApiCallOperation) : Int :=
  if CountedUnder key operation ∧ operation.status ≠ .pending then operation.totalTokens else 0

/-- The counters implied for a key, as column totals. -/
def impliedTally (ledger : Ledger) (key : QuotaKey) : Tally where
  requestCount := ledger.operations.total (requestShare key)
  tokenReserved := ledger.operations.total (reservedShare key)
  tokenConsumed := ledger.operations.total (consumedShare key)

theorem impliedTally_eq (ledger : Ledger) (key : QuotaKey) :
    impliedTally ledger key =
      tallyOf (ledger.operations.rows.filter fun operation =>
        decide (CountedUnder key operation)) := by
  simp only [impliedTally, tallyOf, Tally.mk.injEq, List.filter_filter]
  refine ⟨?_, ?_, ?_⟩
  · unfold requestShare
    rw [Table.total_ite _ (CountedUnder key) (fun _ => 1)]
    simp
  · unfold reservedShare
    rw [Table.total_ite _ (fun operation => CountedUnder key operation ∧
      operation.status = .pending)]
    simp [Bool.and_comm]
  · unfold consumedShare
    rw [Table.total_ite _ (fun operation => CountedUnder key operation ∧
      operation.status ≠ .pending)]
    simp [Bool.and_comm]

/-! ## The invariant -/

/-- Number of terminal events of one operation. -/
def evidenceCount (ledger : Ledger) (operationId : String) : Int :=
  ledger.events.total fun event => if event.operationId = some operationId then 1 else 0

/-- The conservation invariant of the ledger. -/
structure Conserved (ledger : Ledger) : Prop where
  counted : ∀ row ∈ ledger.quotas.rows, tallyOfRow row = impliedTally ledger row.key
  covered : ∀ operation ∈ ledger.operations.rows, ∀ scope,
    (ledger.quotas.find? (operation.quotaKey scope)).isSome
  checked : ∀ row ∈ ledger.quotas.rows, scopePeriodCheck row.key
  requestUnique : ∀ left ∈ ledger.operations.rows, ∀ right ∈ ledger.operations.rows,
    left.apiClientId = right.apiClientId → left.clientRequestId = right.clientRequestId →
      left = right
  evidence : ∀ operation ∈ ledger.operations.rows,
    evidenceCount ledger operation.id = if operation.status = .pending then 0 else 1
  owned : ∀ event ∈ ledger.events.rows, ∃ operation ∈ ledger.operations.rows,
    event.operationId = some operation.id

theorem conserved_empty : Conserved Ledger.empty where
  counted := by intro row member; cases member
  covered := by intro operation member; cases member
  checked := by intro row member; cases member
  requestUnique := by intro left member; cases member
  evidence := by intro operation member; cases member
  owned := by intro event member; cases member

/-- No operation is counted under a key without a row. -/
theorem Conserved.uncounted {ledger : Ledger} (conserved : Conserved ledger) {key : QuotaKey}
    (absent : ledger.quotas.find? key = none) {operation : ApiCallOperation}
    (member : operation ∈ ledger.operations.rows) : ¬ CountedUnder key operation := by
  intro counted
  have present := conserved.covered operation member key.scope
  rw [counted, absent] at present
  cases present

/-- An unused operation identifier has no evidence. -/
theorem Conserved.no_evidence {ledger : Ledger} (conserved : Conserved ledger)
    {operationId : String} (absent : ledger.operations.find? operationId = none) :
    ∀ event ∈ ledger.events.rows, event.operationId ≠ some operationId := by
  intro event member owner
  obtain ⟨operation, operationMember, named⟩ := conserved.owned event member
  rw [owner, Option.some.injEq] at named
  exact (Table.find?_none_iff _ _).mp absent operation operationMember named.symm

/-- Evidence counts of one operation when no event names it. -/
theorem evidenceCount_eq_zero {ledger : Ledger} {operationId : String}
    (none : ∀ event ∈ ledger.events.rows, event.operationId ≠ some operationId) :
    evidenceCount ledger operationId = 0 :=
  Table.total_zero fun event member => if_neg (none event member)

/-! ## Quota rows -/

/-- Offering a fresh zero row keeps the invariant. -/
theorem Conserved.insertRow {ledger : Ledger} (conserved : Conserved ledger) (rowId : String)
    {key : QuotaKey} (check : scopePeriodCheck key) (now : Int) :
    Conserved { ledger with quotas := ledger.quotas.insertNew (freshQuotaRow rowId key now) } := by
  cases found : ledger.quotas.find? key with
  | some row =>
      have occupied : ledger.quotas.find? (freshQuotaRow rowId key now).key = some row := found
      rw [Table.insertNew_occupied occupied]
      exact conserved
  | none =>
      have fresh : ledger.quotas.find? (freshQuotaRow rowId key now).key = none := found
      refine ⟨?_, ?_, ?_, conserved.requestUnique, conserved.evidence, conserved.owned⟩
      · intro row member
        rcases (Table.mem_insertNew fresh).mp member with old | equal
        · exact conserved.counted row old
        · subst equal
          have uncounted := fun operation (operationMember : operation ∈ ledger.operations.rows) =>
            conserved.uncounted found operationMember
          simp only [tallyOfRow, impliedTally, freshQuotaRow, Tally.mk.injEq]
          refine ⟨?_, ?_, ?_⟩
          · exact (Table.total_zero fun operation operationMember =>
              if_neg (uncounted operation operationMember)).symm
          · exact (Table.total_zero fun operation operationMember =>
              if_neg fun both => uncounted operation operationMember both.1).symm
          · exact (Table.total_zero fun operation operationMember =>
              if_neg fun both => uncounted operation operationMember both.1).symm
      · intro operation member scope
        obtain ⟨row, rowFound⟩ := Option.isSome_iff_exists.mp
          (conserved.covered operation member scope)
        rw [Table.find?_insertNew_of_some rowFound]
        rfl
      · intro row member
        rcases (Table.mem_insertNew fresh).mp member with old | equal
        · exact conserved.checked row old
        · exact equal ▸ check

theorem Conserved.prepared {ledger : Ledger} (conserved : Conserved ledger)
    {request : ReserveRequest}
    (check : scopePeriodCheck ⟨request.apiClientId, .daily, dayStart request.now⟩) :
    Conserved (preparedLedger ledger request) :=
  (conserved.insertRow request.dailyRowId check request.now).insertRow request.lifetimeRowId
    (Or.inr ⟨rfl, rfl⟩) request.now

theorem countedUnder_iff {key : QuotaKey} {operation : ApiCallOperation} :
    CountedUnder key operation ↔
      key = operation.quotaKey .daily ∨ key = operation.quotaKey .lifetime := by
  unfold CountedUnder
  constructor
  · intro counted
    rw [← counted]
    cases key.scope
    · exact Or.inl rfl
    · exact Or.inr rfl
  · rintro (rfl | rfl) <;> rfl

/-- A row update on the two rows of an operation reaches exactly the rows that
count the operation. -/
theorem mem_updateQuotaRows {ledger : Ledger} (operation : ApiCallOperation)
    {change : ApiClientQuotaUsage → ApiClientQuotaUsage}
    {keeps : ∀ row, (change row).key = row.key} {row : ApiClientQuotaUsage}
    (member : row ∈ (updateQuotaRows ledger operation.apiClientId
      (dayStart operation.startedAt) change keeps).quotas.rows) :
    ∃ old ∈ ledger.quotas.rows,
      row = if CountedUnder old.key operation then change old else old := by
  obtain ⟨middle, middleMember, rowEq⟩ := (Table.mem_modify keeps).mp member
  obtain ⟨old, oldMember, middleEq⟩ := (Table.mem_modify keeps).mp middleMember
  refine ⟨old, oldMember, ?_⟩
  have sameKey : middle.key = old.key := by
    rw [middleEq]
    split
    · exact keeps old
    · rfl
  change row = if middle.key = operation.quotaKey .lifetime then change middle else middle at rowEq
  change middle = if old.key = operation.quotaKey .daily then change old else old at middleEq
  rw [sameKey] at rowEq
  rw [rowEq, middleEq]
  by_cases isDaily : old.key = operation.quotaKey .daily
  · -- The daily row is not also the lifetime row: their scopes differ.
    have notLifetime : old.key ≠ operation.quotaKey .lifetime := by
      intro isLifetime
      have sameScope := congrArg QuotaKey.scope (isDaily.symm.trans isLifetime)
      simp at sameScope
    rw [if_pos (countedUnder_iff.mpr (Or.inl isDaily)), if_pos isDaily]
    exact if_neg notLifetime
  · rw [if_neg isDaily]
    refine if_congr ?_ rfl rfl
    rw [countedUnder_iff]
    exact ⟨Or.inr, fun either => either.resolve_left isDaily⟩

theorem find?_updateQuotaRows {ledger : Ledger} {client : String} {day : Int}
    {change : ApiClientQuotaUsage → ApiClientQuotaUsage}
    {keeps : ∀ row, (change row).key = row.key} {key : QuotaKey}
    (present : (ledger.quotas.find? key).isSome) :
    ((updateQuotaRows ledger client day change keeps).quotas.find? key).isSome := by
  have kept : ∀ (table : Table ApiClientQuotaUsage ApiClientQuotaUsage.key) wanted,
      (table.find? key).isSome → ((table.modify wanted change keeps).find? key).isSome := by
    intro table wanted found
    obtain ⟨row, rowFound⟩ := Option.isSome_iff_exists.mp found
    by_cases same : wanted = key
    · subst same
      rw [Table.find?_modify_same rowFound]
      rfl
    · rw [Table.find?_modify_of_ne same, rowFound]
      rfl
  exact kept _ _ (kept _ _ present)

/-! ## Reservation -/

theorem Conserved.reserved {callers : Callers} {ledger : Ledger} {request : ReserveRequest}
    {client : ApiClient} {rows : QuotaRows} (conserved : Conserved ledger)
    (admitted : Admitted callers ledger request client rows) :
    Conserved (reservedLedger ledger request) := by
  have prepared := conserved.prepared admitted.dailyCheck
  have fresh : ledger.operations.find? (pendingOperation request).id = none :=
    admitted.newOperation
  refine ⟨?_, ?_, ?_, ?_, ?_, ?_⟩
  · intro row member
    obtain ⟨old, oldMember, rowEq⟩ :=
      mem_updateQuotaRows (pendingOperation request) member
    have oldCounted := prepared.counted old oldMember
    have sameKey : row.key = old.key := by
      rw [rowEq]
      split <;> rfl
    simp only [tallyOfRow, impliedTally, Tally.mk.injEq] at oldCounted
    rw [sameKey]
    simp only [tallyOfRow, impliedTally, reservedLedger, Table.total_insertNew _ fresh,
      Tally.mk.injEq]
    obtain ⟨requests, reserved, consumed⟩ := oldCounted
    simp only [preparedLedger] at requests reserved consumed
    rw [← requests, ← reserved, ← consumed, rowEq]
    by_cases counted : CountedUnder old.key (pendingOperation request)
    · have pending : (pendingOperation request).status = .pending := rfl
      have tokens : (pendingOperation request).reservedTokens = request.reservedTokens := rfl
      rw [if_pos counted]
      simp [requestShare, reservedShare, consumedShare, counted, reserveRow, pending, tokens]
    · rw [if_neg counted]
      simp [requestShare, reservedShare, consumedShare, counted]
  · intro operation member scope
    rcases (Table.mem_insertNew fresh).mp member with old | equal
    · exact find?_updateQuotaRows (prepared.covered operation old scope)
    · subst equal
      apply find?_updateQuotaRows
      cases scope with
      | daily => exact Option.isSome_iff_exists.mpr ⟨_, admitted.daily⟩
      | lifetime => exact Option.isSome_iff_exists.mpr ⟨_, admitted.lifetime⟩
  · intro row member
    obtain ⟨old, oldMember, rowEq⟩ :=
      mem_updateQuotaRows (pendingOperation request) member
    have oldChecked := prepared.checked old oldMember
    rw [rowEq]
    split
    · exact oldChecked
    · exact oldChecked
  · intro left leftMember right rightMember sameClient sameRequest
    rcases (Table.mem_insertNew fresh).mp leftMember with leftOld | rfl <;>
      rcases (Table.mem_insertNew fresh).mp rightMember with rightOld | rfl
    · exact conserved.requestUnique left leftOld right rightOld sameClient sameRequest
    · exact absurd sameRequest
        (Ledger.operationByRequest?_none admitted.newRequest leftOld sameClient)
    · exact absurd sameRequest.symm
        (Ledger.operationByRequest?_none admitted.newRequest rightOld sameClient.symm)
    · rfl
  · intro operation member
    rcases (Table.mem_insertNew fresh).mp member with old | equal
    · exact conserved.evidence operation old
    · subst equal
      exact evidenceCount_eq_zero (conserved.no_evidence admitted.newOperation)
  · intro event member
    obtain ⟨operation, operationMember, named⟩ := conserved.owned event member
    exact ⟨operation, Table.mem_insertNew_of_mem operationMember, named⟩

/-! ## Pending updates -/

/-- A row change that no counter and no identity depends on while the operation
stays pending. -/
structure KeepsAccounting (change : ApiCallOperation → ApiCallOperation) : Prop where
  id : ∀ row, (change row).id = row.id
  quotaKey : ∀ row, (change row).quotaKey = row.quotaKey
  status : ∀ row, (change row).status = row.status
  reservedTokens : ∀ row, (change row).reservedTokens = row.reservedTokens
  apiClientId : ∀ row, (change row).apiClientId = row.apiClientId
  clientRequestId : ∀ row, (change row).clientRequestId = row.clientRequestId

theorem keepsAccounting_creditRow (settlementId usageOperationId : String) (now : Int) :
    KeepsAccounting (creditRow settlementId usageOperationId now) :=
  ⟨fun _ => rfl, fun _ => rfl, fun _ => rfl, fun _ => rfl, fun _ => rfl, fun _ => rfl⟩

theorem keepsAccounting_usageRow (promptTokens completionTokens now : Int) :
    KeepsAccounting (usageRow promptTokens completionTokens now) :=
  ⟨fun _ => rfl, fun _ => rfl, fun _ => rfl, fun _ => rfl, fun _ => rfl, fun _ => rfl⟩

theorem keepsAccounting_touchRow (now : Int) : KeepsAccounting (touchRow now) :=
  ⟨fun _ => rfl, fun _ => rfl, fun _ => rfl, fun _ => rfl, fun _ => rfl, fun _ => rfl⟩

theorem Conserved.pendingUpdate {ledger : Ledger} (conserved : Conserved ledger)
    {operation : ApiCallOperation} {change : ApiCallOperation → ApiCallOperation}
    (harmless : KeepsAccounting change)
    (found : ledger.operations.find? operation.id = some operation)
    (pending : operation.status = .pending) :
    Conserved (updateOperation ledger operation.id change harmless.id) := by
  -- Every row of the updated table agrees with an old row on all that is counted.
  have source : ∀ row ∈ (ledger.operations.modify operation.id change harmless.id).rows,
      ∃ old ∈ ledger.operations.rows, row.id = old.id ∧ row.quotaKey = old.quotaKey ∧
        row.status = old.status ∧ row.apiClientId = old.apiClientId ∧
        row.clientRequestId = old.clientRequestId := by
    intro row member
    obtain ⟨old, oldMember, rowEq⟩ := (Table.mem_modify harmless.id).mp member
    refine ⟨old, oldMember, ?_⟩
    rw [rowEq]
    split
    · exact ⟨harmless.id old, harmless.quotaKey old, harmless.status old,
        harmless.apiClientId old, harmless.clientRequestId old⟩
    · exact ⟨rfl, rfl, rfl, rfl, rfl⟩
  have sameTally : ∀ key,
      impliedTally (updateOperation ledger operation.id change harmless.id) key =
        impliedTally ledger key := by
    intro key
    have sameCounted : CountedUnder key (change operation) ↔ CountedUnder key operation := by
      unfold CountedUnder
      rw [harmless.quotaKey]
    simp only [impliedTally, updateOperation, Table.total_modify _ found, Tally.mk.injEq,
      requestShare, reservedShare, consumedShare, sameCounted, harmless.status,
      harmless.reservedTokens, pending]
    simp
  refine ⟨?_, ?_, conserved.checked, ?_, ?_, ?_⟩
  · intro row member
    rw [sameTally]
    exact conserved.counted row member
  · intro row member scope
    obtain ⟨old, oldMember, _, sameKey, _⟩ := source row member
    rw [sameKey]
    exact conserved.covered old oldMember scope
  · intro left leftMember right rightMember sameClient sameRequest
    obtain ⟨oldLeft, oldLeftMember, leftId, _, _, leftClient, leftRequest⟩ :=
      source left leftMember
    obtain ⟨oldRight, oldRightMember, rightId, _, _, rightClient, rightRequest⟩ :=
      source right rightMember
    have sameOld := conserved.requestUnique oldLeft oldLeftMember oldRight oldRightMember
      (leftClient.symm.trans (sameClient.trans rightClient))
      (leftRequest.symm.trans (sameRequest.trans rightRequest))
    exact Table.eq_of_key_eq leftMember rightMember
      (leftId.trans ((congrArg ApiCallOperation.id sameOld).trans rightId.symm))
  · intro row member
    obtain ⟨old, oldMember, sameId, _, sameStatus, _⟩ := source row member
    rw [sameId, sameStatus]
    exact conserved.evidence old oldMember
  · intro event member
    obtain ⟨old, oldMember, named⟩ := conserved.owned event member
    refine ⟨_, (Table.mem_modify harmless.id).mpr ⟨old, oldMember, rfl⟩, ?_⟩
    split
    · rw [harmless.id]
      exact named
    · exact named

/-! ## Finalization -/

theorem Conserved.finalized {ledger : Ledger} (conserved : Conserved ledger)
    {eventId : String} {operation : ApiCallOperation} {rows : QuotaRows}
    {terminal : OperationTerminal}
    (found : ledger.operations.find? operation.id = some operation)
    (guards : Finalizable ledger eventId operation rows terminal) :
    Conserved (finalizedLedger ledger eventId operation rows terminal) := by
  have terminalStatus : (terminalOperation terminal operation).status ≠ .pending := by
    simp only [terminalOperation]
    cases terminal.status <;> decide
  have source : ∀ row ∈ (finalizedLedger ledger eventId operation rows terminal).operations.rows,
      ∃ old ∈ ledger.operations.rows, row.id = old.id ∧ row.quotaKey = old.quotaKey ∧
        row.apiClientId = old.apiClientId ∧ row.clientRequestId = old.clientRequestId ∧
        (old.id ≠ operation.id → row = old) ∧
        (old.id = operation.id → row = terminalOperation terminal old) := by
    intro row member
    obtain ⟨old, oldMember, rowEq⟩ := (Table.mem_modify (terminalOperation_id terminal)).mp member
    refine ⟨old, oldMember, ?_⟩
    by_cases same : old.id = operation.id
    · rw [if_pos same] at rowEq
      subst rowEq
      exact ⟨rfl, rfl, rfl, rfl, fun other => absurd same other, fun _ => rfl⟩
    · rw [if_neg same] at rowEq
      subst rowEq
      exact ⟨rfl, rfl, rfl, rfl, fun _ => rfl, fun other => absurd other same⟩
  have freshEvent : ledger.events.find? (terminalEvent eventId operation
      ⟨finalizeRow operation terminal.completedAt rows.daily,
        finalizeRow operation terminal.completedAt rows.lifetime⟩ terminal).id = none :=
    guards.newEvent
  refine ⟨?_, ?_, ?_, ?_, ?_, ?_⟩
  · intro row member
    obtain ⟨old, oldMember, rowEq⟩ := mem_updateQuotaRows operation member
    have oldCounted := conserved.counted old oldMember
    have sameKey : row.key = old.key := by
      rw [rowEq]
      split <;> rfl
    simp only [tallyOfRow, impliedTally, Tally.mk.injEq] at oldCounted
    obtain ⟨requests, reserved, consumed⟩ := oldCounted
    have sameCounted : CountedUnder old.key (terminalOperation terminal operation) ↔
        CountedUnder old.key operation := Iff.rfl
    rw [sameKey]
    simp only [tallyOfRow, impliedTally, finalizedLedger, markTerminal, updateOperation,
      Table.total_modify _ found,
      Tally.mk.injEq, requestShare, reservedShare, consumedShare, sameCounted, terminalStatus,
      guards.pending]
    rw [← requests, ← reserved, ← consumed, rowEq]
    by_cases counted : CountedUnder old.key operation
    · have tokens : (terminalOperation terminal operation).totalTokens = operation.totalTokens :=
        rfl
      simp [counted, finalizeRow, tokens, terminalStatus, Int.sub_eq_add_neg]
    · simp [counted]
  · intro row member scope
    obtain ⟨old, oldMember, _, sameKey, _⟩ := source row member
    rw [sameKey]
    exact find?_updateQuotaRows (conserved.covered old oldMember scope)
  · intro row member
    obtain ⟨old, oldMember, rowEq⟩ := mem_updateQuotaRows operation member
    have oldChecked := conserved.checked old oldMember
    rw [rowEq]
    split
    · exact oldChecked
    · exact oldChecked
  · intro left leftMember right rightMember sameClient sameRequest
    obtain ⟨oldLeft, oldLeftMember, leftId, _, leftClient, leftRequest, _⟩ :=
      source left leftMember
    obtain ⟨oldRight, oldRightMember, rightId, _, rightClient, rightRequest, _⟩ :=
      source right rightMember
    have sameOld := conserved.requestUnique oldLeft oldLeftMember oldRight oldRightMember
      (leftClient.symm.trans (sameClient.trans rightClient))
      (leftRequest.symm.trans (sameRequest.trans rightRequest))
    exact Table.eq_of_key_eq leftMember rightMember
      (leftId.trans ((congrArg ApiCallOperation.id sameOld).trans rightId.symm))
  · intro row member
    obtain ⟨old, oldMember, sameId, _, _, _, other, same⟩ := source row member
    rw [sameId, evidenceCount, finalizedLedger, Table.total_insertNew _ freshEvent]
    have before := conserved.evidence old oldMember
    rw [evidenceCount] at before
    rw [before]
    by_cases isOperation : old.id = operation.id
    · have oldEq := Table.eq_of_key_eq oldMember (Table.mem_of_find? found) isOperation
      subst oldEq
      rw [same rfl, if_pos guards.pending, if_neg terminalStatus]
      simp [terminalEvent]
    · rw [other isOperation]
      have notNamed : ¬ some operation.id = some old.id := fun equal =>
        isOperation (Option.some.inj equal).symm
      simp [terminalEvent, notNamed]
  · intro event member
    rcases (Table.mem_insertNew freshEvent).mp member with old | equal
    · obtain ⟨owner, ownerMember, named⟩ := conserved.owned event old
      refine ⟨_, (Table.mem_modify (terminalOperation_id terminal)).mpr ⟨owner, ownerMember, rfl⟩, ?_⟩
      split
      · exact named
      · exact named
    · subst equal
      refine ⟨_, (Table.mem_modify (terminalOperation_id terminal)).mpr ⟨operation, Table.mem_of_find? found, rfl⟩, ?_⟩
      rw [if_pos rfl]
      rfl

/-! ## Runs -/

/-- One ledger call with its arguments. A reservation reads the caller tables as
they stand at that moment, so administrators may change them between calls. -/
inductive LedgerCall where
  | reserve (callers : Callers) (request : ReserveRequest)
  | recordCredit (operationId settlementId usageOperationId : String) (now : Int)
  | recordUsage (operationId : String) (promptTokens completionTokens now : Int)
  | touch (operationId : String) (now : Int)
  | finalize (operationId eventId : String) (terminal : OperationTerminal)

/-- The transaction of a call: the committed ledger, or the error that rolled it
back. -/
def LedgerCall.transact (ledger : Ledger) : LedgerCall → Except LedgerError Ledger
  | .reserve callers request => Prod.snd <$> reserveOperation callers ledger request
  | .recordCredit operationId settlementId usageOperationId now =>
      recordCreditReservation ledger operationId settlementId usageOperationId now
  | .recordUsage operationId promptTokens completionTokens now =>
      recordProviderUsage ledger operationId promptTokens completionTokens now
  | .touch operationId now => Prod.snd <$> touchPendingOperation ledger operationId now
  | .finalize operationId eventId terminal =>
      Prod.snd <$> finalizeOperation ledger operationId eventId terminal

/-- The ledger after a call: what it committed, or the ledger before it. -/
def LedgerCall.apply (ledger : Ledger) (call : LedgerCall) : Ledger :=
  match call.transact ledger with
  | .ok after => after
  | .error _ => ledger

/-- The ledger after a sequence of calls. -/
def run (ledger : Ledger) (calls : List LedgerCall) : Ledger :=
  calls.foldl LedgerCall.apply ledger

/-- What every committed call keeps, and the first ledger has, every run keeps. -/
theorem run_invariant {holds : Ledger → Prop} {allowed : LedgerCall → Prop}
    (step : ∀ {ledger after : Ledger} {call : LedgerCall}, allowed call → holds ledger →
      call.transact ledger = .ok after → holds after)
    {ledger : Ledger} (starts : holds ledger) (calls : List LedgerCall)
    (served : ∀ call ∈ calls, allowed call) : holds (run ledger calls) := by
  induction calls generalizing ledger with
  | nil => exact starts
  | cons call rest inductionHypothesis =>
      refine inductionHypothesis ?_ fun other member => served other (List.mem_cons_of_mem _ member)
      unfold LedgerCall.apply
      split
      · rename_i after committed
        exact step (served call List.mem_cons_self) starts committed
      · exact starts

theorem snd_map_ok {α : Type} {result : Except LedgerError (α × Ledger)} {after : Ledger}
    (mapped : Prod.snd <$> result = .ok after) : ∃ value, result = .ok (value, after) := by
  cases result with
  | error failure => cases mapped
  | ok pair =>
      cases mapped
      exact ⟨pair.1, rfl⟩

/-- Every committed call keeps the invariant. -/
theorem Conserved.transact {ledger after : Ledger} (conserved : Conserved ledger)
    {call : LedgerCall} (committed : call.transact ledger = .ok after) : Conserved after := by
  cases call with
  | reserve callers request =>
      obtain ⟨reservation, reserved⟩ := snd_map_ok committed
      obtain ⟨client, rows, admitted, rfl⟩ := reserveOperation_ok reserved
      exact conserved.reserved admitted
  | recordCredit operationId settlementId usageOperationId now =>
      obtain ⟨operation, found, pending, outcome⟩ := recordCreditReservation_ok committed
      obtain rfl := Table.key_of_find? found
      rcases outcome with ⟨_, _, rfl⟩ | ⟨_, _, rfl⟩
      · exact conserved
      · exact conserved.pendingUpdate (keepsAccounting_creditRow _ _ _) found pending
  | recordUsage operationId promptTokens completionTokens now =>
      obtain ⟨_, _, operation, ⟨found, pending⟩, _, rfl⟩ :=
        recordProviderUsage_ok_iff.mp committed
      obtain rfl := Table.key_of_find? found
      exact conserved.pendingUpdate (keepsAccounting_usageRow _ _ _) found pending
  | touch operationId now =>
      obtain ⟨touched, result⟩ := snd_map_ok committed
      obtain ⟨operation, found, outcome⟩ := touchPendingOperation_ok result
      obtain rfl := Table.key_of_find? found
      rcases outcome with ⟨pending, _, rfl⟩ | ⟨_, _, rfl⟩
      · exact conserved.pendingUpdate (keepsAccounting_touchRow _) found pending
      · exact conserved
  | finalize operationId eventId terminal =>
      obtain ⟨snapshot, result⟩ := snd_map_ok committed
      obtain ⟨operation, rows, found, _, _, _, outcome⟩ := finalizeOperation_ok_iff.mp result
      rcases outcome with ⟨_, _, _, _, _, _, rfl⟩ | ⟨guards, _, rfl⟩
      · exact conserved
      · obtain rfl := Table.key_of_find? found
        exact conserved.finalized found guards

theorem Conserved.run {ledger : Ledger} (conserved : Conserved ledger)
    (calls : List LedgerCall) : Conserved (run ledger calls) :=
  run_invariant (fun _ before committed => before.transact committed) conserved calls
    fun _ _ => trivial

/-- Every ledger reached from the empty one is conserved. -/
theorem conserved_reachable (calls : List LedgerCall) : Conserved (run Ledger.empty calls) :=
  conserved_empty.run calls

/-- The events that name an operation. -/
def evidenceOf (ledger : Ledger) (operationId : String) : List ApiCallEvent :=
  ledger.events.rows.filter fun event => decide (event.operationId = some operationId)

theorem evidenceCount_eq_length (ledger : Ledger) (operationId : String) :
    evidenceCount ledger operationId = (evidenceOf ledger operationId).length := by
  unfold evidenceCount evidenceOf
  rw [ledger.events.total_ite (fun event => event.operationId = some operationId) fun _ => 1]
  simp

/-- **Ledger conservation.** After any sequence of ledger calls from the empty
ledger, a client's lifetime row holds the tally of the client's operations, a
daily row the tally of those that started on its day, every operation has both
rows, and exactly the terminal operations have an event, one each. -/
theorem ledger_conservation (calls : List LedgerCall) :
    (∀ client row, (run Ledger.empty calls).quotas.find? ⟨client, .lifetime, 0⟩ = some row →
      tallyOfRow row = tallyOf ((run Ledger.empty calls).operations.rows.filter fun operation =>
        decide (operation.apiClientId = client))) ∧
    (∀ client day row, (run Ledger.empty calls).quotas.find? ⟨client, .daily, day⟩ = some row →
      tallyOfRow row = tallyOf ((run Ledger.empty calls).operations.rows.filter fun operation =>
        decide (operation.apiClientId = client ∧ dayStart operation.startedAt = day))) ∧
    (∀ row ∈ (run Ledger.empty calls).quotas.rows, row.scope = .lifetime → row.periodStart = 0) ∧
    (∀ operation ∈ (run Ledger.empty calls).operations.rows,
      ((run Ledger.empty calls).quotas.find? (operation.quotaKey .daily)).isSome ∧
        ((run Ledger.empty calls).quotas.find? (operation.quotaKey .lifetime)).isSome) ∧
    (∀ operation ∈ (run Ledger.empty calls).operations.rows,
      (operation.status = .pending → evidenceOf (run Ledger.empty calls) operation.id = []) ∧
        (operation.status ≠ .pending →
          ∃ event, evidenceOf (run Ledger.empty calls) operation.id = [event])) := by
  have conserved := conserved_reachable calls
  refine ⟨?_, ?_, ?_, ?_, ?_⟩
  · intro client row found
    have counted := conserved.counted row (Table.mem_of_find? found)
    rw [Table.key_of_find? found, impliedTally_eq] at counted
    simpa only [countedUnder_lifetime] using counted
  · intro client day row found
    have counted := conserved.counted row (Table.mem_of_find? found)
    rw [Table.key_of_find? found, impliedTally_eq] at counted
    simpa only [countedUnder_daily] using counted
  · intro row member lifetime
    rcases conserved.checked row member with ⟨daily, _⟩ | ⟨_, start⟩
    · exact absurd (daily.symm.trans lifetime) (by decide)
    · exact start
  · intro operation member
    exact ⟨conserved.covered operation member .daily, conserved.covered operation member .lifetime⟩
  · intro operation member
    have evidence := conserved.evidence operation member
    rw [evidenceCount_eq_length] at evidence
    constructor
    · intro pending
      rw [if_pos pending] at evidence
      exact List.length_eq_zero_iff.mp (by exact_mod_cast evidence)
    · intro terminal
      rw [if_neg terminal] at evidence
      exact List.length_eq_one_iff.mp (by exact_mod_cast evidence)

end Zangpu.Services.Quota
