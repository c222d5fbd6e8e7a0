import Zangpu.Services.Quota.Finalization

/-!
Release of reservations without usage.

Owns: the invariants behind the finalization of a pending operation without
recorded usage: its total is zero, no counter passes `2**63 - 1`, and the server
request identifier reserved for it is unused; the finalization itself and what it
leaves on both quota rows.

Does not own: who finalizes, and under which identifier.
-/

set_option autoImplicit false

namespace Zangpu.Services.Quota

open Zangpu.Foundation
open Zangpu.Models

/-! ## Operations without usage -/

/-- An operation without recorded usage has none. -/
def UsageRecorded (operation : ApiCallOperation) : Prop :=
  operation.providerUsageRecorded = false → operation.totalTokens = 0

theorem usageRecorded_invariant : RowInvariant UsageRecorded where
  reserved := fun _ _ _ _ => rfl
  credited := fun _ _ _ _ kept => kept
  used := fun _ _ _ _ _ _ _ unrecorded => by cases unrecorded
  touched := fun _ _ kept => kept
  finalized := fun _ _ kept => kept

/-! ## Consumed tokens -/

def ConsumedFits (ledger : Ledger) : Prop :=
  ∀ row ∈ ledger.quotas.rows, row.tokenConsumed ≤ signedBigintMax

/-- A row that a finalization settles passed its guards. -/
theorem Finalizable.consumed {ledger : Ledger} {eventId : String} {operation : ApiCallOperation}
    {rows : QuotaRows} {terminal : OperationTerminal}
    (guards : Finalizable ledger eventId operation rows terminal) {row : ApiClientQuotaUsage}
    (member : row ∈ ledger.quotas.rows) (counted : CountedUnder row.key operation) :
    row.tokenConsumed + operation.totalTokens ≤ signedBigintMax := by
  have stored := Table.find?_of_mem member
  rcases countedUnder_iff.mp counted with daily | lifetime
  · rw [daily, guards.daily, Option.some.injEq] at stored
    exact stored ▸ guards.dailyGuard.2
  · rw [lifetime, guards.lifetime, Option.some.injEq] at stored
    exact stored ▸ guards.lifetimeGuard.2

theorem ConsumedFits.transact {ledger after : Ledger} (fits : ConsumedFits ledger)
    {call : LedgerCall} (committed : call.transact ledger = .ok after) : ConsumedFits after := by
  cases call with
  | reserve callers request =>
      obtain ⟨reservation, reserved⟩ := snd_map_ok committed
      obtain ⟨client, rows, admitted, rfl⟩ := reserveOperation_ok reserved
      intro row member
      obtain ⟨old, oldMember, rowEq⟩ := mem_updateQuotaRows (pendingOperation request) member
      have kept : row.tokenConsumed = old.tokenConsumed := by
        rw [rowEq]
        split <;> rfl
      rw [kept]
      rcases mem_preparedLedger_offered oldMember with stored | ⟨_, unused⟩
      · exact fits old stored
      · rw [unused]
        decide
  | recordCredit operationId settlementId usageOperationId now =>
      obtain ⟨_, _, _, ⟨_, _, rfl⟩ | ⟨_, _, rfl⟩⟩ := recordCreditReservation_ok committed
      · exact fits
      · exact fits
  | recordUsage operationId promptTokens completionTokens now =>
      obtain ⟨_, _, _, _, _, rfl⟩ := recordProviderUsage_ok_iff.mp committed
      exact fits
  | touch operationId now =>
      obtain ⟨touched, result⟩ := snd_map_ok committed
      obtain ⟨_, _, ⟨_, _, rfl⟩ | ⟨_, _, rfl⟩⟩ := touchPendingOperation_ok result
      · exact fits
      · exact fits
  | finalize operationId eventId terminal =>
      obtain ⟨snapshot, result⟩ := snd_map_ok committed
      obtain ⟨operation, rows, _, _, _, _, outcome⟩ := finalizeOperation_ok_iff.mp result
      rcases outcome with ⟨_, _, _, _, _, _, rfl⟩ | ⟨guards, _, rfl⟩
      · exact fits
      · intro row member
        obtain ⟨old, oldMember, rowEq⟩ := mem_updateQuotaRows operation member
        rw [rowEq]
        split
        · rename_i counted
          exact guards.consumed oldMember counted
        · exact fits old oldMember

/-! ## Server request identifiers -/

section Names

variable (name : String → String)

/-- The call uses the identifier reserved for an operation for this operation only. -/
def LedgerCall.NamesOwn : LedgerCall → Prop
  | .finalize operationId _ terminal =>
      ∀ other, terminal.serverRequestId = name other → other = operationId
  | _ => True

/-- An event under the identifier reserved for an operation is about it. -/
def EventsNamed (ledger : Ledger) : Prop :=
  ∀ event ∈ ledger.events.rows, ∀ operationId, event.serverRequestId = name operationId →
    event.operationId = some operationId

variable {name}

theorem EventsNamed.transact {ledger after : Ledger} (named : EventsNamed name ledger)
    {call : LedgerCall} (own : call.NamesOwn name)
    (committed : call.transact ledger = .ok after) : EventsNamed name after := by
  cases call with
  | reserve callers request =>
      obtain ⟨reservation, reserved⟩ := snd_map_ok committed
      obtain ⟨_, _, _, rfl⟩ := reserveOperation_ok reserved
      exact named
  | recordCredit operationId settlementId usageOperationId now =>
      obtain ⟨_, _, _, ⟨_, _, rfl⟩ | ⟨_, _, rfl⟩⟩ := recordCreditReservation_ok committed
      · exact named
      · exact named
  | recordUsage operationId promptTokens completionTokens now =>
      obtain ⟨_, _, _, _, _, rfl⟩ := recordProviderUsage_ok_iff.mp committed
      exact named
  | touch operationId now =>
      obtain ⟨touched, result⟩ := snd_map_ok committed
      obtain ⟨_, _, ⟨_, _, rfl⟩ | ⟨_, _, rfl⟩⟩ := touchPendingOperation_ok result
      · exact named
      · exact named
  | finalize operationId eventId terminal =>
      obtain ⟨snapshot, result⟩ := snd_map_ok committed
      obtain ⟨operation, rows, found, _, _, _, outcome⟩ := finalizeOperation_ok_iff.mp result
      rcases outcome with ⟨_, _, _, _, _, _, rfl⟩ | ⟨guards, _, rfl⟩
      · exact named
      · intro event member other same
        have fresh : ledger.events.find? (terminalEvent eventId operation
            ⟨finalizeRow operation terminal.completedAt rows.daily,
              finalizeRow operation terminal.completedAt rows.lifetime⟩ terminal).id = none :=
          guards.newEvent
        rcases (Table.mem_insertNew fresh).mp member with old | rfl
        · exact named event old other same
        · exact congrArg some ((Table.key_of_find? found).trans (own other same).symm)

end Names

/-! ## Release -/

/-- What the release of a reservation without usage rests on. -/
structure Releasable (name : String → String) (ledger : Ledger) : Prop where
  settleable : Settleable ledger
  recorded : ∀ operation ∈ ledger.operations.rows, UsageRecorded operation
  consumed : ConsumedFits ledger
  named : EventsNamed name ledger

theorem releasable_empty (name : String → String) : Releasable name Ledger.empty where
  settleable := settleable_empty
  recorded := by intro operation member; cases member
  consumed := by intro row member; cases member
  named := by intro event member; cases member

theorem Releasable.transact {name : String → String} {ledger after : Ledger} {call : LedgerCall}
    (own : call.NamesOwn name) (releasable : Releasable name ledger)
    (committed : call.transact ledger = .ok after) : Releasable name after where
  settleable := releasable.settleable.transact committed
  recorded := usageRecorded_invariant.transact releasable.recorded committed
  consumed := releasable.consumed.transact committed
  named := releasable.named.transact own committed

theorem releasable_reachable {name : String → String} (calls : List LedgerCall)
    (own : ∀ call ∈ calls, call.NamesOwn name) : Releasable name (run Ledger.empty calls) :=
  run_invariant Releasable.transact (releasable_empty name) calls own

/-- The operation is abandoned and both its rows lost its reservation. -/
structure Released (operation : ApiCallOperation) (before after : Ledger) : Prop where
  abandoned : ∃ row, after.operations.find? operation.id = some row ∧ row.status = .abandoned
  reservation : ∀ scope, ∃ row left,
    before.quotas.find? (operation.quotaKey scope) = some row ∧
      after.quotas.find? (operation.quotaKey scope) = some left ∧
      left.tokenReserved = row.tokenReserved - operation.reservedTokens

/-- Both rows of an operation take a change of its rows. -/
theorem find?_updateQuotaRows_own {ledger : Ledger} {operation : ApiCallOperation}
    {change : ApiClientQuotaUsage → ApiClientQuotaUsage}
    {keeps : ∀ row, (change row).key = row.key} (scope : QuotaScope) {row : ApiClientQuotaUsage}
    (found : ledger.quotas.find? (operation.quotaKey scope) = some row) :
    (updateQuotaRows ledger operation.apiClientId (dayStart operation.startedAt) change
      keeps).quotas.find? (operation.quotaKey scope) = some (change row) := by
  unfold updateQuotaRows
  dsimp only
  rw [Table.find?_modify keeps, Table.find?_modify keeps]
  cases scope with
  | daily =>
      rw [if_neg, if_pos, found, Option.map_some]
      · rfl
      · intro same
        cases congrArg QuotaKey.scope same
  | lifetime =>
      rw [if_pos, if_neg, found, Option.map_some]
      · intro same
        cases congrArg QuotaKey.scope same
      · rfl

namespace Releasable

variable {name : String → String} {ledger : Ledger} {operation : ApiCallOperation}

/-- Both rows of a pending operation without usage pass the guards. -/
theorem guards (releasable : Releasable name ledger)
    (member : operation ∈ ledger.operations.rows) (pending : operation.status = .pending)
    (unused : operation.providerUsageRecorded = false) (scope : QuotaScope) :
    ∃ row, ledger.quotas.find? (operation.quotaKey scope) = some row ∧
      operation.reservedTokens ≤ row.tokenReserved ∧
      row.tokenConsumed + operation.totalTokens ≤ signedBigintMax := by
  obtain ⟨row, found⟩ := Option.isSome_iff_exists.mp
    (releasable.settleable.conserved.covered operation member scope)
  have counts : CountedUnder row.key operation := by
    rw [Table.key_of_find? found, CountedUnder, ApiCallOperation.quotaKey_scope]
  have rowMember := Table.mem_of_find? found
  have nothing := releasable.recorded operation member unused
  have fits := releasable.consumed row rowMember
  exact ⟨row, found, releasable.settleable.holds member pending rowMember counts, by omega⟩

/-- The identifier reserved for a pending operation is unused. -/
theorem unnamed (releasable : Releasable name ledger)
    (member : operation ∈ ledger.operations.rows) (pending : operation.status = .pending) :
    ∀ event ∈ ledger.events.rows, event.serverRequestId ≠ name operation.id := by
  intro event stored same
  exact releasable.settleable.conserved.pending_unnamed member pending event stored
    (releasable.named event stored operation.id same)

/-- A pending operation without usage is abandoned under the identifier reserved
for it. -/
theorem release (releasable : Releasable name ledger)
    (member : operation ∈ ledger.operations.rows) (pending : operation.status = .pending)
    (unused : operation.providerUsageRecorded = false) {eventId : String}
    {terminal : OperationTerminal} (abandons : terminal.status = .abandoned)
    (own : terminal.serverRequestId = name operation.id)
    (ordered : operation.startedAt ≤ terminal.completedAt)
    (newEvent : ledger.events.find? eventId = none) :
    ∃ snapshot after,
      finalizeOperation ledger operation.id eventId terminal = .ok (snapshot, after) ∧
        Released operation ledger after := by
  obtain ⟨daily, dailyFound, dailyGuard⟩ := releasable.guards member pending unused .daily
  obtain ⟨lifetime, lifetimeFound, lifetimeGuard⟩ :=
    releasable.guards member pending unused .lifetime
  have stored := Table.find?_of_mem member
  have newServerRequest : ∀ event ∈ ledger.events.rows,
      event.serverRequestId ≠ terminal.serverRequestId := own ▸ releasable.unnamed member pending
  refine ⟨_, _, finalizeOperation_ok_iff.mpr ⟨operation, ⟨daily, lifetime⟩, stored,
    (releasable.settleable.recorded operation member).started, dailyFound, lifetimeFound,
    Or.inr ⟨⟨pending, ordered, dailyFound, lifetimeFound, dailyGuard, lifetimeGuard, newEvent,
      newServerRequest, releasable.settleable.conserved.pending_unnamed member pending⟩, rfl,
      rfl⟩⟩, ?_, ?_⟩
  · refine ⟨terminalOperation terminal operation, @Table.find?_modify_same _ _ _ _ _
      (terminalOperation_id terminal) _ _ _ stored, ?_⟩
    show terminal.status.toStatus = _
    rw [abandons]
    rfl
  · intro scope
    cases scope with
    | daily => exact ⟨daily, _, dailyFound, find?_updateQuotaRows_own .daily dailyFound, rfl⟩
    | lifetime =>
        exact ⟨lifetime, _, lifetimeFound, find?_updateQuotaRows_own .lifetime lifetimeFound, rfl⟩

end Releasable

end Zangpu.Services.Quota
