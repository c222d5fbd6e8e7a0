import Zangpu.Services.Quota.Abandonment

/-!
How operation rows evolve.

Owns: the order of the rows of one operation, in which identity, credit reservation and
recorded usage are fixed once written and a terminal row is final; the growth of a
ledger along it under every committed call; where the rows and terminal events of a
ledger come from; and ledgers whose pending operations can be finalized.

Does not own: who makes the calls.
-/

set_option autoImplicit false

namespace Zangpu.Services.Quota

open Zangpu.Foundation
open Zangpu.Models

/-! ## Rows -/

/-- A later row of an operation. -/
structure Evolves (earlier later : ApiCallOperation) : Prop where
  client : later.apiClientId = earlier.apiClientId
  request : later.clientRequestId = earlier.clientRequestId
  model : later.modelId = earlier.modelId
  credit : ∀ settlementId, earlier.creditSettlementId = some settlementId →
    later.creditSettlementId = some settlementId
  usage : earlier.providerUsageRecorded = true → later.providerUsageRecorded = true ∧
    later.promptTokens = earlier.promptTokens ∧ later.completionTokens = earlier.completionTokens
  terminal : earlier.status ≠ .pending → later = earlier

theorem Evolves.refl (row : ApiCallOperation) : Evolves row row :=
  ⟨rfl, rfl, rfl, fun _ written => written, fun recorded => ⟨recorded, rfl, rfl⟩, fun _ => rfl⟩

theorem Evolves.trans {first second third : ApiCallOperation} (early : Evolves first second)
    (late : Evolves second third) : Evolves first third where
  client := late.client.trans early.client
  request := late.request.trans early.request
  model := late.model.trans early.model
  credit settlementId written := late.credit _ (early.credit _ written)
  usage recorded := by
    obtain ⟨still, prompt, completion⟩ := early.usage recorded
    obtain ⟨kept, samePrompt, sameCompletion⟩ := late.usage still
    exact ⟨kept, samePrompt.trans prompt, sameCompletion.trans completion⟩
  terminal ended := by
    obtain rfl := early.terminal ended
    exact late.terminal ended

/-! ## Ledgers -/

/-- Every operation stays, and its row evolves. -/
def LedgerEvolves (before after : Ledger) : Prop :=
  ∀ operationId row, before.operations.find? operationId = some row →
    ∃ later, after.operations.find? operationId = some later ∧ Evolves row later

theorem LedgerEvolves.refl (ledger : Ledger) : LedgerEvolves ledger ledger :=
  fun _ row found => ⟨row, found, .refl row⟩

theorem LedgerEvolves.trans {first middle last : Ledger} (early : LedgerEvolves first middle)
    (late : LedgerEvolves middle last) : LedgerEvolves first last := by
  intro operationId row found
  obtain ⟨later, stays, evolves⟩ := early operationId row found
  obtain ⟨latest, remains, further⟩ := late operationId later stays
  exact ⟨latest, remains, evolves.trans further⟩

/-- A change of one row that is an evolution of it. -/
theorem LedgerEvolves.update {ledger : Ledger} {operationId : String} {row : ApiCallOperation}
    {change : ApiCallOperation → ApiCallOperation} {keeps : ∀ row, (change row).id = row.id}
    (found : ledger.operations.find? operationId = some row) (evolves : Evolves row (change row)) :
    LedgerEvolves ledger (updateOperation ledger operationId change keeps) := by
  intro other stored otherFound
  have changed := Table.find?_modify keeps ledger.operations operationId other
  unfold updateOperation
  by_cases same : other = operationId
  · rw [if_pos same, otherFound] at changed
    rw [same, found] at otherFound
    cases otherFound
    exact ⟨change row, changed, evolves⟩
  · rw [if_neg same, otherFound] at changed
    exact ⟨stored, changed, .refl stored⟩

/-- No committed call takes an operation back. -/
theorem LedgerEvolves.transact {ledger after : Ledger} {call : LedgerCall}
    (committed : call.transact ledger = .ok after) : LedgerEvolves ledger after := by
  cases call with
  | reserve callers request =>
      obtain ⟨reservation, reserved⟩ := snd_map_ok committed
      obtain ⟨client, rows, admitted, rfl⟩ := reserveOperation_ok reserved
      exact fun _ row found => ⟨row, Table.find?_insertNew_of_some found, .refl row⟩
  | recordCredit operationId settlementId usageOperationId now =>
      obtain ⟨operation, found, pending, outcome⟩ := recordCreditReservation_ok committed
      rcases outcome with ⟨_, _, rfl⟩ | ⟨unset, _, rfl⟩
      · exact .refl _
      · refine .update found ⟨rfl, rfl, rfl, ?_, fun recorded => ⟨recorded, rfl, rfl⟩,
          fun ended => absurd pending ended⟩
        intro other written
        rw [unset] at written
        cases written
  | recordUsage operationId promptTokens completionTokens now =>
      obtain ⟨_, _, operation, ⟨found, pending⟩, agrees, rfl⟩ :=
        recordProviderUsage_ok_iff.mp committed
      refine .update found ⟨rfl, rfl, rfl, fun _ written => written, ?_, fun ended => absurd pending ended⟩
      intro recorded
      rcases agrees with unrecorded | same
      · rw [recorded] at unrecorded
        cases unrecorded
      · simp only [Prod.mk.injEq] at same
        exact ⟨rfl, same.1.symm, same.2.1.symm⟩
  | touch operationId now =>
      obtain ⟨touched, result⟩ := snd_map_ok committed
      obtain ⟨operation, found, ⟨pending, _, rfl⟩ | ⟨_, _, rfl⟩⟩ := touchPendingOperation_ok result
      · exact .update found ⟨rfl, rfl, rfl, fun _ written => written,
          fun recorded => ⟨recorded, rfl, rfl⟩, fun ended => absurd pending ended⟩
      · exact .refl _
  | finalize operationId eventId terminal =>
      obtain ⟨snapshot, result⟩ := snd_map_ok committed
      obtain ⟨operation, rows, found, _, _, _, outcome⟩ := finalizeOperation_ok_iff.mp result
      rcases outcome with ⟨_, _, _, _, _, _, rfl⟩ | ⟨guards, _, rfl⟩
      · exact .refl _
      · obtain rfl := Table.key_of_find? found
        have evolves : LedgerEvolves ledger (markTerminal ledger operation terminal) :=
          .update found ⟨rfl, rfl, rfl, fun _ written => written,
            fun recorded => ⟨recorded, rfl, rfl⟩, fun ended => absurd guards.pending ended⟩
        exact evolves

/-! ## Where rows come from -/

/-- The operation is stored and pending. -/
structure Awaits (ledger : Ledger) (row : ApiCallOperation) : Prop where
  found : ledger.operations.find? row.id = some row
  pending : row.status = .pending

theorem Awaits.member {ledger : Ledger} {row : ApiCallOperation} (awaits : Awaits ledger row) :
    row ∈ ledger.operations.rows := Table.mem_of_find? awaits.found

/-- Where a row comes from: it is an old one, the one the call reserved, or the one it
wrote over a pending one. -/
inductive Origin (ledger : Ledger) : LedgerCall → ApiCallOperation → Prop where
  | kept {call : LedgerCall} {row : ApiCallOperation} (member : row ∈ ledger.operations.rows) :
      Origin ledger call row
  | reserved (callers : Callers) (request : ReserveRequest) :
      Origin ledger (.reserve callers request) (pendingOperation request)
  | credited {row : ApiCallOperation} (awaits : Awaits ledger row)
      (settlementId usageOperationId : String) (now : Int) :
      Origin ledger (.recordCredit row.id settlementId usageOperationId now)
        (creditRow settlementId usageOperationId now row)
  | used {row : ApiCallOperation} (awaits : Awaits ledger row) {promptTokens completionTokens : Int}
      (counted : 0 ≤ promptTokens ∧ 0 ≤ completionTokens ∧
        promptTokens + completionTokens ≤ signedBigintMax) (now : Int) :
      Origin ledger (.recordUsage row.id promptTokens completionTokens now)
        (usageRow promptTokens completionTokens now row)
  | touched {row : ApiCallOperation} (awaits : Awaits ledger row) (now : Int) :
      Origin ledger (.touch row.id now) (touchRow now row)
  | finalized {row : ApiCallOperation} (awaits : Awaits ledger row) (eventId : String)
      (terminal : OperationTerminal) :
      Origin ledger (.finalize row.id eventId terminal) (terminalOperation terminal row)

/-- A row of a ledger with one rewritten operation is an old one, or the rewritten. -/
theorem updateOperation_cases {ledger : Ledger} {operationId : String}
    {change : ApiCallOperation → ApiCallOperation} {keeps : ∀ row, (change row).id = row.id}
    {old : ApiCallOperation} (found : ledger.operations.find? operationId = some old)
    {row : ApiCallOperation}
    (member : row ∈ (updateOperation ledger operationId change keeps).operations.rows) :
    row ∈ ledger.operations.rows ∨ row = change old := by
  obtain ⟨source, stored, rowEq⟩ := (Table.mem_modify keeps).mp member
  split at rowEq
  · rename_i keyed
    have same := Table.find?_of_mem stored
    rw [keyed, found, Option.some.injEq] at same
    exact Or.inr (same ▸ rowEq)
  · exact Or.inl (rowEq ▸ stored)

theorem origin_of_transact {ledger after : Ledger} {call : LedgerCall}
    (committed : call.transact ledger = .ok after) {row : ApiCallOperation}
    (member : row ∈ after.operations.rows) : Origin ledger call row := by
  cases call with
  | reserve callers request =>
      obtain ⟨reservation, reserved⟩ := snd_map_ok committed
      obtain ⟨client, rows, admitted, rfl⟩ := reserveOperation_ok reserved
      have fresh : ledger.operations.find? (pendingOperation request).id = none :=
        admitted.newOperation
      rcases (Table.mem_insertNew fresh).mp member with old | rfl
      · exact .kept old
      · exact .reserved callers request
  | recordCredit operationId settlementId usageOperationId now =>
      obtain ⟨operation, found, pending, ⟨_, _, rfl⟩ | ⟨_, _, rfl⟩⟩ :=
        recordCreditReservation_ok committed
      · exact .kept member
      · rcases updateOperation_cases found member with old | rfl
        · exact .kept old
        · obtain rfl := Table.key_of_find? found
          exact .credited ⟨found, pending⟩ settlementId usageOperationId now
  | recordUsage operationId promptTokens completionTokens now =>
      obtain ⟨⟨prompt, completion⟩, bounded, operation, ⟨found, pending⟩, _, rfl⟩ :=
        recordProviderUsage_ok_iff.mp committed
      rcases updateOperation_cases found member with old | rfl
      · exact .kept old
      · obtain rfl := Table.key_of_find? found
        exact .used ⟨found, pending⟩ ⟨prompt, completion, bounded⟩ now
  | touch operationId now =>
      obtain ⟨touched, result⟩ := snd_map_ok committed
      obtain ⟨operation, found, ⟨pending, _, rfl⟩ | ⟨_, _, rfl⟩⟩ := touchPendingOperation_ok result
      · rcases updateOperation_cases found member with old | rfl
        · exact .kept old
        · obtain rfl := Table.key_of_find? found
          exact .touched ⟨found, pending⟩ now
      · exact .kept member
  | finalize operationId eventId terminal =>
      obtain ⟨snapshot, result⟩ := snd_map_ok committed
      obtain ⟨operation, rows, found, _, _, _, outcome⟩ := finalizeOperation_ok_iff.mp result
      rcases outcome with ⟨_, _, _, _, _, _, rfl⟩ | ⟨guards, _, rfl⟩
      · exact .kept member
      · obtain rfl := Table.key_of_find? found
        have marked : row ∈ (markTerminal ledger operation terminal).operations.rows := member
        rcases updateOperation_cases found marked with old | rfl
        · exact .kept old
        · exact .finalized ⟨found, guards.pending⟩ eventId terminal

/-- A finalization that went through leaves the row in the status of its record. -/
theorem status_of_finalize {ledger after : Ledger} {operationId eventId : String}
    {terminal : OperationTerminal}
    (committed : (LedgerCall.finalize operationId eventId terminal).transact ledger = .ok after) :
    ∃ row, after.operations.find? operationId = some row ∧
      row.status = terminal.status.toStatus := by
  obtain ⟨snapshot, result⟩ := snd_map_ok committed
  obtain ⟨operation, rows, found, _, _, _, outcome⟩ := finalizeOperation_ok_iff.mp result
  rcases outcome with ⟨_, _, status, _, _, _, rfl⟩ | ⟨_, _, rfl⟩
  · exact ⟨operation, found, status⟩
  · obtain rfl := Table.key_of_find? found
    exact ⟨terminalOperation terminal operation, @Table.find?_modify_same _ _ _ _ _
      (terminalOperation_id terminal) _ _ _ found, rfl⟩

/-- A terminal event is an old one, or the one of a pending row that the call
finalized. -/
theorem event_of_transact {ledger after : Ledger} {call : LedgerCall}
    (committed : call.transact ledger = .ok after) {event : ApiCallEvent}
    (member : event ∈ after.events.rows) :
    event ∈ ledger.events.rows ∨ ∃ operationId eventId terminal,
      call = .finalize operationId eventId terminal ∧ event.operationId = some operationId ∧
        event.chargedMicro = terminal.chargedMicro ∧
        event.businessCode = terminal.businessCode := by
  cases call with
  | reserve callers request =>
      obtain ⟨reservation, reserved⟩ := snd_map_ok committed
      obtain ⟨_, _, _, rfl⟩ := reserveOperation_ok reserved
      exact Or.inl member
  | recordCredit operationId settlementId usageOperationId now =>
      obtain ⟨_, _, _, ⟨_, _, rfl⟩ | ⟨_, _, rfl⟩⟩ := recordCreditReservation_ok committed
      · exact Or.inl member
      · exact Or.inl member
  | recordUsage operationId promptTokens completionTokens now =>
      obtain ⟨_, _, _, _, _, rfl⟩ := recordProviderUsage_ok_iff.mp committed
      exact Or.inl member
  | touch operationId now =>
      obtain ⟨touched, result⟩ := snd_map_ok committed
      obtain ⟨_, _, ⟨_, _, rfl⟩ | ⟨_, _, rfl⟩⟩ := touchPendingOperation_ok result
      · exact Or.inl member
      · exact Or.inl member
  | finalize operationId eventId terminal =>
      obtain ⟨snapshot, result⟩ := snd_map_ok committed
      obtain ⟨operation, rows, found, _, _, _, outcome⟩ := finalizeOperation_ok_iff.mp result
      rcases outcome with ⟨_, _, _, _, _, _, rfl⟩ | ⟨guards, _, rfl⟩
      · exact Or.inl member
      · have fresh : ledger.events.find? (terminalEvent eventId operation
            ⟨finalizeRow operation terminal.completedAt rows.daily,
              finalizeRow operation terminal.completedAt rows.lifetime⟩ terminal).id = none :=
          guards.newEvent
        rcases (Table.mem_insertNew fresh).mp member with old | rfl
        · exact Or.inl old
        · exact Or.inr ⟨operationId, eventId, terminal, rfl,
            congrArg some (Table.key_of_find? found), rfl, rfl⟩

/-! ## Kept ledgers -/

/-- Recorded usage is counted in nonnegative tokens that fit. -/
def UsageCounted (row : ApiCallOperation) : Prop :=
  row.providerUsageRecorded = true → 0 ≤ row.promptTokens ∧ 0 ≤ row.completionTokens ∧
    row.totalTokens = row.promptTokens + row.completionTokens ∧ row.totalTokens ≤ signedBigintMax

/-- What the finalization of a pending operation rests on. -/
structure Kept (ledger : Ledger) : Prop where
  settleable : Settleable ledger
  recorded : ∀ row ∈ ledger.operations.rows, UsageRecorded row
  counted : ∀ row ∈ ledger.operations.rows, UsageCounted row
  consumed : ConsumedFits ledger

theorem kept_empty : Kept .empty where
  settleable := settleable_empty
  recorded := by intro row member; cases member
  counted := by intro row member; cases member
  consumed := by intro row member; cases member

theorem Kept.transact {ledger after : Ledger} (kept : Kept ledger) {call : LedgerCall}
    (committed : call.transact ledger = .ok after) : Kept after where
  settleable := kept.settleable.transact committed
  recorded := usageRecorded_invariant.transact kept.recorded committed
  counted := by
    intro row member
    cases origin_of_transact committed member with
    | kept old => exact kept.counted row old
    | reserved => intro recorded; cases recorded
    | used _ counted => exact fun _ => ⟨counted.1, counted.2.1, rfl, counted.2.2⟩
    | credited awaits | touched awaits | finalized awaits =>
        have before := kept.counted _ awaits.member
        exact before
  consumed := kept.consumed.transact committed

end Zangpu.Services.Quota
