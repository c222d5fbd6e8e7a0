import Zangpu.Foundation.Histories
import Zangpu.Services.Quota.Finalization

/-!
The history of terminal events.

Owns: the events reported under a quota key, in commit order; the invariant that
ties their totals to the terminal operations and every snapshot to the events
before it; and the resulting law of every reachable event history.

Does not own: the purge of old events, which is no ledger operation.
-/

set_option autoImplicit false

namespace Zangpu.Services.Quota

open Zangpu.Foundation
open Zangpu.Models

/-! ## Events under a quota key -/

/-- Start of the period of a scope that holds a timestamp. -/
def periodOf (scope : QuotaScope) (timestamp : Int) : Int :=
  match scope with
  | .daily => dayStart timestamp
  | .lifetime => 0

theorem quotaKey_eq (operation : ApiCallOperation) (scope : QuotaScope) :
    operation.quotaKey scope =
      ⟨operation.apiClientId, scope, periodOf scope operation.startedAt⟩ := by
  cases scope <;> rfl

/-- The consumed tokens of a scope that an event reports. -/
def tokensAfter (event : ApiCallEvent) : QuotaScope → Int
  | .daily => event.dailyTokensAfter
  | .lifetime => event.totalTokensAfter

/-- The request count of a scope that an event reports. -/
def requestsAfter (event : ApiCallEvent) : QuotaScope → Int
  | .daily => event.dailyRequestsAfter
  | .lifetime => event.totalRequestsAfter

/-- An event is reported under a quota key. -/
def ReportedUnder (key : QuotaKey) (event : ApiCallEvent) : Prop :=
  event.apiClientId = some key.apiClientId ∧ periodOf key.scope event.startedAt = key.periodStart

instance (key : QuotaKey) : DecidablePred (ReportedUnder key) := fun event =>
  inferInstanceAs (Decidable (event.apiClientId = some key.apiClientId ∧
    periodOf key.scope event.startedAt = key.periodStart))

/-- The events reported under a quota key, in commit order. -/
def reported (ledger : Ledger) (key : QuotaKey) : List ApiCallEvent :=
  ledger.events.rows.filter fun event => decide (ReportedUnder key event)

/-- The counters that an event reports, against the events before it. -/
structure Snapshot (scope : QuotaScope) (earlier : List ApiCallEvent) (event : ApiCallEvent) :
    Prop where
  tokens : tokensAfter event scope =
    ((earlier ++ [event]).map ApiCallEvent.totalTokens).sum
  rank : ((earlier ++ [event]).length : Int) ≤ requestsAfter event scope
  ordered : ∀ other ∈ earlier, requestsAfter other scope ≤ requestsAfter event scope

/-- An event was written for a terminal operation. -/
structure Describes (event : ApiCallEvent) (operation : ApiCallOperation) : Prop where
  named : event.operationId = some operation.id
  client : event.apiClientId = some operation.apiClientId
  terminal : operation.status ≠ .pending
  startedAt : event.startedAt = operation.startedAt
  totalTokens : event.totalTokens = operation.totalTokens
  overrun : event.quotaOverrun = decide (operation.reservedTokens < operation.totalTokens)

/-! ## The invariant -/

/-- What one operation adds to the events of a key. -/
def eventShare (key : QuotaKey) (operation : ApiCallOperation) : Int :=
  if CountedUnder key operation ∧ operation.status ≠ .pending then 1 else 0

/-- What the event table recalls of the operation table. -/
structure Recalls (ledger : Ledger) : Prop where
  consumed : ∀ key, ((reported ledger key).map ApiCallEvent.totalTokens).sum =
    ledger.operations.total (consumedShare key)
  counted : ∀ key, ((reported ledger key).length : Int) =
    ledger.operations.total (eventShare key)
  bounded : ∀ key, ∀ event ∈ reported ledger key,
    requestsAfter event key.scope ≤ ledger.operations.total (requestShare key)
  snapshots : ∀ key, Preceded (Snapshot key.scope) (reported ledger key)
  described : ∀ event ∈ ledger.events.rows, ∃ operation ∈ ledger.operations.rows,
    Describes event operation

theorem recalls_empty : Recalls Ledger.empty where
  consumed _ := rfl
  counted _ := rfl
  bounded key event member := by cases member
  snapshots key := Preceded.nil
  described event member := by cases member

/-- The event table recalls an operation table that counts at least as much. -/
theorem Recalls.grow {ledger after : Ledger} (recalls : Recalls ledger)
    (sameEvents : after.events = ledger.events)
    (consumed : ∀ key, after.operations.total (consumedShare key) =
      ledger.operations.total (consumedShare key))
    (counted : ∀ key, after.operations.total (eventShare key) =
      ledger.operations.total (eventShare key))
    (requests : ∀ key, ledger.operations.total (requestShare key) ≤
      after.operations.total (requestShare key))
    (kept : ∀ operation ∈ ledger.operations.rows, operation.status ≠ .pending →
      operation ∈ after.operations.rows) : Recalls after := by
  have sameReported : ∀ key, reported after key = reported ledger key := by
    intro key
    unfold reported
    rw [sameEvents]
  refine ⟨?_, ?_, ?_, ?_, ?_⟩
  · intro key
    rw [sameReported, consumed]
    exact recalls.consumed key
  · intro key
    rw [sameReported, counted]
    exact recalls.counted key
  · intro key event member
    rw [sameReported] at member
    exact Int.le_trans (recalls.bounded key event member) (requests key)
  · intro key
    rw [sameReported]
    exact recalls.snapshots key
  · intro event member
    rw [sameEvents] at member
    obtain ⟨operation, operationMember, describes⟩ := recalls.described event member
    exact ⟨operation, kept operation operationMember describes.terminal, describes⟩

theorem requestShare_nonneg (key : QuotaKey) (operation : ApiCallOperation) :
    0 ≤ requestShare key operation := by
  unfold requestShare
  split
  · decide
  · exact le_refl 0

/-! ## Reservation -/

theorem Recalls.reserved {ledger : Ledger} (recalls : Recalls ledger) {request : ReserveRequest}
    (newOperation : ledger.operations.find? request.operationId = none) :
    Recalls (reservedLedger ledger request) := by
  have fresh : ledger.operations.find? (pendingOperation request).id = none := newOperation
  have pending : (pendingOperation request).status = .pending := rfl
  refine recalls.grow rfl ?_ ?_ ?_ ?_
  · intro key
    have nothing : consumedShare key (pendingOperation request) = 0 :=
      if_neg fun both => both.2 pending
    simp only [reservedLedger]
    rw [Table.total_insertNew _ fresh, nothing, add_zero]
  · intro key
    have nothing : eventShare key (pendingOperation request) = 0 :=
      if_neg fun both => both.2 pending
    simp only [reservedLedger]
    rw [Table.total_insertNew _ fresh, nothing, add_zero]
  · intro key
    have more := requestShare_nonneg key (pendingOperation request)
    simp only [reservedLedger]
    rw [Table.total_insertNew _ fresh]
    omega
  · intro operation member _
    exact Table.mem_insertNew_of_mem member

/-! ## Pending updates -/

/-- A modification of one row keeps every other row. -/
theorem mem_updateOperation {ledger : Ledger} {operation other : ApiCallOperation}
    {change : ApiCallOperation → ApiCallOperation} (keeps : ∀ row, (change row).id = row.id)
    (member : other ∈ ledger.operations.rows) (different : other.id ≠ operation.id) :
    other ∈ (updateOperation ledger operation.id change keeps).operations.rows := by
  refine (Table.mem_modify keeps).mpr ⟨other, member, ?_⟩
  rw [if_neg different]

/-- A terminal operation is not the pending one under an identifier. -/
theorem ne_of_pending {ledger : Ledger} {operation other : ApiCallOperation}
    (found : ledger.operations.find? operation.id = some operation)
    (pending : operation.status = .pending) (member : other ∈ ledger.operations.rows)
    (terminal : other.status ≠ .pending) : other.id ≠ operation.id := by
  intro same
  have equal := Table.eq_of_key_eq member (Table.mem_of_find? found) same
  exact terminal (equal ▸ pending)

theorem Recalls.pendingUpdate {ledger : Ledger} (recalls : Recalls ledger)
    {operation : ApiCallOperation} {change : ApiCallOperation → ApiCallOperation}
    (harmless : KeepsAccounting change)
    (found : ledger.operations.find? operation.id = some operation)
    (pending : operation.status = .pending) :
    Recalls (updateOperation ledger operation.id change harmless.id) := by
  have sameCounted : ∀ key, CountedUnder key (change operation) ↔ CountedUnder key operation := by
    intro key
    unfold CountedUnder
    rw [harmless.quotaKey]
  refine recalls.grow rfl ?_ ?_ ?_ ?_
  · intro key
    simp [updateOperation, Table.total_modify _ found, consumedShare, harmless.status, pending]
  · intro key
    simp [updateOperation, Table.total_modify _ found, eventShare, harmless.status, pending]
  · intro key
    simp [updateOperation, Table.total_modify _ found, requestShare, sameCounted]
  · intro other member terminal
    exact mem_updateOperation harmless.id member (ne_of_pending found pending member terminal)

/-! ## Finalization -/

/-- What one pending operation adds to the requests of a key. -/
def pendingShare (key : QuotaKey) (operation : ApiCallOperation) : Int :=
  if CountedUnder key operation ∧ operation.status = .pending then 1 else 0

/-- Every counted request is pending or has its event. -/
theorem total_requestShare (ledger : Ledger) (key : QuotaKey) :
    ledger.operations.total (requestShare key) =
      ledger.operations.total (eventShare key) + ledger.operations.total (pendingShare key) := by
  unfold Table.total
  rw [← List.sum_map_add]
  congr 1
  refine List.map_congr_left fun operation _ => ?_
  unfold requestShare eventShare pendingShare
  by_cases counted : CountedUnder key operation
  · by_cases pending : operation.status = .pending
    · simp [counted, pending]
    · simp [counted, pending]
  · simp [counted]

/-- While an operation is pending, its key has more requests than events. -/
theorem eventShare_lt_requestShare {ledger : Ledger} {operation : ApiCallOperation}
    (member : operation ∈ ledger.operations.rows) (pending : operation.status = .pending)
    {key : QuotaKey} (counted : CountedUnder key operation) :
    ledger.operations.total (eventShare key) + 1 ≤
      ledger.operations.total (requestShare key) := by
  have nonneg : ∀ other ∈ ledger.operations.rows, 0 ≤ pendingShare key other := by
    intro other _
    unfold pendingShare
    split
    · decide
    · exact le_refl 0
  have one : pendingShare key operation = 1 := if_pos ⟨counted, pending⟩
  have held := Table.column_le_total nonneg member
  rw [total_requestShare]
  omega

section Finalization

variable {ledger : Ledger} {eventId : String} {operation : ApiCallOperation} {rows : QuotaRows}
  {terminal : OperationTerminal}

/-- The event that a finalization writes. -/
def writtenEvent (eventId : String) (operation : ApiCallOperation) (rows : QuotaRows)
    (terminal : OperationTerminal) : ApiCallEvent :=
  terminalEvent eventId operation ⟨finalizeRow operation terminal.completedAt rows.daily,
    finalizeRow operation terminal.completedAt rows.lifetime⟩ terminal

theorem reportedUnder_written {key : QuotaKey} :
    ReportedUnder key (writtenEvent eventId operation rows terminal) ↔
      CountedUnder key operation := by
  unfold ReportedUnder CountedUnder
  rw [quotaKey_eq]
  constructor
  · rintro ⟨client, period⟩
    have sameClient : operation.apiClientId = key.apiClientId := Option.some.inj client
    have samePeriod : periodOf key.scope operation.startedAt = key.periodStart := period
    rw [sameClient, samePeriod]
  · intro same
    have client : operation.apiClientId = key.apiClientId := congrArg QuotaKey.apiClientId same
    have period : periodOf key.scope operation.startedAt = key.periodStart :=
      congrArg QuotaKey.periodStart same
    exact ⟨congrArg some client, period⟩

/-- The events under a key after a finalization. -/
theorem reported_finalized (newEvent : ledger.events.find? eventId = none) (key : QuotaKey) :
    reported (finalizedLedger ledger eventId operation rows terminal) key =
      if CountedUnder key operation then
        reported ledger key ++ [writtenEvent eventId operation rows terminal]
      else reported ledger key := by
  have fresh : ledger.events.find? (writtenEvent eventId operation rows terminal).id = none :=
    newEvent
  have appended : (finalizedLedger ledger eventId operation rows terminal).events.rows =
      ledger.events.rows ++ [writtenEvent eventId operation rows terminal] :=
    Table.insertNew_rows fresh
  unfold reported
  rw [appended, List.filter_append]
  by_cases counted : CountedUnder key operation
  · simp [reportedUnder_written.mpr counted, counted]
  · have unreported : ¬ ReportedUnder key (writtenEvent eventId operation rows terminal) :=
      fun reports => counted (reportedUnder_written.mp reports)
    simp [unreported, counted]

/-- The event of a finalization reports the counters of its own key. -/
theorem writtenEvent_after (conserved : Conserved ledger)
    (guards : Finalizable ledger eventId operation rows terminal) (scope : QuotaScope) :
    tokensAfter (writtenEvent eventId operation rows terminal) scope =
        ledger.operations.total (consumedShare (operation.quotaKey scope)) +
          operation.totalTokens ∧
      requestsAfter (writtenEvent eventId operation rows terminal) scope =
        ledger.operations.total (requestShare (operation.quotaKey scope)) := by
  have counter : ∀ row, ledger.quotas.find? (operation.quotaKey scope) = some row →
      row.tokenConsumed = ledger.operations.total (consumedShare (operation.quotaKey scope)) ∧
        row.requestCount = ledger.operations.total (requestShare (operation.quotaKey scope)) := by
    intro row found
    have counted := conserved.counted row (Table.mem_of_find? found)
    rw [Table.key_of_find? found] at counted
    simp only [tallyOfRow, impliedTally, Tally.mk.injEq] at counted
    exact ⟨counted.2.2, counted.1⟩
  cases scope with
  | daily =>
      obtain ⟨tokens, requests⟩ := counter rows.daily guards.daily
      rw [← tokens, ← requests]
      exact ⟨rfl, rfl⟩
  | lifetime =>
      obtain ⟨tokens, requests⟩ := counter rows.lifetime guards.lifetime
      rw [← tokens, ← requests]
      exact ⟨rfl, rfl⟩

/-- The event of a finalization is a snapshot after the events of its key. -/
theorem Recalls.snapshot (recalls : Recalls ledger) (conserved : Conserved ledger)
    (found : ledger.operations.find? operation.id = some operation)
    (guards : Finalizable ledger eventId operation rows terminal) {key : QuotaKey}
    (counted : CountedUnder key operation) :
    Snapshot key.scope (reported ledger key)
      (writtenEvent eventId operation rows terminal) := by
  have more := eventShare_lt_requestShare (Table.mem_of_find? found) guards.pending counted
  obtain ⟨tokens, requests⟩ := writtenEvent_after conserved guards key.scope
  have sameKey : operation.quotaKey key.scope = key := counted
  rw [sameKey] at tokens requests
  refine ⟨?_, ?_, ?_⟩
  · rw [tokens, List.map_append, List.sum_append, recalls.consumed]
    simp [writtenEvent, terminalEvent]
  · have length := recalls.counted key
    rw [requests, List.length_append, List.length_singleton]
    push_cast
    omega
  · intro other member
    rw [requests]
    exact recalls.bounded key other member

end Finalization

theorem Recalls.finalized {ledger : Ledger} (recalls : Recalls ledger)
    (conserved : Conserved ledger) {eventId : String} {operation : ApiCallOperation}
    {rows : QuotaRows} {terminal : OperationTerminal}
    (found : ledger.operations.find? operation.id = some operation)
    (guards : Finalizable ledger eventId operation rows terminal) :
    Recalls (finalizedLedger ledger eventId operation rows terminal) := by
  have terminalStatus : (terminalOperation terminal operation).status ≠ .pending := by
    simp only [terminalOperation]
    cases terminal.status <;> decide
  have sameCounted : ∀ key, CountedUnder key (terminalOperation terminal operation) ↔
      CountedUnder key operation := fun _ => Iff.rfl
  have written : ∀ column : ApiCallOperation → Int,
      (finalizedLedger ledger eventId operation rows terminal).operations.total column =
        ledger.operations.total column +
          (column (terminalOperation terminal operation) - column operation) :=
    fun column =>
      @Table.total_modify _ _ _ _ _ (terminalOperation_id terminal) _ _ _ column found
  have sameRequests : ∀ key,
      (finalizedLedger ledger eventId operation rows terminal).operations.total
        (requestShare key) = ledger.operations.total (requestShare key) := by
    intro key
    rw [written]
    simp [requestShare, sameCounted]
  refine ⟨?_, ?_, ?_, ?_, ?_⟩
  · intro key
    have before := recalls.consumed key
    rw [reported_finalized guards.newEvent, written]
    by_cases counted : CountedUnder key operation
    · have tokens : (terminalOperation terminal operation).totalTokens = operation.totalTokens :=
        rfl
      simp only [if_pos counted, List.map_append, List.sum_append, before]
      simp [consumedShare, sameCounted, counted, terminalStatus, guards.pending, tokens,
        writtenEvent, terminalEvent]
    · simp [consumedShare, sameCounted, counted, before]
  · intro key
    have before := recalls.counted key
    rw [reported_finalized guards.newEvent, written]
    by_cases counted : CountedUnder key operation
    · simp only [if_pos counted, List.length_append, Nat.cast_add, before]
      simp [eventShare, sameCounted, counted, terminalStatus, guards.pending]
    · simp [eventShare, sameCounted, counted, before]
  · intro key event member
    rw [sameRequests]
    rw [reported_finalized guards.newEvent] at member
    split at member
    · rename_i counted
      rcases List.mem_append.mp member with old | new
      · exact recalls.bounded key event old
      · obtain rfl := List.mem_singleton.mp new
        obtain ⟨_, requests⟩ := writtenEvent_after conserved guards key.scope
        have sameKey : operation.quotaKey key.scope = key := counted
        rw [requests, sameKey]
    · exact recalls.bounded key event member
  · intro key
    rw [reported_finalized guards.newEvent]
    split
    · rename_i counted
      exact (recalls.snapshots key).snoc (recalls.snapshot conserved found guards counted)
    · exact recalls.snapshots key
  · intro event member
    have fresh : ledger.events.find? (writtenEvent eventId operation rows terminal).id = none :=
      guards.newEvent
    rcases (Table.mem_insertNew fresh).mp member with old | rfl
    · obtain ⟨other, otherMember, describes⟩ := recalls.described event old
      exact ⟨other, mem_updateOperation (terminalOperation_id terminal) otherMember
        (ne_of_pending found guards.pending otherMember describes.terminal), describes⟩
    · refine ⟨terminalOperation terminal operation,
        (Table.mem_modify (terminalOperation_id terminal)).mpr
          ⟨operation, Table.mem_of_find? found, (if_pos rfl).symm⟩, ?_⟩
      exact ⟨rfl, rfl, terminalStatus, rfl, rfl, rfl⟩

/-! ## Runs -/

/-- A conserved ledger whose event table recalls its operations. -/
structure Chronicled (ledger : Ledger) : Prop where
  conserved : Conserved ledger
  recalls : Recalls ledger

theorem Recalls.transact {ledger after : Ledger} (recalls : Recalls ledger)
    (conserved : Conserved ledger) {call : LedgerCall}
    (committed : call.transact ledger = .ok after) : Recalls after := by
  cases call with
  | reserve callers request =>
      obtain ⟨reservation, reserved⟩ := snd_map_ok committed
      obtain ⟨client, rows, admitted, rfl⟩ := reserveOperation_ok reserved
      exact recalls.reserved admitted.newOperation
  | recordCredit operationId settlementId usageOperationId now =>
      obtain ⟨operation, found, pending, outcome⟩ := recordCreditReservation_ok committed
      obtain rfl := Table.key_of_find? found
      rcases outcome with ⟨_, _, rfl⟩ | ⟨_, _, rfl⟩
      · exact recalls
      · exact recalls.pendingUpdate (keepsAccounting_creditRow _ _ _) found pending
  | recordUsage operationId promptTokens completionTokens now =>
      obtain ⟨_, _, operation, ⟨found, pending⟩, _, rfl⟩ :=
        recordProviderUsage_ok_iff.mp committed
      obtain rfl := Table.key_of_find? found
      exact recalls.pendingUpdate (keepsAccounting_usageRow _ _ _) found pending
  | touch operationId now =>
      obtain ⟨touched, result⟩ := snd_map_ok committed
      obtain ⟨operation, found, outcome⟩ := touchPendingOperation_ok result
      obtain rfl := Table.key_of_find? found
      rcases outcome with ⟨pending, _, rfl⟩ | ⟨_, _, rfl⟩
      · exact recalls.pendingUpdate (keepsAccounting_touchRow _) found pending
      · exact recalls
  | finalize operationId eventId terminal =>
      obtain ⟨snapshot, result⟩ := snd_map_ok committed
      obtain ⟨operation, rows, found, _, _, _, outcome⟩ := finalizeOperation_ok_iff.mp result
      rcases outcome with ⟨_, _, _, _, _, _, rfl⟩ | ⟨guards, _, rfl⟩
      · exact recalls
      · obtain rfl := Table.key_of_find? found
        exact recalls.finalized conserved found guards

theorem chronicled_reachable (calls : List LedgerCall) :
    Chronicled (run Ledger.empty calls) := by
  refine run_invariant (fun _ before committed => ?_) ⟨conserved_empty, recalls_empty⟩ calls
    fun _ _ => trivial
  exact ⟨before.conserved.transact committed, before.recalls.transact before.conserved committed⟩

/-- The events of a client, in commit order. -/
def eventHistory (ledger : Ledger) (client : String) : List ApiCallEvent :=
  ledger.events.rows.filter fun event => decide (event.apiClientId = some client)

/-- The events of a history whose operation started on the day of an event. -/
def sameDay (event : ApiCallEvent) (history : List ApiCallEvent) : List ApiCallEvent :=
  history.filter fun other => decide (dayStart other.startedAt = dayStart event.startedAt)

theorem eventHistory_eq (ledger : Ledger) (client : String) :
    eventHistory ledger client = reported ledger ⟨client, .lifetime, 0⟩ := by
  refine List.filter_congr fun event _ => ?_
  simp [ReportedUnder, periodOf]

theorem sameDay_eventHistory (ledger : Ledger) (client : String) (event : ApiCallEvent) :
    sameDay event (eventHistory ledger client) =
      reported ledger ⟨client, .daily, dayStart event.startedAt⟩ := by
  unfold sameDay eventHistory
  rw [List.filter_filter]
  refine List.filter_congr fun other _ => ?_
  rw [← Bool.decide_and, decide_eq_decide]
  exact and_comm

theorem sameDay_self (event : ApiCallEvent) (earlier : List ApiCallEvent) :
    sameDay event (earlier ++ [event]) = sameDay event earlier ++ [event] := by
  simp [sameDay]

theorem sameDay_split (event : ApiCallEvent) (earlier later : List ApiCallEvent) :
    sameDay event (earlier ++ event :: later) =
      sameDay event earlier ++ event :: sameDay event later := by
  simp [sameDay]

/-- **Event history telescopes.** After any sequence of ledger calls, an event of
a client was written for a terminal operation, whose start and total it carries
and whose over-run it flags; its token snapshots are the sums over the events of
the client up to it, in all and of its start day; and its request snapshots are
at least its rank there and at least those of the earlier events. -/
theorem event_history_telescopes (calls : List LedgerCall) (client : String)
    (earlier later : List ApiCallEvent) (event : ApiCallEvent)
    (history : eventHistory (run Ledger.empty calls) client = earlier ++ event :: later) :
    (event.totalTokensAfter = ((earlier ++ [event]).map ApiCallEvent.totalTokens).sum ∧
      event.dailyTokensAfter =
        ((sameDay event (earlier ++ [event])).map ApiCallEvent.totalTokens).sum) ∧
    (((earlier ++ [event]).length : Int) ≤ event.totalRequestsAfter ∧
      ∀ other ∈ earlier, other.totalRequestsAfter ≤ event.totalRequestsAfter) ∧
    (((sameDay event (earlier ++ [event])).length : Int) ≤ event.dailyRequestsAfter ∧
      ∀ other ∈ sameDay event earlier, other.dailyRequestsAfter ≤ event.dailyRequestsAfter) ∧
    ∃ operation, (run Ledger.empty calls).operations.find? operation.id = some operation ∧
      event.operationId = some operation.id ∧ operation.status ≠ .pending ∧
      event.apiClientId = some operation.apiClientId ∧
      event.startedAt = operation.startedAt ∧ event.totalTokens = operation.totalTokens ∧
      (event.quotaOverrun = true ↔ operation.reservedTokens < operation.totalTokens) := by
  obtain ⟨_, recalls⟩ := chronicled_reachable calls
  have lifetime : Snapshot .lifetime earlier event := by
    refine recalls.snapshots ⟨client, .lifetime, 0⟩ earlier event later ?_
    rw [← eventHistory_eq]
    exact history
  have daily : Snapshot .daily (sameDay event earlier) event := by
    refine recalls.snapshots ⟨client, .daily, dayStart event.startedAt⟩ _ event
      (sameDay event later) ?_
    rw [← sameDay_eventHistory, history, sameDay_split]
  have member : event ∈ eventHistory (run Ledger.empty calls) client := by
    rw [history]
    exact List.mem_append_right _ List.mem_cons_self
  obtain ⟨operation, operationMember, describes⟩ :=
    recalls.described event (List.mem_of_mem_filter member)
  rw [sameDay_self]
  refine ⟨⟨lifetime.tokens, daily.tokens⟩, ⟨lifetime.rank, lifetime.ordered⟩,
    ⟨daily.rank, daily.ordered⟩, operation, Table.find?_of_mem operationMember, describes.named,
    describes.terminal, describes.client, describes.startedAt, describes.totalTokens, ?_⟩
  rw [describes.overrun, decide_eq_true_iff]

/-- Two operations of two days that are finalized in the other order, the first of
them over its reservation. -/
def sampleHistory : List LedgerCall :=
  [.reserve sampleCallers (sampleReservation "first" "request-number-one"),
    .reserve sampleCallers
      { sampleReservation "second" "request-number-two" with
        dailyRowId := "next day"
        now := 172800 },
    .recordUsage "first" 50 70 172801,
    .recordUsage "second" 1 2 172801,
    .finalize "second" "event two" ⟨{ sampleTerminalFields with completedAt := 172802 }, rfl⟩,
    .finalize "first" "event one"
      ⟨{ sampleTerminalFields with completedAt := 172803, serverRequestId := "other" }, rfl⟩]

theorem event_history_telescopes_sample :
    ∃ second first, eventHistory (run Ledger.empty sampleHistory) "client" = [second, first] ∧
      first.totalTokensAfter = second.totalTokens + first.totalTokens := by
  have two : (eventHistory (run Ledger.empty sampleHistory) "client").length = 2 := by
    decide +kernel
  obtain ⟨second, first, history⟩ := List.length_eq_two.mp two
  obtain ⟨⟨total, _⟩, _⟩ :=
    event_history_telescopes sampleHistory "client" [second] [] first history
  refine ⟨second, first, history, ?_⟩
  rw [total]
  simp

end Zangpu.Services.Quota
