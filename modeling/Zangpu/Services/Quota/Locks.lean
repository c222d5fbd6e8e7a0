import Zangpu.Foundation.LockTable
import Zangpu.Models.Ledger

/-!
Row locks of the ledger transactions of one client.

Owns: the row-lock modes of PostgreSQL and their conflicts; the lock requests of
each ledger transaction, statement by statement, foreign-key checks included; the
schedules in which reservations and finalizations keep apart, whose wait-for
graph is acyclic; and a schedule that deadlocks.

Does not own: what the transactions compute. An error or a deadlock abort ends a
transaction after any prefix of its requests.
-/

set_option autoImplicit false

namespace Zangpu.Services.Quota.Locks

open Zangpu.Foundation.LockTable
open Zangpu.Models

/-! ## Rows, modes and requests -/

/-- The rows of one client that ledger transactions lock. An operation is named
by its client request id, which is unique within the client. -/
inductive LedgerRow where
  | client
  | credential (credentialId : String)
  | quota (scope : QuotaScope) (periodStart : Int)
  | operation (clientRequestId : String)
  | event (clientRequestId : String)
  deriving DecidableEq, Repr

/-- `FOR KEY SHARE`, taken by a foreign-key check; `FOR NO KEY UPDATE`, taken by
an UPDATE; `FOR UPDATE`, which also stands for the lock on an inserted row. -/
inductive LockMode where
  | keyShare
  | noKeyUpdate
  | update
  deriving DecidableEq, Repr

def LockMode.conflicts : LockMode → LockMode → Bool
  | .keyShare, .update | .update, .keyShare => true
  | .keyShare, _ | _, .keyShare => false
  | _, _ => true

/-- What a reservation locks depends on the rows it finds: a missing quota row is
inserted, an existing operation is locked and the reservation refused. -/
structure ReserveLocks where
  credentialId : String
  day : Int
  clientRequestId : String
  insertsDaily : Bool
  insertsLifetime : Bool
  operationExists : Bool
  deriving DecidableEq, Repr

structure FinalizeLocks where
  credentialId : String
  day : Int
  clientRequestId : String
  deriving DecidableEq, Repr

inductive LedgerTransaction where
  | reserveOperation (locks : ReserveLocks)
  | recordCreditReservation (clientRequestId : String)
  | recordProviderUsage (clientRequestId : String)
  | touchPendingOperation (clientRequestId : String)
  | finalizeOperation (locks : FinalizeLocks)
  deriving DecidableEq, Repr

abbrev LedgerRequest := Request LedgerRow LockMode

/-- `INSERT ... ON CONFLICT DO NOTHING` of a missing quota row, with the
foreign-key check on the client. -/
def insertQuotaRow (scope : QuotaScope) (periodStart : Int) : List LedgerRequest :=
  [⟨.quota scope periodStart, .update⟩, ⟨.client, .keyShare⟩]

/-- `_locked_quota_rows`: the daily row, then the lifetime row. -/
def lockedQuotaRows (day : Int) : List LedgerRequest :=
  [⟨.quota .daily day, .update⟩, ⟨.quota .lifetime 0, .update⟩]

/-- The UPDATE statements of a flush on rows already locked. -/
def updatedQuotaRows (day : Int) : List LedgerRequest :=
  [⟨.quota .daily day, .noKeyUpdate⟩, ⟨.quota .lifetime 0, .noKeyUpdate⟩]

/-- `reserve_operation`. -/
def reserveLocks (locks : ReserveLocks) : List LedgerRequest :=
  [⟨.client, .update⟩, ⟨.credential locks.credentialId, .update⟩] ++
    (if locks.insertsDaily then insertQuotaRow .daily locks.day else []) ++
    (if locks.insertsLifetime then insertQuotaRow .lifetime 0 else []) ++
    lockedQuotaRows locks.day ++
    if locks.operationExists then [⟨.operation locks.clientRequestId, .update⟩]
    else
      updatedQuotaRows locks.day ++
        [⟨.operation locks.clientRequestId, .update⟩, ⟨.client, .keyShare⟩,
          ⟨.credential locks.credentialId, .keyShare⟩]

/-- A transaction that locks and updates one pending operation. -/
def operationLocks (clientRequestId : String) : List LedgerRequest :=
  [⟨.operation clientRequestId, .update⟩, ⟨.operation clientRequestId, .noKeyUpdate⟩]

/-- `finalize_operation`. The event insert checks its three foreign keys last. -/
def finalizeLocks (locks : FinalizeLocks) : List LedgerRequest :=
  [⟨.operation locks.clientRequestId, .update⟩,
    ⟨.quota .daily locks.day, .update⟩, ⟨.quota .lifetime 0, .update⟩,
    ⟨.quota .daily locks.day, .noKeyUpdate⟩, ⟨.quota .lifetime 0, .noKeyUpdate⟩,
    ⟨.operation locks.clientRequestId, .noKeyUpdate⟩,
    ⟨.event locks.clientRequestId, .update⟩,
    ⟨.client, .keyShare⟩, ⟨.credential locks.credentialId, .keyShare⟩,
    ⟨.operation locks.clientRequestId, .keyShare⟩]

def LedgerTransaction.locks : LedgerTransaction → List LedgerRequest
  | .reserveOperation locks => reserveLocks locks
  | .recordCreditReservation clientRequestId => operationLocks clientRequestId
  | .recordProviderUsage clientRequestId => operationLocks clientRequestId
  | .touchPendingOperation clientRequestId => operationLocks clientRequestId
  | .finalizeOperation locks => finalizeLocks locks

theorem conflicts_symmetric (left right : LockMode) :
    left.conflicts right = right.conflicts left := by
  cases left <;> cases right <;> rfl

theorem update_conflicts (mode : LockMode) : LockMode.update.conflicts mode = true := by
  cases mode <;> rfl

def ledgerLocks : Discipline LedgerRow LockMode LedgerTransaction where
  locks := LedgerTransaction.locks
  conflicts := LockMode.conflicts
  symmetric := conflicts_symmetric

/-! ## Where each request stands -/

/-- A reservation asks for the client first, and then only for rows of the
client, its credential, its quotas and its own operation. -/
theorem reserveLocks_at {locks : ReserveLocks} {index : Nat} {lock : LedgerRequest}
    (request : (reserveLocks locks)[index]? = some lock) :
    (index = 0 ∧ lock = ⟨.client, .update⟩) ∨
      (1 ≤ index ∧ (lock.row = .client ∨ lock.row = .credential locks.credentialId ∨
        (∃ scope periodStart, lock.row = .quota scope periodStart) ∨
        lock.row = .operation locks.clientRequestId)) := by
  cases index with
  | zero => exact .inl ⟨rfl, (Option.some.inj request).symm⟩
  | succ index =>
      refine .inr ⟨by omega, ?_⟩
      have member : lock ∈ reserveLocks locks := List.mem_of_getElem? request
      obtain ⟨credentialId, day, clientRequestId, insertsDaily, insertsLifetime, found⟩ := locks
      cases insertsDaily <;> cases insertsLifetime <;> cases found <;>
        simp only [reserveLocks, insertQuotaRow, lockedQuotaRows, updatedQuotaRows,
          List.mem_append, List.mem_cons, List.not_mem_nil, or_false, if_true, if_false,
          Bool.false_eq_true] at member <;>
        aesop

theorem finalizeLocks_at {locks : FinalizeLocks} {index : Nat} {lock : LedgerRequest}
    (request : (finalizeLocks locks)[index]? = some lock) :
    (index = 0 ∧ lock = ⟨.operation locks.clientRequestId, .update⟩) ∨
      (index = 1 ∧ lock = ⟨.quota .daily locks.day, .update⟩) ∨
      (index = 2 ∧ lock = ⟨.quota .lifetime 0, .update⟩) ∨
      (3 ≤ index ∧ (lock.row = .operation locks.clientRequestId ∨
        lock.row = .quota .daily locks.day ∨ lock.row = .quota .lifetime 0)) ∨
      (index = 6 ∧ lock = ⟨.event locks.clientRequestId, .update⟩) ∨
      (index = 7 ∧ lock = ⟨.client, .keyShare⟩) ∨
      (index = 8 ∧ lock = ⟨.credential locks.credentialId, .keyShare⟩) := by
  rcases index with _ | _ | _ | _ | _ | _ | _ | _ | _ | _ | index <;>
    simp only [finalizeLocks, List.getElem?_cons_zero, List.getElem?_cons_succ,
      List.getElem?_nil, Option.some.injEq, reduceCtorEq] at request <;>
    subst request <;> simp

theorem operationLocks_at {clientRequestId : String} {index : Nat} {lock : LedgerRequest}
    (request : (operationLocks clientRequestId)[index]? = some lock) :
    lock.row = .operation clientRequestId := by
  have member : lock ∈ operationLocks clientRequestId := List.mem_of_getElem? request
  simp only [operationLocks, List.mem_cons, List.not_mem_nil, or_false] at member
  rcases member with rfl | rfl <;> rfl

/-! ## Reservations and finalizations kept apart -/

section Separation

variable {Worker : Type}

abbrev LedgerState (Worker : Type) := State Worker LedgerTransaction

/-- The reservation that holds the client row, if the activity is one. -/
def clientHolder : Option (Activity LedgerTransaction) → Option ReserveLocks
  | some ⟨.reserveOperation locks, _ + 1⟩ => some locks
  | _ => none

/-- The finalization that holds its operation row, if the activity is one. -/
def operationHolder : Option (Activity LedgerTransaction) → Option FinalizeLocks
  | some ⟨.finalizeOperation locks, _ + 1⟩ => some locks
  | _ => none

/-- The finalization that holds a quota row, if the activity is one. -/
def quotaHolder : Option (Activity LedgerTransaction) → Option FinalizeLocks
  | some ⟨.finalizeOperation locks, _ + 2⟩ => some locks
  | _ => none

theorem clientHolder_eq {activity : Option (Activity LedgerTransaction)} {locks : ReserveLocks} :
    clientHolder activity = some locks ↔
      ∃ granted, activity = some ⟨.reserveOperation locks, granted + 1⟩ := by
  unfold clientHolder
  split <;> simp_all

theorem operationHolder_eq {activity : Option (Activity LedgerTransaction)}
    {locks : FinalizeLocks} :
    operationHolder activity = some locks ↔
      ∃ granted, activity = some ⟨.finalizeOperation locks, granted + 1⟩ := by
  unfold operationHolder
  split <;> simp_all

theorem quotaHolder_eq {activity : Option (Activity LedgerTransaction)}
    {locks : FinalizeLocks} :
    quotaHolder activity = some locks ↔
      ∃ granted, activity = some ⟨.finalizeOperation locks, granted + 2⟩ := by
  unfold quotaHolder
  split <;> simp_all

/-- A reservation that holds the client row beside a finalization that holds a
quota row, or the operation row of the same client request. -/
def Overlap (state : LedgerState Worker) : Prop :=
  ∃ reserving finalizing reserveLocks finalizeLocks,
    clientHolder (state reserving) = some reserveLocks ∧
      (quotaHolder (state finalizing) = some finalizeLocks ∨
        operationHolder (state finalizing) = some finalizeLocks ∧
          finalizeLocks.clientRequestId = reserveLocks.clientRequestId)

/-- The condition on the state before a grant, by what the granted worker runs. A
reservation gets the client row only while no finalization holds a quota row or
the operation row of the same client request; a finalization gets its operation
row only while no reservation of that client request holds the client row, and
its first quota row only while no reservation holds the client row. -/
def GrantSeparated (state : LedgerState Worker) :
    Option (Activity LedgerTransaction) → Prop
  | some ⟨.reserveOperation own, 0⟩ =>
      ∀ finalizing, quotaHolder (state finalizing) = none ∧
        ∀ locks ∈ operationHolder (state finalizing),
          locks.clientRequestId ≠ own.clientRequestId
  | some ⟨.finalizeOperation own, 0⟩ =>
      ∀ reserving, ∀ locks ∈ clientHolder (state reserving),
        own.clientRequestId ≠ locks.clientRequestId
  | some ⟨.finalizeOperation _, 1⟩ => ∀ reserving, clientHolder (state reserving) = none
  | _ => True

def Separated (state : LedgerState Worker) : Step Worker LedgerTransaction → Prop
  | .start _ _ => True
  | .finish _ => True
  | .grant worker => GrantSeparated state (state worker)

instance [Fintype Worker] (state : LedgerState Worker) :
    ∀ activity, Decidable (GrantSeparated state activity)
  | some ⟨.reserveOperation own, 0⟩ =>
      inferInstanceAs (Decidable (∀ finalizing, quotaHolder (state finalizing) = none ∧
        ∀ locks ∈ operationHolder (state finalizing),
          locks.clientRequestId ≠ own.clientRequestId))
  | some ⟨.finalizeOperation own, 0⟩ =>
      inferInstanceAs (Decidable (∀ reserving, ∀ locks ∈ clientHolder (state reserving),
        own.clientRequestId ≠ locks.clientRequestId))
  | some ⟨.finalizeOperation _, 1⟩ =>
      inferInstanceAs (Decidable (∀ reserving, clientHolder (state reserving) = none))
  | none => isTrue trivial
  | some ⟨.reserveOperation _, _ + 1⟩ => isTrue trivial
  | some ⟨.finalizeOperation _, _ + 2⟩ => isTrue trivial
  | some ⟨.recordCreditReservation _, _⟩ => isTrue trivial
  | some ⟨.recordProviderUsage _, _⟩ => isTrue trivial
  | some ⟨.touchPendingOperation _, _⟩ => isTrue trivial

instance [Fintype Worker] (state : LedgerState Worker) :
    ∀ step, Decidable (Separated state step)
  | .start _ _ => isTrue trivial
  | .finish _ => isTrue trivial
  | .grant worker => inferInstanceAs (Decidable (GrantSeparated state (state worker)))

variable [DecidableEq Worker]

/-- A separated step does not create an overlap. -/
theorem not_overlap_transition {before after : LedgerState Worker}
    {step : Step Worker LedgerTransaction} (apart : ¬ Overlap before)
    (separated : Separated before step)
    (transition : Transition ledgerLocks before step after) : ¬ Overlap after := by
  rintro ⟨reserving, finalizing, own, locks, reserves, holds⟩
  obtain ⟨reserved, reserveRuns⟩ := clientHolder_eq.mp reserves
  -- The finalization's share of the overlap, as its number of granted requests.
  have finalizes : ∃ granted, after finalizing = some ⟨.finalizeOperation locks, granted + 1⟩ ∧
      (1 ≤ granted ∨ locks.clientRequestId = own.clientRequestId) := by
    rcases holds with holdsQuota | ⟨holdsOperation, sameRequest⟩
    · obtain ⟨granted, runs⟩ := quotaHolder_eq.mp holdsQuota
      exact ⟨granted + 1, runs, .inl (by omega)⟩
    · obtain ⟨granted, runs⟩ := operationHolder_eq.mp holdsOperation
      exact ⟨granted, runs, .inr sameRequest⟩
  obtain ⟨granted, finalizeRuns, holds⟩ := finalizes
  have overlapBefore : ∀ earlier, before finalizing = some ⟨.finalizeOperation locks, earlier + 1⟩ →
      (1 ≤ earlier ∨ locks.clientRequestId = own.clientRequestId) →
      quotaHolder (before finalizing) = some locks ∨
        operationHolder (before finalizing) = some locks ∧
          locks.clientRequestId = own.clientRequestId := by
    intro earlier runs share
    rcases share with more | sameRequest
    · exact .inl (quotaHolder_eq.mpr ⟨earlier - 1, by rw [runs]; congr 2; omega⟩)
    · exact .inr ⟨operationHolder_eq.mpr ⟨earlier, runs⟩, sameRequest⟩
  rcases transition.granted_succ reserveRuns with reserveBefore | ⟨rfl, reserveBefore⟩
  · rcases transition.granted_succ finalizeRuns with finalizeBefore | ⟨rfl, finalizeBefore⟩
    · exact apart ⟨reserving, finalizing, own, locks,
        clientHolder_eq.mpr ⟨reserved, reserveBefore⟩,
        overlapBefore granted finalizeBefore holds⟩
    · -- The finalization was granted its operation row, a first quota row, or a later one.
      match granted, finalizeBefore, holds with
      | 0, finalizeBefore, holds =>
          rcases holds with more | sameRequest
          · omega
          · simp only [Separated, finalizeBefore, GrantSeparated] at separated
            exact separated reserving own (clientHolder_eq.mpr ⟨reserved, reserveBefore⟩)
              sameRequest
      | 1, finalizeBefore, _ =>
          simp only [Separated, finalizeBefore, GrantSeparated] at separated
          cases (separated reserving).symm.trans
            (clientHolder_eq.mpr ⟨reserved, reserveBefore⟩)
      | granted + 2, finalizeBefore, _ =>
          exact apart ⟨reserving, finalizing, own, locks,
            clientHolder_eq.mpr ⟨reserved, reserveBefore⟩,
            .inl (quotaHolder_eq.mpr ⟨granted, finalizeBefore⟩)⟩
  · have finalizeBefore : before finalizing = some ⟨.finalizeOperation locks, granted + 1⟩ := by
      rcases transition.granted_succ finalizeRuns with finalizeBefore | ⟨same, finalizeBefore⟩
      · exact finalizeBefore
      · cases same
        rw [reserveBefore] at finalizeBefore
        cases finalizeBefore
    have share := overlapBefore granted finalizeBefore holds
    cases reserved with
    | zero =>
        simp only [Separated, reserveBefore, GrantSeparated] at separated
        rcases share with holdsQuota | ⟨holdsOperation, sameRequest⟩
        · cases (separated finalizing).1.symm.trans holdsQuota
        · exact (separated finalizing).2 locks holdsOperation sameRequest
    | succ reserved =>
        exact apart ⟨reserving, finalizing, own, locks,
          clientHolder_eq.mpr ⟨reserved, reserveBefore⟩, share⟩

theorem not_overlap_run {state : LedgerState Worker}
    (run : Run ledgerLocks Separated state) : ¬ Overlap state := by
  induction run with
  | idle =>
      rintro ⟨_, _, _, _, reserves, _⟩
      cases reserves
  | step earlier meets transition inductionHypothesis =>
      exact not_overlap_transition inductionHypothesis meets transition

/-! ## No cycle -/

omit [DecidableEq Worker] in
/-- The first request of a running call is held from its grant on. -/
private theorem holds_at {state : LedgerState Worker} {worker : Worker}
    {call : LedgerTransaction} {granted : Nat} {lock : LedgerRequest}
    (runs : state worker = some ⟨call, granted⟩) (index : Nat) (early : index < granted)
    (request : call.locks[index]? = some lock) : Holds ledgerLocks state worker lock :=
  ⟨⟨call, granted⟩, runs, mem_held_iff.mpr ⟨index, early, request⟩⟩

omit [DecidableEq Worker] in
/-- A worker that holds a row for update does not wait for it. -/
private theorem not_waitsFor_own {state : LedgerState Worker}
    (compatible : Compatible ledgerLocks state) {worker holder : Worker}
    {call : LedgerTransaction} {granted : Nat} {row : LedgerRow} {request : LedgerRequest}
    (runs : state worker = some ⟨call, granted⟩) (index : Nat) (early : index < granted)
    (own : call.locks[index]? = some ⟨row, .update⟩)
    (wants : call.locks[granted]? = some request) (sameRow : row = request.row) :
    ¬ WaitsFor ledgerLocks state worker holder :=
  not_waitsFor_of_holds compatible ⟨⟨call, granted⟩, runs, wants⟩ (holds_at runs index early own)
    sameRow update_conflicts holder

omit [DecidableEq Worker] in
/-- A transaction on one operation never waits once it holds the operation. -/
private theorem operation_never_waits {state : LedgerState Worker}
    (compatible : Compatible ledgerLocks state) {worker holder : Worker}
    {call : LedgerTransaction} {clientRequestId : String} {granted : Nat}
    (single : call.locks = operationLocks clientRequestId)
    (runs : state worker = some ⟨call, granted + 1⟩) :
    ¬ WaitsFor ledgerLocks state worker holder := by
  intro waits
  obtain ⟨_, request, _, ⟨activity, running, wants⟩, _⟩ := id waits
  obtain rfl : (⟨call, granted + 1⟩ : Activity LedgerTransaction) = activity :=
    Option.some.inj (runs.symm.trans running)
  have asked : call.locks[granted + 1]? = some request := wants
  have own : call.locks[0]? = some ⟨.operation clientRequestId, .update⟩ := by
    rw [single]
    rfl
  refine not_waitsFor_own compatible runs 0 (by omega) own asked ?_ waits
  rw [single] at asked
  exact (operationLocks_at asked).symm

/-- How far a waiting transaction stands from the end of every wait chain. -/
def depth : Option (Activity LedgerTransaction) → Nat
  | some ⟨.reserveOperation _, _ + 1⟩ => 11
  | some ⟨.finalizeOperation _, granted⟩ => granted + 1
  | _ => 0

omit [DecidableEq Worker] in
/-- A reservation that holds the client row ends the chain of whoever waits for it. -/
private theorem depth_before_reserve {state : LedgerState Worker}
    (compatible : Compatible ledgerLocks state) {first second : Worker}
    (different : first ≠ second) {own : ReserveLocks} {granted : Nat}
    (holder : state second = some ⟨.reserveOperation own, granted + 1⟩)
    {activity : Activity LedgerTransaction} (running : state first = some activity)
    {request : LedgerRequest} (wants : pending? ledgerLocks activity = some request) :
    depth (some activity) < 11 := by
  obtain ⟨call, progress⟩ := activity
  have asked : call.locks[progress]? = some request := wants
  cases call with
  | reserveOperation locks =>
      cases progress with
      | zero => show 0 < 11; omega
      | succ progress =>
          -- Two reservations would hold the client row for update at once.
          have clear := compatible first second different ⟨.client, .update⟩ ⟨.client, .update⟩
            (holds_at running 0 (by omega) rfl)
            (holds_at holder 0 (by omega) rfl) rfl
          cases clear
  | finalizeOperation locks =>
      have bound : progress < (finalizeLocks locks).length :=
        (List.getElem?_eq_some_iff.mp asked).1
      simp only [finalizeLocks, List.length_cons, List.length_nil] at bound
      show progress + 1 < 11
      omega
  | recordCreditReservation clientRequestId => show 0 < 11; omega
  | recordProviderUsage clientRequestId => show 0 < 11; omega
  | touchPendingOperation clientRequestId => show 0 < 11; omega

omit [DecidableEq Worker] in
/-- Without an overlap a reservation that holds the client row waits for no
finalization. -/
private theorem reserve_not_blocked {state : LedgerState Worker} (apart : ¬ Overlap state)
    (compatible : Compatible ledgerLocks state) {first second : Worker} {own : ReserveLocks}
    {locks : FinalizeLocks} {progress granted : Nat}
    (reserves : state first = some ⟨.reserveOperation own, progress + 1⟩)
    (finalizes : state second = some ⟨.finalizeOperation locks, granted + 1⟩) :
    ¬ WaitsFor ledgerLocks state first second := by
  intro waits
  obtain ⟨_, request, lock, ⟨activity, running, wants⟩, ⟨holding, holderRuns, member⟩, sameRow,
    _⟩ := id waits
  obtain rfl : (⟨.reserveOperation own, progress + 1⟩ : Activity LedgerTransaction) = activity :=
    Option.some.inj (reserves.symm.trans running)
  obtain rfl : (⟨.finalizeOperation locks, granted + 1⟩ : Activity LedgerTransaction) = holding :=
    Option.some.inj (finalizes.symm.trans holderRuns)
  obtain ⟨index, early, stands⟩ := mem_held_iff.mp member
  have asked : (reserveLocks own)[progress + 1]? = some request := wants
  have holdsClient : clientHolder (state first) = some own :=
    clientHolder_eq.mpr ⟨progress, reserves⟩
  -- A finalization past its operation row holds a quota row.
  have early : 1 ≤ index → False := by
    intro later
    exact apart ⟨first, second, own, locks, holdsClient,
      .inl (quotaHolder_eq.mpr
        ⟨granted - 1, by rw [finalizes]; congr 2; simp only at early; omega⟩)⟩
  rcases reserveLocks_at asked with ⟨zero, _⟩ | ⟨_, row | row⟩
  · omega
  · exact not_waitsFor_own compatible reserves 0 (by omega) rfl asked row.symm waits
  · rcases finalizeLocks_at stands with ⟨_, rfl⟩ | ⟨rfl, _⟩ | ⟨rfl, _⟩ | ⟨late, _⟩ | ⟨rfl, _⟩ |
      ⟨rfl, _⟩ | ⟨rfl, _⟩
    · rcases row with row | ⟨scope, periodStart, row⟩ | row
      · rw [row] at sameRow
        cases sameRow
      · rw [row] at sameRow
        cases sameRow
      · rw [row] at sameRow
        exact apart ⟨first, second, own, locks, holdsClient,
          .inr ⟨operationHolder_eq.mpr ⟨granted, finalizes⟩, LedgerRow.operation.inj sameRow⟩⟩
    all_goals exact early (by omega)

omit [DecidableEq Worker] in
/-- Among finalizations the waiting one is less far than the one it waits for. -/
private theorem finalize_progress {state : LedgerState Worker}
    (compatible : Compatible ledgerLocks state) {first second : Worker}
    {own locks : FinalizeLocks} {progress granted : Nat}
    (waiting : state first = some ⟨.finalizeOperation own, progress⟩)
    (holding : state second = some ⟨.finalizeOperation locks, granted⟩)
    (waits : WaitsFor ledgerLocks state first second) : progress < granted := by
  obtain ⟨_, request, lock, ⟨activity, running, wants⟩, ⟨holder, holderRuns, member⟩, sameRow,
    _⟩ := id waits
  obtain rfl : (⟨.finalizeOperation own, progress⟩ : Activity LedgerTransaction) = activity :=
    Option.some.inj (waiting.symm.trans running)
  obtain rfl : (⟨.finalizeOperation locks, granted⟩ : Activity LedgerTransaction) = holder :=
    Option.some.inj (holding.symm.trans holderRuns)
  obtain ⟨index, early, stands⟩ := mem_held_iff.mp member
  have asked : (finalizeLocks own)[progress]? = some request := wants
  simp only at early
  -- A row asked for the second time is already held.
  have repeated : 3 ≤ progress → (request.row = .operation own.clientRequestId ∨
      request.row = .quota .daily own.day ∨ request.row = .quota .lifetime 0) → False := by
    intro late row
    rcases row with row | row | row
    · exact not_waitsFor_own compatible waiting 0 (by omega) rfl asked row.symm waits
    · exact not_waitsFor_own compatible waiting 1 (by omega) rfl asked row.symm waits
    · exact not_waitsFor_own compatible waiting 2 (by omega) rfl asked row.symm waits
  rcases finalizeLocks_at asked with ⟨rfl, rfl⟩ | ⟨rfl, rfl⟩ | ⟨rfl, rfl⟩ | ⟨late, row⟩ |
    ⟨rfl, rfl⟩ | ⟨rfl, rfl⟩ | ⟨rfl, rfl⟩
  case inr.inr.inr.inl => exact (repeated late row).elim
  all_goals
    rcases finalizeLocks_at stands with ⟨rfl, rfl⟩ | ⟨rfl, rfl⟩ | ⟨rfl, rfl⟩ | ⟨late, row⟩ |
      ⟨rfl, rfl⟩ | ⟨rfl, rfl⟩ | ⟨rfl, rfl⟩ <;>
      simp_all <;> omega

omit [DecidableEq Worker] in
/-- Compatible locks without an overlap leave no cycle. -/
theorem acyclic_of_not_overlap {state : LedgerState Worker}
    (compatible : Compatible ledgerLocks state) (apart : ¬ Overlap state) :
    Acyclic ledgerLocks state := by
  refine acyclic_of_measure (fun worker => depth (state worker)) ?_
  intro first second third waits waitsNext
  obtain ⟨different, request, _, ⟨activity, running, wants⟩, ⟨⟨call, granted⟩, holds, member⟩,
    _⟩ := id waits
  obtain ⟨index, early, _⟩ := mem_held_iff.mp member
  simp only [running, holds]
  cases granted with
  | zero => simp at early
  | succ granted =>
      cases call with
      | recordCreditReservation _ =>
          exact absurd waitsNext (operation_never_waits compatible rfl holds)
      | recordProviderUsage _ =>
          exact absurd waitsNext (operation_never_waits compatible rfl holds)
      | touchPendingOperation _ =>
          exact absurd waitsNext (operation_never_waits compatible rfl holds)
      | reserveOperation own =>
          exact depth_before_reserve compatible different holds running wants
      | finalizeOperation locks =>
          obtain ⟨waiting, progress⟩ := activity
          cases waiting with
          | reserveOperation own =>
              cases progress with
              | zero => exact Nat.succ_pos _
              | succ progress =>
                  exact absurd waits (reserve_not_blocked apart compatible running holds)
          | finalizeOperation own =>
              exact Nat.succ_lt_succ (finalize_progress compatible running holds waits)
          | recordCreditReservation _ => exact Nat.succ_pos _
          | recordProviderUsage _ => exact Nat.succ_pos _
          | touchPendingOperation _ => exact Nat.succ_pos _

end Separation

/-! ## Two schedules of two workers -/

def sampleReserve : LedgerTransaction :=
  .reserveOperation ⟨"credential", 86400, "request-new", false, false, false⟩

def sampleFinalize : LedgerTransaction :=
  .finalizeOperation ⟨"credential", 86400, "request-old"⟩

/-- The finalization takes its operation and quota rows, the reservation takes the
client and the credential, and the event insert then asks for the client. -/
def crossingSchedule : List (Step Bool LedgerTransaction) :=
  [.start true sampleFinalize, .start false sampleReserve, .grant true, .grant true, .grant true,
    .grant false, .grant false, .grant true, .grant true, .grant true, .grant true]

/-- The reservation runs to its quota rows first, and the finalization waits for them. -/
def separatedSchedule : List (Step Bool LedgerTransaction) :=
  [.start false sampleReserve, .start true sampleFinalize, .grant false, .grant false,
    .grant false, .grant false, .grant true]

/-! ## The wait-for graph -/

/-- **No deadlock while reservations and finalizations keep apart.** In every run
whose grants are separated the wait-for graph is acyclic in every state. -/
theorem wait_for_graph_acyclic {Worker : Type} [DecidableEq Worker]
    (state : LedgerState Worker) (run : Run ledgerLocks Separated state) :
    Acyclic ledgerLocks state :=
  acyclic_of_not_overlap run.compatible (not_overlap_run run)

/-- The state a schedule of the two workers reaches. -/
private theorem schedule_runs (allowed : LedgerState Bool → Step Bool LedgerTransaction → Prop)
    [∀ state step, Decidable (allowed state step)] (steps : List (Step Bool LedgerTransaction))
    (property : LedgerState Bool → Prop)
    (evaluated : ∃ final ∈ execute ledgerLocks allowed steps (fun _ => none), property final) :
    ∃ state, Run ledgerLocks allowed state ∧ property state := by
  obtain ⟨state, done, holds⟩ := evaluated
  exact ⟨state, execute_run ledgerLocks allowed Run.idle done, holds⟩

theorem wait_for_graph_acyclic_sample :
    ∃ state : LedgerState Bool, Run ledgerLocks Separated state ∧
      WaitsFor ledgerLocks state true false ∧ Acyclic ledgerLocks state := by
  obtain ⟨state, run, waits⟩ := schedule_runs Separated separatedSchedule
    (fun state => WaitsFor ledgerLocks state true false) (by decide)
  exact ⟨state, run, waits, wait_for_graph_acyclic state run⟩

/-- A reservation and a finalization of one client can deadlock. -/
theorem reserve_and_finalize_can_deadlock :
    ¬ ∀ state : LedgerState Bool, Run ledgerLocks (fun _ _ => True) state →
      Acyclic ledgerLocks state := by
  intro always
  obtain ⟨state, run, forward, backward⟩ := schedule_runs (fun _ _ => True) crossingSchedule
    (fun state => WaitsFor ledgerLocks state true false ∧ WaitsFor ledgerLocks state false true)
    (by decide)
  exact always state run true (.tail (.single forward) backward)

end Zangpu.Services.Quota.Locks
