import Zangpu.Foundation.TicketQueue
import Zangpu.Limits.ModelPool.Guarantees

/-!
The model-pool queue is fair.

Owns: the abstract ticket queue that the keys of a pool represent at a time; that
the admit script is a poll of it and every other script only lets tickets and
leases go; the log of issued tickets of a run; and the order of grants, the
reported positions and the admission of whoever is next.

Does not own: queue limits and replies beyond the status and the position.
-/

set_option autoImplicit false

namespace Zangpu.Limits.ModelPool

open Zangpu.Foundation
open SortedSetKey

section Keys

variable {Operation : Type} [LinearOrder Operation] {now : Nat}

/-! ## The queue that keys represent -/

/-- The number of the unexpired ticket of an operation. -/
def ticketNumber (now : Nat) (queue queueExpiry : SortedSetKey Operation)
    (operation : Operation) : Option Nat :=
  match queueExpiry.zscore operation with
  | some expiry => if now < expiry then queue.zscore operation else none
  | none => none

/-- The unexpired tickets and leases of a pool. -/
def queueView (now : Nat) (active queue queueExpiry : SortedSetKey Operation) :
    TicketQueue Operation where
  tickets := ticketNumber now queue queueExpiry
  leases := { operation | ∃ score, now < score ∧ active.zscore operation = some score }

def keysView (now : Nat) (keys : PoolKeys Operation) : TicketQueue Operation :=
  queueView now keys.active keys.queue keys.queueExpiry

/-- Ticket numbers are distinct and were drawn from the counter. -/
structure Numbers (queue : SortedSetKey Operation) (sequence : CounterKey) : Prop where
  distinct : ∀ left right number, queue.zscore left = some number →
    queue.zscore right = some number → left = right
  drawn : ∀ operation number, queue.zscore operation = some number →
    ∃ last, sequence.value = some last ∧ number ≤ last

theorem numbers_empty (sequence : CounterKey) :
    Numbers (SortedSetKey.empty : SortedSetKey Operation) sequence where
  distinct _ _ _ stored := by cases stored
  drawn _ _ stored := by cases stored

/-- Numbers stay good when tickets only go. -/
theorem Numbers.lose {before after : SortedSetKey Operation} {sequence : CounterKey}
    (numbers : Numbers before sequence)
    (kept : ∀ operation number, after.zscore operation = some number →
      before.zscore operation = some number) : Numbers after sequence where
  distinct left right number leftStored rightStored :=
    numbers.distinct left right number (kept left number leftStored) (kept right number rightStored)
  drawn operation number stored := numbers.drawn operation number (kept operation number stored)

theorem Numbers.pexpire {queue : SortedSetKey Operation} {sequence : CounterKey}
    (numbers : Numbers queue sequence) (queueDeadline deadline : Nat) :
    Numbers (queue.pexpire queueDeadline) (sequence.pexpire deadline) :=
  ⟨numbers.distinct, numbers.drawn⟩

/-- The next number of the counter is larger than every drawn one. -/
theorem Numbers.lt_incr {queue : SortedSetKey Operation} {sequence : CounterKey}
    (numbers : Numbers queue sequence) {operation : Operation} {number : Nat}
    (stored : queue.zscore operation = some number) : number < sequence.incr.2 := by
  obtain ⟨last, value, bound⟩ := numbers.drawn operation number stored
  simp only [CounterKey.incr, value, Option.getD_some]
  omega

theorem Numbers.addTicket {queue : SortedSetKey Operation} {sequence : CounterKey}
    (numbers : Numbers queue sequence) {member : Operation} (absent : queue.zscore member = none) :
    Numbers (queue.zaddNX sequence.incr.2 member) sequence.incr.1 where
  distinct left right number leftStored rightStored := by
    rw [zscore_added absent] at leftStored rightStored
    split at leftStored <;> split at rightStored
    · rename_i leftSame rightSame
      exact leftSame.trans rightSame.symm
    · have later := numbers.lt_incr rightStored
      have equal := Option.some.inj leftStored
      omega
    · have later := numbers.lt_incr leftStored
      have equal := Option.some.inj rightStored
      omega
    · exact numbers.distinct left right number leftStored rightStored
  drawn operation number stored := by
    rw [zscore_added absent] at stored
    refine ⟨sequence.incr.2, rfl, ?_⟩
    split at stored
    · exact (Option.some.inj stored).ge
    · exact (numbers.lt_incr stored).le

/-! ## What the building blocks do to the queue -/

omit [LinearOrder Operation] in
theorem TicketQueue.ext_view {left right : TicketQueue Operation}
    (tickets : ∀ operation, left.tickets operation = right.tickets operation)
    (leases : ∀ operation, operation ∈ left.leases ↔ operation ∈ right.leases) : left = right := by
  obtain ⟨leftTickets, leftLeases⟩ := left
  obtain ⟨rightTickets, rightLeases⟩ := right
  rw [TicketQueue.mk.injEq]
  exact ⟨funext tickets, Set.ext leases⟩

/-- On pruned keys a ticket number is the score in the sequence set. -/
theorem ticketNumber_of_live {keys : PoolKeys Operation} (live : Live now keys)
    (sameTickets : ∀ operation, (keys.queue.zscore operation).isSome =
      (keys.queueExpiry.zscore operation).isSome) (operation : Operation) :
    ticketNumber now keys.queue keys.queueExpiry operation = keys.queue.zscore operation := by
  unfold ticketNumber
  have same := sameTickets operation
  cases ticket : keys.queueExpiry.zscore operation with
  | none =>
      rw [ticket] at same
      exact (Option.not_isSome_iff_eq_none.mp (by simp [same])).symm
  | some expiry => exact if_pos (live.queueExpiry operation expiry ticket)

/-- On pruned keys the holders are the members of the lease set. -/
theorem mem_leases_of_live {keys : PoolKeys Operation} (live : Live now keys)
    (operation : Operation) :
    operation ∈ (keysView now keys).leases ↔ operation ∈ keys.active.members := by
  rw [mem_members]
  constructor
  · rintro ⟨score, _, stored⟩
    exact ⟨score, stored⟩
  · rintro ⟨score, stored⟩
    exact ⟨score, live.active operation score stored, stored⟩

theorem hasRoom_iff {keys : PoolKeys Operation} (live : Live now keys) (limit : Nat) :
    (keysView now keys).HasRoom limit ↔ keys.active.zcard < limit := by
  rw [zcard_eq_card]
  constructor
  · intro room
    exact room _ fun operation inside => (mem_leases_of_live live operation).mpr inside
  · intro room holders held
    refine lt_of_le_of_lt (Finset.card_le_card fun operation inside => ?_) room
    exact (mem_leases_of_live live operation).mp (held operation inside)

theorem view_prunePool (keys : PoolKeys Operation) :
    keysView now (prunePool now keys) = keysView now keys := by
  refine TicketQueue.ext_view ?_ ?_
  · intro operation
    show ticketNumber now ((keys.queueExpiry.zrangebyscore now).foldl zrem keys.queue)
      ((keys.queueExpiry.zrangebyscore now).foldl zrem keys.queueExpiry) operation =
        ticketNumber now keys.queue keys.queueExpiry operation
    unfold ticketNumber
    rw [zscore_foldl_zrem, zscore_foldl_zrem]
    by_cases expired : operation ∈ keys.queueExpiry.zrangebyscore now
    · rw [if_pos expired]
      obtain ⟨expiry, passed, stored⟩ := mem_zrangebyscore.mp expired
      rw [stored]
      exact (if_neg (by omega)).symm
    · rw [if_neg expired, if_neg expired]
  · intro operation
    constructor
    · rintro ⟨score, live, stored⟩
      exact ⟨score, live, (zscore_pruned.mp stored).1⟩
    · rintro ⟨score, live, stored⟩
      exact ⟨score, live, zscore_pruned.mpr ⟨stored, live⟩⟩

theorem view_removeTicket (member : Operation) (keys : PoolKeys Operation) :
    keysView now (removeTicket member keys) =
      ⟨Function.update (keysView now keys).tickets member none, (keysView now keys).leases⟩ := by
  refine TicketQueue.ext_view ?_ fun _ => Iff.rfl
  intro operation
  show ticketNumber now (keys.queue.zrem member) (keys.queueExpiry.zrem member) operation = _
  unfold ticketNumber
  rw [zscore_zrem, zscore_zrem]
  by_cases same : operation = member
  · simp [same]
  · simp [same, keysView, queueView, ticketNumber]

theorem view_grantLease {leaseMs : Nat} {member : Operation} {keys : PoolKeys Operation}
    (positive : 0 < leaseMs) (unleased : keys.active.zscore member = none) :
    keysView now (grantLease leaseMs now member keys) =
      ⟨(keysView now keys).tickets, insert member (keysView now keys).leases⟩ := by
  refine TicketQueue.ext_view (fun _ => rfl) ?_
  intro operation
  show (∃ score, now < score ∧ ((keys.active.zaddNX (now + leaseMs) member).pexpire
    (now + leaseMs)).zscore operation = some score) ↔ _
  simp only [zscore_granted unleased, Set.mem_insert_iff]
  by_cases same : operation = member
  · rw [if_pos same]
    exact ⟨fun _ => Or.inl same, fun _ => ⟨now + leaseMs, by omega, rfl⟩⟩
  · rw [if_neg same]
    exact ⟨Or.inr, fun either => either.resolve_left same⟩

theorem view_addTicket {queueWaitMs : Nat} {member : Operation} {keys : PoolKeys Operation}
    (positive : 0 < queueWaitMs) (absent : Absent member keys) :
    keysView now (refreshQueueTtls queueWaitMs now (addTicket queueWaitMs now member keys)) =
      ⟨Function.update (keysView now keys).tickets member (some keys.sequence.incr.2),
        (keysView now keys).leases⟩ := by
  refine TicketQueue.ext_view ?_ fun _ => Iff.rfl
  intro operation
  show ticketNumber now (keys.queue.zaddNX keys.sequence.incr.2 member)
    (keys.queueExpiry.zaddNX (now + queueWaitMs) member) operation = _
  unfold ticketNumber
  rw [zscore_added absent.queue, zscore_added absent.queueExpiry]
  by_cases same : operation = member
  · simp [same, positive]
  · simp [same, keysView, queueView, ticketNumber]

/-! ## The admit script is a poll -/

/-- The status and the position of an admit reply. -/
def ReplyTells (verdict : TicketQueue.Verdict) (reply : List Int) : Prop :=
  match verdict with
  | .admitted => ∃ rest, reply = 1 :: rest
  | .waits position => ∃ active queued pooled expires observed,
      reply = [2, active, queued, pooled, (position : Int), expires, observed]
  | .refused => ∃ status rest, reply = status :: rest ∧ (status = 3 ∨ status = 4)

omit [LinearOrder Operation] in
theorem replyTells_waits (keys : PoolKeys Operation) {front : Finset Operation} {rank : Nat}
    (card : front.card = rank) (expiresAt now : Nat) :
    ReplyTells (.waits (front.card + 1)) (admitReply 2 keys (rank + 1) expiresAt now) := by
  rw [card]
  exact ⟨_, _, _, _, _, rfl⟩

variable {arguments : AdmitArguments} {own : Operation → Prop}

/-- The rank of a stored ticket counts the tickets in front of it. -/
theorem front_of_rank {keys : PoolKeys Operation} (live : Live now keys)
    (sameTickets : ∀ operation, (keys.queue.zscore operation).isSome =
      (keys.queueExpiry.zscore operation).isSome)
    (numbers : Numbers keys.queue keys.sequence) {member : Operation} {number rank : Nat}
    (stored : keys.queue.zscore member = some number)
    (ranked : keys.queue.zrank member = some rank) :
    ∃ front, front.card = rank ∧ (keysView now keys).Front member front := by
  obtain ⟨front, card, inFront⟩ := zrank_eq_card numbers.distinct stored ranked
  refine ⟨front, card, ?_⟩
  intro other
  rw [inFront]
  show _ ↔ ∃ number ticket, ticketNumber now keys.queue keys.queueExpiry member = some number ∧
    ticketNumber now keys.queue keys.queueExpiry other = some ticket ∧ ticket < number
  rw [ticketNumber_of_live live sameTickets, ticketNumber_of_live live sameTickets, stored]
  simp

/-- The first rank is the rank of the head. -/
theorem head_iff_rank {keys : PoolKeys Operation} (live : Live now keys)
    (sameTickets : ∀ operation, (keys.queue.zscore operation).isSome =
      (keys.queueExpiry.zscore operation).isSome)
    (numbers : Numbers keys.queue keys.sequence) {member : Operation} {number rank : Nat}
    (stored : keys.queue.zscore member = some number)
    (ranked : keys.queue.zrank member = some rank) :
    (keysView now keys).Head member ↔ rank = 0 := by
  obtain ⟨front, card, inFront⟩ := zrank_eq_card numbers.distinct stored ranked
  have ticket : ∀ operation, (keysView now keys).tickets operation = keys.queue.zscore operation :=
    ticketNumber_of_live live sameTickets
  constructor
  · rintro ⟨own, held, smallest⟩
    rw [ticket, stored, Option.some.injEq] at held
    rw [← card, Finset.card_eq_zero, Finset.eq_empty_iff_forall_notMem]
    intro other inside
    obtain ⟨smaller, otherStored, less⟩ := (inFront other).mp inside
    have bound := smallest other smaller ((ticket other).trans otherStored)
    omega
  · intro first
    refine ⟨number, (ticket member).trans stored, ?_⟩
    intro other otherNumber held
    rw [ticket] at held
    by_contra less
    have inside := (inFront other).mpr ⟨otherNumber, held, by omega⟩
    rw [first, Finset.card_eq_zero] at card
    rw [card] at inside
    cases inside

theorem idle_iff_zcard {keys : PoolKeys Operation} (live : Live now keys)
    (sameTickets : ∀ operation, (keys.queue.zscore operation).isSome =
      (keys.queueExpiry.zscore operation).isSome) :
    (keysView now keys).Idle ↔ keys.queue.zcard = 0 := by
  have ticket : ∀ operation, (keysView now keys).tickets operation = keys.queue.zscore operation :=
    ticketNumber_of_live live sameTickets
  constructor
  · intro idle
    rw [zcard_eq_card, Finset.card_eq_zero, Finset.eq_empty_iff_forall_notMem]
    intro operation inside
    obtain ⟨number, stored⟩ := mem_members.mp inside
    cases (idle operation).symm.trans ((ticket operation).trans stored)
  · intro none operation
    exact (ticket operation).trans (zscore_of_zcard_eq_zero none operation)

/-- What the admit script makes of its keys and answers. -/
structure AdmitPolls (arguments : AdmitArguments) (now : Nat) (member : Operation)
    (before : PoolKeys Operation) (outcome : PoolKeys Operation × List Int) : Prop where
  polls : ∃ verdict, TicketQueue.Poll arguments.activeLimit (keysView now before) member verdict
    (keysView now outcome.1) ∧ ReplyTells verdict outcome.2
  numbers : Numbers outcome.1.queue outcome.1.sequence

theorem admitNewcomer_polls {keys : PoolKeys Operation}
    (sound : KeysSound arguments now own keys) (live : Live now keys)
    (leases : 0 < arguments.leaseMs) (waits : 0 < arguments.queueWaitMs)
    (numbers : Numbers keys.queue keys.sequence) {member : Operation}
    (absent : Absent member keys) :
    AdmitPolls arguments now member keys (admitNewcomer arguments now member keys) := by
  have unheld : member ∉ (keysView now keys).leases := by
    rintro ⟨score, _, stored⟩
    cases absent.active.symm.trans stored
  have newcomer : (keysView now keys).tickets member = none :=
    (ticketNumber_of_live live sound.sameTickets member).trans absent.queue
  have freeIff : (keysView now keys).HasRoom arguments.activeLimit ∧ (keysView now keys).Idle ↔
      keys.active.zcard < arguments.activeLimit ∧ keys.queue.zcard = 0 :=
    and_congr (hasRoom_iff live _) (idle_iff_zcard live sound.sameTickets)
  unfold admitNewcomer
  by_cases free : keys.active.zcard < arguments.activeLimit ∧ keys.queue.zcard = 0
  · rw [if_pos free]
    obtain ⟨room, idle⟩ := freeIff.mpr free
    refine ⟨⟨.admitted, ?_, ⟨_, rfl⟩⟩, numbers⟩
    simp only
    rw [view_grantLease leases absent.active]
    exact .grantNewcomer unheld room idle
  · rw [if_neg free]
    have blocked := fun both => free (freeIff.mp both)
    by_cases full : arguments.queueLimit = 0 ∨ arguments.queueLimit ≤ keys.globalQueue.zcard
    · rw [if_pos full]
      exact ⟨⟨.refused, .refuse unheld newcomer blocked, ⟨_, _, rfl, Or.inr rfl⟩⟩, numbers⟩
    · rw [if_neg full]
      by_cases callerFull : arguments.callerQueueLimit ≤ keys.callerQueue.zcard
      · rw [if_pos callerFull]
        exact ⟨⟨.refused, .refuse unheld newcomer blocked, ⟨_, _, rfl, Or.inl rfl⟩⟩, numbers⟩
      · -- The new ticket is the last one, so its front is everyone in the queue.
        rw [if_neg callerFull]
        have queued := sound.addTicket absent (by omega) (by omega)
        have queuedLive := live_addTicket live waits absent
        have queuedNumbers : Numbers (refreshQueueTtls arguments.queueWaitMs now
            (addTicket arguments.queueWaitMs now member keys)).queue
            (refreshQueueTtls arguments.queueWaitMs now
              (addTicket arguments.queueWaitMs now member keys)).sequence :=
          (numbers.addTicket absent.queue).pexpire _ _
        have inside : (refreshQueueTtls arguments.queueWaitMs now
            (addTicket arguments.queueWaitMs now member keys)).queue.zscore member =
              some keys.sequence.incr.2 :=
          (zscore_added absent.queue).trans (if_pos rfl)
        obtain ⟨rank, ranked⟩ := zrank_isSome inside
        obtain ⟨front, card, before⟩ :=
          front_of_rank queuedLive queued.sameTickets queuedNumbers inside ranked
        simp only [ranked]
        refine ⟨⟨.waits (front.card + 1), ?_, replyTells_waits _ card _ _⟩, queuedNumbers⟩
        · rw [view_addTicket waits absent] at before ⊢
          refine .join unheld newcomer blocked ?_ before
          intro other ticket held
          rw [show (keysView now keys).tickets other = keys.queue.zscore other from
            ticketNumber_of_live live sound.sameTickets other] at held
          exact numbers.lt_incr held

theorem admitPruned_polls {keys : PoolKeys Operation}
    (sound : KeysSound arguments now own keys) (live : Live now keys)
    (leases : 0 < arguments.leaseMs) (waits : 0 < arguments.queueWaitMs)
    (callerLive : ∀ operation score, keys.callerQueue.zscore operation = some score →
      now < score)
    (numbers : Numbers keys.queue keys.sequence) {member : Operation} (mine : own member) :
    AdmitPolls arguments now member keys (admitPruned arguments now member keys) := by
  have removed : Numbers (keys.queue.zrem member) keys.sequence :=
    numbers.lose fun operation number stored => (loses_zrem _ _ operation number stored).1
  unfold admitPruned
  cases leased : keys.active.zscore member with
  | some expiry =>
      have alive := live.active member expiry leased
      have unticketed : (keysView now keys).tickets member = none := by
        show ticketNumber now keys.queue keys.queueExpiry member = none
        unfold ticketNumber
        cases ticket : keys.queueExpiry.zscore member with
        | none => rfl
        | some other =>
            have passed := sound.exclusive member expiry other leased alive ticket
            exact if_neg (by omega)
      refine ⟨⟨.admitted, ?_, ⟨_, rfl⟩⟩, removed⟩
      have same : keysView now { removeTicket member keys with
          active := (removeTicket member keys).active.pexpire (now + arguments.leaseMs) } =
            keysView now keys := by
        refine (view_removeTicket member keys).trans ?_
        rw [← unticketed, Function.update_eq_self]
      simp only
      rw [same]
      exact .confirm ⟨expiry, alive, leased⟩
  | none =>
      have unheld : member ∉ (keysView now keys).leases := by
        rintro ⟨score, _, stored⟩
        cases leased.symm.trans stored
      cases queued : keys.queueExpiry.zscore member with
      | none =>
          exact admitNewcomer_polls sound live leases waits numbers
            (sound.absent live callerLive mine leased queued)
      | some ticket =>
          have ticketed : (keys.queue.zscore member).isSome := by
            rw [sound.sameTickets, queued]
            rfl
          obtain ⟨number, stored⟩ := Option.isSome_iff_exists.mp ticketed
          obtain ⟨rank, ranked⟩ := zrank_isSome stored
          have headIff := head_iff_rank live sound.sameTickets numbers stored ranked
          simp only [ranked]
          by_cases head : rank = 0 ∧ keys.active.zcard < arguments.activeLimit
          · rw [if_pos head, deleteEmptyQueues_eq]
            refine ⟨⟨.admitted, ?_, ⟨_, rfl⟩⟩, removed⟩
            simp only
            have unleased : (removeTicket member keys).active.zscore member = none := leased
            rw [view_grantLease leases unleased, view_removeTicket]
            exact .grantHead unheld ((hasRoom_iff live _).mpr head.2) (headIff.mpr head.1)
          · rw [if_neg head]
            obtain ⟨front, card, before⟩ :=
              front_of_rank live sound.sameTickets numbers stored ranked
            refine ⟨⟨.waits (front.card + 1), ?_, replyTells_waits _ card _ _⟩,
              numbers.pexpire _ _⟩
            refine .wait unheld
              ((ticketNumber_of_live live sound.sameTickets member).trans stored) ?_ before
            rintro ⟨room, first⟩
            exact head ⟨headIff.mp first, (hasRoom_iff live _).mp room⟩

theorem admitScript_polls {keys : PoolKeys Operation}
    (sound : KeysSound arguments now own keys) (leases : 0 < arguments.leaseMs)
    (waits : 0 < arguments.queueWaitMs) (numbers : Numbers keys.queue keys.sequence)
    (member : Operation) (mine : own member) :
    AdmitPolls arguments now member keys (admitScript arguments now member keys) := by
  have live : Live now (pruneCaller now (prunePool now keys)) :=
    ⟨(live_prunePool keys).active, (live_prunePool keys).queueExpiry,
      (live_prunePool keys).globalQueue⟩
  have prunedNumbers : Numbers (pruneCaller now (prunePool now keys)).queue keys.sequence :=
    numbers.lose fun operation number stored =>
      (loses_foldl_zrem _ _ operation number stored).1
  have pruned := admitPruned_polls sound.prunePool.pruneCaller live leases waits
    (fun _ _ stored => (zscore_pruned.mp stored).2) prunedNumbers mine
  have same : keysView now (pruneCaller now (prunePool now keys)) = keysView now keys :=
    view_prunePool keys
  refine ⟨?_, pruned.numbers⟩
  rw [← same]
  exact pruned.polls

/-! ## The other scripts let go -/

theorem heartbeatScript_fades (leaseMs : Nat) (keys : PoolKeys Operation) (member : Operation) :
    (keysView now keys).Fades (keysView now { keys with
      active := (heartbeatScript leaseMs now member keys.active).1 }) := by
  refine ⟨fun _ => Or.inl rfl, ?_⟩
  rintro operation ⟨score, live, stored⟩
  unfold heartbeatScript at stored
  cases present : keys.active.zscore member with
  | none =>
      simp only [present] at stored
      exact ⟨score, live, (loses_zrem _ _ operation score stored).1⟩
  | some expiry =>
      simp only [present] at stored
      by_cases expired : expiry ≤ now
      · rw [if_pos expired] at stored
        exact ⟨score, live, (loses_zrem _ _ operation score stored).1⟩
      · rw [if_neg expired, zscore_renewed present] at stored
        split at stored
        · rename_i same
          exact ⟨expiry, by omega, same ▸ present⟩
        · exact ⟨score, live, stored⟩

theorem releaseScript_fades (keys : PoolKeys Operation) (member : Operation) :
    (keysView now keys).Fades (keysView now { keys with
      active := (releaseScript member keys.active).1 }) := by
  refine ⟨fun _ => Or.inl rfl, ?_⟩
  rintro operation ⟨score, live, stored⟩
  simp only [releaseScript, delEmpty_eq] at stored
  exact ⟨score, live, (loses_zrem _ _ operation score stored).1⟩

theorem cancelScript_fades (keys : PoolKeys Operation) (member : Operation) :
    (keysView now keys).Fades (keysView now (cancelScript member keys).1) := by
  simp only [cancelScript, deleteEmptyQueues_eq, view_removeTicket]
  refine ⟨?_, subset_rfl⟩
  intro operation
  by_cases same : operation = member
  · exact Or.inr (by simp [same])
  · exact Or.inl (Function.update_of_ne same _ _)

end Keys

section Store

variable {Pool Caller Operation : Type} [LinearOrder Operation]

/-! ## The queues of a store -/

/-- The queue of a pool at a time. -/
def PoolStore.view (store : PoolStore Pool Caller Operation) (now : Nat) (pool : Pool) :
    TicketQueue Operation :=
  queueView now (store.active pool) (store.queue pool) (store.queueExpiry pool)

/-- The ticket numbers of every pool are good. -/
def NumberedStore (store : PoolStore Pool Caller Operation) : Prop :=
  ∀ pool, Numbers (store.queue pool) (store.sequence pool)

variable {configuration : PoolConfiguration Pool Caller Operation} {now later : Nat}
  {store : PoolStore Pool Caller Operation}

/-- While a ticket is stored its pool keeps the sequence set and the counter. -/
theorem Sound.alive (sound : Sound configuration now store) {pool : Pool} {operation : Operation}
    {expiry : Nat} (kept : ((store.queueExpiry pool).expire later).zscore operation = some expiry) :
    (store.queue pool).expire later = store.queue pool ∧
      (store.sequence pool).expire later = store.sequence pool := by
  have ticket := zscore_of_expire kept
  obtain ⟨_, queueDue, sequenceDue⟩ := sound.dueTogether pool operation expiry ticket
  have alive : ¬ ∃ deadline ∈ (store.queueExpiry pool).deadline, deadline ≤ later := by
    intro passed
    rw [zscore_expire, if_pos passed] at kept
    cases kept
  constructor
  · unfold SortedSetKey.expire
    rw [queueDue, if_neg alive]
  · unfold CounterKey.expire
    rw [sequenceDue, if_neg alive]

/-- Dropping the keys that fall due changes no queue. -/
theorem view_expire (sound : Sound configuration now store) (pool : Pool) :
    (store.expire later).view later pool = store.view later pool := by
  refine TicketQueue.ext_view ?_ ?_
  · intro operation
    show ticketNumber later ((store.queue pool).expire later)
      ((store.queueExpiry pool).expire later) operation =
        ticketNumber later (store.queue pool) (store.queueExpiry pool) operation
    unfold ticketNumber
    cases kept : ((store.queueExpiry pool).expire later).zscore operation with
    | some expiry =>
        rw [zscore_of_expire kept, (sound.alive kept).1]
    | none =>
        cases ticket : (store.queueExpiry pool).zscore operation with
        | none => rfl
        | some expiry =>
            refine (if_neg ?_).symm
            intro live
            cases kept.symm.trans ((sound.ticketCover pool).expire_keeps live ticket)
  · intro operation
    constructor
    · rintro ⟨score, live, stored⟩
      exact ⟨score, live, zscore_of_expire stored⟩
    · rintro ⟨score, live, stored⟩
      exact ⟨score, live, (sound.leaseCover pool).expire_keeps live stored⟩

/-- The passage of time lets tickets and leases go. -/
theorem view_fades (store : PoolStore Pool Caller Operation) (passes : now ≤ later) (pool : Pool) :
    (store.view now pool).Fades (store.view later pool) := by
  constructor
  · intro operation
    show ticketNumber later _ _ operation = ticketNumber now _ _ operation ∨
      ticketNumber later _ _ operation = none
    unfold ticketNumber
    cases (store.queueExpiry pool).zscore operation with
    | none => exact Or.inl rfl
    | some expiry =>
        by_cases live : later < expiry
        · exact Or.inl ((if_pos live).trans (if_pos (by omega)).symm)
        · exact Or.inr (if_neg live)
  · rintro operation ⟨score, live, stored⟩
    exact ⟨score, by omega, stored⟩

theorem NumberedStore.expire (numbered : NumberedStore store)
    (sound : Sound configuration now store) (passes : now ≤ later) :
    NumberedStore (store.expire later) := by
  intro pool
  refine ⟨?_, ?_⟩
  · intro left right number leftStored rightStored
    exact (numbered pool).distinct left right number (zscore_of_expire leftStored)
      (zscore_of_expire rightStored)
  · intro operation number stored
    have ticketed : (((store.expire later).queueExpiry pool).zscore operation).isSome := by
      rw [← (sound.expire passes).sameTickets, stored]
      rfl
    obtain ⟨expiry, kept⟩ := Option.isSome_iff_exists.mp ticketed
    show ∃ last, ((store.sequence pool).expire later).value = some last ∧ number ≤ last
    rw [(sound.alive kept).2]
    exact (numbered pool).drawn operation number (zscore_of_expire stored)

/-- Nobody holds a lease and a ticket. -/
theorem Sound.unticketed (sound : Sound configuration now store) {pool : Pool}
    {operation : Operation} (held : operation ∈ (store.view now pool).leases) :
    (store.view now pool).tickets operation = none := by
  obtain ⟨lease, live, leased⟩ := held
  show ticketNumber now _ _ operation = none
  unfold ticketNumber
  cases ticket : (store.queueExpiry pool).zscore operation with
  | none => rfl
  | some expiry =>
      have passed := sound.exclusive pool operation lease expiry leased live ticket
      exact if_neg (by omega)

/-- A ticket is one of the pool of its operation. -/
theorem Sound.ticket_home (sound : Sound configuration now store) {pool : Pool}
    {operation : Operation} {number : Nat}
    (ticket : (store.view now pool).tickets operation = some number) :
    configuration.poolOf operation = pool := by
  change ticketNumber now _ _ operation = some number at ticket
  unfold ticketNumber at ticket
  split at ticket
  · rename_i expiry stored
    exact sound.ticketHome pool operation expiry stored
  · cases ticket

variable [DecidableEq Pool] [DecidableEq Caller]

/-! ## One command -/

/-- A command leaves the queues of other pools alone. -/
theorem view_execute_other (sound : Sound configuration now store)
    (command : PoolCommand Pool Operation) {pool : Pool}
    (other : pool ≠ command.pool configuration) :
    (command.execute configuration later store).1.view later pool = store.view later pool := by
  rw [← view_expire sound pool]
  simp only [PoolStore.view, PoolCommand.execute, PoolStore.save, Function.update_of_ne other]

/-- On its own pool a command does what its script does to the keys. -/
theorem view_execute_own (command : PoolCommand Pool Operation) :
    (command.execute configuration later store).1.view later (command.pool configuration) =
      keysView later (command.script configuration later ((store.expire later).keys
        (command.pool configuration) (command.caller configuration))).1 := by
  simp only [PoolStore.view, PoolCommand.execute, PoolStore.save, Function.update_self]
  rfl

/-- **The admit command is a poll** of the queue of its pool. -/
theorem execute_admit (sound : Sound configuration now store) (passes : now ≤ later)
    (numbered : NumberedStore store) (operation : Operation) :
    ∃ verdict, TicketQueue.Poll (configuration.activeLimit (configuration.poolOf operation))
        (store.view later (configuration.poolOf operation)) operation verdict
        (((PoolCommand.admitOrEnqueue operation).execute configuration later store).1.view later
          (configuration.poolOf operation)) ∧
      ReplyTells verdict
        ((PoolCommand.admitOrEnqueue operation).execute configuration later store).2 := by
  have polls := (admitScript_polls ((sound.expire passes).keys (configuration.poolOf operation)
    (configuration.callerOf operation)) (leaseMs_pos configuration _)
    (queueWaitMs_pos configuration _) (numbered.expire sound passes _) operation ⟨rfl, rfl⟩).polls
  obtain ⟨verdict, poll, tells⟩ := polls
  refine ⟨verdict, ?_, tells⟩
  have own : ((PoolCommand.admitOrEnqueue operation).execute configuration later store).1.view later
      (configuration.poolOf operation) =
        keysView later (admitScript (configuration.arguments (configuration.poolOf operation)) later
          operation ((store.expire later).keys (configuration.poolOf operation)
            (configuration.callerOf operation))).1 :=
    view_execute_own (PoolCommand.admitOrEnqueue operation)
  rw [own, ← view_expire sound]
  exact poll

/-- Every other command lets tickets and leases of its pool go. -/
theorem execute_fades (sound : Sound configuration now store) (passes : now ≤ later)
    {command : PoolCommand Pool Operation}
    (other : ∀ operation, command ≠ .admitOrEnqueue operation) :
    (store.view later (command.pool configuration)).Fades
      ((command.execute configuration later store).1.view later (command.pool configuration)) := by
  rw [view_execute_own, ← view_expire sound]
  cases command with
  | admitOrEnqueue operation => exact absurd rfl (other operation)
  | heartbeat operation => exact heartbeatScript_fades _ ((store.expire later).keys _ _) operation
  | release operation => exact releaseScript_fades ((store.expire later).keys _ _) operation
  | cancel operation => exact cancelScript_fades ((store.expire later).keys _ _) operation
  | observe pool =>
      have pruned := observeScript_keys ((sound.expire passes).keys pool configuration.observer)
      have same : keysView later (observeScript later ((store.expire later).keys pool
          configuration.observer)).1 = (store.expire later).view later pool := by
        rw [pruned]
        exact view_prunePool _
      exact same ▸ TicketQueue.Fades.refl _

/-- One command is one move of the queue of every pool. -/
theorem execute_moves (sound : Sound configuration now store) (passes : now ≤ later)
    (numbered : NumberedStore store) (command : PoolCommand Pool Operation) (pool : Pool) :
    TicketQueue.Moves (configuration.activeLimit pool) (store.view later pool)
      ((command.execute configuration later store).1.view later pool) := by
  by_cases own : pool = command.pool configuration
  · subst own
    cases command with
    | admitOrEnqueue operation =>
        obtain ⟨verdict, polls, _⟩ := execute_admit sound passes numbered operation
        exact .poll polls
    | heartbeat | release | cancel | observe =>
        exact .fade (execute_fades sound passes (by intro operation equal; cases equal))
  · rw [view_execute_other sound command own]
    exact .fade (.refl _)

theorem NumberedStore.execute (sound : Sound configuration now store) (passes : now ≤ later)
    (numbered : NumberedStore store) (command : PoolCommand Pool Operation) :
    NumberedStore (command.execute configuration later store).1 := by
  have alive := numbered.expire sound passes
  intro pool
  by_cases own : pool = command.pool configuration
  · subst own
    simp only [PoolCommand.execute, PoolStore.save, Function.update_self]
    cases command with
    | admitOrEnqueue operation =>
        exact (admitScript_polls ((sound.expire passes).keys (configuration.poolOf operation)
          (configuration.callerOf operation)) (leaseMs_pos configuration _)
          (queueWaitMs_pos configuration _) (alive _) operation ⟨rfl, rfl⟩).numbers
    | heartbeat operation => exact alive _
    | release operation => exact alive _
    | cancel operation =>
        refine (alive (configuration.poolOf operation)).lose ?_
        intro other number stored
        simp only [PoolCommand.script, cancelScript, deleteEmptyQueues_eq] at stored
        exact (loses_zrem _ _ other number stored).1
    | observe pool =>
        have pruned := observeScript_keys ((sound.expire passes).keys pool configuration.observer)
        simp only [PoolCommand.script, PoolCommand.pool, PoolCommand.caller, pruned]
        exact (alive pool).lose fun other number stored =>
          (loses_foldl_zrem _ _ other number stored).1
  · simp only [PoolCommand.execute, PoolStore.save, Function.update_of_ne own]
    exact alive pool

/-! ## The log of a run -/

/-- A run together with the time, counted in commands, at which the current ticket
of every operation was issued. -/
structure PoolLog (Pool Caller Operation : Type) where
  index : Nat
  state : PoolState Pool Caller Operation
  issued : Operation → Option Nat

namespace PoolLog

def start (clock : Nat) : PoolLog Pool Caller Operation := ⟨0, (clock, .empty), fun _ => none⟩

/-- The clock of the next command. -/
def clock (log : PoolLog Pool Caller Operation) (timed : TimedCommand Pool Operation) : Nat :=
  log.state.1 + timed.elapsed

/-- The queue the next command finds. -/
def found (log : PoolLog Pool Caller Operation) (timed : TimedCommand Pool Operation)
    (pool : Pool) : TicketQueue Operation :=
  log.state.2.view (log.clock timed) pool

/-- The queue the next command leaves. -/
def left (configuration : PoolConfiguration Pool Caller Operation)
    (log : PoolLog Pool Caller Operation) (timed : TimedCommand Pool Operation) (pool : Pool) :
    TicketQueue Operation :=
  (timed.apply configuration log.state).2.view (log.clock timed) pool

/-- The reply of the next command. -/
def reply (configuration : PoolConfiguration Pool Caller Operation)
    (log : PoolLog Pool Caller Operation) (timed : TimedCommand Pool Operation) : List Int :=
  (timed.command.execute configuration (log.clock timed) log.state.2).2

def step (configuration : PoolConfiguration Pool Caller Operation)
    (log : PoolLog Pool Caller Operation) (timed : TimedCommand Pool Operation) :
    PoolLog Pool Caller Operation where
  index := log.index + 1
  state := timed.apply configuration log.state
  issued operation := TicketQueue.reissue log.index
    (log.found timed (configuration.poolOf operation))
    (log.left configuration timed (configuration.poolOf operation)) log.issued operation

/-- The log after more commands. -/
def run (configuration : PoolConfiguration Pool Caller Operation)
    (log : PoolLog Pool Caller Operation) (commands : List (TimedCommand Pool Operation)) :
    PoolLog Pool Caller Operation :=
  commands.foldl (step configuration) log

/-- What holds of every log: the stored state is sound and numbered, and tickets
were issued in the order of their numbers. -/
structure Good (configuration : PoolConfiguration Pool Caller Operation)
    (log : PoolLog Pool Caller Operation) : Prop where
  sound : Sound configuration log.state.1 log.state.2
  numbered : NumberedStore log.state.2
  inOrder : ∀ pool,
    TicketQueue.IssuedInOrder log.index (log.state.2.view log.state.1 pool) log.issued

variable {log : PoolLog Pool Caller Operation}

omit [DecidableEq Pool] [DecidableEq Caller] in
theorem good_start (clock : Nat) : Good configuration (start clock) where
  sound := Sound.empty configuration clock
  numbered _ := numbers_empty _
  inOrder pool := by
    constructor
    · intro operation number ticket
      cases ticket
    · intro earlier later first second earlierNumber laterNumber ticket
      cases ticket

omit [DecidableEq Pool] [DecidableEq Caller] in
theorem found_fades (log : PoolLog Pool Caller Operation) (timed : TimedCommand Pool Operation)
    (pool : Pool) : (log.state.2.view log.state.1 pool).Fades (log.found timed pool) :=
  view_fades _ (Nat.le_add_right _ _) pool

theorem Good.moves (good : Good configuration log) (timed : TimedCommand Pool Operation)
    (pool : Pool) : TicketQueue.Moves (configuration.activeLimit pool) (log.found timed pool)
      (log.left configuration timed pool) :=
  execute_moves good.sound (Nat.le_add_right _ _) good.numbered timed.command pool

theorem Good.step (good : Good configuration log) (timed : TimedCommand Pool Operation) :
    Good configuration (log.step configuration timed) where
  sound := good.sound.execute (Nat.le_add_right _ _) timed.command
  numbered := good.numbered.execute good.sound (Nat.le_add_right _ _) timed.command
  inOrder pool := by
    have moved := ((good.inOrder pool).fades (log.found_fades timed pool)).moves (good.moves timed pool)
    have soundAfter := good.sound.execute (Nat.le_add_right log.state.1 timed.elapsed) timed.command
    -- The log reads the queue of an operation's own pool, the only one with its ticket.
    refine moved.congr ?_
    intro operation number ticket
    obtain rfl := soundAfter.ticket_home ticket
    rfl

theorem Good.run (good : Good configuration log) (commands : List (TimedCommand Pool Operation)) :
    Good configuration (log.run configuration commands) := by
  induction commands generalizing log with
  | nil => exact good
  | cons timed rest inductionHypothesis => exact inductionHypothesis (good.step timed)

/-- While a ticket lasts, its number stays and nobody gets in front of it. -/
theorem Good.same_ticket (good : Good configuration log)
    (commands : List (TimedCommand Pool Operation)) {operation : Operation} {issued : Nat}
    (logged : (log.run configuration commands).issued operation = some issued)
    (early : issued < log.index) :
    log.issued operation = some issued ∧
      ∀ number, (log.state.2.view log.state.1 (configuration.poolOf operation)).tickets operation =
          some number →
        ((log.run configuration commands).state.2.view (log.run configuration commands).state.1
            (configuration.poolOf operation)).tickets operation = some number ∧
          ∀ other ticket, ((log.run configuration commands).state.2.view
              (log.run configuration commands).state.1
              (configuration.poolOf operation)).tickets other = some ticket →
            ticket < number → (log.state.2.view log.state.1
              (configuration.poolOf operation)).tickets other = some ticket := by
  induction commands generalizing log with
  | nil => exact ⟨logged, fun number held => ⟨held, fun _ _ ticket _ => ticket⟩⟩
  | cons timed rest inductionHypothesis =>
      obtain ⟨stepLogged, kept⟩ := inductionHypothesis (good.step timed) logged
        (Nat.lt_succ_of_lt early)
      have moves := good.moves timed (configuration.poolOf operation)
      have fades := log.found_fades timed (configuration.poolOf operation)
      obtain ⟨old, new, foundTicket, leftTicket, same⟩ :=
        TicketQueue.reissue_early stepLogged early
      refine ⟨same, ?_⟩
      intro number held
      have oldEq : old = number := Option.some.inj ((fades.ticket foundTicket).symm.trans held)
      subst oldEq
      have newEq := moves.ticket_stable foundTicket leftTicket
      subst newEq
      obtain ⟨final, front⟩ := kept _ leftTicket
      refine ⟨final, ?_⟩
      intro other ticket ahead less
      exact fades.ticket (moves.front_shrinks foundTicket (front other ticket ahead less) less)

end PoolLog

/-! ## Fairness -/

/-- An accepted reply reports the position it tells. -/
theorem position_of_reply {activeLimit queueLimit position : Nat} {reply : List Int}
    {decision : ModelPoolDecision} (tells : ReplyTells (.waits position) reply)
    (checked : checkAdmitReply activeLimit queueLimit reply = .ok decision) :
    decision.queuePosition = position := by
  obtain ⟨active, queued, pooled, expires, observed, rfl⟩ := tells
  simp only [checkAdmitReply, show statusOf 2 = some .queued from rfl, bind_ok_iff, pure,
    Except.pure] at checked
  obtain ⟨_, _, _, _, _, _, _, _, _, _, _, _, _, _, built⟩ := checked
  cases built
  rfl

/-- A poll that leaves a ticket reports the number of tickets up to it. -/
theorem PoolLog.Good.position {log : PoolLog Pool Caller Operation}
    (good : PoolLog.Good configuration log) {timed : TimedCommand Pool Operation}
    {operation : Operation} (polls : timed.command = .admitOrEnqueue operation) {number : Nat}
    (ticket : (log.left configuration timed (configuration.poolOf operation)).tickets operation =
      some number) {activeLimit queueLimit : Nat} {decision : ModelPoolDecision}
    (checked : checkAdmitReply activeLimit queueLimit (log.reply configuration timed) =
      .ok decision) :
    ∃ front, (log.left configuration timed (configuration.poolOf operation)).Front operation front ∧
      decision.queuePosition = (front.card : Int) + 1 := by
  obtain ⟨elapsed, command⟩ := timed
  simp only at polls
  subst polls
  have passes : log.state.1 ≤ log.state.1 + elapsed := Nat.le_add_right _ _
  obtain ⟨verdict, poll, tells⟩ := execute_admit good.sound passes good.numbered operation
  have unheld : operation ∉ (log.state.2.view (log.state.1 + elapsed)
      (configuration.poolOf operation)).leases := by
    intro held
    have unticketed := (good.sound.expire passes).unticketed
      ((view_expire good.sound (configuration.poolOf operation)).symm ▸ held)
    rw [view_expire good.sound] at unticketed
    have kept := congrArg (fun queue => queue.tickets operation) (poll.of_held held)
    cases unticketed.symm.trans (kept.symm.trans ticket)
  obtain ⟨front, rfl, before⟩ := poll.position unheld ticket
  exact ⟨front, before, by rw [position_of_reply tells checked]; rfl⟩

/-- What a fair queue does with the next command of a run. -/
structure FairCommand (configuration : PoolConfiguration Pool Caller Operation)
    (log : PoolLog Pool Caller Operation) (timed : TimedCommand Pool Operation) : Prop where
  /-- A new lease needs a free one, and the smallest ticket or an empty queue. -/
  granted : ∀ pool operation, operation ∉ (log.found timed pool).leases →
    operation ∈ (log.left configuration timed pool).leases →
      (log.found timed pool).HasRoom (configuration.activeLimit pool) ∧
        ((log.found timed pool).Head operation ∨ (log.found timed pool).Idle)
  /-- While the earlier of two tickets is held, the later one is not admitted. -/
  firstCome : ∀ pool earlier later first second number, log.issued earlier = some first →
    log.issued later = some second → first < second →
      (log.found timed pool).tickets earlier = some number →
        later ∉ (log.found timed pool).leases →
          later ∉ (log.left configuration timed pool).leases
  /-- Whoever is next and polls while a lease is free is admitted. -/
  admitted : ∀ operation, timed.command = .admitOrEnqueue operation →
    (log.found timed (configuration.poolOf operation)).HasRoom
        (configuration.activeLimit (configuration.poolOf operation)) →
      (log.found timed (configuration.poolOf operation)).Head operation ∨
          (log.found timed (configuration.poolOf operation)).Idle →
        (∃ rest, log.reply configuration timed = 1 :: rest) ∧
          operation ∈ (log.left configuration timed (configuration.poolOf operation)).leases
  /-- For one ticket, a later poll never reports a larger position. -/
  position : ∀ operation between later number first second,
    timed.command = .admitOrEnqueue operation → later.command = .admitOrEnqueue operation →
      (log.left configuration timed (configuration.poolOf operation)).tickets operation =
          some number →
        (log.run configuration (timed :: between ++ [later])).issued operation =
            (log.step configuration timed).issued operation →
          checkAdmitReply (configuration.activeLimit (configuration.poolOf operation))
              configuration.queueLimit (log.reply configuration timed) = .ok first →
            checkAdmitReply (configuration.activeLimit (configuration.poolOf operation))
                configuration.queueLimit
                ((log.run configuration (timed :: between)).reply configuration later) =
                .ok second →
              second.queuePosition ≤ first.queuePosition

/-- A good log meets the next command fairly. -/
theorem PoolLog.Good.fair {log : PoolLog Pool Caller Operation}
    (good : PoolLog.Good configuration log) (timed : TimedCommand Pool Operation) :
    FairCommand configuration log timed where
  granted pool operation unheld granted := (good.moves timed pool).granted unheld granted
  firstCome pool earlier later first second number earlierIssued laterIssued less held unheld :=
    ((good.inOrder pool).fades (log.found_fades timed pool)).not_granted (good.moves timed pool)
      earlierIssued laterIssued less held unheld
  admitted operation polls room turn := by
    obtain ⟨elapsed, command⟩ := timed
    simp only at polls
    subst polls
    obtain ⟨verdict, poll, tells⟩ :=
      execute_admit good.sound (Nat.le_add_right log.state.1 elapsed) good.numbered operation
    obtain ⟨rfl, held⟩ := poll.admits room turn
    exact ⟨tells, held⟩
  position operation between later number first second polls pollsAgain ticket same checked
      checkedAgain := by
    obtain ⟨front, ahead, firstPosition⟩ := good.position polls ticket checked
    -- The first poll logs the ticket before the second poll's index.
    have goodStep := good.step timed
    obtain ⟨issued, logged, early⟩ := (goodStep.inOrder _).logged operation number ticket
    have lasts : (log.run configuration (timed :: between ++ [later])).issued operation =
        some issued := same.trans logged
    have split : log.run configuration (timed :: between ++ [later]) =
        (log.step configuration timed).run configuration (between ++ [later]) := rfl
    rw [split] at lasts
    obtain ⟨_, kept⟩ := goodStep.same_ticket (between ++ [later]) lasts early
    obtain ⟨ticketAgain, shrinks⟩ := kept number ticket
    have last : (log.step configuration timed).run configuration (between ++ [later]) =
        (log.run configuration (timed :: between)).step configuration later := by
      show (between ++ [later]).foldl _ _ = _
      rw [List.foldl_append]
      rfl
    rw [last] at ticketAgain shrinks
    obtain ⟨frontAgain, aheadAgain, secondPosition⟩ :=
      (good.run (timed :: between)).position pollsAgain ticketAgain checkedAgain
    rw [firstPosition, secondPosition]
    have fewer : frontAgain ⊆ front := by
      intro other inside
      obtain ⟨own, otherTicket, held, otherHeld, less⟩ := (aheadAgain other).mp inside
      rw [show own = number from Option.some.inj (held.symm.trans ticketAgain)] at less
      exact (ahead other).mpr ⟨number, otherTicket, ticket, shrinks other otherTicket otherHeld less,
        less⟩
    have card := Finset.card_le_card fewer
    omega

/-- **The model-pool queue is first in, first out, without bypass, and work
conserving.** After every run of commands the next one is met fairly. -/
theorem model_pool_queue_is_fair (configuration : PoolConfiguration Pool Caller Operation)
    (clock : Nat) (commands : List (TimedCommand Pool Operation))
    (timed : TimedCommand Pool Operation) :
    FairCommand configuration ((PoolLog.start clock).run configuration commands) timed :=
  ((PoolLog.good_start clock).run commands).fair timed

end Store

end Zangpu.Limits.ModelPool
