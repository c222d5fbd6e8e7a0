import Zangpu.Limits.ModelPool.Representation

/-!
Every pool script keeps the representation invariant.

Owns: the effect of pruning, of removing and adding a ticket, of granting and
renewing a lease, and of refreshing deadlines; the effect and the reply of each
script; and the guarantees every run of scripts has.

Does not own: the invariant itself and its frame over other pools and callers.
-/

set_option autoImplicit false

namespace Zangpu.Limits.ModelPool

open Zangpu.Foundation
open SortedSetKey

variable {Operation : Type} [LinearOrder Operation]

/-! ## Losing entries -/

/-- Entries only go, and a key keeps its deadline while it has any. -/
def Loses (before after : SortedSetKey Operation) : Prop :=
  ∀ member score, after.zscore member = some score →
    before.zscore member = some score ∧ after.deadline = before.deadline

theorem Loses.refl (key : SortedSetKey Operation) : Loses key key :=
  fun _ _ stored => ⟨stored, rfl⟩

theorem loses_zrem (key : SortedSetKey Operation) (removed : Operation) :
    Loses key (key.zrem removed) := by
  intro member score stored
  refine ⟨?_, deadline_ofEntries stored⟩
  rw [zscore_zrem] at stored
  split at stored
  · cases stored
  · exact stored

theorem loses_foldl_zrem (key : SortedSetKey Operation) (removed : List Operation) :
    Loses key (removed.foldl zrem key) := by
  intro member score stored
  refine ⟨?_, deadline_foldl_zrem stored⟩
  rw [zscore_foldl_zrem] at stored
  split at stored
  · cases stored
  · exact stored

theorem loses_zremrangebyscore (key : SortedSetKey Operation) (bound : Nat) :
    Loses key (key.zremrangebyscore bound) := by
  intro member score stored
  refine ⟨?_, deadline_ofEntries stored⟩
  rw [zscore_zremrangebyscore, Option.filter_eq_some_iff] at stored
  exact stored.1

theorem Loses.within {limit now : Nat} {before after : SortedSetKey Operation}
    (loses : Loses before after) (within : Within limit now before) :
    Within limit now after :=
  within.mono fun member score live stored => ⟨score, live, (loses member score stored).1⟩

theorem Loses.covers {slack bound : Nat} {before after : SortedSetKey Operation}
    (loses : Loses before after) (covers : Covers slack bound before) :
    Covers slack bound after :=
  covers.lose (le_refl bound) loses

/-- A set pruned up to `now` stores exactly the live entries. -/
theorem zscore_pruned {key : SortedSetKey Operation} {now : Nat} {member : Operation}
    {score : Nat} :
    (key.zremrangebyscore now).zscore member = some score ↔
      key.zscore member = some score ∧ now < score := by
  rw [zscore_zremrangebyscore, Option.filter_eq_some_iff, decide_eq_true_eq]

theorem settles_pruned (now : Nat) (touched : Operation → Prop) (key : SortedSetKey Operation) :
    Settles now touched key (key.zremrangebyscore now) :=
  fun _ _ _ => ⟨fun stored => (zscore_pruned.mp stored).1,
    fun live stored => zscore_pruned.mpr ⟨stored, live⟩⟩

theorem settles_zrem (now : Nat) (key : SortedSetKey Operation) (removed : Operation) :
    Settles now (fun member => member = removed) key (key.zrem removed) := by
  intro member other score
  rw [zscore_zrem, if_neg other]
  exact ⟨id, fun _ => id⟩

variable {arguments : AdmitArguments} {now : Nat} {own : Operation → Prop}

/-- Keys that only lose entries stay sound when the ticket sets still agree. -/
theorem KeysSound.lose {before after : PoolKeys Operation}
    (sound : KeysSound arguments now own before)
    (active : Loses before.active after.active) (queue : Loses before.queue after.queue)
    (queueExpiry : Loses before.queueExpiry after.queueExpiry)
    (globalQueue : Loses before.globalQueue after.globalQueue)
    (callerQueue : Loses before.callerQueue after.callerQueue)
    (sequence : after.sequence = before.sequence)
    (sameTickets : ∀ operation, (after.queue.zscore operation).isSome =
      (after.queueExpiry.zscore operation).isSome)
    (poolShare : ∀ operation score, now < score →
      after.queueExpiry.zscore operation = some score →
        after.globalQueue.zscore operation = some score)
    (globalShare : ∀ operation, own operation → ∀ score, now < score →
      (after.queueExpiry.zscore operation = some score ↔
        after.globalQueue.zscore operation = some score))
    (callerShare : ∀ operation, own operation → ∀ score, now < score →
      (after.queueExpiry.zscore operation = some score ↔
        after.callerQueue.zscore operation = some score)) :
    KeysSound arguments now own after where
  sameTickets := sameTickets
  poolShare := poolShare
  globalShare := globalShare
  callerShare := callerShare
  exclusive operation lease ticket leased live queued :=
    sound.exclusive operation lease ticket (active operation lease leased).1 live
      (queueExpiry operation ticket queued).1
  leaseLimit := active.within sound.leaseLimit
  globalLimit := globalQueue.within sound.globalLimit
  callerLimit := callerQueue.within sound.callerLimit
  leaseCover := active.covers sound.leaseCover
  ticketCover := queueExpiry.covers sound.ticketCover
  globalCover := globalQueue.covers sound.globalCover
  callerCover := callerQueue.covers sound.callerCover
  dueTogether := by
    intro operation score ticket
    obtain ⟨earlier, sameDeadline⟩ := queueExpiry operation score ticket
    obtain ⟨counted, queueDue, sequenceDue⟩ := sound.dueTogether operation score earlier
    have queued : (after.queue.zscore operation).isSome := by
      rw [sameTickets, ticket]
      rfl
    obtain ⟨position, stored⟩ := Option.isSome_iff_exists.mp queued
    rw [sequence, sameDeadline, (queue operation position stored).2]
    exact ⟨counted, queueDue, sequenceDue⟩

/-! ## Pruning -/

theorem zscore_removeExpired {keys : PoolKeys Operation} {operation : Operation} {score : Nat} :
    (removeExpiredPoolTickets now keys).queueExpiry.zscore operation = some score ↔
      keys.queueExpiry.zscore operation = some score ∧ now < score := by
  show ((keys.queueExpiry.zrangebyscore now).foldl zrem keys.queueExpiry).zscore operation = _ ↔ _
  rw [zscore_foldl_zrem]
  by_cases expired : operation ∈ keys.queueExpiry.zrangebyscore now
  · rw [if_pos expired]
    obtain ⟨old, passed, stored⟩ := mem_zrangebyscore.mp expired
    rw [stored]
    simp only [reduceCtorEq, Option.some.injEq, false_iff, not_and]
    omega
  · rw [if_neg expired]
    constructor
    · intro stored
      refine ⟨stored, ?_⟩
      by_contra passed
      exact expired (mem_zrangebyscore.mpr ⟨score, by omega, stored⟩)
    · exact fun stored => stored.1

/-- The ticket sequence and its expiry set are pruned of the same members. -/
theorem sameTickets_removeExpired {keys : PoolKeys Operation}
    (same : ∀ operation, (keys.queue.zscore operation).isSome =
      (keys.queueExpiry.zscore operation).isSome) (operation : Operation) :
    ((removeExpiredPoolTickets now keys).queue.zscore operation).isSome =
      ((removeExpiredPoolTickets now keys).queueExpiry.zscore operation).isSome := by
  show (((keys.queueExpiry.zrangebyscore now).foldl zrem keys.queue).zscore operation).isSome =
    (((keys.queueExpiry.zrangebyscore now).foldl zrem keys.queueExpiry).zscore operation).isSome
  rw [zscore_foldl_zrem, zscore_foldl_zrem]
  split
  · rfl
  · exact same operation

theorem KeysSound.prunePool {keys : PoolKeys Operation}
    (sound : KeysSound arguments now own keys) :
    KeysSound arguments now own (prunePool now keys) := by
  have expiry : ∀ operation score, now < score →
      ((ModelPool.prunePool now keys).queueExpiry.zscore operation = some score ↔
        keys.queueExpiry.zscore operation = some score) := by
    intro operation score live
    refine Iff.trans zscore_removeExpired ?_
    exact and_iff_left live
  have shared : ∀ operation score, now < score →
      ((ModelPool.prunePool now keys).globalQueue.zscore operation = some score ↔
        keys.globalQueue.zscore operation = some score) := by
    intro operation score live
    exact zscore_pruned.trans (and_iff_left live)
  refine sound.lose (loses_zremrangebyscore _ _) (loses_foldl_zrem _ _) (loses_foldl_zrem _ _)
    (loses_zremrangebyscore _ _) (Loses.refl _) rfl
    (sameTickets_removeExpired sound.sameTickets) ?_ ?_ ?_
  · intro operation score live ticket
    exact (shared operation score live).mpr
      (sound.poolShare operation score live ((expiry operation score live).mp ticket))
  · intro operation mine score live
    exact (expiry operation score live).trans
      ((sound.globalShare operation mine score live).trans (shared operation score live).symm)
  · intro operation mine score live
    exact (expiry operation score live).trans (sound.callerShare operation mine score live)

theorem KeysSound.pruneCaller {keys : PoolKeys Operation}
    (sound : KeysSound arguments now own keys) :
    KeysSound arguments now own (pruneCaller now keys) := by
  refine sound.lose (Loses.refl _) (Loses.refl _) (Loses.refl _) (Loses.refl _)
    (loses_zremrangebyscore _ _) rfl sound.sameTickets sound.poolShare sound.globalShare ?_
  intro operation mine score live
  exact (sound.callerShare operation mine score live).trans
    (zscore_pruned.trans (and_iff_left live)).symm

/-- What pruning leaves: live leases and live tickets only. -/
structure Live (now : Nat) (keys : PoolKeys Operation) : Prop where
  active : ∀ operation score, keys.active.zscore operation = some score → now < score
  queueExpiry : ∀ operation score, keys.queueExpiry.zscore operation = some score → now < score
  globalQueue : ∀ operation score, keys.globalQueue.zscore operation = some score → now < score

theorem live_prunePool (keys : PoolKeys Operation) : Live now (prunePool now keys) where
  active _ _ stored := (zscore_pruned.mp stored).2
  queueExpiry _ _ stored := (zscore_removeExpired.mp stored).2
  globalQueue _ _ stored := (zscore_pruned.mp stored).2

/-- The entries of untouched operations survive pruning unless they are expired. -/
theorem settles_prunePool (touched : Operation → Prop) (keys : PoolKeys Operation) :
    SettlesKeys now touched keys (prunePool now keys) where
  active := settles_pruned _ _ _
  queueExpiry _ _ _ := ⟨fun stored => (zscore_removeExpired.mp stored).1,
    fun live stored => zscore_removeExpired.mpr ⟨stored, live⟩⟩
  globalQueue := settles_pruned _ _ _
  callerQueue := Settles.refl _ _ _

theorem settles_pruneCaller (touched : Operation → Prop) (keys : PoolKeys Operation) :
    SettlesKeys now touched keys (pruneCaller now keys) where
  active := Settles.refl _ _ _
  queueExpiry := Settles.refl _ _ _
  globalQueue := Settles.refl _ _ _
  callerQueue := settles_pruned _ _ _

/-! ## Removing a ticket or a lease -/

theorem KeysSound.removeTicket {keys : PoolKeys Operation}
    (sound : KeysSound arguments now own keys) (member : Operation) :
    KeysSound arguments now own (removeTicket member keys) := by
  refine sound.lose (Loses.refl _) (loses_zrem _ _) (loses_zrem _ _) (loses_zrem _ _)
    (loses_zrem _ _) rfl ?_ ?_ ?_ ?_
  · intro operation
    simp only [ModelPool.removeTicket, zscore_zrem]
    split
    · rfl
    · exact sound.sameTickets operation
  · intro operation score live
    simp only [ModelPool.removeTicket, zscore_zrem]
    split
    · exact id
    · exact sound.poolShare operation score live
  · intro operation mine score live
    simp only [ModelPool.removeTicket, zscore_zrem]
    split
    · rfl
    · exact sound.globalShare operation mine score live
  · intro operation mine score live
    simp only [ModelPool.removeTicket, zscore_zrem]
    split
    · rfl
    · exact sound.callerShare operation mine score live

theorem KeysSound.dropLease {keys : PoolKeys Operation}
    (sound : KeysSound arguments now own keys) (member : Operation) :
    KeysSound arguments now own { keys with active := keys.active.zrem member } :=
  sound.lose (loses_zrem _ _) (Loses.refl _) (Loses.refl _) (Loses.refl _) (Loses.refl _) rfl
    sound.sameTickets sound.poolShare sound.globalShare sound.callerShare

omit [LinearOrder Operation] in
theorem deleteEmptyQueues_eq (keys : PoolKeys Operation) : deleteEmptyQueues keys = keys := by
  simp only [deleteEmptyQueues, delEmpty_eq]

/-! ## Granting and renewing a lease -/

/-- A changed lease set that is within its limit, covered, and holds live leases
only of operations without a live ticket, keeps the keys sound. -/
theorem KeysSound.setActive {keys : PoolKeys Operation}
    (sound : KeysSound arguments now own keys) {active : SortedSetKey Operation}
    (limit : Within arguments.activeLimit now active)
    (cover : Covers 0 (now + arguments.leaseMs) active)
    (exclusive : ∀ operation lease ticket, active.zscore operation = some lease → now < lease →
      keys.queueExpiry.zscore operation = some ticket → ticket ≤ now) :
    KeysSound arguments now own { keys with active := active } :=
  { sound with leaseLimit := limit, leaseCover := cover, exclusive := exclusive }

theorem KeysSound.touchLease {keys : PoolKeys Operation}
    (sound : KeysSound arguments now own keys) :
    KeysSound arguments now own
      { keys with active := keys.active.pexpire (now + arguments.leaseMs) } := by
  refine sound.setActive sound.leaseLimit ?_ sound.exclusive
  exact covers_pexpire (fun member score stored => (sound.leaseCover member score stored).1)
    (le_refl _)

theorem zscore_granted {leaseMs : Nat} {member operation : Operation}
    {key : SortedSetKey Operation} (absent : key.zscore member = none) :
    ((key.zaddNX (now + leaseMs) member).pexpire (now + leaseMs)).zscore operation =
      if operation = member then some (now + leaseMs) else key.zscore operation := by
  simp [zscore_zaddNX, absent]

theorem KeysSound.grantLease {keys : PoolKeys Operation}
    (sound : KeysSound arguments now own keys) {member : Operation}
    (unleased : keys.active.zscore member = none)
    (unqueued : keys.queueExpiry.zscore member = none)
    (room : keys.active.zcard < arguments.activeLimit) :
    KeysSound arguments now own (grantLease arguments.leaseMs now member keys) := by
  refine sound.setActive ?_ ?_ ?_
  · refine Within.gain member room ?_
    intro operation score stored different
    rwa [zscore_granted unleased, if_neg different] at stored
  · refine covers_pexpire ?_ (le_refl _)
    intro operation score stored
    rw [← zscore_pexpire _ (now + arguments.leaseMs), zscore_granted unleased] at stored
    split at stored
    · exact (Option.some.inj stored).ge
    · exact (sound.leaseCover operation score stored).1
  · intro operation lease ticket stored live queued
    rw [zscore_granted unleased] at stored
    split at stored
    · rename_i same
      rw [same, unqueued] at queued
      cases queued
    · exact sound.exclusive operation lease ticket stored live queued

theorem zscore_renewed {leaseMs old : Nat} {member operation : Operation}
    {key : SortedSetKey Operation} (present : key.zscore member = some old) :
    ((key.zaddXX (now + leaseMs) member).pexpire (now + leaseMs)).zscore operation =
      if operation = member then some (now + leaseMs) else key.zscore operation := by
  simp [zscore_zaddXX, present]

/-- Renewing a live lease changes its score only. -/
theorem KeysSound.renewLease {keys : PoolKeys Operation}
    (sound : KeysSound arguments now own keys) {member : Operation} {old : Nat}
    (present : keys.active.zscore member = some old) (live : now < old) :
    KeysSound arguments now own { keys with
      active := (keys.active.zaddXX (now + arguments.leaseMs) member).pexpire
        (now + arguments.leaseMs) } := by
  refine sound.setActive ?_ ?_ ?_
  · refine sound.leaseLimit.mono ?_
    intro operation score alive stored
    rw [zscore_renewed present] at stored
    split at stored
    · rename_i same
      exact ⟨old, live, same ▸ present⟩
    · exact ⟨score, alive, stored⟩
  · refine covers_pexpire ?_ (le_refl _)
    intro operation score stored
    rw [← zscore_pexpire _ (now + arguments.leaseMs), zscore_renewed present] at stored
    split at stored
    · exact (Option.some.inj stored).ge
    · exact (sound.leaseCover operation score stored).1
  · intro operation lease ticket stored alive queued
    rw [zscore_renewed present] at stored
    split at stored
    · rename_i same
      rw [same] at queued
      exact sound.exclusive member old ticket present live queued
    · exact sound.exclusive operation lease ticket stored alive queued

/-! ## Tickets and their deadlines -/

theorem sequence_pexpire {counter : CounterKey} {deadline : Nat}
    (counted : counter.value.isSome) : (counter.pexpire deadline).deadline = some deadline := by
  refine if_neg ?_
  intro none
  rw [none] at counted
  cases counted

/-- Refreshing the deadlines covers every ticket and lets the pool's keys fall
due together, provided the counter exists while there is a ticket. -/
theorem KeysSound.refresh {keys : PoolKeys Operation}
    (sameTickets : ∀ operation, (keys.queue.zscore operation).isSome =
      (keys.queueExpiry.zscore operation).isSome)
    (poolShare : ∀ operation score, now < score →
      keys.queueExpiry.zscore operation = some score →
        keys.globalQueue.zscore operation = some score)
    (globalShare : ∀ operation, own operation → ∀ score, now < score →
      (keys.queueExpiry.zscore operation = some score ↔
        keys.globalQueue.zscore operation = some score))
    (callerShare : ∀ operation, own operation → ∀ score, now < score →
      (keys.queueExpiry.zscore operation = some score ↔
        keys.callerQueue.zscore operation = some score))
    (exclusive : ∀ operation lease ticket, keys.active.zscore operation = some lease →
      now < lease → keys.queueExpiry.zscore operation = some ticket → ticket ≤ now)
    (leaseLimit : Within arguments.activeLimit now keys.active)
    (globalLimit : Within arguments.queueLimit now keys.globalQueue)
    (callerLimit : Within arguments.callerQueueLimit now keys.callerQueue)
    (leaseCover : Covers 0 (now + arguments.leaseMs) keys.active)
    (ticketScores : ∀ operation score, keys.queueExpiry.zscore operation = some score →
      score ≤ now + arguments.queueWaitMs)
    (globalScores : ∀ operation score, keys.globalQueue.zscore operation = some score →
      score ≤ now + arguments.queueWaitMs)
    (callerScores : ∀ operation score, keys.callerQueue.zscore operation = some score →
      score ≤ now + arguments.queueWaitMs)
    (counted : ∀ operation score, keys.queueExpiry.zscore operation = some score →
      keys.sequence.value.isSome) :
    KeysSound arguments now own (refreshQueueTtls arguments.queueWaitMs now keys) where
  sameTickets := sameTickets
  poolShare := poolShare
  globalShare := globalShare
  callerShare := callerShare
  exclusive := exclusive
  leaseLimit := leaseLimit
  globalLimit := globalLimit
  callerLimit := callerLimit
  leaseCover := leaseCover
  ticketCover := covers_pexpire ticketScores (by omega)
  globalCover := covers_pexpire globalScores (by omega)
  callerCover := covers_pexpire callerScores (by omega)
  dueTogether := by
    intro operation score ticket
    have queued : (keys.queue.zscore operation).isSome := by
      rw [sameTickets, show keys.queueExpiry.zscore operation = some score from ticket]
      rfl
    obtain ⟨position, stored⟩ := Option.isSome_iff_exists.mp queued
    have counter := counted operation score ticket
    refine ⟨counter, ?_, ?_⟩
    · exact (deadline_ofEntries stored).trans (deadline_ofEntries ticket).symm
    · exact (sequence_pexpire counter).trans (deadline_ofEntries ticket).symm

/-- A waiting operation refreshes the deadlines of its queues. -/
theorem KeysSound.refreshQueueTtls {keys : PoolKeys Operation}
    (sound : KeysSound arguments now own keys) :
    KeysSound arguments now own (refreshQueueTtls arguments.queueWaitMs now keys) :=
  KeysSound.refresh sound.sameTickets sound.poolShare sound.globalShare sound.callerShare
    sound.exclusive sound.leaseLimit sound.globalLimit sound.callerLimit sound.leaseCover
    (fun operation score stored => (sound.ticketCover operation score stored).1)
    (fun operation score stored => (sound.globalCover operation score stored).1)
    (fun operation score stored => (sound.callerCover operation score stored).1)
    (fun operation score stored => (sound.dueTogether operation score stored).1)

theorem zscore_added {key : SortedSetKey Operation} {member operation : Operation}
    {score : Nat} (absent : key.zscore member = none) :
    (key.zaddNX score member).zscore operation =
      if operation = member then some score else key.zscore operation := by
  simp [zscore_zaddNX, absent]

/-- A member that is in none of the sets. -/
structure Absent (member : Operation) (keys : PoolKeys Operation) : Prop where
  active : keys.active.zscore member = none
  queue : keys.queue.zscore member = none
  queueExpiry : keys.queueExpiry.zscore member = none
  globalQueue : keys.globalQueue.zscore member = none
  callerQueue : keys.callerQueue.zscore member = none

/-- A new ticket of an absent member, below both queue limits. -/
theorem KeysSound.addTicket {keys : PoolKeys Operation}
    (sound : KeysSound arguments now own keys) {member : Operation}
    (absent : Absent member keys)
    (room : keys.globalQueue.zcard < arguments.queueLimit)
    (callerRoom : keys.callerQueue.zcard < arguments.callerQueueLimit) :
    KeysSound arguments now own (ModelPool.refreshQueueTtls arguments.queueWaitMs now
      (ModelPool.addTicket arguments.queueWaitMs now member keys)) := by
  have queue : ∀ operation, (ModelPool.addTicket arguments.queueWaitMs now member keys).queue.zscore
      operation = if operation = member then some keys.sequence.incr.2
        else keys.queue.zscore operation := fun _ => zscore_added absent.queue
  have expiry : ∀ operation, (ModelPool.addTicket arguments.queueWaitMs now member keys).queueExpiry.zscore
      operation = if operation = member then some (now + arguments.queueWaitMs)
        else keys.queueExpiry.zscore operation := fun _ => zscore_added absent.queueExpiry
  have globalQueue : ∀ operation, (ModelPool.addTicket arguments.queueWaitMs now member
      keys).globalQueue.zscore operation = if operation = member
        then some (now + arguments.queueWaitMs) else keys.globalQueue.zscore operation :=
    fun _ => zscore_added absent.globalQueue
  have callerQueue : ∀ operation, (ModelPool.addTicket arguments.queueWaitMs now member
      keys).callerQueue.zscore operation = if operation = member
        then some (now + arguments.queueWaitMs) else keys.callerQueue.zscore operation :=
    fun _ => zscore_added absent.callerQueue
  refine KeysSound.refresh ?_ ?_ ?_ ?_ ?_ sound.leaseLimit ?_ ?_ sound.leaseCover ?_ ?_ ?_ ?_
  · intro operation
    rw [queue, expiry]
    split
    · rfl
    · exact sound.sameTickets operation
  · intro operation score live
    rw [expiry, globalQueue]
    split
    · exact id
    · exact sound.poolShare operation score live
  · intro operation mine score live
    rw [expiry, globalQueue]
    split
    · rfl
    · exact sound.globalShare operation mine score live
  · intro operation mine score live
    rw [expiry, callerQueue]
    split
    · rfl
    · exact sound.callerShare operation mine score live
  · intro operation lease ticket leased live queued
    rw [expiry] at queued
    split at queued
    · rename_i same
      rw [same] at leased
      cases absent.active.symm.trans leased
    · exact sound.exclusive operation lease ticket leased live queued
  · refine Within.gain member room ?_
    intro operation score stored different
    rwa [globalQueue, if_neg different] at stored
  · refine Within.gain member callerRoom ?_
    intro operation score stored different
    rwa [callerQueue, if_neg different] at stored
  · intro operation score stored
    rw [expiry] at stored
    split at stored
    · exact (Option.some.inj stored).ge
    · exact (sound.ticketCover operation score stored).1
  · intro operation score stored
    rw [globalQueue] at stored
    split at stored
    · exact (Option.some.inj stored).ge
    · exact (sound.globalCover operation score stored).1
  · intro operation score stored
    rw [callerQueue] at stored
    split at stored
    · exact (Option.some.inj stored).ge
    · exact (sound.callerCover operation score stored).1
  · exact fun _ _ _ => rfl

/-! ## Replies -/

/-- The numbers a reply carries respect the limits. -/
structure Counted (arguments : AdmitArguments) (keys : PoolKeys Operation) : Prop where
  active : keys.active.zcard ≤ arguments.activeLimit
  globalQueue : keys.globalQueue.zcard ≤ arguments.queueLimit
  queue : keys.queue.zcard ≤ keys.globalQueue.zcard

theorem KeysSound.counted {keys : PoolKeys Operation}
    (sound : KeysSound arguments now own keys) (live : Live now keys) :
    Counted arguments keys where
  active := sound.leaseLimit.zcard_le live.active
  globalQueue := sound.globalLimit.zcard_le live.globalQueue
  queue := by
    rw [zcard_eq_card, zcard_eq_card]
    refine Finset.card_le_card ?_
    intro operation inside
    obtain ⟨position, queued⟩ := mem_members.mp inside
    have ticketed : (keys.queueExpiry.zscore operation).isSome := by
      rw [← sound.sameTickets, queued]
      rfl
    obtain ⟨score, ticket⟩ := Option.isSome_iff_exists.mp ticketed
    exact mem_members.mpr ⟨score,
      sound.poolShare operation score (live.queueExpiry operation score ticket) ticket⟩

/-- The three shapes of an acceptable reply. -/
def ReplyShape (keys : PoolKeys Operation) (status position : Nat) : Prop :=
  status = 1 ∧ 1 ≤ keys.active.zcard ∧ position = 0 ∨
    status = 2 ∧ 1 ≤ position ∧ position ≤ keys.queue.zcard ∨
    (status = 3 ∨ status = 4) ∧ position = 0

omit [LinearOrder Operation] in
theorem checkAdmitReply_ok {keys : PoolKeys Operation} (counted : Counted arguments keys)
    {status position expiresAt : Nat} (late : now ≤ expiresAt)
    (shape : ReplyShape keys status position) :
    ∃ decision, checkAdmitReply arguments.activeLimit arguments.queueLimit
      (admitReply status keys position expiresAt now) = .ok decision := by
  have active := counted.active
  have globalQueue := counted.globalQueue
  have queue := counted.queue
  rcases shape with ⟨rfl, leased, rfl⟩ | ⟨rfl, first, last⟩ | ⟨rfl | rfl, rfl⟩ <;>
    simp [checkAdmitReply, admitReply, statusOf, require] <;> omega

theorem le_retryAt {default : Nat} {key : SortedSetKey Operation} (late : now ≤ default)
    (live : ∀ operation score, key.zscore operation = some score → now < score) :
    now ≤ retryAt default key := by
  unfold retryAt
  split
  · rename_i earliest first
    obtain ⟨operation, stored⟩ := zscore_of_zfirstScore first
    have later := live operation earliest stored
    split <;> omega
  · exact late

/-! ## The admit script -/

/-- A new ticket or lease of one member touches that member only. -/
theorem settles_removeTicket (member : Operation) (keys : PoolKeys Operation) :
    SettlesKeys now (fun operation => operation = member) keys (removeTicket member keys) where
  active := Settles.refl _ _ _
  queueExpiry := settles_zrem _ _ _
  globalQueue := settles_zrem _ _ _
  callerQueue := settles_zrem _ _ _

theorem settles_zaddNX (key : SortedSetKey Operation) {score : Nat} (member : Operation) :
    Settles now (fun operation => operation = member) key (key.zaddNX score member) := by
  intro operation other old
  rw [zscore_zaddNX, if_neg (fun added => other added.1)]
  exact ⟨id, fun _ => id⟩

theorem settles_zaddXX (key : SortedSetKey Operation) {score : Nat} (member : Operation) :
    Settles now (fun operation => operation = member) key (key.zaddXX score member) := by
  intro operation other old
  rw [zscore_zaddXX, if_neg (fun changed => other changed.1)]
  exact ⟨id, fun _ => id⟩

theorem settles_grantLease (leaseMs : Nat) (member : Operation) (keys : PoolKeys Operation) :
    SettlesKeys now (fun operation => operation = member) keys
      (grantLease leaseMs now member keys) where
  active := settles_zaddNX _ _
  queueExpiry := Settles.refl _ _ _
  globalQueue := Settles.refl _ _ _
  callerQueue := Settles.refl _ _ _

theorem settles_addTicket (queueWaitMs : Nat) (member : Operation) (keys : PoolKeys Operation) :
    SettlesKeys now (fun operation => operation = member) keys
      (refreshQueueTtls queueWaitMs now (addTicket queueWaitMs now member keys)) where
  active := Settles.refl _ _ _
  queueExpiry := settles_zaddNX _ _
  globalQueue := settles_zaddNX _ _
  callerQueue := settles_zaddNX _ _

/-- A granted lease is live. -/
theorem live_grantLease {leaseMs : Nat} {member : Operation} {keys : PoolKeys Operation}
    (live : Live now keys) (positive : 0 < leaseMs)
    (unleased : keys.active.zscore member = none) :
    Live now (grantLease leaseMs now member keys) where
  active operation score stored := by
    have granted := stored
    simp only [grantLease] at granted
    rw [zscore_granted unleased] at granted
    split at granted
    · have equal := Option.some.inj granted
      omega
    · exact live.active operation score granted
  queueExpiry := live.queueExpiry
  globalQueue := live.globalQueue

theorem live_removeTicket {keys : PoolKeys Operation} (live : Live now keys)
    (member : Operation) : Live now (removeTicket member keys) where
  active := live.active
  queueExpiry operation score stored :=
    live.queueExpiry operation score (loses_zrem _ _ operation score stored).1
  globalQueue operation score stored :=
    live.globalQueue operation score (loses_zrem _ _ operation score stored).1

/-- A new ticket is live. -/
theorem live_addTicket {queueWaitMs : Nat} {member : Operation} {keys : PoolKeys Operation}
    (live : Live now keys) (positive : 0 < queueWaitMs) (absent : Absent member keys) :
    Live now (refreshQueueTtls queueWaitMs now (addTicket queueWaitMs now member keys)) where
  active := live.active
  queueExpiry operation score stored := by
    have added : (if operation = member then some (now + queueWaitMs)
        else keys.queueExpiry.zscore operation) = some score :=
      (zscore_added absent.queueExpiry).symm.trans stored
    split at added
    · have equal := Option.some.inj added
      omega
    · exact live.queueExpiry operation score added
  globalQueue operation score stored := by
    have added : (if operation = member then some (now + queueWaitMs)
        else keys.globalQueue.zscore operation) = some score :=
      (zscore_added absent.globalQueue).symm.trans stored
    split at added
    · have equal := Option.some.inj added
      omega
    · exact live.globalQueue operation score added

/-- The effect of a script together with the acceptance of its reply. -/
def AdmitEffect (arguments : AdmitArguments) (now : Nat) (own : Operation → Prop)
    (member : Operation) (before : PoolKeys Operation)
    (outcome : PoolKeys Operation × List Int) : Prop :=
  Effect arguments now own (fun operation => operation = member) before outcome.1 ∧
    ∃ decision, checkAdmitReply arguments.activeLimit arguments.queueLimit outcome.2 =
      .ok decision

theorem admitNewcomer_effect {keys : PoolKeys Operation}
    (sound : KeysSound arguments now own keys) (live : Live now keys)
    (leases : 0 < arguments.leaseMs) (waits : 0 < arguments.queueWaitMs)
    (callerLive : ∀ operation score, keys.callerQueue.zscore operation = some score →
      now < score)
    {member : Operation} (absent : Absent member keys) :
    AdmitEffect arguments now own member keys (admitNewcomer arguments now member keys) := by
  unfold admitNewcomer
  have counted := sound.counted live
  by_cases free : keys.active.zcard < arguments.activeLimit ∧ keys.queue.zcard = 0
  · -- A newcomer to an empty queue is admitted.
    rw [if_pos free]
    have granted := sound.grantLease absent.active absent.queueExpiry free.1
    have grantedLive := live_grantLease live leases absent.active
    refine ⟨⟨granted, settles_grantLease _ _ _⟩,
      checkAdmitReply_ok (granted.counted grantedLive) (by omega) (.inl ⟨rfl, ?_, rfl⟩)⟩
    exact zcard_pos ((zscore_granted absent.active).trans (if_pos rfl))
  · rw [if_neg free]
    have late : now ≤ retryAt (now + arguments.queueWaitMs) keys.active :=
      le_retryAt (Nat.le_add_right _ _) live.active
    by_cases full : arguments.queueLimit = 0 ∨ arguments.queueLimit ≤ keys.globalQueue.zcard
    · rw [if_pos full]
      exact ⟨⟨sound, SettlesKeys.refl _ _ _⟩,
        checkAdmitReply_ok counted (le_retryAt late live.globalQueue)
          (.inr (.inr ⟨.inr rfl, rfl⟩))⟩
    · rw [if_neg full]
      by_cases callerFull : arguments.callerQueueLimit ≤ keys.callerQueue.zcard
      · rw [if_pos callerFull]
        exact ⟨⟨sound, SettlesKeys.refl _ _ _⟩,
          checkAdmitReply_ok counted (le_retryAt late callerLive)
            (.inr (.inr ⟨.inl rfl, rfl⟩))⟩
      · -- A newcomer below both queue limits gets a ticket.
        rw [if_neg callerFull]
        have queued := sound.addTicket absent (by omega) (by omega)
        have queuedLive := live_addTicket live waits absent
        have inside : (refreshQueueTtls arguments.queueWaitMs now
            (addTicket arguments.queueWaitMs now member keys)).queue.zscore member =
              some keys.sequence.incr.2 :=
          (zscore_added absent.queue).trans (if_pos rfl)
        obtain ⟨rank, ranked⟩ := zrank_isSome inside
        simp only [ranked]
        refine ⟨⟨queued, settles_addTicket _ _ _⟩,
          checkAdmitReply_ok (queued.counted queuedLive) (by omega)
            (.inr (.inl ⟨rfl, by omega, zrank_lt_zcard ranked⟩))⟩

/-- An operation without a lease and without a ticket in its pool is in no set. -/
theorem KeysSound.absent {keys : PoolKeys Operation} (sound : KeysSound arguments now own keys)
    (live : Live now keys)
    (callerLive : ∀ operation score, keys.callerQueue.zscore operation = some score →
      now < score)
    {member : Operation} (mine : own member) (unleased : keys.active.zscore member = none)
    (unqueued : keys.queueExpiry.zscore member = none) : Absent member keys := by
  refine ⟨unleased, ?_, unqueued, ?_, ?_⟩
  · rw [← Option.not_isSome_iff_eq_none, sound.sameTickets, unqueued]
    simp
  · cases shared : keys.globalQueue.zscore member with
    | none => rfl
    | some score =>
        have ticket := (sound.globalShare member mine score
          (live.globalQueue member score shared)).mpr shared
        cases unqueued.symm.trans ticket
  · cases shared : keys.callerQueue.zscore member with
    | none => rfl
    | some score =>
        have ticket := (sound.callerShare member mine score
          (callerLive member score shared)).mpr shared
        cases unqueued.symm.trans ticket

theorem admitPruned_effect {keys : PoolKeys Operation}
    (sound : KeysSound arguments now own keys) (live : Live now keys)
    (leases : 0 < arguments.leaseMs) (waits : 0 < arguments.queueWaitMs)
    (callerLive : ∀ operation score, keys.callerQueue.zscore operation = some score →
      now < score)
    {member : Operation} (mine : own member) :
    AdmitEffect arguments now own member keys (admitPruned arguments now member keys) := by
  unfold admitPruned
  cases leased : keys.active.zscore member with
  | some expiry =>
      have kept := (sound.removeTicket member).touchLease
      have keptLive : Live now { ModelPool.removeTicket member keys with
          active := (ModelPool.removeTicket member keys).active.pexpire
            (now + arguments.leaseMs) } :=
        ⟨live.active, (live_removeTicket live member).queueExpiry,
          (live_removeTicket live member).globalQueue⟩
      have alive := live.active member expiry leased
      exact ⟨⟨kept, ⟨Settles.refl _ _ _, settles_zrem _ _ _, settles_zrem _ _ _,
          settles_zrem _ _ _⟩⟩,
        checkAdmitReply_ok (kept.counted keptLive) (by omega)
          (.inl ⟨rfl, zcard_pos leased, rfl⟩)⟩
  | none =>
      cases queued : keys.queueExpiry.zscore member with
      | none =>
          exact admitNewcomer_effect sound live leases waits callerLive
            (sound.absent live callerLive mine leased queued)
      | some ticket =>
          have ticketed : (keys.queue.zscore member).isSome := by
            rw [sound.sameTickets, queued]
            rfl
          obtain ⟨position, stored⟩ := Option.isSome_iff_exists.mp ticketed
          obtain ⟨rank, ranked⟩ := zrank_isSome stored
          simp only [ranked]
          by_cases head : rank = 0 ∧ keys.active.zcard < arguments.activeLimit
          · -- The head ticket becomes a lease.
            rw [if_pos head, deleteEmptyQueues_eq]
            have absent : (ModelPool.removeTicket member keys).queueExpiry.zscore member = none :=
              (zscore_zrem _ _ _).trans (if_pos rfl)
            have granted := (sound.removeTicket member).grantLease leased absent head.2
            have grantedLive := live_grantLease (live_removeTicket live member) leases leased
            refine ⟨⟨granted, (settles_removeTicket _ _).trans (settles_grantLease _ _ _)⟩,
              checkAdmitReply_ok (granted.counted grantedLive) (by omega)
                (.inl ⟨rfl, ?_, rfl⟩)⟩
            exact zcard_pos ((zscore_granted leased).trans (if_pos rfl))
          · -- Another ticket waits, with refreshed deadlines.
            rw [if_neg head]
            have waiting := sound.refreshQueueTtls
            have alive := live.queueExpiry member ticket queued
            exact ⟨⟨waiting, ⟨Settles.refl _ _ _, Settles.refl _ _ _, Settles.refl _ _ _,
                Settles.refl _ _ _⟩⟩,
              checkAdmitReply_ok
                (waiting.counted ⟨live.active, live.queueExpiry, live.globalQueue⟩)
                (by omega) (.inr (.inl ⟨rfl, by omega, zrank_lt_zcard ranked⟩))⟩

/-- **The admit script keeps the invariant, and its reply passes the checks.** -/
theorem admitScript_effect {keys : PoolKeys Operation}
    (sound : KeysSound arguments now own keys) (leases : 0 < arguments.leaseMs)
    (waits : 0 < arguments.queueWaitMs) (member : Operation) (mine : own member) :
    AdmitEffect arguments now own member keys (admitScript arguments now member keys) := by
  have live : Live now (pruneCaller now (prunePool now keys)) :=
    ⟨(live_prunePool keys).active, (live_prunePool keys).queueExpiry,
      (live_prunePool keys).globalQueue⟩
  have effect := admitPruned_effect sound.prunePool.pruneCaller live leases waits
    (fun _ _ stored => (zscore_pruned.mp stored).2) mine
  exact ⟨⟨effect.1.sound, ((settles_prunePool _ _).trans (settles_pruneCaller _ _)).trans
    effect.1.settles⟩, effect.2⟩

end Zangpu.Limits.ModelPool
