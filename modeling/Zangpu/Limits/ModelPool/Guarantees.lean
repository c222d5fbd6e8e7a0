import Zangpu.Limits.ModelPool.Effects

/-!
What every run of model-pool scripts guarantees.

Owns: the effect of the remaining scripts; runs of commands with a nondecreasing
clock; the invariant over runs; and the guarantees read off it.

Does not own: the admit script's effect and the invariant.
-/

set_option autoImplicit false

namespace Zangpu.Limits.ModelPool

open Zangpu.Foundation
open SortedSetKey

/-! ## The other scripts -/

section Scripts

variable {Operation : Type} [LinearOrder Operation]
variable {arguments : AdmitArguments} {now : Nat} {own : Operation → Prop}

theorem heartbeatScript_effect {keys : PoolKeys Operation}
    (sound : KeysSound arguments now own keys) (member : Operation) :
    Effect arguments now own (fun operation => operation = member) keys
      { keys with
        active := (heartbeatScript arguments.leaseMs now member keys.active).1 } := by
  unfold heartbeatScript
  have dropped : Effect arguments now own (fun operation => operation = member) keys
      { keys with active := keys.active.zrem member } :=
    ⟨sound.dropLease member, ⟨settles_zrem _ _ _, .refl _ _ _, .refl _ _ _, .refl _ _ _⟩⟩
  cases present : keys.active.zscore member with
  | none => exact dropped
  | some expiry =>
      by_cases expired : expiry ≤ now
      · simp only [if_pos expired]
        exact dropped
      · simp only [if_neg expired]
        exact ⟨sound.renewLease present (by omega),
          ⟨settles_zaddXX _ _, .refl _ _ _, .refl _ _ _, .refl _ _ _⟩⟩

theorem releaseScript_effect {keys : PoolKeys Operation}
    (sound : KeysSound arguments now own keys) (member : Operation) :
    Effect arguments now own (fun operation => operation = member) keys
      { keys with active := (releaseScript member keys.active).1 } := by
  simp only [releaseScript, delEmpty_eq]
  exact ⟨sound.dropLease member, ⟨settles_zrem _ _ _, .refl _ _ _, .refl _ _ _, .refl _ _ _⟩⟩

theorem cancelScript_effect {keys : PoolKeys Operation}
    (sound : KeysSound arguments now own keys) (member : Operation) :
    Effect arguments now own (fun operation => operation = member) keys
      (cancelScript member keys).1 := by
  simp only [cancelScript, deleteEmptyQueues_eq]
  exact ⟨sound.removeTicket member, settles_removeTicket _ _⟩

/-- Without tickets in the sequence set there is no expiry set. -/
theorem KeysSound.queueExpiry_empty {keys : PoolKeys Operation}
    (sound : KeysSound arguments now own keys) (none : keys.queue.zcard = 0) :
    keys.queueExpiry = SortedSetKey.empty := by
  have noTickets : keys.queueExpiry.zcard = 0 := by
    rw [zcard_eq_card, Finset.card_eq_zero, Finset.eq_empty_iff_forall_notMem]
    intro operation inside
    obtain ⟨score, ticket⟩ := mem_members.mp inside
    have queued := sound.sameTickets operation
    rw [ticket, zscore_of_zcard_eq_zero none] at queued
    cases queued
  rw [← delEmpty_eq keys.queueExpiry, delEmpty, if_pos noTickets]

/-- The observe script prunes, and leaves the pruned keys as they are. -/
theorem observeScript_keys {keys : PoolKeys Operation}
    (sound : KeysSound arguments now own keys) :
    (observeScript now keys).1 = prunePool now keys := by
  have pruned := sound.prunePool
  have kept : (if 0 < (prunePool now keys).queue.zcard then (prunePool now keys).queueExpiry
      else SortedSetKey.empty) = (prunePool now keys).queueExpiry := by
    split
    · rfl
    · rw [pruned.queueExpiry_empty (by omega)]
  unfold observeScript
  simp only [delEmpty_eq, kept]
  split <;> rfl

theorem observeScript_effect {keys : PoolKeys Operation}
    (sound : KeysSound arguments now own keys) :
    Effect arguments now own (fun _ => False) keys (observeScript now keys).1 := by
  rw [observeScript_keys sound]
  exact ⟨sound.prunePool, settles_prunePool _ _⟩

/-- The first score of a set of live entries, or the present for an empty one. -/
theorem firstExpiry {key : SortedSetKey Operation}
    (live : ∀ operation score, key.zscore operation = some score → now < score)
    {count : Nat} (counts : 0 < count → 0 < key.zcard) :
    ∃ expiry, (if 0 < count then key.zfirstScore else some now) = some expiry ∧ now ≤ expiry ∧
      (count = 0 → expiry = now) := by
  by_cases some : 0 < count
  · obtain ⟨score, first⟩ := zfirstScore_isSome (counts some)
    obtain ⟨operation, stored⟩ := zscore_of_zfirstScore first
    rw [if_pos some]
    exact ⟨score, first, (live operation score stored).le, by omega⟩
  · rw [if_neg some]
    exact ⟨now, rfl, le_refl _, fun _ => rfl⟩

/-- **The reply of an observation passes its checks.** -/
theorem observeScript_reply {keys : PoolKeys Operation}
    (sound : KeysSound arguments now own keys) :
    ∃ snapshot, checkObserveReply arguments.activeLimit arguments.queueLimit
      (observeScript now keys).2 = .ok snapshot := by
  have pruned := sound.prunePool
  have live : Live now (prunePool now keys) := live_prunePool keys
  have counted := pruned.counted live
  have tickets : 0 < (prunePool now keys).queue.zcard →
      0 < (prunePool now keys).queueExpiry.zcard := by
    intro some
    rw [zcard_eq_card] at some
    obtain ⟨operation, inside⟩ := Finset.card_pos.mp some
    obtain ⟨position, queued⟩ := mem_members.mp inside
    have ticketed := pruned.sameTickets operation
    rw [queued] at ticketed
    obtain ⟨score, ticket⟩ := Option.isSome_iff_exists.mp ticketed.symm
    exact zcard_pos ticket
  obtain ⟨activeExpiry, active, activeLate, activeIdle⟩ := firstExpiry live.active id
  obtain ⟨queueExpiry, queue, queueLate, queueIdle⟩ := firstExpiry live.queueExpiry tickets
  have activeBound := counted.active
  have globalBound := counted.globalQueue
  have queueBound := counted.queue
  unfold observeScript
  simp only [active, queue]
  simp only [checkObserveReply, require]
  rw [if_pos ⟨by omega, by omega⟩, if_pos ⟨by omega, by omega⟩, if_pos ⟨by omega, by omega⟩,
    if_pos (by omega), if_pos (by omega), if_pos (by omega), if_pos (by omega)]
  exact ⟨_, rfl⟩

end Scripts

/-! ## Runs -/

section Bounds

variable {Pool Caller Operation : Type}

theorem leaseMs_pos (configuration : PoolConfiguration Pool Caller Operation) (pool : Pool) :
    0 < (configuration.arguments pool).leaseMs := by
  have bounds := configuration.leaseBounds
  show 0 < configuration.leaseSeconds * 1000
  omega

theorem queueWaitMs_pos (configuration : PoolConfiguration Pool Caller Operation)
    (pool : Pool) : 0 < (configuration.arguments pool).queueWaitMs := by
  have bounds := configuration.queueWaitBounds
  show 0 < configuration.queueWaitSeconds * 1000
  omega

end Bounds

section Runs

variable {Pool Caller Operation : Type} [LinearOrder Operation]
variable [DecidableEq Pool] [DecidableEq Caller]

/-- A command and the time since the previous one. -/
structure TimedCommand (Pool Operation : Type) where
  elapsed : Nat
  command : PoolCommand Pool Operation

/-- The clock and the store. -/
abbrev PoolState (Pool Caller Operation : Type) := Nat × PoolStore Pool Caller Operation

def TimedCommand.apply (configuration : PoolConfiguration Pool Caller Operation)
    (state : PoolState Pool Caller Operation) (timed : TimedCommand Pool Operation) :
    PoolState Pool Caller Operation :=
  (state.1 + timed.elapsed,
    (timed.command.execute configuration (state.1 + timed.elapsed) state.2).1)

/-- A run from an empty store. -/
def runPool (configuration : PoolConfiguration Pool Caller Operation) (start : Nat)
    (commands : List (TimedCommand Pool Operation)) : PoolState Pool Caller Operation :=
  commands.foldl (TimedCommand.apply configuration) (start, PoolStore.empty)

variable {configuration : PoolConfiguration Pool Caller Operation}

/-- **One command keeps the invariant.** -/
theorem Sound.execute {now later : Nat} {store : PoolStore Pool Caller Operation}
    (sound : Sound configuration now store) (passes : now ≤ later)
    (command : PoolCommand Pool Operation) :
    Sound configuration later (command.execute configuration later store).1 := by
  have alive := sound.expire passes
  cases command with
  | admitOrEnqueue operation =>
      have effect := admitScript_effect (alive.keys (configuration.poolOf operation)
        (configuration.callerOf operation)) (leaseMs_pos _ _) (queueWaitMs_pos _ _)
        operation ⟨rfl, rfl⟩
      exact alive.save effect.1 (by rintro other rfl; exact ⟨rfl, rfl⟩)
  | heartbeat operation =>
      have effect := heartbeatScript_effect (alive.keys (configuration.poolOf operation)
        (configuration.callerOf operation)) operation
      exact alive.save effect (by rintro other rfl; exact ⟨rfl, rfl⟩)
  | release operation =>
      have effect := releaseScript_effect (alive.keys (configuration.poolOf operation)
        (configuration.callerOf operation)) operation
      exact alive.save effect (by rintro other rfl; exact ⟨rfl, rfl⟩)
  | cancel operation =>
      have effect := cancelScript_effect (alive.keys (configuration.poolOf operation)
        (configuration.callerOf operation)) operation
      exact alive.save effect (by rintro other rfl; exact ⟨rfl, rfl⟩)
  | observe pool =>
      have effect := observeScript_effect (alive.keys pool configuration.observer)
      exact alive.save effect (by rintro other impossible; exact impossible.elim)

/-- The invariant holds after every run. -/
theorem sound_runPool (configuration : PoolConfiguration Pool Caller Operation) (start : Nat)
    (commands : List (TimedCommand Pool Operation)) :
    Sound configuration (runPool configuration start commands).1
      (runPool configuration start commands).2 := by
  have fromSound : ∀ state : PoolState Pool Caller Operation,
      Sound configuration state.1 state.2 →
        Sound configuration (commands.foldl (TimedCommand.apply configuration) state).1
          (commands.foldl (TimedCommand.apply configuration) state).2 := by
    induction commands with
    | nil => exact fun _ sound => sound
    | cons timed rest inductionHypothesis =>
        intro state sound
        exact inductionHypothesis _ (sound.execute (Nat.le_add_right _ _) timed.command)
  exact fromSound _ (Sound.empty configuration start)

/-! ## Guarantees -/

/-- The operation holds a lease of the pool that has not expired. -/
def UnexpiredLease (now : Nat) (store : PoolStore Pool Caller Operation) (pool : Pool)
    (operation : Operation) : Prop :=
  ∃ score, now < score ∧ (store.active pool).zscore operation = some score

/-- The operation holds a ticket of the pool that has not expired. -/
def UnexpiredTicket (now : Nat) (store : PoolStore Pool Caller Operation) (pool : Pool)
    (operation : Operation) : Prop :=
  ∃ score, now < score ∧ (store.queueExpiry pool).zscore operation = some score

/-- What holds after every script, at time `now`. -/
structure Guarantees (configuration : PoolConfiguration Pool Caller Operation) (now : Nat)
    (store : PoolStore Pool Caller Operation) : Prop where
  /-- The unexpired leases of a pool number at most its limit. -/
  leases : ∀ pool (holders : Finset Operation),
    (∀ operation ∈ holders, UnexpiredLease now store pool operation) →
      holders.card ≤ configuration.activeLimit pool
  /-- The unexpired tickets of all pools number at most the global limit. -/
  tickets : ∀ holders : Finset (Pool × Operation),
    (∀ holder ∈ holders, UnexpiredTicket now store holder.1 holder.2) →
      holders.card ≤ configuration.queueLimit
  /-- Those of one caller number at most the caller limit. -/
  callerTickets : ∀ caller (holders : Finset (Pool × Operation)),
    (∀ holder ∈ holders, UnexpiredTicket now store holder.1 holder.2 ∧
      configuration.callerOf holder.2 = caller) →
        holders.card ≤ configuration.callerQueueLimit
  /-- No operation holds both a lease and a ticket. -/
  exclusive : ∀ operation leasePool ticketPool,
    ¬(UnexpiredLease now store leasePool operation ∧
      UnexpiredTicket now store ticketPool operation)
  /-- The sequence set and the expiry set of a pool hold the same operations. -/
  sameTickets : ∀ pool operation, ((store.queue pool).zscore operation).isSome =
    ((store.queueExpiry pool).zscore operation).isSome
  /-- Unexpired tickets of a pool are its share of the global set. -/
  globalShare : ∀ pool operation score, now < score →
    ((store.queueExpiry pool).zscore operation = some score ↔
      configuration.poolOf operation = pool ∧
        store.globalQueue.zscore operation = some score)
  /-- They are its share of the union of the caller sets. -/
  callerShare : ∀ pool operation score, now < score →
    ((store.queueExpiry pool).zscore operation = some score ↔
      configuration.poolOf operation = pool ∧
        ∃ caller, (store.callerQueue caller).zscore operation = some score)
  /-- No key deadline drops an unexpired lease. -/
  leaseKept : ∀ later pool operation score, later < score →
    (store.active pool).zscore operation = some score →
      ((store.expire later).active pool).zscore operation = some score
  /-- No key deadline drops an unexpired ticket from any of its sets, or the
  sequence counter of its pool. -/
  ticketKept : ∀ later pool operation score, now ≤ later → later < score →
    (store.queueExpiry pool).zscore operation = some score →
      ((store.expire later).queueExpiry pool).zscore operation = some score ∧
      ((store.expire later).queue pool).zscore operation =
        (store.queue pool).zscore operation ∧
      (store.expire later).globalQueue.zscore operation = some score ∧
      ((store.expire later).callerQueue (configuration.callerOf operation)).zscore operation =
        some score ∧
      (store.expire later).sequence pool = store.sequence pool ∧
      ((store.expire later).sequence pool).value.isSome
  /-- The next admit reply, whenever it comes, passes the checks. -/
  admitReply : ∀ later operation, now ≤ later → ∃ decision,
    checkAdmitReply (configuration.activeLimit (configuration.poolOf operation))
      configuration.queueLimit
      ((PoolCommand.admitOrEnqueue operation).execute configuration later store).2 = .ok decision
  /-- So does the next observe reply. -/
  observeReply : ∀ later pool, now ≤ later → ∃ snapshot,
    checkObserveReply (configuration.activeLimit pool) configuration.queueLimit
      ((PoolCommand.observe pool).execute configuration later store).2 = .ok snapshot

omit [DecidableEq Pool] [DecidableEq Caller] in
/-- Holders of tickets in a set are as many as their operations. -/
private theorem card_holders {now : Nat} {store : PoolStore Pool Caller Operation}
    (sound : Sound configuration now store) {holders : Finset (Pool × Operation)}
    (held : ∀ holder ∈ holders, UnexpiredTicket now store holder.1 holder.2) :
    (holders.image Prod.snd).card = holders.card := by
  refine Finset.card_image_of_injOn ?_
  rintro ⟨leftPool, left⟩ leftHeld ⟨rightPool, right⟩ rightHeld same
  obtain ⟨leftScore, _, leftTicket⟩ := held _ leftHeld
  obtain ⟨rightScore, _, rightTicket⟩ := held _ rightHeld
  have sameOperation : left = right := same
  subst sameOperation
  rw [← sound.ticketHome leftPool left leftScore leftTicket,
    ← sound.ticketHome rightPool left rightScore rightTicket]

/-- The invariant gives the guarantees. -/
theorem Sound.guarantees {now : Nat} {store : PoolStore Pool Caller Operation}
    (sound : Sound configuration now store) : Guarantees configuration now store where
  leases pool holders held := sound.leaseLimit pool holders held
  tickets holders held := by
    rw [← card_holders sound held]
    refine sound.globalLimit _ ?_
    intro operation inside
    obtain ⟨⟨pool, holder⟩, member, rfl⟩ := Finset.mem_image.mp inside
    obtain ⟨score, live, ticket⟩ := held (pool, holder) member
    have home : configuration.poolOf holder = pool := sound.ticketHome pool holder score ticket
    subst home
    exact ⟨score, live, (sound.globalShare holder score live).mp ticket⟩
  callerTickets caller holders held := by
    rw [← card_holders sound fun holder member => (held holder member).1]
    refine sound.callerLimit caller _ ?_
    intro operation inside
    obtain ⟨⟨pool, holder⟩, member, rfl⟩ := Finset.mem_image.mp inside
    obtain ⟨⟨score, live, ticket⟩, called⟩ := held (pool, holder) member
    have home : configuration.poolOf holder = pool := sound.ticketHome pool holder score ticket
    subst home
    rw [← called]
    exact ⟨score, live, (sound.callerShare holder score live).mp ticket⟩
  exclusive operation leasePool ticketPool := by
    rintro ⟨⟨lease, leaseLive, leased⟩, ⟨ticket, ticketLive, queued⟩⟩
    obtain rfl := sound.leaseHome leasePool operation lease leased
    obtain rfl := sound.ticketHome ticketPool operation ticket queued
    have passed := sound.exclusive _ operation lease ticket leased leaseLive queued
    omega
  sameTickets := sound.sameTickets
  globalShare pool operation score live := by
    constructor
    · intro ticket
      obtain rfl := sound.ticketHome pool operation score ticket
      exact ⟨rfl, (sound.globalShare operation score live).mp ticket⟩
    · rintro ⟨rfl, shared⟩
      exact (sound.globalShare operation score live).mpr shared
  callerShare pool operation score live := by
    constructor
    · intro ticket
      obtain rfl := sound.ticketHome pool operation score ticket
      exact ⟨rfl, _, (sound.callerShare operation score live).mp ticket⟩
    · rintro ⟨rfl, caller, shared⟩
      obtain rfl := sound.callerHome caller operation score shared
      exact (sound.callerShare operation score live).mpr shared
  leaseKept later pool operation score live leased :=
    (sound.leaseCover pool).expire_keeps live leased
  ticketKept later pool operation score passes live ticket := by
    have home := sound.ticketHome pool operation score ticket
    subst home
    have kept := (sound.ticketCover _).expire_keeps live ticket
    obtain ⟨counted, queueDue, sequenceDue⟩ := sound.dueTogether _ operation score ticket
    -- The expiry set is alive at `later`, and the other two keys fall due with it.
    have alive : ¬ ∃ deadline ∈ (store.queueExpiry (configuration.poolOf operation)).deadline,
        deadline ≤ later := by
      intro passed
      rw [zscore_expire, if_pos passed] at kept
      cases kept
    have sequence : (store.sequence (configuration.poolOf operation)).expire later =
        store.sequence (configuration.poolOf operation) := by
      unfold CounterKey.expire
      rw [sequenceDue, if_neg alive]
    refine ⟨kept, ?_, ?_, ?_, sequence, ?_⟩
    · show ((store.queue _).expire later).zscore operation = _
      rw [zscore_expire, queueDue, if_neg alive]
    · exact sound.globalCover.expire_keeps live
        ((sound.globalShare operation score (passes.trans_lt live)).mp ticket)
    · exact (sound.callerCover _).expire_keeps live
        ((sound.callerShare operation score (passes.trans_lt live)).mp ticket)
    · show ((store.sequence _).expire later).value.isSome
      rw [sequence]
      exact counted
  admitReply later operation passes :=
    (admitScript_effect ((sound.expire passes).keys (configuration.poolOf operation)
      (configuration.callerOf operation)) (leaseMs_pos _ _) (queueWaitMs_pos _ _)
      operation ⟨rfl, rfl⟩).2
  observeReply later pool passes :=
    observeScript_reply ((sound.expire passes).keys pool configuration.observer)

/-- **The model pools keep their representation.** Every run of admit, heartbeat,
release, cancel and observe scripts, over any pools and callers, ends in a state
with all guarantees. -/
theorem model_pool_guarantees (configuration : PoolConfiguration Pool Caller Operation)
    (start : Nat) (commands : List (TimedCommand Pool Operation)) :
    Guarantees configuration (runPool configuration start commands).1
      (runPool configuration start commands).2 :=
  (sound_runPool configuration start commands).guarantees

end Runs

end Zangpu.Limits.ModelPool
