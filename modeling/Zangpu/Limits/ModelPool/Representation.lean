import Zangpu.Limits.ModelPool.Scripts

/-!
The representation invariant of the model pools.

Owns: the invariant that relates the lease set, the four ticket sets and the key
deadlines of every pool; its preservation by the passage of time and by every
script; and what follows from it for leases, tickets, limits, deadlines and replies.

Does not own: the order in which tickets are admitted.
-/

set_option autoImplicit false

namespace Zangpu.Limits.ModelPool

open Zangpu.Foundation
open SortedSetKey

section Invariant

variable {Pool Caller Operation : Type} [LinearOrder Operation]

/-- At most `limit` members have a score after `now`. -/
def Within (limit now : Nat) (key : SortedSetKey Operation) : Prop :=
  ∀ members : Finset Operation,
    (∀ member ∈ members, ∃ score, now < score ∧ key.zscore member = some score) →
      members.card ≤ limit

/-- Every score is at most `bound`, and the key lives `slack` past each score. -/
def Covers (slack bound : Nat) (key : SortedSetKey Operation) : Prop :=
  ∀ member score, key.zscore member = some score →
    score ≤ bound ∧ ∃ deadline, key.deadline = some deadline ∧ score + slack ≤ deadline

/-- The ticket sequence, its expiry set and the counter of a pool fall due together. -/
def DueTogether (queue queueExpiry : SortedSetKey Operation) (sequence : CounterKey) : Prop :=
  ∀ member score, queueExpiry.zscore member = some score →
    sequence.value.isSome ∧ queue.deadline = queueExpiry.deadline ∧
      sequence.deadline = queueExpiry.deadline

/-- The representation invariant at time `now`. -/
structure Sound (configuration : PoolConfiguration Pool Caller Operation) (now : Nat)
    (store : PoolStore Pool Caller Operation) : Prop where
  leaseHome : ∀ pool operation score, (store.active pool).zscore operation = some score →
    configuration.poolOf operation = pool
  ticketHome : ∀ pool operation score, (store.queueExpiry pool).zscore operation = some score →
    configuration.poolOf operation = pool
  callerHome : ∀ caller operation score,
    (store.callerQueue caller).zscore operation = some score →
      configuration.callerOf operation = caller
  sameTickets : ∀ pool operation, ((store.queue pool).zscore operation).isSome =
    ((store.queueExpiry pool).zscore operation).isSome
  globalShare : ∀ operation score, now < score →
    ((store.queueExpiry (configuration.poolOf operation)).zscore operation = some score ↔
      store.globalQueue.zscore operation = some score)
  callerShare : ∀ operation score, now < score →
    ((store.queueExpiry (configuration.poolOf operation)).zscore operation = some score ↔
      (store.callerQueue (configuration.callerOf operation)).zscore operation = some score)
  exclusive : ∀ pool operation lease ticket,
    (store.active pool).zscore operation = some lease → now < lease →
      (store.queueExpiry pool).zscore operation = some ticket → ticket ≤ now
  leaseLimit : ∀ pool, Within (configuration.activeLimit pool) now (store.active pool)
  globalLimit : Within configuration.queueLimit now store.globalQueue
  callerLimit : ∀ caller, Within configuration.callerQueueLimit now (store.callerQueue caller)
  leaseCover : ∀ pool, Covers 0 (now + configuration.leaseMs) (store.active pool)
  ticketCover : ∀ pool, Covers 1000 (now + configuration.queueWaitMs) (store.queueExpiry pool)
  globalCover : Covers 1000 (now + configuration.queueWaitMs) store.globalQueue
  callerCover : ∀ caller,
    Covers 1000 (now + configuration.queueWaitMs) (store.callerQueue caller)
  dueTogether : ∀ pool,
    DueTogether (store.queue pool) (store.queueExpiry pool) (store.sequence pool)

/-! ### Limits and covers -/

theorem Within.empty (limit now : Nat) :
    Within limit now (SortedSetKey.empty : SortedSetKey Operation) := by
  intro members live
  have none : members = ∅ := by
    rw [Finset.eq_empty_iff_forall_notMem]
    intro member inside
    obtain ⟨_, _, stored⟩ := live member inside
    cases stored
  rw [none]
  exact Nat.zero_le _

/-- A key whose live scores were live before stays within its limit. -/
theorem Within.mono {limit now later : Nat} {before after : SortedSetKey Operation}
    (within : Within limit now before)
    (kept : ∀ member score, later < score → after.zscore member = some score →
      ∃ earlier, now < earlier ∧ before.zscore member = some earlier) :
    Within limit later after := by
  intro members live
  refine within members ?_
  intro member inside
  obtain ⟨score, alive, stored⟩ := live member inside
  exact kept member score alive stored

/-- A key that gains one member below its limit stays within it. -/
theorem Within.gain {limit now : Nat} {before after : SortedSetKey Operation}
    (gained : Operation) (room : before.zcard < limit)
    (kept : ∀ member score, after.zscore member = some score → member ≠ gained →
      before.zscore member = some score) :
    Within limit now after := by
  intro members live
  have inside : members ⊆ insert gained before.members := by
    intro member inside
    obtain ⟨score, _, stored⟩ := live member inside
    by_cases same : member = gained
    · exact Finset.mem_insert.mpr (.inl same)
    · exact Finset.mem_insert.mpr (.inr (mem_members.mpr ⟨score, kept member score stored same⟩))
  have bound := (Finset.card_le_card inside).trans (Finset.card_insert_le _ _)
  rw [← zcard_eq_card] at bound
  omega

/-- A key without expired entries has at most as many entries as its limit. -/
theorem Within.zcard_le {limit now : Nat} {key : SortedSetKey Operation}
    (within : Within limit now key)
    (live : ∀ member score, key.zscore member = some score → now < score) :
    key.zcard ≤ limit := by
  rw [zcard_eq_card]
  refine within key.members ?_
  intro member inside
  obtain ⟨score, stored⟩ := mem_members.mp inside
  exact ⟨score, live member score stored, stored⟩

/-- A key that only lost entries, and kept its deadline while it has any, stays covered. -/
theorem Covers.lose {slack bound larger : Nat} {before after : SortedSetKey Operation}
    (covers : Covers slack bound before) (grows : bound ≤ larger)
    (kept : ∀ member score, after.zscore member = some score →
      before.zscore member = some score ∧ after.deadline = before.deadline) :
    Covers slack larger after := by
  intro member score stored
  obtain ⟨earlier, sameDeadline⟩ := kept member score stored
  obtain ⟨small, covered⟩ := covers member score earlier
  rw [sameDeadline]
  exact ⟨small.trans grows, covered⟩

/-- A new deadline beyond every score covers the key. -/
theorem covers_pexpire {slack bound deadline : Nat} {key : SortedSetKey Operation}
    (small : ∀ member score, key.zscore member = some score → score ≤ bound)
    (beyond : bound + slack ≤ deadline) : Covers slack bound (key.pexpire deadline) := by
  intro member score stored
  have bounded := small member score stored
  exact ⟨bounded, deadline, deadline_ofEntries stored, by omega⟩

/-! ### The passage of time -/

theorem zscore_of_expire {key : SortedSetKey Operation} {now : Nat} {member : Operation}
    {score : Nat} (stored : (key.expire now).zscore member = some score) :
    key.zscore member = some score := by
  rw [zscore_expire] at stored
  split at stored
  · cases stored
  · exact stored

/-- No deadline drops an entry before its score has passed. -/
theorem Covers.expire_keeps {slack bound now : Nat} {key : SortedSetKey Operation}
    (covers : Covers slack bound key) {member : Operation} {score : Nat}
    (live : now < score) (stored : key.zscore member = some score) :
    (key.expire now).zscore member = some score := by
  obtain ⟨_, deadline, due, beyond⟩ := covers member score stored
  rw [zscore_expire, if_neg, stored]
  rintro ⟨other, sameKey, passed⟩
  rw [due, Option.mem_some_iff] at sameKey
  omega

theorem Covers.expire {slack bound larger now : Nat} {key : SortedSetKey Operation}
    (covers : Covers slack bound key) (grows : bound ≤ larger) :
    Covers slack larger (key.expire now) :=
  covers.lose grows fun _ _ stored => ⟨zscore_of_expire stored, deadline_expire stored⟩

theorem Within.expire {limit now later : Nat} {key : SortedSetKey Operation}
    (within : Within limit now key) (passes : now ≤ later) :
    Within limit later (key.expire later) :=
  within.mono fun _ score alive stored =>
    ⟨score, passes.trans_lt alive, zscore_of_expire stored⟩

/-- A live entry is stored after the deadline check exactly when it was before. -/
theorem Covers.zscore_expire_iff {slack bound now : Nat} {key : SortedSetKey Operation}
    (covers : Covers slack bound key) {member : Operation} {score : Nat} (live : now < score) :
    (key.expire now).zscore member = some score ↔ key.zscore member = some score :=
  ⟨zscore_of_expire, covers.expire_keeps live⟩

/-- A pool's ticket sequence and its expiry set lose their keys together. -/
theorem isSome_expire {queue queueExpiry : SortedSetKey Operation} {sequence : CounterKey}
    (due : DueTogether queue queueExpiry sequence) (now : Nat) (member : Operation)
    (same : (queue.zscore member).isSome = (queueExpiry.zscore member).isSome) :
    ((queue.expire now).zscore member).isSome =
      ((queueExpiry.expire now).zscore member).isSome := by
  rw [zscore_expire, zscore_expire]
  cases ticket : queueExpiry.zscore member with
  | none =>
      rw [ticket] at same
      have absent : queue.zscore member = none := Option.not_isSome_iff_eq_none.mp (by simp [same])
      rw [absent]
      split <;> split <;> rfl
  | some score =>
      rw [(due member score ticket).2.1]
      split
      · rfl
      · rw [same, ticket]

theorem DueTogether.expire {queue queueExpiry : SortedSetKey Operation} {sequence : CounterKey}
    (due : DueTogether queue queueExpiry sequence) (now : Nat) :
    DueTogether (queue.expire now) (queueExpiry.expire now) (sequence.expire now) := by
  intro member score stored
  have ticket := zscore_of_expire stored
  obtain ⟨counted, queueDue, sequenceDue⟩ := due member score ticket
  have alive : ¬ ∃ deadline ∈ queueExpiry.deadline, deadline ≤ now := by
    intro passed
    rw [zscore_expire, if_pos passed] at stored
    cases stored
  have queueAlive : queue.expire now = queue := by
    unfold SortedSetKey.expire
    rw [queueDue, if_neg alive]
  have sequenceAlive : sequence.expire now = sequence := by
    unfold CounterKey.expire
    rw [sequenceDue, if_neg alive]
  rw [queueAlive, sequenceAlive, deadline_expire stored]
  exact ⟨counted, queueDue, sequenceDue⟩

theorem Sound.empty (configuration : PoolConfiguration Pool Caller Operation) (now : Nat) :
    Sound configuration now PoolStore.empty where
  leaseHome _ _ _ stored := by cases stored
  ticketHome _ _ _ stored := by cases stored
  callerHome _ _ _ stored := by cases stored
  sameTickets _ _ := rfl
  globalShare _ _ _ := by simp [PoolStore.empty]
  callerShare _ _ _ := by simp [PoolStore.empty]
  exclusive _ _ _ _ stored := by cases stored
  leaseLimit _ := Within.empty _ _
  globalLimit := Within.empty _ _
  callerLimit _ := Within.empty _ _
  leaseCover _ _ _ stored := by cases stored
  ticketCover _ _ _ stored := by cases stored
  globalCover _ _ stored := by cases stored
  callerCover _ _ _ stored := by cases stored
  dueTogether _ _ _ stored := by cases stored

/-- **Time keeps the invariant.** Dropping the keys that fall due by a later time
loses no unexpired lease or ticket. -/
theorem Sound.expire {configuration : PoolConfiguration Pool Caller Operation}
    {now later : Nat} {store : PoolStore Pool Caller Operation}
    (sound : Sound configuration now store) (passes : now ≤ later) :
    Sound configuration later (store.expire later) where
  leaseHome pool operation score stored :=
    sound.leaseHome pool operation score (zscore_of_expire stored)
  ticketHome pool operation score stored :=
    sound.ticketHome pool operation score (zscore_of_expire stored)
  callerHome caller operation score stored :=
    sound.callerHome caller operation score (zscore_of_expire stored)
  sameTickets pool operation :=
    isSome_expire (sound.dueTogether pool) later operation (sound.sameTickets pool operation)
  globalShare operation score live := by
    show ((store.queueExpiry _).expire later).zscore operation = _ ↔
      (store.globalQueue.expire later).zscore operation = _
    rw [(sound.ticketCover _).zscore_expire_iff live, sound.globalCover.zscore_expire_iff live]
    exact sound.globalShare operation score (passes.trans_lt live)
  callerShare operation score live := by
    show ((store.queueExpiry _).expire later).zscore operation = _ ↔
      ((store.callerQueue _).expire later).zscore operation = _
    rw [(sound.ticketCover _).zscore_expire_iff live,
      (sound.callerCover _).zscore_expire_iff live]
    exact sound.callerShare operation score (passes.trans_lt live)
  exclusive pool operation lease ticket leased live queued :=
    (sound.exclusive pool operation lease ticket (zscore_of_expire leased)
      (passes.trans_lt live) (zscore_of_expire queued)).trans passes
  leaseLimit pool := (sound.leaseLimit pool).expire passes
  globalLimit := sound.globalLimit.expire passes
  callerLimit caller := (sound.callerLimit caller).expire passes
  leaseCover pool := (sound.leaseCover pool).expire (by omega)
  ticketCover pool := (sound.ticketCover pool).expire (by omega)
  globalCover := sound.globalCover.expire (by omega)
  callerCover caller := (sound.callerCover caller).expire (by omega)
  dueTogether pool := (sound.dueTogether pool).expire later

/-! ### One script -/

/-- The invariant as one script sees it on its keys. `own` are the operations of
the script's pool and caller. -/
structure KeysSound (arguments : AdmitArguments) (now : Nat) (own : Operation → Prop)
    (keys : PoolKeys Operation) : Prop where
  sameTickets : ∀ operation, (keys.queue.zscore operation).isSome =
    (keys.queueExpiry.zscore operation).isSome
  poolShare : ∀ operation score, now < score →
    keys.queueExpiry.zscore operation = some score →
      keys.globalQueue.zscore operation = some score
  globalShare : ∀ operation, own operation → ∀ score, now < score →
    (keys.queueExpiry.zscore operation = some score ↔
      keys.globalQueue.zscore operation = some score)
  callerShare : ∀ operation, own operation → ∀ score, now < score →
    (keys.queueExpiry.zscore operation = some score ↔
      keys.callerQueue.zscore operation = some score)
  exclusive : ∀ operation lease ticket, keys.active.zscore operation = some lease →
    now < lease → keys.queueExpiry.zscore operation = some ticket → ticket ≤ now
  leaseLimit : Within arguments.activeLimit now keys.active
  globalLimit : Within arguments.queueLimit now keys.globalQueue
  callerLimit : Within arguments.callerQueueLimit now keys.callerQueue
  leaseCover : Covers 0 (now + arguments.leaseMs) keys.active
  ticketCover : Covers 1000 (now + arguments.queueWaitMs) keys.queueExpiry
  globalCover : Covers 1000 (now + arguments.queueWaitMs) keys.globalQueue
  callerCover : Covers 1000 (now + arguments.queueWaitMs) keys.callerQueue
  dueTogether : DueTogether keys.queue keys.queueExpiry keys.sequence

/-- Members that are not touched gain nothing and lose expired entries only. -/
def Settles (now : Nat) (touched : Operation → Prop) (before after : SortedSetKey Operation) :
    Prop :=
  ∀ member, ¬ touched member → ∀ score,
    (after.zscore member = some score → before.zscore member = some score) ∧
      (now < score → before.zscore member = some score → after.zscore member = some score)

/-- The unexpired entries of untouched operations stay as they are in every set. -/
structure SettlesKeys (now : Nat) (touched : Operation → Prop)
    (before after : PoolKeys Operation) : Prop where
  active : Settles now touched before.active after.active
  queueExpiry : Settles now touched before.queueExpiry after.queueExpiry
  globalQueue : Settles now touched before.globalQueue after.globalQueue
  callerQueue : Settles now touched before.callerQueue after.callerQueue

/-- What a script may do to its keys: keep the invariant, and leave alone the
unexpired entries of the operations it does not touch. -/
structure Effect (arguments : AdmitArguments) (now : Nat) (own touched : Operation → Prop)
    (before after : PoolKeys Operation) : Prop where
  sound : KeysSound arguments now own after
  settles : SettlesKeys now touched before after

theorem Settles.refl (now : Nat) (touched : Operation → Prop) (key : SortedSetKey Operation) :
    Settles now touched key key :=
  fun _ _ _ => ⟨id, fun _ => id⟩

theorem Settles.trans {now : Nat} {touched : Operation → Prop}
    {first second third : SortedSetKey Operation} (left : Settles now touched first second)
    (right : Settles now touched second third) : Settles now touched first third :=
  fun member other score =>
    ⟨fun stored => (left member other score).1 ((right member other score).1 stored),
      fun live stored => (right member other score).2 live ((left member other score).2 live stored)⟩

theorem SettlesKeys.refl (now : Nat) (touched : Operation → Prop) (keys : PoolKeys Operation) :
    SettlesKeys now touched keys keys :=
  ⟨.refl _ _ _, .refl _ _ _, .refl _ _ _, .refl _ _ _⟩

theorem SettlesKeys.trans {now : Nat} {touched : Operation → Prop}
    {first second third : PoolKeys Operation} (left : SettlesKeys now touched first second)
    (right : SettlesKeys now touched second third) : SettlesKeys now touched first third :=
  ⟨left.active.trans right.active, left.queueExpiry.trans right.queueExpiry,
    left.globalQueue.trans right.globalQueue, left.callerQueue.trans right.callerQueue⟩

/-- An untouched live entry is stored after the script exactly when it was before. -/
theorem Settles.iff {now : Nat} {touched : Operation → Prop}
    {before after : SortedSetKey Operation} (settles : Settles now touched before after)
    {member : Operation} (other : ¬ touched member) {score : Nat} (live : now < score) :
    after.zscore member = some score ↔ before.zscore member = some score :=
  ⟨(settles member other score).1, (settles member other score).2 live⟩

/-- The keys of one pool and one caller inherit the invariant. -/
theorem Sound.keys {configuration : PoolConfiguration Pool Caller Operation} {now : Nat}
    {store : PoolStore Pool Caller Operation} (sound : Sound configuration now store)
    (pool : Pool) (caller : Caller) :
    KeysSound (configuration.arguments pool) now
      (fun operation => configuration.poolOf operation = pool ∧
        configuration.callerOf operation = caller)
      (store.keys pool caller) where
  sameTickets := sound.sameTickets pool
  poolShare operation score live ticket := by
    have home : configuration.poolOf operation = pool :=
      sound.ticketHome pool operation score ticket
    subst home
    exact (sound.globalShare operation score live).mp ticket
  globalShare operation own score live := by
    obtain ⟨rfl, rfl⟩ := own
    exact sound.globalShare operation score live
  callerShare operation own score live := by
    obtain ⟨rfl, rfl⟩ := own
    exact sound.callerShare operation score live
  exclusive := sound.exclusive pool
  leaseLimit := sound.leaseLimit pool
  globalLimit := sound.globalLimit
  callerLimit := sound.callerLimit caller
  leaseCover := sound.leaseCover pool
  ticketCover := sound.ticketCover pool
  globalCover := sound.globalCover
  callerCover := sound.callerCover caller
  dueTogether := sound.dueTogether pool

section Save

variable [DecidableEq Pool] [DecidableEq Caller]

/-- A family of keys, one of which a script settled, settles everywhere. -/
private theorem settles_update {Index : Type} [DecidableEq Index]
    (family : Index → SortedSetKey Operation) {now : Nat} {touched : Operation → Prop}
    {written : Index} {after : SortedSetKey Operation}
    (settles : Settles now touched (family written) after) (index : Index) :
    Settles now touched (family index) (Function.update family written after index) := by
  by_cases same : index = written
  · subst same
    rw [Function.update_self]
    exact settles
  · rw [Function.update_of_ne same]
    exact Settles.refl _ _ _

/-- A property of every key of a family survives the update of one key that has it. -/
private theorem forall_update {Index Key : Type} [DecidableEq Index] {family : Index → Key}
    (property : Index → Key → Prop) (holds : ∀ index, property index (family index))
    {written : Index} {after : Key} (changed : property written after) (index : Index) :
    property index (Function.update family written after index) := by
  by_cases same : index = written
  · subst same
    rw [Function.update_self]
    exact changed
  · rw [Function.update_of_ne same]
    exact holds index

/-- **A script keeps the invariant.** It is enough that its effect on its own keys
is sound and settled outside the operations it touches. -/
theorem Sound.save {configuration : PoolConfiguration Pool Caller Operation} {now : Nat}
    {store : PoolStore Pool Caller Operation} (sound : Sound configuration now store)
    {pool : Pool} {caller : Caller} {touched : Operation → Prop} {after : PoolKeys Operation}
    (effect : Effect (configuration.arguments pool) now
      (fun operation => configuration.poolOf operation = pool ∧
        configuration.callerOf operation = caller) touched (store.keys pool caller) after)
    (own : ∀ operation, touched operation → configuration.poolOf operation = pool ∧
      configuration.callerOf operation = caller) :
    Sound configuration now (store.save pool caller after) := by
  have settlesActive := settles_update store.active effect.settles.active
  have settlesExpiry := settles_update store.queueExpiry effect.settles.queueExpiry
  have settlesCaller := settles_update store.callerQueue effect.settles.callerQueue
  have settlesGlobal : Settles now touched store.globalQueue after.globalQueue :=
    effect.settles.globalQueue
  constructor
  case leaseHome =>
    intro other operation score stored
    by_cases mine : touched operation
    · by_cases same : other = pool
      · rw [same]
        exact (own operation mine).1
      · refine sound.leaseHome other operation score ?_
        rw [← Function.update_of_ne same after.active store.active]
        exact stored
    · exact sound.leaseHome other operation score
        ((settlesActive other operation mine score).1 stored)
  case ticketHome =>
    intro other operation score stored
    by_cases mine : touched operation
    · by_cases same : other = pool
      · rw [same]
        exact (own operation mine).1
      · refine sound.ticketHome other operation score ?_
        rw [← Function.update_of_ne same after.queueExpiry store.queueExpiry]
        exact stored
    · exact sound.ticketHome other operation score
        ((settlesExpiry other operation mine score).1 stored)
  case callerHome =>
    intro other operation score stored
    by_cases mine : touched operation
    · by_cases same : other = caller
      · rw [same]
        exact (own operation mine).2
      · refine sound.callerHome other operation score ?_
        rw [← Function.update_of_ne same after.callerQueue store.callerQueue]
        exact stored
    · exact sound.callerHome other operation score
        ((settlesCaller other operation mine score).1 stored)
  case sameTickets =>
    intro other operation
    simp only [PoolStore.save]
    by_cases same : other = pool
    · subst same
      simpa only [Function.update_self] using effect.sound.sameTickets operation
    · simpa only [Function.update_of_ne same] using sound.sameTickets other operation
  case globalShare =>
    intro operation score live
    by_cases mine : touched operation
    · have home := (own operation mine).1
      simp only [PoolStore.save, home, Function.update_self]
      exact effect.sound.globalShare operation (own operation mine) score live
    · refine ((settlesExpiry _).iff mine live).trans ?_
      exact (sound.globalShare operation score live).trans (settlesGlobal.iff mine live).symm
  case callerShare =>
    intro operation score live
    by_cases mine : touched operation
    · obtain ⟨home, called⟩ := own operation mine
      simp only [PoolStore.save, home, called, Function.update_self]
      exact effect.sound.callerShare operation (own operation mine) score live
    · refine ((settlesExpiry _).iff mine live).trans ?_
      exact (sound.callerShare operation score live).trans
        ((settlesCaller _).iff mine live).symm
  case exclusive =>
    intro other
    simp only [PoolStore.save]
    by_cases same : other = pool
    · subst same
      simpa only [Function.update_self] using effect.sound.exclusive
    · simpa only [Function.update_of_ne same] using sound.exclusive other
  case leaseLimit =>
    exact forall_update (fun index key =>
      Within (configuration.activeLimit index) now key) sound.leaseLimit effect.sound.leaseLimit
  case globalLimit => exact effect.sound.globalLimit
  case callerLimit =>
    exact forall_update (fun _ key => Within configuration.callerQueueLimit now key)
      sound.callerLimit effect.sound.callerLimit
  case leaseCover =>
    exact forall_update (fun _ key => Covers 0 (now + configuration.leaseMs) key)
      sound.leaseCover effect.sound.leaseCover
  case ticketCover =>
    exact forall_update
      (fun _ key => Covers 1000 (now + configuration.queueWaitMs) key)
      sound.ticketCover effect.sound.ticketCover
  case globalCover => exact effect.sound.globalCover
  case callerCover =>
    exact forall_update
      (fun _ key => Covers 1000 (now + configuration.queueWaitMs) key)
      sound.callerCover effect.sound.callerCover
  case dueTogether =>
    intro other
    simp only [PoolStore.save]
    by_cases same : other = pool
    · subst same
      simpa only [Function.update_self] using effect.sound.dueTogether
    · simpa only [Function.update_of_ne same] using sound.dueTogether other

end Save

end Invariant

end Zangpu.Limits.ModelPool
