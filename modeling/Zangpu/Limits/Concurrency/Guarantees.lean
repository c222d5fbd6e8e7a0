import Zangpu.Foundation.Runs
import Zangpu.Limits.Concurrency

/-!
What the concurrency limiter guarantees for one caller.

Owns: `ConcurrencyLimiter` as commands on the lease key of one caller, with
`concurrency_observe.lua`; runs of commands of any operations at a nondecreasing
Redis clock; and the guarantees of every command in every reachable state.

Does not own: the reply checks, and the leases of the model pools.
-/

set_option autoImplicit false

namespace Zangpu.Limits.Concurrency

open Zangpu.Foundation
open Zangpu.Foundation.SortedSetKey
open Zangpu.Limits.ModelPool

/-! ## Commands -/

/-- The lease length as the constructor accepts it. -/
structure ConcurrencyLimiter where
  leaseSeconds : Nat
  leaseBounds : 1 ≤ leaseSeconds ∧ leaseSeconds ≤ 900

/-- `_lease_milliseconds`. -/
def ConcurrencyLimiter.leaseMilliseconds (limiter : ConcurrencyLimiter) : Nat :=
  1000 * limiter.leaseSeconds

theorem ConcurrencyLimiter.lease_pos (limiter : ConcurrencyLimiter) :
    0 < limiter.leaseMilliseconds := by
  have bounds := limiter.leaseBounds
  unfold leaseMilliseconds
  omega

/-- One limiter call on the key. -/
inductive ConcurrencyCommand (Operation : Type) where
  | acquire (operation : Operation) (limit : Nat)
  | heartbeat (operation : Operation)
  | release (operation : Operation)
  | observe

section Commands

variable {Operation : Type} [LinearOrder Operation]

/-- The score of `ZREVRANGE key 0 0 WITHSCORES`. -/
def zlastScore (key : SortedSetKey Operation) : Option Nat :=
  key.sorted.getLast?.map Prod.snd

/-- `concurrency_observe.lua`. -/
def observeScript (now : Nat) (key : SortedSetKey Operation) :
    SortedSetKey Operation × List Int :=
  let key := key.zremrangebyscore now
  if key.zcard = 0 then (key.delEmpty, [0, now, now, now])
  else (key, [key.zcard, key.zfirstScore.getD now, (zlastScore key).getD now, now])

variable (limiter : ConcurrencyLimiter)

/-- A command at time `now`: a key past its deadline is gone, and the script runs on
what is left. -/
def ConcurrencyCommand.execute (now : Nat) (key : SortedSetKey Operation) :
    ConcurrencyCommand Operation → SortedSetKey Operation × List Int
  | acquire operation limit =>
      acquireScript limiter.leaseMilliseconds limit now operation (key.expire now)
  | heartbeat operation =>
      heartbeatScript limiter.leaseMilliseconds now operation (key.expire now)
  | release operation => releaseScript operation (key.expire now)
  | observe => observeScript now (key.expire now)

/-- The operation whose lease a command may change. -/
def ConcurrencyCommand.caller? : ConcurrencyCommand Operation → Option Operation
  | acquire operation _ | heartbeat operation | release operation => some operation
  | observe => none

/-- The key and the time of its last command. -/
structure KeyState (Operation : Type) where
  now : Nat
  key : SortedSetKey Operation

def KeyState.start : KeyState Operation := ⟨0, .empty⟩

/-- A command at a time not before the last one. -/
def ConcurrencyLimiter.step (state : KeyState Operation)
    (call : Nat × ConcurrencyCommand Operation) : Option (KeyState Operation) :=
  if state.now ≤ call.1 then some ⟨call.1, (call.2.execute limiter call.1 state.key).1⟩ else none

/-! ## Unexpired leases -/

/-- The operation has an unexpired lease that ends at the score. -/
def Unexpired (now : Nat) (key : SortedSetKey Operation) (operation : Operation) (score : Nat) :
    Prop :=
  (key.expire now).zscore operation = some score ∧ now < score

/-- The operations with an unexpired lease. -/
def unexpired (now : Nat) (key : SortedSetKey Operation) : Finset Operation :=
  (key.expire now).members.filter (Held now key)

theorem mem_unexpired {now : Nat} {key : SortedSetKey Operation} {operation : Operation} :
    operation ∈ unexpired now key ↔ ∃ score, Unexpired now key operation score := by
  unfold unexpired Unexpired
  rw [Finset.mem_filter, mem_members, held_iff]
  constructor
  · exact fun both => both.2
  · rintro ⟨score, stored, live⟩
    exact ⟨⟨score, stored⟩, score, stored, live⟩

/-! ## The invariant -/

/-- Every lease ends within one lease length, and the key lives as long as any of
its leases. -/
def Leases (limiter : ConcurrencyLimiter) (state : KeyState Operation) : Prop :=
  Covers 0 (state.now + limiter.leaseMilliseconds) state.key

theorem Leases.start : Leases limiter (.start : KeyState Operation) := by
  intro member score impossible
  cases impossible

section Scripts

variable {limiter} {now later : Nat} {key : SortedSetKey Operation}

theorem acquireScript_covers {leaseMs limit : Nat} {member : Operation}
    (covers : Covers 0 (now + leaseMs) key) :
    Covers 0 (now + leaseMs) (acquireScript leaseMs limit now member key).1 := by
  have pruned := (loses_zremrangebyscore key now).covers covers
  have refreshed : Covers 0 (now + leaseMs) ((key.zremrangebyscore now).pexpire (now + leaseMs)) :=
    covers_pexpire (fun other score stored => (pruned other score stored).1) (le_refl _)
  unfold acquireScript
  dsimp only
  split
  · exact refreshed
  · rename_i absent
    split
    · exact refreshed
    · refine covers_pexpire ?_ (le_refl _)
      intro other score stored
      rw [← zscore_pexpire _ (now + leaseMs), zscore_granted absent] at stored
      split at stored
      · exact (Option.some.inj stored).ge
      · exact (pruned other score stored).1

theorem heartbeatScript_covers {leaseMs : Nat} {member : Operation}
    (covers : Covers 0 (now + leaseMs) key) :
    Covers 0 (now + leaseMs) (heartbeatScript leaseMs now member key).1 := by
  have removed := (loses_zrem key member).covers covers
  unfold heartbeatScript
  split
  · exact removed
  · rename_i existingExpiry present
    split
    · exact removed
    · refine covers_pexpire ?_ (le_refl _)
      intro other score stored
      rw [← zscore_pexpire _ (now + leaseMs), zscore_renewed present] at stored
      split at stored
      · exact (Option.some.inj stored).ge
      · exact (covers other score stored).1

theorem releaseScript_covers {bound : Nat} {member : Operation} (covers : Covers 0 bound key) :
    Covers 0 bound (releaseScript member key).1 := by
  unfold releaseScript
  rw [delEmpty_eq]
  exact (loses_zrem key member).covers covers

theorem observeScript_key : (observeScript now key).1 = key.zremrangebyscore now := by
  unfold observeScript
  dsimp only
  split
  · exact delEmpty_eq _
  · rfl

variable (limiter) in
/-- Every command keeps the invariant. -/
theorem execute_covers (command : ConcurrencyCommand Operation)
    (covers : Covers 0 (now + limiter.leaseMilliseconds) key) (passes : now ≤ later) :
    Covers 0 (later + limiter.leaseMilliseconds) (command.execute limiter later key).1 := by
  have found : Covers 0 (later + limiter.leaseMilliseconds) (key.expire later) :=
    covers.expire (by omega)
  cases command with
  | acquire operation limit => exact acquireScript_covers found
  | heartbeat operation => exact heartbeatScript_covers found
  | release operation => exact releaseScript_covers found
  | observe =>
      show Covers _ _ (observeScript later (key.expire later)).1
      rw [observeScript_key]
      exact (loses_zremrangebyscore _ _).covers found

variable (limiter) in
/-- A command leaves the unexpired leases of other operations as they are. -/
theorem execute_settles (command : ConcurrencyCommand Operation) :
    Settles later (fun operation => command.caller? = some operation) (key.expire later)
      (command.execute limiter later key).1 := by
  intro other untouched score
  cases command with
  | acquire operation limit =>
      have different : other ≠ operation := fun same => untouched (congrArg some same.symm)
      have pruned := settles_pruned later (fun _ => False) (key.expire later) other id score
      show ((acquireScript _ _ _ _ _).1.zscore other = _ → _) ∧ (_ → _ → (acquireScript _ _ _ _ _).1.zscore other = _)
      unfold acquireScript
      dsimp only
      split
      · exact pruned
      · rename_i absent
        split
        · exact pruned
        · dsimp only
          rw [zscore_granted absent, if_neg different]
          exact pruned
  | heartbeat operation =>
      have different : other ≠ operation := fun same => untouched (congrArg some same.symm)
      show ((heartbeatScript _ _ _ _).1.zscore other = _ → _) ∧ (_ → _ → (heartbeatScript _ _ _ _).1.zscore other = _)
      unfold heartbeatScript
      split
      · exact settles_zrem later _ operation other different score
      · rename_i existingExpiry present
        split
        · exact settles_zrem later _ operation other different score
        · dsimp only
          rw [zscore_renewed present, if_neg different]
          exact ⟨id, fun _ => id⟩
  | release operation =>
      have different : other ≠ operation := fun same => untouched (congrArg some same.symm)
      show ((SortedSetKey.delEmpty _).zscore other = _ → _) ∧ (_ → _ → (SortedSetKey.delEmpty _).zscore other = _)
      rw [delEmpty_eq]
      exact settles_zrem later _ operation other different score
  | observe =>
      show ((observeScript _ _).1.zscore other = _ → _) ∧ (_ → _ → (observeScript _ _).1.zscore other = _)
      rw [observeScript_key]
      exact settles_pruned later (fun _ => False) (key.expire later) other id score

end Scripts

/-! ## Guarantees -/

/-- What every command finds and leaves in a state, at a time not before it. -/
structure Guarantees (state : KeyState Operation) : Prop where
  limited : ∀ later operation limit, state.now ≤ later →
    operation ∉ unexpired later state.key →
    ((ConcurrencyCommand.acquire operation limit).execute limiter later state.key).2.head? = some 1 →
      (unexpired later
        ((ConcurrencyCommand.acquire operation limit).execute limiter later state.key).1).card ≤ limit
  othersKept : ∀ later (command : ConcurrencyCommand Operation) other score, state.now ≤ later →
    command.caller? ≠ some other →
      (Unexpired later (command.execute limiter later state.key).1 other score ↔
        Unexpired later state.key other score)
  neverRevived : ∀ later operation, state.now ≤ later →
    operation ∉ unexpired later state.key →
      operation ∉ unexpired later
        ((ConcurrencyCommand.heartbeat operation).execute limiter later state.key).1
  regranted : ∀ later operation limit score, state.now ≤ later →
    Unexpired later state.key operation score →
      ((ConcurrencyCommand.acquire operation limit).execute limiter later state.key).2.head? = some 1 ∧
        Unexpired later
          ((ConcurrencyCommand.acquire operation limit).execute limiter later state.key).1
          operation score ∧
        unexpired later
          ((ConcurrencyCommand.acquire operation limit).execute limiter later state.key).1 =
          unexpired later state.key
  keyOutlives : ∀ later operation score, state.now ≤ later → later < score →
    state.key.zscore operation = some score →
      (state.key.expire later).zscore operation = some score

section Proofs

variable {limiter} {now later : Nat} {key : SortedSetKey Operation}

/-- In a covered key, an unexpired lease is a stored live score. -/
theorem Unexpired.of_covers {bound : Nat} (covers : Covers 0 bound key) {operation : Operation}
    {score : Nat} :
    Unexpired later key operation score ↔ key.zscore operation = some score ∧ later < score := by
  unfold Unexpired
  constructor
  · rintro ⟨stored, live⟩
    exact ⟨(covers.zscore_expire_iff live).mp stored, live⟩
  · rintro ⟨stored, live⟩
    exact ⟨(covers.zscore_expire_iff live).mpr stored, live⟩

theorem not_stored_of_not_unexpired {operation : Operation}
    (unleased : operation ∉ unexpired later key) :
    ((key.expire later).zremrangebyscore later).zscore operation = none := by
  rw [Option.eq_none_iff_forall_ne_some]
  intro score stored
  exact unleased (mem_unexpired.mpr ⟨score, zscore_pruned.mp stored⟩)

theorem zscore_of_unexpired {operation : Operation} {score : Nat}
    (leased : Unexpired later key operation score) :
    ((key.expire later).zremrangebyscore later).zscore operation = some score :=
  zscore_pruned.mpr leased

/-- A newly granted acquire leaves at most its own limit of unexpired leases. -/
theorem acquire_limited {operation : Operation} {limit : Nat}
    (covers : Covers 0 (now + limiter.leaseMilliseconds) key) (passes : now ≤ later)
    (unleased : operation ∉ unexpired later key)
    (granted : ((ConcurrencyCommand.acquire operation limit).execute limiter later key).2.head? =
      some 1) :
    (unexpired later
      ((ConcurrencyCommand.acquire operation limit).execute limiter later key).1).card ≤ limit := by
  have after := execute_covers limiter (.acquire operation limit) covers passes
  have absent := not_stored_of_not_unexpired unleased
  have within : Within limit later
      ((ConcurrencyCommand.acquire operation limit).execute limiter later key).1 := by
    unfold ConcurrencyCommand.execute acquireScript at granted ⊢
    simp only [absent] at granted ⊢
    split
    · rename_i full
      rw [if_pos full] at granted
      cases granted
    · rename_i room
      refine Within.gain operation (Nat.lt_of_not_le room) ?_
      intro other score stored different
      rwa [zscore_granted absent, if_neg different] at stored
  refine within _ ?_
  intro other member
  obtain ⟨score, leased⟩ := mem_unexpired.mp member
  obtain ⟨stored, live⟩ := (Unexpired.of_covers after).mp leased
  exact ⟨score, live, stored⟩

theorem execute_othersKept (command : ConcurrencyCommand Operation) {other : Operation}
    {score : Nat} (covers : Covers 0 (now + limiter.leaseMilliseconds) key) (passes : now ≤ later)
    (different : command.caller? ≠ some other) :
    Unexpired later (command.execute limiter later key).1 other score ↔
      Unexpired later key other score := by
  rw [Unexpired.of_covers (execute_covers limiter command covers passes)]
  obtain ⟨gains, keeps⟩ := execute_settles limiter command other different score
  unfold Unexpired
  constructor
  · rintro ⟨stored, live⟩
    exact ⟨gains stored, live⟩
  · rintro ⟨stored, live⟩
    exact ⟨keeps live stored, live⟩

theorem heartbeat_neverRevives {operation : Operation}
    (covers : Covers 0 (now + limiter.leaseMilliseconds) key) (passes : now ≤ later)
    (unleased : operation ∉ unexpired later key) :
    operation ∉ unexpired later
      ((ConcurrencyCommand.heartbeat operation).execute limiter later key).1 := by
  have after := execute_covers limiter (.heartbeat operation) covers passes
  have removed : ((key.expire later).zrem operation).zscore operation = none := by
    rw [zscore_zrem, if_pos rfl]
  have gone : ((ConcurrencyCommand.heartbeat operation).execute limiter later key).1.zscore
      operation = none := by
    unfold ConcurrencyCommand.execute heartbeatScript
    dsimp only
    split
    · exact removed
    · rename_i existingExpiry stored
      split
      · exact removed
      · rename_i live
        exact (unleased (mem_unexpired.mpr ⟨existingExpiry, stored, by omega⟩)).elim
  intro member
  obtain ⟨score, leased⟩ := mem_unexpired.mp member
  obtain ⟨stored, _⟩ := (Unexpired.of_covers after).mp leased
  rw [gone] at stored
  cases stored

/-- An unexpired lease is granted again as it is. -/
theorem acquire_regrants {operation : Operation} {limit score : Nat}
    (covers : Covers 0 (now + limiter.leaseMilliseconds) key) (passes : now ≤ later)
    (leased : Unexpired later key operation score) :
    ((ConcurrencyCommand.acquire operation limit).execute limiter later key).2.head? = some 1 ∧
      Unexpired later
        ((ConcurrencyCommand.acquire operation limit).execute limiter later key).1 operation score ∧
      unexpired later
        ((ConcurrencyCommand.acquire operation limit).execute limiter later key).1 =
        unexpired later key := by
  have after := execute_covers limiter (.acquire operation limit) covers passes
  have present := zscore_of_unexpired leased
  have script : (ConcurrencyCommand.acquire operation limit).execute limiter later key =
      (((key.expire later).zremrangebyscore later).pexpire (later + limiter.leaseMilliseconds),
        [1, (((key.expire later).zremrangebyscore later).zcard : Int), score, later]) := by
    unfold ConcurrencyCommand.execute acquireScript
    simp only [present]
  have same (other : Operation) (until_ : Nat) :
      Unexpired later ((ConcurrencyCommand.acquire operation limit).execute limiter later key).1
        other until_ ↔ Unexpired later key other until_ := by
    rw [Unexpired.of_covers after, script, zscore_pexpire, zscore_pruned]
    exact ⟨fun both => both.1, fun live => ⟨live, live.2⟩⟩
  refine ⟨by rw [script]; rfl, (same operation score).mpr leased, ?_⟩
  ext other
  simp only [mem_unexpired, same]

theorem Leases.guarantees {state : KeyState Operation} (leases : Leases limiter state) :
    Guarantees limiter state where
  limited _ _ _ passes unleased granted := acquire_limited leases passes unleased granted
  othersKept _ command _ _ passes different := execute_othersKept command leases passes different
  neverRevived _ _ passes unleased := heartbeat_neverRevives leases passes unleased
  regranted _ _ _ _ passes leased := acquire_regrants leases passes leased
  keyOutlives _ _ _ _ live stored := Covers.expire_keeps leases live stored

theorem Leases.step {before after : KeyState Operation} {call : Nat × ConcurrencyCommand Operation}
    (leases : Leases limiter before) (steps : limiter.step before call = some after) :
    Leases limiter after := by
  unfold ConcurrencyLimiter.step at steps
  split at steps
  · rename_i passes
    cases steps
    exact execute_covers limiter call.2 leases passes
  · cases steps

end Proofs

end Commands

/-- **The concurrency limiter keeps its guarantees** in every state that commands of
any operations, each acquire with its own limit, reach at a nondecreasing clock. -/
theorem concurrency_limiter_guarantees {Operation : Type} [LinearOrder Operation]
    (limiter : ConcurrencyLimiter) {state : KeyState Operation}
    (run : Reached limiter.step (fun _ _ => True) .start state) : Guarantees limiter state := by
  have leases : Leases limiter state := Reached.invariant (Leases.start limiter)
    (fun _ _ _ leases _ steps => leases.step steps) run
  exact leases.guarantees

/-- One operation holds a lease of a minute, and another asks. -/
theorem concurrency_limiter_guarantees_sample :
    Guarantees ⟨60, by decide⟩
      (⟨1000, ((ConcurrencyCommand.acquire "first" 1).execute ⟨60, by decide⟩ 1000 .empty).1⟩ :
        KeyState String) :=
  have stepped : ConcurrencyLimiter.step ⟨60, by decide⟩ .start (1000, .acquire "first" 1) =
      some ⟨1000, ((ConcurrencyCommand.acquire "first" 1).execute ⟨60, by decide⟩ 1000
        .empty).1⟩ := rfl
  concurrency_limiter_guarantees ⟨60, by decide⟩ (.step .start trivial stepped)

end Zangpu.Limits.Concurrency
