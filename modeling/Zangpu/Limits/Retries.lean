import Zangpu.Limits.Concurrency.Guarantees
import Zangpu.Limits.Qps

/-!
Retries after a denial.

Owns: keys that hold as many entries as a limit allows, of which the first leaves
at a known time; that both limiters with one limit leave such a key when they deny
a call; and what every later retry on that key gets.

Does not own: the headers in which callers read the time.
-/

set_option autoImplicit false

namespace Zangpu.Limits.Retries

open Zangpu.Foundation
open Zangpu.Foundation.SortedSetKey
open Zangpu.Limits.ModelPool
open Zangpu.Limits.Concurrency
open Zangpu.Limits.Qps

variable {Member : Type} [LinearOrder Member]

/-! ## Entries that leave -/

theorem zfirstScore_le {key : SortedSetKey Member} {first score : Nat} {member : Member}
    (leads : key.zfirstScore = some first) (stored : key.zscore member = some score) :
    first ≤ score := by
  have inside := mem_sorted.mpr stored
  have pairwise := key.sorted_pairwise
  unfold zfirstScore at leads
  cases entries : key.sorted with
  | nil =>
      rw [entries] at inside
      cases inside
  | cons head rest =>
      rw [entries] at leads inside pairwise
      have headScore : head.2 = first := Option.some.inj leads
      rcases List.mem_cons.mp inside with same | later
      · rw [← headScore, ← same]
      · have sorted := (List.pairwise_cons.mp pairwise).1 _ later
        rcases sorted with less | ⟨equal, _⟩
        · exact headScore ▸ less.le
        · exact (headScore ▸ equal).le

section Entries

variable {left right : SortedSetKey Member} (same : left.entries = right.entries)
include same

theorem zscore_congr (member : Member) : left.zscore member = right.zscore member := by
  unfold zscore
  rw [same]

omit [LinearOrder Member] in
theorem zcard_congr : left.zcard = right.zcard := by
  unfold zcard
  rw [same]

theorem zfirstScore_congr : left.zfirstScore = right.zfirstScore := by
  unfold zfirstScore sorted
  rw [same]

end Entries

omit [LinearOrder Member] in
/-- Pruning with a window of zero removes the expired leases. -/
theorem pruneWindow_zero (now : Nat) (key : SortedSetKey Member) :
    pruneWindow 0 now key = key.zremrangebyscore now := if_pos (Nat.zero_le now)

/-- Pruning leaves the entries of a key of which none has to leave. -/
theorem entries_pruneWindow {slack now : Nat} {key : SortedSetKey Member}
    (stay : ∀ member score, key.zscore member = some score → now < score + slack) :
    (pruneWindow slack now key).entries = key.entries := by
  unfold pruneWindow
  split
  · rename_i due
    have rows : (key.entries.rows.filter fun entry => decide (now - slack < entry.2)) =
        key.entries.rows := by
      rw [List.filter_eq_self]
      rintro ⟨member, score⟩ stored
      have late := stay member score (zscore_eq_some.mpr stored)
      rw [decide_eq_true_iff]
      dsimp only
      omega
    unfold zremrangebyscore ofEntries Table.restrict
    simp only [rows]
  · rfl

/-- A pruned key keeps fewer entries once one of them had to leave. -/
theorem zcard_pruneWindow_lt {slack now first : Nat} {key : SortedSetKey Member}
    {member : Member} (stored : key.zscore member = some first) (due : first + slack ≤ now) :
    (pruneWindow slack now key).zcard < key.zcard := by
  rw [zcard_eq_card, zcard_eq_card]
  refine Finset.card_lt_card (Finset.ssubset_iff_subset_ne.mpr ⟨?_, ?_⟩)
  · intro other inside
    obtain ⟨score, left⟩ := mem_members.mp inside
    exact mem_members.mpr ⟨score, (zscore_pruneWindow.mp left).1⟩
  · intro same
    have inside : member ∈ (pruneWindow slack now key).members := by
      rw [same]
      exact mem_members.mpr ⟨first, stored⟩
    obtain ⟨score, left⟩ := mem_members.mp inside
    obtain ⟨kept, live⟩ := zscore_pruneWindow.mp left
    rw [stored] at kept
    obtain rfl := Option.some.inj kept
    omega

/-- The key holds as many entries as the limit, and the first of them leaves before
the key does. -/
structure Saturated (slack limit first : Nat) (key : SortedSetKey Member) : Prop where
  full : key.zcard = limit
  leads : key.zfirstScore = some first
  outlives : ∀ deadline ∈ key.deadline, first + slack ≤ deadline

section Saturated

variable {slack limit first now : Nat} {key : SortedSetKey Member}

/-- Before the first entry leaves, a later command finds every entry. -/
theorem Saturated.entries_early (saturated : Saturated slack limit first key)
    (early : now < first + slack) :
    (pruneWindow slack now (key.expire now)).entries = key.entries := by
  have alive : key.expire now = key := by
    unfold SortedSetKey.expire
    rw [if_neg]
    rintro ⟨deadline, due, passed⟩
    have outlives := saturated.outlives deadline due
    omega
  rw [alive]
  refine entries_pruneWindow fun member score stored => ?_
  have least := zfirstScore_le saturated.leads stored
  omega

/-- From then on, a later command finds room. -/
theorem Saturated.room_late (saturated : Saturated slack limit first key)
    (late : first + slack ≤ now) :
    (pruneWindow slack now (key.expire now)).zcard < limit := by
  obtain ⟨member, stored⟩ := zscore_of_zfirstScore saturated.leads
  have positive := zcard_pos stored
  have full := saturated.full
  unfold SortedSetKey.expire
  split
  · have fewer : (pruneWindow slack now (SortedSetKey.empty : SortedSetKey Member)).zcard = 0 := by
      rw [zcard_eq_card, Finset.card_eq_zero, Finset.eq_empty_iff_forall_notMem]
      intro other inside
      obtain ⟨score, left⟩ := mem_members.mp inside
      cases (zscore_pruneWindow.mp left).1
    omega
  · have fewer := zcard_pruneWindow_lt stored late
    omega

/-- A key with the entries of a full one, live until its first entry left. -/
theorem Saturated.of_entries {after : SortedSetKey Member} (full : after.zcard = limit)
    (leads : after.zfirstScore = some first) {deadline : Nat} (late : first + slack ≤ deadline) :
    Saturated slack limit first (after.pexpire deadline) where
  full := full
  leads := leads
  outlives := fun _ due => late.trans (le_deadline_pexpire due)

end Saturated

/-! ## Keys within a limit -/

/-- At most `limit` entries have still to leave. -/
def Uncrowded (slack limit now : Nat) (key : SortedSetKey Member) : Prop :=
  (pruneWindow slack now key).zcard ≤ limit

section Uncrowded

variable {slack limit now later : Nat} {before after : SortedSetKey Member}

theorem mem_pruned {key : SortedSetKey Member} {member : Member} :
    member ∈ (pruneWindow slack now key).members ↔
      ∃ score, key.zscore member = some score ∧ now < score + slack := by
  simp only [mem_members, zscore_pruneWindow]

/-- A key without new entries stays within the limit. -/
theorem Uncrowded.mono (uncrowded : Uncrowded slack limit now before)
    (kept : ∀ member score, after.zscore member = some score → later < score + slack →
      ∃ earlier, before.zscore member = some earlier ∧ now < earlier + slack) :
    Uncrowded slack limit later after := by
  unfold Uncrowded at uncrowded ⊢
  rw [zcard_eq_card] at uncrowded ⊢
  refine (Finset.card_le_card ?_).trans uncrowded
  intro member inside
  obtain ⟨score, stored, live⟩ := mem_pruned.mp inside
  exact mem_pruned.mpr (kept member score stored live)

/-- A key with room that gains one entry stays within the limit. -/
theorem Uncrowded.gain (gained : Member) (room : before.zcard < limit)
    (kept : ∀ member score, after.zscore member = some score → member ≠ gained →
      before.zscore member = some score) :
    Uncrowded slack limit later after := by
  unfold Uncrowded
  have inside : (pruneWindow slack later after).members ⊆ insert gained before.members := by
    intro member inside
    obtain ⟨score, stored, _⟩ := mem_pruned.mp inside
    by_cases same : member = gained
    · exact Finset.mem_insert.mpr (.inl same)
    · exact Finset.mem_insert.mpr (.inr (mem_members.mpr ⟨score, kept member score stored same⟩))
  have bound := (Finset.card_le_card inside).trans (Finset.card_insert_le _ _)
  rw [← zcard_eq_card, ← zcard_eq_card] at bound
  omega

theorem uncrowded_start : Uncrowded slack limit 0 (SortedSetKey.empty : SortedSetKey Member) := by
  have none : (pruneWindow slack 0 (SortedSetKey.empty : SortedSetKey Member)).entries =
      SortedSetKey.empty.entries :=
    entries_pruneWindow fun _ _ impossible => by cases impossible
  unfold Uncrowded
  rw [zcard_congr none]
  exact Nat.zero_le limit

theorem Uncrowded.expire (uncrowded : Uncrowded slack limit now before) (passes : now ≤ later) :
    Uncrowded slack limit later (before.expire later) :=
  uncrowded.mono fun _ score stored live => ⟨score, zscore_of_expire stored, by omega⟩

/-- A limit that a full key reaches is exactly its number of entries. -/
theorem saturated_of_full (uncrowded : Uncrowded slack limit now before) (positive : 1 ≤ limit)
    (full : limit ≤ (pruneWindow slack now before).zcard) :
    (pruneWindow slack now before).zcard = limit ∧
      ∃ first member, (pruneWindow slack now before).zfirstScore = some first ∧
        before.zscore member = some first ∧ now < first + slack := by
  obtain ⟨first, leads⟩ := zfirstScore_isSome (Nat.lt_of_lt_of_le positive full)
  obtain ⟨member, stored⟩ := zscore_of_zfirstScore leads
  obtain ⟨stored, live⟩ := zscore_pruneWindow.mp stored
  exact ⟨Nat.le_antisymm uncrowded full, first, member, leads, stored, live⟩

end Uncrowded

/-! ## The concurrency limiter -/

/-- An acquire asks for the limit; other commands name none. -/
def UsesLimit (limit : Nat) : ConcurrencyCommand Member → Prop
  | .acquire _ requested => requested = limit
  | .heartbeat _ | .release _ | .observe => True

section Concurrency

variable {limiter : ConcurrencyLimiter} {limit first now later : Nat}
  {key : SortedSetKey Member} {member : Member}

theorem execute_uncrowded {command : ConcurrencyCommand Member} (limited : UsesLimit limit command)
    (uncrowded : Uncrowded 0 limit now key) (passes : now ≤ later) :
    Uncrowded 0 limit later (command.execute limiter later key).1 := by
  have found : Uncrowded 0 limit later (key.expire later) := uncrowded.expire passes
  cases command with
  | acquire operation requested =>
      obtain rfl : requested = limit := limited
      have pruned : Uncrowded 0 requested later ((key.expire later).zremrangebyscore later) :=
        found.mono fun _ score stored live => ⟨score, (zscore_pruned.mp stored).1, live⟩
      show Uncrowded 0 requested later (acquireScript _ _ _ _ _).1
      unfold acquireScript
      dsimp only
      split
      · exact pruned
      · rename_i absent
        split
        · exact pruned
        · rename_i room
          refine Uncrowded.gain operation (Nat.lt_of_not_le room) ?_
          intro other score stored different
          rwa [zscore_granted absent, if_neg different] at stored
  | heartbeat operation =>
      have removed : Uncrowded 0 limit later ((key.expire later).zrem operation) :=
        found.mono fun other score stored live => ⟨score, (loses_zrem _ _ other score stored).1, live⟩
      show Uncrowded 0 limit later (heartbeatScript _ _ _ _).1
      unfold heartbeatScript
      split
      · exact removed
      · rename_i existingExpiry present
        split
        · exact removed
        · rename_i unexpired
          refine found.mono fun other score stored live => ?_
          rw [zscore_renewed present] at stored
          split at stored
          · rename_i same
            exact ⟨existingExpiry, same ▸ present, by omega⟩
          · exact ⟨score, stored, live⟩
  | release operation =>
      show Uncrowded 0 limit later (SortedSetKey.delEmpty _)
      rw [delEmpty_eq]
      exact found.mono fun other score stored live =>
        ⟨score, (loses_zrem _ _ other score stored).1, live⟩
  | observe =>
      show Uncrowded 0 limit later (Concurrency.observeScript _ _).1
      rw [observeScript_key]
      exact found.mono fun _ score stored live => ⟨score, (zscore_pruned.mp stored).1, live⟩

/-- What every run with one limit keeps of the key: leases end within one length,
and at most the limit of them are unexpired. -/
structure Occupied (limiter : ConcurrencyLimiter) (limit : Nat) (state : KeyState Member) :
    Prop where
  leases : Leases limiter state
  uncrowded : Uncrowded 0 limit state.now state.key

theorem Occupied.start : Occupied limiter limit (.start : KeyState Member) :=
  ⟨Leases.start limiter, uncrowded_start⟩

theorem Occupied.step {before after : KeyState Member} {call : Nat × ConcurrencyCommand Member}
    (occupied : Occupied limiter limit before) (limited : UsesLimit limit call.2)
    (steps : limiter.step before call = some after) : Occupied limiter limit after := by
  refine ⟨occupied.leases.step steps, ?_⟩
  unfold ConcurrencyLimiter.step at steps
  split at steps
  · rename_i passes
    cases steps
    exact execute_uncrowded limited occupied.uncrowded passes
  · cases steps

/-- What the caller of an acquire reads. -/
def acquireAnswer (limiter : ConcurrencyLimiter) (limit now : Nat) (member : Member)
    (key : SortedSetKey Member) : Except ControlPlaneUnavailable AcquireReply :=
  checkAcquireReply ((ConcurrencyCommand.acquire member limit).execute limiter now key).2

theorem checkAcquireReply_ok {count expires observed : Int} (counted : 0 ≤ count)
    (ordered : observed ≤ expires) (allowed : Bool) :
    checkAcquireReply [if allowed then 1 else 0, count, expires, observed] =
      .ok ⟨allowed, count, expires, observed⟩ := by
  cases allowed
  · simp [checkAcquireReply, require, counted, ordered, bind, Except.bind, pure, Except.pure]
  · simp [checkAcquireReply, require, counted, ordered, bind, Except.bind, pure, Except.pure]

/-- A denied acquire found no lease of the member and no room. -/
theorem acquireAnswer_denied {reply : AcquireReply}
    (answered : acquireAnswer limiter limit now member key = .ok reply)
    (denied : reply.allowed = false) :
    (pruneWindow 0 now (key.expire now)).zscore member = none ∧
      limit ≤ (pruneWindow 0 now (key.expire now)).zcard := by
  unfold acquireAnswer ConcurrencyCommand.execute acquireScript at answered
  dsimp only at answered
  rw [pruneWindow_zero]
  split at answered
  · simp only [checkAcquireReply, bind_ok_iff, require_ok_iff, pure, Except.pure,
      Except.ok.injEq] at answered
    obtain ⟨_, _, _, _, _, _, rfl⟩ := answered
    cases denied
  · rename_i absent
    split at answered
    · rename_i full
      exact ⟨absent, full⟩
    · simp only [checkAcquireReply, bind_ok_iff, require_ok_iff, pure, Except.pure,
        Except.ok.injEq] at answered
      obtain ⟨_, _, _, _, _, _, rfl⟩ := answered
      cases denied

/-- What an acquire does when it finds no lease of the member and no room. -/
theorem execute_full (absent : (pruneWindow 0 now (key.expire now)).zscore member = none)
    (full : limit ≤ (pruneWindow 0 now (key.expire now)).zcard)
    (leads : (pruneWindow 0 now (key.expire now)).zfirstScore = some first) :
    (ConcurrencyCommand.acquire member limit).execute limiter now key =
      ((pruneWindow 0 now (key.expire now)).pexpire (now + limiter.leaseMilliseconds),
        [0, ((pruneWindow 0 now (key.expire now)).zcard : Int), first, now]) := by
  rw [pruneWindow_zero] at absent full leads ⊢
  unfold ConcurrencyCommand.execute acquireScript
  simp only [absent, if_pos full, leads, Option.getD_some]

/-- The state after a denial whose reported time is `first`. -/
structure Refusing (limiter : ConcurrencyLimiter) (limit first : Nat) (member : Member)
    (state : KeyState Member) : Prop where
  saturated : Saturated 0 limit first state.key
  absent : state.key.zscore member = none
  horizon : first ≤ state.now + limiter.leaseMilliseconds

/-- A denial in a state of the limiter reports the first lease end, and refuses on. -/
theorem Refusing.of_denied {state : KeyState Member} {reply : AcquireReply}
    (occupied : Occupied limiter limit state)
    (positive : 1 ≤ limit) (passes : state.now ≤ now)
    (answered : acquireAnswer limiter limit now member state.key = .ok reply)
    (denied : reply.allowed = false) :
    ∃ first : Nat, reply = ⟨false, limit, first, now⟩ ∧ now < first ∧
      Refusing limiter limit first member
        ⟨now, ((ConcurrencyCommand.acquire member limit).execute limiter now state.key).1⟩ := by
  obtain ⟨absent, full⟩ := acquireAnswer_denied answered denied
  obtain ⟨exact, first, holder, leads, stored, live⟩ :=
    saturated_of_full (occupied.uncrowded.expire passes) positive full
  have horizon := (occupied.leases holder first (zscore_of_expire stored)).1
  unfold acquireAnswer at answered
  rw [execute_full absent full leads] at answered ⊢
  have reported : reply = ⟨false, limit, first, now⟩ := by
    rw [exact] at answered
    have checked := checkAcquireReply_ok (Int.natCast_nonneg limit)
      (show (now : Int) ≤ first by omega) false
    exact (Except.ok.inj (checked.symm.trans answered)).symm
  exact ⟨first, reported, by omega, Saturated.of_entries exact leads (by omega), absent, by dsimp only; omega⟩

/-- A retry before the reported time is denied with the same report, and refuses on. -/
theorem Refusing.early {state : KeyState Member}
    (refusing : Refusing limiter limit first member state) (passes : state.now ≤ now)
    (early : now < first) :
    acquireAnswer limiter limit now member state.key = .ok ⟨false, limit, first, now⟩ ∧
      Refusing limiter limit first member
        ⟨now, ((ConcurrencyCommand.acquire member limit).execute limiter now state.key).1⟩ := by
  have same := refusing.saturated.entries_early (show now < first + 0 from early)
  have absent := (zscore_congr same member).trans refusing.absent
  have exact := (zcard_congr same).trans refusing.saturated.full
  have leads := (zfirstScore_congr same).trans refusing.saturated.leads
  have horizon := refusing.horizon
  unfold acquireAnswer
  rw [execute_full absent exact.ge leads]
  refine ⟨?_, Saturated.of_entries exact leads (by omega), absent, by dsimp only; omega⟩
  rw [exact]
  exact checkAcquireReply_ok (Int.natCast_nonneg _) (by omega) false

/-- A retry at or after the reported time is granted. -/
theorem Refusing.late {state : KeyState Member}
    (refusing : Refusing limiter limit first member state) (late : first ≤ now) :
    ∃ reply, acquireAnswer limiter limit now member state.key = .ok reply ∧
      reply.allowed = true := by
  have room := refusing.saturated.room_late (show first + 0 ≤ now from late)
  have absent : (pruneWindow 0 now (state.key.expire now)).zscore member = none := by
    rw [Option.eq_none_iff_forall_ne_some]
    intro score stored
    have found := zscore_of_expire (zscore_pruneWindow.mp stored).1
    rw [refusing.absent] at found
    cases found
  rw [pruneWindow_zero] at room absent
  unfold acquireAnswer ConcurrencyCommand.execute acquireScript
  simp only [absent, if_neg (Nat.not_le_of_lt room)]
  exact ⟨_, checkAcquireReply_ok (Int.natCast_nonneg _) (by omega) true, rfl⟩

end Concurrency

/-! ## The sliding window -/

/-- A checked reply of the window script. -/
structure WindowReply where
  allowed : Bool
  count : Int
  resetAtMs : Int
  observedAtMs : Int
  deriving DecidableEq, Repr

/-- The checks of `admit` on a reply. -/
def checkWindowReply : List Int → Except ControlPlaneUnavailable WindowReply
  | [allowedValue, count, resetAtMs, observedAtMs] => do
      require (allowedValue = 0 ∨ allowedValue = 1) .unavailable
      require (0 ≤ count) .unavailable
      require (observedAtMs ≤ resetAtMs) .unavailable
      return ⟨allowedValue = 1, count, resetAtMs, observedAtMs⟩
  | _ => .error .unavailable

/-- A call on the key of a caller. -/
def executeCall (qps : SlidingWindowQps) (key : SortedSetKey Member) (call : Call Member) :
    SortedSetKey Member × List Int :=
  slidingWindowScript qps.windowMilliseconds call.limit call.now call.member
    (key.expire call.now)

/-- A call at a time not before the last one; members may call again. -/
def serve (qps : SlidingWindowQps) (state : KeyState Member) (call : Call Member) :
    Option (KeyState Member) :=
  if state.now ≤ call.now then some ⟨call.now, (executeCall qps state.key call).1⟩ else none

/-- What the caller of `admit` reads. -/
def admitAnswer (qps : SlidingWindowQps) (key : SortedSetKey Member) (call : Call Member) :
    Except ControlPlaneUnavailable WindowReply :=
  checkWindowReply (executeCall qps key call).2

theorem checkWindowReply_ok {count resetAtMs observed : Int} (counted : 0 ≤ count)
    (ordered : observed ≤ resetAtMs) (allowed : Bool) :
    checkWindowReply [if allowed then 1 else 0, count, resetAtMs, observed] =
      .ok ⟨allowed, count, resetAtMs, observed⟩ := by
  cases allowed
  · simp [checkWindowReply, require, counted, ordered, bind, Except.bind, pure, Except.pure]
  · simp [checkWindowReply, require, counted, ordered, bind, Except.bind, pure, Except.pure]

/-- What every run with one limit keeps of the key: no entry is in the future, the
key lives a window past each, and the window holds at most the limit. -/
structure Windowed (qps : SlidingWindowQps) (limit : Nat) (state : KeyState Member) : Prop where
  covers : Covers qps.windowMilliseconds state.now state.key
  uncrowded : Uncrowded qps.windowMilliseconds limit state.now state.key

section Window

variable {qps : SlidingWindowQps} {limit first now : Nat} {key : SortedSetKey Member}
  {member : Member}

theorem Windowed.start : Windowed qps limit (.start : KeyState Member) where
  covers _ _ impossible := by cases impossible
  uncrowded := uncrowded_start

/-- What a call does when it finds no room. -/
theorem executeCall_full {call : Call Member}
    (full : call.limit ≤
      (pruneWindow qps.windowMilliseconds call.now (key.expire call.now)).zcard)
    (leads : (pruneWindow qps.windowMilliseconds call.now (key.expire call.now)).zfirstScore =
      some first) :
    executeCall qps key call =
      ((pruneWindow qps.windowMilliseconds call.now (key.expire call.now)).pexpire
          (call.now + qps.windowMilliseconds),
        [0, ((pruneWindow qps.windowMilliseconds call.now (key.expire call.now)).zcard : Int),
          (first : Int) + qps.windowMilliseconds, call.now]) := by
  have kept : ((pruneWindow qps.windowMilliseconds call.now (key.expire call.now)).pexpire
      (call.now + qps.windowMilliseconds)).zfirstScore = some first := leads
  unfold executeCall slidingWindowScript
  simp [Nat.not_lt_of_le full, kept]

/-- What a call does when it finds room. -/
theorem executeCall_room {call : Call Member}
    (room : (pruneWindow qps.windowMilliseconds call.now (key.expire call.now)).zcard <
      call.limit) :
    ∃ (count : Nat) (resetAtMs : Int), (call.now : Int) ≤ resetAtMs ∧
      executeCall qps key call =
        ((zadd (pruneWindow qps.windowMilliseconds call.now (key.expire call.now)) call.now
          call.member).pexpire (call.now + qps.windowMilliseconds),
          [1, (count : Int), resetAtMs, call.now]) := by
  refine ⟨(zadd (pruneWindow qps.windowMilliseconds call.now (key.expire call.now)) call.now
    call.member).zcard, (((zadd (pruneWindow qps.windowMilliseconds call.now (key.expire call.now)) call.now
    call.member).zfirstScore.map (· + qps.windowMilliseconds)).getD
      (call.now + qps.windowMilliseconds) : Nat), ?_, ?_⟩
  · cases leads : (zadd (pruneWindow qps.windowMilliseconds call.now (key.expire call.now))
        call.now call.member).zfirstScore with
    | none =>
        rw [Option.map_none, Option.getD_none]
        omega
    | some first =>
        rw [Option.map_some, Option.getD_some]
        obtain ⟨member, stored⟩ := zscore_of_zfirstScore leads
        rw [zscore_zadd] at stored
        split at stored
        · have same := Option.some.inj stored
          omega
        · have live := (zscore_pruneWindow.mp stored).2
          omega
  · unfold executeCall slidingWindowScript
    simp [room]
    rfl

theorem admitAnswer_room {call : Call Member}
    (room : (pruneWindow qps.windowMilliseconds call.now (key.expire call.now)).zcard <
      call.limit) :
    ∃ reply, admitAnswer qps key call = .ok reply ∧ reply.allowed = true := by
  obtain ⟨count, resetAtMs, ordered, executed⟩ := executeCall_room room
  unfold admitAnswer
  rw [executed]
  exact ⟨_, checkWindowReply_ok (Int.natCast_nonneg count) ordered true, rfl⟩

theorem Windowed.step {before after : KeyState Member} {call : Call Member}
    (windowed : Windowed qps limit before) (limited : call.limit = limit)
    (steps : serve qps before call = some after) : Windowed qps limit after := by
  unfold serve at steps
  split at steps
  · rename_i passes
    cases steps
    have old : ∀ other score, (pruneWindow qps.windowMilliseconds call.now
        (before.key.expire call.now)).zscore other = some score → score ≤ call.now := by
      intro other score stored
      have found := zscore_of_expire (zscore_pruneWindow.mp stored).1
      exact (windowed.covers other score found).1.trans passes
    by_cases room : (pruneWindow qps.windowMilliseconds call.now
        (before.key.expire call.now)).zcard < call.limit
    · obtain ⟨count, resetAtMs, _, executed⟩ := executeCall_room room
      rw [executed]
      refine ⟨covers_pexpire ?_ (le_refl _), ?_⟩
      · intro other score stored
        rw [zscore_zadd] at stored
        split at stored
        · exact (Option.some.inj stored).ge
        · exact old other score stored
      · refine Uncrowded.gain call.member (limited ▸ room) ?_
        intro other score stored different
        rwa [zscore_pexpire, zscore_zadd, if_neg different] at stored
    · have kept : (executeCall qps before.key call).1 =
          (pruneWindow qps.windowMilliseconds call.now (before.key.expire call.now)).pexpire
            (call.now + qps.windowMilliseconds) := by
        unfold executeCall slidingWindowScript
        simp [room]
      rw [kept]
      refine ⟨covers_pexpire old (le_refl _), ?_⟩
      refine (windowed.uncrowded.expire passes).mono fun other score stored live => ?_
      exact ⟨score, (zscore_pruneWindow.mp stored).1, live⟩
  · cases steps

/-- The state after a denial whose reported time is `first + window`. -/
structure Closed (qps : SlidingWindowQps) (limit first : Nat) (state : KeyState Member) :
    Prop where
  saturated : Saturated qps.windowMilliseconds limit first state.key
  past : first ≤ state.now

/-- A denial in a state of the limiter reports when the first entry leaves the window. -/
theorem Closed.of_denied {state : KeyState Member} {reply : WindowReply}
    (windowed : Windowed qps limit state) (positive : 1 ≤ limit) (passes : state.now ≤ now)
    (answered : admitAnswer qps state.key ⟨now, member, limit⟩ = .ok reply)
    (denied : reply.allowed = false) :
    ∃ first : Nat, reply = ⟨false, limit, (first : Int) + qps.windowMilliseconds, now⟩ ∧
      Closed qps limit first ⟨now, (executeCall qps state.key ⟨now, member, limit⟩).1⟩ := by
  have full : limit ≤ (pruneWindow qps.windowMilliseconds now (state.key.expire now)).zcard := by
    by_contra room
    obtain ⟨granted, admitted, allowed⟩ :=
      @admitAnswer_room _ _ _ _ ⟨now, member, limit⟩ (Nat.lt_of_not_le room)
    rw [answered] at admitted
    cases admitted
    rw [denied] at allowed
    cases allowed
  obtain ⟨exact, first, holder, leads, stored, live⟩ :=
    saturated_of_full (windowed.uncrowded.expire passes) positive full
  have past := (windowed.covers holder first (zscore_of_expire stored)).1
  unfold admitAnswer at answered
  rw [executeCall_full full leads] at answered ⊢
  have reported : reply = ⟨false, limit, (first : Int) + qps.windowMilliseconds, now⟩ := by
    dsimp only at answered
    rw [exact] at answered
    have checked := checkWindowReply_ok (Int.natCast_nonneg limit)
      (show (now : Int) ≤ (first : Int) + qps.windowMilliseconds by omega) false
    exact (Except.ok.inj (checked.symm.trans answered)).symm
  exact ⟨first, reported, Saturated.of_entries exact leads (by dsimp only; omega), past.trans passes⟩

/-- A retry before the reported time is denied with the same report. -/
theorem Closed.early {state : KeyState Member} (closed : Closed qps limit first state)
    (passes : state.now ≤ now) (early : now < first + qps.windowMilliseconds) :
    admitAnswer qps state.key ⟨now, member, limit⟩ =
        .ok ⟨false, limit, (first : Int) + qps.windowMilliseconds, now⟩ ∧
      Closed qps limit first ⟨now, (executeCall qps state.key ⟨now, member, limit⟩).1⟩ := by
  have same := closed.saturated.entries_early early
  have exact := (zcard_congr same).trans closed.saturated.full
  have leads := (zfirstScore_congr same).trans closed.saturated.leads
  have past := closed.past
  unfold admitAnswer
  rw [executeCall_full exact.ge leads]
  refine ⟨?_, Saturated.of_entries exact leads (by dsimp only; omega), past.trans passes⟩
  dsimp only
  rw [exact]
  exact checkWindowReply_ok (Int.natCast_nonneg _) (by omega) false

/-- A retry at or after the reported time is granted. -/
theorem Closed.late {state : KeyState Member} (closed : Closed qps limit first state)
    (late : first + qps.windowMilliseconds ≤ now) :
    ∃ reply, admitAnswer qps state.key ⟨now, member, limit⟩ = .ok reply ∧
      reply.allowed = true :=
  admitAnswer_room (closed.saturated.room_late late)

end Window

end Zangpu.Limits.Retries
