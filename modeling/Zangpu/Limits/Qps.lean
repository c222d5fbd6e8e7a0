import Zangpu.Foundation.Runs
import Zangpu.Limits.ModelPool.Effects

/-!
The sliding window of requests per caller.

Owns: `SlidingWindowQps` as calls of `qps_sliding_window.lua` on the key of one
caller; runs of calls at a nondecreasing Redis clock with the history of their
admissions; and the exact relation between what the key stores and that history.

Does not own: the limit of a caller, and the reply checks.
-/

set_option autoImplicit false

namespace Zangpu.Limits.Qps

open Zangpu.Foundation
open Zangpu.Foundation.SortedSetKey
open Zangpu.Limits.ModelPool

/-! ## The script -/

/-- The window length as the constructor accepts it. -/
structure SlidingWindowQps where
  windowMilliseconds : Nat
  windowBounds : 100 ≤ windowMilliseconds ∧ windowMilliseconds ≤ 60000

section Script

variable {Member : Type} [LinearOrder Member]

/-- `ZADD key score member`. -/
def zadd (key : SortedSetKey Member) (score : Nat) (member : Member) : SortedSetKey Member :=
  (key.zaddXX score member).zaddNX score member

theorem zscore_zadd (key : SortedSetKey Member) (score : Nat) (added member : Member) :
    (zadd key score added).zscore member =
      if member = added then some score else key.zscore member := by
  unfold zadd
  rw [zscore_zaddNX, zscore_zaddXX, zscore_zaddXX]
  by_cases same : member = added
  · subst same
    cases key.zscore member <;> simp
  · simp [same]

/-- `ZREMRANGEBYSCORE key -inf (now - window)`; no score is below a negative bound. -/
def pruneWindow (windowMs now : Nat) (key : SortedSetKey Member) : SortedSetKey Member :=
  if windowMs ≤ now then key.zremrangebyscore (now - windowMs) else key

/-- `qps_sliding_window.lua`. -/
def slidingWindowScript (windowMs requestLimit now : Nat) (member : Member)
    (key : SortedSetKey Member) : SortedSetKey Member × List Int :=
  let key := pruneWindow windowMs now key
  let admits := decide (key.zcard < requestLimit)
  let key := if admits then zadd key now member else key
  let count := key.zcard
  let key := key.pexpire (now + windowMs)
  let resetAtMs := (key.zfirstScore.map (· + windowMs)).getD (now + windowMs)
  (key, [if admits then 1 else 0, count, resetAtMs, now])

/-- A pruned key stores the scores inside the window. -/
theorem zscore_pruneWindow {windowMs now : Nat} {key : SortedSetKey Member} {member : Member}
    {score : Nat} :
    (pruneWindow windowMs now key).zscore member = some score ↔
      key.zscore member = some score ∧ (now < score + windowMs) := by
  unfold pruneWindow
  split
  · rw [zscore_pruned]
    exact and_congr_right fun _ => by omega
  · constructor
    · exact fun stored => ⟨stored, by omega⟩
    · exact fun both => both.1

end Script

/-! ## Runs -/

section Runs

variable {Member : Type} [LinearOrder Member]

/-- One call of `admit`. -/
structure Call (Member : Type) where
  now : Nat
  member : Member
  limit : Nat

/-- The key, the time of the last call, the members used so far, and the admissions
with their times, newest first. -/
structure WindowState (Member : Type) where
  now : Nat
  key : SortedSetKey Member
  used : List Member
  admissions : List (Member × Nat)

def WindowState.start : WindowState Member := ⟨0, .empty, [], []⟩

variable (qps : SlidingWindowQps)

/-- What the script does for a call. -/
def WindowState.outcome (state : WindowState Member) (call : Call Member) :
    SortedSetKey Member × List Int :=
  slidingWindowScript qps.windowMilliseconds call.limit call.now call.member
    (state.key.expire call.now)

/-- Whether the script admits a call. -/
def WindowState.admits (state : WindowState Member) (call : Call Member) : Bool :=
  decide ((state.outcome qps call).2.head? = some 1)

/-- A call not before the last one, of a member not used before. -/
def SlidingWindowQps.step (state : WindowState Member) (call : Call Member) :
    Option (WindowState Member) :=
  if state.now ≤ call.now ∧ call.member ∉ state.used then
    some {
      now := call.now
      key := (state.outcome qps call).1
      used := call.member :: state.used
      admissions :=
        if state.admits qps call then (call.member, call.now) :: state.admissions
        else state.admissions }
  else none

/-- How many admissions have times in the half-open window `(low, high]`. -/
def admittedIn (low high : Int) (admissions : List (Member × Nat)) : Nat :=
  admissions.countP fun admission => decide (low < admission.2 ∧ (admission.2 : Int) ≤ high)

/-- The key stores exactly the admissions that a later call still counts. -/
structure Tracks (state : WindowState Member) : Prop where
  recorded : ∀ member score, state.key.zscore member = some score →
    (member, score) ∈ state.admissions
  counted : ∀ member score, (member, score) ∈ state.admissions →
    state.now < score + qps.windowMilliseconds → state.key.zscore member = some score
  covers : Covers qps.windowMilliseconds state.now state.key
  past : ∀ admission ∈ state.admissions, admission.2 ≤ state.now
  fromUsed : ∀ admission ∈ state.admissions, admission.1 ∈ state.used
  distinct : (state.admissions.map Prod.fst).Nodup

theorem Tracks.start : Tracks qps (.start : WindowState Member) where
  recorded _ _ impossible := by cases impossible
  counted _ _ impossible := by cases impossible
  covers _ _ impossible := by cases impossible
  past _ impossible := by cases impossible
  fromUsed _ impossible := by cases impossible
  distinct := List.nodup_nil

variable {qps} {state : WindowState Member} {call : Call Member}

/-- What a call finds inside its window: the admissions of the window. -/
theorem Tracks.zscore_found (tracks : Tracks qps state) (passes : state.now ≤ call.now)
    {member : Member} {score : Nat} :
    (pruneWindow qps.windowMilliseconds call.now (state.key.expire call.now)).zscore member =
        some score ↔
      (member, score) ∈ state.admissions ∧ call.now < score + qps.windowMilliseconds := by
  rw [zscore_pruneWindow]
  constructor
  · rintro ⟨stored, inside⟩
    exact ⟨tracks.recorded member score (zscore_of_expire stored), inside⟩
  · rintro ⟨admitted, inside⟩
    have stored := tracks.counted member score admitted (by omega)
    obtain ⟨_, deadline, due, beyond⟩ := tracks.covers member score stored
    refine ⟨?_, inside⟩
    rw [zscore_expire, if_neg, stored]
    rintro ⟨other, sameKey, passed⟩
    rw [due, Option.mem_some_iff] at sameKey
    omega

/-- The count of the script is the number of admissions in its window. -/
theorem Tracks.zcard_found (tracks : Tracks qps state) (passes : state.now ≤ call.now) :
    (pruneWindow qps.windowMilliseconds call.now (state.key.expire call.now)).zcard =
      admittedIn (call.now - qps.windowMilliseconds : Int) call.now state.admissions := by
  rw [zcard_eq_card, admittedIn, List.countP_eq_length_filter]
  have names : ((state.admissions.filter fun admission =>
      decide ((call.now - qps.windowMilliseconds : Int) < admission.2 ∧
        (admission.2 : Int) ≤ call.now)).map Prod.fst).Nodup :=
    tracks.distinct.sublist ((List.filter_sublist).map Prod.fst)
  rw [← List.length_map Prod.fst, ← List.toFinset_card_of_nodup names]
  congr 1
  ext member
  rw [mem_members, List.mem_toFinset, List.mem_map]
  constructor
  · rintro ⟨score, stored⟩
    obtain ⟨admitted, inside⟩ := (tracks.zscore_found passes).mp stored
    have early := tracks.past _ admitted
    refine ⟨(member, score), List.mem_filter.mpr ⟨admitted, ?_⟩, rfl⟩
    rw [decide_eq_true_iff]
    dsimp only at early ⊢
    omega
  · rintro ⟨⟨named, score⟩, chosen, rfl⟩
    obtain ⟨admitted, inside⟩ := List.mem_filter.mp chosen
    rw [decide_eq_true_iff] at inside
    exact ⟨score, (tracks.zscore_found passes).mpr ⟨admitted, by dsimp only at inside; omega⟩⟩

/-- A call is admitted exactly when its window holds fewer admissions than its limit. -/
theorem Tracks.admits_iff (tracks : Tracks qps state) (passes : state.now ≤ call.now) :
    state.admits qps call = true ↔
      admittedIn (call.now - qps.windowMilliseconds : Int) call.now state.admissions <
        call.limit := by
  unfold WindowState.admits WindowState.outcome slidingWindowScript
  rw [decide_eq_true_iff]
  dsimp only
  rw [tracks.zcard_found passes]
  by_cases room : admittedIn (call.now - qps.windowMilliseconds : Int) call.now
      state.admissions < call.limit
  · simp [room]
  · simp [room]

/-- What the script leaves of one member, before and apart from the new deadline. -/
theorem WindowState.zscore_outcome (state : WindowState Member) (call : Call Member)
    (member : Member) :
    (state.outcome qps call).1.zscore member =
      if state.admits qps call = true ∧ member = call.member then some call.now
      else (pruneWindow qps.windowMilliseconds call.now (state.key.expire call.now)).zscore
        member := by
  unfold WindowState.admits WindowState.outcome slidingWindowScript
  dsimp only
  rw [zscore_pexpire]
  by_cases room : (pruneWindow qps.windowMilliseconds call.now
      (state.key.expire call.now)).zcard < call.limit
  · simp [room, zscore_zadd]
  · simp [room]

/-- A call takes the key along with the history. -/
theorem Tracks.step {after : WindowState Member} (tracks : Tracks qps state)
    (steps : qps.step state call = some after) : Tracks qps after := by
  unfold SlidingWindowQps.step at steps
  split at steps
  · rename_i allowed
    obtain ⟨passes, unused⟩ := allowed
    cases steps
    have recorded : ∀ member score, (state.outcome qps call).1.zscore member = some score →
        (member, score) ∈ (if state.admits qps call then
          (call.member, call.now) :: state.admissions else state.admissions) := by
      intro member score stored
      rw [WindowState.zscore_outcome] at stored
      split at stored
      · rename_i added
        rw [if_pos added.1, added.2, ← Option.some.inj stored]
        exact List.mem_cons_self
      · have earlier := ((tracks.zscore_found passes).mp stored).1
        split
        · exact List.mem_cons_of_mem _ earlier
        · exact earlier
    have past : ∀ admission ∈ (if state.admits qps call then
        (call.member, call.now) :: state.admissions else state.admissions),
        admission.2 ≤ call.now := by
      intro admission admitted
      split at admitted
      · rcases List.mem_cons.mp admitted with rfl | earlier
        · exact le_refl _
        · exact (tracks.past admission earlier).trans passes
      · exact (tracks.past admission admitted).trans passes
    refine ⟨recorded, ?_, ?_, past, ?_, ?_⟩
    · intro member score admitted inside
      show (state.outcome qps call).1.zscore member = some score
      rw [WindowState.zscore_outcome]
      have found (earlier : (member, score) ∈ state.admissions) :
          (if state.admits qps call = true ∧ member = call.member then some call.now
            else (pruneWindow qps.windowMilliseconds call.now
              (state.key.expire call.now)).zscore member) = some score := by
        rw [if_neg]
        · exact (tracks.zscore_found passes).mpr ⟨earlier, inside⟩
        · rintro ⟨_, same⟩
          exact unused (same ▸ tracks.fromUsed _ earlier)
      split at admitted
      · rename_i admits
        rcases List.mem_cons.mp admitted with same | earlier
        · obtain ⟨rfl, rfl⟩ := Prod.mk.inj same
          exact if_pos ⟨admits, rfl⟩
        · exact found earlier
      · exact found admitted
    · have small : ∀ member score, (state.outcome qps call).1.zscore member = some score →
          score ≤ call.now :=
        fun member score stored => past _ (recorded member score stored)
      exact covers_pexpire (fun member score stored => small member score
        (by unfold WindowState.outcome slidingWindowScript; rw [zscore_pexpire]; exact stored))
        (le_refl _)
    · intro admission admitted
      dsimp only at admitted
      split at admitted
      · rcases List.mem_cons.mp admitted with rfl | earlier
        · exact List.mem_cons_self
        · exact List.mem_cons_of_mem _ (tracks.fromUsed admission earlier)
      · exact List.mem_cons_of_mem _ (tracks.fromUsed admission admitted)
    · dsimp only
      split
      · rw [List.map_cons, List.nodup_cons]
        refine ⟨?_, tracks.distinct⟩
        intro repeated
        obtain ⟨admission, earlier, same⟩ := List.mem_map.mp repeated
        have inUse := tracks.fromUsed admission earlier
        rw [same] at inUse
        exact unused inUse
      · exact tracks.distinct
  · cases steps

/-! ## Windows -/

omit [LinearOrder Member] in
theorem admittedIn_le {low high wideLow wideHigh : Int} {admissions : List (Member × Nat)}
    (wider : ∀ admission ∈ admissions, low < admission.2 → (admission.2 : Int) ≤ high →
      wideLow < admission.2 ∧ (admission.2 : Int) ≤ wideHigh) :
    admittedIn low high admissions ≤ admittedIn wideLow wideHigh admissions := by
  unfold admittedIn
  apply List.countP_mono_left
  intro admission member inside
  rw [decide_eq_true_iff] at inside ⊢
  exact wider admission member inside.1 inside.2

variable (qps) in
/-- What a call of a run shows about the window that ends with it. -/
structure Exact (state : WindowState Member) (call : Call Member) (after : WindowState Member) :
    Prop where
  admitted : state.admits qps call = true →
    (call.member, call.now) ∈ after.admissions ∧
      admittedIn (call.now - qps.windowMilliseconds) call.now after.admissions ≤ call.limit
  rejected : state.admits qps call = false →
    after.admissions = state.admissions ∧
      call.limit ≤ admittedIn (call.now - qps.windowMilliseconds) call.now after.admissions

variable {after : WindowState Member}

theorem Tracks.exact (tracks : Tracks qps state) (steps : qps.step state call = some after) :
    Exact qps state call after := by
  unfold SlidingWindowQps.step at steps
  split at steps
  · rename_i allowed
    cases steps
    have decides : state.admits qps call = true ↔ _ := tracks.admits_iff allowed.1
    constructor
    · intro admits
      have room := decides.mp admits
      rw [if_pos admits]
      refine ⟨List.mem_cons_self, ?_⟩
      calc admittedIn (call.now - qps.windowMilliseconds) call.now
            ((call.member, call.now) :: state.admissions)
          ≤ admittedIn (call.now - qps.windowMilliseconds) call.now state.admissions + 1 := by
            unfold admittedIn
            rw [List.countP_cons]
            split <;> omega
        _ ≤ call.limit := room
    · intro rejects
      have noRoom : ¬admittedIn (call.now - qps.windowMilliseconds : Int) call.now
          state.admissions < call.limit := fun room => by
        rw [decides.mpr room] at rejects
        cases rejects
      rw [if_neg (by rw [rejects]; decide)]
      exact ⟨rfl, Nat.le_of_not_lt noRoom⟩
  · cases steps

/-- With one limit for all calls, no window of the length of the limiter holds more. -/
def Limited (qps : SlidingWindowQps) (limit : Nat) (state : WindowState Member) : Prop :=
  ∀ low : Int, admittedIn low (low + qps.windowMilliseconds) state.admissions ≤ limit

theorem Limited.step (tracks : Tracks qps state) (limited : Limited qps call.limit state)
    (steps : qps.step state call = some after) : Limited qps call.limit after := by
  intro low
  have exact := tracks.exact steps
  have later := tracks.step steps
  cases admits : state.admits qps call with
  | false =>
      rw [(exact.rejected admits).1]
      exact limited low
  | true =>
      have here : after.admissions = (call.member, call.now) :: state.admissions ∧
          after.now = call.now := by
        unfold SlidingWindowQps.step at steps
        split at steps
        · cases steps
          exact ⟨rfl, rfl⟩
        · cases steps
      by_cases inside : low < call.now ∧ (call.now : Int) ≤ low + qps.windowMilliseconds
      · refine le_trans (admittedIn_le ?_) (exact.admitted admits).2
        intro admission member above _
        have early := later.past admission member
        rw [here.2] at early
        omega
      · have outside : admittedIn low (low + qps.windowMilliseconds) after.admissions =
            admittedIn low (low + qps.windowMilliseconds) state.admissions := by
          rw [here.1]
          unfold admittedIn
          rw [List.countP_cons_of_neg]
          rw [decide_eq_true_iff]
          exact inside
        rw [outside]
        exact limited low

end Runs

/-- **The sliding window is exact**: in every run, with any limits, an admission
leaves at most its limit of admissions in the window that ends with it, and a
rejection finds at least its limit there; with one limit for all calls, no
half-open window of the length holds more. -/
theorem sliding_window_is_exact {Member : Type} [LinearOrder Member] (qps : SlidingWindowQps) :
    (∀ {state after : WindowState Member} {call : Call Member},
      Reached qps.step (fun _ _ => True) .start state → qps.step state call = some after →
        Exact qps state call after) ∧
    ∀ {limit : Nat} {state : WindowState Member},
      Reached qps.step (fun _ call => call.limit = limit) .start state →
        Limited qps limit state := by
  constructor
  · intro state after call run steps
    have tracks : Tracks qps state := Reached.invariant (Tracks.start qps)
      (fun _ _ _ tracks _ steps => tracks.step steps) run
    exact tracks.exact steps
  · intro limit state run
    have both : Tracks qps state ∧ Limited qps limit state := by
      refine @Reached.invariant _ _ _ _ _ _
        (fun state => Tracks qps state ∧ Limited qps limit state) ⟨Tracks.start qps, fun _ => Nat.zero_le limit⟩ ?_ run
      rintro before call next ⟨tracks, limited⟩ rfl steps
      exact ⟨tracks.step steps, limited.step tracks steps⟩
    exact both.2

/-- A limiter with the window of a second. -/
def perSecond : SlidingWindowQps := ⟨1000, by decide⟩

/-- Two calls with a limit of one: the second comes as the first leaves the window. -/
theorem sliding_window_is_exact_sample :
    ∃ state after : WindowState String,
      perSecond.step .start ⟨5000, "first", 1⟩ = some state ∧
        perSecond.step state ⟨6000, "second", 1⟩ = some after ∧
        Exact perSecond state ⟨6000, "second", 1⟩ after ∧ Limited perSecond 1 after := by
  have first : (perSecond.step .start ⟨5000, "first", 1⟩).isSome = true := by decide
  obtain ⟨state, reached⟩ := Option.isSome_iff_exists.mp first
  have second : ((perSecond.step .start ⟨5000, "first", 1⟩).bind
      (perSecond.step · ⟨6000, "second", 1⟩)).isSome = true := by decide
  rw [reached] at second
  obtain ⟨after, stepped⟩ := Option.isSome_iff_exists.mp second
  refine ⟨state, after, reached, stepped, ?_, ?_⟩
  · exact (sliding_window_is_exact perSecond).1 (.step .start trivial reached) stepped
  · exact (sliding_window_is_exact perSecond).2
      (.step (.step .start rfl reached) rfl stepped)

end Zangpu.Limits.Qps
