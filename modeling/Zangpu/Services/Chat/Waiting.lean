import Mathlib.Data.NNRat.Defs
import Mathlib.Data.Rat.Floor
import Mathlib.Tactic.Linarith
import Zangpu.Services.Chat

/-!
Waiting for a model pool in rational time.

Owns: `_acquire_model_pool` on a clock of rational seconds, with the outcome of every
request, sleep and clock reading given beforehand; and that it always ends, after a
number of requests that the first reply fixes, having left the queue where it last saw
itself queued.

Does not own: the pool, whose replies are arbitrary. Time passes only before a clock
reading and in a sleep, and a sleep takes at least as long as asked.
-/

set_option autoImplicit false

namespace Zangpu.Services.Chat.Waiting

open Zangpu.Foundation
open Zangpu.Services.Chat

/-! ## The wait -/

/-- What a wait meets: the reply to each request, how much longer than asked each sleep
takes or what ends it, the time that passes before each clock reading, and the outcome
of leaving the queue. -/
structure Surroundings where
  replies : Nat → Except Failure ModelPoolDecision
  sleeps : Nat → Except Failure ℚ≥0
  lapses : Nat → ℚ≥0
  departure : Except Failure Bool

/-- A wait under way. `asked` holds the requests to the pool with the clock at each. -/
structure Progress where
  now : ℚ
  readings : Nat
  naps : Nat
  asked : List (PoolRequest × ℚ)
  cancels : List Call
  headers : Headers
  decision : Option ModelPoolDecision

namespace Progress

def start (now : ℚ) (headers : Headers) : Progress where
  now := now
  readings := 0
  naps := 0
  asked := []
  cancels := []
  headers := headers
  decision := none

def setHeaders (progress : Progress) (entries : Headers) : Progress :=
  { progress with headers := entries.foldl setHeader progress.headers }

def sawQueued (progress : Progress) : Bool :=
  progress.decision.map ModelPoolDecision.status = some .queued

end Progress

variable (service : ExternalChatService) (surroundings : Surroundings)

/-- `_queue_poll_seconds`. -/
def pollSeconds : ℚ := service.queuePollMilliseconds / 1000

/-- The wait that a reply leaves, in seconds. -/
def remainingWait (decision : ModelPoolDecision) : ℚ :=
  max ((decision.expiresAtMs - decision.observedAtMs : ℚ) / 1000) 0

def monotonicSeconds (progress : Progress) : Progress :=
  { progress with
    now := progress.now + surroundings.lapses progress.readings
    readings := progress.readings + 1 }

def queueSleep (seconds : ℚ) (progress : Progress) : Except Failure Unit × Progress :=
  match surroundings.sleeps progress.naps with
  | .ok late =>
      (.ok (), { progress with now := progress.now + seconds + late, naps := progress.naps + 1 })
  | .error failure => (.error failure, { progress with naps := progress.naps + 1 })

def admitOrEnqueue (request : PoolRequest) (progress : Progress) :
    Except Failure ModelPoolDecision × Progress :=
  let sent := { progress with asked := progress.asked ++ [(request, progress.now)] }
  match surroundings.replies progress.asked.length with
  | .ok decision =>
      (.ok decision,
        { sent.setHeaders (modelPoolLimitHeaders decision) with decision := some decision })
  | .error failure => (.error failure, sent)

def capacityLimited (progress : Progress) : Except Failure ModelPoolDecision × Progress :=
  (.error (.externalApi .modelCapacityLimited none progress.headers), progress)

/-- The deadline has passed. -/
def timedOut (progress : Progress) : Except Failure ModelPoolDecision × Progress :=
  capacityLimited (progress.setHeaders [("Retry-After", "1")])

/-- The rest of a round after the reply of the pool. -/
def afterReply : Except Failure ModelPoolDecision × Progress →
    (Except Failure ModelPoolDecision × Progress) ⊕ Progress
  | (.error failure, failed) => .inl (.error failure, failed)
  | (.ok decision, answered) =>
      if decision.status = .admitted then .inl (.ok decision, answered)
      else if decision.status ≠ .queued then .inl (capacityLimited answered)
      else .inr answered

/-- One round of the queue loop: how the wait ends, or its progress at the next round. -/
def pollOnce (request : PoolRequest) (queueDeadline : ℚ) (progress : Progress) :
    (Except Failure ModelPoolDecision × Progress) ⊕ Progress :=
  let observed := monotonicSeconds surroundings progress
  let remaining := queueDeadline - observed.now
  if remaining ≤ 0 then .inl (timedOut observed)
  else
    match queueSleep surroundings (min (pollSeconds service) remaining) observed with
    | (.error failure, interrupted) => .inl (.error failure, interrupted)
    | (.ok (), slept) =>
        let woken := monotonicSeconds surroundings slept
        if queueDeadline ≤ woken.now then .inl (timedOut woken)
        else afterReply (admitOrEnqueue surroundings request woken)

/-- The queue loop; `none` if it takes more rounds than the fuel. -/
def waitInQueue (request : PoolRequest) (queueDeadline : ℚ) :
    Nat → Progress → Option (Except Failure ModelPoolDecision × Progress)
  | 0, _ => none
  | fuel + 1, progress =>
      match pollOnce service surroundings request queueDeadline progress with
      | .inl ended => some ended
      | .inr answered => waitInQueue request queueDeadline fuel answered

/-- The handlers around the queue loop: the failure raised in the end. -/
def leaveQueue (poolId apiClientId operationId : String) (failure : Failure)
    (progress : Progress) : Failure × Progress :=
  let cancelled :=
    { progress with cancels := progress.cancels ++ [.cancelQueued poolId apiClientId operationId] }
  if failure.isInterrupt then
    match surroundings.departure with
    | .ok _ => (failure, cancelled)
    | .error other =>
        (if other = .controlPlaneUnavailable then failure else other, cancelled)
  else if progress.sawQueued then
    match surroundings.departure with
    | .ok _ => (failure, cancelled)
    | .error other => (other, cancelled)
  else (failure, progress)

/-- How the acquisition ends with a wait. -/
def concludeWait (policy : ModelPoolPolicy) (apiClientId operationId : String) :
    Except Failure ModelPoolDecision × Progress →
      Except Failure (ModelPoolPolicy × ModelPoolDecision) × Progress
  | (.ok granted, ended) => (.ok (policy, granted), ended)
  | (.error failure, ended) =>
      let (raised, left) :=
        leaveQueue surroundings policy.poolId apiClientId operationId failure ended
      (.error raised, left)

def acquireModelPool (modelId apiClientId operationId : String) (fuel : Nat)
    (progress : Progress) :
    Option (Except Failure (ModelPoolPolicy × ModelPoolDecision) × Progress) :=
  match service.modelPoolPolicies.lookup modelId with
  | none => some (.error (.externalApi .modelUnavailable none progress.headers), progress)
  | some policy =>
      let request := poolRequest service policy apiClientId operationId
      match admitOrEnqueue surroundings request progress with
      | (.error failure, failed) => some (.error failure, failed)
      | (.ok decision, answered) =>
          if decision.status = .admitted then some (.ok (policy, decision), answered)
          else if decision.status ≠ .queued then
            some (.error (.externalApi .modelCapacityLimited none answered.headers), answered)
          else
            let started := monotonicSeconds surroundings answered
            (waitInQueue service surroundings request (started.now + remainingWait decision) fuel
              started).map (concludeWait surroundings policy apiClientId operationId)

/-! ## Rounds -/

section Rounds

variable {service} {surroundings} {request : PoolRequest} {queueDeadline : ℚ}

theorem pollSeconds_pos (service : ExternalChatService) : 0 < pollSeconds service := by
  have positive : (0 : ℚ) < service.queuePollMilliseconds := by
    exact_mod_cast show 0 < service.queuePollMilliseconds by
      have := service.queuePollValid
      omega
  exact div_pos positive (by norm_num)

/-- The rounds that fit in the time before a deadline, at least one. -/
def roundsLeft (service : ExternalChatService) (remaining : ℚ) : Nat :=
  max 1 ⌈remaining / pollSeconds service⌉₊

theorem one_le_roundsLeft (service : ExternalChatService) (remaining : ℚ) :
    1 ≤ roundsLeft service remaining := le_max_left _ _

/-- A round that sleeps the whole poll interval leaves fewer rounds. -/
theorem roundsLeft_lt {before after : ℚ} (later : after ≤ before - pollSeconds service)
    (early : 0 < after) : roundsLeft service after + 1 ≤ roundsLeft service before := by
  have positive := pollSeconds_pos service
  have some_ : 1 ≤ ⌈after / pollSeconds service⌉₊ :=
    Nat.one_le_ceil_iff.mpr (div_pos early positive)
  have shrinks : after / pollSeconds service + 1 ≤ before / pollSeconds service := by
    rw [← div_self (ne_of_gt positive), ← add_div]
    exact div_le_div_of_nonneg_right (by linarith) positive.le
  have counted : ⌈after / pollSeconds service⌉₊ + 1 ≤ ⌈before / pollSeconds service⌉₊ := by
    rw [← Nat.ceil_add_one (div_pos early positive).le]
    exact Nat.ceil_mono shrinks
  unfold roundsLeft
  omega

theorem asked_admitOrEnqueue (progress : Progress) :
    (admitOrEnqueue surroundings request progress).2.asked =
        progress.asked ++ [(request, progress.now)] ∧
      (admitOrEnqueue surroundings request progress).2.cancels = progress.cancels ∧
      (admitOrEnqueue surroundings request progress).2.now = progress.now := by
  unfold admitOrEnqueue
  cases surroundings.replies progress.asked.length with
  | ok decision => exact ⟨rfl, rfl, rfl⟩
  | error failure => exact ⟨rfl, rfl, rfl⟩

theorem decision_admitOrEnqueue {progress : Progress} {decision : ModelPoolDecision}
    (replied : (admitOrEnqueue surroundings request progress).1 = .ok decision) :
    surroundings.replies progress.asked.length = .ok decision ∧
      (admitOrEnqueue surroundings request progress).2.decision = some decision := by
  unfold admitOrEnqueue at replied ⊢
  cases reply : surroundings.replies progress.asked.length with
  | ok other =>
      rw [reply] at replied
      cases replied
      exact ⟨rfl, rfl⟩
  | error failure =>
      rw [reply] at replied
      cases replied

/-- What a wait in the queue has done when it ends. -/
structure Waited (service : ExternalChatService) (request : PoolRequest) (queueDeadline : ℚ)
    (before : Progress) (outcome : Except Failure ModelPoolDecision) (after : Progress) :
    Prop where
  rounds : ∃ times : List ℚ, after.asked = before.asked ++ times.map (request, ·) ∧
    times.length + 1 ≤ roundsLeft service (queueDeadline - before.now) ∧
    ∀ time ∈ times, time < queueDeadline
  admitted : ∀ decision, outcome = .ok decision →
    decision.status = .admitted ∧ after.decision = some decision
  cancels : after.cancels = before.cancels

/-- A wait that ends before another request. -/
theorem Waited.ended {before after : Progress} {failure : Failure}
    (asked : after.asked = before.asked) (cancels : after.cancels = before.cancels) :
    Waited service request queueDeadline before (.error failure) after where
  rounds := ⟨[], by simpa using asked, one_le_roundsLeft _ _, List.forall_mem_nil _⟩
  admitted := fun _ impossible => nomatch impossible
  cancels := cancels

/-- What a round has done. -/
inductive Round (service : ExternalChatService) (surroundings : Surroundings)
    (request : PoolRequest) (queueDeadline : ℚ) (before : Progress) :
    (Except Failure ModelPoolDecision × Progress) ⊕ Progress → Prop
  | quiet {failure : Failure} {after : Progress} (asked : after.asked = before.asked)
      (cancels : after.cancels = before.cancels) :
      Round service surroundings request queueDeadline before (.inl (.error failure, after))
  | asked {woken : Progress} (late : before.now + pollSeconds service ≤ woken.now)
      (early : woken.now < queueDeadline) (asked : woken.asked = before.asked)
      (cancels : woken.cancels = before.cancels) :
      Round service surroundings request queueDeadline before
        (afterReply (admitOrEnqueue surroundings request woken))

/-- A round that asks has slept a whole poll interval, and asks before the deadline. -/
theorem pollOnce_round (before : Progress) : Round service surroundings request queueDeadline
    before (pollOnce service surroundings request queueDeadline before) := by
  unfold pollOnce
  simp only
  split
  · exact .quiet rfl rfl
  · rename_i remaining
    unfold queueSleep
    cases surroundings.sleeps (monotonicSeconds surroundings before).naps with
    | error failure => exact .quiet rfl rfl
    | ok late =>
        simp only
        split
        · exact .quiet rfl rfl
        · rename_i early
          refine .asked ?_ (not_le.mp early) rfl rfl
          have lapse : (0 : ℚ) ≤ surroundings.lapses before.readings := NNRat.coe_nonneg _
          have wakening : (0 : ℚ) ≤ surroundings.lapses (before.readings + 1) :=
            NNRat.coe_nonneg _
          have oversleep : (0 : ℚ) ≤ late := NNRat.coe_nonneg late
          simp only [monotonicSeconds, not_le] at early ⊢
          -- A sleep clamped to the remaining time would end at the deadline.
          rcases le_total (pollSeconds service)
            (queueDeadline - (before.now + surroundings.lapses before.readings)) with whole | short
          · rw [min_eq_left whole]
            linarith
          · rw [min_eq_right short] at early
            linarith

/-- What a round that asked comes to. -/
theorem afterReply_asked {before woken : Progress}
    (late : before.now + pollSeconds service ≤ woken.now) (early : woken.now < queueDeadline)
    (asked : woken.asked = before.asked) (cancels : woken.cancels = before.cancels) :
    (∃ outcome after, afterReply (admitOrEnqueue surroundings request woken) =
        .inl (outcome, after) ∧ Waited service request queueDeadline before outcome after) ∨
      ∃ answered, afterReply (admitOrEnqueue surroundings request woken) = .inr answered ∧
        answered.asked = before.asked ++ [(request, woken.now)] ∧
        answered.cancels = before.cancels ∧ answered.now = woken.now := by
  obtain ⟨sent, kept, clock⟩ := @asked_admitOrEnqueue surroundings request woken
  rw [asked] at sent
  rw [cancels] at kept
  have counted : 1 + 1 ≤ roundsLeft service (queueDeadline - before.now) :=
    Nat.le_trans (Nat.add_le_add_right (one_le_roundsLeft service (queueDeadline - woken.now)) 1)
      (roundsLeft_lt (by linarith) (by linarith))
  cases replied : admitOrEnqueue surroundings request woken with
  | mk outcome answered =>
      rw [replied] at sent kept clock
      have once {ended : Progress} (same : ended.asked = answered.asked) :
          ∃ times : List ℚ, ended.asked = before.asked ++ times.map (request, ·) ∧
            times.length + 1 ≤ roundsLeft service (queueDeadline - before.now) ∧
            ∀ time ∈ times, time < queueDeadline :=
        ⟨[woken.now], same.trans sent, counted, List.forall_mem_singleton.mpr early⟩
      cases outcome with
      | error failure =>
          exact .inl ⟨_, _, rfl, once rfl, fun _ impossible => (nomatch impossible), kept⟩
      | ok decision =>
          have known := @decision_admitOrEnqueue surroundings request woken decision
            (by rw [replied])
          rw [replied] at known
          simp only [afterReply]
          split
          · rename_i admitted
            refine .inl ⟨_, _, rfl, once rfl, ?_, kept⟩
            intro granted same
            cases same
            exact ⟨admitted, known.2⟩
          · split
            · exact .inl ⟨_, _, rfl, once rfl, fun _ impossible => (nomatch impossible), kept⟩
            · exact .inr ⟨answered, rfl, sent, kept, clock⟩

/-- **A wait ends within the rounds that fit before its deadline.** -/
theorem waitInQueue_ends (rounds : Nat) (before : Progress)
    (fits : roundsLeft service (queueDeadline - before.now) ≤ rounds) :
    ∃ outcome after, (∀ fuel, roundsLeft service (queueDeadline - before.now) ≤ fuel →
        waitInQueue service surroundings request queueDeadline fuel before =
          some (outcome, after)) ∧
      Waited service request queueDeadline before outcome after := by
  induction rounds generalizing before with
  | zero =>
      have := one_le_roundsLeft service (queueDeadline - before.now)
      omega
  | succ rounds inductionHypothesis =>
      have first := one_le_roundsLeft service (queueDeadline - before.now)
      have unfolded (fuel : Nat) (enough : roundsLeft service (queueDeadline - before.now) ≤ fuel) :
          waitInQueue service surroundings request queueDeadline fuel before =
            match pollOnce service surroundings request queueDeadline before with
            | .inl ended => some ended
            | .inr answered =>
                waitInQueue service surroundings request queueDeadline (fuel - 1) answered := by
        obtain ⟨fuel, rfl⟩ : ∃ less, fuel = less + 1 := ⟨fuel - 1, by omega⟩
        rfl
      have round := @pollOnce_round service surroundings request queueDeadline before
      generalize pollOnce service surroundings request queueDeadline before = next at round unfolded
      cases round with
      | quiet asked cancels => exact ⟨_, _, unfolded, .ended asked cancels⟩
      | asked late early asked cancels =>
          rcases @afterReply_asked service surroundings request queueDeadline before _ late early
            asked cancels with ⟨outcome, after, ended, waited⟩ | ⟨answered, again, sent, kept, clock⟩
          · rw [ended] at unfolded
            exact ⟨outcome, after, unfolded, waited⟩
          · rw [again] at unfolded
            have fewer : roundsLeft service (queueDeadline - answered.now) + 1 ≤
                roundsLeft service (queueDeadline - before.now) :=
              roundsLeft_lt (by linarith) (by linarith)
            obtain ⟨outcome, after, ends, waited⟩ := inductionHypothesis answered (by omega)
            refine ⟨outcome, after, fun fuel enough => ?_, ?_, waited.admitted,
              waited.cancels.trans kept⟩
            · rw [unfolded fuel enough]
              exact ends (fuel - 1) (by omega)
            · obtain ⟨times, more, counted, inTime⟩ := waited.rounds
              refine ⟨answered.now :: times, ?_, ?_, ?_⟩
              · rw [more, sent, clock, List.append_assoc]
                rfl
              · rw [List.length_cons]
                omega
              · exact List.forall_mem_cons.mpr ⟨by linarith, inTime⟩

end Rounds

/-! ## The whole acquisition -/

/-- The requests that the first reply allows in all. -/
def admitBound (service : ExternalChatService) : Except Failure ModelPoolDecision → Nat
  | .ok decision =>
      if decision.status = .queued then roundsLeft service (remainingWait decision) else 1
  | .error _ => 1

theorem one_le_admitBound (service : ExternalChatService)
    (reply : Except Failure ModelPoolDecision) : 1 ≤ admitBound service reply := by
  cases reply with
  | ok decision =>
      rw [admitBound]
      split
      · exact one_le_roundsLeft _ _
      · exact Nat.le_refl 1
  | error failure => exact Nat.le_refl 1

section Acquisition

variable {service : ExternalChatService} {surroundings : Surroundings}

/-- The handlers leave the queue wherever the last reply was queued. -/
theorem leaveQueue_spec (poolId apiClientId operationId : String) (failure : Failure)
    (progress : Progress) :
    (leaveQueue surroundings poolId apiClientId operationId failure progress).2.asked =
        progress.asked ∧
      (leaveQueue surroundings poolId apiClientId operationId failure progress).2.decision =
        progress.decision ∧
      (progress.sawQueued = true → Call.cancelQueued poolId apiClientId operationId ∈
        (leaveQueue surroundings poolId apiClientId operationId failure progress).2.cancels) := by
  have left : Call.cancelQueued poolId apiClientId operationId ∈
      progress.cancels ++ [Call.cancelQueued poolId apiClientId operationId] :=
    List.mem_append_right _ (List.mem_singleton_self _)
  unfold leaveQueue
  simp only
  split
  · cases surroundings.departure <;> exact ⟨rfl, rfl, fun _ => left⟩
  · split
    · cases surroundings.departure <;> exact ⟨rfl, rfl, fun _ => left⟩
    · rename_i unqueued
      exact ⟨rfl, rfl, fun queued => absurd queued unqueued⟩

/-- How an acquisition has ended. -/
structure Acquired (service : ExternalChatService) (surroundings : Surroundings)
    (modelId apiClientId operationId : String) (now : ℚ)
    (outcome : Except Failure (ModelPoolPolicy × ModelPoolDecision)) (after : Progress) :
    Prop where
  bounded : after.asked.length ≤ admitBound service (surroundings.replies 0)
  inTime : ∀ first, surroundings.replies 0 = .ok first → ∀ request ∈ after.asked.tail,
    request.2 < now + surroundings.lapses 0 + remainingWait first
  admitted : ∀ policy decision, outcome = .ok (policy, decision) →
    decision.status = .admitted ∧ after.decision = some decision
  left : after.sawQueued = true → ∀ policy, service.modelPoolPolicies.lookup modelId = some policy →
    Call.cancelQueued policy.poolId apiClientId operationId ∈ after.cancels

/-- An acquisition that ends with the first reply. -/
theorem Acquired.first {modelId apiClientId operationId : String} {now : ℚ}
    {outcome : Except Failure (ModelPoolPolicy × ModelPoolDecision)} {after : Progress}
    (short : after.asked.length ≤ 1) (unqueued : after.sawQueued = false)
    (admitted : ∀ policy decision, outcome = .ok (policy, decision) →
      decision.status = .admitted ∧ after.decision = some decision) :
    Acquired service surroundings modelId apiClientId operationId now outcome after where
  bounded := Nat.le_trans short (one_le_admitBound _ _)
  inTime := by
    intro first _ request later
    have none : after.asked.tail = [] := by
      rw [← List.length_eq_zero_iff, List.length_tail]
      omega
    rw [none] at later
    cases later
  admitted := admitted
  left := fun queued => by simp [unqueued] at queued

/-- The acquisition after a first reply that queues the request. -/
theorem Acquired.queued {modelId apiClientId operationId : String} {now : ℚ}
    {policy : ModelPoolPolicy} {first : ModelPoolDecision} {request : PoolRequest}
    {answered : Progress} (found : service.modelPoolPolicies.lookup modelId = some policy)
    (replied : surroundings.replies 0 = .ok first) (queued : first.status = .queued)
    (sent : answered.asked = [(request, now)]) (clock : answered.now = now)
    (fresh : answered.readings = 0) {outcome : Except Failure ModelPoolDecision}
    {ended : Progress}
    (waited : Waited service request
      ((monotonicSeconds surroundings answered).now + remainingWait first)
      (monotonicSeconds surroundings answered) outcome ended) :
    Acquired service surroundings modelId apiClientId operationId now
      (concludeWait surroundings policy apiClientId operationId (outcome, ended)).1
      (concludeWait surroundings policy apiClientId operationId (outcome, ended)).2 := by
  obtain ⟨times, asked, counted, early⟩ := waited.rounds
  have started : (monotonicSeconds surroundings answered).now = now + surroundings.lapses 0 := by
    rw [monotonicSeconds, clock, fresh]
  have allAsked : ended.asked = (request, now) :: times.map (request, ·) := by
    rw [asked, show (monotonicSeconds surroundings answered).asked = answered.asked from rfl, sent]
    rfl
  have bounded : ended.asked.length ≤ admitBound service (surroundings.replies 0) := by
    rw [allAsked, List.length_cons, List.length_map, replied, admitBound, if_pos queued]
    rwa [add_sub_cancel_left] at counted
  have inTime : ∀ other, surroundings.replies 0 = .ok other → ∀ asking ∈ ended.asked.tail,
      asking.2 < now + surroundings.lapses 0 + remainingWait other := by
    intro other same asking later
    rw [replied] at same
    cases same
    rw [allAsked, List.tail_cons] at later
    obtain ⟨time, member, rfl⟩ := List.mem_map.mp later
    rw [← started]
    exact early time member
  cases outcome with
  | ok granted =>
      obtain ⟨admitted, decided⟩ := waited.admitted granted rfl
      refine ⟨bounded, inTime, ?_, ?_⟩
      · intro _ decision same
        cases same
        exact ⟨admitted, decided⟩
      · intro sawQueued
        rw [concludeWait, Progress.sawQueued, decided, Option.map_some, admitted] at sawQueued
        exact absurd sawQueued (by decide)
  | error failure =>
      obtain ⟨sameAsked, sameDecision, left⟩ :=
        @leaveQueue_spec surroundings policy.poolId apiClientId operationId failure ended
      refine ⟨?_, ?_, fun _ _ impossible => (nomatch impossible), ?_⟩
      · rwa [concludeWait, sameAsked]
      · rwa [concludeWait, sameAsked]
      · intro sawQueued other known
        rw [found] at known
        cases known
        rw [concludeWait, Progress.sawQueued, sameDecision] at sawQueued
        exact left sawQueued

/-- The first request, and its reply. -/
theorem admitOrEnqueue_start (request : PoolRequest) (now : ℚ) (headers : Headers) :
    ∃ answered : Progress, admitOrEnqueue surroundings request (.start now headers) =
        (surroundings.replies 0, answered) ∧
      answered.asked = [(request, now)] ∧ answered.now = now ∧ answered.readings = 0 ∧
      answered.decision = (surroundings.replies 0).toOption := by
  unfold admitOrEnqueue
  rw [show (Progress.start now headers).asked.length = 0 from rfl]
  cases surroundings.replies 0 with
  | ok decision => exact ⟨_, rfl, rfl, rfl, rfl, rfl⟩
  | error failure => exact ⟨_, rfl, rfl, rfl, rfl, rfl⟩

end Acquisition

/-- **Queue waiting is bounded.** -/
theorem queue_waiting_is_bounded (service : ExternalChatService) (surroundings : Surroundings)
    (modelId apiClientId operationId : String) (now : ℚ) (headers : Headers) :
    ∃ outcome after, (∀ fuel, admitBound service (surroundings.replies 0) ≤ fuel →
        acquireModelPool service surroundings modelId apiClientId operationId fuel
          (.start now headers) = some (outcome, after)) ∧
      Acquired service surroundings modelId apiClientId operationId now outcome after := by
  cases found : service.modelPoolPolicies.lookup modelId with
  | none =>
      simp only [acquireModelPool, found]
      exact ⟨_, _, fun _ _ => rfl, .first (Nat.zero_le _) rfl fun _ _ impossible =>
        (nomatch impossible)⟩
  | some policy =>
      obtain ⟨answered, replied, sent, clock, fresh, decided⟩ := @admitOrEnqueue_start surroundings
        (poolRequest service policy apiClientId operationId) now headers
      have once : answered.asked.length ≤ 1 := by rw [sent, List.length_singleton]
      simp only [acquireModelPool, found, replied]
      cases first : surroundings.replies 0 with
      | error failure =>
          rw [first] at decided
          refine ⟨_, _, fun _ _ => rfl, .first once ?_ fun _ _ impossible => (nomatch impossible)⟩
          rw [Progress.sawQueued, decided]
          rfl
      | ok decision =>
          rw [first] at decided
          have saw : answered.sawQueued = decide (decision.status = .queued) := by
            rw [Progress.sawQueued, decided, Except.toOption, Option.map_some]
            simp
          by_cases admitted : decision.status = .admitted
          · simp only [admitted, if_true]
            refine ⟨_, _, fun _ _ => rfl, .first once ?_ ?_⟩
            · rw [saw, admitted]
              rfl
            · intro _ granted same
              cases same
              exact ⟨admitted, decided⟩
          · by_cases queued : decision.status = .queued
            · obtain ⟨outcome, ended, ends, waited⟩ := @waitInQueue_ends service surroundings
                (poolRequest service policy apiClientId operationId)
                ((monotonicSeconds surroundings answered).now + remainingWait decision) _
                (monotonicSeconds surroundings answered) (Nat.le_refl _)
              refine ⟨_, _, fun fuel enough => ?_, .queued found first queued sent clock fresh waited⟩
              rw [admitBound, if_pos queued] at enough
              rw [add_sub_cancel_left] at ends
              simp only [queued, reduceCtorEq, if_false, ne_eq, not_true_eq_false,
                ends fuel enough, Option.map_some]
            · simp only [admitted, queued, if_false, ne_eq, not_false_eq_true, if_true]
              refine ⟨_, _, fun _ _ => rfl, .first once ?_ fun _ _ impossible =>
                (nomatch impossible)⟩
              rw [saw, decide_eq_false queued]

/-- A service that polls four times a second. -/
def pollingService : ExternalChatService :=
  { sampleService with
    queueWaitSeconds := 1
    queuePollMilliseconds := 250
    loopBound := 0
    queueWaitValid := by decide
    queuePollValid := by decide }

/-- A pool without a free place, and sleeps that end on time. -/
def busySurroundings : Surroundings where
  replies _ := .ok ⟨.queued, 1, 0, 4, 3, 2000, 1000⟩
  sleeps _ := .ok 0
  lapses _ := 0
  departure := .ok true

/-- A wait of one second, polled every 250 milliseconds, asks four times in all. -/
example : ((acquireModelPool pollingService busySurroundings "model" "client" "operation" 4
    (.start 0 [])).map fun ended => (ended.2.asked.length, ended.2.cancels)) =
      some (4, [.cancelQueued "pool" "client" "operation"]) := by decide +kernel

end Zangpu.Services.Chat.Waiting
