import Zangpu.Limits.Retries
import Zangpu.Services.Chat.Leases

/-!
The retry hints of the limiters.

Owns: the retries of a denied limiter call, alone on its key; that the time which
the denial reports is the first at which a retry is granted; and that the rounded
seconds in the response headers never come before it.

Does not own: the hints of the model pools, whose queue answers later polls.
-/

set_option autoImplicit false

namespace Zangpu.Services.Chat

open Zangpu.Foundation
open Zangpu.Limits
open Zangpu.Limits.Concurrency
open Zangpu.Limits.Retries
open Zangpu.Limits.Qps

/-! ## Retries -/

/-- A limiter call that is made again, as its answer at a time and the state it
leaves there. -/
structure Retry (Member Decision : Type) where
  ask : KeyState Member → Nat → Except ModelPool.ControlPlaneUnavailable Decision
  leave : KeyState Member → Nat → KeyState Member
  allowed : Decision → Bool
  reported : Decision → Int

namespace Retry

variable {Member Decision : Type} (retry : Retry Member Decision)

def step (state : KeyState Member) (now : Nat) : Option (KeyState Member) :=
  if state.now ≤ now then some (retry.leave state now) else none

/-- The states between a denial and the time it reports, with retries alone. -/
def Retrying (denial : Decision) (denied state : KeyState Member) : Prop :=
  Reached retry.step (fun _ now => (now : Int) < retry.reported denial) denied state

def Grants (state : KeyState Member) (now : Nat) : Prop :=
  ∃ decision, retry.ask state now = .ok decision ∧ retry.allowed decision = true

/-- Every retry from a time on is granted. -/
def GrantedFrom (denial : Decision) (denied : KeyState Member) (time : Int) : Prop :=
  ∀ state now, retry.Retrying denial denied state → state.now ≤ now → time ≤ now →
    retry.Grants state now

/-- Every retry before a time is denied again, with the same report. -/
def RefusedUntil (denial : Decision) (denied : KeyState Member) (time : Int) : Prop :=
  ∀ state now, retry.Retrying denial denied state → state.now ≤ now → (now : Int) < time →
    ∃ decision, retry.ask state now = .ok decision ∧ retry.allowed decision = false ∧
      retry.reported decision = retry.reported denial

variable {retry}

theorem GrantedFrom.later {denial : Decision} {denied : KeyState Member} {time later : Int}
    (granted : retry.GrantedFrom denial denied time) (passes : time ≤ later) :
    retry.GrantedFrom denial denied later :=
  fun state now retrying started due => granted state now retrying started (passes.trans due)

/-- What every early retry keeps holds of every retry. -/
theorem Retrying.invariant {denial : Decision} {denied state : KeyState Member}
    {holds : KeyState Member → Prop} (initial : holds denied)
    (kept : ∀ before now, holds before → before.now ≤ now → (now : Int) < retry.reported denial →
      holds (retry.leave before now))
    (retrying : retry.Retrying denial denied state) : holds state := by
  refine Reached.invariant initial ?_ retrying
  intro before now after held early stepped
  unfold step at stepped
  split at stepped
  · rename_i passes
    cases stepped
    exact kept before now held passes early
  · cases stepped

end Retry

/-- A checked reply of the window script, as `admit` returns it. -/
def QpsDecision.ofReply (limit : Int) (reply : WindowReply) : QpsDecision where
  allowed := reply.allowed
  count := reply.count
  limit := limit
  remaining := max (limit - reply.count) 0
  resetAtMs := reply.resetAtMs
  observedAtMs := reply.observedAtMs

section Limiters

variable {Member : Type} [LinearOrder Member]

/-- `acquire` of one operation, again and again. -/
def acquireRetry (limiter : ConcurrencyLimiter) (limit : Nat) (operation : Member) :
    Retry Member ConcurrencyDecision where
  ask state now :=
    (acquireAnswer limiter limit now operation state.key).map (ConcurrencyDecision.ofReply limit)
  leave state now :=
    ⟨now, ((ConcurrencyCommand.acquire operation limit).execute limiter now state.key).1⟩
  allowed := ConcurrencyDecision.allowed
  reported := ConcurrencyDecision.leaseExpiresAtMs

/-- `admit` of one request, again and again. -/
def admitRetry (qps : SlidingWindowQps) (limit : Nat) (request : Member) :
    Retry Member QpsDecision where
  ask state now :=
    (admitAnswer qps state.key ⟨now, request, limit⟩).map (QpsDecision.ofReply limit)
  leave state now := ⟨now, (executeCall qps state.key ⟨now, request, limit⟩).1⟩
  allowed := QpsDecision.allowed
  reported := QpsDecision.resetAtMs

end Limiters

/-! ## Exact reports -/

theorem map_ok {Failure Value Result : Type} {read : Value → Result}
    {outcome : Except Failure Value} {result : Result} (mapped : outcome.map read = .ok result) :
    ∃ value, outcome = .ok value ∧ read value = result := by
  cases outcome with
  | error failure => cases mapped
  | ok value => exact ⟨value, rfl, Except.ok.inj mapped⟩

section Exact

variable {Member : Type} [LinearOrder Member] {limit first : Nat} {member : Member}

theorem acquireRetry_exact {limiter : ConcurrencyLimiter} {denied : KeyState Member}
    {denial : ConcurrencyDecision} (refusing : Refusing limiter limit first member denied)
    (reported : denial.leaseExpiresAtMs = first) :
    (acquireRetry limiter limit member).RefusedUntil denial denied denial.leaseExpiresAtMs ∧
      (acquireRetry limiter limit member).GrantedFrom denial denied denial.leaseExpiresAtMs := by
  have kept : ∀ state, (acquireRetry limiter limit member).Retrying denial denied state →
      Refusing limiter limit first member state := by
    intro state retrying
    refine retrying.invariant refusing fun before now held passes early => ?_
    have beforeFirst : (now : Int) < denial.leaseExpiresAtMs := early
    exact (held.early passes (by omega)).2
  constructor
  · intro state now retrying passes early
    obtain ⟨answered, _⟩ := (kept state retrying).early passes (show now < first by omega)
    refine ⟨ConcurrencyDecision.ofReply limit ⟨false, limit, first, now⟩, ?_, rfl, reported.symm⟩
    show (acquireAnswer limiter limit now member state.key).map _ = _
    rw [answered]
    rfl
  · intro state now retrying _ late
    obtain ⟨reply, answered, allowed⟩ := (kept state retrying).late (show first ≤ now by omega)
    refine ⟨ConcurrencyDecision.ofReply limit reply, ?_, allowed⟩
    show (acquireAnswer limiter limit now member state.key).map _ = _
    rw [answered]
    rfl

theorem admitRetry_exact {qps : SlidingWindowQps} {denied : KeyState Member}
    {denial : QpsDecision} (closed : Closed qps limit first denied)
    (reported : denial.resetAtMs = (first : Int) + qps.windowMilliseconds) :
    (admitRetry qps limit member).RefusedUntil denial denied denial.resetAtMs ∧
      (admitRetry qps limit member).GrantedFrom denial denied denial.resetAtMs := by
  have kept : ∀ state, (admitRetry qps limit member).Retrying denial denied state →
      Closed qps limit first state := by
    intro state retrying
    refine retrying.invariant closed fun before now held passes early => ?_
    have beforeReset : (now : Int) < denial.resetAtMs := early
    exact (held.early passes (by omega)).2
  constructor
  · intro state now retrying passes early
    obtain ⟨answered, _⟩ := @Closed.early _ _ _ _ _ _ member _ (kept state retrying) passes
      (show now < first + qps.windowMilliseconds by omega)
    refine ⟨QpsDecision.ofReply limit
      ⟨false, limit, (first : Int) + qps.windowMilliseconds, now⟩, ?_, rfl, reported.symm⟩
    show (admitAnswer qps state.key ⟨now, member, limit⟩).map _ = _
    rw [answered]
    rfl
  · intro state now retrying _ late
    obtain ⟨reply, answered, allowed⟩ := @Closed.late _ _ _ _ _ _ member _ (kept state retrying)
      (show first + qps.windowMilliseconds ≤ now by omega)
    refine ⟨QpsDecision.ofReply limit reply, ?_, allowed⟩
    show (admitAnswer qps state.key ⟨now, member, limit⟩).map _ = _
    rw [answered]
    rfl

end Exact

/-! ## Rounded hints -/

theorem retryAfter_mem_headers {decision : ConcurrencyDecision}
    (denied : decision.allowed = false) :
    retryAfter decision.leaseExpiresAtMs decision.observedAtMs ∈
      concurrencyLimitHeaders decision := by
  simp [concurrencyLimitHeaders, denied]

theorem resetHeader_mem_headers (decision : QpsDecision) :
    ("X-RateLimit-Reset", ceilingSeconds decision.resetAtMs) ∈ rateLimitHeaders decision := by
  simp [rateLimitHeaders]

/-- Rounding up to seconds never comes before the time itself. -/
theorem le_ceiling (milliseconds : Int) :
    milliseconds ≤ 1000 * ((milliseconds + 999) / 1000) := by
  omega

/-- **Retry hints are exact.** Whenever a limiter, reached by any commands with one
limit, denies a call, every retry of it before the reported time, alone on the key,
is denied again and every retry from that time on is granted; and so is every retry
after the `Retry-After` seconds, or from the `X-RateLimit-Reset` second on. -/
theorem retry_hints_exact {Member : Type} [LinearOrder Member] (limit : Nat)
    (positive : 1 ≤ limit) (member : Member) :
    (∀ (limiter : ConcurrencyLimiter) {state : KeyState Member},
      Reached limiter.step (fun _ call => UsesLimit limit call.2) .start state →
      ∀ now denial, state.now ≤ now →
        (acquireRetry limiter limit member).ask state now = .ok denial →
        denial.allowed = false →
          (acquireRetry limiter limit member).RefusedUntil denial
              ((acquireRetry limiter limit member).leave state now) denial.leaseExpiresAtMs ∧
            (acquireRetry limiter limit member).GrantedFrom denial
              ((acquireRetry limiter limit member).leave state now) denial.leaseExpiresAtMs ∧
            ∃ seconds : Int, ("Retry-After", toString seconds) ∈ concurrencyLimitHeaders denial ∧
              (acquireRetry limiter limit member).GrantedFrom denial
                ((acquireRetry limiter limit member).leave state now)
                (denial.observedAtMs + 1000 * seconds)) ∧
    ∀ (qps : SlidingWindowQps) {state : KeyState Member},
      Reached (serve qps) (fun _ call => call.limit = limit) .start state →
      ∀ now denial, state.now ≤ now →
        (admitRetry qps limit member).ask state now = .ok denial →
        denial.allowed = false →
          (admitRetry qps limit member).RefusedUntil denial
              ((admitRetry qps limit member).leave state now) denial.resetAtMs ∧
            (admitRetry qps limit member).GrantedFrom denial
              ((admitRetry qps limit member).leave state now) denial.resetAtMs ∧
            ∃ seconds : Int, ("X-RateLimit-Reset", toString seconds) ∈ rateLimitHeaders denial ∧
              (admitRetry qps limit member).GrantedFrom denial
                ((admitRetry qps limit member).leave state now) (1000 * seconds) := by
  constructor
  · intro limiter state run now denial passes asked denied
    have occupied : Occupied limiter limit state := Reached.invariant Occupied.start
      (fun _ _ _ occupied limited steps => occupied.step limited steps) run
    obtain ⟨reply, answered, rfl⟩ := map_ok asked
    obtain ⟨first, rfl, live, refusing⟩ :=
      Refusing.of_denied occupied positive passes answered denied
    obtain ⟨refused, granted⟩ := @acquireRetry_exact _ _ _ _ _ _ _
      (ConcurrencyDecision.ofReply limit ⟨false, limit, first, now⟩) refusing rfl
    refine ⟨refused, granted, _, retryAfter_mem_headers rfl, granted.later ?_⟩
    have rounded := le_ceiling ((first : Int) - now)
    show (first : Int) ≤ now + 1000 * max (((first : Int) - now + 999) / 1000) 1
    omega
  · intro qps state run now denial passes asked denied
    have windowed : Windowed qps limit state := Reached.invariant Windowed.start
      (fun _ _ _ windowed limited steps => windowed.step limited steps) run
    obtain ⟨reply, answered, rfl⟩ := map_ok asked
    obtain ⟨first, rfl, closed⟩ := Closed.of_denied windowed positive passes answered denied
    obtain ⟨refused, granted⟩ := @admitRetry_exact _ _ _ _ member _ _
      (QpsDecision.ofReply limit
        ⟨false, limit, (first : Int) + qps.windowMilliseconds, now⟩) closed rfl
    exact ⟨refused, granted, _, resetHeader_mem_headers _, granted.later (le_ceiling _)⟩

def sampleLimiter : ConcurrencyLimiter := ⟨60, by decide⟩

/-- The first operation has a lease of a minute, from the first second on. -/
def sampleLeased : KeyState String :=
  ⟨1000, ((ConcurrencyCommand.acquire "first" 1).execute sampleLimiter 1000 .empty).1⟩

/-- The first request was admitted at the fifth second. -/
def sampleAdmitted : KeyState String :=
  ⟨5000, (executeCall perSecond .empty ⟨5000, "first", 1⟩).1⟩

theorem retry_hints_exact_sample :
    (acquireRetry sampleLimiter 1 "second").Grants
        ((acquireRetry sampleLimiter 1 "second").leave sampleLeased 31000) 61000 ∧
      (admitRetry perSecond 1 "second").Grants
        ((admitRetry perSecond 1 "second").leave sampleAdmitted 5500) 6000 := by
  have limited : UsesLimit 1 (ConcurrencyCommand.acquire "first" 1) := rfl
  have leased : sampleLimiter.step .start (1000, .acquire "first" 1) = some sampleLeased := rfl
  have admitted : serve perSecond .start ⟨5000, "first", 1⟩ = some sampleAdmitted := rfl
  obtain ⟨leases, window⟩ := retry_hints_exact 1 (le_refl 1) "second"
  constructor
  · obtain ⟨_, granted, _⟩ := leases sampleLimiter (.step .start limited leased) 31000
      ⟨false, 1, 1, 0, 61000, 31000⟩ (by decide) (by decide) rfl
    exact granted _ 61000 .start (by decide) (by decide)
  · obtain ⟨_, granted, _⟩ := window perSecond (.step .start rfl admitted) 5500
      ⟨false, 1, 1, 0, 6000, 5500⟩ (by decide) (by decide) rfl
    exact granted _ 6000 .start (by decide) (by decide)

end Zangpu.Services.Chat
