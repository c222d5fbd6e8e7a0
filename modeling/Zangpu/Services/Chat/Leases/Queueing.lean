import Zangpu.Services.Chat.Leases

/-!
What a failed `_acquire_model_pool` leaves behind.

Owns: what the admit and the cancel script leave of the lease and of the tickets
of one operation, as the service sees it; the condition on admit scripts whose
decision does not reach the service; and the proof that, under this condition, an
acquisition that raises leaves neither ticket nor lease once every script in
flight has run.

Does not own: the concurrency lease, which is taken afterwards.
-/

set_option autoImplicit false

namespace Zangpu.Services.Chat

open Zangpu.Foundation
open Zangpu.Limits
open Zangpu.Limits.Concurrency

/-! ## Scripts on the keys of one pool -/

section OnPool

variable {now : Nat} {stores : Stores} {pool other client : String}
  {script : ModelPool.PoolKeys String → ModelPool.PoolKeys String × List Int}

/-- The keys a script of the pool finds. -/
def Stores.found (stores : Stores) (now : Nat) (pool client : String) :
    ModelPool.PoolKeys String :=
  (stores.pools.expire now).keys pool client

theorem onPool_active_other (different : other ≠ pool) :
    (stores.onPool now pool client script).1.pools.active other =
      (stores.pools.active other).expire now := by
  show Function.update _ pool _ other = _
  rw [Function.update_of_ne different]
  rfl

theorem onPool_queueExpiry_other (different : other ≠ pool) :
    (stores.onPool now pool client script).1.pools.queueExpiry other =
      (stores.pools.queueExpiry other).expire now := by
  show Function.update _ pool _ other = _
  rw [Function.update_of_ne different]
  rfl

theorem onPool_queue_other (different : other ≠ pool) :
    (stores.onPool now pool client script).1.pools.queue other =
      (stores.pools.queue other).expire now := by
  show Function.update _ pool _ other = _
  rw [Function.update_of_ne different]
  rfl

theorem onPool_active_own :
    (stores.onPool now pool client script).1.pools.active pool =
      (script (stores.found now pool client)).1.active :=
  Function.update_self ..

theorem onPool_queueExpiry_own :
    (stores.onPool now pool client script).1.pools.queueExpiry pool =
      (script (stores.found now pool client)).1.queueExpiry :=
  Function.update_self ..

theorem onPool_queue_own :
    (stores.onPool now pool client script).1.pools.queue pool =
      (script (stores.found now pool client)).1.queue :=
  Function.update_self ..

end OnPool

/-! ## Holdings of one operation -/

/-- The operation has a lease of the pool it asked. -/
def Leased (arguments : PoolRequest) (now : Nat) (stores : Stores) : Prop :=
  Held now (stores.pools.active arguments.poolId) arguments.operationId

instance (arguments : PoolRequest) (now : Nat) (stores : Stores) :
    Decidable (Leased arguments now stores) :=
  inferInstanceAs (Decidable (Held _ _ _))

/-- The operation has a ticket of the pool it asked. -/
def Ticketed (arguments : PoolRequest) (now : Nat) (stores : Stores) : Prop :=
  Held now (stores.pools.queueExpiry arguments.poolId) arguments.operationId

instance (arguments : PoolRequest) (now : Nat) (stores : Stores) :
    Decidable (Ticketed arguments now stores) :=
  inferInstanceAs (Decidable (Held _ _ _))

/-- The other pools hold nothing of the operation, and the ticket keys of every
pool are paired. -/
structure Elsewhere (arguments : PoolRequest) (now : Nat) (stores : Stores) : Prop where
  paired : ∀ pool, ModelPool.Paired (stores.pools.queue pool) (stores.pools.queueExpiry pool)
  leases : ∀ pool, pool ≠ arguments.poolId →
    ¬Held now (stores.pools.active pool) arguments.operationId
  tickets : ∀ pool, pool ≠ arguments.poolId →
    ¬Held now (stores.pools.queueExpiry pool) arguments.operationId

section Holdings

variable {arguments : PoolRequest} {leaseMs now : Nat} {stores after : Stores}

theorem Elsewhere.later {later : Nat} (elsewhere : Elsewhere arguments now stores) (passes : now ≤ later) :
    Elsewhere arguments later stores where
  paired := elsewhere.paired
  leases pool other held := elsewhere.leases pool other (held.earlier passes)
  tickets pool other held := elsewhere.tickets pool other (held.earlier passes)

theorem Elsewhere.spared (elsewhere : Elsewhere arguments now stores)
    (spares : Spares leaseMs now arguments.operationId stores after) :
    Elsewhere arguments now after where
  paired := spares.paired elsewhere.paired
  leases pool other held := elsewhere.leases pool other ((spares.active pool).none_given held)
  tickets pool other held := elsewhere.tickets pool other (spares.tickets pool held)

theorem Elsewhere.record {call : Call} {answer : Except Failure call.Answer}
    (elsewhere : Elsewhere arguments now stores) :
    Elsewhere arguments now (stores.record call answer) :=
  ⟨elsewhere.paired, elsewhere.leases, elsewhere.tickets⟩

/-- A script of the pool that keeps its ticket keys paired. -/
theorem Elsewhere.onPool {client : String}
    {script : ModelPool.PoolKeys String → ModelPool.PoolKeys String × List Int}
    (elsewhere : Elsewhere arguments now stores)
    (pairs : ∀ keys : ModelPool.PoolKeys String, ModelPool.Paired keys.queue keys.queueExpiry →
      ModelPool.Paired (script keys).1.queue (script keys).1.queueExpiry) :
    Elsewhere arguments now (stores.onPool now arguments.poolId client script).1 where
  paired pool := by
    by_cases same : pool = arguments.poolId
    · subst same
      rw [onPool_queue_own, onPool_queueExpiry_own]
      exact pairs _ ((elsewhere.paired _).expire now)
    · rw [onPool_queue_other same, onPool_queueExpiry_other same]
      exact (elsewhere.paired pool).expire now
  leases pool other := by
    rw [onPool_active_other other, held_expire]
    exact elsewhere.leases pool other
  tickets pool other := by
    rw [onPool_queueExpiry_other other, held_expire]
    exact elsewhere.tickets pool other

end Holdings

/-! ## The scripts of an acquisition -/

def Call.isAsk : Call → Bool
  | admitOrEnqueue _ => true
  | _ => false

def Call.isCancel : Call → Bool
  | cancelQueued _ _ _ => true
  | _ => false

/-- Calls that run a script on lease keys. -/
def Call.isScripted : Call → Bool
  | admitOrEnqueue _ | cancelQueued _ _ _ | heartbeatPool _ _ | releasePool _ _
  | acquireConcurrency _ _ _ | heartbeatConcurrency _ _ | releaseConcurrency _ _ => true
  | _ => false

/-- How many admit scripts took effect for the request. -/
def Stores.asks (stores : Stores) : Nat := stores.log.countP fun served => served.call.isAsk

/-- Whether the cancel script took effect. -/
def Stores.cancelled (stores : Stores) : Bool := stores.log.any fun served => served.call.isCancel

/-- The keys an admit script leaves. -/
def Stores.admitted (stores : Stores) (leaseMs now : Nat) (arguments : PoolRequest) : Stores :=
  match arguments.violation with
  | some _ => stores
  | none =>
      (stores.onPool now arguments.poolId arguments.apiClientId
        (ModelPool.admitScript (arguments.script leaseMs) now arguments.operationId)).1

/-- The reply of the admit script to a valid request. -/
def Stores.admitReply (stores : Stores) (leaseMs now : Nat) (arguments : PoolRequest) : List Int :=
  (ModelPool.admitScript (arguments.script leaseMs) now arguments.operationId
    (stores.found now arguments.poolId arguments.apiClientId)).2

/-- The cancel call of an acquisition. -/
def PoolRequest.cancel (arguments : PoolRequest) : Call :=
  .cancelQueued arguments.poolId arguments.apiClientId arguments.operationId

section Scripts

variable {arguments : PoolRequest} {leaseMs now : Nat} {stores after : Stores}

theorem admitted_log : (stores.admitted leaseMs now arguments).log = stores.log := by
  unfold Stores.admitted
  split <;> rfl

theorem Elsewhere.admitted (elsewhere : Elsewhere arguments now stores) :
    Elsewhere arguments now (stores.admitted leaseMs now arguments) := by
  unfold Stores.admitted
  split
  · exact elsewhere
  · exact elsewhere.onPool fun keys paired => paired.admitScript

theorem serve_admit {choice : Option (Except Failure ModelPoolDecision)}
    {answer : Except Failure ModelPoolDecision}
    (served : stores.serve leaseMs now (.admitOrEnqueue arguments) choice = some (after, answer)) :
    after = (stores.admitted leaseMs now arguments).record (.admitOrEnqueue arguments) answer ∧
      ∀ decision, answer = .ok decision → arguments.violation = none ∧
        ∃ poolDecision, ModelPool.checkAdmitReply arguments.activeLimit.toNat
            arguments.queueLimit.toNat (stores.admitReply leaseMs now arguments) =
              .ok poolDecision ∧
          decision = .ofPool poolDecision := by
  unfold Stores.serve Stores.script at served
  unfold Stores.admitted
  cases violated : arguments.violation with
  | some message =>
      simp only [violated, Option.some.injEq, Prod.mk.injEq] at served
      obtain ⟨rfl, rfl⟩ := served
      exact ⟨rfl, fun decision impossible => by cases impossible⟩
  | none =>
      simp only [violated, Option.some.injEq, Prod.mk.injEq] at served
      obtain ⟨rfl, rfl⟩ := served
      refine ⟨rfl, fun decision accepted => ⟨rfl, ?_⟩⟩
      unfold checkedReply at accepted
      split at accepted
      · rename_i poolDecision checked
        cases accepted
        exact ⟨poolDecision, checked, rfl⟩
      · cases accepted

/-- What a decision says about the lease and the ticket. -/
def Decided (arguments : PoolRequest) (now : Nat) (stores : Stores)
    (decision : ModelPoolDecision) : Prop :=
  decision.status = .admitted ∨ (decision.status = .queued ∧ ¬Leased arguments now stores) ∨
    ((decision.status = .callerQueueFull ∨ decision.status = .queueFull) ∧
      ¬Leased arguments now stores ∧ ¬Ticketed arguments now stores)

/-- An accepted decision of an operation without a lease. -/
theorem decided_of_serve {choice : Option (Except Failure ModelPoolDecision)}
    {decision : ModelPoolDecision} (elsewhere : Elsewhere arguments now stores)
    (unleased : ¬Leased arguments now stores)
    (served : stores.serve leaseMs now (.admitOrEnqueue arguments) choice =
      some (after, .ok decision)) :
    Decided arguments now after decision ∧
      (decision.status = .admitted →
        LeasedUntil (now + leaseMs) (after.pools.active arguments.poolId)
          arguments.operationId) := by
  obtain ⟨rfl, accepted⟩ := serve_admit served
  obtain ⟨valid, poolDecision, checked, rfl⟩ := accepted decision rfl
  have status := ModelPool.status_of_checkAdmitReply checked
  have outcome : ModelPool.Outcome (arguments.script leaseMs) now arguments.operationId
      (ModelPool.admitScript (arguments.script leaseMs) now arguments.operationId
        (stores.found now arguments.poolId arguments.apiClientId)) :=
    ModelPool.admitScript_outcome ((elsewhere.paired arguments.poolId).expire now)
      (score_le_of_not_held unleased)
  have active : (stores.admitted leaseMs now arguments).pools.active arguments.poolId =
      (ModelPool.admitScript (arguments.script leaseMs) now arguments.operationId
        (stores.found now arguments.poolId arguments.apiClientId)).1.active := by
    simp only [Stores.admitted, valid]
    exact onPool_active_own
  have expiry : (stores.admitted leaseMs now arguments).pools.queueExpiry arguments.poolId =
      (ModelPool.admitScript (arguments.script leaseMs) now arguments.operationId
        (stores.found now arguments.poolId arguments.apiClientId)).1.queueExpiry := by
    simp only [Stores.admitted, valid]
    exact onPool_queueExpiry_own
  unfold Decided Leased Ticketed Stores.record
  dsimp only
  rw [active, expiry]
  unfold Stores.admitReply at status
  generalize ModelPool.admitScript (arguments.script leaseMs) now arguments.operationId
    (stores.found now arguments.poolId arguments.apiClientId) = result at outcome status ⊢
  cases outcome with
  | admitted head leased unticketed =>
      simp only [head, Option.bind_some, ModelPool.statusOf, ↓reduceIte, Option.some.injEq] at status
      exact ⟨Or.inl (by simp [ModelPoolDecision.ofPool, ModelPoolStatus.ofPool, ← status]),
        fun _ => leased⟩
  | queued head unleased =>
      simp only [head, Option.bind_some, ModelPool.statusOf] at status
      norm_num at status
      have queued : (ModelPoolDecision.ofPool poolDecision).status = .queued := by
        simp [ModelPoolDecision.ofPool, ModelPoolStatus.ofPool, ← status]
      exact ⟨Or.inr (Or.inl ⟨queued, not_held_of_absent unleased⟩),
        fun admitted => by rw [queued] at admitted; cases admitted⟩
  | refused head unleased unticketed =>
      have full : (ModelPoolDecision.ofPool poolDecision).status = .callerQueueFull ∨
          (ModelPoolDecision.ofPool poolDecision).status = .queueFull := by
        rcases head with head | head
        · simp only [head, Option.bind_some, ModelPool.statusOf] at status
          norm_num at status
          exact Or.inl (by simp [ModelPoolDecision.ofPool, ModelPoolStatus.ofPool, ← status])
        · simp only [head, Option.bind_some, ModelPool.statusOf] at status
          norm_num at status
          exact Or.inr (by simp [ModelPoolDecision.ofPool, ModelPoolStatus.ofPool, ← status])
      refine ⟨Or.inr (Or.inr ⟨full, not_held_of_absent unleased, not_held_of_absent unticketed⟩),
        fun admitted => ?_⟩
      rw [admitted] at full
      rcases full with impossible | impossible <;> cases impossible
  | aborted unleased => cases status

/-- The cancel script takes the ticket back and touches no lease. -/
theorem serve_cancel {choice : Option (Except Failure Bool)} {answer : Except Failure Bool}
    (elsewhere : Elsewhere arguments now stores)
    (served : stores.serve leaseMs now arguments.cancel choice = some (after, answer)) :
    after.log = ⟨arguments.cancel, answer⟩ :: stores.log ∧ Elsewhere arguments now after ∧
      ¬Ticketed arguments now after ∧
      (¬Leased arguments now stores → ¬Leased arguments now after) := by
  unfold PoolRequest.cancel Stores.serve Stores.script at served
  simp only [Option.some.injEq, Prod.mk.injEq] at served
  obtain ⟨rfl, rfl⟩ := served
  refine ⟨rfl, (elsewhere.onPool fun keys paired => paired.cancelScript).record, ?_, ?_⟩
  · unfold Ticketed Stores.record
    dsimp only
    rw [onPool_queueExpiry_own]
    exact not_held_of_absent (ModelPool.cancelScript_unticketed _)
  · intro unleased
    unfold Leased Stores.record
    dsimp only
    rw [onPool_active_own, ModelPool.cancelScript_active]
    show ¬Held now ((stores.pools.active arguments.poolId).expire now) _
    rw [held_expire]
    exact unleased

/-- A call without a script on the keys touches none. -/
theorem serve_unscripted {call : Call} {choice : Option (Except Failure call.Answer)}
    {answer : Except Failure call.Answer} (unscripted : call.isScripted = false)
    (served : stores.serve leaseMs now call choice = some (after, answer)) :
    after = stores.record call answer := by
  unfold Stores.serve at served
  have none_ : stores.script leaseMs now call = none := by
    cases call <;> first | rfl | cases unscripted
  rw [none_] at served
  dsimp only at served
  split at served
  · split at served <;> cases served
    rfl
  · cases served

theorem unscripted_of_outside {call : Call} (outside : call.isRedis = false) :
    call.isScripted = false := by
  cases call <;> first | rfl | cases outside

theorem serve_elsewhere {call : Call} {choice : Option (Except Failure call.Answer)}
    {answer : Except Failure call.Answer} (outside : call.isRedis = false)
    (served : stores.serve leaseMs now call choice = some (after, answer)) :
    after = stores.record call answer :=
  serve_unscripted (unscripted_of_outside outside) served

end Scripts

/-! ## The condition -/

/-- An answer in hand that is an exception. -/
def isRaised : Flight backend → Bool
  | .executed _ (.error _) => true
  | _ => false

/-- An admit script whose decision is not seen left no lease, and a ticket only
after so many admit scripts. -/
def Spent (asked : Nat) (arguments : PoolRequest) (now : Nat) (stores : Stores) : Prop :=
  ¬Leased arguments now stores ∧ (Ticketed arguments now stores → asked ≤ stores.asks)

/-- An admit script that runs late leaves no lease, and a ticket only before the
cancel script of an operation that was queued. -/
def SpentLate (leaseMs : Nat) (arguments : PoolRequest) (now : Nat) (stores : Stores) : Prop :=
  ¬Leased arguments now (stores.admitted leaseMs now arguments) ∧
    (Ticketed arguments now (stores.admitted leaseMs now arguments) →
      1 ≤ stores.asks ∧ stores.cancelled = false)

instance (asked : Nat) (arguments : PoolRequest) (now : Nat) (stores : Stores) :
    Decidable (Spent asked arguments now stores) :=
  inferInstanceAs (Decidable (_ ∧ _))

instance (leaseMs : Nat) (arguments : PoolRequest) (now : Nat) (stores : Stores) :
    Decidable (SpentLate leaseMs arguments now stores) :=
  inferInstanceAs (Decidable (_ ∧ _))

/-- The request of an admit script. -/
def Call.poolRequest? : Call → Option PoolRequest
  | admitOrEnqueue arguments => some arguments
  | _ => none

/-- The condition on the steps of an acquisition: an admit script whose reply is
rejected or lost, or that runs after the service stopped waiting for it, leaves
nothing that the service does not take back; and the cancel script is reachable. -/
def LosesNothing (leaseMs : Nat) {Change : Type} (pause : Pause backend Stores) :
    Act backend Change → Prop
  | .replies call =>
      isRaised pause.flight = true → ∀ arguments ∈ call.poolRequest?,
        Spent 2 arguments pause.now pause.world
  | .fails call _ =>
      pause.flight.isSent = false → ∀ arguments ∈ call.poolRequest?,
        Spent 2 arguments pause.now pause.world
  | .late _ call _ =>
      ∀ arguments ∈ call.poolRequest?, SpentLate leaseMs arguments pause.now pause.world
  | .drops _ call => call.isCancel = false
  | .observes _ | .sends _ | .performs _ _ | .spawns _ | .joins _ | .expires _ | .abandons _ _
  | .emits _ | .interrupts _ _ | .resumes _ | .throws _ _ | .executes _ _ | .finishes _ _
  | .changes _ | .elapses _ => True

instance (leaseMs : Nat) {Change : Type} (pause : Pause backend Stores)
    (act : Act backend Change) : Decidable (LosesNothing leaseMs pause act) :=
  match act with
  | .replies call =>
      inferInstanceAs (Decidable (isRaised pause.flight = true →
        ∀ arguments ∈ call.poolRequest?, Spent 2 arguments pause.now pause.world))
  | .fails call _ =>
      inferInstanceAs (Decidable (pause.flight.isSent = false →
        ∀ arguments ∈ call.poolRequest?, Spent 2 arguments pause.now pause.world))
  | .late _ call _ =>
      inferInstanceAs (Decidable (∀ arguments ∈ call.poolRequest?,
        SpentLate leaseMs arguments pause.now pause.world))
  | .drops _ call => inferInstanceAs (Decidable (call.isCancel = false))
  | .observes _ | .sends _ | .performs _ _ | .spawns _ | .joins _ | .expires _ | .abandons _ _
  | .emits _ | .interrupts _ _ | .resumes _ | .throws _ _ | .executes _ _ | .finishes _ _
  | .changes _ | .elapses _ => .isTrue trivial

/-! ## Stages -/

/-- About to ask for the `asked + 1`st time. -/
structure Asking (arguments : PoolRequest) (asked : Nat) (situation : Situation backend Stores) :
    Prop where
  elsewhere : Elsewhere arguments situation.now situation.world
  unleased : ¬Leased arguments situation.now situation.world
  unticketed : asked = 0 → ¬Ticketed arguments situation.now situation.world
  asks : situation.world.asks = asked
  uncancelled : situation.world.cancelled = false
  idle : situation.task = none
  settled : situation.orphans = []

/-- Asked, with the decision on its way. -/
structure Asked (arguments : PoolRequest) (asked : Nat)
    (answer : Except Failure ModelPoolDecision) (situation : Situation backend Stores) : Prop where
  elsewhere : Elsewhere arguments situation.now situation.world
  decided : ∀ decision, answer = .ok decision →
    Decided arguments situation.now situation.world decision
  asks : situation.world.asks = asked + 1
  uncancelled : situation.world.cancelled = false
  idle : situation.task = none
  settled : situation.orphans = []

/-- Leaving the queue; a lost admit script may still run. -/
structure Leaving (arguments : PoolRequest) (situation : Situation backend Stores) : Prop where
  elsewhere : Elsewhere arguments situation.now situation.world
  unleased : ¬Leased arguments situation.now situation.world
  asks : 1 ≤ situation.world.asks
  uncancelled : situation.world.cancelled = false
  idle : situation.task = none
  known : ∀ call ∈ situation.orphans, call = .admitOrEnqueue arguments ∨ call.isRedis = false

/-- After the exception: the cancel script is on its way, or there is no ticket
and no script on its way can leave one. -/
structure Left (arguments : PoolRequest) (situation : Situation backend Stores) : Prop where
  elsewhere : Elsewhere arguments situation.now situation.world
  unleased : ¬Leased arguments situation.now situation.world
  idle : situation.task = none
  known : ∀ call ∈ situation.orphans,
    call = .admitOrEnqueue arguments ∨ call = arguments.cancel ∨ call.isRedis = false
  leaves : arguments.cancel ∈ situation.orphans ∨
    (¬Ticketed arguments situation.now situation.world ∧
      (.admitOrEnqueue arguments ∈ situation.orphans →
        situation.world.cancelled = true ∨
          (situation.world.asks = 0 ∧ situation.orphans = [.admitOrEnqueue arguments])))

section Stages

variable {arguments : PoolRequest} {leaseMs asked : Nat} {offset : Int} {patience : Option Nat}

abbrev queueingSetting (leaseMs : Nat) (arguments : PoolRequest) (offset : Int)
    (patience : Option Nat) :
    Setting backend Stores (Interference leaseMs arguments.operationId) :=
  leaseSetting leaseMs arguments.operationId offset patience

def queueingRules (leaseMs : Nat) (arguments : PoolRequest) :
    Rules backend Stores (Interference leaseMs arguments.operationId) where
  assumes := LosesNothing leaseMs
  permits _ _ := True
  always _ := True

/-- While it waits for an admit reply. -/
def AskPause (arguments : PoolRequest) (asked : Nat) (pause : Pause backend Stores) : Prop :=
  (pause.flight = .sent ∧ Asking arguments asked pause.toSituation) ∨
    ∃ answer, pause.flight = .executed (.admitOrEnqueue arguments) answer ∧
      Asked arguments asked answer pause.toSituation

theorem Decided.later {now later : Nat} {stores : Stores} {decision : ModelPoolDecision}
    (decided : Decided arguments now stores decision) (passes : now ≤ later) :
    Decided arguments later stores decision := by
  rcases decided with admitted | ⟨queued, unleased⟩ | ⟨full, unleased, unticketed⟩
  · exact Or.inl admitted
  · exact Or.inr (Or.inl ⟨queued, fun held => unleased (held.earlier passes)⟩)
  · exact Or.inr (Or.inr ⟨full, fun held => unleased (held.earlier passes),
      fun held => unticketed (held.earlier passes)⟩)

theorem Decided.spared {now : Nat} {stores after : Stores} {decision : ModelPoolDecision}
    (decided : Decided arguments now stores decision)
    (spares : Spares leaseMs now arguments.operationId stores after) :
    Decided arguments now after decision := by
  rcases decided with admitted | ⟨queued, unleased⟩ | ⟨full, unleased, unticketed⟩
  · exact Or.inl admitted
  · exact Or.inr (Or.inl ⟨queued, fun held => unleased ((spares.active _).none_given held)⟩)
  · exact Or.inr (Or.inr ⟨full, fun held => unleased ((spares.active _).none_given held),
      fun held => unticketed (spares.tickets _ held)⟩)

theorem asks_record {stores : Stores} {call : Call} {answer : Except Failure call.Answer} :
    (stores.record call answer).asks = stores.asks + if call.isAsk then 1 else 0 := by
  unfold Stores.asks Stores.record
  rw [List.countP_cons]

theorem cancelled_record {stores : Stores} {call : Call} {answer : Except Failure call.Answer} :
    (stores.record call answer).cancelled = (call.isCancel || stores.cancelled) := rfl

/-- What others do, and the passing of time, keep the assertion. -/
structure Steady (leaseMs : Nat) (operationId : String)
    (assertion : Situation backend Stores → Prop) : Prop where
  changes : ∀ situation world, assertion situation →
    Spares leaseMs situation.now operationId situation.world world →
      assertion { situation with world := world }
  elapses : ∀ situation duration, assertion situation →
    assertion { situation with now := situation.now + duration }

theorem spares_asks {now : Nat} {operationId : String} {stores after : Stores}
    (spares : Spares leaseMs now operationId stores after) : after.asks = stores.asks := by
  unfold Stores.asks
  rw [spares.log]

theorem spares_cancelled {now : Nat} {operationId : String} {stores after : Stores}
    (spares : Spares leaseMs now operationId stores after) :
    after.cancelled = stores.cancelled := by
  unfold Stores.cancelled
  rw [spares.log]

theorem asking_steady (leaseMs : Nat) : Steady leaseMs arguments.operationId (Asking arguments asked) where
  changes _ _ asking spares := {
    elsewhere := asking.elsewhere.spared spares
    unleased := fun held => asking.unleased ((spares.active _).none_given held)
    unticketed := fun first held => asking.unticketed first (spares.tickets _ held)
    asks := (spares_asks spares).trans asking.asks
    uncancelled := (spares_cancelled spares).trans asking.uncancelled
    idle := asking.idle
    settled := asking.settled }
  elapses _ _ asking := {
    elsewhere := asking.elsewhere.later (Nat.le_add_right _ _)
    unleased := fun held => asking.unleased (held.earlier (Nat.le_add_right _ _))
    unticketed := fun first held => asking.unticketed first (held.earlier (Nat.le_add_right _ _))
    asks := asking.asks
    uncancelled := asking.uncancelled
    idle := asking.idle
    settled := asking.settled }

theorem asked_steady (leaseMs : Nat) (answer : Except Failure ModelPoolDecision) :
    Steady leaseMs arguments.operationId (Asked arguments asked answer) where
  changes _ _ asking spares := {
    elsewhere := asking.elsewhere.spared spares
    decided := fun decision accepted => (asking.decided decision accepted).spared spares
    asks := (spares_asks spares).trans asking.asks
    uncancelled := (spares_cancelled spares).trans asking.uncancelled
    idle := asking.idle
    settled := asking.settled }
  elapses _ _ asking := {
    elsewhere := asking.elsewhere.later (Nat.le_add_right _ _)
    decided := fun decision accepted =>
      (asking.decided decision accepted).later (Nat.le_add_right _ _)
    asks := asking.asks
    uncancelled := asking.uncancelled
    idle := asking.idle
    settled := asking.settled }

theorem leaving_steady (leaseMs : Nat) : Steady leaseMs arguments.operationId (Leaving arguments) where
  changes _ _ leaving spares := {
    elsewhere := leaving.elsewhere.spared spares
    unleased := fun held => leaving.unleased ((spares.active _).none_given held)
    asks := (spares_asks spares).symm ▸ leaving.asks
    uncancelled := (spares_cancelled spares).trans leaving.uncancelled
    idle := leaving.idle
    known := leaving.known }
  elapses _ _ leaving := {
    elsewhere := leaving.elsewhere.later (Nat.le_add_right _ _)
    unleased := fun held => leaving.unleased (held.earlier (Nat.le_add_right _ _))
    asks := leaving.asks
    uncancelled := leaving.uncancelled
    idle := leaving.idle
    known := leaving.known }

theorem left_steady (leaseMs : Nat) : Steady leaseMs arguments.operationId (Left arguments) where
  changes _ _ left spares := {
    elsewhere := left.elsewhere.spared spares
    unleased := fun held => left.unleased ((spares.active _).none_given held)
    idle := left.idle
    known := left.known
    leaves := by
      rw [spares_cancelled spares, spares_asks spares]
      exact left.leaves.imp_right fun ⟨unticketed, harmless⟩ =>
        ⟨fun held => unticketed (spares.tickets _ held), harmless⟩ }
  elapses _ _ left := {
    elsewhere := left.elsewhere.later (Nat.le_add_right _ _)
    unleased := fun held => left.unleased (held.earlier (Nat.le_add_right _ _))
    idle := left.idle
    known := left.known
    leaves := left.leaves.imp_right fun ⟨unticketed, harmless⟩ =>
      ⟨fun held => unticketed (held.earlier (Nat.le_add_right _ _)), harmless⟩ }

/-- A late script keeps the operation leaving. -/
theorem Leaving.late {situation : Situation backend Stores} {position : Nat} {call : Call}
    {choice : Option (Except Failure call.Answer)} {world : Stores}
    {answer : Except Failure call.Answer} (leaving : Leaving arguments situation)
    (found : situation.orphans[position]? = some call)
    (served : situation.world.serve leaseMs situation.now call choice = some (world, answer))
    (spent : ∀ other, call = .admitOrEnqueue other →
      SpentLate leaseMs other situation.now situation.world) :
    Leaving arguments { situation with
      world := world, orphans := situation.orphans.eraseIdx position } := by
  have known : ∀ other ∈ situation.orphans.eraseIdx position,
      other = .admitOrEnqueue arguments ∨ other.isRedis = false :=
    fun other member => leaving.known other (mem_of_mem_eraseIdx member)
  rcases leaving.known call (List.mem_of_getElem? found) with rfl | outside
  · obtain ⟨rfl, -⟩ := serve_admit served
    exact {
      elsewhere := leaving.elsewhere.admitted.record
      unleased := (spent arguments rfl).1
      asks := by
        dsimp only
        rw [asks_record]
        exact Nat.le_add_left 1 _
      uncancelled := by
        dsimp only
        rw [cancelled_record, Stores.cancelled, admitted_log]
        exact leaving.uncancelled
      idle := leaving.idle
      known := known }
  · obtain rfl := serve_elsewhere outside served
    exact {
      elsewhere := leaving.elsewhere.record
      unleased := leaving.unleased
      asks := by
        dsimp only
        rw [asks_record]
        exact leaving.asks.trans (Nat.le_add_right _ _)
      uncancelled := by
        dsimp only
        rw [cancelled_record, leaving.uncancelled, Bool.or_false]
        cases call <;> first | rfl | cases outside
      idle := leaving.idle
      known := known }

/-- Leaving without the call that ran or was dropped. -/
theorem Leaving.drop {situation : Situation backend Stores} (position : Nat)
    (leaving : Leaving arguments situation) :
    Leaving arguments { situation with orphans := situation.orphans.eraseIdx position } where
  elsewhere := leaving.elsewhere
  unleased := leaving.unleased
  asks := leaving.asks
  uncancelled := leaving.uncancelled
  idle := leaving.idle
  known other member := leaving.known other (mem_of_mem_eraseIdx member)

/-- A call other than the one at the position stays among the orphans. -/
theorem mem_eraseIdx_of_ne {orphans : List Call} {position : Nat} {call other : Call}
    (found : orphans[position]? = some call) (different : other ≠ call)
    (member : other ∈ orphans) : other ∈ orphans.eraseIdx position := by
  obtain ⟨index, at_⟩ := List.mem_iff_getElem?.mp member
  refine List.mem_eraseIdx_iff_getElem?.mpr ⟨index, ?_, at_⟩
  rintro rfl
  rw [found] at at_
  exact different (Option.some.inj at_).symm

/-- What remains of the duties once a call that is not the cancel call is gone. -/
theorem Left.leaves_erase {situation : Situation backend Stores} {position : Nat} {call : Call}
    (left : Left arguments situation) (found : situation.orphans[position]? = some call)
    (different : call ≠ arguments.cancel) :
    arguments.cancel ∈ situation.orphans.eraseIdx position ∨
      (¬Ticketed arguments situation.now situation.world ∧
        (.admitOrEnqueue arguments ∈ situation.orphans.eraseIdx position →
          situation.world.cancelled = true)) := by
  refine left.leaves.imp (mem_eraseIdx_of_ne found different.symm) ?_
  rintro ⟨unticketed, harmless⟩
  refine ⟨unticketed, fun member => ?_⟩
  rcases harmless (mem_of_mem_eraseIdx member) with cancelled | ⟨_, alone⟩
  · exact cancelled
  · rw [alone] at member found
    cases position with
    | zero => cases member
    | succ position => cases found

theorem Left.drop {situation : Situation backend Stores} {position : Nat} {call : Call}
    (left : Left arguments situation) (found : situation.orphans[position]? = some call)
    (different : call ≠ arguments.cancel) :
    Left arguments { situation with orphans := situation.orphans.eraseIdx position } where
  elsewhere := left.elsewhere
  unleased := left.unleased
  idle := left.idle
  known other member := left.known other (mem_of_mem_eraseIdx member)
  leaves := (left.leaves_erase found different).imp_right fun ⟨unticketed, harmless⟩ =>
    ⟨unticketed, fun member => Or.inl (harmless member)⟩

/-- A late script leaves nothing more than the duties that remain. -/
theorem Left.late {situation : Situation backend Stores} {position : Nat} {call : Call}
    {choice : Option (Except Failure call.Answer)} {world : Stores}
    {answer : Except Failure call.Answer} (left : Left arguments situation)
    (found : situation.orphans[position]? = some call)
    (served : situation.world.serve leaseMs situation.now call choice = some (world, answer))
    (spent : ∀ other, call = .admitOrEnqueue other →
      SpentLate leaseMs other situation.now situation.world) :
    Left arguments { situation with
      world := world, orphans := situation.orphans.eraseIdx position } := by
  have known : ∀ other ∈ situation.orphans.eraseIdx position,
      other = .admitOrEnqueue arguments ∨ other = arguments.cancel ∨ other.isRedis = false :=
    fun other member => left.known other (mem_of_mem_eraseIdx member)
  rcases left.known call (List.mem_of_getElem? found) with rfl | rfl | outside
  · obtain ⟨rfl, -⟩ := serve_admit served
    obtain ⟨unleased, ticketed⟩ := spent arguments rfl
    refine ⟨left.elsewhere.admitted.record, unleased, left.idle, known, ?_⟩
    have kept : ((situation.world.admitted leaseMs situation.now arguments).record
        (.admitOrEnqueue arguments) answer).cancelled = situation.world.cancelled := by
      rw [cancelled_record, Stores.cancelled, admitted_log]
      rfl
    rw [kept]
    rcases left.leaves with cancels | ⟨_, harmless⟩
    · refine Or.inl (mem_eraseIdx_of_ne found ?_ cancels)
      rintro ⟨⟩
    · have cases_ := harmless (List.mem_of_getElem? found)
      refine Or.inr ⟨fun held => ?_, fun member => ?_⟩
      · obtain ⟨asked, uncancelled⟩ := ticketed held
        rcases cases_ with cancelled | ⟨unasked, _⟩
        · rw [cancelled] at uncancelled
          cases uncancelled
        · omega
      · rcases cases_ with cancelled | ⟨_, alone⟩
        · exact Or.inl cancelled
        · rw [alone] at member found
          cases position with
          | zero => cases member
          | succ position => cases found
  · obtain ⟨log, elsewhere, unticketed, unleased⟩ := serve_cancel left.elsewhere served
    refine ⟨elsewhere, unleased left.unleased, left.idle, known,
      Or.inr ⟨unticketed, fun _ => Or.inl ?_⟩⟩
    show world.cancelled = true
    rw [Stores.cancelled, log]
    rfl
  · obtain rfl := serve_elsewhere outside served
    refine ⟨left.elsewhere.record, left.unleased, left.idle, known, ?_⟩
    have different : call ≠ arguments.cancel := by
      rintro rfl
      cases outside
    refine (left.leaves_erase found different).imp_right fun ⟨unticketed, harmless⟩ =>
      ⟨unticketed, fun member => Or.inl ?_⟩
    rw [cancelled_record, harmless member, Bool.or_true]

/-! ## Pauses -/

theorem Asking.executed {situation : Situation backend Stores} {world : Stores}
    {choice : Option (Except Failure ModelPoolDecision)}
    {answer : Except Failure ModelPoolDecision} (asking : Asking arguments asked situation)
    (served : situation.world.serve leaseMs situation.now (.admitOrEnqueue arguments) choice =
      some (world, answer)) :
    Asked arguments asked answer (situation.withWorld world) := by
  have decided : ∀ decision, answer = .ok decision →
      Decided arguments situation.now world decision := by
    rintro decision rfl
    exact (decided_of_serve asking.elsewhere asking.unleased served).1
  obtain ⟨rfl, -⟩ := serve_admit served
  exact {
    elsewhere := asking.elsewhere.admitted.record
    decided := decided
    asks := by
      show (Stores.record _ _ _).asks = _
      rw [asks_record, Stores.asks, admitted_log, ← asking.asks]
      rfl
    uncancelled := by
      show (Stores.record _ _ _).cancelled = _
      rw [cancelled_record, Stores.cancelled, admitted_log]
      exact asking.uncancelled
    idle := asking.idle
    settled := asking.settled }

theorem AskPause.stirs {before after : Pause backend Stores}
    {act : Act backend (Interference leaseMs arguments.operationId)}
    (pause : AskPause arguments asked before)
    (stirs : Stirs (queueingSetting leaseMs arguments offset patience)
      (.call (.admitOrEnqueue arguments)) before act after) :
    AskPause arguments asked after := by
  rcases pause with ⟨sent, asking⟩ | ⟨answer, executed, answered⟩
  · cases stirs with
    | executes awaits _ served =>
        cases awaits
        exact Or.inr ⟨_, rfl, asking.executed served⟩
    | finishes running => cases asking.idle.symm.trans running
    | late found | drops found =>
        rw [asking.settled] at found
        cases found
    | changes change => exact Or.inl ⟨sent, (asking_steady leaseMs).changes _ _ asking (change.spares _ _)⟩
    | elapses => exact Or.inl ⟨sent, (asking_steady leaseMs).elapses _ _ asking⟩
  · cases stirs with
    | executes awaits flown =>
        rw [executed] at flown
        cases flown
    | finishes running => cases answered.idle.symm.trans running
    | late found | drops found =>
        rw [answered.settled] at found
        cases found
    | changes change =>
        exact Or.inr ⟨answer, executed,
          (asked_steady leaseMs answer).changes _ _ answered (change.spares _ _)⟩
    | elapses =>
        exact Or.inr ⟨answer, executed, (asked_steady leaseMs answer).elapses _ _ answered⟩

/-- While it sleeps between two polls. -/
theorem Asking.sleeps {milliseconds : Int} {before after : Pause backend Stores}
    {act : Act backend (Interference leaseMs arguments.operationId)}
    (asking : Asking arguments asked before.toSituation)
    (stirs : Stirs (queueingSetting leaseMs arguments offset patience)
      (.call (.queueSleep milliseconds)) before act after) :
    Asking arguments asked after.toSituation := by
  cases stirs with
  | executes awaits _ served =>
      cases awaits
      obtain rfl := serve_elsewhere rfl (serve_of_setting served)
      exact {
        elsewhere := asking.elsewhere.record
        unleased := asking.unleased
        unticketed := asking.unticketed
        asks := asks_record.trans asking.asks
        uncancelled := cancelled_record.trans asking.uncancelled
        idle := asking.idle
        settled := asking.settled }
  | finishes running => cases asking.idle.symm.trans running
  | late found | drops found =>
      rw [asking.settled] at found
      cases found
  | changes change => exact (asking_steady leaseMs).changes _ _ asking (change.spares _ _)
  | elapses => exact (asking_steady leaseMs).elapses _ _ asking

/-- A late script within the condition. -/
theorem spent_of_loses {Change : Type} {pause : Pause backend Stores} {position : Nat}
    {call : Call} {choice : Option (Except Failure call.Answer)}
    (loses : LosesNothing leaseMs pause (.late position call choice : Act backend Change))
    (other : PoolRequest) (asks : call = .admitOrEnqueue other) :
    SpentLate leaseMs other pause.now pause.world := by
  subst asks
  exact loses other rfl

theorem not_cancel_of_loses {Change : Type} {pause : Pause backend Stores} {position : Nat}
    {call : Call} (loses : LosesNothing leaseMs pause (.drops position call : Act backend Change)) :
    call ≠ arguments.cancel := by
  rintro rfl
  cases loses

/-- While it waits for the cancel script. -/
def CancelPause (arguments : PoolRequest) (pause : Pause backend Stores) : Prop :=
  (pause.flight = .sent ∧ Leaving arguments pause.toSituation) ∨
    (∃ answer, pause.flight = .executed arguments.cancel answer) ∧ Left arguments pause.toSituation

theorem CancelPause.stirs {before after : Pause backend Stores}
    {act : Act backend (Interference leaseMs arguments.operationId)}
    (pause : CancelPause arguments before) (loses : LosesNothing leaseMs before act)
    (stirs : Stirs (queueingSetting leaseMs arguments offset patience)
      (.call arguments.cancel) before act after) :
    CancelPause arguments after := by
  rcases pause with ⟨sent, leaving⟩ | ⟨⟨answer, executed⟩, left⟩
  · cases stirs with
    | executes awaits _ served =>
        cases awaits
        obtain ⟨log, elsewhere, unticketed, unleased⟩ := serve_cancel leaving.elsewhere
          (serve_of_setting served)
        refine Or.inr ⟨⟨_, rfl⟩, elsewhere, unleased leaving.unleased, leaving.idle,
          fun call member => (leaving.known call member).imp_right Or.inr,
          Or.inr ⟨unticketed, fun _ => Or.inl ?_⟩⟩
        show Stores.cancelled _ = true
        rw [Stores.cancelled, Situation.withWorld, log]
        rfl
    | finishes running => cases leaving.idle.symm.trans running
    | late found served => exact Or.inl ⟨sent, leaving.late found served (spent_of_loses loses)⟩
    | drops => exact Or.inl ⟨sent, leaving.drop _⟩
    | changes change =>
        exact Or.inl ⟨sent, (leaving_steady leaseMs).changes _ _ leaving (change.spares _ _)⟩
    | elapses => exact Or.inl ⟨sent, (leaving_steady leaseMs).elapses _ _ leaving⟩
  · cases stirs with
    | executes awaits flown =>
        rw [executed] at flown
        cases flown
    | finishes running => cases left.idle.symm.trans running
    | late found served =>
        exact Or.inr ⟨⟨answer, executed⟩, left.late found served (spent_of_loses loses)⟩
    | drops found => exact Or.inr ⟨⟨answer, executed⟩, left.drop found (not_cancel_of_loses loses)⟩
    | changes change =>
        exact Or.inr ⟨⟨answer, executed⟩,
          (left_steady leaseMs).changes _ _ left (change.spares _ _)⟩
    | elapses => exact Or.inr ⟨⟨answer, executed⟩, (left_steady leaseMs).elapses _ _ left⟩

/-- After the exception. -/
theorem Left.stirs {before after : Pause backend Stores}
    {act : Act backend (Interference leaseMs arguments.operationId)}
    (left : Left arguments before.toSituation) (loses : LosesNothing leaseMs before act)
    (stirs : Stirs (queueingSetting leaseMs arguments offset patience) .nothing before act after) :
    Left arguments after.toSituation := by
  cases stirs with
  | executes awaits => cases awaits
  | finishes running => cases left.idle.symm.trans running
  | late found served => exact left.late found served (spent_of_loses loses)
  | drops found => exact left.drop found (not_cancel_of_loses loses)
  | changes change => exact (left_steady leaseMs).changes _ _ left (change.spares _ _)
  | elapses => exact (left_steady leaseMs).elapses _ _ left

end Stages

/-! ## The acquisition -/

section Acquisition

variable {arguments : PoolRequest} {leaseMs asked : Nat} {offset : Int} {patience : Option Nat}
  {locals : Locals} {situation : Situation backend Stores}

/-- What an admit script whose decision was not seen leaves: nothing when it was
the first, something to leave otherwise. -/
structure Unseen (arguments : PoolRequest) (asked : Nat) (situation : Situation backend Stores) :
    Prop where
  first : asked = 0 → Left arguments situation
  later : 1 ≤ asked → Leaving arguments situation

theorem Asked.unseen {answer : Except Failure ModelPoolDecision}
    (answered : Asked arguments asked answer situation)
    (spent : Spent 2 arguments situation.now situation.world) :
    Unseen arguments asked situation where
  first unasked := {
    elsewhere := answered.elsewhere
    unleased := spent.1
    idle := answered.idle
    known := by simp [answered.settled]
    leaves := by
      refine Or.inr ⟨fun held => ?_, by simp [answered.settled]⟩
      have twice := spent.2 held
      have asks := answered.asks
      omega }
  later _ := {
    elsewhere := answered.elsewhere
    unleased := spent.1
    asks := by
      have asks := answered.asks
      omega
    uncancelled := answered.uncancelled
    idle := answered.idle
    known := by simp [answered.settled] }

/-- The admit script is still on its way. -/
theorem Asking.unseen (asking : Asking arguments asked situation) :
    Unseen arguments asked
      { situation with orphans := .admitOrEnqueue arguments :: situation.orphans } where
  first unasked := {
    elsewhere := asking.elsewhere
    unleased := asking.unleased
    idle := asking.idle
    known := by simp [asking.settled]
    leaves := Or.inr ⟨asking.unticketed unasked, fun _ =>
      Or.inr ⟨asking.asks.trans unasked, by simp [asking.settled]⟩⟩ }
  later again := {
    elsewhere := asking.elsewhere
    unleased := asking.unleased
    asks := asking.asks.symm ▸ again
    uncancelled := asking.uncancelled
    idle := asking.idle
    known := by simp [asking.settled] }

theorem await_admission (asking : Asking arguments asked situation) :
    Maintains (queueingSetting leaseMs arguments offset patience) (queueingRules leaseMs arguments)
      (await (.admitOrEnqueue arguments)) locals situation fun outcome left reached =>
        left = locals ∧
        match outcome with
        | .ok decision => Asked arguments asked (.ok decision) reached
        | .error _ => Unseen arguments asked reached := by
  refine Maintains.await (AskPause arguments asked) trivial trivial (Or.inl ⟨rfl, asking⟩)
    (fun _ _ _ _ pause _ stirs => pause.stirs stirs) (fun _ _ => trivial) ?_ ?_
  · rintro pause answer (⟨sent, _⟩ | ⟨other, executed, answered⟩) at_ loses
    · rw [sent] at at_
      cases at_
    · rw [executed] at at_
      cases at_
      refine ⟨rfl, ?_⟩
      cases answer with
      | ok decision => exact answered
      | error failure =>
          have raised : isRaised pause.flight = true := by
            rw [executed]
            rfl
          exact answered.unseen (loses raised arguments rfl)
  · rintro pause failure (⟨sent, still⟩ | ⟨answer, executed, answered⟩) _ _ loses
    · refine ⟨trivial, rfl, ?_⟩
      simp only [Pause.leave, sent, Flight.isSent, ↓reduceIte]
      exact still.unseen
    · refine ⟨trivial, rfl, ?_⟩
      have flown : pause.flight.isSent = false := by
        rw [executed]
        rfl
      simp only [Pause.leave, flown, Bool.false_eq_true, ↓reduceIte]
      exact answered.unseen (loses flown arguments rfl)

theorem Asking.leaving (asking : Asking arguments asked situation) (again : 1 ≤ asked) :
    Leaving arguments situation where
  elsewhere := asking.elsewhere
  unleased := asking.unleased
  asks := asking.asks.symm ▸ again
  uncancelled := asking.uncancelled
  idle := asking.idle
  known := by simp [asking.settled]

theorem Asked.again {decision : ModelPoolDecision}
    (answered : Asked arguments asked (.ok decision) situation)
    (queued : decision.status = .queued) : Asking arguments (asked + 1) situation where
  elsewhere := answered.elsewhere
  unleased := by
    rcases answered.decided decision rfl with admitted | ⟨_, unleased⟩ | ⟨_, unleased, _⟩
    · rw [queued] at admitted
      cases admitted
    · exact unleased
    · exact unleased
  unticketed impossible := by omega
  asks := answered.asks
  uncancelled := answered.uncancelled
  idle := answered.idle
  settled := answered.settled

theorem Asked.refused {decision : ModelPoolDecision}
    (answered : Asked arguments asked (.ok decision) situation)
    (unadmitted : decision.status ≠ .admitted) (unqueued : decision.status ≠ .queued) :
    Left arguments situation := by
  rcases answered.decided decision rfl with admitted | ⟨queued, _⟩ | ⟨_, unleased, unticketed⟩
  · exact (unadmitted admitted).elim
  · exact (unqueued queued).elim
  · exact {
      elsewhere := answered.elsewhere
      unleased := unleased
      idle := answered.idle
      known := by simp [answered.settled]
      leaves := Or.inr ⟨unticketed, by simp [answered.settled]⟩ }

theorem updateHeaders_maintains {entries : Headers}
    {goal : Except Failure Unit → Locals → Situation backend Stores → Prop}
    (reached : goal (.ok ())
      { locals with headers := entries.foldl setHeader locals.headers } situation) :
    Maintains (queueingSetting leaseMs arguments offset patience) (queueingRules leaseMs arguments)
      (updateHeaders entries) locals situation goal :=
  Maintains.modify trivial reached

theorem raiseExternal_maintains {Result : Type} {code : Api.ErrorCode}
    {operationId : Option String}
    {goal : Except Failure Result → Locals → Situation backend Stores → Prop}
    (reached : goal (.error (.externalApi code operationId locals.headers)) locals situation) :
    Maintains (queueingSetting leaseMs arguments offset patience) (queueingRules leaseMs arguments)
      (raiseExternal code operationId) locals situation goal := by
  apply Maintains.bind
  apply Maintains.get trivial
  exact Maintains.throw trivial reached

theorem askPool_maintains (asking : Asking arguments asked situation) :
    Maintains (queueingSetting leaseMs arguments offset patience) (queueingRules leaseMs arguments)
      (askPool arguments) locals situation fun outcome left reached =>
        match outcome with
        | .ok decision =>
            left.poolDecision = some decision ∧ Asked arguments asked (.ok decision) reached
        | .error _ => left = locals ∧ Unseen arguments asked reached := by
  apply Maintains.bind
  refine (await_admission asking).mono ?_
  rintro outcome left reached _ ⟨rfl, answered⟩
  cases outcome with
  | error failure => exact ⟨rfl, answered⟩
  | ok decision =>
      apply Maintains.bind
      apply Maintains.modify trivial
      apply Maintains.bind
      apply updateHeaders_maintains
      exact Maintains.pure trivial ⟨rfl, answered⟩

theorem queueSleep_maintains {milliseconds : Int} (asking : Asking arguments asked situation)
    (again : 1 ≤ asked) :
    Maintains (queueingSetting leaseMs arguments offset patience) (queueingRules leaseMs arguments)
      (await (.queueSleep milliseconds)) locals situation fun outcome left reached =>
        left = locals ∧
        match outcome with
        | .ok _ => Asking arguments asked reached
        | .error _ => Leaving arguments reached := by
  refine Maintains.await (fun pause => Asking arguments asked pause.toSituation) trivial trivial
    asking (fun _ _ _ _ asking _ stirs => asking.sleeps stirs) (fun _ _ => trivial) ?_ ?_
  · intro pause answer asking _ _
    refine ⟨rfl, ?_⟩
    cases answer with
    | ok => exact asking
    | error failure => exact asking.leaving again
  · intro pause failure asking _ _ _
    refine ⟨trivial, rfl, ?_⟩
    have leaving := asking.leaving again
    by_cases sent : pause.flight.isSent = true
    · simp only [Pause.leave, sent, ↓reduceIte]
      refine ⟨leaving.elsewhere, leaving.unleased, leaving.asks, leaving.uncancelled,
        leaving.idle, ?_⟩
      simp [asking.settled, Call.isRedis]
    · simp only [Pause.leave, sent, Bool.false_eq_true, ↓reduceIte]
      exact leaving

/-- What is left to do when the queue loop raises: leave the queue if the last
decision queued the operation, nothing otherwise. -/
def Dropped (arguments : PoolRequest) (failure : Failure) (locals : Locals)
    (situation : Situation backend Stores) : Prop :=
  (locals.poolDecision.map ModelPoolDecision.status = some .queued ∧
      Leaving arguments situation) ∨
    (failure.isInterrupt = false ∧
      locals.poolDecision.map ModelPoolDecision.status ≠ some .queued ∧ Left arguments situation)

theorem waitInQueue_maintains (service : ExternalChatService) (queueDeadline : Int) (bound : Nat)
    (asking : Asking arguments asked situation) (again : 1 ≤ asked)
    (queued : locals.poolDecision.map ModelPoolDecision.status = some .queued) :
    Maintains (queueingSetting leaseMs arguments offset patience) (queueingRules leaseMs arguments)
      (waitInQueue service arguments queueDeadline bound) locals situation
      fun outcome left reached => ∀ failure, outcome = .error failure →
        Dropped arguments failure left reached := by
  have timeout {locals : Locals} {situation : Situation backend Stores} {asked : Nat}
      (asking : Asking arguments asked situation) (again : 1 ≤ asked)
      (queued : locals.poolDecision.map ModelPoolDecision.status = some .queued) :
      Maintains (queueingSetting leaseMs arguments offset patience)
        (queueingRules leaseMs arguments) (raiseQueueTimeout : Action Unit) locals situation
        fun outcome left reached => ∀ failure, outcome = .error failure →
          Dropped arguments failure left reached := by
    apply Maintains.bind
    apply updateHeaders_maintains
    apply raiseExternal_maintains
    exact fun _ _ => Or.inl ⟨queued, asking.leaving again⟩
  induction bound generalizing locals situation asked with
  | zero => exact Maintains.exhausted trivial
  | succ bound inductionHypothesis =>
      apply Maintains.bind
      apply Maintains.observe trivial
      intro now _
      dsimp only
      split
      · exact timeout asking again queued
      · apply Maintains.bind
        refine (queueSleep_maintains asking again).mono ?_
        rintro outcome left reached _ ⟨rfl, slept⟩
        cases outcome with
        | error failure => exact fun _ _ => Or.inl ⟨queued, slept⟩
        | ok _ =>
            apply Maintains.bind
            apply Maintains.observe trivial
            intro woken _
            dsimp only
            split
            · exact timeout slept again queued
            · apply Maintains.bind
              refine (askPool_maintains slept).mono ?_
              intro outcome left reached _ answered
              cases outcome with
              | error failure =>
                  obtain ⟨rfl, unseen⟩ := answered
                  exact fun _ _ => Or.inl ⟨queued, unseen.later again⟩
              | ok decision =>
                  obtain ⟨kept, answered⟩ := answered
                  dsimp only
                  split
                  · exact Maintains.pure trivial (fun _ impossible => by cases impossible)
                  · rename_i unadmitted
                    split
                    · rename_i unqueued
                      apply raiseExternal_maintains
                      rintro failure raised
                      cases raised
                      refine Or.inr ⟨rfl, ?_, answered.refused unadmitted unqueued⟩
                      rw [kept]
                      exact fun same => unqueued (Option.some.inj same)
                    · rename_i notUnqueued
                      have requeued : decision.status = .queued := not_not.mp notUnqueued
                      refine inductionHypothesis (answered.again requeued) (by omega) ?_
                      rw [kept, Option.map_some, requeued]

theorem cancel_maintains (leaving : Leaving arguments situation) :
    Maintains (queueingSetting leaseMs arguments offset patience) (queueingRules leaseMs arguments)
      (await arguments.cancel) locals situation fun _ _ reached => Left arguments reached := by
  refine Maintains.await (CancelPause arguments) trivial trivial (Or.inl ⟨rfl, leaving⟩)
    (fun _ _ _ _ pause loses stirs => pause.stirs loses stirs) (fun _ _ => trivial) ?_ ?_
  · rintro pause answer (⟨sent, _⟩ | ⟨_, left⟩) at_ _
    · rw [sent] at at_
      cases at_
    · exact left
  · rintro pause failure (⟨sent, leaving⟩ | ⟨⟨answer, executed⟩, left⟩) _ _ _
    · refine ⟨trivial, ?_⟩
      simp only [Pause.leave, sent, Flight.isSent, ↓reduceIte]
      exact {
        elsewhere := leaving.elsewhere
        unleased := leaving.unleased
        idle := leaving.idle
        known := by
          intro call member
          rcases List.mem_cons.mp member with rfl | member
          · exact Or.inr (Or.inl rfl)
          · exact (leaving.known call member).imp_right Or.inr
        leaves := Or.inl (List.mem_cons_self ..) }
    · refine ⟨trivial, ?_⟩
      have flown : pause.flight.isSent = false := by
        rw [executed]
        rfl
      simp only [Pause.leave, flown, Bool.false_eq_true, ↓reduceIte]
      exact left

/-- The handlers leave the queue if there is anything to leave. -/
theorem leaveQueue_maintains {service : ExternalChatService} {policy : ModelPoolPolicy}
    {apiClientId operationId : String} {failure : Failure}
    (asks : arguments = poolRequest service policy apiClientId operationId)
    (dropped : Dropped arguments failure locals situation) :
    Maintains (queueingSetting leaseMs arguments offset patience) (queueingRules leaseMs arguments)
      (leaveQueue policy apiClientId operationId failure) locals situation
      fun outcome _ reached => (∃ raised, outcome = .error raised) ∧ Left arguments reached := by
  have cancels : (.cancelQueued policy.poolId apiClientId operationId : Call) =
      arguments.cancel := by
    rw [asks]
    rfl
  have cancel (leaving : Leaving arguments situation) :
      Maintains (queueingSetting leaseMs arguments offset patience)
        (queueingRules leaseMs arguments)
        (do let _ ← await arguments.cancel : Action Unit) locals situation
        fun _ _ reached => Left arguments reached := by
    apply Maintains.bind
    refine (cancel_maintains leaving).mono ?_
    intro outcome left reached _ taken
    cases outcome with
    | ok => exact Maintains.pure trivial taken
    | error => exact taken
  unfold leaveQueue
  rw [cancels]
  dsimp only
  split
  · rename_i interrupt
    have leaving : Leaving arguments situation := by
      rcases dropped with ⟨_, leaving⟩ | ⟨exception, _⟩
      · exact leaving
      · rw [interrupt] at exception
        cases exception
    apply Maintains.bind
    apply Maintains.tryCatch
    refine (cancel leaving).mono ?_
    intro outcome left reached _ taken
    cases outcome with
    | ok => exact Maintains.throw trivial ⟨⟨failure, rfl⟩, taken⟩
    | error raised =>
        dsimp only
        split
        · exact Maintains.pure trivial (Maintains.throw trivial ⟨⟨failure, rfl⟩, taken⟩)
        · exact Maintains.throw trivial ⟨⟨raised, rfl⟩, taken⟩
  · apply Maintains.bind
    apply Maintains.get trivial
    dsimp only
    split
    · rename_i queued
      have leaving : Leaving arguments situation := by
        rcases dropped with ⟨_, leaving⟩ | ⟨_, unqueued, _⟩
        · exact leaving
        · exact (unqueued queued).elim
      apply Maintains.bind
      refine (cancel leaving).mono ?_
      intro outcome left reached _ taken
      cases outcome with
      | ok => exact Maintains.throw trivial ⟨⟨failure, rfl⟩, taken⟩
      | error raised => exact ⟨⟨raised, rfl⟩, taken⟩
    · rename_i unqueued
      rcases dropped with ⟨queued, _⟩ | ⟨_, _, left⟩
      · exact (unqueued queued).elim
      · exact Maintains.throw trivial ⟨⟨failure, rfl⟩, left⟩

/-- From a fresh operation, an acquisition that raises has left the pool. -/
theorem acquireModelPool_maintains {service : ExternalChatService} {policy : ModelPoolPolicy}
    {modelId apiClientId operationId : String}
    (asks : arguments = poolRequest service policy apiClientId operationId)
    (configured : service.modelPoolPolicies.lookup modelId = some policy)
    (asking : Asking arguments 0 situation) :
    Maintains (queueingSetting leaseMs arguments offset patience) (queueingRules leaseMs arguments)
      (acquireModelPool service modelId apiClientId operationId) locals situation
      fun outcome _ reached => ∀ raised, outcome = .error raised → Left arguments reached := by
  unfold acquireModelPool
  rw [configured]
  dsimp only
  rw [← asks]
  apply Maintains.bind
  refine (askPool_maintains asking).mono ?_
  intro outcome left reached _ answered
  cases outcome with
  | error failure => exact fun _ _ => answered.2.first rfl
  | ok decision =>
      obtain ⟨kept, answered⟩ := answered
      dsimp only
      split
      · exact Maintains.pure trivial (fun _ impossible => by cases impossible)
      · rename_i unadmitted
        split
        · rename_i unqueued
          apply raiseExternal_maintains
          exact fun _ _ => answered.refused unadmitted unqueued
        · rename_i notUnqueued
          have queued : decision.status = .queued := not_not.mp notUnqueued
          apply Maintains.bind
          apply Maintains.observe trivial
          intro now _
          dsimp only
          apply Maintains.bind
          apply Maintains.tryCatch
          have waiting : left.poolDecision.map ModelPoolDecision.status = some .queued := by
            rw [kept, Option.map_some, queued]
          refine (waitInQueue_maintains service _ _ (answered.again queued) (by omega)
            waiting).mono ?_
          intro outcome left reached _ dropped
          cases outcome with
          | ok _ => exact Maintains.pure trivial (fun _ impossible => by cases impossible)
          | error failure =>
              refine (leaveQueue_maintains asks (dropped failure rfl)).mono ?_
              rintro outcome left reached _ ⟨⟨raised, rfl⟩, taken⟩
              exact fun _ _ => taken

end Acquisition

/-! ## Failed acquisitions -/

/-- An operation whose identifier has just been drawn: scripts have written the
keys, and nothing in them is the operation's. -/
structure Fresh (operationId : String) (situation : Situation backend Stores) : Prop where
  scripted : ModelPool.Scripted situation.world.pools
  leases : ∀ pool, ¬Held situation.now (situation.world.pools.active pool) operationId
  tickets : ∀ pool, ¬Held situation.now (situation.world.pools.queueExpiry pool) operationId
  log : situation.world.log = []
  idle : situation.task = none
  settled : situation.orphans = []

theorem Fresh.asking {arguments : PoolRequest} {situation : Situation backend Stores}
    (fresh : Fresh arguments.operationId situation) : Asking arguments 0 situation where
  elsewhere := ⟨fresh.scripted.paired, fun pool _ => fresh.leases pool,
    fun pool _ => fresh.tickets pool⟩
  unleased := fresh.leases _
  unticketed _ := fresh.tickets _
  asks := by
    unfold Stores.asks
    rw [fresh.log]
    rfl
  uncancelled := by
    unfold Stores.cancelled
    rw [fresh.log]
    rfl
  idle := fresh.idle
  settled := fresh.settled

/-- The routine ended with an exception. -/
def hasRaised {Result : Type} : Program backend (Except Failure Result × Locals) → Bool
  | .done (.error _, _) => true
  | _ => false

/-- No script of the request is still on its way to Redis. -/
def scriptsSettled (orphans : List Call) : Bool := orphans.all fun call => !call.isRedis

/-- The operation has neither a lease nor a ticket in any pool. -/
def HoldsNothing (operationId : String) (situation : Situation backend Stores) : Prop :=
  ∀ pool, ¬Held situation.now (situation.world.pools.active pool) operationId ∧
    ¬Held situation.now (situation.world.pools.queueExpiry pool) operationId

/-- Once no script is on its way, nothing is held. -/
theorem Left.holdsNothing {arguments : PoolRequest} {situation : Situation backend Stores}
    (left : Left arguments situation) (settled : scriptsSettled situation.orphans = true) :
    HoldsNothing arguments.operationId situation := by
  intro pool
  by_cases own : pool = arguments.poolId
  · subst own
    refine ⟨left.unleased, ?_⟩
    rcases left.leaves with cancels | ⟨unticketed, _⟩
    · have stuck := List.all_eq_true.mp settled _ cancels
      cases stuck
    · exact unticketed
  · exact ⟨left.elsewhere.leases pool own, left.elsewhere.tickets pool own⟩

/-- The policies of a service give the arguments of its admit scripts; a model
without a policy sends none. -/
theorem raised_left (service : ExternalChatService) (leaseMs : Nat) (offset : Int)
    (patience : Option Nat) (modelId apiClientId : String) {operationId : String} (locals : Locals)
    {start : Situation backend Stores} (fresh : Fresh operationId start) :
    ∃ arguments : PoolRequest, arguments.operationId = operationId ∧
      Maintains (leaseSetting leaseMs arguments.operationId offset patience)
        (queueingRules leaseMs arguments) (acquireModelPool service modelId apiClientId operationId)
        locals start fun outcome _ reached =>
          ∀ raised, outcome = .error raised → Left arguments reached := by
  cases configured : service.modelPoolPolicies.lookup modelId with
  | some policy =>
      have freshRequest : Fresh (poolRequest service policy apiClientId operationId).operationId
          start := fresh
      exact ⟨poolRequest service policy apiClientId operationId, rfl,
        acquireModelPool_maintains rfl configured freshRequest.asking⟩
  | none =>
      have freshRequest : Fresh (poolRequest service ⟨"", 1⟩ apiClientId operationId).operationId
          start := fresh
      refine ⟨poolRequest service ⟨"", 1⟩ apiClientId operationId, rfl, ?_⟩
      unfold acquireModelPool
      rw [configured]
      apply raiseExternal_maintains
      intro _ _
      have asking := freshRequest.asking
      exact {
        elsewhere := asking.elsewhere
        unleased := asking.unleased
        idle := asking.idle
        known := by simp [asking.settled]
        leaves := Or.inr ⟨asking.unticketed rfl, by simp [asking.settled]⟩ }

/-- **Failed queueing leaves nothing behind**, in every run within the condition:
once `_acquire_model_pool` has raised and no script of it is on its way, the
operation has neither a lease nor a ticket. -/
theorem failed_queueing_leaves_nothing {service : ExternalChatService} {leaseMs : Nat}
    {offset : Int} {patience : Option Nat} {modelId apiClientId operationId : String}
    {locals : Locals} {start : Situation backend Stores}
    {session : Session backend Stores (Except Failure ModelPoolPolicy × Locals)}
    (fresh : Fresh operationId start)
    (run : Reached (leaseSetting leaseMs operationId offset patience).advance
      (fun session act => LosesNothing leaseMs session.toPause act)
      (start.enter ((acquireModelPool service modelId apiClientId operationId).start locals))
      session)
    (raised : hasRaised session.code = true) (settled : scriptsSettled session.orphans = true) :
    HoldsNothing operationId session.toSituation := by
  obtain ⟨arguments, rfl, maintains⟩ := raised_left service leaseMs offset patience modelId
    apiClientId locals fresh
  obtain ⟨pause, code⟩ := session
  obtain ⟨origin, upholds, suspended⟩ := Sustained.run maintains run
  cases code with
  | done result =>
      obtain ⟨outcome, left⟩ := result
      cases outcome with
      | ok policy => cases raised
      | error failure =>
          refine Left.holdsNothing ?_ settled
          exact Stirred.invariant (fun pause => Left arguments pause.toSituation)
            (upholds.2 failure rfl) (fun _ _ _ left loses stirs => left.stirs loses stirs) suspended
  | _ => cases raised

/-! ### A lease behind a lost reply -/

/-- One pool with room for one request. -/
def queueingService : ExternalChatService := sampleService

def queueingRequest : PoolRequest := poolRequest queueingService ⟨"pool", 1⟩ "client" "operation"

def emptyStores : Stores := ⟨fun _ => .empty, .empty, [], false⟩

def emptySituation : Situation backend Stores := ⟨1000, emptyStores, none, []⟩

/-- The acquisition of the sample request. -/
def queueingSession : Program backend (Except Failure ModelPoolPolicy × Locals) :=
  (acquireModelPool queueingService "model" "client" "operation").start .initial

/-- The cancel script is never lost. -/
def ReachesCancel (_ : Session backend Stores (Except Failure ModelPoolPolicy × Locals)) :
    Act backend (Interference 30000 "operation") → Prop
  | .drops _ call => call.isCancel = false
  | _ => True

instance (session : Session backend Stores (Except Failure ModelPoolPolicy × Locals))
    (act : Act backend (Interference 30000 "operation")) :
    Decidable (ReachesCancel session act) :=
  match act with
  | .drops _ call => inferInstanceAs (Decidable (call.isCancel = false))
  | .observes _ | .sends _ | .performs _ _ | .spawns _ | .joins _ | .expires _ | .abandons _ _
  | .emits _ | .interrupts _ _ | .resumes _ | .throws _ _ | .executes _ _ | .finishes _ _
  | .changes _ | .elapses _ | .replies _ | .fails _ _ | .late _ _ _ => .isTrue trivial

/-- The admit script takes effect and its reply is lost. -/
def lostReply : List (Act backend (Interference 30000 "operation")) :=
  [.sends (.admitOrEnqueue queueingRequest), .executes (.admitOrEnqueue queueingRequest) none,
    .fails (.admitOrEnqueue queueingRequest) .controlPlaneUnavailable]

theorem not_held_empty (now : Nat) (member : String) :
    ¬Held now (SortedSetKey.empty : SortedSetKey String) member :=
  not_held_of_absent rfl

theorem not_held_update {keys : String → SortedSetKey String} {key : SortedSetKey String}
    {now : Nat} {pool other member : String} (own : ¬Held now key member)
    (others : ∀ another, ¬Held now (keys another) member) :
    ¬Held now (Function.update keys pool key other) member := by
  by_cases same : other = pool
  · subst same
    rwa [Function.update_self]
  · rw [Function.update_of_ne same]
    exact others other

theorem emptySituation_fresh : Fresh "operation" emptySituation where
  scripted := .empty
  leases _ := not_held_empty _ _
  tickets _ := not_held_empty _ _
  log := rfl
  idle := rfl
  settled := rfl

/-- Outside the condition: the script granted a lease and its reply was lost. -/
theorem lost_reply_leaves_lease :
    Fresh "operation" emptySituation ∧
    ∃ session : Session backend Stores (Except Failure ModelPoolPolicy × Locals),
      Reached (leaseSetting 30000 "operation" 0 none).advance ReachesCancel
        (emptySituation.enter queueingSession) session ∧
      hasRaised session.code = true ∧ scriptsSettled session.orphans = true ∧
      ¬HoldsNothing "operation" session.toSituation := by
  have replayed : ((replay (leaseSetting 30000 "operation" 0 none).advance ReachesCancel
      (emptySituation.enter queueingSession) lostReply).any fun session =>
        hasRaised session.code = true ∧ scriptsSettled session.orphans = true ∧
          Held session.now (session.world.pools.active "pool") "operation") = true := by
    decide
  obtain ⟨session, run, raised, settled, held⟩ :=
    Reached.of_replay _ ReachesCancel _ lostReply _ replayed
  exact ⟨emptySituation_fresh, session, run, raised, settled, fun nothing =>
    (nothing "pool").1 held⟩

/-! ### A run within the condition -/

/-- The limits another caller of the pool uses. -/
def otherConfiguration : ModelPool.PoolConfiguration String String String where
  leaseSeconds := 30
  queueWaitSeconds := 30
  activeLimit _ := 1
  queueLimit := 4
  callerQueueLimit := 2
  poolOf _ := "pool"
  callerOf _ := "other client"
  observer := "observer"
  leaseBounds := by decide
  queueWaitBounds := by decide
  activeLimitBounds _ := by decide
  queueLimitBound := by decide
  callerQueueLimitBound := by decide
  callerQueueEnabled := by decide

/-- The pool is taken by another operation. -/
def takenSituation : Situation backend Stores where
  now := 1000
  world := { emptyStores with
    pools := ((ModelPool.PoolCommand.admitOrEnqueue "other").execute otherConfiguration 1000
      .empty).1 }
  task := none
  orphans := []

theorem takenSituation_fresh : Fresh "operation" takenSituation where
  scripted := .execute _ _ _ .empty
  leases _ := not_held_update (by decide) fun _ => not_held_empty _ _
  tickets _ := not_held_update (by decide) fun _ => not_held_empty _ _
  log := rfl
  idle := rfl
  settled := rfl

/-- Queued, then cancelled while it sleeps; the cancel script takes the ticket back. -/
def cancelledInQueue : List (Act backend (Interference 30000 "operation")) :=
  [.sends (.admitOrEnqueue queueingRequest), .executes (.admitOrEnqueue queueingRequest) none,
    .replies (.admitOrEnqueue queueingRequest), .observes 1000, .observes 1000,
    .sends (.queueSleep 100), .fails (.queueSleep 100) .cancelled, .sends queueingRequest.cancel,
    .executes queueingRequest.cancel none, .replies queueingRequest.cancel]

theorem failed_queueing_leaves_nothing_cancelled :
    ∃ session : Session backend Stores (Except Failure ModelPoolPolicy × Locals),
      hasRaised session.code = true ∧ HoldsNothing "operation" session.toSituation := by
  have replayed : ((replay (leaseSetting 30000 "operation" 0 none).advance
      (fun session act => LosesNothing 30000 session.toPause act)
      (takenSituation.enter queueingSession) cancelledInQueue).any fun session =>
        hasRaised session.code = true ∧ scriptsSettled session.orphans = true) = true := by
    decide
  obtain ⟨session, run, raised, settled⟩ :=
    Reached.of_replay (leaseSetting 30000 "operation" 0 none).advance _ _ cancelledInQueue _
      replayed
  exact ⟨session, raised, failed_queueing_leaves_nothing takenSituation_fresh run raised settled⟩

end Zangpu.Services.Chat
