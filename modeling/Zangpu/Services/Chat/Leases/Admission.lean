import Zangpu.Services.Chat.Leases.Keeping

/-!
How a request comes by its leases.

Owns: the proof that an admitted request holds both leases, with its timer armed in
time for them; and the routines that `execute` and `prepare_stream` run under the
guard before they call the provider.

Does not own: what a failed admission leaves behind.
-/

set_option autoImplicit false

namespace Zangpu.Services.Chat

open Zangpu.Foundation
open Zangpu.Limits
open Zangpu.Limits.Concurrency

/-! ## Without leases -/

/-- An operation whose identifier has just been drawn, also for the leases of callers. -/
structure Drawn (operationId : String) (situation : Situation backend Stores) : Prop
    extends Fresh operationId situation where
  callers : ∀ client, ¬Held situation.now (situation.world.concurrency client) operationId

/-- The guard of an admitted request. -/
def PoolRequest.lease (arguments : PoolRequest) : ConcurrencyLeaseGuard where
  modelPoolId := arguments.poolId
  apiClientId := arguments.apiClientId
  operationId := arguments.operationId

/-- Before the model pool admits the request. -/
structure Seeking (arguments : PoolRequest) (situation : Situation backend Stores) : Prop where
  elsewhere : Elsewhere arguments situation.now situation.world
  unleased : ¬Leased arguments situation.now situation.world
  unheld : ¬Held situation.now (situation.world.concurrency arguments.apiClientId)
    arguments.operationId
  idle : situation.task = none
  settled : situation.orphans = []
  unlost : situation.world.lost = false

theorem Drawn.seeking {arguments : PoolRequest} {situation : Situation backend Stores}
    (drawn : Drawn arguments.operationId situation) : Seeking arguments situation where
  elsewhere := drawn.asking.elsewhere
  unleased := drawn.leases _
  unheld := drawn.callers _
  idle := drawn.idle
  settled := drawn.settled
  unlost := by
    rw [Stores.lost, drawn.log]
    rfl

/-- Between the admission to the pool and the concurrency lease. The pool was asked
at a time within the patience of one call. -/
structure Pooled (arguments : PoolRequest) (leaseMs asked : Nat)
    (situation : Situation backend Stores) : Prop where
  kept : arguments.lease.Kept leaseMs .modelPool (asked + leaseMs) situation.now situation.world
  unheld : ¬Held situation.now (situation.world.concurrency arguments.apiClientId)
    arguments.operationId
  idle : situation.task = none
  settled : situation.orphans = []
  unlost : situation.world.lost = false

section Steady

variable {arguments : PoolRequest} {leaseMs asked : Nat}

theorem spares_lost {now : Nat} {operationId : String} {stores after : Stores}
    (spares : Spares leaseMs now operationId stores after) : after.lost = stores.lost := by
  unfold Stores.lost
  rw [spares.log]

theorem seeking_steady (leaseMs : Nat) :
    Steady leaseMs arguments.operationId (Seeking arguments) where
  changes _ _ seeking spares := {
    elsewhere := seeking.elsewhere.spared spares
    unleased := fun held => seeking.unleased ((spares.active _).none_given held)
    unheld := fun held => seeking.unheld ((spares.concurrency _).none_given held)
    idle := seeking.idle
    settled := seeking.settled
    unlost := (spares_lost spares).trans seeking.unlost }
  elapses _ _ seeking := {
    elsewhere := seeking.elsewhere.later (Nat.le_add_right _ _)
    unleased := fun held => seeking.unleased (held.earlier (Nat.le_add_right _ _))
    unheld := fun held => seeking.unheld (held.earlier (Nat.le_add_right _ _))
    idle := seeking.idle
    settled := seeking.settled
    unlost := seeking.unlost }

theorem pooled_steady :
    Steady leaseMs arguments.operationId (Pooled arguments leaseMs asked) where
  changes _ _ pooled spares := {
    kept := kept_spared pooled.kept spares
    unheld := fun held => pooled.unheld ((spares.concurrency _).none_given held)
    idle := pooled.idle
    settled := pooled.settled
    unlost := (spares_lost spares).trans pooled.unlost }
  elapses _ _ pooled := {
    kept := kept_later pooled.kept (Nat.le_add_right _ _)
    unheld := fun held => pooled.unheld (held.earlier (Nat.le_add_right _ _))
    idle := pooled.idle
    settled := pooled.settled
    unlost := pooled.unlost }

/-- Beside the awaited call, an assertion without calls under way is kept. -/
theorem Steady.idles {operationId : String} {assertion : Situation backend Stores → Prop}
    {offset : Int} {patience : Option Nat} {waiting : Waiting backend}
    {before after : Pause backend Stores} {act : Act backend (Interference leaseMs operationId)}
    (steady : Steady leaseMs operationId assertion) (holds : assertion before.toSituation)
    (idle : before.task = none) (settled : before.orphans = [])
    (beside : act.isExecution = false)
    (stirs : Stirs (leaseSetting leaseMs operationId offset patience) waiting before act after) :
    assertion after.toSituation ∧ before.now ≤ after.now ∧ after.flight = before.flight := by
  cases stirs with
  | executes => cases beside
  | finishes running => cases idle.symm.trans running
  | late found | drops found =>
      rw [settled] at found
      cases found
  | changes change =>
      exact ⟨steady.changes _ _ holds (change.spares _ _), Nat.le_refl _, rfl⟩
  | elapses => exact ⟨steady.elapses _ _ holds, Nat.le_add_right _ _, rfl⟩

end Steady

/-! ## Idle routines -/

section Idle

variable {service : ExternalChatService} {settings : LeaseSettings service}
  {lease : ConcurrencyLeaseGuard} {offset : Int} {covered : Situation backend Stores → Prop}
  {assumes : Pause backend Stores →
    Act backend (Interference settings.leaseMs lease.operationId) → Prop}
  {locals : Locals} {situation : Situation backend Stores} {First Second : Type}

/-- Calls the request awaits by itself, and no data frame. -/
def quietly : Manners backend where
  sends _ := True
  spawns _ := False
  emits frame := ∀ bytes, frame ≠ .data bytes

theorem quietly_tolerated :
    Tolerates (guardSetting settings lease offset) (leaseRules covered assumes) quietly
      fun reached => reached.task = none where
  always _ idle := always_of_idle idle
  sends _ _ _ _ := trivial
  spawns _ _ _ never := never.elim
  joins _ _ _ never := never.elim
  emits _ frame _ dataless := by
    cases frame with
    | data bytes => exact absurd rfl (dataless bytes)
    | opened | heartbeat | done | error => trivial
  stirs waiting before after act _ idle _ stirs := by
    cases stirs with
    | finishes running => cases idle.symm.trans running
    | executes | late | drops | changes | elapses => exact idle
  leaves _ _ idle _ := idle
  starts _ _ _ never := never.elim
  takes _ _ := rfl
  drops _ _ := rfl

/-- No call is in flight afterwards, and a result is as stated. -/
def Idly {Result : Type} (goal : Result → Locals → Situation backend Stores → Prop)
    (outcome : Except Failure Result) (left : Locals) (reached : Situation backend Stores) : Prop :=
  reached.task = none ∧ ∀ value, outcome = .ok value → goal value left reached

/-- The routine raises without a call in flight. -/
def Raises (settings : LeaseSettings service) (lease : ConcurrencyLeaseGuard) (offset : Int)
    (covered : Situation backend Stores → Prop)
    (assumes : Pause backend Stores →
      Act backend (Interference settings.leaseMs lease.operationId) → Prop)
    {Result : Type} (routine : Action Result) : Prop :=
  ∀ locals situation, situation.task = none →
    Maintains (guardSetting settings lease offset) (leaseRules covered assumes) routine locals
      situation (Idly fun _ _ _ => False)

theorem Raises.throw (failure : Failure) :
    Raises settings lease offset covered assumes (MonadExcept.throw failure : Action First) :=
  fun _ _ idle => Maintains.throw (always_of_idle idle) ⟨idle, nofun⟩

theorem Raises.after {routine : Action First} {rest : First → Action Second}
    (mannered : Mannered quietly routine)
    (raises : ∀ value, Raises settings lease offset covered assumes (rest value)) :
    Raises settings lease offset covered assumes (routine >>= rest) := by
  intro locals situation idle
  apply Maintains.bind
  refine Maintains.mono (quietly_tolerated.maintains mannered idle) ?_
  intro outcome left reached _ idleReached
  cases outcome with
  | ok value => exact raises value left reached idleReached
  | error failure => exact ⟨idleReached, nofun⟩

theorem raiseExternal_raises (code : Api.ErrorCode) (operationId : Option String) :
    Raises settings lease offset covered assumes (raiseExternal code operationId : Action First) :=
  Raises.after Mannered.get fun _ => Raises.throw _

theorem Raises.idly {routine : Action First}
    {goal : First → Locals → Situation backend Stores → Prop}
    (raises : Raises settings lease offset covered assumes routine) (idle : situation.task = none) :
    Maintains (guardSetting settings lease offset) (leaseRules covered assumes) routine locals
      situation (Idly goal) :=
  Maintains.mono (raises locals situation idle) fun _ _ _ _ reached =>
    ⟨reached.1, fun value same => (reached.2 value same).elim⟩

theorem Idly.bind {routine : Action First} {rest : First → Action Second}
    {goal : First → Locals → Situation backend Stores → Prop}
    {next : Second → Locals → Situation backend Stores → Prop}
    (maintains : Maintains (guardSetting settings lease offset) (leaseRules covered assumes)
      routine locals situation (Idly goal))
    (continues : ∀ value left reached, reached.task = none → goal value left reached →
      Maintains (guardSetting settings lease offset) (leaseRules covered assumes) (rest value)
        left reached (Idly next)) :
    Maintains (guardSetting settings lease offset) (leaseRules covered assumes)
      (routine >>= rest) locals situation (Idly next) := by
  apply Maintains.bind
  refine Maintains.mono maintains ?_
  rintro outcome left reached _ ⟨idle, met⟩
  cases outcome with
  | ok value => exact continues value left reached idle (met value rfl)
  | error failure => exact ⟨idle, nofun⟩

theorem Idly.tryCatch {routine : Action First} {handler : Failure → Action First}
    {goal : First → Locals → Situation backend Stores → Prop}
    (maintains : Maintains (guardSetting settings lease offset) (leaseRules covered assumes)
      routine locals situation (Idly goal))
    (raises : ∀ failure, Raises settings lease offset covered assumes (handler failure)) :
    Maintains (guardSetting settings lease offset) (leaseRules covered assumes)
      (MonadExcept.tryCatch routine handler) locals situation (Idly goal) := by
  apply Maintains.tryCatch
  refine Maintains.mono maintains ?_
  rintro outcome left reached _ ⟨idle, met⟩
  cases outcome with
  | ok value => exact ⟨idle, met⟩
  | error failure => exact (raises failure).idly idle

theorem Idly.pure {value : First} {goal : First → Locals → Situation backend Stores → Prop}
    (idle : situation.task = none) (met : goal value locals situation) :
    Maintains (guardSetting settings lease offset) (leaseRules covered assumes)
      (Pure.pure value : Action First) locals situation (Idly goal) :=
  Maintains.pure (always_of_idle idle) ⟨idle, by rintro _ ⟨⟩; exact met⟩

theorem Idly.observe {clock : Clock} {goal : Int → Locals → Situation backend Stores → Prop}
    (idle : situation.task = none) (met : ∀ reading, goal reading locals situation) :
    Maintains (guardSetting settings lease offset) (leaseRules covered assumes)
      (Routine.observe clock : Action Int) locals situation (Idly goal) :=
  Maintains.observe (always_of_idle idle) fun reading _ =>
    ⟨idle, by rintro _ ⟨⟩; exact met reading⟩

theorem Idly.modify {change : Locals → Locals}
    {goal : Unit → Locals → Situation backend Stores → Prop}
    (idle : situation.task = none) (met : goal () (change locals) situation) :
    Maintains (guardSetting settings lease offset) (leaseRules covered assumes)
      (modify change : Action Unit) locals situation (Idly goal) :=
  Maintains.modify (always_of_idle idle) ⟨idle, by rintro _ ⟨⟩; exact met⟩

end Idle

/-! ## Awaiting a call -/

/-- Neither a call of the child task nor one left behind is under way. -/
def Rested (situation : Situation backend Stores) : Prop :=
  situation.task = none ∧ situation.orphans = []

theorem rested_steady (leaseMs : Nat) (operationId : String) :
    Steady leaseMs operationId Rested where
  changes _ _ rested _ := rested
  elapses _ _ rested := rested

section Awaits

variable {service : ExternalChatService} {settings : LeaseSettings service}
  {lease : ConcurrencyLeaseGuard} {offset : Int} {covered : Situation backend Stores → Prop}
  {assumes : Pause backend Stores →
    Act backend (Interference settings.leaseMs lease.operationId) → Prop}
  {locals : Locals} {situation : Situation backend Stores} {call : Call}
  {asserted : Situation backend Stores → Prop}
  {answered : Except Failure call.Answer → Situation backend Stores → Prop}

/-- While a call of the request is on its way, from its beginning. -/
structure Underway (settings : LeaseSettings service) (call : Call)
    (asserted : Situation backend Stores → Prop)
    (answered : Except Failure call.Answer → Situation backend Stores → Prop)
    (start : Situation backend Stores) (pause : Pause backend Stores) : Prop where
  passes : start.now ≤ pause.now
  soon : call.isRedis = true → pause.now ≤ start.now + settings.patience
  rested : Rested pause.toSituation
  flown : (pause.flight = .sent ∧ asserted pause.toSituation) ∨
    ∃ answer, pause.flight = .executed call answer ∧ answered answer pause.toSituation

theorem Underway.idles {before after : Pause backend Stores}
    {act : Act backend (Interference settings.leaseMs lease.operationId)}
    (steady : Steady settings.leaseMs lease.operationId asserted)
    (steadyAnswered : ∀ answer, Steady settings.leaseMs lease.operationId (answered answer))
    (underway : Underway settings call asserted answered situation before)
    (beside : act.isExecution = false)
    (soon : call.isRedis = true → after.now ≤ situation.now + settings.patience)
    (stirs : Stirs (guardSetting settings lease offset) (.call call) before act after) :
    Underway settings call asserted answered situation after := by
  obtain ⟨rested, passes, flight⟩ := (rested_steady settings.leaseMs lease.operationId).idles
    underway.rested underway.rested.1 underway.rested.2 beside stirs
  refine ⟨underway.passes.trans passes, soon, rested, ?_⟩
  rw [flight]
  refine underway.flown.imp (fun ⟨sent, holds⟩ => ⟨sent, ?_⟩)
    fun ⟨answer, executed, holds⟩ => ⟨answer, executed, ?_⟩
  · exact (steady.idles holds underway.rested.1 underway.rested.2 beside stirs).1
  · exact ((steadyAnswered answer).idles holds underway.rested.1 underway.rested.2 beside stirs).1

theorem Underway.stirs {before after : Pause backend Stores}
    {act : Act backend (Interference settings.leaseMs lease.operationId)}
    (steady : Steady settings.leaseMs lease.operationId asserted)
    (steadyAnswered : ∀ answer, Steady settings.leaseMs lease.operationId (answered answer))
    (executes : ∀ (reached : Situation backend Stores) world answer choice, asserted reached →
      situation.now ≤ reached.now →
        reached.world.serve settings.leaseMs reached.now call choice = some (world, answer) →
          answered answer (reached.withWorld world))
    (underway : Underway settings call asserted answered situation before)
    (since : before.since = situation.now)
    (stirs : Stirs (guardSetting settings lease offset) (.call call) before act after) :
    Underway settings call asserted answered situation after := by
  have whole := stirs
  cases stirs with
  | executes awaits sent served =>
      cases awaits
      refine ⟨underway.passes, underway.soon, underway.rested, Or.inr ⟨_, rfl, ?_⟩⟩
      rcases underway.flown with ⟨_, holds⟩ | ⟨_, flown, _⟩
      · exact executes _ _ _ _ holds underway.passes (serve_of_setting served)
      · rw [flown] at sent
        cases sent
  | finishes | late | drops | changes =>
      exact underway.idles steady steadyAnswered rfl underway.soon whole
  | elapses lets =>
      refine underway.idles steady steadyAnswered rfl (fun redis => ?_) whole
      have bound : (guardSetting settings lease offset).patience call = some settings.patience :=
        if_pos redis
      simp only [Setting.lets, bound, decide_eq_true_eq, since] at lets
      exact lets

/-- Awaiting a call from an assertion that others keep to one that others keep. -/
theorem await_steady (steady : Steady settings.leaseMs lease.operationId asserted)
    (steadyAnswered : ∀ answer, Steady settings.leaseMs lease.operationId (answered answer))
    (executes : ∀ (reached : Situation backend Stores) world answer choice, asserted reached →
      situation.now ≤ reached.now →
        reached.world.serve settings.leaseMs reached.now call choice = some (world, answer) →
          answered answer (reached.withWorld world))
    (rested : Rested situation) (holds : asserted situation) :
    Maintains (guardSetting settings lease offset) (leaseRules covered assumes) (await call)
      locals situation (Idly fun value left reached =>
        left = locals ∧ situation.now ≤ reached.now ∧
          (call.isRedis = true → reached.now ≤ situation.now + settings.patience) ∧
          answered (.ok value) reached) := by
  refine Maintains.await (Underway settings call asserted answered situation)
    (always_of_idle rested.1) trivial
    ⟨Nat.le_refl _, fun _ => Nat.le_add_right _ _, rested, Or.inl ⟨rfl, holds⟩⟩
    (fun _ _ _ since underway _ stirs =>
      underway.stirs steady steadyAnswered executes since stirs)
    (fun _ underway => always_of_idle underway.rested.1) ?_ ?_
  · intro pause answer underway executed _
    refine ⟨underway.rested.1, ?_⟩
    rintro value rfl
    rcases underway.flown with ⟨sent, _⟩ | ⟨other, executed_, met⟩
    · rw [sent] at executed
      cases executed
    · rw [executed_] at executed
      cases executed
      exact ⟨rfl, underway.passes, underway.soon, met⟩
  · intro pause failure underway _ _ _
    have idle : (pause.leave call).task = none := by
      rw [task_leave]
      exact underway.rested.1
    exact ⟨always_of_idle idle, idle, nofun⟩

end Awaits

/-! ## The model pool -/

section Pool

variable {arguments : PoolRequest} {leaseMs now asked : Nat} {stores after : Stores}

theorem Seeking.rested {situation : Situation backend Stores}
    (seeking : Seeking arguments situation) : Rested situation := ⟨seeking.idle, seeking.settled⟩

theorem Pooled.rested {situation : Situation backend Stores}
    (pooled : Pooled arguments leaseMs asked situation) : Rested situation :=
  ⟨pooled.idle, pooled.settled⟩

theorem admitted_concurrency :
    (stores.admitted leaseMs now arguments).concurrency = stores.concurrency := by
  unfold Stores.admitted
  split <;> rfl

theorem admitted_lost : (stores.admitted leaseMs now arguments).lost = stores.lost := by
  unfold Stores.lost
  rw [admitted_log]

/-- A decision to admit leaves the pool lease, any other leaves the request without. -/
def Answered (arguments : PoolRequest) (leaseMs asked : Nat)
    (answer : Except Failure ModelPoolDecision) (situation : Situation backend Stores) : Prop :=
  Rested situation ∧ ∀ decision, answer = .ok decision →
    (decision.status = .admitted → Pooled arguments leaseMs asked situation) ∧
      (decision.status ≠ .admitted → Seeking arguments situation)

theorem answered_steady (answer : Except Failure ModelPoolDecision) :
    Steady leaseMs arguments.operationId (Answered arguments leaseMs asked answer) where
  changes situation world answered spares := by
    refine ⟨answered.1, fun decision accepted => ?_⟩
    obtain ⟨admitted, refused⟩ := answered.2 decision accepted
    exact ⟨fun status => pooled_steady.changes _ _ (admitted status) spares,
      fun status => (seeking_steady leaseMs).changes _ _ (refused status) spares⟩
  elapses situation duration answered := by
    refine ⟨answered.1, fun decision accepted => ?_⟩
    obtain ⟨admitted, refused⟩ := answered.2 decision accepted
    exact ⟨fun status => pooled_steady.elapses _ _ (admitted status),
      fun status => (seeking_steady leaseMs).elapses _ _ (refused status)⟩

/-- The admit script. -/
theorem Seeking.answered {situation : Situation backend Stores}
    {choice : Option (Except Failure ModelPoolDecision)}
    {answer : Except Failure ModelPoolDecision} (seeking : Seeking arguments situation)
    (before : asked ≤ situation.now)
    (served : situation.world.serve leaseMs situation.now (.admitOrEnqueue arguments) choice =
      some (after, answer)) :
    Answered arguments leaseMs asked answer (situation.withWorld after) := by
  refine ⟨seeking.rested, ?_⟩
  rintro decision rfl
  obtain ⟨decided, leased⟩ := decided_of_serve seeking.elsewhere seeking.unleased served
  obtain ⟨rfl, -⟩ := serve_admit served
  have unlost : (situation.world.admitted leaseMs situation.now arguments).lost = false :=
    admitted_lost.trans seeking.unlost
  have unheld : ¬Held situation.now ((situation.world.admitted leaseMs situation.now
      arguments).concurrency arguments.apiClientId) arguments.operationId := by
    rw [admitted_concurrency]
    exact seeking.unheld
  refine ⟨fun admitted => ?_, fun refused => ?_⟩
  · exact {
      kept := fun _ => Or.inr ⟨situation.now + leaseMs, leased admitted,
        Nat.add_le_add_right before leaseMs, Nat.le_refl _⟩
      unheld := unheld
      idle := seeking.idle
      settled := seeking.settled
      unlost := (lost_record rfl).trans unlost }
  · exact {
      elsewhere := seeking.elsewhere.admitted.record
      unleased := by
        rcases decided with admitted | ⟨_, unleased⟩ | ⟨_, unleased, _⟩
        · exact (refused admitted).elim
        · exact unleased
        · exact unleased
      unheld := unheld
      idle := seeking.idle
      settled := seeking.settled
      unlost := (lost_record rfl).trans unlost }

end Pool

section Acquisition

variable {service : ExternalChatService} {settings : LeaseSettings service}
  {arguments : PoolRequest} {offset : Int} {covered : Situation backend Stores → Prop}
  {assumes : Pause backend Stores →
    Act backend (Interference settings.leaseMs arguments.lease.operationId) → Prop}
  {locals : Locals} {situation : Situation backend Stores}

/-- Admitted to the pool by a call that began at most its patience ago. -/
def Entered (settings : LeaseSettings service) (arguments : PoolRequest)
    (situation : Situation backend Stores) : Prop :=
  ∃ asked, Pooled arguments settings.leaseMs asked situation ∧ asked ≤ situation.now ∧
    situation.now ≤ asked + settings.patience

/-- A call without a script changes nothing. -/
theorem await_seeking {call : Call} (unscripted : call.isScripted = false)
    (seeking : Seeking arguments situation) :
    Maintains (guardSetting settings arguments.lease offset) (leaseRules covered assumes)
      (await call) locals situation (Idly fun _ _ reached => Seeking arguments reached) := by
  refine Maintains.mono (@await_steady _ _ _ _ _ _ _ _ call (Seeking arguments)
    (fun _ => Seeking arguments) (seeking_steady _) (fun _ => seeking_steady _) ?_ seeking.rested
    seeking) ?_
  · intro reached world answer choice seeking _ served
    obtain rfl := serve_unscripted unscripted served
    exact {
      elsewhere := seeking.elsewhere.record
      unleased := seeking.unleased
      unheld := seeking.unheld
      idle := seeking.idle
      settled := seeking.settled
      unlost := (lost_record (isLoss_unscripted unscripted)).trans seeking.unlost }
  · intro outcome left reached _ ⟨idle, met⟩
    exact ⟨idle, fun value same => (met value same).2.2.2⟩

theorem askPool_idly (seeking : Seeking arguments situation) :
    Maintains (guardSetting settings arguments.lease offset) (leaseRules covered assumes)
      (askPool arguments) locals situation (Idly fun decision _ reached =>
        (decision.status = .admitted → Entered settings arguments reached) ∧
          (decision.status ≠ .admitted → Seeking arguments reached)) := by
  refine Idly.bind (@await_steady _ _ _ _ _ _ _ _ (.admitOrEnqueue arguments) (Seeking arguments)
    (Answered arguments settings.leaseMs situation.now) (seeking_steady _)
    (fun answer => answered_steady answer) ?_ seeking.rested seeking) ?_
  · intro reached world answer choice seeking before served
    exact seeking.answered before served
  · intro decision left reached idle ⟨_, passes, soon, answered⟩
    obtain ⟨admitted, refused⟩ := answered.2 decision rfl
    apply Maintains.bind
    apply Maintains.modify (always_of_idle idle)
    apply Maintains.bind
    apply Maintains.modify (always_of_idle idle)
    refine Idly.pure idle ⟨fun status => ?_, refused⟩
    exact ⟨situation.now, admitted status, passes, soon rfl⟩

theorem raiseQueueTimeout_raises {First : Type} :
    Raises settings arguments.lease offset covered assumes (raiseQueueTimeout : Action First) :=
  Raises.after (Mannered.modify _) fun _ => raiseExternal_raises _ _

theorem waitInQueue_idly (queueDeadline : Int) (bound : Nat)
    (seeking : Seeking arguments situation) :
    Maintains (guardSetting settings arguments.lease offset) (leaseRules covered assumes)
      (waitInQueue service arguments queueDeadline bound) locals situation
      (Idly fun _ _ reached => Entered settings arguments reached) := by
  induction bound generalizing locals situation with
  | zero => exact Maintains.exhausted (always_of_idle seeking.idle)
  | succ bound inductionHypothesis =>
      apply Maintains.bind
      apply Maintains.observe (always_of_idle seeking.idle)
      intro now _
      dsimp only
      split
      · exact raiseQueueTimeout_raises.idly seeking.idle
      · refine Idly.bind (await_seeking rfl seeking) fun _ left reached _ seeking => ?_
        apply Maintains.bind
        apply Maintains.observe (always_of_idle seeking.idle)
        intro woken _
        dsimp only
        split
        · exact raiseQueueTimeout_raises.idly seeking.idle
        · refine Idly.bind (askPool_idly seeking) fun decision left reached idle met => ?_
          obtain ⟨admitted, refused⟩ := met
          split
          · rename_i status
            exact Idly.pure idle (admitted status)
          · rename_i status
            split
            · exact (raiseExternal_raises _ _).idly idle
            · exact inductionHypothesis (refused status)

theorem leaveQueue_raises (policy : ModelPoolPolicy) (apiClientId operationId : String)
    (failure : Failure) :
    Raises settings arguments.lease offset covered assumes
      (leaveQueue policy apiClientId operationId failure) := by
  have cancel : Mannered quietly
      (do let _ ← await (.cancelQueued policy.poolId apiClientId operationId) : Action Unit) :=
    Mannered.bind (Mannered.await trivial) fun _ => Mannered.pure ()
  unfold leaveQueue
  dsimp only
  split
  · refine Raises.after (Mannered.tryCatch cancel fun suppressed => ?_) fun _ => Raises.throw _
    split
    · exact Mannered.pure ()
    · exact Mannered.throw _
  · refine Raises.after Mannered.get fun locals => ?_
    split
    · exact Raises.after cancel fun _ => Raises.throw _
    · exact Raises.throw _

theorem acquireModelPool_idly {modelId apiClientId operationId : String}
    (asks : ∀ policy, service.modelPoolPolicies.lookup modelId = some policy →
      arguments = poolRequest service policy apiClientId operationId)
    (seeking : Seeking arguments situation) :
    Maintains (guardSetting settings arguments.lease offset) (leaseRules covered assumes)
      (acquireModelPool service modelId apiClientId operationId) locals situation
      (Idly fun policy _ reached => service.modelPoolPolicies.lookup modelId = some policy ∧
        Entered settings arguments reached) := by
  unfold acquireModelPool
  cases configured : service.modelPoolPolicies.lookup modelId with
  | none => exact (raiseExternal_raises _ _).idly seeking.idle
  | some policy =>
      dsimp only
      rw [← asks policy configured]
      refine Idly.bind (askPool_idly seeking) fun decision left reached idle met => ?_
      obtain ⟨admitted, refused⟩ := met
      split
      · rename_i status
        exact Idly.pure idle ⟨rfl, admitted status⟩
      · rename_i status
        split
        · exact (raiseExternal_raises _ _).idly idle
        · apply Maintains.bind
          apply Maintains.observe (always_of_idle idle)
          intro now _
          dsimp only
          refine Idly.bind (Idly.tryCatch (waitInQueue_idly _ _ (refused status))
            fun failure => leaveQueue_raises policy apiClientId operationId failure) ?_
          exact fun _ left reached idle entered => Idly.pure idle ⟨rfl, entered⟩

end Acquisition

end Zangpu.Services.Chat
