import Zangpu.Foundation.Manners
import Zangpu.Services.Chat.Leases.Queueing

/-!
How a request keeps its leases.

Owns: the two leases of an operation and until when each is kept; what a heartbeat
does to them; the rules for calls and frames that need the leases; and the proof
that the guard of `_ConcurrencyLeaseGuard.run` renews both leases in time while it
waits for a call, and starts nothing once a heartbeat has found one lost.

Does not own: admission, which takes the leases, and the routines under the guard.
-/

set_option autoImplicit false

namespace Zangpu.Services.Chat

open Zangpu.Foundation
open Zangpu.Limits
open Zangpu.Limits.Concurrency

/-! ## The leases of an operation -/

inductive LeaseKind where
  | concurrency
  | modelPool
  deriving DecidableEq

namespace ConcurrencyLeaseGuard

def key (lease : ConcurrencyLeaseGuard) : LeaseKind → Stores → SortedSetKey String
  | .concurrency, stores => stores.concurrency lease.apiClientId
  | .modelPool, stores => stores.pools.active lease.modelPoolId

def heartbeatCall (lease : ConcurrencyLeaseGuard) : LeaseKind → Call
  | .concurrency => .heartbeatConcurrency lease.apiClientId lease.operationId
  | .modelPool => .heartbeatPool lease.modelPoolId lease.operationId

/-- Both leases are unexpired. -/
def Unexpired (lease : ConcurrencyLeaseGuard) (now : Nat) (stores : Stores) : Prop :=
  ∀ kind, Held now (lease.key kind stores) lease.operationId

end ConcurrencyLeaseGuard

/-- A heartbeat that found its lease lost. -/
def Served.isLoss : Served → Bool
  | ⟨.heartbeatConcurrency _ _, .ok false⟩ | ⟨.heartbeatPool _ _, .ok false⟩ => true
  | _ => false

/-- A heartbeat that renewed its lease. -/
def Served.isRenewal : Served → Bool
  | ⟨.heartbeatConcurrency _ _, .ok true⟩ | ⟨.heartbeatPool _ _, .ok true⟩ => true
  | _ => false

/-- A heartbeat has found a lease lost. -/
def Stores.lost (stores : Stores) : Bool := stores.log.any Served.isLoss

/-- Until then the lease is kept, unless something else takes it away. -/
def ConcurrencyLeaseGuard.Kept (lease : ConcurrencyLeaseGuard) (leaseMs : Nat) (kind : LeaseKind)
    (until_ now : Nat) (stores : Stores) : Prop :=
  now < until_ → stores.taken = true ∨
    ∃ score, LeasedUntil score (lease.key kind stores) lease.operationId ∧ until_ ≤ score ∧
      score ≤ now + leaseMs

section Kept

variable {lease : ConcurrencyLeaseGuard} {leaseMs until_ now : Nat} {kind : LeaseKind}
  {stores after : Stores}

theorem kept_sooner {sooner : Nat} (kept : lease.Kept leaseMs kind until_ now stores)
    (before : sooner ≤ until_) : lease.Kept leaseMs kind sooner now stores := by
  intro live
  refine (kept (Nat.lt_of_lt_of_le live before)).imp_right ?_
  rintro ⟨score, leased, enough, bounded⟩
  exact ⟨score, leased, Nat.le_trans before enough, bounded⟩

theorem kept_later {later : Nat} (kept : lease.Kept leaseMs kind until_ now stores)
    (passes : now ≤ later) : lease.Kept leaseMs kind until_ later stores := by
  intro live
  refine (kept (Nat.lt_of_le_of_lt passes live)).imp_right ?_
  rintro ⟨score, leased, enough, bounded⟩
  exact ⟨score, leased, enough, by omega⟩

theorem spares_key (spares : Spares leaseMs now lease.operationId stores after) (kind : LeaseKind) :
    SparesLease leaseMs now lease.operationId (after.taken = true) (lease.key kind stores)
      (lease.key kind after) := by
  cases kind with
  | concurrency => exact spares.concurrency lease.apiClientId
  | modelPool => exact spares.active lease.modelPoolId

theorem kept_spared (kept : lease.Kept leaseMs kind until_ now stores)
    (spares : Spares leaseMs now lease.operationId stores after) :
    lease.Kept leaseMs kind until_ now after := by
  intro live
  rcases kept live with taken | ⟨score, leased, enough, bounded⟩
  · exact Or.inl (spares.taken taken)
  · have still := (spares_key spares kind).kept score leased (by omega) bounded
    rcases still with leased | taken
    · exact Or.inr ⟨score, leased, enough, bounded⟩
    · exact Or.inl taken

theorem key_record {call : Call} {answer : Except Failure call.Answer} (kind : LeaseKind) :
    lease.key kind (stores.record call answer) = lease.key kind stores := by
  cases kind <;> rfl

theorem kept_record {call : Call} {answer : Except Failure call.Answer}
    (kept : lease.Kept leaseMs kind until_ now stores) :
    lease.Kept leaseMs kind until_ now (stores.record call answer) := by
  unfold ConcurrencyLeaseGuard.Kept
  rw [key_record]
  exact kept

/-- What is kept for longer is held. -/
theorem held_of_kept (kept : lease.Kept leaseMs kind until_ now stores) (live : now < until_) :
    Held now (lease.key kind stores) lease.operationId ∨ stores.taken = true := by
  rcases kept live with taken | ⟨score, leased, enough, _⟩
  · exact Or.inr taken
  · exact Or.inl (leased.held (by omega))

theorem unexpired_of_kept
    (kept : ∀ kind, lease.Kept leaseMs kind until_ now stores) (live : now < until_) :
    lease.Unexpired now stores ∨ stores.taken = true := by
  by_cases taken : stores.taken = true
  · exact Or.inr taken
  · exact Or.inl fun kind => (held_of_kept (kept kind) live).resolve_right taken

end Kept

/-! ## Heartbeats -/

section Heartbeats

variable {lease : ConcurrencyLeaseGuard} {leaseMs now : Nat} {kind other : LeaseKind}
  {stores after : Stores} {choice : Option (Except Failure (lease.heartbeatCall kind).Answer)}
  {answer : Except Failure (lease.heartbeatCall kind).Answer}

theorem isRedis_heartbeatCall (lease : ConcurrencyLeaseGuard) (kind : LeaseKind) :
    (lease.heartbeatCall kind).isRedis = true := by
  cases kind <;> rfl

theorem isRenewal_iff (lease : ConcurrencyLeaseGuard) (kind : LeaseKind)
    {answer : Except Failure Bool} :
    Served.isRenewal
        (match kind with
        | .concurrency => ⟨.heartbeatConcurrency lease.apiClientId lease.operationId, answer⟩
        | .modelPool => ⟨.heartbeatPool lease.modelPoolId lease.operationId, answer⟩) = true ↔
      answer = .ok true := by
  cases kind <;> rcases answer with failure | _ | _ <;> simp [Served.isRenewal]

theorem accepts_of_checkedReply {reply : List Int}
    (accepted : checkedReply id (ModelPool.checkHeartbeatReply reply) = .ok true) :
    ModelPool.checkHeartbeatReply reply = .ok true := by
  unfold checkedReply at accepted
  split at accepted
  · rename_i value checked
    cases accepted
    exact checked
  · cases accepted

/-- What a heartbeat leaves of its own key, and of the key of the other lease. -/
theorem serve_heartbeat
    (served : stores.serve leaseMs now (lease.heartbeatCall kind) choice = some (after, answer)) :
    after.taken = stores.taken ∧ after.log = ⟨lease.heartbeatCall kind, answer⟩ :: stores.log ∧
      lease.key kind after = (ModelPool.heartbeatScript leaseMs now lease.operationId
        ((lease.key kind stores).expire now)).1 ∧
      (Served.isRenewal ⟨_, answer⟩ = true → ModelPool.checkHeartbeatReply
        (ModelPool.heartbeatScript leaseMs now lease.operationId
          ((lease.key kind stores).expire now)).2 = .ok true) ∧
      (other ≠ kind → lease.key other after = lease.key other stores ∨
        lease.key other after = (lease.key other stores).expire now) := by
  cases kind with
  | concurrency =>
      cases served
      refine ⟨rfl, rfl, Function.update_self .., fun renewal => ?_, fun different => ?_⟩
      · exact accepts_of_checkedReply ((isRenewal_iff lease .concurrency).mp renewal)
      · cases other with
        | concurrency => exact absurd rfl different
        | modelPool => exact Or.inl rfl
  | modelPool =>
      cases served
      refine ⟨rfl, rfl, Function.update_self .., fun renewal => ?_, fun different => ?_⟩
      · exact accepts_of_checkedReply ((isRenewal_iff lease .modelPool).mp renewal)
      · cases other with
        | concurrency => exact Or.inl rfl
        | modelPool => exact absurd rfl different

theorem isLocal_of_heartbeat {failure : Failure}
    (served : stores.serve leaseMs now (lease.heartbeatCall kind) choice =
      some (after, .error failure)) : failure.isLocal = true := by
  have refused : ∀ reply, checkedReply id (ModelPool.checkHeartbeatReply reply) = .error failure →
      failure.isLocal = true := by
    intro reply unaccepted
    unfold checkedReply at unaccepted
    split at unaccepted
    · cases unaccepted
    · cases unaccepted
      rfl
  cases kind with
  | concurrency => exact refused _ (Prod.mk.inj (Option.some.inj served)).2
  | modelPool => exact refused _ (Prod.mk.inj (Option.some.inj served)).2

/-- A heartbeat shortens no lease. -/
theorem kept_heartbeat {until_ : Nat} (kept : lease.Kept leaseMs other until_ now stores)
    (served : stores.serve leaseMs now (lease.heartbeatCall kind) choice = some (after, answer)) :
    lease.Kept leaseMs other until_ now after := by
  obtain ⟨taken, _, own, _, apart⟩ := @serve_heartbeat _ _ _ _ other _ _ _ _ served
  intro live
  rw [taken]
  refine (kept live).imp_right ?_
  rintro ⟨score, leased, enough, bounded⟩
  have unexpired := @LeasedUntil.expire _ _ score now _ _ leased (by omega)
  by_cases same : other = kind
  · subst same
    rw [unexpired] at own
    obtain ⟨renewed, _⟩ := @heartbeatScript_renews _ _ leaseMs now _ _ _ leased (by omega)
    exact ⟨now + leaseMs, own ▸ renewed, by omega, Nat.le_refl _⟩
  · rcases apart same with still | still
    · exact ⟨score, still ▸ leased, enough, bounded⟩
    · rw [unexpired] at still
      exact ⟨score, still ▸ leased, enough, bounded⟩

theorem kept_renewed (renewal : Served.isRenewal ⟨_, answer⟩ = true)
    (served : stores.serve leaseMs now (lease.heartbeatCall kind) choice = some (after, answer)) :
    lease.Kept leaseMs kind (now + leaseMs) now after := by
  obtain ⟨_, _, own, accepted, _⟩ := @serve_heartbeat _ _ _ _ kind _ _ _ _ served
  exact fun _ => Or.inr ⟨now + leaseMs, own ▸ heartbeatScript_renewed (accepted renewal),
    Nat.le_refl _, Nat.le_refl _⟩

end Heartbeats

/-! ## Keeping the leases -/

theorem lost_record {stores : Stores} {call : Call} {answer : Except Failure call.Answer}
    (noLoss : Served.isLoss ⟨call, answer⟩ = false) :
    (stores.record call answer).lost = stores.lost := by
  rw [Stores.lost, Stores.record, List.any_cons, noLoss, Bool.false_or]
  rfl

theorem isLoss_unscripted {call : Call} {answer : Except Failure call.Answer}
    (unscripted : call.isScripted = false) : Served.isLoss ⟨call, answer⟩ = false := by
  cases call <;> first | rfl | cases unscripted

theorem lost_elsewhere {stores : Stores} {call : Call} {answer : Except Failure call.Answer}
    (outside : call.isRedis = false) : (stores.record call answer).lost = stores.lost :=
  lost_record (isLoss_unscripted (unscripted_of_outside outside))

/-- Both leases are kept until given times, and no call to Redis is under way. -/
structure Keeping (lease : ConcurrencyLeaseGuard) (leaseMs : Nat) (until_ : LeaseKind → Nat)
    (situation : Situation backend Stores) : Prop where
  kept : ∀ kind, lease.Kept leaseMs kind (until_ kind) situation.now situation.world
  settled : situation.orphans = []
  outside : ∀ task ∈ situation.task, task.call.isRedis = false

/-- Some time later, with no other call running in the child task. -/
structure Ensues (start reached : Situation backend Stores) : Prop where
  passes : start.now ≤ reached.now
  running : ∀ call, reached.task = some ⟨call, none⟩ → start.task = some ⟨call, none⟩

theorem Ensues.refl (situation : Situation backend Stores) : Ensues situation situation :=
  ⟨Nat.le_refl _, fun _ same => same⟩

theorem Ensues.trans {start middle reached : Situation backend Stores}
    (first : Ensues start middle) (second : Ensues middle reached) : Ensues start reached :=
  ⟨Nat.le_trans first.passes second.passes,
    fun call running => first.running call (second.running call running)⟩

section Leave

variable (pause : Pause backend Stores) (call : Call)

theorem now_leave : (pause.leave call).now = pause.now := by
  unfold Pause.leave
  split <;> rfl

theorem world_leave : (pause.leave call).world = pause.world := by
  unfold Pause.leave
  split <;> rfl

theorem task_leave : (pause.leave call).task = pause.task := by
  unfold Pause.leave
  split <;> rfl

end Leave

section Keeping

variable {service : ExternalChatService} {settings : LeaseSettings service}
  {lease : ConcurrencyLeaseGuard} {offset : Int} {patience : Option Nat}
  {until_ : LeaseKind → Nat} {waiting : Waiting backend} {before after : Pause backend Stores}
  {act : Act backend (Interference settings.leaseMs lease.operationId)}

theorem Keeping.sooner {sooner : LeaseKind → Nat} {situation : Situation backend Stores}
    (keeping : Keeping lease settings.leaseMs until_ situation)
    (less : ∀ kind, sooner kind ≤ until_ kind) :
    Keeping lease settings.leaseMs sooner situation :=
  ⟨fun kind => kept_sooner (keeping.kept kind) (less kind), keeping.settled, keeping.outside⟩

/-- What happens beside the awaited call. -/
theorem Keeping.idles (keeping : Keeping lease settings.leaseMs until_ before.toSituation)
    (beside : act.isExecution = false)
    (stirs : Stirs (leaseSetting settings.leaseMs lease.operationId offset patience) waiting
      before act after) :
    Keeping lease settings.leaseMs until_ after.toSituation ∧
      Ensues before.toSituation after.toSituation ∧
      after.world.lost = before.world.lost ∧ after.flight = before.flight := by
  cases stirs with
  | executes => cases beside
  | finishes running served =>
      have outside := keeping.outside _ running
      obtain rfl := serve_elsewhere outside (serve_of_setting served)
      refine ⟨⟨fun kind => kept_record (keeping.kept kind), keeping.settled, ?_⟩,
        ⟨Nat.le_refl _, fun _ same => ?_⟩, lost_elsewhere outside, rfl⟩
      · intro task member
        rw [← Option.some.inj member]
        exact outside
      · exact absurd (congrArg Task.running same).symm (List.cons_ne_nil _ _)
  | late found | drops found =>
      rw [keeping.settled] at found
      cases found
  | changes change =>
      have spares := change.spares before.now before.world
      refine ⟨⟨fun kind => kept_spared (keeping.kept kind) spares, keeping.settled,
        keeping.outside⟩, ⟨Nat.le_refl _, fun _ same => same⟩, ?_, rfl⟩
      show Stores.lost _ = Stores.lost _
      rw [Stores.lost, Stores.lost]
      exact congrArg (List.any · Served.isLoss) spares.log
  | elapses =>
      exact ⟨⟨fun kind => kept_later (keeping.kept kind) (Nat.le_add_right _ _), keeping.settled,
        keeping.outside⟩, ⟨Nat.le_add_right _ _, fun _ same => same⟩, rfl, rfl⟩

/-- The awaited call takes effect, and is no call to Redis. -/
theorem Keeping.executes {call : Call} {answer : Except Failure call.Answer} {world : Stores}
    {choice : Option (Except Failure call.Answer)} {situation : Situation backend Stores}
    (keeping : Keeping lease settings.leaseMs until_ situation) (outside : call.isRedis = false)
    (served : situation.world.serve settings.leaseMs situation.now call choice =
      some (world, answer)) :
    Keeping lease settings.leaseMs until_ (situation.withWorld world) ∧
      world.lost = situation.world.lost := by
  obtain rfl := serve_elsewhere outside served
  exact ⟨⟨fun kind => kept_record (keeping.kept kind), keeping.settled, keeping.outside⟩,
    lost_elsewhere outside⟩

end Keeping

/-! ## The rules -/

/-- A Redis call takes at most an eighth of the lease. -/
def LeaseSettings.patience {service : ExternalChatService} (settings : LeaseSettings service) :
    Nat :=
  settings.leaseMs / 8

/-- How much earlier than one lease after the timer falls due the leases can end. -/
def LeaseSettings.margin {service : ExternalChatService} (settings : LeaseSettings service) : Nat :=
  service.heartbeatIntervalMilliseconds.toNat + 2 * settings.patience

theorem LeaseSettings.margin_lt {service : ExternalChatService} (settings : LeaseSettings service) :
    settings.margin + 2 * settings.patience < settings.leaseMs := by
  have positive := service.heartbeatValid.1
  have half := settings.belowHalf
  have exact_ : settings.leaseMs = settings.leaseSeconds * 1000 := rfl
  unfold LeaseSettings.margin LeaseSettings.patience
  omega

/-- The chat call is in flight. -/
def Forwarding (situation : Situation backend Stores) : Prop :=
  ∃ request virtualKey, situation.task = some ⟨.forwardChat request virtualKey, none⟩

theorem not_forwarding_of_idle {situation : Situation backend Stores}
    (idle : situation.task = none) : ¬Forwarding situation := by
  rintro ⟨request, virtualKey, running⟩
  rw [idle] at running
  cases running

theorem Forwarding.earlier {start reached : Situation backend Stores}
    (forwarding : Forwarding reached) (ensues : Ensues start reached) : Forwarding start := by
  obtain ⟨request, virtualKey, running⟩ := forwarding
  exact ⟨request, virtualKey, ensues.running _ running⟩

/-- What needs the leases: the chat call in flight, a pull of the provider stream,
and a data frame. Once a heartbeat has found a lease lost, no call is started, and
none in flight is completed. -/
def leaseRules {leaseMs : Nat} {operationId : String} (covered : Situation backend Stores → Prop)
    (assumes : Pause backend Stores → Act backend (Interference leaseMs operationId) → Prop) :
    Rules backend Stores (Interference leaseMs operationId) where
  assumes := assumes
  permits situation act :=
    match act with
    | .spawns (.streamNext _ _) => covered situation ∧ situation.world.lost = false
    | .spawns _ | .joins _ => situation.world.lost = false
    | .emits (.data _) => covered situation
    | _ => True
  always situation := Forwarding situation → covered situation

/-- The timer is armed, and both leases are kept until a margin before one lease
after it falls due. -/
structure Guarded {service : ExternalChatService} (settings : LeaseSettings service)
    (lease : ConcurrencyLeaseGuard) (offset : Int) (due : Nat) (locals : Locals)
    (situation : Situation backend Stores) : Prop where
  armed : locals.nextHeartbeatAt = offset + due
  keeping : Keeping lease settings.leaseMs (fun _ => due + settings.leaseMs - settings.margin)
    situation
  unlost : situation.world.lost = false

/-! ## The heartbeat -/

section Guards

variable {service : ExternalChatService} (settings : LeaseSettings service)
  (lease : ConcurrencyLeaseGuard) (offset : Int) (covered : Situation backend Stores → Prop)
  (assumes : Pause backend Stores →
    Act backend (Interference settings.leaseMs lease.operationId) → Prop)

/-- The setting of a session whose Redis calls are in time. -/
abbrev guardSetting : Setting backend Stores (Interference settings.leaseMs lease.operationId) :=
  leaseSetting settings.leaseMs lease.operationId offset (some settings.patience)

variable {settings lease offset covered assumes}

section Heartbeat

variable {until_ : LeaseKind → Nat} {situation : Situation backend Stores} {kind : LeaseKind}
  {locals : Locals}

/-- While a heartbeat is on its way, from its beginning. -/
structure HeartbeatPause (settings : LeaseSettings service) (lease : ConcurrencyLeaseGuard)
    (kind : LeaseKind) (until_ : LeaseKind → Nat) (start : Situation backend Stores)
    (pause : Pause backend Stores) : Prop where
  keeping : Keeping lease settings.leaseMs until_ pause.toSituation
  ensues : Ensues start pause.toSituation
  soon : pause.now ≤ start.now + settings.patience
  flown : (pause.flight = .sent ∧ pause.world.lost = start.world.lost) ∨
    ∃ answer, pause.flight = .executed (lease.heartbeatCall kind) answer ∧
      (∀ failure, answer = .error failure → failure.isLocal = true) ∧
      (Served.isRenewal ⟨_, answer⟩ = true → pause.world.lost = start.world.lost ∧
        lease.Kept settings.leaseMs kind (start.now + settings.leaseMs) pause.now pause.world)

theorem lost_renewal {stores after : Stores} {call : Call} {answer : Except Failure call.Answer}
    (log : after.log = ⟨call, answer⟩ :: stores.log)
    (renewal : Served.isRenewal ⟨call, answer⟩ = true) : after.lost = stores.lost := by
  have noLoss : Served.isLoss ⟨call, answer⟩ = false := by
    unfold Served.isRenewal at renewal
    split at renewal
    · rename_i heartbeat
      rw [heartbeat]
      rfl
    · rename_i heartbeat
      rw [heartbeat]
      rfl
    · cases renewal
  rw [Stores.lost, log, List.any_cons, noLoss, Bool.false_or]
  rfl

theorem HeartbeatPause.executed {pause : Pause backend Stores} {world : Stores}
    {choice : Option (Except Failure (lease.heartbeatCall kind).Answer)}
    {answer : Except Failure (lease.heartbeatCall kind).Answer}
    (before : HeartbeatPause settings lease kind until_ situation pause)
    (sent : pause.flight.isSent = true)
    (served : pause.world.serve settings.leaseMs pause.now (lease.heartbeatCall kind) choice =
      some (world, answer)) :
    HeartbeatPause settings lease kind until_ situation
      ⟨pause.withWorld world, pause.since, .executed (lease.heartbeatCall kind) answer⟩ := by
  refine ⟨⟨fun other => kept_heartbeat (before.keeping.kept other) served, before.keeping.settled,
    before.keeping.outside⟩, ⟨before.ensues.passes, before.ensues.running⟩, before.soon,
    Or.inr ⟨answer, rfl, ?_, fun renewal => ⟨?_, ?_⟩⟩⟩
  · rintro failure rfl
    exact isLocal_of_heartbeat served
  · obtain ⟨_, log, _⟩ := @serve_heartbeat _ _ _ _ kind _ _ _ _ served
    rcases before.flown with ⟨_, unlost⟩ | ⟨_, flown, _⟩
    · exact (lost_renewal log renewal).trans unlost
    · rw [flown] at sent
      cases sent
  · exact kept_sooner (kept_renewed renewal served)
      (Nat.add_le_add_right before.ensues.passes settings.leaseMs)

/-- Beside the heartbeat, leases are kept and time passes within its patience. -/
theorem HeartbeatPause.idles {before after : Pause backend Stores}
    {act : Act backend (Interference settings.leaseMs lease.operationId)}
    (pause : HeartbeatPause settings lease kind until_ situation before)
    (beside : act.isExecution = false)
    (soon : after.now ≤ situation.now + settings.patience)
    (stirs : Stirs (guardSetting settings lease offset) (.call (lease.heartbeatCall kind))
      before act after) :
    HeartbeatPause settings lease kind until_ situation after := by
  obtain ⟨keeping, ensues, lost, flight⟩ := pause.keeping.idles beside stirs
  refine ⟨keeping, pause.ensues.trans ensues, soon, ?_⟩
  rw [flight, lost]
  refine pause.flown.imp id ?_
  rintro ⟨answer, executed, refused, renewed⟩
  refine ⟨answer, executed, refused, fun renewal => ⟨(renewed renewal).1, ?_⟩⟩
  have both : Keeping lease settings.leaseMs
      (Function.update until_ kind (situation.now + settings.leaseMs)) before.toSituation := by
    refine ⟨fun other => ?_, pause.keeping.settled, pause.keeping.outside⟩
    by_cases same : other = kind
    · subst same
      rw [Function.update_self]
      exact (renewed renewal).2
    · rw [Function.update_of_ne same]
      exact pause.keeping.kept other
  have kept := (both.idles beside stirs).1.kept kind
  rwa [Function.update_self] at kept

theorem HeartbeatPause.stirs {before after : Pause backend Stores}
    {act : Act backend (Interference settings.leaseMs lease.operationId)}
    (pause : HeartbeatPause settings lease kind until_ situation before)
    (since : before.since = situation.now)
    (stirs : Stirs (guardSetting settings lease offset) (.call (lease.heartbeatCall kind))
      before act after) :
    HeartbeatPause settings lease kind until_ situation after := by
  have whole := stirs
  cases stirs with
  | executes awaits sent served =>
      cases awaits
      exact pause.executed sent (serve_of_setting served)
  | finishes | late | drops | changes => exact pause.idles rfl pause.soon whole
  | elapses lets =>
      refine pause.idles rfl ?_ whole
      have bound : (guardSetting settings lease offset).patience (lease.heartbeatCall kind) =
          some settings.patience := if_pos (isRedis_heartbeatCall lease kind)
      simp only [Setting.lets, bound, decide_eq_true_eq, since] at lets
      exact lets

/-- A heartbeat of one lease. -/
theorem await_heartbeat (keeping : Keeping lease settings.leaseMs until_ situation)
    (safe : ∀ reached : Situation backend Stores,
      (∀ other, lease.Kept settings.leaseMs other (until_ other) reached.now reached.world) →
        Ensues situation reached → reached.now ≤ situation.now + settings.patience →
          Forwarding reached → covered reached) :
    Maintains (guardSetting settings lease offset) (leaseRules covered assumes)
      (await (lease.heartbeatCall kind)) locals situation fun outcome left reached =>
        left = locals ∧ Ensues situation reached ∧
          reached.now ≤ situation.now + settings.patience ∧
          match outcome with
          | .ok answer => Keeping lease settings.leaseMs until_ reached ∧
              (Served.isRenewal ⟨_, .ok answer⟩ = true →
                reached.world.lost = situation.world.lost ∧
                  lease.Kept settings.leaseMs kind (situation.now + settings.leaseMs) reached.now
                    reached.world)
          | .error failure => failure.isLocal = true := by
  have permitted : (leaseRules covered assumes).permits situation
      (.sends (lease.heartbeatCall kind)) := trivial
  refine Maintains.await (HeartbeatPause settings lease kind until_ situation)
    (safe situation keeping.kept (.refl _) (Nat.le_add_right _ _)) permitted
    ⟨keeping, ⟨Nat.le_refl _, fun _ same => same⟩, Nat.le_add_right _ _, Or.inl ⟨rfl, rfl⟩⟩
    (fun _ _ _ since pause _ stirs => pause.stirs since stirs)
    (fun pause held => safe _ held.keeping.kept held.ensues held.soon) ?_ ?_
  · intro pause answer held executed _
    refine ⟨rfl, held.ensues, held.soon, ?_⟩
    rcases held.flown with ⟨sent, _⟩ | ⟨other, executed_, refused, renewed⟩
    · rw [executed] at sent
      cases sent
    · rw [executed] at executed_
      cases executed_
      cases answer with
      | ok answer => exact ⟨held.keeping, renewed⟩
      | error failure => exact refused failure rfl
  · intro pause failure held _ breaks _
    have ensues : Ensues situation (pause.leave (lease.heartbeatCall kind)) :=
      ⟨by rw [now_leave]; exact held.ensues.passes,
        fun call running => held.ensues.running call (by rwa [task_leave] at running)⟩
    have soon : (pause.leave (lease.heartbeatCall kind)).now ≤
        situation.now + settings.patience := by
      rw [now_leave]
      exact held.soon
    refine ⟨safe _ (fun other => ?_) ensues soon, rfl, ensues, soon, ?_⟩
    · rw [now_leave, world_leave]
      exact held.keeping.kept other
    · rcases Bool.or_eq_true_iff.mp breaks with interrupt | redis
      · exact Bool.or_eq_true_iff.mpr (Or.inr interrupt)
      · exact Bool.or_eq_true_iff.mpr (Or.inl (Bool.and_eq_true_iff.mp redis).2)

theorem armTimer_maintains {goal : Except Failure Unit → Locals → Situation backend Stores → Prop}
    (always : (leaseRules covered assumes).always situation)
    (reached : goal (.ok ()) { locals with
      nextHeartbeatAt := offset + situation.now + service.heartbeatIntervalMilliseconds }
      situation) :
    Maintains (guardSetting settings lease offset) (leaseRules covered assumes)
      (ConcurrencyLeaseGuard.armTimer service) locals situation goal := by
  apply Maintains.bind
  apply Maintains.observe always
  intro reading shown
  have now : reading = offset + situation.now := of_decide_eq_true shown
  subst now
  exact Maintains.modify always reached

/-- Both leases renewed arm the timer. -/
theorem guarded_of_renewed {asked : Nat}
    (renewed : Keeping lease settings.leaseMs (fun _ => asked + settings.leaseMs) situation)
    (soon : situation.now ≤ asked + 2 * settings.patience)
    (unlost : situation.world.lost = false) :
    Guarded settings lease offset
      (situation.now + service.heartbeatIntervalMilliseconds.toNat)
      { locals with
        nextHeartbeatAt := offset + situation.now + service.heartbeatIntervalMilliseconds }
      situation := by
  have positive := service.heartbeatValid.1
  refine ⟨?_, renewed.sooner fun kind => ?_, unlost⟩
  · show offset + _ + _ = offset + _
    omega
  · unfold LeaseSettings.margin
    omega

/-- A heartbeat of both leases. While the chat call is in flight it starts well before
the leases end. -/
theorem heartbeat_maintains (cover : ∀ reached : Situation backend Stores,
      lease.Unexpired reached.now reached.world ∨ reached.world.taken = true → covered reached)
    (keeping : Keeping lease settings.leaseMs until_ situation)
    (unlost : situation.world.lost = false)
    (early : Forwarding situation → ∀ kind, situation.now + 2 * settings.patience < until_ kind) :
    Maintains (guardSetting settings lease offset) (leaseRules covered assumes)
      (lease.heartbeat service) locals situation fun outcome left reached =>
        Ensues situation reached ∧
          match outcome with
          | .ok () => ∃ due, Guarded settings lease offset due left reached ∧ reached.now ≤ due ∧
              left = { locals with nextHeartbeatAt := offset + due }
          | .error failure => failure.isLocal = true := by
  have margin := settings.margin_lt
  have safe : ∀ (reached : Situation backend Stores) (times : LeaseKind → Nat),
      (∀ kind, lease.Kept settings.leaseMs kind (times kind) reached.now reached.world) →
        (∀ kind, reached.now < times kind) → covered reached := by
    intro reached times kept live
    apply cover
    by_cases taken : reached.world.taken = true
    · exact Or.inr taken
    · exact Or.inl fun kind => (held_of_kept (kept kind) (live kind)).resolve_right taken
  apply Maintains.bind
  have first := @await_heartbeat service settings lease offset covered assumes until_ situation
    .concurrency locals keeping fun reached kept ensues soon forwarding =>
      safe reached until_ kept fun kind => by
        have before := early (forwarding.earlier ensues) kind
        omega
  refine Maintains.mono first ?_
  rintro outcome left middle _ ⟨rfl, ensues, soon, answered⟩
  cases outcome with
  | error failure => exact ⟨ensues, answered⟩
  | ok renewed =>
      obtain ⟨keepingMiddle, renewal⟩ := answered
      -- The concurrency lease may be renewed by now, the pool lease is as before.
      obtain ⟨times, keepingTimes, late, renewedTimes⟩ : ∃ times : LeaseKind → Nat,
          Keeping lease settings.leaseMs times middle ∧
            (Forwarding situation → ∀ kind, situation.now + 2 * settings.patience < times kind) ∧
            (renewed = true → middle.world.lost = situation.world.lost ∧
              times .concurrency = situation.now + settings.leaseMs) := by
        cases renewed with
        | false => exact ⟨until_, keepingMiddle, early, nofun⟩
        | true =>
            obtain ⟨unlostMiddle, kept⟩ := renewal rfl
            refine ⟨Function.update until_ .concurrency (situation.now + settings.leaseMs),
              ⟨fun kind => ?_, keepingMiddle.settled, keepingMiddle.outside⟩,
              fun forwarding kind => ?_, fun _ => ⟨unlostMiddle, Function.update_self ..⟩⟩
            · by_cases same : kind = .concurrency
              · subst same
                rw [Function.update_self]
                exact kept
              · rw [Function.update_of_ne same]
                exact keepingMiddle.kept kind
            · by_cases same : kind = .concurrency
              · subst same
                rw [Function.update_self]
                omega
              · rw [Function.update_of_ne same]
                exact early forwarding kind
      apply Maintains.bind
      have second := @await_heartbeat service settings lease offset covered assumes times middle
        .modelPool left keepingTimes fun reached kept ensuesLater soonLater forwarding =>
          safe reached times kept fun kind => by
            have before := late (forwarding.earlier (ensues.trans ensuesLater)) kind
            omega
      refine Maintains.mono second ?_
      rintro outcome left last alwaysLast ⟨rfl, ensuesLast, soonLast, answered⟩
      cases outcome with
      | error failure => exact ⟨ensues.trans ensuesLast, answered⟩
      | ok modelRenewed =>
          obtain ⟨keepingLast, renewalLast⟩ := answered
          by_cases both : renewed = true ∧ modelRenewed = true
          · obtain ⟨rfl, rfl⟩ := both
            obtain ⟨unlostMiddle, own⟩ := renewedTimes rfl
            obtain ⟨unlostLast, keptLast⟩ := renewalLast rfl
            have renewed : Keeping lease settings.leaseMs
                (fun _ => situation.now + settings.leaseMs) last := by
              refine ⟨fun kind => ?_, keepingLast.settled, keepingLast.outside⟩
              cases kind with
              | concurrency =>
                  rw [← own]
                  exact keepingLast.kept .concurrency
              | modelPool =>
                  exact kept_sooner keptLast (Nat.add_le_add_right ensues.passes settings.leaseMs)
            apply armTimer_maintains alwaysLast
            refine ⟨ensues.trans ensuesLast, _,
              guarded_of_renewed renewed (by omega) (by rw [unlostLast, unlostMiddle, unlost]),
              Nat.le_add_right _ _, ?_⟩
            have positive := service.heartbeatValid.1
            congr 1
            omega
          · have unrenewed : (!renewed || !modelRenewed) = true := by
              cases renewed with
              | false => rfl
              | true =>
                  cases modelRenewed with
                  | false => rfl
                  | true => exact absurd ⟨rfl, rfl⟩ both
            show Maintains _ _ (if (!renewed || !modelRenewed) = true then _ else _) _ _ _
            rw [if_pos unrenewed]
            exact Maintains.throw alwaysLast ⟨ensues.trans ensuesLast, rfl⟩

end Heartbeat

/-! ## The guard -/

section Run

variable {due : Nat} {situation : Situation backend Stores} {locals : Locals}

/-- While the child task runs, up to the next heartbeat. -/
structure GuardPause (settings : LeaseSettings service) (lease : ConcurrencyLeaseGuard) (due : Nat)
    (start : Situation backend Stores) (pause : Pause backend Stores) : Prop where
  keeping : Keeping lease settings.leaseMs (fun _ => due + settings.leaseMs - settings.margin)
    pause.toSituation
  ensues : Ensues start pause.toSituation
  unlost : pause.world.lost = false
  soon : pause.now ≤ due

theorem GuardPause.stirs {timeout : Int} {before after : Pause backend Stores}
    {act : Act backend (Interference settings.leaseMs lease.operationId)}
    (pause : GuardPause settings lease due situation before)
    (inTime : before.since + timeout.toNat ≤ due)
    (stirs : Stirs (guardSetting settings lease offset) (.task timeout) before act after) :
    GuardPause settings lease due situation after := by
  have later : ∀ {reached : Pause backend Stores},
      Stirs (guardSetting settings lease offset) (.task timeout) before act reached →
        act.isExecution = false → reached.now ≤ due →
          GuardPause settings lease due situation reached := by
    intro reached stirs beside soon
    obtain ⟨keeping, ensues, lost, _⟩ := pause.keeping.idles beside stirs
    exact ⟨keeping, pause.ensues.trans ensues, lost.trans pause.unlost, soon⟩
  have whole := stirs
  cases stirs with
  | executes awaits => cases awaits
  | finishes | late | drops | changes => exact later whole rfl pause.soon
  | elapses lets =>
      refine later whole rfl ?_
      unfold Setting.lets at lets
      dsimp only at lets
      split at lets
      · have bound := of_decide_eq_true lets
        exact Nat.le_trans bound inTime
      · cases lets

theorem Guarded.guardPause (guarded : Guarded settings lease offset due locals situation)
    (timely : situation.now ≤ due) : GuardPause settings lease due situation situation.pause :=
  ⟨⟨guarded.keeping.kept, guarded.keeping.settled, guarded.keeping.outside⟩,
    ⟨Nat.le_refl _, fun _ same => same⟩, guarded.unlost, timely⟩

theorem GuardPause.live {pause : Pause backend Stores}
    (held : GuardPause settings lease due situation pause) :
    pause.now + 2 * settings.patience < due + settings.leaseMs - settings.margin := by
  have margin := settings.margin_lt
  have soon := held.soon
  omega

theorem GuardPause.covers (cover : ∀ reached : Situation backend Stores,
      lease.Unexpired reached.now reached.world ∨ reached.world.taken = true → covered reached)
    {pause : Pause backend Stores} (held : GuardPause settings lease due situation pause) :
    covered pause.toSituation := by
  have live := held.live
  exact cover _ (unexpired_of_kept held.keeping.kept (by omega))

theorem permits_joins {call : Call} (unlost : situation.world.lost = false) :
    (leaseRules covered assumes).permits situation (.joins call) := unlost

/-- Waiting for a call under the guard. -/
theorem waitFor_maintains (cover : ∀ reached : Situation backend Stores,
      lease.Unexpired reached.now reached.world ∨ reached.world.taken = true → covered reached)
    {call : Call} (bound : Nat) (guarded : Guarded settings lease offset due locals situation)
    (timely : situation.now ≤ due) :
    Maintains (guardSetting settings lease offset) (leaseRules covered assumes)
      (ConcurrencyLeaseGuard.waitFor service lease call bound) locals situation
      fun outcome left reached =>
        match outcome with
        | .ok _ => reached.task = none ∧
            ∃ due, Guarded settings lease offset due left reached ∧ reached.now ≤ due
        | .error failure => failure.isLocal = true := by
  have always : ∀ {due : Nat} {locals : Locals} {situation : Situation backend Stores},
      Guarded settings lease offset due locals situation → situation.now ≤ due →
        (leaseRules covered assumes).always situation := fun guarded timely _ =>
    (guarded.guardPause timely).covers cover
  induction bound generalizing due locals situation with
  | zero => exact Maintains.exhausted (always guarded timely)
  | succ bound inductionHypothesis =>
      apply Maintains.bind
      apply Maintains.bind
      apply Maintains.observe (always guarded timely)
      intro reading shown
      have now : reading = offset + situation.now := of_decide_eq_true shown
      subst now
      apply Maintains.bind
      apply Maintains.get (always guarded timely)
      apply Maintains.pure (always guarded timely)
      apply Maintains.bind
      have inTime : situation.now +
          (max (locals.nextHeartbeatAt - (offset + situation.now)) 0).toNat ≤ due := by
        rw [guarded.armed]
        omega
      refine Maintains.wait (GuardPause settings lease due situation) (always guarded timely)
        (guarded.guardPause timely)
        (fun before act after since held _ stirs => held.stirs (since ▸ inTime) stirs)
        (fun pause held _ => held.covers cover) ?_ ?_ ?_
      · intro pause answer held finished
        have idle : ¬Forwarding (pause.withTask none) := not_forwarding_of_idle rfl
        have rested : (leaseRules covered assumes).always (pause.withTask none) :=
          fun forwarding => absurd forwarding idle
        refine ⟨permits_joins held.unlost, rested, Maintains.pure rested ⟨rfl, due, ?_, held.soon⟩⟩
        exact ⟨guarded.armed, ⟨held.keeping.kept, held.keeping.settled,
          fun _ member => (Option.not_mem_none _ member).elim⟩, held.unlost⟩
      · intro pause held running _
        apply Maintains.bind
        refine Maintains.mono (heartbeat_maintains cover held.keeping held.unlost
          fun _ _ => held.live) ?_
        rintro outcome left reached _ ⟨_, beaten⟩
        cases outcome with
        | error failure => exact beaten
        | ok _ =>
            obtain ⟨next, guardedNext, timelyNext, _⟩ := beaten
            exact inductionHypothesis guardedNext timelyNext
      · intro pause failure held interrupts _
        exact Bool.or_eq_true_iff.mpr (Or.inr interrupts)

/-- Nothing is in flight, and the leases are guarded unless a heartbeat failed or
the request was interrupted. -/
def BackGuarded (settings : LeaseSettings service) (lease : ConcurrencyLeaseGuard) (offset : Int)
    {Result : Type} (outcome : Except Failure Result) (left : Locals)
    (reached : Situation backend Stores) : Prop :=
  reached.task = none ∧
    ((∃ due, Guarded settings lease offset due left reached ∧ reached.now ≤ due) ∨
      ∃ failure, outcome = .error failure ∧ failure.isLocal = true)

theorem always_of_idle (idle : situation.task = none) :
    (@leaseRules settings.leaseMs lease.operationId covered assumes).always situation :=
  fun forwarding => absurd forwarding (not_forwarding_of_idle idle)

theorem Guarded.withTask (guarded : Guarded settings lease offset due locals situation)
    {call : Call} (outside : call.isRedis = false) :
    Guarded settings lease offset due locals (situation.withTask (some ⟨call, none⟩)) := by
  refine ⟨guarded.armed, ⟨guarded.keeping.kept, guarded.keeping.settled, fun task member => ?_⟩,
    guarded.unlost⟩
  rw [← Option.some.inj member]
  exact outside

/-- A call under the guard. -/
theorem run_maintains (cover : ∀ reached : Situation backend Stores,
      lease.Unexpired reached.now reached.world ∨ reached.world.taken = true → covered reached)
    {call : Call} (outside : call.isRedis = false)
    (notNext : ∀ request virtualKey, call ≠ .streamNext request virtualKey)
    (guarded : Guarded settings lease offset due locals situation)
    (timely : situation.now ≤ due) (idle : situation.task = none) :
    Maintains (guardSetting settings lease offset) (leaseRules covered assumes)
      (lease.run service call) locals situation (BackGuarded settings lease offset) := by
  have running := guarded.withTask outside
  have permitted : (leaseRules covered assumes).permits situation (.spawns call) := by
    unfold leaseRules
    dsimp only
    split
    · rename_i same
      cases same
      exact absurd rfl (notNext _ _)
    · exact guarded.unlost
    · trivial
    · trivial
    · trivial
  apply Maintains.bind
  refine Maintains.spawn (always_of_idle idle) permitted
    (fun _ => (running.guardPause timely).covers cover) ?_
  apply Maintains.bind
  apply Maintains.tryCatch
  refine Maintains.mono (waitFor_maintains cover service.loopBound running timely) ?_
  intro outcome left reached always waited
  cases outcome with
  | ok answer =>
      obtain ⟨idleReached, due, guardedReached, timelyReached⟩ := waited
      exact Maintains.reply always
        ⟨idleReached, Or.inl ⟨due, guardedReached, timelyReached⟩⟩
  | error failure =>
      apply Maintains.bind
      refine Maintains.abandon always (always_of_idle rfl) fun outcome ends _ => ?_
      cases outcome with
      | ok _ => exact Maintains.throw (always_of_idle rfl) ⟨rfl, Or.inr ⟨failure, rfl, waited⟩⟩
      | error interrupt =>
          exact ⟨rfl, Or.inr ⟨interrupt, rfl, Bool.or_eq_true_iff.mpr (Or.inr ends)⟩⟩

end Run

/-! ## Routines under the guard -/

/-- From guarded leases the routine comes back to guarded leases, unless a heartbeat
fails or the request is interrupted. -/
def Guards (settings : LeaseSettings service) (lease : ConcurrencyLeaseGuard) (offset : Int)
    (covered : Situation backend Stores → Prop)
    (assumes : Pause backend Stores →
      Act backend (Interference settings.leaseMs lease.operationId) → Prop)
    {Result : Type} (routine : Action Result) : Prop :=
  ∀ locals situation due, Guarded settings lease offset due locals situation →
    situation.now ≤ due → situation.task = none →
      Maintains (guardSetting settings lease offset) (leaseRules covered assumes) routine locals
        situation (BackGuarded settings lease offset)

namespace Guards

variable {First Second : Type}

theorem pure (value : First) :
    Guards settings lease offset covered assumes (Pure.pure value : Action First) :=
  fun _ _ due guarded timely idle =>
    Maintains.pure (always_of_idle idle) ⟨idle, Or.inl ⟨due, guarded, timely⟩⟩

theorem throw (failure : Failure) :
    Guards settings lease offset covered assumes (MonadExcept.throw failure : Action First) :=
  fun _ _ due guarded timely idle =>
    Maintains.throw (always_of_idle idle) ⟨idle, Or.inl ⟨due, guarded, timely⟩⟩

theorem bind {routine : Action First} {rest : First → Action Second}
    (guards : Guards settings lease offset covered assumes routine)
    (guardsRest : ∀ value, Guards settings lease offset covered assumes (rest value)) :
    Guards settings lease offset covered assumes (routine >>= rest) := by
  intro locals situation due guarded timely idle
  apply Maintains.bind
  refine Maintains.mono (guards locals situation due guarded timely idle) ?_
  rintro outcome left reached _ ⟨idleReached, leased⟩
  cases outcome with
  | ok value =>
      rcases leased with ⟨next, guardedNext, timelyNext⟩ | ⟨_, impossible, _⟩
      · exact guardsRest value left reached next guardedNext timelyNext idleReached
      · cases impossible
  | error failure =>
      refine ⟨idleReached, leased.imp_right ?_⟩
      rintro ⟨_, ⟨⟩, isLocal⟩
      exact ⟨failure, rfl, isLocal⟩

/-- A handler that passes on what a heartbeat or an interruption raised. -/
theorem tryCatch {routine : Action First} {handler : Failure → Action First}
    (guards : Guards settings lease offset covered assumes routine)
    (handles : ∀ failure, Guards settings lease offset covered assumes (handler failure))
    (passes : ∀ failure, failure.isLocal = true → handler failure = MonadExcept.throw failure) :
    Guards settings lease offset covered assumes (MonadExcept.tryCatch routine handler) := by
  intro locals situation due guarded timely idle
  apply Maintains.tryCatch
  refine Maintains.mono (guards locals situation due guarded timely idle) ?_
  rintro outcome left reached always ⟨idleReached, leased⟩
  cases outcome with
  | ok value =>
      refine ⟨idleReached, leased.imp_right ?_⟩
      rintro ⟨_, impossible, _⟩
      cases impossible
  | error failure =>
      rcases leased with ⟨next, guardedNext, timelyNext⟩ | ⟨_, ⟨⟩, isLocal⟩
      · exact handles failure left reached next guardedNext timelyNext idleReached
      · show Maintains _ _ (handler failure) _ _ _
        rw [passes failure isLocal]
        exact Maintains.throw always ⟨idleReached, Or.inr ⟨failure, rfl, isLocal⟩⟩

theorem observe (clock : Clock) :
    Guards settings lease offset covered assumes (Routine.observe clock : Action Int) :=
  fun _ _ due guarded timely idle =>
    Maintains.observe (always_of_idle idle) fun _ _ => ⟨idle, Or.inl ⟨due, guarded, timely⟩⟩

theorem get : Guards settings lease offset covered assumes (MonadState.get : Action Locals) :=
  fun _ _ due guarded timely idle =>
    Maintains.get (always_of_idle idle) ⟨idle, Or.inl ⟨due, guarded, timely⟩⟩

/-- A change of the local variables that leaves the timer alone. -/
theorem update {change : Locals → Locals}
    (leaves : ∀ locals, (change locals).nextHeartbeatAt = locals.nextHeartbeatAt) :
    Guards settings lease offset covered assumes (modify change : Action Unit) :=
  fun locals _ due guarded timely idle => Maintains.modify (always_of_idle idle)
    ⟨idle, Or.inl ⟨due, ⟨(leaves locals).trans guarded.armed, guarded.keeping, guarded.unlost⟩,
      timely⟩⟩

theorem run (cover : ∀ reached : Situation backend Stores,
      lease.Unexpired reached.now reached.world ∨ reached.world.taken = true → covered reached)
    {call : Call} (outside : call.isRedis = false)
    (notNext : ∀ request virtualKey, call ≠ .streamNext request virtualKey) :
    Guards settings lease offset covered assumes (lease.run service call) :=
  fun _ _ _ guarded timely idle => run_maintains cover outside notNext guarded timely idle

end Guards

end Guards

end Zangpu.Services.Chat
