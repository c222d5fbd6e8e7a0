import Zangpu.Foundation.Assertions
import Zangpu.Limits.ModelPool.Holdings
import Zangpu.Services.Chat.Environment

/-!
The timed environment of one request and its leases.

Owns: the Redis keys that a request shares with others, with every script it runs
on them and the reply checks of the limiters; the log of what took effect; what
others may do to the keys in between; and the setting of a session.

Does not own: the database, the credit service and the provider, whose answers
are arbitrary within the exceptions of their clients.

Time is in whole milliseconds. The Redis clock and the monotonic clock advance
together and differ by a fixed offset; the other clocks may show anything.
-/

set_option autoImplicit false

namespace Zangpu.Services.Chat

open Zangpu.Foundation
open Zangpu.Limits
open Zangpu.Limits.Concurrency

/-! ## Keys -/

/-- A call that took effect, with the answer computed for it. -/
structure Served where
  call : Call
  answer : Except Failure call.Answer

/-- The lease keys of all callers and pools, what took effect for this request,
newest first, and whether something else took one of its unexpired leases away. -/
structure Stores where
  concurrency : String → SortedSetKey String
  pools : ModelPool.PoolStore String String String
  log : List Served
  taken : Bool

def Stores.record (stores : Stores) (call : Call) (answer : Except Failure call.Answer) :
    Stores :=
  { stores with log := ⟨call, answer⟩ :: stores.log }

/-! ## Limiter calls -/

/-- `_validate_limits`: the message of the first violated bound. -/
def PoolRequest.violation (arguments : PoolRequest) : Option String :=
  if ¬(1 ≤ arguments.activeLimit ∧ arguments.activeLimit ≤ 1000000) then
    some "model-pool active limit must be between 1 and 1000000"
  else if ¬(0 ≤ arguments.queueLimit ∧ arguments.queueLimit ≤ 1000000) then
    some "global queue limit must be between 0 and 1000000"
  else if ¬(0 ≤ arguments.callerQueueLimit ∧ arguments.callerQueueLimit ≤ 1000000) then
    some "caller queue limit must be between 0 and 1000000"
  else if 0 < arguments.queueLimit ∧ arguments.callerQueueLimit = 0 then
    some "caller queue limit must be positive when queueing is enabled"
  else if ¬(1 ≤ arguments.queueWaitSeconds ∧ arguments.queueWaitSeconds ≤ 300) then
    some "queue wait must be between 1 and 300 seconds"
  else none

/-- The arguments of the admit script. -/
def PoolRequest.script (arguments : PoolRequest) (leaseMs : Nat) : ModelPool.AdmitArguments where
  leaseMs := leaseMs
  activeLimit := arguments.activeLimit.toNat
  queueWaitMs := arguments.queueWaitSeconds.toNat * 1000
  queueLimit := arguments.queueLimit.toNat
  callerQueueLimit := arguments.callerQueueLimit.toNat

def ModelPoolStatus.ofPool : ModelPool.ModelPoolStatus → ModelPoolStatus
  | .admitted => .admitted
  | .queued => .queued
  | .callerQueueFull => .callerQueueFull
  | .queueFull => .queueFull

def ModelPoolDecision.ofPool (decision : ModelPool.ModelPoolDecision) : ModelPoolDecision where
  status := .ofPool decision.status
  activeLimit := decision.activeLimit
  activeRemaining := decision.activeRemaining
  queueLimit := decision.queueLimit
  queueRemaining := decision.queueRemaining
  expiresAtMs := decision.expiresAtMs
  observedAtMs := decision.observedAtMs

def ConcurrencyDecision.ofReply (limit : Int) (reply : AcquireReply) : ConcurrencyDecision where
  allowed := reply.allowed
  count := reply.count
  limit := limit
  remaining := max (limit - reply.count) 0
  leaseExpiresAtMs := reply.leaseExpiresAtMs
  observedAtMs := reply.observedAtMs

/-- A reply that fails its checks is an unavailable control plane. -/
def checkedReply {Value Answer : Type} (read : Value → Answer)
    (checked : Except ModelPool.ControlPlaneUnavailable Value) : Except Failure Answer :=
  match checked with
  | .ok value => .ok (read value)
  | .error _ => .error .controlPlaneUnavailable

namespace Stores

variable (leaseMs now : Nat) (stores : Stores)

/-- A script on the lease key of a caller. -/
def onConcurrency (client : String) (script : SortedSetKey String → SortedSetKey String × List Int) :
    Stores × List Int :=
  let (key, reply) := script ((stores.concurrency client).expire now)
  ({ stores with concurrency := Function.update stores.concurrency client key }, reply)

/-- A script on the lease key of a pool. -/
def onActive (pool : String) (script : SortedSetKey String → SortedSetKey String × List Int) :
    Stores × List Int :=
  let alive := stores.pools.expire now
  let (key, reply) := script (alive.active pool)
  ({ stores with pools := { alive with active := Function.update alive.active pool key } }, reply)

/-- A script on the keys of a pool and a caller. -/
def onPool (pool client : String)
    (script : ModelPool.PoolKeys String → ModelPool.PoolKeys String × List Int) :
    Stores × List Int :=
  let alive := stores.pools.expire now
  let (keys, reply) := script (alive.keys pool client)
  ({ stores with pools := alive.save pool client keys }, reply)

/-- The limiter calls: what the script does and what the caller gets. -/
def script : (call : Call) → Option (Stores × Except Failure call.Answer)
  | .admitOrEnqueue arguments =>
      match arguments.violation with
      | some message => some (stores, .error (.valueError message))
      | none =>
          let (after, reply) := stores.onPool now arguments.poolId arguments.apiClientId
            (ModelPool.admitScript (arguments.script leaseMs) now arguments.operationId)
          some (after, checkedReply ModelPoolDecision.ofPool
            (ModelPool.checkAdmitReply arguments.activeLimit.toNat arguments.queueLimit.toNat
              reply))
  | .cancelQueued poolId apiClientId operationId =>
      let (after, reply) := stores.onPool now poolId apiClientId
        (ModelPool.cancelScript operationId)
      some (after, checkedReply id (ModelPool.checkRemovedReply reply))
  | .heartbeatPool poolId operationId =>
      let (after, reply) := stores.onActive now poolId
        (ModelPool.heartbeatScript leaseMs now operationId)
      some (after, checkedReply id (ModelPool.checkHeartbeatReply reply))
  | .releasePool poolId operationId =>
      let (after, reply) := stores.onActive now poolId (ModelPool.releaseScript operationId)
      some (after, checkedReply id (ModelPool.checkRemovedReply reply))
  | .acquireConcurrency apiClientId operationId limit =>
      if ¬(1 ≤ limit ∧ limit ≤ 1000000) then
        some (stores, .error (.valueError "concurrency limit must be between 1 and 1000000"))
      else
        let (after, reply) := stores.onConcurrency now apiClientId
          (acquireScript leaseMs limit.toNat now operationId)
        some (after, checkedReply (ConcurrencyDecision.ofReply limit) (checkAcquireReply reply))
  | .heartbeatConcurrency apiClientId operationId =>
      let (after, reply) := stores.onConcurrency now apiClientId
        (ModelPool.heartbeatScript leaseMs now operationId)
      some (after, checkedReply id (ModelPool.checkHeartbeatReply reply))
  | .releaseConcurrency apiClientId operationId =>
      let (after, reply) := stores.onConcurrency now apiClientId
        (ModelPool.releaseScript operationId)
      some (after, checkedReply id (ModelPool.checkRemovedReply reply))
  | _ => none

end Stores

/-- The exceptions a call answers with where no script computes its answer. -/
def Call.mayRaise (call : Call) (failure : Failure) : Bool :=
  if call.isPassive then call.raises failure else failure.isException

def Call.mayAnswer (call : Call) : Except Failure call.Answer → Bool
  | .ok _ => true
  | .error failure => call.mayRaise failure

/-- What a call does to the keys and answers. -/
def Stores.serve (leaseMs now : Nat) (stores : Stores) (call : Call)
    (choice : Option (Except Failure call.Answer)) :
    Option (Stores × Except Failure call.Answer) :=
  match stores.script leaseMs now call with
  | some (after, answer) => some (after.record call answer, answer)
  | none =>
      match choice with
      | some answer => if call.mayAnswer answer then some (stores.record call answer, answer) else none
      | none => none

/-! ## Others -/

/-- What others may do to a key of leases: they give the operation none, and keep
its unexpired lease unless they take it away. -/
structure SparesLease (leaseMs now : Nat) (operationId : String) (taken : Prop)
    (before after : SortedSetKey String) : Prop where
  none_given : Held now after operationId → Held now before operationId
  kept : ∀ score, LeasedUntil score before operationId → now < score → score ≤ now + leaseMs →
    LeasedUntil score after operationId ∨ taken

/-- What others may do to all keys. -/
structure Spares (leaseMs now : Nat) (operationId : String) (before after : Stores) : Prop where
  log : after.log = before.log
  taken : before.taken = true → after.taken = true
  concurrency : ∀ client, SparesLease leaseMs now operationId (after.taken = true)
    (before.concurrency client) (after.concurrency client)
  active : ∀ pool, SparesLease leaseMs now operationId (after.taken = true)
    (before.pools.active pool) (after.pools.active pool)
  tickets : ∀ pool, Held now (after.pools.queueExpiry pool) operationId →
    Held now (before.pools.queueExpiry pool) operationId
  paired : (∀ pool, ModelPool.Paired (before.pools.queue pool) (before.pools.queueExpiry pool)) →
    ∀ pool, ModelPool.Paired (after.pools.queue pool) (after.pools.queueExpiry pool)

/-- Something others do to the keys. -/
structure Interference (leaseMs : Nat) (operationId : String) where
  apply : Nat → Stores → Stores
  spares : ∀ now stores, Spares leaseMs now operationId stores (apply now stores)

/-! ## The setting -/

/-- The lease length as `Settings` accepts it beside the heartbeat interval. -/
structure LeaseSettings (service : ExternalChatService) where
  leaseSeconds : Nat
  leaseBounds : 3 ≤ leaseSeconds ∧ leaseSeconds ≤ 900
  belowHalf : service.heartbeatIntervalMilliseconds * 2 < leaseSeconds * 1000

def LeaseSettings.leaseMs {service : ExternalChatService} (settings : LeaseSettings service) : Nat :=
  settings.leaseSeconds * 1000

/-- Calls to Redis. -/
def Call.isRedis : Call → Bool
  | claimNonce _ _ _ | admitQps _ _ _ | admitOrEnqueue _ | cancelQueued _ _ _
  | heartbeatPool _ _ | releasePool _ _ | acquireConcurrency _ _ _ | heartbeatConcurrency _ _
  | releaseConcurrency _ _ => true
  | _ => false

/-- The environment of the session of one request. `patience` bounds how long a
Redis call takes, if anything does. -/
def leaseSetting (leaseMs : Nat) (operationId : String) (offset : Int) (patience : Option Nat) :
    Setting backend Stores (Interference leaseMs operationId) where
  shows now clock reading :=
    match clock with
    | .monotonic => decide (reading = offset + now)
    | .wall | .monotonicNs => true
  serves now stores call choice := stores.serve leaseMs now call choice
  breaks call failure := failure.isInterrupt || (call.isRedis && failure.isRedis)
  interrupts := Failure.isInterrupt
  patience call := if call.isRedis then patience else none
  changes change now stores := change.apply now stores

theorem serve_of_setting {leaseMs now : Nat} {operationId : String} {offset : Int}
    {patience : Option Nat} {stores after : Stores} {call : Call}
    {choice : Option (Except Failure call.Answer)} {answer : Except Failure call.Answer}
    (served : (leaseSetting leaseMs operationId offset patience).serves now stores call choice =
      some (after, answer)) :
    stores.serve leaseMs now call choice = some (after, answer) := served

end Zangpu.Services.Chat
