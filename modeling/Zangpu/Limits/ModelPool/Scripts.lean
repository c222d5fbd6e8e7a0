import Zangpu.Foundation.SortedSet
import Zangpu.Foundation.Outcome

/-!
The model-pool scripts.

Owns: `model_pool_admit.lua`, `model_pool_cancel.lua`, `model_pool_observe.lua`
and the two lease scripts the pool shares with the concurrency limiter, each as a
function of the keys it is given; the reply checks of `ModelPoolLimiter`; and the
store of all pools with the commands that run on it.

Does not own: key names, which are taken to be distinct, and the Redis client.
Times are whole milliseconds of the Redis clock, and a script sees one time.
-/

set_option autoImplicit false

namespace Zangpu.Limits.ModelPool

open Zangpu.Foundation

/-! ## Lease scripts -/

section Leases

variable {Operation : Type} [LinearOrder Operation]

/-- `concurrency_heartbeat.lua`. -/
def heartbeatScript (leaseMs now : Nat) (member : Operation) (key : SortedSetKey Operation) :
    SortedSetKey Operation × List Int :=
  match key.zscore member with
  | none => (key.zrem member, [0, now, now])
  | some existingExpiry =>
      if existingExpiry ≤ now then (key.zrem member, [0, now, now])
      else
        let expiresAt := now + leaseMs
        ((key.zaddXX expiresAt member).pexpire (now + leaseMs), [1, expiresAt, now])

/-- The reply of `ZREM`: the number of removed members. -/
def removedCount (key : SortedSetKey Operation) (member : Operation) : Int :=
  if (key.zscore member).isSome then 1 else 0

/-- `concurrency_release.lua`. -/
def releaseScript (member : Operation) (key : SortedSetKey Operation) :
    SortedSetKey Operation × List Int :=
  ((key.zrem member).delEmpty, [removedCount key member])

end Leases

/-! ## Pool scripts -/

/-- The keys of a pool script: active leases, ticket sequence, ticket expiry,
the global and the caller's tickets, and the sequence counter. -/
structure PoolKeys (Operation : Type) where
  active : SortedSetKey Operation
  queue : SortedSetKey Operation
  queueExpiry : SortedSetKey Operation
  globalQueue : SortedSetKey Operation
  callerQueue : SortedSetKey Operation
  sequence : CounterKey

structure AdmitArguments where
  leaseMs : Nat
  activeLimit : Nat
  queueWaitMs : Nat
  queueLimit : Nat
  callerQueueLimit : Nat
  deriving DecidableEq, Repr

section Scripts

variable {Operation : Type} [LinearOrder Operation]

/-- `remove_expired_pool_tickets`. -/
def removeExpiredPoolTickets (now : Nat) (keys : PoolKeys Operation) : PoolKeys Operation :=
  let expired := keys.queueExpiry.zrangebyscore now
  { keys with
    queue := expired.foldl SortedSetKey.zrem keys.queue
    queueExpiry := expired.foldl SortedSetKey.zrem keys.queueExpiry }

/-- The pruning that opens the admit and the observe script: leases, the pool's
tickets, the global tickets. -/
def prunePool (now : Nat) (keys : PoolKeys Operation) : PoolKeys Operation :=
  let keys := { keys with active := keys.active.zremrangebyscore now }
  let keys := removeExpiredPoolTickets now keys
  { keys with globalQueue := keys.globalQueue.zremrangebyscore now }

/-- The admit script also prunes the caller's tickets. -/
def pruneCaller (now : Nat) (keys : PoolKeys Operation) : PoolKeys Operation :=
  { keys with callerQueue := keys.callerQueue.zremrangebyscore now }

/-- `refresh_queue_ttls`. -/
def refreshQueueTtls (queueWaitMs now : Nat) (keys : PoolKeys Operation) : PoolKeys Operation :=
  let deadline := now + (queueWaitMs + 1000)
  { keys with
    queue := keys.queue.pexpire deadline
    queueExpiry := keys.queueExpiry.pexpire deadline
    globalQueue := keys.globalQueue.pexpire deadline
    callerQueue := keys.callerQueue.pexpire deadline
    sequence := keys.sequence.pexpire deadline }

/-- `ZREM` of one member from the four ticket sets. -/
def removeTicket (member : Operation) (keys : PoolKeys Operation) : PoolKeys Operation :=
  { keys with
    queue := keys.queue.zrem member
    queueExpiry := keys.queueExpiry.zrem member
    globalQueue := keys.globalQueue.zrem member
    callerQueue := keys.callerQueue.zrem member }

def deleteEmptyQueues (keys : PoolKeys Operation) : PoolKeys Operation :=
  { keys with
    queue := keys.queue.delEmpty
    queueExpiry := keys.queueExpiry.delEmpty
    globalQueue := keys.globalQueue.delEmpty
    callerQueue := keys.callerQueue.delEmpty }

/-- A new lease of `member`. -/
def grantLease (leaseMs now : Nat) (member : Operation) (keys : PoolKeys Operation) :
    PoolKeys Operation :=
  { keys with active := (keys.active.zaddNX (now + leaseMs) member).pexpire (now + leaseMs) }

/-- A new ticket of `member` under the next sequence number. -/
def addTicket (queueWaitMs now : Nat) (member : Operation) (keys : PoolKeys Operation) :
    PoolKeys Operation :=
  let (counter, sequence) := keys.sequence.incr
  let ticketExpiresAt := now + queueWaitMs
  { keys with
    sequence := counter
    queue := keys.queue.zaddNX sequence member
    queueExpiry := keys.queueExpiry.zaddNX ticketExpiresAt member
    globalQueue := keys.globalQueue.zaddNX ticketExpiresAt member
    callerQueue := keys.callerQueue.zaddNX ticketExpiresAt member }

/-- `retry_at`. -/
def retryAt (default : Nat) (key : SortedSetKey Operation) : Nat :=
  match key.zfirstScore with
  | some earliest => if earliest < default then earliest else default
  | none => default

/-- The seven numbers every branch of the admit script returns. -/
def admitReply (status : Nat) (keys : PoolKeys Operation) (position expiresAt now : Nat) :
    List Int :=
  [status, keys.active.zcard, keys.globalQueue.zcard, keys.queue.zcard, position, expiresAt, now]

/-- The part of the admit script for a member without lease and ticket. -/
def admitNewcomer (arguments : AdmitArguments) (now : Nat) (member : Operation)
    (keys : PoolKeys Operation) : PoolKeys Operation × List Int :=
  let activeCount := keys.active.zcard
  let queueCount := keys.globalQueue.zcard
  if activeCount < arguments.activeLimit ∧ keys.queue.zcard = 0 then
    let admitted := grantLease arguments.leaseMs now member keys
    (admitted, admitReply 1 admitted 0 (now + arguments.leaseMs) now)
  else
    let retryAtMs := retryAt (now + arguments.queueWaitMs) keys.active
    if arguments.queueLimit = 0 ∨ arguments.queueLimit ≤ queueCount then
      (keys, admitReply 4 keys 0 (retryAt retryAtMs keys.globalQueue) now)
    else if arguments.callerQueueLimit ≤ keys.callerQueue.zcard then
      (keys, admitReply 3 keys 0 (retryAt retryAtMs keys.callerQueue) now)
    else
      let queued := refreshQueueTtls arguments.queueWaitMs now
        (addTicket arguments.queueWaitMs now member keys)
      match queued.queue.zrank member with
      | some rank =>
          (queued, admitReply 2 queued (rank + 1) (now + arguments.queueWaitMs) now)
      -- `rank + 1` on nil aborts the script after its writes.
      | none => (queued, [])

/-- The admit script behind its pruning: a held lease is confirmed, the head
ticket is admitted when a lease is free, another ticket waits. -/
def admitPruned (arguments : AdmitArguments) (now : Nat) (member : Operation)
    (keys : PoolKeys Operation) : PoolKeys Operation × List Int :=
  match keys.active.zscore member with
  | some existingActiveExpiry =>
      let kept := removeTicket member keys
      let kept := { kept with active := kept.active.pexpire (now + arguments.leaseMs) }
      (kept, admitReply 1 kept 0 existingActiveExpiry now)
  | none =>
      match keys.queueExpiry.zscore member, keys.queue.zrank member with
      | some existingTicketExpiry, some rank =>
          if rank = 0 ∧ keys.active.zcard < arguments.activeLimit then
            let admitted := deleteEmptyQueues
              (grantLease arguments.leaseMs now member (removeTicket member keys))
            (admitted, admitReply 1 admitted 0 (now + arguments.leaseMs) now)
          else
            let waiting := refreshQueueTtls arguments.queueWaitMs now keys
            (waiting, admitReply 2 waiting (rank + 1) existingTicketExpiry now)
      | _, _ => admitNewcomer arguments now member keys

/-- `model_pool_admit.lua`. -/
def admitScript (arguments : AdmitArguments) (now : Nat) (member : Operation)
    (keys : PoolKeys Operation) : PoolKeys Operation × List Int :=
  admitPruned arguments now member (pruneCaller now (prunePool now keys))

/-- `model_pool_cancel.lua`. -/
def cancelScript (member : Operation) (keys : PoolKeys Operation) :
    PoolKeys Operation × List Int :=
  (deleteEmptyQueues (removeTicket member keys), [removedCount keys.queue member])

/-- `model_pool_observe.lua`, which is not given the caller's key. -/
def observeScript (now : Nat) (keys : PoolKeys Operation) : PoolKeys Operation × List Int :=
  let keys := prunePool now keys
  let activeExpiry := if 0 < keys.active.zcard then keys.active.zfirstScore else some now
  let queueExpiry := if 0 < keys.queue.zcard then keys.queueExpiry.zfirstScore else some now
  let kept := { keys with
    active := keys.active.delEmpty
    queue := keys.queue.delEmpty
    queueExpiry := if 0 < keys.queue.zcard then keys.queueExpiry else .empty
    globalQueue := keys.globalQueue.delEmpty }
  match activeExpiry, queueExpiry with
  | some activeExpiry, some queueExpiry =>
      (kept, [keys.active.zcard, keys.globalQueue.zcard, keys.queue.zcard, activeExpiry,
        queueExpiry, now])
  -- `tonumber` of a missing score aborts the script.
  | _, _ => (kept, [])

end Scripts

/-! ## Reply checks -/

/-- `ControlPlaneUnavailable`. -/
inductive ControlPlaneUnavailable where
  | unavailable
  deriving DecidableEq, Repr

inductive ModelPoolStatus where
  | admitted
  | queued
  | callerQueueFull
  | queueFull
  deriving DecidableEq, Repr

structure ModelPoolDecision where
  status : ModelPoolStatus
  activeCount : Int
  activeLimit : Int
  activeRemaining : Int
  queueCount : Int
  queueLimit : Int
  queueRemaining : Int
  poolQueueCount : Int
  queuePosition : Int
  expiresAtMs : Int
  observedAtMs : Int
  deriving DecidableEq, Repr

structure ModelPoolSnapshot where
  activeCount : Int
  activeLimit : Int
  activeRemaining : Int
  queueCount : Int
  queueLimit : Int
  queueRemaining : Int
  poolQueueCount : Int
  nextActiveExpiresAtMs : Int
  nextQueueExpiresAtMs : Int
  observedAtMs : Int
  deriving DecidableEq, Repr

def statusOf (value : Int) : Option ModelPoolStatus :=
  if value = 1 then some .admitted
  else if value = 2 then some .queued
  else if value = 3 then some .callerQueueFull
  else if value = 4 then some .queueFull
  else none

/-- The checks of `admit_or_enqueue` on a reply. -/
def checkAdmitReply (activeLimit queueLimit : Nat) :
    List Int → Except ControlPlaneUnavailable ModelPoolDecision
  | [statusValue, activeCount, queueCount, poolQueueCount, position, expiresAt, observedAt] =>
      match statusOf statusValue with
      | none => .error .unavailable
      | some status => do
          require (0 ≤ activeCount ∧ activeCount ≤ activeLimit) .unavailable
          require (0 ≤ queueCount ∧ queueCount ≤ queueLimit) .unavailable
          require (0 ≤ poolQueueCount ∧ poolQueueCount ≤ queueCount) .unavailable
          require (observedAt ≤ expiresAt) .unavailable
          require (¬(status = .admitted ∧ (activeCount < 1 ∨ position ≠ 0))) .unavailable
          require (¬(status = .queued ∧ ¬(1 ≤ position ∧ position ≤ poolQueueCount)))
            .unavailable
          require (¬((status ≠ .admitted ∧ status ≠ .queued) ∧ position ≠ 0)) .unavailable
          return {
            status := status
            activeCount := activeCount
            activeLimit := activeLimit
            activeRemaining := max (activeLimit - activeCount) 0
            queueCount := queueCount
            queueLimit := queueLimit
            queueRemaining := max (queueLimit - queueCount) 0
            poolQueueCount := poolQueueCount
            queuePosition := position
            expiresAtMs := expiresAt
            observedAtMs := observedAt }
  | _ => .error .unavailable

/-- The checks of `observe` on a reply. -/
def checkObserveReply (activeLimit queueLimit : Nat) :
    List Int → Except ControlPlaneUnavailable ModelPoolSnapshot
  | [activeCount, queueCount, poolQueueCount, activeExpiry, queueExpiry, observedAt] => do
      require (0 ≤ activeCount ∧ activeCount ≤ activeLimit) .unavailable
      require (0 ≤ queueCount ∧ queueCount ≤ queueLimit) .unavailable
      require (0 ≤ poolQueueCount ∧ poolQueueCount ≤ queueCount) .unavailable
      require (observedAt ≤ activeExpiry) .unavailable
      require (observedAt ≤ queueExpiry) .unavailable
      require (¬(activeCount = 0 ∧ activeExpiry ≠ observedAt)) .unavailable
      require (¬(poolQueueCount = 0 ∧ queueExpiry ≠ observedAt)) .unavailable
      return {
        activeCount := activeCount
        activeLimit := activeLimit
        activeRemaining := max (activeLimit - activeCount) 0
        queueCount := queueCount
        queueLimit := queueLimit
        queueRemaining := max (queueLimit - queueCount) 0
        poolQueueCount := poolQueueCount
        nextActiveExpiresAtMs := activeExpiry
        nextQueueExpiresAtMs := queueExpiry
        observedAtMs := observedAt }
  | _ => .error .unavailable

/-- The checks of `heartbeat` on a reply. -/
def checkHeartbeatReply : List Int → Except ControlPlaneUnavailable Bool
  | [extended, expiresAt, observedAt] => do
      require (extended = 0 ∨ extended = 1) .unavailable
      require (observedAt ≤ expiresAt) .unavailable
      return extended = 1
  | _ => .error .unavailable

/-- The checks of `release` and of `cancel` on a reply. -/
def checkRemovedReply : List Int → Except ControlPlaneUnavailable Bool
  | [removed] => do
      require (removed = 0 ∨ removed = 1) .unavailable
      return removed = 1
  | _ => .error .unavailable

/-! ## The store of all pools -/

/-- What the limiter is configured with, within the bounds its constructor and
`_validate_limits` accept, and the one pool and caller of every operation. -/
structure PoolConfiguration (Pool Caller Operation : Type) where
  leaseSeconds : Nat
  queueWaitSeconds : Nat
  activeLimit : Pool → Nat
  queueLimit : Nat
  callerQueueLimit : Nat
  poolOf : Operation → Pool
  callerOf : Operation → Caller
  observer : Caller
  leaseBounds : 1 ≤ leaseSeconds ∧ leaseSeconds ≤ 900
  queueWaitBounds : 1 ≤ queueWaitSeconds ∧ queueWaitSeconds ≤ 300
  activeLimitBounds : ∀ pool, 1 ≤ activeLimit pool ∧ activeLimit pool ≤ 1000000
  queueLimitBound : queueLimit ≤ 1000000
  callerQueueLimitBound : callerQueueLimit ≤ 1000000
  callerQueueEnabled : 0 < queueLimit → 0 < callerQueueLimit

structure PoolStore (Pool Caller Operation : Type) where
  active : Pool → SortedSetKey Operation
  queue : Pool → SortedSetKey Operation
  queueExpiry : Pool → SortedSetKey Operation
  globalQueue : SortedSetKey Operation
  callerQueue : Caller → SortedSetKey Operation
  sequence : Pool → CounterKey

/-- One limiter call. -/
inductive PoolCommand (Pool Operation : Type) where
  | admitOrEnqueue (operation : Operation)
  | heartbeat (operation : Operation)
  | release (operation : Operation)
  | cancel (operation : Operation)
  | observe (pool : Pool)

namespace PoolStore

variable {Pool Caller Operation : Type}

def empty : PoolStore Pool Caller Operation :=
  ⟨fun _ => .empty, fun _ => .empty, fun _ => .empty, .empty, fun _ => .empty, fun _ => .empty⟩

/-- The keys of one pool and one caller. -/
def keys (store : PoolStore Pool Caller Operation) (pool : Pool) (caller : Caller) :
    PoolKeys Operation :=
  ⟨store.active pool, store.queue pool, store.queueExpiry pool, store.globalQueue,
    store.callerQueue caller, store.sequence pool⟩

def save [DecidableEq Pool] [DecidableEq Caller] (store : PoolStore Pool Caller Operation)
    (pool : Pool) (caller : Caller) (keys : PoolKeys Operation) :
    PoolStore Pool Caller Operation where
  active := Function.update store.active pool keys.active
  queue := Function.update store.queue pool keys.queue
  queueExpiry := Function.update store.queueExpiry pool keys.queueExpiry
  globalQueue := keys.globalQueue
  callerQueue := Function.update store.callerQueue caller keys.callerQueue
  sequence := Function.update store.sequence pool keys.sequence

/-- The store as a script at time `now` finds it. -/
def expire (store : PoolStore Pool Caller Operation) (now : Nat) :
    PoolStore Pool Caller Operation where
  active := fun pool => (store.active pool).expire now
  queue := fun pool => (store.queue pool).expire now
  queueExpiry := fun pool => (store.queueExpiry pool).expire now
  globalQueue := store.globalQueue.expire now
  callerQueue := fun caller => (store.callerQueue caller).expire now
  sequence := fun pool => (store.sequence pool).expire now

end PoolStore

section Commands

variable {Pool Caller Operation : Type} [LinearOrder Operation]
variable (configuration : PoolConfiguration Pool Caller Operation)

def PoolConfiguration.leaseMs : Nat := configuration.leaseSeconds * 1000

def PoolConfiguration.queueWaitMs : Nat := configuration.queueWaitSeconds * 1000

def PoolConfiguration.arguments (pool : Pool) : AdmitArguments where
  leaseMs := configuration.leaseMs
  activeLimit := configuration.activeLimit pool
  queueWaitMs := configuration.queueWaitMs
  queueLimit := configuration.queueLimit
  callerQueueLimit := configuration.callerQueueLimit

/-- The pool whose keys a command names. -/
def PoolCommand.pool : PoolCommand Pool Operation → Pool
  | .admitOrEnqueue operation | .heartbeat operation | .release operation | .cancel operation =>
      configuration.poolOf operation
  | .observe pool => pool

/-- The caller whose key a command names; an observation names none that holds tickets. -/
def PoolCommand.caller : PoolCommand Pool Operation → Caller
  | .admitOrEnqueue operation | .heartbeat operation | .release operation | .cancel operation =>
      configuration.callerOf operation
  | .observe _ => configuration.observer

/-- The script of a command on its keys. -/
def PoolCommand.script (now : Nat) (keys : PoolKeys Operation) :
    PoolCommand Pool Operation → PoolKeys Operation × List Int
  | .admitOrEnqueue operation =>
      admitScript (configuration.arguments (configuration.poolOf operation)) now operation keys
  | .heartbeat operation =>
      let (active, reply) := heartbeatScript configuration.leaseMs now operation keys.active
      ({ keys with active := active }, reply)
  | .release operation =>
      let (active, reply) := releaseScript operation keys.active
      ({ keys with active := active }, reply)
  | .cancel operation => cancelScript operation keys
  | .observe _ => observeScript now keys

variable [DecidableEq Pool] [DecidableEq Caller]

/-- One command at time `now`: keys past their deadline are gone, and the script
runs on the keys of its pool and caller. -/
def PoolCommand.execute (now : Nat) (command : PoolCommand Pool Operation)
    (store : PoolStore Pool Caller Operation) :
    PoolStore Pool Caller Operation × List Int :=
  let alive := store.expire now
  let (keys, reply) := command.script configuration now
    (alive.keys (command.pool configuration) (command.caller configuration))
  (alive.save (command.pool configuration) (command.caller configuration) keys, reply)

end Commands

end Zangpu.Limits.ModelPool
