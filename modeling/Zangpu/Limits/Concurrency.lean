import Zangpu.Limits.ModelPool.Fairness

/-!
The leases of one operation.

Owns: `concurrency_acquire.lua` with the reply checks of `ConcurrencyLimiter`;
what it means that a key holds a lease, and that it keeps it until a time; and
what the acquire and the heartbeat script do to the lease of one operation,
whatever other operations hold.

Does not own: the store of all keys, and who calls the scripts.
-/

set_option autoImplicit false

namespace Zangpu.Limits.Concurrency

open Zangpu.Foundation
open Zangpu.Foundation.SortedSetKey
open Zangpu.Limits.ModelPool

variable {Operation : Type} [LinearOrder Operation]

/-! ## The acquire script -/

/-- `concurrency_acquire.lua`. -/
def acquireScript (leaseMs concurrencyLimit now : Nat) (member : Operation)
    (key : SortedSetKey Operation) : SortedSetKey Operation × List Int :=
  let key := key.zremrangebyscore now
  match key.zscore member with
  | some existingExpiry =>
      (key.pexpire (now + leaseMs), [1, key.zcard, existingExpiry, now])
  | none =>
      if concurrencyLimit ≤ key.zcard then
        let retryAtMs := key.zfirstScore.getD (now + leaseMs)
        (key.pexpire (now + leaseMs), [0, key.zcard, retryAtMs, now])
      else
        let expiresAtMs := now + leaseMs
        let acquired := (key.zaddNX expiresAtMs member).pexpire (now + leaseMs)
        (acquired, [1, acquired.zcard, expiresAtMs, now])

/-- A checked reply of the acquire script. -/
structure AcquireReply where
  allowed : Bool
  count : Int
  leaseExpiresAtMs : Int
  observedAtMs : Int
  deriving DecidableEq, Repr

/-- The checks of `acquire` on a reply. -/
def checkAcquireReply : List Int → Except ControlPlaneUnavailable AcquireReply
  | [allowedValue, count, leaseExpiresAt, observedAt] => do
      require (allowedValue = 0 ∨ allowedValue = 1) .unavailable
      require (0 ≤ count) .unavailable
      require (observedAt ≤ leaseExpiresAt) .unavailable
      return ⟨allowedValue = 1, count, leaseExpiresAt, observedAt⟩
  | _ => .error .unavailable

/-! ## Leases -/

/-- The key holds an unexpired entry of the member: a lease, or a ticket. -/
def Held (now : Nat) (key : SortedSetKey Operation) (member : Operation) : Prop :=
  ((key.expire now).zscore member).any (now < ·) = true

instance (now : Nat) (key : SortedSetKey Operation) (member : Operation) :
    Decidable (Held now key member) :=
  inferInstanceAs (Decidable (_ = true))

/-- The key stores a lease that ends at the score, and no deadline drops it before. -/
structure LeasedUntil (score : Nat) (key : SortedSetKey Operation) (member : Operation) :
    Prop where
  stored : key.zscore member = some score
  kept : ∀ deadline ∈ key.deadline, score ≤ deadline

theorem held_iff {now : Nat} {key : SortedSetKey Operation} {member : Operation} :
    Held now key member ↔ ∃ score, (key.expire now).zscore member = some score ∧ now < score := by
  unfold Held
  rw [Option.any_eq_true]
  simp

/-- What is held later is held before. -/
theorem Held.earlier {now later : Nat} {key : SortedSetKey Operation} {member : Operation}
    (held : Held later key member) (passes : now ≤ later) : Held now key member := by
  obtain ⟨score, stored, live⟩ := held_iff.mp held
  rw [zscore_expire] at stored
  split at stored
  · cases stored
  · rename_i alive
    refine held_iff.mpr ⟨score, ?_, by omega⟩
    rw [zscore_expire, if_neg]
    · exact stored
    · rintro ⟨deadline, due, passed⟩
      exact alive ⟨deadline, due, by omega⟩

@[simp] theorem held_expire {now : Nat} {key : SortedSetKey Operation} {member : Operation} :
    Held now (key.expire now) member ↔ Held now key member := by
  unfold Held
  rw [show (key.expire now).expire now = key.expire now from ?_]
  unfold SortedSetKey.expire
  split
  · rfl
  · rfl

theorem not_held_of_absent {now : Nat} {key : SortedSetKey Operation} {member : Operation}
    (absent : key.zscore member = none) : ¬Held now key member := by
  rw [held_iff, zscore_expire, absent]
  simp

theorem score_le_of_not_held {now : Nat} {key : SortedSetKey Operation} {member : Operation}
    (unheld : ¬Held now key member) (score : Nat)
    (stored : (key.expire now).zscore member = some score) : score ≤ now := by
  by_contra live
  exact unheld (held_iff.mpr ⟨score, stored, by omega⟩)

theorem LeasedUntil.expire {score now : Nat} {key : SortedSetKey Operation} {member : Operation}
    (leased : LeasedUntil score key member) (live : now < score) : key.expire now = key := by
  unfold SortedSetKey.expire
  rw [if_neg]
  rintro ⟨deadline, due, passed⟩
  have kept := leased.kept deadline due
  omega

theorem LeasedUntil.held {score now : Nat} {key : SortedSetKey Operation} {member : Operation}
    (leased : LeasedUntil score key member) (live : now < score) : Held now key member := by
  rw [held_iff, leased.expire live]
  exact ⟨score, leased.stored, live⟩

omit [LinearOrder Operation] in
theorem le_deadline_pexpire {key : SortedSetKey Operation} {until_ deadline : Nat}
    (due : deadline ∈ (key.pexpire until_).deadline) : until_ ≤ deadline := by
  unfold pexpire ofEntries at due
  dsimp only at due
  split at due
  · cases due
  · exact (Option.some.inj due).le

theorem leasedUntil_granted {leaseMs now : Nat} {key : SortedSetKey Operation}
    {member : Operation} (absent : key.zscore member = none) :
    LeasedUntil (now + leaseMs) ((key.zaddNX (now + leaseMs) member).pexpire (now + leaseMs))
      member where
  stored := by rw [zscore_granted absent, if_pos rfl]
  kept _ due := le_deadline_pexpire due

/-- An unexpired lease is renewed. -/
theorem heartbeatScript_renews {leaseMs now score : Nat} {key : SortedSetKey Operation}
    {member : Operation} (leased : LeasedUntil score key member) (live : now < score) :
    LeasedUntil (now + leaseMs) (heartbeatScript leaseMs now member key).1 member ∧
      (heartbeatScript leaseMs now member key).2 = [1, ((now + leaseMs : Nat) : Int), (now : Int)] := by
  unfold heartbeatScript
  simp only [leased.stored, if_neg (show ¬score ≤ now by omega)]
  refine ⟨⟨?_, fun _ due => le_deadline_pexpire due⟩, trivial⟩
  rw [zscore_renewed leased.stored, if_pos rfl]

/-- A reply that a lease was renewed comes with the renewal. -/
theorem heartbeatScript_renewed {leaseMs now : Nat} {key : SortedSetKey Operation}
    {member : Operation}
    (renewed : checkHeartbeatReply (heartbeatScript leaseMs now member key).2 = .ok true) :
    LeasedUntil (now + leaseMs) (heartbeatScript leaseMs now member key).1 member := by
  cases stored : key.zscore member with
  | none => simp [heartbeatScript, stored, checkHeartbeatReply, require] at renewed
  | some score =>
      by_cases expired : score ≤ now
      · simp [heartbeatScript, stored, expired, checkHeartbeatReply, require] at renewed
      · unfold heartbeatScript
        simp only [stored, if_neg expired]
        refine ⟨?_, fun _ due => le_deadline_pexpire due⟩
        rw [zscore_renewed stored, if_pos rfl]

theorem acquireScript_allowed {leaseMs limit now : Nat} {key : SortedSetKey Operation}
    {member : Operation} {reply : AcquireReply}
    (unleased : ∀ score, key.zscore member = some score → score ≤ now)
    (checked : checkAcquireReply (acquireScript leaseMs limit now member key).2 = .ok reply)
    (allowed : reply.allowed = true) :
    LeasedUntil (now + leaseMs) (acquireScript leaseMs limit now member key).1 member := by
  have absent : (key.zremrangebyscore now).zscore member = none := by
    rw [Option.eq_none_iff_forall_ne_some]
    intro score stored
    obtain ⟨old, live⟩ := zscore_pruned.mp stored
    have expired := unleased score old
    omega
  unfold acquireScript at checked ⊢
  simp only [absent] at checked ⊢
  split
  · rename_i full
    simp only [if_pos full, checkAcquireReply, require] at checked
    have denied : reply.allowed = false := by
      simp only [bind, Except.bind] at checked
      split at checked
      · cases checked
      · split at checked
        · cases checked
        · split at checked
          · cases checked
          · cases checked
            rfl
    rw [denied] at allowed
    cases allowed
  · exact leasedUntil_granted absent

end Zangpu.Limits.Concurrency
