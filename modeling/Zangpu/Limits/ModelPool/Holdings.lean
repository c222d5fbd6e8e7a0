import Zangpu.Limits.Concurrency

/-!
The lease and the ticket of one operation in the model-pool scripts.

Owns: the pairing of a pool's ticket keys, which hold the same operations and
fall due together; and what the admit, the cancel and the release script leave of
the lease and of the ticket of their operation, by the decision they reply.

Does not own: limits and counts. Nothing here depends on them, so the results
hold whatever limits other callers of the scripts use.
-/

set_option autoImplicit false

namespace Zangpu.Limits.ModelPool

open Zangpu.Foundation
open Zangpu.Foundation.SortedSetKey
open Zangpu.Limits.Concurrency

variable {Operation : Type} [LinearOrder Operation]

/-! ## Paired keys -/

/-- The two keys hold the same members and fall due together. -/
structure Paired (queue queueExpiry : SortedSetKey Operation) : Prop where
  sameDeadline : queue.deadline = queueExpiry.deadline
  sameMembers : ∀ operation, (queue.zscore operation).isSome =
    (queueExpiry.zscore operation).isSome

theorem rows_eq_nil_iff {key : SortedSetKey Operation} :
    key.entries.rows = [] ↔ ∀ operation, (key.zscore operation).isSome = false := by
  constructor
  · intro empty operation
    rw [zscore_of_zcard_eq_zero (by rw [zcard, empty]; rfl)]
    rfl
  · intro absent
    rw [List.eq_nil_iff_forall_not_mem]
    rintro ⟨operation, score⟩ stored
    have present := absent operation
    rw [zscore_eq_some.mpr stored] at present
    cases present

/-- Keys with the same members are emptied by the same commands. -/
theorem paired_ofEntries {left right : ScoreTable Operation} {deadline : Option Nat}
    (same : ∀ operation, (left.find? operation).isSome = (right.find? operation).isSome) :
    Paired (ofEntries left deadline) (ofEntries right deadline) := by
  have members : ∀ operation, ((ofEntries left deadline).zscore operation).isSome =
      ((ofEntries right deadline).zscore operation).isSome := by
    intro operation
    simp [same operation]
  refine ⟨?_, members⟩
  have emptied : left.rows = [] ↔ right.rows = [] := by
    rw [show left.rows = (ofEntries left deadline).entries.rows from rfl,
      show right.rows = (ofEntries right deadline).entries.rows from rfl, rows_eq_nil_iff,
      rows_eq_nil_iff]
    simp only [members]
  simp only [ofEntries, emptied]

variable {queue queueExpiry : SortedSetKey Operation}

theorem Paired.expire (paired : Paired queue queueExpiry) (now : Nat) :
    Paired (queue.expire now) (queueExpiry.expire now) := by
  unfold SortedSetKey.expire
  rw [paired.sameDeadline]
  split
  · exact ⟨rfl, fun _ => rfl⟩
  · exact paired

theorem Paired.pexpire (paired : Paired queue queueExpiry) (deadline : Nat) :
    Paired (queue.pexpire deadline) (queueExpiry.pexpire deadline) := by
  refine paired_ofEntries fun operation => ?_
  have same := paired.sameMembers operation
  unfold zscore at same
  simpa using same

theorem Paired.zrem (paired : Paired queue queueExpiry) (removed : Operation) :
    Paired (queue.zrem removed) (queueExpiry.zrem removed) := by
  have members : ∀ operation, ((queue.zrem removed).zscore operation).isSome =
      ((queueExpiry.zrem removed).zscore operation).isSome := by
    intro operation
    rw [zscore_zrem, zscore_zrem]
    split
    · rfl
    · exact paired.sameMembers operation
  unfold SortedSetKey.zrem at members ⊢
  rw [paired.sameDeadline] at members ⊢
  refine paired_ofEntries fun operation => ?_
  have same := members operation
  simpa using same

theorem Paired.foldl_zrem (paired : Paired queue queueExpiry) (removed : List Operation) :
    Paired (removed.foldl SortedSetKey.zrem queue) (removed.foldl SortedSetKey.zrem queueExpiry) := by
  induction removed generalizing queue queueExpiry with
  | nil => exact paired
  | cons head rest inductionHypothesis => exact inductionHypothesis (paired.zrem head)

theorem Paired.zaddNX (paired : Paired queue queueExpiry) (position expiry : Nat)
    (added : Operation) :
    Paired (queue.zaddNX position added) (queueExpiry.zaddNX expiry added) := by
  have members : ∀ operation, ((queue.zaddNX position added).zscore operation).isSome =
      ((queueExpiry.zaddNX expiry added).zscore operation).isSome := by
    intro operation
    have sameAdded : queue.zscore added = none ↔ queueExpiry.zscore added = none := by
      have same := paired.sameMembers added
      rw [← Option.not_isSome_iff_eq_none, ← Option.not_isSome_iff_eq_none, same]
    rw [zscore_zaddNX, zscore_zaddNX]
    simp only [sameAdded]
    split
    · rfl
    · exact paired.sameMembers operation
  unfold SortedSetKey.zaddNX at members ⊢
  rw [paired.sameDeadline] at members ⊢
  refine paired_ofEntries fun operation => ?_
  have same := members operation
  simpa using same

/-! ## Decisions -/

/-- The first number of an accepted reply is the status of its decision. -/
theorem status_of_checkAdmitReply {activeLimit queueLimit : Nat} {reply : List Int}
    {decision : ModelPoolDecision}
    (checked : checkAdmitReply activeLimit queueLimit reply = .ok decision) :
    reply.head?.bind statusOf = some decision.status := by
  unfold checkAdmitReply at checked
  split at checked
  · rename_i statusValue activeCount queueCount poolQueueCount position expiresAt observedAt
    split at checked
    · cases checked
    · rename_i status known
      simp only [bind_ok_iff] at checked
      obtain ⟨_, _, _, _, _, _, _, _, _, _, _, _, _, _, built⟩ := checked
      cases built
      exact known
  · cases checked

/-! ## The admit script -/

variable {arguments : AdmitArguments} {now : Nat} {member : Operation}

/-- What an admit script can leave its operation, by the status it replies. -/
inductive Outcome (arguments : AdmitArguments) (now : Nat) (member : Operation) :
    PoolKeys Operation × List Int → Prop where
  | admitted {keys : PoolKeys Operation} {reply : List Int} (status : reply.head? = some 1)
      (leased : LeasedUntil (now + arguments.leaseMs) keys.active member)
      (unticketed : keys.queueExpiry.zscore member = none) :
      Outcome arguments now member (keys, reply)
  | queued {keys : PoolKeys Operation} {reply : List Int} (status : reply.head? = some 2)
      (unleased : keys.active.zscore member = none) : Outcome arguments now member (keys, reply)
  | refused {keys : PoolKeys Operation} {reply : List Int}
      (status : reply.head? = some 3 ∨ reply.head? = some 4)
      (unleased : keys.active.zscore member = none)
      (unticketed : keys.queueExpiry.zscore member = none) :
      Outcome arguments now member (keys, reply)
  | aborted {keys : PoolKeys Operation} (unleased : keys.active.zscore member = none) :
      Outcome arguments now member (keys, [])

theorem admitNewcomer_outcome {keys : PoolKeys Operation}
    (unleased : keys.active.zscore member = none)
    (unticketed : keys.queueExpiry.zscore member = none) :
    Outcome arguments now member (admitNewcomer arguments now member keys) := by
  unfold admitNewcomer
  dsimp only
  split
  · exact .admitted rfl (leasedUntil_granted unleased) unticketed
  · split
    · exact .refused (Or.inr rfl) unleased unticketed
    · split
      · exact .refused (Or.inl rfl) unleased unticketed
      · split
        · exact .queued rfl unleased
        · exact .aborted unleased

theorem admitPruned_outcome {keys : PoolKeys Operation}
    (paired : Paired keys.queue keys.queueExpiry) (unleased : keys.active.zscore member = none) :
    Outcome arguments now member (admitPruned arguments now member keys) := by
  unfold admitPruned
  simp only [unleased]
  split
  · split
    · rename_i ticket rank ticketed ranked head
      refine .admitted rfl ?_ ?_
      · exact leasedUntil_granted unleased
      · rw [deleteEmptyQueues_eq]
        show (keys.queueExpiry.zrem member).zscore member = none
        rw [zscore_zrem, if_pos rfl]
    · exact .queued rfl unleased
  · rename_i unranked
    refine admitNewcomer_outcome unleased ?_
    cases ticketed : keys.queueExpiry.zscore member with
    | none => rfl
    | some ticket =>
        have queued : (keys.queue.zscore member).isSome := by
          rw [paired.sameMembers, ticketed]
          rfl
        obtain ⟨position, stored⟩ := Option.isSome_iff_exists.mp queued
        obtain ⟨rank, ranked⟩ := zrank_isSome stored
        exact (unranked ticket rank ticketed ranked).elim

theorem Paired.prunePool {keys : PoolKeys Operation} (now : Nat)
    (paired : Paired keys.queue keys.queueExpiry) :
    Paired (ModelPool.prunePool now keys).queue (ModelPool.prunePool now keys).queueExpiry :=
  paired.foldl_zrem _

theorem prunePool_unleased {keys : PoolKeys Operation}
    (unleased : ∀ score, keys.active.zscore member = some score → score ≤ now) :
    (prunePool now keys).active.zscore member = none := by
  rw [Option.eq_none_iff_forall_ne_some]
  intro score stored
  obtain ⟨old, live⟩ := zscore_pruned.mp stored
  have expired := unleased score old
  omega

theorem admitScript_outcome {keys : PoolKeys Operation}
    (paired : Paired keys.queue keys.queueExpiry)
    (unleased : ∀ score, keys.active.zscore member = some score → score ≤ now) :
    Outcome arguments now member (admitScript arguments now member keys) :=
  admitPruned_outcome (paired.prunePool now) (prunePool_unleased unleased)

/-! ## Pairing -/

theorem Paired.removeTicket {keys : PoolKeys Operation} (member : Operation)
    (paired : Paired keys.queue keys.queueExpiry) :
    Paired (ModelPool.removeTicket member keys).queue
      (ModelPool.removeTicket member keys).queueExpiry :=
  paired.zrem member

theorem Paired.admitNewcomer {keys : PoolKeys Operation}
    (paired : Paired keys.queue keys.queueExpiry) :
    Paired (ModelPool.admitNewcomer arguments now member keys).1.queue
      (ModelPool.admitNewcomer arguments now member keys).1.queueExpiry := by
  have queued : Paired
      (refreshQueueTtls arguments.queueWaitMs now
        (addTicket arguments.queueWaitMs now member keys)).queue
      (refreshQueueTtls arguments.queueWaitMs now
        (addTicket arguments.queueWaitMs now member keys)).queueExpiry :=
    (paired.zaddNX _ _ member).pexpire _
  unfold ModelPool.admitNewcomer
  dsimp only
  split
  · exact paired
  · split
    · exact paired
    · split
      · exact paired
      · split
        · exact queued
        · exact queued

theorem Paired.admitScript {keys : PoolKeys Operation}
    (paired : Paired keys.queue keys.queueExpiry) :
    Paired (ModelPool.admitScript arguments now member keys).1.queue
      (ModelPool.admitScript arguments now member keys).1.queueExpiry := by
  have pruned := paired.prunePool now
  unfold ModelPool.admitScript admitPruned
  split
  · exact pruned.removeTicket member
  · split
    · split
      · rw [deleteEmptyQueues_eq]
        exact pruned.removeTicket member
      · exact pruned.pexpire _
    · have pruned : Paired (pruneCaller now (ModelPool.prunePool now keys)).queue
          (pruneCaller now (ModelPool.prunePool now keys)).queueExpiry := pruned
      exact pruned.admitNewcomer

theorem Paired.cancelScript {keys : PoolKeys Operation}
    (paired : Paired keys.queue keys.queueExpiry) :
    Paired (ModelPool.cancelScript member keys).1.queue
      (ModelPool.cancelScript member keys).1.queueExpiry := by
  show Paired (deleteEmptyQueues _).queue (deleteEmptyQueues _).queueExpiry
  rw [deleteEmptyQueues_eq]
  exact paired.removeTicket member

theorem cancelScript_active (keys : PoolKeys Operation) :
    (cancelScript member keys).1.active = keys.active := by
  show (deleteEmptyQueues _).active = _
  rw [deleteEmptyQueues_eq]
  rfl

theorem cancelScript_unticketed (keys : PoolKeys Operation) :
    (cancelScript member keys).1.queueExpiry.zscore member = none := by
  show (deleteEmptyQueues _).queueExpiry.zscore member = none
  rw [deleteEmptyQueues_eq]
  show (keys.queueExpiry.zrem member).zscore member = none
  rw [zscore_zrem, if_pos rfl]

theorem Paired.observeScript {keys : PoolKeys Operation}
    (paired : Paired keys.queue keys.queueExpiry) :
    Paired (ModelPool.observeScript now keys).1.queue
      (ModelPool.observeScript now keys).1.queueExpiry := by
  have pruned := paired.prunePool now
  have kept : Paired (ModelPool.prunePool now keys).queue
      (if 0 < (ModelPool.prunePool now keys).queue.zcard then
        (ModelPool.prunePool now keys).queueExpiry else SortedSetKey.empty) := by
    split
    · exact pruned
    · rename_i vacant
      have emptied : (ModelPool.prunePool now keys).queue = SortedSetKey.empty := by
        rw [← delEmpty_eq (ModelPool.prunePool now keys).queue, delEmpty, if_pos (by omega)]
      rw [emptied]
      exact ⟨rfl, fun _ => rfl⟩
  unfold ModelPool.observeScript
  simp only [delEmpty_eq]
  split
  · exact kept
  · exact kept

/-! ## Stores -/

section Stores

variable {Pool Caller : Type}

theorem Paired.script {keys : PoolKeys Operation} (command : PoolCommand Pool Operation)
    (configuration : PoolConfiguration Pool Caller Operation)
    (paired : Paired keys.queue keys.queueExpiry) :
    Paired (command.script configuration now keys).1.queue
      (command.script configuration now keys).1.queueExpiry := by
  cases command with
  | admitOrEnqueue operation => exact paired.admitScript
  | heartbeat operation | release operation => exact paired
  | cancel operation => exact paired.cancelScript
  | observe pool => exact paired.observeScript

variable [DecidableEq Pool] [DecidableEq Caller]

/-- What scripts have written, each with the limits of its own caller. -/
inductive Scripted : PoolStore Pool Caller Operation → Prop where
  | empty : Scripted .empty
  | execute {store : PoolStore Pool Caller Operation}
      (configuration : PoolConfiguration Pool Caller Operation) (now : Nat)
      (command : PoolCommand Pool Operation) (earlier : Scripted store) :
      Scripted (command.execute configuration now store).1

/-- Scripts keep the ticket keys of every pool paired. -/
theorem Scripted.paired {store : PoolStore Pool Caller Operation} (scripted : Scripted store)
    (pool : Pool) : Paired (store.queue pool) (store.queueExpiry pool) := by
  induction scripted generalizing pool with
  | empty => exact ⟨rfl, fun _ => rfl⟩
  | execute configuration now command earlier inductionHypothesis =>
      simp only [PoolCommand.execute, PoolStore.save]
      by_cases own : pool = command.pool configuration
      · subst own
        rw [Function.update_self, Function.update_self]
        exact ((inductionHypothesis _).expire now).script command configuration
      · rw [Function.update_of_ne own, Function.update_of_ne own]
        exact (inductionHypothesis pool).expire now

end Stores

end Zangpu.Limits.ModelPool
