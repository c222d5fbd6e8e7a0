import Zangpu.Workers.Outbox.Effects

/-!
Binding status and staged versions.

Owns: what the status of a binding promises about its versions, the runs whose
commits find the versions they have read, that the promise holds in them, and a
run in which it does not.

Does not own: fencing of claims.
-/

set_option autoImplicit false

namespace Zangpu.Workers.Outbox

open Zangpu.Foundation
open Zangpu.Models
open Zangpu.Integrations.Bifrost

/-! ## The promise -/

/-- The statuses that say a binding is in sync. -/
def Settles : BindingSyncStatus → Prop
  | .active | .disabled => True
  | .pending | .error => False

instance (status : BindingSyncStatus) : Decidable (Settles status) := by
  cases status <;> (unfold Settles; infer_instance)

/-- The status of a settled binding reflects its latest staged version. -/
structure ReflectsLatest (system : System) (binding : ApiClientBinding) : Prop where
  complete : binding.zangpuServiceUserId.isSome ∧ binding.bifrostVirtualKeyId.isSome ∧
    binding.bifrostValueCiphertext.isSome ∧ binding.bifrostValueKeyVersion.isSome
  carried : ∃ item ∈ system.shared.database.outbox.rows, item.aggregateId = binding.id ∧
    item.payload.bindingVersion = binding.version
  completed : ∀ item ∈ system.shared.database.outbox.rows, item.aggregateId = binding.id →
    item.payload.bindingVersion = binding.version → item.status = .completed
  newest : ∀ item ∈ system.shared.database.outbox.rows, item.aggregateId = binding.id →
    item.payload.bindingVersion ≤ binding.version

def StatusReflectsLatest (system : System) : Prop :=
  ∀ binding ∈ system.shared.database.bindings.rows, Settles binding.syncStatus →
    ReflectsLatest system binding

/-! ## The condition -/

/-- The binding a session has read. -/
def Session.binding? : Session → Option ApiClientBinding
  | .disabling _ binding | .syncing binding => some binding
  | .closed | .readClient _ => none

/-- A staging commit finds the version it has read, and no settled status in place
of a pending one. -/
def StagesCurrent (system : System) (index : Nat) : Prop :=
  ∀ session ∈ system.sessions[index]?, ∀ read ∈ session.binding?,
    ∀ current ∈ system.binding? read.id, current.version = read.version ∧
      (read.syncStatus = .pending → ¬ Settles current.syncStatus)

/-- A completion of the version it has read finds that version, and a failure of a
completed item of the current version has that version and no error before it. -/
def FinishesCurrent (system : System) (worker : Worker) : Prop :=
  match worker.phase with
  | .readBinding (.complete _) item (some read) =>
      ∀ current ∈ system.binding? read.id, read.version = item.payload.bindingVersion →
        current.version = read.version
  | .readBinding (.fail _) item read =>
      ∀ stored ∈ system.item? item.id, ∀ current ∈ system.binding? item.aggregateId,
        stored.status = .completed → item.payload.bindingVersion = current.version →
          ∃ seen ∈ read, seen.version = item.payload.bindingVersion ∧ seen.syncStatus ≠ .error
  | _ => True

/-- The condition on a step. -/
def CommitsCurrent (system : System) : Action → Prop
  | .stage index (.disable _) | .stage index (.sync _ _ _) => StagesCurrent system index
  | .work index (.commit _) => ∀ worker ∈ system.workers[index]?, FinishesCurrent system worker
  | _ => True

instance (system : System) (worker : Worker) : Decidable (FinishesCurrent system worker) := by
  unfold FinishesCurrent
  split <;> infer_instance

instance (system : System) (index : Nat) : Decidable (StagesCurrent system index) := by
  unfold StagesCurrent
  infer_instance

instance (system : System) (action : Action) : Decidable (CommitsCurrent system action) := by
  cases action with
  | stage index staging =>
      cases staging with
      | disable | sync => exact inferInstanceAs (Decidable (StagesCurrent system index))
      | _ => exact inferInstanceAs (Decidable True)
  | work index work =>
      cases work with
      | commit => exact inferInstanceAs
          (Decidable (∀ worker ∈ system.workers[index]?, FinishesCurrent system worker))
      | _ => exact inferInstanceAs (Decidable True)
  | serveStray | loseStray => exact inferInstanceAs (Decidable True)

/-! ## The invariant -/

structure VersionInvariant (system : System) : Prop where
  attached : ∀ itemId item, system.item? itemId = some item →
    ∃ binding, system.binding? item.aggregateId = some binding ∧
      item.payload.bindingVersion ≤ binding.version
  distinct : ∀ leftId rightId left right, system.item? leftId = some left →
    system.item? rightId = some right → left.aggregateId = right.aggregateId →
    left.payload.bindingVersion = right.payload.bindingVersion → leftId = rightId
  carried : ∀ bindingId binding, system.binding? bindingId = some binding →
    ∃ itemId item, system.item? itemId = some item ∧ item.aggregateId = bindingId ∧
      item.payload.bindingVersion = binding.version
  settled : ∀ bindingId binding, system.binding? bindingId = some binding →
    Settles binding.syncStatus → ∀ itemId item, system.item? itemId = some item →
    item.aggregateId = bindingId → item.payload.bindingVersion = binding.version →
    item.status = .completed
  synced : ∀ bindingId binding, system.binding? bindingId = some binding →
    Database.syncedRemoteFields binding = true
  opened : ∀ worker ∈ system.workers, ∀ item ∈ worker.opened?, Reading system item
  readBinding : ∀ worker ∈ system.workers, ∀ finish item read,
    worker.phase = .readBinding finish item (some read) → read.id = item.aggregateId
theorem VersionInvariant.start (sessions workers : Nat) :
    VersionInvariant (System.start sessions workers) := by
  have idle : ∀ worker ∈ (System.start sessions workers).workers, worker = .idle :=
    fun worker member => (List.mem_replicate.mp member).2
  constructor
  · intro itemId item found
    cases found
  · intro leftId rightId left right found
    cases found
  · intro bindingId binding found
    cases found
  · intro bindingId binding found
    cases found
  · intro bindingId binding found
    cases found
  · intro worker member item opened
    rw [idle worker member] at opened
    cases opened
  · intro worker member finish item read at_
    rw [idle worker member] at at_
    cases at_

section Preservation

variable {runtime : Runtime} {before after : System}

/-- An item belongs to the version of its binding or to an earlier one. -/
theorem VersionInvariant.version_le (invariant : VersionInvariant before) {itemId : String}
    {item : ControlOutbox} {binding : ApiClientBinding} (found : before.item? itemId = some item)
    (bound : before.binding? item.aggregateId = some binding) :
    item.payload.bindingVersion ≤ binding.version := by
  obtain ⟨stored, foundBinding, le⟩ := invariant.attached itemId item found
  rw [bound, Option.some.injEq] at foundBinding
  exact foundBinding ▸ le

/-- What the workers hold survives a step that keeps them. -/
theorem VersionInvariant.opened_kept (invariant : VersionInvariant before)
    (kept : ∀ itemId item, before.item? itemId = some item →
      ∃ later, after.item? itemId = some later ∧ order later = order item)
    (worker : Worker) (member : worker ∈ before.workers) (item : ControlOutbox)
    (isOpened : item ∈ worker.opened?) : Reading after item :=
  (invariant.opened worker member item isOpened).kept kept

/-! ## Staging -/

/-- A new binding with its first item. -/
theorem VersionInvariant.register (invariant : VersionInvariant before)
    {binding : ApiClientBinding} {item : ControlOutbox}
    (items : ∀ itemId, after.item? itemId =
      if itemId = item.id then some item else before.item? itemId)
    (bindings : ∀ bindingId, after.binding? bindingId =
      if bindingId = binding.id then some binding else before.binding? bindingId)
    (freshItem : before.item? item.id = none) (freshBinding : before.binding? binding.id = none)
    (owned : item.aggregateId = binding.id)
    (carries : item.payload.bindingVersion = binding.version)
    (pending : binding.syncStatus = .pending) (sameWorkers : after.workers = before.workers) :
    VersionInvariant after := by
  have kept : ∀ itemId stored, before.item? itemId = some stored →
      after.item? itemId = some stored := by
    intro itemId stored found
    rw [items, if_neg]
    · exact found
    · rintro rfl
      rw [freshItem] at found
      cases found
  -- An old item is never of the new binding.
  have others : ∀ itemId stored, before.item? itemId = some stored →
      stored.aggregateId ≠ binding.id := by
    intro itemId stored found same
    obtain ⟨_, bound, _⟩ := invariant.attached itemId stored found
    rw [same, freshBinding] at bound
    cases bound
  have cases_ : ∀ itemId stored, after.item? itemId = some stored →
      (itemId = item.id ∧ stored = item) ∨ before.item? itemId = some stored := by
    intro itemId stored found
    rw [items] at found
    split at found
    · rename_i same
      exact Or.inl ⟨same, (Option.some.inj found).symm⟩
    · exact Or.inr found
  constructor
  · intro itemId stored found
    rcases cases_ itemId stored found with ⟨_, rfl⟩ | old
    · exact ⟨binding, by rw [bindings, if_pos owned], carries.le⟩
    · obtain ⟨other, bound, le⟩ := invariant.attached itemId stored old
      exact ⟨other, by rw [bindings, if_neg (others itemId stored old)]; exact bound, le⟩
  · intro leftId rightId left right foundLeft foundRight sameBinding sameVersion
    rcases cases_ leftId left foundLeft with ⟨rfl, rfl⟩ | oldLeft
    · rcases cases_ rightId right foundRight with ⟨rfl, rfl⟩ | oldRight
      · rfl
      · exact absurd (sameBinding.symm.trans owned) (others rightId right oldRight)
    · rcases cases_ rightId right foundRight with ⟨rfl, rfl⟩ | oldRight
      · exact absurd (sameBinding.trans owned) (others leftId left oldLeft)
      · exact invariant.distinct leftId rightId left right oldLeft oldRight sameBinding sameVersion
  · intro bindingId stored found
    rw [bindings] at found
    split at found
    · rename_i same
      cases found
      exact ⟨item.id, item, by rw [items, if_pos rfl], owned.trans same.symm, carries⟩
    · obtain ⟨itemId, carrier, foundItem, rest⟩ := invariant.carried bindingId stored found
      exact ⟨itemId, carrier, kept _ _ foundItem, rest⟩
  · intro bindingId stored found settles itemId other foundItem sameBinding sameVersion
    rw [bindings] at found
    split at found
    · cases found
      rw [pending] at settles
      exact settles.elim
    · rename_i different
      rcases cases_ itemId other foundItem with ⟨_, rfl⟩ | old
      · exact absurd (sameBinding.symm.trans owned) different
      · exact invariant.settled bindingId stored found settles itemId other old sameBinding
          sameVersion
  · intro bindingId stored found
    rw [bindings] at found
    split at found
    · cases found
      simp [Database.syncedRemoteFields, pending]
    · exact invariant.synced bindingId stored found
  · rw [sameWorkers]
    exact invariant.opened_kept fun itemId stored found => ⟨stored, kept itemId stored found, rfl⟩
  · rw [sameWorkers]
    exact invariant.readBinding

/-- A staged version over the one that was read. -/
theorem VersionInvariant.stage (invariant : VersionInvariant before)
    {read current : ApiClientBinding} {item : ControlOutbox} {configHash : String} {now : Int}
    (found : before.binding? read.id = some current)
    (items : ∀ itemId, after.item? itemId =
      if itemId = item.id then some item else before.item? itemId)
    (bindings : ∀ bindingId, after.binding? bindingId =
      if bindingId = read.id then
        (before.binding? bindingId).map (writeBinding read (stagedRow read configHash now))
      else before.binding? bindingId)
    (synced : Database.syncedRemoteFields
      (writeBinding read (stagedRow read configHash now) current) = true)
    (freshItem : before.item? item.id = none) (owned : item.aggregateId = read.id)
    (carries : item.payload.bindingVersion = read.version + 1)
    (sameVersion : current.version = read.version)
    (unsettled : read.syncStatus = .pending → ¬ Settles current.syncStatus)
    (sameWorkers : after.workers = before.workers) : VersionInvariant after := by
  have kept : ∀ itemId stored, before.item? itemId = some stored →
      after.item? itemId = some stored := by
    intro itemId stored foundItem
    rw [items, if_neg]
    · exact foundItem
    · rintro rfl
      rw [freshItem] at foundItem
      cases foundItem
  have cases_ : ∀ itemId stored, after.item? itemId = some stored →
      (itemId = item.id ∧ stored = item) ∨ before.item? itemId = some stored := by
    intro itemId stored foundItem
    rw [items] at foundItem
    split at foundItem
    · rename_i same
      exact Or.inl ⟨same, (Option.some.inj foundItem).symm⟩
    · exact Or.inr foundItem
  have row : after.binding? read.id =
      some (writeBinding read (stagedRow read configHash now) current) := by
    rw [bindings, if_pos rfl, found, Option.map_some]
  have newVersion : (writeBinding read (stagedRow read configHash now) current).version =
      read.version + 1 := column_of_ne (by simp [stagedRow]) _
  have newStatus :
      ¬ Settles (writeBinding read (stagedRow read configHash now) current).syncStatus := by
    show ¬ Settles (column read.syncStatus .pending current.syncStatus)
    by_cases wasPending : BindingSyncStatus.pending = read.syncStatus
    · rw [← wasPending, column_self]
      exact unsettled wasPending.symm
    · rw [column_of_ne wasPending]
      exact id
  -- Every stored item of the binding is of an earlier version than the new one.
  have earlier : ∀ itemId stored, before.item? itemId = some stored →
      stored.aggregateId = read.id → stored.payload.bindingVersion < read.version + 1 := by
    intro itemId stored foundItem same
    have le := invariant.version_le foundItem (by rw [same]; exact found)
    omega
  constructor
  · intro itemId stored foundItem
    rcases cases_ itemId stored foundItem with ⟨_, rfl⟩ | old
    · exact ⟨_, by rw [owned]; exact row, by rw [newVersion, carries]⟩
    · by_cases same : stored.aggregateId = read.id
      · have lt := earlier itemId stored old same
        exact ⟨_, by rw [same]; exact row, by rw [newVersion]; omega⟩
      · obtain ⟨other, bound, le⟩ := invariant.attached itemId stored old
        exact ⟨other, by rw [bindings, if_neg same]; exact bound, le⟩
  · intro leftId rightId left right foundLeft foundRight sameBinding equalVersion
    rcases cases_ leftId left foundLeft with ⟨rfl, rfl⟩ | oldLeft
    · rcases cases_ rightId right foundRight with ⟨rfl, rfl⟩ | oldRight
      · rfl
      · have lt := earlier rightId right oldRight (sameBinding.symm.trans owned)
        omega
    · rcases cases_ rightId right foundRight with ⟨rfl, rfl⟩ | oldRight
      · have lt := earlier leftId left oldLeft (sameBinding.trans owned)
        omega
      · exact invariant.distinct leftId rightId left right oldLeft oldRight sameBinding
          equalVersion
  · intro bindingId stored foundBinding
    by_cases same : bindingId = read.id
    · rw [same, row, Option.some.injEq] at foundBinding
      subst foundBinding
      exact ⟨item.id, item, by rw [items, if_pos rfl], owned.trans same.symm,
        carries.trans newVersion.symm⟩
    · rw [bindings, if_neg same] at foundBinding
      obtain ⟨itemId, carrier, foundItem, rest⟩ := invariant.carried bindingId stored foundBinding
      exact ⟨itemId, carrier, kept _ _ foundItem, rest⟩
  · intro bindingId stored foundBinding settles itemId other foundItem sameBinding equalVersion
    by_cases same : bindingId = read.id
    · rw [same, row, Option.some.injEq] at foundBinding
      subst foundBinding
      exact absurd settles newStatus
    · rw [bindings, if_neg same] at foundBinding
      rcases cases_ itemId other foundItem with ⟨_, rfl⟩ | old
      · exact absurd (sameBinding.symm.trans owned) same
      · exact invariant.settled bindingId stored foundBinding settles itemId other old sameBinding
          equalVersion
  · intro bindingId stored foundBinding
    by_cases same : bindingId = read.id
    · rw [same, row, Option.some.injEq] at foundBinding
      exact foundBinding ▸ synced
    · rw [bindings, if_neg same] at foundBinding
      exact invariant.synced bindingId stored foundBinding
  · rw [sameWorkers]
    exact invariant.opened_kept fun itemId stored found => ⟨stored, kept itemId stored found, rfl⟩
  · rw [sameWorkers]
    exact invariant.readBinding

/-! ## Workers -/

/-- A step that keeps what the items ask for and the versions of the bindings keeps
all but what it says about statuses and about the workers. -/
theorem VersionInvariant.rewrite (invariant : VersionInvariant before)
    (items : ∀ itemId item, after.item? itemId = some item →
      ∃ old, before.item? itemId = some old ∧ order item = order old)
    (kept : ∀ itemId item, before.item? itemId = some item →
      ∃ later, after.item? itemId = some later ∧ order later = order item)
    (bindings : ∀ bindingId binding, after.binding? bindingId = some binding →
      ∃ old, before.binding? bindingId = some old ∧ binding.version = old.version)
    (keptBindings : ∀ bindingId binding, before.binding? bindingId = some binding →
      ∃ later, after.binding? bindingId = some later ∧ later.version = binding.version)
    (settled : ∀ bindingId binding, after.binding? bindingId = some binding →
      Settles binding.syncStatus → ∀ itemId item, after.item? itemId = some item →
      item.aggregateId = bindingId → item.payload.bindingVersion = binding.version →
      item.status = .completed)
    (synced : ∀ bindingId binding, after.binding? bindingId = some binding →
      Database.syncedRemoteFields binding = true)
    (opened : ∀ worker ∈ after.workers, ∀ item ∈ worker.opened?, Reading after item)
    (readBinding : ∀ worker ∈ after.workers, ∀ finish item read,
      worker.phase = .readBinding finish item (some read) → read.id = item.aggregateId) :
    VersionInvariant after where
  attached := by
    intro itemId item found
    obtain ⟨old, foundOld, same⟩ := items itemId item found
    obtain ⟨binding, bound, le⟩ := invariant.attached itemId old foundOld
    obtain ⟨later, boundLater, sameVersion⟩ := keptBindings _ _ bound
    refine ⟨later, ?_, ?_⟩
    · rw [show item.aggregateId = old.aggregateId from congrArg Order.aggregateId same]
      exact boundLater
    · rw [show item.payload = old.payload from congrArg Order.payload same, sameVersion]
      exact le
  distinct := by
    intro leftId rightId left right foundLeft foundRight sameBinding sameVersion
    obtain ⟨oldLeft, foundOldLeft, leftSame⟩ := items leftId left foundLeft
    obtain ⟨oldRight, foundOldRight, rightSame⟩ := items rightId right foundRight
    rw [show left.aggregateId = oldLeft.aggregateId from congrArg Order.aggregateId leftSame,
      show right.aggregateId = oldRight.aggregateId from congrArg Order.aggregateId rightSame]
      at sameBinding
    rw [show left.payload = oldLeft.payload from congrArg Order.payload leftSame,
      show right.payload = oldRight.payload from congrArg Order.payload rightSame] at sameVersion
    exact invariant.distinct leftId rightId oldLeft oldRight foundOldLeft foundOldRight sameBinding
      sameVersion
  carried := by
    intro bindingId binding found
    obtain ⟨old, foundOld, sameVersion⟩ := bindings bindingId binding found
    obtain ⟨itemId, item, foundItem, owned, carries⟩ := invariant.carried bindingId old foundOld
    obtain ⟨later, foundLater, same⟩ := kept itemId item foundItem
    refine ⟨itemId, later, foundLater, ?_, ?_⟩
    · rw [show later.aggregateId = item.aggregateId from congrArg Order.aggregateId same]
      exact owned
    · rw [show later.payload = item.payload from congrArg Order.payload same, sameVersion]
      exact carries
  settled := settled
  synced := synced
  opened := opened
  readBinding := readBinding

/-- Steps that leave the rows alone. -/
theorem VersionInvariant.still (invariant : VersionInvariant before)
    (sameItems : ∀ itemId, after.item? itemId = before.item? itemId)
    (sameBindings : ∀ bindingId, after.binding? bindingId = before.binding? bindingId)
    (opened : ∀ worker ∈ after.workers, ∀ item ∈ worker.opened?, Reading after item)
    (readBinding : ∀ worker ∈ after.workers, ∀ finish item read,
      worker.phase = .readBinding finish item (some read) → read.id = item.aggregateId) :
    VersionInvariant after := by
  refine invariant.rewrite ?_ ?_ ?_ ?_ ?_ ?_ opened readBinding
  · intro itemId item found
    exact ⟨item, (sameItems itemId).symm.trans found, rfl⟩
  · intro itemId item found
    exact ⟨item, (sameItems itemId).trans found, rfl⟩
  · intro bindingId binding found
    exact ⟨binding, (sameBindings bindingId).symm.trans found, rfl⟩
  · intro bindingId binding found
    exact ⟨binding, (sameBindings bindingId).trans found, rfl⟩
  · intro bindingId binding found settles itemId item foundItem
    rw [sameBindings] at found
    rw [sameItems] at foundItem
    exact invariant.settled bindingId binding found settles itemId item foundItem
  · intro bindingId binding found
    rw [sameBindings] at found
    exact invariant.synced bindingId binding found

section Work

variable {index : Nat} {worker moved : Worker}

/-- The items that workers have read are stored, when the moved worker's is. -/
theorem VersionInvariant.opened_set (invariant : VersionInvariant before)
    (sameWorkers : after.workers = before.workers.set index moved)
    (kept : ∀ itemId item, before.item? itemId = some item →
      ∃ later, after.item? itemId = some later ∧ order later = order item)
    (movedOpened : ∀ item ∈ moved.opened?, Reading after item) :
    ∀ other ∈ after.workers, ∀ item ∈ other.opened?, Reading after item := by
  rw [sameWorkers]
  intro other member item isOpened
  rcases mem_set_cases member with rfl | untouched
  · exact movedOpened item isOpened
  · exact invariant.opened_kept kept other (mem_of_mem_eraseIdx untouched) item isOpened

theorem VersionInvariant.readBinding_set (invariant : VersionInvariant before)
    (sameWorkers : after.workers = before.workers.set index moved)
    (movedRead : ∀ finish item read, moved.phase = .readBinding finish item (some read) →
      read.id = item.aggregateId) :
    ∀ other ∈ after.workers, ∀ finish item read,
      other.phase = .readBinding finish item (some read) → read.id = item.aggregateId := by
  rw [sameWorkers]
  intro other member
  rcases mem_set_cases member with rfl | untouched
  · exact movedRead
  · exact invariant.readBinding other (mem_of_mem_eraseIdx untouched)

/-- The commit of a finishing transaction. It rewrites the item it has read and the
binding of that item, which keeps its version. -/
theorem VersionInvariant.finish (invariant : VersionInvariant before) {item : ControlOutbox}
    {changeItem : ControlOutbox → ControlOutbox}
    (sameWorkers : after.workers = before.workers.set index worker.next)
    (items : ∀ itemId, after.item? itemId =
      if itemId = item.id then (before.item? itemId).map changeItem else before.item? itemId)
    (sameOrder : ∀ row, order (changeItem row) = order row)
    (bindings : ∀ bindingId, after.binding? bindingId = before.binding? bindingId ∨
      ∃ binding changed, before.binding? bindingId = some binding ∧
        after.binding? bindingId = some changed ∧ changed.version = binding.version)
    (settled : ∀ bindingId binding, after.binding? bindingId = some binding →
      Settles binding.syncStatus → ∀ itemId stored, after.item? itemId = some stored →
      stored.aggregateId = bindingId → stored.payload.bindingVersion = binding.version →
      stored.status = .completed)
    (synced : ∀ bindingId binding, after.binding? bindingId = some binding →
      Database.syncedRemoteFields binding = true) : VersionInvariant after := by
  have kept : ∀ itemId stored, before.item? itemId = some stored →
      ∃ later, after.item? itemId = some later ∧ order later = order stored := by
    intro itemId stored found
    rw [items, found]
    split
    · exact ⟨_, rfl, sameOrder stored⟩
    · exact ⟨stored, rfl, rfl⟩
  refine invariant.rewrite ?_ kept ?_ ?_ settled synced
    (invariant.opened_set sameWorkers kept fun _ isOpened => by cases isOpened)
    (invariant.readBinding_set sameWorkers fun _ _ _ at_ => by cases at_)
  · intro itemId stored found
    rw [items] at found
    split at found
    · obtain ⟨old, foundOld, rfl⟩ := Option.map_eq_some_iff.mp found
      exact ⟨old, foundOld, sameOrder old⟩
    · exact ⟨stored, found, rfl⟩
  · intro bindingId binding found
    rcases bindings bindingId with same | ⟨old, changed, foundOld, foundChanged, sameVersion⟩
    · exact ⟨binding, same.symm.trans found, rfl⟩
    · rw [foundChanged, Option.some.injEq] at found
      exact ⟨old, foundOld, found ▸ sameVersion⟩
  · intro bindingId binding found
    rcases bindings bindingId with same | ⟨old, changed, foundOld, foundChanged, sameVersion⟩
    · exact ⟨binding, same.trans found, rfl⟩
    · rw [foundOld, Option.some.injEq] at found
      exact ⟨changed, foundChanged, found ▸ sameVersion⟩

/-- After a completion, a settled binding had its items completed before, or the
completed item is the one of its version. -/
theorem VersionInvariant.settled_complete (invariant : VersionInvariant before)
    {item : ControlOutbox} {read wrote current : ApiClientBinding} {now : Int}
    (member : worker ∈ before.workers) (isOpened : item ∈ worker.opened?)
    (owned : read.id = item.aggregateId) (found : before.binding? read.id = some current)
    (sameVersion : wrote.version = read.version)
    (stale : read.version ≠ item.payload.bindingVersion → wrote.syncStatus = .pending)
    (finds : read.version = item.payload.bindingVersion → current.version = read.version)
    (items : ∀ itemId, after.item? itemId =
      if itemId = item.id then
        (before.item? itemId).map (writeItem item (completeItem now item))
      else before.item? itemId)
    (bindings : ∀ bindingId, after.binding? bindingId =
      if bindingId = read.id then (before.binding? bindingId).map (writeBinding read wrote)
      else before.binding? bindingId) :
    ∀ bindingId binding, after.binding? bindingId = some binding →
      Settles binding.syncStatus → ∀ itemId stored, after.item? itemId = some stored →
      stored.aggregateId = bindingId → stored.payload.bindingVersion = binding.version →
      stored.status = .completed := by
  obtain ⟨processing, own, foundOwn, sameOwn⟩ := invariant.opened worker member item isOpened
  intro bindingId binding foundBinding settles itemId stored foundStored sameBinding equalVersion
  rw [items] at foundStored
  split at foundStored
  · obtain ⟨old, _, rfl⟩ := Option.map_eq_some_iff.mp foundStored
    show column item.status .completed old.status = .completed
    rw [processing, column_of_ne (by simp)]
  · rename_i different
    rw [bindings] at foundBinding
    split at foundBinding
    · rename_i named
      subst named
      rw [found, Option.map_some, Option.some.injEq] at foundBinding
      subst foundBinding
      have keptVersion : (writeBinding read wrote current).version = current.version := by
        show column read.version wrote.version current.version = current.version
        rw [sameVersion, column_self]
      rw [keptVersion] at equalVersion
      by_cases unwritten : wrote.syncStatus = read.syncStatus
      · have keptStatus : (writeBinding read wrote current).syncStatus = current.syncStatus := by
          show column read.syncStatus wrote.syncStatus current.syncStatus = current.syncStatus
          rw [unwritten, column_self]
        rw [keptStatus] at settles
        exact invariant.settled read.id current found settles itemId stored foundStored
          sameBinding equalVersion
      · have newStatus : (writeBinding read wrote current).syncStatus = wrote.syncStatus :=
          column_of_ne unwritten _
        rw [newStatus] at settles
        -- Only the completion of the version it has read settles the binding.
        have carries : read.version = item.payload.bindingVersion := by
          by_contra differs
          rw [stale differs] at settles
          exact settles
        have ownVersion : own.payload.bindingVersion = stored.payload.bindingVersion := by
          rw [show own.payload = item.payload from congrArg Order.payload sameOwn, equalVersion,
            finds carries, carries]
        have ownBinding : own.aggregateId = stored.aggregateId := by
          rw [show own.aggregateId = item.aggregateId from congrArg Order.aggregateId sameOwn,
            sameBinding, owned]
        exact absurd (invariant.distinct item.id itemId own stored foundOwn foundStored ownBinding
          ownVersion).symm different
    · exact invariant.settled bindingId binding foundBinding settles itemId stored foundStored
        sameBinding equalVersion

/-- After a failure, a settled binding still has its items completed. -/
theorem VersionInvariant.settled_fail (invariant : VersionInvariant before)
    {bounds : WorkerBounds} {failure : FailureCode} {now : Int} {item : ControlOutbox}
    {read : Option ApiClientBinding} (member : worker ∈ before.workers)
    (isOpened : item ∈ worker.opened?)
    (owned : ∀ seen, read = some seen → seen.id = item.aggregateId)
    (finds : ∀ stored ∈ before.item? item.id, ∀ current ∈ before.binding? item.aggregateId,
      stored.status = .completed → item.payload.bindingVersion = current.version →
        ∃ seen ∈ read, seen.version = item.payload.bindingVersion ∧ seen.syncStatus ≠ .error)
    (items : ∀ itemId, after.item? itemId =
      if itemId = item.id then
        (before.item? itemId).map (writeItem item (failItem bounds failure now item))
      else before.item? itemId)
    (bindings : ∀ bindingId, after.binding? bindingId =
      if bindingId ∈ read.map ApiClientBinding.id then
        (before.binding? bindingId).map fun current =>
          read.elim current fun seen =>
            writeBinding seen (failBinding failure now item seen) current
      else before.binding? bindingId) :
    ∀ bindingId binding, after.binding? bindingId = some binding →
      Settles binding.syncStatus → ∀ itemId stored, after.item? itemId = some stored →
      stored.aggregateId = bindingId → stored.payload.bindingVersion = binding.version →
      stored.status = .completed := by
  obtain ⟨_, own, foundOwn, sameOwn⟩ := invariant.opened worker member item isOpened
  intro bindingId binding foundBinding settles itemId stored foundStored sameBinding equalVersion
  -- A settled status was not written: the read did not have this version, or had an error.
  obtain ⟨current, foundCurrent, sameVersion, wasSettled, unwritten⟩ :
      ∃ current, before.binding? bindingId = some current ∧ binding.version = current.version ∧
        Settles current.syncStatus ∧
        ∀ seen, read = some seen → seen.id = bindingId →
          seen.version = item.payload.bindingVersion → seen.syncStatus = .error := by
    rw [bindings] at foundBinding
    split at foundBinding
    · rename_i named
      obtain ⟨seen, rfl, rfl⟩ := Option.mem_map.mp named
      obtain ⟨current, foundCurrent, rfl⟩ := Option.map_eq_some_iff.mp foundBinding
      simp only [Option.elim_some] at settles ⊢
      rcases failBinding_cases failure now item seen with
        ⟨carries, error, keptVersion⟩ | ⟨stale, same⟩
      · refine ⟨current, foundCurrent, ?_, ?_, ?_⟩
        · show column seen.version _ current.version = _
          rw [keptVersion, column_self]
        · by_cases wasError : seen.syncStatus = .error
          · rw [show (writeBinding seen (failBinding failure now item seen) current).syncStatus =
              current.syncStatus from by
                show column seen.syncStatus _ current.syncStatus = _
                rw [error, wasError, column_self]] at settles
            exact settles
          · rw [show (writeBinding seen (failBinding failure now item seen) current).syncStatus =
              .error from by
                show column seen.syncStatus _ current.syncStatus = _
                rw [error, column_of_ne (fun equal => wasError equal.symm)]] at settles
            exact settles.elim
        · intro other equal _ _
          cases equal
          by_contra noError
          rw [show (writeBinding seen (failBinding failure now item seen) current).syncStatus =
            .error from by
              show column seen.syncStatus _ current.syncStatus = _
              rw [error, column_of_ne (fun equal => noError equal.symm)]] at settles
          exact settles
      · rw [same] at settles ⊢
        refine ⟨current, foundCurrent, column_self _ _, ?_, ?_⟩
        · rw [show (writeBinding seen seen current).syncStatus = current.syncStatus from
            column_self _ _] at settles
          exact settles
        · intro other equal _ carries
          cases equal
          exact absurd carries stale
    · rename_i unnamed
      refine ⟨binding, foundBinding, rfl, settles, ?_⟩
      rintro seen rfl named _
      exact absurd (Option.mem_map.mpr ⟨seen, rfl, named⟩) unnamed
  rw [items] at foundStored
  split at foundStored
  · rename_i same
    subst same
    rw [foundOwn, Option.map_some, Option.some.injEq] at foundStored
    subst foundStored
    have aggregate : item.aggregateId = bindingId := by
      rw [← show own.aggregateId = item.aggregateId from congrArg Order.aggregateId sameOwn]
      exact sameBinding
    have carries : own.payload.bindingVersion = current.version := equalVersion.trans sameVersion
    have wasCompleted : own.status = .completed := invariant.settled bindingId current foundCurrent
      wasSettled item.id own foundOwn sameBinding carries
    rw [show own.payload = item.payload from congrArg Order.payload sameOwn] at carries
    obtain ⟨seen, isRead, sameRead, noError⟩ := finds own foundOwn current
      (by rw [aggregate]; exact foundCurrent) wasCompleted carries
    exact absurd (unwritten seen isRead ((owned seen isRead).trans aggregate) sameRead) noError
  · exact invariant.settled bindingId current foundCurrent wasSettled itemId stored foundStored
      sameBinding (equalVersion.trans sameVersion)

end Work

end Preservation
/-! ## Every step -/

section Steps

variable {runtime : Runtime} {before after : System} {action : Action}

/-- A staging commit under the condition. -/
theorem VersionInvariant.commitStaged (invariant : VersionInvariant before)
    {read : ApiClientBinding} {database : Database} {clients : Table ApiClient ApiClient.id}
    {configHash : String} {now : Int} {wrote : ApiClientBinding} {item : ControlOutbox}
    {staged : Except ModelError (ApiClientBinding × ControlOutbox)}
    {action : OutboxAction} {payload : BifrostOutboxPayload}
    (committed : Outbox.commitStaged read staged
      { before.shared.database with clients := clients } = some database)
    (stagedAs : staged = .ok (wrote, item)) (row : wrote = stagedRow read configHash now)
    (carries : CarriesSync read .bifrost action payload item)
    (version : payload.bindingVersion = read.version + 1)
    (condition : ∀ current ∈ before.binding? read.id, current.version = read.version ∧
      (read.syncStatus = .pending → ¬ Settles current.syncStatus))
    (same : after.shared.database = database) (sameWorkers : after.workers = before.workers) :
    VersionInvariant after := by
  subst stagedAs row
  obtain ⟨_, _, current, equal, found, synced, fresh, rfl⟩ := commitStaged_ok committed
  cases equal
  obtain ⟨sameVersion, unsettled⟩ := condition current found
  refine invariant.stage found ?_ ?_ synced fresh carries.aggregateId ?_ sameVersion unsettled
    sameWorkers
  · intro itemId
    rw [System.item?, same]
    exact Table.find?_insertNew fresh itemId
  · intro bindingId
    rw [System.binding?, same]
    exact Table.find?_modify (writeBinding_id _ _) _ _ _
  · rw [carries.payload, version]

/-- One step that meets the condition keeps the invariant. -/
theorem VersionInvariant.step (invariant : VersionInvariant before)
    (current : CommitsCurrent before action) (stepped : runtime.step before action = some after) :
    VersionInvariant after := by
  cases Runtime.step_moved stepped with
  | serveStray | loseStray =>
      exact invariant.still (fun _ => rfl) (fun _ => rfl)
        (invariant.opened_kept fun _ item found => ⟨item, found, rfl⟩) invariant.readBinding
  | stage found staged =>
      cases staged with
      | getClient | getClientBinding | getBinding | rollback =>
          exact invariant.still (fun _ => rfl) (fun _ => rfl)
            (invariant.opened_kept fun _ item found => ⟨item, found, rfl⟩) invariant.readBinding
      | createCaller registered =>
          obtain ⟨_, binding, item, _, row, carries, _, freshBinding, _, freshItem, rfl⟩ :=
            registerCaller_ok registered
          refine invariant.register (Table.find?_insertNew freshItem)
            (Table.find?_insertNew freshBinding) freshItem freshBinding carries.aggregateId ?_ ?_ rfl
          · rw [carries.payload, row]
            rfl
          · rw [row]
            rfl
      | disable committed =>
          obtain ⟨wrote, item, _, stagedAs, _⟩ := commitStaged_ok committed
          obtain ⟨row, carries⟩ := stageBindingDisable_ok stagedAs
          exact invariant.commitStaged committed stagedAs row carries rfl
            (current _ found _ rfl) rfl rfl
      | sync committed =>
          obtain ⟨wrote, item, _, stagedAs, _⟩ := commitStaged_ok committed
          obtain ⟨_, row, carries⟩ := stageBifrostBindingSync_ok _ stagedAs
          exact invariant.commitStaged committed stagedAs row carries rfl
            (current _ found _ rfl) rfl rfl
  | work found turn =>
      rename_i index worker moved work shared
      have member := List.mem_of_getElem? found
      cases turn with
      | raise | loadItem | skip | crash =>
          refine invariant.still (fun _ => rfl) (fun _ => rfl) ?_ ?_
          · exact invariant.opened_set rfl (fun _ item found => ⟨item, found, rfl⟩)
              fun _ isOpened => by cases isOpened
          · exact invariant.readBinding_set rfl fun _ _ _ at_ => by cases at_
      | loadBinding | deliver | fault =>
          refine invariant.still (fun _ => rfl) (fun _ => rfl) ?_ ?_
          · refine invariant.opened_set rfl (fun _ item found => ⟨item, found, rfl⟩) ?_
            intro item isOpened
            rw [opened?_execution] at isOpened
            cases isOpened
          · refine invariant.readBinding_set rfl ?_
            intro finish item read at_
            exact absurd at_ (execution_phase_ne_readBinding _ _)
      | readItem at_ first foundItem processing =>
          rename_i finish claim rest item
          refine invariant.still (fun _ => rfl) (fun _ => rfl) ?_ ?_
          · refine invariant.opened_set rfl (fun _ item found => ⟨item, found, rfl⟩) ?_
            intro opened isOpened
            cases isOpened
            refine ⟨processing, item, ?_, rfl⟩
            rw [Table.key_of_find? foundItem]
            exact foundItem
          · exact invariant.readBinding_set rfl fun _ _ _ at_ => by cases at_
      | readBinding at_ present =>
          rename_i finish item
          refine invariant.still (fun _ => rfl) (fun _ => rfl) ?_ ?_
          · refine invariant.opened_set rfl (fun _ item found => ⟨item, found, rfl⟩) ?_
            intro opened isOpened
            cases isOpened
            exact (invariant.opened worker member item (by simp [Worker.opened?, at_])).kept
              fun _ stored found => ⟨stored, found, rfl⟩
          · refine invariant.readBinding_set rfl ?_
            intro _ _ read phase
            simp only [Phase.readBinding.injEq] at phase
            obtain ⟨_, rfl, foundBinding⟩ := phase
            exact Table.key_of_find? foundBinding
      | claim idle taken =>
          subst taken
          rename_i now locked
          have rows := find?_claimRows (claimedRows_nodup runtime.bounds now locked
            before.shared.database.outbox) now before.shared.database.outbox
          have kept : ∀ itemId item, before.item? itemId = some item → _ :=
            fun _ _ foundItem => (Runtime.step_moved stepped).order foundItem
          refine invariant.rewrite ?_ kept (fun _ binding found => ⟨binding, found, rfl⟩)
            (fun _ binding found => ⟨binding, found, rfl⟩) ?_ invariant.synced
            (invariant.opened_set rfl kept fun _ isOpened => by cases isOpened)
            (invariant.readBinding_set rfl fun _ _ _ at_ => by cases at_)
          · intro itemId item foundItem
            replace foundItem := (rows itemId).symm.trans foundItem
            split at foundItem
            · obtain ⟨old, foundOld, rfl⟩ := Option.map_eq_some_iff.mp foundItem
              exact ⟨old, foundOld, rfl⟩
            · exact ⟨item, foundItem, rfl⟩
          · intro bindingId binding foundBinding settles itemId item foundItem sameBinding version
            replace foundItem := (rows itemId).symm.trans foundItem
            split at foundItem
            · rename_i taken
              obtain ⟨old, foundOld, rfl⟩ := Option.map_eq_some_iff.mp foundItem
              have completed := invariant.settled bindingId binding foundBinding settles itemId old
                foundOld sameBinding version
              exact absurd completed
                (claimable_not_completed (claimable_of_taken taken foundOld))
            · exact invariant.settled bindingId binding foundBinding settles itemId item foundItem
                sameBinding version
      | complete at_ written committed =>
          rename_i nonce result item read wrote database
          have isOpened : item ∈ worker.opened? := by simp [Worker.opened?, at_]
          have owned := invariant.readBinding worker member _ _ _ at_
          obtain ⟨stored, foundBinding, synced, _⟩ := commitComplete_ok committed
          obtain ⟨items, bindings⟩ := commitComplete_find committed
          obtain ⟨sameVersion, stale⟩ := completeBinding_version written
          have finds := current worker found
          simp only [FinishesCurrent, at_] at finds
          refine invariant.finish rfl items (fun _ => rfl) ?_ ?_ ?_
          · intro bindingId
            by_cases named : bindingId = read.id
            · subst named
              refine Or.inr ⟨stored, writeBinding read wrote stored, foundBinding, ?_, ?_⟩
              · exact (bindings read.id).trans (by rw [if_pos rfl, foundBinding, Option.map_some])
              · show column read.version wrote.version stored.version = stored.version
                rw [sameVersion, column_self]
            · exact Or.inl ((bindings bindingId).trans (if_neg named))
          · exact invariant.settled_complete member isOpened owned foundBinding sameVersion stale
              (finds stored foundBinding) items bindings
          · intro bindingId binding foundAfter
            replace foundAfter := (bindings bindingId).symm.trans foundAfter
            split at foundAfter
            · rename_i named
              rw [named, foundBinding, Option.map_some, Option.some.injEq] at foundAfter
              exact foundAfter ▸ synced
            · exact invariant.synced bindingId binding foundAfter
      | fail at_ committed =>
          rename_i nonce failure item read database
          have isOpened : item ∈ worker.opened? := by simp [Worker.opened?, at_]
          obtain ⟨items, bindings⟩ := commitFail_find committed
          have owned : ∀ seen, read = some seen → seen.id = item.aggregateId := by
            rintro seen rfl
            exact invariant.readBinding worker member _ _ _ at_
          have finds := current worker found
          simp only [FinishesCurrent, at_] at finds
          refine invariant.finish rfl items (fun _ => rfl) ?_
            (invariant.settled_fail member isOpened owned finds items bindings) ?_
          · intro bindingId
            by_cases named : bindingId ∈ read.map ApiClientBinding.id
            · obtain ⟨seen, rfl, rfl⟩ := Option.mem_map.mp named
              have row := (bindings seen.id).trans (if_pos named)
              cases foundOld : before.binding? seen.id with
              | none =>
                  rw [show before.shared.database.bindings.find? seen.id = none from foundOld] at row
                  exact Or.inl row
              | some old =>
                  rw [show before.shared.database.bindings.find? seen.id = some old from foundOld]
                    at row
                  refine Or.inr ⟨old, writeBinding seen _ old, rfl, row, ?_⟩
                  show column seen.version (failBinding failure worker.now item seen).version
                    old.version = old.version
                  rcases failBinding_cases failure worker.now item seen with
                    ⟨_, _, sameVersion⟩ | ⟨_, same⟩
                  · rw [sameVersion, column_self]
                  · rw [same, column_self]
            · exact Or.inl ((bindings bindingId).trans (if_neg named))
          · intro bindingId binding foundAfter
            rcases (commitFail_ok committed).2.2 with ⟨_, same⟩ | ⟨seen, old, rfl, foundOld, synced, _⟩
            · exact invariant.synced bindingId binding
                ((congrArg (fun table => table.find? bindingId) same).symm.trans foundAfter)
            · replace foundAfter := (bindings bindingId).symm.trans foundAfter
              split at foundAfter
              · rename_i named
                obtain ⟨other, equal, rfl⟩ := Option.mem_map.mp named
                cases equal
                rw [foundOld, Option.map_some, Option.some.injEq] at foundAfter
                exact foundAfter ▸ synced
              · exact invariant.synced bindingId binding foundAfter

/-- The invariant holds along every run whose steps meet the condition. -/
theorem VersionInvariant.run {sessions workers : Nat} {system : System}
    (run : Reached runtime.step CommitsCurrent (System.start sessions workers) system) :
    VersionInvariant system :=
  run.invariant (VersionInvariant.start sessions workers)
    fun _ _ _ invariant current stepped => invariant.step current stepped

end Steps

/-- The invariant says what the status of a binding promises. -/
theorem VersionInvariant.reflects {system : System} (invariant : VersionInvariant system) :
    StatusReflectsLatest system := by
  intro binding stored settles
  have found : system.binding? binding.id = some binding := Table.find?_of_mem stored
  have item {item : ControlOutbox} (member : item ∈ system.shared.database.outbox.rows) :
      system.item? item.id = some item := Table.find?_of_mem member
  obtain ⟨itemId, carrier, foundCarrier, owned, carries⟩ :=
    invariant.carried binding.id binding found
  refine ⟨?_, ⟨carrier, Table.mem_of_find? foundCarrier, owned, carries⟩, ?_, ?_⟩
  · have synced := invariant.synced binding.id binding found
    cases status : binding.syncStatus <;>
      simp_all [Database.syncedRemoteFields, Settles]
  · intro other member same version
    exact invariant.settled binding.id binding found settles other.id other (item member) same
      version
  · intro other member same
    exact invariant.version_le (item member) (by rw [same]; exact found)

/-- **The status of a binding reflects its latest staged version.** It does in every
state of every run whose commits find the versions they have read. -/
theorem binding_status_reflects_latest_version (runtime : Runtime) (sessions workers : Nat)
    (system : System)
    (run : Reached runtime.step CommitsCurrent (System.start sessions workers) system) :
    StatusReflectsLatest system :=
  (VersionInvariant.run run).reflects

/-- A caller created, its key stored, and the caller disabled: each commit finds the
version it has read. -/
def createdThenDisabled : List Action :=
  [.stage 0 (.createCaller smallRegistration), .work 0 (.claim 100 []), .work 0 .loadItem,
    .work 0 .loadBinding, .work 0 (.deliver ⟨"", ""⟩), .work 0 (.deliver ⟨"vk", "k"⟩),
    .work 0 .readItem, .work 0 .readBinding, .work 0 (.commit 0),
    .stage 0 (.getClient "c"), .stage 0 .getClientBinding,
    .stage 0 (.disable ⟨"admin", "disable", "disable", 200⟩),
    .work 0 (.claim 200 []), .work 0 .loadItem, .work 0 .loadBinding,
    .work 0 (.deliver ⟨"", ""⟩), .work 0 .readItem, .work 0 .readBinding, .work 0 (.commit 0)]

theorem createdThenDisabled_runs :
    ∃ system, Reached smallRuntime.step CommitsCurrent (System.start 1 1) system ∧
      ∃ binding ∈ system.shared.database.bindings.rows, binding.syncStatus = .disabled := by
  have replayed : ((replay smallRuntime.step CommitsCurrent (System.start 1 1)
      createdThenDisabled).any fun system => ∃ binding ∈ system.shared.database.bindings.rows,
        binding.syncStatus = .disabled) = true := by
    decide +kernel
  exact Reached.of_replay smallRuntime.step CommitsCurrent _ createdThenDisabled _ replayed

theorem binding_status_reflects_latest_version_sample :
    ∃ system, (∃ binding ∈ system.shared.database.bindings.rows,
        binding.syncStatus = .disabled) ∧ StatusReflectsLatest system := by
  obtain ⟨system, run, disabled⟩ := createdThenDisabled_runs
  exact ⟨system, disabled,
    binding_status_reflects_latest_version smallRuntime 1 1 system run⟩

/-! ## A completion that overtakes a staging -/

/-- The creation reads the binding at version 2; the disable stages version 3 and
commits; then the creation commits. -/
def overtaken : List Action :=
  [.stage 0 (.createCaller smallRegistration), .work 0 (.claim 100 []), .work 0 .loadItem,
    .work 0 .loadBinding, .work 0 (.deliver ⟨"", ""⟩), .work 0 (.deliver ⟨"vk", "k"⟩),
    .work 0 .readItem, .work 0 .readBinding,
    .stage 0 (.getClient "c"), .stage 0 .getClientBinding,
    .stage 0 (.disable ⟨"admin", "disable", "disable", 200⟩), .work 0 (.commit 0)]

/-- In general the status does not reflect the latest version: a binding is active
at a version whose item is still pending. -/
theorem binding_status_can_miss_latest_version :
    ¬ ∀ (runtime : Runtime) (sessions workers : Nat) (system : System),
      Reached runtime.step (fun _ _ => True) (System.start sessions workers) system →
      StatusReflectsLatest system := by
  intro always
  obtain ⟨system, run, binding, stored, active, item, queued, owned, carries, pending⟩ :=
    Reached.of_replay smallRuntime.step (fun _ _ => True) (System.start 1 1) overtaken
      (fun system => ∃ binding ∈ system.shared.database.bindings.rows,
        binding.syncStatus = .active ∧ ∃ item ∈ system.shared.database.outbox.rows,
          item.aggregateId = binding.id ∧ item.payload.bindingVersion = binding.version ∧
            item.status = .pending)
      (by decide +kernel)
  have completed := (always smallRuntime 1 1 system run binding stored
    (by rw [active]; trivial)).completed item queued owned carries
  rw [pending] at completed
  cases completed

end Zangpu.Workers.Outbox
