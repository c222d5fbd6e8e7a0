import Zangpu.Workers.Outbox.Effects

/-!
Fencing of outbox claims.

Owns: which claims later claims supersede, what fencing asks of one step, the runs
in which claims stay apart, that they are fenced, and a run that is not.

Does not own: what a finished item means for its binding.
-/

set_option autoImplicit false

namespace Zangpu.Workers.Outbox

open Zangpu.Foundation
open Zangpu.Models
open Zangpu.Integrations.Bifrost

/-! ## Fencing -/

/-- A later claim of the same item, with a higher attempt, was made. -/
def Superseded (claims : List Claim) (claim : Claim) : Prop :=
  ∃ other ∈ claims, other.itemId = claim.itemId ∧ claim.attempt < other.attempt

instance (claims : List Claim) (claim : Claim) : Decidable (Superseded claims claim) :=
  inferInstanceAs (Decidable (∃ other ∈ claims, _ ∧ _))

/-- What fencing asks of one step. -/
structure Fenced (before : System) (action : Action) (after : System) : Prop where
  latestMoves : ∀ itemId item later, before.item? itemId = some item →
    item.status = .processing → after.item? itemId = some later → later.status ≠ .processing →
    ∃ index nonce worker claim, action = .work index (.commit nonce) ∧
      before.workers[index]? = some worker ∧ worker.batch.head? = some claim ∧
      claim.itemId = itemId ∧ ¬ Superseded before.claims claim
  supersededInert : ∀ index work worker claim, action = .work index work →
    before.workers[index]? = some worker → worker.batch.head? = some claim →
    Superseded before.claims claim → after.shared.database = before.shared.database
  latestProceeds : ∀ index worker claim, action = .work index .readItem →
    before.workers[index]? = some worker → worker.batch.head? = some claim →
    ¬ Superseded before.claims claim →
    ∃ item, before.item? claim.itemId = some item ∧ item.status = .processing
  successRecorded : ∀ index nonce worker claim result item binding,
    action = .work index (.commit nonce) → before.workers[index]? = some worker →
    worker.batch.head? = some claim → worker.phase = .readBinding (.complete result) item binding →
    after.workers[index]? = some worker.next →
    ∃ later, after.item? claim.itemId = some later ∧ later.status = .completed
  successKept : ∀ itemId item, before.item? itemId = some item → item.status = .completed →
    ∃ later, after.item? itemId = some later ∧ later.status = .completed

/-- The condition on a step. A finishing transaction finds its item processing only
under the latest claim, and no claim takes an item that a finishing transaction has
read. -/
def ClaimsApart (runtime : Runtime) (system : System) : Action → Prop
  | .work index .readItem =>
      ∀ worker ∈ system.workers[index]?, ∀ claim ∈ worker.batch.head?,
        ∀ item ∈ system.item? claim.itemId, item.status = .processing →
          ¬ Superseded system.claims claim
  | .work _ (.claim now locked) =>
      ∀ item ∈ claimedRows runtime.bounds now locked system.shared.database.outbox,
        ∀ worker ∈ system.workers, ∀ opened ∈ worker.opened?, opened.id ≠ item.id
  | _ => True

instance (runtime : Runtime) (system : System) (action : Action) :
    Decidable (ClaimsApart runtime system action) := by
  unfold ClaimsApart
  split <;> infer_instance
/-! ## The invariant -/

/-- A claim that no later one supersedes holds its item. -/
def HoldsItem (system : System) (claim : Claim) : Prop :=
  ∃ item, system.item? claim.itemId = some item ∧ item.status = .processing ∧
    item.attemptCount = claim.attempt

/-- A finishing transaction has the current row of its item before it, under the
latest claim. -/
structure OpenedCurrent (system : System) (worker : Worker) (item : ControlOutbox) : Prop where
  first : ∃ claim rest, worker.batch = claim :: rest ∧ item.id = claim.itemId ∧
    ¬ Superseded system.claims claim
  processing : item.status = .processing
  current : system.item? item.id = some item

structure FenceInvariant (runtime : Runtime) (system : System) : Prop where
  known : ∀ worker ∈ system.workers, ∀ claim ∈ worker.batch, claim ∈ system.claims
  bounded : ∀ claim ∈ system.claims, ∃ item, system.item? claim.itemId = some item ∧
    claim.attempt ≤ item.attemptCount
  capped : ∀ itemId item, system.item? itemId = some item →
    item.attemptCount ≤ runtime.bounds.maxAttempts
  distinct : ∀ worker ∈ system.workers, worker.batch.Nodup
  apart : ∀ (left right : Nat) first second, left ≠ right → system.workers[left]? = some first →
    system.workers[right]? = some second → ∀ claim ∈ first.batch, claim ∉ second.batch
  holds : ∀ worker ∈ system.workers, ∀ claim ∈ worker.batch, ¬ Superseded system.claims claim →
    HoldsItem system claim
  opened : ∀ worker ∈ system.workers, ∀ item ∈ worker.opened?,
    OpenedCurrent system worker item

theorem FenceInvariant.start (runtime : Runtime) (sessions workers : Nat) :
    FenceInvariant runtime (System.start sessions workers) := by
  have idle : ∀ worker ∈ (System.start sessions workers).workers, worker = .idle :=
    fun worker member => (List.mem_replicate.mp member).2
  constructor
  · intro worker member claim inBatch
    rw [idle worker member] at inBatch
    cases inBatch
  · intro claim member
    cases member
  · intro itemId item found
    cases found
  · intro worker member
    rw [idle worker member]
    exact List.nodup_nil
  · intro left right first second _ foundFirst _ claim inBatch
    rw [idle first (List.mem_of_getElem? foundFirst)] at inBatch
    cases inBatch
  · intro worker member claim inBatch
    rw [idle worker member] at inBatch
    cases inBatch
  · intro worker member item opened
    rw [idle worker member] at opened
    cases opened

section Preservation

variable {runtime : Runtime} {before after : System}

theorem OpenedCurrent.transport {worker moved : Worker} {item : ControlOutbox}
    (opened : OpenedCurrent before worker item) (sameClaims : after.claims = before.claims)
    (sameBatch : moved.batch = worker.batch)
    (kept : after.item? item.id = some item) : OpenedCurrent after moved item where
  first := by rw [sameBatch, sameClaims]; exact opened.first
  processing := opened.processing
  current := kept

/-! ## Steps of sessions -/

/-- New items leave the claims and their items as they are. -/
theorem FenceInvariant.extend (invariant : FenceInvariant runtime before)
    (kept : ∀ itemId item, before.item? itemId = some item → after.item? itemId = some item)
    (capped : ∀ itemId item, after.item? itemId = some item →
      item.attemptCount ≤ runtime.bounds.maxAttempts)
    (sameClaims : after.claims = before.claims) (sameWorkers : after.workers = before.workers) :
    FenceInvariant runtime after where
  known := by rw [sameWorkers, sameClaims]; exact invariant.known
  bounded := by
    rw [sameClaims]
    intro claim member
    obtain ⟨item, found, bound⟩ := invariant.bounded claim member
    exact ⟨item, kept _ _ found, bound⟩
  capped := capped
  distinct := by rw [sameWorkers]; exact invariant.distinct
  apart := by rw [sameWorkers]; exact invariant.apart
  holds := by
    rw [sameWorkers, sameClaims]
    intro worker member claim inBatch latest
    obtain ⟨item, found, processing, attempt⟩ := invariant.holds worker member claim inBatch latest
    exact ⟨item, kept _ _ found, processing, attempt⟩
  opened := by
    rw [sameWorkers]
    intro worker member item opened
    have current := invariant.opened worker member item opened
    exact current.transport sameClaims rfl (kept _ _ current.current)

/-! ## Steps of workers that write no item -/

section Work

variable {index : Nat} {worker moved : Worker}

/-- A worker that gives claims up, or none, keeps the claims apart. -/
theorem FenceInvariant.apart_set (invariant : FenceInvariant runtime before)
    (found : before.workers[index]? = some worker)
    (sameWorkers : after.workers = before.workers.set index moved)
    (shrinks : moved.batch.Sublist worker.batch) :
    ∀ (left right : Nat) first second, left ≠ right → after.workers[left]? = some first →
      after.workers[right]? = some second → ∀ claim ∈ first.batch, claim ∉ second.batch := by
  rw [sameWorkers]
  intro left right first second different foundFirst foundSecond claim inFirst inSecond
  rcases position_set_cases foundFirst with ⟨rfl, rfl⟩ | ⟨_, oldFirst⟩
  · rcases position_set_cases foundSecond with ⟨rfl, _⟩ | ⟨_, oldSecond⟩
    · exact different rfl
    · exact invariant.apart left right worker second different found oldSecond claim
        (shrinks.subset inFirst) inSecond
  · rcases position_set_cases foundSecond with ⟨rfl, rfl⟩ | ⟨_, oldSecond⟩
    · exact invariant.apart left right first worker different oldFirst found claim inFirst
        (shrinks.subset inSecond)
    · exact invariant.apart left right first second different oldFirst oldSecond claim inFirst
        inSecond

theorem FenceInvariant.move (invariant : FenceInvariant runtime before)
    (found : before.workers[index]? = some worker)
    (sameItems : ∀ itemId, after.item? itemId = before.item? itemId)
    (sameClaims : after.claims = before.claims)
    (sameWorkers : after.workers = before.workers.set index moved)
    (shrinks : moved.batch.Sublist worker.batch)
    (opened : ∀ item ∈ moved.opened?, OpenedCurrent after moved item) :
    FenceInvariant runtime after where
  known := by
    rw [sameWorkers, sameClaims]
    intro other member claim inBatch
    rcases mem_set_cases member with rfl | untouched
    · exact invariant.known worker (List.mem_of_getElem? found) claim (shrinks.subset inBatch)
    · exact invariant.known other (mem_of_mem_eraseIdx untouched) claim inBatch
  bounded := by
    rw [sameClaims]
    intro claim member
    rw [sameItems]
    exact invariant.bounded claim member
  capped := by
    intro itemId item
    rw [sameItems]
    exact invariant.capped itemId item
  distinct := by
    rw [sameWorkers]
    intro other member
    rcases mem_set_cases member with rfl | untouched
    · exact (invariant.distinct worker (List.mem_of_getElem? found)).sublist shrinks
    · exact invariant.distinct other (mem_of_mem_eraseIdx untouched)
  apart := invariant.apart_set found sameWorkers shrinks
  holds := by
    rw [sameWorkers, sameClaims]
    intro other member claim inBatch latest
    unfold HoldsItem
    rw [sameItems]
    rcases mem_set_cases member with rfl | untouched
    · exact invariant.holds worker (List.mem_of_getElem? found) claim (shrinks.subset inBatch)
        latest
    · exact invariant.holds other (mem_of_mem_eraseIdx untouched) claim inBatch latest
  opened := by
    rw [sameWorkers]
    intro other member item isOpened
    rcases mem_set_cases member with rfl | untouched
    · exact opened item isOpened
    · have current := invariant.opened other (mem_of_mem_eraseIdx untouched) item isOpened
      exact current.transport sameClaims rfl (by rw [sameItems]; exact current.current)

/-! ## Claims -/

theorem claimsOf_nodup {items : List ControlOutbox}
    (distinct : (items.map ControlOutbox.id).Nodup) : (claimsOf items).Nodup := by
  apply List.Nodup.of_map Claim.itemId
  rw [claimsOf, List.map_map]
  exact distinct

/-- The new claim of a claimed item is above every earlier claim of it. -/
theorem FenceInvariant.below (invariant : FenceInvariant runtime before) {claim : Claim}
    {item : ControlOutbox} (member : claim ∈ before.claims)
    (stored : before.item? item.id = some item) (same : claim.itemId = item.id) :
    claim.attempt < item.attemptCount + 1 := by
  obtain ⟨current, found, bound⟩ := invariant.bounded claim member
  rw [same, stored, Option.some.injEq] at found
  subst found
  omega

theorem FenceInvariant.claim (invariant : FenceInvariant runtime before) {now : Int}
    {items : List ControlOutbox} (found : before.workers[index]? = some worker)
    (stored : ∀ item ∈ items, before.item? item.id = some item)
    (claimed : ∀ item ∈ items, claimable runtime.bounds now item = true)
    (distinct : (items.map ControlOutbox.id).Nodup)
    (rows : ∀ itemId, after.item? itemId =
      if itemId ∈ items.map ControlOutbox.id then (before.item? itemId).map (claimItem now)
      else before.item? itemId)
    (newClaims : after.claims = claimsOf items ++ before.claims)
    (sameWorkers : after.workers = before.workers.set index ⟨now, claimsOf items, .ready⟩)
    (unopened : ∀ item ∈ items, ∀ other ∈ before.workers, ∀ opened ∈ other.opened?,
      opened.id ≠ item.id) :
    FenceInvariant runtime after := by
  have taken : ∀ item ∈ items, after.item? item.id = some (claimItem now item) := by
    intro item member
    rw [rows, if_pos (List.mem_map_of_mem member), stored item member, Option.map_some]
  have untaken : ∀ itemId, itemId ∉ items.map ControlOutbox.id →
      after.item? itemId = before.item? itemId := fun itemId absent => by rw [rows, if_neg absent]
  -- An old claim that is still the latest is of an item the claim did not take.
  have latestUntaken : ∀ other ∈ before.claims, ¬ Superseded after.claims other →
      other.itemId ∉ items.map ControlOutbox.id := by
    intro other member latest inItems
    obtain ⟨item, inside, same⟩ := List.mem_map.mp inItems
    apply latest
    refine ⟨⟨item.id, item.attemptCount + 1⟩, ?_, same, ?_⟩
    · rw [newClaims]
      exact List.mem_append_left _ (List.mem_map.mpr ⟨item, inside, rfl⟩)
    · exact invariant.below member (stored item inside) same.symm
  have stillLatest : ∀ other, ¬ Superseded after.claims other → ¬ Superseded before.claims other := by
    rintro other latest ⟨later, member, same, above⟩
    exact latest ⟨later, newClaims ▸ List.mem_append_right _ member, same, above⟩
  constructor
  · rw [sameWorkers, newClaims]
    intro other member claim inBatch
    rcases mem_set_cases member with rfl | untouched
    · exact List.mem_append_left _ inBatch
    · exact List.mem_append_right _
        (invariant.known other (mem_of_mem_eraseIdx untouched) claim inBatch)
  · rw [newClaims]
    intro claim member
    rcases List.mem_append.mp member with new | old
    · obtain ⟨item, inside, rfl⟩ := List.mem_map.mp new
      exact ⟨_, taken item inside, le_refl _⟩
    · obtain ⟨item, foundItem, bound⟩ := invariant.bounded claim old
      rw [rows, foundItem]
      split
      · exact ⟨claimItem now item, rfl, by
          show claim.attempt ≤ item.attemptCount + 1
          omega⟩
      · exact ⟨item, rfl, bound⟩
  · intro itemId item foundAfter
    rw [rows] at foundAfter
    split at foundAfter
    · rename_i inItems
      obtain ⟨row, inside, rfl⟩ := List.mem_map.mp inItems
      rw [stored row inside, Option.map_some, Option.some.injEq] at foundAfter
      subst foundAfter
      have below : row.attemptCount < runtime.bounds.maxAttempts := by
        have passes := claimed row inside
        simp only [claimable, Bool.and_eq_true, decide_eq_true_eq] at passes
        exact passes.1.2
      show row.attemptCount + 1 ≤ _
      omega
    · exact invariant.capped itemId item foundAfter
  · rw [sameWorkers]
    intro other member
    rcases mem_set_cases member with rfl | untouched
    · exact claimsOf_nodup distinct
    · exact invariant.distinct other (mem_of_mem_eraseIdx untouched)
  · -- A new claim was in no batch before.
    have fresh : ∀ other ∈ before.workers, ∀ claim ∈ other.batch, claim ∉ claimsOf items := by
      intro other member claim inBatch inItems
      obtain ⟨item, inside, rfl⟩ := List.mem_map.mp inItems
      have below := invariant.below (invariant.known other member _ inBatch)
        (stored item inside) rfl
      exact absurd below (lt_irrefl _)
    rw [sameWorkers]
    intro left right first second different foundFirst foundSecond claim inFirst inSecond
    rcases position_set_cases foundFirst with ⟨rfl, rfl⟩ | ⟨_, oldFirst⟩
    · rcases position_set_cases foundSecond with ⟨rfl, _⟩ | ⟨_, oldSecond⟩
      · exact different rfl
      · exact fresh second (List.mem_of_getElem? oldSecond) claim inSecond inFirst
    · rcases position_set_cases foundSecond with ⟨rfl, rfl⟩ | ⟨_, oldSecond⟩
      · exact fresh first (List.mem_of_getElem? oldFirst) claim inFirst inSecond
      · exact invariant.apart left right first second different oldFirst oldSecond claim inFirst
          inSecond
  · rw [sameWorkers]
    intro other member claim inBatch latest
    rcases mem_set_cases member with rfl | untouched
    · obtain ⟨item, inside, rfl⟩ := List.mem_map.mp inBatch
      exact ⟨claimItem now item, taken item inside, rfl, rfl⟩
    · have old := mem_of_mem_eraseIdx untouched
      have absent := latestUntaken claim (invariant.known other old claim inBatch) latest
      unfold HoldsItem
      rw [untaken _ absent]
      exact invariant.holds other old claim inBatch (stillLatest claim latest)
  · rw [sameWorkers]
    intro other member item isOpened
    rcases mem_set_cases member with rfl | untouched
    · cases isOpened
    · have old := mem_of_mem_eraseIdx untouched
      have current := invariant.opened other old item isOpened
      have absent : item.id ∉ items.map ControlOutbox.id := by
        intro inItems
        obtain ⟨row, inside, same⟩ := List.mem_map.mp inItems
        exact unopened row inside other old item isOpened same.symm
      obtain ⟨claim, rest, batch, same, latest⟩ := current.first
      refine ⟨⟨claim, rest, batch, same, ?_⟩, current.processing, ?_⟩
      · rintro ⟨later, laterMember, sameItem, above⟩
        rw [newClaims] at laterMember
        rcases List.mem_append.mp laterMember with new | oldClaim
        · obtain ⟨row, inside, rfl⟩ := List.mem_map.mp new
          exact absent (List.mem_map.mpr ⟨row, inside, sameItem.trans same.symm⟩)
        · exact latest ⟨later, oldClaim, sameItem, above⟩
      · rw [untaken _ absent]
        exact current.current

/-! ## Finishing commits -/

/-- Two latest claims of one item are one claim. -/
theorem FenceInvariant.latest_unique (invariant : FenceInvariant runtime before)
    {first second : Worker} {left right : Claim} (firstMember : first ∈ before.workers)
    (secondMember : second ∈ before.workers) (inFirst : left ∈ first.batch)
    (inSecond : right ∈ second.batch) (leftLatest : ¬ Superseded before.claims left)
    (rightLatest : ¬ Superseded before.claims right) (same : left.itemId = right.itemId) :
    left = right := by
  obtain ⟨item, foundLeft, _, leftAttempt⟩ :=
    invariant.holds first firstMember left inFirst leftLatest
  obtain ⟨other, foundRight, _, rightAttempt⟩ :=
    invariant.holds second secondMember right inSecond rightLatest
  rw [same, foundRight, Option.some.injEq] at foundLeft
  subst foundLeft
  cases left
  cases right
  simp only [Claim.mk.injEq]
  exact ⟨same, leftAttempt.symm.trans rightAttempt⟩

/-- The commit of a finishing transaction moves the one item it has read, under the
only latest claim of it. -/
theorem FenceInvariant.finish (invariant : FenceInvariant runtime before)
    {item later : ControlOutbox} (found : before.workers[index]? = some worker)
    (isOpened : item ∈ worker.opened?)
    (rows : ∀ itemId, after.item? itemId =
      if itemId = item.id then some later else before.item? itemId)
    (attempts : item.attemptCount ≤ later.attemptCount)
    (cap : later.attemptCount ≤ runtime.bounds.maxAttempts)
    (sameClaims : after.claims = before.claims)
    (sameWorkers : after.workers = before.workers.set index worker.next) :
    FenceInvariant runtime after := by
  have member := List.mem_of_getElem? found
  have current := invariant.opened worker member item isOpened
  obtain ⟨head, rest, batch, same, headLatest⟩ := current.first
  have headIn : head ∈ worker.batch := by rw [batch]; exact List.mem_cons_self
  have nextBatch : worker.next.batch = rest := by rw [Worker.next, batch, List.tail_cons]
  have shrinks : worker.next.batch.Sublist worker.batch := List.tail_sublist _
  -- No other latest claim is of the item that moves.
  have elsewhere : ∀ (position : Nat) other claim, position ≠ index →
      before.workers[position]? = some other → claim ∈ other.batch →
      ¬ Superseded before.claims claim → claim.itemId ≠ item.id := by
    intro position other claim different foundOther inBatch latest sameItem
    have equal := invariant.latest_unique (List.mem_of_getElem? foundOther) member inBatch headIn
      latest headLatest (sameItem.trans same)
    subst equal
    exact invariant.apart position index other worker different foundOther found claim inBatch
      headIn
  have behind : ∀ claim ∈ rest, ¬ Superseded before.claims claim → claim.itemId ≠ item.id := by
    intro claim inRest latest sameItem
    have inBatch : claim ∈ worker.batch := by rw [batch]; exact List.mem_cons_of_mem _ inRest
    have equal := invariant.latest_unique member member inBatch headIn latest headLatest
      (sameItem.trans same)
    subst equal
    have distinct := invariant.distinct worker member
    rw [batch, List.nodup_cons] at distinct
    exact distinct.1 inRest
  have unchanged : ∀ claim, HoldsItem before claim → claim.itemId ≠ item.id →
      HoldsItem after claim := by
    intro claim held different
    unfold HoldsItem
    rw [rows, if_neg different]
    exact held
  constructor
  · rw [sameWorkers, sameClaims]
    intro other inSet claim inBatch
    rcases mem_set_cases inSet with rfl | untouched
    · exact invariant.known worker member claim (shrinks.subset inBatch)
    · exact invariant.known other (mem_of_mem_eraseIdx untouched) claim inBatch
  · rw [sameClaims]
    intro claim inClaims
    obtain ⟨stored, foundItem, bound⟩ := invariant.bounded claim inClaims
    rw [rows]
    split
    · rename_i sameItem
      rw [sameItem, current.current, Option.some.injEq] at foundItem
      subst foundItem
      exact ⟨later, rfl, by omega⟩
    · exact ⟨stored, foundItem, bound⟩
  · intro itemId stored foundAfter
    rw [rows] at foundAfter
    split at foundAfter
    · cases foundAfter
      exact cap
    · exact invariant.capped itemId stored foundAfter
  · rw [sameWorkers]
    intro other inSet
    rcases mem_set_cases inSet with rfl | untouched
    · exact (invariant.distinct worker member).sublist shrinks
    · exact invariant.distinct other (mem_of_mem_eraseIdx untouched)
  · exact invariant.apart_set found sameWorkers shrinks
  · rw [sameWorkers, sameClaims]
    intro other inSet claim inBatch latest
    rcases mem_set_cases inSet with rfl | untouched
    · rw [nextBatch] at inBatch
      have inOld : claim ∈ worker.batch := by rw [batch]; exact List.mem_cons_of_mem _ inBatch
      exact unchanged claim (invariant.holds worker member claim inOld latest)
        (behind claim inBatch latest)
    · obtain ⟨position, different, foundOther⟩ := List.mem_eraseIdx_iff_getElem?.mp untouched
      exact unchanged claim
        (invariant.holds other (List.mem_of_getElem? foundOther) claim inBatch latest)
        (elsewhere position other claim different foundOther inBatch latest)
  · rw [sameWorkers]
    intro other inSet opened otherOpened
    rcases mem_set_cases inSet with rfl | untouched
    · cases otherOpened
    · obtain ⟨position, different, foundOther⟩ := List.mem_eraseIdx_iff_getElem?.mp untouched
      have otherCurrent := invariant.opened other (List.mem_of_getElem? foundOther) opened
        otherOpened
      obtain ⟨claim, others, otherBatch, sameId, latest⟩ := otherCurrent.first
      refine otherCurrent.transport sameClaims rfl ?_
      rw [rows, if_neg]
      · exact otherCurrent.current
      · rw [sameId]
        exact elsewhere position other claim different foundOther
          (by rw [otherBatch]; exact List.mem_cons_self) latest

end Work

end Preservation

/-! ## Every step -/

section Steps

variable {runtime : Runtime} {before after : System} {action : Action}

/-- What a commit of `_complete` leaves of an item unchanged since the read. -/
theorem item?_complete {database : Database} {item : ControlOutbox}
    {binding wrote : ApiClientBinding} {now : Int} {shared : Shared}
    (current : shared.database.outbox.find? item.id = some item)
    (committed : commitComplete item (completeItem now item) binding wrote shared.database =
      some database) (itemId : String) :
    database.outbox.find? itemId =
      if itemId = item.id then some (completeItem now item)
      else shared.database.outbox.find? itemId := by
  rw [(commitComplete_find committed).1]
  split
  · rename_i same
    rw [same, current, Option.map_some, writeItem_current]
    rfl
  · rfl

theorem item?_fail {bounds : WorkerBounds} {database : Database} {item : ControlOutbox}
    {binding : Option ApiClientBinding} {now : Int} {failure : FailureCode} {shared : Shared}
    (current : shared.database.outbox.find? item.id = some item)
    (committed : commitFail bounds failure now item binding shared.database = some database)
    (itemId : String) :
    database.outbox.find? itemId =
      if itemId = item.id then some (failItem bounds failure now item)
      else shared.database.outbox.find? itemId := by
  rw [(commitFail_find committed).1]
  split
  · rename_i same
    rw [same, current, Option.map_some, writeItem_current]
    rfl
  · rfl

/-- One step that meets the condition keeps the invariant. -/
theorem FenceInvariant.step (invariant : FenceInvariant runtime before)
    (apart : ClaimsApart runtime before action) (stepped : runtime.step before action = some after) :
    FenceInvariant runtime after := by
  cases Runtime.step_moved stepped with
  | serveStray | loseStray =>
      exact invariant.extend (fun _ _ found => found) invariant.capped rfl rfl
  | stage found staged =>
      rcases staged.outbox with same | ⟨item, fresh, _, _, unclaimed, added⟩
      · refine invariant.extend ?_ ?_ rfl rfl
        · intro itemId stored foundItem
          simpa [System.item?, same] using foundItem
        · intro itemId stored foundItem
          exact invariant.capped itemId stored (by simpa [System.item?, same] using foundItem)
      · refine invariant.extend ?_ ?_ rfl rfl
        · intro itemId stored foundItem
          show Table.find? _ itemId = some stored
          rw [added]
          exact Table.find?_insertNew_of_some foundItem
        · intro itemId stored foundItem
          have cap := runtime.bounds.maxAttemptsValid.1
          have present : stored ∈ (before.shared.database.outbox.insertNew item).rows := by
            rw [← added]
            exact Table.mem_of_find? foundItem
          rcases (Table.mem_insertNew fresh).mp present with old | rfl
          · exact invariant.capped stored.id stored (Table.find?_of_mem old)
          · rw [unclaimed]
            omega
  | work found turn =>
      rename_i index worker moved work shared
      have member := List.mem_of_getElem? found
      cases turn with
      | claim idle taken =>
          subst taken
          refine invariant.claim found ?_ ?_ (claimedRows_nodup _ _ _ _) ?_ rfl rfl ?_
          · intro item inside
            exact Table.find?_of_mem (mem_claimedRows inside).1
          · intro item inside
            exact (mem_claimedRows inside).2
          · intro itemId
            exact find?_claimRows (claimedRows_nodup _ _ _ _) _ _ itemId
          · exact apart
      | raise failure quiet unclaiming =>
          refine invariant.move found (fun _ => rfl) ?_ rfl (List.Sublist.refl _) ?_
          · cases work with
            | claim now locked => exact absurd rfl (unclaiming now locked)
            | _ => rfl
          · intro item opened
            cases opened
      | loadItem | loadBinding | deliver | fault =>
          refine invariant.move found (fun _ => rfl) rfl rfl (List.Sublist.refl _) ?_
          intro item opened
          first
          | (rw [opened?_execution] at opened; cases opened)
          | cases opened
      | skip =>
          refine invariant.move found (fun _ => rfl) rfl rfl (List.tail_sublist _) ?_
          intro item opened
          cases opened
      | crash =>
          refine invariant.move found (fun _ => rfl) rfl rfl (List.nil_sublist _) ?_
          intro item opened
          cases opened
      | readItem at_ first foundItem processing =>
          rename_i finish claim rest item
          refine invariant.move found (fun _ => rfl) rfl rfl (List.Sublist.refl _) ?_
          intro opened isOpened
          cases isOpened
          have named := Table.key_of_find? foundItem
          refine ⟨⟨claim, rest, first, named, ?_⟩, processing, ?_⟩
          · exact apart worker found claim (by rw [first]; rfl) item foundItem processing
          · show Table.find? _ _ = _
            rw [named]
            exact foundItem
      | readBinding at_ present =>
          rename_i finish item
          refine invariant.move found (fun _ => rfl) rfl rfl (List.Sublist.refl _) ?_
          intro opened isOpened
          cases isOpened
          have current := invariant.opened worker member item (by simp [Worker.opened?, at_])
          exact current.transport rfl rfl current.current
      | complete at_ written committed =>
          rename_i nonce result item binding wrote database
          have isOpened : item ∈ worker.opened? := by simp [Worker.opened?, at_]
          have current := (invariant.opened worker member item isOpened).current
          exact invariant.finish found isOpened (item?_complete current committed) (le_refl _)
            (invariant.capped _ item current) rfl rfl
      | fail at_ committed =>
          rename_i nonce failure item binding database
          have isOpened : item ∈ worker.opened? := by simp [Worker.opened?, at_]
          have current := (invariant.opened worker member item isOpened).current
          have cap := invariant.capped _ item current
          refine invariant.finish found isOpened (item?_fail current committed) ?_ ?_ rfl rfl
          · show item.attemptCount ≤ if failure.retryable then _ else _
            split <;> omega
          · show (if failure.retryable then _ else _) ≤ runtime.bounds.maxAttempts
            split <;> omega

/-- The invariant holds along every run whose steps meet the condition. -/
theorem FenceInvariant.run {sessions workers : Nat} {system : System}
    (run : Reached runtime.step (ClaimsApart runtime) (System.start sessions workers) system) :
    FenceInvariant runtime system :=
  run.invariant (FenceInvariant.start runtime sessions workers)
    fun _ _ _ invariant apart stepped => invariant.step apart stepped

/-- A step that changes the status of an item claims it or commits the finishing
transaction that has read it. -/
theorem FenceInvariant.changes (invariant : FenceInvariant runtime before)
    (stepped : runtime.step before action = some after) {itemId : String} {item : ControlOutbox}
    (found : before.item? itemId = some item) :
    after.item? itemId = some item ∨
      (item.status ≠ .completed ∧ ∃ now, after.item? itemId = some (claimItem now item)) ∨
      ∃ index nonce worker claim, action = .work index (.commit nonce) ∧
        before.workers[index]? = some worker ∧ worker.batch.head? = some claim ∧
        claim.itemId = itemId ∧ ¬ Superseded before.claims claim ∧ item.status = .processing := by
  cases Runtime.step_moved stepped with
  | serveStray | loseStray => exact Or.inl found
  | stage _ staged => exact Or.inl (staged.item? found)
  | work foundWorker turn =>
      rename_i index worker moved work shared
      have member := List.mem_of_getElem? foundWorker
      cases turn with
      | raise | loadItem | loadBinding | deliver | fault | skip | crash | readItem
      | readBinding => exact Or.inl found
      | claim idle taken =>
          rename_i now locked items
          subst taken
          have rows := find?_claimRows
            (claimedRows_nodup runtime.bounds now locked before.shared.database.outbox) now
            before.shared.database.outbox itemId
          rw [show before.shared.database.outbox.find? itemId = some item from found] at rows
          split at rows
          · rename_i inItems
            exact Or.inr (Or.inl
              ⟨claimable_not_completed (claimable_of_taken inItems found), now, rows⟩)
          · exact Or.inl rows
      | complete at_ written committed =>
          rename_i nonce result opened binding wrote database
          have current := invariant.opened worker member opened (by simp [Worker.opened?, at_])
          have rows := item?_complete current.current committed itemId
          split at rows
          · rename_i same
            obtain ⟨claim, rest, batch, named, latest⟩ := current.first
            refine Or.inr (Or.inr ⟨index, nonce, worker, claim, rfl, foundWorker,
              by rw [batch]; rfl, named.symm.trans same.symm, latest, ?_⟩)
            have stored := current.current
            rw [← same, found, Option.some.injEq] at stored
            exact stored ▸ current.processing
          · exact Or.inl (rows.trans found)
      | fail at_ committed =>
          rename_i nonce failure opened binding database
          have current := invariant.opened worker member opened (by simp [Worker.opened?, at_])
          have rows := item?_fail current.current committed itemId
          split at rows
          · rename_i same
            obtain ⟨claim, rest, batch, named, latest⟩ := current.first
            refine Or.inr (Or.inr ⟨index, nonce, worker, claim, rfl, foundWorker,
              by rw [batch]; rfl, named.symm.trans same.symm, latest, ?_⟩)
            have stored := current.current
            rw [← same, found, Option.some.injEq] at stored
            exact stored ▸ current.processing
          · exact Or.inl (rows.trans found)

/-- A worker with a superseded claim writes nothing. -/
theorem FenceInvariant.inert (invariant : FenceInvariant runtime before) {index : Nat} {work : Work}
    (stepped : runtime.step before (.work index work) = some after) {worker : Worker}
    {claim : Claim} (found : before.workers[index]? = some worker)
    (first : worker.batch.head? = some claim) (superseded : Superseded before.claims claim) :
    after.shared.database = before.shared.database := by
  have notOpened : ∀ item ∈ worker.opened?, False := by
    intro item opened
    obtain ⟨head, rest, batch, _, latest⟩ :=
      (invariant.opened worker (List.mem_of_getElem? found) item opened).first
    rw [batch, List.head?_cons, Option.some.injEq] at first
    exact latest (first ▸ superseded)
  cases Runtime.step_moved stepped with
  | work foundWorker turn =>
      rw [found, Option.some.injEq] at foundWorker
      subst foundWorker
      cases turn with
      | raise | loadItem | loadBinding | deliver | fault | skip | crash | readItem
      | readBinding => rfl
      | claim idle taken =>
          rw [idle] at first
          cases first
      | complete at_ => exact (notOpened _ (by simp [Worker.opened?, at_]; rfl)).elim
      | fail at_ => exact (notOpened _ (by simp [Worker.opened?, at_]; rfl)).elim

/-- A step of a run whose claims stay apart is fenced. -/
theorem FenceInvariant.fenced (invariant : FenceInvariant runtime before)
    (stepped : runtime.step before action = some after) : Fenced before action after where
  latestMoves := by
    intro itemId item later found processing foundLater moved
    rcases invariant.changes stepped found with same | ⟨_, now, claimed⟩ | commit
    · rw [same, Option.some.injEq] at foundLater
      exact absurd processing (foundLater ▸ moved)
    · rw [claimed, Option.some.injEq] at foundLater
      subst foundLater
      exact absurd rfl moved
    · obtain ⟨index, nonce, worker, claim, committed, foundWorker, first, named, latest, _⟩ :=
        commit
      exact ⟨index, nonce, worker, claim, committed, foundWorker, first, named, latest⟩
  supersededInert := by
    rintro index work worker claim rfl found first superseded
    exact invariant.inert stepped found first superseded
  latestProceeds := by
    intro index worker claim _ found first latest
    obtain ⟨item, stored, processing, _⟩ := invariant.holds worker (List.mem_of_getElem? found)
      claim (List.mem_of_mem_head? first) latest
    exact ⟨item, stored, processing⟩
  successRecorded := by
    rintro index nonce worker claim result item binding rfl found first at_ moved
    have current := invariant.opened worker (List.mem_of_getElem? found) item
      (by simp [Worker.opened?, at_])
    obtain ⟨head, rest, batch, named, _⟩ := current.first
    rw [batch, List.head?_cons, Option.some.injEq] at first
    subst first
    cases Runtime.step_moved stepped with
    | work foundWorker turn =>
        rename_i other next shared
        rw [found, Option.some.injEq] at foundWorker
        subst foundWorker
        replace moved := moved
        rw [show (before.workers.set index next)[index]? = some next from
          List.getElem?_set_self (List.getElem?_eq_some_iff.mp found).1, Option.some.injEq] at moved
        cases turn with
        | raise failure =>
            have phases := congrArg Worker.phase moved
            cases phases
        | complete stage written committed =>
            rw [at_] at stage
            cases stage
            refine ⟨_, (item?_complete current.current committed _).trans (if_pos named.symm), rfl⟩
        | fail stage =>
            rw [at_] at stage
            cases stage
  successKept := by
    intro itemId item found completed
    rcases invariant.changes stepped found with same | ⟨unfinished, _⟩ | commit
    · exact ⟨item, same, completed⟩
    · exact absurd completed unfinished
    · obtain ⟨_, _, _, _, _, _, _, _, _, processing⟩ := commit
      rw [completed] at processing
      cases processing

end Steps

/-- One worker claims, creates the key and completes. -/
def completedCreation : List Action :=
  [.stage 0 (.createCaller smallRegistration), .work 0 (.claim 100 []), .work 0 .loadItem,
    .work 0 .loadBinding, .work 0 (.deliver ⟨"", ""⟩), .work 0 (.deliver ⟨"vk", "k"⟩),
    .work 0 .readItem, .work 0 .readBinding]

/-- A slow worker: its claim times out and is taken over, the second worker creates
the key, and then the slow one gets a refusal and is about to fail the item. -/
def takenOver : List Action :=
  [.stage 0 (.createCaller smallRegistration), .work 0 (.claim 100 []), .work 1 (.claim 220 []),
    .work 0 .loadItem, .work 0 .loadBinding, .work 1 .loadItem, .work 1 .loadBinding,
    .work 1 (.deliver ⟨"", ""⟩), .work 1 (.deliver ⟨"vk", "k"⟩),
    .work 0 (.fault ⟨"BIFROST_REQUEST_REJECTED", 400, false⟩), .work 0 .readItem,
    .work 0 .readBinding]

end Zangpu.Workers.Outbox
