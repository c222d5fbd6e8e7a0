import Zangpu.Workers.Outbox.Interleaving

/-!
What the steps of the outbox system write.

Owns: the shape of a step of the whole system; the rows after a claim, a finishing
commit and a staging commit; and the columns no step ever changes.

Does not own: invariants of particular runs.
-/

set_option autoImplicit false

namespace Zangpu.Workers.Outbox

open Zangpu.Foundation
open Zangpu.Models
open Zangpu.Integrations.Bifrost
open Zangpu.Services.Admin

/-! ## Steps of the system -/

/-- One step of the system, in terms of the session or the worker that moves. -/
inductive Moved (runtime : Runtime) (system : System) : Action → System → Prop where
  | stage {index : Nat} {session after : Session} {staging : Staging} {database : Database}
      (found : system.sessions[index]? = some session)
      (staged : Staged runtime.sha256 system.shared.database session staging database after) :
      Moved runtime system (.stage index staging)
        { system with
          shared.database := database
          sessions := system.sessions.set index after }
  | work {index : Nat} {worker after : Worker} {work : Work} {shared : Shared}
      (found : system.workers[index]? = some worker)
      (turn : Turn runtime.keyring runtime.bounds system.shared worker work shared after) :
      Moved runtime system (.work index work)
        { system with
          shared := shared
          workers := system.workers.set index after
          claims := work.newClaims after ++ system.claims }
  | serveStray {position : Nat} {minted : Minted} {request : Request} {keys : VirtualKeys}
      {reply : Except BifrostUpstreamError request.Reply}
      (found : system.shared.strays[position]? = some request)
      (served : serve system.shared.keys minted request = some (keys, reply)) :
      Moved runtime system (.serveStray position minted)
        { system with
          shared := { system.shared with
            keys := keys
            strays := system.shared.strays.eraseIdx position } }
  | loseStray {position : Nat} :
      Moved runtime system (.loseStray position)
        { system with shared.strays := system.shared.strays.eraseIdx position }

theorem Runtime.step_moved {runtime : Runtime} {system after : System} {action : Action}
    (stepped : runtime.step system action = some after) : Moved runtime system action after := by
  cases action with
  | stage index staging =>
      obtain ⟨session, found, rest⟩ := Option.bind_eq_some_iff.mp stepped
      obtain ⟨⟨database, moved⟩, staged, equal⟩ := Option.map_eq_some_iff.mp rest
      subst equal
      exact .stage found (Session.step_staged staged)
  | work index work =>
      obtain ⟨worker, found, rest⟩ := Option.bind_eq_some_iff.mp stepped
      obtain ⟨⟨shared, moved⟩, turned, equal⟩ := Option.map_eq_some_iff.mp rest
      subst equal
      exact .work found (Worker.step_turn turned)
  | serveStray position minted =>
      obtain ⟨request, found, rest⟩ := Option.bind_eq_some_iff.mp stepped
      obtain ⟨⟨keys, reply⟩, served, equal⟩ := Option.map_eq_some_iff.mp rest
      subst equal
      exact .serveStray found served
  | loseStray position =>
      cases stepped
      exact .loseStray

/-! ## Commits -/

section Commits

variable {database after : Database}

theorem updateBinding_ok {read wrote : ApiClientBinding}
    (updated : database.updateBinding read wrote = some after) :
    ∃ current, database.bindings.find? read.id = some current ∧
      Database.syncedRemoteFields (writeBinding read wrote current) = true ∧
      after = { database with
        bindings := database.bindings.modify read.id (writeBinding read wrote)
          (writeBinding_id read wrote) } := by
  unfold Database.updateBinding at updated
  split at updated
  · cases updated
  · rename_i current found
    split at updated
    · rename_i checked
      rw [Bool.and_eq_true] at checked
      cases updated
      exact ⟨current, found, checked.1, rfl⟩
    · cases updated

theorem insertItem_ok {item : ControlOutbox} (inserted : database.insertItem item = some after) :
    database.outbox.find? item.id = none ∧
      after = { database with outbox := database.outbox.insertNew item } := by
  unfold Database.insertItem at inserted
  split at inserted
  · rename_i fresh
    cases inserted
    exact ⟨fresh.1, rfl⟩
  · cases inserted

theorem insertCaller_ok {client : ApiClient} {binding : ApiClientBinding}
    (inserted : database.insertCaller client binding = some after) :
    database.clients.find? client.id = none ∧ database.bindings.find? binding.id = none ∧
      (∀ other ∈ database.bindings.rows, other.apiClientId ≠ binding.apiClientId) ∧
      after = { database with
        clients := database.clients.insertNew client
        bindings := database.bindings.insertNew binding } := by
  unfold Database.insertCaller at inserted
  split at inserted
  · rename_i fresh
    cases inserted
    exact ⟨fresh.1, fresh.2.1, fun other member => (fresh.2.2.2 other member).1, rfl⟩
  · cases inserted

/-- The rows after a commit of staged work. -/
theorem commitStaged_ok {binding : ApiClientBinding}
    {staged : Except ModelError (ApiClientBinding × ControlOutbox)}
    (committed : commitStaged binding staged database = some after) :
    ∃ wrote item current, staged = .ok (wrote, item) ∧
      database.bindings.find? binding.id = some current ∧
      Database.syncedRemoteFields (writeBinding binding wrote current) = true ∧
      database.outbox.find? item.id = none ∧
      after = {
        clients := database.clients
        bindings := database.bindings.modify binding.id (writeBinding binding wrote)
          (writeBinding_id binding wrote)
        outbox := database.outbox.insertNew item } := by
  unfold commitStaged at committed
  split at committed
  · cases committed
  · rename_i wrote item
    obtain ⟨updated, changed, inserted⟩ := Option.bind_eq_some_iff.mp committed
    obtain ⟨current, found, synced, rfl⟩ := updateBinding_ok changed
    obtain ⟨fresh, rfl⟩ := insertItem_ok inserted
    exact ⟨wrote, item, current, rfl, found, synced, fresh, rfl⟩

/-- The rows after the commit of `create_caller`. -/
theorem registerCaller_ok {sha256 : String → String} {registration : Registration}
    (registered : registerCaller sha256 registration database = some after) :
    ∃ client binding item,
      client = createdClient registration.request.fields registration.actorId registration.draw ∧
      binding = stagedRow (createdBinding sha256 registration.request.fields registration.draw)
        (desiredConfigHash sha256
          (managedSpec registration.request.fields registration.draw.clientId))
        registration.draw.now ∧
      CarriesSync binding .bifrost .create
        ⟨binding.bifrostConfigHash, 2,
          some (managedSpec registration.request.fields registration.draw.clientId)⟩ item ∧
      database.clients.find? client.id = none ∧ database.bindings.find? binding.id = none ∧
      (∀ other ∈ database.bindings.rows, other.apiClientId ≠ binding.apiClientId) ∧
      database.outbox.find? item.id = none ∧
      after = {
        clients := database.clients.insertNew client
        bindings := database.bindings.insertNew binding
        outbox := database.outbox.insertNew item } := by
  unfold registerCaller at registered
  split at registered
  · cases registered
  · rename_i binding item staged
    split at registered
    · obtain ⟨inserted, added, queued⟩ := Option.bind_eq_some_iff.mp registered
      obtain ⟨freshClient, freshBinding, freshOwner, rfl⟩ := insertCaller_ok added
      obtain ⟨freshItem, rfl⟩ := insertItem_ok queued
      obtain ⟨_, rfl, carries⟩ := stageBifrostBindingSync_ok sha256 staged
      exact ⟨_, _, item, rfl, rfl, ⟨carries.aggregateId, carries.target, carries.action,
        carries.payload, carries.pending, carries.unclaimed⟩, freshClient, freshBinding,
        freshOwner, freshItem, rfl⟩
    · cases registered

/-- A session step leaves the outbox as it is or adds one fresh pending item. -/
theorem Staged.outbox {sha256 : String → String} {session moved : Session} {staging : Staging}
    (staged : Staged sha256 database session staging after moved) :
    after.outbox = database.outbox ∨
      ∃ item, database.outbox.find? item.id = none ∧ item.target = .bifrost ∧
        item.status = .pending ∧ item.attemptCount = 0 ∧
        after.outbox = database.outbox.insertNew item := by
  cases staged with
  | getClient | getClientBinding | getBinding | rollback => exact Or.inl rfl
  | createCaller registered =>
      obtain ⟨_, _, item, _, _, carries, _, _, _, fresh, rfl⟩ := registerCaller_ok registered
      exact Or.inr ⟨item, fresh, carries.target, carries.pending, carries.unclaimed, rfl⟩
  | disable committed =>
      obtain ⟨_, item, _, stagedWork, _, _, fresh, rfl⟩ := commitStaged_ok committed
      obtain ⟨_, carries⟩ := stageBindingDisable_ok stagedWork
      exact Or.inr ⟨item, fresh, carries.target, carries.pending, carries.unclaimed, rfl⟩
  | sync committed =>
      obtain ⟨_, item, _, stagedWork, _, _, fresh, rfl⟩ := commitStaged_ok committed
      obtain ⟨_, _, carries⟩ := stageBifrostBindingSync_ok sha256 stagedWork
      exact Or.inr ⟨item, fresh, carries.target, carries.pending, carries.unclaimed, rfl⟩

/-- The rows after the commit of `_complete`. -/
theorem commitComplete_ok {item wroteItem : ControlOutbox} {binding wrote : ApiClientBinding}
    (committed : commitComplete item wroteItem binding wrote database = some after) :
    ∃ current, database.bindings.find? binding.id = some current ∧
      Database.syncedRemoteFields (writeBinding binding wrote current) = true ∧
      after = {
        clients := database.clients
        bindings := database.bindings.modify binding.id (writeBinding binding wrote)
          (writeBinding_id binding wrote)
        outbox := database.outbox.modify item.id (writeItem item wroteItem)
          (writeItem_id item wroteItem) } := by
  obtain ⟨current, found, synced, rfl⟩ := updateBinding_ok committed
  exact ⟨current, found, synced, rfl⟩

/-- The rows after the commit of `_fail`. -/
theorem commitFail_ok {bounds : WorkerBounds} {failure : FailureCode} {now : Int}
    {item : ControlOutbox} {binding : Option ApiClientBinding}
    (committed : commitFail bounds failure now item binding database = some after) :
    after.clients = database.clients ∧
      after.outbox = database.outbox.modify item.id
        (writeItem item (failItem bounds failure now item)) (writeItem_id item _) ∧
      (binding = none ∧ after.bindings = database.bindings ∨
        ∃ read current, binding = some read ∧
          database.bindings.find? read.id = some current ∧
          Database.syncedRemoteFields
            (writeBinding read (failBinding failure now item read) current) = true ∧
          after.bindings = database.bindings.modify read.id
            (writeBinding read (failBinding failure now item read))
            (writeBinding_id read _)) := by
  unfold commitFail at committed
  dsimp only at committed
  split at committed
  · cases committed
    exact ⟨rfl, rfl, Or.inl ⟨rfl, rfl⟩⟩
  · rename_i read
    obtain ⟨current, found, synced, rfl⟩ := updateBinding_ok committed
    exact ⟨rfl, rfl, Or.inr ⟨read, current, rfl, found, synced, rfl⟩⟩

/-- Every row after the commit of `_complete`. -/
theorem commitComplete_find {item wroteItem : ControlOutbox} {binding wrote : ApiClientBinding}
    (committed : commitComplete item wroteItem binding wrote database = some after) :
    (∀ itemId, after.outbox.find? itemId =
      if itemId = item.id then (database.outbox.find? itemId).map (writeItem item wroteItem)
      else database.outbox.find? itemId) ∧
    ∀ bindingId, after.bindings.find? bindingId =
      if bindingId = binding.id then
        (database.bindings.find? bindingId).map (writeBinding binding wrote)
      else database.bindings.find? bindingId := by
  obtain ⟨_, _, _, rfl⟩ := commitComplete_ok committed
  exact ⟨fun itemId => Table.find?_modify (writeItem_id _ _) _ _ _,
    fun bindingId => Table.find?_modify (writeBinding_id _ _) _ _ _⟩

/-- Every row after the commit of `_fail`. -/
theorem commitFail_find {bounds : WorkerBounds} {failure : FailureCode} {now : Int}
    {item : ControlOutbox} {binding : Option ApiClientBinding}
    (committed : commitFail bounds failure now item binding database = some after) :
    (∀ itemId, after.outbox.find? itemId =
      if itemId = item.id then
        (database.outbox.find? itemId).map
          (writeItem item (failItem bounds failure now item))
      else database.outbox.find? itemId) ∧
    ∀ bindingId, after.bindings.find? bindingId =
      if bindingId ∈ binding.map ApiClientBinding.id then
        (database.bindings.find? bindingId).map fun current =>
          binding.elim current fun read =>
            writeBinding read (failBinding failure now item read) current
      else database.bindings.find? bindingId := by
  obtain ⟨_, outbox, bindings⟩ := commitFail_ok committed
  refine ⟨fun itemId => by rw [outbox]; exact Table.find?_modify (writeItem_id _ _) _ _ _, ?_⟩
  intro bindingId
  rcases bindings with ⟨rfl, same⟩ | ⟨read, current, rfl, _, _, changed⟩
  · rw [same, if_neg (by simp)]
  · rw [changed, Table.find?_modify (writeBinding_id _ _)]
    simp only [Option.map_some, Option.mem_def, Option.some.injEq, eq_comm, Option.elim_some]

end Commits

/-! ## Claims -/

section Claims

variable {bounds : WorkerBounds} {now : Int} {locked : List String} {outbox : OutboxTable}

theorem mem_claimedRows {item : ControlOutbox}
    (member : item ∈ claimedRows bounds now locked outbox) :
    item ∈ outbox.rows ∧ claimable bounds now item = true := by
  have sorted := List.mem_of_mem_take member
  rw [List.mem_insertionSort, List.mem_filter, Bool.and_eq_true] at sorted
  exact ⟨sorted.1, sorted.2.1⟩

theorem claimedRows_nodup (bounds : WorkerBounds) (now : Int) (locked : List String)
    (outbox : OutboxTable) :
    ((claimedRows bounds now locked outbox).map ControlOutbox.id).Nodup := by
  have filtered : ((outbox.rows.filter fun item =>
      claimable bounds now item && decide (item.id ∉ locked)).map ControlOutbox.id).Nodup :=
    outbox.unique.sublist (List.filter_sublist.map _)
  have sorted := ((List.perm_insertionSort claimsBefore _).map ControlOutbox.id).nodup_iff.mpr
    filtered
  exact sorted.sublist ((List.take_sublist _ _).map _)

/-- A stored row that a claim takes is claimable. -/
theorem claimable_of_taken {itemId : String} {item : ControlOutbox}
    (taken : itemId ∈ (claimedRows bounds now locked outbox).map ControlOutbox.id)
    (found : outbox.find? itemId = some item) : claimable bounds now item = true := by
  obtain ⟨row, inside, named⟩ := List.mem_map.mp taken
  obtain ⟨stored, passes⟩ := mem_claimedRows inside
  have foundRow := Table.find?_of_mem stored
  rw [named, found, Option.some.injEq] at foundRow
  exact foundRow ▸ passes

theorem claimable_not_completed {item : ControlOutbox}
    (passes : claimable bounds now item = true) : item.status ≠ .completed := by
  intro completed
  simp [claimable, completed] at passes

theorem find?_claimRows {taken : List String} (distinct : taken.Nodup) (now : Int)
    (outbox : OutboxTable) (itemId : String) :
    (claimRows now taken outbox).find? itemId =
      if itemId ∈ taken then (outbox.find? itemId).map (claimItem now)
      else outbox.find? itemId := by
  induction taken generalizing outbox with
  | nil => rfl
  | cons head rest inductionHypothesis =>
      rw [List.nodup_cons] at distinct
      have step : claimRows now (head :: rest) outbox =
          claimRows now rest (outbox.modify head (claimItem now) (claimItem_id now)) := rfl
      rw [step, inductionHypothesis distinct.2, Table.find?_modify (claimItem_id now)]
      by_cases same : itemId = head
      · subst same
        rw [if_neg distinct.1, if_pos rfl, if_pos List.mem_cons_self]
      · simp only [same, if_false, List.mem_cons, false_or]

end Claims
/-! ## Fixed columns -/

/-- What an outbox item asks for. -/
structure Order where
  itemId : String
  aggregateId : String
  action : OutboxAction
  payload : BifrostOutboxPayload
  deriving DecidableEq, Repr

def order (item : ControlOutbox) : Order :=
  ⟨item.id, item.aggregateId, item.action, item.payload⟩

/-- Whose binding a row is. -/
structure Owner where
  bindingId : String
  apiClientId : String
  serviceUserId : Option String
  deriving DecidableEq, Repr

def owner (binding : ApiClientBinding) : Owner :=
  ⟨binding.id, binding.apiClientId, binding.zangpuServiceUserId⟩

/-- A session step keeps every stored item. -/
theorem Staged.item? {sha256 : String → String} {database after : Database}
    {session moved : Session} {staging : Staging} {itemId : String} {item : ControlOutbox}
    (staged : Staged sha256 database session staging after moved)
    (found : database.outbox.find? itemId = some item) :
    after.outbox.find? itemId = some item := by
  rcases staged.outbox with same | ⟨_, _, _, _, _, added⟩
  · rw [same]
    exact found
  · rw [added]
    exact Table.find?_insertNew_of_some found

/-- A session step rewrites the binding it has read, and keeps or adds the others. -/
theorem Staged.binding? {sha256 : String → String} {database after : Database}
    {session moved : Session} {staging : Staging} {bindingId : String}
    {binding : ApiClientBinding} (staged : Staged sha256 database session staging after moved)
    (found : database.bindings.find? bindingId = some binding) :
    ∃ later, after.bindings.find? bindingId = some later ∧ owner later = owner binding := by
  have rewritten : ∀ read wrote : ApiClientBinding, ∃ later,
      (database.bindings.modify read.id (writeBinding read wrote)
        (writeBinding_id read wrote)).find? bindingId = some later ∧
        owner later = owner binding := by
    intro read wrote
    rw [Table.find?_modify (writeBinding_id _ _), found]
    split
    · exact ⟨_, rfl, rfl⟩
    · exact ⟨_, rfl, rfl⟩
  cases staged with
  | getClient | getClientBinding | getBinding | rollback => exact ⟨binding, found, rfl⟩
  | createCaller registered =>
      obtain ⟨_, _, _, _, _, _, _, _, _, _, rfl⟩ := registerCaller_ok registered
      exact ⟨binding, Table.find?_insertNew_of_some found, rfl⟩
  | disable committed =>
      obtain ⟨_, _, _, _, _, _, _, rfl⟩ := commitStaged_ok committed
      exact rewritten _ _
  | sync committed =>
      obtain ⟨_, _, _, _, _, _, _, rfl⟩ := commitStaged_ok committed
      exact rewritten _ _

section Fixed

variable {keyring : CredentialKeyring} {bounds : WorkerBounds} {shared after : Shared}
  {worker moved : Worker} {work : Work}

/-- A worker's step rewrites the items in place, and never what they ask for. -/
theorem Turn.items (turn : Turn keyring bounds shared worker work after moved) (itemId : String) :
    ∃ change, after.database.outbox.find? itemId =
      (shared.database.outbox.find? itemId).map change ∧
      ∀ row, Outbox.order (change row) = Outbox.order row ∧ (change row).target = row.target := by
  have rewritten {test : Prop} [Decidable test] {change : ControlOutbox → ControlOutbox}
      (keeps : ∀ row, Outbox.order (change row) = Outbox.order row ∧
        (change row).target = row.target) :
      ∃ whole, (if test then (shared.database.outbox.find? itemId).map change
        else shared.database.outbox.find? itemId) =
          (shared.database.outbox.find? itemId).map whole ∧
        ∀ row, Outbox.order (whole row) = Outbox.order row ∧
          (whole row).target = row.target := by
    split
    · exact ⟨change, rfl, keeps⟩
    · exact ⟨id, Option.map_id.symm ▸ rfl, fun _ => ⟨rfl, rfl⟩⟩
  cases turn with
  | raise | loadItem | loadBinding | deliver | fault | skip | crash | readItem
  | readBinding => exact ⟨id, Option.map_id.symm ▸ rfl, fun _ => ⟨rfl, rfl⟩⟩
  | claim idle taken =>
      subst taken
      rw [find?_claimRows (claimedRows_nodup _ _ _ _)]
      exact rewritten fun _ => ⟨rfl, rfl⟩
  | complete _ _ committed =>
      rw [(commitComplete_find committed).1]
      exact rewritten fun _ => ⟨rfl, rfl⟩
  | fail _ committed =>
      rw [(commitFail_find committed).1]
      exact rewritten fun _ => ⟨rfl, rfl⟩

/-- No worker removes an item. -/
theorem Turn.order (turn : Turn keyring bounds shared worker work after moved)
    {itemId : String} {item : ControlOutbox}
    (found : shared.database.outbox.find? itemId = some item) :
    ∃ later, after.database.outbox.find? itemId = some later ∧
      Outbox.order later = Outbox.order item := by
  obtain ⟨change, changed, keeps⟩ := turn.items itemId
  exact ⟨change item, by rw [changed, found]; rfl, (keeps item).1⟩

/-- No worker adds an item. -/
theorem Turn.order_before (turn : Turn keyring bounds shared worker work after moved)
    {itemId : String} {later : ControlOutbox}
    (found : after.database.outbox.find? itemId = some later) :
    ∃ item, shared.database.outbox.find? itemId = some item ∧
      Outbox.order later = Outbox.order item := by
  obtain ⟨change, changed, keeps⟩ := turn.items itemId
  rw [changed] at found
  obtain ⟨item, foundItem, rfl⟩ := Option.map_eq_some_iff.mp found
  exact ⟨item, foundItem, (keeps item).1⟩

/-- No worker changes whose a binding is. -/
theorem Turn.owner (turn : Turn keyring bounds shared worker work after moved)
    {bindingId : String} {binding : ApiClientBinding}
    (found : shared.database.bindings.find? bindingId = some binding) :
    ∃ later, after.database.bindings.find? bindingId = some later ∧
      Outbox.owner later = Outbox.owner binding := by
  cases turn with
  | claim | raise | loadItem | loadBinding | deliver | fault | skip | crash | readItem
  | readBinding => exact ⟨binding, found, rfl⟩
  | complete _ _ committed =>
      rw [(commitComplete_find committed).2, found]
      split
      · exact ⟨_, rfl, rfl⟩
      · exact ⟨_, rfl, rfl⟩
  | fail _ committed =>
      rename_i read _ _
      rw [(commitFail_find committed).2, found]
      split
      · refine ⟨_, rfl, ?_⟩
        cases read <;> rfl
      · exact ⟨_, rfl, rfl⟩

end Fixed

/-- A finishing transaction has read a processing item that is stored. -/
structure Reading (system : System) (item : ControlOutbox) : Prop where
  processing : item.status = .processing
  stored : ∃ stored, system.item? item.id = some stored ∧ order stored = order item

theorem Reading.kept {before after : System} {item : ControlOutbox} (reading : Reading before item)
    (kept : ∀ itemId stored, before.item? itemId = some stored →
      ∃ later, after.item? itemId = some later ∧ order later = order stored) :
    Reading after item := by
  obtain ⟨stored, found, same⟩ := reading.stored
  obtain ⟨later, foundLater, sameLater⟩ := kept _ _ found
  exact ⟨reading.processing, later, foundLater, sameLater.trans same⟩

theorem Moved.order {runtime : Runtime} {system after : System} {action : Action}
    (moved : Moved runtime system action after) {itemId : String} {item : ControlOutbox}
    (found : system.item? itemId = some item) :
    ∃ later, after.item? itemId = some later ∧ Outbox.order later = Outbox.order item := by
  cases moved with
  | serveStray | loseStray => exact ⟨item, found, rfl⟩
  | stage _ staged => exact ⟨item, staged.item? found, rfl⟩
  | work _ turn => exact turn.order found

theorem Moved.owner {runtime : Runtime} {system after : System} {action : Action}
    (moved : Moved runtime system action after) {bindingId : String}
    {binding : ApiClientBinding} (found : system.binding? bindingId = some binding) :
    ∃ later, after.binding? bindingId = some later ∧ Outbox.owner later = Outbox.owner binding := by
  cases moved with
  | serveStray | loseStray => exact ⟨binding, found, rfl⟩
  | stage _ staged => exact staged.binding? found
  | work _ turn => exact turn.owner found

end Zangpu.Workers.Outbox
