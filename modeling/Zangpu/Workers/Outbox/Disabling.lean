import Zangpu.Workers.Outbox.Creation

/-!
Disabled callers and their remote keys.

Owns: what a disabled caller promises about its key once its work is done, the runs
in which that holds, the proof, and a run that leaves a disabled caller an active key.

Does not own: how many keys a binding has.
-/

set_option autoImplicit false

namespace Zangpu.Workers.Outbox

open Zangpu.Foundation
open Zangpu.Models
open Zangpu.Integrations.Bifrost
open Zangpu.Services.Admin

/-! ## The promise -/

/-- A binding that waits for nothing: it is not pending with all its remote fields. -/
def Settled (binding : ApiClientBinding) : Prop :=
  ¬ (binding.syncStatus = .pending ∧ bindingRemoteFieldsComplete binding = true)

/-- A disabled caller whose work is done has no usable key. -/
def DisabledUnusable (system : System) : Prop :=
  ∀ binding ∈ system.shared.database.bindings.rows,
    ∀ client ∈ system.shared.database.clients.rows, client.id = binding.apiClientId →
    client.status = .disabled →
    (∀ item ∈ system.shared.database.outbox.rows, item.aggregateId = binding.id →
      item.status = .completed) →
    (∀ key ∈ system.shared.keys,
      key.state.name = managedName binding.apiClientId ∨
        binding.bifrostVirtualKeyId = some key.state.id → key.state.isActive = false) ∧
      Settled binding

/-! ## The condition -/

/-- The client a session has read. -/
def Session.client? : Session → Option ApiClient
  | .readClient client | .disabling client _ => some client
  | .closed | .syncing _ => none

/-- A disable commits while its client is active. -/
def DisablesActive (system : System) : Action → Prop
  | .stage index (.disable _) =>
      ∀ session ∈ system.sessions[index]?, ∀ client ∈ session.client?,
        ∀ current ∈ system.shared.database.clients.find? client.id, current.status = .active
  | _ => True

/-- The result that a worker is recording. -/
def Phase.result? : Phase → Option Result
  | .finishing (.complete result) | .readItem (.complete result) _
  | .readBinding (.complete result) _ _ => some result
  | _ => none

/-- The item of the first claim. -/
def Worker.item? (shared : Shared) (worker : Worker) : Option ControlOutbox :=
  worker.batch.head?.bind fun claim => shared.database.outbox.find? claim.itemId

/-- A result without new material: that of a disable. -/
def Result.isDisable : Result → Bool
  | .nothing | .changed _ => true
  | .created _ => false

/-- The binding for which a worker is recording the result of a disable. -/
def Worker.disabled? (shared : Shared) (worker : Worker) : Option String :=
  if worker.phase.result?.any Result.isDisable then
    (worker.item? shared).map ControlOutbox.aggregateId
  else none

/-- The binding whose creation a worker is about to commit. -/
def Worker.created? (worker : Worker) : Option String :=
  match worker.phase with
  | .readBinding (.complete (.created _)) item _ => some item.aggregateId
  | _ => none

/-- A creation commits while no disable of its binding is recorded or being recorded. -/
def RecordsFirst (system : System) : Action → Prop
  | .work index (.commit _) =>
      ∀ worker ∈ system.workers[index]?, ∀ bindingId ∈ worker.created?,
        (∀ item ∈ system.shared.database.outbox.rows, item.action = .disable →
          item.aggregateId = bindingId → item.status ≠ .completed) ∧
        ∀ other ∈ system.workers, bindingId ∉ other.disabled? system.shared
  | _ => True

instance (system : System) (action : Action) : Decidable (DisablesActive system action) := by
  unfold DisablesActive
  split <;> infer_instance

instance (system : System) (action : Action) : Decidable (RecordsFirst system action) := by
  unfold RecordsFirst
  split <;> infer_instance

/-- The condition on a step. -/
def DisableOrdered (system : System) (action : Action) : Prop :=
  (CallersStage action ∧ CreatesAlone system action) ∧ DisablesActive system action ∧
    RecordsFirst system action

instance (system : System) (action : Action) : Decidable (DisableOrdered system action) :=
  inferInstanceAs (Decidable (_ ∧ _))

/-! ## Retired keys -/

/-- The key with an identifier exists and cannot be used. -/
structure Retired (keys : VirtualKeys) (virtualKeyId : String) : Prop where
  known : ∃ key ∈ keys, key.state.id = virtualKeyId
  inactive : ∀ key ∈ keys, key.state.id = virtualKeyId → key.state.isActive = false

theorem mem_change {keys : VirtualKeys} {virtualKeyId : String}
    {change : VirtualKeyState → VirtualKeyState} {key : VirtualKeyCreationResult}
    (member : key ∈ keys.change virtualKeyId change) :
    ∃ old ∈ keys, (old.state.id = virtualKeyId ∧ key.state = change old.state) ∨
      (old.state.id ≠ virtualKeyId ∧ key = old) := by
  obtain ⟨old, stored, rfl⟩ := List.mem_map.mp member
  refine ⟨old, stored, ?_⟩
  by_cases same : old.state.id = virtualKeyId
  · exact Or.inl ⟨same, by rw [if_pos same]⟩
  · exact Or.inr ⟨same, by rw [if_neg same]⟩

/-- A served disable of a known key retires it, and answers with its inactive state. -/
theorem serve_disable {keys after : VirtualKeys} {minted : Minted} {virtualKeyId : String}
    {reply : Except BifrostUpstreamError VirtualKeyState}
    (known : ∃ key ∈ keys, key.state.id = virtualKeyId)
    (served : serve keys minted (.disable virtualKeyId) = some (after, reply)) :
    Retired after virtualKeyId ∧ ∃ state, reply = .ok state ∧ state.isActive = false := by
  have notUpdate : (Request.disable virtualKeyId).isUpdate = false := rfl
  obtain ⟨key, stored, named⟩ := known
  obtain ⟨later, storedLater, same⟩ := KeysKept.of_serve notUpdate served key stored
  have answered : keys.changeKey virtualKeyId disabledState = (after, reply) :=
    Option.some.inj served
  unfold VirtualKeys.changeKey at answered
  split at answered
  · rename_i missing
    have absent := List.find?_eq_none.mp missing key stored
    exact absurd named (by simpa using absent)
  · rename_i found _
    obtain ⟨rfl, rfl⟩ := Prod.mk.inj answered
    refine ⟨⟨⟨later, storedLater, (congrArg Identity.id same).trans named⟩, ?_⟩, _, rfl, rfl⟩
    intro other member sameId
    obtain ⟨old, _, ⟨_, changed⟩ | ⟨different, rfl⟩⟩ := mem_change member
    · rw [changed]
      rfl
    · exact absurd sameId different

/-- No request but an update brings a retired key back. -/
theorem Retired.of_serve {keys after : VirtualKeys} {minted : Minted} {request : Request}
    {reply : Except BifrostUpstreamError request.Reply} {virtualKeyId : String}
    (retired : Retired keys virtualKeyId) (notUpdate : request.isUpdate = false)
    (served : serve keys minted request = some (after, reply)) : Retired after virtualKeyId := by
  obtain ⟨key, stored, named⟩ := retired.known
  obtain ⟨later, storedLater, same⟩ := KeysKept.of_serve notUpdate served key stored
  refine ⟨⟨later, storedLater, (congrArg Identity.id same).trans named⟩, ?_⟩
  intro other member sameId
  cases request with
  | find | material =>
      cases served
      exact retired.inactive other member sameId
  | update => cases notUpdate
  | create spec =>
      obtain ⟨fresh, rfl, _⟩ := serve_create served
      rcases List.mem_append.mp member with old | new
      · exact retired.inactive other old sameId
      · rw [List.mem_singleton] at new
        subst new
        have absent := List.find?_eq_none.mp fresh key stored
        exact absurd (show key.state.id = minted.id from named.trans sameId.symm)
          (by simpa using absent)
  | disable disabledId =>
      have answered : (keys.changeKey disabledId disabledState).1 = after :=
        congrArg Prod.fst (Option.some.inj served)
      unfold VirtualKeys.changeKey at answered
      split at answered
      · subst answered
        exact retired.inactive other member sameId
      · subst answered
        obtain ⟨old, oldStored, ⟨oldNamed, changed⟩ | ⟨_, rfl⟩⟩ := mem_change member
        · rw [changed]
          rfl
        · exact retired.inactive other oldStored sameId

/-! ## What a disable has found -/

/-- A row changes, but neither its key nor its version, and it stays settled. -/
structure Quiet (row later : ApiClientBinding) : Prop where
  owner : Outbox.owner later = Outbox.owner row
  columns : keyColumns later = keyColumns row
  version : later.version = row.version
  settled : Settled row → Settled later

theorem Quiet.refl (row : ApiClientBinding) : Quiet row row := ⟨rfl, rfl, rfl, id⟩

theorem Quiet.virtualKeyId {row later : ApiClientBinding} (quiet : Quiet row later) :
    later.bifrostVirtualKeyId = row.bifrostVirtualKeyId :=
  congrArg KeyColumns.virtualKeyId quiet.columns

/-- The remote fields of a binding are complete or not by its owner and its key. -/
theorem bindingRemoteFieldsComplete_congr {left right : ApiClientBinding}
    (sameOwner : owner left = owner right) (columns : keyColumns left = keyColumns right) :
    bindingRemoteFieldsComplete left = bindingRemoteFieldsComplete right := by
  simp only [owner, Owner.mk.injEq] at sameOwner
  simp only [keyColumns, KeyColumns.mk.injEq] at columns
  unfold bindingRemoteFieldsComplete
  rw [sameOwner.2.2, columns.1, columns.2.1, columns.2.2]

/-- A binding without a key is settled. -/
theorem settled_of_none {binding : ApiClientBinding}
    (nothing : binding.bifrostVirtualKeyId = none) : Settled binding := by
  rintro ⟨_, complete⟩
  simp [bindingRemoteFieldsComplete, nothing, isSet] at complete

section Found

variable (shared : Shared)

/-- What the result of a disable says about its binding: it has no key, or a retired
one. -/
def Concludes (work : Order) : Result → Prop
  | .nothing => work.action = .disable ∧
      ∃ row, shared.database.bindings.find? work.aggregateId = some row ∧
        row.bifrostVirtualKeyId = none
  | .changed _ => work.action = .disable ∧
      ∃ row virtualKeyId, shared.database.bindings.find? work.aggregateId = some row ∧
        row.bifrostVirtualKeyId = some virtualKeyId ∧ Retired shared.keys virtualKeyId
  | .created _ => True

/-- The row that a disable has read to record that it retired the key. -/
structure ReadLast (work : Order) (read : ApiClientBinding) : Prop where
  version : read.version = work.payload.bindingVersion
  keyed : read.bifrostVirtualKeyId.isSome
  settled : read.syncStatus = .disabled → ∃ row,
    shared.database.bindings.find? work.aggregateId = some row ∧ Settled row

/-- What a worker on an item has found. -/
def PhaseConcludes (work : Order) : Phase → Prop
  | .finishing (.complete result) | .readItem (.complete result) _ => Concludes shared work result
  | .readBinding (.complete result) _ read => Concludes shared work result ∧
      ∀ state, result = .changed state → ∀ row ∈ read, ReadLast shared work row
  | _ => True

def WorkerConcludes (worker : Worker) : Prop :=
  worker.phase.result? = none ∨
    ∃ work, Assigned shared worker work ∧ PhaseConcludes shared work worker.phase

/-- A completed disable: its binding has no key, or a retired one and waits for nothing. -/
def Concluded (bindingId : String) : Prop :=
  ∃ row, shared.database.bindings.find? bindingId = some row ∧
    (row.bifrostVirtualKeyId = none ∨
      Settled row ∧ ∃ virtualKeyId, row.bifrostVirtualKeyId = some virtualKeyId ∧
        Retired shared.keys virtualKeyId)

end Found

section Stable

variable {before after : Shared}

/-- A step leaves a disabled binding its key and its version. -/
structure Leaves (before after : Shared) (bindingId : String) : Prop where
  row : ∀ row, before.database.bindings.find? bindingId = some row →
    ∃ later, after.database.bindings.find? bindingId = some later ∧ Quiet row later
  retired : ∀ virtualKeyId, Retired before.keys virtualKeyId → Retired after.keys virtualKeyId

theorem Concludes.kept {work : Order} {result : Result} (concludes : Concludes before work result)
    (leaves : result.isDisable → work.action = .disable → Leaves before after work.aggregateId) :
    Concludes after work result := by
  cases result with
  | nothing =>
      obtain ⟨disable, row, found, nothing⟩ := concludes
      obtain ⟨later, foundLater, quiet⟩ := (leaves rfl disable).row row found
      exact ⟨disable, later, foundLater, quiet.virtualKeyId.trans nothing⟩
  | changed =>
      obtain ⟨disable, row, virtualKeyId, found, held, retired⟩ := concludes
      obtain ⟨later, foundLater, quiet⟩ := (leaves rfl disable).row row found
      exact ⟨disable, later, virtualKeyId, foundLater, quiet.virtualKeyId.trans held,
        (leaves rfl disable).retired _ retired⟩
  | created => trivial

theorem ReadLast.kept {work : Order} {read : ApiClientBinding} (last : ReadLast before work read)
    (leaves : Leaves before after work.aggregateId) : ReadLast after work read := by
  refine ⟨last.version, last.keyed, fun disabled => ?_⟩
  obtain ⟨row, found, settled⟩ := last.settled disabled
  obtain ⟨later, foundLater, quiet⟩ := leaves.row row found
  exact ⟨later, foundLater, quiet.settled settled⟩

theorem Concluded.kept {bindingId : String} (concluded : Concluded before bindingId)
    (leaves : Leaves before after bindingId) : Concluded after bindingId := by
  obtain ⟨row, found, ended⟩ := concluded
  obtain ⟨later, foundLater, quiet⟩ := leaves.row row found
  refine ⟨later, foundLater, ?_⟩
  rw [quiet.virtualKeyId]
  exact ended.imp id fun ⟨settled, virtualKeyId, held, retired⟩ =>
    ⟨quiet.settled settled, virtualKeyId, held, leaves.retired _ retired⟩

theorem PhaseConcludes.kept {work : Order} {phase : Phase}
    (concludes : PhaseConcludes before work phase)
    (leaves : phase.result?.any Result.isDisable → work.action = .disable →
      Leaves before after work.aggregateId) : PhaseConcludes after work phase := by
  match phase, concludes with
  | .finishing (.complete result), concludes => exact Concludes.kept concludes leaves
  | .readItem (.complete result) _, concludes => exact Concludes.kept concludes leaves
  | .readBinding (.complete result) _ read, concludes =>
      refine ⟨concludes.1.kept leaves, ?_⟩
      rintro state rfl row member
      exact (concludes.2 state rfl row member).kept (leaves rfl concludes.1.1)
  | .ready, _ | .loading _, _ | .waiting _ _, _ | .finishing (.fail _), _
  | .readItem (.fail _) _, _ | .readBinding (.fail _) _ _, _ => trivial

end Stable

/-! ## The invariant -/

/-- What a staging session has read of a caller. -/
def SessionHolds (shared : Shared) : Session → Prop
  | .readClient client => client.status = .active ∧
      ∃ stored, shared.database.clients.find? client.id = some stored
  | .disabling client read => client.status = .active ∧
      (∃ stored, shared.database.clients.find? client.id = some stored) ∧
      ∃ current, shared.database.bindings.find? read.id = some current ∧
        current.apiClientId = client.id
  | .closed | .syncing _ => True

structure DisableInvariant (system : System) : Prop where
  unique : ∀ leftId rightId left right, system.binding? leftId = some left →
    system.binding? rightId = some right → left.apiClientId = right.apiClientId →
    leftId = rightId
  created : ∀ bindingId binding, system.binding? bindingId = some binding →
    ∃ itemId item, system.item? itemId = some item ∧ item.aggregateId = bindingId ∧
      item.action = .create
  staged : ∀ bindingId binding client, system.binding? bindingId = some binding →
    system.shared.database.clients.find? binding.apiClientId = some client →
    client.status = .disabled → ∃ itemId item, system.item? itemId = some item ∧
      item.aggregateId = bindingId ∧ item.action = .disable
  disabled : ∀ itemId item, system.item? itemId = some item → item.action = .disable →
    ∃ binding client, system.binding? item.aggregateId = some binding ∧
      system.shared.database.clients.find? binding.apiClientId = some client ∧
      client.status = .disabled ∧ binding.version = item.payload.bindingVersion
  concluded : ∀ itemId item, system.item? itemId = some item → item.action = .disable →
    item.status = .completed → Concluded system.shared item.aggregateId
  sessions : ∀ session ∈ system.sessions, SessionHolds system.shared session
  workers : ∀ worker ∈ system.workers, WorkerConcludes system.shared worker

theorem DisableInvariant.start (sessions workers : Nat) :
    DisableInvariant (System.start sessions workers) := by
  have idle : ∀ worker ∈ (System.start sessions workers).workers, worker = .idle :=
    fun worker member => (List.mem_replicate.mp member).2
  have closed : ∀ session ∈ (System.start sessions workers).sessions, session = .closed :=
    fun session member => (List.mem_replicate.mp member).2
  constructor
  · intro leftId rightId left right found
    cases found
  · intro bindingId binding found
    cases found
  · intro bindingId binding client found
    cases found
  · intro itemId item found
    cases found
  · intro itemId item found
    cases found
  · intro session member
    rw [closed session member]
    trivial
  · intro worker member
    rw [idle worker member]
    exact Or.inl rfl

/-! ## Recording a result -/

section Recording

variable {runtime : Runtime} {before after : System}

theorem Assigned.unique {shared : Shared} {worker : Worker} {left right : Order}
    (leftAssigned : Assigned shared worker left) (rightAssigned : Assigned shared worker right) :
    left = right := by
  obtain ⟨leftHead, item, found, same⟩ := leftAssigned
  obtain ⟨rightHead, other, foundOther, sameOther⟩ := rightAssigned
  rw [leftHead, Option.some.injEq] at rightHead
  rw [← rightHead, found, Option.some.injEq] at foundOther
  rw [← same, ← sameOther, foundOther]

/-- What a worker that is about to record a result has found. -/
theorem DisableInvariant.recording (creation : CreationInvariant runtime.keyring before)
    (invariant : DisableInvariant before) {worker : Worker} (member : worker ∈ before.workers)
    {result : Result} {item : ControlOutbox} {read : ApiClientBinding}
    (at_ : worker.phase = .readBinding (.complete result) item (some read)) :
    Concludes before.shared (order item) result ∧
      ∀ state, result = .changed state → ReadLast before.shared (order item) read := by
  rcases creation.workers worker member with holdless | ⟨work, assigned, held⟩
  · rw [at_] at holdless
    exact holdless.elim
  rw [at_] at held
  obtain ⟨rfl, _, _⟩ := held
  rcases invariant.workers worker member with none | ⟨work, sameWorker, concludes⟩
  · rw [at_] at none
    cases none
  rw [at_, ← assigned.unique sameWorker] at concludes
  exact ⟨concludes.1, fun state changed => concludes.2 state changed read rfl⟩

/-- A row that carries a key has all columns of one. -/
theorem isSet_of_carries {keyring : CredentialKeyring} {key : VirtualKeyCreationResult}
    {binding : ApiClientBinding} (carries : Carries keyring key binding) :
    isSet binding.bifrostVirtualKeyId = true ∧ isSet binding.bifrostValueCiphertext = true ∧
      isSet binding.bifrostValueKeyVersion = true := by
  have value := carries.value
  unfold decryptBindingValue at value
  simp only [Option.bind_eq_bind, Option.bind_eq_some_iff] at value
  obtain ⟨virtualKeyId, keyed, envelope, stored, keyVersion, versioned, _⟩ := value
  have set {text : Option String} {value : String} (kept : text.filter (· ≠ "") = some value) :
      isSet text = true := by
    obtain ⟨rfl, nonempty⟩ := Option.filter_eq_some_iff.mp kept
    simpa [isSet] using nonempty
  exact ⟨set keyed, set stored, set versioned⟩

/-- The status that a completion of the current version writes. -/
theorem completeBinding_status {keyring : CredentialKeyring} {nonce : Nat} {now : Int}
    {item : ControlOutbox} {state : VirtualKeyState} {binding wrote : ApiClientBinding}
    (written : completeBinding keyring nonce now item (.changed state) binding = .ok wrote)
    (version : binding.version = item.payload.bindingVersion) :
    wrote.syncStatus = settledStatus item.action binding := by
  simp only [completeBinding, settleBinding, bind_ok_iff, pure, Except.pure, Except.ok.injEq,
    exists_eq_left'] at written
  subst written
  rw [if_neg (not_not_intro version)]

/-- **A recorded disable settles its binding.** The row after the UPDATE that records a
disabled key waits for nothing. -/
theorem DisableInvariant.settled_changed (creation : CreationInvariant runtime.keyring before)
    (invariant : DisableInvariant before) {worker : Worker} (member : worker ∈ before.workers)
    {state : VirtualKeyState} {item : ControlOutbox} {read wrote row : ApiClientBinding}
    {nonce : Nat} (at_ : worker.phase = .readBinding (.complete (.changed state)) item (some read))
    (written : completeBinding runtime.keyring nonce worker.now item (.changed state) read =
      .ok wrote)
    (found : before.binding? read.id = some row) : Settled (writeBinding read wrote row) := by
  obtain ⟨concludes, last⟩ := invariant.recording creation member at_
  obtain ⟨version, keyed, settled⟩ := last state rfl
  obtain ⟨_, own, _, _, foundOwn, sameOwner, _, readHolds, _, _⟩ := creation.finishing member at_
  have ownId : own.id = item.aggregateId := Table.key_of_find? foundOwn
  have readId : own.id = read.id := congrArg Owner.bindingId sameOwner
  rw [← readId, ownId, foundOwn, Option.some.injEq] at found
  subst found
  rintro ⟨pending, complete⟩
  -- The read row was complete too, so the disable wrote its status.
  have readComplete : bindingRemoteFieldsComplete read = true := by
    rcases readHolds with nothing | ⟨key, _, carries⟩
    · rw [show read.bifrostVirtualKeyId = none from congrArg KeyColumns.virtualKeyId nothing]
        at keyed
      cases keyed
    · obtain ⟨virtualKeyId, ciphertext, keyVersion⟩ := isSet_of_carries carries
      have service : isSet own.zangpuServiceUserId = true := by
        unfold bindingRemoteFieldsComplete at complete
        simp only [Bool.and_eq_true] at complete
        exact complete.1.1.1
      rw [show own.zangpuServiceUserId = read.zangpuServiceUserId from
        congrArg Owner.serviceUserId sameOwner] at service
      unfold bindingRemoteFieldsComplete
      rw [service, virtualKeyId, ciphertext, keyVersion]
      rfl
  have status : wrote.syncStatus = .disabled := by
    have disable : item.action = .disable := concludes.1
    rw [completeBinding_status written version, settledStatus, if_pos readComplete,
      if_pos disable]
  have columns := completeBinding_uncreated written (by simp)
  have stays : column read.syncStatus wrote.syncStatus own.syncStatus = .pending := pending
  rw [status] at stays
  by_cases same : BindingSyncStatus.disabled = read.syncStatus
  · rw [← same, column_self] at stays
    obtain ⟨stored, foundStored, settledStored⟩ := settled same.symm
    rw [show before.shared.database.bindings.find? (order item).aggregateId = some own from
      foundOwn, Option.some.injEq] at foundStored
    subst foundStored
    refine settledStored ⟨stays, ?_⟩
    rw [← complete]
    exact bindingRemoteFieldsComplete_congr rfl (writeBinding_columns columns _).symm
  · rw [column_of_ne same] at stays
    cases stays

theorem CreationInvariant.read_id (creation : CreationInvariant runtime.keyring before)
    {worker : Worker} (member : worker ∈ before.workers) {result : Result}
    {item : ControlOutbox} {read : ApiClientBinding}
    (at_ : worker.phase = .readBinding (.complete result) item (some read)) :
    read.id = item.aggregateId := by
  obtain ⟨_, own, _, _, foundOwn, sameOwner, _⟩ := creation.finishing member at_
  have ownId : own.id = item.aggregateId := Table.key_of_find? foundOwn
  exact (congrArg Owner.bindingId sameOwner).symm.trans ownId

/-- A failure that is recorded leaves a settled row settled. -/
theorem settled_fail {failure : FailureCode} {now : Int} {item : ControlOutbox}
    {read row : ApiClientBinding} (settled : Settled row) :
    Settled (writeBinding read (failBinding failure now item read) row) := by
  rintro ⟨pending, complete⟩
  have status : column read.syncStatus (failBinding failure now item read).syncStatus
      row.syncStatus = .pending := pending
  have unchanged (same : (failBinding failure now item read).syncStatus = read.syncStatus) :
      False := by
    rw [same, column_self] at status
    refine settled ⟨status, ?_⟩
    rw [← complete]
    exact bindingRemoteFieldsComplete_congr rfl
      (writeBinding_columns (failBinding_columns _ _ _ _) _).symm
  by_cases same : (failBinding failure now item read).syncStatus = read.syncStatus
  · exact unchanged same
  · rw [column_of_ne same] at status
    rcases failBinding_cases failure now item read with ⟨_, error, _⟩ | ⟨_, untouched⟩
    · rw [error] at status
      cases status
    · exact unchanged (congrArg ApiClientBinding.syncStatus untouched)

/-- A worker's step is quiet on every binding whose creation it does not record. -/
theorem DisableInvariant.quiet_turn (creation : CreationInvariant runtime.keyring before)
    (invariant : DisableInvariant before) {shared : Shared} {worker moved : Worker} {work : Work}
    (member : worker ∈ before.workers)
    (turn : Turn runtime.keyring runtime.bounds before.shared worker work shared moved)
    {bindingId : String} {row : ApiClientBinding} (found : before.binding? bindingId = some row)
    (unrecorded : ∀ nonce, work = .commit nonce → bindingId ∉ worker.created?) :
    ∃ later, shared.database.bindings.find? bindingId = some later ∧ Quiet row later := by
  obtain ⟨change, changed, rewrites⟩ := turn.rewrites bindingId
  have quiet : keyColumns (change row) = keyColumns row ∧ (Settled row → Settled (change row)) := by
    cases rewrites with
    | stays => exact ⟨rfl, id⟩
    | fails => exact ⟨writeBinding_columns (failBinding_columns _ _ _ _) row, settled_fail⟩
    | completes committing named at_ written =>
        rename_i nonce result item read wrote
        have readId := creation.read_id member at_
        cases result with
        | created material =>
            refine absurd ?_ (unrecorded _ committing)
            unfold Worker.created?
            rw [at_, ← named, readId]
            rfl
        | nothing =>
            have columns := writeBinding_columns
              (completeBinding_uncreated written (by simp)) row
            obtain ⟨_, stored, foundStored, nothing⟩ :=
              (invariant.recording creation member at_).1
            rw [show (order item).aggregateId = bindingId from readId.symm.trans named] at foundStored
            rw [show before.shared.database.bindings.find? bindingId = some row from found,
              Option.some.injEq] at foundStored
            subst foundStored
            exact ⟨columns, fun _ => settled_of_none
              ((congrArg KeyColumns.virtualKeyId columns).trans nothing)⟩
        | changed state =>
            exact ⟨writeBinding_columns (completeBinding_uncreated written (by simp)) row,
              fun _ => invariant.settled_changed creation member at_ written
                (by rw [named]; exact found)⟩
  exact ⟨change row, by rw [changed, show before.shared.database.bindings.find? bindingId =
    some row from found]; rfl, rewrites.owner row, quiet.1, rewrites.version row, quiet.2⟩

/-- What a worker records of a disable concludes its binding. -/
theorem DisableInvariant.concluded_turn (creation : CreationInvariant runtime.keyring before)
    (invariant : DisableInvariant before) {shared : Shared} {worker moved : Worker} {work : Work}
    (member : worker ∈ before.workers)
    (turn : Turn runtime.keyring runtime.bounds before.shared worker work shared moved)
    {itemId : String} {item : ControlOutbox}
    (found : shared.database.outbox.find? itemId = some item) (disable : item.action = .disable)
    (completed : item.status = .completed)
    (leaves : ∀ old, before.item? itemId = some old → old.status = .completed →
      Leaves before.shared shared item.aggregateId) :
    Concluded shared item.aggregateId := by
  rcases turn.completes found completed with ⟨old, foundOld, oldCompleted, same⟩ |
    ⟨nonce, result, opened, read, wrote, database, at_, named, written, committed, rfl⟩
  · have concluded := invariant.concluded itemId old foundOld
      ((congrArg Order.action same).symm.trans disable) oldCompleted
    rw [show old.aggregateId = item.aggregateId from (congrArg Order.aggregateId same).symm]
      at concluded
    exact concluded.kept (leaves old foundOld oldCompleted)
  · obtain ⟨stored, row, foundStored, sameStored, foundRow, _, _, _, yields, _⟩ :=
      creation.finishing member at_
    have same : order item = order opened := by
      obtain ⟨old, foundOld, sameOld⟩ := turn.order_before found
      rw [← named, show before.shared.database.outbox.find? opened.id = some stored from
        foundStored, Option.some.injEq] at foundOld
      rw [sameOld, ← foundOld, sameStored]
    rw [show item.action = opened.action from congrArg Order.action same] at disable
    rw [show item.aggregateId = opened.aggregateId from congrArg Order.aggregateId same]
    have readId := creation.read_id member at_
    have written_ : database.bindings.find? opened.aggregateId =
        some (writeBinding read wrote row) := by
      rw [← readId, (commitComplete_find committed).2, if_pos rfl, readId]
      exact congrArg (Option.map _) foundRow
    refine ⟨writeBinding read wrote row, written_, ?_⟩
    obtain ⟨concludes, _⟩ := invariant.recording creation member at_
    cases result with
    | created material =>
        rw [yields.1] at disable
        cases disable
    | nothing =>
        obtain ⟨_, own, foundOwn, nothing⟩ := concludes
        rw [show before.shared.database.bindings.find? (order opened).aggregateId = some row from
          foundRow, Option.some.injEq] at foundOwn
        subst foundOwn
        have columns := writeBinding_columns (completeBinding_uncreated written (by simp)) row
        exact Or.inl ((congrArg KeyColumns.virtualKeyId columns).trans nothing)
    | changed state =>
        obtain ⟨_, own, virtualKeyId, foundOwn, held, retired⟩ := concludes
        rw [show before.shared.database.bindings.find? (order opened).aggregateId = some row from
          foundRow, Option.some.injEq] at foundOwn
        subst foundOwn
        have columns := writeBinding_columns (completeBinding_uncreated written (by simp)) row
        exact Or.inr ⟨invariant.settled_changed creation member at_ written
          (by rw [readId]; exact foundRow), virtualKeyId,
          (congrArg KeyColumns.virtualKeyId columns).trans held, retired⟩

/-- The key of a binding is the one a row of it carried when it was read. -/
theorem CreationInvariant.virtualKeyId (creation : CreationInvariant runtime.keyring before)
    {bindingId virtualKeyId : String} {read : ApiClientBinding}
    (snapshot : Snapshot runtime.keyring before.shared bindingId read)
    (held : read.bifrostVirtualKeyId = some virtualKeyId) :
    (∃ row, before.binding? bindingId = some row ∧
        row.bifrostVirtualKeyId = some virtualKeyId) ∧
      ∃ key ∈ before.shared.keys, key.state.id = virtualKeyId := by
  obtain ⟨readHolds, row, found, sameOwner, grown⟩ := snapshot
  have carried {binding : ApiClientBinding} (isSome : binding.bifrostVirtualKeyId.isSome)
      (holds : HoldsKey runtime.keyring before.shared.keys binding) :
      ∃ key ∈ before.shared.keys.named (managedName binding.apiClientId),
        binding.bifrostVirtualKeyId = some key.state.id := by
    rcases holds with nothing | ⟨key, member, carries⟩
    · rw [show binding.bifrostVirtualKeyId = none from
        congrArg KeyColumns.virtualKeyId nothing] at isSome
      cases isSome
    · exact ⟨key, member, carries.virtualKeyId⟩
  have isSome : read.bifrostVirtualKeyId.isSome := by
    rw [held]
    rfl
  obtain ⟨key, member, keyed⟩ := carried isSome readHolds
  obtain ⟨other, otherMember, otherKeyed⟩ :=
    carried (grown isSome) (creation.holds bindingId row found)
  rw [show row.apiClientId = read.apiClientId from congrArg Owner.apiClientId sameOwner]
    at otherMember
  have same : key = other :=
    eq_of_single (le_trans (Nat.le_add_right _ _) (creation.single _)) member otherMember
  subst same
  rw [held, Option.some.injEq] at keyed
  exact ⟨⟨row, found, by rw [otherKeyed, keyed]⟩, key, (VirtualKeys.mem_named.mp member).1,
    keyed.symm⟩

/-- What a worker finds when the answer to its request is a result. -/
theorem CreationInvariant.concludes_reply (creation : CreationInvariant runtime.keyring before)
    {work : Order} {loaded : Loaded} {request : Request} {keys : VirtualKeys} {minted : Minted}
    {reply : Except BifrostUpstreamError request.Reply} {result : Result}
    (action : loaded.action = work.action) (fits : Fits loaded request)
    (snapshot : Snapshot runtime.keyring before.shared work.aggregateId loaded.binding)
    (served : serve before.shared.keys minted request = some (keys, reply))
    (returns : resume loaded request reply = .returns result)
    (yields : Yields keys loaded.action loaded.payload result) :
    Concludes { before.shared with keys := keys } work result := by
  have created (create : loaded.action = .create) :
      Concludes { before.shared with keys := keys } work result := by
    cases result with
    | created => trivial
    | nothing | changed =>
        rw [show loaded.action = .disable from yields] at create
        cases create
  cases request with
  | find => exact created fits.1
  | create => exact created fits.1
  | material => exact created fits.1
  | update => exact fits.elim
  | disable virtualKeyId =>
      obtain ⟨⟨row, found, held⟩, known⟩ := creation.virtualKeyId snapshot fits.2
      obtain ⟨retired, state, rfl, inactive⟩ := serve_disable known served
      have changed : result = .changed state := by
        simp only [resume, inactive] at returns
        exact (Execution.returns.inj returns).symm
      subst changed
      exact ⟨action.symm.trans fits.1, row, virtualKeyId, found, held, retired⟩

/-- The moved worker has found what its phase says. -/
theorem DisableInvariant.concludes_turn (creation : CreationInvariant runtime.keyring before)
    (invariant : DisableInvariant before) {shared : Shared} {worker moved : Worker} {work : Work}
    (member : worker ∈ before.workers)
    (turn : Turn runtime.keyring runtime.bounds before.shared worker work shared moved) :
    WorkerConcludes shared moved := by
  have holds := creation.workers worker member
  -- A worker that has a result keeps what it has found.
  have found {phase : Phase} (at_ : worker.phase = phase) (has : phase.result? ≠ none) :
      ∃ work, Assigned before.shared worker work ∧ PhaseConcludes before.shared work phase := by
    subst at_
    exact (invariant.workers worker member).resolve_left has
  cases turn with
  | claim | raise | loadItem | skip | complete | fail | crash => exact Or.inl rfl
  | fault at_ known =>
      rename_i error loaded request
      rw [resume_fault request known]
      exact Or.inl rfl
  | loadBinding at_ foundBinding =>
      rename_i item binding
      obtain ⟨_, assigned, rfl⟩ := holds.assigned at_ id
      obtain ⟨stored, foundStored, same⟩ := assigned.2
      obtain ⟨_, _, wants⟩ := creation.ordered _ _ foundStored
      rw [same] at wants
      rcases execute_cases ⟨item.action, binding, item.payload⟩
          (wants.imp id fun create => ⟨create.1, create.2.imp fun _ desired => desired.1⟩) with
        ⟨request, calls, _⟩ | ⟨returns, disable, nothing⟩ | ⟨failure, raises⟩
      · rw [calls]
        exact Or.inl rfl
      · rw [returns]
        exact Or.inr ⟨order item, assigned, disable, binding, foundBinding, nothing⟩
      · rw [raises]
        exact Or.inl rfl
  | deliver at_ served =>
      rename_i minted loaded request keys reply
      obtain ⟨work, assigned, action, _, snapshot, fits⟩ := holds.assigned at_ id
      rcases resume_cases fits served with
        ⟨spec, calls, _⟩ | ⟨result, returns, yields⟩ | ⟨failure, raises⟩
      · rw [calls]
        exact Or.inl rfl
      · rw [returns]
        exact Or.inr ⟨work, assigned,
          creation.concludes_reply action fits snapshot served returns yields⟩
      · rw [raises]
        exact Or.inl rfl
  | readItem at_ first foundItem processing =>
      rename_i finish claim rest item
      cases finish with
      | fail => exact Or.inl rfl
      | complete result =>
          obtain ⟨work, assigned, concludes⟩ := found at_ (by simp [Phase.result?])
          exact Or.inr ⟨work, assigned, concludes⟩
  | readBinding at_ present =>
      rename_i finish item
      cases finish with
      | fail => exact Or.inl rfl
      | complete result =>
          obtain ⟨work, assigned, concludes⟩ := found at_ (by simp [Phase.result?])
          obtain ⟨_, sameWorker, rfl, _⟩ := holds.assigned at_ id
          obtain rfl := assigned.unique sameWorker
          refine Or.inr ⟨order item, assigned, concludes, ?_⟩
          rintro state rfl row foundRow
          obtain ⟨disable, own, virtualKeyId, foundOwn, held, _⟩ := concludes
          rw [show before.shared.database.bindings.find? (order item).aggregateId = some row from
            foundRow, Option.some.injEq] at foundOwn
          subst foundOwn
          obtain ⟨stored, foundStored, same⟩ := assigned.2
          obtain ⟨binding, _, foundBinding, _, _, version⟩ := invariant.disabled _ _ foundStored
            ((congrArg Order.action same).trans disable)
          rw [show stored.aggregateId = item.aggregateId from congrArg Order.aggregateId same,
            show before.binding? item.aggregateId = some row from foundRow, Option.some.injEq]
            at foundBinding
          subst foundBinding
          refine ⟨version.trans (congrArg (fun work => work.payload.bindingVersion) same), ?_, ?_⟩
          · rw [held]
            rfl
          · intro disabled
            refine ⟨row, foundRow, ?_⟩
            rintro ⟨pending, _⟩
            rw [disabled] at pending
            cases pending

end Recording

/-! ## Steps -/

section Steps

variable {runtime : Runtime} {before after : System}

theorem WorkerConcludes.kept {shared later : Shared} {worker : Worker}
    (concludes : WorkerConcludes shared worker) (grows : Grows shared later)
    (leaves : ∀ work, Assigned shared worker work → worker.phase.result?.any Result.isDisable →
      work.action = .disable → Leaves shared later work.aggregateId) :
    WorkerConcludes later worker := by
  rcases concludes with none | ⟨work, assigned, held⟩
  · exact Or.inl none
  · exact Or.inr ⟨work, assigned.grows grows, held.kept (leaves work assigned)⟩

theorem SessionHolds.kept {shared later : Shared} {session : Session}
    (holds : SessionHolds shared session) (grows : Grows shared later)
    (clients : ∀ clientId client, shared.database.clients.find? clientId = some client →
      ∃ found, later.database.clients.find? clientId = some found) :
    SessionHolds later session := by
  cases session with
  | closed | syncing => trivial
  | readClient client =>
      obtain ⟨active, stored, found⟩ := holds
      exact ⟨active, clients _ _ found⟩
  | disabling client read =>
      obtain ⟨active, ⟨stored, found⟩, current, foundCurrent, owned⟩ := holds
      obtain ⟨row, foundRow, sameOwner, _⟩ := grows.bindings _ _ foundCurrent
      exact ⟨active, clients _ _ found, row, foundRow,
        (congrArg Owner.apiClientId sameOwner).trans owned⟩

section Work

variable {keyring : CredentialKeyring} {bounds : WorkerBounds} {shared later : Shared}
  {worker moved : Worker} {work : Work}

theorem Turn.clients (turn : Turn keyring bounds shared worker work later moved) :
    later.database.clients = shared.database.clients := by
  cases turn with
  | claim | raise | loadItem | loadBinding | deliver | fault | skip | crash | readItem
  | readBinding => rfl
  | complete _ _ committed =>
      obtain ⟨_, _, _, rfl⟩ := commitComplete_ok committed
      rfl
  | fail _ committed => exact (commitFail_ok committed).1

theorem Turn.retired (turn : Turn keyring bounds shared worker work later moved)
    (holds : WorkerHolds keyring shared worker) {virtualKeyId : String}
    (retired : Retired shared.keys virtualKeyId) : Retired later.keys virtualKeyId := by
  cases turn with
  | deliver at_ served => exact retired.of_serve (holds.waiting at_).isUpdate served
  | claim | raise | loadItem | loadBinding | fault | skip | crash | readItem | readBinding
  | complete | fail => exact retired

/-- No worker adds a binding, or changes whose it is or its version. -/
theorem Turn.binding_before (turn : Turn keyring bounds shared worker work later moved)
    {bindingId : String} {row : ApiClientBinding}
    (found : later.database.bindings.find? bindingId = some row) :
    ∃ binding, shared.database.bindings.find? bindingId = some binding ∧
      Outbox.owner row = Outbox.owner binding := by
  obtain ⟨change, changed, rewrites⟩ := turn.rewrites bindingId
  rw [changed] at found
  obtain ⟨binding, foundBinding, rfl⟩ := Option.map_eq_some_iff.mp found
  exact ⟨binding, foundBinding, rewrites.owner binding⟩

theorem Turn.binding_after (turn : Turn keyring bounds shared worker work later moved)
    {bindingId : String} {binding : ApiClientBinding}
    (found : shared.database.bindings.find? bindingId = some binding) :
    ∃ row, later.database.bindings.find? bindingId = some row ∧
      Outbox.owner row = Outbox.owner binding ∧ row.version = binding.version := by
  obtain ⟨change, changed, rewrites⟩ := turn.rewrites bindingId
  exact ⟨change binding, by rw [changed, found]; rfl, rewrites.owner binding,
    rewrites.version binding⟩

theorem disabled?_of_assigned {assignedTo : Order} (assigned : Assigned shared worker assignedTo)
    (isDisable : worker.phase.result?.any Result.isDisable = true) :
    assignedTo.aggregateId ∈ worker.disabled? shared := by
  obtain ⟨first, item, found, same⟩ := assigned
  obtain ⟨claim, head, named⟩ := Option.map_eq_some_iff.mp first
  unfold Worker.disabled? Worker.item?
  rw [if_pos isDisable, head]
  show (shared.database.outbox.find? claim.itemId).map ControlOutbox.aggregateId =
    some assignedTo.aggregateId
  rw [named, found]
  exact congrArg some (congrArg Order.aggregateId same)

end Work

/-- A worker takes a step. -/
theorem DisableInvariant.work (creation : CreationInvariant runtime.keyring before)
    (invariant : DisableInvariant before) {index : Nat} {shared : Shared}
    {worker moved : Worker} {work : Work} {claims : List Claim}
    (found : before.workers[index]? = some worker)
    (turn : Turn runtime.keyring runtime.bounds before.shared worker work shared moved)
    (recordsFirst : RecordsFirst before (.work index work)) :
    DisableInvariant
      { before with
        shared := shared
        workers := before.workers.set index moved
        claims := claims } := by
  have member : worker ∈ before.workers := List.mem_of_getElem? found
  have holds := creation.workers worker member
  have grows := turn.grows holds
  have leaves {bindingId : String}
      (unrecorded : ∀ nonce, work = .commit nonce → bindingId ∉ worker.created?) :
      Leaves before.shared shared bindingId :=
    ⟨fun row foundRow => invariant.quiet_turn creation member turn foundRow unrecorded,
      fun virtualKeyId retired => turn.retired holds retired⟩
  constructor
  · intro leftId rightId left right foundLeft foundRight sameClient
    obtain ⟨oldLeft, foundOldLeft, leftOwner⟩ := turn.binding_before foundLeft
    obtain ⟨oldRight, foundOldRight, rightOwner⟩ := turn.binding_before foundRight
    refine invariant.unique leftId rightId oldLeft oldRight foundOldLeft foundOldRight ?_
    rw [show oldLeft.apiClientId = left.apiClientId from
      (congrArg Owner.apiClientId leftOwner).symm, sameClient]
    exact congrArg Owner.apiClientId rightOwner
  · intro bindingId row foundRow
    obtain ⟨binding, foundBinding, _⟩ := turn.binding_before foundRow
    obtain ⟨itemId, item, foundItem, owned, create⟩ := invariant.created bindingId binding foundBinding
    obtain ⟨kept, foundKept, same⟩ := grows.items itemId item foundItem
    exact ⟨itemId, kept, foundKept, (congrArg Order.aggregateId same).trans owned,
      (congrArg Order.action same).trans create⟩
  · intro bindingId row client foundRow foundClient disabled
    obtain ⟨binding, foundBinding, sameOwner⟩ := turn.binding_before foundRow
    rw [show row.apiClientId = binding.apiClientId from congrArg Owner.apiClientId sameOwner]
      at foundClient
    obtain ⟨itemId, item, foundItem, owned, disable⟩ :=
      invariant.staged bindingId binding client foundBinding (turn.clients ▸ foundClient) disabled
    obtain ⟨kept, foundKept, same⟩ := grows.items itemId item foundItem
    exact ⟨itemId, kept, foundKept, (congrArg Order.aggregateId same).trans owned,
      (congrArg Order.action same).trans disable⟩
  · intro itemId item foundItem disable
    obtain ⟨old, foundOld, same⟩ := turn.order_before foundItem
    obtain ⟨binding, client, foundBinding, foundClient, disabled, version⟩ :=
      invariant.disabled itemId old foundOld ((congrArg Order.action same).symm.trans disable)
    obtain ⟨row, foundRow, sameOwner, sameVersion⟩ := turn.binding_after foundBinding
    refine ⟨row, client, ?_, ?_, disabled, ?_⟩
    · rw [show item.aggregateId = old.aggregateId from congrArg Order.aggregateId same]
      exact foundRow
    · rw [show row.apiClientId = binding.apiClientId from congrArg Owner.apiClientId sameOwner]
      show shared.database.clients.find? binding.apiClientId = some client
      rw [turn.clients]
      exact foundClient
    · rw [sameVersion, version]
      exact congrArg (fun work => work.payload.bindingVersion) same.symm
  · intro itemId item foundItem disable completed
    refine invariant.concluded_turn creation member turn foundItem disable completed ?_
    intro old foundOld oldCompleted
    obtain ⟨kept, foundKept, same⟩ := grows.items itemId old foundOld
    rw [show shared.database.outbox.find? itemId = some item from foundItem, Option.some.injEq]
      at foundKept
    subst foundKept
    refine leaves ?_
    rintro nonce rfl recorded
    exact (recordsFirst worker found _ recorded).1 old (Table.mem_of_find? foundOld)
      ((congrArg Order.action same).symm.trans disable) (congrArg Order.aggregateId same).symm
      oldCompleted
  · intro session sessionMember
    exact (invariant.sessions session sessionMember).kept grows fun clientId client foundClient =>
      ⟨client, by rw [turn.clients]; exact foundClient⟩
  · intro other otherMember
    rcases mem_set_cases otherMember with rfl | untouched
    · exact invariant.concludes_turn creation member turn
    · have inside := mem_of_mem_eraseIdx untouched
      refine (invariant.workers other inside).kept grows ?_
      intro assignedTo assigned isDisable _
      refine leaves ?_
      rintro nonce rfl recorded
      exact (recordsFirst worker found _ recorded).2 other inside
        (disabled?_of_assigned assigned isDisable)

/-! ## Steps of sessions -/

theorem Leaves.of_row {shared later : Shared} {bindingId : String}
    (sameRow : later.database.bindings.find? bindingId = shared.database.bindings.find? bindingId)
    (sameKeys : later.keys = shared.keys) : Leaves shared later bindingId :=
  ⟨fun row found => ⟨row, sameRow.trans found, .refl row⟩,
    fun _ retired => sameKeys ▸ retired⟩

/-- Steps that leave the rows alone. -/
theorem DisableInvariant.still (invariant : DisableInvariant before) {sessions : List Session}
    (holds : ∀ session ∈ sessions, SessionHolds before.shared session) :
    DisableInvariant { before with sessions := sessions } :=
  ⟨invariant.unique, invariant.created, invariant.staged, invariant.disabled,
    invariant.concluded, holds, invariant.workers⟩

/-- A new caller. -/
theorem DisableInvariant.register (creation : CreationInvariant runtime.keyring before)
    (invariant : DisableInvariant before) {index : Nat} {registration : Registration}
    {database : Database}
    (registered : registerCaller runtime.sha256 registration before.shared.database =
      some database)
    (grows : Grows before.shared { before.shared with database := database }) :
    DisableInvariant
      { before with
        shared.database := database
        sessions := before.sessions.set index .closed } := by
  obtain ⟨client, binding, added, clientOf, rowOf, carries, freshClient, freshBinding, freshOwner,
    freshItem, rfl⟩ := registerCaller_ok registered
  have active : client.status = .active := by
    rw [clientOf]
    rfl
  have ownClient : binding.apiClientId = client.id := by
    rw [clientOf, rowOf]
    rfl
  have bindingCases {bindingId : String} {row : ApiClientBinding}
      (found : (before.shared.database.bindings.insertNew binding).find? bindingId = some row) :
      (bindingId = binding.id ∧ row = binding) ∨
        (before.binding? bindingId = some row ∧ row.apiClientId ≠ binding.apiClientId) := by
    rw [Table.find?_insertNew freshBinding] at found
    split at found
    · rename_i same
      exact Or.inl ⟨same, (Option.some.inj found).symm⟩
    · exact Or.inr ⟨found, freshOwner row (Table.mem_of_find? found)⟩
  have clientCases {clientId : String} {known : ApiClient}
      (found : (before.shared.database.clients.insertNew client).find? clientId = some known)
      (disabled : known.status = .disabled) :
      before.shared.database.clients.find? clientId = some known ∧ clientId ≠ client.id := by
    rw [Table.find?_insertNew freshClient] at found
    split at found
    · rw [← Option.some.inj found, active] at disabled
      cases disabled
    · rename_i different
      exact ⟨found, different⟩
  have itemCases {itemId : String} {item : ControlOutbox}
      (found : (before.shared.database.outbox.insertNew added).find? itemId = some item)
      (disable : item.action = .disable) : before.item? itemId = some item := by
    rw [Table.find?_insertNew freshItem] at found
    split at found
    · rw [← Option.some.inj found, carries.action] at disable
      cases disable
    · exact found
  have leaves {itemId : String} {item : ControlOutbox} (found : before.item? itemId = some item) :
      Leaves before.shared { before.shared with database :=
        ⟨before.shared.database.clients.insertNew client,
          before.shared.database.bindings.insertNew binding,
          before.shared.database.outbox.insertNew added⟩ } item.aggregateId := by
    refine .of_row ?_ rfl
    obtain ⟨row, foundRow, _⟩ := creation.ordered itemId item found
    rw [show before.shared.database.bindings.find? item.aggregateId = some row from foundRow]
    exact Table.find?_insertNew_of_some foundRow
  constructor
  · intro leftId rightId left right foundLeft foundRight sameClient
    rcases bindingCases foundLeft with ⟨rfl, rfl⟩ | ⟨oldLeft, leftOther⟩
    · rcases bindingCases foundRight with ⟨rfl, rfl⟩ | ⟨_, rightOther⟩
      · rfl
      · exact absurd sameClient.symm rightOther
    · rcases bindingCases foundRight with ⟨rfl, rfl⟩ | ⟨oldRight, _⟩
      · exact absurd sameClient leftOther
      · exact invariant.unique leftId rightId left right oldLeft oldRight sameClient
  · intro bindingId row found
    rcases bindingCases found with ⟨rfl, rfl⟩ | ⟨old, _⟩
    · exact ⟨added.id, added, Table.find?_insertNew_same freshItem, carries.aggregateId,
        carries.action⟩
    · obtain ⟨itemId, item, foundItem, owned, create⟩ := invariant.created bindingId row old
      exact ⟨itemId, item, Table.find?_insertNew_of_some foundItem, owned, create⟩
  · intro bindingId row known found foundClient disabled
    obtain ⟨oldClient, different⟩ := clientCases foundClient disabled
    rcases bindingCases found with ⟨_, rfl⟩ | ⟨old, _⟩
    · exact absurd ownClient different
    · obtain ⟨itemId, item, foundItem, owned, disable⟩ :=
        invariant.staged bindingId row known old oldClient disabled
      exact ⟨itemId, item, Table.find?_insertNew_of_some foundItem, owned, disable⟩
  · intro itemId item found disable
    obtain ⟨row, known, foundRow, foundClient, disabled, version⟩ :=
      invariant.disabled itemId item (itemCases found disable) disable
    exact ⟨row, known, Table.find?_insertNew_of_some foundRow,
      Table.find?_insertNew_of_some foundClient, disabled, version⟩
  · intro itemId item found disable completed
    have old := itemCases found disable
    exact (invariant.concluded itemId item old disable completed).kept (leaves old)
  · intro session sessionMember
    rcases mem_set_cases sessionMember with rfl | untouched
    · trivial
    · exact (invariant.sessions session (mem_of_mem_eraseIdx untouched)).kept grows
        fun _ known foundClient => ⟨known, Table.find?_insertNew_of_some foundClient⟩
  · intro worker member
    refine (invariant.workers worker member).kept grows ?_
    rintro assignedTo ⟨_, item, foundItem, rfl⟩ _ _
    exact leaves foundItem

/-- The rows after the commit of `disable_caller`. -/
theorem commitDisable_find {client : ApiClient} {read : ApiClientBinding} {draw : StagingDraw}
    {database later : Database} (committed : commitDisable client read draw database = some later) :
    ∃ item, CarriesSync read .bifrost .disable ⟨read.bifrostConfigHash, read.version + 1, none⟩
        item ∧ database.outbox.find? item.id = none ∧
      (∀ clientId, later.clients.find? clientId =
        if clientId = client.id then (database.clients.find? clientId).map
          (writeClient client (disableClient draw.actorId draw.now client))
        else database.clients.find? clientId) ∧
      (∀ bindingId, later.bindings.find? bindingId =
        if bindingId = read.id then (database.bindings.find? bindingId).map
          (writeBinding read (stagedRow read read.bifrostConfigHash draw.now))
        else database.bindings.find? bindingId) ∧
      ∀ itemId, later.outbox.find? itemId =
        if itemId = item.id then some item else database.outbox.find? itemId := by
  obtain ⟨wrote, item, _, stagedWork, _, _, fresh, rfl⟩ := commitStaged_ok committed
  obtain ⟨rfl, carries⟩ := stageBindingDisable_ok stagedWork
  exact ⟨item, carries, fresh, fun _ => Table.find?_modify (writeClient_id _ _) _ _ _,
    fun _ => Table.find?_modify (writeBinding_id _ _) _ _ _, Table.find?_insertNew fresh⟩

/-- An active caller is disabled. -/
theorem DisableInvariant.disable (invariant : DisableInvariant before) {index : Nat}
    {client : ApiClient} {read : ApiClientBinding} {draw : StagingDraw} {database : Database}
    (holds : SessionHolds before.shared (.disabling client read))
    (active : ∀ current, before.shared.database.clients.find? client.id = some current →
      current.status = .active)
    (committed : commitDisable client read draw before.shared.database = some database)
    (grows : Grows before.shared { before.shared with database := database }) :
    DisableInvariant
      { before with
        shared.database := database
        sessions := before.sessions.set index .closed } := by
  obtain ⟨wasActive, ⟨stored, foundStored⟩, current, foundCurrent, owned⟩ := holds
  obtain ⟨added, carries, fresh, clients, bindings, items⟩ := commitDisable_find committed
  -- No disable of this binding was staged before.
  have undisabled {itemId : String} {item : ControlOutbox} (found : before.item? itemId = some item)
      (disable : item.action = .disable) : item.aggregateId ≠ read.id := by
    intro same
    obtain ⟨row, known, foundRow, foundClient, disabled, _⟩ :=
      invariant.disabled itemId item found disable
    rw [same, show before.binding? read.id = some current from foundCurrent, Option.some.injEq]
      at foundRow
    subst foundRow
    rw [owned] at foundClient
    rw [active known foundClient] at disabled
    cases disabled
  have bindingBefore {bindingId : String} {row : ApiClientBinding}
      (found : database.bindings.find? bindingId = some row) :
      ∃ old, before.binding? bindingId = some old ∧ owner row = owner old := by
    rw [bindings] at found
    split at found
    · obtain ⟨old, foundOld, rfl⟩ := Option.map_eq_some_iff.mp found
      exact ⟨old, foundOld, rfl⟩
    · exact ⟨row, found, rfl⟩
  have keptItem {itemId : String} {item : ControlOutbox} (found : before.item? itemId = some item) :
      database.outbox.find? itemId = some item := by
    rw [items, if_neg]
    · exact found
    · rintro rfl
      rw [show before.item? added.id = none from fresh] at found
      cases found
  have leaves {bindingId : String} (different : bindingId ≠ read.id) :
      Leaves before.shared { before.shared with database := database } bindingId :=
    .of_row (by rw [bindings, if_neg different]) rfl
  constructor
  · intro leftId rightId left right foundLeft foundRight sameClient
    obtain ⟨oldLeft, foundOldLeft, leftOwner⟩ := bindingBefore foundLeft
    obtain ⟨oldRight, foundOldRight, rightOwner⟩ := bindingBefore foundRight
    refine invariant.unique leftId rightId oldLeft oldRight foundOldLeft foundOldRight ?_
    rw [show oldLeft.apiClientId = left.apiClientId from
      (congrArg Owner.apiClientId leftOwner).symm, sameClient]
    exact congrArg Owner.apiClientId rightOwner
  · intro bindingId row found
    obtain ⟨old, foundOld, _⟩ := bindingBefore found
    obtain ⟨itemId, item, foundItem, ownedItem, create⟩ := invariant.created bindingId old foundOld
    exact ⟨itemId, item, keptItem foundItem, ownedItem, create⟩
  · intro bindingId row known found foundClient disabled
    by_cases same : bindingId = read.id
    · exact ⟨added.id, added, by show database.outbox.find? _ = _; rw [items, if_pos rfl],
        carries.aggregateId.trans same.symm, carries.action⟩
    · obtain ⟨old, foundOld, sameOwner⟩ := bindingBefore found
      have otherClient : old.apiClientId ≠ client.id := fun equal =>
        same (invariant.unique bindingId read.id old current foundOld foundCurrent
          (equal.trans owned.symm))
      rw [show row.apiClientId = old.apiClientId from congrArg Owner.apiClientId sameOwner]
        at foundClient
      have foundKnown : before.shared.database.clients.find? old.apiClientId = some known := by
        rw [← foundClient]
        show _ = database.clients.find? old.apiClientId
        rw [clients, if_neg otherClient]
      obtain ⟨itemId, item, foundItem, ownedItem, disable⟩ :=
        invariant.staged bindingId old known foundOld foundKnown disabled
      exact ⟨itemId, item, keptItem foundItem, ownedItem, disable⟩
  · intro itemId item found disable
    have split_ := items itemId
    rw [show database.outbox.find? itemId = some item from found] at split_
    split at split_
    · -- The new item: its caller has just been disabled.
      cases split_
      refine ⟨writeBinding read (stagedRow read read.bifrostConfigHash draw.now) current,
        writeClient client (disableClient draw.actorId draw.now client) stored, ?_, ?_, ?_, ?_⟩
      · show database.bindings.find? added.aggregateId = _
        rw [carries.aggregateId, bindings, if_pos rfl, foundCurrent]
        rfl
      · show database.clients.find? current.apiClientId = _
        rw [owned, clients, if_pos rfl, foundStored]
        rfl
      · show column client.status .disabled stored.status = .disabled
        rw [wasActive, column_of_ne (by simp)]
      · show column read.version (read.version + 1) current.version =
          added.payload.bindingVersion
        rw [carries.payload, column_of_ne (by simp)]
    · obtain ⟨row, known, foundRow, foundClient, disabled, version⟩ :=
        invariant.disabled itemId item split_.symm disable
      have different := undisabled split_.symm disable
      refine ⟨row, known, ?_, ?_, disabled, version⟩
      · show database.bindings.find? item.aggregateId = _
        rw [bindings, if_neg different]
        exact foundRow
      · show database.clients.find? row.apiClientId = _
        rw [clients, if_neg]
        · exact foundClient
        · intro equal
          rw [equal] at foundClient
          rw [active known foundClient] at disabled
          cases disabled
  · intro itemId item found disable completed
    have split_ := items itemId
    rw [show database.outbox.find? itemId = some item from found] at split_
    split at split_
    · cases split_
      rw [carries.pending] at completed
      cases completed
    · exact (invariant.concluded itemId item split_.symm disable completed).kept
        (leaves (undisabled split_.symm disable))
  · intro session sessionMember
    rcases mem_set_cases sessionMember with rfl | untouched
    · trivial
    · refine (invariant.sessions session (mem_of_mem_eraseIdx untouched)).kept grows ?_
      intro clientId known foundClient
      show ∃ found, database.clients.find? clientId = some found
      rw [clients, foundClient]
      split
      · exact ⟨_, rfl⟩
      · exact ⟨known, rfl⟩
  · intro worker member
    refine (invariant.workers worker member).kept grows ?_
    rintro assignedTo ⟨_, item, foundItem, rfl⟩ _ disable
    exact leaves (undisabled foundItem disable)

/-- A session takes a step. -/
theorem DisableInvariant.stage (creation : CreationInvariant runtime.keyring before)
    (invariant : DisableInvariant before) {index : Nat} {session moved : Session}
    {staging : Staging} {database : Database} (found : before.sessions[index]? = some session)
    (staged : Staged runtime.sha256 before.shared.database session staging database moved)
    (callers : ∀ spec action draw, staging ≠ .sync spec action draw)
    (disablesActive : DisablesActive before (.stage index staging)) :
    DisableInvariant
      { before with
        shared.database := database
        sessions := before.sessions.set index moved } := by
  have member : session ∈ before.sessions := List.mem_of_getElem? found
  have grows := staged.grows callers
  have holds := invariant.sessions session member
  have set_ {later : Session} (laterHolds : SessionHolds before.shared later) :
      ∀ other ∈ before.sessions.set index later, SessionHolds before.shared other := by
    intro other otherMember
    rcases mem_set_cases otherMember with rfl | untouched
    · exact laterHolds
    · exact invariant.sessions other (mem_of_mem_eraseIdx untouched)
  cases staged with
  | createCaller registered => exact invariant.register creation registered grows
  | getClient foundClient active =>
      exact invariant.still (set_ ⟨active, _, foundClient⟩)
  | getClientBinding stored owned =>
      exact invariant.still (set_ ⟨holds.1, holds.2, _, Table.find?_of_mem stored, owned⟩)
  | getBinding | rollback => exact invariant.still (set_ trivial)
  | disable committed =>
      refine invariant.disable holds ?_ committed grows
      intro current foundCurrent
      exact disablesActive _ found _ rfl current foundCurrent
  | sync => exact absurd rfl (callers _ _ _)

/-- A step that only changes the keys and the requests in flight. -/
theorem DisableInvariant.keys (invariant : DisableInvariant before) {keys : VirtualKeys}
    {strays : List Request} (kept : KeysKept before.shared.keys keys)
    (retired : ∀ virtualKeyId, Retired before.shared.keys virtualKeyId →
      Retired keys virtualKeyId) :
    DisableInvariant
      { before with shared := { before.shared with keys := keys, strays := strays } } := by
  have grows : Grows before.shared { before.shared with keys := keys, strays := strays } :=
    ⟨fun _ item found => ⟨item, found, rfl⟩, fun _ row found => ⟨row, found, rfl, id⟩, kept⟩
  have leaves (bindingId : String) :
      Leaves before.shared { before.shared with keys := keys, strays := strays } bindingId :=
    ⟨fun row found => ⟨row, found, .refl row⟩, retired⟩
  exact ⟨invariant.unique, invariant.created, invariant.staged, invariant.disabled,
    fun itemId item found disable completed =>
      (invariant.concluded itemId item found disable completed).kept (leaves _),
    fun session member => (invariant.sessions session member).kept grows
      fun _ client found => ⟨client, found⟩,
    fun worker member => (invariant.workers worker member).kept grows fun _ _ _ _ => leaves _⟩

theorem DisableInvariant.step {action : Action}
    (creation : CreationInvariant runtime.keyring before) (invariant : DisableInvariant before)
    (meets : DisableOrdered before action) (stepped : runtime.step before action = some after) :
    DisableInvariant after := by
  obtain ⟨⟨callers, _⟩, disablesActive, recordsFirst⟩ := meets
  cases Runtime.step_moved stepped with
  | stage found staged =>
      refine invariant.stage creation found staged ?_ disablesActive
      rintro spec asked draw rfl
      exact callers
  | work found turn => exact invariant.work creation found turn recordsFirst
  | serveStray found served =>
      have notUpdate := creation.calm _ (List.mem_of_getElem? found)
      exact invariant.keys (.of_serve notUpdate served)
        fun _ retired => retired.of_serve notUpdate served
  | loseStray => exact invariant.keys (.refl _) fun _ retired => retired

/-- Both invariants hold in every run that meets the condition. -/
theorem DisableInvariant.run {sessions workers : Nat} {system : System}
    (run : Reached runtime.step DisableOrdered (System.start sessions workers) system) :
    CreationInvariant runtime.keyring system ∧ DisableInvariant system := by
  refine @Reached.invariant _ _ runtime.step DisableOrdered _ system (fun reached =>
    CreationInvariant runtime.keyring reached ∧ DisableInvariant reached)
    ⟨.start runtime.keyring sessions workers, .start sessions workers⟩ ?_ run
  rintro before action after ⟨creation, invariant⟩ meets stepped
  exact ⟨creation.step meets.1.1 meets.1.2 stepped, invariant.step creation meets stepped⟩

end Steps

/-- A caller created, its key stored, and the caller disabled. -/
def disabledInOrder : List Action :=
  [.stage 0 (.createCaller smallRegistration), .work 0 (.claim 100 []), .work 0 .loadItem,
    .work 0 .loadBinding, .work 0 (.deliver ⟨"", ""⟩), .work 0 (.deliver ⟨"vk", "k"⟩),
    .work 0 .readItem, .work 0 .readBinding, .work 0 (.commit 0),
    .stage 0 (.getClient "c"), .stage 0 .getClientBinding,
    .stage 0 (.disable ⟨"admin", "disable", "disable", 200⟩),
    .work 0 (.claim 200 []), .work 0 .loadItem, .work 0 .loadBinding,
    .work 0 (.deliver ⟨"", ""⟩), .work 0 .readItem, .work 0 .readBinding, .work 0 (.commit 0)]

/-- A disabled client, and no item that is not completed. -/
def DisabledAndDone (system : System) : Prop :=
  (∃ client ∈ system.shared.database.clients.rows, client.status = .disabled) ∧
    ∀ item ∈ system.shared.database.outbox.rows, item.status = .completed

instance : DecidablePred DisabledAndDone := fun _ => inferInstanceAs (Decidable (_ ∧ _))

theorem disabledInOrder_runs :
    ∃ system, Reached smallRuntime.step DisableOrdered (System.start 1 1) system ∧
      DisabledAndDone system := by
  have replayed : ((replay smallRuntime.step DisableOrdered (System.start 1 1)
      disabledInOrder).any fun system => DisabledAndDone system) = true := by
    decide +kernel
  exact Reached.of_replay smallRuntime.step DisableOrdered _ disabledInOrder _ replayed

/-- The creation fails once; the caller is disabled; the disable finds no key and is
completed; then the retry creates the key. -/
def disabledFirst : List Action :=
  [.stage 0 (.createCaller smallRegistration), .work 0 (.claim 100 []), .work 0 .loadItem,
    .work 0 .loadBinding, .work 0 (.fault ⟨"BIFROST_TIMEOUT", 504, true⟩), .work 0 .readItem,
    .work 0 .readBinding, .work 0 (.commit 0), .loseStray 0,
    .stage 0 (.getClient "c"), .stage 0 .getClientBinding,
    .stage 0 (.disable ⟨"admin", "disable", "disable", 101⟩),
    .work 0 (.claim 101 []), .work 0 .loadItem, .work 0 .loadBinding, .work 0 .readItem,
    .work 0 .readBinding, .work 0 (.commit 0),
    .work 0 (.claim 105 []), .work 0 .loadItem, .work 0 .loadBinding,
    .work 0 (.deliver ⟨"", ""⟩), .work 0 (.deliver ⟨"vk", "k"⟩), .work 0 .readItem,
    .work 0 .readBinding, .work 0 (.commit 0)]

end Zangpu.Workers.Outbox
