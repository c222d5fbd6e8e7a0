import Zangpu.Workers.Outbox.Effects

/-!
One remote key for each binding.

Owns: what a completed creation promises about the keys of its binding, the runs in
which creations of one name do not overlap, that the promise holds in them, and a
run in which two workers create a key each.

Does not own: what becomes of a key when its caller is disabled.

The work staged here is the work the code stages: `create_caller` and
`disable_caller`.
-/

set_option autoImplicit false

namespace Zangpu.Workers.Outbox

open Zangpu.Foundation
open Zangpu.Models
open Zangpu.Integrations.Bifrost
open Zangpu.Services.Admin

/-! ## The promise -/

/-- A binding has at most one key of its name, and carries that key once its creation
is completed. -/
structure OneKeyPerBinding (keyring : CredentialKeyring) (system : System) : Prop where
  single : ∀ binding ∈ system.shared.database.bindings.rows,
    (system.shared.keys.named (managedName binding.apiClientId)).length ≤ 1
  carried : ∀ item ∈ system.shared.database.outbox.rows, item.action = .create →
    item.status = .completed →
    ∃ binding ∈ system.shared.database.bindings.rows, binding.id = item.aggregateId ∧
      ∃ key ∈ system.shared.keys.named (managedName binding.apiClientId),
        Carries keyring key binding

/-! ## The condition -/

/-- Work is staged by `create_caller` and `disable_caller` only. -/
def CallersStage : Action → Prop
  | .stage _ (.sync _ _ _) => False
  | _ => True

instance : DecidablePred CallersStage := fun action => by
  unfold CallersStage
  split <;> infer_instance

def Worker.isCreating (name : String) (worker : Worker) : Bool :=
  worker.request?.any (creates name)

/-- The creations of a name that Bifrost may still serve. -/
def System.creating (system : System) (name : String) : Nat :=
  system.shared.strays.countP (creates name) + system.workers.countP (Worker.isCreating name)

/-- A search that comes back empty does so while no creation of the name is in flight. -/
def CreatesAlone (system : System) : Action → Prop
  | .work index (.deliver _) =>
      ∀ worker ∈ system.workers[index]?, ∀ request ∈ worker.request?,
        match request with
        | .find name => system.shared.keys.named name = [] → system.creating name = 0
        | _ => True
  | _ => True

instance (system : System) (action : Action) : Decidable (CreatesAlone system action) := by
  unfold CreatesAlone
  split
  · refine @Option.decidableForallMem _ _ (fun worker => ?_) _
    refine @Option.decidableForallMem _ _ (fun request => ?_) _
    split <;> infer_instance
  · infer_instance

/-! ## What workers hold -/

section Held

/-- The request a worker waits for is one its item asks for. -/
def Fits (loaded : Loaded) : Request → Prop
  | .find name => loaded.action = .create ∧
      ∃ spec, loaded.payload.desired = some spec ∧ spec.name = name
  | .create spec => loaded.action = .create ∧ loaded.payload.desired = some spec
  | .material virtualKeyId => loaded.action = .create ∧
      loaded.binding.bifrostVirtualKeyId = some virtualKeyId
  | .update _ _ => False
  | .disable virtualKeyId => loaded.action = .disable ∧
      loaded.binding.bifrostVirtualKeyId = some virtualKeyId

/-- The result belongs to the item: a creation has a key of the desired name. -/
def Yields (keys : VirtualKeys) (action : OutboxAction) (payload : BifrostOutboxPayload) :
    Result → Prop
  | .created result => action = .create ∧ ∃ spec, payload.desired = some spec ∧
      ∃ key ∈ keys, identity key = identity result ∧ key.state.name = spec.name
  | .nothing | .changed _ => action = .disable

/-- A binding holds nothing of a key, or carries a key of its name. -/
def HoldsKey (keyring : CredentialKeyring) (keys : VirtualKeys) (binding : ApiClientBinding) :
    Prop :=
  keyColumns binding = ⟨none, none, none⟩ ∨
    ∃ key ∈ keys.named (managedName binding.apiClientId), Carries keyring key binding

variable (keyring : CredentialKeyring) (shared : Shared)

/-- A binding as a transaction may have read it some time ago. -/
structure Snapshot (bindingId : String) (read : ApiClientBinding) : Prop where
  holds : HoldsKey keyring shared.keys read
  stored : ∃ current, shared.database.bindings.find? bindingId = some current ∧ owner current = owner read ∧
    (read.bifrostVirtualKeyId.isSome → current.bifrostVirtualKeyId.isSome)

/-- What a worker on an item holds. -/
def PhaseHolds (work : Order) : Phase → Prop
  | .ready => True
  | .loading item => order item = work
  | .waiting loaded request => loaded.action = work.action ∧ loaded.payload = work.payload ∧
      Snapshot keyring shared work.aggregateId loaded.binding ∧ Fits loaded request
  | .finishing (.complete result) => Yields shared.keys work.action work.payload result
  | .readItem (.complete result) item => order item = work ∧
      Yields shared.keys work.action work.payload result
  | .readBinding (.complete result) item read => order item = work ∧
      Yields shared.keys work.action work.payload result ∧
      ∀ binding ∈ read, Snapshot keyring shared work.aggregateId binding
  | .finishing (.fail _) | .readItem (.fail _) _ | .readBinding (.fail _) _ _ => True

/-- A phase that holds nothing of an item. -/
def Phase.Holdless : Phase → Prop
  | .ready | .finishing (.fail _) | .readItem (.fail _) _ | .readBinding (.fail _) _ _ => True
  | _ => False

/-- The first claim of the worker is on a stored item. -/
def Assigned (worker : Worker) (work : Order) : Prop :=
  worker.batch.head?.map Claim.itemId = some work.itemId ∧
    ∃ item, shared.database.outbox.find? work.itemId = some item ∧ order item = work

def WorkerHolds (worker : Worker) : Prop :=
  worker.phase.Holdless ∨
    ∃ work, Assigned shared worker work ∧ PhaseHolds keyring shared work worker.phase

end Held

/-! ## Requests and results -/

section Requests

variable {loaded : Loaded}

theorem call_cases (request : Request) :
    call request = .calls request ∨ ∃ failure, call request = .raises failure := by
  unfold call
  split
  · exact Or.inl rfl
  · exact Or.inr ⟨_, rfl⟩

theorem verifyDesired_cases (state : VirtualKeyState) (desired : Option VirtualKeySpec)
    (result : Result) :
    (verifyDesired state desired result = .returns result ∧
        ∃ spec, desired = some spec ∧ state.name = spec.name ∧ state.isActive = true) ∨
      ∃ failure, verifyDesired state desired result = .raises failure := by
  unfold verifyDesired
  cases desired with
  | none => exact Or.inr ⟨_, rfl⟩
  | some spec =>
      dsimp only
      split
      · exact Or.inr ⟨_, rfl⟩
      · rename_i verified
        push Not at verified
        exact Or.inl ⟨rfl, spec, rfl, verified.1, by simpa using verified.2.2.2⟩

/-- What `_execute` does first with an item of a caller. -/
theorem execute_cases (loaded : Loaded)
    (known : loaded.action = .disable ∨
      loaded.action = .create ∧ ∃ spec, loaded.payload.desired = some spec) :
    (∃ request, execute loaded = .calls request ∧ Fits loaded request ∧
        ∀ name, creates name request = false) ∨
      (execute loaded = .returns .nothing ∧ loaded.action = .disable ∧
        loaded.binding.bifrostVirtualKeyId = none) ∨
      ∃ failure, execute loaded = .raises failure := by
  have calling (request : Request) (fits : Fits loaded request)
      (uncreating : ∀ name, creates name request = false) (calls : execute loaded = call request) :
      (∃ request, execute loaded = .calls request ∧ Fits loaded request ∧
          ∀ name, creates name request = false) ∨
        ∃ failure, execute loaded = .raises failure := by
    rcases call_cases request with sent | ⟨failure, raised⟩
    · exact Or.inl ⟨request, calls.trans sent, fits, uncreating⟩
    · exact Or.inr ⟨failure, calls.trans raised⟩
  rcases known with disable | ⟨create, spec, desired⟩
  · cases stored : loaded.binding.bifrostVirtualKeyId with
    | none => exact Or.inr (Or.inl ⟨by simp [execute, disable, stored], disable, rfl⟩)
    | some virtualKeyId =>
        rcases calling (.disable virtualKeyId) ⟨disable, stored⟩ (fun _ => rfl)
          (by simp [execute, disable, stored]) with sent | raised
        · exact Or.inl sent
        · exact Or.inr (Or.inr raised)
  · cases stored : loaded.binding.bifrostVirtualKeyId.filter (· ≠ "") with
    | none =>
        rcases calling (.find spec.name) ⟨create, spec, desired, rfl⟩ (fun _ => rfl)
          (by simp only [execute, create, desired, stored]) with sent | raised
        · exact Or.inl sent
        · exact Or.inr (Or.inr raised)
    | some virtualKeyId =>
        have held := (Option.filter_eq_some_iff.mp stored).1
        rcases calling (.material virtualKeyId) ⟨create, held⟩ (fun _ => rfl)
          (by simp only [execute, create, desired, stored]) with sent | raised
        · exact Or.inl sent
        · exact Or.inr (Or.inr raised)

/-- What `_execute` does with the answer to a request: it goes on to create the key
that a search missed, or has the result of the item, or raises. -/
theorem resume_cases {request : Request} {keys after : VirtualKeys} {minted : Minted}
    {reply : Except BifrostUpstreamError request.Reply} (fits : Fits loaded request)
    (served : serve keys minted request = some (after, reply)) :
    (∃ spec, resume loaded request reply = .calls (.create spec) ∧ Fits loaded (.create spec) ∧
        request = .find spec.name ∧ keys.named spec.name = [] ∧ after = keys) ∨
      (∃ result, resume loaded request reply = .returns result ∧
        Yields after loaded.action loaded.payload result) ∨
      ∃ failure, resume loaded request reply = .raises failure := by
  -- A key that the reply carries is verified against the desired state.
  have verified {key : VirtualKeyCreationResult} (create : loaded.action = .create)
      (stored : key ∈ after)
      (verifies : resume loaded request reply =
        verifyDesired key.state loaded.payload.desired (.created key)) :
      (∃ result, resume loaded request reply = .returns result ∧
          Yields after loaded.action loaded.payload result) ∨
        ∃ failure, resume loaded request reply = .raises failure := by
    rcases verifyDesired_cases key.state loaded.payload.desired (.created key) with
      ⟨returned, spec, desired, named, _⟩ | ⟨failure, raised⟩
    · exact Or.inl ⟨_, verifies.trans returned, create, spec, desired, key, stored, rfl, named⟩
    · exact Or.inr ⟨failure, verifies.trans raised⟩
  cases request with
  | find name =>
      obtain ⟨create, spec, desired, rfl⟩ := fits
      obtain ⟨rfl, searched⟩ := Prod.mk.inj (Option.some.inj served)
      match reply, searched with
      | .error error, _ => exact Or.inr (Or.inr ⟨_, rfl⟩)
      | .ok none, searched =>
          rcases call_cases (.create spec) with sent | ⟨failure, raised⟩
          · refine Or.inl ⟨spec, ?_, ⟨create, desired⟩, rfl,
              findVirtualKeyByName_none searched, rfl⟩
            simp only [resume, desired]
            exact sent
          · refine Or.inr (Or.inr ⟨failure, ?_⟩)
            simp only [resume, desired]
            exact raised
      | .ok (some key), searched =>
          exact Or.inr (verified create (findVirtualKeyByName_some searched).1 rfl)
  | create spec =>
      obtain ⟨_, rfl, rfl⟩ := serve_create served
      exact Or.inr (verified fits.1 (by simp) rfl)
  | material virtualKeyId =>
      obtain ⟨rfl, fetched⟩ := Prod.mk.inj (Option.some.inj served)
      match found : keys.withId virtualKeyId, fetched with
      | none, fetched =>
          subst fetched
          exact Or.inr (Or.inr ⟨_, rfl⟩)
      | some key, fetched =>
          subst fetched
          exact Or.inr (verified fits.1 (VirtualKeys.withId_some found).1 rfl)
  | update virtualKeyId spec => exact fits.elim
  | disable virtualKeyId =>
      match reply with
      | .ok state =>
          by_cases active : state.isActive = true
          · exact Or.inr (Or.inr ⟨.upstream bifrostProtocolError, by
              simp only [resume, active, if_true]⟩)
          · exact Or.inr (Or.inl ⟨.changed state, by simp only [resume, active]; rfl, fits.1⟩)
      | .error error =>
          by_cases missing : error.code = bifrostNotFound
          · exact Or.inr (Or.inl ⟨.nothing, by simp only [resume, missing, if_true], fits.1⟩)
          · exact Or.inr (Or.inr ⟨.upstream error, by simp only [resume, missing, if_false]⟩)

/-- A request that failed before its answer was read raises. -/
theorem resume_fault (request : Request) {error : BifrostUpstreamError}
    (known : error.code ≠ bifrostNotFound) :
    resume loaded request (.error error) = .raises (.upstream error) := by
  cases request <;> simp [resume, known]

theorem Fits.isUpdate {request : Request} (fits : Fits loaded request) :
    request.isUpdate = false := by
  cases request with
  | update => exact fits.elim
  | find | create | material | disable => rfl

end Requests

/-! ## Creations in flight -/

theorem call_calls {sent request : Request} (calls : call sent = .calls request) :
    request = sent := by
  rcases call_cases sent with called | ⟨failure, raised⟩
  · rw [called] at calls
    exact (Execution.calls.inj calls).symm
  · rw [raised] at calls
    cases calls

/-- `_execute` never starts with a creation. -/
theorem execute_creates {loaded : Loaded} {request : Request}
    (calls : execute loaded = .calls request) (name : String) : creates name request = false := by
  unfold execute at calls
  split at calls
  · split at calls
    · cases calls
    · rw [call_calls calls]
      rfl
  · split at calls
    · cases calls
    · split at calls
      · rw [call_calls calls]
        rfl
      · rw [call_calls calls]
        rfl
      · rw [call_calls calls]
        rfl
      · cases calls

theorem isCreating_execution (worker : Worker) (loaded : Loaded) (execution : Execution)
    (name : String) (uncreating : ∀ request, execution = .calls request →
      creates name request = false) :
    ({ worker with phase := execution.phase loaded } : Worker).isCreating name = false := by
  cases execution with
  | calls request => exact uncreating request rfl
  | returns | raises => rfl

/-! ## Keys of bindings -/

section Keys

variable {keyring : CredentialKeyring} {keys after : VirtualKeys}

/-- Keys keep their identity; there may be more of them. -/
def KeysKept (keys after : VirtualKeys) : Prop :=
  ∀ key ∈ keys, ∃ later ∈ after, identity later = identity key

theorem KeysKept.refl (keys : VirtualKeys) : KeysKept keys keys :=
  fun key member => ⟨key, member, rfl⟩

theorem KeysKept.of_serve {minted : Minted} {request : Request}
    {reply : Except BifrostUpstreamError request.Reply} (notUpdate : request.isUpdate = false)
    (served : serve keys minted request = some (after, reply)) : KeysKept keys after := by
  intro key member
  have known : identity key ∈ after.map identity := by
    rcases serve_identities notUpdate served with ⟨same, _⟩ | ⟨spec, _, added⟩
    · rw [same]
      exact List.mem_map_of_mem member
    · rw [added]
      exact List.mem_append_left _ (List.mem_map_of_mem member)
  exact List.mem_map.mp known

theorem HoldsKey.kept {binding : ApiClientBinding} (holds : HoldsKey keyring keys binding)
    (kept : KeysKept keys after) : HoldsKey keyring after binding := by
  rcases holds with nothing | ⟨key, member, carries⟩
  · exact Or.inl nothing
  · obtain ⟨stored, named⟩ := VirtualKeys.mem_named.mp member
    obtain ⟨later, storedLater, same⟩ := kept key stored
    refine Or.inr ⟨later, VirtualKeys.mem_named.mpr ⟨storedLater, ?_⟩,
      carries.congr same rfl rfl rfl⟩
    exact (congrArg Identity.name same).trans named

/-- Another row of the same caller with the same columns of the key. -/
theorem HoldsKey.congr {left right : ApiClientBinding} (holds : HoldsKey keyring keys left)
    (id : right.id = left.id) (apiClientId : right.apiClientId = left.apiClientId)
    (columns : keyColumns right = keyColumns left) : HoldsKey keyring keys right := by
  rcases holds with nothing | ⟨key, member, carries⟩
  · exact Or.inl (columns.trans nothing)
  · exact Or.inr ⟨key, by rw [apiClientId]; exact member,
      carries.congr rfl id apiClientId columns⟩

/-- The only key of a name is every key of that name. -/
theorem eq_of_single {name : String} (single : (keys.named name).length ≤ 1)
    {left right : VirtualKeyCreationResult} (leftMember : left ∈ keys.named name)
    (rightMember : right ∈ keys.named name) : left = right := by
  match known : keys.named name, single with
  | [], _ =>
      rw [known] at leftMember
      cases leftMember
  | [only], _ =>
      rw [known, List.mem_singleton] at leftMember rightMember
      exact leftMember.trans rightMember.symm
  | _ :: _ :: _, tooMany => simp at tooMany

/-- **Storing a key.** The row after the UPDATE of `_complete` carries the key,
whatever was stored since the read. -/
theorem carries_of_store {read current settled wrote : ApiClientBinding} {nonce : Nat} {now : Int}
    {key result : VirtualKeyCreationResult}
    (single : (keys.named (managedName read.apiClientId)).length ≤ 1)
    (member : key ∈ keys.named (managedName read.apiClientId))
    (sameKey : identity key = identity result) (sameOwner : owner current = owner read)
    (readHolds : HoldsKey keyring keys read) (currentHolds : HoldsKey keyring keys current)
    (grown : read.bifrostVirtualKeyId.isSome → current.bifrostVirtualKeyId.isSome)
    (persisted : persistCreatedBinding keyring nonce now result read = .ok settled)
    (columns : keyColumns wrote = keyColumns settled) :
    Carries keyring key (writeBinding read wrote current) := by
  have stored : Carries keyring key settled :=
    (Carries.of_persist persisted).congr sameKey rfl rfl rfl
  obtain ⟨_, _, keyId, ciphertext, keyVersion, settledId, settledClient⟩ :=
    persistCreatedBinding_ok persisted
  have sameId : current.id = settled.id := (congrArg Owner.bindingId sameOwner).trans settledId.symm
  have sameClient : current.apiClientId = settled.apiClientId :=
    (congrArg Owner.apiClientId sameOwner).trans settledClient.symm
  have wroteId : wrote.bifrostVirtualKeyId = settled.bifrostVirtualKeyId :=
    congrArg KeyColumns.virtualKeyId columns
  have wroteCiphertext : wrote.bifrostValueCiphertext = settled.bifrostValueCiphertext :=
    congrArg KeyColumns.ciphertext columns
  have wroteVersion : wrote.bifrostValueKeyVersion = settled.bifrostValueKeyVersion :=
    congrArg KeyColumns.keyVersion columns
  rcases readHolds with nothing | ⟨other, otherMember, readCarries⟩
  · -- Every column changes.
    have noId : read.bifrostVirtualKeyId = none := congrArg KeyColumns.virtualKeyId nothing
    have noCiphertext : read.bifrostValueCiphertext = none :=
      congrArg KeyColumns.ciphertext nothing
    have noVersion : read.bifrostValueKeyVersion = none := congrArg KeyColumns.keyVersion nothing
    refine stored.congr rfl sameId sameClient ?_
    simp only [keyColumns, writeBinding, wroteId, wroteCiphertext, wroteVersion, noId,
      noCiphertext, noVersion, keyId, ciphertext, keyVersion]
    rw [column_of_ne (by simp), column_of_ne (by simp), column_of_ne (by simp)]
  · -- The read and the current row carry the same key; only the ciphertext may change.
    have currentCarries : Carries keyring key current := by
      rcases currentHolds with nothing | ⟨third, thirdMember, carries⟩
      · have grew := grown (by rw [readCarries.virtualKeyId]; rfl)
        rw [show current.bifrostVirtualKeyId = none from
          congrArg KeyColumns.virtualKeyId nothing] at grew
        cases grew
      · rw [sameClient, settledClient] at thirdMember
        rw [eq_of_single single member thirdMember]
        exact carries
    have sameOther := eq_of_single single member otherMember
    subst sameOther
    have writtenId : column read.bifrostVirtualKeyId wrote.bifrostVirtualKeyId
        current.bifrostVirtualKeyId = some key.state.id := by
      rw [readCarries.virtualKeyId, wroteId, stored.virtualKeyId, column_self,
        currentCarries.virtualKeyId]
    have writtenVersion : column read.bifrostValueKeyVersion wrote.bifrostValueKeyVersion
        current.bifrostValueKeyVersion = some keyring.activeKeyId := by
      rw [readCarries.keyVersion, wroteVersion, keyVersion, column_self, currentCarries.keyVersion]
    by_cases same : wrote.bifrostValueCiphertext = read.bifrostValueCiphertext
    · refine currentCarries.congr rfl rfl rfl (KeyColumns.ext
        (writtenId.trans currentCarries.virtualKeyId.symm) ?_
        (writtenVersion.trans currentCarries.keyVersion.symm))
      show column read.bifrostValueCiphertext wrote.bifrostValueCiphertext _ = _
      rw [same, column_self]
      rfl
    · refine stored.congr rfl sameId sameClient (KeyColumns.ext
        (writtenId.trans stored.virtualKeyId.symm) ?_
        (writtenVersion.trans stored.keyVersion.symm))
      show column read.bifrostValueCiphertext wrote.bifrostValueCiphertext _ = _
      rw [column_of_ne same, wroteCiphertext]
      rfl

end Keys

/-! ## Growth -/

section Growth

variable {keyring : CredentialKeyring} {before after : Shared}

/-- What no step takes back: items and bindings are never removed, a binding that has
a key keeps one, and keys keep their identity. -/
structure Grows (before after : Shared) : Prop where
  items : ∀ itemId item, before.database.outbox.find? itemId = some item →
    ∃ later, after.database.outbox.find? itemId = some later ∧ order later = order item
  bindings : ∀ bindingId binding, before.database.bindings.find? bindingId = some binding →
    ∃ later, after.database.bindings.find? bindingId = some later ∧ owner later = owner binding ∧
      (binding.bifrostVirtualKeyId.isSome → later.bifrostVirtualKeyId.isSome)
  keys : KeysKept before.keys after.keys

theorem Snapshot.grows {bindingId : String} {read : ApiClientBinding}
    (snapshot : Snapshot keyring before bindingId read) (grows : Grows before after) :
    Snapshot keyring after bindingId read := by
  obtain ⟨holds, current, found, sameOwner, grown⟩ := snapshot
  obtain ⟨later, foundLater, sameLater, grew⟩ := grows.bindings _ _ found
  exact ⟨holds.kept grows.keys, later, foundLater, sameLater.trans sameOwner,
    fun isSome => grew (grown isSome)⟩

theorem Yields.kept {keys more : VirtualKeys} {action : OutboxAction}
    {payload : BifrostOutboxPayload} {result : Result} (yields : Yields keys action payload result)
    (kept : KeysKept keys more) : Yields more action payload result := by
  cases result with
  | nothing | changed => exact yields
  | created material =>
      obtain ⟨create, spec, desired, key, stored, same, named⟩ := yields
      obtain ⟨later, storedLater, sameLater⟩ := kept key stored
      exact ⟨create, spec, desired, later, storedLater, sameLater.trans same,
        (congrArg Identity.name sameLater).trans named⟩

theorem PhaseHolds.grows {work : Order} {phase : Phase}
    (holds : PhaseHolds keyring before work phase) (grows : Grows before after) :
    PhaseHolds keyring after work phase := by
  match phase, holds with
  | .ready, _ => trivial
  | .loading item, holds => exact holds
  | .waiting loaded request, holds =>
      exact ⟨holds.1, holds.2.1, holds.2.2.1.grows grows, holds.2.2.2⟩
  | .finishing (.complete result), holds => exact Yields.kept holds grows.keys
  | .readItem (.complete result) item, holds => exact ⟨holds.1, holds.2.kept grows.keys⟩
  | .readBinding (.complete result) item read, holds =>
      exact ⟨holds.1, holds.2.1.kept grows.keys, fun binding member =>
        (holds.2.2 binding member).grows grows⟩
  | .finishing (.fail _), _ => trivial
  | .readItem (.fail _) _, _ => trivial
  | .readBinding (.fail _) _ _, _ => trivial

theorem Assigned.grows {worker : Worker} {work : Order} (assigned : Assigned before worker work)
    (grows : Grows before after) : Assigned after worker work := by
  obtain ⟨first, item, found, same⟩ := assigned
  obtain ⟨later, foundLater, sameLater⟩ := grows.items _ _ found
  exact ⟨first, later, foundLater, sameLater.trans same⟩

theorem WorkerHolds.grows {worker : Worker} (holds : WorkerHolds keyring before worker)
    (grows : Grows before after) : WorkerHolds keyring after worker := by
  rcases holds with holdless | ⟨work, assigned, held⟩
  · exact Or.inl holdless
  · exact Or.inr ⟨work, assigned.grows grows, held.grows grows⟩

end Growth

/-! ## The invariant -/

/-- An item of a caller: a creation under the managed name, or a disable. -/
def Ordered (shared : Shared) (work : Order) : Prop :=
  ∃ binding, shared.database.bindings.find? work.aggregateId = some binding ∧
    (work.action = .disable ∨ work.action = .create ∧
      ∃ spec, work.payload.desired = some spec ∧ spec.name = managedName binding.apiClientId)

theorem Ordered.grows {before after : Shared} {work : Order} (ordered : Ordered before work)
    (grows : Grows before after) : Ordered after work := by
  obtain ⟨binding, found, known⟩ := ordered
  obtain ⟨later, foundLater, sameOwner, _⟩ := grows.bindings _ _ found
  refine ⟨later, foundLater, ?_⟩
  rw [show later.apiClientId = binding.apiClientId from congrArg Owner.apiClientId sameOwner]
  exact known

/-- The binding of an item has a key. -/
def Delivered (shared : Shared) (bindingId : String) : Prop :=
  ∃ binding, shared.database.bindings.find? bindingId = some binding ∧
    binding.bifrostVirtualKeyId.isSome

theorem Delivered.grows {before after : Shared} {bindingId : String}
    (delivered : Delivered before bindingId) (grows : Grows before after) :
    Delivered after bindingId := by
  obtain ⟨binding, found, isSome⟩ := delivered
  obtain ⟨later, foundLater, _, grown⟩ := grows.bindings _ _ found
  exact ⟨later, foundLater, grown isSome⟩

structure CreationInvariant (keyring : CredentialKeyring) (system : System) : Prop where
  ordered : ∀ itemId item, system.item? itemId = some item →
    Ordered system.shared (order item)
  holds : ∀ bindingId binding, system.binding? bindingId = some binding →
    HoldsKey keyring system.shared.keys binding
  completed : ∀ itemId item, system.item? itemId = some item → item.action = .create →
    item.status = .completed → Delivered system.shared item.aggregateId
  single : ∀ name, (system.shared.keys.named name).length + system.creating name ≤ 1
  calm : ∀ request ∈ system.shared.strays, request.isUpdate = false
  workers : ∀ worker ∈ system.workers, WorkerHolds keyring system.shared worker

theorem CreationInvariant.start (keyring : CredentialKeyring) (sessions workers : Nat) :
    CreationInvariant keyring (System.start sessions workers) := by
  have idle : ∀ worker ∈ (System.start sessions workers).workers, worker = .idle :=
    fun worker member => (List.mem_replicate.mp member).2
  constructor
  · intro itemId item found
    cases found
  · intro bindingId binding found
    cases found
  · intro itemId item found
    cases found
  · intro name
    have none : (System.start sessions workers).workers.countP (Worker.isCreating name) = 0 := by
      rw [List.countP_eq_zero]
      intro worker member
      rw [idle worker member]
      simp [Worker.isCreating, Worker.request?, Worker.idle]
    show 0 + (0 + (System.start sessions workers).workers.countP _) ≤ 1
    omega
  · intro request member
    cases member
  · intro worker member
    rw [idle worker member]
    exact Or.inl trivial

/-! ## Steps of sessions -/

section Staging

variable {sha256 : String → String} {database after : Database} {session moved : Session}
  {staging : Staging}

/-- A caller's staging adds pending items: a creation under the managed name, or a
disable. -/
theorem Staged.items (staged : Staged sha256 database session staging after moved)
    (callers : ∀ spec action draw, staging ≠ .sync spec action draw) {itemId : String}
    {item : ControlOutbox} (found : after.outbox.find? itemId = some item) :
    database.outbox.find? itemId = some item ∨
      (item.status = .pending ∧ ∃ binding, after.bindings.find? item.aggregateId = some binding ∧
        (item.action = .disable ∨ item.action = .create ∧
          ∃ spec, item.payload.desired = some spec ∧
            spec.name = managedName binding.apiClientId)) := by
  cases staged with
  | getClient | getClientBinding | getBinding | rollback => exact Or.inl found
  | createCaller registered =>
      obtain ⟨_, binding, added, _, rowOf, carries, _, freshBinding, _, freshItem, rfl⟩ :=
        registerCaller_ok registered
      rw [Table.find?_insertNew freshItem] at found
      split at found
      · cases found
        refine Or.inr ⟨carries.pending, binding, ?_, Or.inr ⟨carries.action, _,
          congrArg BifrostOutboxPayload.desired carries.payload, ?_⟩⟩
        · rw [carries.aggregateId, Table.find?_insertNew freshBinding, if_pos rfl]
        · rw [rowOf]
          rfl
      · exact Or.inl found
  | disable committed =>
      rename_i client read draw
      obtain ⟨wrote, added, current, stagedWork, foundBinding, _, freshItem, rfl⟩ :=
        commitStaged_ok committed
      obtain ⟨_, carries⟩ := stageBindingDisable_ok stagedWork
      rw [Table.find?_insertNew freshItem] at found
      split at found
      · cases found
        refine Or.inr ⟨carries.pending, writeBinding read wrote current, ?_, Or.inl carries.action⟩
        rw [carries.aggregateId, Table.find?_modify (writeBinding_id _ _), if_pos rfl,
          foundBinding]
        rfl
      · exact Or.inl found
  | sync => exact absurd rfl (callers _ _ _)

/-- A caller's staging leaves the columns of a key alone; a new binding has none. -/
theorem Staged.bindings (staged : Staged sha256 database session staging after moved)
    (callers : ∀ spec action draw, staging ≠ .sync spec action draw) {bindingId : String}
    {later : ApiClientBinding} (found : after.bindings.find? bindingId = some later) :
    (database.bindings.find? bindingId = none ∧ keyColumns later = ⟨none, none, none⟩) ∨
      ∃ binding, database.bindings.find? bindingId = some binding ∧ owner later = owner binding ∧
        keyColumns later = keyColumns binding := by
  cases staged with
  | getClient | getClientBinding | getBinding | rollback =>
      exact Or.inr ⟨later, found, rfl, rfl⟩
  | createCaller registered =>
      obtain ⟨_, binding, _, _, rowOf, _, _, freshBinding, _, _, rfl⟩ :=
        registerCaller_ok registered
      rw [Table.find?_insertNew freshBinding] at found
      split at found
      · rename_i same
        cases found
        refine Or.inl ⟨same ▸ freshBinding, ?_⟩
        rw [rowOf]
        rfl
      · exact Or.inr ⟨later, found, rfl, rfl⟩
  | disable committed =>
      rename_i client read draw
      obtain ⟨wrote, _, _, stagedWork, _, _, _, rfl⟩ := commitStaged_ok committed
      obtain ⟨rfl, _⟩ := stageBindingDisable_ok stagedWork
      rw [Table.find?_modify (writeBinding_id _ _)] at found
      split at found
      · obtain ⟨binding, foundBinding, rfl⟩ := Option.map_eq_some_iff.mp found
        refine Or.inr ⟨binding, foundBinding, rfl, ?_⟩
        simp only [keyColumns, writeBinding, stagedRow, column_self]
      · exact Or.inr ⟨later, found, rfl, rfl⟩
  | sync => exact absurd rfl (callers _ _ _)

end Staging

/-! ## Steps of workers -/

section Working

variable {keyring : CredentialKeyring} {bounds : WorkerBounds} {before after : Shared}
  {worker moved : Worker} {work : Work}

theorem WorkerHolds.waiting {loaded : Loaded} {request : Request}
    (holds : WorkerHolds keyring before worker) (at_ : worker.phase = .waiting loaded request) :
    Fits loaded request := by
  rcases holds with holdless | ⟨_, _, held⟩
  · rw [at_] at holdless
    exact holdless.elim
  · rw [at_] at held
    exact held.2.2.2

/-- No request of a worker on a caller's item is an update. -/
theorem WorkerHolds.isUpdate (holds : WorkerHolds keyring before worker) :
    ∀ request ∈ worker.request?, request.isUpdate = false := by
  intro request member
  unfold Worker.request? at member
  split at member
  · rename_i loaded sent at_
    cases member
    exact (holds.waiting at_).isUpdate
  · cases member

/-- How a worker's step rewrites the row of a binding. -/
inductive Rewrites (keyring : CredentialKeyring) (worker : Worker) (work : Work)
    (bindingId : String) : (ApiClientBinding → ApiClientBinding) → Prop where
  | stays : Rewrites keyring worker work bindingId id
  | completes {nonce : Nat} {result : Result} {item : ControlOutbox}
      {read wrote : ApiClientBinding} (committing : work = .commit nonce)
      (named : read.id = bindingId)
      (at_ : worker.phase = .readBinding (.complete result) item (some read))
      (written : completeBinding keyring nonce worker.now item result read = .ok wrote) :
      Rewrites keyring worker work bindingId (writeBinding read wrote)
  | fails {failure : FailureCode} {item : ControlOutbox} {read : ApiClientBinding} :
      Rewrites keyring worker work bindingId
        (writeBinding read (failBinding failure worker.now item read))

theorem completeBinding_columns {nonce : Nat} {now : Int} {item : ControlOutbox} {result : Result}
    {binding wrote : ApiClientBinding}
    (written : completeBinding keyring nonce now item result binding = .ok wrote) :
    ∃ settled, settleBinding keyring nonce now item binding result = .ok settled ∧
      keyColumns wrote = keyColumns settled := by
  simp only [completeBinding, bind_ok_iff, pure, Except.pure, Except.ok.injEq] at written
  obtain ⟨settled, settles, rfl⟩ := written
  refine ⟨settled, settles, ?_⟩
  split <;> rfl

theorem failBinding_columns (failure : FailureCode) (now : Int) (item : ControlOutbox)
    (binding : ApiClientBinding) :
    keyColumns (failBinding failure now item binding) = keyColumns binding := by
  unfold failBinding
  split <;> rfl

/-- A completion without new material keeps the columns of the key. -/
theorem completeBinding_uncreated {nonce : Nat} {now : Int} {item : ControlOutbox}
    {result : Result} {binding wrote : ApiClientBinding}
    (written : completeBinding keyring nonce now item result binding = .ok wrote)
    (uncreated : ∀ material, result ≠ .created material) :
    keyColumns wrote = keyColumns binding := by
  obtain ⟨settled, settles, columns⟩ := completeBinding_columns written
  cases result with
  | created material => exact absurd rfl (uncreated material)
  | nothing | changed =>
      cases settles
      exact columns

theorem Turn.rewrites (turn : Turn keyring bounds before worker work after moved)
    (bindingId : String) :
    ∃ change, after.database.bindings.find? bindingId =
      (before.database.bindings.find? bindingId).map change ∧
      Rewrites keyring worker work bindingId change := by
  cases turn with
  | claim | raise | loadItem | loadBinding | deliver | fault | skip | crash | readItem
  | readBinding => exact ⟨id, Option.map_id.symm ▸ rfl, .stays⟩
  | complete at_ written committed =>
      rw [(commitComplete_find committed).2]
      split
      · rename_i named
        exact ⟨_, rfl, .completes rfl named.symm at_ written⟩
      · exact ⟨id, Option.map_id.symm ▸ rfl, .stays⟩
  | fail at_ committed =>
      rename_i nonce failure item read database
      rw [(commitFail_find committed).2]
      split
      · cases read with
        | none => exact ⟨id, rfl, .stays⟩
        | some read => exact ⟨_, rfl, .fails⟩
      · exact ⟨id, Option.map_id.symm ▸ rfl, .stays⟩

theorem Rewrites.owner {bindingId : String} {change : ApiClientBinding → ApiClientBinding}
    (rewrites : Rewrites keyring worker work bindingId change) (binding : ApiClientBinding) :
    Outbox.owner (change binding) = Outbox.owner binding := by
  cases rewrites <;> rfl

/-- No worker changes the version of a binding. -/
theorem Rewrites.version {bindingId : String} {change : ApiClientBinding → ApiClientBinding}
    (rewrites : Rewrites keyring worker work bindingId change) (binding : ApiClientBinding) :
    (change binding).version = binding.version := by
  cases rewrites with
  | stays => rfl
  | completes committing named at_ written =>
      rename_i nonce result item read wrote
      show column read.version wrote.version binding.version = binding.version
      rw [(completeBinding_version written).1, column_self]
  | fails =>
      rename_i failure item read
      show column read.version (failBinding failure worker.now item read).version _ = _
      rcases failBinding_cases failure worker.now item read with ⟨_, _, same⟩ | ⟨_, same⟩
      · rw [same, column_self]
      · rw [same, column_self]

theorem writeBinding_columns {read wrote : ApiClientBinding}
    (columns : keyColumns wrote = keyColumns read) (current : ApiClientBinding) :
    keyColumns (writeBinding read wrote current) = keyColumns current := by
  simp only [keyColumns, KeyColumns.mk.injEq] at columns
  simp only [keyColumns, writeBinding, columns.1, columns.2.1, columns.2.2, column_self]

/-- A rewrite stores the key of a creation or leaves the columns of the key. -/
theorem Rewrites.columns_cases {bindingId : String} {change : ApiClientBinding → ApiClientBinding}
    (rewrites : Rewrites keyring worker work bindingId change) :
    (∀ binding, keyColumns (change binding) = keyColumns binding) ∨
      ∃ nonce material item read wrote settled, read.id = bindingId ∧
        worker.phase = .readBinding (.complete (.created material)) item (some read) ∧
        persistCreatedBinding keyring nonce worker.now material read = .ok settled ∧
        keyColumns wrote = keyColumns settled ∧ change = writeBinding read wrote := by
  cases rewrites with
  | stays => exact Or.inl fun _ => rfl
  | fails => exact Or.inl (writeBinding_columns (failBinding_columns _ _ _ _))
  | completes committing named at_ written =>
      rename_i nonce result item read wrote
      cases result with
      | nothing | changed =>
          exact Or.inl (writeBinding_columns (completeBinding_uncreated written (by simp)))
      | created material =>
          obtain ⟨settled, settles, columns⟩ := completeBinding_columns written
          exact Or.inr ⟨nonce, material, item, read, wrote, settled, named, at_, settles, columns,
            rfl⟩

/-- A binding that has a key keeps one. -/
theorem Rewrites.isSome {bindingId : String} {change : ApiClientBinding → ApiClientBinding}
    (rewrites : Rewrites keyring worker work bindingId change) {binding : ApiClientBinding}
    (isSome : binding.bifrostVirtualKeyId.isSome) : (change binding).bifrostVirtualKeyId.isSome := by
  rcases rewrites.columns_cases with
    same | ⟨_, _, _, read, wrote, settled, _, _, persisted, columns, rfl⟩
  · rw [show (change binding).bifrostVirtualKeyId = binding.bifrostVirtualKeyId from
      congrArg KeyColumns.virtualKeyId (same binding)]
    exact isSome
  · obtain ⟨_, _, keyId, _⟩ := persistCreatedBinding_ok persisted
    have wroteId : wrote.bifrostVirtualKeyId = settled.bifrostVirtualKeyId :=
      congrArg KeyColumns.virtualKeyId columns
    show (column read.bifrostVirtualKeyId wrote.bifrostVirtualKeyId _).isSome
    unfold column
    split
    · exact isSome
    · rw [wroteId, keyId]
      rfl

theorem Turn.grows (turn : Turn keyring bounds before worker work after moved)
    (holds : WorkerHolds keyring before worker) : Grows before after where
  items := fun _ _ found => turn.order found
  bindings := by
    intro bindingId binding found
    obtain ⟨later, foundLater, sameOwner⟩ := turn.owner found
    obtain ⟨change, changed, rewrites⟩ := turn.rewrites bindingId
    refine ⟨later, foundLater, sameOwner, fun isSome => ?_⟩
    rw [changed, found, Option.map_some, Option.some.injEq] at foundLater
    exact foundLater ▸ rewrites.isSome isSome
  keys := by
    cases turn with
    | deliver at_ served => exact .of_serve (holds.waiting at_).isUpdate served
    | claim | raise | loadItem | loadBinding | fault | skip | crash | readItem | readBinding
    | complete | fail => exact .refl _

/-- A worker in a phase that holds something is assigned to an item. -/
theorem WorkerHolds.assigned {phase : Phase} (holds : WorkerHolds keyring before worker)
    (at_ : worker.phase = phase) (held : ¬ phase.Holdless) :
    ∃ work, Assigned before worker work ∧ PhaseHolds keyring before work phase := by
  subst at_
  exact holds.resolve_left held

/-- The moved worker holds what its phase needs. -/
theorem Turn.holds (turn : Turn keyring bounds before worker work after moved)
    (holds : WorkerHolds keyring before worker)
    (ordered : ∀ itemId item, before.database.outbox.find? itemId = some item →
      Ordered before (Outbox.order item))
    (keys : ∀ bindingId binding, before.database.bindings.find? bindingId = some binding →
      HoldsKey keyring before.keys binding) : WorkerHolds keyring after moved := by
  have grows := turn.grows holds
  cases turn with
  | claim | skip | complete | fail | crash => exact Or.inl trivial
  | raise failure => exact Or.inl trivial
  | loadItem at_ first found processing =>
      rename_i claim rest item
      have named : item.id = claim.itemId := Table.key_of_find? found
      refine Or.inr ⟨Outbox.order item, ⟨?_, item, ?_, rfl⟩, rfl⟩
      · show worker.batch.head?.map Claim.itemId = some item.id
        rw [first, named]
        rfl
      · show before.database.outbox.find? item.id = some item
        rw [named]
        exact found
  | loadBinding at_ found =>
      rename_i item binding
      obtain ⟨work, first, rfl⟩ := holds.assigned at_ id
      obtain ⟨stored, foundStored, same⟩ := first.2
      obtain ⟨known, foundKnown, wants⟩ := ordered _ _ foundStored
      rw [same] at foundKnown wants
      have snapshot : Snapshot keyring before item.aggregateId binding :=
        ⟨keys _ _ found, binding, found, rfl, id⟩
      have cases_ := execute_cases ⟨item.action, binding, item.payload⟩
        (wants.imp id fun create => ⟨create.1, create.2.imp fun _ desired => desired.1⟩)
      rcases cases_ with ⟨request, calls, fits, _⟩ | ⟨returns, disable, _⟩ | ⟨failure, raises⟩
      · rw [calls]
        exact Or.inr ⟨Outbox.order item, first, rfl, rfl, snapshot, fits⟩
      · rw [returns]
        exact Or.inr ⟨Outbox.order item, first, disable⟩
      · rw [raises]
        exact Or.inl trivial
  | deliver at_ served =>
      rename_i minted loaded request keys reply
      obtain ⟨work, first, action, payload, snapshot, fits⟩ := holds.assigned at_ id
      rcases resume_cases fits served with
        ⟨spec, calls, fitsCreate, _, _, _⟩ | ⟨result, returns, yields⟩ | ⟨failure, raises⟩
      · rw [calls]
        exact Or.inr ⟨work, first.grows grows, action, payload, snapshot.grows grows, fitsCreate⟩
      · rw [returns]
        rw [action, payload] at yields
        exact Or.inr ⟨work, first.grows grows, yields⟩
      · rw [raises]
        exact Or.inl trivial
  | fault at_ known =>
      rename_i error loaded request
      rw [resume_fault request known]
      exact Or.inl trivial
  | readItem at_ first found processing =>
      rename_i finish claim rest item
      cases finish with
      | fail failure => exact Or.inl trivial
      | complete result =>
          obtain ⟨work, assignedTo, yields⟩ := holds.assigned at_ id
          obtain ⟨head, stored, foundStored, same⟩ := assignedTo
          rw [first] at head
          obtain named : claim.itemId = work.itemId := Option.some.inj head
          rw [← named, found, Option.some.injEq] at foundStored
          subst foundStored
          refine Or.inr ⟨work, ⟨?_, item, by rw [← named]; exact found, same⟩, same, yields⟩
          show worker.batch.head?.map Claim.itemId = some work.itemId
          rw [first, ← named]
          rfl
  | readBinding at_ present =>
      rename_i finish item
      cases finish with
      | fail failure => exact Or.inl trivial
      | complete result =>
          obtain ⟨work, first, rfl, yields⟩ := holds.assigned at_ id
          refine Or.inr ⟨Outbox.order item, first, rfl, yields, ?_⟩
          intro binding found
          exact ⟨keys _ _ found, binding, found, rfl, id⟩

/-- A completed item was completed before, or is what a finishing worker completes. -/
theorem Turn.completes (turn : Turn keyring bounds before worker work after moved)
    {itemId : String} {item : ControlOutbox}
    (found : after.database.outbox.find? itemId = some item) (completed : item.status = .completed) :
    (∃ old, before.database.outbox.find? itemId = some old ∧ old.status = .completed ∧
        Outbox.order item = Outbox.order old) ∨
      ∃ nonce result opened read wrote database,
        worker.phase = .readBinding (.complete result) opened (some read) ∧ opened.id = itemId ∧
        completeBinding keyring nonce worker.now opened result read = .ok wrote ∧
        commitComplete opened (completeItem worker.now opened) read wrote before.database =
          some database ∧ after = { before with database := database } := by
  cases turn with
  | raise | loadItem | loadBinding | deliver | fault | skip | crash | readItem | readBinding =>
      exact Or.inl ⟨item, found, completed, rfl⟩
  | claim idle taken =>
      subst taken
      rw [find?_claimRows (claimedRows_nodup _ _ _ _)] at found
      split at found
      · obtain ⟨old, _, rfl⟩ := Option.map_eq_some_iff.mp found
        cases completed
      · exact Or.inl ⟨item, found, completed, rfl⟩
  | complete at_ written committed =>
      rename_i nonce result opened read wrote database
      rw [(commitComplete_find committed).1] at found
      split at found
      · rename_i named
        exact Or.inr ⟨_, _, opened, read, wrote, database, at_, named.symm, written, committed, rfl⟩
      · exact Or.inl ⟨item, found, completed, rfl⟩
  | fail at_ committed =>
      rename_i nonce failure opened read database
      rw [(commitFail_find committed).1] at found
      split at found
      · obtain ⟨old, foundOld, rfl⟩ := Option.map_eq_some_iff.mp found
        refine Or.inl ⟨old, foundOld, ?_, rfl⟩
        by_cases same : OutboxStatus.failed = opened.status
        · rwa [show (writeItem opened _ old).status = old.status from by
            show column opened.status .failed old.status = old.status
            rw [← same, column_self]] at completed
        · have status : (writeItem opened (failItem bounds failure worker.now opened) old).status =
              .failed := column_of_ne same _
          rw [status] at completed
          cases completed
      · exact Or.inl ⟨item, found, completed, rfl⟩

/-- A new stray is a request that the worker waited for. -/
theorem Turn.strays (turn : Turn keyring bounds before worker work after moved) :
    ∀ request ∈ after.strays, request ∈ before.strays ∨ request ∈ worker.request? := by
  intro request stray
  cases turn with
  | claim | raise | loadItem | loadBinding | deliver | skip | readItem | readBinding | complete
  | fail => exact Or.inl stray
  | fault at_ known =>
      rcases List.mem_cons.mp stray with rfl | old
      · refine Or.inr ?_
        unfold Worker.request?
        rw [at_]
        rfl
      · exact Or.inl old
  | crash =>
      rcases List.mem_append.mp stray with asked | old
      · exact Or.inr (Option.mem_toList.mp asked)
      · exact Or.inl old

/-- A worker's step makes no key of a name and no creation of it out of nothing, but
for a search that came back empty. -/
theorem Turn.creating (turn : Turn keyring bounds before worker work after moved)
    (holds : WorkerHolds keyring before worker) (name : String) :
    (after.keys.named name).length + after.strays.countP (creates name) +
        (if moved.isCreating name then 1 else 0) ≤
      (before.keys.named name).length + before.strays.countP (creates name) +
        (if worker.isCreating name then 1 else 0) ∨
    ∃ minted, work = .deliver minted ∧ worker.request? = some (.find name) ∧
      before.keys.named name = [] ∧ after = before := by
  have kept (quiet : moved.isCreating name = false) (sameKeys : after.keys = before.keys)
      (sameStrays : after.strays = before.strays) :
      (after.keys.named name).length + after.strays.countP (creates name) +
          (if moved.isCreating name then 1 else 0) ≤
        (before.keys.named name).length + before.strays.countP (creates name) +
          (if worker.isCreating name then 1 else 0) := by
    rw [quiet, sameKeys, sameStrays]
    exact Nat.add_le_add_left (Nat.zero_le _) _
  have creatingAt {loaded : Loaded} {request : Request}
      (at_ : worker.phase = .waiting loaded request) :
      worker.request? = some request ∧ worker.isCreating name = creates name request := by
    have asks : worker.request? = some request := by
      unfold Worker.request?
      rw [at_]
    exact ⟨asks, by rw [Worker.isCreating, asks, Option.any_some]⟩
  cases turn with
  | claim | raise | loadItem | skip | readItem | readBinding | complete | fail =>
      exact Or.inl (kept rfl rfl rfl)
  | loadBinding at_ found =>
      exact Or.inl (kept (isCreating_execution _ _ _ _ fun request calls =>
        execute_creates calls name) rfl rfl)
  | deliver at_ served =>
      rename_i minted loaded request keys reply
      have fits := holds.waiting at_
      have count := serve_named_creating fits.isUpdate served name
      obtain ⟨asks, creating⟩ := creatingAt at_
      rcases resume_cases fits served with
        ⟨spec, calls, _, rfl, empty, rfl⟩ | ⟨result, returns, _⟩ | ⟨failure, raises⟩
      · by_cases same : spec.name = name
        · subst same
          exact Or.inr ⟨minted, rfl, asks, empty, rfl⟩
        · refine Or.inl (kept (isCreating_execution _ _ _ _ ?_) rfl rfl)
          intro sent calling
          rw [calls] at calling
          cases calling
          simpa [creates] using same
      · rw [returns, creating]
        refine Or.inl (le_of_eq ?_)
        show (keys.named name).length + before.strays.countP (creates name) + 0 = _
        omega
      · rw [raises, creating]
        refine Or.inl (le_of_eq ?_)
        show (keys.named name).length + before.strays.countP (creates name) + 0 = _
        omega
  | fault at_ known =>
      rename_i error loaded request
      rw [resume_fault request known, (creatingAt at_).2, List.countP_cons]
      refine Or.inl (le_of_eq ?_)
      show (before.keys.named name).length + (_ + _) + 0 = _
      omega
  | crash =>
      refine Or.inl (le_of_eq ?_)
      show (before.keys.named name).length +
        List.countP _ (worker.request?.toList ++ before.strays) + 0 = _
      rw [List.countP_append]
      unfold Worker.isCreating
      cases worker.request? with
      | none => simp
      | some request =>
          rw [Option.toList_some, List.countP_singleton, Option.any_some]
          omega

end Working

/-! ## Runs -/

section Runs

variable {runtime : Runtime} {before after : System}

theorem Staged.grows {sha256 : String → String} {shared : Shared} {database : Database}
    {session moved : Session} {staging : Staging}
    (staged : Staged sha256 shared.database session staging database moved)
    (callers : ∀ spec action draw, staging ≠ .sync spec action draw) :
    Grows shared { shared with database := database } where
  items := fun _ item found => ⟨item, staged.item? found, rfl⟩
  bindings := by
    intro bindingId binding found
    obtain ⟨later, foundLater, sameOwner⟩ := staged.binding? found
    refine ⟨later, foundLater, sameOwner, fun isSome => ?_⟩
    rcases staged.bindings callers foundLater with ⟨missing, _⟩ | ⟨old, foundOld, _, columns⟩
    · rw [found] at missing
      cases missing
    · rw [found, Option.some.injEq] at foundOld
      subst foundOld
      rw [show later.bifrostVirtualKeyId = binding.bifrostVirtualKeyId from
        congrArg KeyColumns.virtualKeyId columns]
      exact isSome
  keys := .refl _

/-- A session stages work. -/
theorem CreationInvariant.stage (invariant : CreationInvariant runtime.keyring before)
    {index : Nat} {session moved : Session} {staging : Staging} {database : Database}
    (staged : Staged runtime.sha256 before.shared.database session staging database moved)
    (callers : ∀ spec action draw, staging ≠ .sync spec action draw) :
    CreationInvariant runtime.keyring
      { before with
        shared.database := database
        sessions := before.sessions.set index moved } := by
  have grows := staged.grows callers
  constructor
  · intro itemId item found
    rcases staged.items callers found with old | ⟨_, wants⟩
    · exact (invariant.ordered itemId item old).grows grows
    · exact wants
  · intro bindingId binding found
    rcases staged.bindings callers found with ⟨_, nothing⟩ | ⟨old, foundOld, sameOwner, columns⟩
    · exact Or.inl nothing
    · exact (invariant.holds bindingId old foundOld).congr (congrArg Owner.bindingId sameOwner)
        (congrArg Owner.apiClientId sameOwner) columns
  · intro itemId item found create completed
    rcases staged.items callers found with old | ⟨pending, _⟩
    · exact (invariant.completed itemId item old create completed).grows grows
    · rw [pending] at completed
      cases completed
  · exact invariant.single
  · exact invariant.calm
  · exact fun worker member => (invariant.workers worker member).grows grows

/-- What a finishing worker with a result holds, in terms of the stored rows. -/
theorem CreationInvariant.finishing (invariant : CreationInvariant runtime.keyring before)
    {worker : Worker} (member : worker ∈ before.workers) {result : Result}
    {item : ControlOutbox} {read : ApiClientBinding}
    (at_ : worker.phase = .readBinding (.complete result) item (some read)) :
    ∃ stored current, before.item? item.id = some stored ∧ order stored = order item ∧
      before.binding? item.aggregateId = some current ∧ owner current = owner read ∧
      (read.bifrostVirtualKeyId.isSome → current.bifrostVirtualKeyId.isSome) ∧
      HoldsKey runtime.keyring before.shared.keys read ∧
      Yields before.shared.keys item.action item.payload result ∧
      Ordered before.shared (order item) := by
  rcases invariant.workers worker member with holdless | ⟨work, assigned, held⟩
  · rw [at_] at holdless
    exact holdless.elim
  · rw [at_] at held
    obtain ⟨rfl, yields, snapshots⟩ := held
    obtain ⟨_, stored, foundStored, same⟩ := assigned
    obtain ⟨readHolds, current, found, sameOwner, grown⟩ := snapshots read rfl
    exact ⟨stored, current, foundStored, same, found, sameOwner, grown, readHolds, yields,
      same ▸ invariant.ordered _ _ foundStored⟩

/-- The row that a completed creation leaves carries the key of its name. -/
theorem CreationInvariant.stores (invariant : CreationInvariant runtime.keyring before)
    {worker : Worker} (member : worker ∈ before.workers) {material : VirtualKeyCreationResult}
    {item : ControlOutbox} {read wrote settled current : ApiClientBinding} {nonce : Nat}
    (at_ : worker.phase = .readBinding (.complete (.created material)) item (some read))
    (found : before.binding? read.id = some current)
    (persisted : persistCreatedBinding runtime.keyring nonce worker.now material read =
      .ok settled)
    (columns : keyColumns wrote = keyColumns settled) :
    ∃ key ∈ before.shared.keys.named (managedName current.apiClientId),
      Carries runtime.keyring key (writeBinding read wrote current) := by
  obtain ⟨stored, own, _, _, foundOwn, sameOwner, grown, readHolds, yields, ordered⟩ :=
    invariant.finishing member at_
  have ownId : own.id = item.aggregateId := Table.key_of_find? foundOwn
  have readId : own.id = read.id := congrArg Owner.bindingId sameOwner
  rw [← readId, ownId, foundOwn, Option.some.injEq] at found
  subst found
  have sameClient : own.apiClientId = read.apiClientId := congrArg Owner.apiClientId sameOwner
  obtain ⟨create, spec, desired, key, keyStored, sameKey, named⟩ := yields
  have managed : key.state.name = managedName own.apiClientId := by
    obtain ⟨binding, foundBinding, wants⟩ := ordered
    rw [show (order item).aggregateId = item.aggregateId from rfl] at foundBinding
    rw [show before.shared.database.bindings.find? item.aggregateId = some own from foundOwn,
      Option.some.injEq] at foundBinding
    subst foundBinding
    rcases wants with disable | ⟨_, managedSpec, managedDesired, managedNamed⟩
    · rw [show item.action = .disable from disable] at create
      cases create
    · rw [show item.payload.desired = some managedSpec from managedDesired,
        Option.some.injEq] at desired
      rw [named, ← desired, managedNamed]
  have keyMember : key ∈ before.shared.keys.named (managedName own.apiClientId) :=
    VirtualKeys.mem_named.mpr ⟨keyStored, managed⟩
  have single : (before.shared.keys.named (managedName own.apiClientId)).length ≤ 1 :=
    le_trans (Nat.le_add_right _ _) (invariant.single _)
  refine ⟨key, keyMember, ?_⟩
  rw [sameClient] at keyMember single
  exact carries_of_store single keyMember sameKey sameOwner readHolds
    (invariant.holds _ _ foundOwn) grown persisted columns

/-- The row that a worker's step leaves holds a key as before, or carries the key it
stores. -/
theorem CreationInvariant.holds_turn (invariant : CreationInvariant runtime.keyring before)
    {shared : Shared} {worker moved : Worker} {work : Work} (member : worker ∈ before.workers)
    (turn : Turn runtime.keyring runtime.bounds before.shared worker work shared moved)
    {bindingId : String} {binding : ApiClientBinding}
    (found : shared.database.bindings.find? bindingId = some binding) :
    HoldsKey runtime.keyring shared.keys binding := by
  have grows := turn.grows (invariant.workers worker member)
  obtain ⟨change, changed, rewrites⟩ := turn.rewrites bindingId
  rw [changed] at found
  obtain ⟨current, foundCurrent, rfl⟩ := Option.map_eq_some_iff.mp found
  rcases rewrites.columns_cases with
    same | ⟨_, _, _, read, _, _, named, at_, persisted, columns, rfl⟩
  · have sameOwner := rewrites.owner current
    exact ((invariant.holds bindingId current foundCurrent).kept grows.keys).congr
      (congrArg Owner.bindingId sameOwner) (congrArg Owner.apiClientId sameOwner) (same current)
  · obtain ⟨key, keyMember, carries⟩ := invariant.stores member at_
      (by rw [named]; exact foundCurrent) persisted columns
    exact HoldsKey.kept (Or.inr ⟨key, keyMember, carries⟩) grows.keys

/-- A creation that a worker completes leaves its binding with a key. -/
theorem CreationInvariant.completed_turn (invariant : CreationInvariant runtime.keyring before)
    {shared : Shared} {worker moved : Worker} {work : Work} (member : worker ∈ before.workers)
    (turn : Turn runtime.keyring runtime.bounds before.shared worker work shared moved)
    {itemId : String} {item : ControlOutbox}
    (found : shared.database.outbox.find? itemId = some item) (create : item.action = .create)
    (completed : item.status = .completed) : Delivered shared item.aggregateId := by
  have grows := turn.grows (invariant.workers worker member)
  rcases turn.completes found completed with ⟨old, foundOld, oldCompleted, same⟩ |
    ⟨nonce, result, opened, read, wrote, database, at_, named, written, committed, rfl⟩
  · have delivered := invariant.completed itemId old foundOld
      ((congrArg Order.action same).symm.trans create) oldCompleted
    rw [show item.aggregateId = old.aggregateId from congrArg Order.aggregateId same]
    exact delivered.grows grows
  · obtain ⟨stored, current, foundStored, sameStored, foundCurrent, sameOwner, _, _, yields, _⟩ :=
      invariant.finishing member at_
    have same : order item = order opened := by
      obtain ⟨later, foundLater, sameLater⟩ := grows.items _ _ foundStored
      rw [named, found, Option.some.injEq] at foundLater
      rw [foundLater, sameLater, sameStored]
    rw [show item.action = opened.action from congrArg Order.action same] at create
    have currentId : current.id = opened.aggregateId := Table.key_of_find? foundCurrent
    have readId : read.id = opened.aggregateId :=
      (congrArg Owner.bindingId sameOwner).symm.trans currentId
    cases result with
    | nothing | changed =>
        rw [show opened.action = .disable from yields] at create
        cases create
    | created material =>
        obtain ⟨settled, settles, columns⟩ := completeBinding_columns written
        obtain ⟨key, _, carries⟩ := invariant.stores member at_
          (by rw [readId]; exact foundCurrent) settles columns
        refine ⟨writeBinding read wrote current, ?_, by rw [carries.virtualKeyId]; rfl⟩
        rw [show item.aggregateId = read.id from
          (congrArg Order.aggregateId same).trans readId.symm]
        show database.bindings.find? read.id = _
        rw [(commitComplete_find committed).2, if_pos rfl, readId]
        exact congrArg (Option.map _) foundCurrent

/-- A worker takes a step. -/
theorem CreationInvariant.work (invariant : CreationInvariant runtime.keyring before)
    {index : Nat} {shared : Shared} {worker moved : Worker} {work : Work} {claims : List Claim}
    (found : before.workers[index]? = some worker)
    (turn : Turn runtime.keyring runtime.bounds before.shared worker work shared moved)
    (alone : CreatesAlone before (.work index work)) :
    CreationInvariant runtime.keyring
      { before with
        shared := shared
        workers := before.workers.set index moved
        claims := claims } := by
  have member : worker ∈ before.workers := List.mem_of_getElem? found
  have holds := invariant.workers worker member
  have grows := turn.grows holds
  constructor
  · intro itemId item foundItem
    obtain ⟨old, foundOld, same⟩ := turn.order_before foundItem
    rw [same]
    exact (invariant.ordered itemId old foundOld).grows grows
  · exact fun bindingId binding => invariant.holds_turn member turn
  · exact fun itemId item => invariant.completed_turn member turn
  · intro name
    have count := @countP_set_add _ _ _ _ moved (Worker.isCreating name) found
    have single := invariant.single name
    unfold System.creating at single ⊢
    rcases turn.creating holds name with atMost | ⟨minted, rfl, asks, empty, rfl⟩
    · dsimp only
      omega
    · have none := alone worker found _ asks empty
      unfold System.creating at none
      have atMost : (if moved.isCreating name then 1 else 0) ≤ 1 := by split <;> omega
      rw [empty]
      dsimp only [List.length_nil]
      omega
  · intro request stray
    rcases turn.strays request stray with old | asked
    · exact invariant.calm request old
    · exact holds.isUpdate request asked
  · intro other otherMember
    rcases mem_set_cases otherMember with rfl | untouched
    · exact turn.holds holds invariant.ordered invariant.holds
    · exact (invariant.workers other (mem_of_mem_eraseIdx untouched)).grows grows

/-- A stray request is served. -/
theorem CreationInvariant.serveStray (invariant : CreationInvariant runtime.keyring before)
    {position : Nat} {minted : Minted} {request : Request} {keys : VirtualKeys}
    {reply : Except BifrostUpstreamError request.Reply}
    (found : before.shared.strays[position]? = some request)
    (served : serve before.shared.keys minted request = some (keys, reply)) :
    CreationInvariant runtime.keyring
      { before with
        shared := { before.shared with
          keys := keys
          strays := before.shared.strays.eraseIdx position } } := by
  have notUpdate := invariant.calm request (List.mem_of_getElem? found)
  have kept : KeysKept before.shared.keys keys := .of_serve notUpdate served
  have grows : Grows before.shared { before.shared with
      keys := keys
      strays := before.shared.strays.eraseIdx position } :=
    ⟨fun _ item foundItem => ⟨item, foundItem, rfl⟩,
      fun _ binding foundBinding => ⟨binding, foundBinding, rfl, id⟩, kept⟩
  constructor
  · exact fun itemId item foundItem => (invariant.ordered itemId item foundItem).grows grows
  · exact fun bindingId binding foundBinding =>
      (invariant.holds bindingId binding foundBinding).kept kept
  · exact fun itemId item foundItem create completed =>
      (invariant.completed itemId item foundItem create completed).grows grows
  · intro name
    have count := serve_named_creating notUpdate served name
    have erased := countP_eraseIdx_add (creates name) found
    have single := invariant.single name
    unfold System.creating at single ⊢
    dsimp only
    omega
  · exact fun stray member => invariant.calm stray (mem_of_mem_eraseIdx member)
  · exact fun worker member => (invariant.workers worker member).grows grows

/-- A stray request is lost. -/
theorem CreationInvariant.loseStray (invariant : CreationInvariant runtime.keyring before)
    (position : Nat) :
    CreationInvariant runtime.keyring
      { before with shared.strays := before.shared.strays.eraseIdx position } := by
  have grows : Grows before.shared { before.shared with
      strays := before.shared.strays.eraseIdx position } :=
    ⟨fun _ item foundItem => ⟨item, foundItem, rfl⟩,
      fun _ binding foundBinding => ⟨binding, foundBinding, rfl, id⟩, .refl _⟩
  constructor
  · exact fun itemId item foundItem => (invariant.ordered itemId item foundItem).grows grows
  · exact invariant.holds
  · exact fun itemId item foundItem create completed =>
      (invariant.completed itemId item foundItem create completed).grows grows
  · intro name
    have fewer : (before.shared.strays.eraseIdx position).countP (creates name) ≤
        before.shared.strays.countP (creates name) :=
      (List.eraseIdx_sublist before.shared.strays position).countP_le
    have single := invariant.single name
    unfold System.creating at single ⊢
    dsimp only
    omega
  · exact fun stray member => invariant.calm stray (mem_of_mem_eraseIdx member)
  · exact fun worker member => (invariant.workers worker member).grows grows

theorem CreationInvariant.step {action : Action}
    (invariant : CreationInvariant runtime.keyring before) (callers : CallersStage action)
    (alone : CreatesAlone before action) (stepped : runtime.step before action = some after) :
    CreationInvariant runtime.keyring after := by
  cases Runtime.step_moved stepped with
  | stage found staged =>
      refine invariant.stage staged ?_
      rintro spec asked draw rfl
      exact callers
  | work found turn => exact invariant.work found turn alone
  | serveStray found served => exact invariant.serveStray found served
  | loseStray => exact invariant.loseStray _

theorem CreationInvariant.run {sessions workers : Nat} {system : System}
    (run : Reached runtime.step
      (fun system action => CallersStage action ∧ CreatesAlone system action)
      (System.start sessions workers) system) : CreationInvariant runtime.keyring system :=
  run.invariant (.start runtime.keyring sessions workers)
    fun _ _ _ invariant meets stepped => invariant.step meets.1 meets.2 stepped

end Runs

/-- A caller created while its first request is lost: the retry finds nothing, and
creates the key. -/
def createdOnRetry : List Action :=
  [.stage 0 (.createCaller smallRegistration), .work 0 (.claim 100 []), .work 0 .loadItem,
    .work 0 .loadBinding, .work 0 (.fault ⟨"BIFROST_TIMEOUT", 504, true⟩), .work 0 .readItem,
    .work 0 .readBinding, .work 0 (.commit 0), .loseStray 0,
    .work 0 (.claim 105 []), .work 0 .loadItem, .work 0 .loadBinding,
    .work 0 (.deliver ⟨"", ""⟩), .work 0 (.deliver ⟨"vk", "k"⟩), .work 0 .readItem,
    .work 0 .readBinding, .work 0 (.commit 0)]

theorem createdOnRetry_runs :
    ∃ system, Reached smallRuntime.step
        (fun system action => CallersStage action ∧ CreatesAlone system action)
        (System.start 1 2) system ∧
      ∃ item ∈ system.shared.database.outbox.rows,
        item.action = .create ∧ item.status = .completed := by
  have replayed : ((replay smallRuntime.step
      (fun system action => CallersStage action ∧ CreatesAlone system action) (System.start 1 2)
      createdOnRetry).any fun system => ∃ item ∈ system.shared.database.outbox.rows,
        item.action = .create ∧ item.status = .completed) = true := by
    decide +kernel
  exact Reached.of_replay smallRuntime.step _ _ createdOnRetry _ replayed

/-- A worker is still waiting for its creation when its claim times out. Another worker
claims the item, finds no key either, and creates one too. -/
def createdTwice : List Action :=
  [.stage 0 (.createCaller smallRegistration), .work 0 (.claim 100 []), .work 0 .loadItem,
    .work 0 .loadBinding, .work 0 (.deliver ⟨"", ""⟩),
    .work 1 (.claim 220 []), .work 1 .loadItem, .work 1 .loadBinding,
    .work 1 (.deliver ⟨"", ""⟩), .work 0 (.deliver ⟨"vk", "k"⟩),
    .work 1 (.deliver ⟨"vk2", "l"⟩)]

end Zangpu.Workers.Outbox
