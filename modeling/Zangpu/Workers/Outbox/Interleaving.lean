import Zangpu.Foundation.Columns
import Zangpu.Foundation.Runs
import Zangpu.Services.Admin
import Zangpu.Workers.Outbox

/-!
Staging sessions and outbox workers over one database and one Bifrost.

Owns: the system of open staging transactions, workers with their claimed batches,
committed rows, remote keys and requests that outlive their caller; every step of
it as one executable function; and what each step can do.

Does not own: properties of its runs.

Transactions run under READ COMMITTED: a read sees the rows committed before it,
and a commit writes the columns whose value the session changed. An UPDATE takes
effect at the commit. A claim reads the rows it locks, so it is one step.
-/

set_option autoImplicit false

namespace Zangpu.Workers.Outbox

open Zangpu.Foundation
open Zangpu.Models
open Zangpu.Integrations.Bifrost
open Zangpu.Services.Admin

/-! ## Rows -/

/-- The UPDATE of an outbox item. -/
def writeItem (read wrote current : ControlOutbox) : ControlOutbox :=
  { current with
    status := column read.status wrote.status current.status
    attemptCount := column read.attemptCount wrote.attemptCount current.attemptCount
    availableAt := column read.availableAt wrote.availableAt current.availableAt
    lockedAt := column read.lockedAt wrote.lockedAt current.lockedAt
    completedAt := column read.completedAt wrote.completedAt current.completedAt
    lastErrorCode := column read.lastErrorCode wrote.lastErrorCode current.lastErrorCode
    updatedAt := column read.updatedAt wrote.updatedAt current.updatedAt }

/-- On a row unchanged since the read, an UPDATE writes what the session wrote, but
for the columns no session changes. -/
theorem writeItem_current (read wrote : ControlOutbox) :
    writeItem read wrote read =
      { read with
        status := wrote.status
        attemptCount := wrote.attemptCount
        availableAt := wrote.availableAt
        lockedAt := wrote.lockedAt
        completedAt := wrote.completedAt
        lastErrorCode := wrote.lastErrorCode
        updatedAt := wrote.updatedAt } := by
  simp only [writeItem, column_current]

theorem writeItem_id (read wrote current : ControlOutbox) :
    (writeItem read wrote current).id = current.id := rfl

/-- The UPDATE of a binding. -/
def writeBinding (read wrote current : ApiClientBinding) : ApiClientBinding :=
  { current with
    bifrostVirtualKeyId :=
      column read.bifrostVirtualKeyId wrote.bifrostVirtualKeyId current.bifrostVirtualKeyId
    bifrostValueCiphertext :=
      column read.bifrostValueCiphertext wrote.bifrostValueCiphertext
        current.bifrostValueCiphertext
    bifrostValueKeyVersion :=
      column read.bifrostValueKeyVersion wrote.bifrostValueKeyVersion
        current.bifrostValueKeyVersion
    bifrostConfigHash :=
      column read.bifrostConfigHash wrote.bifrostConfigHash current.bifrostConfigHash
    syncStatus := column read.syncStatus wrote.syncStatus current.syncStatus
    lastSyncErrorCode :=
      column read.lastSyncErrorCode wrote.lastSyncErrorCode current.lastSyncErrorCode
    version := column read.version wrote.version current.version
    updatedAt := column read.updatedAt wrote.updatedAt current.updatedAt }

theorem writeBinding_id (read wrote current : ApiClientBinding) :
    (writeBinding read wrote current).id = current.id := rfl

/-- The UPDATE of a client. -/
def writeClient (read wrote current : ApiClient) : ApiClient :=
  { current with
    status := column read.status wrote.status current.status
    version := column read.version wrote.version current.version
    updatedBy := column read.updatedBy wrote.updatedBy current.updatedBy
    updatedAt := column read.updatedAt wrote.updatedAt current.updatedAt
    disabledAt := column read.disabledAt wrote.disabledAt current.disabledAt }

theorem writeClient_id (read wrote current : ApiClient) :
    (writeClient read wrote current).id = current.id := rfl

/-! ## The database -/

structure Database where
  clients : Table ApiClient ApiClient.id
  bindings : Table ApiClientBinding ApiClientBinding.id
  outbox : OutboxTable

namespace Database

def empty : Database := ⟨.empty, .empty, .empty⟩

/-- `ck_api_client_binding_synced_remote_fields`. -/
def syncedRemoteFields (binding : ApiClientBinding) : Bool :=
  (binding.syncStatus ≠ .active && binding.syncStatus ≠ .disabled) ||
    (binding.zangpuServiceUserId.isSome && binding.bifrostVirtualKeyId.isSome &&
      binding.bifrostValueCiphertext.isSome && binding.bifrostValueKeyVersion.isSome)

/-- `uq_api_client_binding_bifrost_key_id`. -/
def uniqueVirtualKeyId (database : Database) (binding : ApiClientBinding) : Bool :=
  database.bindings.rows.all fun other =>
    other.id = binding.id || binding.bifrostVirtualKeyId.isNone ||
      other.bifrostVirtualKeyId ≠ binding.bifrostVirtualKeyId

/-- Update a binding, if its constraints hold then. -/
def updateBinding (database : Database) (read wrote : ApiClientBinding) : Option Database :=
  match database.bindings.find? read.id with
  | none => none
  | some current =>
      if syncedRemoteFields (writeBinding read wrote current) &&
          database.uniqueVirtualKeyId (writeBinding read wrote current) then
        some { database with
          bindings := database.bindings.modify read.id (writeBinding read wrote)
            (writeBinding_id read wrote) }
      else none

def updateItem (database : Database) (read wrote : ControlOutbox) : Database :=
  { database with
    outbox := database.outbox.modify read.id (writeItem read wrote) (writeItem_id read wrote) }

def updateClient (database : Database) (read wrote : ApiClient) : Database :=
  { database with
    clients := database.clients.modify read.id (writeClient read wrote)
      (writeClient_id read wrote) }

/-- Insert an outbox item under a fresh identifier and a fresh idempotency key. -/
def insertItem (database : Database) (item : ControlOutbox) : Option Database :=
  if database.outbox.find? item.id = none ∧
      ∀ other ∈ database.outbox.rows, other.idempotencyKey ≠ item.idempotencyKey then
    some { database with outbox := database.outbox.insertNew item }
  else none

/-- Insert a new caller's client and binding. -/
def insertCaller (database : Database) (client : ApiClient) (binding : ApiClientBinding) :
    Option Database :=
  if database.clients.find? client.id = none ∧ database.bindings.find? binding.id = none ∧
      (∀ other ∈ database.clients.rows, other.name ≠ client.name) ∧
      ∀ other ∈ database.bindings.rows, other.apiClientId ≠ binding.apiClientId ∧
        other.zangpuServiceUserId ≠ binding.zangpuServiceUserId then
    some { database with
      clients := database.clients.insertNew client
      bindings := database.bindings.insertNew binding }
  else none

end Database

/-! ## Shared state -/

/-- Committed rows, the keys Bifrost holds, and requests in flight that no caller
waits for any more. -/
structure Shared where
  database : Database
  keys : VirtualKeys
  strays : List Request

/-! ## Staging sessions -/

/-- A new caller: what `create_caller` gives to the binding and its outbox item. -/
structure Registration where
  request : AdminCallerCreateRequest
  actorId : String
  idempotencyKey : String
  draw : AdminDraw

/-- The name of the virtual key that belongs to a client. -/
def managedName (clientId : String) : String := "zangpu-" ++ clientId

def managedSpec (fields : AdminCallerCreateFields) (clientId : String) : VirtualKeySpec where
  name := managedName clientId
  description :=
    match fields.description with
    | none => "Managed by Zangpu control plane"
    | some description =>
        if description = "" then "Managed by Zangpu control plane" else description
  provider := fields.provider
  model := fields.model
  providerKeyIds := []

section Staging

variable (sha256 : String → String)

/-- The binding of a new caller, before its work is staged. -/
def createdBinding (fields : AdminCallerCreateFields) (draw : AdminDraw) : ApiClientBinding where
  id := draw.bindingId
  apiClientId := draw.clientId
  zangpuServiceUserId := some fields.serviceUserId
  bifrostVirtualKeyId := none
  bifrostValueCiphertext := none
  bifrostValueKeyVersion := none
  bifrostConfigHash := desiredConfigHash sha256 (managedSpec fields draw.clientId)
  syncStatus := .pending
  lastSyncErrorCode := none
  version := 1
  createdAt := draw.now
  updatedAt := draw.now

/-- The commit of `create_caller`. -/
def registerCaller (registration : Registration) (database : Database) : Option Database :=
  match stageBifrostBindingSync sha256
      (createdBinding sha256 registration.request.fields registration.draw)
      (managedSpec registration.request.fields registration.draw.clientId) .create
      registration.idempotencyKey registration.draw.outboxId registration.draw.now with
  | .error _ => none
  | .ok (binding, item) =>
      if (managedName registration.draw.clientId).toList.length ≤ 128 then
        (database.insertCaller
          (createdClient registration.request.fields registration.actorId registration.draw)
          binding).bind fun inserted => inserted.insertItem item
      else none

/-- An open staging transaction. -/
inductive Session where
  | closed
  | readClient (client : ApiClient)
  | disabling (client : ApiClient) (binding : ApiClientBinding)
  | syncing (binding : ApiClientBinding)
  deriving DecidableEq, Repr

/-- The arguments of a commit that stages work. -/
structure StagingDraw where
  actorId : String
  idempotencyKey : String
  itemId : String
  now : Int
  deriving DecidableEq, Repr

/-- The commit of staged work on a binding: its row, then the new item. -/
def commitStaged (binding : ApiClientBinding)
    (staged : Except ModelError (ApiClientBinding × ControlOutbox)) (database : Database) :
    Option Database :=
  match staged with
  | .error _ => none
  | .ok (wrote, item) =>
      (database.updateBinding binding wrote).bind fun updated => updated.insertItem item

/-- The commit of `disable_caller`. -/
def commitDisable (client : ApiClient) (binding : ApiClientBinding) (draw : StagingDraw)
    (database : Database) : Option Database :=
  commitStaged binding
    (stageBindingDisable binding draw.idempotencyKey draw.itemId draw.now)
    (database.updateClient client (disableClient draw.actorId draw.now client))

/-- The commit of a transaction that calls `stage_bifrost_binding_sync`. -/
def commitSync (binding : ApiClientBinding) (spec : VirtualKeySpec) (action : OutboxAction)
    (draw : StagingDraw) (database : Database) : Option Database :=
  commitStaged binding
    (stageBifrostBindingSync sha256 binding spec action draw.idempotencyKey draw.itemId draw.now)
    database

/-- A step of a staging session. -/
inductive Staging where
  | createCaller (registration : Registration)
  | getClient (clientId : String)
  | getClientBinding
  | getBinding (bindingId : String)
  | disable (draw : StagingDraw)
  | sync (spec : VirtualKeySpec) (action : OutboxAction) (draw : StagingDraw)
  | rollback

def Session.step (database : Database) (session : Session) :
    Staging → Option (Database × Session)
  | .createCaller registration =>
      if session = .closed then
        (registerCaller sha256 registration database).map fun after => (after, .closed)
      else none
  | .getClient clientId =>
      if session = .closed then
        (database.clients.find? clientId).bind fun client =>
          if client.status = .active then some (database, .readClient client) else none
      else none
  | .getClientBinding =>
      match session with
      | .readClient client =>
          (database.bindings.rows.find? fun binding => binding.apiClientId = client.id).map
            fun binding => (database, .disabling client binding)
      | _ => none
  | .getBinding bindingId =>
      if session = .closed then
        (database.bindings.find? bindingId).map fun binding => (database, .syncing binding)
      else none
  | .disable draw =>
      match session with
      | .disabling client binding =>
          (commitDisable client binding draw database).map fun after => (after, .closed)
      | _ => none
  | .sync spec action draw =>
      match session with
      | .syncing binding =>
          (commitSync sha256 binding spec action draw database).map fun after => (after, .closed)
      | _ => none
  | .rollback => some (database, .closed)

end Staging

/-! ## Workers -/

/-- A claimed item. The worker keeps only the identifier; the attempt tells the
claims of one item apart. -/
structure Claim where
  itemId : String
  attempt : Int
  deriving DecidableEq, Repr

/-- The transaction that ends a pass over an item. -/
inductive Finish where
  | complete (result : Result)
  | fail (failure : FailureCode)
  deriving DecidableEq, Repr

/-- Where a worker is with the first claim of its batch. -/
inductive Phase where
  | ready
  | loading (item : ControlOutbox)
  | waiting (loaded : Loaded) (request : Request)
  | finishing (finish : Finish)
  | readItem (finish : Finish) (item : ControlOutbox)
  | readBinding (finish : Finish) (item : ControlOutbox) (binding : Option ApiClientBinding)
  deriving DecidableEq, Repr

structure Worker where
  now : Int
  batch : List Claim
  phase : Phase
  deriving DecidableEq, Repr

def Worker.idle : Worker := ⟨0, [], .ready⟩

/-- The worker turns to the next claim. -/
def Worker.next (worker : Worker) : Worker :=
  { worker with batch := worker.batch.tail, phase := .ready }

/-- The request a worker waits for. -/
def Worker.request? (worker : Worker) : Option Request :=
  match worker.phase with
  | .waiting _ request => some request
  | _ => none

/-- The item a finishing transaction has read. -/
def Worker.opened? (worker : Worker) : Option ControlOutbox :=
  match worker.phase with
  | .readItem _ item | .readBinding _ item _ => some item
  | _ => none

/-- The exception handlers of `_process`. -/
def failed (failure : Failure) : Phase := .finishing (.fail failure.reported)

def Execution.phase (loaded : Loaded) : Execution → Phase
  | .calls request => .waiting loaded request
  | .returns result => .finishing (.complete result)
  | .raises failure => failed failure

theorem opened?_execution (worker : Worker) (loaded : Loaded) (execution : Execution) :
    ({ worker with phase := execution.phase loaded } : Worker).opened? = none := by
  cases execution <;> rfl

theorem execution_phase_ne_readBinding (loaded : Loaded) (execution : Execution) {finish : Finish}
    {item : ControlOutbox} {binding : Option ApiClientBinding} :
    execution.phase loaded ≠ .readBinding finish item binding := by
  cases execution <;> simp [Execution.phase, failed]

def notClaimable : Failure := .model (.valueError "outbox item is not claimable")

def bindingUnavailable : Failure := .model (.valueError "outbox binding is unavailable")

/-- A step of a worker. -/
inductive Work where
  | claim (now : Int) (locked : List String)
  | loadItem
  | loadBinding
  | deliver (minted : Minted)
  | fault (error : BifrostUpstreamError)
  | readItem
  | readBinding
  | commit (nonce : Nat)
  | crash

section Work

variable (keyring : CredentialKeyring) (bounds : WorkerBounds)

/-- The rows of the outbox after a claim of some of them. -/
def claimRows (now : Int) (taken : List String) (outbox : OutboxTable) : OutboxTable :=
  taken.foldl (fun table itemId => table.modify itemId (claimItem now) (claimItem_id now)) outbox

def claimsOf (items : List ControlOutbox) : List Claim :=
  items.map fun item => ⟨item.id, item.attemptCount + 1⟩

/-- The commit of `_complete`. -/
def commitComplete (item wroteItem : ControlOutbox) (binding wrote : ApiClientBinding)
    (database : Database) : Option Database :=
  (database.updateItem item wroteItem).updateBinding binding wrote

/-- The commit of `_fail`. -/
def commitFail (failure : FailureCode) (now : Int) (item : ControlOutbox)
    (binding : Option ApiClientBinding) (database : Database) : Option Database :=
  let updated := database.updateItem item (failItem bounds failure now item)
  match binding with
  | none => some updated
  | some binding => updated.updateBinding binding (failBinding failure now item binding)

def Worker.step (shared : Shared) (worker : Worker) : Work → Option (Shared × Worker)
  | .claim now locked =>
      if worker.batch = [] then
        let items := claimedRows bounds now locked shared.database.outbox
        some (
          { shared with
            database.outbox :=
              claimRows now (items.map ControlOutbox.id) shared.database.outbox },
          ⟨now, claimsOf items, .ready⟩)
      else none
  | .loadItem =>
      match worker.phase, worker.batch with
      | .ready, claim :: _ =>
          match shared.database.outbox.find? claim.itemId with
          | some item =>
              if item.status = .processing ∧ item.target = .bifrost then
                some (shared, { worker with phase := .loading item })
              else some (shared, { worker with phase := failed notClaimable })
          | none => some (shared, { worker with phase := failed notClaimable })
      | _, _ => none
  | .loadBinding =>
      match worker.phase with
      | .loading item =>
          match shared.database.bindings.find? item.aggregateId with
          | some binding =>
              if item.aggregateType = "api_client_binding" then
                let loaded : Loaded := ⟨item.action, binding, item.payload⟩
                some (shared, { worker with phase := (execute loaded).phase loaded })
              else some (shared, { worker with phase := failed bindingUnavailable })
          | none => some (shared, { worker with phase := failed bindingUnavailable })
      | _ => none
  | .deliver minted =>
      match worker.phase with
      | .waiting loaded request =>
          (serve shared.keys minted request).map fun (keys, reply) =>
            ({ shared with keys := keys },
              { worker with phase := (resume loaded request reply).phase loaded })
      | _ => none
  | .fault error =>
      match worker.phase with
      | .waiting loaded request =>
          if error.code = bifrostNotFound then none
          else
            some ({ shared with strays := request :: shared.strays },
              { worker with phase := (resume loaded request (.error error)).phase loaded })
      | _ => none
  | .readItem =>
      match worker.phase, worker.batch with
      | .finishing finish, claim :: _ =>
          match shared.database.outbox.find? claim.itemId with
          | some item =>
              if item.status = .processing then
                some (shared, { worker with phase := .readItem finish item })
              else some (shared, worker.next)
          | none => some (shared, worker.next)
      | _, _ => none
  | .readBinding =>
      match worker.phase with
      | .readItem finish item =>
          match finish, shared.database.bindings.find? item.aggregateId with
          | .complete _, none => some (shared, { worker with phase := failed bindingUnavailable })
          | finish, binding =>
              some (shared, { worker with phase := .readBinding finish item binding })
      | _ => none
  | .commit nonce =>
      match worker.phase with
      | .readBinding (.complete result) item (some binding) =>
          match completeBinding keyring nonce worker.now item result binding with
          | .error error => some (shared, { worker with phase := failed (.model error) })
          | .ok wrote =>
              (commitComplete item (completeItem worker.now item) binding wrote
                shared.database).map fun database =>
                  ({ shared with database := database }, worker.next)
      | .readBinding (.fail failure) item binding =>
          (commitFail bounds failure worker.now item binding shared.database).map
            fun database => ({ shared with database := database }, worker.next)
      | _ => none
  | .crash =>
      some ({ shared with strays := worker.request?.toList ++ shared.strays },
        { worker with batch := [], phase := .ready })

end Work

/-! ## The system -/

/-- The claims made so far are history: the code does not keep them. -/
structure System where
  shared : Shared
  sessions : List Session
  workers : List Worker
  claims : List Claim

namespace System

def start (sessions workers : Nat) : System where
  shared := ⟨.empty, [], []⟩
  sessions := List.replicate sessions .closed
  workers := List.replicate workers .idle
  claims := []

def item? (system : System) (itemId : String) : Option ControlOutbox :=
  system.shared.database.outbox.find? itemId

def binding? (system : System) (bindingId : String) : Option ApiClientBinding :=
  system.shared.database.bindings.find? bindingId

/-- Requests that Bifrost may still serve. -/
def inFlight (system : System) : List Request :=
  system.shared.strays ++ system.workers.filterMap Worker.request?

end System

/-- A step of the system. A stray request is served, or lost. -/
inductive Action where
  | stage (session : Nat) (staging : Staging)
  | work (worker : Nat) (work : Work)
  | serveStray (position : Nat) (minted : Minted)
  | loseStray (position : Nat)

/-- The claims a step adds to the history. -/
def Work.newClaims (worker : Worker) : Work → List Claim
  | .claim _ _ => worker.batch
  | _ => []

/-- What all steps share: the key ring, the bounds of the workers and SHA-256. -/
structure Runtime where
  keyring : CredentialKeyring
  bounds : WorkerBounds
  sha256 : String → String

def Runtime.step (runtime : Runtime) (system : System) : Action → Option System
  | .stage index staging =>
      (system.sessions[index]?).bind fun session =>
        (session.step runtime.sha256 system.shared.database staging).map fun (database, after) =>
          { system with
            shared.database := database
            sessions := system.sessions.set index after }
  | .work index work =>
      (system.workers[index]?).bind fun worker =>
        (worker.step runtime.keyring runtime.bounds system.shared work).map fun (shared, after) =>
          { system with
            shared := shared
            workers := system.workers.set index after
            claims := work.newClaims after ++ system.claims }
  | .serveStray position minted =>
      (system.shared.strays[position]?).bind fun request =>
        (serve system.shared.keys minted request).map fun (keys, _) =>
          { system with
            shared := { system.shared with
              keys := keys
              strays := system.shared.strays.eraseIdx position } }
  | .loseStray position =>
      some { system with
        shared.strays := system.shared.strays.eraseIdx position }
/-! ## A small deployment -/

def smallBounds : WorkerBounds where
  maxAttemptsValid := by decide
  batchSizeValid := by decide
  baseRetryValid := by decide
  maxRetryValid := by decide
  claimTimeoutValid := by decide

def smallRuntime : Runtime := ⟨openKeyring, smallBounds, fun _ => "hash"⟩

def smallFields : AdminCallerCreateFields where
  name := "caller"
  serviceUserId := "user"
  provider := "openai"
  model := "gpt"
  allowedModels := ["gpt"]

/-- One caller, staged at time 100. -/
def smallRegistration : Registration where
  request := ⟨smallFields, smallFields, by decide⟩
  actorId := "admin"
  idempotencyKey := "create"
  draw := { clientId := "c", bindingId := "b", outboxId := "create", auditId := "", now := 100 }

/-! ## What a step can do -/

/-- What one step of a staging session does to the rows. -/
inductive Staged (sha256 : String → String) (database : Database) :
    Session → Staging → Database → Session → Prop where
  | createCaller {registration : Registration} {after : Database}
      (registered : registerCaller sha256 registration database = some after) :
      Staged sha256 database .closed (.createCaller registration) after .closed
  | getClient {client : ApiClient} (found : database.clients.find? client.id = some client)
      (active : client.status = .active) :
      Staged sha256 database .closed (.getClient client.id) database (.readClient client)
  | getClientBinding {client : ApiClient} {binding : ApiClientBinding}
      (stored : binding ∈ database.bindings.rows) (owned : binding.apiClientId = client.id) :
      Staged sha256 database (.readClient client) .getClientBinding database
        (.disabling client binding)
  | getBinding {binding : ApiClientBinding} (stored : binding ∈ database.bindings.rows) :
      Staged sha256 database .closed (.getBinding binding.id) database (.syncing binding)
  | disable {client : ApiClient} {binding : ApiClientBinding} {draw : StagingDraw}
      {after : Database} (committed : commitDisable client binding draw database = some after) :
      Staged sha256 database (.disabling client binding) (.disable draw) after .closed
  | sync {binding : ApiClientBinding} {spec : VirtualKeySpec} {action : OutboxAction}
      {draw : StagingDraw} {after : Database}
      (committed : commitSync sha256 binding spec action draw database = some after) :
      Staged sha256 database (.syncing binding) (.sync spec action draw) after .closed
  | rollback {session : Session} : Staged sha256 database session .rollback database .closed

theorem Session.step_staged {sha256 : String → String} {database after : Database}
    {session moved : Session} {staging : Staging}
    (stepped : session.step sha256 database staging = some (after, moved)) :
    Staged sha256 database session staging after moved := by
  cases staging with
  | createCaller registration =>
      simp only [Session.step] at stepped
      split at stepped
      · rename_i closed
        subst closed
        obtain ⟨registered, found, equal⟩ := Option.map_eq_some_iff.mp stepped
        cases equal
        exact .createCaller found
      · cases stepped
  | getClient clientId =>
      simp only [Session.step] at stepped
      split at stepped
      · rename_i closed
        subst closed
        obtain ⟨client, found, rest⟩ := Option.bind_eq_some_iff.mp stepped
        split at rest
        · rename_i active
          cases rest
          have named := Table.key_of_find? found
          subst named
          exact .getClient found active
        · cases rest
      · cases stepped
  | getClientBinding =>
      simp only [Session.step] at stepped
      split at stepped
      · obtain ⟨binding, found, equal⟩ := Option.map_eq_some_iff.mp stepped
        cases equal
        exact .getClientBinding (List.mem_of_find?_eq_some found)
          (by simpa using List.find?_some found)
      · cases stepped
  | getBinding bindingId =>
      simp only [Session.step] at stepped
      split at stepped
      · rename_i closed
        subst closed
        obtain ⟨binding, found, equal⟩ := Option.map_eq_some_iff.mp stepped
        cases equal
        have named := Table.key_of_find? found
        subst named
        exact .getBinding (Table.mem_of_find? found)
      · cases stepped
  | disable draw =>
      simp only [Session.step] at stepped
      split at stepped
      · obtain ⟨committed, found, equal⟩ := Option.map_eq_some_iff.mp stepped
        cases equal
        exact .disable found
      · cases stepped
  | sync spec action draw =>
      simp only [Session.step] at stepped
      split at stepped
      · obtain ⟨committed, found, equal⟩ := Option.map_eq_some_iff.mp stepped
        cases equal
        exact .sync found
      · cases stepped
  | rollback =>
      simp only [Session.step, Option.some.injEq, Prod.mk.injEq] at stepped
      obtain ⟨rfl, rfl⟩ := stepped
      exact .rollback

/-- What one step of a worker does to the shared state and to the worker. -/
inductive Turn (keyring : CredentialKeyring) (bounds : WorkerBounds) (shared : Shared)
    (worker : Worker) : Work → Shared → Worker → Prop where
  | claim {now : Int} {locked : List String} {items : List ControlOutbox}
      (idle : worker.batch = [])
      (taken : items = claimedRows bounds now locked shared.database.outbox) :
      Turn keyring bounds shared worker (.claim now locked)
        { shared with
          database.outbox := claimRows now (items.map ControlOutbox.id) shared.database.outbox }
        ⟨now, claimsOf items, .ready⟩
  | raise {work : Work} (failure : Failure) (quiet : worker.request? = none)
      (unclaiming : ∀ now locked, work ≠ .claim now locked) :
      Turn keyring bounds shared worker work shared { worker with phase := failed failure }
  | loadItem {claim : Claim} {rest : List Claim} {item : ControlOutbox}
      (at_ : worker.phase = .ready) (first : worker.batch = claim :: rest)
      (found : shared.database.outbox.find? claim.itemId = some item)
      (processing : item.status = .processing) :
      Turn keyring bounds shared worker .loadItem shared { worker with phase := .loading item }
  | loadBinding {item : ControlOutbox} {binding : ApiClientBinding}
      (at_ : worker.phase = .loading item)
      (found : shared.database.bindings.find? item.aggregateId = some binding) :
      Turn keyring bounds shared worker .loadBinding shared
        { worker with
          phase := (execute ⟨item.action, binding, item.payload⟩).phase
            ⟨item.action, binding, item.payload⟩ }
  | deliver {minted : Minted} {loaded : Loaded} {request : Request} {keys : VirtualKeys}
      {reply : Except BifrostUpstreamError request.Reply}
      (at_ : worker.phase = .waiting loaded request)
      (served : serve shared.keys minted request = some (keys, reply)) :
      Turn keyring bounds shared worker (.deliver minted) { shared with keys := keys }
        { worker with phase := (resume loaded request reply).phase loaded }
  | fault {error : BifrostUpstreamError} {loaded : Loaded} {request : Request}
      (at_ : worker.phase = .waiting loaded request) (known : error.code ≠ bifrostNotFound) :
      Turn keyring bounds shared worker (.fault error)
        { shared with strays := request :: shared.strays }
        { worker with phase := (resume loaded request (.error error)).phase loaded }
  | skip {finish : Finish} {claim : Claim} {rest : List Claim}
      (at_ : worker.phase = .finishing finish) (first : worker.batch = claim :: rest)
      (absent : ∀ item, shared.database.outbox.find? claim.itemId = some item →
        item.status ≠ .processing) :
      Turn keyring bounds shared worker .readItem shared worker.next
  | readItem {finish : Finish} {claim : Claim} {rest : List Claim} {item : ControlOutbox}
      (at_ : worker.phase = .finishing finish) (first : worker.batch = claim :: rest)
      (found : shared.database.outbox.find? claim.itemId = some item)
      (processing : item.status = .processing) :
      Turn keyring bounds shared worker .readItem shared
        { worker with phase := .readItem finish item }
  | readBinding {finish : Finish} {item : ControlOutbox}
      (at_ : worker.phase = .readItem finish item)
      (present : ∀ result, finish = .complete result →
        (shared.database.bindings.find? item.aggregateId).isSome = true) :
      Turn keyring bounds shared worker .readBinding shared
        { worker with
          phase := .readBinding finish item (shared.database.bindings.find? item.aggregateId) }
  | complete {nonce : Nat} {result : Result} {item : ControlOutbox}
      {binding wrote : ApiClientBinding} {database : Database}
      (at_ : worker.phase = .readBinding (.complete result) item (some binding))
      (written : completeBinding keyring nonce worker.now item result binding = .ok wrote)
      (committed : commitComplete item (completeItem worker.now item) binding wrote
        shared.database = some database) :
      Turn keyring bounds shared worker (.commit nonce) { shared with database := database }
        worker.next
  | fail {nonce : Nat} {failure : FailureCode} {item : ControlOutbox}
      {binding : Option ApiClientBinding} {database : Database}
      (at_ : worker.phase = .readBinding (.fail failure) item binding)
      (committed : commitFail bounds failure worker.now item binding shared.database =
        some database) :
      Turn keyring bounds shared worker (.commit nonce) { shared with database := database }
        worker.next
  | crash :
      Turn keyring bounds shared worker .crash
        { shared with strays := worker.request?.toList ++ shared.strays }
        { worker with batch := [], phase := .ready }
theorem Worker.step_turn {keyring : CredentialKeyring} {bounds : WorkerBounds}
    {shared after : Shared} {worker moved : Worker} {work : Work}
    (stepped : worker.step keyring bounds shared work = some (after, moved)) :
    Turn keyring bounds shared worker work after moved := by
  have quietAt {phase : Phase} (at_ : worker.phase = phase)
      (calm : ∀ loaded request, phase ≠ .waiting loaded request) : worker.request? = none := by
    unfold Worker.request?
    split
    · rename_i loaded request waiting
      exact absurd (at_.symm.trans waiting) (calm loaded request)
    · rfl
  cases work with
  | claim now locked =>
      simp only [Worker.step] at stepped
      split at stepped
      · rename_i idle
        cases stepped
        exact .claim idle rfl
      · cases stepped
  | loadItem =>
      simp only [Worker.step] at stepped
      split at stepped
      · rename_i claim rest at_ first
        have quiet := quietAt at_ (by simp)
        split at stepped
        · rename_i item found
          split at stepped
          · rename_i claimed
            cases stepped
            exact .loadItem at_ first found claimed.1
          · cases stepped
            exact .raise notClaimable quiet (by simp)
        · cases stepped
          exact .raise notClaimable quiet (by simp)
      · cases stepped
  | loadBinding =>
      simp only [Worker.step] at stepped
      split at stepped
      · rename_i item at_
        have quiet := quietAt at_ (by simp)
        split at stepped
        · rename_i binding found
          split at stepped
          · cases stepped
            exact .loadBinding at_ found
          · cases stepped
            exact .raise bindingUnavailable quiet (by simp)
        · cases stepped
          exact .raise bindingUnavailable quiet (by simp)
      · cases stepped
  | deliver minted =>
      simp only [Worker.step] at stepped
      split at stepped
      · rename_i loaded request at_
        obtain ⟨⟨keys, reply⟩, served, equal⟩ := Option.map_eq_some_iff.mp stepped
        cases equal
        exact .deliver at_ served
      · cases stepped
  | fault error =>
      simp only [Worker.step] at stepped
      split at stepped
      · rename_i loaded request at_
        split at stepped
        · cases stepped
        · rename_i known
          cases stepped
          exact .fault at_ known
      · cases stepped
  | readItem =>
      simp only [Worker.step] at stepped
      split at stepped
      · rename_i finish claim rest at_ first
        split at stepped
        · rename_i item found
          split at stepped
          · rename_i processing
            cases stepped
            exact .readItem at_ first found processing
          · rename_i other
            cases stepped
            refine .skip at_ first ?_
            intro stored foundStored
            rw [found, Option.some.injEq] at foundStored
            exact foundStored ▸ other
        · rename_i missing
          cases stepped
          refine .skip at_ first ?_
          intro stored foundStored
          rw [missing] at foundStored
          cases foundStored
      · cases stepped
  | readBinding =>
      simp only [Worker.step] at stepped
      split at stepped
      · rename_i finish item at_
        split at stepped
        · cases stepped
          exact .raise bindingUnavailable (quietAt at_ (by simp)) (by simp)
        · rename_i present
          cases stepped
          refine .readBinding at_ ?_
          intro result complete
          cases found : shared.database.bindings.find? item.aggregateId with
          | none => exact absurd found (present result complete)
          | some binding => rfl
      · cases stepped
  | commit nonce =>
      simp only [Worker.step] at stepped
      split at stepped
      · rename_i result item binding at_
        split at stepped
        · rename_i error _
          cases stepped
          exact .raise (.model error) (quietAt at_ (by simp)) (by simp)
        · rename_i wrote written
          obtain ⟨database, committed, equal⟩ := Option.map_eq_some_iff.mp stepped
          cases equal
          exact .complete at_ written committed
      · rename_i failure item binding at_
        obtain ⟨database, committed, equal⟩ := Option.map_eq_some_iff.mp stepped
        cases equal
        exact .fail at_ committed
      · cases stepped
  | crash =>
      simp only [Worker.step, Option.some.injEq, Prod.mk.injEq] at stepped
      obtain ⟨rfl, rfl⟩ := stepped
      exact .crash

end Zangpu.Workers.Outbox
