import Zangpu.Services.Admin

/-!
Credential rotation over any history of administrator calls.

Owns: the serial runs of the five caller transactions, what a successful rotation
leaves in the credential table, and the refutation of "one usable secret after a
rotation".

Does not own: the transactions themselves.
-/

set_option autoImplicit false

namespace Zangpu.Services.Admin

open Zangpu.Foundation
open Zangpu.Models
open Zangpu.Integrations.Bifrost

/-! ## Serial runs -/

/-- One administrator call with its arguments and its random draws. -/
inductive AdminCall where
  | createCaller (request : AdminCallerCreateRequest) (actorId supplied : String)
      (draw : AdminDraw)
  | rotateCredential (clientId actorId : String) (draw : AdminDraw)
  | revokeCredential (clientId credentialId actorId : String) (draw : AdminDraw)
  | updateCaller (clientId : String) (expectedVersion : Int) (patch : AdminCallerPatch)
      (actorId : String) (draw : AdminDraw)
  | disableCaller (clientId actorId supplied : String) (draw : AdminDraw)

/-- The committed database, or the unchanged one when the transaction raises. -/
def committed {α : Type} (database : AdminDatabase) :
    Except AdminError (AdminDatabase × α) → AdminDatabase
  | .ok (after, _) => after
  | .error _ => database

def AdminCall.apply (runtime : AdminRuntime) (database : AdminDatabase) :
    AdminCall → AdminDatabase
  | .createCaller request actorId supplied draw =>
      committed database (Admin.createCaller runtime request actorId supplied draw database)
  | .rotateCredential clientId actorId draw =>
      committed database (Admin.rotateCredential runtime clientId actorId draw database)
  | .revokeCredential clientId credentialId actorId draw =>
      committed database (Admin.revokeCredential clientId credentialId actorId draw database)
  | .updateCaller clientId expectedVersion patch actorId draw =>
      committed database (Admin.updateCaller clientId expectedVersion patch actorId draw database)
  | .disableCaller clientId actorId supplied draw =>
      committed database (Admin.disableCaller runtime clientId actorId supplied draw database)

/-- The database after a serial history of calls. -/
def history (runtime : AdminRuntime) (calls : List AdminCall) : AdminDatabase :=
  calls.foldl (AdminCall.apply runtime) .empty

/-! ## What a rotation leaves -/

/-- A rotation leaves exactly one usable secret: the issued credential is the
only active one, its active predecessors are revoked in its favour, and nothing
replaces itself. -/
structure LeavesOneUsableSecret (before after : AdminDatabase) (clientId : String)
    (issued : ApiClientCredential) : Prop where
  issuedActive : ∃ credential ∈ after.callers.credentials.rows,
    credential.id = issued.id ∧ credential.status = .active
  onlyActive : ∀ credential ∈ after.callers.credentials.rows,
    credential.apiClientId = clientId → credential.status = .active →
      credential.id = issued.id
  predecessorsReplaced : ∀ credential ∈ before.callers.credentials.rows,
    credential.apiClientId = clientId → credential.status = .active →
      ∃ replaced ∈ after.callers.credentials.rows, replaced.id = credential.id ∧
        replaced.status = .revoked ∧ replaced.replacedById = some issued.id
  noneReplacesItself : ∀ credential ∈ after.callers.credentials.rows,
    credential.replacedById ≠ some credential.id

/-- The loop changes exactly the rows whose loaded copy is active. -/
theorem changeActive_rows (change : ApiClientCredential → ApiClientCredential)
    (keeps : ∀ credential, (change credential).id = credential.id)
    (settled : ∀ credential, change (change credential) = change credential)
    (loaded : List ApiClientCredential) (session : Session) :
    (changeActive change keeps loaded session).database.callers.credentials.rows =
      session.database.callers.credentials.rows.map fun row =>
        if ∃ credential ∈ loaded, credential.status = .active ∧ credential.id = row.id then
          change row
        else row := by
  induction loaded generalizing session with
  | nil => simp [changeActive]
  | cons credential rest inductionHypothesis =>
      rw [changeActive, inductionHypothesis]
      by_cases active : credential.status = .active
      · rw [if_pos active]
        show ((session.database.callers.credentials.modify credential.id change keeps).rows.map
          _) = _
        rw [Table.modify, List.map_map]
        apply List.map_congr_left
        intro row _
        by_cases same : row.id = credential.id
        · have later : (change row).id = credential.id := by rw [keeps, same]
          simp [Function.comp_apply, same, later, active, settled]
        · have other : credential.id ≠ row.id := fun equal => same equal.symm
          simp [Function.comp_apply, same, other]
      · simp [active]

/-- Over the loaded rows of one client the loop changes that client's active rows. -/
theorem changeActive_loaded (change : ApiClientCredential → ApiClientCredential)
    (keeps : ∀ credential, (change credential).id = credential.id)
    (settled : ∀ credential, change (change credential) = change credential)
    (clientId : String) (session : Session) :
    (changeActive change keeps
        (session.database.callers.credentials.rows.filter
          fun credential => credential.apiClientId = clientId)
        session).database.callers.credentials.rows =
      session.database.callers.credentials.rows.map fun row =>
        if row.apiClientId = clientId ∧ row.status = .active then change row else row := by
  rw [changeActive_rows change keeps settled]
  apply List.map_congr_left
  intro row member
  have itself :
      (∃ credential ∈ session.database.callers.credentials.rows.filter
          (fun credential => credential.apiClientId = clientId),
        credential.status = .active ∧ credential.id = row.id) ↔
        row.apiClientId = clientId ∧ row.status = .active := by
    constructor
    · rintro ⟨credential, loaded, active, sameId⟩
      obtain ⟨stored, own⟩ := List.mem_filter.mp loaded
      have same : credential = row := Table.eq_of_key_eq stored member sameId
      rw [← same]
      exact ⟨of_decide_eq_true own, active⟩
    · rintro ⟨own, active⟩
      exact ⟨row, List.mem_filter.mpr ⟨member, decide_eq_true own⟩, active, rfl⟩
  simp only [itself]

theorem changeClient_credentials {session changed : Session} {clientId : String}
    {change : ApiClient → ApiClient} {keeps : ∀ client, (change client).id = client.id}
    (done : session.changeClient clientId change keeps = .ok changed) :
    changed.database.callers.credentials = session.database.callers.credentials := by
  simp only [Session.changeClient] at done
  split at done
  · simp only [pure, Except.pure, Except.ok.injEq] at done
    rw [← done]
  · simp only [bind_ok_iff, pure, Except.pure, Except.ok.injEq] at done
    obtain ⟨_, _, rfl⟩ := done
    rfl

/-- A flushed credential is a new row behind the stored ones. -/
theorem flush_credential {database : AdminDatabase} {issued : ApiClientCredential}
    {flushed : Session}
    (done : ((Session.begin database).add (.credential issued)).flush = .ok flushed) :
    database.callers.credentials.find? issued.id = none ∧
      flushed.database.callers.credentials =
        database.callers.credentials.insertNew issued := by
  simp only [Session.flush, Session.add, Session.begin, List.nil_append, List.foldlM_cons,
    List.foldlM_nil, AdminDatabase.insert, checkCredentialRow, bind_ok_iff, require_ok_iff,
    exists_const, pure, Except.pure, Except.ok.injEq] at done
  obtain ⟨_, ⟨_, ⟨⟨_, fresh, _⟩, rfl⟩, rfl⟩, rfl⟩ := done
  exact ⟨fresh, rfl⟩

theorem flush_audit {session flushed : Session} {audit : ApiClientAdminAudit}
    (nothingAdded : session.added = [])
    (done : (session.add (.audit audit)).flush = .ok flushed) :
    flushed.database.callers = session.database.callers := by
  simp only [Session.flush, Session.add, nothingAdded, List.nil_append, List.foldlM_cons,
    List.foldlM_nil, AdminDatabase.insert, bind_ok_iff, require_ok_iff, exists_const, pure,
    Except.pure, Except.ok.injEq] at done
  obtain ⟨_, ⟨_, ⟨_, _, _, _, rfl⟩, rfl⟩, rfl⟩ := done
  rfl

theorem createProtectedCredential_ok {masterKeyId apiClientId createdBy : String}
    {draw : CredentialDraw} {now : Int} {fresh : ApiClientCredential}
    (created :
      createProtectedCredential masterKeyId apiClientId createdBy draw now = .ok fresh) :
    fresh.id = draw.credentialId ∧ fresh.apiClientId = apiClientId ∧ fresh.status = .active := by
  simp only [createProtectedCredential, bind_ok_iff, pure, Except.pure, Except.ok.injEq] at created
  obtain ⟨_, _, rfl⟩ := created
  exact ⟨rfl, rfl, rfl⟩

theorem clientCredentials_ok {session flushed : Session} {clientId : String}
    {credentials : List ApiClientCredential}
    (loaded : session.clientCredentials clientId = .ok (flushed, credentials)) :
    session.flush = .ok flushed ∧
      credentials = flushed.database.callers.credentials.rows.filter
        (fun credential => credential.apiClientId = clientId) := by
  simp only [Session.clientCredentials, bind_ok_iff, pure, Except.pure, Except.ok.injEq,
    Prod.mk.injEq] at loaded
  obtain ⟨other, flush, rfl, rfl⟩ := loaded
  exact ⟨flush, rfl⟩

theorem flush_added {session flushed : Session} (done : session.flush = .ok flushed) :
    flushed.added = [] := by
  simp only [Session.flush, bind_ok_iff, pure, Except.pure, Except.ok.injEq] at done
  obtain ⟨_, _, rfl⟩ := done
  rfl

theorem changeActive_added (change : ApiClientCredential → ApiClientCredential)
    (keeps : ∀ credential, (change credential).id = credential.id)
    (loaded : List ApiClientCredential) (session : Session) :
    (changeActive change keeps loaded session).added = session.added := by
  induction loaded generalizing session with
  | nil => rfl
  | cons credential rest inductionHypothesis =>
      rw [changeActive, inductionHypothesis]
      split <;> rfl

theorem changeClient_added {session changed : Session} {clientId : String}
    {change : ApiClient → ApiClient} {keeps : ∀ client, (change client).id = client.id}
    (done : session.changeClient clientId change keeps = .ok changed) :
    changed.added = session.added := by
  simp only [Session.changeClient] at done
  split at done
  · simp only [pure, Except.pure, Except.ok.injEq] at done
    rw [← done]
  · simp only [bind_ok_iff, pure, Except.pure, Except.ok.injEq] at done
    obtain ⟨_, _, rfl⟩ := done
    rfl

/-- The credentials an issued rotation of `clientId` revokes: every active one,
the row just inserted included. -/
def rotatedRow (clientId actorId : String) (now : Int) (replacement : String)
    (row : ApiClientCredential) : ApiClientCredential :=
  if row.apiClientId = clientId ∧ row.status = .active then
    replaceRow actorId now replacement row
  else row

/-- **What a successful rotation does.** The new row is inserted active, and then
every active row of the caller is revoked in favour of the new one. -/
theorem rotateCredential_ok {runtime : AdminRuntime} {clientId actorId : String}
    {draw : AdminDraw} {before after : AdminDatabase} {issued : ApiClientCredential}
    (rotated : rotateCredential runtime clientId actorId draw before = .ok (after, issued)) :
    ∃ fresh : ApiClientCredential,
      fresh.id = draw.credential.credentialId ∧ fresh.apiClientId = clientId ∧
      fresh.status = .active ∧
      before.callers.credentials.find? fresh.id = none ∧
      after.callers.credentials.rows =
        (before.callers.credentials.rows ++ [fresh]).map
          (rotatedRow clientId actorId draw.now fresh.id) ∧
      issued = rotatedRow clientId actorId draw.now fresh.id fresh := by
  unfold rotateCredential at rotated
  simp only [Session.begin] at rotated
  split at rotated
  · cases rotated
  · rename_i client foundClient
    simp only [bind_ok_iff, require_ok_iff, exists_const, fromModel_ok_iff] at rotated
    obtain ⟨_, fresh, created, ⟨flushed, credentials⟩, loaded, session, changed, audit, _,
      closed, audited, rotated⟩ := rotated
    have sameClient : client.id = clientId := Table.key_of_find? foundClient
    rw [sameClient] at created loaded
    obtain ⟨freshId, freshClient, freshActive⟩ := createProtectedCredential_ok created
    obtain ⟨flush, rfl⟩ := clientCredentials_ok loaded
    obtain ⟨absent, inserted⟩ := flush_credential flush
    have stored : flushed.database.callers.credentials.rows =
        before.callers.credentials.rows ++ [fresh] := by
      rw [inserted, Table.insertNew_rows absent]
    have nothingAdded : session.added = [] := by
      rw [changeClient_added changed, changeActive_added, flush_added flush]
    have rows : closed.database.callers.credentials.rows =
        (before.callers.credentials.rows ++ [fresh]).map
          (rotatedRow clientId actorId draw.now fresh.id) := by
      rw [flush_audit nothingAdded audited, changeClient_credentials changed,
        changeActive_loaded (replaceRow actorId draw.now fresh.id) _ (fun _ => rfl), stored]
      rfl
    have present : rotatedRow clientId actorId draw.now fresh.id fresh ∈
        closed.database.callers.credentials.rows := by
      rw [rows]
      exact List.mem_map_of_mem (List.mem_append_right _ (List.mem_singleton_self fresh))
    have summary := Table.find?_of_mem present
    rw [show (rotatedRow clientId actorId draw.now fresh.id fresh).id = fresh.id by
      unfold rotatedRow; split <;> rfl] at summary
    rw [summary] at rotated
    simp only [pure, Except.pure, Except.ok.injEq, Prod.mk.injEq] at rotated
    obtain ⟨rfl, rfl⟩ := rotated
    exact ⟨fresh, freshId, freshClient, freshActive, absent, rows, rfl⟩

/-- After a rotation commits the caller has no active credential, and the issued
one is its own replacement. -/
theorem rotateCredential_revokes_issued {runtime : AdminRuntime} {clientId actorId : String}
    {draw : AdminDraw} {before after : AdminDatabase} {issued : ApiClientCredential}
    (rotated : rotateCredential runtime clientId actorId draw before = .ok (after, issued)) :
    issued ∈ after.callers.credentials.rows ∧ issued.status = .revoked ∧
      issued.replacedById = some issued.id ∧
      ∀ credential ∈ after.callers.credentials.rows,
        credential.apiClientId = clientId → credential.status = .revoked := by
  obtain ⟨fresh, _, own, active, _, rows, rfl⟩ := rotateCredential_ok rotated
  have issuedRow : rotatedRow clientId actorId draw.now fresh.id fresh =
      replaceRow actorId draw.now fresh.id fresh := if_pos ⟨own, active⟩
  rw [rows, issuedRow]
  refine ⟨?_, rfl, rfl, ?_⟩
  · rw [← issuedRow]
    exact List.mem_map_of_mem (List.mem_append_right _ (List.mem_singleton_self fresh))
  · intro credential member ownCredential
    obtain ⟨row, _, rfl⟩ := List.mem_map.mp member
    by_cases changed : row.apiClientId = clientId ∧ row.status = .active
    · rw [rotatedRow, if_pos changed]
      rfl
    · rw [rotatedRow, if_neg changed] at ownCredential ⊢
      cases status : row.status with
      | active => exact absurd ⟨ownCredential, status⟩ changed
      | revoked => rfl

/-! ## One caller, created and rotated -/

def sampleRuntime : AdminRuntime := ⟨"key-1", fun text => text⟩

def sampleFields : AdminCallerCreateFields where
  name := "caller"
  serviceUserId := "user"
  provider := "openai"
  model := "gpt"
  allowedModels := ["gpt"]

def sampleCreation : AdminCall :=
  .createCaller ⟨sampleFields, sampleFields, by decide +kernel⟩ "admin" "create-1"
    { clientId := "c", credential := ⟨"k1", "zpk_first"⟩, bindingId := "b",
      outboxId := "o", auditId := "a1", now := 100 }

def sampleRotation : AdminDraw where
  credential := ⟨"k2", "zpk_second"⟩
  auditId := "a2"
  now := 200

theorem sampleRotation_succeeds :
    ∃ after issued, rotateCredential sampleRuntime "c" "admin" sampleRotation
      (history sampleRuntime [sampleCreation]) = .ok (after, issued) := by
  have evaluated : (rotateCredential sampleRuntime "c" "admin" sampleRotation
      (history sampleRuntime [sampleCreation])).isOk = true := by decide +kernel
  cases outcome : rotateCredential sampleRuntime "c" "admin" sampleRotation
      (history sampleRuntime [sampleCreation]) with
  | error error =>
      rw [outcome] at evaluated
      cases evaluated
  | ok result => exact ⟨result.1, result.2, rfl⟩

/-! ## The refutation -/

/-- **Rotation never leaves one usable secret.** Whatever the history, a
successful rotation revokes the credential it hands out. -/
theorem rotation_never_leaves_one_usable_secret (runtime : AdminRuntime)
    (calls : List AdminCall) (clientId actorId : String) (draw : AdminDraw)
    (after : AdminDatabase) (issued : ApiClientCredential)
    (rotated : rotateCredential runtime clientId actorId draw (history runtime calls) =
      .ok (after, issued)) :
    ¬ LeavesOneUsableSecret (history runtime calls) after clientId issued := by
  intro usable
  obtain ⟨member, revoked, _, _⟩ := rotateCredential_revokes_issued rotated
  obtain ⟨credential, stored, sameId, active⟩ := usable.issuedActive
  have same : credential = issued := Table.eq_of_key_eq stored member sameId
  rw [same, revoked] at active
  cases active

/-- A freshly created caller, rotated once, is left without a usable secret. -/
theorem rotation_never_leaves_one_usable_secret_sample :
    ∃ after issued, rotateCredential sampleRuntime "c" "admin" sampleRotation
        (history sampleRuntime [sampleCreation]) = .ok (after, issued) ∧
      ¬ LeavesOneUsableSecret (history sampleRuntime [sampleCreation]) after "c" issued := by
  obtain ⟨after, issued, rotated⟩ := sampleRotation_succeeds
  exact ⟨after, issued, rotated,
    rotation_never_leaves_one_usable_secret sampleRuntime [sampleCreation] "c" "admin"
      sampleRotation after issued rotated⟩

/-- Rotations do not, in general, leave one usable secret: the first rotation of
a new caller hands out a credential that is already revoked. -/
theorem rotation_can_revoke_issued_secret :
    ¬ ∀ (runtime : AdminRuntime) (calls : List AdminCall) (clientId actorId : String)
        (draw : AdminDraw) (after : AdminDatabase) (issued : ApiClientCredential),
      rotateCredential runtime clientId actorId draw (history runtime calls) =
          .ok (after, issued) →
        LeavesOneUsableSecret (history runtime calls) after clientId issued := by
  intro always
  obtain ⟨after, issued, rotated⟩ := sampleRotation_succeeds
  have usable := always sampleRuntime [sampleCreation] "c" "admin" sampleRotation after issued
    rotated
  obtain ⟨member, revoked, itself, _⟩ := rotateCredential_revokes_issued rotated
  exact usable.noneReplacesItself issued member itself

end Zangpu.Services.Admin
