import Zangpu.Foundation.Runs
import Zangpu.Services.Chat.Forwarding
import Zangpu.Services.Chat.Reserving

/-!
The expiry of a credential while its request is admitted.

Owns: the timed environment of one live request, with the wall clock, the changes
others make to the tables and the ways a database call can fail; and when the
credential of a request is unexpired at the time of its reservation.

Does not own: the contention for leases and pools, whose answers are arbitrary here.
-/

set_option autoImplicit false

namespace Zangpu.Services.Chat

open Zangpu.Foundation
open Zangpu.Models
open Zangpu.Services.Quota

/-! ## Calls at an instant -/

/-- Calls to the database. -/
def Call.isStored (call : Call) : Bool := !call.isPassive && !call.isCredit

/-- What surrounds one request: the wall clock in seconds by the instant, what is fixed
about the host at an instant, and whether the database is reached then. -/
structure Surroundings where
  wall : Nat → Int
  hosting : Nat → Hosting
  reachable : Nat → Bool

/-- A call at an instant. A call to the database takes effect, and its answer may be
lost, or it does not reach the database. Other calls have any answer. -/
def Deployment.serve (deployment : Deployment) (surroundings : Surroundings) (now : Nat)
    (world : World) (call : Call) (choice : Option (Except Failure call.Answer)) :
    World × Except Failure call.Answer :=
  let served := hostAnswer deployment (surroundings.hosting now) call world
  match choice with
  | none =>
      if call.isStored && !surroundings.reachable now then (world, .error .database)
      else (served.2, served.1)
  | some answer =>
      if call.isStored then (served.2, .error .database) else (world, answer)

/-- The environment of one request. Others change the world in any way at any time. -/
def Deployment.surround (deployment : Deployment) (surroundings : Surroundings) :
    Setting backend World World where
  shows now clock reading :=
    match clock with
    | .wall => decide (reading = surroundings.wall now)
    | .monotonic | .monotonicNs => true
  serves now world call choice := some (deployment.serve surroundings now world call choice)
  breaks _ failure := failure.isInterrupt
  interrupts := Failure.isInterrupt
  patience _ := none
  changes after _ _ := after

/-- A role at its beginning. -/
def Deployment.session (deployment : Deployment) (role : Role) (now : Nat) (world : World) :
    Session backend World Unit :=
  (⟨now, world, none, []⟩ : Situation backend World).enter (deployment.program role)

/-- The operation of the reservation is new in the world after it. -/
def Creates (arguments : ReserveArguments) (before after : World) : Prop :=
  before.ledger.operations.find? arguments.operationId = none ∧
    (after.ledger.operations.find? arguments.operationId).isSome = true

instance (arguments : ReserveArguments) (before after : World) :
    Decidable (Creates arguments before after) :=
  inferInstanceAs (Decidable (_ ∧ _))

section Expiry

variable {deployment : Deployment} {surroundings : Surroundings}

/-- A new operation was reserved in the world the reservation found. -/
theorem reserved_of_creates {now : Nat} {world after : World} {arguments : ReserveArguments}
    {choice : Option (Except Failure Unit)} {answer : Except Failure Unit}
    (served : (deployment.surround surroundings).serves now world (.reserveQuota arguments)
      choice = some (after, answer)) (creates : Creates arguments world after) :
    ∃ (ids : RowIds) (reserved : OperationReservation × Ledger),
      reserveOperation world.callers world.ledger
        (arguments.request ids.dailyRow ids.lifetimeRow) = .ok reserved := by
  have stays : world ≠ after := by
    rintro rfl
    obtain ⟨absent, present⟩ := creates
    rw [absent] at present
    cases present
  have changed : (commit deployment (surroundings.hosting now) (.reserveQuota arguments)
      world).2 = after := by
    have effect := congrArg Prod.fst (Option.some.inj served)
    unfold Deployment.serve at effect
    dsimp only at effect
    cases choice with
    | none =>
        dsimp only at effect
        split at effect
        · exact absurd effect stays
        · exact effect
    | some answer => exact effect
  unfold commit at changed
  split at changed
  · rename_i result
    obtain ⟨reserved, committed, _⟩ := map_ok_iff.mp (Option.some.inj result)
    exact ⟨_, reserved, committed⟩
  · exact absurd changed stays
  · exact absurd changed stays

/-- An admitted reservation found its credential, unexpired at the time it was given. -/
theorem credential_of_admitted {request : ReserveRequest} {callers : Callers} {client : ApiClient}
    (admitted : request.admittedClient callers = .ok client) :
    ∃ credential, callers.credentials.find? request.credentialId = some credential ∧
      ∀ expiry ∈ credential.expiresAt, request.now < expiry := by
  unfold ReserveRequest.admittedClient at admitted
  split at admitted
  · rename_i found credential _ stored
    simp only [bind_ok_iff, require_ok_iff] at admitted
    obtain ⟨_, _, _, _, _, _, _, unexpired, _⟩ := admitted
    exact ⟨credential, stored, unexpired⟩
  · cases admitted

/-- A request that has not read its clock yet, or reserves at the time it began. -/
inductive Begun (surroundings : Surroundings) (chat : ChatRequest) (startedAt : Int) :
    Session backend World Unit → Prop where
  | reading {situation : Situation backend World} {next : Int → Program backend Unit}
      (idle : situation.task = none) (settled : situation.orphans = [])
      (shown : surroundings.wall situation.now = startedAt)
      (keeps : ∀ reading, Keeps (.calls (Call.reservesAt chat reading)) (next reading)) :
      Begun surroundings chat startedAt (situation.enter (.observe .wall next))
  | reserving {session : Session backend World Unit}
      (behaves : Behaves (Call.reservesAt chat startedAt) session) :
      Begun surroundings chat startedAt session

variable {role : Role} {chat : ChatRequest} {start : Nat} {world : World}

theorem begun_session (live : chat ∈ role.chat?) :
    Begun surroundings chat (surroundings.wall start) (deployment.session role start world) := by
  have punctual := @program_punctual deployment role chat live
  unfold Deployment.session
  generalize deployment.program role = code at punctual ⊢
  unfold IsPunctual at punctual
  split at punctual
  · exact .reserving (Behaves.enter True.intro rfl rfl)
  · exact .reading rfl rfl rfl punctual
  · exact punctual.elim

theorem begun_advance {startedAt : Int} {before after : Session backend World Unit}
    {act : Act backend World} (begun : Begun surroundings chat startedAt before)
    (advances : (deployment.surround surroundings).advance before act = some after) :
    Begun surroundings chat startedAt after := by
  cases begun with
  | @reading situation next idle settled shown keeps =>
      unfold Setting.advance at advances
      split at advances
      · rename_i proceeds
        cases advances
        cases proceeds_of_proceed proceeds with
        | @observes _ _ reading shows =>
            have read : reading = startedAt := (of_decide_eq_true shows).trans shown
            exact .reserving (Behaves.enter (read ▸ keeps reading) idle settled)
      · cases advances
  | reserving behaves => exact .reserving (behaves.advance advances)

/-- Every reservation that creates an operation is for a credential unexpired at the
time its request began; it is unexpired at its own time exactly when the credential
has not expired since. -/
theorem reserved_unexpired_iff {session after : Session backend World Unit}
    {act : Act backend World} {arguments : ReserveArguments} (live : chat ∈ role.chat?)
    (run : Reached (deployment.surround surroundings).advance (fun _ _ => True)
      (deployment.session role start world) session)
    (advances : (deployment.surround surroundings).advance session act = some after)
    (reserves : act.served? = some (.reserveQuota arguments))
    (creates : Creates arguments session.world after.world) :
    ∃ credential,
      session.world.callers.credentials.find? chat.caller.credentialId = some credential ∧
      ((∀ expiry ∈ credential.expiresAt, surroundings.wall session.now < expiry) ↔
        ∀ expiry ∈ credential.expiresAt, ¬(surroundings.wall start < expiry ∧
          expiry ≤ surroundings.wall session.now)) := by
  have begun : Begun surroundings chat (surroundings.wall start) session :=
    Reached.invariant (begun_session live) (fun _ _ _ begun _ advances =>
      begun_advance begun advances) run
  cases begun with
  | reading =>
      unfold Setting.advance at advances
      split at advances
      · rename_i proceeds
        cases proceeds_of_proceed proceeds with
        | observes => cases reserves
      · cases advances
  | reserving behaves =>
      obtain ⟨⟨_, ofCaller, atStart⟩, choice, answer, served⟩ := behaves.served advances reserves
      obtain ⟨ids, reserved, committed⟩ := reserved_of_creates served creates
      obtain ⟨client, rows, admitted, _⟩ := reserveOperation_ok committed
      obtain ⟨credential, found, unexpired⟩ := credential_of_admitted admitted.caller
      rw [show (arguments.request ids.dailyRow ids.lifetimeRow).credentialId =
        chat.caller.credentialId from ofCaller] at found
      refine ⟨credential, found, forall₂_congr fun expiry expires => ?_⟩
      have later : surroundings.wall start < expiry := by
        rw [← atStart]
        exact unexpired expiry expires
      omega

end Expiry

/-! ### A wait in the queue -/

/-- The wall clock of a machine whose clock is exact, and the sample host. -/
def exactSurroundings : Surroundings := ⟨fun now => now / 1000, fun _ => sampleHosting, fun _ => true⟩

/-- The sample world with an expiry of its credential. -/
def expiringWorld (expiresAt : Int) : World :=
  { sampleWorld sampleUser with
    callers := { (sampleWorld sampleUser).callers with
      credentials := Table.empty.insertNew { sampleCredential with expiresAt := some expiresAt } } }

/-- The answer of the pool that puts a request in its queue. -/
def queuedDecision : ModelPoolDecision := ⟨.queued, 1, 0, 4, 3, 30000, 0⟩

/-- The next act of a request that is queued when it asks the pool first, at the given
instant, sleeps as long as it means to, and is answered at once otherwise. -/
def queuedStrategy (asked : Nat) (session : Session backend World Unit) : Act backend World :=
  match session.code, session.flight, session.task with
  | .observe clock _, _, _ =>
      .observes (match clock with | .wall => session.now / 1000 | _ => session.now)
  | .await call _, .unsent, _ => .sends call
  | .await (.admitOrEnqueue arguments) _, .sent, _ =>
      .executes (.admitOrEnqueue arguments)
        (if session.now = asked then some (.ok queuedDecision) else none)
  | .await (.queueSleep milliseconds) _, .sent, _ =>
      if session.now < session.since + milliseconds.toNat then .elapses milliseconds.toNat
      else .executes (.queueSleep milliseconds) none
  | .await call _, .sent, _ => .executes call none
  | .await call _, .executed _ _, _ => .replies call
  | .spawn call _, _, _ => .spawns call
  | .wait call _ _, _, some ⟨_, none⟩ => .finishes call none
  | .wait call _ _, _, _ => .joins call
  | _, _, _ => .elapses 0

/-- The sample request from the given instant, in a world where its credential expires. -/
def queuedRun (expiresAt : Int) (start count : Nat) : Session backend World Unit :=
  follow (sampleDeployment.surround exactSurroundings).advance
    (sampleDeployment.session (.execute uncappedChat) start (expiringWorld expiresAt))
    (queuedStrategy start) count

theorem queuedRun_reached (expiresAt : Int) (start count : Nat) :
    Reached (sampleDeployment.surround exactSurroundings).advance (fun _ _ => True)
      (sampleDeployment.session (.execute uncappedChat) start (expiringWorld expiresAt))
      (queuedRun expiresAt start count) :=
  follow_reached _ _ _ _

/-- The next act of the run reserves a new operation. -/
def reservesNext (expiresAt : Int) (start count : Nat) : Bool :=
  let session := queuedRun expiresAt start count
  let act := queuedStrategy start session
  match act.served?, (sampleDeployment.surround exactSurroundings).advance session act with
  | some (.reserveQuota arguments), some after => Creates arguments session.world after.world
  | _, _ => false

theorem exists_reserved {expiresAt : Int} {start count : Nat}
    (reserves : reservesNext expiresAt start count = true) :
    ∃ act after arguments,
      (sampleDeployment.surround exactSurroundings).advance (queuedRun expiresAt start count) act =
        some after ∧
      act.served? = some (.reserveQuota arguments) ∧
      Creates arguments (queuedRun expiresAt start count).world after.world := by
  unfold reservesNext at reserves
  dsimp only at reserves
  split at reserves
  · rename_i arguments after served advances
    exact ⟨_, after, arguments, advances, served, of_decide_eq_true reserves⟩
  · cases reserves

theorem reserved_unexpired_iff_sample :
    ∃ (session after : Session backend World Unit) (act : Act backend World)
      (arguments : ReserveArguments) (credential : ApiClientCredential),
      Reached (sampleDeployment.surround exactSurroundings).advance (fun _ _ => True)
        (sampleDeployment.session (.execute uncappedChat) 86400950 (expiringWorld 86402)) session ∧
      (sampleDeployment.surround exactSurroundings).advance session act = some after ∧
      Creates arguments session.world after.world ∧
      session.world.callers.credentials.find? "credential" = some credential ∧
      ∀ expiry ∈ credential.expiresAt, exactSurroundings.wall session.now < expiry := by
  have outcome : reservesNext 86402 86400950 30 = true ∧
      (queuedRun 86402 86400950 30).now = 86401050 ∧
      (queuedRun 86402 86400950 30).world.callers.credentials.find? "credential" =
        some { sampleCredential with expiresAt := some 86402 } := by decide +kernel
  obtain ⟨reserves, now, stored⟩ := outcome
  obtain ⟨act, after, arguments, advances, served, creates⟩ := exists_reserved reserves
  obtain ⟨credential, found, unexpired⟩ := reserved_unexpired_iff (Option.mem_some_self uncappedChat)
    (queuedRun_reached 86402 86400950 30) advances served creates
  have same : credential = { sampleCredential with expiresAt := some 86402 } :=
    Option.some.inj (found.symm.trans stored)
  refine ⟨_, after, act, arguments, credential, queuedRun_reached 86402 86400950 30, advances,
    creates, found, unexpired.mpr ?_⟩
  rintro expiry expires ⟨_, passed⟩
  rw [same] at expires
  cases expires
  rw [now] at passed
  exact absurd passed (by decide)

/-- A credential that expires while its request waits in the queue for a tenth of a
second is expired when the call is reserved. -/
theorem reservation_after_expiry :
    ¬∀ (session after : Session backend World Unit) (act : Act backend World)
      (arguments : ReserveArguments) (credential : ApiClientCredential) (expiry : Int),
      Reached (sampleDeployment.surround exactSurroundings).advance (fun _ _ => True)
        (sampleDeployment.session (.execute uncappedChat) 86400950 (expiringWorld 86401)) session →
      (sampleDeployment.surround exactSurroundings).advance session act = some after →
      act.served? = some (.reserveQuota arguments) →
      Creates arguments session.world after.world →
      session.world.callers.credentials.find? "credential" = some credential →
      credential.expiresAt = some expiry → exactSurroundings.wall session.now < expiry := by
  intro unexpired
  have outcome : reservesNext 86401 86400950 30 = true ∧
      (queuedRun 86401 86400950 30).now = 86401050 ∧
      (queuedRun 86401 86400950 30).world.callers.credentials.find? "credential" =
        some { sampleCredential with expiresAt := some 86401 } := by decide +kernel
  obtain ⟨reserves, now, stored⟩ := outcome
  obtain ⟨act, after, arguments, advances, served, creates⟩ := exists_reserved reserves
  have later := unexpired _ after act arguments _ 86401 (queuedRun_reached 86401 86400950 30)
    advances served creates stored rfl
  rw [now] at later
  exact absurd later (by decide)

end Zangpu.Services.Chat
