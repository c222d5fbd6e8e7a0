import Zangpu.Integrations.OpenWebUI.Client
import Zangpu.Services.Quota.Abandonment
import Zangpu.Workers.Recovery.Fairness

/-!
What the recovery worker makes of a not-found answer.

Owns: `_process` of a stale operation whose status request fails; the terminal
record of an operation without credit; and the exact not-found answers upon which
the operation is abandoned and its reservation released.

Does not own: failures of the database, which a later pass repeats.
-/

set_option autoImplicit false

namespace Zangpu.Workers.Recovery

open Zangpu.Foundation
open Zangpu.Models
open Zangpu.Integrations.OpenWebUI
open Zangpu.Services.Streaming
open Zangpu.Services.Quota
open Zangpu.Services.Chat

/-! ## Failed status requests -/

section Attempts

variable {Remote : Type} {surroundings : Surroundings Remote} {candidate : RecoveryCandidate}
  {now : Int} {scene : Scene Remote} {failure : Failure}

/-- The scene after the status request of a candidate. -/
def Surroundings.asked (surroundings : Surroundings Remote) (candidate : RecoveryCandidate)
    (scene : Scene Remote) : Scene Remote :=
  surroundings.replied (.creditStatus candidate.operationId candidate.serviceUserId) scene

/-- A status request that fails: the operation is finalized without credit, or the
failure is raised. -/
theorem attempt_of_error
    (replies : (surroundings.reply (.creditStatus candidate.operationId candidate.serviceUserId)
      scene.remote).1 = .error failure) :
    (attempt surroundings now candidate scene).2 =
      if isWithoutCredit candidate failure then
        (surroundings.answer (.finalizeRecovered candidate.operationId none
          (unknownFields candidate now)) (surroundings.asked candidate scene)).2
      else surroundings.asked candidate scene := by
  have executes : Executes surroundings.responder (process candidate now) .initial scene
      fun _ _ reached => reached =
        if isWithoutCredit candidate failure then
          (surroundings.answer (.finalizeRecovered candidate.operationId none
            (unknownFields candidate now)) (surroundings.asked candidate scene)).2
        else surroundings.asked candidate scene := by
    unfold process
    apply Executes.bind
    apply Executes.tryCatch
    apply Executes.bind
    apply Executes.await
    rw [show surroundings.responder.answer
        (.creditStatus candidate.operationId candidate.serviceUserId) scene =
          ((surroundings.reply (.creditStatus candidate.operationId candidate.serviceUserId)
            scene.remote).1, surroundings.asked candidate scene) from rfl, replies]
    dsimp only
    split
    · apply Executes.bind
      apply Executes.perform
      cases (surroundings.responder.answer (.finalizeRecovered candidate.operationId none
        (unknownFields candidate now)) (surroundings.asked candidate scene)).1 with
      | ok => exact Executes.pure (Executes.pure rfl)
      | error failure => rfl
    · exact Executes.throw rfl
  obtain ⟨outcome, left, reached, ended, holds⟩ := executes
  unfold attempt
  rw [ended]
  exact holds

end Attempts

/-! ## The terminal record -/

/-- `f"recovery_{operation_id}"`. -/
def recoveryRequestId (operationId : String) : String := "recovery_" ++ operationId

/-- The record of an operation without credit is valid: its identifier fits the
column of server request identifiers. -/
theorem unknownFields_valid {candidate : RecoveryCandidate} (now : Int)
    (short : candidate.operationId.toList.length ≤ 36) :
    (unknownFields candidate now).postInit = .ok () := by
  have later : candidate.startedAt ≤ completedAt candidate now := le_max_right _ _
  have duration : 0 ≤ durationMs candidate now ∧
      durationMs candidate now ≤ Services.Quota.signedBigintMax := by
    refine ⟨le_min ?_ (by decide), min_le_right _ _⟩
    omega
  have named : "recovery_" ++ candidate.operationId ≠ "" ∧
      ("recovery_" ++ candidate.operationId).toList.length ≤ 128 := by
    have letters : ("recovery_" ++ candidate.operationId).toList =
        "recovery_".toList ++ candidate.operationId.toList := String.toList_append
    have nine : "recovery_".toList.length = 9 := by decide
    refine ⟨?_, by rw [letters, List.length_append]; omega⟩
    intro empty
    have impossible := congrArg (List.length ∘ String.toList) empty
    simp only [Function.comp_apply, letters, List.length_append, nine] at impossible
    simp at impossible
  have status : (100 : Int) ≤ 499 ∧ (499 : Int) ≤ 599 := by decide
  have code : "RECOVERED_NO_CREDIT" ≠ "" ∧ "RECOVERED_NO_CREDIT".toList.length ≤ 64 := by
    decide
  simp only [TerminalFields.postInit, bind_ok_iff, require_ok_iff]
  exact ⟨(), status, (), code, (), duration, (), ⟨le_refl 0, le_refl 0, le_refl 0⟩, (), named, (),
    fun _ absent => (by cases absent), fun _ absent => (by cases absent)⟩

section Candidates

variable {Remote : Type} {surroundings : Surroundings Remote} {now : Int} {ledger : Ledger}
  {remote : Remote} {sent : List Call} {operation : ApiCallOperation} {serviceUserId : String}

/-- The transaction of `_finalize_without_credit` releases a stale operation. -/
theorem release_unknown (releasable : Releasable recoveryRequestId ledger)
    (member : operation ∈ ledger.operations.rows) (pending : operation.status = .pending)
    (unused : operation.providerUsageRecorded = false)
    (short : operation.id.toList.length ≤ 36) {ids : RowIds}
    (newEvent : ledger.events.find? ids.event = none) :
    ∃ after, recoveryTransaction ledger ids operation.id none
        (unknownFields (candidateOf operation serviceUserId) now) = .ok ((), after) ∧
      Released operation ledger after := by
  have valid : (unknownFields (candidateOf operation serviceUserId) now).postInit = .ok () :=
    unknownFields_valid now short
  have created : OperationTerminal.create (unknownFields (candidateOf operation serviceUserId)
      now) = .ok ⟨unknownFields (candidateOf operation serviceUserId) now, valid⟩ := by
    unfold OperationTerminal.create
    split
    · rfl
    · rename_i failed
      rw [valid] at failed
      cases failed
  have ordered : operation.startedAt ≤ completedAt (candidateOf operation serviceUserId) now :=
    le_max_right _ _
  obtain ⟨snapshot, after, finalized, released⟩ := @Releasable.release _ _ _ releasable member
    pending unused ids.event ⟨_, valid⟩ rfl rfl ordered newEvent
  refine ⟨after, ?_, released⟩
  show terminalTransaction ledger ids operation.id
    (unknownFields (candidateOf operation serviceUserId) now) = _
  rw [terminalTransaction, created, ok_bind, finalized]
  rfl

/-- A failure under another code than the not-found one releases nothing. -/
theorem not_released_of_error (member : operation ∈ ledger.operations.rows)
    (pending : operation.status = .pending) {failure : UpstreamError}
    (replies : (surroundings.reply (.creditStatus operation.id serviceUserId) remote).1 =
      .error (.openWebUI failure))
    (other : failure.code ≠ notFoundCode) :
    ¬Released operation ledger (attempt surroundings now (candidateOf operation serviceUserId)
      ⟨ledger, remote, sent⟩).2.ledger := by
  have raised : isWithoutCredit (candidateOf operation serviceUserId) (.openWebUI failure) =
      false := by simp [isWithoutCredit, other]
  rw [@attempt_of_error _ surroundings (candidateOf operation serviceUserId) now
    ⟨ledger, remote, sent⟩ (.openWebUI failure) replies, raised]
  intro released
  obtain ⟨row, found, abandoned⟩ := released.abandoned
  have same : operation = row := Option.some.inj ((Table.find?_of_mem member).symm.trans found)
  rw [← same, pending] at abandoned
  cases abandoned

/-- The not-found code abandons a stale operation without settlement and usage. -/
theorem released_of_not_found (releasable : Releasable recoveryRequestId ledger)
    (member : operation ∈ ledger.operations.rows) (pending : operation.status = .pending)
    (unsettled : operation.creditSettlementId = none)
    (unused : operation.providerUsageRecorded = false)
    (short : operation.id.toList.length ≤ 36) {failure : UpstreamError}
    (replies : (surroundings.reply (.creditStatus operation.id serviceUserId) remote).1 =
      .error (.openWebUI failure))
    (code : failure.code = notFoundCode)
    (newEvent : ledger.events.find? (surroundings.rowIds (surroundings.asked
      (candidateOf operation serviceUserId) ⟨ledger, remote, sent⟩).remote).1.event = none) :
    Released operation ledger (attempt surroundings now (candidateOf operation serviceUserId)
      ⟨ledger, remote, sent⟩).2.ledger := by
  have without : isWithoutCredit (candidateOf operation serviceUserId) (.openWebUI failure) =
      true := by simp [isWithoutCredit, code, candidateOf, unsettled, unused]
  obtain ⟨after, committed, released⟩ := @release_unknown now ledger operation serviceUserId
    releasable member pending unused short _ newEvent
  rw [@attempt_of_error _ surroundings (candidateOf operation serviceUserId) now
    ⟨ledger, remote, sent⟩ (.openWebUI failure) replies, without]
  have answered : (surroundings.answer (.finalizeRecovered operation.id none
      (unknownFields (candidateOf operation serviceUserId) now)) (surroundings.asked
        (candidateOf operation serviceUserId) ⟨ledger, remote, sent⟩)).2.ledger = after := by
    simp only [Surroundings.answer]
    rw [show (surroundings.asked (candidateOf operation serviceUserId)
      ⟨ledger, remote, sent⟩).ledger = ledger from rfl, committed]
  exact answered ▸ released

end Candidates

/-! ## Not-found answers -/

/-- **Recovery and not-found answers.** A JSON 404 reply to the status request that
is no error envelope, or carries a code that is not recognised or
`CREDIT_SETTLEMENT_NOT_FOUND`, has `_process` abandon a stale operation without
settlement and usage, and release its reservation on both rows, exactly when the
reply fits the bound on responses and does not carry
`CREDIT_SETTLEMENT_NOT_FOUND`. -/
theorem not_found_abandons_iff {Remote : Type} (surroundings : Surroundings Remote)
    (calls : List LedgerCall) (own : ∀ call ∈ calls, call.NamesOwn recoveryRequestId)
    (remote : Remote) (sent : List Call) (now : Int) (operation : ApiCallOperation)
    (member : operation ∈ (run Ledger.empty calls).operations.rows)
    (short : operation.id.toList.length ≤ 36)
    (stale : isStale surroundings.worker surroundings.callers now operation = true)
    (serviceUserId : String) (unsettled : operation.creditSettlementId = none)
    (unused : operation.providerUsageRecorded = false)
    (newEvent : (run Ledger.empty calls).events.find? (surroundings.rowIds (surroundings.asked
      (candidateOf operation serviceUserId) ⟨run Ledger.empty calls, remote, sent⟩).remote).1.event
        = none)
    (loads : Bytes → Option Json) (validate : Json → Option CreditOperationSnapshot)
    (response : Response)
    (replies : (surroundings.reply (.creditStatus operation.id serviceUserId) remote).1 =
      (request loads validate (some response)).mapError Failure.openWebUI)
    (notFound : response.statusCode = 404) (isJson : response.mediaType = "application/json")
    (payload : Json) (loaded : loads response.chunks.flatten = some payload)
    (unknown : ∀ code, envelopeCode payload = some code →
      code ∉ knownErrorCodes ∨ code = settlementNotFoundCode) :
    Released operation (run Ledger.empty calls)
        (attempt surroundings now (candidateOf operation serviceUserId)
          ⟨run Ledger.empty calls, remote, sent⟩).2.ledger ↔
      response.chunks.flatten.length ≤ maxResponseBytes ∧
        envelopeCode payload ≠ some settlementNotFoundCode := by
  have releasable := releasable_reachable calls own
  generalize run Ledger.empty calls = ledger at *
  have pending : operation.status = .pending := by
    simp only [isStale, Bool.and_eq_true, decide_eq_true_eq] at stale
    exact stale.1.1
  constructor
  · intro released
    have fits : response.chunks.flatten.length ≤ maxResponseBytes := by
      by_contra oversized
      rw [request_oversized isJson (by omega)] at replies
      exact not_released_of_error member pending replies (by decide) released
    refine ⟨fits, ?_⟩
    intro named
    rw [request_error isJson fits loaded (by omega)] at replies
    refine not_released_of_error member pending replies ?_ released
    rw [errorOf_recognised named (by decide)]
    decide
  · rintro ⟨fits, otherCode⟩
    have unrecognised : Unrecognised payload := by
      intro code named
      refine (unknown code named).resolve_right ?_
      rintro rfl
      exact otherCode named
    have code : (errorOf response.statusCode payload).code = notFoundCode := by
      rw [errorOf_unrecognised unrecognised, notFound]
      rfl
    rw [request_error isJson fits loaded (by omega)] at replies
    exact released_of_not_found releasable member pending unsettled unused short replies code
      newEvent

/-! ## One stale operation -/

/-- The body of a reply under the given code. -/
def codeBody (code : String) : Bytes :=
  ascii ("\x7b\"detail\":\x7b\"code\":\"" ++ code ++ "\"\x7d\x7d")

def codePayload (code : String) : Json := .dict [("detail", .dict [("code", .str code)])]

/-- A reading of JSON that knows an empty list and the body of one code. -/
def sampleLoads (body : Bytes) : Option Json :=
  if body = ascii "[]" then some (.list [])
  else if body = codeBody settlementNotFoundCode then some (codePayload settlementNotFoundCode)
  else none

def notFoundResponse (body : Bytes) : Response := ⟨404, "application/json", [body]⟩

/-- A credit service that answers every status request with the given body. -/
def notFoundSurroundings (body : Bytes) : Surroundings Unit :=
  { singly with
    reply := fun call _ =>
      match call with
      | .creditStatus _ _ =>
          ((request sampleLoads (fun _ => none) (some (notFoundResponse body))).mapError
            Failure.openWebUI, ())
      | call => (sampleReply call, ()) }

/-- The reservation of 60 tokens whose request ended without a trace. -/
def staleOperation : ApiCallOperation :=
  pendingOperation (sampleReservation "first" "request-number-one")

theorem staleOperation_stored :
    (run Ledger.empty sampleReserved).operations.rows = [staleOperation] := by decide

theorem noEvents_stored : (run Ledger.empty sampleReserved).events.rows = [] := by
  decide

theorem staleOperation_isStale (body : Bytes) :
    isStale (notFoundSurroundings body).worker (notFoundSurroundings body).callers 90000
      staleOperation = true := by
  have stale : isStale singly.worker singly.callers 90000 staleOperation = true := by
    decide
  exact stale

/-- A 404 reply that is no error envelope releases the reservation. -/
theorem not_found_abandons_iff_sample :
    Released staleOperation (run Ledger.empty sampleReserved)
      (attempt (notFoundSurroundings (ascii "[]")) 90000 (candidateOf staleOperation "user")
        ⟨run Ledger.empty sampleReserved, (), []⟩).2.ledger := by
  refine (not_found_abandons_iff (notFoundSurroundings (ascii "[]")) sampleReserved ?_ () [] 90000
    staleOperation ?_ (by decide) (staleOperation_isStale _) "user" rfl rfl ?_ sampleLoads
    (fun _ => none) (notFoundResponse (ascii "[]")) rfl rfl (by decide) (.list [])
    (by rfl) ?_).mpr ⟨by decide, by decide⟩
  · intro call listed
    rw [List.mem_singleton.mp listed]
    trivial
  · rw [staleOperation_stored]
    exact List.mem_singleton_self _
  · rw [Table.find?_none_iff, noEvents_stored]
    exact List.forall_mem_nil _
  · intro code named
    cases named

/-- Under the code that the credit service has for an unknown operation, the
operation stays pending and keeps its reservation. -/
theorem settlement_not_found_keeps_reservation :
    isStale (notFoundSurroundings (codeBody settlementNotFoundCode)).worker
        (notFoundSurroundings (codeBody settlementNotFoundCode)).callers 90000
        staleOperation = true ∧
      staleOperation.creditSettlementId = none ∧
      staleOperation.providerUsageRecorded = false ∧
      ¬Released staleOperation (run Ledger.empty sampleReserved)
        (attempt (notFoundSurroundings (codeBody settlementNotFoundCode)) 90000
          (candidateOf staleOperation "user")
            ⟨run Ledger.empty sampleReserved, (), []⟩).2.ledger := by
  refine ⟨staleOperation_isStale _, rfl, rfl, ?_⟩
  have stored : staleOperation ∈ (run Ledger.empty sampleReserved).operations.rows := by
    rw [staleOperation_stored]
    exact List.mem_singleton_self _
  have loaded : sampleLoads (notFoundResponse (codeBody settlementNotFoundCode)).chunks.flatten =
      some (codePayload settlementNotFoundCode) := by rfl
  have raised : request sampleLoads (fun _ => (none : Option CreditOperationSnapshot))
      (some (notFoundResponse (codeBody settlementNotFoundCode))) =
        .error (errorOf 404 (codePayload settlementNotFoundCode)) :=
    request_error (by decide) (by decide +kernel) loaded (by decide)
  refine @not_released_of_error _ (notFoundSurroundings _) 90000 _ () [] staleOperation "user"
    stored rfl (errorOf 404 (codePayload settlementNotFoundCode)) ?_ (by decide)
  exact congrArg (Except.mapError Failure.openWebUI) raised

end Zangpu.Workers.Recovery
