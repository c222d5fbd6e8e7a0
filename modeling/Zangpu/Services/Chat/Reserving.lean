import Zangpu.Foundation.Manners
import Zangpu.Services.Chat.Environment

/-!
The reservations a request calls for.

Owns: the proof that whatever a live request is answered, every reservation it makes is
for the credential of its caller, at the time it read first.

Does not own: when the reservation takes effect.
-/

set_option autoImplicit false

namespace Zangpu.Services.Chat

open Zangpu.Foundation
open Zangpu.Api
open Zangpu.Integrations.OpenWebUI
open Zangpu.Services.Streaming

/-- A reservation is for the caller of the request, at the given time. -/
def Call.reservesAt (chat : ChatRequest) (startedAt : Int) : Call → Prop
  | reserveQuota arguments =>
      arguments.apiClientId = chat.caller.apiClientId ∧
        arguments.credentialId = chat.caller.credentialId ∧ arguments.now = startedAt
  | _ => True

/-- The routine makes no other reservations. -/
abbrev ReservesAt {Result : Type} (chat : ChatRequest) (startedAt : Int)
    (routine : Action Result) : Prop :=
  Mannered (.calls (Call.reservesAt chat startedAt)) routine

/-- What is admitted carries the caller of the request and the given time. -/
structure StartedAt (chat : ChatRequest) (startedAt : Int) (admission : ChatAdmission) : Prop where
  caller : admission.caller = chat.caller
  started : admission.operationStartedAt = startedAt

section Routines

variable {service : ExternalChatService} {chat : ChatRequest} {startedAt : Int}

/-! ## Admission -/

theorem raiseExternal_reservesAt {Result : Type} (code : ErrorCode) (operationId : Option String) :
    ReservesAt chat startedAt (raiseExternal code operationId : Action Result) :=
  Mannered.bind Mannered.get fun _ => Mannered.throw _

theorem raiseQueueTimeout_reservesAt {Result : Type} :
    ReservesAt chat startedAt (raiseQueueTimeout : Action Result) :=
  Mannered.bind (Mannered.modify _) fun _ => raiseExternal_reservesAt _ _

theorem armTimer_reservesAt :
    ReservesAt chat startedAt (ConcurrencyLeaseGuard.armTimer service) :=
  Mannered.bind (Mannered.observe _) fun _ => Mannered.modify _

theorem heartbeat_reservesAt (lease : ConcurrencyLeaseGuard) :
    ReservesAt chat startedAt (lease.heartbeat service) := by
  refine Mannered.bind (Mannered.await trivial) fun _ => ?_
  refine Mannered.bind (Mannered.await trivial) fun _ => ?_
  exact Mannered.ite (Mannered.throw _) armTimer_reservesAt

theorem run_reservesAt {lease : ConcurrencyLeaseGuard} {call : Call}
    (permitted : call.reservesAt chat startedAt) :
    ReservesAt chat startedAt (lease.run service call) := by
  have waits : ∀ bound, ReservesAt chat startedAt (lease.waitFor service call bound) := by
    intro bound
    induction bound with
    | zero => exact Mannered.exhausted
    | succ bound inductionHypothesis =>
        refine Mannered.bind (Mannered.bind (Mannered.observe _) fun _ =>
          Mannered.bind Mannered.get fun _ => Mannered.pure _) fun timeout => ?_
        refine Mannered.bind (Mannered.wait timeout permitted) fun completed => ?_
        cases completed with
        | some answer => exact Mannered.pure _
        | none => exact Mannered.bind (heartbeat_reservesAt lease) fun _ => inductionHypothesis
  refine Mannered.bind (Mannered.spawn permitted) fun _ => ?_
  refine Mannered.bind (Mannered.tryCatch (waits _) fun failure => ?_) fun _ => Mannered.reply _
  exact Mannered.bind (Mannered.abandon _) fun _ => Mannered.throw _

theorem askPool_reservesAt (arguments : PoolRequest) :
    ReservesAt chat startedAt (askPool arguments) := by
  refine Mannered.bind (Mannered.await trivial) fun _ => ?_
  refine Mannered.bind (Mannered.modify _) fun _ => ?_
  exact Mannered.bind (Mannered.modify _) fun _ => Mannered.pure _

theorem waitInQueue_reservesAt (arguments : PoolRequest) (queueDeadline : Int) (bound : Nat) :
    ReservesAt chat startedAt (waitInQueue service arguments queueDeadline bound) := by
  induction bound with
  | zero => exact Mannered.exhausted
  | succ bound inductionHypothesis =>
      refine Mannered.bind (Mannered.observe _) fun _ => ?_
      refine Mannered.ite raiseQueueTimeout_reservesAt ?_
      refine Mannered.bind (Mannered.await trivial) fun _ => ?_
      refine Mannered.bind (Mannered.observe _) fun _ => ?_
      refine Mannered.ite raiseQueueTimeout_reservesAt ?_
      refine Mannered.bind (askPool_reservesAt arguments) fun _ => ?_
      exact Mannered.ite (Mannered.pure _)
        (Mannered.ite (raiseExternal_reservesAt _ _) inductionHypothesis)

theorem leaveQueue_reservesAt (policy : ModelPoolPolicy) (apiClientId operationId : String)
    (failure : Failure) :
    ReservesAt chat startedAt (leaveQueue policy apiClientId operationId failure) := by
  have cancel : ReservesAt chat startedAt
      (do let _ ← await (.cancelQueued policy.poolId apiClientId operationId) : Action Unit) :=
    Mannered.bind (Mannered.await trivial) fun _ => Mannered.pure ()
  unfold leaveQueue
  dsimp only
  split
  · refine Mannered.bind (Mannered.tryCatch cancel fun _ => ?_) fun _ => Mannered.throw _
    exact Mannered.ite (Mannered.pure _) (Mannered.throw _)
  · refine Mannered.bind Mannered.get fun _ => ?_
    split
    · exact Mannered.bind cancel fun _ => Mannered.throw _
    · exact Mannered.throw _

theorem acquireModelPool_reservesAt (modelId apiClientId operationId : String) :
    ReservesAt chat startedAt (acquireModelPool service modelId apiClientId operationId) := by
  unfold acquireModelPool
  split
  · exact raiseExternal_reservesAt _ _
  · refine Mannered.bind (askPool_reservesAt _) fun _ => Mannered.ite (Mannered.pure _) ?_
    refine Mannered.ite (raiseExternal_reservesAt _ _) ?_
    refine Mannered.bind (Mannered.observe _) fun _ => ?_
    exact Mannered.bind (Mannered.tryCatch (waitInQueue_reservesAt _ _ _) fun failure =>
      leaveQueue_reservesAt _ _ _ failure) fun _ => Mannered.pure _

theorem loadPolicy_reservesAt (caller : AuthenticatedCaller) (now : Int) :
    ReservesAt chat startedAt (loadPolicy caller now) := by
  refine Mannered.tryCatch (Mannered.await trivial) fun failure => ?_
  split
  · exact raiseExternal_reservesAt _ _
  · exact Mannered.throw _

theorem acquireConcurrency_reservesAt (policy : CallerPolicy) (poolPolicy : ModelPoolPolicy)
    (apiClientId operationId : String) :
    ReservesAt chat startedAt
      (acquireConcurrency policy poolPolicy apiClientId operationId) := by
  have release : ReservesAt chat startedAt
      (do let _ ← await (.releasePool poolPolicy.poolId operationId) : Action Unit) :=
    Mannered.bind (Mannered.await trivial) fun _ => Mannered.pure ()
  refine Mannered.bind (Mannered.tryCatch (Mannered.await trivial) fun _ =>
    Mannered.bind release fun _ => Mannered.throw _) fun _ => ?_
  refine Mannered.bind (Mannered.modify _) fun _ => ?_
  exact Mannered.ite (Mannered.bind release fun _ => raiseExternal_reservesAt _ _)
    (Mannered.pure _)

theorem raiseExternal_yields {Result : Type} {goal : Result → Prop} (code : ErrorCode)
    (operationId : Option String) : Yields goal (raiseExternal code operationId : Action Result) :=
  Yields.bind fun _ => Yields.throw _

/-- An admission begins with the time it is started at. -/
theorem admitRequest_reservesAt : ∃ rest : Int → Action ChatAdmission,
    admitRequest service chat = time >>= rest ∧ ∀ startedAt,
      ReservesAt chat startedAt (rest startedAt) ∧
        Yields (StartedAt chat startedAt) (rest startedAt) := by
  refine ⟨_, rfl, fun startedAt => ⟨?_, ?_⟩⟩
  · refine Mannered.bind (Mannered.observe _) fun _ => ?_
    refine Mannered.bind (Mannered.await trivial) fun _ => ?_
    refine Mannered.ite (raiseExternal_reservesAt _ _) ?_
    refine Mannered.bind (loadPolicy_reservesAt _ _) fun policy => ?_
    refine Mannered.ite (raiseExternal_reservesAt _ _) ?_
    refine Mannered.ite (raiseExternal_reservesAt _ _) ?_
    refine Mannered.bind (Mannered.await trivial) fun _ => ?_
    refine Mannered.bind (Mannered.modify _) fun _ => ?_
    refine Mannered.ite (raiseExternal_reservesAt _ _) ?_
    refine Mannered.bind (acquireModelPool_reservesAt _ _ _) fun _ => ?_
    refine Mannered.bind (acquireConcurrency_reservesAt _ _ _ _) fun _ => ?_
    exact Mannered.bind armTimer_reservesAt fun _ => Mannered.pure _
  · refine Yields.bind fun _ => Yields.bind fun _ => Yields.ite (raiseExternal_yields _ _) ?_
    refine Yields.bind fun policy => Yields.ite (raiseExternal_yields _ _) ?_
    refine Yields.ite (raiseExternal_yields _ _) ?_
    refine Yields.bind fun _ => Yields.bind fun _ => Yields.ite (raiseExternal_yields _ _) ?_
    exact Yields.bind fun _ => Yields.bind fun _ => Yields.bind fun _ => Yields.pure ⟨rfl, rfl⟩

/-! ## Calls under the lease -/

theorem release_reservesAt (admission : ChatAdmission) :
    ReservesAt chat startedAt admission.releaseOrRaise := by
  have quietly : ∀ call : Call, call.reservesAt chat startedAt →
      ReservesAt chat startedAt (releaseQuietly call) := by
    intro call permitted
    refine Mannered.tryCatch (Mannered.bind (Mannered.await permitted) fun _ => Mannered.pure _)
      fun _ => ?_
    exact Mannered.ite (Mannered.pure _) (Mannered.throw _)
  refine Mannered.bind (Mannered.bind (quietly _ trivial) fun _ =>
    Mannered.bind (quietly _ trivial) fun _ => Mannered.pure _) fun _ => ?_
  refine Mannered.bind Mannered.get fun _ => ?_
  exact Mannered.ite (Mannered.throw _) (Mannered.pure _)

theorem operationTime_reservesAt (admission : ChatAdmission) :
    ReservesAt chat startedAt admission.operationTime :=
  Mannered.bind (Mannered.observe _) fun _ => Mannered.pure _

theorem terminalFields_reservesAt (admission : ChatAdmission) (verdict : Verdict) :
    ReservesAt chat startedAt (terminalFields admission verdict) := by
  refine Mannered.bind (operationTime_reservesAt admission) fun _ => ?_
  exact Mannered.bind (Mannered.observe _) fun _ => Mannered.pure _

theorem terminalizeLeased_reservesAt (admission : ChatAdmission) (verdict : Verdict) :
    ReservesAt chat startedAt (terminalizeLeased service admission verdict) := by
  refine Mannered.bind (terminalFields_reservesAt admission verdict) fun _ => ?_
  exact Mannered.bind (run_reservesAt trivial) fun _ => Mannered.modify _

theorem requireEvidence_reservesAt (admission : ChatAdmission) (valid : Bool) :
    ReservesAt chat startedAt (requireEvidence admission valid) :=
  Mannered.ite (Mannered.pure _) (raiseExternal_reservesAt _ _)

/-- The reservation is for the caller, at the time the admission carries. -/
theorem reserveQuota_reservesAt {admission : ChatAdmission}
    (started : StartedAt chat startedAt admission) (stream : Bool) :
    ReservesAt chat startedAt (reserveQuota service admission stream) := by
  have counted : ReservesAt chat startedAt (reservedTokens service admission) := by
    unfold reservedTokens
    split
    · exact Mannered.pure _
    · exact raiseExternal_reservesAt _ _
    · exact Mannered.throw _
  refine Mannered.bind counted fun tokens => ?_
  refine Mannered.tryCatch (run_reservesAt ?_) fun failure => ?_
  · exact ⟨congrArg AuthenticatedCaller.apiClientId started.caller,
      congrArg AuthenticatedCaller.credentialId started.caller, started.started⟩
  · split
    · exact raiseExternal_reservesAt _ _
    · exact Mannered.throw _

theorem reserveCredit_reservesAt (admission : ChatAdmission) :
    ReservesAt chat startedAt (reserveCredit service admission) := by
  refine Mannered.tryCatch (run_reservesAt trivial) fun failure => ?_
  split
  · dsimp only
    split
    · exact Mannered.bind (terminalizeLeased_reservesAt _ _) fun _ => raiseExternal_reservesAt _ _
    · exact raiseExternal_reservesAt _ _
  · exact Mannered.throw _

theorem openCredit_reservesAt {admission : ChatAdmission}
    (started : StartedAt chat startedAt admission) (stream : Bool) :
    ReservesAt chat startedAt (openCredit service admission stream) := by
  refine Mannered.bind (reserveQuota_reservesAt started stream) fun _ => ?_
  refine Mannered.bind (reserveCredit_reservesAt admission) fun _ => ?_
  refine Mannered.bind (requireEvidence_reservesAt _ _) fun _ => ?_
  refine Mannered.bind (operationTime_reservesAt _) fun _ => ?_
  exact Mannered.bind (run_reservesAt trivial) fun _ => Mannered.pure _

/-! ## Non-streaming requests -/

theorem rejectProvider_reservesAt {Result : Type} (admission : ChatAdmission)
    (settlementId : String) (error : UpstreamError) :
    ReservesAt chat startedAt
      (rejectProvider service admission settlementId error : Action Result) := by
  refine Mannered.bind (Mannered.tryCatch (run_reservesAt trivial) fun failure => ?_) fun _ => ?_
  · split
    · exact raiseExternal_reservesAt _ _
    · exact Mannered.throw _
  · refine Mannered.bind (requireEvidence_reservesAt _ _) fun _ => ?_
    exact Mannered.bind (terminalizeLeased_reservesAt _ _) fun _ => raiseExternal_reservesAt _ _

theorem forwardChat_reservesAt (admission : ChatAdmission) (settlementId : String) :
    ReservesAt chat startedAt (forwardChat service admission settlementId) := by
  refine Mannered.tryCatch (run_reservesAt trivial) fun failure => ?_
  split
  · exact rejectProvider_reservesAt _ _ _
  · exact Mannered.throw _

theorem settleResponse_reservesAt (admission : ChatAdmission) (settlementId : String)
    (usage : ChatUsage) :
    ReservesAt chat startedAt (settleResponse service admission settlementId usage) := by
  refine Mannered.bind (operationTime_reservesAt _) fun _ => ?_
  refine Mannered.bind (run_reservesAt trivial) fun _ => ?_
  refine Mannered.bind (Mannered.tryCatch (run_reservesAt trivial) fun failure => ?_) fun _ => ?_
  · split
    · exact raiseExternal_reservesAt _ _
    · exact Mannered.throw _
  · exact Mannered.bind (requireEvidence_reservesAt _ _) fun _ => Mannered.pure _

theorem executeAdmitted_reservesAt {admission : ChatAdmission}
    (started : StartedAt chat startedAt admission) :
    ReservesAt chat startedAt (executeAdmitted service admission) := by
  refine Mannered.bind (openCredit_reservesAt started _) fun _ => ?_
  refine Mannered.bind (forwardChat_reservesAt _ _) fun _ => ?_
  refine Mannered.bind (settleResponse_reservesAt _ _ _) fun _ => ?_
  refine Mannered.bind (terminalizeLeased_reservesAt _ _) fun _ => ?_
  exact Mannered.bind Mannered.get fun _ => Mannered.pure _

/-! ## Streams -/

variable {admission : StreamAdmission}

theorem terminalize_reservesAt (admission : ChatAdmission) (verdict : Verdict) :
    ReservesAt chat startedAt (terminalize admission verdict) :=
  Mannered.bind (terminalFields_reservesAt _ _) fun _ => Mannered.await trivial

theorem settleStream_reservesAt (usage : ChatUsage) :
    ReservesAt chat startedAt (settleStream admission usage) := by
  refine Mannered.bind (operationTime_reservesAt _) fun _ => ?_
  refine Mannered.bind (Mannered.await trivial) fun _ => ?_
  refine Mannered.bind (Mannered.await trivial) fun _ => ?_
  exact Mannered.bind (requireEvidence_reservesAt _ _) fun _ => Mannered.pure _

theorem finishStreamFailure_reservesAt (verdict : Int → Verdict) :
    ReservesAt chat startedAt (finishStreamFailure admission verdict) := by
  have cancels : ReservesAt chat startedAt (cancelStream admission) :=
    Mannered.bind (Mannered.await trivial) fun _ => requireEvidence_reservesAt _ _
  refine Mannered.bind Mannered.get fun locals => ?_
  dsimp only
  split
  · exact Mannered.bind cancels fun _ => terminalize_reservesAt _ _
  · exact Mannered.bind (settleStream_reservesAt _) fun _ => terminalize_reservesAt _ _

theorem tryFinishStreamFailure_reservesAt (verdict : Int → Verdict) :
    ReservesAt chat startedAt (tryFinishStreamFailure admission verdict) := by
  refine Mannered.tryCatch (Mannered.bind (finishStreamFailure_reservesAt _) fun _ =>
    Mannered.pure _) fun _ => ?_
  exact Mannered.ite (Mannered.pure _) (Mannered.throw _)

theorem heartbeatStream_reservesAt :
    ReservesAt chat startedAt (heartbeatStream service admission) := by
  refine Mannered.bind (heartbeat_reservesAt _) fun _ => ?_
  refine Mannered.bind (operationTime_reservesAt _) fun _ => ?_
  refine Mannered.bind (Mannered.await trivial) fun _ => ?_
  exact Mannered.ite (Mannered.throw _) (Mannered.pure _)

theorem feedChunk_reservesAt (chunk : Bytes) :
    ReservesAt chat startedAt (feedChunk service chunk) := by
  refine Mannered.bind Mannered.get fun locals => ?_
  refine Mannered.bind (Mannered.set _) fun _ => ?_
  split
  · exact Mannered.pure _
  · exact Mannered.throw _

theorem finishDecoder_reservesAt : ReservesAt chat startedAt finishDecoder := by
  refine Mannered.bind Mannered.get fun locals => ?_
  split
  · exact Mannered.pure _
  · exact Mannered.throw _

theorem finishStream_reservesAt : ReservesAt chat startedAt (finishStream admission) := by
  refine Mannered.bind Mannered.get fun locals => ?_
  split
  · exact Mannered.throw _
  · refine Mannered.bind (settleStream_reservesAt _) fun _ => ?_
    refine Mannered.bind (terminalize_reservesAt _ _) fun _ => ?_
    exact Mannered.bind (Mannered.modify _) fun _ => Mannered.emit trivial

theorem relayFrames_reservesAt (frames : List Bytes) :
    ReservesAt chat startedAt (relayFrames admission frames) := by
  induction frames with
  | nil => exact Mannered.pure _
  | cons frame rest inductionHypothesis =>
      exact Mannered.ite (Mannered.bind (Mannered.emit trivial) fun _ => inductionHypothesis)
        (Mannered.bind finishStream_reservesAt fun _ => Mannered.pure _)

theorem consumeRead_reservesAt (observedAt : Int) (answer : Except Failure (Option Bytes)) :
    ReservesAt chat startedAt (consumeRead service admission observedAt answer) := by
  refine Mannered.bind (Mannered.modify _) fun _ => ?_
  refine Mannered.bind (Mannered.bind Mannered.get fun _ => Mannered.pure _) fun due => ?_
  have renews {next : Action Bool} (kept : ReservesAt chat startedAt next) :
      ReservesAt chat startedAt (if due then do
        heartbeatStream service admission
        emit .heartbeat
        next
      else next) := by
    refine Mannered.ite (Mannered.bind heartbeatStream_reservesAt fun _ => ?_) kept
    exact Mannered.bind (Mannered.emit trivial) fun _ => kept
  rcases answer with failure | _ | chunk
  · exact renews (Mannered.throw _)
  · exact renews (Mannered.bind finishDecoder_reservesAt fun _ => Mannered.pure _)
  · exact renews (Mannered.bind (feedChunk_reservesAt _) fun _ => relayFrames_reservesAt _)

theorem streamLoop_reservesAt (bound : Nat) :
    ReservesAt chat startedAt (streamLoop service admission bound) := by
  have ensures : ReservesAt chat startedAt (ensureRead admission) := by
    refine Mannered.bind Mannered.get fun locals => ?_
    refine Mannered.ite (Mannered.pure _) ?_
    exact Mannered.bind (Mannered.spawn trivial) fun _ => Mannered.modify _
  induction bound with
  | zero => exact Mannered.exhausted
  | succ bound inductionHypothesis =>
      refine Mannered.bind ensures fun _ => ?_
      refine Mannered.bind (Mannered.bind (Mannered.observe _) fun _ =>
        Mannered.bind Mannered.get fun _ => Mannered.pure _) fun timeout => ?_
      refine Mannered.bind (Mannered.wait timeout trivial) fun completed => ?_
      refine Mannered.bind (Mannered.observe _) fun observedAt => ?_
      cases completed with
      | none =>
          refine Mannered.bind heartbeatStream_reservesAt fun _ => ?_
          exact Mannered.bind (Mannered.emit trivial) fun _ => inductionHypothesis
      | some answer =>
          refine Mannered.bind (consumeRead_reservesAt _ _) fun finished => ?_
          exact Mannered.ite (Mannered.pure _) inductionHypothesis

theorem handleStreamFailure_reservesAt (failure : Failure) :
    ReservesAt chat startedAt (handleStreamFailure admission failure) := by
  have finishes : ∀ verdict after, ReservesAt chat startedAt after →
      ReservesAt chat startedAt (do
        let committed ← tryFinishStreamFailure admission verdict
        modify fun locals => { locals with terminalCommitted := committed }
        after : Action Unit) := by
    intro verdict after ends
    refine Mannered.bind (tryFinishStreamFailure_reservesAt _) fun _ => ?_
    exact Mannered.bind (Mannered.modify _) fun _ => ends
  unfold handleStreamFailure
  split
  · exact finishes _ _ (Mannered.throw _)
  · exact finishes _ _ (Mannered.throw _)
  · refine Mannered.bind (Mannered.tryCatch ?_ fun inner => ?_) fun _ => Mannered.emit trivial
    · refine Mannered.bind (finishStreamFailure_reservesAt _) fun _ => ?_
      exact Mannered.bind (Mannered.modify _) fun _ => Mannered.pure _
    · exact Mannered.ite (Mannered.pure _) (Mannered.throw _)
  · exact finishes _ _ (Mannered.emit trivial)
  · exact finishes _ _ (Mannered.emit trivial)

theorem cleanUpStream_reservesAt : ReservesAt chat startedAt (cleanUpStream admission) := by
  have closes : ReservesAt chat startedAt closeStreamIterator := by
    refine Mannered.tryCatch (Mannered.bind (Mannered.await trivial) fun _ => Mannered.pure _)
      fun _ => ?_
    exact Mannered.ite (Mannered.pure _) (Mannered.throw _)
  have ends := Mannered.andFinally (Mannered.bind closes fun _ => Mannered.pure ())
    (@release_reservesAt chat startedAt admission.toChatAdmission)
  refine Mannered.bind Mannered.get fun locals => ?_
  dsimp only
  split
  · exact Mannered.bind (Mannered.abandon _) fun _ => ends
  · exact ends

theorem handOver_reservesAt : ReservesAt chat startedAt (handOver service admission) := by
  refine Mannered.bind (Mannered.emit trivial) fun _ => ?_
  refine Mannered.bind (Mannered.modify _) fun _ => ?_
  exact Mannered.andFinally (Mannered.tryCatch (streamLoop_reservesAt _) fun failure =>
    handleStreamFailure_reservesAt failure) cleanUpStream_reservesAt

/-! ## Programs -/

/-- The program reads the wall clock first, and reserves at that time alone. -/
def IsPunctual (chat : ChatRequest) : Program backend Unit → Prop
  | .done _ => True
  | .observe .wall next =>
      ∀ startedAt, Keeps (.calls (Call.reservesAt chat startedAt)) (next startedAt)
  | _ => False

theorem execute_punctual (locals : Locals) :
    IsPunctual chat (((execute service chat).start locals).bind fun _ => .done ()) := by
  obtain ⟨admitting, same, admits⟩ := @admitRequest_reservesAt service chat
  unfold execute requirePayload
  split
  · rw [same]
    intro startedAt
    have executes := Mannered.bind_of_yields (admits startedAt).1 (admits startedAt).2
      fun admission started => Mannered.andFinally
        (@executeAdmitted_reservesAt service chat startedAt admission started)
        (release_reservesAt admission)
    exact Keeps.bind (executes locals) fun _ => trivial
  · trivial
  · trivial

theorem serveStream_punctual (locals : Locals) :
    IsPunctual chat (((serveStream service chat).start locals).bind fun _ => .done ()) := by
  obtain ⟨admitting, same, admits⟩ := @admitRequest_reservesAt service chat
  unfold serveStream prepareStream
  split
  · trivial
  · rw [same]
    intro startedAt
    have prepares : ReservesAt chat startedAt (do
        let admission ← admitting startedAt
        let settlementId ← tryCatch (openCredit service admission true) fun failure => do
          admission.releaseOrRaise
          throw failure
        return ({ toChatAdmission := admission, settlementId := settlementId } : StreamAdmission)) := by
      refine Mannered.bind_of_yields (admits startedAt).1 (admits startedAt).2 ?_
      intro admission started
      refine Mannered.bind (Mannered.tryCatch (openCredit_reservesAt started _) fun _ => ?_)
        fun _ => Mannered.pure _
      exact Mannered.bind (release_reservesAt _) fun _ => Mannered.throw _
    exact Keeps.bind ((Mannered.bind prepares fun _ => handOver_reservesAt) locals)
      fun _ => trivial

end Routines

/-- The program of a live request. -/
theorem program_punctual {deployment : Deployment} {role : Role} {chat : ChatRequest}
    (live : chat ∈ role.chat?) : IsPunctual chat (deployment.program role) := by
  cases role with
  | execute => cases live; exact execute_punctual _
  | stream => cases live; exact serveStream_punctual _
  | recovery => cases live

end Zangpu.Services.Chat
