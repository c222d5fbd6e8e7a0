import Zangpu.Foundation.Plays
import Zangpu.Services.Chat

/-!
The two methods of the chat service, each with its own copy of the admission.

Owns: `execute` and `prepare_stream` written out as the source writes them, line by
line; that each is the routine of the service built from shared steps; and that the two
fail alike: whatever comes back from the environment, an admission that fails ends with
the same exception after the same interactions in both, up to the stored stream flag.

Does not own: what `execute` does once the credit reservation is recorded.
-/

set_option autoImplicit false

namespace Zangpu.Services.Chat.Methods

open Zangpu.Foundation
open Zangpu.Api
open Zangpu.Integrations.OpenWebUI
open Zangpu.Services.Chat

variable (service : ExternalChatService)

/-! ## The methods -/

def execute (chat : ChatRequest) : Action ExternalChatResult := do
  match chat.request.requireNonStreaming with
  | .error (.externalPayload code) => raiseExternal code none
  | .error (.valueError message) => throw (.valueError message)
  | .ok () => do
  let operationStartedAt ← time
  let startedNs ← monotonicNs
  let claimed ← await
    (.claimNonce chat.caller.apiClientId chat.caller.credentialId chat.caller.nonce)
  if !claimed then raiseExternal .authFailed none
  else do
  let policy ← tryCatch (await (.loadPolicy chat.caller operationStartedAt)) fun failure =>
    match failure with
    | .callerPolicy code => raiseExternal (callerPolicyError code) none
    | other => throw other
  if "chat.completions" ∉ policy.allowedEndpoints then raiseExternal .endpointForbidden none
  else if chat.request.model ∉ policy.allowedModels then raiseExternal .modelForbidden none
  else do
  let qps ← await (.admitQps chat.caller.apiClientId chat.serverRequestId policy.qpsLimit)
  updateHeaders (rateLimitHeaders qps)
  if !qps.allowed then raiseExternal .qpsLimited none
  else do
  let modelPoolPolicy ← acquireModelPool service chat.request.model chat.caller.apiClientId
    chat.operationId
  let concurrency ←
    tryCatch (await (.acquireConcurrency chat.caller.apiClientId chat.operationId
      policy.concurrencyLimit)) fun failure => do
        let _ ← await (.releasePool modelPoolPolicy.poolId chat.operationId)
        throw failure
  updateHeaders (concurrencyLimitHeaders concurrency)
  if !concurrency.allowed then do
    let _ ← await (.releasePool modelPoolPolicy.poolId chat.operationId)
    raiseExternal .concurrencyLimited none
  else do
  let admission : ChatAdmission :=
    ⟨chat.request, chat.caller, policy, chat.operationId, operationStartedAt, startedNs,
      chat.serverRequestId, chat.requestFingerprint, qps, concurrency, modelPoolPolicy.poolId⟩
  let lease : ConcurrencyLeaseGuard :=
    ⟨modelPoolPolicy.poolId, chat.caller.apiClientId, chat.operationId⟩
  ConcurrencyLeaseGuard.armTimer service
  Routine.andFinally (do
    let admittedOutputTokens ←
      match chat.request.admittedOutputTokens policy.maxOutputTokensPerRequest
          service.globalMaxOutputTokens with
      | .ok admitted => pure admitted
      | .error (.externalPayload code) => raiseExternal code none
      | .error (.valueError message) => throw (.valueError message)
    let reservedTokens := estimatePromptTokens chat.request + admittedOutputTokens
    tryCatch (lease.run service (.reserveQuota
      { apiClientId := chat.caller.apiClientId
        credentialId := chat.caller.credentialId
        operationId := chat.operationId
        clientRequestId := chat.caller.requestId
        requestFingerprint := chat.requestFingerprint
        modelId := chat.request.model
        stream := false
        reservedTokens := reservedTokens
        now := operationStartedAt })) fun failure =>
      match failure with
      | .quotaAdmission code operationId => raiseExternal (quotaError code) operationId
      | other => throw other
    let credit ← tryCatch (lease.run service (.reserveCredit chat.operationId
      policy.serviceUserId chat.request.model (some "bifrost"))) fun failure =>
      match failure with
      | .openWebUI error => do
          let publicCode := creditError error
          if publicCode = .creditBalanceExhausted ∨ publicCode = .creditAccountFrozen then do
            let fields ← terminalFields admission (.creditRejected publicCode)
            lease.run service (.terminalize chat.operationId fields)
            markTerminalCommitted
          else pure ()
          raiseExternal publicCode (some chat.operationId)
      | other => throw other
    let expectedUsageOperationId := usageOperationIdOf chat.operationId
    if credit.operationId ≠ chat.operationId ∨ credit.serviceUserId ≠ policy.serviceUserId ∨
        credit.modelId ≠ chat.request.model ∨ credit.provider ≠ some "bifrost" ∨
        credit.status ≠ .pending ∨ credit.usageOperationId ≠ some expectedUsageOperationId then
      raiseExternal .controlPlaneUnavailable (some chat.operationId)
    else do
    let settlementId := credit.settlementId
    let now ← time
    lease.run service (.recordCredit chat.operationId settlementId expectedUsageOperationId
      (max now operationStartedAt))
    let response ← forwardChat service admission settlementId
    let settled ← settleResponse service admission settlementId response.usage
    terminalizeLeased service admission (.completed settled.chargedMicro)
    let locals ← get
    return ⟨response, locals.headers⟩) (do
    let releasedCleanly ← releaseActiveLeases chat.caller.apiClientId modelPoolPolicy.poolId
      chat.operationId
    let locals ← get
    if !releasedCleanly && !locals.terminalCommitted then throw .controlPlaneUnavailable
    else pure ())

def prepareStream (chat : ChatRequest) : Action StreamAdmission := do
  if !chat.request.stream then raiseExternal .invalidRequest none
  else do
  let operationStartedAt ← time
  let startedNs ← monotonicNs
  let claimed ← await
    (.claimNonce chat.caller.apiClientId chat.caller.credentialId chat.caller.nonce)
  if !claimed then raiseExternal .authFailed none
  else do
  let policy ← tryCatch (await (.loadPolicy chat.caller operationStartedAt)) fun failure =>
    match failure with
    | .callerPolicy code => raiseExternal (callerPolicyError code) none
    | other => throw other
  if "chat.completions" ∉ policy.allowedEndpoints then raiseExternal .endpointForbidden none
  else if chat.request.model ∉ policy.allowedModels then raiseExternal .modelForbidden none
  else do
  let qps ← await (.admitQps chat.caller.apiClientId chat.serverRequestId policy.qpsLimit)
  updateHeaders (rateLimitHeaders qps)
  if !qps.allowed then raiseExternal .qpsLimited none
  else do
  let modelPoolPolicy ← acquireModelPool service chat.request.model chat.caller.apiClientId
    chat.operationId
  let concurrency ←
    tryCatch (await (.acquireConcurrency chat.caller.apiClientId chat.operationId
      policy.concurrencyLimit)) fun failure => do
        let _ ← await (.releasePool modelPoolPolicy.poolId chat.operationId)
        throw failure
  updateHeaders (concurrencyLimitHeaders concurrency)
  if !concurrency.allowed then do
    let _ ← await (.releasePool modelPoolPolicy.poolId chat.operationId)
    raiseExternal .concurrencyLimited none
  else do
  let admission : ChatAdmission :=
    ⟨chat.request, chat.caller, policy, chat.operationId, operationStartedAt, startedNs,
      chat.serverRequestId, chat.requestFingerprint, qps, concurrency, modelPoolPolicy.poolId⟩
  let lease : ConcurrencyLeaseGuard :=
    ⟨modelPoolPolicy.poolId, chat.caller.apiClientId, chat.operationId⟩
  ConcurrencyLeaseGuard.armTimer service
  tryCatch (do
    let admittedOutputTokens ←
      match chat.request.admittedOutputTokens policy.maxOutputTokensPerRequest
          service.globalMaxOutputTokens with
      | .ok admitted => pure admitted
      | .error (.externalPayload code) => raiseExternal code none
      | .error (.valueError message) => throw (.valueError message)
    let reservedTokens := estimatePromptTokens chat.request + admittedOutputTokens
    tryCatch (lease.run service (.reserveQuota
      { apiClientId := chat.caller.apiClientId
        credentialId := chat.caller.credentialId
        operationId := chat.operationId
        clientRequestId := chat.caller.requestId
        requestFingerprint := chat.requestFingerprint
        modelId := chat.request.model
        stream := true
        reservedTokens := reservedTokens
        now := operationStartedAt })) fun failure =>
      match failure with
      | .quotaAdmission code operationId => raiseExternal (quotaError code) operationId
      | other => throw other
    let credit ← tryCatch (lease.run service (.reserveCredit chat.operationId
      policy.serviceUserId chat.request.model (some "bifrost"))) fun failure =>
      match failure with
      | .openWebUI error => do
          let publicCode := creditError error
          if publicCode = .creditBalanceExhausted ∨ publicCode = .creditAccountFrozen then do
            let fields ← terminalFields admission (.creditRejected publicCode)
            lease.run service (.terminalize chat.operationId fields)
            markTerminalCommitted
          else pure ()
          raiseExternal publicCode (some chat.operationId)
      | other => throw other
    let expectedUsageOperationId := usageOperationIdOf chat.operationId
    if credit.operationId ≠ chat.operationId ∨ credit.serviceUserId ≠ policy.serviceUserId ∨
        credit.modelId ≠ chat.request.model ∨ credit.provider ≠ some "bifrost" ∨
        credit.status ≠ .pending ∨ credit.usageOperationId ≠ some expectedUsageOperationId then
      raiseExternal .controlPlaneUnavailable (some chat.operationId)
    else do
    let settlementId := credit.settlementId
    let now ← time
    lease.run service (.recordCredit chat.operationId settlementId expectedUsageOperationId
      (max now operationStartedAt))
    return { toChatAdmission := admission, settlementId := settlementId }) fun failure => do
    let releasedCleanly ← releaseActiveLeases chat.caller.apiClientId modelPoolPolicy.poolId
      chat.operationId
    let locals ← get
    if !releasedCleanly && !locals.terminalCommitted then throw .controlPlaneUnavailable
    else throw failure

/-! ## The shared steps -/

section Shared

variable {service} {Result : Type}

theorem raiseExternal_bind {Other : Type} (code : ErrorCode) (operationId : Option String)
    (rest : Result → Action Other) :
    (raiseExternal code operationId >>= rest) = raiseExternal code operationId := by
  unfold raiseExternal
  rw [bind_assoc]
  rfl

theorem ite_bind {Other : Type} {condition : Prop} [Decidable condition] (yes no : Action Result)
    (rest : Result → Action Other) :
    ((if condition then yes else no) >>= rest) =
      if condition then yes >>= rest else no >>= rest := by
  split <;> rfl

theorem throw_bind {Other : Type} (failure : Failure) (rest : Result → Action Other) :
    ((throw failure : Action Result) >>= rest) = throw failure := rfl

/-- The check of the reservation, with what follows it. -/
theorem requireEvidence_bind (admission : ChatAdmission) (credit : CreditOperationSnapshot)
    (rest : Unit → Action Result) :
    (requireEvidence admission (validReservation admission credit) >>= rest) =
      if credit.operationId ≠ admission.operationId ∨
          credit.serviceUserId ≠ admission.policy.serviceUserId ∨
          credit.modelId ≠ admission.request.model ∨ credit.provider ≠ some "bifrost" ∨
          credit.status ≠ .pending ∨
          credit.usageOperationId ≠ some (usageOperationIdOf admission.operationId) then
        raiseExternal .controlPlaneUnavailable (some admission.operationId)
      else rest () := by
  unfold requireEvidence
  rw [ite_bind, raiseExternal_bind, pure_bind]
  have same : validReservation admission credit = true ↔
      ¬(credit.operationId ≠ admission.operationId ∨
          credit.serviceUserId ≠ admission.policy.serviceUserId ∨
          credit.modelId ≠ admission.request.model ∨ credit.provider ≠ some "bifrost" ∨
          credit.status ≠ .pending ∨
          credit.usageOperationId ≠ some (usageOperationIdOf admission.operationId)) := by
    simp only [validReservation, sameIdentity, Bool.and_eq_true, decide_eq_true_eq, not_or, not_not,
      ne_eq]
    tauto
  by_cases valid : validReservation admission credit = true
  · rw [if_pos valid, if_neg (same.mp valid)]
  · rw [if_neg valid, if_pos (not_not.mp (mt same.mpr valid))]

/-- A handler that never returns, before and after a last step of the body. -/
theorem tryCatch_map {Other : Type} (body : Action Result) (value : Result → Other)
    {handler : Failure → Action Result} {raised : Failure → Action Other}
    (raises : ∀ failure, (handler failure >>= fun result => pure (value result)) = raised failure) :
    (tryCatch body handler >>= fun result => pure (value result)) =
      tryCatch (body >>= fun result => pure (value result)) raised := by
  funext locals
  refine (Program.bind_assoc _ _ _).trans (Eq.trans ?_ (Program.bind_assoc _ _ _).symm)
  refine congrArg (Program.bind _) (funext ?_)
  rintro ⟨outcome, reached⟩
  cases outcome with
  | ok result => rfl
  | error failure => exact congrFun (raises failure) reached

theorem releaseOrRaise_throw (admission : ChatAdmission) (value : String → Result)
    (failure : Failure) :
    ((do
      admission.releaseOrRaise
      throw failure : Action String) >>= fun settlementId => pure (value settlementId)) = (do
        let releasedCleanly ← releaseActiveLeases admission.caller.apiClientId
          admission.modelPoolId admission.operationId
        let locals ← get
        if !releasedCleanly && !locals.terminalCommitted then throw .controlPlaneUnavailable
        else throw failure) := by
  simp only [ChatAdmission.releaseOrRaise, ChatAdmission.release, bind_assoc, ite_bind,
    throw_bind, pure_bind]

theorem execute_eq (chat : ChatRequest) : execute service chat = Chat.execute service chat := by
  unfold execute Chat.execute requirePayload
  cases chat.request.requireNonStreaming with
  | error failure =>
      cases failure with
      | externalPayload code => exact (raiseExternal_bind _ _ _).symm
      | valueError message => rfl
  | ok done =>
      simp only [admitRequest, loadPolicy, acquireConcurrency, bind_assoc, ite_bind,
        raiseExternal_bind, throw_bind, pure_bind, executeAdmitted, openCredit, reserveQuota, reservedTokens,
        reserveCredit, requireEvidence_bind, terminalizeLeased, ChatAdmission.operationTime]
      refine bind_congr fun operationStartedAt => bind_congr fun startedNs =>
        bind_congr fun claimed => if_congr Iff.rfl rfl ?_
      refine bind_congr fun policy => if_congr Iff.rfl rfl (if_congr Iff.rfl rfl ?_)
      refine bind_congr fun qps => bind_congr fun _ => if_congr Iff.rfl rfl ?_
      refine bind_congr fun pool => bind_congr fun concurrency => bind_congr fun _ =>
        if_congr Iff.rfl rfl (bind_congr fun _ => ?_)
      refine congrArg₂ Routine.andFinally ?_ rfl
      cases chat.request.admittedOutputTokens policy.maxOutputTokensPerRequest
          service.globalMaxOutputTokens with
      | error failure =>
        cases failure with
        | externalPayload code => exact (raiseExternal_bind _ _ _).symm
        | valueError message => rfl
      | ok admitted => rfl

theorem prepareStream_eq (chat : ChatRequest) :
    prepareStream service chat = Chat.prepareStream service chat := by
  unfold prepareStream Chat.prepareStream
  refine if_congr Iff.rfl rfl ?_
  simp only [admitRequest, loadPolicy, acquireConcurrency, bind_assoc, ite_bind,
    raiseExternal_bind, throw_bind, pure_bind, openCredit, reserveQuota, reservedTokens,
    reserveCredit, requireEvidence_bind, terminalizeLeased, ChatAdmission.operationTime]
  refine bind_congr fun operationStartedAt => bind_congr fun startedNs =>
    bind_congr fun claimed => if_congr Iff.rfl rfl ?_
  refine bind_congr fun policy => if_congr Iff.rfl rfl (if_congr Iff.rfl rfl ?_)
  refine bind_congr fun qps => bind_congr fun _ => if_congr Iff.rfl rfl ?_
  refine bind_congr fun pool => bind_congr fun concurrency => bind_congr fun _ =>
    if_congr Iff.rfl rfl (bind_congr fun _ => ?_)
  refine Eq.trans ?_ (tryCatch_map _ _ (releaseOrRaise_throw _ _)).symm
  refine congrArg₂ tryCatch ?_ rfl
  simp only [bind_assoc, ite_bind, raiseExternal_bind, pure_bind]
  cases chat.request.admittedOutputTokens policy.maxOutputTokensPerRequest
      service.globalMaxOutputTokens with
  | error failure =>
    cases failure with
    | externalPayload code => exact (raiseExternal_bind _ _ _).symm
    | valueError message => rfl
  | ok admitted => rfl

end Shared

/-! ## The stored flag -/

/-- Calls up to the stream flag that the ledger stores. -/
def flagless : View backend where
  call
    | .reserveQuota arguments => .reserveQuota { arguments with stream := false }
    | other => other
  answer sent := by cases sent <;> rfl

section Flag

variable {service} {left right : ReserveArguments}
  (same : flagless.call (.reserveQuota left) = flagless.call (.reserveQuota right))
include same

theorem wait_agree (timeout : Int) : Agree flagless Eq
    (wait (.reserveQuota left) timeout : Action (Option (Except Failure Unit)))
    (wait (.reserveQuota right) timeout) := by
  intro locals
  have waited (arguments : ReserveArguments) :
      ((wait (.reserveQuota arguments) timeout).start locals).seen flagless =
        .wait (.reserveQuota { arguments with stream := false }) timeout fun outcome =>
          .done (outcome, locals) := by
    refine congrArg (Program.wait _ _) (funext fun outcome => ?_)
    rcases outcome with failure | (_ | (failure | answer)) <;> rfl
  rw [waited left, waited right, show ({ left with stream := false } : ReserveArguments) =
    { right with stream := false } from Call.reserveQuota.inj same]
  exact .refl (fun outcome => by rcases outcome with ⟨failure | answer, _⟩ <;> constructor; rfl) _

theorem waitFor_agree (lease : ConcurrencyLeaseGuard) (bound : Nat) : Agree flagless Eq
    (lease.waitFor service (.reserveQuota left) bound : Action (Except Failure Unit))
    (lease.waitFor service (.reserveQuota right) bound) := by
  induction bound with
  | zero => exact .refl (fun _ => rfl) Routine.exhausted
  | succ bound inductionHypothesis =>
      unfold ConcurrencyLeaseGuard.waitFor
      refine .bind (.refl (fun _ => rfl) _) fun timeout _ sameTimeout => ?_
      subst sameTimeout
      refine .bind (wait_agree same timeout) fun completed _ sameCompleted => ?_
      subst sameCompleted
      cases completed with
      | some answer => exact .pure rfl
      | none => exact .bind (.refl (fun _ => rfl) _) fun _ _ _ => inductionHypothesis

/-- The reservation looks alike with either flag. -/
theorem run_agree (lease : ConcurrencyLeaseGuard) : Agree flagless Eq
    (lease.run service (.reserveQuota left) : Action Unit)
    (lease.run service (.reserveQuota right)) := by
  unfold ConcurrencyLeaseGuard.run
  refine .bind (.spawn same) fun _ _ _ => ?_
  refine .bind (.tryCatch (waitFor_agree same lease _) fun failure => ?_) fun answer _ sameAnswer => ?_
  · exact .bind (.abandon same) fun _ _ _ => .throw failure
  · subst sameAnswer
    exact .refl (fun _ => rfl) _

end Flag

theorem raiseExternal_agree {Result Other : Type} (code : ErrorCode) (operationId : Option String) :
    Agree flagless (fun _ _ => False) (raiseExternal code operationId : Action Result)
      (raiseExternal code operationId : Action Other) := by
  unfold raiseExternal
  refine .bind (.refl (fun _ => rfl) _) fun locals _ sameLocals => ?_
  subst sameLocals
  exact .throw _

/-! ## The agreement -/

/-- The same request with the given stream flag. -/
def withStream (chat : ChatRequest) (stream : Bool) : ChatRequest :=
  { chat with request := { chat.request with stream := stream } }

theorem admittedOutputTokens_withStream (chat : ChatRequest) (stream : Bool)
    (clientLimit globalLimit : Int) :
    (withStream chat stream).request.admittedOutputTokens clientLimit globalLimit =
      chat.request.admittedOutputTokens clientLimit globalLimit := rfl

/-- What `execute` goes on with once an admission is recorded. -/
def forwarding (chat : ChatRequest) (admission : StreamAdmission) : Interaction backend :=
  .spawned (Call.forwardChat (withStream chat false).request admission.policy.bifrostVirtualKey)

theorem methods_fail_alike (chat : ChatRequest) (oracle : Oracle backend) (locals : Locals)
    (before : Transcript backend) :
    FailsAlike (forwarding chat)
      ((execute service (withStream chat false)).play flagless oracle locals before)
      ((prepareStream service (withStream chat true)).play flagless oracle locals before) := by
  have same {Result : Type} (routine : Action Result) : Agree flagless Eq routine routine :=
    .refl (fun _ => rfl) routine
  have refused {Result Other : Type} {onwards : Other → Interaction backend} (code : ErrorCode)
      (operationId : Option String) (locals : Locals) (before : Transcript backend) :
      FailsAlike onwards ((raiseExternal code operationId : Action Result).play flagless oracle
        locals before) ((raiseExternal code operationId : Action Other).play flagless oracle
        locals before) := .of_agree (raiseExternal_agree code operationId)
  unfold execute prepareStream
  refine .bind (same _) fun operationStartedAt _ _ _ equal => ?_
  subst equal
  refine .bind (same _) fun startedNs _ _ _ equal => ?_
  subst equal
  refine .bind (same _) fun claimed _ _ _ equal => ?_
  subst equal
  refine .ite (fun _ => refused _ _ _ _) fun _ => ?_
  refine .bind (same _) fun policy _ _ _ equal => ?_
  subst equal
  refine .ite (fun _ => refused _ _ _ _) fun _ => .ite (fun _ => refused _ _ _ _) fun _ => ?_
  refine .bind (same _) fun qps _ _ _ equal => ?_
  subst equal
  refine .bind (same _) fun _ _ _ _ _ => .ite (fun _ => refused _ _ _ _) fun _ => ?_
  refine .bind (same _) fun pool _ _ _ equal => ?_
  subst equal
  refine .bind (same _) fun concurrency _ _ _ equal => ?_
  subst equal
  refine .bind (same _) fun _ _ _ _ _ => .ite (fun _ => ?_) fun _ => ?_
  · exact .bind (same _) fun _ _ _ _ _ => refused _ _ _ _
  refine .bind (same _) fun _ _ _ _ _ => .cleanup (fun failure => ?_) ?_
  · simp only [bind_assoc, ite_bind, throw_bind, pure_bind]
    rfl
  rw [admittedOutputTokens_withStream, admittedOutputTokens_withStream]
  cases chat.request.admittedOutputTokens policy.maxOutputTokensPerRequest
      service.globalMaxOutputTokens with
  | error failure =>
    cases failure with
    | externalPayload code =>
      exact .bind (raiseExternal_agree code none) fun _ _ _ _ impossible => impossible.elim
    | valueError message => exact .of_agree (.throw _)
  | ok admitted =>
  refine .bind (same _) fun tokens _ _ _ equal => ?_
  subst equal
  refine .bind (.tryCatch (run_agree (by rfl) _) fun failure => same _) fun _ _ _ _ _ => ?_
  refine .bind (same _) fun credit _ _ _ equal => ?_
  subst equal
  refine .ite (fun _ => refused _ _ _ _) fun _ => ?_
  refine .bind (same _) fun now _ _ _ equal => ?_
  subst equal
  refine .bind (same _) fun _ _ _ _ _ => .returned ?_
  exact Program.play_extends oracle _ _

/-- **Stream and non-stream admission agree.** Where `prepare_stream` fails, `execute`
ends with the same exception, headers and interactions; and where `execute` ends without
reaching the provider, `prepare_stream` does not return. -/
theorem stream_admission_agrees (service : ExternalChatService) (chat : ChatRequest)
    (oracle : Oracle backend) (locals : Locals) :
    FailsAlike (forwarding chat)
        ((execute service (withStream chat false)).play flagless oracle locals [])
        ((prepareStream service (withStream chat true)).play flagless oracle locals []) ∧
      ((∀ admission, forwarding chat admission ∉
          ((execute service (withStream chat false)).play flagless oracle locals []).2) →
        ∀ result left,
          ((prepareStream service (withStream chat true)).play flagless oracle locals []).1 ≠
            some (.ok result, left)) := by
  have alike := methods_fail_alike service chat oracle locals []
  refine ⟨alike, fun unreached result left returned => ?_⟩
  have goesOn := alike.returning result left _ (Prod.ext returned rfl)
  exact unreached result (goesOn.subset (List.mem_cons_self ..))

end Zangpu.Services.Chat.Methods
