import Zangpu.Services.Chat.Settlement

/-!
Live requests without a stream in the settlement protocol.

Owns: that the common beginning of `execute` and `prepare_stream` opens the account of
a request, and that `execute` keeps the protocol: it records the usage of the response
before it settles it, cancels only what was not used, and leaves a terminal record only
on evidence.

Does not own: streams, and recovery passes.
-/

set_option autoImplicit false

namespace Zangpu.Services.Chat

open Zangpu.Foundation
open Zangpu.Api
open Zangpu.Models
open Zangpu.Integrations.OpenWebUI
open Zangpu.Services.Quota
open Zangpu.Services.Streaming
open Zangpu.Workers.Recovery

variable {deployment : Deployment} {chat : ChatRequest} {admission : ChatAdmission}
  {account : Account} {locals : Locals} {settlementId : String}

/-- The admission is that of the request. -/
structure Serves (chat : ChatRequest) (admission : ChatAdmission) : Prop where
  request : admission.request = chat.request
  caller : admission.caller = chat.caller
  server : admission.serverRequestId = chat.serverRequestId
  operation : admission.operationId = chat.operationId

/-- The account of a request with a recorded credit reservation. -/
def Account.opening (chat : ChatRequest) (settlementId : String) : Account :=
  { Account.start chat with
    reserved := true
    settlementId := some settlementId
    opened := true }

theorem Account.isLive (account : Account) : (Standing.live account).IsLive := ⟨account, rfl⟩

theorem afterCall_live (call : Call) (answer : Except Failure call.Answer) :
    deployment.settlement.afterCall (.live account) call answer =
      .live ((account.sent call).answered deployment.service.parser call answer) := rfl

/-! ## Calls of a live request -/

/-- A call that the protocol takes no notice of leaves the account alone. -/
theorem await_unnoticed {call : Call} (unnoticed : call.isUnnoticed = true) :
    Obeys deployment.settlement (await call) locals (.live account) fun _ left reached =>
      left = locals ∧ reached = .live account := by
  apply Obeys.await
  · exact account.permitsCall_of_unnoticed unnoticed
  · intro answer _
    rw [afterCall_live, account.sent_of_unnoticed unnoticed,
      account.answered_of_unnoticed unnoticed]
    exact ⟨rfl, rfl⟩
  · intro failure _
    refine ⟨rfl, ?_⟩
    show Standing.live (account.sent call) = _
    rw [account.sent_of_unnoticed unnoticed]

/-- A call under the lease: its answer changes the account, a lost one only its
message. -/
theorem run_live {call : Call} (permitted : account.permitsCall call)
    {goal : Except Failure call.Answer → Locals → Standing → Prop}
    (answered : ∀ answer left, left.decoder = locals.decoder → goal answer left
      (.live ((account.sent call).heard deployment.service.parser call answer)))
    (failed : ∀ failure left, failure.isLocal = true → left.decoder = locals.decoder →
      goal (.error failure) left (.live (account.sent call))) :
    Obeys deployment.settlement (admission.lease.run deployment.service call) locals
      (.live account) goal := by
  refine run_obeys_local (settlement_overlooks deployment) permitted (account.sent call).isLive
    ?_ failed
  intro answer left _ same
  rw [afterCall_live, Account.answered_of_permitted permitted]
  exact answered answer left same

theorem operationTime_obeys :
    Obeys deployment.settlement admission.operationTime locals (.live account)
      fun outcome left reached =>
        left = locals ∧ reached = .live account ∧ ∃ now, outcome = .ok now := by
  apply Obeys.bind
  apply Obeys.observe
  exact fun reading => ⟨rfl, rfl, _, rfl⟩

/-- The record of a verdict has its status, its charge and its code. -/
theorem terminalFields_obeys {verdict : Verdict} (supports : account.supports verdict) :
    Obeys deployment.settlement (terminalFields admission verdict) locals (.live account)
      fun outcome left reached => left = locals ∧ reached = .live account ∧
        ∃ fields, outcome = .ok fields ∧ fields.status = verdict.status ∧
          fields.serverRequestId = admission.serverRequestId ∧ account.justifies fields := by
  apply Obeys.bind
  apply operationTime_obeys.mono
  rintro outcome left reached ⟨rfl, rfl, now, rfl⟩
  apply Obeys.bind
  apply Obeys.observe
  exact fun reading => ⟨rfl, rfl, _, rfl, rfl, rfl, verdict, supports, rfl, rfl, rfl⟩

theorem terminalizeLeased_live (serves : Serves chat admission) (same : account.chat = chat)
    (verdict : Verdict) (supports : account.supports verdict) :
    Obeys deployment.settlement (terminalizeLeased deployment.service admission verdict) locals
      (.live account) fun _ _ reached => reached.IsLive := by
  apply Obeys.bind
  apply (terminalFields_obeys supports).mono
  rintro outcome left reached ⟨rfl, rfl, fields, rfl, _, named, justifies⟩
  apply Obeys.bind
  apply run_live
  · refine ⟨?_, ?_, justifies⟩
    · rw [same, serves.operation]
    · rw [same, named, serves.server]
  · intro answer last _
    cases answer with
    | ok => exact Obeys.modify (Account.isLive _)
    | error failure => exact Account.isLive _
  · exact fun _ _ _ _ => Account.isLive _

/-! ## Admission -/

theorem loadPolicy_live (caller : AuthenticatedCaller) (now : Int) :
    Obeys deployment.settlement (loadPolicy caller now) locals (.live account)
      fun _ _ reached => reached = .live account := by
  apply Obeys.tryCatch
  apply (await_unnoticed rfl).mono
  rintro outcome left reached ⟨rfl, rfl⟩
  cases outcome with
  | ok policy => rfl
  | error failure => cases failure <;> rfl

/-- Admission leaves the account alone; what it admits is the request. -/
theorem admitRequest_live :
    Obeys deployment.settlement (admitRequest deployment.service chat) locals (.live account)
      fun outcome _ reached => reached = .live account ∧
        ∀ admission, outcome = .ok admission → Serves chat admission := by
  have overlooks := settlement_overlooks deployment
  have refused : ∀ (failure : Failure) (_ : Locals), Standing.live account = .live account ∧
      ∀ admission, (Except.error failure : Except Failure ChatAdmission) = .ok admission →
        Serves chat admission := fun _ _ => ⟨rfl, fun _ equal => by cases equal⟩
  apply Obeys.bind
  apply Obeys.observe
  intro operationStartedAt
  apply Obeys.bind
  apply Obeys.observe
  intro startedNs
  apply Quiet.obeys_bind (Quiet.awaitAny overlooks rfl) account.isLive refused
  intro claimed left
  split
  · exact refused _ left
  · apply Obeys.bind
    apply (loadPolicy_live chat.caller operationStartedAt).mono
    rintro outcome left reached rfl
    cases outcome with
    | error failure => exact refused failure left
    | ok policy =>
        dsimp only
        split
        · exact refused _ left
        · split
          · exact refused _ left
          · apply Quiet.obeys_bind (Quiet.awaitAny overlooks rfl) account.isLive refused
            intro qps _
            apply Quiet.obeys_bind (updateHeaders_quiet _ fun _ => True) account.isLive refused
            intro _ left
            split
            · exact refused _ left
            · apply Quiet.obeys_bind (acquireModelPool_quiet overlooks _ _ _) account.isLive
                refused
              intro poolPolicy _
              apply Quiet.obeys_bind (acquireConcurrency_quiet overlooks _ _ _ _)
                account.isLive refused
              intro concurrency _
              apply Quiet.obeys_bind (armTimer_quiet fun _ => True) account.isLive refused
              intro _ _
              refine ⟨rfl, ?_⟩
              intro admission equal
              cases equal
              exact ⟨rfl, rfl, rfl, rfl⟩

/-! ## Reservation -/

/-- The outcome of a routine that fails with the account of a live request. -/
def Ends {Result : Type} (met : Result → Locals → Standing → Prop) :
    Except Failure Result → Locals → Standing → Prop
  | .ok result, left, reached => met result left reached
  | .error _, _, reached => reached.IsLive

/-- The first part failed, or the rest goes on from what it met. -/
theorem Ends.bind {First Second : Type} {routine : Action First} {rest : First → Action Second}
    {standing : Standing} {met : First → Locals → Standing → Prop}
    {last : Second → Locals → Standing → Prop}
    (obeys : Obeys deployment.settlement routine locals standing (Ends met))
    (continues : ∀ result left reached, met result left reached →
      Obeys deployment.settlement (rest result) left reached (Ends last)) :
    Obeys deployment.settlement (routine >>= rest) locals standing (Ends last) := by
  apply Obeys.bind
  apply obeys.mono
  intro outcome left reached holds
  cases outcome with
  | ok result => exact continues result left reached holds
  | error failure => exact holds

theorem operationTime_ends :
    Obeys deployment.settlement admission.operationTime locals (.live account)
      (Ends fun _ left reached => left = locals ∧ reached = .live account) := by
  apply operationTime_obeys.mono
  rintro outcome left reached ⟨rfl, rfl, now, rfl⟩
  exact ⟨rfl, rfl⟩

theorem requireEvidence_ends (valid : Bool) :
    Obeys deployment.settlement (requireEvidence admission valid) locals (.live account)
      (Ends fun _ left reached => left = locals ∧ reached = .live account ∧ valid = true) := by
  cases valid with
  | true => exact Obeys.pure ⟨rfl, rfl, rfl⟩
  | false => exact account.isLive

theorem reservedTokens_ends :
    Obeys deployment.settlement (reservedTokens deployment.service admission) locals
      (.live account) (Ends fun _ left reached => left = locals ∧ reached = .live account) := by
  unfold reservedTokens
  split
  · exact Obeys.pure ⟨rfl, rfl⟩
  · exact account.isLive
  · exact account.isLive

theorem reserveQuota_ends (serves : Serves chat admission) (stream : Bool) :
    Obeys deployment.settlement (reserveQuota deployment.service admission stream) locals
      (.live (.start chat))
      (Ends fun _ _ reached => reached = .live { Account.start chat with reserved := true }) := by
  apply Ends.bind reservedTokens_ends
  rintro tokens left _ ⟨rfl, rfl⟩
  apply Obeys.tryCatch
  have permitted : (Account.start chat).permitsCall
      (.reserveQuota (reserveArguments admission stream tokens)) :=
    ⟨serves.operation, congrArg AuthenticatedCaller.apiClientId serves.caller,
      congrArg AuthenticatedCaller.requestId serves.caller,
      congrArg ChatCompletionRequest.model serves.request⟩
  apply run_live permitted
  · intro answer last _
    cases answer with
    | ok => rfl
    | error failure => cases failure <;> exact Account.isLive _
  · intro failure last _ _
    cases failure <;> exact Account.isLive _

/-- The two public codes of a refused reservation are those of its two refusals. -/
theorem refusal_of_creditError {error : UpstreamError}
    (refusal : creditError error = .creditBalanceExhausted ∨
      creditError error = .creditAccountFrozen) : error.code ∈ refusalCodes := by
  unfold creditError at refusal
  unfold refusalCodes
  split at refusal
  · rename_i exhausted
    rw [exhausted]
    exact List.mem_cons_self
  · split at refusal
    · rename_i frozen
      rw [frozen]
      exact List.mem_cons_of_mem _ List.mem_cons_self
    · split at refusal <;> simp at refusal

theorem reserveCredit_ends (serves : Serves chat admission) :
    Obeys deployment.settlement (reserveCredit deployment.service admission) locals
      (.live { Account.start chat with reserved := true })
      (Ends fun snapshot _ reached => reached = .live { Account.start chat with
        reserved := true
        settlementId := some snapshot.settlementId }) := by
  apply Obeys.tryCatch
  have permitted : { Account.start chat with reserved := true }.permitsCall (.reserveCredit
      admission.operationId admission.policy.serviceUserId admission.request.model
        (some "bifrost")) :=
    ⟨serves.operation, rfl, congrArg ChatCompletionRequest.model serves.request, rfl⟩
  apply run_live permitted
  · intro answer last _
    cases answer with
    | ok snapshot => rfl
    | error failure =>
        cases failure with
        | openWebUI error =>
            dsimp only
            split
            · -- a refusal for want of credit is the evidence for its record
              rename_i refusal
              have refused : error.code ∈ refusalCodes := refusal_of_creditError refusal
              apply Obeys.bind
              apply (terminalizeLeased_live serves rfl (.creditRejected _) (Or.inr ⟨rfl,
                by simp [Verdict.creditRejected], rfl, Or.inl ⟨?_, ?_⟩⟩)).mono
              · intro outcome final reached live
                cases outcome with
                | ok => exact live
                | error failure => exact live
              · show (false || decide (error.code ∈ refusalCodes)) = true
                rw [decide_eq_true refused]
                rfl
              · exact refusal.imp (congrArg some) (congrArg some)
            · exact Account.isLive _
        | _ => exact Account.isLive _
  · intro failure last isLocal _
    cases failure with
    | openWebUI error => cases isLocal
    | _ => exact Account.isLive _

/-- From the admitted request to the recorded credit reservation. -/
theorem openCredit_ends (serves : Serves chat admission) (stream : Bool) :
    Obeys deployment.settlement (openCredit deployment.service admission stream) locals
      (.live (.start chat))
      (Ends fun settlementId _ reached => reached = .live (.opening chat settlementId)) := by
  apply Ends.bind (reserveQuota_ends serves stream)
  rintro _ left _ rfl
  apply Ends.bind (reserveCredit_ends serves)
  rintro credit left _ rfl
  apply Ends.bind (requireEvidence_ends _)
  rintro _ left _ ⟨rfl, rfl, _⟩
  apply Ends.bind operationTime_ends
  rintro now left _ ⟨rfl, rfl⟩
  have recording : { Account.start chat with
      reserved := true
      settlementId := some credit.settlementId }.permitsCall (.recordCredit
        admission.operationId credit.settlementId (usageOperationIdOf admission.operationId) now) :=
    ⟨serves.operation, rfl, rfl⟩
  apply Obeys.bind
  apply run_live recording
  · intro answer last _
    cases answer with
    | ok => exact Obeys.pure rfl
    | error failure => exact Account.isLive _
  · exact fun _ _ _ _ => Account.isLive _

/-! ## The provider -/

/-- The account once the request was forwarded to the provider. -/
def Account.forwarding (chat : ChatRequest) (settlementId : String) : Account :=
  { Account.opening chat settlementId with forwarded := true }

/-- The account once the provider reported usage. -/
def Account.informed (chat : ChatRequest) (settlementId : String) (usage : ChatUsage) : Account :=
  { Account.forwarding chat settlementId with reported := [tokensOf usage] }

/-- A cancellation that passed its check is evidence. -/
theorem cancelled_of_valid {snapshot : CreditOperationSnapshot}
    (valid : validCancellation admission settlementId snapshot = true) :
    isCancelled snapshot.status = true := by
  simp only [validCancellation, Bool.and_eq_true, Bool.or_eq_true, decide_eq_true_eq] at valid
  obtain ⟨⟨_, status⟩, _⟩ := valid
  rcases status with cancelled | failed
  · rw [cancelled]
    rfl
  · rw [failed]
    rfl

/-- A settlement that passed its check confirms the tokens. -/
theorem confirms_of_valid {snapshot : CreditOperationSnapshot} {usage : ChatUsage}
    (valid : validSettlement admission settlementId usage snapshot = true) :
    Account.confirms usage.promptTokens usage.completionTokens snapshot = true := by
  simp only [validSettlement, Bool.and_eq_true, decide_eq_true_eq] at valid
  simp only [Account.confirms, Bool.and_eq_true, decide_eq_true_eq]
  obtain ⟨⟨⟨⟨_, status⟩, prompt⟩, completion⟩, _⟩ := valid
  exact ⟨⟨status, prompt⟩, completion⟩

theorem rejectProvider_live {Result : Type} (serves : Serves chat admission)
    (error : UpstreamError) :
    Obeys deployment.settlement
      (rejectProvider deployment.service admission settlementId error : Action Result) locals
      (.live (.forwarding chat settlementId)) fun outcome _ reached =>
        reached.IsLive ∧ ∃ failure, outcome = .error failure := by
  have raises : ∀ (code : ErrorCode) (left : Locals) (reached : Standing), reached.IsLive →
      Obeys deployment.settlement
        (raiseExternal code (some admission.operationId) : Action Result) left reached
        fun outcome _ last => last.IsLive ∧ ∃ failure, outcome = .error failure :=
    fun _ _ _ live => ⟨live, _, rfl⟩
  apply Obeys.bind
  apply Obeys.tryCatch
  have cancelling : (Account.forwarding chat settlementId).permitsCall (.cancelCredit
      admission.operationId admission.policy.serviceUserId) := ⟨serves.operation, rfl⟩
  apply run_live cancelling
  · intro answer last _
    cases answer with
    | error failure => cases failure <;> exact ⟨Account.isLive _, _, rfl⟩
    | ok snapshot =>
        apply Obeys.bind
        apply (requireEvidence_ends _).mono
        intro outcome left reached required
        cases outcome with
        | error failure => exact ⟨required, _, rfl⟩
        | ok =>
            obtain ⟨rfl, rfl, valid⟩ := required
            apply Obeys.bind
            apply (terminalizeLeased_live serves rfl (.providerRejected _ 0) (Or.inr ⟨rfl,
              by simp [Verdict.providerRejected], rfl, Or.inr ⟨?_, rfl⟩⟩)).mono
            · intro outcome left reached live
              cases outcome with
              | error failure => exact ⟨live, _, rfl⟩
              | ok => exact raises _ _ _ live
            · exact cancelled_of_valid valid
  · intro failure last _ _
    cases failure <;> exact ⟨Account.isLive _, _, rfl⟩

/-- A provider that answers leaves its usage reported. -/
theorem forwardChat_ends (serves : Serves chat admission) :
    Obeys deployment.settlement (forwardChat deployment.service admission settlementId) locals
      (.live (.opening chat settlementId))
      (Ends fun response _ reached =>
        reached = .live (.informed chat settlementId response.usage)) := by
  have rejects : ∀ (error : UpstreamError) (left : Locals), Obeys deployment.settlement
      (rejectProvider deployment.service admission settlementId error) left
      (.live (.forwarding chat settlementId)) (Ends fun response _ reached =>
        reached = .live (.informed chat settlementId
          (ChatCompletionResponse.usage response))) := by
    intro error left
    apply (rejectProvider_live serves error).mono
    rintro outcome last reached ⟨live, failure, rfl⟩
    exact live
  apply Obeys.tryCatch
  have permitted : (Account.opening chat settlementId).permitsCall (.forwardChat
      admission.request admission.policy.bifrostVirtualKey) := ⟨serves.request, rfl, rfl, rfl⟩
  apply run_live permitted
  · intro answer last _
    cases answer with
    | ok response => rfl
    | error failure =>
        cases failure with
        | bifrost error => exact rejects error last
        | _ => exact Account.isLive _
  · intro failure last _ _
    cases failure with
    | bifrost error => exact rejects error last
    | _ => exact Account.isLive _

/-- The account once the usage is recorded. -/
def Account.settling (chat : ChatRequest) (settlementId : String) (usage : ChatUsage) : Account :=
  { Account.informed chat settlementId usage with
    usage := some (tokensOf usage)
    recorded := some (tokensOf usage) }

/-- A settled response has the charge of a reply that confirmed its usage. -/
theorem settleResponse_ends (serves : Serves chat admission) (usage : ChatUsage) :
    Obeys deployment.settlement (settleResponse deployment.service admission settlementId usage)
      locals (.live (.informed chat settlementId usage))
      (Ends fun settled _ reached => reached = .live { Account.settling chat settlementId usage with
        charged := some settled.chargedMicro }) := by
  apply Ends.bind operationTime_ends
  rintro now left _ ⟨rfl, rfl⟩
  apply Obeys.bind
  have recording : (Account.informed chat settlementId usage).permitsCall (.recordUsage
      admission.operationId usage.promptTokens usage.completionTokens now) :=
    ⟨serves.operation, List.mem_cons_self, by simp [Account.informed, Account.forwarding,
      Account.opening, Account.start], Option.some_ne_none _, rfl, rfl⟩
  apply run_live recording
  · intro answer last _
    cases answer with
    | error failure => exact Account.isLive _
    | ok =>
        apply Obeys.bind
        apply Obeys.tryCatch
        have settling : (Account.settling chat settlementId usage).permitsCall (.settleCredit
            admission.operationId admission.policy.serviceUserId usage.promptTokens
              usage.completionTokens) := ⟨serves.operation, rfl⟩
        apply run_live settling
        · intro answer left _
          cases answer with
          | error failure => cases failure <;> exact Account.isLive _
          | ok snapshot =>
              apply Obeys.bind
              refine Follows.mono (requireEvidence_ends _) ?_
              rintro ⟨outcome, final⟩ reached required
              cases outcome with
              | error failure => exact required
              | ok =>
                  obtain ⟨rfl, rfl, valid⟩ := required
                  refine Obeys.pure ?_
                  show Standing.live (if _ then _ else _) = _
                  rw [if_pos (confirms_of_valid valid)]
                  rfl
        · intro failure left _ _
          cases failure <;> exact Account.isLive _
  · exact fun _ _ _ _ => Account.isLive _

theorem executeAdmitted_live (serves : Serves chat admission) :
    Obeys deployment.settlement (executeAdmitted deployment.service admission) locals
      (.live (.start chat)) fun _ _ reached => reached.IsLive := by
  have ended {Result : Type} : ∀ (outcome : Except Failure Result) (left : Locals)
      (reached : Standing), Ends (fun _ _ last => last.IsLive) outcome left reached →
        reached.IsLive := by
    intro outcome left reached holds
    cases outcome <;> exact holds
  refine Obeys.mono ?_ ended
  apply Ends.bind (openCredit_ends serves false)
  rintro settlementId left _ rfl
  apply Ends.bind (forwardChat_ends serves)
  rintro response left _ rfl
  apply Ends.bind (settleResponse_ends serves response.usage)
  rintro settled left _ rfl
  apply Obeys.bind
  apply (terminalizeLeased_live serves rfl (.completed settled.chargedMicro) (Or.inl rfl)).mono
  intro outcome left reached live
  cases outcome with
  | error failure => exact live
  | ok => exact live

/-- `execute` keeps the settlement protocol. -/
theorem execute_settles :
    Obeys deployment.settlement (execute deployment.service chat) locals (.live (.start chat))
      fun _ _ _ => True := by
  unfold execute
  have payload : Quiet deployment.settlement Standing.IsLive
      (requirePayload chat.request.requireNonStreaming) fun _ => True := by
    unfold requirePayload
    split
    · exact Quiet.pure _
    · exact raiseExternal_quiet _ _
    · exact Quiet.throw trivial
  apply Quiet.obeys_bind payload (Account.isLive _) fun _ _ => trivial
  intro _ left
  apply Obeys.bind
  apply admitRequest_live.mono
  rintro outcome left reached ⟨rfl, admits⟩
  cases outcome with
  | error failure => trivial
  | ok admission =>
      apply Obeys.andFinally
      apply (executeAdmitted_live (admits admission rfl)).mono
      intro outcome left reached live
      refine (releaseOrRaise_quiet (settlement_overlooks deployment) admission left reached
        live).mono ?_
      intro cleaned final last _
      cases cleaned <;> trivial

end Zangpu.Services.Chat
