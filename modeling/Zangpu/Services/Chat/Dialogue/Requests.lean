import Zangpu.Services.Chat.Dialogue

/-!
The dialogue of live requests.

Owns: that `execute` and `prepare_stream` with its stream keep the dialogue: their
admission, their credit reservation, the calls to the provider and the checks of
every credit reply; its consequence for every process of every run; and what the
history of a process has taught it.

Does not own: what the contents of the calls are good for.
-/

set_option autoImplicit false

namespace Zangpu.Services.Chat

open Zangpu.Foundation
open Zangpu.Api
open Zangpu.Models
open Zangpu.Integrations.OpenWebUI
open Zangpu.Services.Quota
open Zangpu.Services.Streaming

variable {deployment : Deployment} {chat : ChatRequest}

/-! ## Silent calls -/

/-- Calls that tell nothing: neither they nor their answers change what is learnt. -/
def Call.isSilent : Call → Bool
  | recordUsage _ _ _ _ | touchOperation _ _ | forwardChat _ _ | streamNext _ _ => true
  | call => call.isNeutral

theorem sent_of_isSilent {call : Call} (silent : call.isSilent = true) (dialogue : Dialogue) :
    dialogue.sent call = dialogue := by
  cases call <;> first | rfl | cases silent

theorem answered_of_isSilent {call : Call} (silent : call.isSilent = true) (dialogue : Dialogue)
    (answer : Except Failure call.Answer) : dialogue.answered chat call answer = dialogue := by
  cases call <;> first | (cases answer <;> rfl) | cases silent

theorem isConfirmedBy_of_isSilent {call : Call} (silent : call.isSilent = true) (check : Check) :
    check.isConfirmedBy call = false := by
  cases check <;> cases call <;> first | rfl | cases silent

/-- A call with the right contents is permitted while no confirmation is owed. -/
theorem permits_of_isSilent {call : Call} (silent : call.isSilent = true) {dialogue : Dialogue}
    (unowed : dialogue.isOwed = false)
    (tells : dialogue.tells deployment.service chat call) :
    deployment.conversation.permits (.live chat dialogue) (.sent call) :=
  ⟨dialogue.follows_of_rest unowed (isConfirmedBy_of_isSilent silent), tells⟩

theorem afterCall_of_isSilent {call : Call} (silent : call.isSilent = true) (dialogue : Dialogue)
    (answer : Except Failure call.Answer) :
    deployment.conversation.afterCall (.live chat dialogue) call answer = .live chat dialogue := by
  show Conversation.live chat ((dialogue.sent call).answered chat call answer) = _
  rw [sent_of_isSilent silent, answered_of_isSilent silent]

theorem afterSent_of_isSilent {call : Call} (silent : call.isSilent = true)
    (dialogue : Dialogue) :
    deployment.conversation.after (.live chat dialogue) (.sent call) = .live chat dialogue := by
  show Conversation.live chat (dialogue.sent call) = _
  rw [sent_of_isSilent silent]

/-! ## Knowledge -/

/-- What the dialogue knows of an admitted request. -/
structure Admits (chat : ChatRequest) (admission : ChatAdmission) (dialogue : Dialogue) :
    Prop where
  request : admission.request = chat.request
  operation : admission.operationId = chat.operationId
  policy : dialogue.policy = some admission.policy

/-- What it knows of one with an open credit operation. -/
structure Informs (service : ExternalChatService) (chat : ChatRequest) (admission : ChatAdmission)
    (settlementId : String) (dialogue : Dialogue) : Prop extends Admits chat admission dialogue where
  covered : dialogue.Covered service chat
  settlement : dialogue.settlementId = some settlementId

/-- A request that owes no confirmation. -/
def Idle (chat : ChatRequest) (conversation : Conversation) : Prop :=
  ∃ dialogue, conversation = .live chat dialogue ∧ dialogue.isOwed = false

/-- An open request that owes no confirmation. -/
def Open (deployment : Deployment) (chat : ChatRequest) (admission : ChatAdmission)
    (settlementId : String) (conversation : Conversation) : Prop :=
  ∃ dialogue, conversation = .live chat dialogue ∧ dialogue.isOwed = false ∧
    Informs deployment.service chat admission settlementId dialogue

/-- An open request with a verdict on the latest credit reply. -/
def Judged (deployment : Deployment) (chat : ChatRequest) (admission : ChatAdmission)
    (settlementId : String) (check : Check) (valid : Bool) (conversation : Conversation) : Prop :=
  ∃ dialogue, conversation = .live chat dialogue ∧ dialogue.verdict = some (check, valid) ∧
    Informs deployment.service chat admission settlementId dialogue

variable {admission : ChatAdmission} {settlementId : String} {locals : Locals}
  {dialogue : Dialogue} {conversation : Conversation}

theorem Open.idle (isOpen : Open deployment chat admission settlementId conversation) :
    Idle chat conversation := by
  obtain ⟨dialogue, same, unowed, _⟩ := isOpen
  exact ⟨dialogue, same, unowed⟩

/-- A reply that failed its check obliges to nothing. -/
theorem Judged.isOpen {check : Check}
    (judged : Judged deployment chat admission settlementId check false conversation) :
    Open deployment chat admission settlementId conversation := by
  obtain ⟨dialogue, same, verdict, informs⟩ := judged
  refine ⟨dialogue, same, ?_, informs⟩
  unfold Dialogue.isOwed
  rw [verdict]

theorem Informs.withVerdict
    (informs : Informs deployment.service chat admission settlementId dialogue)
    (verdict : Option (Check × Bool)) :
    Informs deployment.service chat admission settlementId { dialogue with verdict := verdict } where
  request := informs.request
  operation := informs.operation
  policy := informs.policy
  covered := informs.covered
  settlement := informs.settlement

theorem Idle.rests (idle : Idle chat conversation) : conversation.rests := by
  obtain ⟨dialogue, rfl, unowed⟩ := idle
  exact unowed

/-- A service user named by the policy. -/
theorem Admits.sameUser (admits : Admits chat admission dialogue)
    (snapshot : CreditOperationSnapshot) :
    dialogue.sameUser snapshot = decide (snapshot.serviceUserId = admission.policy.serviceUserId) := by
  unfold Dialogue.sameUser
  rw [admits.policy, Option.map_some]
  exact decide_eq_decide.mpr ⟨fun same => (Option.some.inj same).symm, fun same => by rw [same]⟩

/-- The identity check of the service is the operation and the user. -/
theorem Admits.sameIdentity (admits : Admits chat admission dialogue)
    (snapshot : CreditOperationSnapshot) :
    sameIdentity admission snapshot =
      (sameOperation chat snapshot && dialogue.sameUser snapshot) := by
  unfold Chat.sameIdentity sameOperation
  rw [admits.sameUser, admits.request, admits.operation]
  cases decide (snapshot.serviceUserId = admission.policy.serviceUserId) <;> simp

theorem Admits.validReservation (admits : Admits chat admission dialogue)
    (snapshot : CreditOperationSnapshot) :
    validReservation admission snapshot =
      (opens chat snapshot && dialogue.sameUser snapshot) := by
  unfold Chat.validReservation opens
  rw [admits.sameIdentity]
  cases dialogue.sameUser snapshot <;> simp

theorem Admits.validCancellation (admits : Admits chat admission dialogue)
    (snapshot : CreditOperationSnapshot) :
    validCancellation admission settlementId snapshot =
      (cancels chat settlementId snapshot && dialogue.sameUser snapshot) := by
  unfold Chat.validCancellation cancels
  rw [admits.sameIdentity]
  cases dialogue.sameUser snapshot <;> simp

theorem Admits.validSettlement (admits : Admits chat admission dialogue) (usage : ChatUsage)
    (snapshot : CreditOperationSnapshot) :
    validSettlement admission settlementId usage snapshot =
      (settles chat settlementId usage.promptTokens usage.completionTokens snapshot &&
        dialogue.sameUser snapshot) := by
  unfold Chat.validSettlement settles
  rw [admits.sameIdentity, usage.totalMatches]
  cases dialogue.sameUser snapshot <;> simp

/-! ## Terminal records -/

section Requests

variable (stream : Bool) (verdict : Verdict)

theorem operationTime_quiet {Phase : Type} {discipline : Discipline backend Phase}
    (raises : Failure → Prop) (admission : ChatAdmission) :
    Quiet discipline (fun _ => True) admission.operationTime raises :=
  Quiet.bind (Quiet.observe _) fun _ => Quiet.pure _

theorem terminalFields_quiet {Phase : Type} {discipline : Discipline backend Phase}
    (raises : Failure → Prop) (admission : ChatAdmission) :
    Quiet discipline (fun _ => True) (terminalFields admission verdict) raises :=
  Quiet.bind (operationTime_quiet _ admission) fun _ =>
    Quiet.bind (Quiet.observe _) fun _ => Quiet.pure _

theorem afterCall_terminalize {operationId : String} {fields : TerminalFields}
    (answer : Except Failure Unit) :
    deployment.conversation.afterCall (.live chat dialogue) (.terminalize operationId fields)
      answer = .live chat { dialogue with verdict := none } := by
  cases answer <;> rfl

/-- A terminal record settles what was owed, whether it is written or not. -/
theorem terminalizeLeased_obeys
    (follows : ∀ fields, dialogue.follows (.terminalize admission.operationId fields)) :
    Obeys deployment.conversation (terminalizeLeased deployment.service admission verdict) locals
      (.live chat dialogue) fun _ _ reached =>
        reached = .live chat { dialogue with verdict := none } := by
  apply Obeys.bind
  refine (terminalFields_quiet verdict (fun _ => False) admission locals _ trivial).mono ?_
  rintro outcome left reached ⟨rfl, _, neverRaises⟩
  cases outcome with
  | error failure => exact absurd rfl (neverRaises failure)
  | ok fields =>
      apply Obeys.bind
      apply run_obeys (conversation_overlooks deployment)
      · exact ⟨follows fields, trivial⟩
      · rfl
      · intro answer last _ _
        rw [afterCall_terminalize]
        cases answer with
        | ok => exact Obeys.modify rfl
        | error failure => rfl
      · exact fun failure last _ => rfl

theorem follows_of_judged {check : Check} {valid : Bool} {call : Call}
    (judged : dialogue.verdict = some (check, valid)) (confirms : check.isConfirmedBy call = valid) :
    dialogue.follows call := by
  unfold Dialogue.follows
  rw [judged]
  exact confirms

theorem follows_of_fresh (fresh : dialogue.verdict = none) (call : Call) :
    dialogue.follows call := by
  unfold Dialogue.follows
  rw [fresh]
  trivial

/-- The terminal record after a concluding reply that passed. -/
theorem confirmed_obeys (judged :
      Judged deployment chat admission settlementId .conclusion true conversation) :
    Obeys deployment.conversation (terminalizeLeased deployment.service admission verdict) locals
      conversation fun _ _ reached => Open deployment chat admission settlementId reached := by
  obtain ⟨dialogue, rfl, passed, informs⟩ := judged
  apply (terminalizeLeased_obeys verdict fun _ => follows_of_judged passed rfl).mono
  rintro outcome left reached rfl
  exact ⟨_, rfl, rfl, informs.withVerdict none⟩

end Requests

/-! ## Admission -/

/-- Only the caller's policy is learnt when it is read. -/
theorem loadPolicy_obeys (now : Int) (fresh : dialogue.verdict = none) :
    Obeys deployment.conversation (loadPolicy chat.caller now) locals (.live chat dialogue)
      fun outcome _ reached =>
        match outcome with
        | .ok policy => reached = .live chat { dialogue with policy := some policy }
        | .error _ => Idle chat reached := by
  have unowed : dialogue.isOwed = false := by simp [Dialogue.isOwed, fresh]
  have asked : Obeys deployment.conversation (await (.loadPolicy chat.caller now)) locals
      (.live chat dialogue) fun outcome _ reached =>
        match outcome with
        | .ok policy => reached = .live chat { dialogue with policy := some policy }
        | .error _ => reached = .live chat dialogue := by
    apply Obeys.await
    · exact ⟨follows_of_fresh fresh _, trivial⟩
    · intro answer _
      cases answer <;> rfl
    · exact fun failure _ => rfl
  apply Obeys.tryCatch
  apply asked.mono
  intro outcome left reached learnt
  cases outcome with
  | ok policy => exact learnt
  | error failure =>
      subst learnt
      have idle : Idle chat (.live chat dialogue) := ⟨dialogue, rfl, unowed⟩
      cases failure with
      | callerPolicy code => exact idle
      | _ => exact idle

/-- An admitted request has learnt its policy and nothing else. -/
theorem admitRequest_obeys :
    Obeys deployment.conversation (admitRequest deployment.service chat) locals
      (.live chat .start) fun outcome _ reached =>
        match outcome with
        | .ok admission => ∃ dialogue, reached = .live chat dialogue ∧
            dialogue.verdict = none ∧ dialogue.reservation = none ∧
            Admits chat admission dialogue
        | .error _ => Idle chat reached := by
  have overlooks := conversation_overlooks deployment
  have start : Idle chat (.live chat .start) := ⟨.start, rfl, rfl⟩
  apply Obeys.bind
  apply Obeys.observe
  intro operationStartedAt
  apply Obeys.bind
  apply Obeys.observe
  intro startedNs
  apply Quiet.obeys_bind (Quiet.awaitAny overlooks rfl) start.rests fun _ _ => start
  intro claimed left
  split
  · exact start
  · apply Obeys.bind
    refine (loadPolicy_obeys operationStartedAt rfl).mono ?_
    rintro outcome last reached learnt
    cases outcome with
    | error failure => exact learnt
    | ok policy =>
        subst learnt
        have idle : Idle chat (.live chat { Dialogue.start with policy := some policy }) :=
          ⟨_, rfl, rfl⟩
        dsimp only
        split
        · exact idle
        · split
          · exact idle
          · apply Quiet.obeys_bind (Quiet.awaitAny overlooks rfl) idle.rests fun _ _ => idle
            intro qps _
            apply Quiet.obeys_bind (updateHeaders_quiet _ fun _ => True) idle.rests
              fun _ _ => idle
            intro _ _
            split
            · exact idle
            · apply Quiet.obeys_bind (acquireModelPool_quiet overlooks _ _ _) idle.rests
                fun _ _ => idle
              intro poolPolicy _
              apply Quiet.obeys_bind (acquireConcurrency_quiet overlooks _ _ _ _) idle.rests
                fun _ _ => idle
              intro concurrency _
              apply Quiet.obeys_bind (armTimer_quiet fun _ => True) idle.rests fun _ _ => idle
              exact fun _ _ => ⟨_, rfl, rfl, rfl, rfl, rfl, rfl⟩

/-! ## Reservation -/

section Reservation

variable (stream : Bool)

/-- The tokens to reserve are those the dialogue calls for. -/
theorem reservedTokens_obeys (admits : Admits chat admission dialogue) :
    Obeys deployment.conversation (reservedTokens deployment.service admission) locals
      (.live chat dialogue) fun outcome _ reached =>
        reached = .live chat dialogue ∧
          ∀ tokens, outcome = .ok tokens → dialogue.covers deployment.service chat tokens := by
  unfold reservedTokens
  split
  · rename_i admitted counted
    refine Obeys.pure ⟨rfl, ?_⟩
    intro tokens equal
    obtain rfl := Except.ok.inj equal
    rw [admits.request] at counted ⊢
    exact ⟨_, admitted, admits.policy, counted, rfl⟩
  · exact ⟨rfl, fun _ equal => by cases equal⟩
  · exact ⟨rfl, fun _ equal => by cases equal⟩

theorem Admits.reserved (admits : Admits chat admission dialogue)
    (reservation : Option ReserveArguments) :
    Admits chat admission { dialogue with reservation := reservation } :=
  ⟨admits.request, admits.operation, admits.policy⟩

/-- A reservation covers the estimate and the admitted output. -/
theorem reserveQuota_obeys (admits : Admits chat admission dialogue)
    (fresh : dialogue.verdict = none) (unreserved : dialogue.reservation = none) :
    Obeys deployment.conversation (reserveQuota deployment.service admission stream) locals
      (.live chat dialogue) fun outcome _ reached =>
        match outcome with
        | .ok () => ∃ learnt, reached = .live chat learnt ∧ learnt.verdict = none ∧
            Admits chat admission learnt ∧ learnt.Covered deployment.service chat
        | .error _ => Idle chat reached := by
  have unowed : dialogue.isOwed = false := by simp [Dialogue.isOwed, fresh]
  apply Obeys.bind
  refine (reservedTokens_obeys admits).mono ?_
  rintro outcome left reached ⟨rfl, covers⟩
  cases outcome with
  | error failure => exact ⟨dialogue, rfl, unowed⟩
  | ok tokens =>
      have covered := covers tokens rfl
      have asked : Obeys deployment.conversation (admission.lease.run deployment.service
          (.reserveQuota (reserveArguments admission stream tokens))) left (.live chat dialogue)
          fun outcome _ reached =>
            match outcome with
            | .ok () => reached = .live chat { dialogue with
                reservation := dialogue.reservation.or
                  (some (reserveArguments admission stream tokens)) }
            | .error _ => reached = .live chat dialogue := by
        apply run_obeys (conversation_overlooks deployment)
        · exact ⟨follows_of_fresh fresh _, admits.operation, covered⟩
        · exact unowed
        · intro answer _ _ _
          cases answer <;> rfl
        · exact fun _ _ _ => rfl
      apply Obeys.tryCatch
      apply asked.mono
      intro outcome last reached answered
      cases outcome with
      | ok =>
          refine ⟨_, answered, fresh, admits.reserved _, reserveArguments admission stream tokens,
            ?_, admits.operation, covered⟩
          rw [unreserved]
          rfl
      | error failure =>
          subst answered
          have idle : Idle chat (.live chat dialogue) := ⟨dialogue, rfl, unowed⟩
          cases failure with
          | quotaAdmission code operationId => exact idle
          | _ => exact idle

end Reservation

section Credit

variable (stream : Bool)

/-- The reply that opens an operation gives it its settlement and is judged. -/
theorem opened_judged (admits : Admits chat admission dialogue)
    (covered : dialogue.Covered deployment.service chat) (snapshot : CreditOperationSnapshot)
    {operationId serviceUserId modelId : String} {provider : Option String} :
    Judged deployment chat admission snapshot.settlementId .reservation
      (validReservation admission snapshot)
      (deployment.conversation.afterCall (.live chat dialogue)
        (.reserveCredit operationId serviceUserId modelId provider) (.ok snapshot)) := by
  refine ⟨_, rfl, ?_, ⟨admits.request, admits.operation, admits.policy⟩, covered, rfl⟩
  rw [admits.validReservation]
  rfl

/-- The calls of an admitted request to the credit service are for its user. -/
theorem Admits.addresses (admits : Admits chat admission dialogue) :
    dialogue.addresses chat admission.operationId admission.policy.serviceUserId :=
  ⟨admits.operation, by rw [admits.policy]; rfl⟩

theorem reserveCredit_obeys (admits : Admits chat admission dialogue)
    (covered : dialogue.Covered deployment.service chat) (fresh : dialogue.verdict = none) :
    Obeys deployment.conversation (reserveCredit deployment.service admission) locals
      (.live chat dialogue) fun outcome _ reached =>
        match outcome with
        | .ok snapshot => Judged deployment chat admission snapshot.settlementId .reservation
            (validReservation admission snapshot) reached
        | .error _ => Idle chat reached := by
  have unowed : dialogue.isOwed = false := by simp [Dialogue.isOwed, fresh]
  have idle : Idle chat (.live chat dialogue) := ⟨dialogue, rfl, unowed⟩
  have asked : Obeys deployment.conversation (admission.lease.run deployment.service
      (.reserveCredit admission.operationId admission.policy.serviceUserId
        admission.request.model (some "bifrost"))) locals (.live chat dialogue)
      fun outcome _ reached =>
        match outcome with
        | .ok snapshot => Judged deployment chat admission snapshot.settlementId .reservation
            (validReservation admission snapshot) reached
        | .error _ => reached = .live chat dialogue := by
    apply run_obeys (conversation_overlooks deployment)
    · exact ⟨follows_of_fresh fresh _, admits.addresses⟩
    · exact unowed
    · intro answer _ _ _
      cases answer with
      | ok snapshot => exact opened_judged admits covered snapshot
      | error failure => rfl
    · exact fun _ _ _ => rfl
  apply Obeys.tryCatch
  apply asked.mono
  intro outcome left reached answered
  cases outcome with
  | ok snapshot => exact answered
  | error failure =>
      subst answered
      cases failure with
      | openWebUI error =>
          dsimp only
          split
          · -- a refusal for want of credit is recorded as the end of the operation
            apply Obeys.bind
            apply (terminalizeLeased_obeys _ fun _ => follows_of_fresh fresh _).mono
            rintro terminal last after rfl
            cases terminal with
            | ok => exact ⟨_, rfl, rfl⟩
            | error failure => exact ⟨_, rfl, rfl⟩
          · exact idle
      | _ => exact idle

/-- Evidence that holds up is confirmed next; other evidence ends the request. -/
theorem requireEvidence_obeys {check : Check} {valid : Bool}
    (judged : Judged deployment chat admission settlementId check valid conversation) :
    Obeys deployment.conversation (requireEvidence admission valid) locals conversation
      fun outcome _ reached =>
        match outcome with
        | .ok () => Judged deployment chat admission settlementId check true reached
        | .error _ => Open deployment chat admission settlementId reached := by
  cases valid with
  | true => exact Obeys.pure judged
  | false => exact judged.isOpen

/-- From the admitted request to the recorded credit reservation. -/
theorem openCredit_obeys (admits : Admits chat admission dialogue)
    (fresh : dialogue.verdict = none) (unreserved : dialogue.reservation = none) :
    Obeys deployment.conversation (openCredit deployment.service admission stream) locals
      (.live chat dialogue) fun outcome _ reached =>
        match outcome with
        | .ok settlementId => Open deployment chat admission settlementId reached
        | .error _ => Idle chat reached := by
  apply Obeys.bind
  apply (reserveQuota_obeys stream admits fresh unreserved).mono
  intro outcome left reached reserved
  cases outcome with
  | error failure => exact reserved
  | ok =>
      obtain ⟨learnt, rfl, unjudged, admitted, covered⟩ := reserved
      apply Obeys.bind
      apply (reserveCredit_obeys admitted covered unjudged).mono
      intro outcome left reached credited
      cases outcome with
      | error failure => exact credited
      | ok credit =>
          apply Obeys.bind
          apply (requireEvidence_obeys credited).mono
          intro outcome left reached required
          cases outcome with
          | error failure => exact required.idle
          | ok =>
              obtain ⟨opened, rfl, passed, informs⟩ := required
              apply Obeys.bind
              refine (operationTime_quiet (fun _ => False) admission left _ trivial).mono ?_
              rintro outcome left reached ⟨rfl, _, neverRaises⟩
              cases outcome with
              | error failure => exact absurd rfl (neverRaises failure)
              | ok now =>
                  have recorded : Open deployment chat admission credit.settlementId
                      (.live chat { opened with verdict := none }) :=
                    ⟨_, rfl, rfl, informs.withVerdict none⟩
                  apply Obeys.bind
                  apply run_obeys (conversation_overlooks deployment)
                  · exact ⟨follows_of_judged passed rfl, trivial⟩
                  · rfl
                  · intro answer last _ _
                    cases answer with
                    | ok => exact recorded
                    | error failure => exact recorded.idle
                  · exact fun _ _ _ => recorded.idle

end Credit

/-! ## Calls of an open request -/

section Calls

variable {call : Call}

theorem await_silent (silent : call.isSilent = true)
    (tells : ∀ dialogue, Informs deployment.service chat admission settlementId dialogue →
      dialogue.tells deployment.service chat call) :
    Preserves deployment.conversation (Open deployment chat admission settlementId)
      (await call) := by
  rintro locals conversation ⟨dialogue, rfl, unowed, informs⟩
  have isOpen : Open deployment chat admission settlementId (.live chat dialogue) :=
    ⟨dialogue, rfl, unowed, informs⟩
  apply Obeys.await
  · exact permits_of_isSilent silent unowed (tells dialogue informs)
  · intro answer _
    rw [afterCall_of_isSilent silent]
    exact isOpen
  · intro failure _
    unfold Discipline.afterLoss
    rw [afterSent_of_isSilent silent]
    exact isOpen

/-- A silent call under the lease leaves an open request open. -/
theorem run_silent (silent : call.isSilent = true)
    (tells : ∀ dialogue, Informs deployment.service chat admission settlementId dialogue →
      dialogue.tells deployment.service chat call) :
    Preserves deployment.conversation (Open deployment chat admission settlementId)
      (admission.lease.run deployment.service call) := by
  rintro locals conversation ⟨dialogue, rfl, unowed, informs⟩
  have isOpen : Open deployment chat admission settlementId (.live chat dialogue) :=
    ⟨dialogue, rfl, unowed, informs⟩
  apply run_obeys (conversation_overlooks deployment)
  · exact permits_of_isSilent silent unowed (tells dialogue informs)
  · rw [afterSent_of_isSilent silent]
    exact unowed
  · intro answer _ _ _
    rw [afterCall_of_isSilent silent]
    exact isOpen
  · intro failure _ _
    rw [afterSent_of_isSilent silent]
    exact isOpen

/-- The provider is asked for the request whose tokens are reserved. -/
theorem Informs.tells_provider
    (informs : Informs deployment.service chat admission settlementId dialogue) :
    admission.request = chat.request ∧ dialogue.Covered deployment.service chat :=
  ⟨informs.request, informs.covered⟩

/-- A credit call that concludes the operation, with the check of its reply. -/
structure Concludes (deployment : Deployment) (chat : ChatRequest) (admission : ChatAdmission)
    (settlementId : String) (call : Call) (valid : call.Answer → Bool) : Prop where
  permits : ∀ dialogue, dialogue.isOwed = false →
    Informs deployment.service chat admission settlementId dialogue →
    deployment.conversation.permits (.live chat dialogue) (.sent call)
  sent : ∀ dialogue, deployment.conversation.after (.live chat dialogue) (.sent call) =
    .live chat dialogue
  judged : ∀ dialogue, Informs deployment.service chat admission settlementId dialogue →
    ∀ answer, Judged deployment chat admission settlementId .conclusion (valid answer)
      (deployment.conversation.afterCall (.live chat dialogue) call (.ok answer))
  failed : ∀ dialogue failure,
    deployment.conversation.afterCall (.live chat dialogue) call (.error failure) =
      .live chat dialogue

/-- A settlement for the counted tokens. -/
theorem settle_concludes (usage : ChatUsage) :
    Concludes deployment chat admission settlementId
      (.settleCredit admission.operationId admission.policy.serviceUserId usage.promptTokens
        usage.completionTokens) (validSettlement admission settlementId usage) where
  permits dialogue unowed informs :=
    ⟨dialogue.follows_of_rest unowed (fun check => by cases check <;> rfl), informs.addresses⟩
  sent _ := rfl
  judged dialogue informs answer := by
    refine ⟨_, rfl, ?_, ⟨informs.request, informs.operation, informs.policy⟩, informs.covered,
      informs.settlement⟩
    rw [informs.validSettlement]
    show some (Check.conclusion, Option.any _ dialogue.settlementId && _) = _
    rw [informs.settlement]
    rfl
  failed _ _ := rfl

theorem cancel_concludes :
    Concludes deployment chat admission settlementId
      (.cancelCredit admission.operationId admission.policy.serviceUserId)
      (validCancellation admission settlementId) where
  permits dialogue unowed informs :=
    ⟨dialogue.follows_of_rest unowed (fun check => by cases check <;> rfl), informs.addresses⟩
  sent _ := rfl
  judged dialogue informs answer := by
    refine ⟨_, rfl, ?_, ⟨informs.request, informs.operation, informs.policy⟩, informs.covered,
      informs.settlement⟩
    rw [informs.validCancellation]
    show some (Check.conclusion, Option.any _ dialogue.settlementId && _) = _
    rw [informs.settlement]
    rfl
  failed _ _ := rfl

namespace Concludes

variable {valid : call.Answer → Bool}

theorem await_obeys (concludes : Concludes deployment chat admission settlementId call valid)
    (isOpen : Open deployment chat admission settlementId conversation) :
    Obeys deployment.conversation (await call) locals conversation fun outcome _ reached =>
      match outcome with
      | .ok answer =>
          Judged deployment chat admission settlementId .conclusion (valid answer) reached
      | .error _ => Open deployment chat admission settlementId reached := by
  obtain ⟨dialogue, rfl, unowed, informs⟩ := isOpen
  have still : Open deployment chat admission settlementId (.live chat dialogue) :=
    ⟨dialogue, rfl, unowed, informs⟩
  apply Obeys.await
  · exact concludes.permits dialogue unowed informs
  · intro answer _
    cases answer with
    | ok answer => exact concludes.judged dialogue informs answer
    | error failure =>
        rw [concludes.failed]
        exact still
  · intro failure _
    unfold Discipline.afterLoss
    rw [concludes.sent]
    exact still

theorem run_obeys (concludes : Concludes deployment chat admission settlementId call valid)
    (isOpen : Open deployment chat admission settlementId conversation) :
    Obeys deployment.conversation (admission.lease.run deployment.service call) locals
      conversation fun outcome _ reached =>
        match outcome with
        | .ok answer =>
            Judged deployment chat admission settlementId .conclusion (valid answer) reached
        | .error _ => Open deployment chat admission settlementId reached := by
  obtain ⟨dialogue, rfl, unowed, informs⟩ := isOpen
  have still : Open deployment chat admission settlementId (.live chat dialogue) :=
    ⟨dialogue, rfl, unowed, informs⟩
  apply Chat.run_obeys (conversation_overlooks deployment)
  · exact concludes.permits dialogue unowed informs
  · rw [concludes.sent]
    exact unowed
  · intro answer _ _ _
    cases answer with
    | ok answer => exact concludes.judged dialogue informs answer
    | error failure =>
        rw [concludes.failed]
        exact still
  · intro failure _ _
    rw [concludes.sent]
    exact still

end Concludes

end Calls

/-! ## Requests without a stream -/

theorem raiseExternal_preserves {Result : Type} {kept : Conversation → Prop} (code : ErrorCode)
    (operationId : Option String) :
    Preserves deployment.conversation kept (raiseExternal code operationId : Action Result) :=
  Preserves.bind Preserves.get fun _ => Preserves.throw _

theorem Open.rests (isOpen : Open deployment chat admission settlementId conversation) :
    conversation.rests := isOpen.idle.rests

/-- A routine that takes no notice of the dialogue leaves it open. -/
theorem open_of_quiet {Result : Type} {routine : Action Result} {raises : Failure → Prop}
    (quiet : Quiet deployment.conversation Conversation.rests routine raises) :
    Preserves deployment.conversation (Open deployment chat admission settlementId) routine :=
  quiet.preserves fun _ isOpen => isOpen.rests

/-- A failed provider call is concluded by a cancellation, or left open. -/
theorem rejectProvider_preserves {Result : Type} (error : UpstreamError) :
    Preserves deployment.conversation (Open deployment chat admission settlementId)
      (rejectProvider deployment.service admission settlementId error : Action Result) := by
  intro locals conversation isOpen
  apply Obeys.bind
  apply Obeys.tryCatch
  apply (cancel_concludes.run_obeys isOpen).mono
  intro outcome left reached cancelled
  cases outcome with
  | error failure =>
      cases failure with
      | openWebUI error => exact cancelled
      | _ => exact cancelled
  | ok snapshot =>
      apply Obeys.bind
      apply (requireEvidence_obeys cancelled).mono
      intro outcome left reached required
      cases outcome with
      | error failure => exact required
      | ok =>
          apply Obeys.bind
          apply (confirmed_obeys _ required).mono
          intro outcome left reached confirmed
          cases outcome with
          | error failure => exact confirmed
          | ok => exact confirmed

theorem forwardChat_preserves :
    Preserves deployment.conversation (Open deployment chat admission settlementId)
      (forwardChat deployment.service admission settlementId) := by
  apply Preserves.tryCatch
  · exact run_silent rfl fun _ informs => informs.tells_provider
  · intro failure
    cases failure with
    | bifrost error => exact rejectProvider_preserves error
    | _ => exact Preserves.throw _

/-- The settlement of a response: its reply passed the check, or the request failed. -/
theorem settleResponse_obeys (usage : ChatUsage)
    (isOpen : Open deployment chat admission settlementId conversation) :
    Obeys deployment.conversation (settleResponse deployment.service admission settlementId usage)
      locals conversation fun outcome _ reached =>
        match outcome with
        | .ok _ => Judged deployment chat admission settlementId .conclusion true reached
        | .error _ => Open deployment chat admission settlementId reached := by
  have timed : Quiet deployment.conversation (fun _ => True) admission.operationTime
      fun _ => True := operationTime_quiet _ _
  apply Quiet.obeys_bind timed trivial fun _ _ => isOpen
  intro now left
  have recording : Preserves deployment.conversation
      (Open deployment chat admission settlementId)
      (admission.lease.run deployment.service (.recordUsage admission.operationId
        usage.promptTokens usage.completionTokens now)) := run_silent rfl fun _ _ => trivial
  apply Obeys.bind
  apply (recording left _ isOpen).mono
  intro outcome left reached recorded
  cases outcome with
  | error failure => exact recorded
  | ok =>
      apply Obeys.bind
      apply Obeys.tryCatch
      apply ((settle_concludes usage).run_obeys recorded).mono
      intro outcome left reached settled
      cases outcome with
      | error failure =>
          cases failure with
          | openWebUI error => exact settled
          | _ => exact settled
      | ok snapshot =>
          apply Obeys.bind
          apply (requireEvidence_obeys settled).mono
          intro outcome left reached required
          cases outcome with
          | error failure => exact required
          | ok => exact required

theorem executeAdmitted_obeys (admits : Admits chat admission dialogue)
    (fresh : dialogue.verdict = none) (unreserved : dialogue.reservation = none) :
    Obeys deployment.conversation (executeAdmitted deployment.service admission) locals
      (.live chat dialogue) fun _ _ reached => Idle chat reached := by
  apply Obeys.bind
  apply (openCredit_obeys false admits fresh unreserved).mono
  intro outcome left reached opened
  cases outcome with
  | error failure => exact opened
  | ok settlementId =>
      apply Obeys.bind
      apply (forwardChat_preserves left reached opened).mono
      intro outcome left reached forwarded
      cases outcome with
      | error failure => exact forwarded.idle
      | ok response =>
          apply Obeys.bind
          apply (settleResponse_obeys response.usage forwarded).mono
          intro outcome left reached settled
          cases outcome with
          | error failure => exact settled.idle
          | ok snapshot =>
              apply Obeys.bind
              apply (confirmed_obeys _ settled).mono
              intro outcome left reached confirmed
              cases outcome with
              | error failure => exact confirmed.idle
              | ok => exact confirmed.idle

/-- `execute` keeps the dialogue. -/
theorem execute_obeys :
    Obeys deployment.conversation (execute deployment.service chat) locals (.live chat .start)
      fun _ _ _ => True := by
  unfold execute
  have payload : Quiet deployment.conversation Conversation.rests
      (requirePayload chat.request.requireNonStreaming) fun _ => True := by
    unfold requirePayload
    split
    · exact Quiet.pure _
    · exact raiseExternal_quiet _ _
    · exact Quiet.throw trivial
  apply Quiet.obeys_bind payload (show Conversation.rests (.live chat .start) from rfl)
    fun _ _ => trivial
  intro _ left
  apply Obeys.bind
  apply admitRequest_obeys.mono
  intro outcome left reached admitted
  cases outcome with
  | error failure => trivial
  | ok admission =>
      obtain ⟨dialogue, rfl, fresh, unreserved, admits⟩ := admitted
      apply Obeys.andFinally
      apply (executeAdmitted_obeys admits fresh unreserved).mono
      intro outcome left reached idle
      refine (releaseOrRaise_quiet (conversation_overlooks deployment) admission left reached
        idle.rests).mono ?_
      intro cleaned final last _
      cases cleaned <;> trivial

/-! ## Streams -/

section Streams

variable {streaming : StreamAdmission}

/-- The open request of a stream. -/
abbrev OpenStream (deployment : Deployment) (chat : ChatRequest) (streaming : StreamAdmission) :
    Conversation → Prop :=
  Open deployment chat streaming.toChatAdmission streaming.settlementId

theorem emit_preserves (frame : Frame) :
    Preserves deployment.conversation (OpenStream deployment chat streaming) (emit frame) := by
  rintro locals conversation ⟨dialogue, rfl, unowed, informs⟩
  apply Obeys.emit
  · exact unowed
  · exact ⟨dialogue, rfl, unowed, informs⟩
  · exact fun _ _ => ⟨dialogue, rfl, unowed, informs⟩

/-- The terminal record of a stream, after a concluding reply that passed. -/
theorem terminalize_obeys (verdict : Verdict) (judged : Judged deployment chat admission
      settlementId .conclusion true conversation) :
    Obeys deployment.conversation (terminalize admission verdict) locals conversation
      fun _ _ reached => Open deployment chat admission settlementId reached := by
  obtain ⟨dialogue, rfl, passed, informs⟩ := judged
  have still : Open deployment chat admission settlementId
      (.live chat { dialogue with verdict := none }) := ⟨_, rfl, rfl, informs.withVerdict none⟩
  apply Obeys.bind
  refine (terminalFields_quiet verdict (fun _ => False) admission locals _ trivial).mono ?_
  rintro outcome left reached ⟨rfl, _, neverRaises⟩
  cases outcome with
  | error failure => exact absurd rfl (neverRaises failure)
  | ok fields =>
      apply Obeys.await
      · exact ⟨follows_of_judged passed rfl, trivial⟩
      · intro answer _
        rw [afterCall_terminalize]
        exact still
      · exact fun _ _ => still

theorem settleStream_obeys (usage : ChatUsage)
    (isOpen : OpenStream deployment chat streaming conversation) :
    Obeys deployment.conversation (settleStream streaming usage) locals conversation
      fun outcome _ reached =>
        match outcome with
        | .ok _ => Judged deployment chat streaming.toChatAdmission streaming.settlementId
            .conclusion true reached
        | .error _ => OpenStream deployment chat streaming reached := by
  have timed : Quiet deployment.conversation (fun _ => True) streaming.operationTime
      fun _ => True := operationTime_quiet _ _
  apply Quiet.obeys_bind timed trivial fun _ _ => isOpen
  intro now left
  have recording : Preserves deployment.conversation (OpenStream deployment chat streaming)
      (await (.recordUsage streaming.operationId usage.promptTokens usage.completionTokens now)) :=
    await_silent rfl fun _ _ => trivial
  apply Obeys.bind
  apply (recording left _ isOpen).mono
  intro outcome left reached recorded
  cases outcome with
  | error failure => exact recorded
  | ok =>
      apply Obeys.bind
      apply ((settle_concludes usage).await_obeys recorded).mono
      intro outcome left reached settled
      cases outcome with
      | error failure => exact settled
      | ok snapshot =>
          apply Obeys.bind
          apply (requireEvidence_obeys settled).mono
          intro outcome left reached required
          cases outcome with
          | error failure => exact required
          | ok => exact required

theorem cancelStream_obeys (isOpen : OpenStream deployment chat streaming conversation) :
    Obeys deployment.conversation (cancelStream streaming) locals conversation
      fun outcome _ reached =>
        match outcome with
        | .ok _ => Judged deployment chat streaming.toChatAdmission streaming.settlementId
            .conclusion true reached
        | .error _ => OpenStream deployment chat streaming reached := by
  apply Obeys.bind
  apply (cancel_concludes.await_obeys isOpen).mono
  intro outcome left reached cancelled
  cases outcome with
  | error failure => exact cancelled
  | ok snapshot => exact requireEvidence_obeys cancelled

theorem finishStreamFailure_preserves (verdict : Int → Verdict) :
    Preserves deployment.conversation (OpenStream deployment chat streaming)
      (finishStreamFailure streaming verdict) := by
  intro locals conversation isOpen
  have terminal : ∀ chargedMicro left reached,
      Judged deployment chat streaming.toChatAdmission streaming.settlementId .conclusion true
        reached →
      Obeys deployment.conversation (terminalize streaming.toChatAdmission (verdict chargedMicro))
        left reached fun _ _ last => OpenStream deployment chat streaming last :=
    fun _ _ _ judged => terminalize_obeys _ judged
  apply Obeys.bind
  apply Obeys.get
  dsimp only
  split
  · apply Obeys.bind
    apply (cancelStream_obeys isOpen).mono
    intro outcome left reached cancelled
    cases outcome with
    | error failure => exact cancelled
    | ok => exact terminal 0 left reached cancelled
  · apply Obeys.bind
    apply (settleStream_obeys _ isOpen).mono
    intro outcome left reached settled
    cases outcome with
    | error failure => exact settled
    | ok chargedMicro => exact terminal chargedMicro left reached settled

theorem tryFinishStreamFailure_preserves (verdict : Int → Verdict) :
    Preserves deployment.conversation (OpenStream deployment chat streaming)
      (tryFinishStreamFailure streaming verdict) := by
  apply Preserves.tryCatch
  · exact Preserves.bind (finishStreamFailure_preserves verdict) fun _ => Preserves.pure _
  · intro failure
    split
    · exact Preserves.pure _
    · exact Preserves.throw _

theorem heartbeatStream_preserves :
    Preserves deployment.conversation (OpenStream deployment chat streaming)
      (heartbeatStream deployment.service streaming) := by
  have timed : Quiet deployment.conversation (fun _ => True) streaming.operationTime
      fun _ => True := operationTime_quiet _ _
  apply Preserves.bind (open_of_quiet (heartbeat_quiet (conversation_overlooks deployment) _))
  intro _
  apply Preserves.bind (timed.preserves fun _ _ => trivial)
  intro now
  have touching : Preserves deployment.conversation (OpenStream deployment chat streaming)
      (await (.touchOperation streaming.operationId now)) := await_silent rfl fun _ _ => trivial
  apply Preserves.bind touching
  intro touched
  split
  · exact Preserves.throw _
  · exact Preserves.pure _

theorem closeStreamIterator_preserves :
    Preserves deployment.conversation (OpenStream deployment chat streaming)
      closeStreamIterator := by
  apply Preserves.tryCatch
  · exact Preserves.bind (open_of_quiet (Quiet.awaitAny (conversation_overlooks deployment) rfl))
      fun _ => Preserves.pure _
  · intro failure
    split
    · exact Preserves.pure _
    · exact Preserves.throw _

theorem feedChunk_preserves (chunk : Bytes) {kept : Conversation → Prop} :
    Preserves deployment.conversation kept (feedChunk deployment.service chunk) := by
  apply Preserves.bind Preserves.get
  intro locals
  apply Preserves.bind
  · exact fun _ _ holds => holds
  · intro _
    dsimp only
    split
    · exact Preserves.pure _
    · exact Preserves.throw _

theorem finishDecoder_preserves {kept : Conversation → Prop} :
    Preserves deployment.conversation kept finishDecoder := by
  apply Preserves.bind Preserves.get
  intro locals
  split
  · exact Preserves.pure _
  · exact Preserves.throw _

theorem finishStream_preserves :
    Preserves deployment.conversation (OpenStream deployment chat streaming)
      (finishStream streaming) := by
  intro locals conversation isOpen
  apply Obeys.bind
  apply Obeys.get
  dsimp only
  split
  · exact Obeys.throw isOpen
  · apply Obeys.bind
    apply (settleStream_obeys _ isOpen).mono
    intro outcome left reached settled
    cases outcome with
    | error failure => exact settled
    | ok chargedMicro =>
        apply Obeys.bind
        apply (terminalize_obeys _ settled).mono
        intro outcome left reached confirmed
        cases outcome with
        | error failure => exact confirmed
        | ok =>
            apply Obeys.bind
            apply Obeys.modify
            exact emit_preserves .done _ reached confirmed

theorem relayFrames_preserves (frames : List Bytes) :
    Preserves deployment.conversation (OpenStream deployment chat streaming)
      (relayFrames streaming frames) := by
  induction frames with
  | nil => exact Preserves.pure _
  | cons frame rest inductionHypothesis =>
      unfold relayFrames
      split
      · exact Preserves.bind (emit_preserves _) fun _ => inductionHypothesis
      · exact Preserves.bind finishStream_preserves fun _ => Preserves.pure _

/-- The read of the next chunk is for the request whose tokens are reserved. -/
theorem nextChunk_tells (informs : Informs deployment.service chat streaming.toChatAdmission
      streaming.settlementId dialogue) :
    dialogue.tells deployment.service chat (nextChunk streaming) := informs.tells_provider

theorem ensureRead_preserves :
    Preserves deployment.conversation (OpenStream deployment chat streaming)
      (ensureRead streaming) := by
  apply Preserves.bind Preserves.get
  intro locals
  split
  · exact Preserves.pure _
  · apply Preserves.bind
    · rintro locals conversation ⟨dialogue, rfl, unowed, informs⟩
      apply Obeys.spawn
      · exact permits_of_isSilent rfl unowed (nextChunk_tells informs)
      · exact ⟨dialogue, rfl, unowed, informs⟩
    · exact fun _ => Preserves.update _

/-- What follows a heartbeat that may be due. -/
theorem afterHeartbeat_preserves {Result : Type} (due : Bool) {rest : Action Result}
    (preserves : Preserves deployment.conversation (OpenStream deployment chat streaming) rest) :
    Preserves deployment.conversation (OpenStream deployment chat streaming)
      (if due then heartbeatStream deployment.service streaming >>= fun _ =>
        emit .heartbeat >>= fun _ => rest
      else rest) := by
  split
  · apply Preserves.bind heartbeatStream_preserves
    intro _
    exact Preserves.bind (emit_preserves _) fun _ => preserves
  · exact preserves

theorem consumeRead_preserves (observedAt : Int) (answer : Except Failure (Option Bytes)) :
    Preserves deployment.conversation (OpenStream deployment chat streaming)
      (consumeRead deployment.service streaming observedAt answer) := by
  apply Preserves.bind (Preserves.update _)
  intro _
  apply Preserves.bind (Preserves.bind Preserves.get fun _ => Preserves.pure _)
  intro due
  apply afterHeartbeat_preserves due
  split
  · exact Preserves.throw _
  · exact Preserves.bind finishDecoder_preserves fun _ => Preserves.pure true
  · exact Preserves.bind (feedChunk_preserves _) fun _ => relayFrames_preserves _

theorem streamLoop_preserves (bound : Nat) :
    Preserves deployment.conversation (OpenStream deployment chat streaming)
      (streamLoop deployment.service streaming bound) := by
  induction bound with
  | zero => exact Preserves.exhausted
  | succ bound inductionHypothesis =>
      unfold streamLoop
      apply Preserves.bind ensureRead_preserves
      intro _
      apply Preserves.bind (open_of_quiet (secondsUntilHeartbeat_quiet fun _ => True))
      intro timeout
      apply Preserves.bind
      · rintro locals conversation ⟨dialogue, rfl, unowed, informs⟩
        apply Obeys.wait
        · intro answer _
          exact ⟨dialogue, by cases answer <;> rfl, unowed, informs⟩
        · exact ⟨dialogue, rfl, unowed, informs⟩
        · exact fun _ _ => ⟨dialogue, rfl, unowed, informs⟩
      · intro completed
        apply Preserves.bind (Preserves.observe _)
        intro observedAt
        split
        · exact Preserves.bind heartbeatStream_preserves fun _ =>
            Preserves.bind (emit_preserves _) fun _ => inductionHypothesis
        · apply Preserves.bind (consumeRead_preserves _ _)
          intro finished
          split
          · exact Preserves.pure _
          · exact inductionHypothesis

theorem handleStreamFailure_preserves (failure : Failure) :
    Preserves deployment.conversation (OpenStream deployment chat streaming)
      (handleStreamFailure streaming failure) := by
  have reports : ∀ (verdict : Int → Verdict) (rest : Action Unit),
      Preserves deployment.conversation (OpenStream deployment chat streaming) rest →
      Preserves deployment.conversation (OpenStream deployment chat streaming)
        (do
          let committed ← tryFinishStreamFailure streaming verdict
          modify fun locals => { locals with terminalCommitted := committed }
          rest) := fun verdict rest preserves =>
    Preserves.bind (tryFinishStreamFailure_preserves verdict) fun _ =>
      Preserves.bind (Preserves.update _) fun _ => preserves
  cases failure with
  | cancelled => exact reports _ _ (Preserves.throw _)
  | generatorExit => exact reports _ _ (Preserves.throw _)
  | bifrost error =>
      apply Preserves.bind
      · apply Preserves.tryCatch
        · exact Preserves.bind (finishStreamFailure_preserves _) fun _ =>
            Preserves.bind (Preserves.update _) fun _ => Preserves.pure _
        · intro inner
          split
          · exact Preserves.pure _
          · exact Preserves.throw _
      · exact fun _ => emit_preserves _
  | _ => exact reports _ _ (emit_preserves _)

theorem cleanUpStream_preserves :
    Preserves deployment.conversation (OpenStream deployment chat streaming)
      (cleanUpStream streaming) := by
  apply Preserves.bind Preserves.get
  intro locals
  have closes : Preserves deployment.conversation (OpenStream deployment chat streaming)
      (Routine.andFinally (closeStreamIterator >>= fun _ => pure ()) streaming.releaseOrRaise) :=
    Preserves.andFinally
      (Preserves.bind closeStreamIterator_preserves fun _ => Preserves.pure _)
      (open_of_quiet (releaseOrRaise_quiet (conversation_overlooks deployment) _))
  dsimp only
  split
  · apply Preserves.bind
    · rintro left conversation ⟨dialogue, rfl, unowed, informs⟩
      apply Obeys.abandon
      · exact ⟨dialogue, rfl, unowed, informs⟩
      · exact fun _ _ => ⟨dialogue, rfl, unowed, informs⟩
    · exact fun _ => closes
  · exact closes

theorem handOver_preserves :
    Preserves deployment.conversation (OpenStream deployment chat streaming)
      (handOver deployment.service streaming) := by
  apply Preserves.bind (emit_preserves _)
  intro _
  apply Preserves.bind (Preserves.update _)
  intro _
  apply Preserves.andFinally
  · exact Preserves.tryCatch (streamLoop_preserves _) handleStreamFailure_preserves
  · exact cleanUpStream_preserves

/-- `prepare_stream` opens the request of the stream it returns. -/
theorem prepareStream_obeys :
    Obeys deployment.conversation (prepareStream deployment.service chat) locals
      (.live chat .start) fun outcome _ reached =>
        match outcome with
        | .ok streaming => OpenStream deployment chat streaming reached
        | .error _ => True := by
  unfold prepareStream
  split
  · trivial
  · apply Obeys.bind
    apply admitRequest_obeys.mono
    intro outcome left reached admitted
    cases outcome with
    | error failure => trivial
    | ok admission =>
        obtain ⟨dialogue, rfl, fresh, unreserved, admits⟩ := admitted
        apply Obeys.bind
        apply Obeys.tryCatch
        apply (openCredit_obeys true admits fresh unreserved).mono
        intro outcome left reached opened
        cases outcome with
        | ok settlementId => exact opened
        | error failure =>
            apply Quiet.obeys_bind (releaseOrRaise_quiet (conversation_overlooks deployment)
              admission) opened.rests fun _ _ => trivial
            exact fun _ _ => trivial

/-- `prepare_stream` and its stream keep the dialogue. -/
theorem serveStream_obeys :
    Obeys deployment.conversation (serveStream deployment.service chat) locals
      (.live chat .start) fun _ _ _ => True := by
  apply Obeys.bind
  apply prepareStream_obeys.mono
  intro outcome left reached opened
  cases outcome with
  | error failure => trivial
  | ok streaming => exact (handOver_preserves left reached opened).mono fun _ _ _ _ => trivial

end Streams

/-! ## Every process of every run -/

/-- Every program keeps the conversation of its role. -/
theorem program_follows (deployment : Deployment) (role : Role) :
    Follows deployment.conversation (deployment.program role) (Conversation.start role)
      fun _ _ => True := by
  cases role with
  | execute chat => exact Follows.bind execute_obeys
  | stream chat => exact Follows.bind serveStream_obeys
  | recovery now => exact recovery_follows deployment _

/-- Every process of a run keeps its conversation. -/
theorem conversation_disciplined {world : World}
    {condition : Condition backend Role Unit World} {system : ChatSystem}
    (run : Reaches deployment.behaviour condition ⟨world, [], []⟩ system) :
    ∀ process ∈ system.processes,
      process.Disciplined deployment.conversation Conversation.start := by
  apply disciplined_of_reaches (program_follows deployment) _ _ _ run
  · exact fun before call answer after effects => ⟨before, after, effects⟩
  · exact fun _ interrupts => interrupts
  · intro process member
    cases member

/-! ## What a history has taught -/

/-- What a request has learnt from its history. -/
def Dialogue.learnt (chat : ChatRequest) : List (Event backend) → Dialogue
  | [] => .start
  | event :: earlier => (Dialogue.learnt chat earlier).after chat event

theorem phase_live (deployment : Deployment) (chat : ChatRequest)
    (history : List (Event backend)) :
    deployment.conversation.phase (.live chat .start) history =
      .live chat (.learnt chat history) := by
  induction history with
  | nil => rfl
  | cons event earlier inductionHypothesis =>
      show deployment.conversation.after (deployment.conversation.phase _ earlier) event = _
      rw [inductionHypothesis]
      rfl

theorem start_of_live {role : Role} {chat : ChatRequest} (live : chat ∈ role.chat?) :
    Conversation.start role = .live chat .start := by
  cases role with
  | execute other | stream other =>
      cases live
      rfl
  | recovery now => cases live

end Zangpu.Services.Chat
