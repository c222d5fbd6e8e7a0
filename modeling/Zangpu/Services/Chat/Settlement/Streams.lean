import Zangpu.Services.Chat.Settlement.Requests

/-!
Streams in the settlement protocol.

Owns: that a stream keeps the protocol: what its decoder has accepted was reported, the
usage it settles is its decoder's, `[DONE]` follows the committed record of that usage,
and no frame follows a final one, whatever fails and wherever its consumer leaves; and
that every program follows the protocol.

Does not own: recovery passes.
-/

set_option autoImplicit false

namespace Zangpu.Services.Chat

open Zangpu.Foundation
open Zangpu.Api
open Zangpu.Models
open Zangpu.Integrations.OpenWebUI
open Zangpu.Services.Quota
open Zangpu.Services.Streaming
open Zangpu.Workers.Recovery

variable {deployment : Deployment} {chat : ChatRequest} {streaming : StreamAdmission}
  {account : Account} {locals : Locals} {standing : Standing}

/-! ## Accounts of a stream -/

/-- What the decoder of the stream has accepted was reported. -/
def Reported (decoder : OpenAIStreamDecoder) (account : Account) : Prop :=
  ∀ usage, decoder.usage = some usage → tokensOf usage ∈ account.reported

/-- An open stream before its settlement. -/
structure Relaying (chat : ChatRequest) (decoder : OpenAIStreamDecoder) (account : Account) :
    Prop where
  chat : account.chat = chat
  reserved : account.reserved = true
  held : account.settlementId ≠ none
  opened : account.opened = true
  refused : account.refused = false
  usage : account.usage = none
  cancelling : account.cancelling = false
  closed : account.closed = false
  reported : Reported decoder account

/-- A stream whose settlement may have begun: it sent no other usage than what its
decoder has accepted. -/
structure Settling (chat : ChatRequest) (decoder : OpenAIStreamDecoder) (account : Account) :
    Prop where
  chat : account.chat = chat
  held : account.settlementId ≠ none
  refused : account.refused = false
  cancelling : account.cancelling = false
  reported : Reported decoder account
  usage : ∀ tokens, account.usage = some tokens →
    ∃ usage, decoder.usage = some usage ∧ tokens = tokensOf usage

theorem Relaying.settling {decoder : OpenAIStreamDecoder} (relaying : Relaying chat decoder account) :
    Settling chat decoder account where
  chat := relaying.chat
  held := relaying.held
  refused := relaying.refused
  cancelling := relaying.cancelling
  reported := relaying.reported
  usage tokens sent := by
    rw [relaying.usage] at sent
    cases sent

/-- A failure reaches the handlers of the stream: only an interrupt after its final
frame. -/
def Fails (chat : ChatRequest) (failure : Failure) (left : Locals) (reached : Standing) : Prop :=
  ∃ account, reached = .live account ∧ Settling chat left.decoder account ∧
    (account.closed = true → failure.isInterrupt = true)

/-- The outcome of a part of the stream: what it met, or a failure for the handlers. -/
def Meets {Result : Type} (chat : ChatRequest) (met : Result → Locals → Standing → Prop) :
    Except Failure Result → Locals → Standing → Prop
  | .ok result, left, reached => met result left reached
  | .error failure, left, reached => Fails chat failure left reached

theorem Meets.bind {First Second : Type} {routine : Action First} {rest : First → Action Second}
    {met : First → Locals → Standing → Prop} {last : Second → Locals → Standing → Prop}
    (obeys : Obeys deployment.settlement routine locals standing (Meets chat met))
    (continues : ∀ result left reached, met result left reached →
      Obeys deployment.settlement (rest result) left reached (Meets chat last)) :
    Obeys deployment.settlement (routine >>= rest) locals standing (Meets chat last) := by
  apply Obeys.bind
  apply obeys.mono
  intro outcome left reached holds
  cases outcome with
  | ok result => exact continues result left reached holds
  | error failure => exact holds

/-- A stream that yielded no final frame fails in the open. -/
theorem Settling.fails {failure : Failure} (settling : Settling chat locals.decoder account)
    (unclosed : account.closed = false) : Fails chat failure locals (.live account) :=
  ⟨account, rfl, settling, fun closed => by rw [unclosed] at closed; cases closed⟩

/-! ## Settlement -/

/-- The later account of a stream in its settlement. -/
structure Proceeds (chat : ChatRequest) (decoder : OpenAIStreamDecoder) (earlier later : Account) :
    Prop where
  settling : Settling chat decoder later
  closed : later.closed = earlier.closed
  fed : later.decoder = earlier.decoder

/-- A part of a settlement ends with a later account, and on success as it says. -/
def Advances {Result : Type} (chat : ChatRequest) (locals : Locals) (earlier : Account)
    (met : Result → Account → Prop) :
    Except Failure Result → Locals → Standing → Prop :=
  fun outcome left reached => left = locals ∧ ∃ later, reached = .live later ∧
    Proceeds chat locals.decoder earlier later ∧ ∀ result, outcome = .ok result → met result later

theorem Proceeds.trans {decoder : OpenAIStreamDecoder} {first second third : Account}
    (early : Proceeds chat decoder first second) (late : Proceeds chat decoder second third) :
    Proceeds chat decoder first third where
  settling := late.settling
  closed := late.closed.trans early.closed
  fed := late.fed.trans early.fed

theorem Settling.stays {decoder : OpenAIStreamDecoder} (settling : Settling chat decoder account) :
    Proceeds chat decoder account account := ⟨settling, rfl, rfl⟩

theorem Advances.bind {First Second : Type} {routine : Action First} {rest : First → Action Second}
    {met : First → Account → Prop} {last : Second → Account → Prop}
    (obeys : Obeys deployment.settlement routine locals standing
      (Advances chat locals account met))
    (continues : ∀ result later, Proceeds chat locals.decoder account later → met result later →
      Obeys deployment.settlement (rest result) locals (.live later)
        (Advances chat locals later last)) :
    Obeys deployment.settlement (routine >>= rest) locals standing
      (Advances chat locals account last) := by
  apply Obeys.bind
  apply obeys.mono
  rintro outcome left reached ⟨rfl, later, rfl, proceeds, holds⟩
  cases outcome with
  | ok result =>
      apply (continues result later proceeds (holds result rfl)).mono
      rintro outcome final reached ⟨rfl, latest, rfl, further, ended⟩
      exact ⟨rfl, latest, rfl, proceeds.trans further, ended⟩
  | error failure => exact ⟨rfl, later, rfl, proceeds, fun _ equal => by cases equal⟩

/-- A call of the stream: its answer changes the account, a lost one only its message. -/
theorem await_live {call : Call} (permitted : account.permitsCall call)
    {goal : Except Failure call.Answer → Locals → Standing → Prop}
    (answered : ∀ answer, goal answer locals
      (.live ((account.sent call).heard deployment.service.parser call answer)))
    (lost : ∀ failure, failure.isInterrupt = true →
      goal (.error failure) locals (.live (account.sent call))) :
    Obeys deployment.settlement (await call) locals (.live account) goal := by
  refine Obeys.await permitted ?_ lost
  intro answer _
  rw [afterCall_live, Account.answered_of_permitted permitted]
  exact answered answer

theorem operationTime_advances (settling : Settling chat locals.decoder account) :
    Obeys deployment.settlement streaming.operationTime locals (.live account)
      (Advances chat locals account fun _ later => later = account) := by
  apply operationTime_obeys.mono
  rintro outcome left reached ⟨rfl, rfl, now, rfl⟩
  exact ⟨rfl, account, rfl, settling.stays, fun _ _ => rfl⟩

theorem requireEvidence_advances (valid : Bool) (settling : Settling chat locals.decoder account) :
    Obeys deployment.settlement (requireEvidence streaming.toChatAdmission valid) locals
      (.live account) (Advances chat locals account fun _ later =>
        later = account ∧ valid = true) := by
  cases valid with
  | true => exact Obeys.pure ⟨rfl, account, rfl, settling.stays, fun _ _ => ⟨rfl, rfl⟩⟩
  | false => exact ⟨rfl, account, rfl, settling.stays, fun _ equal => by cases equal⟩

/-- The usage of the decoder is recorded. -/
theorem recordUsage_advances (serves : Serves chat streaming.toChatAdmission) {usage : ChatUsage}
    (settling : Settling chat locals.decoder account) (counted : locals.decoder.usage = some usage)
    (now : Int) :
    Obeys deployment.settlement (await (.recordUsage streaming.operationId usage.promptTokens
        usage.completionTokens now)) locals (.live account)
      (Advances chat locals account fun _ later => later.recorded = some (tokensOf usage)) := by
  have sent : Settling chat locals.decoder { account with usage := some (tokensOf usage) } :=
    { settling with
      reported := settling.reported
      usage := fun tokens same => ⟨usage, counted, (Option.some.inj same).symm⟩ }
  apply await_live
  · refine ⟨?_, settling.reported usage counted, ?_, settling.held, settling.refused,
      settling.cancelling⟩
    · rw [settling.chat, serves.operation]
    · intro earlier same
      obtain ⟨other, accepted, rfl⟩ := settling.usage earlier same
      cases counted.symm.trans accepted
      rfl
  · intro answer
    refine ⟨rfl, ?_⟩
    cases answer with
    | error failure => exact ⟨_, rfl, ⟨sent, rfl, rfl⟩, fun _ equal => by cases equal⟩
    | ok =>
        refine ⟨_, rfl, ⟨?_, rfl, rfl⟩, fun _ _ => rfl⟩
        exact ⟨sent.chat, sent.held, sent.refused, sent.cancelling, sent.reported, sent.usage⟩
  · exact fun failure _ => ⟨rfl, _, rfl, ⟨sent, rfl, rfl⟩, fun _ equal => by cases equal⟩

/-- A settlement ends with the charge of a reply that confirmed the recorded usage. -/
theorem settleStream_advances (serves : Serves chat streaming.toChatAdmission) {usage : ChatUsage}
    (settling : Settling chat locals.decoder account)
    (counted : locals.decoder.usage = some usage) :
    Obeys deployment.settlement (settleStream streaming usage) locals (.live account)
      (Advances chat locals account fun charged later =>
        later.charged = some charged ∧ later.recorded = some (tokensOf usage)) := by
  apply Advances.bind (operationTime_advances settling)
  rintro now _ proceeds rfl
  apply Advances.bind (recordUsage_advances serves settling counted now)
  rintro _ recorded proceeds committed
  have asked : Obeys deployment.settlement (await (.settleCredit streaming.operationId
      streaming.policy.serviceUserId usage.promptTokens usage.completionTokens)) locals
      (.live recorded) (Advances chat locals recorded fun snapshot later =>
        later.recorded = some (tokensOf usage) ∧
          (Account.confirms usage.promptTokens usage.completionTokens snapshot = true →
            later.charged = some snapshot.chargedMicro)) := by
    apply await_live
    · refine ⟨?_, committed⟩
      rw [proceeds.settling.chat, serves.operation]
    · intro answer
      refine ⟨rfl, ?_⟩
      cases answer with
      | error failure =>
          exact ⟨_, rfl, proceeds.settling.stays, fun _ equal => by cases equal⟩
      | ok snapshot =>
          by_cases confirmed : Account.confirms usage.promptTokens usage.completionTokens
              snapshot = true
          · refine ⟨{ recorded with charged := some snapshot.chargedMicro }, ?_, ⟨?_, rfl, rfl⟩, ?_⟩
            · exact congrArg Standing.live (if_pos confirmed)
            · have settled := proceeds.settling
              exact ⟨settled.chat, settled.held, settled.refused, settled.cancelling, settled.reported,
                settled.usage⟩
            · intro reply equal
              cases equal
              exact ⟨committed, fun _ => rfl⟩
          · refine ⟨recorded, congrArg Standing.live (if_neg confirmed),
              proceeds.settling.stays, ?_⟩
            intro reply equal
            cases equal
            exact ⟨committed, fun other => absurd other confirmed⟩
    · exact fun failure _ =>
        ⟨rfl, _, rfl, proceeds.settling.stays, fun _ equal => by cases equal⟩
  apply Advances.bind asked
  rintro settled later further ⟨still, confirmed⟩
  apply Advances.bind (requireEvidence_advances _ further.settling)
  rintro _ _ last ⟨rfl, valid⟩
  refine Obeys.pure ⟨rfl, _, rfl, last, ?_⟩
  intro charged equal
  cases equal
  exact ⟨confirmed (confirms_of_valid valid), still⟩

/-- The terminal record of a stream, on evidence. -/
theorem terminalize_advances (serves : Serves chat streaming.toChatAdmission) (verdict : Verdict)
    (settling : Settling chat locals.decoder account) (supports : account.supports verdict) :
    Obeys deployment.settlement (terminalize streaming.toChatAdmission verdict) locals
      (.live account) (Advances chat locals account fun _ later =>
        later.recorded = account.recorded ∧
          (verdict.status = .completed → later.completed = true)) := by
  apply Obeys.bind
  apply (terminalFields_obeys supports).mono
  rintro outcome left reached ⟨rfl, rfl, fields, rfl, status, named, justifies⟩
  apply await_live
  · refine ⟨?_, ?_, justifies⟩
    · rw [settling.chat, serves.operation]
    · rw [settling.chat, named, serves.server]
  · intro answer
    refine ⟨rfl, ?_⟩
    cases answer with
    | error failure => exact ⟨_, rfl, settling.stays, fun _ equal => by cases equal⟩
    | ok =>
        refine ⟨_, rfl, ⟨?_, rfl, rfl⟩, fun _ _ => ⟨rfl, ?_⟩⟩
        · exact ⟨settling.chat, settling.held, settling.refused, settling.cancelling, settling.reported,
            settling.usage⟩
        · intro completed
          show (account.completed || decide (fields.status = .completed)) = true
          rw [status, completed]
          simp
  · exact fun failure _ => ⟨rfl, _, rfl, settling.stays, fun _ equal => by cases equal⟩

/-! ## Failures -/

/-- The account moved on without a frame. -/
def Leaves {Result : Type} (locals : Locals) (earlier : Account) :
    Except Failure Result → Locals → Standing → Prop :=
  fun _ left reached => left = locals ∧
    ∃ later, reached = .live later ∧ later.closed = earlier.closed

theorem Advances.leaves {Result : Type} {met : Result → Account → Prop}
    {outcome : Except Failure Result} {left : Locals} {reached : Standing}
    (advances : Advances chat locals account met outcome left reached) {Other : Type}
    (other : Except Failure Other) : Leaves locals account other left reached := by
  obtain ⟨same, later, live, proceeds, _⟩ := advances
  exact ⟨same, later, live, proceeds.closed⟩

theorem terminalize_leaves (serves : Serves chat streaming.toChatAdmission) (verdict : Verdict)
    (same : account.chat = chat) (supports : account.supports verdict) :
    Obeys deployment.settlement (terminalize streaming.toChatAdmission verdict) locals
      (.live account) (Leaves locals account) := by
  apply Obeys.bind
  apply (terminalFields_obeys supports).mono
  rintro outcome left reached ⟨rfl, rfl, fields, rfl, _, named, justifies⟩
  apply await_live
  · refine ⟨?_, ?_, justifies⟩
    · rw [same, serves.operation]
    · rw [same, named, serves.server]
  · intro answer
    cases answer <;> exact ⟨rfl, _, rfl, rfl⟩
  · exact fun failure _ => ⟨rfl, _, rfl, rfl⟩

/-- A verdict on a failed stream: it takes over the charge and is not a success. -/
def IsFailure (verdict : Int → Verdict) : Prop :=
  ∀ charged, (verdict charged).chargedMicro = charged ∧ (verdict charged).status ≠ .completed

/-- A failed stream settles the usage its decoder accepted; without any it cancels. -/
theorem finishStreamFailure_leaves (serves : Serves chat streaming.toChatAdmission)
    {verdict : Int → Verdict} (failed : IsFailure verdict)
    (settling : Settling chat locals.decoder account) :
    Obeys deployment.settlement (finishStreamFailure streaming verdict) locals (.live account)
      (Leaves locals account) := by
  apply Obeys.bind
  apply Obeys.get
  dsimp only
  split
  · rename_i uncounted
    have unused : account.usage = none := by
      cases sent : account.usage with
      | none => rfl
      | some tokens =>
          obtain ⟨usage, accepted, _⟩ := settling.usage tokens sent
          rw [uncounted] at accepted
          cases accepted
    apply Obeys.bind
    apply Obeys.bind
    apply await_live
    · refine ⟨?_, unused⟩
      rw [settling.chat, serves.operation]
    · intro answer
      cases answer with
      | error failure => exact ⟨rfl, _, rfl, rfl⟩
      | ok snapshot =>
          dsimp only
          cases valid : validCancellation streaming.toChatAdmission streaming.settlementId
              snapshot with
          | false => exact ⟨rfl, _, rfl, rfl⟩
          | true =>
              refine terminalize_leaves serves (verdict 0) settling.chat (Or.inr
                ⟨(failed 0).1, (failed 0).2, unused, Or.inr ⟨?_, rfl⟩⟩)
              show (account.cancelled || isCancelled snapshot.status) = true
              rw [cancelled_of_valid valid, Bool.or_true]
    · exact fun failure _ => ⟨rfl, _, rfl, rfl⟩
  · rename_i usage counted
    apply Obeys.bind
    apply (settleStream_advances serves settling counted).mono
    rintro outcome left reached advances
    cases outcome with
    | error failure => exact advances.leaves _
    | ok charged =>
        obtain ⟨rfl, later, rfl, proceeds, settled⟩ := advances
        refine (terminalize_leaves serves (verdict charged) proceeds.settling.chat
          (Or.inl ?_)).mono ?_
        · rw [(settled charged rfl).1, (failed charged).1]
        · rintro outcome left reached ⟨same, latest, live, closed⟩
          exact ⟨same, latest, live, closed.trans proceeds.closed⟩

theorem tryFinishStreamFailure_leaves (serves : Serves chat streaming.toChatAdmission)
    {verdict : Int → Verdict} (failed : IsFailure verdict)
    (settling : Settling chat locals.decoder account) :
    Obeys deployment.settlement (tryFinishStreamFailure streaming verdict) locals
      (.live account) (Leaves locals account) := by
  apply Obeys.tryCatch
  apply Obeys.bind
  apply (finishStreamFailure_leaves serves failed settling).mono
  intro outcome left reached leaves
  cases outcome with
  | ok => exact leaves
  | error failure =>
      dsimp only
      split
      · exact leaves
      · exact leaves

/-- An error frame in the open. -/
theorem emit_error {standing : Standing} {frame : Frame} (other : frame ≠ .done)
    (unclosed : ∃ account, standing = .live account ∧ account.closed = false) :
    Obeys deployment.settlement (emit frame) locals standing fun _ _ reached =>
      reached.IsLive := by
  obtain ⟨account, rfl, still⟩ := unclosed
  apply Obeys.emit
  · exact ⟨still, fun same => absurd same other⟩
  · exact Account.isLive _
  · exact fun _ _ => Account.isLive _

/-- The handlers of the stream keep the protocol: they yield a frame only where no
final one was yielded. -/
theorem handleStreamFailure_live (serves : Serves chat streaming.toChatAdmission)
    {failure : Failure} (fails : Fails chat failure locals standing) :
    Obeys deployment.settlement (handleStreamFailure streaming failure) locals standing
      fun _ _ reached => reached.IsLive := by
  obtain ⟨account, rfl, settling, interrupted⟩ := fails
  have reports : ∀ (verdict : Int → Verdict) (rest : Action Unit), IsFailure verdict →
      (∀ left later, later.closed = account.closed → Obeys deployment.settlement rest left
        (.live later) fun _ _ reached => reached.IsLive) →
      Obeys deployment.settlement
        (do
          let committed ← tryFinishStreamFailure streaming verdict
          modify fun locals => { locals with terminalCommitted := committed }
          rest) locals (.live account) fun _ _ reached => reached.IsLive := by
    intro verdict rest failed continues
    apply Obeys.bind
    apply (tryFinishStreamFailure_leaves serves failed settling).mono
    rintro outcome left reached ⟨rfl, later, rfl, closed⟩
    cases outcome with
    | error failure => exact later.isLive
    | ok committed =>
        apply Obeys.bind
        apply Obeys.modify
        exact continues _ later closed
  have abandons (outcome : EventOutcome) (stage : EventStage) (code : Option ErrorCode) :
      IsFailure fun charged => ⟨.abandoned, outcome, stage, code, charged⟩ :=
    fun _ => ⟨rfl, by simp⟩
  have unclosed (external : failure.isInterrupt = false) : account.closed = false := by
    cases closed : account.closed with
    | false => rfl
    | true =>
        rw [interrupted closed] at external
        cases external
  cases failure with
  | cancelled => exact reports _ _ (abandons _ _ _) fun _ later _ => later.isLive
  | generatorExit => exact reports _ _ (abandons _ _ _) fun _ later _ => later.isLive
  | bifrost error =>
      apply Obeys.bind
      apply Obeys.tryCatch
      apply Obeys.bind
      have rejects : IsFailure (Verdict.providerRejected (providerError error)) :=
        fun _ => ⟨rfl, by simp [Verdict.providerRejected]⟩
      apply (finishStreamFailure_leaves serves rejects settling).mono
      rintro outcome left reached ⟨rfl, later, rfl, closed⟩
      have still := closed.trans (unclosed rfl)
      cases outcome with
      | ok =>
          apply Obeys.bind
          apply Obeys.modify
          exact emit_error (by simp [errorFrame]) ⟨later, rfl, still⟩
      | error inner =>
          dsimp only
          split
          · exact emit_error (by simp [errorFrame]) ⟨later, rfl, still⟩
          · exact later.isLive
  | _ =>
      refine reports _ _ (abandons _ _ _) fun _ later closed => ?_
      exact emit_error (by simp [errorFrame]) ⟨later, rfl, closed.trans (unclosed rfl)⟩

/-! ## Relaying -/

/-- The stream relays, with its decoder in step with the chunks it was sent. -/
def InStep (chat : ChatRequest) (left : Locals) (standing : Standing) : Prop :=
  ∃ account, standing = .live account ∧ Relaying chat left.decoder account ∧
    account.decoder = left.decoder

theorem Relaying.fails {failure : Failure} {left : Locals}
    (relaying : Relaying chat left.decoder account) : Fails chat failure left (.live account) :=
  relaying.settling.fails relaying.closed

theorem InStep.fails {failure : Failure} {left : Locals} (inStep : InStep chat left standing) :
    Fails chat failure left standing := by
  obtain ⟨account, rfl, relaying, _⟩ := inStep
  exact relaying.fails

/-- A routine that makes no call of the protocol and keeps the decoder. -/
theorem quiet_meets {Result : Type} {routine : Action Result} {raises : Failure → Prop}
    (quiet : Quiet deployment.settlement Standing.IsLive routine raises)
    (relaying : Relaying chat locals.decoder account) :
    Obeys deployment.settlement routine locals (.live account)
      (Meets chat fun _ left reached =>
        left.decoder = locals.decoder ∧ reached = .live account) := by
  apply (quiet locals _ account.isLive).mono
  rintro outcome left reached ⟨rfl, decoder, _⟩
  cases outcome with
  | ok result => exact ⟨decoder, rfl⟩
  | error failure => exact (decoder.symm ▸ relaying).fails

/-- A heartbeat of the stream changes nothing. -/
theorem heartbeatStream_meets (relaying : Relaying chat locals.decoder account) :
    Obeys deployment.settlement (heartbeatStream deployment.service streaming) locals
      (.live account) (Meets chat fun _ left reached =>
        left.decoder = locals.decoder ∧ reached = .live account) := by
  apply Meets.bind
    (quiet_meets (heartbeat_quiet (settlement_overlooks deployment) _) relaying)
  rintro _ left _ ⟨same, rfl⟩
  apply Obeys.bind
  apply operationTime_obeys.mono
  rintro outcome left reached ⟨rfl, rfl, now, rfl⟩
  apply Obeys.bind
  apply (await_unnoticed rfl).mono
  rintro outcome left reached ⟨rfl, rfl⟩
  have failed (failure : Failure) : Fails chat failure left (.live account) :=
    (same.symm ▸ relaying).fails
  cases outcome with
  | error failure => exact failed failure
  | ok touched =>
      dsimp only
      split
      · exact failed _
      · exact Obeys.pure ⟨same, rfl⟩

/-- A frame that is not final, in the open. -/
theorem emit_meets {frame : Frame} (continues : frame.isFinal = false)
    (relaying : Relaying chat locals.decoder account) :
    Obeys deployment.settlement (emit frame) locals (.live account)
      (Meets chat fun _ left reached => left = locals ∧ reached = .live account) := by
  have same : deployment.settlement.after (.live account) (.emitted frame) = .live account := by
    show Standing.live { account with closed := account.closed || frame.isFinal } = _
    rw [continues, Bool.or_false]
  apply Obeys.emit
  · exact ⟨relaying.closed, fun final => by rw [final] at continues; cases continues⟩
  · exact ⟨rfl, same⟩
  · rw [same]
    exact fun _ _ => relaying.fails

/-- `[DONE]` comes after the record of the usage that the decoder accepted. -/
theorem finishStream_meets (serves : Serves chat streaming.toChatAdmission)
    (relaying : Relaying chat locals.decoder account) (inStep : account.decoder = locals.decoder) :
    Obeys deployment.settlement (finishStream streaming) locals (.live account)
      (Meets chat fun _ _ reached => reached.IsLive) := by
  have falls {failure : Failure} {later : Account}
      (proceeds : Proceeds chat locals.decoder account later) :
      Fails chat failure locals (.live later) :=
    proceeds.settling.fails (proceeds.closed.trans relaying.closed)
  apply Obeys.bind
  apply Obeys.get
  dsimp only
  split
  · exact relaying.fails
  · rename_i usage counted
    apply Obeys.bind
    apply (settleStream_advances serves relaying.settling counted).mono
    rintro outcome left reached ⟨rfl, settled, rfl, proceeds, confirmed⟩
    cases outcome with
    | error failure => exact falls proceeds
    | ok charged =>
        obtain ⟨billed, used⟩ := confirmed charged rfl
        apply Obeys.bind
        apply (terminalize_advances serves (.completed charged) proceeds.settling
          (Or.inl billed)).mono
        rintro outcome left reached ⟨rfl, later, rfl, further, closes⟩
        have wholly := proceeds.trans further
        cases outcome with
        | error failure => exact falls wholly
        | ok =>
            obtain ⟨kept, completed⟩ := closes () rfl
            apply Obeys.bind
            apply Obeys.modify
            apply Obeys.emit
            · refine ⟨wholly.closed.trans relaying.closed, fun _ => ⟨completed rfl, usage, ?_, ?_⟩⟩
              · rw [wholly.fed, inStep, counted]
              · rw [kept, used]
            · exact Account.isLive _
            · -- the consumer left at the final frame
              intro failure interrupts
              have settling := wholly.settling
              exact ⟨_, rfl, ⟨settling.chat, settling.held, settling.refused, settling.cancelling,
                settling.reported, settling.usage⟩, fun _ => interrupts⟩

/-- The stream goes on in step, or it is over. -/
def Turns (chat : ChatRequest) (finished : Bool) (left : Locals) (standing : Standing) : Prop :=
  if finished then standing.IsLive else InStep chat left standing

theorem relayFrames_meets (serves : Serves chat streaming.toChatAdmission) (frames : List Bytes)
    (inStep : InStep chat locals standing) :
    Obeys deployment.settlement (relayFrames streaming frames) locals standing
      (Meets chat (Turns chat)) := by
  obtain ⟨account, rfl, relaying, same⟩ := inStep
  induction frames with
  | nil => exact Obeys.pure ⟨account, rfl, relaying, same⟩
  | cons frame rest inductionHypothesis =>
      unfold relayFrames
      split
      · apply Meets.bind (emit_meets rfl relaying)
        rintro _ left _ ⟨rfl, rfl⟩
        exact inductionHypothesis
      · apply Meets.bind (finishStream_meets serves relaying same)
        exact fun _ left reached live => Obeys.pure live

/-- The account after the answer of the pending read, before the decoder sees it. -/
theorem Relaying.read {decoder : OpenAIStreamDecoder} (relaying : Relaying chat decoder account)
    (parser : Parser) (answer : Except Failure (Option Bytes)) :
    Relaying chat decoder (account.answered parser (nextChunk streaming) answer) := by
  have fed (chunk : Bytes) : Relaying chat decoder (account.fed parser chunk) :=
    ⟨relaying.chat, relaying.reserved, relaying.held, relaying.opened, relaying.refused,
      relaying.usage, relaying.cancelling, relaying.closed, fun usage accepted =>
        List.mem_append_right _ (relaying.reported usage accepted)⟩
  cases answer with
  | error failure => exact relaying
  | ok read =>
      cases read with
      | none => exact relaying
      | some chunk => exact fed chunk

/-- A chunk brings the decoder in step with the account, also where it is refused. -/
theorem feedChunk_meets (chunk : Bytes) (relaying : Relaying chat locals.decoder account)
    (same : account.decoder = locals.decoder) :
    Obeys deployment.settlement (feedChunk deployment.service chunk) locals
      (.live (account.fed deployment.service.parser chunk))
      (Meets chat fun _ left reached => InStep chat left reached) := by
  apply Obeys.bind
  apply Obeys.get
  apply Obeys.bind
  have inStep : InStep chat
      { locals with decoder := (locals.decoder.feed deployment.service.parser chunk).2 }
      (.live (account.fed deployment.service.parser chunk)) := by
    have fed : (account.fed deployment.service.parser chunk).decoder =
        (locals.decoder.feed deployment.service.parser chunk).2 := by
      rw [← same]
      rfl
    refine ⟨_, rfl, ⟨relaying.chat, relaying.reserved, relaying.held, relaying.opened, relaying.refused,
      relaying.usage, relaying.cancelling, relaying.closed, ?_⟩, fed⟩
    intro usage accepted
    have counted : (account.fed deployment.service.parser chunk).decoder.usage = some usage := by
      rw [fed]
      exact accepted
    apply List.mem_append_left
    refine Option.mem_toList.mpr ?_
    exact Option.map_eq_some_iff.mpr ⟨usage, counted, rfl⟩
  show Obeys deployment.settlement _ _ _ _
  dsimp only
  split
  · exact inStep
  · exact inStep.fails

theorem finishDecoder_meets (relaying : Relaying chat locals.decoder account) :
    Obeys deployment.settlement finishDecoder locals (.live account)
      (Meets chat fun _ _ reached => reached.IsLive) := by
  apply Obeys.bind
  apply Obeys.get
  dsimp only
  split
  · exact Obeys.pure account.isLive
  · exact relaying.fails

/-- What follows a heartbeat that may be due. -/
theorem afterHeartbeat_meets {Result : Type} (due : Bool) {rest : Action Result}
    {met : Result → Locals → Standing → Prop} (relaying : Relaying chat locals.decoder account)
    (continues : ∀ left : Locals, left.decoder = locals.decoder →
      Obeys deployment.settlement rest left (.live account) (Meets chat met)) :
    Obeys deployment.settlement
      (if due then heartbeatStream deployment.service streaming >>= fun _ =>
        emit .heartbeat >>= fun _ => rest
      else rest) locals (.live account) (Meets chat met) := by
  split
  · apply Meets.bind (heartbeatStream_meets relaying)
    rintro _ left _ ⟨kept, rfl⟩
    apply Meets.bind (emit_meets rfl (kept.symm ▸ relaying))
    rintro _ last _ ⟨same, rfl⟩
    exact continues last (same ▸ kept)
  · exact continues locals rfl

/-- The rest of a turn: the answer of the read is relayed. -/
theorem consumeRead_meets (serves : Serves chat streaming.toChatAdmission) (observedAt : Int)
    (answer : Except Failure (Option Bytes)) (relaying : Relaying chat locals.decoder account)
    (same : account.decoder = locals.decoder) :
    Obeys deployment.settlement (consumeRead deployment.service streaming observedAt answer) locals
      (.live (account.answered deployment.service.parser (nextChunk streaming) answer))
      (Meets chat (Turns chat)) := by
  have read : Relaying chat locals.decoder
      (account.answered deployment.service.parser (nextChunk streaming) answer) :=
    relaying.read _ answer
  apply Obeys.bind
  apply Obeys.modify
  apply Obeys.bind
  apply Obeys.bind
  apply Obeys.get
  refine Obeys.pure ?_
  refine afterHeartbeat_meets _ read ?_
  intro left kept
  have here := kept.symm ▸ read
  cases answer with
  | error failure => exact here.fails
  | ok chunk =>
      cases chunk with
      | none => exact Meets.bind (finishDecoder_meets here) fun _ _ _ live => Obeys.pure live
      | some chunk =>
          refine Meets.bind (feedChunk_meets chunk (kept.symm ▸ relaying) (same.trans kept.symm))
            fun frames last reached inStep => relayFrames_meets serves frames inStep

theorem ensureRead_meets (serves : Serves chat streaming.toChatAdmission)
    (inStep : InStep chat locals standing) :
    Obeys deployment.settlement (ensureRead streaming) locals standing
      (Meets chat fun _ left reached => InStep chat left reached) := by
  apply Obeys.bind
  apply Obeys.get
  dsimp only
  split
  · exact Obeys.pure inStep
  · obtain ⟨account, rfl, relaying, same⟩ := inStep
    apply Obeys.bind
    apply Obeys.spawn
    · exact ⟨serves.request.trans (congrArg ChatRequest.request relaying.chat.symm),
        relaying.reserved, relaying.opened⟩
    · exact ⟨account, rfl, relaying, same⟩

theorem streamLoop_meets (serves : Serves chat streaming.toChatAdmission) (bound : Nat)
    (inStep : InStep chat locals standing) :
    Obeys deployment.settlement (streamLoop deployment.service streaming bound) locals standing
      (Meets chat fun _ _ reached => reached.IsLive) := by
  induction bound generalizing locals standing with
  | zero => exact Obeys.exhausted
  | succ bound inductionHypothesis =>
      unfold streamLoop
      apply Meets.bind (ensureRead_meets serves inStep)
      rintro _ left _ ⟨account, rfl, relaying, same⟩
      apply Meets.bind (quiet_meets (secondsUntilHeartbeat_quiet fun _ => True) relaying)
      rintro timeout last _ ⟨kept, rfl⟩
      have here : Relaying chat last.decoder account := kept.symm ▸ relaying
      apply Obeys.bind
      apply Obeys.wait
      · intro answer _
        apply Obeys.bind
        apply Obeys.observe
        intro observedAt
        apply Meets.bind (consumeRead_meets serves observedAt answer here (same.trans kept.symm))
        intro finished final reached turns
        cases finished with
        | true => exact Obeys.pure turns
        | false => exact inductionHypothesis turns
      · apply Obeys.bind
        apply Obeys.observe
        intro observedAt
        apply Meets.bind (heartbeatStream_meets here)
        rintro _ final _ ⟨unchanged, rfl⟩
        apply Meets.bind (emit_meets rfl (unchanged.symm ▸ here))
        rintro _ _ _ ⟨rfl, rfl⟩
        exact inductionHypothesis ⟨account, rfl, unchanged.symm ▸ here,
          same.trans (kept.symm.trans unchanged.symm)⟩
      · exact fun _ _ => here.fails

/-! ## Whole streams -/

/-- A quiet routine leaves a live request live. -/
theorem live_of_quiet {Result : Type} {routine : Action Result} {raises : Failure → Prop}
    (quiet : Quiet deployment.settlement Standing.IsLive routine raises) :
    Preserves deployment.settlement Standing.IsLive routine :=
  quiet.preserves fun _ live => live

theorem closeStreamIterator_live :
    Preserves deployment.settlement Standing.IsLive closeStreamIterator := by
  have quiet : Quiet deployment.settlement Standing.IsLive closeStreamIterator fun _ => True := by
    apply Quiet.tryAny
    · exact Quiet.bind (Quiet.awaitAny (settlement_overlooks deployment) rfl) fun _ => Quiet.pure _
    · intro failure
      split
      · exact Quiet.pure _
      · exact Quiet.throw trivial
  exact live_of_quiet quiet

theorem cleanUpStream_live :
    Preserves deployment.settlement Standing.IsLive (cleanUpStream streaming) := by
  have closes : Preserves deployment.settlement Standing.IsLive
      (Routine.andFinally (closeStreamIterator >>= fun _ => pure ()) streaming.releaseOrRaise) :=
    Preserves.andFinally (Preserves.bind closeStreamIterator_live fun _ => Preserves.pure _)
      (live_of_quiet (releaseOrRaise_quiet (settlement_overlooks deployment) _))
  apply Preserves.bind Preserves.get
  intro locals
  dsimp only
  split
  · apply Preserves.bind
    · rintro left _ ⟨account, rfl⟩
      apply Obeys.abandon
      · exact account.isLive
      · exact fun _ _ => account.isLive
    · exact fun _ => closes
  · exact closes

theorem streamResponse_live (serves : Serves chat streaming.toChatAdmission) :
    Obeys deployment.settlement (streamResponse deployment.service streaming) locals
      (.live (.opening chat streaming.settlementId)) fun _ _ reached => reached.IsLive := by
  apply Obeys.bind
  apply Obeys.modify
  have inStep : InStep chat { locals with
      decoder := .new, readPending := false, terminalCommitted := false }
      (.live (.opening chat streaming.settlementId)) :=
    ⟨_, rfl, ⟨rfl, rfl, Option.some_ne_none _, rfl, rfl, rfl, rfl, rfl, fun _ accepted => by cases accepted⟩, rfl⟩
  have handled : Obeys deployment.settlement
      (tryCatch (streamLoop deployment.service streaming deployment.service.loopBound)
        (handleStreamFailure streaming)) { locals with
          decoder := .new, readPending := false, terminalCommitted := false }
      (.live (.opening chat streaming.settlementId)) fun _ _ reached => reached.IsLive := by
    apply Obeys.tryCatch
    apply (streamLoop_meets serves deployment.service.loopBound inStep).mono
    intro outcome left reached meets
    cases outcome with
    | ok => exact meets
    | error failure => exact handleStreamFailure_live serves meets
  apply Obeys.andFinally
  apply handled.mono
  intro outcome left reached live
  apply (cleanUpStream_live left reached live).mono
  intro cleaned final last still
  cases cleaned <;> exact still

/-- `prepare_stream` opens the account of the stream it returns. -/
theorem prepareStream_ends :
    Obeys deployment.settlement (prepareStream deployment.service chat) locals
      (.live (.start chat)) (Ends fun streaming _ reached =>
        Serves chat streaming.toChatAdmission ∧
          reached = .live (.opening chat streaming.settlementId)) := by
  unfold prepareStream
  split
  · exact Account.isLive _
  · apply Obeys.bind
    apply admitRequest_live.mono
    rintro outcome left reached ⟨rfl, admits⟩
    cases outcome with
    | error failure => exact Account.isLive _
    | ok admission =>
        have serves := admits admission rfl
        apply Obeys.bind
        apply Obeys.tryCatch
        apply (openCredit_ends serves true).mono
        intro outcome last reached opened
        cases outcome with
        | ok settlementId => exact Obeys.pure ⟨serves, opened⟩
        | error failure =>
            apply Obeys.bind
            apply (live_of_quiet (releaseOrRaise_quiet (settlement_overlooks deployment)
              admission) last reached opened).mono
            intro released final latest live
            cases released with
            | ok => exact live
            | error failure => exact live

/-- `prepare_stream` and its stream keep the settlement protocol. -/
theorem serveStream_settles :
    Obeys deployment.settlement (serveStream deployment.service chat) locals
      (.live (.start chat)) fun _ _ _ => True := by
  apply Obeys.bind
  apply prepareStream_ends.mono
  intro outcome left reached prepared
  cases outcome with
  | error failure => trivial
  | ok streaming =>
      obtain ⟨serves, rfl⟩ := prepared
      apply Obeys.bind
      apply Obeys.emit
      · exact ⟨rfl, fun final => by cases final⟩
      · exact (streamResponse_live serves).mono fun _ _ _ _ => trivial
      · exact fun _ _ => trivial

end Zangpu.Services.Chat
