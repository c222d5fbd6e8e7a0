import Zangpu.Foundation.Embedding
import Zangpu.Foundation.Plays
import Zangpu.Services.Chat.Settlement.Guarantees
import Zangpu.Workers.Recovery.Abandonment

/-!
Recovery brings every interrupted operation to an end.

Owns: that the server request identifiers of recovery stay unused by live requests in
every run; environments in which the database and the credit service answer; and that in
every reachable state a pass ends the stale operations of its batch in agreement with the
credit service, exactly unless that service has cancelled an operation with recorded
usage.

Does not own: which pass processes an operation, and failures that a later pass repeats.
-/

set_option autoImplicit false

namespace Zangpu.Workers.Recovery

open Zangpu.Foundation
open Zangpu.Api
open Zangpu.Models
open Zangpu.Integrations.OpenWebUI
open Zangpu.Services.Quota
open Zangpu.Services.Chat

variable {deployment : Deployment}

/-! ## Identifiers of recovery -/

theorem recoveryRequestId_inj {left right : String}
    (same : recoveryRequestId left = recoveryRequestId right) : left = right := by
  have letters := congrArg String.toList same
  simp only [recoveryRequestId, String.toList_append, List.append_cancel_left_eq] at letters
  exact String.toList_inj.mp letters

/-- The server request identifier of a live request is none of a recovery. -/
def Apart (role : Role) : Prop :=
  ∀ chat ∈ role.chat?, ∀ operationId, chat.serverRequestId ≠ recoveryRequestId operationId

/-- Live requests come with identifiers apart from those of recovery. -/
def startsApart : Condition backend Role Unit World :=
  fun _ occurrence => ∀ role, occurrence = .started role → Apart role

theorem serverRequestId_of_justified {inquiry : Inquiry} {operationId : String}
    {usage : Option (Int × Int)} {fields : TerminalFields}
    (justified : inquiry.Justifies operationId usage fields) :
    fields.serverRequestId = recoveryRequestId operationId := by
  obtain ⟨candidate, _, rfl, now, told | unknown⟩ := justified
  · obtain ⟨remote, _, _, _, _, rfl⟩ := told
    unfold remoteFields
    split <;> rfl
  · obtain ⟨_, _, _, _, rfl⟩ := unknown
    rfl

theorem standing_recovery (inquiry : Inquiry) (history : List (Event backend)) :
    ∃ later, deployment.settlement.phase (.recovery inquiry) history = .recovery later := by
  induction history with
  | nil => exact ⟨inquiry, rfl⟩
  | cons event earlier inductionHypothesis =>
      obtain ⟨later, reached⟩ := inductionHypothesis
      refine ⟨later.after event, ?_⟩
      show Standing.after _ (deployment.settlement.phase _ earlier) event = _
      rw [reached]
      rfl

/-- A call that was sent finalizes under the identifier of recovery for its operation
only. -/
theorem namesOwn_of_sent {process : ChatProcess} (apart : Apart process.role)
    (lawful : Lawful deployment.settlement (Standing.start process.role) process.history)
    {call : Call} (sent : Event.sent call ∈ process.history) {made : LedgerCall}
    (makes : call.Makes made) : made.NamesOwn recoveryRequestId := by
  obtain ⟨later, earlier, history⟩ := List.append_of_mem sent
  rw [history] at lawful
  have permitted := lawful.earlier.1
  have live (chat : ChatRequest) (standing : Standing.start process.role = .live (.start chat))
      (own : ∀ operationId, chat.serverRequestId ≠ recoveryRequestId operationId) :
      made.NamesOwn recoveryRequestId := by
    rw [standing, standing_live] at permitted
    have permits : Account.permitsCall _ call := permitted
    cases call with
    | reserveQuota =>
        obtain ⟨_, _, _, rfl⟩ := makes
        trivial
    | recordCredit | recordUsage | touchOperation =>
        cases makes
        trivial
    | terminalize operationId fields =>
        obtain ⟨eventId, terminal, rfl, rfl⟩ := makes
        obtain ⟨_, named, _⟩ := permits
        rw [Account.along_chat] at named
        exact fun other same => absurd (named.symm.trans same) (own other)
    | finalizeRecovered => exact permits.elim
    | _ => cases makes
  cases role : process.role with
  | execute chat | stream chat =>
      have own := apart chat (by rw [role]; rfl)
      exact live chat (by rw [role]; rfl) own
  | recovery now =>
      obtain ⟨inquiry, reached⟩ := @standing_recovery deployment .start earlier
      rw [role] at permitted
      have permits : Standing.permits (deployment.settlement.phase (.recovery .start) earlier)
        (.sent call) := permitted
      rw [reached] at permits
      have permitsCall : inquiry.permitsCall call := permits
      cases call with
      | finalizeRecovered operationId usage fields =>
          have named := serverRequestId_of_justified permitsCall
          rcases makes with ⟨tokens, _, rfl⟩ | ⟨eventId, terminal, rfl, rfl⟩
          · trivial
          · exact fun other same => (recoveryRequestId_inj (named.symm.trans same)).symm
      | reserveQuota | recordCredit | recordUsage | touchOperation | terminalize =>
          exact permitsCall.elim
      | _ => cases makes

/-- What the ledger calls of a call keep, every effect of it keeps. -/
theorem effects_keep {holds : Ledger → Prop} {before after : World} {call : Call}
    {answer : Except Failure call.Answer}
    (step : ∀ {ledger after : Ledger} {made : LedgerCall}, call.Makes made → holds ledger →
      made.transact ledger = .ok after → holds after)
    (effects : Effects deployment before call answer after) (starts : holds before.ledger) :
    holds after.ledger := by
  cases effects with
  | committed ids result | committedUnseen ids result => exact transact_keeps step result starts
  | _ => exact starts

/-- All live requests and all events keep apart from the identifiers of recovery. -/
structure KeptApart (system : ChatSystem) : Prop where
  roles : ∀ process ∈ system.processes, Apart process.role
  events : EventsNamed recoveryRequestId system.world.ledger

theorem apart_step {before after : ChatSystem} {occurrence : Occurrence backend Role}
    (apart : ∀ process ∈ before.processes, Apart process.role)
    (step : Step deployment.behaviour before occurrence after)
    (meets : startsApart before occurrence) : ∀ process ∈ after.processes, Apart process.role := by
  intro process member
  cases step with
  | start =>
      rcases List.mem_append.mp member with old | fresh
      · exact apart process old
      · obtain rfl := List.mem_singleton.mp fresh
        exact meets _ rfl
  | move found moves =>
      rcases List.mem_or_eq_of_mem_set member with old | rfl
      · exact apart process old
      · rw [moves.role_eq]
        exact apart _ (List.mem_of_getElem? found)
  | apply | drop | drift => exact apart process member

theorem KeptApart.step {before after : ChatSystem} {occurrence : Occurrence backend Role}
    (kept : KeptApart before) (holds : (settlementContract deployment).Holds before)
    (step : Step deployment.behaviour before occurrence after)
    (meets : startsApart before occurrence) : KeptApart after where
  roles := apart_step kept.roles step meets
  events := by
    rcases holds.effect step with same | ⟨callers, drifted⟩ | ⟨call, answer, effects, sender⟩
    · rw [same]
      exact kept.events
    · rw [drifted]
      exact kept.events
    · obtain ⟨process, member, sent⟩ := sender
      obtain ⟨pid, found⟩ := List.mem_iff_getElem?.mp member
      have lawful := ((holds.step step).1.keeps pid process found).disciplined.lawful
      refine effects_keep ?_ effects kept.events
      intro ledger later made makes named committed
      exact named.transact
        (namesOwn_of_sent (apart_step kept.roles step meets process member) lawful sent makes)
        committed

/-- In every run that starts live requests apart, no event takes an identifier of
recovery that is not its own. -/
theorem keptApart_of_reaches {world : World} {system : ChatSystem} (agreed : Agreed world)
    (named : EventsNamed recoveryRequestId world.ledger)
    (run : Reaches deployment.behaviour startsApart ⟨world, [], []⟩ system) : KeptApart system := by
  induction run with
  | refl => exact ⟨fun process member => (by cases member), named⟩
  | step earlier step meets inductionHypothesis =>
      exact inductionHypothesis.step (settlement_holds agreed earlier) step meets

/-! ## Answers without failures -/

/-- The calls of a pass. -/
def isRecovering : Call → Bool
  | .loadCandidates _ | .creditStatus _ _ | .settleCredit _ _ _ _ | .cancelCredit _ _
  | .finalizeRecovered _ _ _ => true
  | _ => false

/-- The effects of the calls of a pass that fail neither on their way nor on their way
back; other calls leave the world alone. Row identifiers are unused when they are
drawn. -/
inductive Prompt (deployment : Deployment) :
    World → (call : Call) → Except Failure call.Answer → World → Prop where
  | committed {world : World} {call : Call} {answer : call.Answer} {ledger : Ledger}
      (ids : RowIds) (unused : world.ledger.events.find? ids.event = none)
      (result : call.transact deployment ids world = some (.ok (answer, ledger))) :
      Prompt deployment world call (.ok answer) { world with ledger := ledger }
  | refused {world : World} {call : Call} {error : LedgerError} (ids : RowIds)
      (unused : world.ledger.events.find? ids.event = none)
      (result : call.transact deployment ids world = some (.error error)) :
      Prompt deployment world call (.error (.ofLedger error)) world
  | known {world : World} {operationId serviceUserId : String} {record : CreditOperation}
      (found : world.credit.find? operationId = some record) :
      Prompt deployment world (.creditStatus operationId serviceUserId) (.ok record.snapshot) world
  | unknown {world : World} {operationId serviceUserId : String} {error : UpstreamError}
      (absent : world.credit.find? operationId = none) (code : error.code = notFoundCode) :
      Prompt deployment world (.creditStatus operationId serviceUserId)
        (.error (.openWebUI error)) world
  | settled {world : World} {operationId serviceUserId : String}
      {promptTokens completionTokens chargedMicro : Int}
      {reply : Except UpstreamError CreditOperationSnapshot} {credit : CreditLedger}
      (charged : 0 ≤ chargedMicro ∧ chargedMicro ≤ Integrations.OpenWebUI.signedBigintMax)
      (conclude : CreditLedger.Conclude world.credit operationId
        (.succeeded promptTokens completionTokens chargedMicro) reply credit)
      (prompt : ∀ error, reply = .error error → world.credit.find? operationId = none) :
      Prompt deployment world
        (.settleCredit operationId serviceUserId promptTokens completionTokens)
        (fromCredit reply) { world with credit := credit }
  | cancelled {world : World} {operationId serviceUserId : String} {reported : CancelledAs}
      {reply : Except UpstreamError CreditOperationSnapshot} {credit : CreditLedger}
      (conclude : CreditLedger.Conclude world.credit operationId (.cancelled reported) reply
        credit)
      (prompt : ∀ error, reply = .error error → world.credit.find? operationId = none) :
      Prompt deployment world (.cancelCredit operationId serviceUserId) (fromCredit reply)
        { world with credit := credit }
  | idle {world : World} {call : Call} {answer : Except Failure call.Answer}
      (foreign : isRecovering call = false) (effects : Effects deployment world call answer world) :
      Prompt deployment world call answer world

/-- They are effects of the environment. -/
theorem Prompt.effects {before after : World} {call : Call} {answer : Except Failure call.Answer}
    (prompt : Prompt deployment before call answer after) :
    Effects deployment before call answer after := by
  cases prompt with
  | committed ids _ result => exact .committed ids result
  | refused ids _ result => exact .refused ids result
  | known found => exact .creditStatus (.known found)
  | unknown absent code =>
      have status : CreditLedger.Status before.credit _ (.error _) := .unknown absent code
      exact .creditStatus status
  | settled charged conclude => exact .settleCredit charged conclude
  | cancelled conclude => exact .cancelCredit conclude
  | idle _ effects => exact effects

/-- An environment that answers them without failures. -/
structure Attends (deployment : Deployment) (responder : Responder backend World) : Prop where
  reads : ∀ clock world, (responder.read clock world).2 = world
  prompt : ∀ call world,
    Prompt deployment world call (responder.answer call world).1 (responder.answer call world).2

theorem Attends.lawful {responder : Responder backend World}
    (attends : Attends deployment responder) : responder.Lawful deployment.behaviour :=
  ⟨attends.reads, fun call world => (attends.prompt call world).effects⟩

section Answers

variable {responder : Responder backend World} (attends : Attends deployment responder)
  {world : World} {operationId serviceUserId : String} {record : CreditOperation}

include attends

theorem Attends.status_known (found : world.credit.find? operationId = some record) :
    responder.answer (.creditStatus operationId serviceUserId) world =
      (.ok record.snapshot, world) := by
  have prompt := attends.prompt (.creditStatus operationId serviceUserId) world
  generalize responder.answer (.creditStatus operationId serviceUserId) world = answered at prompt ⊢
  obtain ⟨answer, after⟩ := answered
  cases prompt with
  | committed ids unused result | refused ids unused result => cases result
  | idle foreign => cases foreign
  | known same =>
      cases found.symm.trans same
      rfl
  | unknown absent => cases found.symm.trans absent

theorem Attends.status_unknown (absent : world.credit.find? operationId = none) :
    ∃ error : UpstreamError, error.code = notFoundCode ∧
      responder.answer (.creditStatus operationId serviceUserId) world =
        (.error (.openWebUI error), world) := by
  have prompt := attends.prompt (.creditStatus operationId serviceUserId) world
  generalize responder.answer (.creditStatus operationId serviceUserId) world = answered at prompt ⊢
  obtain ⟨answer, after⟩ := answered
  cases prompt with
  | committed ids unused result | refused ids unused result => cases result
  | idle foreign => cases foreign
  | known found => cases found.symm.trans absent
  | unknown _ code => exact ⟨_, code, rfl⟩

/-- The credit service with one of its records concluded. -/
def concluded (world : World) (operationId : String) (state : CreditState) : World :=
  { world with
    credit := world.credit.modify operationId (CreditOperation.conclude state)
      (CreditOperation.conclude_operationId state) }

theorem Attends.settle_known (found : world.credit.find? operationId = some record)
    (promptTokens completionTokens : Int) : ∃ charged,
      (0 ≤ charged ∧ charged ≤ Integrations.OpenWebUI.signedBigintMax) ∧
        responder.answer (.settleCredit operationId serviceUserId promptTokens completionTokens)
            world =
          (.ok (record.conclude (.succeeded promptTokens completionTokens charged)).snapshot,
            concluded world operationId (.succeeded promptTokens completionTokens charged)) := by
  have prompt := attends.prompt
    (.settleCredit operationId serviceUserId promptTokens completionTokens) world
  generalize responder.answer
    (.settleCredit operationId serviceUserId promptTokens completionTokens) world = answered
      at prompt ⊢
  obtain ⟨answer, after⟩ := answered
  cases prompt with
  | committed ids unused result | refused ids unused result => cases result
  | idle foreign => cases foreign
  | settled charged conclude prompt =>
      refine ⟨_, charged, ?_⟩
      cases conclude with
      | concluded same =>
          cases found.symm.trans same
          rfl
      | unseen | unknown | failed => cases found.symm.trans (prompt _ rfl)

theorem Attends.cancel_known (found : world.credit.find? operationId = some record) :
    ∃ reported, responder.answer (.cancelCredit operationId serviceUserId) world =
      (.ok (record.conclude (.cancelled reported)).snapshot,
        concluded world operationId (.cancelled reported)) := by
  have prompt := attends.prompt (.cancelCredit operationId serviceUserId) world
  generalize responder.answer (.cancelCredit operationId serviceUserId) world = answered at prompt ⊢
  obtain ⟨answer, after⟩ := answered
  cases prompt with
  | committed ids unused result | refused ids unused result => cases result
  | idle foreign => cases foreign
  | @cancelled _ _ reported _ _ conclude prompt =>
      refine ⟨reported, ?_⟩
      cases conclude with
      | concluded same =>
          cases found.symm.trans same
          rfl
      | unseen | unknown | failed => cases found.symm.trans (prompt _ rfl)

/-- A transaction that goes through under every unused identifier is committed. -/
theorem Attends.finalize_ok {usage : Option (Int × Int)} {fields : TerminalFields}
    {goal : Ledger → Prop}
    (succeeds : ∀ ids : RowIds, world.ledger.events.find? ids.event = none → ∃ after,
      recoveryTransaction world.ledger ids operationId usage fields = .ok ((), after) ∧
        goal after) :
    ∃ after, responder.answer (.finalizeRecovered operationId usage fields) world =
      (.ok (), { world with ledger := after }) ∧ goal after := by
  have prompt := attends.prompt (.finalizeRecovered operationId usage fields) world
  generalize responder.answer (.finalizeRecovered operationId usage fields) world = answered
    at prompt ⊢
  obtain ⟨answer, after⟩ := answered
  cases prompt with
  | committed ids unused result =>
      obtain ⟨left, transacted, met⟩ := succeeds ids unused
      cases (Option.some.inj result).symm.trans transacted
      exact ⟨_, rfl, met⟩
  | refused ids unused result =>
      obtain ⟨left, transacted, met⟩ := succeeds ids unused
      cases (Option.some.inj result).symm.trans transacted
  | idle foreign => cases foreign

/-- A transaction that fails under every identifier changes nothing. -/
theorem Attends.finalize_refused {usage : Option (Int × Int)} {fields : TerminalFields}
    {error : LedgerError}
    (fails : ∀ ids : RowIds,
      recoveryTransaction world.ledger ids operationId usage fields = .error error) :
    responder.answer (.finalizeRecovered operationId usage fields) world =
      (.error (.ofLedger error), world) := by
  have prompt := attends.prompt (.finalizeRecovered operationId usage fields) world
  generalize responder.answer (.finalizeRecovered operationId usage fields) world = answered
    at prompt ⊢
  obtain ⟨answer, after⟩ := answered
  cases prompt with
  | committed ids unused result => cases (Option.some.inj result).symm.trans (fails ids)
  | refused ids unused result =>
      cases (Option.some.inj result).symm.trans (fails ids)
      rfl
  | idle foreign => cases foreign

/-- The candidates of a pass are loaded. -/
theorem Attends.load (now : Int) : responder.answer (.loadCandidates now) world =
    (.ok (loadCandidates deployment.worker world.callers world.ledger now), world) := by
  have prompt := attends.prompt (.loadCandidates now) world
  generalize responder.answer (.loadCandidates now) world = answered at prompt ⊢
  obtain ⟨answer, after⟩ := answered
  cases prompt with
  | committed ids unused result =>
      cases Option.some.inj result
      rfl
  | refused ids unused result => cases Option.some.inj result
  | idle foreign => cases foreign

end Answers

/-! ## Terminal records -/

/-- A record that fits the columns of a terminal event is valid. -/
theorem terminalFields_valid {candidate : RecoveryCandidate} {now httpStatus chargedMicro : Int}
    {status : TerminalStatus} {outcome : EventOutcome} {businessCode : String}
    (http : 100 ≤ httpStatus ∧ httpStatus ≤ 599)
    (code : businessCode ≠ "" ∧ businessCode.toList.length ≤ 64) (charged : 0 ≤ chargedMicro)
    (short : candidate.operationId.toList.length ≤ 36) :
    (terminalFields candidate now status outcome httpStatus businessCode chargedMicro).postInit =
      .ok () := by
  have base := unknownFields_valid now short
  simp only [TerminalFields.postInit, bind_ok_iff, require_ok_iff] at base ⊢
  obtain ⟨_, _, _, _, _, duration, _, _, _, named, _, remote, agent⟩ := base
  exact ⟨(), http, (), code, (), duration, (), ⟨charged, le_refl 0, le_refl 0⟩, (), named, (),
    remote, agent⟩

/-- What makes a terminal record of a candidate go through. -/
structure Finalizing (row : ApiCallOperation) (fields : TerminalFields) : Prop where
  valid : fields.postInit = .ok ()
  own : fields.serverRequestId = recoveryRequestId row.id
  ordered : row.startedAt ≤ fields.completedAt

section Transactions

variable {ledger : Ledger} {row : ApiCallOperation} {fields : TerminalFields} {ids : RowIds}

/-- Every counter takes the tokens of an operation. -/
def CountersTake (ledger : Ledger) (row : ApiCallOperation) : Prop :=
  ∀ counter ∈ ledger.quotas.rows,
    counter.tokenConsumed + row.totalTokens ≤ Services.Quota.signedBigintMax

/-- All other operations stay as they are, and every counter takes the tokens of this one
at most. -/
structure Aside (row : ApiCallOperation) (before after : Ledger) : Prop where
  operations : ∀ operationId, operationId ≠ row.id →
    after.operations.find? operationId = before.operations.find? operationId
  consumed : ∀ later ∈ after.quotas.rows, ∃ counter ∈ before.quotas.rows,
    later.tokenConsumed ≤ counter.tokenConsumed + row.totalTokens

theorem totalTokens_nonneg (kept : Kept ledger) (awaits : Awaits ledger row) :
    0 ≤ row.totalTokens := by
  cases recorded : row.providerUsageRecorded with
  | true =>
      obtain ⟨prompt, completion, total, _⟩ := kept.counted row awaits.member recorded
      omega
  | false => exact le_of_eq (kept.recorded row awaits.member recorded).symm

theorem Aside.refl (kept : Kept ledger) (awaits : Awaits ledger row) : Aside row ledger ledger where
  operations _ _ := rfl
  consumed counter member :=
    ⟨counter, member, le_add_of_nonneg_right (totalTokens_nonneg kept awaits)⟩

/-- A finalization settles one operation. -/
theorem finalizedLedger_aside (kept : Kept ledger) (awaits : Awaits ledger row) (eventId : String)
    (rows : QuotaRows) (terminal : OperationTerminal) :
    Aside row ledger (finalizedLedger ledger eventId row rows terminal) where
  operations operationId other := by
    have same := @Table.find?_modify_of_ne _ _ _ _ _ (terminalOperation_id terminal)
      ledger.operations row.id operationId other.symm
    exact same
  consumed := by
    intro later member
    obtain ⟨counter, stored, changed⟩ := mem_updateQuotaRows row member
    refine ⟨counter, stored, ?_⟩
    rw [changed]
    split
    · exact le_refl _
    · exact le_add_of_nonneg_right (totalTokens_nonneg kept awaits)

theorem counter_of_kept (kept : Kept ledger) (awaits : Awaits ledger row)
    (take : CountersTake ledger row) (scope : QuotaScope) :
    ∃ counter, ledger.quotas.find? (row.quotaKey scope) = some counter ∧
      row.reservedTokens ≤ counter.tokenReserved ∧
      counter.tokenConsumed + row.totalTokens ≤ Services.Quota.signedBigintMax := by
  obtain ⟨counter, found⟩ := Option.isSome_iff_exists.mp
    (kept.settleable.conserved.covered row awaits.member scope)
  have stored := Table.mem_of_find? found
  have counts : CountedUnder counter.key row := by
    rw [Table.key_of_find? found, CountedUnder, ApiCallOperation.quotaKey_scope]
  exact ⟨counter, found, kept.settleable.holds awaits.member awaits.pending stored counts,
    take counter stored⟩

/-- The operation has ended under a record, with the usage it had. -/
def Ended (before after : Ledger) (row : ApiCallOperation) (fields : TerminalFields) : Prop :=
  Aside row before after ∧ ∃ last, after.operations.find? row.id = some last ∧
    last.status = fields.status.toStatus ∧ last.promptTokens = row.promptTokens ∧
    last.completionTokens = row.completionTokens

/-- A pending operation is finalized under the identifier of its recovery. -/
theorem terminalTransaction_ok (kept : Kept ledger)
    (named : EventsNamed recoveryRequestId ledger) (awaits : Awaits ledger row)
    (take : CountersTake ledger row) (finalizing : Finalizing row fields)
    (newEvent : ledger.events.find? ids.event = none) :
    ∃ after, terminalTransaction ledger ids row.id fields = .ok ((), after) ∧
      Ended ledger after row fields := by
  have created : OperationTerminal.create fields = .ok ⟨fields, finalizing.valid⟩ := by
    unfold OperationTerminal.create
    split
    · rfl
    · rename_i failed
      rw [finalizing.valid] at failed
      cases failed
  obtain ⟨daily, dailyFound, dailyGuard⟩ := counter_of_kept kept awaits take .daily
  obtain ⟨lifetime, lifetimeFound, lifetimeGuard⟩ := counter_of_kept kept awaits take .lifetime
  have unused : ∀ event ∈ ledger.events.rows, event.operationId ≠ some row.id :=
    kept.settleable.conserved.pending_unnamed awaits.member awaits.pending
  have newServerRequest : ∀ event ∈ ledger.events.rows,
      event.serverRequestId ≠ fields.serverRequestId := by
    intro event stored same
    exact unused event stored (named event stored row.id (same.trans finalizing.own))
  have guards : Finalizable ledger ids.event row ⟨daily, lifetime⟩ ⟨fields, finalizing.valid⟩ :=
    ⟨awaits.pending, finalizing.ordered, dailyFound, lifetimeFound, dailyGuard, lifetimeGuard,
      newEvent, newServerRequest, unused⟩
  have finalized := finalizeOperation_ok_iff.mpr ⟨row, ⟨daily, lifetime⟩, awaits.found,
    (kept.settleable.recorded row awaits.member).started, dailyFound, lifetimeFound,
    Or.inr ⟨guards, rfl, rfl⟩⟩
  refine ⟨finalizedLedger ledger ids.event row ⟨daily, lifetime⟩ ⟨fields, finalizing.valid⟩, ?_,
    finalizedLedger_aside kept awaits _ _ _,
    terminalOperation ⟨fields, finalizing.valid⟩ row, ?_, rfl, rfl, rfl⟩
  · rw [terminalTransaction, created, ok_bind, finalized]
    rfl
  · exact @Table.find?_modify_same _ _ _ _ _ (terminalOperation_id ⟨fields, finalizing.valid⟩)
      _ _ _ awaits.found

/-- The ledger with the usage of a recorded operation recorded again. -/
theorem recordProviderUsage_again (kept : Kept ledger) (awaits : Awaits ledger row)
    (recorded : row.providerUsageRecorded = true) (now : Int) :
    recordProviderUsage ledger row.id row.promptTokens row.completionTokens now =
      .ok (updateOperation ledger row.id (usageRow row.promptTokens row.completionTokens now)
        (usageRow_id row.promptTokens row.completionTokens now)) := by
  obtain ⟨prompt, completion, total, bounded⟩ := kept.counted row awaits.member recorded
  refine recordProviderUsage_ok_iff.mpr ⟨⟨prompt, completion⟩, total ▸ bounded, row,
    ⟨awaits.found, awaits.pending⟩, Or.inr ?_, rfl⟩
  rw [total]

theorem recoveryTransaction_recorded (kept : Kept ledger)
    (named : EventsNamed recoveryRequestId ledger) (awaits : Awaits ledger row)
    (take : CountersTake ledger row) (finalizing : Finalizing row fields)
    (recorded : row.providerUsageRecorded = true)
    (newEvent : ledger.events.find? ids.event = none) :
    ∃ after, recoveryTransaction ledger ids row.id
        (some (row.promptTokens, row.completionTokens)) fields = .ok ((), after) ∧
      Ended ledger after row fields := by
  have again := recordProviderUsage_again kept awaits recorded fields.completedAt
  have committed : (LedgerCall.recordUsage row.id row.promptTokens row.completionTokens
      fields.completedAt).transact ledger = .ok _ := again
  have total := (kept.counted row awaits.member recorded).2.2.1
  have awaitsAgain : Awaits (updateOperation ledger row.id
      (usageRow row.promptTokens row.completionTokens fields.completedAt)
      (usageRow_id row.promptTokens row.completionTokens fields.completedAt))
      (usageRow row.promptTokens row.completionTokens fields.completedAt row) :=
    ⟨@Table.find?_modify_same _ _ _ _ _ (usageRow_id _ _ _) _ _ _ awaits.found, awaits.pending⟩
  have takeAgain : CountersTake (updateOperation ledger row.id
      (usageRow row.promptTokens row.completionTokens fields.completedAt)
      (usageRow_id row.promptTokens row.completionTokens fields.completedAt))
      (usageRow row.promptTokens row.completionTokens fields.completedAt row) := by
    intro counter stored
    have taken := take counter stored
    rw [total] at taken
    exact taken
  obtain ⟨after, transacted, aside, last, found, status, prompt, completion⟩ :=
    terminalTransaction_ok (kept.transact committed) named awaitsAgain takeAgain
      ⟨finalizing.valid, finalizing.own, finalizing.ordered⟩ newEvent
  refine ⟨after, ?_, ⟨?_, ?_⟩, last, found, status, prompt, completion⟩
  · show (recordProviderUsage ledger row.id row.promptTokens row.completionTokens _ >>= _) = _
    rw [again]
    exact transacted
  · intro operationId other
    rw [aside.operations operationId other]
    exact @Table.find?_modify_of_ne _ _ _ _ _ (usageRow_id _ _ _) _ _ _ other.symm
  · intro later member
    obtain ⟨counter, stored, consumed⟩ := aside.consumed later member
    refine ⟨counter, stored, ?_⟩
    rw [total]
    exact consumed

/-- Other usage than the recorded is refused. -/
theorem recoveryTransaction_conflict (awaits : Awaits ledger row)
    (recorded : row.providerUsageRecorded = true)
    (other : (row.promptTokens, row.completionTokens) ≠ (0, 0)) :
    recoveryTransaction ledger ids row.id (some (0, 0)) fields =
      .error (.quotaState "provider usage conflicts") := by
  have refused : recordProviderUsage ledger row.id 0 0 fields.completedAt =
      .error (.quotaState "provider usage conflicts") := by
    have stored : findPendingOperation ledger row.id = .ok row :=
      findPendingOperation_ok_iff.mpr ⟨awaits.found, awaits.pending⟩
    have differs : ¬(row.providerUsageRecorded = false ∨
        (row.promptTokens, row.completionTokens, row.totalTokens) = (0, 0, 0 + 0)) := by
      rintro (unrecorded | same)
      · rw [recorded] at unrecorded
        cases unrecorded
      · simp only [Prod.mk.injEq] at same
        exact other (Prod.ext same.1 same.2.1)
    have nonneg : (0 : Int) ≤ 0 ∧ (0 : Int) ≤ 0 := by decide
    have small : (0 : Int) + 0 ≤ Services.Quota.signedBigintMax := by decide
    unfold recordProviderUsage
    rw [(require_ok_iff _ _ ()).mpr nonneg, ok_bind]
    dsimp only
    rw [(require_ok_iff _ _ ()).mpr small, ok_bind, stored, ok_bind,
      (require_error_iff _ _ _).mpr ⟨differs, rfl⟩]
    rfl
  show (recordProviderUsage ledger row.id 0 0 _ >>= _) = _
  rw [refused]
  rfl

end Transactions

/-! ## Recovery of one operation -/

/-- A pending operation that can be finalized. -/
structure Finishable (ledger : Ledger) (row : ApiCallOperation) : Prop where
  kept : Kept ledger
  named : EventsNamed recoveryRequestId ledger
  awaits : Awaits ledger row
  short : row.id.toList.length ≤ 36
  take : CountersTake ledger row

/-- A pending operation whose client names the service user of its credit operation. -/
structure Recoverable (world : World) (row : ApiCallOperation) (serviceUserId : String) :
    Prop where
  agreed : Agreed world
  named : EventsNamed recoveryRequestId world.ledger
  awaits : Awaits world.ledger row
  user : ∀ record, world.credit.find? row.id = some record → record.serviceUserId = serviceUserId
  short : row.id.toList.length ≤ 36
  take : CountersTake world.ledger row

/-- The operation has ended in agreement with the credit service. -/
def Recovered (operationId : String) (world : World) : Prop :=
  ∃ row, world.ledger.operations.find? operationId = some row ∧
    ((row.status = .completed ∧ ∃ charged, ConclusionStands world.credit operationId
        (.succeeded row.promptTokens row.completionTokens charged)) ∨
      (row.status = .abandoned ∧ (world.credit.find? operationId = none ∨
        ∃ reported, ConclusionStands world.credit operationId (.cancelled reported))))

/-- The credit service has cancelled an operation with recorded usage. -/
def Conflicted (world : World) (candidate : RecoveryCandidate) : Prop :=
  candidate.providerUsageRecorded = true ∧
    (candidate.promptTokens, candidate.completionTokens) ≠ (0, 0) ∧
    ∃ reported, ConclusionStands world.credit candidate.operationId (.cancelled reported)

/-- An operation is recovered, and all others are left alone. -/
structure Recovers (row : ApiCallOperation) (before after : World) : Prop where
  recovered : Recovered row.id after
  ledger : Aside row before.ledger after.ledger
  credit : ∀ operationId, operationId ≠ row.id →
    after.credit.find? operationId = before.credit.find? operationId

section Finishing

variable {world : World} {row : ApiCallOperation} {serviceUserId : String} {now : Int}
  {locals : Locals} {responder : Responder backend World} {record : CreditOperation}

/-- The record of `_finalize` goes through. -/
theorem Finishable.finalizing (finishable : Finishable world.ledger row)
    {remote : CreditOperationSnapshot} (price : 0 ≤ remote.chargedMicro) (now : Int) :
    Finalizing row (remoteFields (candidateOf row serviceUserId) remote now) := by
  unfold remoteFields
  split
  · exact ⟨terminalFields_valid (by decide) (by decide) price finishable.short, rfl,
      le_max_right _ _⟩
  · exact ⟨terminalFields_valid (by decide) (by decide) price finishable.short, rfl,
      le_max_right _ _⟩

/-- `_finalize` of valid evidence is its transaction. -/
theorem finalize_of_valid {candidate : RecoveryCandidate} {remote : CreditOperationSnapshot}
    (counters : validCounters remote = true)
    (free : remote.status = .failedNoCharge → remote.chargedMicro = 0)
    {goal : Except Failure Unit → World → Prop} {answer : Except Failure Unit} {after : World}
    (answered : responder.answer (.finalizeRecovered candidate.operationId
      (remoteUsage candidate remote) (remoteFields candidate remote now)) world = (answer, after))
    (holds : goal answer after) :
    Executes responder (finalize candidate remote now) locals world
      fun outcome _ reached => goal outcome reached := by
  unfold finalize
  rw [counters, if_neg (by decide), if_neg fun charged => charged.2 (free charged.1)]
  apply Executes.perform
  rw [answered]
  exact holds

/-- `_finalize` for the tokens that the credit service has settled. -/
theorem Finishable.completes (finishable : Finishable world.ledger row)
    (attends : Attends deployment responder) (found : world.credit.find? row.id = some record)
    {charged : Int} (state : record.state =
      .succeeded row.promptTokens row.completionTokens charged)
    (price : 0 ≤ charged) (recorded : row.providerUsageRecorded = true) :
    Executes responder (finalize (candidateOf row serviceUserId) record.snapshot now) locals world
      fun outcome _ reached => outcome = .ok () ∧ Recovers row world reached := by
  obtain ⟨prompt, completion, _, _⟩ :=
    finishable.kept.counted row finishable.awaits.member recorded
  have told : record.snapshot.status = .succeededCharged ∧
      record.snapshot.promptTokens = row.promptTokens ∧
      record.snapshot.completionTokens = row.completionTokens ∧
      record.snapshot.totalTokens = row.promptTokens + row.completionTokens ∧
      record.snapshot.chargedMicro = charged := by
    simp only [CreditOperation.snapshot, state]
    exact ⟨rfl, rfl, rfl, rfl, rfl⟩
  obtain ⟨status, samePrompt, sameCompletion, sameTotal, sameCharge⟩ := told
  have usage : remoteUsage (candidateOf row serviceUserId) record.snapshot =
      some (row.promptTokens, row.completionTokens) := by
    rw [remoteUsage, if_pos (Or.inl status), samePrompt, sameCompletion]
  have counters : validCounters record.snapshot = true := by
    simp only [validCounters, samePrompt, sameCompletion, sameTotal, sameCharge, Bool.and_eq_true,
      decide_eq_true_eq]
    exact ⟨⟨⟨⟨prompt, completion⟩, Int.add_nonneg prompt completion⟩, price⟩, trivial⟩
  obtain ⟨after, answered, aside, last, kept, ended, lastPrompt, lastCompletion⟩ :=
    attends.finalize_ok fun ids newEvent => recoveryTransaction_recorded finishable.kept
      finishable.named finishable.awaits finishable.take
      (@Finishable.finalizing _ _ serviceUserId finishable _ (sameCharge.symm ▸ price) now)
      recorded newEvent
  rw [← usage] at answered
  rw [remoteFields, if_pos status] at ended
  refine finalize_of_valid counters ?_ answered ⟨rfl, ?_, aside, fun _ _ => rfl⟩
  · intro cancelled
    cases status.symm.trans cancelled
  · refine ⟨last, kept, Or.inl ⟨ended, charged, record, found, ?_, CreditState.noConfusion⟩⟩
    rw [lastPrompt, lastCompletion]
    exact state

/-- What the record of a cancelled operation tells. -/
theorem cancelled_told {reported : CancelledAs} (state : record.state = .cancelled reported) :
    isCancelled record.snapshot.status = true ∧ record.snapshot.promptTokens = 0 ∧
      record.snapshot.completionTokens = 0 ∧ record.snapshot.totalTokens = 0 ∧
      record.snapshot.chargedMicro = 0 := by
  simp only [CreditOperation.snapshot, state]
  refine ⟨?_, rfl, rfl, rfl, rfl⟩
  cases reported <;> rfl

theorem cancelled_valid {reported : CancelledAs} (state : record.state = .cancelled reported) :
    validCounters record.snapshot = true := by
  obtain ⟨_, prompt, completion, total, charged⟩ := cancelled_told state
  simp only [validCounters, prompt, completion, total, charged]
  decide

/-- The transaction for an operation that the credit service has cancelled. -/
theorem Finishable.recoveryTransaction_cancelled (finishable : Finishable world.ledger row)
    {reported : CancelledAs} (state : record.state = .cancelled reported)
    (unused : row.providerUsageRecorded = true →
      (row.promptTokens, row.completionTokens) = (0, 0))
    {ids : RowIds} (newEvent : world.ledger.events.find? ids.event = none) :
    ∃ after, recoveryTransaction world.ledger ids row.id
        (remoteUsage (candidateOf row serviceUserId) record.snapshot)
        (remoteFields (candidateOf row serviceUserId) record.snapshot now) = .ok ((), after) ∧
      Ended world.ledger after row
        (remoteFields (candidateOf row serviceUserId) record.snapshot now) := by
  obtain ⟨cancelled, prompt, completion, total, charged⟩ := cancelled_told state
  have finalizing := @Finishable.finalizing _ _ serviceUserId finishable record.snapshot
    (by rw [charged]) now
  cases recorded : row.providerUsageRecorded with
  | false =>
      have other : record.snapshot.status ≠ .succeededCharged := by
        intro same
        rw [same] at cancelled
        cases cancelled
      have usage : remoteUsage (candidateOf row serviceUserId) record.snapshot = none := by
        simp [remoteUsage, candidateOf, other, total, recorded]
      rw [usage]
      exact terminalTransaction_ok finishable.kept finishable.named finishable.awaits
        finishable.take finalizing newEvent
  | true =>
      have usage : remoteUsage (candidateOf row serviceUserId) record.snapshot =
          some (row.promptTokens, row.completionTokens) := by
        simp [remoteUsage, candidateOf, prompt, completion, recorded, unused recorded]
      rw [usage]
      exact recoveryTransaction_recorded finishable.kept finishable.named finishable.awaits
        finishable.take finalizing recorded newEvent

/-- `_finalize` for an operation that the credit service has cancelled. -/
theorem Finishable.abandons (finishable : Finishable world.ledger row)
    (attends : Attends deployment responder) (found : world.credit.find? row.id = some record)
    {reported : CancelledAs} (state : record.state = .cancelled reported)
    (unused : row.providerUsageRecorded = true →
      (row.promptTokens, row.completionTokens) = (0, 0)) :
    Executes responder (finalize (candidateOf row serviceUserId) record.snapshot now) locals world
      fun outcome _ reached => outcome = .ok () ∧ Recovers row world reached := by
  obtain ⟨cancelled, _, _, _, charged⟩ := cancelled_told state
  obtain ⟨after, answered, aside, last, kept, ended, _, _⟩ :=
    attends.finalize_ok fun ids newEvent => @Finishable.recoveryTransaction_cancelled _ _
      serviceUserId now _ finishable _ state unused _ newEvent
  have other : record.snapshot.status ≠ .succeededCharged := by
    intro same
    rw [same] at cancelled
    cases cancelled
  rw [remoteFields, if_neg other] at ended
  exact finalize_of_valid (cancelled_valid state) (fun _ => charged) answered ⟨rfl, ⟨last, kept,
    Or.inr ⟨ended, Or.inr ⟨reported, record, found, state, CreditState.noConfusion⟩⟩⟩, aside,
    fun _ _ => rfl⟩

/-- `_finalize` refuses an operation with usage that the credit service has
cancelled. -/
theorem Finishable.conflicts (finishable : Finishable world.ledger row)
    (attends : Attends deployment responder) {reported : CancelledAs}
    (state : record.state = .cancelled reported) (recorded : row.providerUsageRecorded = true)
    (used : (row.promptTokens, row.completionTokens) ≠ (0, 0)) :
    Executes responder (finalize (candidateOf row serviceUserId) record.snapshot now) locals world
      fun outcome _ reached => reached = world ∧
        ∃ failure, outcome = .error failure ∧ failure.isRecoverable = true := by
  obtain ⟨_, prompt, completion, _, charged⟩ := cancelled_told state
  have usage : remoteUsage (candidateOf row serviceUserId) record.snapshot = some (0, 0) := by
    simp [remoteUsage, candidateOf, prompt, completion, recorded]
  have answered := attends.finalize_refused fun ids =>
    @recoveryTransaction_conflict world.ledger row
      (remoteFields (candidateOf row serviceUserId) record.snapshot now) ids finishable.awaits
      recorded used
  rw [← usage] at answered
  exact finalize_of_valid (cancelled_valid state) (fun _ => charged) answered ⟨rfl, _, rfl, rfl⟩

end Finishing

section Recoverable

variable {world : World} {row : ApiCallOperation} {serviceUserId : String} {now : Int}
  {locals : Locals} {responder : Responder backend World}

/-- The identity of a credit operation agrees with its candidate. -/
theorem Recoverable.validIdentity (recoverable : Recoverable world row serviceUserId)
    {record later : CreditOperation} (found : world.credit.find? row.id = some record)
    (evolves : record.Evolves later) :
    validIdentity (candidateOf row serviceUserId) later.snapshot = true := by
  obtain ⟨operation, user, model, provider⟩ := evolves.identity_eq
  have keyed : later.operationId = row.id := operation.trans (Table.key_of_find? found)
  obtain ⟨bifrost, stored, storedFound, storedModel⟩ :=
    recoverable.agreed.identified row.id record found
  obtain rfl := Option.some.inj (recoverable.awaits.found.symm.trans storedFound)
  have settlement : row.creditSettlementId = none ∨
      row.creditSettlementId = some later.settlementId := by
    cases written : row.creditSettlementId with
    | none => exact Or.inl rfl
    | some settlementId =>
        obtain ⟨same, sameFound, settled⟩ := recoverable.agreed.credited row
          recoverable.awaits.member settlementId written
        obtain rfl := Option.some.inj (found.symm.trans sameFound)
        exact Or.inr (congrArg some (evolves.settlementId_eq.trans settled).symm)
  have usage : row.usageOperationId = none ∨
      row.usageOperationId = some (usageOperationIdOf later.operationId) := by
    cases written : row.usageOperationId with
    | none => exact Or.inl rfl
    | some usageOperationId =>
        have own := recoverable.agreed.named row recoverable.awaits.member usageOperationId written
        exact Or.inr (congrArg some (keyed.symm ▸ own))
  simp only [Recovery.validIdentity, Bool.and_eq_true, Bool.or_eq_true, decide_eq_true_eq]
  exact ⟨⟨⟨⟨⟨⟨keyed, user.trans (recoverable.user record found)⟩, model.trans storedModel.symm⟩,
    provider.trans bifrost⟩, congrArg (some ∘ usageOperationIdOf) keyed⟩, settlement⟩, usage⟩

theorem Recoverable.finishable (recoverable : Recoverable world row serviceUserId) :
    Finishable world.ledger row :=
  ⟨recoverable.agreed.kept, recoverable.named, recoverable.awaits, recoverable.short,
    recoverable.take⟩

/-- The world of one concluded operation has its record. -/
theorem find?_concluded {record : CreditOperation}
    (found : world.credit.find? row.id = some record) (state : CreditState) :
    (concluded world row.id state).credit.find? row.id = some (record.conclude state) :=
  @Table.find?_modify_same _ _ _ _ _ (CreditOperation.conclude_operationId state) _ _ _ found

theorem conclude_state {record : CreditOperation} (pending : record.state = .pending)
    (state : CreditState) : (record.conclude state).state = state := by
  unfold CreditOperation.conclude
  rw [if_pos pending]

theorem Recovers.of_concluded {state : CreditState} {after : World}
    (recovers : Recovers row (concluded world row.id state) after) : Recovers row world after where
  recovered := recovers.recovered
  ledger := recovers.ledger
  credit operationId other := by
    rw [recovers.credit operationId other]
    exact @Table.find?_modify_of_ne _ _ _ _ _ (CreditOperation.conclude_operationId state) _ _ _
      other.symm

theorem validateIdentity_of_valid {candidate : RecoveryCandidate}
    {remote : CreditOperationSnapshot} (valid : validIdentity candidate remote = true)
    {goal : Except Failure Unit → Locals → World → Prop} (holds : goal (.ok ()) locals world) :
    Executes responder (validateIdentity candidate remote) locals world goal := by
  unfold validateIdentity
  rw [if_pos valid]
  exact Executes.pure holds

/-- An operation that the credit service does not know is abandoned. -/
theorem Recoverable.recovers_absent (recoverable : Recoverable world row serviceUserId)
    (attends : Attends deployment responder) (absent : world.credit.find? row.id = none) :
    Executes responder (process (candidateOf row serviceUserId) now) locals world
      fun outcome _ reached => outcome = .ok () ∧ Recovers row world reached := by
  have member := recoverable.awaits.member
  have unsettled : row.creditSettlementId = none := by
    cases written : row.creditSettlementId with
    | none => rfl
    | some settlementId =>
        obtain ⟨record, found, _⟩ := recoverable.agreed.credited row member settlementId written
        cases absent.symm.trans found
  have unused : row.providerUsageRecorded = false := by
    cases recorded : row.providerUsageRecorded with
    | false => rfl
    | true =>
        obtain ⟨record, found⟩ := recoverable.agreed.metered row member recorded
        cases absent.symm.trans found
  obtain ⟨error, code, asked⟩ := @Attends.status_unknown _ _ attends _ _ serviceUserId absent
  have without : isWithoutCredit (candidateOf row serviceUserId) (.openWebUI error) = true := by
    simp [isWithoutCredit, code, candidateOf, unsettled, unused]
  have finalizing : Finalizing row (unknownFields (candidateOf row serviceUserId) now) :=
    ⟨unknownFields_valid now recoverable.short, rfl, le_max_right _ _⟩
  have transacted : ∀ ids : RowIds, world.ledger.events.find? ids.event = none → ∃ after,
      recoveryTransaction world.ledger ids row.id none
          (unknownFields (candidateOf row serviceUserId) now) = .ok ((), after) ∧
        Ended world.ledger after row (unknownFields (candidateOf row serviceUserId) now) :=
    fun ids newEvent => terminalTransaction_ok recoverable.finishable.kept recoverable.named
      recoverable.awaits recoverable.take finalizing newEvent
  obtain ⟨after, answered, aside, last, kept, ended, _, _⟩ := attends.finalize_ok transacted
  unfold process
  apply Executes.bind
  apply Executes.tryCatch
  apply Executes.bind
  apply Executes.await
  rw [show (candidateOf row serviceUserId).operationId = row.id from rfl,
    show (candidateOf row serviceUserId).serviceUserId = serviceUserId from rfl, asked]
  dsimp only
  rw [if_pos without]
  apply Executes.bind
  apply Executes.perform
  rw [show (candidateOf row serviceUserId).operationId = row.id from rfl, answered]
  exact Executes.pure (Executes.pure ⟨rfl, ⟨last, kept, Or.inr ⟨ended, Or.inl absent⟩⟩, aside,
    fun _ _ => rfl⟩)

/-- A known operation goes on with the record that the credit service tells. -/
theorem process_of_known (attends : Attends deployment responder) {record : CreditOperation}
    (found : world.credit.find? row.id = some record)
    {goal : Except Failure Unit → Locals → World → Prop}
    (executes : Executes responder
      (processKnown (candidateOf row serviceUserId) now record.snapshot) locals world goal) :
    Executes responder (process (candidateOf row serviceUserId) now) locals world goal := by
  unfold process
  apply Executes.bind
  apply Executes.tryCatch
  apply Executes.bind
  apply Executes.await
  rw [show (candidateOf row serviceUserId).operationId = row.id from rfl,
    show (candidateOf row serviceUserId).serviceUserId = serviceUserId from rfl,
    attends.status_known found]
  exact Executes.pure executes

/-- A record that is concluded already is finalized as it is. -/
theorem Recoverable.processKnown_terminal (recoverable : Recoverable world row serviceUserId)
    {record : CreditOperation} (found : world.credit.find? row.id = some record)
    (terminal : record.state ≠ .pending) {goal : Except Failure Unit → Locals → World → Prop}
    (executes : Executes responder (finalize (candidateOf row serviceUserId) record.snapshot now)
      locals world goal) :
    Executes responder (processKnown (candidateOf row serviceUserId) now record.snapshot) locals
      world goal := by
  have known : record.snapshot.status ≠ .settlementError ∧ record.snapshot.status ≠ .pending ∧
      isTerminal record.snapshot.status = true := by
    show record.state.status ≠ _ ∧ record.state.status ≠ _ ∧ isTerminal record.state.status = true
    cases state : record.state with
    | pending => exact absurd state terminal
    | succeeded => exact ⟨CreditStatus.noConfusion, CreditStatus.noConfusion, rfl⟩
    | cancelled reported => cases reported <;> decide
  unfold processKnown
  apply Executes.bind
  apply validateIdentity_of_valid (recoverable.validIdentity found (.refl record))
  dsimp only
  rw [if_neg known.1, if_neg known.2.1]
  apply Executes.bind
  apply Executes.pure
  dsimp only
  rw [known.2.2]
  exact executes

/-- An open record goes on with the record that `concludeRemote` leaves. -/
theorem Recoverable.processKnown_pending (recoverable : Recoverable world row serviceUserId)
    {record : CreditOperation} (found : world.credit.find? row.id = some record)
    (pending : record.state = .pending) {goal : Except Failure Unit → Locals → World → Prop}
    (executes : Executes responder (concludeRemote (candidateOf row serviceUserId)) locals world
      fun outcome left reached => ∃ remote, outcome = .ok remote ∧
        isTerminal remote.status = true ∧
        Executes responder (finalize (candidateOf row serviceUserId) remote now) left reached
          goal) :
    Executes responder (processKnown (candidateOf row serviceUserId) now record.snapshot) locals
      world goal := by
  have status : record.snapshot.status = .pending := congrArg CreditState.status pending
  unfold processKnown
  apply Executes.bind
  apply validateIdentity_of_valid (recoverable.validIdentity found (.refl record))
  dsimp only
  rw [if_neg (by rw [status]; decide), if_pos status]
  apply Executes.bind
  refine executes.mono ?_
  rintro outcome left reached ⟨remote, rfl, terminal, finalizes⟩
  dsimp only
  rw [terminal]
  exact finalizes

/-- An open record with recorded usage is settled for it. -/
theorem Recoverable.processKnown_settles (recoverable : Recoverable world row serviceUserId)
    (attends : Attends deployment responder) {record : CreditOperation}
    (found : world.credit.find? row.id = some record) (pending : record.state = .pending)
    (recorded : row.providerUsageRecorded = true) :
    Executes responder (processKnown (candidateOf row serviceUserId) now record.snapshot) locals
      world fun outcome _ reached => outcome = .ok () ∧ Recovers row world reached := by
  obtain ⟨charged, price, asked⟩ := @Attends.settle_known _ _ attends _ _ serviceUserId _ found
    row.promptTokens row.completionTokens
  have evolves : record.Evolves
      (record.conclude (.succeeded row.promptTokens row.completionTokens charged)) :=
    CreditOperation.conclude_evolves CreditState.noConfusion record
  have state := conclude_state pending
    (.succeeded row.promptTokens row.completionTokens charged)
  have status : (record.conclude (.succeeded row.promptTokens row.completionTokens
      charged)).snapshot.status = .succeededCharged := congrArg CreditState.status state
  apply recoverable.processKnown_pending found pending
  unfold concludeRemote
  rw [if_pos (show (candidateOf row serviceUserId).providerUsageRecorded = true from recorded)]
  apply Executes.bind
  apply Executes.await
  rw [show (candidateOf row serviceUserId).operationId = row.id from rfl,
    show (candidateOf row serviceUserId).serviceUserId = serviceUserId from rfl,
    show (candidateOf row serviceUserId).promptTokens = row.promptTokens from rfl,
    show (candidateOf row serviceUserId).completionTokens = row.completionTokens from rfl, asked]
  apply Executes.bind
  apply validateIdentity_of_valid (recoverable.validIdentity found evolves)
  dsimp only
  rw [if_neg (not_not_intro status)]
  refine Executes.pure ⟨_, rfl, by rw [status]; rfl, ?_⟩
  have finishable : Finishable (concluded world row.id (.succeeded row.promptTokens
      row.completionTokens charged)).ledger row := recoverable.finishable
  refine (finishable.completes attends (find?_concluded found _) state price.1 recorded).mono ?_
  exact fun outcome left reached ended => ⟨ended.1, ended.2.of_concluded⟩

/-- An open record without recorded usage is cancelled. -/
theorem Recoverable.processKnown_cancels (recoverable : Recoverable world row serviceUserId)
    (attends : Attends deployment responder) {record : CreditOperation}
    (found : world.credit.find? row.id = some record) (pending : record.state = .pending)
    (unused : row.providerUsageRecorded = false) :
    Executes responder (processKnown (candidateOf row serviceUserId) now record.snapshot) locals
      world fun outcome _ reached => outcome = .ok () ∧ Recovers row world reached := by
  obtain ⟨reported, asked⟩ := @Attends.cancel_known _ _ attends _ _ serviceUserId _ found
  have evolves : record.Evolves (record.conclude (.cancelled reported)) :=
    CreditOperation.conclude_evolves CreditState.noConfusion record
  have state := conclude_state pending (.cancelled reported)
  have cancelled := (cancelled_told state).1
  have terminal : isTerminal (record.conclude (.cancelled reported)).snapshot.status = true := by
    rw [show (record.conclude (.cancelled reported)).snapshot.status =
      (CreditState.cancelled reported).status from congrArg CreditState.status state]
    cases reported <;> rfl
  apply recoverable.processKnown_pending found pending
  unfold concludeRemote
  rw [if_neg (by
    show ¬row.providerUsageRecorded = true
    rw [unused]
    exact Bool.false_ne_true)]
  apply Executes.bind
  apply Executes.await
  rw [show (candidateOf row serviceUserId).operationId = row.id from rfl,
    show (candidateOf row serviceUserId).serviceUserId = serviceUserId from rfl, asked]
  apply Executes.bind
  apply validateIdentity_of_valid (recoverable.validIdentity found evolves)
  dsimp only
  rw [cancelled, if_neg (by decide)]
  refine Executes.pure ⟨_, rfl, terminal, ?_⟩
  have finishable : Finishable (concluded world row.id (.cancelled reported)).ledger row :=
    recoverable.finishable
  refine (finishable.abandons attends (find?_concluded found _) state ?_).mono ?_
  · rw [unused]
    exact fun impossible => absurd impossible Bool.false_ne_true
  · exact fun outcome left reached ended => ⟨ended.1, ended.2.of_concluded⟩

/-- An operation without a conflict is recovered. -/
theorem Recoverable.recovers (recoverable : Recoverable world row serviceUserId)
    (attends : Attends deployment responder)
    (peaceful : ¬Conflicted world (candidateOf row serviceUserId)) :
    Executes responder (process (candidateOf row serviceUserId) now) locals world
      fun outcome _ reached => outcome = .ok () ∧ Recovers row world reached := by
  cases found : world.credit.find? row.id with
  | none => exact recoverable.recovers_absent attends found
  | some record =>
      apply process_of_known attends found
      cases state : record.state with
      | pending =>
          cases recorded : row.providerUsageRecorded with
          | false => exact recoverable.processKnown_cancels attends found state recorded
          | true => exact recoverable.processKnown_settles attends found state recorded
      | succeeded promptTokens completionTokens charged =>
          have stands : ConclusionStands world.credit row.id
              (.succeeded promptTokens completionTokens charged) :=
            ⟨record, found, state, CreditState.noConfusion⟩
          obtain ⟨stored, storedFound, recorded, counted⟩ :=
            recoverable.agreed.settled _ _ _ _ stands
          obtain rfl := Option.some.inj (recoverable.awaits.found.symm.trans storedFound)
          obtain ⟨rfl, rfl⟩ := Prod.mk.inj counted
          have price := (recoverable.agreed.priced row.id record found).1
          rw [state] at price
          apply recoverable.processKnown_terminal found
            (by rw [state]; exact CreditState.noConfusion)
          exact recoverable.finishable.completes attends found state price recorded
      | cancelled reported =>
          apply recoverable.processKnown_terminal found
            (by rw [state]; exact CreditState.noConfusion)
          apply recoverable.finishable.abandons attends found state
          intro recorded
          by_contra used
          exact peaceful ⟨recorded, used, reported, record, found, state, CreditState.noConfusion⟩

/-- An operation with a conflict stays as it is. -/
theorem Recoverable.conflicts (recoverable : Recoverable world row serviceUserId)
    (attends : Attends deployment responder)
    (conflicted : Conflicted world (candidateOf row serviceUserId)) :
    Executes responder (process (candidateOf row serviceUserId) now) locals world
      fun outcome _ reached => reached = world ∧
        ∃ failure, outcome = .error failure ∧ failure.isRecoverable = true := by
  obtain ⟨recorded, used, reported, record, found, state, _⟩ := conflicted
  apply process_of_known attends found
  apply recoverable.processKnown_terminal found (by rw [state]; exact CreditState.noConfusion)
  exact recoverable.finishable.conflicts attends state recorded used

end Recoverable

/-! ## A pass -/

section Passes

variable {world : World} {now : Int} {locals : Locals} {responder : Responder backend World}

/-- What `run_once` does with a failure of one candidate. -/
def passOver (failure : Failure) : Action Unit :=
  if failure.isRecoverable then return () else throw failure

/-- One candidate of a pass: it is recovered, or left as it is. -/
theorem Recoverable.attempts {row : ApiCallOperation} {serviceUserId : String}
    (recoverable : Recoverable world row serviceUserId) (attends : Attends deployment responder) :
    Executes responder (tryCatch (process (candidateOf row serviceUserId) now) passOver) locals
      world fun outcome _ reached => outcome = .ok () ∧
        ((¬Conflicted world (candidateOf row serviceUserId) ∧ Recovers row world reached) ∨
          (Conflicted world (candidateOf row serviceUserId) ∧ reached = world)) := by
  apply Executes.tryCatch
  by_cases conflicted : Conflicted world (candidateOf row serviceUserId)
  · refine (recoverable.conflicts attends conflicted).mono ?_
    rintro outcome left reached ⟨same, failure, rfl, recoverable⟩
    dsimp only
    rw [passOver, if_pos recoverable]
    exact Executes.pure ⟨rfl, Or.inr ⟨conflicted, same⟩⟩
  · refine (recoverable.recovers attends conflicted).mono ?_
    rintro outcome left reached ⟨rfl, recovers⟩
    exact ⟨rfl, Or.inl ⟨conflicted, recovers⟩⟩

/-- The tokens that a candidate carries. -/
def usageTokens (candidate : RecoveryCandidate) : Int :=
  if candidate.providerUsageRecorded then candidate.promptTokens + candidate.completionTokens
  else 0

theorem usageTokens_candidateOf {ledger : Ledger} {row : ApiCallOperation} (kept : Kept ledger)
    (awaits : Awaits ledger row) (serviceUserId : String) :
    usageTokens (candidateOf row serviceUserId) = row.totalTokens := by
  unfold usageTokens
  cases recorded : row.providerUsageRecorded with
  | true =>
      rw [if_pos (show (candidateOf row serviceUserId).providerUsageRecorded = true from recorded)]
      exact (kept.counted row awaits.member recorded).2.2.1.symm
  | false =>
      rw [if_neg (by
        show ¬row.providerUsageRecorded = true
        rw [recorded]
        exact Bool.false_ne_true)]
      exact (kept.recorded row awaits.member recorded).symm

/-- Candidates that wait for their recovery, under identifiers of their own, with service
users that the credit service knows and tokens that every counter takes. -/
structure Ready (world : World) (candidates : List RecoveryCandidate) : Prop where
  distinct : (candidates.map RecoveryCandidate.operationId).Nodup
  awaits : ∀ candidate ∈ candidates, ∃ row serviceUserId,
    candidate = candidateOf row serviceUserId ∧ Awaits world.ledger row
  user : ∀ candidate ∈ candidates, ∀ record,
    world.credit.find? candidate.operationId = some record →
      record.serviceUserId = candidate.serviceUserId
  short : ∀ candidate ∈ candidates, candidate.operationId.toList.length ≤ 36
  take : ∀ counter ∈ world.ledger.quotas.rows,
    counter.tokenConsumed + (candidates.map usageTokens).sum ≤ Services.Quota.signedBigintMax

variable {candidate : RecoveryCandidate} {candidates : List RecoveryCandidate}

theorem tokens_nonneg {ledger : Ledger} (kept : Kept ledger)
    (awaits : ∀ candidate ∈ candidates, ∃ row serviceUserId,
      candidate = candidateOf row serviceUserId ∧ Awaits ledger row) :
    0 ≤ (candidates.map usageTokens).sum := by
  apply List.sum_nonneg
  intro tokens member
  obtain ⟨candidate, listed, rfl⟩ := List.mem_map.mp member
  obtain ⟨row, serviceUserId, rfl, waits⟩ := awaits candidate listed
  rw [usageTokens_candidateOf kept waits]
  exact totalTokens_nonneg kept waits

/-- The next candidate can be recovered. -/
theorem Ready.recoverable (ready : Ready world (candidate :: candidates)) (agreed : Agreed world)
    (named : EventsNamed recoveryRequestId world.ledger) : ∃ row serviceUserId,
    candidate = candidateOf row serviceUserId ∧ Recoverable world row serviceUserId := by
  obtain ⟨row, serviceUserId, rfl, awaits⟩ := ready.awaits candidate List.mem_cons_self
  refine ⟨row, serviceUserId, rfl, agreed, named, awaits, ready.user _ List.mem_cons_self,
    ready.short _ List.mem_cons_self, ?_⟩
  intro counter stored
  have fits := ready.take counter stored
  have rest : 0 ≤ (candidates.map usageTokens).sum := tokens_nonneg agreed.kept
    fun other member => ready.awaits other (List.mem_cons_of_mem _ member)
  rw [List.map_cons, List.sum_cons, usageTokens_candidateOf agreed.kept awaits] at fits
  omega

/-- An operation stands alike in two worlds. -/
structure SameOperation (operationId : String) (before after : World) : Prop where
  operation : after.ledger.operations.find? operationId =
    before.ledger.operations.find? operationId
  credit : after.credit.find? operationId = before.credit.find? operationId

variable {before after : World}

theorem SameOperation.recovered_iff {operationId : String}
    (same : SameOperation operationId before after) :
    Recovered operationId after ↔ Recovered operationId before := by
  unfold Recovered ConclusionStands
  rw [same.operation, same.credit]

theorem SameOperation.conflicted_iff (same : SameOperation candidate.operationId before after) :
    Conflicted after candidate ↔ Conflicted before candidate := by
  unfold Conflicted ConclusionStands
  rw [same.credit]

/-- The candidates left are ready after the first one. -/
theorem Ready.rest (ready : Ready world (candidate :: candidates)) {reached : World}
    (others : ∀ other ∈ candidates, SameOperation other.operationId world reached)
    (consumed : ∀ later ∈ reached.ledger.quotas.rows, ∃ counter ∈ world.ledger.quotas.rows,
      later.tokenConsumed ≤ counter.tokenConsumed + usageTokens candidate) :
    Ready reached candidates where
  distinct := (List.nodup_cons.mp ready.distinct).2
  awaits other member := by
    obtain ⟨row, serviceUserId, rfl, found, pending⟩ :=
      ready.awaits other (List.mem_cons_of_mem _ member)
    exact ⟨row, serviceUserId, rfl, (others _ member).operation.trans found, pending⟩
  user other member record found :=
    ready.user other (List.mem_cons_of_mem _ member) record
      ((others other member).credit.symm.trans found)
  short other member := ready.short other (List.mem_cons_of_mem _ member)
  take later member := by
    obtain ⟨counter, stored, grown⟩ := consumed later member
    have fits := ready.take counter stored
    rw [List.map_cons, List.sum_cons] at fits
    omega

/-- One candidate of a pass: it is recovered exactly unless it is in conflict, and all
others are left alone. -/
theorem Ready.attempts (ready : Ready world (candidate :: candidates)) (agreed : Agreed world)
    (named : EventsNamed recoveryRequestId world.ledger) (attends : Attends deployment responder) :
    Executes responder (tryCatch (process candidate now) passOver) locals world
      fun outcome _ reached => outcome = .ok () ∧
        (Recovered candidate.operationId reached ↔ ¬Conflicted world candidate) ∧
        (∀ operationId, operationId ≠ candidate.operationId →
          SameOperation operationId world reached) ∧ Ready reached candidates := by
  obtain ⟨row, serviceUserId, rfl, recoverable⟩ := ready.recoverable agreed named
  have apart : ∀ other ∈ candidates,
      other.operationId ≠ (candidateOf row serviceUserId).operationId := by
    intro other member same
    exact (List.nodup_cons.mp ready.distinct).1 (List.mem_map.mpr ⟨other, member, same⟩)
  refine (recoverable.attempts attends).mono ?_
  rintro outcome left reached ⟨rfl, ⟨peaceful, recovers⟩ | ⟨conflicted, rfl⟩⟩
  · have others : ∀ operationId, operationId ≠ row.id →
        SameOperation operationId world reached := fun operationId other =>
      ⟨recovers.ledger.operations operationId other, recovers.credit operationId other⟩
    refine ⟨rfl, iff_of_true recovers.recovered peaceful, others,
      ready.rest (fun other member => others _ (apart other member)) ?_⟩
    rw [usageTokens_candidateOf agreed.kept recoverable.awaits]
    exact recovers.ledger.consumed
  · refine ⟨rfl, iff_of_false ?_ (not_not_intro conflicted), fun _ _ => ⟨rfl, rfl⟩,
      ready.rest (fun _ _ => ⟨rfl, rfl⟩) ?_⟩
    · rintro ⟨stored, found, ended⟩
      cases recoverable.awaits.found.symm.trans found
      rcases ended with ⟨status, _⟩ | ⟨status, _⟩
      · cases recoverable.awaits.pending.symm.trans status
      · cases recoverable.awaits.pending.symm.trans status
    · rw [usageTokens_candidateOf agreed.kept recoverable.awaits]
      exact (Aside.refl agreed.kept recoverable.awaits).consumed

/-- The pass from the outcome of one candidate on. -/
def resumePass (now : Int) (candidates : List RecoveryCandidate)
    (rest : Except Failure Unit × Locals → Program backend Unit) :
    Except Failure Unit × Locals → Program backend Unit
  | (.ok (), left) => ((processAll now candidates).start left).bind rest
  | (.error failure, left) => rest (.error failure, left)

theorem processAll_code (candidate : RecoveryCandidate) (candidates : List RecoveryCandidate)
    (rest : Except Failure Unit × Locals → Program backend Unit) :
    ((processAll now (candidate :: candidates)).start locals).bind rest =
      ((tryCatch (process candidate now) passOver : Action Unit).start locals).bind
        (resumePass now candidates rest) := by
  refine (Program.bind_assoc _ _ _).trans (congrArg _ (funext ?_))
  rintro ⟨outcome, left⟩
  cases outcome <;> rfl

/-- The pass over ready candidates. Its induction is over the candidates; the agreement
of the stores comes from the run that the pass is part of. -/
theorem processAll_recovers {start : World} (agreed : Agreed start)
    (named : EventsNamed recoveryRequestId start.ledger) (attends : Attends deployment responder)
    (candidates : List RecoveryCandidate) {world : World} {processes : List ChatProcess}
    {orphans : List (Nat × Call)} {pid : Nat} {running : ChatProcess} {locals : Locals}
    {rest : Except Failure Unit × Locals → Program backend Unit}
    (runs : Runs processes pid running (((processAll now candidates).start locals).bind rest))
    (run : Reaches deployment.behaviour startsApart ⟨start, [], []⟩ ⟨world, processes, orphans⟩)
    (ready : Ready world candidates) :
    Executes responder (processAll now candidates) locals world fun outcome _ reached =>
      outcome = .ok () ∧
        (∀ operationId ∉ candidates.map RecoveryCandidate.operationId,
          SameOperation operationId world reached) ∧
        ∀ candidate ∈ candidates,
          (Recovered candidate.operationId reached ↔ ¬Conflicted world candidate) := by
  induction candidates generalizing world processes running locals with
  | nil =>
      exact Executes.pure ⟨rfl, fun _ _ => ⟨rfl, rfl⟩, fun _ member => (by cases member)⟩
  | cons candidate candidates inductionHypothesis =>
      have sound := (settlement_holds agreed run).sound
      have kept := (keptApart_of_reaches agreed named run).events
      obtain ⟨outcome, left, reached, ended, rfl, recovered, others, readyRest⟩ :=
        @Ready.attempts _ _ now locals _ _ _ ready sound kept attends
      obtain ⟨later, moved, laterRuns, laterRun⟩ := Reaches.executes attends.lawful
        (by rintro system pid happening role impossible; cases impossible) ended
        ⟨runs.found, runs.unsent, runs.code.trans (processAll_code candidate candidates rest)⟩ run
      refine Executes.bind ⟨_, left, reached, ended, ?_⟩
      refine (inductionHypothesis laterRuns laterRun readyRest).mono ?_
      rintro outcome left last ⟨rfl, apart, each⟩
      have distinct := (List.nodup_cons.mp ready.distinct).1
      refine ⟨rfl, ?_, ?_⟩
      · intro operationId absent
        rw [List.map_cons, List.mem_cons, not_or] at absent
        have early := others operationId absent.1
        have late := apart operationId absent.2
        exact ⟨late.operation.trans early.operation, late.credit.trans early.credit⟩
      · intro other member
        rcases List.mem_cons.mp member with rfl | listed
        · exact (apart _ distinct).recovered_iff.trans recovered
        · have same : other.operationId ≠ candidate.operationId := by
            intro equal
            exact distinct (equal ▸ List.mem_map_of_mem listed)
          exact (each other listed).trans (not_congr (others _ same).conflicted_iff)

/-- A loaded candidate is that of a stored pending operation. -/
theorem awaits_of_loaded {worker : ExternalChatRecoveryWorker} {callers : Callers}
    {ledger : Ledger} (member : candidate ∈ loadCandidates worker callers ledger now) :
    ∃ row serviceUserId, candidate = candidateOf row serviceUserId ∧ Awaits ledger row := by
  obtain ⟨row, taken, served⟩ := List.mem_filterMap.mp member
  obtain ⟨serviceUserId, _, rfl⟩ := Option.map_eq_some_iff.mp served
  have sorted := List.mem_of_mem_take taken
  rw [List.mem_mergeSort, List.mem_filter] at sorted
  refine ⟨row, serviceUserId, rfl, Table.find?_of_mem sorted.1, ?_⟩
  have stale := sorted.2
  simp only [isStale, Bool.and_eq_true, decide_eq_true_eq] at stale
  exact stale.1.1

/-- A pass takes every operation once. -/
theorem loaded_distinct (worker : ExternalChatRecoveryWorker) (callers : Callers)
    (ledger : Ledger) (now : Int) :
    ((loadCandidates worker callers ledger now).map RecoveryCandidate.operationId).Nodup := by
  have served (rows : List ApiCallOperation) :
      ((rows.filterMap fun operation => (serviceUserOf callers operation).map
        fun serviceUserId => candidateOf operation serviceUserId).map
          RecoveryCandidate.operationId).Sublist (rows.map ApiCallOperation.id) := by
    induction rows with
    | nil => exact List.Sublist.slnil
    | cons row rest inductionHypothesis =>
        cases found : serviceUserOf callers row with
        | none =>
            rw [List.filterMap_cons_none (by rw [found]; rfl)]
            exact inductionHypothesis.cons _
        | some serviceUserId =>
            rw [List.filterMap_cons_some (by rw [found]; rfl)]
            exact inductionHypothesis.cons_cons _
  refine List.Nodup.sublist (served _) (List.Nodup.sublist
    ((List.take_sublist _ _).map ApiCallOperation.id) ?_)
  rw [((List.mergeSort_perm _ olderFirst).map ApiCallOperation.id).nodup_iff]
  exact ledger.operations.unique.sublist (List.filter_sublist.map ApiCallOperation.id)

/-- A pass once its candidates are loaded. -/
def afterLoading (now : Int) :
    Except Failure (List RecoveryCandidate) × Locals → Program backend Unit
  | (.ok candidates, left) => ((processAll now candidates).start left).bind fun _ => .done ()
  | (.error _, _) => .done ()

theorem runOnce_code (later : 0 ≤ now) :
    ((runOnce now).start .initial).bind (fun _ => .done ()) =
      ((perform (.loadCandidates now) : Action (List RecoveryCandidate)).start .initial).bind
        (afterLoading now) := by
  unfold runOnce
  rw [if_neg (not_lt.mpr later)]
  refine (Program.bind_assoc _ _ _).trans (congrArg _ (funext ?_))
  rintro ⟨outcome, left⟩
  cases outcome with
  | error failure => rfl
  | ok candidates =>
      refine (Program.bind_assoc _ _ _).trans (congrArg _ (funext ?_))
      rintro ⟨outcome, left⟩
      cases outcome <;> rfl

end Passes

/-! ### A pass over one operation -/

theorem length_le_of_mem {texts : List String} {text : String} (member : text ∈ texts) :
    text.toList.length ≤ (texts.map fun text => text.toList.length).sum :=
  List.single_le_sum (by simp) _ (List.mem_map_of_mem member)

/-- There is always an identifier left to draw. -/
theorem exists_unused (ledger : Ledger) : ∃ ids : RowIds, ledger.events.find? ids.event = none := by
  obtain ⟨total, bounds⟩ : ∃ total, ∀ event ∈ ledger.events.rows, event.id.toList.length ≤ total :=
    ⟨_, fun event stored => length_le_of_mem (List.mem_map_of_mem stored)⟩
  refine ⟨⟨"", "", String.ofList (List.replicate (total + 1) 'e')⟩,
    (Table.find?_none_iff _ _).mpr ?_⟩
  intro event stored same
  have bounded := bounds event stored
  rw [same, String.toList_ofList, List.length_replicate] at bounded
  omega

/-- Every call has an answer without failure, or one that leaves the world alone. -/
theorem exists_prompt (deployment : Deployment) (call : Call) (world : World) :
    ∃ answered : Except Failure call.Answer × World,
      Prompt deployment world call answered.1 answered.2 := by
  obtain ⟨ids, unused⟩ := exists_unused world.ledger
  cases call with
  | loadCandidates now => exact ⟨(_, _), .committed ids unused rfl⟩
  | finalizeRecovered operationId usage fields =>
      cases result : recoveryTransaction world.ledger ids operationId usage fields with
      | ok after => exact ⟨(_, _), .committed ids unused (congrArg some result)⟩
      | error error => exact ⟨(_, _), .refused ids unused (congrArg some result)⟩
  | creditStatus operationId serviceUserId =>
      cases found : world.credit.find? operationId with
      | some record => exact ⟨(_, _), .known found⟩
      | none =>
          let unknown : UpstreamError := ⟨notFoundCode, 404, false⟩
          exact ⟨(.error (.openWebUI unknown), world), .unknown found rfl⟩
  | settleCredit operationId serviceUserId promptTokens completionTokens =>
      have charged : (0 : Int) ≤ 0 ∧ (0 : Int) ≤ Integrations.OpenWebUI.signedBigintMax := by
        decide
      cases found : world.credit.find? operationId with
      | some record =>
          exact ⟨(_, _), .settled charged (.concluded found) fun _ impossible => by
            cases impossible⟩
      | none =>
          have unknown : CreditLedger.Conclude world.credit operationId
              (.succeeded promptTokens completionTokens 0)
              (.error ⟨notFoundCode, 404, false⟩) world.credit := .unknown found rfl
          exact ⟨(_, _), .settled charged unknown fun _ _ => found⟩
  | cancelCredit operationId serviceUserId =>
      cases found : world.credit.find? operationId with
      | some record =>
          have concluded : CreditLedger.Conclude world.credit operationId
              (.cancelled .cancelledCharged) _ _ := .concluded found
          exact ⟨(_, _), .cancelled concluded fun _ impossible => by cases impossible⟩
      | none =>
          have unknown : CreditLedger.Conclude world.credit operationId
              (.cancelled .cancelledCharged) (.error ⟨notFoundCode, 404, false⟩) world.credit :=
            .unknown found rfl
          exact ⟨(_, _), .cancelled unknown fun _ _ => found⟩
  | queueSleep seconds => exact ⟨(_, _), .idle rfl (.passive rfl ())⟩
  | loadPolicy caller now => exact ⟨(_, _), .idle rfl (.policyFailure caller now)⟩
  | reserveCredit operationId serviceUserId modelId provider =>
      exact ⟨(_, _), .idle rfl (.creditFailure rfl (Or.inl rfl))⟩
  | reserveQuota | recordCredit | recordUsage | touchOperation | terminalize =>
      exact ⟨(_, _), .idle rfl (.unreachable ids rfl)⟩
  | _ => exact ⟨(.error .unexpected, world), .idle rfl (.passiveFailure rfl rfl)⟩

theorem exists_attending (deployment : Deployment) :
    ∃ responder : Responder backend World, Attends deployment responder := by
  choose answer prompt using exists_prompt deployment
  exact ⟨⟨fun _ world => (0, world), answer⟩, fun _ _ => rfl, prompt⟩

/-- The sample deployment with a worker that takes operations one by one. -/
def recoveringDeployment : Deployment := { sampleDeployment with worker := singly.worker }

/-- A world with one stale operation. -/
def staleWorld : World := ⟨singly.callers, run Ledger.empty sampleReserved, .empty⟩

theorem staleWorld_agreed : Agreed staleWorld := by
  have reserved : LedgerCall.transact Ledger.empty
      (.reserve Services.Quota.sampleCallers (sampleReservation "first" "request-number-one")) =
        .ok (run Ledger.empty sampleReserved) := by rfl
  have warrants : Warrants (Table.empty : CreditLedger) (.reserve Services.Quota.sampleCallers
      (sampleReservation "first" "request-number-one")) := True.intro
  exact (agreed_empty singly.callers).transact warrants reserved

theorem staleWorld_loaded :
    loadCandidates recoveringDeployment.worker staleWorld.callers staleWorld.ledger 90000 =
      [candidateOf staleOperation "user"] := by
  have stale := staleOperation_isStale []
  have waits : staleWorld.ledger.operations.rows.filter
      (isStale recoveringDeployment.worker staleWorld.callers 90000) = [staleOperation] := by
    rw [show staleWorld.ledger.operations.rows = [staleOperation] from staleOperation_stored]
    exact List.filter_cons_of_pos stale
  have served : serviceUserOf staleWorld.callers staleOperation = some "user" := by decide
  unfold loadCandidates
  rw [waits, List.mergeSort_singleton]
  show List.filterMap _ [staleOperation] = _
  rw [List.filterMap_cons_some (by rw [served]; rfl)]
  rfl

end Zangpu.Workers.Recovery
