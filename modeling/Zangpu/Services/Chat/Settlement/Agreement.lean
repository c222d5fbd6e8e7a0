import Zangpu.Services.Chat.Reservations
import Zangpu.Services.Chat.Settlement.Passes
import Zangpu.Services.Quota.Evolution

/-!
The quota ledger and the credit service agree.

Owns: what of an operation lasts in both, once it is so; the agreement of the two, in
which every settled operation is settled for the recorded usage, every completed row is
settled, and every terminal event has the charge of the credit service; and what a
call must rest on when it is sent so that its effect keeps the agreement.

Does not own: that the calls of the programs rest on it.
-/

set_option autoImplicit false

namespace Zangpu.Services.Chat

open Zangpu.Foundation
open Zangpu.Api
open Zangpu.Models
open Zangpu.Integrations.OpenWebUI
open Zangpu.Services.Quota
open Zangpu.Workers.Recovery

/-! ## Growth -/

/-- Credit operations stay, and a concluded one is final. -/
def CreditEvolves (before after : CreditLedger) : Prop :=
  ∀ operationId record, before.find? operationId = some record →
    ∃ later, after.find? operationId = some later ∧ record.Evolves later

theorem CreditEvolves.refl (ledger : CreditLedger) : CreditEvolves ledger ledger :=
  fun _ record found => ⟨record, found, .refl record⟩

theorem CreditEvolves.insertNew (ledger : CreditLedger) (record : CreditOperation) :
    CreditEvolves ledger (ledger.insertNew record) :=
  fun _ stored found => ⟨stored, Table.find?_insertNew_of_some found, .refl stored⟩

theorem CreditEvolves.conclude (ledger : CreditLedger) (operationId : String) {state : CreditState}
    (terminal : state ≠ .pending) :
    CreditEvolves ledger (ledger.modify operationId (CreditOperation.conclude state)
      (CreditOperation.conclude_operationId state)) := by
  intro other record found
  have changed := Table.find?_modify (CreditOperation.conclude_operationId state) ledger
    operationId other
  rw [found] at changed
  split at changed
  · exact ⟨_, changed, CreditOperation.conclude_evolves terminal record⟩
  · exact ⟨record, changed, .refl record⟩

/-- Both stores only grow. -/
structure Grows (before after : World) : Prop where
  ledger : LedgerEvolves before.ledger after.ledger
  credit : CreditEvolves before.credit after.credit

theorem Grows.refl (world : World) : Grows world world := ⟨.refl _, .refl _⟩

/-! ## Facts that last -/

/-- The usage of an operation is recorded. -/
def UsageStands (ledger : Ledger) (operationId : String) (tokens : Int × Int) : Prop :=
  ∃ row, ledger.operations.find? operationId = some row ∧ row.providerUsageRecorded = true ∧
    (row.promptTokens, row.completionTokens) = tokens

/-- The operation is the row of a client for a request identifier and a model. -/
def RequestStands (ledger : Ledger) (operationId apiClientId clientRequestId modelId : String) :
    Prop :=
  ∃ row, ledger.operations.find? operationId = some row ∧
    row.apiClientId = apiClientId ∧ row.clientRequestId = clientRequestId ∧ row.modelId = modelId

/-- The operation is a row for the model. -/
def ModelStands (ledger : Ledger) (operationId modelId : String) : Prop :=
  ∃ row, ledger.operations.find? operationId = some row ∧ row.modelId = modelId

/-- The credit reservation of an operation is recorded. -/
def CreditStands (ledger : Ledger) (operationId : String) : Prop :=
  ∃ row settlementId, ledger.operations.find? operationId = some row ∧
    row.creditSettlementId = some settlementId

/-- The record of an operation is completed. -/
def CompletedStands (ledger : Ledger) (operationId : String) : Prop :=
  ∃ row, ledger.operations.find? operationId = some row ∧ row.status = .completed

/-- The credit service holds the operation. -/
def HoldingStands (credit : CreditLedger) (operationId : String) : Prop :=
  ∃ record, credit.find? operationId = some record

/-- The credit service holds the operation under a settlement. -/
def SettlementStands (credit : CreditLedger) (operationId settlementId : String) : Prop :=
  ∃ record, credit.find? operationId = some record ∧ record.settlementId = settlementId

/-- The credit service has concluded the operation. -/
def ConclusionStands (credit : CreditLedger) (operationId : String) (state : CreditState) : Prop :=
  ∃ record, credit.find? operationId = some record ∧ record.state = state ∧ state ≠ .pending

/-- A record that the credit service told is its own, and stays so once concluded. -/
def TellingStands (credit : CreditLedger) (remote : CreditOperationSnapshot) : Prop :=
  ∃ record, credit.find? remote.operationId = some record ∧
    (remote.status ≠ .pending → record.state ≠ .pending ∧ record.snapshot = remote)

section Lasting

variable {before after : Ledger} {earlier later : CreditLedger} {operationId : String}

theorem UsageStands.lasts {tokens : Int × Int} (stands : UsageStands before operationId tokens)
    (evolves : LedgerEvolves before after) : UsageStands after operationId tokens := by
  obtain ⟨row, found, recorded, counted⟩ := stands
  obtain ⟨left, stays, change⟩ := evolves operationId row found
  obtain ⟨still, prompt, completion⟩ := change.usage recorded
  exact ⟨left, stays, still, by rw [prompt, completion, counted]⟩

theorem RequestStands.lasts {apiClientId clientRequestId modelId : String}
    (stands : RequestStands before operationId apiClientId clientRequestId modelId)
    (evolves : LedgerEvolves before after) :
    RequestStands after operationId apiClientId clientRequestId modelId := by
  obtain ⟨row, found, client, request, model⟩ := stands
  obtain ⟨left, stays, change⟩ := evolves _ row found
  exact ⟨left, stays, change.client.trans client, change.request.trans request,
    change.model.trans model⟩

theorem ModelStands.lasts {modelId : String} (stands : ModelStands before operationId modelId)
    (evolves : LedgerEvolves before after) : ModelStands after operationId modelId := by
  obtain ⟨row, found, model⟩ := stands
  obtain ⟨left, stays, change⟩ := evolves _ row found
  exact ⟨left, stays, change.model.trans model⟩

theorem CreditStands.lasts (stands : CreditStands before operationId)
    (evolves : LedgerEvolves before after) : CreditStands after operationId := by
  obtain ⟨row, settlementId, found, written⟩ := stands
  obtain ⟨left, stays, change⟩ := evolves _ row found
  exact ⟨left, settlementId, stays, change.credit settlementId written⟩

theorem CompletedStands.lasts (stands : CompletedStands before operationId)
    (evolves : LedgerEvolves before after) : CompletedStands after operationId := by
  obtain ⟨row, found, completed⟩ := stands
  obtain ⟨left, stays, change⟩ := evolves _ row found
  obtain rfl := change.terminal (by rw [completed]; decide)
  exact ⟨_, stays, completed⟩

theorem HoldingStands.lasts (stands : HoldingStands earlier operationId)
    (evolves : CreditEvolves earlier later) : HoldingStands later operationId := by
  obtain ⟨record, found⟩ := stands
  obtain ⟨left, stays, _⟩ := evolves _ record found
  exact ⟨left, stays⟩

theorem SettlementStands.holding {credit : CreditLedger} {settlementId : String}
    (stands : SettlementStands credit operationId settlementId) :
    HoldingStands credit operationId := by
  obtain ⟨record, found, _⟩ := stands
  exact ⟨record, found⟩

theorem SettlementStands.lasts {settlementId : String}
    (stands : SettlementStands earlier operationId settlementId)
    (evolves : CreditEvolves earlier later) :
    SettlementStands later operationId settlementId := by
  obtain ⟨record, found, same⟩ := stands
  obtain ⟨left, stays, change⟩ := evolves _ record found
  exact ⟨left, stays, change.settlementId_eq.trans same⟩

theorem ConclusionStands.lasts {state : CreditState}
    (stands : ConclusionStands earlier operationId state) (evolves : CreditEvolves earlier later) :
    ConclusionStands later operationId state := by
  obtain ⟨record, found, same, terminal⟩ := stands
  obtain ⟨left, stays, change⟩ := evolves _ record found
  obtain rfl := change.of_terminal (same ▸ terminal)
  exact ⟨_, stays, same, terminal⟩

theorem TellingStands.lasts {remote : CreditOperationSnapshot}
    (stands : TellingStands earlier remote) (evolves : CreditEvolves earlier later) :
    TellingStands later remote := by
  obtain ⟨record, found, told⟩ := stands
  obtain ⟨left, stays, change⟩ := evolves _ record found
  refine ⟨left, stays, ?_⟩
  intro concluded
  obtain ⟨terminal, same⟩ := told concluded
  obtain rfl := change.of_terminal terminal
  exact ⟨terminal, same⟩

end Lasting

/-- Two usages of one operation are one. -/
theorem UsageStands.unique {ledger : Ledger} {operationId : String} {left right : Int × Int}
    (first : UsageStands ledger operationId left) (second : UsageStands ledger operationId right) :
    left = right := by
  obtain ⟨row, found, _, counted⟩ := first
  obtain ⟨other, otherFound, _, otherCounted⟩ := second
  cases found.symm.trans otherFound
  exact counted.symm.trans otherCounted

/-- Two conclusions of one operation are one. -/
theorem ConclusionStands.unique {credit : CreditLedger} {operationId : String}
    {left right : CreditState} (first : ConclusionStands credit operationId left)
    (second : ConclusionStands credit operationId right) : left = right := by
  obtain ⟨record, found, same, _⟩ := first
  obtain ⟨other, otherFound, otherSame, _⟩ := second
  cases found.symm.trans otherFound
  exact same.symm.trans otherSame

/-! ## Agreement -/

/-- The codes of the terminal records that name no credit operation. -/
def creditlessCodes : List String :=
  [ErrorCode.creditBalanceExhausted.text, ErrorCode.creditAccountFrozen.text,
    "RECOVERED_NO_CREDIT"]

/-- A record has the charge of the credit service, and is completed only where that
service charged; a record without credit has no charge. -/
def Warranted (credit : CreditLedger) (operationId : String) (fields : TerminalFields) : Prop :=
  (∃ state, ConclusionStands credit operationId state ∧ state.chargedMicro = fields.chargedMicro ∧
      (fields.status = .completed → ∃ promptTokens completionTokens charged,
        state = .succeeded promptTokens completionTokens charged)) ∨
    (fields.chargedMicro = 0 ∧ fields.status ≠ .completed ∧ fields.businessCode ∈ creditlessCodes)

/-- The charge of a credit operation fits. -/
def Priced (record : CreditOperation) : Prop :=
  0 ≤ record.state.chargedMicro ∧
    record.state.chargedMicro ≤ Integrations.OpenWebUI.signedBigintMax

/-- The agreement of the ledger with the credit service. -/
structure Agreed (world : World) : Prop where
  kept : Kept world.ledger
  settled : ∀ operationId promptTokens completionTokens charged,
    ConclusionStands world.credit operationId (.succeeded promptTokens completionTokens charged) →
      UsageStands world.ledger operationId (promptTokens, completionTokens)
  completed : ∀ row ∈ world.ledger.operations.rows, row.status = .completed → ∃ charged,
    ConclusionStands world.credit row.id
      (.succeeded row.promptTokens row.completionTokens charged)
  charged : ∀ event ∈ world.ledger.events.rows, ∀ operationId,
    event.operationId = some operationId →
      (∃ state, ConclusionStands world.credit operationId state ∧
        state.chargedMicro = event.chargedMicro) ∨
      (event.chargedMicro = 0 ∧ event.businessCode ∈ creditlessCodes)
  credited : ∀ row ∈ world.ledger.operations.rows, ∀ settlementId,
    row.creditSettlementId = some settlementId →
      SettlementStands world.credit row.id settlementId
  named : ∀ row ∈ world.ledger.operations.rows, ∀ usageOperationId,
    row.usageOperationId = some usageOperationId →
      usageOperationId = usageOperationIdOf row.id
  metered : ∀ row ∈ world.ledger.operations.rows, row.providerUsageRecorded = true →
    HoldingStands world.credit row.id
  identified : ∀ operationId record, world.credit.find? operationId = some record →
    record.provider = some "bifrost" ∧ ModelStands world.ledger operationId record.modelId
  priced : ∀ operationId record, world.credit.find? operationId = some record → Priced record

theorem Agreed.conserved {world : World} (agreed : Agreed world) : Conserved world.ledger :=
  agreed.kept.settleable.conserved

/-- Empty stores agree. -/
theorem agreed_empty (callers : Callers) : Agreed ⟨callers, .empty, .empty⟩ where
  kept := kept_empty
  settled := by
    rintro operationId promptTokens completionTokens charged ⟨record, found, _⟩
    cases found
  completed := by intro row member; cases member
  charged := by intro event member; cases member
  credited := by intro row member; cases member
  named := by intro row member; cases member
  metered := by intro row member; cases member
  identified := by intro operationId record found; cases found
  priced := by intro operationId record found; cases found

/-- What a ledger call must rest on in the credit service. -/
def Warrants (credit : CreditLedger) : LedgerCall → Prop
  | .recordCredit operationId settlementId usageOperationId _ =>
      SettlementStands credit operationId settlementId ∧
        usageOperationId = usageOperationIdOf operationId
  | .recordUsage operationId _ _ _ => HoldingStands credit operationId
  | .finalize operationId _ terminal => Warranted credit operationId terminal.toTerminalFields
  | _ => True

/-- A completed record finds the usage recorded that it is settled for. -/
theorem Agreed.completes {world : World} (agreed : Agreed world) {row : ApiCallOperation}
    (awaits : Awaits world.ledger row) {fields : TerminalFields}
    (warranted : Warranted world.credit row.id fields) (completed : fields.status = .completed) :
    ∃ charged, ConclusionStands world.credit row.id
      (.succeeded row.promptTokens row.completionTokens charged) := by
  rcases warranted with ⟨state, stands, _, succeeded⟩ | ⟨_, other, _⟩
  · obtain ⟨promptTokens, completionTokens, charged, rfl⟩ := succeeded completed
    obtain ⟨stored, found, _, counted⟩ := agreed.settled _ _ _ _ stands
    cases awaits.found.symm.trans found
    cases counted
    exact ⟨charged, stands⟩
  · exact absurd completed other

/-- A warranted ledger call keeps the agreement. -/
theorem Agreed.transact {world : World} (agreed : Agreed world) {call : LedgerCall}
    (warrants : Warrants world.credit call) {after : Ledger}
    (committed : call.transact world.ledger = .ok after) :
    Agreed { world with ledger := after } where
  kept := agreed.kept.transact committed
  settled operationId promptTokens completionTokens charged stands :=
    (agreed.settled _ _ _ _ stands).lasts (LedgerEvolves.transact committed)
  completed := by
    intro row member completed
    cases origin_of_transact committed member with
    | kept old => exact agreed.completed row old completed
    | finalized awaits eventId terminal =>
        have status : terminal.status = .completed := by
          change terminal.status.toStatus = .completed at completed
          cases ended : terminal.status with
          | completed => rfl
          | rejected | abandoned =>
              rw [ended] at completed
              cases completed
        have charged := agreed.completes awaits warrants status
        exact charged
    | reserved => cases completed
    | credited awaits | used awaits | touched awaits =>
        have pending := awaits.pending.symm.trans completed
        cases pending
  charged := by
    intro event member operationId named
    rcases event_of_transact committed member with
      old | ⟨finalized, eventId, terminal, rfl, own, charged, code⟩
    · exact agreed.charged event old operationId named
    · cases named.symm.trans own
      rw [charged, code]
      rcases warrants with ⟨state, stands, same, _⟩ | ⟨free, _, creditless⟩
      · exact Or.inl ⟨state, stands, same⟩
      · exact Or.inr ⟨free, creditless⟩
  credited := by
    intro row member settlementId written
    cases origin_of_transact committed member with
    | kept old => exact agreed.credited row old settlementId written
    | reserved => cases written
    | credited =>
        cases written
        exact warrants.1
    | used awaits | touched awaits | finalized awaits =>
        have stands := agreed.credited _ awaits.member settlementId written
        exact stands
  named := by
    intro row member usageOperationId written
    cases origin_of_transact committed member with
    | kept old => exact agreed.named row old usageOperationId written
    | reserved => cases written
    | credited =>
        cases written
        exact warrants.2
    | used awaits | touched awaits | finalized awaits =>
        have same := agreed.named _ awaits.member usageOperationId written
        exact same
  metered := by
    intro row member recorded
    cases origin_of_transact committed member with
    | kept old => exact agreed.metered row old recorded
    | reserved => cases recorded
    | used => exact warrants
    | credited awaits | touched awaits | finalized awaits =>
        have stands := agreed.metered _ awaits.member recorded
        exact stands
  identified operationId record found := by
    obtain ⟨provider, model⟩ := agreed.identified operationId record found
    exact ⟨provider, model.lasts (LedgerEvolves.transact committed)⟩
  priced := agreed.priced

/-- A change of the credit service on grounds in the ledger. -/
structure Accords (world : World) (credit : CreditLedger) : Prop where
  evolves : CreditEvolves world.credit credit
  settled : ∀ operationId promptTokens completionTokens charged,
    ConclusionStands credit operationId (.succeeded promptTokens completionTokens charged) →
      ConclusionStands world.credit operationId
          (.succeeded promptTokens completionTokens charged) ∨
        UsageStands world.ledger operationId (promptTokens, completionTokens)
  identified : ∀ operationId record, credit.find? operationId = some record →
    record.provider = some "bifrost" ∧ ModelStands world.ledger operationId record.modelId
  priced : ∀ operationId record, credit.find? operationId = some record → Priced record

/-- Such a change keeps the agreement. -/
theorem Agreed.evolve {world : World} (agreed : Agreed world) {credit : CreditLedger}
    (accords : Accords world credit) : Agreed { world with credit := credit } where
  kept := agreed.kept
  settled operationId promptTokens completionTokens charged stands :=
    (accords.settled _ _ _ _ stands).elim (agreed.settled _ _ _ _) id
  completed row member completed := by
    obtain ⟨charged, stands⟩ := agreed.completed row member completed
    exact ⟨charged, stands.lasts accords.evolves⟩
  charged event member operationId named := by
    rcases agreed.charged event member operationId named with ⟨state, stands, same⟩ | free
    · exact Or.inl ⟨state, stands.lasts accords.evolves, same⟩
    · exact Or.inr free
  credited row member settlementId written :=
    (agreed.credited row member settlementId written).lasts accords.evolves
  named := agreed.named
  metered row member recorded := (agreed.metered row member recorded).lasts accords.evolves
  identified := accords.identified
  priced := accords.priced

/-! ## Transactions -/

/-- The ledger calls that the transaction of a call makes. -/
def Call.Makes : Call → LedgerCall → Prop
  | reserveQuota arguments, made => ∃ callers dailyRow lifetimeRow,
      made = .reserve callers (arguments.request dailyRow lifetimeRow)
  | recordCredit operationId settlementId usageOperationId now, made =>
      made = .recordCredit operationId settlementId usageOperationId now
  | recordUsage operationId promptTokens completionTokens now, made =>
      made = .recordUsage operationId promptTokens completionTokens now
  | touchOperation operationId now, made => made = .touch operationId now
  | terminalize operationId fields, made => ∃ eventId terminal,
      made = .finalize operationId eventId terminal ∧ terminal.toTerminalFields = fields
  | finalizeRecovered operationId usage fields, made =>
      (∃ tokens ∈ usage, made = .recordUsage operationId tokens.1 tokens.2 fields.completedAt) ∨
        ∃ eventId terminal,
          made = .finalize operationId eventId terminal ∧ terminal.toTerminalFields = fields
  | _, _ => False

theorem toTerminalFields_of_create {fields : TerminalFields} {terminal : OperationTerminal}
    (created : OperationTerminal.create fields = .ok terminal) :
    terminal.toTerminalFields = fields := by
  unfold OperationTerminal.create at created
  split at created
  · cases created
    rfl
  · cases created

section Transactions

variable {deployment : Deployment}

/-- A terminal transaction is one finalization by a record with its fields. -/
theorem finalize_of_terminalTransaction {ledger after : Ledger} {ids : RowIds}
    {operationId : String} {fields : TerminalFields}
    (committed : terminalTransaction ledger ids operationId fields = .ok ((), after)) :
    ∃ terminal : OperationTerminal, terminal.toTerminalFields = fields ∧
      (LedgerCall.finalize operationId ids.event terminal).transact ledger = .ok after := by
  simp only [terminalTransaction, bind_ok_iff] at committed
  obtain ⟨terminal, created, ⟨snapshot, left⟩, finalized, returned⟩ := committed
  cases returned
  exact ⟨terminal, toTerminalFields_of_create created, congrArg (Prod.snd <$> ·) finalized⟩

/-- What the ledger calls of a call keep, its transaction keeps. -/
theorem transact_keeps {holds : Ledger → Prop} {call : Call}
    (step : ∀ {ledger after : Ledger} {made : LedgerCall}, call.Makes made → holds ledger →
      made.transact ledger = .ok after → holds after)
    {ids : RowIds} {world : World} {answer : call.Answer} {after : Ledger}
    (result : call.transact deployment ids world = some (.ok (answer, after)))
    (starts : holds world.ledger) : holds after := by
  cases call with
  | reserveQuota arguments =>
      obtain ⟨reserved, committed, same⟩ := map_ok_iff.mp (Option.some.inj result)
      cases same
      exact step ⟨_, _, _, rfl⟩ starts (transact_of_reserved committed)
  | recordCredit operationId settlementId usageOperationId now =>
      obtain ⟨recorded, committed, same⟩ := map_ok_iff.mp (Option.some.inj result)
      cases same
      exact step rfl starts committed
  | recordUsage operationId promptTokens completionTokens now =>
      obtain ⟨recorded, committed, same⟩ := map_ok_iff.mp (Option.some.inj result)
      cases same
      exact step rfl starts committed
  | touchOperation operationId now =>
      have touched : (LedgerCall.touch operationId now).transact world.ledger = .ok after :=
        congrArg (Prod.snd <$> ·) (Option.some.inj result)
      exact step rfl starts touched
  | terminalize operationId fields =>
      obtain ⟨terminal, same, committed⟩ :=
        finalize_of_terminalTransaction (Option.some.inj result)
      exact step ⟨_, terminal, rfl, same⟩ starts committed
  | finalizeRecovered operationId usage fields =>
      have committed := Option.some.inj result
      unfold recoveryTransaction at committed
      cases usage with
      | none =>
          obtain ⟨terminal, same, finalized⟩ := finalize_of_terminalTransaction committed
          exact step (Or.inr ⟨_, terminal, rfl, same⟩) starts finalized
      | some counted =>
          obtain ⟨recorded, usageRecorded, rest⟩ := (bind_ok_iff _ _ _).mp committed
          obtain ⟨terminal, same, finalized⟩ := finalize_of_terminalTransaction rest
          have between : holds recorded := @step _ _ (.recordUsage operationId counted.1 counted.2
            fields.completedAt) (Or.inl ⟨counted, rfl, rfl⟩) starts usageRecorded
          exact step (Or.inr ⟨_, terminal, rfl, same⟩) between finalized
  | loadCandidates now =>
      cases result
      exact starts
  | _ => cases result

theorem evolves_of_transact {ids : RowIds} {world : World} {call : Call} {answer : call.Answer}
    {after : Ledger} (result : call.transact deployment ids world = some (.ok (answer, after))) :
    LedgerEvolves world.ledger after :=
  transact_relates LedgerEvolves.refl LedgerEvolves.trans LedgerEvolves.transact result

end Transactions

/-! ## Licences -/

/-- What a call must rest on when it is sent. -/
def Call.Grounded : Call → World → Prop
  | reserveCredit operationId _ modelId provider, world =>
      ModelStands world.ledger operationId modelId ∧ provider = some "bifrost"
  | recordCredit operationId settlementId usageOperationId _, world =>
      SettlementStands world.credit operationId settlementId ∧
        usageOperationId = usageOperationIdOf operationId
  | recordUsage operationId _ _ _, world => HoldingStands world.credit operationId
  | settleCredit operationId _ promptTokens completionTokens, world =>
      UsageStands world.ledger operationId (promptTokens, completionTokens)
  | terminalize operationId fields, world => Warranted world.credit operationId fields
  | finalizeRecovered operationId usage fields, world =>
      Warranted world.credit operationId fields ∧
        (usage ≠ none → HoldingStands world.credit operationId)
  | _, _ => True

theorem Warranted.lasts {before after : CreditLedger} {operationId : String}
    {fields : TerminalFields} (warranted : Warranted before operationId fields)
    (evolves : CreditEvolves before after) : Warranted after operationId fields := by
  rcases warranted with ⟨state, stands, charged, succeeded⟩ | free
  · exact Or.inl ⟨state, stands.lasts evolves, charged, succeeded⟩
  · exact Or.inr free

theorem grounded_stable (call : Call) (before after : World) (grows : Grows before after)
    (grounded : call.Grounded before) : call.Grounded after := by
  cases call with
  | reserveCredit => exact ⟨grounded.1.lasts grows.ledger, grounded.2⟩
  | recordCredit => exact ⟨grounded.1.lasts grows.credit, grounded.2⟩
  | recordUsage => exact HoldingStands.lasts grounded grows.credit
  | settleCredit => exact UsageStands.lasts grounded grows.ledger
  | terminalize => exact Warranted.lasts grounded grows.credit
  | finalizeRecovered =>
      exact ⟨grounded.1.lasts grows.credit, fun used => (grounded.2 used).lasts grows.credit⟩
  | _ => trivial

/-- The ledger calls of a grounded call are warranted. -/
theorem warrants_of_makes {call : Call} {made : LedgerCall} {world : World}
    (grounded : call.Grounded world) (makes : call.Makes made) : Warrants world.credit made := by
  cases call with
  | reserveQuota =>
      obtain ⟨_, _, _, rfl⟩ := makes
      trivial
  | recordCredit | recordUsage | touchOperation =>
      cases makes
      exact grounded
  | terminalize =>
      obtain ⟨_, terminal, rfl, rfl⟩ := makes
      exact grounded
  | finalizeRecovered =>
      rcases makes with ⟨tokens, used, rfl⟩ | ⟨_, terminal, rfl, rfl⟩
      · exact grounded.2 (by rw [used]; simp)
      · exact grounded.1
  | _ => cases makes

end Zangpu.Services.Chat
