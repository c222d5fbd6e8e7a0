import Zangpu.Services.Chat.Settlement.Agreement

/-!
What processes know of the ledger and the credit service.

Owns: what a live request and a recovery pass know once they were told; what every
answer tells; the contract made of both, in which every call rests on what its sender
knows; and that it holds in every state of every run.

Does not own: what an observer of single calls and frames concludes from it.
-/

set_option autoImplicit false

namespace Zangpu.Services.Chat

open Zangpu.Foundation
open Zangpu.Api
open Zangpu.Models
open Zangpu.Integrations.OpenWebUI
open Zangpu.Services.Quota
open Zangpu.Services.Streaming
open Zangpu.Workers.Recovery

variable {deployment : Deployment}

/-! ## Knowledge -/

/-- What a live request was told stands. -/
structure Account.Knows (account : Account) (world : World) : Prop where
  reserved : account.reserved = true → RequestStands world.ledger account.chat.operationId
    account.chat.caller.apiClientId account.chat.caller.requestId account.chat.request.model
  settlement : ∀ settlementId, account.settlementId = some settlementId →
    SettlementStands world.credit account.chat.operationId settlementId
  opened : account.opened = true → CreditStands world.ledger account.chat.operationId
  recorded : ∀ tokens, account.recorded = some tokens →
    UsageStands world.ledger account.chat.operationId tokens
  charged : ∀ charged, account.charged = some charged → ∃ promptTokens completionTokens,
    ConclusionStands world.credit account.chat.operationId
      (.succeeded promptTokens completionTokens charged)
  cancelled : account.cancelled = true → ∃ reported,
    ConclusionStands world.credit account.chat.operationId (.cancelled reported)
  completed : account.completed = true → CompletedStands world.ledger account.chat.operationId

/-- What a recovery pass was told stands. -/
structure Inquiry.Knows (inquiry : Inquiry) (world : World) : Prop where
  candidates : ∀ candidate ∈ inquiry.candidates, candidate.providerUsageRecorded = true →
    UsageStands world.ledger candidate.operationId
      (candidate.promptTokens, candidate.completionTokens)
  told : ∀ remote ∈ inquiry.told, TellingStands world.credit remote

def Standing.Knows : Standing → World → Prop
  | live account, world => account.Knows world
  | recovery inquiry, world => inquiry.Knows world

theorem Account.Knows.lasts {account : Account} {before after : World}
    (knows : account.Knows before) (grows : Grows before after) : account.Knows after where
  reserved reserved := (knows.reserved reserved).lasts grows.ledger
  settlement settlementId written := (knows.settlement settlementId written).lasts grows.credit
  opened opened := (knows.opened opened).lasts grows.ledger
  recorded tokens recorded := (knows.recorded tokens recorded).lasts grows.ledger
  charged charged confirmed := by
    obtain ⟨promptTokens, completionTokens, stands⟩ := knows.charged charged confirmed
    exact ⟨promptTokens, completionTokens, stands.lasts grows.credit⟩
  cancelled cancelled := by
    obtain ⟨reported, stands⟩ := knows.cancelled cancelled
    exact ⟨reported, stands.lasts grows.credit⟩
  completed completed := (knows.completed completed).lasts grows.ledger

theorem Inquiry.Knows.lasts {inquiry : Inquiry} {before after : World}
    (knows : inquiry.Knows before) (grows : Grows before after) : inquiry.Knows after where
  candidates candidate member recorded :=
    (knows.candidates candidate member recorded).lasts grows.ledger
  told remote member := (knows.told remote member).lasts grows.credit

theorem standing_stable (standing : Standing) (before after : World) (grows : Grows before after)
    (knows : standing.Knows before) : standing.Knows after := by
  cases standing with
  | live account => exact Account.Knows.lasts knows grows
  | recovery inquiry => exact Inquiry.Knows.lasts knows grows

theorem standing_start (role : Role) (world : World) : (Standing.start role).Knows world := by
  cases role with
  | execute chat | stream chat =>
      exact
        { reserved := fun told => by cases told
          settlement := fun _ told => by cases told
          opened := fun told => by cases told
          recorded := fun _ told => by cases told
          charged := fun _ told => by cases told
          cancelled := fun told => by cases told
          completed := fun told => by cases told }
  | recovery now =>
      exact
        { candidates := fun _ member => by cases member
          told := fun _ member => by cases member }

/-! ## Answers -/

/-- What an answer tells of the world. -/
def Call.Tells : (call : Call) → Except Failure call.Answer → World → Prop
  | reserveQuota arguments, .ok (), world =>
      RequestStands world.ledger arguments.operationId arguments.apiClientId
        arguments.clientRequestId arguments.modelId
  | reserveCredit operationId _ _ _, .ok remote, world =>
      SettlementStands world.credit operationId remote.settlementId
  | recordCredit operationId _ _ _, .ok (), world => CreditStands world.ledger operationId
  | recordUsage operationId promptTokens completionTokens _, .ok (), world =>
      UsageStands world.ledger operationId (promptTokens, completionTokens)
  | terminalize operationId fields, .ok (), world =>
      fields.status = .completed → CompletedStands world.ledger operationId
  | settleCredit operationId _ _ _, .ok remote, world
  | cancelCredit operationId _, .ok remote, world
  | creditStatus operationId _, .ok remote, world =>
      remote.operationId = operationId ∧ TellingStands world.credit remote
  | loadCandidates _, .ok candidates, world =>
      ∀ candidate ∈ candidates, candidate.providerUsageRecorded = true →
        UsageStands world.ledger candidate.operationId
          (candidate.promptTokens, candidate.completionTokens)
  | _, _, _ => True

theorem tells_of_error (call : Call) (failure : Failure) (world : World) :
    call.Tells (.error failure) world := by
  cases call <;> exact trivial

theorem tells_stable (call : Call) (answer : Except Failure call.Answer) (before after : World)
    (grows : Grows before after) (tells : call.Tells answer before) : call.Tells answer after := by
  cases answer with
  | error failure => exact tells_of_error call failure after
  | ok answer =>
      cases call with
      | reserveQuota => exact RequestStands.lasts tells grows.ledger
      | reserveCredit => exact SettlementStands.lasts tells grows.credit
      | recordCredit => exact CreditStands.lasts tells grows.ledger
      | recordUsage => exact UsageStands.lasts tells grows.ledger
      | terminalize => exact fun completed => (tells completed).lasts grows.ledger
      | settleCredit | cancelCredit | creditStatus =>
          exact ⟨tells.1, tells.2.lasts grows.credit⟩
      | loadCandidates =>
          exact fun candidate member recorded =>
            (tells candidate member recorded).lasts grows.ledger
      | _ => trivial

/-! ## Transactions tell what they committed -/

/-- A candidate carries the usage of its row. -/
theorem usageStands_of_loaded {worker : ExternalChatRecoveryWorker} {callers : Callers}
    {ledger : Ledger} {now : Int} {candidate : RecoveryCandidate}
    (loaded : candidate ∈ loadCandidates worker callers ledger now)
    (recorded : candidate.providerUsageRecorded = true) :
    UsageStands ledger candidate.operationId
      (candidate.promptTokens, candidate.completionTokens) := by
  obtain ⟨row, selected, mapped⟩ := List.mem_filterMap.mp loaded
  obtain ⟨serviceUserId, _, rfl⟩ := Option.map_eq_some_iff.mp mapped
  have member : row ∈ ledger.operations.rows :=
    List.mem_of_mem_filter (List.mem_mergeSort.mp (List.mem_of_mem_take selected))
  exact ⟨row, Table.find?_of_mem member, recorded, rfl⟩

theorem creditStands_of_recorded {ledger after : Ledger} {operationId settlementId : String}
    {usageOperationId : String} {now : Int}
    (recorded : recordCreditReservation ledger operationId settlementId usageOperationId now =
      .ok after) : CreditStands after operationId := by
  obtain ⟨row, found, _, ⟨written, _, rfl⟩ | ⟨_, _, rfl⟩⟩ := recordCreditReservation_ok recorded
  · exact ⟨row, settlementId, found, written⟩
  · exact ⟨creditRow settlementId usageOperationId now row, settlementId,
      @Table.find?_modify_same _ _ _ _ _ (creditRow_id settlementId usageOperationId now) _ _ _
        found, rfl⟩

theorem usageStands_of_recorded {ledger after : Ledger} {operationId : String}
    {promptTokens completionTokens now : Int}
    (recorded : recordProviderUsage ledger operationId promptTokens completionTokens now =
      .ok after) : UsageStands after operationId (promptTokens, completionTokens) := by
  obtain ⟨_, _, row, ⟨found, _⟩, _, rfl⟩ := recordProviderUsage_ok_iff.mp recorded
  exact ⟨usageRow promptTokens completionTokens now row,
    @Table.find?_modify_same _ _ _ _ _ (usageRow_id promptTokens completionTokens now) _ _ _ found,
    rfl, rfl⟩

theorem tells_of_transact {ids : RowIds} {world : World} {call : Call} {answer : call.Answer}
    {after : Ledger} (result : call.transact deployment ids world = some (.ok (answer, after))) :
    call.Tells (.ok answer) { world with ledger := after } := by
  cases call with
  | reserveQuota arguments =>
      obtain ⟨reserved, committed, same⟩ := map_ok_iff.mp (Option.some.inj result)
      cases same
      obtain ⟨client, rows, admitted, grown⟩ := reserveOperation_ok committed
      refine ⟨pendingOperation (arguments.request ids.dailyRow ids.lifetimeRow), ?_, rfl, rfl, rfl⟩
      show reserved.2.operations.find? _ = _
      rw [grown]
      exact Table.find?_insertNew_same admitted.newOperation
  | recordCredit =>
      obtain ⟨recorded, committed, same⟩ := map_ok_iff.mp (Option.some.inj result)
      cases same
      exact creditStands_of_recorded committed
  | recordUsage =>
      obtain ⟨recorded, committed, same⟩ := map_ok_iff.mp (Option.some.inj result)
      cases same
      exact usageStands_of_recorded committed
  | terminalize operationId fields =>
      obtain ⟨terminal, rfl, committed⟩ :=
        finalize_of_terminalTransaction (Option.some.inj result)
      obtain ⟨row, found, status⟩ := status_of_finalize committed
      intro completed
      have ended : terminal.status = .completed := completed
      rw [ended] at status
      exact ⟨row, found, status⟩
  | loadCandidates now =>
      cases result
      exact fun _ => usageStands_of_loaded
  | touchOperation | finalizeRecovered => trivial
  | _ => cases result

/-! ## The credit service tells its records -/

/-- The record of an operation, told. -/
theorem tellingStands_of_found {credit : CreditLedger} {operationId : String}
    {record : CreditOperation} (found : credit.find? operationId = some record) :
    record.snapshot.operationId = operationId ∧ TellingStands credit record.snapshot := by
  have keyed : record.operationId = operationId := Table.key_of_find? found
  refine ⟨keyed, record, ?_, ?_⟩
  · show credit.find? record.operationId = _
    rw [keyed, found]
  · intro told
    refine ⟨?_, rfl⟩
    intro pending
    apply told
    show record.state.status = .pending
    rw [pending]
    rfl

section Credit

variable {credit after : CreditLedger} {operationId : String} {state : CreditState}
  {reply : Except UpstreamError CreditOperationSnapshot}

theorem evolves_of_conclude (conclude : CreditLedger.Conclude credit operationId state reply after)
    (terminal : state ≠ .pending) : CreditEvolves credit after := by
  cases conclude with
  | concluded | unseen => exact CreditEvolves.conclude credit operationId terminal
  | unknown | failed => exact CreditEvolves.refl credit

/-- The record of a known operation, concluded. -/
theorem found_of_conclude {record : CreditOperation} (found : credit.find? operationId = some record) :
    (credit.modify operationId (CreditOperation.conclude state)
      (CreditOperation.conclude_operationId state)).find? operationId =
        some (record.conclude state) :=
  @Table.find?_modify_same _ _ _ _ _ (CreditOperation.conclude_operationId state) _ _ _ found

theorem tells_of_conclude {remote : CreditOperationSnapshot}
    (conclude : CreditLedger.Conclude credit operationId state (.ok remote) after) :
    remote.operationId = operationId ∧ TellingStands after remote := by
  cases conclude with
  | concluded found => exact tellingStands_of_found (found_of_conclude found)

/-- A record after a conclusion is an old one, or an old one concluded. -/
theorem former_of_conclude (conclude : CreditLedger.Conclude credit operationId state reply after)
    {other : String} {record : CreditOperation} (found : after.find? other = some record) :
    ∃ former, credit.find? other = some former ∧
      (record = former ∨ record = former.conclude state) := by
  have changed (found : (credit.modify operationId (CreditOperation.conclude state)
      (CreditOperation.conclude_operationId state)).find? other = some record) :
      ∃ former, credit.find? other = some former ∧
        (record = former ∨ record = former.conclude state) := by
    rw [Table.find?_modify (CreditOperation.conclude_operationId state)] at found
    split at found
    · obtain ⟨former, stored, rfl⟩ := Option.map_eq_some_iff.mp found
      exact ⟨former, stored, Or.inr rfl⟩
    · exact ⟨record, found, Or.inl rfl⟩
  cases conclude with
  | concluded | unseen => exact changed found
  | unknown | failed => exact ⟨record, found, Or.inl rfl⟩

/-- What a conclusion concludes, it concludes as it was asked. -/
theorem conclusion_of_conclude
    (conclude : CreditLedger.Conclude credit operationId state reply after) {other : String}
    {ended : CreditState} (stands : ConclusionStands after other ended) :
    ConclusionStands credit other ended ∨ (other = operationId ∧ ended = state) := by
  have changed {record : CreditOperation} (found : credit.find? operationId = some record)
      (stands : ConclusionStands (credit.modify operationId (CreditOperation.conclude state)
        (CreditOperation.conclude_operationId state)) other ended) :
      ConclusionStands credit other ended ∨ (other = operationId ∧ ended = state) := by
    by_cases same : other = operationId
    · subst same
      obtain ⟨later, stored, rfl, terminal⟩ := stands
      cases (found_of_conclude found).symm.trans stored
      unfold CreditOperation.conclude at terminal ⊢
      split
      · exact Or.inr ⟨rfl, rfl⟩
      · rename_i concluded
        exact Or.inl ⟨record, found, rfl, concluded⟩
    · obtain ⟨later, stored, ended⟩ := stands
      have unchanged := Table.find?_modify (CreditOperation.conclude_operationId state) credit
        operationId other
      rw [if_neg same] at unchanged
      exact Or.inl ⟨later, unchanged.symm.trans stored, ended⟩
  cases conclude with
  | concluded found => exact changed found stands
  | unseen found => exact changed found stands
  | unknown | failed => exact Or.inl stands

/-- Opening an operation concludes none. -/
theorem conclusion_of_opened {record : CreditOperation} (pending : record.state = .pending)
    (absent : credit.find? record.operationId = none) {other : String} {ended : CreditState}
    (stands : ConclusionStands (credit.insertNew record) other ended) :
    ConclusionStands credit other ended := by
  obtain ⟨stored, found, rfl, terminal⟩ := stands
  rcases (Table.mem_insertNew absent).mp (Table.mem_of_find? found) with old | rfl
  · have keyed : stored.operationId = other := Table.key_of_find? found
    have before := Table.find?_of_mem old
    rw [keyed] at before
    exact ⟨stored, before, rfl, terminal⟩
  · exact absurd pending terminal

end Credit

/-! ## Effects -/

/-- A grounded transaction keeps the agreement and tells what it committed. -/
theorem meets_of_transact {world : World} (agreed : Agreed world) {call : Call}
    (grounded : call.Grounded world) {ids : RowIds} {answer : call.Answer} {after : Ledger}
    (result : call.transact deployment ids world = some (.ok (answer, after))) :
    Agreed { world with ledger := after } ∧ Grows world { world with ledger := after } ∧
      call.Tells (.ok answer) { world with ledger := after } := by
  refine ⟨?_, ⟨evolves_of_transact result, .refl _⟩, tells_of_transact result⟩
  refine @transact_keeps deployment (fun ledger => Agreed { world with ledger := ledger }) call
    ?_ ids world answer after result agreed
  intro ledger later made makes holds committed
  have warrants : Warrants world.credit made := warrants_of_makes grounded makes
  exact holds.transact warrants committed

/-- A conclusion on recorded usage, or without tokens, accords with the ledger. -/
theorem accords_of_conclude {world : World} (agreed : Agreed world) {operationId : String}
    {state : CreditState} {reply : Except UpstreamError CreditOperationSnapshot}
    {after : CreditLedger}
    (conclude : CreditLedger.Conclude world.credit operationId state reply after)
    (terminal : state ≠ .pending)
    (grounded : ∀ promptTokens completionTokens charged,
      state = .succeeded promptTokens completionTokens charged →
        UsageStands world.ledger operationId (promptTokens, completionTokens))
    (priced : 0 ≤ state.chargedMicro ∧
      state.chargedMicro ≤ Integrations.OpenWebUI.signedBigintMax) :
    Accords world after where
  evolves := evolves_of_conclude conclude terminal
  settled := by
    intro other promptTokens completionTokens charged stands
    rcases conclusion_of_conclude conclude stands with old | ⟨rfl, rfl⟩
    · exact Or.inl old
    · exact Or.inr (grounded _ _ _ rfl)
  identified := by
    intro other record found
    obtain ⟨former, formerFound, concluded⟩ := former_of_conclude conclude found
    obtain ⟨provider, model⟩ := agreed.identified other former formerFound
    rcases concluded with rfl | rfl
    · exact ⟨provider, model⟩
    · unfold CreditOperation.conclude
      split <;> exact ⟨provider, model⟩
  priced := by
    intro other record found
    obtain ⟨former, formerFound, concluded⟩ := former_of_conclude conclude found
    have before := agreed.priced other former formerFound
    rcases concluded with rfl | rfl
    · exact before
    · unfold CreditOperation.conclude
      split
      · exact priced
      · exact before

/-- An opened operation for the model of its row accords with the ledger. -/
theorem accords_of_opened {world : World} (agreed : Agreed world) {record : CreditOperation}
    (pending : record.state = .pending) (absent : world.credit.find? record.operationId = none)
    (provider : record.provider = some "bifrost")
    (model : ModelStands world.ledger record.operationId record.modelId) :
    Accords world (world.credit.insertNew record) where
  evolves := .insertNew _ _
  settled _ _ _ _ stands := Or.inl (conclusion_of_opened pending absent stands)
  identified := by
    intro other stored found
    rw [Table.find?_insertNew absent] at found
    split at found
    · rename_i same
      cases found
      exact ⟨provider, same ▸ model⟩
    · exact agreed.identified other stored found
  priced := by
    intro other stored found
    rw [Table.find?_insertNew absent] at found
    split at found
    · cases found
      unfold Priced
      rw [pending]
      decide
    · exact agreed.priced other stored found

theorem meets_of_reserve {world : World} (agreed : Agreed world)
    {operationId serviceUserId modelId : String} {provider : Option String}
    (grounded : Call.Grounded (.reserveCredit operationId serviceUserId modelId provider) world)
    {reply : Except UpstreamError CreditOperationSnapshot} {after : CreditLedger}
    (reserve : CreditLedger.Reserve deployment.canonical world.credit operationId serviceUserId
      modelId provider reply after) :
    Agreed { world with credit := after } ∧ Grows world { world with credit := after } ∧
      Call.Tells (.reserveCredit operationId serviceUserId modelId provider) (fromCredit reply)
        { world with credit := after } := by
  have opened (settlementId : String) (absent : world.credit.find? operationId = none) :
      Accords world (world.credit.insertNew ⟨operationId, settlementId,
        deployment.canonical serviceUserId, modelId, provider, .pending⟩) := by
    exact accords_of_opened agreed rfl absent grounded.2 grounded.1
  cases reserve with
  | opened absent settlementId =>
      have accords := opened settlementId absent
      exact ⟨agreed.evolve accords, ⟨.refl _, accords.evolves⟩, _,
        Table.find?_insertNew_same absent, rfl⟩
  | openedUnseen absent settlementId unanswered =>
      have accords := opened settlementId absent
      exact ⟨agreed.evolve accords, ⟨.refl _, accords.evolves⟩, trivial⟩
  | refused | failed => exact ⟨agreed, .refl world, trivial⟩
  | repeated found => exact ⟨agreed, .refl world, _, found, rfl⟩

/-- A grounded call keeps the agreement, lets both stores grow and tells the truth. -/
theorem meets_of_effects (deployment : Deployment) (before : World) (call : Call)
    (answer : Except Failure call.Answer) (after : World) (agreed : Agreed before)
    (grounded : call.Grounded before) (effects : Effects deployment before call answer after) :
    Agreed after ∧ Grows before after ∧ call.Tells answer after := by
  cases effects with
  | passive isPassive answer =>
      refine ⟨agreed, .refl _, ?_⟩
      cases call <;> first | exact trivial | cases isPassive
  | policy => exact ⟨agreed, .refl _, trivial⟩
  | committed ids result => exact meets_of_transact agreed grounded result
  | committedUnseen ids result =>
      obtain ⟨agrees, grows, _⟩ := meets_of_transact agreed grounded result
      exact ⟨agrees, grows, tells_of_error call _ _⟩
  | reserveCredit reserve => exact meets_of_reserve agreed grounded reserve
  | settleCredit charged conclude =>
      have accords := accords_of_conclude agreed conclude (by simp)
        (by rintro _ _ _ ⟨⟩; exact grounded) charged
      refine ⟨agreed.evolve accords, ⟨.refl _, accords.evolves⟩, ?_⟩
      rename_i reply _
      cases reply with
      | ok remote => exact tells_of_conclude conclude
      | error failure => exact trivial
  | cancelCredit conclude =>
      have accords := accords_of_conclude agreed conclude (by simp) (by simp)
        ⟨le_refl 0, show (0 : Int) ≤ _ by decide⟩
      refine ⟨agreed.evolve accords, ⟨.refl _, accords.evolves⟩, ?_⟩
      rename_i reply _
      cases reply with
      | ok remote => exact tells_of_conclude conclude
      | error failure => exact trivial
  | creditStatus status =>
      refine ⟨agreed, .refl _, ?_⟩
      cases status with
      | known found => exact tellingStands_of_found found
      | unknown | failed => exact trivial
  | passiveFailure | policyFailure | refused | unreachable | creditFailure =>
      exact ⟨agreed, .refl _, tells_of_error _ _ _⟩

theorem agreed_of_drift (before after : World) (agreed : Agreed before)
    (drifts : ∃ callers, after = { before with callers := callers }) :
    Agreed after ∧ Grows before after := by
  obtain ⟨callers, rfl⟩ := drifts
  exact ⟨{ agreed with kept := agreed.kept }, .refl _, .refl _⟩

/-! ## Evidence of calls -/

/-- The evidence of a live request warrants its record. -/
theorem Account.Knows.warrants {account : Account} {world : World} (knows : account.Knows world)
    {fields : TerminalFields} (justifies : account.justifies fields) :
    Warranted world.credit account.chat.operationId fields := by
  obtain ⟨verdict, supports, status, charged, code⟩ := justifies
  rcases supports with confirmed | ⟨free, ended, _, refusal⟩
  · obtain ⟨promptTokens, completionTokens, stands⟩ := knows.charged _ confirmed
    exact Or.inl ⟨_, stands, charged.symm, fun _ => ⟨_, _, _, rfl⟩⟩
  · rcases refusal with ⟨_, refused⟩ | ⟨cancelled, _⟩
    · refine Or.inr ⟨charged.trans free, fun completed => ended (status ▸ completed), ?_⟩
      rw [code, Account.textOf]
      rcases refused with exhausted | frozen
      · rw [exhausted]
        exact List.mem_cons_self
      · rw [frozen]
        exact List.mem_cons_of_mem _ List.mem_cons_self
    · obtain ⟨reported, stands⟩ := knows.cancelled cancelled
      exact Or.inl ⟨_, stands, (charged.trans free).symm,
        fun completed => absurd (status ▸ completed) ended⟩

theorem operationId_of_validIdentity {candidate : RecoveryCandidate}
    {remote : CreditOperationSnapshot} (valid : validIdentity candidate remote = true) :
    remote.operationId = candidate.operationId := by
  simp only [validIdentity, Bool.and_eq_true, decide_eq_true_eq] at valid
  exact valid.1.1.1.1.1.1

/-- A terminal record that was told warrants the record made of it. -/
theorem warranted_of_told {credit : CreditLedger} {candidate : RecoveryCandidate}
    {remote : CreditOperationSnapshot} (told : TellingStands credit remote)
    (valid : validIdentity candidate remote = true) (terminal : isTerminal remote.status = true)
    (now : Int) : Warranted credit candidate.operationId (remoteFields candidate remote now) := by
  obtain ⟨record, found, concluded⟩ := told
  obtain ⟨ended, rfl⟩ := concluded (by intro pending; rw [pending] at terminal; cases terminal)
  rw [operationId_of_validIdentity valid] at found
  refine Or.inl ⟨record.state, ⟨record, found, rfl, ended⟩, ?_, ?_⟩
  · unfold remoteFields
    split <;> rfl
  · unfold remoteFields
    split
    · rename_i succeeded
      intro _
      cases state : record.state with
      | succeeded promptTokens completionTokens charged => exact ⟨_, _, _, rfl⟩
      | pending => exact absurd state ended
      | cancelled reported =>
          have status : record.state.status = .succeededCharged := succeeded
          rw [state] at status
          cases reported <;> cases status
    · intro completed
      cases completed

theorem Inquiry.Knows.warrants {inquiry : Inquiry} {world : World} (knows : inquiry.Knows world)
    {operationId : String} {usage : Option (Int × Int)} {fields : TerminalFields}
    (justifies : inquiry.Justifies operationId usage fields) :
    Warranted world.credit operationId fields := by
  obtain ⟨candidate, _, rfl, now, told | unknown⟩ := justifies
  · obtain ⟨remote, member, valid, terminal, _, rfl⟩ := told
    exact warranted_of_told (knows.told remote member) valid terminal now
  · obtain ⟨_, _, _, _, rfl⟩ := unknown
    refine Or.inr ⟨rfl, ?_, List.mem_cons_of_mem _ (List.mem_cons_of_mem _ List.mem_cons_self)⟩
    intro completed
    cases completed

/-- Usage is recorded in recovery for an operation that the credit service holds. -/
theorem Inquiry.Knows.holding {inquiry : Inquiry} {world : World} (knows : inquiry.Knows world)
    {operationId : String} {usage : Option (Int × Int)} {fields : TerminalFields}
    (justifies : inquiry.Justifies operationId usage fields) (used : usage ≠ none) :
    HoldingStands world.credit operationId := by
  obtain ⟨candidate, _, rfl, now, told | unknown⟩ := justifies
  · obtain ⟨remote, member, valid, _⟩ := told
    obtain ⟨record, found, _⟩ := knows.told remote member
    exact ⟨record, operationId_of_validIdentity valid ▸ found⟩
  · exact absurd unknown.2.2.2.1 used

/-- A permitted call rests on what its sender knows. -/
theorem grounded_of_permitted {standing : Standing} {call : Call} {world : World}
    (knows : standing.Knows world) (permitted : standing.permits (.sent call)) :
    call.Grounded world := by
  cases standing with
  | live account =>
      have known : account.Knows world := knows
      have permits : account.permitsCall call := permitted
      cases call with
      | settleCredit =>
          obtain ⟨rfl, recorded⟩ := permits
          exact known.recorded _ recorded
      | reserveCredit =>
          obtain ⟨rfl, reserved, rfl, rfl⟩ := permits
          obtain ⟨row, found, _, _, model⟩ := known.reserved reserved
          exact ⟨⟨row, found, model⟩, rfl⟩
      | recordCredit =>
          obtain ⟨rfl, settled, rfl⟩ := permits
          exact ⟨known.settlement _ settled, rfl⟩
      | recordUsage =>
          obtain ⟨rfl, _, _, held, _⟩ := permits
          obtain ⟨settlementId, settled⟩ := Option.ne_none_iff_exists'.mp held
          exact (known.settlement _ settled).holding
      | terminalize =>
          obtain ⟨rfl, _, justifies⟩ := permits
          exact known.warrants justifies
      | finalizeRecovered => exact permits.elim
      | _ => trivial
  | recovery inquiry =>
      have known : inquiry.Knows world := knows
      have permits : inquiry.permitsCall call := permitted
      cases call with
      | settleCredit =>
          obtain ⟨candidate, member, _, _, rfl, _, _, _, carried⟩ := permits
          split at carried
          · rename_i recorded
            cases carried
            exact known.candidates candidate member recorded
          · cases carried
      | recordCredit | terminalize => exact permits.elim
      | finalizeRecovered => exact ⟨known.warrants permits, known.holding permits⟩
      | _ => trivial

/-! ## Knowledge along events -/

theorem Account.Knows.sent {account : Account} {world : World} (knows : account.Knows world)
    (call : Call) : (account.sent call).Knows world := by
  cases call with
  | forwardChat | recordUsage | cancelCredit =>
      exact ⟨knows.reserved, knows.settlement, knows.opened, knows.recorded, knows.charged,
        knows.cancelled, knows.completed⟩
  | _ => exact knows

/-- A reply that confirms its tokens tells a conclusion. -/
theorem conclusion_of_confirms {credit : CreditLedger} {promptTokens completionTokens : Int}
    {remote : CreditOperationSnapshot} (told : TellingStands credit remote)
    (confirms : Account.confirms promptTokens completionTokens remote = true) :
    ConclusionStands credit remote.operationId
      (.succeeded promptTokens completionTokens remote.chargedMicro) := by
  simp only [Account.confirms, Bool.and_eq_true, decide_eq_true_eq] at confirms
  obtain ⟨⟨status, rfl⟩, rfl⟩ := confirms
  obtain ⟨record, found, concluded⟩ := told
  obtain ⟨ended, rfl⟩ := concluded (by rw [status]; simp)
  refine ⟨record, found, ?_, by simp⟩
  cases state : record.state with
  | succeeded => simp [CreditOperation.snapshot, state, CreditState.promptTokens,
      CreditState.completionTokens, CreditState.chargedMicro]
  | pending => exact absurd state ended
  | cancelled reported =>
      have told : record.state.status = .succeededCharged := status
      rw [state] at told
      cases reported <;> cases told

/-- A reply that reports a cancellation tells one. -/
theorem cancellation_of_told {credit : CreditLedger} {remote : CreditOperationSnapshot}
    (told : TellingStands credit remote) (cancelled : isCancelled remote.status = true) :
    ∃ reported, ConclusionStands credit remote.operationId (.cancelled reported) := by
  obtain ⟨record, found, concluded⟩ := told
  obtain ⟨ended, rfl⟩ := concluded (by intro pending; rw [pending] at cancelled; cases cancelled)
  cases state : record.state with
  | cancelled reported => exact ⟨reported, record, found, state, by simp⟩
  | pending => exact absurd state ended
  | succeeded =>
      have told : isCancelled record.state.status = true := cancelled
      rw [state] at told
      cases told

theorem Account.Knows.answered {account : Account} {world : World} (knows : account.Knows world)
    (parser : Parser) {call : Call} {answer : Except Failure call.Answer}
    (tells : call.Tells answer world) : (account.answered parser call answer).Knows world := by
  unfold Account.answered
  split
  swap
  · exact knows
  rename_i concerns
  cases answer with
  | error failure =>
      cases call with
      | reserveCredit =>
          cases failure with
          | openWebUI error =>
              exact ⟨knows.reserved, knows.settlement, knows.opened, knows.recorded,
                knows.charged, knows.cancelled, knows.completed⟩
          | _ => exact knows
      | _ => exact knows
  | ok answer =>
      cases call with
      | reserveQuota arguments =>
          simp only [Account.concerns, Bool.and_eq_true, decide_eq_true_eq] at concerns
          obtain ⟨⟨⟨operation, client⟩, request⟩, model⟩ := concerns
          refine { knows with reserved := fun _ => ?_ }
          have stands : RequestStands world.ledger arguments.operationId arguments.apiClientId
            arguments.clientRequestId arguments.modelId := tells
          rw [operation, client, request, model] at stands
          exact stands
      | reserveCredit =>
          obtain rfl := of_decide_eq_true concerns
          refine { knows with settlement := ?_ }
          rintro settlementId ⟨⟩
          exact tells
      | recordCredit =>
          obtain rfl := of_decide_eq_true concerns
          exact { knows with opened := fun _ => tells }
      | forwardChat =>
          exact ⟨knows.reserved, knows.settlement, knows.opened, knows.recorded, knows.charged,
            knows.cancelled, knows.completed⟩
      | streamNext =>
          cases answer with
          | none => exact knows
          | some chunk =>
              exact ⟨knows.reserved, knows.settlement, knows.opened, knows.recorded,
                knows.charged, knows.cancelled, knows.completed⟩
      | recordUsage =>
          obtain rfl := of_decide_eq_true concerns
          refine { knows with recorded := ?_ }
          rintro tokens ⟨⟩
          exact tells
      | settleCredit operationId serviceUserId promptTokens completionTokens =>
          obtain rfl := of_decide_eq_true concerns
          obtain ⟨named, told⟩ := tells
          show Account.Knows (if _ then _ else _) world
          split
          · rename_i confirms
            refine { knows with charged := ?_ }
            rintro charged ⟨⟩
            exact ⟨_, _, named ▸ conclusion_of_confirms told confirms⟩
          · exact knows
      | cancelCredit =>
          obtain rfl := of_decide_eq_true concerns
          obtain ⟨named, told⟩ := tells
          refine { knows with cancelled := ?_ }
          intro cancelled
          rcases (Bool.or_eq_true _ _).mp cancelled with before | now
          · exact knows.cancelled before
          · exact named ▸ cancellation_of_told told now
      | terminalize operationId fields =>
          obtain rfl := of_decide_eq_true concerns
          refine { knows with completed := ?_ }
          intro completed
          rcases (Bool.or_eq_true _ _).mp completed with before | now
          · exact knows.completed before
          · exact tells (of_decide_eq_true now)
      | _ => exact knows

theorem Inquiry.Knows.misses {inquiry : Inquiry} {world : World} (knows : inquiry.Knows world)
    (operationId : String) : (inquiry.misses operationId).Knows world :=
  ⟨knows.candidates, knows.told⟩

theorem Inquiry.Knows.learns {inquiry : Inquiry} {world : World} (knows : inquiry.Knows world)
    {remote : CreditOperationSnapshot} (told : TellingStands world.credit remote) :
    Inquiry.Knows { inquiry with told := remote :: inquiry.told } world where
  candidates := knows.candidates
  told := List.forall_mem_cons.mpr ⟨told, knows.told⟩

theorem Inquiry.Knows.answered {inquiry : Inquiry} {world : World} (knows : inquiry.Knows world)
    {call : Call} {answer : Except Failure call.Answer} (tells : call.Tells answer world) :
    (inquiry.answered call answer).Knows world := by
  cases answer with
  | error failure =>
      cases call with
      | creditStatus operationId serviceUserId =>
          cases failure with
          | openWebUI error =>
              show Inquiry.Knows (if _ then _ else _) world
              split
              · exact knows.misses operationId
              · exact knows
          | _ => exact knows
      | _ => exact knows
  | ok answer =>
      cases call with
      | settleCredit | cancelCredit | creditStatus => exact knows.learns tells.2
      | loadCandidates =>
          refine ⟨?_, knows.told⟩
          intro candidate member
          rcases List.mem_append.mp member with loaded | earlier
          · exact tells candidate loaded
          · exact knows.candidates candidate earlier
      | _ => exact knows

theorem standing_sent (deployment : Deployment) (standing : Standing) (call : Call) (world : World)
    (knows : standing.Knows world) (permitted : deployment.settlement.permits standing (.sent call)) :
    (deployment.settlement.after standing (.sent call)).Knows world ∧ call.Grounded world := by
  refine ⟨?_, grounded_of_permitted knows permitted⟩
  cases standing with
  | live account => exact Account.Knows.sent knows call
  | recovery inquiry => exact knows

theorem standing_answered (deployment : Deployment) (standing : Standing) (call : Call)
    (answer : Except Failure call.Answer) (world : World) (knows : standing.Knows world)
    (tells : call.Tells answer world) (_ : deployment.settlement.answerable call answer) :
    (deployment.settlement.after standing (.answered call answer)).Knows world := by
  cases standing with
  | live account => exact Account.Knows.answered knows deployment.service.parser tells
  | recovery inquiry => exact Inquiry.Knows.answered knows tells

theorem standing_lost (deployment : Deployment) (standing : Standing) (call : Call) (world : World)
    (knows : standing.Knows world) :
    (deployment.settlement.after standing (.lost call)).Knows world := by
  cases standing with
  | live account => exact knows
  | recovery inquiry => exact knows

theorem standing_emitted (deployment : Deployment) (standing : Standing) (frame : Frame)
    (world : World) (knows : standing.Knows world)
    (_ : deployment.settlement.permits standing (.emitted frame)) :
    (deployment.settlement.after standing (.emitted frame)).Knows world := by
  cases standing with
  | live account =>
      have known : account.Knows world := knows
      exact ⟨known.reserved, known.settlement, known.opened, known.recorded, known.charged,
        known.cancelled, known.completed⟩
  | recovery inquiry => exact knows

/-! ## The contract -/

/-- The settlement protocol keeps the agreement. -/
def settlementContract (deployment : Deployment) :
    Contract deployment.behaviour deployment.settlement Standing.start where
  Sound := Agreed
  Grows := Grows
  Knows := Standing.Knows
  Licensed := Call.Grounded
  Answered := Call.Tells
  follows := program_settles deployment
  interrupts := fun _ interrupts => interrupts
  answerable := fun before _ _ after effects => ⟨before, after, effects⟩
  grows_refl := Grows.refl
  knows_stable := standing_stable
  licensed_stable := grounded_stable
  answered_stable := tells_stable
  apply := meets_of_effects deployment
  drift := agreed_of_drift
  knows_start := standing_start
  knows_sent := standing_sent deployment
  knows_answered := standing_answered deployment
  knows_lost := standing_lost deployment
  knows_emitted := standing_emitted deployment

section Runs

variable {world : World} {condition : Condition backend Role Unit World} {system : ChatSystem}

/-- The contract holds in every state of a run from stores that agree. -/
theorem settlement_holds (agreed : Agreed world)
    (run : Reaches deployment.behaviour condition ⟨world, [], []⟩ system) :
    (settlementContract deployment).Holds system :=
  Contract.Holds.reaches (Contract.Holds.initial agreed) run

end Runs

end Zangpu.Services.Chat
