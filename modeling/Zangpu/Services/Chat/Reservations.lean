import Zangpu.Services.Chat.Dialogue.Requests
import Zangpu.Services.Quota.Finalization

/-!
What a live request knows of its reservation.

Owns: relations of ledgers that the transactions of every call stay in; the growth
of the operation rows; and the contract by which the reservation a request has made
stands in the ledger, with the tokens it asked for, from then on.

Does not own: what the reserved tokens are for.
-/

set_option autoImplicit false

namespace Zangpu.Services.Chat

open Zangpu.Foundation
open Zangpu.Models
open Zangpu.Services.Quota

/-! ## Transactions of calls -/

theorem map_ok_iff {Failure First Second : Type} {result : Except Failure First}
    {change : First → Second} {value : Second} :
    result.map change = .ok value ↔ ∃ before, result = .ok before ∧ change before = value := by
  cases result with
  | error failure => simp [Except.map]
  | ok before => simp [Except.map]

section Relates

variable {deployment : Deployment} {relates : Ledger → Ledger → Prop}

theorem transact_of_reserved {callers : Callers} {ledger : Ledger} {request : ReserveRequest}
    {reserved : OperationReservation × Ledger}
    (committed : reserveOperation callers ledger request = .ok reserved) :
    (LedgerCall.reserve callers request).transact ledger = .ok reserved.2 :=
  congrArg (Prod.snd <$> ·) committed

theorem terminalTransaction_relates
    (step : ∀ {ledger after : Ledger} {call : LedgerCall}, call.transact ledger = .ok after →
      relates ledger after)
    {ledger after : Ledger} {ids : RowIds} {operationId : String} {fields : TerminalFields}
    (committed : terminalTransaction ledger ids operationId fields = .ok ((), after)) :
    relates ledger after := by
  simp only [terminalTransaction, bind_ok_iff] at committed
  obtain ⟨terminal, _, ⟨snapshot, left⟩, finalized, returned⟩ := committed
  cases returned
  have transacted : (LedgerCall.finalize operationId ids.event terminal).transact ledger =
      .ok left := congrArg (Prod.snd <$> ·) finalized
  exact step transacted

/-- What holds from the ledger before to the ledger after every ledger call holds
across the transaction of any call. -/
theorem transact_relates (refl : ∀ ledger, relates ledger ledger)
    (trans : ∀ {first middle last}, relates first middle → relates middle last →
      relates first last)
    (step : ∀ {ledger after : Ledger} {call : LedgerCall}, call.transact ledger = .ok after →
      relates ledger after)
    {ids : RowIds} {world : World} {call : Call} {answer : call.Answer} {after : Ledger}
    (result : call.transact deployment ids world = some (.ok (answer, after))) :
    relates world.ledger after := by
  cases call with
  | reserveQuota arguments =>
      obtain ⟨reserved, committed, same⟩ := map_ok_iff.mp (Option.some.inj result)
      cases same
      exact step (transact_of_reserved committed)
  | recordCredit operationId settlementId usageOperationId now =>
      obtain ⟨recorded, committed, same⟩ := map_ok_iff.mp (Option.some.inj result)
      cases same
      exact @step _ _ (.recordCredit operationId settlementId usageOperationId now) committed
  | recordUsage operationId promptTokens completionTokens now =>
      obtain ⟨recorded, committed, same⟩ := map_ok_iff.mp (Option.some.inj result)
      cases same
      exact @step _ _ (.recordUsage operationId promptTokens completionTokens now) committed
  | touchOperation operationId now =>
      have touched : (LedgerCall.touch operationId now).transact world.ledger = .ok after :=
        congrArg (Prod.snd <$> ·) (Option.some.inj result)
      exact step touched
  | terminalize operationId fields =>
      exact terminalTransaction_relates step (Option.some.inj result)
  | finalizeRecovered operationId usage fields =>
      have committed := Option.some.inj result
      unfold recoveryTransaction at committed
      cases usage with
      | none => exact terminalTransaction_relates step committed
      | some counted =>
          obtain ⟨recorded, usageRecorded, finalized⟩ := (bind_ok_iff _ _ _).mp committed
          exact trans (@step _ _ (.recordUsage operationId counted.1 counted.2 fields.completedAt)
            usageRecorded) (terminalTransaction_relates step finalized)
  | loadCandidates now =>
      cases result
      exact refl _
  | _ => cases result

end Relates

/-! ## Standing reservations -/

/-- The reservation stands: its operation is in the ledger with its tokens. -/
def Stands (arguments : ReserveArguments) (ledger : Ledger) : Prop :=
  ∃ row, ledger.operations.find? arguments.operationId = some row ∧
    row.reservedTokens = arguments.reservedTokens

/-- Operations stay, with the tokens reserved for them. -/
def Retains (before after : Ledger) : Prop :=
  ∀ operationId row, before.operations.find? operationId = some row →
    ∃ left, after.operations.find? operationId = some left ∧
      left.reservedTokens = row.reservedTokens

theorem Retains.refl (ledger : Ledger) : Retains ledger ledger :=
  fun _ row found => ⟨row, found, rfl⟩

theorem Retains.trans {first middle last : Ledger} (early : Retains first middle)
    (late : Retains middle last) : Retains first last := by
  intro operationId row found
  obtain ⟨left, stays, same⟩ := early operationId row found
  obtain ⟨final, remains, equal⟩ := late operationId left stays
  exact ⟨final, remains, equal.trans same⟩

theorem Stands.retained {arguments : ReserveArguments} {before after : Ledger}
    (stands : Stands arguments before) (retains : Retains before after) :
    Stands arguments after := by
  obtain ⟨row, found, tokens⟩ := stands
  obtain ⟨left, stays, same⟩ := retains _ row found
  exact ⟨left, stays, same.trans tokens⟩

variable {deployment : Deployment}

theorem retains_of_transact {ids : RowIds} {world : World} {call : Call} {answer : call.Answer}
    {after : Ledger} (result : call.transact deployment ids world = some (.ok (answer, after))) :
    Retains world.ledger after :=
  transact_relates Retains.refl Retains.trans
    (fun committed _ _ found => reservedTokens_fixed.transact committed found) result

/-- Every effect of a call retains the operations. -/
theorem retains_of_effects {before after : World} {call : Call}
    {answer : Except Failure call.Answer} (effects : Effects deployment before call answer after) :
    Retains before.ledger after.ledger := by
  cases effects with
  | committed ids result | committedUnseen ids result => exact retains_of_transact result
  | _ => exact Retains.refl _

/-- A reservation that was answered stands. -/
theorem stands_of_effects {before after : World} {arguments : ReserveArguments}
    (effects : Effects deployment before (.reserveQuota arguments) (.ok ()) after) :
    Stands arguments after.ledger := by
  cases effects with
  | passive isPassive => cases isPassive
  | committed ids result =>
      obtain ⟨reserved, committed, same⟩ := map_ok_iff.mp (Option.some.inj result)
      cases same
      obtain ⟨client, rows, admitted, grown⟩ := reserveOperation_ok committed
      refine ⟨pendingOperation (arguments.request ids.dailyRow ids.lifetimeRow), ?_, rfl⟩
      show reserved.2.operations.find? _ = _
      rw [grown]
      exact Table.find?_insertNew_same admitted.newOperation

/-! ## The contract -/

/-- The reservation a conversation has seen made stands. -/
def Conversation.Knows : Conversation → World → Prop
  | live _ dialogue, world => ∀ arguments, dialogue.reservation = some arguments →
      Stands arguments world.ledger
  | recovery, _ => True

/-- What an answer tells of the ledger. -/
def Call.Attests : (call : Call) → Except Failure call.Answer → World → Prop
  | reserveQuota arguments, .ok (), world => Stands arguments world.ledger
  | _, _, _ => True

/-- The reservation of a dialogue is one it had or one it has just seen made. -/
theorem reservation_after (chat : ChatRequest) (dialogue : Dialogue) (event : Event backend) :
    (dialogue.after chat event).reservation = dialogue.reservation ∨
      dialogue.reservation = none ∧ ∃ arguments,
        event = .answered (.reserveQuota arguments) (.ok ()) ∧
        (dialogue.after chat event).reservation = some arguments := by
  cases event with
  | sent call => cases call <;> exact Or.inl rfl
  | lost | emitted => exact Or.inl rfl
  | answered call answer =>
      cases call with
      | reserveQuota arguments =>
          cases answer with
          | error failure => exact Or.inl rfl
          | ok =>
              cases reserved : dialogue.reservation with
              | some earlier =>
                  refine Or.inl ?_
                  show dialogue.reservation.or _ = _
                  rw [reserved]
                  rfl
              | none =>
                  refine Or.inr ⟨rfl, arguments, rfl, ?_⟩
                  show dialogue.reservation.or _ = _
                  rw [reserved]
                  rfl
      | _ => exact Or.inl (by cases answer <;> rfl)

theorem knows_stable (conversation : Conversation) (before after : World)
    (grows : Retains before.ledger after.ledger) (knows : conversation.Knows before) :
    conversation.Knows after := by
  cases conversation with
  | recovery => trivial
  | live chat dialogue => exact fun arguments reserved => (knows arguments reserved).retained grows

theorem attests_stable (call : Call) (answer : Except Failure call.Answer) (before after : World)
    (grows : Retains before.ledger after.ledger) (attests : call.Attests answer before) :
    call.Attests answer after := by
  cases call with
  | reserveQuota arguments =>
      cases answer with
      | ok => exact Stands.retained attests grows
      | error failure => trivial
  | _ => cases answer <;> trivial

theorem attests_of_effects (deployment : Deployment) (before : World) (call : Call)
    (answer : Except Failure call.Answer) (after : World) (_ : True) (_ : True)
    (effects : Effects deployment before call answer after) :
    True ∧ Retains before.ledger after.ledger ∧ call.Attests answer after := by
  refine ⟨trivial, retains_of_effects effects, ?_⟩
  cases call with
  | reserveQuota arguments =>
      cases answer with
      | ok => exact stands_of_effects effects
      | error failure => trivial
  | _ => cases answer <;> trivial

theorem retains_of_drift (before after : World) (_ : True)
    (drifts : ∃ callers, after = { before with callers := callers }) :
    True ∧ Retains before.ledger after.ledger := by
  obtain ⟨callers, rfl⟩ := drifts
  exact ⟨trivial, Retains.refl _⟩

theorem knows_start (role : Role) (world : World) : (Conversation.start role).Knows world := by
  cases role with
  | recovery now => trivial
  | execute chat | stream chat => exact fun _ reserved => by cases reserved

/-- Knowledge survives every event that makes no reservation, and those that do. -/
theorem knows_after {conversation : Conversation} {event : Event backend} {world : World}
    (knows : conversation.Knows world)
    (attests : ∀ arguments, event = .answered (.reserveQuota arguments) (.ok ()) →
      Stands arguments world.ledger) : (conversation.after event).Knows world := by
  cases conversation with
  | recovery => trivial
  | live chat dialogue =>
      intro arguments reserved
      rcases reservation_after chat dialogue event with same | ⟨_, made, answered, gained⟩
      · exact knows arguments (same ▸ reserved)
      · obtain rfl := Option.some.inj (gained.symm.trans reserved)
        exact attests made answered

theorem knows_sent (deployment : Deployment) (conversation : Conversation) (call : Call)
    (world : World) (knows : conversation.Knows world)
    (_ : deployment.conversation.permits conversation (.sent call)) :
    (conversation.after (.sent call)).Knows world ∧ True :=
  ⟨knows_after knows (fun _ equal => by cases equal), trivial⟩

theorem knows_answered (deployment : Deployment) (conversation : Conversation) (call : Call)
    (answer : Except Failure call.Answer) (world : World) (knows : conversation.Knows world)
    (attests : call.Attests answer world) (_ : deployment.conversation.answerable call answer) :
    (conversation.after (.answered call answer)).Knows world := by
  apply knows_after knows
  intro arguments equal
  cases equal
  exact attests

theorem knows_lost (conversation : Conversation) (call : Call) (world : World)
    (knows : conversation.Knows world) : (conversation.after (.lost call)).Knows world :=
  knows_after knows fun _ equal => by cases equal

theorem knows_emitted (deployment : Deployment) (conversation : Conversation) (frame : Frame)
    (world : World) (knows : conversation.Knows world)
    (_ : deployment.conversation.permits conversation (.emitted frame)) :
    (conversation.after (.emitted frame)).Knows world :=
  knows_after knows fun _ equal => by cases equal

theorem interrupts_conversation (deployment : Deployment) (failure : Failure)
    (interrupts : deployment.behaviour.interrupts failure) :
    deployment.conversation.interrupts failure := interrupts

theorem answerable_of_effects (deployment : Deployment) (before : World) (call : Call)
    (answer : Except Failure call.Answer) (after : World)
    (effects : deployment.behaviour.semantics before call answer after) :
    deployment.conversation.answerable call answer := ⟨before, after, effects⟩

theorem retains_world (world : World) : Retains world.ledger world.ledger := Retains.refl _

theorem licensed_always (_ : Call) (before after : World)
    (_ : Retains before.ledger after.ledger) (_ : True) : True := trivial

/-- Reservations stand in every state of every run. -/
def reservationContract (deployment : Deployment) :
    Contract deployment.behaviour deployment.conversation Conversation.start where
  Sound _ := True
  Grows before after := Retains before.ledger after.ledger
  Knows := Conversation.Knows
  Licensed _ _ := True
  Answered := Call.Attests
  follows := program_follows deployment
  interrupts := interrupts_conversation deployment
  answerable := answerable_of_effects deployment
  grows_refl := retains_world
  knows_stable := knows_stable
  licensed_stable := licensed_always
  answered_stable := attests_stable
  apply := attests_of_effects deployment
  drift := retains_of_drift
  knows_start := knows_start
  knows_sent := knows_sent deployment
  knows_answered := knows_answered deployment
  knows_lost := knows_lost
  knows_emitted := knows_emitted deployment

/-- In every state of every run, what a conversation knows of its reservation holds. -/
theorem conversation_knows {world : World} {condition : Condition backend Role Unit World}
    {system : ChatSystem} (run : Reaches deployment.behaviour condition ⟨world, [], []⟩ system)
    {process : ChatProcess} (member : process ∈ system.processes) :
    (process.phase deployment.conversation Conversation.start).Knows system.world := by
  have holds : (reservationContract deployment).Holds system :=
    Contract.Holds.reaches (Contract.Holds.initial trivial) run
  obtain ⟨pid, found⟩ := List.mem_iff_getElem?.mp member
  exact (holds.keeps pid process found).knows

end Zangpu.Services.Chat
