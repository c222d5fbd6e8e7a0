import Zangpu.Services.Chat.Settlement.Streams

/-!
Recovery passes in the settlement protocol.

Owns: that a recovery pass settles and cancels only candidates reported open, each by
the usage it was loaded with, and finalizes only on a terminal record of the credit
service or on its ignorance of an operation without credit evidence; and that every
process of every run keeps the protocol.

Does not own: what the protocol is good for.
-/

set_option autoImplicit false

namespace Zangpu.Services.Chat

open Zangpu.Foundation
open Zangpu.Api
open Zangpu.Models
open Zangpu.Integrations.OpenWebUI
open Zangpu.Services.Quota
open Zangpu.Workers.Recovery

variable {deployment : Deployment} {candidates : List RecoveryCandidate}
  {candidate : RecoveryCandidate} {inquiry : Inquiry} {locals : Locals}

/-- The candidates of the pass were loaded. -/
def Loaded (candidates : List RecoveryCandidate) (standing : Standing) : Prop :=
  ∃ inquiry, standing = .recovery inquiry ∧ ∀ candidate ∈ candidates, candidate ∈ inquiry.candidates

/-- A pass over loaded candidates knows a remote record. -/
structure Informed (candidates : List RecoveryCandidate) (remote : CreditOperationSnapshot)
    (inquiry : Inquiry) : Prop where
  loaded : ∀ candidate ∈ candidates, candidate ∈ inquiry.candidates
  told : remote ∈ inquiry.told

theorem Informed.standing {remote : CreditOperationSnapshot}
    (informed : Informed candidates remote inquiry) : Loaded candidates (.recovery inquiry) :=
  ⟨inquiry, rfl, informed.loaded⟩

/-! ## One candidate -/

/-- Identity evidence that holds up is an identity. -/
theorem validateIdentity_obeys (remote : CreditOperationSnapshot) :
    Obeys deployment.settlement (validateIdentity candidate remote) locals (.recovery inquiry)
      fun outcome _ reached => reached = .recovery inquiry ∧
        (outcome = .ok () → validIdentity candidate remote = true) := by
  unfold validateIdentity
  split
  · rename_i valid
    exact Obeys.pure ⟨rfl, fun _ => valid⟩
  · exact ⟨rfl, fun equal => by cases equal⟩

/-- The record of a candidate needs evidence; its answer does not matter. -/
theorem finalizeRecovered_obeys {operationId : String} {usage : Option (Int × Int)}
    {fields : TerminalFields} (loaded : ∀ candidate ∈ candidates, candidate ∈ inquiry.candidates)
    (justifies : inquiry.Justifies operationId usage fields) :
    Obeys deployment.settlement (perform (.finalizeRecovered operationId usage fields)) locals
      (.recovery inquiry) fun _ _ reached => Loaded candidates reached := by
  apply Obeys.perform
  · exact justifies
  · intro answer _
    cases answer <;> exact ⟨inquiry, rfl, loaded⟩

section Candidate

variable (member : candidate ∈ candidates)

include member

theorem finalize_obeys {remote : CreditOperationSnapshot} (now : Int)
    (informed : Informed candidates remote inquiry)
    (valid : validIdentity candidate remote = true) (terminal : isTerminal remote.status = true) :
    Obeys deployment.settlement (Workers.Recovery.finalize candidate remote now) locals
      (.recovery inquiry) fun _ _ reached => Loaded candidates reached := by
  unfold Workers.Recovery.finalize
  split
  · exact informed.standing
  · split
    · exact informed.standing
    · exact finalizeRecovered_obeys informed.loaded ⟨candidate, informed.loaded _ member, rfl, now,
        Or.inl ⟨remote, informed.told, valid, terminal, rfl, rfl⟩⟩

omit member

/-- What a concluding call of a pass leaves. -/
def Concluded (candidates : List RecoveryCandidate) (candidate : RecoveryCandidate) :
    Except Failure CreditOperationSnapshot → Standing → Prop
  | .ok remote, standing => ∃ inquiry, standing = .recovery inquiry ∧
      Informed candidates remote inquiry ∧ validIdentity candidate remote = true
  | .error _, standing => Loaded candidates standing

/-- The reply to a concluding call is checked before it is used. -/
theorem concluded_of_reply {other : CreditOperationSnapshot} {rejects : Prop} [Decidable rejects]
    {message : String} (loaded : ∀ candidate ∈ candidates, candidate ∈ inquiry.candidates) :
    Obeys deployment.settlement
      (do
        validateIdentity candidate other
        if rejects then throw (.runtimeError message) else return other) locals
      (.recovery { inquiry with told := other :: inquiry.told })
      fun outcome _ reached => Concluded candidates candidate outcome reached := by
  have heard : Informed candidates other { inquiry with told := other :: inquiry.told } :=
    ⟨loaded, List.mem_cons_self⟩
  apply Obeys.bind
  apply (validateIdentity_obeys other).mono
  rintro outcome left reached ⟨rfl, valid⟩
  cases outcome with
  | error failure => exact heard.standing
  | ok =>
      dsimp only
      split
      · exact heard.standing
      · exact Obeys.pure ⟨_, rfl, heard, valid rfl⟩

include member

theorem concludeRemote_obeys {remote : CreditOperationSnapshot}
    (informed : Informed candidates remote inquiry)
    (valid : validIdentity candidate remote = true) (pending : remote.status = .pending) :
    Obeys deployment.settlement (concludeRemote candidate) locals (.recovery inquiry)
      fun outcome _ reached => Concluded candidates candidate outcome reached := by
  unfold concludeRemote
  split
  · rename_i recorded
    apply Obeys.bind
    apply Obeys.await
    · exact ⟨candidate, informed.loaded _ member, remote, informed.told, rfl, rfl, valid, pending,
        (if_pos recorded).symm⟩
    · intro answer _
      cases answer with
      | error failure => exact informed.standing
      | ok reply => exact concluded_of_reply informed.loaded
    · exact fun _ _ => informed.standing
  · rename_i unrecorded
    apply Obeys.bind
    apply Obeys.await
    · exact ⟨candidate, informed.loaded _ member, remote, informed.told, rfl, rfl, valid, pending,
        (if_neg unrecorded).symm⟩
    · intro answer _
      cases answer with
      | error failure => exact informed.standing
      | ok reply => exact concluded_of_reply informed.loaded
    · exact fun _ _ => informed.standing

theorem processKnown_obeys (now : Int) {remote : CreditOperationSnapshot}
    (informed : Informed candidates remote inquiry) :
    Obeys deployment.settlement (processKnown candidate now remote) locals (.recovery inquiry)
      fun _ _ reached => Loaded candidates reached := by
  have concludes {known : CreditOperationSnapshot} {heard : Inquiry} {left : Locals}
      (aware : Informed candidates known heard) (valid : validIdentity candidate known = true) :
      Obeys deployment.settlement
        (if !isTerminal known.status then return ()
          else Workers.Recovery.finalize candidate known now) left (.recovery heard)
        fun _ _ reached => Loaded candidates reached := by
    split
    · exact Obeys.pure aware.standing
    · rename_i terminal
      exact finalize_obeys member now aware valid (by simpa using terminal)
  apply Obeys.bind
  apply (validateIdentity_obeys remote).mono
  rintro outcome left reached ⟨rfl, valid⟩
  cases outcome with
  | error failure => exact informed.standing
  | ok =>
      dsimp only
      split
      · exact Obeys.pure informed.standing
      · split
        · rename_i pending
          apply Obeys.bind
          apply (concludeRemote_obeys member informed (valid rfl) pending).mono
          intro outcome last reached concluded
          cases outcome with
          | error failure => exact concluded
          | ok known =>
              obtain ⟨heard, rfl, aware, sound⟩ := concluded
              exact concludes aware sound
        · exact concludes informed (valid rfl)

/-- A candidate the credit service does not know is finalized without evidence of
credit. -/
theorem finalizeWithoutCredit_obeys (now : Int)
    (loaded : ∀ candidate ∈ candidates, candidate ∈ inquiry.candidates)
    (unknown : candidate.operationId ∈ inquiry.unknown) (unsettled : candidate.settlementId = none)
    (unrecorded : candidate.providerUsageRecorded = false) :
    Obeys deployment.settlement (finalizeWithoutCredit candidate now) locals (.recovery inquiry)
      fun _ _ reached => Loaded candidates reached :=
  finalizeRecovered_obeys loaded ⟨candidate, loaded _ member, rfl, now,
    Or.inr ⟨unknown, unsettled, unrecorded, rfl, rfl⟩⟩

/-- One candidate: its record rests on what the credit service was asked. -/
theorem process_obeys (now : Int)
    (loaded : ∀ candidate ∈ candidates, candidate ∈ inquiry.candidates) :
    Obeys deployment.settlement (process candidate now) locals (.recovery inquiry)
      fun _ _ reached => Loaded candidates reached := by
  have still : Loaded candidates (.recovery inquiry) := ⟨inquiry, rfl, loaded⟩
  apply Obeys.bind
  apply Obeys.tryCatch
  apply Obeys.bind
  apply Obeys.await
  · exact ⟨candidate, loaded _ member, rfl, rfl⟩
  · intro answer _
    cases answer with
    | ok status => exact processKnown_obeys member now ⟨loaded, List.mem_cons_self⟩
    | error failure =>
        dsimp only
        split
        · rename_i without
          cases failure with
          | openWebUI error =>
              simp only [isWithoutCredit, Bool.and_eq_true, decide_eq_true_eq,
                Option.isNone_iff_eq_none, Bool.not_eq_true'] at without
              obtain ⟨⟨code, unsettled⟩, unrecorded⟩ := without
              have heard : deployment.settlement.afterCall (.recovery inquiry)
                  (.creditStatus candidate.operationId candidate.serviceUserId)
                  (.error (.openWebUI error)) =
                    .recovery (inquiry.misses candidate.operationId) :=
                congrArg Standing.recovery (if_pos code)
              rw [heard]
              have known : ∀ other ∈ candidates,
                other ∈ (inquiry.misses candidate.operationId).candidates := loaded
              apply Obeys.bind
              apply (finalizeWithoutCredit_obeys member now known List.mem_cons_self unsettled
                unrecorded).mono
              intro outcome last reached done
              cases outcome <;> exact done
          | _ => cases without
        · -- any other failure passes to the caller
          cases failure with
          | openWebUI error =>
              by_cases code : error.code = notFoundCode
              · exact ⟨_, congrArg Standing.recovery (if_pos code), loaded⟩
              · exact ⟨_, congrArg Standing.recovery (if_neg code), loaded⟩
          | _ => exact still
  · intro failure interrupts
    dsimp only
    split
    · rename_i without
      cases failure <;> first | cases without | cases interrupts
    · exact still

end Candidate

/-! ## Whole passes -/

theorem processAll_obeys (now : Int) (rest : List RecoveryCandidate)
    (among : ∀ candidate ∈ rest, candidate ∈ candidates) {standing : Standing}
    (loaded : Loaded candidates standing) :
    Obeys deployment.settlement (processAll now rest) locals standing
      fun _ _ reached => Loaded candidates reached := by
  induction rest generalizing locals standing with
  | nil => exact Obeys.pure loaded
  | cons candidate rest inductionHypothesis =>
      have following {left : Locals} {reached : Standing} (still : Loaded candidates reached) :
          Obeys deployment.settlement (processAll now rest) left reached
            fun _ _ last => Loaded candidates last :=
        inductionHypothesis (fun other member => among other (List.mem_cons_of_mem _ member)) still
      obtain ⟨inquiry, rfl, all⟩ := loaded
      unfold processAll
      apply Obeys.bind
      apply Obeys.tryCatch
      apply (process_obeys (among candidate List.mem_cons_self) now all).mono
      intro outcome left reached still
      cases outcome with
      | ok => exact following still
      | error failure =>
          dsimp only
          split
          · exact following still
          · exact still

/-- `run_once` keeps the settlement protocol. -/
theorem runOnce_settles (now : Int) :
    Obeys deployment.settlement (runOnce now) locals (.recovery .start) fun _ _ _ => True := by
  unfold runOnce
  split
  · trivial
  · apply Obeys.bind
    apply Obeys.perform
    · trivial
    · intro answer _
      cases answer with
      | error failure => trivial
      | ok candidates =>
          apply Obeys.bind
          have loaded : Loaded candidates (deployment.settlement.afterCall (.recovery .start)
              (.loadCandidates now) (.ok candidates)) :=
            ⟨_, rfl, fun _ member => List.mem_append_left _ member⟩
          apply (processAll_obeys now candidates (fun _ member => member) loaded).mono
          intro outcome left reached _
          cases outcome <;> trivial

/-! ## Every process of every run -/

/-- Every program keeps the settlement protocol of its role. -/
theorem program_settles (deployment : Deployment) (role : Role) :
    Follows deployment.settlement (deployment.program role) (Standing.start role)
      fun _ _ => True := by
  cases role with
  | execute chat => exact Follows.bind execute_settles
  | stream chat => exact Follows.bind serveStream_settles
  | recovery now => exact Follows.bind (runOnce_settles now)

end Zangpu.Services.Chat
