import Zangpu.Services.Chat.Forwarding

/-!
The service user in the credit replies of a live request.

Owns: the replies that are valid but for their user, and name the user of the policy
as the credit service reads it; and what a request calls next after such a reply.

Does not own: the replies to the recovery worker.
-/

set_option autoImplicit false

namespace Zangpu.Services.Chat

open Zangpu.Foundation
open Zangpu.Api
open Zangpu.Models
open Zangpu.Integrations.OpenWebUI

/-- A credit reply after the given history, for a policy whose user is the text: it
names the user `value`, and nothing else in it can fail its check. -/
structure EchoedReply (chat : ChatRequest) (text : String) (value : Nat) (check : Check)
    (earlier : List (Event backend)) (call : Call) (reply : call.Answer)
    (snapshot : CreditOperationSnapshot) : Prop where
  user : (Dialogue.learnt chat earlier).policy.map CallerPolicy.serviceUserId = some text
  echoed : snapshot.serviceUserId = Uuid.str value
  valid : (Dialogue.learnt chat earlier).checked chat call (.ok reply) =
    some (check, snapshot, true)

/-- Events that neither call anything nor bring a credit reply. -/
def isBystander : Event backend → Bool
  | .sent _ => false
  | .answered call _ => !call.isCredit
  | .lost _ | .emitted _ => true

theorem verdict_after_bystander {event : Event backend} (bystander : isBystander event = true)
    (chat : ChatRequest) (dialogue : Dialogue) :
    (dialogue.after chat event).verdict = dialogue.verdict := by
  cases event with
  | sent call => cases bystander
  | lost | emitted => rfl
  | answered call answer => cases call <;> first | (cases answer <;> rfl) | cases bystander

theorem verdict_after_bystanders {chat : ChatRequest} {between earlier : List (Event backend)}
    (bystanders : ∀ event ∈ between, isBystander event = true) :
    (Dialogue.learnt chat (between ++ earlier)).verdict =
      (Dialogue.learnt chat earlier).verdict := by
  induction between with
  | nil => rfl
  | cons event between inductionHypothesis =>
      rw [← inductionHypothesis fun other member => bystanders other (List.mem_cons_of_mem _ member)]
      exact verdict_after_bystander (bystanders event List.mem_cons_self) _ _

section Echoed

variable {chat : ChatRequest} {text : String} {value : Nat} {check : Check}
  {earlier : List (Event backend)} {call : Call} {reply : call.Answer}
  {snapshot : CreditOperationSnapshot}

/-- Such a reply passes its check when the text is printed as it was parsed. -/
theorem EchoedReply.verdict
    (echoed : EchoedReply chat text value check earlier call reply snapshot) :
    (Dialogue.learnt chat (.answered call (.ok reply) :: earlier)).verdict =
      some (check, decide (Uuid.str value = text)) := by
  show (Dialogue.learnt chat earlier).judged chat call (.ok reply) = _
  unfold Dialogue.judged
  rw [echoed.valid]
  dsimp only
  unfold Dialogue.sameUser
  rw [echoed.user, echoed.echoed, Bool.true_and]
  exact congrArg (fun passed => some (check, passed)) (decide_eq_decide.mpr
    ⟨fun same => (Option.some.inj same).symm, fun same => congrArg some same.symm⟩)

/-- After a valid reply that names the user, the next call confirms it exactly when
the user of the policy is spelled canonically. -/
theorem confirmed_iff_canonical {deployment : Deployment} {world : World}
    {condition : Condition backend Role Unit World} {system : ChatSystem} {process : ChatProcess}
    {later between : List (Event backend)} {next : Call}
    (accepted : Uuid.parse text = some value)
    (run : Reaches deployment.behaviour condition ⟨world, [], []⟩ system)
    (member : process ∈ system.processes) (live : chat ∈ process.role.chat?)
    (echoed : EchoedReply chat text value check earlier call reply snapshot)
    (history : process.history =
      later ++ .sent next :: (between ++ .answered call (.ok reply) :: earlier))
    (bystanders : ∀ event ∈ between, isBystander event = true) :
    check.isConfirmedBy next = true ↔ Uuid.isCanonical text = true := by
  have lawful := (conversation_disciplined run process member).lawful
  rw [start_of_live live, history] at lawful
  have permitted := lawful.earlier.1
  rw [phase_live] at permitted
  have follows : (Dialogue.learnt chat
      (between ++ .answered call (.ok reply) :: earlier)).follows next := permitted.1
  unfold Dialogue.follows at follows
  rw [verdict_after_bystanders bystanders, echoed.verdict] at follows
  dsimp only at follows
  rw [follows, decide_eq_true_iff, Uuid.str_parse_iff accepted]

end Echoed

end Zangpu.Services.Chat
