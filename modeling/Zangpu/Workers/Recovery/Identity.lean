import Zangpu.Services.Chat.Identity

/-!
The service user in the checks of live requests and of the recovery worker.

Owns: credit replies that agree with a recovery candidate in everything but the
spelling of its user; that the recovery of a candidate never finds its identity in
conflict with them exactly when the user is spelled canonically; and the same of the
checks of live requests.

Does not own: replies that name another user.
-/

set_option autoImplicit false

namespace Zangpu.Workers.Recovery

open Zangpu.Foundation
open Zangpu.Api
open Zangpu.Models
open Zangpu.Integrations.OpenWebUI
open Zangpu.Services.Chat

/-- What `_validate_identity` raises. -/
def identityConflict : Failure := .runtimeError "recovery identity evidence conflicts"

/-- The snapshot a credit call is answered with. -/
def snapshot? : (call : Call) → call.Answer → Option CreditOperationSnapshot
  | .reserveCredit _ _ _ _, snapshot | .settleCredit _ _ _ _, snapshot
  | .cancelCredit _ _, snapshot | .creditStatus _ _, snapshot => some snapshot
  | _, _ => none

/-- The reply names the user `value`, and agrees with the candidate otherwise. -/
structure Agrees (candidate : RecoveryCandidate) (value : Nat)
    (remote : CreditOperationSnapshot) : Prop where
  echoed : remote.serviceUserId = Uuid.str value
  otherwise : validIdentity candidate
    { remote with serviceUserId := candidate.serviceUserId } = true

/-- Any calls, with credit replies that agree with the candidate. -/
def agreement (candidate : RecoveryCandidate) (value : Nat) : Discipline backend Unit where
  after _ _ := ()
  permits _ _ := True
  answerable call answer :=
    match answer with
    | .ok reply => ∀ remote ∈ snapshot? call reply, Agrees candidate value remote
    | .error failure => failure ≠ identityConflict
  interrupts failure := failure.isInterrupt = true

/-- The routine does not raise an identity conflict. -/
abbrev Undisputed {Result : Type} (candidate : RecoveryCandidate) (value : Nat)
    (routine : Action Result) : Prop :=
  Quiet (agreement candidate value) (fun _ => True) routine fun failure =>
    failure ≠ identityConflict

section Undisputed

variable {candidate : RecoveryCandidate} {value : Nat}

/-- The identity of an agreeing reply is valid when its user is spelled as the
candidate's. -/
theorem validIdentity_of_agrees {remote : CreditOperationSnapshot}
    (agrees : Agrees candidate value remote) :
    validIdentity candidate remote = decide (Uuid.str value = candidate.serviceUserId) := by
  by_cases same : Uuid.str value = candidate.serviceUserId
  · have unchanged : { remote with serviceUserId := candidate.serviceUserId } = remote := by
      rw [← same, ← agrees.echoed]
    rw [decide_eq_true same, ← unchanged]
    exact agrees.otherwise
  · rw [decide_eq_false same]
    simp [validIdentity, agrees.echoed, same]

theorem undisputed_interrupt {failure : Failure} (interrupts : failure.isInterrupt = true) :
    failure ≠ identityConflict := by
  rintro rfl
  cases interrupts

theorem perform_undisputed (call : Call) : Undisputed candidate value (perform call) := by
  intro locals phase _
  apply Obeys.perform trivial
  intro answer answerable
  refine ⟨rfl, rfl, ?_⟩
  rintro failure rfl
  exact answerable

/-- What is done with a reply may rely on its agreement. -/
theorem await_undisputed {Result : Type} {call : Call} {rest : call.Answer → Action Result}
    (continues : ∀ reply, (∀ remote ∈ snapshot? call reply, Agrees candidate value remote) →
      Undisputed candidate value (rest reply)) :
    Undisputed candidate value (await call >>= rest) := by
  intro locals phase resting
  apply Obeys.bind
  apply Obeys.await trivial
  · intro answer answerable
    cases answer with
    | ok reply => exact continues reply answerable locals phase resting
    | error failure =>
        refine ⟨rfl, rfl, ?_⟩
        rintro other equal
        cases equal
        exact answerable
  · intro failure interrupts
    refine ⟨rfl, rfl, ?_⟩
    rintro other equal
    cases equal
    exact undisputed_interrupt interrupts

theorem finalize_undisputed (remote : CreditOperationSnapshot) (now : Int) :
    Undisputed candidate value (finalize candidate remote now) := by
  unfold finalize
  split
  · exact Quiet.throw (by simp [identityConflict])
  · split
    · exact Quiet.throw (by simp [identityConflict])
    · exact perform_undisputed _

section Canonical

variable (canonical : Uuid.str value = candidate.serviceUserId)

include canonical

theorem validateIdentity_undisputed {remote : CreditOperationSnapshot}
    (agrees : Agrees candidate value remote) :
    Undisputed candidate value (validateIdentity candidate remote) := by
  unfold validateIdentity
  rw [validIdentity_of_agrees agrees, decide_eq_true canonical]
  exact Quiet.pure _

theorem concludeRemote_undisputed : Undisputed candidate value (concludeRemote candidate) := by
  unfold concludeRemote
  split
  · apply await_undisputed
    intro remote agrees
    apply Quiet.bind (validateIdentity_undisputed canonical (agrees remote rfl))
    intro _
    split
    · exact Quiet.throw (by simp [identityConflict])
    · exact Quiet.pure _
  · apply await_undisputed
    intro remote agrees
    apply Quiet.bind (validateIdentity_undisputed canonical (agrees remote rfl))
    intro _
    split
    · exact Quiet.throw (by simp [identityConflict])
    · exact Quiet.pure _

theorem processKnown_undisputed (now : Int) {remote : CreditOperationSnapshot}
    (agrees : Agrees candidate value remote) :
    Undisputed candidate value (processKnown candidate now remote) := by
  have concludes : ∀ last : CreditOperationSnapshot, Undisputed candidate value
      (if !isTerminal last.status then return () else finalize candidate last now) := by
    intro last
    split
    · exact Quiet.pure _
    · exact finalize_undisputed last now
  apply Quiet.bind (validateIdentity_undisputed canonical agrees)
  intro _
  split
  · exact Quiet.pure _
  · dsimp only
    split
    · exact Quiet.bind (concludeRemote_undisputed canonical) concludes
    · exact concludes remote

/-- The recovery of a candidate whose user is spelled canonically never finds its
identity in conflict. -/
theorem process_undisputed (now : Int) : Undisputed candidate value (process candidate now) := by
  intro locals phase resting
  have asked : Obeys (agreement candidate value)
      (do
        let status ← await (.creditStatus candidate.operationId candidate.serviceUserId)
        return some status : Action (Option CreditOperationSnapshot)) locals phase
      fun outcome left reached => left = locals ∧
        match outcome with
        | .ok remote => ∃ status, remote = some status ∧ Agrees candidate value status
        | .error failure => failure ≠ identityConflict := by
    apply Obeys.bind
    apply Obeys.await trivial
    · intro answer answerable
      cases answer with
      | ok status => exact ⟨rfl, status, rfl, answerable status rfl⟩
      | error failure => exact ⟨rfl, answerable⟩
    · exact fun failure interrupts => ⟨rfl, undisputed_interrupt interrupts⟩
  apply Obeys.bind
  apply Obeys.tryCatch
  apply asked.mono
  rintro outcome left reached ⟨rfl, answered⟩
  cases outcome with
  | ok remote =>
      obtain ⟨status, rfl, agrees⟩ := answered
      exact processKnown_undisputed canonical now agrees left phase resting
  | error failure =>
      dsimp only
      split
      · apply Obeys.bind
        apply (perform_undisputed _ left reached trivial).mono
        rintro outcome last after ⟨_, same, raises⟩
        cases outcome with
        | ok => exact ⟨rfl, same, fun _ equal => by cases equal⟩
        | error failure => exact ⟨rfl, same, raises⟩
      · refine Obeys.throw ⟨rfl, rfl, ?_⟩
        rintro other equal
        cases equal
        exact answered

end Canonical

/-! ## Other spellings -/

/-- A candidate for the user with the given text, without evidence of its own. -/
def bareCandidate (text : String) : RecoveryCandidate where
  operationId := "operation"
  serviceUserId := text
  modelId := "model"
  settlementId := none
  usageOperationId := none
  providerUsageRecorded := false
  promptTokens := 0
  completionTokens := 0
  startedAt := 0

/-- The pending record of its operation. -/
def bareRemote (value : Nat) : CreditOperationSnapshot where
  operationId := "operation"
  settlementId := "settlement"
  serviceUserId := Uuid.str value
  modelId := "model"
  provider := some "bifrost"
  status := .pending
  promptTokens := 0
  completionTokens := 0
  totalTokens := 0
  chargedMicro := 0
  usageOperationId := some (usageOperationIdOf "operation")

theorem bareRemote_agrees (text : String) (value : Nat) :
    Agrees (bareCandidate text) value (bareRemote value) :=
  ⟨rfl, by simp [validIdentity, bareCandidate, bareRemote]⟩

/-- The recovery of a candidate with another spelling finds its identity in conflict
with a reply that agrees otherwise. -/
theorem process_disputed {remote : CreditOperationSnapshot} (now : Int)
    (agrees : Agrees candidate value remote)
    (differs : Uuid.str value ≠ candidate.serviceUserId) :
    ¬Undisputed candidate value (process candidate now) := by
  intro undisputed
  have answerable : (agreement candidate value).answerable
      (.creditStatus candidate.operationId candidate.serviceUserId) (.ok remote) := by
    rintro other ⟨⟩
    exact agrees
  have replied : Obeys (agreement candidate value) (processKnown candidate now remote) .initial ()
      fun outcome left reached => reached = () ∧ left.decoder = Locals.initial.decoder ∧
        ∀ failure, outcome = .error failure → failure ≠ identityConflict :=
    (undisputed .initial () trivial).2.1 (.ok remote) answerable
  unfold processKnown validateIdentity at replied
  rw [validIdentity_of_agrees agrees, decide_eq_false differs] at replied
  exact replied.2.2 _ rfl rfl

end Undisputed

/-! ## Every check -/

/-- The checks of a live request pass a reply that is valid but for its user, and the
recovery of an agreeing candidate finds no conflict, exactly when the accepted text of
the user is canonical. -/
theorem identity_checks_pass_iff_canonical {text : String} {value : Nat}
    (accepted : Uuid.parse text = some value) :
    (∀ (deployment : Deployment) (condition : Condition backend Role Unit World) (world : World)
      (system : ChatSystem) (process : ChatProcess) (chat : ChatRequest) (check : Check)
      (earlier between later : List (Event backend)) (call next : Call) (reply : call.Answer)
      (snapshot : CreditOperationSnapshot),
      Reaches deployment.behaviour condition ⟨world, [], []⟩ system →
      process ∈ system.processes → chat ∈ process.role.chat? →
      EchoedReply chat text value check earlier call reply snapshot →
      process.history = later ++ .sent next :: (between ++ .answered call (.ok reply) :: earlier) →
      (∀ event ∈ between, isBystander event = true) →
      (check.isConfirmedBy next = true ↔ Uuid.isCanonical text = true)) ∧
    ∀ (candidate : RecoveryCandidate) (now : Int), candidate.serviceUserId = text →
      (∃ remote, Agrees candidate value remote) →
      (Undisputed candidate value (process candidate now) ↔ Uuid.isCanonical text = true) := by
  constructor
  · intro deployment condition world system process chat check earlier between later call next
      reply snapshot run member live echoed history bystanders
    exact confirmed_iff_canonical accepted run member live echoed history bystanders
  · rintro candidate now rfl ⟨remote, agrees⟩
    rw [← Uuid.str_parse_iff accepted]
    constructor
    · intro undisputed
      by_contra differs
      exact process_disputed now agrees differs undisputed
    · intro canonical
      exact process_undisputed canonical now

/-! ### Two users -/

/-- The history ends with a call at once after a valid credit reply that names the
user. -/
def followsEcho (chat : ChatRequest) (text : String) (value : Nat) : List (Event backend) → Bool
  | .sent _ :: .answered call (.ok reply) :: earlier =>
      (Dialogue.learnt chat earlier).policy.map CallerPolicy.serviceUserId = some text &&
        match (Dialogue.learnt chat earlier).checked chat call (.ok reply) with
        | some (_, snapshot, valid) => valid && snapshot.serviceUserId = Uuid.str value
        | none => false
  | _ => false

theorem exists_echoed {chat : ChatRequest} {text : String} {value : Nat}
    {history : List (Event backend)}
    (followed : history.tails.any (followsEcho chat text value) = true) :
    ∃ (check : Check) (earlier later : List (Event backend)) (call next : Call)
      (reply : call.Answer) (snapshot : CreditOperationSnapshot),
      EchoedReply chat text value check earlier call reply snapshot ∧
      history = later ++ .sent next :: ([] ++ .answered call (.ok reply) :: earlier) := by
  obtain ⟨recent, member, echoes⟩ := List.any_eq_true.mp followed
  obtain ⟨later, split⟩ := (List.mem_tails _ _).mp member
  unfold followsEcho at echoes
  split at echoes
  · rename_i next call reply earlier
    simp only [Bool.and_eq_true, decide_eq_true_eq] at echoes
    obtain ⟨user, echoes⟩ := echoes
    split at echoes
    · rename_i check snapshot valid checked
      simp only [Bool.and_eq_true, decide_eq_true_eq] at echoes
      obtain ⟨rfl, echoed⟩ := echoes
      exact ⟨check, earlier, later, call, next, reply, snapshot, ⟨user, echoed, checked⟩, split.symm⟩
    · cases echoes
  · cases echoes

/-- The identifier of the sample user. -/
def sampleUserValue : Nat := 0x12345678123456781234567812345678

theorem identity_checks_pass_iff_canonical_sample :
    (∃ (system : ChatSystem) (process : ChatProcess) (check : Check) (earlier : List (Event backend))
      (call next : Call) (reply : call.Answer) (snapshot : CreditOperationSnapshot),
      Reaches sampleDeployment.behaviour (fun _ _ => True) ⟨sampleWorld sampleUser, [], []⟩ system ∧
        process ∈ system.processes ∧ .sent next ∈ process.history ∧
        EchoedReply uncappedChat sampleUser sampleUserValue check earlier call reply snapshot ∧
        check.isConfirmedBy next = true) ∧
      Undisputed (bareCandidate sampleUser) sampleUserValue
        (process (bareCandidate sampleUser) 0) := by
  have accepted : Uuid.parse sampleUser = some sampleUserValue := by decide +kernel
  have canonical : Uuid.isCanonical sampleUser = true := by decide +kernel
  have outcome : (sampleRun sampleUser uncappedChat 40).2.history.tails.any
        (followsEcho uncappedChat sampleUser sampleUserValue) = true ∧
      uncappedChat ∈ (sampleRun sampleUser uncappedChat 40).2.role.chat? := by decide +kernel
  obtain ⟨followed, role⟩ := outcome
  obtain ⟨lives, recovers⟩ := identity_checks_pass_iff_canonical accepted
  obtain ⟨check, earlier, later, call, next, reply, snapshot, echoed, history⟩ :=
    exists_echoed followed
  have run := sampleRun_reaches sampleUser uncappedChat 40
  refine ⟨⟨_, _, check, earlier, call, next, reply, snapshot, run, List.mem_singleton.mpr rfl,
    ?_, echoed, ?_⟩, ?_⟩
  · rw [history]
    exact List.mem_append_right _ List.mem_cons_self
  · exact (lives _ _ _ _ _ _ _ _ _ _ _ _ _ _ run (List.mem_singleton.mpr rfl) role echoed history
      (fun _ absent => by cases absent)).mpr canonical
  · exact (recovers (bareCandidate sampleUser) 0 rfl
      ⟨bareRemote sampleUserValue, bareRemote_agrees _ _⟩).mpr canonical

/-- A user in upper case. -/
def upperUser : String := "ABCDEFAB-CDEF-4BCD-8BCD-ABCDEFABCDEF"

def upperUserValue : Nat := 0xABCDEFABCDEF4BCD8BCDABCDEFABCDEF

/-- The event opens a credit operation for the user. -/
def opensCreditFor (value : Nat) : Event backend → Bool
  | .answered (.reserveCredit _ _ _ _) (.ok snapshot) =>
      snapshot.status = .pending && snapshot.serviceUserId = Uuid.str value
  | _ => false

def recordsCredit : Event backend → Bool
  | .sent (.recordCredit _ _ _ _) => true
  | _ => false

def hasEnded (process : ChatProcess) : Bool :=
  match process.code with
  | .done _ => true
  | _ => false

/-- An accepted user in upper case: a request ends without a record of the credit
opened for it, and recovery finds a conflict. -/
theorem identity_checks_miss_upper_case :
    ¬((∀ (text : String) (value : Nat) (system : ChatSystem) (process : ChatProcess),
        Uuid.parse text = some value →
        Reaches sampleDeployment.behaviour (fun _ _ => True) ⟨sampleWorld text, [], []⟩ system →
        process ∈ system.processes → hasEnded process = true →
        process.history.any (opensCreditFor value) = true →
        process.history.any recordsCredit = true) ∨
      ∀ (text : String) (value : Nat) (candidate : RecoveryCandidate) (now : Int),
        Uuid.parse text = some value → candidate.serviceUserId = text →
        Undisputed candidate value (process candidate now)) := by
  have accepted : Uuid.parse upperUser = some upperUserValue := by decide +kernel
  rintro (lives | recovers)
  · have outcome : hasEnded (sampleRun upperUser uncappedChat 40).2 = true ∧
        (sampleRun upperUser uncappedChat 40).2.history.any
          (opensCreditFor upperUserValue) = true ∧
        (sampleRun upperUser uncappedChat 40).2.history.any recordsCredit = false := by
      decide +kernel
    obtain ⟨ended, opened, unrecorded⟩ := outcome
    have recorded := lives upperUser upperUserValue _ _ accepted
      (sampleRun_reaches upperUser uncappedChat 40) (List.mem_singleton.mpr rfl) ended opened
    rw [unrecorded] at recorded
    cases recorded
  · have differs : Uuid.str upperUserValue ≠ upperUser := by decide +kernel
    exact process_disputed 0 (bareRemote_agrees upperUser upperUserValue) differs
      (recovers upperUser upperUserValue (bareCandidate upperUser) 0 accepted rfl)

end Zangpu.Workers.Recovery
