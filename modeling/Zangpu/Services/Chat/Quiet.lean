import Zangpu.Services.Chat.Environment

/-!
Routines that a discipline takes no notice of.

Owns: the neutral calls of a live request, which touch neither the ledger nor the
credit service nor the provider; quiet routines, which leave the phase of a
discipline and the decoder alone; their closure under sequencing and handlers; and
the quietness of admission, heartbeats and releases.

Does not own: any particular discipline.
-/

set_option autoImplicit false

namespace Zangpu.Services.Chat

open Zangpu.Foundation
open Zangpu.Api
open Zangpu.Models
open Zangpu.Services.Quota

/-! ## Neutral calls -/

/-- Calls that only Redis, a timer or the close of the stream answers. -/
def Call.isNeutral : Call → Bool
  | claimNonce _ _ _ | admitQps _ _ _ | admitOrEnqueue _ | cancelQueued _ _ _
  | heartbeatPool _ _ | releasePool _ _ | acquireConcurrency _ _ _ | heartbeatConcurrency _ _
  | releaseConcurrency _ _ | queueSleep _ | closeStream => true
  | _ => false

theorem transact_of_isPassive {deployment : Deployment} {call : Call}
    (passive : call.isPassive = true) (ids : RowIds) (world : World) :
    call.transact deployment ids world = none := by
  cases call <;> first | rfl | cases passive

theorem isCredit_of_isPassive {call : Call} (passive : call.isPassive = true) :
    call.isCredit = false := by
  cases call <;> first | rfl | cases passive

/-- What a passive call raises is an exception of its client. -/
theorem raises_of_effects {deployment : Deployment} {before after : World} {call : Call}
    {failure : Failure} (passive : call.isPassive = true)
    (effects : Effects deployment before call (.error failure) after) :
    call.raises failure = true := by
  generalize answerEq : (Except.error failure : Except Failure call.Answer) = answer at effects
  cases effects with
  | passive => cases answerEq
  | passiveFailure _ raises =>
      cases answerEq
      exact raises
  | committed ids result => cases answerEq
  | refused ids result | committedUnseen ids result =>
      rw [transact_of_isPassive passive] at result
      cases result
  | unreachable ids transaction =>
      rw [transact_of_isPassive passive] at transaction
      cases transaction
  | creditFailure isCredit =>
      rw [isCredit_of_isPassive passive] at isCredit
      cases isCredit
  | policy | policyFailure | reserveCredit | settleCredit | cancelCredit | creditStatus =>
      cases passive

section Overlooking

variable {Phase : Type}

/-- While it rests, the discipline permits neutral calls and takes no notice of
them, and what they raise is an exception of their client. -/
structure Overlooks (discipline : Discipline backend Phase) (rests : Phase → Prop) : Prop where
  permits : ∀ call phase, call.isNeutral = true → rests phase →
    discipline.permits phase (.sent call)
  sent : ∀ call phase, call.isNeutral = true → rests phase →
    discipline.after phase (.sent call) = phase
  answered : ∀ call phase answer, call.isNeutral = true → rests phase →
    discipline.after phase (.answered call answer) = phase
  lost : ∀ call phase, rests phase → discipline.after phase (.lost call) = phase
  raises : ∀ call failure, call.isPassive = true → discipline.answerable call (.error failure) →
    call.raises failure = true
  interrupts : ∀ failure, discipline.interrupts failure → failure.isInterrupt = true

variable {discipline : Discipline backend Phase} {rests : Phase → Prop}

/-- A routine that keeps the phase and the decoder, from any of them, and raises
only failures of the given kind. -/
def Quiet (discipline : Discipline backend Phase) (rests : Phase → Prop) {Result : Type}
    (routine : Action Result) (raises : Failure → Prop) : Prop :=
  ∀ locals phase, rests phase → Obeys discipline routine locals phase
    fun outcome left reached => reached = phase ∧ left.decoder = locals.decoder ∧
      ∀ failure, outcome = .error failure → raises failure

namespace Quiet

variable {First Second : Type} {raises : Failure → Prop}

theorem weaken {weaker : Failure → Prop} {routine : Action First}
    (quiet : Quiet discipline rests routine raises)
    (implies : ∀ failure, raises failure → weaker failure) : Quiet discipline rests routine weaker := by
  intro locals phase resting
  apply (quiet locals phase resting).mono
  intro outcome left reached holds
  exact ⟨holds.1, holds.2.1, fun failure equal => implies failure (holds.2.2 failure equal)⟩

theorem pure (value : First) : Quiet discipline rests (Pure.pure value : Action First) raises := by
  intro locals phase _
  apply Obeys.pure
  exact ⟨rfl, rfl, by intro failure equal; cases equal⟩

theorem throw {failure : Failure} (raised : raises failure) :
    Quiet discipline rests (MonadExcept.throw failure : Action First) raises := by
  intro locals phase resting
  apply Obeys.throw
  refine ⟨rfl, rfl, ?_⟩
  intro other equal
  cases equal
  exact raised

theorem bind {routine : Action First} {rest : First → Action Second}
    (quiet : Quiet discipline rests routine raises)
    (continues : ∀ value, Quiet discipline rests (rest value) raises) :
    Quiet discipline rests (routine >>= rest) raises := by
  intro locals phase resting
  apply Obeys.bind
  apply (quiet locals phase resting).mono
  rintro outcome left reached ⟨rfl, decoder, raised⟩
  cases outcome with
  | ok value =>
      apply (continues value left _ resting).mono
      rintro final last ended ⟨rfl, same, failing⟩
      exact ⟨rfl, same.trans decoder, failing⟩
  | error failure =>
      refine ⟨rfl, decoder, ?_⟩
      intro other equal
      cases equal
      exact raised failure rfl

/-- A handled routine; the handler only meets failures of the routine. -/
theorem tryCatch {inner : Failure → Prop} {routine : Action First}
    {handler : Failure → Action First} (quiet : Quiet discipline rests routine inner)
    (handles : ∀ failure, inner failure → Quiet discipline rests (handler failure) raises) :
    Quiet discipline rests (MonadExcept.tryCatch routine handler) raises := by
  intro locals phase resting
  apply Obeys.tryCatch
  apply (quiet locals phase resting).mono
  rintro outcome left reached ⟨rfl, decoder, raised⟩
  cases outcome with
  | ok value => exact ⟨rfl, decoder, by intro failure equal; cases equal⟩
  | error failure =>
      apply (handles failure (raised failure rfl) left _ resting).mono
      rintro final last ended ⟨rfl, same, failing⟩
      exact ⟨rfl, same.trans decoder, failing⟩

theorem exhausted : Quiet discipline rests (Routine.exhausted : Action First) raises :=
  fun _ _ _ => Obeys.exhausted

theorem observe (clock : Clock) : Quiet discipline rests (Routine.observe clock : Action Int) raises := by
  intro locals phase resting
  apply Obeys.observe
  intro clock
  exact ⟨rfl, rfl, by intro failure equal; cases equal⟩

theorem get : Quiet discipline rests (MonadState.get : Action Locals) raises := by
  intro locals phase resting
  apply Obeys.get
  exact ⟨rfl, rfl, by intro failure equal; cases equal⟩

theorem update {change : Locals → Locals}
    (keeps : ∀ locals, (change locals).decoder = locals.decoder) :
    Quiet discipline rests (modify change : Action Unit) raises := by
  intro locals phase resting
  apply Obeys.modify
  exact ⟨rfl, keeps locals, by intro failure equal; cases equal⟩

theorem await (overlooks : Overlooks discipline rests) {call : Call}
    (neutral : call.isNeutral = true)
    (answered : ∀ failure, discipline.answerable call (.error failure) → raises failure)
    (interrupted : ∀ failure, failure.isInterrupt = true → raises failure) :
    Quiet discipline rests (Chat.await call) raises := by
  intro locals phase resting
  have sent := overlooks.sent call phase neutral resting
  apply Obeys.await (overlooks.permits call phase neutral resting)
  · intro answer answerable
    refine ⟨?_, rfl, ?_⟩
    · unfold Discipline.afterCall
      rw [sent]
      exact overlooks.answered call phase answer neutral resting
    · intro failure equal
      subst equal
      exact answered failure answerable
  · intro failure interrupts
    refine ⟨?_, rfl, ?_⟩
    · unfold Discipline.afterLoss
      rw [sent]
      exact overlooks.lost call phase resting
    · intro other equal
      cases equal
      exact interrupted failure (overlooks.interrupts failure interrupts)

/-- A neutral call whose failures do not matter. -/
theorem awaitAny (overlooks : Overlooks discipline rests) {call : Call}
    (neutral : call.isNeutral = true) :
    Quiet discipline rests (Chat.await call) fun _ => True :=
  Quiet.await overlooks neutral (fun _ _ => trivial) (fun _ _ => trivial)

/-- Exception handling around a routine that may raise anything. -/
theorem tryAny {routine : Action First} {handler : Failure → Action First}
    (quiet : Quiet discipline rests routine fun _ => True)
    (handles : ∀ failure, Quiet discipline rests (handler failure) raises) :
    Quiet discipline rests (MonadExcept.tryCatch routine handler) raises :=
  Quiet.tryCatch quiet fun failure _ => handles failure

/-- The rest runs on what a quiet part leaves, from the same phase. -/
theorem obeys_bind {routine : Action First} {rest : First → Action Second} {locals : Locals}
    {phase : Phase} {goal : Except Failure Second → Locals → Phase → Prop}
    (quiet : Quiet discipline rests routine raises) (resting : rests phase)
    (failed : ∀ failure left, goal (.error failure) left phase)
    (continues : ∀ value left, Obeys discipline (rest value) left phase goal) :
    Obeys discipline (routine >>= rest) locals phase goal := by
  apply Obeys.bind
  apply (quiet locals phase resting).mono
  rintro outcome left reached ⟨rfl, _⟩
  cases outcome with
  | ok value => exact continues value left
  | error failure => exact failed failure left

/-- A quiet routine keeps whatever rests. -/
theorem preserves {kept : Phase → Prop} {routine : Action First}
    (quiet : Quiet discipline rests routine raises) (resting : ∀ phase, kept phase → rests phase) :
    Preserves discipline kept routine := by
  intro locals phase holds
  apply (quiet locals phase (resting phase holds)).mono
  rintro outcome left reached ⟨rfl, _⟩
  exact holds

end Quiet

/-! ## Errors and headers -/

theorem updateHeaders_quiet (entries : Headers) (raises : Failure → Prop) :
    Quiet discipline rests (updateHeaders entries) raises :=
  Quiet.update fun _ => rfl

theorem raiseExternal_quiet {Result : Type} (code : ErrorCode) (operationId : Option String) :
    Quiet discipline rests (raiseExternal code operationId : Action Result) fun _ => True :=
  Quiet.bind Quiet.get fun _ => Quiet.throw trivial

theorem raiseQueueTimeout_quiet {Result : Type} :
    Quiet discipline rests (raiseQueueTimeout : Action Result) fun _ => True :=
  Quiet.bind (updateHeaders_quiet _ _) fun _ => raiseExternal_quiet _ _

/-! ## The lease -/

variable {service : ExternalChatService}

theorem armTimer_quiet (raises : Failure → Prop) :
    Quiet discipline rests (ConcurrencyLeaseGuard.armTimer service) raises :=
  Quiet.bind (Quiet.observe _) fun _ => Quiet.update fun _ => rfl

theorem secondsUntilHeartbeat_quiet (raises : Failure → Prop) :
    Quiet discipline rests ConcurrencyLeaseGuard.secondsUntilHeartbeat raises :=
  Quiet.bind (Quiet.observe _) fun _ => Quiet.bind Quiet.get fun _ => Quiet.pure _

variable (overlooks : Overlooks discipline rests)

include overlooks

/-- A Redis call raises what its client raises, or what is thrown in. -/
theorem await_redis_quiet {call : Call} (neutral : call.isNeutral = true)
    (passive : call.isPassive = true)
    (redis : ∀ failure, call.raises failure = failure.isRedis) :
    Quiet discipline rests (await call) fun failure => failure.isLocal = true := by
  apply Quiet.await overlooks neutral
  · intro failure answerable
    have raised := overlooks.raises _ _ passive answerable
    rw [redis] at raised
    simp [Failure.isLocal, raised]
  · intro failure interrupts
    simp [Failure.isLocal, interrupts]

theorem heartbeat_quiet (lease : ConcurrencyLeaseGuard) :
    Quiet discipline rests (lease.heartbeat service)
      fun failure => failure.isLocal = true := by
  unfold ConcurrencyLeaseGuard.heartbeat
  apply Quiet.bind (await_redis_quiet overlooks rfl rfl fun _ => rfl)
  intro renewed
  apply Quiet.bind (await_redis_quiet overlooks rfl rfl fun _ => rfl)
  intro modelRenewed
  split
  · exact Quiet.throw rfl
  · exact armTimer_quiet _

/-- Behind the wait for a call stands its answer, or the message alone. -/
def Replied (discipline : Discipline backend Phase) (call : Call) (phase : Phase) :
    Except Failure (Except Failure call.Answer) → Phase → Prop
  | .ok answer, reached =>
      discipline.answerable call answer ∧ reached = discipline.afterCall phase call answer
  | .error _, reached => reached = discipline.after phase (.sent call)

/-- A call under the lease: it is answered, or its answer is lost to a failure of the
lease or to an interrupt. -/
theorem run_obeys_local {lease : ConcurrencyLeaseGuard} {call : Call} {locals : Locals}
    {phase : Phase} {goal : Except Failure call.Answer → Locals → Phase → Prop}
    (permitted : discipline.permits phase (.sent call))
    (resting : rests (discipline.after phase (.sent call)))
    (answered : ∀ answer left, discipline.answerable call answer →
      left.decoder = locals.decoder →
        goal answer left (discipline.afterCall phase call answer))
    (failed : ∀ failure left, failure.isLocal = true → left.decoder = locals.decoder →
      goal (.error failure) left (discipline.after phase (.sent call))) :
    Obeys discipline (lease.run service call) locals phase goal := by
  have interrupted {failure : Failure} (interrupts : discipline.interrupts failure) :
      failure.isLocal = true := by
    simp [Failure.isLocal, overlooks.interrupts failure interrupts]
  unfold ConcurrencyLeaseGuard.run
  apply Obeys.bind
  refine Obeys.spawn permitted ?_
  apply Obeys.bind
  apply Obeys.tryCatch
  have waits (bound : Nat) : ∀ left : Locals, left.decoder = locals.decoder →
      Obeys discipline (lease.waitFor service call bound) left
        (discipline.after phase (.sent call)) fun outcome last reached =>
          last.decoder = locals.decoder ∧ Replied discipline call phase outcome reached ∧
            ∀ failure, outcome = .error failure → failure.isLocal = true := by
    induction bound with
    | zero => exact fun _ _ => Obeys.exhausted
    | succ bound inductionHypothesis =>
        intro left same
        unfold ConcurrencyLeaseGuard.waitFor
        apply Obeys.bind
        refine (secondsUntilHeartbeat_quiet (fun _ => False) left _ resting).mono ?_
        rintro outcome last reached ⟨rfl, kept, neverRaises⟩
        cases outcome with
        | error failure => exact absurd rfl (neverRaises failure)
        | ok timeout =>
            apply Obeys.bind
            apply Obeys.wait
            · exact fun answer answerable =>
                Obeys.pure ⟨kept.trans same, ⟨answerable, rfl⟩, by intro _ equal; cases equal⟩
            · apply Obeys.bind
              refine (heartbeat_quiet overlooks lease last _ resting).mono ?_
              rintro renewed final reached ⟨rfl, unchanged, raised⟩
              cases renewed with
              | error failure =>
                  refine ⟨unchanged.trans (kept.trans same), rfl, ?_⟩
                  intro other equal
                  cases equal
                  exact raised failure rfl
              | ok => exact inductionHypothesis final (unchanged.trans (kept.trans same))
            · intro failure interrupts
              refine ⟨kept.trans same, rfl, ?_⟩
              intro other equal
              cases equal
              exact interrupted interrupts
  refine (waits _ locals rfl).mono ?_
  rintro outcome left reached ⟨same, ended, raised⟩
  cases outcome with
  | ok answer =>
      obtain ⟨answerable, rfl⟩ := ended
      exact Obeys.reply (answered answer left answerable same)
  | error failure =>
      cases (show reached = discipline.after phase (.sent call) from ended)
      apply Obeys.bind
      apply Obeys.abandon
      · rw [overlooks.lost _ _ resting]
        exact Obeys.throw (failed failure left (raised failure rfl) same)
      · intro other interrupts
        rw [overlooks.lost _ _ resting]
        exact failed other left (interrupted interrupts) same

/-- A call under the lease, where the kind of its failures does not matter. -/
theorem run_obeys {lease : ConcurrencyLeaseGuard} {call : Call} {locals : Locals} {phase : Phase}
    {goal : Except Failure call.Answer → Locals → Phase → Prop}
    (permitted : discipline.permits phase (.sent call))
    (resting : rests (discipline.after phase (.sent call)))
    (answered : ∀ answer left, discipline.answerable call answer →
      left.decoder = locals.decoder →
        goal answer left (discipline.afterCall phase call answer))
    (failed : ∀ failure left, left.decoder = locals.decoder →
      goal (.error failure) left (discipline.after phase (.sent call))) :
    Obeys discipline (lease.run service call) locals phase goal :=
  run_obeys_local overlooks permitted resting answered fun failure left _ => failed failure left

/-! ## Model pool and releases -/

theorem askPool_quiet (arguments : PoolRequest) :
    Quiet discipline rests (askPool arguments) fun _ => True := by
  apply Quiet.bind (Quiet.awaitAny overlooks rfl)
  intro decision
  apply Quiet.bind
  · exact Quiet.update fun _ => rfl
  · exact fun _ => Quiet.bind (updateHeaders_quiet _ _) fun _ => Quiet.pure _

theorem waitInQueue_quiet (arguments : PoolRequest) (queueDeadline : Int) (bound : Nat) :
    Quiet discipline rests (waitInQueue service arguments queueDeadline bound)
      fun _ => True := by
  induction bound with
  | zero => exact Quiet.exhausted
  | succ bound inductionHypothesis =>
      unfold waitInQueue
      apply Quiet.bind (Quiet.observe _)
      intro now
      dsimp only
      split
      · exact raiseQueueTimeout_quiet
      · apply Quiet.bind (Quiet.awaitAny overlooks rfl)
        intro _
        apply Quiet.bind (Quiet.observe _)
        intro woken
        split
        · exact raiseQueueTimeout_quiet
        · apply Quiet.bind (askPool_quiet overlooks _)
          intro decision
          split
          · exact Quiet.pure _
          · split
            · exact raiseExternal_quiet _ _
            · exact inductionHypothesis

theorem leaveQueue_quiet (policy : ModelPoolPolicy) (apiClientId operationId : String)
    (failure : Failure) :
    Quiet discipline rests (leaveQueue policy apiClientId operationId failure) fun _ => True := by
  have cancel : Quiet discipline rests
      (do let _ ← await (.cancelQueued policy.poolId apiClientId operationId) : Action Unit)
      fun _ => True := Quiet.bind (Quiet.awaitAny overlooks rfl) fun _ => Quiet.pure _
  unfold leaveQueue
  dsimp only
  split
  · apply Quiet.bind
    · apply Quiet.tryCatch cancel
      intro suppressed _
      split
      · exact Quiet.pure _
      · exact Quiet.throw trivial
    · exact fun _ => Quiet.throw trivial
  · apply Quiet.bind Quiet.get
    intro locals
    split
    · exact Quiet.bind cancel fun _ => Quiet.throw trivial
    · exact Quiet.throw trivial

theorem acquireModelPool_quiet (modelId apiClientId operationId : String) :
    Quiet discipline rests (acquireModelPool service modelId apiClientId operationId)
      fun _ => True := by
  unfold acquireModelPool
  split
  · exact raiseExternal_quiet _ _
  · apply Quiet.bind (askPool_quiet overlooks _)
    intro decision
    split
    · exact Quiet.pure _
    · split
      · exact raiseExternal_quiet _ _
      · apply Quiet.bind (Quiet.observe _)
        intro now
        apply Quiet.bind
        · exact Quiet.tryCatch (waitInQueue_quiet overlooks _ _ _) fun failure _ =>
            leaveQueue_quiet overlooks _ _ _ failure
        · exact fun _ => Quiet.pure _

theorem releaseQuietly_quiet {call : Call} (neutral : call.isNeutral = true) :
    Quiet discipline rests (releaseQuietly call) fun _ => True := by
  apply Quiet.tryAny
  · exact Quiet.bind (Quiet.awaitAny overlooks neutral) fun _ => Quiet.pure _
  · intro failure
    split
    · exact Quiet.pure _
    · exact Quiet.throw trivial

theorem release_quiet (admission : ChatAdmission) :
    Quiet discipline rests admission.release fun _ => True := by
  apply Quiet.bind (releaseQuietly_quiet overlooks rfl)
  intro concurrencyReleased
  exact Quiet.bind (releaseQuietly_quiet overlooks rfl) fun _ => Quiet.pure _

theorem releaseOrRaise_quiet (admission : ChatAdmission) :
    Quiet discipline rests admission.releaseOrRaise fun _ => True := by
  apply Quiet.bind (release_quiet overlooks admission)
  intro releasedCleanly
  apply Quiet.bind Quiet.get
  intro locals
  split
  · exact Quiet.throw trivial
  · exact Quiet.pure _

/-! ## Admission -/

theorem acquireConcurrency_quiet (policy : CallerPolicy) (poolPolicy : ModelPoolPolicy)
    (apiClientId operationId : String) :
    Quiet discipline rests (acquireConcurrency policy poolPolicy apiClientId operationId)
      fun _ => True := by
  have releasePool : Quiet discipline rests
      (do let _ ← await (.releasePool poolPolicy.poolId operationId) : Action Unit)
      fun _ => True := Quiet.bind (Quiet.awaitAny overlooks rfl) fun _ => Quiet.pure _
  unfold acquireConcurrency
  apply Quiet.bind
  · apply Quiet.tryAny (Quiet.awaitAny overlooks rfl)
    intro failure
    exact Quiet.bind releasePool fun _ => Quiet.throw trivial
  · intro concurrency
    apply Quiet.bind (updateHeaders_quiet _ _)
    intro _
    split
    · exact Quiet.bind releasePool fun _ => raiseExternal_quiet _ _
    · exact Quiet.pure _

end Overlooking

end Zangpu.Services.Chat
