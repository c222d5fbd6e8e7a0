import Mathlib.Data.Finset.Card
import Mathlib.Data.Set.Insert
import Mathlib.Logic.Function.Basic

/-!
Ticket queues in front of a bounded set of leases.

Owns: the abstract queue, whose tickets are numbered; what a poll may answer and
do; changes that only let tickets and leases go; the log that remembers when each
ticket was issued; and the order, the positions and the fairness of polls along
any sequence of such steps.

Does not own: clocks, expiry times, queue limits and any stored representation.
-/

set_option autoImplicit false

namespace Zangpu.Foundation

variable {Member : Type}

/-- The tickets of a queue by number, and the members that hold a lease. -/
structure TicketQueue (Member : Type) where
  tickets : Member → Option Nat
  leases : Set Member

namespace TicketQueue

/-- The member holds the ticket with the smallest number. -/
def Head (queue : TicketQueue Member) (member : Member) : Prop :=
  ∃ number, queue.tickets member = some number ∧
    ∀ other ticket, queue.tickets other = some ticket → number ≤ ticket

/-- Nobody holds a ticket. -/
def Idle (queue : TicketQueue Member) : Prop := ∀ member, queue.tickets member = none

/-- Fewer than `limit` members hold a lease. -/
def HasRoom (queue : TicketQueue Member) (limit : Nat) : Prop :=
  ∀ holders : Finset Member, (∀ holder ∈ holders, holder ∈ queue.leases) → holders.card < limit

/-- The members whose tickets come before the ticket of `member`. -/
def Front (queue : TicketQueue Member) (member : Member) (front : Finset Member) : Prop :=
  ∀ other, other ∈ front ↔ ∃ number ticket, queue.tickets member = some number ∧
    queue.tickets other = some ticket ∧ ticket < number

/-- No two members hold tickets of one number. -/
def Numbered (queue : TicketQueue Member) : Prop :=
  ∀ left right number, queue.tickets left = some number → queue.tickets right = some number →
    left = right

/-- Tickets and leases only go. -/
structure Fades (before after : TicketQueue Member) : Prop where
  tickets : ∀ member, after.tickets member = before.tickets member ∨ after.tickets member = none
  leases : after.leases ⊆ before.leases

theorem Fades.refl (queue : TicketQueue Member) : Fades queue queue :=
  ⟨fun _ => Or.inl rfl, subset_rfl⟩

theorem Fades.trans {first second third : TicketQueue Member} (left : Fades first second)
    (right : Fades second third) : Fades first third where
  tickets member := by
    rcases right.tickets member with same | gone
    · rw [same]
      exact left.tickets member
    · exact Or.inr gone
  leases := right.leases.trans left.leases

theorem Fades.ticket {before after : TicketQueue Member} (fades : Fades before after)
    {member : Member} {number : Nat} (ticket : after.tickets member = some number) :
    before.tickets member = some number := by
  rcases fades.tickets member with same | gone
  · rw [← same]
    exact ticket
  · cases gone.symm.trans ticket

/-! ## Polls -/

/-- The answer to a poll. -/
inductive Verdict where
  | admitted
  | waits (position : Nat)
  | refused
  deriving DecidableEq, Repr

variable [DecidableEq Member]

/-- What a poll of `member` may answer, and the queue it leaves. -/
inductive Poll (limit : Nat) (queue : TicketQueue Member) (member : Member) :
    Verdict → TicketQueue Member → Prop where
  | confirm (held : member ∈ queue.leases) : Poll limit queue member .admitted queue
  | grantHead (unheld : member ∉ queue.leases) (room : queue.HasRoom limit)
      (head : queue.Head member) :
      Poll limit queue member .admitted
        ⟨Function.update queue.tickets member none, insert member queue.leases⟩
  | grantNewcomer (unheld : member ∉ queue.leases) (room : queue.HasRoom limit)
      (idle : queue.Idle) :
      Poll limit queue member .admitted ⟨queue.tickets, insert member queue.leases⟩
  | wait {number : Nat} {front : Finset Member} (unheld : member ∉ queue.leases)
      (ticket : queue.tickets member = some number)
      (blocked : ¬(queue.HasRoom limit ∧ queue.Head member)) (before : queue.Front member front) :
      Poll limit queue member (.waits (front.card + 1)) queue
  | join {number : Nat} {front : Finset Member} (unheld : member ∉ queue.leases)
      (newcomer : queue.tickets member = none)
      (blocked : ¬(queue.HasRoom limit ∧ queue.Idle))
      (last : ∀ other ticket, queue.tickets other = some ticket → ticket < number)
      (before : Front ⟨Function.update queue.tickets member (some number), queue.leases⟩
        member front) :
      Poll limit queue member (.waits (front.card + 1))
        ⟨Function.update queue.tickets member (some number), queue.leases⟩
  | refuse (unheld : member ∉ queue.leases) (newcomer : queue.tickets member = none)
      (blocked : ¬(queue.HasRoom limit ∧ queue.Idle)) : Poll limit queue member .refused queue

/-- One step of a queue: a poll, or a change that only lets go. -/
inductive Moves (limit : Nat) : TicketQueue Member → TicketQueue Member → Prop where
  | poll {before after : TicketQueue Member} {member : Member} {verdict : Verdict}
      (polls : Poll limit before member verdict after) : Moves limit before after
  | fade {before after : TicketQueue Member} (fades : Fades before after) :
      Moves limit before after

variable {limit : Nat} {before after : TicketQueue Member}

/-- A poll leaves the tickets of everyone else alone. -/
theorem Poll.tickets_of_ne {member other : Member} {verdict : Verdict}
    (polls : Poll limit before member verdict after) (different : other ≠ member) :
    after.tickets other = before.tickets other := by
  cases polls with
  | confirm | grantNewcomer | wait | refuse => rfl
  | grantHead | join => exact Function.update_of_ne different _ _

/-- A poll by a holder changes nothing. -/
theorem Poll.of_held {member : Member} {verdict : Verdict}
    (polls : Poll limit before member verdict after) (held : member ∈ before.leases) :
    after = before := by
  cases polls with
  | confirm => rfl
  | grantHead unheld | grantNewcomer unheld | wait unheld | join unheld | refuse unheld =>
      exact absurd held unheld

/-- A ticket that survives a step keeps its number. -/
theorem Moves.ticket_stable (moves : Moves limit before after) {member : Member}
    {old new : Nat} (held : before.tickets member = some old)
    (kept : after.tickets member = some new) : new = old := by
  cases moves with
  | fade fades => exact Option.some.inj ((fades.ticket kept).symm.trans held)
  | @poll polled verdict polls =>
      by_cases same : member = polled
      · subst same
        cases polls with
        | confirm | grantNewcomer | wait | refuse =>
            exact Option.some.inj (kept.symm.trans held)
        | grantHead => simp at kept
        | join unheld newcomer => cases newcomer.symm.trans held
      · rw [polls.tickets_of_ne same] at kept
        exact Option.some.inj (kept.symm.trans held)

/-- A ticket that appears in a step comes after every ticket held before. -/
theorem Moves.new_ticket_last (moves : Moves limit before after) {member other : Member}
    {new ticket : Nat} (absent : before.tickets member = none)
    (issued : after.tickets member = some new) (held : before.tickets other = some ticket) :
    ticket < new := by
  cases moves with
  | fade fades => cases absent.symm.trans (fades.ticket issued)
  | @poll polled verdict polls =>
      by_cases same : member = polled
      · subst same
        cases polls with
        | confirm | grantNewcomer | wait | refuse => cases absent.symm.trans issued
        | grantHead => simp at issued
        | join unheld newcomer blocked last =>
            simp only [Function.update_self, Option.some.injEq] at issued
            subst issued
            exact last other ticket held
      · rw [polls.tickets_of_ne same] at issued
        cases absent.symm.trans issued

/-- At most one member gets a ticket in a step. -/
theorem Moves.new_ticket_unique (moves : Moves limit before after) {left right : Member}
    {leftNumber rightNumber : Nat} (leftAbsent : before.tickets left = none)
    (rightAbsent : before.tickets right = none) (leftIssued : after.tickets left = some leftNumber)
    (rightIssued : after.tickets right = some rightNumber) : left = right := by
  cases moves with
  | fade fades => cases leftAbsent.symm.trans (fades.ticket leftIssued)
  | @poll polled verdict polls =>
      have only : ∀ member number, before.tickets member = none →
          after.tickets member = some number → member = polled := by
        intro member number absent issued
        by_contra different
        rw [polls.tickets_of_ne different, absent] at issued
        cases issued
      rw [only left leftNumber leftAbsent leftIssued, only right rightNumber rightAbsent rightIssued]

/-- **Fair grants.** A lease that appears in a step was granted with room, to the
head of the queue or to a newcomer in front of an idle one. -/
theorem Moves.granted (moves : Moves limit before after) {member : Member}
    (unheld : member ∉ before.leases) (granted : member ∈ after.leases) :
    before.HasRoom limit ∧ (before.Head member ∨ before.Idle) := by
  cases moves with
  | fade fades => exact absurd (fades.leases granted) unheld
  | poll polls =>
      cases polls with
      | confirm | wait | join | refuse => exact absurd granted unheld
      | grantHead _ room head =>
          rcases Set.mem_insert_iff.mp granted with rfl | old
          · exact ⟨room, Or.inl head⟩
          · exact absurd old unheld
      | grantNewcomer _ room idle => exact ⟨room, Or.inr idle⟩

/-- Nobody gets in front of a ticket: the tickets before it only go. -/
theorem Moves.front_shrinks (moves : Moves limit before after) {member other : Member}
    {number ticket : Nat} (held : before.tickets member = some number)
    (ahead : after.tickets other = some ticket) (less : ticket < number) :
    before.tickets other = some ticket := by
  cases found : before.tickets other with
  | none =>
      have last := moves.new_ticket_last found ahead held
      omega
  | some old => rw [moves.ticket_stable found ahead]

theorem Moves.numbered (moves : Moves limit before after) (numbered : before.Numbered) :
    after.Numbered := by
  intro left right number leftTicket rightTicket
  cases leftFound : before.tickets left with
  | none =>
      cases rightFound : before.tickets right with
      | none => exact moves.new_ticket_unique leftFound rightFound leftTicket rightTicket
      | some old =>
          have same := moves.ticket_stable rightFound rightTicket
          have last := moves.new_ticket_last leftFound leftTicket rightFound
          omega
  | some old =>
      cases rightFound : before.tickets right with
      | none =>
          have same := moves.ticket_stable leftFound leftTicket
          have last := moves.new_ticket_last rightFound rightTicket leftFound
          omega
      | some other =>
          have leftSame := moves.ticket_stable leftFound leftTicket
          have rightSame := moves.ticket_stable rightFound rightTicket
          subst leftSame rightSame
          exact numbered left right _ leftFound rightFound

/-- **Work conservation.** A poll with room, by the head of the queue or in front
of an idle queue, is admitted and leaves the member with a lease. -/
theorem Poll.admits {member : Member} {verdict : Verdict}
    (polls : Poll limit before member verdict after) (room : before.HasRoom limit)
    (turn : before.Head member ∨ before.Idle) :
    verdict = .admitted ∧ member ∈ after.leases := by
  cases polls with
  | confirm held => exact ⟨rfl, held⟩
  | grantHead | grantNewcomer => exact ⟨rfl, Set.mem_insert _ _⟩
  | wait unheld ticket blocked =>
      rcases turn with head | idle
      · exact absurd ⟨room, head⟩ blocked
      · cases (idle member).symm.trans ticket
  | join unheld newcomer blocked | refuse unheld newcomer blocked =>
      rcases turn with ⟨number, ticket, _⟩ | idle
      · cases newcomer.symm.trans ticket
      · exact absurd ⟨room, idle⟩ blocked

/-- A poll that leaves the member waiting tells how many tickets come first. -/
theorem Poll.position {member : Member} {verdict : Verdict} {number : Nat}
    (polls : Poll limit before member verdict after) (exclusive : member ∉ before.leases)
    (kept : after.tickets member = some number) :
    ∃ front, verdict = .waits (front.card + 1) ∧ after.Front member front := by
  cases polls with
  | confirm held => exact absurd held exclusive
  | grantHead => simp at kept
  | grantNewcomer unheld room idle => cases (idle member).symm.trans kept
  | wait unheld ticket blocked front => exact ⟨_, rfl, front⟩
  | join unheld newcomer blocked last front => exact ⟨_, rfl, front⟩
  | refuse unheld newcomer => cases newcomer.symm.trans kept

/-! ## The log of issued tickets -/

/-- When the current ticket of each member was issued, after a step: a ticket that
survived keeps its time, a new one gets the time of the step. -/
def reissue (time : Nat) (before after : TicketQueue Member) (issued : Member → Option Nat)
    (member : Member) : Option Nat :=
  match after.tickets member, before.tickets member with
  | some _, some _ => issued member
  | some _, none => some time
  | none, _ => none

omit [DecidableEq Member] in
/-- A ticket logged before the step was held before and after it. -/
theorem reissue_early {time early : Nat} {before after : TicketQueue Member}
    {issued : Member → Option Nat} {member : Member}
    (logged : reissue time before after issued member = some early) (less : early < time) :
    ∃ old new, before.tickets member = some old ∧ after.tickets member = some new ∧
      issued member = some early := by
  unfold reissue at logged
  cases kept : after.tickets member with
  | none =>
      rw [kept] at logged
      cases logged
  | some new =>
      cases held : before.tickets member with
      | none =>
          simp only [kept, held, Option.some.injEq] at logged
          omega
      | some old =>
          simp only [kept, held] at logged
          exact ⟨old, new, rfl, rfl, logged⟩

/-- Tickets were issued before `time`, and in the order of their numbers. -/
structure IssuedInOrder (time : Nat) (queue : TicketQueue Member)
    (issued : Member → Option Nat) : Prop where
  logged : ∀ member number, queue.tickets member = some number →
    ∃ at_, issued member = some at_ ∧ at_ < time
  ordered : ∀ earlier later first second earlierNumber laterNumber,
    queue.tickets earlier = some earlierNumber → queue.tickets later = some laterNumber →
      issued earlier = some first → issued later = some second → first < second →
        earlierNumber < laterNumber

omit [DecidableEq Member] in
/-- Only the log entries of ticket holders matter. -/
theorem IssuedInOrder.congr {time : Nat} {queue : TicketQueue Member}
    {issued other : Member → Option Nat} (inOrder : IssuedInOrder time queue issued)
    (same : ∀ member number, queue.tickets member = some number →
      other member = issued member) : IssuedInOrder time queue other where
  logged member number ticket := by
    rw [same member number ticket]
    exact inOrder.logged member number ticket
  ordered earlier later first second earlierNumber laterNumber earlierTicket laterTicket := by
    rw [same earlier earlierNumber earlierTicket, same later laterNumber laterTicket]
    exact inOrder.ordered earlier later first second earlierNumber laterNumber earlierTicket
      laterTicket

omit [DecidableEq Member] in
theorem IssuedInOrder.fades {time : Nat} {issued : Member → Option Nat}
    (inOrder : IssuedInOrder time before issued) (fades : Fades before after) :
    IssuedInOrder time after issued where
  logged member number ticket := inOrder.logged member number (fades.ticket ticket)
  ordered earlier later first second earlierNumber laterNumber earlierTicket laterTicket :=
    inOrder.ordered earlier later first second earlierNumber laterNumber
      (fades.ticket earlierTicket) (fades.ticket laterTicket)

theorem IssuedInOrder.moves {time : Nat} {issued : Member → Option Nat}
    (inOrder : IssuedInOrder time before issued) (moves : Moves limit before after) :
    IssuedInOrder (time + 1) after (reissue time before after issued) := by
  have survivor : ∀ {member number old}, after.tickets member = some number →
      before.tickets member = some old → reissue time before after issued member =
        issued member := by
    intro member number old kept held
    simp [reissue, kept, held]
  have newcomer : ∀ {member number}, after.tickets member = some number →
      before.tickets member = none → reissue time before after issued member = some time := by
    intro member number kept absent
    simp [reissue, kept, absent]
  constructor
  · intro member number kept
    cases held : before.tickets member with
    | none => exact ⟨time, newcomer kept held, Nat.lt_succ_self _⟩
    | some old =>
        obtain ⟨at_, logged, earlier⟩ := inOrder.logged member old held
        exact ⟨at_, (survivor kept held).trans logged, by omega⟩
  · intro earlier later first second earlierNumber laterNumber earlierKept laterKept
      earlierIssued laterIssued less
    cases earlierHeld : before.tickets earlier with
    | none =>
        -- A ticket issued now cannot be older than another one.
        rw [newcomer earlierKept earlierHeld, Option.some.injEq] at earlierIssued
        cases laterHeld : before.tickets later with
        | none =>
            rw [newcomer laterKept laterHeld, Option.some.injEq] at laterIssued
            omega
        | some old =>
            obtain ⟨at_, logged, bound⟩ := inOrder.logged later old laterHeld
            rw [survivor laterKept laterHeld, logged, Option.some.injEq] at laterIssued
            omega
    | some old =>
        have earlierSame := moves.ticket_stable earlierHeld earlierKept
        subst earlierSame
        cases laterHeld : before.tickets later with
        | none => exact moves.new_ticket_last laterHeld laterKept earlierHeld
        | some other =>
            have laterSame := moves.ticket_stable laterHeld laterKept
            subst laterSame
            rw [survivor earlierKept earlierHeld] at earlierIssued
            rw [survivor laterKept laterHeld] at laterIssued
            exact inOrder.ordered earlier later first second _ _ earlierHeld laterHeld
              earlierIssued laterIssued less

/-- **First come, first served.** While an earlier ticket is held, no later ticket
becomes a lease. -/
theorem IssuedInOrder.not_granted {time : Nat} {issued : Member → Option Nat}
    (inOrder : IssuedInOrder time before issued) (moves : Moves limit before after)
    {earlier later : Member} {first second number : Nat}
    (earlierIssued : issued earlier = some first) (laterIssued : issued later = some second)
    (less : first < second) (held : before.tickets earlier = some number)
    (unheld : later ∉ before.leases) : later ∉ after.leases := by
  intro granted
  rcases (moves.granted unheld granted).2 with ⟨laterNumber, ticket, smallest⟩ | idle
  · have order := inOrder.ordered earlier later first second number laterNumber held ticket
      earlierIssued laterIssued less
    have bound := smallest earlier number held
    omega
  · cases (idle earlier).symm.trans held

end TicketQueue

end Zangpu.Foundation
