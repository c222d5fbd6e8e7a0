import Mathlib.Algebra.Order.Floor.Div
import Zangpu.Services.Retention

/-!
Repeated purges.

Owns: a round, which previews and then purges with the previewed counts; what a
round does and when it succeeds; and the tables after any number of rounds at one
time, up to the round that finds nothing to purge.

Does not own: other writers between the rounds.
-/

set_option autoImplicit false

namespace Zangpu.Services.Retention

open Zangpu.Foundation
open Zangpu.Models

def eventCutoff (service : RetentionService) (now : Int) : Int :=
  max 0 (now - service.eventRetentionDays * secondsPerDay)

def auditCutoff (service : RetentionService) (now : Int) : Int :=
  max 0 (now - service.adminAuditRetentionDays * secondsPerDay)

/-- Preview, then purge with the previewed counts. -/
def round (service : RetentionService) (actorId : String) (now : Int) (auditId : String)
    (database : RetentionDatabase) :
    Except RetentionError (RetentionPurgeResult × RetentionDatabase) := do
  let previewed ← preview service now database
  purge service actorId now previewed.eventEligibleCount previewed.auditEligibleCount true auditId
    database

/-- The database after some rounds at one time. -/
def rounds (service : RetentionService) (actorId : String) (now : Int) (draws : Nat → String)
    (database : RetentionDatabase) : Nat → Except RetentionError RetentionDatabase
  | 0 => .ok database
  | count + 1 => do
      let before ← rounds service actorId now draws database count
      let (_, after) ← round service actorId now (draws count) before
      return after

/-- What some rounds rely on from their random identifiers: texts of 36 characters,
none of them drawn twice or in the table already. -/
structure FreshDraws (draws : Nat → String) (bound : Nat) (database : RetentionDatabase) :
    Prop where
  length : ∀ count < bound, (draws count).toList.length = 36
  distinct : ∀ left < bound, ∀ right < bound, draws left = draws right → left = right
  unused : ∀ count < bound, ∀ row ∈ database.audits.rows, row.id ≠ draws count

section Round

variable {service : RetentionService} {now : Int} {database : RetentionDatabase}
  {auditId : String}

theorem cutoffs_eq (nonneg : 0 ≤ now) :
    cutoffs service now = .ok (eventCutoff service now, auditCutoff service now) := by
  simp [cutoffs, require, nonneg, eventCutoff, auditCutoff, pure, Except.pure]

/-- The cutoff of audit rows lies at or before the time itself. -/
theorem auditCutoff_le (nonneg : 0 ≤ now) : auditCutoff service now ≤ now := by
  have bounds := service.auditBounds
  unfold auditCutoff secondsPerDay
  omega

/-- The rows of the tables after a round, apart from the new audit row. -/
def batchDeleted (service : RetentionService) (now : Int) (database : RetentionDatabase) :
    RetentionDatabase where
  events := (database.events.deleteKeys (database.events.firstKeys eventRank
    (eventExpired (eventCutoff service now)) service.batchSize)).1
  audits := (database.audits.deleteKeys (database.audits.firstKeys auditRank
    (auditExpired (auditCutoff service now)) service.batchSize)).1

/-- The tables after a round that adds an audit row. -/
def roundDatabase (service : RetentionService) (now : Int) (row : ApiClientAdminAudit)
    (database : RetentionDatabase) : RetentionDatabase where
  events := (batchDeleted service now database).events
  audits := (batchDeleted service now database).audits.insertNew row

/-- The counts that a round reports. -/
def roundResult (service : RetentionService) (now : Int) (auditId : String)
    (database : RetentionDatabase) : RetentionPurgeResult :=
  let events := eventCount (eventCutoff service now) database
  let audits := auditCount (auditCutoff service now) database
  { auditId := auditId
    completedAt := now
    eventCutoff := eventCutoff service now
    auditCutoff := auditCutoff service now
    eventDeletedCount := min service.batchSize events
    auditDeletedCount := min service.batchSize audits
    eventRemainingCount := events - (min service.batchSize events : Nat)
    auditRemainingCount := audits - (min service.batchSize audits : Nat)
    batchSize := service.batchSize }

theorem firstKeys_length {Row : Type} {key : Row → String} {rank : Row → Int ×ₗ String}
    {chosen : Row → Bool} {limit : Nat} {table : Table Row key} :
    (table.firstKeys rank chosen limit).length = min limit (table.rows.countP chosen) := by
  unfold Table.firstKeys
  rw [List.length_map, List.length_take, Table.ordered_length]

theorem addAudit_ok {audit row : ApiClientAdminAudit} (constructed : audit.construct = .ok row)
    (inserted : row.checkInsert = .ok ()) (fresh : database.audits.find? row.id = none) :
    addAudit audit database = .ok { database with audits := database.audits.insertNew row } := by
  simp [addAudit, constructed, inserted, fromModel, fresh, require, pure, Except.pure]

/-- A round with something to purge deletes one batch per table and adds one row. -/
theorem round_ok (actor : AdminActor) (nonneg : 0 ≤ now) (uuid : auditId.toList.length = 36)
    (unused : ∀ row ∈ database.audits.rows, row.id ≠ auditId)
    (some : ¬(eventCount (eventCutoff service now) database = 0 ∧
      auditCount (auditCutoff service now) database = 0)) :
    ∃ row, row.id = auditId ∧ row.createdAt = now ∧
      round service actor.id now auditId database =
        .ok (roundResult service now auditId database,
          roundDatabase service now row database) := by
  obtain ⟨row, constructed, inserted, rowId, createdAt⟩ := @retentionAudit_accepted service actor
    (eventCount (eventCutoff service now) database)
    (auditCount (auditCutoff service now) database) (roundResult service now auditId database) uuid
  refine ⟨row, rowId, createdAt, ?_⟩
  have fresh : (batchDeleted service now database).audits.find? row.id = none := by
    rw [Table.find?_none_iff]
    intro other member same
    exact unused other (List.mem_of_mem_filter member) (same.trans rowId)
  have eventsDeleted := @Table.deleteKeys_count _ _ _ _ _ _ eventRank
    (eventExpired (eventCutoff service now)) database.events service.batchSize
  have auditsDeleted := @Table.deleteKeys_count _ _ _ _ _ _ auditRank
    (auditExpired (auditCutoff service now)) database.audits service.batchSize
  have added := addAudit_ok constructed inserted fresh
  simp only [round, preview, purge, cutoffs_eq nonneg, ok_bind, require, pure, Except.pure,
    Int.natCast_nonneg, and_self, ↓reduceIte, some, not_false_eq_true, eventsDeleted,
    auditsDeleted, firstKeys_length]
  exact congrArg (· >>= fun after => .ok (roundResult service now auditId database, after)) added

/-- A round with nothing to purge ends with that error. -/
theorem round_empty {actorId : String} (nonneg : 0 ≤ now)
    (events : eventCount (eventCutoff service now) database = 0)
    (audits : auditCount (auditCutoff service now) database = 0) :
    round service actorId now auditId database =
      .error (.nothingToPurge "no records are eligible for retention purge") := by
  simp [round, preview, purge, cutoffs_eq nonneg, require, pure, Except.pure, events, audits]

/-- The tables after some rounds: without the first expired rows, one batch a round,
and with one new audit row a round, none of which is expired. -/
structure Drained (service : RetentionService) (now : Int) (draws : Nat → String)
    (database : RetentionDatabase) (count : Nat) (after : RetentionDatabase) : Prop where
  events : after.events.rows = database.events.rows.filter fun event =>
    event.id ∉ ((expiredEvents (eventCutoff service now) database).take
      (service.batchSize * count)).map ApiCallEvent.id
  audits : ∃ own, after.audits.rows = (database.audits.rows.filter fun audit =>
      audit.id ∉ ((expiredAudits (auditCutoff service now) database).take
        (service.batchSize * count)).map ApiClientAdminAudit.id) ++ own ∧
    own.map ApiClientAdminAudit.id = (List.range count).map draws ∧
    ∀ row ∈ own, row.createdAt = now ∧ auditExpired (auditCutoff service now) row = false
  eventsLeft : expiredEvents (eventCutoff service now) after =
    (expiredEvents (eventCutoff service now) database).drop (service.batchSize * count)
  auditsLeft : expiredAudits (auditCutoff service now) after =
    (expiredAudits (auditCutoff service now) database).drop (service.batchSize * count)

theorem drained_start {draws : Nat → String} : Drained service now draws database 0 database where
  events := by simp
  audits := ⟨[], by simp, rfl, by simp⟩
  eventsLeft := by simp
  auditsLeft := by simp

/-- Deleting the next batch after the first ones deletes one batch more. -/
theorem filter_next_batch {Row : Type} {key : Row → String} {rows sorted : List Row}
    (first next : Nat) :
    (rows.filter fun row => key row ∉ (sorted.take first).map key).filter
        (fun row => key row ∉ ((sorted.drop first).take next).map key) =
      rows.filter fun row => key row ∉ (sorted.take (first + next)).map key := by
  rw [List.filter_filter, List.take_add, List.map_append]
  refine List.filter_congr fun row _ => ?_
  simp [Bool.and_comm]

end Round

section Rounds

variable {service : RetentionService} {now : Int} {draws : Nat → String}
  {database before : RetentionDatabase} {count bound : Nat}

/-- The identifier of a round is not among the audit rows before it. -/
theorem Drained.unused (fresh : FreshDraws draws bound database) (within : count < bound)
    (drained : Drained service now draws database count before) :
    ∀ row ∈ before.audits.rows, row.id ≠ draws count := by
  obtain ⟨own, rows, ids, _⟩ := drained.audits
  intro row member same
  rw [rows] at member
  rcases List.mem_append.mp member with old | drawn
  · exact fresh.unused count within row (List.mem_of_mem_filter old) same
  · have inDraws : row.id ∈ (List.range count).map draws := by
      rw [← ids]
      exact List.mem_map_of_mem drawn
    obtain ⟨earlier, earlierMember, drawnAs⟩ := List.mem_map.mp inDraws
    have before := List.mem_range.mp earlierMember
    have sameRound := fresh.distinct earlier (before.trans within) count within
      (drawnAs.trans same)
    omega

/-- A row that is not expired is not among the rows of a batch. -/
theorem unexpired_kept {row : ApiClientAdminAudit} (member : row ∈ before.audits.rows)
    (live : auditExpired (auditCutoff service now) row = false) :
    row.id ∉ before.audits.firstKeys auditRank (auditExpired (auditCutoff service now))
      service.batchSize := by
  intro selected
  obtain ⟨other, otherMember, same⟩ := List.mem_map.mp selected
  obtain ⟨stored, expired⟩ := Table.mem_ordered.mp (List.mem_of_mem_take otherMember)
  obtain rfl : other = row := Table.eq_of_key_eq stored member same
  rw [live] at expired
  cases expired

/-- A round takes the drained tables one batch further. -/
theorem Drained.advance (nonneg : 0 ≤ now) (fresh : FreshDraws draws bound database)
    (within : count < bound) (drained : Drained service now draws database count before) {row : ApiClientAdminAudit}
    (rowId : row.id = draws count) (createdAt : row.createdAt = now) :
    Drained service now draws database (count + 1) (roundDatabase service now row before) := by
  have unused := drained.unused fresh within
  have live : auditExpired (auditCutoff service now) row = false := by
    have early := @auditCutoff_le service now nonneg
    refine decide_eq_false fun expired => ?_
    omega
  have newRow : (batchDeleted service now before).audits.find? row.id = none := by
    rw [Table.find?_none_iff]
    intro other member same
    exact unused other (List.mem_of_mem_filter member) (same.trans rowId)
  have next : service.batchSize * (count + 1) = service.batchSize * count + service.batchSize :=
    Nat.mul_succ _ _
  refine ⟨?_, ?_, ?_, ?_⟩
  · rw [next, ← filter_next_batch, ← drained.events, ← drained.eventsLeft]
    rfl
  · obtain ⟨own, rows, ids, ownLive⟩ := drained.audits
    refine ⟨own ++ [row], ?_, ?_, ?_⟩
    · have appended : (roundDatabase service now row before).audits.rows =
          (batchDeleted service now before).audits.rows ++ [row] := Table.insertNew_rows newRow
      have kept : (own.filter fun audit => audit.id ∉ before.audits.firstKeys auditRank
          (auditExpired (auditCutoff service now)) service.batchSize) = own := by
        rw [List.filter_eq_self]
        intro other member
        exact decide_eq_true (unexpired_kept (rows ▸ List.mem_append_right _ member)
          (ownLive other member).2)
      have deleted : (batchDeleted service now before).audits.rows =
          before.audits.rows.filter fun audit => audit.id ∉ before.audits.firstKeys auditRank
            (auditExpired (auditCutoff service now)) service.batchSize := rfl
      rw [appended, deleted, rows, List.filter_append, kept, next, ← filter_next_batch,
        ← drained.auditsLeft, List.append_assoc]
      rfl
    · rw [List.map_append, ids, List.range_succ, List.map_append, List.map_singleton, rowId]
      rfl
    · intro other member
      rcases List.mem_append.mp member with earlier | last
      · exact ownLive other earlier
      · obtain rfl := List.mem_singleton.mp last
        exact ⟨createdAt, live⟩
  · rw [next, ← List.drop_drop, ← drained.eventsLeft]
    exact Table.ordered_delete eventRank_injective service.batchSize
  · rw [next, ← List.drop_drop, ← drained.auditsLeft]
    refine (Table.ordered_insertNew newRow live).trans ?_
    exact Table.ordered_delete auditRank_injective service.batchSize

end Rounds

/-- The number of successful rounds that the expired rows need. -/
def roundCount (service : RetentionService) (now : Int) (database : RetentionDatabase) : Nat :=
  max (eventCount (eventCutoff service now) database)
    (auditCount (auditCutoff service now) database) ⌈/⌉ service.batchSize

section Runs

variable {service : RetentionService} {now : Int} {draws : Nat → String}
  {database before after : RetentionDatabase} {count : Nat}

theorem lt_roundCount_iff :
    count < roundCount service now database ↔
      ¬(eventCount (eventCutoff service now) database ≤ service.batchSize * count ∧
        auditCount (auditCutoff service now) database ≤ service.batchSize * count) := by
  have positive : 0 < service.batchSize := service.batchBounds.1
  unfold roundCount
  rw [← not_le, ceilDiv_le_iff_le_mul positive, max_le_iff]

/-- The counts of the tables after some rounds. -/
theorem Drained.counts (drained : Drained service now draws database count after) :
    eventCount (eventCutoff service now) after =
        eventCount (eventCutoff service now) database - service.batchSize * count ∧
      auditCount (auditCutoff service now) after =
        auditCount (auditCutoff service now) database - service.batchSize * count := by
  have events := congrArg List.length drained.eventsLeft
  have audits := congrArg List.length drained.auditsLeft
  unfold expiredEvents at events
  unfold expiredAudits at audits
  rw [List.length_drop, Table.ordered_length, Table.ordered_length] at events audits
  exact ⟨events, audits⟩

/-- What a round of the repetition does, as its report has it. -/
structure Reports (service : RetentionService) (now : Int) (before : RetentionDatabase)
    (result : RetentionPurgeResult) (after : RetentionDatabase) : Prop where
  eventsBatched : result.eventDeletedCount ≤ service.batchSize
  auditsBatched : result.auditDeletedCount ≤ service.batchSize
  eventsDeleted : (result.eventDeletedCount : Int) =
    eventCount (eventCutoff service now) before - eventCount (eventCutoff service now) after
  auditsDeleted : (result.auditDeletedCount : Int) =
    auditCount (auditCutoff service now) before - auditCount (auditCutoff service now) after
  eventsRemaining : result.eventRemainingCount = eventCount (eventCutoff service now) after
  auditsRemaining : result.auditRemainingCount = auditCount (auditCutoff service now) after

/-- While rows are left, the next round succeeds. -/
theorem Drained.next (actor : AdminActor) (nonneg : 0 ≤ now)
    (fresh : FreshDraws draws (roundCount service now database) database)
    (drained : Drained service now draws database count before)
    (unfinished : count < roundCount service now database) :
    ∃ result after, round service actor.id now (draws count) before = .ok (result, after) ∧
      Drained service now draws database (count + 1) after ∧
      Reports service now before result after := by
  obtain ⟨events, audits⟩ := drained.counts
  have some : ¬(eventCount (eventCutoff service now) before = 0 ∧
      auditCount (auditCutoff service now) before = 0) := by
    rintro ⟨noEvents, noAudits⟩
    exact lt_roundCount_iff.mp unfinished ⟨by omega, by omega⟩
  obtain ⟨row, rowId, createdAt, rounded⟩ :=
    round_ok actor nonneg (fresh.length count unfinished) (drained.unused fresh unfinished) some
  have later := drained.advance nonneg fresh unfinished rowId createdAt
  obtain ⟨eventsAfter, auditsAfter⟩ := later.counts
  have next : service.batchSize * (count + 1) = service.batchSize * count + service.batchSize :=
    Nat.mul_succ _ _
  refine ⟨_, _, rounded, later, ?_⟩
  rw [next] at eventsAfter auditsAfter
  refine ⟨min_le_left _ _, min_le_left _ _, ?_, ?_, ?_, ?_⟩ <;>
    simp only [roundResult] <;> omega

theorem rounds_drained (actor : AdminActor) (nonneg : 0 ≤ now)
    (fresh : FreshDraws draws (roundCount service now database) database)
    (within : count ≤ roundCount service now database) :
    ∃ after, rounds service actor.id now draws database count = .ok after ∧
      Drained service now draws database count after := by
  induction count with
  | zero => exact ⟨database, rfl, drained_start⟩
  | succ count inductionHypothesis =>
      obtain ⟨before, reached, drained⟩ := inductionHypothesis (Nat.le_of_succ_le within)
      obtain ⟨result, after, rounded, later, _⟩ := drained.next actor nonneg fresh within
      refine ⟨after, ?_, later⟩
      simp only [rounds, reached, rounded, ok_bind, pure, Except.pure]

/-- Every row that a batch order puts among the first `limit` is expired, and all are
when the limit covers them. -/
theorem filter_take_all {Row : Type} {key : Row → String} {rank : Row → Int ×ₗ String}
    {chosen : Row → Bool} {table : Table Row key} {limit : Nat}
    (covers : table.rows.countP chosen ≤ limit) :
    (table.rows.filter fun row => key row ∉ ((table.ordered rank chosen).take limit).map key) =
      table.rows.filter fun row => !chosen row := by
  have all : (table.ordered rank chosen).take limit = table.ordered rank chosen := by
    refine List.take_of_length_le ?_
    rw [Table.ordered_length]
    exact covers
  rw [all]
  refine List.filter_congr fun row member => ?_
  rw [decide_not, Bool.not_inj_iff, Bool.eq_iff_iff, decide_eq_true_iff, List.mem_map]
  constructor
  · rintro ⟨other, otherMember, same⟩
    obtain ⟨stored, expired⟩ := Table.mem_ordered.mp otherMember
    obtain rfl : other = row := Table.eq_of_key_eq stored member same
    exact expired
  · intro expired
    exact ⟨row, Table.mem_ordered.mpr ⟨member, expired⟩, rfl⟩

/-- A purge with counts that do not match the tables ends with an error. -/
theorem purge_mismatch {actorId auditId : String} {expectedEvents expectedAudits : Int}
    {confirmed : Bool} (nonneg : 0 ≤ now)
    (differs : ¬((eventCount (eventCutoff service now) database : Int) = expectedEvents ∧
      (auditCount (auditCutoff service now) database : Int) = expectedAudits)) :
    purged service actorId now expectedEvents expectedAudits confirmed auditId database =
      database := by
  unfold purged
  split
  · rename_i result after committed
    simp only [purge, cutoffs_eq nonneg, ok_bind, bind_ok_iff, require_ok_iff] at committed
    obtain ⟨_, _, _, _, _, matching, _⟩ := committed
    exact absurd matching differs
  · rfl

/-- With all batches deleted, exactly the expired rows are gone. -/
theorem Drained.finished (drained : Drained service now draws database count after)
    (done : roundCount service now database ≤ count) :
    after.events.rows = database.events.rows.filter
        (fun event => !eventExpired (eventCutoff service now) event) ∧
      (∃ own, after.audits.rows = database.audits.rows.filter
          (fun audit => !auditExpired (auditCutoff service now) audit) ++ own ∧
        own.map ApiClientAdminAudit.id = (List.range count).map draws) ∧
      eventCount (eventCutoff service now) after = 0 ∧
      auditCount (auditCutoff service now) after = 0 := by
  have covers := not_not.mp (lt_roundCount_iff.not.mp (Nat.not_lt_of_le done))
  obtain ⟨events, audits⟩ := drained.counts
  obtain ⟨own, rows, ids, _⟩ := drained.audits
  refine ⟨drained.events.trans (filter_take_all covers.1), ⟨own, ?_, ids⟩, by omega, by omega⟩
  have kept := @filter_take_all _ _ auditRank _ _ _ covers.2
  rw [rows, ← kept]
  rfl

end Runs

/-- **Retention drains exactly the expired rows.** At one time and with no other
writers, a preview and a purge with its counts succeed exactly as often as the
larger of the two expired counts needs batches, and then find nothing to purge;
after each round the tables lack the oldest expired rows, one batch a round, and
have one audit row a round more, which is not expired; its report has the counts of
what is left; after the last round exactly the rows older than the cutoffs are
gone; and a purge whose counts do not match the tables deletes nothing. -/
theorem retention_drains_exactly (service : RetentionService) (actor : AdminActor) (now : Int)
    (nonneg : 0 ≤ now) (draws : Nat → String) (database : RetentionDatabase)
    (fresh : FreshDraws draws (roundCount service now database) database) :
    (∀ count ≤ roundCount service now database, ∃ after,
      rounds service actor.id now draws database count = .ok after ∧
        Drained service now draws database count after) ∧
    (∀ count < roundCount service now database, ∃ before result after,
      rounds service actor.id now draws database count = .ok before ∧
        round service actor.id now (draws count) before = .ok (result, after) ∧
        Drained service now draws database (count + 1) after ∧
        Reports service now before result after) ∧
    (∃ last,
      rounds service actor.id now draws database (roundCount service now database) = .ok last ∧
        last.events.rows = database.events.rows.filter
          (fun event => !eventExpired (eventCutoff service now) event) ∧
        (∃ own, last.audits.rows = database.audits.rows.filter
            (fun audit => !auditExpired (auditCutoff service now) audit) ++ own ∧
          own.map ApiClientAdminAudit.id =
            (List.range (roundCount service now database)).map draws) ∧
        round service actor.id now (draws (roundCount service now database)) last =
          .error (.nothingToPurge "no records are eligible for retention purge")) ∧
    ∀ (before : RetentionDatabase) (actorId auditId : String)
      (expectedEvents expectedAudits : Int) (confirmed : Bool),
      ¬((eventCount (eventCutoff service now) before : Int) = expectedEvents ∧
        (auditCount (auditCutoff service now) before : Int) = expectedAudits) →
        purged service actorId now expectedEvents expectedAudits confirmed auditId before =
          before := by
  refine ⟨?_, ?_, ?_, ?_⟩
  · intro count within
    exact rounds_drained actor nonneg fresh within
  · intro count unfinished
    obtain ⟨before, reached, drained⟩ := rounds_drained actor nonneg fresh unfinished.le
    obtain ⟨result, after, rounded, later, reports⟩ :=
      drained.next actor nonneg fresh unfinished
    exact ⟨before, result, after, reached, rounded, later, reports⟩
  · obtain ⟨last, reached, drained⟩ := rounds_drained actor nonneg fresh (le_refl _)
    obtain ⟨events, audits, noEvents, noAudits⟩ := drained.finished (le_refl _)
    exact ⟨last, reached, events, audits, round_empty nonneg noEvents noAudits⟩
  · intro before actorId auditId expectedEvents expectedAudits confirmed differs
    exact purge_mismatch nonneg differs

def sampleService : RetentionService :=
  ⟨30, 365, 2, by decide, by decide, by decide, by decide⟩

def sampleActor : AdminActor := ⟨"admin", by decide⟩

def sampleAudit (id : String) (createdAt : Int) : ApiClientAdminAudit where
  id := id
  actorUserId := "admin"
  apiClientId := none
  targetType := "export"
  targetId := some id
  action := "events.exported"
  changedFields := ["row_count"]
  beforeSummary := []
  afterSummary := [("row_count", .integer 1)]
  createdAt := createdAt

/-- Three old audit rows and a current one. -/
def sampleDatabase : RetentionDatabase where
  events := .empty
  audits := ((((Table.empty.insertNew (sampleAudit "third" 3)).insertNew
    (sampleAudit "first" 1)).insertNew (sampleAudit "second" 2)).insertNew
    (sampleAudit "current" 40000000))

def sampleDraws : Nat → String
  | 0 => "00000000-0000-4000-8000-000000000000"
  | _ => "00000000-0000-4000-8000-000000000001"

theorem retention_drains_exactly_sample :
    roundCount sampleService 40000000 sampleDatabase = 2 ∧
      ∃ last, rounds sampleService "admin" 40000000 sampleDraws sampleDatabase 2 = .ok last ∧
        ∃ own, last.audits.rows = sampleAudit "current" 40000000 :: own ∧
          own.map ApiClientAdminAudit.id = [sampleDraws 0, sampleDraws 1] := by
  have two : roundCount sampleService 40000000 sampleDatabase = 2 := by decide
  have fresh : FreshDraws sampleDraws (roundCount sampleService 40000000 sampleDatabase)
      sampleDatabase := by
    rw [two]
    exact ⟨by decide, by decide +kernel, by decide +kernel⟩
  obtain ⟨_, _, ⟨last, reached, _, ⟨own, rows, ids⟩, _⟩, _⟩ :=
    retention_drains_exactly sampleService sampleActor 40000000 (by decide) sampleDraws
      sampleDatabase fresh
  rw [two] at reached ids
  have current : sampleDatabase.audits.rows.filter (fun audit =>
      !auditExpired (auditCutoff sampleService 40000000) audit) =
        [sampleAudit "current" 40000000] := by decide
  rw [current] at rows
  exact ⟨two, last, reached, own, rows, ids⟩

end Zangpu.Services.Retention
