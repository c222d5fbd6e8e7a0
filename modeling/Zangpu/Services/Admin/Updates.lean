import Zangpu.Foundation.Columns
import Zangpu.Foundation.Runs
import Zangpu.Services.Admin

/-!
Concurrent updates of one caller under READ COMMITTED.

Owns: any number of `update_caller` transactions on one caller row, each as its
SELECT, its UPDATE and its COMMIT; and the exact condition under which an
expected version is used once and no committed change is overwritten unread.

Does not own: the other caller operations, and the audit rows, which no other
transaction reads. A failed constraint or a lost connection is a rollback.
-/

set_option autoImplicit false

namespace Zangpu.Services.Admin.Updates

open Zangpu.Foundation
open Zangpu.Models

/-! ## Transactions -/

/-- The arguments of `update_caller`, with the fields its validation returned. -/
structure UpdateRequest where
  expectedVersion : Int
  fields : List CallerField
  actorId : String
  now : Int
  validated : ∃ patch : AdminCallerPatch, patch.validate expectedVersion = .ok fields

/-- The UPDATE of a client: `read` is the loaded row, `wrote` the changed object. -/
def writeCaller (read wrote current : ApiClient) : ApiClient :=
  { current with
    name := column read.name wrote.name current.name
    description := column read.description wrote.description current.description
    allowedEndpoints :=
      column read.allowedEndpoints wrote.allowedEndpoints current.allowedEndpoints
    allowedModels := column read.allowedModels wrote.allowedModels current.allowedModels
    groupIds := column read.groupIds wrote.groupIds current.groupIds
    qpsLimit := column read.qpsLimit wrote.qpsLimit current.qpsLimit
    concurrencyLimit :=
      column read.concurrencyLimit wrote.concurrencyLimit current.concurrencyLimit
    dailyRequestLimit :=
      column read.dailyRequestLimit wrote.dailyRequestLimit current.dailyRequestLimit
    dailyTokenLimit :=
      column read.dailyTokenLimit wrote.dailyTokenLimit current.dailyTokenLimit
    totalRequestLimit :=
      column read.totalRequestLimit wrote.totalRequestLimit current.totalRequestLimit
    totalTokenLimit :=
      column read.totalTokenLimit wrote.totalTokenLimit current.totalTokenLimit
    maxOutputTokensPerRequest :=
      column read.maxOutputTokensPerRequest wrote.maxOutputTokensPerRequest
        current.maxOutputTokensPerRequest
    version := column read.version wrote.version current.version
    updatedBy := column read.updatedBy wrote.updatedBy current.updatedBy
    updatedAt := column read.updatedAt wrote.updatedAt current.updatedAt }

namespace UpdateRequest

variable (request : UpdateRequest)

/-- The object as the service leaves it, from the row it loaded. -/
def wrote (read : ApiClient) : ApiClient :=
  patchClient request.actorId request.now request.fields read

/-- The UPDATE on the latest committed row. -/
def update (read current : ApiClient) : ApiClient := writeCaller read (request.wrote read) current

theorem wrote_version (read : ApiClient) : (request.wrote read).version = read.version + 1 := by
  have fixed := fixedColumns_foldl request.fields read
  simp only [fixedColumns, Prod.mk.injEq] at fixed
  exact congrArg (· + 1) fixed.2.2.1

theorem update_version (read current : ApiClient) :
    (request.update read current).version = read.version + 1 := by
  show column read.version (request.wrote read).version current.version = read.version + 1
  rw [wrote_version, column_of_ne (by omega)]

/-- On the row it read, the UPDATE is the change of a transaction that runs alone. -/
theorem update_read (read : ApiClient) : request.update read read = request.wrote read := by
  have fixed := fixedColumns_foldl request.fields read
  simp only [fixedColumns, Prod.mk.injEq] at fixed
  obtain ⟨sameId, sameStatus, _, sameCreator, sameCreation, sameDisabled⟩ := fixed
  unfold update writeCaller
  simp only [column_current]
  unfold wrote patchClient touchClient
  rw [← sameId, ← sameStatus, ← sameCreator, ← sameCreation, ← sameDisabled]

end UpdateRequest

/-! ## The system -/

/-- Where a transaction is: before its SELECT, with the row it read, after its
UPDATE, or over. -/
inductive Phase where
  | ready
  | read (row : ApiClient)
  | wrote (row : ApiClient)
  | committed
  | refused
  | rolledBack

/-- The row a running transaction has read. -/
def Phase.read? : Phase → Option ApiClient
  | read row | wrote row => some row
  | _ => none

structure Transaction where
  request : UpdateRequest
  phase : Phase

/-- A commit with the row its transaction had read and the row it replaced. -/
structure Commit where
  request : UpdateRequest
  read : ApiClient
  replaced : ApiClient

/-- The committed row, its lock with the uncommitted row of the owner, the
transactions, and the commits, newest first. -/
structure System where
  row : ApiClient
  lock : Option (Nat × ApiClient)
  transactions : List Transaction
  commits : List Commit

def System.start (row : ApiClient) : System := ⟨row, none, [], []⟩

inductive Action where
  | begin (request : UpdateRequest)
  | select (position : Nat)
  | update (position : Nat)
  | commit (position : Nat)
  | rollback (position : Nat)

def System.move (system : System) (position : Nat) (transaction : Transaction) (phase : Phase) :
    System :=
  { system with
    transactions := system.transactions.set position { transaction with phase := phase } }

/-- One step. The SELECT of `session.get` reads the committed row and the service
checks the version; the UPDATE waits for the lock of the row. -/
def System.step (system : System) : Action → Option System
  | .begin request =>
      some { system with transactions := system.transactions ++ [⟨request, .ready⟩] }
  | .select position =>
      match system.transactions[position]? with
      | some ⟨request, .ready⟩ =>
          -- "caller version is stale", "caller update is empty"
          if system.row.version ≠ request.expectedVersion ∨ request.fields = [] then
            some (system.move position ⟨request, .ready⟩ .refused)
          else some (system.move position ⟨request, .ready⟩ (.read system.row))
      | _ => none
  | .update position =>
      match system.transactions[position]?, system.lock with
      | some ⟨request, .read row⟩, none =>
          some { system.move position ⟨request, .read row⟩ (.wrote row) with
            lock := some (position, request.update row system.row) }
      | _, _ => none
  | .commit position =>
      match system.transactions[position]?, system.lock with
      | some ⟨request, .wrote row⟩, some (owner, working) =>
          if owner = position then
            some { system.move position ⟨request, .wrote row⟩ .committed with
              row := working
              lock := none
              commits := ⟨request, row, system.row⟩ :: system.commits }
          else none
      | _, _ => none
  | .rollback position =>
      match system.transactions[position]? with
      | some ⟨request, phase⟩ =>
          some { system.move position ⟨request, phase⟩ .rolledBack with
            lock := if system.lock.map Prod.fst = some position then none else system.lock }
      | none => none

/-! ## What the claim asks of a history -/

/-- No two commits carry the same expected version. -/
def VersionsUsedOnce (system : System) : Prop :=
  (system.commits.map fun commit => commit.request.expectedVersion).Nodup

/-- The commit changed a column whose committed value was not the one it had read. -/
def Commit.Overwrites (commit : Commit) : Prop :=
  ∃ field : CallerField,
    field.read (commit.request.wrote commit.read) ≠ field.read commit.read ∧
      field.read commit.replaced ≠ field.read commit.read

/-- The row still had the version the transaction had read. -/
def Commit.Current (commit : Commit) : Prop := commit.replaced.version = commit.read.version

/-! ## Histories -/

/-- A history that ends in a row: every commit changed the row it replaced, and had
read that row or one replaced before. -/
def Chained : ApiClient → List Commit → Prop
  | _, [] => True
  | row, commit :: earlier =>
      row = commit.request.update commit.read commit.replaced ∧
        commit.request.expectedVersion = commit.read.version ∧
        (commit.read = commit.replaced ∨ ∃ other ∈ earlier, other.replaced = commit.read) ∧
        Chained commit.replaced earlier

theorem Chained.expected {row : ApiClient} {commits : List Commit} (chained : Chained row commits)
    {commit : Commit} (member : commit ∈ commits) :
    commit.request.expectedVersion = commit.read.version := by
  induction commits generalizing row with
  | nil => cases member
  | cons latest earlier inductionHypothesis =>
      obtain ⟨_, expected, _, rest⟩ := chained
      rcases List.mem_cons.mp member with rfl | before
      · exact expected
      · exact inductionHypothesis rest before

/-- Commits on current rows raise the version, so earlier rows have smaller ones. -/
theorem Chained.replaced_lt {row : ApiClient} {commits : List Commit}
    (chained : Chained row commits) (current : ∀ commit ∈ commits, commit.Current)
    {commit : Commit} (member : commit ∈ commits) : commit.replaced.version < row.version := by
  induction commits generalizing row with
  | nil => cases member
  | cons latest earlier inductionHypothesis =>
      obtain ⟨rfl, _, _, rest⟩ := chained
      have same : latest.replaced.version = latest.read.version := current latest List.mem_cons_self
      rw [UpdateRequest.update_version, ← same]
      rcases List.mem_cons.mp member with rfl | before
      · omega
      · have smaller := inductionHypothesis rest
          (fun other other_mem => current other (List.mem_cons_of_mem _ other_mem)) before
        omega

/-- A commit on a current row had read exactly the row it replaced. -/
theorem Chained.read_eq {row : ApiClient} {commits : List Commit} (chained : Chained row commits)
    (current : ∀ commit ∈ commits, commit.Current) {commit : Commit}
    (member : commit ∈ commits) : commit.read = commit.replaced := by
  induction commits generalizing row with
  | nil => cases member
  | cons latest earlier inductionHypothesis =>
      obtain ⟨_, _, source, rest⟩ := chained
      have before : ∀ other ∈ earlier, other.Current :=
        fun other other_mem => current other (List.mem_cons_of_mem _ other_mem)
      rcases List.mem_cons.mp member with rfl | older
      · rcases source with same | ⟨other, other_mem, sameRow⟩
        · exact same
        · have smaller := rest.replaced_lt before other_mem
          have same : commit.replaced.version = commit.read.version :=
            current commit List.mem_cons_self
          rw [sameRow] at smaller
          omega
      · exact inductionHypothesis rest before older

theorem Chained.usedOnce {row : ApiClient} {commits : List Commit} (chained : Chained row commits)
    (current : ∀ commit ∈ commits, commit.Current) :
    (commits.map fun commit => commit.request.expectedVersion).Nodup := by
  induction commits generalizing row with
  | nil => exact List.nodup_nil
  | cons latest earlier inductionHypothesis =>
      have before : ∀ other ∈ earlier, other.Current :=
        fun other other_mem => current other (List.mem_cons_of_mem _ other_mem)
      have same : latest.replaced.version = latest.read.version := current latest List.mem_cons_self
      obtain ⟨_, expected, _, rest⟩ := chained
      rw [List.map_cons, List.nodup_cons]
      refine ⟨?_, inductionHypothesis rest before⟩
      intro repeated
      obtain ⟨other, other_mem, sameExpected⟩ := List.mem_map.mp repeated
      have smaller := rest.replaced_lt before other_mem
      have sameOther : other.replaced.version = other.read.version := before other other_mem
      rw [rest.expected other_mem, expected] at sameExpected
      omega

/-- A commit on a row that is not current repeats the expected version of the
commit that replaced the row it had read. -/
theorem Chained.current_of_usedOnce {row : ApiClient} {commits : List Commit}
    (chained : Chained row commits)
    (once : (commits.map fun commit => commit.request.expectedVersion).Nodup) :
    ∀ commit ∈ commits, commit.Current := by
  induction commits generalizing row with
  | nil =>
      intro commit member
      cases member
  | cons latest earlier inductionHypothesis =>
      obtain ⟨_, expected, source, rest⟩ := chained
      rw [List.map_cons, List.nodup_cons] at once
      have before := inductionHypothesis rest once.2
      intro commit member
      rcases List.mem_cons.mp member with rfl | older
      · rcases source with same | ⟨other, other_mem, sameRow⟩
        · exact congrArg ApiClient.version same.symm
        · have sameOther : other.replaced.version = other.read.version := before other other_mem
          refine (once.1 (List.mem_map.mpr ⟨other, other_mem, ?_⟩)).elim
          rw [rest.expected other_mem, expected, ← sameOther, sameRow]
      · exact before commit older

/-! ## The invariant -/

/-- A row is the committed one or was replaced by a commit. -/
def System.Known (system : System) (row : ApiClient) : Prop :=
  row = system.row ∨ ∃ other ∈ system.commits, other.replaced = row

structure Consistent (system : System) : Prop where
  chained : Chained system.row system.commits
  seen : ∀ transaction ∈ system.transactions, ∀ row ∈ transaction.phase.read?,
    transaction.request.expectedVersion = row.version ∧ system.Known row
  locked : ∀ owner working, system.lock = some (owner, working) →
    ∃ request row, system.transactions[owner]? = some ⟨request, .wrote row⟩ ∧
      working = request.update row system.row

variable {system after : System} {position : Nat} {transaction : Transaction} {phase : Phase}

theorem Consistent.start (row : ApiClient) : Consistent (.start row) where
  chained := trivial
  seen _ member := by cases member
  locked _ _ held := by cases held

/-- What running transactions have read, after one of them moves. -/
theorem Consistent.seen_move (consistent : Consistent system)
    (reads : ∀ row ∈ phase.read?, transaction.request.expectedVersion = row.version ∧
      system.Known row) :
    ∀ other ∈ (system.move position transaction phase).transactions, ∀ row ∈ other.phase.read?,
      other.request.expectedVersion = row.version ∧ system.Known row := by
  intro other member
  rcases mem_set_cases member with rfl | untouched
  · exact reads
  · exact consistent.seen other (mem_of_mem_eraseIdx untouched)

/-- The lock, after a transaction that does not hold it moves. -/
theorem Consistent.locked_move (consistent : Consistent system)
    (others : ∀ working, system.lock ≠ some (position, working)) :
    ∀ owner working, system.lock = some (owner, working) →
      ∃ request row, (system.move position transaction phase).transactions[owner]? =
        some ⟨request, .wrote row⟩ ∧ working = request.update row system.row := by
  intro owner working held
  have different : position ≠ owner := by
    rintro rfl
    exact others working held
  obtain ⟨request, row, found, wrote⟩ := consistent.locked owner working held
  exact ⟨request, row, (List.getElem?_set_ne different).trans found, wrote⟩

/-- A transaction in another phase than `wrote` does not hold the lock. -/
theorem Consistent.not_owner (consistent : Consistent system)
    (found : system.transactions[position]? = some transaction)
    (unwritten : ∀ row, transaction.phase ≠ .wrote row) (working : ApiClient) :
    system.lock ≠ some (position, working) := by
  intro held
  obtain ⟨request, row, stored, _⟩ := consistent.locked position working held
  rw [found, Option.some.injEq] at stored
  exact unwritten row (congrArg Transaction.phase stored)

theorem Consistent.begin (consistent : Consistent system) (request : UpdateRequest) :
    Consistent { system with transactions := system.transactions ++ [⟨request, .ready⟩] } where
  chained := consistent.chained
  seen other member row reads := by
    rcases List.mem_append.mp member with old | new
    · exact consistent.seen other old row reads
    · rw [List.mem_singleton] at new
      subst new
      cases reads
  locked owner working held := by
    obtain ⟨request, row, found, wrote⟩ := consistent.locked owner working held
    have bound := (List.getElem?_eq_some_iff.mp found).1
    exact ⟨request, row, (List.getElem?_append_left bound).trans found, wrote⟩

theorem Consistent.step (consistent : Consistent system) {action : Action}
    (steps : system.step action = some after) : Consistent after := by
  cases action with
  | begin request =>
      cases steps
      exact consistent.begin request
  | select position =>
      dsimp only [System.step] at steps
      split at steps
      · rename_i request found
        have free := consistent.not_owner found fun _ impossible => by cases impossible
        split at steps
        · cases steps
          refine ⟨consistent.chained, ?_, consistent.locked_move free⟩
          exact consistent.seen_move fun _ impossible => by cases impossible
        · rename_i accepted
          cases steps
          refine ⟨consistent.chained, ?_, consistent.locked_move free⟩
          apply consistent.seen_move
          intro row reads
          cases reads
          exact ⟨(not_not.mp fun stale => accepted (Or.inl stale)).symm, Or.inl rfl⟩
      · cases steps
  | update position =>
      dsimp only [System.step] at steps
      split at steps
      · rename_i request row found _
        cases steps
        refine ⟨consistent.chained, ?_, ?_⟩
        · apply consistent.seen_move
          intro other reads
          cases reads
          exact consistent.seen _ (List.mem_of_getElem? found) row rfl
        · intro owner working held
          cases held
          have bound := (List.getElem?_eq_some_iff.mp found).1
          exact ⟨request, row, List.getElem?_set_self bound, rfl⟩
      · cases steps
  | commit position =>
      dsimp only [System.step] at steps
      split at steps
      · rename_i request row owner working found held
        split at steps
        · rename_i own
          subst own
          cases steps
          obtain ⟨expected, known⟩ := consistent.seen _ (List.mem_of_getElem? found) row rfl
          obtain ⟨stored, read, same, wrote⟩ := consistent.locked owner working held
          rw [found] at same
          cases same
          refine ⟨⟨wrote, expected, known, consistent.chained⟩, ?_, ?_⟩
          · intro other member other_row reads
            rcases mem_set_cases member with rfl | untouched
            · cases reads
            · obtain ⟨carried, before⟩ :=
                consistent.seen other (mem_of_mem_eraseIdx untouched) other_row reads
              refine ⟨carried, Or.inr ?_⟩
              rcases before with rfl | ⟨earlier, earlier_mem, replaced⟩
              · exact ⟨_, List.mem_cons_self, rfl⟩
              · exact ⟨earlier, List.mem_cons_of_mem _ earlier_mem, replaced⟩
          · intro other _ impossible
            cases impossible
        · cases steps
      · cases steps
  | rollback position =>
      dsimp only [System.step] at steps
      split at steps
      · rename_i request phase found
        cases steps
        refine ⟨consistent.chained, ?_, ?_⟩
        · exact consistent.seen_move fun _ impossible => by cases impossible
        · intro owner working held
          dsimp only at held
          split at held
          · cases held
          · rename_i others
            have free (working : ApiClient) : system.lock ≠ some (position, working) :=
              fun own => others (congrArg (Option.map Prod.fst) own)
            exact consistent.locked_move free owner working held
      · cases steps

/-- **Updates are optimistic exactly when commits replace what they read**: in every
state of every run, an expected version is used once and no committed change is
overwritten unread if and only if every commit replaced a row that still had the
version its transaction had read. -/
theorem updates_are_optimistic_iff {row : ApiClient} {system : System}
    (run : Reached System.step (fun _ _ => True) (.start row) system) :
    (VersionsUsedOnce system ∧ ∀ commit ∈ system.commits, ¬commit.Overwrites) ↔
      ∀ commit ∈ system.commits, commit.Current := by
  have consistent : Consistent system := Reached.invariant (Consistent.start row)
    (fun _ _ _ consistent _ steps => consistent.step steps) run
  constructor
  · rintro ⟨once, _⟩
    exact consistent.chained.current_of_usedOnce once
  · intro current
    refine ⟨consistent.chained.usedOnce current, ?_⟩
    rintro commit member ⟨field, _, changed⟩
    rw [consistent.chained.read_eq current member] at changed
    exact changed rfl

/-! ## Two administrators -/

/-- A caller at version 1 with a limit of 10 requests per second. -/
def sampleRow : ApiClient where
  id := "client"
  name := "caller"
  description := none
  status := .active
  allowedEndpoints := ["chat.completions"]
  allowedModels := ["model"]
  groupIds := []
  qpsLimit := 10
  concurrencyLimit := 2
  dailyRequestLimit := none
  dailyTokenLimit := none
  totalRequestLimit := none
  totalTokenLimit := none
  maxOutputTokensPerRequest := 4096
  version := 1
  createdBy := "first"
  updatedBy := "first"
  createdAt := 0
  updatedAt := 0
  disabledAt := none

theorem qpsPatch_valid {limit : Int} (bounds : 1 ≤ limit ∧ limit ≤ 100000) :
    ∃ patch : AdminCallerPatch, patch.validate 1 = .ok [.qpsLimit limit] := by
  refine ⟨{ qpsLimit := some (some limit) }, ?_⟩
  simp only [AdminCallerPatch.validate, checkRequired, checkNullable, checkCount, require,
    bounds, and_self, ↓reduceIte]
  rfl

theorem twenty_valid : (1 : Int) ≤ 20 ∧ (20 : Int) ≤ 100000 := by decide

theorem thirty_valid : (1 : Int) ≤ 30 ∧ (30 : Int) ≤ 100000 := by decide

def raiseTo (limit : Int) (bounds : 1 ≤ limit ∧ limit ≤ 100000) (actorId : String) :
    UpdateRequest :=
  ⟨1, [.qpsLimit limit], actorId, 100, qpsPatch_valid bounds⟩

/-- Both administrators read version 1 before either writes. -/
def lostUpdate : List Action :=
  [.begin (raiseTo 20 twenty_valid "first"), .begin (raiseTo 30 thirty_valid "second"),
    .select 0, .select 1, .update 0, .commit 0, .update 1, .commit 1]

/-- The second commit uses version 1 again and overwrites the first unread. -/
theorem stale_update_commits :
    ∃ system, Reached System.step (fun _ _ => True) (.start sampleRow) system ∧
      ¬VersionsUsedOnce system ∧ ∃ commit ∈ system.commits, commit.Overwrites := by
  have replayed : (replay System.step (fun _ _ => True) (.start sampleRow) lostUpdate).any
      (fun system => system.commits.map (fun commit =>
        (commit.request.expectedVersion, (commit.request.wrote commit.read).qpsLimit,
          commit.read.qpsLimit, commit.replaced.qpsLimit)) =
        [(1, 30, 10, 20), (1, 20, 10, 10)]) = true := by decide
  obtain ⟨system, run, holds⟩ := Reached.of_replay _ _ _ lostUpdate _ replayed
  refine ⟨system, run, ?_, ?_⟩
  · intro once
    have versions := congrArg (List.map Prod.fst) holds
    rw [List.map_map] at versions
    rw [VersionsUsedOnce, show (system.commits.map fun commit =>
      commit.request.expectedVersion) = [1, 1] from versions] at once
    exact absurd once (by decide)
  · obtain ⟨commit, rest, same⟩ : ∃ commit rest, system.commits = commit :: rest := by
      cases listed : system.commits with
      | nil =>
          rw [listed] at holds
          cases holds
      | cons commit rest => exact ⟨commit, rest, rfl⟩
    rw [same, List.map_cons, List.cons.injEq, Prod.mk.injEq, Prod.mk.injEq, Prod.mk.injEq] at holds
    obtain ⟨⟨_, wrote, read, replaced⟩, _⟩ := holds
    refine ⟨commit, same ▸ List.mem_cons_self, .qpsLimit 0, ?_, ?_⟩
    · simp [CallerField.read, wrote, read]
    · simp [CallerField.read, replaced, read]

/-- One administrator alone. -/
theorem updates_are_optimistic_iff_sample :
    ∃ system, system.commits.length = 1 ∧ VersionsUsedOnce system ∧
      ∀ commit ∈ system.commits, ¬commit.Overwrites := by
  have replayed : (replay System.step (fun _ _ => True) (.start sampleRow)
      [.begin (raiseTo 20 twenty_valid "first"), .select 0, .update 0, .commit 0]).any
      (fun system => system.commits.length = 1 ∧ ∀ commit ∈ system.commits,
        commit.replaced.version = commit.read.version) = true := by decide
  obtain ⟨system, run, single, current⟩ := Reached.of_replay _ _ _ _ _ replayed
  exact ⟨system, single, (updates_are_optimistic_iff run).mpr current⟩

end Zangpu.Services.Admin.Updates
