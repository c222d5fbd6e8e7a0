import Zangpu.Foundation.Table

/-!
Sorted-set keys with a deadline.

Owns: keys that hold a set of members with natural scores, the commands ZADD,
ZREM, ZREMRANGEBYSCORE, ZRANGEBYSCORE, ZSCORE, ZCARD, ZRANK, ZRANGE, PEXPIRE and
DEL on one key, integer counter keys, and the removal of a key at its deadline.

Does not own: scripts, key names and clocks. A missing key is an empty one, so a
key without members carries no deadline. A key is gone from its deadline on.
-/

set_option autoImplicit false

namespace Zangpu.Foundation

variable {Member : Type} [LinearOrder Member]

/-- The member-score pairs under one key. -/
abbrev ScoreTable (Member : Type) := Table (Member × Nat) (Prod.fst : Member × Nat → Member)

structure SortedSetKey (Member : Type) where
  entries : ScoreTable Member
  deadline : Option Nat
  missing : entries.rows = [] → deadline = none

namespace SortedSetKey

omit [LinearOrder Member] in
def empty : SortedSetKey Member := ⟨.empty, none, fun _ => rfl⟩

/-- The key with these entries; a key left without entries is deleted. -/
def ofEntries (entries : ScoreTable Member) (deadline : Option Nat) : SortedSetKey Member where
  entries := entries
  deadline := if entries.rows = [] then none else deadline
  missing := fun none => if_pos none

def zscore (key : SortedSetKey Member) (member : Member) : Option Nat :=
  (key.entries.find? member).map Prod.snd

def zcard (key : SortedSetKey Member) : Nat := key.entries.rows.length

/-- `ZADD key NX score member`. -/
def zaddNX (key : SortedSetKey Member) (score : Nat) (member : Member) : SortedSetKey Member :=
  ofEntries (key.entries.insertNew (member, score)) key.deadline

def setScore (score : Nat) (entry : Member × Nat) : Member × Nat := (entry.1, score)

omit [LinearOrder Member] in
theorem setScore_fst (score : Nat) (entry : Member × Nat) :
    (setScore score entry).1 = entry.1 := rfl

/-- `ZADD key XX score member`. -/
def zaddXX (key : SortedSetKey Member) (score : Nat) (member : Member) : SortedSetKey Member :=
  ofEntries (key.entries.modify member (setScore score) (setScore_fst score)) key.deadline

def zrem (key : SortedSetKey Member) (member : Member) : SortedSetKey Member :=
  ofEntries (key.entries.restrict fun entry => entry.1 ≠ member) key.deadline

/-- `ZREMRANGEBYSCORE key -inf bound`. -/
def zremrangebyscore (key : SortedSetKey Member) (bound : Nat) : SortedSetKey Member :=
  ofEntries (key.entries.restrict fun entry => bound < entry.2) key.deadline

/-- `ZRANGEBYSCORE key -inf bound`, as the members it returns. -/
def zrangebyscore (key : SortedSetKey Member) (bound : Nat) : List Member :=
  (key.entries.rows.filter fun entry => entry.2 ≤ bound).map Prod.fst

/-- Entries by score, members of equal score in their own order. -/
def before (left right : Member × Nat) : Prop :=
  left.2 < right.2 ∨ left.2 = right.2 ∧ left.1 ≤ right.1

instance : DecidableRel (before : Member × Nat → Member × Nat → Prop) := fun left right =>
  inferInstanceAs (Decidable (left.2 < right.2 ∨ left.2 = right.2 ∧ left.1 ≤ right.1))

def sorted (key : SortedSetKey Member) : List (Member × Nat) :=
  key.entries.rows.insertionSort before

def zrank (key : SortedSetKey Member) (member : Member) : Option Nat :=
  key.sorted.findIdx? fun entry => entry.1 = member

/-- The score of `ZRANGE key 0 0 WITHSCORES`. -/
def zfirstScore (key : SortedSetKey Member) : Option Nat :=
  key.sorted.head?.map Prod.snd

/-- `PEXPIRE`, as the absolute deadline it sets; a missing key stays missing. -/
def pexpire (key : SortedSetKey Member) (deadline : Nat) : SortedSetKey Member :=
  ofEntries key.entries (some deadline)

/-- The key as a command at time `now` finds it. -/
def expire (key : SortedSetKey Member) (now : Nat) : SortedSetKey Member :=
  if ∃ deadline ∈ key.deadline, deadline ≤ now then empty else key

/-- `if ZCARD key == 0 then DEL key`. -/
def delEmpty (key : SortedSetKey Member) : SortedSetKey Member :=
  if key.zcard = 0 then empty else key

/-- The members of a key. -/
def members (key : SortedSetKey Member) : Finset Member :=
  ⟨key.entries.rows.map Prod.fst, key.entries.unique⟩

/-! ## Scores -/

theorem zscore_eq_some {key : SortedSetKey Member} {member : Member} {score : Nat} :
    key.zscore member = some score ↔ (member, score) ∈ key.entries.rows := by
  unfold zscore
  rw [Option.map_eq_some_iff]
  constructor
  · rintro ⟨⟨other, otherScore⟩, found, rfl⟩
    obtain ⟨stored, rfl⟩ := (Table.find?_some_iff _ _ _).mp found
    exact stored
  · intro stored
    exact ⟨(member, score), (Table.find?_some_iff _ _ _).mpr ⟨stored, rfl⟩, rfl⟩

@[simp] theorem zscore_empty (member : Member) :
    (empty : SortedSetKey Member).zscore member = none := rfl

@[simp] theorem zscore_ofEntries (entries : ScoreTable Member) (deadline : Option Nat)
    (member : Member) :
    (ofEntries entries deadline).zscore member = (entries.find? member).map Prod.snd := rfl

@[simp] theorem zscore_pexpire (key : SortedSetKey Member) (deadline : Nat) (member : Member) :
    (key.pexpire deadline).zscore member = key.zscore member := rfl

theorem zscore_zrem (key : SortedSetKey Member) (removed member : Member) :
    (key.zrem removed).zscore member = if member = removed then none else key.zscore member := by
  unfold zrem
  rw [zscore_ofEntries, Table.find?_restrict]
  unfold zscore
  cases found : key.entries.find? member with
  | none => simp
  | some entry =>
      have keyed : entry.1 = member := Table.key_of_find? found
      by_cases same : member = removed
      · simp [Option.filter, keyed, same]
      · simp [Option.filter, keyed, same]

theorem zscore_zremrangebyscore (key : SortedSetKey Member) (bound : Nat) (member : Member) :
    (key.zremrangebyscore bound).zscore member =
      (key.zscore member).filter fun score => bound < score := by
  unfold zremrangebyscore
  rw [zscore_ofEntries, Table.find?_restrict]
  unfold zscore
  cases key.entries.find? member with
  | none => rfl
  | some entry =>
      by_cases later : bound < entry.2 <;> simp [Option.filter, later]

theorem zscore_zaddNX (key : SortedSetKey Member) (score : Nat) (added member : Member) :
    (key.zaddNX score added).zscore member =
      if member = added ∧ key.zscore added = none then some score else key.zscore member := by
  unfold zaddNX
  rw [zscore_ofEntries]
  unfold zscore
  cases found : key.entries.find? added with
  | none =>
      by_cases same : member = added
      · subst same
        rw [Table.find?_insertNew_same found]
        simp
      · rw [Table.find?_insertNew_of_ne (fun equal => same equal.symm)]
        simp [same]
  | some entry =>
      have occupied : key.entries.insertNew (added, score) = key.entries :=
        Table.insertNew_occupied found
      rw [occupied]
      simp

theorem zscore_zaddXX (key : SortedSetKey Member) (score : Nat) (changed member : Member) :
    (key.zaddXX score changed).zscore member =
      if member = changed ∧ (key.zscore changed).isSome then some score
      else key.zscore member := by
  unfold zaddXX
  rw [zscore_ofEntries]
  unfold zscore
  by_cases same : member = changed
  · subst same
    cases found : key.entries.find? member with
    | none =>
        have absent : (key.entries.modify member (setScore score)
            (setScore_fst score)).find? member = none := by
          rw [Table.find?_none_iff]
          intro row stored
          obtain ⟨old, oldStored, rfl⟩ := (Table.mem_modify (setScore_fst score)).mp stored
          have other := (Table.find?_none_iff _ _).mp found old oldStored
          simp [other]
        simp [absent]
    | some entry => simp [Table.find?_modify_same found, setScore]
  · rw [Table.find?_modify_of_ne (fun equal => same equal.symm)]
    simp [same]

theorem zscore_expire (key : SortedSetKey Member) (now : Nat) (member : Member) :
    (key.expire now).zscore member =
      if ∃ deadline ∈ key.deadline, deadline ≤ now then none else key.zscore member := by
  unfold expire
  split <;> rfl

omit [LinearOrder Member] in
theorem delEmpty_eq (key : SortedSetKey Member) : key.delEmpty = key := by
  unfold delEmpty
  split
  · rename_i none
    obtain ⟨entries, deadline, missing⟩ := key
    have noRows : entries.rows = [] := List.length_eq_zero_iff.mp none
    have noDeadline : deadline = .none := missing noRows
    subst noDeadline
    obtain ⟨rows, unique⟩ := entries
    subst noRows
    rfl
  · rfl

theorem mem_zrangebyscore {key : SortedSetKey Member} {bound : Nat} {member : Member} :
    member ∈ key.zrangebyscore bound ↔ ∃ score ≤ bound, key.zscore member = some score := by
  simp only [zrangebyscore, List.mem_map, List.mem_filter, decide_eq_true_eq, Prod.exists,
    zscore_eq_some]
  constructor
  · rintro ⟨other, score, ⟨stored, early⟩, rfl⟩
    exact ⟨score, early, stored⟩
  · rintro ⟨score, early, stored⟩
    exact ⟨member, score, ⟨stored, early⟩, rfl⟩

/-- Removing a list of members one by one. -/
theorem zscore_foldl_zrem (removed : List Member) (key : SortedSetKey Member) (member : Member) :
    (removed.foldl zrem key).zscore member =
      if member ∈ removed then none else key.zscore member := by
  induction removed generalizing key with
  | nil => simp
  | cons head rest inductionHypothesis =>
      rw [List.foldl_cons, inductionHypothesis, zscore_zrem]
      by_cases later : member ∈ rest
      · simp [later]
      · by_cases now : member = head
        · simp [now]
        · simp [later, now]

/-! ## Cardinality, ranks and first entries -/

theorem mem_members {key : SortedSetKey Member} {member : Member} :
    member ∈ key.members ↔ ∃ score, key.zscore member = some score := by
  show member ∈ key.entries.rows.map Prod.fst ↔ _
  simp only [List.mem_map, Prod.exists, exists_and_right, exists_eq_right, zscore_eq_some]

omit [LinearOrder Member] in
theorem zcard_eq_card (key : SortedSetKey Member) : key.zcard = key.members.card :=
  (List.length_map Prod.fst).symm

theorem zcard_pos {key : SortedSetKey Member} {member : Member} {score : Nat}
    (stored : key.zscore member = some score) : 0 < key.zcard := by
  rw [zcard_eq_card]
  exact Finset.card_pos.mpr ⟨member, mem_members.mpr ⟨score, stored⟩⟩

theorem zscore_of_zcard_eq_zero {key : SortedSetKey Member} (none : key.zcard = 0)
    (member : Member) : key.zscore member = .none := by
  cases stored : key.zscore member with
  | none => rfl
  | some score =>
      have positive := zcard_pos stored
      omega

theorem mem_sorted {key : SortedSetKey Member} {member : Member} {score : Nat} :
    (member, score) ∈ key.sorted ↔ key.zscore member = some score := by
  rw [zscore_eq_some, sorted, List.mem_insertionSort]

theorem sorted_length (key : SortedSetKey Member) : key.sorted.length = key.zcard :=
  List.length_insertionSort _ _

theorem zrank_lt_zcard {key : SortedSetKey Member} {member : Member} {rank : Nat}
    (ranked : key.zrank member = some rank) : rank < key.zcard := by
  rw [← sorted_length]
  exact (List.findIdx?_eq_some_iff_getElem.mp ranked).1

theorem zrank_isSome {key : SortedSetKey Member} {member : Member} {score : Nat}
    (stored : key.zscore member = some score) : ∃ rank, key.zrank member = some rank := by
  rw [← Option.isSome_iff_exists, zrank, List.findIdx?_isSome, List.any_eq_true]
  exact ⟨(member, score), mem_sorted.mpr stored, by simp⟩

theorem before_total (left right : Member × Nat) : before left right ∨ before right left := by
  unfold before
  rcases Nat.lt_trichotomy left.2 right.2 with less | equal | greater
  · exact Or.inl (Or.inl less)
  · rcases le_total left.1 right.1 with first | first
    · exact Or.inl (Or.inr ⟨equal, first⟩)
    · exact Or.inr (Or.inr ⟨equal.symm, first⟩)
  · exact Or.inr (Or.inl greater)

theorem before_trans {first second third : Member × Nat} (left : before first second)
    (right : before second third) : before first third := by
  rcases left with less | ⟨equal, ordered⟩
  · rcases right with further | ⟨same, _⟩
    · exact Or.inl (less.trans further)
    · exact Or.inl (same ▸ less)
  · rcases right with further | ⟨same, later⟩
    · exact Or.inl (equal ▸ further)
    · exact Or.inr ⟨equal.trans same, ordered.trans later⟩

instance : Std.Total (before : Member × Nat → Member × Nat → Prop) := ⟨before_total⟩

instance : IsTrans (Member × Nat) before := ⟨fun _ _ _ => before_trans⟩

theorem sorted_pairwise (key : SortedSetKey Member) : key.sorted.Pairwise before :=
  List.pairwise_insertionSort _ _

theorem sorted_nodup (key : SortedSetKey Member) : (key.sorted.map Prod.fst).Nodup :=
  ((List.perm_insertionSort _ _).map Prod.fst).nodup_iff.mpr key.entries.unique

/-- With distinct scores, the rank counts the members of smaller score. -/
theorem zrank_eq_card {key : SortedSetKey Member} {member : Member} {score rank : Nat}
    (distinct : ∀ left right common, key.zscore left = some common →
      key.zscore right = some common → left = right)
    (stored : key.zscore member = some score) (ranked : key.zrank member = some rank) :
    ∃ front : Finset Member, front.card = rank ∧
      ∀ other, other ∈ front ↔ ∃ smaller, key.zscore other = some smaller ∧ smaller < score := by
  obtain ⟨inside, isMember, notEarlier⟩ := List.findIdx?_eq_some_iff_getElem.mp ranked
  have pairwise := key.sorted_pairwise
  have entry : key.sorted[rank] = (member, score) := by
    have named : key.sorted[rank].1 = member := by simpa using isMember
    have scored : key.zscore key.sorted[rank].1 = some key.sorted[rank].2 :=
      mem_sorted.mp (List.getElem_mem inside)
    rw [named, stored, Option.some.injEq] at scored
    exact Prod.ext named scored.symm
  refine ⟨((key.sorted.take rank).map Prod.fst).toFinset, ?_, ?_⟩
  · rw [List.toFinset_card_of_nodup, List.length_map, List.length_take]
    · omega
    · exact key.sorted_nodup.sublist ((List.take_sublist _ _).map Prod.fst)
  · intro other
    rw [List.mem_toFinset, List.mem_map]
    constructor
    · rintro ⟨⟨named, smaller⟩, taken, rfl⟩
      obtain ⟨index, indexBound, indexed⟩ := List.mem_take_iff_getElem.mp taken
      have earlier : index < rank := by omega
      have sorted := List.pairwise_iff_getElem.mp pairwise index rank (by omega) inside earlier
      rw [entry, indexed] at sorted
      have otherStored : key.zscore named = some smaller :=
        mem_sorted.mp (List.mem_of_mem_take taken)
      refine ⟨smaller, otherStored, ?_⟩
      rcases sorted with less | ⟨equal, _⟩
      · exact less
      · simp only at equal
        subst equal
        have same := distinct named member smaller otherStored stored
        have passed := notEarlier index earlier
        rw [indexed] at passed
        exact absurd (decide_eq_true same) passed
    · rintro ⟨smaller, otherStored, less⟩
      obtain ⟨index, indexBound, indexed⟩ := List.getElem_of_mem (mem_sorted.mpr otherStored)
      have earlier : index < rank := by
        by_contra late
        rcases Nat.lt_or_ge rank index with after | notAfter
        · have sorted := List.pairwise_iff_getElem.mp pairwise rank index inside indexBound after
          rw [entry, indexed] at sorted
          rcases sorted with greater | ⟨equal, _⟩
          · exact absurd greater (by simp only; omega)
          · simp only at equal
            omega
        · have same : index = rank := by omega
          subst same
          rw [entry, Prod.mk.injEq] at indexed
          omega
      exact ⟨(other, smaller), List.mem_take_iff_getElem.mpr ⟨index, by omega, indexed⟩, rfl⟩

theorem zscore_of_zfirstScore {key : SortedSetKey Member} {score : Nat}
    (first : key.zfirstScore = some score) : ∃ member, key.zscore member = some score := by
  obtain ⟨⟨member, _⟩, head, rfl⟩ := Option.map_eq_some_iff.mp first
  exact ⟨member, mem_sorted.mp (List.mem_of_head? head)⟩

theorem zfirstScore_isSome {key : SortedSetKey Member} (some : 0 < key.zcard) :
    ∃ score, key.zfirstScore = .some score := by
  rw [← sorted_length] at some
  cases entries : key.sorted with
  | nil => simp [entries] at some
  | cons entry rest => exact ⟨entry.2, by simp [zfirstScore, entries]⟩

/-! ## Deadlines -/

theorem deadline_ofEntries {entries : ScoreTable Member} {deadline : Option Nat}
    {member : Member} {score : Nat}
    (stored : (ofEntries entries deadline).zscore member = some score) :
    (ofEntries entries deadline).deadline = deadline := by
  refine if_neg ?_
  intro none
  have inside := zscore_eq_some.mp stored
  rw [show (ofEntries entries deadline).entries.rows = [] from none] at inside
  cases inside

theorem deadline_foldl_zrem {removed : List Member} {key : SortedSetKey Member}
    {member : Member} {score : Nat}
    (stored : (removed.foldl zrem key).zscore member = some score) :
    (removed.foldl zrem key).deadline = key.deadline := by
  induction removed generalizing key with
  | nil => rfl
  | cons head rest inductionHypothesis =>
      rw [List.foldl_cons] at stored ⊢
      have earlier : (key.zrem head).zscore member = some score := by
        rw [zscore_foldl_zrem] at stored
        split at stored
        · cases stored
        · exact stored
      rw [inductionHypothesis stored]
      exact deadline_ofEntries earlier

theorem deadline_expire {key : SortedSetKey Member} {now : Nat} {member : Member} {score : Nat}
    (stored : (key.expire now).zscore member = some score) :
    (key.expire now).deadline = key.deadline := by
  unfold expire at stored ⊢
  split at stored
  · cases stored
  · rename_i alive
    rw [if_neg alive]

end SortedSetKey

/-! ## Counters -/

/-- A key that holds an integer. -/
structure CounterKey where
  value : Option Nat
  deadline : Option Nat
  missing : value = none → deadline = none

namespace CounterKey

def empty : CounterKey := ⟨none, none, fun _ => rfl⟩

/-- `INCR`, with the value it returns. -/
def incr (key : CounterKey) : CounterKey × Nat :=
  let next := key.value.getD 0 + 1
  (⟨some next, key.deadline, fun none => by cases none⟩, next)

/-- `PEXPIRE`, as the absolute deadline it sets; a missing key stays missing. -/
def pexpire (key : CounterKey) (deadline : Nat) : CounterKey where
  value := key.value
  deadline := if key.value = none then none else some deadline
  missing := fun none => if_pos none

/-- The key as a command at time `now` finds it. -/
def expire (key : CounterKey) (now : Nat) : CounterKey :=
  if ∃ deadline ∈ key.deadline, deadline ≤ now then empty else key

end CounterKey

end Zangpu.Foundation
