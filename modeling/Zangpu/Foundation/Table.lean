import Mathlib

/-!
Finite relational tables with a unique key.

Owns: the table type, whose key uniqueness is a field; keyed lookup, insertion
that ignores an occupied key and in-place modification of one row; the laws of
lookup and membership after each of them; and the effect of each on an integer
column total.

Does not own: secondary unique constraints, check constraints or transactions.
-/

set_option autoImplicit false

namespace Zangpu.Foundation

universe u v

/-- Rows in insertion order, no two with the same key. -/
structure Table (Row : Type u) {Key : Type v} (key : Row → Key) where
  rows : List Row
  unique : (rows.map key).Nodup

namespace Table

variable {Row : Type u} {Key : Type v} {key : Row → Key} [DecidableEq Key]

def empty : Table Row key := ⟨[], List.nodup_nil⟩

/-- The row stored under a key. -/
def find? (table : Table Row key) (wanted : Key) : Option Row :=
  table.rows.find? fun row => decide (key row = wanted)

/-- Append a row; an occupied key leaves the table as it is. -/
def insertNew (table : Table Row key) (row : Row) : Table Row key :=
  if fresh : key row ∉ table.rows.map key then
    ⟨table.rows ++ [row], by
      rw [List.map_append, List.map_singleton]
      exact List.nodup_append.mpr ⟨table.unique, by simp, by
        intro left leftMember right rightMember equal
        rw [List.mem_singleton] at rightMember
        exact fresh (rightMember ▸ equal ▸ leftMember)⟩⟩
  else table

/-- Rewrite the row stored under a key by a function that keeps keys. -/
def modify (table : Table Row key) (wanted : Key) (change : Row → Row)
    (keeps : ∀ row, key (change row) = key row) : Table Row key where
  rows := table.rows.map fun row => if key row = wanted then change row else row
  unique := by
    have sameKeys :
        (table.rows.map fun row => if key row = wanted then change row else row).map key =
          table.rows.map key := by
      rw [List.map_map]
      apply List.map_congr_left
      intro row _
      simp only [Function.comp_apply]
      split
      · exact keeps row
      · rfl
    rw [sameKeys]
    exact table.unique

/-- The rows that satisfy a test. -/
def restrict (table : Table Row key) (keep : Row → Bool) : Table Row key where
  rows := table.rows.filter keep
  unique := table.unique.sublist (List.filter_sublist.map key)

/-- Sum of an integer column expression over all rows. -/
def total (table : Table Row key) (column : Row → Int) : Int :=
  (table.rows.map column).sum

omit [DecidableEq Key] in
@[simp] theorem empty_total (column : Row → Int) :
    (empty : Table Row key).total column = 0 := rfl

omit [DecidableEq Key] in
/-- A guarded column totals the rows that pass the guard. -/
theorem total_ite (table : Table Row key) (guard : Row → Prop) [DecidablePred guard]
    (column : Row → Int) :
    table.total (fun row => if guard row then column row else 0) =
      ((table.rows.filter fun row => decide (guard row)).map column).sum := by
  unfold total
  induction table.rows with
  | nil => rfl
  | cons head tail inductionHypothesis =>
      by_cases passes : guard head
      · simp [passes, inductionHypothesis]
      · simp [passes, inductionHypothesis]

omit [DecidableEq Key] in
theorem total_zero {table : Table Row key} {column : Row → Int}
    (vanishes : ∀ row ∈ table.rows, column row = 0) : table.total column = 0 := by
  unfold total
  rw [List.map_congr_left vanishes]
  simp

omit [DecidableEq Key] in
theorem total_nonneg {table : Table Row key} {column : Row → Int}
    (nonneg : ∀ row ∈ table.rows, 0 ≤ column row) : 0 ≤ table.total column := by
  unfold total
  apply List.sum_nonneg
  intro value member
  obtain ⟨row, rowMember, rfl⟩ := List.mem_map.mp member
  exact nonneg row rowMember

omit [DecidableEq Key] in
/-- One row of a nonnegative column is at most the column's total. -/
theorem column_le_total {table : Table Row key} {column : Row → Int}
    (nonneg : ∀ row ∈ table.rows, 0 ≤ column row) {row : Row} (member : row ∈ table.rows) :
    column row ≤ table.total column := by
  unfold total
  refine List.single_le_sum ?_ (column row) (List.mem_map_of_mem member)
  intro value valueMember
  obtain ⟨other, otherMember, rfl⟩ := List.mem_map.mp valueMember
  exact nonneg other otherMember

/-! ## Lookup -/

theorem find?_some_iff (table : Table Row key) (wanted : Key) (row : Row) :
    table.find? wanted = some row ↔ row ∈ table.rows ∧ key row = wanted := by
  constructor
  · intro found
    exact ⟨List.mem_of_find?_eq_some found, by simpa using List.find?_some found⟩
  · rintro ⟨member, keyed⟩
    cases found : table.find? wanted with
    | none =>
        have absent := List.find?_eq_none.mp found row member
        exact absurd (decide_eq_true keyed) absent
    | some other =>
        have otherMember := List.mem_of_find?_eq_some found
        have otherKeyed : key other = wanted := by simpa using List.find?_some found
        rw [List.inj_on_of_nodup_map table.unique otherMember member
          (otherKeyed.trans keyed.symm)]

theorem find?_none_iff (table : Table Row key) (wanted : Key) :
    table.find? wanted = none ↔ ∀ row ∈ table.rows, key row ≠ wanted := by
  simp [find?, List.find?_eq_none]

theorem mem_of_find? {table : Table Row key} {wanted : Key} {row : Row}
    (found : table.find? wanted = some row) : row ∈ table.rows :=
  ((find?_some_iff table wanted row).mp found).1

theorem key_of_find? {table : Table Row key} {wanted : Key} {row : Row}
    (found : table.find? wanted = some row) : key row = wanted :=
  ((find?_some_iff table wanted row).mp found).2

theorem find?_of_mem {table : Table Row key} {row : Row} (member : row ∈ table.rows) :
    table.find? (key row) = some row :=
  (find?_some_iff table _ row).mpr ⟨member, rfl⟩

@[simp] theorem find?_empty (wanted : Key) :
    (empty : Table Row key).find? wanted = none := rfl

/-- Two rows under one key are one row. -/
theorem eq_of_key_eq {table : Table Row key} {left right : Row}
    (leftMember : left ∈ table.rows) (rightMember : right ∈ table.rows)
    (sameKey : key left = key right) : left = right := by
  have leftFound := find?_of_mem leftMember
  rw [sameKey, find?_of_mem rightMember] at leftFound
  exact (Option.some.inj leftFound).symm

/-! ## Insertion -/

theorem insertNew_rows {table : Table Row key} {row : Row}
    (fresh : table.find? (key row) = none) :
    (table.insertNew row).rows = table.rows ++ [row] := by
  have absent : key row ∉ table.rows.map key := by
    intro member
    obtain ⟨other, otherMember, sameKey⟩ := List.mem_map.mp member
    exact (find?_none_iff table _).mp fresh other otherMember sameKey
  unfold insertNew
  rw [dif_pos absent]

theorem insertNew_occupied {table : Table Row key} {row old : Row}
    (found : table.find? (key row) = some old) : table.insertNew row = table := by
  unfold insertNew
  rw [dif_neg]
  intro absent
  exact absent (List.mem_map.mpr ⟨old, mem_of_find? found, key_of_find? found⟩)

theorem mem_insertNew {table : Table Row key} {row other : Row}
    (fresh : table.find? (key row) = none) :
    other ∈ (table.insertNew row).rows ↔ other ∈ table.rows ∨ other = row := by
  rw [insertNew_rows fresh, List.mem_append, List.mem_singleton]

theorem mem_insertNew_of_mem {table : Table Row key} {row other : Row}
    (member : other ∈ table.rows) : other ∈ (table.insertNew row).rows := by
  cases found : table.find? (key row) with
  | none => exact (mem_insertNew found).mpr (Or.inl member)
  | some old => rwa [insertNew_occupied found]

theorem find?_insertNew_same {table : Table Row key} {row : Row}
    (fresh : table.find? (key row) = none) :
    (table.insertNew row).find? (key row) = some row :=
  (find?_some_iff _ _ _).mpr ⟨(mem_insertNew fresh).mpr (Or.inr rfl), rfl⟩

theorem find?_insertNew_of_ne {table : Table Row key} {row : Row} {wanted : Key}
    (different : key row ≠ wanted) :
    (table.insertNew row).find? wanted = table.find? wanted := by
  cases found : table.find? (key row) with
  | some old => rw [insertNew_occupied found]
  | none =>
      unfold find?
      rw [insertNew_rows found, List.find?_append]
      simp [different]

/-- An insertion leaves a row under its key: the old one, else the new one. -/
theorem find?_insertNew_key (table : Table Row key) (row : Row) :
    (table.insertNew row).find? (key row) = some ((table.find? (key row)).getD row) := by
  cases found : table.find? (key row) with
  | none => exact find?_insertNew_same found
  | some old =>
      rw [insertNew_occupied found]
      exact found

theorem find?_insertNew_of_some {table : Table Row key} {row old : Row} {wanted : Key}
    (found : table.find? wanted = some old) :
    (table.insertNew row).find? wanted = some old :=
  (find?_some_iff _ _ _).mpr ⟨mem_insertNew_of_mem (mem_of_find? found), key_of_find? found⟩

/-- Lookup after the insertion of a row under a fresh key. -/
theorem find?_insertNew {table : Table Row key} {row : Row}
    (fresh : table.find? (key row) = none) (wanted : Key) :
    (table.insertNew row).find? wanted =
      if wanted = key row then some row else table.find? wanted := by
  split
  · rename_i same
    rw [same]
    exact find?_insertNew_same fresh
  · rename_i different
    exact find?_insertNew_of_ne fun equal => different equal.symm

theorem total_insertNew {table : Table Row key} {row : Row} (column : Row → Int)
    (fresh : table.find? (key row) = none) :
    (table.insertNew row).total column = table.total column + column row := by
  unfold total
  rw [insertNew_rows fresh]
  simp

/-! ## Restriction -/

theorem find?_restrict {table : Table Row key} {keep : Row → Bool} (wanted : Key) :
    (table.restrict keep).find? wanted = (table.find? wanted).filter keep := by
  cases found : table.find? wanted with
  | none =>
      rw [Option.filter_none, find?_none_iff]
      intro row member
      exact (find?_none_iff table wanted).mp found row (List.mem_of_mem_filter member)
  | some row =>
      obtain ⟨member, sameKey⟩ := (find?_some_iff table wanted row).mp found
      by_cases kept : keep row
      · rw [Option.filter_some_pos kept, find?_some_iff]
        exact ⟨List.mem_filter.mpr ⟨member, kept⟩, sameKey⟩
      · rw [Option.filter_some_neg (eq_false_of_ne_true kept), find?_none_iff]
        intro other otherMember otherKey
        obtain ⟨stored, otherKept⟩ := List.mem_filter.mp otherMember
        exact kept (eq_of_key_eq stored member (otherKey.trans sameKey.symm) ▸ otherKept)

/-! ## Modification -/

section Modify

variable {change : Row → Row} {keeps : ∀ row, key (change row) = key row}

theorem mem_modify (keeps : ∀ row, key (change row) = key row) {table : Table Row key}
    {wanted : Key} {row : Row} :
    row ∈ (table.modify wanted change keeps).rows ↔
      ∃ old ∈ table.rows, row = if key old = wanted then change old else old := by
  simp only [modify, List.mem_map, eq_comm]

theorem find?_modify_same {table : Table Row key} {wanted : Key} {row : Row}
    (found : table.find? wanted = some row) :
    (table.modify wanted change keeps).find? wanted = some (change row) := by
  have keyed := key_of_find? found
  refine (find?_some_iff _ _ _).mpr ⟨(mem_modify keeps).mpr ⟨row, mem_of_find? found, ?_⟩, ?_⟩
  · rw [if_pos keyed]
  · rw [keeps, keyed]

theorem find?_modify_of_ne {table : Table Row key} {wanted other : Key}
    (different : wanted ≠ other) :
    (table.modify wanted change keeps).find? other = table.find? other := by
  have forward : ∀ row, (table.modify wanted change keeps).find? other = some row ↔
      table.find? other = some row := by
    intro row
    rw [find?_some_iff, find?_some_iff, mem_modify keeps]
    constructor
    · rintro ⟨⟨old, member, equal⟩, keyed⟩
      split at equal
      · rename_i oldKeyed
        rw [equal, keeps, oldKeyed] at keyed
        exact absurd keyed different
      · exact equal ▸ ⟨member, equal ▸ keyed⟩
    · rintro ⟨member, keyed⟩
      refine ⟨⟨row, member, ?_⟩, keyed⟩
      rw [if_neg (fun equal => different (equal.symm.trans keyed))]
  cases found : table.find? other with
  | some row => exact (forward row).mpr found
  | none =>
      cases modified : (table.modify wanted change keeps).find? other with
      | none => rfl
      | some row => rw [(forward row).mp modified] at found; cases found

/-- Lookup after a modification: the row under the key is changed, if there is one. -/
theorem find?_modify (keeps : ∀ row, key (change row) = key row) (table : Table Row key)
    (wanted other : Key) :
    (table.modify wanted change keeps).find? other =
      if other = wanted then (table.find? other).map change else table.find? other := by
  by_cases same : other = wanted
  · subst same
    rw [if_pos rfl]
    cases found : table.find? other with
    | some row => rw [find?_modify_same found, Option.map_some]
    | none =>
        rw [Option.map_none, find?_none_iff]
        intro row member
        obtain ⟨old, stored, rfl⟩ := (mem_modify keeps).mp member
        have absent := (find?_none_iff table other).mp found old stored
        rw [if_neg absent]
        exact absent
  · rw [if_neg same, find?_modify_of_ne (fun equal => same equal.symm)]

private theorem sum_map_modify {rows : List Row} (unique : (rows.map key).Nodup)
    (column : Row → Int) {wanted : Key} {row : Row} (member : row ∈ rows)
    (keyed : key row = wanted) :
    ((rows.map fun other => if key other = wanted then change other else other).map column).sum =
      (rows.map column).sum + (column (change row) - column row) := by
  induction rows with
  | nil => cases member
  | cons head tail inductionHypothesis =>
      rw [List.map_cons, List.nodup_cons] at unique
      simp only [List.map_cons, List.sum_cons]
      rcases List.mem_cons.mp member with equal | inTail
      · subst equal
        -- The head carries the key, so no row of the tail is touched.
        have untouched :
            tail.map (fun other => if key other = wanted then change other else other) = tail := by
          conv_rhs => rw [← List.map_id tail]
          apply List.map_congr_left
          intro other otherMember
          rw [if_neg, id_eq]
          intro equal
          exact unique.1 (List.mem_map.mpr ⟨other, otherMember, equal.trans keyed.symm⟩)
        rw [untouched, if_pos keyed]
        omega
      · have different : key head ≠ wanted := by
          intro equal
          exact unique.1 (List.mem_map.mpr ⟨row, inTail, keyed.trans equal.symm⟩)
        rw [if_neg different, inductionHypothesis unique.2 inTail]
        omega

theorem total_modify {table : Table Row key} {wanted : Key} {row : Row} (column : Row → Int)
    (found : table.find? wanted = some row) :
    (table.modify wanted change keeps).total column =
      table.total column + (column (change row) - column row) :=
  sum_map_modify table.unique column (mem_of_find? found) (key_of_find? found)

end Modify

end Table

end Zangpu.Foundation
