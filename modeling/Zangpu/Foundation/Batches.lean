import Mathlib.Data.List.Sort
import Mathlib.Data.List.Perm.Lattice
import Mathlib.Tactic.Common
import Zangpu.Foundation.Table

/-!
Batched deletion from keyed tables.

Owns: the rows of a table that a test chooses, in the order of a rank; the deletion
of a list of keys with its row count; and what is left of the chosen rows when the
first of them are deleted, or an unchosen row is added.

Does not own: how many batches are deleted.
-/

set_option autoImplicit false

namespace Zangpu.Foundation

namespace Table

variable {Row Key Rank : Type} {key : Row → Key} [DecidableEq Key] [LinearOrder Rank]

/-- The chosen rows, by rank: `WHERE chosen ORDER BY rank`. -/
def ordered (rank : Row → Rank) (chosen : Row → Bool) (table : Table Row key) : List Row :=
  (table.rows.filter chosen).insertionSort fun left right => rank left ≤ rank right

/-- `DELETE WHERE key IN keys`, with the number of rows it deleted. -/
def deleteKeys (table : Table Row key) (keys : List Key) : Table Row key × Nat :=
  (table.restrict fun row => key row ∉ keys, table.rows.countP fun row => key row ∈ keys)

/-- The keys of the first chosen rows. -/
def firstKeys (rank : Row → Rank) (chosen : Row → Bool) (limit : Nat) (table : Table Row key) :
    List Key :=
  ((table.ordered rank chosen).take limit).map key

variable {rank : Row → Rank} {chosen : Row → Bool} {table : Table Row key}

omit [DecidableEq Key] in
theorem mem_ordered {row : Row} :
    row ∈ table.ordered rank chosen ↔ row ∈ table.rows ∧ chosen row = true := by
  unfold ordered
  rw [List.mem_insertionSort, List.mem_filter]

omit [DecidableEq Key] in
theorem ordered_perm (table : Table Row key) :
    (table.ordered rank chosen).Perm (table.rows.filter chosen) :=
  List.perm_insertionSort _ _

omit [DecidableEq Key] in
theorem ordered_length (table : Table Row key) :
    (table.ordered rank chosen).length = table.rows.countP chosen := by
  rw [(ordered_perm table).length_eq, List.countP_eq_length_filter]

omit [DecidableEq Key] in
theorem ordered_pairwise (table : Table Row key) :
    (table.ordered rank chosen).Pairwise fun left right => rank left ≤ rank right :=
  List.pairwise_insertionSort _ _

omit [DecidableEq Key] in
theorem ordered_unique (table : Table Row key) :
    ((table.ordered rank chosen).map key).Nodup := by
  rw [((ordered_perm table).map key).nodup_iff]
  exact table.unique.sublist (List.filter_sublist.map key)

omit [LinearOrder Rank] in
/-- Filtering a list of distinct keys by what is not among its first keys drops them. -/
theorem filter_notMem_take {rows : List Row} (unique : (rows.map key).Nodup) (limit : Nat) :
    (rows.filter fun row => key row ∉ (rows.take limit).map key) = rows.drop limit := by
  have split := List.take_append_drop limit rows
  have disjoint : (((rows.take limit).map key) ++ ((rows.drop limit).map key)).Nodup := by
    rw [← List.map_append, split]
    exact unique
  conv_lhs => rw [← split, List.filter_append]
  rw [split]
  have gone : ((rows.take limit).filter fun row => key row ∉ (rows.take limit).map key) = [] := by
    rw [List.filter_eq_nil_iff]
    intro row member absent
    exact of_decide_eq_true absent (List.mem_map_of_mem member)
  have kept : ((rows.drop limit).filter fun row => key row ∉ (rows.take limit).map key) =
      rows.drop limit := by
    rw [List.filter_eq_self]
    intro row member
    refine decide_eq_true fun taken => ?_
    exact List.disjoint_of_nodup_append disjoint taken (List.mem_map_of_mem member)
  rw [gone, kept, List.nil_append]

section Rank

variable (injective : ∀ left right, rank left = rank right → key left = key right)
include injective

omit [DecidableEq Key] in
/-- Two lists of rows of one table in rank order are equal when they hold the same rows. -/
theorem eq_of_perm_of_pairwise {left right : List Row} (inside : ∀ row ∈ right, row ∈ table.rows)
    (same : left.Perm right)
    (leftSorted : left.Pairwise fun first second => rank first ≤ rank second)
    (rightSorted : right.Pairwise fun first second => rank first ≤ rank second) :
    left = right := by
  refine same.eq_of_pairwise ?_ leftSorted rightSorted
  intro first second firstMember secondMember below above
  have sameKey := injective first second (le_antisymm below above)
  exact List.inj_on_of_nodup_map table.unique (inside first (same.subset firstMember))
    (inside second secondMember) sameKey

/-- After the first chosen rows are deleted, the chosen rows are the later ones. -/
theorem ordered_delete (limit : Nat) :
    (table.deleteKeys (table.firstKeys rank chosen limit)).1.ordered rank chosen =
      (table.ordered rank chosen).drop limit := by
  have kept : ∀ row ∈ (table.ordered rank chosen).drop limit, row ∈ table.rows :=
    fun row member => (mem_ordered.mp (List.mem_of_mem_drop member)).1
  refine eq_of_perm_of_pairwise injective kept ?_ (ordered_pairwise _)
    ((ordered_pairwise table).sublist (List.drop_sublist _ _))
  refine (ordered_perm _).trans ?_
  unfold deleteKeys restrict firstKeys
  dsimp only
  rw [List.filter_filter, ← filter_notMem_take (ordered_unique table) limit]
  simp only [Bool.and_comm (chosen _)]
  rw [← List.filter_filter]
  exact ((ordered_perm table).filter _).symm

end Rank

/-- As many rows are deleted as keys were selected. -/
theorem deleteKeys_count (limit : Nat) :
    (table.deleteKeys (table.firstKeys rank chosen limit)).2 =
      (table.firstKeys rank chosen limit).length := by
  have selected : (table.firstKeys rank chosen limit).Nodup :=
    (ordered_unique table).sublist ((List.take_sublist _ _).map key)
  have found : ((table.rows.filter fun row =>
      decide (key row ∈ table.firstKeys rank chosen limit)).map key).Perm
        (table.firstKeys rank chosen limit) := by
    rw [List.perm_ext_iff_of_nodup (table.unique.sublist (List.filter_sublist.map key)) selected]
    intro wanted
    rw [List.mem_map]
    constructor
    · rintro ⟨row, member, rfl⟩
      exact of_decide_eq_true (List.mem_filter.mp member).2
    · intro wantedMember
      obtain ⟨row, member, rfl⟩ := List.mem_map.mp wantedMember
      have stored := (mem_ordered.mp (List.mem_of_mem_take member)).1
      exact ⟨row, List.mem_filter.mpr ⟨stored, decide_eq_true wantedMember⟩, rfl⟩
  show table.rows.countP _ = _
  rw [List.countP_eq_length_filter, ← List.length_map key]
  exact found.length_eq

/-- An unchosen row that is added changes nothing among the chosen ones. -/
theorem ordered_insertNew {row : Row} (fresh : table.find? (key row) = none)
    (unchosen : chosen row = false) :
    (table.insertNew row).ordered rank chosen = table.ordered rank chosen := by
  unfold ordered
  rw [insertNew_rows fresh, List.filter_append]
  simp [unchosen]

end Table

end Zangpu.Foundation
