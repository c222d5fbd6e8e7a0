import Mathlib.Tactic.Common

/-!
Columns under the UPDATE of an object-relational session.

Owns: the value of one column after an UPDATE that writes only changed columns.

Does not own: when the UPDATE takes effect.
-/

set_option autoImplicit false

namespace Zangpu.Foundation

/-- A column after a commit: what the session wrote, if it changed the value it
had read. -/
def column {α : Type} [DecidableEq α] (read wrote current : α) : α :=
  if wrote = read then current else wrote

theorem column_self {α : Type} [DecidableEq α] (read current : α) :
    column read read current = current := if_pos rfl

theorem column_of_ne {α : Type} [DecidableEq α] {read wrote : α} (changed : wrote ≠ read)
    (current : α) : column read wrote current = wrote := if_neg changed

/-- A column whose row is unchanged since the read holds what the session wrote. -/
theorem column_current {α : Type} [DecidableEq α] (read wrote : α) :
    column read wrote read = wrote := by
  unfold column
  split
  · rename_i same
    exact same.symm
  · rfl

end Zangpu.Foundation
