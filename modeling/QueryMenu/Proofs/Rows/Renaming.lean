import QueryMenu.Proofs.Entries.OfRows
import QueryMenu.Proofs.Rows.Replace
import QueryMenu.Reply

namespace QueryMenu

/-! Rows under other ids.

A menu that has been reset goes on with the row that it has and with ids that it has not
issued yet, where a new menu begins with the first of all ids.  The ids come in the same
order in both, and nothing else about an id counts: rows that are looked up, replaced and
added by the ids of the one are so by the ids of the other.
-/

variable {σ τ : Type}

/-- The ids of a menu that is left with the row `first` after it issued so many. -/
structure Renaming where
  first : RowId
  issued : Nat
  below : first.number < issued

namespace Renaming

variable (ids : Renaming)

/-- The id that stands for one of a new menu. -/
def row : RowId → RowId
  | ⟨0⟩ => ids.first
  | ⟨number + 1⟩ => ⟨ids.issued + number⟩

/-- Rows of a new menu under the other ids, with their states changed. -/
def rows (change : RowId → σ → τ) (rows : Rows σ) : Rows τ :=
  ⟨rows.rows.map fun row => ⟨ids.row row.id, change row.id row.state⟩,
    (ids.row ⟨rows.issued⟩).number⟩

def error : MenuError → MenuError
  | .unknownRow row => .unknownRow (ids.row row)
  | other => other

def reply {α : Type} (answer : Except MenuError α) : Except MenuError α :=
  answer.mapError ids.error

variable {ids} {id other : RowId}

theorem row_lt_row (earlier : id.number < other.number) :
    (ids.row id).number < (ids.row other).number := by
  have below := ids.below
  obtain ⟨_ | first⟩ := id <;> obtain ⟨_ | second⟩ := other <;> simp only [row] at earlier ⊢ <;>
    omega

theorem row_inj : ids.row id = ids.row other ↔ id = other := by
  refine ⟨fun same => ?_, congrArg _⟩
  have numbers := congrArg RowId.number same
  rcases Nat.lt_trichotomy id.number other.number with before | equal | after
  · exact absurd numbers (Nat.ne_of_lt (row_lt_row before))
  · exact congrArg RowId.mk equal
  · exact absurd numbers.symm (Nat.ne_of_lt (row_lt_row after))

theorem exists_row (named : id = ids.first ∨ ids.issued ≤ id.number) :
    ∃ other, ids.row other = id := by
  rcases named with rfl | later
  · exact ⟨⟨0⟩, rfl⟩
  · refine ⟨⟨id.number - ids.issued + 1⟩, congrArg RowId.mk ?_⟩
    omega

variable {change : RowId → σ → τ} {rows : Rows σ}

@[simp] theorem size_rows : (ids.rows change rows).size = rows.size :=
  List.length_map _

theorem get?_rows : (ids.rows change rows).get? (ids.row id) =
    (rows.get? id).map (change id) := by
  rw [Rows.get?, Rows.get?, Renaming.rows, List.find?_map]
  simp only [Function.comp_def, row_inj, Option.map_map]
  cases found : rows.rows.find? fun row => row.id = id with
  | none => rfl
  | some row =>
      have named : row.id = id := by simpa using List.find?_some found
      simp [named]

theorem replace_rows (ids : Renaming) (change : RowId → σ → τ) (rows : Rows σ) (id : RowId)
    (fate : Option σ) :
    (ids.rows change rows).replace (ids.row id) (fate.map (change id)) =
      ids.rows change (rows.replace id fate) := by
  have replaced : ∀ row : Row σ,
      Row.replaced (ids.row id) (fate.map (change id))
          ⟨ids.row row.id, change row.id row.state⟩ =
        (Row.replaced id fate row).map fun row =>
          ⟨ids.row row.id, change row.id row.state⟩ := by
    intro row
    by_cases named : row.id = id
    · cases fate <;> simp [Row.replaced, named]
    · simp [Row.replaced, named, row_inj]
  simp only [Rows.replace, Renaming.rows, List.filterMap_map, List.map_filterMap,
    Function.comp_def, replaced]

/-- The next id of a new menu that has issued one stands for the next id. -/
theorem push_rows (ids : Renaming) (change : RowId → σ → τ) (begun : 0 < rows.issued)
    {state : σ} {other : τ} (fresh : ∀ id, 0 < id.number → change id state = other) :
    (ids.rows change rows).push other =
      (ids.row (rows.push state).1, ids.rows change (rows.push state).2) := by
  obtain ⟨rows, _ | issued⟩ := rows
  · cases begun
  · simp [Rows.push, Renaming.rows, row, fresh ⟨issued + 1⟩ (Nat.succ_pos issued), Nat.add_assoc]

theorem ofRows_rows {π : Type} {holding : τ → Option π} {held : σ → Option π}
    (same : ∀ id state, holding (change id state) = held state) :
    Entries.ofRows holding (ids.rows change rows) = Entries.ofRows held rows := by
  simp [Entries.ofRows, Entries.slotsOf, Renaming.rows, Function.comp_def, same]

end Renaming

theorem Rows.Ordered.issued_pos {rows : Rows σ} (ordered : rows.Ordered)
    (populated : 0 < rows.size) : 0 < rows.issued := by
  obtain ⟨row, member⟩ := List.exists_mem_of_length_pos populated
  exact Nat.lt_of_le_of_lt (Nat.zero_le _) (ordered.issued row.id (List.mem_map_of_mem member))

end QueryMenu
