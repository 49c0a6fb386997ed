import Mathlib.Data.List.Basic
import QueryMenu.Proofs.Entries.OfRows
import QueryMenu.Proofs.Rows.Replace

namespace QueryMenu

/-! What an operation on one row leaves of the other rows.

An entry is stored under a position but belongs to a row, which is known by its id.  So
the frame of an operation is stated by ids: whatever becomes of one row, every other row
shows what it showed, holds what it held and keeps its place among the others.  Its
position is the same, or one less if the row that stood before it has left the screen,
and its entry is renumbered with it.
-/

variable {σ π : Type}

namespace Entries

/-- What a row holds: the payload of the entry at the position where the row now is. -/
def heldBy? (entries : Entries π) (rows : Rows σ) (row : RowId) : Option π :=
  (rows.position? row).bind fun position => (entries.find? position).map Entry.payload

theorem heldBy?_ofRows (holding : σ → Option π) (rows : Rows σ) (row : RowId) :
    (ofRows holding rows).heldBy? rows row = (rows.get? row).bind holding := by
  rw [heldBy?, Rows.position?_eq_lookup?, Rows.get?_eq_lookup?]
  cases located : rows.lookup? row with
  | none => rfl
  | some place =>
      simp only [Option.map_some, Option.bind_some, find?_ofRows holding located, Option.map_map]
      exact Option.map_id_apply

theorem payloads_ofRows {rows : Rows σ} (ordered : rows.Ordered) (holding : σ → Option π) :
    (ofRows holding rows).sorted.map Entry.payload =
      rows.ids.filterMap ((ofRows holding rows).heldBy? rows) := by
  have each : ∀ row ∈ rows.rows,
      (ofRows holding rows).heldBy? rows row.id = holding row.state := by
    intro row member
    obtain ⟨position, place⟩ := List.getElem?_of_mem member
    have located := Rows.lookup?_of_getElem? ordered place
    rw [heldBy?_ofRows, Rows.get?_of_lookup? located, Option.bind_some]
  rw [ofRows, payloads_ofSlots, slotsOf, List.filterMap_map, Rows.ids, List.filterMap_map]
  exact (List.filterMap_congr each).symm

end Entries

/-- The row is gone, and stood before this position. -/
def Rows.ClosesUp (before after : Rows σ) (row : RowId) (position : Nat) : Prop :=
  after.position? row = none ∧ ∃ gap, before.position? row = some gap ∧ gap < position

/-- What an operation on one row leaves of the others. -/
structure Frame (row : RowId) (before after : Rows σ) (entries next : Entries π) : Prop where
  order : after.ids.filter (· ≠ row) = before.ids.filter (· ≠ row)
  view : ∀ other, other ≠ row → after.get? other = before.get? other
  held : ∀ other, other ≠ row → next.heldBy? after other = entries.heldBy? before other
  place : ∀ other position, other ≠ row → before.position? other = some position →
    ∃ place, after.position? other = some place ∧
      next.find? place =
        (entries.find? position).map (fun entry => { entry with position := place }) ∧
      (before.ClosesUp after row position → place + 1 = position) ∧
      (¬ before.ClosesUp after row position → place = position)

/-- What the addition of a row leaves of the rows there are. -/
structure Extension (before after : Rows σ) (entries next : Entries π) : Prop where
  order : before.ids <+: after.ids
  stored : next = entries
  view : ∀ row state, before.get? row = some state → after.get? row = some state
  held : ∀ row, (before.get? row).isSome → next.heldBy? after row = entries.heldBy? before row
  place : ∀ row position, before.position? row = some position →
    after.position? row = some position

theorem Extension.refl (rows : Rows σ) (entries : Entries π) :
    Extension rows rows entries entries :=
  ⟨List.prefix_rfl, rfl, fun _ _ => id, fun _ _ => rfl, fun _ _ => id⟩

namespace Rows

variable {rows : Rows σ} {row : RowId} {gap : Nat} {state : σ}

theorem closesUp_replace (ordered : rows.Ordered) (found : rows.lookup? row = some (gap, state))
    (fate : Option σ) (position : Nat) :
    rows.ClosesUp (rows.replace row fate) row position ↔ fate = none ∧ gap < position := by
  rw [ClosesUp, position?_eq_lookup?, position?_eq_lookup?, found,
    lookup?_replace_self ordered found]
  simp

theorem find?_moved (holding : σ → Option π) {after : Rows σ} {position place : Nat}
    (was : rows.lookup? row = some (position, state))
    (moved : after.lookup? row = some (place, state)) :
    (Entries.ofRows holding after).find? place =
      ((Entries.ofRows holding rows).find? position).map fun entry =>
        { entry with position := place } := by
  rw [Entries.find?_ofRows holding moved, Entries.find?_ofRows holding was, Option.map_map]
  rfl

theorem frame_replace (ordered : rows.Ordered) (holding : σ → Option π) (row : RowId)
    (fate : Option σ) :
    Frame row rows (rows.replace row fate) (.ofRows holding rows)
      (.ofRows holding (rows.replace row fate)) where
  order := ids_replace rows row fate
  view other different := get?_replace ordered different fate
  held other different := by
    rw [Entries.heldBy?_ofRows, Entries.heldBy?_ofRows, get?_replace ordered different]
  place other position different standing := by
    rw [position?_eq_lookup?, Option.map_eq_some_iff] at standing
    obtain ⟨⟨position, shown⟩, located, rfl⟩ := standing
    cases found : rows.lookup? row with
    | none =>
        -- A row that was not on screen cannot have left it.
        have still : ¬ rows.ClosesUp rows row position := by
          simp [ClosesUp, position?_eq_lookup?, found]
        rw [replace_missing found]
        exact ⟨position, position?_of_lookup? located, find?_moved holding located located,
          fun closes => absurd closes still, fun _ => rfl⟩
    | some own =>
        obtain ⟨gap, state⟩ := own
        have moved := lookup?_replace ordered found different fate
        rw [located, Option.map_some] at moved
        rw [closesUp_replace ordered found]
        by_cases closes : fate = none ∧ gap < position
        · simp only [if_pos closes] at moved
          exact ⟨position - 1, position?_of_lookup? moved, find?_moved holding located moved,
            fun _ => Nat.sub_add_cancel (Nat.zero_lt_of_lt closes.2),
            fun stays => absurd closes stays⟩
        · simp only [if_neg closes] at moved
          exact ⟨position, position?_of_lookup? moved, find?_moved holding located moved,
            fun gone => absurd gone closes, fun _ => rfl⟩

theorem extension_push (holding : σ → Option π) {fresh : σ} (empty : holding fresh = none)
    (rows : Rows σ) :
    Extension rows (rows.push fresh).2 (.ofRows holding rows)
      (.ofRows holding (rows.push fresh).2) := by
  have located : ∀ row place, rows.lookup? row = some place →
      (rows.push fresh).2.lookup? row = some place := by
    intro row place found
    have early : Row.locate row rows.rows 0 = some place := found
    simp only [push, lookup?, Row.locate_append, early, Option.some_or]
  have shown : ∀ row state, rows.get? row = some state →
      (rows.push fresh).2.get? row = some state := by
    intro row state found
    obtain ⟨position, place⟩ := exists_lookup? found
    exact get?_of_lookup? (located row _ place)
  refine ⟨by simp [ids, push], Entries.ofRows_push holding empty rows, shown, fun row present => ?_,
    fun row position standing => ?_⟩
  · obtain ⟨state, found⟩ := Option.isSome_iff_exists.mp present
    rw [Entries.heldBy?_ofRows, Entries.heldBy?_ofRows, shown row state found, found]
  · rw [position?_eq_lookup?, Option.map_eq_some_iff] at standing
    obtain ⟨⟨position, state⟩, found, rfl⟩ := standing
    exact position?_of_lookup? (located row _ found)

end Rows

end QueryMenu
