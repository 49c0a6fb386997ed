import Mathlib.Data.List.InsertIdx
import QueryMenu.Proofs.Entries.Slots
import QueryMenu.Proofs.Rows

namespace QueryMenu.Entries

/-! The entries that rows on screen account for.

A menu keeps what a row shows apart from the row's entry.  `holding` reads the entry
off what the row shows; a menu whose entries are those of its rows stays so when a row
and its entry are changed together.
-/

variable {σ π : Type} (holding : σ → Option π)

/-- What each row holds, in display order. -/
def slotsOf (rows : Rows σ) : List (Option π) :=
  rows.rows.map fun row => holding row.state

def ofRows (rows : Rows σ) : Entries π :=
  .ofSlots (slotsOf holding rows)

variable {rows rest : Rows σ} {id : RowId} {position : Nat} {state : σ}

theorem slotsOf_eq (rows : Rows σ) : slotsOf holding rows = rows.states.map holding :=
  (List.map_map).symm

theorem length_slotsOf (rows : Rows σ) : (slotsOf holding rows).length = rows.size := by
  rw [slotsOf, List.length_map, Rows.size]

theorem getElem?_slotsOf (found : rows.lookup? id = some (position, state)) :
    (slotsOf holding rows)[position]? = some (holding state) := by
  rw [slotsOf, List.getElem?_map, Rows.getElem?_of_lookup? found, Option.map_some]

theorem slotsOf_set (found : rows.lookup? id = some (position, state)) (fresh : σ) :
    slotsOf holding (rows.set id fresh) =
      (slotsOf holding rows).set position (holding fresh) := by
  rw [Rows.set_eq found, slotsOf, slotsOf, List.map_set]

theorem find?_ofRows (found : rows.lookup? id = some (position, state)) :
    (ofRows holding rows).find? position = (holding state).map (Entry.mk position) := by
  rw [ofRows, find?_ofSlots, getElem?_slotsOf holding found, Option.join_some]

theorem indexOf?_isNone_ofRows (found : rows.lookup? id = some (position, state)) :
    ((ofRows holding rows).indexOf? position).isNone = (holding state).isNone := by
  obtain ⟨before, after, cut, rfl, -⟩ := exists_cut (getElem?_slotsOf holding found)
  rw [ofRows, cut, indexOf?_cut, Option.isNone_map]

theorem choose_ofRows [Payload π] {choice : Choice π} {fresh : σ}
    (found : rows.lookup? id = some (position, state))
    (chosen : holding fresh = Slot.choose (holding state) choice) :
    (ofRows holding rows).choose position choice =
      ⟨ofRows holding (rows.set id fresh), .ok (Slot.effect (holding state) choice)⟩ := by
  rw [ofRows, choose_ofSlots (getElem?_slotsOf holding found), ← chosen,
    ← slotsOf_set holding found, ofRows]

theorem clear_ofRows {fresh : σ} (empty : holding fresh = none)
    (found : rows.lookup? id = some (position, state)) :
    (ofRows holding rows).clear position =
      ⟨ofRows holding (rows.set id fresh), .ok ((holding state).map (Entry.mk position))⟩ := by
  rw [ofRows, clear_ofSlots (getElem?_slotsOf holding found), ← empty,
    ← slotsOf_set holding found, ofRows]

theorem revisePayload_ofRows {change : π → π} {fresh : σ}
    (found : rows.lookup? id = some (position, state))
    (changed : holding fresh = (holding state).map change) :
    (ofRows holding rows).revisePayload position change = ofRows holding (rows.set id fresh) := by
  rw [ofRows, revisePayload_ofSlots (getElem?_slotsOf holding found), ← changed,
    ← slotsOf_set holding found, ofRows]

theorem ofRows_set_same {fresh : σ} (found : rows.lookup? id = some (position, state))
    (same : holding fresh = holding state) :
    ofRows holding (rows.set id fresh) = ofRows holding rows := by
  obtain ⟨onScreen, held⟩ := List.getElem?_eq_some_iff.mp
    (getElem?_slotsOf holding found)
  rw [ofRows, slotsOf_set holding found, same, ← held, List.set_getElem_self, ofRows]

theorem ofRows_push {fresh : σ} (empty : holding fresh = none) (rows : Rows σ) :
    ofRows holding (rows.push fresh).2 = ofRows holding rows := by
  simp [ofRows, ofSlots, slotsOf, Rows.push, Entry.ofSlots_append, Entry.ofSlots, empty]

theorem deleteRow_ofRows (removed : rows.remove? id = some (position, state, rest))
    (several : 2 ≤ rows.size) :
    (ofRows holding rows).deleteRow position rows.size =
      ⟨ofRows holding rest, .ok (.removed ((holding state).map (Entry.mk position)))⟩ := by
  obtain ⟨found, rfl⟩ := Rows.remove?_eq_some removed
  rw [ofRows, deleteRow_ofSlots (getElem?_slotsOf holding found) several, slotsOf, List.eraseIdx_map]
  rfl

theorem deleteRow_ofRows_single {fresh : σ} (empty : holding fresh = none)
    (found : rows.lookup? id = some (position, state)) (single : rows.size = 1) :
    (ofRows holding rows).deleteRow 0 1 = ⟨ofRows holding (rows.set id fresh), .ok .reset⟩ := by
  obtain ⟨row, only⟩ := List.length_eq_one_iff.mp single
  have place := Rows.getElem?_of_lookup? found
  obtain rfl : position = 0 := by
    rw [only] at place
    obtain ⟨onScreen, -⟩ := List.getElem?_eq_some_iff.mp place
    simpa using onScreen
  have slots : slotsOf holding rows = [holding row.state] := by rw [slotsOf, only]; rfl
  rw [ofRows, ofRows, slotsOf_set holding found, slots, empty, deleteRow_ofSlots_single]
  rfl

theorem ofRows_fitsRows (rows : Rows σ) : (ofRows holding rows).FitsRows rows.size :=
  length_slotsOf holding rows ▸ ofSlots_fitsRows (slotsOf holding rows)

end QueryMenu.Entries
