import Mathlib.Data.List.Perm.Subperm
import QueryMenu.Proofs.Entries.OfRows

namespace QueryMenu

/-! What the checks of an entry list ask for.

An edit checks that positions ascend, a deletion that each entry still has a row, and
the reset of an only row that it does not drop several entries.  Entries that rows on
screen account for pass all three.
-/

variable {σ π : Type}

namespace Entries

/-- The list passes the checks made of it while `rows` rows are on screen. -/
structure Orderly (entries : Entries π) (rows : Nat) : Prop where
  ascending : entries.Ascending
  fits : entries.FitsRows rows

/-- No row owns two entries. -/
theorem Orderly.size_le {entries : Entries π} {rows : Nat} (orderly : entries.Orderly rows) :
    entries.size ≤ rows := by
  have distinct : entries.positions.Nodup := orderly.ascending.imp Nat.ne_of_lt
  have onScreen : entries.positions ⊆ List.range rows := by
    intro position listed
    obtain ⟨entry, member, rfl⟩ := List.mem_map.mp listed
    exact List.mem_range.mpr (orderly.fits entry member)
  calc
    entries.size = entries.positions.length := (List.length_map ..).symm
    _ ≤ (List.range rows).length := (List.subperm_of_subset distinct onScreen).length_le
    _ = rows := List.length_range

theorem ofRows_orderly (holding : σ → Option π) (rows : Rows σ) :
    (ofRows holding rows).Orderly rows.size :=
  ⟨ofSlots_ascending _, ofRows_fitsRows holding rows⟩

end Entries

/-- Where an entry stands once the row at `gap` is gone, if it can move up at all. -/
def Entry.moveUp? (gap : Nat) (entry : Entry π) : Option (Entry π) :=
  if gap < entry.position then
    match entry.position with
    | 0 => none
    | position + 1 => some { entry with position }
  else some entry

/-- `closeGap`, given up where a position would go below zero. -/
def Entries.closeGap? (entries : Entries π) (gap : Nat) : Option (Entries π) :=
  (entries.toList.mapM (Entry.moveUp? gap)).map Entries.mk

theorem Entry.moveUp?_eq (gap : Nat) (entry : Entry π) :
    entry.moveUp? gap =
      some (if gap < entry.position then { entry with position := entry.position - 1 }
        else entry) := by
  unfold Entry.moveUp?
  by_cases after : gap < entry.position
  · rw [if_pos after, if_pos after]
    obtain ⟨position, payload⟩ := entry
    cases position with
    | zero => exact absurd after (Nat.not_lt_zero gap)
    | succ position => rfl
  · rw [if_neg after, if_neg after]

theorem Entries.closeGap?_eq (entries : Entries π) (gap : Nat) :
    entries.closeGap? gap = some (entries.closeGap gap) := by
  have moves : Entry.moveUp? gap = fun entry : Entry π =>
      pure (if gap < entry.position then { entry with position := entry.position - 1 }
        else entry) :=
    funext (Entry.moveUp?_eq gap)
  rw [closeGap?, moves, List.mapM_pure]
  rfl

end QueryMenu
