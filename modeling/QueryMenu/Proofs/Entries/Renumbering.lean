import QueryMenu.Aggregation.Menu
import QueryMenu.Proofs.Entries.Canonical
import QueryMenu.Proofs.Entries.Checks

namespace QueryMenu.Entries

/-! Where an entry is found once a row is gone.

The slots of the column say it at once: the slot of the row is cut out, and each later
slot moves up by one.  What a position holds afterwards is therefore what it held before,
or what the next position held.  The position itself may lie anywhere, also beyond the
last entry, since a column can be taken as long as it is needed.
-/

variable {π : Type} {slots : List (Option π)} {slot : Option π} {position : Nat}

theorem find?_ofSlots_eraseIdx (slots : List (Option π)) (position other : Nat) :
    (ofSlots (slots.eraseIdx position)).find? other =
      if other < position then (ofSlots slots).find? other
      else ((ofSlots slots).find? (other + 1)).map fun entry => { entry with position := other } := by
  simp only [find?_ofSlots, List.getElem?_eraseIdx]
  by_cases before : other < position
  · rw [if_pos before, if_pos before]
  · rw [if_neg before, if_neg before, Option.map_map]
    rfl

theorem size_ofSlots (slots : List (Option π)) :
    (ofSlots slots).size = slots.countP Option.isSome := by
  have same := congrArg List.length (Entry.payloads_ofSlots 0 slots)
  rw [List.length_map] at same
  rw [size, ofSlots, same, List.length_filterMap_eq_countP]
  rfl

theorem size_ofSlots_eraseIdx (held : slots[position]? = some slot) :
    (ofSlots (slots.eraseIdx position)).size + (if slot.isSome then 1 else 0) =
      (ofSlots slots).size := by
  obtain ⟨before, after, rfl, rfl, -⟩ := exists_cut held
  simp only [eraseIdx_cut, size_ofSlots, List.countP_append, List.countP_cons]
  omega

/-- Once the row's own entry is out, every later one can move up. -/
theorem closeGap?_without (held : slots[position]? = some slot) :
    ((ofSlots slots).without position).closeGap? position =
      some (ofSlots (slots.eraseIdx position)) := by
  rw [without_ofSlots held, closeGap?_eq]
  obtain ⟨before, after, rfl, rfl, setAt⟩ := exists_cut held
  rw [setAt, closeGap_cut, eraseIdx_cut]

/-- Deleting a row of several returns the entry at its position, wherever that is, and
breaks no rule.  Of the list without that entry every later position can go down by one,
and then each position before the row holds what it held, and every other one what the
next one held. -/
theorem deleteRow_renumbers {entries : Entries π} (ascending : entries.Ascending) (position : Nat)
    {rows : Nat} (several : 2 ≤ rows) :
    ∃ next : Entries π,
      entries.deleteRow position rows = ⟨next, .ok (.removed (entries.find? position))⟩ ∧
      (entries.without position).closeGap? position = some next ∧
      next.Ascending ∧
      (∀ other, next.find? other =
        if other < position then entries.find? other
        else (entries.find? (other + 1)).map fun entry => { entry with position := other }) ∧
      next.size + (if (entries.find? position).isSome then 1 else 0) = entries.size := by
  obtain ⟨slots, enough, rfl⟩ := ascending.exists_ofSlots (position + 1)
  have held : slots[position]? = some slots[position]?.join := by
    simp [List.getElem?_eq_getElem (show position < slots.length from enough)]
  have found := find?_ofSlots slots position
  refine ⟨ofSlots (slots.eraseIdx position), ?_, closeGap?_without held, ofSlots_ascending _,
    find?_ofSlots_eraseIdx slots position, ?_⟩
  · rw [deleteRow_ofSlots held several, found]
  · rw [found, Option.isSome_map]
    exact size_ofSlots_eraseIdx held

/-- A row without an entry, before an entry as far down as a word of 64 bits can count. -/
theorem deleteRow_renumbers_gap :
    let entries : Entries Aggregator :=
      ⟨[⟨0, ⟨"Sum", true⟩⟩, ⟨2, ⟨"Max", false⟩⟩, ⟨18446744073709551615, ⟨"Min", true⟩⟩]⟩
    entries.Ascending ∧ 2 ≤ 6 ∧
      ∃ next : Entries Aggregator,
        entries.deleteRow 1 6 = ⟨next, .ok (.removed none)⟩ ∧ next.Ascending ∧
        next.find? 0 = some ⟨0, ⟨"Sum", true⟩⟩ ∧ next.find? 1 = some ⟨1, ⟨"Max", false⟩⟩ ∧
        next.find? 2 = none ∧
        next.find? 18446744073709551614 = some ⟨18446744073709551614, ⟨"Min", true⟩⟩ ∧
        next.find? 18446744073709551615 = none ∧ next.size = 3 := by
  intro entries
  have ascending : entries.Ascending := by decide
  obtain ⟨next, deleted, -, still, found, size⟩ :=
    deleteRow_renumbers ascending 1 (show 2 ≤ 6 by decide)
  exact ⟨ascending, by decide, next, deleted, still, found 0, found 1, found 2, found _, found _,
    size⟩

end QueryMenu.Entries
