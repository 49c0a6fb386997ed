import QueryMenu.Entries.Basic
import QueryMenu.Proofs.Entries.Bisection

namespace QueryMenu

/-! The entries of a column of rows.

A slot is what one row holds, if it holds anything.  The slots of a column determine
its entries, and every edit of those entries is an edit of one slot: the edited list
is again the list of a column, so no edit breaks a rule.

An edit is first followed on a column cut at the row it is about, where the entries
before the row, its own and those after it are three separate runs.
-/

namespace Slot

variable {π : Type}

/-- What a row holds after a choice on it. -/
def choose [Payload π] (slot : Option π) : Choice π → Option π
  | .placeholder => none
  | .value fresh =>
    match slot with
    | some old => some (Payload.revise old fresh)
    | none => some fresh

/-- What a choice on a row does to its entry. -/
def effect (slot : Option π) : Choice π → ChoiceEffect
  | .placeholder => if slot.isSome then .removed else .unchanged
  | .value _ => if slot.isSome then .updated else .inserted

end Slot

namespace Entry

variable {π : Type}

/-- The entries of consecutive rows, the first of which stands at `first`. -/
def ofSlots (first : Nat) : List (Option π) → List (Entry π)
  | [] => []
  | none :: slots => ofSlots (first + 1) slots
  | some payload :: slots => ⟨first, payload⟩ :: ofSlots (first + 1) slots

def ofSlot (position : Nat) (slot : Option π) : List (Entry π) :=
  (slot.map (Entry.mk position)).toList

theorem ofSlots_cons (first : Nat) (slot : Option π) (slots : List (Option π)) :
    ofSlots first (slot :: slots) = ofSlot first slot ++ ofSlots (first + 1) slots := by
  cases slot <;> rfl

theorem ofSlots_append (first : Nat) (before after : List (Option π)) :
    ofSlots first (before ++ after) =
      ofSlots first before ++ ofSlots (first + before.length) after := by
  induction before generalizing first with
  | nil => rfl
  | cons slot before ih =>
      rw [List.cons_append, ofSlots_cons, ofSlots_cons, ih, List.append_assoc,
        List.length_cons, Nat.add_assoc, Nat.add_comm 1]

theorem ofSlots_cut (before after : List (Option π)) (slot : Option π) :
    ofSlots 0 (before ++ slot :: after) =
      ofSlots 0 before ++ (ofSlot before.length slot ++ ofSlots (before.length + 1) after) := by
  rw [ofSlots_append, ofSlots_cons, Nat.zero_add]

theorem bounds_of_mem_ofSlots {first : Nat} {slots : List (Option π)} {entry : Entry π}
    (member : entry ∈ ofSlots first slots) :
    first ≤ entry.position ∧ entry.position < first + slots.length := by
  induction slots generalizing first with
  | nil => cases member
  | cons slot slots ih =>
      rw [ofSlots_cons, List.mem_append] at member
      rcases member with own | later
      · cases slot with
        | none => cases own
        | some payload =>
            obtain rfl : entry = ⟨first, payload⟩ := List.mem_singleton.mp own
            simp
      · have := ih later
        rw [List.length_cons]
        omega

theorem ofSlots_ascending (first : Nat) (slots : List (Option π)) :
    ((ofSlots first slots).map Entry.position).Pairwise (· < ·) := by
  induction slots generalizing first with
  | nil => exact .nil
  | cons slot slots ih =>
      cases slot with
      | none => exact ih (first + 1)
      | some payload =>
          refine List.pairwise_cons.mpr ⟨fun position member => ?_, ih (first + 1)⟩
          obtain ⟨entry, later, rfl⟩ := List.mem_map.mp member
          exact (bounds_of_mem_ofSlots later).1

theorem payloads_ofSlots (first : Nat) (slots : List (Option π)) :
    (ofSlots first slots).map Entry.payload = slots.filterMap id := by
  induction slots generalizing first with
  | nil => rfl
  | cons slot slots ih => cases slot <;> simp [ofSlots, ih]

theorem ofSlots_eq_filterMap (first : Nat) (slots : List (Option π)) :
    ofSlots first slots =
      (slots.zipIdx first).filterMap fun (slot, position) => slot.map (Entry.mk position) := by
  induction slots generalizing first with
  | nil => rfl
  | cons slot slots ih => cases slot <;> simp [ofSlots, ih]

theorem find?_ofSlots (first offset : Nat) (slots : List (Option π)) :
    ((ofSlots first slots).find? fun entry => entry.position = first + offset) =
      (slots[offset]?.join).map (Entry.mk (first + offset)) := by
  induction slots generalizing first offset with
  | nil => rfl
  | cons slot slots ih =>
      cases offset with
      | zero =>
          cases slot with
          | none =>
              refine List.find?_eq_none.mpr fun entry member => ?_
              have rest : entry ∈ ofSlots (first + 1) slots := member
              have later := (bounds_of_mem_ofSlots rest).1
              simp only [Nat.add_zero, decide_eq_true_eq]
              omega
          | some payload => simp [ofSlots]
      | succ offset =>
          have later := ih (first + 1) offset
          rw [Nat.add_right_comm, Nat.add_assoc] at later
          cases slot with
          | none => simpa [ofSlots] using later
          | some payload => simpa [ofSlots] using later

/-- Closing the gap before later rows moves their entries to the rows they then stand on. -/
theorem ofSlots_closed {gap first : Nat} (later : gap ≤ first) (slots : List (Option π)) :
    ((ofSlots (first + 1) slots).map fun entry =>
      if gap < entry.position then { entry with position := entry.position - 1 } else entry) =
      ofSlots first slots := by
  induction slots generalizing first with
  | nil => rfl
  | cons slot slots ih =>
      have rest := ih (Nat.le_succ_of_le later)
      have moved : gap < first + 1 := by omega
      cases slot <;> simp [ofSlots, rest, moved]

end Entry

namespace Entries

variable {π : Type}

/-- The entries of a column of rows. -/
def ofSlots (slots : List (Option π)) : Entries π :=
  ⟨Entry.ofSlots 0 slots⟩

theorem ofSlots_ascending (slots : List (Option π)) : (ofSlots slots).Ascending :=
  Entry.ofSlots_ascending 0 slots

theorem ofSlots_fitsRows (slots : List (Option π)) : (ofSlots slots).FitsRows slots.length := by
  intro entry member
  have := (Entry.bounds_of_mem_ofSlots member).2
  omega

theorem find?_ofSlots (slots : List (Option π)) (position : Nat) :
    (ofSlots slots).find? position = (slots[position]?.join).map (Entry.mk position) := by
  have found := Entry.find?_ofSlots 0 position slots
  simp only [Nat.zero_add] at found
  exact found

theorem Ascending.sorted_eq {entries : Entries π} (ascending : entries.Ascending) :
    entries.sorted = entries.toList := by
  have ordered := List.pairwise_map.mp ascending
  exact List.mergeSort_of_pairwise (ordered.imp fun before => by simpa using Nat.le_of_lt before)

theorem sorted_ofSlots (slots : List (Option π)) :
    (ofSlots slots).sorted = (ofSlots slots).toList :=
  (ofSlots_ascending slots).sorted_eq

theorem payloads_ofSlots (slots : List (Option π)) :
    (ofSlots slots).sorted.map Entry.payload = slots.filterMap id := by
  rw [sorted_ofSlots]
  exact Entry.payloads_ofSlots 0 slots

theorem isEmpty_ofSlots (slots : List (Option π)) :
    (ofSlots slots).isEmpty = (slots.filterMap id).isEmpty := by
  rw [← Entry.payloads_ofSlots 0 slots, List.isEmpty_map]
  rfl

theorem render_ofSlots [Payload π] (slots : List (Option π)) (joiner placeholder : String) :
    (ofSlots slots).render joiner placeholder =
      if (slots.filterMap id).isEmpty then placeholder
      else (" " ++ joiner ++ " ").intercalate ((slots.filterMap id).map Payload.label) := by
  have labels : (ofSlots slots).sorted.map Entry.label =
      (slots.filterMap id).map Payload.label := by
    rw [← payloads_ofSlots, List.map_map]
    rfl
  rw [render, isEmpty_ofSlots, labels]

theorem checked_ofSlots {α : Type} (slots : List (Option π)) (answer : α) :
    (ofSlots slots).checked answer = ⟨ofSlots slots, .ok answer⟩ := by
  rw [checked, if_pos (ofSlots_ascending slots)]

/-! Places in storage, on a column cut at one row. -/

section Cut

variable (before after : List (Option π)) (slot : Option π)

theorem indexOf?_cut :
    (ofSlots (before ++ slot :: after)).indexOf? before.length =
      slot.map fun _ => (Entry.ofSlots 0 before).length := by
  have earlier : (Entry.ofSlots 0 before).findIdx? (fun entry => entry.position = before.length) =
      none := by
    refine List.findIdx?_eq_none_iff.mpr fun entry member => ?_
    have := (Entry.bounds_of_mem_ofSlots member).2
    simp
    omega
  have later : (Entry.ofSlots (before.length + 1) after).findIdx?
      (fun entry => entry.position = before.length) = none := by
    refine List.findIdx?_eq_none_iff.mpr fun entry member => ?_
    have := (Entry.bounds_of_mem_ofSlots member).1
    simp
    omega
  rw [indexOf?, ofSlots, Entry.ofSlots_cut, List.findIdx?_append, earlier, List.findIdx?_append,
    later]
  cases slot <;> simp [Entry.ofSlot]

theorem insertionPoint_cut :
    (ofSlots (before ++ none :: after)).insertionPoint before.length =
      (Entry.ofSlots 0 before).length := by
  rw [insertionPoint, ofSlots, Entry.ofSlots_cut]
  apply Bisection.partitionPoint_append
  · intro entry member
    have := (Entry.bounds_of_mem_ofSlots member).2
    simp
    omega
  · intro entry member
    have beyond := (Entry.bounds_of_mem_ofSlots member).1
    simp
    omega

theorem get?_cut (payload : π) :
    (ofSlots (before ++ some payload :: after)).get? (Entry.ofSlots 0 before).length =
      some ⟨before.length, payload⟩ := by
  simp [get?, ofSlots, Entry.ofSlots_cut, Entry.ofSlot]

theorem eraseAt_cut (payload : π) :
    (ofSlots (before ++ some payload :: after)).eraseAt (Entry.ofSlots 0 before).length =
      ofSlots (before ++ none :: after) := by
  simp [eraseAt, ofSlots, Entry.ofSlots_cut, Entry.ofSlot, List.eraseIdx_append_of_length_le]

theorem modifyAt_cut (payload : π) (change : π → π) :
    ((ofSlots (before ++ some payload :: after)).modifyAt (Entry.ofSlots 0 before).length
      fun entry => { entry with payload := change entry.payload }) =
      ofSlots (before ++ some (change payload) :: after) := by
  simp [modifyAt, ofSlots, Entry.ofSlots_cut, Entry.ofSlot, List.modify_eq_take_drop]

theorem insertAt_cut (payload : π) :
    (ofSlots (before ++ none :: after)).insertAt (Entry.ofSlots 0 before).length
      ⟨before.length, payload⟩ = ofSlots (before ++ some payload :: after) := by
  have inserted := List.modifyTailIdx_add (List.cons (Entry.mk before.length payload)) 0
    (Entry.ofSlots 0 before) (Entry.ofSlots (before.length + 1) after)
  rw [insertAt, ofSlots, ofSlots, Entry.ofSlots_cut, Entry.ofSlots_cut]
  exact congrArg Entries.mk inserted

theorem eraseIdx_cut : (before ++ slot :: after).eraseIdx before.length = before ++ after := by
  simp [List.eraseIdx_append_of_length_le]

theorem closeGap_cut :
    (ofSlots (before ++ none :: after)).closeGap before.length = ofSlots (before ++ after) := by
  have kept : (Entry.ofSlots 0 before).map (fun entry =>
      if before.length < entry.position then { entry with position := entry.position - 1 }
      else entry) = Entry.ofSlots 0 before := by
    conv => rhs; rw [← List.map_id (Entry.ofSlots 0 before)]
    refine List.map_congr_left fun entry member => ?_
    have := (Entry.bounds_of_mem_ofSlots member).2
    rw [if_neg (by omega), id]
  rw [closeGap, ofSlots, ofSlots, Entry.ofSlots_cut, List.map_append, kept, Entry.ofSlots_append,
    Nat.zero_add]
  exact congrArg (fun later => Entries.mk (Entry.ofSlots 0 before ++ later))
    (Entry.ofSlots_closed (Nat.le_refl _) after)

end Cut

/-! Edits, each of one slot. -/

section Edit

variable {slots : List (Option π)} {slot : Option π} {position : Nat}

theorem exists_cut (held : slots[position]? = some slot) :
    ∃ before after, slots = before ++ slot :: after ∧ before.length = position ∧
      ∀ fresh, slots.set position fresh = before ++ fresh :: after := by
  obtain ⟨onScreen, rfl⟩ := List.getElem?_eq_some_iff.mp held
  refine ⟨slots.take position, slots.drop (position + 1), ?_,
    List.length_take_of_le (Nat.le_of_lt onScreen), fun fresh => ?_⟩
  · rw [List.getElem_cons_drop, List.take_append_drop]
  · rw [List.set_eq_take_append_cons_drop, if_pos onScreen]

theorem choose_ofSlots [Payload π] (held : slots[position]? = some slot) (choice : Choice π) :
    (ofSlots slots).choose position choice =
      ⟨ofSlots (slots.set position (Slot.choose slot choice)),
        .ok (Slot.effect slot choice)⟩ := by
  obtain ⟨before, after, rfl, rfl, setAt⟩ := exists_cut held
  have index := indexOf?_cut before after slot
  rw [setAt]
  cases choice with
  | placeholder =>
      cases slot with
      | none => simp only [choose, index, Option.map_none, checked_ofSlots, Slot.choose]; rfl
      | some old =>
          simp only [choose, index, Option.map_some, eraseAt_cut, checked_ofSlots, Slot.choose]
          rfl
  | value fresh =>
      cases slot with
      | none =>
          simp only [choose, index, Option.map_none, insertionPoint_cut, insertAt_cut,
            checked_ofSlots, Slot.choose]
          rfl
      | some old =>
          simp only [choose, index, Option.map_some, checked_ofSlots, Slot.choose,
            modifyAt_cut before after old (Payload.revise · fresh)]
          rfl

theorem clear_ofSlots (held : slots[position]? = some slot) :
    (ofSlots slots).clear position =
      ⟨ofSlots (slots.set position none), .ok (slot.map (Entry.mk position))⟩ := by
  obtain ⟨before, after, rfl, rfl, setAt⟩ := exists_cut held
  have index := indexOf?_cut before after slot
  rw [setAt]
  cases slot with
  | none => simp only [clear, index, Option.map_none]
  | some payload =>
      simp only [clear, index, Option.map_some, get?_cut, eraseAt_cut, checked_ofSlots]

theorem revisePayload_ofSlots (held : slots[position]? = some slot) (change : π → π) :
    (ofSlots slots).revisePayload position change =
      ofSlots (slots.set position (slot.map change)) := by
  obtain ⟨before, after, rfl, rfl, setAt⟩ := exists_cut held
  have index := indexOf?_cut before after slot
  rw [setAt]
  cases slot with
  | none => simp only [revisePayload, modifyFirst, index, Option.map_none]
  | some payload => simp only [revisePayload, modifyFirst, index, Option.map_some, modifyAt_cut]

theorem deleteRow_ofSlots {rows : Nat} (held : slots[position]? = some slot) (several : 2 ≤ rows) :
    (ofSlots slots).deleteRow position rows =
      ⟨ofSlots (slots.eraseIdx position), .ok (.removed (slot.map (Entry.mk position)))⟩ := by
  have found := find?_ofSlots slots position
  rw [held, Option.join_some] at found
  obtain ⟨before, after, rfl, rfl, -⟩ := exists_cut held
  have index := indexOf?_cut before after slot
  rw [eraseIdx_cut, deleteRow, if_neg (by omega)]
  cases slot with
  | none => simp only [index, found, Option.map_none, closeGap_cut, checked_ofSlots]
  | some payload =>
      simp only [index, found, Option.map_some, eraseAt_cut, closeGap_cut, checked_ofSlots]

theorem deleteRow_ofSlots_single (slot : Option π) (position : Nat) :
    (ofSlots [slot]).deleteRow position 1 = ⟨ofSlots [none], .ok .reset⟩ := by
  cases slot <;> rfl

end Edit

end Entries

end QueryMenu
