import Mathlib.Algebra.Order.BigOperators.Group.List
import Mathlib.Algebra.Order.Group.Nat
import QueryMenu.Aggregation.Menu
import QueryMenu.Proofs.Entries.Slots

namespace QueryMenu

/-! Ascending storage is canonical.

Any ascending list is the list of a column: every position below any bound has a slot,
most of them empty, and the slots fix what is stored and where.  So two ways to edit a
list that come to the same slots come to the same stored list, whatever insertion points
and shifts they have gone through, and no rule is broken on the way.
-/

variable {π : Type}

/-- The list that an edit leaves, unless it broke a rule. -/
def Edit.kept {α : Type} (edit : Edit π α) : Except Fault (Entries π) :=
  edit.answer.map fun _ => edit.entries

namespace Entry

theorem ofSlots_replicate (first count : Nat) (slots : List (Option π)) :
    ofSlots first (List.replicate count none ++ slots) = ofSlots (first + count) slots := by
  induction count generalizing first with
  | zero => rfl
  | succ count ih =>
      rw [List.replicate_succ, List.cons_append, ofSlots, ih]
      congr 1
      omega

theorem exists_ofSlots {stored : List (Entry π)} {first : Nat}
    (ascending : (stored.map Entry.position).Pairwise (· < ·))
    (later : ∀ entry ∈ stored, first ≤ entry.position) (bound : Nat) :
    ∃ slots, bound ≤ slots.length ∧ stored = ofSlots first slots := by
  induction stored generalizing first with
  | nil =>
      refine ⟨List.replicate bound none, by simp, ?_⟩
      have empty := ofSlots_replicate (π := π) first bound []
      rw [List.append_nil] at empty
      exact empty.symm
  | cons entry rest ih =>
      rw [List.map_cons, List.pairwise_cons] at ascending
      obtain ⟨slots, enough, rfl⟩ := ih ascending.2
        fun other member => ascending.1 _ (List.mem_map_of_mem member)
      -- the positions passed over before the entry are empty slots
      have below : first ≤ entry.position := later entry List.mem_cons_self
      refine ⟨List.replicate (entry.position - first) none ++ some entry.payload :: slots, ?_, ?_⟩
      · rw [List.length_append, List.length_cons]
        omega
      · rw [ofSlots_replicate, Nat.add_sub_cancel' below]
        rfl

end Entry

theorem Entries.Ascending.exists_ofSlots {entries : Entries π} (ascending : entries.Ascending)
    (bound : Nat) :
    ∃ slots, bound ≤ slots.length ∧ entries = Entries.ofSlots slots := by
  obtain ⟨slots, enough, same⟩ :=
    Entry.exists_ofSlots ascending (fun entry _ => Nat.zero_le entry.position) bound
  exact ⟨slots, enough, congrArg Entries.mk same⟩

/-! Edits of slots. -/

namespace Slot

def chosen [Payload π] (slots : List (Option π)) (position : Nat) (choice : Choice π) :
    List (Option π) :=
  slots.set position (choose slots[position]?.join choice)

variable [Payload π] {slots : List (Option π)} {position other : Nat}

@[simp] theorem length_chosen (slots : List (Option π)) (position : Nat) (choice : Choice π) :
    (chosen slots position choice).length = slots.length :=
  List.length_set

theorem chosen_comm (different : position ≠ other) (choice also : Choice π) :
    chosen (chosen slots position choice) other also =
      chosen (chosen slots other also) position choice := by
  unfold chosen
  rw [List.getElem?_set_ne different, List.getElem?_set_ne different.symm,
    List.set_comm _ _ different]

theorem chosen_eraseIdx_of_lt (earlier : position < other) (choice : Choice π) :
    chosen (slots.eraseIdx position) (other - 1) choice =
      (chosen slots other choice).eraseIdx position := by
  have moved : (slots.eraseIdx position)[other - 1]? = slots[other]? := by
    rw [List.getElem?_eraseIdx, if_neg (by omega), Nat.sub_add_cancel (Nat.zero_lt_of_lt earlier)]
  rw [chosen, chosen, moved, List.eraseIdx_set_lt earlier]

theorem chosen_eraseIdx_of_gt (later : other < position) (choice : Choice π) :
    chosen (slots.eraseIdx position) other choice =
      (chosen slots other choice).eraseIdx position := by
  have kept : (slots.eraseIdx position)[other]? = slots[other]? := by
    rw [List.getElem?_eraseIdx, if_pos later]
  rw [chosen, chosen, kept, List.eraseIdx_set_gt later]

omit [Payload π] in
theorem eraseIdx_comm (below : position ≤ other) (slots : List (Option π)) :
    (slots.eraseIdx position).eraseIdx other =
      (slots.eraseIdx (other + 1)).eraseIdx position := by
  refine List.ext_getElem? fun index => ?_
  simp only [List.getElem?_eraseIdx]
  split_ifs <;> first | rfl | omega

end Slot

namespace Entries

/-- What is stored for the other rows. -/
def without (entries : Entries π) (position : Nat) : Entries π :=
  ⟨entries.toList.filter fun entry => entry.position ≠ position⟩

theorem without_of_free {entries : Entries π} {position : Nat}
    (free : entries.find? position = none) : entries.without position = entries := by
  refine congrArg Entries.mk (List.filter_eq_self.mpr fun entry member => ?_)
  simpa using List.find?_eq_none.mp free entry member

theorem without_ofSlots {slots : List (Option π)} {slot : Option π} {position : Nat}
    (held : slots[position]? = some slot) :
    (ofSlots slots).without position = ofSlots (slots.set position none) := by
  obtain ⟨before, after, rfl, rfl, setAt⟩ := exists_cut held
  have earlier : (Entry.ofSlots 0 before).filter (fun entry => entry.position ≠ before.length) =
      Entry.ofSlots 0 before := by
    refine List.filter_eq_self.mpr fun entry member => ?_
    have bound := (Entry.bounds_of_mem_ofSlots member).2
    simp
    omega
  have later : (Entry.ofSlots (before.length + 1) after).filter
      (fun entry => entry.position ≠ before.length) = Entry.ofSlots (before.length + 1) after := by
    refine List.filter_eq_self.mpr fun entry member => ?_
    have bound := (Entry.bounds_of_mem_ofSlots member).1
    simp
    omega
  have own : (Entry.ofSlot before.length slot).filter
      (fun entry => entry.position ≠ before.length) = [] := by
    cases slot <;> simp [Entry.ofSlot]
  rw [setAt, without, ofSlots, ofSlots, Entry.ofSlots_cut, Entry.ofSlots_cut, List.filter_append,
    List.filter_append, earlier, own, later]
  rfl

variable [Payload π] {slots : List (Option π)} {position rows : Nat}

theorem kept_choose_ofSlots (within : position < slots.length) (choice : Choice π) :
    ((ofSlots slots).choose position choice).kept =
      .ok (ofSlots (Slot.chosen slots position choice)) := by
  have held : slots[position]? = some slots[position]?.join := by
    simp [List.getElem?_eq_getElem within]
  rw [choose_ofSlots held]
  rfl

omit [Payload π] in
theorem kept_deleteRow_ofSlots (within : position < slots.length) (several : 2 ≤ rows) :
    ((ofSlots slots).deleteRow position rows).kept = .ok (ofSlots (slots.eraseIdx position)) := by
  rw [deleteRow_ofSlots (List.getElem?_eq_getElem within) several]
  rfl

def chooseEach (entries : Entries π) : List (Nat × Choice π) → Except Fault (Entries π)
  | [] => .ok entries
  | (position, choice) :: rest =>
    (entries.choose position choice).kept.bind fun next => next.chooseEach rest

theorem chooseEach_ofSlots {slots : List (Option π)} {edits : List (Nat × Choice π)}
    (within : ∀ edit ∈ edits, edit.1 < slots.length) :
    (ofSlots slots).chooseEach edits =
      .ok (ofSlots (edits.foldl (fun slots edit => Slot.chosen slots edit.1 edit.2) slots)) := by
  induction edits generalizing slots with
  | nil => rfl
  | cons edit rest ih =>
      rw [List.forall_mem_cons] at within
      rw [chooseEach, kept_choose_ofSlots within.1]
      exact ih fun other member => by
        rw [Slot.length_chosen]
        exact within.2 other member

theorem foldl_chosen_perm {edits others : List (Nat × Choice π)} (same : edits.Perm others)
    (apart : (edits.map Prod.fst).Nodup) (slots : List (Option π)) :
    edits.foldl (fun slots edit => Slot.chosen slots edit.1 edit.2) slots =
      others.foldl (fun slots edit => Slot.chosen slots edit.1 edit.2) slots := by
  induction same generalizing slots with
  | nil => rfl
  | cons edit _ ih => exact ih (List.nodup_cons.mp apart).2 _
  | swap first second rest =>
      have different : second.1 ≠ first.1 := by
        intro met
        refine (List.nodup_cons.mp apart).1 ?_
        rw [met]
        exact List.mem_cons_self
      simp only [List.foldl_cons, Slot.chosen_comm different]
  | trans one _ first second =>
      exact (first apart slots).trans (second ((one.map Prod.fst).nodup_iff.mp apart) slots)

variable {entries : Entries π}

theorem chooseEach_perm (ascending : entries.Ascending) {edits others : List (Nat × Choice π)}
    (same : edits.Perm others) (apart : (edits.map Prod.fst).Nodup) :
    ∃ next : Entries π, next.Ascending ∧ entries.chooseEach edits = .ok next ∧
      entries.chooseEach others = .ok next := by
  obtain ⟨slots, enough, rfl⟩ := ascending.exists_ofSlots ((edits.map Prod.fst).sum + 1)
  have within : ∀ edit ∈ edits, edit.1 < slots.length := by
    intro edit member
    have below := List.le_sum_of_mem (List.mem_map_of_mem (f := Prod.fst) member)
    omega
  refine ⟨_, ofSlots_ascending _, chooseEach_ofSlots within, ?_⟩
  rw [foldl_chosen_perm same apart]
  exact chooseEach_ofSlots fun edit member => within edit (same.mem_iff.mpr member)

/-- A choice that is taken back leaves the list without an entry for its row. -/
theorem choose_placeholder (ascending : entries.Ascending) (position : Nat) (fresh : π) :
    ((entries.choose position (.value fresh)).kept.bind fun left =>
      (left.choose position .placeholder).kept) = .ok (entries.without position) := by
  obtain ⟨slots, enough, rfl⟩ := ascending.exists_ofSlots (position + 1)
  have within : position < slots.length := enough
  have still : position < (Slot.chosen slots position (.value fresh)).length := by
    rwa [Slot.length_chosen]
  have taken : Slot.chosen (Slot.chosen slots position (.value fresh)) position .placeholder =
      slots.set position none :=
    List.set_set ..
  rw [kept_choose_ofSlots within, without_ofSlots (List.getElem?_eq_getElem within), ← taken]
  exact kept_choose_ofSlots still .placeholder

theorem choose_deleteRow (ascending : entries.Ascending) {other : Nat} (several : 2 ≤ rows)
    (different : position ≠ other) (choice : Choice π) :
    ∃ next : Entries π, next.Ascending ∧
      ((entries.deleteRow position rows).kept.bind fun left =>
        (left.choose (if position < other then other - 1 else other) choice).kept) = .ok next ∧
      ((entries.choose other choice).kept.bind fun left =>
        (left.deleteRow position rows).kept) = .ok next := by
  obtain ⟨slots, enough, rfl⟩ := ascending.exists_ofSlots (position + other + 1)
  have first : position < slots.length := by omega
  have second : other < slots.length := by omega
  have fewer : (slots.eraseIdx position).length + 1 = slots.length := by
    rw [List.length_eraseIdx_of_lt first]
    omega
  rw [kept_deleteRow_ofSlots first several, kept_choose_ofSlots second]
  have still : position < (Slot.chosen slots other choice).length := by
    rwa [Slot.length_chosen]
  refine ⟨_, ofSlots_ascending _, ?_, kept_deleteRow_ofSlots still several⟩
  by_cases earlier : position < other
  · have within : other - 1 < (slots.eraseIdx position).length := by omega
    rw [if_pos earlier, ← Slot.chosen_eraseIdx_of_lt earlier]
    exact kept_choose_ofSlots within choice
  · have later : other < position := by omega
    have within : other < (slots.eraseIdx position).length := by omega
    rw [if_neg earlier, ← Slot.chosen_eraseIdx_of_gt later]
    exact kept_choose_ofSlots within choice

omit [Payload π] in
theorem deleteRow_deleteRow (ascending : entries.Ascending) {other : Nat} (several : 3 ≤ rows)
    (below : position ≤ other) :
    ∃ next : Entries π, next.Ascending ∧
      ((entries.deleteRow position rows).kept.bind fun left =>
        (left.deleteRow other (rows - 1)).kept) = .ok next ∧
      ((entries.deleteRow (other + 1) rows).kept.bind fun left =>
        (left.deleteRow position (rows - 1)).kept) = .ok next := by
  obtain ⟨slots, enough, rfl⟩ := ascending.exists_ofSlots (other + 2)
  have left : ∀ gap, gap < slots.length → (slots.eraseIdx gap).length = slots.length - 1 :=
    fun gap within => List.length_eraseIdx_of_lt within
  have first := left position (by omega)
  have second := left (other + 1) (by omega)
  rw [kept_deleteRow_ofSlots (by omega) (by omega), kept_deleteRow_ofSlots (by omega) (by omega)]
  refine ⟨_, ofSlots_ascending _, kept_deleteRow_ofSlots (by omega) (by omega), ?_⟩
  rw [Slot.eraseIdx_comm below]
  exact kept_deleteRow_ofSlots (by omega) (by omega)

/-- Edits of an ascending list that are about different rows leave the same stored list in
either order, once positions are counted as the other edit leaves them; no rule is broken. -/
theorem edits_commute (ascending : entries.Ascending) :
    (∀ edits others : List (Nat × Choice π), edits.Perm others → (edits.map Prod.fst).Nodup →
      ∃ next : Entries π, next.Ascending ∧ entries.chooseEach edits = .ok next ∧
        entries.chooseEach others = .ok next) ∧
    (∀ p q rows choice, 2 ≤ rows → p < q →
      ∃ next : Entries π, next.Ascending ∧
        ((entries.deleteRow p rows).kept.bind fun left => (left.choose (q - 1) choice).kept) =
          .ok next ∧
        ((entries.choose q choice).kept.bind fun left => (left.deleteRow p rows).kept) =
          .ok next) ∧
    (∀ p q rows choice, 2 ≤ rows → q < p →
      ∃ next : Entries π, next.Ascending ∧
        ((entries.deleteRow p rows).kept.bind fun left => (left.choose q choice).kept) =
          .ok next ∧
        ((entries.choose q choice).kept.bind fun left => (left.deleteRow p rows).kept) =
          .ok next) ∧
    ∀ p q rows, 3 ≤ rows → p ≤ q →
      ∃ next : Entries π, next.Ascending ∧
        ((entries.deleteRow p rows).kept.bind fun left => (left.deleteRow q (rows - 1)).kept) =
          .ok next ∧
        ((entries.deleteRow (q + 1) rows).kept.bind fun left =>
          (left.deleteRow p (rows - 1)).kept) = .ok next := by
  refine ⟨fun edits others => chooseEach_perm ascending, ?_, ?_,
    fun p q rows => deleteRow_deleteRow ascending⟩
  · intro p q rows choice several earlier
    simpa only [if_pos earlier] using
      choose_deleteRow ascending several (Nat.ne_of_lt earlier) choice
  · intro p q rows choice several later
    simpa only [if_neg (Nat.lt_asymm later)] using
      choose_deleteRow ascending several (Nat.ne_of_gt later) choice

/-- Choices beyond the last entry and on a gap, made backwards; and the deletion of a row
without an entry, before and after a choice on the next row and another deletion. -/
theorem edits_commute_gaps :
    let entries : Entries Aggregator := ⟨[⟨0, ⟨"Sum", true⟩⟩, ⟨2, ⟨"Max", false⟩⟩, ⟨5, ⟨"Min", true⟩⟩]⟩
    let edits : List (Nat × Choice Aggregator) :=
      [(9, .value ⟨"Mean", false⟩), (0, .value ⟨"Mean", false⟩), (2, .placeholder), (3, .placeholder)]
    entries.Ascending ∧ edits.Perm edits.reverse ∧ (edits.map Prod.fst).Nodup ∧
      entries.chooseEach edits = entries.chooseEach edits.reverse ∧
      entries.chooseEach edits =
        .ok ⟨[⟨0, ⟨"Mean", true⟩⟩, ⟨5, ⟨"Min", true⟩⟩, ⟨9, ⟨"Mean", false⟩⟩]⟩ ∧
      ((entries.choose 2 .placeholder).kept.bind fun left => (left.deleteRow 1 6).kept) =
        ((entries.deleteRow 1 6).kept.bind fun left => (left.choose 1 .placeholder).kept) ∧
      ((entries.deleteRow 1 6).kept.bind fun left => (left.deleteRow 1 5).kept) =
        ((entries.deleteRow 2 6).kept.bind fun left => (left.deleteRow 1 5).kept) := by
  intro entries edits
  have ascending : entries.Ascending := by decide
  have backwards : edits.Perm edits.reverse := (List.reverse_perm edits).symm
  have apart : (edits.map Prod.fst).Nodup := by decide
  obtain ⟨each, earlier, -, deletions⟩ := edits_commute ascending
  obtain ⟨next, -, forth, back⟩ := each edits edits.reverse backwards apart
  obtain ⟨chosen, -, one, two⟩ := earlier 1 2 6 .placeholder (by decide) (by decide)
  obtain ⟨left, -, first, second⟩ := deletions 1 1 6 (by decide) (by decide)
  exact ⟨ascending, backwards, apart, forth.trans back.symm, by decide +kernel,
    two.trans one.symm, first.trans second.symm⟩

end Entries

end QueryMenu
