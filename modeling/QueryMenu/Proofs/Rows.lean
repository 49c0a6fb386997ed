import Mathlib.Data.List.InsertIdx
import QueryMenu.Rows

namespace QueryMenu

/-! Rows named by ids.

Ids ascend in display order and stay below the number of ids issued.  So a row holds
one place, and an operation that names a row is an operation at that place.
-/

variable {σ : Type}

namespace Row

theorem locate_eq_some {id : RowId} {rows : List (Row σ)} {first position : Nat} {state : σ}
    (found : locate id rows first = some (position, state)) :
    ∃ before after, rows = before ++ ⟨id, state⟩ :: after ∧ position = first + before.length ∧
      ∀ row ∈ before, row.id ≠ id := by
  induction rows generalizing first with
  | nil => cases found
  | cons row rest ih =>
      by_cases named : row.id = id
      · simp only [locate, if_pos named, Option.some.injEq, Prod.mk.injEq] at found
        obtain ⟨rfl, rfl⟩ := found
        exact ⟨[], rest, by rw [← named]; rfl, rfl, by simp⟩
      · rw [locate, if_neg named] at found
        obtain ⟨before, after, rfl, place, others⟩ := ih found
        refine ⟨row :: before, after, rfl, by rw [List.length_cons]; omega, ?_⟩
        simpa [named] using others

theorem locate_cut {id : RowId} {before : List (Row σ)} (others : ∀ row ∈ before, row.id ≠ id)
    (after : List (Row σ)) (state : σ) (first : Nat) :
    locate id (before ++ ⟨id, state⟩ :: after) first = some (first + before.length, state) := by
  induction before generalizing first with
  | nil => simp [locate]
  | cons row before ih =>
      rw [List.forall_mem_cons] at others
      rw [List.cons_append, locate, if_neg others.1, ih others.2, List.length_cons,
        Nat.add_assoc, Nat.add_comm 1]

theorem update_cut {id : RowId} {before : List (Row σ)} (others : ∀ row ∈ before, row.id ≠ id)
    (after : List (Row σ)) (state : σ) (change : σ → σ) :
    update id change (before ++ ⟨id, state⟩ :: after) =
      before ++ ⟨id, change state⟩ :: after := by
  induction before with
  | nil => simp [update]
  | cons row before ih =>
      rw [List.forall_mem_cons] at others
      rw [List.cons_append, update, if_neg others.1, ih others.2, List.cons_append]

theorem ids_update (id : RowId) (change : σ → σ) (rows : List (Row σ)) :
    (update id change rows).map Row.id = rows.map Row.id := by
  induction rows with
  | nil => rfl
  | cons row rest ih => by_cases named : row.id = id <;> simp [update, named, ih]

/-- Two changes may change places if they can on a row that both of them name. -/
theorem update_comm {id other : RowId} {change also : σ → σ}
    (commute : id = other → ∀ state, change (also state) = also (change state))
    (rows : List (Row σ)) :
    update id change (update other also rows) = update other also (update id change rows) := by
  induction rows with
  | nil => rfl
  | cons row rest ih =>
      by_cases same : id = other
      · subst same
        by_cases named : row.id = id <;> simp [update, named, commute rfl, ih]
      · by_cases one : row.id = id
        · simp [update, one, same]
        · by_cases two : row.id = other <;> simp [update, one, two, Ne.symm same, ih]

theorem update_eq_self {id : RowId} {change : σ → σ} {rows : List (Row σ)}
    (keeps : ∀ row, rows.find? (fun row => row.id = id) = some row →
      change row.state = row.state) :
    update id change rows = rows := by
  induction rows with
  | nil => rfl
  | cons row rest ih =>
      by_cases named : row.id = id
      · have kept := keeps row (by simp [named])
        rw [update, if_pos named, kept]
      · have others := ih fun later found => keeps later (by simpa [named] using found)
        rw [update, if_neg named, others]

theorem find?_update (id other : RowId) (change : σ → σ) (rows : List (Row σ)) :
    ((update id change rows).find? fun row => row.id = other).map state =
      (rows.find? fun row => row.id = other).map fun row =>
        if other = id then change row.state else row.state := by
  induction rows with
  | nil => rfl
  | cons row rest ih =>
      by_cases named : row.id = id
      · by_cases same : id = other
        · simp [update, named, same]
        · simp [update, named, same, Ne.symm same]
      · by_cases own : row.id = other
        · subst own
          simp [update, named]
        · simpa [update, named, own] using ih

theorem find?_eq_locate (id : RowId) (rows : List (Row σ)) (first : Nat) :
    (rows.find? fun row => row.id = id).map Row.state = (locate id rows first).map Prod.snd := by
  induction rows generalizing first with
  | nil => rfl
  | cons row rest ih =>
      by_cases named : row.id = id
      · simp [locate, named]
      · simpa [locate, named] using ih (first + 1)

end Row

namespace Rows

def ids (rows : Rows σ) : List RowId :=
  rows.rows.map Row.id

/-- Ids ascend, and none of them is still to be issued. -/
structure Ordered (rows : Rows σ) : Prop where
  ascending : rows.ids.Pairwise fun earlier later => earlier.number < later.number
  issued : ∀ id ∈ rows.ids, id.number < rows.issued

variable {rows : Rows σ} {id other : RowId} {position : Nat} {state : σ}

theorem get?_eq_lookup? (rows : Rows σ) (id : RowId) :
    rows.get? id = (rows.lookup? id).map Prod.snd :=
  Row.find?_eq_locate id rows.rows 0

theorem get?_of_lookup? (found : rows.lookup? id = some (position, state)) :
    rows.get? id = some state := by
  rw [get?_eq_lookup?, found, Option.map_some]

theorem get?_eq_none_iff : rows.get? id = none ↔ id ∉ rows.ids := by
  simp [get?, ids]

theorem mem_ids_of_get? (found : rows.get? id = some state) : id ∈ rows.ids := by
  by_contra absent
  cases found.symm.trans (get?_eq_none_iff.mpr absent)

theorem exists_lookup? (found : rows.get? id = some state) :
    ∃ position, rows.lookup? id = some (position, state) := by
  rw [get?_eq_lookup?, Option.map_eq_some_iff] at found
  obtain ⟨⟨position, _⟩, located, rfl⟩ := found
  exact ⟨position, located⟩

theorem getElem?_of_lookup? (found : rows.lookup? id = some (position, state)) :
    rows.rows[position]? = some ⟨id, state⟩ := by
  obtain ⟨before, after, cut, rfl, -⟩ := Row.locate_eq_some found
  simp [cut]

theorem lt_size_of_lookup? (found : rows.lookup? id = some (position, state)) :
    position < rows.size :=
  (List.getElem?_eq_some_iff.mp (getElem?_of_lookup? found)).1

theorem mem_of_lookup? (found : rows.lookup? id = some (position, state)) :
    ⟨id, state⟩ ∈ rows.rows :=
  List.mem_of_getElem? (getElem?_of_lookup? found)

theorem lookup?_of_getElem? (ordered : rows.Ordered)
    (at_ : rows.rows[position]? = some ⟨id, state⟩) :
    rows.lookup? id = some (position, state) := by
  obtain ⟨onScreen, row⟩ := List.getElem?_eq_some_iff.mp at_
  have cut : rows.rows = rows.rows.take position ++ ⟨id, state⟩ :: rows.rows.drop (position + 1) := by
    rw [← row, List.getElem_cons_drop, List.take_append_drop]
  have others : ∀ row ∈ rows.rows.take position, row.id ≠ id := by
    intro row early same
    have ascending := List.pairwise_map.mp ordered.ascending
    rw [cut, List.pairwise_append] at ascending
    have := ascending.2.2 row early ⟨id, state⟩ List.mem_cons_self
    rw [same] at this
    exact Nat.lt_irrefl _ this
  rw [lookup?, cut, Row.locate_cut others]
  simp [List.length_take, Nat.min_eq_left (Nat.le_of_lt onScreen)]

theorem set_eq (found : rows.lookup? id = some (position, state)) (fresh : σ) :
    rows.set id fresh = ⟨rows.rows.set position ⟨id, fresh⟩, rows.issued⟩ := by
  obtain ⟨before, after, cut, rfl, others⟩ := Row.locate_eq_some found
  rw [set, modify, cut, Row.update_cut others]
  simp

theorem lookup?_set_self (found : rows.lookup? id = some (position, state)) (fresh : σ) :
    (rows.set id fresh).lookup? id = some (position, fresh) := by
  obtain ⟨before, after, cut, rfl, others⟩ := Row.locate_eq_some found
  rw [set, modify, cut, Row.update_cut others, lookup?, Row.locate_cut others]

theorem lookup?_set_other (different : other ≠ id) (fresh : σ) :
    (rows.set id fresh).lookup? other = rows.lookup? other := by
  have same : ∀ (rows : List (Row σ)) first,
      Row.locate other (Row.update id (fun _ => fresh) rows) first =
        Row.locate other rows first := by
    intro rows
    induction rows with
    | nil => intro first; rfl
    | cons row rest ih =>
        intro first
        by_cases named : row.id = id
        · simp [Row.update, Row.locate, named, different.symm]
        · simp [Row.update, Row.locate, named, ih]
  exact same rows.rows 0

theorem get?_set_self (found : rows.lookup? id = some (position, state)) (fresh : σ) :
    (rows.set id fresh).get? id = some fresh :=
  get?_of_lookup? (lookup?_set_self found fresh)

theorem get?_set_other (different : other ≠ id) (fresh : σ) :
    (rows.set id fresh).get? other = rows.get? other := by
  rw [get?_eq_lookup?, get?_eq_lookup?, lookup?_set_other different]

theorem set_set (found : rows.lookup? id = some (position, state)) (first second : σ) :
    (rows.set id first).set id second = rows.set id second := by
  rw [set_eq (lookup?_set_self found first), set_eq found, set_eq found, List.set_set]

theorem size_set (rows : Rows σ) (id : RowId) (fresh : σ) :
    (rows.set id fresh).size = rows.size := by
  simpa [ids, size, set, modify] using
    congrArg List.length (Row.ids_update id (fun _ => fresh) rows.rows)

theorem ids_modify (rows : Rows σ) (id : RowId) (change : σ → σ) :
    (rows.modify id change).ids = rows.ids :=
  Row.ids_update id change rows.rows

theorem Ordered.modify (ordered : rows.Ordered) (id : RowId) (change : σ → σ) :
    (rows.modify id change).Ordered := by
  have ids := ids_modify rows id change
  exact ⟨ids ▸ ordered.ascending, ids ▸ ordered.issued⟩

theorem Ordered.set (ordered : rows.Ordered) (id : RowId) (fresh : σ) :
    (rows.set id fresh).Ordered :=
  ordered.modify id fun _ => fresh

/-! Changes of one row, whatever it shows. -/

theorem modify_comm {change also : σ → σ}
    (commute : id = other → ∀ state, change (also state) = also (change state)) (rows : Rows σ) :
    (rows.modify other also).modify id change = (rows.modify id change).modify other also :=
  congrArg (Rows.mk · rows.issued) (Row.update_comm commute rows.rows)

theorem modify_eq_self {change : σ → σ}
    (keeps : ∀ state, rows.get? id = some state → change state = state) :
    rows.modify id change = rows := by
  refine congrArg (Rows.mk · rows.issued) (Row.update_eq_self fun row found => ?_)
  exact keeps row.state (by rw [get?, found, Option.map_some])

theorem modify_eq_set (found : rows.get? id = some state) (change : σ → σ) :
    rows.modify id change = rows.set id (change state) := by
  obtain ⟨position, located⟩ := exists_lookup? found
  obtain ⟨before, after, cut, -, others⟩ := Row.locate_eq_some located
  rw [set, modify, modify, cut, Row.update_cut others, Row.update_cut others]

theorem get?_modify (rows : Rows σ) (id other : RowId) (change : σ → σ) :
    (rows.modify id change).get? other =
      (rows.get? other).map fun state => if other = id then change state else state := by
  rw [get?, modify, Row.find?_update, get?, Option.map_map]
  rfl

/-! Addition. -/

theorem get?_push_other (different : other ≠ (rows.push state).1) :
    (rows.push state).2.get? other = rows.get? other := by
  have fresh : ¬ (⟨rows.issued⟩ : RowId) = other := Ne.symm different
  simp [push, get?, List.find?_append, fresh]

theorem number_lt_issued (ordered : rows.Ordered) (found : rows.get? id = some state) :
    id.number < rows.issued := by
  obtain ⟨position, located⟩ := exists_lookup? found
  exact ordered.issued id (List.mem_map_of_mem (mem_of_lookup? located))

theorem get?_eq_none_of_issued (ordered : rows.Ordered) (unissued : rows.issued ≤ id.number) :
    rows.get? id = none := by
  cases found : rows.get? id with
  | none => rfl
  | some state => exact absurd (number_lt_issued ordered found) (Nat.not_lt.mpr unissued)

theorem get?_push_self (ordered : rows.Ordered) (state : σ) :
    (rows.push state).2.get? (rows.push state).1 = some state := by
  have absent : rows.get? ⟨rows.issued⟩ = none :=
    get?_eq_none_of_issued ordered (Nat.le_refl _)
  rw [get?, Option.map_eq_none_iff] at absent
  rw [push, get?, List.find?_append, absent]
  simp

theorem Ordered.push (ordered : rows.Ordered) (state : σ) : (rows.push state).2.Ordered := by
  have ids : (rows.push state).2.ids = rows.ids ++ [⟨rows.issued⟩] := by
    simp [Rows.ids, Rows.push]
  refine ⟨?_, ?_⟩
  · rw [ids, List.pairwise_append]
    refine ⟨ordered.ascending, List.pairwise_singleton _ _, fun earlier member later last => ?_⟩
    rw [List.mem_singleton.mp last]
    exact ordered.issued earlier member
  · intro id member
    rw [ids, List.mem_append, List.mem_singleton] at member
    rcases member with old | rfl
    · exact Nat.lt_succ_of_lt (ordered.issued id old)
    · exact Nat.lt_succ_self _

theorem start_ordered (state : σ) : (start state).Ordered := by
  have empty : (⟨[], 0⟩ : Rows σ).Ordered := ⟨.nil, by simp [ids]⟩
  exact empty.push state

/-! Removal. -/

variable {rest : Rows σ}

theorem remove?_eq_some (removed : rows.remove? id = some (position, state, rest)) :
    rows.lookup? id = some (position, state) ∧
      rest = ⟨rows.rows.eraseIdx position, rows.issued⟩ := by
  obtain ⟨⟨_, _⟩, found, same⟩ := Option.map_eq_some_iff.mp removed
  cases same
  exact ⟨found, rfl⟩

theorem remove?_eq_none : rows.remove? id = none ↔ rows.lookup? id = none :=
  Option.map_eq_none_iff

theorem not_mem_ids_of_remove? (missing : rows.remove? id = none) : id ∉ rows.ids := by
  rw [← get?_eq_none_iff, get?_eq_lookup?, remove?_eq_none.mp missing, Option.map_none]

theorem exists_remove? (found : rows.lookup? id = some (position, state)) :
    ∃ rest, rows.remove? id = some (position, state, rest) :=
  ⟨_, by rw [remove?, found, Option.map_some]⟩

theorem size_remove (removed : rows.remove? id = some (position, state, rest)) :
    rest.size + 1 = rows.size := by
  obtain ⟨found, rfl⟩ := remove?_eq_some removed
  obtain ⟨onScreen, -⟩ := List.getElem?_eq_some_iff.mp (getElem?_of_lookup? found)
  simp only [size, List.length_eraseIdx_of_lt onScreen]
  omega

theorem Ordered.remove (ordered : rows.Ordered)
    (removed : rows.remove? id = some (position, state, rest)) : rest.Ordered := by
  obtain ⟨-, rfl⟩ := remove?_eq_some removed
  have fewer : ((rows.rows.eraseIdx position).map Row.id).Sublist rows.ids :=
    (List.eraseIdx_sublist rows.rows position).map Row.id
  exact ⟨ordered.ascending.sublist fewer, fun id member => ordered.issued id (fewer.subset member)⟩

theorem get?_remove_other (removed : rows.remove? id = some (position, state, rest))
    (different : other ≠ id) : rest.get? other = rows.get? other := by
  obtain ⟨found, rfl⟩ := remove?_eq_some removed
  obtain ⟨before, after, cut, rfl, -⟩ := Row.locate_eq_some found
  simp [get?, cut, List.eraseIdx_append_of_length_le, List.find?_append, different.symm]

theorem get?_remove_self (ordered : rows.Ordered)
    (removed : rows.remove? id = some (position, state, rest)) : rest.get? id = none := by
  obtain ⟨found, rfl⟩ := remove?_eq_some removed
  obtain ⟨before, after, cut, rfl, others⟩ := Row.locate_eq_some found
  have ascending := List.pairwise_map.mp ordered.ascending
  rw [cut, List.pairwise_append] at ascending
  have later : ∀ row ∈ after, row.id ≠ id := by
    intro row member same
    have := (List.pairwise_cons.mp ascending.2.1).1 row member
    rw [same] at this
    exact Nat.lt_irrefl _ this
  have absent : ∀ row ∈ before ++ after, row.id ≠ id := by
    intro row member
    rcases List.mem_append.mp member with early | late
    · exact others row early
    · exact later row late
  rw [get?, Option.map_eq_none_iff, List.find?_eq_none]
  simpa [cut, List.eraseIdx_append_of_length_le] using absent

/-! What the rows show, without their ids. -/

def states (rows : Rows σ) : List σ :=
  rows.rows.map Row.state

@[simp] theorem length_states (rows : Rows σ) : rows.states.length = rows.size :=
  List.length_map _

@[simp] theorem states_push (rows : Rows σ) (state : σ) :
    (rows.push state).2.states = rows.states ++ [state] := by
  simp [states, push]

theorem states_set (found : rows.lookup? id = some (position, state)) (fresh : σ) :
    (rows.set id fresh).states = rows.states.set position fresh := by
  rw [set_eq found, states, states, List.map_set]

theorem states_remove (removed : rows.remove? id = some (position, state, rest)) :
    rest.states = rows.states.eraseIdx position := by
  obtain ⟨-, rfl⟩ := remove?_eq_some removed
  rw [states, states, List.eraseIdx_map]

theorem exists_idAt? (ordered : rows.Ordered) (shown : rows.states[position]? = some state) :
    ∃ id, rows.idAt? position = some id ∧ rows.lookup? id = some (position, state) := by
  rw [states, List.getElem?_map, Option.map_eq_some_iff] at shown
  obtain ⟨row, place, rfl⟩ := shown
  exact ⟨row.id, by rw [idAt?, place]; rfl, lookup?_of_getElem? ordered place⟩

theorem idAt?_eq_none (absent : rows.states[position]? = none) : rows.idAt? position = none := by
  rw [states, List.getElem?_map, Option.map_eq_none_iff] at absent
  rw [idAt?, absent, Option.map_none]

end Rows

end QueryMenu
