import QueryMenu.Proofs.Rows

namespace QueryMenu

/-! One row replaced by another, or by none.

A row that shows something else and a row that leaves the screen are one operation here.
Each row on screen is asked for its own id and for nothing else, so replacements of two
different rows come to the same in either order, and the rows that are not replaced keep
their states and their order.  Their positions stay as well, except that a row that
leaves lets the later ones move up.
-/

variable {σ : Type}

namespace Row

theorem locate_succ (id : RowId) (rows : List (Row σ)) (first : Nat) :
    locate id rows (first + 1) =
      (locate id rows first).map fun (position, state) => (position + 1, state) := by
  induction rows generalizing first with
  | nil => rfl
  | cons row rest ih => by_cases named : row.id = id <;> simp [locate, named, ih]

theorem locate_append (id : RowId) (before after : List (Row σ)) (first : Nat) :
    locate id (before ++ after) first =
      (locate id before first).or (locate id after (first + before.length)) := by
  induction before generalizing first with
  | nil => rfl
  | cons row before ih =>
      by_cases named : row.id = id
      · simp [locate, named]
      · simp [locate, named, ih, Nat.add_assoc, Nat.add_comm 1]

theorem bounds_of_locate {id : RowId} {rows : List (Row σ)} {first position : Nat} {state : σ}
    (found : locate id rows first = some (position, state)) :
    first ≤ position ∧ position < first + rows.length := by
  obtain ⟨before, after, rfl, rfl, -⟩ := locate_eq_some found
  simp

theorem findIdx?_eq_locate (id : RowId) (rows : List (Row σ)) :
    (rows.findIdx? fun row => row.id = id) = (locate id rows 0).map Prod.fst := by
  induction rows with
  | nil => rfl
  | cons row rest ih =>
      rw [List.findIdx?_cons, ih]
      by_cases named : row.id = id
      · simp [locate, named]
      · simp [locate, named, locate_succ id rest 0, Function.comp_def]

/-- What stands in the place of a row once the row named `id` meets its fate. -/
def replaced (id : RowId) (fate : Option σ) (row : Row σ) : Option (Row σ) :=
  if row.id = id then fate.map (Row.mk id) else some row

theorem filterMap_replaced {id : RowId} {rows : List (Row σ)} (others : ∀ row ∈ rows, row.id ≠ id)
    (fate : Option σ) : rows.filterMap (replaced id fate) = rows := by
  induction rows with
  | nil => rfl
  | cons row rows ih =>
      rw [List.forall_mem_cons] at others
      rw [List.filterMap_cons, replaced, if_neg others.1, ih others.2]

theorem replaced_comm {id other : RowId} (different : id ≠ other) (first second : Option σ)
    (row : Row σ) :
    (replaced id first row).bind (replaced other second) =
      (replaced other second row).bind (replaced id first) := by
  by_cases one : row.id = id
  · cases first <;> simp [replaced, one, different]
  · by_cases two : row.id = other
    · cases second <;> simp [replaced, two, different.symm]
    · simp [replaced, one, two]

end Row

namespace Rows

variable {rows rest : Rows σ} {id other : RowId} {position gap : Nat} {state : σ}

theorem position?_eq_lookup? (rows : Rows σ) (id : RowId) :
    rows.position? id = (rows.lookup? id).map Prod.fst :=
  Row.findIdx?_eq_locate id rows.rows

theorem position?_of_lookup? (found : rows.lookup? id = some (position, state)) :
    rows.position? id = some position := by
  rw [position?_eq_lookup?, found, Option.map_some]

/-- In rows that are in order the row named `id` is the only one of that name. -/
theorem Ordered.exists_cut (ordered : rows.Ordered)
    (found : rows.lookup? id = some (position, state)) :
    ∃ before after, rows.rows = before ++ ⟨id, state⟩ :: after ∧ position = before.length ∧
      (∀ row ∈ before, row.id ≠ id) ∧ ∀ row ∈ after, row.id ≠ id := by
  obtain ⟨before, after, cut, place, earlier⟩ := Row.locate_eq_some found
  refine ⟨before, after, cut, by omega, earlier, fun row member same => ?_⟩
  have ascending := List.pairwise_map.mp ordered.ascending
  rw [cut, List.pairwise_append] at ascending
  have later := (List.pairwise_cons.mp ascending.2.1).1 row member
  rw [same] at later
  exact Nat.lt_irrefl _ later

/-- Puts something else in the place of a row, or takes the row away. -/
def replace (rows : Rows σ) (id : RowId) (fate : Option σ) : Rows σ :=
  { rows with rows := rows.rows.filterMap (Row.replaced id fate) }

theorem replace_cut {before after : List (Row σ)} (cut : rows.rows = before ++ ⟨id, state⟩ :: after)
    (earlier : ∀ row ∈ before, row.id ≠ id) (later : ∀ row ∈ after, row.id ≠ id)
    (fate : Option σ) :
    (rows.replace id fate).rows = before ++ ((fate.map (Row.mk id)).toList ++ after) := by
  have own : Row.replaced id fate ⟨id, state⟩ = fate.map (Row.mk id) := if_pos rfl
  rw [replace, cut, List.filterMap_append, Row.filterMap_replaced earlier, List.filterMap_cons, own,
    Row.filterMap_replaced later]
  cases fate <;> rfl

theorem replace_missing (missing : rows.lookup? id = none) (fate : Option σ) :
    rows.replace id fate = rows := by
  have others : ∀ row ∈ rows.rows, row.id ≠ id := by
    have unnamed := Row.findIdx?_eq_locate id rows.rows
    rw [show Row.locate id rows.rows 0 = none from missing, Option.map_none,
      List.findIdx?_eq_none_iff] at unnamed
    simpa using unnamed
  rw [replace, Row.filterMap_replaced others]

theorem exists_replace_of_get? (missing : rows.get? id = none) :
    ∃ fate, rows = rows.replace id fate := by
  rw [get?_eq_lookup?, Option.map_eq_none_iff] at missing
  exact ⟨none, (replace_missing missing none).symm⟩

theorem set_eq_replace (ordered : rows.Ordered)
    (found : rows.lookup? id = some (position, state)) (fresh : σ) :
    rows.set id fresh = rows.replace id (some fresh) := by
  obtain ⟨before, after, cut, -, earlier, later⟩ := ordered.exists_cut found
  have replaced := replace_cut cut earlier later (some fresh)
  rw [set, modify, cut, Row.update_cut earlier]
  exact congrArg (Rows.mk · rows.issued) replaced.symm

theorem remove_eq_replace (ordered : rows.Ordered)
    (removed : rows.remove? id = some (position, state, rest)) : rest = rows.replace id none := by
  obtain ⟨found, rfl⟩ := remove?_eq_some removed
  obtain ⟨before, after, cut, rfl, earlier, later⟩ := ordered.exists_cut found
  have replaced := replace_cut cut earlier later none
  have erased : rows.rows.eraseIdx before.length = before ++ after := by
    simp [cut, List.eraseIdx_append_of_length_le]
  rw [erased]
  exact congrArg (Rows.mk · rows.issued) replaced.symm

theorem replace_same (ordered : rows.Ordered)
    (found : rows.lookup? id = some (position, state)) : rows.replace id (some state) = rows := by
  obtain ⟨onScreen, here⟩ := List.getElem?_eq_some_iff.mp (getElem?_of_lookup? found)
  rw [← set_eq_replace ordered found, set_eq found, ← here, List.set_getElem_self]

theorem replace_comm (different : id ≠ other) (rows : Rows σ) (first second : Option σ) :
    (rows.replace id first).replace other second =
      (rows.replace other second).replace id first := by
  simp only [replace, List.filterMap_filterMap, Row.replaced_comm different]

theorem lookup?_replace_self (ordered : rows.Ordered)
    (found : rows.lookup? id = some (position, state)) (fate : Option σ) :
    (rows.replace id fate).lookup? id = fate.map fun fresh => (position, fresh) := by
  obtain ⟨before, after, cut, rfl, earlier, later⟩ := ordered.exists_cut found
  rw [lookup?, replace_cut cut earlier later]
  cases fate with
  | some fresh =>
      have here := Row.locate_cut earlier after fresh 0
      rwa [Nat.zero_add] at here
  | none =>
      -- Nothing of that name is left, since the cut has named every row beside it.
      cases located : Row.locate id (before ++ after) 0 with
      | none => exact located
      | some place =>
          obtain ⟨front, back, same, -⟩ := Row.locate_eq_some located
          have member : (⟨id, place.2⟩ : Row σ) ∈ before ++ after := by rw [same]; simp
          rcases List.mem_append.mp member with early | late
          · exact absurd rfl (earlier _ early)
          · exact absurd rfl (later _ late)

/-! What is left of the other rows. -/

theorem ids_replace (rows : Rows σ) (id : RowId) (fate : Option σ) :
    (rows.replace id fate).ids.filter (· ≠ id) = rows.ids.filter (· ≠ id) := by
  simp only [ids, replace]
  induction rows.rows with
  | nil => rfl
  | cons row listed ih =>
      rw [List.filterMap_cons, List.map_cons]
      by_cases named : row.id = id
      · cases fate <;> simpa [Row.replaced, named] using ih
      · simpa [Row.replaced, named] using ih

/-- Another row keeps its state, and moves up by one if the row that leaves was before it. -/
theorem lookup?_replace (ordered : rows.Ordered) (found : rows.lookup? id = some (gap, state))
    (different : other ≠ id) (fate : Option σ) :
    (rows.replace id fate).lookup? other =
      (rows.lookup? other).map fun (position, shown) =>
        (if fate = none ∧ gap < position then position - 1 else position, shown) := by
  obtain ⟨before, after, cut, rfl, earlier, later⟩ := ordered.exists_cut found
  have was : rows.lookup? other =
      (Row.locate other before 0).or (Row.locate other after (before.length + 1)) := by
    rw [lookup?, cut, Row.locate_append, Row.locate, if_neg different.symm, Nat.zero_add]
  have is : (rows.replace id fate).lookup? other =
      (Row.locate other before 0).or
        (Row.locate other after (before.length + if fate = none then 0 else 1)) := by
    rw [lookup?, replace_cut cut earlier later, Row.locate_append, Nat.zero_add]
    cases fate <;> simp [Row.locate, different.symm]
  rw [was, is]
  -- The other row stands either before the cut, where nothing moves, or after it.
  cases early : Row.locate other before 0 with
  | some place =>
      obtain ⟨position, shown⟩ := place
      have bound := (Row.bounds_of_locate early).2
      have unmoved : ¬ (fate = none ∧ before.length < position) := by omega
      simp only [Option.some_or, Option.map_some, if_neg unmoved]
  | none =>
      cases late : Row.locate other after before.length with
      | none => cases fate <;> simp [Row.locate_succ, late]
      | some place =>
          have bound := (Row.bounds_of_locate late).1
          have moved : before.length < place.1 + 1 := by omega
          cases fate <;> simp [Row.locate_succ, late, moved]

theorem get?_replace (ordered : rows.Ordered) (different : other ≠ id) (fate : Option σ) :
    (rows.replace id fate).get? other = rows.get? other := by
  cases located : rows.lookup? id with
  | none => rw [replace_missing located]
  | some place =>
      rw [get?_eq_lookup?, lookup?_replace ordered located different, Option.map_map,
        get?_eq_lookup?]
      rfl

/-! How many rows there are. -/

theorem size_replace (ordered : rows.Ordered) (found : rows.lookup? id = some (position, state))
    (fate : Option σ) :
    (rows.replace id fate).size + (if fate = none then 1 else 0) = rows.size := by
  obtain ⟨before, after, cut, -, earlier, later⟩ := ordered.exists_cut found
  rw [size, size, replace_cut cut earlier later, cut]
  cases fate with
  | none => simp [Nat.add_assoc]
  | some fresh => simp

theorem two_le_size (different : id ≠ other) (found : rows.get? id = some state) {shown : σ}
    (besides : rows.get? other = some shown) : 2 ≤ rows.size := by
  obtain ⟨gap, located⟩ := exists_lookup? found
  obtain ⟨position, standing⟩ := exists_lookup? besides
  have apart : gap ≠ position := by
    rintro rfl
    have same := (getElem?_of_lookup? located).symm.trans (getElem?_of_lookup? standing)
    exact different (congrArg Row.id (Option.some.inj same))
  have one := lt_size_of_lookup? located
  have two := lt_size_of_lookup? standing
  omega

/-- A row that leaves does not leave another one alone, unless there are only the two. -/
theorem size_replace_eq_one_iff (ordered : rows.Ordered) (different : id ≠ other)
    (found : rows.get? id = some state) {shown : σ} (besides : rows.get? other = some shown)
    (fate : Option σ) (several : fate = none → rows.size ≠ 2) :
    (rows.replace id fate).size = 1 ↔ rows.size = 1 := by
  have two := two_le_size different found besides
  obtain ⟨gap, located⟩ := exists_lookup? found
  have count := size_replace ordered located fate
  by_cases gone : fate = none
  · have more := several gone
    rw [if_pos gone] at count
    omega
  · rw [if_neg gone] at count
    omega

end Rows

end QueryMenu
