import QueryMenu.Proofs.Rows.Replace

namespace QueryMenu.Rows

/-! Runs of a column of rows.

A host adds rows, removes them and changes what they show.  Rows enter at the end, under
ids that only grow, and nothing ever moves a row past another one.  So ids ascend in
display order through every run, a row that has left cannot come back, and whichever way
a row is looked up, by its id or by its place, it is the same row.  Ids are counted here
without a bound; a 64-bit counter agrees for as long as fewer than 2^64 rows are issued.
-/

variable {σ : Type}

/-- What a host does to its rows. -/
inductive Operation (σ : Type) where
  | push (state : σ)
  | remove (id : RowId)
  | modify (id : RowId) (change : σ → σ)
  /-- A change of the row that is found together with its position. -/
  | modifyAt (id : RowId) (change : Nat → σ → σ)

def Operation.isPush : Operation σ → Bool
  | .push _ => true
  | _ => false

def Operation.row? : Operation σ → Option RowId
  | .push _ => none
  | .remove id | .modify id _ | .modifyAt id _ => some id

def perform (rows : Rows σ) : Operation σ → Rows σ
  | .push state => (rows.push state).2
  | .remove id =>
    match rows.remove? id with
    | some (_, _, rest) => rest
    | none => rows
  | .modify id change => rows.modify id change
  | .modifyAt id change =>
    match rows.lookup? id with
    | some (position, state) => rows.set id (change position state)
    | none => rows

def run (rows : Rows σ) (operations : List (Operation σ)) : Rows σ :=
  operations.foldl perform rows

theorem run_cons (rows : Rows σ) (operation : Operation σ) (rest : List (Operation σ)) :
    rows.run (operation :: rest) = (rows.perform operation).run rest := rfl

theorem run_append (rows : Rows σ) (first second : List (Operation σ)) :
    rows.run (first ++ second) = (rows.run first).run second :=
  List.foldl_append

/-- A write to the row at a position. -/
structure Writes (rows after : Rows σ) (id : RowId) (position : Nat) (fresh : σ) : Prop where
  stored : after = ⟨rows.rows.set position ⟨id, fresh⟩, rows.issued⟩
  ids : after.ids = rows.ids
  own : after.get? id = some fresh
  others : ∀ other, other ≠ id → after.get? other = rows.get? other

/-- The removal of the row at a position. -/
structure Removes (rows rest : Rows σ) (id : RowId) (position : Nat) : Prop where
  ids : rest.ids = rows.ids.filter (· ≠ id)
  issued : rest.issued = rows.issued
  states : ∀ other, other ≠ id → rest.get? other = rows.get? other
  places : ∀ other, other ≠ id → rest.position? other =
    (rows.position? other).map fun place => if position < place then place - 1 else place

/-- Ids and positions name the same rows, for reading, writing and removing. -/
structure Indexed (rows : Rows σ) : Prop where
  ordered : rows.Ordered
  places : ∀ position id, rows.idAt? position = some id ↔ rows.position? id = some position
  lookup : ∀ id position state, rows.lookup? id = some (position, state) ↔
    rows.rows[position]? = some ⟨id, state⟩
  position : ∀ id, rows.position? id = (rows.lookup? id).map Prod.fst
  get : ∀ id, rows.get? id = (rows.lookup? id).map Prod.snd
  live : ∀ id, id ∈ rows.ids ↔ ∃ position state, rows.lookup? id = some (position, state)
  modified : ∀ id position state, rows.lookup? id = some (position, state) → ∀ change,
    Writes rows (rows.perform (.modify id change)) id position (change state)
  modifiedAt : ∀ id position state, rows.lookup? id = some (position, state) → ∀ change,
    Writes rows (rows.perform (.modifyAt id change)) id position (change position state)
  removed : ∀ id position state, rows.lookup? id = some (position, state) →
    ∃ rest, rows.remove? id = some (position, state, rest) ∧
      rows.perform (.remove id) = rest ∧ Removes rows rest id position
  absent : ∀ id, id ∉ rows.ids → rows.remove? id = none ∧ ∀ operation : Operation σ,
    operation.row? = some id → rows.perform operation = rows

variable {rows : Rows σ} {id : RowId} {position : Nat} {state : σ}

/-! What is on screen. -/

theorem idAt?_eq_some_iff (ordered : rows.Ordered) :
    rows.idAt? position = some id ↔ rows.position? id = some position := by
  rw [idAt?, Option.map_eq_some_iff, position?_eq_lookup?, Option.map_eq_some_iff]
  constructor
  · rintro ⟨⟨_, state⟩, place, rfl⟩
    exact ⟨(position, state), lookup?_of_getElem? ordered place, rfl⟩
  · rintro ⟨⟨_, state⟩, found, rfl⟩
    exact ⟨⟨id, state⟩, getElem?_of_lookup? found, rfl⟩

theorem mem_ids_iff :
    id ∈ rows.ids ↔ ∃ position state, rows.lookup? id = some (position, state) := by
  constructor
  · intro listed
    cases shown : rows.get? id with
    | none => exact absurd listed (get?_eq_none_iff.mp shown)
    | some state =>
        obtain ⟨position, found⟩ := exists_lookup? shown
        exact ⟨position, state, found⟩
  · rintro ⟨position, state, found⟩
    exact mem_ids_of_get? (get?_of_lookup? found)

theorem lookup?_eq_none (absent : id ∉ rows.ids) : rows.lookup? id = none := by
  rw [Option.eq_none_iff_forall_ne_some]
  rintro ⟨position, state⟩ found
  exact absent (mem_ids_iff.mpr ⟨position, state, found⟩)

/-! What one operation does. -/

theorem perform_absent {operation : Operation σ} (absent : id ∉ rows.ids)
    (asked : operation.row? = some id) : rows.perform operation = rows := by
  have missing := lookup?_eq_none absent
  cases operation with
  | push state => cases asked
  | remove row =>
      obtain rfl : row = id := Option.some.inj asked
      rw [perform, remove?_eq_none.mpr missing]
  | modify row change =>
      obtain rfl : row = id := Option.some.inj asked
      have unseen := get?_eq_none_iff.mpr absent
      exact modify_eq_self fun state shown => by simp [unseen] at shown
  | modifyAt row change =>
      obtain rfl : row = id := Option.some.inj asked
      rw [perform, missing]

theorem writes_replace (ordered : rows.Ordered)
    (found : rows.lookup? id = some (position, state)) (fresh : σ) :
    Writes rows (rows.replace id (some fresh)) id position fresh where
  stored := by rw [← set_eq_replace ordered found, set_eq found]
  ids := by
    rw [← set_eq_replace ordered found]
    exact ids_modify rows id _
  own := get?_of_lookup? (lookup?_replace_self ordered found (some fresh))
  others other different := get?_replace ordered different (some fresh)

theorem ids_replace_none (rows : Rows σ) (id : RowId) :
    (rows.replace id none).ids = rows.ids.filter (· ≠ id) := by
  have kept : Row.replaced id (none : Option σ) = Option.guard fun row => row.id ≠ id := by
    funext row
    by_cases named : row.id = id <;> simp [Row.replaced, Option.guard, named]
  rw [ids, replace, ids, kept, List.filterMap_eq_filter, List.filter_map]
  rfl

theorem removes_replace (ordered : rows.Ordered)
    (found : rows.lookup? id = some (position, state)) :
    Removes rows (rows.replace id none) id position where
  ids := ids_replace_none rows id
  issued := rfl
  states other different := get?_replace ordered different none
  places other different := by
    rw [position?_eq_lookup?, position?_eq_lookup?, lookup?_replace ordered found different,
      Option.map_map, Option.map_map]
    simp [Function.comp_def]

theorem Ordered.indexed (ordered : rows.Ordered) : rows.Indexed where
  ordered := ordered
  places _ _ := idAt?_eq_some_iff ordered
  lookup _ _ _ := ⟨getElem?_of_lookup?, lookup?_of_getElem? ordered⟩
  position := position?_eq_lookup? rows
  get := get?_eq_lookup? rows
  live _ := mem_ids_iff
  modified id position state found change := by
    rw [perform, modify_eq_set (get?_of_lookup? found), set_eq_replace ordered found]
    exact writes_replace ordered found _
  modifiedAt id position state found change := by
    simp only [perform, found, set_eq_replace ordered found]
    exact writes_replace ordered found _
  removed id position state found := by
    obtain ⟨rest, removed⟩ := exists_remove? found
    refine ⟨rest, removed, by rw [perform, removed], ?_⟩
    rw [remove_eq_replace ordered removed]
    exact removes_replace ordered found
  absent id absent :=
    ⟨remove?_eq_none.mpr (lookup?_eq_none absent), fun _ => perform_absent absent⟩

/-! Steps and runs. -/

/-- An operation on a row leaves the ids as they are, or takes out the one it names. -/
theorem ids_perform (rows : Rows σ) (operation : Operation σ) :
    (rows.perform operation).ids.Sublist
      (rows.ids ++ if operation.isPush then [⟨rows.issued⟩] else []) := by
  cases operation with
  | push state => simp [perform, push, ids, Operation.isPush]
  | remove id =>
      rw [perform]
      cases removed : rows.remove? id with
      | none => simp [Operation.isPush]
      | some found =>
          obtain ⟨position, state, rest⟩ := found
          obtain ⟨-, rfl⟩ := remove?_eq_some removed
          simpa [ids, Operation.isPush] using (List.eraseIdx_sublist rows.rows position).map Row.id
  | modify id change => simp [perform, ids_modify, Operation.isPush]
  | modifyAt id change =>
      rw [perform]
      cases found : rows.lookup? id with
      | none => simp [Operation.isPush]
      | some place => simp [set, ids_modify, Operation.isPush]

theorem issued_perform (rows : Rows σ) (operation : Operation σ) :
    (rows.perform operation).issued = rows.issued + if operation.isPush then 1 else 0 := by
  cases operation with
  | push state => rfl
  | remove id =>
      rw [perform]
      cases removed : rows.remove? id with
      | none => rfl
      | some found =>
          obtain ⟨position, state, rest⟩ := found
          obtain ⟨-, rfl⟩ := remove?_eq_some removed
          rfl
  | modify id change => rfl
  | modifyAt id change =>
      rw [perform]
      cases rows.lookup? id <;> rfl

theorem Ordered.perform (ordered : rows.Ordered) (operation : Operation σ) :
    (rows.perform operation).Ordered := by
  cases pushes : operation.isPush with
  | true =>
      cases operation with
      | push state => exact ordered.push state
      | _ => cases pushes
  | false =>
      have fewer := ids_perform rows operation
      have same := issued_perform rows operation
      simp only [pushes, Bool.false_eq_true, if_false, List.append_nil, Nat.add_zero] at fewer same
      refine ⟨ordered.ascending.sublist fewer, fun id listed => ?_⟩
      rw [same]
      exact ordered.issued id (fewer.subset listed)

theorem Ordered.run (ordered : rows.Ordered) (operations : List (Operation σ)) :
    (rows.run operations).Ordered := by
  induction operations generalizing rows with
  | nil => exact ordered
  | cons operation rest ih => exact ih (ordered.perform operation)

theorem issued_run (rows : Rows σ) (operations : List (Operation σ)) :
    (rows.run operations).issued = rows.issued + operations.countP Operation.isPush := by
  induction operations generalizing rows with
  | nil => rfl
  | cons operation rest ih =>
      rw [run_cons, ih, issued_perform, List.countP_cons]
      omega

/-- The id has been issued, and its row has left the screen. -/
structure Gone (rows : Rows σ) (id : RowId) : Prop where
  issued : id.number < rows.issued
  absent : id ∉ rows.ids

theorem Gone.perform (gone : rows.Gone id) (operation : Operation σ) :
    (rows.perform operation).Gone id := by
  refine ⟨?_, fun listed => ?_⟩
  · rw [issued_perform]
    exact Nat.lt_add_right _ gone.issued
  · have known := (ids_perform rows operation).subset listed
    rw [List.mem_append] at known
    rcases known with old | fresh
    · exact gone.absent old
    · -- the only other id is one that is issued just now
      cases pushes : operation.isPush with
      | false => simp [pushes] at fresh
      | true =>
          have new : id = ⟨rows.issued⟩ := by simpa [pushes] using fresh
          have := gone.issued
          rw [new] at this
          exact Nat.lt_irrefl _ this

theorem Gone.run (gone : rows.Gone id) (operations : List (Operation σ)) :
    (rows.run operations).Gone id := by
  induction operations generalizing rows with
  | nil => exact gone
  | cons operation rest ih => exact ih (gone.perform operation)

theorem gone_of_removes {rest : Rows σ} (ordered : rows.Ordered) (listed : id ∈ rows.ids)
    (removes : Removes rows rest id position) : rest.Gone id where
  issued := by
    rw [removes.issued]
    exact ordered.issued id listed
  absent := by simp [removes.ids]

/-- After every run from one row on, ids ascend in display order below the number issued, and
ids and positions name the same rows; a row once removed is never named again. -/
theorem run_start_indexed (first : σ) (operations : List (Operation σ)) :
    ((start first).run operations).Indexed ∧
    ((start first).run operations).issued = 1 + operations.countP Operation.isPush ∧
    ∀ id ∈ ((start first).run operations).ids, ∀ later : List (Operation σ),
      id ∉ ((start first).run (operations ++ .remove id :: later)).ids := by
  have ordered := (start_ordered first).run operations
  refine ⟨ordered.indexed, issued_run (start first) operations, fun id listed later => ?_⟩
  obtain ⟨position, state, found⟩ := mem_ids_iff.mp listed
  obtain ⟨rest, -, performed, removes⟩ := ordered.indexed.removed id position state found
  rw [run_append, run_cons, performed]
  exact ((gone_of_removes ordered listed removes).run later).absent

/-- The middle row of three leaves, a fourth one comes, and the last of the first three is
found one position earlier. -/
theorem run_start_indexed_leaving :
    let operations : List (Operation String) := [.push "b", .push "c"]
    let rows := (start "a").run operations
    (⟨1⟩ : RowId) ∈ rows.ids ∧
      (⟨1⟩ : RowId) ∉ ((start "a").run (operations ++ [.remove ⟨1⟩, .push "d"])).ids ∧
      rows.issued = 3 ∧ rows.idAt? 2 = some ⟨2⟩ ∧ rows.position? ⟨2⟩ = some 2 ∧
      ∃ rest, rows.remove? ⟨1⟩ = some (1, "b", rest) ∧ rest.position? ⟨2⟩ = some 1 ∧
        rest.position? ⟨0⟩ = some 0 ∧ rest.get? ⟨2⟩ = some "c" := by
  intro operations rows
  obtain ⟨indexed, issued, never⟩ := run_start_indexed "a" operations
  have listed : (⟨1⟩ : RowId) ∈ rows.ids := by decide
  obtain ⟨rest, removed, -, removes⟩ := indexed.removed ⟨1⟩ 1 "b" (by decide)
  exact ⟨listed, never ⟨1⟩ listed [.push "d"], issued, by decide,
    (indexed.places 2 ⟨2⟩).mp (by decide), rest, removed,
    (removes.places ⟨2⟩ (by decide)).trans (by decide),
    (removes.places ⟨0⟩ (by decide)).trans (by decide),
    (removes.states ⟨2⟩ (by decide)).trans (by decide)⟩

end QueryMenu.Rows
