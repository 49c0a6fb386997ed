namespace Except

/-! When a computation that may fail has a given result.

A chain succeeds if its links do, mapping over values or over errors changes neither what
succeeds nor what fails, and a list is computed if each of its items is.
-/

variable {ε δ α β : Type} {result : Except ε α} {error : ε} {value : β}

theorem bind_eq_ok_iff {next : α → Except ε β} :
    result.bind next = .ok value ↔ ∃ found, result = .ok found ∧ next found = .ok value := by
  cases result <;> simp [Except.bind]

theorem map_eq_ok_iff {convert : α → β} :
    result.map convert = .ok value ↔ ∃ found, result = .ok found ∧ convert found = value := by
  cases result <;> simp [Except.map]

theorem map_eq_error_iff {convert : α → β} :
    result.map convert = .error error ↔ result = .error error := by
  cases result <;> simp [Except.map]

theorem mapError_eq_ok_iff {convert : ε → δ} {value : α} :
    result.mapError convert = .ok value ↔ result = .ok value := by
  cases result with
  | error reason => exact iff_of_false nofun nofun
  | ok found =>
      constructor
      · rintro ⟨⟩
        rfl
      · rintro ⟨⟩
        rfl

theorem mapError_eq_error_iff {convert : ε → δ} {told : δ} :
    result.mapError convert = .error told ↔
      ∃ error, result = .error error ∧ convert error = told := by
  cases result with
  | error reason =>
      constructor
      · intro same
        exact ⟨reason, rfl, Except.error.inj same⟩
      · rintro ⟨error, ⟨⟩, rfl⟩
        rfl
  | ok found => exact iff_of_false nofun nofun

theorem toOption_eq_some_iff {value : α} : result.toOption = some value ↔ result = .ok value := by
  cases result <;> simp [Except.toOption]

theorem exists_of_mapM_eq_ok {read : α → Except ε β} {items : List α} {values : List β}
    (done : items.mapM read = .ok values) {item : α} (member : item ∈ items) :
    ∃ value, read item = .ok value := by
  induction items generalizing values with
  | nil => cases member
  | cons first rest ih =>
      rw [List.mapM_cons] at done
      obtain ⟨value, here, done⟩ := bind_eq_ok_iff.mp done
      obtain ⟨others, later, -⟩ := bind_eq_ok_iff.mp done
      rcases List.mem_cons.mp member with rfl | listed
      · exact ⟨value, here⟩
      · exact ih later listed

end Except
