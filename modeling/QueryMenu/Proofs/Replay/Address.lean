import QueryMenu.Proofs.Replay.Plain
import QueryMenu.Proofs.Rows

namespace QueryMenu.Replay

/-! Rows addressed by position.

A step addresses a row by its position; a menu is asked about a row by its id.  In rows
that are in order the two find the same row.  So a step comes to the same on a menu and
on plain rows if the actions that are made of it do.
-/

variable {σ α : Type} {rows : Rows σ}

namespace Step

/-- The action made of a step brings the outcome; there is none if none is made. -/
def Meets {β : Type} (brings : β → Plain.Outcome α → Prop) (action : Except StepError β) :
    Option (Plain.Outcome α) → Prop
  | none => ∃ error, action = .error error
  | some outcome => ∃ meant, action = .ok meant ∧ brings meant outcome

theorem row_addressed (ordered : rows.Ordered) (read : σ → α) (step : Step) :
    (Plain.addressed? (rows.states.map read) step = none ∧
      ∃ error, step.row rows = .error error) ∨
    ∃ position id state, Plain.addressed? (rows.states.map read) step =
        some (position, read state) ∧
      step.row rows = .ok id ∧ rows.lookup? id = some (position, state) := by
  cases place : step.position with
  | none =>
      refine .inl ⟨?_, .missingPosition step.action, ?_⟩
      · simp [Plain.addressed?, place]
      · simp only [Step.row, place]
  | some position =>
      cases shown : rows.states[position]? with
      | none =>
          have absent := Rows.idAt?_eq_none shown
          refine .inl ⟨?_, .noRow position, ?_⟩
          · simp [Plain.addressed?, place, shown]
          · simp only [Step.row, place, absent]
      | some state =>
          obtain ⟨id, here, located⟩ := Rows.exists_idAt? ordered shown
          refine .inr ⟨position, id, state, ?_, ?_, located⟩
          · simp [Plain.addressed?, place, shown]
          · simp only [Step.row, place, here]

theorem text_given (step : Step) :
    (step.value = none ∧ ∃ error, step.text = .error error) ∨
      ∃ text, step.value = some text ∧ step.text = .ok text := by
  cases given : step.value with
  | none => exact .inl ⟨rfl, .missingValue step.action, by simp only [Step.text, given]⟩
  | some text => exact .inr ⟨text, rfl, by simp only [Step.text, given]⟩

section Meets

variable {β : Type} {brings : β → Plain.Outcome α → Prop}

theorem meets_row (ordered : rows.Ordered) (read : σ → α) {action : RowId → β}
    {outcome : Nat × α → Plain.Outcome α} (step : Step)
    (each : ∀ {id position state}, rows.lookup? id = some (position, state) →
      brings (action id) (outcome (position, read state))) :
    Meets brings
      (do return action (← step.row rows))
      (do
        let place ← Plain.addressed? (rows.states.map read) step
        return outcome place) := by
  obtain ⟨absent, error, refused⟩ | ⟨position, id, state, addressed, named, located⟩ :=
    step.row_addressed ordered read
  · rw [absent, refused]
    exact ⟨error, rfl⟩
  · rw [addressed, named]
    exact ⟨action id, rfl, each located⟩

theorem meets_text (ordered : rows.Ordered) (read : σ → α) {action : RowId → String → β}
    {outcome : Nat × α → String → Plain.Outcome α} (step : Step)
    (each : ∀ {id position state} text, rows.lookup? id = some (position, state) →
      brings (action id text) (outcome (position, read state) text)) :
    Meets brings
      (do return action (← step.row rows) (← step.text))
      (do
        let place ← Plain.addressed? (rows.states.map read) step
        let text ← step.value
        return outcome place text) := by
  obtain ⟨absent, error, refused⟩ | ⟨position, id, state, addressed, named, located⟩ :=
    step.row_addressed ordered read
  · rw [absent, refused]
    exact ⟨error, rfl⟩
  · rw [addressed, named]
    obtain ⟨missing, error, refused⟩ | ⟨text, given, carried⟩ := step.text_given
    · rw [missing, refused]
      exact ⟨error, rfl⟩
    · rw [given, carried]
      exact ⟨action id text, rfl, each text located⟩

end Meets

end Step

theorem Plain.delete_eq_change {cells : List α} {position : Nat} (single : cells.length = 1)
    (onScreen : position < cells.length) (empty : α) (emptied removed : List String) :
    Plain.delete cells position empty emptied removed =
      Plain.change cells position (some (empty, emptied)) := by
  obtain ⟨cell, rfl⟩ := List.length_eq_one_iff.mp single
  obtain rfl : position = 0 := Nat.lt_one_iff.mp onScreen
  rfl

end QueryMenu.Replay
