import QueryMenu.Proofs.Except
import QueryMenu.Proofs.Replay.Simulation

namespace QueryMenu.Replay

/-! What a step does, wherever in a script it stands.

The index of a step only says under which number the step is noted.  What becomes of the
rows, whether the step applied and what it announced depend on the rows and on the step.
So two runs can be compared step by step although their steps have other numbers.
-/

namespace Plain

section Outcome

variable {α : Type} {rows : List α} {step : Step} {outcome : Outcome α}

theorem outcome_of_row (holds : Outcome α → Prop) {made : Nat × α → Outcome α}
    (came : (do
      let place ← addressed? rows step
      return made place) = some outcome)
    (each : ∀ place, holds (made place)) : holds outcome := by
  simp only [Option.bind_eq_bind, Option.bind_eq_some_iff, Option.pure_def,
    Option.some.injEq] at came
  obtain ⟨place, -, rfl⟩ := came
  exact each place

theorem outcome_of_text (holds : Outcome α → Prop) {made : Nat × α → String → Outcome α}
    (came : (do
      let place ← addressed? rows step
      let text ← step.value
      return made place text) = some outcome)
    (each : ∀ place text, holds (made place text)) : holds outcome := by
  simp only [Option.bind_eq_bind, Option.bind_eq_some_iff, Option.pure_def,
    Option.some.injEq] at came
  obtain ⟨place, -, text, -, rfl⟩ := came
  exact each place text

end Outcome

/-- What a step makes of the rows of both menus, and what there is to note of it. -/
structure Effect where
  aggregators : List (Option Aggregator)
  cells : List Cell
  response : Response
  events : List String

namespace State

def effect? (script : Script) (labels : Labels) (state : State) (step : Step) : Option Effect :=
  match step.menu with
  | .aggregation =>
    (aggregate labels.aggregation script.aggregators state.aggregators step).map
      fun outcome => ⟨outcome.rows, state.cells, outcome.response, outcome.events⟩
  | .dataSources =>
    (arrange labels.dataSources (.ofProvider script.provider) state.cells step).map
      fun outcome => ⟨state.aggregators, outcome.rows, outcome.response, outcome.events⟩

def after (state : State) (index : Nat) (effect : Effect) : State where
  aggregators := effect.aggregators
  cells := effect.cells
  unhandled := state.unhandled ++ if effect.response = .unhandled then [index] else []
  events := state.events ++ effect.events

/-- Only earlier steps have been noted. -/
def NotedBefore (state : State) (index : Nat) : Prop :=
  ∀ noted ∈ state.unhandled, noted < index

variable {script other : Script} {labels : Labels} {state final : State} {effect : Effect}
  {index : Nat} {step : Step} {rest steps : List Step}

theorem step_eq (script : Script) (labels : Labels) (state : State) (index : Nat)
    (step : Step) :
    state.step script labels index step =
      (state.effect? script labels step).map (state.after index) := by
  unfold State.step effect?
  cases step.menu with
  | aggregation =>
      cases aggregate labels.aggregation script.aggregators state.aggregators step <;> rfl
  | dataSources =>
      cases arrange labels.dataSources (.ofProvider script.provider) state.cells step <;> rfl

theorem runFrom_cons_eq_some_iff :
    state.runFrom script labels index (step :: rest) = some final ↔
      ∃ effect, state.effect? script labels step = some effect ∧
        (state.after index effect).runFrom script labels (index + 1) rest = some final := by
  rw [runFrom, step_eq]
  cases state.effect? script labels step <;> simp

/-- Of a script, a run asks no more than what the menus offer. -/
theorem runFrom_congr (aggregators : other.aggregators = script.aggregators)
    (provider : other.provider = script.provider) (state : State) (index : Nat)
    (steps : List Step) :
    state.runFrom other labels index steps = state.runFrom script labels index steps := by
  induction steps generalizing state index with
  | nil => rfl
  | cons step rest ih =>
      have same : state.step other labels index step = state.step script labels index step := by
        rw [step_eq, step_eq, effect?, effect?, aggregators, provider]
      simp only [runFrom, same, ih]

theorem mem_unhandled_after {noted : Nat} :
    noted ∈ (state.after index effect).unhandled ↔
      noted ∈ state.unhandled ∨ effect.response = .unhandled ∧ noted = index := by
  unfold after
  by_cases response : effect.response = .unhandled <;> simp [response]

theorem NotedBefore.after (early : state.NotedBefore index) (effect : Effect) :
    (state.after index effect).NotedBefore (index + 1) := by
  intro noted member
  rcases mem_unhandled_after.mp member with old | ⟨-, rfl⟩
  · exact Nat.lt_succ_of_lt (early noted old)
  · exact Nat.lt_succ_self noted

theorem mem_unhandled_of_lt {noted : Nat}
    (ran : state.runFrom script labels index steps = some final) (early : noted < index) :
    noted ∈ final.unhandled ↔ noted ∈ state.unhandled := by
  induction steps generalizing state index with
  | nil =>
      cases ran
      rfl
  | cons step rest ih =>
      obtain ⟨effect, -, went⟩ := runFrom_cons_eq_some_iff.mp ran
      rw [ih went (Nat.lt_succ_of_lt early), mem_unhandled_after]
      exact or_iff_left fun late => Nat.ne_of_lt early late.2

/-- A step is noted in the end exactly if it did not apply. -/
theorem mem_unhandled_iff (early : state.NotedBefore index)
    (went : (state.after index effect).runFrom script labels (index + 1) rest = some final) :
    index ∈ final.unhandled ↔ effect.response = .unhandled := by
  rw [mem_unhandled_of_lt went (Nat.lt_succ_self index), mem_unhandled_after]
  simp only [and_true]
  exact or_iff_right fun old => Nat.lt_irrefl index (early index old)

end State

end Plain

theorem run_eq_ok_iff {script : Script} {labels : Labels} {report : Report} :
    run script labels = .ok report ↔
      ∃ final, Plain.State.runFrom script labels {} 0 script.steps = some final ∧
        final.report labels = report := by
  have same : (run script labels).toOption =
      (Plain.State.runFrom script labels {} 0 script.steps).map (Plain.State.report labels) :=
    (Session.start_shows script labels).runFrom 0 script.steps
  rw [← Option.map_eq_some_iff, ← same]
  exact Except.toOption_eq_some_iff.symm

end QueryMenu.Replay
