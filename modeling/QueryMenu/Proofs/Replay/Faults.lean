import QueryMenu.Proofs.Except
import QueryMenu.Proofs.Replay.Simulation

namespace QueryMenu.Replay

/-! What is wrong with a malformed step.

A step is malformed if its menu has no such action, if it is about a row and says no
position or one past the last row, or if it needs a text and has none.  So what is wrong
with it depends on the step and on the number of rows on screen, and on nothing else
that the menus hold.  Of several causes the first in this order is reported, in a text
that calls the action by its name in scripts.
-/

namespace ActionKind

def belongsTo : ActionKind → MenuName → Bool
  | .toggle, _ | .addRow, _ | .deleteRow, _ => true
  | .choose, menu | .require, menu => menu = .aggregation
  | .chooseKind, menu | .chooseSource, menu | .enterDate, menu | .useLatestDate, menu =>
    menu = .dataSources

def needsRow : ActionKind → Bool
  | .toggle | .addRow => false
  | _ => true

def needsText : ActionKind → Bool
  | .choose | .chooseKind | .chooseSource | .enterDate => true
  | _ => false

/-- The words of a name in scripts, run together with a capital each. -/
def pascalCase (name : String) : String :=
  String.ofList ((Text.fields '-' name.toList).flatMap fun
    | [] => []
    | first :: rest => first.toUpper :: rest)

/-- The title by which messages call the action. -/
def Called (action : ActionKind) (title : String) : Prop :=
  ∃ name, (name, action) ∈ variants ∧ title = pascalCase name

theorem title_of_mem_variants :
    ∀ variant ∈ variants, variant.2.title = pascalCase variant.1 := by
  decide

theorem mem_variants (action : ActionKind) : action ∈ variants.map Prod.snd := by
  cases action <;> decide

theorem called_iff {action : ActionKind} {title : String} :
    action.Called title ↔ title = action.title := by
  constructor
  · rintro ⟨name, listed, rfl⟩
    exact (title_of_mem_variants _ listed).symm
  · rintro rfl
    obtain ⟨⟨name, _⟩, listed, rfl⟩ := List.mem_map.mp action.mem_variants
    exact ⟨name, listed, title_of_mem_variants _ listed⟩

end ActionKind

def refusal? {α : Type} : Except StepError α → Option StepError
  | .error error => some error
  | .ok _ => none

section Refusal

variable {α β γ : Type}

@[simp] theorem refusal?_error (error : StepError) :
    refusal? (.error error : Except StepError α) = some error := rfl

@[simp] theorem refusal?_ok (value : α) : refusal? (.ok value) = none := rfl

theorem refusal?_eq_some {result : Except StepError α} {error : StepError} :
    refusal? result = some error ↔ result = .error error := by
  cases result <;> simp

@[simp] theorem refusal?_map (first : Except StepError α) (convert : α → γ) :
    refusal? (convert <$> first) = refusal? first := by
  cases first <;> rfl

/-- Of two errors, the first one stands. -/
@[simp] theorem refusal?_bind_map (first : Except StepError α) (second : Except StepError β)
    (combine : α → β → γ) :
    refusal? (first >>= fun one => combine one <$> second) =
      (refusal? first).or (refusal? second) := by
  cases first <;> cases second <;> rfl

end Refusal

namespace Step

variable {σ : Type} (step : Step)

def rowFault? (rows : Nat) : Option StepError :=
  match step.position with
  | none => some (.missingPosition step.action)
  | some position => if position < rows then none else some (.noRow position)

def textFault? : Option StepError :=
  if step.value.isNone then some (.missingValue step.action) else none

/-- What is wrong with a step while its menu has so many rows. -/
def fault? (rows : Nat) : Option StepError :=
  if step.action.belongsTo step.menu then
    (if step.action.needsRow then step.rowFault? rows else none).or
      (if step.action.needsText then step.textFault? else none)
  else some (.foreignAction step.menu step.action)

/-- What a malformed step is told while its menu has so many rows.  Each cause is told only
to a step that the causes before it do not fit. -/
inductive Complaint (rows : Nat) : String → Prop where
  | notAggregation {title : String} (called : step.action.Called title)
      (menu : step.menu = .aggregation) (foreign : step.action.belongsTo step.menu = false) :
      Complaint rows (title ++ " is not an aggregation control")
  | notDataSources {title : String} (called : step.action.Called title)
      (menu : step.menu = .dataSources) (foreign : step.action.belongsTo step.menu = false) :
      Complaint rows (title ++ " is not a data-source control")
  | missingPosition {title : String} (called : step.action.Called title)
      (own : step.action.belongsTo step.menu = true) (needed : step.action.needsRow = true)
      (missing : step.position = none) :
      Complaint rows (title ++ " needs a position")
  | noRow {position : Nat} (own : step.action.belongsTo step.menu = true)
      (needed : step.action.needsRow = true) (given : step.position = some position)
      (past : rows ≤ position) :
      Complaint rows ("no row at position " ++ toString position)
  | missingValue {title : String} (called : step.action.Called title)
      (own : step.action.belongsTo step.menu = true)
      (placed : step.action.needsRow = true → ∃ position < rows, step.position = some position)
      (needed : step.action.needsText = true) (missing : step.value = none) :
      Complaint rows (title ++ " needs a value")

@[simp] theorem refusal?_row (rows : Rows σ) :
    refusal? (step.row rows) = step.rowFault? rows.size := by
  unfold row rowFault?
  cases step.position with
  | none => rfl
  | some position =>
      dsimp only
      cases shown : rows.rows[position]? with
      | some here =>
          obtain ⟨onScreen, -⟩ := List.getElem?_eq_some_iff.mp shown
          have named : rows.idAt? position = some here.id := by rw [Rows.idAt?, shown]; rfl
          rw [named, if_pos (show position < rows.size from onScreen), refusal?_ok]
      | none =>
          have past : ¬ position < rows.size :=
            Nat.not_lt.mpr (List.getElem?_eq_none_iff.mp shown)
          have absent : rows.idAt? position = none := by rw [Rows.idAt?, shown]; rfl
          rw [absent, if_neg past, refusal?_error]

@[simp] theorem refusal?_text : refusal? step.text = step.textFault? := by
  unfold text textFault?
  cases step.value <;> rfl

variable {step}

theorem textFault?_eq_some_iff {error : StepError} :
    step.textFault? = some error ↔ step.value = none ∧ error = .missingValue step.action := by
  unfold textFault?
  cases step.value <;> simp [eq_comm]

theorem rowFault?_eq_none_iff {rows : Nat} :
    step.rowFault? rows = none ↔ ∃ position < rows, step.position = some position := by
  unfold rowFault?
  cases step.position <;> simp

theorem rowFault?_eq_some_iff {rows : Nat} {error : StepError} :
    step.rowFault? rows = some error ↔
      (step.position = none ∧ error = .missingPosition step.action) ∨
        ∃ position, step.position = some position ∧ rows ≤ position ∧ error = .noRow position := by
  unfold rowFault?
  cases step.position with
  | none => simp [eq_comm]
  | some position =>
      by_cases onScreen : position < rows
      · simp [onScreen, Nat.not_le.mpr onScreen]
      · simp [onScreen, Nat.not_lt.mp onScreen, eq_comm]

theorem fault?_eq_some_iff {rows : Nat} {error : StepError} :
    step.fault? rows = some error ↔
      (step.action.belongsTo step.menu = false ∧
          error = .foreignAction step.menu step.action) ∨
        step.action.belongsTo step.menu = true ∧
          ((step.action.needsRow = true ∧ step.rowFault? rows = some error) ∨
            (step.action.needsRow = true → step.rowFault? rows = none) ∧
              step.action.needsText = true ∧ step.textFault? = some error) := by
  unfold fault?
  cases step.action.belongsTo step.menu <;> cases step.action.needsRow <;>
    cases step.action.needsText <;> simp [Option.or_eq_some_iff, @eq_comm _ error]

theorem complaint_of_fault? {rows : Nat} {error : StepError}
    (wrong : step.fault? rows = some error) : step.Complaint rows error.message := by
  have called : step.action.Called step.action.title := ActionKind.called_iff.mpr rfl
  rcases fault?_eq_some_iff.mp wrong with
    ⟨foreign, rfl⟩ | ⟨own, ⟨needed, row⟩ | ⟨placed, needed, text⟩⟩
  · cases menu : step.menu with
    | aggregation => exact .notAggregation called menu foreign
    | dataSources => exact .notDataSources called menu foreign
  · rcases rowFault?_eq_some_iff.mp row with ⟨missing, rfl⟩ | ⟨position, given, past, rfl⟩
    · exact .missingPosition called own needed missing
    · exact .noRow own needed given past
  · obtain ⟨missing, rfl⟩ := textFault?_eq_some_iff.mp text
    exact .missingValue called own
      (fun addressed => rowFault?_eq_none_iff.mp (placed addressed)) needed missing

theorem exists_fault?_of_complaint {rows : Nat} {text : String}
    (told : step.Complaint rows text) :
    ∃ error, step.fault? rows = some error ∧ error.message = text := by
  cases told with
  | notAggregation called menu foreign | notDataSources called menu foreign =>
      refine ⟨_, fault?_eq_some_iff.mpr (.inl ⟨foreign, rfl⟩), ?_⟩
      rw [ActionKind.called_iff.mp called, menu]
      rfl
  | missingPosition called own needed missing =>
      have row : step.rowFault? rows = _ := rowFault?_eq_some_iff.mpr (.inl ⟨missing, rfl⟩)
      refine ⟨_, fault?_eq_some_iff.mpr (.inr ⟨own, .inl ⟨needed, row⟩⟩), ?_⟩
      rw [ActionKind.called_iff.mp called]
      rfl
  | noRow own needed given past =>
      have row := rowFault?_eq_some_iff.mpr (.inr ⟨_, given, past, rfl⟩)
      exact ⟨_, fault?_eq_some_iff.mpr (.inr ⟨own, .inl ⟨needed, row⟩⟩), rfl⟩
  | missingValue called own placed needed missing =>
      have value := textFault?_eq_some_iff.mpr ⟨missing, rfl⟩
      have row := fun addressed => rowFault?_eq_none_iff.mpr (placed addressed)
      refine ⟨_, fault?_eq_some_iff.mpr (.inr ⟨own, .inr ⟨row, needed, value⟩⟩), ?_⟩
      rw [ActionKind.called_iff.mp called]
      rfl

theorem complaint_iff {rows : Nat} {text : String} :
    step.Complaint rows text ↔ ∃ error, step.fault? rows = some error ∧ error.message = text := by
  refine ⟨exists_fault?_of_complaint, ?_⟩
  rintro ⟨error, wrong, rfl⟩
  exact complaint_of_fault? wrong

theorem refusal?_aggregationAction (own : step.menu = .aggregation) (menu : Aggregation.Menu) :
    refusal? (step.aggregationAction menu) = step.fault? menu.rows.size := by
  unfold aggregationAction fault?
  rw [own]
  cases step.action <;>
    simp [ActionKind.belongsTo, ActionKind.needsRow, ActionKind.needsText]

theorem refusal?_dataSourceAction (own : step.menu = .dataSources) (menu : DataSource.Menu) :
    refusal? (step.dataSourceAction menu) = step.fault? menu.rows.size := by
  unfold dataSourceAction fault?
  rw [own]
  cases step.action <;>
    simp [ActionKind.belongsTo, ActionKind.needsRow, ActionKind.needsText]

end Step

theorem Step.Meets.isNone_eq {α β : Type} {brings : β → Plain.Outcome α → Prop}
    {action : Except StepError β} {outcome? : Option (Plain.Outcome α)}
    (meets : Step.Meets brings action outcome?) : outcome?.isNone = (refusal? action).isSome := by
  cases outcome? with
  | none =>
      obtain ⟨error, rfl⟩ := meets
      rfl
  | some outcome =>
      obtain ⟨meant, rfl, -⟩ := meets
      rfl

/-! The rows of a menu. -/

def Plain.State.rowCount (state : Plain.State) : MenuName → Nat
  | .aggregation => state.aggregators.length
  | .dataSources => state.cells.length

namespace Session

def rowCount (session : Session) : MenuName → Nat
  | .aggregation => session.aggregation.rows.size
  | .dataSources => session.dataSources.rows.size

variable {script : Script} {labels : Labels} {session : Session} {state : Plain.State}
  {step : Step} {error : StepError}

theorem step_of_fault (endpoints : Endpoints) (index : Nat)
    (wrong : step.fault? (session.rowCount step.menu) = some error) :
    session.step endpoints index step = .error error := by
  apply step_refused
  cases menu : step.menu with
  | aggregation =>
      have refused := Step.refusal?_aggregationAction menu session.aggregation
      rw [menu] at wrong
      rw [show step.fault? session.aggregation.rows.size = some error from wrong,
        refusal?_eq_some] at refused
      simp only [perform, menu, refused]
      rfl
  | dataSources =>
      have refused := Step.refusal?_dataSourceAction menu session.dataSources
      rw [menu] at wrong
      rw [show step.fault? session.dataSources.rows.size = some error from wrong,
        refusal?_eq_some] at refused
      simp only [perform, menu, refused]
      rfl

namespace Shows

variable (showing : session.Shows script labels state)
include showing

theorem rowCount_eq (menu : MenuName) : session.rowCount menu = state.rowCount menu := by
  cases menu with
  | aggregation => exact showing.aggregation.length_eq.symm
  | dataSources => exact showing.dataSources.length_eq.symm

theorem step_eq_none_iff (index : Nat) (step : Step) :
    state.step script labels index step = none ↔
      ∃ error, step.fault? (state.rowCount step.menu) = some error := by
  rw [← showing.rowCount_eq, ← Option.isSome_iff_exists]
  cases menu : step.menu with
  | aggregation =>
      have same := (showing.aggregation.aggregate step).isNone_eq
      rw [Step.refusal?_aggregationAction menu] at same
      cases came : Plain.aggregate labels.aggregation script.aggregators state.aggregators step <;>
        simp [Plain.State.step, menu, rowCount, ← same, came]
  | dataSources =>
      have same := (showing.dataSources.arrange step).isNone_eq
      rw [Step.refusal?_dataSourceAction menu] at same
      cases came : Plain.arrange labels.dataSources (.ofProvider script.provider) state.cells
          step <;>
        simp [Plain.State.step, menu, rowCount, ← same, came]

end Shows

end Session

end QueryMenu.Replay
