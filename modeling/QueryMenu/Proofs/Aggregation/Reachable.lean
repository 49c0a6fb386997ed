import QueryMenu.Proofs.Aggregation.Turn

namespace QueryMenu.Aggregation

/-! The states that an aggregation menu can reach.

A host may call the operations in any order, with any ids and values.  Whatever it
calls, the menu stays coherent and goes on offering the same aggregators, and a row is
added only while there are fewer rows than aggregators.  So in every state of every run
the entry list can be read off the rows, and there are no more rows than there is room
for.
-/

/-- What a host can do to a menu. -/
inductive Operation where
  | addRow
  | deleteRow (row : RowId)
  | choose (row : RowId) (choice : Choice String)
  | require (row : RowId) (checked : Bool)
  | handle (action : Action)

namespace Menu

def perform (menu : Menu) : Operation → Menu
  | .addRow => menu.addRow.2
  | .deleteRow row => (menu.deleteRow row).menu
  | .choose row choice => (menu.choose row choice).menu
  | .require row checked => (menu.require row checked).menu
  | .handle action => (menu.handle action).menu

def run (menu : Menu) (operations : List Operation) : Menu :=
  operations.foldl perform menu

/-- What every operation on a coherent menu keeps. -/
structure Keeps (menu next : Menu) : Prop where
  coherent : next.Coherent
  options : next.options = menu.options
  room : next.rows.size ≤ max menu.rows.size menu.options.length

theorem options_turn (menu : Menu) (row : RowId) (act : RowView → Option RowView) :
    (menu.turn row act).menu.options = menu.options := by
  unfold turn
  cases menu.rows.get? row with
  | none => rfl
  | some view =>
      simp only
      cases act view <;> rfl

theorem size_turn (menu : Menu) (row : RowId) (act : RowView → Option RowView) :
    (menu.turn row act).menu.rows.size = menu.rows.size := by
  unfold turn
  cases menu.rows.get? row with
  | none => rfl
  | some view =>
      simp only
      cases act view with
      | none => rfl
      | some fresh => exact Rows.size_set menu.rows row fresh

theorem handle_addRow (menu : Menu) : (menu.handle .addRow).menu = menu.addRow.2 := by
  simp only [handle]
  rcases menu.addRow with ⟨_ | row, next⟩ <;> rfl

namespace Coherent

variable {menu : Menu} (coherent : menu.Coherent)
include coherent

theorem keeps_same : menu.Keeps menu :=
  ⟨coherent, rfl, Nat.le_max_left _ _⟩

theorem keeps_turn {row : RowId} {act : RowView → Option RowView}
    (valid : ∀ view fresh, view.Valid menu.options → act view = some fresh →
      fresh.Valid menu.options) : menu.Keeps (menu.turn row act).menu where
  coherent := coherent.turn valid
  options := menu.options_turn row act
  room := by
    rw [size_turn]
    exact Nat.le_max_left _ _

theorem keeps_addRow : menu.Keeps menu.addRow.2 := by
  by_cases full : menu.options.length ≤ menu.rows.size
  · rw [Menu.addRow, if_pos full]
    exact coherent.keeps_same
  · refine ⟨coherent.addRow, ?_, ?_⟩
    · rw [Menu.addRow, if_neg full]
    · rw [Menu.addRow, if_neg full]
      have grown : (menu.rows.push {}).2.size = menu.rows.size + 1 := by
        simp [Rows.push, Rows.size]
      exact Nat.le_trans (grown ▸ Nat.lt_of_not_le full) (Nat.le_max_right _ _)

theorem keeps_deleteRow (row : RowId) : menu.Keeps (menu.deleteRow row).menu := by
  by_cases single : menu.rows.size = 1
  · rw [coherent.deleteRow_eq_of_single single]
    refine coherent.keeps_turn fun view fresh _ blank => ?_
    cases blank
    exact RowView.blank_valid
  · have deleted := coherent.deleteRow row
    have equal := coherent.deleteRow_eq_of_several single row
    cases removed : menu.rows.remove? row with
    | none =>
        rw [equal, removed]
        exact coherent.keeps_same
    | some rest =>
        obtain ⟨position, view, rows⟩ := rest
        rw [equal, removed] at deleted ⊢
        have fewer : rows.size ≤ menu.rows.size := Rows.size_remove removed ▸ Nat.le_succ _
        exact ⟨deleted, rfl, Nat.le_trans fewer (Nat.le_max_left _ _)⟩

theorem keeps_choose (row : RowId) (choice : Choice String) :
    menu.Keeps (menu.choose row choice).menu := by
  rw [coherent.choose_eq]
  exact coherent.keeps_turn fun _ _ valid chosen => valid.chosen chosen

theorem keeps_require (row : RowId) (checked : Bool) :
    menu.Keeps (menu.require row checked).menu := by
  rw [coherent.require_eq]
  exact coherent.keeps_turn fun _ _ valid marked => valid.marked marked

theorem keeps_handle (action : Action) : menu.Keeps (menu.handle action).menu := by
  cases action with
  | toggle => exact ⟨⟨coherent.ordered, coherent.populated, coherent.valid, coherent.entries⟩, rfl,
      Nat.le_max_left _ _⟩
  | addRow =>
      rw [menu.handle_addRow]
      exact coherent.keeps_addRow
  | deleteRow row => exact coherent.keeps_deleteRow row
  | choose row text => exact coherent.keeps_choose row _
  | require row checked => exact coherent.keeps_require row checked

theorem keeps (operation : Operation) : menu.Keeps (menu.perform operation) := by
  cases operation with
  | addRow => exact coherent.keeps_addRow
  | deleteRow row => exact coherent.keeps_deleteRow row
  | choose row choice => exact coherent.keeps_choose row choice
  | require row checked => exact coherent.keeps_require row checked
  | handle action => exact coherent.keeps_handle action

theorem keeps_run (operations : List Operation) : menu.Keeps (menu.run operations) := by
  induction operations generalizing menu with
  | nil => exact coherent.keeps_same
  | cons operation rest ih =>
      -- The bound holds along the run because the options, which it speaks of, stay.
      have first := coherent.keeps operation
      have later := ih first.coherent
      refine ⟨later.coherent, later.options.trans first.options, Nat.le_trans later.room ?_⟩
      rw [first.options]
      exact Nat.max_le.mpr ⟨first.room, Nat.le_max_right _ _⟩

end Coherent

theorem keeps_run_start (labels : AggregationLabels) (options : List String)
    (operations : List Operation) :
    (start labels options).Keeps ((start labels options).run operations) :=
  (start_coherent labels options).keeps_run operations

end Menu

/-- The entry of a row at a position: of one that has selected an aggregator, and no other. -/
def RowView.entry? (view : RowView) (position : Nat) : Option (Entry Aggregator) :=
  match view.selected with
  | .placeholder => none
  | .value name => some ⟨position, ⟨name, view.required⟩⟩

namespace Menu

theorem entriesOf_eq_project (rows : Rows RowView) :
    (entriesOf rows).toList =
      rows.rows.zipIdx.filterMap fun (row, position) => row.state.entry? position := by
  have own : ∀ (view : RowView) position,
      view.holding.map (Entry.mk position) = view.entry? position := by
    intro view position
    cases selected : view.selected <;>
      simp [RowView.holding, RowView.entry?, selected, Choice.toOption]
  show Entry.ofSlots 0 (rows.rows.map fun row => row.state.holding) = _
  rw [Entry.ofSlots_eq_filterMap, List.zipIdx_map, List.filterMap_map]
  simp only [Function.comp_def, Prod.map, own, id]

/-- In every state of every run the entries are those of the rows that have selected an
aggregator, in display order, each at its row's position and with its row's flag.  What
is selected is offered, a checkbox is unlocked exactly while its row has selected
something and not set otherwise, and the number of rows keeps within its bounds. -/
theorem run_start_projects (labels : AggregationLabels) (options : List String)
    (operations : List Operation) :
    let menu := (start labels options).run operations
    (menu.entries.toList =
      menu.rows.rows.zipIdx.filterMap fun (row, position) => row.state.entry? position) ∧
    (∀ row ∈ menu.rows.rows,
      (∀ name, row.state.selected = .value name → name ∈ options) ∧
      (row.state.checkboxEnabled = true ↔ ∃ name, row.state.selected = .value name) ∧
      (row.state.selected = .placeholder → row.state.required = false)) ∧
    1 ≤ menu.rows.size ∧ menu.rows.size ≤ max 1 options.length := by
  intro menu
  have keeps : (start labels options).Keeps menu := keeps_run_start labels options operations
  refine ⟨?_, fun row member => ?_, keeps.coherent.populated, keeps.room⟩
  · rw [keeps.coherent.entries]
    exact entriesOf_eq_project menu.rows
  · have valid := keeps.coherent.valid row member
    rw [keeps.options] at valid
    refine ⟨valid.offered, ?_, valid.cleared⟩
    rw [valid.enabled]
    cases row.state.selected <;> simp [Choice.toOption]

/-- A flag that was set on the last of three rows is still its own after the first row,
which had selected nothing, is gone and the flagged row has selected another aggregator. -/
theorem run_start_projects_flag :
    let operations : List Operation :=
      [.addRow, .handle .addRow, .choose ⟨2⟩ (.value "Max"), .require ⟨2⟩ true,
        .handle (.choose ⟨1⟩ "Sum"), .deleteRow ⟨0⟩, .choose ⟨2⟩ (.value "Mean")]
    let menu := (start {} ["Sum", "Mean", "Max"]).run operations
    let flagged : Row RowView := ⟨⟨2⟩, ⟨.value "Mean", true, true⟩⟩
    flagged ∈ menu.rows.rows ∧ "Mean" ∈ ["Sum", "Mean", "Max"] ∧
      [⟨0, ⟨"Sum", false⟩⟩, ⟨1, ⟨"Mean", true⟩⟩] =
        menu.rows.rows.zipIdx.filterMap fun (row, position) => row.state.entry? position := by
  intro operations menu flagged
  obtain ⟨entries, rows, -⟩ := run_start_projects {} ["Sum", "Mean", "Max"] operations
  have member : flagged ∈ menu.rows.rows := by decide +kernel
  have stored : menu.entries.toList = [⟨0, ⟨"Sum", false⟩⟩, ⟨1, ⟨"Mean", true⟩⟩] := by
    decide +kernel
  exact ⟨member, (rows flagged member).1 "Mean" rfl, stored ▸ entries⟩

end Menu

end QueryMenu.Aggregation
