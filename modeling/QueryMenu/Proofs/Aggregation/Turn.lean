import QueryMenu.Aggregation.Menu
import QueryMenu.Proofs.Entries.OfRows

namespace QueryMenu.Aggregation

/-! Operations on the aggregation menu as turns of single rows.

What a row shows determines its entry: the selected aggregator and the checkbox.  In a
coherent menu the entries are those of the rows, and an operation addressed to a row
looks at that row alone.
-/

namespace RowView

/-- What the row has chosen. -/
def holding (view : RowView) : Option Aggregator :=
  view.selected.toOption.map fun name => ⟨name, view.required⟩

/-- The row shows nothing that contradicts itself. -/
structure Valid (options : List String) (view : RowView) : Prop where
  offered : ∀ name, view.selected = .value name → name ∈ options
  enabled : view.checkboxEnabled = view.selected.toOption.isSome
  cleared : view.selected = .placeholder → view.required = false

/-- The row after a choice on it, unless the choice is not offered. -/
def chosen (options : List String) (view : RowView) (choice : Choice String) : Option RowView :=
  if choice.toOption.any fun name => !options.contains name then none
  else some (view.choose choice view.holding.isNone)

/-- The row after its checkbox was set, unless the checkbox is locked. -/
def marked (view : RowView) (checked : Bool) : Option RowView :=
  if view.checkboxEnabled then some { view with required := checked } else none

variable {options : List String} {view fresh : RowView}

theorem blank_valid : ({} : RowView).Valid options := by
  constructor <;> simp [Choice.toOption]

theorem Valid.chosen (valid : view.Valid options) {choice : Choice String}
    (chosen : view.chosen options choice = some fresh) : fresh.Valid options := by
  unfold RowView.chosen at chosen
  split at chosen
  · cases chosen
  · rename_i offered
    cases chosen
    cases choice with
    | placeholder => exact blank_valid
    | value name =>
        have known : name ∈ options := by
          simpa [Choice.toOption] using offered
        cases selected : view.selected with
        | placeholder =>
            constructor <;>
              simp [RowView.choose, holding, selected, Choice.toOption, known]
        | value old =>
            have enabled := valid.enabled
            rw [selected] at enabled
            constructor <;>
              simp [RowView.choose, holding, selected, Choice.toOption, known, enabled]

theorem Valid.marked (valid : view.Valid options) {checked : Bool}
    (marked : view.marked checked = some fresh) : fresh.Valid options := by
  unfold RowView.marked at marked
  split at marked
  · rename_i unlocked
    cases marked
    refine ⟨valid.offered, valid.enabled, fun placeholder => ?_⟩
    have locked := valid.enabled
    rw [unlocked, placeholder] at locked
    cases locked
  · cases marked

end RowView

namespace Menu

def entriesOf (rows : Rows RowView) : Entries Aggregator :=
  .ofRows RowView.holding rows

/-- A row shows something else, and its entry follows. -/
def accept (menu : Menu) (row : RowId) (view : RowView) : Menu :=
  { menu with rows := menu.rows.set row view, entries := entriesOf (menu.rows.set row view) }

/-- An operation that looks at one row alone, and applies to it or does not. -/
def turn (menu : Menu) (row : RowId) (act : RowView → Option RowView) : Reply Menu Response :=
  match menu.rows.get? row with
  | none => .refused menu (.unknownRow row)
  | some view =>
    match act view with
    | none => .unhandled menu
    | some fresh => .consumed (menu.accept row fresh)

/-- Rows are in order, none contradicts itself, and the entries are theirs. -/
structure Coherent (menu : Menu) : Prop where
  ordered : menu.rows.Ordered
  populated : 0 < menu.rows.size
  valid : ∀ row ∈ menu.rows.rows, row.state.Valid menu.options
  entries : menu.entries = entriesOf menu.rows

theorem start_coherent (labels : AggregationLabels) (options : List String) :
    (start labels options).Coherent where
  ordered := Rows.start_ordered _
  populated := Nat.one_pos
  valid row only := by
    obtain rfl := List.mem_singleton.mp only
    exact RowView.blank_valid
  entries := rfl

namespace Coherent

variable {menu : Menu} (coherent : menu.Coherent) {row : RowId} {view fresh : RowView}
include coherent

theorem valid_of_get? (found : menu.rows.get? row = some view) : view.Valid menu.options := by
  obtain ⟨position, located⟩ := Rows.exists_lookup? found
  exact coherent.valid _ (Rows.mem_of_lookup? located)

theorem accept (found : menu.rows.get? row = some view) (valid : fresh.Valid menu.options) :
    (menu.accept row fresh).Coherent where
  ordered := coherent.ordered.set row fresh
  populated := by simpa only [Menu.accept, Rows.size_set] using coherent.populated
  valid := by
    obtain ⟨position, located⟩ := Rows.exists_lookup? found
    intro other member
    simp only [Menu.accept, Rows.set_eq located] at member
    rcases List.mem_or_eq_of_mem_set member with old | rfl
    · exact coherent.valid other old
    · exact valid
  entries := rfl

theorem choose_eq (row : RowId) (choice : Choice String) :
    menu.choose row choice = menu.turn row fun view => view.chosen menu.options choice := by
  unfold Menu.choose Menu.turn
  rw [Rows.get?_eq_lookup?]
  cases located : menu.rows.lookup? row with
  | none => rfl
  | some place =>
      obtain ⟨position, view⟩ := place
      have first := Entries.indexOf?_isNone_ofRows RowView.holding located
      simp only [Option.map_some, RowView.chosen, coherent.entries, entriesOf, first]
      split
      · rfl
      · have held : (view.choose choice view.holding.isNone).holding =
            Slot.choose view.holding (choice.map fun name => ⟨name, false⟩) := by
          cases choice with
          | placeholder => rfl
          | value name =>
              cases selected : view.selected <;>
                simp [RowView.choose, RowView.holding, selected, Choice.toOption, Choice.map,
                  Slot.choose, Payload.revise]
        have edited := Entries.choose_ofRows RowView.holding located held
        simp only [edited, Reply.ofEdit, Menu.accept, entriesOf]

theorem require_eq (row : RowId) (checked : Bool) :
    menu.require row checked = menu.turn row fun view => view.marked checked := by
  unfold Menu.require Menu.turn
  rw [Rows.get?_eq_lookup?]
  cases located : menu.rows.lookup? row with
  | none => rfl
  | some place =>
      obtain ⟨position, view⟩ := place
      simp only [Option.map_some, RowView.marked]
      split
      · have held : ({ view with required := checked } : RowView).holding =
            view.holding.map fun aggregator => { aggregator with required := checked } := by
          cases selected : view.selected <;> simp [RowView.holding, selected, Choice.toOption]
        have revised := Entries.revisePayload_ofRows RowView.holding located held
        simp only [coherent.entries, entriesOf, revised, Menu.accept]
      · rfl

theorem deleteRow_eq_of_single (single : menu.rows.size = 1) (row : RowId) :
    menu.deleteRow row = menu.turn row fun _ => some {} := by
  unfold Menu.deleteRow Menu.turn
  rw [if_pos single]
  cases found : menu.rows.get? row with
  | none => rfl
  | some view =>
      obtain ⟨position, located⟩ := Rows.exists_lookup? found
      have empty : ({} : RowView).holding = none := rfl
      have emptied := Entries.deleteRow_ofRows_single RowView.holding empty located single
      simp only [coherent.entries, entriesOf, emptied, Reply.ofEdit, Menu.accept]

theorem deleteRow_eq_of_several (several : menu.rows.size ≠ 1) (row : RowId) :
    menu.deleteRow row =
      match menu.rows.remove? row with
      | none => .refused menu (.unknownRow row)
      | some (_, _, rows) => .consumed { menu with rows, entries := entriesOf rows } := by
  unfold Menu.deleteRow
  rw [if_neg several]
  cases removed : menu.rows.remove? row with
  | none => rfl
  | some rest =>
      obtain ⟨position, view, rows⟩ := rest
      have populated := coherent.populated
      have edited := Entries.deleteRow_ofRows RowView.holding removed (by omega)
      have fits := Entries.ofRows_fitsRows RowView.holding rows
      simp only [coherent.entries, entriesOf, edited, Edit.fitting, Reply.ofEdit, Except.bind,
        if_pos fits]

theorem addRow : menu.addRow.2.Coherent := by
  unfold Menu.addRow
  split
  · exact coherent
  · have empty : ({} : RowView).holding = none := rfl
    have pushed := Entries.ofRows_push RowView.holding empty menu.rows
    refine ⟨coherent.ordered.push _, ?_, fun row member => ?_, coherent.entries.trans pushed.symm⟩
    · simp [Rows.push, Rows.size]
    · simp only [Rows.push, List.mem_append, List.mem_singleton] at member
      rcases member with old | rfl
      · exact coherent.valid row old
      · exact RowView.blank_valid

theorem turn {act : RowView → Option RowView}
    (keeps : ∀ view fresh, view.Valid menu.options → act view = some fresh →
      fresh.Valid menu.options) : (menu.turn row act).menu.Coherent := by
  unfold Menu.turn
  cases found : menu.rows.get? row with
  | none => exact coherent
  | some view =>
      simp only
      cases acted : act view with
      | none => exact coherent
      | some fresh =>
          exact coherent.accept found (keeps view fresh (coherent.valid_of_get? found) acted)

theorem deleteRow (row : RowId) : (menu.deleteRow row).menu.Coherent := by
  by_cases single : menu.rows.size = 1
  · rw [coherent.deleteRow_eq_of_single single]
    refine coherent.turn fun view fresh _ blank => ?_
    cases blank
    exact RowView.blank_valid
  · rw [coherent.deleteRow_eq_of_several single]
    cases removed : menu.rows.remove? row with
    | none => exact coherent
    | some rest =>
        obtain ⟨position, view, rows⟩ := rest
        have fewer := Rows.size_remove removed
        have populated := coherent.populated
        refine ⟨coherent.ordered.remove removed, ?_, fun other member => ?_, rfl⟩
        · show 0 < rows.size
          omega
        · obtain ⟨-, rfl⟩ := Rows.remove?_eq_some removed
          exact coherent.valid other (List.mem_of_mem_eraseIdx member)

end Coherent

end Menu

end QueryMenu.Aggregation
