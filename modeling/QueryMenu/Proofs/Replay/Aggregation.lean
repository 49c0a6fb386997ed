import QueryMenu.Proofs.Aggregation.Turn
import QueryMenu.Proofs.Replay.Address

namespace QueryMenu.Aggregation.Menu

/-! The aggregation menu under a script.

What the rows of the menu hold is what the plain rows are, before and after each step.
-/

open Replay (Step)
open Replay.Plain (Outcome)

/-- The menu shows these plain rows. -/
structure Shows (labels : AggregationLabels) (offered : List String) (menu : Menu)
    (rows : List (Option Aggregator)) : Prop where
  coherent : menu.Coherent
  labels : menu.labels = labels
  offered : menu.options = offered
  rows : rows = menu.rows.states.map RowView.holding

/-- The reply of the menu comes to the outcome. -/
structure Brings (labels : AggregationLabels) (offered : List String)
    (reply : Reply Menu Response) (outcome : Outcome (Option Aggregator)) : Prop where
  answer : reply.answer = .ok outcome.response
  shown : reply.menu.Shows labels offered outcome.rows
  quiet : outcome.events = []

variable {labels : AggregationLabels} {offered : List String} {menu : Menu}
  {rows : List (Option Aggregator)}

theorem start_shows (labels : AggregationLabels) (offered : List String) :
    (start labels offered).Shows labels offered [none] :=
  ⟨start_coherent labels offered, rfl, rfl, rfl⟩

namespace Shows

variable (showing : menu.Shows labels offered rows)
include showing

theorem length_eq : rows.length = menu.rows.size := by
  rw [showing.rows, List.length_map, Rows.length_states]

/-- A turn of a row does to the plain row what it does to what the row holds. -/
theorem turn {id : RowId} {position : Nat} {view : RowView} {act : RowView → Option RowView}
    (located : menu.rows.lookup? id = some (position, view))
    (keeps : ∀ fresh, act view = some fresh → fresh.Valid menu.options) :
    Brings labels offered (menu.turn id act)
      (Replay.Plain.change rows position
        ((act view).map fun fresh => (fresh.holding, []))) := by
  have found := Rows.get?_of_lookup? located
  cases acted : act view with
  | none =>
      have ignored : menu.turn id act = .unhandled menu := by
        simp only [Menu.turn, found, acted]
      rw [ignored]
      exact ⟨rfl, showing, rfl⟩
  | some fresh =>
      have accepted : menu.turn id act = .consumed (menu.accept id fresh) := by
        simp only [Menu.turn, found, acted]
      rw [accepted]
      refine ⟨rfl, ⟨?_, showing.labels, showing.offered, ?_⟩, rfl⟩
      · exact showing.coherent.accept found (keeps fresh acted)
      · simp only [Option.map_some, Replay.Plain.change, Reply.consumed, Menu.accept,
          Rows.states_set located, List.map_set, showing.rows]

theorem choose {id : RowId} {position : Nat} {view : RowView}
    (located : menu.rows.lookup? id = some (position, view)) (text : String) :
    Brings labels offered (menu.handle (.choose id text))
      (Replay.Plain.change rows position
        (Replay.Plain.choose labels offered view.holding text)) := by
  have valid := showing.coherent.valid_of_get? (Rows.get?_of_lookup? located)
  have same : Replay.Plain.choose labels offered view.holding text =
      (view.chosen menu.options (.ofControl text menu.labels.placeholder)).map
        fun fresh => (fresh.holding, []) := by
    rw [← showing.labels, ← showing.offered]
    unfold Replay.Plain.choose Choice.ofControl RowView.chosen
    by_cases none_ : text = "" ∨ text = menu.labels.placeholder
    · have cleared : text = menu.labels.placeholder ∨ text = "" := none_.symm
      rw [if_pos none_, if_pos cleared]
      rfl
    · have named : ¬ (text = menu.labels.placeholder ∨ text = "") := fun cleared =>
        none_ cleared.symm
      rw [if_neg none_, if_neg named]
      by_cases listed : text ∈ menu.options
      · cases selected : view.selected <;>
          simp [Choice.toOption, RowView.choose, RowView.holding, listed, selected]
      · simp [Choice.toOption, listed]
  rw [same, Menu.handle, showing.coherent.choose_eq]
  exact showing.turn located fun fresh chosen => valid.chosen chosen

theorem require {id : RowId} {position : Nat} {view : RowView}
    (located : menu.rows.lookup? id = some (position, view)) (checked : Bool) :
    Brings labels offered (menu.handle (.require id checked))
      (Replay.Plain.change rows position (Replay.Plain.require view.holding checked)) := by
  have valid := showing.coherent.valid_of_get? (Rows.get?_of_lookup? located)
  have same : Replay.Plain.require view.holding checked =
      (view.marked checked).map fun fresh => (fresh.holding, []) := by
    have enabled := valid.enabled
    cases selected : view.selected <;>
      simp [Replay.Plain.require, RowView.marked, RowView.holding, selected, enabled,
        Choice.toOption]
  rw [same, Menu.handle, showing.coherent.require_eq]
  exact showing.turn located fun fresh marked => valid.marked marked

theorem deleteRow {id : RowId} {position : Nat} {view : RowView}
    (located : menu.rows.lookup? id = some (position, view)) :
    Brings labels offered (menu.handle (.deleteRow id))
      (Replay.Plain.delete rows position none [] []) := by
  have onScreen : position < rows.length := by
    rw [showing.length_eq]
    exact Rows.lt_size_of_lookup? located
  by_cases single : rows.length = 1
  · have only : menu.rows.size = 1 := showing.length_eq.symm.trans single
    rw [Replay.Plain.delete_eq_change single onScreen, Menu.handle,
      showing.coherent.deleteRow_eq_of_single only]
    have blank : ∀ fresh : RowView, some {} = some fresh → fresh.Valid menu.options := by
      intro fresh emptied
      cases emptied
      exact RowView.blank_valid
    exact showing.turn located blank
  · have several : menu.rows.size ≠ 1 := fun only => single (showing.length_eq.trans only)
    obtain ⟨rest, removed⟩ := Rows.exists_remove? located
    have coherent := showing.coherent.deleteRow id
    have left := showing.coherent.deleteRow_eq_of_several several id
    rw [removed] at left
    rw [left] at coherent
    rw [Menu.handle, left, Replay.Plain.delete, if_neg single]
    refine ⟨rfl, ⟨coherent, showing.labels, showing.offered, ?_⟩, rfl⟩
    simp only [Reply.consumed, Rows.states_remove removed, showing.rows, List.eraseIdx_map]

theorem addRow : Brings labels offered (menu.handle .addRow)
    (if rows.length < offered.length then ⟨.consumed, rows ++ [none], []⟩
    else ⟨.unhandled, rows, []⟩) := by
  have coherent := showing.coherent.addRow
  unfold Menu.addRow at coherent
  unfold Menu.handle Menu.addRow
  rw [showing.length_eq]
  rw [showing.offered] at coherent ⊢
  by_cases room : menu.rows.size < offered.length
  · have fewer : ¬ offered.length ≤ menu.rows.size := Nat.not_le.mpr room
    simp only [if_neg fewer, if_pos room] at coherent ⊢
    refine ⟨rfl, ⟨coherent, showing.labels, rfl, ?_⟩, rfl⟩
    simp [Reply.consumed, showing.rows, RowView.holding, Choice.toOption]
  · simp only [if_pos (Nat.not_lt.mp room), if_neg room]
    exact ⟨rfl, showing, rfl⟩

theorem toggle : (menu.handle .toggle).menu.Shows labels offered rows :=
  ⟨⟨showing.coherent.ordered, showing.coherent.populated, showing.coherent.valid,
    showing.coherent.entries⟩, showing.labels, showing.offered, showing.rows⟩

theorem aggregate (step : Step) :
    Step.Meets (fun action => Brings labels offered (menu.handle action))
      (step.aggregationAction menu) (Replay.Plain.aggregate labels offered rows step) := by
  have ordered := showing.coherent.ordered
  obtain rfl := showing.rows
  unfold Step.aggregationAction Replay.Plain.aggregate
  cases step.action with
  | toggle => exact ⟨.toggle, rfl, rfl, showing.toggle, rfl⟩
  | addRow => exact ⟨.addRow, rfl, showing.addRow⟩
  | deleteRow =>
      dsimp only
      refine step.meets_row ordered RowView.holding fun located => ?_
      exact showing.deleteRow located
  | choose =>
      dsimp only
      refine step.meets_text ordered RowView.holding fun text located => ?_
      exact showing.choose located text
  | require =>
      dsimp only
      refine step.meets_row ordered RowView.holding fun located => ?_
      exact showing.require located _
  | chooseKind | chooseSource | enterDate | useLatestDate => exact ⟨_, rfl⟩

/-! What a backend is asked for. -/

theorem aggregators : menu.aggregators = rows.filterMap id := by
  rw [Menu.aggregators, showing.coherent.entries, entriesOf, Entries.ofRows,
    Entries.payloads_ofSlots, Entries.slotsOf_eq, showing.rows]

theorem query : menu.query =
    Replay.Plain.phrase labels.joiner labels.placeholder
      ((rows.filterMap id).map Aggregator.name) := by
  rw [Menu.query, showing.coherent.entries, entriesOf, Entries.ofRows, Entries.render_ofSlots,
    Entries.slotsOf_eq, ← showing.rows, showing.labels]
  simp only [Replay.Plain.phrase, List.map_eq_nil_iff, List.isEmpty_iff]
  rfl

end Shows

end QueryMenu.Aggregation.Menu
