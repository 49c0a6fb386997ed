import QueryMenu.Proofs.Ending
import QueryMenu.Proofs.Entries.Canonical

namespace QueryMenu

/-! Choosing and then clearing leaves no trace.

A choice on an empty row opens what depends on it: the checkbox of an aggregator, the
date controls of a source.  Whatever is then done through them stays on that row and its
entry, and the placeholder takes all of it away.  For a data source some of the row is
older than the choice: its kind, its options and its date control.  No step of such an
excursion touches these, which is what carries the proof along it.
-/

namespace Aggregation.Menu

variable {menu : Menu} {row : RowId} {view : RowView}

theorem accept_accept (shown : menu.rows.get? row = some view) (first second : RowView) :
    (menu.accept row first).accept row second = menu.accept row second := by
  obtain ⟨position, located⟩ := Rows.exists_lookup? shown
  simp only [accept, Rows.set_set located]

theorem get?_accept (shown : menu.rows.get? row = some view) (fresh : RowView) :
    (menu.accept row fresh).rows.get? row = some fresh := by
  obtain ⟨position, located⟩ := Rows.exists_lookup? shown
  exact Rows.get?_set_self located fresh

namespace Coherent

variable (coherent : menu.Coherent)
include coherent

theorem accept_same (shown : menu.rows.get? row = some view) : menu.accept row view = menu := by
  obtain ⟨position, located⟩ := Rows.exists_lookup? shown
  have same := Rows.replace_same coherent.ordered located
  rw [← Rows.set_eq_replace coherent.ordered located] at same
  simp only [Menu.accept, same, ← coherent.entries]

/-- An operation that is addressed to a row and does not delete it makes it show something. -/
theorem exists_accept (shown : menu.rows.get? row = some view) {operation : Operation}
    (addressed : operation.row? = some row) (keeps : ¬ operation.Deletes) :
    ∃ fresh, menu.perform operation = menu.accept row fresh := by
  obtain ⟨position, located⟩ := Rows.exists_lookup? shown
  have performed := (coherent.perform_eq_meet addressed).1
  rw [meet_shown shown] at performed
  cases fate : (operation.settlement menu.labels menu.options (menu.rows.size = 1) view).fate with
  | none => exact absurd (Operation.deletes_of_fate fate) keeps
  | some fresh =>
      refine ⟨fresh, performed.trans ?_⟩
      simp only [settle, fate, Menu.accept, Rows.set_eq_replace coherent.ordered located]

theorem exists_accept_run (shown : menu.rows.get? row = some view) {excursion : List Operation}
    (stays : ∀ operation ∈ excursion, operation.row? = some row ∧ ¬ operation.Deletes) :
    ∃ fresh, menu.run excursion = menu.accept row fresh := by
  induction excursion generalizing menu view with
  | nil => exact ⟨view, (coherent.accept_same shown).symm⟩
  | cons operation rest ih =>
      obtain ⟨⟨addressed, keeps⟩, later⟩ := List.forall_mem_cons.mp stays
      obtain ⟨first, performed⟩ := coherent.exists_accept shown addressed keeps
      have next := (coherent.keeps operation).coherent
      rw [performed] at next
      obtain ⟨last, ended⟩ := ih next (get?_accept shown first) later
      refine ⟨last, ?_⟩
      rw [Menu.run, List.foldl_cons, performed]
      exact ended.trans (accept_accept shown first last)

theorem choose_placeholder (shown : menu.rows.get? row = some view) :
    (menu.choose row .placeholder).menu = menu.accept row {} := by
  rw [coherent.choose_eq, Menu.turn, shown]
  rfl

theorem blank_of_placeholder (shown : menu.rows.get? row = some view)
    (placeholder : view.selected = .placeholder) : view = {} := by
  have valid := coherent.valid_of_get? shown
  have locked := valid.enabled
  have cleared := valid.cleared placeholder
  rw [placeholder] at locked
  obtain ⟨selected, required, checkboxEnabled⟩ := view
  cases placeholder
  cases locked
  cases cleared
  rfl

theorem run_placeholder (shown : menu.rows.get? row = some view)
    (placeholder : view.selected = .placeholder) {excursion : List Operation}
    (stays : ∀ operation ∈ excursion, operation.row? = some row ∧ ¬ operation.Deletes) :
    menu.run (excursion ++ [.choose row .placeholder]) = menu := by
  obtain ⟨last, ended⟩ := coherent.exists_accept_run shown stays
  have left := (coherent.keeps_run excursion).coherent
  rw [ended] at left
  have blank := coherent.blank_of_placeholder shown placeholder
  calc
    menu.run (excursion ++ [.choose row .placeholder])
      = ((menu.accept row last).choose row .placeholder).menu := by
        rw [Menu.run, List.foldl_append]
        exact congrArg (fun menu : Menu => (menu.choose row .placeholder).menu) ended
    _ = (menu.accept row last).accept row {} := left.choose_placeholder (get?_accept shown last)
    _ = menu.accept row view := by rw [accept_accept shown, blank]
    _ = menu := coherent.accept_same shown

end Coherent

end Aggregation.Menu

namespace DataSource

/-- Chooses a source on the row or sets its date. -/
def Operation.Refines (row : RowId) : Operation → Prop
  | .chooseSource other _ | .enterDate other _ | .useLatestDate other
  | .handle (.chooseSource other _) | .handle (.enterDate other _)
  | .handle (.useLatestDate other) => other = row
  | _ => False

/-- The turn changes only what goes with the source, and announces nothing else. -/
structure RowView.Refined (texts : DateTexts) (row : RowId) (view : RowView)
    (turn : Turn) : Prop where
  bare : (turn.result view).withSource texts .placeholder = view.withSource texts .placeholder
  asked : turn.tickets = []
  told : ∀ event ∈ turn.events, event = .dataSelected row

namespace RowView

variable (view : RowView) (texts : DateTexts) (row : RowId)

theorem refined_ignore : view.Refined texts row .ignore :=
  ⟨rfl, rfl, by simp [Turn.events]⟩

theorem refined_chooseSource (choice : Choice String) :
    view.Refined texts row (view.chooseSource texts row choice) := by
  unfold chooseSource
  split
  · exact view.refined_ignore texts row
  · exact ⟨rfl, rfl, by simp [Turn.events]⟩
  · split
    · exact ⟨rfl, rfl, by simp [Turn.events]⟩
    · exact view.refined_ignore texts row

theorem refined_enterDate (text : String) :
    view.Refined texts row (view.enterDate texts text) := by
  unfold enterDate
  split
  · split
    · exact view.refined_ignore texts row
    · split
      · exact ⟨rfl, rfl, by simp [Turn.events]⟩
      · exact ⟨rfl, rfl, by simp [Turn.events]⟩
  · exact view.refined_ignore texts row

theorem refined_useLatestDate : view.Refined texts row (view.useLatestDate texts) := by
  unfold useLatestDate
  split
  · exact ⟨rfl, rfl, by simp [Turn.events]⟩
  · exact view.refined_ignore texts row

variable {view texts}

theorem Valid.withSource_placeholder (valid : view.Valid texts)
    (placeholder : view.source = .placeholder) :
    view.withSource texts .placeholder = view := by
  have locked : view.controls.enabled = false := by
    rw [valid.enabled, placeholder]
    rfl
  have latest : view.controls.setting = .latest := by
    cases setting : view.controls.setting with
    | latest => rfl
    | custom => cases locked.symm.trans (valid.custom setting).1
  have label := valid.latest latest
  obtain ⟨kind, offered, options, source, controls, generation, pending⟩ := view
  obtain ⟨dateKind, enabled, setting, customText⟩ := controls
  cases placeholder
  cases locked
  cases latest
  cases label
  rfl

end RowView

namespace Menu

variable {menu : Menu} {row : RowId} {view : RowView}

theorem accept_accept (shown : menu.rows.get? row = some view) (first second : RowView)
    (told also : List Event) :
    (menu.accept row first [] told).accept row second [] also =
      menu.accept row second [] (told ++ also) := by
  obtain ⟨position, located⟩ := Rows.exists_lookup? shown
  simp only [accept, entriesOf, Rows.set_set located, List.append_nil, List.append_assoc]

theorem get?_accept (shown : menu.rows.get? row = some view) (fresh : RowView)
    (tickets : List Ticket) (events : List Event) :
    (menu.accept row fresh tickets events).rows.get? row = some fresh := by
  obtain ⟨position, located⟩ := Rows.exists_lookup? shown
  exact Rows.get?_set_self located fresh

namespace Coherent

variable (coherent : menu.Coherent)
include coherent

theorem accept_same (shown : menu.rows.get? row = some view) (told : List Event) :
    menu.accept row view [] told = { menu with events := menu.events ++ told } := by
  obtain ⟨position, located⟩ := Rows.exists_lookup? shown
  have same := Rows.replace_same coherent.ordered located
  rw [← Rows.set_eq_replace coherent.ordered located] at same
  simp only [Menu.accept, same, ← coherent.entries, List.append_nil]

theorem turn_menu (shown : menu.rows.get? row = some view) (act : RowView → Turn) :
    (menu.turn row act).menu =
      menu.accept row ((act view).result view) (act view).tickets (act view).events := by
  have kept := coherent.accept_same shown []
  simp only [List.append_nil] at kept
  simp only [Menu.turn, shown]
  cases act view with
  | refuse error => exact kept.symm
  | ignore => exact kept.symm
  | accept fresh tickets events => rfl

theorem exists_accept {operation : Operation} (shown : menu.rows.get? row = some view)
    (refines : operation.Refines row) :
    ∃ fresh told, menu.perform operation = menu.accept row fresh [] told ∧
      fresh.withSource menu.labels .placeholder = view.withSource menu.labels .placeholder ∧
      ∀ event ∈ told, event = .dataSelected row := by
  have turned : ∀ act : RowView → Turn, view.Refined menu.labels row (act view) →
      ∃ fresh told, (menu.turn row act).menu = menu.accept row fresh [] told ∧
        fresh.withSource menu.labels .placeholder = view.withSource menu.labels .placeholder ∧
        ∀ event ∈ told, event = .dataSelected row := by
    intro act refined
    refine ⟨_, _, ?_, refined.bare, refined.told⟩
    rw [coherent.turn_menu shown, refined.asked]
  have sourced := fun choice =>
    turned (RowView.chooseSource menu.labels · row choice)
      (view.refined_chooseSource menu.labels row choice)
  have dated := fun text =>
    turned (RowView.enterDate menu.labels · text) (view.refined_enterDate menu.labels row text)
  have latest := turned (RowView.useLatestDate menu.labels)
    (view.refined_useLatestDate menu.labels row)
  simp only [← coherent.chooseSource_eq] at sourced
  simp only [← coherent.enterDate_eq] at dated
  simp only [← coherent.useLatestDate_eq] at latest
  cases operation with
  | chooseSource other choice => cases refines; exact sourced choice
  | enterDate other text => cases refines; exact dated text
  | useLatestDate other => cases refines; exact latest
  | handle action =>
      cases action with
      | chooseSource other text => cases refines; exact sourced _
      | enterDate other text => cases refines; exact dated text
      | useLatestDate other => cases refines; exact latest
      | _ => exact refines.elim
  | _ => exact refines.elim

theorem exists_accept_run (shown : menu.rows.get? row = some view) {excursion : List Operation}
    (refines : ∀ operation ∈ excursion, operation.Refines row) :
    ∃ fresh told, menu.run excursion = menu.accept row fresh [] told ∧
      fresh.withSource menu.labels .placeholder = view.withSource menu.labels .placeholder ∧
      ∀ event ∈ told, event = .dataSelected row := by
  induction excursion generalizing menu view with
  | nil =>
      have same := coherent.accept_same shown []
      simp only [List.append_nil] at same
      exact ⟨view, [], same.symm, rfl, by simp⟩
  | cons operation rest ih =>
      obtain ⟨first, later⟩ := List.forall_mem_cons.mp refines
      obtain ⟨shows, told, performed, bare, own⟩ := coherent.exists_accept shown first
      have next := coherent.perform operation
      rw [performed] at next
      obtain ⟨last, also, ended, unchanged, announced⟩ :=
        ih next (get?_accept shown shows [] told) later
      refine ⟨last, told ++ also, ?_, unchanged.trans bare, ?_⟩
      · rw [Menu.run, List.foldl_cons, performed]
        exact ended.trans (accept_accept shown shows last told also)
      · exact List.forall_mem_append.mpr ⟨own, announced⟩

theorem chooseSource_placeholder (shown : menu.rows.get? row = some view)
    (offered : view.offered.isSome) :
    (menu.chooseSource row .placeholder).menu =
      menu.accept row (view.withSource menu.labels .placeholder) [] [] := by
  obtain ⟨kind, offered⟩ := Option.isSome_iff_exists.mp offered
  rw [coherent.chooseSource_eq, coherent.turn_menu shown]
  simp only [RowView.chooseSource, offered, Turn.result, Turn.tickets, Turn.events]

theorem run_placeholder (shown : menu.rows.get? row = some view)
    (offered : view.offered.isSome) (placeholder : view.source = .placeholder)
    {excursion : List Operation} (refines : ∀ operation ∈ excursion, operation.Refines row) :
    ∃ told, menu.run (excursion ++ [.chooseSource row .placeholder]) =
        { menu with events := menu.events ++ told } ∧
      ∀ event ∈ told, event = .dataSelected row := by
  obtain ⟨last, told, ended, bare, own⟩ := coherent.exists_accept_run shown refines
  have left := coherent.run excursion
  rw [ended] at left
  have kept := (coherent.valid_of_get? shown).withSource_placeholder placeholder
  have still : last.offered.isSome := by
    have same : (last.withSource menu.labels .placeholder).offered =
        (view.withSource menu.labels .placeholder).offered := by rw [bare]
    exact same ▸ offered
  refine ⟨told, ?_, own⟩
  calc
    menu.run (excursion ++ [.chooseSource row .placeholder])
      = ((menu.accept row last [] told).chooseSource row .placeholder).menu := by
        rw [run_append, ended]
        rfl
    _ = (menu.accept row last [] told).accept row
          (last.withSource menu.labels .placeholder) [] [] :=
        left.chooseSource_placeholder (get?_accept shown last [] told) still
    _ = menu.accept row view [] told := by
        rw [accept_accept shown, bare, kept, List.append_nil]
    _ = { menu with events := menu.events ++ told } := coherent.accept_same shown told

end Coherent

end Menu

end DataSource

/-- Clearing undoes a choice, and all that was done since on what the choice had opened.
In an entry list nothing is left of the entry.  An aggregation menu is as it was, and a
data-source menu has only announced the sources chosen meanwhile. -/
theorem clearing_restores :
    (∀ {π : Type} [Payload π] (entries : Entries π) (position : Nat) (fresh : π),
      entries.Ascending →
        ((entries.choose position (.value fresh)).kept.bind fun left =>
          (left.choose position .placeholder).kept) = .ok (entries.without position) ∧
        (entries.find? position = none → entries.without position = entries)) ∧
    (∀ (labels : AggregationLabels) (options : List String)
        (operations : List Aggregation.Operation) (lifecycle : Lifecycle),
      let menu := { (Aggregation.Menu.start labels options).run operations with lifecycle }
      ∀ row view name (excursion : List Aggregation.Operation),
        menu.rows.get? row = some view → view.selected = .placeholder →
        (∀ operation ∈ excursion, operation.row? = some row ∧ ¬ operation.Deletes) →
        menu.run (.choose row (.value name) :: excursion ++ [.choose row .placeholder]) =
          menu) ∧
    ∀ (labels : DataSourceLabels) (operations : List DataSource.Operation)
        (lifecycle : Lifecycle),
      let menu := { (DataSource.Menu.start labels).run operations with lifecycle }
      ∀ row view source (excursion : List DataSource.Operation),
        menu.rows.get? row = some view → view.offered.isSome → view.source = .placeholder →
        (∀ operation ∈ excursion, operation.Refines row) →
        ∃ told,
          menu.run (.chooseSource row (.value source) :: excursion ++
              [.chooseSource row .placeholder]) =
            { menu with events := menu.events ++ told } ∧
          ∀ event ∈ told, event = .dataSelected row := by
  refine ⟨?_, ?_, ?_⟩
  · intro π payload entries position fresh ascending
    exact ⟨Entries.choose_placeholder ascending position fresh, Entries.without_of_free⟩
  · intro labels options operations lifecycle menu row view name excursion shown placeholder stays
    have coherent : menu.Coherent :=
      Aggregation.Menu.reached_coherent labels options operations lifecycle
    exact coherent.run_placeholder shown placeholder
      (List.forall_mem_cons.mpr ⟨⟨rfl, id⟩, stays⟩)
  · intro labels operations lifecycle menu row view source excursion shown offered placeholder
      refines
    have coherent : menu.Coherent := DataSource.Menu.reached_coherent labels operations lifecycle
    exact coherent.run_placeholder shown offered placeholder
      (List.forall_mem_cons.mpr ⟨rfl, refines⟩)

/-- A choice on a gap; a flag that is set and handed on to another aggregator; and a plain
date that is entered twice, with another source chosen in between. -/
theorem clearing_restores_dates :
    (let entries : Entries Aggregator := ⟨[⟨0, ⟨"Sum", true⟩⟩, ⟨2, ⟨"Max", false⟩⟩]⟩
    ((entries.choose 1 (.value ⟨"Mean", false⟩)).kept.bind fun left =>
      (left.choose 1 .placeholder).kept) = .ok entries) ∧
    (let menu := (Aggregation.Menu.start {} ["Sum", "Mean", "Max"]).run
      [.addRow, .choose ⟨1⟩ (.value "Max")]
    menu.run [.choose ⟨0⟩ (.value "Sum"), .require ⟨0⟩ true, .handle (.choose ⟨0⟩ "Mean"),
      .choose ⟨0⟩ .placeholder] = menu) ∧
    let menu := (DataSource.Menu.start {}).run
      [.chooseKind ⟨0⟩ (.value .historical), .deliver ⟨⟨0⟩, .historical, 1⟩ (.ok ["EOD", "PX"])]
    ∃ told,
      menu.run [.chooseSource ⟨0⟩ (.value "EOD"), .enterDate ⟨0⟩ "2020-01-01",
        .handle (.chooseSource ⟨0⟩ "PX"), .enterDate ⟨0⟩ "2021-12-31",
        .chooseSource ⟨0⟩ .placeholder] = { menu with events := menu.events ++ told } ∧
      ∀ event ∈ told, event = .dataSelected ⟨0⟩ := by
  obtain ⟨lists, aggregation, dataSource⟩ := clearing_restores
  refine ⟨?_, ?_, ?_⟩
  · intro entries
    obtain ⟨cleared, free⟩ := lists entries 1 ⟨"Mean", false⟩ (by decide)
    rw [cleared, free rfl]
  · intro menu
    exact aggregation {} ["Sum", "Mean", "Max"] [.addRow, .choose ⟨1⟩ (.value "Max")]
      menu.lifecycle ⟨0⟩ {} "Sum" [.require ⟨0⟩ true, .handle (.choose ⟨0⟩ "Mean")]
      (by decide +kernel) rfl (by simp [Aggregation.Operation.row?,
        Aggregation.Action.row?, Aggregation.Operation.Deletes])
  · intro menu
    exact dataSource {}
      [.chooseKind ⟨0⟩ (.value .historical), .deliver ⟨⟨0⟩, .historical, 1⟩ (.ok ["EOD", "PX"])]
      menu.lifecycle ⟨0⟩ ⟨some .historical, some .historical, ["EOD", "PX"], .placeholder,
        ⟨some .plain, false, .latest, "Custom"⟩, 1, none⟩ "EOD"
      [.enterDate ⟨0⟩ "2020-01-01", .handle (.chooseSource ⟨0⟩ "PX"),
        .enterDate ⟨0⟩ "2021-12-31"]
      (by decide +kernel) rfl rfl (by simp [DataSource.Operation.Refines])

end QueryMenu
