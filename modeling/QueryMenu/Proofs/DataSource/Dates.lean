import QueryMenu.Proofs.DataSource.Tickets
import QueryMenu.Proofs.Entries.Frame

namespace QueryMenu

/-! The date that a row shows and the date of its entry.

A date is kept twice: the date controls show it, and the entry carries it to the backend.
The controls of a row that does not contradict itself show either the latest date, under
the label that stands for no date, or a text that reads as the date of the row's entry.
So what the backend is asked for can be told from the controls.
-/

namespace MarketDataRequest

variable {held : DataSource}

theorem plainDate?_eq_some_iff {day : String} :
    held.plainDate? = some day ↔ held.date = some (.plain day) := by
  unfold DataSource.plainDate?
  split
  · rename_i text dated
    simp [dated]
  · rename_i undated
    simpa using undated day

theorem ofDataSource_eq_fixed_iff (day key : String) :
    ofDataSource held = .fixedHistorical day key ↔
      held.kind = .historical ∧ held.source = key ∧ held.date = some (.plain day) ∧ day ≠ "" := by
  rw [← plainDate?_eq_some_iff]
  cases kind : held.kind with
  | live | snapshot => simp [ofDataSource, kind]
  | historical =>
      cases dated : held.plainDate? with
      | none => simp [ofDataSource, kind, dated]
      | some text =>
          by_cases empty : text = ""
          · simp [ofDataSource, kind, dated, empty, eq_comm]
          · simp only [ofDataSource, kind, dated, if_neg empty, fixedHistorical.injEq,
              Option.some.injEq, true_and]
            constructor
            · rintro ⟨rfl, rfl⟩
              exact ⟨rfl, rfl, empty⟩
            · rintro ⟨rfl, rfl, -⟩
              exact ⟨rfl, rfl⟩

theorem ofDataSource_eq_latest (historical : held.kind = .historical)
    (undated : ∀ day, ¬ (held.date = some (.plain day) ∧ day ≠ "")) :
    ofDataSource held = .latestHistorical held.source := by
  unfold ofDataSource
  rw [historical]
  cases dated : held.plainDate? with
  | none => rfl
  | some day =>
      have empty : day = "" := by
        by_contra present
        exact undated day ⟨plainDate?_eq_some_iff.mp dated, present⟩
      simp only [if_pos empty]

end MarketDataRequest

namespace DataSource

/-- The controls show this date; `none` is the latest. -/
def DateControls.Shows (texts : DateTexts) (controls : DateControls) :
    Option SourceDate → Prop
  | none => controls.setting = .latest ∧ controls.customText = texts.customLabel
  | some date =>
    controls.setting = .custom ∧ controls.customText ≠ "" ∧
      match date with
      | .plain text => controls.kind = some .plain ∧ text = controls.customText
      | .version day =>
        controls.kind = some .version ∧
          texts.parse controls.customText = .ok day
      | .correction text => controls.kind = some .correction ∧ text = controls.customText

namespace DateControls

variable {texts : DateTexts} {controls : DateControls} {date : SourceDate}

theorem shows_of_read {kind : DateKind} (custom : controls.setting = .custom)
    (present : controls.customText ≠ "") (control : controls.kind = some kind)
    (read : Menu.readDate texts.parse kind controls.customText = .ok date) :
    controls.Shows texts (some date) := by
  refine ⟨custom, present, ?_⟩
  cases date with
  | plain entered | version day | correction entered =>
      obtain ⟨rfl, found⟩ := Menu.readDate_eq_ok_iff.mp read
      exact ⟨control, found⟩

theorem plain_iff_of_shows {date : Option SourceDate} (shows : controls.Shows texts date)
    (day : String) :
    date = some (.plain day) ∧ day ≠ "" ↔
      controls.kind = some .plain ∧ controls.setting = .custom ∧ controls.customText = day := by
  cases date with
  | none => simp [shows.1]
  | some date =>
      obtain ⟨custom, present, control⟩ := shows
      cases date with
      | plain text =>
          obtain ⟨control, rfl⟩ := control
          simp only [custom, control, true_and, Option.some.injEq, SourceDate.plain.injEq]
          exact ⟨And.left, fun same => ⟨same, same ▸ present⟩⟩
      | version day => simp [control.1]
      | correction text => simp [control.1]

end DateControls

theorem RowView.Valid.shows_date {texts : DateTexts} {view : RowView}
    (valid : view.Valid texts) :
    view.controls.Shows texts ((view.holding texts).bind DataSource.date) := by
  cases setting : view.controls.setting with
  | latest =>
      have undated : (view.holding texts).bind DataSource.date = none := by
        cases holds : view.holding texts with
        | none => rfl
        | some held =>
            have date := (RowView.holding_eq_some holds).2.2
            simpa [DateControls.date, setting] using date
      rw [undated]
      exact ⟨setting, valid.latest setting⟩
  | custom =>
      obtain ⟨unlocked, present, kind, date, control, read⟩ := valid.custom setting
      obtain ⟨held, holds⟩ := Option.isSome_iff_exists.mp (valid.enabled_eq ▸ unlocked)
      have dated : held.date = some date := by
        have shown := (RowView.holding_eq_some holds).2.2
        simpa [DateControls.date, setting, control, read, Except.toOption] using shown
      rw [holds, Option.bind_some, dated]
      exact DateControls.shows_of_read setting present control read

namespace Menu

/-- What the backend is asked for because of a row. -/
def requestOf? (menu : Menu) (row : RowId) : Option MarketDataRequest :=
  (menu.entries.heldBy? menu.rows row).map .ofDataSource

/-- What the date controls of a row have to do with the row's entry and request. -/
structure AgreesOnDate (menu : Menu) (row : RowId) (view : RowView) : Prop where
  shown : view.controls.Shows menu.labels
    ((menu.entries.heldBy? menu.rows row).bind DataSource.date)
  fixed : ∀ day key, menu.requestOf? row = some (.fixedHistorical day key) ↔
    (∃ held, menu.entries.heldBy? menu.rows row = some held ∧ held.kind = .historical ∧
      held.source = key) ∧
    view.controls.kind = some .plain ∧ view.controls.setting = .custom ∧
    view.controls.customText = day
  latest : ∀ held, menu.entries.heldBy? menu.rows row = some held → held.kind = .historical →
    ¬ (view.controls.kind = some .plain ∧ view.controls.setting = .custom) →
      menu.requestOf? row = some (.latestHistorical held.source)

namespace Coherent

variable {menu : Menu} (coherent : menu.Coherent) {row : RowId} {view : RowView}
include coherent

theorem heldBy?_eq (found : menu.rows.get? row = some view) :
    menu.entries.heldBy? menu.rows row = view.holding menu.labels := by
  rw [coherent.entries, entriesOf, Entries.heldBy?_ofRows, found, Option.bind_some]

theorem query_eq :
    menu.query =
      if menu.rows.ids.filterMap menu.requestOf? = [] then none
      else some (menu.rows.ids.filterMap menu.requestOf?) := by
  have held : menu.entries.sorted.map Entry.payload =
      menu.rows.ids.filterMap (menu.entries.heldBy? menu.rows) := by
    rw [coherent.entries]
    exact Entries.payloads_ofRows coherent.ordered _
  have requests :
      (menu.entries.sorted.map fun entry => MarketDataRequest.ofDataSource entry.payload) =
        menu.rows.ids.filterMap menu.requestOf? := by
    have chosen := congrArg (List.map MarketDataRequest.ofDataSource) held
    rw [List.map_map, List.map_filterMap] at chosen
    exact chosen
  -- Emptiness is asked of the stored list, and the requests are those of the sorted one.
  have empty : menu.entries.isEmpty = (menu.rows.ids.filterMap menu.requestOf?).isEmpty := by
    rw [← requests, List.isEmpty_map, coherent.entries, entriesOf, Entries.ofRows,
      Entries.sorted_ofSlots]
    rfl
  rw [query, empty, requests]
  simp only [List.isEmpty_iff]

theorem agreesOnDate (found : menu.rows.get? row = some view) : menu.AgreesOnDate row view := by
  have shows := (coherent.valid_of_get? found).shows_date
  rw [← coherent.heldBy?_eq found] at shows
  refine ⟨shows, fun day key => ?_, fun held holds historical other => ?_⟩
  · rw [requestOf?]
    cases holds : menu.entries.heldBy? menu.rows row with
    | none => simp
    | some held =>
        rw [holds, Option.bind_some] at shows
        rw [Option.map_some, Option.some.injEq, MarketDataRequest.ofDataSource_eq_fixed_iff,
          DateControls.plain_iff_of_shows shows]
        simp [and_assoc]
  · rw [holds, Option.bind_some] at shows
    rw [requestOf?, holds, Option.map_some,
      MarketDataRequest.ofDataSource_eq_latest historical fun day dated => ?_]
    have plain := (DateControls.plain_iff_of_shows shows day).mp dated
    exact other ⟨plain.1, plain.2.1⟩

end Coherent

/-- In every state of every run the date controls of each row show the date of its entry,
and what is queried for the row follows them; the query is made of what is queried for
the rows, in display order. -/
theorem run_start_agreesOnDate (labels : DataSourceLabels) (operations : List Operation) :
    let menu := (start labels).run operations
    menu.labels = labels ∧
    (∀ row view, menu.rows.get? row = some view → menu.AgreesOnDate row view) ∧
    menu.query =
      if menu.rows.ids.filterMap menu.requestOf? = [] then none
      else some (menu.rows.ids.filterMap menu.requestOf?) := by
  intro menu
  have coherent : menu.Coherent := run_start_coherent labels operations
  exact ⟨(start_coherent labels).run_labels operations,
    fun row view found => coherent.agreesOnDate found, coherent.query_eq⟩

/-- Of two historical rows with custom dates, the one with a plain date asks for that date,
and the one with a correction date asks for the latest. -/
theorem run_start_agreesOnDate_correction :
    let operations : List Operation :=
      [.chooseKind ⟨0⟩ (.value .historical), .deliver ⟨⟨0⟩, .historical, 1⟩ (.ok ["EOD"]),
        .chooseSource ⟨0⟩ (.value "EOD"), .enterDate ⟨0⟩ "2020-01-01", .addRow,
        .chooseKind ⟨1⟩ (.value .historical), .chooseSource ⟨1⟩ (.value "EOD"),
        .setDateKind ⟨1⟩ (some .correction), .enterDate ⟨1⟩ "2020-02-02"]
    let menu := (start {}).run operations
    let plain : RowView := ⟨some .historical, some .historical, ["EOD"], .value "EOD",
      ⟨some .plain, true, .custom, "2020-01-01"⟩, 1, none⟩
    let correction : RowView := { plain with
      controls := ⟨some .correction, true, .custom, "2020-02-02"⟩ }
    menu.rows.get? ⟨0⟩ = some plain ∧ menu.rows.get? ⟨1⟩ = some correction ∧
      menu.requestOf? ⟨0⟩ = some (.fixedHistorical "2020-01-01" "EOD") ∧
      menu.requestOf? ⟨1⟩ = some (.latestHistorical "EOD") := by
  intro operations menu plain correction
  obtain ⟨-, agrees, -⟩ := run_start_agreesOnDate {} operations
  have first : menu.rows.get? ⟨0⟩ = some plain := by decide +kernel
  have second : menu.rows.get? ⟨1⟩ = some correction := by decide +kernel
  have held : menu.entries.heldBy? menu.rows ⟨0⟩ =
      some ⟨.historical, "EOD", some (.plain "2020-01-01")⟩ := by decide +kernel
  have other : menu.entries.heldBy? menu.rows ⟨1⟩ =
      some ⟨.historical, "EOD", some (.correction "2020-02-02")⟩ := by decide +kernel
  refine ⟨first, second, ?_, ?_⟩
  · exact ((agrees ⟨0⟩ plain first).fixed _ _).mpr ⟨⟨_, held, rfl, rfl⟩, rfl, rfl, rfl⟩
  · exact (agrees ⟨1⟩ correction second).latest _ other rfl (by decide)

end Menu

end DataSource

end QueryMenu
