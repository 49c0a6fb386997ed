import QueryMenu.Proofs.DataSource.Row
import QueryMenu.Proofs.Replay.Plain

namespace QueryMenu.DataSource

/-! What a data-source row shows under a script, as a plain row.

Between two steps no fetch is on its way: a row with a kind shows the options for that
kind, or goes on waiting because there are none.  So what a turn of a row does can be
told from its plain row.
-/

open Replay.Plain (Cell)

namespace RowView

def cell (view : RowView) : Cell :=
  match view.kind, view.source with
  | none, _ => .untyped
  | some kind, .placeholder => .typed kind
  | some kind, .value source =>
    match view.controls.setting with
    | .latest => .sourced kind source
    | .custom => .dated kind source view.controls.customText

/-- The row shows what the backend has for its kind. -/
structure Settled (endpoints : Endpoints) (view : RowView) : Prop where
  filled : ∀ kind options, view.kind = some kind → endpoints.options kind = .ok options →
    view.offered = some kind ∧ view.options = options
  unfilled : ∀ kind error, view.kind = some kind → endpoints.options kind = .error error →
    view.offered = none
  control : view.controls.kind = if view.offered = some .historical then some .plain else none

end RowView

/-- What a turn makes of a plain row, and what it announces. -/
def Turn.change : Turn → Option (Cell × List String)
  | .accept view _ events => some (view.cell, events.map Event.name)
  | _ => none

/-- The turn asks for no fetch and leaves a settled row, or it does not apply. -/
def Turn.Closes (endpoints : Endpoints) : Turn → Prop
  | .refuse _ => False
  | .ignore => True
  | .accept view tickets _ => tickets = [] ∧ view.Settled endpoints

namespace RowView

variable {endpoints : Endpoints} {texts : DateTexts} {view : RowView}

theorem kind?_cell (view : RowView) : view.cell.kind? = view.kind := by
  unfold cell
  split
  · rename_i bare
    exact bare.symm
  · rename_i shown _
    exact shown.symm
  · rename_i shown _
    split <;> exact shown.symm

theorem cell_of_placeholder {kind : SourceKind} (shown : view.kind = some kind)
    (placeholder : view.source = .placeholder) : view.cell = .typed kind := by
  simp only [cell, shown, placeholder]

theorem cell_fill {kind : SourceKind} (shown : view.kind = some kind) (options : List String)
    (label : String) : (view.fill kind options label).cell = .typed kind :=
  cell_of_placeholder shown rfl

theorem settled_of_untyped (untyped : view.kind = none) (unoffered : view.offered = none)
    (hidden : view.controls.kind = none) : view.Settled endpoints := by
  constructor
  · intro kind options shown
    cases untyped.symm.trans shown
  · intro kind error shown
    cases untyped.symm.trans shown
  · rw [hidden, unoffered]
    rfl

theorem startOver_closes (view : RowView) (row : RowId) :
    (view.startOver texts row).Closes endpoints :=
  ⟨rfl, settled_of_untyped rfl rfl rfl⟩

theorem fill_settled {kind : SourceKind} {options : List String}
    (shown : view.kind = some kind) (backend : endpoints.options kind = .ok options) :
    (view.fill kind options texts.customLabel).Settled endpoints := by
  constructor
  · intro other others same answered
    obtain rfl := Option.some.inj (shown.symm.trans same)
    cases backend.symm.trans answered
    exact ⟨rfl, rfl⟩
  · intro other error same failed
    obtain rfl := Option.some.inj (shown.symm.trans same)
    cases backend.symm.trans failed
  · simp [fill]

namespace Settled

variable (settled : view.Settled endpoints)
include settled

/-- Nothing but the kind, the options and the sort of date control counts. -/
theorem of_same {other : RowView} (kind : other.kind = view.kind)
    (offered : other.offered = view.offered) (options : other.options = view.options)
    (control : other.controls.kind = view.controls.kind) : other.Settled endpoints := by
  constructor
  · rw [kind, offered, options]
    exact settled.filled
  · rw [kind, offered]
    exact settled.unfilled
  · rw [control, offered]
    exact settled.control

theorem change_chooseSource {labels : DataSourceLabels} (valid : view.Valid labels) (row : RowId)
    (text : String) :
    (view.chooseSource labels row (.ofControl text labels.sourcePlaceholder)).change =
      view.cell.chooseSource labels endpoints text := by
  unfold Cell.chooseSource
  rw [kind?_cell]
  cases shown : view.kind with
  | none =>
      have unoffered : view.offered = none := by
        cases offered : view.offered with
        | none => rfl
        | some kind => cases shown.symm.trans (valid.offered kind offered)
      simp only [chooseSource, unoffered, Turn.change]
  | some kind =>
      simp only
      cases backend : endpoints.options kind with
      | error error =>
          simp only [chooseSource, settled.unfilled kind error shown backend, Turn.change]
      | ok options =>
          obtain ⟨offered, listed⟩ := settled.filled kind options shown backend
          unfold Choice.ofControl
          by_cases cleared : text = "" ∨ text = labels.sourcePlaceholder
          · have placeholder : text = labels.sourcePlaceholder ∨ text = "" := cleared.symm
            have bare : (view.withSource labels .placeholder).cell = .typed kind :=
              cell_of_placeholder shown rfl
            simp only [if_pos cleared, if_pos placeholder, chooseSource, offered, Turn.change, bare]
            rfl
          · have named : ¬ (text = labels.sourcePlaceholder ∨ text = "") := fun placeholder =>
              cleared placeholder.symm
            simp only [if_neg cleared, if_neg named, chooseSource, offered, listed]
            by_cases known : text ∈ options
            · simp [known, Turn.change, cell, withSource, DateControls.withEnabled,
                DateControls.toLatest, shown, Event.name]
            · simp [known, Turn.change]

theorem change_enterDate (valid : view.Valid texts) (text : String) :
    (view.enterDate texts text).change = view.cell.enterDate text := by
  have enabled := valid.enabled
  cases source : view.source with
  | placeholder =>
      rw [source] at enabled
      cases shown : view.kind <;>
        simp [enterDate, enabled, Choice.toOption, Turn.change, cell, shown, source,
          Cell.enterDate]
  | value chosen =>
      rw [source] at enabled
      obtain ⟨kind, offered, shown⟩ := valid.exists_offered source
      have control := settled.control
      rw [offered] at control
      cases kind with
      | live | snapshot =>
          cases setting : view.controls.setting <;>
            simp [enterDate, enabled, control, Choice.toOption, Turn.change, cell, shown, source,
              setting, Cell.enterDate]
      | historical =>
          by_cases absent : text = ""
          · cases setting : view.controls.setting <;>
              simp [enterDate, enabled, control, Choice.toOption, Turn.change, cell, shown,
                source, setting, Cell.enterDate, absent]
          · cases setting : view.controls.setting <;>
              simp [enterDate, enabled, control, Choice.toOption, Turn.change, cell, shown,
                source, setting, Cell.enterDate, absent, Menu.readDate, DateControls.toCustom]

theorem chooseSource_closes (row : RowId) (choice : Choice String) :
    (view.chooseSource texts row choice).Closes endpoints := by
  unfold chooseSource
  split
  · trivial
  · exact ⟨rfl, settled.of_same rfl rfl rfl rfl⟩
  · split
    · exact ⟨rfl, settled.of_same rfl rfl rfl rfl⟩
    · trivial

theorem enterDate_closes (text : String) : (view.enterDate texts text).Closes endpoints := by
  unfold enterDate
  split
  · rename_i kind _ control
    have plain := settled.control
    rw [control] at plain
    split at plain
    · cases plain
      split
      · trivial
      · exact ⟨rfl, settled.of_same rfl rfl rfl rfl⟩
    · cases plain
  · trivial

theorem useLatestDate_closes : (view.useLatestDate texts).Closes endpoints := by
  unfold useLatestDate
  split
  · exact ⟨rfl, settled.of_same rfl rfl rfl rfl⟩
  · trivial

end Settled

theorem change_useLatestDate (valid : view.Valid texts) :
    (view.useLatestDate texts).change = view.cell.useLatestDate := by
  have enabled := valid.enabled
  cases source : view.source with
  | placeholder =>
      rw [source] at enabled
      cases shown : view.kind <;>
        simp [useLatestDate, enabled, Choice.toOption, Turn.change, cell, shown, source,
          Cell.useLatestDate]
  | value chosen =>
      rw [source] at enabled
      obtain ⟨kind, offered, shown⟩ := valid.exists_offered source
      cases setting : view.controls.setting <;>
        simp [useLatestDate, enabled, Choice.toOption, Turn.change, cell, shown, source, setting,
          Cell.useLatestDate, DateControls.toLatest]

/-! A choice of kind, before and after its fetch. -/

theorem cell_ask (valid : view.Valid texts) (keys : Option (List String)) (kind : SourceKind) :
    (view.ask texts keys kind).cell = .typed kind := by
  refine cell_of_placeholder (view.kind_ask texts keys kind) ?_
  unfold ask
  split
  · rfl
  · exact valid.bared.2.1

/-- The row shows the keys that are known, or it waits, and goes on waiting if the fetch
fails. -/
theorem Settled.ask (settled : view.Settled endpoints) (texts : DateTexts)
    (keys : Option (List String)) (row : RowId) (kind : SourceKind)
    (known : ∀ found, keys = some found → endpoints.options .historical = .ok found) :
    (view.asked keys row kind = [] ∧ (view.ask texts keys kind).Settled endpoints) ∨
      (view.asked keys row kind = [⟨row, kind, view.generation + 1⟩] ∧
        (view.ask texts keys kind).Awaits ⟨row, kind, view.generation + 1⟩ ∧
        ∀ error, endpoints.options kind = .error error →
          (view.ask texts keys kind).Settled endpoints) := by
  have hidden : (view.bared texts).controls.kind = none := by
    have control := settled.control
    cases offered : view.offered with
    | some shown => simp [bared, offered, unfill, DateControls.hidden]
    | none => simpa [bared, offered] using control
  unfold RowView.ask asked
  split
  · rename_i found
    exact .inl ⟨rfl, fill_settled rfl (known found rfl)⟩
  · refine .inr ⟨rfl, ⟨by simp [renew], rfl⟩, fun error failed => ?_⟩
    constructor
    · intro other options shown answered
      obtain rfl := Option.some.inj shown
      cases failed.symm.trans answered
    · intro other error shown _
      exact view.offered_bared texts
    · simp [renew, hidden]

/-! What a backend is asked for. -/

theorem label?_cell (valid : view.Valid texts) :
    view.cell.label? = (view.holding texts).map DataSource.label := by
  cases source : view.source with
  | placeholder =>
      rw [holding_of_source source]
      cases shown : view.kind <;> simp [cell, shown, source, Cell.label?]
  | value chosen =>
      obtain ⟨kind, offered, shown⟩ := valid.exists_offered source
      cases setting : view.controls.setting <;>
        simp [cell, shown, source, setting, Cell.label?, holding, offered, DataSource.label]

theorem request?_cell (settled : view.Settled endpoints) (valid : view.Valid texts) :
    view.cell.request? = (view.holding texts).map MarketDataRequest.ofDataSource := by
  cases source : view.source with
  | placeholder =>
      rw [holding_of_source source]
      cases shown : view.kind <;> simp [cell, shown, source, Cell.request?]
  | value chosen =>
      obtain ⟨kind, offered, shown⟩ := valid.exists_offered source
      cases kind with
      | live | snapshot =>
          cases setting : view.controls.setting <;>
            simp [cell, shown, source, setting, Cell.request?, holding, offered,
              MarketDataRequest.ofDataSource]
      | historical =>
          have control := settled.control
          rw [offered] at control
          cases setting : view.controls.setting with
          | latest =>
              simp [cell, shown, source, setting, Cell.request?, holding, offered,
                MarketDataRequest.ofDataSource, DataSource.plainDate?, DateControls.date]
          | custom =>
              have present := (valid.custom setting).2.1
              simp [cell, shown, source, setting, Cell.request?, holding, offered,
                MarketDataRequest.ofDataSource, DataSource.plainDate?, DateControls.date, control,
                Menu.readDate, Except.toOption, present]

end RowView

end QueryMenu.DataSource
