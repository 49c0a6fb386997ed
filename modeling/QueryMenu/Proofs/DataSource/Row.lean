import QueryMenu.DataSource.Menu
import QueryMenu.Proofs.Entries.Slots

namespace QueryMenu.DataSource

/-! What a data-source row shows, and how it answers operations.

What a row shows determines its entry, date included.  So an operation addressed to a
row needs to look at that row alone: the row refuses, ignores it, or shows something
else.  A row that does not contradict itself never comes to do so.

The reader of days is a parameter here and nothing is assumed of it, so all of this holds
whatever texts it accepts.  A menu's rows read days by the pattern among its labels.
-/

/-- What a row needs of the labels: the text that stands for no date, and a reader of days. -/
structure DateTexts where
  customLabel : String
  parse : String → Except Calendar.DateError Calendar.Date

namespace DateTexts

abbrev ofLabels (labels : DataSourceLabels) : DateTexts where
  customLabel := labels.customLabel
  parse := Calendar.Date.parse labels.dateFormat

instance : Coe DataSourceLabels DateTexts := ⟨ofLabels⟩

end DateTexts

namespace Menu

variable {parse : String → Except Calendar.DateError Calendar.Date} {kind : DateKind}
  {text : String}

theorem readDate_eq_ok_iff {date : SourceDate} :
    readDate parse kind text = .ok date ↔
      match date with
      | .plain entered => kind = .plain ∧ entered = text
      | .version day => kind = .version ∧ parse text = .ok day
      | .correction entered => kind = .correction ∧ entered = text := by
  cases kind with
  | plain | correction => cases date <;> simp [readDate, eq_comm]
  | version =>
      simp only [readDate]
      split
      · rename_i day parsed
        cases date <;> simp [parsed]
      · rename_i parsed
        cases date <;> simp [parsed]
      · rename_i parsed
        cases date <;> simp [parsed]

/-- What is refused is a date and never a row. -/
theorem cases_of_readDate_eq_error {error : MenuError}
    (refused : readDate parse kind text = .error error) :
    error = .yearUnderflow ∨ ∃ reason, error = .invalidDate text reason := by
  cases kind with
  | plain | correction => cases refused
  | version =>
      simp only [readDate] at refused
      split at refused
      · cases refused
      · cases refused
        exact .inl rfl
      · cases refused
        exact .inr ⟨_, rfl⟩

end Menu

/-- What a row answers to an operation addressed to it. -/
inductive Turn where
  | refuse (error : MenuError)
  | ignore
  | accept (view : RowView) (tickets : List Ticket) (events : List Event)

def DateControls.date (texts : DateTexts) (controls : DateControls) :
    Option SourceDate :=
  match controls.setting, controls.kind with
  | .custom, some kind => (Menu.readDate texts.parse kind controls.customText).toOption
  | _, _ => none

namespace RowView

variable (texts : DateTexts) (view : RowView)

/-- What the row has chosen. -/
def holding : Option DataSource :=
  match view.offered, view.source with
  | some kind, .value source => some { kind, source, date := view.controls.date texts }
  | _, _ => none

/-- The row shows nothing that contradicts itself. -/
structure Valid : Prop where
  offered : ∀ kind, view.offered = some kind → view.kind = some kind
  unoffered : view.offered = none → view.options = [] ∧ view.source = .placeholder
  chosen : ∀ source, view.source = .value source → source ∈ view.options
  enabled : view.controls.enabled = view.source.toOption.isSome
  latest : view.controls.setting = .latest → view.controls.customText = texts.customLabel
  custom : view.controls.setting = .custom →
    view.controls.enabled = true ∧ view.controls.customText ≠ "" ∧
      ∃ kind date, view.controls.kind = some kind ∧
        Menu.readDate texts.parse kind view.controls.customText = .ok date
  pending : view.pending =
    if view.kind.isSome ∧ view.offered = none then some view.generation else none

/-- The row without the options of a kind, from which a choice of kind starts. -/
def bared : RowView :=
  if view.offered.isSome then view.unfill texts.customLabel else view

/-- The row after a kind was chosen on it while these resolver keys were known. -/
def ask (keys : Option (List String)) (kind : SourceKind) : RowView :=
  let renewed := { view.bared texts with kind := some kind }.renew
  match kind, keys with
  | .historical, some keys => renewed.fill .historical keys texts.customLabel
  | _, _ => { renewed with pending := some renewed.generation }

/-- The fetch that a choice of kind asks for, unless the resolver keys are known. -/
def asked (keys : Option (List String)) (row : RowId) (kind : SourceKind) : List Ticket :=
  match kind, keys with
  | .historical, some _ => []
  | kind, _ => [⟨row, kind, view.generation + 1⟩]

/-- Back to the first selector's placeholder, by a choice of it or as the only row. -/
def startOver (row : RowId) : Turn :=
  .accept (view.reset texts.customLabel) [] [.typeReset row]

def chooseKind (keys : Option (List String)) (row : RowId) : Choice SourceKind → Turn
  | .placeholder => view.startOver texts row
  | .value kind =>
    .accept (view.ask texts keys kind) (view.asked keys row kind) [.typeSelected row kind]

/-- The row waits for the fetch of this ticket. -/
def Awaits (ticket : Ticket) : Prop :=
  view.pending = some ticket.generation ∧ view.kind = some ticket.kind

instance (ticket : Ticket) : Decidable (view.Awaits ticket) :=
  inferInstanceAs (Decidable (_ ∧ _))

def receive (ticket : Ticket) (options : List String) : Turn :=
  if view.Awaits ticket then
    .accept ({ view with pending := none }.fill ticket.kind options texts.customLabel) [] []
  else .ignore

def withSource (source : Choice String) : RowView :=
  { view with
    source
    controls := view.controls.withEnabled source.toOption.isSome texts.customLabel }

def chooseSource (row : RowId) (choice : Choice String) : Turn :=
  match view.offered, choice with
  | none, _ => .ignore
  | some _, .placeholder => .accept (view.withSource texts .placeholder) [] []
  | some _, .value source =>
    if view.options.contains source then
      .accept (view.withSource texts (.value source)) [] [.dataSelected row]
    else .ignore

def enterDate (text : String) : Turn :=
  match view.controls.enabled, view.controls.kind with
  | true, some kind =>
    if text = "" then .ignore
    else
      match Menu.readDate texts.parse kind text with
      | .error error => .refuse error
      | .ok _ => .accept { view with controls := view.controls.toCustom text } [] []
  | _, _ => .ignore

def useLatestDate : Turn :=
  if view.controls.enabled then
    .accept { view with controls := view.controls.toLatest texts.customLabel } [] []
  else .ignore

def setDateKind (kind : Option DateKind) : Turn :=
  if view.controls.kind = kind then .accept view [] []
  else
    .accept { view with
      controls := { view.controls with kind }.toLatest texts.customLabel } [] []

end RowView

namespace RowView

variable {texts : DateTexts} {view : RowView}

theorem holding_of_source (placeholder : view.source = .placeholder) :
    view.holding texts = none := by
  cases offered : view.offered <;> simp [holding, placeholder, offered]

theorem holding_eq_some {held : DataSource} (holds : view.holding texts = some held) :
    view.offered = some held.kind ∧ view.source = .value held.source ∧
      held.date = view.controls.date texts := by
  cases offered : view.offered with
  | none => simp [holding, offered] at holds
  | some kind =>
      cases source : view.source with
      | placeholder => simp [holding, source] at holds
      | value chosen =>
          simp only [holding, offered, source, Option.some.injEq] at holds
          subst holds
          exact ⟨rfl, rfl, rfl⟩

@[simp] theorem generation_bared (view : RowView) (texts : DateTexts) :
    (view.bared texts).generation = view.generation := by
  unfold bared
  split <;> rfl

@[simp] theorem offered_bared (view : RowView) (texts : DateTexts) :
    (view.bared texts).offered = none := by
  cases offered : view.offered <;> simp [bared, offered, unfill]

theorem holding_ask (view : RowView) (texts : DateTexts) (keys : Option (List String))
    (kind : SourceKind) : (view.ask texts keys kind).holding texts = none := by
  unfold ask
  split
  · exact holding_of_source rfl
  · simp [holding, renew]

theorem generation_ask (view : RowView) (texts : DateTexts)
    (keys : Option (List String)) (kind : SourceKind) :
    (view.ask texts keys kind).generation = view.generation + 1 := by
  unfold ask
  split <;> simp [renew, fill]

theorem kind_ask (view : RowView) (texts : DateTexts) (keys : Option (List String))
    (kind : SourceKind) : (view.ask texts keys kind).kind = some kind := by
  unfold ask
  split <;> rfl

/-- A choice of kind asks for a fetch exactly if the row then waits for it. -/
theorem ask_cases (view : RowView) (texts : DateTexts) (keys : Option (List String))
    (row : RowId) (kind : SourceKind) :
    (view.asked keys row kind = [] ∧ (view.ask texts keys kind).pending = none) ∨
      (view.asked keys row kind = [⟨row, kind, view.generation + 1⟩] ∧
        (view.ask texts keys kind).Awaits ⟨row, kind, view.generation + 1⟩) := by
  unfold ask asked
  split
  · exact .inl ⟨rfl, rfl⟩
  · exact .inr ⟨rfl, by simp [renew], rfl⟩

/-- The latest date of whatever control takes the date off what the row holds. -/
theorem holding_toLatest (view : RowView) (texts : DateTexts) (kind : Option DateKind) :
    ({ view with
      controls := { view.controls with kind }.toLatest texts.customLabel } : RowView).holding
        texts =
      (view.holding texts).map fun held => { held with date := none } := by
  unfold holding
  cases view.offered with
  | none => rfl
  | some shown => cases view.source <;> rfl

theorem fill_valid {kind : SourceKind} (shown : view.kind = some kind)
    (settled : view.pending = none) (options : List String) :
    (view.fill kind options texts.customLabel).Valid texts := by
  constructor <;> simp [fill, DateControls.hidden, Choice.toOption, shown, settled]

theorem reset_valid (view : RowView) (texts : DateTexts) :
    (view.reset texts.customLabel).Valid texts := by
  constructor <;> simp [reset, renew, unfill, DateControls.hidden, Choice.toOption]

theorem blank_valid (texts : DateTexts) : (blank texts.customLabel).Valid texts := by
  constructor <;> simp [blank, DateControls.hidden, Choice.toOption]

namespace Valid

variable (valid : view.Valid texts)
include valid

theorem holding_isSome : (view.holding texts).isSome = view.source.toOption.isSome := by
  cases source : view.source with
  | placeholder => simp [holding_of_source source, Choice.toOption]
  | value chosen =>
      cases offered : view.offered with
      | none => simpa [source] using (valid.unoffered offered).2
      | some kind => simp [holding, offered, source, Choice.toOption]

theorem exists_offered {source : String} (chosen : view.source = .value source) :
    ∃ kind, view.offered = some kind ∧ view.kind = some kind := by
  cases offered : view.offered with
  | none =>
      have bare := (valid.unoffered offered).2
      rw [chosen] at bare
      cases bare
  | some kind => exact ⟨kind, rfl, valid.offered kind offered⟩

theorem enabled_eq : view.controls.enabled = (view.holding texts).isSome := by
  rw [valid.holding_isSome, valid.enabled]

/-- A row without options shows the latest date, and its controls are locked. -/
theorem bared : (view.bared texts).options = [] ∧ (view.bared texts).source = .placeholder ∧
    (view.bared texts).controls.enabled = false ∧
    (view.bared texts).controls.setting = .latest ∧
    (view.bared texts).controls.customText = texts.customLabel := by
  cases offered : view.offered with
  | some shown => simp [RowView.bared, offered, unfill, DateControls.hidden]
  | none =>
      obtain ⟨unlisted, unchosen⟩ := valid.unoffered offered
      have locked : view.controls.enabled = false := by
        rw [valid.enabled, unchosen]
        rfl
      have latest : view.controls.setting = .latest := by
        cases setting : view.controls.setting with
        | latest => rfl
        | custom =>
            have unlocked := (valid.custom setting).1
            rw [locked] at unlocked
            cases unlocked
      simp [RowView.bared, offered, unlisted, unchosen, locked, latest, valid.latest latest]

theorem ask (keys : Option (List String)) (kind : SourceKind) :
    (view.ask texts keys kind).Valid texts := by
  obtain ⟨unlisted, unchosen, locked, latest, label⟩ := valid.bared
  unfold RowView.ask
  split
  · exact fill_valid rfl rfl _
  · constructor <;> simp [renew, unlisted, unchosen, locked, latest, label, Choice.toOption]

theorem withSource {kind : SourceKind} {source : Choice String}
    (offered : view.offered = some kind)
    (known : ∀ chosen, source = .value chosen → chosen ∈ view.options) :
    (view.withSource texts source).Valid texts where
  offered := valid.offered
  unoffered missing := by cases offered.symm.trans missing
  chosen := known
  enabled := rfl
  latest _ := rfl
  custom custom := by cases custom
  pending := valid.pending

theorem toCustom {kind : DateKind} {date : SourceDate} {text : String}
    (enabled : view.controls.enabled = true) (control : view.controls.kind = some kind)
    (present : text ≠ "") (read : Menu.readDate texts.parse kind text = .ok date) :
    ({ view with controls := view.controls.toCustom text } : RowView).Valid texts where
  offered := valid.offered
  unoffered := valid.unoffered
  chosen := valid.chosen
  enabled := valid.enabled
  latest latest := by cases latest
  custom _ := ⟨enabled, present, kind, date, control, read⟩
  pending := valid.pending

theorem toLatest :
    ({ view with controls := view.controls.toLatest texts.customLabel } : RowView).Valid texts
    where
  offered := valid.offered
  unoffered := valid.unoffered
  chosen := valid.chosen
  enabled := valid.enabled
  latest _ := rfl
  custom custom := by cases custom
  pending := valid.pending

theorem withDateKind (kind : Option DateKind) :
    ({ view with
      controls := { view.controls with kind }.toLatest texts.customLabel } : RowView).Valid texts
    where
  offered := valid.offered
  unoffered := valid.unoffered
  chosen := valid.chosen
  enabled := valid.enabled
  latest _ := rfl
  custom custom := by cases custom
  pending := valid.pending

end Valid

end RowView

namespace Turn

/-- What a row shows after the turn, if it shows something else, is of this sort. -/
def Yields (sort : RowView → Prop) : Turn → Prop
  | .accept view _ _ => sort view
  | _ => True

def result (view : RowView) : Turn → RowView
  | .accept fresh _ _ => fresh
  | _ => view

def tickets : Turn → List Ticket
  | .accept _ tickets _ => tickets
  | _ => []

def events : Turn → List Event
  | .accept _ _ events => events
  | _ => []

end Turn

namespace RowView

/-! Only a choice of kind asks for a fetch. -/

variable (view : RowView) (texts : DateTexts)

theorem tickets_chooseSource (row : RowId) (choice : Choice String) :
    (view.chooseSource texts row choice).tickets = [] := by
  unfold chooseSource
  split
  · rfl
  · rfl
  · split <;> rfl

theorem tickets_enterDate (text : String) : (view.enterDate texts text).tickets = [] := by
  unfold enterDate
  split
  · split
    · rfl
    · split <;> rfl
  · rfl

theorem tickets_useLatestDate : (view.useLatestDate texts).tickets = [] := by
  unfold useLatestDate
  split <;> rfl

theorem tickets_setDateKind (kind : Option DateKind) :
    (view.setDateKind texts kind).tickets = [] := by
  unfold setDateKind
  split <;> rfl

theorem tickets_receive (ticket : Ticket) (options : List String) :
    (view.receive texts ticket options).tickets = [] := by
  unfold receive
  split <;> rfl

end RowView

namespace RowView.Valid

variable {texts : DateTexts} {view : RowView} (valid : view.Valid texts)
include valid

theorem chooseKind_yields (keys : Option (List String)) (row : RowId)
    (choice : Choice SourceKind) :
    (view.chooseKind texts keys row choice).Yields (Valid texts) := by
  cases choice with
  | placeholder => exact reset_valid view texts
  | value kind => exact valid.ask keys kind

omit valid in
theorem receive_yields (view : RowView) (texts : DateTexts) (ticket : Ticket)
    (options : List String) : (view.receive texts ticket options).Yields (Valid texts) := by
  unfold receive
  split
  · rename_i awaited
    have shown : { view with pending := none }.kind = some ticket.kind := awaited.2
    exact fill_valid shown rfl options
  · trivial

theorem chooseSource_yields (row : RowId) (choice : Choice String) :
    (view.chooseSource texts row choice).Yields (Valid texts) := by
  unfold chooseSource
  split
  · trivial
  · rename_i kind offered
    exact valid.withSource offered (by simp)
  · rename_i kind source offered
    split
    · rename_i listed
      refine valid.withSource offered fun chosen same => ?_
      cases same
      simpa using listed
    · trivial

theorem enterDate_yields (text : String) :
    (view.enterDate texts text).Yields (Valid texts) := by
  unfold enterDate
  split
  · rename_i kind enabled control
    split
    · trivial
    · rename_i present
      split
      · trivial
      · rename_i date read
        exact valid.toCustom enabled control present read
  · trivial

theorem useLatestDate_yields : (view.useLatestDate texts).Yields (Valid texts) := by
  unfold useLatestDate
  split
  · exact valid.toLatest
  · trivial

theorem setDateKind_yields (kind : Option DateKind) :
    (view.setDateKind texts kind).Yields (Valid texts) := by
  unfold setDateKind
  split
  · exact valid
  · exact valid.withDateKind kind

end RowView.Valid

/-- The turn leaves a valid row, which waits for whatever was asked for. -/
structure Turn.Sound (texts : DateTexts) (row : RowId) (view : RowView)
    (turn : Turn) : Prop where
  valid : turn.Yields (RowView.Valid texts)
  asked : turn.tickets = [] ∨
    ∃ ticket, ticket.row = row ∧ turn.tickets = [ticket] ∧ (turn.result view).Awaits ticket

namespace RowView.Valid

variable {texts : DateTexts} {view : RowView} (valid : view.Valid texts)
include valid

theorem chooseKind_sound (keys : Option (List String)) (row : RowId) (choice : Choice SourceKind) :
    (view.chooseKind texts keys row choice).Sound texts row view := by
  refine ⟨valid.chooseKind_yields keys row choice, ?_⟩
  cases choice with
  | placeholder => exact .inl rfl
  | value kind =>
      rcases view.ask_cases texts keys row kind with ⟨unasked, -⟩ | ⟨asked, waits⟩
      · exact .inl unasked
      · exact .inr ⟨_, rfl, asked, waits⟩

theorem chooseSource_sound (row : RowId) (choice : Choice String) :
    (view.chooseSource texts row choice).Sound texts row view :=
  ⟨valid.chooseSource_yields row choice, .inl (view.tickets_chooseSource texts row choice)⟩

theorem enterDate_sound (row : RowId) (text : String) :
    (view.enterDate texts text).Sound texts row view :=
  ⟨valid.enterDate_yields text, .inl (view.tickets_enterDate texts text)⟩

theorem useLatestDate_sound (row : RowId) :
    (view.useLatestDate texts).Sound texts row view :=
  ⟨valid.useLatestDate_yields, .inl (view.tickets_useLatestDate texts)⟩

theorem setDateKind_sound (row : RowId) (kind : Option DateKind) :
    (view.setDateKind texts kind).Sound texts row view :=
  ⟨valid.setDateKind_yields kind, .inl (view.tickets_setDateKind texts kind)⟩

omit valid in
theorem startOver_sound (view : RowView) (texts : DateTexts) (row : RowId) :
    (view.startOver texts row).Sound texts row view :=
  ⟨reset_valid view texts, .inl rfl⟩

omit valid in
theorem receive_sound (view : RowView) (texts : DateTexts) (row : RowId)
    (ticket : Ticket) (options : List String) :
    (view.receive texts ticket options).Sound texts row view :=
  ⟨receive_yields view texts ticket options, .inl (view.tickets_receive texts ticket options)⟩

end RowView.Valid

end QueryMenu.DataSource
