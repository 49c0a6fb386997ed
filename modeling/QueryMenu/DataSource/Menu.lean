import QueryMenu.Calendar.Reader
import QueryMenu.DataSource.Fetch
import QueryMenu.Labels
import QueryMenu.Reply

namespace QueryMenu.DataSource

/-! The data-source menu: a list of market-data sources, one per row.

A row is filled in two stages: a kind, and then a source among the options for that
kind.  The options arrive later, through a ticket, unless the resolver keys for
historical sources are already known.  While a source is chosen the row's date
controls accept input.
-/

/-- Which date a row's date controls set. -/
inductive DateKind where
  | plain
  | version
  | correction
deriving DecidableEq, Repr

def DateKind.name : DateKind → String
  | .plain => "plain"
  | .version => "version"
  | .correction => "correction"

inductive DateSetting where
  | latest
  | custom
deriving DecidableEq, Repr

def DateSetting.name : DateSetting → String
  | .latest => "latest"
  | .custom => "custom"

structure DateControls where
  /-- `none` if the row has none. -/
  kind : Option DateKind
  enabled : Bool
  setting : DateSetting
  /-- The text of the custom-date button: its label, or the date that was entered. -/
  customText : String
deriving DecidableEq, Repr

namespace DateControls

def hidden (label : String) : DateControls :=
  ⟨none, false, .latest, label⟩

def toLatest (controls : DateControls) (label : String) : DateControls :=
  { controls with setting := .latest, customText := label }

def toCustom (controls : DateControls) (text : String) : DateControls :=
  { controls with setting := .custom, customText := text }

/-- Unlocking and locking both go back to the latest date. -/
def withEnabled (controls : DateControls) (enabled : Bool) (label : String) : DateControls :=
  { controls with enabled }.toLatest label

end DateControls

/-- What a row shows, and the fetch it waits for. -/
structure RowView where
  /-- The kind that the first selector shows. -/
  kind : Option SourceKind
  /-- The kind whose options the second selector offers. -/
  offered : Option SourceKind
  options : List String
  source : Choice String
  controls : DateControls
  /-- How many kinds and resets the row has seen. -/
  generation : Nat
  /-- The generation of the awaited fetch. -/
  pending : Option Nat
deriving DecidableEq, Repr

namespace RowView

def blank (label : String) : RowView :=
  ⟨none, none, [], .placeholder, .hidden label, 0, none⟩

/-- Takes away everything that depends on the kind. -/
def unfill (view : RowView) (label : String) : RowView :=
  { view with offered := none, options := [], source := .placeholder, controls := .hidden label }

/-- Starts a new generation, for which nothing is awaited yet. -/
def renew (view : RowView) : RowView :=
  { view with generation := view.generation + 1, pending := none }

/-- Back to the placeholder of the first selector. -/
def reset (view : RowView) (label : String) : RowView :=
  ({ view with kind := none }.renew).unfill label

/-- Fills in the options of a kind.  Historical sources offer a plain date. -/
def fill (view : RowView) (kind : SourceKind) (options : List String) (label : String) :
    RowView :=
  { view with
    offered := some kind
    options
    source := .placeholder
    controls :=
      { DateControls.hidden label with
        kind := if kind = .historical then some .plain else none } }

end RowView

inductive Event where
  | typeReset (row : RowId)
  | typeSelected (row : RowId) (kind : SourceKind)
  | dataSelected (row : RowId)
  | rowsRepositioned
deriving DecidableEq, Repr

def Event.name : Event → String
  | .typeReset _ => "dropmenu:ds:typereset"
  | .typeSelected _ _ => "dropmenu:ds:typesselected"
  | .dataSelected _ => "dropmenu:ds:dataselected"
  | .rowsRepositioned => "dropmenu:ds:optsrespositioned"

structure Menu where
  lifecycle : Lifecycle
  labels : DataSourceLabels
  rows : Rows RowView
  entries : Entries DataSource
  /-- The resolver keys last seen, from which historical rows are filled at once. -/
  knownKeys : Option (List String)
  tickets : List Ticket
  events : List Event
deriving DecidableEq

inductive Action where
  | toggle
  | addRow
  | deleteRow (row : RowId)
  /-- The kind selector of a row now shows this text. -/
  | chooseKind (row : RowId) (text : String)
  /-- The source selector of a row now shows this text. -/
  | chooseSource (row : RowId) (text : String)
  | enterDate (row : RowId) (text : String)
  | useLatestDate (row : RowId)
deriving DecidableEq, Repr

namespace Menu

/-- A closed menu with one empty row. -/
def start (labels : DataSourceLabels) : Menu :=
  ⟨{}, labels, .start (.blank labels.customLabel), .empty, none, [], []⟩

/-- The row whose kind selector gets the keyboard. -/
def focusRow (menu : Menu) : Option RowId :=
  menu.rows.last?

def learnKeys (menu : Menu) (keys : List String) : Menu :=
  { menu with knownKeys := some keys }

def addRow (menu : Menu) : RowId × Menu :=
  let (id, rows) := menu.rows.push (.blank menu.labels.customLabel)
  (id, { menu with rows })

def announce (menu : Menu) (event : Event) : Menu :=
  { menu with events := menu.events ++ [event] }

def takeTickets (menu : Menu) : List Ticket × Menu :=
  (menu.tickets, { menu with tickets := [] })

def takeEvents (menu : Menu) : List Event × Menu :=
  (menu.events, { menu with events := [] })

def clearDate (menu : Menu) (position : Nat) : Entries DataSource :=
  menu.entries.revisePayload position fun chosen => { chosen with date := none }

/-- Gives a row another date control.  The date set through the old one is dropped;
the same control again changes nothing. -/
def setDateKind (menu : Menu) (row : RowId) (kind : Option DateKind) :
    Reply Menu Unit :=
  match menu.rows.lookup? row with
  | none => .refused menu (.unknownRow row)
  | some (position, view) =>
    if view.controls.kind = kind then ⟨menu, .ok (), []⟩
    else
      let controls := { view.controls with kind }.toLatest menu.labels.customLabel
      ⟨{ menu with
          rows := menu.rows.set row { view with controls }
          entries := menu.clearDate position }, .ok (), []⟩

/-- Shows the kind on a row and fills in or asks for its options. -/
def beginKind (menu : Menu) (row : RowId) (view : RowView) (kind : SourceKind) : Menu :=
  let view := { view with kind := some kind }.renew
  match kind, menu.knownKeys with
  | .historical, some keys =>
    { menu with
      rows := menu.rows.set row (view.fill .historical keys menu.labels.customLabel) }
  | kind, _ =>
    { menu with
      rows := menu.rows.set row { view with pending := some view.generation }
      tickets := menu.tickets ++ [⟨row, kind, view.generation⟩] }

def chooseKind (menu : Menu) (row : RowId) (choice : Choice SourceKind) : Reply Menu Response :=
  match menu.rows.lookup? row with
  | none => .refused menu (.unknownRow row)
  | some (position, view) =>
    match choice with
    | .placeholder =>
      let edit := menu.entries.clear position
      .ofEdit
        (({ menu with
            rows := menu.rows.set row (view.reset menu.labels.customLabel)
            entries := edit.entries } : Menu).announce (.typeReset row))
        edit
    | .value kind =>
      if view.offered.isSome then
        let edit := menu.entries.clear position
        .ofEdit
          (({ menu with entries := edit.entries }.beginKind row
            (view.unfill menu.labels.customLabel) kind).announce (.typeSelected row kind))
          edit
      else .consumed ((menu.beginKind row view kind).announce (.typeSelected row kind))

/-- Delivers the result of a fetch and tells whether it filled in a row.  The options
for a historical row become the known resolver keys even if the row no longer waits
for them. -/
def deliver (menu : Menu) (ticket : Ticket)
    (result : Except BackendError (List String)) : Bool × Menu :=
  match result with
  | .error _ => (false, menu)
  | .ok options =>
    let menu := if ticket.kind = .historical then menu.learnKeys options else menu
    match menu.rows.get? ticket.row with
    | none => (false, menu)
    | some view =>
      if view.pending = some ticket.generation ∧ view.kind = some ticket.kind then
        let view := { view with pending := none }.fill ticket.kind options
          menu.labels.customLabel
        (true, { menu with rows := menu.rows.set ticket.row view })
      else (false, menu)

/-- Fetches the options for tickets and delivers them one after the other; tells for each
ticket whether it filled in a row. -/
def deliverAll (endpoints : Endpoints) (menu : Menu) :
    List Ticket → List (Ticket × Bool) × Menu
  | [] => ([], menu)
  | ticket :: rest =>
    let (filled, menu) := menu.deliver ticket (endpoints.options ticket.kind)
    let (later, menu) := deliverAll endpoints menu rest
    ((ticket, filled) :: later, menu)

def deliverPending (menu : Menu) (endpoints : Endpoints) : List (Ticket × Bool) × Menu :=
  let (tickets, menu) := menu.takeTickets
  menu.deliverAll endpoints tickets

def chooseSource (menu : Menu) (row : RowId) (choice : Choice String) : Reply Menu Response :=
  match menu.rows.lookup? row with
  | none => .refused menu (.unknownRow row)
  | some (position, view) =>
    match view.offered, choice with
    | none, _ => .unhandled menu
    | some _, .placeholder =>
      let edit := menu.entries.clear position
      let controls := view.controls.withEnabled false menu.labels.customLabel
      .ofEdit
        { menu with
          rows := menu.rows.set row { view with source := .placeholder, controls }
          entries := edit.entries }
        edit
    | some kind, .value source =>
      if view.options.contains source then
        let edit := menu.entries.choose position (.value { kind, source })
        let controls := view.controls.withEnabled true menu.labels.customLabel
        .ofEdit
          (({ menu with
              rows := menu.rows.set row { view with source := .value source, controls }
              entries := edit.entries } : Menu).announce (.dataSelected row))
          edit
      else .unhandled menu

/-- The date that a control of a kind sets, if `parse` reads the days of versions. -/
def readDate (parse : String → Except Calendar.DateError Calendar.Date) (kind : DateKind)
    (text : String) : Except MenuError SourceDate :=
  match kind with
  | .plain => .ok (.plain text)
  | .correction => .ok (.correction text)
  | .version =>
    match parse text with
    | .ok date => .ok (.version date)
    | .error .yearUnderflow => .error .yearUnderflow
    | .error reason => .error (.invalidDate text reason)

def enterDate (menu : Menu) (row : RowId) (text : String) : Reply Menu Response :=
  match menu.rows.lookup? row with
  | none => .refused menu (.unknownRow row)
  | some (position, view) =>
    match view.controls.enabled, view.controls.kind, menu.entries.find? position with
    | true, some kind, some _ =>
      if text = "" then .unhandled menu
      else
        match readDate (Calendar.Date.parse menu.labels.dateFormat) kind text with
        | .error error => .refused menu error
        | .ok date =>
          .consumed
            { menu with
              rows := menu.rows.set row { view with controls := view.controls.toCustom text }
              entries := menu.entries.revisePayload position fun chosen =>
                { chosen with date := some date } }
    | _, _, _ => .unhandled menu

def useLatestDate (menu : Menu) (row : RowId) : Reply Menu Response :=
  match menu.rows.lookup? row with
  | none => .refused menu (.unknownRow row)
  | some (position, view) =>
    if view.controls.enabled then
      let controls := view.controls.toLatest menu.labels.customLabel
      .consumed
        { menu with
          rows := menu.rows.set row { view with controls }
          entries := menu.clearDate position }
    else .unhandled menu

/-- Deletes a row.  The only row is emptied instead. -/
def deleteRow (menu : Menu) (row : RowId) : Reply Menu Response :=
  if menu.rows.size = 1 then
    match menu.rows.get? row with
    | none => .refused menu (.unknownRow row)
    | some view =>
      let edit := menu.entries.deleteRow 0 1
      .ofEdit
        (({ menu with
            rows := menu.rows.set row (view.reset menu.labels.customLabel)
            entries := edit.entries } : Menu).announce (.typeReset row))
        edit
  else
    match menu.rows.remove? row with
    | none => .refused menu (.unknownRow row)
    | some (position, _, rows) =>
      let edit := menu.entries.deleteRow position menu.rows.size
      .ofEdit
        (({ menu with rows, entries := edit.entries } : Menu).announce .rowsRepositioned)
        (edit.fitting rows.size)

/-- The rendered list, or the placeholder of the source selector if it is empty. -/
def render (menu : Menu) : String :=
  menu.entries.render menu.labels.joiner menu.labels.sourcePlaceholder

/-- The requests in row order, if there are any. -/
def query (menu : Menu) : Option (List MarketDataRequest) :=
  if menu.entries.isEmpty then none
  else some (menu.entries.sorted.map fun entry => .ofDataSource entry.payload)

/-- What a kind selector's text means; `none` if it names no kind. -/
def readKind (menu : Menu) (text : String) : Option (Choice SourceKind) :=
  match Choice.ofControl text menu.labels.typePlaceholder with
  | .placeholder => some .placeholder
  | .value text => (SourceKind.ofText? text).map .value

/-- Carries out what a user did.  A text that names no kind is not handled, even for a
row that is not on screen. -/
def handle (menu : Menu) : Action → Reply Menu Response
  | .toggle =>
    let (lifecycle, heard) := menu.lifecycle.toggle
    ⟨{ menu with lifecycle }, .ok .consumed, heard⟩
  | .addRow => .consumed menu.addRow.2
  | .deleteRow row => menu.deleteRow row
  | .chooseKind row text =>
    match menu.readKind text with
    | some choice => menu.chooseKind row choice
    | none => .unhandled menu
  | .chooseSource row text =>
    menu.chooseSource row (.ofControl text menu.labels.sourcePlaceholder)
  | .enterDate row text => menu.enterDate row text
  | .useLatestDate row => menu.useLatestDate row

end Menu

end QueryMenu.DataSource
