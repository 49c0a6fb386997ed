import QueryMenu.Entries.Basic
import QueryMenu.Labels
import QueryMenu.Reply

namespace QueryMenu

/-! The aggregation menu: a chain of aggregators, one per row.

Each row has a selector over the offered aggregators and a checkbox "required", which
accepts input only while an aggregator is chosen.  There are never more rows than
offered aggregators, except that the first row is always there.
-/

structure Aggregator where
  name : String
  required : Bool
deriving DecidableEq, Repr

/-- Choosing another aggregator keeps the step's required flag. -/
instance : Payload Aggregator where
  label aggregator := aggregator.name
  revise old fresh := { old with name := fresh.name }

namespace Aggregation

structure RowView where
  selected : Choice String := .placeholder
  required : Bool := false
  checkboxEnabled : Bool := false
deriving DecidableEq, Repr

/-- What a row shows after a choice on it.  A first choice unlocks the checkbox, the
placeholder locks it, and both clear it; another choice leaves it alone. -/
def RowView.choose (view : RowView) (choice : Choice String) (first : Bool) : RowView :=
  match choice with
  | .placeholder => {}
  | .value name =>
    if first then ⟨.value name, false, true⟩ else { view with selected := .value name }

structure Menu where
  lifecycle : Lifecycle
  labels : AggregationLabels
  /-- The aggregators that the selectors offer. -/
  options : List String
  rows : Rows RowView
  entries : Entries Aggregator
deriving DecidableEq, Repr

inductive Action where
  | toggle
  | addRow
  | deleteRow (row : RowId)
  /-- The selector of a row now shows this text. -/
  | choose (row : RowId) (text : String)
  | require (row : RowId) (checked : Bool)
deriving DecidableEq, Repr

namespace Menu

/-- A closed menu with one empty row. -/
def start (labels : AggregationLabels) (options : List String) : Menu :=
  ⟨{}, labels, options, .start {}, .empty⟩

/-- The row whose selector gets the keyboard. -/
def focusRow (menu : Menu) : Option RowId :=
  menu.rows.last?

/-- Appends an empty row, unless there is one for each option. -/
def addRow (menu : Menu) : Option RowId × Menu :=
  if menu.options.length ≤ menu.rows.size then (none, menu)
  else
    let (id, rows) := menu.rows.push {}
    (some id, { menu with rows })

/-- Applies a choice on a row.  A value that is not offered is not handled. -/
def choose (menu : Menu) (row : RowId) (choice : Choice String) : Reply Menu Response :=
  match menu.rows.lookup? row with
  | none => .refused menu (.unknownRow row)
  | some (position, view) =>
    if choice.toOption.any fun name => !menu.options.contains name then .unhandled menu
    else
      let first := (menu.entries.indexOf? position).isNone
      let edit := menu.entries.choose position (choice.map fun name => ⟨name, false⟩)
      .ofEdit
        { menu with rows := menu.rows.set row (view.choose choice first), entries := edit.entries }
        edit

def require (menu : Menu) (row : RowId) (checked : Bool) : Reply Menu Response :=
  match menu.rows.lookup? row with
  | none => .refused menu (.unknownRow row)
  | some (position, view) =>
    if view.checkboxEnabled then
      .consumed
        { menu with
          rows := menu.rows.set row { view with required := checked }
          entries := menu.entries.revisePayload position fun aggregator =>
            { aggregator with required := checked } }
    else .unhandled menu

/-- Deletes a row.  The only row is emptied instead. -/
def deleteRow (menu : Menu) (row : RowId) : Reply Menu Response :=
  if menu.rows.size = 1 then
    match menu.rows.get? row with
    | none => .refused menu (.unknownRow row)
    | some _ =>
      let edit := menu.entries.deleteRow 0 1
      .ofEdit { menu with rows := menu.rows.set row {}, entries := edit.entries } edit
  else
    match menu.rows.remove? row with
    | none => .refused menu (.unknownRow row)
    | some (position, _, rows) =>
      let edit := menu.entries.deleteRow position menu.rows.size
      .ofEdit { menu with rows, entries := edit.entries } (edit.fitting rows.size)

/-- The rendered chain, or the placeholder if it is empty. -/
def query (menu : Menu) : String :=
  menu.entries.render menu.labels.joiner menu.labels.placeholder

def caption (menu : Menu) : String :=
  menu.labels.leadIn ++ " " ++ menu.query

def aggregators (menu : Menu) : List Aggregator :=
  menu.entries.sorted.map Entry.payload

def handle (menu : Menu) : Action → Reply Menu Response
  | .toggle =>
    let (lifecycle, heard) := menu.lifecycle.toggle
    ⟨{ menu with lifecycle }, .ok .consumed, heard⟩
  | .addRow =>
    match menu.addRow with
    | (some _, menu) => .consumed menu
    | (none, menu) => .unhandled menu
  | .deleteRow row => menu.deleteRow row
  | .choose row text => menu.choose row (.ofControl text menu.labels.placeholder)
  | .require row checked => menu.require row checked

end Menu

end Aggregation

end QueryMenu
