import QueryMenu.Replay.Run

namespace QueryMenu.Replay.Plain

/-! A plain account of what a script does.

Each menu is one list of rows, and a row is what has been chosen on it.  There are no
ids, no entries beside the rows, no tickets, no generations and no known keys: the
options for a kind are what the backend answers whenever they are asked for.
-/

/-- What has been chosen on a data-source row. -/
inductive Cell where
  | untyped
  | typed (kind : SourceKind)
  | sourced (kind : SourceKind) (source : String)
  | dated (kind : SourceKind) (source date : String)
deriving DecidableEq, Repr

/-- The rows after a step, and what the step announced. -/
structure Outcome (α : Type) where
  response : Response
  rows : List α
  events : List String := []

section Rows

variable {α : Type}

def addressed? (rows : List α) (step : Step) : Option (Nat × α) := do
  let position ← step.position
  let row ← rows[position]?
  return (position, row)

/-- Puts a new row in the place of an old one, unless the step does not apply to it. -/
def change (rows : List α) (position : Nat) : Option (α × List String) → Outcome α
  | none => ⟨.unhandled, rows, []⟩
  | some (row, events) => ⟨.consumed, rows.set position row, events⟩

/-- The only row is emptied instead. -/
def delete (rows : List α) (position : Nat) (empty : α) (emptied removed : List String) :
    Outcome α :=
  if rows.length = 1 then ⟨.consumed, [empty], emptied⟩
  else ⟨.consumed, rows.eraseIdx position, removed⟩

end Rows

/-! The aggregation menu: a row holds an aggregator or none. -/

def choose (labels : AggregationLabels) (offered : List String) (row : Option Aggregator)
    (text : String) : Option (Option Aggregator × List String) :=
  if text = "" ∨ text = labels.placeholder then some (none, [])
  else if text ∈ offered then
    match row with
    | some old => some (some ⟨text, old.required⟩, [])
    | none => some (some ⟨text, false⟩, [])
  else none

def require (row : Option Aggregator) (checked : Bool) :
    Option (Option Aggregator × List String) :=
  match row with
  | some old => some (some ⟨old.name, checked⟩, [])
  | none => none

/-- A step on the aggregation menu; `none` if it is malformed. -/
def aggregate (labels : AggregationLabels) (offered : List String)
    (rows : List (Option Aggregator)) (step : Step) : Option (Outcome (Option Aggregator)) :=
  match step.action with
  | .toggle => some ⟨.consumed, rows, []⟩
  | .addRow =>
    some (if rows.length < offered.length then ⟨.consumed, rows ++ [none], []⟩
      else ⟨.unhandled, rows, []⟩)
  | .deleteRow => do
    let (position, _) ← addressed? rows step
    return delete rows position none [] []
  | .choose => do
    let (position, row) ← addressed? rows step
    let text ← step.value
    return change rows position (choose labels offered row text)
  | .require => do
    let (position, row) ← addressed? rows step
    return change rows position (require row (step.checked.getD true))
  | _ => none

/-! The data-source menu. -/

namespace Cell

def kind? : Cell → Option SourceKind
  | .untyped => none
  | .typed kind | .sourced kind _ | .dated kind _ _ => some kind

def chooseKind (labels : DataSourceLabels) (text : String) : Option (Cell × List String) :=
  if text = "" ∨ text = labels.typePlaceholder then some (.untyped, ["dropmenu:ds:typereset"])
  else
    match SourceKind.ofText? text with
    | some kind => some (.typed kind, ["dropmenu:ds:typesselected"])
    | none => none

def chooseSource (labels : DataSourceLabels) (endpoints : Endpoints) (cell : Cell)
    (text : String) : Option (Cell × List String) :=
  match cell.kind? with
  | none => none
  | some kind =>
    match endpoints.options kind with
    | .error _ => none
    | .ok options =>
      if text = "" ∨ text = labels.sourcePlaceholder then some (.typed kind, [])
      else if text ∈ options then some (.sourced kind text, ["dropmenu:ds:dataselected"])
      else none

/-- Only a historical source takes a date. -/
def enterDate (cell : Cell) (text : String) : Option (Cell × List String) :=
  match cell with
  | .sourced .historical source | .dated .historical source _ =>
    if text = "" then none else some (.dated .historical source text, [])
  | _ => none

def useLatestDate : Cell → Option (Cell × List String)
  | .sourced kind source | .dated kind source _ => some (.sourced kind source, [])
  | _ => none

def label? : Cell → Option String
  | .sourced kind source | .dated kind source _ => some (kind.name ++ ":" ++ source)
  | _ => none

def request? : Cell → Option MarketDataRequest
  | .sourced .live source | .dated .live source _ => some (.live source)
  | .sourced .snapshot source | .dated .snapshot source _ => some (.snapshot source)
  | .sourced .historical source => some (.latestHistorical source)
  | .dated .historical source date => some (.fixedHistorical date source)
  | _ => none

end Cell

/-- A step on the data-source menu; `none` if it is malformed. -/
def arrange (labels : DataSourceLabels) (endpoints : Endpoints) (rows : List Cell) (step : Step) :
    Option (Outcome Cell) :=
  match step.action with
  | .toggle => some ⟨.consumed, rows, []⟩
  | .addRow => some ⟨.consumed, rows ++ [.untyped], []⟩
  | .deleteRow => do
    let (position, _) ← addressed? rows step
    return delete rows position .untyped ["dropmenu:ds:typereset"]
      ["dropmenu:ds:optsrespositioned"]
  | .chooseKind => do
    let (position, _) ← addressed? rows step
    let text ← step.value
    return change rows position (Cell.chooseKind labels text)
  | .chooseSource => do
    let (position, cell) ← addressed? rows step
    let text ← step.value
    return change rows position (cell.chooseSource labels endpoints text)
  | .enterDate => do
    let (position, cell) ← addressed? rows step
    let text ← step.value
    return change rows position (cell.enterDate text)
  | .useLatestDate => do
    let (position, cell) ← addressed? rows step
    return change rows position cell.useLatestDate
  | _ => none

/-! Whole scripts. -/

structure State where
  aggregators : List (Option Aggregator) := [none]
  cells : List Cell := [.untyped]
  unhandled : List Nat := []
  events : List String := []

namespace State

def note {α : Type} (state : State) (index : Nat) (outcome : Outcome α) : State :=
  { state with
    unhandled := state.unhandled ++ if outcome.response = .unhandled then [index] else []
    events := state.events ++ outcome.events }

def step (script : Script) (labels : Labels) (state : State) (index : Nat) (step : Step) :
    Option State :=
  match step.menu with
  | .aggregation => do
    let outcome ← aggregate labels.aggregation script.aggregators state.aggregators step
    return { state.note index outcome with aggregators := outcome.rows }
  | .dataSources => do
    let outcome ← arrange labels.dataSources (.ofProvider script.provider) state.cells step
    return { state.note index outcome with cells := outcome.rows }

def runFrom (script : Script) (labels : Labels) (state : State) :
    (index : Nat) → List Step → Option State
  | _, [] => some state
  | index, next :: rest => do
    let state ← state.step script labels index next
    state.runFrom script labels (index + 1) rest

end State

def phrase (joiner placeholder : String) (names : List String) : String :=
  if names = [] then placeholder else (" " ++ joiner ++ " ").intercalate names

def State.report (labels : Labels) (state : State) : Report :=
  let chosen := state.aggregators.filterMap id
  let query := phrase labels.aggregation.joiner labels.aggregation.placeholder
    (chosen.map Aggregator.name)
  let requests := state.cells.filterMap Cell.request?
  { aggregationCaption := labels.aggregation.leadIn ++ " " ++ query
    aggregationQuery := query
    aggregators := chosen
    dataSourceText := phrase labels.dataSources.joiner labels.dataSources.sourcePlaceholder
      (state.cells.filterMap Cell.label?)
    dataSourceQuery := if requests = [] then none else some requests
    unhandled := state.unhandled
    events := state.events }

/-- The report of a script; `none` if one of its steps is malformed. -/
def run (script : Script) (labels : Labels) : Option Report :=
  (State.runFrom script labels {} 0 script.steps).map (State.report labels)

end QueryMenu.Replay.Plain
