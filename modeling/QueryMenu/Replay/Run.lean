import QueryMenu.Aggregation.Menu
import QueryMenu.DataSource.Menu
import QueryMenu.Replay.Script

namespace QueryMenu.Replay

/-! Running a script against a pair of fresh menus.

A step is first turned into an action of its menu, which fails if the step is malformed.
After every step the awaited fetches are settled and the announced events collected.
-/

inductive StepError where
  /-- The action does not belong to the menu. -/
  | foreignAction (menu : MenuName) (action : ActionKind)
  | missingPosition (action : ActionKind)
  | noRow (position : Nat)
  | missingValue (action : ActionKind)
  /-- The menu failed at the step with this index. -/
  | failed (index : Nat) (error : MenuError)
deriving DecidableEq, Repr

def StepError.message : StepError → String
  | .foreignAction .aggregation action => action.title ++ " is not an aggregation control"
  | .foreignAction .dataSources action => action.title ++ " is not a data-source control"
  | .missingPosition action => action.title ++ " needs a position"
  | .noRow position => "no row at position " ++ toString position
  | .missingValue action => action.title ++ " needs a value"
  | .failed index _ => "step " ++ toString index

namespace Step

def row {σ : Type} (step : Step) (rows : Rows σ) : Except StepError RowId :=
  match step.position with
  | none => .error (.missingPosition step.action)
  | some position =>
    match rows.idAt? position with
    | none => .error (.noRow position)
    | some row => .ok row

def text (step : Step) : Except StepError String :=
  match step.value with
  | none => .error (.missingValue step.action)
  | some text => .ok text

def aggregationAction (step : Step) (menu : Aggregation.Menu) :
    Except StepError Aggregation.Action :=
  match step.action with
  | .toggle => .ok .toggle
  | .addRow => .ok .addRow
  | .deleteRow => do return .deleteRow (← step.row menu.rows)
  | .choose => do return .choose (← step.row menu.rows) (← step.text)
  | .require => do return .require (← step.row menu.rows) (step.checked.getD true)
  | action => .error (.foreignAction .aggregation action)

def dataSourceAction (step : Step) (menu : DataSource.Menu) :
    Except StepError DataSource.Action :=
  match step.action with
  | .toggle => .ok .toggle
  | .addRow => .ok .addRow
  | .deleteRow => do return .deleteRow (← step.row menu.rows)
  | .chooseKind => do return .chooseKind (← step.row menu.rows) (← step.text)
  | .chooseSource => do return .chooseSource (← step.row menu.rows) (← step.text)
  | .enterDate => do return .enterDate (← step.row menu.rows) (← step.text)
  | .useLatestDate => do return .useLatestDate (← step.row menu.rows)
  | action => .error (.foreignAction .dataSources action)

end Step

structure Session where
  aggregation : Aggregation.Menu
  dataSources : DataSource.Menu
  /-- The steps that did not apply, by index. -/
  unhandled : List Nat := []
  events : List DataSource.Event := []

namespace Session

/-- Fresh menus.  Prefetched resolver keys are known from the start if the backend has them. -/
def start (script : Script) (labels : Labels) : Session :=
  let dataSources := DataSource.Menu.start labels.dataSources
  let keys := if script.prefetchResolverKeys then
      ((Endpoints.ofProvider script.provider).options .historical).toOption
    else none
  { aggregation := .start labels.aggregation script.aggregators
    dataSources := match keys with
      | some keys => dataSources.learnKeys keys
      | none => dataSources }

def perform (session : Session) (index : Nat) (step : Step) :
    Except StepError (Response × Session) :=
  match step.menu with
  | .aggregation => do
    let action ← step.aggregationAction session.aggregation
    let reply := session.aggregation.handle action
    let response ← reply.answer.mapError (.failed index)
    return (response, { session with aggregation := reply.menu })
  | .dataSources => do
    let action ← step.dataSourceAction session.dataSources
    let reply := session.dataSources.handle action
    let response ← reply.answer.mapError (.failed index)
    return (response, { session with dataSources := reply.menu })

/-- Settles the awaited fetches and collects the announced events. -/
def refresh (session : Session) (endpoints : Endpoints) : Session :=
  let (_, dataSources) := session.dataSources.deliverPending endpoints
  let (events, dataSources) := dataSources.takeEvents
  { session with dataSources, events := session.events ++ events }

def note (session : Session) (index : Nat) : Response → Session
  | .consumed => session
  | .unhandled => { session with unhandled := session.unhandled ++ [index] }

def step (endpoints : Endpoints) (session : Session) (index : Nat) (step : Step) :
    Except StepError Session := do
  let (response, session) ← session.perform index step
  return (session.note index response).refresh endpoints

/-- Runs steps, the first of which has the given index. -/
def runFrom (endpoints : Endpoints) (session : Session) :
    (index : Nat) → List Step → Except StepError Session
  | _, [] => .ok session
  | index, next :: rest => do
    (← session.step endpoints index next).runFrom endpoints (index + 1) rest

end Session

/-- The final state of both menus, as far as a backend is concerned. -/
structure Report where
  aggregationCaption : String
  aggregationQuery : String
  aggregators : List Aggregator
  dataSourceText : String
  dataSourceQuery : Option (List MarketDataRequest)
  /-- The steps that did not apply, by index. -/
  unhandled : List Nat
  events : List String
deriving DecidableEq, Repr

def Session.report (session : Session) : Report where
  aggregationCaption := session.aggregation.caption
  aggregationQuery := session.aggregation.query
  aggregators := session.aggregation.aggregators
  dataSourceText := session.dataSources.render
  dataSourceQuery := session.dataSources.query
  unhandled := session.unhandled
  events := session.events.map DataSource.Event.name

def run (script : Script) (labels : Labels) : Except StepError Report :=
  ((Session.start script labels).runFrom (.ofProvider script.provider) 0 script.steps).map
    Session.report

namespace Report

def aggregatorToJson (aggregator : Aggregator) : Json :=
  .object [("name", .string aggregator.name), ("requiredField", .bool aggregator.required)]

def toJson (report : Report) : Json :=
  .object
    [("aggregation", .object
        [("display", .string report.aggregationCaption),
          ("query", .string report.aggregationQuery),
          ("aggregators", .array (report.aggregators.map aggregatorToJson))]),
      ("datasources", .object
        [("display", .string report.dataSourceText),
          ("query", Json.ofOption (fun requests => .array (requests.map MarketDataRequest.toJson))
            report.dataSourceQuery)]),
      ("unhandled", .array (report.unhandled.map Json.ofNat)),
      ("events", Json.ofTexts report.events)]

end Report

end QueryMenu.Replay
