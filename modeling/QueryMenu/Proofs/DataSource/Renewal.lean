import QueryMenu.Proofs.DataSource.Queues
import QueryMenu.Proofs.Rows.Renaming

namespace QueryMenu.DataSource

/-! A data-source menu after the deletion of its only row.

The row that is left shows what the first row of a new menu shows, except that it goes on
counting its generations.  Nothing depends on how high a generation is: a choice adds one,
and a delivery compares two of the same row.  So the menu goes on like a new one that knows
the same resolver keys, under its own ids and with the generations of that row so much
higher, behind what was queued before and has not been taken yet.
-/

/-- The ids of a menu that is left with one row, and the generation that this row has. -/
structure Renewal extends Renaming where
  age : Nat

/-- What was queued before the row was deleted, as far as it has not been taken. -/
structure Leftover where
  tickets : List Ticket
  events : List Event

def RowView.aged (view : RowView) (age : Nat) : RowView :=
  { view with generation := view.generation + age, pending := view.pending.map (· + age) }

namespace Renewal

variable (renewal : Renewal)

/-- How much higher the generations of a row are than in a new menu. -/
def offset : RowId → Nat
  | ⟨0⟩ => renewal.age
  | _ => 0

def ticket (ticket : Ticket) : Ticket :=
  ⟨renewal.row ticket.row, ticket.kind, ticket.generation + renewal.offset ticket.row⟩

def event : Event → Event
  | .typeReset row => .typeReset (renewal.row row)
  | .typeSelected row kind => .typeSelected (renewal.row row) kind
  | .dataSelected row => .dataSelected (renewal.row row)
  | .rowsRepositioned => .rowsRepositioned

def view (row : RowId) (view : RowView) : RowView :=
  view.aged (renewal.offset row)

def action : Action → Action
  | .toggle => .toggle
  | .addRow => .addRow
  | .deleteRow row => .deleteRow (renewal.row row)
  | .chooseKind row text => .chooseKind (renewal.row row) text
  | .chooseSource row text => .chooseSource (renewal.row row) text
  | .enterDate row text => .enterDate (renewal.row row) text
  | .useLatestDate row => .useLatestDate (renewal.row row)

def operation : Operation → Operation
  | .addRow => .addRow
  | .deleteRow row => .deleteRow (renewal.row row)
  | .chooseKind row choice => .chooseKind (renewal.row row) choice
  | .chooseSource row choice => .chooseSource (renewal.row row) choice
  | .enterDate row text => .enterDate (renewal.row row) text
  | .useLatestDate row => .useLatestDate (renewal.row row)
  | .setDateKind row kind => .setDateKind (renewal.row row) kind
  | .learnKeys keys => .learnKeys keys
  | .takeTickets => .takeTickets
  | .takeEvents => .takeEvents
  | .handle action => .handle (renewal.action action)
  | .deliver ticket result => .deliver (renewal.ticket ticket) result

/-- A batch comes after what is left from before the deletion. -/
def answer (left : Leftover) : Answer → Answer
  | .added row => .added (renewal.row row)
  | .replied answer => .replied (renewal.reply answer)
  | .changed answer => .changed (renewal.reply answer)
  | .filled filled => .filled filled
  | .tickets taken => .tickets (left.tickets ++ taken.map renewal.ticket)
  | .events taken => .events (left.events ++ taken.map renewal.event)
  | .learned => .learned

end Renewal

namespace Leftover

def after (left : Leftover) : Operation → Leftover
  | .takeTickets => { left with tickets := [] }
  | .takeEvents => { left with events := [] }
  | _ => left

def afterAll (left : Leftover) (operations : List Operation) : Leftover :=
  operations.foldl after left

end Leftover

def Turn.renew (renewal : Renewal) (age : Nat) : Turn → Turn
  | .refuse error => .refuse (renewal.error error)
  | .ignore => .ignore
  | .accept view tickets events =>
    .accept (view.aged age) (tickets.map renewal.ticket) (events.map renewal.event)

def Settlement.renew (renewal : Renewal) (age : Nat) (settlement : Settlement) : Settlement where
  fate := settlement.fate.map fun view => view.aged age
  answer := renewal.reply settlement.answer
  tickets := settlement.tickets.map renewal.ticket
  events := settlement.events.map renewal.event

namespace RowView

variable (view : RowView) (texts : DateTexts) (renewal : Renewal) (row : RowId) (age : Nat)

@[simp] theorem offered_aged : (view.aged age).offered = view.offered := rfl

@[simp] theorem controls_aged : (view.aged age).controls = view.controls := rfl

theorem bared_aged : (view.aged age).bared texts = (view.bared texts).aged age := by
  unfold bared
  rw [offered_aged]
  split <;> rfl

theorem reset_aged (label : String) : (view.aged age).reset label = (view.reset label).aged age := by
  simp [reset, renew, unfill, aged, Nat.add_right_comm]

theorem ask_aged (keys : Option (List String)) (kind : SourceKind) :
    (view.aged age).ask texts keys kind = (view.ask texts keys kind).aged age := by
  unfold ask
  rw [bared_aged]
  cases kind <;> cases keys <;> simp [renew, fill, aged, Nat.add_right_comm]

theorem asked_aged (keys : Option (List String)) (kind : SourceKind) :
    (view.aged (renewal.offset row)).asked keys (renewal.row row) kind =
      (view.asked keys row kind).map renewal.ticket := by
  rw [asked_eq, asked_eq]
  split
  · rfl
  · simp [aged, Renewal.ticket, Nat.add_right_comm]

theorem startOver_aged : (view.aged age).startOver texts (renewal.row row) =
    (view.startOver texts row).renew renewal age := by
  rw [startOver, reset_aged]
  rfl

theorem chooseKind_aged (keys : Option (List String)) (choice : Choice SourceKind) :
    (view.aged (renewal.offset row)).chooseKind texts keys (renewal.row row) choice =
      (view.chooseKind texts keys row choice).renew renewal (renewal.offset row) := by
  cases choice with
  | placeholder => exact view.startOver_aged texts renewal row _
  | value kind =>
      rw [chooseKind, ask_aged, asked_aged]
      rfl

theorem chooseSource_aged (choice : Choice String) :
    (view.aged age).chooseSource texts (renewal.row row) choice =
      (view.chooseSource texts row choice).renew renewal age := by
  unfold chooseSource
  rw [offered_aged]
  cases view.offered with
  | none => rfl
  | some kind =>
      cases choice with
      | placeholder => rfl
      | value source =>
          by_cases listed : view.options.contains source
          · have lists : (view.aged age).options.contains source := listed
            simp only [if_pos listed, if_pos lists]
            rfl
          · have lacks : ¬ (view.aged age).options.contains source := listed
            simp only [if_neg listed, if_neg lacks]
            rfl

theorem error_readDate {parse : String → Except Calendar.DateError Calendar.Date}
    {kind : DateKind} {text : String} {error : MenuError}
    (refused : Menu.readDate parse kind text = .error error) : renewal.error error = error := by
  obtain rfl | ⟨reason, rfl⟩ := Menu.cases_of_readDate_eq_error refused <;> rfl

theorem enterDate_aged (text : String) :
    (view.aged age).enterDate texts text = (view.enterDate texts text).renew renewal age := by
  unfold enterDate
  simp only [controls_aged]
  cases view.controls.enabled with
  | false => rfl
  | true =>
      cases view.controls.kind with
      | none => rfl
      | some kind =>
          simp only
          split
          · rfl
          · cases read : Menu.readDate texts.parse kind text with
            | error error => simp only [Turn.renew, error_readDate renewal read]
            | ok date => rfl

theorem useLatestDate_aged :
    (view.aged age).useLatestDate texts = (view.useLatestDate texts).renew renewal age := by
  unfold useLatestDate
  rw [controls_aged]
  split <;> rfl

theorem setDateKind_aged (kind : Option DateKind) :
    (view.aged age).setDateKind texts kind = (view.setDateKind texts kind).renew renewal age := by
  unfold setDateKind
  rw [controls_aged]
  split <;> rfl

theorem awaits_aged {ticket : Ticket} :
    (view.aged (renewal.offset ticket.row)).Awaits (renewal.ticket ticket) ↔
      view.Awaits ticket := by
  simp [Awaits, aged, Renewal.ticket]

theorem receive_aged (ticket : Ticket) (options : List String) :
    (view.aged (renewal.offset ticket.row)).receive texts (renewal.ticket ticket) options =
      (view.receive texts ticket options).renew renewal (renewal.offset ticket.row) := by
  unfold receive
  by_cases awaits : view.Awaits ticket
  · rw [if_pos awaits, if_pos ((view.awaits_aged renewal).mpr awaits)]
    rfl
  · rw [if_neg awaits, if_neg ((view.awaits_aged renewal).not.mpr awaits)]
    rfl

end RowView

namespace Settlement

variable {renewal : Renewal} (view : RowView) (age : Nat)

theorem ofTurn_renew (turn : Turn) :
    ofTurn (view.aged age) (turn.renew renewal age) = (ofTurn view turn).renew renewal age := by
  cases turn <;> rfl

theorem ofDeletion_renew (texts : DateTexts) (single : Bool) (row : RowId) :
    ofDeletion texts single (renewal.row row) (view.aged age) =
      (ofDeletion texts single row view).renew renewal age := by
  cases single with
  | false => rfl
  | true =>
      simp only [ofDeletion, if_true, view.startOver_aged texts renewal row age]
      exact ofTurn_renew view age _

end Settlement

namespace Operation

variable {renewal : Renewal} {row : RowId} {operation : Operation}

theorem row?_renew (renewal : Renewal) (operation : Operation) :
    (renewal.operation operation).row? = operation.row?.map renewal.row := by
  cases operation with
  | handle action => cases action <;> rfl
  | _ => rfl

theorem keysAfter_renew (renewal : Renewal) (operation : Operation)
    (keys : Option (List String)) :
    (renewal.operation operation).keysAfter keys = operation.keysAfter keys := by
  cases operation with
  | deliver ticket result => cases result <;> rfl
  | _ => rfl

theorem report_renew (operation : Operation) (left : Leftover)
    (answer : Except MenuError Response) :
    (renewal.operation operation).report (renewal.reply answer) =
      renewal.answer left (operation.report answer) := by
  cases operation with
  | setDateKind row kind => cases answer <;> rfl
  | deliver ticket result =>
      rcases answer with error | response
      · rfl
      · cases response <;> rfl
  | _ => rfl

theorem refusal_renew (operation : Operation) (labels : DataSourceLabels) (row : RowId) :
    (renewal.operation operation).refusal labels (renewal.row row) =
      renewal.reply (operation.refusal labels row) := by
  cases operation with
  | handle action =>
      cases action with
      | chooseKind other text =>
          simp only [Renewal.operation, Renewal.action, refusal]
          split <;> rfl
      | _ => rfl
  | _ => rfl

/-- What an operation makes of a row does not depend on how often the row has been renewed. -/
theorem settlement_renew (addressed : operation.row? = some row) (labels : DataSourceLabels)
    (keys : Option (List String)) (single : Bool) (view : RowView) :
    (renewal.operation operation).settlement labels keys single (renewal.view row view) =
      (operation.settlement labels keys single view).renew renewal (renewal.offset row) := by
  have turned : ∀ {renewed turn : Turn} {age : Nat}, renewed = turn.renew renewal age →
      Settlement.ofTurn (view.aged age) renewed =
        (Settlement.ofTurn view turn).renew renewal age := by
    rintro _ turn age rfl
    exact Settlement.ofTurn_renew view age turn
  cases operation with
  | addRow | learnKeys | takeTickets | takeEvents => cases addressed
  | deleteRow row => exact Settlement.ofDeletion_renew view _ labels single row
  | chooseKind row choice =>
      cases addressed
      exact turned (view.chooseKind_aged labels renewal row keys choice)
  | chooseSource row choice => exact turned (view.chooseSource_aged labels renewal row _ choice)
  | enterDate row text => exact turned (view.enterDate_aged labels renewal _ text)
  | useLatestDate row => exact turned (view.useLatestDate_aged labels renewal _)
  | setDateKind row kind => exact turned (view.setDateKind_aged labels renewal _ kind)
  | deliver ticket result =>
      cases addressed
      cases result with
      | error error => rfl
      | ok options => exact turned (view.receive_aged labels renewal ticket options)
  | handle action =>
      cases action with
      | toggle | addRow => cases addressed
      | deleteRow row => exact Settlement.ofDeletion_renew view _ labels single row
      | chooseKind row text =>
          cases addressed
          simp only [Renewal.operation, Renewal.action, settlement, Action.settlement]
          cases (Menu.start labels).readKind text with
          | none => rfl
          | some choice => exact turned (view.chooseKind_aged labels renewal row keys choice)
      | chooseSource row text => exact turned (view.chooseSource_aged labels renewal row _ _)
      | enterDate row text => exact turned (view.enterDate_aged labels renewal _ text)
      | useLatestDate row => exact turned (view.useLatestDate_aged labels renewal _)

end Operation

end QueryMenu.DataSource
