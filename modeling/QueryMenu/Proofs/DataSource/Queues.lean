import QueryMenu.Proofs.DataSource.Settlement
import QueryMenu.Proofs.DataSource.Tickets

namespace QueryMenu.DataSource

/-! The queues of a data-source menu.

Events and tickets wait in the menu until the host takes them.  A batch that is taken and
what is left in the queue are together what was queued before and what the operation adds,
so over a run the batches and the queue are the record of the accepted operations, each
of which adds at most one event and one ticket.  No operation looks at the queues; when
they are taken makes no difference to anything else.

The generation of a row grows with every choice of kind, and an id that has left the
screen does not come back.  So no ticket is issued twice.
-/

namespace Answer

def consumed : Answer → Bool
  | .replied (.ok .consumed) => true
  | _ => false

def takenEvents : Answer → List Event
  | .events taken => taken
  | _ => []

def takenTickets : Answer → List Ticket
  | .tickets taken => taken
  | _ => []

theorem taken_of_consumed {answer : Answer} (applies : answer.consumed = true) :
    answer.takenTickets = [] ∧ answer.takenEvents = [] := by
  cases answer with
  | replied => exact ⟨rfl, rfl⟩
  | _ => cases applies

end Answer

namespace Operation

def takes : Operation → Bool
  | .takeTickets | .takeEvents => true
  | _ => false

/-- What a user's action asks of the menu, unless its text names no kind. -/
def meant (labels : DataSourceLabels) : Operation → Operation
  | .handle (.deleteRow row) => .deleteRow row
  | .handle (.chooseKind row text) =>
    match (Menu.start labels).readKind text with
    | some choice => .chooseKind row choice
    | none => .handle (.chooseKind row text)
  | .handle (.chooseSource row text) =>
    .chooseSource row (.ofControl text labels.sourcePlaceholder)
  | .handle (.enterDate row text) => .enterDate row text
  | .handle (.useLatestDate row) => .useLatestDate row
  | operation => operation

/-- What the operation announces if it applies, to the only row or to one of several. -/
def announces (single : Bool) : Operation → List Event
  | .chooseKind row .placeholder => [.typeReset row]
  | .chooseKind row (.value kind) => [.typeSelected row kind]
  | .chooseSource row (.value _) => [.dataSelected row]
  | .deleteRow row => if single then [.typeReset row] else [.rowsRepositioned]
  | _ => []

/-- The fetch that the operation asks for if it applies. -/
def requests (keys : Option (List String)) (generation : RowId → Nat) : Operation → List Ticket
  | .chooseKind row (.value kind) =>
    if kind = .historical ∧ keys.isSome then [] else [⟨row, kind, generation row + 1⟩]
  | _ => []

/-- What the operation answers when its row is not on screen: a text that names no kind is
ignored even then. -/
def refusal (labels : DataSourceLabels) (row : RowId) : Operation → Except MenuError Response
  | .handle (.chooseKind _ text) =>
    match (Menu.start labels).readKind text with
    | some _ => .error (.unknownRow row)
    | none => .ok .unhandled
  | _ => .error (.unknownRow row)

end Operation

/-- The turn adds these to the queues, if the row shows something else afterwards. -/
def Turn.Queues (tickets : List Ticket) (events : List Event) : Turn → Prop
  | .accept _ asked told => asked = tickets ∧ told = events
  | _ => True

/-- These are added to the queues if the operation applies, and otherwise nothing is. -/
structure Settlement.Queues (settlement : Settlement) (consumed : Bool) (tickets : List Ticket)
    (events : List Event) : Prop where
  tickets : settlement.tickets = if consumed then tickets else []
  events : settlement.events = if consumed then events else []

namespace Turn.Queues

variable {view : RowView} {turn : Turn} {tickets : List Ticket} {events : List Event}

theorem settle (queues : turn.Queues tickets events) :
    (Settlement.ofTurn view turn).Queues
      (Answer.replied (Settlement.ofTurn view turn).answer).consumed tickets events := by
  cases turn with
  | refuse error => exact ⟨rfl, rfl⟩
  | ignore => exact ⟨rfl, rfl⟩
  | accept fresh asked told => exact ⟨queues.1, queues.2⟩

/-- If the turn adds nothing, it does not matter whether it applies. -/
theorem settle_silent (silent : turn.Queues [] []) (consumed : Bool) :
    (Settlement.ofTurn view turn).Queues consumed [] [] := by
  have nothing : (Settlement.ofTurn view turn).tickets = [] ∧
      (Settlement.ofTurn view turn).events = [] := by
    cases turn with
    | refuse error => exact ⟨rfl, rfl⟩
    | ignore => exact ⟨rfl, rfl⟩
    | accept fresh asked told => exact silent
  exact ⟨nothing.1.trans (ite_self _).symm, nothing.2.trans (ite_self _).symm⟩

end Turn.Queues

namespace RowView

open Operation (announces requests)

variable (view : RowView) (texts : DateTexts)

/-! What one row adds to the queues. -/

theorem asked_eq (keys : Option (List String)) (row : RowId) (kind : SourceKind) :
    view.asked keys row kind =
      if kind = .historical ∧ keys.isSome then [] else [⟨row, kind, view.generation + 1⟩] := by
  cases kind <;> cases keys <;> rfl

theorem chooseKind_queues (keys : Option (List String)) {row : RowId} (choice : Choice SourceKind)
    (single : Bool) {generation : RowId → Nat} (current : generation row = view.generation) :
    (view.chooseKind texts keys row choice).Queues
      ((Operation.chooseKind row choice).requests keys generation)
      ((Operation.chooseKind row choice).announces single) := by
  cases choice with
  | placeholder => exact ⟨rfl, rfl⟩
  | value kind =>
      refine ⟨?_, rfl⟩
      rw [asked_eq, requests, current]

theorem chooseSource_queues (row : RowId) (choice : Choice String) (single : Bool) :
    (view.chooseSource texts row choice).Queues []
      ((Operation.chooseSource row choice).announces single) := by
  unfold chooseSource
  cases view.offered with
  | none => trivial
  | some kind =>
      cases choice with
      | placeholder => exact ⟨rfl, rfl⟩
      | value source =>
          simp only
          split
          · exact ⟨rfl, rfl⟩
          · trivial

theorem enterDate_queues (text : String) : (view.enterDate texts text).Queues [] [] := by
  unfold enterDate
  split
  · split
    · trivial
    · split
      · trivial
      · exact ⟨rfl, rfl⟩
  · trivial

theorem useLatestDate_queues : (view.useLatestDate texts).Queues [] [] := by
  unfold useLatestDate
  split
  · exact ⟨rfl, rfl⟩
  · trivial

theorem setDateKind_queues (kind : Option DateKind) :
    (view.setDateKind texts kind).Queues [] [] := by
  unfold setDateKind
  split <;> exact ⟨rfl, rfl⟩

theorem receive_queues (ticket : Ticket) (options : List String) :
    (view.receive texts ticket options).Queues [] [] := by
  unfold receive
  split
  · exact ⟨rfl, rfl⟩
  · trivial

end RowView

namespace Operation

variable {labels : DataSourceLabels} {keys : Option (List String)} {row : RowId}
  {operation : Operation} {view : RowView} {generation : RowId → Nat}

theorem consumed_refusal (labels : DataSourceLabels) (row : RowId) (operation : Operation) :
    (operation.report (operation.refusal labels row)).consumed = false := by
  cases operation with
  | handle action =>
      cases action with
      | chooseKind other text =>
          simp only [report, refusal]
          split <;> rfl
      | _ => rfl
  | _ => rfl

theorem deletion_queues (texts : DateTexts) (keys : Option (List String)) (row : RowId)
    (view : RowView) (generation : RowId → Nat) (single : Bool) :
    let settlement := Settlement.ofDeletion texts single row view
    settlement.Queues (Answer.replied settlement.answer).consumed
      ((deleteRow row).requests keys generation) ((deleteRow row).announces single) := by
  cases single <;> exact ⟨rfl, rfl⟩

theorem settlement_queues (labels : DataSourceLabels) (keys : Option (List String))
    (addressed : operation.row? = some row) (current : generation row = view.generation)
    (single : Bool) :
    let settlement := operation.settlement labels keys single view
    settlement.Queues (operation.report settlement.answer).consumed
      ((operation.meant labels).requests keys generation)
      ((operation.meant labels).announces single) := by
  have ignored : Turn.ignore.Queues [] [] := trivial
  cases operation with
  | addRow | learnKeys | takeTickets | takeEvents => cases addressed
  | deleteRow row => exact deletion_queues labels keys row view generation single
  | chooseKind row choice =>
      cases addressed
      exact (view.chooseKind_queues labels keys choice single current).settle
  | chooseSource row choice => exact (view.chooseSource_queues labels row choice single).settle
  | enterDate row text => exact (view.enterDate_queues labels text).settle
  | useLatestDate row => exact (view.useLatestDate_queues labels).settle
  | setDateKind row kind => exact (view.setDateKind_queues labels kind).settle_silent _
  | deliver ticket result =>
      cases result with
      | error error => exact ignored.settle_silent _
      | ok options => exact (view.receive_queues labels ticket options).settle_silent _
  | handle action =>
      cases action with
      | toggle | addRow => cases addressed
      | deleteRow row => exact deletion_queues labels keys row view generation single
      | chooseKind row text =>
          cases addressed
          cases read : (Menu.start labels).readKind text with
          | some choice =>
              simp only [settlement, Action.settlement, meant, read]
              exact (view.chooseKind_queues labels keys choice single current).settle
          | none =>
              simp only [settlement, Action.settlement, meant, read]
              exact ignored.settle_silent _
      | chooseSource row text => exact (view.chooseSource_queues labels row _ single).settle
      | enterDate row text => exact (view.enterDate_queues labels text).settle
      | useLatestDate row => exact (view.useLatestDate_queues labels).settle

theorem requests_of_mem {ticket : Ticket} (asked : ticket ∈ operation.requests keys generation) :
    operation.requests keys generation = [ticket] ∧
      ticket.generation = generation ticket.row + 1 := by
  unfold requests at asked ⊢
  split at asked
  · split at asked
    · cases asked
    · obtain rfl := List.mem_singleton.mp asked
      simp_all
  · cases asked

end Operation

namespace Menu

/-- How many kinds and resets a row on screen has seen. -/
def generation (menu : Menu) (row : RowId) : Nat :=
  ((menu.rows.get? row).map RowView.generation).getD 0

def announced (menu : Menu) (operation : Operation) : List Event :=
  if (menu.answer operation).consumed then
    (operation.meant menu.labels).announces (menu.rows.size = 1)
  else []

def requested (menu : Menu) (operation : Operation) : List Ticket :=
  if (menu.answer operation).consumed then
    (operation.meant menu.labels).requests menu.knownKeys menu.generation
  else []

def withQueues (menu : Menu) (tickets : List Ticket) (events : List Event) : Menu :=
  { menu with tickets, events }

/-- The ticket has been issued: it is awaited, or will never be again. -/
def Past (menu : Menu) (ticket : Ticket) : Prop :=
  menu.Awaits ticket ∨ menu.Spent ticket

variable {menu : Menu} {row : RowId} {view : RowView} {operation : Operation} {ticket : Ticket}

namespace Coherent

variable (coherent : menu.Coherent)
include coherent

theorem withQueues (tickets : List Ticket) (events : List Event) :
    (menu.withQueues tickets events).Coherent :=
  coherent.of_same rfl rfl rfl

theorem answer_missing (addressed : operation.row? = some row)
    (missing : menu.rows.get? row = none) :
    menu.answer operation = operation.report (operation.refusal menu.labels row) := by
  have refused : ∀ {reply act}, reply = menu.turn row act →
      Answer.replied reply.answer = .replied (.error (.unknownRow row)) := by
    rintro _ act rfl
    rw [turn_missing missing]
    rfl
  have deleted : Answer.replied (menu.deleteRow row).answer =
      .replied (.error (.unknownRow row)) := by
    rw [coherent.deleteRow_eq_meet, meet, missing]
    rfl
  cases operation with
  | addRow | learnKeys | takeTickets | takeEvents => cases addressed
  | deleteRow row => cases addressed; exact deleted
  | chooseKind row choice => cases addressed; exact refused (coherent.chooseKind_eq row choice)
  | chooseSource row choice => cases addressed; exact refused (coherent.chooseSource_eq row choice)
  | enterDate row text => cases addressed; exact refused (coherent.enterDate_eq row text)
  | useLatestDate row => cases addressed; exact refused (coherent.useLatestDate_eq row)
  | setDateKind row kind =>
      cases addressed
      have answered := (coherent.setDateKind_eq row kind).2
      rw [turn_missing missing] at answered
      exact congrArg Answer.changed answered
  | deliver ticket result =>
      cases addressed
      have unfilled : (menu.deliver ticket result).1 = false := by
        rw [Bool.eq_false_iff, ne_eq, deliver_fills]
        rintro ⟨-, found, present, -⟩
        cases missing.symm.trans present
      exact congrArg Answer.filled unfilled
  | handle action =>
      cases action with
      | toggle | addRow => cases addressed
      | deleteRow row => cases addressed; exact deleted
      | chooseKind row text =>
          cases addressed
          have read : menu.readKind text = (Menu.start menu.labels).readKind text := rfl
          simp only [answer, Menu.handle, Operation.report, Operation.refusal, read]
          cases (Menu.start menu.labels).readKind text with
          | none => rfl
          | some choice => exact refused (coherent.chooseKind_eq row choice)
      | chooseSource row text => cases addressed; exact refused (coherent.chooseSource_eq row _)
      | enterDate row text => cases addressed; exact refused (coherent.enterDate_eq row text)
      | useLatestDate row => cases addressed; exact refused (coherent.useLatestDate_eq row)

theorem queues_shown (addressed : operation.row? = some row)
    (shown : menu.rows.get? row = some view) :
    let settlement := operation.settlement menu.labels menu.knownKeys (menu.rows.size = 1) view
    menu.requested operation = settlement.tickets ∧
      menu.announced operation = settlement.events := by
  have current : menu.generation row = view.generation := by
    rw [generation, shown]
    rfl
  have queues := Operation.settlement_queues menu.labels menu.knownKeys addressed current
    (menu.rows.size = 1)
  have answered := (coherent.perform_settled addressed).2 view shown
  refine ⟨?_, ?_⟩
  · rw [requested, answered, queues.tickets]
  · rw [announced, answered, queues.events]

theorem queues_missing (addressed : operation.row? = some row)
    (missing : menu.rows.get? row = none) :
    menu.requested operation = [] ∧ menu.announced operation = [] := by
  have refused : (menu.answer operation).consumed = false := by
    rw [coherent.answer_missing addressed missing, Operation.consumed_refusal]
  simp [requested, announced, refused]

/-- An operation that takes nothing does the same whatever the queues hold, and adds to
them what it requests and announces. -/
theorem perform_withQueues (plain : operation.takes = false) (tickets : List Ticket)
    (events : List Event) :
    (menu.withQueues tickets events).perform operation =
        (menu.perform operation).withQueues (tickets ++ menu.requested operation)
          (events ++ menu.announced operation) ∧
      (menu.withQueues tickets events).answer operation = menu.answer operation := by
  have queued := coherent.withQueues tickets events
  cases addressed : operation.row? with
  | some row =>
      -- the row, the labels, the keys and the number of rows settle it, and no queue
      have here := (coherent.perform_settled addressed).1
      have there := (queued.perform_settled addressed).1
      have same : (menu.withQueues tickets events).rows.get? row = menu.rows.get? row := rfl
      cases shown : menu.rows.get? row with
      | none =>
          obtain ⟨unasked, untold⟩ := coherent.queues_missing addressed shown
          refine ⟨?_, ?_⟩
          · simp only [meet, same, shown] at here there
            rw [here, there, unasked, untold, List.append_nil, List.append_nil]
            rfl
          · rw [queued.answer_missing addressed (same.trans shown),
              coherent.answer_missing addressed shown]
            rfl
      | some view =>
          obtain ⟨asked, told⟩ := coherent.queues_shown addressed shown
          refine ⟨?_, ?_⟩
          · simp only [meet, same, shown] at here there
            rw [here, there, asked, told]
            rfl
          · rw [(queued.perform_settled addressed).2 view (same.trans shown),
              (coherent.perform_settled addressed).2 view shown]
            rfl
  | none =>
      have unaffected : menu.requested operation = [] ∧ menu.announced operation = [] ∧
          (menu.withQueues tickets events).perform operation =
            (menu.perform operation).withQueues tickets events ∧
          (menu.withQueues tickets events).answer operation = menu.answer operation := by
        cases operation with
        | addRow | learnKeys => exact ⟨rfl, rfl, rfl, rfl⟩
        | takeTickets | takeEvents => cases plain
        | handle action =>
            cases action with
            | toggle | addRow => exact ⟨rfl, rfl, rfl, rfl⟩
            | _ => cases addressed
        | _ => cases addressed
      obtain ⟨unasked, untold, performed, answered⟩ := unaffected
      refine ⟨?_, answered⟩
      rw [performed, unasked, untold, List.append_nil, List.append_nil]

/-- What was taken and what is left are what was queued and what is added. -/
theorem queued_perform (operation : Operation) :
    (menu.answer operation).takenTickets ++ (menu.perform operation).tickets =
        menu.tickets ++ menu.requested operation ∧
      (menu.answer operation).takenEvents ++ (menu.perform operation).events =
        menu.events ++ menu.announced operation := by
  cases takes : operation.takes with
  | true =>
      cases operation with
      | takeTickets | takeEvents =>
          simp [answer, Menu.perform, Menu.takeTickets, Menu.takeEvents, requested, announced,
            Answer.takenTickets, Answer.takenEvents, Answer.consumed]
      | _ => cases takes
  | false =>
      have performed := (coherent.perform_withQueues takes menu.tickets menu.events).1
      have untaken : (menu.answer operation).takenTickets = [] ∧
          (menu.answer operation).takenEvents = [] := by
        cases operation with
        | takeTickets | takeEvents => cases takes
        | _ => exact ⟨rfl, rfl⟩
      rw [untaken.1, untaken.2]
      exact ⟨congrArg Menu.tickets performed, congrArg Menu.events performed⟩

/-! Issued tickets. -/

omit coherent in
theorem requested_of_mem (asked : ticket ∈ menu.requested operation) :
    menu.requested operation = [ticket] ∧ (menu.answer operation).consumed = true ∧
      ticket.generation = menu.generation ticket.row + 1 := by
  unfold requested at asked ⊢
  split at asked
  · rename_i applies
    obtain ⟨only, generation⟩ := Operation.requests_of_mem asked
    exact ⟨by rw [if_pos applies, only], applies, generation⟩
  · cases asked

theorem awaits_of_requested (asked : ticket ∈ menu.requested operation) :
    (menu.perform operation).Awaits ticket := by
  obtain ⟨only, applies, -⟩ := requested_of_mem asked
  have queued := (coherent.queued_perform operation).1
  rw [(Answer.taken_of_consumed applies).1, only] at queued
  exact coherent.awaits_of_issues queued

theorem exists_shown_of_requested (asked : ticket ∈ menu.requested operation) :
    ∃ view, menu.rows.get? ticket.row = some view ∧
      ticket.generation = view.generation + 1 := by
  cases shown : menu.rows.get? ticket.row with
  | some view =>
      refine ⟨view, rfl, ?_⟩
      rw [(requested_of_mem asked).2.2, generation, shown]
      rfl
  | none =>
      -- a row that appears where there was none waits for nothing
      obtain ⟨fetch, found, pending, -⟩ :=
        awaits_iff_fetch?.mp (coherent.awaits_of_requested asked)
      have step := coherent.fetchStep operation ticket.row
      rw [found, fetch?, shown, Option.map_none] at step
      cases step with
      | added fresh => cases pending

theorem past_perform (past : menu.Past ticket) (operation : Operation) :
    (menu.perform operation).Past ticket := by
  rcases past with awaits | spent
  · by_cases spares : operation.Spares menu ticket
    · exact .inl (coherent.awaits_of_spared awaits spares)
    · exact .inr (coherent.spent_of_ended awaits spares)
  · exact .inr (coherent.spent_perform spent operation)

theorem generation_of_past (past : menu.Past ticket)
    (shown : menu.rows.get? ticket.row = some view) : ticket.generation ≤ view.generation := by
  have found := fetch?_of_get? shown
  rcases past with awaits | spent
  · obtain ⟨fetch, same, pending, -⟩ := awaits_iff_fetch?.mp awaits
    cases found.symm.trans same
    exact Nat.le_of_eq (coherent.generation_of_awaits found pending).symm
  · rcases spent.passed view.fetch found with passed | ⟨current, -⟩
    · exact Nat.le_of_lt passed
    · exact Nat.le_of_eq current

theorem generation_lt_of_past (past : menu.Past ticket) (operations : List Operation) :
    ∀ later ∈ (menu.history operations).flatMap fun step => step.1.requested step.2,
      ticket.row = later.row → ticket.generation < later.generation := by
  induction operations generalizing menu with
  | nil => simp [history]
  | cons operation rest ih =>
      intro later member same
      rw [history, List.flatMap_cons, List.mem_append] at member
      rcases member with now | afterwards
      · obtain ⟨view, shown, generation⟩ := coherent.exists_shown_of_requested now
        have passed := coherent.generation_of_past past (same ▸ shown)
        omega
      · exact ih (coherent.perform operation) (coherent.past_perform past operation) later
          afterwards same

theorem requested_pairwise (operations : List Operation) :
    ((menu.history operations).flatMap fun step => step.1.requested step.2).Pairwise
      fun earlier later => earlier.row = later.row → earlier.generation < later.generation := by
  induction operations generalizing menu with
  | nil => exact .nil
  | cons operation rest ih =>
      have next := coherent.perform operation
      rw [history, List.flatMap_cons, List.pairwise_append]
      refine ⟨?_, ih next, fun ticket asked => ?_⟩
      · -- an operation asks for one fetch at most
        cases asked : menu.requested operation with
        | nil => exact .nil
        | cons ticket others =>
            have only := (requested_of_mem (asked ▸ List.mem_cons_self)).1
            rw [← asked, only]
            exact List.pairwise_singleton _ _
      · exact next.generation_lt_of_past (.inl (coherent.awaits_of_requested asked)) rest

/-! Runs. -/

/-- What a queue neither loses nor makes up at a step, it does not in a run. -/
theorem queued_run {α : Type} (queue : Menu → List α) {taken added : Menu × Operation → List α}
    (conserves : ∀ {menu : Menu}, menu.Coherent → ∀ operation,
      taken (menu, operation) ++ queue (menu.perform operation) =
        queue menu ++ added (menu, operation))
    (operations : List Operation) :
    (menu.history operations).flatMap taken ++ queue (menu.run operations) =
      queue menu ++ (menu.history operations).flatMap added := by
  induction operations generalizing menu with
  | nil => simp [history, Menu.run]
  | cons operation rest ih =>
      have later := ih (coherent.perform operation)
      calc (menu.history (operation :: rest)).flatMap taken ++ queue (menu.run (operation :: rest))
          = taken (menu, operation) ++
              (((menu.perform operation).history rest).flatMap taken ++
                queue ((menu.perform operation).run rest)) := by
            rw [history, List.flatMap_cons, List.append_assoc]
            rfl
        _ = (taken (menu, operation) ++ queue (menu.perform operation)) ++
              ((menu.perform operation).history rest).flatMap added := by
            rw [later, List.append_assoc]
        _ = queue menu ++ (menu.history (operation :: rest)).flatMap added := by
            rw [conserves coherent, List.append_assoc, history, List.flatMap_cons]

/-- A run without its takes leaves the same menu, with all that was requested and announced
still queued, and the other operations answer the same. -/
theorem run_withQueues (operations : List Operation) (tickets : List Ticket)
    (events : List Event) :
    let plain := operations.filter fun operation => !operation.takes
    let history := menu.history operations
    (menu.withQueues tickets events).run plain =
        (menu.run operations).withQueues
          (tickets ++ history.flatMap fun step => step.1.requested step.2)
          (events ++ history.flatMap fun step => step.1.announced step.2) ∧
      ((menu.withQueues tickets events).history plain).map (fun step => step.1.answer step.2) =
        (history.filter fun step => !step.2.takes).map fun step => step.1.answer step.2 := by
  induction operations generalizing menu tickets events with
  | nil => simp [history, Menu.run]
  | cons operation rest ih =>
      have next := coherent.perform operation
      cases takes : operation.takes with
      | true =>
          have aside : (menu.perform operation).withQueues tickets events =
                menu.withQueues tickets events ∧
              menu.requested operation = [] ∧ menu.announced operation = [] := by
            cases operation with
            | takeTickets | takeEvents => exact ⟨rfl, rfl, rfl⟩
            | _ => cases takes
          obtain ⟨same, unasked, untold⟩ := aside
          have later := ih next tickets events
          rw [same] at later
          simpa [history, takes, unasked, untold, Menu.run] using later
      | false =>
          obtain ⟨performed, answered⟩ := coherent.perform_withQueues takes tickets events
          have later := ih next (tickets ++ menu.requested operation)
            (events ++ menu.announced operation)
          rw [← performed] at later
          simpa [history, takes, answered, Menu.run, List.append_assoc] using later

end Coherent

/-- In every run, whenever the host takes what is queued: the batches it took and what is
left are in order what the accepted operations announced, and likewise what they requested;
no two requests are the same, and those for one row are of ever later generations.  Without
the takes the run ends in the same menu, but for its queues, and answers the same. -/
theorem run_start_queues (labels : DataSourceLabels) (operations : List Operation) :
    let menu := (start labels).run operations
    let history := (start labels).history operations
    let events := history.flatMap fun step => step.1.announced step.2
    let tickets := history.flatMap fun step => step.1.requested step.2
    let plain := operations.filter fun operation => !operation.takes
    (history.flatMap fun step => (step.1.answer step.2).takenEvents) ++ menu.events = events ∧
      (history.flatMap fun step => (step.1.answer step.2).takenTickets) ++ menu.tickets =
        tickets ∧
      tickets.Nodup ∧
      (tickets.Pairwise fun earlier later =>
        earlier.row = later.row → earlier.generation < later.generation) ∧
      (start labels).run plain = { menu with tickets, events } ∧
      ((start labels).history plain).map (fun step => step.1.answer step.2) =
        (history.filter fun step => !step.2.takes).map fun step => step.1.answer step.2 := by
  intro menu history events tickets plain
  have coherent := start_coherent labels
  have ascending := coherent.requested_pairwise operations
  have aside := coherent.run_withQueues operations [] []
  refine ⟨?_, ?_, ?_, ascending, aside.1, aside.2⟩
  · exact coherent.queued_run Menu.events
      (fun found operation => (found.queued_perform operation).2) operations
  · exact coherent.queued_run Menu.tickets
      (fun found operation => (found.queued_perform operation).1) operations
  · refine ascending.imp fun {earlier later} grown => ?_
    rintro rfl
    exact Nat.lt_irrefl _ (grown rfl)

/-- A historical source whose keys are known asks for no fetch, but counts as a generation;
so does the deletion of the only row. -/
example :
    let history := (start {}).history
      [.learnKeys ["EOD"], .chooseKind ⟨0⟩ (.value .live), .takeTickets,
        .chooseKind ⟨0⟩ (.value .historical), .takeEvents, .deleteRow ⟨0⟩,
        .handle (.chooseKind ⟨0⟩ "snapshot")]
    (history.flatMap fun step => step.1.requested step.2) =
        [⟨⟨0⟩, .live, 1⟩, ⟨⟨0⟩, .snapshot, 4⟩] ∧
      (history.flatMap fun step => step.1.announced step.2) =
        [.typeSelected ⟨0⟩ .live, .typeSelected ⟨0⟩ .historical, .typeReset ⟨0⟩,
          .typeSelected ⟨0⟩ .snapshot] := by
  decide +kernel

end Menu

end QueryMenu.DataSource
