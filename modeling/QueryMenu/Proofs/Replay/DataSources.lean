import Mathlib.Data.List.Basic
import QueryMenu.Proofs.DataSource.Reachable
import QueryMenu.Proofs.Replay.Address
import QueryMenu.Proofs.Replay.Cell

namespace QueryMenu.DataSource.Menu

/-! The data-source menu under a script.

What the rows of the menu show is what the plain rows are, once the fetches that a step
asked for have been settled and its events collected.
-/

open Replay (Step)
open Replay.Plain (Cell Outcome)

/-- Between two steps, the menu shows these plain rows. -/
structure Shows (labels : DataSourceLabels) (endpoints : Endpoints) (menu : Menu)
    (cells : List Cell) : Prop where
  coherent : menu.Coherent
  labels : menu.labels = labels
  settled : ∀ view ∈ menu.rows.states, view.Settled endpoints
  cells : cells = menu.rows.states.map RowView.cell
  known : ∀ keys, menu.knownKeys = some keys → endpoints.options .historical = .ok keys
  tickets : menu.tickets = []
  events : menu.events = []

/-- Once its fetches are settled and its events collected, the menu shows these rows. -/
structure Settles (labels : DataSourceLabels) (endpoints : Endpoints) (menu : Menu)
    (cells : List Cell) (events : List String) : Prop where
  shown : (menu.deliverPending endpoints).2.takeEvents.2.Shows labels endpoints cells
  events : (menu.deliverPending endpoints).2.events.map Event.name = events

/-- The reply of the menu comes to the outcome. -/
structure Brings (labels : DataSourceLabels) (endpoints : Endpoints)
    (reply : Reply Menu Response) (outcome : Outcome Cell) : Prop where
  answer : reply.answer = .ok outcome.response
  settles : reply.menu.Settles labels endpoints outcome.rows outcome.events

variable {labels : DataSourceLabels} {endpoints : Endpoints} {menu : Menu} {cells : List Cell}

theorem deliverPending_none (quiet : menu.tickets = []) :
    (menu.deliverPending endpoints).2 = menu := by
  unfold deliverPending takeTickets
  rw [quiet]
  cases menu
  simp_all [deliverAll]

theorem deliverPending_one {ticket : Ticket} (one : menu.tickets = [ticket]) :
    (menu.deliverPending endpoints).2 =
      ({ menu with tickets := [] }.deliver ticket (endpoints.options ticket.kind)).2 := by
  unfold deliverPending takeTickets
  rw [one]
  rfl

theorem Settles.of_quiet {events : List String} (quiet : menu.tickets = [])
    (showing : menu.takeEvents.2.Shows labels endpoints cells)
    (announced : menu.events.map Event.name = events) :
    menu.Settles labels endpoints cells events := by
  constructor
  · rw [deliverPending_none quiet]
    exact showing
  · rw [deliverPending_none quiet]
    exact announced

theorem start_shows (labels : DataSourceLabels) (endpoints : Endpoints) :
    (start labels).Shows labels endpoints [.untyped] where
  coherent := start_coherent labels
  labels := rfl
  settled view only := by
    obtain rfl := List.mem_singleton.mp only
    exact RowView.settled_of_untyped rfl rfl rfl
  cells := rfl
  known keys found := by cases found
  tickets := rfl
  events := rfl

namespace Shows

variable (showing : menu.Shows labels endpoints cells)
include showing

theorem learnKeys {keys : List String} (found : endpoints.options .historical = .ok keys) :
    (menu.learnKeys keys).Shows labels endpoints cells where
  coherent := showing.coherent.learnKeys keys
  labels := showing.labels
  settled := showing.settled
  cells := showing.cells
  known others same := by
    cases same
    exact found
  tickets := showing.tickets
  events := showing.events

theorem length_eq : cells.length = menu.rows.size := by
  rw [showing.cells, List.length_map, Rows.length_states]

theorem unhandled : menu.Settles labels endpoints cells [] := by
  refine .of_quiet showing.tickets ⟨?_, ?_, ?_, ?_, ?_, ?_, rfl⟩ ?_
  · exact ⟨showing.coherent.ordered, showing.coherent.populated, showing.coherent.valid,
      showing.coherent.entries⟩
  · exact showing.labels
  · exact showing.settled
  · exact showing.cells
  · exact showing.known
  · exact showing.tickets
  · rw [showing.events]
    rfl

section Row

variable {id : RowId} {position : Nat} {view : RowView}
  (located : menu.rows.lookup? id = some (position, view))
include located

theorem settled_of_lookup? : view.Settled endpoints := by
  apply showing.settled
  exact List.mem_map_of_mem (Rows.mem_of_lookup? located)

theorem valid_of_lookup? : view.Valid labels :=
  showing.labels ▸ showing.coherent.valid_of_get? (Rows.get?_of_lookup? located)

theorem settled_set {fresh : RowView} (settled : fresh.Settled endpoints) :
    ∀ other ∈ (menu.rows.set id fresh).states, other.Settled endpoints := by
  rw [Rows.states_set located]
  intro other member
  rcases List.mem_or_eq_of_mem_set member with old | rfl
  · exact showing.settled other old
  · exact settled

theorem accept_shows {fresh : RowView} (valid : fresh.Valid labels)
    (settled : fresh.Settled endpoints) (events : List Event) :
    (menu.accept id fresh [] events).takeEvents.2.Shows labels endpoints
      (cells.set position fresh.cell) := by
  have coherent := showing.coherent.accept (Rows.get?_of_lookup? located)
    (showing.labels.symm ▸ valid) [] events
  refine ⟨?_, showing.labels, ?_, ?_, showing.known, ?_, rfl⟩
  · exact ⟨coherent.ordered, coherent.populated, coherent.valid, coherent.entries⟩
  · exact showing.settled_set located settled
  · simp [takeEvents, Menu.accept, Rows.states_set located, showing.cells, List.map_set]
  · simp [takeEvents, Menu.accept, showing.tickets]

theorem accept {fresh : RowView} (valid : fresh.Valid labels)
    (settled : fresh.Settled endpoints) (events : List Event) :
    (menu.accept id fresh [] events).Settles labels endpoints (cells.set position fresh.cell)
      (events.map Event.name) := by
  refine .of_quiet ?_ (showing.accept_shows located valid settled events) ?_
  · simp [Menu.accept, showing.tickets]
  · simp [Menu.accept, showing.events]

/-- The options that a row has just asked for fill it in at once. -/
theorem deliver_asked {ticket : Ticket} {fresh : RowView} (own : ticket.row = id)
    (valid : fresh.Valid labels) (waits : fresh.Awaits ticket) (options : List String)
    (events : List Event) :
    ({ menu.accept id fresh [ticket] events with tickets := [] }.deliver ticket
        (.ok options)).2 =
      (if ticket.kind = .historical then menu.learnKeys options else menu).accept id
        ({ fresh with pending := none }.fill ticket.kind options labels.customLabel) []
        events := by
  subst own
  have coherent := showing.coherent.accept (Rows.get?_of_lookup? located)
    (showing.labels.symm ▸ valid) [] events
  have waiting : ({ menu.accept ticket.row fresh [ticket] events with tickets := [] } :
      Menu).Coherent :=
    ⟨coherent.ordered, coherent.populated, coherent.valid, coherent.entries⟩
  have shown : (menu.rows.set ticket.row fresh).get? ticket.row = some fresh :=
    Rows.get?_set_self located fresh
  have again := Rows.set_set located fresh
    ({ fresh with pending := none }.fill ticket.kind options labels.customLabel)
  have quiet := showing.tickets
  have labelled := showing.labels
  rw [waiting.deliver_menu]
  split
  · simp only [Menu.turn, Menu.learnKeys, Menu.accept, shown, RowView.receive, if_pos waits,
      Reply.consumed, again, labelled, quiet, List.append_nil, entriesOf]
  · simp only [Menu.turn, Menu.accept, shown, RowView.receive, if_pos waits, Reply.consumed,
      again, labelled, quiet, List.append_nil, entriesOf]

/-- A turn that asks for no fetch does to the plain row what the row shows of it. -/
theorem turn {act : RowView → Turn} (closes : (act view).Closes endpoints)
    (valid : (act view).Yields (RowView.Valid labels)) :
    Brings labels endpoints (menu.turn id act)
      (Replay.Plain.change cells position (act view).change) := by
  have found := Rows.get?_of_lookup? located
  cases acted : act view with
  | refuse error =>
      rw [acted] at closes
      exact closes.elim
  | ignore =>
      have ignored : menu.turn id act = .unhandled menu := by
        simp only [Menu.turn, found, acted]
      rw [ignored]
      exact ⟨rfl, showing.unhandled⟩
  | accept fresh tickets events =>
      rw [turn_accepted found acted]
      rw [acted] at closes valid
      obtain ⟨rfl, settled⟩ := closes
      exact ⟨rfl, showing.accept located valid settled events⟩

theorem ask (kind : SourceKind) :
    (menu.accept id (view.ask menu.labels menu.knownKeys kind)
        (view.asked menu.knownKeys id kind) [.typeSelected id kind]).Settles labels endpoints
      (cells.set position (.typed kind)) ["dropmenu:ds:typesselected"] := by
  have valid := (showing.valid_of_lookup? located).ask menu.knownKeys kind
  have shown := view.kind_ask labels menu.knownKeys kind
  have typed := RowView.cell_ask (showing.valid_of_lookup? located) menu.knownKeys kind
  have asked : _ ∨ _ :=
    (showing.settled_of_lookup? located).ask labels menu.knownKeys id kind showing.known
  rw [showing.labels]
  rw [← typed]
  obtain ⟨unasked, settled⟩ | ⟨one, waits, failing⟩ := asked
  · rw [unasked]
    exact showing.accept located valid settled _
  · rw [one]
    have queue : (menu.accept id (view.ask labels menu.knownKeys kind)
        [⟨id, kind, view.generation + 1⟩] [.typeSelected id kind]).tickets =
        [⟨id, kind, view.generation + 1⟩] := by
      simp [Menu.accept, showing.tickets]
    -- the fetch is settled before the next step, or the row goes on waiting
    cases backend : endpoints.options kind with
    | error error =>
        have waiting := showing.accept_shows located valid (failing error backend)
          [.typeSelected id kind]
        constructor
        · rw [deliverPending_one queue, backend]
          simpa [Menu.deliver, Menu.accept, takeEvents, showing.tickets] using waiting
        · rw [deliverPending_one queue, backend]
          simp [Menu.deliver, Menu.accept, showing.events, Event.name]
    | ok options =>
        have delivered := showing.deliver_asked located rfl valid waits options
          [.typeSelected id kind]
        have learned : (if kind = .historical then menu.learnKeys options else menu).Shows
            labels endpoints cells := by
          split
          · rename_i historical
            exact showing.learnKeys (historical ▸ backend)
          · exact showing
        have rows : (if kind = .historical then menu.learnKeys options else menu).rows =
            menu.rows := by
          split <;> rfl
        have unpaid : { view.ask labels menu.knownKeys kind with pending := none }.kind =
            some kind := shown
        have filled := learned.accept_shows (rows.symm ▸ located)
          (RowView.fill_valid unpaid rfl options) (RowView.fill_settled unpaid backend)
          [.typeSelected id kind]
        rw [RowView.cell_fill unpaid] at filled
        constructor
        · rw [deliverPending_one queue, backend, delivered, typed]
          exact filled
        · rw [deliverPending_one queue, backend, delivered]
          have quiet := learned.events
          simp [Menu.accept, quiet, Event.name]

theorem chooseKind (text : String) :
    Brings labels endpoints (menu.handle (.chooseKind id text))
      (Replay.Plain.change cells position (Cell.chooseKind labels text)) := by
  have found := Rows.get?_of_lookup? located
  have labelled := showing.labels
  unfold Cell.chooseKind
  by_cases cleared : text = "" ∨ text = labels.typePlaceholder
  · have read : menu.readKind text = some .placeholder := by
      simp only [readKind, Choice.ofControl, labelled, if_pos cleared.symm]
    have valid : ((view.startOver labels id)).Yields (RowView.Valid labels) :=
      RowView.reset_valid view labels
    simp only [Menu.handle, read, showing.coherent.chooseKind_eq, labelled, if_pos cleared]
    exact showing.turn located (view.startOver_closes id) valid
  · have named : ¬ (text = labels.typePlaceholder ∨ text = "") := fun placeholder =>
      cleared placeholder.symm
    rw [if_neg cleared]
    cases meant : SourceKind.ofText? text with
    | none =>
        have read : menu.readKind text = none := by
          simp only [readKind, Choice.ofControl, labelled, if_neg named, meant, Option.map_none]
        simp only [Menu.handle, read]
        exact ⟨rfl, showing.unhandled⟩
    | some kind =>
        have read : menu.readKind text = some (.value kind) := by
          simp only [readKind, Choice.ofControl, labelled, if_neg named, meant, Option.map_some]
        have chosen : menu.chooseKind id (.value kind) = .consumed (menu.accept id
            (view.ask menu.labels menu.knownKeys kind) (view.asked menu.knownKeys id kind)
            [.typeSelected id kind]) := by
          rw [showing.coherent.chooseKind_eq, turn_accepted found rfl]
        simp only [Menu.handle, read, chosen]
        exact ⟨rfl, showing.ask located kind⟩

theorem chooseSource (text : String) :
    Brings labels endpoints (menu.handle (.chooseSource id text))
      (Replay.Plain.change cells position
        (view.cell.chooseSource labels endpoints text)) := by
  have valid := showing.valid_of_lookup? located
  have settled := showing.settled_of_lookup? located
  have labelled := showing.labels
  rw [← settled.change_chooseSource valid id text]
  simp only [Menu.handle, showing.coherent.chooseSource_eq, labelled]
  exact showing.turn located (settled.chooseSource_closes id _) (valid.chooseSource_yields id _)

theorem enterDate (text : String) :
    Brings labels endpoints (menu.handle (.enterDate id text))
      (Replay.Plain.change cells position (view.cell.enterDate text)) := by
  have valid := showing.valid_of_lookup? located
  have settled := showing.settled_of_lookup? located
  have labelled := showing.labels
  rw [← settled.change_enterDate valid text]
  simp only [Menu.handle, showing.coherent.enterDate_eq, labelled]
  exact showing.turn located (settled.enterDate_closes text) (valid.enterDate_yields text)

theorem useLatestDate :
    Brings labels endpoints (menu.handle (.useLatestDate id))
      (Replay.Plain.change cells position view.cell.useLatestDate) := by
  have valid := showing.valid_of_lookup? located
  have settled := showing.settled_of_lookup? located
  have labelled := showing.labels
  rw [← RowView.change_useLatestDate valid]
  simp only [Menu.handle, showing.coherent.useLatestDate_eq, labelled]
  exact showing.turn located settled.useLatestDate_closes valid.useLatestDate_yields

theorem deleteRow :
    Brings labels endpoints (menu.handle (.deleteRow id))
      (Replay.Plain.delete cells position .untyped ["dropmenu:ds:typereset"]
        ["dropmenu:ds:optsrespositioned"]) := by
  have labelled := showing.labels
  have onScreen : position < cells.length := by
    rw [showing.length_eq]
    exact Rows.lt_size_of_lookup? located
  by_cases single : cells.length = 1
  · have only : menu.rows.size = 1 := showing.length_eq.symm.trans single
    have valid : ((view.startOver labels id)).Yields (RowView.Valid labels) :=
      RowView.reset_valid view labels
    rw [Replay.Plain.delete_eq_change single onScreen]
    simp only [Menu.handle, showing.coherent.deleteRow_eq_of_single only, labelled]
    exact showing.turn located (view.startOver_closes id) valid
  · have several : menu.rows.size ≠ 1 := fun only => single (showing.length_eq.trans only)
    obtain ⟨rest, removed⟩ := Rows.exists_remove? located
    have coherent := showing.coherent.perform (.deleteRow id)
    have left := showing.coherent.deleteRow_eq_of_several several id
    rw [removed] at left
    rw [Menu.perform, left] at coherent
    simp only [Menu.handle, left]
    rw [Replay.Plain.delete, if_neg single]
    refine ⟨rfl, .of_quiet showing.tickets ⟨?_, labelled, ?_, ?_, showing.known, ?_, rfl⟩ ?_⟩
    · exact ⟨coherent.ordered, coherent.populated, coherent.valid, coherent.entries⟩
    · intro other member
      have left : other ∈ menu.rows.states.eraseIdx position := by
        rw [← Rows.states_remove removed]
        exact member
      exact showing.settled other (List.mem_of_mem_eraseIdx left)
    · simp [Reply.consumed, takeEvents, Rows.states_remove removed, showing.cells,
        List.eraseIdx_map]
    · exact showing.tickets
    · simp [Reply.consumed, showing.events, Event.name]

end Row

theorem toggle : (menu.handle .toggle).menu.Settles labels endpoints cells [] := by
  have coherent := showing.coherent.perform (.handle .toggle)
  refine .of_quiet showing.tickets ⟨?_, showing.labels, showing.settled, showing.cells,
    showing.known, showing.tickets, rfl⟩ ?_
  · exact ⟨coherent.ordered, coherent.populated, coherent.valid, coherent.entries⟩
  · exact congrArg (List.map Event.name) showing.events

theorem addRow : (menu.handle .addRow).menu.Settles labels endpoints (cells ++ [.untyped]) [] := by
  have coherent := showing.coherent.addRow
  refine .of_quiet showing.tickets ⟨?_, showing.labels, ?_, ?_, showing.known, showing.tickets,
    rfl⟩ ?_
  · exact ⟨coherent.ordered, coherent.populated, coherent.valid, coherent.entries⟩
  · intro view member
    have shown : view ∈ menu.rows.states ++ [.blank menu.labels.customLabel] := by
      rw [← Rows.states_push]
      exact member
    rcases List.mem_append.mp shown with old | blank
    · exact showing.settled view old
    · rw [List.mem_singleton.mp blank]
      exact RowView.settled_of_untyped rfl rfl rfl
  · have states : (menu.handle .addRow).menu.takeEvents.2.rows.states =
        menu.rows.states ++ [.blank menu.labels.customLabel] :=
      Rows.states_push menu.rows _
    rw [states, showing.cells, List.map_append]
    rfl
  · have quiet : (menu.handle .addRow).menu.events = [] := showing.events
    rw [quiet]
    rfl

theorem arrange (step : Step) :
    Step.Meets (fun action => Brings labels endpoints (menu.handle action))
      (step.dataSourceAction menu) (Replay.Plain.arrange labels endpoints cells step) := by
  have ordered := showing.coherent.ordered
  obtain rfl := showing.cells
  unfold Step.dataSourceAction Replay.Plain.arrange
  cases step.action with
  | toggle => exact ⟨.toggle, rfl, rfl, showing.toggle⟩
  | addRow => exact ⟨.addRow, rfl, rfl, showing.addRow⟩
  | deleteRow =>
      dsimp only
      refine step.meets_row ordered RowView.cell fun located => ?_
      exact showing.deleteRow located
  | chooseKind =>
      dsimp only
      refine step.meets_text ordered RowView.cell fun text located => ?_
      exact showing.chooseKind located text
  | chooseSource =>
      dsimp only
      refine step.meets_text ordered RowView.cell fun text located => ?_
      exact showing.chooseSource located text
  | enterDate =>
      dsimp only
      refine step.meets_text ordered RowView.cell fun text located => ?_
      exact showing.enterDate located text
  | useLatestDate =>
      dsimp only
      refine step.meets_row ordered RowView.cell fun located => ?_
      exact showing.useLatestDate located
  | choose | require => exact ⟨_, rfl⟩

/-! What a backend is asked for. -/

/-- What can be told of each plain row from what the row holds can be told of them all. -/
theorem filterMap_cells {α : Type} {told : Cell → Option α} {read : DataSource → α}
    (same : ∀ view : RowView, view.Settled endpoints → view.Valid labels →
      told view.cell = (view.holding labels).map read) :
    cells.filterMap told =
      ((Entries.slotsOf (RowView.holding labels) menu.rows).filterMap id).map read := by
  rw [showing.cells, Entries.slotsOf_eq, List.filterMap_map, List.filterMap_map,
    List.map_filterMap]
  refine List.filterMap_congr fun view member => ?_
  obtain ⟨row, onScreen, rfl⟩ := List.mem_map.mp member
  exact same row.state (showing.settled _ member)
    (showing.labels ▸ showing.coherent.valid row onScreen)

theorem render : menu.render =
    Replay.Plain.phrase labels.joiner labels.sourcePlaceholder
      (cells.filterMap Cell.label?) := by
  have told := showing.filterMap_cells fun view _ valid => RowView.label?_cell valid
  rw [Menu.render, showing.coherent.entries, entriesOf, Entries.ofRows, Entries.render_ofSlots,
    showing.labels, told]
  simp only [Replay.Plain.phrase, List.map_eq_nil_iff, List.isEmpty_iff]
  rfl

theorem query : menu.query =
    if cells.filterMap Cell.request? = [] then none
    else some (cells.filterMap Cell.request?) := by
  have told := showing.filterMap_cells fun view settled valid =>
    RowView.request?_cell settled valid
  have payloads := Entries.payloads_ofSlots
    (Entries.slotsOf (RowView.holding labels) menu.rows)
  rw [Menu.query, showing.coherent.entries, entriesOf, Entries.ofRows, Entries.isEmpty_ofSlots,
    showing.labels, told, ← payloads, List.map_map]
  simp only [List.isEmpty_map, List.map_eq_nil_iff, List.isEmpty_iff]
  rfl

end Shows

end QueryMenu.DataSource.Menu
