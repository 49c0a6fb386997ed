import QueryMenu.Proofs.DataSource.Turn

namespace QueryMenu.DataSource

/-! The states that a data-source menu can reach.

A host may call the operations in any order, with any ids and values, and may deliver
any result for any ticket.  Whatever it calls, one of four things happens: the rows stay
as they are, an empty row is added, one row has its turn, or one row goes.  Each of the
four keeps a menu coherent, so every state of every run is coherent, and what the entry
list holds can be read off the rows.
-/

/-- What a host can do to a menu. -/
inductive Operation where
  | addRow
  | deleteRow (row : RowId)
  | chooseKind (row : RowId) (choice : Choice SourceKind)
  | chooseSource (row : RowId) (choice : Choice String)
  | enterDate (row : RowId) (text : String)
  | useLatestDate (row : RowId)
  | setDateKind (row : RowId) (kind : Option DateKind)
  | learnKeys (keys : List String)
  | takeTickets
  | takeEvents
  | handle (action : Action)
  /-- The ticket may be one that was never issued. -/
  | deliver (ticket : Ticket) (result : Except BackendError (List String))

namespace Menu

def perform (menu : Menu) : Operation → Menu
  | .addRow => menu.addRow.2
  | .deleteRow row => (menu.deleteRow row).menu
  | .chooseKind row choice => (menu.chooseKind row choice).menu
  | .chooseSource row choice => (menu.chooseSource row choice).menu
  | .enterDate row text => (menu.enterDate row text).menu
  | .useLatestDate row => (menu.useLatestDate row).menu
  | .setDateKind row kind => (menu.setDateKind row kind).menu
  | .learnKeys keys => menu.learnKeys keys
  | .takeTickets => menu.takeTickets.2
  | .takeEvents => menu.takeEvents.2
  | .handle action => (menu.handle action).menu
  | .deliver ticket result => (menu.deliver ticket result).2

def run (menu : Menu) (operations : List Operation) : Menu :=
  operations.foldl perform menu

theorem run_append (menu : Menu) (first second : List Operation) :
    menu.run (first ++ second) = (menu.run first).run second :=
  List.foldl_append

theorem start_coherent (labels : DataSourceLabels) : (start labels).Coherent where
  ordered := Rows.start_ordered _
  populated := Nat.one_pos
  valid row only := by
    obtain rfl := List.mem_singleton.mp only
    exact RowView.blank_valid labels
  entries := rfl

inductive Deed (menu next : Menu) : Prop where
  | aside (rows : next.rows = menu.rows) (entries : next.entries = menu.entries)
      (labels : next.labels = menu.labels)
      (tickets : next.tickets = menu.tickets ∨ next.tickets = [])
  | added (same : next = menu.addRow.2)
  | turned (keys : Option (List String)) (row : RowId) (act : RowView → Turn)
      (sound : ∀ view, view.Valid menu.labels → (act view).Sound menu.labels row view)
      (same : next = ({ menu with knownKeys := keys }.turn row act).menu)
  | removed (row : RowId) (position : Nat) (view : RowView) (rest : Rows RowView)
      (several : menu.rows.size ≠ 1)
      (gone : menu.rows.remove? row = some (position, view, rest))
      (same : next = { menu with
        rows := rest
        entries := menu.entriesOf rest
        events := menu.events ++ [.rowsRepositioned] })

namespace Coherent

variable {menu next : Menu} (coherent : menu.Coherent)
include coherent

theorem deed_deleteRow (row : RowId) : menu.Deed (menu.deleteRow row).menu := by
  by_cases single : menu.rows.size = 1
  · rw [coherent.deleteRow_eq_of_single single]
    exact .turned menu.knownKeys row _
      (fun view _ => RowView.Valid.startOver_sound view menu.labels row) rfl
  · rw [coherent.deleteRow_eq_of_several single]
    cases gone : menu.rows.remove? row with
    | none => exact .aside rfl rfl rfl (.inl rfl)
    | some rest =>
        obtain ⟨position, view, rows⟩ := rest
        exact .removed row position view rows single gone rfl

theorem deed_chooseKind (row : RowId) (choice : Choice SourceKind) :
    menu.Deed (menu.chooseKind row choice).menu := by
  rw [coherent.chooseKind_eq]
  exact .turned menu.knownKeys row _
    (fun _ valid => valid.chooseKind_sound menu.knownKeys row choice) rfl

theorem deed_chooseSource (row : RowId) (choice : Choice String) :
    menu.Deed (menu.chooseSource row choice).menu := by
  rw [coherent.chooseSource_eq]
  exact .turned menu.knownKeys row _ (fun _ valid => valid.chooseSource_sound row choice) rfl

theorem deed_enterDate (row : RowId) (text : String) :
    menu.Deed (menu.enterDate row text).menu := by
  rw [coherent.enterDate_eq]
  exact .turned menu.knownKeys row _ (fun _ valid => valid.enterDate_sound row text) rfl

theorem deed_useLatestDate (row : RowId) : menu.Deed (menu.useLatestDate row).menu := by
  rw [coherent.useLatestDate_eq]
  exact .turned menu.knownKeys row _ (fun _ valid => valid.useLatestDate_sound row) rfl

theorem deed_handle (action : Action) : menu.Deed (menu.handle action).menu := by
  cases action with
  | toggle => exact .aside rfl rfl rfl (.inl rfl)
  | addRow => exact .added rfl
  | deleteRow row => exact coherent.deed_deleteRow row
  | chooseKind row text =>
      simp only [Menu.handle]
      split
      · exact coherent.deed_chooseKind row _
      · exact .aside rfl rfl rfl (.inl rfl)
  | chooseSource row text => exact coherent.deed_chooseSource row _
  | enterDate row text => exact coherent.deed_enterDate row text
  | useLatestDate row => exact coherent.deed_useLatestDate row

theorem deed_deliver (ticket : Ticket) (result : Except BackendError (List String)) :
    menu.Deed (menu.deliver ticket result).2 := by
  cases result with
  | error error => exact .aside rfl rfl rfl (.inl rfl)
  | ok options =>
      rw [coherent.deliver_menu]
      have sound : ∀ view : RowView, view.Valid menu.labels →
          (view.receive menu.labels ticket options).Sound menu.labels ticket.row view :=
        fun view _ => RowView.Valid.receive_sound view menu.labels ticket.row ticket options
      -- the keys are learned whether or not the row still waits for them
      split
      · exact .turned (some options) ticket.row _ sound rfl
      · exact .turned menu.knownKeys ticket.row _ sound rfl

theorem deed (operation : Operation) : menu.Deed (menu.perform operation) := by
  cases operation with
  | addRow => exact .added rfl
  | deleteRow row => exact coherent.deed_deleteRow row
  | chooseKind row choice => exact coherent.deed_chooseKind row choice
  | chooseSource row choice => exact coherent.deed_chooseSource row choice
  | enterDate row text => exact coherent.deed_enterDate row text
  | useLatestDate row => exact coherent.deed_useLatestDate row
  | setDateKind row kind =>
      rw [Menu.perform, (coherent.setDateKind_eq row kind).1]
      exact .turned menu.knownKeys row _ (fun _ valid => valid.setDateKind_sound row kind) rfl
  | learnKeys keys => exact .aside rfl rfl rfl (.inl rfl)
  | takeTickets => exact .aside rfl rfl rfl (.inr rfl)
  | takeEvents => exact .aside rfl rfl rfl (.inl rfl)
  | handle action => exact coherent.deed_handle action
  | deliver ticket result => exact coherent.deed_deliver ticket result

theorem of_same (rows : next.rows = menu.rows) (entries : next.entries = menu.entries)
    (labels : next.labels = menu.labels) : next.Coherent where
  ordered := rows ▸ coherent.ordered
  populated := rows ▸ coherent.populated
  valid := by
    rw [rows, labels]
    exact coherent.valid
  entries := by
    rw [entries, coherent.entries, entriesOf, entriesOf, rows, labels]

theorem addRow : menu.addRow.2.Coherent where
  ordered := coherent.ordered.push _
  populated := by simp [Menu.addRow, Rows.push, Rows.size]
  valid row member := by
    simp only [Menu.addRow, Rows.push, List.mem_append, List.mem_singleton] at member
    rcases member with old | rfl
    · exact coherent.valid row old
    · exact RowView.blank_valid menu.labels
  entries := by
    have empty : (RowView.blank menu.labels.customLabel).holding menu.labels = none :=
      RowView.holding_of_source rfl
    have pushed := Entries.ofRows_push (RowView.holding menu.labels) empty menu.rows
    exact coherent.entries.trans pushed.symm

theorem perform (operation : Operation) : (menu.perform operation).Coherent := by
  cases coherent.deed operation with
  | aside rows entries labels => exact coherent.of_same rows entries labels
  | added same =>
      rw [same]
      exact coherent.addRow
  | turned keys row act sound same =>
      rw [same]
      have found : ({ menu with knownKeys := keys } : Menu).Coherent :=
        coherent.of_same rfl rfl rfl
      exact found.turn fun view valid => (sound view valid).valid
  | removed row position view rest several gone same =>
      rw [same]
      have fewer := Rows.size_remove gone
      have populated := coherent.populated
      refine ⟨coherent.ordered.remove gone, ?_, fun other member => ?_, rfl⟩
      · show 0 < rest.size
        omega
      · obtain ⟨-, rfl⟩ := Rows.remove?_eq_some gone
        exact coherent.valid other (List.mem_of_mem_eraseIdx member)

theorem run (operations : List Operation) : (menu.run operations).Coherent := by
  induction operations generalizing menu with
  | nil => exact coherent
  | cons operation rest ih => exact ih (coherent.perform operation)

end Coherent

theorem run_start_coherent (labels : DataSourceLabels) (operations : List Operation) :
    ((start labels).run operations).Coherent :=
  (start_coherent labels).run operations

/-- What the entry list and the awaited fetch of a row have to do with what it shows. -/
structure Tallies (menu : Menu) (position : Nat) (view : RowView) : Prop where
  offered : ∀ kind, view.offered = some kind → view.kind = some kind
  unoffered : view.offered = none → view.options = []
  entry : (menu.entries.find? position).isSome ↔ ∃ source, view.source = .value source
  enabled : view.controls.enabled = true ↔ ∃ source, view.source = .value source
  chosen : ∀ entry, menu.entries.find? position = some entry →
    view.offered = some entry.payload.kind ∧ view.source = .value entry.payload.source ∧
      entry.payload.source ∈ view.options
  awaited : view.pending.isSome ↔ view.kind.isSome ∧ view.offered = none
  generation : ∀ generation, view.pending = some generation → generation = view.generation

theorem Coherent.tallies {menu : Menu} (coherent : menu.Coherent) {position : Nat}
    {row : Row RowView} (shown : menu.rows.rows[position]? = some row) :
    menu.Tallies position row.state := by
  have located := Rows.lookup?_of_getElem? coherent.ordered shown
  have valid := coherent.valid row (List.mem_of_getElem? shown)
  have entry : menu.entries.find? position =
      (row.state.holding menu.labels).map (Entry.mk position) := by
    rw [coherent.entries]
    exact Entries.find?_ofRows _ located
  have hasValue : row.state.source.toOption.isSome ↔ ∃ source, row.state.source = .value source := by
    cases row.state.source <;> simp [Choice.toOption]
  refine ⟨valid.offered, fun missing => (valid.unoffered missing).1, ?_, ?_, ?_, ?_, ?_⟩
  · rw [entry, Option.isSome_map, valid.holding_isSome, hasValue]
  · rw [valid.enabled, hasValue]
  · intro found same
    rw [entry, Option.map_eq_some_iff] at same
    obtain ⟨held, holds, rfl⟩ := same
    obtain ⟨offered, value, -⟩ := RowView.holding_eq_some holds
    exact ⟨offered, value, valid.chosen _ value⟩
  · rw [valid.pending]
    split <;> simp_all
  · intro generation pending
    rw [valid.pending] at pending
    split at pending
    · exact (Option.some.inj pending).symm
    · cases pending

/-- In every state of every run there is a row; each row tallies with its entry and its
awaited fetch; and the entries stand in order, each on a row. -/
theorem run_start_tallies (labels : DataSourceLabels) (operations : List Operation) :
    let menu := (start labels).run operations
    0 < menu.rows.size ∧
      (∀ position row, menu.rows.rows[position]? = some row →
        menu.Tallies position row.state) ∧
      menu.entries.Ascending ∧ menu.entries.FitsRows menu.rows.size := by
  intro menu
  have coherent : menu.Coherent := run_start_coherent labels operations
  refine ⟨coherent.populated, fun position row => coherent.tallies, ?_, ?_⟩
  · rw [coherent.entries]
    exact Entries.ofSlots_ascending _
  · rw [coherent.entries]
    exact Entries.ofRows_fitsRows _ menu.rows

end Menu

end QueryMenu.DataSource
