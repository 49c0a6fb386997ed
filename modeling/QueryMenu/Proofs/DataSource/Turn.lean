import QueryMenu.Proofs.DataSource.Row
import QueryMenu.Proofs.Entries.OfRows

namespace QueryMenu.DataSource

/-! Operations on the data-source menu as turns of single rows.

In a coherent menu the entries are those of the rows.  There each operation addressed
to a row is a turn of that row, which the entries follow, and a turn keeps the menu
coherent.  Only the deletion of one row among several is no turn: the row goes, and
the entries are again those of the rows that are left.
-/

namespace Menu

def entriesOf (menu : Menu) (rows : Rows RowView) : Entries DataSource :=
  .ofRows (RowView.holding menu.labels) rows

/-- The ticket's row is on screen and waits for its fetch. -/
def Awaits (menu : Menu) (ticket : Ticket) : Prop :=
  ∃ view, menu.rows.get? ticket.row = some view ∧ view.Awaits ticket

/-- A row shows something else, and its entry follows. -/
def accept (menu : Menu) (row : RowId) (view : RowView) (tickets : List Ticket)
    (events : List Event) : Menu :=
  { menu with
    rows := menu.rows.set row view
    entries := menu.entriesOf (menu.rows.set row view)
    tickets := menu.tickets ++ tickets
    events := menu.events ++ events }

/-- An operation that looks at one row alone. -/
def turn (menu : Menu) (row : RowId) (act : RowView → Turn) : Reply Menu Response :=
  match menu.rows.get? row with
  | none => .refused menu (.unknownRow row)
  | some view =>
    match act view with
    | .refuse error => .refused menu error
    | .ignore => .unhandled menu
    | .accept view tickets events => .consumed (menu.accept row view tickets events)

/-- Rows are in order, none contradicts itself, and the entries are theirs. -/
structure Coherent (menu : Menu) : Prop where
  ordered : menu.rows.Ordered
  populated : 0 < menu.rows.size
  valid : ∀ row ∈ menu.rows.rows, row.state.Valid menu.labels
  entries : menu.entries = menu.entriesOf menu.rows

variable {menu : Menu} {row : RowId} {position : Nat} {view : RowView}

theorem turn_missing {act : RowView → Turn} (missing : menu.rows.get? row = none) :
    menu.turn row act = .refused menu (.unknownRow row) := by
  simp only [turn, missing]

theorem turn_accepted {act : RowView → Turn} {view fresh : RowView} {tickets : List Ticket}
    {events : List Event} (found : menu.rows.get? row = some view)
    (acted : act view = .accept fresh tickets events) :
    menu.turn row act = .consumed (menu.accept row fresh tickets events) := by
  simp only [turn, found, acted]

theorem beginKind_announce (menu : Menu) (row : RowId) (view : RowView) (kind : SourceKind)
    (event : Event) :
    (menu.beginKind row (if view.offered.isSome then view.unfill menu.labels.customLabel else view)
      kind).announce event =
      { menu with
        rows := menu.rows.set row (view.ask menu.labels menu.knownKeys kind)
        tickets := menu.tickets ++ view.asked menu.knownKeys row kind
        events := menu.events ++ [event] } := by
  have counted : (if view.offered.isSome then view.unfill menu.labels.customLabel
      else view).generation = view.generation := view.generation_bared menu.labels
  unfold beginKind RowView.ask RowView.asked RowView.bared
  cases kind <;> cases menu.knownKeys <;> simp [announce, RowView.renew, counted]

theorem get?_turn (menu : Menu) (row other : RowId) (act : RowView → Turn) :
    (menu.turn row act).menu.rows.get? other =
      (menu.rows.get? other).map fun view =>
        if other = row then (act view).result view else view := by
  unfold turn
  cases found : menu.rows.get? row with
  | none =>
      by_cases same : other = row
      · simp [Reply.refused, same, found]
      · simp [Reply.refused, same]
  | some view =>
      obtain ⟨position, located⟩ := Rows.exists_lookup? found
      by_cases same : other = row
      · subst same
        cases acted : act view <;>
          simp [found, acted, Turn.result, Reply.refused, Reply.unhandled, Reply.consumed, accept,
            Rows.get?_set_self located]
      · cases acted : act view <;>
          simp [acted, same, Reply.refused, Reply.unhandled, Reply.consumed, accept,
            Rows.get?_set_other same]

theorem tickets_turn (menu : Menu) (row : RowId) (act : RowView → Turn) :
    (menu.turn row act).menu.tickets =
      menu.tickets ++ ((menu.rows.get? row).map fun view => (act view).tickets).getD [] := by
  unfold turn
  cases menu.rows.get? row with
  | none => simp [Reply.refused]
  | some view =>
      cases acted : act view <;>
        simp [acted, Turn.tickets, Reply.refused, Reply.unhandled, Reply.consumed, accept]

theorem issued_turn (menu : Menu) (row : RowId) (act : RowView → Turn) :
    (menu.turn row act).menu.rows.issued = menu.rows.issued := by
  unfold turn
  cases menu.rows.get? row with
  | none => rfl
  | some view =>
      simp only
      cases act view <;> rfl

/-- A delivery fills a row in exactly if it succeeded and the row waits for it. -/
theorem deliver_fills (menu : Menu) (ticket : Ticket)
    (result : Except BackendError (List String)) :
    (menu.deliver ticket result).1 = true ↔
      (∃ options, result = .ok options) ∧ menu.Awaits ticket := by
  cases result with
  | error error => simp [deliver]
  | ok options =>
      have rows : (if ticket.kind = .historical then menu.learnKeys options else menu).rows =
          menu.rows := by
        split <;> rfl
      simp only [deliver, rows, Awaits]
      cases found : menu.rows.get? ticket.row with
      | none => simp
      | some view =>
          by_cases awaits : view.pending = some ticket.generation ∧ view.kind = some ticket.kind
          · simp [awaits, RowView.Awaits]
          · simp [awaits, RowView.Awaits]

namespace Coherent

variable (coherent : menu.Coherent)
include coherent

theorem valid_of_get? (found : menu.rows.get? row = some view) : view.Valid menu.labels := by
  obtain ⟨position, located⟩ := Rows.exists_lookup? found
  exact coherent.valid _ (Rows.mem_of_lookup? located)

theorem accept {fresh : RowView} (found : menu.rows.get? row = some view)
    (valid : fresh.Valid menu.labels) (tickets : List Ticket) (events : List Event) :
    (menu.accept row fresh tickets events).Coherent where
  ordered := coherent.ordered.set row fresh
  populated := by
    simpa only [Menu.accept, Rows.size_set] using coherent.populated
  valid := by
    obtain ⟨position, located⟩ := Rows.exists_lookup? found
    intro other member
    simp only [Menu.accept, Rows.set_eq located] at member
    rcases List.mem_or_eq_of_mem_set member with old | rfl
    · exact coherent.valid other old
    · exact valid
  entries := rfl

theorem turn {act : RowView → Turn}
    (yields : ∀ view, view.Valid menu.labels → (act view).Yields (RowView.Valid menu.labels)) :
    (menu.turn row act).menu.Coherent := by
  cases found : menu.rows.get? row with
  | none =>
      simp only [Menu.turn, found]
      exact coherent
  | some view =>
      have accepted := yields view (coherent.valid_of_get? found)
      cases acted : act view with
      | refuse error =>
          simp only [Menu.turn, found, acted]
          exact coherent
      | ignore =>
          simp only [Menu.turn, found, acted]
          exact coherent
      | accept fresh tickets events =>
          rw [acted] at accepted
          simp only [Menu.turn, found, acted]
          exact coherent.accept found accepted tickets events

/-! Each operation is a turn. -/

theorem chooseKind_eq (row : RowId) (choice : Choice SourceKind) :
    menu.chooseKind row choice =
      menu.turn row fun view => view.chooseKind menu.labels menu.knownKeys row choice := by
  unfold Menu.chooseKind Menu.turn
  rw [Rows.get?_eq_lookup?]
  cases located : menu.rows.lookup? row with
  | none => rfl
  | some place =>
      obtain ⟨position, view⟩ := place
      cases choice with
      | placeholder =>
          have empty : (view.reset menu.labels.customLabel).holding menu.labels = none :=
            RowView.holding_of_source rfl
          have cleared := Entries.clear_ofRows (RowView.holding menu.labels) empty located
          simp only [Option.map_some, coherent.entries, entriesOf, cleared, Reply.ofEdit,
            RowView.chooseKind, RowView.startOver, Menu.accept, announce, List.append_nil]
      | value kind =>
          have empty : (view.ask menu.labels menu.knownKeys kind).holding menu.labels = none :=
            RowView.holding_ask ..
          simp only [Option.map_some, RowView.chooseKind]
          -- an entry is taken away only if options were shown; else there is none to take
          by_cases filled : view.offered.isSome
          · have cleared := Entries.clear_ofRows (RowView.holding menu.labels) empty located
            have begun := beginKind_announce { menu with
              entries := menu.entriesOf (menu.rows.set row (view.ask menu.labels menu.knownKeys kind)) }
              row view kind (.typeSelected row kind)
            simp only [if_pos filled] at begun
            simp only [if_pos filled, coherent.entries, entriesOf, cleared, Reply.ofEdit]
            exact congrArg Reply.consumed begun
          · have unfilled : view.holding menu.labels = none := by
              cases offered : view.offered with
              | none => simp [RowView.holding, offered]
              | some kind => simp [offered] at filled
            have same : menu.entriesOf (menu.rows.set row (view.ask menu.labels menu.knownKeys kind)) =
                menu.entries := by
              rw [coherent.entries]
              exact Entries.ofRows_set_same _ located (empty.trans unfilled.symm)
            have begun := beginKind_announce menu row view kind (.typeSelected row kind)
            simp only [if_neg filled] at begun ⊢
            rw [begun, Menu.accept, same]

theorem chooseSource_eq (row : RowId) (choice : Choice String) :
    menu.chooseSource row choice =
      menu.turn row fun view => view.chooseSource menu.labels row choice := by
  unfold Menu.chooseSource Menu.turn
  rw [Rows.get?_eq_lookup?]
  cases located : menu.rows.lookup? row with
  | none => rfl
  | some place =>
      obtain ⟨position, view⟩ := place
      simp only [Option.map_some, RowView.chooseSource]
      cases offered : view.offered with
      | none => rfl
      | some kind =>
          cases choice with
          | placeholder =>
              have empty : (view.withSource menu.labels .placeholder).holding menu.labels =
                  none :=
                RowView.holding_of_source rfl
              have cleared := Entries.clear_ofRows (RowView.holding menu.labels) empty located
              simp only [coherent.entries, entriesOf, cleared, Reply.ofEdit, Menu.accept,
                List.append_nil]
              rw [← offered]
              rfl
          | value source =>
              by_cases listed : view.options.contains source
              · have chosen : (view.withSource menu.labels (.value source)).holding menu.labels =
                    Slot.choose (view.holding menu.labels) (.value { kind, source }) := by
                  cases held : view.holding menu.labels <;>
                    simp [RowView.holding, RowView.withSource, offered, DateControls.withEnabled,
                      DateControls.toLatest, DateControls.date, Slot.choose, Payload.revise]
                have edited := Entries.choose_ofRows _ located chosen
                simp only [if_pos listed, coherent.entries, entriesOf, edited, Reply.ofEdit,
                  Menu.accept, announce, List.append_nil]
                rw [← offered]
                rfl
              · simp only [if_neg listed]

theorem enterDate_eq (row : RowId) (text : String) :
    menu.enterDate row text = menu.turn row fun view => view.enterDate menu.labels text := by
  unfold Menu.enterDate Menu.turn
  rw [Rows.get?_eq_lookup?]
  cases located : menu.rows.lookup? row with
  | none => rfl
  | some place =>
      obtain ⟨position, view⟩ := place
      have valid := coherent.valid_of_get? (Rows.get?_of_lookup? located)
      have entry : menu.entries.find? position =
          (view.holding menu.labels).map (Entry.mk position) := by
        rw [coherent.entries]
        exact Entries.find?_ofRows _ located
      simp only [Option.map_some, RowView.enterDate, entry]
      cases enabled : view.controls.enabled with
      | false => rfl
      | true =>
          obtain ⟨held, holds⟩ := Option.isSome_iff_exists.mp (valid.enabled_eq ▸ enabled)
          cases control : view.controls.kind with
          | none => rfl
          | some kind =>
              simp only [holds, Option.map_some]
              by_cases absent : text = ""
              · simp only [if_pos absent]
              · simp only [if_neg absent]
                cases read : readDate (Calendar.Date.parse menu.labels.dateFormat) kind text with
                | error error => rfl
                | ok date =>
                    obtain ⟨offered, value, -⟩ := RowView.holding_eq_some holds
                    have dated : ({ view with controls := view.controls.toCustom text } :
                        RowView).holding menu.labels =
                        (view.holding menu.labels).map fun held =>
                          { held with date := some date } := by
                      simp [RowView.holding, offered, value, DateControls.toCustom, control,
                        read, DateControls.date, Except.toOption]
                    have revised := Entries.revisePayload_ofRows _ located dated
                    simp only [coherent.entries, entriesOf, revised, Menu.accept, List.append_nil]

theorem useLatestDate_eq (row : RowId) :
    menu.useLatestDate row = menu.turn row fun view => view.useLatestDate menu.labels := by
  unfold Menu.useLatestDate Menu.turn
  rw [Rows.get?_eq_lookup?]
  cases located : menu.rows.lookup? row with
  | none => rfl
  | some place =>
      obtain ⟨position, view⟩ := place
      simp only [Option.map_some, RowView.useLatestDate]
      by_cases enabled : view.controls.enabled
      · have undated := RowView.holding_toLatest view menu.labels view.controls.kind
        have revised := Entries.revisePayload_ofRows _ located undated
        simp only [if_pos enabled, coherent.entries, entriesOf, clearDate, Menu.accept,
          List.append_nil]
        exact congrArg (fun entries => Reply.consumed { menu with
          rows := menu.rows.set row { view with
            controls := view.controls.toLatest menu.labels.customLabel }
          entries }) revised
      · simp only [if_neg enabled]

theorem setDateKind_eq (row : RowId) (kind : Option DateKind) :
    (menu.setDateKind row kind).menu =
      (menu.turn row fun view => view.setDateKind menu.labels kind).menu ∧
    (menu.setDateKind row kind).answer =
      (menu.turn row fun view => view.setDateKind menu.labels kind).answer.map fun _ => () := by
  unfold Menu.setDateKind Menu.turn
  rw [Rows.get?_eq_lookup?]
  cases located : menu.rows.lookup? row with
  | none => exact ⟨rfl, rfl⟩
  | some place =>
      obtain ⟨position, view⟩ := place
      simp only [Option.map_some, RowView.setDateKind]
      by_cases same : view.controls.kind = kind
      · have kept : menu.rows.set row view = menu.rows := by
          obtain ⟨onScreen, here⟩ :=
            List.getElem?_eq_some_iff.mp (Rows.getElem?_of_lookup? located)
          rw [Rows.set_eq located, ← here, List.set_getElem_self]
        simp only [if_pos same, Reply.consumed, Menu.accept, kept, ← coherent.entries,
          List.append_nil, Except.map, and_self]
      · have revised := Entries.revisePayload_ofRows _ located
          (RowView.holding_toLatest view menu.labels kind)
        simp only [if_neg same, coherent.entries, entriesOf, clearDate, revised, Menu.accept,
          List.append_nil, Reply.consumed, Except.map, and_self]

theorem learnKeys (keys : List String) : (menu.learnKeys keys).Coherent :=
  ⟨coherent.ordered, coherent.populated, coherent.valid, coherent.entries⟩

omit coherent in
theorem holding_of_awaits {ticket : Ticket} (valid : view.Valid menu.labels)
    (awaits : view.Awaits ticket) : view.offered = none := by
  have pending := valid.pending
  rw [awaits.1] at pending
  split at pending
  · rename_i bare
    exact bare.2
  · cases pending

theorem deliver_menu (ticket : Ticket) (options : List String) :
    (menu.deliver ticket (.ok options)).2 =
      ((if ticket.kind = .historical then menu.learnKeys options else menu).turn ticket.row
        fun view => view.receive menu.labels ticket options).menu := by
  unfold Menu.deliver
  simp only
  generalize learned : (if ticket.kind = .historical then menu.learnKeys options else menu) = next
  have labels : next.labels = menu.labels := by subst learned; split <;> rfl
  have nextCoherent : next.Coherent := by
    subst learned
    split
    · exact coherent.learnKeys options
    · exact coherent
  unfold Menu.turn
  cases found : next.rows.get? ticket.row with
  | none => rfl
  | some view =>
      simp only [RowView.receive]
      by_cases awaits : view.Awaits ticket
      · obtain ⟨position, located⟩ := Rows.exists_lookup? found
        have valid := nextCoherent.valid_of_get? found
        have unfilled : view.holding next.labels = none := by
          simp [RowView.holding, holding_of_awaits valid awaits]
        have same : next.entriesOf (next.rows.set ticket.row
            ({ view with pending := none }.fill ticket.kind options menu.labels.customLabel)) =
            next.entries := by
          rw [nextCoherent.entries]
          exact Entries.ofRows_set_same _ located
            ((RowView.holding_of_source rfl).trans unfilled.symm)
        have waits : view.pending = some ticket.generation ∧ view.kind = some ticket.kind := awaits
        simp only [if_pos awaits, if_pos waits, Reply.consumed, Menu.accept, same, labels,
          List.append_nil]
      · have idle : ¬ (view.pending = some ticket.generation ∧ view.kind = some ticket.kind) :=
          awaits
        rw [if_neg awaits, if_neg idle]
        rfl

theorem deleteRow_eq_of_single (single : menu.rows.size = 1) (row : RowId) :
    menu.deleteRow row = menu.turn row fun view => view.startOver menu.labels row := by
  unfold Menu.deleteRow Menu.turn
  rw [if_pos single]
  cases found : menu.rows.get? row with
  | none => rfl
  | some view =>
      obtain ⟨position, located⟩ := Rows.exists_lookup? found
      have empty : (view.reset menu.labels.customLabel).holding menu.labels = none :=
        RowView.holding_of_source rfl
      have emptied := Entries.deleteRow_ofRows_single (RowView.holding menu.labels) empty located
        single
      simp only [coherent.entries, entriesOf, emptied, Reply.ofEdit, RowView.startOver,
        Menu.accept, announce, List.append_nil]

theorem deleteRow_eq_of_several (several : menu.rows.size ≠ 1) (row : RowId) :
    menu.deleteRow row =
      match menu.rows.remove? row with
      | none => .refused menu (.unknownRow row)
      | some (_, _, rows) =>
        .consumed { menu with
          rows
          entries := menu.entriesOf rows
          events := menu.events ++ [.rowsRepositioned] } := by
  unfold Menu.deleteRow
  rw [if_neg several]
  cases removed : menu.rows.remove? row with
  | none => rfl
  | some rest =>
      obtain ⟨position, view, rows⟩ := rest
      have populated := coherent.populated
      have edited := Entries.deleteRow_ofRows (RowView.holding menu.labels) removed (by omega)
      have fits := Entries.ofRows_fitsRows (RowView.holding menu.labels) rows
      simp only [coherent.entries, entriesOf, edited, Edit.fitting, Reply.ofEdit, Except.bind,
        if_pos fits, announce]

end Coherent

end Menu

end QueryMenu.DataSource
