import Mathlib.Data.List.Induction
import QueryMenu.Proofs.DataSource.Renewal

namespace QueryMenu.DataSource

/-! What follows the deletion of the only row of a data-source menu.

The menu mirrors a new one, and every operation keeps it so.  Operations that name only
what is on screen or comes later stand for operations on the new menu: a ticket that is
issued from then on is one of the new menu under its other name.  Tickets from before the
deletion are spent with the row that it emptied.
-/

namespace Renewal

theorem exists_operation {renewal : Renewal} {operation : Operation}
    (named : ∀ row, operation.row? = some row →
      row = renewal.first ∨ renewal.issued ≤ row.number)
    (issued : ∀ ticket result, operation = .deliver ticket result →
      ∃ original, renewal.ticket original = ticket) :
    ∃ original, renewal.operation original = operation := by
  cases operation with
  | addRow => exact ⟨.addRow, rfl⟩
  | learnKeys keys => exact ⟨.learnKeys keys, rfl⟩
  | takeTickets => exact ⟨.takeTickets, rfl⟩
  | takeEvents => exact ⟨.takeEvents, rfl⟩
  | deliver ticket result =>
      obtain ⟨original, rfl⟩ := issued ticket result rfl
      exact ⟨.deliver original result, rfl⟩
  | deleteRow row =>
      obtain ⟨row, rfl⟩ := Renaming.exists_row (named row rfl)
      exact ⟨.deleteRow row, rfl⟩
  | chooseKind row choice =>
      obtain ⟨row, rfl⟩ := Renaming.exists_row (named row rfl)
      exact ⟨.chooseKind row choice, rfl⟩
  | chooseSource row choice =>
      obtain ⟨row, rfl⟩ := Renaming.exists_row (named row rfl)
      exact ⟨.chooseSource row choice, rfl⟩
  | enterDate row text =>
      obtain ⟨row, rfl⟩ := Renaming.exists_row (named row rfl)
      exact ⟨.enterDate row text, rfl⟩
  | useLatestDate row =>
      obtain ⟨row, rfl⟩ := Renaming.exists_row (named row rfl)
      exact ⟨.useLatestDate row, rfl⟩
  | setDateKind row kind =>
      obtain ⟨row, rfl⟩ := Renaming.exists_row (named row rfl)
      exact ⟨.setDateKind row kind, rfl⟩
  | handle action =>
      suffices ∃ original, renewal.action original = action by
        obtain ⟨original, rfl⟩ := this
        exact ⟨.handle original, rfl⟩
      cases action with
      | toggle => exact ⟨.toggle, rfl⟩
      | addRow => exact ⟨.addRow, rfl⟩
      | deleteRow row =>
          obtain ⟨row, rfl⟩ := Renaming.exists_row (named row rfl)
          exact ⟨.deleteRow row, rfl⟩
      | chooseKind row text =>
          obtain ⟨row, rfl⟩ := Renaming.exists_row (named row rfl)
          exact ⟨.chooseKind row text, rfl⟩
      | chooseSource row text =>
          obtain ⟨row, rfl⟩ := Renaming.exists_row (named row rfl)
          exact ⟨.chooseSource row text, rfl⟩
      | enterDate row text =>
          obtain ⟨row, rfl⟩ := Renaming.exists_row (named row rfl)
          exact ⟨.enterDate row text, rfl⟩
      | useLatestDate row =>
          obtain ⟨row, rfl⟩ := Renaming.exists_row (named row rfl)
          exact ⟨.useLatestDate row, rfl⟩

end Renewal

theorem Leftover.length_after (left : Leftover) (operation : Operation) :
    (left.after operation).tickets.length ≤ left.tickets.length := by
  cases operation with
  | takeTickets => exact Nat.zero_le _
  | _ => exact Nat.le_refl _

namespace Menu

/-- The menu shows under its ids, and with its generations of the first row, what the new
menu shows, and has queued the same behind what is left.  Their lifecycles are left aside. -/
structure Mirrors (renewal : Renewal) (left : Leftover) (fresh menu : Menu) : Prop where
  labels : menu.labels = fresh.labels
  rows : menu.rows = renewal.rows renewal.view fresh.rows
  knownKeys : menu.knownKeys = fresh.knownKeys
  tickets : menu.tickets = left.tickets ++ fresh.tickets.map renewal.ticket
  events : menu.events = left.events ++ fresh.events.map renewal.event

variable {renewal : Renewal} {left : Leftover} {fresh menu : Menu} {row : RowId} {view : RowView}

theorem leftover_after {operation : Operation} (addressed : operation.row? = some row)
    (left : Leftover) : left.after operation = left := by
  cases operation with
  | takeTickets | takeEvents => cases addressed
  | _ => rfl

namespace Mirrors

variable (mirrors : Mirrors renewal left fresh menu)
include mirrors

theorem get?_row (row : RowId) :
    menu.rows.get? (renewal.row row) =
      (fresh.rows.get? row).map (renewal.view row) := by
  rw [mirrors.rows]
  exact Renaming.get?_rows

theorem size_rows : menu.rows.size = fresh.rows.size := by
  rw [mirrors.rows]
  exact Renaming.size_rows

theorem entries (renewed : fresh.Coherent) (coherent : menu.Coherent) :
    menu.entries = fresh.entries := by
  rw [coherent.entries, renewed.entries, entriesOf, entriesOf, mirrors.labels, mirrors.rows]
  exact Renaming.ofRows_rows fun _ _ => rfl

theorem shows (renewed : fresh.Coherent) (coherent : menu.Coherent) :
    menu.entries = fresh.entries ∧ menu.query = fresh.query ∧ menu.render = fresh.render := by
  have entries := mirrors.entries renewed coherent
  refine ⟨entries, ?_, ?_⟩
  · rw [Menu.query, Menu.query, entries]
  · rw [Menu.render, Menu.render, mirrors.labels, entries]

theorem settle (row : RowId) (settlement : Settlement) :
    Mirrors renewal left (fresh.settle row settlement).menu
      (menu.settle (renewal.row row)
        (settlement.renew renewal (renewal.offset row))).menu where
  labels := mirrors.labels
  rows := by
    show menu.rows.replace _ _ = renewal.rows renewal.view (fresh.rows.replace row settlement.fate)
    rw [mirrors.rows]
    exact renewal.replace_rows _ fresh.rows row settlement.fate
  knownKeys := mirrors.knownKeys
  tickets := by
    simp [Menu.settle, mirrors.tickets, Settlement.renew]
  events := by
    simp [Menu.settle, mirrors.events, Settlement.renew]

theorem learn (keys : Option (List String)) :
    Mirrors renewal left { fresh with knownKeys := keys } { menu with knownKeys := keys } :=
  ⟨mirrors.labels, mirrors.rows, rfl, mirrors.tickets, mirrors.events⟩

theorem addRow (renewed : fresh.Coherent) :
    Mirrors renewal left fresh.addRow.2 menu.addRow.2 ∧
      menu.addRow.1 = renewal.row fresh.addRow.1 := by
  have begun := renewed.ordered.issued_pos renewed.populated
  have label : menu.labels.customLabel = fresh.labels.customLabel := by rw [mirrors.labels]
  have added : ∀ id : RowId, 0 < id.number →
      (RowView.blank fresh.labels.customLabel).aged (renewal.offset id) =
        .blank menu.labels.customLabel := by
    rintro ⟨_ | number⟩ later
    · cases later
    · rw [label]
      rfl
  have pushed := renewal.push_rows renewal.view begun added
  rw [← mirrors.rows] at pushed
  refine ⟨⟨mirrors.labels, ?_, mirrors.knownKeys, mirrors.tickets, mirrors.events⟩, ?_⟩
  · exact congrArg Prod.snd pushed
  · exact congrArg Prod.fst pushed

theorem perform (renewed : fresh.Coherent) (coherent : menu.Coherent) (operation : Operation) :
    Mirrors renewal (left.after operation) (fresh.perform operation)
        (menu.perform (renewal.operation operation)) ∧
      menu.answer (renewal.operation operation) =
        renewal.answer left (fresh.answer operation) := by
  cases addressed : operation.row? with
  | some row =>
      have addresses : (renewal.operation operation).row? = some (renewal.row row) := by
        rw [Operation.row?_renew, addressed]
        rfl
      obtain ⟨there, answered⟩ := renewed.perform_settled addressed
      obtain ⟨here, answers⟩ := coherent.perform_settled addresses
      have learned := mirrors.learn (operation.keysAfter fresh.knownKeys)
      have found := mirrors.get?_row row
      have acts : (renewal.operation operation).settlement menu.labels menu.knownKeys
            (menu.rows.size = 1) =
          (renewal.operation operation).settlement fresh.labels fresh.knownKeys
            (fresh.rows.size = 1) := by
        rw [mirrors.labels, mirrors.knownKeys, mirrors.size_rows]
      rw [acts] at here answers
      rw [Operation.keysAfter_renew, mirrors.knownKeys] at here
      rw [leftover_after addressed, here, there]
      cases shown : fresh.rows.get? row with
      | none =>
          rw [shown, Option.map_none] at found
          refine ⟨?_, ?_⟩
          · simp only [Menu.meet, found, shown]
            exact learned
          · rw [coherent.answer_missing addresses found, renewed.answer_missing addressed shown,
              mirrors.labels, Operation.refusal_renew, Operation.report_renew]
      | some view =>
          rw [shown, Option.map_some] at found
          refine ⟨?_, ?_⟩
          · simp only [Menu.meet, found, shown, Operation.settlement_renew addressed]
            exact learned.settle row _
          · rw [answers _ found, answered view shown, Operation.settlement_renew addressed]
            exact Operation.report_renew operation left _
  | none =>
      obtain ⟨added, id⟩ := mirrors.addRow renewed
      cases operation with
      | addRow => exact ⟨added, congrArg Answer.added id⟩
      | learnKeys keys => exact ⟨mirrors.learn (some keys), rfl⟩
      | takeTickets =>
          exact ⟨⟨mirrors.labels, mirrors.rows, mirrors.knownKeys, rfl, mirrors.events⟩,
            congrArg Answer.tickets mirrors.tickets⟩
      | takeEvents =>
          exact ⟨⟨mirrors.labels, mirrors.rows, mirrors.knownKeys, mirrors.tickets, rfl⟩,
            congrArg Answer.events mirrors.events⟩
      | handle action =>
          cases action with
          | toggle =>
              exact ⟨⟨mirrors.labels, mirrors.rows, mirrors.knownKeys, mirrors.tickets,
                mirrors.events⟩, rfl⟩
          | addRow => exact ⟨added, rfl⟩
          | _ => cases addressed
      | _ => cases addressed

theorem run (renewed : fresh.Coherent) (coherent : menu.Coherent) (operations : List Operation) :
    Mirrors renewal (left.afterAll operations) (fresh.run operations)
      (menu.run (operations.map renewal.operation)) := by
  induction operations generalizing fresh menu left with
  | nil => exact mirrors
  | cons operation rest ih =>
      exact ih (mirrors.perform renewed coherent operation).1 (renewed.perform operation)
        (coherent.perform _)

theorem alike (renewed : fresh.Coherent) (coherent : menu.Coherent)
    (operations : List Operation) :
    let rest := left.afterAll operations
    let there := fresh.run operations
    let here := menu.run (operations.map renewal.operation)
    Mirrors renewal rest there here ∧ here.entries = there.entries ∧ here.query = there.query ∧
      here.render = there.render ∧
      ∀ operation : Operation,
        here.answer (renewal.operation operation) =
          renewal.answer rest (there.answer operation) := by
  have still := mirrors.run renewed coherent operations
  have old := renewed.run operations
  have new := coherent.run (operations.map renewal.operation)
  obtain ⟨entries, query, render⟩ := still.shows old new
  exact ⟨still, entries, query, render, fun operation => (still.perform old new operation).2⟩

/-- A ticket that is issued under the ids of the menu stands for one of the new menu. -/
theorem exists_ticket_of_issues (renewed : fresh.Coherent) (coherent : menu.Coherent)
    {operation : Operation} {ticket : Ticket}
    (issues : menu.Issues (renewal.operation operation) ticket) :
    ∃ original, renewal.ticket original = ticket := by
  have queued := (mirrors.perform renewed coherent operation).1.tickets
  rw [issues, mirrors.tickets] at queued
  have shorter := left.length_after operation
  have lengths := congrArg List.length queued
  simp only [List.length_append, List.length_map, List.length_singleton] at lengths
  -- what is left does not grow, so the ticket is one that the new menu has issued just now
  cases renewed.queueStep operation with
  | kept same =>
      rw [same] at lengths
      omega
  | taken empty =>
      rw [empty, List.length_nil] at lengths
      omega
  | issued original one awaited =>
      rw [one, List.map_append, ← List.append_assoc] at queued
      exact ⟨original, (List.singleton_inj.mp (List.append_inj_right' queued rfl)).symm⟩

theorem exists_ticket_of_history (renewed : fresh.Coherent) (coherent : menu.Coherent)
    (operations : List Operation) {ticket : Ticket} :
    ∀ step ∈ menu.history (operations.map renewal.operation), step.1.Issues step.2 ticket →
      ∃ original, renewal.ticket original = ticket := by
  induction operations generalizing fresh menu left with
  | nil => simp [history]
  | cons operation rest ih =>
      rw [List.map_cons, history, List.forall_mem_cons]
      exact ⟨mirrors.exists_ticket_of_issues renewed coherent,
        ih (mirrors.perform renewed coherent operation).1 (renewed.perform operation)
          (coherent.perform _)⟩

end Mirrors

theorem Past.of_rows {ticket : Ticket} {next : Menu} (past : menu.Past ticket)
    (same : next.rows = menu.rows) : next.Past ticket := by
  have fetches : next.fetch? ticket.row = menu.fetch? ticket.row := by rw [fetch?, fetch?, same]
  rcases past with ⟨view, shown, waits⟩ | spent
  · exact .inl ⟨view, same ▸ shown, waits⟩
  · exact .inr ⟨same ▸ spent.issued, fetches ▸ spent.passed⟩

/-- The operations name the row, rows added from now on and tickets issued from now on. -/
def NamesNew (menu : Menu) (row : RowId) (operations : List Operation) : Prop :=
  ∀ before operation after, operations = before ++ operation :: after →
    (∀ named, operation.row? = some named → named = row ∨ menu.rows.issued ≤ named.number) ∧
    ∀ ticket result, operation = .deliver ticket result →
      ∃ step ∈ menu.history before, step.1.Issues step.2 ticket

theorem Mirrors.exists_operations (mirrors : Mirrors renewal left fresh menu)
    (renewed : fresh.Coherent) (coherent : menu.Coherent)
    (issued : menu.rows.issued = renewal.issued) {operations : List Operation}
    (new : menu.NamesNew renewal.first operations) :
    ∃ originals : List Operation, originals.map renewal.operation = operations := by
  -- from the right, because a ticket is accounted for by the operations before its delivery
  induction operations using List.reverseRecOn with
  | nil => exact ⟨[], rfl⟩
  | append_singleton early operation ih =>
      have newBefore : menu.NamesNew renewal.first early := fun before other after same =>
        new before other (after ++ [operation]) (by rw [same]; simp)
      obtain ⟨originals, rfl⟩ := ih newBefore
      obtain ⟨named, delivered⟩ := new _ operation [] rfl
      rw [issued] at named
      obtain ⟨original, rfl⟩ := Renewal.exists_operation named fun ticket result same =>
        let ⟨step, member, issues⟩ := delivered ticket result same
        mirrors.exists_ticket_of_history renewed coherent originals step member issues
      exact ⟨originals ++ [original], by simp⟩

namespace Coherent

variable (coherent : menu.Coherent)
include coherent

theorem mirrors_deleteRow (only : menu.rows.rows = [⟨row, view⟩])
    (below : row.number < menu.rows.issued) :
    let reset := menu.perform (.deleteRow row)
    Mirrors ⟨⟨row, menu.rows.issued, below⟩, view.generation + 1⟩ ⟨reset.tickets, reset.events⟩
      { start menu.labels with knownKeys := menu.knownKeys } reset := by
  have single : menu.rows.size = 1 := by rw [Rows.size, only]; rfl
  have shown : menu.rows.get? row = some view := by simp [Rows.get?, only]
  have addressed : (Operation.deleteRow row).row? = some row := rfl
  have performed := (coherent.perform_shown addressed id shown).1
  let renewal : Renewal := ⟨⟨row, menu.rows.issued, below⟩, view.generation + 1⟩
  have rows : (menu.perform (.deleteRow row)).rows =
      renewal.rows renewal.view (start menu.labels).rows := by
    rw [performed]
    simp [Menu.settle, Operation.settlement, Settlement.ofDeletion, Settlement.ofTurn,
      RowView.startOver, single, Rows.replace, only, Row.replaced, renewal, Renewal.view, Renaming.rows,
      start, Rows.start, Rows.push, Renaming.row, RowView.reset, RowView.renew, RowView.unfill,
      RowView.aged, RowView.blank, Renewal.offset]
  have labels : (menu.perform (.deleteRow row)).labels = menu.labels := by rw [performed]; rfl
  have keys : (menu.perform (.deleteRow row)).knownKeys = menu.knownKeys := by rw [performed]; rfl
  exact ⟨labels, rows, keys, (List.append_nil _).symm, (List.append_nil _).symm⟩

/-! Tickets from before. -/

theorem past_run {ticket : Ticket} (past : menu.Past ticket) (operations : List Operation) :
    (menu.run operations).Past ticket := by
  induction operations generalizing menu with
  | nil => exact past
  | cons operation rest ih =>
      exact ih (coherent.perform operation) (coherent.past_perform past operation)

theorem past_of_issued {ticket : Ticket} (operations : List Operation) :
    ∀ step ∈ menu.history operations, step.1.Issues step.2 ticket →
      (menu.run operations).Past ticket := by
  induction operations generalizing menu with
  | nil => simp [history]
  | cons operation rest ih =>
      have next := coherent.perform operation
      rw [history, List.forall_mem_cons]
      exact ⟨fun issues => next.past_run (.inl (coherent.awaits_of_issues issues)) rest, ih next⟩

theorem spent_deleteRow (only : menu.rows.rows = [⟨row, view⟩]) {ticket : Ticket}
    (past : menu.Past ticket) : (menu.perform (.deleteRow row)).Spent ticket := by
  rcases past with awaits | spent
  · -- a ticket that is still awaited is one of the row that is emptied
    refine coherent.spent_of_ended awaits fun spares => ?_
    obtain ⟨awaiting, shown, -⟩ := id awaits
    have own : row = ticket.row := by
      have member := Rows.mem_ids_of_get? shown
      rw [Rows.ids, only] at member
      exact (List.mem_singleton.mp member).symm
    exact (coherent.spares_iff awaits _).mp spares own
  · exact coherent.spent_perform spent _

theorem deliver_of_spent {ticket : Ticket} (spent : menu.Spent ticket)
    (result : Except BackendError (List String)) :
    (menu.deliver ticket result).1 = false ∧ (menu.deliver ticket result).2.rows = menu.rows := by
  have unfilled : (menu.deliver ticket result).1 = false := by
    rw [Bool.eq_false_iff, ne_eq, deliver_fills]
    exact fun fills => coherent.not_awaits_of_spent spent fills.2
  refine ⟨unfilled, ?_⟩
  rw [menu.deliver_false ticket result unfilled]
  cases result with
  | error error => rfl
  | ok options =>
      simp only
      split <;> rfl

end Coherent

end Menu

end QueryMenu.DataSource
