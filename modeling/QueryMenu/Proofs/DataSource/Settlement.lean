import QueryMenu.Proofs.DataSource.Reachable
import QueryMenu.Proofs.Entries.Frame

namespace QueryMenu.DataSource

/-! What an operation addressed to a row comes to.

Besides the row itself, what becomes of it depends on the resolver keys that are known
when a kind is chosen, and on whether it is the only row when it is deleted.  The rest of
the menu is as it was, the entries follow the rows, and what is asked for and announced
goes to the ends of the queues.  So an operation leaves the other rows alone, and two
operations on different rows come to the same in either order, but for the order of what
they queue, as long as neither brings new resolver keys.
-/

inductive Answer where
  | added (row : RowId)
  | replied (answer : Except MenuError Response)
  | changed (answer : Except MenuError Unit)
  | filled (filled : Bool)
  | tickets (taken : List Ticket)
  | events (taken : List Event)
  | learned

/-- What becomes of a row, and what else comes of the operation; a row without a fate goes. -/
structure Settlement where
  fate : Option RowView
  answer : Except MenuError Response
  tickets : List Ticket := []
  events : List Event := []

namespace Settlement

def ofTurn (view : RowView) : Turn → Settlement
  | .refuse error => { fate := some view, answer := .error error }
  | .ignore => { fate := some view, answer := .ok .unhandled }
  | .accept fresh tickets events => ⟨some fresh, .ok .consumed, tickets, events⟩

def ofDeletion (texts : DateTexts) (single : Bool) (row : RowId) (view : RowView) :
    Settlement :=
  if single then ofTurn view (view.startOver texts row)
  else { fate := none, answer := .ok .consumed, events := [.rowsRepositioned] }

theorem fate_ofTurn (view : RowView) (turn : Turn) : (ofTurn view turn).fate ≠ none := by
  cases turn <;> simp [ofTurn]

end Settlement

namespace Action

def row? : Action → Option RowId
  | .toggle | .addRow => none
  | .deleteRow row | .chooseKind row _ | .chooseSource row _ | .enterDate row _
  | .useLatestDate row => some row

def settlement (labels : DataSourceLabels) (keys : Option (List String)) (single : Bool) :
    Action → RowView → Settlement
  | .deleteRow row, view => .ofDeletion labels single row view
  | .chooseKind row text, view =>
    match (Menu.start labels).readKind text with
    | some choice => .ofTurn view (view.chooseKind labels keys row choice)
    | none => .ofTurn view .ignore
  | .chooseSource row text, view =>
    .ofTurn view (view.chooseSource labels row (.ofControl text labels.sourcePlaceholder))
  | .enterDate _ text, view => .ofTurn view (view.enterDate labels text)
  | .useLatestDate _, view => .ofTurn view (view.useLatestDate labels)
  | .toggle, view | .addRow, view => .ofTurn view .ignore

end Action

namespace Operation

def row? : Operation → Option RowId
  | .deleteRow row | .chooseKind row _ | .chooseSource row _ | .enterDate row _
  | .useLatestDate row | .setDateKind row _ => some row
  | .deliver ticket _ => some ticket.row
  | .handle action => action.row?
  | .addRow | .learnKeys _ | .takeTickets | .takeEvents => none

def Deletes : Operation → Prop
  | .deleteRow _ | .handle (.deleteRow _) => True
  | _ => False

def Adds : Operation → Prop
  | .addRow | .handle .addRow => True
  | _ => False

/-- The operation delivers a result for a historical source, which may be resolver keys. -/
def DeliversKeys : Operation → Prop
  | .deliver ticket _ => ticket.kind = .historical
  | _ => False

/-- The resolver keys that are known after the operation. -/
def keysAfter (keys : Option (List String)) : Operation → Option (List String)
  | .learnKeys learned => some learned
  | .deliver ticket (.ok options) => if ticket.kind = .historical then some options else keys
  | _ => keys

/-- How the operation words its answer. -/
def report (answer : Except MenuError Response) : Operation → Answer
  | .setDateKind _ _ => .changed (answer.map fun _ => ())
  | .deliver _ _ =>
    match answer with
    | .ok .consumed => .filled true
    | _ => .filled false
  | _ => .replied answer

def settlement (labels : DataSourceLabels) (keys : Option (List String)) (single : Bool) :
    Operation → RowView → Settlement
  | .deleteRow row, view => .ofDeletion labels single row view
  | .chooseKind row choice, view => .ofTurn view (view.chooseKind labels keys row choice)
  | .chooseSource row choice, view => .ofTurn view (view.chooseSource labels row choice)
  | .enterDate _ text, view => .ofTurn view (view.enterDate labels text)
  | .useLatestDate _, view => .ofTurn view (view.useLatestDate labels)
  | .setDateKind _ kind, view => .ofTurn view (view.setDateKind labels kind)
  | .deliver ticket (.ok options), view => .ofTurn view (view.receive labels ticket options)
  | .handle action, view => action.settlement labels keys single view
  | _, view => .ofTurn view .ignore

variable {labels : DataSourceLabels} {keys : Option (List String)} {single : Bool}
  {operation : Operation}

theorem deletes_of_fate {view : RowView}
    (gone : (operation.settlement labels keys single view).fate = none) : operation.Deletes := by
  cases operation with
  | deleteRow row => trivial
  | deliver ticket result => cases result <;> exact absurd gone (Settlement.fate_ofTurn view _)
  | handle action =>
      cases action with
      | deleteRow row => trivial
      | chooseKind row text =>
          simp only [settlement, Action.settlement] at gone
          split at gone <;> exact absurd gone (Settlement.fate_ofTurn view _)
      | _ => exact absurd gone (Settlement.fate_ofTurn view _)
  | _ => exact absurd gone (Settlement.fate_ofTurn view _)

/-- Only a deletion depends on whether the row is alone. -/
theorem settlement_of_not_deletes (keeps : ¬ operation.Deletes) (one other : Bool) :
    operation.settlement labels keys one = operation.settlement labels keys other := by
  cases operation with
  | deleteRow row => exact absurd trivial keeps
  | handle action =>
      cases action with
      | deleteRow row => exact absurd trivial keeps
      | _ => rfl
  | deliver ticket result => cases result <;> rfl
  | _ => rfl

theorem keysAfter_of_not_deliversKeys {row : RowId} (addressed : operation.row? = some row)
    (settled : ¬ operation.DeliversKeys) : operation.keysAfter keys = keys := by
  cases operation with
  | learnKeys learned => cases addressed
  | deliver ticket result =>
      cases result with
      | error error => rfl
      | ok options => exact if_neg settled
  | _ => rfl

end Operation

namespace Menu

def answer (menu : Menu) : Operation → Answer
  | .addRow => .added menu.addRow.1
  | .deleteRow row => .replied (menu.deleteRow row).answer
  | .chooseKind row choice => .replied (menu.chooseKind row choice).answer
  | .chooseSource row choice => .replied (menu.chooseSource row choice).answer
  | .enterDate row text => .replied (menu.enterDate row text).answer
  | .useLatestDate row => .replied (menu.useLatestDate row).answer
  | .setDateKind row kind => .changed (menu.setDateKind row kind).answer
  | .learnKeys _ => .learned
  | .takeTickets => .tickets menu.takeTickets.1
  | .takeEvents => .events menu.takeEvents.1
  | .handle action => .replied (menu.handle action).answer
  | .deliver ticket result => .filled (menu.deliver ticket result).1

/-- A row meets its fate, the entries follow, and the queues grow. -/
def settle (menu : Menu) (row : RowId) (settlement : Settlement) : Reply Menu Response :=
  let rows := menu.rows.replace row settlement.fate
  ⟨{ menu with
      rows
      entries := menu.entriesOf rows
      tickets := menu.tickets ++ settlement.tickets
      events := menu.events ++ settlement.events }, settlement.answer, []⟩

/-- An operation that is settled by what one row shows. -/
def meet (menu : Menu) (row : RowId) (act : RowView → Settlement) : Reply Menu Response :=
  match menu.rows.get? row with
  | none => .refused menu (.unknownRow row)
  | some view => menu.settle row (act view)

/-- What one row shows settles this reply.  The answer is spoken of only if the row is on
screen: a kind selector's text that names no kind is ignored whether or not it is. -/
structure SettledBy (menu : Menu) (row : RowId) (act : RowView → Settlement)
    (reply : Reply Menu Response) : Prop where
  left : reply.menu = (menu.meet row act).menu
  answer : ∀ view, menu.rows.get? row = some view → reply.answer = (act view).answer

/-- Two operations on a menu end in the same menu, whether the one that leaves `left` or the
one that leaves `right` comes first, but for the order in which the queues have grown. -/
structure Meeting (menu left right one two : Menu) : Prop where
  rows : two.rows = one.rows
  entries : two.entries = one.entries
  knownKeys : two.knownKeys = one.knownKeys
  query : two.query = one.query
  render : two.render = one.render
  tickets : ∃ asked also, left.tickets = menu.tickets ++ asked ∧
    right.tickets = menu.tickets ++ also ∧ one.tickets = menu.tickets ++ (asked ++ also) ∧
    two.tickets = menu.tickets ++ (also ++ asked)
  events : ∃ told also, left.events = menu.events ++ told ∧
    right.events = menu.events ++ also ∧ one.events = menu.events ++ (told ++ also) ∧
    two.events = menu.events ++ (also ++ told)

variable {menu : Menu} {row other : RowId} {view : RowView} {operation : Operation}

theorem meet_shown (shown : menu.rows.get? row = some view) (act : RowView → Settlement) :
    menu.meet row act = menu.settle row (act view) := by
  simp only [meet, shown]

theorem settledBy_of_eq {act : RowView → Settlement} {reply : Reply Menu Response}
    (equal : reply = menu.meet row act) : menu.SettledBy row act reply := by
  refine ⟨congrArg Reply.menu equal, fun view shown => ?_⟩
  rw [equal, meet_shown shown]
  rfl

theorem labels_meet (menu : Menu) (row : RowId) (act : RowView → Settlement) :
    (menu.meet row act).menu.labels = menu.labels := by
  unfold meet
  split <;> rfl

theorem exists_replace_meet (menu : Menu) (row : RowId) (act : RowView → Settlement) :
    ∃ fate, (menu.meet row act).menu.rows = menu.rows.replace row fate := by
  cases shown : menu.rows.get? row with
  | none =>
      rw [meet, shown]
      exact Rows.exists_replace_of_get? shown
  | some view =>
      rw [meet_shown shown]
      exact ⟨_, rfl⟩

theorem settle_meeting (different : row ≠ other) (menu : Menu) (first second : Settlement) :
    menu.Meeting (menu.settle row first).menu (menu.settle other second).menu
      ((menu.settle row first).menu.settle other second).menu
      ((menu.settle other second).menu.settle row first).menu := by
  have rows := (Rows.replace_comm different menu.rows first.fate second.fate).symm
  have entries : ((menu.settle other second).menu.settle row first).menu.entries =
      ((menu.settle row first).menu.settle other second).menu.entries :=
    congrArg (Entries.ofRows (RowView.holding menu.labels)) rows
  refine ⟨rows, entries, rfl, ?_, ?_, ?_, ?_⟩
  · rw [query, query, entries]
  · exact congrArg
      (Entries.render · menu.labels.joiner menu.labels.sourcePlaceholder) entries
  · exact ⟨first.tickets, second.tickets, rfl, rfl, List.append_assoc .., List.append_assoc ..⟩
  · exact ⟨first.events, second.events, rfl, rfl, List.append_assoc .., List.append_assoc ..⟩

namespace Coherent

variable (coherent : menu.Coherent)
include coherent

theorem settle_same (shown : menu.rows.get? row = some view) (answer : Except MenuError Response) :
    menu.settle row { fate := some view, answer } = ⟨menu, answer, []⟩ := by
  obtain ⟨position, located⟩ := Rows.exists_lookup? shown
  have same := Rows.replace_same coherent.ordered located
  simp only [settle, same, ← coherent.entries, List.append_nil]

theorem turn_eq_meet (row : RowId) (act : RowView → Turn) :
    menu.turn row act = menu.meet row fun view => .ofTurn view (act view) := by
  unfold Menu.turn meet
  cases shown : menu.rows.get? row with
  | none => rfl
  | some view =>
      obtain ⟨position, located⟩ := Rows.exists_lookup? shown
      simp only
      cases acted : act view with
      | refuse error => exact (coherent.settle_same shown _).symm
      | ignore => exact (coherent.settle_same shown _).symm
      | accept fresh tickets events =>
          have replaced := Rows.set_eq_replace coherent.ordered located fresh
          simp only [settle, Settlement.ofTurn, Menu.accept, replaced]
          rfl

theorem deleteRow_eq_meet (row : RowId) :
    menu.deleteRow row =
      menu.meet row (.ofDeletion menu.labels (menu.rows.size = 1) row) := by
  by_cases single : menu.rows.size = 1
  · have alone : Settlement.ofDeletion menu.labels (menu.rows.size = 1) row =
        fun view => .ofTurn view (view.startOver menu.labels row) := by
      funext view
      simp [Settlement.ofDeletion, single]
    rw [coherent.deleteRow_eq_of_single single, coherent.turn_eq_meet, alone]
  · rw [coherent.deleteRow_eq_of_several single, meet]
    cases removed : menu.rows.remove? row with
    | none =>
        have missing := Rows.remove?_eq_none.mp removed
        rw [Rows.get?_eq_lookup?, missing]
        rfl
    | some rest =>
        obtain ⟨position, view, rows⟩ := rest
        have located := (Rows.remove?_eq_some removed).1
        have left := Rows.remove_eq_replace coherent.ordered removed
        simp [Rows.get?_of_lookup? located, settle, Settlement.ofDeletion, single, left,
          Reply.consumed]

theorem unhandled_settled (row : RowId) :
    menu.SettledBy row (fun view => .ofTurn view .ignore) (.unhandled menu) := by
  refine ⟨?_, fun view shown => rfl⟩
  cases shown : menu.rows.get? row with
  | none => rw [meet, shown]; rfl
  | some view =>
      rw [meet_shown shown]
      exact congrArg Reply.menu (coherent.settle_same shown _).symm

theorem deliver_eq_meet (ticket : Ticket) (options : List String) :
    (menu.deliver ticket (.ok options)).2 =
      (({ menu with
          knownKeys := if ticket.kind = .historical then some options else menu.knownKeys } :
        Menu).meet ticket.row fun view =>
          .ofTurn view (view.receive menu.labels ticket options)).menu := by
  have learned : (if ticket.kind = .historical then menu.learnKeys options else menu) =
      { menu with
        knownKeys := if ticket.kind = .historical then some options else menu.knownKeys } := by
    split <;> rfl
  have next : ({ menu with
      knownKeys := if ticket.kind = .historical then some options else menu.knownKeys } :
        Menu).Coherent := coherent.of_same rfl rfl rfl
  rw [coherent.deliver_menu, learned, next.turn_eq_meet]

omit coherent in
theorem deliver_answer (shown : menu.rows.get? row = some view) (ticket : Ticket)
    (own : ticket.row = row) (options : List String) :
    (menu.deliver ticket (.ok options)).1 = decide (view.Awaits ticket) := by
  rw [Bool.eq_iff_iff, decide_eq_true_iff, deliver_fills]
  constructor
  · rintro ⟨-, found, present, awaits⟩
    rw [own, shown] at present
    cases present
    exact awaits
  · exact fun awaits => ⟨⟨options, rfl⟩, view, own ▸ shown, awaits⟩

theorem turn_settled (row : RowId) (act : RowView → Turn) :
    menu.SettledBy row (fun view => .ofTurn view (act view)) (menu.turn row act) :=
  settledBy_of_eq (coherent.turn_eq_meet row act)

theorem deleteRow_settled (row : RowId) :
    menu.SettledBy row (.ofDeletion menu.labels (menu.rows.size = 1) row) (menu.deleteRow row) :=
  settledBy_of_eq (coherent.deleteRow_eq_meet row)

theorem chooseKind_settled (row : RowId) (choice : Choice SourceKind) :
    menu.SettledBy row
      (fun view => .ofTurn view (view.chooseKind menu.labels menu.knownKeys row choice))
      (menu.chooseKind row choice) := by
  rw [coherent.chooseKind_eq]
  exact coherent.turn_settled row _

theorem chooseSource_settled (row : RowId) (choice : Choice String) :
    menu.SettledBy row (fun view => .ofTurn view (view.chooseSource menu.labels row choice))
      (menu.chooseSource row choice) := by
  rw [coherent.chooseSource_eq]
  exact coherent.turn_settled row _

theorem enterDate_settled (row : RowId) (text : String) :
    menu.SettledBy row (fun view => .ofTurn view (view.enterDate menu.labels text))
      (menu.enterDate row text) := by
  rw [coherent.enterDate_eq]
  exact coherent.turn_settled row _

theorem useLatestDate_settled (row : RowId) :
    menu.SettledBy row (fun view => .ofTurn view (view.useLatestDate menu.labels))
      (menu.useLatestDate row) := by
  rw [coherent.useLatestDate_eq]
  exact coherent.turn_settled row _

theorem handle_settled {action : Action} (addressed : action.row? = some row) :
    menu.SettledBy row (action.settlement menu.labels menu.knownKeys (menu.rows.size = 1))
      (menu.handle action) := by
  cases action with
  | toggle | addRow => cases addressed
  | deleteRow row => cases addressed; exact coherent.deleteRow_settled row
  | chooseSource row text => cases addressed; exact coherent.chooseSource_settled row _
  | enterDate row text => cases addressed; exact coherent.enterDate_settled row text
  | useLatestDate row => cases addressed; exact coherent.useLatestDate_settled row
  | chooseKind row text =>
      cases addressed
      have meant : (Menu.start menu.labels).readKind text = menu.readKind text := rfl
      unfold Menu.handle Action.settlement
      simp only [meant]
      cases menu.readKind text with
      | some choice => exact coherent.chooseKind_settled row choice
      | none => exact coherent.unhandled_settled row

/-- An operation addressed to a row is settled by that row. -/
theorem perform_settled (addressed : operation.row? = some row) :
    let settlement := operation.settlement menu.labels menu.knownKeys (menu.rows.size = 1)
    menu.perform operation =
        (({ menu with knownKeys := operation.keysAfter menu.knownKeys } : Menu).meet row
          settlement).menu ∧
      ∀ view, menu.rows.get? row = some view →
        menu.answer operation = operation.report (settlement view).answer := by
  have replied : ∀ {act reply}, menu.SettledBy row act reply →
      reply.menu = (menu.meet row act).menu ∧ ∀ view, menu.rows.get? row = some view →
        Answer.replied reply.answer = .replied (act view).answer :=
    fun settled => ⟨settled.left, fun view shown => congrArg _ (settled.answer view shown)⟩
  cases operation with
  | addRow | learnKeys | takeTickets | takeEvents => cases addressed
  | deleteRow row => cases addressed; exact replied (coherent.deleteRow_settled row)
  | chooseKind row choice => cases addressed; exact replied (coherent.chooseKind_settled row choice)
  | chooseSource row choice =>
      cases addressed
      exact replied (coherent.chooseSource_settled row choice)
  | enterDate row text => cases addressed; exact replied (coherent.enterDate_settled row text)
  | useLatestDate row => cases addressed; exact replied (coherent.useLatestDate_settled row)
  | handle action => exact replied (coherent.handle_settled addressed)
  | setDateKind row kind =>
      cases addressed
      have settled := coherent.turn_settled row fun view => view.setDateKind menu.labels kind
      obtain ⟨left, answered⟩ := coherent.setDateKind_eq row kind
      refine ⟨left.trans settled.left, fun view shown => ?_⟩
      rw [Menu.answer, answered, settled.answer view shown]
      rfl
  | deliver ticket result =>
      cases addressed
      cases result with
      | error error =>
          exact ⟨(coherent.unhandled_settled ticket.row).left, fun _ _ => rfl⟩
      | ok options =>
          refine ⟨coherent.deliver_eq_meet ticket options, fun view shown => ?_⟩
          rw [Menu.answer, deliver_answer shown ticket rfl options]
          by_cases awaits : view.Awaits ticket <;>
            simp [Operation.settlement, RowView.receive, Settlement.ofTurn, Operation.report,
              awaits]

/-! What is left of the other rows. -/

theorem frame (addressed : operation.row? = some row) :
    Frame row menu.rows (menu.perform operation).rows menu.entries
      (menu.perform operation).entries := by
  -- Delivered keys change what later choices fill in, but neither a row nor an entry.
  have performed := (coherent.perform_settled addressed).1
  have labels : (menu.perform operation).labels = menu.labels := by
    rw [performed, labels_meet]
  obtain ⟨fate, rows⟩ := exists_replace_meet
    { menu with knownKeys := operation.keysAfter menu.knownKeys } row
    (operation.settlement menu.labels menu.knownKeys (menu.rows.size = 1))
  rw [← performed] at rows
  rw [(coherent.perform operation).entries, entriesOf, labels, rows, coherent.entries]
  exact Rows.frame_replace coherent.ordered (RowView.holding menu.labels) row fate

theorem extension_addRow :
    Extension menu.rows menu.addRow.2.rows menu.entries menu.addRow.2.entries := by
  have empty : (RowView.blank menu.labels.customLabel).holding menu.labels = none :=
    RowView.holding_of_source rfl
  rw [coherent.addRow.entries, coherent.entries]
  exact Rows.extension_push (RowView.holding menu.labels) empty menu.rows

theorem extension (adds : operation.Adds) :
    Extension menu.rows (menu.perform operation).rows menu.entries
      (menu.perform operation).entries := by
  cases operation with
  | addRow => exact coherent.extension_addRow
  | handle action =>
      cases action with
      | addRow => exact coherent.extension_addRow
      | _ => exact adds.elim
  | _ => exact adds.elim

/-! Two operations on different rows. -/

theorem perform_shown (addressed : operation.row? = some row)
    (settled : ¬ operation.DeliversKeys) (shown : menu.rows.get? row = some view) :
    let settlement := operation.settlement menu.labels menu.knownKeys (menu.rows.size = 1) view
    menu.perform operation = (menu.settle row settlement).menu ∧
      menu.answer operation = operation.report settlement.answer := by
  obtain ⟨performed, answered⟩ := coherent.perform_settled addressed
  rw [Operation.keysAfter_of_not_deliversKeys addressed settled, meet_shown shown] at performed
  exact ⟨performed, answered view shown⟩

/-- An operation on another row does not change what the row makes of its own. -/
theorem perform_after {first second : Operation} {shown : RowView} (different : row ≠ other)
    (present : menu.rows.get? row = some view) (besides : menu.rows.get? other = some shown)
    (addressed : first.row? = some row) (addresses : second.row? = some other)
    (keyless : ¬ first.DeliversKeys) (plain : ¬ second.DeliversKeys)
    (several : ¬ (first.Deletes ∧ second.Deletes ∧ menu.rows.size = 2)) :
    let settlement operation :=
      Operation.settlement menu.labels menu.knownKeys (menu.rows.size = 1) operation
    (menu.perform first).perform second =
        ((menu.settle row (settlement first view)).menu.settle other
          (settlement second shown)).menu ∧
      (menu.perform first).answer second = menu.answer second := by
  intro settlement
  have next := coherent.perform first
  have performed := (coherent.perform_shown addressed keyless present).1
  have still : (menu.perform first).rows.get? other = some shown := by
    rw [performed]
    exact (Rows.get?_replace coherent.ordered different.symm _).trans besides
  have same : second.settlement (menu.perform first).labels (menu.perform first).knownKeys
      ((menu.perform first).rows.size = 1) = settlement second := by
    rw [performed]
    -- The two share only the question whether a row is alone, which a deletion asks.
    by_cases deletes : second.Deletes
    · have alone := Rows.size_replace_eq_one_iff coherent.ordered different present besides
        (settlement first view).fate fun gone two =>
          several ⟨Operation.deletes_of_fate gone, deletes, two⟩
      exact congrArg (second.settlement menu.labels menu.knownKeys) (decide_eq_decide.mpr alone)
    · exact Operation.settlement_of_not_deletes deletes _ _
  have after := next.perform_shown addresses plain still
  have before := coherent.perform_shown addresses plain besides
  simp only [same] at after
  exact ⟨performed ▸ after.1, after.2.trans before.2.symm⟩

theorem perform_meeting {first second : Operation} {shown : RowView} (different : row ≠ other)
    (present : menu.rows.get? row = some view) (besides : menu.rows.get? other = some shown)
    (addressed : first.row? = some row) (addresses : second.row? = some other)
    (keyless : ¬ first.DeliversKeys) (plain : ¬ second.DeliversKeys)
    (several : ¬ (first.Deletes ∧ second.Deletes ∧ menu.rows.size = 2)) :
    (menu.perform second).answer first = menu.answer first ∧
      (menu.perform first).answer second = menu.answer second ∧
      menu.Meeting (menu.perform first) (menu.perform second)
        ((menu.perform first).perform second) ((menu.perform second).perform first) := by
  have one := coherent.perform_after different present besides addressed addresses keyless plain
    several
  have two := coherent.perform_after different.symm besides present addresses addressed plain
    keyless fun both => several ⟨both.2.1, both.1, both.2.2⟩
  refine ⟨two.2, one.2, ?_⟩
  rw [one.1, two.1, (coherent.perform_shown addressed keyless present).1,
    (coherent.perform_shown addresses plain besides).1]
  exact settle_meeting different menu _ _

end Coherent

end Menu

end QueryMenu.DataSource
