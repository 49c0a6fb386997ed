import QueryMenu.Proofs.DataSource.Reachable

namespace QueryMenu.DataSource

/-! Which deliveries fill in a row.

Of what a row shows, only its kind, its generation and the awaited generation decide
whether a delivery is accepted.  An operation leaves these three as they are unless it
starts the row over, which makes the generation grow for good, or fills the row in from
the very fetch it waits for.  So a ticket is good until the first of these happens, and
never again: a row that is gone does not come back under its id.
-/

/-- What decides whether a row accepts a delivery. -/
structure Fetch where
  kind : Option SourceKind
  generation : Nat
  pending : Option Nat
deriving DecidableEq, Repr

def RowView.fetch (view : RowView) : Fetch :=
  ⟨view.kind, view.generation, view.pending⟩

namespace Menu

def fetch? (menu : Menu) (row : RowId) : Option Fetch :=
  (menu.rows.get? row).map RowView.fetch

/-- The operation queues this ticket. -/
def Issues (menu : Menu) (operation : Operation) (ticket : Ticket) : Prop :=
  (menu.perform operation).tickets = menu.tickets ++ [ticket]

end Menu

namespace Operation

/-- A choice of kind on the row is accepted, or the row is deleted or reset. -/
def StartsOver (menu : Menu) (row : RowId) : Operation → Prop
  | .chooseKind other choice =>
    other = row ∧ (menu.chooseKind other choice).answer = .ok .consumed
  | .deleteRow other => other = row ∧ (menu.deleteRow other).answer = .ok .consumed
  | .handle (.chooseKind other text) =>
    other = row ∧ (menu.handle (.chooseKind other text)).answer = .ok .consumed
  | .handle (.deleteRow other) =>
    other = row ∧ (menu.handle (.deleteRow other)).answer = .ok .consumed
  | _ => False

/-- A delivery for the ticket fills in its row. -/
def Fills (menu : Menu) (ticket : Ticket) : Operation → Prop
  | .deliver other result => other = ticket ∧ (menu.deliver other result).1 = true
  | _ => False

end Operation

namespace Menu

/-- What an operation does to the fetch of a row. -/
inductive FetchStep (menu : Menu) (operation : Operation) (row : RowId) :
    Option Fetch → Option Fetch → Prop where
  | kept {fetch : Option Fetch} (stays : ¬ operation.StartsOver menu row)
      (unfilled : ∀ ticket, ticket.row = row → ¬ operation.Fills menu ticket) :
      FetchStep menu operation row fetch fetch
  | settled (old new : Fetch) (restarts : operation.StartsOver menu row)
      (grown : new.generation = old.generation + 1) (idle : new.pending = none) :
      FetchStep menu operation row (some old) (some new)
  | asked (old : Fetch) (kind : SourceKind) (restarts : operation.StartsOver menu row)
      (issued : menu.Issues operation ⟨row, kind, old.generation + 1⟩) :
      FetchStep menu operation row (some old)
        (some ⟨some kind, old.generation + 1, some (old.generation + 1)⟩)
  | removed (old : Fetch) (restarts : operation.StartsOver menu row) :
      FetchStep menu operation row (some old) none
  | filled (old : Fetch) (ticket : Ticket) (fills : operation.Fills menu ticket)
      (own : ticket.row = row) (kind : old.kind = some ticket.kind)
      (pending : old.pending = some ticket.generation) :
      FetchStep menu operation row (some old) (some { old with pending := none })
  | added (fresh : row.number = menu.rows.issued) :
      FetchStep menu operation row none (some ⟨none, 0, none⟩)

variable {menu : Menu}

theorem fetch?_turn (menu : Menu) (row other : RowId) (act : RowView → Turn) :
    (menu.turn row act).menu.fetch? other =
      (menu.rows.get? other).map fun view =>
        if other = row then ((act view).result view).fetch else view.fetch := by
  rw [fetch?, get?_turn, Option.map_map]
  congr 1
  funext view
  simp only [Function.comp]
  split <;> rfl

/-- A turn that leaves the fetch of its row alone leaves that of every row alone. -/
theorem fetch?_turn_of_kept {row other : RowId} {act : RowView → Turn}
    (keeps : ∀ view, ((act view).result view).fetch = view.fetch) :
    (menu.turn row act).menu.fetch? other = menu.fetch? other := by
  simp only [fetch?_turn, keeps, ite_self]
  rfl

theorem fetch?_turn_other {row other : RowId} (act : RowView → Turn) (different : other ≠ row) :
    (menu.turn row act).menu.fetch? other = menu.fetch? other := by
  simp only [fetch?_turn, if_neg different]
  rfl

end Menu

namespace RowView

variable (texts : DateTexts) (view : RowView)

theorem fetch_chooseSource (row : RowId) (choice : Choice String) :
    ((view.chooseSource texts row choice).result view).fetch = view.fetch := by
  unfold chooseSource
  split
  · rfl
  · rfl
  · split <;> rfl

theorem fetch_enterDate (text : String) :
    ((view.enterDate texts text).result view).fetch = view.fetch := by
  unfold enterDate
  split
  · split
    · rfl
    · split <;> rfl
  · rfl

theorem fetch_useLatestDate : ((view.useLatestDate texts).result view).fetch = view.fetch := by
  unfold useLatestDate
  split <;> rfl

theorem fetch_setDateKind (kind : Option DateKind) :
    ((view.setDateKind texts kind).result view).fetch = view.fetch := by
  unfold setDateKind
  split <;> rfl

theorem fetch_receive (ticket : Ticket) (options : List String) :
    ((view.receive texts ticket options).result view).fetch =
      if view.Awaits ticket then { view.fetch with pending := none } else view.fetch := by
  unfold receive
  split <;> rfl

theorem fetch_ask (keys : Option (List String)) (row : RowId) (kind : SourceKind) :
    (view.ask texts keys kind).fetch = ⟨some kind, view.generation + 1, none⟩ ∧
        view.asked keys row kind = [] ∨
      (view.ask texts keys kind).fetch =
          ⟨some kind, view.generation + 1, some (view.generation + 1)⟩ ∧
        view.asked keys row kind = [⟨row, kind, view.generation + 1⟩] := by
  obtain ⟨unasked, idle⟩ | ⟨asked, waits⟩ := view.ask_cases texts keys row kind
  · exact .inl ⟨by simp [fetch, kind_ask, generation_ask, idle], unasked⟩
  · exact .inr ⟨by simp [fetch, kind_ask, generation_ask, waits.1], asked⟩

end RowView

namespace Menu

variable {menu : Menu} {row other : RowId}

theorem fetch?_of_get? {view : RowView} (found : menu.rows.get? row = some view) :
    menu.fetch? row = some view.fetch := by
  rw [fetch?, found, Option.map_some]

theorem fetch?_accept_self {view fresh : RowView} (found : menu.rows.get? row = some view)
    (tickets : List Ticket) (events : List Event) :
    (menu.accept row fresh tickets events).fetch? row = some fresh.fetch := by
  obtain ⟨position, located⟩ := Rows.exists_lookup? found
  exact fetch?_of_get? (Rows.get?_set_self located fresh)

theorem FetchStep.of_same {operation : Operation} {before after : Option Fetch}
    (same : after = before) (stays : ¬ operation.StartsOver menu row)
    (unfilled : ∀ ticket, ticket.row = row → ¬ operation.Fills menu ticket) :
    menu.FetchStep operation row before after :=
  same ▸ .kept stays unfilled

theorem FetchStep.imp {operation meant : Operation} {before after : Option Fetch}
    (step : menu.FetchStep meant row before after)
    (restarts : meant.StartsOver menu row ↔ operation.StartsOver menu row)
    (fills : ∀ ticket, meant.Fills menu ticket ↔ operation.Fills menu ticket)
    (issues : ∀ ticket, menu.Issues meant ticket → menu.Issues operation ticket) :
    menu.FetchStep operation row before after := by
  cases step with
  | kept stays unfilled =>
      refine .kept (restarts.not.mp stays) fun ticket own => ?_
      exact (fills ticket).not.mp (unfilled ticket own)
  | settled old new starts grown idle => exact .settled old new (restarts.mp starts) grown idle
  | asked old kind starts issued => exact .asked old kind (restarts.mp starts) (issues _ issued)
  | removed old starts => exact .removed old (restarts.mp starts)
  | filled old ticket filling own kind pending =>
      exact .filled old ticket ((fills ticket).mp filling) own kind pending
  | added fresh => exact .added fresh

namespace Coherent

variable (coherent : menu.Coherent)
include coherent

theorem fetchStep_addRow :
    menu.FetchStep .addRow row (menu.fetch? row) ((menu.perform .addRow).fetch? row) := by
  by_cases fresh : row = ⟨menu.rows.issued⟩
  · subst fresh
    have absent : menu.rows.get? ⟨menu.rows.issued⟩ = none :=
      Rows.get?_eq_none_of_issued coherent.ordered (Nat.le_refl _)
    have present := Rows.get?_push_self coherent.ordered (.blank menu.labels.customLabel)
    rw [fetch?, absent, fetch?_of_get? present]
    exact .added rfl
  · refine .of_same ?_ id (fun _ _ => id)
    exact congrArg (Option.map RowView.fetch) (Rows.get?_push_other fresh)

theorem fetchStep_chooseKind (choice : Choice SourceKind) :
    menu.FetchStep (.chooseKind other choice) row (menu.fetch? row)
      ((menu.perform (.chooseKind other choice)).fetch? row) := by
  have equal := coherent.chooseKind_eq other choice
  have performed : menu.perform (.chooseKind other choice) =
      (menu.turn other fun view =>
        view.chooseKind menu.labels menu.knownKeys other choice).menu :=
    congrArg Reply.menu equal
  by_cases same : row = other
  · subst same
    cases found : menu.rows.get? row with
    | none =>
        rw [turn_missing found] at equal performed
        refine .of_same (congrArg (fetch? · row) performed) (fun restarts => ?_) (fun _ _ => id)
        have answer := restarts.2
        rw [equal] at answer
        cases answer
    | some view =>
        rw [fetch?_of_get? found]
        cases choice with
        | placeholder =>
            rw [turn_accepted found rfl] at equal performed
            rw [performed, Reply.consumed, fetch?_accept_self found]
            exact .settled _ _ ⟨rfl, by rw [equal]; rfl⟩ rfl rfl
        | value kind =>
            rw [turn_accepted found rfl] at equal performed
            have restarts : Operation.StartsOver menu row (.chooseKind row (.value kind)) :=
              ⟨rfl, by rw [equal]; rfl⟩
            have asked : (menu.perform (.chooseKind row (.value kind))).tickets =
                menu.tickets ++ view.asked menu.knownKeys row kind := by
              rw [performed]
              rfl
            rw [performed, Reply.consumed, fetch?_accept_self found]
            obtain ⟨fresh, none_⟩ | ⟨fresh, one⟩ :=
              view.fetch_ask menu.labels menu.knownKeys row kind
            · rw [fresh]
              exact .settled _ _ restarts rfl rfl
            · rw [fresh]
              exact .asked view.fetch kind restarts (asked.trans (by rw [one]; rfl))
  · refine .of_same ?_ (fun restarts => same restarts.1.symm) (fun _ _ => id)
    rw [performed]
    exact fetch?_turn_other _ same

theorem fetchStep_deleteRow :
    menu.FetchStep (.deleteRow other) row (menu.fetch? row)
      ((menu.perform (.deleteRow other)).fetch? row) := by
  by_cases single : menu.rows.size = 1
  · have equal := coherent.deleteRow_eq_of_single single other
    have performed : menu.perform (.deleteRow other) =
        (menu.turn other fun view => view.startOver menu.labels other).menu :=
      congrArg Reply.menu equal
    by_cases same : row = other
    · subst same
      cases found : menu.rows.get? row with
      | none =>
          rw [turn_missing found] at equal performed
          refine .of_same (congrArg (fetch? · row) performed) (fun restarts => ?_) (fun _ _ => id)
          have answer := restarts.2
          rw [equal] at answer
          cases answer
      | some view =>
          rw [turn_accepted found rfl] at equal performed
          rw [fetch?_of_get? found, performed, Reply.consumed, fetch?_accept_self found]
          exact .settled _ _ ⟨rfl, by rw [equal]; rfl⟩ rfl rfl
    · refine .of_same ?_ (fun restarts => same restarts.1.symm) (fun _ _ => id)
      rw [performed]
      exact fetch?_turn_other _ same
  · -- the row goes with its fetch, so this is no turn
    have equal := coherent.deleteRow_eq_of_several single other
    have performed := congrArg Reply.menu equal
    cases removed : menu.rows.remove? other with
    | none =>
        rw [removed] at equal performed
        refine .of_same (congrArg (fetch? · row) performed) (fun restarts => ?_) (fun _ _ => id)
        have answer := restarts.2
        rw [equal] at answer
        cases answer
    | some rest =>
        obtain ⟨position, view, rows⟩ := rest
        rw [removed] at equal performed
        have left : (menu.perform (.deleteRow other)).fetch? row =
            (rows.get? row).map RowView.fetch :=
          congrArg (fetch? · row) performed
        rw [left]
        by_cases same : row = other
        · subst same
          rw [Rows.get?_remove_self coherent.ordered removed,
            fetch?_of_get? (Rows.get?_of_lookup? (Rows.remove?_eq_some removed).1)]
          exact .removed _ ⟨rfl, by rw [equal]; rfl⟩
        · refine .of_same ?_ (fun restarts => same restarts.1.symm) (fun _ _ => id)
          exact congrArg (Option.map RowView.fetch) (Rows.get?_remove_other removed same)

theorem fetchStep_deliver (ticket : Ticket) (result : Except BackendError (List String)) :
    menu.FetchStep (.deliver ticket result) row (menu.fetch? row)
      ((menu.perform (.deliver ticket result)).fetch? row) := by
  cases result with
  | error error => exact .of_same rfl id fun other _ fills => Bool.noConfusion fills.2
  | ok options =>
      have performed : (menu.perform (.deliver ticket (.ok options))).fetch? row =
          (menu.rows.get? row).map fun view =>
            if row = ticket.row then
              ((view.receive menu.labels ticket options).result view).fetch
            else view.fetch := by
        have rows : (if ticket.kind = .historical then menu.learnKeys options else menu).rows =
            menu.rows := by
          split <;> rfl
        have delivered := congrArg (fetch? · row) (coherent.deliver_menu ticket options)
        rwa [fetch?_turn, rows] at delivered
      rw [performed]
      by_cases own : row = ticket.row
      · subst own
        by_cases awaits : menu.Awaits ticket
        · obtain ⟨view, found, waits⟩ := awaits
          have fills : Operation.Fills menu ticket (.deliver ticket (.ok options)) :=
            ⟨rfl, (menu.deliver_fills ticket _).mpr ⟨⟨options, rfl⟩, view, found, waits⟩⟩
          rw [fetch?_of_get? found, found, Option.map_some, if_pos rfl, RowView.fetch_receive,
            if_pos waits]
          exact .filled _ ticket fills rfl waits.2 waits.1
        · refine .of_same ?_ id fun other _ fills => ?_
          · rw [fetch?]
            refine Option.map_congr fun view found => ?_
            have idle : ¬ view.Awaits ticket := fun waits => awaits ⟨view, found, waits⟩
            rw [if_pos rfl, RowView.fetch_receive, if_neg idle]
          · exact awaits ((menu.deliver_fills ticket _).mp fills.2).2
      · refine .of_same ?_ id fun other there fills => own ?_
        · simp only [if_neg own]
          rfl
        · rw [← there, fills.1]

theorem fetchStep_chooseSource (choice : Choice String) :
    menu.FetchStep (.chooseSource other choice) row (menu.fetch? row)
      ((menu.perform (.chooseSource other choice)).fetch? row) := by
  refine .of_same ?_ id (fun _ _ => id)
  rw [Menu.perform, coherent.chooseSource_eq]
  exact fetch?_turn_of_kept fun view => view.fetch_chooseSource menu.labels other choice

theorem fetchStep_enterDate (text : String) :
    menu.FetchStep (.enterDate other text) row (menu.fetch? row)
      ((menu.perform (.enterDate other text)).fetch? row) := by
  refine .of_same ?_ id (fun _ _ => id)
  rw [Menu.perform, coherent.enterDate_eq]
  exact fetch?_turn_of_kept fun view => view.fetch_enterDate menu.labels text

theorem fetchStep_useLatestDate :
    menu.FetchStep (.useLatestDate other) row (menu.fetch? row)
      ((menu.perform (.useLatestDate other)).fetch? row) := by
  refine .of_same ?_ id (fun _ _ => id)
  rw [Menu.perform, coherent.useLatestDate_eq]
  exact fetch?_turn_of_kept fun view => view.fetch_useLatestDate menu.labels

theorem fetchStep_setDateKind (kind : Option DateKind) :
    menu.FetchStep (.setDateKind other kind) row (menu.fetch? row)
      ((menu.perform (.setDateKind other kind)).fetch? row) := by
  refine .of_same ?_ id (fun _ _ => id)
  rw [Menu.perform, (coherent.setDateKind_eq other kind).1]
  exact fetch?_turn_of_kept fun view => view.fetch_setDateKind menu.labels kind

theorem fetchStep_handle (action : Action) :
    menu.FetchStep (.handle action) row (menu.fetch? row)
      ((menu.perform (.handle action)).fetch? row) := by
  cases action with
  | toggle => exact .of_same rfl id (fun _ _ => id)
  | addRow => exact coherent.fetchStep_addRow.imp .rfl (fun _ => .rfl) (fun _ => id)
  | deleteRow other => exact coherent.fetchStep_deleteRow.imp .rfl (fun _ => .rfl) (fun _ => id)
  | chooseKind other text =>
      cases read : menu.readKind text with
      | none =>
          have ignored : menu.handle (.chooseKind other text) = .unhandled menu := by
            simp only [Menu.handle, read]
          refine .of_same (congrArg (fun reply => reply.menu.fetch? row) ignored)
            (fun restarts => ?_) (fun _ _ => id)
          have answer := restarts.2
          rw [ignored] at answer
          cases answer
      | some choice =>
          have handled : menu.handle (.chooseKind other text) = menu.chooseKind other choice := by
            simp only [Menu.handle, read]
          have performed : menu.perform (.handle (.chooseKind other text)) =
              menu.perform (.chooseKind other choice) :=
            congrArg Reply.menu handled
          rw [performed]
          refine (coherent.fetchStep_chooseKind choice).imp ?_ (fun _ => .rfl) fun ticket => ?_
          · simp only [Operation.StartsOver, handled]
          · simp only [Issues, performed, imp_self]
  | chooseSource other text =>
      exact (coherent.fetchStep_chooseSource _).imp .rfl (fun _ => .rfl) (fun _ => id)
  | enterDate other text =>
      exact (coherent.fetchStep_enterDate text).imp .rfl (fun _ => .rfl) (fun _ => id)
  | useLatestDate other =>
      exact coherent.fetchStep_useLatestDate.imp .rfl (fun _ => .rfl) (fun _ => id)

theorem fetchStep (operation : Operation) (row : RowId) :
    menu.FetchStep operation row (menu.fetch? row) ((menu.perform operation).fetch? row) := by
  cases operation with
  | addRow => exact coherent.fetchStep_addRow
  | deleteRow other => exact coherent.fetchStep_deleteRow
  | chooseKind other choice => exact coherent.fetchStep_chooseKind choice
  | chooseSource other choice => exact coherent.fetchStep_chooseSource choice
  | enterDate other text => exact coherent.fetchStep_enterDate text
  | useLatestDate other => exact coherent.fetchStep_useLatestDate
  | setDateKind other kind => exact coherent.fetchStep_setDateKind kind
  | learnKeys keys => exact .of_same rfl id (fun _ _ => id)
  | takeTickets => exact .of_same rfl id (fun _ _ => id)
  | takeEvents => exact .of_same rfl id (fun _ _ => id)
  | handle action => exact coherent.fetchStep_handle action
  | deliver ticket result => exact coherent.fetchStep_deliver ticket result

end Coherent

end Menu

end QueryMenu.DataSource
