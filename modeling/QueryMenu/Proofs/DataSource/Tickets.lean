import QueryMenu.Proofs.DataSource.Fetching

namespace QueryMenu.DataSource

/-! What becomes of a ticket in a run.

A ticket is awaited from the operation that issues it until the first operation that
starts its row over or fills the row in from it.  From then on it is spent: the
generation of its row has passed it by, or nothing is awaited for that generation, or
the row is gone.  No operation brings a spent ticket back.
-/

namespace Operation

/-- The operation leaves a ticket of the menu as good as it was. -/
def Spares (menu : Menu) (ticket : Ticket) (operation : Operation) : Prop :=
  ¬ operation.StartsOver menu ticket.row ∧ ¬ operation.Fills menu ticket

/-- On its face, the operation ends the wait for a ticket. -/
def Ends (labels : DataSourceLabels) (ticket : Ticket) : Operation → Prop
  | .chooseKind row _ | .deleteRow row | .handle (.deleteRow row) => row = ticket.row
  | .handle (.chooseKind row text) =>
    row = ticket.row ∧ ((Menu.start labels).readKind text).isSome
  | .deliver other (.ok _) => other = ticket
  | _ => False

end Operation

namespace Menu

/-- Each operation of a run with the menu that it found. -/
def history (menu : Menu) : List Operation → List (Menu × Operation)
  | [] => []
  | operation :: rest => (menu, operation) :: (menu.perform operation).history rest

/-- The menu can never again wait for the ticket. -/
structure Spent (menu : Menu) (ticket : Ticket) : Prop where
  issued : ticket.row.number < menu.rows.issued
  passed : ∀ fetch, menu.fetch? ticket.row = some fetch →
    ticket.generation < fetch.generation ∨
      ticket.generation = fetch.generation ∧ fetch.pending = none

variable {menu : Menu} {ticket : Ticket} {operation : Operation}

theorem awaits_iff_fetch? : menu.Awaits ticket ↔
    ∃ fetch, menu.fetch? ticket.row = some fetch ∧ fetch.pending = some ticket.generation ∧
      fetch.kind = some ticket.kind := by
  simp only [fetch?, Option.map_eq_some_iff]
  constructor
  · rintro ⟨view, found, waits⟩
    exact ⟨view.fetch, ⟨view, found, rfl⟩, waits⟩
  · rintro ⟨_, ⟨view, found, rfl⟩, waits⟩
    exact ⟨view, found, waits⟩

theorem awaits_of_fills (fills : operation.Fills menu ticket) : menu.Awaits ticket := by
  cases operation with
  | deliver other result =>
      obtain ⟨rfl, filled⟩ := fills
      exact ((menu.deliver_fills other result).mp filled).2
  | _ => exact fills.elim

theorem history_append (menu : Menu) (first second : List Operation) :
    menu.history (first ++ second) = menu.history first ++ (menu.run first).history second := by
  induction first generalizing menu with
  | nil => rfl
  | cons operation rest ih => exact congrArg (_ :: ·) (ih (menu.perform operation))

/-- What no operation changes: the labels stay, and no id is taken back. -/
structure Carries (menu next : Menu) : Prop where
  labels : next.labels = menu.labels
  issued : menu.rows.issued ≤ next.rows.issued

theorem turn_carries (menu : Menu) (row : RowId) (act : RowView → Turn) :
    menu.Carries (menu.turn row act).menu := by
  refine ⟨?_, Nat.le_of_eq (issued_turn menu row act).symm⟩
  unfold turn
  cases menu.rows.get? row with
  | none => rfl
  | some view =>
      simp only
      cases act view <;> rfl

namespace Coherent

variable (coherent : menu.Coherent)
include coherent

theorem perform_carries (operation : Operation) : menu.Carries (menu.perform operation) := by
  cases coherent.deed operation with
  | aside rows entries labels => exact ⟨labels, Nat.le_of_eq (by rw [rows])⟩
  | added same =>
      rw [same]
      exact ⟨rfl, Nat.le_succ _⟩
  | turned keys row act sound same =>
      rw [same]
      have carried := turn_carries { menu with knownKeys := keys } row act
      exact ⟨carried.labels, carried.issued⟩
  | removed row position view rest several gone same =>
      obtain ⟨-, rfl⟩ := Rows.remove?_eq_some gone
      rw [same]
      exact ⟨rfl, Nat.le_refl _⟩

theorem run_labels (operations : List Operation) : (menu.run operations).labels = menu.labels := by
  induction operations generalizing menu with
  | nil => rfl
  | cons operation rest ih =>
      exact (ih (coherent.perform operation)).trans (coherent.perform_carries operation).labels

theorem generation_of_awaits {fetch : Fetch} (found : menu.fetch? ticket.row = some fetch)
    (pending : fetch.pending = some ticket.generation) : fetch.generation = ticket.generation := by
  obtain ⟨view, shown, rfl⟩ := Option.map_eq_some_iff.mp found
  have valid := (coherent.valid_of_get? shown).pending
  simp only [RowView.fetch] at pending ⊢
  rw [pending] at valid
  split at valid
  · exact (Option.some.inj valid).symm
  · cases valid

theorem not_awaits_of_spent (spent : menu.Spent ticket) : ¬ menu.Awaits ticket := by
  intro awaits
  obtain ⟨fetch, found, pending, -⟩ := awaits_iff_fetch?.mp awaits
  have generation := coherent.generation_of_awaits found pending
  rcases spent.passed fetch found with passed | ⟨-, idle⟩
  · omega
  · cases pending.symm.trans idle

theorem awaits_of_spared (awaits : menu.Awaits ticket) (spares : operation.Spares menu ticket) :
    (menu.perform operation).Awaits ticket := by
  obtain ⟨fetch, found, pending, kind⟩ := awaits_iff_fetch?.mp awaits
  have step := coherent.fetchStep operation ticket.row
  rw [found] at step
  rw [awaits_iff_fetch?]
  generalize (menu.perform operation).fetch? ticket.row = after at step
  cases step with
  | kept => exact ⟨fetch, rfl, pending, kind⟩
  | settled old new restarts grown idle => exact absurd restarts spares.1
  | asked old kind restarts issued => exact absurd restarts spares.1
  | removed old restarts => exact absurd restarts spares.1
  | filled old other fills own otherKind otherPending =>
      have same : other = ticket := by
        have kinds := Option.some.inj (otherKind.symm.trans kind)
        have generations := Option.some.inj (otherPending.symm.trans pending)
        cases other
        cases ticket
        simp_all
      exact absurd (same ▸ fills) spares.2

theorem spent_of_ended (awaits : menu.Awaits ticket) (ends : ¬ operation.Spares menu ticket) :
    (menu.perform operation).Spent ticket := by
  obtain ⟨fetch, found, pending, kind⟩ := awaits_iff_fetch?.mp awaits
  have generation := coherent.generation_of_awaits found pending
  have step := coherent.fetchStep operation ticket.row
  rw [found] at step
  refine ⟨?_, fun next after => ?_⟩
  · obtain ⟨view, shown, -⟩ := awaits
    exact Nat.lt_of_lt_of_le (Rows.number_lt_issued coherent.ordered shown)
      (coherent.perform_carries operation).issued
  · rw [after] at step
    cases step with
    | kept stays unfilled => exact absurd ⟨stays, unfilled ticket rfl⟩ ends
    | settled old new restarts grown idle => left; omega
    | asked old kind restarts issued => left; simp only; omega
    | filled old other fills own otherKind otherPending => exact .inr ⟨generation.symm, rfl⟩

theorem spent_perform (spent : menu.Spent ticket) (operation : Operation) :
    (menu.perform operation).Spent ticket := by
  have step := coherent.fetchStep operation ticket.row
  refine ⟨Nat.lt_of_lt_of_le spent.issued (coherent.perform_carries operation).issued,
    fun next after => ?_⟩
  rw [after] at step
  generalize was : menu.fetch? ticket.row = before at step
  cases step with
  | kept stays unfilled => exact spent.passed next was
  | settled old new restarts grown idle =>
      have passed := spent.passed old was
      left
      omega
  | asked old kind restarts issued =>
      have passed := spent.passed old was
      left
      simp only
      omega
  | filled old other fills own otherKind otherPending =>
      rcases spent.passed old was with passed | ⟨-, idle⟩
      · exact .inl passed
      · cases otherPending.symm.trans idle
  | added fresh =>
      -- an added row has a number that no spent ticket names
      exact absurd spent.issued (by omega)

theorem awaits_or_issues (awaits : (menu.perform operation).Awaits ticket) :
    menu.Awaits ticket ∨ menu.Issues operation ticket := by
  obtain ⟨fetch, found, pending, kind⟩ := awaits_iff_fetch?.mp awaits
  have step := coherent.fetchStep operation ticket.row
  rw [found] at step
  rw [awaits_iff_fetch?]
  generalize was : menu.fetch? ticket.row = before at step
  cases step with
  | kept stays unfilled => exact .inl ⟨fetch, rfl, pending, kind⟩
  | settled old new restarts grown idle => cases pending.symm.trans idle
  | asked old shown restarts issued =>
      have generations := Option.some.inj pending
      have kinds := Option.some.inj kind
      subst kinds
      rw [generations] at issued
      exact .inr issued
  | filled old other fills own otherKind otherPending => cases pending
  | added fresh => cases pending

end Coherent

/-! Issuing. -/

/-- What an operation does to the queue of tickets. -/
inductive QueueStep (queue : List Ticket) (next : Menu) : Prop where
  | kept (same : next.tickets = queue)
  | taken (empty : next.tickets = [])
  | issued (ticket : Ticket) (one : next.tickets = queue ++ [ticket])
      (awaited : next.Awaits ticket)

namespace Coherent

variable (coherent : menu.Coherent)
include coherent

theorem queueStep_turn {row : RowId} {act : RowView → Turn}
    (sound : ∀ view, view.Valid menu.labels → (act view).Sound menu.labels row view) :
    QueueStep menu.tickets (menu.turn row act).menu := by
  cases found : menu.rows.get? row with
  | none =>
      rw [turn_missing found]
      exact .kept rfl
  | some view =>
      have queued : (menu.turn row act).menu.tickets = menu.tickets ++ (act view).tickets := by
        rw [tickets_turn, found]
        rfl
      rcases (sound view (coherent.valid_of_get? found)).asked with
        unasked | ⟨ticket, own, asked, waits⟩
      · rw [unasked, List.append_nil] at queued
        exact .kept queued
      · rw [asked] at queued
        subst own
        refine .issued ticket queued ⟨(act view).result view, ?_, waits⟩
        rw [get?_turn, found, Option.map_some, if_pos rfl]

theorem queueStep (operation : Operation) :
    QueueStep menu.tickets (menu.perform operation) := by
  cases coherent.deed operation with
  | aside rows entries labels tickets =>
      rcases tickets with same | empty
      · exact .kept same
      · exact .taken empty
  | added same =>
      rw [same]
      exact .kept rfl
  | turned keys row act sound same =>
      rw [same]
      have found : ({ menu with knownKeys := keys } : Menu).Coherent :=
        coherent.of_same rfl rfl rfl
      exact found.queueStep_turn sound
  | removed row position view rest several gone same =>
      rw [same]
      exact .kept rfl

theorem awaits_of_issues (issues : menu.Issues operation ticket) :
    (menu.perform operation).Awaits ticket := by
  unfold Issues at issues
  cases coherent.queueStep operation with
  | kept same => simp [same] at issues
  | taken empty => simp [empty] at issues
  | issued other one awaited =>
      have same : [other] = [ticket] := List.append_cancel_left (one.symm.trans issues)
      cases same
      exact awaited

/-! Runs. -/

theorem spent_run (spent : menu.Spent ticket) (operations : List Operation) :
    (menu.run operations).Spent ticket := by
  induction operations generalizing menu with
  | nil => exact spent
  | cons operation rest ih =>
      exact ih (coherent.perform operation) (coherent.spent_perform spent operation)

theorem not_fills_of_awaits_run (operations : List Operation)
    (awaits : (menu.run operations).Awaits ticket) :
    ∀ step ∈ menu.history operations, ¬ step.2.Fills step.1 ticket := by
  induction operations generalizing menu with
  | nil => simp [history]
  | cons operation rest ih =>
      have next := coherent.perform operation
      refine List.forall_mem_cons.mpr ⟨fun fills => ?_, ih next awaits⟩
      have spent := coherent.spent_of_ended (awaits_of_fills fills) fun spares => spares.2 fills
      exact (next.run rest).not_awaits_of_spent (next.spent_run spent rest) awaits

/-- A ticket stays awaited exactly until an operation does not spare it. -/
theorem awaits_run_iff (awaits : menu.Awaits ticket) (operations : List Operation) :
    (menu.run operations).Awaits ticket ↔
      ∀ step ∈ menu.history operations, step.2.Spares step.1 ticket := by
  induction operations generalizing menu with
  | nil => exact iff_of_true awaits (by simp [history])
  | cons operation rest ih =>
      have next := coherent.perform operation
      simp only [history, List.forall_mem_cons]
      by_cases spares : operation.Spares menu ticket
      · simp only [spares, true_and]
        exact ih next (coherent.awaits_of_spared awaits spares)
      · -- the ticket is spent from here on, whatever the rest of the run does
        simp only [spares, false_and, iff_false]
        have spent := coherent.spent_of_ended awaits spares
        exact (next.run rest).not_awaits_of_spent (next.spent_run spent rest)

theorem awaits_run_issued (operations : List Operation)
    (awaits : (menu.run operations).Awaits ticket) :
    menu.Awaits ticket ∨ ∃ step ∈ menu.history operations, step.1.Issues step.2 ticket := by
  induction operations generalizing menu with
  | nil => exact .inl awaits
  | cons operation rest ih =>
      rcases ih (coherent.perform operation) awaits with awaited | ⟨step, later, issues⟩
      · rcases coherent.awaits_or_issues awaited with before | issues
        · exact .inl before
        · exact .inr ⟨_, List.mem_cons_self, issues⟩
      · exact .inr ⟨step, List.mem_cons_of_mem _ later, issues⟩

theorem chooseKind_answer {row : RowId} {view : RowView}
    (shown : menu.rows.get? row = some view) (choice : Choice SourceKind) :
    (menu.chooseKind row choice).answer = .ok .consumed := by
  rw [coherent.chooseKind_eq]
  cases choice <;> rw [turn_accepted shown rfl] <;> rfl

theorem deleteRow_answer {row : RowId} {view : RowView}
    (shown : menu.rows.get? row = some view) :
    (menu.deleteRow row).answer = .ok .consumed := by
  by_cases single : menu.rows.size = 1
  · rw [coherent.deleteRow_eq_of_single single, turn_accepted shown rfl]
    rfl
  · rw [coherent.deleteRow_eq_of_several single]
    obtain ⟨position, located⟩ := Rows.exists_lookup? shown
    cases removed : menu.rows.remove? row with
    | none => cases located.symm.trans (Rows.remove?_eq_none.mp removed)
    | some rest => rfl

/-- While a ticket is awaited, what ends the wait can be told from the operation alone. -/
theorem spares_iff (awaits : menu.Awaits ticket) (operation : Operation) :
    operation.Spares menu ticket ↔ ¬ operation.Ends menu.labels ticket := by
  obtain ⟨view, shown, waits⟩ := awaits
  unfold Operation.Spares
  rw [← not_or]
  refine not_congr ?_
  cases operation with
  | deleteRow row =>
      simp only [Operation.StartsOver, Operation.Fills, Operation.Ends, or_false,
        and_iff_left_iff_imp]
      rintro rfl
      exact coherent.deleteRow_answer shown
  | chooseKind row choice =>
      simp only [Operation.StartsOver, Operation.Fills, Operation.Ends, or_false,
        and_iff_left_iff_imp]
      rintro rfl
      exact coherent.chooseKind_answer shown choice
  | handle action =>
      cases action with
      | deleteRow row =>
          simp only [Operation.StartsOver, Operation.Fills, Operation.Ends, or_false,
            and_iff_left_iff_imp]
          rintro rfl
          exact coherent.deleteRow_answer shown
      | chooseKind row text =>
          have read : (start menu.labels).readKind text = menu.readKind text := rfl
          simp only [Operation.StartsOver, Operation.Fills, Operation.Ends, or_false, read]
          refine and_congr_right fun own => ?_
          cases meant : menu.readKind text with
          | none => simp [Menu.handle, meant, Reply.unhandled]
          | some choice =>
              simpa [Menu.handle, meant] using coherent.chooseKind_answer (own ▸ shown) choice
      | _ => simp [Operation.StartsOver, Operation.Fills, Operation.Ends]
  | deliver other result =>
      cases result with
      | error error => simp [Operation.StartsOver, Operation.Fills, Operation.Ends, Menu.deliver]
      | ok options =>
          simp only [Operation.StartsOver, Operation.Fills, Operation.Ends, false_or,
            and_iff_left_iff_imp]
          rintro rfl
          exact (menu.deliver_fills other _).mpr ⟨⟨options, rfl⟩, view, shown, waits⟩
  | _ => simp [Operation.StartsOver, Operation.Fills, Operation.Ends]

/-- Whether a ticket stays awaited depends on nothing but the operations that end it. -/
theorem awaits_run_iff_ends (awaits : menu.Awaits ticket) (operations : List Operation) :
    (menu.run operations).Awaits ticket ↔
      ∀ operation ∈ operations, ¬ operation.Ends menu.labels ticket := by
  induction operations generalizing menu with
  | nil => exact iff_of_true awaits (by simp)
  | cons operation rest ih =>
      have next := coherent.perform operation
      rw [List.forall_mem_cons, ← coherent.spares_iff awaits operation]
      by_cases spares : operation.Spares menu ticket
      · rw [← (coherent.perform_carries operation).labels]
        simp only [spares, true_and]
        exact ih next (coherent.awaits_of_spared awaits spares)
      · simp only [spares, false_and, iff_false]
        have spent := coherent.spent_of_ended awaits spares
        exact (next.run rest).not_awaits_of_spent (next.spent_run spent rest)

end Coherent

theorem deliver_true (waits : menu.Awaits ticket) (options : List String) :
    ∃ view, (menu.deliver ticket (.ok options)).2.rows.get? ticket.row = some view ∧
      view.offered = some ticket.kind ∧ view.options = options := by
  obtain ⟨view, shown, waits⟩ := waits
  obtain ⟨position, located⟩ := Rows.exists_lookup? shown
  have rows : (if ticket.kind = .historical then menu.learnKeys options else menu).rows =
      menu.rows := by
    split <;> rfl
  have awaited : view.pending = some ticket.generation ∧ view.kind = some ticket.kind := waits
  refine ⟨{ view with pending := none }.fill ticket.kind options menu.labels.customLabel, ?_,
    rfl, rfl⟩
  have labels : (if ticket.kind = .historical then menu.learnKeys options else menu).labels =
      menu.labels := by
    split <;> rfl
  simp only [deliver, rows, labels, shown, if_pos awaited]
  exact Rows.get?_set_self located _

theorem deliver_false (menu : Menu) (ticket : Ticket)
    (result : Except BackendError (List String)) :
    (menu.deliver ticket result).1 = false →
      (menu.deliver ticket result).2 =
        match result with
        | .ok options => if ticket.kind = .historical then menu.learnKeys options else menu
        | .error _ => menu := by
  unfold deliver
  split
  · exact fun _ => rfl
  · simp only
    split
    · exact fun _ => rfl
    · split
      · exact fun filled => Bool.noConfusion filled
      · exact fun _ => rfl

theorem not_awaits_start (labels : DataSourceLabels) (ticket : Ticket) :
    ¬ (start labels).Awaits ticket := by
  rintro ⟨view, shown, waits⟩
  obtain ⟨position, located⟩ := Rows.exists_lookup? shown
  have same := List.mem_singleton.mp (Rows.mem_of_lookup? located)
  have blank : view = .blank labels.customLabel := congrArg Row.state same
  subst blank
  cases waits.1

/-- Which deliveries are accepted, in any run.  The first part says it of a ticket that
an operation of the run has issued; the second, that operations that do not end the wait
on their face can be left out; the third, that a ticket never issued is never accepted.
The last two say what a delivery does. -/
theorem run_start_deliver (labels : DataSourceLabels) :
    (∀ before issue after ticket result,
      ((start labels).run before).Issues issue ticket →
        let queued := (start labels).run (before ++ [issue])
        let menu := queued.run after
        ((menu.deliver ticket result).1 = true ↔
          (∃ options, result = .ok options) ∧ (menu.rows.get? ticket.row).isSome ∧
            (∀ step ∈ queued.history after, ¬ step.2.StartsOver step.1 ticket.row) ∧
            ∀ step ∈ (start labels).history (before ++ issue :: after),
              ¬ step.2.Fills step.1 ticket)) ∧
    (∀ before issue early spared late ticket result,
      ((start labels).run before).Issues issue ticket → ¬ spared.Ends labels ticket →
        let queued := (start labels).run (before ++ [issue])
        ((queued.run (early ++ spared :: late)).deliver ticket result).1 =
          ((queued.run (early ++ late)).deliver ticket result).1) ∧
    (∀ operations ticket result,
      (((start labels).run operations).deliver ticket result).1 = true →
        ∃ step ∈ (start labels).history operations, step.1.Issues step.2 ticket) ∧
    (∀ operations ticket result,
      let menu := (start labels).run operations
      (menu.deliver ticket result).1 = true →
        ∃ options view, result = .ok options ∧
          (menu.deliver ticket result).2.rows.get? ticket.row = some view ∧
            view.offered = some ticket.kind ∧ view.options = options) ∧
    (∀ operations ticket result,
      let menu := (start labels).run operations
      (menu.deliver ticket result).1 = false →
        (menu.deliver ticket result).2 =
          match result with
          | .ok options => if ticket.kind = .historical then menu.learnKeys options else menu
          | .error _ => menu) := by
  have queued : ∀ before issue ticket, ((start labels).run before).Issues issue ticket →
      ((start labels).run (before ++ [issue])).Coherent ∧
        ((start labels).run (before ++ [issue])).Awaits ticket := by
    intro before issue ticket issues
    refine ⟨run_start_coherent labels _, ?_⟩
    rw [run_append]
    exact (run_start_coherent labels before).awaits_of_issues issues
  refine ⟨?_, ?_, ?_, ?_, fun operations ticket result =>
    deliver_false _ ticket result⟩
  · intro before issue after ticket result issues queue menu
    obtain ⟨coherent, awaited⟩ := queued before issue ticket issues
    have split : (start labels).history (before ++ issue :: after) =
        (start labels).history (before ++ [issue]) ++ queue.history after := by
      rw [← history_append, List.append_assoc, List.singleton_append]
    have unfilled := (start_coherent labels).not_fills_of_awaits_run _ awaited
    rw [deliver_fills, coherent.awaits_run_iff awaited after, split]
    constructor
    · rintro ⟨delivered, spares⟩
      obtain ⟨view, shown, -⟩ := (coherent.awaits_run_iff awaited after).mpr spares
      refine ⟨delivered, by rw [shown]; rfl, fun step later => (spares step later).1, ?_⟩
      intro step member
      rcases List.mem_append.mp member with early | later
      · exact unfilled step early
      · exact (spares step later).2
    · rintro ⟨delivered, -, stays, fills⟩
      refine ⟨delivered, fun step later => ⟨stays step later, ?_⟩⟩
      exact fills step (List.mem_append_right _ later)
  · intro before issue early spared late ticket result issues spares queue
    obtain ⟨coherent, awaited⟩ := queued before issue ticket issues
    have labelled : queue.labels = labels := (start_coherent labels).run_labels _
    rw [Bool.eq_iff_iff, deliver_fills, deliver_fills,
      coherent.awaits_run_iff_ends awaited, coherent.awaits_run_iff_ends awaited]
    refine and_congr_right fun _ => ?_
    simp only [List.forall_mem_append, List.forall_mem_cons]
    rw [labelled]
    simp only [spares, not_false_eq_true, true_and]
  · intro operations ticket result accepted
    have awaits := ((deliver_fills _ ticket result).mp accepted).2
    rcases (start_coherent labels).awaits_run_issued operations awaits with awaited | issued
    · exact absurd awaited (not_awaits_start labels ticket)
    · exact issued
  · intro operations ticket result menu accepted
    obtain ⟨⟨options, rfl⟩, waits⟩ := (deliver_fills menu ticket result).mp accepted
    obtain ⟨view, filled⟩ := deliver_true waits options
    exact ⟨options, view, rfl, filled⟩

/-- A late result fills in its row: a failure for it, a made-up ticket and the comings and
goings of another row leave it as good as it was. -/
theorem run_start_deliver_late :
    let ticket : Ticket := ⟨⟨0⟩, .live, 1⟩
    let issue : Operation := .chooseKind ⟨0⟩ (.value .live)
    let after : List Operation :=
      [.takeTickets, .deliver ticket (.error .emptySnapshotListing), .addRow,
        .deliver { ticket with generation := 2 } (.ok ["B"]), .chooseKind ⟨1⟩ (.value .snapshot),
        .deleteRow ⟨1⟩]
    let menu := ((start {}).run [issue]).run after
    (start {}).Issues issue ticket ∧ (menu.deliver ticket (.ok ["A"])).1 = true ∧
      (∀ step ∈ ((start {}).run [issue]).history after,
        ¬ step.2.StartsOver step.1 ticket.row) ∧
      ∃ step ∈ (start {}).history ([issue] ++ after), step.1.Issues step.2 ticket := by
  intro ticket issue after menu
  have issues : (start {}).Issues issue ticket := rfl
  have accepted : (menu.deliver ticket (.ok ["A"])).1 = true := rfl
  obtain ⟨exactly, -, issued, -⟩ := run_start_deliver {}
  have stays := ((exactly [] issue after ticket (.ok ["A"]) issues).mp accepted).2.2.1
  have whole : (start {}).run ([issue] ++ after) = menu := run_append (start {}) [issue] after
  have once := issued ([issue] ++ after) ticket (.ok ["A"]) (by rw [whole]; exact accepted)
  exact ⟨issues, accepted, stays, once⟩

end Menu

end QueryMenu.DataSource
