import QueryMenu.Proofs.DataSource.Settlement

namespace QueryMenu.DataSource

/-! Results that arrive in any order.

A host may deliver the results of fetches in whatever order they come, some of them for
tickets that are stale, that were delivered before or that were never issued.  A delivery
reaches the row of its ticket and the known resolver keys, and nothing else.  A row waits
for one fetch, so of two deliveries for different tickets of a row one finds nothing to
fill in, whichever comes first; and historical results bring the same keys each time.  So
two deliveries can change places, and a ticket fills in its row once or never.
-/

namespace RowView

variable (texts : DateTexts) (results : SourceKind → Except BackendError (List String))

/-- The row after the result for a ticket of its own was delivered. -/
def delivered (ticket : Ticket) (view : RowView) : RowView :=
  match results ticket.kind with
  | .ok options =>
    if view.Awaits ticket then
      { view with pending := none }.fill ticket.kind options texts.customLabel
    else view
  | .error _ => view

variable {texts results} {view : RowView} {ticket one two : Ticket}

theorem delivered_of_ok {options : List String} (fetched : results ticket.kind = .ok options)
    (waits : view.Awaits ticket) :
    view.delivered texts results ticket =
      { view with pending := none }.fill ticket.kind options texts.customLabel := by
  simp only [delivered, fetched, if_pos waits]

theorem delivered_of_error {error : BackendError} (failed : results ticket.kind = .error error) :
    view.delivered texts results ticket = view := by
  simp only [delivered, failed]

theorem delivered_of_not_awaits (idle : ¬ view.Awaits ticket) :
    view.delivered texts results ticket = view := by
  unfold delivered
  split
  · rw [if_neg idle]
  · rfl

theorem eq_of_awaits (own : one.row = two.row) (first : view.Awaits one)
    (second : view.Awaits two) : one = two := by
  have kinds := Option.some.inj (first.2.symm.trans second.2)
  have generations := Option.some.inj (first.1.symm.trans second.1)
  cases one
  cases two
  simp_all

/-- A delivery ends the wait for its own ticket, if it succeeded, and for no other. -/
theorem awaits_delivered_iff (own : one.row = two.row) :
    (view.delivered texts results one).Awaits two ↔
      view.Awaits two ∧ ¬ (one = two ∧ ∃ options, results one.kind = .ok options) := by
  by_cases waits : view.Awaits one
  · cases fetched : results one.kind with
    | error error => simp [delivered_of_error fetched]
    | ok options =>
        have settled : ¬ (view.delivered texts results one).Awaits two := by
          rw [delivered_of_ok fetched waits]
          simp [Awaits, fill]
        refine iff_of_false settled ?_
        rintro ⟨also, other⟩
        exact other ⟨eq_of_awaits own waits also, options, rfl⟩
  · rw [delivered_of_not_awaits waits]
    refine ⟨fun also => ⟨also, ?_⟩, And.left⟩
    rintro ⟨rfl, -⟩
    exact waits also

theorem delivered_comm (texts : DateTexts)
    (results : SourceKind → Except BackendError (List String)) (own : one.row = two.row)
    (view : RowView) :
    (view.delivered texts results two).delivered texts results one =
      (view.delivered texts results one).delivered texts results two := by
  by_cases first : view.Awaits one
  · by_cases second : view.Awaits two
    · rw [eq_of_awaits own first second]
    · have still : ¬ (view.delivered texts results one).Awaits two :=
        fun waits => second ((awaits_delivered_iff own).mp waits).1
      rw [delivered_of_not_awaits second, delivered_of_not_awaits still]
  · have still : ¬ (view.delivered texts results two).Awaits one :=
      fun waits => first ((awaits_delivered_iff own.symm).mp waits).1
    rw [delivered_of_not_awaits first, delivered_of_not_awaits still]

end RowView

namespace Operation

theorem keysAfter_deliver_comm (results : SourceKind → Except BackendError (List String))
    (one two : Ticket) (keys : Option (List String)) :
    (deliver one (results one.kind)).keysAfter
        ((deliver two (results two.kind)).keysAfter keys) =
      (deliver two (results two.kind)).keysAfter
        ((deliver one (results one.kind)).keysAfter keys) := by
  by_cases first : one.kind = .historical
  · by_cases second : two.kind = .historical
    · -- both bring the keys that the backend has
      rw [first, second]
      cases results .historical <;> simp [keysAfter, first, second]
    · cases results one.kind <;> cases results two.kind <;> simp [keysAfter, second]
  · cases results one.kind <;> cases results two.kind <;> simp [keysAfter, first]

end Operation

namespace Menu

/-- Delivers, one after the other, the result of its kind for each ticket; tells for each
ticket whether it filled in a row. -/
def deliverEach (results : SourceKind → Except BackendError (List String)) (menu : Menu) :
    List Ticket → List (Ticket × Bool) × Menu
  | [] => ([], menu)
  | ticket :: rest =>
    let (filled, menu) := menu.deliver ticket (results ticket.kind)
    let (later, menu) := menu.deliverEach results rest
    ((ticket, filled) :: later, menu)

theorem deliverAll_eq (endpoints : Endpoints) (menu : Menu) (tickets : List Ticket) :
    menu.deliverAll endpoints tickets = menu.deliverEach endpoints.options tickets := by
  induction tickets generalizing menu with
  | nil => rfl
  | cons ticket rest ih => simp only [deliverAll, deliverEach, ih]

theorem deliver_eq (results : SourceKind → Except BackendError (List String)) (menu : Menu)
    (ticket : Ticket) :
    (menu.deliver ticket (results ticket.kind)).2 =
      { menu with
        rows := menu.rows.modify ticket.row (RowView.delivered menu.labels results ticket)
        knownKeys :=
          (Operation.deliver ticket (results ticket.kind)).keysAfter menu.knownKeys } := by
  have untouched : (∀ view, menu.rows.get? ticket.row = some view →
      view.delivered menu.labels results ticket = view) →
      menu.rows.modify ticket.row (RowView.delivered menu.labels results ticket) = menu.rows :=
    Rows.modify_eq_self
  cases fetched : results ticket.kind with
  | error error =>
      rw [untouched fun view _ => RowView.delivered_of_error fetched]
      rfl
  | ok options =>
      have learned : (if ticket.kind = .historical then menu.learnKeys options else menu) =
          { menu with
            knownKeys := (Operation.deliver ticket (.ok options)).keysAfter menu.knownKeys } := by
        by_cases historical : ticket.kind = .historical <;>
          simp [Operation.keysAfter, historical, learnKeys]
      simp only [deliver, learned]
      cases found : menu.rows.get? ticket.row with
      | none =>
          rw [untouched fun view shown => by cases found.symm.trans shown]
      | some view =>
          by_cases waits : view.Awaits ticket
          · have awaited : view.pending = some ticket.generation ∧
                view.kind = some ticket.kind := waits
            rw [Rows.modify_eq_set found, RowView.delivered_of_ok fetched waits]
            simp only [if_pos awaited]
          · have idle : ¬ (view.pending = some ticket.generation ∧
                view.kind = some ticket.kind) := waits
            have kept : view.delivered menu.labels results ticket = view :=
              RowView.delivered_of_not_awaits waits
            rw [untouched fun other shown => by cases found.symm.trans shown; exact kept]
            simp only [if_neg idle]

theorem deliver_comm (results : SourceKind → Except BackendError (List String)) (menu : Menu)
    (one two : Ticket) :
    ((menu.deliver two (results two.kind)).2.deliver one (results one.kind)).2 =
      ((menu.deliver one (results one.kind)).2.deliver two (results two.kind)).2 := by
  have rows := menu.rows.modify_comm fun own : one.row = two.row =>
    RowView.delivered_comm menu.labels results own
  have keys := Operation.keysAfter_deliver_comm results one two menu.knownKeys
  simp only [deliver_eq, rows, keys]

theorem awaits_deliver_iff (results : SourceKind → Except BackendError (List String))
    (menu : Menu) (one two : Ticket) :
    (menu.deliver one (results one.kind)).2.Awaits two ↔
      menu.Awaits two ∧ ¬ (one = two ∧ ∃ options, results one.kind = .ok options) := by
  unfold Awaits
  rw [deliver_eq, Rows.get?_modify]
  cases found : menu.rows.get? two.row with
  | none => simp
  | some view =>
      by_cases own : one.row = two.row
      · simpa [own] using RowView.awaits_delivered_iff own
      · have apart : one ≠ two := fun same => own (congrArg Ticket.row same)
        simp [Ne.symm own, apart]

/-- Whether a delivery fills in a row does not depend on deliveries for other tickets
before it, and none does so after one for its own ticket. -/
theorem deliver_after_deliver (results : SourceKind → Except BackendError (List String))
    (menu : Menu) (one two : Ticket) :
    ((menu.deliver one (results one.kind)).2.deliver two (results two.kind)).1 = true ↔
      (menu.deliver two (results two.kind)).1 = true ∧ one ≠ two := by
  rw [deliver_fills, deliver_fills, awaits_deliver_iff]
  constructor
  · rintro ⟨fetched, waits, other⟩
    refine ⟨⟨fetched, waits⟩, ?_⟩
    rintro rfl
    exact other ⟨rfl, fetched⟩
  · rintro ⟨⟨fetched, waits⟩, apart⟩
    exact ⟨fetched, waits, fun same => apart same.1⟩

theorem deliverEach_cons (results : SourceKind → Except BackendError (List String)) (menu : Menu)
    (ticket : Ticket) (rest : List Ticket) :
    menu.deliverEach results (ticket :: rest) =
      let (filled, next) := menu.deliver ticket (results ticket.kind)
      ((ticket, filled) :: (next.deliverEach results rest).1, (next.deliverEach results rest).2) :=
  rfl

/-- A ticket fills in its row once if it is among the tickets and would have done so at the
start, and otherwise never. -/
theorem count_filled (results : SourceKind → Except BackendError (List String)) (menu : Menu)
    (tickets : List Ticket) (ticket : Ticket) :
    (menu.deliverEach results tickets).1.count (ticket, true) =
      if ticket ∈ tickets ∧ (menu.deliver ticket (results ticket.kind)).1 = true then 1 else 0 := by
  induction tickets generalizing menu with
  | nil => simp [deliverEach]
  | cons first rest ih =>
      have later := ih (menu.deliver first (results first.kind)).2
      simp only [deliver_after_deliver] at later
      simp only [deliverEach_cons, List.count_cons, later, List.mem_cons]
      by_cases same : first = ticket
      · subst same
        cases (menu.deliver first (results first.kind)).1 <;> simp
      · simp [same, Ne.symm same]

theorem deliverEach_menu_perm {tickets others : List Ticket} (same : tickets.Perm others)
    (results : SourceKind → Except BackendError (List String)) (menu : Menu) :
    (menu.deliverEach results tickets).2 = (menu.deliverEach results others).2 := by
  induction same generalizing menu with
  | nil => rfl
  | cons ticket _ ih => exact ih (menu.deliver ticket (results ticket.kind)).2
  | swap one two rest =>
      simp only [deliverEach_cons]
      rw [deliver_comm results menu one two]
  | trans _ _ first second => exact (first menu).trans (second menu)

theorem deliver_after_other (results : SourceKind → Except BackendError (List String))
    (menu : Menu) {one two : Ticket} (apart : one ≠ two) :
    ((menu.deliver one (results one.kind)).2.deliver two (results two.kind)).1 =
      (menu.deliver two (results two.kind)).1 := by
  rw [Bool.eq_iff_iff, deliver_after_deliver]
  exact and_iff_left apart

theorem deliverEach_answers_perm {tickets others : List Ticket} (same : tickets.Perm others)
    (results : SourceKind → Except BackendError (List String)) (menu : Menu) :
    (menu.deliverEach results tickets).1.Perm (menu.deliverEach results others).1 := by
  induction same generalizing menu with
  | nil => exact .nil
  | cons ticket _ ih => exact (ih (menu.deliver ticket (results ticket.kind)).2).cons _
  | swap one two rest =>
      by_cases alike : one = two
      · rw [alike]
      · simp only [deliverEach_cons, deliver_comm results menu one two,
          deliver_after_other results menu alike, deliver_after_other results menu (Ne.symm alike)]
        exact .swap _ _ _
  | trans _ _ first second => exact (first menu).trans (second menu)

/-- Results delivered in another order leave the same menu, and each ticket fills in its row
as often: once if the row waits for it and the backend answers, and otherwise never. -/
theorem deliverEach_perm {tickets others : List Ticket} (same : tickets.Perm others)
    (results : SourceKind → Except BackendError (List String)) (menu : Menu) :
    (menu.deliverEach results tickets).2 = (menu.deliverEach results others).2 ∧
      ∀ ticket,
        (menu.deliverEach results tickets).1.count (ticket, true) =
            (menu.deliverEach results others).1.count (ticket, true) ∧
          (menu.deliverEach results tickets).1.count (ticket, true) ≤ 1 ∧
          ((menu.deliverEach results tickets).1.count (ticket, true) = 1 ↔
            ticket ∈ tickets ∧ menu.Awaits ticket ∧
              ∃ options, results ticket.kind = .ok options) := by
  refine ⟨deliverEach_menu_perm same results menu, fun ticket => ?_⟩
  have fills : (menu.deliver ticket (results ticket.kind)).1 = true ↔
      menu.Awaits ticket ∧ ∃ options, results ticket.kind = .ok options :=
    (menu.deliver_fills ticket _).trans and_comm
  have counted := count_filled results menu tickets ticket
  have alike := (deliverEach_answers_perm same results menu).count_eq (ticket, true)
  by_cases filled : ticket ∈ tickets ∧ (menu.deliver ticket (results ticket.kind)).1 = true
  · rw [if_pos filled] at counted
    rw [fills] at filled
    exact ⟨alike, Nat.le_of_eq counted, iff_of_true counted filled⟩
  · rw [if_neg filled] at counted
    rw [fills] at filled
    refine ⟨alike, by rw [counted]; exact Nat.zero_le 1, iff_of_false ?_ filled⟩
    rw [counted]
    exact Nat.zero_ne_one

/-- Two rows wait, one of them after a second choice of kind.  The results come backwards,
with a stale ticket, a made-up one and a repeated one among them. -/
theorem deliverEach_perm_backwards :
    let menu := (start {}).run [.addRow, .chooseKind ⟨0⟩ (.value .historical),
      .chooseKind ⟨1⟩ (.value .live), .handle (.chooseKind ⟨1⟩ "snapshot")]
    let results : SourceKind → Except BackendError (List String)
      | .live => .ok ["EURUSD"]
      | .snapshot => .ok ["EOD"]
      | .historical => .ok ["PX"]
    let tickets : List Ticket := [⟨⟨0⟩, .historical, 1⟩, ⟨⟨1⟩, .live, 1⟩, ⟨⟨1⟩, .snapshot, 2⟩,
      ⟨⟨7⟩, .historical, 3⟩, ⟨⟨1⟩, .snapshot, 2⟩]
    tickets.Perm tickets.reverse ∧
      (menu.deliverEach results tickets).2 = (menu.deliverEach results tickets.reverse).2 ∧
      (menu.deliverEach results tickets).1.map Prod.snd = [true, false, true, false, false] ∧
      (menu.deliverEach results tickets.reverse).1.map Prod.snd =
        [true, false, false, false, true] := by
  intro menu results tickets
  have backwards : tickets.Perm tickets.reverse := (List.reverse_perm tickets).symm
  exact ⟨backwards, (deliverEach_perm backwards results menu).1, by decide +kernel,
    by decide +kernel⟩

/-- When the menu itself asks the backend for each of the tickets, their order does not count
either. -/
theorem deliverAll_perm {tickets others : List Ticket} (same : tickets.Perm others)
    (endpoints : Endpoints) (menu : Menu) :
    (menu.deliverAll endpoints tickets).1.Perm (menu.deliverAll endpoints others).1 ∧
      (menu.deliverAll endpoints tickets).2 = (menu.deliverAll endpoints others).2 := by
  rw [deliverAll_eq, deliverAll_eq]
  exact ⟨deliverEach_answers_perm same endpoints.options menu,
    deliverEach_menu_perm same endpoints.options menu⟩

end Menu

end QueryMenu.DataSource
