import QueryMenu.Proofs.Aggregation.Settlement
import QueryMenu.Proofs.DataSource.Settlement
import QueryMenu.Proofs.Entries.Checks

namespace QueryMenu

/-! How an operation can end.

An operation on a row looks the row up, may find that it does not apply or that a date
cannot be read, and only then changes the menu and its entries.  So there are four ends:
the row is unknown, the date is bad, the operation is ignored, or it is consumed.  The
first is the end exactly if the row is not on screen, and each of the first three leaves
the whole menu as it was.  A rule of the entry list is never found broken.
-/

def MenuError.OfDate : MenuError → Prop
  | .invalidDate _ _ | .yearUnderflow => True
  | .unknownRow _ | .brokenRule _ => False

inductive Ending {μ : Type} (menu : μ) (row : RowId) (onScreen : Prop) :
    Reply μ Response → Prop where
  | unknown (absent : ¬ onScreen) : Ending menu row onScreen (.refused menu (.unknownRow row))
  | undated (present : onScreen) (error : MenuError) (blamed : error.OfDate) :
      Ending menu row onScreen (.refused menu error)
  | ignored (present : onScreen) : Ending menu row onScreen (.unhandled menu)
  | consumed (present : onScreen) (next : μ) : Ending menu row onScreen (.consumed next)

/-- The operation was consumed or left the menu as it was, and found no rule broken. -/
structure Reply.Sound {μ : Type} (menu : μ) (reply : Reply μ Response) : Prop where
  whole : reply.answer ≠ .ok .consumed → reply.menu = menu
  unbroken : ∀ fault, reply.answer ≠ .error (.brokenRule fault)

/-- What a host makes of a reply: the menu that it left, the error, and whether it failed. -/
structure Reply.Seen {μ : Type} (reply : Reply μ Response) (next : μ)
    (error? : Option MenuError) (failed : Bool) : Prop where
  left : next = reply.menu
  error : ∀ error, error? = some error ↔ reply.answer = .error error
  failed : failed = true → reply.answer ≠ .ok .consumed

namespace Reply

variable {μ : Type} {menu next : μ} {reply : Reply μ Response} {error? : Option MenuError}
  {failed : Bool}

theorem sound_unhandled : (unhandled menu).Sound menu :=
  ⟨fun _ => rfl, fun _ broken => by cases broken⟩

theorem sound_of_consumed (consumed : reply.answer = .ok .consumed) : reply.Sound menu := by
  refine ⟨fun failed => absurd consumed failed, fun fault broken => ?_⟩
  cases consumed.symm.trans broken

theorem Seen.sound (seen : reply.Seen next error? failed) (sound : reply.Sound menu) :
    (failed = true → next = menu) ∧ ∀ fault, error? ≠ some (.brokenRule fault) := by
  refine ⟨fun came => seen.left.trans (sound.whole (seen.failed came)), fun fault broken => ?_⟩
  exact sound.unbroken fault ((seen.error _).mp broken)

end Reply

namespace Ending

variable {μ : Type} {menu : μ} {row other : RowId} {onScreen : Prop} {reply : Reply μ Response}
  (ending : Ending menu row onScreen reply)
include ending

theorem sound : reply.Sound menu := by
  cases ending with
  | unknown absent => exact ⟨fun _ => rfl, fun _ broken => by cases broken⟩
  | undated present error blamed =>
      refine ⟨fun _ => rfl, fun fault broken => ?_⟩
      cases broken
      exact blamed
  | ignored present => exact Reply.sound_unhandled
  | consumed present next => exact Reply.sound_of_consumed rfl

theorem unknownRow_iff :
    reply.answer = .error (.unknownRow other) ↔ other = row ∧ ¬ onScreen := by
  cases ending with
  | unknown absent => simp [Reply.refused, absent, eq_comm]
  | undated present error blamed =>
      refine iff_of_false (fun same => ?_) fun absent => absent.2 present
      cases same
      exact blamed
  | ignored present => simp [Reply.unhandled, present]
  | consumed present next => simp [Reply.consumed, present]

end Ending

/-! The aggregation menu. -/

namespace Aggregation

/-- The row of an operation that is asked of the menu directly. -/
def Operation.direct? : Operation → Option RowId
  | .deleteRow row | .choose row _ | .require row _ => some row
  | .addRow | .handle _ => none

namespace Answer

def error? : Answer → Option MenuError
  | .replied (.error error) => some error
  | _ => none

def failed : Answer → Bool
  | .added none | .replied (.error _) | .replied (.ok .unhandled) => true
  | _ => false

theorem seen_replied (reply : Reply Menu Response) :
    reply.Seen reply.menu (replied reply.answer).error? (replied reply.answer).failed := by
  obtain ⟨menu, answer, heard⟩ := reply
  refine ⟨rfl, fun error => ?_, fun came => ?_⟩
  · cases answer <;> simp [error?]
  · rintro rfl
    cases came

end Answer

namespace Menu

theorem turn_ending (menu : Menu) (row : RowId) (act : RowView → Option RowView) :
    Ending menu row (row ∈ menu.rows.ids) (menu.turn row act) := by
  unfold turn
  cases found : menu.rows.get? row with
  | none => exact .unknown (Rows.get?_eq_none_iff.mp found)
  | some view =>
      have present := Rows.mem_ids_of_get? found
      cases acted : act view with
      | none => simpa only [acted] using Ending.ignored present
      | some fresh => simpa only [acted] using Ending.consumed present (menu.accept row fresh)

namespace Coherent

variable {menu : Menu} (coherent : menu.Coherent)
include coherent

theorem choose_ending (row : RowId) (choice : Choice String) :
    Ending menu row (row ∈ menu.rows.ids) (menu.choose row choice) := by
  rw [coherent.choose_eq]
  exact menu.turn_ending row _

theorem require_ending (row : RowId) (checked : Bool) :
    Ending menu row (row ∈ menu.rows.ids) (menu.require row checked) := by
  rw [coherent.require_eq]
  exact menu.turn_ending row _

theorem deleteRow_ending (row : RowId) :
    Ending menu row (row ∈ menu.rows.ids) (menu.deleteRow row) := by
  by_cases single : menu.rows.size = 1
  · rw [coherent.deleteRow_eq_of_single single]
    exact menu.turn_ending row _
  · rw [coherent.deleteRow_eq_of_several single]
    cases removed : menu.rows.remove? row with
    | none => exact .unknown (Rows.not_mem_ids_of_remove? removed)
    | some rest =>
        obtain ⟨position, view, rows⟩ := rest
        have located := (Rows.remove?_eq_some removed).1
        exact .consumed (Rows.mem_ids_of_get? (Rows.get?_of_lookup? located)) _

theorem exists_ending {operation : Operation} {row : RowId}
    (direct : operation.direct? = some row) :
    ∃ reply, Ending menu row (row ∈ menu.rows.ids) reply ∧
      reply.Seen (menu.perform operation) (menu.answer operation).error?
        (menu.answer operation).failed := by
  cases operation with
  | addRow | handle => cases direct
  | deleteRow row =>
      cases direct
      exact ⟨_, coherent.deleteRow_ending row, Answer.seen_replied _⟩
  | choose row choice =>
      cases direct
      exact ⟨_, coherent.choose_ending row choice, Answer.seen_replied _⟩
  | require row checked =>
      cases direct
      exact ⟨_, coherent.require_ending row checked, Answer.seen_replied _⟩

theorem handle_sound (action : Action) : (menu.handle action).Sound menu := by
  cases action with
  | toggle => exact Reply.sound_of_consumed rfl
  | addRow =>
      simp only [handle, Menu.addRow]
      by_cases full : menu.options.length ≤ menu.rows.size
      · simpa only [if_pos full] using Reply.sound_unhandled
      · simpa only [if_neg full] using Reply.sound_of_consumed rfl
  | deleteRow row => exact (coherent.deleteRow_ending row).sound
  | choose row text => exact (coherent.choose_ending row _).sound
  | require row checked => exact (coherent.require_ending row checked).sound

theorem perform_sound (operation : Operation) :
    ((menu.answer operation).failed = true → menu.perform operation = menu) ∧
      ∀ fault, (menu.answer operation).error? ≠ some (.brokenRule fault) := by
  cases direct : operation.direct? with
  | some row =>
      obtain ⟨reply, ending, seen⟩ := coherent.exists_ending direct
      exact seen.sound ending.sound
  | none =>
      cases operation with
      | deleteRow | choose | require => cases direct
      | handle action => exact (Answer.seen_replied _).sound (coherent.handle_sound action)
      | addRow =>
          refine ⟨fun failed => ?_, fun fault broken => by cases broken⟩
          simp only [perform, answer, Menu.addRow] at failed ⊢
          by_cases full : menu.options.length ≤ menu.rows.size
          · rw [if_pos full]
          · rw [if_neg full] at failed
            cases failed

end Coherent

theorem reached_coherent (labels : AggregationLabels) (options : List String)
    (operations : List Operation) (lifecycle : Lifecycle) :
    ({ (start labels options).run operations with lifecycle } : Menu).Coherent := by
  have reached := (keeps_run_start labels options operations).coherent
  exact ⟨reached.ordered, reached.populated, reached.valid, reached.entries⟩

end Menu

end Aggregation

/-! The data-source menu. -/

namespace DataSource

def Operation.direct? : Operation → Option RowId
  | .deleteRow row | .chooseKind row _ | .chooseSource row _ | .enterDate row _
  | .useLatestDate row | .setDateKind row _ => some row
  | .addRow | .learnKeys _ | .takeTickets | .takeEvents | .handle _ | .deliver _ _ => none

namespace Answer

def error? : Answer → Option MenuError
  | .replied (.error error) | .changed (.error error) => some error
  | _ => none

/-- A delivery that fills in no row may still bring resolver keys, so it is no failure. -/
def failed : Answer → Bool
  | .replied (.error _) | .replied (.ok .unhandled) | .changed (.error _) => true
  | _ => false

theorem seen_replied (reply : Reply Menu Response) :
    reply.Seen reply.menu (replied reply.answer).error? (replied reply.answer).failed := by
  obtain ⟨menu, answer, heard⟩ := reply
  refine ⟨rfl, fun error => ?_, fun came => ?_⟩
  · cases answer <;> simp [error?]
  · rintro rfl
    cases came

theorem seen_changed (reply : Reply Menu Response) :
    reply.Seen reply.menu (changed (reply.answer.map fun _ => ())).error?
      (changed (reply.answer.map fun _ => ())).failed := by
  obtain ⟨menu, answer, heard⟩ := reply
  refine ⟨rfl, fun error => ?_, fun came => ?_⟩
  · cases answer <;> simp [error?, Except.map]
  · rintro rfl
    cases came

end Answer

def Turn.OfDate : Turn → Prop
  | .refuse error => error.OfDate
  | _ => True

namespace RowView

variable (view : RowView) (texts : DateTexts)

theorem chooseKind_ofDate (keys : Option (List String)) (row : RowId)
    (choice : Choice SourceKind) : (view.chooseKind texts keys row choice).OfDate := by
  cases choice <;> trivial

theorem chooseSource_ofDate (row : RowId) (choice : Choice String) :
    (view.chooseSource texts row choice).OfDate := by
  unfold chooseSource
  split
  · trivial
  · trivial
  · split <;> trivial

theorem enterDate_ofDate (text : String) : (view.enterDate texts text).OfDate := by
  unfold enterDate
  split
  · split
    · trivial
    · split
      · rename_i failed
        obtain rfl | ⟨reason, rfl⟩ := Menu.cases_of_readDate_eq_error failed <;> trivial
      · trivial
  · trivial

theorem useLatestDate_ofDate : (view.useLatestDate texts).OfDate := by
  unfold useLatestDate
  split <;> trivial

theorem setDateKind_ofDate (kind : Option DateKind) : (view.setDateKind texts kind).OfDate := by
  unfold setDateKind
  split <;> trivial

end RowView

namespace Menu

theorem turn_ending (menu : Menu) (row : RowId) {act : RowView → Turn}
    (blamed : ∀ view, (act view).OfDate) :
    Ending menu row (row ∈ menu.rows.ids) (menu.turn row act) := by
  unfold turn
  cases found : menu.rows.get? row with
  | none => exact .unknown (Rows.get?_eq_none_iff.mp found)
  | some view =>
      have present := Rows.mem_ids_of_get? found
      have reason := blamed view
      cases acted : act view with
      | refuse error =>
          rw [acted] at reason
          simpa only [acted] using Ending.undated present error reason
      | ignore => simpa only [acted] using Ending.ignored present
      | accept fresh tickets events =>
          simpa only [acted] using Ending.consumed present (menu.accept row fresh tickets events)

namespace Coherent

variable {menu : Menu} (coherent : menu.Coherent)
include coherent

theorem chooseKind_ending (row : RowId) (choice : Choice SourceKind) :
    Ending menu row (row ∈ menu.rows.ids) (menu.chooseKind row choice) := by
  rw [coherent.chooseKind_eq]
  exact menu.turn_ending row fun view =>
    view.chooseKind_ofDate menu.labels menu.knownKeys row choice

theorem chooseSource_ending (row : RowId) (choice : Choice String) :
    Ending menu row (row ∈ menu.rows.ids) (menu.chooseSource row choice) := by
  rw [coherent.chooseSource_eq]
  exact menu.turn_ending row fun view => view.chooseSource_ofDate menu.labels row choice

theorem enterDate_ending (row : RowId) (text : String) :
    Ending menu row (row ∈ menu.rows.ids) (menu.enterDate row text) := by
  rw [coherent.enterDate_eq]
  exact menu.turn_ending row fun view => view.enterDate_ofDate menu.labels text

theorem useLatestDate_ending (row : RowId) :
    Ending menu row (row ∈ menu.rows.ids) (menu.useLatestDate row) := by
  rw [coherent.useLatestDate_eq]
  exact menu.turn_ending row fun view => view.useLatestDate_ofDate menu.labels

theorem deleteRow_ending (row : RowId) :
    Ending menu row (row ∈ menu.rows.ids) (menu.deleteRow row) := by
  by_cases single : menu.rows.size = 1
  · rw [coherent.deleteRow_eq_of_single single]
    exact menu.turn_ending row fun _ => trivial
  · rw [coherent.deleteRow_eq_of_several single]
    cases removed : menu.rows.remove? row with
    | none => exact .unknown (Rows.not_mem_ids_of_remove? removed)
    | some rest =>
        obtain ⟨position, view, rows⟩ := rest
        have located := (Rows.remove?_eq_some removed).1
        exact .consumed (Rows.mem_ids_of_get? (Rows.get?_of_lookup? located)) _

theorem exists_ending {operation : Operation} {row : RowId}
    (direct : operation.direct? = some row) :
    ∃ reply, Ending menu row (row ∈ menu.rows.ids) reply ∧
      reply.Seen (menu.perform operation) (menu.answer operation).error?
        (menu.answer operation).failed := by
  cases operation with
  | addRow | learnKeys | takeTickets | takeEvents | handle | deliver => cases direct
  | deleteRow row =>
      cases direct
      exact ⟨_, coherent.deleteRow_ending row, Answer.seen_replied _⟩
  | chooseKind row choice =>
      cases direct
      exact ⟨_, coherent.chooseKind_ending row choice, Answer.seen_replied _⟩
  | chooseSource row choice =>
      cases direct
      exact ⟨_, coherent.chooseSource_ending row choice, Answer.seen_replied _⟩
  | enterDate row text =>
      cases direct
      exact ⟨_, coherent.enterDate_ending row text, Answer.seen_replied _⟩
  | useLatestDate row =>
      cases direct
      exact ⟨_, coherent.useLatestDate_ending row, Answer.seen_replied _⟩
  | setDateKind row kind =>
      cases direct
      -- the reply carries no response, so the end is that of the turn behind it
      obtain ⟨left, answered⟩ := coherent.setDateKind_eq row kind
      refine ⟨_, menu.turn_ending row fun view => view.setDateKind_ofDate menu.labels kind, ?_⟩
      have told : menu.answer (.setDateKind row kind) = .changed _ := congrArg _ answered
      rw [told]
      have seen := Answer.seen_changed (menu.turn row fun view => view.setDateKind menu.labels kind)
      exact ⟨left, seen.error, seen.failed⟩

theorem handle_sound (action : Action) : (menu.handle action).Sound menu := by
  cases action with
  | toggle | addRow => exact Reply.sound_of_consumed rfl
  | deleteRow row => exact (coherent.deleteRow_ending row).sound
  | chooseKind row text =>
      simp only [handle]
      -- a text that names no kind is ignored without a look at the row
      cases menu.readKind text with
      | some choice => exact (coherent.chooseKind_ending row choice).sound
      | none => exact Reply.sound_unhandled
  | chooseSource row text => exact (coherent.chooseSource_ending row _).sound
  | enterDate row text => exact (coherent.enterDate_ending row text).sound
  | useLatestDate row => exact (coherent.useLatestDate_ending row).sound

theorem perform_sound (operation : Operation) :
    ((menu.answer operation).failed = true → menu.perform operation = menu) ∧
      ∀ fault, (menu.answer operation).error? ≠ some (.brokenRule fault) := by
  cases direct : operation.direct? with
  | some row =>
      obtain ⟨reply, ending, seen⟩ := coherent.exists_ending direct
      exact seen.sound ending.sound
  | none =>
      cases operation with
      | deleteRow | chooseKind | chooseSource | enterDate | useLatestDate | setDateKind =>
          cases direct
      | handle action => exact (Answer.seen_replied _).sound (coherent.handle_sound action)
      | addRow | learnKeys | takeTickets | takeEvents | deliver =>
          refine ⟨fun failed => ?_, fun fault broken => ?_⟩
          · cases failed
          · cases broken

end Coherent

theorem reached_coherent (labels : DataSourceLabels) (operations : List Operation)
    (lifecycle : Lifecycle) :
    ({ (start labels).run operations with lifecycle } : Menu).Coherent := by
  have reached := run_start_coherent labels operations
  exact ⟨reached.ordered, reached.populated, reached.valid, reached.entries⟩

end Menu

end DataSource

/-- An operation that fails leaves the whole menu as it was, and an operation that is asked
of a menu directly does not know its row exactly if the row is not on screen.  The host may
have moved the lifecycle meanwhile. -/
theorem run_start_failed :
    (∀ (labels : AggregationLabels) (options : List String)
        (operations : List Aggregation.Operation) (lifecycle : Lifecycle),
      let menu := { (Aggregation.Menu.start labels options).run operations with lifecycle }
      (∀ operation, (menu.answer operation).failed = true → menu.perform operation = menu) ∧
      ∀ operation row, operation.direct? = some row → ∀ other,
        ((menu.answer operation).error? = some (.unknownRow other) ↔
          other = row ∧ row ∉ menu.rows.ids)) ∧
    ∀ (labels : DataSourceLabels) (operations : List DataSource.Operation)
        (lifecycle : Lifecycle),
      let menu := { (DataSource.Menu.start labels).run operations with lifecycle }
      (∀ operation, (menu.answer operation).failed = true → menu.perform operation = menu) ∧
      ∀ operation row, operation.direct? = some row → ∀ other,
        ((menu.answer operation).error? = some (.unknownRow other) ↔
          other = row ∧ row ∉ menu.rows.ids) := by
  refine ⟨?_, ?_⟩
  · intro labels options operations lifecycle menu
    have coherent : menu.Coherent :=
      Aggregation.Menu.reached_coherent labels options operations lifecycle
    refine ⟨fun operation => (coherent.perform_sound operation).1, fun operation row direct => ?_⟩
    obtain ⟨reply, ending, seen⟩ := coherent.exists_ending direct
    exact fun other => (seen.error _).trans ending.unknownRow_iff
  · intro labels operations lifecycle menu
    have coherent : menu.Coherent :=
      DataSource.Menu.reached_coherent labels operations lifecycle
    refine ⟨fun operation => (coherent.perform_sound operation).1, fun operation row direct => ?_⟩
    obtain ⟨reply, ending, seen⟩ := coherent.exists_ending direct
    exact fun other => (seen.error _).trans ending.unknownRow_iff

/-- A choice on a row that is gone, and a date that is none on a row that has chosen a
source. -/
theorem run_start_failed_date :
    (let menu := (Aggregation.Menu.start {} ["Sum", "Mean"]).run [.addRow, .deleteRow ⟨0⟩]
    let choose : Aggregation.Operation := .choose ⟨0⟩ (.value "Sum")
    menu.perform choose = menu ∧
      (menu.answer choose).error? = some (.unknownRow ⟨0⟩)) ∧
    let menu := (DataSource.Menu.start {}).run
      [.chooseKind ⟨0⟩ (.value .live), .deliver ⟨⟨0⟩, .live, 1⟩ (.ok ["EURUSD"]),
        .setDateKind ⟨0⟩ (some .version), .handle (.chooseSource ⟨0⟩ "EURUSD")]
    let enter : DataSource.Operation := .enterDate ⟨0⟩ "tomorrow"
    (menu.answer enter).error? = some (.invalidDate "tomorrow" .invalid) ∧
      menu.perform enter = menu ∧
      (menu.answer (.enterDate ⟨1⟩ "tomorrow")).error? = some (.unknownRow ⟨1⟩) := by
  obtain ⟨aggregation, dataSource⟩ := run_start_failed
  refine ⟨?_, ?_⟩
  · intro menu choose
    obtain ⟨whole, unknown⟩ :=
      aggregation {} ["Sum", "Mean"] [.addRow, .deleteRow ⟨0⟩] menu.lifecycle
    exact ⟨whole choose (by decide +kernel),
      (unknown choose ⟨0⟩ rfl ⟨0⟩).mpr ⟨rfl, by decide +kernel⟩⟩
  · intro menu enter
    obtain ⟨whole, unknown⟩ := dataSource {}
      [.chooseKind ⟨0⟩ (.value .live), .deliver ⟨⟨0⟩, .live, 1⟩ (.ok ["EURUSD"]),
        .setDateKind ⟨0⟩ (some .version), .handle (.chooseSource ⟨0⟩ "EURUSD")] menu.lifecycle
    exact ⟨by decide +kernel, whole enter (by decide +kernel),
      (unknown (.enterDate ⟨1⟩ "tomorrow") ⟨1⟩ rfl ⟨1⟩).mpr ⟨rfl, by decide +kernel⟩⟩

/-- Whenever an entry list is checked, it passes: it is in order and on the rows of its
menu, of which an only row has one entry at most, and renumbering never takes one from
zero. -/
theorem run_start_unbroken :
    (∀ (labels : AggregationLabels) (options : List String)
        (operations : List Aggregation.Operation) (lifecycle : Lifecycle),
      let menu := { (Aggregation.Menu.start labels options).run operations with lifecycle }
      menu.entries.Orderly menu.rows.size ∧
      (menu.rows.size = 1 → menu.entries.size ≤ 1) ∧
      ∀ operation fault, (menu.answer operation).error? ≠ some (.brokenRule fault)) ∧
    (∀ (labels : DataSourceLabels) (operations : List DataSource.Operation)
        (lifecycle : Lifecycle),
      let menu := { (DataSource.Menu.start labels).run operations with lifecycle }
      menu.entries.Orderly menu.rows.size ∧
      (menu.rows.size = 1 → menu.entries.size ≤ 1) ∧
      ∀ operation fault, (menu.answer operation).error? ≠ some (.brokenRule fault)) ∧
    ∀ {π : Type} (entries : Entries π) (gap : Nat),
      entries.closeGap? gap = some (entries.closeGap gap) := by
  refine ⟨?_, ?_, Entries.closeGap?_eq⟩
  · intro labels options operations lifecycle menu
    have coherent : menu.Coherent :=
      Aggregation.Menu.reached_coherent labels options operations lifecycle
    have orderly : menu.entries.Orderly menu.rows.size :=
      coherent.entries ▸ Entries.ofRows_orderly _ menu.rows
    exact ⟨orderly, fun single => single ▸ orderly.size_le,
      fun operation => (coherent.perform_sound operation).2⟩
  · intro labels operations lifecycle menu
    have coherent : menu.Coherent :=
      DataSource.Menu.reached_coherent labels operations lifecycle
    have orderly : menu.entries.Orderly menu.rows.size :=
      coherent.entries ▸ Entries.ofRows_orderly _ menu.rows
    exact ⟨orderly, fun single => single ▸ orderly.size_le,
      fun operation => (coherent.perform_sound operation).2⟩

/-- The second of two rows chooses a source, and the first row goes. -/
theorem run_start_unbroken_reset :
    let menu := (DataSource.Menu.start {}).run
      [.addRow, .chooseKind ⟨1⟩ (.value .live), .deliver ⟨⟨1⟩, .live, 1⟩ (.ok ["EURUSD"]),
        .chooseSource ⟨1⟩ (.value "EURUSD"), .deleteRow ⟨0⟩]
    menu.rows.size = 1 ∧ menu.entries.positions = [0] ∧ menu.entries.size ≤ 1 ∧
      (menu.answer (.deleteRow ⟨1⟩)).error? = none := by
  intro menu
  have single : menu.rows.size = 1 := by decide +kernel
  obtain ⟨-, dataSource, -⟩ := run_start_unbroken
  obtain ⟨-, lone, -⟩ := dataSource {}
    [.addRow, .chooseKind ⟨1⟩ (.value .live), .deliver ⟨⟨1⟩, .live, 1⟩ (.ok ["EURUSD"]),
      .chooseSource ⟨1⟩ (.value "EURUSD"), .deleteRow ⟨0⟩] menu.lifecycle
  exact ⟨single, by decide +kernel, lone single, by decide +kernel⟩

end QueryMenu
