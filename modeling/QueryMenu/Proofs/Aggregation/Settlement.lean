import QueryMenu.Proofs.Aggregation.Reachable
import QueryMenu.Proofs.Entries.Frame

namespace QueryMenu.Aggregation

/-! What an operation addressed to a row comes to.

The row alone decides what becomes of it, but for one thing: a deletion takes the row
away unless it is the only one.  Everything else in the menu is as it was, and the
entries follow the rows.  So an operation leaves the other rows alone, and two operations
on different rows come to the same in either order.
-/

inductive Answer where
  | added (row : Option RowId)
  | replied (answer : Except MenuError Response)

/-- What becomes of a row, and the response; a row without a fate goes. -/
structure Settlement where
  fate : Option RowView
  response : Response

namespace Settlement

def ofTurn (view : RowView) : Option RowView → Settlement
  | none => ⟨some view, .unhandled⟩
  | some fresh => ⟨some fresh, .consumed⟩

def ofDeletion (single : Bool) : Settlement :=
  ⟨if single then some {} else none, .consumed⟩

end Settlement

namespace Action

def row? : Action → Option RowId
  | .toggle | .addRow => none
  | .deleteRow row | .choose row _ | .require row _ => some row

def settlement (labels : AggregationLabels) (options : List String) (single : Bool) :
    Action → RowView → Settlement
  | .choose _ text, view => .ofTurn view (view.chosen options (.ofControl text labels.placeholder))
  | .require _ checked, view => .ofTurn view (view.marked checked)
  | .deleteRow _, _ => .ofDeletion single
  | .toggle, view | .addRow, view => ⟨some view, .consumed⟩

end Action

namespace Operation

def row? : Operation → Option RowId
  | .addRow => none
  | .deleteRow row | .choose row _ | .require row _ => some row
  | .handle action => action.row?

def Deletes : Operation → Prop
  | .deleteRow _ | .handle (.deleteRow _) => True
  | _ => False

def Adds : Operation → Prop
  | .addRow | .handle .addRow => True
  | _ => False

def settlement (labels : AggregationLabels) (options : List String) (single : Bool) :
    Operation → RowView → Settlement
  | .choose _ choice, view => .ofTurn view (view.chosen options choice)
  | .require _ checked, view => .ofTurn view (view.marked checked)
  | .deleteRow _, _ => .ofDeletion single
  | .handle action, view => action.settlement labels options single view
  | .addRow, view => ⟨some view, .consumed⟩

variable {labels : AggregationLabels} {options : List String} {single : Bool}
  {operation : Operation}

theorem deletes_of_fate {view : RowView}
    (gone : (operation.settlement labels options single view).fate = none) : operation.Deletes := by
  have stays : ∀ turned, (Settlement.ofTurn view turned).fate ≠ none := by
    intro turned
    cases turned <;> simp [Settlement.ofTurn]
  cases operation with
  | deleteRow row => trivial
  | choose row choice => exact absurd gone (stays _)
  | require row checked => exact absurd gone (stays _)
  | addRow => cases gone
  | handle action =>
      cases action with
      | deleteRow row => trivial
      | choose row text => exact absurd gone (stays _)
      | require row checked => exact absurd gone (stays _)
      | toggle | addRow => cases gone

/-- Only a deletion depends on whether the row is alone. -/
theorem settlement_of_not_deletes (keeps : ¬ operation.Deletes) (one other : Bool) :
    operation.settlement labels options one = operation.settlement labels options other := by
  cases operation with
  | deleteRow row => exact absurd trivial keeps
  | handle action =>
      cases action with
      | deleteRow row => exact absurd trivial keeps
      | _ => rfl
  | _ => rfl

end Operation

namespace Menu

def answer (menu : Menu) : Operation → Answer
  | .addRow => .added menu.addRow.1
  | .deleteRow row => .replied (menu.deleteRow row).answer
  | .choose row choice => .replied (menu.choose row choice).answer
  | .require row checked => .replied (menu.require row checked).answer
  | .handle action => .replied (menu.handle action).answer

/-- A row meets its fate, and the entries follow. -/
def settle (menu : Menu) (row : RowId) (settlement : Settlement) : Reply Menu Response :=
  let rows := menu.rows.replace row settlement.fate
  ⟨{ menu with rows, entries := entriesOf rows }, .ok settlement.response, []⟩

/-- An operation that is settled by what one row shows. -/
def meet (menu : Menu) (row : RowId) (act : RowView → Settlement) : Reply Menu Response :=
  match menu.rows.get? row with
  | none => .refused menu (.unknownRow row)
  | some view => menu.settle row (act view)

variable {menu : Menu} {row other : RowId} {view : RowView} {operation : Operation}

theorem meet_shown (shown : menu.rows.get? row = some view) (act : RowView → Settlement) :
    menu.meet row act = menu.settle row (act view) := by
  simp only [meet, shown]

theorem exists_replace_meet (menu : Menu) (row : RowId) (act : RowView → Settlement) :
    ∃ fate, (menu.meet row act).menu.rows = menu.rows.replace row fate := by
  cases shown : menu.rows.get? row with
  | none =>
      rw [meet, shown]
      exact Rows.exists_replace_of_get? shown
  | some view =>
      rw [meet_shown shown]
      exact ⟨_, rfl⟩

theorem settle_comm (different : row ≠ other) (menu : Menu) (first second : Settlement) :
    ((menu.settle row first).menu.settle other second).menu =
      ((menu.settle other second).menu.settle row first).menu := by
  simp only [settle, Rows.replace_comm different]

namespace Coherent

variable (coherent : menu.Coherent)
include coherent

theorem turn_eq_meet (row : RowId) (act : RowView → Option RowView) :
    menu.turn row act = menu.meet row fun view => .ofTurn view (act view) := by
  unfold Menu.turn meet
  cases shown : menu.rows.get? row with
  | none => rfl
  | some view =>
      obtain ⟨position, located⟩ := Rows.exists_lookup? shown
      simp only
      cases acted : act view with
      | none =>
          have same := Rows.replace_same coherent.ordered located
          simp only [settle, Settlement.ofTurn, same, ← coherent.entries]
          rfl
      | some fresh =>
          have replaced := Rows.set_eq_replace coherent.ordered located fresh
          simp only [settle, Settlement.ofTurn, Menu.accept, replaced]
          rfl

theorem deleteRow_eq_meet (row : RowId) :
    menu.deleteRow row = menu.meet row fun _ => .ofDeletion (menu.rows.size = 1) := by
  by_cases single : menu.rows.size = 1
  · rw [coherent.deleteRow_eq_of_single single, coherent.turn_eq_meet]
    simp [Settlement.ofTurn, Settlement.ofDeletion, single]
  · rw [coherent.deleteRow_eq_of_several single, meet]
    cases removed : menu.rows.remove? row with
    | none =>
        have missing := Rows.remove?_eq_none.mp removed
        rw [Rows.get?_eq_lookup?, missing]
        rfl
    | some rest =>
        obtain ⟨position, view, rows⟩ := rest
        have located := (Rows.remove?_eq_some removed).1
        have left := Rows.remove_eq_replace coherent.ordered removed
        simp [Rows.get?_of_lookup? located, settle, Settlement.ofDeletion, single, left,
          Reply.consumed]

/-- An operation addressed to a row is settled by that row. -/
theorem perform_eq_meet (addressed : operation.row? = some row) :
    let met := menu.meet row
      (operation.settlement menu.labels menu.options (menu.rows.size = 1))
    menu.perform operation = met.menu ∧ menu.answer operation = .replied met.answer := by
  have both : ∀ {reply met : Reply Menu Response}, reply = met →
      reply.menu = met.menu ∧ Answer.replied reply.answer = .replied met.answer := by
    rintro reply _ rfl
    exact ⟨rfl, rfl⟩
  have chosen := fun choice => (coherent.choose_eq row choice).trans (coherent.turn_eq_meet row _)
  have marked := fun checked =>
    (coherent.require_eq row checked).trans (coherent.turn_eq_meet row _)
  cases operation with
  | addRow => cases addressed
  | deleteRow row => cases addressed; exact both (coherent.deleteRow_eq_meet row)
  | choose row choice => cases addressed; exact both (chosen choice)
  | require row checked => cases addressed; exact both (marked checked)
  | handle action =>
      cases action with
      | toggle | addRow => cases addressed
      | deleteRow row => cases addressed; exact both (coherent.deleteRow_eq_meet row)
      | choose row text => cases addressed; exact both (chosen _)
      | require row checked => cases addressed; exact both (marked checked)

/-! What is left of the other rows. -/

theorem aggregators_eq :
    menu.aggregators = menu.rows.ids.filterMap (menu.entries.heldBy? menu.rows) := by
  rw [aggregators, coherent.entries]
  exact Entries.payloads_ofRows coherent.ordered RowView.holding

theorem frame (addressed : operation.row? = some row) :
    Frame row menu.rows (menu.perform operation).rows menu.entries
      (menu.perform operation).entries := by
  have next := (coherent.keeps operation).coherent
  obtain ⟨fate, rows⟩ := menu.exists_replace_meet row
    (operation.settlement menu.labels menu.options (menu.rows.size = 1))
  rw [← (coherent.perform_eq_meet addressed).1] at rows
  rw [next.entries, rows, coherent.entries]
  exact Rows.frame_replace coherent.ordered RowView.holding row fate

theorem extension_addRow :
    Extension menu.rows menu.addRow.2.rows menu.entries menu.addRow.2.entries := by
  rw [coherent.addRow.entries, coherent.entries]
  unfold Menu.addRow
  split
  · exact .refl menu.rows _
  · exact Rows.extension_push RowView.holding rfl menu.rows

theorem extension (adds : operation.Adds) :
    Extension menu.rows (menu.perform operation).rows menu.entries
      (menu.perform operation).entries := by
  cases operation with
  | addRow => exact coherent.extension_addRow
  | handle action =>
      cases action with
      | addRow =>
          rw [perform, menu.handle_addRow]
          exact coherent.extension_addRow
      | _ => exact adds.elim
  | _ => exact adds.elim

/-! Two operations on different rows. -/

/-- An operation on another row does not change what the row makes of its own. -/
theorem perform_after {first second : Operation} {shown : RowView} (different : row ≠ other)
    (present : menu.rows.get? row = some view) (besides : menu.rows.get? other = some shown)
    (addressed : first.row? = some row) (addresses : second.row? = some other)
    (several : ¬ (first.Deletes ∧ second.Deletes ∧ menu.rows.size = 2)) :
    let settlement operation :=
      Operation.settlement menu.labels menu.options (menu.rows.size = 1) operation
    (menu.perform first).perform second =
        ((menu.settle row (settlement first view)).menu.settle other
          (settlement second shown)).menu ∧
      (menu.perform first).answer second = menu.answer second := by
  intro settlement
  have next := (coherent.keeps first).coherent
  have performed : menu.perform first = (menu.settle row (settlement first view)).menu := by
    rw [(coherent.perform_eq_meet addressed).1, meet_shown present]
  have still : (menu.perform first).rows.get? other = some shown := by
    rw [performed]
    exact (Rows.get?_replace coherent.ordered different.symm _).trans besides
  have same : second.settlement (menu.perform first).labels (menu.perform first).options
      ((menu.perform first).rows.size = 1) = settlement second := by
    rw [performed]
    -- The two share only the question whether a row is alone, which a deletion asks.
    by_cases deletes : second.Deletes
    · have alone := Rows.size_replace_eq_one_iff coherent.ordered different present besides
        (settlement first view).fate fun gone two =>
          several ⟨Operation.deletes_of_fate gone, deletes, two⟩
      exact congrArg (second.settlement menu.labels menu.options) (decide_eq_decide.mpr alone)
    · exact Operation.settlement_of_not_deletes deletes _ _
  have after := next.perform_eq_meet addresses
  have before := coherent.perform_eq_meet addresses
  rw [same, meet_shown still] at after
  rw [meet_shown besides] at before
  exact ⟨performed ▸ after.1, after.2.trans before.2.symm⟩

theorem perform_comm {first second : Operation} {shown : RowView} (different : row ≠ other)
    (present : menu.rows.get? row = some view) (besides : menu.rows.get? other = some shown)
    (addressed : first.row? = some row) (addresses : second.row? = some other)
    (several : ¬ (first.Deletes ∧ second.Deletes ∧ menu.rows.size = 2)) :
    (menu.perform second).answer first = menu.answer first ∧
      (menu.perform first).answer second = menu.answer second ∧
      (menu.perform first).perform second = (menu.perform second).perform first := by
  have one := coherent.perform_after different present besides addressed addresses several
  have two := coherent.perform_after different.symm besides present addresses addressed
    fun both => several ⟨both.2.1, both.1, both.2.2⟩
  exact ⟨two.2, one.2, one.1.trans ((settle_comm different menu _ _).trans two.1.symm)⟩

end Coherent

end Menu

end QueryMenu.Aggregation
