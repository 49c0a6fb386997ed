import QueryMenu.Proofs.Aggregation.Settlement
import QueryMenu.Proofs.Rows.Renaming

namespace QueryMenu.Aggregation

/-! An aggregation menu after the deletion of its only row.

The row that is left shows what the first row of a new menu shows, and the menu has
nothing else to remember.  What one operation makes of a row does not depend on the id of
the row, so the two menus go on alike under their own ids.
-/

namespace Action

def rename (ids : Renaming) : Action → Action
  | .toggle => .toggle
  | .addRow => .addRow
  | .deleteRow row => .deleteRow (ids.row row)
  | .choose row text => .choose (ids.row row) text
  | .require row checked => .require (ids.row row) checked

end Action

namespace Operation

def rename (ids : Renaming) : Operation → Operation
  | .addRow => .addRow
  | .deleteRow row => .deleteRow (ids.row row)
  | .choose row choice => .choose (ids.row row) choice
  | .require row checked => .require (ids.row row) checked
  | .handle action => .handle (action.rename ids)

variable {ids : Renaming}

theorem row?_rename (operation : Operation) :
    (operation.rename ids).row? = operation.row?.map ids.row := by
  cases operation with
  | handle action => cases action <;> rfl
  | _ => rfl

theorem settlement_rename (operation : Operation) (labels : AggregationLabels)
    (options : List String) (single : Bool) :
    (operation.rename ids).settlement labels options single =
      operation.settlement labels options single := by
  cases operation with
  | handle action => cases action <;> rfl
  | _ => rfl

theorem exists_rename {operation : Operation}
    (named : ∀ row, operation.row? = some row → row = ids.first ∨ ids.issued ≤ row.number) :
    ∃ original : Operation, original.rename ids = operation := by
  cases operation with
  | addRow => exact ⟨.addRow, rfl⟩
  | deleteRow row =>
      obtain ⟨row, rfl⟩ := Renaming.exists_row (named row rfl)
      exact ⟨.deleteRow row, rfl⟩
  | choose row choice =>
      obtain ⟨row, rfl⟩ := Renaming.exists_row (named row rfl)
      exact ⟨.choose row choice, rfl⟩
  | require row checked =>
      obtain ⟨row, rfl⟩ := Renaming.exists_row (named row rfl)
      exact ⟨.require row checked, rfl⟩
  | handle action =>
      cases action with
      | toggle => exact ⟨.handle .toggle, rfl⟩
      | addRow => exact ⟨.handle .addRow, rfl⟩
      | deleteRow row =>
          obtain ⟨row, rfl⟩ := Renaming.exists_row (named row rfl)
          exact ⟨.handle (.deleteRow row), rfl⟩
      | choose row text =>
          obtain ⟨row, rfl⟩ := Renaming.exists_row (named row rfl)
          exact ⟨.handle (.choose row text), rfl⟩
      | require row checked =>
          obtain ⟨row, rfl⟩ := Renaming.exists_row (named row rfl)
          exact ⟨.handle (.require row checked), rfl⟩

theorem exists_map_rename {operations : List Operation}
    (named : ∀ operation ∈ operations, ∀ row, operation.row? = some row →
      row = ids.first ∨ ids.issued ≤ row.number) :
    ∃ originals : List Operation, originals.map (rename ids) = operations := by
  induction operations with
  | nil => exact ⟨[], rfl⟩
  | cons operation rest ih =>
      obtain ⟨here, later⟩ := List.forall_mem_cons.mp named
      obtain ⟨original, rfl⟩ := exists_rename here
      obtain ⟨originals, rfl⟩ := ih later
      exact ⟨original :: originals, rfl⟩

end Operation

def Answer.rename (ids : Renaming) : Answer → Answer
  | .added row => .added (row.map ids.row)
  | .replied answer => .replied (ids.reply answer)

namespace Menu

/-- The menu shows under its ids what the new menu shows; their lifecycles are left aside. -/
structure Mirrors (ids : Renaming) (fresh menu : Menu) : Prop where
  labels : menu.labels = fresh.labels
  options : menu.options = fresh.options
  rows : menu.rows = ids.rows (fun _ view => view) fresh.rows

variable {ids : Renaming} {fresh menu : Menu} {row : RowId} {view : RowView}

theorem handle_addRow_answer (menu : Menu) :
    (menu.handle .addRow).answer =
      .ok (if menu.addRow.1.isSome then .consumed else .unhandled) := by
  simp only [handle]
  rcases menu.addRow with ⟨_ | row, next⟩ <;> rfl

namespace Mirrors

variable (mirrors : Mirrors ids fresh menu)
include mirrors

theorem get?_row (row : RowId) : menu.rows.get? (ids.row row) = fresh.rows.get? row := by
  rw [mirrors.rows, Renaming.get?_rows, Option.map_id']

theorem size_rows : menu.rows.size = fresh.rows.size := by
  rw [mirrors.rows, Renaming.size_rows]

theorem entries (renewed : fresh.Coherent) (coherent : menu.Coherent) :
    menu.entries = fresh.entries := by
  rw [coherent.entries, renewed.entries, mirrors.rows, entriesOf, entriesOf]
  exact Renaming.ofRows_rows fun _ _ => rfl

theorem meet (row : RowId) (act : RowView → Settlement) :
    Mirrors ids (fresh.meet row act).menu (menu.meet (ids.row row) act).menu ∧
      (menu.meet (ids.row row) act).answer = ids.reply (fresh.meet row act).answer := by
  have found := mirrors.get?_row row
  cases shown : fresh.rows.get? row with
  | none =>
      simp only [Menu.meet, found, shown]
      exact ⟨mirrors, rfl⟩
  | some view =>
      rw [meet_shown shown, meet_shown (found.trans shown)]
      have replaced := ids.replace_rows (fun _ (view : RowView) => view) fresh.rows row
        (act view).fate
      rw [Option.map_id', ← mirrors.rows] at replaced
      exact ⟨⟨mirrors.labels, mirrors.options, replaced⟩, rfl⟩

theorem addRow (renewed : fresh.Coherent) :
    Mirrors ids fresh.addRow.2 menu.addRow.2 ∧ menu.addRow.1 = fresh.addRow.1.map ids.row := by
  have begun := renewed.ordered.issued_pos renewed.populated
  have same : ∀ id : RowId, 0 < id.number → ({} : RowView) = {} := fun _ _ => rfl
  have pushed := ids.push_rows (fun _ view => view) begun same
  rw [← mirrors.rows] at pushed
  have offers : menu.options.length = fresh.options.length := by rw [mirrors.options]
  by_cases full : fresh.options.length ≤ fresh.rows.size
  · simp only [Menu.addRow, offers, mirrors.size_rows, if_pos full]
    exact ⟨mirrors, rfl⟩
  · simp only [Menu.addRow, offers, mirrors.size_rows, if_neg full, pushed]
    exact ⟨⟨mirrors.labels, mirrors.options, rfl⟩, rfl⟩

theorem perform (renewed : fresh.Coherent) (coherent : menu.Coherent) (operation : Operation) :
    Mirrors ids (fresh.perform operation) (menu.perform (operation.rename ids)) ∧
      menu.answer (operation.rename ids) = (fresh.answer operation).rename ids := by
  cases addressed : operation.row? with
  | some row =>
      have addresses : (operation.rename ids).row? = some (ids.row row) := by
        rw [Operation.row?_rename, addressed]
        rfl
      obtain ⟨there, answered⟩ := renewed.perform_eq_meet addressed
      obtain ⟨here, answers⟩ := coherent.perform_eq_meet addresses
      rw [Operation.settlement_rename, mirrors.labels, mirrors.options, mirrors.size_rows]
        at here answers
      obtain ⟨left, answer⟩ := mirrors.meet row
        (operation.settlement fresh.labels fresh.options (fresh.rows.size = 1))
      rw [here, there, answers, answered, answer]
      exact ⟨left, rfl⟩
  | none =>
      obtain ⟨added, id⟩ := mirrors.addRow renewed
      cases operation with
      | addRow => exact ⟨added, congrArg Answer.added id⟩
      | handle action =>
          cases action with
          | toggle => exact ⟨⟨mirrors.labels, mirrors.options, mirrors.rows⟩, rfl⟩
          | addRow =>
              have answer : (menu.handle .addRow).answer =
                  ids.reply (fresh.handle .addRow).answer := by
                rw [handle_addRow_answer, handle_addRow_answer, id, Option.isSome_map]
                rfl
              rw [← menu.handle_addRow, ← fresh.handle_addRow] at added
              exact ⟨added, congrArg Answer.replied answer⟩
          | _ => cases addressed
      | _ => cases addressed

theorem shows (renewed : fresh.Coherent) (coherent : menu.Coherent) :
    menu.entries = fresh.entries ∧ menu.query = fresh.query ∧ menu.caption = fresh.caption ∧
      menu.aggregators = fresh.aggregators := by
  have entries := mirrors.entries renewed coherent
  have query : menu.query = fresh.query := by
    rw [Menu.query, Menu.query, mirrors.labels, entries]
  refine ⟨entries, query, ?_, ?_⟩
  · rw [Menu.caption, Menu.caption, mirrors.labels, query]
  · rw [Menu.aggregators, Menu.aggregators, entries]

theorem run (renewed : fresh.Coherent) (coherent : menu.Coherent) (operations : List Operation) :
    Mirrors ids (fresh.run operations) (menu.run (operations.map (Operation.rename ids))) := by
  induction operations generalizing fresh menu with
  | nil => exact mirrors
  | cons operation rest ih =>
      exact ih (mirrors.perform renewed coherent operation).1 (renewed.keeps operation).coherent
        (coherent.keeps _).coherent

theorem alike (renewed : fresh.Coherent) (coherent : menu.Coherent)
    (operations : List Operation) :
    let there := fresh.run operations
    let here := menu.run (operations.map (Operation.rename ids))
    Mirrors ids there here ∧ here.entries = there.entries ∧ here.query = there.query ∧
      here.caption = there.caption ∧ here.aggregators = there.aggregators ∧
      ∀ operation : Operation,
        here.answer (operation.rename ids) = (there.answer operation).rename ids := by
  have still := mirrors.run renewed coherent operations
  have left := (renewed.keeps_run operations).coherent
  have right := (coherent.keeps_run (operations.map (Operation.rename ids))).coherent
  obtain ⟨entries, query, caption, aggregators⟩ := still.shows left right
  exact ⟨still, entries, query, caption, aggregators, fun operation =>
    (still.perform left right operation).2⟩

end Mirrors

namespace Coherent

variable (coherent : menu.Coherent)
include coherent

theorem labels_perform (operation : Operation) : (menu.perform operation).labels = menu.labels := by
  cases addressed : operation.row? with
  | some row =>
      rw [(coherent.perform_eq_meet addressed).1]
      unfold Menu.meet
      split <;> rfl
  | none =>
      have added : menu.addRow.2.labels = menu.labels := by
        unfold Menu.addRow
        split <;> rfl
      cases operation with
      | addRow => exact added
      | handle action =>
          cases action with
          | toggle => rfl
          | addRow => exact (congrArg labels menu.handle_addRow).trans added
          | _ => cases addressed
      | _ => cases addressed

theorem labels_run (operations : List Operation) : (menu.run operations).labels = menu.labels := by
  induction operations generalizing menu with
  | nil => rfl
  | cons operation rest ih =>
      exact (ih (coherent.keeps operation).coherent).trans (coherent.labels_perform operation)

theorem mirrors_deleteRow (only : menu.rows.rows = [⟨row, view⟩])
    (below : row.number < menu.rows.issued) :
    Mirrors ⟨row, menu.rows.issued, below⟩ (start menu.labels menu.options)
      (menu.perform (.deleteRow row)) := by
  have single : menu.rows.size = 1 := by rw [Rows.size, only]; rfl
  have shown : menu.rows.get? row = some view := by simp [Rows.get?, only]
  have addressed : (Operation.deleteRow row).row? = some row := rfl
  have performed := (coherent.perform_eq_meet addressed).1
  rw [meet_shown shown] at performed
  rw [performed]
  refine ⟨rfl, rfl, ?_⟩
  simp [settle, Operation.settlement, Settlement.ofDeletion, single, Rows.replace, only,
    Row.replaced, Renaming.rows, start, Rows.start, Rows.push, Renaming.row]

end Coherent

end Menu

end QueryMenu.Aggregation
