import QueryMenu.Proofs.Aggregation.Settlement
import QueryMenu.Proofs.DataSource.Dates
import QueryMenu.Proofs.DataSource.Settlement

namespace QueryMenu

/-! The rows of a menu are independent of each other.

Both menus find the entry of a row by position, although positions shift when a row is
deleted.  In every state of every run an operation still reaches its own row only: the
other rows keep what they show, what they hold and what they put into the query, and it
does not matter which of two operations on different rows comes first.
-/

/-- An operation on a row leaves every other row alone, and so does a new row. -/
theorem run_start_frames :
    (∀ (labels : AggregationLabels) (options : List String)
        (operations : List Aggregation.Operation),
      let menu := (Aggregation.Menu.start labels options).run operations
      menu.aggregators = menu.rows.ids.filterMap (menu.entries.heldBy? menu.rows) ∧
      (∀ operation row, operation.row? = some row →
        let next := menu.perform operation
        Frame row menu.rows next.rows menu.entries next.entries) ∧
      ∀ operation, operation.Adds →
        let next := menu.perform operation
        Extension menu.rows next.rows menu.entries next.entries) ∧
    ∀ (labels : DataSourceLabels) (operations : List DataSource.Operation),
      let menu := (DataSource.Menu.start labels).run operations
      (menu.query =
        if menu.rows.ids.filterMap menu.requestOf? = [] then none
        else some (menu.rows.ids.filterMap menu.requestOf?)) ∧
      (∀ operation row, operation.row? = some row →
        let next := menu.perform operation
        Frame row menu.rows next.rows menu.entries next.entries ∧
          ∀ other, other ≠ row → next.requestOf? other = menu.requestOf? other) ∧
      ∀ operation, operation.Adds →
        let next := menu.perform operation
        Extension menu.rows next.rows menu.entries next.entries ∧
          ∀ row, (menu.rows.get? row).isSome → next.requestOf? row = menu.requestOf? row := by
  refine ⟨fun labels options operations => ?_, fun labels operations => ?_⟩
  · intro menu
    have coherent : menu.Coherent :=
      (Aggregation.Menu.keeps_run_start labels options operations).coherent
    exact ⟨coherent.aggregators_eq, fun _ _ => coherent.frame, fun _ => coherent.extension⟩
  · intro menu
    have coherent : menu.Coherent := DataSource.Menu.run_start_coherent labels operations
    refine ⟨coherent.query_eq, fun operation row addressed => ?_, fun operation adds => ?_⟩
    · have frame := coherent.frame addressed
      exact ⟨frame, fun other different =>
        congrArg (Option.map MarketDataRequest.ofDataSource) (frame.held other different)⟩
    · have extension := coherent.extension adds
      exact ⟨extension, fun row present =>
        congrArg (Option.map MarketDataRequest.ofDataSource) (extension.held row present)⟩

/-- The first of three rows is deleted, and a row is added: the last of the three is one
position higher, with its entry, and asks for the same source. -/
theorem run_start_frames_delete :
    (let operations : List Aggregation.Operation :=
      [.addRow, .addRow, .choose ⟨0⟩ (.value "Sum"), .choose ⟨2⟩ (.value "Max")]
    let menu := (Aggregation.Menu.start {} ["Sum", "Mean", "Max"]).run operations
    let next := menu.perform (.deleteRow ⟨0⟩)
    let last := next.perform (.handle .addRow)
    next.rows.position? ⟨2⟩ = some 1 ∧ next.entries.find? 1 = some ⟨1, ⟨"Max", false⟩⟩ ∧
      last.rows.position? ⟨2⟩ = some 1 ∧ last.entries = next.entries) ∧
    let operations : List DataSource.Operation :=
      [.addRow, .addRow, .chooseKind ⟨2⟩ (.value .live),
        .deliver ⟨⟨2⟩, .live, 1⟩ (.ok ["EURUSD"]), .chooseSource ⟨2⟩ (.value "EURUSD")]
    let menu := (DataSource.Menu.start {}).run operations
    let next := menu.perform (.handle (.deleteRow ⟨0⟩))
    let last := next.perform .addRow
    next.rows.position? ⟨2⟩ = some 1 ∧ next.requestOf? ⟨2⟩ = some (.live "EURUSD") ∧
      last.rows.position? ⟨2⟩ = some 1 ∧ last.requestOf? ⟨2⟩ = some (.live "EURUSD") := by
  obtain ⟨aggregation, dataSource⟩ := run_start_frames
  refine ⟨?_, ?_⟩
  · intro operations menu next last
    obtain ⟨-, frames, -⟩ := aggregation {} ["Sum", "Mean", "Max"] operations
    obtain ⟨-, -, extensions⟩ :=
      aggregation {} ["Sum", "Mean", "Max"] (operations ++ [.deleteRow ⟨0⟩])
    have frame := frames (.deleteRow ⟨0⟩) ⟨0⟩ rfl
    have extension : Extension next.rows last.rows next.entries last.entries :=
      extensions (.handle .addRow) trivial
    have standing : menu.rows.position? ⟨2⟩ = some 2 := by decide +kernel
    have holds : menu.entries.find? 2 = some ⟨2, ⟨"Max", false⟩⟩ := by decide +kernel
    have closes : menu.rows.ClosesUp next.rows ⟨0⟩ 2 :=
      ⟨by decide +kernel, 0, by decide +kernel, by decide⟩
    obtain ⟨place, moved, found, up, -⟩ := frame.place ⟨2⟩ 2 (by decide) standing
    obtain rfl : place = 1 := Nat.succ.inj (up closes)
    rw [holds] at found
    exact ⟨moved, found, extension.place _ _ moved, extension.stored⟩
  · intro operations menu next last
    obtain ⟨-, frames, -⟩ := dataSource {} operations
    obtain ⟨-, -, extensions⟩ := dataSource {} (operations ++ [.handle (.deleteRow ⟨0⟩)])
    obtain ⟨frame, requests⟩ := frames (.handle (.deleteRow ⟨0⟩)) ⟨0⟩ rfl
    obtain ⟨extension, later⟩ : Extension next.rows last.rows next.entries last.entries ∧
        ∀ row, (next.rows.get? row).isSome → last.requestOf? row = next.requestOf? row :=
      extensions .addRow trivial
    have standing : menu.rows.position? ⟨2⟩ = some 2 := by decide +kernel
    have asked : menu.requestOf? ⟨2⟩ = some (.live "EURUSD") := by decide +kernel
    have closes : menu.rows.ClosesUp next.rows ⟨0⟩ 2 :=
      ⟨by decide +kernel, 0, by decide +kernel, by decide⟩
    obtain ⟨place, moved, -, up, -⟩ := frame.place ⟨2⟩ 2 (by decide) standing
    obtain rfl : place = 1 := Nat.succ.inj (up closes)
    have still : next.requestOf? ⟨2⟩ = some (.live "EURUSD") :=
      (requests ⟨2⟩ (by decide)).trans asked
    exact ⟨moved, still, extension.place _ _ moved, (later ⟨2⟩ (by decide +kernel)).trans still⟩

/-- Two operations on different rows on screen come to the same in either order, unless
both are deletions and there is no third row.  A result for a historical source is left
out, because it brings resolver keys for every row. -/
theorem run_start_commutes :
    (∀ (labels : AggregationLabels) (options : List String)
        (operations : List Aggregation.Operation),
      let menu := (Aggregation.Menu.start labels options).run operations
      ∀ row other, row ≠ other →
        (menu.rows.get? row).isSome → (menu.rows.get? other).isSome →
        ∀ first second : Aggregation.Operation,
          first.row? = some row → second.row? = some other →
          ¬ (first.Deletes ∧ second.Deletes ∧ menu.rows.size = 2) →
          (menu.perform second).answer first = menu.answer first ∧
          (menu.perform first).answer second = menu.answer second ∧
          (menu.perform first).perform second = (menu.perform second).perform first) ∧
    ∀ (labels : DataSourceLabels) (operations : List DataSource.Operation),
      let menu := (DataSource.Menu.start labels).run operations
      ∀ row other, row ≠ other →
        (menu.rows.get? row).isSome → (menu.rows.get? other).isSome →
        ∀ first second : DataSource.Operation,
          first.row? = some row → second.row? = some other →
          ¬ first.DeliversKeys → ¬ second.DeliversKeys →
          ¬ (first.Deletes ∧ second.Deletes ∧ menu.rows.size = 2) →
          (menu.perform second).answer first = menu.answer first ∧
          (menu.perform first).answer second = menu.answer second ∧
          menu.Meeting (menu.perform first) (menu.perform second)
            ((menu.perform first).perform second) ((menu.perform second).perform first) := by
  refine ⟨fun labels options operations => ?_, fun labels operations => ?_⟩
  · intro menu row other different present besides first second addressed addresses several
    have coherent : menu.Coherent :=
      (Aggregation.Menu.keeps_run_start labels options operations).coherent
    obtain ⟨view, found⟩ := Option.isSome_iff_exists.mp present
    obtain ⟨shown, standing⟩ := Option.isSome_iff_exists.mp besides
    exact coherent.perform_comm different found standing addressed addresses several
  · intro menu row other different present besides first second addressed addresses keyless plain
      several
    have coherent : menu.Coherent := DataSource.Menu.run_start_coherent labels operations
    obtain ⟨view, found⟩ := Option.isSome_iff_exists.mp present
    obtain ⟨shown, standing⟩ := Option.isSome_iff_exists.mp besides
    exact coherent.perform_meeting different found standing addressed addresses keyless plain
      several

/-- A choice on the second row and the deletion of the first in either order. -/
theorem run_start_commutes_delete :
    (let menu := (Aggregation.Menu.start {} ["Sum", "Mean"]).run [.addRow]
    let choose : Aggregation.Operation := .choose ⟨1⟩ (.value "Mean")
    let delete : Aggregation.Operation := .deleteRow ⟨0⟩
    (menu.perform choose).perform delete = (menu.perform delete).perform choose ∧
      ((menu.perform delete).perform choose).aggregators = [⟨"Mean", false⟩]) ∧
    let menu := (DataSource.Menu.start {}).run [.addRow]
    let choose : DataSource.Operation := .chooseKind ⟨1⟩ (.value .live)
    let delete : DataSource.Operation := .deleteRow ⟨0⟩
    ((menu.perform delete).perform choose).rows = ((menu.perform choose).perform delete).rows ∧
      ((menu.perform delete).perform choose).events =
        [.rowsRepositioned, .typeSelected ⟨1⟩ .live] ∧
      ((menu.perform choose).perform delete).events =
        [.typeSelected ⟨1⟩ .live, .rowsRepositioned] := by
  obtain ⟨aggregation, dataSource⟩ := run_start_commutes
  refine ⟨?_, ?_⟩
  · intro menu choose delete
    obtain ⟨-, -, same⟩ := aggregation {} ["Sum", "Mean"] [.addRow] ⟨1⟩ ⟨0⟩ (by decide)
      (by decide +kernel) (by decide +kernel) choose delete rfl rfl fun both => both.1
    exact ⟨same, by decide +kernel⟩
  · intro menu choose delete
    obtain ⟨-, -, meeting⟩ := dataSource {} [.addRow] ⟨1⟩ ⟨0⟩ (by decide)
      (by decide +kernel) (by decide +kernel) choose delete rfl rfl id id fun both => both.1
    exact ⟨meeting.rows, by decide +kernel, by decide +kernel⟩

end QueryMenu
