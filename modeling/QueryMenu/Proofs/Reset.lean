import QueryMenu.Proofs.Aggregation.Renewal
import QueryMenu.Proofs.DataSource.Reset
import QueryMenu.Proofs.Ending

namespace QueryMenu

/-! The deletion of the only row.

The only row of a menu is not taken away but emptied.  Nothing is left then of what the
menu has been through, except for what is out of its hands: ids that it has issued,
generations that its tickets name, and what waits to be taken.  It goes on like a new menu
under other names.
-/

/-- A menu whose only row was deleted and a new menu answer alike and show the same, for
operations that name the row, rows added later and tickets issued later; these stand for
operations on the first row of the new menu, its later rows and its tickets.  A data-source
menu keeps its resolver keys, and what it had queued comes before the rest.  No ticket from
before the deletion fills in a row again, whatever the host does. -/
theorem deletion_renews :
    (∀ (labels : AggregationLabels) (options : List String)
        (operations : List Aggregation.Operation) (lifecycle : Lifecycle),
      let menu := { (Aggregation.Menu.start labels options).run operations with lifecycle }
      ∀ row view, menu.rows.rows = [⟨row, view⟩] →
        let reset := menu.perform (.deleteRow row)
        ∃ ids : Renaming, ids.first = row ∧ ids.issued = reset.rows.issued ∧
          (∀ later : List Aggregation.Operation,
            (∀ operation ∈ later, ∀ named, operation.row? = some named →
              named = row ∨ reset.rows.issued ≤ named.number) →
            ∃ originals : List Aggregation.Operation,
              originals.map (Aggregation.Operation.rename ids) = later) ∧
          ∀ originals : List Aggregation.Operation,
            let there := (Aggregation.Menu.start labels options).run originals
            let here := reset.run (originals.map (Aggregation.Operation.rename ids))
            Aggregation.Menu.Mirrors ids there here ∧ here.entries = there.entries ∧
              here.query = there.query ∧ here.caption = there.caption ∧
              here.aggregators = there.aggregators ∧
              ∀ operation : Aggregation.Operation,
                here.answer (operation.rename ids) = (there.answer operation).rename ids) ∧
    ∀ (labels : DataSourceLabels) (operations : List DataSource.Operation)
        (lifecycle : Lifecycle),
      let menu := { (DataSource.Menu.start labels).run operations with lifecycle }
      ∀ row view, menu.rows.rows = [⟨row, view⟩] →
        let reset := menu.perform (.deleteRow row)
        let fresh := { DataSource.Menu.start labels with knownKeys := menu.knownKeys }
        (∃ renewal : DataSource.Renewal,
          renewal.first = row ∧ renewal.issued = reset.rows.issued ∧
          renewal.age = view.generation + 1 ∧
          (∀ later : List DataSource.Operation, reset.NamesNew row later →
            ∃ originals : List DataSource.Operation,
              originals.map renewal.operation = later) ∧
          ∀ originals : List DataSource.Operation,
            let left := (⟨reset.tickets, reset.events⟩ : DataSource.Leftover).afterAll originals
            let there := fresh.run originals
            let here := reset.run (originals.map renewal.operation)
            DataSource.Menu.Mirrors renewal left there here ∧ here.entries = there.entries ∧
              here.query = there.query ∧ here.render = there.render ∧
              ∀ operation : DataSource.Operation,
                here.answer (renewal.operation operation) =
                  renewal.answer left (there.answer operation)) ∧
        ∀ ticket,
          (∃ step ∈ (DataSource.Menu.start labels).history operations,
            step.1.Issues step.2 ticket) →
          ∀ later result,
            ((reset.run later).deliver ticket result).1 = false ∧
              ((reset.run later).deliver ticket result).2.rows = (reset.run later).rows := by
  refine ⟨?_, ?_⟩
  · intro labels options operations lifecycle menu row view only reset
    have coherent : menu.Coherent :=
      Aggregation.Menu.reached_coherent labels options operations lifecycle
    have labelled : menu.labels = labels :=
      (Aggregation.Menu.start_coherent labels options).labels_run operations
    have offers : menu.options = options :=
      (Aggregation.Menu.keeps_run_start labels options operations).options
    have below : row.number < menu.rows.issued :=
      coherent.ordered.issued row (by rw [Rows.ids, only]; exact List.mem_singleton.mpr rfl)
    have mirrors := coherent.mirrors_deleteRow only below
    rw [labelled, offers] at mirrors
    have issued : menu.rows.issued = reset.rows.issued :=
      (congrArg Rows.issued mirrors.rows).symm
    refine ⟨⟨row, menu.rows.issued, below⟩, rfl, issued, fun later named => ?_,
      fun originals => ?_⟩
    · rw [← issued] at named
      exact Aggregation.Operation.exists_map_rename named
    · exact mirrors.alike (Aggregation.Menu.start_coherent labels options)
        (coherent.keeps (.deleteRow row)).coherent originals
  · intro labels operations lifecycle menu row view only reset fresh
    have coherent : menu.Coherent := DataSource.Menu.reached_coherent labels operations lifecycle
    have labelled : menu.labels = labels :=
      (DataSource.Menu.start_coherent labels).run_labels operations
    have below : row.number < menu.rows.issued :=
      coherent.ordered.issued row (by rw [Rows.ids, only]; exact List.mem_singleton.mpr rfl)
    have mirrors := coherent.mirrors_deleteRow only below
    rw [labelled] at mirrors
    have issued : menu.rows.issued = reset.rows.issued :=
      (congrArg Rows.issued mirrors.rows).symm
    have renewed : fresh.Coherent :=
      (DataSource.Menu.start_coherent labels).of_same rfl rfl rfl
    have next := coherent.perform (.deleteRow row)
    refine ⟨⟨⟨⟨row, menu.rows.issued, below⟩, view.generation + 1⟩, rfl, issued, rfl,
      fun later new => ?_, fun originals => ?_⟩, fun ticket before later result => ?_⟩
    · exact mirrors.exists_operations renewed next issued.symm new
    · exact mirrors.alike renewed next originals
    · obtain ⟨step, member, issues⟩ := before
      have past :=
        (DataSource.Menu.start_coherent labels).past_of_issued operations step member issues
      have spent := coherent.spent_deleteRow only (past.of_rows rfl)
      exact (next.run later).deliver_of_spent (next.spent_run spent later) result

/-- A row that is not the first one is emptied and used again: it counts its generations on,
and the ticket from before the deletion does nothing for the same kind. -/
theorem deletion_renews_used_row :
    (let menu := (Aggregation.Menu.start {} ["Sum", "Mean"]).run
      [.addRow, .deleteRow ⟨0⟩, .choose ⟨1⟩ (.value "Sum"), .require ⟨1⟩ true]
    let reset := menu.perform (.deleteRow ⟨1⟩)
    (reset.run [.addRow, .choose ⟨2⟩ (.value "Mean"), .choose ⟨1⟩ (.value "Sum")]).aggregators =
      ((Aggregation.Menu.start {} ["Sum", "Mean"]).run
        [.addRow, .choose ⟨1⟩ (.value "Mean"), .choose ⟨0⟩ (.value "Sum")]).aggregators) ∧
    let menu := (DataSource.Menu.start {}).run
      [.addRow, .deleteRow ⟨0⟩, .chooseKind ⟨1⟩ (.value .live)]
    let reset := menu.perform (.deleteRow ⟨1⟩)
    let later : List DataSource.Operation :=
      [.chooseKind ⟨1⟩ (.value .live), .deliver ⟨⟨1⟩, .live, 3⟩ (.ok ["EURUSD"]),
        .chooseSource ⟨1⟩ (.value "EURUSD")]
    reset.NamesNew ⟨1⟩ later ∧ (∃ originals : List DataSource.Operation,
        originals.length = later.length ∧
          (reset.run later).query = ((DataSource.Menu.start {}).run originals).query) ∧
      (reset.run later).render =
        ((DataSource.Menu.start {}).run
          [.chooseKind ⟨0⟩ (.value .live), .deliver ⟨⟨0⟩, .live, 1⟩ (.ok ["EURUSD"]),
            .chooseSource ⟨0⟩ (.value "EURUSD")]).render ∧
      ((reset.run [.chooseKind ⟨1⟩ (.value .live)]).deliver ⟨⟨1⟩, .live, 1⟩ (.ok ["EURUSD"])).1 =
        false := by
  obtain ⟨aggregation, dataSource⟩ := deletion_renews
  refine ⟨?_, ?_⟩
  · intro menu reset
    obtain ⟨⟨first, issued, below⟩, own, count, -, alike⟩ :=
      aggregation {} ["Sum", "Mean"]
        [.addRow, .deleteRow ⟨0⟩, .choose ⟨1⟩ (.value "Sum"), .require ⟨1⟩ true] menu.lifecycle
        ⟨1⟩ ⟨.value "Sum", true, true⟩ (by decide +kernel)
    have two : issued = 2 := count.trans (by decide +kernel)
    subst own two
    exact (alike [.addRow, .choose ⟨1⟩ (.value "Mean"), .choose ⟨0⟩ (.value "Sum")]).2.2.2.2.1
  · intro menu reset later
    obtain ⟨⟨⟨⟨first, issued, below⟩, age⟩, own, count, aged, named, alike⟩, old⟩ :=
      dataSource {} [.addRow, .deleteRow ⟨0⟩, .chooseKind ⟨1⟩ (.value .live)] menu.lifecycle ⟨1⟩
        ⟨some .live, none, [], .placeholder, .hidden "Custom", 1, some 1⟩ (by decide +kernel)
    have issues : reset.Issues (.chooseKind ⟨1⟩ (.value .live)) ⟨⟨1⟩, .live, 3⟩ := by
      unfold DataSource.Menu.Issues
      decide +kernel
    have new : reset.NamesNew ⟨1⟩ later := by
      intro before operation after same
      simp only [later] at same
      rcases before with _ | ⟨first, _ | ⟨second, _ | ⟨third, rest⟩⟩⟩ <;>
        simp only [List.nil_append, List.cons_append, List.cons.injEq] at same
      · obtain ⟨rfl, -⟩ := same
        exact ⟨by rintro _ ⟨⟩; exact .inl rfl, by rintro _ _ ⟨⟩⟩
      · obtain ⟨rfl, rfl, -⟩ := same
        refine ⟨by rintro _ ⟨⟩; exact .inl rfl, ?_⟩
        rintro _ _ ⟨⟩
        exact ⟨_, List.mem_cons_self, issues⟩
      · obtain ⟨-, -, rfl, -⟩ := same
        exact ⟨by rintro _ ⟨⟩; exact .inl rfl, by rintro _ _ ⟨⟩⟩
      · simp at same
    have two : issued = 2 := count.trans (by decide +kernel)
    obtain ⟨originals, same⟩ := named later new
    have asked := (alike originals).2.2.1
    rw [same] at asked
    have rendered := (alike [.chooseKind ⟨0⟩ (.value .live),
      .deliver ⟨⟨0⟩, .live, 1⟩ (.ok ["EURUSD"]), .chooseSource ⟨0⟩ (.value "EURUSD")]).2.2.2.1
    subst own two aged
    refine ⟨new, ⟨originals, by rw [← same, List.length_map], asked⟩, rendered, ?_⟩
    have before : ∃ step ∈ (DataSource.Menu.start {}).history
        [.addRow, .deleteRow ⟨0⟩, .chooseKind ⟨1⟩ (.value .live)],
        step.1.Issues step.2 ⟨⟨1⟩, .live, 1⟩ := by
      refine ⟨_, .tail _ (.tail _ (.head _)), ?_⟩
      unfold DataSource.Menu.Issues
      decide +kernel
    exact (old _ before [.chooseKind ⟨1⟩ (.value .live)] (.ok ["EURUSD"])).1

end QueryMenu
