import QueryMenu.Proofs.Replay.Effect

namespace QueryMenu.Replay

/-! The two menus do not meet.

A step works on the rows of its own menu, and the aggregation menu announces nothing.  A
run of a script is therefore a run of the aggregation steps beside a run of the
data-source steps, and how the two are interleaved shows only in the numbers under which
steps are noted.
-/

namespace MenuName

variable {menu : MenuName} {step : Step}

def own (menu : MenuName) (steps : List Step) : List Step :=
  steps.filter fun step => step.menu = menu

/-- The steps of a menu, in their order, each with whether its index is listed; the first
of all steps has the given index. -/
def flagged (menu : MenuName) (first : Nat) (steps : List Step) (listed : List Nat) :
    List (Step × Bool) :=
  ((steps.zipIdx first).filter fun entry => entry.1.menu = menu).map
    fun entry => (entry.1, listed.contains entry.2)

theorem own_cons_self (rest : List Step) (same : step.menu = menu) :
    menu.own (step :: rest) = step :: menu.own rest := by
  simp [own, same]

theorem own_cons_other (rest : List Step) (foreign : step.menu ≠ menu) :
    menu.own (step :: rest) = menu.own rest := by
  simp [own, foreign]

theorem flagged_cons_self (first : Nat) (rest : List Step) (listed : List Nat)
    (same : step.menu = menu) :
    menu.flagged first (step :: rest) listed =
      (step, listed.contains first) :: menu.flagged (first + 1) rest listed := by
  simp [flagged, same]

theorem flagged_cons_other (first : Nat) (rest : List Step) (listed : List Nat)
    (foreign : step.menu ≠ menu) :
    menu.flagged first (step :: rest) listed = menu.flagged (first + 1) rest listed := by
  simp [flagged, foreign]

end MenuName

namespace Plain

/-- What the steps of one menu come to. -/
structure Course (α : Type) where
  rows : List α
  /-- Each step, with whether it is to be noted. -/
  flagged : List (Step × Bool)
  events : List String

def follow {α : Type} (act : List α → Step → Option (Outcome α)) (rows : List α) :
    List Step → Option (Course α)
  | [] => some ⟨rows, [], []⟩
  | step :: rest => do
    let outcome ← act rows step
    let course ← follow act outcome.rows rest
    return ⟨course.rows, (step, outcome.response = .unhandled) :: course.flagged,
      outcome.events ++ course.events⟩

theorem follow_cons_eq_some_iff {α : Type} {act : List α → Step → Option (Outcome α)}
    {rows : List α} {step : Step} {rest : List Step} {course : Course α} :
    follow act rows (step :: rest) = some course ↔
      ∃ outcome later, act rows step = some outcome ∧
        follow act outcome.rows rest = some later ∧
        course = ⟨later.rows, (step, outcome.response = .unhandled) :: later.flagged,
          outcome.events ++ later.events⟩ := by
  simp only [follow, Option.bind_eq_bind, Option.bind_eq_some_iff, Option.pure_def,
    Option.some.injEq]
  constructor
  · rintro ⟨outcome, acted, later, went, rfl⟩
    exact ⟨outcome, later, acted, went, rfl⟩
  · rintro ⟨outcome, later, acted, went, rfl⟩
    exact ⟨outcome, acted, later, went, rfl⟩

def Outcome.Quiet {α : Type} (outcome : Outcome α) : Prop :=
  outcome.events = []

theorem delete_quiet {α : Type} (rows : List α) (position : Nat) (empty : α) :
    (delete rows position empty [] []).Quiet := by
  unfold delete
  split <;> rfl

section Aggregation

variable {labels : AggregationLabels} {offered : List String} (rows : List (Option Aggregator))
  (position : Nat) (row : Option Aggregator)

theorem choose_quiet (text : String) :
    (change rows position (choose labels offered row text)).Quiet := by
  unfold choose
  split
  · rfl
  · split
    · cases row <;> rfl
    · rfl

theorem require_quiet (checked : Bool) :
    (change rows position (require row checked)).Quiet := by
  cases row <;> rfl

theorem aggregate_quiet {rows : List (Option Aggregator)} {step : Step}
    {outcome : Outcome (Option Aggregator)}
    (came : aggregate labels offered rows step = some outcome) : outcome.Quiet := by
  cases action : step.action <;> simp only [aggregate, action] at came
  case toggle =>
    cases came
    rfl
  case addRow =>
    cases came
    split <;> rfl
  case deleteRow => exact outcome_of_row Outcome.Quiet came fun _ => delete_quiet ..
  case choose => exact outcome_of_text Outcome.Quiet came fun _ _ => choose_quiet ..
  case require => exact outcome_of_row Outcome.Quiet came fun _ => require_quiet ..
  case chooseKind | chooseSource | enterDate | useLatestDate => cases came

end Aggregation

namespace State

variable {script : Script} {labels : Labels} {state final : State} {index : Nat}
  {steps : List Step}

/-- A run is a run of each menu's own steps on its own rows. -/
theorem follow_of_runFrom (ran : state.runFrom script labels index steps = some final)
    (early : state.NotedBefore index) :
    follow (aggregate labels.aggregation script.aggregators) state.aggregators
        (MenuName.aggregation.own steps) =
      some ⟨final.aggregators, MenuName.aggregation.flagged index steps final.unhandled, []⟩ ∧
    ∃ events, follow (arrange labels.dataSources (.ofProvider script.provider)) state.cells
          (MenuName.dataSources.own steps) =
        some ⟨final.cells, MenuName.dataSources.flagged index steps final.unhandled,
          events⟩ ∧
      final.events = state.events ++ events := by
  induction steps generalizing state index with
  | nil =>
      cases ran
      exact ⟨rfl, [], rfl, (List.append_nil _).symm⟩
  | cons step rest ih =>
      obtain ⟨effect, came, went⟩ := runFrom_cons_eq_some_iff.mp ran
      have noted : final.unhandled.contains index = decide (effect.response = .unhandled) := by
        rw [List.contains_eq_mem]
        exact decide_eq_decide.mpr (mem_unhandled_iff early went)
      obtain ⟨aggregating, events, arranging, announced⟩ := ih went (early.after effect)
      unfold effect? at came
      cases menu : step.menu with
      | aggregation =>
          have foreign : step.menu ≠ .dataSources := by simp [menu]
          rw [menu] at came
          obtain ⟨outcome, acted, rfl⟩ := Option.map_eq_some_iff.mp came
          have quiet : outcome.events = [] := aggregate_quiet acted
          rw [MenuName.own_cons_self rest menu, MenuName.own_cons_other rest foreign,
            MenuName.flagged_cons_self index rest _ menu,
            MenuName.flagged_cons_other index rest _ foreign, noted]
          refine ⟨follow_cons_eq_some_iff.mpr ⟨outcome, _, acted, aggregating, ?_⟩, events,
            arranging, ?_⟩
          · rw [quiet]
            rfl
          · rw [announced, after, quiet, List.append_nil]
      | dataSources =>
          have foreign : step.menu ≠ .aggregation := by simp [menu]
          rw [menu] at came
          obtain ⟨outcome, acted, rfl⟩ := Option.map_eq_some_iff.mp came
          rw [MenuName.own_cons_self rest menu, MenuName.own_cons_other rest foreign,
            MenuName.flagged_cons_self index rest _ menu,
            MenuName.flagged_cons_other index rest _ foreign, noted]
          refine ⟨aggregating, outcome.events ++ events,
            follow_cons_eq_some_iff.mpr ⟨outcome, _, acted, arranging, rfl⟩, ?_⟩
          rw [announced, after, List.append_assoc]

/-- A run gets through if the runs of each menu's own steps do. -/
theorem exists_runFrom {aggregators : Course (Option Aggregator)} {cells : Course Cell}
    (aggregating : follow (aggregate labels.aggregation script.aggregators)
      state.aggregators (MenuName.aggregation.own steps) = some aggregators)
    (arranging : follow (arrange labels.dataSources (.ofProvider script.provider))
      state.cells (MenuName.dataSources.own steps) = some cells) :
    ∃ final, state.runFrom script labels index steps = some final := by
  induction steps generalizing state index aggregators cells with
  | nil => exact ⟨state, rfl⟩
  | cons step rest ih =>
      cases menu : step.menu with
      | aggregation =>
          have foreign : step.menu ≠ .dataSources := by simp [menu]
          rw [MenuName.own_cons_self rest menu] at aggregating
          rw [MenuName.own_cons_other rest foreign] at arranging
          obtain ⟨outcome, later, acted, went, -⟩ := follow_cons_eq_some_iff.mp aggregating
          let effect : Effect := ⟨outcome.rows, state.cells, outcome.response, outcome.events⟩
          have came : state.effect? script labels step = some effect := by
            simp only [effect?, menu, acted, Option.map_some, effect]
          obtain ⟨final, ran⟩ : ∃ final, (state.after index effect).runFrom script labels
              (index + 1) rest = some final := ih went arranging
          exact ⟨final, runFrom_cons_eq_some_iff.mpr ⟨effect, came, ran⟩⟩
      | dataSources =>
          have foreign : step.menu ≠ .aggregation := by simp [menu]
          rw [MenuName.own_cons_other rest foreign] at aggregating
          rw [MenuName.own_cons_self rest menu] at arranging
          obtain ⟨outcome, later, acted, went, -⟩ := follow_cons_eq_some_iff.mp arranging
          let effect : Effect :=
            ⟨state.aggregators, outcome.rows, outcome.response, outcome.events⟩
          have came : state.effect? script labels step = some effect := by
            simp only [effect?, menu, acted, Option.map_some, effect]
          obtain ⟨final, ran⟩ : ∃ final, (state.after index effect).runFrom script labels
              (index + 1) rest = some final := ih aggregating went
          exact ⟨final, runFrom_cons_eq_some_iff.mpr ⟨effect, came, ran⟩⟩

/-- Another interleaving of the same steps takes a run to the same rows. -/
theorem runFrom_interleaved {others : List Step}
    (own : ∀ menu : MenuName, menu.own others = menu.own steps)
    (early : state.NotedBefore index)
    (ran : state.runFrom script labels index steps = some final) :
    ∃ met, state.runFrom script labels index others = some met ∧
      met.aggregators = final.aggregators ∧ met.cells = final.cells ∧
      met.events = final.events ∧
      ∀ menu : MenuName, menu.flagged index others met.unhandled =
        menu.flagged index steps final.unhandled := by
  obtain ⟨aggregating, events, arranging, announced⟩ := follow_of_runFrom ran early
  rw [← own] at aggregating arranging
  obtain ⟨met, ranToo⟩ : ∃ met, state.runFrom script labels index others = some met :=
    exists_runFrom aggregating arranging
  obtain ⟨aggregatingToo, eventsToo, arrangingToo, announcedToo⟩ :=
    follow_of_runFrom ranToo early
  obtain ⟨aggregators, noted, -⟩ := Course.mk.inj
    (Option.some.inj (aggregatingToo.symm.trans aggregating))
  obtain ⟨cells, notedToo, rfl⟩ := Course.mk.inj
    (Option.some.inj (arrangingToo.symm.trans arranging))
  refine ⟨met, ranToo, aggregators, cells, announcedToo.trans announced.symm, fun menu => ?_⟩
  cases menu with
  | aggregation => exact noted
  | dataSources => exact notedToo

end State

end Plain

theorem exists_run_interleaved {script other : Script} {labels : Labels} {report : Report}
    (aggregators : other.aggregators = script.aggregators)
    (provider : other.provider = script.provider)
    (own : ∀ menu : MenuName, menu.own other.steps = menu.own script.steps)
    (ran : run script labels = .ok report) :
    ∃ met, run other labels = .ok met ∧ met = { report with unhandled := met.unhandled } ∧
      ∀ menu : MenuName, menu.flagged 0 other.steps met.unhandled =
        menu.flagged 0 script.steps report.unhandled := by
  obtain ⟨final, went, rfl⟩ := run_eq_ok_iff.mp ran
  have fresh : Plain.State.NotedBefore {} 0 := fun _ member => by cases member
  obtain ⟨reached, wentToo, rows, cells, events, noted⟩ :=
    Plain.State.runFrom_interleaved own fresh went
  rw [← Plain.State.runFrom_congr aggregators provider] at wentToo
  refine ⟨reached.report labels, run_eq_ok_iff.mpr ⟨reached, wentToo, rfl⟩, ?_, noted⟩
  simp only [Plain.State.report, rows, cells, events]

/-- Two scripts with the same steps for each menu, however these are interleaved, both
succeed or both fail, and their reports differ only in the numbers of the noted steps: of
the steps of each menu, the same ones are noted. -/
theorem run_interleaved {script other : Script} (labels : Labels)
    (aggregators : other.aggregators = script.aggregators)
    (provider : other.provider = script.provider)
    (own : ∀ menu : MenuName, menu.own other.steps = menu.own script.steps) :
    ((∃ report, run script labels = .ok report) ↔ ∃ met, run other labels = .ok met) ∧
    ∀ report met, run script labels = .ok report → run other labels = .ok met →
      met = { report with unhandled := met.unhandled } ∧
      ∀ menu : MenuName, menu.flagged 0 other.steps met.unhandled =
        menu.flagged 0 script.steps report.unhandled := by
  refine ⟨⟨?_, ?_⟩, ?_⟩
  · rintro ⟨report, ran⟩
    obtain ⟨met, ranToo, -⟩ := exists_run_interleaved aggregators provider own ran
    exact ⟨met, ranToo⟩
  · rintro ⟨met, ran⟩
    obtain ⟨report, ranToo, -⟩ :=
      exists_run_interleaved aggregators.symm provider.symm (fun menu => (own menu).symm) ran
    exact ⟨report, ranToo⟩
  · intro report met ran ranToo
    obtain ⟨other, came, same, noted⟩ := exists_run_interleaved aggregators provider own ran
    cases came.symm.trans ranToo
    exact ⟨same, noted⟩

/-- The same steps in two orders; in the first, the steps that do not apply have the
indices 0 and 3. -/
theorem run_interleaved_backwards :
    let script : Script := {
      aggregators := ["Sum"]
      provider := { live := ["EURUSD"] }
      steps := [
        { menu := .aggregation, action := .addRow },
        { menu := .aggregation, action := .choose, position := some 0, value := some "Sum" },
        { menu := .dataSources, action := .chooseKind, position := some 0,
          value := some "live" },
        { menu := .dataSources, action := .useLatestDate, position := some 0 },
        { menu := .dataSources, action := .chooseSource, position := some 0,
          value := some "EURUSD" }] }
    let other : Script := {
      script with
      prefetchResolverKeys := true
      steps := [
        { menu := .dataSources, action := .chooseKind, position := some 0,
          value := some "live" },
        { menu := .dataSources, action := .useLatestDate, position := some 0 },
        { menu := .aggregation, action := .addRow },
        { menu := .dataSources, action := .chooseSource, position := some 0,
          value := some "EURUSD" },
        { menu := .aggregation, action := .choose, position := some 0,
          value := some "Sum" }] }
    let report : Report := {
      aggregationCaption := "Aggregated by Sum"
      aggregationQuery := "Sum"
      aggregators := [⟨"Sum", false⟩]
      dataSourceText := "live:EURUSD"
      dataSourceQuery := some [.live "EURUSD"]
      unhandled := [0, 3]
      events := ["dropmenu:ds:typesselected", "dropmenu:ds:dataselected"] }
    run script {} = .ok report ∧
      ∃ met, run other {} = .ok met ∧ met = { report with unhandled := met.unhandled } ∧
        MenuName.aggregation.flagged 0 other.steps met.unhandled =
          MenuName.aggregation.flagged 0 script.steps [0, 3] := by
  intro script other report
  have offered : other.aggregators = script.aggregators := rfl
  have backed : other.provider = script.provider := rfl
  have own : ∀ menu : MenuName, menu.own other.steps = menu.own script.steps := by
    intro menu
    cases menu <;> decide
  obtain ⟨succeeds, alike⟩ := run_interleaved {} offered backed own
  have ran : run script {} = .ok report := by decide +kernel
  obtain ⟨met, ranToo⟩ := succeeds.mp ⟨report, ran⟩
  obtain ⟨same, noted⟩ := alike report met ran ranToo
  exact ⟨ran, met, ranToo, same, noted .aggregation⟩

end QueryMenu.Replay
