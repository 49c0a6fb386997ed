import Mathlib.Data.Finset.Basic
import Mathlib.Data.Nat.Count
import QueryMenu.Proofs.Replay.Effect

namespace QueryMenu.Replay

/-! Steps that do nothing.

A step that does not apply leaves the rows of both menus as they are and announces
nothing, and so does a toggle.  A run without such steps therefore meets every other step
in the rows in which the whole run met it, and notes it under a lower number.
-/

/-- The steps whose indices are not dropped; the first one has the given index. -/
def Step.keep (dropped : Finset Nat) (first : Nat) (steps : List Step) : List Step :=
  ((steps.zipIdx first).filter fun entry => entry.2 ∉ dropped).map Prod.fst

/-- The indices that are not dropped, each lowered by how many before it are. -/
def renumber (dropped : Finset Nat) (indices : List Nat) : List Nat :=
  (indices.filter fun index => index ∉ dropped).map
    fun index => index - Nat.count (· ∈ dropped) index

namespace Plain

section Outcome

variable {α : Type}

def Outcome.Idle (rows : List α) (outcome : Outcome α) : Prop :=
  outcome.rows = rows ∧ outcome.events = []

/-- If the step did not apply, nothing became of the rows and nothing was announced. -/
def Outcome.IdleIfIgnored (rows : List α) (outcome : Outcome α) : Prop :=
  outcome.response = .unhandled → outcome.Idle rows

theorem change_ignored (rows : List α) (position : Nat) (changed : Option (α × List String)) :
    (change rows position changed).IdleIfIgnored rows := by
  intro ignored
  cases changed with
  | none => exact ⟨rfl, rfl⟩
  | some row => cases ignored

theorem delete_ignored (rows : List α) (position : Nat) (empty : α)
    (emptied removed : List String) :
    (delete rows position empty emptied removed).IdleIfIgnored rows := by
  intro ignored
  unfold delete at ignored
  split at ignored <;> cases ignored

end Outcome

section Menus

variable {step : Step}

theorem aggregate_ignored {labels : AggregationLabels} {offered : List String}
    {rows : List (Option Aggregator)} {outcome : Outcome (Option Aggregator)}
    (came : aggregate labels offered rows step = some outcome) : outcome.IdleIfIgnored rows := by
  cases action : step.action <;> simp only [aggregate, action] at came
  case toggle =>
    cases came
    exact fun _ => ⟨rfl, rfl⟩
  case addRow =>
    cases came
    split
    · exact nofun
    · exact fun _ => ⟨rfl, rfl⟩
  case deleteRow =>
    exact outcome_of_row (Outcome.IdleIfIgnored rows) came fun _ => delete_ignored _ _ _ _ _
  case choose =>
    exact outcome_of_text (Outcome.IdleIfIgnored rows) came fun _ _ => change_ignored _ _ _
  case require =>
    exact outcome_of_row (Outcome.IdleIfIgnored rows) came fun _ => change_ignored _ _ _
  case chooseKind | chooseSource | enterDate | useLatestDate => cases came

theorem arrange_ignored {labels : DataSourceLabels} {endpoints : Endpoints} {rows : List Cell}
    {outcome : Outcome Cell} (came : arrange labels endpoints rows step = some outcome) :
    outcome.IdleIfIgnored rows := by
  cases action : step.action <;> simp only [arrange, action] at came
  case toggle =>
    cases came
    exact fun _ => ⟨rfl, rfl⟩
  case addRow =>
    cases came
    exact nofun
  case deleteRow =>
    exact outcome_of_row (Outcome.IdleIfIgnored rows) came fun _ => delete_ignored _ _ _ _ _
  case chooseKind =>
    exact outcome_of_text (Outcome.IdleIfIgnored rows) came fun _ _ => change_ignored _ _ _
  case chooseSource =>
    exact outcome_of_text (Outcome.IdleIfIgnored rows) came fun _ _ => change_ignored _ _ _
  case enterDate =>
    exact outcome_of_text (Outcome.IdleIfIgnored rows) came fun _ _ => change_ignored _ _ _
  case useLatestDate =>
    exact outcome_of_row (Outcome.IdleIfIgnored rows) came fun _ => change_ignored _ _ _
  case choose | require => cases came

theorem aggregate_toggle (toggled : step.action = .toggle) (labels : AggregationLabels)
    (offered : List String) (rows : List (Option Aggregator)) :
    aggregate labels offered rows step = some ⟨.consumed, rows, []⟩ := by
  simp only [aggregate, toggled]

theorem arrange_toggle (toggled : step.action = .toggle) (labels : DataSourceLabels)
    (endpoints : Endpoints) (rows : List Cell) :
    arrange labels endpoints rows step = some ⟨.consumed, rows, []⟩ := by
  simp only [arrange, toggled]

end Menus

namespace State

variable {script : Script} {labels : Labels} {state final : State} {effect : Effect}

theorem effect_idle {step : Step} (came : state.effect? script labels step = some effect)
    (idle : effect.response = .unhandled ∨ step.action = .toggle) :
    effect.aggregators = state.aggregators ∧ effect.cells = state.cells ∧
      effect.events = [] := by
  unfold effect? at came
  rcases idle with ignored | toggled
  · split at came
    · obtain ⟨outcome, aggregated, rfl⟩ := Option.map_eq_some_iff.mp came
      obtain ⟨rows, events⟩ := aggregate_ignored aggregated ignored
      exact ⟨rows, rfl, events⟩
    · obtain ⟨outcome, arranged, rfl⟩ := Option.map_eq_some_iff.mp came
      obtain ⟨rows, events⟩ := arrange_ignored arranged ignored
      exact ⟨rfl, rows, events⟩
  · rw [aggregate_toggle toggled, arrange_toggle toggled] at came
    split at came <;> cases came <;> exact ⟨rfl, rfl, rfl⟩

def without (dropped : Finset Nat) (state : State) : State :=
  { state with unhandled := renumber dropped state.unhandled }

theorem after_without_of_mem {dropped : Finset Nat} {index : Nat} (gone : index ∈ dropped)
    (aggregators : effect.aggregators = state.aggregators)
    (cells : effect.cells = state.cells) (events : effect.events = []) :
    (state.after index effect).without dropped = state.without dropped := by
  have unnoted : renumber dropped
      (state.unhandled ++ if effect.response = .unhandled then [index] else []) =
      renumber dropped state.unhandled := by
    unfold renumber
    split <;> simp [gone]
  simp only [without, after, aggregators, cells, events, List.append_nil, unnoted]

theorem after_without_of_not_mem {dropped : Finset Nat} {place index : Nat}
    (stays : index ∉ dropped) (placed : place + Nat.count (· ∈ dropped) index = index) :
    (state.after index effect).without dropped = (state.without dropped).after place effect := by
  have lowered : index - Nat.count (· ∈ dropped) index = place := by omega
  have noted : renumber dropped
      (state.unhandled ++ if effect.response = .unhandled then [index] else []) =
      renumber dropped state.unhandled ++
        if effect.response = .unhandled then [place] else [] := by
    unfold renumber
    split <;> simp [stays, lowered]
  simp only [without, after, noted]

/-- Where a run goes, it goes without its idle steps as well. -/
theorem runFrom_without {dropped : Finset Nat} {place index : Nat} {steps : List Step}
    (ran : state.runFrom script labels index steps = some final)
    (early : state.NotedBefore index)
    (placed : place + Nat.count (· ∈ dropped) index = index)
    (idle : ∀ step number, (step, number) ∈ steps.zipIdx index → number ∈ dropped →
      number ∈ final.unhandled ∨ step.action = .toggle) :
    (state.without dropped).runFrom script labels place (Step.keep dropped index steps) =
      some (final.without dropped) := by
  -- Both runs go through the same rows.  The shorter one has come to `place` when the
  -- longer one has come to `index`.
  induction steps generalizing state place index with
  | nil =>
      cases ran
      rfl
  | cons step rest ih =>
      obtain ⟨effect, came, went⟩ := runFrom_cons_eq_some_iff.mp ran
      have later : ∀ step number, (step, number) ∈ rest.zipIdx (index + 1) →
          number ∈ dropped → number ∈ final.unhandled ∨ step.action = .toggle := by
        intro other number member
        exact idle other number (List.mem_cons_of_mem _ member)
      by_cases gone : index ∈ dropped
      · have counted : place + Nat.count (· ∈ dropped) (index + 1) = index + 1 := by
          rw [Nat.count_succ, if_pos gone]
          omega
        -- No later step is noted under this index, so what the report lists tells what
        -- became of the step.
        have nothing : effect.response = .unhandled ∨ step.action = .toggle := by
          rw [← mem_unhandled_iff early went]
          exact idle step index List.mem_cons_self gone
        obtain ⟨aggregators, cells, events⟩ := effect_idle came nothing
        have skipped : Step.keep dropped index (step :: rest) =
            Step.keep dropped (index + 1) rest := by
          simp [Step.keep, gone]
        rw [skipped, ← after_without_of_mem gone aggregators cells events]
        exact ih went (early.after effect) counted later
      · have counted : place + 1 + Nat.count (· ∈ dropped) (index + 1) = index + 1 := by
          rw [Nat.count_succ, if_neg gone]
          omega
        have kept : Step.keep dropped index (step :: rest) =
            step :: Step.keep dropped (index + 1) rest := by
          simp [Step.keep, gone]
        rw [kept, runFrom_cons_eq_some_iff]
        refine ⟨effect, came, ?_⟩
        rw [← after_without_of_not_mem gone placed]
        exact ih went (early.after effect) counted later

end State

end Plain

/-- Steps that did not apply, and toggles, can be left out of a script.  The report stays
the same, but for the steps that are noted: those that were left out are not, and the
others have lower numbers. -/
theorem run_keep {script : Script} {labels : Labels} {report : Report}
    (ran : run script labels = .ok report) {dropped : Finset Nat}
    (idle : ∀ index ∈ dropped, index ∈ report.unhandled ∨
      ∃ step, script.steps[index]? = some step ∧ step.action = .toggle) :
    run { script with steps := Step.keep dropped 0 script.steps } labels =
      .ok { report with unhandled := renumber dropped report.unhandled } := by
  obtain ⟨final, went, rfl⟩ := run_eq_ok_iff.mp ran
  have idleInRun : ∀ step number, (step, number) ∈ script.steps.zipIdx 0 →
      number ∈ dropped → number ∈ final.unhandled ∨ step.action = .toggle := by
    intro step number member gone
    have here := List.mem_zipIdx_iff_getElem?.mp member
    rcases idle number gone with noted | ⟨same, there, toggled⟩
    · exact .inl noted
    · cases here.symm.trans there
      exact .inr toggled
  let thinned : Script := { script with steps := Step.keep dropped 0 script.steps }
  have offered : thinned.aggregators = script.aggregators := rfl
  have backed : thinned.provider = script.provider := rfl
  refine run_eq_ok_iff.mpr ⟨final.without dropped, ?_, rfl⟩
  rw [Plain.State.runFrom_congr offered backed]
  exact Plain.State.runFrom_without went (fun _ member => by cases member) rfl idleInRun

/-- The toggle and the choice of a source on a row without a kind are left out; the other
two steps that did not apply stay. -/
theorem run_keep_toggle :
    let script : Script := {
      aggregators := ["Sum"]
      steps := [
        { menu := .aggregation, action := .toggle },
        { menu := .aggregation, action := .addRow },
        { menu := .aggregation, action := .choose, position := some 0, value := some "Sum" },
        { menu := .dataSources, action := .chooseSource, position := some 0,
          value := some "EURUSD" },
        { menu := .dataSources, action := .useLatestDate, position := some 0 }] }
    let report : Report := {
      aggregationCaption := "Aggregated by Sum"
      aggregationQuery := "Sum"
      aggregators := [⟨"Sum", false⟩]
      dataSourceText := "select data source..."
      dataSourceQuery := none
      unhandled := [1, 3, 4]
      events := [] }
    run script {} = .ok report ∧
      run { script with steps :=
          [{ menu := .aggregation, action := .addRow },
            { menu := .aggregation, action := .choose, position := some 0,
              value := some "Sum" },
            { menu := .dataSources, action := .useLatestDate, position := some 0 }] } {} =
        .ok { report with unhandled := [0, 2] } := by
  intro script report
  have ran : run script {} = .ok report := by decide +kernel
  have idle : ∀ index ∈ ({0, 3} : Finset Nat), index ∈ report.unhandled ∨
      ∃ step, script.steps[index]? = some step ∧ step.action = .toggle := by
    intro index member
    rcases Finset.mem_insert.mp member with rfl | member
    · exact .inr ⟨_, rfl, rfl⟩
    · obtain rfl := Finset.mem_singleton.mp member
      exact .inl (by decide)
  exact ⟨ran, run_keep ran idle⟩

end QueryMenu.Replay
