import QueryMenu.Proofs.Replay.Faults

namespace QueryMenu.Replay

/-! Where a run stops.

A run stops at the first step that fails in the session which the steps before it left.
In such a session both menus are coherent, and they answer every action that is made of
a step.  So a step fails only by being malformed, and the run stops with what is wrong
with its first malformed step.
-/

theorem Step.Meets.exists_outcome {α β : Type} {brings : β → Plain.Outcome α → Prop}
    {action : Except StepError β} {outcome? : Option (Plain.Outcome α)} {meant : β}
    (meets : Step.Meets brings action outcome?) (made : action = .ok meant) :
    ∃ outcome, brings meant outcome := by
  cases outcome? with
  | none =>
      obtain ⟨error, refused⟩ := meets
      cases refused.symm.trans made
  | some outcome =>
      obtain ⟨same, found, brought⟩ := meets
      cases found.symm.trans made
      exact ⟨outcome, brought⟩

theorem Step.fault?_ne_failed (step : Step) (rows index : Nat) (cause : MenuError) :
    step.fault? rows ≠ some (.failed index cause) := by
  intro failed
  rcases fault?_eq_some_iff.mp failed with ⟨-, same⟩ | ⟨-, ⟨-, row⟩ | ⟨-, -, text⟩⟩
  · cases same
  · rcases rowFault?_eq_some_iff.mp row with ⟨-, same⟩ | ⟨position, -, -, same⟩
    · cases same
    · cases same
  · cases (textFault?_eq_some_iff.mp text).2

namespace Session

variable {script : Script} {labels : Labels} {session reached : Session} {state : Plain.State}
  {endpoints : Endpoints} {error : StepError}

theorem runFrom_of_error {index : Nat} {first : Step} (rest : List Step)
    (failed : session.step endpoints index first = .error error) :
    session.runFrom endpoints index (first :: rest) = .error error := by
  simp only [runFrom, failed, bind, Except.bind]

theorem runFrom_of_ok {index : Nat} {first : Step} (rest : List Step)
    (moved : session.step endpoints index first = .ok reached) :
    session.runFrom endpoints index (first :: rest) =
      reached.runFrom endpoints (index + 1) rest := by
  simp only [runFrom, moved, bind, Except.bind]

theorem runFrom_eq_error_iff {index : Nat} {steps : List Step} :
    session.runFrom endpoints index steps = .error error ↔
      ∃ before step after reached, steps = before ++ step :: after ∧
        session.runFrom endpoints index before = .ok reached ∧
        reached.step endpoints (index + before.length) step = .error error := by
  induction steps generalizing session index with
  | nil =>
      refine ⟨fun stopped => (by cases stopped), ?_⟩
      rintro ⟨before, step, after, reached, cut, -⟩
      cases before <;> cases cut
  | cons first rest ih =>
      simp only [List.cons_eq_append_iff]
      cases next : session.step endpoints index first with
      | error cause =>
          rw [runFrom_of_error rest next]
          constructor
          · intro same
            exact ⟨[], first, rest, session, .inl ⟨rfl, rfl⟩, rfl, next.trans same⟩
          · rintro ⟨before, step, after, reached, ⟨rfl, cut⟩ | ⟨before, rfl, -⟩, ran, failed⟩
            · cases cut
              cases ran
              exact next.symm.trans failed
            · cases (runFrom_of_error before next).symm.trans ran
      | ok moved =>
          have later (count : Nat) : index + 1 + count = index + (count + 1) := by omega
          rw [runFrom_of_ok rest next, ih]
          constructor
          · rintro ⟨before, step, after, reached, rfl, ran, failed⟩
            refine ⟨first :: before, step, after, reached, .inr ⟨before, rfl, rfl⟩, ?_, ?_⟩
            · exact (runFrom_of_ok before next).trans ran
            · rw [List.length_cons, ← later, failed]
          · rintro ⟨before, step, after, reached, ⟨rfl, cut⟩ | ⟨before, rfl, rfl⟩, ran, failed⟩
            · cases cut
              cases ran
              cases next.symm.trans failed
            · refine ⟨before, step, after, reached, rfl, ?_, ?_⟩
              · exact (runFrom_of_ok before next).symm.trans ran
              · rw [later, ← List.length_cons, failed]

namespace Shows

theorem exists_reached {index : Nat} {steps : List Step}
    (showing : session.Shows script labels state)
    (ran : session.runFrom (.ofProvider script.provider) index steps = .ok reached) :
    ∃ shown, reached.Shows script labels shown := by
  induction steps generalizing session state index with
  | nil =>
      cases ran
      exact ⟨state, showing⟩
  | cons step rest ih =>
      have stepped := showing.step index step
      split at stepped
      · obtain ⟨error, refused⟩ := stepped
        cases (runFrom_of_error rest refused).symm.trans ran
      · obtain ⟨moved, went, shown⟩ := stepped
        exact ih shown ((runFrom_of_ok rest went).symm.trans ran)

variable (showing : session.Shows script labels state)
include showing

theorem step_eq_error_iff {index : Nat} {step : Step} :
    session.step (.ofProvider script.provider) index step = .error error ↔
      step.fault? (session.rowCount step.menu) = some error := by
  refine ⟨fun failed => ?_, step_of_fault _ index⟩
  have stepped := showing.step index step
  split at stepped
  · rename_i malformed
    obtain ⟨cause, wrong⟩ := (showing.step_eq_none_iff index step).mp malformed
    rw [← showing.rowCount_eq] at wrong
    cases (step_of_fault _ index wrong).symm.trans failed
    exact wrong
  · obtain ⟨moved, went, -⟩ := stepped
    cases went.symm.trans failed

theorem answers (step : Step) :
    (∀ action, step.aggregationAction session.aggregation = .ok action →
      ∃ response, (session.aggregation.handle action).answer = .ok response) ∧
    ∀ action, step.dataSourceAction session.dataSources = .ok action →
      ∃ response, (session.dataSources.handle action).answer = .ok response := by
  constructor
  · intro action made
    obtain ⟨outcome, brought⟩ := (showing.aggregation.aggregate step).exists_outcome made
    exact ⟨outcome.response, brought.answer⟩
  · intro action made
    obtain ⟨outcome, brought⟩ := (showing.dataSources.arrange step).exists_outcome made
    exact ⟨outcome.response, brought.answer⟩

end Shows

end Session

/-- The run gets to the step, and this is the session that the steps before it left. -/
def Script.Reaches (script : Script) (labels : Labels) (step : Step) (session : Session) : Prop :=
  ∃ before after, script.steps = before ++ step :: after ∧
    (Session.start script labels).runFrom (.ofProvider script.provider) 0 before = .ok session

theorem run_eq_error {script : Script} {labels : Labels} {error : StepError} :
    run script labels = .error error ↔
      (Session.start script labels).runFrom (.ofProvider script.provider) 0 script.steps =
        .error error :=
  Except.map_eq_error_iff

theorem run_eq_error_iff_fault? {script : Script} {labels : Labels} {error : StepError} :
    run script labels = .error error ↔
      ∃ step session, script.Reaches labels step session ∧
        step.fault? (session.rowCount step.menu) = some error := by
  have fresh := Session.start_shows script labels
  rw [run_eq_error, Session.runFrom_eq_error_iff]
  constructor
  · rintro ⟨before, step, after, session, cut, ran, failed⟩
    obtain ⟨state, shown⟩ := fresh.exists_reached ran
    exact ⟨step, session, ⟨before, after, cut, ran⟩, shown.step_eq_error_iff.mp failed⟩
  · rintro ⟨step, session, ⟨before, after, cut, ran⟩, wrong⟩
    obtain ⟨state, shown⟩ := fresh.exists_reached ran
    exact ⟨before, step, after, session, cut, ran, shown.step_eq_error_iff.mpr wrong⟩

theorem run_mapError_eq_error_iff {script : Script} {labels : Labels} {text : String} :
    (run script labels).mapError StepError.message = .error text ↔
      ∃ step session, script.Reaches labels step session ∧
        step.Complaint (session.rowCount step.menu) text := by
  simp only [Except.mapError_eq_error_iff, run_eq_error_iff_fault?, Step.complaint_iff]
  constructor
  · rintro ⟨error, ⟨step, session, reached, wrong⟩, told⟩
    exact ⟨step, session, reached, error, wrong, told⟩
  · rintro ⟨step, session, reached, error, wrong, told⟩
    exact ⟨error, ⟨step, session, reached, wrong⟩, told⟩

/-- A script fails exactly if one of its steps, when it is reached, is malformed, and it
fails with what is wrong with the first of them: its menu has no such action, it says no
row, it says a row past the last one, or it gives no text.  The message says which of these
it is.  A script never fails because a menu fails: the menus answer every action that is
made of a step. -/
theorem run_eq_error_iff (script : Script) (labels : Labels) :
    (∀ error, run script labels = .error error ↔
      ∃ step session, script.Reaches labels step session ∧
        step.fault? (session.rowCount step.menu) = some error) ∧
    (∀ text, (run script labels).mapError StepError.message = .error text ↔
      ∃ step session, script.Reaches labels step session ∧
        step.Complaint (session.rowCount step.menu) text) ∧
    (∀ index cause, run script labels ≠ .error (.failed index cause)) ∧
    ∀ steps session,
      (Session.start script labels).runFrom (.ofProvider script.provider) 0 steps =
        .ok session →
      ∀ step : Step,
        (∀ action, step.aggregationAction session.aggregation = .ok action →
          ∃ response, (session.aggregation.handle action).answer = .ok response) ∧
        ∀ action, step.dataSourceAction session.dataSources = .ok action →
          ∃ response, (session.dataSources.handle action).answer = .ok response := by
  refine ⟨fun error => run_eq_error_iff_fault?, fun text => run_mapError_eq_error_iff,
    fun index cause failed => ?_, fun steps session ran step => ?_⟩
  · obtain ⟨step, session, -, wrong⟩ := run_eq_error_iff_fault?.mp failed
    exact step.fault?_ne_failed _ index cause wrong
  · obtain ⟨state, shown⟩ := (Session.start_shows script labels).exists_reached ran
    exact shown.answers step

/-- A date is set on the only row, and then on a second row that is not there. -/
theorem run_eq_error_iff_absent_row :
    let script : Script := {
      provider := { resolverConfig := ["A|DEFAULT_TSS|x"] }
      steps := [
        { menu := .dataSources, action := .chooseKind, position := some 0,
          value := some "historical" },
        { menu := .dataSources, action := .chooseSource, position := some 0,
          value := some "DEFAULT_TSS" },
        { menu := .dataSources, action := .enterDate, position := some 0,
          value := some "2024-01-05" },
        { menu := .dataSources, action := .enterDate, position := some 1 }] }
    run script {} = .error (.noRow 1) ∧
      (run script {}).mapError StepError.message = .error "no row at position 1" ∧
      ∃ session, (Session.start script {}).runFrom (.ofProvider script.provider) 0
          (script.steps.take 2) = .ok session ∧
        ∃ response, (session.dataSources.handle (.enterDate ⟨0⟩ "2024-01-05")).answer =
          .ok response := by
  intro script
  obtain ⟨stops, tells, -, answers⟩ := run_eq_error_iff script {}
  let last : Step := { menu := .dataSources, action := .enterDate, position := some 1 }
  obtain ⟨session, ran, single⟩ : ∃ session, (Session.start script {}).runFrom
      (.ofProvider script.provider) 0 (script.steps.take 3) = .ok session ∧
        session.rowCount .dataSources = 1 :=
    Except.map_eq_ok_iff.mp (Except.toOption_eq_some_iff.mp (by decide +kernel))
  have reached : script.Reaches {} last session := ⟨script.steps.take 3, [], rfl, ran⟩
  have told : last.Complaint (session.rowCount last.menu) ("no row at position " ++ toString 1) :=
    .noRow rfl rfl rfl (Nat.le_of_eq single)
  refine ⟨(stops _).mpr ⟨last, session, reached, ?_⟩,
    (tells _).mpr ⟨last, session, reached, told⟩, ?_⟩
  · rw [single]
    decide
  · obtain ⟨session, ran, first⟩ : ∃ session, (Session.start script {}).runFrom
        (.ofProvider script.provider) 0 (script.steps.take 2) = .ok session ∧
          session.dataSources.rows.idAt? 0 = some ⟨0⟩ :=
      Except.map_eq_ok_iff.mp (Except.toOption_eq_some_iff.mp (by decide +kernel))
    refine ⟨session, ran, ?_⟩
    let enter : Step :=
      { menu := .dataSources, action := .enterDate, position := some 0,
        value := some "2024-01-05" }
    refine (answers _ session ran enter).2 _ ?_
    simp only [Step.dataSourceAction, Step.row, Step.text, enter, first]
    rfl

/-- The texts call an action by its name in scripts. -/
example :
    (run { steps := [{ menu := .aggregation, action := .chooseKind, position := some 0 }] }
        {}).mapError StepError.message =
      .error "SelectType is not an aggregation control" := by
  rfl

end QueryMenu.Replay
