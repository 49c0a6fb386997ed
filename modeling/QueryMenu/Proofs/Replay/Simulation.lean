import QueryMenu.Proofs.Replay.Aggregation
import QueryMenu.Proofs.Replay.DataSources

namespace QueryMenu.Replay

/-! A run of a script is a run of the plain account of it.

Both menus show the plain rows before and after each step, so the two runs note the same
steps, announce the same events and stop at the same malformed step, and a backend is
asked for the same things in the end.
-/

/-- The session shows what the plain state has. -/
structure Session.Shows (script : Script) (labels : Labels) (session : Session)
    (state : Plain.State) : Prop where
  aggregation : session.aggregation.Shows labels.aggregation script.aggregators
    state.aggregators
  dataSources : session.dataSources.Shows labels.dataSources (.ofProvider script.provider)
    state.cells
  unhandled : session.unhandled = state.unhandled
  events : session.events.map DataSource.Event.name = state.events

namespace Session

variable {script : Script} {labels : Labels} {session : Session} {state : Plain.State}

theorem start_shows (script : Script) (labels : Labels) :
    (start script labels).Shows script labels {} := by
  have fresh := DataSource.Menu.start_shows labels.dataSources (.ofProvider script.provider)
  refine ⟨Aggregation.Menu.start_shows _ _, ?_, rfl, rfl⟩
  unfold start
  simp only
  split
  · rename_i keys found
    split at found
    · refine fresh.learnKeys ?_
      cases fetched : (Endpoints.ofProvider script.provider).options .historical with
      | error error => simp [fetched, Except.toOption] at found
      | ok options =>
          rw [fetched] at found
          cases found
          rfl
    · cases found
  · exact fresh

theorem step_refused {endpoints : Endpoints} {index : Nat} {step : Step} {error : StepError}
    (refused : session.perform index step = .error error) :
    session.step endpoints index step = .error error := by
  rw [Session.step, refused]
  rfl

/-- A step that was carried out is noted, its fetches are settled and its events collected. -/
theorem step_performed {moved : Session} {index : Nat} {step : Step} {response : Response}
    {rows : List (Option Aggregator)} {cells : List Plain.Cell} {announced : List String}
    (performed : session.perform index step = .ok (response, moved))
    (aggregation : moved.aggregation.Shows labels.aggregation script.aggregators rows)
    (dataSources : moved.dataSources.Settles labels.dataSources (.ofProvider script.provider)
      cells announced)
    (unhandled : moved.unhandled = state.unhandled)
    (events : moved.events.map DataSource.Event.name = state.events) :
    ∃ reached, session.step (.ofProvider script.provider) index step = .ok reached ∧
      reached.Shows script labels
        { aggregators := rows
          cells
          unhandled := state.unhandled ++ if response = .unhandled then [index] else []
          events := state.events ++ announced } := by
  refine ⟨(moved.note index response).refresh (.ofProvider script.provider), ?_, ?_⟩
  · rw [Session.step, performed]
    rfl
  · rw [← unhandled, ← events]
    cases response with
    | consumed =>
        refine ⟨aggregation, dataSources.shown, (List.append_nil _).symm, ?_⟩
        exact List.map_append.trans (congrArg (_ ++ ·) dataSources.events)
    | unhandled =>
        refine ⟨aggregation, dataSources.shown, rfl, ?_⟩
        exact List.map_append.trans (congrArg (_ ++ ·) dataSources.events)

theorem Shows.step (showing : session.Shows script labels state) (index : Nat) (step : Step) :
    match state.step script labels index step with
    | none => ∃ error, session.step (.ofProvider script.provider) index step = .error error
    | some next => ∃ reached, session.step (.ofProvider script.provider) index step =
        .ok reached ∧ reached.Shows script labels next := by
  unfold Plain.State.step
  cases menu : step.menu with
  | aggregation =>
      have meets := showing.aggregation.aggregate step
      cases came : Plain.aggregate labels.aggregation script.aggregators state.aggregators
          step with
      | none =>
          rw [came] at meets
          obtain ⟨error, refused⟩ := meets
          refine ⟨error, step_refused ?_⟩
          simp only [perform, menu, refused]
          rfl
      | some outcome =>
          rw [came] at meets
          obtain ⟨meant, made, answered, shown, quiet⟩ := meets
          have performed : session.perform index step = .ok (outcome.response,
              { session with aggregation := (session.aggregation.handle meant).menu }) := by
            simp only [perform, menu, made, bind, Except.bind, answered, Except.mapError]
            rfl
          have settled := showing.dataSources.unhandled
          rw [← quiet] at settled
          exact step_performed performed shown settled showing.unhandled showing.events
  | dataSources =>
      have meets := showing.dataSources.arrange step
      cases came : Plain.arrange labels.dataSources (.ofProvider script.provider) state.cells
          step with
      | none =>
          rw [came] at meets
          obtain ⟨error, refused⟩ := meets
          refine ⟨error, step_refused ?_⟩
          simp only [perform, menu, refused]
          rfl
      | some outcome =>
          rw [came] at meets
          obtain ⟨meant, made, answered, settled⟩ := meets
          have performed : session.perform index step = .ok (outcome.response,
              { session with dataSources := (session.dataSources.handle meant).menu }) := by
            simp only [perform, menu, made, bind, Except.bind, answered, Except.mapError]
            rfl
          exact step_performed performed showing.aggregation settled showing.unhandled
            showing.events

/-! The report. -/

theorem Shows.report (showing : session.Shows script labels state) :
    session.report = state.report labels := by
  have labelled : session.aggregation.labels = labels.aggregation := showing.aggregation.labels
  simp only [Session.report, Plain.State.report, Aggregation.Menu.caption,
    showing.aggregation.query, showing.aggregation.aggregators, showing.dataSources.render,
    showing.dataSources.query, showing.unhandled, showing.events, labelled]

theorem Shows.runFrom (showing : session.Shows script labels state) (index : Nat)
    (steps : List Step) :
    ((session.runFrom (.ofProvider script.provider) index steps).map Session.report).toOption =
      (state.runFrom script labels index steps).map (Plain.State.report labels) := by
  induction steps generalizing session state index with
  | nil =>
      simp only [Session.runFrom, Plain.State.runFrom, Except.map, Except.toOption,
        Option.map_some, showing.report]
  | cons step rest ih =>
      have stepped := showing.step index step
      unfold Session.runFrom Plain.State.runFrom
      cases next : state.step script labels index step with
      | none =>
          -- a malformed step stops both runs
          rw [next] at stepped
          obtain ⟨error, refused⟩ := stepped
          rw [refused]
          rfl
      | some after =>
          rw [next] at stepped
          obtain ⟨reached, ran, shown⟩ := stepped
          rw [ran]
          exact ih shown (index + 1)

end Session

/-- Running a script on the menus gives the report of the plain account, and fails exactly
if the script has a malformed step. -/
theorem run_eq_plain (script : Script) (labels : Labels) :
    (run script labels).toOption = Plain.run script labels :=
  (Session.start_shows script labels).runFrom 0 script.steps

end QueryMenu.Replay
