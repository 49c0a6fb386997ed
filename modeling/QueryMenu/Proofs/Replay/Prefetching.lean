import QueryMenu.Proofs.Replay.Faults

namespace QueryMenu.Replay

/-! Prefetched resolver keys.

With the keys known, a historical row is filled as soon as its kind is chosen; without
them it asks for its options and gets them when the step is over.  Either way it offers
the same options before the next step.  Two sessions that differ in what keys they know
therefore show the same plain rows after each step, and stop at the same malformed step.
-/

namespace Session

variable {script : Script} {labels : Labels} {session other : Session} {state : Plain.State}

theorem Shows.of_prefetch {prefetch : Bool}
    (showing : session.Shows { script with prefetchResolverKeys := prefetch } labels state) :
    session.Shows script labels state :=
  ⟨showing.aggregation, showing.dataSources, showing.unhandled, showing.events⟩

/-- After a step, two sessions that show the same rows do so again, or both have stopped. -/
theorem step_alike (showing : session.Shows script labels state)
    (same : other.Shows script labels state) (index : Nat) (step : Step) :
    (∃ error, session.step (.ofProvider script.provider) index step = .error error ∧
        other.step (.ofProvider script.provider) index step = .error error) ∨
      ∃ reached met next, session.step (.ofProvider script.provider) index step = .ok reached ∧
        other.step (.ofProvider script.provider) index step = .ok met ∧
        reached.Shows script labels next ∧ met.Shows script labels next := by
  cases after : state.step script labels index step with
  | none =>
      obtain ⟨error, wrong⟩ := (showing.step_eq_none_iff index step).mp after
      refine .inl ⟨error, step_of_fault _ index ?_, step_of_fault _ index ?_⟩
      · rw [showing.rowCount_eq, wrong]
      · rw [same.rowCount_eq, wrong]
  | some next =>
      have stepped := showing.step index step
      have followed := same.step index step
      rw [after] at stepped followed
      obtain ⟨reached, ran, shown⟩ := stepped
      obtain ⟨met, ranToo, shownToo⟩ := followed
      exact .inr ⟨reached, met, next, ran, ranToo, shown, shownToo⟩

theorem runFrom_alike (showing : session.Shows script labels state)
    (same : other.Shows script labels state) (index : Nat) (steps : List Step) :
    (session.runFrom (.ofProvider script.provider) index steps).map Session.report =
      (other.runFrom (.ofProvider script.provider) index steps).map Session.report := by
  induction steps generalizing session other state index with
  | nil => simp only [Session.runFrom, Except.map, showing.report, same.report]
  | cons step rest ih =>
      unfold Session.runFrom
      obtain ⟨error, stopped, stoppedToo⟩ | ⟨reached, met, next, ran, ranToo, shown, shownToo⟩ :=
        step_alike showing same index step
      · rw [stopped, stoppedToo]
      · rw [ran, ranToo]
        exact ih shown shownToo (index + 1)

end Session

/-- Whether the resolver keys are fetched before the first step makes no difference: the
script gives the same report, or fails with the same error. -/
theorem run_prefetch (script : Script) (labels : Labels) :
    run { script with prefetchResolverKeys := true } labels =
      run { script with prefetchResolverKeys := false } labels := by
  have early : (Session.start { script with prefetchResolverKeys := true } labels).Shows script
      labels {} := (Session.start_shows _ labels).of_prefetch
  have late : (Session.start { script with prefetchResolverKeys := false } labels).Shows script
      labels {} := (Session.start_shows _ labels).of_prefetch
  exact Session.runFrom_alike early late 0 script.steps

end QueryMenu.Replay
