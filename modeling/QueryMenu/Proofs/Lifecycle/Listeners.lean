import Mathlib.Data.List.Induction
import QueryMenu.Proofs.Lifecycle.Emissions

namespace QueryMenu.Lifecycle

/-! Who hears what.

Listeners are numbered in the order of their registration and kept in that order, and
only a removal takes one away.  So who listens can be read off what the host did before,
and a listener hears its signal for as long as it is there.
-/

namespace Operation

def registers : Operation → Bool
  | .register _ => true
  | _ => false

def registrations (operations : List Operation) : Nat :=
  operations.countP registers

/-- The listener was registered and has not been removed since. -/
def Enrols (operations : List Operation) (listener : Listener) : Prop :=
  ∃ before after, operations = before ++ .register listener.signal :: after ∧
    listener.number = registrations before ∧ .unregister listener.number ∉ after

theorem registrations_append_singleton (operations : List Operation) (operation : Operation) :
    registrations (operations ++ [operation]) =
      registrations operations + if operation.registers then 1 else 0 := by
  simp [registrations, List.countP_append, List.countP_singleton]

theorem enrols_append_singleton {operations : List Operation} {operation : Operation}
    {listener : Listener} :
    Enrols (operations ++ [operation]) listener ↔
      Enrols operations listener ∧ operation ≠ .unregister listener.number ∨
        operation = .register listener.signal ∧
          listener.number = registrations operations := by
  constructor
  · rintro ⟨before, after, cut, numbered, kept⟩
    rcases List.eq_nil_or_concat after with rfl | ⟨init, last, rfl⟩
    · obtain ⟨rfl, same⟩ := List.append_inj' cut rfl
      exact .inr ⟨List.head_eq_of_cons_eq same, numbered⟩
    · rw [List.concat_eq_append, ← List.cons_append, ← List.append_assoc] at cut
      obtain ⟨rfl, same⟩ := List.append_inj' cut rfl
      obtain rfl := List.head_eq_of_cons_eq same
      rw [List.concat_eq_append, List.mem_append, List.mem_singleton, not_or] at kept
      exact .inl ⟨⟨before, init, rfl, numbered, kept.1⟩, fun removes => kept.2 removes.symm⟩
  · rintro (⟨⟨before, after, rfl, numbered, kept⟩, stays⟩ | ⟨rfl, numbered⟩)
    · refine ⟨before, after ++ [operation], by simp, numbered, ?_⟩
      rw [List.mem_append, List.mem_singleton, not_or]
      exact ⟨kept, fun removes => stays removes.symm⟩
    · exact ⟨operations, [], rfl, numbered, List.not_mem_nil⟩

end Operation

open Operation (registrations Enrols)

/-- Listeners are in the order of their numbers, which have all been issued. -/
structure Orderly (lifecycle : Lifecycle) : Prop where
  ascending : lifecycle.listeners.Pairwise fun one other => one.number < other.number
  issued : ∀ listener ∈ lifecycle.listeners, listener.number < lifecycle.registered

variable {lifecycle : Lifecycle} {number : Nat} {signal : Signal}

theorem fresh_orderly : ({} : Lifecycle).Orderly :=
  ⟨.nil, nofun⟩

theorem registered_le_after (lifecycle : Lifecycle) (operation : Operation) :
    lifecycle.registered ≤ (lifecycle.after operation).registered := by
  rcases operation.kinds with ⟨signal, rfl⟩ | ⟨removed, rfl⟩ | moves
  · exact Nat.le_succ _
  · exact Nat.le_refl _
  · exact Nat.le_of_eq (lifecycle.registered_after moves).symm

theorem registered_le_run (lifecycle : Lifecycle) (operations : List Operation) :
    lifecycle.registered ≤ (lifecycle.run operations).registered := by
  induction operations generalizing lifecycle with
  | nil => exact Nat.le_refl _
  | cons operation rest ih =>
      exact Nat.le_trans (lifecycle.registered_le_after operation) (ih _)

theorem registered_run (operations : List Operation) :
    (({} : Lifecycle).run operations).registered = registrations operations := by
  induction operations using List.reverseRecOn with
  | nil => rfl
  | append_singleton operations operation ih =>
      rw [run_append, Operation.registrations_append_singleton, ← ih]
      rcases operation.kinds with ⟨signal, rfl⟩ | ⟨removed, rfl⟩ | moves
      · rfl
      · rfl
      · have silent : operation.registers = false := by
          cases operation with
          | register => cases moves
          | unregister | perform | toggle | send | clickOutside => rfl
        rw [silent]
        exact (({} : Lifecycle).run operations).registered_after moves

theorem mem_listeners_iff {operations : List Operation} {listener : Listener} :
    listener ∈ (({} : Lifecycle).run operations).listeners ↔ Enrols operations listener := by
  induction operations using List.reverseRecOn with
  | nil =>
      refine ⟨nofun, ?_⟩
      rintro ⟨before, after, cut, -⟩
      cases before <;> cases cut
  | append_singleton operations operation ih =>
      rw [Operation.enrols_append_singleton, ← ih, run_append, ← registered_run]
      generalize ({} : Lifecycle).run operations = reached
      change listener ∈ (reached.after operation).listeners ↔ _
      rcases operation.kinds with ⟨signal, rfl⟩ | ⟨removed, rfl⟩ | moves
      · refine List.mem_append.trans (or_congr ?_ ?_)
        · simp
        · obtain ⟨number, heard⟩ := listener
          simp only [List.mem_singleton, Listener.mk.injEq, Operation.register.injEq]
          exact ⟨fun ⟨numbered, same⟩ => ⟨same.symm, numbered⟩,
            fun ⟨same, numbered⟩ => ⟨numbered, same.symm⟩⟩
      · simp only [reduceCtorEq, false_and, or_false, ne_eq, Operation.unregister.injEq]
        refine List.mem_filter.trans (and_congr_right fun _ => ?_)
        exact bne_iff_ne.trans ne_comm
      · rw [reached.listeners_after moves]
        cases operation with
        | register | unregister => cases moves
        | perform | toggle | send | clickOutside => simp

namespace Orderly

variable (orderly : lifecycle.Orderly)
include orderly

theorem after (operation : Operation) : (lifecycle.after operation).Orderly := by
  rcases operation.kinds with ⟨signal, rfl⟩ | ⟨removed, rfl⟩ | moves
  · constructor
    · refine List.pairwise_append.mpr ⟨orderly.ascending, List.pairwise_singleton _ _, ?_⟩
      intro old member fresh same
      obtain rfl := List.mem_singleton.mp same
      exact orderly.issued old member
    · intro listener member
      rcases List.mem_append.mp member with old | fresh
      · exact Nat.lt_succ_of_lt (orderly.issued listener old)
      · obtain rfl := List.mem_singleton.mp fresh
        exact Nat.lt_succ_self _
  · constructor
    · exact orderly.ascending.filter _
    · intro listener member
      exact orderly.issued listener (List.mem_filter.mp member).1
  · constructor
    · rw [lifecycle.listeners_after moves]
      exact orderly.ascending
    · rw [lifecycle.listeners_after moves, lifecycle.registered_after moves]
      exact orderly.issued

theorem run (operations : List Operation) : (lifecycle.run operations).Orderly := by
  induction operations generalizing lifecycle with
  | nil => exact orderly
  | cons operation rest ih => exact ih (orderly.after operation)

theorem filter_number (here : ⟨number, signal⟩ ∈ lifecycle.listeners) :
    (lifecycle.listeners.filter fun listener => listener.number = number) =
      [⟨number, signal⟩] := by
  obtain ⟨before, after, cut⟩ := List.append_of_mem here
  have ascending := orderly.ascending
  rw [cut, List.pairwise_append, List.pairwise_cons] at ascending
  obtain ⟨-, ⟨later, -⟩, earlier⟩ := ascending
  have none_before : (before.filter fun listener => listener.number = number) = [] := by
    refine List.filter_eq_nil_iff.mpr fun listener member same => ?_
    exact Nat.ne_of_lt (earlier listener member _ List.mem_cons_self) (of_decide_eq_true same)
  have none_after : (after.filter fun listener => listener.number = number) = [] := by
    refine List.filter_eq_nil_iff.mpr fun listener member same => ?_
    exact Nat.ne_of_gt (later listener member) (of_decide_eq_true same)
  rw [cut, List.filter_append, none_before, List.filter_cons_of_pos (by simp), none_after]
  rfl

end Orderly

theorem filter_toldTo (emission : Emission) (listeners : List Listener) :
    ((emission.toldTo listeners).filter fun heard => heard.listener = number) =
      emission.toldTo (listeners.filter fun listener => listener.number = number) := by
  simp only [Emission.toldTo, List.filter_map, List.filter_filter, Bool.and_comm]
  rfl

theorem flatMap_toldTo_singleton (emissions : List Emission) :
    (emissions.flatMap fun emission => emission.toldTo [⟨number, signal⟩]) =
      (emissions.filter fun emission => emission.signal = signal).map
        fun emission => ⟨number, signal, emission.seen⟩ := by
  induction emissions with
  | nil => rfl
  | cons emission rest ih =>
      rw [List.flatMap_cons, ih]
      by_cases same : emission.signal = signal
      · simp [Emission.toldTo, same]
      · simp [Emission.toldTo, same, Ne.symm same]

theorem log_cons_filter (operation : Operation) (rest : List Operation) :
    ((lifecycle.log (operation :: rest)).filter fun heard => heard.listener = number) =
      ((lifecycle.presence.emissions operation).flatMap fun emission => emission.toldTo
          (lifecycle.listeners.filter fun listener => listener.number = number)) ++
        ((lifecycle.after operation).log rest).filter fun heard => heard.listener = number := by
  simp only [log, List.filter_append, heard_apply, List.filter_flatMap, filter_toldTo]

theorem gone_after (operation : Operation) (issued : number < lifecycle.registered)
    (gone : (lifecycle.listeners.filter fun listener => listener.number = number) = []) :
    ((lifecycle.after operation).listeners.filter
      fun listener => listener.number = number) = [] := by
  rcases operation.kinds with ⟨signal, rfl⟩ | ⟨removed, rfl⟩ | moves
  · have other : lifecycle.registered ≠ number := Nat.ne_of_gt issued
    have added : (lifecycle.after (.register signal)).listeners =
        lifecycle.listeners ++ [⟨lifecycle.registered, signal⟩] := rfl
    rw [added, List.filter_append, gone, List.filter_cons_of_neg (by simpa using other)]
    rfl
  · refine List.filter_eq_nil_iff.mpr fun listener member => ?_
    exact List.filter_eq_nil_iff.mp gone listener (List.mem_filter.mp member).1
  · rw [lifecycle.listeners_after moves]
    exact gone

theorem log_of_gone (operations : List Operation) (issued : number < lifecycle.registered)
    (gone : (lifecycle.listeners.filter fun listener => listener.number = number) = []) :
    ((lifecycle.log operations).filter fun heard => heard.listener = number) = [] := by
  induction operations generalizing lifecycle with
  | nil => rfl
  | cons operation rest ih =>
      have later := Nat.lt_of_lt_of_le issued (lifecycle.registered_le_after operation)
      rw [log_cons_filter, gone, ih later (gone_after operation issued gone)]
      simp [Emission.toldTo]

theorem mem_listeners_after {listener : Listener} {operation : Operation}
    (here : listener ∈ lifecycle.listeners) (stays : operation ≠ .unregister listener.number) :
    listener ∈ (lifecycle.after operation).listeners := by
  rcases operation.kinds with ⟨signal, rfl⟩ | ⟨removed, rfl⟩ | moves
  · exact List.mem_append_left _ here
  · refine List.mem_filter.mpr ⟨here, bne_iff_ne.mpr fun same => ?_⟩
    exact stays (congrArg _ same.symm)
  · rw [lifecycle.listeners_after moves]
    exact here

/-- A listener that is there hears its signal until it is removed. -/
theorem Orderly.log_of_here (orderly : lifecycle.Orderly) (operations : List Operation)
    (here : ⟨number, signal⟩ ∈ lifecycle.listeners) :
    ((lifecycle.log operations).filter fun heard => heard.listener = number) =
      ((lifecycle.presence.emitted
          (operations.takeWhile fun operation => operation ≠ .unregister number)).filter
        fun emission => emission.signal = signal).map
        fun emission => ⟨number, signal, emission.seen⟩ := by
  induction operations generalizing lifecycle with
  | nil => rfl
  | cons operation rest ih =>
      rw [log_cons_filter, orderly.filter_number here, flatMap_toldTo_singleton]
      by_cases removed : operation = .unregister number
      · -- The number is gone for good.
        subst removed
        have issued : number < (lifecycle.after (.unregister number)).registered :=
          orderly.issued _ here
        have gone : ((lifecycle.after (.unregister number)).listeners.filter
            fun listener => listener.number = number) = [] := by
          refine List.filter_eq_nil_iff.mpr fun listener member same => ?_
          exact bne_iff_ne.mp (List.mem_filter.mp member).2 (of_decide_eq_true same)
        rw [log_of_gone rest issued gone, List.takeWhile_cons_of_neg (by simp)]
        rfl
      · rw [List.takeWhile_cons_of_pos (by simpa using removed), Presence.emitted,
          List.filter_append, List.map_append,
          ih (orderly.after operation) (mem_listeners_after here removed), presence_after]

theorem Orderly.listener_lt_of_mem_log (orderly : lifecycle.Orderly)
    (operations : List Operation) :
    ∀ heard ∈ lifecycle.log operations,
      heard.listener < (lifecycle.run operations).registered := by
  induction operations generalizing lifecycle with
  | nil => exact nofun
  | cons operation rest ih =>
      intro heard member
      rcases List.mem_append.mp member with first | later
      · rw [heard_apply] at first
        obtain ⟨emission, -, told⟩ := List.mem_flatMap.mp first
        obtain ⟨listener, listens, rfl⟩ := List.mem_map.mp told
        have issued := orderly.issued listener (List.mem_filter.mp listens).1
        exact Nat.lt_of_lt_of_le issued (lifecycle.registered_le_run (operation :: rest))
      · exact ih (orderly.after operation) heard later

theorem exists_emission_of_mem_log (operations : List Operation) :
    ∀ heard ∈ lifecycle.log operations,
      ∃ emission ∈ lifecycle.presence.emitted operations, heard.seen = emission.seen := by
  induction operations generalizing lifecycle with
  | nil => exact nofun
  | cons operation rest ih =>
      intro heard member
      rcases List.mem_append.mp member with first | later
      · rw [heard_apply] at first
        obtain ⟨emission, sent, told⟩ := List.mem_flatMap.mp first
        obtain ⟨listener, -, rfl⟩ := List.mem_map.mp told
        exact ⟨emission, List.mem_append_left _ sent, rfl⟩
      · obtain ⟨emission, sent, same⟩ := ih heard later
        rw [presence_after] at sent
        exact ⟨emission, List.mem_append_right _ sent, same⟩

theorem log_of_registered (before rest : List Operation) (signal : Signal) :
    ((({} : Lifecycle).log (before ++ .register signal :: rest)).filter
        fun heard => heard.listener = registrations before) =
      (((Presence.hidden.course before).emitted
          (rest.takeWhile fun operation => operation ≠ .unregister (registrations before))).filter
        fun emission => emission.signal = signal).map
        fun emission => ⟨registrations before, signal, emission.seen⟩ := by
  have orderly := fresh_orderly.run before
  -- Before the registration nobody has the number.
  have early : ((({} : Lifecycle).log before).filter
      fun heard => heard.listener = registrations before) = [] := by
    refine List.filter_eq_nil_iff.mpr fun heard member same => ?_
    have below := fresh_orderly.listener_lt_of_mem_log before heard member
    rw [registered_run] at below
    exact Nat.ne_of_lt below (of_decide_eq_true same)
  have stands : (({} : Lifecycle).run before).presence = Presence.hidden.course before :=
    presence_run _ before
  have here : ⟨registrations before, signal⟩ ∈
      ((({} : Lifecycle).run before).after (.register signal)).listeners := by
    refine List.mem_append_right _ (List.mem_singleton.mpr ?_)
    rw [registered_run]
  rw [log_append, List.filter_append, early, List.nil_append, log, ← stands]
  exact (orderly.after (.register signal)).log_of_here rest here

/-- What holds of the listeners and the states of a run from the start. -/
structure Faithful (operations : List Operation) : Prop where
  /-- A listener hears the emissions of its signal between its registration and its
  removal, each once, in order and in the state of the emission. -/
  hears : ∀ before signal rest, operations = before ++ .register signal :: rest →
    ((({} : Lifecycle).log operations).filter
        fun heard => heard.listener = registrations before) =
      (((Presence.hidden.course before).emitted
          (rest.takeWhile fun operation => operation ≠ .unregister (registrations before))).filter
        fun emission => emission.signal = signal).map
        fun emission => ⟨registrations before, signal, emission.seen⟩
  /-- The listeners of an emission are told in their order, which is that of their
  registrations. -/
  told : ∀ operation, ({} : Lifecycle).log (operations ++ [operation]) =
    ({} : Lifecycle).log operations ++
      ((Presence.hidden.course operations).emissions operation).flatMap
        fun emission => emission.toldTo (({} : Lifecycle).run operations).listeners
  ascending : (({} : Lifecycle).run operations).listeners.Pairwise
    fun one other => one.number < other.number
  enrolled : ∀ listener, listener ∈ (({} : Lifecycle).run operations).listeners ↔
    Enrols operations listener
  removed : ∀ number, (({} : Lifecycle).run operations).answer (.unregister number) =
    .told true ↔ ∃ signal, Enrols operations ⟨number, signal⟩
  /-- Emitting takes no listener away and doubles none. -/
  kept : ∀ operation : Operation, operation.moves = true →
    (({} : Lifecycle).run (operations ++ [operation])).listeners =
      (({} : Lifecycle).run operations).listeners
  numbered : ∀ signal, (({} : Lifecycle).run operations).answer (.register signal) =
    .registered (registrations operations)
  stands : (({} : Lifecycle).run operations).presence = Presence.hidden.course operations
  reached : (({} : Lifecycle).run operations).presence.Consistent
  sent : ∀ emission ∈ Presence.hidden.emitted operations, emission.seen.Consistent
  seen : ∀ heard ∈ ({} : Lifecycle).log operations, heard.seen.Consistent

theorem answer_unregister_iff (lifecycle : Lifecycle) (number : Nat) :
    lifecycle.answer (.unregister number) = .told true ↔
      ∃ signal, ⟨number, signal⟩ ∈ lifecycle.listeners := by
  simp only [answer, apply, unregister, Answer.told.injEq, List.any_eq_true]
  constructor
  · rintro ⟨⟨other, signal⟩, member, same⟩
    obtain rfl : other = number := eq_of_beq same
    exact ⟨signal, member⟩
  · rintro ⟨signal, member⟩
    exact ⟨_, member, beq_self_eq_true number⟩

theorem faithful (operations : List Operation) : Faithful operations where
  hears := by
    rintro before signal rest rfl
    exact log_of_registered before rest signal
  told := by
    intro operation
    have stands : (({} : Lifecycle).run operations).presence =
        Presence.hidden.course operations := presence_run _ operations
    rw [log_append, log, heard_apply, stands, log, List.append_nil]
  ascending := (fresh_orderly.run operations).ascending
  enrolled := fun _ => mem_listeners_iff
  removed := by
    intro number
    rw [answer_unregister_iff]
    simp only [mem_listeners_iff]
  kept := by
    intro operation moves
    rw [run_append]
    exact listeners_after _ moves
  numbered := by
    intro signal
    rw [← registered_run]
    rfl
  stands := presence_run _ operations
  reached := by
    rw [presence_run]
    exact Presence.hidden_consistent.course operations
  sent := Presence.hidden_consistent.emitted operations
  seen := by
    intro heard member
    obtain ⟨emission, sent, same⟩ := exists_emission_of_mem_log operations heard member
    rw [same]
    exact Presence.hidden_consistent.emitted operations emission sent

/-- In every run the listeners hear what is sent while they are there, and nothing that a
host sees of the menu depends on who listens: runs that differ in registrations and
removals reach the same states, send out the same and return the same. -/
theorem run_faithful :
    (∀ operations, Faithful operations) ∧
    ∀ (lifecycle other : Lifecycle) (operations others : List Operation),
      lifecycle.presence = other.presence →
      operations.filter Operation.moves = others.filter Operation.moves →
      (lifecycle.run operations).presence = (other.run others).presence ∧
      lifecycle.presence.emitted operations = other.presence.emitted others ∧
      ∀ operation : Operation, operation.moves = true →
        (lifecycle.run operations).answer operation = (other.run others).answer operation := by
  refine ⟨faithful, ?_⟩
  intro lifecycle other operations others same moved
  obtain ⟨reached, sent⟩ := lifecycle.presence.course_filter operations
  obtain ⟨reachedToo, sentToo⟩ := other.presence.course_filter others
  rw [moved, same] at reached sent
  have stands : (lifecycle.run operations).presence = (other.run others).presence := by
    rw [presence_run, presence_run, same, ← reached, reachedToo]
  refine ⟨stands, ?_, fun operation moves => answer_eq_of_presence moves stands⟩
  rw [same, ← sent, sentToo]

/-- The first listener is removed before the second time the menu opens, the second one
came too late for the first. -/
theorem run_faithful_reopen :
    let operations : List Operation :=
      [.register (.done .opening), .toggle, .register (.done .opening), .clickOutside,
        .unregister 0, .send (.asked .opening), .unregister 7]
    let silent : List Operation := [.toggle, .clickOutside, .send (.asked .opening)]
    (({} : Lifecycle).log operations).filter (fun heard => heard.listener = 0) =
        [⟨0, .done .opening, ⟨.opened, true, true⟩⟩] ∧
      (({} : Lifecycle).log operations).filter (fun heard => heard.listener = 1) =
        [⟨1, .done .opening, ⟨.opened, true, true⟩⟩] ∧
      (({} : Lifecycle).run operations).presence = (({} : Lifecycle).run silent).presence ∧
      (({} : Lifecycle).run operations).answer .clickOutside =
        (({} : Lifecycle).run silent).answer .clickOutside := by
  intro operations silent
  obtain ⟨listening, independent⟩ := run_faithful
  obtain ⟨stands, -, answers⟩ := independent {} {} operations silent rfl (by decide)
  refine ⟨?_, ?_, stands, answers .clickOutside rfl⟩
  · exact (listening operations).hears [] (.done .opening) _ rfl
  · exact (listening operations).hears [.register (.done .opening), .toggle] (.done .opening) _ rfl

end QueryMenu.Lifecycle
