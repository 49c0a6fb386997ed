import QueryMenu.Lifecycle

namespace QueryMenu

/-! What the life of a menu sends out.

An operation asks for transitions or performs them, and every request and every finished
transition is an emission: a signal, and the state of the menu at that moment.  Which
emissions there are follows from the state and the operation alone.  Listeners are told
of them and have no say.
-/

namespace Lifecycle

/-- What a host can do to a menu's life. -/
inductive Operation where
  | register (signal : Signal)
  | unregister (number : Nat)
  | perform (transition : Transition)
  | toggle
  | send (signal : Signal)
  | clickOutside
deriving DecidableEq, Repr

/-- The operation is about the menu and not about who listens. -/
def Operation.moves : Operation → Bool
  | .register _ | .unregister _ => false
  | .perform _ | .toggle | .send _ | .clickOutside => true

theorem Operation.kinds (operation : Operation) :
    (∃ signal, operation = .register signal) ∨ (∃ number, operation = .unregister number) ∨
      operation.moves = true := by
  cases operation with
  | register signal => exact .inl ⟨signal, rfl⟩
  | unregister number => exact .inr (.inl ⟨number, rfl⟩)
  | perform | toggle | send | clickOutside => exact .inr (.inr rfl)

inductive Answer where
  | done
  | registered (number : Nat)
  | told (flag : Bool)
deriving DecidableEq, Repr

def apply (lifecycle : Lifecycle) : Operation → Answer × Lifecycle × List Heard
  | .register signal =>
    let (number, next) := lifecycle.register signal
    (.registered number, next, [])
  | .unregister number =>
    let (found, next) := lifecycle.unregister number
    (.told found, next, [])
  | .perform transition => (.done, lifecycle.perform transition)
  | .toggle => (.done, lifecycle.toggle)
  | .send signal => (.done, lifecycle.send signal)
  | .clickOutside =>
    let (closed, next) := lifecycle.clickOutside
    (.told closed, next)

def answer (lifecycle : Lifecycle) (operation : Operation) : Answer :=
  (lifecycle.apply operation).1

def after (lifecycle : Lifecycle) (operation : Operation) : Lifecycle :=
  (lifecycle.apply operation).2.1

def run (lifecycle : Lifecycle) (operations : List Operation) : Lifecycle :=
  operations.foldl after lifecycle

def log (lifecycle : Lifecycle) : List Operation → List Heard
  | [] => []
  | operation :: rest =>
    (lifecycle.apply operation).2.2 ++ (lifecycle.after operation).log rest

end Lifecycle

open Lifecycle (Operation)

/-- A signal, and the state of the menu in which it is sent. -/
structure Emission where
  signal : Signal
  seen : Presence
deriving DecidableEq, Repr

/-- What listeners hear of an emission, in their order. -/
def Emission.toldTo (emission : Emission) (listeners : List Listener) : List Heard :=
  (listeners.filter fun listener => listener.signal == emission.signal).map
    fun listener => ⟨listener.number, emission.signal, emission.seen⟩

namespace Presence

def transitions (presence : Presence) : Operation → List Transition
  | .perform transition | .send (.asked transition) => [transition]
  | .toggle => if presence.visible then [.closing] else [.opening, .focusing]
  | .clickOutside => if presence.guarded then [.closing] else []
  | .register _ | .unregister _ | .send (.done _) => []

/-- Each transition is reported in the state after it. -/
def reports (presence : Presence) : List Transition → List Emission
  | [] => []
  | transition :: rest =>
    ⟨.done transition, presence.after transition⟩ :: (presence.after transition).reports rest

/-- A signal that the host sends goes out in the state before. -/
def emissions (presence : Presence) (operation : Operation) : List Emission :=
  (match operation with
    | .send signal => [⟨signal, presence⟩]
    | _ => []) ++ presence.reports (presence.transitions operation)

def next (presence : Presence) (operation : Operation) : Presence :=
  (presence.transitions operation).foldl Presence.after presence

def course (presence : Presence) (operations : List Operation) : Presence :=
  operations.foldl Presence.next presence

def emitted (presence : Presence) : List Operation → List Emission
  | [] => []
  | operation :: rest => presence.emissions operation ++ (presence.next operation).emitted rest

theorem emissions_of_stays (presence : Presence) {operation : Operation}
    (stays : operation.moves = false) : presence.emissions operation = [] := by
  rcases operation.kinds with ⟨signal, rfl⟩ | ⟨number, rfl⟩ | moves
  · rfl
  · rfl
  · cases stays.symm.trans moves

theorem next_of_stays (presence : Presence) {operation : Operation}
    (stays : operation.moves = false) : presence.next operation = presence := by
  rcases operation.kinds with ⟨signal, rfl⟩ | ⟨number, rfl⟩ | moves
  · rfl
  · rfl
  · cases stays.symm.trans moves

/-- Where a run gets to and what it sends out does not depend on who listens meanwhile. -/
theorem course_filter (presence : Presence) (operations : List Operation) :
    presence.course (operations.filter Operation.moves) = presence.course operations ∧
      presence.emitted (operations.filter Operation.moves) = presence.emitted operations := by
  induction operations generalizing presence with
  | nil => exact ⟨rfl, rfl⟩
  | cons operation rest ih =>
      cases moves : operation.moves with
      | true =>
          rw [List.filter_cons_of_pos moves]
          obtain ⟨reached, sent⟩ := ih (presence.next operation)
          exact ⟨reached, congrArg (presence.emissions operation ++ ·) sent⟩
      | false =>
          rw [List.filter_cons_of_neg (by simp [moves])]
          have stays := presence.next_of_stays moves
          have silent := presence.emissions_of_stays moves
          obtain ⟨reached, sent⟩ := ih presence
          constructor
          · rw [reached, course, course, List.foldl_cons, stays]
          · rw [sent, emitted, silent, stays, List.nil_append]

/-- The guard is set exactly while the menu is visible, which a closed menu is not and an
open one is. -/
structure Consistent (presence : Presence) : Prop where
  guarded : presence.guarded = presence.visible
  closed : presence.status = .closed → presence.visible = false
  opened : presence.status = .opened → presence.visible = true

theorem hidden_consistent : hidden.Consistent :=
  ⟨rfl, fun _ => rfl, nofun⟩

namespace Consistent

variable {presence : Presence} (consistent : presence.Consistent)
include consistent

theorem after (transition : Transition) : (presence.after transition).Consistent := by
  cases transition with
  | focusing => exact ⟨consistent.guarded, nofun, nofun⟩
  | opening => exact ⟨rfl, nofun, fun _ => rfl⟩
  | closing => exact ⟨rfl, fun _ => rfl, nofun⟩

theorem foldl (transitions : List Transition) :
    (transitions.foldl Presence.after presence).Consistent := by
  induction transitions generalizing presence with
  | nil => exact consistent
  | cons transition rest ih => exact ih (consistent.after transition)

theorem reports (transitions : List Transition) :
    ∀ emission ∈ presence.reports transitions, emission.seen.Consistent := by
  induction transitions generalizing presence with
  | nil => exact nofun
  | cons transition rest ih =>
      intro emission member
      rcases List.mem_cons.mp member with rfl | later
      · exact consistent.after transition
      · exact ih (consistent.after transition) emission later

theorem emissions (operation : Operation) :
    ∀ emission ∈ presence.emissions operation, emission.seen.Consistent := by
  intro emission member
  rcases List.mem_append.mp member with sent | reported
  · cases operation with
    | send signal =>
        obtain rfl := List.mem_singleton.mp sent
        exact consistent
    | register | unregister | perform | toggle | clickOutside => cases sent
  · exact consistent.reports _ emission reported

theorem emitted (operations : List Operation) :
    ∀ emission ∈ presence.emitted operations, emission.seen.Consistent := by
  induction operations generalizing presence with
  | nil => exact nofun
  | cons operation rest ih =>
      intro emission member
      rcases List.mem_append.mp member with first | later
      · exact consistent.emissions operation emission first
      · exact ih (consistent.foldl _) emission later

theorem course (operations : List Operation) : (presence.course operations).Consistent := by
  induction operations generalizing presence with
  | nil => exact consistent
  | cons operation rest ih => exact ih (consistent.foldl _)

end Consistent

end Presence

namespace Lifecycle

variable (lifecycle : Lifecycle)

theorem performAll_eq (transitions : List Transition) :
    lifecycle.performAll transitions =
      ({ lifecycle with presence := transitions.foldl Presence.after lifecycle.presence },
        (lifecycle.presence.reports transitions).flatMap
          fun emission => emission.toldTo lifecycle.listeners) := by
  induction transitions generalizing lifecycle with
  | nil => rfl
  | cons transition rest ih =>
      simp only [performAll, perform, ih]
      rfl

theorem perform_eq (transition : Transition) :
    lifecycle.perform transition = lifecycle.performAll [transition] := by
  simp [performAll]

/-- An operation on the menu performs its transitions, tells the listeners of every
emission and leaves them as they are. -/
theorem apply_moves {operation : Operation} (moves : operation.moves = true) :
    (lifecycle.apply operation).2 =
      ({ lifecycle with presence := lifecycle.presence.next operation },
        (lifecycle.presence.emissions operation).flatMap
          fun emission => emission.toldTo lifecycle.listeners) := by
  cases operation with
  | register | unregister => cases moves
  | perform transition => exact (lifecycle.perform_eq transition).trans (performAll_eq _ _)
  | toggle => exact lifecycle.performAll_eq _
  | send signal =>
      cases signal with
      | asked transition =>
          simp only [apply, send, perform_eq, performAll_eq]
          rfl
      | done transition =>
          simp [apply, send, Presence.emissions, Presence.transitions, Presence.reports,
            Presence.next, heard, Emission.toldTo]
  | clickOutside =>
      cases guarded : lifecycle.presence.guarded <;>
        simp [apply, clickOutside, guarded, perform_eq, performAll_eq, Presence.emissions,
          Presence.transitions, Presence.next, Presence.reports]

theorem presence_after (operation : Operation) :
    (lifecycle.after operation).presence = lifecycle.presence.next operation := by
  rcases operation.kinds with ⟨signal, rfl⟩ | ⟨number, rfl⟩ | moves
  · rfl
  · rfl
  · rw [after, lifecycle.apply_moves moves]

theorem listeners_after {operation : Operation} (moves : operation.moves = true) :
    (lifecycle.after operation).listeners = lifecycle.listeners := by
  rw [after, lifecycle.apply_moves moves]

theorem registered_after {operation : Operation} (moves : operation.moves = true) :
    (lifecycle.after operation).registered = lifecycle.registered := by
  rw [after, lifecycle.apply_moves moves]

theorem heard_apply (operation : Operation) :
    (lifecycle.apply operation).2.2 = (lifecycle.presence.emissions operation).flatMap
      fun emission => emission.toldTo lifecycle.listeners := by
  rcases operation.kinds with ⟨signal, rfl⟩ | ⟨number, rfl⟩ | moves
  · rfl
  · rfl
  · rw [lifecycle.apply_moves moves]

theorem presence_run (operations : List Operation) :
    (lifecycle.run operations).presence = lifecycle.presence.course operations := by
  induction operations generalizing lifecycle with
  | nil => rfl
  | cons operation rest ih =>
      have later : (lifecycle.run (operation :: rest)).presence =
          (lifecycle.after operation).presence.course rest := ih (lifecycle.after operation)
      rw [later, presence_after]
      rfl

/-- What an operation on the menu returns is told by the state of the menu alone. -/
theorem answer_eq_of_presence {lifecycle other : Lifecycle} {operation : Operation}
    (moves : operation.moves = true) (same : lifecycle.presence = other.presence) :
    lifecycle.answer operation = other.answer operation := by
  cases operation with
  | register | unregister => cases moves
  | perform | toggle | send => rfl
  | clickOutside =>
      simp only [answer, apply, clickOutside, same]
      split <;> rfl

theorem run_append (first second : List Operation) :
    lifecycle.run (first ++ second) = (lifecycle.run first).run second :=
  List.foldl_append

theorem log_append (first second : List Operation) :
    lifecycle.log (first ++ second) =
      lifecycle.log first ++ (lifecycle.run first).log second := by
  induction first generalizing lifecycle with
  | nil => rfl
  | cons operation rest ih =>
      rw [List.cons_append, log, ih, log, List.append_assoc]
      rfl

end Lifecycle

end QueryMenu
