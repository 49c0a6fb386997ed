namespace QueryMenu

/-! The life of a menu: closed, opened or focused.

A menu moves by three transitions, each of which every state allows.  A host asks
for a transition or performs it, and listeners hear both: `Signal.asked` in the
state before the transition, `Signal.done` in the state after it.  A listener has
no effect on the menu, so what it hears is data: every operation returns the new
lifecycle together with what was heard, in order.
-/

inductive Status where
  | closed
  | opened
  | focused
deriving DecidableEq, Repr

def Status.name : Status → String
  | .closed => "closed"
  | .opened => "open"
  | .focused => "focused"

inductive Transition where
  | focusing
  | opening
  | closing
deriving DecidableEq, Repr

inductive Signal where
  | asked (transition : Transition)
  | done (transition : Transition)
deriving DecidableEq, Repr

namespace Signal

/-- Every signal, in the order in which signals are numbered. -/
def all : List Signal :=
  [.asked .focusing, .done .focusing, .asked .opening, .done .opening,
    .asked .closing, .done .closing]

def name : Signal → String
  | .asked .focusing => "dropmenu:focus"
  | .done .focusing => "dropmenu:focused"
  | .asked .opening => "dropmenu:open"
  | .done .opening => "dropmenu:opened"
  | .asked .closing => "dropmenu:close"
  | .done .closing => "dropmenu:closed"

def ofName? (name : String) : Option Signal :=
  all.find? fun signal => signal.name == name

end Signal

structure Presence where
  status : Status
  visible : Bool
  /-- A click outside the menu will close it. -/
  guarded : Bool
deriving DecidableEq, Repr

namespace Presence

def hidden : Presence := ⟨.closed, false, false⟩

/-- Focusing keeps the visibility: a hidden menu may be focused and stay hidden. -/
def after (presence : Presence) : Transition → Presence
  | .focusing => { presence with status := .focused }
  | .opening => ⟨.opened, true, true⟩
  | .closing => ⟨.closed, false, false⟩

def describe (presence : Presence) (listeners : Nat) : String :=
  let status := match presence.status with
    | .closed => "Closed"
    | .opened => "Open"
    | .focused => "Focused"
  String.join
    ["MenuLifecycle \x7b status: ", status,
      ", opened: ", if presence.visible then "true" else "false",
      ", blur_guard: ", if presence.guarded then "true" else "false",
      ", listeners: ", toString listeners, " \x7d"]

end Presence

structure Listener where
  number : Nat
  signal : Signal
deriving DecidableEq, Repr

/-- One listener was told of one signal while the menu was in the state `seen`. -/
structure Heard where
  listener : Nat
  signal : Signal
  seen : Presence
deriving DecidableEq, Repr

/-- A menu's life together with the listeners registered on it, oldest first.
Listeners are numbered from zero over all registrations, so a number never names
a second listener. -/
structure Lifecycle where
  presence : Presence := .hidden
  listeners : List Listener := []
  registered : Nat := 0
deriving DecidableEq, Repr

namespace Lifecycle

def describe (lifecycle : Lifecycle) : String :=
  lifecycle.presence.describe lifecycle.listeners.length

def register (lifecycle : Lifecycle) (signal : Signal) : Nat × Lifecycle :=
  (lifecycle.registered,
    { lifecycle with
      listeners := lifecycle.listeners ++ [⟨lifecycle.registered, signal⟩]
      registered := lifecycle.registered + 1 })

/-- Removes a listener and tells whether it was still there. -/
def unregister (lifecycle : Lifecycle) (number : Nat) : Bool × Lifecycle :=
  (lifecycle.listeners.any fun listener => listener.number == number,
    { lifecycle with
      listeners := lifecycle.listeners.filter fun listener => listener.number != number })

/-- What the listeners hear of a signal sent now, in registration order. -/
def heard (lifecycle : Lifecycle) (signal : Signal) : List Heard :=
  (lifecycle.listeners.filter fun listener => listener.signal == signal).map
    fun listener => ⟨listener.number, signal, lifecycle.presence⟩

/-- Performs a transition and reports it as done. -/
def perform (lifecycle : Lifecycle) (transition : Transition) : Lifecycle × List Heard :=
  let moved := { lifecycle with presence := lifecycle.presence.after transition }
  (moved, moved.heard (.done transition))

def performAll (lifecycle : Lifecycle) : List Transition → Lifecycle × List Heard
  | [] => (lifecycle, [])
  | transition :: rest =>
    let (moved, heard) := lifecycle.perform transition
    let (final, later) := moved.performAll rest
    (final, heard ++ later)

/-- Closes a visible menu; opens and focuses a hidden one. -/
def toggle (lifecycle : Lifecycle) : Lifecycle × List Heard :=
  lifecycle.performAll (if lifecycle.presence.visible then [.closing] else [.opening, .focusing])

/-- Sends a signal in the present state.  Asking for a transition then performs it;
reporting one as done changes nothing. -/
def send (lifecycle : Lifecycle) (signal : Signal) : Lifecycle × List Heard :=
  let heard := lifecycle.heard signal
  match signal with
  | .asked transition =>
    let (moved, later) := lifecycle.perform transition
    (moved, heard ++ later)
  | .done _ => (lifecycle, heard)

/-- A click outside the menu closes it if the guard is set, and tells whether it did. -/
def clickOutside (lifecycle : Lifecycle) : Bool × Lifecycle × List Heard :=
  if lifecycle.presence.guarded then (true, lifecycle.perform .closing)
  else (false, lifecycle, [])

end Lifecycle

end QueryMenu
