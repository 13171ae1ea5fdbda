/-
The calls of one `#dispatchEvent` (client/actor-conn.ts), over the
connection with its subscriptions.

# History

`due` are the listeners that are registered for the event when its
dispatch begins, `called` those that this dispatch, or the last one, has
called, and `early` those that were unsubscribed while it ran and before
their turn. A listener is registered until it is unsubscribed or has
returned from its one call (`Listener.removed`), whatever set it is in.
-/
import RivetKit.Client.Subscriptions

namespace RivetKit.Client

open Transition

/-- A connection and the calls of a dispatch. -/
structure DispatchRun extends EventConn where
  due : List Nat := []
  called : List Nat := []
  early : List Nat := []

namespace EventConn

/-- The listeners that are registered for an event. -/
def registeredFor (s : EventConn) (name : String) : List Nat :=
  (List.range s.listeners.length).filter fun i =>
    s.listeners[i]?.any fun l => l.eventName == name && !l.removed

/-- The listener that is being called. -/
def calling (s : EventConn) : List Nat :=
  match s.dispatching with
  | some frame => frame.listeners.head?.toList
  | none => []

/-- The next dispatch of its event calls the listener. -/
def Found (s : EventConn) (i : Nat) : Prop :=
  ∃ l set, s.listeners[i]? = some l
    ∧ s.eventSubscriptions.lookup l.eventName = some set
    ∧ i ∈ s.snapshot set

end EventConn

/-- The calls of a step. -/
def DispatchRun.record (s : DispatchRun) (conn : EventConn) :
    EventStep → DispatchRun
  | .dispatchEvent name =>
      { toEventConn := conn
        due := s.registeredFor name
        called := conn.calling }
  | .unsubscribe i =>
      { s with
        toEventConn := conn
        early :=
          if s.dispatching.isSome ∧ i ∉ s.called then s.early ++ [i]
          else s.early }
  | .returned =>
      { s with toEventConn := conn, called := s.called ++ conn.calling }
  | _ => { s with toEventConn := conn }

/-- The runs of one connection, with the calls. -/
def dispatchSystem : System DispatchRun EventStep where
  init s := s = {}
  step s a := (eventStep s.toEventConn a).map fun conn => s.record conn a

/-- What a dispatch is to do. -/
structure DispatchRun.Dispatched (s : DispatchRun) : Prop where
  called : s.dispatching = none → ∀ i ∈ s.due, i ∉ s.early →
    s.called.count i = 1
  once : s.dispatching = none → ∀ i ∈ s.called, ∀ l,
    s.listeners[i]? = some l → l.once = true → ¬ s.Found i
  registered : ∀ i l, s.listeners[i]? = some l → l.removed = false →
    s.Found i

/-- The set that a dispatch found is not empty at its end while another set
of the event is in the map; and a listener throws only if it is not a
one-time listener that is still registered, and those behind it have all
been unsubscribed. -/
def DispatchRun.DispatchSafe (s : DispatchRun) : EventStep → Prop
  | .returned =>
      ∀ name set i l, s.dispatching = some ⟨name, set, [i]⟩ →
        s.listeners[i]? = some l →
        (s.afterCall i l set).isEmpty set = true →
          s.eventSubscriptions.lookup name = none
            ∨ s.eventSubscriptions.lookup name = some set
  | .threw =>
      ∀ name set i rest l, s.dispatching = some ⟨name, set, i :: rest⟩ →
        s.listeners[i]? = some l →
        (l.once = true → l.removed = true)
          ∧ ∀ j ∈ rest, ∀ k, s.listeners[j]? = some k → k.removed = true
  | _ => True

end RivetKit.Client
