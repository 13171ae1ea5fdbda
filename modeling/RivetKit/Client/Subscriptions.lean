/-
The subscriptions of a client connection and of its server connection:
`#addEventSubscription`, `#dispatchEvent`, `#sendSubscription` and the
resubscription of `#handleOnOpen` (client/actor-conn.ts), and
`#addSubscription` and `#removeSubscription` (actor/instance.ts) at the other
end of a WebSocket that delivers in order.

# Sets of listeners

A set in `#eventSubscriptions` is an object: a dispatch goes on with the set
it found, whatever the map says by then. A listener is put in one set, when
it is made; `present` is whether it is still in it.

# Steps

A dispatch is a frame, from one call of a listener to the next, since a
listener may register and unsubscribe others. It ends when a listener throws.
Nothing is received and nobody reconnects in between.

# Bookkeeping

`removed` is a listener that has been unsubscribed, or whose one call has
been made. No branch reads it.
-/
import RivetKit.Actor.Connections
import RivetKit.Lib.System

namespace RivetKit.Client

open Transition
open Actor.LiveInstance (mapSet mapDelete)

-- =============================================================== the data

/-- `EventSubscriptions`: a listener. -/
structure Listener where
  eventName : String
  once : Bool
  set : Nat
  present : Bool := true
  removed : Bool := false
  deriving DecidableEq

/-- `#dispatchEvent`: the set it found and the listeners to call. The first
is being called. -/
structure DispatchFrame where
  name : String
  set : Nat
  listeners : List Nat
  deriving DecidableEq

/-- The WebSocket: none is open, one is, or its `Init` has been handled. -/
inductive SocketPhase
  | disconnected
  | opened
  | ready
  deriving DecidableEq

/-- `SubscriptionRequest`. -/
structure SubscriptionRequest where
  eventName : String
  subscribe : Bool
  deriving DecidableEq

/-- Both ends. -/
structure EventConn where
  /-- every listener made -/
  listeners : List Listener := []
  /-- the number of sets made -/
  sets : Nat := 0
  eventSubscriptions : List (String × Nat) := []
  dispatching : Option DispatchFrame := none
  phase : SocketPhase := .disconnected
  toServer : List SubscriptionRequest := []
  /-- the subscriptions of the server's connection -/
  server : List String := []

namespace EventConn

-- ============================================================= the client

/-- `listeners.size === 0`. -/
def isEmpty (s : EventConn) (set : Nat) : Bool :=
  s.listeners.all fun l => !(l.set == set && l.present)

/-- `#sendSubscription`: ephemeral, so it is sent now or never. -/
def sendSubscription (s : EventConn) (eventName : String) (subscribe : Bool) :
    EventConn :=
  if s.phase = .disconnected then s
  else { s with toServer := s.toServer ++ [⟨eventName, subscribe⟩] }

/-- `#addEventSubscription`. -/
def addEventSubscription (s : EventConn) (eventName : String) (once : Bool) :
    EventConn :=
  match s.eventSubscriptions.lookup eventName with
  | some set =>
      { s with
        listeners := s.listeners ++ [⟨eventName, once, set, true, false⟩] }
  | none =>
      let set := s.sets
      let s := { s with
        sets := set + 1
        eventSubscriptions := mapSet s.eventSubscriptions eventName set }
      let s := s.sendSubscription eventName true
      { s with
        listeners := s.listeners ++ [⟨eventName, once, set, true, false⟩] }

/-- `listeners.delete(listener)`, of a set. -/
def delete (s : EventConn) (listener set : Nat) : EventConn :=
  { s with
    listeners := s.listeners.modify listener fun l =>
      { l with present := l.present && l.set != set } }

/-- A listener is done with. -/
def retire (s : EventConn) (listener : Nat) : EventConn :=
  { s with
    listeners := s.listeners.modify listener fun l =>
      { l with removed := true } }

/-- The event of a set that has become empty is forgotten, and the server
told. -/
def forgetEvent (s : EventConn) (eventName : String) : EventConn :=
  { s with
    eventSubscriptions := mapDelete s.eventSubscriptions eventName
  }.sendSubscription eventName false

/-- The function `#addEventSubscription` returns. -/
def unsubscribe (s : EventConn) (listener : Nat) : Option EventConn :=
  match s.listeners[listener]? with
  | none => none
  | some l =>
      let s := s.retire listener
      match s.eventSubscriptions.lookup l.eventName with
      | none => some s
      | some set =>
          let s := s.delete listener set
          some (if s.isEmpty set then s.forgetEvent l.eventName else s)

/-- "Clean up empty listener sets", the end of `#dispatchEvent`. -/
def endDispatch (s : EventConn) (frame : DispatchFrame) : EventConn :=
  { s with
    dispatching := none
    eventSubscriptions :=
      if s.isEmpty frame.set then mapDelete s.eventSubscriptions frame.name
      else s.eventSubscriptions }

/-- The loop of `#dispatchEvent`: call the next listener, if there is one. -/
def callNext (s : EventConn) (frame : DispatchFrame) : EventConn :=
  if frame.listeners = [] then s.endDispatch frame
  else { s with dispatching := some frame }

/-- `[...listeners]`. -/
def snapshot (s : EventConn) (set : Nat) : List Nat :=
  (List.range s.listeners.length).filter fun i =>
    s.listeners[i]?.any fun l => l.set == set && l.present

/-- An event is received. -/
def dispatchEvent (s : EventConn) (name : String) : Option EventConn :=
  if s.dispatching = none then
    match s.eventSubscriptions.lookup name with
    | none => some s
    | some set => some (s.callNext ⟨name, set, s.snapshot set⟩)
  else none

/-- "Remove if this was a one-time listener". -/
def afterCall (s : EventConn) (i : Nat) (l : Listener) (set : Nat) :
    EventConn :=
  if l.once then (s.retire i).delete i set else s

/-- The listener that is being called returns. -/
def returned (s : EventConn) : Option EventConn :=
  match s.dispatching with
  | some ⟨name, set, i :: rest⟩ =>
      match s.listeners[i]? with
      | some l =>
          some ((s.afterCall i l set).callNext ⟨name, set, rest⟩)
      | none => none
  | _ => none

/-- It throws. -/
def threw (s : EventConn) : Option EventConn :=
  match s.dispatching with
  | some _ => some { s with dispatching := none }
  | none => none

-- ============================================================= the server

/-- `#addSubscription` and `#removeSubscription`, of one connection. -/
def serverApply (subscriptions : List String) (m : SubscriptionRequest) :
    List String :=
  if m.subscribe then
    if m.eventName ∈ subscriptions then subscriptions
    else subscriptions ++ [m.eventName]
  else subscriptions.erase m.eventName

/-- The server handles the next message. -/
def serverReceive (s : EventConn) : Option EventConn :=
  match s.toServer with
  | m :: rest =>
      some { s with toServer := rest, server := serverApply s.server m }
  | [] => none

-- ========================================================== the connection

/-- A socket opens, with a connection of its own at the server. -/
def connect (s : EventConn) : Option EventConn :=
  if s.phase = .disconnected ∧ s.dispatching = none then
    some { s with phase := .opened, toServer := [], server := [] }
  else none

/-- `Init` is handled: "resubscribe to all active events". -/
def handleOnOpen (s : EventConn) : Option EventConn :=
  if s.phase = .opened ∧ s.dispatching = none then
    some { s with
      phase := .ready
      toServer := s.toServer
        ++ s.eventSubscriptions.map fun entry => ⟨entry.1, true⟩ }
  else none

/-- The socket closes. What was on its way is lost. -/
def disconnect (s : EventConn) : Option EventConn :=
  if s.dispatching = none then
    some { s with phase := .disconnected, toServer := [], server := [] }
  else none

end EventConn

-- ============================================================ the machine

/-- The steps of the two ends. `on` and `once` are `#addEventSubscription`. -/
inductive EventStep
  | addEventSubscription (eventName : String) (once : Bool)
  | unsubscribe (listener : Nat)
  | dispatchEvent (name : String)
  | returned
  | threw
  | serverReceive
  | connect
  | handleOnOpen
  | disconnect

/-- One step. -/
def eventStep (s : EventConn) : EventStep → Option EventConn
  | .addEventSubscription eventName once =>
      some (s.addEventSubscription eventName once)
  | .unsubscribe listener => s.unsubscribe listener
  | .dispatchEvent name => s.dispatchEvent name
  | .returned => s.returned
  | .threw => s.threw
  | .serverReceive => s.serverReceive
  | .connect => s.connect
  | .handleOnOpen => s.handleOnOpen
  | .disconnect => s.disconnect

/-- The runs of one connection. -/
def eventSystem : System EventConn EventStep where
  init s := s = {}
  step := eventStep

-- ============================================================ the contract

namespace EventConn

/-- An event has a listener that is registered. -/
def HasListener (s : EventConn) (eventName : String) : Prop :=
  ∃ l ∈ s.listeners, l.eventName = eventName ∧ l.removed = false

/-- With all messages delivered and processed, the server's connection is
subscribed to the events that have a listener. -/
def Agreement (s : EventConn) : Prop :=
  s.phase = .ready → s.toServer = [] → s.dispatching = none →
    ∀ eventName, eventName ∈ s.server ↔ s.HasListener eventName

/-- What the server is subscribed to once it has handled what is on its
way. -/
def heard (s : EventConn) : List String :=
  s.toServer.foldl serverApply s.server

/-- The end of a dispatch that finds its set empty forgets no event that the
server is subscribed to, nor a set made anew; a dispatch does not end with a
throw once its set is empty and in the map. -/
def SubscriptionSafe (s : EventConn) : EventStep → Prop
  | .returned =>
      ∀ name set i l, s.dispatching = some ⟨name, set, [i]⟩ →
        s.listeners[i]? = some l →
        (s.afterCall i l set).isEmpty set = true →
          s.eventSubscriptions.lookup name = none
            ∨ s.eventSubscriptions.lookup name = some set ∧ name ∉ s.heard
  | .threw =>
      ∀ frame, s.dispatching = some frame → s.isEmpty frame.set = true →
        s.eventSubscriptions.lookup frame.name ≠ some frame.set
  | _ => True

end EventConn

end RivetKit.Client
