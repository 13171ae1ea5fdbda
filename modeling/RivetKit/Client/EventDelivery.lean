/-
Events from the actor to the listeners of its clients: `_broadcast`
(actor/instance.ts) at one end, `#handleOnMessage` and `#dispatchEvent`
(client/actor-conn.ts) at the other, over WebSockets that deliver in order.

Each client has a connection with its subscriptions, as `EventConn` has it,
and here also what is on its way to the client. A broadcast sends the event
at once to the connections that are subscribed to it, one after another, and
its loop ends at the first send that throws. A socket that opens brings
`Init` first, which `createConn` sends before the connection's first message
is handled. A client takes what arrives one after another. What is on its
way when a socket closes is lost.

Arguments are the bytes that they are encoded in. Over json they arrive as
an empty object, in which there are no bytes. A dispatch begins with
`cbor.decode`; where that throws, no listener is called.

# History

`calls` are the calls of listeners, each with its event.
-/
import RivetKit.Client.Dispatches
import RivetKit.Lib.Composition
import RivetKit.Protocol.ClientProtocol
import RivetKit.Protocol.Serde

namespace RivetKit.Client

open Transition
open Protocol (Encoding Event Platform)

-- =============================================================== the data

/-- What is on its way to a client. -/
inductive Downstream
  | init
  | event (event : Event)

/-- A broadcast, and what becomes of its sends: the connections in the order
in which the loop takes them, and those whose send throws. -/
structure Broadcast where
  event : Event
  order : List Nat := []
  throws : List Nat := []

/-- The loop gets to a connection and sends: no send throws up to its own. -/
def Broadcast.SendsTo (b : Broadcast) (c : Nat) : Prop :=
  ∀ d ∈ b.order.takeWhile (· ≠ c) ++ [c], d ∉ b.throws

instance (b : Broadcast) (c : Nat) : Decidable (b.SendsTo c) :=
  inferInstanceAs (Decidable (∀ d ∈ _, d ∉ b.throws))

/-- A connection, with the events that come over it. `current` is the event
that is being dispatched, or was last. -/
structure EventDelivery extends EventConn where
  encoding : Encoding := .bare
  toClient : List Downstream := []
  current : Event := { name := "", args := [] }
  calls : List (Nat × Event) := []

/-- What happens at one client, or between it and the actor. -/
inductive DeliveryStep
  | addEventSubscription (eventName : String) (once : Bool)
  | unsubscribe (listener : Nat)
  | receive
  | returned
  | threw
  | serverReceive
  | connect
  | disconnect
  deriving DecidableEq

variable (platform : Platform)

namespace EventDelivery

-- =============================================================== the steps

/-- The step of the subscriptions that this one is. -/
def eventStepOf (s : EventDelivery) : DeliveryStep → EventStep
  | .addEventSubscription eventName once =>
      .addEventSubscription eventName once
  | .unsubscribe listener => .unsubscribe listener
  | .receive =>
      match s.toClient with
      | .event event :: _ => .dispatchEvent event.name
      | _ => .handleOnOpen
  | .returned => .returned
  | .threw => .threw
  | .serverReceive => .serverReceive
  | .connect => .connect
  | .disconnect => .disconnect

/-- `listener.callback(...args)`, of the next listener. -/
def callOf (s : EventDelivery) (conn : EventConn) (event : Event) :
    EventDelivery :=
  { s with
    toEventConn := conn
    current := event
    calls := s.calls ++ conn.calling.map fun i => (i, event) }

/-- `new Uint8Array(argsRaw)`, of the arguments as they arrive. -/
def arrivedArgs (s : EventDelivery) (event : Event) : List UInt8 :=
  match s.encoding with
  | .json => []
  | _ => event.args

/-- `#handleOnMessage`. -/
def receive (s : EventDelivery) : Option EventDelivery :=
  match s.toClient with
  | .init :: rest =>
      s.handleOnOpen.map fun conn =>
        { s with toEventConn := conn, toClient := rest }
  | .event event :: rest =>
      match platform.cborDecode (s.arrivedArgs event) with
      | some _ =>
          (s.dispatchEvent event.name).map fun conn =>
            { s.callOf conn event with toClient := rest }
      | none =>
          -- `cbor.decode` throws
          if s.dispatching = none then some { s with toClient := rest }
          else none
  | [] => none

/-- One step of one client. -/
def step (s : EventDelivery) (a : DeliveryStep) : Option EventDelivery :=
  match a with
  | .receive => s.receive platform
  | .returned =>
      s.toEventConn.returned.map fun conn => s.callOf conn s.current
  | .connect =>
      s.toEventConn.connect.map fun conn =>
        { s with toEventConn := conn, toClient := [.init] }
  | .disconnect =>
      s.toEventConn.disconnect.map fun conn =>
        { s with toEventConn := conn, toClient := [] }
  | a =>
      (eventStep s.toEventConn (s.eventStepOf a)).map fun conn =>
        { s with toEventConn := conn }

/-- `_broadcast`, at the connection `c`. -/
def broadcast (c : Nat) (s : EventDelivery) (b : Broadcast) :
    EventDelivery :=
  if b.event.name ∈ s.server ∧ b.SendsTo c then
    { s with toClient := s.toClient ++ [.event b.event] }
  else s

end EventDelivery

/-- One client. -/
def deliverySystem : System EventDelivery DeliveryStep where
  init s := s = { encoding := s.encoding }
  step := EventDelivery.step platform

/-- The clients of one actor. -/
def roomSystem :
    System (List EventDelivery) (System.Joint DeliveryStep Broadcast) :=
  (deliverySystem platform).parallel EventDelivery.broadcast

-- ============================================================ the contract

/-- A dispatch that ends now, with its set empty, finds no other set of its
event in the map. -/
def EventConn.EndsWithItsSet (s : EventConn) : Prop :=
  ∀ name set i l, s.dispatching = some ⟨name, set, [i]⟩ →
    s.listeners[i]? = some l → (s.afterCall i l set).isEmpty set = true →
      s.eventSubscriptions.lookup name = none
        ∨ s.eventSubscriptions.lookup name = some set

namespace EventDelivery

/-- The events a listener has been called with, the first one first. -/
def heardBy (s : EventDelivery) (i : Nat) : List Event :=
  (s.calls.filter fun call => call.1 = i).map (·.2)

/-- The connection is up, and nothing is on its way or being dispatched. -/
structure Settled (s : EventDelivery) : Prop where
  ready : s.phase = .ready
  toServer : s.toServer = []
  toClient : s.toClient = []
  dispatching : s.dispatching = none

/-- A listener that stays until it is unsubscribed. -/
def Listens (s : EventDelivery) (i : Nat) (eventName : String) : Prop :=
  ∃ l, s.listeners[i]? = some l ∧ l.eventName = eventName
    ∧ l.once = false ∧ l.removed = false

/-- No dispatch deletes a set that was made while it ran. -/
def KeepsSets (s : EventDelivery) : DeliveryStep ⊕ Broadcast → Prop
  | .inl .returned => s.EndsWithItsSet
  | _ => True

/-- The listener `i` is not unsubscribed, its client `c` does not disconnect,
and no listener throws that is called before it. No send of a broadcast
throws up to the one to the client, and what is broadcast can be decoded. -/
def Undisturbed (c i : Nat) (s : EventDelivery) :
    DeliveryStep ⊕ Broadcast → Prop
  | .inl (.unsubscribe j) => j ≠ i
  | .inl .threw => ∀ frame, s.dispatching = some frame →
      i ∉ frame.listeners.tail
  | .inl .disconnect => False
  | .inr b =>
      b.SendsTo c ∧ (platform.cborDecode b.event.args).isSome = true
  | a => s.KeepsSets a

/-- The events of a schedule. -/
def broadcasts (as : List (System.Joint DeliveryStep Broadcast)) :
    List Event :=
  as.filterMap fun
    | .all b => some b.event
    | .one _ _ => none

end EventDelivery

end RivetKit.Client
