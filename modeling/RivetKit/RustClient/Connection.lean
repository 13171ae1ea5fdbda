/-
A connection of the Rust client (clients/rust/src/connection.rs) with the
task of its transport driver (drivers/ws.rs, drivers/sse.rs).

# Tasks

The connection task runs `try_connect` over and over, and in it
`on_message` and `on_open`. Each call of `action`, `on_event` and
`disconnect` is a task of its own, and each of them meets the others at
the awaits only. The driver task takes messages from the outgoing channel
to the socket and from the socket to the incoming one. That of sse differs
from that of ws in what it awaits: it takes nothing out before its
handshake is over.

# Locks

A mutex is the task that holds it. That of `in_flight_rpcs` is never held
over an await, so its sections are one step each; so are the pushes to
`msg_queue`. `rpc_counter` is an `AtomicI64` that is taken not to wrap.

# History

`flush` and `flushes` are the rounds of the loop over `msg_queue` in
`on_open`. `received`, `onMessages`, `handed` and `answered` are those of
the attempt: the messages that the driver has read, the ones `on_message`
was called with, and of the action requests those the driver was given,
and those of them the server has answered. `settled` is what the channels
of the actions hold, but for `finishAction`, which awaits it, and
`cleared` the counter when `disconnect` cleared the table. No other
branch reads them.
-/
import RivetKit.Lib.System
import RivetKit.RustClient.Protocol

namespace RivetKit.RustClient

open Transition
open Js

-- =============================================================== the tasks

/-- The tasks of a connection. -/
inductive Task
  | connection
  | driver
  | caller (c : Nat)
  deriving DecidableEq

/-- The awaits of `send_msg`. -/
inductive SendPoint
  /-- `self.driver.lock()` -/
  | lockDriver
  /-- `driver.send(msg)`, under the lock of the driver -/
  | send
  /-- `self.msg_queue.lock()`, under the lock of the driver -/
  | lockQueue
  deriving DecidableEq

/-- A call of `send_msg`. -/
structure SendMsg where
  msg : ToServer
  ephemeral : Bool := false
  point : SendPoint := .lockDriver

/-- The call that `send_subscription` makes. -/
def sendSubscription (eventName : String) : SendMsg where
  msg := ⟨.subscriptionRequest { e := eventName, s := true }⟩
  ephemeral := true

/-- A call of a method of the connection. -/
inductive Caller
  /-- `action`, in `send_msg` -/
  | action (id : Int) (send : SendMsg)
  /-- `action`, at `rx.await` -/
  | reply (id : Int)
  /-- `add_event_subscription`, at `self.event_subscriptions.lock()` -/
  | lockSubscriptions (eventName : String)
  /-- `add_event_subscription`, in `send_subscription`, under the lock of
  the subscriptions -/
  | subscribe (send : SendMsg)
  /-- `disconnect`, at `self.driver.lock()` -/
  | abort
  /-- `disconnect`, at `self.in_flight_rpcs.lock()` -/
  | clearRpcs
  /-- `disconnect`, at `self.event_subscriptions.lock()` -/
  | clearSubscriptions
  | returned

/-- The connection task. -/
inductive ConnectionTask
  /-- Not in `try_connect`, or in its `connect_driver`. -/
  | idle
  /-- `try_connect`, at the lock of the driver it is to set -/
  | setDriver
  /-- `try_connect`, at its `select!` -/
  | select
  /-- `on_open`, at `self.event_subscriptions.lock()` -/
  | lockSubscriptions
  /-- `on_open`, in its first loop, under the lock of the subscriptions -/
  | subscribe (send : SendMsg) (rest : List String)
  /-- `on_open`, at `self.msg_queue.lock()` -/
  | lockQueue
  /-- `on_open`, in its second loop, under the lock of the queue -/
  | flush (send : SendMsg) (rest : List ToServer)
  /-- `on_message` of an event, at `self.event_subscriptions.lock()` -/
  | event (ev : ToClient.Event)
  /-- `try_connect`, at the lock of the driver it is to destroy -/
  | destroyDriver

/-- The driver task, at its `select!` or at one of its awaits. -/
inductive DriverTask
  | select
  | write (msg : ToServer)
  | deliver (msg : ToClient)
  | ended

def DriverTask.isEnded : DriverTask → Bool
  | .ended => true
  | _ => false

-- =============================================================== the state

/-- `RpcResponse`. -/
inductive RpcResponse
  | ok (ar : ToClient.ActionResponse)
  | err (e : ToClient.Error)

/-- A run of the loop over `msg_queue` in `on_open`: what `drain` gave,
and of that what the driver has taken and what was pushed back. -/
structure Flush where
  drained : List ToServer
  handed : List ToServer := []
  returned : List ToServer := []

/-- `ActorConnectionInner`, the channels of its driver and its tasks. -/
structure ActorConnection where
  driver : Bool := false
  msgQueue : List ToServer := []
  rpcCounter : Int := 0
  inFlightRpcs : List Int := []
  eventSubscriptions : List String := []
  disconnecting : Bool := false
  driverLock : Option Task := none
  queueLock : Option Task := none
  subscriptionsLock : Option Task := none
  outgoing : List ToServer := []
  incoming : List ToClient := []
  connectionTask : ConnectionTask := .idle
  driverTask : DriverTask := .ended
  aborted : Bool := false
  callers : List Caller := []
  settled : List (Int × Option RpcResponse) := []
  flush : Flush := { drained := [] }
  flushes : List Flush := []
  received : List ToClient := []
  onMessages : List ToClient := []
  handed : List Int := []
  answered : List Int := []
  cleared : Int := 0

/-- The room of a channel. -/
def capacity : Nat := 32

namespace ActorConnection

-- ================================================================ send_msg

/-- The `send_msg` that a task is in. -/
def sendMsg? (s : ActorConnection) : Task → Option SendMsg
  | .connection =>
      match s.connectionTask with
      | .subscribe send _ => some send
      | .flush send _ => some send
      | _ => none
  | .driver => none
  | .caller c =>
      match s.callers[c]? with
      | some (.action _ send) => some send
      | some (.subscribe send) => some send
      | _ => none

/-- A task goes to another await of its `send_msg`. -/
def setSendMsg (s : ActorConnection) (t : Task) (send : SendMsg) :
    ActorConnection :=
  match t with
  | .connection =>
      match s.connectionTask with
      | .subscribe _ rest => { s with connectionTask := .subscribe send rest }
      | .flush _ rest => { s with connectionTask := .flush send rest }
      | _ => s
  | .driver => s
  | .caller c =>
      match s.callers[c]? with
      | some (.action id _) =>
          { s with callers := s.callers.set c (.action id send) }
      | some (.subscribe _) =>
          { s with callers := s.callers.set c (.subscribe send) }
      | _ => s

/-- The next event of the first loop of `on_open`, or what is behind it. -/
def nextSubscription (s : ActorConnection) :
    List String → ActorConnection
  | [] => { s with subscriptionsLock := none, connectionTask := .lockQueue }
  | eventName :: rest =>
      { s with connectionTask := .subscribe (sendSubscription eventName) rest }

/-- The next message of the second loop of `on_open`, or its end. -/
def nextMessage (s : ActorConnection) : List ToServer → ActorConnection
  | [] =>
      { s with
        queueLock := none
        connectionTask := .select
        flushes := s.flushes ++ [s.flush] }
  | msg :: rest => { s with connectionTask := .flush { msg } rest }

/-- A `send_msg` returns, and its caller goes on. -/
def sendReturns (s : ActorConnection) (t : Task) : ActorConnection :=
  let s := { s with driverLock := none }
  match t with
  | .connection =>
      match s.connectionTask with
      | .subscribe _ rest => s.nextSubscription rest
      | .flush _ rest => s.nextMessage rest
      | _ => s
  | .driver => s
  | .caller c =>
      match s.callers[c]? with
      | some (.action id _) =>
          { s with callers := s.callers.set c (.reply id) }
      | some (.subscribe _) =>
          { s with
            subscriptionsLock := none
            callers := s.callers.set c .returned }
      | _ => s

/-- `send_msg` behind `'send_immediately`. -/
def otherwiseQueue (s : ActorConnection) (t : Task) (send : SendMsg) :
    ActorConnection :=
  if send.ephemeral then s.sendReturns t
  else { s with driverLock := some t }.setSendMsg t
    { send with point := .lockQueue }

/-- The lock of the driver, for `send_msg`. -/
def lockDriver (s : ActorConnection) (t : Task) : Option ActorConnection :=
  match s.sendMsg? t with
  | some send =>
      if send.point = .lockDriver ∧ s.driverLock = none then
        if s.driver then
          some ({ s with driverLock := some t }.setSendMsg t
            { send with point := .send })
        else some (s.otherwiseQueue t send)
      else none
  | none => none

/-- The id of an action request. -/
def requestId (msg : ToServer) : List Int :=
  match msg.b with
  | .actionRequest ar => [ar.i]
  | _ => []

/-- A message of the loop over the queue was handed to the driver. -/
def noteHanded (s : ActorConnection) (t : Task) (msg : ToServer) : Flush :=
  match t, s.connectionTask with
  | .connection, .flush _ _ =>
      { s.flush with handed := s.flush.handed ++ [msg] }
  | _, _ => s.flush

/-- One was pushed to the queue again. -/
def noteReturned (s : ActorConnection) (t : Task) (msg : ToServer) : Flush :=
  match t, s.connectionTask with
  | .connection, .flush _ _ =>
      { s.flush with returned := s.flush.returned ++ [msg] }
  | _, _ => s.flush

/-- `driver.send(msg)` returns `Ok`. -/
def sendOk (s : ActorConnection) (t : Task) : Option ActorConnection :=
  match s.sendMsg? t with
  | some send =>
      if send.point = .send ∧ s.driverTask.isEnded = false
          ∧ s.outgoing.length < capacity then
        some ({ s with
          outgoing := s.outgoing ++ [send.msg]
          handed := s.handed ++ requestId send.msg
          flush := s.noteHanded t send.msg }.sendReturns t)
      else none
  | none => none

/-- `driver.send(msg)` returns `Err`: the receiver is gone. -/
def sendFails (s : ActorConnection) (t : Task) : Option ActorConnection :=
  match s.sendMsg? t with
  | some send =>
      if send.point = .send ∧ s.driverTask.isEnded = true then
        some (s.otherwiseQueue t send)
      else none
  | none => none

/-- `self.msg_queue.lock().await.push(msg.clone())`. -/
def pushQueue (s : ActorConnection) (t : Task) : Option ActorConnection :=
  match s.sendMsg? t with
  | some send =>
      if send.point = .lockQueue ∧ s.queueLock = none then
        some ({ s with
          msgQueue := s.msgQueue ++ [send.msg]
          flush := s.noteReturned t send.msg }.sendReturns t)
      else none
  | none => none

-- ========================================================== public methods

/-- `action`, up to its `send_msg`. -/
def action (s : ActorConnection) (method : String) (params : List Json) :
    ActorConnection :=
  let id := s.rpcCounter
  let msg : ToServer :=
    ⟨.actionRequest { i := id, n := method, a := params }⟩
  { s with
    rpcCounter := id + 1
    inFlightRpcs := s.inFlightRpcs ++ [id]
    callers := s.callers ++ [.action id { msg }] }

/-- `on_event`, up to the lock. -/
def onEvent (s : ActorConnection) (eventName : String) : ActorConnection :=
  { s with callers := s.callers ++ [.lockSubscriptions eventName] }

/-- `add_event_subscription`, with the lock. -/
def addEventSubscription (s : ActorConnection) (c : Nat) :
    Option ActorConnection :=
  match s.callers[c]? with
  | some (.lockSubscriptions eventName) =>
      if s.subscriptionsLock = none then
        if eventName ∈ s.eventSubscriptions then
          some { s with callers := s.callers.set c .returned }
        else
          some { s with
            subscriptionsLock := some (.caller c)
            eventSubscriptions := s.eventSubscriptions ++ [eventName]
            callers :=
              s.callers.set c (.subscribe (sendSubscription eventName)) }
      else none
  | _ => none

/-- `disconnect`, up to its first lock. -/
def disconnect (s : ActorConnection) : ActorConnection :=
  if s.disconnecting then s
  else { s with disconnecting := true, callers := s.callers ++ [.abort] }

/-- `d.disconnect()` of `disconnect`. -/
def abort (s : ActorConnection) (c : Nat) : Option ActorConnection :=
  match s.callers[c]? with
  | some .abort =>
      if s.driverLock = none then
        some { s with
          aborted := s.aborted || s.driver
          callers := s.callers.set c .clearRpcs }
      else none
  | _ => none

/-- `self.in_flight_rpcs.lock().await.clear()`: the senders are dropped. -/
def clearRpcs (s : ActorConnection) (c : Nat) : Option ActorConnection :=
  match s.callers[c]? with
  | some .clearRpcs =>
      some { s with
        inFlightRpcs := []
        settled := s.settled ++ s.inFlightRpcs.map fun id => (id, none)
        callers := s.callers.set c .clearSubscriptions
        cleared := s.rpcCounter }
  | _ => none

/-- `self.event_subscriptions.lock().await.clear()`. -/
def clearSubscriptions (s : ActorConnection) (c : Nat) :
    Option ActorConnection :=
  match s.callers[c]? with
  | some .clearSubscriptions =>
      if s.subscriptionsLock = none then
        some { s with
          eventSubscriptions := []
          callers := s.callers.set c .returned }
      else none
  | _ => none

/-- `rx.await` of `action` returns. -/
def finishAction (s : ActorConnection) (c : Nat) : Option ActorConnection :=
  match s.callers[c]? with
  | some (.reply id) =>
      if id ∈ s.settled.map Prod.fst then
        some { s with callers := s.callers.set c .returned }
      else none
  | _ => none

-- ================================================= try_connect, on_message

/-- `connect_driver` has returned, with what it has sent itself. -/
def connect (s : ActorConnection) (init : Option ToServer) :
    Option ActorConnection :=
  match s.connectionTask with
  | .idle =>
      some { s with
        outgoing := init.toList
        incoming := []
        connectionTask := .setDriver
        driverTask := .select
        aborted := false
        received := []
        onMessages := []
        handed := []
        answered := [] }
  | _ => none

/-- `*my_driver = Some(driver)`. -/
def setDriver (s : ActorConnection) : Option ActorConnection :=
  match s.connectionTask with
  | .setDriver =>
      if s.driverLock = none then
        some { s with driver := true, connectionTask := .select }
      else none
  | _ => none

/-- `in_flight_rpcs.remove(&id)`, and `tx.send` where it was there. -/
def resolve (s : ActorConnection) (id : Int) (r : RpcResponse) :
    ActorConnection :=
  if id ∈ s.inFlightRpcs then
    { s with
      inFlightRpcs := s.inFlightRpcs.filter (· ≠ id)
      settled := s.settled ++ [(id, some r)] }
  else s

/-- `on_message`, up to its first lock that another task can hold over an
await. -/
def onMessage (s : ActorConnection) (msg : ToClient) : ActorConnection :=
  match msg.b with
  | .init _ => { s with connectionTask := .lockSubscriptions }
  | .actionResponse ar => s.resolve ar.i (.ok ar)
  | .eventMessage ev => { s with connectionTask := .event ev }
  | .error e =>
      match e.ai with
      | some id => s.resolve id (.err e)
      | none => s

/-- `recver.recv()` of the `select!` has a message. -/
def recv (s : ActorConnection) : Option ActorConnection :=
  match s.connectionTask, s.incoming with
  | .select, msg :: incoming =>
      some ({ s with
        incoming
        onMessages := s.onMessages ++ [msg] }.onMessage msg)
  | _, _ => none

/-- The callbacks of an event have run. -/
def event (s : ActorConnection) : Option ActorConnection :=
  match s.connectionTask with
  | .event _ =>
      if s.subscriptionsLock = none then
        some { s with connectionTask := .select }
      else none
  | _ => none

/-- The first loop of `on_open` begins. `names` is the order in which the
map gives its keys. -/
def openSubscriptions (s : ActorConnection) (names : List String) :
    Option ActorConnection :=
  match s.connectionTask with
  | .lockSubscriptions =>
      if s.subscriptionsLock = none ∧ names.isPerm s.eventSubscriptions then
        some ({ s with subscriptionsLock := some .connection }.nextSubscription
          names)
      else none
  | _ => none

/-- The second loop of `on_open` begins. -/
def openQueue (s : ActorConnection) : Option ActorConnection :=
  match s.connectionTask with
  | .lockQueue =>
      if s.queueLock = none then
        some ({ s with
          queueLock := some .connection
          msgQueue := []
          flush := { drained := s.msgQueue } }.nextMessage s.msgQueue)
      else none
  | _ => none

/-- The `select!` takes the end of the driver task. -/
def takeEnd (s : ActorConnection) : Option ActorConnection :=
  match s.connectionTask with
  | .select =>
      if s.driverTask.isEnded then
        some { s with connectionTask := .destroyDriver }
      else none
  | _ => none

/-- `'destroy_driver`, and `try_connect` returns. -/
def destroyDriver (s : ActorConnection) : Option ActorConnection :=
  match s.connectionTask with
  | .destroyDriver =>
      if s.driverLock = none then
        some { s with driver := false, connectionTask := .idle }
      else none
  | _ => none

-- ========================================================= the driver task

/-- `out_rx.recv()` has a message. -/
def takeOutgoing (s : ActorConnection) : Option ActorConnection :=
  match s.driverTask, s.outgoing with
  | .select, msg :: outgoing =>
      some { s with outgoing, driverTask := .write msg }
  | _, _ => none

/-- The message is on the socket, or could not be sent. -/
def wrote (s : ActorConnection) : Option ActorConnection :=
  match s.driverTask with
  | .write _ => some { s with driverTask := .select }
  | _ => none

/-- The id of the action that a message answers. -/
def replyId (msg : ToClient) : Option Int :=
  match msg.b with
  | .actionResponse ar => some ar.i
  | .error e => e.ai
  | _ => none

/-- The socket has a message that can be read. -/
def receive (s : ActorConnection) (msg : ToClient) :
    Option ActorConnection :=
  match s.driverTask with
  | .select =>
      some { s with
        driverTask := .deliver msg
        received := s.received ++ [msg]
        answered :=
          s.answered ++ (replyId msg).toList.filter (· ∈ s.handed) }
  | _ => none

/-- `in_tx.send` returns. -/
def deliver (s : ActorConnection) : Option ActorConnection :=
  match s.driverTask with
  | .deliver msg =>
      if s.incoming.length < capacity then
        some { s with incoming := s.incoming ++ [msg], driverTask := .select }
      else none
  | _ => none

/-- The task returns, or is aborted at one of its awaits. -/
def endDriver (s : ActorConnection) : Option ActorConnection :=
  match s.driverTask with
  | .select => some { s with driverTask := .ended }
  | .ended => none
  | _ => if s.aborted then some { s with driverTask := .ended } else none

end ActorConnection

-- ============================================================ the machine

/-- The steps of the tasks. -/
inductive ConnectionStep
  | action (method : String) (params : List Json)
  | onEvent (eventName : String)
  | disconnect
  | addEventSubscription (c : Nat)
  | lockDriver (t : Task)
  | sendOk (t : Task)
  | sendFails (t : Task)
  | pushQueue (t : Task)
  | abort (c : Nat)
  | clearRpcs (c : Nat)
  | clearSubscriptions (c : Nat)
  | finishAction (c : Nat)
  | connect (init : Option ToServer)
  | setDriver
  | recv
  | event
  | openSubscriptions (names : List String)
  | openQueue
  | takeEnd
  | destroyDriver
  | takeOutgoing
  | wrote
  | receive (msg : ToClient)
  | deliver
  | endDriver

/-- One step. -/
def connectionStep (s : ActorConnection) :
    ConnectionStep → Option ActorConnection
  | .action method params => some (s.action method params)
  | .onEvent eventName => some (s.onEvent eventName)
  | .disconnect => some s.disconnect
  | .addEventSubscription c => s.addEventSubscription c
  | .lockDriver t => s.lockDriver t
  | .sendOk t => s.sendOk t
  | .sendFails t => s.sendFails t
  | .pushQueue t => s.pushQueue t
  | .abort c => s.abort c
  | .clearRpcs c => s.clearRpcs c
  | .clearSubscriptions c => s.clearSubscriptions c
  | .finishAction c => s.finishAction c
  | .connect init => s.connect init
  | .setDriver => s.setDriver
  | .recv => s.recv
  | .event => s.event
  | .openSubscriptions names => s.openSubscriptions names
  | .openQueue => s.openQueue
  | .takeEnd => s.takeEnd
  | .destroyDriver => s.destroyDriver
  | .takeOutgoing => s.takeOutgoing
  | .wrote => s.wrote
  | .receive msg => s.receive msg
  | .deliver => s.deliver
  | .endDriver => s.endDriver

/-- The runs of a connection, from `ActorConnectionInner::new`. -/
def connectionSystem : System ActorConnection ConnectionStep where
  init s := s = {}
  step := connectionStep

end RivetKit.RustClient
