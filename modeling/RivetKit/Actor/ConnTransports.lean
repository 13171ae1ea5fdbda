/-
Connections and the transports under them: `handleWebSocketConnect`,
`handleSseConnect` and `handleAction` (actor/router-endpoints.ts), the
generic connection drivers (actor/generic-conn-driver.ts), and of
`ActorInstance` (actor/instance.ts) the parts that add, probe and remove
connections.

Each run of a connect handler generates a connection id of its own. The
maps `#connections`, `websockets` and `sseStreams` are only ever read and
written under these ids, so what they have for a connection is a mark on
the handler's run (`Connect`).

# What the environment decides

When `prepareConn` settles, what user code does in `onConnect` and when
it calls `disconnect`, whether the send of `Init` throws, when a socket
closes and a stream is aborted. A socket that is no
`InlineWebSocketAdapter2` ends every close with a close event; the
adapter only hands its handler those that the client starts.

The sweep checks one connection after the other, and `_stop` disconnects
them likewise; each check and each `disconnect` is a step. The persisted
list and the subscriptions are those of Actor/Connections.lean.

# History

`added` says that `createConn` or `#initialize` put the connection in
`#connections`, and `disconnects` counts the calls of `onDisconnect`. No
branch reads them.
-/
import RivetKit.Lib.System
import RivetKit.Actor.Persisted

namespace RivetKit.Actor

open Transition

-- =============================================================== the data

/-- `ConnectionReadyState`. -/
inductive ConnectionReadyState
  | connecting
  | opened
  | closing
  | closed
  deriving DecidableEq

/-- `ConnectionStatus`. -/
inductive ConnectionStatus
  | connected
  | reconnecting
  deriving DecidableEq

/-- `getConnectionReadyState` of the drivers: `websocket` is the state of
the socket in `websockets`, `sseStream` whether the stream in
`sseStreams` has been aborted or closed. -/
def getConnectionReadyState (driver : ConnectionDriver)
    (websocket : Option ConnectionReadyState) (sseStream : Option Bool) :
    Option ConnectionReadyState :=
  match driver with
  | .webSocket => websocket
  | .sse => sseStream.map fun ended => if ended then .closed else .opened
  | .http => some .opened

/-- `isConnectionClosed` of the liveness probe. -/
def isConnectionClosed : Option ConnectionReadyState → Bool
  | some .closed => true
  | some .closing => true
  | none => true
  | _ => false

/-- How far a connect handler is. -/
inductive ConnectPhase
  /-- A connection that `#initialize` restored; no handler runs. -/
  | restored
  /-- In front of `createConn`. -/
  | preparing
  /-- `createConn` has returned, its `await` has not. -/
  | created
  /-- `handlersResolve` is called, `onAbort` is registered, or the action
  runs. -/
  | connected
  /-- The `catch` has run. -/
  | failed
  /-- The connection's own end has removed it. -/
  | ended
  deriving DecidableEq

/-- The close event of a WebSocket: `onClose` has been called and its
callback waits for `handlersPromise`, or has run. -/
inductive CloseEvent
  | none
  | waiting
  | handled
  deriving DecidableEq

/-- One run of a connect handler, with its connection. `socket` is the
state of the WebSocket, or of the stream: closed once `stream.closed` or
`stream.aborted`. `entry` is whether `websockets` or `sseStreams` has
the id, `present` whether `#connections` does. -/
structure Connect where
  driver : ConnectionDriver
  inline : Bool := false
  phase : ConnectPhase := .preparing
  socket : ConnectionReadyState := .opened
  aborted : Bool := false
  closeEvent : CloseEvent := .none
  entry : Bool := false
  present : Bool := false
  status : ConnectionStatus := .connected
  lastSeen : Nat := 0
  added : Bool := false
  disconnects : Nat := 0
  deriving DecidableEq

/-- An actor with the runs of its connect handlers. `ready` is what
`#assertReady` looks at. -/
structure ConnectedActor where
  connects : List Connect
  ready : Bool := true
  now : Nat

/-- What happens to one connection. -/
inductive ConnectOp
  /-- `prepareConn` rejects. -/
  | prepareFails
  /-- `prepareConn` resolves: `createConn` runs. `onConnect` may throw or
  call `disconnect` itself, and the send of `Init` may throw. -/
  | create (disconnects initFails : Bool)
  /-- The handler behind `await createConn`. -/
  | resume
  /-- The socket begins to close. -/
  | socketClosing
  /-- The socket has closed and `onClose` is called. -/
  | socketClose
  /-- The callback of `onClose`. -/
  | onClose
  /-- A message fails: `ws.close(1011, …)`. -/
  | messageFails
  /-- The client aborts the stream. -/
  | abort
  /-- The action of an HTTP connection ends. -/
  | finish
  /-- `conn.disconnect()`. -/
  | disconnect
  /-- The sweep checks the connection. -/
  | checkLiveness

/-- The steps. -/
inductive TransportStep
  | connect (driver : ConnectionDriver) (inline : Bool)
  | op (c : Nat) (o : ConnectOp)
  | advance (d : Nat)
  /-- `_stop`, or `_sleep`. -/
  | stop

namespace Connect

-- ============================================================ the drivers

/-- What the connection's driver finds for its ready state. -/
def readyState (k : Connect) : Option ConnectionReadyState :=
  getConnectionReadyState k.driver
    (if k.entry then some k.socket else none)
    (if k.entry then some (decide (k.socket = .closed)) else none)

/-- `ws.close(…)`. -/
def closeSocket (k : Connect) : Connect :=
  match k.socket with
  | .connecting | .opened =>
      { k with socket := if k.inline then .closed else .closing }
  | .closing | .closed => k

/-- `disconnect` of the connection's driver. -/
def driverDisconnect (k : Connect) : Connect :=
  match k.driver with
  | .webSocket => if k.entry then k.closeSocket else k
  | .sse => if k.entry then { k with socket := .closed } else k
  | .http => k

/-- `Conn.disconnect`. -/
def disconnect (k : Connect) : Connect :=
  { k with status := .reconnecting }.driverDisconnect

-- =========================================================== the instance

/-- `__removeConn`. -/
def removeConn (k : Connect) : Connect :=
  { k with present := false, disconnects := k.disconnects + 1 }

/-- The body of the loop of `#checkConnectionsLiveness`. -/
def checkLiveness (timeout now : Nat) (k : Connect) : Connect :=
  if isConnectionClosed k.readyState then
    let k := { k with status := .reconnecting }
    if now - k.lastSeen < timeout then k else k.removeConn
  else { k with status := .connected, lastSeen := now }

/-- The `catch` of a connect handler. -/
def connectFails (k : Connect) : Connect :=
  match k.driver with
  | .webSocket => { k with phase := .failed }.closeSocket
  | .sse => { k with phase := .failed, entry := false, socket := .closed }
  | .http => { k with phase := .failed }

/-- `createConn` of an actor that is ready, up to the send of `Init`. -/
def createConn (now : Nat) (disconnects : Bool) (k : Connect) : Connect :=
  let k := { k with present := true, added := true, lastSeen := now,
                    status := .connected }
  if disconnects then k.disconnect else k

/-- The handler behind `await prepareConn`: the entry is set and
`createConn` runs. -/
def create (ready : Bool) (now : Nat) (disconnects initFails : Bool)
    (k : Connect) : Connect :=
  let k := { k with entry := decide (k.driver ≠ ConnectionDriver.http) }
  if ready then
    let k := k.createConn now disconnects
    -- `sendMessage` is optional, and the http driver has none
    if initFails = true ∧ k.driver ≠ ConnectionDriver.http then
      k.connectFails
    else { k with phase := .created }
  else k.connectFails

/-- What `ConnectOp` does, where it can happen. -/
def apply (timeout now : Nat) (ready : Bool) (k : Connect) :
    ConnectOp → Option Connect
  | .prepareFails =>
      if k.phase = .preparing then some k.connectFails else none
  | .create disconnects initFails =>
      if k.phase = .preparing then
        some (k.create ready now disconnects initFails)
      else none
  | .resume =>
      if k.phase = .created then some { k with phase := .connected }
      else none
  | .socketClosing =>
      if k.driver = .webSocket ∧ k.inline = false ∧ k.phase ≠ .restored
          ∧ k.socket = .opened then
        some { k with socket := .closing }
      else none
  | .socketClose =>
      if k.driver = .webSocket ∧ k.phase ≠ .restored
          ∧ k.closeEvent = .none
          ∧ (k.inline = true → k.socket = .opened) then
        some { k with socket := .closed, closeEvent := .waiting }
      else none
  | .onClose =>
      if k.closeEvent = .waiting then
        match k.phase with
        | .connected =>
            some { k with entry := false, closeEvent := .handled,
                          phase := .ended }.removeConn
        | .failed => some { k with closeEvent := .handled }
        | _ => none
      else none
  | .messageFails =>
      if k.driver = .webSocket ∧ k.phase ≠ .restored then
        some k.closeSocket
      else none
  | .abort =>
      if k.driver = .sse ∧ k.phase ≠ .restored ∧ k.aborted = false then
        let k := { k with aborted := true, socket := .closed }
        match k.phase with
        | .connected =>
            some { k with entry := false, phase := .ended }.removeConn
        | _ => some k
      else none
  | .finish =>
      if k.driver = .http ∧ k.phase = .connected then
        some { k with phase := .ended }.removeConn
      else none
  | .disconnect => if k.added then some k.disconnect else none
  | .checkLiveness =>
      if k.present then some (k.checkLiveness timeout now) else none

/-- A connection as `#initialize` restores it, with no transport. -/
def Restored (k : Connect) : Prop :=
  k.phase = .restored ∧ k.socket = .closed ∧ k.closeEvent = .none
    ∧ k.entry = false ∧ k.present = true ∧ k.added = true
    ∧ k.disconnects = 0

end Connect

namespace ConnectedActor

/-- One step, with `connectionLivenessTimeout`. -/
def step (timeout : Nat) (s : ConnectedActor) :
    TransportStep → Option ConnectedActor
  | .connect driver inline =>
      some { s with
        connects := s.connects ++ [{ driver := driver, inline := inline }] }
  | .op c o =>
      match s.connects[c]? with
      | none => none
      | some k =>
          match k.apply timeout s.now s.ready o with
          | none => none
          | some k' => some { s with connects := s.connects.set c k' }
  | .advance d => some { s with now := s.now + d }
  | .stop => some { s with ready := false }

/-- The runs of an instance that is ready, from its restored
connections. -/
def system (timeout : Nat) : System ConnectedActor TransportStep where
  init s := s.ready = true ∧ ∀ k ∈ s.connects, k.Restored
  step := step timeout

end ConnectedActor

end RivetKit.Actor
