/-
The messages of a proxied WebSocket (drivers/engine/ws-proxy.ts): the
handlers that `createWebSocketProxy` returns for the client's socket, and
the listeners that `onOpen` puts on the target's.

# What waits

- `onMessage` awaits `connectPromise`. Its calls go on in the order they
  came in, before or after the promise settles (`calls`).
- A `Blob` from the target is converted to an `ArrayBuffer` first
  (`conversions`). Conversions are under way side by side, and end in any
  order.

# The sockets

A socket leaves its open state before or with its `close` event. A target
dispatches messages only while it is open. `onOpen` is called before any
other handler. `send` of an open socket sends what it is given, of any of
the four kinds; of another it sends nothing.
-/
import RivetKit.Actor.Persisted
import RivetKit.Lib.System

namespace RivetKit.Drivers.Engine

open Transition
open Actor (Bytes)

-- =============================================================== the data

/-- `event.data` of a message. `view` is a typed array or a `Buffer`. -/
inductive MessageData
  | string (s : String)
  | arrayBuffer (b : Bytes)
  | view (b : Bytes)
  | blob (b : Bytes)
  deriving DecidableEq

/-- What a WebSocket message contains. -/
inductive Payload
  | text (s : String)
  | binary (b : Bytes)
  deriving DecidableEq

/-- The contents of the message that `send(data)` sends. -/
def MessageData.payload : MessageData → Payload
  | .string s => .text s
  | .arrayBuffer b => .binary b
  | .view b => .binary b
  | .blob b => .binary b

/-- `connectPromise`. -/
inductive ConnectPromise
  | pending
  | resolved
  | rejected
  deriving DecidableEq

/-- `targetWs.readyState`, its closing and closed states as one. -/
inductive TargetReadyState
  | connecting
  | opened
  | closed
  deriving DecidableEq

/-- A proxied connection. `clientSent` and `targetSent` are the messages
that the handlers were called with; the other two lists, what was sent
on. -/
structure WsProxy where
  clientOpen : Bool := true
  upgraded : Bool := false
  targetWs : Option TargetReadyState := none
  connectPromise : ConnectPromise := .pending
  calls : List MessageData := []
  conversions : List Bytes := []
  clientSent : List MessageData := []
  targetReceived : List Payload := []
  targetSent : List MessageData := []
  clientReceived : List Payload := []

namespace WsProxy

-- ============================================================ the sockets

/-- `clientWs.send`. -/
def clientSend (s : WsProxy) (payload : Payload) : WsProxy :=
  if s.clientOpen then
    { s with clientReceived := s.clientReceived ++ [payload] }
  else s

/-- `closeWebSocketIfOpen(clientWs)`. -/
def closeClient (s : WsProxy) : WsProxy := { s with clientOpen := false }

/-- `targetWs.close()`, if there is one that is open or connecting. -/
def closeTarget (s : WsProxy) : WsProxy :=
  { s with targetWs := s.targetWs.map fun _ => .closed }

/-- `resolve()` or `reject()` of the connection's promise. -/
def settle (s : WsProxy) (outcome : ConnectPromise) : WsProxy :=
  if s.connectPromise = .pending then { s with connectPromise := outcome }
  else s

-- ===================================================== the client's events

/-- `onOpen`. -/
def onOpen (s : WsProxy) : Option WsProxy :=
  if s.upgraded then none
  else if s.clientOpen then
    some { s with upgraded := true, targetWs := some .connecting }
  else some { s with upgraded := true }

/-- `onMessage` up to its `await`. -/
def onMessage (s : WsProxy) (data : MessageData) : Option WsProxy :=
  if s.upgraded then
    let s : WsProxy := { s with clientSent := s.clientSent ++ [data] }
    if s.targetWs.isNone then some s
    else some { s with calls := s.calls ++ [data] }
  else none

/-- `onMessage` behind its `await`. -/
def resume (s : WsProxy) : Option WsProxy :=
  match s.calls, s.connectPromise with
  | data :: calls, .resolved =>
      let s : WsProxy := { s with calls := calls }
      if s.targetWs = some .opened then
        some { s with targetReceived := s.targetReceived ++ [data.payload] }
      else some s
  | _ :: calls, .rejected => some { s with calls := calls }.closeClient
  | _, _ => none

/-- `onClose`. -/
def onClose (s : WsProxy) : Option WsProxy :=
  if s.upgraded then some s.closeClient.closeTarget else none

/-- `onError`. -/
def onError (s : WsProxy) : Option WsProxy :=
  if s.upgraded then some s.closeTarget else none

-- ===================================================== the target's events

/-- The `open` listener. -/
def targetOpen (s : WsProxy) : Option WsProxy :=
  if s.targetWs = some .connecting then
    let s : WsProxy := { s with targetWs := some .opened }
    if s.clientOpen then some (s.settle .resolved)
    else some (s.closeTarget.settle .rejected)
  else none

/-- The `message` listener. -/
def targetMessage (s : WsProxy) (data : MessageData) : Option WsProxy :=
  if s.targetWs = some .opened then
    let s : WsProxy := { s with targetSent := s.targetSent ++ [data] }
    match data with
    | .string text => some (s.clientSend (.text text))
    | .arrayBuffer b => some (s.clientSend (.binary b))
    | .blob b => some { s with conversions := s.conversions ++ [b] }
    | .view _ => some s
  else none

/-- The conversion `i` of those under way ends. -/
def converted (s : WsProxy) (i : Nat) : Option WsProxy :=
  match s.conversions[i]? with
  | some buffer =>
      let s : WsProxy := { s with conversions := s.conversions.eraseIdx i }
      some (s.clientSend (.binary buffer))
  | none => none

/-- The `close` listener. -/
def targetClose (s : WsProxy) : Option WsProxy :=
  if s.targetWs.isSome then some s.closeTarget.closeClient else none

/-- The two `error` listeners. -/
def targetError (s : WsProxy) : Option WsProxy :=
  if s.targetWs.isSome then some (s.settle .rejected).closeClient else none

end WsProxy

-- ============================================================ the machine

/-- The events, what goes on behind an `await`, and a socket that is no
longer open before its event. -/
inductive ProxyStep
  | onOpen
  | onMessage (data : MessageData)
  | resume
  | clientCloses
  | onClose
  | onError
  | targetOpen
  | targetMessage (data : MessageData)
  | converted (i : Nat)
  | targetCloses
  | targetClose
  | targetError

/-- One step. -/
def proxyStep (s : WsProxy) : ProxyStep → Option WsProxy
  | .onOpen => s.onOpen
  | .onMessage data => s.onMessage data
  | .resume => s.resume
  | .clientCloses => some s.closeClient
  | .onClose => s.onClose
  | .onError => s.onError
  | .targetOpen => s.targetOpen
  | .targetMessage data => s.targetMessage data
  | .converted i => s.converted i
  | .targetCloses => some s.closeTarget
  | .targetClose => s.targetClose
  | .targetError => s.targetError

/-- Every order of the events. -/
def proxySystem : System WsProxy ProxyStep where
  init := fun s => s = {}
  step := proxyStep

-- ============================================================ the channel

/-- A socket was closed, by whomever. -/
def WsProxy.Closed (s : WsProxy) : Prop :=
  s.clientOpen = false ∨ s.targetWs = some .closed

/-- The proxy is a faithful channel so far: each side has received the
first of the other's messages, in their order, each once. Before a socket
is closed it has all, but for those that are under way; and these can go
on, once the target is open. -/
structure WsProxy.Faithful (s : WsProxy) : Prop where
  clientPrefix : s.clientReceived <+: s.targetSent.map (·.payload)
  targetPrefix : s.targetReceived <+: s.clientSent.map (·.payload)
  clientAll : ¬ s.Closed → s.conversions = [] →
    s.clientReceived = s.targetSent.map (·.payload)
  targetAll : ¬ s.Closed → s.calls = [] →
    s.targetReceived = s.clientSent.map (·.payload)
  conversionsEnd : s.conversions ≠ [] →
    (proxyStep s (.converted 0)).isSome = true
  callsEnd : ¬ s.Closed → s.calls ≠ [] →
    (proxyStep s .resume).isSome = true
      ∨ (proxyStep s .targetOpen).isSome = true

/-- The condition, for as long as the client's socket is open: the target
sends no view, what it sends at once comes when nothing is being
converted, and conversions end in the order they began in. -/
def inOrder (s : WsProxy) : ProxyStep → Prop
  | .targetMessage (.view _) => s.clientOpen = false
  | .targetMessage (.string _) => s.clientOpen = true → s.conversions = []
  | .targetMessage (.arrayBuffer _) =>
      s.clientOpen = true → s.conversions = []
  | .converted i => s.clientOpen = true → i = 0
  | _ => True

end RivetKit.Drivers.Engine
