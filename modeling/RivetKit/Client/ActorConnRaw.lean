/-
The lifecycle of a client connection: `ActorConnRaw` (client/actor-conn.ts)
with its retry loop, the sockets it has been given, its message queue, the
actions in flight and `dispose()`, over WebSocket or SSE.

# Steps

A step is what runs without an `await`. `driver.connectWebSocket` and
`driver.connectSse` settle when they like; a socket opens, closes, fails and
delivers messages when it likes, whether it is the current transport or not;
`#handleOnMessage` awaits the data of a message before it looks at it, so a
message that has arrived is a frame of its own. User code (listeners,
handlers) is the steps it can take.

# The retry loop

`pRetry` runs `#connectAndWait` again after any `Error` but a `TypeError`
that is no network error, and gives up on that. Its signal stops the timer
and every later attempt, and leaves the attempt that runs alone.

# Connections

The server makes a connection each time a socket opens; `Init` names it. An
`EventSource` that lost its stream opens again by itself, as another
connection. Over WebSocket a message goes to the connection of the socket;
over SSE it is posted to the connection the last `Init` named.

# Bookkeeping

A message is named by the call that made it. `sent` is what was handed to a
transport, with the connection it was for; `carried` the requests among it
whose post has not failed; `submitted` the calls whose message `#sendMessage`
took. `attempts` counts the runs of `#connectAndWait`, and `disposedAt` is
what there was when `dispose()` was called. No branch reads them.
-/
import RivetKit.Client.ActorConn

namespace RivetKit.Client

open Transition

-- =============================================================== the data

/-- `readyState`, with the connection the server made. -/
inductive Socket
  | connecting
  | opened (conn : Nat)
  | closing (conn : Option Nat)
  | closed
  deriving DecidableEq

/-- The connection of a socket. -/
def Socket.conn : Socket → Option Nat
  | .opened conn => some conn
  | .closing conn => conn
  | _ => none

/-- `#onOpenPromise`. -/
inductive OpenPromise
  | pending
  | resolved
  | rejected
  deriving DecidableEq

/-- Settles a promise, the first time. -/
def OpenPromise.settle (outcome : OpenPromise) : OpenPromise → OpenPromise
  | .pending => outcome
  | p => p

/-- The loop of `#connectWithRetry`: none, an attempt runs, the timer of the
next one does, an attempt has succeeded and the loop is about to end, or it
has given up or been aborted. -/
inductive RetryLoop
  | idle
  | running
  | backoff
  | succeeded
  | stopped
  deriving DecidableEq

/-- Where an attempt waits: for the driver, or for `#onOpenPromise`. -/
inductive Attempt
  | awaitDriver
  | awaitOpen
  deriving DecidableEq

/-- What the client sends: the request of a call, or a subscription. -/
inductive ToServerMessage
  | action (call : Nat)
  | subscription (eventName : String) (subscribe : Bool)
  deriving DecidableEq

/-- The `actionId` of an error: a BigInt, over json the text of one. -/
inductive ActionId
  | bigint (id : Nat)
  | text (id : Nat)
  deriving DecidableEq

/-- `Number(actionId)` of one that is truthy. -/
def ActionId.truthy : ActionId → Option Nat
  | .bigint 0 => none
  | .bigint (id + 1) => some (id + 1)
  | .text id => some id

/-- What the server sends. -/
inductive ToClientBody
  | init (conn : Nat)
  | error (actionId : Option ActionId)
  | actionResponse (id : Nat)
  | event (name : String)
  deriving DecidableEq

/-- A `#handleOnMessage` that awaits its data, and the socket it came on. -/
structure MessageFrame where
  socket : Nat
  body : ToClientBody
  deriving DecidableEq

/-- The promise of an `action()`. -/
inductive CallPromise
  | pending
  | resolved
  | rejected
  deriving DecidableEq

/-- What there was at `dispose()`. -/
structure AtDispose where
  sockets : Nat
  attempts : Nat
  sent : Nat
  deriving DecidableEq

/-- `ActorConnRaw`. -/
structure ActorConnRaw where
  disposed : Bool := false
  connecting : Bool := false
  loop : RetryLoop := .idle
  attempt : Option Attempt := none
  onOpenPromise : Option OpenPromise := none
  /-- every socket the driver has given, by allocation -/
  sockets : List Socket := []
  transport : Option Nat := none
  /-- the connections the server has made -/
  connections : Nat := 0
  connectionId : Option Nat := none
  messageQueue : List Nat := []
  actionsInFlight : List (Nat × Nat) := []
  calls : List CallPromise := []
  actionIdCounter : Nat := 0
  eventSubscriptions : List String := []
  frames : List MessageFrame := []
  /-- the posts under way -/
  posts : List (Nat × ToServerMessage) := []
  /-- the socket `dispose()` waits for -/
  disposing : Option Nat := none
  sent : List (Nat × ToServerMessage) := []
  carried : List (Nat × Nat) := []
  submitted : List Nat := []
  attempts : Nat := 0
  disposedAt : Option AtDispose := none

namespace ActorConnRaw

-- ======================================================= the retry loop

/-- An attempt fails: its `finally` runs and the loop waits for the next
one, unless it has been stopped. -/
def attemptFailed (s : ActorConnRaw) : ActorConnRaw :=
  { s with
    attempt := none
    onOpenPromise := none
    loop := if s.loop = .running then .backoff else s.loop }

/-- `#connectAndWait` up to its first `await`. -/
def connectAndWait (s : ActorConnRaw) : ActorConnRaw :=
  let s := { s with attempts := s.attempts + 1 }
  match s.onOpenPromise with
  | some _ => s.attemptFailed
  | none =>
      { s with onOpenPromise := some .pending, attempt := some .awaitDriver }

/-- `#connectWithRetry` up to its first `await`. -/
def connectWithRetry (s : ActorConnRaw) : ActorConnRaw :=
  { s with connecting := true, loop := .running }.connectAndWait

/-- The driver gives a socket, not yet open or open already: it becomes the
transport. -/
def driverResolve (s : ActorConnRaw) (isOpen : Bool) :
    Option ActorConnRaw :=
  if s.attempt = some .awaitDriver then
    some { s with
      attempt := some .awaitOpen
      transport := some s.sockets.length
      sockets := s.sockets
        ++ [if isOpen then .opened s.connections else .connecting]
      connections := if isOpen then s.connections + 1 else s.connections }
  else none

/-- The driver throws. `final` is a `TypeError` that is no network error. -/
def driverReject (s : ActorConnRaw) (final : Bool) : Option ActorConnRaw :=
  if s.attempt = some .awaitDriver then
    let s := s.attemptFailed
    some (if final then { s with loop := .stopped } else s)
  else none

/-- The attempt resumes at `await this.#onOpenPromise.promise`. -/
def openSettled (s : ActorConnRaw) : Option ActorConnRaw :=
  if s.attempt = some .awaitOpen then
    match s.onOpenPromise with
    | some .resolved =>
        some { s with
          attempt := none
          onOpenPromise := none
          loop := if s.loop = .running then .succeeded else s.loop }
    | some .rejected => some s.attemptFailed
    | _ => none
  else none

/-- `#connectWithRetry` resumes after `pRetry`. -/
def loopEnd (s : ActorConnRaw) : Option ActorConnRaw :=
  if s.loop = .succeeded then
    some { s with loop := .idle, connecting := false }
  else none

/-- The timer of the next attempt fires. -/
def retryTimer (s : ActorConnRaw) : Option ActorConnRaw :=
  if s.loop = .backoff then some { s with loop := .running }.connectAndWait
  else none

-- ============================================================== sending

/-- `this.#transport`. -/
def transportSocket (s : ActorConnRaw) : Option Socket :=
  s.transport.bind (s.sockets[·]?)

/-- The connection of the transport. -/
def currentConn (s : ActorConnRaw) : Option Nat :=
  s.transportSocket.bind Socket.conn

/-- `#sendMessage` would send. -/
def IsOpen (s : ActorConnRaw) : Prop :=
  ∃ conn, s.transportSocket = some (.opened conn)

/-- The request of `call` was sent on the current transport. -/
def CarriedByCurrent (s : ActorConnRaw) (call : Nat) : Prop :=
  ∃ conn, s.currentConn = some conn ∧ (conn, call) ∈ s.carried

/-- `this.#messageQueue.push(message)`, unless it is ephemeral. -/
def pushMessage (s : ActorConnRaw) : ToServerMessage → ActorConnRaw
  | .action call => { s with messageQueue := s.messageQueue ++ [call] }
  | .subscription _ _ => s

/-- `this.#messageQueue.unshift(message)`, unless it is ephemeral. -/
def unshiftMessage (s : ActorConnRaw) : ToServerMessage → ActorConnRaw
  | .action call => { s with messageQueue := call :: s.messageQueue }
  | .subscription _ _ => s

/-- A message is handed to a transport. -/
def transmit (s : ActorConnRaw) (conn : Nat) (message : ToServerMessage) :
    ActorConnRaw :=
  { s with
    sent := s.sent ++ [(conn, message)]
    carried := match message with
      | .action call => s.carried ++ [(conn, call)]
      | .subscription _ _ => s.carried }

/-- `#sendHttpMessage` up to its `await`. -/
def sendHttpMessage (s : ActorConnRaw) (message : ToServerMessage) :
    ActorConnRaw :=
  match s.connectionId with
  | some conn =>
      { s.transmit conn message with posts := s.posts ++ [(conn, message)] }
  | none => s.unshiftMessage message

/-- `#sendMessage` of a connection that is not disposed. `throws` says which
messages the serializer or `send` throws on. -/
def sendMessage (kind : Transport) (throws : ToServerMessage → Bool)
    (s : ActorConnRaw) (message : ToServerMessage) : ActorConnRaw :=
  match s.transportSocket with
  | some (.opened conn) =>
      match kind with
      | .websocket =>
          if throws message then s.pushMessage message
          else s.transmit conn message
      | .sse => s.sendHttpMessage message
  | _ => s.pushMessage message

/-- `action()` up to its `#sendMessage`: its id and its entry in the map.
`accepted` is whether it gets past that. -/
def register (s : ActorConnRaw) (accepted : Bool) : ActorConnRaw :=
  let actionId := s.actionIdCounter
  let call := s.calls.length
  { s with
    actionIdCounter := nextNumber actionId
    actionsInFlight :=
      s.actionsInFlight.filter (·.1 ≠ actionId) ++ [(actionId, call)]
    calls := s.calls ++ [if accepted then .pending else .rejected]
    submitted := if accepted then s.submitted ++ [call] else s.submitted }

/-- `action()` up to its `await`. `encodes` is whether `cbor.encode` takes
the arguments; `#sendMessage` throws on a disposed connection. -/
def action (kind : Transport) (s : ActorConnRaw) (encodes : Bool)
    (throws : ToServerMessage → Bool) : ActorConnRaw :=
  if encodes = true ∧ s.disposed = false then
    (s.register true).sendMessage kind throws (.action s.calls.length)
  else s.register false

/-- The first listener of an event is added. -/
def subscribe (kind : Transport) (s : ActorConnRaw) (eventName : String)
    (throws : ToServerMessage → Bool) : Option ActorConnRaw :=
  if eventName ∈ s.eventSubscriptions then none
  else
    let s := { s with
      eventSubscriptions := s.eventSubscriptions ++ [eventName] }
    some (if s.disposed then s
      else s.sendMessage kind throws (.subscription eventName true))

/-- Its last listener is removed. -/
def unsubscribe (kind : Transport) (s : ActorConnRaw) (eventName : String)
    (throws : ToServerMessage → Bool) : Option ActorConnRaw :=
  if eventName ∈ s.eventSubscriptions then
    let s := { s with
      eventSubscriptions := s.eventSubscriptions.erase eventName }
    some (if s.disposed then s
      else s.sendMessage kind throws (.subscription eventName false))
  else none

/-- `#dispatchEvent` cleans up an empty set of listeners. -/
def cleanUp (s : ActorConnRaw) (eventName : String) : ActorConnRaw :=
  { s with eventSubscriptions := s.eventSubscriptions.erase eventName }

/-- A post fails, or succeeds. -/
def postSettled (s : ActorConnRaw) (i : Nat) (ok : Bool) :
    Option ActorConnRaw :=
  match s.posts[i]? with
  | some (conn, message) =>
      let s := { s with posts := s.posts.eraseIdx i }
      if ok then some s
      else
        match message with
        | .action call =>
            some ({ s with carried := s.carried.erase (conn, call) }
              |>.unshiftMessage message)
        | .subscription _ _ => some s
  | none => none

-- ============================================================= receiving

/-- A promise of a call settles. -/
def settle (s : ActorConnRaw) (call : Nat) (outcome : CallPromise) :
    ActorConnRaw :=
  { s with calls := s.calls.modify call fun p =>
      if p = .pending then outcome else p }

/-- `#takeActionInFlight`, and what is done with the call it finds. Where it
throws, nothing happens. -/
def takeActionInFlight (s : ActorConnRaw) (id : Nat) (outcome : CallPromise) :
    ActorConnRaw :=
  match s.actionsInFlight.find? (·.1 = id) with
  | some entry =>
      { s with
        actionsInFlight := s.actionsInFlight.filter (·.1 ≠ id)
      }.settle entry.2 outcome
  | none => s

/-- An error of the connection. -/
def connectionError (s : ActorConnRaw) : ActorConnRaw :=
  let s := { s with
    onOpenPromise := s.onOpenPromise.map (OpenPromise.settle .rejected) }
  { s.actionsInFlight.foldl (fun s entry => s.settle entry.2 .rejected) s with
    actionsInFlight := [] }

/-- "Resubscribe to all active events". -/
def resubscribe (kind : Transport) (throws : ToServerMessage → Bool)
    (s : ActorConnRaw) : ActorConnRaw :=
  s.eventSubscriptions.foldl
    (fun s eventName =>
      s.sendMessage kind throws (.subscription eventName true)) s

/-- "Flush queue". -/
def flushQueue (kind : Transport) (throws : ToServerMessage → Bool)
    (s : ActorConnRaw) : ActorConnRaw :=
  s.messageQueue.foldl
    (fun s call => s.sendMessage kind throws (.action call))
    { s with messageQueue := [] }

/-- `#handleOnOpen`. `#sendMessage` of a disposed connection throws, which
ends it. -/
def handleOnOpen (kind : Transport) (s : ActorConnRaw)
    (throws : ToServerMessage → Bool) : ActorConnRaw :=
  let s := { s with
    onOpenPromise := s.onOpenPromise.map (OpenPromise.settle .resolved) }
  if s.disposed then
    if s.eventSubscriptions = [] then { s with messageQueue := [] } else s
  else (s.resubscribe kind throws).flushQueue kind throws

/-- `#handleOnMessage` of a parsed message. -/
def handleMessage (kind : Transport) (s : ActorConnRaw)
    (throws : ToServerMessage → Bool) : ToClientBody → ActorConnRaw
  | .init conn => handleOnOpen kind { s with connectionId := some conn } throws
  | .error actionId =>
      match actionId.bind ActionId.truthy with
      | some id => s.takeActionInFlight id .rejected
      | none => s.connectionError
  | .actionResponse id => s.takeActionInFlight id .resolved
  | .event _ => s

/-- `#handleOnClose`. -/
def handleOnClose (s : ActorConnRaw) : ActorConnRaw :=
  let s := { s with
    onOpenPromise := s.onOpenPromise.map (OpenPromise.settle .rejected)
    transport := none }
  if s.disposed = false ∧ s.connecting = false then s.connectWithRetry else s

-- =============================================================== sockets

/-- A socket opens: the server makes a connection. -/
def socketOpen (s : ActorConnRaw) (i : Nat) : Option ActorConnRaw :=
  if s.sockets[i]? = some .connecting then
    some { s with
      sockets := s.sockets.set i (.opened s.connections)
      connections := s.connections + 1 }
  else none

/-- An `EventSource` has lost its stream and will open again. -/
def socketReconnecting (kind : Transport) (s : ActorConnRaw) (i : Nat) :
    Option ActorConnRaw :=
  match kind, s.sockets[i]? with
  | .sse, some (.opened _) =>
      some { s with sockets := s.sockets.set i .connecting }
  | _, _ => none

/-- The server closes a WebSocket. -/
def socketClosing (kind : Transport) (s : ActorConnRaw) (i : Nat) :
    Option ActorConnRaw :=
  match kind, s.sockets[i]? with
  | .websocket, some (.opened conn) =>
      some { s with sockets := s.sockets.set i (.closing (some conn)) }
  | .websocket, some .connecting =>
      some { s with sockets := s.sockets.set i (.closing none) }
  | _, _ => none

/-- A socket is closed, and says so. -/
def socketClose (s : ActorConnRaw) (i : Nat) : Option ActorConnRaw :=
  match s.sockets[i]? with
  | none => none
  | some .closed => none
  | some _ =>
      some { s with sockets := s.sockets.set i .closed }.handleOnClose

/-- The `error` event of a socket that is not closed: it is logged. -/
def socketError (s : ActorConnRaw) (i : Nat) : Option ActorConnRaw :=
  match s.sockets[i]? with
  | none => none
  | some .closed => none
  | some _ => some s

/-- A message arrives on a socket. `#parseMessage` wants a transport to be
there, whichever it is. -/
def socketMessage (s : ActorConnRaw) (i : Nat) (body : ToClientBody) :
    Option ActorConnRaw :=
  match s.sockets[i]?.bind Socket.conn with
  | some _ =>
      some (if s.transport.isSome then
        { s with frames := s.frames ++ [⟨i, body⟩] } else s)
  | none => none

/-- A message is parsed, and handled. -/
def messageParsed (kind : Transport) (s : ActorConnRaw) (k : Nat)
    (throws : ToServerMessage → Bool) : Option ActorConnRaw :=
  match s.frames[k]? with
  | some frame =>
      some ({ s with frames := s.frames.eraseIdx k }.handleMessage kind throws
        frame.body)
  | none => none

-- =============================================================== dispose

/-- `dispose()` up to its `await`. The abort stops the retry loop, and not
the attempt that runs. -/
def dispose (kind : Transport) (s : ActorConnRaw) : ActorConnRaw :=
  if s.disposed then s
  else
    let s := { s with
      disposed := true
      loop :=
        match s.loop with
        | .running | .backoff => .stopped
        | loop => loop
      disposedAt := some ⟨s.sockets.length, s.attempts, s.sent.length⟩ }
    match s.transport with
    | none => s
    | some i =>
        match kind with
        | .sse =>
            { s with sockets := s.sockets.set i .closed, transport := none }
        | .websocket =>
            match s.sockets[i]? with
            | some (.opened conn) =>
                { s with
                  sockets := s.sockets.set i (.closing (some conn))
                  disposing := some i }
            | some .connecting =>
                { s with
                  sockets := s.sockets.set i (.closing none)
                  disposing := some i }
            | _ => { s with transport := none }

/-- `dispose()` resumes: the socket has closed. -/
def disposeResume (s : ActorConnRaw) : Option ActorConnRaw :=
  match s.disposing with
  | some i =>
      if s.sockets[i]? = some .closed then
        some { s with transport := none, disposing := none }
      else none
  | none => none

/-- The connection as `[CONNECT_SYMBOL]()` leaves it. -/
def connected : ActorConnRaw := connectWithRetry {}

end ActorConnRaw

-- ============================================================ the machine

/-- The steps of a connection. -/
inductive RawStep
  | driverResolve (isOpen : Bool)
  | driverReject (final : Bool)
  | openSettled
  | loopEnd
  | retryTimer
  | socketOpen (i : Nat)
  | socketReconnecting (i : Nat)
  | socketClosing (i : Nat)
  | socketClose (i : Nat)
  | socketError (i : Nat)
  | socketMessage (i : Nat) (body : ToClientBody)
  | messageParsed (k : Nat) (throws : ToServerMessage → Bool)
  | action (encodes : Bool) (throws : ToServerMessage → Bool)
  | subscribe (eventName : String) (throws : ToServerMessage → Bool)
  | unsubscribe (eventName : String) (throws : ToServerMessage → Bool)
  | cleanUp (eventName : String)
  | postSettled (i : Nat) (ok : Bool)
  | dispose
  | disposeResume

open ActorConnRaw in
/-- One step. -/
def rawStep (kind : Transport) (s : ActorConnRaw) :
    RawStep → Option ActorConnRaw
  | .driverResolve isOpen => s.driverResolve isOpen
  | .driverReject final => s.driverReject final
  | .openSettled => s.openSettled
  | .loopEnd => s.loopEnd
  | .retryTimer => s.retryTimer
  | .socketOpen i => s.socketOpen i
  | .socketReconnecting i => s.socketReconnecting kind i
  | .socketClosing i => s.socketClosing kind i
  | .socketClose i => s.socketClose i
  | .socketError i => s.socketError i
  | .socketMessage i body => s.socketMessage i body
  | .messageParsed k throws => s.messageParsed kind k throws
  | .action encodes throws => some (s.action kind encodes throws)
  | .subscribe eventName throws => s.subscribe kind eventName throws
  | .unsubscribe eventName throws => s.unsubscribe kind eventName throws
  | .cleanUp eventName => some (s.cleanUp eventName)
  | .postSettled i ok => s.postSettled i ok
  | .dispose => some (s.dispose kind)
  | .disposeResume => s.disposeResume

/-- The runs of one connection over `kind`. -/
def rawSystem (kind : Transport) : System ActorConnRaw RawStep where
  init s := s = .connected
  step := rawStep kind

end RivetKit.Client
