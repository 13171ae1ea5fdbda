/-
Calling actions over a connection: the client's `ActorConnRaw`
(actor-conn.ts) and the server's `processMessage`
(actor/protocol/old.ts), with the messages between them.

# Steps

The client calls actions, the server takes requests and completes them,
and the client handles what comes back, each in any order: requests over
SSE are separate posts and may overtake each other, and `#handleOnMessage`
awaits the data of a message before it looks at it. Nothing is lost and
nobody disconnects. Connecting is one step, after which the transport is
open and the server's `Init` is on its way.

# Bookkeeping

A call is named by its number. Requests, tasks and answers carry the call
they belong to, and `replied` is what the server answered, neither of
which the code looks at.
-/
import RivetKit.Lib.System
import RivetKit.Protocol.Serde

namespace RivetKit.Client

open Transition
open Js
open Common
open Protocol

-- =============================================================== the data

/-- `ConnTransport`. -/
inductive Transport
  | websocket
  | sse
  deriving DecidableEq

/-- What the connection is set up with. -/
structure Setup where
  platform : Platform
  bare : GeneratedCode
  encoding : Encoding
  transport : Transport

/-- `ActorError`. -/
structure ActorError where
  code : Value
  message : Value
  metadata : Value

/-- Where the promise of an `action()` is. `mismatched` is the error it
throws when the response carries another id. -/
inductive CallState
  | pending
  | returned (output : Value)
  | threw (error : ActorError)
  | mismatched

/-- A call of `action()`. -/
structure Call where
  id : Nat
  state : CallState := .pending

/-- What the server makes of an error (`deconstructError`), its metadata
encoded. -/
structure ServerError where
  code : String
  message : String
  metadata : List UInt8

/-- The server's answer to a request: an encoded output, or an error. -/
inductive ServerReply
  | output (output : List UInt8)
  | error (e : ServerError)

/-- A message in `#messageQueue`. -/
structure Queued where
  call : Nat
  message : ToServer

/-- A message on its way to the server. -/
structure Sent where
  call : Nat
  data : OutputData

/-- A request whose action runs, with the id it came with. -/
structure ServerTask where
  call : Nat
  id : Value

/-- A message on its way to the client. -/
structure Answer where
  call : Option Nat
  data : OutputData

/-- What `#sendHttpMessage` needs. -/
structure ConnectionIds where
  actorId : Value
  connectionId : Value
  connectionToken : Value

/-- Both ends. `isOpen` is a transport whose `readyState` is 1. -/
structure ActorConn where
  isOpen : Bool := false
  ids : Option ConnectionIds := none
  messageQueue : List Queued := []
  actionIdCounter : Nat := 0
  actionsInFlight : List (Nat × Nat) := []
  calls : List Call := []
  connectionErrors : List ActorError := []
  toServer : List Sent := []
  tasks : List ServerTask := []
  toClient : List Answer := []
  replied : List (Nat × ServerReply) := []

-- ============================================================== messages

/-- `n + 1`, as a double. -/
def nextNumber (n : Nat) : Nat := if n < 2 ^ 53 then n + 1 else n

/-- The action response to a request with this id. -/
def actionResponse (id : Value) (output : Value) : Value :=
  .obj [("body", union "ActionResponse"
    (.obj [("id", id), ("output", output)]))]

/-- The error response to a request with this id. -/
def errorResponse (id : Value) (code message metadata : Value) : Value :=
  .obj [("body", union "Error"
    (.obj [("code", code), ("message", message), ("metadata", metadata),
      ("actionId", id)]))]

/-- The bytes of `new Uint8Array(v)`. -/
def toBytes : Value → List UInt8
  | .bytes b => b
  | _ => []

/-- `Number(actionId)`, where that can be a key of `#actionsInFlight`: of
a `bigint`, or of the digits that stand for one. -/
def actionKey : Value → Option Nat
  | .bigint i => if 0 ≤ i then some i.toNat else none
  | .str s =>
      if s.toList ≠ [] ∧ s.toList.all Char.isDigit then
        some (Nat.ofDigitChars 10 s.toList 0)
      else none
  | _ => none

namespace ActorConn

-- ============================================================= the client

/-- `#sendMessage` and, over SSE, `#sendHttpMessage`, which puts what it
cannot send back in front. -/
def sendMessage (env : Setup) (s : ActorConn) (m : Queued) : ActorConn :=
  let data := serializeWithEncoding env.platform env.encoding
    m.message.toValue (toServerVersioned env.bare)
  if s.isOpen then
    match env.transport with
    | .websocket =>
        match data with
        | some data => { s with toServer := s.toServer ++ [⟨m.call, data⟩] }
        | none => { s with messageQueue := s.messageQueue ++ [m] }
    | .sse =>
        match s.ids, data with
        | some ids, some data =>
            if ids.actorId.truthy && ids.connectionId.truthy
                && ids.connectionToken.truthy then
              { s with toServer := s.toServer ++ [⟨m.call, data⟩] }
            else { s with messageQueue := m :: s.messageQueue }
        | _, _ => { s with messageQueue := m :: s.messageQueue }
  else { s with messageQueue := s.messageQueue ++ [m] }

/-- `action()` up to its first `await`. -/
def action (env : Setup) (s : ActorConn) (name : String)
    (args : List UInt8) : ActorConn :=
  let actionId := s.actionIdCounter
  let call := s.calls.length
  let request : ActionRequest := ⟨UInt64.ofNat actionId, name, args⟩
  let s : ActorConn :=
    { s with
      actionIdCounter := nextNumber actionId
      calls := s.calls ++ [{ id := actionId }]
      actionsInFlight :=
        s.actionsInFlight.filter (·.1 ≠ actionId) ++ [(actionId, call)] }
  s.sendMessage env ⟨call, ⟨.actionRequest request⟩⟩

/-- `#handleOnOpen`, with no event subscribed to: the queue is sent. -/
def handleOnOpen (env : Setup) (s : ActorConn) : ActorConn :=
  s.messageQueue.foldl (sendMessage env) { s with messageQueue := [] }

/-- A promise settles, the first time. -/
def settle (s : ActorConn) (c : Nat) (state : CallState) : ActorConn :=
  { s with
    calls := s.calls.modify c fun call =>
      match call.state with
      | .pending => { call with state := state }
      | _ => call }

/-- `#takeActionInFlight`: the call with this id. -/
def takeActionInFlight (s : ActorConn) (id : Value) :
    Option (ActorConn × Nat) :=
  match actionKey id with
  | some key =>
      match s.actionsInFlight.find? (·.1 = key) with
      | some entry =>
          some ({ s with
            actionsInFlight := s.actionsInFlight.filter (·.1 ≠ key) },
            entry.2)
      | none => none
  | none => none

/-- What an `action()` with this id makes of the response it was resolved
with. -/
def responseState (id : Nat) (val : Value) : CallState :=
  match val.member "id" with
  | .bigint i =>
      if i = id then .returned (val.member "output") else .mismatched
  | _ => .mismatched

/-- A connection error rejects every action in flight and goes to the
error handlers. -/
def connectionError (s : ActorConn) (error : ActorError) : ActorConn :=
  let rejected := s.actionsInFlight.foldl
    (fun s entry => s.settle entry.2 (.threw error)) s
  { rejected with
    actionsInFlight := []
    connectionErrors := s.connectionErrors ++ [error] }

/-- `#handleOnMessage` of a decoded message. Where it throws, nothing
happens. -/
def handleMessage (env : Setup) (s : ActorConn) (response : Value) :
    ActorConn :=
  let val := (response.member "body").member "val"
  match (response.member "body").member "tag" with
  | .str tag =>
      if tag = "Init" then
        let ids : ConnectionIds :=
          ⟨val.member "actorId", val.member "connectionId",
            val.member "connectionToken"⟩
        handleOnOpen env { s with ids := some ids }
      else if tag = "Error" then
        let error : ActorError :=
          ⟨val.member "code", val.member "message", val.member "metadata"⟩
        if (val.member "actionId").truthy then
          match s.takeActionInFlight (val.member "actionId") with
          | some (s, c) => s.settle c (.threw error)
          | none => s
        else s.connectionError error
      else if tag = "ActionResponse" then
        match s.takeActionInFlight (val.member "id") with
        | some (s, c) =>
            match s.calls[c]? with
            | some call => s.settle c (responseState call.id val)
            | none => s
        | none => s
      else s
  | _ => s

-- ============================================================= the server

/-- The value the server sends in answer to a request with this id. -/
def replyValue (id : Value) : ServerReply → Value
  | .output output => actionResponse id (.bytes output)
  | .error e =>
      -- `actionId ?? null`
      let actionId := match id with
        | .undefined => .null
        | id => id
      errorResponse actionId (.str e.code) (.str e.message)
        (.bytes e.metadata)

/-- The server answers a request. -/
def reply (env : Setup) (s : ActorConn) (call : Nat) (id : Value)
    (r : ServerReply) : Option ActorConn :=
  match serializeWithEncoding env.platform env.encoding (replyValue id r)
      (toClientVersioned env.bare) with
  | some data =>
      some { s with
        toClient := s.toClient ++ [⟨some call, data⟩]
        replied := s.replied ++ [(call, r)] }
  | none => none

/-- What the server reads from a request: its id, and its arguments where
they decode. -/
def readRequest (env : Setup) (data : OutputData) :
    Option (Value × Option Value) :=
  match deserializeWithEncoding env.platform env.encoding data
      (toServerVersioned env.bare) with
  | some message =>
      let val := (message.member "body").member "val"
      match (message.member "body").member "tag" with
      | .str tag =>
          if tag = "ActionRequest" then
            some (val.member "id",
              env.platform.cborDecode (toBytes (val.member "args")))
          else none
      | _ => none
  | none => none

/-- `processMessage` of a message up to the action, or to the answer with
the error that decoding its arguments throws. -/
def receive (env : Setup) (s : ActorConn) (i : Nat) (e : ServerError) :
    Option ActorConn :=
  match s.toServer[i]? with
  | some m =>
      let s : ActorConn := { s with toServer := s.toServer.eraseIdx i }
      match readRequest env m.data with
      | some (id, some _) =>
          some { s with tasks := s.tasks ++ [⟨m.call, id⟩] }
      | some (id, none) => s.reply env m.call id (.error e)
      | none => none
  | none => none

/-- An action ends, and its request is answered. -/
def complete (env : Setup) (s : ActorConn) (i : Nat) (r : ServerReply) :
    Option ActorConn :=
  match s.tasks[i]? with
  | some t =>
      let s : ActorConn := { s with tasks := s.tasks.eraseIdx i }
      s.reply env t.call t.id r
  | none => none

-- ============================================================ the machine

/-- The client connects, and the server says `Init`. -/
def connect (env : Setup) (s : ActorConn) (init : Protocol.Init) :
    Option ActorConn :=
  if s.isOpen = false ∧ init.actorId ≠ "" ∧ init.connectionId ≠ ""
      ∧ init.connectionToken ≠ "" then
    let message : ToClient := ⟨.init init⟩
    match serializeWithEncoding env.platform env.encoding message.toValue
        (toClientVersioned env.bare) with
    | some data =>
        some { s with
          isOpen := true
          toClient := s.toClient ++ [⟨none, data⟩] }
    | none => none
  else none

/-- The client handles a message. -/
def deliver (env : Setup) (s : ActorConn) (i : Nat) : Option ActorConn :=
  match s.toClient[i]? with
  | some answer =>
      let s : ActorConn := { s with toClient := s.toClient.eraseIdx i }
      match deserializeWithEncoding env.platform env.encoding answer.data
          (toClientVersioned env.bare) with
      | some response => some (s.handleMessage env response)
      | none => some s
  | none => none

end ActorConn

/-- The steps of the two ends. -/
inductive ConnStep
  | action (name : String) (args : List UInt8)
  | connect (init : Protocol.Init)
  | receive (i : Nat) (e : ServerError)
  | complete (i : Nat) (r : ServerReply)
  | deliver (i : Nat)

/-- One step. -/
def connStep (env : Setup) (s : ActorConn) : ConnStep → Option ActorConn
  | .action name args => some (s.action env name args)
  | .connect init => s.connect env init
  | .receive i e => s.receive env i e
  | .complete i r => s.complete env i r
  | .deliver i => s.deliver env i

/-- The runs of one connection. -/
def connSystem (env : Setup) : System ActorConn ConnStep where
  init s := s = {}
  step := connStep env

end RivetKit.Client
