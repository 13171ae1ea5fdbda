/-
The transport drivers of the Rust client (clients/rust/src/drivers/ws.rs,
sse.rs, mod.rs), and a connection with the driver that it runs.

# The loop

`start` of ws.rs, `start` of sse.rs and `do_handshake` are one loop: a
`select!` over the outgoing channel and the stream. `Transport` has what
they differ in: what an item of the stream is read as, what a message is
written as, and the context that a write needs. ws needs none. That of sse
is what an `Init` brings, and while there is none the loop is that of
`do_handshake`, whose `select!` has the branch of the stream alone.

# The environment

The items of the stream come from outside. A write may fail or not: the
loop goes on in the same way, so `written` is both. An aborted task is
cancelled at some await, or never if it returns first.

# The connection

`DrivenConnection` is `ActorConnection` with the loop in place of what
Connection.lean has of a driver. The ends of the channels that the driver
does not have are with `try_connect` (`recver`) and, until the driver is
destroyed, with the `DriverHandle`.

# History

`items`, `accepted`, `taken` and `requests` are those of one driver: what
the stream gave, what was put in its outgoing channel, and of that what it
took out and what it made of it. `sent` and `taken` of the connection are
those of all its drivers. No branch reads them.
-/
import RivetKit.RustClient.Connection

namespace RivetKit.RustClient

open Transition
open Js

-- ============================================================== transports

/-- `DriverStopReason`. -/
inductive DriverStopReason
  | userAborted
  | serverDisconnect
  | serverError
  | taskError
  deriving DecidableEq

/-- What a stream gives. -/
inductive Next (α : Type)
  | ok (item : α)
  | err
  /-- `None`. -/
  | closed

/-- What an item makes the loop do. -/
inductive Reading
  | message (msg : ToClient)
  | skip
  | stop (reason : DriverStopReason)

/-- What could be read is a message, the rest is passed over. -/
def Reading.ofRead : Option ToClient → Reading
  | some msg => .message msg
  | none => .skip

/-- The `match` on what the stream gave. -/
def Next.read {α : Type} (read : α → Reading) : Next α → Reading
  | .ok item => read item
  | .err => .stop .serverError
  | .closed => .stop .serverDisconnect

/-- What the loops differ in. -/
structure Transport (Context Item Request : Type) where
  /-- The `Init` that `connect` sends before it returns. -/
  greeting : Option ToServer.Init
  /-- The context of a loop that waits for none. -/
  context : Option Context
  /-- The context that a message brings which was delivered. -/
  handshake : ToClient → Option Context
  read : Item → Reading
  write : Context → ToServer → Option Request

variable (crates : Crates)

namespace Ws

/-- `tungstenite::Message`. Pings, pongs and frames are `other`. -/
inductive Message
  | text (s : String)
  | binary (bytes : List UInt8)
  | close
  | other

/-- The `match` of `start` on a message. -/
def read (encodingKind : EncodingKind) : Message → Reading
  | .text s => .ofRead (deserialize crates encodingKind (.text s))
  | .binary bytes => .ofRead (deserialize crates encodingKind (.binary bytes))
  | .close => .stop .serverDisconnect
  | .other => .skip

end Ws

/-- `connect` and `start` of ws.rs. -/
def ws (encodingKind : EncodingKind) (parameters : Option Json) :
    Transport Unit (Next Ws.Message) Protocol.OutputData where
  greeting := some { p := parameters }
  context := some ()
  handshake _ := none
  read := Next.read (Ws.read crates encodingKind)
  write _ := serialize crates encodingKind

namespace Sse

/-- `eventsource_client::SSE`. -/
inductive SSE
  | comment (comment : String)
  | connected
  | event (data : String)

/-- `ConnectionDetails`. -/
structure ConnectionDetails where
  actorId : String
  id : String
  token : String
  deriving DecidableEq

/-- What `sse_send_msg` posts. Its header of the user agent is always the
same. -/
structure Request where
  url : String
  headers : List (String × String)
  body : List UInt8
  deriving DecidableEq

/-- `as_str`. -/
def asStr : EncodingKind → String
  | .json => "json"
  | .cbor => "cbor"

/-- `deserialize`. -/
def deserialize (encodingKind : EncodingKind) (msg : String) :
    Option ToClient :=
  match encodingKind with
  | .json => (crates.jsonFromStr msg).bind ToClient.deserialize
  | .cbor =>
      (crates.base64Decode msg).bind fun bytes =>
        (crates.cborFromSlice bytes).bind ToClient.deserialize

/-- `serialize`. -/
def serialize (encodingKind : EncodingKind) (msg : ToServer) :
    Option (List UInt8) :=
  match encodingKind with
  | .json =>
      (crates.jsonToString msg.serialize).map fun text => text.toUTF8.toList
  | .cbor => crates.cborToVec msg.serialize

/-- The `match` of both loops on a message. -/
def read (encodingKind : EncodingKind) : SSE → Reading
  | .comment _ => .skip
  | .connected => .skip
  | .event data => .ofRead (deserialize crates encodingKind data)

/-- `do_handshake`, with a message that it has delivered. -/
def doHandshake (msg : ToClient) : Option ConnectionDetails :=
  match msg.b with
  | .init i => some ⟨i.ai, i.ci, i.ct⟩
  | _ => none

/-- `sse_send_msg`, up to its `send`. -/
def sseSendMsg (endpoint : String) (encodingKind : EncodingKind)
    (conn : ConnectionDetails) (msg : ToServer) : Option Request :=
  (serialize crates encodingKind msg).map fun body =>
    { url := endpoint ++ "/actors/message"
      headers :=
        [("X-AC-Encoding", asStr encodingKind),
          ("X-AC-Actor", conn.actorId),
          ("X-AC-Conn", conn.id),
          ("X-AC-Conn-Token", conn.token)]
      body }

end Sse

/-- `connect` and `start` of sse.rs. -/
def sse (endpoint : String) (encodingKind : EncodingKind) :
    Transport Sse.ConnectionDetails (Next Sse.SSE) Sse.Request where
  greeting := none
  context := none
  handshake := Sse.doHandshake
  read := Next.read (Sse.read crates encodingKind)
  write := Sse.sseSendMsg crates endpoint encodingKind

-- ================================================================ the loop

/-- Where the loop is. -/
inductive DriverPoint
  /-- At its `select!`. -/
  | select
  /-- Writing what it made of `msg`. -/
  | write (msg : ToServer)
  /-- At `in_tx.send`. -/
  | deliver (msg : ToClient)

/-- How a driver task ended. -/
inductive DriverEnd
  | returned (reason : DriverStopReason)
  | cancelled
  deriving DecidableEq

/-- A driver task. -/
structure Driver (Context Item Request : Type) where
  /-- `none` in `do_handshake`. -/
  context : Option Context
  point : DriverPoint := .select
  ended : Option DriverEnd := none
  items : List Item := []
  accepted : List ToServer := []
  taken : List ToServer := []
  requests : List Request := []

/-- The message that the loop is at delivering. -/
def DriverPoint.delivering : DriverPoint → List ToClient
  | .deliver msg => [msg]
  | _ => []

variable {Context Item Request : Type}
variable (T : Transport Context Item Request)

/-- The greeting, as it stands in the channel. -/
def Transport.greetings : List ToServer :=
  (T.greeting.map fun i => ⟨.init i⟩).toList

namespace Driver

/-- The task that `connect` spawns. -/
def spawn : Driver Context Item Request where
  context := T.context
  accepted := T.greetings

variable (d : Driver Context Item Request)

/-- `out_rx.recv()` has a message. -/
def take (msg : ToServer) : Option (Driver Context Item Request) :=
  match d.ended, d.point, d.context with
  | none, .select, some context =>
      match T.write context msg with
      | some request =>
          some { d with
            point := .write msg
            taken := d.taken ++ [msg]
            requests := d.requests ++ [request] }
      | none => some { d with taken := d.taken ++ [msg] }
  | _, _, _ => none

/-- `out_rx.recv()` has `None`. -/
def senderDropped : Option (Driver Context Item Request) :=
  match d.ended, d.point, d.context with
  | none, .select, some _ =>
      some { d with ended := some (.returned .userAborted) }
  | _, _, _ => none

/-- `stream.next()` has an item. -/
def next (item : Item) : Option (Driver Context Item Request) :=
  match d.ended, d.point with
  | none, .select =>
      let d := { d with items := d.items ++ [item] }
      match T.read item with
      | .message msg => some { d with point := .deliver msg }
      | .skip => some d
      | .stop reason => some { d with ended := some (.returned reason) }
  | _, _ => none

/-- The write is over. -/
def written : Option (Driver Context Item Request) :=
  match d.ended, d.point with
  | none, .write _ => some { d with point := .select }
  | _, _ => none

/-- `in_tx.send` returns `Ok`. -/
def deliver : Option (ToClient × Driver Context Item Request) :=
  match d.ended, d.point with
  | none, .deliver msg =>
      some (msg, { d with
        point := .select
        context := d.context.or (T.handshake msg) })
  | _, _ => none

/-- `in_tx.send` returns `Err`. -/
def receiverDropped : Option (Driver Context Item Request) :=
  match d.ended, d.point with
  | none, .deliver _ =>
      some { d with ended := some (.returned .userAborted) }
  | _, _ => none

/-- The task is cancelled at an await. -/
def cancel : Option (Driver Context Item Request) :=
  match d.ended with
  | none => some { d with ended := some .cancelled }
  | some _ => none

/-- What the connection sees of it. -/
def task : DriverTask :=
  match d.ended, d.point with
  | some _, _ => .ended
  | none, .select => .select
  | none, .write msg => .write msg
  | none, .deliver msg => .deliver msg

end Driver

-- ========================================================== the connection

/-- A connection and its driver, once it has had one. -/
structure DrivenConnection (Context Item Request : Type) where
  conn : ActorConnection := {}
  driver : Option (Driver Context Item Request) := none
  sent : List ToServer := []
  taken : List ToServer := []

/-- The steps that Connection.lean has of a driver and of its beginning. -/
def ConnectionStep.isDriver : ConnectionStep → Bool
  | .connect _ => true
  | .takeOutgoing => true
  | .wrote => true
  | .receive _ => true
  | .deliver => true
  | .endDriver => true
  | _ => false

/-- What a step of the connection puts in the outgoing channel. -/
def ActorConnection.puts (s : ActorConnection) :
    ConnectionStep → List ToServer
  | .sendOk t => ((s.sendMsg? t).map SendMsg.msg).toList
  | _ => []

namespace DrivenConnection

variable (s : DrivenConnection Context Item Request)

/-- What `ActorConnection` has of the state. -/
def view : ActorConnection :=
  { s.conn with
    driverTask :=
      match s.driver with
      | some d => d.task
      | none => .ended }

/-- A step of the connection or of its callers. -/
def connStep (a : ConnectionStep) :
    Option (DrivenConnection Context Item Request) :=
  if a.isDriver then none
  else
    (connectionStep s.view a).map fun conn =>
      { s with
        conn
        driver := s.driver.map fun d =>
          { d with accepted := d.accepted ++ s.view.puts a }
        sent := s.sent ++ s.view.puts a }

/-- `connect_driver` has returned. -/
def connect : Option (DrivenConnection Context Item Request) :=
  (s.view.connect T.greetings.head?).map fun conn =>
    { s with
      conn
      driver := some (.spawn T)
      sent := s.sent ++ T.greetings }

/-- The loop takes a message out. -/
def takeOutgoing : Option (DrivenConnection Context Item Request) :=
  match s.driver, s.conn.outgoing with
  | some d, msg :: outgoing =>
      (d.take T msg).map fun d =>
        { s with
          conn := { s.conn with outgoing }
          driver := some d
          taken := s.taken ++ [msg] }
  | _, _ => none

/-- `DriverHandle` is in `try_connect` or in `self.driver`. -/
def hasSender : Bool :=
  match s.conn.connectionTask with
  | .setDriver => true
  | _ => s.conn.driver

/-- The loop finds the channel empty, and nobody to put something in. -/
def senderDropped : Option (DrivenConnection Context Item Request) :=
  match s.driver, s.conn.outgoing with
  | some d, [] =>
      if s.hasSender then none
      else d.senderDropped.map fun d => { s with driver := some d }
  | _, _ => none

/-- The connection's history of what was received. -/
def noteRead (conn : ActorConnection) : Reading → ActorConnection
  | .message msg =>
      { conn with
        received := conn.received ++ [msg]
        answered := conn.answered
          ++ (ActorConnection.replyId msg).toList.filter (· ∈ conn.handed) }
  | _ => conn

/-- The stream gives an item. -/
def next (item : Item) : Option (DrivenConnection Context Item Request) :=
  match s.driver with
  | some d =>
      (d.next T item).map fun d =>
        { s with conn := noteRead s.conn (T.read item), driver := some d }
  | none => none

/-- The write is over. -/
def written : Option (DrivenConnection Context Item Request) :=
  match s.driver with
  | some d => d.written.map fun d => { s with driver := some d }
  | none => none

/-- `recver` is in `try_connect`. -/
def hasReceiver : Bool :=
  match s.conn.connectionTask with
  | .idle => false
  | _ => true

/-- The incoming channel takes the message. -/
def deliver : Option (DrivenConnection Context Item Request) :=
  match s.driver with
  | some d =>
      if s.hasReceiver ∧ s.conn.incoming.length < capacity then
        (d.deliver T).map fun (msg, d) =>
          { s with
            conn := { s.conn with incoming := s.conn.incoming ++ [msg] }
            driver := some d }
      else none
  | none => none

/-- The incoming channel has nobody at its other end. -/
def receiverDropped : Option (DrivenConnection Context Item Request) :=
  match s.driver with
  | some d =>
      if s.hasReceiver then none
      else d.receiverDropped.map fun d => { s with driver := some d }
  | none => none

/-- The driver task is cancelled. -/
def cancel : Option (DrivenConnection Context Item Request) :=
  match s.driver with
  | some d =>
      if s.conn.aborted then d.cancel.map fun d => { s with driver := some d }
      else none
  | none => none

end DrivenConnection

/-- The steps of a connection with its driver. -/
inductive DrivenStep (Item : Type)
  | conn (a : ConnectionStep)
  | connect
  | takeOutgoing
  | senderDropped
  | next (item : Item)
  | written
  | deliver
  | receiverDropped
  | cancel

/-- One step. -/
def drivenStep (s : DrivenConnection Context Item Request) :
    DrivenStep Item → Option (DrivenConnection Context Item Request)
  | .conn a => s.connStep a
  | .connect => s.connect T
  | .takeOutgoing => s.takeOutgoing T
  | .senderDropped => s.senderDropped
  | .next item => s.next T item
  | .written => s.written
  | .deliver => s.deliver T
  | .receiverDropped => s.receiverDropped
  | .cancel => s.cancel

/-- The runs of a connection over a transport. -/
def drivenSystem :
    System (DrivenConnection Context Item Request) (DrivenStep Item) where
  init s := s = {}
  step := drivenStep T

end RivetKit.RustClient
