/-
The handlers that `handleWebSocketConnect` returns for one socket
(actor/router-endpoints.ts), with `parseMessage` (actor/protocol/old.ts)
up to `actor.processMessage`.

`onOpen` prepares the connection in the background; `onMessage` and
`onClose` wait for it on `handlersPromise`. From there each goes on in
microtasks, which run in the order they are queued: `Job` has one
constructor for each continuation, and `tick` runs the oldest one.

# What the environment decides

When the connection is prepared, or fails to be; when the socket raises
its events; in which order the host ends the reads of Blobs. The
handlers of a socket that has been closed are not called again.

# History

`received` has the data of every `onMessage`, numbered, and `log` what
the actor has been called with. No branch reads them.
-/
import RivetKit.Lib.System
import RivetKit.Manager.Query
import RivetKit.Protocol.Serde

namespace RivetKit.Actor

open Transition
open Js
open Protocol

-- =========================================================== the messages

/-- `InputData`. A Blob has a size, and contents if the host can read
it. -/
inductive InputData
  | text (s : String)
  | bytes (b : List UInt8)
  | blob (size : Nat) (contents : Option (List UInt8))
  deriving DecidableEq

/-- What stands in the way of a message: `MessageTooLong`, a Blob whose
`arrayBuffer` is rejected, what `deserializeWithEncoding` throws, and
what the preparation of the connection was rejected with. -/
inductive MessageError
  | messageTooLong
  | unreadable
  | malformed
  | notConnected
  deriving DecidableEq

/-- What the handlers are given: the encoding of the connection, the
limit of the run configuration, and what is not in the repository. -/
structure MessageOpts where
  platform : Platform
  bare : GeneratedCode
  encoding : Encoding
  maxIncomingMessageSize : Nat

/-- `getValueLength`. -/
def getValueLength : InputData → Nat
  | .text s => Manager.utf16Length s
  | .bytes b => b.length
  | .blob size _ => size

/-- What the promise of `inputDataToBuffer` settles with. -/
def inputDataToBuffer : InputData → Except MessageError OutputData
  | .text s => .ok (.text s)
  | .bytes b => .ok (.binary b)
  | .blob _ (some contents) => .ok (.binary contents)
  | .blob _ none => .error .unreadable

/-- `parseMessage` behind its `await`: the settled buffer is
deserialized. -/
def parseBuffer (opts : MessageOpts) (value : InputData) :
    Except MessageError Value :=
  match inputDataToBuffer value with
  | .error error => .error error
  | .ok buffer =>
      match deserializeWithEncoding opts.platform opts.encoding buffer
        (toServerVersioned opts.bare) with
      | some message => .ok message
      | none => .error .malformed

/-- What the promise of `parseMessage` settles with. -/
def parseMessage (opts : MessageOpts) (value : InputData) :
    Except MessageError Value :=
  if getValueLength value > opts.maxIncomingMessageSize then
    .error .messageTooLong
  else parseBuffer opts value

/-- `value instanceof Blob`. -/
def InputData.isBlob : InputData → Bool
  | .blob _ _ => true
  | _ => false

/-- A message with its number. -/
structure Received where
  id : Nat
  data : InputData
  deriving DecidableEq

-- ========================================================== the microtasks

/-- The continuations. -/
inductive Job
  /-- The callback of `onMessage`. -/
  | onMessage (r : Received)
  /-- `inputDataToBuffer` behind `await data.arrayBuffer()`. -/
  | blobRead (r : Received)
  /-- `parseMessage` behind `await inputDataToBuffer(value)`. -/
  | buffered (r : Received)
  /-- `.then((message) => …)` of `parseMessage`. -/
  | parsed (r : Received) (message : Value)
  /-- A `then` on a promise that was rejected: the rejection goes on to
  the `catch`. -/
  | passOn (error : MessageError) (closes : Bool)
  /-- The `catch`: that of `onMessage` closes the socket, that of
  `onClose` logs. -/
  | caught (error : MessageError) (closes : Bool)
  /-- The callback of `onClose`. -/
  | onClose

/-- The state of `handlersPromise`. -/
inductive HandlersPromise
  | pending
  | fulfilled
  | rejected
  deriving DecidableEq

/-- What the actor has been called with: `processMessage`, and
`__removeConn` from `onClose`. -/
inductive ConnCall
  | processMessage (id : Nat) (message : Value)
  | removeConn

/-- The handlers of one socket. `reactions` are the callbacks that wait
on `handlersPromise`, `reading` the Blobs whose `arrayBuffer` is under
way, and `closes` the errors behind the calls `ws.close(1011, …)`. -/
structure SocketHandlers where
  handlersPromise : HandlersPromise := .pending
  reactions : List Job := []
  queue : List Job := []
  reading : List Received := []
  closes : List MessageError := []
  closed : Bool := false
  received : List Received := []
  log : List ConnCall := []

namespace SocketHandlers

variable (opts : MessageOpts)

/-- A job at the end of the queue. -/
def enqueue (s : SocketHandlers) (job : Job) : SocketHandlers :=
  { s with queue := s.queue ++ [job] }

/-- What a callback becomes when `handlersPromise` is rejected. -/
def rejectJob : Job → Job
  | .onClose => .passOn .notConnected false
  | _ => .passOn .notConnected true

/-- `handlersPromise.then(…).catch(…)`. -/
def then_ (s : SocketHandlers) (job : Job) : SocketHandlers :=
  match s.handlersPromise with
  | .pending => { s with reactions := s.reactions ++ [job] }
  | .fulfilled => s.enqueue job
  | .rejected => s.enqueue (rejectJob job)

/-- The callback of `onMessage`: `parseMessage` up to its first
suspension. -/
def startParse (s : SocketHandlers) (r : Received) : SocketHandlers :=
  if getValueLength r.data > opts.maxIncomingMessageSize then
    s.enqueue (.passOn .messageTooLong true)
  else if r.data.isBlob then { s with reading := s.reading ++ [r] }
  else s.enqueue (.buffered r)

/-- One continuation. -/
def runJob (s : SocketHandlers) : Job → SocketHandlers
  | .onMessage r => s.startParse opts r
  | .blobRead r => s.enqueue (.buffered r)
  | .buffered r =>
      match parseBuffer opts r.data with
      | .ok message => s.enqueue (.parsed r message)
      | .error error => s.enqueue (.passOn error true)
  | .parsed r message =>
      { s with log := s.log ++ [.processMessage r.id message] }
  | .passOn error closes => s.enqueue (.caught error closes)
  | .caught error closes =>
      if closes then { s with closes := s.closes ++ [error] } else s
  | .onClose => { s with log := s.log ++ [.removeConn] }

-- ================================================================= the runs

/-- What happens to a socket. -/
inductive Label
  /-- `handlersResolve`. -/
  | prepared
  /-- `handlersReject`. -/
  | failed
  | message (data : InputData)
  | close
  /-- The host ends the read of a Blob. -/
  | blobSettled (k : Nat)
  | tick

/-- One event of the socket, the host or the queue. -/
def step (s : SocketHandlers) : Label → Option SocketHandlers
  | .prepared =>
      match s.handlersPromise with
      | .pending =>
          some { s with handlersPromise := .fulfilled, reactions := [],
                        queue := s.queue ++ s.reactions }
      | _ => none
  | .failed =>
      match s.handlersPromise with
      | .pending =>
          some { s with handlersPromise := .rejected, reactions := [],
                        queue := s.queue ++ s.reactions.map rejectJob }
      | _ => none
  | .message data =>
      if s.closed then none
      else
        let r : Received := ⟨s.received.length, data⟩
        some (then_ { s with received := s.received ++ [r] }
          (.onMessage r))
  | .close =>
      if s.closed then none
      else some (then_ { s with closed := true } .onClose)
  | .blobSettled k =>
      match s.reading[k]? with
      | some r =>
          some (enqueue { s with reading := s.reading.eraseIdx k }
            (.blobRead r))
      | none => none
  | .tick =>
      match s.queue with
      | job :: queue => some (runJob opts { s with queue := queue } job)
      | [] => none

/-- The handlers of a socket, from `onOpen` on. -/
def system : System SocketHandlers Label where
  init s := s = {}
  step := step opts

end SocketHandlers

end RivetKit.Actor
