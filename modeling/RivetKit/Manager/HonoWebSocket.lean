/-
`HonoWebSocketAdapter` (manager/hono-websocket-adapter.ts): the WebSocket
that `onWebSocket` of an actor gets, over the `WSContext` of the server.

Listeners, and the socket below, run in the middle of the adapter's
methods, and may call any of them. The state has the stack of what has been
called and has not returned: functions of others (listeners, property
handlers, `ws.send` and `ws.close`) and, between them, the loops of
`#fireEvent` that go on when one returns. While a function of others is on
top, or the stack is empty, any method may be called; `internal` is a step
of the adapter. What is asynchronous (the timer of the constructor, the
conversion of a `Blob`) happens at an empty stack.

Listeners and property handlers are functions, which a number stands for.
Logging, and `#closeCode` and `#closeReason`, which nothing reads, are left
out.

# History

`toSocket` is what `send` has passed to `ws.send`, `late` the Blobs that
went there behind their conversion. `closeEvents`, `opens` and `messages`
are the events of these types that were raised, and `heard` the calls of
listeners with a message. `dispatched` has the loops that have ended, each
with the listeners of its type at that time. `reported` counts the calls
of `_handleClose` that went on while the socket was closing. No branch
reads them.
-/
import RivetKit.Common.InlineWebSocket
import RivetKit.Lib.LiveSet

namespace RivetKit.Manager

open Transition
open Js
open Common (ReadyState EventType CloseEvent)

namespace HonoWebSocket

-- =============================================================== the data

/-- A message as it is passed on: a string or bytes. -/
inductive Payload
  | text (s : String)
  | binary (bytes : List UInt8)
  deriving DecidableEq

/-- What `send` is given. `view` is a view of a buffer, of a shared one
too. -/
inductive Outgoing
  | text (s : String)
  | arrayBuffer (bytes : List UInt8)
  | view (buffer : List UInt8) (byteOffset byteLength : Nat)
  | blob (bytes : List UInt8)
  /-- Anything else, by its `String(data)`. -/
  | other (text : String)

/-- What `send` passes on, a Blob behind its conversion. -/
def Outgoing.payload : Outgoing → Payload
  | .text s => .text s
  | .arrayBuffer bytes => .binary bytes
  | .view buffer byteOffset byteLength =>
      .binary ((buffer.drop byteOffset).take byteLength)
  | .blob bytes => .binary bytes
  | .other s => .text s

/-- What `_handleMessage` is given. -/
inductive Incoming
  | text (s : String)
  /-- An `ArrayBuffer` or a view. -/
  | buffer (bytes : List UInt8)
  /-- An object with `data`. -/
  | messageEvent (data : Payload)
  /-- Anything else, by its `String(data)`. -/
  | other (text : String)

/-- `messageData`. -/
def Incoming.messageData : Incoming → Payload
  | .text s => .text s
  | .buffer bytes => .binary bytes
  | .messageEvent data => data
  | .other s => .text s

/-- What an error event is about. -/
inductive ErrorCause
  /-- What `ws.send` threw in `send`. -/
  | send
  /-- What the conversion of a Blob, or `ws.send` behind it, threw. -/
  | blob
  /-- What `_handleError` was given. -/
  | reported
  deriving DecidableEq

/-- An event; `custom` is one that was passed to `dispatchEvent`. -/
inductive Event
  | opened
  | close (event : CloseEvent)
  | error (cause : ErrorCause)
  | message (data : Payload)
  | custom (type : EventType)
  deriving DecidableEq

/-- Its `type`. -/
def Event.type : Event → EventType
  | opened => .opened
  | close _ => .close
  | error _ => .error
  | message _ => .message
  | custom type => type

/-- What is on the stack. -/
inductive Frame
  /-- A listener or property handler. -/
  | listener
  /-- The loop of `#fireEvent`, behind which the `on…` property is called,
  or that of `dispatchEvent`, behind which it is not. -/
  | dispatch (event : Event) (loop : Loop Nat) (toProperty : Bool)
  /-- `ws.send`, which `send` called. -/
  | wsSend
  /-- `ws.close`, which `close` called. -/
  | wsClose (code : Nat) (reason : String)
  /-- `ws.close`, which `_handleClose` called. -/
  | forceClose (code : Nat) (reason : String)
  /-- `ws.send`, which was called behind the conversion of a Blob. -/
  | blobSend
  deriving DecidableEq

/-- A loop that has ended, and the listeners of its type then. -/
structure Ended where
  event : Event
  loop : Loop Nat
  members : List Nat

end HonoWebSocket

open HonoWebSocket

/-- The adapter. -/
structure HonoWebSocket where
  readyState : ReadyState := .opened
  eventListeners : EventType → LiveSet Nat := fun _ => .empty
  /-- `#onopen`, `#onclose`, `#onerror` and `#onmessage`. -/
  properties : EventType → Option Nat := fun _ => none
  stack : List Frame := []
  /-- The timer of the constructor has not fired. -/
  openTimer : Bool := true
  /-- Blobs that are being converted. -/
  blobs : List (List UInt8) := []
  /-- Rejections whose `catch` has not run. -/
  rejections : Nat := 0
  toSocket : List Payload := []
  late : List (List UInt8) := []
  closeEvents : List CloseEvent := []
  opens : Nat := 0
  messages : List Payload := []
  heard : List (Nat × Payload) := []
  dispatched : List Ended := []
  reported : Nat := 0

namespace HonoWebSocket

/-- What others can call. -/
inductive Method
  | send (data : Outgoing)
  | close (code : Option Nat) (reason : Option String)
  | addEventListener (type : EventType) (listener : Nat)
  | removeEventListener (type : EventType) (listener : Nat)
  /-- An assignment of `onopen`, `onclose`, `onerror` or `onmessage`. -/
  | setProperty (type : EventType) (handler : Option Nat)
  | dispatchEvent (type : EventType)
  | handleMessage (data : Incoming)
  | handleClose (code : Nat) (reason : String)
  | handleError

/-- The steps. -/
inductive Step
  | call (m : Method)
  /-- The function on top returns. -/
  | ret
  /-- The function on top throws. -/
  | throws
  /-- The adapter goes on. -/
  | internal
  /-- The timer of the constructor fires. -/
  | timer
  /-- The conversion of a Blob resolves, or rejects. -/
  | converted (i : Nat)
  | rejected (i : Nat)
  /-- The `catch` of a conversion runs. -/
  | caught

-- ============================================================== dispatch

/-- The loop of `#fireEvent` or `dispatchEvent` begins. -/
def beginLoop (event : Event) (toProperty : Bool) (s : HonoWebSocket) :
    HonoWebSocket :=
  let loop := (s.eventListeners event.type).loop
  { s with stack := .dispatch event loop toProperty :: s.stack }

/-- `#fireEvent`. -/
def fireEvent (event : Event) (s : HonoWebSocket) : HonoWebSocket :=
  s.beginLoop event true

/-- The `on…` property is called. -/
def callProperty (event : Event) (s : HonoWebSocket) : HonoWebSocket :=
  match s.properties event.type with
  | none => s
  | some _ => { s with stack := .listener :: s.stack }

/-- A listener's call, in the history of messages. -/
def hears (listener : Nat) : Event → List (Nat × Payload)
  | .message data => [(listener, data)]
  | .opened | .close _ | .error _ | .custom _ => []

/-- A loop goes on. -/
def continueLoop (event : Event) (loop : Loop Nat) (toProperty : Bool)
    (rest : List Frame) (s : HonoWebSocket) : HonoWebSocket :=
  match (s.eventListeners event.type).next loop.index with
  | some (l, i) =>
      { s with
        stack := .listener
          :: .dispatch event (loop.call l i) toProperty :: rest
        heard := s.heard ++ hears l event }
  | none =>
      let ended : Ended :=
        ⟨event, loop, (s.eventListeners event.type).elements⟩
      let s :=
        { s with stack := rest, dispatched := s.dispatched ++ [ended] }
      if toProperty then s.callProperty event else s

/-- `addEventListener`. -/
def addEventListener (type : EventType) (listener : Nat)
    (s : HonoWebSocket) : HonoWebSocket :=
  { s with
    eventListeners := fun t =>
      if t = type then (s.eventListeners t).add listener
      else s.eventListeners t }

/-- A deletion, in the history of a frame. -/
def deleteIn (type : EventType) (listener : Nat) (set : LiveSet Nat) :
    Frame → Frame
  | .dispatch event loop toProperty =>
      if event.type = type then
        .dispatch event (loop.delete listener set) toProperty
      else .dispatch event loop toProperty
  | f => f

/-- `removeEventListener`. -/
def removeEventListener (type : EventType) (listener : Nat)
    (s : HonoWebSocket) : HonoWebSocket :=
  { s with
    eventListeners := fun t =>
      if t = type then (s.eventListeners t).delete listener
      else s.eventListeners t
    stack := s.stack.map
      (deleteIn type listener (s.eventListeners type)) }

/-- The setter of an `on…` property. -/
def setProperty (type : EventType) (handler : Option Nat)
    (s : HonoWebSocket) : HonoWebSocket :=
  match type with
  | .other _ => s
  | _ =>
      { s with
        properties := fun t => if t = type then handler else s.properties t }

-- =========================================================== the methods

/-- `send`, up to the call of `ws.send`. -/
def send (data : Outgoing) (s : HonoWebSocket) : HonoWebSocket :=
  if s.readyState ≠ .opened then s
  else
    match data with
    | .blob bytes => { s with blobs := s.blobs ++ [bytes] }
    | data =>
        { s with
          stack := .wsSend :: s.stack
          toSocket := s.toSocket ++ [data.payload] }

/-- `close`, up to the call of `ws.close`. -/
def close (code : Nat) (reason : String) (s : HonoWebSocket) :
    HonoWebSocket :=
  if s.readyState = .closing ∨ s.readyState = .closed then s
  else
    { s with
      readyState := .closing
      stack := .wsClose code reason :: s.stack }

/-- The socket is closed, and says so. -/
def raiseClose (event : CloseEvent) (s : HonoWebSocket) : HonoWebSocket :=
  { s with
    readyState := .closed
    closeEvents := s.closeEvents ++ [event] }.fireEvent (.close event)

/-- `_handleMessage`. -/
def handleMessage (data : Incoming) (s : HonoWebSocket) : HonoWebSocket :=
  { s with messages := s.messages ++ [data.messageData] }.fireEvent
    (.message data.messageData)

/-- `_handleClose`, up to the call of `ws.close`. -/
def handleClose (code : Nat) (reason : String) (s : HonoWebSocket) :
    HonoWebSocket :=
  { s with stack := .forceClose code reason :: s.stack }

/-- `_handleClose` behind `ws.close`. -/
def closeHandled (code : Nat) (reason : String) (s : HonoWebSocket) :
    HonoWebSocket :=
  if s.readyState = .closed then s
  else
    { s with
      reported := s.reported
        + (if s.readyState = ReadyState.closing then 1 else 0) }.raiseClose
      ⟨code, reason, decide (code = 1000)⟩

/-- A method is called. -/
def callMethod (s : HonoWebSocket) : Method → HonoWebSocket
  | .send data => s.send data
  | .close code reason => s.close (code.getD 1000) (reason.getD "")
  | .addEventListener type listener => s.addEventListener type listener
  | .removeEventListener type listener =>
      s.removeEventListener type listener
  | .setProperty type handler => s.setProperty type handler
  | .dispatchEvent type => s.beginLoop (.custom type) false
  | .handleMessage data => s.handleMessage data
  | .handleClose code reason => s.handleClose code reason
  | .handleError => s.fireEvent (.error .reported)

-- =============================================================== the step

/-- Whether a function of others is on top, or nothing is. -/
def othersOnTop : List Frame → Bool
  | .dispatch _ _ _ :: _ => false
  | _ => true

/-- The function on top returns. -/
def ret (s : HonoWebSocket) : Option HonoWebSocket :=
  match s.stack with
  | .listener :: rest | .wsSend :: rest | .blobSend :: rest =>
      some { s with stack := rest }
  | .wsClose code reason :: rest =>
      some ({ s with stack := rest }.raiseClose
        ⟨code, reason, decide (code = 1000)⟩)
  | .forceClose code reason :: rest =>
      some ({ s with stack := rest }.closeHandled code reason)
  | _ => none

/-- The function on top throws. What a listener throws is caught, and what
`ws.close` throws in `_handleClose` its caller gets. -/
def throws (s : HonoWebSocket) : Option HonoWebSocket :=
  match s.stack with
  | .listener :: rest | .forceClose _ _ :: rest =>
      some { s with stack := rest }
  | .wsSend :: rest =>
      some ({ s with stack := rest }.fireEvent (.error .send))
  | .wsClose _ _ :: rest =>
      some ({ s with stack := rest }.raiseClose
        ⟨1006, "Abnormal closure", false⟩)
  | .blobSend :: rest =>
      some { s with stack := rest, rejections := s.rejections + 1 }
  | _ => none

/-- The adapter goes on. -/
def internal (s : HonoWebSocket) : Option HonoWebSocket :=
  match s.stack with
  | .dispatch event loop toProperty :: rest =>
      some (s.continueLoop event loop toProperty rest)
  | _ => none

/-- The timer of the constructor fires. -/
def timer (s : HonoWebSocket) : Option HonoWebSocket :=
  if s.stack = [] ∧ s.openTimer = true then
    some ({ s with openTimer := false, opens := s.opens + 1 }.fireEvent
      .opened)
  else none

/-- A Blob is converted, and `ws.send` called. -/
def converted (i : Nat) (s : HonoWebSocket) : Option HonoWebSocket :=
  match s.stack, s.blobs[i]? with
  | [], some bytes =>
      some { s with
        blobs := s.blobs.eraseIdx i
        late := s.late ++ [bytes]
        stack := [.blobSend] }
  | _, _ => none

/-- A Blob cannot be converted. -/
def rejected (i : Nat) (s : HonoWebSocket) : Option HonoWebSocket :=
  match s.stack, s.blobs[i]? with
  | [], some _ =>
      some { s with
        blobs := s.blobs.eraseIdx i
        rejections := s.rejections + 1 }
  | _, _ => none

/-- The `catch` of a conversion runs. -/
def caught (s : HonoWebSocket) : Option HonoWebSocket :=
  match s.stack, s.rejections with
  | [], n + 1 => some ({ s with rejections := n }.fireEvent (.error .blob))
  | _, _ => none

/-- One step, where it can happen. -/
def step (s : HonoWebSocket) : Step → Option HonoWebSocket
  | .call m => if othersOnTop s.stack then some (s.callMethod m) else none
  | .ret => s.ret
  | .throws => s.throws
  | .internal => s.internal
  | .timer => s.timer
  | .converted i => s.converted i
  | .rejected i => s.rejected i
  | .caught => s.caught

end HonoWebSocket

/-- The runs of an adapter. -/
def honoSystem : System HonoWebSocket Step where
  init s := s = {}
  step := HonoWebSocket.step

-- ============================================================ the contract

namespace HonoWebSocket

/-- How many calls of `ws.close` by `close` have not returned. -/
def closesOn (stack : List Frame) : Nat :=
  stack.countP fun
    | .wsClose _ _ => true
    | _ => false

/-- The close events of a socket that `close` is not in the middle of: one
once it is closed, and another if `_handleClose` was called from within
`ws.close`. -/
def ClosesOnce (s : HonoWebSocket) : Prop :=
  closesOn s.stack = 0 →
    s.closeEvents.length
        = (if s.readyState = ReadyState.closed then 1 else 0) + s.reported
      ∧ s.reported ≤ 1

/-- What a run from `s` to `s'` keeps: the ready state goes no way back;
from closing on `send` passes nothing to the socket, and of the Blobs only
those that were being converted get there; and a closed socket raises no
further close event, unless `close` is in the middle of it. -/
structure InOrder (s s' : HonoWebSocket) : Prop where
  readyState : s.readyState.number ≤ s'.readyState.number
  toSocket : 2 ≤ s.readyState.number → s'.toSocket = s.toSocket
  late : 2 ≤ s.readyState.number →
    ∀ bytes, s'.late.count bytes + s'.blobs.count bytes
      ≤ s.late.count bytes + s.blobs.count bytes
  closeEvents : s.readyState = .closed → closesOn s.stack = 0 →
    s'.closeEvents = s.closeEvents

/-- The messages that a listener has been called with. -/
def heardBy (s : HonoWebSocket) (listener : Nat) : List Payload :=
  (s.heard.filter fun x => decide (x.1 = listener)).map (·.2)

/-- The message of a frame, with the loop that calls listeners with it. -/
def messageLoop : Frame → Option (Payload × Loop Nat)
  | .dispatch (.message data) loop _ => some (data, loop)
  | _ => none

/-- Those of a stack. -/
def messageLoops (stack : List Frame) : List (Payload × Loop Nat) :=
  stack.filterMap messageLoop

/-- No message is being dispatched. -/
def QuietMessages (s : HonoWebSocket) : Prop :=
  messageLoops s.stack = []

instance (s : HonoWebSocket) : Decidable s.QuietMessages :=
  inferInstanceAs (Decidable (messageLoops s.stack = []))

/-- The condition on a step: a message arrives only when no other is being
dispatched, and `listener` is not removed. -/
def Undisturbed (listener : Nat) (s : HonoWebSocket) : Step → Prop
  | .call (.handleMessage _) => s.QuietMessages
  | .call (.removeEventListener .message l) => l ≠ listener
  | _ => True

/-- The condition is decided on a state and a step. -/
def decidableUndisturbed (listener : Nat) (s : HonoWebSocket) :
    (a : Step) → Decidable (s.Undisturbed listener a)
  | .call (.handleMessage _) => inferInstanceAs (Decidable s.QuietMessages)
  | .call (.removeEventListener .message l) =>
      inferInstanceAs (Decidable (l ≠ listener))
  | .call (.removeEventListener .opened _)
  | .call (.removeEventListener .close _)
  | .call (.removeEventListener .error _)
  | .call (.removeEventListener (.other _) _) => .isTrue trivial
  | .call (.send _) | .call (.close _ _) | .call (.addEventListener _ _)
  | .call (.setProperty _ _) | .call (.dispatchEvent _)
  | .call (.handleClose _ _) | .call .handleError => .isTrue trivial
  | .ret | .throws | .internal | .timer | .converted _ | .rejected _
  | .caught => .isTrue trivial

instance (listener : Nat) (s : HonoWebSocket) (a : Step) :
    Decidable (s.Undisturbed listener a) := decidableUndisturbed listener s a

/-- A listener is registered for messages. -/
def Listens (s : HonoWebSocket) (listener : Nat) : Prop :=
  listener ∈ (s.eventListeners .message).elements

instance (s : HonoWebSocket) (listener : Nat) :
    Decidable (s.Listens listener) :=
  inferInstanceAs (Decidable (_ ∈ _))

end HonoWebSocket

end RivetKit.Manager
