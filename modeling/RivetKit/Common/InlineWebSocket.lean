/-
`InlineWebSocketAdapter2` (common/inline-websocket-adapter2.ts): a
WebSocket whose other end is an `UpgradeWebSocketArgs` handler in the same
process.

Every call of one end runs code of the other in the middle of it, and that
code may call back. The state has the stack of what has been called and has
not returned: functions of the user (the handler's, listeners, property
handlers) and, between them, the parts of the adapter that go on when such
a function returns. While a function of the user is on top, or the stack is
empty, anything may be called, from both ends; `internal` is a step of the
adapter. A handler that suspends has returned, and goes on later at an
empty stack.

Listeners and property handlers are functions, which a number stands for.
Each listener list is one array, and `#dispatchEvent` goes through it by
index while it changes. Logging is left out.

# History

Messages of the server are numbered, with the ready state they were sent
in. `sent`, `received`, `opens`, `onMessages`, `closeEvents`, `onCloses` and
`closures` list what was sent, passed to a listener or property handler,
raised and called. `before` is how many of the message listeners were there
before the `onmessage` property, `toFirst` the messages that were passed to
whichever was registered first when their dispatch began, and `dispatched`
the loops that have ended: each has who was registered when it began, who
was removed before its turn, and who was called. No branch reads them.
-/
import RivetKit.Lib.System

namespace RivetKit.Common

open Transition

-- =============================================================== the data

/-- `readyState`. -/
inductive ReadyState
  | connecting
  | opened
  | closing
  | closed
  deriving DecidableEq

/-- The number that `readyState` is. -/
def ReadyState.number : ReadyState → Nat
  | .connecting => 0
  | .opened => 1
  | .closing => 2
  | .closed => 3

/-- The type of an event. -/
inductive EventType
  | opened
  | close
  | error
  | message
  | other (name : String)
  deriving DecidableEq

/-- A message of the server. -/
structure Message (α : Type) where
  seq : Nat
  sentAt : ReadyState
  data : α
  deriving DecidableEq

/-- A close event, as `handler.onClose` and the listeners get it. -/
structure CloseEvent where
  code : Nat
  reason : String
  wasClean : Bool
  deriving DecidableEq

/-- What an error event is about. -/
inductive SocketError
  /-- A `send` while the socket is not open. -/
  | notOpen
  /-- What `handler.onOpen` threw. -/
  | thrown
  deriving DecidableEq

/-- An event; `custom` is one that was passed to `dispatchEvent`. -/
inductive Event (α : Type)
  | opened
  | close (event : CloseEvent)
  | error (cause : SocketError)
  | message (m : Message α)
  | custom (type : EventType)
  deriving DecidableEq

/-- Its `type`, under which it is always dispatched. -/
def Event.type {α : Type} : Event α → EventType
  | .opened => .opened
  | .close _ => .close
  | .error _ => .error
  | .message _ => .message
  | .custom type => type

/-- An entry of `#bufferedEvents`. `seen` says that a property handler has
got the event. -/
structure BufferedEvent (α : Type) where
  event : Event α
  seen : Bool
  deriving DecidableEq

/-- The loop of `#dispatchEvent`: the next index, and its history. -/
structure Dispatch (α : Type) where
  event : Event α
  index : Nat := 0
  registered : List Nat
  removed : List Nat := []
  called : List Nat := []
  toProperty : Bool
  deriving DecidableEq

/-- What is on the stack. -/
inductive Frame (α : Type)
  /-- `handler.onOpen`, which `#initialize` called. -/
  | onOpen
  /-- `handler.onMessage`, which `send` called. -/
  | onMessage
  /-- `handler.onClose`, which `close` called. -/
  | onClose (code : Nat) (reason : String)
  /-- A listener or property handler, which `#dispatchEvent` called. -/
  | listener
  | dispatch (d : Dispatch α)
  /-- The loop of `#flushBufferedEvents` over `eventsToFlush`. -/
  | flush (events : List (Event α))
  /-- `#initialize` behind `#fireOpen`. -/
  | opened
  /-- The loop of `#initialize` over `messagesToProcess`. -/
  | queued (messages : List (Message α))
  /-- The `catch` of `#initialize` behind `#fireError`. -/
  | failed
  deriving DecidableEq

/-- The adapter. -/
structure InlineWebSocket (α : Type) where
  readyState : ReadyState := .connecting
  queuedMessages : List (Message α) := []
  bufferedEvents : List (BufferedEvent α) := []
  eventListeners : EventType → List Nat := fun _ => []
  /-- `#onopen`, `#onclose`, `#onerror` and `#onmessage`. -/
  properties : EventType → Option Nat := fun _ => none
  stack : List (Frame α) := []
  sent : List (Message α) := []
  received : List (Message α) := []
  toFirst : List (Message α) := []
  before : Nat := 0
  dispatched : List (Dispatch α) := []
  opens : Nat := 0
  onMessages : Nat := 0
  closeEvents : List CloseEvent := []
  onCloses : List CloseEvent := []
  closures : List (Nat × String) := []

/-- What either end can call. -/
inductive SocketOp (α : Type)
  | send
  | close (code : Option Nat) (reason : Option String)
  | addEventListener (type : EventType) (listener : Nat)
  | removeEventListener (type : EventType) (listener : Nat)
  /-- An assignment of `onopen`, `onclose`, `onerror` or `onmessage`. -/
  | setProperty (type : EventType) (handler : Option Nat)
  | dispatchEvent (type : EventType)
  /-- `wsContext.send`. -/
  | wsSend (data : α)
  /-- `wsContext.close`. -/
  | wsClose (code : Option Nat) (reason : Option String)

/-- The steps. -/
inductive SocketStep (α : Type)
  | op (o : SocketOp α)
  /-- The function on top returns. -/
  | ret
  /-- The function on top throws. -/
  | throws
  /-- The adapter goes on. -/
  | internal

namespace InlineWebSocket

variable {α : Type}

-- ============================================================== dispatch

/-- A listener or property handler is called with an event. -/
def receive (event : Event α) (first : Bool) (s : InlineWebSocket α) :
    InlineWebSocket α :=
  match event with
  | .message m =>
      { s with
        received := s.received ++ [m]
        toFirst := if first then s.toFirst ++ [m] else s.toFirst }
  | _ => s

/-- The end of `#dispatchEvent`: the `on…` property. -/
def callProperty (event : Event α) (first : Bool)
    (s : InlineWebSocket α) : InlineWebSocket α :=
  match s.properties event.type with
  | none => s
  | some _ => { s with stack := .listener :: s.stack }.receive event first

/-- `#dispatchEvent`. -/
def dispatchEvent (event : Event α) (s : InlineWebSocket α) :
    InlineWebSocket α :=
  match s.eventListeners event.type with
  | [] =>
      { s with
        bufferedEvents := s.bufferedEvents
          ++ [BufferedEvent.mk event (s.properties event.type).isSome]
        }.callProperty event true
  | l :: ls =>
      let d : Dispatch α :=
        { event
          registered := l :: ls
          toProperty := (s.properties event.type).isSome
            && decide (s.before = 0) }
      { s with stack := .dispatch d :: s.stack }

/-- The loop of `#dispatchEvent` goes on. -/
def dispatchLoop (d : Dispatch α) (rest : List (Frame α))
    (s : InlineWebSocket α) : InlineWebSocket α :=
  match (s.eventListeners d.event.type)[d.index]? with
  | some l =>
      { s with
        stack := .listener :: .dispatch { d with
          index := d.index + 1
          called := d.called ++ [l] } :: rest }.receive d.event
        (decide (d.index = 0) && !d.toProperty)
  | none =>
      { s with
        stack := rest
        dispatched := s.dispatched ++ [d] }.callProperty
        d.event d.toProperty

/-- The events of a type among the buffered. -/
def eventsOf (type : EventType) (events : List (BufferedEvent α)) :
    List (Event α) :=
  (events.map (·.event)).filter fun event => decide (event.type = type)

/-- `addEventListener`, up to the loop of `#flushBufferedEvents`. -/
def addEventListener (type : EventType) (listener : Nat)
    (s : InlineWebSocket α) : InlineWebSocket α :=
  { s with
    eventListeners := fun t =>
      if t = type then s.eventListeners t ++ [listener]
      else s.eventListeners t
    bufferedEvents := s.bufferedEvents.filter fun b => decide (b.event.type ≠ type)
    stack := .flush (eventsOf type s.bufferedEvents) :: s.stack }

/-- A loop has one listener less that is to get its event. -/
def Dispatch.remove (type : EventType) (listener : Nat) (d : Dispatch α) :
    Dispatch α :=
  if d.event.type = type ∧ listener ∉ d.called then
    { d with removed := d.removed ++ [listener] }
  else d

/-- What `removeEventListener` is to the history of a frame. -/
def removeFrame (type : EventType) (listener : Nat) : Frame α → Frame α
  | .dispatch d => .dispatch (Dispatch.remove type listener d)
  | f => f

/-- `removeEventListener`: `indexOf` and `splice`. -/
def removeEventListener (type : EventType) (listener : Nat)
    (s : InlineWebSocket α) : InlineWebSocket α :=
  if listener ∈ s.eventListeners type then
    { s with
      eventListeners := fun t =>
        if t = type then (s.eventListeners t).erase listener
        else s.eventListeners t
      stack := s.stack.map (removeFrame type listener)
      before :=
        if type = .message
            ∧ (s.eventListeners type).idxOf listener < s.before then
          s.before - 1
        else s.before }
  else s

/-- The setter of an `on…` property. -/
def setProperty (type : EventType) (handler : Option Nat)
    (s : InlineWebSocket α) : InlineWebSocket α :=
  match type with
  | .other _ => s
  | _ =>
      { s with
        properties := fun t => if t = type then handler else s.properties t
        before :=
          if type = .message then (s.eventListeners type).length
          else s.before }

-- ============================================================== the ends

/-- `#handleMessage`. -/
def handleMessage (m : Message α) (s : InlineWebSocket α) :
    InlineWebSocket α :=
  if s.readyState ≠ .opened then
    { s with queuedMessages := s.queuedMessages ++ [m] }
  else s.dispatchEvent (.message m)

/-- A close event is raised. -/
def raiseClose (code : Nat) (reason : String) (s : InlineWebSocket α) :
    InlineWebSocket α :=
  let event : CloseEvent := ⟨code, reason, decide (code = 1000)⟩
  { s with closeEvents := s.closeEvents ++ [event] }.dispatchEvent
    (.close event)

/-- `#handleClose`. -/
def handleClose (code : Nat) (reason : String) (s : InlineWebSocket α) :
    InlineWebSocket α :=
  if s.readyState = .closed then s
  else { s with readyState := .closed }.raiseClose code reason

/-- `close`, up to the call of `handler.onClose`. -/
def close (code : Nat) (reason : String) (s : InlineWebSocket α) :
    InlineWebSocket α :=
  if s.readyState = .closed ∨ s.readyState = .closing then s
  else
    { s with
      readyState := .closing
      stack := .onClose code reason :: s.stack
      onCloses := s.onCloses ++ [⟨code, reason, true⟩] }

/-- `close` behind `handler.onClose`. -/
def closeFinally (code : Nat) (reason : String) (s : InlineWebSocket α) :
    InlineWebSocket α :=
  { s with readyState := .closed }.raiseClose code reason

/-- `send`. -/
def send (s : InlineWebSocket α) : InlineWebSocket α :=
  if s.readyState ≠ .opened then s.dispatchEvent (.error .notOpen)
  else
    { s with
      stack := .onMessage :: s.stack
      onMessages := s.onMessages + 1 }

/-- `wsContext.send`. -/
def wsSend (data : α) (s : InlineWebSocket α) : InlineWebSocket α :=
  let m : Message α := ⟨s.sent.length, s.readyState, data⟩
  { s with sent := s.sent ++ [m] }.handleMessage m

/-- `code || 1000`. -/
def closeCode (code : Option Nat) : Nat :=
  match code with
  | none | some 0 => 1000
  | some code => code

/-- A call of an end. -/
def call (s : InlineWebSocket α) : SocketOp α → InlineWebSocket α
  | .send => s.send
  | .close code reason =>
      let code := code.getD 1000
      let reason := reason.getD ""
      { s with closures := s.closures ++ [(code, reason)] }.close
        code reason
  | .addEventListener type listener => s.addEventListener type listener
  | .removeEventListener type listener =>
      s.removeEventListener type listener
  | .setProperty type handler => s.setProperty type handler
  | .dispatchEvent type => s.dispatchEvent (.custom type)
  | .wsSend data => s.wsSend data
  | .wsClose code reason =>
      let code := closeCode code
      let reason := reason.getD ""
      { s with closures := s.closures ++ [(code, reason)] }.handleClose
        code reason

-- =============================================================== the step

/-- Whether a function of the user is on top, or nothing is. -/
def userOnTop : List (Frame α) → Bool
  | [] | .onOpen :: _ | .onMessage :: _ | .onClose _ _ :: _
  | .listener :: _ => true
  | _ => false

/-- The function on top returns. -/
def ret (s : InlineWebSocket α) : Option (InlineWebSocket α) :=
  match s.stack with
  | .onOpen :: rest =>
      some ({ s with
        stack := .opened :: rest
        readyState := .opened
        opens := s.opens + 1 }.dispatchEvent .opened)
  | .onClose code reason :: rest =>
      some ({ s with stack := rest }.closeFinally code reason)
  | .onMessage :: rest | .listener :: rest =>
      some { s with stack := rest }
  | _ => none

/-- The function on top throws: only `handler.onOpen` makes a difference,
and what `handler.onMessage` throws the caller of `send` gets. -/
def throws (s : InlineWebSocket α) : Option (InlineWebSocket α) :=
  match s.stack with
  | .onOpen :: rest =>
      some ({ s with stack := .failed :: rest }.dispatchEvent
        (.error .thrown))
  | _ => s.ret

/-- The adapter goes on. -/
def internal (s : InlineWebSocket α) : Option (InlineWebSocket α) :=
  match s.stack with
  | .dispatch d :: rest => some (s.dispatchLoop d rest)
  | .flush [] :: rest => some { s with stack := rest }
  | .flush (event :: events) :: rest =>
      some ({ s with stack := .flush events :: rest }.dispatchEvent event)
  | .opened :: rest =>
      if s.queuedMessages = [] ∨ s.readyState ≠ .opened then
        some { s with stack := rest }
      else
        some { s with
          stack := .queued s.queuedMessages :: rest
          queuedMessages := [] }
  | .queued [] :: rest => some { s with stack := rest }
  | .queued (m :: ms) :: rest =>
      some ({ s with stack := .queued ms :: rest }.handleMessage m)
  | .failed :: rest =>
      let reason := "Internal error during initialization"
      some ({ s with
        stack := rest
        closures := s.closures ++ [(1011, reason)] }.close 1011 reason)
  | _ => none

/-- One step, where it can happen. -/
def step (s : InlineWebSocket α) : SocketStep α → Option (InlineWebSocket α)
  | .op o => if userOnTop s.stack then some (s.call o) else none
  | .ret => s.ret
  | .throws => s.throws
  | .internal => s.internal

/-- An adapter whose constructor has called `#initialize`, and that
`handler.onOpen`. -/
def constructed : InlineWebSocket α := { stack := [.onOpen] }

end InlineWebSocket

/-- The runs of an adapter. -/
def inlineSystem (α : Type) : System (InlineWebSocket α) (SocketStep α) where
  init s := s = .constructed
  step := InlineWebSocket.step

-- ============================================================ the contract

namespace InlineWebSocket

variable {α : Type}

/-- What a run from `s` to `s'` keeps: the ready state goes no way back, and
from closing on no open event is raised, `handler.onMessage` is not called
and no message that is sent from now on is delivered. -/
structure InOrder (s s' : InlineWebSocket α) : Prop where
  readyState : s.readyState.number ≤ s'.readyState.number
  opens : 2 ≤ s.readyState.number → s'.opens = s.opens
  onMessages : 2 ≤ s.readyState.number → s'.onMessages = s.onMessages
  received : 2 ≤ s.readyState.number →
    ∀ m ∈ s'.received, m.seq < s.sent.length

/-- Whether `handler.onOpen` is on top. -/
def onOpenOnTop : List (Frame α) → Bool
  | .onOpen :: _ => true
  | _ => false

/-- The condition on a step: where `handler.onOpen` returns, nothing has
closed the socket in it. -/
def StillOpening (s : InlineWebSocket α) : SocketStep α → Prop
  | .ret => onOpenOnTop s.stack = true → s.readyState = .connecting
  | _ => True

instance (s : InlineWebSocket α) (a : SocketStep α) :
    Decidable (s.StillOpening a) :=
  match a with
  | .ret => inferInstanceAs (Decidable (_ → s.readyState = .connecting))
  | .op _ | .throws | .internal => .isTrue trivial

-- =========================================================== the delivery

/-- The messages of an event. -/
def messagesOf : Event α → List (Message α)
  | .message m => [m]
  | _ => []

/-- Those that were sent while the socket was open. -/
def openOnes (ms : List (Message α)) : List (Message α) :=
  ms.filter fun m => decide (m.sentAt = .opened)

/-- Messages that are buffered and that nobody has got. -/
def waiting (s : InlineWebSocket α) : List (Message α) :=
  openOnes ((s.bufferedEvents.filter fun b => !b.seen).flatMap
    fun b => messagesOf b.event)

/-- Everyone who was registered when a loop began, and was not removed
before its turn, has been called once. -/
def Fair (d : Dispatch α) : Prop :=
  ∀ l ∈ d.registered, l ∉ d.removed → d.called.count l = 1

/-- What is to hold of the messages that the server sends while the socket
is open: with nothing on the stack, those that were passed to whoever was
registered first when they were dispatched are, in this order, the ones
that were sent, up to those that wait in the buffer; and none waits if
someone is registered. And no loop passes over or repeats a listener. -/
structure Delivers (s : InlineWebSocket α) : Prop where
  inOrder : s.stack = [] →
    openOnes s.toFirst ++ s.waiting = openOnes s.sent
  handled : s.stack = [] →
    s.eventListeners .message ≠ [] ∨ s.properties .message ≠ none →
      s.waiting = []
  fair : ∀ d ∈ s.dispatched, messagesOf d.event ≠ [] → Fair d

/-- The messages of a frame that whoever was registered first is still to
get. -/
def pendingIn : Frame α → List (Message α)
  | .dispatch d =>
      if d.toProperty = true ∨ d.index = 0 then openOnes (messagesOf d.event)
      else []
  | .flush events => openOnes (events.flatMap messagesOf)
  | _ => []

/-- A listener that is added behind the others does not get the message of
a loop again: it is behind the loop's end, or has no turn in it. -/
def MayAdd (listeners : List Nat) (listener : Nat) : Frame α → Prop
  | .dispatch d =>
      messagesOf d.event ≠ [] → d.index ≤ listeners.length →
        listener ∈ d.registered → listener ∈ d.removed
  | _ => True

/-- The listener that moves into the place of one that has had its turn,
where the loop has been, is none that is still to get the message. -/
def MayRemove (listeners : List Nat) (listener : Nat) : Frame α → Prop
  | .dispatch d =>
      messagesOf d.event ≠ [] → listeners.idxOf listener < d.index →
        ∀ l ∈ listeners[d.index]?, l ∈ d.registered → l ∈ d.removed
  | _ => True

/-- The property handler was not registered first in a loop that goes
on. -/
def MayAssign : Frame α → Prop
  | .dispatch d =>
      openOnes (messagesOf d.event) ≠ [] → d.toProperty = false
  | _ => True

/-- The condition on a step. A listener for messages is added only if it is
not registered, with no message in the buffer that a property handler has
got, and not so that a loop reaches it again; one is removed only where no
loop passes over another; the `onmessage` property gets a handler only with
no message in the buffer, and keeps it while it is to get a message that it
was registered first for; and the server sends only while no earlier
message is still to be passed to whoever was registered first, from a flush
or to that property. -/
def Undisturbed (s : InlineWebSocket α) : SocketStep α → Prop
  | .op (.addEventListener .message listener) =>
      listener ∉ s.eventListeners .message
        ∧ (∀ b ∈ s.bufferedEvents, b.seen = true →
            openOnes (messagesOf b.event) = [])
        ∧ ∀ f ∈ s.stack, MayAdd (s.eventListeners .message) listener f
  | .op (.removeEventListener .message listener) =>
      ∀ f ∈ s.stack, MayRemove (s.eventListeners .message) listener f
  | .op (.setProperty .message handler) =>
      (handler ≠ none → s.waiting = []) ∧ ∀ f ∈ s.stack, MayAssign f
  | .op (.wsSend _) =>
      s.readyState = .opened → ∀ f ∈ s.stack, pendingIn f = []
  | _ => True

instance (event : Event α) : Decidable (messagesOf event = []) :=
  match event with
  | .message _ => .isFalse (List.cons_ne_nil _ _)
  | .opened | .close _ | .error _ | .custom _ => .isTrue rfl

instance (ms : List (Message α)) : Decidable (openOnes ms = []) :=
  decidable_of_iff ((openOnes ms).isEmpty = true) List.isEmpty_iff

instance (listeners : List Nat) (listener : Nat) (f : Frame α) :
    Decidable (MayAdd listeners listener f) :=
  match f with
  | .dispatch d =>
      inferInstanceAs (Decidable (messagesOf d.event ≠ [] → _ → _ → _))
  | .onOpen | .onMessage | .onClose _ _ | .listener | .flush _ | .opened
  | .queued _ | .failed => .isTrue trivial

instance (listeners : List Nat) (listener : Nat) (f : Frame α) :
    Decidable (MayRemove listeners listener f) :=
  match f with
  | .dispatch d =>
      inferInstanceAs (Decidable (messagesOf d.event ≠ [] → _ →
        ∀ l ∈ listeners[d.index]?, _))
  | .onOpen | .onMessage | .onClose _ _ | .listener | .flush _ | .opened
  | .queued _ | .failed => .isTrue trivial

instance (f : Frame α) : Decidable (MayAssign f) :=
  match f with
  | .dispatch d =>
      inferInstanceAs (Decidable (openOnes (messagesOf d.event) ≠ [] → _))
  | .onOpen | .onMessage | .onClose _ _ | .listener | .flush _ | .opened
  | .queued _ | .failed => .isTrue trivial

instance (s : InlineWebSocket α) : Decidable (s.waiting = []) :=
  inferInstanceAs (Decidable (openOnes _ = []))

instance (f : Frame α) : Decidable (pendingIn f = []) :=
  decidable_of_iff ((pendingIn f).isEmpty = true) List.isEmpty_iff

/-- The condition is decided on a state and a step. -/
def decidableUndisturbed (s : InlineWebSocket α) :
    (a : SocketStep α) → Decidable (s.Undisturbed a)
  | .op (.addEventListener .message _) =>
      inferInstanceAs (Decidable (_ ∉ s.eventListeners .message
        ∧ (∀ b ∈ s.bufferedEvents, b.seen = true →
          openOnes (messagesOf b.event) = []) ∧ ∀ f ∈ s.stack, MayAdd _ _ f))
  | .op (.removeEventListener .message _) =>
      inferInstanceAs (Decidable (∀ f ∈ s.stack, MayRemove _ _ f))
  | .op (.setProperty .message _) =>
      inferInstanceAs (Decidable ((_ ≠ none → s.waiting = [])
        ∧ ∀ f ∈ s.stack, MayAssign f))
  | .op (.wsSend _) =>
      inferInstanceAs (Decidable (s.readyState = .opened →
        ∀ f ∈ s.stack, pendingIn f = []))
  | .op .send | .op (.close _ _) | .op (.dispatchEvent _)
  | .op (.wsClose _ _) | .ret | .throws | .internal => .isTrue trivial
  | .op (.addEventListener .opened _) | .op (.addEventListener .close _)
  | .op (.addEventListener .error _)
  | .op (.addEventListener (.other _) _) => .isTrue trivial
  | .op (.removeEventListener .opened _)
  | .op (.removeEventListener .close _)
  | .op (.removeEventListener .error _)
  | .op (.removeEventListener (.other _) _) => .isTrue trivial
  | .op (.setProperty .opened _) | .op (.setProperty .close _)
  | .op (.setProperty .error _)
  | .op (.setProperty (.other _) _) => .isTrue trivial

instance (s : InlineWebSocket α) (a : SocketStep α) :
    Decidable (s.Undisturbed a) := decidableUndisturbed s a

end InlineWebSocket

end RivetKit.Common
