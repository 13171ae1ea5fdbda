/-
`_broadcast` (actor/instance.ts), with the parts of sending a message that
are below it: `Conn._sendMessage` (actor/connection.ts), the generic
connection drivers (actor/generic-conn-driver.ts) and `CachedSerializer`
(actor/protocol/serde.ts).

# What a send comes to

`ws.send` sends the data or throws. `writeSSE` returns a promise that
nobody awaits: the event goes out or it does not. A connection without a
socket or a stream is logged and passed over, and the driver for HTTP
sends nothing. A send throws, too, when the message cannot be serialized
in the connection's encoding.

# The order

A `Set` is gone through in the order of its insertions. The index has the
last one first.
-/
import RivetKit.Actor.SubscriptionIndex
import RivetKit.Lib.Base64
import RivetKit.Protocol.Serde

namespace RivetKit.Actor

open Js
open Protocol

-- =========================================================== serialization

/-- `encodeDataToString`. -/
def encodeDataToString : OutputData → String
  | .text s => s
  | .binary bytes => String.ofList (Base64.encode bytes)

/-- `CachedSerializer`. -/
structure CachedSerializer where
  data : Value
  cache : List (Encoding × OutputData) := []

/-- `state.encoding`; with another value, serialization throws. -/
def driverStateEncoding (state : Value) : Option Encoding :=
  match state.member "encoding" with
  | .str "json" => some .json
  | .str "cbor" => some .cbor
  | .str "bare" => some .bare
  | _ => none

/-- cbor-x and the generated code, and what the sockets and the streams of
`GenericConnGlobalState` do with data: whether `send` returns, and whether
`writeSSE` writes. -/
structure ConnContext where
  platform : Platform
  bare : GeneratedCode
  websockets : String → Option (OutputData → Bool)
  sseStreams : String → Option (String → Bool)

section

variable (ctx : ConnContext)

/-- `serialize`, or `none` where it throws. -/
def CachedSerializer.serialize (message : CachedSerializer)
    (encoding : Encoding) : Option (OutputData × CachedSerializer) :=
  match message.cache.lookup encoding with
  | some cached => some (cached, message)
  | none =>
      match serializeWithEncoding ctx.platform encoding message.data
          (toClientVersioned ctx.bare) with
      | some serialized =>
          some (serialized, { message with
            cache := (encoding, serialized) :: message.cache })
      | none => none

-- ============================================================== one message

/-- What a send comes to. -/
inductive SendOutcome
  | sent (data : OutputData)
  | unsent
  | threw
  deriving DecidableEq

/-- `sendMessage` of the WebSocket driver. -/
def webSocketSendMessage (conn : PersistedConn)
    (message : CachedSerializer) : SendOutcome × CachedSerializer :=
  match ctx.websockets conn.connId with
  | none => (.unsent, message)
  | some send =>
      match (driverStateEncoding conn.connDriverState).bind
          (message.serialize ctx) with
      | some (serialized, message) =>
          (if send serialized then .sent serialized else .threw, message)
      | none => (.threw, message)

/-- `sendMessage` of the SSE driver. -/
def sseSendMessage (conn : PersistedConn)
    (message : CachedSerializer) : SendOutcome × CachedSerializer :=
  match ctx.sseStreams conn.connId with
  | none => (.unsent, message)
  | some writeSSE =>
      match (driverStateEncoding conn.connDriverState).bind
          (message.serialize ctx) with
      | some (serialized, message) =>
          let data := encodeDataToString serialized
          (if writeSSE data then .sent (.text data) else .unsent, message)
      | none => (.threw, message)

/-- `Conn._sendMessage`. -/
def connSendMessage (conn : PersistedConn) (message : CachedSerializer) :
    SendOutcome × CachedSerializer :=
  match conn.connDriver with
  | .webSocket => webSocketSendMessage ctx conn message
  | .sse => sseSendMessage ctx conn message
  | .http => (.unsent, message)

-- ============================================================ the broadcast

namespace LiveInstance

/-- `__persist` of the `Conn` object `c`. -/
def persistOf (s : LiveInstance) (c : Nat) : Option PersistedConn :=
  s.conns[c]?.bind fun conn => s.persistRaw.connObjects[conn.persist]?

/-- `_sendMessage` of the `Conn` object `c`. -/
def sendMessage (s : LiveInstance) (c : Nat) (message : CachedSerializer) :
    SendOutcome × CachedSerializer :=
  match s.persistOf c with
  | some conn => connSendMessage ctx conn message
  | none => (.unsent, message)

/-- The loop: what was sent to whom, and whether it came to its end. -/
def sendAll (s : LiveInstance) : List Nat → CachedSerializer →
    List (Nat × OutputData) × Bool
  | [], _ => ([], true)
  | c :: cs, message =>
      match s.sendMessage ctx c message with
      | (.threw, _) => ([], false)
      | (.unsent, message) => s.sendAll cs message
      | (.sent data, message) =>
          let (sent, returned) := s.sendAll cs message
          ((c, data) :: sent, returned)

/-- The serializer of an event, around the encoded arguments. -/
def eventSerializer (name : String) (args : List UInt8) :
    CachedSerializer :=
  { data := ToClient.toValue { body := .event { name, args } } }

/-- What a broadcast leaves, sends, and whether it returns. -/
structure BroadcastResult where
  actor : LiveInstance
  sent : List (Nat × OutputData) := []
  returned : Bool := false

/-- `_broadcast`. -/
def broadcast (s : LiveInstance) (name : String) (args : List Value) :
    BroadcastResult :=
  if s.assertReady false then
    match s.subscriptionIndex.lookup name with
    | none => { actor := s, returned := true }
    | some subscriptions =>
        match ctx.platform.cborEncode (.arr args) with
        | none => { actor := s }
        | some args =>
            -- Send message to clients
            let (sent, returned) := s.sendAll ctx subscriptions.reverse
              (eventSerializer name args)
            { actor := s, sent := sent, returned := returned }
  else { actor := s }

-- ============================================================= the property

/-- What sending the event to the `Conn` object `c` comes to, by itself. An
event whose arguments cannot be encoded is sent to nobody. -/
def sendOutcome (s : LiveInstance) (name : String) (args : List Value)
    (c : Nat) : SendOutcome :=
  match ctx.platform.cborEncode (.arr args) with
  | some args => (s.sendMessage ctx c (eventSerializer name args)).1
  | none => .threw

/-- The broadcast sends the event to every subscriber that it can be sent
to, to no other connection and to none twice, and changes nothing. -/
structure Isolated (s : LiveInstance) (name : String)
    (args : List Value) : Prop where
  all : ∀ c ∈ s.subscribers name, ∀ data,
    s.sendOutcome ctx name args c = .sent data →
      (c, data) ∈ (s.broadcast ctx name args).sent
  only : ∀ c data, (c, data) ∈ (s.broadcast ctx name args).sent →
    c ∈ s.subscribers name ∧ s.sendOutcome ctx name args c = .sent data
  once : ((s.broadcast ctx name args).sent.map (·.1)).Nodup
  unchanged : (s.broadcast ctx name args).actor = s

/-- The condition: where a subscriber can be sent the event, the actor is
ready, and no send to one that subscribed earlier throws. -/
def Undisturbed (s : LiveInstance) (name : String) (args : List Value) :
    Prop :=
  ∀ earlier c later data,
    (s.subscribers name).reverse = earlier ++ c :: later →
    s.sendOutcome ctx name args c = .sent data →
      s.assertReady false = true
        ∧ ∀ d ∈ earlier, s.sendOutcome ctx name args d ≠ .threw

end LiveInstance

end

end RivetKit.Actor
