/-
The persisted record (actor/persisted.ts), its BARE form
(actor-persist/v1.bare) and `#convertToBarePersisted`
(actor/instance.ts).

# Objects

A connection's `PersistedConn` is one object with two holders: the
`connections` list of the record and the `Conn` that serves it. The
record therefore keeps the objects in `connObjects`, by allocation, and
the list holds references. A removed connection's object stays where it
is, reachable from its `Conn` and no longer from the list.

# What conversion can reject

`BigInt(x)` throws on a number that is not an integer, so conversion is
partial; `lastSeen` and every `timestamp` go through it. cbor-x and the
generated BARE encoder are parameters (`Codec`).
-/
import RivetKit.Lib.Js

namespace RivetKit.Actor

open Js

/-- The bytes of an `ArrayBuffer`. -/
abbrev Bytes := List UInt8

-- ========================================================= the record

/-- `ConnectionDriver`. -/
inductive ConnectionDriver
  | webSocket
  | sse
  | http
  deriving DecidableEq

/-- `connDriver as string`. -/
def ConnectionDriver.toString : ConnectionDriver → String
  | .webSocket => "webSocket"
  | .sse => "sse"
  | .http => "http"

/-- `PersistedConn`. A subscription is its event name. -/
structure PersistedConn where
  connId : String
  token : String
  connDriver : ConnectionDriver
  connDriverState : Value
  params : Value
  state : Value
  authData : Value
  subscriptions : List String
  lastSeen : Number

/-- `PersistedScheduleEventKind`. -/
inductive PersistedScheduleEventKind
  | generic (actionName : String) (args : Option Bytes)
  deriving DecidableEq

/-- `PersistedScheduleEvent`. -/
structure PersistedScheduleEvent where
  eventId : String
  timestamp : Number
  kind : PersistedScheduleEventKind
  deriving DecidableEq

/-- `PersistedActor`, with the objects its `connections` refer to. -/
structure PersistedActor where
  input : Value := .undefined
  hasInitiated : Bool := false
  state : Value := .undefined
  connObjects : List PersistedConn := []
  connections : List Nat := []
  scheduledEvents : List PersistedScheduleEvent := []

namespace PersistedActor

/-- Modify the object `ref`. -/
def modifyConn (p : PersistedActor) (ref : Nat)
    (f : PersistedConn → PersistedConn) : PersistedActor :=
  { p with connObjects := p.connObjects.modify ref f }

/-- Allocate an object. -/
def allocConn (p : PersistedActor) (conn : PersistedConn) :
    PersistedActor :=
  { p with connObjects := p.connObjects ++ [conn] }

end PersistedActor

-- ====================================================== the BARE form

/-- `bareSchema.PersistedConnection`. -/
structure BarePersistedConnection where
  id : String
  token : String
  driver : String
  driverState : Bytes
  parameters : Bytes
  state : Bytes
  auth : Option Bytes
  subscriptions : List String
  lastSeen : Int
  deriving DecidableEq

/-- `bareSchema.PersistedScheduleEvent`. -/
structure BarePersistedScheduleEvent where
  eventId : String
  timestamp : Int
  kind : PersistedScheduleEventKind
  deriving DecidableEq

/-- `bareSchema.PersistedActor`. -/
structure BarePersistedActor where
  input : Option Bytes
  hasInitialized : Bool
  state : Bytes
  connections : List BarePersistedConnection
  scheduledEvents : List BarePersistedScheduleEvent
  deriving DecidableEq

/-- The encoders of a record: `cbor.encode`, and whether
`PERSISTED_ACTOR_VERSIONED.serializeWithEmbeddedVersion` returns. -/
structure Codec where
  cborEncode : Value → Bytes
  serializes : BarePersistedActor → Bool

-- ========================================================= conversion

/-- `v !== undefined ? bufferToArrayBuffer(cbor.encode(v)) : null`. -/
def encodeDefined (cborEncode : Value → Bytes) (v : Value) : Option Bytes :=
  if v.isDefined then some (cborEncode v) else none

/-- One element of `connections` in `#convertToBarePersisted`. -/
def PersistedConn.toBare (codec : Codec) (conn : PersistedConn) :
    Option BarePersistedConnection := do
  let lastSeen ← conn.lastSeen.toBigInt
  return { id := conn.connId
           token := conn.token
           driver := conn.connDriver.toString
           driverState := codec.cborEncode (conn.connDriverState.or (.obj []))
           parameters := codec.cborEncode (conn.params.or (.obj []))
           state := codec.cborEncode (conn.state.or (.obj []))
           auth := encodeDefined codec.cborEncode conn.authData
           subscriptions := conn.subscriptions
           lastSeen := lastSeen }

/-- One element of `scheduledEvents` in `#convertToBarePersisted`. -/
def PersistedScheduleEvent.toBare (event : PersistedScheduleEvent) :
    Option BarePersistedScheduleEvent := do
  let timestamp ← event.timestamp.toBigInt
  return { eventId := event.eventId
           timestamp := timestamp
           kind := event.kind }

/-- The objects the record's `connections` refer to. -/
def PersistedActor.connectionObjects (p : PersistedActor) :
    List PersistedConn :=
  p.connections.filterMap (p.connObjects[·]?)

/-- `#convertToBarePersisted`. -/
def convertToBarePersisted (codec : Codec) (persist : PersistedActor) :
    Option BarePersistedActor := do
  let connections ← persist.connectionObjects.mapM (·.toBare codec)
  let scheduledEvents ← persist.scheduledEvents.mapM (·.toBare)
  return { input := encodeDefined codec.cborEncode persist.input
           hasInitialized := persist.hasInitiated
           state := codec.cborEncode persist.state
           connections := connections
           scheduledEvents := scheduledEvents }

/-- The argument of `driver.writePersistedData` can be computed:
conversion, then serialization, throw nothing. -/
def encodes (codec : Codec) (persist : PersistedActor) : Bool :=
  (convertToBarePersisted codec persist).any codec.serializes

-- ==================================================== the empty record

/-- The encoders of `serializeEmptyPersistData`: `cbor.encode` and
`PERSISTED_ACTOR_VERSIONED.serializeWithEmbeddedVersion`. -/
structure Serializer where
  cborEncode : Value → Bytes
  serialize : BarePersistedActor → Bytes

/-- The record `serializeEmptyPersistData` (driver-helpers/utils.ts)
serializes. -/
def emptyPersistData (cborEncode : Value → Bytes) (input : Value) :
    BarePersistedActor :=
  { input := encodeDefined cborEncode input
    hasInitialized := false
    state := cborEncode .undefined
    connections := []
    scheduledEvents := [] }

/-- `serializeEmptyPersistData`. -/
def serializeEmptyPersistData (ser : Serializer) (input : Value) : Bytes :=
  ser.serialize (emptyPersistData ser.cborEncode input)

-- ======================================================== the metadata

/-- A connection as converted, `lastSeen` aside. -/
def BarePersistedConnection.dropLastSeen (conn : BarePersistedConnection) :
    BarePersistedConnection :=
  { conn with lastSeen := 0 }

/-- The connections and scheduled events of a converted record. -/
def BarePersistedActor.metadata (bare : BarePersistedActor) :
    List BarePersistedConnection × List BarePersistedScheduleEvent :=
  (bare.connections.map (·.dropLastSeen), bare.scheduledEvents)

/-- The connections and scheduled events that converting the record
encodes. -/
def metadata (codec : Codec) (persist : PersistedActor) :
    Option (List BarePersistedConnection × List BarePersistedScheduleEvent) :=
  (convertToBarePersisted codec persist).map (·.metadata)

/-- The metadata does not depend on the user state. -/
theorem metadata_state (codec : Codec) (persist : PersistedActor)
    (state : Value) :
    metadata codec { persist with state := state }
      = metadata codec persist := by
  unfold metadata convertToBarePersisted
  show Option.map _ (Option.bind (persist.connectionObjects.mapM _) _)
    = Option.map _ (Option.bind (persist.connectionObjects.mapM _) _)
  cases persist.connectionObjects.mapM (·.toBare codec) with
  | none => rfl
  | some connections =>
      cases persist.scheduledEvents.mapM (·.toBare) with
      | none => simp_all
      | some events => simp_all [BarePersistedActor.metadata]

end RivetKit.Actor
