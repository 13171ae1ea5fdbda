/-
The way of a persisted record to its bytes and back
(actor/instance.ts, schemas/actor-persist/versioned.ts):
`#convertToBarePersisted`, the versioned handler, and
`#convertFromBarePersisted`.

cbor-x and the generated v1 codec are parameters (`PersistCodec`). What
is assumed of them is that they bring their values back (`RoundTrips`):
a record whose 64-bit fields are in range is encoded, and what is encoded
reads back with those fields cut to 64 bits.
-/
import RivetKit.Actor.Persisted
import RivetKit.Common.VersionedData
import RivetKit.Lib.Double

namespace RivetKit.Actor

open Js
open Common

-- ============================================================== the codecs

/-- cbor-x, and the generated `encodePersistedActor` and
`decodePersistedActor`. -/
structure PersistCodec where
  cborEncode : Value → Bytes
  cborDecode : Bytes → Option Value
  encodePersistedActor : BarePersistedActor → Option Bytes
  decodePersistedActor : Bytes → Option BarePersistedActor

/-- `PERSISTED_ACTOR_VERSIONED`. There is one version and no migration. -/
def PersistCodec.persistedActorVersioned (codec : PersistCodec) :
    VersionedDataConfig BarePersistedActor where
  currentVersion := 1
  migrations := fun _ => none
  serializeVersion := codec.encodePersistedActor
  deserializeVersion := codec.decodePersistedActor

/-- The encoders, as the save path uses them. -/
def PersistCodec.toCodec (codec : PersistCodec) : Codec where
  cborEncode := codec.cborEncode
  serializes := fun bare =>
    (codec.persistedActorVersioned.serializeWithEmbeddedVersion bare).isSome

-- ================================================================ 64 bits

/-- An integer that 64 bits hold. -/
def IsUint64 (i : Int) : Prop := 0 ≤ i ∧ i < 2 ^ 64

instance (i : Int) : Decidable (IsUint64 i) :=
  inferInstanceAs (Decidable (_ ∧ _))

/-- A number that a `u64` field holds. -/
def IsTimestamp (n : Number) : Prop := ∃ i, IsUint64 i ∧ n = .ofInt i

def BarePersistedConnection.asUint64 (conn : BarePersistedConnection) :
    BarePersistedConnection :=
  { conn with lastSeen := conn.lastSeen % 2 ^ 64 }

def BarePersistedScheduleEvent.asUint64
    (event : BarePersistedScheduleEvent) : BarePersistedScheduleEvent :=
  { event with timestamp := event.timestamp % 2 ^ 64 }

/-- The record with its `u64` fields cut to 64 bits. -/
def BarePersistedActor.asUint64 (bare : BarePersistedActor) :
    BarePersistedActor :=
  { bare with
    connections := bare.connections.map (·.asUint64)
    scheduledEvents := bare.scheduledEvents.map (·.asUint64) }

/-- The `u64` fields are in range. -/
def BarePersistedActor.Fits (bare : BarePersistedActor) : Prop :=
  (∀ conn ∈ bare.connections, IsUint64 conn.lastSeen)
    ∧ ∀ event ∈ bare.scheduledEvents, IsUint64 event.timestamp

instance : DecidablePred BarePersistedActor.Fits :=
  fun _ => inferInstanceAs (Decidable (_ ∧ _))

/-- The codecs bring their values back. -/
structure PersistCodec.RoundTrips (codec : PersistCodec)
    (serializable : Value → Prop) : Prop where
  empty : serializable (.obj [])
  cbor : ∀ v, serializable v →
    codec.cborDecode (codec.cborEncode v) = some v
  encodes : ∀ bare, bare.Fits → (codec.encodePersistedActor bare).isSome
  decodes : ∀ bare bytes, codec.encodePersistedActor bare = some bytes →
    codec.decodePersistedActor bytes = some bare.asUint64

-- ================================================================ the way back

/-- `driver as ConnectionDriver`. The cast tests nothing; only the three
strings are written. -/
def ConnectionDriver.ofString : String → Option ConnectionDriver
  | "webSocket" => some .webSocket
  | "sse" => some .sse
  | "http" => some .http
  | _ => none

/-- `v ? cbor.decode(new Uint8Array(v)) : undefined`. An `ArrayBuffer` is
an object, so an empty one is decoded too. -/
def decodeDefined (codec : PersistCodec) : Option Bytes → Option Value
  | some bytes => codec.cborDecode bytes
  | none => some .undefined

/-- One element of `connections` in `#convertFromBarePersisted`. -/
def BarePersistedConnection.toPersisted (codec : PersistCodec)
    (conn : BarePersistedConnection) : Option PersistedConn := do
  let connDriver ← ConnectionDriver.ofString conn.driver
  let connDriverState ← codec.cborDecode conn.driverState
  let params ← codec.cborDecode conn.parameters
  let state ← codec.cborDecode conn.state
  let authData ← decodeDefined codec conn.auth
  return { connId := conn.id
           token := conn.token
           connDriver := connDriver
           connDriverState := connDriverState
           params := params
           state := state
           authData := authData
           subscriptions := conn.subscriptions
           lastSeen := .ofBigInt conn.lastSeen }

/-- One element of `scheduledEvents` in `#convertFromBarePersisted`. -/
def BarePersistedScheduleEvent.toPersisted
    (event : BarePersistedScheduleEvent) : PersistedScheduleEvent :=
  { eventId := event.eventId
    timestamp := .ofBigInt event.timestamp
    kind := event.kind }

/-- `#convertFromBarePersisted`. The connections are objects of their
own. -/
def convertFromBarePersisted (codec : PersistCodec)
    (bare : BarePersistedActor) : Option PersistedActor := do
  let input ← decodeDefined codec bare.input
  let state ← codec.cborDecode bare.state
  let connections ← bare.connections.mapM (·.toPersisted codec)
  return { input := input
           hasInitiated := bare.hasInitialized
           state := state
           connObjects := connections
           connections := List.range connections.length
           scheduledEvents := bare.scheduledEvents.map (·.toPersisted) }

-- ============================================================ there and back

/-- What `writePersistedData` is called with. -/
def writtenData (codec : PersistCodec) (persist : PersistedActor) :
    Option Bytes :=
  match convertToBarePersisted codec.toCodec persist with
  | some bare =>
      codec.persistedActorVersioned.serializeWithEmbeddedVersion bare
  | none => none

/-- What `#initialize` makes of the bytes that were read. -/
def readData (codec : PersistCodec) (bytes : Bytes) :
    Option PersistedActor :=
  match codec.persistedActorVersioned.deserializeWithEmbeddedVersion bytes with
  | some bare => convertFromBarePersisted codec bare
  | none => none

/-- Records that hold the same, whatever their objects are called. -/
structure PersistedActor.Same (a b : PersistedActor) : Prop where
  input : a.input = b.input
  hasInitiated : a.hasInitiated = b.hasInitiated
  state : a.state = b.state
  connections : a.connectionObjects = b.connectionObjects
  scheduledEvents : a.scheduledEvents = b.scheduledEvents

end RivetKit.Actor
