/-
The schema of the persisted record (actor-persist/v1.bare) put together
from the BARE types: one instance of what the generated codec is taken to
be. A bigint that is no `u64` makes the encoder throw.
-/
import RivetKit.Lib.Bare
import RivetKit.Actor.PersistedVersioned

namespace RivetKit.Actor

open Js

-- =============================================================== the wire

/-- `PersistedConnection`, field by field. -/
abbrev WireConnection :=
  String × String × String × Bytes × Bytes × Bytes × Option Bytes
    × List String × UInt64

/-- `PersistedScheduleEvent`, field by field. -/
abbrev WireScheduleEvent := String × UInt64 × PersistedScheduleEventKind

/-- `PersistedActor`, field by field. -/
abbrev WireActor :=
  Option Bytes × Bool × Bytes × List WireConnection × List WireScheduleEvent

def PersistedScheduleEventKind.codec : Bare.Codec PersistedScheduleEventKind :=
  ((Bare.Codec.index 1).pair
      (Bare.Codec.str.pair Bare.Codec.data.optional)).map
    (fun x => .generic x.2.1 x.2.2)
    (fun | .generic action args => (0, action, args))
    fun kind => by
      cases kind
      rfl

def WireConnection.codec : Bare.Codec WireConnection :=
  .pair .str (.pair .str (.pair .str (.pair .data (.pair .data
    (.pair .data (.pair (.optional .data) (.pair (.list .str) .u64)))))))

def WireScheduleEvent.codec : Bare.Codec WireScheduleEvent :=
  .pair .str (.pair .u64 PersistedScheduleEventKind.codec)

def WireActor.codec : Bare.Codec WireActor :=
  .pair (.optional .data) (.pair .bool (.pair .data
    (.pair (.list WireConnection.codec) (.list WireScheduleEvent.codec))))

-- ============================================================ the records

def BarePersistedConnection.toWire (conn : BarePersistedConnection) :
    WireConnection :=
  (conn.id, conn.token, conn.driver, conn.driverState, conn.parameters,
    conn.state, conn.auth, conn.subscriptions, UInt64.ofInt conn.lastSeen)

def WireConnection.toBare : WireConnection → BarePersistedConnection
  | (id, token, driver, driverState, parameters, state, auth,
      subscriptions, lastSeen) =>
      { id, token, driver, driverState, parameters, state, auth,
        subscriptions, lastSeen := lastSeen.toNat }

def BarePersistedScheduleEvent.toWire
    (event : BarePersistedScheduleEvent) : WireScheduleEvent :=
  (event.eventId, UInt64.ofInt event.timestamp, event.kind)

def WireScheduleEvent.toBare : WireScheduleEvent → BarePersistedScheduleEvent
  | (eventId, timestamp, kind) =>
      { eventId, timestamp := timestamp.toNat, kind }

def BarePersistedActor.toWire (bare : BarePersistedActor) : WireActor :=
  (bare.input, bare.hasInitialized, bare.state,
    bare.connections.map (·.toWire), bare.scheduledEvents.map (·.toWire))

def WireActor.toBare : WireActor → BarePersistedActor
  | (input, hasInitialized, state, connections, scheduledEvents) =>
      { input, hasInitialized, state,
        connections := connections.map (·.toBare)
        scheduledEvents := scheduledEvents.map (·.toBare) }

theorem toNat_ofInt (i : Int) : ((UInt64.ofInt i).toNat : Int) = i % 2 ^ 64 := by
  have hnonneg := Int.emod_nonneg i (show (2 : Int) ^ 64 ≠ 0 by omega)
  have hlt := Int.emod_lt_of_pos i (show (0 : Int) < 2 ^ 64 by omega)
  unfold UInt64.ofInt
  rw [UInt64.toNat_ofNat']
  omega

theorem toBare_toWire (bare : BarePersistedActor) :
    bare.toWire.toBare = bare.asUint64 := by
  have hconn : (fun conn : BarePersistedConnection => conn.toWire.toBare)
      = fun conn => conn.asUint64 := by
    funext conn
    unfold BarePersistedConnection.toWire WireConnection.toBare
      BarePersistedConnection.asUint64
    dsimp only
    rw [toNat_ofInt]
  have hevent : (fun event : BarePersistedScheduleEvent =>
      event.toWire.toBare) = fun event => event.asUint64 := by
    funext event
    unfold BarePersistedScheduleEvent.toWire WireScheduleEvent.toBare
      BarePersistedScheduleEvent.asUint64
    dsimp only
    rw [toNat_ofInt]
  unfold BarePersistedActor.toWire WireActor.toBare
    BarePersistedActor.asUint64
  dsimp only
  rw [List.map_map, List.map_map]
  exact congr (congrArg _ (congrArg (List.map · bare.connections) hconn))
    (congrArg (List.map · bare.scheduledEvents) hevent)

-- ============================================================== the codec

/-- The CBOR of `undefined`, `null`, booleans and the empty object. -/
def cborEncode : Value → Bytes
  | .undefined => [0xf7]
  | .null => [0xf6]
  | .bool false => [0xf4]
  | .bool true => [0xf5]
  | _ => [0xa0]

def cborDecode : Bytes → Option Value
  | [0xf7] => some .undefined
  | [0xf6] => some .null
  | [0xf4] => some (.bool false)
  | [0xf5] => some (.bool true)
  | [0xa0] => some (.obj [])
  | _ => none

/-- The values that these bytes stand for. -/
def IsSimple (v : Value) : Prop :=
  v = .undefined ∨ v = .null ∨ (∃ b, v = .bool b) ∨ v = .obj []

/-- The schema's codec with this CBOR. -/
def schemaCodec : PersistCodec where
  cborEncode := cborEncode
  cborDecode := cborDecode
  encodePersistedActor := fun bare =>
    if bare.Fits then some (WireActor.codec.encode bare.toWire) else none
  decodePersistedActor := fun bytes =>
    (WireActor.codec.decodeAll bytes).map (·.toBare)

theorem schemaCodec_roundTrips : schemaCodec.RoundTrips IsSimple where
  empty := Or.inr (Or.inr (Or.inr rfl))
  cbor := by
    intro v hv
    rcases hv with hv | hv | ⟨b, hv⟩ | hv
    · rw [hv]
      rfl
    · rw [hv]
      rfl
    · rw [hv]
      cases b with
      | false => rfl
      | true => rfl
    · rw [hv]
      rfl
  encodes := by
    intro bare h
    show (if bare.Fits then some _ else none).isSome = true
    rw [if_pos h]
    rfl
  decodes := by
    intro bare bytes h
    obtain ⟨-, h⟩ := Option.ite_none_right_eq_some.1 h
    rw [← Option.some.inj h]
    show (WireActor.codec.decodeAll _).map _ = _
    rw [Bare.Codec.decodeAll_encode, Option.map_some, toBare_toWire]

end RivetKit.Actor
