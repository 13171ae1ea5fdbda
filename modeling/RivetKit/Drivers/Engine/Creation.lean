/-
A creation input on its way through the engine: the request of
`EngineManagerDriver` (drivers/engine/manager-driver.ts), and the first
start in a runner (drivers/engine/actor-driver.ts).

The request has the input's CBOR in Base64. What the engine and its
runner library make of it, the `input` of a `RunnerActorConfig`, is a
parameter.
-/
import RivetKit.Lib.Base64
import RivetKit.Actor.PersistedVersioned
import RivetKit.Drivers.Engine.ActorDriver

namespace RivetKit.Drivers.Engine

open Actor
open Js

-- ============================================================ the request

/-- `cbor.encode(v).toString("base64")`. -/
def encodeInput (codec : PersistCodec) (v : Value) : String :=
  String.ofList (Base64.encode (codec.cborEncode v))

/-- The `input` of the request that `createActor` makes. -/
def createActorInput (codec : PersistCodec) (input : Value) :
    Option String :=
  if input.truthy then some (encodeInput codec input) else none

/-- `GetOrCreateWithKeyInput`, as the object it is. -/
def getOrCreateWithKeyInput (name : String) (key : List String)
    (actorInput : Value) : Value :=
  .obj [("name", .str name), ("key", .arr (key.map .str)),
    ("input", actorInput)]

/-- The `input` of the request that `getOrCreateWithKey` makes. Its
argument is called `input` too, and is what it tests. -/
def getOrCreateActorInput (codec : PersistCodec) (input : Value) :
    Option String :=
  let actorInput := input.member "input"
  if input.truthy then some (encodeInput codec actorInput) else none

/-- What the engine and its runner make of a request's `input`: nothing of
none, and of Base64 its bytes. -/
structure DecodesInput (engine : Option String → Option Bytes) : Prop where
  absent : engine none = none
  base64 : ∀ bytes,
    engine (some (String.ofList (Base64.encode bytes))) = some bytes

-- ============================================================== the start

/-- Deserialize input: `none` where that throws. The test is of a
`Uint8Array`. -/
def deserializeInput (codec : PersistCodec) : Option Bytes → Option Value
  | some input => codec.cborDecode input
  | none => some .undefined

/-- The encoders of a driver. The generated encoder returns on every
record without times. -/
def serializer (codec : PersistCodec) : Serializer where
  cborEncode := codec.cborEncode
  serialize := fun bare =>
    (codec.persistedActorVersioned.serializeWithEmbeddedVersion bare).getD []

/-- `#runnerOnActorStart` up to its `await`; `none` where the input does
not deserialize. -/
def runnerOnActorStart (codec : PersistCodec)
    (registryConfig : RegistryConfig) (s : EngineActorDriver)
    (actorId name : String) (key : JsString) (input : Option Bytes) :
    Option EngineActorDriver :=
  (deserializeInput codec input).map fun input =>
    s.onActorStart (serializer codec) registryConfig actorId
      { name := name, key := some key, input := input }

end RivetKit.Drivers.Engine
