/-
The messages of the Rust client (clients/rust/src/protocol/to_server.rs,
to_client.rs) and how they are written and read (drivers/ws.rs).

serde_json, serde_cbor and base64 are the fields of `Crates`.
-/
import RivetKit.Lib.Serde
import RivetKit.Protocol.Serde

namespace RivetKit.RustClient

open Js
open Serde

-- ================================================= messages to the server

namespace ToServer

/-- `to_server::Init`. -/
structure Init where
  p : Option Json

/-- `to_server::ActionRequest`. -/
structure ActionRequest where
  i : Int
  n : String
  a : List Json

/-- `to_server::SubscriptionRequest`. -/
structure SubscriptionRequest where
  e : String
  s : Bool

end ToServer

/-- `ToServerBody`. -/
inductive ToServerBody
  | init (i : ToServer.Init)
  | actionRequest (ar : ToServer.ActionRequest)
  | subscriptionRequest (sr : ToServer.SubscriptionRequest)

/-- `ToServer`. -/
structure ToServer where
  b : ToServerBody

def ToServer.Init.serialize (m : ToServer.Init) : Content :=
  match m.p with
  | some p => .map [("p", writeJson p)]
  | none => .map []

def ToServer.ActionRequest.serialize (m : ToServer.ActionRequest) : Content :=
  .map [("i", .int m.i), ("n", .str m.n), ("a", .seq (m.a.map writeJson))]

def ToServer.SubscriptionRequest.serialize
    (m : ToServer.SubscriptionRequest) : Content :=
  .map [("e", .str m.e), ("s", .bool m.s)]

def ToServerBody.serialize : ToServerBody → Content
  | .init i => .map [("i", i.serialize)]
  | .actionRequest ar => .map [("ar", ar.serialize)]
  | .subscriptionRequest sr => .map [("sr", sr.serialize)]

def ToServer.serialize (m : ToServer) : Content :=
  .map [("b", m.b.serialize)]

-- ================================================= messages to the client

namespace ToClient

/-- `to_client::Init`. -/
structure Init where
  ai : String
  ci : String
  ct : String

/-- `to_client::Error`. -/
structure Error where
  c : String
  m : String
  md : Option Json
  ai : Option Int

/-- `to_client::ActionResponse`. -/
structure ActionResponse where
  i : Int
  o : Json

/-- `to_client::Event`. -/
structure Event where
  n : String
  a : List Json

end ToClient

/-- `ToClientBody`. -/
inductive ToClientBody
  | init (i : ToClient.Init)
  | error (e : ToClient.Error)
  | actionResponse (ar : ToClient.ActionResponse)
  | eventMessage (ev : ToClient.Event)

/-- `ToClient`. -/
structure ToClient where
  b : ToClientBody

def ToClient.Init.deserialize (c : Content) : Option ToClient.Init :=
  match structFields ["ai", "ci", "ct"] c with
  | some [ai, ci, ct] => do
      some ⟨← required string ai, ← required string ci, ← required string ct⟩
  | _ => none

def ToClient.Error.deserialize (c : Content) : Option ToClient.Error :=
  match structFields ["c", "m", "md", "ai"] c with
  | some [c, m, md, ai] => do
      some ⟨← required string c, ← required string m, ← optional readJson md,
        ← optional int64 ai⟩
  | _ => none

def ToClient.ActionResponse.deserialize (c : Content) :
    Option ToClient.ActionResponse :=
  match structFields ["i", "o"] c with
  | some [i, o] => do some ⟨← required int64 i, ← required readJson o⟩
  | _ => none

def ToClient.Event.deserialize (c : Content) : Option ToClient.Event :=
  match structFields ["n", "a"] c with
  | some [n, a] => do
      some ⟨← required string n, ← required (vec readJson) a⟩
  | _ => none

/-- The variant of one field, read by `read`. -/
def variant {α : Type} (name : String) (read : Content → Option α)
    (c : Content) : Option α :=
  match variantFields [name] c with
  | some [field] => required read field
  | _ => none

def ToClientBody.deserialize (c : Content) : Option ToClientBody :=
  (variant "i" ToClient.Init.deserialize c).map .init
    <|> (variant "e" ToClient.Error.deserialize c).map .error
    <|> (variant "ar" ToClient.ActionResponse.deserialize c).map
      .actionResponse
    <|> (variant "ev" ToClient.Event.deserialize c).map .eventMessage

def ToClient.deserialize (c : Content) : Option ToClient :=
  match structFields ["b"] c with
  | some [b] => (required ToClientBody.deserialize b).map fun b => ⟨b⟩
  | _ => none

-- ============================================================== the driver

/-- `EncodingKind`. -/
inductive EncodingKind
  | json
  | cbor
  deriving DecidableEq

/-- The encoding that the server is told. -/
def EncodingKind.encoding : EncodingKind → Protocol.Encoding
  | .json => .json
  | .cbor => .cbor

/-- serde_json, serde_cbor, and base64's `BASE64_STANDARD`. -/
structure Crates where
  jsonToString : Content → Option String
  jsonFromStr : String → Option Content
  jsonFromSlice : List UInt8 → Option Content
  cborToVec : Content → Option (List UInt8)
  cborFromSlice : List UInt8 → Option Content
  base64Decode : String → Option (List UInt8)

variable (crates : Crates)

/-- `get_msg_serializer`. -/
def serialize (encoding : EncodingKind) (m : ToServer) :
    Option Protocol.OutputData :=
  match encoding with
  | .json => (crates.jsonToString m.serialize).map .text
  | .cbor => (crates.cborToVec m.serialize).map .binary

/-- What is in a message that came. -/
def content (encoding : EncodingKind) (data : Protocol.OutputData) :
    Option Content :=
  match encoding, data with
  | .json, .text s => crates.jsonFromStr s
  | .json, .binary bytes => crates.jsonFromSlice bytes
  | .cbor, .binary bytes => crates.cborFromSlice bytes
  | .cbor, .text s => crates.cborFromSlice s.toUTF8.toList

/-- `get_msg_deserializer`. -/
def deserialize (encoding : EncodingKind) (data : Protocol.OutputData) :
    Option ToClient :=
  (content crates encoding data).bind ToClient.deserialize

end RivetKit.RustClient
