/-
The schema of the client protocol (v1.bare) put together from the BARE
types: one instance of what the generated code is taken to be, which
brings every message back.
-/
import RivetKit.Lib.Bare
import RivetKit.Protocol.ClientProtocol

namespace RivetKit.Protocol

open Js
open Bare (Codec)

-- ========================================================== the schema

/-- A 64-bit `uint`. -/
def uint64 : Codec UInt64 :=
  Codec.uint.map UInt64.ofNat UInt64.toNat fun _ => UInt64.ofNat_toNat

def Init.codec : Codec Init :=
  (Codec.str.pair (Codec.str.pair Codec.str)).map
    (fun x => ⟨x.1, x.2.1, x.2.2⟩)
    (fun m => (m.actorId, m.connectionId, m.connectionToken)) fun _ => rfl

def Error.codec : Codec Error :=
  (Codec.str.pair (Codec.str.pair
      (Codec.data.optional.pair uint64.optional))).map
    (fun x => ⟨x.1, x.2.1, x.2.2.1, x.2.2.2⟩)
    (fun m => (m.code, m.message, m.metadata, m.actionId)) fun _ => rfl

def ActionResponse.codec : Codec ActionResponse :=
  (uint64.pair Codec.data).map (fun x => ⟨x.1, x.2⟩)
    (fun m => (m.id, m.output)) fun _ => rfl

def Event.codec : Codec Event :=
  (Codec.str.pair Codec.data).map (fun x => ⟨x.1, x.2⟩)
    (fun m => (m.name, m.args)) fun _ => rfl

def ActionRequest.codec : Codec ActionRequest :=
  (uint64.pair (Codec.str.pair Codec.data)).map
    (fun x => ⟨x.1, x.2.1, x.2.2⟩)
    (fun m => (m.id, m.name, m.args)) fun _ => rfl

def SubscriptionRequest.codec : Codec SubscriptionRequest :=
  (Codec.str.pair Codec.bool).map (fun x => ⟨x.1, x.2⟩)
    (fun m => (m.eventName, m.subscribe)) fun _ => rfl

/-- The types of the members of `ToClientBody`. -/
def ToClientMember : Fin 4 → Type
  | 0 => Init
  | 1 => Error
  | 2 => ActionResponse
  | 3 => Event

def ToClient.codec : Codec ToClient :=
  (Codec.union (F := ToClientMember) fun
      | 0 => Init.codec
      | 1 => Error.codec
      | 2 => ActionResponse.codec
      | 3 => Event.codec).map
    (fun
      | ⟨0, val⟩ => ⟨.init val⟩
      | ⟨1, val⟩ => ⟨.error val⟩
      | ⟨2, val⟩ => ⟨.actionResponse val⟩
      | ⟨3, val⟩ => ⟨.event val⟩)
    (fun m => match m.body with
      | .init val => ⟨0, val⟩
      | .error val => ⟨1, val⟩
      | .actionResponse val => ⟨2, val⟩
      | .event val => ⟨3, val⟩)
    fun ⟨body⟩ => by cases body <;> rfl

/-- The types of the members of `ToServerBody`. -/
def ToServerMember : Fin 2 → Type
  | 0 => ActionRequest
  | 1 => SubscriptionRequest

def ToServer.codec : Codec ToServer :=
  (Codec.union (F := ToServerMember) fun
      | 0 => ActionRequest.codec
      | 1 => SubscriptionRequest.codec).map
    (fun
      | ⟨0, val⟩ => ⟨.actionRequest val⟩
      | ⟨1, val⟩ => ⟨.subscriptionRequest val⟩)
    (fun m => match m.body with
      | .actionRequest val => ⟨0, val⟩
      | .subscriptionRequest val => ⟨1, val⟩)
    fun ⟨body⟩ => by cases body <;> rfl

def HttpActionRequest.codec : Codec HttpActionRequest :=
  Codec.data.map (fun x => ⟨x⟩) (fun m => m.args) fun _ => rfl

def HttpActionResponse.codec : Codec HttpActionResponse :=
  Codec.data.map (fun x => ⟨x⟩) (fun m => m.output) fun _ => rfl

def HttpResponseError.codec : Codec HttpResponseError :=
  (Codec.str.pair (Codec.str.pair Codec.data.optional)).map
    (fun x => ⟨x.1, x.2.1, x.2.2⟩)
    (fun m => (m.code, m.message, m.metadata)) fun _ => rfl

def HttpResolveResponse.codec : Codec HttpResolveResponse :=
  Codec.str.map (fun x => ⟨x⟩) (fun m => m.actorId) fun _ => rfl

-- ================================================ reading JavaScript values

/-- An optional field of a value. -/
def ofOptional {α : Type} (f : Value → Option α) :
    Value → Option (Option α)
  | .null => some none
  | v => (f v).map some

def ofBytes : Value → Option (List UInt8)
  | .bytes b => some b
  | _ => none

def ofUint : Value → Option UInt64
  | .bigint i => some (UInt64.ofNat i.toNat)
  | _ => none

def Init.ofValue : Value → Option Init
  | .obj [("actorId", .str actorId), ("connectionId", .str connectionId),
      ("connectionToken", .str connectionToken)] =>
      some ⟨actorId, connectionId, connectionToken⟩
  | _ => none

def Error.ofValue : Value → Option Error
  | .obj [("code", .str code), ("message", .str message),
      ("metadata", metadata), ("actionId", actionId)] =>
      match ofOptional ofBytes metadata, ofOptional ofUint actionId with
      | some metadata, some actionId =>
          some ⟨code, message, metadata, actionId⟩
      | _, _ => none
  | _ => none

def ActionResponse.ofValue : Value → Option ActionResponse
  | .obj [("id", .bigint id), ("output", .bytes output)] =>
      some ⟨UInt64.ofNat id.toNat, output⟩
  | _ => none

def Event.ofValue : Value → Option Event
  | .obj [("name", .str name), ("args", .bytes args)] => some ⟨name, args⟩
  | _ => none

def ActionRequest.ofValue : Value → Option ActionRequest
  | .obj [("id", .bigint id), ("name", .str name), ("args", .bytes args)] =>
      some ⟨UInt64.ofNat id.toNat, name, args⟩
  | _ => none

def SubscriptionRequest.ofValue : Value → Option SubscriptionRequest
  | .obj [("eventName", .str eventName), ("subscribe", .bool subscribe)] =>
      some ⟨eventName, subscribe⟩
  | _ => none

def ToClient.ofValue : Value → Option ToClient
  | .obj [("body", .obj [("tag", .str tag), ("val", val)])] =>
      if tag = "Init" then (Init.ofValue val).map fun m => ⟨.init m⟩
      else if tag = "Error" then (Error.ofValue val).map fun m => ⟨.error m⟩
      else if tag = "ActionResponse" then
        (ActionResponse.ofValue val).map fun m => ⟨.actionResponse m⟩
      else if tag = "Event" then (Event.ofValue val).map fun m => ⟨.event m⟩
      else none
  | _ => none

def ToServer.ofValue : Value → Option ToServer
  | .obj [("body", .obj [("tag", .str tag), ("val", val)])] =>
      if tag = "ActionRequest" then
        (ActionRequest.ofValue val).map fun m => ⟨.actionRequest m⟩
      else if tag = "SubscriptionRequest" then
        (SubscriptionRequest.ofValue val).map fun m =>
          ⟨.subscriptionRequest m⟩
      else none
  | _ => none

def HttpActionRequest.ofValue : Value → Option HttpActionRequest
  | .obj [("args", .bytes args)] => some ⟨args⟩
  | _ => none

def HttpActionResponse.ofValue : Value → Option HttpActionResponse
  | .obj [("output", .bytes output)] => some ⟨output⟩
  | _ => none

def HttpResponseError.ofValue : Value → Option HttpResponseError
  | .obj [("code", .str code), ("message", .str message),
      ("metadata", metadata)] =>
      (ofOptional ofBytes metadata).map fun metadata =>
        ⟨code, message, metadata⟩
  | _ => none

def HttpResolveResponse.ofValue : Value → Option HttpResolveResponse
  | .obj [("actorId", .str actorId)] => some ⟨actorId⟩
  | _ => none

-- ======================================================== generated code

/-- The encoder and decoder that a schema's codec gives. -/
def schemaCodec {α : Type} (codec : Codec α) (toValue : α → Value)
    (ofValue : Value → Option α) : BareCodec where
  encode v := (ofValue v).map codec.encode
  decode bytes := (codec.decodeAll bytes).map toValue

/-- It brings back what can be read. -/
theorem schemaCodec_roundTrip {α : Type} {codec : Codec α}
    {toValue : α → Value} {ofValue : Value → Option α} {m : α}
    (h : ofValue (toValue m) = some m) :
    ∃ bytes, (schemaCodec codec toValue ofValue).encode (toValue m)
        = some bytes
      ∧ (schemaCodec codec toValue ofValue).decode bytes
        = some (toValue m) := by
  refine ⟨codec.encode m, ?_, ?_⟩
  · show (ofValue (toValue m)).map codec.encode = _
    rw [h]
    rfl
  · show (codec.decodeAll (codec.encode m)).map toValue = _
    rw [codec.decodeAll_encode]
    rfl

/-- The generated code of the schema. -/
def schemaBare : GeneratedCode where
  toServer := schemaCodec ToServer.codec ToServer.toValue ToServer.ofValue
  toClient := schemaCodec ToClient.codec ToClient.toValue ToClient.ofValue
  httpActionRequest := schemaCodec HttpActionRequest.codec
    HttpActionRequest.toValue HttpActionRequest.ofValue
  httpActionResponse := schemaCodec HttpActionResponse.codec
    HttpActionResponse.toValue HttpActionResponse.ofValue
  httpResponseError := schemaCodec HttpResponseError.codec
    HttpResponseError.toValue HttpResponseError.ofValue
  httpResolveResponse := schemaCodec HttpResolveResponse.codec
    HttpResolveResponse.toValue HttpResolveResponse.ofValue

theorem ToServer.ofValue_toValue (m : ToServer) :
    ToServer.ofValue m.toValue = some m := by
  obtain ⟨body⟩ := m
  cases body with
  | actionRequest val =>
      simp [ToServer.toValue, ActionRequest.toValue, union, uint,
        ToServer.ofValue, ActionRequest.ofValue]
  | subscriptionRequest val =>
      simp [ToServer.toValue, SubscriptionRequest.toValue, union,
        ToServer.ofValue, SubscriptionRequest.ofValue]

theorem ToClient.ofValue_toValue (m : ToClient) :
    ToClient.ofValue m.toValue = some m := by
  obtain ⟨body⟩ := m
  cases body with
  | init val =>
      simp [ToClient.toValue, Init.toValue, union, ToClient.ofValue,
        Init.ofValue]
  | error val =>
      obtain ⟨code, message, metadata, actionId⟩ := val
      cases metadata <;> cases actionId <;>
        simp [ToClient.toValue, Error.toValue, union, optional, uint,
          ToClient.ofValue, Error.ofValue, ofOptional, ofBytes, ofUint]
  | actionResponse val =>
      simp [ToClient.toValue, ActionResponse.toValue, union, uint,
        ToClient.ofValue, ActionResponse.ofValue]
  | event val =>
      simp [ToClient.toValue, Event.toValue, union, ToClient.ofValue,
        Event.ofValue]

theorem HttpResponseError.ofValue_toValue (m : HttpResponseError) :
    HttpResponseError.ofValue m.toValue = some m := by
  obtain ⟨code, message, metadata⟩ := m
  cases metadata <;> rfl

/-- The generated code of the schema brings every message back. -/
theorem schemaBare_roundTrip (m : Message) :
    ∃ bytes, (m.codec schemaBare).encode m.toValue = some bytes
      ∧ (m.codec schemaBare).decode bytes = some m.toValue := by
  cases m with
  | toServer m => exact schemaCodec_roundTrip m.ofValue_toValue
  | toClient m => exact schemaCodec_roundTrip m.ofValue_toValue
  | httpActionRequest m =>
      exact @schemaCodec_roundTrip _ _ _ HttpActionRequest.ofValue m rfl
  | httpActionResponse m =>
      exact @schemaCodec_roundTrip _ _ _ HttpActionResponse.ofValue m rfl
  | httpResponseError m => exact schemaCodec_roundTrip m.ofValue_toValue
  | httpResolveResponse m =>
      exact @schemaCodec_roundTrip _ _ _ HttpResolveResponse.ofValue m rfl

end RivetKit.Protocol
