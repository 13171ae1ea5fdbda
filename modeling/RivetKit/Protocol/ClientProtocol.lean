/-
The client protocol: its messages (v1.bare) as the JavaScript values the
program passes around, and their versioned handlers (versioned.ts).

The generated code represents a `uint` as a `bigint`, `data` as an
`ArrayBuffer`, an absent optional as `null` and a union as its tag and
value. Its encoders and decoders are not in the repository: they are the
fields of `GeneratedCode`.
-/
import RivetKit.Common.VersionedData
import RivetKit.Lib.Js

namespace RivetKit.Protocol

open Js
open Common

-- ================================================================ messages

/-- `Init`. -/
structure Init where
  actorId : String
  connectionId : String
  connectionToken : String

/-- `Error`. -/
structure Error where
  code : String
  message : String
  metadata : Option (List UInt8)
  actionId : Option UInt64

/-- `ActionResponse`. -/
structure ActionResponse where
  id : UInt64
  output : List UInt8

/-- `Event`. -/
structure Event where
  name : String
  args : List UInt8

/-- `ToClientBody`. -/
inductive ToClientBody
  | init (val : Init)
  | error (val : Error)
  | actionResponse (val : ActionResponse)
  | event (val : Event)

/-- `ToClient`. -/
structure ToClient where
  body : ToClientBody

/-- `ActionRequest`. -/
structure ActionRequest where
  id : UInt64
  name : String
  args : List UInt8

/-- `SubscriptionRequest`. -/
structure SubscriptionRequest where
  eventName : String
  subscribe : Bool

/-- `ToServerBody`. -/
inductive ToServerBody
  | actionRequest (val : ActionRequest)
  | subscriptionRequest (val : SubscriptionRequest)

/-- `ToServer`. -/
structure ToServer where
  body : ToServerBody

/-- `HttpActionRequest`. -/
structure HttpActionRequest where
  args : List UInt8

/-- `HttpActionResponse`. -/
structure HttpActionResponse where
  output : List UInt8

/-- `HttpResponseError`. -/
structure HttpResponseError where
  code : String
  message : String
  metadata : Option (List UInt8)

/-- `HttpResolveResponse`. -/
structure HttpResolveResponse where
  actorId : String

/-- A message of any of the kinds that have a body. -/
inductive Message
  | toServer (m : ToServer)
  | toClient (m : ToClient)
  | httpActionRequest (m : HttpActionRequest)
  | httpActionResponse (m : HttpActionResponse)
  | httpResponseError (m : HttpResponseError)
  | httpResolveResponse (m : HttpResolveResponse)

-- ======================================================= JavaScript values

/-- A `uint`. -/
def uint (n : UInt64) : Value := .bigint n.toNat

/-- An optional field. -/
def optional {α : Type} (f : α → Value) : Option α → Value
  | some x => f x
  | none => .null

/-- A member of a union. -/
def union (tag : String) (val : Value) : Value :=
  .obj [("tag", .str tag), ("val", val)]

def Init.toValue (m : Init) : Value :=
  .obj [("actorId", .str m.actorId), ("connectionId", .str m.connectionId),
    ("connectionToken", .str m.connectionToken)]

def Error.toValue (m : Error) : Value :=
  .obj [("code", .str m.code), ("message", .str m.message),
    ("metadata", optional .bytes m.metadata),
    ("actionId", optional uint m.actionId)]

def ActionResponse.toValue (m : ActionResponse) : Value :=
  .obj [("id", uint m.id), ("output", .bytes m.output)]

def Event.toValue (m : Event) : Value :=
  .obj [("name", .str m.name), ("args", .bytes m.args)]

def ToClient.toValue (m : ToClient) : Value :=
  .obj [("body", match m.body with
    | .init val => union "Init" val.toValue
    | .error val => union "Error" val.toValue
    | .actionResponse val => union "ActionResponse" val.toValue
    | .event val => union "Event" val.toValue)]

def ActionRequest.toValue (m : ActionRequest) : Value :=
  .obj [("id", uint m.id), ("name", .str m.name), ("args", .bytes m.args)]

def SubscriptionRequest.toValue (m : SubscriptionRequest) : Value :=
  .obj [("eventName", .str m.eventName), ("subscribe", .bool m.subscribe)]

def ToServer.toValue (m : ToServer) : Value :=
  .obj [("body", match m.body with
    | .actionRequest val => union "ActionRequest" val.toValue
    | .subscriptionRequest val => union "SubscriptionRequest" val.toValue)]

def HttpActionRequest.toValue (m : HttpActionRequest) : Value :=
  .obj [("args", .bytes m.args)]

def HttpActionResponse.toValue (m : HttpActionResponse) : Value :=
  .obj [("output", .bytes m.output)]

def HttpResponseError.toValue (m : HttpResponseError) : Value :=
  .obj [("code", .str m.code), ("message", .str m.message),
    ("metadata", optional .bytes m.metadata)]

def HttpResolveResponse.toValue (m : HttpResolveResponse) : Value :=
  .obj [("actorId", .str m.actorId)]

/-- The value of a message. -/
def Message.toValue : Message → Value
  | .toServer m => m.toValue
  | .toClient m => m.toValue
  | .httpActionRequest m => m.toValue
  | .httpActionResponse m => m.toValue
  | .httpResponseError m => m.toValue
  | .httpResolveResponse m => m.toValue

-- ====================================================== versioned handlers

/-- One encoder and decoder of the generated code. -/
structure BareCodec where
  encode : Value → Option (List UInt8)
  decode : List UInt8 → Option Value

/-- The generated code. -/
structure GeneratedCode where
  toServer : BareCodec
  toClient : BareCodec
  httpActionRequest : BareCodec
  httpActionResponse : BareCodec
  httpResponseError : BareCodec
  httpResolveResponse : BareCodec

/-- `CURRENT_VERSION`. -/
def currentVersion : UInt32 := 1

/-- `createVersionedDataHandler` as all handlers call it. -/
def versionedHandler (codec : BareCodec) : VersionedDataConfig Value where
  currentVersion := currentVersion
  migrations := fun _ => none
  serializeVersion := codec.encode
  deserializeVersion := codec.decode

variable (bare : GeneratedCode)

/-- `TO_SERVER_VERSIONED`. -/
def toServerVersioned : VersionedDataConfig Value :=
  versionedHandler bare.toServer

/-- `TO_CLIENT_VERSIONED`. -/
def toClientVersioned : VersionedDataConfig Value :=
  versionedHandler bare.toClient

/-- `HTTP_ACTION_REQUEST_VERSIONED`. -/
def httpActionRequestVersioned : VersionedDataConfig Value :=
  versionedHandler bare.httpActionRequest

/-- `HTTP_ACTION_RESPONSE_VERSIONED`. -/
def httpActionResponseVersioned : VersionedDataConfig Value :=
  versionedHandler bare.httpActionResponse

/-- `HTTP_RESPONSE_ERROR_VERSIONED`. -/
def httpResponseErrorVersioned : VersionedDataConfig Value :=
  versionedHandler bare.httpResponseError

/-- `HTTP_RESOLVE_RESPONSE_VERSIONED`. -/
def httpResolveResponseVersioned : VersionedDataConfig Value :=
  versionedHandler bare.httpResolveResponse

/-- The codec of a message's kind. -/
def Message.codec : Message → BareCodec
  | .toServer _ => bare.toServer
  | .toClient _ => bare.toClient
  | .httpActionRequest _ => bare.httpActionRequest
  | .httpActionResponse _ => bare.httpActionResponse
  | .httpResponseError _ => bare.httpResponseError
  | .httpResolveResponse _ => bare.httpResolveResponse

/-- The handler of a message's kind. -/
def Message.handler : Message → VersionedDataConfig Value
  | .toServer _ => toServerVersioned bare
  | .toClient _ => toClientVersioned bare
  | .httpActionRequest _ => httpActionRequestVersioned bare
  | .httpActionResponse _ => httpActionResponseVersioned bare
  | .httpResponseError _ => httpResponseErrorVersioned bare
  | .httpResolveResponse _ => httpResolveResponseVersioned bare

end RivetKit.Protocol
