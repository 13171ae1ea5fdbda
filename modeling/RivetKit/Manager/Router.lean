/-
The manager's routes to actors (manager/router.ts): actions, connections
over SSE and WebSocket, raw HTTP and raw WebSockets.

Each handler first reads the request, authenticates it and finds the
actor (`authorize…`), and then hands it to the driver. On the HTTP routes
that is a new request with headers of its own; the WebSocket routes pass
arguments. Errors end up in a response to the client, and the actor is
not called.
-/
import Mathlib.Data.List.Infix
import RivetKit.Drivers.FileSystem.Manager

namespace RivetKit.Manager

open Http
open Js
open Actor
open Protocol

variable (registry : Registry)

-- ============================================================= reading

/-- What a `sec-websocket-protocol` header says. -/
structure WebSocketProtocols where
  queryRaw : Option String := none
  encodingRaw : Option String := none
  connParamsRaw : Option String := none

/-- One protocol of the list: a later one takes the place of an earlier
one. -/
def readProtocol (read : WebSocketProtocols) (protocol : String) :
    Except RouteError WebSocketProtocols := do
  match afterStart "query." protocol with
  | some raw =>
      let query ← orThrow (decodeURIComponent raw)
      return { read with queryRaw := some query }
  | none =>
  match afterStart "encoding." protocol with
  | some raw => return { read with encodingRaw := some raw }
  | none =>
  match afterStart "conn_params." protocol with
  | some raw =>
      let connParams ← orThrow (decodeURIComponent raw)
      return { read with connParamsRaw := some connParams }
  | none => return read

/-- `parseWebSocketProtocols`. -/
def parseWebSocketProtocols (protocols : Option String) :
    Except RouteError WebSocketProtocols :=
  match protocols with
  | some s =>
      if s = "" then .ok {}
      else ((split "," s).map trim).foldlM readProtocol {}
  | none => .ok {}

/-- `getRequestEncoding`. -/
def getRequestEncoding (request : Request) : Except RouteError Encoding :=
  match request.headers.get headerEncoding with
  | some s =>
      match encodingSchema s with
      | some encoding => .ok encoding
      | none =>
          .error (.invalidEncoding (if s = "" then "undefined" else s))
  | none => .error (.invalidEncoding "undefined")

/-- `getRequestQuery`. -/
def getRequestQuery (request : Request) : Except RouteError Value :=
  match request.headers.get headerActorQuery with
  | some s =>
      if s = "" then .error (.invalidRequest "missing query")
      else
        match parseJson registry.text s with
        | .ok query => .ok query
        | .error _ => .error .invalidQueryJson
  | none => .error (.invalidRequest "missing query")

/-- A schema that was not met. -/
def orInvalid {α : Type} : Option α → Except RouteError α
  | some a => .ok a
  | none => .error .invalidSchema

-- ======================================================== finding actors

/-- `queryActor`: the id of the actor. -/
def queryActor (query : Value) : Except RouteError String := do
  let member (of : Value) (name : String) := orThrow (of.get name)
  if ← orThrow (query.has "getForId") then
    let byId := query.member "getForId"
    let name ← member byId "name"
    let actorId ← member byId "actorId"
    match ← registry.driver.getForId name actorId with
    | some output => return output.actorId
    | none => throw (.actorNotFound (actorId.toText registry.text))
  if ← orThrow (query.has "getForKey") then
    let byKey := query.member "getForKey"
    let name ← member byKey "name"
    let key ← member byKey "key"
    match ← registry.driver.getWithKey name key with
    | some output => return output.actorId
    | none =>
        let key ← orThrow (stringify registry.text (fun _ => none) key)
        throw (.actorNotFound
          (name.toText registry.text ++ ":" ++ key.getD "undefined"))
  if ← orThrow (query.has "getOrCreateForKey") then
    let byKey := query.member "getOrCreateForKey"
    let output ← registry.driver.getOrCreateWithKey
      (← member byKey "name") (← member byKey "key")
      (← member byKey "input") (← member byKey "region")
    return output.actorId
  if ← orThrow (query.has "create") then
    let create := query.member "create"
    let output ← registry.driver.createActor
      (← member create "name") (← member create "key")
      (← member create "input") (← member create "region")
    return output.actorId
  throw (.invalidRequest "Invalid query format")

/-- What a handler knows once a request is authenticated and its actor
found. -/
structure Authorized where
  encoding : Encoding
  connParamsRaw : Option String
  connParams : Value
  authData : Value
  actorId : String

/-- Authenticate, then find the actor. -/
def authorize (request : Request) (query : Value)
    (additionalIntents : List AuthIntent) (params : Value) :
    Except RouteError (Value × String) := do
  let authData ← authenticateEndpoint registry request query
    additionalIntents params
  let actorId ← queryActor registry query
  return (authData, actorId)

-- ============================================================ the routes

/-- The first half of `handleActionRequest`, and of
`handleSseConnectRequest`: the schema is `ConnectRequestSchema`. -/
def authorizeWithHeaders (request : Request)
    (additionalIntents : List AuthIntent) :
    Except RouteError Authorized := do
  let query ← getRequestQuery registry request
  let query ← orInvalid (actorQuerySchema query)
  let encoding ← orInvalid
    ((request.headers.get headerEncoding).bind encodingSchema)
  let connParamsRaw := request.headers.get headerConnParams
  let connParams ← parseOptional registry.text connParamsRaw
  let (authData, actorId) ← authorize registry request query
    additionalIntents connParams
  return { encoding, connParamsRaw, connParams, authData, actorId }

/-- `if (authData) headers.set(name, JSON.stringify(authData))`. A value
that `JSON.stringify` has nothing to write for is not truthy. -/
def setJson (headers : Headers) (name : String) (v : Value) :
    Except RouteError Headers :=
  if v.truthy then
    match stringify registry.text (fun _ => none) v with
    | some (some s) => orThrow (headers.set name s)
    | _ => .error .native
  else .ok headers

/-- The headers that `handleActionRequest` and `handleSseConnectRequest`
build: none of the client's. -/
def freshHeaders (authorized : Authorized) :
    Except RouteError Headers := do
  let headers ← orThrow
    (Headers.empty.set headerEncoding (encodingText authorized.encoding))
  let headers ← match authorized.connParamsRaw with
    | some s =>
        if s = "" then pure headers
        else orThrow (headers.set headerConnParams s)
    | none => pure headers
  setJson registry headers headerAuthData authorized.authData

/-- `handleActionRequest`. -/
def handleActionRequest (actionName : String) (request : Request) :
    Except RouteError ActorCall := do
  let authorized ← authorizeWithHeaders registry request [.action]
  let headers ← freshHeaders registry authorized
  Drivers.FileSystem.proxyRequest registry.text
    { route := .action actionName, headers } authorized.actorId

/-- The first half of `handleSseConnectRequest`. -/
def authorizeSse (request : Request) : Except RouteError Authorized := do
  let _ ← getRequestEncoding request
  authorizeWithHeaders registry request [.connect]

/-- `handleSseConnectRequest`. -/
def handleSseConnectRequest (request : Request) :
    Except RouteError ActorCall := do
  let authorized ← authorizeSse registry request
  let headers ← freshHeaders registry authorized
  Drivers.FileSystem.proxyRequest registry.text
    { route := .connectSse, headers } authorized.actorId

/-- The first half of `handleWebSocketConnectRequest`: the schema is
`ConnectWebSocketRequestSchema`. The hook gets the parameters as the text
they came in. -/
def authorizeWebSocketConnect (request : Request) :
    Except RouteError Authorized := do
  if !registry.upgradeWebSocket then
    throw (.webSocketsNotEnabled
      "WebSockets are not enabled for this driver. Use SSE instead.")
  let protocols ← parseWebSocketProtocols
    (request.headers.get "sec-websocket-protocol")
  let query ← match protocols.queryRaw with
    | some s =>
        match parseJson registry.text s with
        | .ok query => pure query
        | .error _ => throw .invalidQueryJson
    | none => throw .invalidQueryJson
  let connParams ← match parseOptional registry.text
      protocols.connParamsRaw with
    | .ok .undefined => pure .null
    | .ok v => pure v
    | .error _ => throw .invalidParams
  let query ← orInvalid (actorQuerySchema query)
  let encoding ← orInvalid (protocols.encodingRaw.bind encodingSchema)
  let params := match protocols.connParamsRaw with
    | some s => .str s
    | none => .undefined
  let (authData, actorId) ← authorize registry request query [.connect]
    params
  let connParamsRaw := protocols.connParamsRaw
  return { encoding, connParamsRaw, connParams, authData, actorId }

/-- `handleWebSocketConnectRequest`. -/
def handleWebSocketConnectRequest (request : Request) :
    Except RouteError ActorCall := do
  let authorized ← authorizeWebSocketConnect registry request
  Drivers.FileSystem.proxyWebSocket pathConnectWebSocket
    authorized.actorId authorized.encoding authorized.connParams
    authorized.authData

/-- `c.req.path.split(separator)[1] || ""`. -/
def subpath (separator : String) (request : Request) : String :=
  ((split separator request.path)[1]?).getD ""

/-- The first half of `handleRawHttpRequest`. The query is the client's,
whatever it is. -/
def authorizeRawHttp (request : Request) :
    Except RouteError Authorized := do
  let query ← match request.headers.get headerActorQuery with
    | some s =>
        if s = "" then
          throw (.invalidRequest "Missing actor query header")
        else parseJson registry.text s
    | none => throw (.invalidRequest "Missing actor query header")
  let connParamsRaw := request.headers.get headerConnParams
  let connParams ← parseOptional registry.text connParamsRaw
  let (authData, actorId) ← authorize registry request query [.action]
    connParams
  let encoding := Encoding.json
  return { encoding, connParamsRaw, connParams, authData, actorId }

/-- `handleRawHttpRequest`: the headers start as the client's. -/
def handleRawHttpRequest (request : Request) :
    Except RouteError ActorCall := do
  let authorized ← authorizeRawHttp registry request
  let headers ← setJson registry request.headers headerConnParams
    authorized.connParams
  let headers ← setJson registry headers headerAuthData
    authorized.authData
  Drivers.FileSystem.proxyRequest registry.text
    { route := .rawHttp (subpath "/raw/http/" request) request.search,
      headers } authorized.actorId

/-- The first half of `handleRawWebSocketRequest`. -/
def authorizeRawWebSocket (request : Request) :
    Except RouteError Authorized := do
  if !registry.upgradeWebSocket then
    throw (.webSocketsNotEnabled
      "WebSockets are not enabled for this driver.")
  let protocols ← parseWebSocketProtocols
    (request.headers.get "sec-websocket-protocol")
  let query ← match protocols.queryRaw with
    | some s =>
        if s = "" then
          throw (.invalidRequest "Missing query in WebSocket protocol")
        else parseJson registry.text s
    | none =>
        throw (.invalidRequest "Missing query in WebSocket protocol")
  let connParams ← parseOptional registry.text protocols.connParamsRaw
  let (authData, actorId) ← authorize registry request query [.action]
    connParams
  let connParamsRaw := protocols.connParamsRaw
  let encoding := Encoding.json
  return { encoding, connParamsRaw, connParams, authData, actorId }

/-- `handleRawWebSocketRequest`. -/
def handleRawWebSocketRequest (request : Request) :
    Except RouteError ActorCall := do
  let authorized ← authorizeRawWebSocket registry request
  let proxyPath := pathRawWebSocketPrefix
    ++ subpath "/raw/websocket/" request ++ request.search
  Drivers.FileSystem.proxyWebSocket proxyPath authorized.actorId .json
    authorized.connParams authorized.authData

-- ============================================================ the router

/-- `createManagerRouter`, for a path below `/registry/actors/raw/`: the
first middleware or route that takes it. The middleware does not know where
the router is mounted, so it looks at the end of the path, or at any part.
The request is none that CORS answers, and its method is one of those that
the route for raw HTTP is made for. -/
def createManagerRouter (request : Request) :
    Option (Except RouteError ActorCall) :=
  if "/actors/connect/websocket".toList <:+ request.path.toList then
    some (handleWebSocketConnectRequest registry request)
  else if "/registry/actors/raw/http/".toList <+: request.path.toList then
    some (handleRawHttpRequest registry request)
  else if "/raw/websocket/".toList <:+: request.path.toList then
    some (handleRawWebSocketRequest registry request)
  else none

end RivetKit.Manager
