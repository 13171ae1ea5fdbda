/-
The routes of an actor's router that take auth data (actor/router.ts).

A request to the router is the route that its URL matches and its
headers; what a route does is told by the call it makes. The auth data
come in a header that only the manager is meant to set.
-/
import RivetKit.Actor.RouterEndpoints
import RivetKit.Manager.Auth

namespace RivetKit.Actor

open Http
open Js
open Manager
open Protocol

/-- `PATH_CONNECT_WEBSOCKET`. -/
def pathConnectWebSocket : String := "/connect/websocket"

/-- `PATH_RAW_WEBSOCKET_PREFIX`. -/
def pathRawWebSocketPrefix : String := "/raw/websocket/"

/-- The routes. -/
inductive ActorRoute
  | connectSse
  | action (name : String)
  | rawHttp (subpath search : String)

/-- A request to the router. -/
structure ActorRequest where
  route : ActorRoute
  headers : Headers

/-- What runs inside the actor. -/
inductive ActorHandler
  | handleSseConnect (headers : Headers)
  | handleAction (name : String) (headers : Headers)
  | handleFetch (subpath search : String) (headers : Headers)
  | handleWebSocketConnect (encoding : Encoding) (connParams : Value)
  | handleRawWebSocket (path : String)

/-- A call into an actor, with the auth data it gets. -/
structure ActorCall where
  actorId : String
  handler : ActorHandler
  authData : Value

variable (text : NumberText)

/-- `JSON.parse`. -/
def parseJson (s : String) : Except RouteError Value :=
  orThrow ((parse text s).map Json.toValue)

/-- `raw ? JSON.parse(raw) : undefined`, of a header or a protocol that
may be absent. -/
def parseOptional (raw : Option String) : Except RouteError Value :=
  match raw with
  | some s => if s = "" then .ok .undefined else parseJson text s
  | none => .ok .undefined

/-- The auth data that a route reads. -/
def requestAuthData (headers : Headers) : Except RouteError Value :=
  parseOptional text (headers.get headerAuthData)

/-- `router.get("/connect/sse")`, `router.post("/action/:action")` and
`router.all("/raw/http/*")`. -/
def actorRouterFetch (request : ActorRequest) (actorId : String) :
    Except RouteError ActorCall := do
  let authData ← requestAuthData text request.headers
  let handler := match request.route with
    | .connectSse => .handleSseConnect request.headers
    | .action name => .handleAction name request.headers
    | .rawHttp subpath search =>
        .handleFetch subpath search request.headers
  return { actorId, handler, authData }

end RivetKit.Actor
