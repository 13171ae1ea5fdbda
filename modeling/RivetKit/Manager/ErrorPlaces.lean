/-
Where an error can be thrown while a client's request is served, and what
the client gets for it (manager/router.ts, actor/router.ts,
actor/router-endpoints.ts, actor/protocol/old.ts).

# Two routers

The manager's handlers catch what is thrown around them, and what they
throw on ends at `mountedRouter.onError`. A request that they hand on
ends at the `onError` of the actor's router, which looks at the headers
of that request. A WebSocket's handlers run beside the actor and look at
the client's own request (`c.req.raw`).

What is thrown is an instance of `Error`, as `onError` asks for. The
`.test` routes and what `modifyManagerRouter` adds are no part of this.
-/
import RivetKit.Common.Errors
import RivetKit.Manager.Proofs.AuthData

namespace RivetKit.Manager

open Http
open Js
open Actor
open Common
open Protocol

-- ================================================================ routes

/-- The routes of a client. -/
inductive ClientRoute
  | resolve
  | connectWebSocket
  | connectSse
  | action (name : String)
  | message
  | rawHttp
  | rawWebSocket
  | inspect

/-- Where an error is thrown. -/
inductive Place
  /-- In a handler of the manager: its hooks, its driver, its own
  checks. -/
  | manager (route : ClientRoute)
  /-- In `handleWebSocketConnectRequest` behind `encoding = …`. -/
  | managerEncoded (encoding : Encoding)
  /-- In the `JSON.parse` of the query. -/
  | queryJson (route : ClientRoute)
  /-- In the `JSON.parse` of the parameters. -/
  | paramsJson (route : ClientRoute)
  /-- In the actor's router and behind it: its hooks, its actions, its
  state. -/
  | actor (route : ClientRoute)
  /-- In the `JSON.parse` of `getRequestConnParams`. -/
  | actorParamsJson (route : ClientRoute)
  /-- In the stream of `handleSseConnect`. -/
  | sseStream
  /-- In `loadActor`, `onOpen` or `onMessage` of
  `handleWebSocketConnect`. -/
  | webSocket
  /-- In `processMessage`, of an action or none. -/
  | processMessage (actionId : Option Nat)
  /-- In `onWebSocket`. -/
  | rawWebSocketOpen

/-- What a client gets for an error. -/
inductive Observation
  | response (response : ErrorResponse)
  /-- An `Error` message in an event. -/
  | sseError (encoding : Encoding) (error : ErrorBody)
  /-- An `error` event, where the encoding is not known. -/
  | sseCode (code : String)
  /-- An `Error` message, then the close. -/
  | socketError (encoding : Encoding) (error : ErrorBody)
      (closeCode : Nat) (reason : String)
  | close (closeCode : Nat) (reason : String)
  /-- An `Error` message on the connection. -/
  | message (error : ErrorBody) (actionId : Option Nat)
  | streamClosed
  | nothing

variable (registry : Registry)

-- ============================================================ the manager

/-- The `catch` of `handleActionRequest`, `handleMessageRequest` and
`handleRawHttpRequest`. An `Error` in the actor does not get here: the
actor's `onError` has made a response of it. -/
def proxyCatch (operation : String) (error : Thrown) : Thrown :=
  match error with
  | .actorError _ => error
  | .other _ _ _ => .actorError (proxyError operation error)

/-- What an error in a handler of the manager, and behind its inner
`try`s, comes to. -/
def managerError (route : ClientRoute) (request : Request)
    (error : Thrown) : Observation :=
  let onError (error : Thrown) : Observation :=
    .response (handleRouteError false error request.headers)
  match route with
  | .resolve => onError error
  | .connectWebSocket => .close 1011 (deconstructError error false).code
  | .connectSse =>
      match requestEncoding request.headers with
      | some encoding =>
          .sseError encoding (deconstructError error false).body
      | none => .sseCode (deconstructError error false).code
  | .action _ => onError (proxyCatch "Action call" error)
  | .message => onError (proxyCatch "connection message" error)
  | .rawHttp => onError (proxyCatch "Raw HTTP request" error)
  | .rawWebSocket => .close 1011 (deconstructError error false).code
  | .inspect => onError error

/-- `getRequestQuery` and `handleWebSocketConnectRequest` have a `try`
around the `JSON.parse` of the query, the other routes have none. -/
def queryJsonCatch (route : ClientRoute) (error : Thrown) : Thrown :=
  match route with
  | .resolve | .connectWebSocket | .connectSse | .action _ =>
      .actorError (invalidQueryJson error)
  | .message | .rawHttp | .rawWebSocket | .inspect => error

/-- `handleWebSocketConnectRequest` has one around that of the
parameters. -/
def paramsJsonCatch (route : ClientRoute) (error : Thrown) : Thrown :=
  match route with
  | .connectWebSocket => .actorError (invalidParams error)
  | .resolve | .connectSse | .action _ | .message | .rawHttp
  | .rawWebSocket | .inspect => error

-- ============================================================== the actor

/-- The headers a handler of the actor's router sees. -/
def handlerHeaders : ActorHandler → Option Headers
  | .handleSseConnect headers => some headers
  | .handleAction _ headers => some headers
  | .handleFetch _ _ headers => some headers
  | .handleWebSocketConnect _ _ => none
  | .handleRawWebSocket _ => none

/-- The headers of the call that a route of the manager makes. -/
def callHeaders (route : Route) (request : Request) : Option Headers :=
  match serve registry route request with
  | .ok call => handlerHeaders call.handler
  | .error _ => none

/-- `HEADER_ACTOR_ID`, `HEADER_CONN_ID` and `HEADER_CONN_TOKEN`. -/
def headerActorId : String := "X-RivetKit-Actor"

def headerConnId : String := "X-RivetKit-Conn"

def headerConnToken : String := "X-RivetKit-Conn-Token"

/-- The headers that `handleMessageRequest` builds, if
`ConnMessageRequestSchema` is met. -/
def messageHeaders (request : Request) : Option Headers := do
  let _ ← request.headers.get headerActorId
  let connId ← request.headers.get headerConnId
  let encoding ← (request.headers.get headerEncoding).bind encodingSchema
  let connToken ← request.headers.get headerConnToken
  Headers.empty.setAll
    [(headerEncoding, encodingText encoding), (headerConnId, connId),
      (headerConnToken, connToken)]

/-- The headers of the request that an actor's router gets for a client's
request, if it gets one. `universalActorProxy` hands the client's on. -/
def actorHeaders (route : ClientRoute) (request : Request) :
    Option Headers :=
  match route with
  | .resolve => none
  | .connectWebSocket => none
  | .connectSse => callHeaders registry .connectSse request
  | .action name => callHeaders registry (.action name) request
  | .message => messageHeaders request
  | .rawHttp => callHeaders registry .rawHttp request
  | .rawWebSocket => none
  | .inspect => some request.headers

/-- `handleAction` and `handleSseConnect` call `getRequestConnParams`,
with its `try`. -/
def actorParamsCatch (route : ClientRoute) (error : Thrown) : Thrown :=
  match route with
  | .connectSse | .action _ => .actorError (invalidParams error)
  | .resolve | .connectWebSocket | .message | .rawHttp | .rawWebSocket
  | .inspect => error

/-- What an error in the actor's router comes to, if the request gets
there: its `onError` makes the response, and the manager hands it on. -/
def actorError (route : ClientRoute) (request : Request) (error : Thrown) :
    Observation :=
  match actorHeaders registry route request with
  | some headers => .response (handleRouteError true error headers)
  | none => .nothing

-- ======================================================= what a client sees

/-- What a client gets for an error that is thrown at a place while its
request is served. -/
def observe (place : Place) (request : Request) (error : Thrown) :
    Observation :=
  match place with
  | .manager route => managerError route request error
  | .managerEncoded encoding =>
      let deconstructed := deconstructError error false
      .socketError encoding deconstructed.body 1011 deconstructed.code
  | .queryJson route =>
      managerError route request (queryJsonCatch route error)
  | .paramsJson route =>
      managerError route request (paramsJsonCatch route error)
  | .actor route => actorError registry route request error
  | .actorParamsJson route =>
      actorError registry route request (actorParamsCatch route error)
  | .sseStream => .streamClosed
  | .webSocket =>
      match serve registry .connectWebSocket request with
      | .ok _ =>
          .close 1011 (deconstructError error
            (getRequestExposeInternalError request.headers)).code
      | .error _ => .nothing
  | .processMessage actionId =>
      .message (deconstructError error false).body actionId
  | .rawWebSocketOpen => .nothing

end RivetKit.Manager
