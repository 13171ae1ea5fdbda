/-
`EngineManagerDriver` (drivers/engine/manager-driver.ts): how requests
to actors are sent through the guard.

The guard routes by `x-rivet-target`, `x-rivet-actor` and `x-rivet-port`;
the actor behind it reads the `X-RivetKit-` headers. An HTTP request
keeps its own headers and gets the guard's on top; for a WebSocket a
plain object is built and the client's headers go into it.

`invariant(upgradeWebSocket)` is assumed to hold: without an upgrade
function the driver serves no WebSockets at all.
-/
import RivetKit.Actor.RouterEndpoints
import RivetKit.Drivers.Engine.WsProxy
import RivetKit.Lib.Json

namespace RivetKit.Drivers.Engine

open Actor
open Http
open Js
open Protocol

variable (text : NumberText)

/-- `if (v) headers[name] = JSON.stringify(v)`, or `none` where
`JSON.stringify` throws. A value it has nothing to write for is not
truthy. -/
def assignJson (headers : Record) (name : String) (v : Value) :
    Option Record :=
  if v.truthy then
    match stringify text (fun _ => none) v with
    | some (some s) => some (headers.assign name s)
    | _ => none
  else some headers

/-- `buildGuardHeadersForWebSocket`. -/
def buildGuardHeadersForWebSocket (actorId : String)
    (encoding : Encoding) (params authData : Value) : Option Record :=
  let headers : Record := []
  let headers := headers.assign "x-rivet-target" "actor"
  let headers := headers.assign "x-rivet-actor" actorId
  let headers := headers.assign "x-rivet-port" "main"
  let headers := headers.assign headerExposeInternalError "true"
  let headers := headers.assign headerEncoding (encodingText encoding)
  match assignJson text headers headerConnParams params with
  | some headers => assignJson text headers headerAuthData authData
  | none => none

/-- The URL of the guard for a WebSocket. -/
def wsGuardUrl (endpoint path : String) : String :=
  String.ofList
    (replaceFirst "http://".toList "ws://".toList
      (endpoint ++ path).toList)

/-- `EngineManagerDriver.proxyWebSocket`, or `none` where it throws. -/
def proxyWebSocket (endpoint : String) (clientHeaders : Headers)
    (path actorId : String) (encoding : Encoding)
    (params authData : Value) : Option UpgradeWebSocketArgs :=
  match buildGuardHeadersForWebSocket text actorId encoding params
      authData with
  | some headers =>
      some (createWebSocketProxy clientHeaders (wsGuardUrl endpoint path)
        headers)
  | none => none

/-- `buildGuardHeadersForHttp`, or `none` where `set` throws. -/
def buildGuardHeadersForHttp (requestHeaders : Headers)
    (actorId : String) : Option Headers :=
  let copied := requestHeaders.entries.foldl
    (fun headers e => headers.bind (·.set e.1 e.2)) (some Headers.empty)
  copied.bind fun headers =>
    (headers.set "x-rivet-target" "actor").bind fun headers =>
      (headers.set "x-rivet-actor" actorId).bind fun headers =>
        headers.set "x-rivet-port" "main"

end RivetKit.Drivers.Engine
