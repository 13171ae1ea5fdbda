/-
The requests that the client's HTTP driver makes
(client/http-client-driver.ts), with the connection parameters in a
header or a subprotocol. Where the platform throws before anything is
sent there is no request: `fetch` wants header values of bytes, and
`WebSocket` wants subprotocols that are tokens.

What a URL's path and search part are is left to whoever parses it.
-/
import RivetKit.Lib.Subprotocols
import RivetKit.Actor.RouterEndpoints
import RivetKit.Manager.Auth

namespace RivetKit.Client.HttpClientDriver

open Http
open Js
open Actor
open Manager
open Protocol

variable (text : NumberText)

/-- `JSON.stringify(v)`, of a value that it writes something for. -/
def jsonText (v : Value) : Option String :=
  (stringify text (fun _ => none) v).bind id

/-- `...(params !== undefined ? { [HEADER_CONN_PARAMS]: … } : {})`. -/
def paramsHeaders (params : Value) : Option (List (String × String)) :=
  if params.isDefined then
    (jsonText text params).map fun s => [(headerConnParams, s)]
  else some []

/-- The headers of `action` and of `connectSse`. -/
def connHeaders (actorQuery : Value) (encoding : Encoding)
    (params : Value) : Option Headers := do
  let query ← jsonText text actorQuery
  let paramsHeaders ← paramsHeaders text params
  Headers.empty.setAll
    ([(headerEncoding, encodingText encoding), (headerActorQuery, query)]
      ++ paramsHeaders)

/-- `action`. -/
def action (actorQuery : Value) (encoding : Encoding) (params : Value)
    (name : String) : Option Request := do
  let headers ← connHeaders text actorQuery encoding params
  return {
    path := "/registry/actors/actions/" ++ encodeURIComponent name
    search := ""
    headers }

/-- `connectSse`. -/
def connectSse (actorQuery : Value) (encoding : Encoding)
    (params : Value) : Option Request := do
  let headers ← connHeaders text actorQuery encoding params
  return { path := "/registry/actors/connect/sse", search := "", headers }

/-- `rawHttpRequest`, with the headers of its `init`. -/
def rawHttpRequest (actorQuery : Value) (encoding : Encoding)
    (params : Value) (path search : String) (init : Headers) :
    Option Request := do
  let query ← jsonText text actorQuery
  let paramsHeaders ← paramsHeaders text params
  let headers ← init.setAll
    ([(headerActorQuery, query), (headerEncoding, encodingText encoding)]
      ++ paramsHeaders)
  return {
    path := "/registry/actors/raw/http/" ++ path
    search
    headers }

/-- The subprotocols of `connectWebSocket` and of `rawWebSocket`. Only
parameters that are truthy are among them. -/
def connProtocols (actorQuery : Value) (encoding : Encoding)
    (params : Value) : Option (List String) := do
  let query ← jsonText text actorQuery
  let protocols :=
    ["query." ++ encodeURIComponent query,
      "encoding." ++ encodingText encoding]
  if params.truthy then
    let connParams ← jsonText text params
    return protocols
      ++ ["conn_params." ++ encodeURIComponent connParams, "rivetkit"]
  else return protocols ++ ["rivetkit"]

/-- `new WebSocket(url, protocols)`. -/
def openWebSocket (path search : String) (protocols : List String) :
    Option Request := do
  let header ← protocolHeader protocols
  let headers ← Headers.empty.set "sec-websocket-protocol" header
  return { path, search, headers }

/-- `connectWebSocket`. -/
def connectWebSocket (actorQuery : Value) (encoding : Encoding)
    (params : Value) : Option Request := do
  let protocols ← connProtocols text actorQuery encoding params
  openWebSocket "/registry/actors/connect/websocket" "" protocols

/-- `rawWebSocket`, with the application's own `protocols` behind the
driver's. -/
def rawWebSocket (actorQuery : Value) (encoding : Encoding)
    (params : Value) (path search : String) (protocols : List String) :
    Option Request := do
  let protocolList ← connProtocols text actorQuery encoding params
  openWebSocket ("/registry/actors/raw/websocket/" ++ path) search
    (protocolList ++ protocols)

end RivetKit.Client.HttpClientDriver
