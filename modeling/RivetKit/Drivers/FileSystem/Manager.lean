/-
How `FileSystemManagerDriver` hands requests to actors
(drivers/file-system/manager.ts): the actors run in the same process, so
a request goes to a router beside it and a WebSocket to its handler.
-/
import RivetKit.Actor.Router

namespace RivetKit.Drivers.FileSystem

open Js
open Actor
open Manager
open Protocol

variable (text : NumberText)

/-- `proxyRequest`. -/
def proxyRequest (actorRequest : ActorRequest) (actorId : String) :
    Except RouteError ActorCall :=
  actorRouterFetch text actorRequest actorId

/-- `proxyWebSocket`. -/
def proxyWebSocket (path actorId : String) (encoding : Encoding)
    (connParams authData : Value) : Except RouteError ActorCall :=
  if path = pathConnectWebSocket then
    .ok
      { actorId
        handler := .handleWebSocketConnect encoding connParams
        authData }
  else
    match afterStart pathRawWebSocketPrefix path with
    | some _ =>
        .ok { actorId, handler := .handleRawWebSocket path, authData }
    | none => .error .native

end RivetKit.Drivers.FileSystem
