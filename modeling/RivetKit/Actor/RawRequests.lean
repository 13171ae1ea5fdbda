/-
The URLs that `onFetch` and `onWebSocket` see: the router's route for raw
HTTP (actor/router.ts) and `handleRawWebSocketHandler`
(actor/router-endpoints.ts) take a prefix off the path.
-/
import RivetKit.Actor.Router
import RivetKit.Lib.Url

namespace RivetKit.Actor

open Js

/-- `pathname.replace(/^start/, "") || "/"`. -/
def withoutStart (start pathname : String) : String :=
  let path := (afterStart start pathname).getD pathname
  if path = "" then "/" else path

variable (accepts : List Char → Bool)

/-- `correctedUrl`, of a request for
`http://actor/raw/http/${subpath}${search}`. -/
def correctedUrl (subpath search : String) : Option Url :=
  let url := parseUrl ("/raw/http/" ++ subpath ++ search)
  let originalPath := withoutStart "/raw/http" url.pathname
  resolveUrl accepts (originalPath ++ url.search)

/-- `newRequest.url`, in `onOpen`. -/
def newRequestUrl (path : String) : Option Url := do
  let url ← resolveUrl accepts path
  let pathname := withoutStart "/raw/websocket" url.pathname
  return parseUrl (pathname ++ url.search)

/-- The URL of the request that the actor's own handler gets. -/
def ActorHandler.requestUrl : ActorHandler → Option Url
  | .handleFetch subpath search _ => correctedUrl accepts subpath search
  | .handleRawWebSocket path => newRequestUrl accepts path
  | .handleSseConnect _ | .handleAction _ _
  | .handleWebSocketConnect _ _ => none

end RivetKit.Actor
