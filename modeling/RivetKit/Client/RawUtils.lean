/-
Raw requests of the client (client/raw-utils.ts): the path that is given
goes behind a prefix of the manager's, and the URL is parsed where the
request is made (client/http-client-driver.ts).

A `URL` or a `Request` counts as the string of its path and search part.
-/
import RivetKit.Client.HttpClientDriver
import RivetKit.Lib.Url

namespace RivetKit.Client

open Http
open Js
open Manager

variable (text : NumberText)

/-- `path.startsWith("/") ? path.slice(1) : path`. -/
def normalizedPath (path : String) : String :=
  (afterStart "/" path).getD path

/-- The request for a URL. -/
def requestAt (url : Url) (request : Request) : Request :=
  { request with path := url.pathname, search := url.search }

@[simp] theorem requestAt_headers (url : Url) (request : Request) :
    (requestAt url request).headers = request.headers := rfl

/-- `rawHttpFetch`: `driver.rawHttpRequest(…)`. -/
def rawHttpFetch (actorQuery params : Value) (path : String)
    (init : Headers) : Option Request :=
  let url :=
    parseUrl ("/registry/actors/raw/http/" ++ normalizedPath path)
  (HttpClientDriver.rawHttpRequest text actorQuery .json params "" ""
    init).map (requestAt url)

/-- `rawWebSocket`: `driver.rawWebSocket(…)`. -/
def rawWebSocket (actorQuery params : Value) (path : String)
    (protocols : List String) : Option Request :=
  let url :=
    parseUrl ("/registry/actors/raw/websocket/" ++ normalizedPath path)
  (HttpClientDriver.rawWebSocket text actorQuery .json params "" ""
    protocols).map (requestAt url)

end RivetKit.Client
