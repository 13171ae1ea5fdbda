/-
The connection parameters that an actor's hooks see: `getRequestConnParams`
and the handlers (actor/router-endpoints.ts), `prepareConn`
(actor/instance.ts).

Raw requests and raw WebSockets make no connection.
-/
import RivetKit.Manager.Router

namespace RivetKit.Actor

open Http
open Js
open Manager
open Protocol

variable (text : NumberText)

/-- `getRequestConnParams`. -/
def getRequestConnParams (headers : Headers) : Except RouteError Value :=
  match headers.get headerConnParams with
  | some s =>
      if s = "" then .ok .null
      else
        match parseJson text s with
        | .ok v => .ok v
        | .error _ => .error .invalidParams
  | none => .ok .null

/-- Which hooks an actor's config has. -/
structure ConnConfig where
  onBeforeConnect : Bool
  createConnState : Bool

/-- A call of one of them. -/
inductive HookCall
  | onBeforeConnect (params : Value)
  | createConnState (params : Value)

/-- The calls that `prepareConn` makes. -/
def prepareConn (config : ConnConfig) (params : Value) : List HookCall :=
  (if config.onBeforeConnect then [.onBeforeConnect params] else [])
    ++ (if config.createConnState then [.createConnState params] else [])

/-- The calls that a handler makes until its connection is prepared. -/
def ActorHandler.hookCalls (config : ConnConfig) :
    ActorHandler → Except RouteError (List HookCall)
  | .handleSseConnect headers | .handleAction _ headers => do
      let _ ← getRequestEncoding { path := "", search := "", headers }
      let parameters ← getRequestConnParams text headers
      return prepareConn config parameters
  | .handleWebSocketConnect _ connParams =>
      .ok (prepareConn config connParams)
  | .handleFetch _ _ _ => .ok []
  | .handleRawWebSocket _ => .ok []

end RivetKit.Actor
