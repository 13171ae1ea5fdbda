/-
The manager's client endpoints over a run of the file-system driver: what
each of them authenticates, and which actor it reaches
(manager/router.ts, manager/auth.ts).

# Two lookups

A handler reads its query (`readRoute`), runs a definition's `onAuth`
(`authenticateEndpoint`) and asks the driver for the actor
(`queryActor`). The driver is asked once more before, where the query has
an id, and the driver changes in between: both are steps of their own, as
are the loads, writes and sleeps of any actor.

# What is recorded

A request that is past `onAuth` has the name whose definition it ran for
and the intents it was passed, and later the driver's operation and the
actor's id. `created` has the names and keys that states were created
with, as long as one of these states may be around.
-/
import RivetKit.Drivers.FileSystem.Lookups
import RivetKit.Manager.Proofs.AuthData

namespace RivetKit.Manager

open Http
open Js
open Actor
open Protocol
open Transition
open Drivers.FileSystem

variable (registry : Registry)

-- ============================================================ the routes

/-- The endpoints that take a query. -/
inductive QueryRoute
  | actor (route : Route)
  | resolve

/-- What a handler passes to `authenticateEndpoint`. -/
structure ClientQuery where
  query : Value
  additionalIntents : List AuthIntent
  params : Value

/-- A query from the header, with its schema. -/
def readHeaders (request : Request) (additionalIntents : List AuthIntent) :
    Except RouteError ClientQuery := do
  let query ← getRequestQuery registry request
  let query ← orInvalid (actorQuerySchema query)
  let _ ← orInvalid ((request.headers.get headerEncoding).bind encodingSchema)
  let params ← parseOptional registry.text
    (request.headers.get headerConnParams)
  return { query, additionalIntents, params }

/-- The first half of `handleResolveRequest`. -/
def authorizeResolve (request : Request) :
    Except RouteError (Value × String) := do
  let _ ← getRequestEncoding request
  let query ← getRequestQuery registry request
  let query ← orInvalid (actorQuerySchema query)
  let connParams ← parseOptional registry.text
    (request.headers.get headerConnParams)
  authorize registry request query [] connParams

/-- What each handler reads before it authenticates the request. -/
def readRoute (route : QueryRoute) (request : Request) :
    Except RouteError ClientQuery :=
  match route with
  | .actor (.action _) => readHeaders registry request [.action]
  | .actor .connectSse => do
      let _ ← getRequestEncoding request
      readHeaders registry request [.connect]
  | .actor .connectWebSocket => do
      if !registry.upgradeWebSocket then
        throw (.webSocketsNotEnabled
          "WebSockets are not enabled for this driver. Use SSE instead.")
      let protocols ← parseWebSocketProtocols
        (request.headers.get "sec-websocket-protocol")
      let query ← match protocols.queryRaw with
        | some s =>
            match parseJson registry.text s with
            | .ok query => pure query
            | .error _ => throw .invalidQueryJson
        | none => throw .invalidQueryJson
      let _ ← match parseOptional registry.text
          protocols.connParamsRaw with
        | .ok v => pure v
        | .error _ => throw .invalidParams
      let query ← orInvalid (actorQuerySchema query)
      let _ ← orInvalid (protocols.encodingRaw.bind encodingSchema)
      let params := match protocols.connParamsRaw with
        | some s => .str s
        | none => .undefined
      return { query, additionalIntents := [.connect], params }
  | .actor .rawHttp => do
      let query ← match request.headers.get headerActorQuery with
        | some s =>
            if s = "" then
              throw (.invalidRequest "Missing actor query header")
            else parseJson registry.text s
        | none => throw (.invalidRequest "Missing actor query header")
      let params ← parseOptional registry.text
        (request.headers.get headerConnParams)
      return { query, additionalIntents := [.action], params }
  | .actor .rawWebSocket => do
      if !registry.upgradeWebSocket then
        throw (.webSocketsNotEnabled
          "WebSockets are not enabled for this driver.")
      let protocols ← parseWebSocketProtocols
        (request.headers.get "sec-websocket-protocol")
      let query ← match protocols.queryRaw with
        | some s =>
            if s = "" then
              throw (.invalidRequest "Missing query in WebSocket protocol")
            else parseJson registry.text s
        | none =>
            throw (.invalidRequest "Missing query in WebSocket protocol")
      let params ← parseOptional registry.text protocols.connParamsRaw
      return { query, additionalIntents := [.action], params }
  | .resolve => do
      let _ ← getRequestEncoding request
      let query ← getRequestQuery registry request
      let query ← orInvalid (actorQuerySchema query)
      let params ← parseOptional registry.text
        (request.headers.get headerConnParams)
      return { query, additionalIntents := [], params }

-- ============================================================ operations

/-- An operation of the driver. -/
inductive DriverCall
  | getForId (name actorId : Value)
  | getWithKey (name key : Value)
  | getOrCreateWithKey (name key input region : Value)
  | createActor (name key input region : Value)

namespace DriverCall

/-- It may create an actor. -/
def mayCreate : DriverCall → Bool
  | getForId _ _ => false
  | getWithKey _ _ => false
  | getOrCreateWithKey _ _ _ _ => true
  | createActor _ _ _ _ => true

/-- The name and the key it computes an id from. -/
def byKey : DriverCall → Option (Value × Value)
  | getForId _ _ => none
  | getWithKey name key => some (name, key)
  | getOrCreateWithKey name key _ _ => some (name, key)
  | createActor name key _ _ => some (name, key)

/-- The operation, and the id that `queryActor` takes from it. -/
def run : DriverCall → Except RouteError String
  | getForId name actorId => do
      match ← registry.driver.getForId name actorId with
      | some output => return output.actorId
      | none => throw (.actorNotFound (actorId.toText registry.text))
  | getWithKey name key => do
      match ← registry.driver.getWithKey name key with
      | some output => return output.actorId
      | none =>
          let key ← orThrow (stringify registry.text (fun _ => none) key)
          throw (.actorNotFound
            (name.toText registry.text ++ ":" ++ key.getD "undefined"))
  | getOrCreateWithKey name key input region => do
      let output ← registry.driver.getOrCreateWithKey name key input region
      return output.actorId
  | createActor name key input region => do
      let output ← registry.driver.createActor name key input region
      return output.actorId

end DriverCall

/-- The operation that `queryActor` executes. -/
def queryCall (query : Value) : Except RouteError DriverCall := do
  let member (of : Value) (name : String) := orThrow (of.get name)
  if ← orThrow (query.has "getForId") then
    let byId := query.member "getForId"
    return .getForId (← member byId "name") (← member byId "actorId")
  if ← orThrow (query.has "getForKey") then
    let byKey := query.member "getForKey"
    return .getWithKey (← member byKey "name") (← member byKey "key")
  if ← orThrow (query.has "getOrCreateForKey") then
    let byKey := query.member "getOrCreateForKey"
    return .getOrCreateWithKey
      (← member byKey "name") (← member byKey "key")
      (← member byKey "input") (← member byKey "region")
  if ← orThrow (query.has "create") then
    let create := query.member "create"
    return .createActor
      (← member create "name") (← member create "key")
      (← member create "input") (← member create "region")
  throw (.invalidRequest "Invalid query format")

/-- The name and the intents that `authenticateEndpoint` finds a
definition and runs its `onAuth` with. -/
def hookRun (query : Value) (additionalIntents : List AuthIntent) :
    Except RouteError (String × List AuthIntent) := do
  let intents ← getIntentsFromQuery query
  let intents := additionalIntents.foldl addIntent intents
  let actorName ← getActorNameFromQuery registry query
  return (actorName.toText registry.text, intents)

-- ================================================================ a run

/-- Where a request is that is past `onAuth`. -/
inductive QueryPc
  | authenticated
  | writing (actorId : String)
  | reached (actorId : String)
  | failed
  deriving DecidableEq

/-- A request past `onAuth`. -/
structure QueryRequest where
  query : Value
  definition : String
  intents : List AuthIntent
  call : Option DriverCall := none
  pc : QueryPc := .authenticated

/-- The manager and its driver. -/
structure Endpoints where
  directory : Directory
  requests : List QueryRequest := []
  created : List (Value × Value) := []

variable (hash getActorStatePath : String → String)

/-- The registry, with the driver as a call finds it. -/
def Endpoints.registryAt (e : Endpoints) (found : Option Nat) : Registry :=
  { registry with
    driver := e.directory.managerDriver registry.text hash found }

/-- The state that an operation creates. -/
def DriverCall.creates (d : Directory) (found : Option Nat) :
    DriverCall → Option StoredActor
  | getForId _ _ => none
  | getWithKey _ _ => none
  | getOrCreateWithKey name key _ _ =>
      match generateActorId registry.text hash name key with
      | .ok actorId =>
          if (d.loaded found actorId).isNone then
            some { actorId, name, key }
          else none
      | .error _ => none
  | createActor name key _ _ =>
      match generateActorId registry.text hash name key with
      | .ok actorId =>
          if (d.entries actorId).isNone then some { actorId, name, key }
          else none
      | .error _ => none

/-- Whether it creates it in the entry of the map. -/
def DriverCall.attaches (found : Option Nat) : DriverCall → Bool
  | createActor _ _ _ _ => true
  | _ => found.isNone

/-- What happens to the manager and its driver. -/
inductive EndpointStep
  | authenticate (route : QueryRoute) (request : Request)
      (found : Option Nat)
  | queryActor (r : Nat) (found : Option Nat)
  | written (r : Nat) (ok : Bool)
  | upsertEntry (actorId : String)
  | readFile (attached : Bool) (actorId : String)
  | writePersistedData (found : Option Nat) (actorId : String)
  | endWrite (actorId : String) (i : Nat)
  | endSleep (actorId : String)
  | restart

namespace Endpoints

/-- A request runs `onAuth`. One that fails is answered and forgotten. -/
def authenticate (e : Endpoints) (route : QueryRoute) (request : Request)
    (found : Option Nat) : Except RouteError Endpoints := do
  let registryAt := e.registryAt registry hash found
  let read ← readRoute registryAt route request
  let (definition, intents) ← hookRun registryAt read.query
    read.additionalIntents
  let _ ← authenticateEndpoint registryAt request read.query
    read.additionalIntents read.params
  let query := read.query
  return { e with
    requests := e.requests ++ [{ query, definition, intents }] }

/-- Where a request is after its operation. -/
def pcAfter (persist created : Bool) :
    Except RouteError String → QueryPc
  | .ok actorId =>
      if created && persist then .writing actorId else .reached actorId
  | .error _ => .failed

/-- A request executes its operation. -/
def queryActor (e : Endpoints) (r : Nat) (found : Option Nat) :
    Option Endpoints := do
  let request ← e.requests[r]?
  if request.pc ≠ .authenticated then none
  else
    match queryCall request.query with
    | .error _ =>
        some { e with
          requests := e.requests.set r { request with pc := .failed } }
    | .ok call =>
        let creates := call.creates registry hash e.directory found
        let pc := pcAfter e.directory.persist creates.isSome
          (call.run (e.registryAt registry hash found))
        let requests := e.requests.set r
          { request with call := some call, pc }
        match creates with
        | some state =>
            some
              { directory := e.directory.create (call.attaches found) state
                requests
                created := e.created ++ [(state.name, state.key)] }
        | none => some { e with requests }

/-- The write that a request waits for has ended. -/
def written (e : Endpoints) (r : Nat) (ok : Bool) : Option Endpoints := do
  let request ← e.requests[r]?
  match request.pc with
  | .writing actorId =>
      let pc := if ok then .reached actorId else .failed
      some { e with requests := e.requests.set r { request with pc } }
  | _ => none

/-- The process starts again. What no file can have is gone. -/
def restart (e : Endpoints) : Endpoints :=
  { directory := e.directory.restart
    created := e.created.filter fun c =>
      e.directory.persist && (writtenName registry.text c.1).isSome }

/-- A step of the driver alone. -/
def withDirectory (e : Endpoints) (d : Option Directory) :
    Option Endpoints :=
  d.map fun directory => { e with directory }

/-- One step. -/
def step (e : Endpoints) : EndpointStep → Option Endpoints
  | .authenticate route request found =>
      (e.authenticate registry hash route request found).toOption
  | .queryActor r found => e.queryActor registry hash r found
  | .written r ok => e.written r ok
  | .upsertEntry actorId =>
      e.withDirectory (some (e.directory.upsertEntry actorId))
  | .readFile attached actorId =>
      e.withDirectory
        (e.directory.readFile getActorStatePath attached actorId)
  | .writePersistedData found actorId =>
      e.withDirectory (e.directory.writePersistedData found actorId)
  | .endWrite actorId i =>
      e.withDirectory
        (e.directory.endWrite registry.text getActorStatePath actorId i)
  | .endSleep actorId => e.withDirectory (e.directory.endSleep actorId)
  | .restart => some (e.restart registry)

end Endpoints

/-- The manager over the file-system driver, from an empty state
directory. -/
def endpoints (persist : Bool) : System Endpoints EndpointStep :=
  { init := fun e => e = { directory := { persist } }
    step := Endpoints.step registry hash getActorStatePath }

end RivetKit.Manager
