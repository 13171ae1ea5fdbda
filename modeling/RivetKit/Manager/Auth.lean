/-
Authenticating a request to the manager (manager/auth.ts).

The intents are a JavaScript `Set`, here the list of its members in the
order they were added. What the driver and the actors' `onAuth` hooks
answer is a parameter.
-/
import RivetKit.Lib.Headers
import RivetKit.Manager.Query

namespace RivetKit.Manager

open Js
open Http

/-- Where a request to the manager ends that is not answered by the
actor. -/
inductive RouteError
  | invalidRequest (error : String)
  /-- `InvalidRequest` of what zod says. -/
  | invalidSchema
  | invalidQueryJson
  | invalidParams
  | invalidEncoding (format : String)
  | actorNotFound (identifier : String)
  | forbidden (message : String)
  | webSocketsNotEnabled (message : String)
  /-- What `JSON.parse`, `Headers.set`, `in` and the like throw. -/
  | native
  /-- What a hook or the driver throws. -/
  | thrown (v : Value)

/-- `AuthIntent`. -/
inductive AuthIntent
  | get
  | create
  | connect
  | action
  | message
  deriving DecidableEq

/-- What a handler reads of a request: the path, the search part of the
URL, and the headers. -/
structure Request where
  path : String
  search : String
  headers : Headers

/-- `ActorOutput`. -/
structure ActorOutput where
  actorId : String
  name : String
  key : List String

/-- `ActorDefinition`, by its `onAuth` hook. -/
structure ActorDefinition where
  onAuth : Option
    (Request → List AuthIntent → Value → Except RouteError Value)

/-- What a `ManagerDriver` answers to lookups and creations. -/
structure ManagerDriver where
  getForId : Value → Value → Except RouteError (Option ActorOutput)
  getWithKey : Value → Value → Except RouteError (Option ActorOutput)
  getOrCreateWithKey :
    Value → Value → Value → Value → Except RouteError ActorOutput
  createActor :
    Value → Value → Value → Value → Except RouteError ActorOutput

/-- What the routes of a manager share: the text of numbers,
`registryConfig.use`, the driver, and whether the platform upgrades
WebSockets. -/
structure Registry where
  text : NumberText
  use : String → Option ActorDefinition
  driver : ManagerDriver
  upgradeWebSocket : Bool

/-- A step that throws a native error where it has no result. -/
def orThrow {α : Type} : Option α → Except RouteError α
  | some a => .ok a
  | none => .error .native

/-- `new Set(intents).add(intent)`. -/
def addIntent (intents : List AuthIntent) (intent : AuthIntent) :
    List AuthIntent :=
  if intent ∈ intents then intents else intents ++ [intent]

/-- `getIntentsFromQuery`. -/
def getIntentsFromQuery (query : Value) :
    Except RouteError (List AuthIntent) := do
  if ← orThrow (query.has "getForId") then return [.get]
  if ← orThrow (query.has "getForKey") then return [.get]
  if ← orThrow (query.has "getOrCreateForKey") then
    return [.get, .create]
  if ← orThrow (query.has "create") then return [.create]
  return []

variable (registry : Registry)

/-- `getActorNameFromQuery`. -/
def getActorNameFromQuery (query : Value) : Except RouteError Value := do
  if ← orThrow (query.has "getForId") then
    let byId := query.member "getForId"
    let name ← orThrow (byId.get "name")
    let actorId ← orThrow (byId.get "actorId")
    match ← registry.driver.getForId name actorId with
    | some output => return .str output.name
    | none => throw (.actorNotFound (actorId.toText registry.text))
  if ← orThrow (query.has "getForKey") then
    orThrow ((query.member "getForKey").get "name")
  else if ← orThrow (query.has "getOrCreateForKey") then
    orThrow ((query.member "getOrCreateForKey").get "name")
  else if ← orThrow (query.has "create") then
    orThrow ((query.member "create").get "name")
  else throw (.invalidRequest "Invalid query format")

/-- The message of `authenticateRequest` for an actor without `onAuth`. -/
def onAuthMissing : String :=
  "Actor requires authentication but no onAuth handler is defined "
    ++ "(https://rivet.gg/docs/actors/authentication/). Provide an empty "
    ++ "handler to disable auth: `onAuth: () => \x7b\x7d`"

/-- `authenticateRequest`. -/
def authenticateRequest (request : Request)
    (actorDefinition : ActorDefinition) (intents : List AuthIntent)
    (params : Value) : Except RouteError Value :=
  match actorDefinition.onAuth with
  | some onAuth => onAuth request intents params
  | none => .error (.forbidden onAuthMissing)

/-- `authenticateEndpoint`. -/
def authenticateEndpoint (request : Request) (query : Value)
    (additionalIntents : List AuthIntent) (params : Value) :
    Except RouteError Value := do
  let intents ← getIntentsFromQuery query
  let intents := additionalIntents.foldl addIntent intents
  let actorName ← getActorNameFromQuery registry query
  let actorName := actorName.toText registry.text
  match registry.use actorName with
  | some actorDefinition =>
      authenticateRequest request actorDefinition intents params
  | none => throw (.actorNotFound actorName)

end RivetKit.Manager
