/-
What reaches the user code of an actor under the file-system driver:
connections, actions, raw requests and alarms (actor/router-endpoints.ts,
actor/router.ts, the timeout of `#scheduleAlarmTimeout` in
drivers/file-system/global-state.ts), each up to the tests that
`ActorInstance` makes before it calls a hook or a handler.

# Which tests

`createConn`, `handleFetch` and `handleWebSocket` call `#assertReady`, and
`executeAction` has an `invariant` on `#ready`. `prepareConn` and
`_onAlarm` have no test. `#assertReady` also rejects an instance that
stops, which is the environment's choice here (`stopping`).

# Frames

A request waits for its `startActor` call and goes on with the instance
that the call returned. An alarm goes on with the instance that the entry
holds, whether or not it is starting. Which events are due when it calls
`_onAlarm` is the environment's choice, and so is when the awaited hooks
end. `invoked` records each call of user code, with whether the start of
the instance had completed; no branch reads it.
-/
import RivetKit.Drivers.FileSystem.StartActor

namespace RivetKit.Drivers.FileSystem

open Transition
open Actor

-- =============================================================== the data

/-- `ActorConfig`: which hooks and handlers there are, and which names
are actions. -/
structure ActorConfig where
  onBeforeConnect : Bool := false
  createConnState : Bool := false
  onConnect : Bool := false
  onDisconnect : Bool := false
  onFetch : Bool := false
  onWebSocket : Bool := false
  actions : String → Bool := fun _ => false

/-- The user code that requests and alarms invoke. -/
inductive Handler
  | onBeforeConnect
  | createConnState
  | onConnect
  | onDisconnect
  | onFetch
  | onWebSocket
  | action (name : String)
  | scheduledAction (name : String)
  deriving DecidableEq

/-- A call of user code on an instance. -/
structure Invocation where
  handler : Handler
  actor : Nat
  started : Bool
  deriving DecidableEq

/-- What a client asks for: a WebSocket or SSE connection, an action over
HTTP, an action on a connection by `handleConnectionMessage`, a raw
request, a raw WebSocket. -/
inductive RequestKind
  | connection
  | httpAction (name : String)
  | connectionMessage (name : String)
  | fetch
  | webSocket
  deriving DecidableEq

/-- Where a request is. -/
inductive RequestPc
  | loadActor (call : Nat)
  | onBeforeConnect (actor : Nat)
  | createConnState (actor : Nat)
  | prepared (actor : Nat)
  | connected (actor : Nat)
  | acted (actor : Nat)
  | done
  deriving DecidableEq

/-- A request. -/
structure RequestFrame where
  kind : RequestKind
  pc : RequestPc
  deriving DecidableEq

/-- Where the callback of an alarm timeout is. -/
inductive AlarmPc
  | unlink
  | loadActor (load : Option Nat)
  | startActor (call : Nat)
  | running (actor : Nat) (events : List String)
  | done
  deriving DecidableEq

/-- The driver for one actor id, with the requests and alarms under way. -/
structure RequestState where
  driver : GlobalState
  requests : List RequestFrame := []
  alarms : List AlarmPc := []
  invoked : List Invocation := []

/-- The request prepares a connection. -/
def RequestKind.preparesConn : RequestKind → Bool
  | .connection => true
  | .httpAction _ => true
  | _ => false

namespace RequestState

-- ====================================================== the instance side

/-- `#ready` of the instance `i`. -/
def ready (s : RequestState) (i : Nat) : Bool :=
  decide (s.driver.instances[i]? = some .ready)

/-- `#assertReady`. -/
def assertReady (s : RequestState) (i : Nat) (stopping : Bool) : Bool :=
  s.ready i && !stopping

/-- Call user code. -/
def invoke (s : RequestState) (handler : Handler) (i : Nat) :
    RequestState :=
  { s with invoked := s.invoked ++ [⟨handler, i, s.ready i⟩] }

/-- Call user code if the definition has it. -/
def invokeIf (s : RequestState) (has : Bool) (handler : Handler)
    (i : Nat) : RequestState :=
  if has then s.invoke handler i else s

/-- Move a request on. -/
def setRequest (s : RequestState) (r : Nat) (pc : RequestPc) :
    RequestState :=
  { s with requests := s.requests.modify r fun request =>
      { request with pc := pc } }

/-- Move an alarm on. -/
def setAlarm (s : RequestState) (k : Nat) (pc : AlarmPc) : RequestState :=
  { s with alarms := s.alarms.set k pc }

variable (config : ActorConfig)

/-- `prepareConn` behind `onBeforeConnect`. -/
def afterBeforeConnect (s : RequestState) (r i : Nat) : RequestState :=
  if config.createConnState then
    (s.invoke .createConnState i).setRequest r (.createConnState i)
  else s.setRequest r (.prepared i)

/-- `prepareConn` up to its first `await`. -/
def prepareConn (s : RequestState) (r i : Nat) : RequestState :=
  if config.onBeforeConnect then
    (s.invoke .onBeforeConnect i).setRequest r (.onBeforeConnect i)
  else s.afterBeforeConnect config r i

/-- `executeAction` up to the call of the action. -/
def executeAction (s : RequestState) (i : Nat) (name : String) :
    RequestState :=
  if s.ready i then s.invokeIf (config.actions name) (.action name) i else s

/-- `handleFetch` and `handleWebSocket` up to the call of their handler. -/
def handleRaw (s : RequestState) (i : Nat) (stopping has : Bool)
    (handler : Handler) : RequestState :=
  if s.assertReady i stopping then s.invokeIf has handler i else s

-- ============================================================ the requests

/-- A request comes in and calls `loadActor` of the actor driver. -/
def request (s : RequestState) (kind : RequestKind) : RequestState :=
  { s with
    driver := s.driver.startActor
    requests := s.requests ++ [⟨kind, .loadActor s.driver.calls.length⟩] }

/-- The instance that the call of a request returned. -/
def loaded (s : RequestState) (r : Nat) : Option Nat :=
  match s.requests[r]? with
  | some ⟨_, .loadActor call⟩ =>
      match s.driver.calls[call]? with
      | some ⟨.returned i, _⟩ => some i
      | _ => none
  | _ => none

/-- A request goes on with its instance, up to its next `await`. -/
def serve (s : RequestState) (r : Nat) (stopping : Bool) :
    Option RequestState :=
  match s.requests[r]?, s.loaded r with
  | some ⟨.connection, _⟩, some i => some (s.prepareConn config r i)
  | some ⟨.httpAction _, _⟩, some i => some (s.prepareConn config r i)
  | some ⟨.connectionMessage name, _⟩, some i =>
      some ((s.executeAction config i name).setRequest r .done)
  | some ⟨.fetch, _⟩, some i =>
      some ((s.handleRaw i stopping config.onFetch .onFetch).setRequest r
        .done)
  | some ⟨.webSocket, _⟩, some i =>
      some ((s.handleRaw i stopping config.onWebSocket
        .onWebSocket).setRequest r .done)
  | _, _ => none

/-- A hook of `prepareConn` ends. -/
def hookEnds (s : RequestState) (r : Nat) (ok : Bool) :
    Option RequestState :=
  match s.requests[r]? with
  | some ⟨_, .onBeforeConnect i⟩ =>
      some (if ok then s.afterBeforeConnect config r i
        else s.setRequest r .done)
  | some ⟨_, .createConnState i⟩ =>
      some (s.setRequest r (if ok then .prepared i else .done))
  | _ => none

/-- `createConn`. -/
def createConn (s : RequestState) (r : Nat) (stopping : Bool) :
    Option RequestState :=
  match s.requests[r]? with
  | some ⟨_, .prepared i⟩ =>
      some (if s.assertReady i stopping then
          (s.invokeIf config.onConnect .onConnect i).setRequest r
            (.connected i)
        else s.setRequest r .done)
  | _ => none

/-- An action on the connection of a request: the one of an HTTP action,
any number over a WebSocket. -/
def action (s : RequestState) (r : Nat) (name : String) :
    Option RequestState :=
  match s.requests[r]? with
  | some ⟨.connection, .connected i⟩ =>
      some (s.executeAction config i name)
  | some ⟨.httpAction only, .connected i⟩ =>
      if name = only then
        some ((s.executeAction config i name).setRequest r (.acted i))
      else none
  | _ => none

/-- `__removeConn` of the connection of a request. -/
def removeConn (s : RequestState) (r : Nat) : Option RequestState :=
  match s.requests[r]? with
  | some ⟨.connection, .connected i⟩ =>
      some ((s.invokeIf config.onDisconnect .onDisconnect i).setRequest r
        .done)
  | some ⟨.httpAction _, .acted i⟩ =>
      some ((s.invokeIf config.onDisconnect .onDisconnect i).setRequest r
        .done)
  | _ => none

/-- `#checkConnectionsLiveness` removes a restored connection. Its
interval is set by the last lines of `start`. -/
def checkLiveness (s : RequestState) (i : Nat) : Option RequestState :=
  if s.ready i then
    some (s.invokeIf config.onDisconnect .onDisconnect i)
  else none

-- ============================================================== the alarms

/-- The callback of a timeout, up to its first `await`. -/
def fireAlarm (s : RequestState) : RequestState :=
  if s.driver.persist then { s with alarms := s.alarms ++ [.unlink] }
  else
    let (driver, load) := s.driver.loadActor
    { s with driver := driver, alarms := s.alarms ++ [.loadActor load] }

/-- What the `await` of a `loadActor` came to: `none` while the file is
being read. -/
def loadSettled (s : RequestState) : Option Nat → Option Bool
  | none => some true
  | some load =>
      match s.driver.loads[load]? with
      | some .loaded => some true
      | some .notFound => some true
      | some .failed => some false
      | _ => none

/-- The instance whose `_onAlarm` the next stretch of an alarm calls. -/
def alarmTarget (s : RequestState) (k : Nat) : Option Nat :=
  match s.alarms[k]? with
  | some (.loadActor load) =>
      if s.loadSettled load = some true
          ∧ s.driver.upsertEntry.state.isSome = true then
        s.driver.upsertEntry.actor
      else none
  | some (.startActor call) =>
      match s.driver.calls[call]? with
      | some ⟨.returned _, _⟩ => s.driver.upsertEntry.actor
      | _ => none
  | _ => none

/-- The next stretch of an alarm. `due` are the events that `_onAlarm`
takes, by the names of their actions. -/
def alarm (s : RequestState) (k : Nat) (due : List String) :
    Option RequestState :=
  match s.alarmTarget k, s.alarms[k]? with
  | some i, _ => some (s.setAlarm k (.running i due))
  | none, some .unlink =>
      let (driver, load) := s.driver.loadActor
      some ({ s with driver := driver }.setAlarm k (.loadActor load))
  | none, some (.loadActor load) =>
      match s.loadSettled load with
      | some true =>
          if s.driver.upsertEntry.state.isSome then
            some ({ s with driver := s.driver.startActor }.setAlarm k
              (.startActor s.driver.calls.length))
          else some (s.setAlarm k .done)
      | some false => some (s.setAlarm k .done)
      | none => none
  | none, some (.startActor call) =>
      match s.driver.calls[call]? with
      | some ⟨.returned _, _⟩ => some (s.setAlarm k .done)
      | some ⟨.threw _, _⟩ => some (s.setAlarm k .done)
      | _ => none
  | none, _ => none

/-- The loop of `_onAlarm` calls the action of its next event. -/
def runEvent (s : RequestState) (k : Nat) : Option RequestState :=
  match s.alarms[k]? with
  | some (.running i (name :: events)) =>
      some ((s.invokeIf (config.actions name) (.scheduledAction name)
        i).setAlarm k (.running i events))
  | _ => none

end RequestState

-- ============================================================ the machine

/-- The steps of starts, requests and alarms. -/
inductive RequestStep
  | start (a : StartStep)
  | request (kind : RequestKind)
  | serve (r : Nat) (stopping : Bool)
  | hookEnds (r : Nat) (ok : Bool)
  | createConn (r : Nat) (stopping : Bool)
  | action (r : Nat) (name : String)
  | removeConn (r : Nat)
  | checkLiveness (i : Nat)
  | fireAlarm
  | alarm (k : Nat) (due : List String)
  | runEvent (k : Nat)

/-- One step. -/
def requestStep (registry : RegistryConfig) (config : ActorConfig)
    (s : RequestState) : RequestStep → Option RequestState
  | .start a =>
      (startStep registry s.driver a).map fun driver =>
        { s with driver := driver }
  | .request kind => some (s.request kind)
  | .serve r stopping => s.serve config r stopping
  | .hookEnds r ok => s.hookEnds config r ok
  | .createConn r stopping => s.createConn config r stopping
  | .action r name => s.action config r name
  | .removeConn r => s.removeConn config r
  | .checkLiveness i => s.checkLiveness config i
  | .fireAlarm => some s.fireAlarm
  | .alarm k due => s.alarm k due
  | .runEvent k => s.runEvent config k

/-- Every interleaving of starts, requests and alarms of one actor. -/
def requestSystem (registry : RegistryConfig) (config : ActorConfig) :
    System RequestState RequestStep where
  init s := ∃ driver, (startSystem registry).init driver
    ∧ s = { driver := driver }
  step := requestStep registry config

end RivetKit.Drivers.FileSystem
