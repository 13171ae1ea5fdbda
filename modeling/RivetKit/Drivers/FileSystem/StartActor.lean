/-
`FileSystemGlobalState.startActor` (drivers/file-system/global-state.ts)
for one actor id: the entry of the actor, the calls in progress, and the
`instance.start` each attempt awaits.

# Promises

A load promise and a start promise are named by allocation order, and
`loads` and `starts` hold their states. The entry refers to them; a
`loadPromise` that settled stays in the entry unless the file was not
found.

# Steps

A call runs to its first `await` when it is made (`startActor`), and one
more stretch each time what it awaits has settled (`resume`). The file
read settles by `readFile`, one stage of `ActorInstance.start` ends by
`startStage`. The environment chooses every outcome. Calls resume in any
order, which includes the order of the microtask queue.
-/
import RivetKit.Actor.Definition
import RivetKit.Lib.System

namespace RivetKit.Drivers.FileSystem

open Transition
open Actor

-- =============================================================== the data

/-- `schema.ActorState`. -/
structure ActorState where
  actorId : String
  name : String
  key : List String
  createdAt : Nat
  persistedData : List UInt8
  deriving DecidableEq

/-- What `fs.readFile` of the state file and its parsing come to. -/
inductive ReadOutcome
  | found (state : ActorState)
  | enoent
  | error

/-- A promise of `loadActorState`. Not finding the file resolves it. -/
inductive LoadState
  | reading
  | loaded
  | notFound
  | failed
  deriving DecidableEq

/-- A start promise, with the instance its attempt made. -/
inductive AttemptState
  | pending (actor : Nat)
  | started (actor : Nat)
  | failed
  deriving DecidableEq

/-- The stages of `ActorInstance.start` that can throw. -/
inductive StartStage
  | initialization
  | createVars
  | onStart
  | onMigrate
  | queueSetAlarm
  deriving DecidableEq

/-- The stage after this one, if any. -/
def StartStage.next : StartStage → Option StartStage
  | .initialization => some .createVars
  | .createVars => some .onStart
  | .onStart => some .onMigrate
  | .onMigrate => some .queueSetAlarm
  | .queueSetAlarm => none

/-- An `ActorInstance`: in a stage of its start, ready, or left by a
start that threw. -/
inductive InstanceState
  | starting (stage : StartStage)
  | ready
  | failed (stage : StartStage)
  deriving DecidableEq

/-- What `startActor` throws: the error of the load it awaited, that
there is no state, the error of the attempt, or the failed
`invariant`. -/
inductive StartError
  | loadFailed (load : Nat)
  | doesNotExist
  | startFailed (attempt : Nat)
  | shouldHaveLoaded
  deriving DecidableEq

/-- Where a call of `startActor` is. `awaitLoad none` awaits a `loadActor`
that had nothing to wait for. -/
inductive StartPc
  | awaitLoad (load : Option Nat)
  | awaitStart (attempt : Nat)
  | starting (attempt actor : Nat)
  | returned (actor : Nat)
  | threw (error : StartError)
  deriving DecidableEq

/-- A call of `startActor`, and the attempt it joined if it did. -/
structure StartCall where
  pc : StartPc
  joined : Option Nat := none
  deriving DecidableEq

/-- `ActorEntry`. -/
structure ActorEntry where
  state : Option ActorState := none
  loadPromise : Option Nat := none
  actor : Option Nat := none
  startPromise : Option Nat := none
  deriving DecidableEq

/-- `FileSystemGlobalState` for one actor id. -/
structure GlobalState where
  persist : Bool
  entry : Option ActorEntry := none
  loads : List LoadState := []
  starts : List AttemptState := []
  instances : List InstanceState := []
  calls : List StartCall := []

namespace GlobalState

-- ======================================================== the functions

/-- `#upsertEntry`. -/
def upsertEntry (s : GlobalState) : ActorEntry := s.entry.getD {}

/-- Replace the entry. -/
def setEntry (s : GlobalState) (entry : ActorEntry) : GlobalState :=
  { s with entry := some entry }

/-- Move a call on. -/
def setCall (s : GlobalState) (c : Nat) (call : StartCall) : GlobalState :=
  { s with calls := s.calls.set c call }

/-- The synchronous part of `loadActor`, and the load promise its caller
awaits. -/
def loadActor (s : GlobalState) : GlobalState × Option Nat :=
  let entry := s.upsertEntry
  let s := s.setEntry entry
  if entry.state.isSome then (s, none)
  else if !s.persist then (s, none)
  else match entry.loadPromise with
    | some load => (s, some load)
    | none =>
        let load := s.loads.length
        ({ s.setEntry { entry with loadPromise := some load } with
            loads := s.loads ++ [.reading] }, some load)

/-- `startActor` up to its first `await`. -/
def startActor (s : GlobalState) : GlobalState :=
  let (s, load) := s.loadActor
  { s with calls := s.calls ++ [{ pc := .awaitLoad load }] }

/-- The continuation of `fs.readFile` in `loadActorState`. -/
def readFile (s : GlobalState) (load : Nat) (outcome : ReadOutcome) :
    Option GlobalState :=
  if s.loads[load]? = some .reading then
    let entry := s.upsertEntry
    match outcome with
    | .found state =>
        some { s.setEntry { entry with state := some state } with
          loads := s.loads.set load .loaded }
    | .enoent =>
        some { s.setEntry { entry with loadPromise := none } with
          loads := s.loads.set load .notFound }
    | .error => some { s with loads := s.loads.set load .failed }
  else none

/-- The attempt of call `c`, from `Promise.withResolvers()` to the `await`
of `instance.start`. -/
def beginAttempt (s : GlobalState) (c : Nat) : GlobalState :=
  let attempt := s.starts.length
  let actor := s.instances.length
  let s : GlobalState := { s with
    entry := some { s.upsertEntry with
      actor := some actor
      startPromise := some attempt }
    starts := s.starts ++ [.pending actor]
    instances := s.instances ++ [.starting .initialization] }
  s.setCall c { pc := .starting attempt actor }

/-- An attempt that throws before it has an instance: the promise is
made, rejected and dropped in one stretch. -/
def failAttempt (s : GlobalState) (c : Nat) : GlobalState :=
  let attempt := s.starts.length
  let s : GlobalState := { s with starts := s.starts ++ [.failed] }
  s.setCall c { pc := .threw (.startFailed attempt) }

/-- `startActor` after `await this.loadActor(actorId)`, up to its next
`await`. `instantiates` says whether `definition.instantiate()` returns. -/
def afterLoad (config : RegistryConfig) (s : GlobalState) (c : Nat)
    (instantiates : Bool) : GlobalState :=
  let entry := s.upsertEntry
  match entry.state with
  | none => s.setCall c { pc := .threw .doesNotExist }
  | some state =>
      match entry.startPromise with
      -- Actor already starting
      | some attempt =>
          s.setCall c { pc := .awaitStart attempt, joined := some attempt }
      | none =>
          match entry.actor with
          -- Actor already loaded
          | some actor => s.setCall c { pc := .returned actor }
          | none =>
              if config.lookup state.name && instantiates then
                s.beginAttempt c
              else s.failAttempt c

/-- A call resumes after what it awaits has settled. -/
def resume (config : RegistryConfig) (s : GlobalState) (c : Nat)
    (instantiates : Bool) : Option GlobalState :=
  match s.calls[c]? with
  | some ⟨.awaitLoad none, _⟩ => some (s.afterLoad config c instantiates)
  | some ⟨.awaitLoad (some load), _⟩ =>
      match s.loads[load]? with
      | some .loaded => some (s.afterLoad config c instantiates)
      | some .notFound => some (s.afterLoad config c instantiates)
      | some .failed => some (s.setCall c { pc := .threw (.loadFailed load) })
      | _ => none
  | some ⟨.awaitStart attempt, joined⟩ =>
      match s.starts[attempt]? with
      | some (.started _) =>
          match s.upsertEntry.actor with
          | some actor => some (s.setCall c ⟨.returned actor, joined⟩)
          | none => some (s.setCall c ⟨.threw .shouldHaveLoaded, joined⟩)
      | some .failed =>
          some (s.setCall c ⟨.threw (.startFailed attempt), joined⟩)
      | _ => none
  | _ => none

/-- The end of `instance.start`: settle the start promise, clear it and
return or throw. -/
def endAttempt (s : GlobalState) (c attempt actor : Nat)
    (outcome : InstanceState) : GlobalState :=
  let entry := s.upsertEntry
  let ready := outcome = .ready
  let s : GlobalState := { s with
    entry := some { entry with startPromise := none }
    instances := s.instances.set actor outcome
    starts := s.starts.set attempt (if ready then .started actor else .failed) }
  s.setCall c
    { pc := if ready then .returned (entry.actor.getD actor)
        else .threw (.startFailed attempt) }

/-- A stage of the `instance.start` that call `c` awaits ends; after the
last one, and after one that throws, so does the attempt. -/
def startStage (s : GlobalState) (c : Nat) (ok : Bool) :
    Option GlobalState :=
  match s.calls[c]? with
  | some ⟨.starting attempt actor, _⟩ =>
      match s.instances[actor]? with
      | some (.starting stage) =>
          if ok then
            match stage.next with
            | some next =>
                some { s with
                  instances := s.instances.set actor (.starting next) }
            | none => some (s.endAttempt c attempt actor .ready)
          else some (s.endAttempt c attempt actor (.failed stage))
      | _ => none
  | _ => none

end GlobalState

-- ============================================================ the machine

/-- The steps of the callers, the file system and the starting
instances. -/
inductive StartStep
  | startActor
  | readFile (load : Nat) (outcome : ReadOutcome)
  | resume (c : Nat) (instantiates : Bool)
  | startStage (c : Nat) (ok : Bool)

/-- One step. -/
def startStep (config : RegistryConfig) (s : GlobalState) :
    StartStep → Option GlobalState
  | .startActor => some s.startActor
  | .readFile load outcome => s.readFile load outcome
  | .resume c instantiates => s.resume config c instantiates
  | .startStage c ok => s.startStage c ok

/-- The runs of `startActor` calls on an actor that nobody has started:
no entry, or one that holds a state at most. -/
def startSystem (config : RegistryConfig) : System GlobalState StartStep where
  init s := ∃ persist, s = { persist }
    ∨ ∃ state, s = { persist, entry := some { state := state } }
  step := startStep config

end RivetKit.Drivers.FileSystem
