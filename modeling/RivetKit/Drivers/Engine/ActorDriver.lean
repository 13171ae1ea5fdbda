/-
`EngineActorDriver` (drivers/engine/actor-driver.ts): the handler of each
actor, its start and stop callbacks, and the persisted bytes it reads and
writes.

# Handlers are objects

A handler lives in the map `#actors` from the first start callback to
the end of the next stop. The start callback keeps a reference to it
across its `await`, so handlers are named by allocation order and the
map holds the names.

# What a read sees

`ActorInstance.#initialize` calls `readPersistedData` in the same
stretch in which the start callback made the instance. The read looks at
the handler first and at the KV store second. A runner process that ends
takes the map with it and leaves the store (`newProcess`).

The KV store is assumed to return the last value put, so a put takes
effect when it is issued. `lastWrite` remembers the bytes each actor
last wrote, and an instance those its actor had written when it read;
no branch reads either.
-/
import Mathlib.Logic.Function.Basic
import RivetKit.Actor.Definition
import RivetKit.Actor.Persisted
import RivetKit.Drivers.Engine.Keys
import RivetKit.Lib.System

namespace RivetKit.Drivers.Engine

open Transition
open Actor
open Js

/-- `ActorHandler`: its instance, whether its start promise is still
there, and the bytes it caches. -/
structure ActorHandler where
  actor : Option Nat := none
  actorStartPromise : Bool := false
  persistedData : Option Bytes := none

/-- `RunnerActorConfig`, its input decoded. -/
structure RunnerActorConfig where
  name : String
  key : Option JsString
  input : Value

/-- An `ActorInstance` the start callback made: its actor, its process,
its handler and what its read returned. -/
structure EngineInstance where
  actorId : String
  process : Nat
  handler : Nat
  persistDataBuffer : Option Bytes
  lastWrite : Option Bytes
  deriving DecidableEq

/-- The driver, the KV store, and the instances made so far. -/
structure EngineActorDriver where
  process : Nat := 0
  handlers : List ActorHandler := []
  actors : String → Option Nat := fun _ => none
  /-- the stop callbacks awaiting `_stop` -/
  stops : List String := []
  kv : String → Option Bytes := fun _ => none
  instances : List EngineInstance := []
  lastWrite : String → Option Bytes := fun _ => none

namespace EngineActorDriver

-- ====================================================== persisted data

/-- Modify the handler `h`. -/
def modifyHandler (s : EngineActorDriver) (h : Nat)
    (f : ActorHandler → ActorHandler) : EngineActorDriver :=
  { s with handlers := s.handlers.modify h f }

/-- `readPersistedData`, or `none` where it throws. -/
def readPersistedData (s : EngineActorDriver) (actorId : String) :
    Option (EngineActorDriver × Option Bytes) := do
  let h ← s.actors actorId
  let handler ← s.handlers[h]?
  match handler.persistedData with
  | some data => return (s, some data)
  | none =>
      match s.kv actorId with
      | some value =>
          return (s.modifyHandler h fun handler =>
            { handler with persistedData := some value }, some value)
      | none => return (s, none)

/-- `writePersistedData`, called by the instance `i` of this process; a
disabled step where it throws. -/
def writePersistedData (s : EngineActorDriver) (i : Nat) (data : Bytes) :
    Option EngineActorDriver := do
  let inst ← s.instances[i]?
  let h ← if inst.process = s.process then s.actors inst.actorId else none
  return { s.modifyHandler h fun handler =>
      { handler with persistedData := some data } with
    kv := Function.update s.kv inst.actorId (some data)
    lastWrite := Function.update s.lastWrite inst.actorId (some data) }

-- =================================================== runner callbacks

/-- Get or create the handler of an actor. A new one is seeded with the
empty record. -/
def upsertHandler (ser : Serializer) (s : EngineActorDriver)
    (actorId : String) (input : Value) : EngineActorDriver × Nat :=
  match s.actors actorId with
  | some h => (s, h)
  | none =>
      let h := s.handlers.length
      let handler : ActorHandler :=
        { actorStartPromise := true
          persistedData := some (serializeEmptyPersistData ser input) }
      ({ s with
          handlers := s.handlers ++ [handler]
          actors := Function.update s.actors actorId (some h) }, h)

/-- Make the instance of a start, with what it read. -/
def pushInstance (s : EngineActorDriver) (actorId : String) (h : Nat)
    (persistDataBuffer : Option Bytes) : EngineActorDriver :=
  let inst : EngineInstance :=
    { actorId := actorId
      process := s.process
      handler := h
      persistDataBuffer := persistDataBuffer
      lastWrite := s.lastWrite actorId }
  { s.modifyHandler h fun handler =>
      { handler with actor := some s.instances.length } with
    instances := s.instances ++ [inst] }

/-- `#runnerOnActorStart` up to its `await`. It throws, with the handler
in place, when the definition is missing or the key is missing or
empty. -/
def onActorStart (ser : Serializer) (registryConfig : RegistryConfig)
    (s : EngineActorDriver) (actorId : String) (config : RunnerActorConfig) :
    EngineActorDriver :=
  let (s, h) := s.upsertHandler ser actorId config.input
  if config.key.any (· ≠ []) && registryConfig.lookup config.name then
    match s.readPersistedData actorId with
    | some (s, persistDataBuffer) => s.pushInstance actorId h persistDataBuffer
    | none => s
  else s

/-- `#runnerOnActorStart` after its `await`: the start of the instance
`i` has resolved. -/
def actorStarted (s : EngineActorDriver) (i : Nat) :
    Option EngineActorDriver := do
  let inst ← s.instances[i]?
  return s.modifyHandler inst.handler fun handler =>
    { handler with actorStartPromise := false }

/-- `#runnerOnActorStop` up to its `await`. -/
def onActorStop (s : EngineActorDriver) (actorId : String) :
    EngineActorDriver :=
  match (s.actors actorId).bind (s.handlers[·]?) with
  | some handler =>
      if handler.actor.isSome then { s with stops := s.stops ++ [actorId] }
      else s
  | none => s

/-- `#runnerOnActorStop` after its `await`. -/
def actorStopped (s : EngineActorDriver) (k : Nat) :
    Option EngineActorDriver := do
  let actorId ← s.stops[k]?
  return { s with
    stops := s.stops.eraseIdx k
    actors := Function.update s.actors actorId none }

/-- A new runner process: its memory is empty. -/
def newProcess (s : EngineActorDriver) : EngineActorDriver :=
  { s with process := s.process + 1, actors := fun _ => none, stops := [] }

end EngineActorDriver

-- ============================================================ the machine

/-- The steps of the driver. -/
inductive EngineStep
  | onActorStart (actorId : String) (config : RunnerActorConfig)
  | actorStarted (i : Nat)
  | writePersistedData (i : Nat) (data : Bytes)
  | onActorStop (actorId : String)
  | actorStopped (k : Nat)
  | newProcess

/-- One step. -/
def engineStep (ser : Serializer) (registryConfig : RegistryConfig)
    (s : EngineActorDriver) : EngineStep → Option EngineActorDriver
  | .onActorStart actorId config =>
      some (s.onActorStart ser registryConfig actorId config)
  | .actorStarted i => s.actorStarted i
  | .writePersistedData i data => s.writePersistedData i data
  | .onActorStop actorId => some (s.onActorStop actorId)
  | .actorStopped k => s.actorStopped k
  | .newProcess => some s.newProcess

/-- The histories of starts, writes, stops and process restarts. -/
def engineSystem (ser : Serializer) (registryConfig : RegistryConfig) :
    System EngineActorDriver EngineStep where
  init s := s = {}
  step := engineStep ser registryConfig

end RivetKit.Drivers.Engine
