/-
Getting and creating an actor on Cloudflare (manager-driver.ts): callers
of `getOrCreateWithKey` and `createActor` for one name and key, the
Workers KV they look the actor up in, and the Durable Object they
initialise.

# Steps

A caller runs to its first `await`, and one more stretch each time what
it awaits has settled. A KV operation is sent in one step, takes effect
when the KV serves it, in another, and its answer reaches the caller in
a third: a get may have been answered long before its caller goes on.
The `initialize` RPC, too, is sent in one step and reaches the object in
another. In between everybody else may take steps. `ok` says whether
what was awaited succeeded; one that fails was served or not.
-/
import Mathlib.Logic.Function.Basic
import RivetKit.Cloudflare.DurableObject
import RivetKit.Cloudflare.Util

namespace RivetKit.Cloudflare

open Transition
open Actor
open Js

-- =============================================================== the data

/-- `ActorData`. -/
structure ActorData where
  name : String
  key : List String
  deriving DecidableEq

/-- `ActorOutput`. -/
structure ActorOutput where
  actorId : String
  name : String
  key : List String
  deriving DecidableEq

/-- A value in the Workers KV. -/
inductive KvValue
  | actorData (data : ActorData)
  | actorId (id : String)
  deriving DecidableEq

/-- `KEYS.ACTOR.metadata`. -/
def metadataKey (actorId : String) : String :=
  "actor:" ++ (actorId ++ ":metadata")

/-- `KEYS.ACTOR.keyIndex`. -/
def keyIndexKey (key : List String) : String :=
  "actor_key:" ++ serializeKey key

/-- Where a `getWithKey` is: awaiting its own KV get, or the one of
`#buildActorOutput`. -/
inductive GetPc
  | metadata
  | buildActorOutput
  deriving DecidableEq

/-- How a stretch of `getWithKey` ends. -/
inductive GetResult
  | awaits (pc : GetPc)
  | returns (output : Option ActorOutput)

/-- Where a caller is. `lookup` is the `getWithKey` of
`getOrCreateWithKey`; everything from `check` to `created` is
`createActor`. A get has its answer once the KV has served it. A caller
`failed` that threw after its `initialize` reached the object. -/
inductive CallerPc
  | lookup (pc : GetPc) (answer : Option (Option ActorData))
  | found (output : ActorOutput)
  | check (pc : GetPc) (answer : Option (Option ActorData))
  | alreadyExists
  | initializeSent
  | initializing (task : Nat)
  | putMetadata (served : Bool)
  | putKeyIndex (served : Bool)
  | created (output : ActorOutput)
  | threw
  | failed
  deriving DecidableEq

/-- A caller, with the input it brings for the actor. -/
structure Caller where
  input : Value
  pc : CallerPc

/-- The actor that the callers want, and `ACTOR_DO.idFromName` with
`toString`. -/
structure Target where
  idFromName : String → String
  name : String
  key : List String

/-- The id of the actor. -/
def Target.actorId (target : Target) : String :=
  target.idFromName (serializeNameAndKey target.name target.key)

/-- The KV namespace, the object and the callers. -/
structure Manager where
  kv : String → Option KvValue := fun _ => none
  object : DurableObject := {}
  callers : List Caller := []

namespace Manager

-- ============================================================= Workers KV

/-- `ACTOR_KV.get` of an actor's metadata. -/
def getMetadata (s : Manager) (actorId : String) : Option ActorData :=
  match s.kv (metadataKey actorId) with
  | some (.actorData data) => some data
  | _ => none

/-- `ACTOR_KV.put`. -/
def put (s : Manager) (key : String) (value : KvValue) : Manager :=
  { s with kv := Function.update s.kv key (some value) }

-- ============================================================ the callers

/-- Move a caller on. -/
def setPc (s : Manager) (c : Nat) (pc : CallerPc) : Manager :=
  { s with
    callers := s.callers.modify c fun caller => { caller with pc := pc } }

/-- The KV serves what the caller awaits of it. -/
def serve (target : Target) (s : Manager) (c : Nat) : Option Manager :=
  match s.callers[c]? with
  | some ⟨_, .lookup pc none⟩ =>
      some (s.setPc c (.lookup pc (some (s.getMetadata target.actorId))))
  | some ⟨_, .check pc none⟩ =>
      some (s.setPc c (.check pc (some (s.getMetadata target.actorId))))
  | some ⟨_, .putMetadata false⟩ =>
      let data : ActorData := ⟨target.name, target.key⟩
      some ((s.put (metadataKey target.actorId) (.actorData data)).setPc c
        (.putMetadata true))
  | some ⟨_, .putKeyIndex false⟩ =>
      some ((s.put (keyIndexKey target.key)
        (.actorId target.actorId)).setPc c (.putKeyIndex true))
  | _ => none

/-- `getWithKey` goes on with the answer to its get. -/
def getWithKey (target : Target) (pc : GetPc) (answer : Option ActorData) :
    GetResult :=
  match pc, answer with
  | .metadata, some _ => .awaits .buildActorOutput
  | .metadata, none => .returns none
  | .buildActorOutput, some data =>
      .returns (some ⟨target.actorId, data.name, data.key⟩)
  | .buildActorOutput, none => .returns none

/-- A caller resumes. -/
def resume (target : Target) (s : Manager) (c : Nat) (ok : Bool) :
    Option Manager :=
  match s.callers[c]? with
  | some ⟨_, .lookup pc answer⟩ =>
      if ok then
        match answer with
        | none => none
        | some answer =>
            match getWithKey target pc answer with
            | .awaits pc => some (s.setPc c (.lookup pc none))
            | .returns (some output) => some (s.setPc c (.found output))
            | .returns none => some (s.setPc c (.check .metadata none))
      else some (s.setPc c .threw)
  | some ⟨_, .check pc answer⟩ =>
      if ok then
        match answer with
        | none => none
        | some answer =>
            match getWithKey target pc answer with
            | .awaits pc => some (s.setPc c (.check pc none))
            | .returns (some _) => some (s.setPc c .alreadyExists)
            | .returns none => some (s.setPc c .initializeSent)
      else some (s.setPc c .threw)
  | some ⟨input, .initializeSent⟩ =>
      if ok then
        let req : ActorInitRequest := ⟨target.name, target.key, input⟩
        let task := s.object.tasks.length
        some ({ s with object := s.object.initializeRpc req }.setPc c
          (.initializing task))
      else some (s.setPc c .threw)
  | some ⟨_, .initializing t⟩ =>
      if ok then
        match s.object.tasks[t]? with
        | some ⟨_, .done⟩ => some (s.setPc c (.putMetadata false))
        | _ => none
      else some (s.setPc c .failed)
  | some ⟨_, .putMetadata served⟩ =>
      if ok then
        if served then some (s.setPc c (.putKeyIndex false)) else none
      else some (s.setPc c .failed)
  | some ⟨_, .putKeyIndex served⟩ =>
      if ok then
        let output : ActorOutput :=
          ⟨target.actorId, target.name, target.key⟩
        if served then some (s.setPc c (.created output)) else none
      else some (s.setPc c .failed)
  | _ => none

end Manager

-- ============================================================ the machine

/-- The steps. The object's own are those of `objectStep`, but for
`initialize`, which only `createActor` calls. -/
inductive ManagerStep
  | getOrCreateWithKey (input : Value)
  | createActor (input : Value)
  | serve (c : Nat)
  | resume (c : Nat) (ok : Bool)
  | object (a : ObjectStep)

/-- One step. -/
def managerStep (config : RegistryConfig) (target : Target) (s : Manager) :
    ManagerStep → Option Manager
  | .getOrCreateWithKey input =>
      some { s with callers := s.callers ++ [⟨input, .lookup .metadata none⟩] }
  | .createActor input =>
      some { s with callers := s.callers ++ [⟨input, .check .metadata none⟩] }
  | .serve c => s.serve target c
  | .resume c ok => s.resume target c ok
  | .object (.initializeRpc _) => none
  | .object a =>
      match objectStep config s.object a with
      | some object => some { s with object := object }
      | none => none

/-- The runs of the callers of one name and key, from an empty KV and an
object without storage. -/
def managerSystem (config : RegistryConfig) (target : Target) :
    System Manager ManagerStep where
  init s := s = {}
  step := managerStep config target

end RivetKit.Cloudflare
