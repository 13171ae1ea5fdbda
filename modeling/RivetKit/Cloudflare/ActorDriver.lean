/-
`CloudflareActorsActorDriver.loadActor` (actor-driver.ts), for one actor
id: the handler in the map `#actors`, the one attempt to start that the
first call makes, and the calls.

No code takes a handler out of the map, so there is at most one, and one
attempt. The promise of the handler is resolved in the stretch that
clears the field: `actorPromise` says whether the field is set and,
negated, whether the promise is resolved. `joinedDead` is bookkeeping:
the attempt had failed when the call was made.
-/
import RivetKit.Lib.System

namespace RivetKit.Cloudflare

open Transition

/-- How far the attempt got: reading the metadata, in `actor.start`, or
ended. -/
inductive AttemptState
  | readingMetadata
  | starting
  | started
  | failed
  deriving DecidableEq

/-- The fields of `ActorHandler` that loading reads. -/
structure DriverHandler where
  actor : Bool := false
  actorPromise : Bool := true
  deriving DecidableEq

/-- Where a call of `loadActor` is. -/
inductive LoadPc
  | awaitActor
  | readingMetadata
  | starting
  | returned
  | threw
  deriving DecidableEq

/-- A call of `loadActor`. -/
structure LoadCall where
  pc : LoadPc
  joinedDead : Bool := false
  deriving DecidableEq

/-- The driver for one actor id. -/
structure ActorDriver where
  handler : Option DriverHandler := none
  attempt : Option AttemptState := none
  calls : List LoadCall := []

namespace ActorDriver

/-- A call awaits the handler's promise. -/
def Waiting (s : ActorDriver) : Prop :=
  ∃ call ∈ s.calls, call.pc = .awaitActor

instance (s : ActorDriver) : Decidable s.Waiting :=
  inferInstanceAs (Decidable (∃ call ∈ _, _))

/-- Move a call on. -/
def setPc (s : ActorDriver) (c : Nat) (pc : LoadPc) : ActorDriver :=
  { s with calls := s.calls.modify c fun call => { call with pc := pc } }

/-- `loadActor` up to its first `await`. `stateFound` is false when
`getDOState` throws. -/
def loadActor (s : ActorDriver) (stateFound : Bool) : ActorDriver :=
  match s.handler with
  | some handler =>
      let pc :=
        if handler.actorPromise then .awaitActor
        else if handler.actor then .returned
        else .threw
      let joinedDead := decide (s.attempt = some .failed)
      { s with calls := s.calls ++ [{ pc, joinedDead }] }
  | none =>
      if stateFound then
        { handler := some {}
          attempt := some .readingMetadata
          calls := s.calls ++ [{ pc := .readingMetadata }] }
      else
        { handler := some {}
          attempt := some .failed
          calls := s.calls ++ [{ pc := .threw }] }

/-- The metadata are read. `ok` is false when the read fails, the name or
the key is missing, or there is no definition. -/
def metadataRead (s : ActorDriver) (c : Nat) (ok : Bool) :
    Option ActorDriver :=
  match s.calls[c]? with
  | some ⟨.readingMetadata, _⟩ =>
      if ok then
        let s : ActorDriver := { s with
          handler := s.handler.map fun handler =>
            { handler with actor := true }
          attempt := some .starting }
        some (s.setPc c .starting)
      else some ({ s with attempt := some .failed }.setPc c .threw)
  | _ => none

/-- `actor.start` ends. -/
def startEnds (s : ActorDriver) (c : Nat) (ok : Bool) :
    Option ActorDriver :=
  match s.calls[c]? with
  | some ⟨.starting, _⟩ =>
      if ok then
        let s : ActorDriver := { s with
          handler := s.handler.map fun handler =>
            { handler with actorPromise := false }
          attempt := some .started }
        some (s.setPc c .returned)
      else some ({ s with attempt := some .failed }.setPc c .threw)
  | _ => none

/-- A call that awaited the promise resumes. -/
def resume (s : ActorDriver) (c : Nat) : Option ActorDriver :=
  match s.calls[c]?, s.handler with
  | some ⟨.awaitActor, _⟩, some ⟨actor, false⟩ =>
      some (s.setPc c (if actor then .returned else .threw))
  | _, _ => none

end ActorDriver

/-- The steps of the callers and of the storage. -/
inductive LoadStep
  | loadActor (stateFound : Bool)
  | metadataRead (c : Nat) (ok : Bool)
  | startEnds (c : Nat) (ok : Bool)
  | resume (c : Nat)
  deriving DecidableEq

/-- One step. -/
def loadStep (s : ActorDriver) : LoadStep → Option ActorDriver
  | .loadActor stateFound => some (s.loadActor stateFound)
  | .metadataRead c ok => s.metadataRead c ok
  | .startEnds c ok => s.startEnds c ok
  | .resume c => s.resume c

/-- Every order of calls and ends of awaits. -/
def loadSystem : System ActorDriver LoadStep where
  init s := s = {}
  step := loadStep

end RivetKit.Cloudflare
