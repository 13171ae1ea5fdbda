/-
`EngineActorDriver.loadActor` and the start promise of a handler
(drivers/engine/actor-driver.ts), for one actor id.

# Handlers, attempts, instances

A handler is an object: a call or a start callback that awaits keeps its
reference while the map `#actors` may get another one, so handlers are
named by allocation. Each run of the start callback is an attempt, and
an instance is named by the attempt that made it.

# The start promise

It is made with the handler and only there, and it is resolved in the
stretch that clears the field. So `actorStartPromise` says both whether
the field is set and, negated, whether the promise is resolved.

`joinedDead` is bookkeeping: every attempt on the handler that the call
found had already failed.
-/
import RivetKit.Lib.System

namespace RivetKit.Drivers.Engine

open Transition

-- =============================================================== the data

/-- How far an attempt to start got. -/
inductive AttemptStatus
  | starting
  | started
  | failed
  deriving DecidableEq

/-- A run of the start callback, by the handler it uses. -/
structure StartAttempt where
  handler : Nat
  status : AttemptStatus
  deriving DecidableEq

/-- The fields of `ActorHandler` that loading reads. -/
structure LoadHandler where
  actor : Option Nat := none
  actorStartPromise : Bool := true
  deriving DecidableEq

/-- Where a call of `loadActor` is: awaiting the start promise, awaiting
the return of `#loadActorHandler`, or settled. -/
inductive LoadPc
  | awaitStart (handler : Nat)
  | awaitHandler (handler : Nat)
  | returned (actor : Nat)
  | threw
  deriving DecidableEq

/-- A call of `loadActor`. -/
structure LoadCall where
  pc : LoadPc
  joinedDead : Bool := false
  deriving DecidableEq

/-- The driver for one actor id. -/
structure ActorLoader where
  handlers : List LoadHandler := []
  actors : Option Nat := none
  attempts : List StartAttempt := []
  calls : List LoadCall := []
  /-- the stop callbacks awaiting `_stop` -/
  stops : Nat := 0

namespace ActorLoader

/-- Every attempt on the handler `h` has failed. -/
def Dead (s : ActorLoader) (h : Nat) : Prop :=
  ∀ a ∈ s.attempts, a.handler = h → a.status = .failed

instance (s : ActorLoader) (h : Nat) : Decidable (s.Dead h) :=
  inferInstanceAs (Decidable (∀ a ∈ _, _))

/-- A call awaits the start promise of the handler `h`. -/
def Waiting (s : ActorLoader) (h : Nat) : Prop :=
  ∃ call ∈ s.calls, call.pc = .awaitStart h

instance (s : ActorLoader) (h : Nat) : Decidable (s.Waiting h) :=
  inferInstanceAs (Decidable (∃ call ∈ _, _))

-- ================================================================ loading

/-- `#loadActorHandler` behind the start promise. -/
def afterStart (s : ActorLoader) (h : Nat) : LoadPc :=
  match s.handlers[h]? with
  | some handler =>
      if handler.actor.isSome then .awaitHandler h else .threw
  | none => .threw

/-- `loadActor` up to its first `await`. -/
def loadActor (s : ActorLoader) : ActorLoader :=
  match s.actors with
  | none => { s with calls := s.calls ++ [{ pc := .threw }] }
  | some h =>
      let pc := match s.handlers[h]? with
        | some handler =>
            if handler.actorStartPromise then .awaitStart h
            else s.afterStart h
        | none => .threw
      let joinedDead := decide (s.Dead h)
      { s with calls := s.calls ++ [{ pc, joinedDead }] }

/-- A call resumes: what it awaits has settled. -/
def resume (s : ActorLoader) (c : Nat) : Option ActorLoader :=
  match s.calls[c]? with
  | some ⟨.awaitStart h, joinedDead⟩ =>
      match s.handlers[h]? with
      | some ⟨_, false⟩ =>
          some { s with calls := s.calls.set c ⟨s.afterStart h, joinedDead⟩ }
      | _ => none
  | some ⟨.awaitHandler h, joinedDead⟩ =>
      let pc := match s.handlers[h]? with
        | some ⟨some actor, _⟩ => .returned actor
        | _ => .threw
      some { s with calls := s.calls.set c ⟨pc, joinedDead⟩ }
  | _ => none

-- ======================================================= runner callbacks

/-- Get or create the handler. -/
def upsertHandler (s : ActorLoader) : ActorLoader × Nat :=
  match s.actors with
  | some h => (s, h)
  | none =>
      ({ s with
          handlers := s.handlers ++ [{}]
          actors := some s.handlers.length }, s.handlers.length)

/-- `#runnerOnActorStart` up to its `await`. It can throw when it decodes
the input, before there is a handler, and then for want of a key or a
definition. -/
def onActorStart (s : ActorLoader) (inputDecodes found : Bool) :
    ActorLoader :=
  if inputDecodes then
    let (s, h) := s.upsertHandler
    if found then
      { s with
        handlers := s.handlers.modify h fun handler =>
          { handler with actor := some s.attempts.length }
        attempts := s.attempts ++ [⟨h, .starting⟩] }
    else { s with attempts := s.attempts ++ [⟨h, .failed⟩] }
  else s

/-- `actor.start` of the attempt `a` ends. Only an end without an error
reaches the lines that settle the promise. -/
def startEnds (s : ActorLoader) (a : Nat) (ok : Bool) :
    Option ActorLoader :=
  match s.attempts[a]? with
  | some ⟨h, .starting⟩ =>
      if ok then
        some { s with
          handlers := s.handlers.modify h fun handler =>
            { handler with actorStartPromise := false }
          attempts := s.attempts.set a ⟨h, .started⟩ }
      else some { s with attempts := s.attempts.set a ⟨h, .failed⟩ }
  | _ => none

/-- `#runnerOnActorStop` up to its `await`. -/
def onActorStop (s : ActorLoader) : ActorLoader :=
  match s.actors.bind (s.handlers[·]?) with
  | some handler =>
      if handler.actor.isSome then { s with stops := s.stops + 1 } else s
  | none => s

/-- `#runnerOnActorStop` after its `await`. -/
def actorStopped (s : ActorLoader) : Option ActorLoader :=
  if s.stops = 0 then none
  else some { s with stops := s.stops - 1, actors := none }

end ActorLoader

-- ============================================================ the machine

/-- The steps of the runner and of the callers. -/
inductive LoaderStep
  | loadActor
  | resume (c : Nat)
  | onActorStart (inputDecodes found : Bool)
  | startEnds (a : Nat) (ok : Bool)
  | onActorStop
  | actorStopped
  deriving DecidableEq

/-- One step. -/
def loaderStep (s : ActorLoader) : LoaderStep → Option ActorLoader
  | .loadActor => some s.loadActor
  | .resume c => s.resume c
  | .onActorStart inputDecodes found =>
      some (s.onActorStart inputDecodes found)
  | .startEnds a ok => s.startEnds a ok
  | .onActorStop => some s.onActorStop
  | .actorStopped => s.actorStopped

/-- Every order of start and stop callbacks and of calls. -/
def loaderSystem : System ActorLoader LoaderStep where
  init s := s = {}
  step := loaderStep

end RivetKit.Drivers.Engine
