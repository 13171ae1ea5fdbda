/-
Actions over the save path of `ActorInstance` (actor/instance.ts):
`executeAction`, for actions that come over a connection or over HTTP, and
the call of an action in `_onAlarm`.

# Paths

`executeAction` races the action against `actionTimeout`, and its `finally`
calls `#savePersistThrottled` once the race is decided. An action that is
too late goes on by itself. `_onAlarm` calls the function of the action
and awaits it.

# Steps

An action makes its changes one at a time, between its start and its end
(`change`). The rest of the actor runs in between: any step of the save
path but the two of `_stop`, mutations of other code among them.

# Accounting

A frame has the number of tracked changes after its last one, and whether
a save has been asked for since (`saved`): by `#savePersistThrottled`, by a
`saveState` that passes its check, or by the save timer. Only the contract
reads them.
-/
import RivetKit.Actor.Instance

namespace RivetKit.Actor

open Transition
open Utils
open Js

universe u

-- =============================================================== the data

/-- How an action comes. -/
inductive ActionPath
  | connection
  | http
  | scheduled
  deriving DecidableEq

/-- An action that was called. -/
structure ActionFrame where
  path : ActionPath
  /-- `executeAction` has thrown `ActionTimedOut` -/
  timedOut : Bool := false
  finished : Bool := false
  lastChange : Option Nat := none
  saved : Bool := false
  deriving DecidableEq

/-- Its end is not that of an `executeAction`. -/
def ActionFrame.late (frame : ActionFrame) : Bool :=
  frame.path == .scheduled || frame.timedOut

/-- `ActorInstance` with its actions. -/
structure ActingInstance (R : Type u) extends ActorInstance R where
  actions : List ActionFrame := []

namespace ActingInstance

variable {R : Type u}

-- ======================================================== the functions

/-- A save was asked for. -/
def markSaved (actions : List ActionFrame) : List ActionFrame :=
  actions.map fun frame => { frame with saved := true }

/-- Replace a frame. -/
def setAction (s : ActingInstance R) (a : Nat) (frame : ActionFrame) :
    ActingInstance R :=
  { s with actions := s.actions.set a frame }

/-- An action is called. `executeAction` is not called before ready. -/
def callAction (s : ActingInstance R) (path : ActionPath) :
    Option (ActingInstance R) :=
  if path = .scheduled ∨ s.ready = true then
    some { s with actions := s.actions ++ [{ path }] }
  else none

/-- The action `a` mutates the record. -/
def change (s : ActingInstance R) (a : Nat) (path : List String)
    (valid : Bool) (f : R → R) : Option (ActingInstance R) :=
  match s.actions[a]? with
  | some frame =>
      if frame.finished then none
      else
        let t := s.onChange path valid f
        let frame :=
          if path.head? = some "state" ∧ valid = true then
            { frame with lastChange := some t.changes, saved := false }
          else frame
        some { s.setAction a frame with toActorInstance := t }
  | none => none

/-- The `finally` of `executeAction`. -/
def saveAfterAction (opts : ActorOptions) (s : ActingInstance R) :
    ActingInstance R :=
  { toActorInstance := s.savePersistThrottled opts
    actions := markSaved s.actions }

/-- The deadline of `executeAction` passes before the action ends. -/
def actionTimeout (opts : ActorOptions) (s : ActingInstance R) (a : Nat) :
    Option (ActingInstance R) :=
  match s.actions[a]? with
  | some frame =>
      if frame.finished || frame.late then none
      else some ((s.setAction a { frame with timedOut := true }).saveAfterAction
        opts)
  | none => none

/-- The action returns or throws. -/
def finishAction (opts : ActorOptions) (s : ActingInstance R) (a : Nat) :
    Option (ActingInstance R) :=
  match s.actions[a]? with
  | some frame =>
      if frame.finished then none
      else
        let s := s.setAction a { frame with finished := true }
        some (if frame.late then s else s.saveAfterAction opts)
  | none => none

/-- The step asks for a save. -/
def asksSave (s : ActingInstance R) : SaveStep R → Bool
  | .saveState o => s.assertReady o.allowStoppingState
  | .savePersistThrottled => true
  | .saveTimeout => true
  | _ => false

/-- Steps of the save path outside `_stop`. -/
def admits : SaveStep R → Bool
  | .stopCalled => false
  | .clearSaveTimeout => false
  | _ => true

end ActingInstance

-- ============================================================ the machine

/-- The steps. `save` is everything but the actions. -/
inductive ActionStep (R : Type u)
  | callAction (path : ActionPath)
  | change (a : Nat) (path : List String) (valid : Bool) (f : R → R)
  | actionTimeout (a : Nat)
  | finishAction (a : Nat)
  | save (a : SaveStep R)

/-- One step. -/
def actionStep {R : Type u} (opts : ActorOptions) (s : ActingInstance R) :
    ActionStep R → Option (ActingInstance R)
  | .callAction path => s.callAction path
  | .change a path valid f => s.change a path valid f
  | .actionTimeout a => s.actionTimeout opts a
  | .finishAction a => s.finishAction opts a
  | .save a =>
      if ActingInstance.admits a then
        (saveStep opts s.toActorInstance a).map fun t =>
          { toActorInstance := t
            actions :=
              if s.asksSave a then ActingInstance.markSaved s.actions
              else s.actions }
      else none

/-- The runs of an instance that is not stopped, from the end of
`#initialize`. -/
def actionSystem (R : Type u) (opts : ActorOptions) :
    System (ActingInstance R) (ActionStep R) where
  init s := ∃ r, s = { toActorInstance := .initialized r }
  step := actionStep opts

end RivetKit.Actor
