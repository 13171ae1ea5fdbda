/-
The look-up of an action by its name: `executeAction` for the requests of
connections and of HTTP, and the loop of `_onAlarm` for the events of the
schedule (actor/instance.ts).

# The actions

`this.#config.actions` is an object like any other, with a prototype.
What the properties are is read only as far as `typeof` and a test for
truth go.

# Ready

`executeAction` first asserts that the instance is ready. Both its callers
have a connection, which `createConn` makes of a ready instance only, and
nothing makes an instance unready.
-/
import RivetKit.Lib.Objects
import RivetKit.Actor.Actions
import RivetKit.Actor.ActionReplies
import RivetKit.Actor.AlarmRuns

namespace RivetKit.Actor

open Js

universe u v

-- ================================================================= the data

/-- What stands under a name: a function, or a value with its `typeof`. -/
inductive ActionProperty (F : Type u)
  | function (f : F)
  | other (truthy : Bool) (typeOf : String)

/-- The configuration, as far as it is looked up in. -/
structure ActionsConfig (F : Type u) where
  actions : Object (ActionProperty F)

/-- What a look-up comes to: a function is called, `ActionNotFound` is
thrown, or a plain `Error`. -/
inductive LookedUp (F : Type u)
  | call (f : F)
  | actionNotFound (actionName : String)
  | error (message : String)

/-- The function that is called. -/
def LookedUp.function? {F : Type u} : LookedUp F → Option F
  | .call f => some f
  | .actionNotFound _ => none
  | .error _ => none

namespace ActionsConfig

variable {F : Type u} (config : ActionsConfig F)

-- ============================================================= the look-ups

/-- `executeAction` up to the call. -/
def executeAction (actionName : String) : LookedUp F :=
  -- Prevent calling private or reserved methods
  if !config.actions.has actionName then .actionNotFound actionName
  else
    -- Check if the method exists on this object
    match config.actions.get actionName with
    | some (.function actionFunction) => .call actionFunction
    | _ => .actionNotFound actionName

/-- The look-up of `_onAlarm` for an event. What it throws is logged. -/
def alarmAction (actionName : String) : LookedUp F :=
  match config.actions.get actionName with
  | some (.function fn) => .call fn
  | some (.other true typeOf) =>
      .error ("Alarm function lookup for " ++ actionName ++ " returned "
        ++ typeOf)
  | some (.other false _) => .error ("Missing action for alarm " ++ actionName)
  | none => .error ("Missing action for alarm " ++ actionName)

/-- The look-up of a name that comes on a path. -/
def lookUp (path : ActionPath) (actionName : String) : LookedUp F :=
  match path with
  | .connection => config.executeAction actionName
  | .http => config.executeAction actionName
  | .scheduled => config.alarmAction actionName

/-- The prototypes have a function of this name. -/
def inheritsFunction (actionName : String) : Bool :=
  match config.actions.inherited actionName with
  | some (.function _) => true
  | _ => false

-- ================================================================= the paths

/-- A request over a connection, with the action that its name is looked up
to. `invoke` is what the call of a function gives. -/
def request {V : Type v} (invoke : F → V → Called V) (r : ActionSetup V) :
    ActionSetup V :=
  { r with action := (config.executeAction r.name).function?.map invoke }

/-- What `_onAlarm` reads of the configuration. -/
def alarmConfig {V : Type} (decodeArgs : Bytes → Except (Raised V) (List V)) :
    AlarmConfig V where
  isAction actionName := (config.alarmAction actionName).function?.isSome
  decodeArgs := decodeArgs

/-- The actions as they are written in a definition: an object literal. -/
def ofLiteral (native : String → F) (actions : List (String × F)) :
    ActionsConfig F :=
  { actions := .plain (fun name => .function (native name))
      (.other true "object")
      (actions.map fun entry => (entry.1, .function entry.2)) }

end ActionsConfig

end RivetKit.Actor
