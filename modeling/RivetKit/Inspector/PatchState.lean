/-
The inspector's `PATCH /state` (inspector/actor.ts), with `getState` and
`setState` of the actor's inspector (actor/instance.ts).

# The patch

fast-json-patch is a parameter: what one operation makes of a document,
and whether it returns. `applyPatch` applies the operations in order, and
throws at the first that does. The document that it is given is the state
itself, so an operation on a part of it changes the state in place. An
operation on the whole document, of the path "", returns another one, and
from there on the state is left alone. (Such a `move` or `copy` returns a
part of the document, which later operations would still change; this is
not represented.)

# Setting the state

`setState` assigns a spread copy: a string spreads into its code units,
and a primitive into nothing. The check of on-change's callback throws
behind the assignment, and so does `#assertReady` of the `saveState` that
follows. What the conversion of the record or the driver throws does not
get here: `#persistWriteQueue` swallows it.

The validator of the body is not part of this: a body that it rejects
changes nothing.
-/
import RivetKit.Actor.StateProxy

namespace RivetKit.Inspector

open Actor
open Common

-- =============================================================== the data

/-- `Operation`. -/
inductive Operation
  | remove (path : String)
  | add (path : String) (value : StateValue)
  | replace (path : String) (value : StateValue)
  | move (path : String) (source : String)
  | copy (path : String) (source : String)
  | test (path : String) (value : StateValue)

/-- Whether an operation returns another document. -/
def Operation.replacesDocument : Operation → Bool
  | .remove path => path = ""
  | .add path _ => path = ""
  | .replace path _ => path = ""
  | .move path _ => path = ""
  | .copy path _ => path = ""
  | .test _ _ => false

/-- A body that the validator accepts. -/
inductive PatchBody
  | patch (operations : List Operation)
  | replace (value : StateValue)

/-- The response to a request. -/
inductive PatchResponse
  | disabled
  | ok (state : StateValue)
  | failed

/-- What the request meets: whether the actor has a state, whether
`#assertReady` returns, the conversion of the record and the driver. -/
structure PatchContext where
  keyText : StateValue → String
  stateEnabled : Bool
  ready : Bool
  encode : StateValue → Option Bytes
  writes : Bytes → Bool
  applyOperation : StateValue → Operation → StateValue × Bool

-- ================================================================ the patch

/-- `jsonPatch.applyPatch` of a document that is the given one or, when it
is `detached`, another: what is in the given document afterwards, and
`newDocument`, `none` where it throws. -/
def applyPatch (applyOperation : StateValue → Operation → StateValue × Bool)
    (given document : StateValue) (detached : Bool) :
    List Operation → StateValue × Option StateValue
  | [] => (given, some document)
  | operation :: operations =>
      let (newDocument, returned) := applyOperation document operation
      let detached := detached || operation.replacesDocument
      let given := if detached then given else newDocument
      if returned then
        applyPatch applyOperation given newDocument detached operations
      else (given, none)

/-- `{ ...value }`. -/
def spread : StateValue → StateValue
  | .object members => .object members
  | .array items =>
      .object (items.mapIdx fun i item => (toString i, item))
  | .str units =>
      .object (units.mapIdx fun i unit => (toString i, .str [unit]))
  | _ => .object []

-- ============================================================== the request

variable (ctx : PatchContext)

/-- `setState`, and whether it returns. -/
def setState (s : StateProxy) (state : StateValue) : Bool × StateProxy :=
  match s.assign ctx.keyText [] (spread state) with
  | some (.returned, s) =>
      -- the save resolves, however its write ends
      if ctx.ready then (true, (s.savePersist ctx.encode ctx.writes).2)
      else (false, s)
  | some (.invalidStateType _, s) => (false, s)
  | none => (false, s)

/-- The end of the handler: `setState`, and the response. -/
def respond (s : StateProxy) (state : StateValue) :
    PatchResponse × StateProxy :=
  let (returned, s) := setState ctx s state
  if returned then (.ok s.state, s) else (.failed, s)

/-- The handler of `PATCH /state`. -/
def patchState (s : StateProxy) (body : PatchBody) :
    PatchResponse × StateProxy :=
  if ctx.stateEnabled then
    match body with
    | .replace value => respond ctx s value
    | .patch operations =>
        let (given, newState) :=
          applyPatch ctx.applyOperation s.state s.state false operations
        -- the patch was applied to the raw state
        let s : StateProxy := { s with state := given }
        match newState with
        | some newState => respond ctx s newState
        | none => (.failed, s)
  else (.disabled, s)

-- ============================================================ the property

/-- The replacement, or the old state with the patch applied to it. -/
def requestedState (state : StateValue) : PatchBody → Option StateValue
  | .replace value => some value
  | .patch operations =>
      (applyPatch ctx.applyOperation state state false operations).2

/-- A request that succeeds leaves the state that it asks for, one that
does not leaves the state that was there. -/
def Atomic (s : StateProxy) (body : PatchBody) : Prop :=
  match patchState ctx s body with
  | (.ok _, s') => requestedState ctx s.state body = some s'.state
  | (.failed, s') => s'.state = s.state
  | (.disabled, s') => s'.state = s.state

/-- A plain object, the one kind of value that is its own spread copy. -/
def isPlainObject : StateValue → Bool
  | .object _ => true
  | _ => false

/-- `setState` of this state returns. -/
def settable (state : StateValue) : Bool :=
  isCborSerializable ctx.keyText (spread state) && ctx.ready

/-- The condition on the new state: it is a plain object, if it can be set
at all; else what is assigned is what was there. -/
def FitsState (old new : StateValue) : Prop :=
  if settable ctx new then isPlainObject new = true else spread new = old

/-- The condition on a body. A patch that throws must have left the
document it was given as it was. -/
def FitsBody (old : StateValue) : PatchBody → Prop
  | .replace value => FitsState ctx old value
  | .patch operations =>
      match applyPatch ctx.applyOperation old old false operations with
      | (_, some newState) => FitsState ctx old newState
      | (given, none) => given = old

end RivetKit.Inspector
