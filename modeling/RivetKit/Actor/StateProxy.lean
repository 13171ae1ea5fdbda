/-
Assignments to an actor's state (actor/instance.ts): the proxy that
`#setPersist` makes with on-change, its callback, and the saves.

on-change applies a mutation before it calls the callback with the path
and the new value. A value that is assigned where it already is changes
nothing, and the callback is not called; of an object this cannot be told
here, and it is taken to be another one.

# Paths

A path goes through objects and arrays. What is not an own property of
either is not assigned to: the contents of built-in objects, an array's
`length` and its properties beside its elements. An assignment below a
value without properties throws a `TypeError` and changes nothing; it is
no step. A deletion and a call of a method reach no states that assigning
the result would not.

`onStateChange`, and the inspector's listeners, are left out.
-/
import RivetKit.Actor.Persisted
import RivetKit.Common.CborSerializable
import RivetKit.Lib.System

namespace RivetKit.Actor

open Common
open Js
open Transition

-- =============================================================== the paths

/-- A step of a path: a property's name, or an index. -/
inductive PathKey
  | name (s : String)
  | index (i : Nat)
  deriving DecidableEq

/-- The step as it is written. -/
def PathKey.text : PathKey → String
  | .name s => s
  | .index i => toString i

/-- `value[key]` of an own property. -/
def getMember : StateValue → PathKey → Option StateValue
  | .array items, .index i => items[i]?
  | .object members, key =>
      (members.find? fun m => m.1 = key.text).map (·.2)
  | _, _ => none

/-- The members of an object, one of them set. -/
def upsertMember (members : List (String × StateValue)) (name : String)
    (value : StateValue) : List (String × StateValue) :=
  if members.any fun m => m.1 = name then
    members.map fun m => if m.1 = name then (m.1, value) else m
  else members ++ [(name, value)]

/-- The elements of an array, one of them set. Behind the end it leaves
holes. -/
def setItem (items : List StateValue) (i : Nat) (value : StateValue) :
    List StateValue :=
  if i < items.length then items.set i value
  else items ++ List.replicate (i - items.length) .undefined ++ [value]

/-- `target[key] = value`; `none` where it has no such properties. -/
def setMember : StateValue → PathKey → StateValue → Option StateValue
  | .array items, .index i, value => some (.array (setItem items i value))
  | .object members, key, value =>
      some (.object (upsertMember members key.text value))
  | _, _, _ => none

/-- The value at a path. -/
def getAt (state : StateValue) : List PathKey → Option StateValue
  | [] => some state
  | key :: path => (getMember state key).bind fun child => getAt child path

/-- The state with the value at a path assigned. -/
def setAt (state : StateValue) :
    List PathKey → StateValue → Option StateValue
  | [], value => some value
  | [key], value => setMember state key value
  | key :: path, value =>
      (getMember state key).bind fun child =>
        (setAt child path value).bind fun child => setMember state key child

-- =============================================================== the proxy

/-- `#persist.state`, and whether there is anything to save. -/
structure StateProxy where
  state : StateValue
  persistChanged : Bool := false

/-- How an assignment ends. -/
inductive AssignOutcome
  | returned
  | invalidStateType (path : String)
  deriving DecidableEq

/-- `Object.is`, of values that are no objects. It tells -0 from 0, which
are one number here: an assignment of the one over the other is taken to
change nothing. -/
def sameValue : StateValue → StateValue → Bool
  | .undefined, .undefined => true
  | .null, .null => true
  | .bool a, .bool b => a == b
  | .num m, .num n => decide (m = n)
  | .bigint i, .bigint j => i == j
  | .str s, .str t => s == t
  | _, _ => false

/-- The path that the callback is given. -/
def onChangePath (path : List PathKey) : String :=
  path.foldl (fun text key => text ++ "." ++ key.text) "state"

/-- The callback looks at the state only. -/
def isStatePath (path : String) : Bool :=
  path == "state" || "state.".toList.isPrefixOf path.toList

section

variable (keyText : StateValue → String)

namespace StateProxy

/-- The callback of `onChange`. -/
def onChange (s : StateProxy) (path : String) (value : StateValue) :
    AssignOutcome × StateProxy :=
  if isStatePath path then
    match findInvalid keyText value "" with
    | some invalidPath =>
        let path :=
          if invalidPath = "" then path else path ++ "." ++ invalidPath
        (.invalidStateType path, s)
    | none => (.returned, { s with persistChanged := true })
  else (.returned, s)

/-- `#persist.state… = value`. The mutation comes first. -/
def assign (s : StateProxy) (path : List PathKey) (value : StateValue) :
    Option (AssignOutcome × StateProxy) :=
  if (getAt s.state path).any (sameValue · value) then some (.returned, s)
  else
    (setAt s.state path value).map fun state =>
      { s with state := state }.onChange keyText (onChangePath path) value

end StateProxy

end

/-- How a save ends. -/
inductive SaveOutcome
  | unchanged
  | written (data : Bytes)
  | threw
  deriving DecidableEq

/-- `#savePersistInner`. `encode` is the conversion of the record, as a
function of its state; `writes` is whether the driver writes the bytes. -/
def StateProxy.savePersist (encode : StateValue → Option Bytes)
    (writes : Bytes → Bool) (s : StateProxy) : SaveOutcome × StateProxy :=
  if s.persistChanged then
    -- set before the write, so that changes during it are saved again
    let s : StateProxy := { s with persistChanged := false }
    match encode s.state with
    | some data => (if writes data then .written data else .threw, s)
    | none => (.threw, s)
  else (.unchanged, s)

-- ================================================================= the runs

/-- What is done to the state. -/
inductive StateOp
  | assign (path : List PathKey) (value : StateValue)
  | save (writes : Bytes → Bool)

/-- Assignments and saves of an actor whose state is `initial` at first.
`#setPersist` does not check it. -/
def stateProxySystem (keyText : StateValue → String)
    (encode : StateValue → Option Bytes) (initial : StateValue) :
    System StateProxy StateOp where
  init := fun s => s = { state := initial }
  step := fun s op =>
    match op with
    | .assign path value => (s.assign keyText path value).map (·.2)
    | .save writes => some (s.savePersist encode writes).2

/-- A rejected assignment leaves all as it was, and with it whatever a
later save does; any other leaves a state that the check accepts. -/
def CleanAssignment (keyText : StateValue → String) (s : StateProxy) :
    AssignOutcome × StateProxy → Prop
  | (.invalidStateType _, s') => s' = s
  | (.returned, s') => isCborSerializable keyText s'.state = true

/-- The condition: what is assigned is accepted by the check. -/
def assignsSerializable (keyText : StateValue → String) (_ : StateProxy) :
    StateOp → Prop
  | .assign _ value => isCborSerializable keyText value = true
  | .save _ => True

end RivetKit.Actor
