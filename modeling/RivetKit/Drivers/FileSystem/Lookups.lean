/-
What `FileSystemManagerDriver` answers to lookups and creations
(drivers/file-system/manager.ts), over all actor ids.

# States

An endpoint without a schema hands on what the client sent, so the name
and the key of a state in memory are any values. The state file has the
text of the name (`writtenName`): that is what is read back.

# Entries

A call holds the entry that `loadActor` returned, which need not be the
one in the map any more. `entries` is the map, and `held` has, for every
id, the states of entries that have left the map and of writes in flight.
`found` says which of them a call holds: the entry in the map, or another
one. `getActorStatePath` is the path that an id has in the state
directory, so two ids may share a file.
-/
import Mathlib.Logic.Function.Basic
import RivetKit.Lib.System
import RivetKit.Manager.Auth

namespace RivetKit.Drivers.FileSystem

open Js
open Manager

-- =============================================================== the data

/-- `ActorState`, as far as lookups go. -/
structure StoredActor where
  actorId : String
  name : Value
  key : Value

/-- What the driver's answers depend on. An entry may have no state. -/
structure Directory where
  persist : Bool
  entries : String → Option (Option StoredActor) := fun _ => none
  held : String → List StoredActor := fun _ => []
  files : String → Option StoredActor := fun _ => none

variable (text : NumberText) (hash : String → String)

/-- `generateActorId`. -/
def generateActorId (name key : Value) : Except RouteError String :=
  match stringify text (fun _ => none) (.arr [name, key]) with
  | some (some s) => .ok (hash s)
  | _ => .error .native

/-- `key as string[]`. -/
def keyStrings : Value → List String
  | .arr vs => vs.map fun v => v.toText text
  | _ => []

/-- The name in a state file: `writeString` takes the text of what is not
a string, and throws for `undefined` and `null`. -/
def writtenName : Value → Option String
  | .undefined => none
  | .null => none
  | v => some (v.toText text)

/-- What a state file says. -/
def StoredActor.written (s : StoredActor) : Option StoredActor :=
  (writtenName text s.name).map fun name =>
    { s with
      name := .str name
      key := .arr ((keyStrings text s.key).map .str) }

namespace Directory

/-- The state of the entry that a call holds. -/
def loaded (d : Directory) (found : Option Nat) (actorId : String) :
    Option StoredActor :=
  match found with
  | none => (d.entries actorId).join
  | some i => (d.held actorId)[i]?

-- ============================================================ the driver

/-- The message of `ActorAlreadyExists`. -/
def actorAlreadyExists (name key : Value) : String :=
  let keyText := match stringify text (fun _ => none) key with
    | some (some s) => s
    | _ => "undefined"
  "Actor already exists with name '" ++ name.toText text
    ++ "' and key '" ++ keyText
    ++ "' (https://www.rivet.gg/docs/actors/clients/#actor-client)"

/-- `getForId`. There is no path to what is not a string. -/
def getForId (d : Directory) (found : Option Nat) (actorId : Value) :
    Except RouteError (Option ActorOutput) :=
  match actorId with
  | .str actorId =>
      .ok ((d.loaded found actorId).map fun state =>
        { actorId
          name := state.name.toText text
          key := keyStrings text state.key })
  | _ => if d.persist then .error .native else .ok none

/-- `getWithKey`. -/
def getWithKey (d : Directory) (found : Option Nat) (name key : Value) :
    Except RouteError (Option ActorOutput) := do
  let actorId ← generateActorId text hash name key
  return (d.loaded found actorId).map fun _ =>
    { actorId
      name := name.toText text
      key := keyStrings text key }

/-- The state that `loadOrCreateActor` ends with. -/
def orCreated (d : Directory) (found : Option Nat) (actorId : String)
    (name key : Value) : StoredActor :=
  (d.loaded found actorId).getD { actorId, name, key }

/-- `getOrCreateWithKey`. -/
def getOrCreateWithKey (d : Directory) (found : Option Nat)
    (name key : Value) : Except RouteError ActorOutput := do
  let actorId ← generateActorId text hash name key
  let state := d.orCreated found actorId name key
  let name := state.name.toText text
  let key := keyStrings text state.key
  return { actorId := state.actorId, name, key }

/-- `createActor`. -/
def createActor (d : Directory) (name key : Value) :
    Except RouteError ActorOutput := do
  let actorId ← generateActorId text hash name key
  if (d.entries actorId).isSome then
    throw (.thrown (.str (actorAlreadyExists text name key)))
  let name := name.toText text
  let key := keyStrings text key
  return { actorId, name, key }

/-- The driver, for a call that holds this entry. -/
def managerDriver (d : Directory) (found : Option Nat) : ManagerDriver :=
  { getForId := fun _ actorId => d.getForId text found actorId
    getWithKey := fun name key => d.getWithKey text hash found name key
    getOrCreateWithKey := fun name key _ _ =>
      d.getOrCreateWithKey text hash found name key
    createActor := fun name key _ _ => d.createActor text hash name key }

-- ========================================================= the directory

variable (getActorStatePath : String → String)

/-- A state is set, in the entry of the map or in another one. -/
def setState (d : Directory) (attached : Bool) (actorId : String)
    (state : StoredActor) : Directory :=
  if attached then
    { d with entries := Function.update d.entries actorId (some (some state)) }
  else
    { d with
      held := Function.update d.held actorId (d.held actorId ++ [state]) }

/-- `writeActor`: the write is in flight. -/
def writeActor (d : Directory) (actorId : String) (state : StoredActor) :
    Directory :=
  if d.persist then d.setState false actorId state else d

/-- A state is created and its write issued. -/
def create (d : Directory) (attached : Bool) (state : StoredActor) :
    Directory :=
  (d.setState attached state.actorId state).writeActor state.actorId state

/-- `#upsertEntry`. -/
def upsertEntry (d : Directory) (actorId : String) : Directory :=
  match d.entries actorId with
  | some _ => d
  | none =>
      { d with entries := Function.update d.entries actorId (some none) }

/-- `loadActorState` after `fs.readFile`, for the entry in the map or for
another one. -/
def readFile (d : Directory) (attached : Bool) (actorId : String) :
    Option Directory :=
  match d.files (getActorStatePath actorId) with
  | some state =>
      if attached && (d.entries actorId).isNone then none
      else some (d.setState attached actorId state)
  | none => none

/-- `writePersistedData`. -/
def writePersistedData (d : Directory) (found : Option Nat)
    (actorId : String) : Option Directory :=
  (d.loaded found actorId).map (d.writeActor actorId)

/-- A write renames its file. A write that fails changes nothing. -/
def endWrite (d : Directory) (actorId : String) (i : Nat) :
    Option Directory :=
  match ((d.held actorId)[i]?).bind (StoredActor.written text) with
  | some state =>
      if d.persist then
        some { d with
          files := Function.update d.files (getActorStatePath actorId)
            (some state) }
      else none
  | none => none

/-- `sleepActor` takes its entry out of the map. Calls may still hold
it. -/
def endSleep (d : Directory) (actorId : String) : Option Directory :=
  match d.entries actorId with
  | some (some state) =>
      if d.persist then
        some
          { d.setState false actorId state with
            entries := Function.update d.entries actorId none }
      else none
  | _ => none

/-- The process starts again. The files stay. -/
def restart (d : Directory) : Directory :=
  { persist := d.persist, files := d.files }

end Directory

end RivetKit.Drivers.FileSystem
