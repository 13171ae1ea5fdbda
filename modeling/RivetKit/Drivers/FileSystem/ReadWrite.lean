/-
`FileSystemActorDriver` (drivers/file-system/actor.ts) over
`FileSystemGlobalState`, as a sequence of operations on any actors, each
at its end before the next begins: create, `readPersistedData`,
`writePersistedData`, start and sleep. Both modes, one process.

What `_stop` writes at a sleep, and what an instance reads and writes at
its start, are operations of the sequence. A file that is there can be
read. A load promise that has settled changes nothing for the calls that
come later, so an entry here has its state and instance only.

# Ids

An actor's id is a file name, as `generateActorId` makes it ("to ensure
safe file system names"). `path.join` then puts it behind the directory of
state files as it is, so two actors have two files.

# History

`lastWrite` has the data of an actor's last `writePersistedData` that did
not throw, before it the initial data. An actor is `unsaved` from a creation
whose file could not be written to the next write of it. It is `behind` from
a `writePersistedData` of other data until it is created or put to sleep, and
after it was put to sleep unsaved. No branch reads them.
-/
import Mathlib.Logic.Function.Basic
import RivetKit.Drivers.FileSystem.StateCalls

namespace RivetKit.Drivers.FileSystem

open Actor

-- =============================================================== the data

/-- No separator, and not a segment that `path.join` resolves. -/
def IsFileName (id : String) : Prop :=
  id ∉ ["", ".", ".."] ∧ '/' ∉ id.toList ∧ '\\' ∉ id.toList

instance : DecidablePred IsFileName :=
  fun _ => inferInstanceAs (Decidable (_ ∧ _))

/-- An actor's id. -/
abbrev ActorId := { id : String // IsFileName id }

/-- The driver, with the map `#actors` and the directory of state
files. -/
structure DriverStore where
  persist : Bool
  actors : ActorId → Option StoreEntry := fun _ => none
  stateFiles : ActorId → Option ActorState := fun _ => none
  lastWrite : ActorId → Option Bytes := fun _ => none
  unsaved : ActorId → Bool := fun _ => false
  behind : ActorId → Bool := fun _ => false

/-- The operations. `ok` is whether the write of the file succeeds. -/
inductive DriverOp
  | createActor (actorId : ActorId) (params : CreateParams) (now : Nat)
      (ok : Bool)
  | loadOrCreateActor (actorId : ActorId) (params : CreateParams)
      (now : Nat) (ok : Bool)
  | readPersistedData (actorId : ActorId)
  | writePersistedData (actorId : ActorId) (data : Bytes) (ok : Bool)
  | startActor (actorId : ActorId) (instantiates : Bool)
  | sleepActor (actorId : ActorId)

/-- The actor an operation is on. -/
def DriverOp.actorId : DriverOp → ActorId
  | .createActor actorId _ _ _ => actorId
  | .loadOrCreateActor actorId _ _ _ => actorId
  | .readPersistedData actorId => actorId
  | .writePersistedData actorId _ _ => actorId
  | .startActor actorId _ => actorId
  | .sleepActor actorId => actorId

namespace DriverStore

-- ======================================================= the global state

/-- `#upsertEntry`. -/
def upsertEntry (s : DriverStore) (actorId : ActorId) : StoreEntry :=
  (s.actors actorId).getD {}

/-- Put an entry in the map. -/
def setEntry (s : DriverStore) (actorId : ActorId) (entry : StoreEntry) :
    DriverStore :=
  { s with actors := Function.update s.actors actorId (some entry) }

/-- `loadActor`, with the entry it returns. -/
def loadActor (s : DriverStore) (actorId : ActorId) :
    DriverStore × StoreEntry :=
  let entry := s.upsertEntry actorId
  let loaded : StoreEntry :=
    if entry.state.isSome || !s.persist then entry
    else match s.stateFiles actorId with
      | some state => { entry with state := some state }
      | none => entry
  (s.setEntry actorId loaded, loaded)

/-- `writeActor`, and whether it returned. -/
def writeActor (s : DriverStore) (actorId : ActorId) (state : ActorState)
    (ok : Bool) : DriverStore × Bool :=
  if !s.persist then (s, true)
  else if ok then
    ({ s with stateFiles :=
        Function.update s.stateFiles actorId (some state) }, true)
  else (s, false)

variable (ser : Serializer)

/-- Put a new state in the entry and write it. -/
def create (s : DriverStore) (actorId : ActorId) (params : CreateParams)
    (now : Nat) (ok : Bool) : DriverStore :=
  let state := params.initialState ser actorId.1 now
  let s : DriverStore :=
    { s.setEntry actorId
        { s.upsertEntry actorId with state := some state } with
      lastWrite :=
        Function.update s.lastWrite actorId (some state.persistedData)
      unsaved := Function.update s.unsaved actorId (s.persist && !ok)
      behind := Function.update s.behind actorId false }
  (s.writeActor actorId state ok).1

/-- `createActor`. -/
def createActor (s : DriverStore) (actorId : ActorId)
    (params : CreateParams) (now : Nat) (ok : Bool) : DriverStore :=
  if (s.actors actorId).isSome then s
  else s.create ser actorId params now ok

/-- `loadOrCreateActor`. -/
def loadOrCreateActor (s : DriverStore) (actorId : ActorId)
    (params : CreateParams) (now : Nat) (ok : Bool) : DriverStore :=
  let (s, entry) := s.loadActor actorId
  if entry.state.isSome then s
  else s.create ser actorId params now ok

/-- `startActor`, as far as the entry goes. -/
def startActor (s : DriverStore) (actorId : ActorId) (instantiates : Bool) :
    DriverStore :=
  let (s, entry) := s.loadActor actorId
  if entry.state.isSome && instantiates then
    s.setEntry actorId { entry with actor := true }
  else s

/-- `sleepActor`, which throws unless the actor runs on a disk. -/
def sleepActor (s : DriverStore) (actorId : ActorId) : DriverStore :=
  if s.persist && (s.actors actorId).any (·.actor) then
    { s with
      actors := Function.update s.actors actorId none
      behind := Function.update s.behind actorId (s.unsaved actorId) }
  else s

-- ============================================================= the driver

/-- `readPersistedData`, or `none` where it throws. -/
def readPersistedData (s : DriverStore) (actorId : ActorId) :
    DriverStore × Option Bytes :=
  let (s, entry) := s.loadActor actorId
  (s, entry.state.map (·.persistedData))

/-- `writePersistedData`. -/
def writePersistedData (s : DriverStore) (actorId : ActorId)
    (data : Bytes) (ok : Bool) : DriverStore :=
  let (s, entry) := s.loadActor actorId
  match entry.state with
  | none => s
  | some state =>
      let (s, returned) :=
        s.writeActor actorId { state with persistedData := data } ok
      if returned then
        { s with
          lastWrite := Function.update s.lastWrite actorId (some data)
          unsaved := Function.update s.unsaved actorId false
          behind := Function.update s.behind actorId
            (s.behind actorId || s.lastWrite actorId != some data) }
      else s

/-- One operation. -/
def perform (s : DriverStore) : DriverOp → DriverStore
  | .createActor actorId params now ok =>
      s.createActor ser actorId params now ok
  | .loadOrCreateActor actorId params now ok =>
      s.loadOrCreateActor ser actorId params now ok
  | .readPersistedData actorId => (s.readPersistedData actorId).1
  | .writePersistedData actorId data ok =>
      s.writePersistedData actorId data ok
  | .startActor actorId instantiates => s.startActor actorId instantiates
  | .sleepActor actorId => s.sleepActor actorId

/-- A sequence of operations. -/
def performAll (s : DriverStore) (ops : List DriverOp) : DriverStore :=
  ops.foldl (perform ser) s

/-- The process begins, on the directory `disk`, or with the memory
driver. -/
def begin : Option (ActorId → Option ActorState) → DriverStore
  | some disk =>
      { persist := true
        stateFiles := disk
        lastWrite := fun actorId => (disk actorId).map (·.persistedData) }
  | none => { persist := false }

/-- After `ops`, a read of the actor gives its last write and depends on
the operations on this actor alone. -/
def ReadsOwnWrites (disk : Option (ActorId → Option ActorState))
    (ops : List DriverOp) (actorId : ActorId) : Prop :=
  let s := (begin disk).performAll ser ops
  let own := ops.filter fun op => op.actorId = actorId
  (s.readPersistedData actorId).2 = s.lastWrite actorId
    ∧ (s.readPersistedData actorId).2
      = (((begin disk).performAll ser own).readPersistedData actorId).2

end DriverStore

end RivetKit.Drivers.FileSystem
