/-
The entries and the state files of `FileSystemGlobalState`
(drivers/file-system/global-state.ts) for one actor id: the map
`#actors`, the loads from disk, and the writes of the state file.

An id has its own entry in the map and its own file, so nothing here
depends on another id.

# Entries

An entry is an object. `loadActorState`, `loadOrCreateActor` and
`sleepActor` hold the one they began with, which need not be the one in
the map any more, so `entries` has every entry made and `actors` is the
position of the one in the map. A restart drops all of them and the writes
in flight. The file stays.

# Writes

`#performWrite` writes a temporary file and renames it, and the rename
changes the state file at once. What a write renames was fixed when it
began, and writes end in any order.
-/
import RivetKit.Drivers.FileSystem.StartActor

namespace RivetKit.Drivers.FileSystem

open Transition
open Actor

-- =============================================================== the data

/-- `ActorEntry`, as far as its state goes. `actor` says that an instance
was started. -/
structure StoreEntry where
  state : Option ActorState := none
  loadPromise : Option Nat := none
  actor : Bool := false
  deriving DecidableEq

/-- A `#performWrite` in flight, and whether `createActor` issued it. -/
structure StateWrite where
  state : ActorState
  create : Bool
  deriving DecidableEq

/-- A call behind its first `await`, with the entry it holds and the load
it awaits. -/
inductive StoreCall
  | loadOrCreateActor (entry : Nat) (load : Option Nat)
      (newState : ActorState)
  | writePersistedData (entry : Nat) (load : Option Nat)
      (data : List UInt8)
  | sleepActor (entry : Nat)
  | settled
  deriving DecidableEq

/-- What `createActor` comes to before its write. -/
inductive CreateOutcome
  | actorAlreadyExists (name : String) (key : List String)
  | entry (e : Nat)
  deriving DecidableEq

/-- Whether it threw. -/
def CreateOutcome.threw : CreateOutcome → Bool
  | .actorAlreadyExists _ _ => true
  | .entry _ => false

/-- `FileSystemGlobalState` for one actor id. A load is named by its place
in `loads` and has the entry it loads. -/
structure ActorStore where
  persist : Bool
  entries : List StoreEntry := []
  actors : Option Nat := none
  loads : List (Nat × LoadState) := []
  calls : List StoreCall := []
  writes : List StateWrite := []
  stateFile : Option ActorState := none
  deriving DecidableEq

namespace ActorStore

-- ======================================================== the functions

/-- `#upsertEntry`. -/
def upsertEntry (s : ActorStore) : ActorStore × Nat :=
  match s.actors with
  | some e => (s, e)
  | none =>
      let e := s.entries.length
      ({ s with entries := s.entries ++ [{}], actors := some e }, e)

/-- The entry at `e`. -/
def entryAt (s : ActorStore) (e : Nat) : StoreEntry := s.entries.getD e {}

/-- Set the state of the entry at `e`. -/
def setState (s : ActorStore) (e : Nat) (state : ActorState) : ActorStore :=
  { s with
    entries := s.entries.modify e fun entry =>
      { entry with state := some state } }

/-- The synchronous part of `loadActor`: the entry, and the load that its
caller awaits. -/
def loadActor (s : ActorStore) : ActorStore × Nat × Option Nat :=
  let (s, e) := s.upsertEntry
  if (s.entryAt e).state.isSome then (s, e, none)
  else if !s.persist then (s, e, none)
  else match (s.entryAt e).loadPromise with
    | some load => (s, e, some load)
    | none =>
        let load := s.loads.length
        ({ s with
            entries := s.entries.modify e fun entry =>
              { entry with loadPromise := some load }
            loads := s.loads ++ [(e, .reading)] }, e, some load)

/-- `loadActorState` after `fs.readFile`. `ok` is whether the file can be
read and parsed, if there is one. -/
def readFile (s : ActorStore) (load : Nat) (ok : Bool) :
    Option ActorStore :=
  match s.loads[load]? with
  | some (e, .reading) =>
      if ok then
        match s.stateFile with
        | some state =>
            some { s.setState e state with
              loads := s.loads.set load (e, .loaded) }
        | none =>
            some { s with
              entries := s.entries.modify e fun entry =>
                { entry with loadPromise := none }
              loads := s.loads.set load (e, .notFound) }
      else some { s with loads := s.loads.set load (e, .failed) }
  | _ => none

/-- `writeActor`. The failed `invariant` leaves everything. -/
def writeActor (s : ActorStore) (state : ActorState) (create : Bool) :
    ActorStore :=
  if !s.persist then s
  else if s.actors.isSome then
    { s with writes := s.writes ++ [{ state, create }] }
  else s

/-- A write renames its file, or fails. -/
def endWrite (s : ActorStore) (w : Nat) (ok : Bool) : Option ActorStore :=
  match s.writes[w]? with
  | some write =>
      some { s with
        writes := s.writes.eraseIdx w
        stateFile := if ok then some write.state else s.stateFile }
  | none => none

/-- `createActor` up to its `await`. -/
def createActor (s : ActorStore) (newState : ActorState) :
    ActorStore × CreateOutcome :=
  if s.actors.isSome then
    (s, .actorAlreadyExists newState.name newState.key)
  else
    let (s, e) := s.upsertEntry
    ((s.setState e newState).writeActor newState true, .entry e)

/-- `loadOrCreateActor` up to its first `await`. -/
def loadOrCreateActor (s : ActorStore) (newState : ActorState) :
    ActorStore :=
  let (s, e, load) := s.loadActor
  { s with calls := s.calls ++ [.loadOrCreateActor e load newState] }

/-- `writePersistedData` of the actor driver up to its first `await`. -/
def writePersistedData (s : ActorStore) (data : List UInt8) : ActorStore :=
  let (s, e, load) := s.loadActor
  { s with calls := s.calls ++ [.writePersistedData e load data] }

/-- The load a call awaits, if any, has settled and did not throw. -/
def loaded (s : ActorStore) : Option Nat → Bool
  | none => true
  | some load =>
      match s.loads[load]? with
      | some (_, .loaded) => true
      | some (_, .notFound) => true
      | _ => false

/-- A call goes on behind its load. One whose load threw does not. -/
def resume (s : ActorStore) (c : Nat) : Option ActorStore :=
  let settled : ActorStore := { s with calls := s.calls.set c .settled }
  match s.calls[c]? with
  | some (.loadOrCreateActor e load newState) =>
      if s.loaded load then
        -- If no state for this actor, then create & write state
        if (s.entryAt e).state.isSome then some settled
        else some ((settled.setState e newState).writeActor newState false)
      else none
  | some (.writePersistedData e load data) =>
      if s.loaded load then
        match (s.entryAt e).state with
        | some state =>
            some (settled.writeActor
              { state with persistedData := data } false)
        | none => some settled
      else none
  | _ => none

/-- `startActor` has an instance for the entry in the map. -/
def startActor (s : ActorStore) : Option ActorStore :=
  match s.actors with
  | some e =>
      if (s.entryAt e).state.isSome then
        some { s with
          entries := s.entries.modify e fun entry =>
            { entry with actor := true } }
      else none
  | none => none

/-- `sleepActor` up to its first `await`, past its two `invariant`s. -/
def sleepActor (s : ActorStore) : Option ActorStore :=
  match s.actors with
  | some e =>
      if s.persist then
        some { s with calls := s.calls ++ [.sleepActor e] }
      else none
  | none => none

/-- The end of `sleepActor`, after `_stop`. What it deletes is whatever
the map has for the id. -/
def endSleep (s : ActorStore) (c : Nat) : Option ActorStore :=
  match s.calls[c]? with
  | some (.sleepActor e) =>
      if (s.entryAt e).actor && s.loaded (s.entryAt e).loadPromise then
        some { s with
          calls := s.calls.set c .settled
          actors := none }
      else none
  | _ => none

/-- The process ends and another starts on the same directory. -/
def restart (s : ActorStore) : ActorStore :=
  { persist := s.persist, stateFile := s.stateFile }

end ActorStore

-- ============================================================ the machine

/-- The steps. `lookup` is a `loadActor` whose caller only reads the entry
(`getForId`, `getWithKey`, `getActorsIterator`, `startActor`, an alarm
that fires), `scheduleAlarmTimeout` an alarm that is set or found at
startup. -/
inductive StoreStep
  | lookup
  | scheduleAlarmTimeout
  | readFile (load : Nat) (ok : Bool)
  | createActor (newState : ActorState)
  | loadOrCreateActor (newState : ActorState)
  | writePersistedData (data : List UInt8)
  | resume (c : Nat)
  | endWrite (w : Nat) (ok : Bool)
  | startActor
  | sleepActor
  | endSleep (c : Nat)
  | restart

/-- One step. -/
def storeStep (s : ActorStore) : StoreStep → Option ActorStore
  | .lookup => some s.loadActor.1
  | .scheduleAlarmTimeout => some s.upsertEntry.1
  | .readFile load ok => s.readFile load ok
  | .createActor newState => some (s.createActor newState).1
  | .loadOrCreateActor newState => some (s.loadOrCreateActor newState)
  | .writePersistedData data => some (s.writePersistedData data)
  | .resume c => s.resume c
  | .endWrite w ok => s.endWrite w ok
  | .startActor => s.startActor
  | .sleepActor => s.sleepActor
  | .endSleep c => s.endSleep c
  | .restart => some s.restart

/-- The runs over a storage directory that has nothing of the actor. -/
def storeSystem : System ActorStore StoreStep where
  init s := ∃ persist, s = { persist }
  step := storeStep

-- ============================================================ the contract

/-- Whether this process has an entry for the actor, read off the history:
something has touched the actor since the process started or last put it
to sleep. -/
def touchedAfter (touched : Bool) : StoreStep → Bool
  | .lookup => true
  | .scheduleAlarmTimeout => true
  | .createActor _ => true
  | .loadOrCreateActor _ => true
  | .writePersistedData _ => true
  | .endSleep _ => false
  | .restart => false
  | _ => touched

def touched (steps : List StoreStep) : Bool :=
  steps.foldl touchedAfter false

/-- A state for the actor exists in memory, in the entry or in a write in
flight, or on disk. -/
def ActorStore.HasState (s : ActorStore) : Prop :=
  (∃ e, s.actors = some e ∧ (s.entryAt e).state.isSome)
    ∨ s.writes ≠ [] ∨ s.stateFile.isSome

/-- A call of `createActor` is exact: it throws if and only if there is a
state, it changes nothing when it throws, and where a state is stored it
issues no write of another. -/
def ActorStore.CreatesExactly (s : ActorStore) (newState : ActorState) :
    Prop :=
  ((s.createActor newState).2.threw = true ↔ s.HasState)
    ∧ ((s.createActor newState).2.threw = true →
      (s.createActor newState).1 = s)
    ∧ (s.stateFile.isSome →
      (s.createActor newState).1.writes = s.writes
        ∧ (s.createActor newState).1.stateFile = s.stateFile)

/-- A write that `createActor` issued is in flight. -/
def ActorStore.Creating (s : ActorStore) : Prop :=
  ∃ write ∈ s.writes, write.create = true

/-- `createActor` is called when the map has the actor just if there is a
state, and no other write is renamed while its write is in flight. -/
def storeOk (s : ActorStore) : StoreStep → Prop
  | .createActor _ => s.actors.isSome ↔ s.HasState
  | .endWrite w true =>
      ∀ write ∈ s.writes.eraseIdx w, write.create = false
  | _ => True

end RivetKit.Drivers.FileSystem
