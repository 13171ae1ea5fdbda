/-
The calls of `FileSystemGlobalState` that read or make the state of one
actor (drivers/file-system/global-state.ts), from `await` to `await`:
`createActor`, `loadActor` and `loadOrCreateActor`. Over them, the writes
of the instance that `startActor` makes (drivers/file-system/actor.ts).
Nothing sleeps here and the process does not end.

# The file

`fs.readFile` finds what the file has at one moment (`readFile`), and
`loadActorState` goes on later with what was found. A `#performWrite` is
pending until its rename, which changes the file at once (`endWrite`); the
directory and the temporary file, which it makes before, are its own. Who
awaits a load or a write resumes later still, in any order.

# Names

Loads, writes and calls are named by the order they began in, and none is
dropped. So `writes` is in the order of issue.

# History

`created` has each state that a call put in the entry anew, with the
call. No branch reads it.
-/
import RivetKit.Actor.Persisted
import RivetKit.Drivers.FileSystem.ActorStore

namespace RivetKit.Drivers.FileSystem

open Transition
open Actor
open Js

-- =============================================================== the data

/-- A promise of `loadActorState`: before the read, behind it with what
it found, settled. -/
inductive LoadPhase
  | reading
  | read (found : Option ActorState)
  | loaded
  | notFound
  | failed
  deriving DecidableEq

/-- A `#performWrite`: before the rename, behind it, or thrown. -/
inductive FileWritePhase
  | pending
  | renamed
  | failed
  deriving DecidableEq

/-- A `#performWrite`, and whether it writes a state just created. -/
structure IssuedWrite where
  state : ActorState
  initial : Bool
  phase : FileWritePhase := .pending
  deriving DecidableEq

/-- What `createActor` and `loadOrCreateActor` get. -/
structure CreateParams where
  name : String
  key : List String
  input : Value

/-- The state of an actor created at `now`. -/
def CreateParams.initialState (ser : Serializer) (params : CreateParams)
    (actorId : String) (now : Nat) : ActorState where
  actorId := actorId
  name := params.name
  key := params.key
  createdAt := now
  persistedData := serializeEmptyPersistData ser params.input

/-- The calls. -/
inductive CallKind
  | createActor (params : CreateParams)
  | loadActor
  | loadOrCreateActor (params : CreateParams)

/-- Where a call is. It awaits a `loadActor` that had nothing to wait for,
or a write that the memory driver skips, as `none`. -/
inductive CallPc
  | awaitLoad (load : Option Nat)
  | awaitWrite (write : Option Nat)
  | returned (state : Option ActorState)
  | threw
  deriving DecidableEq

/-- A call; one that returned has the state its caller sees. -/
structure StateCall where
  kind : CallKind
  pc : CallPc

/-- A state that the call `call` created. -/
structure CreatedState where
  call : Nat
  state : ActorState
  deriving DecidableEq

/-- `FileSystemGlobalState` for one actor id, with the calls on it. -/
structure StateCalls where
  actorId : String
  persist : Bool
  entry : Option StoreEntry := none
  loads : List LoadPhase := []
  writes : List IssuedWrite := []
  calls : List StateCall := []
  stateFile : Option ActorState := none
  created : List CreatedState := []

namespace StateCalls

-- ================================================================ the map

/-- `#upsertEntry`. -/
def upsertEntry (s : StateCalls) : StoreEntry := s.entry.getD {}

/-- Replace the entry. -/
def setEntry (s : StateCalls) (entry : StoreEntry) : StateCalls :=
  { s with entry := some entry }

/-- A call begins. -/
def pushCall (s : StateCalls) (kind : CallKind) (pc : CallPc) :
    StateCalls :=
  { s with calls := s.calls ++ [⟨kind, pc⟩] }

/-- Move a call on. -/
def setPc (s : StateCalls) (c : Nat) (pc : CallPc) : StateCalls :=
  { s with calls := s.calls.modify c fun call => { call with pc := pc } }

-- ============================================================== the loads

/-- The synchronous part of `loadActor`, and the load its caller
awaits. -/
def loadActor (s : StateCalls) : StateCalls × Option Nat :=
  let entry := s.upsertEntry
  let s := s.setEntry entry
  -- Check if already loaded
  if entry.state.isSome then (s, none)
  -- If not persisted, then don't load from FS
  else if !s.persist then (s, none)
  else match entry.loadPromise with
    | some load => (s, some load)
    | none =>
        let load := s.loads.length
        ({ s.setEntry { entry with loadPromise := some load } with
            loads := s.loads ++ [.reading] }, some load)

/-- `fs.readFile` reads the state file. `ok` is whether it can be read
and parsed, if there is one. -/
def readFile (s : StateCalls) (load : Nat) (ok : Bool) :
    Option StateCalls :=
  match s.loads[load]? with
  | some .reading =>
      let phase := if ok then .read s.stateFile else .failed
      some { s with loads := s.loads.set load phase }
  | _ => none

/-- `loadActorState` behind the read. -/
def loadActorState (s : StateCalls) (load : Nat) : Option StateCalls :=
  match s.loads[load]? with
  | some (.read (some state)) =>
      -- Cache the loaded state in handler
      some { s.setEntry { s.upsertEntry with state := some state } with
        loads := s.loads.set load .loaded }
  | some (.read none) =>
      -- File does not exist, meaning the actor does not exist
      some { s.setEntry { s.upsertEntry with loadPromise := none } with
        loads := s.loads.set load .notFound }
  | _ => none

/-- What awaiting a load comes to: `none` while it is under way. -/
def loadSettled (s : StateCalls) : Option Nat → Option Bool
  | none => some true
  | some load =>
      match s.loads[load]? with
      | some .loaded => some true
      | some .notFound => some true
      | some .failed => some false
      | _ => none

-- ============================================================= the writes

/-- `writeActor` up to its `await`, and the write its caller awaits. -/
def writeActor (s : StateCalls) (state : ActorState) (initial : Bool) :
    StateCalls × Option Nat :=
  if s.persist then
    ({ s with writes := s.writes ++ [{ state, initial }] },
      some s.writes.length)
  else (s, none)

/-- A write renames its file, or fails before. -/
def endWrite (s : StateCalls) (w : Nat) (ok : Bool) : Option StateCalls :=
  match s.writes[w]? with
  | some ⟨state, initial, .pending⟩ =>
      if ok then
        some { s with
          writes := s.writes.set w ⟨state, initial, .renamed⟩
          stateFile := some state }
      else
        some { s with writes := s.writes.set w ⟨state, initial, .failed⟩ }
  | _ => none

/-- What awaiting a write comes to. -/
def writeSettled (s : StateCalls) : Option Nat → Option Bool
  | none => some true
  | some w =>
      match s.writes[w]? with
      | some ⟨_, _, .renamed⟩ => some true
      | some ⟨_, _, .failed⟩ => some false
      | _ => none

-- ============================================================== the calls

variable (ser : Serializer)

/-- The state that a call creates at `now`. -/
def initialState (s : StateCalls) (params : CreateParams) (now : Nat) :
    ActorState :=
  params.initialState ser s.actorId now

/-- Put a new state in the entry and write it. -/
def create (s : StateCalls) (c : Nat) (params : CreateParams)
    (now : Nat) : StateCalls × Option Nat :=
  let state := s.initialState ser params now
  let s : StateCalls :=
    { s.setEntry { s.upsertEntry with state := some state } with
      created := s.created ++ [⟨c, state⟩] }
  s.writeActor state true

/-- `createActor` up to its `await`. -/
def createActor (s : StateCalls) (params : CreateParams) (now : Nat) :
    StateCalls :=
  if s.entry.isSome then s.pushCall (.createActor params) .threw
  else
    let (s, write) := s.create ser s.calls.length params now
    s.pushCall (.createActor params) (.awaitWrite write)

/-- `loadActor`, called by another than the calls here. -/
def callLoadActor (s : StateCalls) : StateCalls :=
  let (s, load) := s.loadActor
  s.pushCall .loadActor (.awaitLoad load)

/-- `loadOrCreateActor` up to its first `await`. -/
def loadOrCreateActor (s : StateCalls) (params : CreateParams) :
    StateCalls :=
  let (s, load) := s.loadActor
  s.pushCall (.loadOrCreateActor params) (.awaitLoad load)

/-- `loadOrCreateActor` behind its `loadActor`, at `now`. -/
def afterLoad (s : StateCalls) (c : Nat) (params : CreateParams)
    (now : Nat) : StateCalls :=
  match s.upsertEntry.state with
  | some state => s.setPc c (.returned (some state))
  | none =>
      -- If no state for this actor, then create & write state
      let (s, write) := s.create ser c params now
      s.setPc c (.awaitWrite write)

/-- A call resumes when what it awaits has settled. -/
def resume (s : StateCalls) (c : Nat) (now : Nat) : Option StateCalls :=
  match s.calls[c]? with
  | some ⟨kind, .awaitLoad load⟩ =>
      match s.loadSettled load, kind with
      | some true, .loadOrCreateActor params =>
          some (s.afterLoad ser c params now)
      | some true, _ => some (s.setPc c (.returned s.upsertEntry.state))
      | some false, _ => some (s.setPc c .threw)
      | none, _ => none
  | some ⟨_, .awaitWrite write⟩ =>
      match s.writeSettled write with
      | some true => some (s.setPc c (.returned s.upsertEntry.state))
      | some false => some (s.setPc c .threw)
      | none => none
  | _ => none

end StateCalls

-- ============================================================ the machine

/-- The steps of the calls and of the file system. -/
inductive StateStep
  | createActor (params : CreateParams) (now : Nat)
  | loadActor
  | loadOrCreateActor (params : CreateParams)
  | readFile (load : Nat) (ok : Bool)
  | loadActorState (load : Nat)
  | resume (c : Nat) (now : Nat)
  | endWrite (w : Nat) (ok : Bool)

/-- One step. -/
def stateStep (ser : Serializer) (s : StateCalls) :
    StateStep → Option StateCalls
  | .createActor params now => some (s.createActor ser params now)
  | .loadActor => some s.callLoadActor
  | .loadOrCreateActor params => some (s.loadOrCreateActor params)
  | .readFile load ok => s.readFile load ok
  | .loadActorState load => s.loadActorState load
  | .resume c now => s.resume ser c now
  | .endWrite w ok => s.endWrite w ok

/-- The process begins, on a storage directory that has `stored` for the
actor; the memory driver has no directory. -/
def StateCalls.Begins (stored : Option ActorState) (s : StateCalls) :
    Prop :=
  ∃ actorId, s = { actorId, persist := true, stateFile := stored }
    ∨ stored = none ∧ s = { actorId, persist := false }

/-- Every interleaving of the calls. -/
def stateSystem (ser : Serializer) (stored : Option ActorState) :
    System StateCalls StateStep where
  init := StateCalls.Begins stored
  step := stateStep ser

/-- There is a single initial state: one at most is created, by
`createActor` if a file was stored, and all callers that get a state get
one and the same name, key, data and time of creation. -/
structure StateCalls.SingleState (stored : Option ActorState)
    (s : StateCalls) : Prop where
  created : s.created.length ≤ 1
  stored : stored.isSome = true → ∀ made ∈ s.created,
    ∃ params pc, s.calls[made.call]? = some ⟨.createActor params, pc⟩
  same : ∀ {c c' : Nat} {kind kind' : CallKind} {state state' : ActorState},
    s.calls[c]? = some ⟨kind, .returned (some state)⟩ →
    s.calls[c']? = some ⟨kind', .returned (some state')⟩ →
    state.name = state'.name ∧ state.key = state'.key
      ∧ state.persistedData = state'.persistedData
      ∧ state.createdAt = state'.createdAt

-- ====================================================== the instance

/-- Where the instance is with its writes: it has one
`writePersistedData` under way at most, in the write queue or awaited by
`start`. -/
inductive WriterPc
  | idle
  | awaitLoad (load : Option Nat) (data : Bytes)
  | awaitWrite (write : Option Nat)
  deriving DecidableEq

/-- The calls, those of `startActor` among them, and the instance, which
exists as soon as the entry has it. -/
structure RunningActor where
  store : StateCalls
  starts : List CallPc := []
  writer : WriterPc := .idle

namespace RunningActor

/-- `startActor` up to its first `await`. -/
def startActor (s : RunningActor) : RunningActor :=
  let (store, load) := s.store.loadActor
  { s with store := store, starts := s.starts ++ [.awaitLoad load] }

/-- `startActor` behind its `loadActor`. A call that finds an instance or
the start of one leaves the entry as it is. `instantiates` is whether the
lookup of the definition and `instantiate` return. -/
def instantiate (s : RunningActor) (c : Nat) (instantiates : Bool) :
    Option RunningActor :=
  match s.starts[c]? with
  | some (.awaitLoad load) =>
      let threw : RunningActor := { s with starts := s.starts.set c .threw }
      match s.store.loadSettled load, s.store.upsertEntry.state with
      | some true, some state =>
          if s.store.upsertEntry.actor || instantiates then
            some { s with
              store := s.store.setEntry
                { s.store.upsertEntry with actor := true }
              starts := s.starts.set c (.returned (some state)) }
          else some threw
      | some true, none => some threw
      | some false, _ => some threw
      | none, _ => none
  | _ => none

/-- The instance calls `writePersistedData`. -/
def writePersistedData (s : RunningActor) (data : Bytes) :
    Option RunningActor :=
  if s.store.upsertEntry.actor ∧ s.writer = .idle then
    let (store, load) := s.store.loadActor
    some { s with store := store, writer := .awaitLoad load data }
  else none

/-- `writePersistedData` resumes, and behind its write the instance. -/
def resumeWriter (s : RunningActor) : Option RunningActor :=
  match s.writer with
  | .idle => none
  | .awaitLoad load data =>
      match s.store.loadSettled load, s.store.upsertEntry.state with
      | some true, some state =>
          let (store, write) := s.store.writeActor
            { state with persistedData := data } false
          some { s with store := store, writer := .awaitWrite write }
      | some true, none => some { s with writer := .idle }
      | some false, _ => some { s with writer := .idle }
      | none, _ => none
  | .awaitWrite write =>
      if (s.store.writeSettled write).isSome then
        some { s with writer := .idle }
      else none

end RunningActor

/-- The steps of the calls, and of the instance. -/
inductive WriterStep
  | state (a : StateStep)
  | startActor
  | instantiate (c : Nat) (instantiates : Bool)
  | writePersistedData (data : Bytes)
  | resumeWriter

/-- One step. -/
def writerStep (ser : Serializer) (s : RunningActor) :
    WriterStep → Option RunningActor
  | .state a =>
      (stateStep ser s.store a).map fun store => { s with store := store }
  | .startActor => some s.startActor
  | .instantiate c instantiates => s.instantiate c instantiates
  | .writePersistedData data => s.writePersistedData data
  | .resumeWriter => s.resumeWriter

/-- Every interleaving of the calls and of the writes of the instance. -/
def writerSystem (ser : Serializer) : System RunningActor WriterStep where
  init s := ∃ stored store, StateCalls.Begins stored store
    ∧ s = { store := store }
  step := writerStep ser

/-- Once all writes have been renamed, the file holds the one issued
last. -/
def StateCalls.HoldsLastWrite (s : StateCalls) : Prop :=
  (∀ write ∈ s.writes, write.phase = .renamed) →
    ∀ last, s.writes.getLast? = some last → s.stateFile = some last.state

/-- The write of a state just created is not renamed behind the last one
issued, or writes the same; a write that failed leaves nothing to ask. -/
def writeOrderSafe (s : RunningActor) : WriterStep → Prop
  | .state (.endWrite w true) =>
      ∀ write last, s.store.writes[w]? = some write →
        write.initial = true → s.store.writes.getLast? = some last →
        last.phase = .renamed →
        (∃ other ∈ s.store.writes, other.phase = .failed)
          ∨ write.state = last.state
  | _ => True

end RivetKit.Drivers.FileSystem
