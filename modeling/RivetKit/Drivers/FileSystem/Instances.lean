/-
The instances of one actor under the file-system driver
(drivers/file-system/global-state.ts, drivers/file-system/actor.ts,
actor/instance.ts): `startActor`, `loadActor`, `sleepActor`, and each
instance from the read of its record to the end of its `_stop` and
beyond, with whatever still calls back.

# Instances

`instances` has every instance made, in order. An instance goes through
`start` first, where `#initialize` reads the record; from there on it is a
`StoppingInstance`, so its sockets, liveness checks, timers, saves and the
parts of `_stop` are the steps of that machine. The write that its queue
runs goes through the driver: `writePersistedData` loads the entry that is
in the map, and `#performWrite` renames. The alarm file is written through
a queue of its own; a `setAlarm` that finds no entry fails like one whose
rename does.

# Entries

`sleepActor` holds the entry it began with and at its end deletes whatever
the map has. `removed`, which it sets, is read nowhere and is left out. A
start is named by its instance.

# User code

Hooks, actions and promises given to `waitUntil` begin and end by steps of
their own, `onStop` with `_stop`. They only change the user state while
they run. `_stop` goes on behind `onStop` when that has ended, and behind
the promises when they have; or when the deadline has passed (`deadline`),
and then they may run on. It waits for no other user code.

# History

`applied` has the writes that were renamed, each with the instances that
had read their record by then. No branch reads it.
-/
import RivetKit.Actor.PersistedVersioned
import RivetKit.Actor.Stop
import RivetKit.Drivers.FileSystem.StateCalls

namespace RivetKit.Drivers.FileSystem

open Transition
open Actor
open Js

-- =============================================================== the data

/-- Where an instance is with its start. `initializing` has a record that
is not initiated, and its first write before it. -/
inductive InstanceStage
  | reading (entry : Nat) (load : Option Nat)
  | initializing
  | starting
  | started
  | failed
  deriving DecidableEq

/-- A `writePersistedData`, behind its `loadActor`, behind the temporary
file, and settled. -/
inductive PersistPc
  | awaitLoad (entry : Nat) (load : Option Nat) (data : Bytes)
  | renaming (state : ActorState)
  | settled (ok : Bool)
  deriving DecidableEq

/-- Kinds of user code: the hook `onStop`, a promise that `waitUntil` was
given, and an action or another hook. -/
inductive UserCodeKind
  | onStop
  | backgroundPromise
  | other
  deriving DecidableEq

/-- The user code that is running. -/
structure UserCode where
  onStop : Bool := false
  backgroundPromises : Nat := 0
  others : Nat := 0
  deriving DecidableEq

/-- Some is. -/
def UserCode.runs (code : UserCode) : Bool :=
  code.onStop || decide (0 < code.backgroundPromises)
    || decide (0 < code.others)

/-- Some of this kind is. -/
def UserCode.has (code : UserCode) : UserCodeKind → Bool
  | .onStop => code.onStop
  | .backgroundPromise => decide (0 < code.backgroundPromises)
  | .other => decide (0 < code.others)

/-- Some of this kind ends. -/
def UserCode.ends (code : UserCode) : UserCodeKind → UserCode
  | .onStop => { code with onStop := false }
  | .backgroundPromise =>
      { code with backgroundPromises := code.backgroundPromises - 1 }
  | .other => { code with others := code.others - 1 }

/-- An `ActorInstance`, made for an entry. It has a `body` once it has
read its record. `alarm` says of `#alarmWriteQueue` that a `setAlarm` is
under way, and whether another one is queued. -/
structure DriverInstance where
  entry : Nat
  stage : InstanceStage
  body : Option StoppingInstance := none
  write : Option PersistPc := none
  alarm : Option Bool := none
  userCode : UserCode := {}

/-- Where a call of `sleepActor` is. `returning` awaits a `_stop` that had
been called before. -/
inductive SleepPc
  | awaitLoad (load : Nat)
  | awaitStart
  | awaitStop (actor : Nat)
  | returning
  | ended
  deriving DecidableEq

/-- A call of `sleepActor`, and the entry it holds. -/
structure SleepCall where
  entry : Nat
  pc : SleepPc
  deriving DecidableEq

/-- Where a call of `startActor` is that has not come to an instance. -/
inductive StartFrame
  | awaitLoad (entry : Nat) (load : Option Nat)
  | ended
  deriving DecidableEq

/-- A write of the instance `actor` was renamed. -/
structure AppliedWrite where
  actor : Nat
  readers : List Nat
  deriving DecidableEq

/-- `FileSystemGlobalState` for one actor id, with its instances. A load
is named by its place in `loads` and has the entry it loads. -/
structure ActorInstances where
  entries : List ActorEntry := []
  actors : Option Nat := none
  loads : List (Nat × LoadPhase) := []
  stateFile : Option ActorState := none
  instances : List DriverInstance := []
  starts : List StartFrame := []
  sleeps : List SleepCall := []
  applied : List AppliedWrite := []

namespace ActorInstances

-- ============================================================ the entries

/-- The entry at `e`. -/
def entryAt (s : ActorInstances) (e : Nat) : ActorEntry :=
  s.entries.getD e {}

/-- Change the entry at `e`. -/
def modifyEntry (s : ActorInstances) (e : Nat)
    (f : ActorEntry → ActorEntry) : ActorInstances :=
  { s with entries := s.entries.modify e f }

/-- Change the instance `i`. -/
def modifyInstance (s : ActorInstances) (i : Nat)
    (f : DriverInstance → DriverInstance) : ActorInstances :=
  { s with instances := s.instances.modify i f }

/-- `#upsertEntry`. -/
def upsertEntry (s : ActorInstances) : ActorInstances × Nat :=
  match s.actors with
  | some e => (s, e)
  | none =>
      let e := s.entries.length
      ({ s with entries := s.entries ++ [{}], actors := some e }, e)

/-- The synchronous part of `loadActor`: the entry, and the load that its
caller awaits. -/
def loadActor (s : ActorInstances) : ActorInstances × Nat × Option Nat :=
  let (s, e) := s.upsertEntry
  if (s.entryAt e).state.isSome then (s, e, none)
  else match (s.entryAt e).loadPromise with
    | some load => (s, e, some load)
    | none =>
        let load := s.loads.length
        ({ s.modifyEntry e fun entry =>
              { entry with loadPromise := some load } with
            loads := s.loads ++ [(e, .reading)] }, e, some load)

/-- `fs.readFile` reads the state file. -/
def readFile (s : ActorInstances) (load : Nat) (ok : Bool) :
    Option ActorInstances :=
  match s.loads[load]? with
  | some (e, .reading) =>
      let phase := if ok then .read s.stateFile else .failed
      some { s with loads := s.loads.set load (e, phase) }
  | _ => none

/-- `loadActorState` behind the read. -/
def loadActorState (s : ActorInstances) (load : Nat) :
    Option ActorInstances :=
  match s.loads[load]? with
  | some (e, .read (some state)) =>
      some { s.modifyEntry e fun entry =>
          { entry with state := some state } with
        loads := s.loads.set load (e, .loaded) }
  | some (e, .read none) =>
      some { s.modifyEntry e fun entry =>
          { entry with loadPromise := none } with
        loads := s.loads.set load (e, .notFound) }
  | _ => none

/-- What awaiting a load comes to: `none` while it is under way. -/
def loadSettled (s : ActorInstances) : Option Nat → Option Bool
  | none => some true
  | some load =>
      match s.loads[load]? with
      | some (_, .loaded) => some true
      | some (_, .notFound) => some true
      | some (_, .failed) => some false
      | _ => none

-- =========================================================== startActor

/-- `startActor` up to its first `await`. -/
def startActor (s : ActorInstances) : ActorInstances :=
  let (s, e, load) := s.loadActor
  { s with starts := s.starts ++ [.awaitLoad e load] }

/-- `definition.instantiate()` and `start` up to the first `await`, which
is that of `readPersistedData`. -/
def instantiate (s : ActorInstances) (e : Nat) : ActorInstances :=
  let i := s.instances.length
  let (s, entry, load) := (s.modifyEntry e fun entry =>
    { entry with actor := some i, startPromise := some i }).loadActor
  { s with instances :=
      s.instances ++ [{ entry := e, stage := .reading entry load }] }

/-- `startActor` behind its `loadActor`. Unless it makes an instance, it
throws, returns the instance there is, or joins its start. -/
def resumeStart (s : ActorInstances) (k : Nat) (instantiates : Bool) :
    Option ActorInstances :=
  match s.starts[k]? with
  | some (.awaitLoad e load) =>
      let ended : ActorInstances :=
        { s with starts := s.starts.set k .ended }
      let entry := s.entryAt e
      match s.loadSettled load with
      | some true =>
          if entry.state.isSome && entry.startPromise.isNone
              && entry.actor.isNone && instantiates then
            some (ended.instantiate e)
          else some ended
      | some false => some ended
      | none => none
  | _ => none

/-- The `start` of instance `i` throws. -/
def failStart (s : ActorInstances) (i e : Nat) : ActorInstances :=
  (s.modifyInstance i fun inst =>
      { inst with stage := .failed, write := none }).modifyEntry e
    fun entry => { entry with startPromise := none }

variable (codec : PersistCodec) (opts : ActorOptions)

/-- The record that instance `i` gets, when the load it awaits has
settled. -/
def recordFor (s : ActorInstances) (i : Nat) : Option PersistedActor :=
  match s.instances[i]? with
  | some ⟨_, .reading e load, _, _, _, _⟩ =>
      if s.loadSettled load = some true then
        (s.entryAt e).state.bind fun state =>
          readData codec state.persistedData
      else none
  | _ => none

/-- `#initialize` behind `readPersistedData`. -/
def readPersistedData (s : ActorInstances) (i : Nat) :
    Option ActorInstances :=
  match s.instances[i]? with
  | some ⟨e, .reading _ load, _, _, _, _⟩ =>
      if (s.loadSettled load).isSome then
        match s.recordFor codec i with
        | some record =>
            some (s.modifyInstance i fun inst =>
              { inst with
                stage :=
                  if record.hasInitiated then .starting else .initializing
                body :=
                  some { toLiveInstance := .initialized opts record } })
        | none => some (s.failStart i e)
      else none
  | _ => none

/-- The driver gets a `writePersistedData` of instance `i`. A record that
cannot be encoded has thrown before. -/
def callDriver (s : ActorInstances) (i : Nat) (record : PersistedActor) :
    ActorInstances :=
  match writtenData codec record with
  | some data =>
      let (s, e, load) := s.loadActor
      s.modifyInstance i fun inst =>
        { inst with write := some (.awaitLoad e load data) }
  | none =>
      s.modifyInstance i fun inst =>
        { inst with write := some (.settled false) }

/-- `#initialize` has made the user state of a new actor and writes the
record. -/
def initialWrite (s : ActorInstances) (i : Nat) (state : Value) :
    Option ActorInstances :=
  match s.instances[i]? with
  | some ⟨_, .initializing, some body, none, _, _⟩ =>
      let record : PersistedActor :=
        { body.persistRaw with state := state, hasInitiated := true }
      some ((s.modifyInstance i fun inst =>
          { inst with
            body :=
              some { toLiveInstance := .initialized opts record } }).callDriver
        codec i record)
  | _ => none

/-- `#initialize` behind that write. -/
def initialWritten (s : ActorInstances) (i : Nat) : Option ActorInstances :=
  match s.instances[i]? with
  | some ⟨e, .initializing, _, some (.settled ok), _, _⟩ =>
      if ok then
        some (s.modifyInstance i fun inst =>
          { inst with stage := .starting, write := none })
      else some (s.failStart i e)
  | _ => none

/-- The rest of `start` ends. -/
def startEnds (s : ActorInstances) (i : Nat) (ok : Bool) :
    Option ActorInstances :=
  match s.instances[i]? with
  | some ⟨e, .starting, some body, _, _, _⟩ =>
      if ok then
        some ((s.modifyInstance i fun inst =>
            { inst with
              stage := .started
              body := some { body with ready := true } }).modifyEntry e
          fun entry => { entry with startPromise := none })
      else
        some ((s.modifyInstance i fun inst =>
            { inst with stage := .failed }).modifyEntry e
          fun entry => { entry with startPromise := none })
  | _ => none

-- ========================================================= the instance

/-- The steps that an instance takes by itself. User code changes the
state while it runs, the write of the queue settles with the call of the
driver, and `_stop` waits for `onStop`, the background promises and the
alarm queue. -/
def takes (inst : DriverInstance) : StopStep → Bool
  | .stop => false
  | .save .ready => false
  | .onStopEnds => !inst.userCode.onStop
  | .backgroundEnds => decide (inst.userCode.backgroundPromises = 0)
  | .alarmQueueEnds => inst.alarm.isNone
  | .live (.stateChange _ _ _) => inst.userCode.runs
  | .save (.driverWrite ok) => decide (inst.write = some (.settled ok))
  | _ => true

/-- The call of the driver under way, behind a step. -/
def writeAfter (inst : DriverInstance) : StopStep → Option PersistPc
  | .save (.driverWrite _) => none
  | _ => inst.write

/-- The instance `i`, as it is, takes a step. Where that starts a write,
the driver is called. -/
def advance (s : ActorInstances) (i : Nat) (inst : DriverInstance)
    (body : StoppingInstance) (a : StopStep) : Option ActorInstances :=
  (stopStep codec.toCodec opts body a).map fun body' =>
    let write := writeAfter inst a
    let s := s.modifyInstance i fun inst =>
      { inst with body := some body', write := write }
    match body'.write, write with
    | some ⟨snapshot, .inFlight⟩, none =>
        s.callDriver codec i snapshot.persist
    | _, _ => s

/-- A step of instance `i`. -/
def live (s : ActorInstances) (i : Nat) (a : StopStep) :
    Option ActorInstances :=
  match s.instances[i]? with
  | some inst =>
      match inst.body with
      | some body =>
          if inst.stage ≠ .initializing ∧ takes inst a = true then
            s.advance codec opts i inst body a
          else none
      | none => none
  | none => none

/-- The deadline passes of what the `_stop` of instance `i` awaits:
`onStopTimeout`, or `waitUntilTimeout`. -/
def deadline (s : ActorInstances) (i : Nat) : Option ActorInstances :=
  match s.instances[i]? with
  | some inst =>
      match inst.body with
      | some body =>
          match body.stopPc with
          | some .onStop => s.advance codec opts i inst body .onStopEnds
          | some .backgroundPromises =>
              s.advance codec opts i inst body .backgroundEnds
          | _ => none
      | none => none
  | none => none

/-- `writePersistedData` behind its `loadActor`. -/
def resumeWrite (s : ActorInstances) (i : Nat) : Option ActorInstances :=
  match (s.instances[i]?).bind (·.write) with
  | some (.awaitLoad e load data) =>
      let setWrite (write : PersistPc) : ActorInstances :=
        s.modifyInstance i fun inst => { inst with write := some write }
      match s.loadSettled load, (s.entryAt e).state with
      | some true, some state =>
          if s.actors.isSome then
            some (setWrite (.renaming { state with persistedData := data }))
          else some (setWrite (.settled false))
      | some true, none => some (setWrite (.settled false))
      | some false, _ => some (setWrite (.settled false))
      | none, _ => none
  | _ => none

/-- The instances that have read their record. -/
def readers (s : ActorInstances) : List Nat :=
  (List.range s.instances.length).filter fun j =>
    (s.instances[j]?).any (·.body.isSome)

/-- A write of instance `i` was renamed. -/
def apply (s : ActorInstances) (i : Nat) : ActorInstances :=
  { s with applied := s.applied ++ [⟨i, s.readers⟩] }

/-- The write of instance `i` renames its file, or fails. -/
def rename (s : ActorInstances) (i : Nat) (ok : Bool) :
    Option ActorInstances :=
  match (s.instances[i]?).bind (·.write) with
  | some (.renaming state) =>
      let s := s.modifyInstance i fun inst =>
        { inst with write := some (.settled ok) }
      if ok then some { s.apply i with stateFile := some state }
      else some s
  | _ => none

/-- `#queueSetAlarm` of instance `i`. -/
def queueSetAlarm (s : ActorInstances) (i : Nat) : Option ActorInstances :=
  match s.instances[i]? with
  | some inst =>
      if inst.body.isSome then
        some (s.modifyInstance i fun inst =>
          { inst with alarm := some inst.alarm.isSome })
      else none
  | none => none

/-- The write of the alarm file by instance `i` renames, or fails, and its
queue goes on. -/
def renameAlarm (s : ActorInstances) (i : Nat) (ok : Bool) :
    Option ActorInstances :=
  match (s.instances[i]?).bind (·.alarm) with
  | some queued =>
      let s := s.modifyInstance i fun inst =>
        { inst with alarm := if queued then some false else none }
      if ok then some (s.apply i) else some s
  | none => none

/-- An action or a hook of instance `i` begins. -/
def userCode (s : ActorInstances) (i : Nat) : Option ActorInstances :=
  if (s.instances[i]?).any (·.body.isSome) then
    some (s.modifyInstance i fun inst =>
      { inst with
        userCode :=
          { inst.userCode with others := inst.userCode.others + 1 } })
  else none

/-- `waitUntil` is given a promise, behind its `#assertReady`. -/
def waitUntil (s : ActorInstances) (i : Nat) : Option ActorInstances :=
  if (s.instances[i]?).any (·.body.any (·.assertReady false)) then
    some (s.modifyInstance i fun inst =>
      { inst with
        userCode :=
          { inst.userCode with
            backgroundPromises := inst.userCode.backgroundPromises + 1 } })
  else none

/-- User code of instance `i` ends. -/
def userCodeEnds (s : ActorInstances) (i : Nat) (kind : UserCodeKind) :
    Option ActorInstances :=
  if (s.instances[i]?).any (·.userCode.has kind) then
    some (s.modifyInstance i fun inst =>
      { inst with userCode := inst.userCode.ends kind })
  else none

-- =========================================================== sleepActor

/-- Move a call of `sleepActor` on. -/
def setSleep (s : ActorInstances) (k : Nat) (pc : SleepPc) :
    ActorInstances :=
  { s with sleeps := s.sleeps.modify k fun call => { call with pc := pc } }

/-- `sleepActor` behind the start: call `_stop`, which calls `onStop`. It
throws for an instance that has nothing, and returns at once where it was
called before. -/
def sleepStop (s : ActorInstances) (k e : Nat) : ActorInstances :=
  match (s.entryAt e).actor with
  | none => s.setSleep k .ended
  | some i =>
      match (s.instances[i]?).bind (·.body) with
      | none => s.setSleep k .ended
      | some body =>
          if body.stopCalled then s.setSleep k .returning
          else
            (s.modifyInstance i fun inst =>
              { inst with
                body := some body.stop
                userCode := { inst.userCode with onStop := true }
              }).setSleep k (.awaitStop i)

/-- `sleepActor` behind the load. -/
def sleepStart (s : ActorInstances) (k e : Nat) : ActorInstances :=
  if (s.entryAt e).startPromise.isSome then s.setSleep k .awaitStart
  else s.sleepStop k e

/-- `sleepActor` up to its first `await`. -/
def sleepActor (s : ActorInstances) : Option ActorInstances :=
  match s.actors with
  | none => none
  | some e =>
      let push (pc : SleepPc) : ActorInstances :=
        { s with sleeps := s.sleeps ++ [⟨e, pc⟩] }
      match (s.entryAt e).loadPromise with
      | some load => some (push (.awaitLoad load))
      | none => some ((push .ended).sleepStart s.sleeps.length e)

/-- The instance of the entry at `e`. -/
def actorOf (s : ActorInstances) (e : Nat) : Option DriverInstance :=
  (s.entryAt e).actor.bind fun i => s.instances[i]?

/-- A call of `sleepActor` resumes when what it awaits has settled. -/
def resumeSleep (s : ActorInstances) (k : Nat) : Option ActorInstances :=
  match s.sleeps[k]? with
  | some ⟨e, .awaitLoad load⟩ =>
      match s.loadSettled (some load) with
      | some true => some (s.sleepStart k e)
      | some false => some (s.setSleep k .ended)
      | none => none
  | some ⟨e, .awaitStart⟩ =>
      match s.actorOf e with
      | some inst =>
          if inst.stage = .started then some (s.sleepStop k e)
          else if inst.stage = .failed then some (s.setSleep k .ended)
          else none
      | none => none
  | some ⟨_, .awaitStop i⟩ =>
      match ((s.instances[i]?).bind (·.body)).bind (·.stopPc) with
      -- Remove from map after stop is complete
      | some .resolved => some { s.setSleep k .ended with actors := none }
      | some .rejected => some (s.setSleep k .ended)
      | _ => none
  | some ⟨_, .returning⟩ => some { s.setSleep k .ended with actors := none }
  | _ => none

end ActorInstances

-- ============================================================ the machine

/-- The steps. -/
inductive InstanceStep
  | loadActor
  | readFile (load : Nat) (ok : Bool)
  | loadActorState (load : Nat)
  | startActor
  | resumeStart (k : Nat) (instantiates : Bool)
  | readPersistedData (i : Nat)
  | initialWrite (i : Nat) (state : Value)
  | initialWritten (i : Nat)
  | startEnds (i : Nat) (ok : Bool)
  | live (i : Nat) (a : StopStep)
  | resumeWrite (i : Nat)
  | rename (i : Nat) (ok : Bool)
  | queueSetAlarm (i : Nat)
  | renameAlarm (i : Nat) (ok : Bool)
  | deadline (i : Nat)
  | userCode (i : Nat)
  | waitUntil (i : Nat)
  | userCodeEnds (i : Nat) (kind : UserCodeKind)
  | sleepActor
  | resumeSleep (k : Nat)

/-- One step. -/
def instanceStep (codec : PersistCodec) (opts : ActorOptions)
    (s : ActorInstances) : InstanceStep → Option ActorInstances
  | .loadActor => some s.loadActor.1
  | .readFile load ok => s.readFile load ok
  | .loadActorState load => s.loadActorState load
  | .startActor => some s.startActor
  | .resumeStart k instantiates => s.resumeStart k instantiates
  | .readPersistedData i => s.readPersistedData codec opts i
  | .initialWrite i state => s.initialWrite codec opts i state
  | .initialWritten i => s.initialWritten i
  | .startEnds i ok => s.startEnds i ok
  | .live i a => s.live codec opts i a
  | .resumeWrite i => s.resumeWrite i
  | .rename i ok => s.rename i ok
  | .queueSetAlarm i => s.queueSetAlarm i
  | .renameAlarm i ok => s.renameAlarm i ok
  | .deadline i => s.deadline codec opts i
  | .userCode i => s.userCode i
  | .waitUntil i => s.waitUntil i
  | .userCodeEnds i kind => s.userCodeEnds i kind
  | .sleepActor => s.sleepActor
  | .resumeSleep k => s.resumeSleep k

/-- The process begins, on whatever is stored. -/
def instanceSystem (codec : PersistCodec) (opts : ActorOptions) :
    System ActorInstances InstanceStep where
  init s := ∃ stateFile, s = { stateFile := stateFile }
  step := instanceStep codec opts

-- ============================================================ the contract

/-- No write of an instance was applied when a newer one had read its
record, and one instance at most is running user code. -/
structure ActorInstances.OneInstance (s : ActorInstances) : Prop where
  applied : ∀ w ∈ s.applied, ∀ j ∈ w.readers, j ≤ w.actor
  userCode : ∀ (i j : Nat) a b, s.instances[i]? = some a →
    s.instances[j]? = some b → a.userCode.runs = true →
    b.userCode.runs = true → i = j

/-- Its `_stop` has resolved. -/
def DriverInstance.Stopped (inst : DriverInstance) : Prop :=
  ∃ body, inst.body = some body ∧ body.stopPc = some .resolved

/-- `_stop` is done with the persist queue. -/
def doneSaving (body : StoppingInstance) : Prop :=
  body.Drained ∨ body.stopPc = some .resolved

/-- The step asks for a save: a socket opens or closes, a client
subscribes, `saveState` or `#savePersistThrottled` is called, the save
timer fires. -/
def asksForSave : StopStep → Bool
  | .live (.createConn _ _ _ _ _ _ _) => true
  | .live (.removeConn _) => true
  | .live (.addSubscription _ _) => true
  | .live (.removeSubscription _ _) => true
  | .save (.saveState _) => true
  | .save .savePersistThrottled => true
  | .save .saveTimeout => true
  | _ => false

/-- `sleepActor` is called when no other call of it is under way and
`_stop` of the instance has not been called. No deadline of `_stop` passes
while what it bounds is running. When `_stop` resolves, no user code is
running that it does not wait for, and from then on none begins and no
alarm is set. And when `_stop` is done with the persist queue, the instance
is asked for no save while it has something to write. -/
def instancesSafe (s : ActorInstances) : InstanceStep → Prop
  | .sleepActor =>
      (∀ call ∈ s.sleeps, call.pc = .ended)
        ∧ ∀ e inst body, s.actors = some e → s.actorOf e = some inst →
          inst.body = some body → body.stopCalled = false
  | .deadline i =>
      ∀ inst body, s.instances[i]? = some inst → inst.body = some body →
        (body.stopPc = some .onStop → inst.userCode.onStop = false)
          ∧ (body.stopPc = some .backgroundPromises →
            inst.userCode.backgroundPromises = 0)
  | .live i .alarmQueueEnds =>
      ∀ inst, s.instances[i]? = some inst → inst.userCode.others = 0
  | .live i a =>
      asksForSave a = true →
        ∀ inst body, s.instances[i]? = some inst →
          inst.body = some body → doneSaving body →
          body.persistChanged = false
  | .userCode i => ∀ inst, s.instances[i]? = some inst → ¬ inst.Stopped
  | .queueSetAlarm i =>
      ∀ inst, s.instances[i]? = some inst → ¬ inst.Stopped
  | _ => True

end RivetKit.Drivers.FileSystem
