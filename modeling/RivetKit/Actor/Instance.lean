/-
The save path of `ActorInstance` (actor/instance.ts): the on-change
proxy's callback, `saveState`, `#savePersistThrottled`,
`#savePersistInner`, and the write the persist queue runs.

# What is state and what is a step

The state holds the fields the save path reads or writes, the async
frames that are suspended in it, and what the driver has stored. The
record is a parameter `R`: the save path copies it and never looks
inside. A step is one piece of JavaScript that runs without an
`await`:

- a mutation through the proxy (`onChange`), a call of `saveState` or
  `#savePersistThrottled` up to its first `await`, the firing of the
  save timer;
- the settling of the driver write in flight (`driverWrite`) and the
  continuations it releases one by one: the drain loop's, that of each
  `#savePersistInner` awaiting the cycle (`resumeInner`), that of each
  `saveState` awaiting one of the two promises (`resumeSaveState`);
- the clock and the lifecycle flags.

Any enabled step may come next, so a run is an interleaving at every
`await`.

# Counting changes

`changes` counts the mutations the callback accepted. A `Snapshot`
carries the count at the moment the record was converted: a write
contains the first `snapshot.changes` changes and no later one. Each
`saveState` call remembers the count at its start. Both are
bookkeeping; no branch reads them.
-/
import RivetKit.Lib.Js
import RivetKit.Lib.System
import RivetKit.Utils.SinglePromiseQueue

namespace RivetKit.Actor

open Transition
open Utils
open Js

universe u

-- =============================================================== the data

/-- `SaveStateOptions`. -/
structure SaveStateOptions where
  immediate : Bool := false
  allowStoppingState : Bool := false
  deriving DecidableEq

/-- `#pendingSaveTimeout`: the handle of the throttle timer. The handle
stays in the field after `clearTimeout`. -/
structure SaveTimeout where
  due : Int
  cleared : Bool := false
  deriving DecidableEq

/-- The record as a write carries it, with the number of tracked changes
it contains. -/
structure Snapshot (R : Type u) where
  persist : R
  changes : Nat

/-- The `driver.writePersistedData` call of the operation the drain loop
awaits: still in flight, or settled with the loop not yet resumed. -/
inductive WritePhase
  | inFlight
  | settled (ok : Bool)
  deriving DecidableEq

/-- The write of the running operation. -/
structure DriverWrite (R : Type u) where
  snapshot : Snapshot R
  phase : WritePhase

/-- A `#savePersistInner` suspended at `await finished`: the promise of
its cycle and the `saveState` call awaiting it, if any. -/
structure InnerFrame where
  resolver : Nat
  call : Option Nat
  deriving DecidableEq

/-- Where a `saveState` call is: awaiting its `#savePersistInner`,
awaiting `#onPersistSavedPromise`, about to return, or settled. -/
inductive CallPhase
  | awaitInner
  | awaitSaved
  | returning
  | resolved
  | rejected
  deriving DecidableEq

/-- A `saveState` call and the tracked changes made before it. -/
structure SaveCall where
  changes : Nat
  phase : CallPhase
  deriving DecidableEq

/-- `ActorInstance`, restricted to its save path. -/
structure ActorInstance (R : Type u) where
  persistRaw : R
  persistChanged : Bool := false
  lastSaveTime : Int := 0
  pendingSaveTimeout : Option SaveTimeout := none
  onPersistSavedPromise : Option PromiseState := none
  persistWriteQueue : SinglePromiseQueue Unit := {}
  ready : Bool := false
  sleepCalled : Bool := false
  stopCalled : Bool := false
  /-- `Date.now()` -/
  now : Int := 0
  /-- the write of the running operation -/
  write : Option (DriverWrite R) := none
  /-- what the last successful write stored -/
  stored : Snapshot R
  /-- the last write to settle was rejected -/
  lastWriteFailed : Bool := false
  inners : List InnerFrame := []
  calls : List SaveCall := []
  changes : Nat := 0

/-- The options the save path reads. -/
structure ActorOptions where
  stateSaveInterval : Int

namespace ActorInstance

variable {R : Type u}

-- ======================================================== the save path

/-- `#assertReady`. -/
def assertReady (s : ActorInstance R) (allowStoppingState : Bool) : Bool :=
  s.ready && (allowStoppingState || !s.sleepCalled)
    && (allowStoppingState || !s.stopCalled)

/-- The callback of the on-change proxy, after the mutation `f` it
reports. `path` is the list of property keys of the reported path: the
test `path === "state" || path.startsWith("state.")` reads its head.
`valid` is the outcome of `isCborSerializable`; when it is false the
callback throws, with the mutation applied. -/
def onChange (s : ActorInstance R) (path : List String) (valid : Bool)
    (f : R → R) : ActorInstance R :=
  let s := { s with persistRaw := f s.persistRaw }
  if path.head? = some "state" ∧ valid = true then
    { s with persistChanged := true, changes := s.changes + 1 }
  else s

/-- The synchronous part of the operation enqueued by
`#savePersistInner`: clear the flag, convert the record, call the
driver. -/
def startWrite (s : ActorInstance R) : ActorInstance R :=
  { s with persistChanged := false,
           write := some ⟨⟨s.persistRaw, s.changes⟩, .inFlight⟩ }

/-- `this.#onPersistSavedPromise?.resolve()`. The field keeps the
resolved promise. -/
def resolveSaved (s : ActorInstance R) : ActorInstance R :=
  { s with onPersistSavedPromise :=
             s.onPersistSavedPromise.map fun _ => .resolved }

/-- Enqueue the write and suspend the frame at `await finished`. -/
def joinCycle (s : ActorInstance R) (call : Option Nat) :
    ActorInstance R :=
  let (q, r) := s.persistWriteQueue.enqueue ()
  { s with persistWriteQueue := q, inners := s.inners ++ [⟨r, call⟩] }

/-- `#savePersistInner` up to its `await`, called by `call`. The queue
never rejects, so the `catch` of the source is unreachable. -/
def savePersistInner (s : ActorInstance R) (call : Option Nat) :
    ActorInstance R :=
  let s := { s with lastSaveTime := s.now }
  if s.persistChanged then
    -- an idle queue runs the operation inside `enqueue`
    if s.persistWriteQueue.runningDrainLoop.isNone then
      (s.joinCycle call).startWrite
    else s.joinCycle call
  else s.resolveSaved

/-- `#savePersistThrottled`. -/
def savePersistThrottled (opts : ActorOptions) (s : ActorInstance R) :
    ActorInstance R :=
  let timeSinceLastSave := s.now - s.lastSaveTime
  if timeSinceLastSave < opts.stateSaveInterval then
    if s.pendingSaveTimeout.isNone then
      let due := s.now + (opts.stateSaveInterval - timeSinceLastSave)
      { s with pendingSaveTimeout := some ⟨due, false⟩ }
    else s
  else s.savePersistInner none

/-- Record a new `saveState` call. -/
def pushCall (s : ActorInstance R) (phase : CallPhase) : ActorInstance R :=
  { s with calls := s.calls ++ [⟨s.changes, phase⟩] }

/-- `saveState` up to its first `await`. -/
def saveState (opts : ActorOptions) (s : ActorInstance R)
    (o : SaveStateOptions) : ActorInstance R :=
  if s.assertReady o.allowStoppingState then
    if s.persistChanged then
      if o.immediate then
        (s.pushCall .awaitInner).savePersistInner (some s.calls.length)
      else
        let promise := s.onPersistSavedPromise.getD .pending
        savePersistThrottled opts
          ({ s with onPersistSavedPromise := some promise }.pushCall .awaitSaved)
    else s.pushCall .resolved
  else s.pushCall .rejected

/-- The save timer fires. -/
def saveTimeout (s : ActorInstance R) : Option (ActorInstance R) :=
  match s.pendingSaveTimeout with
  | some ⟨_, false⟩ =>
      some ({ s with pendingSaveTimeout := none }.savePersistInner none)
  | _ => none

/-- The driver write in flight settles. -/
def driverWrite (s : ActorInstance R) (ok : Bool) :
    Option (ActorInstance R) :=
  match s.write with
  | some ⟨snapshot, .inFlight⟩ =>
      some { s with write := some ⟨snapshot, .settled ok⟩,
                    stored := if ok then snapshot else s.stored,
                    lastWriteFailed := !ok }
  | _ => none

/-- The drain loop resumes after its operation settled, and starts the
queued one. -/
def drainLoop (s : ActorInstance R) : Option (ActorInstance R) :=
  match s.write with
  | some ⟨_, .settled _⟩ =>
      let s' := { s with persistWriteQueue := s.persistWriteQueue.settle,
                         write := none }
      some (if s.persistWriteQueue.queuedOp.isSome then s'.startWrite else s')
  | _ => none

/-- A write is in flight. -/
def writing (s : ActorInstance R) : Bool :=
  match s.write with
  | some ⟨_, .inFlight⟩ => true
  | _ => false

/-- Move a call to another phase. -/
def setPhase (s : ActorInstance R) (c : Nat) (phase : CallPhase) :
    ActorInstance R :=
  { s with calls := s.calls.modify c fun call => { call with phase := phase } }

/-- A suspended `#savePersistInner` resumes after its cycle: it resolves
`#onPersistSavedPromise` and returns to its caller. -/
def resumeInner (s : ActorInstance R) (i : Nat) : Option (ActorInstance R) :=
  match s.inners[i]? with
  | some ⟨r, call⟩ =>
      if r ∈ s.persistWriteQueue.resolved then
        let s' := { s.resolveSaved with inners := s.inners.eraseIdx i }
        some (match call with
          | some c => s'.setPhase c .returning
          | none => s')
      else none
  | none => none

/-- A suspended `saveState` resumes and returns. -/
def resumeSaveState (s : ActorInstance R) (c : Nat) :
    Option (ActorInstance R) :=
  match s.calls[c]? with
  | some ⟨_, .returning⟩ => some (s.setPhase c .resolved)
  | some ⟨_, .awaitSaved⟩ =>
      if s.onPersistSavedPromise = some .resolved then
        some (s.setPhase c .resolved)
      else none
  | _ => none

/-- `clearTimeout(this.#pendingSaveTimeout)` of `_stop`. -/
def clearSaveTimeout (s : ActorInstance R) : ActorInstance R :=
  { s with pendingSaveTimeout :=
             s.pendingSaveTimeout.map fun t => { t with cleared := true } }

/-- The instance as `#initialize` leaves it: the record `r` was read
from the driver or has just been written to it. -/
def initialized (r : R) : ActorInstance R :=
  { persistRaw := r, stored := ⟨r, 0⟩ }

end ActorInstance

-- ============================================================ the machine

/-- The steps of the save path. -/
inductive SaveStep (R : Type u)
  | onChange (path : List String) (valid : Bool) (f : R → R)
  | saveState (o : SaveStateOptions)
  | savePersistThrottled
  | saveTimeout
  | driverWrite (ok : Bool)
  | drainLoop
  | resumeInner (i : Nat)
  | resumeSaveState (c : Nat)
  | dateNow (t : Int)
  | ready
  | sleepCalled
  | stopCalled
  | clearSaveTimeout

/-- One step of the save path. -/
def saveStep {R : Type u} (opts : ActorOptions) (s : ActorInstance R) :
    SaveStep R → Option (ActorInstance R)
  | .onChange path valid f => some (s.onChange path valid f)
  | .saveState o => some (s.saveState opts o)
  | .savePersistThrottled => some (s.savePersistThrottled opts)
  | .saveTimeout => s.saveTimeout
  | .driverWrite ok => s.driverWrite ok
  | .drainLoop => s.drainLoop
  | .resumeInner i => s.resumeInner i
  | .resumeSaveState c => s.resumeSaveState c
  | .dateNow t => some { s with now := t }
  | .ready => some { s with ready := true }
  | .sleepCalled => some { s with sleepCalled := true }
  | .stopCalled => some { s with stopCalled := true }
  | .clearSaveTimeout => some s.clearSaveTimeout

/-- The runs of one `ActorInstance`, from the end of `#initialize`. -/
def saveSystem (R : Type u) (opts : ActorOptions) :
    System (ActorInstance R) (SaveStep R) where
  init s := ∃ r, s = .initialized r
  step := saveStep opts

end RivetKit.Actor
