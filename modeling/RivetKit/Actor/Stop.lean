/-
`_stop` of `ActorInstance` (actor/instance.ts) over the instance with its
connections: the `onStop` hook, the disconnects, the background promises,
the last `saveState`, and the two queues.

# Awaits

`_stop` is one call with an await for each of its parts, and anything else
the instance does comes in between: `__removeConn` when a socket has
closed, and the changes that `onStop`, `onDisconnect` and whatever else
still runs make to the user state. The deadlines are not told apart from
the ends of what they bound. A hook that throws, returns or times out ends
its await alike.

# Late changes

A change of the user state is late when `_stop` has called its last
`saveState` and not resolved. `lateChange` says of the last one that no
write has begun since.

# Resolutions

`resolutions` has, for each call of `_stop` that resolved, the user state
in the last bytes written and the one in memory at that moment. No branch
reads either.
-/
import RivetKit.Actor.Connections

namespace RivetKit.Actor

open Transition
open Utils
open Js

-- =============================================================== the data

/-- Where the first call of `_stop` is. `persistQueue` says whether the
drain loop it awaits has ended. -/
inductive StopPc
  | onStop
  | backgroundPromises
  | saveState (call : Nat)
  | closing
  | persistQueue (ended : Bool)
  | alarmQueue
  | resolved
  | rejected
  deriving DecidableEq

/-- `_stop` has called its last `saveState`, and has not resolved. -/
def StopPc.behindSave : StopPc → Bool
  | .saveState _ => true
  | .closing => true
  | .persistQueue _ => true
  | .alarmQueue => true
  | _ => false

/-- The user state in the last bytes written, and in memory. -/
structure Resolution where
  stored : Value
  memory : Value

/-- An instance, its `_stop` and what the calls of it resolved with. -/
structure StoppingInstance extends LiveInstance where
  stopPc : Option StopPc := none
  lateChange : Bool := false
  resolutions : List Resolution := []

namespace StoppingInstance

variable (opts : ActorOptions)

-- ======================================================== the functions

/-- A call of `_stop` resolves. -/
def resolve (s : StoppingInstance) : StoppingInstance :=
  { s with
    resolutions := s.resolutions
      ++ [⟨s.stored.persist.state, s.persistRaw.state⟩] }

/-- `_stop` up to the await of `onStop`. A second call returns at once. -/
def stop (s : StoppingInstance) : StoppingInstance :=
  if s.stopCalled then s.resolve
  else { s with stopCalled := true, stopPc := some .onStop }

/-- After `onStop`: the connections are told to disconnect. -/
def onStopEnds (s : StoppingInstance) : Option StoppingInstance :=
  match s.stopPc with
  | some .onStop => some { s with stopPc := some .backgroundPromises }
  | _ => none

/-- After `#waitBackgroundPromises`: clear the timers, call `saveState`.
Where its `#assertReady` throws, `_stop` does. -/
def backgroundEnds (s : StoppingInstance) : Option StoppingInstance :=
  match s.stopPc with
  | some .backgroundPromises =>
      some { s with
        toLiveInstance := s.toLiveInstance.stop opts
        stopPc := some
          (if s.assertReady true then .saveState s.calls.length
          else .rejected) }
  | _ => none

/-- After `await this.saveState(...)`. -/
def saveStateEnds (s : StoppingInstance) : Option StoppingInstance :=
  match s.stopPc with
  | some (.saveState call) =>
      match s.calls[call]? with
      | some ⟨_, .resolved⟩ => some { s with stopPc := some .closing }
      | _ => none
  | _ => none

/-- The connections have closed, or 1.5 seconds have passed. Looks at the
persist queue. -/
def closed (s : StoppingInstance) : Option StoppingInstance :=
  match s.stopPc with
  | some .closing =>
      some { s with
        stopPc := some
          (if s.persistWriteQueue.runningDrainLoop.isSome then
            .persistQueue false
          else .alarmQueue) }
  | _ => none

/-- After the drain loop of the persist queue. -/
def persistQueueEnds (s : StoppingInstance) : Option StoppingInstance :=
  match s.stopPc with
  | some (.persistQueue true) => some { s with stopPc := some .alarmQueue }
  | _ => none

/-- After that of the alarm queue, if there is one. -/
def alarmQueueEnds (s : StoppingInstance) : Option StoppingInstance :=
  match s.stopPc with
  | some .alarmQueue => some { s.resolve with stopPc := some .resolved }
  | _ => none

/-- The instance goes on as `t`, by a change of its user state or not. A
write that begins has all changes. -/
def goesOn (s : StoppingInstance) (changes : Bool) (t : LiveInstance) :
    StoppingInstance :=
  let late := s.lateChange || changes && s.stopPc.any StopPc.behindSave
  { s with
    toLiveInstance := t
    lateChange := late && (s.writing || !t.writing) }

/-- The promise of the drain loop that `_stop` awaits resolves when the
loop ends. -/
def afterSave (s : StoppingInstance) :
    SaveStep PersistedActor → StoppingInstance
  | .drainLoop =>
      if s.stopPc = some (.persistQueue false)
          ∧ s.persistWriteQueue.runningDrainLoop.isNone then
        { s with stopPc := some (.persistQueue true) }
      else s
  | _ => s

/-- Operations of the instance. Its save path has steps of its own. -/
def operates : LiveStep → Bool
  | .stop => false
  | .save _ => false
  | _ => true

/-- Changes of the user state. -/
def changesState : LiveStep → Bool
  | .stateChange _ _ _ => true
  | _ => false

/-- Steps of the save path that stand by themselves. A write succeeds only
if its record can be encoded. -/
def admits (codec : Codec) (s : StoppingInstance) :
    SaveStep PersistedActor → Bool
  | .onChange _ _ _ => false
  | .clearSaveTimeout => false
  | .stopCalled => false
  | .driverWrite true =>
      s.write.all fun w => encodes codec w.snapshot.persist
  | _ => true

end StoppingInstance

-- ============================================================ the machine

/-- The steps. -/
inductive StopStep
  | stop
  | onStopEnds
  | backgroundEnds
  | saveStateEnds
  | closed
  | persistQueueEnds
  | alarmQueueEnds
  | live (a : LiveStep)
  | save (a : SaveStep PersistedActor)

/-- One step. -/
def stopStep (codec : Codec) (opts : ActorOptions) (s : StoppingInstance) :
    StopStep → Option StoppingInstance
  | .stop => some s.stop
  | .onStopEnds => s.onStopEnds
  | .backgroundEnds => s.backgroundEnds opts
  | .saveStateEnds => s.saveStateEnds
  | .closed => s.closed
  | .persistQueueEnds => s.persistQueueEnds
  | .alarmQueueEnds => s.alarmQueueEnds
  | .live a =>
      if StoppingInstance.operates a then
        (liveStep codec opts s.toLiveInstance a).map
          (s.goesOn (StoppingInstance.changesState a))
      else none
  | .save a =>
      if s.admits codec a then
        (saveStep opts s.toActorInstance a).map fun t =>
          (s.goesOn false
            { s.toLiveInstance with toActorInstance := t }).afterSave a
      else none

/-- The runs of an instance, from the end of `#initialize`. -/
def stopSystem (codec : Codec) (opts : ActorOptions) :
    System StoppingInstance StopStep where
  init s := ∃ r, s = { toLiveInstance := .initialized opts r }
  step := stopStep codec opts

-- ============================================================ the contract

namespace StoppingInstance

/-- Each call of `_stop` that resolved left the user state in memory in
the last bytes written. -/
def FinalState (s : StoppingInstance) : Prop :=
  ∀ r ∈ s.resolutions, r.stored = r.memory

/-- `_stop` is done with the persist queue, and has not resolved. -/
def Drained (s : StoppingInstance) : Prop :=
  s.stopPc = some (.persistQueue true) ∨ s.stopPc = some .alarmQueue

/-- `_stop` is called once. A change of the user state is to a value that
can be serialized, and does not come when `_stop` is done with the persist
queue. A write that fails leaves the dirty flag set, or a write queued, or
nothing unsaved. And when `_stop` is done with the persist queue, a write
has begun behind every late change. -/
def StopSafe (s : StoppingInstance) : StopStep → Prop
  | .stop => s.stopCalled = false
  | .live (.stateChange _ valid f) =>
      f s.persistRaw.state = s.persistRaw.state
        ∨ (valid = true ∧ ¬ s.Drained)
  | .save (.driverWrite false) =>
      s.persistChanged = true
        ∨ s.persistWriteQueue.queuedOp.isSome = true
        ∨ s.stored.persist.state = s.persistRaw.state
  | .save .drainLoop =>
      s.stopPc = some (.persistQueue false) →
        s.persistWriteQueue.queuedOp.isSome = false →
        s.lateChange = false
  | .closed =>
      s.persistWriteQueue.runningDrainLoop.isSome = false →
        s.lateChange = false
  | _ => True

end StoppingInstance

end RivetKit.Actor
