/-
The alarms of `FileSystemGlobalState` (drivers/file-system/global-state.ts)
for one actor id: `setActorAlarm`, `#scheduleAlarmTimeout` with the timeout
it sets, and `#loadAlarmsSync`.

# Where an alarm is

In the alarm file, in the `alarmTimestamp` of an entry, and in a timeout.
An entry that a sleep has taken from the map keeps its timeout. A restart
drops all but the file.

# Steps

A call of `setActorAlarm` renames its file (`renameAlarm`) and goes on
behind the `await` (`returnAlarm`). A timeout that fires clears the
timestamp of its entry (`fire`), then unlinks the file (`unlinkAlarm`),
then loads and starts the actor and calls `_onAlarm` (`onAlarm`) if
nothing throws on the way (`failAlarm`). The process can stop between any
two (`crash`).

# Times

`BigInt` turns a timestamp into an integer or throws, and the encoder
throws unless it is one of 64 bits without a sign. The driver goes on with
the number, which is that integer.

# Accounting

`accepted` are the times of the calls that returned and whose events
`_onAlarm` has not taken. `unlinked` is the time from a firing's unlink to
the next rename, or to an `_onAlarm` that takes all that is accepted.
Nothing reads either but the contract.
-/
import RivetKit.Lib.Double
import RivetKit.Lib.System

namespace RivetKit.Drivers.FileSystem

open Transition
open Js

-- =============================================================== the data

/-- A number that there is. -/
abbrev Double : Type := { n : Number // n.IsDouble }

/-- `ActorEntry`, as far as its alarm goes. -/
structure AlarmEntry where
  alarmTimestamp : Option Int := none
  alarmTimeout : Option Nat := none
  deriving DecidableEq

/-- A `setLongTimeout`, with the entry its listener clears. -/
structure AlarmTimeout where
  entry : Nat
  timestamp : Int
  armed : Bool := true
  deriving DecidableEq

/-- Where a call of `setActorAlarm` is. -/
inductive SetAlarmPc
  | writing (timestamp : Double)
  | renamed (timestamp : Int)
  | settled

/-- Where the listener of a timeout is. -/
inductive FirePc
  | unlinking
  | waking
  | settled
  deriving DecidableEq

/-- `FileSystemGlobalState` for the alarm of one actor id. -/
structure AlarmStore where
  running : Bool := true
  entries : List AlarmEntry := []
  actors : Option Nat := none
  timeouts : List AlarmTimeout := []
  sets : List SetAlarmPc := []
  fires : List FirePc := []
  alarmFile : Option Int := none
  accepted : List Int := []
  unlinked : Bool := false

namespace AlarmStore

-- ======================================================== the functions

/-- `#upsertEntry`. -/
def upsertEntry (s : AlarmStore) : AlarmStore × Nat :=
  match s.actors with
  | some e => (s, e)
  | none =>
      let e := s.entries.length
      ({ s with entries := s.entries ++ [{}], actors := some e }, e)

/-- `alarmTimeout?.abort()`. -/
def abort (timeouts : List AlarmTimeout) :
    Option Nat → List AlarmTimeout
  | some i => timeouts.modify i fun t => { t with armed := false }
  | none => timeouts

/-- `#scheduleAlarmTimeout`. -/
def scheduleAlarmTimeout (s : AlarmStore) (timestamp : Int) : AlarmStore :=
  let (s, e) := s.upsertEntry
  let entry := s.entries.getD e {}
  -- If there's already an earlier alarm scheduled, do not override it.
  if entry.alarmTimestamp.any (· ≤ timestamp) then s
  else
    { s with
      entries := s.entries.set e
        { alarmTimestamp := some timestamp
          alarmTimeout := some s.timeouts.length }
      timeouts := abort s.timeouts entry.alarmTimeout
        ++ [{ entry := e, timestamp }] }

/-- `setActorAlarm` up to the rename. The `invariant` throws without an
entry. -/
def setActorAlarm (s : AlarmStore) (timestamp : Double) :
    Option AlarmStore :=
  if s.actors.isSome then
    some { s with sets := s.sets ++ [.writing timestamp] }
  else none

/-- The `u64` of the alarm file, unless `BigInt` or the encoder throws. -/
def encodeTimestamp (timestamp : Double) : Option Int :=
  timestamp.1.toBigInt.filter fun t => 0 ≤ t ∧ t < 2 ^ 64

/-- The file is written and renamed, unless the timestamp cannot be encoded
or the file system throws. -/
def renameAlarm (s : AlarmStore) (c : Nat) (ok : Bool) :
    Option AlarmStore :=
  match s.sets[c]? with
  | some (.writing timestamp) =>
      match encodeTimestamp timestamp, ok with
      | some t, true =>
          some { s with
            sets := s.sets.set c (.renamed t)
            alarmFile := some t
            unlinked := false }
      | _, _ => some { s with sets := s.sets.set c .settled }
  | _ => none

/-- The rest of `setActorAlarm`. -/
def returnAlarm (s : AlarmStore) (c : Nat) : Option AlarmStore :=
  match s.sets[c]? with
  | some (.renamed t) =>
      let s := s.scheduleAlarmTimeout t
      some { s with
        sets := s.sets.set c .settled
        accepted := s.accepted ++ [t] }
  | _ => none

/-- A timeout fires, up to `fs.unlink`. -/
def fire (s : AlarmStore) (i : Nat) : Option AlarmStore :=
  match s.timeouts[i]? with
  | some timeout =>
      if timeout.armed then
        some { s with
          entries := s.entries.modify timeout.entry fun entry =>
            { entry with alarmTimestamp := none }
          timeouts := s.timeouts.set i { timeout with armed := false }
          fires := s.fires ++ [.unlinking] }
      else none
  | none => none

/-- `fs.unlink` of the alarm file. An error is logged. -/
def unlinkAlarm (s : AlarmStore) (f : Nat) (ok : Bool) :
    Option AlarmStore :=
  match s.fires[f]? with
  | some .unlinking =>
      if ok then
        some { s with
          fires := s.fires.set f .waking
          alarmFile := none
          unlinked := true }
      else some { s with fires := s.fires.set f .waking }
  | _ => none

/-- The actor is loaded and started, and `_onAlarm` takes the events of
the alarms `taken`. Waking it makes an entry. -/
def onAlarm (s : AlarmStore) (f : Nat) (taken : List Int) :
    Option AlarmStore :=
  match s.fires[f]? with
  | some .waking =>
      let s := s.upsertEntry.1
      some { s with
        fires := s.fires.set f .settled
        accepted := s.accepted.filter (· ∉ taken)
        unlinked := s.unlinked && s.accepted.any (· ∉ taken) }
  | _ => none

/-- The actor cannot be loaded or started. The error is logged. -/
def failAlarm (s : AlarmStore) (f : Nat) : Option AlarmStore :=
  match s.fires[f]? with
  | some .waking =>
      let s := s.upsertEntry.1
      some { s with fires := s.fires.set f .settled }
  | _ => none

/-- The process stops. The file stays. -/
def crash (s : AlarmStore) : AlarmStore :=
  { running := false
    alarmFile := s.alarmFile
    accepted := s.accepted
    unlinked := s.unlinked }

/-- `#loadAlarmsSync` of a new process. A file that cannot be read is
skipped. -/
def loadAlarmsSync (s : AlarmStore) (ok : Bool) : AlarmStore :=
  let s : AlarmStore := { s with running := true }
  match s.alarmFile, ok with
  | some data, true =>
      match (Number.ofBigInt data).toBigInt with
      | some timestamp => s.scheduleAlarmTimeout timestamp
      | none => s
  | _, _ => s

end AlarmStore

-- ============================================================ the machine

/-- The steps. `lookup` is anything that makes an entry, a wake among
them. -/
inductive AlarmStep
  | lookup
  | setActorAlarm (timestamp : Double)
  | renameAlarm (c : Nat) (ok : Bool)
  | returnAlarm (c : Nat)
  | fire (i : Nat)
  | unlinkAlarm (f : Nat) (ok : Bool)
  | onAlarm (f : Nat) (taken : List Int)
  | failAlarm (f : Nat)
  | endSleep
  | crash
  | restart (ok : Bool)

/-- A step of a running process. -/
def runningStep (s : AlarmStore) : AlarmStep → Option AlarmStore
  | .lookup => some s.upsertEntry.1
  | .setActorAlarm timestamp => s.setActorAlarm timestamp
  | .renameAlarm c ok => s.renameAlarm c ok
  | .returnAlarm c => s.returnAlarm c
  | .fire i => s.fire i
  | .unlinkAlarm f ok => s.unlinkAlarm f ok
  | .onAlarm f taken => s.onAlarm f taken
  | .failAlarm f => s.failAlarm f
  | .endSleep => some { s with actors := none }
  | .crash => some s.crash
  | .restart _ => none

/-- One step. A process that stopped can only be restarted. -/
def alarmStep (s : AlarmStore) (a : AlarmStep) : Option AlarmStore :=
  if s.running then runningStep s a
  else match a with
    | .restart ok => some (s.loadAlarmsSync ok)
    | _ => none

/-- The runs that begin without an alarm. -/
def alarmSystem : System AlarmStore AlarmStep where
  init s := s = {}
  step := alarmStep

-- ============================================================ the contract

/-- The alarm directory has a file for the actor that is due by `t`. -/
def AlarmStore.FileBy (s : AlarmStore) (t : Int) : Prop :=
  ∃ data, s.alarmFile = some data ∧ data ≤ t

/-- A restart fires what is armed in memory, and what was accepted and not
taken when the process stopped. -/
def AlarmStore.Durable (s : AlarmStore) : Prop :=
  (∀ timeout ∈ s.timeouts, timeout.armed = true →
      s.FileBy timeout.timestamp)
    ∧ (s.running = false → ∀ t ∈ s.accepted, s.FileBy t)

/-- A call of `setActorAlarm` for `t` has renamed its file and has not
gone on. -/
def AlarmStore.Renamed (s : AlarmStore) (t : Int) : Prop :=
  SetAlarmPc.renamed t ∈ s.sets

/-- A rename is of a time that is not later than that of an armed timeout,
of a call that has renamed, or of an accepted alarm. A firing does not unlink
while a timeout is armed or a call has renamed. The process does not stop
from a firing's unlink to the next rename, or to an `_onAlarm` that takes all
that is accepted. -/
def alarmOk (s : AlarmStore) : AlarmStep → Prop
  | .renameAlarm c true =>
      ∀ timestamp t, s.sets[c]? = some (.writing timestamp) →
        AlarmStore.encodeTimestamp timestamp = some t →
        (∀ timeout ∈ s.timeouts, timeout.armed = true →
            t ≤ timeout.timestamp)
          ∧ (∀ t', s.Renamed t' → t ≤ t')
          ∧ ∀ t' ∈ s.accepted, t ≤ t'
  | .unlinkAlarm _ true =>
      (∀ timeout ∈ s.timeouts, timeout.armed = false)
        ∧ ∀ t, ¬ s.Renamed t
  | .crash => s.unlinked = false
  | _ => True

end RivetKit.Drivers.FileSystem
