/-
The schedule of an `ActorInstance` (actor/instance.ts): `scheduleEvent`,
`_onAlarm`, `#queueSetAlarm` with its write queue, and the alarm that
`start` sets.

# Steps

`scheduleEvent` changes the list and enqueues the alarm in one stretch,
and does nothing after its `await`. A call of `_onAlarm` takes its events
and enqueues the next alarm in one stretch, and goes on with the taken
events behind the `await`. An operation of the alarm queue calls
`driver.setAlarm` when the queue takes it up, and the queue goes on when
that call settles (`setAlarmSettled`). The clock is the environment's
choice at each step that reads it. Timestamps are finite.

# Bookkeeping

`accepted` are the events of the restored list and those scheduled since,
`taken` those that `_onAlarm` took, with the clock, `executed` those whose
action was called, and `handed` the timestamps that the driver was called
with, each in its order. No branch reads them.
-/
import RivetKit.Lib.System
import RivetKit.Actor.Connections

namespace RivetKit.Actor

open Transition
open Utils
open Js
open LiveInstance (insertEvent remainingEvents)

-- =============================================================== the data

/-- Where a call of `_onAlarm` is: awaiting the cycle of the alarm queue
that it joined, or in its loop. It has returned once no events are
left. -/
inductive OnAlarmPc
  | queueSetAlarm (resolver : Nat) (events : List PersistedScheduleEvent)
  | running (events : List PersistedScheduleEvent)

/-- The events a call of `_onAlarm` has taken and not run. -/
def OnAlarmPc.events : OnAlarmPc → List PersistedScheduleEvent
  | .queueSetAlarm _ events => events
  | .running events => events

/-- `ActorInstance`, restricted to its schedule. -/
structure ScheduledActor where
  scheduledEvents : List PersistedScheduleEvent
  alarmWriteQueue : SinglePromiseQueue Number := {}
  /-- `start` is past its alarm -/
  started : Bool := false
  alarms : List OnAlarmPc := []
  accepted : List PersistedScheduleEvent
  taken : List (PersistedScheduleEvent × Int) := []
  executed : List PersistedScheduleEvent := []
  handed : List Number := []

/-- The events `_onAlarm` takes at the time `now`. -/
def dueEvents (events : List PersistedScheduleEvent) (now : Int) :
    List PersistedScheduleEvent :=
  match events.findIdx? fun x => x.timestamp.le (.ofInt now) with
  | none => []
  | some runIndex => events.take (runIndex + 1)

namespace ScheduledActor

/-- The events taken so far. -/
def takenEvents (s : ScheduledActor) : List PersistedScheduleEvent :=
  s.taken.map (·.1)

-- ======================================================== the functions

/-- `#queueSetAlarm`. An idle queue calls the driver at once. Returns the
cycle that the caller awaits. -/
def queueSetAlarm (s : ScheduledActor) (timestamp : Number) :
    ScheduledActor × Nat :=
  let (q, r) := s.alarmWriteQueue.enqueue timestamp
  let handed :=
    if s.alarmWriteQueue.runningDrainLoop.isNone then s.handed ++ [timestamp]
    else s.handed
  ({ s with alarmWriteQueue := q, handed := handed }, r)

/-- `driver.setAlarm` settles. The queue takes up the operation that was
enqueued last, if one was. -/
def setAlarmSettled (s : ScheduledActor) : Option ScheduledActor :=
  match s.alarmWriteQueue.runningDrainLoop with
  | none => none
  | some _ =>
      some { s with
        alarmWriteQueue := s.alarmWriteQueue.settle
        handed := s.handed ++ s.alarmWriteQueue.queuedOp.toList }

/-- The alarm that `start` sets. -/
def initialAlarm (s : ScheduledActor) : ScheduledActor :=
  let s := match s.scheduledEvents with
    | [] => s
    | e :: _ => (s.queueSetAlarm e.timestamp).1
  { s with started := true }

/-- `#scheduleEventInner`. -/
def scheduleEvent (s : ScheduledActor) (newEvent : PersistedScheduleEvent) :
    ScheduledActor :=
  let insertIndex :=
    s.scheduledEvents.findIdx? fun x => newEvent.timestamp.lt x.timestamp
  let s := { s with
    scheduledEvents := insertEvent s.scheduledEvents newEvent
    accepted := s.accepted ++ [newEvent] }
  -- the newest event, or the only one
  if insertIndex = some 0 ∨ s.scheduledEvents.length = 1 then
    (s.queueSetAlarm newEvent.timestamp).1
  else s

/-- `_onAlarm` up to its first `await`, at the time `now`. -/
def onAlarm (s : ScheduledActor) (now : Int) : ScheduledActor :=
  let scheduleEvents := dueEvents s.scheduledEvents now
  let s := { s with
    scheduledEvents := remainingEvents s.scheduledEvents now
    taken := s.taken ++ scheduleEvents.map (·, now) }
  -- with and without due events, the alarm of the next one is set
  match s.scheduledEvents with
  | [] => { s with alarms := s.alarms ++ [.running scheduleEvents] }
  | e :: _ =>
      let (s, r) := s.queueSetAlarm e.timestamp
      { s with alarms := s.alarms ++ [.queueSetAlarm r scheduleEvents] }

/-- A call of `_onAlarm` goes on: its alarm is set, or the action of its
last event ended. It calls the action of its next event. -/
def resumeAlarm (s : ScheduledActor) (k : Nat) : Option ScheduledActor :=
  match s.alarms[k]? with
  | some (.queueSetAlarm r events) =>
      if r ∈ s.alarmWriteQueue.resolved then
        some { s with alarms := s.alarms.set k (.running events) }
      else none
  | some (.running (event :: events)) =>
      some { s with
        alarms := s.alarms.set k (.running events)
        executed := s.executed ++ [event] }
  | _ => none

end ScheduledActor

-- ============================================================ the machine

/-- The steps of the schedule. -/
inductive ScheduleStep
  | initialAlarm
  | scheduleEvent (event : PersistedScheduleEvent)
  | onAlarm (now : Int)
  | resumeAlarm (k : Nat)
  | setAlarmSettled

/-- A finite number. -/
def Finite (n : Number) : Prop := ∃ q, n = .finite q

instance : (n : Number) → Decidable (Finite n)
  | .finite q => .isTrue ⟨q, rfl⟩
  | .infinity _ => .isFalse (by rintro ⟨q, h⟩; cases h)
  | .nan => .isFalse (by rintro ⟨q, h⟩; cases h)

/-- Timestamps that do not decrease. -/
def Sorted (events : List PersistedScheduleEvent) : Prop :=
  events.Pairwise fun x y => x.timestamp.le y.timestamp = true

/-- One step. -/
def scheduleStep (s : ScheduledActor) : ScheduleStep → Option ScheduledActor
  | .initialAlarm => if s.started then none else some s.initialAlarm
  | .scheduleEvent event =>
      if Finite event.timestamp then some (s.scheduleEvent event) else none
  | .onAlarm now => some (s.onAlarm now)
  | .resumeAlarm k => s.resumeAlarm k
  | .setAlarmSettled => s.setAlarmSettled

/-- The runs of the schedule of an instance, from a list restored sorted. -/
def scheduleSystem : System ScheduledActor ScheduleStep where
  init s := ∃ events, Sorted events ∧ (∀ e ∈ events, Finite e.timestamp)
    ∧ s = { scheduledEvents := events, accepted := events }
  step := scheduleStep

/-- The same from any restored list. -/
def alarmSystem : System ScheduledActor ScheduleStep where
  init s := ∃ events, s = { scheduledEvents := events, accepted := events }
  step := scheduleStep

end RivetKit.Actor
