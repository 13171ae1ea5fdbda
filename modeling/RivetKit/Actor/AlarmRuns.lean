/-
The calls of `_onAlarm` (actor/instance.ts) to their end, with what the
actions of the events do.

# The loop

A call takes its events at once. Where events are left it waits for the
alarm of the next one (`alarmSet`); then it calls one action after the
other and waits for each (`actionEnds`). Between two of its steps anything
may happen to the list, other calls of `_onAlarm` among it. What an action
throws is caught by the inner `catch`, what `stringifyError` throws there
by the outer one, and what it throws there rejects the call.

# History

`ran` has the calls of actions that a call of `_onAlarm` has made.
-/
import RivetKit.Actor.ActionReplies
import RivetKit.Actor.Schedule

namespace RivetKit.Actor

open Transition
open Js
open LiveInstance (insertEvent remainingEvents)

-- =============================================================== the data

/-- The actions of the definition, and `cbor.decode` with the spread of
what it gives. -/
structure AlarmConfig (V : Type) where
  isAction : String → Bool
  decodeArgs : Bytes → Except (Raised V) (List V)

/-- Where a call of `_onAlarm` is. -/
inductive OnAlarmPlace
  | settingAlarm
  | calling
  | done
  | rejected
  deriving DecidableEq

/-- A call of `_onAlarm`: the events it has not come to, and the actions it
has called. -/
structure OnAlarmCall (V : Type) where
  pc : OnAlarmPlace
  left : List PersistedScheduleEvent
  ran : List (String × List V) := []

/-- The list, and the calls of `_onAlarm` in their order. -/
structure AlarmSchedule (V : Type) where
  scheduledEvents : List PersistedScheduleEvent
  runs : List (OnAlarmCall V) := []

variable {V : Type}

-- =============================================================== the loop

/-- `event.kind.generic.args`, decoded. -/
def eventArgs (cfg : AlarmConfig V) (event : PersistedScheduleEvent) :
    Except (Raised V) (List V) :=
  match event.kind with
  | .generic _ (some args) => cfg.decodeArgs args
  | .generic _ none => .ok []

/-- `event.kind.generic.actionName`. -/
def eventAction (event : PersistedScheduleEvent) : String :=
  match event.kind with
  | .generic actionName _ => actionName

/-- The call that an event asks for, if there is such an action and the
arguments can be read. -/
def eventCall (cfg : AlarmConfig V) (event : PersistedScheduleEvent) :
    Option (String × List V) :=
  if cfg.isAction (eventAction event) then
    match eventArgs cfg event with
    | .ok args => some (eventAction event, args)
    | .error _ => none
  else none

/-- The two `catch`es of the loop, of an error that is thrown in the inner
`try`. -/
def caught (error : Raised V) : Bool :=
  match error.stringifyError with
  | .ok _ => true
  | .error error =>
      match error.stringifyError with
      | .ok _ => true
      | .error _ => false

/-- The loop from an event to the next `await`. -/
def runEvents (cfg : AlarmConfig V) (run : OnAlarmCall V) :
    List PersistedScheduleEvent → OnAlarmCall V
  | [] => { run with pc := .done, left := [] }
  | event :: events =>
      if cfg.isAction (eventAction event) then
        match eventArgs cfg event with
        | .ok args =>
            { pc := .calling
              left := events
              ran := run.ran ++ [(eventAction event, args)] }
        | .error error =>
            if caught error then runEvents cfg run events
            else { run with pc := .rejected, left := events }
      -- there is no such action: the outer `catch`
      else runEvents cfg run events

namespace AlarmSchedule

variable (cfg : AlarmConfig V)

/-- `_onAlarm` up to its first `await`. -/
def onAlarm (s : AlarmSchedule V) (now : Int) : AlarmSchedule V :=
  let scheduleEvents := dueEvents s.scheduledEvents now
  let scheduledEvents := remainingEvents s.scheduledEvents now
  let run : OnAlarmCall V := { pc := .settingAlarm, left := scheduleEvents }
  { scheduledEvents
    runs := s.runs ++
      [if scheduledEvents.isEmpty then runEvents cfg run scheduleEvents
       else run] }

/-- `#queueSetAlarm` of the call `k` is done. -/
def alarmSet (s : AlarmSchedule V) (k : Nat) : Option (AlarmSchedule V) :=
  match s.runs[k]? with
  | some run =>
      if run.pc = .settingAlarm then
        some { s with runs := s.runs.set k (runEvents cfg run run.left) }
      else none
  | none => none

/-- The action that the call `k` waits for returns or throws. -/
def actionEnds (s : AlarmSchedule V) (k : Nat)
    (error : Option (Raised V)) : Option (AlarmSchedule V) :=
  match s.runs[k]? with
  | some run =>
      if run.pc = .calling then
        if error.all caught then
          some { s with runs := s.runs.set k (runEvents cfg run run.left) }
        else some { s with runs := s.runs.set k { run with pc := .rejected } }
      else none
  | none => none

end AlarmSchedule

/-- The steps. -/
inductive OnAlarmStep (V : Type)
  | scheduleEvent (event : PersistedScheduleEvent)
  | onAlarm (now : Int)
  | alarmSet (k : Nat)
  | actionEnds (k : Nat) (error : Option (Raised V))

/-- The runs of a schedule with its calls of `_onAlarm`. -/
def onAlarmSystem (cfg : AlarmConfig V) :
    System (AlarmSchedule V) (OnAlarmStep V) where
  init s := ∃ events, s = { scheduledEvents := events }
  step s
    | .scheduleEvent event =>
        some { s with
          scheduledEvents := insertEvent s.scheduledEvents event }
    | .onAlarm now => some (s.onAlarm cfg now)
    | .alarmSet k => s.alarmSet cfg k
    | .actionEnds k error => s.actionEnds cfg k error

end RivetKit.Actor
