/-
The sleep timer of `ActorInstance` (actor/instance.ts): `#resetSleepTimer`,
`#canSleep` and `_sleep`, and the paths that run user code, with what each
of them does for the timer: `_onAlarm`, `executeAction`, `handleFetch`,
`handleWebSocket`, `createConn` and `__removeConn`.

# What the environment decides

When a connection is made, probed and removed, how many of the events that
an alarm takes run an action, and how long a handler takes. A raw
WebSocket is a `HonoWebSocketAdapter` (manager/hono-websocket-adapter.ts):
it fires an error event when a `send` fails and when the transport reports
one, and in neither case does that close it.

# History

`actions` has the connection of each call of `executeAction` that has not
settled, `fetches` counts the handlers of raw requests that run, `isOpen`
is the state of a raw WebSocket, and `errored` says that it had an error
event. `unattendedSince` is the time of the last sleep-related event (the
start, a connection that opens or closes, an alarm, the beginning or the
end of a raw request or a raw WebSocket) if behind it the actor was
`unattended`, until `_stop` clears the timers. No branch reads them, but
where the end of something needs its beginning.
-/
import RivetKit.Actor.ConnTransports

namespace RivetKit.Actor

open Transition

-- =============================================================== the data

/-- What the sleep timer reads of the options and the driver. -/
structure SleepOptions where
  noSleep : Bool
  sleepingSupported : Bool
  sleepTimeout : Nat

/-- The delay that `setTimeout` takes for the sleep timer. -/
def SleepOptions.delay (opts : SleepOptions) : Nat :=
  if 1 ≤ opts.sleepTimeout ∧ opts.sleepTimeout ≤ 2147483647 then
    opts.sleepTimeout
  else 1

/-- A `Conn`: whether `#connections` has it, and its status. -/
structure SleepConn where
  present : Bool := true
  status : ConnectionStatus := .connected
  deriving DecidableEq

/-- A raw WebSocket that a handler was called with: whether it is open,
whether it had an error event, and whether `#activeRawWebSockets` has
it. -/
structure RawWebSocket where
  isOpen : Bool := true
  errored : Bool := false
  active : Bool := true
  deriving DecidableEq

/-- A call of `_onAlarm` behind its `splice`: the events that are left, and
whether the action of one is running. -/
structure AlarmRun where
  scheduleEvents : Nat
  running : Bool := false
  deriving DecidableEq

/-- An instance, as far as its sleep goes. `sleepTimeout` is when the
pending timer is due, and `sleeping` whether the callback that the timer
gave to `setImmediate` is still to run. -/
structure SleepInstance where
  ready : Bool := false
  sleepCalled : Bool := false
  stopCalled : Bool := false
  now : Nat
  connections : List SleepConn
  activeRawFetchCount : Nat := 0
  rawWebSockets : List RawWebSocket := []
  sleepTimeout : Option Nat := none
  sleeping : Bool := false
  alarms : List AlarmRun := []
  actions : List Nat := []
  fetches : Nat := 0
  unattendedSince : Option Nat := none
  deriving DecidableEq

/-- The steps. -/
inductive SleepStep
  /-- The end of `start`: the actor is ready. -/
  | start
  | createConn
  | removeConn (c : Nat)
  /-- `conn.disconnect()`. -/
  | disconnect (c : Nat)
  /-- The liveness probe of a connection. -/
  | checkLiveness (c : Nat) (closed : Bool)
  /-- `_onAlarm`, which takes `events` events from the schedule. -/
  | onAlarm (events : Nat)
  /-- The loop of an alarm calls the action of the next event. -/
  | eventStart (a : Nat)
  /-- The loop of an alarm is behind an event. -/
  | eventEnd (a : Nat)
  /-- `executeAction` for a connection. -/
  | actionStart (c : Nat)
  | actionEnd (i : Nat)
  | fetchStart
  | fetchEnd
  | socketStart
  /-- A raw WebSocket closes. -/
  | socketClose (w : Nat)
  /-- An error event at a raw WebSocket that is open. -/
  | socketError (w : Nat)
  /-- The sleep timer fires. -/
  | sleepTimer
  /-- The callback that `_sleep` left for the timer calls the driver. -/
  | driverSleep
  /-- `c.sleep()`. -/
  | sleep
  /-- `_stop`. -/
  | stop
  /-- `_stop` clears the timer. -/
  | clearTimeouts
  | advance (d : Nat)

namespace SleepInstance

-- ============================================================== the timer

/-- `#canSleep`. -/
def canSleep (s : SleepInstance) : Bool :=
  s.ready
    && !s.connections.any (fun conn =>
      conn.present && decide (conn.status = .connected))
    && decide (s.activeRawFetchCount = 0)
    && !s.rawWebSockets.any (·.active)

/-- `#resetSleepTimer`. -/
def resetSleepTimer (opts : SleepOptions) (s : SleepInstance) :
    SleepInstance :=
  if opts.noSleep || !opts.sleepingSupported then s
  else if s.sleepCalled then { s with sleepTimeout := none }
  else if s.canSleep then
    { s with sleepTimeout := some (s.now + opts.delay) }
  else { s with sleepTimeout := none }

/-- `#assertReady`. -/
def assertReady (s : SleepInstance) : Bool :=
  s.ready && !s.sleepCalled && !s.stopCalled

/-- The callback of the timer: `_sleep`. -/
def sleepTimerFires (s : SleepInstance) : SleepInstance :=
  let s := { s with sleepTimeout := none }
  if s.sleepCalled then s
  else { s with sleepCalled := true, sleeping := true }

-- ============================================================= the history

/-- The actor has started, no connection is connected, no raw request runs,
and no raw WebSocket is open that has had no error event. -/
def unattended (s : SleepInstance) : Bool :=
  s.ready
    && !s.connections.any (fun conn =>
      conn.present && decide (conn.status = .connected))
    && decide (s.fetches = 0)
    && !s.rawWebSockets.any fun socket => socket.isOpen && !socket.errored

/-- A sleep-related event. -/
def sleepEvent (s : SleepInstance) : SleepInstance :=
  { s with unattendedSince := if s.unattended then some s.now else none }

-- =============================================================== the step

/-- One step, where it can happen. A call that throws before it reaches
user code is none. -/
def step (opts : SleepOptions) (s : SleepInstance) :
    SleepStep → Option SleepInstance
  | .start =>
      if s.ready then none
      else some ({ s with ready := true }.sleepEvent.resetSleepTimer opts)
  | .createConn =>
      if s.assertReady then
        let s := { s with
          connections := s.connections ++ [SleepConn.mk true .connected] }
        some (s.sleepEvent.resetSleepTimer opts)
      else none
  | .removeConn c =>
      let s := { s with
        connections := s.connections.modify c fun conn =>
          { conn with present := false } }
      some (s.sleepEvent.resetSleepTimer opts)
  | .disconnect c =>
      some { s with
        connections := s.connections.modify c fun conn =>
          { conn with status := .reconnecting } }
  | .checkLiveness c closed =>
      some { s with
        connections := s.connections.modify c fun conn =>
          { conn with
            status := if closed then .reconnecting else .connected } }
  | .onAlarm events =>
      let s := s.sleepEvent.resetSleepTimer opts
      some { s with alarms := s.alarms ++ [⟨events, false⟩] }
  | .eventStart a =>
      match s.alarms[a]? with
      | none => none
      | some run =>
          if run.running = false ∧ 0 < run.scheduleEvents then
            some { s with
              alarms := s.alarms.set a { run with running := true } }
          else none
  | .eventEnd a =>
      match s.alarms[a]? with
      | none => none
      | some run =>
          some { s with
            alarms := s.alarms.set a ⟨run.scheduleEvents - 1, false⟩ }
  | .actionStart c =>
      if s.ready ∧ c < s.connections.length then
        some { s with actions := s.actions ++ [c] }
      else none
  | .actionEnd i => some { s with actions := s.actions.eraseIdx i }
  | .fetchStart =>
      if s.assertReady then
        let s := { s with
          activeRawFetchCount := s.activeRawFetchCount + 1
          fetches := s.fetches + 1 }
        some (s.sleepEvent.resetSleepTimer opts)
      else none
  | .fetchEnd =>
      if s.fetches = 0 then none
      else
        let s := { s with
          -- `Math.max(0, … - 1)`
          activeRawFetchCount := s.activeRawFetchCount - 1
          fetches := s.fetches - 1 }
        some (s.sleepEvent.resetSleepTimer opts)
  | .socketStart =>
      if s.assertReady then
        let s := { s with
          rawWebSockets := s.rawWebSockets ++ [({} : RawWebSocket)] }
        some (s.sleepEvent.resetSleepTimer opts)
      else none
  | .socketClose w =>
      match s.rawWebSockets[w]? with
      | none => none
      | some socket =>
          if socket.isOpen then
            let s := { s with
              rawWebSockets := s.rawWebSockets.set w
                { socket with isOpen := false, active := false } }
            -- the listener is gone when an error event was there before
            if socket.active then
              some (s.sleepEvent.resetSleepTimer opts)
            else some s
          else none
  | .socketError w =>
      match s.rawWebSockets[w]? with
      | none => none
      | some socket =>
          if socket.isOpen then
            let s := { s with
              rawWebSockets := s.rawWebSockets.set w
                { socket with errored := true, active := false } }
            if socket.active then
              some (s.sleepEvent.resetSleepTimer opts)
            else some s
          else none
  | .sleepTimer =>
      match s.sleepTimeout with
      | none => none
      | some due => if due ≤ s.now then some s.sleepTimerFires else none
  | .driverSleep =>
      if s.sleeping then some { s with sleeping := false } else none
  | .sleep =>
      if opts.sleepingSupported then some { s with sleepCalled := true }
      else none
  | .stop => some { s with stopCalled := true }
  | .clearTimeouts =>
      if s.stopCalled then
        some { s with sleepTimeout := none, unattendedSince := none }
      else none
  | .advance d => some { s with now := s.now + d }

end SleepInstance

/-- An instance from its start: whatever connections it restored. -/
def sleepSystem (opts : SleepOptions) : System SleepInstance SleepStep where
  init s := ∃ connections now, s = { connections, now }
  step s a := s.step opts a

-- ============================================================ the contract

namespace SleepInstance

/-- An action is in progress, of a client or of a scheduled event. -/
def acting (s : SleepInstance) : Bool :=
  !s.actions.isEmpty || s.alarms.any (·.running)

/-- A raw WebSocket is open that had an error event. -/
def errored (s : SleepInstance) : Bool :=
  s.rawWebSockets.any fun socket => socket.isOpen && socket.errored

/-- Nothing is in progress. -/
structure Idle (s : SleepInstance) : Prop where
  acting : s.acting = false
  fetches : s.fetches = 0
  sockets : ∀ socket ∈ s.rawWebSockets, socket.isOpen = false

/-- The actor sleeps, has not begun to, and has been unattended for the
sleep timeout at `time`. -/
def Due (opts : SleepOptions) (s : SleepInstance) (time : Nat) : Prop :=
  (opts.noSleep || !opts.sleepingSupported) = false ∧ s.sleepCalled = false
    ∧ ∃ since ∈ s.unattendedSince, since + opts.delay ≤ time

instance (opts : SleepOptions) (s : SleepInstance) (time : Nat) :
    Decidable (s.Due opts time) :=
  inferInstanceAs (Decidable (_ ∧ _ ∧ ∃ since ∈ s.unattendedSince, _))

/-- The condition on a step: no action is in progress, and no raw
WebSocket that had an error event is open, once the actor has been
unattended for the sleep timeout; and no action begins in front of the
driver's call. -/
def Attended (opts : SleepOptions) (s : SleepInstance) : SleepStep → Prop
  | .advance d =>
      s.Due opts (s.now + d) → s.acting = false ∧ s.errored = false
  | .actionStart _ => s.sleeping = false ∧ ¬ s.Due opts s.now
  | .eventStart _ => s.sleeping = false ∧ ¬ s.Due opts s.now
  | _ => True

/-- The condition is decided on a state and a step. -/
def decidableAttended (opts : SleepOptions) (s : SleepInstance) :
    (a : SleepStep) → Decidable (s.Attended opts a)
  | .advance d =>
      inferInstanceAs (Decidable (s.Due opts (s.now + d) → _ ∧ _))
  | .actionStart _ => inferInstanceAs (Decidable (_ ∧ ¬ s.Due opts s.now))
  | .eventStart _ => inferInstanceAs (Decidable (_ ∧ ¬ s.Due opts s.now))
  | .start | .createConn | .removeConn _ | .disconnect _
  | .checkLiveness _ _ | .onAlarm _ | .eventEnd _ | .actionEnd _
  | .fetchStart | .fetchEnd | .socketStart | .socketClose _
  | .socketError _ | .sleepTimer | .driverSleep | .sleep | .stop
  | .clearTimeouts => .isTrue trivial

instance (opts : SleepOptions) (s : SleepInstance) (a : SleepStep) :
    Decidable (s.Attended opts a) := decidableAttended opts s a

end SleepInstance

end RivetKit.Actor
