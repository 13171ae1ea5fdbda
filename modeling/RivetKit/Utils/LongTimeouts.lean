/-
`setLongTimeout` (utils.ts) over the native timers.

# Numbers

`after` and what is left of it are doubles, so `remaining - TIMEOUT_MAX`
is rounded: it is the sum with `-TIMEOUT_MAX` (`Number.add`), which is
exact up to `2 ^ 53` and need not be beyond.

# Timers

A native timer is the number of its `setTimeout`. Those that are armed are
a list, and a step fires any of them or calls `abort`. `armed` has the
lengths in the order of the calls of `setTimeout`, and `calls` counts the
calls of the listener. No branch reads either but for the number of the
next timer.
-/
import RivetKit.Lib.Rounding
import RivetKit.Lib.System

namespace RivetKit.Utils

open Js Transition

-- =============================================================== the data

/-- `TIMEOUT_MAX`. -/
def timeoutMax : Int := 2147483647

/-- What a native timer calls: the listener, or the function that starts
the next chunk with what `remaining` was. -/
inductive TimerCallback
  | listener
  | next (remaining : Number)
  deriving DecidableEq

/-- The closure of one `setLongTimeout`, and its timers. -/
structure LongTimeout where
  timeout : Option Nat := none
  timers : List (Nat × TimerCallback) := []
  armed : List Number := []
  calls : Nat := 0
  deriving DecidableEq

namespace LongTimeout

-- ========================================================== the functions

/-- `timeout = setTimeout(callback, length)`. -/
def setTimeout (s : LongTimeout) (callback : TimerCallback)
    (length : Number) : LongTimeout :=
  { s with
    timeout := some s.armed.length
    timers := s.timers ++ [(s.armed.length, callback)]
    armed := s.armed ++ [length] }

/-- `clearTimeout`. -/
def clearTimeout (s : LongTimeout) (id : Nat) : LongTimeout :=
  { s with timers := s.timers.filter fun timer => timer.1 ≠ id }

/-- `start`. -/
def start (s : LongTimeout) (remaining : Number) : LongTimeout :=
  if remaining.le (.ofInt timeoutMax) then s.setTimeout .listener remaining
  else s.setTimeout (.next remaining) (.ofInt timeoutMax)

/-- `setLongTimeout`. -/
def setLongTimeout (after : Number) : LongTimeout :=
  ({} : LongTimeout).start after

/-- `abort` of the handle. -/
def abort (s : LongTimeout) : LongTimeout :=
  match s.timeout with
  | some id => s.clearTimeout id
  | none => s

/-- A native timer fires. -/
def fire (s : LongTimeout) (id : Nat) : Option LongTimeout :=
  match s.timers.find? fun timer => timer.1 = id with
  | some (_, .listener) => some { s.clearTimeout id with calls := s.calls + 1 }
  | some (_, .next remaining) =>
      some ((s.clearTimeout id).start (remaining.add (.ofInt (-timeoutMax))))
  | none => none

end LongTimeout

/-- The steps: a timer fires, the caller aborts. -/
inductive TimeoutStep
  | fire (id : Nat)
  | abort

/-- The runs of one `setLongTimeout(listener, after)`. -/
def longTimeoutSystem (after : Number) : System LongTimeout TimeoutStep where
  init s := s = .setLongTimeout after
  step s
    | .fire id => s.fire id
    | .abort => some s.abort

-- ============================================================ the contract

/-- The delay comes out as these chunks: they are in the range of a native
timer and make up the delay, in every run they are armed in this order and
one at a time, the listener is called behind the last one and not again,
it is called when all of them fire, and not behind an `abort`. -/
structure Splits (delay : Int) (lengths : List Int) : Prop where
  total : lengths.sum = delay
  range : ∀ length ∈ lengths, 0 ≤ length ∧ length ≤ timeoutMax
  order : ∀ s, (longTimeoutSystem (.ofInt delay)).Reachable s →
    s.timers.length ≤ 1 ∧ s.armed <+: lengths.map .ofInt
  once : ∀ s, (longTimeoutSystem (.ofInt delay)).Reachable s →
    s.calls = 0 ∨ s.calls = 1 ∧ s.timers = [] ∧ s.armed = lengths.map .ofInt
  called : ∃ s, (longTimeoutSystem (.ofInt delay)).run
      (.setLongTimeout (.ofInt delay))
      ((List.range lengths.length).map .fire) = some s ∧ s.calls = 1
  aborted : ∀ s, (longTimeoutSystem (.ofInt delay)).Reachable s →
    s.calls = 0 → ∀ steps s', (longTimeoutSystem (.ofInt delay)).run
      s.abort steps = some s' → s'.calls = 0

/-- The contract of `setLongTimeout` for a delay. -/
def KeepsDelay (delay : Int) : Prop := ∃ lengths, Splits delay lengths

end RivetKit.Utils
