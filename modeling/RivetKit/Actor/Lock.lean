/-
`Lock` (utils.ts): callbacks that take turns.

# Steps

A call of `lock` runs up to its first `await`: that of the promise in
`_waiting`, or that of the callback, which begins in the call itself. A
callback ends by itself or with an error, and then its caller goes on with
the `finally`, which unlocks and resolves the promise of the first waiter.
That one goes on in a microtask of its own (`resume`), so other steps may
lie between, a new call among them. Where a callback throws before it
returns a promise there is nothing between its end and the `finally`,
which is one of the orders.

A caller is the number of its call. It stands for its promise in
`_waiting`.
-/
import RivetKit.Lib.System
import Mathlib.Algebra.Order.Ring.Nat

namespace RivetKit.Actor

open Transition

-- =============================================================== the data

/-- Where a call of `lock` is: at the promise in `_waiting`, with that
promise resolved, at its callback, with that one ended, and returned or
thrown. -/
inductive LockPc
  | waiting
  | woken
  | inside
  | ended (threw : Bool)
  | settled (threw : Bool)
  deriving DecidableEq

namespace LockPc

/-- `_locked` is this caller's. -/
def holds : LockPc → Bool
  | .inside => true
  | .ended _ => true
  | _ => false

/-- It is this caller's turn. -/
def active : LockPc → Bool
  | .woken => true
  | pc => pc.holds

end LockPc

/-- The fields of a `Lock`, and its callers. -/
structure Lock where
  locked : Bool := false
  waiting : List Nat := []
  callers : List LockPc := []
  deriving DecidableEq

namespace Lock

-- ========================================================== the functions

/-- `lock(fn)` up to its first `await`. -/
def lock (s : Lock) : Lock :=
  if s.locked then
    { s with
      waiting := s.waiting ++ [s.callers.length]
      callers := s.callers ++ [.waiting] }
  else
    { s with
      locked := true
      callers := s.callers ++ [.inside] }

/-- A waiter goes on and starts its callback. -/
def resume (s : Lock) (i : Nat) : Option Lock :=
  match s.callers[i]? with
  | some .woken =>
      some { s with
        locked := true
        callers := s.callers.set i .inside }
  | _ => none

/-- A callback ends. -/
def ends (s : Lock) (i : Nat) (threw : Bool) : Option Lock :=
  match s.callers[i]? with
  | some .inside => some { s with callers := s.callers.set i (.ended threw) }
  | _ => none

/-- `_waiting.shift()`, and `next()` if there is one. -/
def wakeNext (s : Lock) : Lock :=
  match s.waiting with
  | next :: waiting =>
      { s with
        waiting := waiting
        callers := s.callers.set next .woken }
  | [] => s

/-- The `finally`. -/
def leave (s : Lock) (i : Nat) : Option Lock :=
  match s.callers[i]? with
  | some (.ended threw) =>
      some (wakeNext { s with
        locked := false
        callers := s.callers.set i (.settled threw) })
  | _ => none

end Lock

inductive LockStep
  | lock
  | resume (i : Nat)
  | ends (i : Nat) (threw : Bool)
  | leave (i : Nat)
  deriving DecidableEq

/-- The runs of one `Lock`. -/
def lockSystem : System Lock LockStep where
  init s := s = {}
  step s
    | .lock => some s.lock
    | .resume i => s.resume i
    | .ends i threw => s.ends i threw
    | .leave i => s.leave i

-- ============================================================ the contract

/-- The callbacks that began and did not end. -/
def Lock.Inside (s : Lock) (i : Nat) : Prop := s.callers[i]? = some .inside

/-- The holders that end in a run. -/
def leaves (steps : List LockStep) : Nat :=
  steps.countP fun a => match a with
    | .leave _ => true
    | _ => false

/-- What callers still have to do. -/
def LockPc.remaining : LockPc → Nat
  | .waiting => 4
  | .woken => 3
  | .inside => 2
  | .ended _ => 1
  | .settled _ => 0

def Lock.remaining (s : Lock) : Nat := (s.callers.map LockPc.remaining).sum

/-- What a `Lock` is for. One callback runs at most. Who waits, waits for
someone who will go on, and is resumed when as many holders have ended as
wait before it and one more. Without new calls every run is finite, and
where it cannot go on every caller is through. -/
structure Lock.Excludes (s : Lock) : Prop where
  one : ∀ i j, s.Inside i → s.Inside j → i = j
  held : s.waiting ≠ [] → ∃ pc ∈ s.callers, pc.active = true
  resumed : ∀ steps s', lockSystem.run s steps = some s' →
    ∀ k i, s.waiting[k]? = some i → k < leaves steps →
      i ∉ s'.waiting ∧ s'.callers[i]? ≠ some .waiting
  drained : ∀ steps s', lockSystem.run s steps = some s' →
    .lock ∉ steps → steps.length ≤ s.remaining
      ∧ ((∀ a, a ≠ .lock → lockSystem.step s' a = none) →
        ∀ pc ∈ s'.callers, ∃ threw, pc = .settled threw)

end RivetKit.Actor
