/-
`SinglePromiseQueue` (utils.ts) with its loops and its callers.

# Beside `SinglePromiseQueue`

There the field `runningDrainLoop` holds the loop itself. Here it is the
field that `enqueue` tests, the calls of `#drainLoop` that are suspended
at their `await op()` are a list, and an operation ends (`endOp`) before
its loop goes on (`resume`). That the field is set exactly while there is
a loop, and that there is never a second one, is `Single`; with it a step
here is `enqueue`, `settle` or nothing there (`enqueue_abs`,
`resume_abs`, `endOp_abs`), so what is known there holds here.

# History

An operation is the number of its `enqueue`. `calls` has the promise of
each call, and `started` and `ended` the operations in the order in which
they began and ended. No branch reads them.
-/
import RivetKit.Lib.Lists
import RivetKit.Lib.System
import RivetKit.Utils.SinglePromiseQueue

namespace RivetKit.Utils

open Transition

-- =============================================================== the data

/-- A call of `#drainLoop` at its `await op()`, and whether the operation
has ended, by itself or with an error. -/
structure SuspendedLoop where
  op : Nat
  resolver : Option Nat
  ended : Bool := false
  deriving DecidableEq

/-- The fields of a `SinglePromiseQueue`, its loops and its promises. -/
structure DrainLoops where
  queuedOp : Option Nat := none
  runningDrainLoop : Bool := false
  pending : Option Nat := none
  loops : List SuspendedLoop := []
  resolved : List Nat := []
  allocated : Nat := 0
  calls : List Nat := []
  started : List Nat := []
  ended : List Nat := []
  deriving DecidableEq

namespace DrainLoops

-- ========================================================== the functions

/-- `#drainLoop` from its test of `#queuedOp` to its `await` or to the end
of its `finally`. -/
def drainLoop (s : DrainLoops) : DrainLoops :=
  match s.queuedOp with
  | some op =>
      { s with
        pending := none
        queuedOp := none
        loops := s.loops ++ [{ op, resolver := s.pending }]
        started := s.started ++ [op] }
  | none => { s with runningDrainLoop := false }

/-- `enqueue`. -/
def enqueue (s : DrainLoops) : DrainLoops :=
  let op := s.calls.length
  let promise := s.pending.getD s.allocated
  let s := { s with
    queuedOp := some op
    pending := some promise
    allocated := if s.pending.isSome then s.allocated else s.allocated + 1
    calls := s.calls ++ [promise] }
  if s.runningDrainLoop then s
  else { s.drainLoop with runningDrainLoop := true }

/-- The operation of the loop `i` resolves or rejects. -/
def endOp (s : DrainLoops) (i : Nat) : Option DrainLoops :=
  match s.loops[i]? with
  | some loop =>
      if loop.ended then none
      else some { s with
        loops := s.loops.set i { loop with ended := true }
        ended := s.ended ++ [loop.op] }
  | none => none

/-- The loop `i` goes on behind its `await`: the `catch` is empty. -/
def resume (s : DrainLoops) (i : Nat) : Option DrainLoops :=
  match s.loops[i]? with
  | some loop =>
      if loop.ended then
        some (drainLoop { s with
          loops := s.loops.eraseIdx i
          resolved := loop.resolver.toList ++ s.resolved })
      else none
  | none => none

/-- The operations that run. -/
def running (s : DrainLoops) : List Nat :=
  (s.loops.filter fun loop => !loop.ended).map SuspendedLoop.op

end DrainLoops

/-- The steps: an operation, a waiter or anything else calls `enqueue`, an
operation ends, a loop goes on. -/
inductive DrainStep
  | enqueue
  | endOp (i : Nat)
  | resume (i : Nat)

/-- The runs of a queue. -/
def drainSystem : System DrainLoops DrainStep where
  init s := s = {}
  step s
    | .enqueue => some s.enqueue
    | .endOp i => s.endOp i
    | .resume i => s.resume i

namespace DrainLoops

-- ========================================================== one loop at most

/-- The queue of the loop that the field holds. -/
def abs (s : DrainLoops) : SinglePromiseQueue Nat where
  queuedOp := s.queuedOp
  runningDrainLoop := s.loops.head?.map fun loop => ⟨loop.op, loop.resolver⟩
  pending := s.pending
  resolved := s.resolved
  allocated := s.allocated

/-- There is one loop or none, and the field tells which. -/
def Single (s : DrainLoops) : Prop :=
  (s.loops = [] ∧ s.runningDrainLoop = false)
    ∨ ∃ loop, s.loops = [loop] ∧ s.runningDrainLoop = true

/-- `enqueue` is that of `SinglePromiseQueue`. -/
theorem enqueue_abs {s : DrainLoops} (h : s.Single) :
    s.enqueue.abs = (s.abs.enqueue s.calls.length).1
      ∧ s.enqueue.calls = s.calls ++ [(s.abs.enqueue s.calls.length).2]
      ∧ s.enqueue.Single := by
  rcases h with ⟨hloops, hrunning⟩ | ⟨loop, hloops, hrunning⟩
  · unfold enqueue
    rw [hrunning]
    refine ⟨?_, rfl, .inr ⟨{
      op := s.calls.length
      resolver := some (s.pending.getD s.allocated) }, ?_, rfl⟩⟩
    · simp [abs, drainLoop, SinglePromiseQueue.enqueue,
        SinglePromiseQueue.nextCycle, hloops]
    · simp [drainLoop, hloops]
  · unfold enqueue
    rw [hrunning]
    refine ⟨?_, rfl, .inr ⟨loop, hloops, rfl⟩⟩
    simp [abs, SinglePromiseQueue.enqueue, hloops]

/-- That an operation ends is no step there. -/
theorem endOp_abs {s s' : DrainLoops} {i : Nat} (h : s.Single)
    (hs : s.endOp i = some s') :
    ∃ loop, s.loops = [loop] ∧ loop.ended = false
      ∧ s' = { s with
        loops := [{ loop with ended := true }]
        ended := s.ended ++ [loop.op] } := by
  unfold endOp at hs
  split at hs
  · next loop hi =>
    split at hs
    · cases hs
    · next hended =>
      rcases h with ⟨hloops, _⟩ | ⟨loop', hloops, _⟩
      · rw [hloops] at hi
        cases hi
      · rw [hloops] at hi
        cases i with
        | zero =>
            injection hi with hi
            rw [hi] at hloops
            refine ⟨loop, hloops, Bool.not_eq_true _ ▸ hended, ?_⟩
            rw [← Option.some.inj hs, hloops]
            rfl
        | succ i => cases hi
  · cases hs

/-- The loop goes on as `settle` says. -/
theorem resume_abs {s s' : DrainLoops} {i : Nat} (h : s.Single)
    (hs : s.resume i = some s') :
    ∃ loop, s.loops = [loop] ∧ loop.ended = true
      ∧ s' = drainLoop { s with
        loops := []
        resolved := loop.resolver.toList ++ s.resolved }
      ∧ s'.abs = s.abs.settle := by
  unfold resume at hs
  split at hs
  · next loop hi =>
    split at hs
    · next hended =>
      rcases h with ⟨hloops, _⟩ | ⟨loop', hloops, _⟩
      · rw [hloops] at hi
        cases hi
      · rw [hloops] at hi
        cases i with
        | zero =>
            injection hi with hi
            rw [hi] at hloops
            have hs' : s' = drainLoop { s with
                loops := []
                resolved := loop.resolver.toList ++ s.resolved } := by
              rw [← Option.some.inj hs, hloops]
              rfl
            refine ⟨loop, hloops, hended, hs', ?_⟩
            rw [hs']
            unfold drainLoop abs SinglePromiseQueue.settle
              SinglePromiseQueue.nextCycle
            cases s.queuedOp <;> simp [hloops]
        | succ i => cases hi
    · cases hs
  · cases hs

/-- A loop that goes on is alone behind that too. -/
theorem single_drainLoop {s : DrainLoops} (hloops : s.loops = [])
    (hrunning : s.runningDrainLoop = true) : s.drainLoop.Single := by
  unfold drainLoop
  split
  · exact .inr ⟨_, by rw [hloops]; rfl, hrunning⟩
  · exact .inl ⟨hloops, rfl⟩

end DrainLoops

end RivetKit.Utils
