/-
`SinglePromiseQueue` (utils.ts): a one-slot coalescing queue of async
operations. `enqueue` overwrites the slot and hands every caller of one
cycle the same promise; `#drainLoop` takes the slot, awaits the
operation, resolves the cycle's promise whether or not the operation
threw, and looks at the slot again.

Promises are named by allocation order: `pending` is the resolver of
the cycle that has not started, the running loop holds the one it
captured, and `resolved` lists those resolved so far. `enqueue` and
`settle` are the two places JavaScript runs queue code: the synchronous
part of a call, and the continuation of `await op()`.

# The resolver discipline

`WellFormed` is the queue's own invariant: a resolver is in exactly one
of the three places, a queued operation has one, and nothing is queued
while no loop runs. `enqueue_idle`, `enqueue_busy` and `settle_eq` are
the equations the callers use; no caller unfolds the queue.
-/

namespace RivetKit.Utils

universe u

/-- The suspended `#drainLoop`: the operation it awaits and the resolver
it captured for the cycle. -/
structure DrainLoop (Op : Type u) where
  op : Op
  resolver : Option Nat

/-- The fields of a `SinglePromiseQueue`, with the promises it has
handed out. -/
structure SinglePromiseQueue (Op : Type u) where
  queuedOp : Option Op := none
  runningDrainLoop : Option (DrainLoop Op) := none
  pending : Option Nat := none
  resolved : List Nat := []
  allocated : Nat := 0

namespace SinglePromiseQueue

variable {Op : Type u}

-- ====================================================== the operations

/-- One test of `#drainLoop`'s `while (this.#queuedOp)`: capture the
resolver and the operation and clear both fields, or leave the loop. -/
def nextCycle (q : SinglePromiseQueue Op) : SinglePromiseQueue Op :=
  match q.queuedOp with
  | some op =>
      { q with queuedOp := none, pending := none,
               runningDrainLoop := some ⟨op, q.pending⟩ }
  | none => { q with runningDrainLoop := none }

/-- `enqueue`: overwrite the slot, join or open the cycle, and start the
loop when none runs. Returns the promise of the cycle joined. -/
def enqueue (q : SinglePromiseQueue Op) (op : Op) :
    SinglePromiseQueue Op × Nat :=
  let r := q.pending.getD q.allocated
  let q₁ :=
    { q with queuedOp := some op, pending := some r,
             allocated := if q.pending.isSome then q.allocated
               else q.allocated + 1 }
  (if q₁.runningDrainLoop.isNone then q₁.nextCycle else q₁, r)

/-- The continuation of `await op()`: `resolver?.resolve()`, then the
next test of the loop. The `catch` around the `await` swallows a
rejection, so there is one continuation for both outcomes. -/
def settle (q : SinglePromiseQueue Op) : SinglePromiseQueue Op :=
  match q.runningDrainLoop with
  | some d =>
      nextCycle { q with resolved := d.resolver.toList ++ q.resolved }
  | none => q

/-- The loop is awaiting the operation of the cycle `r`. -/
def Running (q : SinglePromiseQueue Op) (r : Nat) : Prop :=
  ∃ d, q.runningDrainLoop = some d ∧ d.resolver = some r

/-- The operation of the cycle `r` has been started. -/
def Started (q : SinglePromiseQueue Op) (r : Nat) : Prop :=
  q.Running r ∨ r ∈ q.resolved

instance (q : SinglePromiseQueue Op) (r : Nat) : Decidable (q.Running r) :=
  match h : q.runningDrainLoop with
  | none => .isFalse fun ⟨_, hd, _⟩ => by rw [h] at hd; cases hd
  | some d =>
      decidable_of_iff (d.resolver = some r)
        ⟨fun hr => ⟨d, h, hr⟩, fun ⟨d', hd, hr⟩ => by
          rw [h] at hd
          injection hd with hd
          rw [hd]
          exact hr⟩

instance (q : SinglePromiseQueue Op) (r : Nat) : Decidable (q.Started r) :=
  inferInstanceAs (Decidable (_ ∨ _))

-- ======================================================= the invariant

/-- Every resolver is in one place: waiting with the slot, captured by
the loop, or resolved; and the slot is empty while no loop runs. -/
structure WellFormed (q : SinglePromiseQueue Op) : Prop where
  queued_pending : q.queuedOp.isSome = q.pending.isSome
  queued_running : q.queuedOp.isSome → q.runningDrainLoop.isSome
  running_resolver : ∀ d, q.runningDrainLoop = some d →
    ∃ r, d.resolver = some r ∧ r < q.allocated ∧ r ∉ q.resolved
      ∧ q.pending ≠ some r
  pending_fresh : ∀ r, q.pending = some r →
    r < q.allocated ∧ r ∉ q.resolved
  resolved_lt : ∀ r ∈ q.resolved, r < q.allocated

/-- A new queue. -/
theorem wellFormed_empty : WellFormed ({} : SinglePromiseQueue Op) where
  queued_pending := rfl
  queued_running := by simp
  running_resolver := by simp
  pending_fresh := by simp
  resolved_lt := by simp

/-- With no loop running, `enqueue` starts the operation at once, under
a fresh resolver. -/
theorem enqueue_idle {q : SinglePromiseQueue Op} (hq : q.WellFormed)
    (hidle : q.runningDrainLoop = none) (op : Op) :
    q.enqueue op
      = ({ q with runningDrainLoop := some ⟨op, some q.allocated⟩,
                  allocated := q.allocated + 1 }, q.allocated) := by
  have hslot : q.queuedOp = none := by
    have h := hq.queued_running
    rw [hidle] at h
    simpa using h
  have hpend : q.pending = none := by
    have h := hq.queued_pending
    rw [hslot] at h
    simpa using h
  simp [enqueue, nextCycle, hidle, hpend, hslot]

/-- With a loop running, `enqueue` only overwrites the slot; the
operation waits for the loop's next test. -/
theorem enqueue_busy {q : SinglePromiseQueue Op} {d : DrainLoop Op}
    (hbusy : q.runningDrainLoop = some d) (op : Op) :
    q.enqueue op
      = ({ q with queuedOp := some op,
                  pending := some (q.pending.getD q.allocated),
                  allocated := if q.pending.isSome then q.allocated
                    else q.allocated + 1 },
          q.pending.getD q.allocated) := by
  simp [enqueue, hbusy]

/-- The continuation of an operation of a well-formed queue: its
resolver is resolved and the slot's operation, if any, is started. -/
theorem settle_eq {q : SinglePromiseQueue Op} {d : DrainLoop Op} {r : Nat}
    (hrun : q.runningDrainLoop = some d) (hr : d.resolver = some r) :
    q.settle
      = { q with queuedOp := none,
                 pending := if q.queuedOp.isSome then none else q.pending,
                 runningDrainLoop := q.queuedOp.map fun op => ⟨op, q.pending⟩,
                 resolved := r :: q.resolved } := by
  cases hslot : q.queuedOp with
  | none => simp [settle, nextCycle, hrun, hr, hslot]
  | some op => simp [settle, nextCycle, hrun, hr, hslot]

/-- `enqueue` keeps the resolver discipline. -/
theorem WellFormed.enqueue {q : SinglePromiseQueue Op} (hq : q.WellFormed)
    (op : Op) : (q.enqueue op).1.WellFormed := by
  cases hrun : q.runningDrainLoop with
  | none =>
      rw [enqueue_idle hq hrun]
      have hpend : q.pending = none := by
        have h := hq.queued_running
        have h' := hq.queued_pending
        rw [hrun] at h
        simp_all
      refine ⟨hq.queued_pending, fun _ => rfl, ?_, ?_, ?_⟩
      · intro d hd
        injection hd with hd
        subst hd
        refine ⟨q.allocated, rfl, Nat.lt_succ_self _, fun hmem => ?_, ?_⟩
        · exact Nat.lt_irrefl _ (hq.resolved_lt _ hmem)
        · simp [hpend]
      · intro r hr
        rw [show q.pending = some r from hr] at hpend
        cases hpend
      · intro r hr
        exact Nat.lt_succ_of_lt (hq.resolved_lt r hr)
  | some d =>
      rw [enqueue_busy hrun]
      obtain ⟨r₀, hr₀, hlt₀, hnot₀, hne₀⟩ := hq.running_resolver d hrun
      cases hpend : q.pending with
      | none =>
          refine ⟨rfl, fun _ => by simp [hrun], ?_, ?_, ?_⟩
          · intro d' hd'
            rw [show q.runningDrainLoop = some d' from hd'] at hrun
            injection hrun with hrun
            subst hrun
            refine ⟨r₀, hr₀, Nat.lt_succ_of_lt hlt₀, hnot₀, ?_⟩
            simp only [Option.getD_none, ne_eq, Option.some.injEq]
            omega
          · intro r hr
            simp only [Option.getD_none, Option.some.injEq] at hr
            subst hr
            refine ⟨by simp, fun hmem => ?_⟩
            exact Nat.lt_irrefl _ (hq.resolved_lt _ hmem)
          · intro r hr
            exact Nat.lt_succ_of_lt (hq.resolved_lt r hr)
      | some p =>
          obtain ⟨hplt, hpnot⟩ := hq.pending_fresh p hpend
          refine ⟨rfl, fun _ => by simp [hrun], ?_, ?_, ?_⟩
          · intro d' hd'
            rw [show q.runningDrainLoop = some d' from hd'] at hrun
            injection hrun with hrun
            subst hrun
            rw [hpend] at hne₀
            exact ⟨r₀, hr₀, hlt₀, hnot₀, hne₀⟩
          · intro r hr
            simp only [Option.getD_some, Option.some.injEq] at hr
            subst hr
            exact ⟨hplt, hpnot⟩
          · exact hq.resolved_lt

/-- The continuation keeps the resolver discipline. -/
theorem WellFormed.settle {q : SinglePromiseQueue Op} (hq : q.WellFormed) :
    q.settle.WellFormed := by
  cases hrun : q.runningDrainLoop with
  | none => simpa [SinglePromiseQueue.settle, hrun] using hq
  | some d =>
      obtain ⟨r₀, hr₀, hlt₀, hnot₀, hne₀⟩ := hq.running_resolver d hrun
      rw [settle_eq hrun hr₀]
      have hresolved : ∀ r ∈ r₀ :: q.resolved, r < q.allocated := by
        intro r hr
        rcases List.mem_cons.mp hr with rfl | hr
        · exact hlt₀
        · exact hq.resolved_lt r hr
      cases hslot : q.queuedOp with
      | none =>
          have hpend : q.pending = none := by
            have h := hq.queued_pending
            rw [hslot] at h
            simpa using h
          refine ⟨?_, ?_, ?_, ?_, hresolved⟩ <;> simp [hpend]
      | some op =>
          obtain ⟨p, hp⟩ : ∃ p, q.pending = some p := by
            have h := hq.queued_pending
            rw [hslot] at h
            exact Option.isSome_iff_exists.mp h.symm
          obtain ⟨hplt, hpnot⟩ := hq.pending_fresh p hp
          refine ⟨rfl, by simp, ?_, by simp, hresolved⟩
          intro d' hd'
          simp only [Option.map_some, Option.some.injEq] at hd'
          subst hd'
          refine ⟨p, hp, hplt, ?_, by simp⟩
          rw [hp] at hne₀
          simp only [List.mem_cons, not_or]
          exact ⟨fun heq => hne₀ (by rw [heq]), hpnot⟩

end SinglePromiseQueue

end RivetKit.Utils
