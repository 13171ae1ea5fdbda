/-
Mutexes among tasks that take turns, and what it is for tasks to wait on
one another for good.

# Holders

A mutex is `none` or the task that holds it. `Held` ties that to where
the tasks are in their code: the holder is the one that is at a place
where it holds the mutex. A step of one task takes the mutex, gives it
back or leaves it, and `Held.move` is the rule for all three.

# Deadlocks

A task at an await waits for at most one other task: the holder of the
mutex, or the other end of a full channel. Tasks that wait in a circle
wait for good, one that waits for itself among them. Where every wait
goes down in rank there is no circle.
-/
import Mathlib.Logic.Relation

namespace Transition

universe u

variable {T : Type u}

-- ================================================================ holders

/-- The mutex is held by exactly the task whose place holds it. -/
def Held (lock : Option T) (holds : T → Bool) : Prop :=
  ∀ t, lock = some t ↔ holds t = true

section

variable {lock lock' : Option T} {holds holds' : T → Bool}

/-- At most one task holds it. -/
theorem Held.unique (h : Held lock holds) {t t' : T} (ht : holds t = true)
    (ht' : holds t' = true) : t = t' := by
  have hlock := (h t).mpr ht
  rw [(h t').mpr ht'] at hlock
  exact (Option.some.inj hlock).symm

/-- A mutex that is free is held by none. -/
theorem Held.free (h : Held lock holds) (hfree : lock = none) (t : T) :
    holds t = false := by
  cases ht : holds t with
  | false => rfl
  | true =>
      have hlock := (h t).mpr ht
      rw [hfree] at hlock
      cases hlock

/-- A step of the task `t`. -/
theorem Held.move [DecidableEq T] {t : T} (h : Held lock holds)
    (hother : ∀ t', t' ≠ t → holds' t' = holds t')
    (hfree : holds' t = true → holds t = true ∨ lock = none)
    (hlock : lock' = if holds' t then some t
      else if holds t then none else lock) : Held lock' holds' := by
  intro t'
  by_cases heq : t' = t
  · rw [heq, hlock]
    cases hnew : holds' t with
    | true => simp
    | false =>
        cases hold : holds t with
        | true => simp
        | false =>
            have hne : lock ≠ some t := by
              intro hsome
              rw [(h t).mp hsome] at hold
              cases hold
            simp [hne]
  · rw [hother t' heq, ← h t', hlock]
    cases hnew : holds' t with
    | true =>
        rcases hfree hnew with hold | hnone
        · have hsome := (h t).mpr hold
          rw [hsome]
          simp
        · rw [hnone]
          simp [Ne.symm heq]
    | false =>
        cases hold : holds t with
        | true =>
            have hsome := (h t).mpr hold
            rw [hsome]
            simp [Ne.symm heq]
        | false => simp

end

-- ============================================================== deadlocks

/-- Some tasks wait for each other in a circle. -/
def Deadlocked (waitsFor : T → Option T) : Prop :=
  ∃ t, Relation.TransGen (fun a b => waitsFor a = some b) t t

variable {waitsFor : T → Option T}

/-- A task that waits for itself. -/
theorem Deadlocked.self {t : T} (h : waitsFor t = some t) :
    Deadlocked waitsFor :=
  ⟨t, .single h⟩

/-- No circle goes down in rank. -/
theorem not_deadlocked {rank : T → Nat}
    (h : ∀ a b, waitsFor a = some b → rank b < rank a) :
    ¬ Deadlocked waitsFor := by
  intro hdead
  obtain ⟨t, ht⟩ := hdead
  have hlt : ∀ a b, Relation.TransGen (fun a b => waitsFor a = some b) a b →
      rank b < rank a := by
    intro a b hab
    induction hab with
    | single hab => exact h _ _ hab
    | tail _ hbc ih =>
        have hstep := h _ _ hbc
        omega
  have hself := hlt t t ht
  omega

end Transition
