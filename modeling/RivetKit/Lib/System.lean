/-
Guarded transition systems: an initial-state predicate and an
executable partial step function. One definition serves three readers:
`run` replays a concrete schedule, `Reaches` quantifies over every
schedule, and a guard `ok` restricts the schedules to those whose every
step satisfies a condition on the state before it.

The guard is what a conditional result quantifies over. `Reaches ok s`
says that some run ends in `s` and that each of its steps was taken in
a state where `ok` held of the step; `Reachable` is the unguarded
case. An invariant is proved once, by `Reaches.invariant`, from what a
single step preserves.
-/

namespace Transition

universe u v

/-- A transition system over states `σ` and step labels `α`. A step is
enabled in `s` when `step s a` is `some`. -/
structure System (σ : Type u) (α : Type v) where
  init : σ → Prop
  step : σ → α → Option σ

namespace System

variable {σ : Type u} {α : Type v} (sys : System σ α)

-- ============================================================= the runs

/-- States reached by a run whose every step satisfies `ok`. -/
inductive Reaches (ok : σ → α → Prop) : σ → Prop
  | init {s : σ} : sys.init s → Reaches ok s
  | step {s s' : σ} (a : α) :
      Reaches ok s → ok s a → sys.step s a = some s' → Reaches ok s'

/-- States reached by any run. -/
def Reachable (s : σ) : Prop := sys.Reaches (fun _ _ => True) s

/-- Replay a schedule from `s`, failing on the first disabled step. -/
def run (s : σ) : List α → Option σ
  | [] => some s
  | a :: as =>
      match sys.step s a with
      | some s' => run s' as
      | none => none

/-- Every step of the schedule, replayed from `s`, satisfies `ok`. -/
def RunOk (ok : σ → α → Prop) (s : σ) : List α → Prop
  | [] => True
  | a :: as =>
      ok s a ∧
        match sys.step s a with
        | some s' => RunOk ok s' as
        | none => True

/-- The replay of a guard is decided by replaying it. -/
def decidableRunOk (ok : σ → α → Prop) [∀ s a, Decidable (ok s a)] :
    (s : σ) → (as : List α) → Decidable (sys.RunOk ok s as)
  | _, [] => .isTrue trivial
  | s, a :: as =>
      let rest : (o : Option σ) → Decidable (match o with
          | some s' => sys.RunOk ok s' as
          | none => True)
        | some s' => decidableRunOk ok s' as
        | none => .isTrue trivial
      @instDecidableAnd _ _ _ (rest (sys.step s a))

instance (ok : σ → α → Prop) [∀ s a, Decidable (ok s a)] (s : σ)
    (as : List α) : Decidable (sys.RunOk ok s as) :=
  sys.decidableRunOk ok s as

variable {sys}

-- ========================================================= induction rules

/-- A replay is its first step and the rest. -/
theorem run_cons {s s' : σ} {a : α} {as : List α}
    (h : sys.run s (a :: as) = some s') :
    ∃ s₁, sys.step s a = some s₁ ∧ sys.run s₁ as = some s' := by
  rw [run] at h
  split at h
  · next s₁ hstep => exact ⟨s₁, hstep, h⟩
  · cases h

/-- What every step keeps, a replay keeps. -/
theorem run_keeps {P : σ → Prop}
    (hstep : ∀ s a s', P s → sys.step s a = some s' → P s') (as : List α) :
    ∀ {s s' : σ}, P s → sys.run s as = some s' → P s' := by
  induction as with
  | nil =>
      intro s s' hs hrun
      cases hrun
      exact hs
  | cons a as ih =>
      intro s s' hs hrun
      obtain ⟨s₁, hs₁, hrun⟩ := run_cons hrun
      exact ih (hstep s a s₁ hs hs₁) hrun

/-- An invariant: true initially, preserved by every step the guard
admits. The step case may use that its source state is reached. -/
theorem Reaches.invariant {ok : σ → α → Prop} {P : σ → Prop}
    (hinit : ∀ s, sys.init s → P s)
    (hstep : ∀ s a s', sys.Reaches ok s → P s → ok s a →
      sys.step s a = some s' → P s')
    {s : σ} (h : sys.Reaches ok s) : P s := by
  induction h with
  | init hs => exact hinit _ hs
  | step a hr hok hs ih => exact hstep _ a _ hr ih hok hs

/-- A weaker guard reaches more. -/
theorem Reaches.mono {ok ok' : σ → α → Prop}
    (himp : ∀ s a, ok s a → ok' s a) {s : σ} (h : sys.Reaches ok s) :
    sys.Reaches ok' s := by
  induction h with
  | init hs => exact .init hs
  | step a _ hok hs ih => exact .step a ih (himp _ _ hok) hs

/-- A guarded run is a run. -/
theorem Reaches.reachable {ok : σ → α → Prop} {s : σ}
    (h : sys.Reaches ok s) : sys.Reachable s :=
  h.mono fun _ _ _ => trivial

/-- Replaying a schedule that satisfies the guard stays inside the
guarded runs. -/
theorem Reaches.run {ok : σ → α → Prop} (as : List α) :
    ∀ {s s' : σ}, sys.Reaches ok s → sys.RunOk ok s as →
      sys.run s as = some s' → sys.Reaches ok s' := by
  induction as with
  | nil =>
      intro s s' hs _ hrun
      cases hrun
      exact hs
  | cons a as ih =>
      intro s s' hs hok hrun
      obtain ⟨s₁, hstep, hrun⟩ := run_cons hrun
      simp only [RunOk] at hok
      rw [hstep] at hok
      exact ih (.step a hs hok.1 hstep) hok.2 hrun

/-- The trivial guard holds along every replay. -/
theorem runOk_true (s : σ) (as : List α) :
    sys.RunOk (fun _ _ => True) s as := by
  induction as generalizing s with
  | nil => trivial
  | cons a as ih =>
      refine ⟨trivial, ?_⟩
      cases sys.step s a with
      | none => trivial
      | some s₁ => exact ih s₁

/-- The unguarded replay: every replayed schedule ends in a reachable
state. -/
theorem Reachable.run {s s' : σ} (as : List α) (hs : sys.Reachable s)
    (hrun : sys.run s as = some s') : sys.Reachable s' :=
  Reaches.run as hs (runOk_true s as) hrun

end System

end Transition
