/-
Systems over systems: forward simulation, and copies beside each other.

# Simulation

A step of the one system is matched by a replay of the other: by one step,
by several, or by none, where nothing that the other has moves. What holds
of every reachable state of the specification then holds of the image of
every reachable state of the implementation (`Simulates.invariant`). The
step case may use both reachabilities, so that invariants of either side
are at hand.

# Copies

Many copies of a system beside each other, with steps of one copy and
steps that all take at once, each its own part of it. A run of all of them
is, of each copy, a run of its own (`run_own`, `reaches_own`): the steps of
the others are left out of its schedule. So what is proved of one copy with
the common steps holds of each.

# Sections

  - simulation
  - replays
  - the systems
  - projection
-/
import RivetKit.Lib.System

namespace Transition

universe u v w x

section

variable {σ : Type u} {α : Type v} {τ : Type w} {β : Type x}

-- ============================================================== simulation

/-- The specification simulates `sys` along `f`. -/
structure Simulates (sys : System σ α) (spec : System τ β) (f : σ → τ) :
    Prop where
  init : ∀ s, sys.init s → spec.init (f s)
  step : ∀ s a s', sys.Reachable s → spec.Reachable (f s) →
    sys.step s a = some s' → ∃ bs, spec.run (f s) bs = some (f s')

namespace Simulates

variable {sys : System σ α} {spec : System τ β} {f : σ → τ}

/-- The image of what is reached is reached. -/
theorem reachable (h : Simulates sys spec f) {s : σ}
    (hs : sys.Reachable s) : spec.Reachable (f s) := by
  induction hs with
  | init hinit => exact .init (h.init _ hinit)
  | step a hr _ hstep ih =>
      obtain ⟨bs, hrun⟩ := h.step _ a _ hr ih hstep
      exact ih.run bs hrun

/-- An invariant of the specification holds along `f`. -/
theorem invariant (h : Simulates sys spec f) {P : τ → Prop}
    (hP : ∀ t, spec.Reachable t → P t) {s : σ} (hs : sys.Reachable s) :
    P (f s) :=
  hP (f s) (h.reachable hs)

end Simulates

-- ================================================================= replays

variable {sys : System σ α} {s s' s'' : σ} {a b : α}

/-- A replay of one step. -/
theorem System.run_one (h : sys.step s a = some s') :
    sys.run s [a] = some s' := by
  simp only [System.run, h]

/-- A replay of two. -/
theorem System.run_two (h : sys.step s a = some s')
    (h' : sys.step s' b = some s'') : sys.run s [a, b] = some s'' := by
  simp only [System.run, h, h']

end

namespace System

variable {σ : Type u} {α : Type v} {β : Type w}

-- ============================================================= the systems

/-- A copy with its own steps and the common ones. -/
def withAll (sys : System σ α) (all : σ → β → σ) : System σ (α ⊕ β) where
  init := sys.init
  step s
    | .inl a => sys.step s a
    | .inr b => some (all s b)

/-- A step of the copy `i`, or of all. -/
inductive Joint (α : Type v) (β : Type w)
  | one (i : Nat) (a : α)
  | all (b : β)

/-- One step of all copies. -/
def jointStep (sys : System σ α) (all : Nat → σ → β → σ) (ss : List σ) :
    Joint α β → Option (List σ)
  | .one i a =>
      match ss[i]? with
      | some s => (sys.step s a).map (ss.set i)
      | none => none
  | .all b => some (ss.mapIdx fun i s => all i s b)

/-- The copies beside each other. -/
def parallel (sys : System σ α) (all : Nat → σ → β → σ) :
    System (List σ) (Joint α β) where
  init ss := ∀ s ∈ ss, sys.init s
  step := jointStep sys all

/-- What of a step the copy `i` takes. -/
def Joint.own (i : Nat) : Joint α β → Option (α ⊕ β)
  | .one j a => if j = i then some (.inl a) else none
  | .all b => some (.inr b)

/-- The schedule of the copy `i`. -/
def own (i : Nat) (as : List (Joint α β)) : List (α ⊕ β) :=
  as.filterMap (Joint.own i)

/-- A guard of the copy `i`. -/
def OfCopy (i : Nat) (ok : σ → α ⊕ β → Prop) (ss : List σ)
    (a : Joint α β) : Prop :=
  ∀ s, ss[i]? = some s → ∀ b, a.own i = some b → ok s b

-- ============================================================== projection

variable {sys : System σ α} {all : Nat → σ → β → σ}

/-- One step, seen from one copy: its own step, or none. -/
theorem step_own {ss ss' : List σ} {a : Joint α β} {i : Nat} {s : σ}
    (h : (sys.parallel all).step ss a = some ss') (hs : ss[i]? = some s) :
    (∃ b s', a.own i = some b ∧ (sys.withAll (all i)).step s b = some s'
        ∧ ss'[i]? = some s')
      ∨ a.own i = none ∧ ss'[i]? = some s := by
  cases a with
  | all b =>
      obtain rfl := Option.some.inj h
      refine .inl ⟨.inr b, all i s b, rfl, rfl, ?_⟩
      rw [List.getElem?_mapIdx, hs]
      rfl
  | one j a =>
      simp only [parallel, jointStep] at h
      cases hj : ss[j]? with
      | none =>
          rw [hj] at h
          cases h
      | some t =>
          rw [hj] at h
          obtain ⟨t', hstep, rfl⟩ := Option.map_eq_some_iff.1 h
          by_cases hij : j = i
          · subst hij
            obtain rfl := Option.some.inj (hj.symm.trans hs)
            refine .inl ⟨.inl a, t', if_pos rfl, hstep, ?_⟩
            exact List.getElem?_set_self (List.getElem?_eq_some_iff.1 hs).1
          · refine .inr ⟨if_neg hij, ?_⟩
            rw [List.getElem?_set_ne hij]
            exact hs

/-- A run of all copies is a run of each. -/
theorem run_own {i : Nat} {as : List (Joint α β)} :
    ∀ {ss ss' : List σ} {s : σ}, (sys.parallel all).run ss as = some ss' →
      ss[i]? = some s →
      ∃ s', ss'[i]? = some s'
        ∧ (sys.withAll (all i)).run s (own i as) = some s' := by
  induction as with
  | nil =>
      intro ss ss' s hrun hs
      obtain rfl := Option.some.inj hrun
      exact ⟨s, hs, rfl⟩
  | cons a as ih =>
      intro ss ss' s hrun hs
      obtain ⟨ss₁, hstep, hrun⟩ := run_cons hrun
      rcases step_own hstep hs with ⟨b, s₁, hown, hstep₁, hs₁⟩ | ⟨hown, hs₁⟩
      · obtain ⟨s', hs', hrun'⟩ := ih hrun hs₁
        refine ⟨s', hs', ?_⟩
        rw [own, List.filterMap_cons_some hown, run, hstep₁]
        exact hrun'
      · rw [own, List.filterMap_cons_none hown]
        exact ih hrun hs₁

/-- And its guards are kept. -/
theorem runOk_own {i : Nat} {ok : σ → α ⊕ β → Prop}
    {as : List (Joint α β)} :
    ∀ {ss ss' : List σ} {s : σ}, (sys.parallel all).run ss as = some ss' →
      (sys.parallel all).RunOk (OfCopy i ok) ss as → ss[i]? = some s →
      (sys.withAll (all i)).RunOk ok s (own i as) := by
  induction as with
  | nil => exact fun _ _ _ => trivial
  | cons a as ih =>
      intro ss ss' s hrun hok hs
      obtain ⟨ss₁, hstep, hrun⟩ := run_cons hrun
      simp only [RunOk, hstep] at hok
      rcases step_own hstep hs with ⟨b, s₁, hown, hstep₁, hs₁⟩ | ⟨hown, hs₁⟩
      · rw [own, List.filterMap_cons_some hown]
        simp only [RunOk, hstep₁]
        exact ⟨hok.1 s hs b hown, ih hrun hok.2 hs₁⟩
      · rw [own, List.filterMap_cons_none hown]
        exact ih hrun hok.2 hs₁

/-- What all copies reach, each reaches. -/
theorem reaches_own {i : Nat} {ok : σ → α ⊕ β → Prop} {ss : List σ}
    (h : (sys.parallel all).Reaches (OfCopy i ok) ss) :
    ∀ {s : σ}, ss[i]? = some s →
      (sys.withAll (all i)).Reaches ok s := by
  induction h with
  | init hinit =>
      intro s hs
      exact .init (hinit s (List.mem_of_getElem? hs))
  | @step ss ss' a hr hok hstep ih =>
      intro s' hs'
      -- the copy has been there before
      have hlength : ss'.length = ss.length := by
        cases a with
        | all b =>
            obtain rfl := Option.some.inj hstep
            exact List.length_mapIdx
        | one j a =>
            simp only [parallel, jointStep] at hstep
            cases hj : ss[j]? with
            | none =>
                rw [hj] at hstep
                cases hstep
            | some t =>
                rw [hj] at hstep
                obtain ⟨t', -, rfl⟩ := Option.map_eq_some_iff.1 hstep
                exact List.length_set
      have hlt : i < ss.length := by
        rw [← hlength]
        exact (List.getElem?_eq_some_iff.1 hs').1
      have hs : ss[i]? = some ss[i] := List.getElem?_eq_getElem hlt
      rcases step_own hstep hs with ⟨b, s₁, hown, hstep₁, hs₁⟩ | ⟨-, hs₁⟩
      · obtain rfl := Option.some.inj (hs₁.symm.trans hs')
        exact .step b (ih hs) (hok _ hs b hown) hstep₁
      · obtain rfl := Option.some.inj (hs₁.symm.trans hs')
        exact ih hs

end System

end Transition
