/-
What a `SinglePromiseQueue` keeps over every run.

# The invariant

`Inv` has three parts. `single` and `queue` are about the fields alone:
one loop at most, and the resolver discipline of `SinglePromiseQueue`,
which says that a promise that is handed out by a later call is not
resolved yet. `history` relates the operations to the loop: what began
is what ended and what runs, in the order of the calls, and behind them
there is at most the one that is queued. `served` relates the promises
to the operations: a loop with the promise of a call has that call's
operation or a later one.

# Where an operation is dropped

Only `enqueue` drops one, the one that is queued. The last call's is
never dropped, which is `History.last`, and as the `while` ends only
with nothing queued, it is what the last loop ran.
-/
import RivetKit.Utils.DrainLoops

namespace RivetKit.Utils.DrainLoops

open Transition

-- ============================================================ the invariant

/-- The operations that began, that ended, and that wait. -/
structure History (s : DrainLoops) : Prop where
  order : s.started = s.ended ++ s.running
  increasing : s.started.Pairwise (· < ·)
  enqueued : ∀ op ∈ s.started, op < s.calls.length
  queued : ∀ op, s.queuedOp = some op →
    op + 1 = s.calls.length ∧ op ∉ s.started
  last : s.queuedOp = none → ∀ k, k + 1 = s.calls.length →
    s.started.getLast? = some k

/-- The promises of the calls: which operations they wait for, and where
they are until they are resolved. -/
structure Served (s : DrainLoops) : Prop where
  resolved : ∀ k p, s.calls[k]? = some p → p ∈ s.resolved →
    ∃ op ∈ s.ended, k ≤ op
  held : ∀ k p, s.calls[k]? = some p → ∀ loop ∈ s.loops,
    loop.resolver = some p → k ≤ loop.op
  ended : ∀ loop ∈ s.loops, loop.ended = true → loop.op ∈ s.ended
  somewhere : ∀ p ∈ s.calls, p ∈ s.resolved ∨ s.pending = some p
    ∨ ∃ loop ∈ s.loops, loop.resolver = some p
  allocated : ∀ p ∈ s.calls, p < s.allocated

structure Inv (s : DrainLoops) : Prop where
  single : s.Single
  queue : s.abs.WellFormed
  history : s.History
  served : s.Served

/-- A new queue. -/
theorem inv_empty : Inv {} where
  single := .inl ⟨rfl, rfl⟩
  queue := SinglePromiseQueue.wellFormed_empty
  history := by constructor <;> simp [running]
  served := by constructor <;> simp

/-- Nothing waits when no loop runs. -/
theorem Inv.idle {s : DrainLoops} (h : s.Inv) (hloops : s.loops = []) :
    s.runningDrainLoop = false ∧ s.queuedOp = none ∧ s.pending = none := by
  have hnone : s.abs.runningDrainLoop = none := by simp [abs, hloops]
  have hqueued : s.queuedOp = none := by
    have hsome := h.queue.queued_running
    rw [hnone] at hsome
    simpa [abs] using hsome
  have hpending : s.pending = none := by
    have hsame := h.queue.queued_pending
    rw [show s.abs.queuedOp = none from hqueued] at hsame
    simpa [abs] using hsame
  refine ⟨?_, hqueued, hpending⟩
  rcases h.single with ⟨_, hrunning⟩ | ⟨loop, hloop, _⟩
  · exact hrunning
  · rw [hloops] at hloop
    cases hloop

/-- The promise of the next call is not resolved. -/
theorem Inv.next_unresolved {s : DrainLoops} (h : s.Inv) :
    s.pending.getD s.allocated ∉ s.resolved := by
  intro hmem
  cases hp : s.pending with
  | none =>
      rw [hp] at hmem
      exact Nat.lt_irrefl _ (h.queue.resolved_lt _ hmem)
  | some p =>
      rw [hp] at hmem
      exact (h.queue.pending_fresh p hp).2 hmem

/-- No loop holds it. -/
theorem Inv.next_unheld {s : DrainLoops} (h : s.Inv) {loop : SuspendedLoop}
    (hloops : s.loops = [loop]) :
    loop.resolver ≠ some (s.pending.getD s.allocated) := by
  obtain ⟨r, hr, hlt, _, hne⟩ :=
    h.queue.running_resolver ⟨loop.op, loop.resolver⟩ (by simp [abs, hloops])
  have hr : loop.resolver = some r := hr
  have hlt : r < s.allocated := hlt
  have hne : s.pending ≠ some r := hne
  rw [hr]
  intro heq
  have heq : r = s.pending.getD s.allocated := Option.some.inj heq
  cases hp : s.pending with
  | none =>
      rw [hp] at heq
      simp only [Option.getD_none] at heq
      omega
  | some p =>
      rw [hp] at heq hne
      exact hne (by rw [heq]; rfl)

-- ================================================================= enqueue

/-- With no loop the operation begins. -/
theorem enqueue_idle {s : DrainLoops} (h : s.Inv) (hloops : s.loops = []) :
    s.enqueue = { s with
      loops := [{ op := s.calls.length, resolver := some s.allocated }]
      runningDrainLoop := true
      allocated := s.allocated + 1
      calls := s.calls ++ [s.allocated]
      started := s.started ++ [s.calls.length] } := by
  obtain ⟨hrunning, hqueued, hpending⟩ := h.idle hloops
  simp [enqueue, drainLoop, hrunning, hqueued, hpending, hloops]

/-- With a loop it is queued. -/
theorem enqueue_busy {s : DrainLoops} {loop : SuspendedLoop} (h : s.Inv)
    (hloops : s.loops = [loop]) :
    s.enqueue = { s with
      queuedOp := some s.calls.length
      pending := some (s.pending.getD s.allocated)
      allocated := if s.pending.isSome then s.allocated else s.allocated + 1
      calls := s.calls ++ [s.pending.getD s.allocated] } := by
  rcases h.single with ⟨hnil, _⟩ | ⟨_, _, hrunning⟩
  · rw [hloops] at hnil
    cases hnil
  · simp [enqueue, hrunning]

/-- The calls and the one behind them. -/
theorem getElem?_calls {calls : List Nat} {p q k : Nat}
    (h : (calls ++ [p])[k]? = some q) :
    calls[k]? = some q ∨ (k = calls.length ∧ q = p) := by
  rcases Nat.lt_trichotomy k calls.length with hlt | heq | hgt
  · rw [List.getElem?_append_left hlt] at h
    exact .inl h
  · subst heq
    rw [List.getElem?_concat_length] at h
    exact .inr ⟨rfl, (Option.some.inj h).symm⟩
  · rw [List.getElem?_eq_none (by simp; omega)] at h
    cases h

/-- A place of the calls is one of theirs. -/
theorem lt_of_getElem? {calls : List Nat} {q k : Nat}
    (h : calls[k]? = some q) : k < calls.length :=
  (List.getElem?_eq_some_iff.mp h).1

theorem History.enqueue {s : DrainLoops} (h : s.Inv) : s.enqueue.History := by
  rcases h.single with ⟨hloops, _⟩ | ⟨loop, hloops, _⟩
  · obtain ⟨_, hqueued, _⟩ := h.idle hloops
    rw [enqueue_idle h hloops]
    have hrun : s.running = [] := by simp [running, hloops]
    refine ⟨?_, ?_, ?_, ?_, ?_⟩
    · rw [show s.started = s.ended by simpa [hrun] using h.history.order]
      simp [running]
    · refine List.pairwise_append.mpr
        ⟨h.history.increasing, List.pairwise_singleton _ _, ?_⟩
      intro op hop op' hop'
      rw [List.mem_singleton.mp hop']
      exact h.history.enqueued op hop
    · intro op hop
      simp only [List.length_append, List.length_singleton]
      rcases List.mem_append.mp hop with hop | hop
      · have := h.history.enqueued op hop
        omega
      · rw [List.mem_singleton.mp hop]
        omega
    · intro op hop
      rw [show s.queuedOp = some op from hop] at hqueued
      cases hqueued
    · intro _ k hk
      simp only [List.length_append, List.length_singleton] at hk
      rw [List.getLast?_concat, show k = s.calls.length by omega]
  · rw [enqueue_busy h hloops]
    refine ⟨h.history.order, h.history.increasing, ?_, ?_, ?_⟩
    · intro op hop
      have := h.history.enqueued op hop
      simp only [List.length_append, List.length_singleton]
      omega
    · intro op hop
      obtain rfl := Option.some.inj hop
      refine ⟨by simp, ?_⟩
      intro hmem
      exact Nat.lt_irrefl _ (h.history.enqueued _ hmem)
    · intro hnone
      cases hnone

theorem Served.enqueue {s : DrainLoops} (h : s.Inv) : s.enqueue.Served := by
  rcases h.single with ⟨hloops, _⟩ | ⟨loop, hloops, _⟩
  · obtain ⟨_, _, hpending⟩ := h.idle hloops
    have hnew := h.next_unresolved
    rw [hpending] at hnew
    rw [enqueue_idle h hloops]
    refine ⟨?_, ?_, ?_, ?_, ?_⟩
    · intro k p hk hp
      rcases getElem?_calls hk with hk | ⟨_, rfl⟩
      · exact h.served.resolved k p hk hp
      · exact absurd hp hnew
    · intro k p hk loop hloop _
      rw [List.mem_singleton.mp hloop]
      have := lt_of_getElem? hk
      simp only [List.length_append, List.length_singleton] at this
      dsimp only
      omega
    · intro loop hloop hended
      rw [List.mem_singleton.mp hloop] at hended
      cases hended
    · intro p hp
      rcases List.mem_append.mp hp with hp | hp
      · rcases h.served.somewhere p hp with hp | hp | ⟨loop, hloop, _⟩
        · exact .inl hp
        · rw [hpending] at hp
          cases hp
        · rw [hloops] at hloop
          cases hloop
      · rw [List.mem_singleton.mp hp]
        exact .inr (.inr ⟨_, List.mem_singleton.mpr rfl, rfl⟩)
    · intro p hp
      dsimp only
      rcases List.mem_append.mp hp with hp | hp
      · have := h.served.allocated p hp
        omega
      · rw [List.mem_singleton.mp hp]
        omega
  · have hnew := h.next_unresolved
    have hheld := h.next_unheld hloops
    rw [enqueue_busy h hloops]
    refine ⟨?_, ?_, h.served.ended, ?_, ?_⟩
    · intro k p hk hp
      rcases getElem?_calls hk with hk | ⟨_, rfl⟩
      · exact h.served.resolved k p hk hp
      · exact absurd hp hnew
    · intro k p hk loop' hloop' hr
      rcases getElem?_calls hk with hk | ⟨_, rfl⟩
      · exact h.served.held k p hk loop' hloop' hr
      · have hmem : loop' ∈ s.loops := hloop'
        rw [hloops] at hmem
        rw [List.mem_singleton.mp hmem] at hr
        exact absurd hr hheld
    · intro p hp
      rcases List.mem_append.mp hp with hp | hp
      · rcases h.served.somewhere p hp with hp | hp | hp
        · exact .inl hp
        · exact .inr (.inl (by rw [hp]; rfl))
        · exact .inr (.inr hp)
      · rw [List.mem_singleton.mp hp]
        exact .inr (.inl rfl)
    · intro p hp
      cases hpending : s.pending with
      | none =>
          rw [hpending] at hp
          rcases List.mem_append.mp hp with hp | hp
          · have := h.served.allocated p hp
            simp only [Option.isSome_none, Bool.false_eq_true, if_false]
            omega
          · rw [List.mem_singleton.mp hp]
            simp
      | some q =>
          rw [hpending] at hp
          rcases List.mem_append.mp hp with hp | hp
          · exact h.served.allocated p hp
          · rw [List.mem_singleton.mp hp]
            exact (h.queue.pending_fresh q hpending).1

theorem Inv.enqueue {s : DrainLoops} (h : s.Inv) : s.enqueue.Inv where
  single := (enqueue_abs h.single).2.2
  queue := by
    rw [(enqueue_abs h.single).1]
    exact h.queue.enqueue _
  history := .enqueue h
  served := .enqueue h

-- ==================================================== an operation that ends

/-- Only the record of the one loop changes. -/
theorem Inv.endOp {s s' : DrainLoops} {i : Nat} (h : s.Inv)
    (hs : s.endOp i = some s') : s'.Inv := by
  obtain ⟨loop, hloops, hended, rfl⟩ := endOp_abs h.single hs
  have hmem : loop ∈ s.loops := by simp [hloops]
  refine ⟨?_, ?_, ?_, ?_⟩
  · rcases h.single with ⟨hnil, _⟩ | ⟨_, _, hrunning⟩
    · rw [hloops] at hnil
      cases hnil
    · exact .inr ⟨_, rfl, hrunning⟩
  · have hsame : s.abs.WellFormed := h.queue
    simpa [abs, hloops] using hsame
  · have horder := h.history.order
    rw [show s.running = [loop.op] by simp [running, hloops, hended]] at horder
    exact ⟨by simp [running, horder], h.history.increasing,
      h.history.enqueued, h.history.queued, h.history.last⟩
  · refine ⟨?_, ?_, ?_, ?_, h.served.allocated⟩
    · intro k p hk hp
      obtain ⟨op, hop, hle⟩ := h.served.resolved k p hk hp
      exact ⟨op, List.mem_append_left _ hop, hle⟩
    · intro k p hk loop' hloop' hr
      rw [List.mem_singleton.mp hloop'] at hr ⊢
      exact h.served.held k p hk loop hmem hr
    · intro loop' hloop' _
      rw [List.mem_singleton.mp hloop']
      exact List.mem_append_right _ (List.mem_singleton.mpr rfl)
    · intro p hp
      rcases h.served.somewhere p hp with hp | hp | ⟨loop', hloop', hr⟩
      · exact .inl hp
      · exact .inr (.inl hp)
      · rw [hloops] at hloop'
        rw [List.mem_singleton.mp hloop'] at hr
        exact .inr (.inr ⟨_, List.mem_singleton.mpr rfl, hr⟩)

-- ======================================================= a loop that goes on

/-- The `while` behind an operation that ended, with an operation to take
and without. -/
theorem resume_cases {s s' : DrainLoops} {i : Nat} (h : s.Inv)
    (hs : s.resume i = some s') :
    ∃ loop, s.loops = [loop] ∧ loop.ended = true ∧
      ((∃ op, s.queuedOp = some op ∧ s' = { s with
          queuedOp := none
          pending := none
          loops := [{ op, resolver := s.pending }]
          resolved := loop.resolver.toList ++ s.resolved
          started := s.started ++ [op] })
        ∨ (s.queuedOp = none ∧ s' = { s with
          runningDrainLoop := false
          loops := []
          resolved := loop.resolver.toList ++ s.resolved })) := by
  obtain ⟨loop, hloops, hended, hs', _⟩ := resume_abs h.single hs
  refine ⟨loop, hloops, hended, ?_⟩
  cases hq : s.queuedOp with
  | none =>
      right
      refine ⟨rfl, ?_⟩
      rw [hs']
      simp [drainLoop, hq]
  | some op =>
      left
      refine ⟨op, rfl, ?_⟩
      rw [hs']
      simp [drainLoop, hq]

theorem History.resume {s s' : DrainLoops} {i : Nat} (h : s.Inv)
    (hs : s.resume i = some s') : s'.History := by
  obtain ⟨loop, hloops, hended, ⟨op, hqueued, rfl⟩ | ⟨hqueued, rfl⟩⟩ :=
    resume_cases h hs
  all_goals
    have hrun : s.started = s.ended := by
      simpa [running, hloops, hended] using h.history.order
  · obtain ⟨hlast, hfresh⟩ := h.history.queued op hqueued
    refine ⟨by simp [running, hrun], ?_, ?_, by simp, ?_⟩
    · refine List.pairwise_append.mpr
        ⟨h.history.increasing, List.pairwise_singleton _ _, ?_⟩
      intro op' hop' op'' hop''
      rw [List.mem_singleton.mp hop'']
      have hlt := h.history.enqueued op' hop'
      have hne : op' ≠ op := fun heq => hfresh (heq ▸ hop')
      omega
    · intro op' hop'
      rcases List.mem_append.mp hop' with hop' | hop'
      · exact h.history.enqueued op' hop'
      · rw [List.mem_singleton.mp hop']
        dsimp only
        omega
    · intro _ k hk
      rw [List.getLast?_concat, show op = k by dsimp only at hk; omega]
  · exact ⟨by simp [running, hrun], h.history.increasing,
      h.history.enqueued, by simp [hqueued], fun _ => h.history.last hqueued⟩

theorem Served.resume {s s' : DrainLoops} {i : Nat} (h : s.Inv)
    (hs : s.resume i = some s') : s'.Served := by
  obtain ⟨loop, hloops, hended, hcases⟩ := resume_cases h hs
  have hmem : loop ∈ s.loops := by simp [hloops]
  have hresolved : ∀ k p, s.calls[k]? = some p →
      p ∈ loop.resolver.toList ++ s.resolved → ∃ op ∈ s.ended, k ≤ op := by
    intro k p hk hp
    rcases List.mem_append.mp hp with hp | hp
    · have hr : loop.resolver = some p := by simpa using hp
      exact ⟨loop.op, h.served.ended loop hmem hended,
        h.served.held k p hk loop hmem hr⟩
    · exact h.served.resolved k p hk hp
  have hplaces : ∀ p ∈ s.calls,
      p ∈ loop.resolver.toList ++ s.resolved ∨ s.pending = some p := by
    intro p hp
    rcases h.served.somewhere p hp with hp | hp | ⟨loop', hloop', hr⟩
    · exact .inl (List.mem_append_right _ hp)
    · exact .inr hp
    · rw [hloops] at hloop'
      rw [List.mem_singleton.mp hloop'] at hr
      exact .inl (List.mem_append_left _ (by simp [hr]))
  rcases hcases with ⟨op, hqueued, rfl⟩ | ⟨hqueued, rfl⟩
  · obtain ⟨hlast, _⟩ := h.history.queued op hqueued
    refine ⟨hresolved, ?_, ?_, ?_, h.served.allocated⟩
    · intro k p hk loop' hloop' _
      rw [List.mem_singleton.mp hloop']
      have hlt : k < s.calls.length := lt_of_getElem? hk
      dsimp only
      omega
    · intro loop' hloop' hended'
      rw [List.mem_singleton.mp hloop'] at hended'
      cases hended'
    · intro p hp
      rcases hplaces p hp with hp | hp
      · exact .inl hp
      · exact .inr (.inr ⟨_, List.mem_singleton.mpr rfl, hp⟩)
  · refine ⟨hresolved, by simp, by simp, ?_, h.served.allocated⟩
    intro p hp
    rcases hplaces p hp with hp | hp
    · exact .inl hp
    · exact .inr (.inl hp)

theorem Inv.resume {s s' : DrainLoops} {i : Nat} (h : s.Inv)
    (hs : s.resume i = some s') : s'.Inv := by
  obtain ⟨loop, hloops, hended, hs', habs⟩ := resume_abs h.single hs
  refine ⟨?_, ?_, .resume h hs, .resume h hs⟩
  · rcases h.single with ⟨hnil, _⟩ | ⟨_, _, hrunning⟩
    · rw [hloops] at hnil
      cases hnil
    · rw [hs']
      exact single_drainLoop rfl hrunning
  · rw [habs]
    exact h.queue.settle

-- ================================================================= the runs

/-- What a step keeps. -/
theorem Inv.step {s s' : DrainLoops} {a : DrainStep} (h : s.Inv)
    (hs : drainSystem.step s a = some s') : s'.Inv := by
  cases a with
  | enqueue =>
      obtain rfl := Option.some.inj hs
      exact h.enqueue
  | endOp i => exact h.endOp hs
  | resume i => exact h.resume hs

theorem inv_of_reachable {s : DrainLoops} (h : drainSystem.Reachable s) :
    s.Inv :=
  h.invariant (fun _ hs => hs ▸ inv_empty) fun _ _ _ _ hinv _ => hinv.step

/-- The queue coalesces: one operation runs at a time, in the order of the
calls; a promise is resolved behind an operation of its call or of a
later one; an operation that did not begin and is not queued was not the
last; and when there is no loop the last one ended behind all others,
nothing is unresolved, and the next call begins a new loop. -/
structure Coalesces (s : DrainLoops) : Prop where
  single : s.loops.length ≤ 1 ∧ s.running.length ≤ 1
  order : s.started = s.ended ++ s.running ∧ s.started.Pairwise (· < ·)
    ∧ ∀ op ∈ s.started, op < s.calls.length
  resolved : ∀ k p, s.calls[k]? = some p → p ∈ s.resolved →
    ∃ op ∈ s.ended, k ≤ op
  dropped : ∀ k < s.calls.length, k ∉ s.started → s.queuedOp ≠ some k →
    k + 1 < s.calls.length
  idle : s.loops = [] →
    s.queuedOp = none ∧ s.pending = none ∧ s.runningDrainLoop = false
      ∧ (∀ p ∈ s.calls, p ∈ s.resolved)
      ∧ (∀ k, k + 1 = s.calls.length → s.ended.getLast? = some k)
      ∧ s.enqueue.running = [s.calls.length]

/-- In every state of every run. -/
theorem coalesces {s : DrainLoops} (h : drainSystem.Reachable s) :
    Coalesces s := by
  have hinv := inv_of_reachable h
  have hone : s.loops.length ≤ 1 := by
    rcases hinv.single with ⟨hloops, _⟩ | ⟨loop, hloops, _⟩ <;> simp [hloops]
  refine ⟨⟨hone, ?_⟩, ⟨hinv.history.order, hinv.history.increasing,
    hinv.history.enqueued⟩, hinv.served.resolved, ?_, ?_⟩
  · unfold running
    rw [List.length_map]
    exact Nat.le_trans (List.length_filter_le _ _) hone
  · intro k hk hstarted hqueued
    cases hq : s.queuedOp with
    | none =>
        by_cases hlast : k + 1 = s.calls.length
        · exact absurd (List.mem_of_getLast? (hinv.history.last hq k hlast))
            hstarted
        · omega
    | some op =>
        have hop := (hinv.history.queued op hq).1
        have hne : op ≠ k := fun heq => hqueued (heq ▸ hq)
        omega
  · intro hloops
    obtain ⟨hrunning, hqueued, hpending⟩ := hinv.idle hloops
    refine ⟨hqueued, hpending, hrunning, ?_, ?_, ?_⟩
    · intro p hp
      rcases hinv.served.somewhere p hp with hp | hp | ⟨loop, hloop, _⟩
      · exact hp
      · rw [hpending] at hp
        cases hp
      · rw [hloops] at hloop
        cases hloop
    · intro k hk
      have hsame : s.started = s.ended := by
        simpa [running, hloops] using hinv.history.order
      rw [← hsame]
      exact hinv.history.last hqueued k hk
    · rw [enqueue_idle hinv hloops]
      simp [running]

/-- Three calls, the second one dropped, until there is no loop. -/
theorem coalesces_three :
    Coalesces (((drainSystem.run {} [.enqueue, .enqueue, .enqueue, .endOp 0,
      .resume 0, .endOp 0, .resume 0]).getD {})) :=
  coalesces (System.Reachable.run
    [.enqueue, .enqueue, .enqueue, .endOp 0, .resume 0, .endOp 0, .resume 0]
    (.init rfl) (by decide))

end RivetKit.Utils.DrainLoops
