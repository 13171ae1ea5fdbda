/-
What reaches the driver: a part of the record that differs from the
newest snapshot is flagged, and a write that will contain it is queued
or its timer armed.

`view` picks the part, and `good` says which records can be encoded. The
save path never looks inside the record, so the argument is the same for
every part; it needs three things from outside it: a mutation that
changes the part finds the flag set with a write owed, records stay
good, and the writes of good records succeed.

# Two strengths

A mutation and the save that follows it are two calls in the source.
Between them the part may be flagged with nothing owed yet: `DirtyInv`
is the invariant without the debt, `FlushInv` with it.
`#savePersistInner` leads from the first to the second.
-/
import RivetKit.Actor.Proofs.Writes

namespace RivetKit.Actor

open Transition
open Utils
open Js

universe u v

variable {R : Type u} {β : Type v} {opts : ActorOptions}

namespace ActorInstance

-- ================================================ statement vocabulary

/-- The record the newest operation converted: that of the running
write, else the one stored. -/
def newest (s : ActorInstance R) : R :=
  match s.write with
  | some w => w.snapshot.persist
  | none => s.stored.persist

/-- The save timer is armed. -/
def TimerArmed (s : ActorInstance R) : Prop :=
  s.pendingSaveTimeout.any (fun t => !t.cleared) = true

/-- A write that has not taken its snapshot yet is certain to come. -/
def Owed (s : ActorInstance R) : Prop :=
  s.persistWriteQueue.queuedOp.isSome = true ∨ s.TimerArmed

/-- No write is queued or in flight and no save timer is armed. -/
def Quiescent (s : ActorInstance R) : Prop :=
  s.persistWriteQueue.queuedOp.isSome = false
    ∧ (∀ w, s.write = some w → w.phase ≠ .inFlight) ∧ ¬ s.TimerArmed

instance (s : ActorInstance R) : Decidable s.TimerArmed :=
  inferInstanceAs (Decidable (_ = _))

instance (s : ActorInstance R) : Decidable s.Owed :=
  inferInstanceAs (Decidable (_ ∨ _))

-- ======================================================= the invariant

/-- A part of the record that the newest snapshot lacks is flagged. -/
structure DirtyInv (good : R → Prop) (view : R → β) (s : ActorInstance R) :
    Prop extends WriteInv s where
  raw_good : good s.persistRaw
  write_good : ∀ w, s.write = some w → good w.snapshot.persist
  settled_stored : ∀ w ok, s.write = some w → w.phase = .settled ok →
    s.stored.persist = w.snapshot.persist
  flagged : view s.persistRaw ≠ view s.newest → s.persistChanged = true

/-- A part of the record that the newest snapshot lacks is flagged and a
write is owed. -/
structure FlushInv (good : R → Prop) (view : R → β) (s : ActorInstance R) :
    Prop extends DirtyInv good view s where
  owed : view s.persistRaw ≠ view s.newest → s.Owed

variable {good : R → Prop} {view : R → β}

/-- The instance as `#initialize` leaves it. -/
theorem flushInv_initialized {r : R} (hr : good r) :
    FlushInv good view (ActorInstance.initialized r) := by
  refine ⟨⟨writeInv_initialized r, hr, ?_, ?_, ?_⟩, ?_⟩
  · intro w hw
    cases hw
  · intro w ok hw
    cases hw
  · intro hne
    exact absurd rfl hne
  · intro hne
    exact absurd rfl hne

/-- In a quiescent state everything in view is stored. -/
theorem FlushInv.stored {s : ActorInstance R} (h : FlushInv good view s)
    (hq : s.Quiescent) : view s.persistRaw = view s.stored.persist := by
  obtain ⟨hqueue, hflight, htimer⟩ := hq
  have hnewest : s.newest = s.stored.persist := by
    unfold newest
    split
    case h_1 w hw =>
      have hphase := hflight w hw
      cases hp : w.phase with
      | inFlight => exact absurd hp hphase
      | settled ok => exact (h.settled_stored w ok hw hp).symm
    case h_2 => rfl
  rw [← hnewest]
  apply Classical.byContradiction
  intro hne
  rcases h.owed hne with hslot | harmed
  · rw [hqueue] at hslot
    cases hslot
  · exact htimer harmed

-- ============================================== the invariant, per effect

/-- The invariant reads what `WriteInv` reads, the record and the save
timer. -/
theorem FlushInv.congr {s s' : ActorInstance R} (h : FlushInv good view s)
    (hqueue : s'.persistWriteQueue = s.persistWriteQueue)
    (hwrite : s'.write = s.write) (hstored : s'.stored = s.stored)
    (hchanges : s'.changes = s.changes)
    (hchanged : s'.persistChanged = s.persistChanged)
    (hfailed : s'.lastWriteFailed = s.lastWriteFailed)
    (hraw : s'.persistRaw = s.persistRaw)
    (htimer : s'.pendingSaveTimeout = s.pendingSaveTimeout) :
    FlushInv good view s' := by
  have hnewest : s'.newest = s.newest := by
    unfold newest
    rw [hwrite, hstored]
  refine ⟨⟨h.toWriteInv.congr hqueue hwrite hstored hchanges hchanged
    hfailed, ?_, ?_, ?_, ?_⟩, ?_⟩
  · rw [hraw]
    exact h.raw_good
  · rw [hwrite]
    exact h.write_good
  · rw [hwrite, hstored]
    exact h.settled_stored
  · rw [hraw, hnewest, hchanged]
    exact h.flagged
  · unfold Owed TimerArmed
    rw [hraw, hnewest, hqueue, htimer]
    exact h.owed

/-- The save timer is no part of `DirtyInv`. -/
theorem DirtyInv.setTimeout {s : ActorInstance R} (h : DirtyInv good view s)
    (timeout : Option SaveTimeout) (last : Int) :
    DirtyInv good view
      { s with pendingSaveTimeout := timeout, lastSaveTime := last } :=
  ⟨h.toWriteInv.congr rfl rfl rfl rfl rfl rfl, h.raw_good, h.write_good,
    h.settled_stored, h.flagged⟩

/-- A mutation that leaves the part alone, or finds the flag set. -/
theorem DirtyInv.mutate {s : ActorInstance R} (h : DirtyInv good view s)
    {f : R → R} (hgood : good (f s.persistRaw))
    (hf : view (f s.persistRaw) ≠ view s.persistRaw →
      s.persistChanged = true) :
    DirtyInv good view { s with persistRaw := f s.persistRaw } := by
  refine ⟨h.toWriteInv.congr rfl rfl rfl rfl rfl rfl, hgood, h.write_good,
    h.settled_stored, ?_⟩
  intro hne
  by_cases hview : view (f s.persistRaw) = view s.persistRaw
  · exact h.flagged fun heq => hne (hview.trans heq)
  · exact hf hview

/-- A mutation that leaves the part alone, or finds the flag set and a
write owed. -/
theorem FlushInv.mutate {s : ActorInstance R} (h : FlushInv good view s)
    {f : R → R} (hgood : good (f s.persistRaw))
    (hf : view (f s.persistRaw) ≠ view s.persistRaw →
      s.persistChanged = true ∧ s.Owed) :
    FlushInv good view { s with persistRaw := f s.persistRaw } := by
  refine ⟨h.toDirtyInv.mutate hgood fun hne => (hf hne).1, ?_⟩
  intro hne
  by_cases hview : view (f s.persistRaw) = view s.persistRaw
  · exact h.owed fun heq => hne (hview.trans heq)
  · exact (hf hview).2

/-- The on-change callback, when the mutation leaves the part alone. -/
theorem FlushInv.onChange {s : ActorInstance R} (h : FlushInv good view s)
    (path : List String) (valid : Bool) {f : R → R}
    (hgood : good (f s.persistRaw))
    (hf : view (f s.persistRaw) = view s.persistRaw) :
    FlushInv good view (s.onChange path valid f) := by
  have hw := h.toWriteInv.onChange path valid f
  have hm := h.mutate hgood fun hne => absurd hf hne
  unfold ActorInstance.onChange at hw ⊢
  by_cases hp : path.head? = some "state" ∧ valid = true
  · rw [if_pos hp] at hw ⊢
    exact ⟨⟨hw, hgood, hm.write_good, hm.settled_stored, fun _ => rfl⟩,
      hm.owed⟩
  · rw [if_neg hp]
    exact hm

/-- `#savePersistInner` clears the debt: the operation starts at once,
or waits in the slot, or nothing was flagged. -/
theorem DirtyInv.savePersistInner {s : ActorInstance R}
    (h : DirtyInv good view s) (call : Option Nat) :
    FlushInv good view (s.savePersistInner call) := by
  have hw := h.toWriteInv.savePersistInner call
  cases hch : s.persistChanged with
  | false =>
      have heq : s.savePersistInner call
          = { s with lastSaveTime := s.now : ActorInstance R }.resolveSaved := by
        simp [ActorInstance.savePersistInner, hch]
      have hclean : view s.persistRaw = view s.newest := by
        apply Classical.byContradiction
        intro hne
        rw [h.flagged hne] at hch
        cases hch
      rw [heq] at hw ⊢
      refine ⟨⟨hw, h.raw_good, h.write_good, h.settled_stored,
        fun hne => ?_⟩, fun hne => ?_⟩
      · exact absurd hclean hne
      · exact absurd hclean hne
  | true =>
      cases hrun : s.persistWriteQueue.runningDrainLoop with
      | none =>
          have heq : s.savePersistInner call
              = ({ s with lastSaveTime := s.now : ActorInstance R }.joinCycle
                  call).startWrite := by
            simp [ActorInstance.savePersistInner, hch, hrun]
          rw [heq] at hw ⊢
          refine ⟨⟨hw, h.raw_good, ?_, ?_, fun hne => absurd rfl hne⟩,
            fun hne => absurd rfl hne⟩
          · intro w hw'
            injection hw' with hw'
            rw [← hw']
            exact h.raw_good
          · intro w ok hw' hph
            injection hw' with hw'
            rw [← hw'] at hph
            cases hph
      | some d =>
          have heq : s.savePersistInner call
              = { s with lastSaveTime := s.now : ActorInstance R }.joinCycle
                  call := by
            simp [ActorInstance.savePersistInner, hch, hrun]
          have hslot : (s.persistWriteQueue.enqueue ()).1.queuedOp.isSome
              = true := by
            rw [SinglePromiseQueue.enqueue_busy hrun]
            rfl
          rw [heq] at hw ⊢
          exact ⟨⟨hw, h.raw_good, h.write_good, h.settled_stored,
            fun _ => hch⟩, fun _ => Or.inl hslot⟩

/-- `#savePersistThrottled`: arm the timer or save now. -/
theorem FlushInv.savePersistThrottled {s : ActorInstance R}
    (h : FlushInv good view s) :
    FlushInv good view (s.savePersistThrottled opts) := by
  unfold ActorInstance.savePersistThrottled
  dsimp only
  split
  · split
    · exact ⟨h.toDirtyInv.setTimeout _ _, fun _ => Or.inr rfl⟩
    · exact h
  · exact h.toDirtyInv.savePersistInner none

/-- A `saveState` that passes the ready check saves at once when asked
to, whatever was owed before. -/
theorem DirtyInv.saveState_immediate {s : ActorInstance R}
    (h : DirtyInv good view s) {o : SaveStateOptions}
    (hready : s.assertReady o.allowStoppingState = true)
    (him : o.immediate = true) :
    FlushInv good view (s.saveState opts o) := by
  have hpush : ∀ phase, DirtyInv good view (s.pushCall phase) := fun phase =>
    ⟨h.toWriteInv.congr rfl rfl rfl rfl rfl rfl, h.raw_good, h.write_good,
      h.settled_stored, h.flagged⟩
  unfold ActorInstance.saveState
  rw [if_pos hready]
  by_cases hch : s.persistChanged = true
  · rw [if_pos hch, if_pos him]
    exact (hpush .awaitInner).savePersistInner _
  · rw [if_neg hch]
    refine ⟨hpush .resolved, fun hne => ?_⟩
    exact absurd (h.flagged hne) hch

/-- `saveState`, along each of its branches. -/
theorem FlushInv.saveState {s : ActorInstance R} (h : FlushInv good view s)
    (o : SaveStateOptions) : FlushInv good view (s.saveState opts o) := by
  have hpush : ∀ phase, FlushInv good view (s.pushCall phase) := fun phase =>
    h.congr rfl rfl rfl rfl rfl rfl rfl rfl
  unfold ActorInstance.saveState
  split
  · split
    · split
      · exact (hpush .awaitInner).toDirtyInv.savePersistInner _
      · refine FlushInv.savePersistThrottled ?_
        exact h.congr rfl rfl rfl rfl rfl rfl rfl rfl
    · exact hpush .resolved
  · exact hpush .rejected

/-- A driver write that succeeds stores its snapshot. -/
theorem FlushInv.driverWrite {s s' : ActorInstance R}
    (h : FlushInv good view s) (hs : s.driverWrite true = some s') :
    FlushInv good view s' := by
  have hw := h.toWriteInv.driverWrite hs
  unfold ActorInstance.driverWrite at hs
  split at hs
  case h_2 => cases hs
  case h_1 sn hsn =>
    injection hs with hs
    rw [← hs] at hw ⊢
    have hnewest : s.newest = sn.persist := by
      unfold newest
      rw [hsn]
    refine ⟨⟨hw, h.raw_good, ?_, ?_, ?_⟩, ?_⟩
    · intro w hw'
      injection hw' with hw'
      rw [← hw']
      exact h.write_good ⟨sn, .inFlight⟩ hsn
    · intro w ok hw' _
      injection hw' with hw'
      rw [← hw']
      rfl
    · intro hne
      refine h.flagged ?_
      rw [hnewest]
      exact hne
    · intro hne
      refine h.owed ?_
      rw [hnewest]
      exact hne

/-- The drain loop resumes: what was running is stored, and the queued
operation, if any, starts. -/
theorem FlushInv.drainLoop {s s' : ActorInstance R} (h : FlushInv good view s)
    (hs : s.drainLoop = some s') : FlushInv good view s' := by
  have hw := h.toWriteInv.drainLoop hs
  unfold ActorInstance.drainLoop at hs
  split at hs
  case h_2 => cases hs
  case h_1 sn ok hsn =>
    injection hs with hs
    cases hslot : s.persistWriteQueue.queuedOp with
    | none =>
        simp only [hslot, Option.isSome_none, Bool.false_eq_true,
          if_false] at hs
        rw [← hs] at hw ⊢
        have hnewest : s.newest = s.stored.persist := by
          unfold newest
          rw [hsn]
          exact (h.settled_stored _ ok hsn rfl).symm
        refine ⟨⟨hw, h.raw_good, ?_, ?_, ?_⟩, ?_⟩
        · intro w hw'
          cases hw'
        · intro w ok' hw'
          cases hw'
        · intro hne
          refine h.flagged ?_
          rw [hnewest]
          exact hne
        · intro hne
          have howed := h.owed (by rw [hnewest]; exact hne)
          rcases howed with hq | harmed
          · rw [hslot] at hq
            cases hq
          · exact Or.inr harmed
    | some op =>
        simp only [hslot, Option.isSome_some, if_true] at hs
        rw [← hs] at hw ⊢
        refine ⟨⟨hw, h.raw_good, ?_, ?_, fun hne => absurd rfl hne⟩,
          fun hne => absurd rfl hne⟩
        · intro w hw'
          injection hw' with hw'
          rw [← hw']
          exact h.raw_good
        · intro w ok' hw' hph
          injection hw' with hw'
          rw [← hw'] at hph
          cases hph

/-- Every step that neither mutates the record, fails a write nor clears
the timer keeps the invariant. -/
theorem FlushInv.saveStep {s s' : ActorInstance R} {a : SaveStep R}
    (h : FlushInv good view s)
    (hmutate : ∀ path valid f, a ≠ .onChange path valid f)
    (hwrite : a ≠ .driverWrite false) (hclear : a ≠ .clearSaveTimeout)
    (hstep : saveStep opts s a = some s') : FlushInv good view s' := by
  cases saveStep_cases hstep with
  | onChange path valid f heq => exact absurd rfl (hmutate path valid f)
  | saveState o heq =>
      rw [heq]
      exact h.saveState o
  | savePersistThrottled heq =>
      rw [heq]
      exact h.savePersistThrottled
  | saveTimeout heq =>
      rw [heq]
      exact (h.toDirtyInv.setTimeout none s.lastSaveTime).savePersistInner
        none
  | driverWrite ok hok =>
      cases ok with
      | false => exact absurd rfl hwrite
      | true => exact h.driverWrite hok
  | drainLoop hdrain => exact h.drainLoop hdrain
  | clearSaveTimeout heq => exact absurd rfl hclear
  | dateNow t heq =>
      rw [heq]
      exact h.congr rfl rfl rfl rfl rfl rfl rfl rfl
  | untouched _ _ hsame =>
      exact h.congr hsame.queue hsame.write hsame.stored hsame.changes
        hsame.flag hsame.failed hsame.persistRaw hsame.timer

end ActorInstance

end RivetKit.Actor
