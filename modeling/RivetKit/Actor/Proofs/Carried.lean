/-
What a step of the save path does to a change that is not stored yet, with
writes that may fail: the change goes along with the pending write, a write
is queued that will take it, or the dirty flag stands for it.

`P` says of a snapshot that it has the change. `SaveEffect` is what a step
does to the four fields that matter, and `saveStep_effect` says so of every
step that neither mutates the record nor clears the timer. A lost change is
a write that fails with nothing else carrying it.
-/
import RivetKit.Actor.Proofs.Flush

namespace RivetKit.Actor

open Transition
open Utils
open Js

universe u

variable {R : Type u} {opts : ActorOptions}

namespace ActorInstance

variable {s s' : ActorInstance R} {P : Snapshot R → Prop}
variable {C fails : Prop}

-- ================================================ statement vocabulary

/-- The snapshot of the write in flight, or what is stored. -/
def pending (s : ActorInstance R) : Snapshot R :=
  match s.write with
  | some ⟨snapshot, .inFlight⟩ => snapshot
  | _ => s.stored

/-- A write is queued. -/
def Queued (s : ActorInstance R) : Prop :=
  s.persistWriteQueue.queuedOp.isSome = true

/-- The pending write has the change, or a queued one will. -/
def Converted (P : Snapshot R → Prop) (s : ActorInstance R) : Prop :=
  P s.pending ∨ s.Queued

/-- Or the flag is set, and `C`. -/
def Carried (P : Snapshot R → Prop) (C : Prop) (s : ActorInstance R) :
    Prop :=
  s.Converted P ∨ s.persistChanged = true ∧ C

theorem Carried.mono {C' : Prop} (h : s.Carried P C) (hc : C → C') :
    s.Carried P C' := by
  rcases h with h | ⟨hflag, h⟩
  · exact Or.inl h
  · exact Or.inr ⟨hflag, hc h⟩

-- ========================================================== the effects

/-- A step that leaves the record, and may be the failure of a write if
`fails`. `kept` may fire a timer when there is nothing to save. -/
inductive SaveEffect (fails : Prop) (s s' : ActorInstance R) : Prop
  | kept : s'.pending = s.pending →
      s'.persistWriteQueue.queuedOp = s.persistWriteQueue.queuedOp →
      s'.persistChanged = s.persistChanged →
      (s.persistChanged = true → s.TimerArmed → s'.TimerArmed) →
      SaveEffect fails s s'
  | converted : s'.pending = s.current → SaveEffect fails s s'
  | queued : s'.Queued → SaveEffect fails s s'
  | failed : fails → s'.pending = s.stored →
      s'.persistWriteQueue.queuedOp = s.persistWriteQueue.queuedOp →
      s'.persistChanged = s.persistChanged →
      s'.pendingSaveTimeout = s.pendingSaveTimeout →
      SaveEffect fails s s'

/-- A step that touches nothing that matters. -/
theorem SaveEffect.of_eq (hwrite : s'.write = s.write)
    (hstored : s'.stored = s.stored)
    (hqueue : s'.persistWriteQueue = s.persistWriteQueue)
    (hflag : s'.persistChanged = s.persistChanged)
    (htimer : s'.pendingSaveTimeout = s.pendingSaveTimeout) :
    SaveEffect fails s s' := by
  refine .kept ?_ (by rw [hqueue]) hflag ?_
  · unfold pending
    rw [hwrite, hstored]
  · intro _ harmed
    unfold TimerArmed
    rw [htimer]
    exact harmed

theorem SaveEffect.mono {fails' : Prop} (h : SaveEffect fails s s')
    (hfails : fails → fails') : SaveEffect fails' s s' := by
  cases h with
  | kept hp hq hf ht => exact .kept hp hq hf ht
  | converted hp => exact .converted hp
  | queued hq => exact .queued hq
  | failed h hp hq hf ht => exact .failed (hfails h) hp hq hf ht

/-- What is carried stays so, unless a write fails that nothing stands
in for. -/
theorem Carried.effect {C' : Prop} (h : s.Carried P C)
    (hP : P s.current) (heffect : SaveEffect fails s s')
    (hfail : fails → P s.stored ∨ s.Queued ∨ s.persistChanged = true ∧ C)
    (hC : s.persistChanged = true → C →
      (s.TimerArmed → s'.TimerArmed) → C') : s'.Carried P C' := by
  cases heffect with
  | kept hpending hqueue hflag htimer =>
      rcases h with (h | h) | ⟨hset, h⟩
      · exact Or.inl (Or.inl (hpending ▸ h))
      · refine Or.inl (Or.inr ?_)
        unfold Queued
        rw [hqueue]
        exact h
      · exact Or.inr ⟨hflag.trans hset, hC hset h (htimer hset)⟩
  | converted hpending => exact Or.inl (Or.inl (hpending ▸ hP))
  | queued hqueued => exact Or.inl (Or.inr hqueued)
  | failed hfails hpending hqueue hflag htimer =>
      rcases hfail hfails with h | h | ⟨hset, h⟩
      · exact Or.inl (Or.inl (hpending ▸ h))
      · refine Or.inl (Or.inr ?_)
        unfold Queued
        rw [hqueue]
        exact h
      · refine Or.inr ⟨hflag.trans hset, hC hset h ?_⟩
        intro harmed
        unfold TimerArmed
        rw [htimer]
        exact harmed

-- ======================================================= the operations

theorem queued_joinCycle {d : DrainLoop Unit}
    (hbusy : s.persistWriteQueue.runningDrainLoop = some d)
    (call : Option Nat) : (s.joinCycle call).Queued := by
  unfold joinCycle Queued
  dsimp only
  rw [SinglePromiseQueue.enqueue_busy hbusy]
  rfl

theorem savePersistInner_of_clear (hflag : s.persistChanged = false)
    (call : Option Nat) :
    s.savePersistInner call
      = { s with lastSaveTime := s.now }.resolveSaved := by
  unfold savePersistInner
  dsimp only
  rw [hflag, if_neg (by simp)]

theorem savePersistInner_of_idle (hflag : s.persistChanged = true)
    (hidle : s.persistWriteQueue.runningDrainLoop = none)
    (call : Option Nat) :
    s.savePersistInner call
      = ({ s with lastSaveTime := s.now }.joinCycle call).startWrite := by
  unfold savePersistInner
  dsimp only
  rw [if_pos hflag, hidle]
  rfl

theorem savePersistInner_of_busy (hflag : s.persistChanged = true)
    {d : DrainLoop Unit}
    (hbusy : s.persistWriteQueue.runningDrainLoop = some d)
    (call : Option Nat) :
    s.savePersistInner call
      = { s with lastSaveTime := s.now }.joinCycle call := by
  unfold savePersistInner
  dsimp only
  rw [if_pos hflag, hbusy]
  rfl

/-- `#savePersistInner` begins a write or queues one, when there is
something to save. -/
theorem savePersistInner_effect (s : ActorInstance R)
    (call : Option Nat) :
    s.persistChanged = true
        ∧ ((s.savePersistInner call).pending = s.current
          ∨ (s.savePersistInner call).Queued)
      ∨ s.persistChanged = false
        ∧ s.savePersistInner call
          = { s with lastSaveTime := s.now }.resolveSaved := by
  by_cases hflag : s.persistChanged = true
  · left
    refine ⟨hflag, ?_⟩
    cases hrun : s.persistWriteQueue.runningDrainLoop with
    | none =>
        rw [savePersistInner_of_idle hflag hrun]
        exact Or.inl rfl
    | some d =>
        rw [savePersistInner_of_busy hflag hrun]
        exact Or.inr (queued_joinCycle hrun call)
  · have hclear := Bool.eq_false_iff.2 hflag
    exact Or.inr ⟨hclear, savePersistInner_of_clear hclear call⟩

/-- Where the flag was what carried a change, `#savePersistInner`
converts it. -/
theorem Carried.savePersistInner (h : s.Carried P C) (hP : P s.current)
    (call : Option Nat) : (s.savePersistInner call).Converted P := by
  rcases savePersistInner_effect s call with
    ⟨-, hpending | hqueued⟩ | ⟨hflag, heq⟩
  · exact Or.inl (hpending ▸ hP)
  · exact Or.inr hqueued
  · rw [heq]
    rcases h with h | ⟨hset, -⟩
    · exact h
    · rw [hflag] at hset
      cases hset

/-- Every timer of a running instance is one that will fire. -/
def Uncleared (s : ActorInstance R) : Prop :=
  ∀ t, s.pendingSaveTimeout = some t → t.cleared = false

theorem Uncleared.armed (h : s.Uncleared) {t : SaveTimeout}
    (ht : s.pendingSaveTimeout = some t) : s.TimerArmed := by
  unfold TimerArmed
  rw [ht, Option.any_some, h t ht]
  rfl

/-- `#savePersistThrottled` converts it or leaves it to the timer. -/
theorem Carried.savePersistThrottled (h : s.Carried P C)
    (hP : P s.current) (htimer : s.Uncleared) :
    (s.savePersistThrottled opts).Carried P
      (s.savePersistThrottled opts).TimerArmed := by
  unfold ActorInstance.savePersistThrottled
  dsimp only
  split
  · split
    · rcases h with h | ⟨hflag, -⟩
      · exact Or.inl h
      · exact Or.inr ⟨hflag, rfl⟩
    case isFalse hsome =>
      rcases h with h | ⟨hflag, -⟩
      · exact Or.inl h
      · obtain ⟨t, ht⟩ : ∃ t, s.pendingSaveTimeout = some t := by
          cases htimeout : s.pendingSaveTimeout with
          | none =>
              rw [htimeout] at hsome
              exact absurd rfl hsome
          | some t => exact ⟨t, rfl⟩
        exact Or.inr ⟨hflag, htimer.armed ht⟩
  · exact Or.inl (h.savePersistInner hP none)

/-- So does a `saveState` that passes its check. -/
theorem Carried.saveState (h : s.Carried P C) (hP : P s.current)
    (htimer : s.Uncleared) {o : SaveStateOptions}
    (hready : s.assertReady o.allowStoppingState = true) :
    (s.saveState opts o).Carried P (s.saveState opts o).TimerArmed := by
  unfold ActorInstance.saveState
  rw [if_pos hready]
  split
  · split
    · have h' : (s.pushCall .awaitInner).Carried P C := h
      exact Or.inl (h'.savePersistInner hP _)
    · have h' : ({ s with
          onPersistSavedPromise := some (s.onPersistSavedPromise.getD .pending)
          }.pushCall .awaitSaved).Carried P C := h
      exact h'.savePersistThrottled hP htimer
  case isFalse hflag =>
    rcases h with h | ⟨hset, -⟩
    · exact Or.inl h
    · exact absurd hset hflag

-- ============================================================= one step

theorem savePersistInner_saveEffect (s : ActorInstance R)
    (call : Option Nat) : SaveEffect fails s (s.savePersistInner call) := by
  rcases savePersistInner_effect s call with
    ⟨-, hpending | hqueued⟩ | ⟨-, heq⟩
  · exact .converted hpending
  · exact .queued hqueued
  · rw [heq]
    exact .of_eq rfl rfl rfl rfl rfl

theorem savePersistThrottled_saveEffect (s : ActorInstance R) :
    SaveEffect fails s (s.savePersistThrottled opts) := by
  unfold ActorInstance.savePersistThrottled
  dsimp only
  split
  · split
    · exact .kept rfl rfl rfl fun _ _ => rfl
    · exact .of_eq rfl rfl rfl rfl rfl
  · exact savePersistInner_saveEffect s none

/-- An effect on an instance that differs in what does not matter. -/
theorem SaveEffect.congr {t : ActorInstance R} (h : SaveEffect fails t s')
    (hpending : t.pending = s.pending) (hcurrent : t.current = s.current)
    (hstored : t.stored = s.stored)
    (hqueue : t.persistWriteQueue = s.persistWriteQueue)
    (hflag : t.persistChanged = s.persistChanged)
    (htimer : t.pendingSaveTimeout = s.pendingSaveTimeout) :
    SaveEffect fails s s' := by
  cases h with
  | kept hp hq hf ht =>
      rw [hpending] at hp
      rw [hqueue] at hq
      refine .kept hp hq (hf.trans hflag) ?_
      intro hset harmed
      apply ht (hflag.trans hset)
      unfold TimerArmed
      rw [htimer]
      exact harmed
  | converted hp => exact .converted (hp.trans hcurrent)
  | queued hq => exact .queued hq
  | failed hfails hp hq hf ht =>
      rw [hqueue] at hq
      exact .failed hfails (hp.trans hstored) hq (hf.trans hflag)
        (ht.trans htimer)

theorem saveState_saveEffect (s : ActorInstance R)
    (o : SaveStateOptions) : SaveEffect fails s (s.saveState opts o) := by
  unfold ActorInstance.saveState
  split
  · split
    · split
      · exact (savePersistInner_saveEffect _ _).congr rfl rfl rfl rfl rfl
          rfl
      · exact (savePersistThrottled_saveEffect _).congr rfl rfl rfl rfl rfl
          rfl
    · exact .of_eq rfl rfl rfl rfl rfl
  · exact .of_eq rfl rfl rfl rfl rfl

theorem saveTimeout_saveEffect (s : ActorInstance R) :
    SaveEffect fails s
      ({ s with pendingSaveTimeout := none }.savePersistInner none) := by
  rcases savePersistInner_effect { s with pendingSaveTimeout := none } none
    with ⟨-, hpending | hqueued⟩ | ⟨hclear, heq⟩
  · exact .converted hpending
  · exact .queued hqueued
  · rw [heq]
    refine .kept rfl rfl rfl ?_
    intro hset
    rw [show s.persistChanged = false from hclear] at hset
    cases hset

/-- A write that succeeds stores what was pending. -/
theorem driverWrite_saveEffect {ok : Bool}
    (h : s.driverWrite ok = some s') : SaveEffect (ok = false) s s' := by
  unfold ActorInstance.driverWrite at h
  split at h
  case h_1 snapshot hwrite =>
    injection h with h
    rw [← h]
    cases ok with
    | true =>
        refine .kept ?_ rfl rfl fun _ harmed => harmed
        unfold pending
        rw [hwrite]
        rfl
    | false => exact .failed rfl rfl rfl rfl rfl
  case h_2 => cases h

/-- The drain loop begins what is queued. -/
theorem drainLoop_saveEffect (hinv : WriteInv s)
    (h : s.drainLoop = some s') : SaveEffect fails s s' := by
  unfold ActorInstance.drainLoop at h
  split at h
  case h_1 snapshot ok hwrite =>
    injection h with h
    rw [← h]
    split
    · exact .converted rfl
    case isFalse hslot =>
      refine .kept ?_ ?_ rfl fun _ harmed => harmed
      · unfold pending
        rw [hwrite]
      · have hrun := hinv.write_running
        rw [hwrite] at hrun
        obtain ⟨d, hd⟩ := Option.isSome_iff_exists.1 hrun.symm
        obtain ⟨r, hr, -⟩ := hinv.queue.running_resolver d hd
        dsimp only
        rw [SinglePromiseQueue.settle_eq hd hr]
        cases hqueued : s.persistWriteQueue.queuedOp with
        | none => rfl
        | some op =>
            rw [hqueued] at hslot
            exact absurd rfl hslot
  case h_2 => cases h

/-- What a step does that neither mutates the record nor clears the
timer. -/
theorem saveStep_effect (hinv : WriteInv s) {a : SaveStep R}
    (hmutate : ∀ path valid f, a ≠ .onChange path valid f)
    (hclear : a ≠ .clearSaveTimeout)
    (hstep : saveStep opts s a = some s') :
    SaveEffect (a = .driverWrite false) s s' := by
  cases saveStep_cases hstep with
  | onChange path valid f heq => exact absurd rfl (hmutate path valid f)
  | saveState o heq =>
      rw [heq]
      exact saveState_saveEffect s o
  | savePersistThrottled heq =>
      rw [heq]
      exact savePersistThrottled_saveEffect s
  | saveTimeout heq =>
      rw [heq]
      exact saveTimeout_saveEffect s
  | driverWrite ok hwrite =>
      exact (driverWrite_saveEffect hwrite).mono fun hok => by rw [hok]
  | drainLoop hdrain => exact drainLoop_saveEffect hinv hdrain
  | clearSaveTimeout heq => exact absurd rfl hclear
  | dateNow t heq =>
      rw [heq]
      exact .of_eq rfl rfl rfl rfl rfl
  | untouched _ _ h =>
      exact .of_eq h.write h.stored h.queue h.flag h.timer

-- ================================================ the record is left alone

theorem savePersistInner_current (s : ActorInstance R)
    (call : Option Nat) : (s.savePersistInner call).current = s.current := by
  unfold ActorInstance.savePersistInner
  dsimp only
  split
  · split
    · rfl
    · rfl
  · rfl

theorem savePersistThrottled_current (s : ActorInstance R) :
    (s.savePersistThrottled opts).current = s.current := by
  unfold ActorInstance.savePersistThrottled
  dsimp only
  split
  · split
    · rfl
    · rfl
  · exact savePersistInner_current s none

theorem saveState_current (s : ActorInstance R) (o : SaveStateOptions) :
    (s.saveState opts o).current = s.current := by
  unfold ActorInstance.saveState
  split
  · split
    · split
      · exact savePersistInner_current _ _
      · exact savePersistThrottled_current _
    · rfl
  · rfl

theorem driverWrite_current {ok : Bool}
    (h : s.driverWrite ok = some s') : s'.current = s.current := by
  unfold ActorInstance.driverWrite at h
  split at h
  · injection h with h
    rw [← h]
    rfl
  · cases h

theorem drainLoop_current (h : s.drainLoop = some s') :
    s'.current = s.current := by
  unfold ActorInstance.drainLoop at h
  split at h
  · injection h with h
    rw [← h]
    split
    · rfl
    · rfl
  · cases h

/-- Only a mutation changes the record. -/
theorem saveStep_current {a : SaveStep R}
    (hmutate : ∀ path valid f, a ≠ .onChange path valid f)
    (hstep : saveStep opts s a = some s') : s'.current = s.current := by
  cases saveStep_cases hstep with
  | onChange path valid f heq => exact absurd rfl (hmutate path valid f)
  | saveState o heq =>
      rw [heq]
      exact saveState_current s o
  | savePersistThrottled heq =>
      rw [heq]
      exact savePersistThrottled_current s
  | saveTimeout heq =>
      rw [heq]
      exact savePersistInner_current _ none
  | driverWrite ok hwrite => exact driverWrite_current hwrite
  | drainLoop hdrain => exact drainLoop_current hdrain
  | clearSaveTimeout heq =>
      rw [heq]
      rfl
  | dateNow t heq =>
      rw [heq]
      rfl
  | untouched _ _ h => exact h.current

-- ============================================================= everywhere

/-- The last write that succeeded and the running one have the change. -/
def Everywhere (P : Snapshot R → Prop) (s : ActorInstance R) : Prop :=
  P s.stored ∧ ∀ w, s.write = some w → P w.snapshot

theorem Everywhere.of_eq (h : s.Everywhere P)
    (hstored : s'.stored = s.stored) (hwrite : s'.write = s.write) :
    s'.Everywhere P := by
  unfold Everywhere
  rw [hstored, hwrite]
  exact h

theorem Everywhere.startWrite (h : s.Everywhere P) (hP : P s.current) :
    s.startWrite.Everywhere P := by
  refine ⟨h.1, ?_⟩
  intro w hw
  injection hw with hw
  rw [← hw]
  exact hP

theorem Everywhere.savePersistInner (h : s.Everywhere P)
    (hP : P s.current) (call : Option Nat) :
    (s.savePersistInner call).Everywhere P := by
  unfold ActorInstance.savePersistInner
  dsimp only
  split
  · split
    · apply Everywhere.startWrite
      · exact h.of_eq rfl rfl
      · exact hP
    · exact h.of_eq rfl rfl
  · exact h.of_eq rfl rfl

theorem Everywhere.savePersistThrottled (h : s.Everywhere P)
    (hP : P s.current) : (s.savePersistThrottled opts).Everywhere P := by
  unfold ActorInstance.savePersistThrottled
  dsimp only
  split
  · split
    · exact h.of_eq rfl rfl
    · exact h
  · exact h.savePersistInner hP none

theorem Everywhere.saveState (h : s.Everywhere P) (hP : P s.current)
    (o : SaveStateOptions) : (s.saveState opts o).Everywhere P := by
  unfold ActorInstance.saveState
  split
  · split
    · split
      · apply Everywhere.savePersistInner
        · exact h.of_eq rfl rfl
        · exact hP
      · apply Everywhere.savePersistThrottled
        · exact h.of_eq rfl rfl
        · exact hP
    · exact h.of_eq rfl rfl
  · exact h.of_eq rfl rfl

/-- A step that leaves the record keeps what is everywhere. -/
theorem Everywhere.saveStep (h : s.Everywhere P) (hP : P s.current)
    {a : SaveStep R}
    (hmutate : ∀ path valid f, a ≠ .onChange path valid f)
    (hstep : saveStep opts s a = some s') : s'.Everywhere P := by
  cases saveStep_cases hstep with
  | onChange path valid f heq => exact absurd rfl (hmutate path valid f)
  | saveState o heq =>
      rw [heq]
      exact h.saveState hP o
  | savePersistThrottled heq =>
      rw [heq]
      exact h.savePersistThrottled hP
  | saveTimeout heq =>
      rw [heq]
      apply Everywhere.savePersistInner
      · exact h.of_eq rfl rfl
      · exact hP
  | driverWrite ok hwrite =>
      unfold ActorInstance.driverWrite at hwrite
      split at hwrite
      case h_1 snapshot hinflight =>
        injection hwrite with hwrite
        rw [← hwrite]
        have hsnapshot : P snapshot := h.2 _ hinflight
        refine ⟨?_, ?_⟩
        · cases ok with
          | true => exact hsnapshot
          | false => exact h.1
        · intro w hw
          injection hw with hw
          rw [← hw]
          exact hsnapshot
      case h_2 => cases hwrite
  | drainLoop hdrain =>
      unfold ActorInstance.drainLoop at hdrain
      split at hdrain
      · injection hdrain with hdrain
        rw [← hdrain]
        have hidle : ({ s with
            persistWriteQueue := s.persistWriteQueue.settle
            write := none }).Everywhere P := by
          refine ⟨h.1, ?_⟩
          intro w hw
          cases hw
        split
        · exact hidle.startWrite hP
        · exact hidle
      · cases hdrain
  | clearSaveTimeout heq =>
      rw [heq]
      exact h.of_eq rfl rfl
  | dateNow t heq =>
      rw [heq]
      exact h.of_eq rfl rfl
  | untouched _ _ huntouched =>
      exact h.of_eq huntouched.stored huntouched.write

-- ============================================================== the flag

/-- A flag that is set behind a step was set before it; no write has begun,
and what was queued still is. -/
def FlagKept (s s' : ActorInstance R) : Prop :=
  s'.persistChanged = true →
    s.persistChanged = true ∧ (s.Queued → s'.Queued)
      ∧ (s'.writing = true → s.writing = true)

theorem FlagKept.of_eq (hflag : s'.persistChanged = s.persistChanged)
    (hqueue : s'.persistWriteQueue = s.persistWriteQueue)
    (hwrite : s'.write = s.write) : FlagKept s s' := by
  intro hset
  refine ⟨hflag ▸ hset, ?_, ?_⟩
  · unfold Queued
    rw [hqueue]
    exact fun h => h
  · unfold writing
    rw [hwrite]
    exact fun h => h

/-- Behind `#savePersistInner` a set flag has a write queued for it. -/
theorem queued_savePersistInner {call : Option Nat}
    (h : (s.savePersistInner call).persistChanged = true) :
    s.persistChanged = true ∧ (s.savePersistInner call).Queued
      ∧ (s.savePersistInner call).write = s.write := by
  by_cases hflag : s.persistChanged = true
  · refine ⟨hflag, ?_⟩
    cases hrun : s.persistWriteQueue.runningDrainLoop with
    | none =>
        rw [savePersistInner_of_idle hflag hrun] at h
        cases h
    | some d =>
        rw [savePersistInner_of_busy hflag hrun]
        exact ⟨queued_joinCycle hrun call, rfl⟩
  · rw [savePersistInner_of_clear (Bool.eq_false_iff.2 hflag)] at h
    exact absurd h hflag

theorem savePersistInner_flagKept (s : ActorInstance R)
    (call : Option Nat) : FlagKept s (s.savePersistInner call) := by
  intro hset
  obtain ⟨hflag, hqueued, hwrite⟩ := queued_savePersistInner hset
  refine ⟨hflag, fun _ => hqueued, ?_⟩
  unfold writing
  rw [hwrite]
  exact fun h => h

theorem savePersistThrottled_flagKept (s : ActorInstance R) :
    FlagKept s (s.savePersistThrottled opts) := by
  unfold ActorInstance.savePersistThrottled
  dsimp only
  split
  · split
    · exact .of_eq rfl rfl rfl
    · exact .of_eq rfl rfl rfl
  · exact savePersistInner_flagKept s none

theorem saveState_flagKept (s : ActorInstance R) (o : SaveStateOptions) :
    FlagKept s (s.saveState opts o) := by
  unfold ActorInstance.saveState
  split
  · split
    · split
      · exact savePersistInner_flagKept (s.pushCall .awaitInner) _
      · exact savePersistThrottled_flagKept _
    · exact .of_eq rfl rfl rfl
  · exact .of_eq rfl rfl rfl

/-- An immediate `saveState` that passes its check leaves the flag set only
with a write queued. -/
theorem queued_saveState {o : SaveStateOptions}
    (hready : s.assertReady o.allowStoppingState = true)
    (himmediate : o.immediate = true)
    (h : (s.saveState opts o).persistChanged = true) :
    (s.saveState opts o).Queued := by
  unfold ActorInstance.saveState at h ⊢
  rw [if_pos hready] at h ⊢
  by_cases hflag : s.persistChanged = true
  · rw [if_pos hflag, if_pos himmediate] at h ⊢
    exact (queued_savePersistInner h).2.1
  · rw [if_neg hflag] at h
    exact absurd h hflag

/-- So it is with every step that does not mutate the record. -/
theorem saveStep_flagKept {a : SaveStep R}
    (hmutate : ∀ path valid f, a ≠ .onChange path valid f)
    (hstep : saveStep opts s a = some s') : FlagKept s s' := by
  cases saveStep_cases hstep with
  | onChange path valid f heq => exact absurd rfl (hmutate path valid f)
  | saveState o heq =>
      rw [heq]
      exact saveState_flagKept s o
  | savePersistThrottled heq =>
      rw [heq]
      exact savePersistThrottled_flagKept s
  | saveTimeout heq =>
      rw [heq]
      exact savePersistInner_flagKept { s with pendingSaveTimeout := none } none
  | driverWrite ok hwrites =>
      unfold ActorInstance.driverWrite at hwrites
      split at hwrites
      · injection hwrites with hwrites
        rw [← hwrites]
        exact fun hset => ⟨hset, fun h => h, fun h => nomatch h⟩
      · cases hwrites
  | drainLoop hdrains =>
      unfold ActorInstance.drainLoop at hdrains
      split at hdrains
      · injection hdrains with hdrains
        rw [← hdrains]
        split
        · intro hset
          cases hset
        case isFalse hslot =>
          exact fun hset => ⟨hset, fun h => absurd h hslot, fun h => nomatch h⟩
      · cases hdrains
  | clearSaveTimeout heq =>
      rw [heq]
      exact .of_eq rfl rfl rfl
  | dateNow t heq =>
      rw [heq]
      exact .of_eq rfl rfl rfl
  | untouched _ _ h => exact .of_eq h.flag h.queue h.write

end ActorInstance

end RivetKit.Actor
