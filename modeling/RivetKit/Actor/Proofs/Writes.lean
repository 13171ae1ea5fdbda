/-
What every run of the save path keeps about the running write: the
drain loop awaits an operation exactly while there is a write, snapshots
grow along a run, and a clear `#persistChanged` means the newest
snapshot contains every change.

`saveStep_cases` says what each step of the save path can be; the step
lemmas here and in the modules above follow its cases.

These facts need no condition on the run. They say nothing about the
calls that wait for a write; that is `SaveContract.lean`.
-/
import RivetKit.Actor.Instance

namespace RivetKit.Actor

open Transition
open Utils
open Js

universe u

variable {R : Type u} {opts : ActorOptions}

namespace ActorInstance

variable {s s' : ActorInstance R}

/-- The record, as a write begun now would have it. -/
def current (s : ActorInstance R) : Snapshot R := ⟨s.persistRaw, s.changes⟩

-- ================================================================ the cases

/-- The steps that move a call or set a flag. -/
def bookkeeps : SaveStep R → Bool
  | .resumeInner _ => true
  | .resumeSaveState _ => true
  | .ready => true
  | .sleepCalled => true
  | .stopCalled => true
  | _ => false

/-- What they leave. -/
structure Untouched (s s' : ActorInstance R) : Prop where
  write : s'.write = s.write
  stored : s'.stored = s.stored
  queue : s'.persistWriteQueue = s.persistWriteQueue
  flag : s'.persistChanged = s.persistChanged
  timer : s'.pendingSaveTimeout = s.pendingSaveTimeout
  lastSave : s'.lastSaveTime = s.lastSaveTime
  now : s'.now = s.now
  failed : s'.lastWriteFailed = s.lastWriteFailed
  current : s'.current = s.current

/-- What a step of the save path can be. -/
inductive SaveCase (opts : ActorOptions) (s s' : ActorInstance R) :
    SaveStep R → Prop
  | onChange (path : List String) (valid : Bool) (f : R → R) :
      s' = s.onChange path valid f → SaveCase opts s s' (.onChange path valid f)
  | saveState (o : SaveStateOptions) :
      s' = s.saveState opts o → SaveCase opts s s' (.saveState o)
  | savePersistThrottled :
      s' = s.savePersistThrottled opts →
      SaveCase opts s s' .savePersistThrottled
  | saveTimeout :
      s' = { s with pendingSaveTimeout := none }.savePersistInner none →
      SaveCase opts s s' .saveTimeout
  | driverWrite (ok : Bool) :
      s.driverWrite ok = some s' → SaveCase opts s s' (.driverWrite ok)
  | drainLoop : s.drainLoop = some s' → SaveCase opts s s' .drainLoop
  | clearSaveTimeout :
      s' = s.clearSaveTimeout → SaveCase opts s s' .clearSaveTimeout
  | dateNow (t : Int) :
      s' = { s with now := t } → SaveCase opts s s' (.dateNow t)
  | untouched (a : SaveStep R) :
      bookkeeps a = true → Untouched s s' → SaveCase opts s s' a

theorem Untouched.persistRaw (h : Untouched s s') :
    s'.persistRaw = s.persistRaw :=
  congrArg Snapshot.persist h.current

theorem Untouched.changes (h : Untouched s s') : s'.changes = s.changes :=
  congrArg Snapshot.changes h.current

theorem saveStep_cases {a : SaveStep R}
    (hstep : saveStep opts s a = some s') : SaveCase opts s s' a := by
  cases a with
  | onChange path valid f =>
      injection hstep with hstep
      exact .onChange path valid f hstep.symm
  | saveState o =>
      injection hstep with hstep
      exact .saveState o hstep.symm
  | savePersistThrottled =>
      injection hstep with hstep
      exact .savePersistThrottled hstep.symm
  | saveTimeout =>
      change s.saveTimeout = some s' at hstep
      unfold ActorInstance.saveTimeout at hstep
      split at hstep
      · injection hstep with hstep
        exact .saveTimeout hstep.symm
      · cases hstep
  | driverWrite ok => exact .driverWrite ok hstep
  | drainLoop => exact .drainLoop hstep
  | resumeInner i =>
      change s.resumeInner i = some s' at hstep
      unfold ActorInstance.resumeInner at hstep
      split at hstep
      · split at hstep
        · injection hstep with hstep
          rw [← hstep]
          split
          · exact .untouched _ rfl ⟨rfl, rfl, rfl, rfl, rfl, rfl, rfl, rfl,
              rfl⟩
          · exact .untouched _ rfl ⟨rfl, rfl, rfl, rfl, rfl, rfl, rfl, rfl,
              rfl⟩
        · cases hstep
      · cases hstep
  | resumeSaveState c =>
      change s.resumeSaveState c = some s' at hstep
      unfold ActorInstance.resumeSaveState at hstep
      split at hstep
      · injection hstep with hstep
        rw [← hstep]
        exact .untouched _ rfl ⟨rfl, rfl, rfl, rfl, rfl, rfl, rfl, rfl,
          rfl⟩
      · split at hstep
        · injection hstep with hstep
          rw [← hstep]
          exact .untouched _ rfl ⟨rfl, rfl, rfl, rfl, rfl, rfl, rfl, rfl,
            rfl⟩
        · cases hstep
      · cases hstep
  | dateNow t =>
      injection hstep with hstep
      exact .dateNow t hstep.symm
  | ready =>
      injection hstep with hstep
      rw [← hstep]
      exact .untouched _ rfl ⟨rfl, rfl, rfl, rfl, rfl, rfl, rfl, rfl,
        rfl⟩
  | sleepCalled =>
      injection hstep with hstep
      rw [← hstep]
      exact .untouched _ rfl ⟨rfl, rfl, rfl, rfl, rfl, rfl, rfl, rfl,
        rfl⟩
  | stopCalled =>
      injection hstep with hstep
      rw [← hstep]
      exact .untouched _ rfl ⟨rfl, rfl, rfl, rfl, rfl, rfl, rfl, rfl,
        rfl⟩
  | clearSaveTimeout =>
      injection hstep with hstep
      exact .clearSaveTimeout hstep.symm

-- ============================================================ the invariant

/-- The running operation and its write. -/
structure WriteInv (s : ActorInstance R) : Prop where
  queue : s.persistWriteQueue.WellFormed
  write_running : s.write.isSome
    = s.persistWriteQueue.runningDrainLoop.isSome
  stored_le : s.stored.changes ≤ s.changes
  idle : s.write = none → s.persistChanged = false →
    s.lastWriteFailed = false → s.stored.changes = s.changes
  busy : ∀ w, s.write = some w →
    s.stored.changes ≤ w.snapshot.changes
      ∧ w.snapshot.changes ≤ s.changes
      ∧ (s.persistChanged = false → w.snapshot.changes = s.changes)
      ∧ ∀ ok, w.phase = .settled ok → s.lastWriteFailed = !ok
          ∧ (ok = true → s.stored.changes = w.snapshot.changes)

/-- The instance as `#initialize` leaves it. -/
theorem writeInv_initialized (r : R) : WriteInv (.initialized r) := by
  refine ⟨SinglePromiseQueue.wellFormed_empty, rfl, Nat.le_refl _,
    fun _ _ _ => rfl, ?_⟩
  intro w hw
  cases hw

-- ============================================== the invariant, per effect

/-- The invariant reads the write, the queue, the counts and the two
flags, and nothing else. -/
theorem WriteInv.congr {s s' : ActorInstance R} (h : WriteInv s)
    (hqueue : s'.persistWriteQueue = s.persistWriteQueue)
    (hwrite : s'.write = s.write) (hstored : s'.stored = s.stored)
    (hchanges : s'.changes = s.changes)
    (hchanged : s'.persistChanged = s.persistChanged)
    (hfailed : s'.lastWriteFailed = s.lastWriteFailed) : WriteInv s' := by
  refine ⟨?_, ?_, ?_, ?_, ?_⟩
  · rw [hqueue]
    exact h.queue
  · rw [hqueue, hwrite]
    exact h.write_running
  · rw [hstored, hchanges]
    exact h.stored_le
  · rw [hwrite, hchanged, hfailed, hstored, hchanges]
    exact h.idle
  · rw [hwrite, hchanged, hfailed, hstored, hchanges]
    exact h.busy

/-- Without a write no loop runs, and conversely. -/
theorem WriteInv.running_none_iff {s : ActorInstance R} (h : WriteInv s) :
    s.persistWriteQueue.runningDrainLoop = none ↔ s.write = none := by
  have hrun := h.write_running
  cases hw : s.write <;>
    cases hr : s.persistWriteQueue.runningDrainLoop <;>
    simp_all

/-- A mutation only raises the count and sets the flag. -/
theorem WriteInv.onChange {s : ActorInstance R} (h : WriteInv s)
    (path : List String) (valid : Bool) (f : R → R) :
    WriteInv (s.onChange path valid f) := by
  unfold ActorInstance.onChange
  by_cases hp : path.head? = some "state" ∧ valid = true
  · rw [if_pos hp]
    refine ⟨h.queue, h.write_running, Nat.le_succ_of_le h.stored_le, ?_, ?_⟩
    · intro _ hclear
      cases hclear
    · intro w hw
      obtain ⟨hst, hsn, -, hph⟩ := h.busy w hw
      refine ⟨hst, Nat.le_succ_of_le hsn, ?_, hph⟩
      intro hclear
      cases hclear
  · rw [if_neg hp]
    exact h.congr rfl rfl rfl rfl rfl rfl

/-- Starting an operation, with the loop already awaiting it: the
snapshot contains every change. -/
theorem WriteInv.startWrite {s : ActorInstance R}
    (hq : s.persistWriteQueue.WellFormed)
    (hrun : s.persistWriteQueue.runningDrainLoop.isSome = true)
    (hle : s.stored.changes ≤ s.changes) : WriteInv s.startWrite := by
  refine ⟨hq, hrun.symm, hle, ?_, ?_⟩
  · intro hw
    cases hw
  · intro w hw
    injection hw with hw
    subst hw
    refine ⟨hle, Nat.le_refl _, fun _ => rfl, ?_⟩
    intro ok hph
    cases hph

/-- Joining a cycle of an idle queue starts its operation. -/
theorem WriteInv.joinIdle {s : ActorInstance R} (h : WriteInv s)
    (hidle : s.persistWriteQueue.runningDrainLoop = none)
    (call : Option Nat) : WriteInv (s.joinCycle call).startWrite := by
  refine WriteInv.startWrite (h.queue.enqueue ()) ?_ h.stored_le
  show (s.persistWriteQueue.enqueue ()).1.runningDrainLoop.isSome = true
  rw [SinglePromiseQueue.enqueue_idle h.queue hidle]
  rfl

/-- Joining a cycle behind a running operation leaves its write alone. -/
theorem WriteInv.joinBusy {s : ActorInstance R} (h : WriteInv s)
    {d : DrainLoop Unit}
    (hbusy : s.persistWriteQueue.runningDrainLoop = some d)
    (call : Option Nat) : WriteInv (s.joinCycle call) := by
  refine ⟨h.queue.enqueue (), ?_, h.stored_le, h.idle, h.busy⟩
  show s.write.isSome
    = (s.persistWriteQueue.enqueue ()).1.runningDrainLoop.isSome
  rw [SinglePromiseQueue.enqueue_busy hbusy]
  exact h.write_running

/-- `#savePersistInner`. -/
theorem WriteInv.savePersistInner {s : ActorInstance R} (h : WriteInv s)
    (call : Option Nat) : WriteInv (s.savePersistInner call) := by
  have h' : WriteInv { s with lastSaveTime := s.now } :=
    h.congr rfl rfl rfl rfl rfl rfl
  cases hch : s.persistChanged with
  | false =>
      have hsaved : WriteInv
          { s with lastSaveTime := s.now : ActorInstance R }.resolveSaved :=
        h.congr rfl rfl rfl rfl rfl rfl
      simpa [ActorInstance.savePersistInner, hch] using hsaved
  | true =>
      cases hrun : s.persistWriteQueue.runningDrainLoop with
      | none =>
          have hidle := h'.joinIdle hrun call
          simpa [ActorInstance.savePersistInner, hch, hrun] using hidle
      | some d =>
          have hbusy := h'.joinBusy hrun call
          simpa [ActorInstance.savePersistInner, hch, hrun] using hbusy

/-- `#savePersistThrottled`: arm the timer or save now. -/
theorem WriteInv.savePersistThrottled {s : ActorInstance R}
    (h : WriteInv s) : WriteInv (s.savePersistThrottled opts) := by
  unfold ActorInstance.savePersistThrottled
  dsimp only
  split
  · split
    · exact h.congr rfl rfl rfl rfl rfl rfl
    · exact h
  · exact h.savePersistInner none

/-- `saveState`, along each of its branches. -/
theorem WriteInv.saveState {s : ActorInstance R} (h : WriteInv s)
    (o : SaveStateOptions) : WriteInv (s.saveState opts o) := by
  unfold ActorInstance.saveState
  split
  · split
    · split
      · refine WriteInv.savePersistInner ?_ _
        exact h.congr rfl rfl rfl rfl rfl rfl
      · refine WriteInv.savePersistThrottled ?_
        exact h.congr rfl rfl rfl rfl rfl rfl
    · exact h.congr rfl rfl rfl rfl rfl rfl
  · exact h.congr rfl rfl rfl rfl rfl rfl

/-- The driver write settles: a success stores its snapshot. -/
theorem WriteInv.driverWrite {s s' : ActorInstance R} {ok : Bool}
    (h : WriteInv s) (hs : s.driverWrite ok = some s') : WriteInv s' := by
  unfold ActorInstance.driverWrite at hs
  split at hs
  case h_2 => cases hs
  case h_1 sn hw =>
    injection hs with hs
    subst hs
    obtain ⟨hst, hsn, hclear, -⟩ := h.busy _ hw
    refine ⟨h.queue, ?_, ?_, ?_, ?_⟩
    · have hrun := h.write_running
      rw [hw] at hrun
      exact hrun
    · cases ok
      · exact h.stored_le
      · exact hsn
    · intro hnone
      cases hnone
    · intro w hw'
      injection hw' with hw'
      subst hw'
      refine ⟨?_, hsn, hclear, ?_⟩
      · cases ok
        · exact hst
        · exact Nat.le_refl _
      · intro ok' hok'
        injection hok' with hok'
        subst hok'
        exact ⟨rfl, fun htrue => by simp [htrue]⟩

/-- The drain loop resumes, and starts the queued operation if there is
one. -/
theorem WriteInv.drainLoop {s s' : ActorInstance R} (h : WriteInv s)
    (hs : s.drainLoop = some s') : WriteInv s' := by
  unfold ActorInstance.drainLoop at hs
  split at hs
  case h_2 => cases hs
  case h_1 sn ok hw =>
    injection hs with hs
    obtain ⟨-, -, hclear, hset⟩ := h.busy _ hw
    obtain ⟨hfail, hstored⟩ := hset ok rfl
    obtain ⟨d, hd⟩ : ∃ d, s.persistWriteQueue.runningDrainLoop = some d := by
      have hrun := h.write_running
      rw [hw] at hrun
      exact Option.isSome_iff_exists.mp hrun.symm
    obtain ⟨r₀, hr₀, -, -, -⟩ := h.queue.running_resolver d hd
    have heq := SinglePromiseQueue.settle_eq hd hr₀
    cases hslot : s.persistWriteQueue.queuedOp with
    | none =>
        simp only [hslot, Option.isSome_none, Bool.false_eq_true,
          if_false] at hs
        subst hs
        refine ⟨h.queue.settle, ?_, h.stored_le, ?_, ?_⟩
        · rw [heq, hslot]
          rfl
        · intro _ hcl hnofail
          have hok : ok = true := by
            rw [show s.lastWriteFailed = false from hnofail] at hfail
            simpa using hfail.symm
          rw [hstored hok]
          exact hclear hcl
        · intro w hw'
          cases hw'
    | some op =>
        simp only [hslot, Option.isSome_some, if_true] at hs
        subst hs
        refine WriteInv.startWrite h.queue.settle ?_ h.stored_le
        rw [heq, hslot]
        rfl

-- ======================================================== step and run

/-- Every step of the save path keeps the write invariant. -/
theorem writeInv_step {s s' : ActorInstance R} {a : SaveStep R}
    (h : WriteInv s) (hstep : saveStep opts s a = some s') :
    WriteInv s' := by
  cases saveStep_cases hstep with
  | onChange path valid f heq =>
      rw [heq]
      exact h.onChange path valid f
  | saveState o heq =>
      rw [heq]
      exact h.saveState o
  | savePersistThrottled heq =>
      rw [heq]
      exact h.savePersistThrottled
  | saveTimeout heq =>
      rw [heq]
      refine WriteInv.savePersistInner ?_ none
      exact h.congr rfl rfl rfl rfl rfl rfl
  | driverWrite ok hwrite => exact h.driverWrite hwrite
  | drainLoop hdrain => exact h.drainLoop hdrain
  | clearSaveTimeout heq =>
      rw [heq]
      exact h.congr rfl rfl rfl rfl rfl rfl
  | dateNow t heq =>
      rw [heq]
      exact h.congr rfl rfl rfl rfl rfl rfl
  | untouched _ _ hsame =>
      exact h.congr hsame.queue hsame.write hsame.stored hsame.changes
        hsame.flag hsame.failed

end ActorInstance

end RivetKit.Actor
