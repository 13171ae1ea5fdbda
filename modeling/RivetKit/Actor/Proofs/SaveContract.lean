/-
The save contract: when a `saveState` call resolves, the changes made
before it are in a snapshot whose driver write has succeeded.

The code does not keep it on every run (`saveContract_fails`), and the
conditions under which it does are four guards on single steps,
collected in `SaveSafe`:

- a call that finds `#persistChanged` clear returns at once, so it must
  not be made while a write is in flight or after one that failed: the
  flag is cleared before the write is known to succeed;
- a throttled call must not be made once `#onPersistSavedPromise` has
  been resolved (the field is never reset), nor while a
  `#savePersistInner` of an operation already started is suspended (its
  continuation resolves the shared promise);
- a timer or an action end that finds the flag clear resolves the
  shared promise at once, so it must not come while a call awaits that
  promise and a write is unsettled;
- no driver write fails while a `saveState` call waits for it: the queue
  swallows the error.

`saveContract_of_safe` proves the contract for every run whose steps
satisfy the guard.

# The invariant

`SaveInv` follows every promise a call can be waiting for. `Covered r b`
says what the cycle `r` is worth to a call made after `b` changes: once
its operation is started the snapshot contains the `b` changes, and once
the write has settled they are stored. A call awaiting its own
`#savePersistInner` needs this of its own cycle; a call awaiting the
shared promise needs it of EVERY suspended `#savePersistInner`, since
whichever resumes first resolves the promise.
-/
import RivetKit.Actor.Proofs.Writes

namespace RivetKit.Actor

open Transition
open Utils
open Js

universe u

variable {R : Type u} {opts : ActorOptions}

namespace ActorInstance

-- ================================================ statement vocabulary

/-- The contract in one state: every call that has resolved normally had
its changes stored by a successful write. -/
def SaveContract (s : ActorInstance R) : Prop :=
  ∀ call ∈ s.calls, call.phase = .resolved →
    call.changes ≤ s.stored.changes

/-- No write is in flight or unsettled, and the last one succeeded. -/
def Settled (s : ActorInstance R) : Prop :=
  s.write.isNone = true ∧ s.lastWriteFailed = false

/-- A `#savePersistInner` called now resolves the promise some call is
awaiting only when everything is stored. -/
def FlushSafe (s : ActorInstance R) : Prop :=
  s.persistChanged = false → s.onPersistSavedPromise = some .pending →
    s.Settled

/-- The condition on one step under which the save path keeps its
contract. -/
def SaveSafe (s : ActorInstance R) : SaveStep R → Prop
  | .saveState o =>
      s.assertReady o.allowStoppingState = true →
        (s.persistChanged = false → s.Settled) ∧
        (s.persistChanged = true → o.immediate = false →
          s.onPersistSavedPromise ≠ some .resolved ∧
          ∀ f ∈ s.inners, ¬ s.persistWriteQueue.Started f.resolver)
  | .savePersistThrottled => s.FlushSafe
  | .saveTimeout => s.FlushSafe
  | .driverWrite ok =>
      ok = false →
        s.onPersistSavedPromise ≠ some .pending ∧
        ∀ f ∈ s.inners, f.call ≠ none →
          ¬ s.persistWriteQueue.Running f.resolver
  | _ => True

instance (s : ActorInstance R) : Decidable s.Settled :=
  inferInstanceAs (Decidable (_ ∧ _))

instance (s : ActorInstance R) : Decidable s.FlushSafe :=
  inferInstanceAs (Decidable (_ → _ → _))

instance (s : ActorInstance R) : (a : SaveStep R) → Decidable (s.SaveSafe a)
  | .saveState _ => inferInstanceAs (Decidable (_ → (_ → _) ∧ (_ → _ → _ ∧ _)))
  | .savePersistThrottled => inferInstanceAs (Decidable s.FlushSafe)
  | .saveTimeout => inferInstanceAs (Decidable s.FlushSafe)
  | .driverWrite _ => inferInstanceAs (Decidable (_ → _ ∧ ∀ _ ∈ _, _ → _))
  | .onChange _ _ _ => .isTrue trivial
  | .drainLoop => .isTrue trivial
  | .resumeInner _ => .isTrue trivial
  | .resumeSaveState _ => .isTrue trivial
  | .dateNow _ => .isTrue trivial
  | .ready => .isTrue trivial
  | .sleepCalled => .isTrue trivial
  | .stopCalled => .isTrue trivial
  | .clearSaveTimeout => .isTrue trivial

-- ======================================================= the invariant

/-- What the cycle `r` guarantees a call made after `b` changes. -/
def Covered (s : ActorInstance R) (r b : Nat) : Prop :=
  (r ∈ s.persistWriteQueue.resolved → b ≤ s.stored.changes) ∧
  ∀ w, s.write = some w → s.persistWriteQueue.Running r →
    b ≤ w.snapshot.changes ∧
      (w.phase ≠ .inFlight → b ≤ s.stored.changes)

/-- The invariant of the guarded runs. -/
structure SaveInv (s : ActorInstance R) : Prop extends WriteInv s where
  call_le : ∀ call ∈ s.calls, call.changes ≤ s.changes
  frame_lt : ∀ f ∈ s.inners, f.resolver < s.persistWriteQueue.allocated
    ∧ ∀ c, f.call = some c → c < s.calls.length
  inner : ∀ f ∈ s.inners, ∀ c, f.call = some c →
    ∀ call, s.calls[c]? = some call → Covered s f.resolver call.changes
  saved_promise : ∀ call ∈ s.calls, call.phase = .awaitSaved →
    s.onPersistSavedPromise ≠ none
  saved_pending : s.onPersistSavedPromise = some .pending →
    ∀ call ∈ s.calls, call.phase = .awaitSaved →
      ∀ f ∈ s.inners, Covered s f.resolver call.changes
  saved_resolved : s.onPersistSavedPromise = some .resolved →
    ∀ call ∈ s.calls, call.phase = .awaitSaved →
      call.changes ≤ s.stored.changes
  returned : ∀ call ∈ s.calls,
    call.phase = .returning ∨ call.phase = .resolved →
      call.changes ≤ s.stored.changes

/-- With everything settled and the flag clear, every change is
stored. -/
theorem WriteInv.settled {s : ActorInstance R} (h : WriteInv s)
    (hclear : s.persistChanged = false) (hs : s.Settled) :
    s.stored.changes = s.changes :=
  h.idle (Option.isNone_iff_eq_none.mp hs.1) hclear hs.2

/-- The instance as `#initialize` leaves it. -/
theorem saveInv_initialized (r : R) : SaveInv (.initialized r) := by
  refine ⟨writeInv_initialized r, ?_, ?_, ?_, ?_, ?_, ?_, ?_⟩ <;>
    simp [initialized]

-- =============================================== coverage of one cycle

/-- A cycle whose operation has not been started promises nothing yet:
its snapshot is still to be taken. -/
theorem covered_of_not_started {s : ActorInstance R} {r : Nat} (b : Nat)
    (hr : ¬ s.persistWriteQueue.Started r) : Covered s r b :=
  ⟨fun hres => absurd (Or.inr hres) hr,
    fun _ _ hrun => absurd (Or.inl hrun) hr⟩

/-- A fresh resolver is neither resolved nor running. -/
private theorem not_started_allocated {s : ActorInstance R}
    (h : WriteInv s) :
    ¬ s.persistWriteQueue.Started s.persistWriteQueue.allocated := by
  rintro (⟨d, hd, hr⟩ | hres)
  · obtain ⟨r, hr', hlt, -, -⟩ := h.queue.running_resolver d hd
    rw [hr] at hr'
    injection hr' with hr'
    omega
  · exact Nat.lt_irrefl _ (h.queue.resolved_lt _ hres)

/-- The resolver `enqueue` hands out behind a running operation belongs
to a cycle that has not started. -/
private theorem not_started_pending {s : ActorInstance R}
    (h : WriteInv s) :
    ¬ s.persistWriteQueue.Started
      (s.persistWriteQueue.pending.getD s.persistWriteQueue.allocated) := by
  cases hp : s.persistWriteQueue.pending with
  | none => exact not_started_allocated h
  | some p =>
      rintro (⟨d, hd, hr⟩ | hres)
      · obtain ⟨r, hr', -, -, hne⟩ := h.queue.running_resolver d hd
        rw [hr, Option.getD_some] at hr'
        rw [hp, ← hr'] at hne
        exact hne rfl
      · exact (h.queue.pending_fresh p hp).2 hres

-- ============================================== the invariant, per effect

/-- The invariant reads neither the record nor the clock, the timer or
the lifecycle flags. -/
theorem SaveInv.untouched {s : ActorInstance R} (h : SaveInv s) (raw : R)
    (last now : Int) (timeout : Option SaveTimeout)
    (ready sleep stop : Bool) :
    SaveInv { s with persistRaw := raw, lastSaveTime := last, now := now,
                     pendingSaveTimeout := timeout, ready := ready,
                     sleepCalled := sleep, stopCalled := stop } :=
  ⟨h.congr rfl rfl rfl rfl rfl rfl, h.call_le,
    h.frame_lt, h.inner, h.saved_promise, h.saved_pending,
    h.saved_resolved, h.returned⟩

/-- A mutation only raises the count and sets the flag. -/
theorem SaveInv.onChange {s : ActorInstance R} (h : SaveInv s)
    (path : List String) (valid : Bool) (f : R → R) :
    SaveInv (s.onChange path valid f) := by
  have hw := h.toWriteInv.onChange path valid f
  unfold ActorInstance.onChange at hw ⊢
  by_cases hp : path.head? = some "state" ∧ valid = true
  · rw [if_pos hp] at hw ⊢
    exact ⟨hw, fun c hc => Nat.le_succ_of_le (h.call_le c hc), h.frame_lt,
      h.inner, h.saved_promise, h.saved_pending, h.saved_resolved,
      h.returned⟩
  · rw [if_neg hp]
    exact h.untouched _ _ _ _ _ _ _

/-- Resolving the shared promise is sound when the calls awaiting it are
served. -/
theorem SaveInv.resolveSaved {s : ActorInstance R} (h : SaveInv s)
    (hserved : s.onPersistSavedPromise = some .pending →
      ∀ call ∈ s.calls, call.phase = .awaitSaved →
        call.changes ≤ s.stored.changes) :
    SaveInv s.resolveSaved := by
  refine ⟨h.congr rfl rfl rfl rfl rfl rfl,
    h.call_le, h.frame_lt, h.inner, ?_, ?_, ?_, h.returned⟩
  · intro call hc hph hnone
    refine h.saved_promise call hc hph ?_
    simpa [ActorInstance.resolveSaved] using hnone
  · intro hpend
    simp [ActorInstance.resolveSaved] at hpend
  · intro _ call hc hph
    cases hpr : s.onPersistSavedPromise with
    | none => exact absurd hpr (h.saved_promise call hc hph)
    | some p =>
        cases p with
        | pending => exact hserved hpr call hc hph
        | resolved => exact h.saved_resolved hpr call hc hph

/-- A new call is sound when it has something to wait for, or nothing
to wait for and nothing unsaved. -/
theorem SaveInv.pushCall {s : ActorInstance R} (h : SaveInv s)
    (phase : CallPhase)
    (hsaved : phase = .awaitSaved →
      s.onPersistSavedPromise = some .pending ∧
      ∀ f ∈ s.inners, ¬ s.persistWriteQueue.Started f.resolver)
    (hret : phase = .returning ∨ phase = .resolved →
      s.stored.changes = s.changes) :
    SaveInv (s.pushCall phase) := by
  have hmem : ∀ call ∈ (s.pushCall phase).calls,
      call ∈ s.calls ∨ call = ⟨s.changes, phase⟩ := by
    intro call hc
    rcases List.mem_append.mp hc with hc | hc
    · exact Or.inl hc
    · exact Or.inr (List.mem_singleton.mp hc)
  refine ⟨h.congr rfl rfl rfl rfl rfl rfl,
    ?_, ?_, ?_, ?_, ?_, ?_, ?_⟩
  · intro call hc
    rcases hmem call hc with hc | rfl
    · exact h.call_le call hc
    · exact Nat.le_refl _
  · intro f hf
    refine ⟨(h.frame_lt f hf).1, fun c hfc => ?_⟩
    have hlt := (h.frame_lt f hf).2 c hfc
    simp only [ActorInstance.pushCall, List.length_append,
      List.length_singleton]
    omega
  · intro f hf c hfc call hcall
    have hlt := (h.frame_lt f hf).2 c hfc
    simp only [ActorInstance.pushCall] at hcall
    rw [List.getElem?_append_left hlt] at hcall
    exact h.inner f hf c hfc call hcall
  · intro call hc hph
    rcases hmem call hc with hc | rfl
    · exact h.saved_promise call hc hph
    · rw [show (s.pushCall phase).onPersistSavedPromise
        = s.onPersistSavedPromise from rfl, (hsaved hph).1]
      simp
  · intro hpend call hc hph f hf
    rcases hmem call hc with hc | rfl
    · exact h.saved_pending hpend call hc hph f hf
    · exact covered_of_not_started _ ((hsaved hph).2 f hf)
  · intro hres call hc hph
    rcases hmem call hc with hc | rfl
    · exact h.saved_resolved hres call hc hph
    · rw [show (s.pushCall phase).onPersistSavedPromise
        = s.onPersistSavedPromise from rfl, (hsaved hph).1] at hres
      cases hres
  · intro call hc hph
    rcases hmem call hc with hc | rfl
    · exact h.returned call hc hph
    · exact Nat.le_of_eq (hret hph).symm

/-- Membership after a phase change: an old call, or the moved one. -/
private theorem mem_setPhase {s : ActorInstance R} {c : Nat}
    {phase : CallPhase} {call : SaveCall}
    (hc : call ∈ (s.setPhase c phase).calls) :
    call ∈ s.calls ∨ ∃ old, s.calls[c]? = some old
      ∧ call = { old with phase := phase } := by
  obtain ⟨i, hi⟩ := List.mem_iff_getElem?.mp hc
  simp only [setPhase, List.getElem?_modify] at hi
  by_cases hci : c = i
  · subst hci
    cases hold : s.calls[c]? with
    | none => simp [hold] at hi
    | some old =>
        right
        refine ⟨old, rfl, ?_⟩
        simpa [hold] using hi.symm
  · left
    refine List.mem_iff_getElem?.mpr ⟨i, ?_⟩
    simpa [hci] using hi

/-- A phase change moves no call and keeps its count. -/
private theorem setPhase_getElem? {s : ActorInstance R} {c c' : Nat}
    {phase : CallPhase} {call : SaveCall}
    (hcall : (s.setPhase c phase).calls[c']? = some call) :
    ∃ old, s.calls[c']? = some old ∧ call.changes = old.changes := by
  simp only [setPhase, List.getElem?_modify] at hcall
  cases hold : s.calls[c']? with
  | none => simp [hold] at hcall
  | some old =>
      refine ⟨old, rfl, ?_⟩
      by_cases hcc : c = c'
      · simp [hold, hcc] at hcall
        rw [← hcall]
      · simp [hold, hcc] at hcall
        rw [hcall]

/-- A call may return once its changes are stored. -/
theorem SaveInv.setPhase {s : ActorInstance R} (h : SaveInv s) (c : Nat)
    (phase : CallPhase) (hphase : phase ≠ .awaitSaved)
    (hle : ∀ call, s.calls[c]? = some call →
      call.changes ≤ s.stored.changes) :
    SaveInv (s.setPhase c phase) := by
  refine ⟨h.congr rfl rfl rfl rfl rfl rfl,
    ?_, ?_, ?_, ?_, ?_, ?_, ?_⟩
  · intro call hc
    rcases mem_setPhase hc with hc | ⟨old, hold, rfl⟩
    · exact h.call_le call hc
    · exact h.call_le old (List.mem_of_getElem? hold)
  · intro f hf
    refine ⟨(h.frame_lt f hf).1, fun c' hfc => ?_⟩
    simpa [ActorInstance.setPhase] using (h.frame_lt f hf).2 c' hfc
  · intro f hf c' hfc call hcall
    obtain ⟨old, hold, heq⟩ := setPhase_getElem? hcall
    rw [heq]
    exact h.inner f hf c' hfc old hold
  · intro call hc hph
    rcases mem_setPhase hc with hc | ⟨old, -, rfl⟩
    · exact h.saved_promise call hc hph
    · exact absurd hph hphase
  · intro hpend call hc hph
    rcases mem_setPhase hc with hc | ⟨old, -, rfl⟩
    · exact h.saved_pending hpend call hc hph
    · exact absurd hph hphase
  · intro hres call hc hph
    rcases mem_setPhase hc with hc | ⟨old, -, rfl⟩
    · exact h.saved_resolved hres call hc hph
    · exact absurd hph hphase
  · intro call hc hph
    rcases mem_setPhase hc with hc | ⟨old, hold, rfl⟩
    · exact h.returned call hc hph
    · exact hle old hold

-- ================================================ the write operations

/-- A cycle opened before the one an idle queue starts is where it
was. -/
private theorem Covered.joinIdle {s : ActorInstance R} {r b : Nat}
    (hc : Covered s r b) (hq : s.persistWriteQueue.WellFormed)
    (hidle : s.persistWriteQueue.runningDrainLoop = none)
    (call : Option Nat) (hlt : r < s.persistWriteQueue.allocated) :
    Covered (s.joinCycle call).startWrite r b := by
  unfold Covered ActorInstance.joinCycle
  rw [SinglePromiseQueue.enqueue_idle hq hidle]
  refine ⟨hc.1, ?_⟩
  rintro w - ⟨d, hd, hr⟩
  injection hd with hd
  subst hd
  injection hr with hr
  omega

/-- The cycle an idle queue starts has every change in its snapshot. -/
private theorem covered_joinIdle {s : ActorInstance R} (h : WriteInv s)
    (hidle : s.persistWriteQueue.runningDrainLoop = none)
    (call : Option Nat) {b : Nat} (hb : b ≤ s.changes) :
    Covered (s.joinCycle call).startWrite s.persistWriteQueue.allocated
      b := by
  unfold Covered ActorInstance.joinCycle
  rw [SinglePromiseQueue.enqueue_idle h.queue hidle]
  refine ⟨fun hres => absurd (Or.inr hres) (not_started_allocated h), ?_⟩
  intro w hw _
  injection hw with hw
  subst hw
  exact ⟨hb, fun hph => absurd rfl hph⟩

/-- `#savePersistInner` with changes to write and no loop running: the
operation starts inside `enqueue`, under a fresh resolver. -/
theorem SaveInv.joinIdle {s : ActorInstance R} (h : SaveInv s)
    (hidle : s.persistWriteQueue.runningDrainLoop = none)
    {call : Option Nat} (hcall : ∀ c, call = some c → c < s.calls.length) :
    SaveInv (s.joinCycle call).startWrite := by
  have hmem : ∀ f ∈ (s.joinCycle call).startWrite.inners,
      f ∈ s.inners ∨ f = ⟨s.persistWriteQueue.allocated, call⟩ := by
    intro f hf
    unfold ActorInstance.joinCycle at hf
    rw [SinglePromiseQueue.enqueue_idle h.queue hidle] at hf
    rcases List.mem_append.mp hf with hf | hf
    · exact Or.inl hf
    · exact Or.inr (List.mem_singleton.mp hf)
  have hcov : ∀ f ∈ s.inners, ∀ b, Covered s f.resolver b →
      Covered (s.joinCycle call).startWrite f.resolver b :=
    fun f hf b hc => hc.joinIdle h.queue hidle call (h.frame_lt f hf).1
  have hnew : ∀ b ≤ s.changes, Covered (s.joinCycle call).startWrite
      s.persistWriteQueue.allocated b :=
    fun b hb => covered_joinIdle h.toWriteInv hidle call hb
  refine ⟨h.toWriteInv.joinIdle hidle call, h.call_le, ?_, ?_,
    h.saved_promise, ?_, h.saved_resolved, h.returned⟩
  · intro f hf
    have hall : (s.joinCycle call).startWrite.persistWriteQueue.allocated
        = s.persistWriteQueue.allocated + 1 := by
      show (s.persistWriteQueue.enqueue ()).1.allocated = _
      rw [SinglePromiseQueue.enqueue_idle h.queue hidle]
    rw [hall]
    rcases hmem f hf with hf | rfl
    · exact ⟨Nat.lt_succ_of_lt (h.frame_lt f hf).1, (h.frame_lt f hf).2⟩
    · exact ⟨Nat.lt_succ_self _, hcall⟩
  · intro f hf c hfc call' hcall'
    rcases hmem f hf with hf | rfl
    · exact hcov f hf _ (h.inner f hf c hfc call' hcall')
    · exact hnew _ (h.call_le call' (List.mem_of_getElem? hcall'))
  · intro hpend call' hc hph f hf
    rcases hmem f hf with hf | rfl
    · exact hcov f hf _ (h.saved_pending hpend call' hc hph f hf)
    · exact hnew _ (h.call_le call' hc)

/-- `#savePersistInner` with changes to write behind a running
operation: it joins the cycle that has not started. -/
theorem SaveInv.joinBusy {s : ActorInstance R} (h : SaveInv s)
    {d : DrainLoop Unit}
    (hbusy : s.persistWriteQueue.runningDrainLoop = some d)
    {call : Option Nat} (hcall : ∀ c, call = some c → c < s.calls.length) :
    SaveInv (s.joinCycle call) := by
  have hw := h.toWriteInv.joinBusy hbusy call
  have hpend := not_started_pending h.toWriteInv
  have hlt : s.persistWriteQueue.pending.getD s.persistWriteQueue.allocated
      < (if s.persistWriteQueue.pending.isSome
          then s.persistWriteQueue.allocated
          else s.persistWriteQueue.allocated + 1) := by
    cases hp : s.persistWriteQueue.pending with
    | none => simp
    | some p => simpa using (h.queue.pending_fresh p hp).1
  have hle : s.persistWriteQueue.allocated
      ≤ (if s.persistWriteQueue.pending.isSome
          then s.persistWriteQueue.allocated
          else s.persistWriteQueue.allocated + 1) := by
    split <;> omega
  unfold ActorInstance.joinCycle at hw ⊢
  rw [SinglePromiseQueue.enqueue_busy hbusy] at hw ⊢
  refine ⟨hw, h.call_le, ?_, ?_, h.saved_promise, ?_, h.saved_resolved,
    h.returned⟩
  · intro f hf
    rcases List.mem_append.mp hf with hf | hf
    · exact ⟨Nat.lt_of_lt_of_le (h.frame_lt f hf).1 hle,
        (h.frame_lt f hf).2⟩
    · rw [List.mem_singleton.mp hf]
      exact ⟨hlt, hcall⟩
  · intro f hf c hfc call' hcall'
    rcases List.mem_append.mp hf with hf | hf
    · exact h.inner f hf c hfc call' hcall'
    · rw [List.mem_singleton.mp hf]
      exact covered_of_not_started _ hpend
  · intro hp call' hc hph f hf
    rcases List.mem_append.mp hf with hf | hf
    · exact h.saved_pending hp call' hc hph f hf
    · rw [List.mem_singleton.mp hf]
      exact covered_of_not_started _ hpend

/-- `#savePersistInner`, both ways. -/
theorem SaveInv.savePersistInner {s : ActorInstance R} (h : SaveInv s)
    {call : Option Nat} (hcall : ∀ c, call = some c → c < s.calls.length)
    (hflush : s.FlushSafe) : SaveInv (s.savePersistInner call) := by
  have h' : SaveInv { s with lastSaveTime := s.now } :=
    h.untouched _ _ _ _ _ _ _
  cases hch : s.persistChanged with
  | false =>
      have hsaved := h'.resolveSaved fun hpend call hc _ => by
        have hst := h.settled hch (hflush hch hpend)
        have hle := h.call_le call hc
        show call.changes ≤ s.stored.changes
        omega
      simpa [ActorInstance.savePersistInner, hch] using hsaved
  | true =>
      cases hrun : s.persistWriteQueue.runningDrainLoop with
      | none =>
          have hidle := h'.joinIdle hrun hcall
          simpa [ActorInstance.savePersistInner, hch, hrun] using hidle
      | some d =>
          have hbusy := h'.joinBusy hrun hcall
          simpa [ActorInstance.savePersistInner, hch, hrun] using hbusy

/-- The driver write settles. A success stores the snapshot, which
contains what its waiters need; a failure is admitted only when nobody
waits for it. -/
theorem SaveInv.driverWrite {s s' : ActorInstance R} {ok : Bool}
    (h : SaveInv s) (hsafe : s.SaveSafe (.driverWrite ok))
    (hs : s.driverWrite ok = some s') : SaveInv s' := by
  have hinv := h.toWriteInv.driverWrite hs
  unfold ActorInstance.driverWrite at hs
  split at hs
  case h_2 => cases hs
  case h_1 sn hw =>
    injection hs with hs
    obtain ⟨hst, -, -, -⟩ := h.busy _ hw
    have hgrow : s.stored.changes ≤ s'.stored.changes := by
      rw [← hs]
      cases ok
      · exact Nat.le_refl _
      · exact hst
    -- only the running cycle of a failed write loses its guarantee
    have hcov : ∀ {r b : Nat},
        (ok = false → ¬ s.persistWriteQueue.Running r) →
        Covered s r b → Covered s' r b := by
      intro r b hok hc
      refine ⟨fun hres => Nat.le_trans (hc.1 ?_) hgrow, ?_⟩
      · rw [← hs] at hres
        exact hres
      · intro w hw' hrun
        rw [← hs] at hw' hrun
        injection hw' with hw'
        obtain ⟨hb, -⟩ := hc.2 _ hw hrun
        cases ok with
        | false => exact absurd hrun (hok rfl)
        | true =>
            rw [← hw', ← hs]
            exact ⟨hb, fun _ => hb⟩
    have hwait : ok = false → _ := hsafe
    rw [← hs] at hinv hgrow hcov ⊢
    refine ⟨hinv, h.call_le, h.frame_lt, ?_, h.saved_promise, ?_, ?_, ?_⟩
    · intro f hf c hfc call hcall
      refine hcov ?_ (h.inner f hf c hfc call hcall)
      intro hfalse
      exact (hwait hfalse).2 f hf (by simp [hfc])
    · intro hpend call hc hph f hf
      refine hcov ?_ (h.saved_pending hpend call hc hph f hf)
      intro hfalse
      exact absurd hpend (hwait hfalse).1
    · intro hres call hc hph
      exact Nat.le_trans (h.saved_resolved hres call hc hph) hgrow
    · intro call hc hph
      exact Nat.le_trans (h.returned call hc hph) hgrow

/-- The drain loop resumes: the settled cycle is resolved, and the
queued operation, if any, takes a snapshot with every change. -/
theorem SaveInv.drainLoop {s s' : ActorInstance R} (h : SaveInv s)
    (hs : s.drainLoop = some s') : SaveInv s' := by
  have hinv := h.toWriteInv.drainLoop hs
  unfold ActorInstance.drainLoop at hs
  split at hs
  case h_2 => cases hs
  case h_1 sn ok hw =>
    injection hs with hs
    obtain ⟨d, hd⟩ : ∃ d, s.persistWriteQueue.runningDrainLoop = some d := by
      have hrun := h.write_running
      rw [hw] at hrun
      exact Option.isSome_iff_exists.mp hrun.symm
    obtain ⟨r₀, hr₀, -, -, -⟩ := h.queue.running_resolver d hd
    have heq := SinglePromiseQueue.settle_eq hd hr₀
    have hresolved : ∀ {r b : Nat}, Covered s r b →
        r ∈ s.persistWriteQueue.settle.resolved →
        b ≤ s.stored.changes := by
      intro r b hc hres
      rw [heq] at hres
      rcases List.mem_cons.mp hres with rfl | hres
      · exact (hc.2 _ hw ⟨d, hd, hr₀⟩).2 (by simp)
      · exact hc.1 hres
    have hallocated : s.persistWriteQueue.settle.allocated
        = s.persistWriteQueue.allocated := by
      rw [heq]
    cases hslot : s.persistWriteQueue.queuedOp with
    | none =>
        have hcov : ∀ {r b : Nat}, Covered s r b →
            Covered (R := R) { s with
              persistWriteQueue := s.persistWriteQueue.settle
              write := none } r b := by
          intro r b hc
          refine ⟨hresolved hc, ?_⟩
          intro w hw'
          cases hw'
        simp only [hslot, Option.isSome_none, Bool.false_eq_true,
          if_false] at hs
        rw [← hs] at hinv ⊢
        refine ⟨hinv, h.call_le, ?_, ?_, h.saved_promise, ?_,
          h.saved_resolved, h.returned⟩
        · intro f hf
          refine ⟨?_, (h.frame_lt f hf).2⟩
          rw [hallocated]
          exact (h.frame_lt f hf).1
        · intro f hf c hfc call hcall
          exact hcov (h.inner f hf c hfc call hcall)
        · intro hpend call hc hph f hf
          exact hcov (h.saved_pending hpend call hc hph f hf)
    | some op =>
        have hcov : ∀ {r b : Nat}, b ≤ s.changes → Covered s r b →
            Covered (R := R) (ActorInstance.startWrite { s with
              persistWriteQueue := s.persistWriteQueue.settle
              write := none }) r b := by
          intro r b hb hc
          refine ⟨hresolved hc, ?_⟩
          intro w hw' _
          injection hw' with hw'
          subst hw'
          exact ⟨hb, fun hph => absurd rfl hph⟩
        simp only [hslot, Option.isSome_some, if_true] at hs
        rw [← hs] at hinv ⊢
        refine ⟨hinv, h.call_le, ?_, ?_, h.saved_promise, ?_, h.saved_resolved,
          h.returned⟩
        · intro f hf
          refine ⟨?_, (h.frame_lt f hf).2⟩
          show f.resolver < s.persistWriteQueue.settle.allocated
          rw [hallocated]
          exact (h.frame_lt f hf).1
        · intro f hf c hfc call hcall
          exact hcov (h.call_le call (List.mem_of_getElem? hcall))
            (h.inner f hf c hfc call hcall)
        · intro hpend call hc hph f hf
          exact hcov (h.call_le call hc)
            (h.saved_pending hpend call hc hph f hf)

/-- A `#savePersistInner` resumes after its cycle: its own caller and
every call awaiting the shared promise are served. -/
theorem SaveInv.resumeInner {s s' : ActorInstance R} {i : Nat}
    (h : SaveInv s) (hs : s.resumeInner i = some s') : SaveInv s' := by
  unfold ActorInstance.resumeInner at hs
  split at hs
  case h_2 => cases hs
  case h_1 r call hfr =>
    split at hs
    case isFalse => cases hs
    case isTrue hres =>
      injection hs with hs
      have hmem := List.mem_of_getElem? hfr
      have hsaved : SaveInv s.resolveSaved := by
        refine h.resolveSaved fun hpend call hc hph => ?_
        exact (h.saved_pending hpend call hc hph _ hmem).1 hres
      -- dropping a frame drops obligations
      have herase : SaveInv { s.resolveSaved with
          inners := s.inners.eraseIdx i } := by
        have hsub : ∀ f ∈ s.inners.eraseIdx i, f ∈ s.inners := fun f hf =>
          List.mem_of_mem_eraseIdx hf
        exact ⟨hsaved.congr rfl rfl rfl rfl rfl rfl, hsaved.call_le,
          fun f hf => hsaved.frame_lt f (hsub f hf),
          fun f hf => hsaved.inner f (hsub f hf), hsaved.saved_promise,
          fun hp call hc hph f hf =>
            hsaved.saved_pending hp call hc hph f (hsub f hf),
          hsaved.saved_resolved, hsaved.returned⟩
      cases call with
      | none =>
          rw [← hs]
          exact herase
      | some c =>
          rw [← hs]
          refine herase.setPhase c .returning (by simp) ?_
          intro call hcall
          exact (h.inner _ hmem c rfl call hcall).1 hres

/-- A `saveState` resumes and returns. -/
theorem SaveInv.resumeSaveState {s s' : ActorInstance R} {c : Nat}
    (h : SaveInv s) (hs : s.resumeSaveState c = some s') : SaveInv s' := by
  unfold ActorInstance.resumeSaveState at hs
  split at hs
  case h_1 b hcall =>
    injection hs with hs
    rw [← hs]
    refine h.setPhase c .resolved (by simp) fun call hcall' => ?_
    rw [hcall] at hcall'
    injection hcall' with hcall'
    rw [← hcall']
    exact h.returned _ (List.mem_of_getElem? hcall) (Or.inl rfl)
  case h_2 b hcall =>
    split at hs
    case isFalse => cases hs
    case isTrue hres =>
      injection hs with hs
      rw [← hs]
      refine h.setPhase c .resolved (by simp) fun call hcall' => ?_
      rw [hcall] at hcall'
      injection hcall' with hcall'
      rw [← hcall']
      exact h.saved_resolved hres _ (List.mem_of_getElem? hcall) rfl
  case h_3 => cases hs

/-- `#savePersistThrottled`: arm the timer or save now. -/
theorem SaveInv.savePersistThrottled {s : ActorInstance R} (h : SaveInv s)
    (hflush : s.FlushSafe) : SaveInv (s.savePersistThrottled opts) := by
  unfold ActorInstance.savePersistThrottled
  dsimp only
  split
  · split
    · exact h.untouched _ _ _ _ _ _ _
    · exact h
  · exact h.savePersistInner (by simp) hflush

/-- `saveState`, along each of its branches. -/
theorem SaveInv.saveState {s : ActorInstance R} (h : SaveInv s)
    (o : SaveStateOptions) (hsafe : s.SaveSafe (.saveState o)) :
    SaveInv (s.saveState opts o) := by
  unfold ActorInstance.saveState
  by_cases hready : s.assertReady o.allowStoppingState = true
  · rw [if_pos hready]
    obtain ⟨hsettled, hthrottled⟩ := hsafe hready
    by_cases hch : s.persistChanged = true
    · rw [if_pos hch]
      have hflush : ∀ {s' : ActorInstance R},
          s'.persistChanged = s.persistChanged → s'.FlushSafe := by
        intro s' heq hclear
        rw [heq, hch] at hclear
        cases hclear
      by_cases him : o.immediate = true
      · rw [if_pos him]
        have hpush : SaveInv (s.pushCall .awaitInner) :=
          h.pushCall _ (by simp) (by simp)
        refine hpush.savePersistInner ?_ (hflush rfl)
        intro c hc
        injection hc with hc
        subst hc
        simp [ActorInstance.pushCall]
      · rw [if_neg him]
        obtain ⟨hunresolved, hframes⟩ := hthrottled hch (by simpa using him)
        have hpend : s.onPersistSavedPromise.getD .pending = .pending := by
          cases hp : s.onPersistSavedPromise with
          | none => rfl
          | some p =>
              cases p with
              | pending => rfl
              | resolved => exact absurd hp hunresolved
        dsimp only
        rw [hpend]
        -- creating the promise: nobody awaited it, or it was there
        have hcreate : SaveInv { s with
            onPersistSavedPromise := some .pending } := by
          refine ⟨h.congr rfl rfl rfl rfl rfl rfl,
            h.call_le, h.frame_lt, h.inner, by simp, ?_, by simp,
            h.returned⟩
          intro _ call hc hph f hf
          cases hp : s.onPersistSavedPromise with
          | none => exact absurd hp (h.saved_promise call hc hph)
          | some p =>
              cases p with
              | pending => exact h.saved_pending hp call hc hph f hf
              | resolved => exact absurd hp hunresolved
        have hpush := hcreate.pushCall .awaitSaved
          (fun _ => ⟨rfl, hframes⟩) (by simp)
        exact hpush.savePersistThrottled (hflush rfl)
    · rw [if_neg hch]
      have hclear : s.persistChanged = false := by simpa using hch
      exact h.pushCall _ (by simp) fun _ => h.settled hclear (hsettled hclear)
  · rw [if_neg hready]
    exact h.pushCall _ (by simp) (by simp)

-- ======================================================== step and run

/-- One guarded step preserves the invariant. -/
theorem saveInv_step {s s' : ActorInstance R} {a : SaveStep R}
    (h : SaveInv s) (hsafe : s.SaveSafe a)
    (hstep : saveStep opts s a = some s') : SaveInv s' := by
  cases a with
  | onChange path valid f =>
      injection hstep with hstep
      rw [← hstep]
      exact h.onChange path valid f
  | saveState o =>
      injection hstep with hstep
      rw [← hstep]
      exact h.saveState o hsafe
  | savePersistThrottled =>
      injection hstep with hstep
      rw [← hstep]
      exact h.savePersistThrottled hsafe
  | saveTimeout =>
      simp only [saveStep, ActorInstance.saveTimeout] at hstep
      split at hstep
      case h_2 => cases hstep
      case h_1 =>
        injection hstep with hstep
        rw [← hstep]
        have h' : SaveInv { s with pendingSaveTimeout := none } :=
          h.untouched _ _ _ _ _ _ _
        exact h'.savePersistInner (by simp) hsafe
  | driverWrite ok => exact h.driverWrite hsafe hstep
  | drainLoop => exact h.drainLoop hstep
  | resumeInner i => exact h.resumeInner hstep
  | resumeSaveState c => exact h.resumeSaveState hstep
  | dateNow t =>
      injection hstep with hstep
      rw [← hstep]
      exact h.untouched _ _ _ _ _ _ _
  | ready =>
      injection hstep with hstep
      rw [← hstep]
      exact h.untouched _ _ _ _ _ _ _
  | sleepCalled =>
      injection hstep with hstep
      rw [← hstep]
      exact h.untouched _ _ _ _ _ _ _
  | stopCalled =>
      injection hstep with hstep
      rw [← hstep]
      exact h.untouched _ _ _ _ _ _ _
  | clearSaveTimeout =>
      injection hstep with hstep
      rw [← hstep]
      exact h.untouched _ _ _ _ _ _ _

/-- The invariant holds along every guarded run. -/
theorem saveInv_reaches {s : ActorInstance R}
    (h : (saveSystem R opts).Reaches SaveSafe s) : SaveInv s := by
  refine h.invariant ?_ fun _ _ _ _ hinv hsafe hstep =>
    saveInv_step hinv hsafe hstep
  rintro s ⟨r, rfl⟩
  exact saveInv_initialized r

end ActorInstance

open ActorInstance

/-- In every run whose steps are `SaveSafe`, a `saveState` call that has
resolved normally had every change made before it stored by a write that
succeeded. -/
theorem saveContract_of_safe {s : ActorInstance R}
    (h : (saveSystem R opts).Reaches SaveSafe s) : s.SaveContract :=
  fun call hc hph => (saveInv_reaches h).returned call hc (Or.inr hph)

/-- One change, saved at once, with a driver whose write ends with
`ok`. -/
def immediateSave (ok : Bool) : List (SaveStep Nat) :=
  [.ready, .onChange ["state", "count"] true (· + 1),
    .saveState { immediate := true }, .driverWrite ok, .drainLoop,
    .resumeInner 0, .resumeSaveState 0]

/-- The guard admits the successful save, and its call has resolved. -/
theorem saveContract_of_safe_immediate :
    ∃ s : ActorInstance Nat,
      (saveSystem Nat ⟨10000⟩).run (.initialized 0) (immediateSave true)
        = some s
      ∧ s.calls = [⟨1, .resolved⟩] ∧ s.SaveContract := by
  refine ⟨_, rfl, rfl, @saveContract_of_safe Nat ⟨10000⟩ _ ?_⟩
  refine System.Reaches.run (immediateSave true) (.init ⟨0, rfl⟩) ?_ rfl
  decide

/-- A rejected driver write resolves the call that waits for it: the
contract does not hold of every run. -/
theorem saveContract_fails :
    ¬ ∀ s : ActorInstance Nat,
      (saveSystem Nat ⟨10000⟩).Reachable s → s.SaveContract := by
  intro hall
  have hcontract := hall _
    (System.Reachable.run (immediateSave false) (.init ⟨0, rfl⟩) rfl)
  exact absurd (hcontract ⟨1, .resolved⟩ (by decide) rfl) (by decide)

end RivetKit.Actor
