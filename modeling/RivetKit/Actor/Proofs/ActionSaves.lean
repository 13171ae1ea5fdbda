/-
No change of an action is forgotten in a run whose steps meet `ActionSafe`
(`actions_saved`): once the action has ended, its last change is stored, or
in a write under way, or queued, or left to the save timer.

Two ways of carrying a change make up the invariant. While the action runs
the dirty flag alone may stand for it. Once a save was asked for, or the
action has ended, the flag needs the timer.
-/
import RivetKit.Actor.Actions
import RivetKit.Actor.Proofs.Carried

namespace RivetKit.Actor

open Transition
open Utils
open Js

universe u

variable {R : Type u} {opts : ActorOptions}

-- ============================================================ the contract

/-- The snapshot has the first `c` changes. -/
def Snapshot.HasChange (c : Nat) (snapshot : Snapshot R) : Prop :=
  c ≤ snapshot.changes

namespace ActingInstance

/-- The change `c` is in the last successful write, or in one that is in
flight or queued, or a save timer is armed that is due within the interval
from the last save. -/
def Kept (opts : ActorOptions) (s : ActingInstance R) (c : Nat) : Prop :=
  s.stored.HasChange c
    ∨ (∃ snapshot, s.write = some ⟨snapshot, .inFlight⟩
      ∧ snapshot.HasChange c)
    ∨ s.Queued
    ∨ ∃ due, s.pendingSaveTimeout = some ⟨due, false⟩
      ∧ due ≤ s.lastSaveTime + opts.stateSaveInterval

/-- What an action that has finished changed is kept. -/
def NotForgotten (opts : ActorOptions) (s : ActingInstance R) : Prop :=
  ∀ frame ∈ s.actions, frame.finished = true →
    ∀ c, frame.lastChange = some c → s.Kept opts c

/-- A write fails only while another is queued, or the flag is set again
and the timer armed, or it has no change of an action that is not stored.
An action that does not end in `executeAction` has changed nothing since a
save was last asked for, or a write is queued, or the timer armed. The
clock does not go back. -/
def ActionSafe (s : ActingInstance R) : ActionStep R → Prop
  | .save (.driverWrite false) =>
      s.Queued ∨ (s.persistChanged = true ∧ s.TimerArmed)
        ∨ ∀ frame ∈ s.actions, ∀ c, frame.lastChange = some c →
          s.stored.HasChange c ∨ ¬ s.pending.HasChange c
  | .save (.dateNow t) => s.now ≤ t
  | .finishAction a =>
      ∀ frame, s.actions[a]? = some frame → frame.late = true →
        frame.lastChange = none ∨ frame.saved = true ∨ s.Queued
          ∨ s.TimerArmed
  | _ => True

end ActingInstance

-- =============================================================== the timer

namespace ActorInstance

/-- The save timer is due within the interval from the last save, which
was not after now. -/
structure TimerInv (opts : ActorOptions) (s : ActorInstance R) : Prop where
  uncleared : s.Uncleared
  due : ∀ t, s.pendingSaveTimeout = some t →
    t.due ≤ s.lastSaveTime + opts.stateSaveInterval
  clock : s.lastSaveTime ≤ s.now

variable {s s' : ActorInstance R}

theorem TimerInv.of_eq (h : TimerInv opts s)
    (htimer : s'.pendingSaveTimeout = s.pendingSaveTimeout)
    (hsave : s'.lastSaveTime = s.lastSaveTime) (hnow : s'.now = s.now) :
    TimerInv opts s' := by
  refine ⟨?_, ?_, ?_⟩
  · unfold Uncleared
    rw [htimer]
    exact h.uncleared
  · rw [htimer, hsave]
    exact h.due
  · rw [hsave, hnow]
    exact h.clock

/-- A save moves the window on. -/
theorem TimerInv.savePersistInner (h : TimerInv opts s)
    (call : Option Nat) : TimerInv opts (s.savePersistInner call) := by
  have h' : TimerInv opts { s with lastSaveTime := s.now } := by
    refine ⟨h.uncleared, ?_, Int.le_refl _⟩
    intro t ht
    have hdue := h.due t ht
    have hclock := h.clock
    show t.due ≤ s.now + opts.stateSaveInterval
    omega
  unfold ActorInstance.savePersistInner
  dsimp only
  split
  · split
    · exact h'.of_eq rfl rfl rfl
    · exact h'.of_eq rfl rfl rfl
  · exact h'.of_eq rfl rfl rfl

theorem TimerInv.savePersistThrottled (h : TimerInv opts s) :
    TimerInv opts (s.savePersistThrottled opts) := by
  unfold ActorInstance.savePersistThrottled
  dsimp only
  split
  · split
    · refine ⟨?_, ?_, h.clock⟩
      · intro t ht
        injection ht with ht
        rw [← ht]
      · intro t ht
        injection ht with ht
        rw [← ht]
        dsimp only
        omega
    · exact h
  · exact h.savePersistInner none

theorem TimerInv.saveState (h : TimerInv opts s) (o : SaveStateOptions) :
    TimerInv opts (s.saveState opts o) := by
  unfold ActorInstance.saveState
  split
  · split
    · split
      · refine TimerInv.savePersistInner ?_ _
        exact h.of_eq rfl rfl rfl
      · refine TimerInv.savePersistThrottled ?_
        exact h.of_eq rfl rfl rfl
    · exact h.of_eq rfl rfl rfl
  · exact h.of_eq rfl rfl rfl

theorem TimerInv.onChange (h : TimerInv opts s) (path : List String)
    (valid : Bool) (f : R → R) : TimerInv opts (s.onChange path valid f) := by
  unfold ActorInstance.onChange
  dsimp only
  split
  · exact h.of_eq rfl rfl rfl
  · exact h.of_eq rfl rfl rfl

theorem TimerInv.saveStep (h : TimerInv opts s) {a : SaveStep R}
    (hclear : a ≠ .clearSaveTimeout) (hnow : ∀ t, a = .dateNow t → s.now ≤ t)
    (hstep : saveStep opts s a = some s') : TimerInv opts s' := by
  cases saveStep_cases hstep with
  | onChange path valid f heq =>
      rw [heq]
      exact h.onChange path valid f
  | saveState o heq =>
      rw [heq]
      exact h.saveState o
  | savePersistThrottled heq =>
      rw [heq]
      exact h.savePersistThrottled
  | saveTimeout heq =>
      rw [heq]
      apply TimerInv.savePersistInner
      refine ⟨?_, ?_, h.clock⟩
      · intro t ht
        cases ht
      · intro t ht
        cases ht
  | driverWrite ok hwrite =>
      unfold ActorInstance.driverWrite at hwrite
      split at hwrite
      · injection hwrite with hwrite
        rw [← hwrite]
        exact h.of_eq rfl rfl rfl
      · cases hwrite
  | drainLoop hdrain =>
      unfold ActorInstance.drainLoop at hdrain
      split at hdrain
      · injection hdrain with hdrain
        rw [← hdrain]
        split
        · exact h.of_eq rfl rfl rfl
        · exact h.of_eq rfl rfl rfl
      · cases hdrain
  | clearSaveTimeout heq => exact absurd rfl hclear
  | dateNow t heq =>
      rw [heq]
      exact ⟨h.uncleared, h.due, Int.le_trans h.clock (hnow t rfl)⟩
  | untouched _ _ huntouched =>
      exact h.of_eq huntouched.timer huntouched.lastSave huntouched.now

end ActorInstance

-- =========================================================== the invariant

namespace ActingInstance

open ActorInstance

/-- What carries the last change of an action. -/
structure FrameInv (t : ActorInstance R) (frame : ActionFrame) (c : Nat) :
    Prop where
  counted : t.current.HasChange c
  dirty : t.Carried (Snapshot.HasChange c) True
  saved : frame.saved = true ∨ frame.finished = true →
    t.Carried (Snapshot.HasChange c) t.TimerArmed

/-- The save path, and what carries the changes of the actions. -/
structure ActionInv (opts : ActorOptions) (s : ActingInstance R) : Prop
    extends WriteInv s.toActorInstance, TimerInv opts s.toActorInstance where
  frames : ∀ frame ∈ s.actions, ∀ c, frame.lastChange = some c →
    FrameInv s.toActorInstance frame c

variable {s s' : ActingInstance R} {t t' : ActorInstance R}
variable {frame : ActionFrame} {c : Nat}

/-- What is converted or left to the timer is kept. -/
theorem ActionInv.kept (h : ActionInv opts s)
    (hc : s.Carried (Snapshot.HasChange c) s.TimerArmed) :
    s.Kept opts c := by
  rcases hc with (hc | hc) | ⟨-, hc⟩
  · unfold pending at hc
    split at hc
    case h_1 snapshot hwrite => exact Or.inr (Or.inl ⟨snapshot, hwrite, hc⟩)
    case h_2 => exact Or.inl hc
  · exact Or.inr (Or.inr (Or.inl hc))
  · unfold TimerArmed at hc
    cases htimer : s.pendingSaveTimeout with
    | none =>
        rw [htimer] at hc
        cases hc
    | some timer =>
        have hclear := h.uncleared timer htimer
        have hdue := h.due timer htimer
        obtain ⟨due, cleared⟩ := timer
        rw [show cleared = false from hclear] at htimer
        exact Or.inr (Or.inr (Or.inr ⟨due, htimer, hdue⟩))

theorem ActionInv.notForgotten (h : ActionInv opts s) :
    s.NotForgotten opts := by
  intro frame hframe hfinished c hc
  exact h.kept ((h.frames frame hframe c hc).saved (Or.inr hfinished))

theorem actionInv_initialized (r : R) :
    ActionInv opts ({ toActorInstance := .initialized r } :
      ActingInstance R) := by
  refine ⟨writeInv_initialized r, ⟨?_, ?_, Int.le_refl _⟩, ?_⟩
  · intro t ht
    cases ht
  · intro t ht
    cases ht
  · intro frame hframe
    cases hframe

-- ============================================================= the effects

/-- A mutation raises the flag at most. -/
theorem FrameInv.onChange (h : FrameInv t frame c) (path : List String)
    (valid : Bool) (f : R → R) : FrameInv (t.onChange path valid f) frame c := by
  unfold ActorInstance.onChange
  dsimp only
  split
  · refine ⟨Nat.le_succ_of_le h.counted, Or.inr ⟨rfl, trivial⟩, ?_⟩
    intro hsaved
    rcases h.saved hsaved with hc | ⟨-, hc⟩
    · exact Or.inl hc
    · exact Or.inr ⟨rfl, hc⟩
  · exact ⟨h.counted, h.dirty, h.saved⟩

/-- The guard on a write that fails, for one change. -/
def MayFail (t : ActorInstance R) (c : Nat) : Prop :=
  t.Queued ∨ (t.persistChanged = true ∧ t.TimerArmed)
    ∨ t.stored.HasChange c ∨ ¬ t.pending.HasChange c

/-- A failure leaves what else carries the change. -/
theorem carried_of_mayFail {C : Prop} (hfail : MayFail t c)
    (hC : t.TimerArmed → C) (h : t.Carried (Snapshot.HasChange c) C) :
    t.stored.HasChange c ∨ t.Queued ∨ t.persistChanged = true ∧ C := by
  rcases hfail with hq | ⟨hflag, harmed⟩ | hstored | hnot
  · exact Or.inr (Or.inl hq)
  · exact Or.inr (Or.inr ⟨hflag, hC harmed⟩)
  · exact Or.inl hstored
  · rcases h with (h | h) | h
    · exact absurd h hnot
    · exact Or.inr (Or.inl h)
    · exact Or.inr (Or.inr h)

/-- A step of the save path keeps what carries a change. -/
theorem FrameInv.effect {fails : Prop} (h : FrameInv t frame c)
    (heffect : SaveEffect fails t t') (hcurrent : t'.current = t.current)
    (hfail : fails → MayFail t c) : FrameInv t' frame c := by
  refine ⟨hcurrent ▸ h.counted, ?_, ?_⟩
  · refine h.dirty.effect h.counted heffect ?_ fun _ _ _ => trivial
    intro hfails
    exact carried_of_mayFail (hfail hfails) (fun _ => trivial) h.dirty
  · intro hsaved
    refine (h.saved hsaved).effect h.counted heffect ?_ ?_
    · intro hfails
      exact carried_of_mayFail (hfail hfails) id (h.saved hsaved)
    · intro _ harmed htimer
      exact htimer harmed

/-- A save that was asked for is one. -/
theorem FrameInv.markSaved (h : FrameInv t frame c)
    (hcurrent : t'.current = t.current)
    (hc : t'.Carried (Snapshot.HasChange c) t'.TimerArmed)
    (frame' : ActionFrame) : FrameInv t' frame' c :=
  ⟨hcurrent ▸ h.counted, hc.mono fun _ => trivial, fun _ => hc⟩

-- =============================================================== the steps

/-- The frames of `actions` stand for frames there were. -/
def SameChanges (s : ActingInstance R) (actions : List ActionFrame) :
    Prop :=
  ∀ frame ∈ actions, ∃ old ∈ s.actions, frame.lastChange = old.lastChange

theorem sameChanges_set {a : Nat} (hframe : s.actions[a]? = some frame)
    {frame' : ActionFrame} (hsame : frame'.lastChange = frame.lastChange) :
    s.SameChanges (s.actions.set a frame') := by
  intro x hx
  rcases List.mem_or_eq_of_mem_set hx with hx | hx
  · exact ⟨x, hx, rfl⟩
  · rw [hx]
    exact ⟨frame, List.mem_of_getElem? hframe, hsame⟩

/-- After a save every frame is marked, and each change has a write or the
timer. -/
theorem ActionInv.markSaved (h : ActionInv opts s) (hwrite : WriteInv t)
    (htimer : TimerInv opts t) (hcurrent : t.current = s.current)
    (hcarried : ∀ c, s.current.HasChange c →
      s.Carried (Snapshot.HasChange c) True →
      t.Carried (Snapshot.HasChange c) t.TimerArmed)
    {actions : List ActionFrame} (hactions : s.SameChanges actions) :
    ActionInv opts { toActorInstance := t, actions := markSaved actions } := by
  refine ⟨hwrite, htimer, ?_⟩
  intro frame hframe c hc
  obtain ⟨frame', hframe', heq⟩ := List.mem_map.1 hframe
  obtain ⟨old, hold, hsame⟩ := hactions frame' hframe'
  have hold := h.frames old hold c (by
    rw [← hsame, ← hc, ← heq])
  exact hold.markSaved hcurrent (hcarried c hold.counted hold.dirty) frame

theorem ActionInv.saveAfterAction (h : ActionInv opts s)
    {actions : List ActionFrame} (hactions : s.SameChanges actions) :
    ActionInv opts
      ({ s with actions := actions }.saveAfterAction opts) := by
  apply h.markSaved h.toWriteInv.savePersistThrottled
    h.toTimerInv.savePersistThrottled (savePersistThrottled_current _)
  · intro c hcounted hdirty
    exact hdirty.savePersistThrottled hcounted h.uncleared
  · exact hactions

theorem callAction_inv (h : ActionInv opts s) {path : ActionPath}
    (hstep : s.callAction path = some s') : ActionInv opts s' := by
  unfold callAction at hstep
  split at hstep
  · injection hstep with hstep
    rw [← hstep]
    refine ⟨h.toWriteInv, h.toTimerInv, ?_⟩
    intro frame hframe c hc
    rcases List.mem_append.1 hframe with hframe | hframe
    · exact h.frames frame hframe c hc
    · rw [List.mem_singleton.1 hframe] at hc
      cases hc
  · cases hstep

/-- A tracked change of an action sets the flag, and asks for no save. -/
theorem change_inv (h : ActionInv opts s) {a : Nat} {path : List String}
    {valid : Bool} {f : R → R} (hstep : s.change a path valid f = some s') :
    ActionInv opts s' := by
  unfold change at hstep
  split at hstep
  case h_1 frame hframe =>
    split at hstep
    case isTrue => cases hstep
    case isFalse hrunning =>
      injection hstep with hstep
      rw [← hstep]
      refine ⟨h.toWriteInv.onChange path valid f,
        h.toTimerInv.onChange path valid f, ?_⟩
      intro x hx c hc
      rcases List.mem_or_eq_of_mem_set hx with hx | hx
      · exact (h.frames x hx c hc).onChange path valid f
      · by_cases htracked : path.head? = some "state" ∧ valid = true
        · rw [if_pos htracked] at hx
          rw [hx] at hc ⊢
          injection hc with hc
          have hflag : (s.onChange path valid f).persistChanged = true := by
            unfold ActorInstance.onChange
            rw [if_pos htracked]
          refine ⟨Nat.le_of_eq hc.symm, Or.inr ⟨hflag, trivial⟩, ?_⟩
          intro hsaved
          rcases hsaved with hsaved | hfinished
          · cases hsaved
          · exact absurd hfinished hrunning
        · rw [if_neg htracked] at hx
          rw [hx] at hc ⊢
          exact (h.frames frame (List.mem_of_getElem? hframe) c hc).onChange
            path valid f
  case h_2 => cases hstep

theorem actionTimeout_inv (h : ActionInv opts s) {a : Nat}
    (hstep : s.actionTimeout opts a = some s') : ActionInv opts s' := by
  unfold actionTimeout at hstep
  split at hstep
  case h_1 frame hframe =>
    split at hstep
    · cases hstep
    · injection hstep with hstep
      rw [← hstep]
      exact h.saveAfterAction (sameChanges_set hframe rfl)
  case h_2 => cases hstep

/-- The end of an action that `executeAction` still awaits saves. That of
another is guarded. -/
theorem finishAction_inv (h : ActionInv opts s) {a : Nat}
    (hsafe : s.ActionSafe (.finishAction a))
    (hstep : s.finishAction opts a = some s') : ActionInv opts s' := by
  unfold finishAction at hstep
  split at hstep
  case h_1 frame hframe =>
    split at hstep
    case isTrue => cases hstep
    case isFalse =>
      injection hstep with hstep
      rw [← hstep]
      by_cases hlate : frame.late = true
      · rw [if_pos hlate]
        refine ⟨h.toWriteInv, h.toTimerInv, ?_⟩
        intro x hx c hc
        rcases List.mem_or_eq_of_mem_set hx with hx | hx
        · exact h.frames x hx c hc
        · rw [hx] at hc ⊢
          have hold := h.frames frame (List.mem_of_getElem? hframe) c hc
          refine ⟨hold.counted, hold.dirty, ?_⟩
          intro _
          rcases hsafe frame hframe hlate with
            hnone | hsaved | hqueued | harmed
          · rw [show frame.lastChange = some c from hc] at hnone
            cases hnone
          · exact hold.saved (Or.inl hsaved)
          · exact Or.inl (Or.inr hqueued)
          · exact hold.dirty.mono fun _ => harmed
      · rw [if_neg hlate]
        exact h.saveAfterAction (sameChanges_set hframe rfl)
  case h_2 => cases hstep

/-- A step of the save path that asks for no save keeps what carries each
change. -/
theorem ActionInv.saveStep (h : ActionInv opts s) {a : SaveStep R}
    (hadmits : admits a = true) (hsafe : s.ActionSafe (.save a))
    (hstep : Actor.saveStep opts s.toActorInstance a = some t) :
    ActionInv opts { s with toActorInstance := t } := by
  have hclear : a ≠ .clearSaveTimeout := by
    intro ha
    rw [ha] at hadmits
    cases hadmits
  have hnow : ∀ now, a = .dateNow now → s.now ≤ now := by
    intro now ha
    rw [ha] at hsafe
    exact hsafe
  refine ⟨writeInv_step h.toWriteInv hstep,
    h.toTimerInv.saveStep hclear hnow hstep, ?_⟩
  intro frame hframe c hc
  have hold := h.frames frame hframe c hc
  by_cases hmutate : ∃ path valid f, a = .onChange path valid f
  · obtain ⟨path, valid, f, ha⟩ := hmutate
    rw [ha] at hstep
    injection hstep with hstep
    show FrameInv t frame c
    rw [← hstep]
    exact hold.onChange path valid f
  · have hmutate : ∀ path valid f, a ≠ .onChange path valid f :=
      fun path valid f ha => hmutate ⟨path, valid, f, ha⟩
    refine hold.effect (saveStep_effect h.toWriteInv hmutate hclear hstep)
      (saveStep_current hmutate hstep) ?_
    intro ha
    rw [ha] at hsafe
    rcases hsafe with hqueued | hflag | hframes
    · exact Or.inl hqueued
    · exact Or.inr (Or.inl hflag)
    · exact Or.inr (Or.inr (hframes frame hframe c hc))

/-- One that asks for a save has each change converted or left to the
timer. -/
theorem carried_of_asksSave (h : ActionInv opts s) {a : SaveStep R}
    (hasks : s.asksSave a = true)
    (hstep : Actor.saveStep opts s.toActorInstance a = some t)
    (hcounted : s.current.HasChange c)
    (hdirty : s.Carried (Snapshot.HasChange c) True) :
    t.Carried (Snapshot.HasChange c) t.TimerArmed := by
  cases saveStep_cases hstep with
  | saveState o heq =>
      rw [heq]
      exact hdirty.saveState hcounted h.uncleared hasks
  | savePersistThrottled heq =>
      rw [heq]
      exact hdirty.savePersistThrottled hcounted h.uncleared
  | saveTimeout heq =>
      have hfired : ({ s.toActorInstance with
          pendingSaveTimeout := none }).Carried
            (Snapshot.HasChange c) True := hdirty
      rw [heq]
      exact Or.inl (hfired.savePersistInner hcounted none)
  | untouched _ hbookkeeps _ =>
      cases a with
      | saveState o => cases hbookkeeps
      | savePersistThrottled => cases hbookkeeps
      | saveTimeout => cases hbookkeeps
      | _ => cases hasks
  | _ => cases hasks

theorem actionStep_inv (h : ActionInv opts s) {a : ActionStep R}
    (hsafe : s.ActionSafe a) (hstep : actionStep opts s a = some s') :
    ActionInv opts s' := by
  cases a with
  | callAction path => exact callAction_inv h hstep
  | change a path valid f => exact change_inv h hstep
  | actionTimeout a => exact actionTimeout_inv h hstep
  | finishAction a => exact finishAction_inv h hsafe hstep
  | save a =>
      simp only [actionStep] at hstep
      split at hstep
      case isFalse => cases hstep
      case isTrue hadmits =>
        cases ht : Actor.saveStep opts s.toActorInstance a with
        | none =>
            rw [ht] at hstep
            cases hstep
        | some t =>
            rw [ht] at hstep
            injection hstep with hstep
            rw [← hstep]
            have hsaved := h.saveStep hadmits hsafe ht
            by_cases hasks : s.asksSave a = true
            · rw [if_pos hasks]
              have hmutate : ∀ path valid f, a ≠ .onChange path valid f := by
                intro path valid f ha
                rw [ha] at hasks
                cases hasks
              apply h.markSaved hsaved.toWriteInv hsaved.toTimerInv
                (saveStep_current hmutate ht)
              · intro c hcounted hdirty
                exact carried_of_asksSave h hasks ht hcounted hdirty
              · intro frame hframe
                exact ⟨frame, hframe, rfl⟩
            · rw [if_neg hasks]
              exact hsaved

end ActingInstance

open ActingInstance

-- ============================================================= every run

/-- In every run whose steps meet `ActionSafe`, what the actions that have
ended changed is kept. -/
theorem actions_saved {s : ActingInstance R}
    (h : (actionSystem R opts).Reaches ActionSafe s) :
    s.NotForgotten opts := by
  apply ActionInv.notForgotten
  refine System.Reaches.invariant ?_ ?_ h
  · intro s hs
    obtain ⟨r, hs⟩ := hs
    rw [hs]
    exact actionInv_initialized r
  · intro s a s' _ h hsafe hstep
    exact actionStep_inv h hsafe hstep

/-- One save a second. -/
def everySecond : ActorOptions := ⟨1000⟩

/-- The steps of an action that adds one to the state. -/
def addOne (path : ActionPath) : List (ActionStep Nat) :=
  [.save .ready, .save (.dateNow 1700000000000), .callAction path,
    .change 0 ["state"] true (· + 1), .finishAction 0]

/-- An action over a connection, before its write settles. -/
theorem actions_saved_connection :
    (((actionSystem Nat everySecond).run
      { toActorInstance := .initialized 0 }
      (addOne .connection)).getD { toActorInstance := .initialized 0 }
        ).NotForgotten everySecond := by
  have hinit : (actionSystem Nat everySecond).Reaches ActionSafe
      { toActorInstance := .initialized 0 } := .init ⟨0, rfl⟩
  refine actions_saved (hinit.run (addOne .connection) ?_ rfl)
  refine ⟨trivial, ?_, trivial, trivial, ?_, trivial⟩
  · show (0 : Int) ≤ 1700000000000
    omega
  · intro frame hframe hlate
    injection hframe with hframe
    rw [← hframe] at hlate
    cases hlate

/-- A scheduled action leaves its change with nothing to save it. And the
write of an action over a connection fails, with the flag cleared when it
began. -/
theorem actions_forgotten :
    (∃ s, (actionSystem Nat everySecond).run
        { toActorInstance := .initialized 0 } (addOne .scheduled) = some s
        ∧ ¬ s.NotForgotten everySecond)
      ∧ ∃ s, (actionSystem Nat everySecond).run
        { toActorInstance := .initialized 0 }
        (addOne .connection ++ [.save (.driverWrite false)]) = some s
        ∧ ¬ s.NotForgotten everySecond := by
  refine ⟨⟨_, rfl, ?_⟩, ⟨_, rfl, ?_⟩⟩
  · intro h
    rcases h _ (.head _) rfl 1 rfl with
      hstored | ⟨snapshot, hwrite, -⟩ | hqueued | ⟨due, htimer, -⟩
    · exact absurd (show 1 ≤ 0 from hstored) (by decide)
    · cases hwrite
    · cases hqueued
    · cases htimer
  · intro h
    rcases h _ (.head _) rfl 1 rfl with
      hstored | ⟨snapshot, hwrite, -⟩ | hqueued | ⟨due, htimer, -⟩
    · exact absurd (show 1 ≤ 0 from hstored) (by decide)
    · injection hwrite with hwrite
      injection hwrite with _ hphase
      cases hphase
    · cases hqueued
    · cases htimer

end RivetKit.Actor
