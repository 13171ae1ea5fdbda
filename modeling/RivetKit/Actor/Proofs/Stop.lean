/-
In every run whose steps meet `StopSafe` each `_stop` that resolves leaves
the user state in memory in the last bytes written (`stop_final_state`).

Three facts carry it. While `_stop` is on its way, a user state that the
pending write lacks is flagged or a write is queued. Behind the last
`saveState` of `_stop`, which begins or queues a write for what is flagged,
a set flag is due to a late change or has a write queued for it. Once
`_stop` is done with the persist queue, the last write and any running one
have the user state.
-/
import RivetKit.Actor.Proofs.Carried
import RivetKit.Actor.Proofs.Metadata
import RivetKit.Actor.PersistSchema
import RivetKit.Actor.Stop

namespace RivetKit.Actor

open Transition
open Utils
open Js

variable {codec : Codec} {opts : ActorOptions}

-- ========================================================= the user state

namespace LiveInstance

variable {s s' : LiveInstance}

/-- The user state is that of the snapshot. -/
def HasState (v : Value) (snapshot : Snapshot PersistedActor) : Prop :=
  snapshot.persist.state = v

theorem mutate_state (s : LiveInstance) {path : Option (List String)}
    {valid : Bool} {f : PersistedActor → PersistedActor}
    (hf : ∀ p, (f p).state = p.state) :
    (s.mutate path valid f).persistRaw.state = s.persistRaw.state := by
  unfold mutate
  split
  · unfold ActorInstance.onChange
    dsimp only
    split
    · exact hf _
    · exact hf _
  · exact hf _

theorem mutateConn_state (s : LiveInstance) (conn : Conn) (key : String)
    (f : PersistedConn → PersistedConn) :
    (s.mutateConn conn key f).persistRaw.state = s.persistRaw.state := by
  unfold mutateConn
  exact s.mutate_state fun _ => rfl

theorem callSaveState_state (s : LiveInstance) (o : SaveStateOptions) :
    (s.callSaveState opts o).persistRaw.state = s.persistRaw.state :=
  congrArg PersistedActor.state (saveState_persistRaw s.toActorInstance o)

theorem createConn_state {id token : String} {params state : Value}
    {driver : ConnectionDriver} {driverState auth : Value}
    (h : s.createConn opts id token params state driver driverState auth
      = some s') : s'.persistRaw.state = s.persistRaw.state := by
  unfold createConn at h
  split at h
  · injection h with h
    rw [← h, callSaveState_state, mutate_state]
    · exact s.mutate_state fun _ => rfl
    · intro p
      rfl
  · cases h

theorem addSubscription_state (s : LiveInstance) (eventName : String)
    (c : Nat) :
    (s.addSubscription opts eventName c false).persistRaw.state
      = s.persistRaw.state := by
  unfold addSubscription
  split
  · rfl
  · split
    · rfl
    · simp only [Bool.false_eq_true, if_false]
      rw [callSaveState_state, mutateConn_state]

theorem removeSubscription_state (s : LiveInstance) (eventName : String)
    (c : Nat) :
    (s.removeSubscription opts eventName c false).persistRaw.state
      = s.persistRaw.state := by
  unfold removeSubscription
  split
  · rfl
  · split
    · rfl
    · simp only [Bool.false_eq_true, if_false]
      rw [callSaveState_state, mutateConn_state]

theorem removeConn_state (s : LiveInstance) (c : Nat) :
    (s.removeConn opts c).persistRaw.state = s.persistRaw.state := by
  unfold removeConn
  split
  · rfl
  · dsimp only
    rw [foldl_toActorInstance fun t eventName =>
      t.removeSubscription_fromRemoveConn eventName c]
    split
    · rw [callSaveState_state]
      exact s.mutate_state fun _ => rfl
    · rfl

/-- An operation leaves the user state. -/
theorem liveStep_state {a : LiveStep} (hop : operation a = true)
    (hstep : liveStep codec opts s a = some s') :
    s'.persistRaw.state = s.persistRaw.state := by
  cases a with
  | stateChange path valid f => cases hop
  | createConn id token params state driver driverState auth =>
      exact createConn_state hstep
  | removeConn c =>
      injection hstep with hstep
      rw [← hstep]
      exact s.removeConn_state c
  | addSubscription eventName c =>
      injection hstep with hstep
      rw [← hstep]
      exact s.addSubscription_state eventName c
  | removeSubscription eventName c =>
      injection hstep with hstep
      rw [← hstep]
      exact s.removeSubscription_state eventName c
  | setConnState c f =>
      injection hstep with hstep
      rw [← hstep]
      unfold setConnState
      split
      · rfl
      · exact s.mutateConn_state _ _ _
  | scheduleEvent event =>
      injection hstep with hstep
      rw [← hstep]
      exact s.mutate_state fun _ => rfl
  | onAlarm =>
      injection hstep with hstep
      rw [← hstep]
      exact s.mutate_state fun _ => rfl
  | checkLiveness c =>
      injection hstep with hstep
      rw [← hstep]
      unfold checkLiveness
      split
      · rfl
      · exact s.mutateConn_state _ _ _
  | stop => cases hop
  | save a => cases hop

end LiveInstance

-- =========================================================== the invariant

namespace StoppingInstance

open ActorInstance
open LiveInstance (HasState operation)

variable {s s' : StoppingInstance}

/-- The user state, on its way to the driver. -/
structure StateInv (t : ActorInstance PersistedActor) (drained : Prop) :
    Prop extends WriteInv t where
  carried : t.Carried (HasState t.persistRaw.state) True
  everywhere : drained → t.Everywhere (HasState t.persistRaw.state)

variable {t t' : ActorInstance PersistedActor} {drained : Prop}

/-- Another record with the same user state. -/
theorem StateInv.congr (h : StateInv t drained) (hwrite : WriteInv t')
    (heffect : SaveEffect False t t')
    (hcurrent : t'.persistRaw.state = t.persistRaw.state)
    (heverywhere : drained → t'.Everywhere (HasState t.persistRaw.state)) :
    StateInv t' drained := by
  refine ⟨hwrite, ?_, ?_⟩
  · rw [hcurrent]
    refine h.carried.effect rfl heffect ?_ fun _ _ _ => trivial
    intro hfails
    exact hfails.elim
  · rw [hcurrent]
    exact heverywhere

/-- `_stop` is not done any more, or not yet. -/
theorem StateInv.undrained {drained' : Prop} (h : StateInv t drained)
    (hdrained : ¬ drained') : StateInv t drained' :=
  ⟨h.toWriteInv, h.carried, fun hd => absurd hd hdrained⟩

/-- `_stop` is done when no loop runs and the flag is clear. -/
theorem StateInv.drained_of_idle (h : StateInv t drained)
    (hwrite : t.write = none) (hflag : t.persistChanged = false) : StateInv t True := by
  have hrun := h.running_none_iff.2 hwrite
  have hpending : t.pending = t.stored := by
    unfold pending
    rw [hwrite]
  refine ⟨h.toWriteInv, h.carried, ?_⟩
  intro _
  refine ⟨?_, ?_⟩
  · rcases h.carried with (hc | hqueued) | ⟨hset, -⟩
    · rw [hpending] at hc
      exact hc
    · have hsome := h.queue.queued_running hqueued
      rw [hrun] at hsome
      cases hsome
    · rw [hflag] at hset
      cases hset
  · intro w hw
    rw [hwrite] at hw
    cases hw

/-- A call of `saveState`. -/
theorem StateInv.saveState (h : StateInv t drained)
    (o : SaveStateOptions) : StateInv (t.saveState opts o) drained := by
  apply h.congr (h.toWriteInv.saveState o) (saveState_saveEffect t o)
  · exact congrArg (·.persist.state) (saveState_current t o)
  · intro hdrained
    exact (h.everywhere hdrained).saveState rfl o

/-- A replaced record with the same user state. -/
theorem StateInv.replace (h : StateInv t drained) {p : PersistedActor}
    (hp : p.state = t.persistRaw.state) :
    StateInv { t with persistRaw := p } drained := by
  refine ⟨h.toWriteInv.congr rfl rfl rfl rfl rfl rfl, ?_, ?_⟩
  · show Carried (HasState p.state) True _
    rw [hp]
    exact h.carried
  · intro hdrained
    show Everywhere (HasState p.state) _
    rw [hp]
    exact h.everywhere hdrained

/-- An operation of the instance. -/
theorem StateInv.live {l l' : LiveInstance} {a : LiveStep}
    (h : StateInv l.toActorInstance drained) (hop : operation a = true)
    (hstep : liveStep codec opts l a = some l') :
    StateInv l'.toActorInstance drained := by
  have hstate := LiveInstance.liveStep_state hop hstep
  cases LiveInstance.liveStep_effect hop hstep with
  | saves p o him hsaves heq =>
      have hp : l'.persistRaw = p := by
        rw [heq]
        exact LiveInstance.saveState_persistRaw _ o
      rw [heq]
      refine (h.replace ?_).saveState o
      rw [← hp]
      exact hstate
  | mutates p hsaves heq =>
      have hp : l'.persistRaw = p := by rw [heq]
      rw [heq]
      refine h.replace ?_
      rw [← hp]
      exact hstate

/-- An operation sets no flag. -/
theorem live_flagKept {l l' : LiveInstance} {a : LiveStep}
    (hop : operation a = true)
    (hstep : liveStep codec opts l a = some l') :
    FlagKept l.toActorInstance l'.toActorInstance := by
  cases LiveInstance.liveStep_effect hop hstep with
  | saves p o him hsaves heq =>
      rw [heq]
      exact saveState_flagKept { l.toActorInstance with persistRaw := p } o
  | mutates p hsaves heq =>
      rw [heq]
      exact .of_eq rfl rfl rfl

/-- A change of the user state is flagged. -/
theorem StateInv.stateChange {l : LiveInstance}
    (h : StateInv l.toActorInstance drained) {path : List String}
    (hpath : path.head? = some "state") {valid : Bool} {f : Value → Value}
    (hsafe : f l.persistRaw.state = l.persistRaw.state
      ∨ valid = true ∧ ¬ drained) :
    StateInv (l.mutate (some path) valid fun p =>
      { p with state := f p.state }).toActorInstance drained := by
  have hwrite : WriteInv (l.onChange path valid fun p =>
      { p with state := f p.state }) := h.toWriteInv.onChange path valid _
  change StateInv (l.onChange path valid fun p =>
    { p with state := f p.state }) drained
  rcases hsafe with hsame | ⟨hvalid, hundrained⟩
  · have hraw : (l.onChange path valid fun p : PersistedActor =>
        { p with state := f p.state }).persistRaw.state
          = l.persistRaw.state := by
      unfold ActorInstance.onChange
      dsimp only
      split
      · exact hsame
      · exact hsame
    refine ⟨hwrite, ?_, ?_⟩
    · rw [hraw]
      unfold ActorInstance.onChange
      dsimp only
      split
      · exact Or.inr ⟨rfl, trivial⟩
      · exact h.carried
    · intro hdrained
      rw [hraw]
      unfold ActorInstance.onChange
      dsimp only
      split
      · exact (h.everywhere hdrained).of_eq rfl rfl
      · exact (h.everywhere hdrained).of_eq rfl rfl
  · refine ⟨hwrite, ?_, ?_⟩
    · unfold ActorInstance.onChange
      rw [if_pos ⟨hpath, hvalid⟩]
      exact Or.inr ⟨rfl, trivial⟩
    · intro hdrained
      exact absurd hdrained hundrained

/-- A step of the save path. -/
theorem StateInv.saveStep (h : StateInv t drained)
    {a : SaveStep PersistedActor}
    (hmutate : ∀ path valid f, a ≠ .onChange path valid f)
    (hclear : a ≠ .clearSaveTimeout)
    (hfail : a = .driverWrite false →
      t.persistChanged = true ∨ t.Queued
        ∨ t.stored.persist.state = t.persistRaw.state)
    (hstep : saveStep opts t a = some t') : StateInv t' drained := by
  have hcurrent := saveStep_current hmutate hstep
  have hraw : t'.persistRaw.state = t.persistRaw.state :=
    congrArg (·.persist.state) hcurrent
  refine ⟨writeInv_step h.toWriteInv hstep, ?_, ?_⟩
  · rw [hraw]
    refine h.carried.effect rfl
      (saveStep_effect h.toWriteInv hmutate hclear hstep) ?_
      fun _ _ _ => trivial
    intro ha
    rcases hfail ha with hflag | hqueued | hstored
    · exact Or.inr (Or.inr ⟨hflag, trivial⟩)
    · exact Or.inr (Or.inl hqueued)
    · exact Or.inl hstored
  · intro hdrained
    rw [hraw]
    exact (h.everywhere hdrained).saveStep rfl hmutate hstep

/-- Behind the last `saveState` a set flag is due to a late change, or has
a write queued for it. -/
def Flagged (s : StoppingInstance) : Prop :=
  s.stopPc.any StopPc.behindSave = true → s.persistChanged = true →
    s.Queued ∨ s.lateChange = true

/-- The invariant of the guarded runs. -/
structure StopInv (s : StoppingInstance) : Prop where
  state : StateInv s.toActorInstance s.Drained
  flagged : s.Flagged
  resolutions : s.FinalState

theorem not_drained {pc : StopPc} (hpc : s.stopPc = some pc)
    (hfalse : pc ≠ .persistQueue true) (halarm : pc ≠ .alarmQueue) :
    ¬ s.Drained := by
  intro h
  rcases h with h | h
  · rw [hpc] at h
    injection h with h
    exact hfalse h
  · rw [hpc] at h
    injection h with h
    exact halarm h

/-- `_stop` moves on behind its last `saveState`, or not before it. -/
theorem Flagged.move (h : s.Flagged) {pc : StopPc}
    (hpc : pc.behindSave = true → s.stopPc.any StopPc.behindSave = true) :
    Flagged { s with stopPc := some pc } :=
  fun hbehind => h (hpc hbehind)

/-- The instance goes on without a change of the user state. -/
theorem Flagged.goesOn (h : s.Flagged) {l : LiveInstance}
    (hkept : FlagKept s.toActorInstance l.toActorInstance) :
    Flagged (s.goesOn false l) := by
  intro hbehind hset
  obtain ⟨hflag, hqueued, hwriting⟩ := hkept hset
  rcases h hbehind hflag with hq | hlate
  · exact Or.inl (hqueued hq)
  · right
    show ((s.lateChange || false && _) && (s.writing || !l.writing)) = true
    rw [hlate]
    cases hw : l.writing with
    | false => simp
    | true => simp [hwriting hw]

/-- A change of the user state is late, if it comes behind the last
`saveState`, and begins no write. -/
theorem Flagged.changed {l : LiveInstance}
    (hwrite : l.write = s.write) : Flagged (s.goesOn true l) := by
  intro hbehind _
  right
  have hbehind : s.stopPc.any StopPc.behindSave = true := hbehind
  show ((s.lateChange || true && s.stopPc.any StopPc.behindSave)
    && (s.writing || !l.writing)) = true
  have hsame : l.writing = s.writing := by
    unfold writing
    rw [hwrite]
  rw [hbehind, hsame]
  simp

/-- Where no loop runs and no change is late, the flag is clear. -/
theorem StopInv.flag_clear (h : StopInv s)
    (hbehind : s.stopPc.any StopPc.behindSave = true)
    (hrun : s.persistWriteQueue.runningDrainLoop.isSome = false)
    (hlate : s.lateChange = false) : s.persistChanged = false := by
  by_contra hset
  rcases h.flagged hbehind (Bool.not_eq_false _ ▸ hset) with hqueued | hset
  · rw [h.state.queue.queued_running hqueued] at hrun
    cases hrun
  · rw [hlate] at hset
    cases hset

-- =============================================================== the steps

theorem stop_inv (h : StopInv s) (hsafe : s.StopSafe .stop) :
    StopInv s.stop := by
  unfold stop
  rw [if_neg (by rw [show s.stopCalled = false from hsafe]; simp)]
  refine ⟨⟨?_, h.state.carried, ?_⟩, ?_, h.resolutions⟩
  · exact h.state.toWriteInv.congr rfl rfl rfl rfl rfl rfl
  · intro hdrained
    exact absurd hdrained (not_drained rfl (by simp) (by simp))
  · intro hbehind
    cases hbehind

theorem onStopEnds_inv (h : StopInv s) (hstep : s.onStopEnds = some s') :
    StopInv s' := by
  unfold onStopEnds at hstep
  split at hstep
  · injection hstep with hstep
    rw [← hstep]
    exact ⟨h.state.undrained (not_drained rfl (by simp) (by simp)),
      h.flagged.move fun hbehind => (nomatch hbehind), h.resolutions⟩
  · cases hstep

/-- The last `saveState` begins a write for what is flagged, or queues
it. -/
theorem backgroundEnds_inv (h : StopInv s)
    (hstep : s.backgroundEnds opts = some s') : StopInv s' := by
  unfold backgroundEnds at hstep
  split at hstep
  · injection hstep with hstep
    rw [← hstep]
    have hcleared : StateInv s.clearSaveTimeout s.Drained :=
      ⟨h.state.toWriteInv.congr rfl rfl rfl rfl rfl rfl, h.state.carried,
        h.state.everywhere⟩
    refine ⟨?_, ?_, h.resolutions⟩
    · refine (hcleared.saveState
        { immediate := true, allowStoppingState := true }).undrained ?_
      split
      · exact not_drained rfl (by simp) (by simp)
      · exact not_drained rfl (by simp) (by simp)
    · intro hbehind hset
      by_cases hready : s.assertReady true = true
      · exact Or.inl (queued_saveState (s := s.clearSaveTimeout)
          hready rfl hset)
      · dsimp only at hbehind
        rw [if_neg hready] at hbehind
        cases hbehind
  · cases hstep

theorem saveStateEnds_inv (h : StopInv s)
    (hstep : s.saveStateEnds = some s') : StopInv s' := by
  unfold saveStateEnds at hstep
  split at hstep
  case h_1 hpc =>
    split at hstep
    · injection hstep with hstep
      rw [← hstep]
      refine ⟨h.state.undrained (not_drained rfl (by simp) (by simp)),
        h.flagged.move ?_, h.resolutions⟩
      intro _
      rw [hpc]
      rfl
    · cases hstep
  case h_2 => cases hstep

/-- Where no loop runs and no change is late, everything is stored. -/
theorem closed_inv (h : StopInv s) (hsafe : s.StopSafe .closed)
    (hstep : s.closed = some s') : StopInv s' := by
  unfold closed at hstep
  split at hstep
  case h_1 hpc =>
    injection hstep with hstep
    have hbehind : s.stopPc.any StopPc.behindSave = true := by
      rw [hpc]
      rfl
    rw [← hstep]
    refine ⟨?_, h.flagged.move fun _ => hbehind, h.resolutions⟩
    by_cases hrun : s.persistWriteQueue.runningDrainLoop.isSome = true
    · rw [if_pos hrun]
      exact h.state.undrained (not_drained rfl (by simp) (by simp))
    · have hrun := Bool.eq_false_iff.2 hrun
      have hidle := h.state.running_none_iff.1
        (Option.isNone_iff_eq_none.1 (Option.isSome_eq_false_iff.1 hrun))
      have hdone := h.state.drained_of_idle hidle
        (h.flag_clear hbehind hrun (hsafe hrun))
      exact ⟨hdone.toWriteInv, hdone.carried,
        fun _ => hdone.everywhere trivial⟩
  case h_2 => cases hstep

theorem persistQueueEnds_inv (h : StopInv s)
    (hstep : s.persistQueueEnds = some s') : StopInv s' := by
  unfold persistQueueEnds at hstep
  split at hstep
  case h_1 hpc =>
    injection hstep with hstep
    rw [← hstep]
    refine ⟨⟨h.state.toWriteInv, h.state.carried,
      fun _ => h.state.everywhere (Or.inl hpc)⟩, h.flagged.move ?_,
      h.resolutions⟩
    intro _
    rw [hpc]
    rfl
  case h_2 => cases hstep

/-- `_stop` resolves. -/
theorem alarmQueueEnds_inv (h : StopInv s)
    (hstep : s.alarmQueueEnds = some s') : StopInv s' := by
  unfold alarmQueueEnds at hstep
  split at hstep
  case h_1 hpc =>
    injection hstep with hstep
    rw [← hstep]
    refine ⟨h.state.undrained (not_drained rfl (by simp) (by simp)),
      fun hbehind => (nomatch hbehind), ?_⟩
    intro r hr
    rcases List.mem_append.1 hr with hr | hr
    · exact h.resolutions r hr
    · rw [List.mem_singleton.1 hr]
      exact (h.state.everywhere (Or.inr hpc)).1
  case h_2 => cases hstep

theorem live_inv (h : StopInv s) {a : LiveStep}
    (hoperates : operates a = true) (hsafe : s.StopSafe (.live a))
    {l : LiveInstance}
    (hstep : liveStep codec opts s.toLiveInstance a = some l) :
    StopInv (s.goesOn (changesState a) l) := by
  have hoperation : operation a = true → changesState a = false →
      StopInv (s.goesOn (changesState a) l) := by
    intro hop hsame
    rw [hsame]
    exact ⟨h.state.live hop hstep,
      h.flagged.goesOn (live_flagKept hop hstep), h.resolutions⟩
  cases a with
  | stateChange path valid f =>
      simp only [liveStep] at hstep
      split at hstep
      case isTrue hpath =>
        injection hstep with hstep
        rw [← hstep]
        refine ⟨StateInv.stateChange h.state hpath hsafe, ?_, h.resolutions⟩
        apply Flagged.changed
        show (s.onChange path valid _).write = s.write
        unfold ActorInstance.onChange
        dsimp only
        split
        · rfl
        · rfl
      case isFalse => cases hstep
  | stop => cases hoperates
  | save a => cases hoperates
  | _ => exact hoperation rfl rfl

/-- The loop that `_stop` awaits ends with nothing left to save. -/
theorem afterSave_inv (h : StopInv s) {a : SaveStep PersistedActor}
    (hsafe : s.StopSafe (.save a))
    (hstep : saveStep opts s.toActorInstance a = some t)
    (ht : StateInv t s.Drained)
    (hkept : FlagKept s.toActorInstance t) :
    StopInv ((s.goesOn false
      { s.toLiveInstance with toActorInstance := t }).afterSave a) := by
  have hsame : StopInv (s.goesOn false
      { s.toLiveInstance with toActorInstance := t }) :=
    ⟨ht, h.flagged.goesOn hkept, h.resolutions⟩
  unfold afterSave
  split
  case h_1 =>
    split
    case isFalse => exact hsame
    case isTrue hended =>
      obtain ⟨hpc, hrun⟩ := hended
      have hpc : s.stopPc = some (.persistQueue false) := hpc
      have hrun : t.persistWriteQueue.runningDrainLoop.isSome = false :=
        Option.isSome_eq_false_iff.2 hrun
      have hidle := ht.running_none_iff.1
        (Option.isNone_iff_eq_none.1 (Option.isSome_eq_false_iff.1 hrun))
      have hbehind : s.stopPc.any StopPc.behindSave = true := by
        rw [hpc]
        rfl
      -- the loop ended, so nothing was queued, and the guard speaks
      have hslot : s.persistWriteQueue.queuedOp.isSome = false := by
        change s.drainLoop = some t at hstep
        unfold ActorInstance.drainLoop at hstep
        split at hstep
        · injection hstep with hstep
          rw [← hstep] at hidle
          split at hidle
          · cases hidle
          case isFalse hqueued => exact Bool.eq_false_iff.2 hqueued
        · cases hstep
      have hflag : t.persistChanged = false := by
        refine hsame.flag_clear hbehind hrun ?_
        show ((s.lateChange || false && _) && _) = false
        rw [hsafe hpc hslot]
        rfl
      have hdone := ht.drained_of_idle hidle hflag
      refine ⟨⟨hdone.toWriteInv, hdone.carried,
        fun _ => hdone.everywhere trivial⟩, ?_, h.resolutions⟩
      exact hsame.flagged.move fun _ => hbehind
  case h_2 => exact hsame

theorem stopStep_inv (h : StopInv s) {a : StopStep} (hsafe : s.StopSafe a)
    (hstep : stopStep codec opts s a = some s') : StopInv s' := by
  cases a with
  | stop =>
      injection hstep with hstep
      rw [← hstep]
      exact stop_inv h hsafe
  | onStopEnds => exact onStopEnds_inv h hstep
  | backgroundEnds => exact backgroundEnds_inv h hstep
  | saveStateEnds => exact saveStateEnds_inv h hstep
  | closed => exact closed_inv h hsafe hstep
  | persistQueueEnds => exact persistQueueEnds_inv h hstep
  | alarmQueueEnds => exact alarmQueueEnds_inv h hstep
  | live a =>
      simp only [stopStep] at hstep
      split at hstep
      case isFalse => cases hstep
      case isTrue hoperates =>
        obtain ⟨l, hl, heq⟩ := Option.map_eq_some_iff.1 hstep
        rw [← heq]
        exact live_inv h hoperates hsafe hl
  | save a =>
      simp only [stopStep] at hstep
      split at hstep
      case isFalse => cases hstep
      case isTrue hadmits =>
        obtain ⟨t, ht, heq⟩ := Option.map_eq_some_iff.1 hstep
        rw [← heq]
        have hmutate : ∀ path valid f, a ≠ .onChange path valid f := by
          intro path valid f ha
          rw [ha] at hadmits
          cases hadmits
        refine afterSave_inv h hsafe ht ?_ (saveStep_flagKept hmutate ht)
        refine h.state.saveStep hmutate ?_ ?_ ht
        · intro ha
          rw [ha] at hadmits
          cases hadmits
        · intro ha
          rw [ha] at hsafe
          exact hsafe

end StoppingInstance

open StoppingInstance

-- ============================================================= every run

/-- In every run whose steps meet `StopSafe`, each `_stop` that resolved
left the user state in memory in the last bytes written. -/
theorem stop_final_state {s : StoppingInstance}
    (h : (stopSystem codec opts).Reaches StopSafe s) : s.FinalState := by
  apply StopInv.resolutions
  refine System.Reaches.invariant ?_ ?_ h
  · intro s hs
    obtain ⟨r, hs⟩ := hs
    rw [hs]
    refine ⟨?_, fun hbehind => (nomatch hbehind), ?_⟩
    · show StateInv (LiveInstance.initialized opts r).toActorInstance _
      rw [LiveInstance.initialized_toActorInstance]
      refine ⟨ActorInstance.writeInv_initialized r, Or.inl (Or.inl rfl), ?_⟩
      intro hdrained
      rcases hdrained with hdrained | hdrained
      · cases hdrained
      · cases hdrained
    · intro r hr
      cases hr
  · intro s a s' _ h hsafe hstep
    exact stopStep_inv h hsafe hstep

/-- An actor whose state is a switch. -/
def switchRecord : PersistedActor where
  input := .null
  hasInitiated := true
  state := .bool false
  connObjects := []
  connections := []
  scheduledEvents := []

/-- Its instance. -/
def switchInstance : StoppingInstance :=
  { toLiveInstance := .initialized ⟨1000⟩ switchRecord }

/-- The switch is turned on. -/
def turnOn : StopStep := .live (.stateChange ["state"] true fun _ => .bool true)

/-- A stop whose `onStop` turns the switch on: the last `saveState` writes
it. -/
def stopWithOnStop : List StopStep :=
  [.save .ready, .stop, turnOn, .onStopEnds, .backgroundEnds,
    .save (.driverWrite true), .save .drainLoop, .save (.resumeInner 0),
    .save (.resumeSaveState 0), .saveStateEnds, .closed, .alarmQueueEnds]

theorem stop_final_state_onStop :
    (((stopSystem schemaCodec.toCodec ⟨1000⟩).run switchInstance
      stopWithOnStop).getD switchInstance).FinalState := by
  have hinit : (stopSystem schemaCodec.toCodec ⟨1000⟩).Reaches StopSafe
      switchInstance := .init ⟨switchRecord, rfl⟩
  refine stop_final_state (hinit.run stopWithOnStop ?_ rfl)
  refine ⟨trivial, rfl, Or.inr ⟨rfl, ?_⟩, trivial, trivial, trivial, ?_,
    trivial, trivial, trivial, fun _ => rfl, trivial, trivial⟩
  · exact not_drained rfl (by simp) (by simp)
  · intro hpc
    cases hpc

/-- A stop whose last connection closes after the last `saveState`, with an
`onDisconnect` that turns the switch on. -/
def stopWithOnDisconnect : List StopStep :=
  [.save .ready,
    .live (.createConn "c" "t" .null .null .webSocket .null .null), .stop,
    .onStopEnds, .backgroundEnds, .saveStateEnds, .live (.removeConn 0),
    turnOn, .closed, .alarmQueueEnds]

/-- What `onDisconnect` changed is not in the last bytes written. -/
theorem stop_loses_onDisconnect :
    ∃ s, (stopSystem schemaCodec.toCodec ⟨1000⟩).run switchInstance
        stopWithOnDisconnect = some s ∧ ¬ s.FinalState := by
  refine ⟨_, rfl, ?_⟩
  intro h
  cases h _ (.head _)

end RivetKit.Actor
