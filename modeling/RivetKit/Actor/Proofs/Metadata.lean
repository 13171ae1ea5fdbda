/-
Metadata durability: in a quiescent state the connections (`lastSeen`
aside) and scheduled events stored are those of the record in memory.

No metadata operation raises `#persistChanged`: the on-change callback
ignores every path outside `state`. The save an operation asks for then
does nothing, and the mutation stays in memory (`metadataDurable_fails`).
It is stored only along with something else, so the guard on a step is:

- it leaves the record encodable;
- if it changes the metadata, the flag is already set and a write is
  certain to come: the operation's own `saveState` passes the ready
  check, or a write waits in the slot, or the save timer is armed;
- the timer is cleared for a stop with unsaved changes only when ready,
  since the `saveState` of an actor that is not ready throws.

# One lemma for the operations

`liveStep_effect` says once what an operation does to the save path: it
replaces the record, then possibly calls `saveState`. The invariant is
`FlushInv` of the metadata, and needs nothing else about them.
-/
import RivetKit.Actor.Connections
import RivetKit.Actor.Proofs.Flush
import Mathlib.Algebra.Order.Ring.Int

namespace RivetKit.Actor

open Transition
open Utils
open Js

variable {codec : Codec} {opts : ActorOptions}

namespace LiveInstance

-- ================================================ statement vocabulary

/-- Metadata durability in one state. -/
def MetadataDurable (codec : Codec) (s : LiveInstance) : Prop :=
  s.Quiescent →
    metadata codec s.stored.persist = metadata codec s.persistRaw

/-- The step calls `saveState` and passes its ready check. -/
def savesAtOnce (s : LiveInstance) : LiveStep → Bool
  | .createConn _ _ _ _ _ _ _ => s.assertReady false
  | .removeConn _ => s.assertReady true
  | .addSubscription _ _ => s.assertReady false
  | .removeSubscription _ _ => s.assertReady false
  | _ => false

/-- `_stop` finds the actor ready, or nothing unsaved. -/
def StopSafe (s : LiveInstance) : LiveStep → Prop
  | .stop => s.persistChanged = true → s.ready = true
  | _ => True

/-- The condition on one step, which leaves the record `p`. -/
def Keeps (codec : Codec) (s : LiveInstance) (a : LiveStep)
    (p : PersistedActor) : Prop :=
  encodes codec p = true ∧
    (metadata codec p ≠ metadata codec s.persistRaw →
      s.persistChanged = true ∧ (s.savesAtOnce a = true ∨ s.Owed)) ∧
    s.StopSafe a

/-- The condition under which the instance keeps its metadata durable. -/
def MetadataSafe (codec : Codec) (opts : ActorOptions) (s : LiveInstance)
    (a : LiveStep) : Prop :=
  match liveStep codec opts s a with
  | some s' => s.Keeps codec a s'.persistRaw
  | none => True

instance (s : LiveInstance) : (a : LiveStep) → Decidable (s.StopSafe a)
  | .stop => inferInstanceAs (Decidable (_ → _))
  | .stateChange _ _ _ => .isTrue trivial
  | .createConn _ _ _ _ _ _ _ => .isTrue trivial
  | .removeConn _ => .isTrue trivial
  | .addSubscription _ _ => .isTrue trivial
  | .removeSubscription _ _ => .isTrue trivial
  | .setConnState _ _ => .isTrue trivial
  | .scheduleEvent _ => .isTrue trivial
  | .onAlarm => .isTrue trivial
  | .checkLiveness _ => .isTrue trivial
  | .save _ => .isTrue trivial

instance (s : LiveInstance) (a : LiveStep) (p : PersistedActor) :
    Decidable (s.Keeps codec a p) :=
  inferInstanceAs (Decidable (_ ∧ (_ → _ ∧ _) ∧ _))

instance (s : LiveInstance) (a : LiveStep) :
    Decidable (MetadataSafe codec opts s a) :=
  match h : liveStep codec opts s a with
  | some s' =>
      decidable_of_iff (s.Keeps codec a s'.persistRaw)
        (by unfold MetadataSafe; rw [h])
  | none => .isTrue (by unfold MetadataSafe; rw [h]; trivial)

-- ============================================ what the operations do

/-- A mutation outside `state` replaces the record and touches nothing
else of the save path. -/
theorem mutate_eq (s : LiveInstance) {path : Option (List String)}
    (hpath : path.bind List.head? ≠ some "state") (valid : Bool)
    (f : PersistedActor → PersistedActor) :
    s.mutate path valid f = { s with persistRaw := f s.persistRaw } := by
  cases path with
  | none => rfl
  | some path =>
      simp only [Option.bind_some] at hpath
      unfold mutate ActorInstance.onChange
      dsimp only
      rw [if_neg (fun h => hpath h.1)]

/-- So does a mutation of a connection's object. -/
theorem mutateConn_eq (s : LiveInstance) (conn : Conn) {key : String}
    (f : PersistedConn → PersistedConn) :
    s.mutateConn conn key f
      = { s with persistRaw := s.persistRaw.modifyConn conn.persist f } := by
  unfold mutateConn
  refine mutate_eq s ?_ true _
  cases conn.proxied <;> simp

/-- Saving leaves the record alone. -/
theorem savePersistInner_persistRaw (s : ActorInstance PersistedActor)
    (call : Option Nat) :
    (s.savePersistInner call).persistRaw = s.persistRaw := by
  unfold ActorInstance.savePersistInner
  dsimp only
  split
  · split <;> rfl
  · rfl

theorem savePersistThrottled_persistRaw (s : ActorInstance PersistedActor) :
    (s.savePersistThrottled opts).persistRaw = s.persistRaw := by
  unfold ActorInstance.savePersistThrottled
  dsimp only
  split
  · split <;> rfl
  · exact savePersistInner_persistRaw s none

theorem saveState_persistRaw (s : ActorInstance PersistedActor)
    (o : SaveStateOptions) :
    (s.saveState opts o).persistRaw = s.persistRaw := by
  unfold ActorInstance.saveState
  split
  · split
    · split
      · exact savePersistInner_persistRaw _ _
      · exact savePersistThrottled_persistRaw _
    · rfl
  · rfl

/-- Removing a subscription of a connection being removed leaves the
save path alone. -/
theorem removeSubscription_fromRemoveConn (s : LiveInstance)
    (eventName : String) (c : Nat) :
    (s.removeSubscription opts eventName c true).toActorInstance
      = s.toActorInstance := by
  unfold removeSubscription
  split
  · rfl
  · split <;> rfl

/-- Restoring a subscription leaves the save path alone. -/
theorem addSubscription_fromPersist (s : LiveInstance)
    (eventName : String) (c : Nat) :
    (s.addSubscription opts eventName c true).toActorInstance
      = s.toActorInstance := by
  unfold addSubscription
  split
  · rfl
  · split <;> rfl

/-- A loop whose body leaves the save path alone does. -/
theorem foldl_toActorInstance {β : Type} {f : LiveInstance → β → LiveInstance}
    (hf : ∀ s b, (f s b).toActorInstance = s.toActorInstance)
    (bs : List β) (s : LiveInstance) :
    (bs.foldl f s).toActorInstance = s.toActorInstance := by
  induction bs generalizing s with
  | nil => rfl
  | cons b bs ih =>
      rw [List.foldl_cons, ih]
      exact hf s b

/-- `#initialize` restores connections without saving. -/
theorem initialized_toActorInstance (r : PersistedActor) :
    (initialized opts r).toActorInstance = .initialized r := by
  unfold initialized
  rw [foldl_toActorInstance]
  intro s ref
  unfold loadConnection
  dsimp only
  rw [foldl_toActorInstance]
  intro s eventName
  exact s.addSubscription_fromPersist eventName _

/-- What a step outside the save path does to it, when it is not a
change of the user state or the stop: it replaces the record and calls
`saveState`, or does not save. -/
inductive Effect (opts : ActorOptions) (s : LiveInstance) (a : LiveStep)
    (s' : LiveInstance) : Prop
  | saves (p : PersistedActor) (o : SaveStateOptions) :
      o.immediate = true →
      s.savesAtOnce a = s.assertReady o.allowStoppingState →
      s'.toActorInstance
        = { s.toActorInstance with persistRaw := p }.saveState opts o →
      Effect opts s a s'
  | mutates (p : PersistedActor) :
      s.savesAtOnce a = false ∨ p = s.persistRaw →
      s'.toActorInstance = { s.toActorInstance with persistRaw := p } →
      Effect opts s a s'

/-- `createConn` saves. -/
theorem createConn_effect {s s' : LiveInstance} {id token : String}
    {params state : Value} {driver : ConnectionDriver}
    {driverState auth : Value}
    (h : s.createConn opts id token params state driver driverState auth
      = some s') :
    Effect opts s (.createConn id token params state driver driverState auth)
      s' := by
  unfold createConn at h
  split at h
  case isFalse => cases h
  case isTrue =>
    injection h with h
    subst h
    refine .saves ?p { immediate := true } rfl rfl ?saved
    case saved =>
      unfold callSaveState
      dsimp only
      rw [mutate_eq _ (by simp), mutate_eq _ (by simp)]

/-- `__removeConn` saves when it finds the persisted connection. -/
theorem removeConn_effect (s : LiveInstance) (c : Nat) :
    Effect opts s (.removeConn c) (s.removeConn opts c) := by
  unfold removeConn
  split
  case h_1 => exact .mutates s.persistRaw (Or.inr rfl) rfl
  case h_2 conn hconn =>
    dsimp only
    cases hidx : s.findConnIdx (s.connId conn) with
    | none =>
        refine .mutates s.persistRaw (Or.inr rfl) ?_
        rw [foldl_toActorInstance]
        exact fun t eventName => t.removeSubscription_fromRemoveConn eventName c
    | some i =>
        refine .saves ?p { immediate := true, allowStoppingState := true }
          rfl rfl ?saved
        case saved =>
          rw [foldl_toActorInstance]
          · unfold callSaveState
            dsimp only
            rw [mutate_eq _ (by simp)]
          · exact fun t eventName =>
              t.removeSubscription_fromRemoveConn eventName c

/-- A new subscription saves. -/
theorem addSubscription_effect (s : LiveInstance) (eventName : String)
    (c : Nat) :
    Effect opts s (.addSubscription eventName c)
      (s.addSubscription opts eventName c false) := by
  unfold addSubscription
  split
  case h_1 => exact .mutates s.persistRaw (Or.inr rfl) rfl
  case h_2 conn hconn =>
    split
    case isTrue => exact .mutates s.persistRaw (Or.inr rfl) rfl
    case isFalse =>
      refine .saves ?p { immediate := true } rfl rfl ?saved
      case saved =>
        simp only [Bool.false_eq_true, if_false, callSaveState]
        rw [mutateConn_eq]

/-- So does the end of one. -/
theorem removeSubscription_effect (s : LiveInstance) (eventName : String)
    (c : Nat) :
    Effect opts s (.removeSubscription eventName c)
      (s.removeSubscription opts eventName c false) := by
  unfold removeSubscription
  split
  case h_1 => exact .mutates s.persistRaw (Or.inr rfl) rfl
  case h_2 conn hconn =>
    split
    case isTrue => exact .mutates s.persistRaw (Or.inr rfl) rfl
    case isFalse =>
      refine .saves ?p { immediate := true } rfl rfl ?saved
      case saved =>
        simp only [Bool.false_eq_true, if_false, callSaveState]
        rw [mutateConn_eq]

/-- Assigning connection state saves nothing. -/
theorem setConnState_effect (s : LiveInstance) (c : Nat)
    (f : Value → Value) :
    Effect opts s (.setConnState c f) (s.setConnState c f) := by
  unfold setConnState
  split
  case h_1 => exact .mutates s.persistRaw (Or.inr rfl) rfl
  case h_2 conn hconn =>
    rw [mutateConn_eq]
    exact .mutates _ (Or.inl rfl) rfl

/-- Nor does the liveness probe. -/
theorem checkLiveness_effect (s : LiveInstance) (c : Nat) :
    Effect opts s (.checkLiveness c) (s.checkLiveness c) := by
  unfold checkLiveness
  split
  case h_1 => exact .mutates s.persistRaw (Or.inr rfl) rfl
  case h_2 conn hconn =>
    rw [mutateConn_eq]
    exact .mutates _ (Or.inl rfl) rfl

/-- The operations other than a change of the user state, the stop and the
steps of the save path. -/
def operation : LiveStep → Bool
  | .stateChange _ _ _ => false
  | .stop => false
  | .save _ => false
  | _ => true

/-- Each of them has its effect. -/
theorem liveStep_effect {s s' : LiveInstance} {a : LiveStep}
    (hop : operation a = true) (hstep : liveStep codec opts s a = some s') :
    Effect opts s a s' := by
  cases a with
  | stateChange path valid f => cases hop
  | createConn id token params state driver driverState auth =>
      exact createConn_effect hstep
  | removeConn c =>
      injection hstep with hstep
      rw [← hstep]
      exact s.removeConn_effect c
  | addSubscription eventName c =>
      injection hstep with hstep
      rw [← hstep]
      exact s.addSubscription_effect eventName c
  | removeSubscription eventName c =>
      injection hstep with hstep
      rw [← hstep]
      exact s.removeSubscription_effect eventName c
  | setConnState c f =>
      injection hstep with hstep
      rw [← hstep]
      exact s.setConnState_effect c f
  | scheduleEvent event =>
      injection hstep with hstep
      rw [← hstep]
      unfold scheduleEvent
      rw [mutate_eq _ (by simp)]
      exact .mutates _ (Or.inl rfl) rfl
  | onAlarm =>
      injection hstep with hstep
      rw [← hstep]
      unfold onAlarm
      rw [mutate_eq _ (by simp)]
      exact .mutates _ (Or.inl rfl) rfl
  | checkLiveness c =>
      injection hstep with hstep
      rw [← hstep]
      exact s.checkLiveness_effect c
  | stop => cases hop
  | save a => cases hop

-- ======================================================= the invariant

/-- The invariant of the guarded runs. -/
abbrev MetadataInv (codec : Codec) (s : LiveInstance) : Prop :=
  ActorInstance.FlushInv (encodes codec · = true) (metadata codec)
    s.toActorInstance

/-- An operation keeps the invariant when its record satisfies the
guard. -/
theorem metadataInv_effect (opts : ActorOptions) {s s' : LiveInstance}
    {a : LiveStep} (h : MetadataInv codec s) (heff : Effect opts s a s')
    (hkeeps : s.Keeps codec a s'.persistRaw) : MetadataInv codec s' := by
  cases heff with
  | saves p o him hsaves heq =>
      have hraw : s'.persistRaw = p := by
        rw [heq]
        exact saveState_persistRaw _ o
      rw [hraw] at hkeeps
      obtain ⟨hgood, hview, -⟩ := hkeeps
      unfold MetadataInv
      rw [heq]
      by_cases hready : s.assertReady o.allowStoppingState = true
      · refine ActorInstance.DirtyInv.saveState_immediate ?_ hready him
        exact h.toDirtyInv.mutate (f := fun _ => p) hgood fun hne =>
          (hview hne).1
      · refine ActorInstance.FlushInv.saveState ?_ o
        refine h.mutate (f := fun _ => p) hgood fun hne => ?_
        obtain ⟨hflag, hsafe | howed⟩ := hview hne
        · rw [hsaves] at hsafe
          exact absurd hsafe hready
        · exact ⟨hflag, howed⟩
  | mutates p hsaves heq =>
      have hraw : s'.persistRaw = p := by rw [heq]
      rw [hraw] at hkeeps
      obtain ⟨hgood, hview, -⟩ := hkeeps
      unfold MetadataInv
      rw [heq]
      refine h.mutate (f := fun _ => p) hgood fun hne => ?_
      rcases hsaves with hsaves | hsame
      · obtain ⟨hflag, hsafe | howed⟩ := hview hne
        · rw [hsaves] at hsafe
          cases hsafe
        · exact ⟨hflag, howed⟩
      · exact absurd (congrArg (metadata codec) hsame) hne

/-- `_stop` clears the timer and saves. -/
theorem metadataInv_stop {s : LiveInstance} (h : MetadataInv codec s)
    (hsafe : s.persistChanged = true → s.ready = true) :
    MetadataInv codec (s.stop opts) := by
  have hclear : ActorInstance.DirtyInv (encodes codec · = true) (metadata codec)
      s.clearSaveTimeout := h.toDirtyInv.setTimeout _ s.lastSaveTime
  show ActorInstance.FlushInv _ _ (s.clearSaveTimeout.saveState opts _)
  by_cases hready : s.ready = true
  · refine hclear.saveState_immediate ?_ rfl
    show s.toActorInstance.assertReady true = true
    simp [ActorInstance.assertReady, hready]
  · refine ActorInstance.FlushInv.saveState ⟨hclear, fun hne => ?_⟩ _
    exact absurd (hsafe (hclear.flagged hne)) hready

/-- A change of the user state is no change of the metadata. -/
theorem metadataInv_stateChange {s : LiveInstance} (h : MetadataInv codec s)
    (path : List String) (valid : Bool) (f : Value → Value)
    (hgood : encodes codec
      { s.persistRaw with state := f s.persistRaw.state } = true) :
    MetadataInv codec (s.mutate (some path) valid fun p =>
      { p with state := f p.state }) :=
  h.onChange path valid (f := fun p => { p with state := f p.state }) hgood
    (metadata_state codec s.persistRaw (f s.persistRaw.state))

/-- The steps of the save path itself. -/
theorem metadataInv_save {s : LiveInstance} (h : MetadataInv codec s)
    {a : SaveStep PersistedActor} (hadm : s.admits codec a = true)
    {t : ActorInstance PersistedActor}
    (hstep : saveStep opts s.toActorInstance a = some t) :
    ActorInstance.FlushInv (encodes codec · = true) (metadata codec) t := by
  refine h.saveStep ?_ ?_ ?_ hstep
  · rintro path valid f rfl
    cases hadm
  · rintro rfl
    simp only [saveStep, ActorInstance.driverWrite] at hstep
    split at hstep
    case h_2 => cases hstep
    case h_1 sn hw =>
      have hgood := h.write_good _ hw
      simp only [admits, hw, Option.all_some, beq_iff_eq] at hadm
      rw [← hadm] at hgood
      cases hgood
  · rintro rfl
    cases hadm

-- ======================================================== step and run

/-- One guarded step preserves the invariant. -/
theorem metadataInv_step {s s' : LiveInstance} {a : LiveStep}
    (h : MetadataInv codec s) (hsafe : MetadataSafe codec opts s a)
    (hstep : liveStep codec opts s a = some s') : MetadataInv codec s' := by
  unfold MetadataSafe at hsafe
  rw [hstep] at hsafe
  cases a with
  | stateChange path valid f =>
      simp only [liveStep] at hstep
      split at hstep
      case isFalse => cases hstep
      case isTrue =>
        injection hstep with hstep
        subst hstep
        refine metadataInv_stateChange h path valid f ?_
        have hgood := hsafe.1
        unfold mutate ActorInstance.onChange at hgood
        dsimp only at hgood
        split at hgood <;> exact hgood
  | stop =>
      injection hstep with hstep
      subst hstep
      exact metadataInv_stop h hsafe.2.2
  | save a =>
      simp only [liveStep] at hstep
      split at hstep
      case isFalse => cases hstep
      case isTrue hadm =>
        cases ht : saveStep opts s.toActorInstance a with
        | none =>
            rw [ht] at hstep
            cases hstep
        | some t =>
            rw [ht] at hstep
            injection hstep with hstep
            subst hstep
            exact metadataInv_save h hadm ht
  | _ => exact metadataInv_effect opts h (liveStep_effect rfl hstep) hsafe

/-- The invariant holds along every guarded run. -/
theorem metadataInv_reaches {s : LiveInstance}
    (h : (liveSystem codec opts).Reaches (MetadataSafe codec opts) s) :
    MetadataInv codec s := by
  refine System.Reaches.invariant (P := MetadataInv codec) ?_ ?_ h
  · rintro s ⟨r, hr, rfl⟩
    unfold MetadataInv
    rw [initialized_toActorInstance]
    exact ActorInstance.flushInv_initialized hr
  · intro s a s' _ hinv hsafe hstep
    exact metadataInv_step hinv hsafe hstep

end LiveInstance

open LiveInstance

/-- In every run whose steps are `MetadataSafe`, every quiescent state
has the metadata of the record in memory stored. -/
theorem metadataDurable_of_safe {s : LiveInstance}
    (h : (liveSystem codec opts).Reaches (MetadataSafe codec opts) s) :
    s.MetadataDurable codec :=
  fun hq => ((metadataInv_reaches h).stored hq).symm

/-- The encoders at the values the runs below store: the two-byte map
header of `{}`, and the bounds of a `u64`. -/
def sampleCodec : Codec where
  cborEncode
    | .undefined => [0xf7]
    | .obj [] => [0xb9, 0, 0]
    | _ => []
  serializes bare :=
    bare.connections.all (fun c => 0 ≤ c.lastSeen && c.lastSeen < 2 ^ 64)
      && bare.scheduledEvents.all
        (fun e => 0 ≤ e.timestamp && e.timestamp < 2 ^ 64)

/-- A client connects. -/
def connect : LiveStep :=
  .createConn "conn" "token" .undefined .undefined .webSocket .undefined
    .undefined

/-- A connection made while the user state is dirty is stored with it. -/
def connectDirty : List LiveStep :=
  [.save .ready, .stateChange ["state"] true fun _ => .obj [], connect,
    .save (.driverWrite true), .save .drainLoop, .save (.resumeInner 0)]

/-- The guard admits that run; it ends quiescent with the connection
stored. -/
theorem metadataDurable_of_safe_connectDirty :
    ∃ s, (liveSystem sampleCodec ⟨10000⟩).run (.initialized ⟨10000⟩ {})
        connectDirty = some s
      ∧ s.Quiescent ∧ s.stored.persist.connections = [0]
      ∧ s.MetadataDurable sampleCodec := by
  refine ⟨_, rfl, ⟨rfl, ?_, by decide⟩, rfl,
    @metadataDurable_of_safe sampleCodec ⟨10000⟩ _ ?_⟩
  · intro w hw
    cases hw
  refine System.Reaches.run connectDirty (.init ⟨{}, rfl, rfl⟩) ?_ rfl
  decide

/-- A connection made while the user state is clean is never stored. -/
theorem metadataDurable_fails :
    ¬ ∀ s : LiveInstance,
      (liveSystem sampleCodec ⟨10000⟩).Reachable s →
        s.MetadataDurable sampleCodec := by
  intro hall
  have hdurable := hall _ (System.Reachable.run [.save .ready, connect]
    (.init ⟨{}, rfl, rfl⟩) rfl)
  refine absurd (hdurable ⟨rfl, ?_, by decide⟩) (by decide)
  intro w hw
  cases hw

end RivetKit.Actor
