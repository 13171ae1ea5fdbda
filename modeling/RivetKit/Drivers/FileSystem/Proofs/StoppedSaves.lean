/-
What `_stop` waits for, and what an instance writes behind it
(`BodyOk.step`). `_stop` is done with the persist queue when no loop of it
runs, so no write is under way then; and from there on none begins, as long
as no save that the instance is asked for finds a change. When `_stop` has
resolved it has waited for `onStop`, the background promises and the alarm
queue.

Saves are asked for by sockets that open or close, by subscriptions, by
`saveState`, by the throttled save and by the save timer; every other step
leaves the write and its queue, or moves the write on.
-/
import RivetKit.Actor.Proofs.Stop
import RivetKit.Drivers.FileSystem.Instances

namespace RivetKit.Drivers.FileSystem

open Transition
open Utils
open Actor
open Js

variable {codec : Codec} {opts : ActorOptions}

-- ==================================================== the save path, idle

section SavePath

variable {s s' : ActorInstance PersistedActor}

/-- What a step leaves that starts no write. -/
structure WriteKept (s s' : ActorInstance PersistedActor) : Prop where
  write : s'.write = s.write
  queue : s'.persistWriteQueue = s.persistWriteQueue

theorem savePersistInner_stopCalled (s : ActorInstance PersistedActor)
    (call : Option Nat) :
    (s.savePersistInner call).stopCalled = s.stopCalled := by
  unfold ActorInstance.savePersistInner
  dsimp only
  split
  · split
    · rfl
    · rfl
  · rfl

theorem savePersistThrottled_stopCalled
    (s : ActorInstance PersistedActor) :
    (s.savePersistThrottled opts).stopCalled = s.stopCalled := by
  unfold ActorInstance.savePersistThrottled
  dsimp only
  split
  · split
    · rfl
    · rfl
  · exact savePersistInner_stopCalled s none

theorem saveState_stopCalled (s : ActorInstance PersistedActor)
    (o : SaveStateOptions) :
    (s.saveState opts o).stopCalled = s.stopCalled := by
  unfold ActorInstance.saveState
  split
  · split
    · split
      · exact savePersistInner_stopCalled _ _
      · exact savePersistThrottled_stopCalled _
    · rfl
  · rfl

/-- A save that finds nothing to write writes nothing. -/
theorem savePersistInner_idle (h : s.persistChanged = false)
    (call : Option Nat) : WriteKept s (s.savePersistInner call) := by
  unfold ActorInstance.savePersistInner
  dsimp only
  rw [if_neg (by rw [h]; simp)]
  exact ⟨rfl, rfl⟩

theorem savePersistThrottled_idle (h : s.persistChanged = false) :
    WriteKept s (s.savePersistThrottled opts) := by
  unfold ActorInstance.savePersistThrottled
  dsimp only
  split
  · split
    · exact ⟨rfl, rfl⟩
    · exact ⟨rfl, rfl⟩
  · exact savePersistInner_idle h none

theorem saveState_idle (h : s.persistChanged = false)
    (o : SaveStateOptions) : WriteKept s (s.saveState opts o) := by
  unfold ActorInstance.saveState
  split
  · rw [if_neg (by rw [h]; simp)]
    exact ⟨rfl, rfl⟩
  · exact ⟨rfl, rfl⟩

/-- A step of the save path keeps whether `_stop` was called. -/
theorem saveStep_stopCalled {a : SaveStep PersistedActor}
    (ha : a ≠ .stopCalled) (hstep : saveStep opts s a = some s') :
    s'.stopCalled = s.stopCalled := by
  cases a with
  | onChange path valid f =>
      injection hstep with hstep
      rw [← hstep]
      unfold ActorInstance.onChange
      dsimp only
      split
      · rfl
      · rfl
  | saveState o =>
      injection hstep with hstep
      rw [← hstep]
      exact saveState_stopCalled s o
  | savePersistThrottled =>
      injection hstep with hstep
      rw [← hstep]
      exact savePersistThrottled_stopCalled s
  | saveTimeout =>
      simp only [saveStep, ActorInstance.saveTimeout] at hstep
      split at hstep
      · injection hstep with hstep
        rw [← hstep]
        exact savePersistInner_stopCalled _ none
      · cases hstep
  | driverWrite ok =>
      simp only [saveStep, ActorInstance.driverWrite] at hstep
      split at hstep
      · injection hstep with hstep
        rw [← hstep]
      · cases hstep
  | drainLoop =>
      simp only [saveStep, ActorInstance.drainLoop] at hstep
      split at hstep
      · injection hstep with hstep
        rw [← hstep]
        split
        · rfl
        · rfl
      · cases hstep
  | resumeInner i =>
      simp only [saveStep, ActorInstance.resumeInner] at hstep
      split at hstep
      · split at hstep
        · injection hstep with hstep
          rw [← hstep]
          split
          · rfl
          · rfl
        · cases hstep
      · cases hstep
  | resumeSaveState c =>
      simp only [saveStep, ActorInstance.resumeSaveState] at hstep
      split at hstep
      · injection hstep with hstep
        rw [← hstep]
        rfl
      · split at hstep
        · injection hstep with hstep
          rw [← hstep]
          rfl
        · cases hstep
      · cases hstep
  | dateNow t =>
      injection hstep with hstep
      rw [← hstep]
  | ready =>
      injection hstep with hstep
      rw [← hstep]
  | sleepCalled =>
      injection hstep with hstep
      rw [← hstep]
  | stopCalled => exact absurd rfl ha
  | clearSaveTimeout =>
      injection hstep with hstep
      rw [← hstep]
      rfl

/-- The steps of the save path begin no write, where saves find nothing to
write. -/
theorem saveStep_idle {a : SaveStep PersistedActor}
    (hidle : s.write = none)
    (hsave : asksForSave (.save a) = true → s.persistChanged = false)
    (hchange : ∀ path valid f, a ≠ .onChange path valid f)
    (hstep : saveStep opts s a = some s') : s'.write = none := by
  cases ActorInstance.saveStep_cases hstep with
  | onChange path valid f _ => exact absurd rfl (hchange path valid f)
  | saveState o heq =>
      rw [heq, (saveState_idle (hsave rfl) o).write]
      exact hidle
  | savePersistThrottled heq =>
      rw [heq, (savePersistThrottled_idle (hsave rfl)).write]
      exact hidle
  | saveTimeout heq =>
      rw [heq, (@savePersistInner_idle
        { s with pendingSaveTimeout := none } (hsave rfl) none).write]
      exact hidle
  | driverWrite ok hwrites =>
      unfold ActorInstance.driverWrite at hwrites
      rw [hidle] at hwrites
      cases hwrites
  | drainLoop hdrains =>
      unfold ActorInstance.drainLoop at hdrains
      rw [hidle] at hdrains
      cases hdrains
  | clearSaveTimeout heq =>
      rw [heq]
      exact hidle
  | dateNow t heq =>
      rw [heq]
      exact hidle
  | untouched a _ huntouched =>
      rw [huntouched.write]
      exact hidle

/-- A save that finds a write under way lets it be. -/
theorem savePersistInner_flight (h : s.WriteInv)
    {write : DriverWrite PersistedActor} (hwrite : s.write = some write)
    (call : Option Nat) :
    (s.savePersistInner call).write = s.write := by
  have hrun := h.write_running
  rw [hwrite] at hrun
  obtain ⟨d, hd⟩ := Option.isSome_iff_exists.1 hrun.symm
  by_cases hflag : s.persistChanged = true
  · rw [ActorInstance.savePersistInner_of_busy hflag hd]
    rfl
  · rw [ActorInstance.savePersistInner_of_clear (Bool.eq_false_iff.2 hflag)]
    rfl

theorem savePersistThrottled_flight (h : s.WriteInv)
    {write : DriverWrite PersistedActor} (hwrite : s.write = some write) :
    (s.savePersistThrottled opts).write = s.write := by
  unfold ActorInstance.savePersistThrottled
  dsimp only
  split
  · split
    · rfl
    · rfl
  · exact savePersistInner_flight h hwrite none

theorem saveState_flight (h : s.WriteInv)
    {write : DriverWrite PersistedActor} (hwrite : s.write = some write)
    (o : SaveStateOptions) : (s.saveState opts o).write = s.write := by
  unfold ActorInstance.saveState
  split
  · split
    · split
      · have hcall : ActorInstance.WriteInv (s.pushCall .awaitInner) :=
          h.congr rfl rfl rfl rfl rfl rfl
        exact savePersistInner_flight hcall hwrite _
      · have hcall : ActorInstance.WriteInv ({ s with
            onPersistSavedPromise :=
              some (s.onPersistSavedPromise.getD .pending) }.pushCall
                .awaitSaved) := h.congr rfl rfl rfl rfl rfl rfl
        exact savePersistThrottled_flight hcall hwrite
    · rfl
  · rfl

/-- Only the driver settles a write in flight. -/
theorem saveStep_flight {a : SaveStep PersistedActor} (h : s.WriteInv)
    {snapshot : Snapshot PersistedActor}
    (hwrite : s.write = some ⟨snapshot, .inFlight⟩)
    (ha : ∀ ok, a ≠ .driverWrite ok)
    (hchange : ∀ path valid f, a ≠ .onChange path valid f)
    (hstep : saveStep opts s a = some s') : s'.write = s.write := by
  cases ActorInstance.saveStep_cases hstep with
  | onChange path valid f _ => exact absurd rfl (hchange path valid f)
  | saveState o heq =>
      rw [heq]
      exact saveState_flight h hwrite o
  | savePersistThrottled heq =>
      rw [heq]
      exact savePersistThrottled_flight h hwrite
  | saveTimeout heq =>
      rw [heq]
      exact savePersistInner_flight (s := { s with pendingSaveTimeout := none })
        (h.congr rfl rfl rfl rfl rfl rfl) hwrite none
  | driverWrite ok _ => exact absurd rfl (ha ok)
  | drainLoop hdrains =>
      unfold ActorInstance.drainLoop at hdrains
      rw [hwrite] at hdrains
      cases hdrains
  | clearSaveTimeout heq => rw [heq]; rfl
  | dateNow t heq => rw [heq]
  | untouched a _ huntouched => exact huntouched.write

end SavePath

-- =============================================== an instance that has stopped

section Stopped

variable {b b' : StoppingInstance}

/-- A mutation of the record leaves the save path, its flag aside. -/
theorem mutate_kept (l : LiveInstance) {path : Option (List String)}
    {valid : Bool} {f : PersistedActor → PersistedActor} :
    WriteKept l.toActorInstance (l.mutate path valid f).toActorInstance
      ∧ (l.mutate path valid f).stopCalled = l.stopCalled := by
  unfold LiveInstance.mutate
  split
  · unfold ActorInstance.onChange
    dsimp only
    split
    · exact ⟨⟨rfl, rfl⟩, rfl⟩
    · exact ⟨⟨rfl, rfl⟩, rfl⟩
  · exact ⟨⟨rfl, rfl⟩, rfl⟩

/-- An operation of a live instance keeps whether `_stop` was called, and
starts no write if it asks for no save that finds something. -/
theorem liveStep_kept {l l' : LiveInstance} {a : LiveStep}
    (hop : StoppingInstance.operates a = true)
    (hstep : liveStep codec opts l a = some l') :
    l'.stopCalled = l.stopCalled
      ∧ ((asksForSave (.live a) = true → l.persistChanged = false) →
        WriteKept l.toActorInstance l'.toActorInstance) := by
  have heffect : ∀ (_ : LiveInstance.operation a = true)
      (_ : asksForSave (.live a) = true),
      l'.stopCalled = l.stopCalled
        ∧ (l.persistChanged = false →
          WriteKept l.toActorInstance l'.toActorInstance) := by
    intro hoperation hasks
    cases LiveInstance.liveStep_effect hoperation hstep with
    | saves p o _ _ heq =>
        rw [heq]
        refine ⟨saveState_stopCalled _ o, fun hidle => ?_⟩
        obtain ⟨hwrite, hqueue⟩ := @saveState_idle opts
          { l.toActorInstance with persistRaw := p } hidle o
        exact ⟨hwrite, hqueue⟩
    | mutates p _ heq =>
        rw [heq]
        exact ⟨rfl, fun _ => ⟨rfl, rfl⟩⟩
  have hmutates : ∀ {path valid f}, l.mutate path valid f = l' →
      l'.stopCalled = l.stopCalled
        ∧ ((asksForSave (.live a) = true → l.persistChanged = false) →
          WriteKept l.toActorInstance l'.toActorInstance) := by
    intro path valid f heq
    rw [← heq]
    exact ⟨(mutate_kept l).2, fun _ => (mutate_kept l).1⟩
  cases a with
  | stateChange path valid f =>
      simp only [liveStep] at hstep
      split at hstep
      · exact hmutates (Option.some.inj hstep)
      · cases hstep
  | createConn id token params state driver driverState auth =>
      obtain ⟨hcalled, hidle⟩ := heffect rfl rfl
      exact ⟨hcalled, fun h => hidle (h rfl)⟩
  | removeConn c =>
      obtain ⟨hcalled, hidle⟩ := heffect rfl rfl
      exact ⟨hcalled, fun h => hidle (h rfl)⟩
  | addSubscription eventName c =>
      obtain ⟨hcalled, hidle⟩ := heffect rfl rfl
      exact ⟨hcalled, fun h => hidle (h rfl)⟩
  | removeSubscription eventName c =>
      obtain ⟨hcalled, hidle⟩ := heffect rfl rfl
      exact ⟨hcalled, fun h => hidle (h rfl)⟩
  | setConnState c f =>
      have heq := Option.some.inj hstep
      unfold LiveInstance.setConnState at heq
      split at heq
      · rw [← heq]
        exact ⟨rfl, fun _ => ⟨rfl, rfl⟩⟩
      · exact hmutates heq
  | scheduleEvent event => exact hmutates (Option.some.inj hstep)
  | onAlarm => exact hmutates (Option.some.inj hstep)
  | checkLiveness c =>
      have heq := Option.some.inj hstep
      unfold LiveInstance.checkLiveness at heq
      split at heq
      · rw [← heq]
        exact ⟨rfl, fun _ => ⟨rfl, rfl⟩⟩
      · exact hmutates heq
  | stop => cases hop
  | save a => cases hop

/-- An operation keeps the write invariant, and lets a write in flight
be. -/
theorem liveStep_writes {l l' : LiveInstance} {a : LiveStep}
    (hop : StoppingInstance.operates a = true) (h : l.WriteInv)
    (hstep : liveStep codec opts l a = some l') :
    l'.WriteInv ∧ ∀ write, l.write = some write → l'.write = l.write := by
  have heffect : LiveInstance.operation a = true →
      l'.WriteInv ∧ ∀ write, l.write = some write → l'.write = l.write := by
    intro hoperation
    cases LiveInstance.liveStep_effect hoperation hstep with
    | saves p o _ _ heq =>
        have hp : ActorInstance.WriteInv
            { l.toActorInstance with persistRaw := p } :=
          h.congr rfl rfl rfl rfl rfl rfl
        rw [heq]
        exact ⟨hp.saveState o, fun write hwrite =>
          saveState_flight hp hwrite o⟩
    | mutates p _ heq =>
        rw [heq]
        exact ⟨h.congr rfl rfl rfl rfl rfl rfl, fun _ _ => rfl⟩
  cases a with
  | stateChange path valid f =>
      simp only [liveStep] at hstep
      split at hstep
      · rw [← Option.some.inj hstep]
        have hchange : (l.onChange path valid fun p =>
            { p with state := f p.state }).WriteInv := h.onChange path valid _
        exact ⟨hchange, fun _ _ => (mutate_kept l).1.write⟩
      · cases hstep
  | stop => cases hop
  | save a => cases hop
  | _ => exact heffect rfl

/-- What the drain loop's end does to `_stop`. -/
theorem afterSave_kept (b : StoppingInstance) (a : SaveStep PersistedActor) :
    (b.afterSave a).toLiveInstance = b.toLiveInstance
      ∧ (b.stopPc = some .resolved →
        (b.afterSave a).stopPc = some .resolved) := by
  unfold StoppingInstance.afterSave
  split
  · split
    case isTrue hended =>
      refine ⟨rfl, fun hresolved => ?_⟩
      rw [hresolved] at hended
      cases hended.1
    case isFalse => exact ⟨rfl, fun h => h⟩
  · exact ⟨rfl, fun h => h⟩

/-- A step keeps whether `_stop` was called. -/
theorem stopStep_stopCalled {a : StopStep} (ha : a ≠ .stop)
    (hstep : stopStep codec opts b a = some b') :
    b'.stopCalled = b.stopCalled := by
  cases a with
  | stop => exact absurd rfl ha
  | onStopEnds =>
      simp only [stopStep, StoppingInstance.onStopEnds] at hstep
      split at hstep
      · rw [← Option.some.inj hstep]
      · cases hstep
  | backgroundEnds =>
      simp only [stopStep, StoppingInstance.backgroundEnds] at hstep
      split at hstep
      · rw [← Option.some.inj hstep]
        exact saveState_stopCalled _ _
      · cases hstep
  | saveStateEnds =>
      simp only [stopStep, StoppingInstance.saveStateEnds] at hstep
      split at hstep
      · split at hstep
        · rw [← Option.some.inj hstep]
        · cases hstep
      · cases hstep
  | closed =>
      simp only [stopStep, StoppingInstance.closed] at hstep
      split at hstep
      · rw [← Option.some.inj hstep]
      · cases hstep
  | persistQueueEnds =>
      simp only [stopStep, StoppingInstance.persistQueueEnds] at hstep
      split at hstep
      · rw [← Option.some.inj hstep]
      · cases hstep
  | alarmQueueEnds =>
      simp only [stopStep, StoppingInstance.alarmQueueEnds] at hstep
      split at hstep
      · rw [← Option.some.inj hstep]
        rfl
      · cases hstep
  | live a =>
      simp only [stopStep] at hstep
      split at hstep
      case isFalse => cases hstep
      case isTrue hop =>
        obtain ⟨l, hl, heq⟩ := Option.map_eq_some_iff.1 hstep
        rw [← heq]
        exact (liveStep_kept hop hl).1
  | save a =>
      simp only [stopStep] at hstep
      split at hstep
      case isFalse => cases hstep
      case isTrue hadmits =>
        obtain ⟨t, ht, heq⟩ := Option.map_eq_some_iff.1 hstep
        rw [← heq, (afterSave_kept _ _).1]
        refine saveStep_stopCalled ?_ ht
        intro hcalled
        rw [hcalled] at hadmits
        cases hadmits

/-- An instance that has stopped stays so. -/
theorem stopStep_resolved {a : StopStep} (ha : a ≠ .stop)
    (hpc : b.stopPc = some .resolved)
    (hstep : stopStep codec opts b a = some b') :
    b'.stopPc = some .resolved := by
  cases a with
  | stop => exact absurd rfl ha
  | onStopEnds =>
      simp only [stopStep, StoppingInstance.onStopEnds, hpc] at hstep
      cases hstep
  | backgroundEnds =>
      simp only [stopStep, StoppingInstance.backgroundEnds, hpc] at hstep
      cases hstep
  | saveStateEnds =>
      simp only [stopStep, StoppingInstance.saveStateEnds, hpc] at hstep
      cases hstep
  | closed =>
      simp only [stopStep, StoppingInstance.closed, hpc] at hstep
      cases hstep
  | persistQueueEnds =>
      simp only [stopStep, StoppingInstance.persistQueueEnds, hpc] at hstep
      cases hstep
  | alarmQueueEnds =>
      simp only [stopStep, StoppingInstance.alarmQueueEnds, hpc] at hstep
      cases hstep
  | live a =>
      simp only [stopStep] at hstep
      split at hstep
      case isFalse => cases hstep
      case isTrue hop =>
        obtain ⟨l, hl, heq⟩ := Option.map_eq_some_iff.1 hstep
        rw [← heq]
        exact hpc
  | save a =>
      simp only [stopStep] at hstep
      split at hstep
      case isFalse => cases hstep
      case isTrue hadmits =>
        obtain ⟨t, ht, heq⟩ := Option.map_eq_some_iff.1 hstep
        rw [← heq]
        exact (afterSave_kept _ a).2 hpc

/-- Only the driver settles a write in flight. -/
theorem stopStep_flight {a : StopStep} (h : b.WriteInv)
    {snapshot : Snapshot PersistedActor}
    (hwrite : b.write = some ⟨snapshot, .inFlight⟩)
    (ha : ∀ ok, a ≠ .save (.driverWrite ok))
    (hstep : stopStep codec opts b a = some b') : b'.write = b.write := by
  cases a with
  | stop =>
      rw [← Option.some.inj hstep]
      unfold StoppingInstance.stop
      split
      · rfl
      · rfl
  | onStopEnds =>
      simp only [stopStep, StoppingInstance.onStopEnds] at hstep
      split at hstep
      · rw [← Option.some.inj hstep]
      · cases hstep
  | backgroundEnds =>
      simp only [stopStep, StoppingInstance.backgroundEnds] at hstep
      split at hstep
      · rw [← Option.some.inj hstep]
        exact saveState_flight (s := b.clearSaveTimeout)
          (h.congr rfl rfl rfl rfl rfl rfl) hwrite _
      · cases hstep
  | saveStateEnds =>
      simp only [stopStep, StoppingInstance.saveStateEnds] at hstep
      split at hstep
      · split at hstep
        · rw [← Option.some.inj hstep]
        · cases hstep
      · cases hstep
  | closed =>
      simp only [stopStep, StoppingInstance.closed] at hstep
      split at hstep
      · rw [← Option.some.inj hstep]
      · cases hstep
  | persistQueueEnds =>
      simp only [stopStep, StoppingInstance.persistQueueEnds] at hstep
      split at hstep
      · rw [← Option.some.inj hstep]
      · cases hstep
  | alarmQueueEnds =>
      simp only [stopStep, StoppingInstance.alarmQueueEnds] at hstep
      split at hstep
      · rw [← Option.some.inj hstep]
        rfl
      · cases hstep
  | live a =>
      simp only [stopStep] at hstep
      split at hstep
      case isFalse => cases hstep
      case isTrue hop =>
        obtain ⟨l, hl, heq⟩ := Option.map_eq_some_iff.1 hstep
        rw [← heq]
        exact (liveStep_writes hop h hl).2 _ hwrite
  | save a =>
      simp only [stopStep] at hstep
      split at hstep
      case isFalse => cases hstep
      case isTrue hadmits =>
        obtain ⟨t, ht, heq⟩ := Option.map_eq_some_iff.1 hstep
        rw [← heq, (afterSave_kept _ _).1]
        refine saveStep_flight h hwrite ?_ ?_ ht
        · intro ok heq
          exact ha ok (congrArg StopStep.save heq)
        · intro path valid f heq
          rw [heq] at hadmits
          cases hadmits

-- ================================================== what `_stop` waits for

variable {code : UserCode} {alarm : Option Bool}

/-- What is true of an instance that has read its record, with its user
code and its alarm queue. -/
structure BodyOk (code : UserCode) (alarm : Option Bool)
    (b : StoppingInstance) : Prop where
  writes : b.WriteInv
  called : b.stopPc ≠ none → b.stopCalled = true
  saved : doneSaving b → b.write = none
  onStop : b.stopPc ≠ none → b.stopPc ≠ some .onStop → code.onStop = false
  background : b.stopPc ≠ none → b.stopPc ≠ some .onStop →
    b.stopPc ≠ some .backgroundPromises → code.backgroundPromises = 0
  stopped : b.stopPc = some .resolved → code.others = 0 ∧ alarm = none

/-- The record as it was read. -/
theorem BodyOk.initialized (r : PersistedActor) :
    BodyOk code alarm { toLiveInstance := .initialized opts r } := by
  constructor
  case writes =>
    show (LiveInstance.initialized opts r).WriteInv
    rw [LiveInstance.initialized_toActorInstance]
    exact ActorInstance.writeInv_initialized r
  case called => exact fun h => absurd rfl h
  case saved =>
    intro hdone
    rcases hdone with (h | h) | h
    · cases h
    · cases h
    · cases h
  case onStop => exact fun h => absurd rfl h
  case background => exact fun h => absurd rfl h
  case stopped =>
    intro h
    cases h

/-- `_stop` is called, and calls `onStop`. -/
theorem BodyOk.stop (h : BodyOk code alarm b)
    (hcalled : b.stopCalled = false) :
    BodyOk { code with onStop := true } alarm b.stop := by
  have hpc : b.stop.stopPc = some .onStop := by
    unfold StoppingInstance.stop
    rw [if_neg (by rw [hcalled]; simp)]
  constructor
  case writes =>
    unfold StoppingInstance.stop
    rw [if_neg (by rw [hcalled]; simp)]
    exact h.writes.congr rfl rfl rfl rfl rfl rfl
  case called =>
    intro _
    unfold StoppingInstance.stop
    rw [if_neg (by rw [hcalled]; simp)]
  case saved =>
    intro hdone
    unfold doneSaving StoppingInstance.Drained at hdone
    rw [hpc] at hdone
    simp at hdone
  case onStop => exact fun _ hne => absurd hpc hne
  case background => exact fun _ hne => absurd hpc hne
  case stopped =>
    intro hresolved
    rw [hpc] at hresolved
    cases hresolved

theorem doneSaving_congr (hpc : b'.stopPc = b.stopPc) :
    doneSaving b' ↔ doneSaving b := by
  unfold doneSaving StoppingInstance.Drained
  rw [hpc]

/-- `_stop` stays where it is. -/
theorem BodyOk.stays (h : BodyOk code alarm b) (hpc : b'.stopPc = b.stopPc)
    (hwrites : b'.WriteInv) (hcalled : b'.stopCalled = b.stopCalled)
    (hsaved : doneSaving b → b'.write = none) : BodyOk code alarm b' := by
  constructor
  case writes => exact hwrites
  case called =>
    rw [hpc, hcalled]
    exact h.called
  case saved =>
    rw [doneSaving_congr hpc]
    exact hsaved
  case onStop =>
    rw [hpc]
    exact h.onStop
  case background =>
    rw [hpc]
    exact h.background
  case stopped =>
    rw [hpc]
    exact h.stopped

/-- `_stop` moves on behind the background promises. -/
theorem BodyOk.behind {pc : StopPc} (hpc : b'.stopPc = some pc)
    (hwrites : b'.WriteInv) (hcalled : b'.stopCalled = true)
    (honStop : code.onStop = false)
    (hbackground : code.backgroundPromises = 0)
    (hsaved : doneSaving b' → b'.write = none)
    (hstopped : pc = .resolved → code.others = 0 ∧ alarm = none) :
    BodyOk code alarm b' := by
  constructor
  case writes => exact hwrites
  case called => exact fun _ => hcalled
  case saved => exact hsaved
  case onStop => exact fun _ _ => honStop
  case background => exact fun _ _ _ => hbackground
  case stopped =>
    intro hresolved
    rw [hpc] at hresolved
    exact hstopped (Option.some.inj hresolved)

theorem not_doneSaving {pc : StopPc} (hpc : b.stopPc = some pc)
    (hended : pc ≠ .persistQueue true) (halarm : pc ≠ .alarmQueue)
    (hresolved : pc ≠ .resolved) : ¬ doneSaving b := by
  intro hdone
  rcases hdone with (h | h) | h
  · exact hended (Option.some.inj (hpc.symm.trans h))
  · exact halarm (Option.some.inj (hpc.symm.trans h))
  · exact hresolved (Option.some.inj (hpc.symm.trans h))

/-- Each step of the instance, with what `_stop` waits for. -/
theorem BodyOk.step {a : StopStep} (h : BodyOk code alarm b)
    (ha : a ≠ .stop)
    (hsave : asksForSave a = true → doneSaving b →
      b.persistChanged = false)
    (honStop : a = .onStopEnds → code.onStop = false)
    (hbackground : a = .backgroundEnds → code.backgroundPromises = 0)
    (hends : a = .alarmQueueEnds → code.others = 0 ∧ alarm = none)
    (hstep : stopStep codec opts b a = some b') : BodyOk code alarm b' := by
  have hcalled := stopStep_stopCalled ha hstep
  cases a with
  | stop => exact absurd rfl ha
  | onStopEnds =>
      simp only [stopStep, StoppingInstance.onStopEnds] at hstep
      split at hstep
      case h_2 => cases hstep
      case h_1 hpc =>
        rw [← Option.some.inj hstep]
        constructor
        case writes => exact h.writes
        case called => exact fun _ => h.called (by rw [hpc]; simp)
        case saved =>
          exact fun hdone => absurd hdone
            (not_doneSaving rfl (by simp) (by simp) (by simp))
        case onStop => exact fun _ _ => honStop rfl
        case background => exact fun _ _ hne => absurd rfl hne
        case stopped =>
          intro hresolved
          cases hresolved
  | backgroundEnds =>
      simp only [stopStep, StoppingInstance.backgroundEnds] at hstep
      split at hstep
      case h_2 => cases hstep
      case h_1 hpc =>
        rw [← Option.some.inj hstep] at hcalled ⊢
        have hcleared : b.clearSaveTimeout.WriteInv :=
          h.writes.congr rfl rfl rfl rfl rfl rfl
        have hwrites : (b.toLiveInstance.stop opts).WriteInv :=
          hcleared.saveState { immediate := true, allowStoppingState := true }
        refine .behind rfl hwrites ?_ ?_ (hbackground rfl) ?_ ?_
        · rw [hcalled]
          exact h.called (by rw [hpc]; simp)
        · exact h.onStop (by rw [hpc]; simp) (by rw [hpc]; simp)
        · intro hdone
          split at hdone
          · exact absurd hdone
              (not_doneSaving rfl (by simp) (by simp) (by simp))
          · exact absurd hdone
              (not_doneSaving rfl (by simp) (by simp) (by simp))
        · intro hresolved
          split at hresolved
          · cases hresolved
          · cases hresolved
  | saveStateEnds =>
      simp only [stopStep, StoppingInstance.saveStateEnds] at hstep
      split at hstep
      case h_2 => cases hstep
      case h_1 call hpc =>
        split at hstep
        · rw [← Option.some.inj hstep]
          refine .behind rfl h.writes (h.called (by rw [hpc]; simp))
            (h.onStop (by rw [hpc]; simp) (by rw [hpc]; simp))
            (h.background (by rw [hpc]; simp) (by rw [hpc]; simp)
              (by rw [hpc]; simp)) ?_ ?_
          · exact fun hdone => absurd hdone
              (not_doneSaving rfl (by simp) (by simp) (by simp))
          · intro hresolved
            cases hresolved
        · cases hstep
  | closed =>
      simp only [stopStep, StoppingInstance.closed] at hstep
      split at hstep
      case h_2 => cases hstep
      case h_1 hpc =>
        rw [← Option.some.inj hstep]
        refine .behind rfl h.writes (h.called (by rw [hpc]; simp))
          (h.onStop (by rw [hpc]; simp) (by rw [hpc]; simp))
          (h.background (by rw [hpc]; simp) (by rw [hpc]; simp)
            (by rw [hpc]; simp)) ?_ ?_
        · -- with no loop running no write is under way
          intro hdone
          by_cases hrun : b.persistWriteQueue.runningDrainLoop.isSome = true
          · rw [if_pos hrun] at hdone
            exact absurd hdone
              (not_doneSaving rfl (by simp) (by simp) (by simp))
          · exact h.writes.running_none_iff.1
              (Option.not_isSome_iff_eq_none.1 hrun)
        · intro hresolved
          split at hresolved
          · cases hresolved
          · cases hresolved
  | persistQueueEnds =>
      simp only [stopStep, StoppingInstance.persistQueueEnds] at hstep
      split at hstep
      case h_2 => cases hstep
      case h_1 hpc =>
        rw [← Option.some.inj hstep]
        refine .behind rfl h.writes (h.called (by rw [hpc]; simp))
          (h.onStop (by rw [hpc]; simp) (by rw [hpc]; simp))
          (h.background (by rw [hpc]; simp) (by rw [hpc]; simp)
            (by rw [hpc]; simp)) (fun _ => h.saved (Or.inl (Or.inl hpc))) ?_
        intro hresolved
        cases hresolved
  | alarmQueueEnds =>
      simp only [stopStep, StoppingInstance.alarmQueueEnds] at hstep
      split at hstep
      case h_2 => cases hstep
      case h_1 hpc =>
        rw [← Option.some.inj hstep]
        exact .behind rfl h.writes (h.called (by rw [hpc]; simp))
          (h.onStop (by rw [hpc]; simp) (by rw [hpc]; simp))
          (h.background (by rw [hpc]; simp) (by rw [hpc]; simp)
            (by rw [hpc]; simp)) (fun _ => h.saved (Or.inl (Or.inr hpc)))
          (fun _ => hends rfl)
  | live a =>
      simp only [stopStep] at hstep
      split at hstep
      case isFalse => cases hstep
      case isTrue hop =>
        obtain ⟨l, hl, heq⟩ := Option.map_eq_some_iff.1 hstep
        rw [← heq] at hcalled ⊢
        refine h.stays rfl (liveStep_writes hop h.writes hl).1 hcalled ?_
        intro hdone
        have hkept := (liveStep_kept hop hl).2 fun hasks => hsave hasks hdone
        exact hkept.write.trans (h.saved hdone)
  | save a =>
      simp only [stopStep] at hstep
      split at hstep
      case isFalse => cases hstep
      case isTrue hadmits =>
        obtain ⟨t, ht, heq⟩ := Option.map_eq_some_iff.1 hstep
        rw [← heq] at hcalled ⊢
        have hwrites : t.WriteInv := ActorInstance.writeInv_step h.writes ht
        have hgoes : BodyOk code alarm (b.goesOn false
            { b.toLiveInstance with toActorInstance := t }) := by
          refine h.stays rfl hwrites ?_ ?_
          · rw [(afterSave_kept _ a).1] at hcalled
            exact hcalled
          · intro hdone
            refine saveStep_idle (h.saved hdone)
              (fun hasks => hsave hasks hdone) ?_ ht
            intro path valid f heq
            rw [heq] at hadmits
            cases hadmits
        unfold StoppingInstance.afterSave
        split
        · split
          case isTrue hended =>
            -- the loop that `_stop` awaits has ended
            obtain ⟨hpc, hrun⟩ := hended
            refine .behind rfl hwrites (hgoes.called (by rw [hpc]; simp))
              (hgoes.onStop (by rw [hpc]; simp) (by rw [hpc]; simp))
              (hgoes.background (by rw [hpc]; simp) (by rw [hpc]; simp)
                (by rw [hpc]; simp)) ?_ ?_
            · exact fun _ => hwrites.running_none_iff.1
                (Option.isNone_iff_eq_none.1 hrun)
            · intro hresolved
              cases hresolved
          case isFalse => exact hgoes
        · exact hgoes

end Stopped

end RivetKit.Drivers.FileSystem
