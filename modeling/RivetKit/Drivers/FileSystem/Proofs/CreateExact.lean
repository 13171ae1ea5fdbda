/-
`createActor` is exact at a call if and only if the process has an entry
for the actor just when a state exists (`createActor_exact`). Whether it
has an entry is read off the history (`run_touched`): a lookup that finds
nothing leaves one, and a restart leaves none.
-/
import RivetKit.Drivers.FileSystem.ActorStore

namespace RivetKit.Drivers.FileSystem

open Transition
open Actor

namespace ActorStore

variable {s s' : ActorStore}

-- ============================================================== the map

theorem upsertEntry_actors (s : ActorStore) :
    s.upsertEntry.1.actors.isSome = true := by
  unfold upsertEntry
  split
  case h_1 e he =>
    rw [he]
    rfl
  case h_2 => rfl

theorem loadActor_actors (s : ActorStore) :
    s.loadActor.1.actors.isSome = true := by
  have h := upsertEntry_actors s
  unfold loadActor
  dsimp only
  split
  · exact h
  · split
    · exact h
    · split
      · exact h
      · exact h

@[simp]
theorem writeActor_actors (s : ActorStore) (state : ActorState)
    (create : Bool) : (s.writeActor state create).actors = s.actors := by
  unfold writeActor
  split
  · rfl
  · split
    · rfl
    · rfl

@[simp]
theorem setState_actors (s : ActorStore) (e : Nat) (state : ActorState) :
    (s.setState e state).actors = s.actors := rfl

theorem createActor_actors (s : ActorStore) (newState : ActorState) :
    (s.createActor newState).1.actors.isSome = true := by
  unfold createActor
  split
  case isTrue h => exact h
  case isFalse =>
    dsimp only
    rw [writeActor_actors, setState_actors]
    exact upsertEntry_actors s

theorem readFile_actors {load : Nat} {ok : Bool}
    (h : s.readFile load ok = some s') : s'.actors = s.actors := by
  unfold readFile at h
  split at h
  case h_1 e _ =>
    split at h
    · split at h
      · injection h with h
        rw [← h]
        rfl
      · injection h with h
        rw [← h]
    · injection h with h
      rw [← h]
  case h_2 => cases h

theorem resume_actors {c : Nat} (h : s.resume c = some s') :
    s'.actors = s.actors := by
  unfold resume at h
  dsimp only at h
  split at h
  · split at h
    · split at h
      · injection h with h
        rw [← h]
      · injection h with h
        rw [← h, writeActor_actors, setState_actors]
    · cases h
  · split at h
    · split at h
      · injection h with h
        rw [← h, writeActor_actors]
      · injection h with h
        rw [← h]
    · cases h
  · cases h

theorem endWrite_eq {w : Nat} {ok : Bool}
    (h : s.endWrite w ok = some s') :
    ∃ write, s.writes[w]? = some write ∧ s' =
      { s with
        writes := s.writes.eraseIdx w
        stateFile := if ok then some write.state else s.stateFile } := by
  unfold endWrite at h
  split at h
  case h_1 write hwrite =>
    injection h with h
    exact ⟨write, hwrite, h.symm⟩
  case h_2 => cases h

theorem startActor_some (h : s.startActor = some s') :
    s'.actors = s.actors ∧ s'.writes = s.writes
      ∧ s'.stateFile = s.stateFile := by
  unfold startActor at h
  split at h
  · split at h
    · injection h with h
      rw [← h]
      exact ⟨rfl, rfl, rfl⟩
    · cases h
  · cases h

theorem sleepActor_some (h : s.sleepActor = some s') :
    s'.actors = s.actors ∧ s'.writes = s.writes
      ∧ s'.stateFile = s.stateFile := by
  unfold sleepActor at h
  split at h
  · split at h
    · injection h with h
      rw [← h]
      exact ⟨rfl, rfl, rfl⟩
    · cases h
  · cases h

theorem endSleep_some {c : Nat} (h : s.endSleep c = some s') :
    s'.actors = none ∧ s'.writes = s.writes
      ∧ s'.stateFile = s.stateFile := by
  unfold endSleep at h
  split at h
  · split at h
    · injection h with h
      rw [← h]
      exact ⟨rfl, rfl, rfl⟩
    · cases h
  · cases h

/-- What one step does to the map is in the history. -/
theorem storeStep_touched {a : StoreStep} (h : storeStep s a = some s') :
    s'.actors.isSome = touchedAfter s.actors.isSome a := by
  cases a with
  | lookup =>
      injection h with h
      rw [← h]
      exact loadActor_actors s
  | scheduleAlarmTimeout =>
      injection h with h
      rw [← h]
      exact upsertEntry_actors s
  | readFile load ok => exact congrArg _ (readFile_actors h)
  | createActor newState =>
      injection h with h
      rw [← h]
      exact createActor_actors s newState
  | loadOrCreateActor newState =>
      injection h with h
      rw [← h]
      exact loadActor_actors s
  | writePersistedData data =>
      injection h with h
      rw [← h]
      exact loadActor_actors s
  | resume c => exact congrArg _ (resume_actors h)
  | endWrite w ok =>
      obtain ⟨write, -, h⟩ := endWrite_eq h
      rw [h]
      rfl
  | startActor => exact congrArg _ (startActor_some h).1
  | sleepActor => exact congrArg _ (sleepActor_some h).1
  | endSleep c =>
      rw [(endSleep_some h).1]
      rfl
  | restart =>
      injection h with h
      rw [← h]
      rfl

/-- So the map is, after any run. -/
theorem run_touched (steps : List StoreStep) :
    ∀ {s s' : ActorStore}, storeSystem.run s steps = some s' →
      s'.actors.isSome = steps.foldl touchedAfter s.actors.isSome := by
  induction steps with
  | nil =>
      intro s s' h
      injection h with h
      rw [h]
      rfl
  | cons a steps ih =>
      intro s s' h
      obtain ⟨s₁, hstep, hrest⟩ := System.run_cons h
      rw [ih hrest, storeStep_touched hstep]
      rfl

-- ============================================================== the call

/-- `createActor` throws just when the map has the actor. -/
theorem createActor_threw (s : ActorStore) (newState : ActorState) :
    (s.createActor newState).2.threw = true ↔ s.actors.isSome = true := by
  unfold createActor
  split
  case isTrue h =>
    constructor
    · intro _
      exact h
    · intro _
      rfl
  case isFalse h =>
    constructor
    · intro hthrew
      cases hthrew
    · intro hsome
      exact absurd hsome h

/-- What throws changes nothing. -/
theorem createActor_of_isSome {newState : ActorState}
    (h : s.actors.isSome = true) : (s.createActor newState).1 = s := by
  unfold createActor
  rw [if_pos h]

/-- A call is exact just when the map has the actor when there is a
state. -/
theorem createsExactly_iff (s : ActorStore) (newState : ActorState) :
    s.CreatesExactly newState ↔ (s.actors.isSome = true ↔ s.HasState) := by
  unfold CreatesExactly
  rw [createActor_threw]
  constructor
  · intro h
    exact h.1
  · intro h
    refine ⟨h, createActor_of_isSome, ?_⟩
    intro hfile
    have hsome := h.2 (Or.inr (Or.inr hfile))
    rw [createActor_of_isSome hsome]
    exact ⟨rfl, rfl⟩

-- ============================================================= its write

@[simp]
theorem setState_stateFile (s : ActorStore) (e : Nat) (state : ActorState) :
    (s.setState e state).stateFile = s.stateFile := rfl

@[simp]
theorem writeActor_stateFile (s : ActorStore) (state : ActorState)
    (create : Bool) :
    (s.writeActor state create).stateFile = s.stateFile := by
  unfold writeActor
  split
  · rfl
  · split
    · rfl
    · rfl

/-- A write in flight is one that was, or the one `writeActor` issued. -/
theorem mem_writeActor {state : ActorState} {create : Bool}
    {write : StateWrite} (h : write ∈ (s.writeActor state create).writes) :
    write ∈ s.writes ∨ write = { state, create } := by
  unfold writeActor at h
  split at h
  · exact Or.inl h
  · split at h
    · rcases List.mem_append.1 h with h | h
      · exact Or.inl h
      · exact Or.inr (List.mem_singleton.1 h)
    · exact Or.inl h

/-- What a step other than `createActor` and the end of a write leaves:
the file, and no new write of `createActor`. -/
def Leaves (s s' : ActorStore) : Prop :=
  s'.stateFile = s.stateFile ∧ (s'.Creating → s.Creating)

theorem Leaves.of_eq (hfile : s'.stateFile = s.stateFile)
    (hwrites : s'.writes = s.writes) : s.Leaves s' := by
  refine ⟨hfile, ?_⟩
  unfold Creating
  rw [hwrites]
  exact id

theorem Leaves.writeActor {state : ActorState} (h : s.Leaves s') :
    s.Leaves (s'.writeActor state false) := by
  refine ⟨by rw [writeActor_stateFile, h.1], ?_⟩
  intro hcreating
  obtain ⟨write, hmem, hcreate⟩ := hcreating
  rcases mem_writeActor hmem with hmem | heq
  · exact h.2 ⟨write, hmem, hcreate⟩
  · rw [heq] at hcreate
    cases hcreate

theorem upsertEntry_leaves (s : ActorStore) : s.Leaves s.upsertEntry.1 := by
  unfold upsertEntry
  split
  · exact .of_eq rfl rfl
  · exact .of_eq rfl rfl

theorem loadActor_leaves (s : ActorStore) : s.Leaves s.loadActor.1 := by
  have h := upsertEntry_leaves s
  unfold loadActor
  dsimp only
  split
  · exact h
  · split
    · exact h
    · split
      · exact h
      · exact h

theorem readFile_leaves {load : Nat} {ok : Bool}
    (h : s.readFile load ok = some s') : s.Leaves s' := by
  unfold readFile at h
  split at h
  case h_1 e _ =>
    split at h
    · split at h
      · injection h with h
        rw [← h]
        exact .of_eq rfl rfl
      · injection h with h
        rw [← h]
        exact .of_eq rfl rfl
    · injection h with h
      rw [← h]
      exact .of_eq rfl rfl
  case h_2 => cases h

theorem resume_leaves {c : Nat} (h : s.resume c = some s') :
    s.Leaves s' := by
  unfold resume at h
  dsimp only at h
  split at h
  · split at h
    · split at h
      · injection h with h
        rw [← h]
        exact .of_eq rfl rfl
      · injection h with h
        rw [← h]
        exact Leaves.writeActor (.of_eq rfl rfl)
    · cases h
  · split at h
    · split at h
      · injection h with h
        rw [← h]
        exact Leaves.writeActor (.of_eq rfl rfl)
      · injection h with h
        rw [← h]
        exact .of_eq rfl rfl
    · cases h
  · cases h

/-- While a write of `createActor` is in flight no state is stored. -/
def Unstored (s : ActorStore) : Prop :=
  s.Creating → s.stateFile = none

theorem Unstored.leaves (h : s.Unstored) (hleaves : s.Leaves s') :
    s'.Unstored := by
  intro hcreating
  rw [hleaves.1]
  exact h (hleaves.2 hcreating)

/-- A call that does not throw finds nothing stored and no write in
flight. -/
theorem createActor_unstored (h : s.Unstored)
    (hok : s.actors.isSome ↔ s.HasState) (newState : ActorState) :
    (s.createActor newState).1.Unstored := by
  by_cases hsome : s.actors.isSome = true
  · rw [createActor_of_isSome hsome]
    exact h
  · have hnone := mt hok.2 hsome
    have hfile : s.stateFile = none := by
      apply Option.eq_none_iff_forall_ne_some.2
      intro state hstate
      apply hnone
      right
      right
      rw [hstate]
      rfl
    intro _
    unfold createActor
    rw [if_neg hsome]
    dsimp only
    rw [writeActor_stateFile, setState_stateFile,
      (upsertEntry_leaves s).1]
    exact hfile

theorem storeStep_unstored (h : s.Unstored) {a : StoreStep}
    (hok : storeOk s a) (hstep : storeStep s a = some s') : s'.Unstored := by
  cases a with
  | lookup =>
      injection hstep with hstep
      rw [← hstep]
      exact h.leaves (loadActor_leaves s)
  | scheduleAlarmTimeout =>
      injection hstep with hstep
      rw [← hstep]
      exact h.leaves (upsertEntry_leaves s)
  | readFile load ok => exact h.leaves (readFile_leaves hstep)
  | createActor newState =>
      injection hstep with hstep
      rw [← hstep]
      exact createActor_unstored h hok newState
  | loadOrCreateActor newState =>
      injection hstep with hstep
      rw [← hstep]
      exact h.leaves (loadActor_leaves s)
  | writePersistedData data =>
      injection hstep with hstep
      rw [← hstep]
      exact h.leaves (loadActor_leaves s)
  | resume c => exact h.leaves (resume_leaves hstep)
  | endWrite w ok =>
      obtain ⟨write, -, hs'⟩ := endWrite_eq hstep
      intro hcreating
      obtain ⟨other, hmem, hcreate⟩ := hcreating
      rw [hs'] at hmem ⊢
      cases ok with
      | true =>
          rw [hok other hmem] at hcreate
          cases hcreate
      | false => exact h ⟨other, List.mem_of_mem_eraseIdx hmem, hcreate⟩
  | startActor =>
      obtain ⟨-, hwrites, hfile⟩ := startActor_some hstep
      exact h.leaves (.of_eq hfile hwrites)
  | sleepActor =>
      obtain ⟨-, hwrites, hfile⟩ := sleepActor_some hstep
      exact h.leaves (.of_eq hfile hwrites)
  | endSleep c =>
      obtain ⟨-, hwrites, hfile⟩ := endSleep_some hstep
      exact h.leaves (.of_eq hfile hwrites)
  | restart =>
      injection hstep with hstep
      rw [← hstep]
      intro hcreating
      obtain ⟨write, hmem, -⟩ := hcreating
      cases hmem

/-- In a guarded run a write of `createActor` replaces nothing. -/
theorem Reaches.unstored (h : storeSystem.Reaches storeOk s) :
    s.Unstored := by
  refine System.Reaches.invariant ?_ ?_ h
  · intro s hs
    obtain ⟨persist, hs⟩ := hs
    intro _
    rw [hs]
  · intro s a s' _ h hok hstep
    exact storeStep_unstored h hok hstep

end ActorStore

open ActorStore

-- ============================================================= every run

/-- After any run, a call is exact if and only if something has touched
the actor, since the process started or put it to sleep, just when a state
exists. And if all calls of the run were, with no other write renamed
while theirs was in flight, the write of a call in flight replaces
nothing. -/
theorem createActor_exact {persist : Bool} {steps : List StoreStep}
    {s : ActorStore} (hrun : storeSystem.run { persist } steps = some s) :
    (∀ newState, s.CreatesExactly newState
        ↔ (touched steps = true ↔ s.HasState))
      ∧ (storeSystem.RunOk storeOk { persist } steps →
        s.Creating → s.stateFile = none) := by
  constructor
  · intro newState
    rw [createsExactly_iff, run_touched steps hrun]
    rfl
  · intro hok
    have hinit : storeSystem.Reaches storeOk { persist } :=
      .init ⟨persist, rfl⟩
    exact Reaches.unstored (hinit.run steps hok hrun)

/-- An actor's state. -/
def storedCounter (key : String) : ActorState where
  actorId := "f1c3"
  name := "counter"
  key := [key]
  createdAt := 1700000000000
  persistedData := []

/-- After a create and its write, a second create is exact. -/
theorem createActor_exact_twice :
    (ActorStore.mk true [{ state := some (storedCounter "a") }] (some 0) []
      [] [] (some (storedCounter "a"))).CreatesExactly (storedCounter "b") := by
  have h := @createActor_exact true
    [.createActor (storedCounter "a"), .endWrite 0 true] _ rfl
  apply (h.1 _).2
  constructor
  · intro _
    exact Or.inr (Or.inr rfl)
  · intro _
    rfl

/-- An actor that was looked up and does not exist cannot be created. And
after a restart an actor that is stored is created again. -/
theorem createActor_not_exact :
    (∃ s, storeSystem.run { persist := true } [.lookup, .readFile 0 true]
        = some s ∧ ¬ s.HasState ∧ ¬ s.CreatesExactly (storedCounter "a"))
      ∧ ∃ s, storeSystem.run { persist := true }
        [.createActor (storedCounter "a"), .endWrite 0 true, .restart] = some s
        ∧ s.stateFile = some (storedCounter "a")
        ∧ (s.createActor (storedCounter "b")).1.writes
          = [{ state := storedCounter "b", create := true }]
        ∧ ¬ s.CreatesExactly (storedCounter "b") := by
  refine ⟨⟨_, rfl, ?_, ?_⟩, ⟨_, rfl, rfl, rfl, ?_⟩⟩
  · intro h
    rcases h with ⟨e, he, hstate⟩ | h | h
    · injection he with he
      rw [← he] at hstate
      cases hstate
    · exact h rfl
    · cases h
  · intro h
    have hthrows := (createsExactly_iff _ _).1 h
    rcases hthrows.1 rfl with ⟨e, he, hstate⟩ | h | h
    · injection he with he
      rw [← he] at hstate
      cases hstate
    · exact h rfl
    · cases h
  · intro h
    have hthrows := (createsExactly_iff _ _).1 h
    have hsome := hthrows.2 (Or.inr (Or.inr rfl))
    cases hsome

end RivetKit.Drivers.FileSystem
