/-
Durability across restarts: the bytes an instance reads at its start are
the last ones its actor wrote, or the empty record if it wrote none.

The start callback seeds every new handler with the empty record, so
`readPersistedData` never reaches its KV fallback, and a start that finds
no handler reads the seed whatever the store holds
(`readsLastWrite_fails`). A step is `SeedSafe` when it is no such start
of an actor that has written before; along such steps every read is
right.

# The invariant

`Holds` is the claim about one cache: the handler in the map caches what
its actor last wrote, or an empty record. The map gives different actors
different handlers, so a write through one leaves the others alone.
-/
import RivetKit.Drivers.Engine.ActorDriver

namespace RivetKit.Drivers.Engine

open Transition
open Actor
open Js

variable {ser : Serializer} {registryConfig : RegistryConfig}

namespace EngineActorDriver

-- ================================================ statement vocabulary

/-- The bytes are the last ones written, or an empty record where
nothing was. -/
def Holds (ser : Serializer) (lastWrite bytes : Option Bytes) : Prop :=
  match lastWrite with
  | some data => bytes = some data
  | none => ∃ input, bytes = some (serializeEmptyPersistData ser input)

/-- Every instance read, at its start, what its actor had last written,
or an empty record if it had written nothing. -/
def ReadsLastWrite (ser : Serializer) (s : EngineActorDriver) : Prop :=
  ∀ inst ∈ s.instances, Holds ser inst.lastWrite inst.persistDataBuffer

/-- A start finds the handler of its actor in memory, or nothing was
ever written for the actor. -/
def SeedSafe (s : EngineActorDriver) : EngineStep → Prop
  | .onActorStart actorId _ =>
      (s.actors actorId).isSome = true ∨ s.lastWrite actorId = none
  | _ => True

instance (s : EngineActorDriver) : (a : EngineStep) → Decidable (s.SeedSafe a)
  | .onActorStart _ _ => inferInstanceAs (Decidable (_ ∨ _))
  | .actorStarted _ => .isTrue trivial
  | .writePersistedData _ _ => .isTrue trivial
  | .onActorStop _ => .isTrue trivial
  | .actorStopped _ => .isTrue trivial
  | .newProcess => .isTrue trivial

-- ======================================================= the invariant

/-- The handlers in the map are allocated, different actors have
different ones, and each caches what its actor last wrote. -/
structure CacheInv (ser : Serializer) (s : EngineActorDriver) : Prop where
  allocated : ∀ (actorId : String) (h : Nat), s.actors actorId = some h →
    h < s.handlers.length
  injective : ∀ (id id' : String) (h : Nat), s.actors id = some h →
    s.actors id' = some h → id = id'
  cached : ∀ (actorId : String) (h : Nat) (handler : ActorHandler),
    s.actors actorId = some h → s.handlers[h]? = some handler →
      Holds ser (s.lastWrite actorId) handler.persistedData
  reads : s.ReadsLastWrite ser

/-- Before anything happened. -/
theorem cacheInv_empty : CacheInv ser {} := by
  refine ⟨?_, ?_, ?_, ?_⟩
  · intro actorId h hs
    cases hs
  · intro id id' h hs
    cases hs
  · intro actorId h handler hs
    cases hs
  · intro inst hmem
    cases hmem

/-- Changing a handler in anything but its cache. -/
theorem CacheInv.modifyHandler {s : EngineActorDriver} (h : CacheInv ser s)
    (i : Nat) {f : ActorHandler → ActorHandler}
    (hf : ∀ handler, (f handler).persistedData = handler.persistedData) :
    CacheInv ser (s.modifyHandler i f) := by
  refine ⟨?_, h.injective, ?_, h.reads⟩
  · intro actorId j hj
    simpa [EngineActorDriver.modifyHandler] using h.allocated actorId j hj
  · intro actorId j handler hj hget
    simp only [EngineActorDriver.modifyHandler, List.getElem?_modify] at hget
    cases hold : s.handlers[j]? with
    | none => simp [hold] at hget
    | some old =>
        have hcached := h.cached actorId j old hj hold
        by_cases hij : i = j
        · simp only [hold, hij, if_true, Option.map_eq_map, Option.map_some,
            Option.some.injEq] at hget
          rw [← hget, hf]
          exact hcached
        · simp only [hold, hij, if_false, Option.map_eq_map, Option.map_some,
            Option.some.injEq] at hget
          rw [← hget]
          exact hcached

/-- The start callback finds a handler, or seeds one for an actor that
has written nothing. -/
theorem CacheInv.upsertHandler {s : EngineActorDriver} (h : CacheInv ser s)
    {actorId : String} (input : Value)
    (hsafe : (s.actors actorId).isSome = true ∨ s.lastWrite actorId = none) :
    CacheInv ser (s.upsertHandler ser actorId input).1
      ∧ (s.upsertHandler ser actorId input).1.actors actorId
          = some (s.upsertHandler ser actorId input).2 := by
  unfold EngineActorDriver.upsertHandler
  cases hmap : s.actors actorId with
  | some i => exact ⟨h, hmap⟩
  | none =>
      have hnone : s.lastWrite actorId = none := by
        rcases hsafe with hsome | hnone
        · rw [hmap] at hsome
          cases hsome
        · exact hnone
      refine ⟨⟨?_, ?_, ?_, h.reads⟩, by simp⟩
      · intro id i hi
        by_cases hid : id = actorId
        · subst hid
          simp only [Function.update_self, Option.some.injEq] at hi
          simp [← hi]
        · simp only [Function.update_of_ne hid] at hi
          have hlt := h.allocated id i hi
          simp only [List.length_append, List.length_singleton]
          omega
      · intro id id' i hi hi'
        by_cases hid : id = actorId
        · by_cases hid' : id' = actorId
          · rw [hid, hid']
          · subst hid
            simp only [Function.update_self, Option.some.injEq] at hi
            simp only [Function.update_of_ne hid'] at hi'
            have hlt := h.allocated id' i hi'
            omega
        · by_cases hid' : id' = actorId
          · subst hid'
            simp only [Function.update_self, Option.some.injEq] at hi'
            simp only [Function.update_of_ne hid] at hi
            have hlt := h.allocated id i hi
            omega
          · simp only [Function.update_of_ne hid] at hi
            simp only [Function.update_of_ne hid'] at hi'
            exact h.injective id id' i hi hi'
      · intro id i handler hi hget
        by_cases hid : id = actorId
        · subst hid
          simp only [Function.update_self, Option.some.injEq] at hi
          subst hi
          simp only [List.getElem?_concat_length, Option.some.injEq] at hget
          subst hget
          show Holds ser (s.lastWrite id) _
          rw [hnone]
          exact ⟨input, rfl⟩
        · simp only [Function.update_of_ne hid] at hi
          have hlt := h.allocated id i hi
          simp only [List.getElem?_append_left hlt] at hget
          exact h.cached id i handler hi hget

/-- A read of an actor in the map returns its cache: the KV fallback is
never taken. -/
theorem CacheInv.readPersistedData {s : EngineActorDriver}
    (h : CacheInv ser s) {actorId : String} {i : Nat}
    (hi : s.actors actorId = some i) :
    ∃ data, s.readPersistedData actorId = some (s, some data)
      ∧ Holds ser (s.lastWrite actorId) (some data) := by
  have hlt := h.allocated actorId i hi
  have hget : s.handlers[i]? = some s.handlers[i] :=
    List.getElem?_eq_getElem hlt
  have hcached := h.cached actorId i _ hi hget
  obtain ⟨data, hdata⟩ : ∃ data, s.handlers[i].persistedData = some data := by
    unfold Holds at hcached
    split at hcached
    · exact ⟨_, hcached⟩
    · obtain ⟨input, hinput⟩ := hcached
      exact ⟨_, hinput⟩
  refine ⟨data, ?_, ?_⟩
  · unfold EngineActorDriver.readPersistedData
    rw [hi]
    simp [hget, hdata]
  · rw [← hdata]
    exact hcached

/-- An instance is made with what it read. -/
theorem CacheInv.pushInstance {s : EngineActorDriver} (h : CacheInv ser s)
    (actorId : String) (i : Nat) {buffer : Option Bytes}
    (hread : Holds ser (s.lastWrite actorId) buffer) :
    CacheInv ser (s.pushInstance actorId i buffer) := by
  have hmod := h.modifyHandler i
    (f := fun handler => { handler with actor := some s.instances.length })
    fun _ => rfl
  refine ⟨hmod.allocated, hmod.injective, hmod.cached, ?_⟩
  intro inst hmem
  rcases List.mem_append.mp hmem with hmem | hmem
  · exact h.reads inst hmem
  · rw [List.mem_singleton.mp hmem]
    exact hread

/-- The start callback. -/
theorem CacheInv.onActorStart {s : EngineActorDriver} (h : CacheInv ser s)
    {actorId : String} (config : RunnerActorConfig)
    (hsafe : (s.actors actorId).isSome = true ∨ s.lastWrite actorId = none) :
    CacheInv ser (s.onActorStart ser registryConfig actorId config) := by
  obtain ⟨hup, hmap⟩ := h.upsertHandler config.input hsafe
  obtain ⟨data, hread, hholds⟩ := hup.readPersistedData hmap
  unfold EngineActorDriver.onActorStart
  dsimp only
  split
  · rw [hread]
    exact hup.pushInstance actorId _ hholds
  · exact hup

/-- A write goes to the cache and to the store. -/
theorem CacheInv.writePersistedData {s s' : EngineActorDriver} {i : Nat}
    {data : Bytes} (h : CacheInv ser s)
    (hs : s.writePersistedData i data = some s') : CacheInv ser s' := by
  unfold EngineActorDriver.writePersistedData at hs
  cases hinst : s.instances[i]? with
  | none => simp [hinst] at hs
  | some inst =>
      by_cases hproc : inst.process = s.process
      · cases hmap : s.actors inst.actorId with
        | none => simp [hinst, hproc, hmap] at hs
        | some j =>
            simp only [hinst, hproc, hmap, Option.bind_eq_bind, if_true,
              Option.bind_some, Option.pure_def, Option.some.injEq] at hs
            subst hs
            refine ⟨?_, h.injective, ?_, h.reads⟩
            · intro id k hk
              simpa [EngineActorDriver.modifyHandler] using h.allocated id k hk
            · intro id k handler hk hget
              replace hk : s.actors id = some k := hk
              replace hget : (s.handlers.modify j fun handler =>
                { handler with persistedData := some data })[k]?
                  = some handler := hget
              rw [List.getElem?_modify] at hget
              have hlt := h.allocated id k hk
              rw [List.getElem?_eq_getElem hlt] at hget
              show Holds ser (Function.update s.lastWrite inst.actorId
                (some data) id) _
              by_cases hid : id = inst.actorId
              · subst hid
                rw [hmap] at hk
                injection hk with hk
                simp only [hk, if_true, Option.map_eq_map, Option.map_some,
                  Option.some.injEq] at hget
                rw [Function.update_self, ← hget]
                rfl
              · have hjk : j ≠ k := by
                  rintro rfl
                  exact hid (h.injective id inst.actorId j hk hmap)
                simp only [hjk, if_false, Option.map_eq_map, Option.map_some,
                  Option.some.injEq] at hget
                rw [Function.update_of_ne hid]
                refine h.cached id k handler hk ?_
                rw [List.getElem?_eq_getElem hlt, hget]
      · simp [hinst, hproc] at hs

/-- A handler leaves the map. -/
theorem CacheInv.delete {s : EngineActorDriver} (h : CacheInv ser s)
    {actors : String → Option Nat}
    (hsub : ∀ id i, actors id = some i → s.actors id = some i)
    (process : Nat) (stops : List String) :
    CacheInv ser { s with process := process, actors := actors,
                          stops := stops } :=
  ⟨fun id i hi => h.allocated id i (hsub id i hi),
    fun id id' i hi hi' =>
      h.injective id id' i (hsub id i hi) (hsub id' i hi'),
    fun id i handler hi => h.cached id i handler (hsub id i hi), h.reads⟩

-- ======================================================== step and run

/-- One guarded step preserves the invariant. -/
theorem cacheInv_step {s s' : EngineActorDriver} {a : EngineStep}
    (h : CacheInv ser s) (hsafe : s.SeedSafe a)
    (hstep : engineStep ser registryConfig s a = some s') :
    CacheInv ser s' := by
  cases a with
  | onActorStart actorId config =>
      injection hstep with hstep
      rw [← hstep]
      exact h.onActorStart config hsafe
  | actorStarted i =>
      simp only [engineStep, EngineActorDriver.actorStarted] at hstep
      cases hinst : s.instances[i]? with
      | none => simp [hinst] at hstep
      | some inst =>
          simp only [hinst, Option.bind_eq_bind, Option.bind_some,
            Option.pure_def, Option.some.injEq] at hstep
          rw [← hstep]
          exact h.modifyHandler _ fun _ => rfl
  | writePersistedData i data => exact h.writePersistedData hstep
  | onActorStop actorId =>
      injection hstep with hstep
      rw [← hstep]
      unfold EngineActorDriver.onActorStop
      split
      · split
        · exact h.delete (fun _ _ hi => hi) _ _
        · exact h
      · exact h
  | actorStopped k =>
      simp only [engineStep, EngineActorDriver.actorStopped] at hstep
      cases hstop : s.stops[k]? with
      | none => simp [hstop] at hstep
      | some actorId =>
          simp only [hstop, Option.bind_eq_bind, Option.bind_some,
            Option.pure_def, Option.some.injEq] at hstep
          rw [← hstep]
          refine h.delete ?_ _ _
          intro id i hi
          by_cases hid : id = actorId
          · rw [hid, Function.update_self] at hi
            cases hi
          · rw [Function.update_of_ne hid] at hi
            exact hi
  | newProcess =>
      injection hstep with hstep
      rw [← hstep]
      refine h.delete ?_ _ _
      intro id i hi
      cases hi

/-- The invariant holds along every guarded history. -/
theorem cacheInv_reaches {s : EngineActorDriver}
    (h : (engineSystem ser registryConfig).Reaches SeedSafe s) :
    CacheInv ser s := by
  refine System.Reaches.invariant (P := CacheInv ser) ?_ ?_ h
  · rintro s rfl
    exact cacheInv_empty
  · intro s a s' _ hinv hsafe hstep
    exact cacheInv_step hinv hsafe hstep

end EngineActorDriver

open EngineActorDriver

/-- In every history whose starts each find their handler in memory or
an actor that never wrote, every instance read the last bytes its actor
wrote, or an empty record. -/
theorem readsLastWrite_of_safe {s : EngineActorDriver}
    (h : (engineSystem ser registryConfig).Reaches SeedSafe s) :
    s.ReadsLastWrite ser :=
  (cacheInv_reaches h).reads

/-- The encoders on records without connections and events, as below:
the version, then the fields of the record in BARE. -/
def sampleSerializer : Serializer where
  cborEncode
    | .undefined => [0xf7]
    | _ => []
  serialize bare :=
    [1, 0] ++ (match bare.input with
      | some input => [1, input.length.toUInt8] ++ input
      | none => [0])
      ++ [if bare.hasInitialized then 1 else 0]
      ++ [bare.state.length.toUInt8] ++ bare.state ++ [0, 0]

/-- A first start, the write of the initialised record, a second start
without a stop. -/
def startTwice : List EngineStep :=
  [.onActorStart "id" ⟨"counter", some emptyKey, .undefined⟩, .actorStarted 0,
    .writePersistedData 0 [1, 0, 0, 1, 1, 0xf6, 0, 0],
    .onActorStart "id" ⟨"counter", some emptyKey, .undefined⟩]

/-- The second instance read what the first one wrote. -/
theorem readsLastWrite_of_safe_startTwice :
    ∃ s : EngineActorDriver,
      (engineSystem sampleSerializer ⟨["counter"]⟩).run {} startTwice = some s
      ∧ s.instances.map (·.persistDataBuffer)
          = [some [1, 0, 0, 0, 1, 0xf7, 0, 0], some [1, 0, 0, 1, 1, 0xf6, 0, 0]]
      ∧ s.ReadsLastWrite sampleSerializer := by
  refine ⟨_, rfl, rfl, @readsLastWrite_of_safe _ ⟨["counter"]⟩ _ ?_⟩
  refine System.Reaches.run startTwice (.init rfl) ?_ rfl
  decide

/-- After a process restart the actor starts from the empty record. -/
theorem readsLastWrite_fails :
    ¬ ∀ s : EngineActorDriver,
      (engineSystem sampleSerializer ⟨["counter"]⟩).Reachable s →
        s.ReadsLastWrite sampleSerializer := by
  intro hall
  have hreads := hall _ (System.Reachable.run
    [.onActorStart "id" ⟨"counter", some emptyKey, .undefined⟩, .actorStarted 0,
      .writePersistedData 0 [1, 0, 0, 1, 1, 0xf6, 0, 0], .newProcess,
      .onActorStart "id" ⟨"counter", some emptyKey, .undefined⟩]
    (.init rfl) rfl)
  have hholds := hreads
    { actorId := "id"
      process := 1
      handler := 1
      persistDataBuffer := some [1, 0, 0, 0, 1, 0xf7, 0, 0]
      lastWrite := some [1, 0, 0, 1, 1, 0xf6, 0, 0] } (by decide)
  exact absurd (show some _ = some _ from hholds) (by decide)

end RivetKit.Drivers.Engine
