/-
The input an actor is created with, on the four ways to its first start:
`createActor` and `getOrCreateWithKey` of the engine's driver, `createActor`
and `loadOrCreateActor` of the file system's. All four deliver it to the
creation hooks if and only if it is absent or truthy
(`creation_inputs_agree_iff`).

# The argument

- A record without anything but an input is read back with it
  (`deliversInput_empty`), and it is such a record that the drivers seed
  or write. So a way delivers what reaches `serializeEmptyPersistData`.
- `createActor` of the engine's driver tests the input's truth: a falsy
  one is not in the request, and `undefined` is delivered in its place
  (`createActorInput_falsy`). `getOrCreateWithKey` has the same test of
  its whole argument, an object; the others test for `undefined`.
-/
import RivetKit.Actor.Initialize
import RivetKit.Actor.Proofs.PersistRoundTrip
import RivetKit.Drivers.Engine.Creation
import RivetKit.Drivers.Engine.Proofs.Keys
import RivetKit.Drivers.FileSystem.Proofs.ReadWrite

namespace RivetKit.Drivers

open Actor
open Js
open Engine
open FileSystem

variable {codec : PersistCodec} {serializable : Value → Prop}

-- ============================================================ the property

/-- The input `v` is delivered on all ways to a first start.
- `createActor`, `getOrCreateWithKey`: the engine starts the actor, with
  the key that was in the request, in a runner that has no handler for it.
- `createActorFs`, `loadOrCreateActorFs`: it is created in a store that
  has none, then there are operations on others. -/
structure CreationInputsAgree (codec : PersistCodec)
    (engine : Option String → Option Bytes) (v : Value) : Prop where
  createActor : ∀ (s : EngineActorDriver) (registryConfig : RegistryConfig)
    (actorId name : String) (key : List JsString),
    s.actors actorId = none → registryConfig.lookup name = true →
    ∃ s' inst, runnerOnActorStart codec registryConfig s actorId name
        (serializeActorKey key) (engine (createActorInput codec v)) = some s'
      ∧ s'.instances = s.instances ++ [inst]
      ∧ DeliversInput codec v inst.persistDataBuffer
  getOrCreateWithKey : ∀ (s : EngineActorDriver)
    (registryConfig : RegistryConfig) (actorId name : String)
    (key : List JsString) (actorKey : List String),
    s.actors actorId = none → registryConfig.lookup name = true →
    ∃ s' inst, runnerOnActorStart codec registryConfig s actorId name
        (serializeActorKey key) (engine (getOrCreateActorInput codec
          (getOrCreateWithKeyInput name actorKey v))) = some s'
      ∧ s'.instances = s.instances ++ [inst]
      ∧ DeliversInput codec v inst.persistDataBuffer
  createActorFs : ∀ (s : DriverStore) (actorId : ActorId) (name : String)
    (key : List String) (now : Nat) (ok : Bool) (others : List DriverOp),
    s.actors actorId = none → (∀ op ∈ others, actorId ≠ op.actorId) →
    DeliversInput codec v
      ((((s.createActor (serializer codec) actorId ⟨name, key, v⟩ now
        ok).performAll (serializer codec) others).readPersistedData
          actorId).2)
  loadOrCreateActorFs : ∀ (s : DriverStore) (actorId : ActorId)
    (name : String) (key : List String) (now : Nat) (ok : Bool)
    (others : List DriverOp),
    (s.loadActor actorId).2.state = none →
    (∀ op ∈ others, actorId ≠ op.actorId) →
    DeliversInput codec v
      ((((s.loadOrCreateActor (serializer codec) actorId ⟨name, key, v⟩ now
        ok).performAll (serializer codec) others).readPersistedData
          actorId).2)

-- ======================================================== the empty record

/-- A record with an input alone is read back. -/
theorem readData_serializeEmptyPersistData
    (hcodec : codec.RoundTrips serializable)
    (hundefined : serializable .undefined) {v : Value}
    (hv : serializable v) :
    readData codec (serializeEmptyPersistData (serializer codec) v)
      = some { input := v } := by
  have hfits : (emptyPersistData codec.cborEncode v).Fits :=
    ⟨fun _ h => absurd h List.not_mem_nil,
      fun _ h => absurd h List.not_mem_nil⟩
  obtain ⟨bytes, hbytes⟩ :=
    Option.isSome_iff_exists.1 (hcodec.encodes _ hfits)
  obtain ⟨wire, hwire, hread⟩ :=
    Common.deserialize_serialize codec.persistedActorVersioned hbytes
  have hdata : serializeEmptyPersistData (serializer codec) v = wire := by
    show (codec.persistedActorVersioned.serializeWithEmbeddedVersion
      _).getD [] = wire
    rw [show (serializer codec).cborEncode = codec.cborEncode from rfl, hwire]
    rfl
  have hbare : codec.persistedActorVersioned.deserializeWithEmbeddedVersion
      wire = some (emptyPersistData codec.cborEncode v) :=
    hread.trans (hcodec.decodes _ _ hbytes)
  unfold readData
  rw [hdata, hbare]
  show convertFromBarePersisted codec _ = _
  unfold convertFromBarePersisted emptyPersistData
  dsimp only
  rw [decodeDefined_encodeDefined hcodec hv, hcodec.cbor _ hundefined]
  rfl

/-- So a start on it delivers the input. -/
theorem deliversInput_empty (hcodec : codec.RoundTrips serializable)
    (hundefined : serializable .undefined) {v : Value}
    (hv : serializable v) :
    DeliversInput codec v
      (some (serializeEmptyPersistData (serializer codec) v)) := by
  intro config writes
  unfold initializeInstance
  rw [Option.bind_some,
    readData_serializeEmptyPersistData hcodec hundefined hv]
  rfl

/-- Only one input is delivered: a definition that makes its state sees
it. -/
theorem DeliversInput.unique {v w : Value} {buffer : Option Bytes}
    (hv : DeliversInput codec v buffer)
    (hw : DeliversInput codec w buffer) : v = w := by
  -- a hook that throws is the last one called
  have h := (hv { createState := some fun _ => none } fun _ => true).symm.trans
    (hw { createState := some fun _ => none } fun _ => true)
  have hhooks : [CreationHook.createState v] = [.createState w] := h
  injection hhooks with hhook
  injection hhook

-- ============================================================== the engine

/-- A runner without a handler for the actor seeds one. -/
theorem onActorStart_new (ser : Serializer) {s : EngineActorDriver}
    {registryConfig : RegistryConfig} {actorId name : String}
    (key : List JsString) (hnew : s.actors actorId = none)
    (hname : registryConfig.lookup name = true) (input : Value) :
    ∃ inst, (s.onActorStart ser registryConfig actorId
        { name := name
          key := some (serializeActorKey key)
          input := input }).instances
          = s.instances ++ [inst]
      ∧ inst.persistDataBuffer
          = some (serializeEmptyPersistData ser input) := by
  have hkey : (some (serializeActorKey key)).any (· ≠ []) = true :=
    decide_eq_true (serializeActorKey_ne_nil key)
  unfold EngineActorDriver.onActorStart EngineActorDriver.upsertHandler
  rw [hnew]
  dsimp only
  rw [hname, hkey, Bool.and_true, if_pos rfl]
  unfold EngineActorDriver.readPersistedData
  dsimp only
  rw [Function.update_self, Option.bind_eq_bind, Option.bind_some,
    Option.bind_eq_bind, List.getElem?_concat_length, Option.bind_some]
  exact ⟨_, rfl, rfl⟩

/-- The start of an actor whose request had no input, or one that
deserializes. -/
theorem runnerOnActorStart_new (hcodec : codec.RoundTrips serializable)
    (hundefined : serializable .undefined) {s : EngineActorDriver}
    {registryConfig : RegistryConfig} {actorId name : String}
    (key : List JsString) (hnew : s.actors actorId = none)
    (hname : registryConfig.lookup name = true) {input : Option Bytes}
    {v : Value} (hv : serializable v)
    (hinput : deserializeInput codec input = some v) :
    ∃ s' inst, runnerOnActorStart codec registryConfig s actorId name
        (serializeActorKey key) input = some s'
      ∧ s'.instances = s.instances ++ [inst]
      ∧ DeliversInput codec v inst.persistDataBuffer := by
  obtain ⟨inst, hinst, hbuffer⟩ :=
    onActorStart_new (serializer codec) key hnew hname v
  refine ⟨_, inst, by
    unfold runnerOnActorStart
    rw [hinput, Option.map_some], hinst, ?_⟩
  rw [hbuffer]
  exact deliversInput_empty hcodec hundefined hv

variable {engine : Option String → Option Bytes}

/-- An input that is in the request comes back. -/
theorem deserializeInput_encodeInput (hengine : DecodesInput engine)
    (hcodec : codec.RoundTrips serializable) {v : Value}
    (hv : serializable v) :
    deserializeInput codec (engine (some (encodeInput codec v)))
      = some v := by
  unfold encodeInput
  rw [hengine.base64]
  exact hcodec.cbor v hv

/-- An input that `createActor` leaves out is delivered as
`undefined`. -/
theorem createActorInput_falsy (hengine : DecodesInput engine) {v : Value}
    (hv : v.truthy = false) :
    deserializeInput codec (engine (createActorInput codec v))
      = some .undefined := by
  unfold createActorInput
  rw [hv, if_neg (by simp), hengine.absent]
  rfl

/-- The whole argument of `getOrCreateWithKey` is an object. -/
theorem getOrCreateActorInput_eq (name : String) (key : List String)
    (v : Value) :
    getOrCreateActorInput codec (getOrCreateWithKeyInput name key v)
      = some (encodeInput codec v) := by
  have hmember : (getOrCreateWithKeyInput name key v).member "input" = v := by
    unfold getOrCreateWithKeyInput Value.member
    simp
  unfold getOrCreateActorInput
  rw [hmember]
  rfl

-- ========================================================= the file system

/-- Operations on others leave what a read of the actor gives. -/
theorem readPersistedData_performAll (ser : Serializer) (actorId : ActorId)
    (others : List DriverOp) : ∀ (s : DriverStore),
      (∀ op ∈ others, actorId ≠ op.actorId) →
      ((s.performAll ser others).readPersistedData actorId).2
        = s.cached actorId := by
  induction others with
  | nil =>
      intro s _
      exact s.readPersistedData_cached actorId
  | cons op others ih =>
      intro s h
      obtain ⟨hop, hothers⟩ := List.forall_mem_cons.1 h
      obtain ⟨hpersist, hactors, hfiles⟩ :=
        @DriverStore.agreeOn_perform_other ser s actorId op hop
      refine (ih (s.perform ser op) hothers).trans ?_
      unfold DriverStore.cached DriverStore.upsertEntry
      rw [hpersist, hactors, hfiles]

/-- An actor just created is read as it was written. -/
theorem cached_create (ser : Serializer) (s : DriverStore)
    (actorId : ActorId) (params : CreateParams) (now : Nat) (ok : Bool) :
    (s.create ser actorId params now ok).cached actorId
      = some (serializeEmptyPersistData ser params.input) := by
  rw [DriverStore.create_cached, if_pos rfl]
  rfl

-- ================================================================ the ways

/-- A falsy input that is not `undefined` is lost on the first way. -/
theorem not_agree_of_falsy (hcodec : codec.RoundTrips serializable)
    (hundefined : serializable .undefined) (hengine : DecodesInput engine)
    {v : Value} (hdefined : v ≠ .undefined) (hfalsy : v.truthy = false) :
    ¬ CreationInputsAgree codec engine v := by
  intro h
  obtain ⟨s, inst, hstart, hinst, hdelivers⟩ :=
    h.createActor {} ⟨[""]⟩ "" "" [] rfl rfl
  obtain ⟨s', inst', hstart', hinst', hdelivers'⟩ :=
    @runnerOnActorStart_new codec serializable hcodec hundefined {} ⟨[""]⟩
      "" "" [] rfl rfl _ _ hundefined
      (createActorInput_falsy hengine hfalsy)
  -- it is one start, so one instance
  rw [hstart] at hstart'
  injection hstart' with hs
  rw [← hs, hinst] at hinst'
  have heq : inst = inst' := by
    injection hinst'
  rw [← heq] at hdelivers'
  exact hdefined (DeliversInput.unique hdelivers hdelivers')

/-- All four ways deliver the input if and only if it is absent or
truthy. -/
theorem creation_inputs_agree_iff (hcodec : codec.RoundTrips serializable)
    (hundefined : serializable .undefined) (hengine : DecodesInput engine)
    {v : Value} (hv : serializable v) :
    CreationInputsAgree codec engine v
      ↔ v = .undefined ∨ v.truthy = true := by
  constructor
  · intro h
    by_contra hnot
    rw [not_or, Bool.not_eq_true] at hnot
    exact not_agree_of_falsy hcodec hundefined hengine hnot.1 hnot.2 h
  · intro h
    refine ⟨?_, ?_, ?_, ?_⟩
    · intro s registryConfig actorId name key hnew hname
      refine runnerOnActorStart_new hcodec hundefined _ hnew hname hv ?_
      rcases h with hundef | htruthy
      · rw [hundef]
        exact createActorInput_falsy hengine rfl
      · unfold createActorInput
        rw [htruthy, if_pos rfl]
        exact deserializeInput_encodeInput hengine hcodec hv
    · intro s registryConfig actorId name key actorKey hnew hname
      refine runnerOnActorStart_new hcodec hundefined _ hnew hname hv ?_
      rw [getOrCreateActorInput_eq]
      exact deserializeInput_encodeInput hengine hcodec hv
    · intro s actorId name key now ok others hnew hothers
      rw [readPersistedData_performAll _ _ _ _ hothers]
      unfold DriverStore.createActor
      rw [hnew, Option.isSome_none, if_neg (by simp), cached_create]
      exact deliversInput_empty hcodec hundefined hv
    · intro s actorId name key now ok others hnew hothers
      rw [readPersistedData_performAll _ _ _ _ hothers]
      unfold DriverStore.loadOrCreateActor
      dsimp only
      rw [hnew, Option.isSome_none, if_neg (by simp), cached_create]
      exact deliversInput_empty hcodec hundefined hv

/-- An engine that hands the bytes to the runner. -/
def base64Engine (input : Option String) : Option Bytes :=
  input.bind fun s => Base64.decode s.toList

theorem decodesInput_base64Engine : DecodesInput base64Engine where
  absent := rfl
  base64 := by
    intro bytes
    unfold base64Engine
    rw [Option.bind_some, String.toList_ofList, Base64.decode_encode]

/-- The input `true`. -/
theorem true_delivered :
    CreationInputsAgree schemaCodec base64Engine (.bool true) :=
  (creation_inputs_agree_iff schemaCodec_roundTrips (Or.inl rfl)
    decodesInput_base64Engine
    (Or.inr (Or.inr (Or.inl ⟨true, rfl⟩)))).2 (Or.inr rfl)

/-- The input `false` is not delivered. -/
theorem false_input_lost :
    ¬ ∀ v, IsSimple v → CreationInputsAgree schemaCodec base64Engine v := by
  intro h
  have hsimple : IsSimple (.bool false) := Or.inr (Or.inr (Or.inl ⟨false, rfl⟩))
  exact not_agree_of_falsy schemaCodec_roundTrips (Or.inl rfl)
    decodesInput_base64Engine (by simp) rfl (h _ hsimple)

end RivetKit.Drivers
