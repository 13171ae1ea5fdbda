/-
The start of an `ActorInstance` on what its driver has of it
(actor/instance.ts, `#initialize`), as the calls of the definition's
creation hooks.

An actor whose record was never initiated is created: its state is made,
the record is written, and the definition is told. Both hooks are given
the record's `input`.
-/
import RivetKit.Actor.PersistedVersioned

namespace RivetKit.Actor

open Js

/-- What a definition says of an actor's creation. `createState` gives
what the hook returns, `none` where it throws. -/
structure CreationConfig where
  createState : Option (Value → Option Value) := none
  state : Option Value := none
  onCreate : Bool := false

/-- `stateEnabled`. -/
def CreationConfig.stateEnabled (config : CreationConfig) : Bool :=
  config.createState.isSome || config.state.isSome

/-- A call of a creation hook. -/
inductive CreationHook
  | createState (input : Value)
  | onCreate (input : Value)

/-- The state of a new actor, with the hooks called for it; `none` where
that throws. -/
def CreationConfig.initialState (config : CreationConfig) (input : Value) :
    List CreationHook × Option Value :=
  if config.stateEnabled then
    match config.createState, config.state with
    | some createState, _ => ([.createState input], createState input)
    | none, some state => ([], some state)
    | none, none => ([], none)
  else ([], some .undefined)

/-- `#initialize` of an actor that was never initiated. `writes` is
whether the driver can write the bytes. -/
def createInstance (codec : PersistCodec) (config : CreationConfig)
    (writes : Bytes → Bool) (persistData : PersistedActor) :
    List CreationHook :=
  let (hooks, stateData) := config.initialState persistData.input
  match stateData with
  | none => hooks
  | some stateData =>
      -- Save state and mark as initialized
      let persistData : PersistedActor :=
        { persistData with state := stateData, hasInitiated := true }
      if (writtenData codec persistData).any writes then
        -- Notify creation
        if config.onCreate then hooks ++ [.onCreate persistData.input]
        else hooks
      else hooks

/-- `#initialize`, by what `readPersistedData` returned. It throws where
there is no data or none that can be read. -/
def initializeInstance (codec : PersistCodec) (config : CreationConfig)
    (writes : Bytes → Bool) (persistDataBuffer : Option Bytes) :
    List CreationHook :=
  match persistDataBuffer.bind (readData codec) with
  | some persistData =>
      if persistData.hasInitiated then []
      else createInstance codec config writes persistData
  | none => []

/-- A start on this data calls the hooks as the creation of an actor with
the input `v` does. -/
def DeliversInput (codec : PersistCodec) (v : Value)
    (persistDataBuffer : Option Bytes) : Prop :=
  ∀ (config : CreationConfig) (writes : Bytes → Bool),
    initializeInstance codec config writes persistDataBuffer
      = createInstance codec config writes { input := v }

end RivetKit.Actor
