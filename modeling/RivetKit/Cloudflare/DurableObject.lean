/-
The Durable Object of an actor on Cloudflare (actor-handler-do.ts) and
the `loadActor` of its actor drivers (actor-driver.ts).

# Drivers and instances

An actor driver keeps its instances in a map of its own, and only under
the object's own id here. `#loadActor` builds a driver once and keeps it
in `#actor`; `alarm` builds another one for itself. Drivers and
instances are named by the order in which they are made.

# State changes

What an instance holds in memory is the list of changes made to it: each
request or alarm served makes one. The record in storage is the empty
one that `initialize` put, or one an actor wrote with the changes it
held. What each handler saw, and what each `initialize` found in
storage, is bookkeeping.

# Steps

An invocation runs to its first `await`, and one more stretch each time
what it awaits has settled (`resume`). Storage takes effect when it is
called. `ok` says whether what was awaited, or the code that ran up to
it, succeeded.
-/
import RivetKit.Actor.Definition
import RivetKit.Lib.Js
import RivetKit.Lib.System

namespace RivetKit.Cloudflare

open Transition
open Actor
open Js

-- =============================================================== the data

/-- `ActorInitRequest`. -/
structure ActorInitRequest where
  name : String
  key : List String
  input : Value

/-- `InitializedData`. -/
structure InitializedData where
  name : String
  key : List String
  deriving DecidableEq

/-- The value under `KEYS.PERSIST_DATA`: `serializeEmptyPersistData` of an
input, or a record written by an actor that held these changes. -/
inductive PersistData
  | empty (input : Value)
  | written (changes : List Nat)

/-- The object's storage. -/
structure Storage where
  name : Option String := none
  key : Option (List String) := none
  data : Option PersistData := none

/-- `ActorHandler` of an actor driver. A resolved `actorPromise` stands
for the cleared field too. -/
structure ActorHandler where
  actor : Option Nat := none
  actorPromise : PromiseState := .pending
  deriving DecidableEq

/-- An `ActorInstance`: the driver that made it and the changes made to
it. -/
structure Instance where
  driver : Nat
  changes : List Nat := []
  deriving DecidableEq

/-- Where a call of `CloudflareActorsActorDriver.loadActor` is: awaiting
the promise of a handler it found, the metadata, or one of the stages of
`ActorInstance.start` for the instance it made. -/
inductive DriverPc
  | awaitHandler
  | awaitMetadata
  | awaitRead (actor : Nat)
  | awaitState (actor : Nat)
  | awaitWrite (actor : Nat)
  | awaitHooks (actor : Nat)
  deriving DecidableEq

/-- How a stretch of `CloudflareActorsActorDriver.loadActor` ends. -/
inductive DriverResult
  | awaits (pc : DriverPc)
  | returns (actor : Nat)
  | throws

/-- An invocation of the object. -/
inductive Invocation
  | initializeRpc (req : ActorInitRequest)
  | fetch
  | alarm

/-- Where an invocation is. `getStorage` awaits what was in storage when
`#loadActor` read it; `loading` and `loaded` are inside and behind
`#loadActor`, with the driver of `#actor`; `serving` awaits the
`loadActor` of the driver it is served by. -/
inductive TaskPc
  | putStorage
  | awaitInitialized
  | getStorage (res : Storage)
  | loading (driver : Nat) (pc : DriverPc)
  | loaded (driver : Nat)
  | serving (driver : Nat) (pc : DriverPc)
  | done
  | threw

/-- An invocation in progress. -/
structure Task where
  invocation : Invocation
  pc : TaskPc

/-- A request or alarm served: by which instance, and the changes it saw
there. -/
structure Served where
  task : Nat
  actor : Nat
  seen : List Nat
  deriving DecidableEq

/-- A call of `initialize`, and the record it found. -/
structure InitCall where
  req : ActorInitRequest
  found : Option PersistData

/-- The object. -/
structure DurableObject where
  storage : Storage := {}
  initialized : Option InitializedData := none
  initializedPromise : Option PromiseState := none
  actor : Option Nat := none
  drivers : List (Option ActorHandler) := []
  instances : List Instance := []
  tasks : List Task := []
  served : List Served := []
  inits : List InitCall := []

namespace DurableObject

-- ====================================================== the actor driver

/-- `loadActor` of the driver `d` up to its first `await`. -/
def driverLoadActor (s : DurableObject) (d : Nat) :
    DurableObject × DriverPc :=
  match s.drivers[d]? with
  | some (some _) => (s, .awaitHandler)
  | _ => ({ s with drivers := s.drivers.set d (some {}) }, .awaitMetadata)

/-- `loadActor` of the driver `d` resumes. A call that throws leaves its
handler as it is. -/
def driverResume (config : RegistryConfig) (s : DurableObject) (d : Nat)
    (pc : DriverPc) (ok : Bool) : Option (DurableObject × DriverResult) :=
  match pc with
  | .awaitHandler =>
      match s.drivers[d]? with
      | some (some ⟨some actor, .resolved⟩) => some (s, .returns actor)
      | some (some ⟨none, .resolved⟩) => some (s, .throws)
      | _ => none
  | .awaitMetadata =>
      match s.storage.name, s.storage.key with
      | some name, some _ =>
          if name ≠ "" && config.lookup name && ok then
            let actor := s.instances.length
            some ({ s with
              drivers := s.drivers.set d (some { actor := some actor })
              instances := s.instances ++ [{ driver := d }] },
              .awaits (.awaitRead actor))
          else some (s, .throws)
      | _, _ => some (s, .throws)
  | .awaitRead actor =>
      if ok then
        match s.storage.data with
        | none => some (s, .throws)
        | some (.empty _) => some (s, .awaits (.awaitState actor))
        | some (.written changes) =>
            some ({ s with
              instances := s.instances.modify actor fun x =>
                { x with changes := changes } },
              .awaits (.awaitHooks actor))
      else some (s, .throws)
  | .awaitState actor =>
      if ok then
        some ({ s with
          storage := { s.storage with data := some (.written []) } },
          .awaits (.awaitWrite actor))
      else some (s, .throws)
  | .awaitWrite actor =>
      if ok then some (s, .awaits (.awaitHooks actor)) else some (s, .throws)
  | .awaitHooks actor =>
      if ok then
        some ({ s with
          drivers := s.drivers.set d (some ⟨some actor, .resolved⟩) },
          .returns actor)
      else some (s, .throws)

-- ============================================================ #loadActor

/-- Move an invocation on. -/
def setPc (s : DurableObject) (t : Nat) (pc : TaskPc) : DurableObject :=
  { s with tasks := s.tasks.modify t fun task => { task with pc := pc } }

/-- `#loadActor` after its wait for the initialisation: the actor is
loaded by whoever comes first, and `#actor` is set before it is. -/
def afterInitialized (s : DurableObject) (t : Nat) : DurableObject :=
  match s.actor with
  | some d => s.setPc t (.loaded d)
  | none =>
      if s.initialized.isNone then s.setPc t .threw
      else
        let d := s.drivers.length
        let s : DurableObject :=
          { s with drivers := s.drivers ++ [none], actor := some d }
        let (s, pc) := s.driverLoadActor d
        s.setPc t (.loading d pc)

/-- `#loadActor` up to its first `await`. -/
def loadActor (s : DurableObject) (t : Nat) : DurableObject :=
  if s.initialized.isNone then
    match s.initializedPromise with
    | some _ => s.setPc t .awaitInitialized
    | none =>
        { s with initializedPromise := some .pending }.setPc t
          (.getStorage s.storage)
  else s.afterInitialized t

-- ======================================================== the invocations

/-- `initialize` up to its first `await`. -/
def initializeRpc (s : DurableObject) (req : ActorInitRequest) :
    DurableObject :=
  { s with
    storage :=
      { name := some req.name
        key := some req.key
        data := some (.empty req.input) }
    tasks := s.tasks ++ [⟨.initializeRpc req, .putStorage⟩]
    inits := s.inits ++ [⟨req, s.storage.data⟩] }

/-- `fetch` or `alarm` up to its first `await`. -/
def invoke (s : DurableObject) (invocation : Invocation) : DurableObject :=
  let t := s.tasks.length
  let s : DurableObject :=
    { s with tasks := s.tasks ++ [⟨invocation, .getStorage s.storage⟩] }
  s.loadActor t

/-- The invocation is served by the instance `i`. -/
def serve (s : DurableObject) (t i : Nat) : DurableObject :=
  let entry : Served :=
    { task := t
      actor := i
      seen := (s.instances[i]?.map (·.changes)).getD [] }
  { s with
    instances := s.instances.modify i fun x =>
      { x with changes := x.changes ++ [t] }
    served := s.served ++ [entry] }.setPc t .done

/-- The storage read of `#loadActor` is back. -/
def afterGetStorage (s : DurableObject) (t : Nat) (res : Storage) :
    DurableObject :=
  match res.data with
  | some _ =>
      match res.name, res.key with
      | some name, some key =>
          if name ≠ "" then
            { s with
              initialized := some ⟨name, key⟩
              initializedPromise := some .resolved }.afterInitialized t
          else s.setPc t .threw
      | _, _ => s.setPc t .threw
  | none => s.afterInitialized t

/-- An invocation behind its `#loadActor`: `initialize` is done, `fetch`
goes to the router of that driver, `alarm` builds a driver and loads the
actor there. -/
def afterLoaded (s : DurableObject) (t d : Nat) (invocation : Invocation) :
    DurableObject :=
  match invocation with
  | .initializeRpc _ => s.setPc t .done
  | .fetch =>
      let (s, pc) := s.driverLoadActor d
      s.setPc t (.serving d pc)
  | .alarm =>
      let d := s.drivers.length
      let s : DurableObject := { s with drivers := s.drivers ++ [none] }
      let (s, pc) := s.driverLoadActor d
      s.setPc t (.serving d pc)

/-- An invocation resumes. -/
def resume (config : RegistryConfig) (s : DurableObject) (t : Nat)
    (ok : Bool) : Option DurableObject :=
  match s.tasks[t]? with
  | some ⟨.initializeRpc req, .putStorage⟩ =>
      if ok then
        some ({ s with initialized := some ⟨req.name, req.key⟩ }.loadActor t)
      else some (s.setPc t .threw)
  | some ⟨_, .awaitInitialized⟩ =>
      if s.initializedPromise = some .resolved then
        some (s.afterInitialized t)
      else none
  | some ⟨_, .getStorage res⟩ =>
      if ok then some (s.afterGetStorage t res)
      else some (s.setPc t .threw)
  | some ⟨_, .loading d pc⟩ =>
      match s.driverResume config d pc ok with
      | some (s, .awaits pc) => some (s.setPc t (.loading d pc))
      | some (s, .returns _) => some (s.setPc t (.loaded d))
      | some (s, .throws) => some (s.setPc t .threw)
      | none => none
  | some ⟨invocation, .loaded d⟩ => some (s.afterLoaded t d invocation)
  | some ⟨_, .serving d pc⟩ =>
      match s.driverResume config d pc ok with
      | some (s, .awaits pc) => some (s.setPc t (.serving d pc))
      | some (s, .returns i) => some (s.serve t i)
      | some (s, .throws) => some (s.setPc t .threw)
      | none => none
  | _ => none

/-- Where `#loadActor` goes on after a stretch of its driver. -/
def afterLoading (d : Nat) : DriverResult → TaskPc
  | .awaits pc => .loading d pc
  | .returns _ => .loaded d
  | .throws => .threw

/-- What a stretch of the task `t` can be. -/
inductive ResumeCase (config : RegistryConfig) (s : DurableObject) (t : Nat)
    (ok : Bool) (s' : DurableObject) : Prop
  | initialized (req : ActorInitRequest) :
      s.tasks[t]? = some ⟨.initializeRpc req, .putStorage⟩ → ok = true →
      s' = { s with initialized := some ⟨req.name, req.key⟩ }.loadActor t →
      ResumeCase config s t ok s'
  | afterInitialized (invocation : Invocation) :
      s.tasks[t]? = some ⟨invocation, .awaitInitialized⟩ →
      s.initializedPromise = some .resolved →
      s' = s.afterInitialized t → ResumeCase config s t ok s'
  | afterGetStorage (invocation : Invocation) (res : Storage) :
      s.tasks[t]? = some ⟨invocation, .getStorage res⟩ →
      s' = s.afterGetStorage t res → ResumeCase config s t ok s'
  | threw (invocation : Invocation) (pc : TaskPc) :
      s.tasks[t]? = some ⟨invocation, pc⟩ →
      (pc = .putStorage ∨ ∃ res, pc = .getStorage res) →
      s' = s.setPc t .threw → ResumeCase config s t ok s'
  | loading (invocation : Invocation) (d : Nat) (pc : DriverPc)
      (s₁ : DurableObject) (result : DriverResult) :
      s.tasks[t]? = some ⟨invocation, .loading d pc⟩ →
      s.driverResume config d pc ok = some (s₁, result) →
      s' = s₁.setPc t (afterLoading d result) → ResumeCase config s t ok s'
  | loaded (invocation : Invocation) (d : Nat) :
      s.tasks[t]? = some ⟨invocation, .loaded d⟩ →
      s' = s.afterLoaded t d invocation → ResumeCase config s t ok s'
  | serving (invocation : Invocation) (d : Nat) (pc pc' : DriverPc)
      (s₁ : DurableObject) :
      s.tasks[t]? = some ⟨invocation, .serving d pc⟩ →
      s.driverResume config d pc ok = some (s₁, .awaits pc') →
      s' = s₁.setPc t (.serving d pc') → ResumeCase config s t ok s'
  | served (invocation : Invocation) (d : Nat) (pc : DriverPc)
      (s₁ : DurableObject) (i : Nat) :
      s.tasks[t]? = some ⟨invocation, .serving d pc⟩ →
      s.driverResume config d pc ok = some (s₁, .returns i) →
      s' = s₁.serve t i → ResumeCase config s t ok s'
  | servingThrew (invocation : Invocation) (d : Nat) (pc : DriverPc)
      (s₁ : DurableObject) :
      s.tasks[t]? = some ⟨invocation, .serving d pc⟩ →
      s.driverResume config d pc ok = some (s₁, .throws) →
      s' = s₁.setPc t .threw → ResumeCase config s t ok s'

theorem resume_cases {config : RegistryConfig} {s s' : DurableObject}
    {t : Nat} {ok : Bool} (h : s.resume config t ok = some s') :
    ResumeCase config s t ok s' := by
  unfold resume at h
  split at h
  case h_1 req htask =>
    split at h
    · rename_i hok
      injection h with h
      exact .initialized req htask hok h.symm
    · injection h with h
      exact .threw _ _ htask (.inl rfl) h.symm
  case h_2 invocation htask =>
    split at h
    · rename_i hresolved
      injection h with h
      exact .afterInitialized invocation htask hresolved h.symm
    · cases h
  case h_3 invocation res htask =>
    split at h
    · injection h with h
      exact .afterGetStorage invocation res htask h.symm
    · injection h with h
      exact .threw _ _ htask (.inr ⟨res, rfl⟩) h.symm
  case h_4 invocation d pc htask =>
    split at h
    case h_1 s₁ pc' hres =>
      injection h with h
      exact .loading invocation d pc s₁ _ htask hres h.symm
    case h_2 s₁ i hres =>
      injection h with h
      exact .loading invocation d pc s₁ _ htask hres h.symm
    case h_3 s₁ hres =>
      injection h with h
      exact .loading invocation d pc s₁ _ htask hres h.symm
    case h_4 => cases h
  case h_5 invocation d htask =>
    injection h with h
    exact .loaded invocation d htask h.symm
  case h_6 invocation d pc htask =>
    split at h
    case h_1 s₁ pc' hres =>
      injection h with h
      exact .serving invocation d pc pc' s₁ htask hres h.symm
    case h_2 s₁ i hres =>
      injection h with h
      exact .served invocation d pc s₁ i htask hres h.symm
    case h_3 s₁ hres =>
      injection h with h
      exact .servingThrew invocation d pc s₁ htask hres h.symm
    case h_4 => cases h
  case h_7 => cases h

/-- The instance `i` writes its record. -/
def writePersistedData (s : DurableObject) (i : Nat) :
    Option DurableObject :=
  match s.instances[i]? with
  | some x =>
      some { s with
        storage := { s.storage with data := some (.written x.changes) } }
  | none => none

end DurableObject

-- ============================================================ the machine

/-- The steps of the object. -/
inductive ObjectStep
  | initializeRpc (req : ActorInitRequest)
  | fetch
  | alarm
  | resume (t : Nat) (ok : Bool)
  | writePersistedData (i : Nat)

/-- One step. -/
def objectStep (config : RegistryConfig) (s : DurableObject) :
    ObjectStep → Option DurableObject
  | .initializeRpc req => some (s.initializeRpc req)
  | .fetch => some (s.invoke .fetch)
  | .alarm => some (s.invoke .alarm)
  | .resume t ok => s.resume config t ok
  | .writePersistedData i => s.writePersistedData i

/-- The runs of one object, over any storage. -/
def objectSystem (config : RegistryConfig) :
    System DurableObject ObjectStep where
  init s := ∃ storage, s = { storage := storage }
  step := objectStep config

end RivetKit.Cloudflare
