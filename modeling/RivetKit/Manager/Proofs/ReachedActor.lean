/-
Where the states of the driver and the actors of requests come from, over
a run of the manager's endpoints.

# The invariant

`Tracked`: every state that the driver has for an id, and every actor that
a request has reached, goes back to a name and a key that a state was
created with (`Rooted`), and two of these with one id have one name. For a
request that name is the one whose `onAuth` ran.

# Its condition

An id is the hash of a JSON text, and a definition is found by a property
key. So an operation must not come with a name that is written like the
name of a state there is and is another property key (`KeepsApart`).
-/
import RivetKit.Manager.Proofs.QueryOrder

namespace RivetKit.Manager

open Js
open Actor
open Transition
open Drivers.FileSystem

variable (registry : Registry)

-- ================================================================ ids

section Ids

variable {text : NumberText} {hash : String → String}

/-- One id, one JSON text. -/
theorem generateActorId_inj (hhash : Function.Injective hash)
    {n₁ k₁ n₂ k₂ : Value} {id : String}
    (h₁ : generateActorId text hash n₁ k₁ = .ok id)
    (h₂ : generateActorId text hash n₂ k₂ = .ok id) :
    stringify text (fun _ => none) (.arr [n₁, k₁])
      = stringify text (fun _ => none) (.arr [n₂, k₂]) := by
  unfold generateActorId at h₁ h₂
  split at h₁
  · rename_i s₁ hs₁
    split at h₂
    · rename_i s₂ hs₂
      injection h₁ with h₁
      injection h₂ with h₂
      rw [hs₁, hs₂, hhash (h₁.trans h₂.symm)]
    · exact absurd h₂ (by simp)
  · exact absurd h₁ (by simp)

/-- An id is its own path. -/
theorem path_of_generateActorId {getActorStatePath : String → String}
    (hpath : ∀ s, getActorStatePath (hash s) = hash s)
    {name key : Value} {id : String}
    (h : generateActorId text hash name key = .ok id) :
    getActorStatePath id = id := by
  unfold generateActorId at h
  split at h
  · injection h with h
    rw [← h]
    exact hpath _
  · exact absurd h (by simp)

end Ids

-- ============================================================ the run

variable (hash getActorStatePath : String → String)

/-- A state that a call may find for an id, now or after a load. -/
inductive Known (d : Directory) (actorId : String) :
    StoredActor → Prop
  | entry {state : StoredActor} :
      d.entries actorId = some (some state) → Known d actorId state
  | held {state : StoredActor} :
      state ∈ d.held actorId → Known d actorId state
  | file {state : StoredActor} :
      d.files (getActorStatePath actorId) = some state →
        Known d actorId state

/-- Every request: if it has reached an actor, that actor belongs to the
definition whose `onAuth` ran; and if it has executed an operation that
may create one, the intents had `create`. -/
structure AllAuthorized (e : Endpoints) : Prop where
  reached : ∀ request ∈ e.requests, ∀ actorId,
    request.pc = .reached actorId → ∀ state,
      Known getActorStatePath e.directory actorId state →
        state.name.toText registry.text = request.definition
  create : ∀ request ∈ e.requests, ∀ call,
    request.call = some call → call.mayCreate = true →
      AuthIntent.create ∈ request.intents

/-- The names of these are apart as property keys only if their JSON texts
with the keys are. -/
def NamesApart (name key name' key' : Value) : Prop :=
  stringify registry.text (fun _ => none) (.arr [name, key])
      = stringify registry.text (fun _ => none) (.arr [name', key']) →
    name.toText registry.text = name'.toText registry.text

/-- A query by key is only executed with a name that `NamesApart` from
those of the states there are. -/
def KeepsApart (e : Endpoints) : EndpointStep → Prop
  | .queryActor r _ =>
      ∀ request call name key, e.requests[r]? = some request →
        queryCall request.query = .ok call →
          call.byKey = some (name, key) →
            ∀ c ∈ e.created, NamesApart registry name key c.1 c.2
  | _ => True

/-- A name and a key that states were created with, and their id. -/
def Rooted (created : List (Value × Value)) (path name : String) : Prop :=
  ∃ c ∈ created, generateActorId registry.text hash c.1 c.2 = .ok path
    ∧ c.1.toText registry.text = name

/-- A state goes back to what one was created with. -/
structure StateRooted (created : List (Value × Value)) (path : String)
    (state : StoredActor) : Prop where
  origin : ∃ c ∈ created,
    generateActorId registry.text hash c.1 c.2 = .ok path
      ∧ c.1.toText registry.text = state.name.toText registry.text
      ∧ ((writtenName registry.text state.name).isSome →
        (writtenName registry.text c.1).isSome)
  actorId : getActorStatePath state.actorId = path

/-- What a request past `onAuth` keeps. -/
structure RequestRooted (created : List (Value × Value))
    (request : QueryRequest) : Prop where
  byKey : ∀ {call name key}, queryCall request.query = .ok call →
    call.byKey = some (name, key) →
      request.definition = name.toText registry.text
  byId : ∀ {name actorId}, queryCall request.query
      = .ok (.getForId name actorId) →
    ∃ id, actorId = .str id
      ∧ Rooted registry hash created (getActorStatePath id)
          request.definition
  mayCreate : ∀ {call}, queryCall request.query = .ok call →
    call.mayCreate = true → AuthIntent.create ∈ request.intents
  called : ∀ {call}, request.call = some call →
    queryCall request.query = .ok call
  reached : ∀ {actorId},
    request.pc = .reached actorId ∨ request.pc = .writing actorId →
      Rooted registry hash created (getActorStatePath actorId)
        request.definition

/-- All states that the driver has go back to what states were created
with. -/
structure DirectoryRooted (created : List (Value × Value))
    (d : Directory) : Prop where
  entries : ∀ {id state}, d.entries id = some (some state) →
    StateRooted registry hash getActorStatePath created
      (getActorStatePath id) state
  held : ∀ {id state}, state ∈ d.held id →
    StateRooted registry hash getActorStatePath created
      (getActorStatePath id) state
  files : ∀ {path state}, d.files path = some state →
    d.persist = true
      ∧ (writtenName registry.text state.name).isSome
      ∧ StateRooted registry hash getActorStatePath created path state

/-- The invariant of a run. -/
structure Tracked (e : Endpoints) : Prop where
  directory : DirectoryRooted registry hash getActorStatePath e.created
    e.directory
  coherent : ∀ {path name name'},
    Rooted registry hash e.created path name →
      Rooted registry hash e.created path name' → name = name'
  requests : ∀ request ∈ e.requests,
    RequestRooted registry hash getActorStatePath e.created request

-- ======================================================== the directory

section Directory

variable {registry hash getActorStatePath}
variable {created created' : List (Value × Value)} {d : Directory}

theorem Rooted.mono (hsub : ∀ c ∈ created, c ∈ created')
    {path name : String} (h : Rooted registry hash created path name) :
    Rooted registry hash created' path name := by
  obtain ⟨c, hc, hid, hname⟩ := h
  exact ⟨c, hsub c hc, hid, hname⟩

theorem StateRooted.mono (hsub : ∀ c ∈ created, c ∈ created')
    {path : String} {state : StoredActor}
    (h : StateRooted registry hash getActorStatePath created path state) :
    StateRooted registry hash getActorStatePath created' path state := by
  obtain ⟨c, hc, horigin⟩ := h.origin
  exact ⟨⟨c, hsub c hc, horigin⟩, h.actorId⟩

theorem DirectoryRooted.mono (hsub : ∀ c ∈ created, c ∈ created')
    (h : DirectoryRooted registry hash getActorStatePath created d) :
    DirectoryRooted registry hash getActorStatePath created' d where
  entries hs := (h.entries hs).mono hsub
  held hs := (h.held hs).mono hsub
  files hs := by
    obtain ⟨hpersist, hwritten, hstate⟩ := h.files hs
    exact ⟨hpersist, hwritten, hstate.mono hsub⟩

theorem RequestRooted.mono (hsub : ∀ c ∈ created, c ∈ created')
    {request : QueryRequest}
    (h : RequestRooted registry hash getActorStatePath created request) :
    RequestRooted registry hash getActorStatePath created' request where
  byKey := h.byKey
  byId hcall := by
    obtain ⟨id, hid, hrooted⟩ := h.byId hcall
    exact ⟨id, hid, hrooted.mono hsub⟩
  mayCreate := h.mayCreate
  called := h.called
  reached hpc := (h.reached hpc).mono hsub

/-- The state of an entry that a call holds. -/
theorem DirectoryRooted.loaded
    (h : DirectoryRooted registry hash getActorStatePath created d)
    {found : Option Nat} {id : String} {state : StoredActor}
    (hs : d.loaded found id = some state) :
    StateRooted registry hash getActorStatePath created
      (getActorStatePath id) state := by
  cases found with
  | none =>
    apply h.entries
    exact Option.join_eq_some_iff.1 hs
  | some i =>
    apply h.held
    exact List.mem_of_getElem? hs

theorem DirectoryRooted.setState
    (h : DirectoryRooted registry hash getActorStatePath created d)
    (attached : Bool) {id : String} {state : StoredActor}
    (hstate : StateRooted registry hash getActorStatePath created
      (getActorStatePath id) state) :
    DirectoryRooted registry hash getActorStatePath created
      (d.setState attached id state) := by
  cases attached with
  | true =>
    refine ⟨?_, h.held, h.files⟩
    intro other s hs
    replace hs : Function.update d.entries id (some (some state)) other
      = some (some s) := hs
    by_cases hid : other = id
    · rw [hid, Function.update_self] at hs
      injection hs with hs
      injection hs with hs
      rw [hid, ← hs]
      exact hstate
    · rw [Function.update_of_ne hid] at hs
      exact h.entries hs
  | false =>
    refine ⟨h.entries, ?_, h.files⟩
    intro other s hs
    replace hs : s ∈ Function.update d.held id (d.held id ++ [state]) other
      := hs
    by_cases hid : other = id
    · rw [hid, Function.update_self] at hs
      rw [hid]
      rcases List.mem_append.1 hs with hs | hs
      · exact h.held hs
      · rw [List.mem_singleton.1 hs]
        exact hstate
    · rw [Function.update_of_ne hid] at hs
      exact h.held hs

theorem DirectoryRooted.writeActor
    (h : DirectoryRooted registry hash getActorStatePath created d)
    {id : String} {state : StoredActor}
    (hstate : StateRooted registry hash getActorStatePath created
      (getActorStatePath id) state) :
    DirectoryRooted registry hash getActorStatePath created
      (d.writeActor id state) := by
  unfold Directory.writeActor
  split
  · exact h.setState false hstate
  · exact h

theorem DirectoryRooted.upsertEntry
    (h : DirectoryRooted registry hash getActorStatePath created d)
    (id : String) :
    DirectoryRooted registry hash getActorStatePath created
      (d.upsertEntry id) := by
  unfold Directory.upsertEntry
  split
  · exact h
  · refine ⟨?_, h.held, h.files⟩
    intro other s hs
    replace hs : Function.update d.entries id (some none) other
      = some (some s) := hs
    by_cases hid : other = id
    · rw [hid, Function.update_self] at hs
      exact absurd hs (by simp)
    · rw [Function.update_of_ne hid] at hs
      exact h.entries hs

theorem DirectoryRooted.readFile
    (h : DirectoryRooted registry hash getActorStatePath created d)
    {attached : Bool} {id : String} {d' : Directory}
    (hread : d.readFile getActorStatePath attached id = some d') :
    DirectoryRooted registry hash getActorStatePath created d' := by
  unfold Directory.readFile at hread
  split at hread
  · rename_i state hstate
    split at hread
    · exact absurd hread (by simp)
    · injection hread with hread
      rw [← hread]
      exact h.setState attached (h.files hstate).2.2
  · exact absurd hread (by simp)

theorem DirectoryRooted.writePersistedData
    (h : DirectoryRooted registry hash getActorStatePath created d)
    {found : Option Nat} {id : String} {d' : Directory}
    (hwrite : d.writePersistedData found id = some d') :
    DirectoryRooted registry hash getActorStatePath created d' := by
  obtain ⟨state, hstate, hwrite⟩ := Option.map_eq_some_iff.1 hwrite
  rw [← hwrite]
  exact h.writeActor (h.loaded hstate)

/-- What is written goes back to the same. -/
theorem StateRooted.written {path : String} {state file : StoredActor}
    (h : StateRooted registry hash getActorStatePath created path state)
    (hfile : state.written registry.text = some file) :
    (writtenName registry.text file.name).isSome
      ∧ StateRooted registry hash getActorStatePath created path file := by
  obtain ⟨name, hname, hfile⟩ := Option.map_eq_some_iff.1 hfile
  have htext : name = state.name.toText registry.text := by
    unfold writtenName at hname
    split at hname
    · exact absurd hname (by simp)
    · exact absurd hname (by simp)
    · exact (Option.some.inj hname).symm
  obtain ⟨c, hc, hid, horigin, hwritten⟩ := h.origin
  rw [← hfile]
  refine ⟨rfl, ⟨c, hc, hid, ?_, ?_⟩, h.actorId⟩
  · rw [horigin, ← htext]
    rfl
  · intro _
    apply hwritten
    rw [hname]
    rfl

theorem DirectoryRooted.endWrite
    (h : DirectoryRooted registry hash getActorStatePath created d)
    {id : String} {i : Nat} {d' : Directory}
    (hwrite : d.endWrite registry.text getActorStatePath id i = some d') :
    DirectoryRooted registry hash getActorStatePath created d' := by
  unfold Directory.endWrite at hwrite
  split at hwrite
  · rename_i file hfile
    split at hwrite
    · rename_i hpersist
      injection hwrite with hwrite
      rw [← hwrite]
      obtain ⟨state, hstate, hfile⟩ := Option.bind_eq_some_iff.1 hfile
      have hroot := h.held (List.mem_of_getElem? hstate)
      refine ⟨h.entries, h.held, ?_⟩
      intro path s hs
      replace hs : Function.update d.files (getActorStatePath id)
        (some file) path = some s := hs
      by_cases hp : path = getActorStatePath id
      · rw [hp, Function.update_self] at hs
        injection hs with hs
        rw [hp, ← hs]
        exact ⟨hpersist, hroot.written hfile⟩
      · rw [Function.update_of_ne hp] at hs
        exact h.files hs
    · exact absurd hwrite (by simp)
  · exact absurd hwrite (by simp)

theorem DirectoryRooted.endSleep
    (h : DirectoryRooted registry hash getActorStatePath created d)
    {id : String} {d' : Directory} (hsleep : d.endSleep id = some d') :
    DirectoryRooted registry hash getActorStatePath created d' := by
  unfold Directory.endSleep at hsleep
  split at hsleep
  · rename_i state hstate
    split at hsleep
    · injection hsleep with hsleep
      rw [← hsleep]
      have hheld := h.setState false (h.entries hstate)
      refine ⟨?_, hheld.held, hheld.files⟩
      intro other s hs
      replace hs : Function.update d.entries id none other
        = some (some s) := hs
      by_cases hid : other = id
      · rw [hid, Function.update_self] at hs
        exact absurd hs (by simp)
      · rw [Function.update_of_ne hid] at hs
        exact h.entries hs
    · exact absurd hsleep (by simp)
  · exact absurd hsleep (by simp)

end Directory

-- ========================================================= the requests

section Requests

variable {registry hash getActorStatePath}

/-- A state has the name of what it goes back to. -/
theorem StateRooted.rooted {created : List (Value × Value)}
    {path : String} {state : StoredActor}
    (h : StateRooted registry hash getActorStatePath created path state) :
    Rooted registry hash created path
      (state.name.toText registry.text) := by
  obtain ⟨c, hc, hid, hname, -⟩ := h.origin
  exact ⟨c, hc, hid, hname⟩

/-- The name that a query by id is authenticated against goes back to what
a state was created with. -/
theorem rooted_of_actorName {e : Endpoints}
    (h : DirectoryRooted registry hash getActorStatePath e.created
      e.directory) {found : Option Nat} {name actorId read : Value}
    (hname : (DriverCall.getForId name actorId).actorName
      (e.registryAt registry hash found) = .ok read) :
    ∃ id, actorId = .str id
      ∧ Rooted registry hash e.created (getActorStatePath id)
          (read.toText registry.text) := by
  obtain ⟨output, houtput, hread⟩ := bind_ok hname
  replace houtput : e.directory.getForId registry.text found actorId
    = .ok output := houtput
  unfold Directory.getForId at houtput
  split at houtput
  · rename_i id
    cases hloaded : e.directory.loaded found id with
    | none =>
      rw [hloaded] at houtput
      injection houtput with houtput
      rw [← houtput] at hread
      exact absurd hread
        (by simp [throw, throwThe, MonadExceptOf.throw])
    | some state =>
      rw [hloaded] at houtput
      injection houtput with houtput
      rw [← houtput] at hread
      injection hread with hread
      rw [← hread]
      exact ⟨id, rfl, (h.loaded hloaded).rooted⟩
  · split at houtput
    · exact absurd houtput (by simp)
    · injection houtput with houtput
      rw [← houtput] at hread
      exact absurd hread
        (by simp [throw, throwThe, MonadExceptOf.throw])

/-- A request that `onAuth` has run for. -/
theorem requestRooted_of_hookRun {e : Endpoints}
    (h : DirectoryRooted registry hash getActorStatePath e.created
      e.directory) {found : Option Nat} {query : Value}
    {additionalIntents intents : List AuthIntent} {definition : String}
    (hrun : hookRun (e.registryAt registry hash found) query
      additionalIntents = .ok (definition, intents)) :
    RequestRooted registry hash getActorStatePath e.created
      { query, definition, intents } := by
  have hmatch : ∀ {call}, queryCall query = .ok call →
      ∃ name, call.actorName (e.registryAt registry hash found) = .ok name
        ∧ definition = name.toText registry.text
        ∧ intents = additionalIntents.foldl addIntent call.intents := by
    intro call hcall
    rw [hookRun_eq _ (comesFrom_of_queryCall hcall)] at hrun
    obtain ⟨name, hname, hrun⟩ := bind_ok hrun
    have hpair := Except.ok.inj hrun
    exact ⟨name, hname, (congrArg Prod.fst hpair).symm,
      (congrArg Prod.snd hpair).symm⟩
  refine ⟨?_, ?_, ?_, ?_, ?_⟩
  · intro call name key hcall hkey
    obtain ⟨read, hread, hdefinition, -⟩ := hmatch hcall
    rw [actorName_byKey _ hkey] at hread
    rw [hdefinition, Except.ok.inj hread]
  · intro name actorId hcall
    obtain ⟨read, hread, hdefinition, -⟩ := hmatch hcall
    show ∃ id, _ ∧ Rooted registry hash e.created _ definition
    rw [hdefinition]
    exact rooted_of_actorName h hread
  · intro call hcall hmay
    obtain ⟨-, -, -, hintents⟩ := hmatch hcall
    show _ ∈ intents
    rw [hintents]
    exact mem_foldl_addIntent _ (create_mem_intents hmay)
  · intro call hcall
    exact absurd hcall (by simp)
  · intro actorId hpc
    rcases hpc with hpc | hpc
    · exact absurd hpc (by simp)
    · exact absurd hpc (by simp)

/-- What an operation by key computes its id from. -/
theorem DriverCall.creates_eq {d : Directory} {found : Option Nat}
    {call : DriverCall} {state : StoredActor}
    (h : call.creates registry hash d found = some state) :
    call.byKey = some (state.name, state.key)
      ∧ generateActorId registry.text hash state.name state.key
        = .ok state.actorId := by
  cases call with
  | getForId name actorId => exact absurd h (by simp [creates])
  | getWithKey name key => exact absurd h (by simp [creates])
  | getOrCreateWithKey name key input region =>
    dsimp only [creates] at h
    split at h
    · rename_i id hid
      split at h
      · rw [← Option.some.inj h]
        exact ⟨rfl, hid⟩
      · exact absurd h (by simp)
    · exact absurd h (by simp)
  | createActor name key input region =>
    dsimp only [creates] at h
    split at h
    · rename_i id hid
      split at h
      · rw [← Option.some.inj h]
        exact ⟨rfl, hid⟩
      · exact absurd h (by simp)
    · exact absurd h (by simp)

/-- What an operation reaches: the id it was asked for, the state that it
found under the id of its name and key, or the one it creates. -/
theorem DriverCall.run_eq {e : Endpoints} {found : Option Nat}
    {call : DriverCall} {id : String}
    (h : call.run (e.registryAt registry hash found) = .ok id) :
    (∃ name, call = .getForId name (.str id))
      ∨ (∃ name key path state, call.byKey = some (name, key)
        ∧ generateActorId registry.text hash name key = .ok path
        ∧ e.directory.loaded found path = some state
        ∧ (id = path ∨ id = state.actorId))
      ∨ ∃ state, call.creates registry hash e.directory found = some state
        ∧ id = state.actorId := by
  cases call with
  | getForId name actorId =>
    obtain ⟨output, houtput, hid⟩ := bind_ok h
    replace houtput : e.directory.getForId registry.text found actorId
      = .ok output := houtput
    left
    unfold Directory.getForId at houtput
    split at houtput
    · rename_i asked
      cases hloaded : e.directory.loaded found asked with
      | none =>
        rw [hloaded] at houtput
        rw [← Except.ok.inj houtput] at hid
        exact absurd hid (by simp [throw, throwThe, MonadExceptOf.throw])
      | some state =>
        rw [hloaded] at houtput
        rw [← Except.ok.inj houtput] at hid
        rw [← Except.ok.inj hid]
        exact ⟨name, rfl⟩
    · split at houtput
      · exact absurd houtput (by simp)
      · rw [← Except.ok.inj houtput] at hid
        exact absurd hid (by simp [throw, throwThe, MonadExceptOf.throw])
  | getWithKey name key =>
    obtain ⟨output, houtput, hid⟩ := bind_ok h
    obtain ⟨path, hpath, houtput⟩ := bind_ok houtput
    replace hpath : generateActorId registry.text hash name key
      = .ok path := hpath
    right
    left
    cases hloaded : e.directory.loaded found path with
    | none =>
      rw [hloaded] at houtput
      rw [← Except.ok.inj houtput] at hid
      obtain ⟨_, -, hid⟩ := bind_ok hid
      exact absurd hid (by simp [throw, throwThe, MonadExceptOf.throw])
    | some state =>
      rw [hloaded] at houtput
      rw [← Except.ok.inj houtput] at hid
      rw [← Except.ok.inj hid]
      exact ⟨name, key, path, state, rfl, hpath, hloaded, Or.inl rfl⟩
  | getOrCreateWithKey name key input region =>
    obtain ⟨output, houtput, hid⟩ := bind_ok h
    obtain ⟨path, hpath, houtput⟩ := bind_ok houtput
    replace hpath : generateActorId registry.text hash name key
      = .ok path := hpath
    right
    replace houtput := Except.ok.inj houtput
    rw [← houtput] at hid
    replace hid : (e.directory.orCreated found path name key).actorId = id :=
      Except.ok.inj hid
    unfold Directory.orCreated at hid
    cases hloaded : e.directory.loaded found path with
    | none =>
      right
      rw [hloaded] at hid
      refine ⟨{ actorId := path, name, key }, ?_, hid.symm⟩
      dsimp only [creates]
      rw [hpath]
      dsimp only
      rw [hloaded]
      rfl
    | some state =>
      left
      rw [hloaded] at hid
      exact ⟨name, key, path, state, rfl, hpath, hloaded,
        Or.inr hid.symm⟩
  | createActor name key input region =>
    obtain ⟨output, houtput, hid⟩ := bind_ok h
    obtain ⟨path, hpath, houtput⟩ := bind_ok houtput
    replace hpath : generateActorId registry.text hash name key
      = .ok path := hpath
    right
    right
    dsimp only at houtput
    split at houtput
    · exact absurd houtput
        (by simp [throw, throwThe, MonadExceptOf.throw, bind, Except.bind])
    · rename_i hentry
      rw [← Except.ok.inj houtput] at hid
      refine ⟨{ actorId := path, name, key }, ?_, (Except.ok.inj hid).symm⟩
      dsimp only [creates]
      rw [hpath]
      dsimp only
      rw [if_pos]
      rw [Option.isNone_iff_eq_none, ← Option.not_isSome_iff_eq_none]
      exact hentry

/-- What a created state goes back to. -/
theorem stateRooted_created (registry : Registry)
    (hpath : ∀ s, getActorStatePath (hash s) = hash s)
    (created : List (Value × Value)) {state : StoredActor}
    (hid : generateActorId registry.text hash state.name state.key
      = .ok state.actorId) :
    StateRooted registry hash getActorStatePath
      (created ++ [(state.name, state.key)])
      (getActorStatePath state.actorId) state := by
  refine ⟨⟨(state.name, state.key), ?_, ?_, rfl, fun h => h⟩, rfl⟩
  · exact List.mem_append_right _ (List.mem_singleton.2 rfl)
  · rw [path_of_generateActorId hpath hid]
    exact hid

/-- Executing an operation: what it reaches goes back to what a state was
created with, under the name that `onAuth` ran for. -/
theorem rooted_of_run (hhash : Function.Injective hash)
    (hpath : ∀ s, getActorStatePath (hash s) = hash s) {e : Endpoints}
    (h : DirectoryRooted registry hash getActorStatePath e.created
      e.directory) {request : QueryRequest} {call : DriverCall}
    (hrequest : RequestRooted registry hash getActorStatePath e.created
      request) (hcall : queryCall request.query = .ok call)
    (hapart : ∀ name key, call.byKey = some (name, key) →
      ∀ c ∈ e.created, NamesApart registry name key c.1 c.2)
    {created : List (Value × Value)}
    (hsub : ∀ c ∈ e.created, c ∈ created) {found : Option Nat}
    (hcreated : ∀ state,
      call.creates registry hash e.directory found = some state →
        (state.name, state.key) ∈ created)
    {id : String}
    (hrun : call.run (e.registryAt registry hash found) = .ok id) :
    Rooted registry hash created (getActorStatePath id)
      request.definition := by
  rcases DriverCall.run_eq hrun with hbyId | hfound | hnew
  · obtain ⟨name, rfl⟩ := hbyId
    obtain ⟨asked, hasked, hrooted⟩ := hrequest.byId hcall
    rw [Value.str.inj hasked]
    exact hrooted.mono hsub
  · obtain ⟨name, key, path, state, hkey, hgenerate, hloaded, hid⟩ :=
      hfound
    have hroot := h.loaded hloaded
    have hsame : getActorStatePath id = path := by
      rcases hid with hid | hid
      · rw [hid]
        exact path_of_generateActorId hpath hgenerate
      · rw [hid, hroot.actorId]
        exact path_of_generateActorId hpath hgenerate
    obtain ⟨c, hc, hgenerate', -⟩ := hroot.origin
    rw [path_of_generateActorId hpath hgenerate] at hgenerate'
    rw [hsame, hrequest.byKey hcall hkey]
    refine ⟨c, hsub c hc, hgenerate', ?_⟩
    exact (hapart name key hkey c hc
      (generateActorId_inj hhash hgenerate hgenerate')).symm
  · obtain ⟨state, hcreates, hid⟩ := hnew
    obtain ⟨hkey, hgenerate⟩ := DriverCall.creates_eq hcreates
    rw [hid, path_of_generateActorId hpath hgenerate,
      hrequest.byKey hcall hkey]
    exact ⟨(state.name, state.key), hcreated state hcreates, hgenerate, rfl⟩

/-- One more state: names with one id stay the same. -/
theorem coherent_created (hhash : Function.Injective hash)
    {created : List (Value × Value)}
    (h : ∀ {path name name'}, Rooted registry hash created path name →
      Rooted registry hash created path name' → name = name')
    {new : Value × Value}
    (hapart : ∀ c ∈ created, NamesApart registry new.1 new.2 c.1 c.2)
    {path name name' : String}
    (h₁ : Rooted registry hash (created ++ [new]) path name)
    (h₂ : Rooted registry hash (created ++ [new]) path name') :
    name = name' := by
  obtain ⟨c₁, hc₁, hid₁, hname₁⟩ := h₁
  obtain ⟨c₂, hc₂, hid₂, hname₂⟩ := h₂
  rw [← hname₁, ← hname₂]
  rcases List.mem_append.1 hc₁ with hc₁ | hc₁
  · rcases List.mem_append.1 hc₂ with hc₂ | hc₂
    · exact h ⟨c₁, hc₁, hid₁, rfl⟩ ⟨c₂, hc₂, hid₂, rfl⟩
    · rw [List.mem_singleton.1 hc₂] at hid₂ ⊢
      exact (hapart c₁ hc₁ (generateActorId_inj hhash hid₂ hid₁)).symm
  · rw [List.mem_singleton.1 hc₁] at hid₁ ⊢
    rcases List.mem_append.1 hc₂ with hc₂ | hc₂
    · exact hapart c₂ hc₂ (generateActorId_inj hhash hid₁ hid₂)
    · rw [List.mem_singleton.1 hc₂]

end Requests

-- ============================================================ the steps

section Steps

variable {registry hash getActorStatePath} {e e' : Endpoints}

/-- Replacing a request. -/
theorem requests_set {created : List (Value × Value)} {r : Nat}
    {request : QueryRequest}
    (h : ∀ request ∈ e.requests,
      RequestRooted registry hash getActorStatePath created request)
    (hrequest : RequestRooted registry hash getActorStatePath created
      request) :
    ∀ request' ∈ e.requests.set r request,
      RequestRooted registry hash getActorStatePath created request' := by
  intro request' hmem
  rcases List.mem_or_eq_of_mem_set hmem with hmem | heq
  · exact h request' hmem
  · rw [heq]
    exact hrequest

theorem Tracked.authenticate
    (h : Tracked registry hash getActorStatePath e) {route : QueryRoute}
    {request : Request} {found : Option Nat}
    (hstep : e.authenticate registry hash route request found = .ok e') :
    Tracked registry hash getActorStatePath e' := by
  obtain ⟨read, -, hstep⟩ := bind_ok hstep
  obtain ⟨run, hrun, hstep⟩ := bind_ok hstep
  obtain ⟨_, -, hstep⟩ := bind_ok hstep
  rw [← Except.ok.inj hstep]
  refine ⟨h.directory, h.coherent, ?_⟩
  intro request' hmem
  rcases List.mem_append.1 hmem with hmem | hmem
  · exact h.requests request' hmem
  · rw [List.mem_singleton.1 hmem]
    exact requestRooted_of_hookRun h.directory hrun

/-- A request after its operation. -/
theorem RequestRooted.executed {created : List (Value × Value)}
    {request : QueryRequest} {call : DriverCall} {pc : QueryPc}
    (h : RequestRooted registry hash getActorStatePath created request)
    (hcall : queryCall request.query = .ok call)
    (hreached : ∀ {actorId},
      pc = .reached actorId ∨ pc = .writing actorId →
        Rooted registry hash created (getActorStatePath actorId)
          request.definition) :
    RequestRooted registry hash getActorStatePath created
      { request with call := some call, pc } where
  byKey := h.byKey
  byId := h.byId
  mayCreate := h.mayCreate
  called hsome := by
    rw [← Option.some.inj hsome]
    exact hcall
  reached := hreached

/-- A request goes on without another operation. -/
theorem RequestRooted.moved {created : List (Value × Value)}
    {request : QueryRequest} {pc : QueryPc}
    (h : RequestRooted registry hash getActorStatePath created request)
    (hreached : ∀ {actorId},
      pc = .reached actorId ∨ pc = .writing actorId →
        Rooted registry hash created (getActorStatePath actorId)
          request.definition) :
    RequestRooted registry hash getActorStatePath created
      { request with pc } where
  byKey := h.byKey
  byId := h.byId
  mayCreate := h.mayCreate
  called := h.called
  reached := hreached

/-- An operation that has an actor has succeeded. -/
theorem run_of_pcAfter {persist created : Bool}
    {run : Except RouteError String} {actorId : String}
    (h : Endpoints.pcAfter persist created run = .reached actorId
      ∨ Endpoints.pcAfter persist created run = .writing actorId) :
    run = .ok actorId := by
  unfold Endpoints.pcAfter at h
  cases run with
  | error error =>
    rcases h with h | h
    · exact absurd h (by simp)
    · exact absurd h (by simp)
  | ok id =>
    dsimp only at h
    split at h
    · rcases h with h | h
      · exact absurd h (by simp)
      · rw [QueryPc.writing.inj h]
    · rcases h with h | h
      · rw [QueryPc.reached.inj h]
      · exact absurd h (by simp)

theorem Tracked.queryActor (hhash : Function.Injective hash)
    (hpath : ∀ s, getActorStatePath (hash s) = hash s)
    (h : Tracked registry hash getActorStatePath e) {r : Nat}
    {found : Option Nat}
    (hok : KeepsApart registry e (.queryActor r found))
    (hstep : e.queryActor registry hash r found = some e') :
    Tracked registry hash getActorStatePath e' := by
  obtain ⟨request, hr, hstep⟩ := Option.bind_eq_some_iff.1 hstep
  have hrequest := h.requests request (List.mem_of_getElem? hr)
  split at hstep
  · exact absurd hstep (by simp)
  split at hstep
  · rw [← Option.some.inj hstep]
    refine ⟨h.directory, h.coherent, requests_set h.requests ?_⟩
    apply hrequest.moved
    intro actorId hpc
    rcases hpc with hpc | hpc
    · exact absurd hpc (by simp)
    · exact absurd hpc (by simp)
  · rename_i call hcall
    have hapart : ∀ name key, call.byKey = some (name, key) →
        ∀ c ∈ e.created, NamesApart registry name key c.1 c.2 :=
      fun name key hkey => hok request call name key hr hcall hkey
    dsimp only at hstep
    cases hcreates : call.creates registry hash e.directory found with
    | none =>
      rw [hcreates] at hstep
      rw [← Option.some.inj hstep]
      refine ⟨h.directory, h.coherent, requests_set h.requests ?_⟩
      apply hrequest.executed hcall
      intro actorId hpc
      apply rooted_of_run hhash hpath h.directory hrequest hcall hapart
        (fun c hc => hc) _ (run_of_pcAfter hpc)
      intro state hs
      rw [hcreates] at hs
      exact absurd hs (by simp)
    | some state =>
      rw [hcreates] at hstep
      rw [← Option.some.inj hstep]
      obtain ⟨hkey, hgenerate⟩ := DriverCall.creates_eq hcreates
      have hsub : ∀ c ∈ e.created,
          c ∈ e.created ++ [(state.name, state.key)] :=
        fun c hc => List.mem_append_left _ hc
      have hstate := stateRooted_created registry hpath
        e.created hgenerate
      refine ⟨?_, ?_, ?_⟩
      · exact ((h.directory.mono hsub).setState _ hstate).writeActor hstate
      · exact coherent_created hhash h.coherent (hapart _ _ hkey)
      · apply requests_set
        · exact fun request' hmem => (h.requests request' hmem).mono hsub
        · apply (hrequest.mono hsub).executed hcall
          intro actorId hpc
          apply rooted_of_run hhash hpath h.directory hrequest hcall hapart
            hsub _ (run_of_pcAfter hpc)
          intro state' hs
          rw [hcreates] at hs
          rw [← Option.some.inj hs]
          exact List.mem_append_right _ (List.mem_singleton.2 rfl)

theorem Tracked.written
    (h : Tracked registry hash getActorStatePath e) {r : Nat} {ok : Bool}
    (hstep : e.written r ok = some e') :
    Tracked registry hash getActorStatePath e' := by
  obtain ⟨request, hr, hstep⟩ := Option.bind_eq_some_iff.1 hstep
  have hrequest := h.requests request (List.mem_of_getElem? hr)
  split at hstep
  · rename_i actorId hpc
    rw [← Option.some.inj hstep]
    refine ⟨h.directory, h.coherent, requests_set h.requests ?_⟩
    apply hrequest.moved
    intro id hat
    have hid : id = actorId := by
      cases ok with
      | true =>
        rcases hat with hat | hat
        · exact (QueryPc.reached.inj hat).symm
        · exact absurd hat (by simp)
      | false =>
        rcases hat with hat | hat
        · exact absurd hat (by simp)
        · exact absurd hat (by simp)
    rw [hid]
    exact hrequest.reached (Or.inr hpc)
  · exact absurd hstep (by simp)

/-- After a restart there are only files, and these go back to names that
a file can have. -/
theorem Tracked.restart (h : Tracked registry hash getActorStatePath e) :
    Tracked registry hash getActorStatePath (e.restart registry) := by
  refine ⟨⟨?_, ?_, ?_⟩, ?_, ?_⟩
  · intro id state hs
    exact absurd hs (by simp [Endpoints.restart, Directory.restart])
  · intro id state hs
    exact absurd hs (by simp [Endpoints.restart, Directory.restart])
  · intro path state hs
    obtain ⟨hpersist, hwritten, hstate⟩ := h.directory.files hs
    refine ⟨hpersist, hwritten, ?_, hstate.actorId⟩
    obtain ⟨c, hc, hid, hname, hkeeps⟩ := hstate.origin
    refine ⟨c, List.mem_filter.2 ⟨hc, ?_⟩, hid, hname, hkeeps⟩
    rw [hpersist, hkeeps hwritten]
    rfl
  · intro path name name' h₁ h₂
    have hsub : ∀ c ∈ (e.restart registry).created, c ∈ e.created :=
      fun c hc => (List.mem_filter.1 hc).1
    exact h.coherent (h₁.mono hsub) (h₂.mono hsub)
  · intro request hmem
    exact absurd hmem (by simp [Endpoints.restart])

/-- A step of the driver alone. -/
theorem Tracked.withDirectory
    (h : Tracked registry hash getActorStatePath e) {d : Option Directory}
    (hd : ∀ d', d = some d' →
      DirectoryRooted registry hash getActorStatePath e.created d')
    (hstep : e.withDirectory d = some e') :
    Tracked registry hash getActorStatePath e' := by
  obtain ⟨d', hd', hstep⟩ := Option.map_eq_some_iff.1 hstep
  rw [← hstep]
  exact ⟨hd d' hd', h.coherent, h.requests⟩

/-- One step keeps the invariant. -/
theorem Tracked.step (hhash : Function.Injective hash)
    (hpath : ∀ s, getActorStatePath (hash s) = hash s)
    (h : Tracked registry hash getActorStatePath e) {a : EndpointStep}
    (hok : KeepsApart registry e a)
    (hstep : e.step registry hash getActorStatePath a = some e') :
    Tracked registry hash getActorStatePath e' := by
  cases a with
  | authenticate route request found =>
    replace hstep : (e.authenticate registry hash route request
      found).toOption = some e' := hstep
    cases hauth : e.authenticate registry hash route request found with
    | error error =>
      rw [hauth] at hstep
      exact absurd hstep (by simp [Except.toOption])
    | ok next =>
      rw [hauth] at hstep
      rw [← Option.some.inj hstep]
      exact h.authenticate hauth
  | queryActor r found => exact h.queryActor hhash hpath hok hstep
  | written r ok => exact h.written hstep
  | upsertEntry actorId =>
    apply h.withDirectory _ hstep
    intro d' hd'
    rw [← Option.some.inj hd']
    exact h.directory.upsertEntry actorId
  | readFile attached actorId =>
    exact h.withDirectory (fun d' hd' => h.directory.readFile hd') hstep
  | writePersistedData found actorId =>
    exact h.withDirectory
      (fun d' hd' => h.directory.writePersistedData hd') hstep
  | endWrite actorId i =>
    exact h.withDirectory (fun d' hd' => h.directory.endWrite hd') hstep
  | endSleep actorId =>
    exact h.withDirectory (fun d' hd' => h.directory.endSleep hd') hstep
  | restart =>
    rw [← Option.some.inj hstep]
    exact h.restart

/-- Every run keeps the invariant. -/
theorem tracked_of_reaches (hhash : Function.Injective hash)
    (hpath : ∀ s, getActorStatePath (hash s) = hash s) {persist : Bool}
    (h : (endpoints registry hash getActorStatePath persist).Reaches
      (KeepsApart registry) e) :
    Tracked registry hash getActorStatePath e := by
  apply h.invariant
  · intro s hs
    replace hs : s = { directory := { persist } } := hs
    rw [hs]
    refine ⟨⟨?_, ?_, ?_⟩, ?_, ?_⟩
    · intro id state hstate
      exact absurd hstate (by simp)
    · intro id state hstate
      exact absurd hstate (by simp)
    · intro path state hstate
      exact absurd hstate (by simp)
    · intro path name name' hname
      obtain ⟨c, hc, -⟩ := hname
      exact absurd hc (by simp)
    · intro request hmem
      exact absurd hmem (by simp)
  · intro s a s' _ hs hok hstep
    exact hs.step hhash hpath hok hstep

end Steps

end RivetKit.Manager
