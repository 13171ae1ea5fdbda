/-
Create once: however the callers of `getOrCreateWithKey` and
`createActor` for one name and key interleave, the Durable Object is
initialised with one request, no record an actor wrote is overwritten,
one `createActor` succeeds, and everybody gets the same actor.

`createActor` looks the metadata up, initialises the object and then
stores the metadata, and nothing holds the others off in between
(`createOnce_fails`). The window opens when the KV answers the lookup
with nothing, before the caller has heard of it, and closes when the KV
stores the metadata. The guard is on the KV alone: it answers no lookup
of a `createActor` with nothing within such a window of another caller,
open or left behind by a failure.

# The invariant

At most one caller ever gets past the lookup of `createActor`
(`CreateInv.one_past`). An object that was not initialised is `Blank`:
its invocations wait or throw, so that it has no record for the one
`initialize` to overwrite.
-/
import RivetKit.Cloudflare.ManagerDriver

namespace RivetKit.Cloudflare

open Transition
open Actor
open Js

variable {config : RegistryConfig} {target : Target}

-- ===================================================== reading a caller

/-- The caller's lookup in `createActor` was answered with nothing, and
its metadata is not stored yet; or it failed behind its `initialize`. -/
def CallerPc.creating : CallerPc → Bool
  | .check _ (some none) => true
  | .initializeSent => true
  | .initializing _ => true
  | .putMetadata served => !served
  | .failed => true
  | _ => false

/-- The caller's lookup in `createActor` was answered with nothing, and
the caller did not give up before its `initialize`. -/
def CallerPc.past : CallerPc → Bool
  | .putMetadata _ => true
  | .putKeyIndex _ => true
  | .created _ => true
  | pc => pc.creating

/-- The caller's `initialize` has reached the object. -/
def CallerPc.reached : CallerPc → Bool
  | .initializing _ => true
  | .putMetadata _ => true
  | .putKeyIndex _ => true
  | .created _ => true
  | .failed => true
  | _ => false

/-- What a caller that succeeded was given. -/
def CallerPc.output? : CallerPc → Option ActorOutput
  | .found output => some output
  | .created output => some output
  | _ => none

namespace Manager

/-- Where the caller `c` is. -/
def pc? (s : Manager) (c : Nat) : Option CallerPc :=
  s.callers[c]?.map (·.pc)

-- ================================================ statement vocabulary

/-- The object is initialised with one request, `initialize` overwrites
no record that an actor wrote, one `createActor` succeeds, and all that
succeed are given the same actor id. -/
structure CreateOnce (s : Manager) : Prop where
  one_request : ∀ i ∈ s.object.inits, ∀ j ∈ s.object.inits, i.req = j.req
  no_overwrite : ∀ i ∈ s.object.inits, ∀ changes,
    i.found ≠ some (.written changes)
  one_created : ∀ (c c' : Nat) (o o' : ActorOutput),
    s.pc? c = some (.created o) → s.pc? c' = some (.created o') → c = c'
  same_id : ∀ (c c' : Nat) (pc pc' : CallerPc) (o o' : ActorOutput),
    s.pc? c = some pc → pc.output? = some o →
    s.pc? c' = some pc' → pc'.output? = some o' → o.actorId = o'.actorId

/-- Whenever the KV answers the lookup of a `createActor` with nothing,
no caller is between such an answer and the storing of its metadata, or
has failed there. -/
def CreateSafe (target : Target) (s : Manager) : ManagerStep → Prop
  | .serve c =>
      match s.callers[c]? with
      | some ⟨_, .check _ _⟩ =>
          s.getMetadata target.actorId = none →
            ∀ caller ∈ s.callers, caller.pc.creating = false
      | _ => True
  | _ => True

instance (s : Manager) : (a : ManagerStep) → Decidable (s.CreateSafe target a)
  | .serve c => by
      unfold CreateSafe
      dsimp only
      split <;> infer_instance
  | .getOrCreateWithKey _ => .isTrue trivial
  | .createActor _ => .isTrue trivial
  | .resume _ _ => .isTrue trivial
  | .object _ => .isTrue trivial

end Manager

-- =================================================== a blank object

/-- The invocation waits for the initialisation, or for a read that finds
no record, or threw. -/
def TaskPc.Idle (pc : TaskPc) : Prop :=
  pc = .awaitInitialized
    ∨ (∃ res : Storage, pc = .getStorage res ∧ res.data = none)
    ∨ pc = .threw

namespace DurableObject

/-- Nobody has initialised the object: nothing is stored, and its
invocations wait for the initialisation or threw. -/
structure Blank (s : DurableObject) : Prop where
  uninitialized : s.initialized = none
  no_data : s.storage.data = none
  unloaded : s.actor = none
  no_instances : s.instances = []
  waiting : ∀ task ∈ s.tasks, task.pc.Idle

theorem mem_setPc_tasks {s : DurableObject} {t : Nat} {pc : TaskPc}
    {task : Task} (h : task ∈ (s.setPc t pc).tasks) :
    task ∈ s.tasks ∨ task.pc = pc := by
  obtain ⟨i, hi⟩ := List.mem_iff_getElem?.mp h
  simp only [setPc, List.getElem?_modify] at hi
  obtain ⟨old, hold, heq⟩ := Option.map_eq_some_iff.mp hi
  by_cases ht : t = i
  · rw [if_pos ht] at heq
    right
    rw [← heq]
  · rw [if_neg ht] at heq
    left
    rw [← heq]
    exact List.mem_of_getElem? hold

theorem Blank.setPc {s : DurableObject} (h : Blank s) (t : Nat) {pc : TaskPc}
    (hpc : pc.Idle) : Blank (s.setPc t pc) := by
  refine ⟨h.uninitialized, h.no_data, h.unloaded, h.no_instances, ?_⟩
  intro task hmem
  rcases mem_setPc_tasks hmem with hold | hnew
  · exact h.waiting task hold
  · rw [hnew]
    exact hpc

/-- Behind the wait, a blank object throws. -/
theorem Blank.afterInitialized {s : DurableObject} (h : Blank s) (t : Nat) :
    Blank (s.afterInitialized t) := by
  unfold DurableObject.afterInitialized
  rw [h.unloaded, h.uninitialized]
  exact h.setPc t (.inr (.inr rfl))

theorem Blank.invoke {s : DurableObject} (h : Blank s)
    (invocation : Invocation) : Blank (s.invoke invocation) := by
  have hpush : Blank
      { s with tasks := s.tasks ++ [⟨invocation, .getStorage s.storage⟩] } :=
        by
    refine ⟨h.uninitialized, h.no_data, h.unloaded, h.no_instances, ?_⟩
    intro task hmem
    rcases List.mem_append.mp hmem with hold | hnew
    · exact h.waiting task hold
    · rw [List.mem_singleton.mp hnew]
      exact .inr (.inl ⟨_, rfl, h.no_data⟩)
  unfold DurableObject.invoke DurableObject.loadActor
  dsimp only
  rw [if_pos (by rw [h.uninitialized]; rfl)]
  split
  · exact hpush.setPc _ (.inl rfl)
  · refine Blank.setPc ?_ _ (.inr (.inl ⟨_, rfl, h.no_data⟩))
    exact ⟨hpush.uninitialized, hpush.no_data, hpush.unloaded,
      hpush.no_instances, hpush.waiting⟩

theorem Blank.resume {s s' : DurableObject} (h : Blank s) {t : Nat} {ok : Bool}
    (hs : s.resume config t ok = some s') : Blank s' := by
  have hwait : ∀ {task : Task}, s.tasks[t]? = some task →
      task.pc.Idle :=
    fun htask => h.waiting _ (List.mem_of_getElem? htask)
  cases DurableObject.resume_cases hs with
  | initialized req htask => simpa [TaskPc.Idle] using hwait htask
  | afterInitialized _ _ _ heq =>
      rw [heq]
      exact h.afterInitialized t
  | afterGetStorage _ res htask heq =>
      -- the read finds no record
      have hnone : res.data = none := by
        simpa [TaskPc.Idle] using hwait htask
      rw [heq]
      unfold DurableObject.afterGetStorage
      rw [hnone]
      exact h.afterInitialized t
  | threw _ _ _ _ heq =>
      rw [heq]
      exact h.setPc t (.inr (.inr rfl))
  | loading _ _ _ _ _ htask => simpa [TaskPc.Idle] using hwait htask
  | loaded _ _ htask => simpa [TaskPc.Idle] using hwait htask
  | serving _ _ _ _ _ htask => simpa [TaskPc.Idle] using hwait htask
  | served _ _ _ _ _ htask => simpa [TaskPc.Idle] using hwait htask
  | servingThrew _ _ _ _ htask => simpa [TaskPc.Idle] using hwait htask

/-- The steps of the object other than `initialize` keep it blank. -/
theorem Blank.step {s s' : DurableObject} (h : Blank s) {a : ObjectStep}
    (ha : ∀ req, a ≠ .initializeRpc req)
    (hs : objectStep config s a = some s') : Blank s' := by
  cases a with
  | initializeRpc req => exact absurd rfl (ha req)
  | fetch =>
      injection hs with hs
      rw [← hs]
      exact h.invoke .fetch
  | alarm =>
      injection hs with hs
      rw [← hs]
      exact h.invoke .alarm
  | resume t ok => exact h.resume hs
  | writePersistedData i =>
      simp only [objectStep, DurableObject.writePersistedData,
        h.no_instances, List.getElem?_nil] at hs
      cases hs

-- ====================================== the calls of initialize, framed

@[simp] theorem setPc_inits (s : DurableObject) (t : Nat) (pc : TaskPc) :
    (s.setPc t pc).inits = s.inits := rfl

@[simp] theorem driverLoadActor_inits (s : DurableObject) (d : Nat) :
    (s.driverLoadActor d).1.inits = s.inits := by
  unfold driverLoadActor
  split <;> rfl

theorem driverResume_inits {s s' : DurableObject} {d : Nat} {pc : DriverPc}
    {ok : Bool} {r : DriverResult}
    (h : s.driverResume config d pc ok = some (s', r)) :
    s'.inits = s.inits := by
  unfold driverResume at h
  cases pc with
  | awaitHandler =>
      dsimp only at h
      split at h <;> cases h <;> rfl
  | awaitMetadata =>
      dsimp only at h
      split at h
      · split at h <;> cases h <;> rfl
      · cases h; rfl
  | awaitRead i =>
      dsimp only at h
      split at h
      · split at h <;> cases h <;> rfl
      · cases h; rfl
  | awaitState i => dsimp only at h; split at h <;> cases h <;> rfl
  | awaitWrite i => dsimp only at h; split at h <;> cases h <;> rfl
  | awaitHooks i => dsimp only at h; split at h <;> cases h <;> rfl

@[simp] theorem afterInitialized_inits (s : DurableObject) (t : Nat) :
    (s.afterInitialized t).inits = s.inits := by
  unfold afterInitialized
  split
  · rfl
  · split
    · rfl
    · simp

@[simp] theorem loadActor_inits (s : DurableObject) (t : Nat) :
    (s.loadActor t).inits = s.inits := by
  unfold loadActor
  split
  · split <;> rfl
  · simp

@[simp] theorem afterGetStorage_inits (s : DurableObject) (t : Nat)
    (res : Storage) : (s.afterGetStorage t res).inits = s.inits := by
  unfold afterGetStorage
  split
  · split
    · split
      · simp
      · rfl
    · rfl
  · simp

@[simp] theorem afterLoaded_inits (s : DurableObject) (t d : Nat)
    (invocation : Invocation) :
    (s.afterLoaded t d invocation).inits = s.inits := by
  cases invocation <;> simp [afterLoaded]

theorem resume_inits {s s' : DurableObject} {t : Nat} {ok : Bool}
    (h : s.resume config t ok = some s') : s'.inits = s.inits := by
  cases resume_cases h with
  | initialized req _ _ heq =>
      rw [heq]
      exact loadActor_inits _ t
  | afterInitialized _ _ _ heq =>
      rw [heq]
      exact afterInitialized_inits s t
  | afterGetStorage _ res _ heq =>
      rw [heq]
      exact afterGetStorage_inits s t res
  | threw _ _ _ _ heq =>
      rw [heq]
      rfl
  | loading _ _ _ _ _ _ hres heq =>
      rw [heq, ← driverResume_inits hres]
      rfl
  | loaded invocation d _ heq =>
      rw [heq]
      exact afterLoaded_inits s t d invocation
  | serving _ _ _ _ _ _ hres heq =>
      rw [heq, ← driverResume_inits hres]
      rfl
  | served _ _ _ _ _ _ hres heq =>
      rw [heq, ← driverResume_inits hres]
      rfl
  | servingThrew _ _ _ _ _ hres heq =>
      rw [heq, ← driverResume_inits hres]
      rfl

/-- Only `initialize` initialises. -/
theorem objectStep_inits {s s' : DurableObject} {a : ObjectStep}
    (ha : ∀ req, a ≠ .initializeRpc req)
    (h : objectStep config s a = some s') : s'.inits = s.inits := by
  cases a with
  | initializeRpc req => exact absurd rfl (ha req)
  | fetch =>
      injection h with h
      rw [← h]
      simp [invoke]
  | alarm =>
      injection h with h
      rw [← h]
      simp [invoke]
  | resume t ok => exact resume_inits h
  | writePersistedData i =>
      simp only [objectStep, writePersistedData] at h
      split at h <;> cases h
      rfl

end DurableObject

-- ================================================== the invariant

namespace Manager

/-- The invariant of a guarded run. -/
structure CreateInv (target : Target) (s : Manager) : Prop where
  one_past : ∀ (c c' : Nat) (pc pc' : CallerPc),
    s.pc? c = some pc → pc.past = true →
    s.pc? c' = some pc' → pc'.past = true → c = c'
  one_init : s.object.inits.length ≤ 1
  init_reached : s.object.inits ≠ [] → ∃ (c : Nat) (pc : CallerPc),
    s.pc? c = some pc ∧ pc.reached = true
  blank : s.object.inits = [] → s.object.Blank
  found_none : ∀ i ∈ s.object.inits, i.found = none
  stored : ∀ (c : Nat) (pc : CallerPc), s.pc? c = some pc →
    pc.past = true → pc.creating = false →
    s.getMetadata target.actorId ≠ none
  id_eq : ∀ (c : Nat) (pc : CallerPc) (o : ActorOutput),
    s.pc? c = some pc → pc.output? = some o → o.actorId = target.actorId

-- ------------------------------------------------ callers and the KV

theorem setPc_pc? (s : Manager) (c : Nat) (pc : CallerPc) (i : Nat) :
    (s.setPc c pc).pc? i
      = if c = i then (s.pc? c).map fun _ => pc else s.pc? i := by
  unfold Manager.pc? Manager.setPc
  rw [List.getElem?_modify]
  by_cases hi : c = i
  · subst hi
    rw [if_pos rfl]
    cases s.callers[c]? <;> simp
  · rw [if_neg hi]
    cases s.callers[i]? <;> simp [hi]

/-- A caller after `c` moved to `pc`: it is `c` and at `pc`, or another
one and where it was. -/
theorem pc?_of_setPc {s : Manager} {c i : Nat} {pc pc' : CallerPc}
    (h : (s.setPc c pc).pc? i = some pc') :
    (c = i ∧ pc' = pc) ∨ (c ≠ i ∧ s.pc? i = some pc') := by
  rw [setPc_pc?] at h
  by_cases hi : c = i
  · rw [if_pos hi] at h
    obtain ⟨_, _, heq⟩ := Option.map_eq_some_iff.mp h
    exact .inl ⟨hi, heq.symm⟩
  · rw [if_neg hi] at h
    exact .inr ⟨hi, h⟩

/-- A caller among those and a new one. -/
theorem pc?_of_push {s : Manager} {caller : Caller} {i : Nat} {pc : CallerPc}
    (h : Manager.pc? { s with callers := s.callers ++ [caller] } i = some pc) :
    s.pc? i = some pc ∨ pc = caller.pc := by
  unfold Manager.pc? at h ⊢
  dsimp only at h
  rw [List.getElem?_append] at h
  split at h
  · exact .inl h
  · obtain ⟨x, hx, heq⟩ := Option.map_eq_some_iff.mp h
    rw [List.mem_singleton.mp (List.mem_of_getElem? hx)] at heq
    exact .inr heq.symm

theorem pc?_push {s : Manager} {caller : Caller} {i : Nat} {pc : CallerPc}
    (h : s.pc? i = some pc) :
    Manager.pc? { s with callers := s.callers ++ [caller] } i = some pc := by
  obtain ⟨x, hx, heq⟩ := Option.map_eq_some_iff.mp h
  obtain ⟨hlt, _⟩ := List.getElem?_eq_some_iff.mp hx
  unfold Manager.pc?
  dsimp only
  rw [List.getElem?_append_left hlt, hx]
  exact congrArg some heq

/-- The two kinds of keys differ behind their first word. -/
theorem metadataKey_ne_keyIndexKey (actorId : String) (key : List String) :
    metadataKey actorId ≠ keyIndexKey key := by
  intro h
  have hlist := congrArg String.toList h
  simp [metadataKey, keyIndexKey] at hlist

/-- Storing the actor's id in the key index leaves the metadata. -/
theorem getMetadata_put_keyIndex (s : Manager) (actorId : String)
    (key : List String) (value : KvValue) :
    (s.put (keyIndexKey key) value).getMetadata actorId
      = s.getMetadata actorId := by
  unfold Manager.getMetadata Manager.put
  dsimp only
  rw [Function.update_of_ne (metadataKey_ne_keyIndexKey actorId key)]

theorem getMetadata_put_metadata (s : Manager) (actorId : String)
    (data : ActorData) :
    (s.put (metadataKey actorId) (.actorData data)).getMetadata actorId
      = some data := by
  unfold Manager.getMetadata Manager.put
  dsimp only
  rw [Function.update_self]

theorem past_of_reached {pc : CallerPc} (h : pc.reached = true) :
    pc.past = true := by
  cases pc <;> first | rfl | cases h

-- -------------------------------------------------- moves of one caller

/-- A caller moves; its lookup is not answered by it. -/
theorem CreateInv.setPc {s : Manager} (h : CreateInv target s) {c : Nat}
    {old pc : CallerPc} (hold : s.pc? c = some old)
    (hpast : pc.past = true → old.past = true)
    (hkeep : old.reached = true → pc.reached = true)
    (hstored : pc.past = true → pc.creating = false →
      s.getMetadata target.actorId ≠ none)
    (hid : ∀ o, pc.output? = some o → o.actorId = target.actorId) :
    CreateInv target (s.setPc c pc) := by
  have hback : ∀ {i : Nat} {pc' : CallerPc}, (s.setPc c pc).pc? i = some pc' →
      pc'.past = true →
      ∃ pc'' : CallerPc, s.pc? i = some pc'' ∧ pc''.past = true := by
    intro i pc' hi hp
    rcases pc?_of_setPc hi with ⟨rfl, rfl⟩ | ⟨_, hi⟩
    · exact ⟨old, hold, hpast hp⟩
    · exact ⟨pc', hi, hp⟩
  refine ⟨?_, h.one_init, ?_, h.blank, h.found_none, ?_, ?_⟩
  · intro i j pc₁ pc₂ hi hp₁ hj hp₂
    obtain ⟨pc₁', hi', hp₁'⟩ := hback hi hp₁
    obtain ⟨pc₂', hj', hp₂'⟩ := hback hj hp₂
    exact h.one_past i j pc₁' pc₂' hi' hp₁' hj' hp₂'
  · intro hne
    obtain ⟨i, pc', hi, hreached⟩ := h.init_reached hne
    by_cases hc : c = i
    · subst hc
      rw [hold] at hi
      cases hi
      refine ⟨c, pc, ?_, hkeep hreached⟩
      rw [setPc_pc?, if_pos rfl, hold]
      rfl
    · refine ⟨i, pc', ?_, hreached⟩
      rw [setPc_pc?, if_neg hc]
      exact hi
  · intro i pc' hi hp hcreating
    rcases pc?_of_setPc hi with ⟨_, rfl⟩ | ⟨_, hi⟩
    · exact hstored hp hcreating
    · exact h.stored i pc' hi hp hcreating
  · intro i pc' o hi ho
    rcases pc?_of_setPc hi with ⟨_, rfl⟩ | ⟨_, hi⟩
    · exact hid o ho
    · exact h.id_eq i pc' o hi ho

/-- A caller whose `initialize` has not reached the object moves to where
it is not past its lookup. -/
theorem CreateInv.setPc_before {s : Manager} (h : CreateInv target s) {c : Nat}
    {old pc : CallerPc} (hold : s.pc? c = some old)
    (hbefore : old.reached = false) (hpast : pc.past = false)
    (hid : ∀ o, pc.output? = some o → o.actorId = target.actorId) :
    CreateInv target (s.setPc c pc) := by
  refine h.setPc hold ?_ ?_ ?_ hid
  · intro hp
    rw [hpast] at hp
    cases hp
  · intro hreached
    rw [hbefore] at hreached
    cases hreached
  · intro hp
    rw [hpast] at hp
    cases hp

/-- A caller goes on from one place in its window to another. -/
theorem CreateInv.setPc_creating {s : Manager} (h : CreateInv target s)
    {c : Nat} {old pc : CallerPc} (hold : s.pc? c = some old)
    (hpast : old.past = true) (hcreating : pc.creating = true)
    (hkeep : old.reached = true → pc.reached = true) :
    CreateInv target (s.setPc c pc) := by
  refine h.setPc hold (fun _ => hpast) hkeep ?_ ?_
  · intro _ hnot
    rw [hcreating] at hnot
    cases hnot
  · intro o ho
    cases pc with
    | found _ => cases hcreating
    | created _ => cases hcreating
    | _ => cases ho

/-- With no metadata and nobody on the way to it, nobody is past its
lookup. -/
theorem CreateInv.none_past {s : Manager} (h : CreateInv target s)
    (hnone : s.getMetadata target.actorId = none)
    (hsafe : ∀ caller ∈ s.callers, caller.pc.creating = false) :
    ∀ (i : Nat) (pc : CallerPc), s.pc? i = some pc → pc.past = false := by
  intro i pc hi
  by_cases hp : pc.past = true
  · obtain ⟨caller, hcaller, rfl⟩ := Option.map_eq_some_iff.mp hi
    have hcreating := hsafe caller (List.mem_of_getElem? hcaller)
    exact absurd hnone (h.stored i _ hi hp hcreating)
  · simpa using hp

/-- The lookup of a caller is answered with nothing, the first to be. -/
theorem CreateInv.answer {s : Manager} (h : CreateInv target s) {c : Nat}
    (pc : GetPc) (hnone : s.getMetadata target.actorId = none)
    (hsafe : ∀ caller ∈ s.callers, caller.pc.creating = false) :
    CreateInv target (s.setPc c (.check pc (some none))) := by
  have hbefore := h.none_past hnone hsafe
  have hself : ∀ {i : Nat} {pc' : CallerPc},
      (s.setPc c (.check pc (some none))).pc? i = some pc' →
      pc'.past = true → c = i := by
    intro i pc' hi hp
    rcases pc?_of_setPc hi with ⟨hc, _⟩ | ⟨_, hi⟩
    · exact hc
    · rw [hbefore i pc' hi] at hp
      cases hp
  refine ⟨?_, h.one_init, ?_, h.blank, h.found_none, ?_, ?_⟩
  · intro i j pc₁ pc₂ hi hp₁ hj hp₂
    rw [← hself hi hp₁, ← hself hj hp₂]
  · intro hne
    obtain ⟨i, pc', hi, hreached⟩ := h.init_reached hne
    have hp := past_of_reached hreached
    rw [hbefore i pc' hi] at hp
    cases hp
  · intro i pc' hi hp hcreating
    rcases pc?_of_setPc hi with ⟨_, rfl⟩ | ⟨_, hi⟩
    · cases hcreating
    · exact h.stored i pc' hi hp hcreating
  · intro i pc' o hi ho
    rcases pc?_of_setPc hi with ⟨_, rfl⟩ | ⟨_, hi⟩
    · cases ho
    · exact h.id_eq i pc' o hi ho

/-- While the one caller's `initialize` is on its way, the object was not
initialised. -/
theorem CreateInv.inits_nil {s : Manager} (h : CreateInv target s) {c : Nat}
    (hsent : s.pc? c = some .initializeSent) : s.object.inits = [] := by
  by_contra hne
  obtain ⟨i, pc, hi, hreached⟩ := h.init_reached hne
  have hci := h.one_past c i _ pc hsent rfl hi (past_of_reached hreached)
  subst hci
  rw [hsent] at hi
  cases hi
  cases hreached

/-- `initialize` reaches the object. -/
theorem CreateInv.initializeRpc {s : Manager} (h : CreateInv target s)
    {c : Nat} (hsent : s.pc? c = some .initializeSent)
    (req : ActorInitRequest) (t : Nat) :
    CreateInv target ({ s with object := s.object.initializeRpc req }.setPc c
      (.initializing t)) := by
  have hnil := h.inits_nil hsent
  have hinits : (s.object.initializeRpc req).inits
      = [⟨req, s.object.storage.data⟩] := by
    show s.object.inits ++ _ = _
    rw [hnil]
    rfl
  have hmove : CreateInv target (s.setPc c (.initializing t)) :=
    h.setPc_creating hsent rfl rfl (fun _ => rfl)
  refine ⟨hmove.one_past, ?_, ?_, ?_, ?_, hmove.stored, hmove.id_eq⟩
  · show (s.object.initializeRpc req).inits.length ≤ 1
    rw [hinits]
    simp
  · intro _
    refine ⟨c, .initializing t, ?_, rfl⟩
    rw [setPc_pc?, if_pos rfl]
    show (s.pc? c).map _ = _
    rw [hsent]
    rfl
  · intro hne
    have hcons : (s.object.initializeRpc req).inits = [] := hne
    rw [hinits] at hcons
    cases hcons
  · intro i hi
    have hmem : i ∈ (s.object.initializeRpc req).inits := hi
    rw [hinits] at hmem
    rw [List.mem_singleton.mp hmem]
    exact (h.blank hnil).no_data

/-- A put that leaves the metadata in place. -/
theorem CreateInv.put {s : Manager} (h : CreateInv target s) {key : String}
    {value : KvValue}
    (hkeep : s.getMetadata target.actorId ≠ none →
      (s.put key value).getMetadata target.actorId ≠ none) :
    CreateInv target (s.put key value) := by
  refine ⟨h.one_past, h.one_init, h.init_reached, h.blank, h.found_none, ?_,
    h.id_eq⟩
  intro i pc hi hp hcreating
  exact hkeep (h.stored i pc hi hp hcreating)

/-- A new caller. -/
theorem CreateInv.push {s : Manager} (h : CreateInv target s) {caller : Caller}
    (hpast : caller.pc.past = false) (hout : caller.pc.output? = none) :
    CreateInv target { s with callers := s.callers ++ [caller] } := by
  have hback : ∀ {i : Nat} {pc : CallerPc},
      Manager.pc? { s with callers := s.callers ++ [caller] } i = some pc →
      pc.past = true → s.pc? i = some pc := by
    intro i pc hi hp
    rcases pc?_of_push hi with hi | rfl
    · exact hi
    · rw [hpast] at hp
      cases hp
  refine ⟨?_, h.one_init, ?_, h.blank, h.found_none, ?_, ?_⟩
  · intro i j pc pc' hi hp hj hp'
    exact h.one_past i j pc pc' (hback hi hp) hp (hback hj hp') hp'
  · intro hne
    obtain ⟨i, pc, hi, hreached⟩ := h.init_reached hne
    exact ⟨i, pc, pc?_push hi, hreached⟩
  · intro i pc hi hp hcreating
    exact h.stored i pc (hback hi hp) hp hcreating
  · intro i pc o hi ho
    rcases pc?_of_push hi with hi | rfl
    · exact h.id_eq i pc o hi ho
    · rw [hout] at ho
      cases ho

/-- The object takes a step of its own. -/
theorem CreateInv.object {s : Manager} (h : CreateInv target s)
    {object : DurableObject} {a : ObjectStep}
    (ha : ∀ req, a ≠ .initializeRpc req)
    (hs : objectStep config s.object a = some object) :
    CreateInv target { s with object := object } := by
  have hinits := DurableObject.objectStep_inits ha hs
  refine ⟨h.one_past, ?_, ?_, ?_, ?_, h.stored, h.id_eq⟩
  · show object.inits.length ≤ 1
    rw [hinits]
    exact h.one_init
  · intro hne
    replace hne : object.inits ≠ [] := hne
    rw [hinits] at hne
    exact h.init_reached hne
  · intro hnil
    replace hnil : object.inits = [] := hnil
    rw [hinits] at hnil
    exact (h.blank hnil).step ha hs
  · intro i hi
    replace hi : i ∈ object.inits := hi
    rw [hinits] at hi
    exact h.found_none i hi

-- ============================================================ every step

/-- What `getWithKey` returns carries the actor's id. -/
theorem getWithKey_id {pc : GetPc} {answer : Option ActorData}
    {output : ActorOutput}
    (h : getWithKey target pc answer = .returns (some output)) :
    output.actorId = target.actorId := by
  cases pc <;> cases answer <;> cases h
  rfl

/-- `getWithKey` finds nothing only where the KV's answer was nothing. -/
theorem getWithKey_none {pc : GetPc} {answer : Option ActorData}
    (h : getWithKey target pc answer = .returns none) : answer = none := by
  cases pc <;> cases answer <;> cases h <;> rfl

theorem pc?_of_getElem? {s : Manager} {c : Nat} {caller : Caller}
    (h : s.callers[c]? = some caller) : s.pc? c = some caller.pc := by
  unfold Manager.pc?
  rw [h]
  rfl

/-- The KV serves a caller. -/
theorem CreateInv.serve {s s' : Manager} (h : CreateInv target s) {c : Nat}
    (hsafe : s.CreateSafe target (.serve c))
    (hs : s.serve target c = some s') : CreateInv target s' := by
  unfold Manager.serve at hs
  split at hs
  case h_1 pc hc =>
    injection hs with hs
    rw [← hs]
    exact h.setPc_before (pc?_of_getElem? hc) rfl rfl nofun
  case h_2 pc hc =>
    injection hs with hs
    rw [← hs]
    unfold CreateSafe at hsafe
    simp only [hc] at hsafe
    cases hdata : s.getMetadata target.actorId with
    | none =>
        -- the answer is nothing: the guard keeps this caller alone
        exact h.answer pc hdata (hsafe hdata)
    | some data => exact h.setPc_before (pc?_of_getElem? hc) rfl rfl nofun
  case h_3 hc =>
    injection hs with hs
    rw [← hs]
    have hput := getMetadata_put_metadata s target.actorId
      ⟨target.name, target.key⟩
    have hkv : CreateInv target (s.put (metadataKey target.actorId)
        (.actorData ⟨target.name, target.key⟩)) := by
      refine h.put ?_
      intro _ hnone
      rw [hput] at hnone
      cases hnone
    refine hkv.setPc (pc?_of_getElem? hc) (fun _ => rfl) (fun _ => rfl) ?_
      nofun
    intro _ _ hnone
    rw [hput] at hnone
    cases hnone
  case h_4 hc =>
    injection hs with hs
    rw [← hs]
    have hstored := h.stored c _ (pc?_of_getElem? hc) rfl rfl
    have hput := getMetadata_put_keyIndex s target.actorId target.key
      (.actorId target.actorId)
    have hkv : CreateInv target (s.put (keyIndexKey target.key)
        (.actorId target.actorId)) := by
      refine h.put ?_
      intro hsome
      rw [hput]
      exact hsome
    refine hkv.setPc (pc?_of_getElem? hc) (fun _ => rfl) (fun _ => rfl) ?_
      nofun
    intro _ _
    rw [hput]
    exact hstored
  case h_5 => cases hs

/-- A caller resumes. -/
theorem CreateInv.resume {s s' : Manager} (h : CreateInv target s) {c : Nat}
    {ok : Bool} (hs : s.resume target c ok = some s') :
    CreateInv target s' := by
  unfold Manager.resume at hs
  split at hs
  case h_1 pc answer hc =>
    have hat := pc?_of_getElem? hc
    cases ok with
    | false =>
        injection hs with hs
        rw [← hs]
        exact h.setPc_before hat rfl rfl nofun
    | true =>
        cases answer with
        | none => cases hs
        | some answer =>
            simp only [if_true] at hs
            split at hs
            · injection hs with hs
              rw [← hs]
              exact h.setPc_before hat rfl rfl nofun
            case h_2 output hget =>
              injection hs with hs
              rw [← hs]
              refine h.setPc_before hat rfl rfl ?_
              intro o ho
              injection ho with ho
              rw [← ho]
              exact getWithKey_id hget
            · injection hs with hs
              rw [← hs]
              exact h.setPc_before hat rfl rfl nofun
  case h_2 pc answer hc =>
    have hat := pc?_of_getElem? hc
    cases ok with
    | false =>
        injection hs with hs
        rw [← hs]
        exact h.setPc_before hat rfl rfl nofun
    | true =>
        cases answer with
        | none => cases hs
        | some answer =>
            simp only [if_true] at hs
            split at hs
            · injection hs with hs
              rw [← hs]
              exact h.setPc_before hat rfl rfl nofun
            · injection hs with hs
              rw [← hs]
              exact h.setPc_before hat rfl rfl nofun
            case h_3 hget =>
              -- the answer was nothing, and the caller in its window since
              rw [getWithKey_none hget] at hat
              injection hs with hs
              rw [← hs]
              exact h.setPc_creating hat rfl rfl nofun
  case h_3 input hc =>
    have hat := pc?_of_getElem? hc
    split at hs
    · injection hs with hs
      rw [← hs]
      exact h.initializeRpc hat _ _
    · injection hs with hs
      rw [← hs]
      exact h.setPc_before hat rfl rfl nofun
  case h_4 t hc =>
    have hat := pc?_of_getElem? hc
    split at hs
    · split at hs
      · injection hs with hs
        rw [← hs]
        exact h.setPc_creating hat rfl rfl (fun _ => rfl)
      · cases hs
    · injection hs with hs
      rw [← hs]
      exact h.setPc_creating hat rfl rfl (fun _ => rfl)
  case h_5 served hc =>
    have hat := pc?_of_getElem? hc
    split at hs
    · split at hs
      case isTrue hserved =>
        rw [hserved] at hat
        injection hs with hs
        rw [← hs]
        exact h.setPc hat (fun _ => rfl) (fun _ => rfl)
          (fun _ _ => h.stored c _ hat rfl rfl) nofun
      · cases hs
    · injection hs with hs
      rw [← hs]
      exact h.setPc_creating hat rfl rfl (fun _ => rfl)
  case h_6 served hc =>
    have hat := pc?_of_getElem? hc
    split at hs
    · split at hs
      · injection hs with hs
        rw [← hs]
        refine h.setPc hat (fun _ => rfl) (fun _ => rfl)
          (fun _ _ => h.stored c _ hat rfl rfl) ?_
        intro o ho
        injection ho with ho
        rw [← ho]
      · cases hs
    · injection hs with hs
      rw [← hs]
      exact h.setPc_creating hat rfl rfl (fun _ => rfl)
  case h_7 => cases hs

theorem createInv_init : CreateInv target {} := by
  refine ⟨?_, Nat.zero_le _, ?_, ?_, nofun, ?_, ?_⟩
  · intro c c' pc pc' hc
    cases hc
  · intro hne
    exact absurd rfl hne
  · intro _
    exact ⟨rfl, rfl, rfl, rfl, nofun⟩
  · intro c pc hc
    cases hc
  · intro c pc o hc
    cases hc

/-- One guarded step preserves the invariant. -/
theorem createInv_step {s s' : Manager} {a : ManagerStep}
    (h : CreateInv target s) (hsafe : s.CreateSafe target a)
    (hstep : managerStep config target s a = some s') :
    CreateInv target s' := by
  cases a with
  | getOrCreateWithKey input =>
      injection hstep with hstep
      rw [← hstep]
      exact h.push rfl rfl
  | createActor input =>
      injection hstep with hstep
      rw [← hstep]
      exact h.push rfl rfl
  | serve c => exact h.serve hsafe hstep
  | resume c ok => exact h.resume hstep
  | object a =>
      have ha : ∀ req, a ≠ .initializeRpc req := by
        rintro req rfl
        cases hstep
      cases hobj : objectStep config s.object a with
      | none =>
          cases a <;> simp [managerStep, hobj] at hstep
      | some object =>
          have hs' : s' = { s with object := object } := by
            cases a with
            | initializeRpc req => exact absurd rfl (ha req)
            | _ => simpa [managerStep, hobj] using hstep.symm
          rw [hs']
          exact h.object ha hobj

/-- The invariant holds along every guarded run. -/
theorem createInv_reaches {s : Manager}
    (h : (managerSystem config target).Reaches (CreateSafe target) s) :
    CreateInv target s := by
  refine System.Reaches.invariant (P := CreateInv target) ?_ ?_ h
  · rintro s rfl
    exact createInv_init
  · intro s a s' _ hinv hsafe hstep
    exact createInv_step hinv hsafe hstep

end Manager

open Manager

/-- In every run in which the KV answers no lookup of a `createActor` with
nothing while another caller creates, the actor is created once. -/
theorem createOnce_of_safe {s : Manager}
    (h : (managerSystem config target).Reaches (CreateSafe target) s) :
    s.CreateOnce := by
  have hinv := createInv_reaches h
  refine ⟨?_, ?_, ?_, ?_⟩
  · intro i hi j hj
    have hij : i = j := by
      obtain ⟨m, hm⟩ := List.mem_iff_getElem?.mp hi
      obtain ⟨n, hn⟩ := List.mem_iff_getElem?.mp hj
      obtain ⟨hm', _⟩ := List.getElem?_eq_some_iff.mp hm
      obtain ⟨hn', _⟩ := List.getElem?_eq_some_iff.mp hn
      have hone := hinv.one_init
      have hmn : m = n := by omega
      subst hmn
      rw [hm] at hn
      injection hn
    rw [hij]
  · intro i hi changes hfound
    rw [hinv.found_none i hi] at hfound
    cases hfound
  · intro c c' o o' hc hc'
    exact hinv.one_past c c' _ _ hc rfl hc' rfl
  · intro c c' pc pc' o o' hc ho hc' ho'
    rw [hinv.id_eq c pc o hc ho, hinv.id_eq c' pc' o' hc' ho']

/-- The actor `counter` with an empty key. -/
def counterTarget : Target := ⟨id, "counter", []⟩

/-- `createActor` from its lookup to the end, as the caller `c` whose
invocation of the object is `t`. -/
def createToEnd (c t : Nat) : List ManagerStep :=
  [.serve c, .resume c true, .resume c true, .object (.resume t true),
    .object (.resume t true), .object (.resume t true),
    .object (.resume t true), .object (.resume t true),
    .object (.resume t true), .object (.resume t true), .resume c true,
    .serve c, .resume c true, .serve c, .resume c true]

/-- One caller creates the actor, and the next one is given the same. -/
theorem createOnce_of_safe_createThenGet :
    ∃ s : Manager,
      (managerSystem ⟨["counter"]⟩ counterTarget).run {}
          (.createActor (.num (.ofInt 1)) :: createToEnd 0 0
            ++ [.getOrCreateWithKey (.num (.ofInt 2)), .serve 1,
              .resume 1 true, .serve 1, .resume 1 true])
        = some s
      ∧ s.pc? 0 = some (.created ⟨"counter:(none)", "counter", []⟩)
      ∧ s.pc? 1 = some (.found ⟨"counter:(none)", "counter", []⟩)
      ∧ s.CreateOnce := by
  refine ⟨_, rfl, by decide, by decide,
    @createOnce_of_safe ⟨["counter"]⟩ counterTarget _ ?_⟩
  refine System.Reaches.run (.createActor (.num (.ofInt 1))
    :: createToEnd 0 0 ++ [.getOrCreateWithKey (.num (.ofInt 2)), .serve 1,
      .resume 1 true, .serve 1, .resume 1 true]) (.init rfl) ?_ rfl
  decide

/-- Two callers look the actor up, and the KV answers both before either
has created it. The second `initialize` comes after the actor wrote its
record, and resets it; both succeed. -/
theorem createOnce_fails :
    ¬ ∀ s : Manager,
      (managerSystem ⟨["counter"]⟩ counterTarget).Reachable s →
        s.CreateOnce := by
  intro hall
  have honce := hall _ (System.Reachable.run
    (.getOrCreateWithKey (.num (.ofInt 1))
      :: .getOrCreateWithKey (.num (.ofInt 2)) :: .serve 0 :: .serve 1
      :: .resume 0 true :: .resume 1 true :: .serve 1 :: createToEnd 0 0
      ++ [.resume 1 true, .resume 1 true, .object (.resume 1 true),
        .object (.resume 1 true), .resume 1 true, .serve 1, .resume 1 true,
        .serve 1, .resume 1 true])
    (.init rfl) rfl)
  have hbad := honce.no_overwrite ⟨_, some (.written [])⟩
    (.tail _ (.head _)) []
  exact hbad rfl

end RivetKit.Cloudflare
