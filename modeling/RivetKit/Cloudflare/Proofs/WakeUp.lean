/-
The initialisation of a Durable Object, by whichever of its entry points
comes first: who waits for it is woken, and a load that fails can be tried
again.

`initialize` marks the object initialised without resolving the promise
that others may be waiting for, and a load that fails leaves what it set:
the promise, or `#actor` (`blocked_after_initialize`). The guard is that
nobody waits when `initialize` gets to its mark, that what is read of an
object that is not initialised is a record, and that the actor's own load
does not fail (`InitSafe`).

# The invariant

`Admits` says what each place of an invocation relies on, and `WakeInv` that
the driver of `#actor` is loaded or somebody is loading it. A step that
changes no more than `Extends` lets it keeps what the others rely on.
-/
import RivetKit.Cloudflare.Proofs.SingleInstance

namespace RivetKit.Cloudflare

open Transition
open Actor
open Js

variable {config : RegistryConfig}

/-- A record as `initialize` stores it. -/
def Storage.IsRecord (res : Storage) : Prop :=
  res.data ≠ none ∧ (∃ name, res.name = some name ∧ name ≠ "")
    ∧ res.key ≠ none

namespace DurableObject

-- ================================================ statement vocabulary

/-- While the object is marked initialised, nobody awaits a promise that
is not resolved. -/
def WakesUp (s : DurableObject) : Prop :=
  s.initialized ≠ none → ∀ task ∈ s.tasks, task.pc = .awaitInitialized →
    s.initializedPromise = some .resolved

/-- The actor of the driver `d` is loaded, or being loaded. -/
def Alive (s : DurableObject) (d : Nat) : Prop :=
  (∃ handler : ActorHandler, s.drivers[d]? = some (some handler)
      ∧ handler.actorPromise = .resolved)
    ∨ ∃ (j : Nat) (task : Task) (pc : DriverPc), s.tasks[j]? = some task
      ∧ task.pc = .loading d pc ∧ pc.starts = true

/-- Where the next call gets to up to its first `await`. -/
def nextCall (s : DurableObject) : Option TaskPc :=
  ((s.invoke .fetch).tasks[s.tasks.length]?).map (·.pc)

/-- The next call reads the storage or loads the actor, or gets one whose
load has not failed. -/
def TriesAgain (s : DurableObject) : Prop :=
  ∃ pc, s.nextCall = some pc
    ∧ match pc with
      | .getStorage _ => True
      | .loading _ _ => True
      | .loaded d => s.Alive d
      | _ => False

/-- The step is the end of a load that failed. -/
def LoadFails (s : DurableObject) (a : ObjectStep) (s' : DurableObject) :
    Prop :=
  ∃ t ok task task', a = .resume t ok ∧ s.tasks[t]? = some task
    ∧ ((∃ res, task.pc = .getStorage res)
      ∨ ∃ d pc, task.pc = .loading d pc)
    ∧ s'.tasks[t]? = some task' ∧ task'.pc = .threw

/-- The steps that reach neither defect. -/
def InitSafe (config : RegistryConfig) (s : DurableObject) :
    ObjectStep → Prop
  | .resume t ok =>
      match s.tasks[t]? with
      | some ⟨.initializeRpc _, .putStorage⟩ =>
          ok = true → s.initializedPromise = some .pending →
            ∀ task ∈ s.tasks, task.pc ≠ .awaitInitialized
      | some ⟨_, .getStorage res⟩ =>
          s.initialized ≠ none ∨ (ok = true ∧ res.IsRecord)
      | some ⟨_, .loading d pc⟩ =>
          ∀ s₁, s.driverResume config d pc ok ≠ some (s₁, .throws)
      | _ => True
  | _ => True

-- ======================================================= the invariant

/-- The driver has a handler. -/
def HasHandler (s : DurableObject) (d : Nat) : Prop :=
  ∃ handler : ActorHandler, s.drivers[d]? = some (some handler)

/-- Waiting for the initialisation is not in vain. -/
def Waits (s : DurableObject) : Prop :=
  s.initializedPromise ≠ none
    ∧ (s.initialized ≠ none → s.initializedPromise = some .resolved)

/-- What an invocation relies on where it is. -/
def Admits (s : DurableObject) : TaskPc → Prop
  | .awaitInitialized => s.Waits
  | .loading d _ => s.HasHandler d
  | .loaded d => s.HasHandler d
  | .serving d pc =>
      d < s.drivers.length ∧ (pc.starts = true → s.actor ≠ some d)
  | _ => True

/-- The invariant of the guarded runs. -/
structure WakeInv (s : DurableObject) : Prop where
  admits : ∀ task ∈ s.tasks, s.Admits task.pc
  marked : s.initializedPromise = some .resolved → s.initialized ≠ none
  alive : ∀ d, s.actor = some d → s.Alive d

/-- The driver of `#actor` has a handler. -/
theorem WakeInv.handler {s : DurableObject} (h : WakeInv s) {d : Nat}
    (hd : s.actor = some d) : s.HasHandler d := by
  rcases h.alive d hd with ⟨handler, hdriver, -⟩ | ⟨j, task, pc, hj, hpc, -⟩
  · exact ⟨handler, hdriver⟩
  · have hadmits := h.admits task (List.mem_of_getElem? hj)
    rw [hpc] at hadmits
    exact hadmits

theorem HasHandler.lt {s : DurableObject} {d : Nat}
    (h : s.HasHandler d) : d < s.drivers.length := by
  obtain ⟨handler, hdriver⟩ := h
  exact (List.getElem?_eq_some_iff.1 hdriver).1

/-- It is a part of the invariant. -/
theorem WakeInv.wakesUp {s : DurableObject} (h : WakeInv s) :
    s.WakesUp := by
  intro hinitialized task htask hpc
  have hadmits := h.admits task htask
  rw [hpc] at hadmits
  exact hadmits.2 hinitialized

/-- What a step may change without taking from others what they rely
on. -/
structure Extends (s s' : DurableObject) : Prop where
  waits : s.Waits → s'.Waits
  handlers : ∀ d, s.HasHandler d → s'.HasHandler d
  length : s.drivers.length ≤ s'.drivers.length
  actor : ∀ d, d < s.drivers.length → s'.actor = some d →
    s.actor = some d

theorem Extends.admits {s s' : DurableObject} (h : Extends s s')
    {pc : TaskPc} (hpc : s.Admits pc) : s'.Admits pc := by
  cases pc with
  | awaitInitialized => exact h.waits hpc
  | loading d pc => exact h.handlers d hpc
  | loaded d => exact h.handlers d hpc
  | serving d pc =>
      exact ⟨Nat.lt_of_lt_of_le hpc.1 h.length, fun hstarts hactor =>
        hpc.2 hstarts (h.actor d hpc.1 hactor)⟩
  | putStorage => trivial
  | getStorage res => trivial
  | done => trivial
  | threw => trivial

/-- The fields that others rely on are as they were. -/
theorem Extends.of_eq {s s' : DurableObject}
    (hinitialized : s'.initialized = s.initialized)
    (hpromise : s'.initializedPromise = s.initializedPromise)
    (hactor : s'.actor = s.actor) (hdrivers : s'.drivers = s.drivers) :
    Extends s s' where
  waits := by
    unfold Waits
    rw [hinitialized, hpromise]
    exact id
  handlers := by
    unfold HasHandler
    rw [hdrivers]
    exact fun _ => id
  length := Nat.le_of_eq (congrArg List.length hdrivers.symm)
  actor := by
    rw [hactor]
    exact fun _ _ => id

-- ================================================= moving an invocation

theorem getElem?_setPc (s : DurableObject) (t j : Nat) (pc : TaskPc) :
    (s.setPc t pc).tasks[j]?
      = if t = j then s.tasks[j]?.map fun task => { task with pc := pc }
        else s.tasks[j]? := by
  unfold setPc
  rw [List.getElem?_modify]
  split <;> simp

/-- A loader of the driver `d` is the invocation `t` or stays one. -/
theorem Alive.setPc {s : DurableObject} {d t : Nat} (h : s.Alive d)
    {task : Task} (ht : s.tasks[t]? = some task) (pc : TaskPc)
    (hpc : (∃ p, task.pc = .loading d p) →
      (∃ handler : ActorHandler, s.drivers[d]? = some (some handler)
        ∧ handler.actorPromise = .resolved)
      ∨ ∃ p, pc = .loading d p ∧ p.starts = true) :
    (s.setPc t pc).Alive d := by
  rcases h with hresolved | ⟨j, loader, p, hj, hloader, hstarts⟩
  · exact .inl hresolved
  · by_cases htj : t = j
    · subst htj
      obtain rfl := Option.some.inj (ht.symm.trans hj)
      rcases hpc ⟨p, hloader⟩ with hresolved | ⟨p', hpc, hstarts'⟩
      · exact .inl hresolved
      · refine .inr ⟨t, { task with pc := pc }, p', ?_, hpc, hstarts'⟩
        rw [getElem?_setPc, if_pos rfl, ht]
        rfl
    · refine .inr ⟨j, loader, p, ?_, hloader, hstarts⟩
      rw [getElem?_setPc, if_neg htj]
      exact hj

/-- An invocation moves on. -/
theorem WakeInv.setPc {s : DurableObject} (h : WakeInv s) {t : Nat}
    {task : Task} (ht : s.tasks[t]? = some task) {pc : TaskPc}
    (hpc : s.Admits pc) (hold : ∀ d p, task.pc ≠ .loading d p) :
    WakeInv (s.setPc t pc) where
  admits := by
    intro other hother
    obtain ⟨j, hj⟩ := List.mem_iff_getElem?.1 hother
    have hkeep : Extends s (s.setPc t pc) := .of_eq rfl rfl rfl rfl
    apply hkeep.admits
    rw [getElem?_setPc] at hj
    split at hj
    · obtain ⟨old, -, hnew⟩ := Option.map_eq_some_iff.1 hj
      rw [← hnew]
      exact hpc
    · exact h.admits other (List.mem_of_getElem? hj)
  marked := h.marked
  alive := fun d hd =>
    (h.alive d hd).setPc ht pc fun ⟨p, hp⟩ => absurd hp (hold d p)

/-- Another invocation. -/
theorem WakeInv.pushTask {s : DurableObject} (h : WakeInv s) (task : Task)
    (hpc : s.Admits task.pc) :
    WakeInv { s with tasks := s.tasks ++ [task] } where
  admits := by
    have hkeep : Extends s { s with tasks := s.tasks ++ [task] } :=
      .of_eq rfl rfl rfl rfl
    intro other hother
    apply hkeep.admits
    rcases List.mem_append.1 hother with hother | hother
    · exact h.admits other hother
    · rw [List.mem_singleton.1 hother]
      exact hpc
  marked := h.marked
  alive := by
    intro d hd
    rcases h.alive d hd with hresolved | ⟨j, loader, p, hj, hloader⟩
    · exact .inl hresolved
    · refine .inr ⟨j, loader, p, ?_, hloader⟩
      show (s.tasks ++ [task])[j]? = some loader
      rw [List.getElem?_append_left (List.getElem?_eq_some_iff.1 hj).1]
      exact hj

-- ============================================================ #loadActor

/-- Who comes first makes the driver. -/
theorem afterInitialized_first {s : DurableObject} (t : Nat)
    (hactor : s.actor = none) (hinitialized : s.initialized ≠ none) :
    s.afterInitialized t
      = { s with
          drivers := s.drivers ++ [some (ActorHandler.mk none .pending)]
          actor := some s.drivers.length }.setPc t
            (.loading s.drivers.length .awaitMetadata) := by
  have hmarked : s.initialized.isNone = false := by
    cases hs : s.initialized with
    | none => exact absurd hs hinitialized
    | some data => rfl
  have hlast : (s.drivers ++ [none])[s.drivers.length]?
      = some (none : Option ActorHandler) := List.getElem?_concat_length
  unfold afterInitialized driverLoadActor
  rw [hactor, hmarked]
  simp only [Bool.false_eq_true, if_false, hlast]
  rw [List.set_append_right _ _ (Nat.le_refl _), Nat.sub_self]
  rfl

/-- Another driver, at the end. -/
theorem Extends.pushDriver (s : DurableObject) (tasks : List Task)
    (handler : Option ActorHandler) (actor : Option Nat)
    (hactor : actor = s.actor ∨ actor = some s.drivers.length) :
    Extends s { s with
      tasks := tasks
      drivers := s.drivers ++ [handler]
      actor := actor } where
  waits := id
  handlers := by
    rintro d ⟨old, hold⟩
    refine ⟨old, ?_⟩
    show (s.drivers ++ [handler])[d]? = _
    rw [List.getElem?_append_left (List.getElem?_eq_some_iff.1 hold).1]
    exact hold
  length := by
    show _ ≤ (s.drivers ++ [handler]).length
    rw [List.length_append]
    omega
  actor := by
    intro d hd hsome
    rcases hactor with rfl | rfl
    · exact hsome
    · injection hsome with hsome
      omega

/-- `#loadActor` behind its wait. -/
theorem WakeInv.afterInitialized {s : DurableObject} (h : WakeInv s)
    {t : Nat} {task : Task} (ht : s.tasks[t]? = some task)
    (hold : ∀ d p, task.pc ≠ .loading d p) :
    WakeInv (s.afterInitialized t) := by
  cases hactor : s.actor with
  | some d =>
      unfold DurableObject.afterInitialized
      rw [hactor]
      exact h.setPc ht (h.handler hactor) hold
  | none =>
      by_cases hinitialized : s.initialized = none
      · unfold DurableObject.afterInitialized
        rw [hactor, hinitialized]
        exact h.setPc ht trivial hold
      · rw [afterInitialized_first t hactor hinitialized]
        have hkeep := Extends.pushDriver s
          (s.setPc t (.loading s.drivers.length .awaitMetadata)).tasks
          (some (ActorHandler.mk none .pending)) (some s.drivers.length)
          (.inr rfl)
        have hlast : (s.drivers ++ [some (ActorHandler.mk none .pending)])[
            s.drivers.length]? = some (some (.mk none .pending)) :=
          List.getElem?_concat_length
        refine ⟨?_, h.marked, ?_⟩
        · intro other hother
          obtain ⟨j, hj⟩ := List.mem_iff_getElem?.1 hother
          replace hj : (s.setPc t _).tasks[j]? = some other := hj
          rw [getElem?_setPc] at hj
          split at hj
          · obtain ⟨old, -, hnew⟩ := Option.map_eq_some_iff.1 hj
            rw [← hnew]
            exact ⟨_, hlast⟩
          · exact hkeep.admits (h.admits other (List.mem_of_getElem? hj))
        · intro d hd
          obtain rfl : s.drivers.length = d := Option.some.inj hd
          refine .inr ⟨t, { task with
            pc := .loading s.drivers.length .awaitMetadata }, _, ?_, rfl, rfl⟩
          show (s.setPc t _).tasks[t]? = _
          rw [getElem?_setPc, if_pos rfl, ht]
          rfl

/-- `#loadActor`. -/
theorem WakeInv.loadActor {s : DurableObject} (h : WakeInv s) {t : Nat}
    {task : Task} (ht : s.tasks[t]? = some task)
    (hold : ∀ d p, task.pc ≠ .loading d p) : WakeInv (s.loadActor t) := by
  unfold DurableObject.loadActor
  split
  · rename_i hnone
    have hinitialized : s.initialized = none := Option.isNone_iff_eq_none.1
      hnone
    split
    · rename_i promise hpromise
      refine h.setPc ht ⟨?_, fun hne => absurd hinitialized hne⟩ hold
      rw [hpromise]
      exact Option.some_ne_none _
    · rename_i hpromise
      have hkeep : Extends s
          { s with initializedPromise := some .pending } :=
        ⟨fun hwaits => absurd hpromise hwaits.1, fun _ => id,
          Nat.le_refl _, fun _ _ => id⟩
      have hnew : WakeInv { s with initializedPromise := some .pending } :=
        ⟨fun other hother => hkeep.admits (h.admits other hother),
          fun hne => absurd hne (by simp), h.alive⟩
      exact @WakeInv.setPc _ hnew t task ht (.getStorage s.storage) trivial
        hold
  · exact h.afterInitialized ht hold

/-- Its storage read is back. -/
theorem WakeInv.afterGetStorage {s : DurableObject} (h : WakeInv s)
    {t : Nat} {task : Task} (ht : s.tasks[t]? = some task)
    (hold : ∀ d p, task.pc ≠ .loading d p) (res : Storage) :
    WakeInv (s.afterGetStorage t res) := by
  unfold DurableObject.afterGetStorage
  split
  · split
    · rename_i name key _ _
      split
      · refine WakeInv.afterInitialized ?_ ht hold
        have hkeep : Extends s { s with
            initialized := some ⟨name, key⟩
            initializedPromise := some .resolved } :=
          ⟨fun _ => ⟨Option.some_ne_none _, fun _ => rfl⟩, fun _ => id,
            Nat.le_refl _, fun _ _ => id⟩
        exact ⟨fun other hother => hkeep.admits (h.admits other hother),
          fun _ => Option.some_ne_none _, h.alive⟩
      · exact h.setPc ht trivial hold
    · exact h.setPc ht trivial hold
  · exact h.afterInitialized ht hold

-- ====================================================== the actor driver

/-- What a stretch of the `loadActor` of the driver `d` does to the
object. -/
structure DriverFrame (s s' : DurableObject) (d : Nat) (pc : DriverPc)
    (result : DriverResult) : Prop where
  tasks : s'.tasks = s.tasks
  initialized : s'.initialized = s.initialized
  promise : s'.initializedPromise = s.initializedPromise
  actor : s'.actor = s.actor
  length : s'.drivers.length = s.drivers.length
  others : ∀ d', d' ≠ d → s'.drivers[d']? = s.drivers[d']?
  handler : s.HasHandler d → s'.HasHandler d
  kept : pc.starts = false → s'.drivers = s.drivers
  awaits : ∀ pc', result = .awaits pc' →
    pc.starts = true ∧ pc'.starts = true
  returns : ∀ i, result = .returns i → s.HasHandler d →
    ∃ handler : ActorHandler, s'.drivers[d]? = some (some handler)
      ∧ handler.actorPromise = .resolved

/-- The drivers are as they were. -/
theorem DriverFrame.of_eq {s s' : DurableObject} {d : Nat} {pc : DriverPc}
    {result : DriverResult} (htasks : s'.tasks = s.tasks)
    (hinitialized : s'.initialized = s.initialized)
    (hpromise : s'.initializedPromise = s.initializedPromise)
    (hactor : s'.actor = s.actor) (hdrivers : s'.drivers = s.drivers)
    (hawaits : ∀ pc', result = .awaits pc' →
      pc.starts = true ∧ pc'.starts = true)
    (hreturns : ∀ i, result = .returns i →
      ∃ handler : ActorHandler, s.drivers[d]? = some (some handler)
        ∧ handler.actorPromise = .resolved) :
    DriverFrame s s' d pc result where
  tasks := htasks
  initialized := hinitialized
  promise := hpromise
  actor := hactor
  length := by rw [hdrivers]
  others := fun _ _ => by rw [hdrivers]
  handler := by
    unfold HasHandler
    rw [hdrivers]
    exact id
  kept := fun _ => hdrivers
  awaits := hawaits
  returns := by
    rw [hdrivers]
    exact fun i hi _ => hreturns i hi

/-- The driver `d` has another handler. -/
theorem DriverFrame.of_set {s s' : DurableObject} {d : Nat} {pc : DriverPc}
    {result : DriverResult} {handler : ActorHandler}
    (htasks : s'.tasks = s.tasks)
    (hinitialized : s'.initialized = s.initialized)
    (hpromise : s'.initializedPromise = s.initializedPromise)
    (hactor : s'.actor = s.actor)
    (hdrivers : s'.drivers = s.drivers.set d (some handler))
    (hpc : pc.starts = true)
    (hawaits : ∀ pc', result = .awaits pc' → pc'.starts = true)
    (hreturns : ∀ i, result = .returns i →
      handler.actorPromise = .resolved) :
    DriverFrame s s' d pc result where
  tasks := htasks
  initialized := hinitialized
  promise := hpromise
  actor := hactor
  length := by rw [hdrivers, List.length_set]
  others := fun d' hd' => by
    rw [hdrivers, List.getElem?_set_ne (Ne.symm hd')]
  handler := fun h => by
    refine ⟨handler, ?_⟩
    rw [hdrivers, List.getElem?_set_self h.lt]
  kept := fun hnot => absurd (hpc.symm.trans hnot) (by simp)
  awaits := fun pc' h => ⟨hpc, hawaits pc' h⟩
  returns := fun i hi h => by
    refine ⟨handler, ?_, hreturns i hi⟩
    rw [hdrivers, List.getElem?_set_self h.lt]

/-- A stretch of the driver's `loadActor`. -/
theorem driverFrame {s s' : DurableObject} {d : Nat} {pc : DriverPc}
    {ok : Bool} {result : DriverResult}
    (h : s.driverResume config d pc ok = some (s', result)) :
    DriverFrame s s' d pc result := by
  unfold driverResume at h
  cases pc with
  | awaitHandler =>
      dsimp only at h
      split at h
      · rename_i actor hdriver
        cases h
        exact .of_eq rfl rfl rfl rfl rfl (fun _ hr => nomatch hr)
          fun _ _ => ⟨_, hdriver, rfl⟩
      · cases h
        exact .of_eq rfl rfl rfl rfl rfl (fun _ hr => nomatch hr)
          fun _ hr => nomatch hr
      · cases h
  | awaitMetadata =>
      dsimp only at h
      split at h
      · split at h
        · cases h
          exact .of_set rfl rfl rfl rfl rfl rfl
            (fun _ hr => by cases hr; rfl) fun _ hr => nomatch hr
        · cases h
          exact .of_eq rfl rfl rfl rfl rfl (fun _ hr => nomatch hr)
            fun _ hr => nomatch hr
      · cases h
        exact .of_eq rfl rfl rfl rfl rfl (fun _ hr => nomatch hr)
          fun _ hr => nomatch hr
  | awaitRead i =>
      dsimp only at h
      split at h
      · split at h
        · cases h
          exact .of_eq rfl rfl rfl rfl rfl (fun _ hr => nomatch hr)
            fun _ hr => nomatch hr
        · cases h
          exact .of_eq rfl rfl rfl rfl rfl
            (fun _ hr => by cases hr; exact ⟨rfl, rfl⟩)
            fun _ hr => nomatch hr
        · cases h
          exact .of_eq rfl rfl rfl rfl rfl
            (fun _ hr => by cases hr; exact ⟨rfl, rfl⟩)
            fun _ hr => nomatch hr
      · cases h
        exact .of_eq rfl rfl rfl rfl rfl (fun _ hr => nomatch hr)
          fun _ hr => nomatch hr
  | awaitState i =>
      dsimp only at h
      split at h
      · cases h
        exact .of_eq rfl rfl rfl rfl rfl
          (fun _ hr => by cases hr; exact ⟨rfl, rfl⟩)
          fun _ hr => nomatch hr
      · cases h
        exact .of_eq rfl rfl rfl rfl rfl (fun _ hr => nomatch hr)
          fun _ hr => nomatch hr
  | awaitWrite i =>
      dsimp only at h
      split at h
      · cases h
        exact .of_eq rfl rfl rfl rfl rfl
          (fun _ hr => by cases hr; exact ⟨rfl, rfl⟩)
          fun _ hr => nomatch hr
      · cases h
        exact .of_eq rfl rfl rfl rfl rfl (fun _ hr => nomatch hr)
          fun _ hr => nomatch hr
  | awaitHooks i =>
      dsimp only at h
      split at h
      · cases h
        exact .of_set rfl rfl rfl rfl rfl rfl (fun _ hr => nomatch hr)
          fun _ _ => rfl
      · cases h
        exact .of_eq rfl rfl rfl rfl rfl (fun _ hr => nomatch hr)
          fun _ hr => nomatch hr

theorem DriverFrame.extends {s s' : DurableObject} {d : Nat}
    {pc : DriverPc} {result : DriverResult}
    (h : DriverFrame s s' d pc result) : Extends s s' where
  waits := by
    unfold Waits
    rw [h.initialized, h.promise]
    exact id
  handlers := by
    intro d' hd'
    by_cases hsame : d' = d
    · rw [hsame] at hd' ⊢
      exact h.handler hd'
    · unfold HasHandler
      rw [h.others d' hsame]
      exact hd'
  length := Nat.le_of_eq h.length.symm
  actor := by
    rw [h.actor]
    exact fun _ _ => id

/-- The invocation `t` had a stretch of the driver `d`, and is at `pc'`
now: it goes on loading `d` if it did, unless `d` has a resolved
handler. -/
theorem WakeInv.driverStep {s s₁ : DurableObject} (h : WakeInv s) {t : Nat}
    {task : Task} (ht : s.tasks[t]? = some task) {d : Nat} {pc : DriverPc}
    {result : DriverResult} (hframe : DriverFrame s s₁ d pc result)
    {pc' : TaskPc} (hadmits : s₁.Admits pc')
    (halive : s.actor = some d →
      (task.pc = .loading d pc ∧
        ((∃ handler : ActorHandler, s₁.drivers[d]? = some (some handler)
            ∧ handler.actorPromise = .resolved)
          ∨ ∃ p, pc' = .loading d p ∧ p.starts = true))
      ∨ (pc.starts = false ∧ ∀ d p, task.pc ≠ .loading d p))
    (hown : ∀ d' p, task.pc = .loading d' p → d' = d) :
    WakeInv (s₁.setPc t pc') := by
  have ht₁ : s₁.tasks[t]? = some task := by
    rw [hframe.tasks]
    exact ht
  refine ⟨?_, ?_, ?_⟩
  · intro other hother
    have hkeep : Extends s₁ (s₁.setPc t pc') := .of_eq rfl rfl rfl rfl
    obtain ⟨j, hj⟩ := List.mem_iff_getElem?.1 hother
    apply hkeep.admits
    rw [getElem?_setPc] at hj
    split at hj
    · obtain ⟨old, -, hnew⟩ := Option.map_eq_some_iff.1 hj
      rw [← hnew]
      exact hadmits
    · rw [hframe.tasks] at hj
      exact hframe.extends.admits (h.admits other (List.mem_of_getElem? hj))
  · show s₁.initializedPromise = _ → s₁.initialized ≠ none
    rw [hframe.promise, hframe.initialized]
    exact h.marked
  · intro d' hd'
    replace hd' : s.actor = some d' := hframe.actor.symm.trans hd'
    have hold := h.alive d' hd'
    by_cases hsame : d' = d
    · subst hsame
      rcases halive hd' with ⟨-, hnew⟩ | ⟨hkept, hnot⟩
      · rcases hnew with hresolved | ⟨p, hp, hstarts⟩
        · exact .inl hresolved
        · refine .inr ⟨t, { task with pc := pc' }, p, ?_, hp, hstarts⟩
          rw [getElem?_setPc, if_pos rfl, ht₁]
          rfl
      · have hold₁ : s₁.Alive d' := by
          unfold Alive
          rw [hframe.kept hkept, hframe.tasks]
          exact hold
        exact hold₁.setPc ht₁ pc' fun ⟨p, hp⟩ => absurd hp (hnot d' p)
    · have hold₁ : s₁.Alive d' := by
        unfold Alive
        rw [hframe.others d' hsame, hframe.tasks]
        exact hold
      exact hold₁.setPc ht₁ pc' fun ⟨p, hp⟩ => absurd (hown d' p hp) hsame

-- ================================================================ the steps

/-- Behind the `#loadActor` of an invocation. -/
theorem WakeInv.afterLoaded {s : DurableObject} (h : WakeInv s) {t : Nat}
    {task : Task} {d : Nat} (ht : s.tasks[t]? = some task)
    (hpc : task.pc = .loaded d) (invocation : Invocation) :
    WakeInv (s.afterLoaded t d invocation) := by
  have hold : ∀ d p, task.pc ≠ .loading d p := by
    rw [hpc]
    exact fun _ _ heq => nomatch heq
  have hadmits := h.admits task (List.mem_of_getElem? ht)
  rw [hpc] at hadmits
  cases invocation with
  | initializeRpc req => exact h.setPc ht trivial hold
  | fetch =>
      obtain ⟨handler, hdriver⟩ := hadmits
      have hawait : s.driverLoadActor d = (s, .awaitHandler) := by
        unfold driverLoadActor
        rw [hdriver]
      unfold DurableObject.afterLoaded
      dsimp only
      rw [hawait]
      have hlt : d < s.drivers.length := HasHandler.lt ⟨handler, hdriver⟩
      exact h.setPc ht ⟨hlt, fun hstarts => nomatch hstarts⟩ hold
  | alarm =>
      have hlast : (s.drivers ++ [none])[s.drivers.length]?
          = some (none : Option ActorHandler) := List.getElem?_concat_length
      have hnew : s.afterLoaded t d .alarm
          = { s with drivers := s.drivers
                ++ [some (ActorHandler.mk none .pending)] }.setPc t
              (.serving s.drivers.length .awaitMetadata) := by
        unfold DurableObject.afterLoaded driverLoadActor
        dsimp only
        rw [hlast]
        dsimp only
        rw [List.set_append_right _ _ (Nat.le_refl _), Nat.sub_self]
        rfl
      have hkeep := Extends.pushDriver s s.tasks
        (some (ActorHandler.mk none .pending)) s.actor (.inl rfl)
      have hpush : WakeInv { s with drivers := s.drivers
          ++ [some (ActorHandler.mk none .pending)] } := by
        refine ⟨fun other hother => hkeep.admits (h.admits other hother),
          h.marked, ?_⟩
        intro d' hd'
        rcases h.alive d' hd' with ⟨handler, hdriver, hresolved⟩ | hloader
        · refine .inl ⟨handler, ?_, hresolved⟩
          show (s.drivers ++ [some (ActorHandler.mk none .pending)])[d']? = _
          rw [List.getElem?_append_left
            (List.getElem?_eq_some_iff.1 hdriver).1]
          exact hdriver
        · exact .inr hloader
      rw [hnew]
      refine @WakeInv.setPc _ hpush t task ht
        (.serving s.drivers.length .awaitMetadata) ⟨?_, ?_⟩ hold
      · show _ < (s.drivers ++ [_]).length
        rw [List.length_append, List.length_singleton]
        exact Nat.lt_succ_self _
      · intro _ hactor
        exact Nat.lt_irrefl _ (h.handler hactor).lt

/-- Who is marked initialised has nobody waiting in vain. -/
theorem WakeInv.mark {s : DurableObject} (h : WakeInv s)
    (hsafe : s.initializedPromise = some .pending →
      ∀ task ∈ s.tasks, task.pc ≠ .awaitInitialized)
    (data : InitializedData) :
    WakeInv { s with initialized := some data } := by
  refine ⟨?_, fun _ => Option.some_ne_none _, h.alive⟩
  intro other hother
  have hadmits := h.admits other hother
  cases hpc : other.pc with
  | awaitInitialized =>
      rw [hpc] at hadmits
      refine ⟨hadmits.1, fun _ => ?_⟩
      cases hpromise : s.initializedPromise with
      | none => exact absurd hpromise hadmits.1
      | some promise =>
          cases promise with
          | pending => exact absurd hpc (hsafe hpromise other hother)
          | resolved => rfl
  | putStorage => trivial
  | getStorage res => trivial
  | loading d p =>
      rw [hpc] at hadmits
      exact hadmits
  | loaded d =>
      rw [hpc] at hadmits
      exact hadmits
  | serving d p =>
      rw [hpc] at hadmits
      exact hadmits
  | done => trivial
  | threw => trivial

/-- An invocation that loads the actor has had a stretch of its
driver. -/
theorem WakeInv.loading {s s₁ : DurableObject} (h : WakeInv s) {t : Nat}
    {invocation : Invocation} {d : Nat} {pc : DriverPc}
    {result : DriverResult}
    (ht : s.tasks[t]? = some ⟨invocation, .loading d pc⟩)
    (hframe : DriverFrame s s₁ d pc result) (hsafe : result ≠ .throws) :
    WakeInv (s₁.setPc t (afterLoading d result)) := by
  have hold : s.HasHandler d :=
    h.admits _ (List.mem_of_getElem? ht)
  have hhandler := hframe.handler hold
  have hown : ∀ d' p, TaskPc.loading d pc = .loading d' p → d' = d := by
    intro d' p heq
    injection heq with heq _
    exact heq.symm
  cases result with
  | awaits pc' =>
      exact h.driverStep ht hframe hhandler
        (fun _ => .inl ⟨rfl, .inr ⟨pc', rfl, (hframe.awaits pc' rfl).2⟩⟩)
        hown
  | returns i =>
      exact h.driverStep ht hframe hhandler
        (fun _ => .inl ⟨rfl, .inl (hframe.returns i rfl hold)⟩) hown
  | throws => exact absurd rfl hsafe

/-- An invocation that is being served has had a stretch of its driver,
and is not loading one. -/
theorem WakeInv.serving {s s₁ : DurableObject} (h : WakeInv s) {t : Nat}
    {invocation : Invocation} {d : Nat} {pc : DriverPc}
    {result : DriverResult}
    (ht : s.tasks[t]? = some ⟨invocation, .serving d pc⟩)
    (hframe : DriverFrame s s₁ d pc result) {pc' : TaskPc}
    (hpc' : s₁.Admits pc') : WakeInv (s₁.setPc t pc') := by
  have hadmits : s.Admits (.serving d pc) :=
    h.admits _ (List.mem_of_getElem? ht)
  have hnot : ∀ d' p, TaskPc.serving d pc ≠ .loading d' p :=
    fun _ _ heq => nomatch heq
  apply h.driverStep ht hframe hpc'
  · intro hactor
    refine .inr ⟨?_, hnot⟩
    rw [Bool.eq_false_iff]
    exact fun hstarts => hadmits.2 hstarts hactor
  · exact fun d' p heq => absurd heq (hnot d' p)

/-- An invocation resumes. -/
theorem WakeInv.resume {s s' : DurableObject} {t : Nat} {ok : Bool}
    (h : WakeInv s) (hsafe : s.InitSafe config (.resume t ok))
    (hs : s.resume config t ok = some s') : WakeInv s' := by
  unfold InitSafe at hsafe
  dsimp only at hsafe
  cases resume_cases hs with
  | initialized req htask hok heq =>
      rw [htask] at hsafe
      rw [heq]
      exact (h.mark (hsafe hok) _).loadActor htask
        fun _ _ heq => nomatch heq
  | afterInitialized invocation htask _ heq =>
      rw [heq]
      exact h.afterInitialized htask fun _ _ heq => nomatch heq
  | afterGetStorage invocation res htask heq =>
      rw [heq]
      exact h.afterGetStorage htask (fun _ _ heq => nomatch heq) res
  | threw invocation pc htask hpc heq =>
      rw [heq]
      refine h.setPc htask trivial ?_
      rcases hpc with rfl | ⟨res, rfl⟩
      · exact fun _ _ heq => nomatch heq
      · exact fun _ _ heq => nomatch heq
  | loading invocation d pc s₁ result htask hres heq =>
      rw [htask] at hsafe
      rw [heq]
      refine h.loading htask (driverFrame hres) ?_
      rintro rfl
      cases invocation with
      | initializeRpc req => exact hsafe s₁ hres
      | fetch => exact hsafe s₁ hres
      | alarm => exact hsafe s₁ hres
  | loaded invocation d htask heq =>
      rw [heq]
      exact h.afterLoaded htask rfl invocation
  | serving invocation d pc pc' s₁ htask hres heq =>
      have hframe := driverFrame hres
      have hadmits : s.Admits (.serving d pc) :=
        h.admits _ (List.mem_of_getElem? htask)
      rw [heq]
      refine h.serving htask hframe ⟨?_, fun _ => ?_⟩
      · rw [hframe.length]
        exact hadmits.1
      · rw [hframe.actor]
        exact hadmits.2 (hframe.awaits pc' rfl).1
  | served invocation d pc s₁ i htask hres heq =>
      have hdone : WakeInv (s₁.setPc t .done) :=
        h.serving htask (driverFrame hres) trivial
      rw [heq]
      exact ⟨hdone.admits, hdone.marked, hdone.alive⟩
  | servingThrew invocation d pc s₁ htask hres heq =>
      rw [heq]
      exact h.serving htask (driverFrame hres) trivial

/-- A guarded step preserves the invariant. -/
theorem wakeInv_step {s s' : DurableObject} {a : ObjectStep}
    (h : WakeInv s) (hsafe : s.InitSafe config a)
    (hstep : objectStep config s a = some s') : WakeInv s' := by
  have hinvoke : ∀ invocation, WakeInv (s.invoke invocation) := by
    intro invocation
    exact (h.pushTask ⟨invocation, .getStorage s.storage⟩ trivial).loadActor
      List.getElem?_concat_length fun _ _ heq => nomatch heq
  cases a with
  | initializeRpc req =>
      rw [← Option.some.inj hstep]
      have hpush := h.pushTask ⟨.initializeRpc req, .putStorage⟩ trivial
      exact ⟨hpush.admits, hpush.marked, hpush.alive⟩
  | fetch =>
      rw [← Option.some.inj hstep]
      exact hinvoke .fetch
  | alarm =>
      rw [← Option.some.inj hstep]
      exact hinvoke .alarm
  | resume t ok => exact h.resume hsafe hstep
  | writePersistedData i =>
      simp only [objectStep, DurableObject.writePersistedData] at hstep
      split at hstep
      · rw [← Option.some.inj hstep]
        exact ⟨h.admits, h.marked, h.alive⟩
      · cases hstep

/-- The invariant holds along every guarded run. -/
theorem wakeInv_reaches {s : DurableObject}
    (h : (objectSystem config).Reaches (InitSafe config) s) :
    WakeInv s := by
  refine System.Reaches.invariant (P := WakeInv) ?_ ?_ h
  · rintro s ⟨storage, rfl⟩
    refine ⟨?_, ?_, ?_⟩
    · intro task hmem
      cases hmem
    · intro hne
      cases hne
    · intro d hd
      cases hd
  · intro s a s' _ hinv hsafe hstep
    exact wakeInv_step hinv hsafe hstep

-- ============================================================= trying again

/-- Where an invocation gets to behind the wait of `#loadActor`. -/
theorem pc_afterInitialized {s : DurableObject} {t : Nat} {task : Task}
    (ht : s.tasks[t]? = some task) (hinitialized : s.initialized ≠ none) :
    ((s.afterInitialized t).tasks[t]?).map (·.pc)
      = match s.actor with
        | some d => some (.loaded d)
        | none => some (.loading s.drivers.length .awaitMetadata) := by
  cases hactor : s.actor with
  | some d =>
      unfold DurableObject.afterInitialized
      rw [hactor]
      dsimp only
      rw [getElem?_setPc, if_pos rfl, ht]
      rfl
  | none =>
      rw [afterInitialized_first t hactor hinitialized, getElem?_setPc,
        if_pos rfl, ht]
      rfl

/-- The next call to an object that is marked initialised. -/
theorem WakeInv.triesAgain {s : DurableObject} (h : WakeInv s)
    (hinitialized : s.initialized ≠ none) : s.TriesAgain := by
  have hmarked : s.initialized.isNone = false := by
    cases hs : s.initialized with
    | none => exact absurd hs hinitialized
    | some data => rfl
  have hinvoke : s.invoke .fetch
      = DurableObject.afterInitialized { s with
          tasks := s.tasks ++ [⟨.fetch, .getStorage s.storage⟩] }
        s.tasks.length := by
    unfold invoke DurableObject.loadActor
    dsimp only
    rw [hmarked]
    rfl
  have hpc : s.nextCall = match s.actor with
      | some d => some (.loaded d)
      | none => some (.loading s.drivers.length .awaitMetadata) := by
    unfold nextCall
    rw [hinvoke]
    exact pc_afterInitialized List.getElem?_concat_length hinitialized
  unfold TriesAgain
  rw [hpc]
  cases hactor : s.actor with
  | some d => exact ⟨_, rfl, h.alive d hactor⟩
  | none => exact ⟨_, rfl, trivial⟩

/-- A stretch of `#loadActor` never takes the mark away. -/
theorem initialized_afterInitialized (s : DurableObject) (t : Nat) :
    (s.afterInitialized t).initialized = s.initialized := by
  unfold DurableObject.afterInitialized
  split
  · rfl
  · split
    · rfl
    · unfold driverLoadActor
      dsimp only
      split <;> rfl

/-- Nor does the storage read, which sets it if it finds a record. -/
theorem initialized_afterGetStorage (s : DurableObject) (t : Nat)
    {res : Storage} (h : s.initialized ≠ none ∨ res.IsRecord) :
    (s.afterGetStorage t res).initialized ≠ none := by
  unfold DurableObject.afterGetStorage
  split
  · split
    · split
      · rw [initialized_afterInitialized]
        exact Option.some_ne_none _
      · rename_i name _ hname _ hempty
        rcases h with h | ⟨-, ⟨name', hname', hne⟩, -⟩
        · exact h
        · rw [hname] at hname'
          rw [Option.some.inj hname'] at hempty
          exact absurd hne hempty
    · rename_i hnone
      rcases h with h | ⟨-, ⟨name, hname, -⟩, hkey⟩
      · exact h
      · obtain ⟨key, hkey⟩ := Option.ne_none_iff_exists'.1 hkey
        exact absurd hkey (hnone name key hname)
  · rename_i hnone
    rcases h with h | ⟨hdata, -⟩
    · rw [initialized_afterInitialized]
      exact h
    · exact absurd hnone hdata

/-- The end of a storage read. -/
theorem resume_getStorage {s : DurableObject} {t : Nat}
    {invocation : Invocation} {res : Storage}
    (h : s.tasks[t]? = some ⟨invocation, .getStorage res⟩) (ok : Bool) :
    s.resume config t ok
      = if ok then some (s.afterGetStorage t res)
        else some (s.setPc t .threw) := by
  unfold DurableObject.resume
  rw [h]
  cases invocation <;> rfl

/-- The end of a stretch of the driver. -/
theorem resume_loading {s s' : DurableObject} {t : Nat} {ok : Bool}
    {invocation : Invocation} {d : Nat} {pc : DriverPc}
    (h : s.tasks[t]? = some ⟨invocation, .loading d pc⟩)
    (hs : s.resume config t ok = some s') :
    ∃ s₁ result, s.driverResume config d pc ok = some (s₁, result)
      ∧ s' = s₁.setPc t (afterLoading d result) := by
  unfold DurableObject.resume at hs
  rw [h] at hs
  cases hres : s.driverResume config d pc ok with
  | none =>
      cases invocation <;> dsimp only at hs <;> rw [hres] at hs <;> cases hs
  | some stretch =>
      obtain ⟨s₁, result⟩ := stretch
      refine ⟨s₁, result, rfl, ?_⟩
      cases invocation <;> dsimp only at hs <;> rw [hres] at hs <;>
        cases result <;> exact (Option.some.inj hs).symm

/-- Behind a guarded step at which a load fails, the object is marked
initialised. -/
theorem initialized_of_loadFails {s s' : DurableObject} {a : ObjectStep}
    (hsafe : s.InitSafe config a)
    (hstep : objectStep config s a = some s') (h : s.LoadFails a s') :
    s'.initialized ≠ none := by
  obtain ⟨t, ok, ⟨invocation, pc⟩, task', rfl, htask, hpc, htask', hthrew⟩ :=
    h
  replace hstep : s.resume config t ok = some s' := hstep
  unfold InitSafe at hsafe
  dsimp only at hsafe
  rw [htask] at hsafe
  rcases hpc with ⟨res, hpc⟩ | ⟨d, p, hpc⟩
  · obtain rfl : pc = .getStorage res := hpc
    replace hsafe : s.initialized ≠ none ∨ (ok = true ∧ res.IsRecord) := by
      cases invocation with
      | initializeRpc req => exact hsafe
      | fetch => exact hsafe
      | alarm => exact hsafe
    rw [resume_getStorage htask] at hstep
    cases ok with
    | true =>
        rw [← Option.some.inj hstep]
        exact initialized_afterGetStorage s t
          (hsafe.imp_right (·.2))
    | false =>
        rw [← Option.some.inj hstep]
        rcases hsafe with hsafe | ⟨hok, -⟩
        · exact hsafe
        · cases hok
  · obtain rfl : pc = .loading d p := hpc
    obtain ⟨s₁, result, hres, rfl⟩ := resume_loading htask hstep
    have hframe := driverFrame hres
    rw [getElem?_setPc, if_pos rfl, hframe.tasks, htask] at htask'
    obtain rfl := Option.some.inj htask'
    cases result with
    | awaits pc' => cases hthrew
    | returns i => cases hthrew
    | throws =>
        -- the guard
        exfalso
        cases invocation with
        | initializeRpc req => exact hsafe s₁ hres
        | fetch => exact hsafe s₁ hres
        | alarm => exact hsafe s₁ hres

end DurableObject

open DurableObject

-- ============================================================== the result

/-- In every run whose steps are safe, nobody waits in vain for an object
that is marked initialised, and where a load fails the next call tries
again. -/
theorem wakes_of_safe {s : DurableObject}
    (h : (objectSystem config).Reaches (InitSafe config) s) :
    s.WakesUp ∧ ∀ a s', s.InitSafe config a →
      objectStep config s a = some s' → s.LoadFails a s' →
        s'.TriesAgain := by
  have hinv := wakeInv_reaches h
  refine ⟨hinv.wakesUp, ?_⟩
  intro a s' hsafe hstep hfails
  exact (wakeInv_step hinv hsafe hstep).triesAgain
    (initialized_of_loadFails hsafe hstep hfails)

/-- A request that waits while another one reads the storage. -/
theorem wakes_of_safe_fetchTwice :
    ∃ s : DurableObject,
      (objectSystem ⟨["counter"]⟩).run { storage := storedActor }
          [.fetch, .fetch, .resume 0 true, .resume 1 true] = some s
        ∧ s.WakesUp ∧ ∀ a s', s.InitSafe ⟨["counter"]⟩ a →
          objectStep ⟨["counter"]⟩ s a = some s' → s.LoadFails a s' →
            s'.TriesAgain := by
  refine ⟨_, rfl, @wakes_of_safe ⟨["counter"]⟩ _ ?_⟩
  have hok : (objectSystem ⟨["counter"]⟩).RunOk
      (InitSafe ⟨["counter"]⟩) { storage := storedActor }
      [.fetch, .fetch, .resume 0 true, .resume 1 true] := by
    refine ⟨trivial, trivial, .inr ⟨rfl, ?_⟩, trivial, trivial⟩
    exact ⟨Option.some_ne_none _, ⟨"counter", rfl, by decide⟩,
      Option.some_ne_none _⟩
  exact System.Reaches.run _ (.init ⟨storedActor, rfl⟩) hok rfl

/-- A request finds no record and throws, another one waits for its
promise, and `initialize` does not resolve it. -/
theorem blocked_after_initialize :
    ¬ ∀ (config : RegistryConfig) (s : DurableObject),
      (objectSystem config).Reachable s →
        s.WakesUp ∧ ∀ a s', objectStep config s a = some s' →
          s.LoadFails a s' → s'.TriesAgain := by
  intro hall
  have hwakes := (hall ⟨["counter"]⟩ _ (System.Reachable.run
    [.fetch, .resume 0 true, .fetch,
      .initializeRpc ⟨"counter", [], .undefined⟩, .resume 2 true]
    (.init ⟨{}, rfl⟩) rfl)).1
  have hresolved := hwakes (Option.some_ne_none _)
    ⟨.fetch, .awaitInitialized⟩ (.tail _ (.head _)) rfl
  nomatch hresolved

end RivetKit.Cloudflare
