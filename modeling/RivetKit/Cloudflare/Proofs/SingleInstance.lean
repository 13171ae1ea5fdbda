/-
Single instance: one Durable Object has at most one `ActorInstance`, and
every request and alarm is served by it, so that each handler sees the
changes made by the earlier ones.

`#loadActor` keeps this, `alarm` does not: behind its `#loadActor` it
builds an actor driver of its own, whose map of instances is empty, and
loads the actor a second time (`singleInstance_fails`). The guard is
that no alarm gets past its `#loadActor`.

# The invariant

`ObjectShape` lists what a guarded run makes of the drivers: nothing
yet, a handler without an instance, a handler with an instance still
starting, a started instance. Each shape names the fields outright, so a
step is a move between two of them. The call that made the handler is
the only one inside the start of an instance (`one_starter`).
-/
import RivetKit.Cloudflare.DurableObject

namespace RivetKit.Cloudflare

open Transition
open Actor
open Js

variable {config : RegistryConfig}

-- ======================================================= reading a task

/-- The driver a task is with. -/
def TaskPc.driver? : TaskPc → Option Nat
  | .loading d _ => some d
  | .loaded d => some d
  | .serving d _ => some d
  | _ => none

/-- Where a task is inside the `loadActor` of its driver. -/
def TaskPc.driverPc? : TaskPc → Option DriverPc
  | .loading _ pc => some pc
  | .serving _ pc => some pc
  | _ => none

/-- The call made the handler and is starting the instance. -/
def DriverPc.starts : DriverPc → Bool
  | .awaitHandler => false
  | _ => true

/-- The instance a call is starting. -/
def DriverPc.instance? : DriverPc → Option Nat
  | .awaitRead i => some i
  | .awaitState i => some i
  | .awaitWrite i => some i
  | .awaitHooks i => some i
  | _ => none

namespace DurableObject

-- ================================================ statement vocabulary

/-- At most one instance, which serves everything, and each handler sees
the changes of all the handlers before it. -/
structure SingleInstance (s : DurableObject) : Prop where
  one_instance : s.instances.length ≤ 1
  one_server : ∀ e ∈ s.served, ∀ e' ∈ s.served, e.actor = e'.actor
  changes_seen : ∀ (n : Nat) (e : Served), s.served[n]? = some e →
    (s.served.take n).map (·.task) <:+ e.seen

/-- The step is no alarm that resumes behind its `#loadActor`. -/
def AlarmSafe (s : DurableObject) : ObjectStep → Prop
  | .resume t _ =>
      match s.tasks[t]? with
      | some ⟨.alarm, .loaded _⟩ => False
      | _ => True
  | _ => True

instance (s : DurableObject) : (a : ObjectStep) → Decidable (s.AlarmSafe a)
  | .resume t _ => by
      unfold AlarmSafe
      dsimp only
      split
      · exact .isFalse id
      · exact .isTrue trivial
  | .initializeRpc _ => .isTrue trivial
  | .fetch => .isTrue trivial
  | .alarm => .isTrue trivial
  | .writePersistedData _ => .isTrue trivial

-- ======================================================= the invariant

/-- The task `t` is starting an instance, and is at `p`. -/
def Starting (s : DurableObject) (t : Nat) (p : DriverPc) : Prop :=
  ∃ task : Task, s.tasks[t]? = some task ∧ task.pc.driverPc? = some p
    ∧ p.starts = true

/-- The drivers of a guarded run. -/
inductive ObjectShape (s : DurableObject) : Prop
  | unloaded : s.actor = none → s.drivers = [] → s.instances = [] →
      s.served = [] → (∀ task ∈ s.tasks, task.pc.driver? = none) →
      ObjectShape s
  | handler : s.actor = some 0 → s.drivers = [some {}] →
      s.instances = [] → s.served = [] →
      (∀ t p, s.Starting t p → p = .awaitMetadata) → ObjectShape s
  | starting (x : Instance) : s.actor = some 0 →
      s.drivers = [some ⟨some 0, .pending⟩] → s.instances = [x] →
      s.served = [] → (∀ t p, s.Starting t p → p.instance? = some 0) →
      ObjectShape s
  | started (x : Instance) : s.actor = some 0 →
      s.drivers = [some ⟨some 0, .resolved⟩] → s.instances = [x] →
      s.served.map (·.task) <:+ x.changes →
      (∀ t p, ¬ s.Starting t p) → ObjectShape s

/-- The invariant of the guarded runs. -/
structure SingleInv (s : DurableObject) : Prop where
  shape : ObjectShape s
  driver_zero : ∀ task ∈ s.tasks, ∀ d, task.pc.driver? = some d → d = 0
  one_starter : ∀ t t' p p', s.Starting t p → s.Starting t' p' → t = t'
  server_zero : ∀ e ∈ s.served, e.actor = 0
  seen_before : ∀ (n : Nat) (e : Served), s.served[n]? = some e →
    (s.served.take n).map (·.task) <:+ e.seen

/-- A task with a driver is with the one driver of `#actor`. -/
theorem SingleInv.driver {s : DurableObject} (h : SingleInv s) {t d : Nat}
    {task : Task} (ht : s.tasks[t]? = some task)
    (hd : task.pc.driver? = some d) : d = 0 ∧ s.actor = some 0 := by
  have hmem := List.mem_of_getElem? ht
  refine ⟨h.driver_zero task hmem d hd, ?_⟩
  cases h.shape with
  | unloaded _ _ _ _ htasks =>
      rw [htasks task hmem] at hd
      cases hd
  | handler hactor => exact hactor
  | starting _ hactor => exact hactor
  | started _ hactor => exact hactor

/-- `#actor` is the first driver. -/
theorem SingleInv.actor_zero {s : DurableObject} (h : SingleInv s) {d : Nat}
    (hd : s.actor = some d) : d = 0 := by
  cases h.shape with
  | unloaded hactor => rw [hd] at hactor; cases hactor
  | handler hactor => rw [hd] at hactor; injection hactor
  | starting _ hactor => rw [hd] at hactor; injection hactor
  | started _ hactor => rw [hd] at hactor; injection hactor

/-- Before anything happened. -/
theorem singleInv_init (storage : Storage) :
    SingleInv { storage := storage } := by
  refine ⟨.unloaded rfl rfl rfl rfl ?_, ?_, ?_, ?_, ?_⟩
  · intro task hmem
    cases hmem
  · intro task hmem
    cases hmem
  · rintro t t' p p' ⟨task, ht, -⟩
    cases ht
  · intro e hmem
    cases hmem
  · intro n e he
    cases he

-- ============================================== the invariant, per effect

/-- The invariant reads neither storage nor the initialisation. -/
theorem SingleInv.congr {s s' : DurableObject} (h : SingleInv s)
    (hactor : s'.actor = s.actor) (hdrivers : s'.drivers = s.drivers)
    (hinstances : s'.instances = s.instances)
    (htasks : s'.tasks = s.tasks) (hserved : s'.served = s.served) :
    SingleInv s' := by
  have hstarting : ∀ t p, s'.Starting t p → s.Starting t p := by
    rintro t p ⟨task, ht, hp⟩
    rw [htasks] at ht
    exact ⟨task, ht, hp⟩
  refine ⟨?_, ?_, ?_, ?_, ?_⟩
  · cases h.shape with
    | unloaded ha hd hi hs ht =>
        refine .unloaded ?_ ?_ ?_ ?_ ?_
        · rw [hactor, ha]
        · rw [hdrivers, hd]
        · rw [hinstances, hi]
        · rw [hserved, hs]
        · rw [htasks]
          exact ht
    | handler ha hd hi hs ht =>
        refine .handler ?_ ?_ ?_ ?_ ?_
        · rw [hactor, ha]
        · rw [hdrivers, hd]
        · rw [hinstances, hi]
        · rw [hserved, hs]
        · exact fun t p hp => ht t p (hstarting t p hp)
    | starting x ha hd hi hs ht =>
        refine .starting x ?_ ?_ ?_ ?_ ?_
        · rw [hactor, ha]
        · rw [hdrivers, hd]
        · rw [hinstances, hi]
        · rw [hserved, hs]
        · exact fun t p hp => ht t p (hstarting t p hp)
    | started x ha hd hi hs ht =>
        refine .started x ?_ ?_ ?_ ?_ ?_
        · rw [hactor, ha]
        · rw [hdrivers, hd]
        · rw [hinstances, hi]
        · rw [hserved]
          exact hs
        · exact fun t p hp => ht t p (hstarting t p hp)
  · rw [htasks]
    exact h.driver_zero
  · intro t t' p p' hp hp'
    exact h.one_starter t t' p p' (hstarting t p hp) (hstarting t' p' hp')
  · rw [hserved]
    exact h.server_zero
  · rw [hserved]
    exact h.seen_before

/-- Membership after a task moved on. -/
private theorem mem_setPc {s : DurableObject} {t : Nat} {pc : TaskPc}
    {task : Task} (h : task ∈ (s.setPc t pc).tasks) :
    task ∈ s.tasks ∨ task.pc = pc := by
  obtain ⟨t', ht'⟩ := List.mem_iff_getElem?.mp h
  simp only [setPc, List.getElem?_modify] at ht'
  cases hold : s.tasks[t']? with
  | none => simp [hold] at ht'
  | some old =>
      by_cases htt : t = t'
      · right
        simp only [hold, htt, if_true, Option.map_eq_map, Option.map_some,
          Option.some.injEq] at ht'
        rw [← ht']
      · left
        simp only [hold, htt, if_false, Option.map_eq_map, Option.map_some,
          Option.some.injEq] at ht'
        rw [← ht']
        exact List.mem_of_getElem? hold

/-- After a task moved on, the others start what they started. -/
private theorem starting_setPc {s : DurableObject} {t t' : Nat}
    {pc : TaskPc} {p : DriverPc} (h : (s.setPc t pc).Starting t' p) :
    (t' = t ∧ pc.driverPc? = some p ∧ p.starts = true)
      ∨ (t' ≠ t ∧ s.Starting t' p) := by
  obtain ⟨task, ht', hp, hstarts⟩ := h
  simp only [setPc, List.getElem?_modify] at ht'
  cases hold : s.tasks[t']? with
  | none => simp [hold] at ht'
  | some old =>
      by_cases htt : t = t'
      · left
        simp only [hold, htt, if_true, Option.map_eq_map, Option.map_some,
          Option.some.injEq] at ht'
        rw [← ht'] at hp
        exact ⟨htt.symm, hp, hstarts⟩
      · right
        simp only [hold, htt, if_false, Option.map_eq_map, Option.map_some,
          Option.some.injEq] at ht'
        refine ⟨fun heq => htt heq.symm, old, hold, ?_, hstarts⟩
        rw [ht']
        exact hp

/-- A task moves to a point outside the start of an instance. -/
theorem SingleInv.setPc {s : DurableObject} (h : SingleInv s) (t : Nat)
    {pc : TaskPc} (hidle : ∀ p, pc.driverPc? = some p → p.starts = false)
    (hdriver : ∀ d, pc.driver? = some d → d = 0 ∧ s.actor = some 0) :
    SingleInv (s.setPc t pc) := by
  have hstarting : ∀ t' p, (s.setPc t pc).Starting t' p →
      s.Starting t' p := by
    intro t' p hp
    rcases starting_setPc hp with ⟨-, hpc, hstarts⟩ | ⟨-, hp⟩
    · rw [hidle p hpc] at hstarts
      cases hstarts
    · exact hp
  refine ⟨?_, ?_, ?_, h.server_zero, h.seen_before⟩
  · cases h.shape with
    | unloaded ha hd hi hs ht =>
        refine .unloaded ha hd hi hs ?_
        intro task hmem
        rcases mem_setPc hmem with hmem | hpc
        · exact ht task hmem
        · rw [hpc]
          cases hpd : pc.driver? with
          | none => rfl
          | some d =>
              have hsome := (hdriver d hpd).2
              rw [ha] at hsome
              cases hsome
    | handler ha hd hi hs ht =>
        exact .handler ha hd hi hs fun t' p hp => ht t' p (hstarting t' p hp)
    | starting x ha hd hi hs ht =>
        exact .starting x ha hd hi hs fun t' p hp =>
          ht t' p (hstarting t' p hp)
    | started x ha hd hi hs ht =>
        exact .started x ha hd hi hs fun t' p hp =>
          ht t' p (hstarting t' p hp)
  · intro task hmem d hd
    rcases mem_setPc hmem with hmem | hpc
    · exact h.driver_zero task hmem d hd
    · rw [hpc] at hd
      exact (hdriver d hd).1
  · intro t₁ t₂ p₁ p₂ h₁ h₂
    exact h.one_starter t₁ t₂ p₁ p₂ (hstarting t₁ p₁ h₁) (hstarting t₂ p₂ h₂)

/-- A task moves to a point without a driver. -/
theorem SingleInv.setPc_plain {s : DurableObject} (h : SingleInv s)
    (t : Nat) {pc : TaskPc} (hpc : pc.driver? = none) :
    SingleInv (s.setPc t pc) := by
  refine h.setPc t ?_ ?_
  · intro p hp
    cases pc <;> simp [TaskPc.driver?, TaskPc.driverPc?] at hpc hp
  · intro d hd
    rw [hpc] at hd
    cases hd

/-- A new invocation. -/
theorem SingleInv.pushTask {s : DurableObject} (h : SingleInv s)
    (task : Task) (hpc : task.pc.driver? = none) :
    SingleInv { s with tasks := s.tasks ++ [task] } := by
  have hstarting : ∀ t p, Starting { s with tasks := s.tasks ++ [task] } t p →
      s.Starting t p := by
    rintro t p ⟨task', ht, hp, hstarts⟩
    simp only [List.getElem?_append] at ht
    split at ht
    · exact ⟨task', ht, hp, hstarts⟩
    · rw [List.mem_singleton.mp (List.mem_of_getElem? ht)] at hp
      cases hpc' : task.pc <;>
        simp [hpc', TaskPc.driver?, TaskPc.driverPc?] at hpc hp
  refine ⟨?_, ?_, ?_, h.server_zero, h.seen_before⟩
  · cases h.shape with
    | unloaded ha hd hi hs ht =>
        refine .unloaded ha hd hi hs ?_
        intro task' hmem
        rcases List.mem_append.mp hmem with hmem | hmem
        · exact ht task' hmem
        · rw [List.mem_singleton.mp hmem]
          exact hpc
    | handler ha hd hi hs ht =>
        exact .handler ha hd hi hs fun t p hp => ht t p (hstarting t p hp)
    | starting x ha hd hi hs ht =>
        exact .starting x ha hd hi hs fun t p hp => ht t p (hstarting t p hp)
    | started x ha hd hi hs ht =>
        exact .started x ha hd hi hs fun t p hp => ht t p (hstarting t p hp)
  · intro task' hmem d hd
    rcases List.mem_append.mp hmem with hmem | hmem
    · exact h.driver_zero task' hmem d hd
    · rw [List.mem_singleton.mp hmem, hpc] at hd
      cases hd
  · intro t t' p p' hp hp'
    exact h.one_starter t t' p p' (hstarting t p hp) (hstarting t' p' hp')

-- ========================================================== #loadActor

/-- `#loadActor` builds the driver only while there is none. -/
theorem SingleInv.afterInitialized {s : DurableObject} (h : SingleInv s)
    (t : Nat) : SingleInv (s.afterInitialized t) := by
  unfold DurableObject.afterInitialized
  cases hactor : s.actor with
  | some d =>
      have hzero := h.actor_zero hactor
      refine h.setPc t (by simp [TaskPc.driverPc?]) ?_
      intro d' hd'
      injection hd' with hd'
      rw [← hd']
      exact ⟨hzero, by rw [hactor, hzero]⟩
  | none =>
      dsimp only
      by_cases hinit : s.initialized.isNone = true
      · rw [if_pos hinit]
        exact h.setPc_plain t rfl
      · rw [if_neg hinit]
        cases h.shape with
        | handler ha => rw [hactor] at ha; cases ha
        | starting _ ha => rw [hactor] at ha; cases ha
        | started _ ha => rw [hactor] at ha; cases ha
        | unloaded ha hd hi hs ht =>
            have hnone : ∀ t' p, ¬ s.Starting t' p := by
              rintro t' p ⟨task, htask, hp, -⟩
              have hdr := ht task (List.mem_of_getElem? htask)
              cases hpc : task.pc <;>
                simp [hpc, TaskPc.driver?, TaskPc.driverPc?] at hdr hp
            simp only [hd, List.length_nil, List.nil_append, driverLoadActor,
              List.getElem?_cons_zero, List.set_cons_zero]
            refine ⟨.handler rfl rfl hi hs ?_, ?_, ?_, h.server_zero,
              h.seen_before⟩
            · intro t' p hp
              rcases starting_setPc hp with ⟨-, hpc, -⟩ | ⟨-, hp⟩
              · injection hpc with hpc
                exact hpc.symm
              · exact absurd hp (hnone t' p)
            · intro task hmem d hdr
              rcases mem_setPc hmem with hmem | hpc
              · exact h.driver_zero task hmem d hdr
              · rw [hpc] at hdr
                injection hdr with hdr
                exact hdr.symm
            · intro t₁ t₂ p₁ p₂ h₁ h₂
              rcases starting_setPc h₁ with ⟨rfl, -⟩ | ⟨-, h₁⟩
              · rcases starting_setPc h₂ with ⟨rfl, -⟩ | ⟨-, h₂⟩
                · rfl
                · exact absurd h₂ (hnone t₂ p₂)
              · exact absurd h₁ (hnone t₁ p₁)

/-- `#loadActor` up to its first `await`. -/
theorem SingleInv.loadActor {s : DurableObject} (h : SingleInv s)
    (t : Nat) : SingleInv (s.loadActor t) := by
  unfold DurableObject.loadActor
  split
  · split
    · exact h.setPc_plain t rfl
    · have h' : SingleInv
          { s with initializedPromise := some PromiseState.pending } :=
        h.congr rfl rfl rfl rfl rfl
      exact h'.setPc_plain t rfl
  · exact h.afterInitialized t

/-- Its storage read is back. -/
theorem SingleInv.afterGetStorage {s : DurableObject} (h : SingleInv s)
    (t : Nat) (res : Storage) : SingleInv (s.afterGetStorage t res) := by
  unfold DurableObject.afterGetStorage
  split
  · split
    · split
      · refine SingleInv.afterInitialized ?_ t
        exact h.congr rfl rfl rfl rfl rfl
      · exact h.setPc_plain t rfl
    · exact h.setPc_plain t rfl
  · exact h.afterInitialized t

-- ====================================================== the actor driver

/-- The point a task moves to after a stretch of its driver's
`loadActor`. -/
def Fits (result : DriverResult) (pc : TaskPc) : Prop :=
  match result with
  | .awaits p => pc.driver? = some 0 ∧ pc.driverPc? = some p
  | .returns _ => pc.driver? = none ∨ (pc = .loaded 0)
  | .throws => pc.driver? = none

/-- The task that is starting the instance, and its shape. -/
theorem SingleInv.starter {s : DurableObject} (h : SingleInv s) {t : Nat}
    {p : DriverPc} (ht : s.Starting t p) :
    s.actor = some 0 ∧ s.served = [] ∧
      ((p = .awaitMetadata ∧ s.drivers = [some {}] ∧ s.instances = [])
        ∨ ∃ x, p.instance? = some 0
          ∧ s.drivers = [some ⟨some 0, .pending⟩] ∧ s.instances = [x]) := by
  cases h.shape with
  | unloaded _ _ _ _ htasks =>
      obtain ⟨task, htask, hp, -⟩ := ht
      have hdr := htasks task (List.mem_of_getElem? htask)
      cases hpc : task.pc <;>
        simp [hpc, TaskPc.driver?, TaskPc.driverPc?] at hdr hp
  | handler ha hd hi hs hstart =>
      exact ⟨ha, hs, Or.inl ⟨hstart t p ht, hd, hi⟩⟩
  | starting x ha hd hi hs hstart =>
      exact ⟨ha, hs, Or.inr ⟨x, hstart t p ht, hd, hi⟩⟩
  | started _ _ _ _ _ hstart => exact absurd ht (hstart t p)

/-- The starter moves on inside the start of the instance. -/
theorem SingleInv.advance {s s' : DurableObject} (h : SingleInv s)
    {t : Nat} {p p' : DriverPc} {pc : TaskPc} {x : Instance}
    (ht : s.Starting t p) (hactor : s'.actor = some 0)
    (hdrivers : s'.drivers = [some ⟨some 0, .pending⟩])
    (hinstances : s'.instances = [x]) (htasks : s'.tasks = s.tasks)
    (hserved : s'.served = []) (hp' : p'.instance? = some 0)
    (hpc : pc.driver? = some 0 ∧ pc.driverPc? = some p') :
    SingleInv (s'.setPc t pc) := by
  have hother : ∀ t' p', t' ≠ t → ¬ s'.Starting t' p' := by
    rintro t' q hne ⟨task, htask, hq⟩
    rw [htasks] at htask
    exact hne (h.one_starter t' t q p ⟨task, htask, hq⟩ ht)
  refine ⟨.starting x hactor hdrivers hinstances hserved ?_, ?_, ?_, ?_, ?_⟩
  · intro t' q hq
    rcases starting_setPc hq with ⟨-, hq, -⟩ | ⟨hne, hq⟩
    · rw [hpc.2] at hq
      injection hq with hq
      rw [← hq]
      exact hp'
    · exact absurd hq (hother t' q hne)
  · intro task hmem d hd
    rcases mem_setPc hmem with hmem | heq
    · rw [htasks] at hmem
      exact h.driver_zero task hmem d hd
    · rw [heq, hpc.1] at hd
      injection hd with hd
      exact hd.symm
  · intro t₁ t₂ p₁ p₂ h₁ h₂
    rcases starting_setPc h₁ with ⟨rfl, -⟩ | ⟨hne, h₁⟩
    · rcases starting_setPc h₂ with ⟨rfl, -⟩ | ⟨hne, h₂⟩
      · rfl
      · exact absurd h₂ (hother t₂ p₂ hne)
    · exact absurd h₁ (hother t₁ p₁ hne)
  · intro e hmem
    replace hmem : e ∈ s'.served := hmem
    rw [hserved] at hmem
    cases hmem
  · intro n e he
    replace he : s'.served[n]? = some e := he
    rw [hserved] at he
    cases he

/-- The starter is done: the instance has started. -/
theorem SingleInv.finish {s : DurableObject} (h : SingleInv s) {t : Nat}
    {p : DriverPc} {pc : TaskPc} (ht : s.Starting t p)
    (hp : p.instance? = some 0)
    (hpc : pc.driver? = none ∨ pc = .loaded 0) :
    SingleInv ({ s with
      drivers := s.drivers.set 0 (some ⟨some 0, .resolved⟩) }.setPc t pc) := by
  obtain ⟨hactor, hserved, ⟨rfl, -⟩ | ⟨x, -, hdrivers, hinstances⟩⟩ :=
    h.starter ht
  · cases hp
  · have hother : ∀ t' q, t' ≠ t → ¬ s.Starting t' q := by
      intro t' q hne hq
      exact hne (h.one_starter t' t q p hq ht)
    have hnone : ∀ q, pc.driverPc? ≠ some q := by
      intro q hq
      rcases hpc with hpc | rfl
      · cases pc <;> simp [TaskPc.driver?, TaskPc.driverPc?] at hpc hq
      · cases hq
    have hstarting : ∀ t' q, ¬ Starting (DurableObject.setPc { s with
        drivers := s.drivers.set 0 (some ⟨some 0, .resolved⟩) } t pc) t' q := by
      intro t' q hq
      rcases starting_setPc hq with ⟨-, hq, -⟩ | ⟨hne, hq⟩
      · exact hnone q hq
      · exact hother t' q hne hq
    refine ⟨.started x hactor ?_ hinstances ?_ hstarting, ?_, ?_,
      h.server_zero, h.seen_before⟩
    · show s.drivers.set 0 _ = _
      rw [hdrivers]
      rfl
    · show s.served.map _ <:+ x.changes
      rw [hserved]
      exact List.nil_suffix
    · intro task hmem d hd
      rcases mem_setPc hmem with hmem | heq
      · exact h.driver_zero task hmem d hd
      · rw [heq] at hd
        rcases hpc with hpc | rfl
        · rw [hpc] at hd
          cases hd
        · injection hd with hd
          exact hd.symm
    · intro t₁ t₂ p₁ p₂ h₁
      exact absurd h₁ (hstarting t₁ p₁)

/-- What a stretch of `loadActor` of the one driver leaves, as the task
moves on. A return is that of the started instance. -/
def Resumed (t : Nat) (s : DurableObject) (result : DriverResult) : Prop :=
  (∀ pc, Fits result pc → SingleInv (s.setPc t pc)) ∧
  ∀ i, result = .returns i →
    i = 0 ∧ s.drivers = [some ⟨some 0, .resolved⟩]

theorem Resumed.of_eq {s s' : DurableObject} {t : Nat}
    {r r' : DriverResult} (h : Resumed t s r)
    (hs : some (s, r) = some (s', r')) : Resumed t s' r' := by
  injection hs with hs
  injection hs with hs hr
  rw [← hs, ← hr]
  exact h

/-- A call that throws inside a driver leaves the shape. -/
theorem SingleInv.throws {s : DurableObject} (h : SingleInv s)
    (t : Nat) : Resumed t s .throws :=
  ⟨fun _ hpc => h.setPc_plain t hpc, fun i hi => by cases hi⟩

theorem Resumed.awaits {s : DurableObject} {t : Nat} {p : DriverPc}
    (h : ∀ pc : TaskPc, pc.driver? = some 0 ∧ pc.driverPc? = some p →
      SingleInv (s.setPc t pc)) : Resumed t s (.awaits p) :=
  ⟨h, fun i hi => by cases hi⟩

/-- The starter that has its instance. -/
theorem SingleInv.starter_instance {s : DurableObject} (h : SingleInv s)
    {t i : Nat} {p : DriverPc} (ht : s.Starting t p)
    (hi : p.instance? = some i) :
    i = 0 ∧ s.actor = some 0 ∧ s.served = [] ∧
      ∃ x, s.drivers = [some ⟨some 0, .pending⟩] ∧ s.instances = [x] := by
  obtain ⟨hactor, hserved, ⟨rfl, -⟩ | ⟨x, hzero, hdrivers, hinstances⟩⟩ :=
    h.starter ht
  · cases hi
  · rw [hi] at hzero
    injection hzero with hzero
    exact ⟨hzero, hactor, hserved, x, hdrivers, hinstances⟩

/-- A stretch of `loadActor` of the one driver. -/
theorem SingleInv.driverResume {s s' : DurableObject} (h : SingleInv s)
    {t : Nat} {task : Task} {p : DriverPc} {ok : Bool}
    {result : DriverResult} (htask : s.tasks[t]? = some task)
    (hp : task.pc.driverPc? = some p)
    (hs : s.driverResume config 0 p ok = some (s', result)) :
    Resumed t s' result := by
  have hstart : p.starts = true → s.Starting t p := fun hstarts =>
    ⟨task, htask, hp, hstarts⟩
  unfold DurableObject.driverResume at hs
  cases p with
  | awaitHandler =>
      dsimp only at hs
      split at hs
      case h_1 i hd =>
        refine Resumed.of_eq ?_ hs
        have hstarted : i = 0 ∧ s.drivers = [some ⟨some 0, .resolved⟩]
            ∧ s.actor = some 0 := by
          cases h.shape with
          | unloaded _ hdr => rw [hdr] at hd; cases hd
          | handler _ hdr => rw [hdr] at hd; cases hd
          | starting _ _ hdr => rw [hdr] at hd; cases hd
          | started x ha hdr =>
              rw [hdr] at hd
              injection hd with hd
              injection hd with hd
              injection hd with hd
              injection hd with hd
              exact ⟨hd.symm, hdr, ha⟩
        constructor
        · intro pc hpc
          rcases hpc with hpc | rfl
          · exact h.setPc_plain t hpc
          · refine h.setPc t (by simp [TaskPc.driverPc?]) ?_
            intro d hd
            injection hd with hd
            exact ⟨hd.symm, hstarted.2.2⟩
        · intro j hj
          injection hj with hj
          rw [← hj]
          exact ⟨hstarted.1, hstarted.2.1⟩
      case h_2 => exact (h.throws t).of_eq hs
      case h_3 => cases hs
  | awaitMetadata =>
      have ht := hstart rfl
      obtain ⟨hactor, hserved, ⟨-, hdrivers, hinstances⟩ | ⟨x, hx, -⟩⟩ :=
        h.starter ht
      · dsimp only at hs
        split at hs
        · split at hs
          · refine Resumed.of_eq (.awaits fun pc hpc => ?_) hs
            refine h.advance (x := { driver := 0 }) ht hactor ?_ ?_ rfl
              hserved ?_ hpc
            · show s.drivers.set 0 _ = _
              rw [hdrivers, hinstances]
              rfl
            · show s.instances ++ _ = _
              rw [hinstances]
              rfl
            · rw [hinstances]
              rfl
          · exact (h.throws t).of_eq hs
        · exact (h.throws t).of_eq hs
      · cases hx
  | awaitRead i =>
      have ht := hstart rfl
      obtain ⟨rfl, hactor, hserved, x, hdrivers, hinstances⟩ :=
        h.starter_instance ht rfl
      cases ok with
      | false => exact (h.throws t).of_eq hs
      | true =>
          simp only [if_true] at hs
          split at hs
          case h_1 => exact (h.throws t).of_eq hs
          case h_2 =>
            refine Resumed.of_eq (.awaits fun pc hpc => ?_) hs
            exact h.advance ht hactor hdrivers hinstances rfl hserved rfl hpc
          case h_3 changes _ =>
            refine Resumed.of_eq (.awaits fun pc hpc => ?_) hs
            refine h.advance (x := { x with changes := changes }) ht hactor
              hdrivers ?_ rfl hserved rfl hpc
            show s.instances.modify 0 _ = _
            rw [hinstances]
            rfl
  | awaitState i =>
      have ht := hstart rfl
      obtain ⟨rfl, hactor, hserved, x, hdrivers, hinstances⟩ :=
        h.starter_instance ht rfl
      cases ok with
      | false => exact (h.throws t).of_eq hs
      | true =>
          refine Resumed.of_eq (.awaits fun pc hpc => ?_) hs
          exact h.advance ht hactor hdrivers hinstances rfl hserved rfl hpc
  | awaitWrite i =>
      have ht := hstart rfl
      obtain ⟨rfl, hactor, hserved, x, hdrivers, hinstances⟩ :=
        h.starter_instance ht rfl
      cases ok with
      | false => exact (h.throws t).of_eq hs
      | true =>
          refine Resumed.of_eq (.awaits fun pc hpc => ?_) hs
          exact h.advance ht hactor hdrivers hinstances rfl hserved rfl hpc
  | awaitHooks i =>
      have ht := hstart rfl
      obtain ⟨rfl, hactor, hserved, x, hdrivers, hinstances⟩ :=
        h.starter_instance ht rfl
      cases ok with
      | false => exact (h.throws t).of_eq hs
      | true =>
          refine Resumed.of_eq ?_ hs
          refine ⟨fun pc hpc => h.finish ht rfl hpc, fun i hi => ?_⟩
          injection hi with hi
          refine ⟨hi.symm, ?_⟩
          show s.drivers.set 0 _ = _
          rw [hdrivers]
          rfl

/-- The started instance serves a task. -/
theorem SingleInv.serve {s : DurableObject} {t : Nat}
    (h : SingleInv (s.setPc t .done))
    (hstarted : s.drivers = [some ⟨some 0, .resolved⟩]) :
    SingleInv (s.serve t 0) := by
  cases h.shape with
  | unloaded _ hd =>
      rw [show (s.setPc t .done).drivers = s.drivers from rfl, hstarted] at hd
      cases hd
  | handler _ hd =>
      rw [show (s.setPc t .done).drivers = s.drivers from rfl, hstarted] at hd
      cases hd
  | starting _ _ hd =>
      rw [show (s.setPc t .done).drivers = s.drivers from rfl, hstarted] at hd
      cases hd
  | started x ha hd hi hs ht =>
      replace hi : s.instances = [x] := hi
      replace hs : s.served.map (·.task) <:+ x.changes := hs
      unfold DurableObject.serve
      simp only [hi, List.getElem?_cons_zero, Option.map_some,
        Option.getD_some]
      refine ⟨.started { x with changes := x.changes ++ [t] } ha hd rfl ?_ ht,
        h.driver_zero, h.one_starter, ?_, ?_⟩
      · obtain ⟨pre, hpre⟩ := hs
        refine ⟨pre, ?_⟩
        show pre ++ (s.served ++ _).map _ = x.changes ++ [t]
        rw [← hpre]
        simp
      · intro e hmem
        rcases List.mem_append.mp hmem with hmem | hmem
        · exact h.server_zero e hmem
        · rw [List.mem_singleton.mp hmem]
      · intro n e he
        replace he : (s.served ++ _)[n]? = some e := he
        show ((s.served ++ _).take n).map _ <:+ e.seen
        rw [List.getElem?_append] at he
        split at he
        · rename_i hlt
          rw [List.take_append_of_le_length (Nat.le_of_lt hlt)]
          exact h.seen_before n e he
        · rename_i hge
          have hlt := (List.getElem?_eq_some_iff.mp he).1
          simp only [List.length_singleton] at hlt
          have hn : n = s.served.length := by omega
          have hentry := List.mem_singleton.mp (List.mem_of_getElem? he)
          rw [hentry, hn, List.take_left]
          exact hs

-- ======================================================== step and run

/-- An invocation behind its `#loadActor`, unless it is an alarm. -/
theorem SingleInv.afterLoaded {s : DurableObject} (h : SingleInv s)
    {t d : Nat} {invocation : Invocation}
    (htask : s.tasks[t]? = some ⟨invocation, .loaded d⟩)
    (halarm : invocation ≠ .alarm) :
    SingleInv (s.afterLoaded t d invocation) := by
  obtain ⟨rfl, hactor⟩ := h.driver htask rfl
  cases invocation with
  | alarm => exact absurd rfl halarm
  | initializeRpc req => exact h.setPc_plain t rfl
  | fetch =>
      have hload : s.driverLoadActor 0 = (s, .awaitHandler) := by
        unfold driverLoadActor
        cases h.shape with
        | unloaded ha => rw [hactor] at ha; cases ha
        | handler _ hd => rw [hd]; rfl
        | starting _ _ hd => rw [hd]; rfl
        | started _ _ hd => rw [hd]; rfl
      unfold DurableObject.afterLoaded
      simp only [hload]
      refine h.setPc t ?_ ?_
      · intro p hp
        injection hp with hp
        rw [← hp]
        rfl
      · intro d hd
        injection hd with hd
        exact ⟨hd.symm, hactor⟩

/-- An invocation resumes. -/
theorem SingleInv.resume {s s' : DurableObject} {t : Nat} {ok : Bool}
    (h : SingleInv s) (hsafe : s.AlarmSafe (.resume t ok))
    (hs : s.resume config t ok = some s') : SingleInv s' := by
  cases resume_cases hs with
  | initialized req _ _ heq =>
      rw [heq]
      refine SingleInv.loadActor ?_ t
      exact h.congr rfl rfl rfl rfl rfl
  | afterInitialized _ _ _ heq =>
      rw [heq]
      exact h.afterInitialized t
  | afterGetStorage _ res _ heq =>
      rw [heq]
      exact h.afterGetStorage t res
  | threw _ _ _ _ heq =>
      rw [heq]
      exact h.setPc_plain t rfl
  | loading invocation d p s₁ result htask hres heq =>
      obtain ⟨rfl, -⟩ := h.driver htask rfl
      rw [heq]
      apply (h.driverResume htask rfl hres).1
      cases result with
      | awaits p' => exact ⟨rfl, rfl⟩
      | returns i => exact Or.inr rfl
      | throws => rfl
  | loaded invocation d htask heq =>
      rw [heq]
      refine h.afterLoaded htask ?_
      rintro rfl
      unfold AlarmSafe at hsafe
      simp only [htask] at hsafe
  | serving invocation d p p' s₁ htask hres heq =>
      obtain ⟨rfl, -⟩ := h.driver htask rfl
      rw [heq]
      exact (h.driverResume htask rfl hres).1 _ ⟨rfl, rfl⟩
  | served invocation d p s₁ i htask hres heq =>
      obtain ⟨rfl, -⟩ := h.driver htask rfl
      obtain ⟨hmove, hret⟩ := h.driverResume htask rfl hres
      obtain ⟨rfl, hstarted⟩ := hret i rfl
      rw [heq]
      exact (hmove .done (Or.inl rfl)).serve hstarted
  | servingThrew invocation d p s₁ htask hres heq =>
      obtain ⟨rfl, -⟩ := h.driver htask rfl
      rw [heq]
      exact (h.driverResume htask rfl hres).1 _ rfl

/-- One guarded step preserves the invariant. -/
theorem singleInv_step {s s' : DurableObject} {a : ObjectStep}
    (h : SingleInv s) (hsafe : s.AlarmSafe a)
    (hstep : objectStep config s a = some s') : SingleInv s' := by
  cases a with
  | initializeRpc req =>
      injection hstep with hstep
      rw [← hstep]
      have hpush := h.pushTask ⟨.initializeRpc req, .putStorage⟩ rfl
      exact hpush.congr rfl rfl rfl rfl rfl
  | fetch =>
      injection hstep with hstep
      rw [← hstep]
      exact (h.pushTask _ rfl).loadActor _
  | alarm =>
      injection hstep with hstep
      rw [← hstep]
      exact (h.pushTask _ rfl).loadActor _
  | resume t ok => exact h.resume hsafe hstep
  | writePersistedData i =>
      simp only [objectStep, DurableObject.writePersistedData] at hstep
      split at hstep
      · injection hstep with hstep
        rw [← hstep]
        exact h.congr rfl rfl rfl rfl rfl
      · cases hstep

/-- The invariant holds along every guarded run. -/
theorem singleInv_reaches {s : DurableObject}
    (h : (objectSystem config).Reaches AlarmSafe s) : SingleInv s := by
  refine System.Reaches.invariant (P := SingleInv) ?_ ?_ h
  · rintro s ⟨storage, rfl⟩
    exact singleInv_init storage
  · intro s a s' _ hinv hsafe hstep
    exact singleInv_step hinv hsafe hstep

end DurableObject

open DurableObject

/-- In every run in which no alarm gets past its `#loadActor`, the object
has at most one instance, which serves everything, and every handler
sees the changes of the earlier ones. -/
theorem singleInstance_of_safe {s : DurableObject}
    (h : (objectSystem config).Reaches AlarmSafe s) : s.SingleInstance := by
  have hinv := singleInv_reaches h
  refine ⟨?_, ?_, hinv.seen_before⟩
  · cases hinv.shape with
    | unloaded _ _ hi => simp [hi]
    | handler _ _ hi => simp [hi]
    | starting _ _ _ hi => simp [hi]
    | started _ _ _ hi => simp [hi]
  · intro e he e' he'
    rw [hinv.server_zero e he, hinv.server_zero e' he']

/-- The storage of an actor that has written a record. -/
def storedActor : Storage :=
  { name := some "counter", key := some [], data := some (.written []) }

/-- A request wakes the object, and a second one comes while the actor
is loading. -/
def fetchTwice : List ObjectStep :=
  [.fetch, .resume 0 true, .fetch, .resume 0 true, .resume 1 true,
    .resume 0 true, .resume 0 true, .resume 0 true, .resume 0 true,
    .resume 1 true]

/-- Both requests are served by the first instance, and the second sees
the change of the first. -/
theorem singleInstance_of_safe_fetchTwice :
    ∃ s : DurableObject,
      (objectSystem ⟨["counter"]⟩).run { storage := storedActor } fetchTwice
        = some s
      ∧ s.served = [⟨0, 0, []⟩, ⟨1, 0, [0]⟩] ∧ s.SingleInstance := by
  refine ⟨_, rfl, rfl, @singleInstance_of_safe ⟨["counter"]⟩ _ ?_⟩
  refine System.Reaches.run fetchTwice (.init ⟨storedActor, rfl⟩) ?_ rfl
  decide

/-- A request is served, then an alarm fires: it is served by a second
instance. -/
theorem singleInstance_fails :
    ¬ ∀ s : DurableObject,
      (objectSystem ⟨["counter"]⟩).Reachable s → s.SingleInstance := by
  intro hall
  have hsingle := hall _ (System.Reachable.run
    [.fetch, .resume 0 true, .resume 0 true, .resume 0 true, .resume 0 true,
      .resume 0 true, .resume 0 true, .alarm, .resume 1 true, .resume 1 true,
      .resume 1 true, .resume 1 true]
    (.init ⟨storedActor, rfl⟩) rfl)
  exact absurd hsingle.one_instance (by decide)

end RivetKit.Cloudflare
