/-
The invariant of the instances of one actor (`InstancesInv`), and what it
is kept by: a load, a change of one instance, the end of a start.

# The invariant

An entry has one instance at most, and it leaves the map when the `_stop`
of that instance has resolved (`EntriesOk.gone`). So of two instances the
older one has stopped (`superseded_stopped`), and one that is in the map is
the newest. A call of `sleepActor` that is under way is on the entry in the
map, and its instance has had no `_stop` until the call makes it
(`SleepsOk`). An instance that has stopped is quiet
(`InstanceAlone.quiet`), by what its `_stop` waited for.

# The rules

- `grown`, `loaded`: the instances stay and the driver loads.
- `modify`: one instance changes (`InstanceKept`).
- `endStart`: a start ends.
-/
import RivetKit.Drivers.FileSystem.Proofs.StoppedSaves

namespace RivetKit.Drivers.FileSystem

open Actor
open Js

-- ========================================================== the invariant

/-- The start has not got to the end of `#initialize`. -/
def InstanceStage.early : InstanceStage → Bool
  | .reading _ _ => true
  | .initializing => true
  | _ => false

/-- What is true of an instance by itself. -/
structure InstanceAlone (inst : DriverInstance) : Prop where
  blank : ∀ e load, inst.stage = .reading e load → inst.body = none
  fresh : inst.stage = .initializing → ∀ body, inst.body = some body →
    body.stopPc = none ∧ body.write = none
  flight : ∀ body snapshot, inst.body = some body →
    body.write = some ⟨snapshot, .inFlight⟩ → inst.write.isSome = true
  driver : inst.write.isSome = true → inst.stage = .initializing
    ∨ ∃ body snapshot, inst.body = some body
      ∧ body.write = some ⟨snapshot, .inFlight⟩
  unread : inst.body = none → inst.userCode = {}
  body : ∀ body, inst.body = some body →
    BodyOk inst.userCode inst.alarm body

/-- What is true of the instance `i`. -/
structure InstanceOk (s : ActorInstances) (i : Nat)
    (inst : DriverInstance) : Prop extends InstanceAlone inst where
  entry : inst.entry < s.entries.length
  owner : (s.entryAt inst.entry).actor = some i
  early : inst.stage.early = true →
    (s.entryAt inst.entry).startPromise = some i

/-- It runs no user code, and no write of it is under way or to come. -/
structure DriverInstance.Quiet (inst : DriverInstance) : Prop where
  userCode : inst.userCode = {}
  alarm : inst.alarm = none
  write : inst.write = none

/-- An instance that has stopped is quiet. -/
theorem InstanceAlone.quiet {inst : DriverInstance} (h : InstanceAlone inst)
    (hstopped : inst.Stopped) : inst.Quiet := by
  obtain ⟨body, hbody, hpc⟩ := hstopped
  have hok := h.body body hbody
  obtain ⟨hothers, halarm⟩ := hok.stopped hpc
  have honStop := hok.onStop (by rw [hpc]; simp) (by rw [hpc]; simp)
  have hbackground := hok.background (by rw [hpc]; simp) (by rw [hpc]; simp)
    (by rw [hpc]; simp)
  refine ⟨?_, halarm, ?_⟩
  · cases hcode : inst.userCode with
    | mk onStop backgroundPromises others =>
        rw [hcode] at honStop hbackground hothers
        rw [show onStop = false from honStop,
          show backgroundPromises = 0 from hbackground,
          show others = 0 from hothers]
  · cases hwrite : inst.write with
    | none => rfl
    | some write =>
        rcases h.driver (by rw [hwrite]; rfl) with hinit | hflight
        · rw [(h.fresh hinit body hbody).1] at hpc
          cases hpc
        · obtain ⟨body', snapshot, hbody', hflight⟩ := hflight
          rw [hbody] at hbody'
          rw [← Option.some.inj hbody', hok.saved (Or.inr hpc)] at hflight
          cases hflight

/-- A newer instance has read its record. -/
def ActorInstances.Superseded (s : ActorInstances) (i : Nat) : Prop :=
  ∃ j inst, i < j ∧ s.instances[j]? = some inst ∧ inst.body.isSome = true

/-- No instance of the entry has had its `_stop` called. -/
def NotStopping (s : ActorInstances) (e : Nat) : Prop :=
  ∀ inst body, s.actorOf e = some inst → inst.body = some body →
    body.stopCalled = false

/-- What is true of a call of `sleepActor` by where it is. -/
def SleepOk (s : ActorInstances) (e : Nat) : SleepPc → Prop
  | .awaitLoad _ => NotStopping s e
  | .awaitStart => NotStopping s e
  | .awaitStop i => (s.entryAt e).actor = some i
  | .returning => False
  | .ended => True

/-- The calls of `sleepActor`: one at most is under way, on the entry in
the map. -/
structure SleepsOk (s : ActorInstances) : Prop where
  current : ∀ call ∈ s.sleeps, call.pc ≠ .ended →
    s.actors = some call.entry ∧ SleepOk s call.entry call.pc
  single : ∀ (k k' : Nat) call call', s.sleeps[k]? = some call →
    s.sleeps[k']? = some call' → call.pc ≠ .ended → call'.pc ≠ .ended →
    k = k'

/-- The entries: the one in the map is the last, and the others have an
instance that has stopped. -/
structure EntriesOk (s : ActorInstances) : Prop where
  last : ∀ e, s.actors = some e → e + 1 = s.entries.length
  gone : ∀ e, e < s.entries.length → s.actors ≠ some e →
    ∃ inst, s.actorOf e = some inst ∧ inst.Stopped
  made : ∀ e i, (s.entryAt e).actor = some i →
    ∃ inst, s.instances[i]? = some inst ∧ inst.entry = e
  starts : ∀ e load, StartFrame.awaitLoad e load ∈ s.starts →
    e < s.entries.length

/-- The invariant. -/
structure InstancesInv (s : ActorInstances) : Prop where
  entries : EntriesOk s
  sleeps : SleepsOk s
  instances : ∀ (i : Nat) inst, s.instances[i]? = some inst →
    InstanceOk s i inst
  order : ∀ (i j : Nat) a b, s.instances[i]? = some a →
    s.instances[j]? = some b → i < j → a.entry < b.entry
  applied : ∀ w ∈ s.applied, ∀ j ∈ w.readers, j ≤ w.actor

namespace ActorInstances

variable {s s' : ActorInstances}

-- ============================================================ the entries

theorem entryAt_modifyEntry_self {e : Nat} {f : ActorEntry → ActorEntry}
    (he : e < s.entries.length) :
    (s.modifyEntry e f).entryAt e = f (s.entryAt e) := by
  unfold entryAt modifyEntry
  rw [List.getD_eq_getElem?_getD, Lists.getElem?_modify_self,
    List.getD_eq_getElem?_getD, List.getElem?_eq_getElem he]
  rfl

theorem entryAt_modifyEntry_of_ne {e e' : Nat}
    {f : ActorEntry → ActorEntry} (hne : e' ≠ e) :
    (s.modifyEntry e f).entryAt e' = s.entryAt e' := by
  unfold entryAt modifyEntry
  rw [List.getD_eq_getElem?_getD, Lists.getElem?_modify_of_ne f hne,
    List.getD_eq_getElem?_getD]

/-- A field that `f` keeps. -/
theorem entryAt_modifyEntry_field {α : Type} {e : Nat}
    {f : ActorEntry → ActorEntry} (field : ActorEntry → α)
    (hf : ∀ entry, field (f entry) = field entry) (e' : Nat) :
    field ((s.modifyEntry e f).entryAt e') = field (s.entryAt e') := by
  by_cases hne : e' = e
  · by_cases he : e < s.entries.length
    · rw [hne, entryAt_modifyEntry_self he, hf]
    · unfold entryAt modifyEntry
      rw [List.modify_eq_self (by omega)]
  · rw [entryAt_modifyEntry_of_ne hne]

/-- Behind a change of the instance `i`: another one, or the changed
one. -/
theorem modifyInstance_cases {i j : Nat} {old inst : DriverInstance}
    {f : DriverInstance → DriverInstance} (hi : s.instances[i]? = some old)
    (h : (s.modifyInstance i f).instances[j]? = some inst) :
    (s.instances[j]? = some inst ∧ j ≠ i) ∨ (j = i ∧ inst = f old) := by
  rcases Lists.getElem?_modify_cases h with hother | ⟨hji, was, hwas, heq⟩
  · exact Or.inl hother
  · rw [hi] at hwas
    rw [← Option.some.inj hwas] at heq
    exact Or.inr ⟨hji, heq⟩

/-- The instance of an entry, by its place. -/
theorem actorOf_eq {e i : Nat} (h : (s.entryAt e).actor = some i) :
    s.actorOf e = s.instances[i]? := by
  unfold ActorInstances.actorOf
  rw [h]
  rfl

/-- The instances stay, and so do the instances of the entries. The map
may get a new entry. -/
structure Owned (s s' : ActorInstances) : Prop where
  instances : s'.instances = s.instances
  actor : ∀ e, (s'.entryAt e).actor = (s.entryAt e).actor
  actors : s'.actors = s.actors ∧ s'.entries.length = s.entries.length
    ∨ s.actors = none ∧ s'.actors = some s.entries.length
      ∧ s'.entries.length = s.entries.length + 1

/-- So do the starts, and no write is renamed. -/
structure Grown (s s' : ActorInstances) : Prop extends Owned s s' where
  applied : s'.applied = s.applied
  start : ∀ e, (s'.entryAt e).startPromise = (s.entryAt e).startPromise

theorem Owned.length_le (h : Owned s s') :
    s.entries.length ≤ s'.entries.length := by
  rcases h.actors with ⟨-, hlength⟩ | ⟨-, -, hlength⟩
  · omega
  · omega

theorem Owned.actorOf (h : Owned s s') (e : Nat) :
    s'.actorOf e = s.actorOf e := by
  unfold ActorInstances.actorOf
  rw [h.actor, h.instances]

theorem Owned.sleepOk (h : Owned s s') {e : Nat} {pc : SleepPc}
    (hok : SleepOk s e pc) : SleepOk s' e pc := by
  cases pc with
  | awaitLoad load =>
      intro inst body hinst
      rw [h.actorOf] at hinst
      exact hok inst body hinst
  | awaitStart =>
      intro inst body hinst
      rw [h.actorOf] at hinst
      exact hok inst body hinst
  | awaitStop i =>
      show (s'.entryAt e).actor = some i
      rw [h.actor]
      exact hok
  | returning => exact hok
  | ended => trivial

end ActorInstances

open ActorInstances

variable {s s' : ActorInstances}

theorem SleepsOk.owned (h : SleepsOk s) (hgrown : Owned s s')
    (hsleeps : s'.sleeps = s.sleeps) : SleepsOk s' := by
  constructor
  case current =>
    intro call hcall hpc
    rw [hsleeps] at hcall
    obtain ⟨hcurrent, hok⟩ := h.current call hcall hpc
    refine ⟨?_, hgrown.sleepOk hok⟩
    rcases hgrown.actors with ⟨hactors, -⟩ | ⟨hnone, -, -⟩
    · rw [hactors]
      exact hcurrent
    · rw [hnone] at hcurrent
      cases hcurrent
  case single =>
    rw [hsleeps]
    exact h.single

/-- The invariant where the instances keep their entries. -/
theorem InstancesInv.owned (h : InstancesInv s) (hgrown : Owned s s')
    (hstart : ∀ (i : Nat) inst, s.instances[i]? = some inst →
      inst.stage.early = true →
      (s'.entryAt inst.entry).startPromise
        = (s.entryAt inst.entry).startPromise)
    (hsleeps : SleepsOk s')
    (hstarts : ∀ e load, StartFrame.awaitLoad e load ∈ s'.starts →
      e < s'.entries.length)
    (happlied : ∀ w ∈ s'.applied, ∀ j ∈ w.readers, j ≤ w.actor) :
    InstancesInv s' := by
  have hlength := hgrown.length_le
  constructor
  case entries =>
    constructor
    case last =>
      intro e he
      rcases hgrown.actors with ⟨hactors, hlen⟩ | ⟨-, hactors, hlen⟩
      · rw [hactors] at he
        rw [hlen]
        exact h.entries.last e he
      · rw [hactors] at he
        injection he with he
        omega
    case gone =>
      intro e he hne
      rw [hgrown.actorOf]
      rcases hgrown.actors with ⟨hactors, hlen⟩ | ⟨hnone, hactors, hlen⟩
      · rw [hactors] at hne
        exact h.entries.gone e (by omega) hne
      · have hother : e ≠ s.entries.length := by
          intro heq
          rw [hactors, heq] at hne
          exact hne rfl
        refine h.entries.gone e (by omega) ?_
        rw [hnone]
        simp
    case made =>
      intro e i hi
      rw [hgrown.actor] at hi
      rw [hgrown.instances]
      exact h.entries.made e i hi
    case starts => exact hstarts
  case sleeps => exact hsleeps
  case instances =>
    intro i inst hi
    rw [hgrown.instances] at hi
    obtain ⟨halone, hentry, howner, hearly⟩ := h.instances i inst hi
    constructor
    case toInstanceAlone => exact halone
    case entry => omega
    case owner =>
      rw [hgrown.actor]
      exact howner
    case early =>
      intro hstage
      rw [hstart i inst hi hstage]
      exact hearly hstage
  case order =>
    rw [hgrown.instances]
    exact h.order
  case applied => exact happlied

/-- The invariant where the driver only loads. -/
theorem InstancesInv.grown (h : InstancesInv s) (hgrown : Grown s s')
    (hsleeps : s'.sleeps = s.sleeps)
    (hstarts : ∀ e load, StartFrame.awaitLoad e load ∈ s'.starts →
      e < s'.entries.length) : InstancesInv s' := by
  refine h.owned hgrown.toOwned (fun _ _ _ _ => hgrown.start _)
    (h.sleeps.owned hgrown.toOwned hsleeps) hstarts ?_
  rw [hgrown.applied]
  exact h.applied

/-- The entry in the map has no index beyond it. -/
theorem InstancesInv.current_lt (h : InstancesInv s) {e : Nat}
    (he : s.actors = some e) : e < s.entries.length := by
  have hlast := h.entries.last e he
  omega

-- ======================================================= the loads, again

theorem upsertEntry_grown (s : ActorInstances) :
    Grown s s.upsertEntry.1
      ∧ s.upsertEntry.1.actors = some s.upsertEntry.2
      ∧ s.upsertEntry.1.sleeps = s.sleeps
      ∧ s.upsertEntry.1.starts = s.starts := by
  unfold ActorInstances.upsertEntry
  split
  case h_1 e he =>
    exact ⟨⟨⟨rfl, fun _ => rfl, Or.inl ⟨rfl, rfl⟩⟩, rfl, fun _ => rfl⟩, he,
      rfl, rfl⟩
  case h_2 hnone =>
    have hentry : ∀ e, (s.entries ++ [({} : ActorEntry)]).getD e {}
        = s.entries.getD e {} := by
      intro e
      rw [List.getD_eq_getElem?_getD, List.getD_eq_getElem?_getD]
      by_cases he : e < s.entries.length
      · rw [List.getElem?_append_left he]
      · rw [List.getElem?_append_right (by omega),
          List.getElem?_eq_none (by omega : s.entries.length ≤ e)]
        cases hsub : e - s.entries.length with
        | zero => rfl
        | succ n => rfl
    refine ⟨⟨⟨rfl, fun e => ?_, Or.inr ⟨hnone, rfl, ?_⟩⟩, rfl,
      fun e => ?_⟩, rfl, rfl, rfl⟩
    · exact congrArg ActorEntry.actor (hentry e)
    · rw [List.length_append]
      rfl
    · exact congrArg ActorEntry.startPromise (hentry e)

/-- A change of an entry that keeps its instance and its start. -/
theorem ActorInstances.Grown.modifyEntry (h : Grown s s') (e : Nat)
    {f : ActorEntry → ActorEntry}
    (hactor : ∀ entry, (f entry).actor = entry.actor)
    (hstart : ∀ entry, (f entry).startPromise = entry.startPromise) :
    Grown s (s'.modifyEntry e f) := by
  refine ⟨⟨h.instances, ?_, ?_⟩, h.applied, ?_⟩
  · intro e'
    rw [entryAt_modifyEntry_field ActorEntry.actor hactor, h.actor]
  · have hlength : (s'.modifyEntry e f).entries.length
        = s'.entries.length := List.length_modify ..
    rw [hlength]
    exact h.actors
  · intro e'
    rw [entryAt_modifyEntry_field ActorEntry.startPromise hstart, h.start]

theorem ActorInstances.Grown.refl (s : ActorInstances) : Grown s s :=
  ⟨⟨rfl, fun _ => rfl, Or.inl ⟨rfl, rfl⟩⟩, rfl, fun _ => rfl⟩

/-- `loadActor` gives the entry in the map. -/
theorem loadActor_grown (s : ActorInstances) :
    Grown s s.loadActor.1
      ∧ s.loadActor.1.actors = some s.loadActor.2.1
      ∧ s.loadActor.1.sleeps = s.sleeps
      ∧ s.loadActor.1.starts = s.starts := by
  obtain ⟨hgrown, hactors, hsleeps, hstarts⟩ := upsertEntry_grown s
  unfold ActorInstances.loadActor
  dsimp only
  split
  · exact ⟨hgrown, hactors, hsleeps, hstarts⟩
  · split
    · exact ⟨hgrown, hactors, hsleeps, hstarts⟩
    · obtain ⟨⟨hinstances, hactor, hmap⟩, happlied, hstart⟩ :=
        hgrown.modifyEntry s.upsertEntry.2
          (f := fun entry =>
            { entry with loadPromise := some s.upsertEntry.1.loads.length })
          (fun _ => rfl) (fun _ => rfl)
      exact ⟨⟨⟨hinstances, hactor, hmap⟩, happlied, hstart⟩, hactors,
        hsleeps, hstarts⟩

/-- The invariant where the driver loads, and nothing else. -/
theorem InstancesInv.loaded (h : InstancesInv s) (hgrown : Grown s s')
    (hsleeps : s'.sleeps = s.sleeps) (hstarts : s'.starts = s.starts) :
    InstancesInv s' := by
  refine h.grown hgrown hsleeps ?_
  intro e load hmem
  rw [hstarts] at hmem
  have hlt := h.entries.starts e load hmem
  have hle := hgrown.length_le
  omega

theorem InstancesInv.loadActor (h : InstancesInv s) :
    InstancesInv s.loadActor.1 := by
  obtain ⟨hgrown, -, hsleeps, hstarts⟩ := loadActor_grown s
  exact h.loaded hgrown hsleeps hstarts

theorem InstancesInv.readFile (h : InstancesInv s) {load : Nat} {ok : Bool}
    (hstep : s.readFile load ok = some s') : InstancesInv s' := by
  unfold ActorInstances.readFile at hstep
  split at hstep
  · rw [← Option.some.inj hstep]
    exact h.loaded
      ⟨⟨rfl, fun _ => rfl, Or.inl ⟨rfl, rfl⟩⟩, rfl, fun _ => rfl⟩ rfl rfl
  · cases hstep

theorem InstancesInv.loadActorState (h : InstancesInv s) {load : Nat}
    (hstep : s.loadActorState load = some s') : InstancesInv s' := by
  have hmodify : ∀ (e : Nat) (f : ActorEntry → ActorEntry) loads,
      (∀ entry, (f entry).actor = entry.actor) →
      (∀ entry, (f entry).startPromise = entry.startPromise) →
      InstancesInv { s.modifyEntry e f with loads := loads } := by
    intro e f loads hactor hstart
    obtain ⟨⟨hinstances, hactors, hmap⟩, happlied, hstarts⟩ :=
      (Grown.refl s).modifyEntry e hactor hstart
    exact h.loaded ⟨⟨hinstances, hactors, hmap⟩, happlied, hstarts⟩ rfl rfl
  unfold ActorInstances.loadActorState at hstep
  split at hstep
  · rw [← Option.some.inj hstep]
    exact hmodify _ _ _ (fun _ => rfl) (fun _ => rfl)
  · rw [← Option.some.inj hstep]
    exact hmodify _ _ _ (fun _ => rfl) (fun _ => rfl)
  · cases hstep

/-- A new call of `startActor` is on the entry in the map. -/
theorem InstancesInv.startActor (h : InstancesInv s) :
    InstancesInv s.startActor := by
  obtain ⟨hgrown, hactors, hsleeps, hstarts⟩ := loadActor_grown s
  have hload := h.loadActor
  have hgrown' : Grown s s.startActor :=
    ⟨⟨hgrown.instances, hgrown.actor, hgrown.actors⟩, hgrown.applied,
      hgrown.start⟩
  refine h.grown hgrown' hsleeps ?_
  intro e load hmem
  have hmem : StartFrame.awaitLoad e load ∈ s.loadActor.1.starts
      ++ [.awaitLoad s.loadActor.2.1 s.loadActor.2.2] := hmem
  show e < s.loadActor.1.entries.length
  rcases List.mem_append.1 hmem with hold | hnew
  · exact hload.entries.starts e load hold
  · injection List.mem_singleton.1 hnew with he
    rw [he]
    exact hload.current_lt hactors

-- ============================================== one instance, by itself

/-- What a step may do to an instance. -/
structure InstanceKept (s : ActorInstances) (old new : DriverInstance) :
    Prop where
  entry : new.entry = old.entry
  early : new.stage.early = true → old.stage.early = true
  stopped : s.actors ≠ some old.entry → old.Stopped → new.Stopped
  alone : InstanceAlone new

/-- A change of the stage behind `#initialize`, with no write of the
driver under way but that of the queue. -/
theorem InstanceKept.late {old new : DriverInstance}
    (h : InstanceAlone old) (hentry : new.entry = old.entry)
    (hlate : new.stage.early = false) (hbody : new.body = old.body)
    (hcode : new.userCode = old.userCode) (halarm : new.alarm = old.alarm)
    (hwrite : new.write = none ∧ (∀ body, old.body = some body →
        body.write = none)
      ∨ new.write = old.write ∧ old.stage ≠ .initializing) :
    InstanceKept s old new := by
  refine ⟨hentry, ?_, ?_, ?_⟩
  · intro hearly
    rw [hlate] at hearly
    cases hearly
  · intro _ hstopped
    unfold DriverInstance.Stopped
    rw [hbody]
    exact hstopped
  · constructor
    case blank =>
      intro e load hreading
      rw [hreading] at hlate
      cases hlate
    case fresh =>
      intro hinit
      rw [hinit] at hlate
      cases hlate
    case flight =>
      intro body snapshot hread hflight
      rw [hbody] at hread
      rcases hwrite with ⟨-, hnone⟩ | ⟨hsame, -⟩
      · rw [hnone body hread] at hflight
        cases hflight
      · rw [hsame]
        exact h.flight body snapshot hread hflight
    case driver =>
      intro hsome
      rcases hwrite with ⟨hnone, -⟩ | ⟨hsame, hstage⟩
      · rw [hnone] at hsome
        cases hsome
      · rw [hsame] at hsome
        rw [hbody]
        exact Or.inr ((h.driver hsome).resolve_left hstage)
    case unread =>
      rw [hbody, hcode]
      exact h.unread
    case body =>
      rw [hbody, hcode, halarm]
      exact h.body

variable {i : Nat} {old : DriverInstance}
  {f : DriverInstance → DriverInstance}

theorem modifyInstance_self (hi : s.instances[i]? = some old) :
    (s.modifyInstance i f).instances[i]? = some (f old) := by
  show (s.instances.modify i f)[i]? = some (f old)
  rw [Lists.getElem?_modify_self, hi]
  rfl

theorem modifyInstance_of_ne {j : Nat} (hj : j ≠ i) :
    (s.modifyInstance i f).instances[j]? = s.instances[j]? :=
  Lists.getElem?_modify_of_ne f hj

/-- The instance of an entry, where one instance changes. -/
theorem actorOf_modifyInstance {e : Nat} {inst : DriverInstance}
    (hi : s.instances[i]? = some old)
    (h : (s.modifyInstance i f).actorOf e = some inst) :
    s.actorOf e = some inst
      ∨ (s.entryAt e).actor = some i ∧ s.actorOf e = some old
        ∧ inst = f old := by
  obtain ⟨j, howner, hj⟩ := Option.bind_eq_some_iff.1 h
  have howner : (s.entryAt e).actor = some j := howner
  rw [actorOf_eq howner]
  rcases modifyInstance_cases hi hj with ⟨hj, -⟩ | ⟨hji, heq⟩
  · exact Or.inl hj
  · rw [hji] at howner ⊢
    exact Or.inr ⟨howner, hi, heq⟩

/-- The calls of `sleepActor`, where an instance keeps whether `_stop` was
called. -/
theorem SleepsOk.modify (h : SleepsOk s) (hi : s.instances[i]? = some old)
    (hcalled : ∀ body', (f old).body = some body' →
      body'.stopCalled = false
        ∨ ∃ body, old.body = some body
          ∧ body'.stopCalled = body.stopCalled) :
    SleepsOk (s.modifyInstance i f) := by
  have hopen : ∀ e, NotStopping s e →
      NotStopping (s.modifyInstance i f) e := by
    intro e hopen inst body hinst hbody
    rcases actorOf_modifyInstance hi hinst with hinst | ⟨-, hold, heq⟩
    · exact hopen inst body hinst hbody
    · rw [heq] at hbody
      rcases hcalled body hbody with hfalse | ⟨body', hbody', hsame⟩
      · exact hfalse
      · rw [hsame]
        exact hopen old body' hold hbody'
  constructor
  case current =>
    intro call hcall hpc
    obtain ⟨hcurrent, hok⟩ := h.current call hcall hpc
    refine ⟨hcurrent, ?_⟩
    cases hpc' : call.pc with
    | awaitLoad load =>
        rw [hpc'] at hok
        exact hopen call.entry hok
    | awaitStart =>
        rw [hpc'] at hok
        exact hopen call.entry hok
    | awaitStop j =>
        rw [hpc'] at hok
        exact hok
    | returning =>
        rw [hpc'] at hok
        exact hok
    | ended => trivial
  case single => exact h.single

/-- So they are where it keeps its record. -/
theorem SleepsOk.sameBody (h : SleepsOk s) (hi : s.instances[i]? = some old)
    (hbody : (f old).body = old.body) : SleepsOk (s.modifyInstance i f) := by
  refine h.modify hi ?_
  intro body hread
  rw [hbody] at hread
  exact Or.inr ⟨body, hread, rfl⟩

/-- An instance is of the entry that has it. -/
theorem InstancesInv.entry_eq (h : InstancesInv s) {e : Nat}
    (hi : s.instances[i]? = some old)
    (howner : (s.entryAt e).actor = some i) : old.entry = e := by
  obtain ⟨inst, hinst, hentry⟩ := h.entries.made e i howner
  rw [hi] at hinst
  rw [Option.some.inj hinst]
  exact hentry

/-- The invariant where one instance changes. -/
theorem InstancesInv.modify (h : InstancesInv s)
    (hi : s.instances[i]? = some old) (hkept : InstanceKept s old (f old))
    (hsleeps : SleepsOk (s.modifyInstance i f)) :
    InstancesInv (s.modifyInstance i f) := by
  have hentry : ∀ {j : Nat} {inst},
      (s.modifyInstance i f).instances[j]? = some inst →
      ∃ inst', s.instances[j]? = some inst' ∧ inst.entry = inst'.entry := by
    intro j inst hj
    rcases modifyInstance_cases hi hj with ⟨hj, -⟩ | ⟨hji, heq⟩
    · exact ⟨inst, hj, rfl⟩
    · rw [hji, heq]
      exact ⟨old, hi, hkept.entry⟩
  constructor
  case entries =>
    constructor
    case last => exact h.entries.last
    case gone =>
      intro e he hne
      obtain ⟨inst, hinst, hstopped⟩ := h.entries.gone e he hne
      obtain ⟨j, howner, hj⟩ := Option.bind_eq_some_iff.1 hinst
      have howner' : ((s.modifyInstance i f).entryAt e).actor = some j :=
        howner
      rw [actorOf_eq howner']
      by_cases hji : j = i
      · rw [hji] at howner hj ⊢
        rw [hi] at hj
        rw [← Option.some.inj hj] at hstopped
        rw [← h.entry_eq hi howner] at hne
        exact ⟨f old, modifyInstance_self hi, hkept.stopped hne hstopped⟩
      · rw [modifyInstance_of_ne hji]
        exact ⟨inst, hj, hstopped⟩
    case made =>
      intro e j howner
      obtain ⟨inst, hj, hinst⟩ := h.entries.made e j howner
      by_cases hji : j = i
      · rw [hji, hi] at hj
        injection hj with hj
        rw [hji]
        refine ⟨f old, modifyInstance_self hi, ?_⟩
        rw [hkept.entry, hj]
        exact hinst
      · refine ⟨inst, ?_, hinst⟩
        rw [modifyInstance_of_ne hji]
        exact hj
    case starts => exact h.entries.starts
  case sleeps => exact hsleeps
  case instances =>
    intro j inst hj
    rcases modifyInstance_cases hi hj with ⟨hj, -⟩ | ⟨hji, heq⟩
    · obtain ⟨halone, hlt, howner, hearly⟩ := h.instances j inst hj
      exact ⟨halone, hlt, howner, hearly⟩
    · rw [hji, heq]
      have hok := h.instances i old hi
      constructor
      case toInstanceAlone => exact hkept.alone
      case entry =>
        rw [hkept.entry]
        exact hok.entry
      case owner =>
        rw [hkept.entry]
        exact hok.owner
      case early =>
        intro hearly
        rw [hkept.entry]
        exact hok.early (hkept.early hearly)
  case order =>
    intro j k a b ha hb hlt
    obtain ⟨a', ha', hea⟩ := hentry ha
    obtain ⟨b', hb', heb⟩ := hentry hb
    rw [hea, heb]
    exact h.order j k a' b' ha' hb' hlt
  case applied => exact h.applied

/-- What a newer instance has read does not depend on what changes
here. -/
theorem superseded_modifyInstance (hi : s.instances[i]? = some old)
    (hread : (f old).body.isSome = old.body.isSome) {j : Nat} :
    (s.modifyInstance i f).Superseded j ↔ s.Superseded j := by
  constructor
  · intro hgiven
    obtain ⟨k, inst, hlt, hk, hbody⟩ := hgiven
    rcases modifyInstance_cases hi hk with ⟨hk, -⟩ | ⟨hki, heq⟩
    · exact ⟨k, inst, hlt, hk, hbody⟩
    · rw [heq, hread] at hbody
      rw [hki] at hlt
      exact ⟨i, old, hlt, hi, hbody⟩
  · intro hgiven
    obtain ⟨k, inst, hlt, hk, hbody⟩ := hgiven
    by_cases hki : k = i
    · rw [hki, hi] at hk
      injection hk with hk
      rw [← hk, ← hread] at hbody
      rw [hki] at hlt
      exact ⟨i, f old, hlt, modifyInstance_self hi, hbody⟩
    · refine ⟨k, inst, hlt, ?_, hbody⟩
      rw [modifyInstance_of_ne hki]
      exact hk

/-- An instance whose entry has left the map has stopped. -/
theorem InstancesInv.stopped (h : InstancesInv s)
    (hi : s.instances[i]? = some old) (hgone : s.actors ≠ some old.entry) :
    old.Stopped := by
  have hok := h.instances i old hi
  obtain ⟨inst, hinst, hstopped⟩ := h.entries.gone old.entry hok.entry hgone
  rw [actorOf_eq hok.owner, hi] at hinst
  injection hinst with hinst
  rw [hinst]
  exact hstopped

/-- The entry of an instance that is followed by another one has left the
map. -/
theorem InstancesInv.gone (h : InstancesInv s) {j : Nat}
    {inst : DriverInstance} (hi : s.instances[i]? = some old)
    (hj : s.instances[j]? = some inst) (hlt : i < j) :
    s.actors ≠ some old.entry := by
  intro hcurrent
  have hlast := h.entries.last old.entry hcurrent
  have horder := h.order i j old inst hi hj hlt
  have hentry := (h.instances j inst hj).entry
  omega

theorem InstancesInv.superseded_stopped (h : InstancesInv s)
    (hi : s.instances[i]? = some old) (hnewer : s.Superseded i) :
    old.Stopped := by
  obtain ⟨j, inst, hlt, hj, -⟩ := hnewer
  exact h.stopped hi (h.gone hi hj hlt)

/-- A superseded instance is quiet. -/
theorem InstancesInv.superseded_quiet (h : InstancesInv s)
    (hi : s.instances[i]? = some old) (hnewer : s.Superseded i) :
    old.Quiet :=
  (h.instances i old hi).quiet (h.superseded_stopped hi hnewer)

/-- A start ends whose instance is behind `#initialize`. -/
theorem InstancesInv.endStart (h : InstancesInv s)
    (hi : s.instances[i]? = some old) (hearly : old.stage.early = false) :
    InstancesInv (s.modifyEntry old.entry fun entry =>
      { entry with startPromise := none }) := by
  have howned : Owned s (s.modifyEntry old.entry fun entry =>
      { entry with startPromise := none }) := by
    refine ⟨rfl, ?_, Or.inl ⟨rfl, List.length_modify ..⟩⟩
    exact entryAt_modifyEntry_field ActorEntry.actor fun _ => rfl
  refine h.owned howned ?_ (h.sleeps.owned howned rfl) ?_ h.applied
  · intro j inst hj hstage
    have hne : inst.entry ≠ old.entry := by
      intro heq
      have howner := (h.instances j inst hj).owner
      rw [heq, (h.instances i old hi).owner] at howner
      injection howner with hij
      rw [← hij, hi] at hj
      injection hj with hj
      rw [← hj, hearly] at hstage
      cases hstage
    rw [entryAt_modifyEntry_of_ne hne]
  · intro e load hmem
    show e < (s.entries.modify old.entry _).length
    rw [List.length_modify]
    exact h.entries.starts e load hmem

end RivetKit.Drivers.FileSystem
