/-
What the steps of an instance keep: its start, the new instance that
`startActor` makes, its calls of the driver and its user code, and the
steps that it takes by itself.

The steps of `_stop` keep what is true of an instance by itself
(`InstancesInv.advance`), by what they wait for. A superseded instance has
stopped, so it has no call of the driver that could go on (`setWrite`).
-/
import RivetKit.Drivers.FileSystem.Proofs.InstanceInvariant

namespace RivetKit.Drivers.FileSystem

open Actor
open Js
open ActorInstances

variable {codec : Codec} {opts : ActorOptions} {s s' : ActorInstances}
  {i : Nat} {old : DriverInstance} {f : DriverInstance → DriverInstance}

-- ============================================================= the start

/-- A start fails that has no write in the queue. -/
theorem InstancesInv.failStart (h : InstancesInv s)
    (hi : s.instances[i]? = some old)
    (hwrite : ∀ body, old.body = some body → body.write = none) :
    InstancesInv (s.failStart i old.entry) := by
  have hok := h.instances i old hi
  have hmodify : InstancesInv (s.modifyInstance i fun inst =>
      { inst with stage := .failed, write := none }) :=
    h.modify hi (.late hok.toInstanceAlone rfl rfl rfl rfl rfl
      (Or.inl ⟨rfl, hwrite⟩)) (h.sleeps.sameBody hi rfl)
  have hend := hmodify.endStart (modifyInstance_self hi) rfl
  exact hend

variable {codec' : PersistCodec}

/-- What an instance begins with has no write, and `_stop` was not
called. -/
theorem initialized_idle (r : PersistedActor) :
    (LiveInstance.initialized opts r).write = none
      ∧ (LiveInstance.initialized opts r).stopCalled = false := by
  rw [LiveInstance.initialized_toActorInstance]
  exact ⟨rfl, rfl⟩

/-- An instance reads its record. -/
theorem InstancesInv.readPersistedData (h : InstancesInv s)
    (hstep : s.readPersistedData codec' opts i = some s') :
    InstancesInv s' := by
  unfold ActorInstances.readPersistedData at hstep
  split at hstep
  case h_2 => cases hstep
  case h_1 e entry load body write alarm user hi =>
    have hok := h.instances i _ hi
    have hblank : body = none := hok.blank _ _ rfl
    split at hstep
    case isFalse => cases hstep
    case isTrue =>
      split at hstep
      case h_2 =>
        rw [← Option.some.inj hstep]
        refine h.failStart hi ?_
        intro body' hbody
        rw [hblank] at hbody
        cases hbody
      case h_1 record hrecord =>
        rw [← Option.some.inj hstep]
        refine h.modify hi ⟨rfl, fun _ => rfl, ?_, ?_⟩ ?_
        · intro _ hstopped
          obtain ⟨body', hbody, -⟩ := hstopped
          rw [hblank] at hbody
          cases hbody
        · constructor
          case blank =>
            intro e' load' hstage
            dsimp only at hstage
            split at hstage
            · cases hstage
            · cases hstage
          case fresh =>
            intro _ body' hbody
            rw [← Option.some.inj hbody]
            exact ⟨rfl, (initialized_idle record).1⟩
          case flight =>
            intro body' snapshot hbody hflight
            rw [← Option.some.inj hbody] at hflight
            rw [(initialized_idle record).1] at hflight
            cases hflight
          case driver =>
            -- nothing is written before the record is read
            intro hsome
            rcases hok.driver hsome with hinit | hflight
            · cases hinit
            · obtain ⟨body', snapshot, hbody, -⟩ := hflight
              rw [hblank] at hbody
              cases hbody
          case unread => exact fun hnone => nomatch hnone
          case body =>
            intro body' hbody
            rw [← Option.some.inj hbody]
            exact .initialized record
        · refine h.sleeps.modify hi ?_
          intro body' hbody
          rw [← Option.some.inj hbody]
          exact Or.inl (initialized_idle record).2

/-- A call of the driver loads, and its write is under way. -/
theorem callDriver_grown (s : ActorInstances) (i : Nat)
    (record : PersistedActor) :
    ∃ write, Grown
        (s.modifyInstance i fun inst => { inst with write := some write })
        (s.callDriver codec' i record)
      ∧ (s.callDriver codec' i record).sleeps = s.sleeps
      ∧ (s.callDriver codec' i record).starts = s.starts := by
  unfold ActorInstances.callDriver
  split
  case h_1 data hdata =>
    obtain ⟨⟨⟨hinstances, hactor, hactors⟩, happlied, hstart⟩, -, hsleeps,
      hstarts⟩ := loadActor_grown s
    refine ⟨.awaitLoad s.loadActor.2.1 s.loadActor.2.2 data,
      ⟨⟨?_, hactor, hactors⟩, happlied, hstart⟩, hsleeps, hstarts⟩
    exact congrArg (fun l : List DriverInstance => l.modify i _) hinstances
  case h_2 => exact ⟨.settled false, Grown.refl _, rfl, rfl⟩

/-- The invariant where the driver is called, from the invariant with a
write under way. -/
theorem InstancesInv.callDriver {record : PersistedActor}
    (h : ∀ write, InstancesInv
      (s.modifyInstance i fun inst => { inst with write := some write })) :
    InstancesInv (s.callDriver codec' i record) := by
  obtain ⟨write, hgrown, hsleeps, hstarts⟩ :=
    @callDriver_grown codec' s i record
  exact (h write).loaded hgrown hsleeps hstarts

/-- Two changes of an instance are one. -/
theorem modifyInstance_modifyInstance
    (f g : DriverInstance → DriverInstance) :
    (s.modifyInstance i f).modifyInstance i g
      = s.modifyInstance i fun inst => g (f inst) := by
  unfold ActorInstances.modifyInstance
  rw [List.modify_modify_eq]
  rfl

theorem InstancesInv.initialWrite (h : InstancesInv s) {state : Value}
    (hstep : s.initialWrite codec' opts i state = some s') :
    InstancesInv s' := by
  unfold ActorInstances.initialWrite at hstep
  split at hstep
  case h_2 => cases hstep
  case h_1 e body alarm user hi =>
    have hok := h.instances i _ hi
    have hfresh := hok.fresh rfl body rfl
    rw [← Option.some.inj hstep]
    refine InstancesInv.callDriver ?_
    intro write
    rw [modifyInstance_modifyInstance]
    refine h.modify hi ⟨rfl, fun _ => rfl, ?_, ?_⟩ ?_
    · intro _ hgiven
      obtain ⟨body', hbody, hresolved⟩ := hgiven
      rw [← Option.some.inj hbody, hfresh.1] at hresolved
      cases hresolved
    · constructor
      case blank => exact fun _ _ hstage => nomatch hstage
      case fresh =>
        intro _ body' hbody
        rw [← Option.some.inj hbody]
        exact ⟨rfl, (initialized_idle _).1⟩
      case flight => exact fun _ _ _ _ => rfl
      case driver => exact fun _ => Or.inl rfl
      case unread => exact fun hnone => nomatch hnone
      case body =>
        intro body' hbody
        rw [← Option.some.inj hbody]
        exact .initialized _
    · refine h.sleeps.modify hi ?_
      intro body' hbody
      rw [← Option.some.inj hbody]
      exact Or.inl (initialized_idle _).2

theorem InstancesInv.initialWritten (h : InstancesInv s)
    (hstep : s.initialWritten i = some s') : InstancesInv s' := by
  unfold ActorInstances.initialWritten at hstep
  split at hstep
  case h_2 => cases hstep
  case h_1 e body ok alarm user hi =>
    have hok := h.instances i _ hi
    have hwrite : ∀ body', body = some body' → body'.write = none :=
      fun body' hbody => (hok.fresh rfl body' hbody).2
    split at hstep
    · rw [← Option.some.inj hstep]
      exact h.modify hi (.late hok.toInstanceAlone rfl rfl rfl rfl rfl
        (Or.inl ⟨rfl, hwrite⟩)) (h.sleeps.sameBody hi rfl)
    · rw [← Option.some.inj hstep]
      exact h.failStart hi hwrite

theorem InstancesInv.startEnds (h : InstancesInv s) {ok : Bool}
    (hstep : s.startEnds i ok = some s') : InstancesInv s' := by
  unfold ActorInstances.startEnds at hstep
  split at hstep
  case h_2 => cases hstep
  case h_1 e body write alarm user hi =>
    have hok := h.instances i _ hi
    split at hstep
    · rw [← Option.some.inj hstep]
      have hmodify : InstancesInv (s.modifyInstance i fun inst =>
          { inst with
            stage := .started
            body := some { body with ready := true } }) := by
        refine h.modify hi ⟨rfl, fun hearly => (nomatch hearly), ?_, ?_⟩ ?_
        · intro _ hgiven
          obtain ⟨body', hbody, hresolved⟩ := hgiven
          rw [← Option.some.inj hbody] at hresolved
          exact ⟨_, rfl, hresolved⟩
        · constructor
          case blank => exact fun _ _ hstage => nomatch hstage
          case fresh => exact fun hstage => nomatch hstage
          case flight =>
            intro body' snapshot hbody hflight
            rw [← Option.some.inj hbody] at hflight
            exact hok.flight body snapshot rfl hflight
          case driver =>
            intro hsome
            obtain ⟨body', snapshot, hbody, hflight⟩ :=
              (hok.driver hsome).resolve_left fun hstage => nomatch hstage
            rw [← Option.some.inj hbody] at hflight
            exact Or.inr ⟨_, snapshot, rfl, hflight⟩
          case unread => exact fun hnone => nomatch hnone
          case body =>
            intro body' hbody
            rw [← Option.some.inj hbody]
            have hbody := hok.body body rfl
            exact hbody.stays rfl
              (hbody.writes.congr rfl rfl rfl rfl rfl rfl) rfl hbody.saved
        · refine h.sleeps.modify hi ?_
          intro body' hbody
          rw [← Option.some.inj hbody]
          exact Or.inr ⟨body, rfl, rfl⟩
      have hend := hmodify.endStart (modifyInstance_self hi) rfl
      exact hend
    · rw [← Option.some.inj hstep]
      have hmodify : InstancesInv (s.modifyInstance i fun inst =>
          { inst with stage := .failed }) :=
        h.modify hi (.late hok.toInstanceAlone rfl rfl rfl rfl rfl
          (Or.inr ⟨rfl, by simp⟩)) (h.sleeps.sameBody hi rfl)
      have hend := hmodify.endStart (modifyInstance_self hi) rfl
      exact hend

-- ======================================================== a new instance

/-- The entry at `e` gets a new instance. -/
def withInstance (s : ActorInstances) (e : Nat) (inst : DriverInstance) :
    ActorInstances :=
  { s.modifyEntry e fun entry =>
      { entry with
        actor := some s.instances.length
        startPromise := some s.instances.length } with
    instances := s.instances ++ [inst] }

section NewInstance

variable {e : Nat} {inst : DriverInstance}

theorem withInstance_length :
    (withInstance s e inst).entries.length = s.entries.length :=
  List.length_modify ..

theorem withInstance_entryAt_self (he : e < s.entries.length) :
    (withInstance s e inst).entryAt e
      = { s.entryAt e with
          actor := some s.instances.length
          startPromise := some s.instances.length } :=
  entryAt_modifyEntry_self he

theorem withInstance_entryAt_of_ne {e' : Nat} (hne : e' ≠ e) :
    (withInstance s e inst).entryAt e' = s.entryAt e' :=
  entryAt_modifyEntry_of_ne hne

theorem withInstance_new :
    (withInstance s e inst).instances[s.instances.length]? = some inst := by
  show (s.instances ++ [inst])[s.instances.length]? = some inst
  rw [List.getElem?_append_right (Nat.le_refl _), Nat.sub_self]
  rfl

/-- No instance is behind the new one. -/
theorem withInstance_le {j : Nat} {other : DriverInstance}
    (hj : (withInstance s e inst).instances[j]? = some other) :
    j ≤ s.instances.length := by
  have hlt := (List.getElem?_eq_some_iff.1 hj).1
  have hlt : j < (s.instances ++ [inst]).length := hlt
  rw [List.length_append, List.length_singleton] at hlt
  omega

theorem EntriesOk.added (h : EntriesOk s) (he : s.actors = some e)
    (hentry : inst.entry = e) : EntriesOk (withInstance s e inst) := by
  have hlast := h.last e he
  constructor
  case last =>
    intro e' he'
    rw [withInstance_length]
    exact h.last e' he'
  case gone =>
    intro e' he' hne
    have hne' : e' ≠ e := by
      intro heq
      rw [heq] at hne
      exact hne he
    rw [withInstance_length] at he'
    obtain ⟨other, hother, hstopped⟩ := h.gone e' he' hne
    obtain ⟨j, howner, hj⟩ := Option.bind_eq_some_iff.1 hother
    refine ⟨other, ?_, hstopped⟩
    unfold ActorInstances.actorOf
    rw [withInstance_entryAt_of_ne hne', howner]
    exact Lists.getElem?_concat_of_some hj
  case made =>
    intro e' j howner
    by_cases hee : e' = e
    · rw [hee, withInstance_entryAt_self (by omega)] at howner
      rw [← Option.some.inj howner, hee]
      exact ⟨inst, withInstance_new, hentry⟩
    · rw [withInstance_entryAt_of_ne hee] at howner
      obtain ⟨other, hj, hother⟩ := h.made e' j howner
      exact ⟨other, Lists.getElem?_concat_of_some hj, hother⟩
  case starts =>
    intro e' load hmem
    rw [withInstance_length]
    exact h.starts e' load hmem

/-- A call of `sleepActor` that is under way finds the new instance, which
has nothing to stop yet. -/
theorem SleepsOk.added (h : SleepsOk s) (he : s.actors = some e)
    (hlt : e < s.entries.length) (hfree : (s.entryAt e).actor = none)
    (hbody : inst.body = none) : SleepsOk (withInstance s e inst) := by
  have hopen : NotStopping (withInstance s e inst) e := by
    intro other body hother hread
    have howner : ((withInstance s e inst).entryAt e).actor
        = some s.instances.length := by
      rw [withInstance_entryAt_self hlt]
    rw [actorOf_eq howner, withInstance_new] at hother
    rw [← Option.some.inj hother, hbody] at hread
    cases hread
  constructor
  case current =>
    intro call hcall hpc
    obtain ⟨hcurrent, hok⟩ := h.current call hcall hpc
    refine ⟨hcurrent, ?_⟩
    have hentry : call.entry = e := by
      rw [he] at hcurrent
      exact (Option.some.inj hcurrent).symm
    rw [hentry] at hok ⊢
    cases hpc' : call.pc with
    | awaitLoad load => exact hopen
    | awaitStart => exact hopen
    | awaitStop i =>
        rw [hpc'] at hok
        have hok : (s.entryAt e).actor = some i := hok
        rw [hfree] at hok
        cases hok
    | returning =>
        rw [hpc'] at hok
        exact hok
    | ended => trivial
  case single => exact h.single

/-- The instances there are do not change. -/
theorem InstanceOk.added {j : Nat} {other : DriverInstance}
    (h : InstanceOk s j other) (hfree : (s.entryAt e).actor = none) :
    InstanceOk (withInstance s e inst) j other := by
  obtain ⟨halone, hin, howner, hearly⟩ := h
  have hne : other.entry ≠ e := by
    intro hee
    rw [hee, hfree] at howner
    cases howner
  refine ⟨halone, ?_, ?_, ?_⟩
  · rw [withInstance_length]
    exact hin
  · rw [withInstance_entryAt_of_ne hne]
    exact howner
  · rw [withInstance_entryAt_of_ne hne]
    exact hearly

/-- What is true of the new instance, which is to read its record. -/
theorem instanceOk_new {entry : Nat} {load : Option Nat}
    (hlt : e < s.entries.length) :
    InstanceOk
      (withInstance s e { entry := e, stage := .reading entry load })
      s.instances.length { entry := e, stage := .reading entry load } := by
  constructor
  case entry =>
    rw [withInstance_length]
    exact hlt
  case owner => rw [withInstance_entryAt_self hlt]
  case early =>
    intro _
    rw [withInstance_entryAt_self hlt]
  case toInstanceAlone =>
    constructor
    case blank => exact fun _ _ _ => rfl
    case fresh => exact fun hstage => nomatch hstage
    case flight => exact fun _ _ hbody => nomatch hbody
    case driver => exact fun hsome => nomatch hsome
    case unread => exact fun _ => rfl
    case body => exact fun _ hbody => nomatch hbody

/-- The entry in the map has no instance, and gets one. -/
theorem InstancesInv.addInstance (h : InstancesInv s) {entry : Nat}
    {load : Option Nat} (he : s.actors = some e)
    (hfree : (s.entryAt e).actor = none) :
    InstancesInv
      (withInstance s e { entry := e, stage := .reading entry load }) := by
  have hlast := h.entries.last e he
  have hlt : e < s.entries.length := by omega
  constructor
  case entries => exact h.entries.added he rfl
  case sleeps => exact h.sleeps.added he hlt hfree rfl
  case instances =>
    intro j other hj
    rcases Lists.getElem?_concat hj with hold | ⟨hjn, heq⟩
    · exact (h.instances j other hold).added hfree
    · rw [hjn, heq]
      exact instanceOk_new hlt
  case order =>
    intro j k a b ha hb hjk
    have hk := withInstance_le hb
    rcases Lists.getElem?_concat ha with ha | ⟨hj, -⟩
    · rcases Lists.getElem?_concat hb with hb | ⟨-, heq⟩
      · exact h.order j k a b ha hb hjk
      · -- the entry is the last, and the old instance has another
        have hok := h.instances j a ha
        have hin := hok.entry
        have hne : a.entry ≠ e := by
          intro hee
          have howner := hok.owner
          rw [hee, hfree] at howner
          cases howner
        rw [heq]
        show a.entry < e
        omega
    · omega
  case applied => exact h.applied

end NewInstance

theorem InstancesInv.instantiate (h : InstancesInv s) {e : Nat}
    (he : s.actors = some e) (hfree : (s.entryAt e).actor = none) :
    InstancesInv (s.instantiate e) := by
  have hloaded := loadActor_grown (s.modifyEntry e fun entry =>
    { entry with
      actor := some s.instances.length
      startPromise := some s.instances.length })
  unfold ActorInstances.instantiate
  dsimp only
  generalize (s.modifyEntry e fun entry =>
    { entry with
      actor := some s.instances.length
      startPromise := some s.instances.length }).loadActor = loaded
    at hloaded ⊢
  obtain ⟨t, entry, load⟩ := loaded
  obtain ⟨⟨⟨hinstances, hactor, hactors⟩, happlied, hstart⟩, -, hsleeps,
    hstarts⟩ := hloaded
  have hadded := @InstancesInv.addInstance s e h entry load he hfree
  have hgrown : Grown
      (withInstance s e { entry := e, stage := .reading entry load })
      { t with instances := t.instances
          ++ [{ entry := e, stage := .reading entry load }] } := by
    refine ⟨⟨?_, hactor, hactors⟩, happlied, hstart⟩
    exact congrArg (· ++ [_]) hinstances
  exact hadded.loaded hgrown hsleeps hstarts

/-- A call of `startActor` goes on. An entry that is not in the map has an
instance. -/
theorem InstancesInv.resumeStart (h : InstancesInv s) {k : Nat}
    {instantiates : Bool}
    (hstep : s.resumeStart k instantiates = some s') :
    InstancesInv s' := by
  unfold ActorInstances.resumeStart at hstep
  split at hstep
  case h_2 => cases hstep
  case h_1 e load hk =>
    have hended : InstancesInv { s with starts := s.starts.set k .ended } := by
      refine h.grown ⟨⟨rfl, fun _ => rfl, Or.inl ⟨rfl, rfl⟩⟩, rfl,
        fun _ => rfl⟩ rfl ?_
      intro e' load' hmem
      rcases List.mem_or_eq_of_mem_set hmem with hmem | heq
      · exact h.entries.starts e' load' hmem
      · cases heq
    dsimp only at hstep
    split at hstep
    · split at hstep
      case isFalse =>
        rw [← Option.some.inj hstep]
        exact hended
      case isTrue hmakes =>
        simp only [Bool.and_eq_true, Option.isNone_iff_eq_none] at hmakes
        obtain ⟨⟨-, hfree⟩, -⟩ := hmakes
        rw [← Option.some.inj hstep]
        refine hended.instantiate ?_ hfree
        by_contra hgone
        have hlt := h.entries.starts e load (List.mem_of_getElem? hk)
        obtain ⟨inst, hinst, -⟩ := h.entries.gone e hlt hgone
        unfold ActorInstances.actorOf at hinst
        rw [hfree] at hinst
        cases hinst
    · rw [← Option.some.inj hstep]
      exact hended
    · cases hstep

-- ================================================= the writes, user code

/-- The invariant where an instance keeps its record and its stage. -/
theorem InstancesInv.around (h : InstancesInv s)
    (hi : s.instances[i]? = some old) (hentry : (f old).entry = old.entry)
    (hbody : (f old).body = old.body) (hstage : (f old).stage = old.stage)
    (hwrite : (f old).write.isSome = old.write.isSome)
    (hunread : old.body = none → (f old).userCode = {})
    (hok : ∀ body, old.body = some body →
      BodyOk (f old).userCode (f old).alarm body) :
    InstancesInv (s.modifyInstance i f) := by
  have halone := (h.instances i old hi).toInstanceAlone
  refine h.modify hi ⟨hentry, ?_, ?_, ?_⟩ (h.sleeps.sameBody hi hbody)
  · rw [hstage]
    exact fun hearly => hearly
  · intro _ hgiven
    obtain ⟨body, hread, hresolved⟩ := hgiven
    rw [← hbody] at hread
    exact ⟨body, hread, hresolved⟩
  · constructor
    case blank =>
      rw [hstage, hbody]
      exact halone.blank
    case fresh =>
      rw [hstage, hbody]
      exact halone.fresh
    case flight =>
      rw [hbody, hwrite]
      exact halone.flight
    case driver =>
      rw [hbody, hwrite, hstage]
      exact halone.driver
    case unread =>
      rw [hbody]
      exact hunread
    case body =>
      rw [hbody]
      exact hok

/-- The call of the driver that is under way goes on. A superseded
instance has none. -/
theorem InstancesInv.setWrite (h : InstancesInv s) {pc : PersistPc}
    (hi : s.instances[i]? = some old) (hwrite : old.write = some pc)
    (new : PersistPc) :
    ¬ s.Superseded i ∧ InstancesInv
      (s.modifyInstance i fun inst => { inst with write := some new }) := by
  have hok := h.instances i old hi
  refine ⟨?_, ?_⟩
  · intro hnewer
    have hnone := (h.superseded_quiet hi hnewer).write
    rw [hwrite] at hnone
    cases hnone
  · refine h.around hi rfl rfl rfl ?_ hok.unread hok.body
    rw [hwrite]
    rfl

theorem InstancesInv.resumeWrite (h : InstancesInv s)
    (hstep : s.resumeWrite i = some s') : InstancesInv s' := by
  unfold ActorInstances.resumeWrite at hstep
  split at hstep
  case h_2 => cases hstep
  case h_1 e load data hpc =>
    obtain ⟨old, hi, hwrite⟩ := Option.bind_eq_some_iff.1 hpc
    have hset := fun new => (h.setWrite hi hwrite new).2
    dsimp only at hstep
    split at hstep
    · split at hstep
      · rw [← Option.some.inj hstep]
        exact hset _
      · rw [← Option.some.inj hstep]
        exact hset _
    · rw [← Option.some.inj hstep]
      exact hset _
    · rw [← Option.some.inj hstep]
      exact hset _
    · cases hstep

/-- A write of an instance that is not superseded is renamed. -/
theorem InstancesInv.apply (h : InstancesInv s) (hnewest : ¬ s.Superseded i)
    (stateFile : Option ActorState) :
    InstancesInv { s.apply i with stateFile := stateFile } := by
  have howned : Owned s { s.apply i with stateFile := stateFile } :=
    ⟨rfl, fun _ => rfl, Or.inl ⟨rfl, rfl⟩⟩
  refine h.owned howned (fun _ _ _ _ => rfl) (h.sleeps.owned howned rfl)
    h.entries.starts ?_
  intro w hw j hj
  rcases List.mem_append.1 hw with hold | hnew
  · exact h.applied w hold j hj
  · rw [List.mem_singleton.1 hnew] at hj ⊢
    by_contra hlt
    have hread := (List.mem_filter.1 hj).2
    cases hget : s.instances[j]? with
    | none =>
        rw [hget] at hread
        cases hread
    | some inst =>
        rw [hget] at hread
        exact hnewest ⟨j, inst, Nat.lt_of_not_le hlt, hget, hread⟩

theorem InstancesInv.rename (h : InstancesInv s) {ok : Bool}
    (hstep : s.rename i ok = some s') : InstancesInv s' := by
  unfold ActorInstances.rename at hstep
  split at hstep
  case h_2 => cases hstep
  case h_1 state hpc =>
    obtain ⟨old, hi, hwrite⟩ := Option.bind_eq_some_iff.1 hpc
    obtain ⟨hnewest, hset⟩ := h.setWrite hi hwrite (.settled ok)
    dsimp only at hstep
    split at hstep
    · rw [← Option.some.inj hstep]
      refine hset.apply ?_ (some state)
      rw [superseded_modifyInstance hi rfl]
      exact hnewest
    · rw [← Option.some.inj hstep]
      exact hset

/-- The user code and the alarm queue of an instance change, as long as
they stay ended behind what waits for them. -/
theorem BodyOk.code {code code' : UserCode} {alarm alarm' : Option Bool}
    {b : StoppingInstance} (h : BodyOk code alarm b)
    (honStop : code.onStop = false → code'.onStop = false)
    (hbackground : b.stopPc ≠ none → code.backgroundPromises = 0 →
      code'.backgroundPromises = 0)
    (hstopped : b.stopPc = some .resolved → code.others = 0 → alarm = none →
      code'.others = 0 ∧ alarm' = none) : BodyOk code' alarm' b := by
  constructor
  case writes => exact h.writes
  case called => exact h.called
  case saved => exact h.saved
  case onStop => exact fun hcalled hpc => honStop (h.onStop hcalled hpc)
  case background =>
    exact fun hcalled hpc hpc' =>
      hbackground hcalled (h.background hcalled hpc hpc')
  case stopped =>
    intro hresolved
    obtain ⟨hothers, halarm⟩ := h.stopped hresolved
    exact hstopped hresolved hothers halarm

theorem InstancesInv.queueSetAlarm (h : InstancesInv s)
    (hsafe : instancesSafe s (.queueSetAlarm i))
    (hstep : s.queueSetAlarm i = some s') : InstancesInv s' := by
  unfold ActorInstances.queueSetAlarm at hstep
  split at hstep
  case h_2 => cases hstep
  case h_1 old hi =>
    have hok := h.instances i old hi
    split at hstep
    · rw [← Option.some.inj hstep]
      refine h.around hi rfl rfl rfl rfl hok.unread ?_
      intro body hbody
      refine (hok.body body hbody).code (fun h => h) (fun _ h => h) ?_
      exact fun hresolved => absurd ⟨body, hbody, hresolved⟩ (hsafe old hi)
    · cases hstep

theorem InstancesInv.renameAlarm (h : InstancesInv s) {ok : Bool}
    (hstep : s.renameAlarm i ok = some s') : InstancesInv s' := by
  unfold ActorInstances.renameAlarm at hstep
  split at hstep
  case h_2 => cases hstep
  case h_1 queued halarm =>
    obtain ⟨old, hi, halarm⟩ := Option.bind_eq_some_iff.1 halarm
    have hok := h.instances i old hi
    have hnewest : ¬ s.Superseded i := by
      intro hnewer
      have hnone := (h.superseded_quiet hi hnewer).alarm
      rw [halarm] at hnone
      cases hnone
    have hset : InstancesInv (s.modifyInstance i fun inst =>
        { inst with alarm := if queued then some false else none }) := by
      refine h.around hi rfl rfl rfl rfl hok.unread ?_
      intro body hbody
      refine (hok.body body hbody).code (fun h => h) (fun _ h => h) ?_
      intro _ _ hnone
      rw [halarm] at hnone
      cases hnone
    dsimp only at hstep
    split at hstep
    · rw [← Option.some.inj hstep]
      refine hset.apply ?_ s.stateFile
      rw [superseded_modifyInstance hi rfl]
      exact hnewest
    · rw [← Option.some.inj hstep]
      exact hset

theorem InstancesInv.userCode (h : InstancesInv s)
    (hsafe : instancesSafe s (.userCode i))
    (hstep : s.userCode i = some s') : InstancesInv s' := by
  unfold ActorInstances.userCode at hstep
  split at hstep
  case isFalse => cases hstep
  case isTrue hread =>
    obtain ⟨old, hi, hread⟩ := (Option.any_eq_true ..).1 hread
    rw [← Option.some.inj hstep]
    refine h.around hi rfl rfl rfl rfl ?_ ?_
    · intro hnone
      rw [hnone] at hread
      cases hread
    · intro body hbody
      refine ((h.instances i old hi).body body hbody).code (fun h => h)
        (fun _ h => h) ?_
      exact fun hresolved => absurd ⟨body, hbody, hresolved⟩ (hsafe old hi)

/-- Behind a call of `_stop` the instance takes no promise. -/
theorem InstancesInv.waitUntil (h : InstancesInv s)
    (hstep : s.waitUntil i = some s') : InstancesInv s' := by
  unfold ActorInstances.waitUntil at hstep
  split at hstep
  case isFalse => cases hstep
  case isTrue hgiven =>
    obtain ⟨old, hi, hready⟩ := (Option.any_eq_true ..).1 hgiven
    obtain ⟨body, hbody, hready⟩ := (Option.any_eq_true ..).1 hready
    have hok := (h.instances i old hi).body body hbody
    have hpc : body.stopPc = none := by
      by_contra hcalled
      unfold ActorInstance.assertReady at hready
      rw [hok.called hcalled] at hready
      simp at hready
    rw [← Option.some.inj hstep]
    refine h.around hi rfl rfl rfl rfl ?_ ?_
    · intro hnone
      rw [hnone] at hbody
      cases hbody
    · intro body' hbody'
      rw [hbody] at hbody'
      rw [← Option.some.inj hbody']
      refine hok.code (fun h => h) (fun hcalled => absurd hpc hcalled) ?_
      intro hresolved
      rw [hpc] at hresolved
      cases hresolved

theorem InstancesInv.userCodeEnds (h : InstancesInv s)
    {kind : UserCodeKind} (hstep : s.userCodeEnds i kind = some s') :
    InstancesInv s' := by
  unfold ActorInstances.userCodeEnds at hstep
  split at hstep
  case isFalse => cases hstep
  case isTrue hruns =>
    obtain ⟨old, hi, hruns⟩ := (Option.any_eq_true ..).1 hruns
    have hok := h.instances i old hi
    rw [← Option.some.inj hstep]
    refine h.around hi rfl rfl rfl rfl ?_ ?_
    · intro hnone
      rw [hok.unread hnone] at hruns
      cases kind <;> cases hruns
    · intro body hbody
      refine (hok.body body hbody).code ?_ ?_ ?_
      · intro honStop
        cases kind with
        | onStop => rfl
        | backgroundPromise => exact honStop
        | other => exact honStop
      · intro _ hbackground
        cases kind with
        | onStop => exact hbackground
        | backgroundPromise =>
            show old.userCode.backgroundPromises - 1 = 0
            rw [hbackground]
        | other => exact hbackground
      · intro _ hothers halarm
        refine ⟨?_, halarm⟩
        cases kind with
        | onStop => exact hothers
        | backgroundPromise => exact hothers
        | other =>
            show old.userCode.others - 1 = 0
            rw [hothers]

-- ==================================================== the instance itself

/-- The call of the driver ends with the write, and stays otherwise. -/
theorem writeAfter_cases (inst : DriverInstance) (a : StopStep) :
    (writeAfter inst a = inst.write ∧ ∀ ok, a ≠ .save (.driverWrite ok))
      ∨ writeAfter inst a = none := by
  unfold writeAfter
  split
  case h_1 ok => exact Or.inr rfl
  case h_2 hnot => exact Or.inl ⟨rfl, hnot⟩

/-- An instance takes a step that keeps what is true of its record. -/
theorem InstancesInv.advance (h : InstancesInv s) {inst : DriverInstance}
    {body : StoppingInstance} {a : StopStep}
    (hi : s.instances[i]? = some inst) (hbody : inst.body = some body)
    (hstage : inst.stage ≠ .initializing) (ha : a ≠ .stop)
    (hkept : ∀ body', stopStep codec'.toCodec opts body a = some body' →
      BodyOk inst.userCode inst.alarm body')
    (hstep : s.advance codec' opts i inst body a = some s') :
    InstancesInv s' := by
  have hok := h.instances i inst hi
  obtain ⟨body', hstop, heq⟩ := Option.map_eq_some_iff.1 hstep
  have hset : ∀ write,
      (∀ snapshot, body'.write = some ⟨snapshot, .inFlight⟩ →
        write.isSome = true) →
      (write.isSome = true →
        ∃ snapshot, body'.write = some ⟨snapshot, .inFlight⟩) →
      InstancesInv (s.modifyInstance i fun inst =>
        { inst with body := some body', write := write }) := by
    intro write hflight hdriver
    refine h.modify hi ⟨rfl, fun hearly => hearly, ?_, ?_⟩ ?_
    · intro _ hgiven
      obtain ⟨body₁, hbody₁, hresolved⟩ := hgiven
      rw [hbody] at hbody₁
      rw [← Option.some.inj hbody₁] at hresolved
      exact ⟨body', rfl, stopStep_resolved ha hresolved hstop⟩
    · constructor
      case blank =>
        intro e load hreading
        rw [hok.blank e load hreading] at hbody
        cases hbody
      case fresh => exact fun hinit => absurd hinit hstage
      case flight =>
        intro body₁ snapshot hbody₁ hwrites
        rw [← Option.some.inj hbody₁] at hwrites
        exact hflight snapshot hwrites
      case driver =>
        intro hsome
        obtain ⟨snapshot, hwrites⟩ := hdriver hsome
        exact Or.inr ⟨body', snapshot, rfl, hwrites⟩
      case unread => exact fun hnone => nomatch hnone
      case body =>
        intro body₁ hbody₁
        rw [← Option.some.inj hbody₁]
        exact hkept body' hstop
    · refine h.sleeps.modify hi ?_
      intro body₁ hbody₁
      rw [← Option.some.inj hbody₁]
      exact Or.inr ⟨body, hbody, stopStep_stopCalled ha hstop⟩
  dsimp only at heq
  split at heq
  case h_1 snapshot hbegun hnone =>
    rw [← heq]
    refine InstancesInv.callDriver ?_
    intro write
    rw [modifyInstance_modifyInstance]
    exact hset (some write) (fun _ _ => rfl) (fun _ => ⟨snapshot, hbegun⟩)
  case h_2 hother =>
    rw [← heq]
    refine hset _ ?_ ?_
    · intro snapshot hbegun
      cases hwrite : writeAfter inst a with
      | none => exact absurd hwrite (hother snapshot hbegun)
      | some write => rfl
    · -- the driver is still at the write that was in flight
      intro hsome
      rcases writeAfter_cases inst a with ⟨hsame, hnot⟩ | hnone
      · rw [hsame] at hsome
        obtain ⟨body₁, snapshot, hbody₁, hflight⟩ :=
          (hok.driver hsome).resolve_left hstage
        rw [hbody] at hbody₁
        rw [← Option.some.inj hbody₁] at hflight
        refine ⟨snapshot, ?_⟩
        rw [stopStep_flight (hok.body body hbody).writes hflight hnot hstop]
        exact hflight
      · rw [hnone] at hsome
        cases hsome

/-- A step of an instance. What `_stop` waits for has ended. -/
theorem InstancesInv.live (h : InstancesInv s) {a : StopStep}
    (hsafe : instancesSafe s (.live i a))
    (hstep : s.live codec' opts i a = some s') : InstancesInv s' := by
  unfold ActorInstances.live at hstep
  split at hstep
  case h_2 => cases hstep
  case h_1 inst hi =>
    have hok := h.instances i inst hi
    split at hstep
    case h_2 => cases hstep
    case h_1 body hbody =>
      split at hstep
      case isFalse => cases hstep
      case isTrue htakes =>
        obtain ⟨hstage, htakes⟩ := htakes
        have ha : a ≠ .stop := by
          rintro rfl
          cases htakes
        refine h.advance hi hbody hstage ha ?_ hstep
        intro body' hstop
        refine (hok.body body hbody).step ha ?_ ?_ ?_ ?_ hstop
        · intro hasks hdone
          cases a with
          | alarmQueueEnds => cases hasks
          | _ => exact hsafe hasks inst body hi hbody hdone
        · rintro rfl
          simpa [takes] using htakes
        · rintro rfl
          simpa [takes] using htakes
        · rintro rfl
          exact ⟨hsafe inst hi, by simpa [takes] using htakes⟩

/-- A deadline of `_stop` passes behind the end of what it bounds. -/
theorem InstancesInv.deadline (h : InstancesInv s)
    (hsafe : instancesSafe s (.deadline i))
    (hstep : s.deadline codec' opts i = some s') : InstancesInv s' := by
  unfold ActorInstances.deadline at hstep
  split at hstep
  case h_2 => cases hstep
  case h_1 inst hi =>
    have hok := h.instances i inst hi
    split at hstep
    case h_2 => cases hstep
    case h_1 body hbody =>
      obtain ⟨honStop, hbackground⟩ := hsafe inst body hi hbody
      have hstage : body.stopPc ≠ none → inst.stage ≠ .initializing :=
        fun hcalled hinit => hcalled (hok.fresh hinit body hbody).1
      split at hstep
      case h_1 hpc =>
        refine h.advance hi hbody (hstage (by rw [hpc]; simp)) (by simp) ?_
          hstep
        intro body' hstop
        refine (hok.body body hbody).step (a := .onStopEnds) (by simp) ?_
          (fun _ => honStop hpc) (fun heq => nomatch heq)
          (fun heq => nomatch heq) hstop
        exact fun hasks => nomatch hasks
      case h_2 hpc =>
        refine h.advance hi hbody (hstage (by rw [hpc]; simp)) (by simp) ?_
          hstep
        intro body' hstop
        refine (hok.body body hbody).step (a := .backgroundEnds) (by simp) ?_
          (fun heq => nomatch heq) (fun _ => hbackground hpc)
          (fun heq => nomatch heq) hstop
        exact fun hasks => nomatch hasks
      case h_3 => cases hstep

end RivetKit.Drivers.FileSystem
