/-
What `startActor` returns in any run, starts that fail included: an
instance whose start has ended, one way or the other (`SettledInv`). And
instances only go on (`Later`): what has ended stays ended, and what is
ready stays ready.
-/
import RivetKit.Drivers.FileSystem.StartActor
import RivetKit.Lib.Lists

namespace RivetKit.Drivers.FileSystem

open Transition
open Actor
open Lists

variable {registry : RegistryConfig}

namespace GlobalState

-- ====================================================== ended starts

/-- The start of the instance `i` has ended. -/
def Settled (s : GlobalState) (i : Nat) : Prop :=
  s.instances[i]? = some .ready
    ∨ ∃ stage : StartStage, s.instances[i]? = some (.failed stage)

/-- A call that returned has an instance whose start has ended. A call
that drives an attempt has its pending one, until the start ends. -/
def SettledCall (s : GlobalState) (call : StartCall) : Prop :=
  match call.pc with
  | .starting a i => i < s.instances.length
      ∧ ∀ stage : StartStage, s.instances[i]? = some (.starting stage) →
        s.starts[a]? = some (.pending i)
  | .returned i => s.Settled i
  | _ => True

/-- The entry, its promises and its instance. -/
structure SettledInv (s : GlobalState) : Prop where
  promise : ∀ a : Nat, s.upsertEntry.startPromise = some a →
    ∃ (i : Nat) (stage : StartStage), s.starts[a]? = some (.pending i)
      ∧ s.upsertEntry.actor = some i
      ∧ s.instances[i]? = some (.starting stage)
  pending : ∀ a i : Nat, s.starts[a]? = some (.pending i) →
    s.upsertEntry.startPromise = some a
  actor : ∀ i : Nat, s.upsertEntry.actor = some i →
    s.upsertEntry.startPromise = none → s.Settled i
  started : ∀ a i : Nat, s.starts[a]? = some (.started i) →
    s.upsertEntry.actor = some i ∧ s.Settled i
  calls : ∀ call ∈ s.calls, SettledCall s call

/-- Instances only go on from `s` to `s'`. -/
structure Later (s s' : GlobalState) : Prop where
  ready : ∀ i : Nat, s.instances[i]? = some .ready →
    s'.instances[i]? = some .ready
  failed : ∀ (i : Nat) (stage : StartStage),
    s.instances[i]? = some (.failed stage) →
    s'.instances[i]? = some (.failed stage)
  length : s.instances.length ≤ s'.instances.length
  starting : ∀ (i : Nat) (stage : StartStage), i < s.instances.length →
    s'.instances[i]? = some (.starting stage) →
    ∃ stage' : StartStage, s.instances[i]? = some (.starting stage')
      ∧ ∀ a : Nat, s.starts[a]? = some (.pending i) →
        s'.starts[a]? = some (.pending i)

theorem Later.settled {s s' : GlobalState} (h : Later s s') {i : Nat}
    (hi : s.Settled i) : s'.Settled i := by
  rcases hi with hready | ⟨stage, hfailed⟩
  · exact Or.inl (h.ready i hready)
  · exact Or.inr ⟨stage, h.failed i stage hfailed⟩

/-- What is said of a call stays true. -/
theorem SettledCall.later {s s' : GlobalState} {call : StartCall}
    (hcall : SettledCall s call) (h : Later s s') : SettledCall s' call := by
  unfold SettledCall at hcall ⊢
  cases hpc : call.pc with
  | starting a i =>
      rw [hpc] at hcall
      obtain ⟨hlt, hpending⟩ := hcall
      refine ⟨Nat.lt_of_lt_of_le hlt h.length, ?_⟩
      intro stage hstage
      obtain ⟨stage', hstage', hkeep⟩ := h.starting i stage hlt hstage
      exact hkeep a (hpending stage' hstage')
  | returned i =>
      rw [hpc] at hcall
      exact h.settled hcall
  | awaitLoad load => trivial
  | awaitStart a => trivial
  | threw e => trivial

/-- A step that leaves the tables. -/
theorem later_of_eq {s s' : GlobalState}
    (hinstances : s'.instances = s.instances)
    (hstarts : ∀ a i : Nat, s.starts[a]? = some (.pending i) →
      s'.starts[a]? = some (.pending i)) : Later s s' where
  ready := by
    intro i hi
    rw [hinstances]
    exact hi
  failed := by
    intro i stage hi
    rw [hinstances]
    exact hi
  length := Nat.le_of_eq (by rw [hinstances])
  starting := by
    intro i stage _ hi
    rw [hinstances] at hi
    exact ⟨stage, hi, fun a => hstarts a i⟩

/-- A step that moves one starting instance on. -/
theorem later_set {s s' : GlobalState} {i : Nat} {stage : StartStage}
    {x : InstanceState} (hstarting : s.instances[i]? = some (.starting stage))
    (hset : s'.instances = s.instances.set i x)
    (hstarts : ∀ a j : Nat, j ≠ i ∨ (∃ stage : StartStage, x = .starting stage) →
      s.starts[a]? = some (.pending j) → s'.starts[a]? = some (.pending j)) :
    Later s s' := by
  have hother : ∀ (j : Nat) (y : InstanceState), s.instances[j]? = some y →
      (∀ stage : StartStage, y ≠ .starting stage) →
      s'.instances[j]? = some y := by
    intro j y hj hy
    rw [hset, List.getElem?_set_ne]
    · exact hj
    · intro hij
      rw [← hij, hstarting] at hj
      injection hj with hj
      exact hy stage hj.symm
  exact {
    ready := fun j hj => hother j _ hj (by simp)
    failed := fun j stage hj => hother j _ hj (by simp)
    length := Nat.le_of_eq (by rw [hset, List.length_set])
    starting := by
      intro j stage₁ _ hj
      rw [hset] at hj
      rcases getElem?_set_cases hj with ⟨hj, hne⟩ | ⟨heq, hx⟩
      · exact ⟨stage₁, hj, fun a => hstarts a j (Or.inl hne)⟩
      · rw [heq]
        exact ⟨stage, hstarting, fun a => hstarts a i (Or.inr ⟨_, hx.symm⟩)⟩ }

theorem settledInv_init {s : GlobalState} (h : (startSystem registry).init s) :
    SettledInv s := by
  obtain ⟨persist, h⟩ := h
  rcases h with h | ⟨state, h⟩
  · rw [h]
    exact {
      promise := by simp [upsertEntry]
      pending := by simp
      actor := by simp [upsertEntry]
      started := by simp
      calls := by simp }
  · rw [h]
    exact {
      promise := by simp [upsertEntry]
      pending := by simp
      actor := by simp [upsertEntry]
      started := by simp
      calls := by simp }

-- ======================================================== entry and calls

/-- The entry may gain a state and a load promise, and calls may move as
long as they are where they may be. -/
theorem SettledInv.congr {s s' : GlobalState} (hs : SettledInv s)
    (hpromise : s'.upsertEntry.startPromise = s.upsertEntry.startPromise)
    (hactor : s'.upsertEntry.actor = s.upsertEntry.actor)
    (hinstances : s'.instances = s.instances)
    (hstarts : s'.starts = s.starts)
    (hcalls : ∀ call ∈ s'.calls, SettledCall s' call) :
    SettledInv s' where
  promise := by
    rw [hpromise, hactor, hinstances, hstarts]
    exact hs.promise
  pending := by
    rw [hpromise, hstarts]
    exact hs.pending
  actor := by
    unfold Settled
    rw [hpromise, hactor, hinstances]
    exact hs.actor
  started := by
    unfold Settled
    rw [hactor, hinstances, hstarts]
    exact hs.started
  calls := hcalls

/-- A call moves to where it may be. -/
theorem SettledInv.setCall {s : GlobalState} (hs : SettledInv s) (c : Nat)
    {call : StartCall} (hcall : SettledCall s call) :
    SettledInv (s.setCall c call) := by
  apply hs.congr
  case hpromise => rfl
  case hactor => rfl
  case hinstances => rfl
  case hstarts => rfl
  case hcalls =>
      intro call' hmem
      rcases List.mem_or_eq_of_mem_set hmem with hmem | hnew
      · exact hs.calls call' hmem
      · rw [hnew]
        exact hcall

theorem later_setCall (s : GlobalState) (c : Nat) (call : StartCall) :
    Later s (s.setCall c call) :=
  later_of_eq rfl fun _ _ h => h

/-- The synchronous part of `loadActor` leaves the attempts. -/
theorem SettledInv.loadActor {s : GlobalState} (hs : SettledInv s) :
    SettledInv s.loadActor.1 ∧ Later s s.loadActor.1
      ∧ s.loadActor.1.calls = s.calls := by
  have hentry : s.loadActor.1.upsertEntry.startPromise
        = s.upsertEntry.startPromise
      ∧ s.loadActor.1.upsertEntry.actor = s.upsertEntry.actor
      ∧ s.loadActor.1.instances = s.instances
      ∧ s.loadActor.1.starts = s.starts
      ∧ s.loadActor.1.calls = s.calls := by
    unfold GlobalState.loadActor
    dsimp only
    split
    · exact ⟨rfl, rfl, rfl, rfl, rfl⟩
    · split
      · exact ⟨rfl, rfl, rfl, rfl, rfl⟩
      · split
        · exact ⟨rfl, rfl, rfl, rfl, rfl⟩
        · exact ⟨rfl, rfl, rfl, rfl, rfl⟩
  obtain ⟨hpromise, hactor, hinstances, hstarts, hcalls⟩ := hentry
  have hlater : Later s s.loadActor.1 := by
    apply later_of_eq hinstances
    intro a i hi
    rw [hstarts]
    exact hi
  refine ⟨?_, hlater, hcalls⟩
  apply hs.congr hpromise hactor hinstances hstarts
  intro call hmem
  rw [hcalls] at hmem
  exact (hs.calls call hmem).later hlater

theorem SettledInv.startActor {s : GlobalState} (hs : SettledInv s) :
    SettledInv s.startActor ∧ Later s s.startActor := by
  obtain ⟨hload, hlater, -⟩ := hs.loadActor
  refine ⟨?_, ?_⟩
  · apply hload.congr
    case hpromise => rfl
    case hactor => rfl
    case hinstances => rfl
    case hstarts => rfl
    case hcalls =>
        intro call hmem
        rcases List.mem_append.1 hmem with hmem | hmem
        · exact hload.calls call hmem
        · rw [List.mem_singleton.1 hmem]
          trivial
  · exact ⟨hlater.ready, hlater.failed, hlater.length, hlater.starting⟩

theorem SettledInv.readFile {s s' : GlobalState} (hs : SettledInv s)
    {load : Nat} {outcome : ReadOutcome}
    (h : s.readFile load outcome = some s') :
    SettledInv s' ∧ Later s s' := by
  unfold GlobalState.readFile at h
  split at h
  case isFalse => exact absurd h (by simp)
  case isTrue =>
    cases outcome with
    | found state =>
        injection h with h
        rw [← h]
        exact ⟨hs.congr rfl rfl rfl rfl hs.calls,
          later_of_eq rfl fun _ _ h => h⟩
    | enoent =>
        injection h with h
        rw [← h]
        exact ⟨hs.congr rfl rfl rfl rfl hs.calls,
          later_of_eq rfl fun _ _ h => h⟩
    | error =>
        injection h with h
        rw [← h]
        exact ⟨hs.congr rfl rfl rfl rfl hs.calls,
          later_of_eq rfl fun _ _ h => h⟩

-- ============================================================ the attempts

theorem SettledInv.failAttempt {s : GlobalState} (hs : SettledInv s)
    (c : Nat) : SettledInv (s.failAttempt c) ∧ Later s (s.failAttempt c) := by
  have hstarts : ∀ (a : Nat) (x : AttemptState), x ≠ .failed →
      (s.starts ++ [AttemptState.failed])[a]? = some x →
      s.starts[a]? = some x := by
    intro a x hx ha
    rcases getElem?_concat ha with ha | ⟨-, ha⟩
    · exact ha
    · exact absurd ha hx
  have hlater : Later s (s.failAttempt c) :=
    later_of_eq rfl fun _ _ h => getElem?_concat_of_some h
  refine ⟨?_, hlater⟩
  exact {
    promise := by
      intro a ha
      obtain ⟨i, stage, hpending, hrest⟩ := hs.promise a ha
      exact ⟨i, stage, getElem?_concat_of_some hpending, hrest⟩
    pending := by
      intro a i ha
      exact hs.pending a i (hstarts a _ (by simp) ha)
    actor := hs.actor
    started := by
      intro a i ha
      exact hs.started a i (hstarts a _ (by simp) ha)
    calls := by
      intro call hmem
      rcases List.mem_or_eq_of_mem_set hmem with hmem | hnew
      · exact (hs.calls call hmem).later hlater
      · rw [hnew]
        trivial }

/-- A fresh attempt: there was no instance and no promise. -/
theorem SettledInv.beginAttempt {s : GlobalState} (hs : SettledInv s)
    (c : Nat) (hactor : s.upsertEntry.actor = none)
    (hpromise : s.upsertEntry.startPromise = none) :
    SettledInv (s.beginAttempt c) ∧ Later s (s.beginAttempt c) := by
  have hlater : Later s (s.beginAttempt c) := {
    ready := fun i hi => getElem?_concat_of_some hi
    failed := fun i stage hi => getElem?_concat_of_some hi
    length := by
      show s.instances.length ≤ (s.instances ++ [_]).length
      rw [List.length_append]
      omega
    starting := by
      intro i stage hlt hi
      rcases getElem?_concat hi with hi | ⟨heq, -⟩
      · exact ⟨stage, hi, fun a ha => getElem?_concat_of_some ha⟩
      · omega }
  have hnew : (s.beginAttempt c).instances[s.instances.length]?
      = some (.starting .initialization) := by
    show (s.instances ++ [_])[s.instances.length]? = _
    simp
  have hpend : (s.beginAttempt c).starts[s.starts.length]?
      = some (.pending s.instances.length) := by
    show (s.starts ++ [_])[s.starts.length]? = _
    simp
  refine ⟨?_, hlater⟩
  exact {
    promise := by
      intro a ha
      injection ha with ha
      rw [← ha]
      exact ⟨s.instances.length, .initialization, hpend, rfl, hnew⟩
    pending := by
      intro a i ha
      rcases getElem?_concat ha with ha | ⟨heq, -⟩
      · have hnone := hs.pending a i ha
        rw [hpromise] at hnone
        exact absurd hnone (by simp)
      · rw [heq]
        rfl
    actor := by
      intro i _ hnone
      exact absurd hnone (by simp [GlobalState.beginAttempt,
        GlobalState.setCall, upsertEntry])
    started := by
      intro a i ha
      rcases getElem?_concat ha with ha | ⟨-, heq⟩
      · have hsome := (hs.started a i ha).1
        rw [hactor] at hsome
        exact absurd hsome (by simp)
      · exact absurd heq (by simp)
    calls := by
      intro call hmem
      rcases List.mem_or_eq_of_mem_set hmem with hmem | heq
      · exact (hs.calls call hmem).later hlater
      · rw [heq]
        refine ⟨?_, fun _ _ => hpend⟩
        show s.instances.length < (s.instances ++ [_]).length
        rw [List.length_append]
        simp }

/-- A start ends. Its call drives the pending attempt. -/
theorem SettledInv.endAttempt {s : GlobalState} (hs : SettledInv s)
    (c : Nat) {a i : Nat} {stage : StartStage} {outcome : InstanceState}
    (hstarting : s.instances[i]? = some (.starting stage))
    (hpending : s.starts[a]? = some (.pending i))
    (hout : outcome = .ready ∨ ∃ stage' : StartStage,
      outcome = .failed stage') :
    SettledInv (s.endAttempt c a i outcome)
      ∧ Later s (s.endAttempt c a i outcome) := by
  have hlt := (List.getElem?_eq_some_iff.1 hstarting).1
  have hself : (s.instances.set i outcome)[i]? = some outcome :=
    List.getElem?_set_self hlt
  -- the entry holds this attempt and this instance
  have hpromise := hs.pending a i hpending
  obtain ⟨i', stage', hpending', hactor, -⟩ := hs.promise a hpromise
  rw [hpending] at hpending'
  injection hpending' with hpending'
  injection hpending' with hsame
  rw [← hsame] at hactor
  have hsettled : (s.endAttempt c a i outcome).Settled i := by
    rcases hout with hout | ⟨stage', hout⟩
    · left
      rw [← hout]
      exact hself
    · right
      refine ⟨stage', ?_⟩
      rw [← hout]
      exact hself
  have hlater : Later s (s.endAttempt c a i outcome) := by
    apply later_set hstarting
    case hset => rfl
    intro b j hj hb
    show (s.starts.set a _)[b]? = _
    rw [List.getElem?_set_ne]
    · exact hb
    · intro hab
      rw [← hab, hpending] at hb
      injection hb with hb
      injection hb with hb
      rcases hj with hne | ⟨stage', hx⟩
      · exact hne hb.symm
      · rcases hout with hout | ⟨stage₁, hout⟩
        · rw [hout] at hx
          exact absurd hx (by simp)
        · rw [hout] at hx
          exact absurd hx (by simp)
  have hstarted : ∀ (b j : Nat),
      (s.endAttempt c a i outcome).starts[b]? = some (.started j) →
      s.starts[b]? = some (.started j) ∨ j = i := by
    intro b j hb
    rcases getElem?_set_cases hb with ⟨hb, -⟩ | ⟨-, heq⟩
    · exact Or.inl hb
    · split at heq
      · injection heq with heq
        exact Or.inr heq
      · exact absurd heq (by simp)
  refine ⟨?_, hlater⟩
  exact {
    promise := by
      intro b hb
      exact absurd hb (by simp [GlobalState.endAttempt,
        GlobalState.setCall, upsertEntry])
    pending := by
      intro b j hb
      rcases getElem?_set_cases hb with ⟨hb, hne⟩ | ⟨-, heq⟩
      · have hb' := hs.pending b j hb
        rw [hpromise] at hb'
        injection hb' with hb'
        exact absurd hb'.symm hne
      · split at heq
        · exact absurd heq (by simp)
        · exact absurd heq (by simp)
    actor := by
      intro j hj _
      rw [show s.upsertEntry.actor = some j from hj] at hactor
      injection hactor with hactor
      rw [hactor]
      exact hsettled
    started := by
      intro b j hb
      rcases hstarted b j hb with hb | heq
      · obtain ⟨hentry, hj⟩ := hs.started b j hb
        exact ⟨hentry, hlater.settled hj⟩
      · rw [heq]
        exact ⟨hactor, hsettled⟩
    calls := by
      intro call hmem
      rcases List.mem_or_eq_of_mem_set hmem with hmem | heq
      · exact (hs.calls call hmem).later hlater
      · rw [heq]
        unfold SettledCall
        by_cases hready : outcome = .ready
        · simp only [hready, if_pos, hactor, Option.getD_some]
          rw [hready] at hsettled
          exact hsettled
        · simp only [hready, if_false] }

theorem SettledInv.startStage {s s' : GlobalState} (hs : SettledInv s)
    {c : Nat} {ok : Bool} (h : s.startStage c ok = some s') :
    SettledInv s' ∧ Later s s' := by
  unfold GlobalState.startStage at h
  split at h
  case h_2 => exact absurd h (by simp)
  case h_1 attempt actor joined hcall =>
    split at h
    case h_2 => exact absurd h (by simp)
    case h_1 stage hstage =>
      have hdrives := hs.calls _ (List.mem_of_getElem? hcall)
      have hpending := hdrives.2 stage hstage
      have hlt := hdrives.1
      by_cases hok : ok = true
      · rw [if_pos hok] at h
        split at h
        case h_2 =>
          injection h with h
          rw [← h]
          exact hs.endAttempt c hstage hpending (Or.inl rfl)
        case h_1 next hnext =>
          injection h with h
          rw [← h]
          have hlater : Later s { s with
              instances := s.instances.set actor (.starting next) } := by
            apply later_set hstage
            case hset => rfl
            case hstarts => exact fun _ _ _ h => h
          refine ⟨?_, hlater⟩
          exact {
            promise := by
              intro a ha
              obtain ⟨i, stage₁, hpend, hact, hi⟩ := hs.promise a ha
              by_cases heq : i = actor
              · refine ⟨i, next, hpend, hact, ?_⟩
                rw [heq]
                exact List.getElem?_set_self hlt
              · refine ⟨i, stage₁, hpend, hact, ?_⟩
                show (s.instances.set actor _)[i]? = _
                rw [List.getElem?_set_ne (Ne.symm heq)]
                exact hi
            pending := hs.pending
            actor := fun i hi hnone => hlater.settled (hs.actor i hi hnone)
            started := by
              intro a i ha
              obtain ⟨hentry, hi⟩ := hs.started a i ha
              exact ⟨hentry, hlater.settled hi⟩
            calls := fun call hmem => (hs.calls call hmem).later hlater }
      · rw [if_neg hok] at h
        injection h with h
        rw [← h]
        exact hs.endAttempt c hstage hpending (Or.inr ⟨stage, rfl⟩)

theorem SettledInv.afterLoad {s : GlobalState} (hs : SettledInv s)
    (c : Nat) (instantiates : Bool) :
    SettledInv (s.afterLoad registry c instantiates)
      ∧ Later s (s.afterLoad registry c instantiates) := by
  unfold GlobalState.afterLoad
  dsimp only
  split
  case h_1 => exact ⟨hs.setCall c trivial, later_setCall s c _⟩
  case h_2 state _ =>
    split
    case h_1 attempt _ => exact ⟨hs.setCall c trivial, later_setCall s c _⟩
    case h_2 hpromise =>
      split
      case h_1 actor hactor =>
        exact ⟨hs.setCall c (hs.actor actor hactor hpromise),
          later_setCall s c _⟩
      case h_2 hactor =>
        split
        · exact hs.beginAttempt c hactor hpromise
        · exact hs.failAttempt c

theorem SettledInv.resume {s s' : GlobalState} (hs : SettledInv s)
    {c : Nat} {instantiates : Bool}
    (h : s.resume registry c instantiates = some s') :
    SettledInv s' ∧ Later s s' := by
  unfold GlobalState.resume at h
  split at h
  case h_1 =>
    injection h with h
    rw [← h]
    exact hs.afterLoad c instantiates
  case h_2 load joined hcall =>
    split at h
    case h_1 =>
      injection h with h
      rw [← h]
      exact hs.afterLoad c instantiates
    case h_2 =>
      injection h with h
      rw [← h]
      exact hs.afterLoad c instantiates
    case h_3 =>
      injection h with h
      rw [← h]
      exact ⟨hs.setCall c trivial, later_setCall s c _⟩
    case h_4 => exact absurd h (by simp)
  case h_3 attempt joined hcall =>
    split at h
    case h_1 i hstart =>
      -- the attempt's instance is still the entry's
      obtain ⟨hactor, hsettled⟩ := hs.started attempt i hstart
      rw [hactor] at h
      injection h with h
      rw [← h]
      exact ⟨hs.setCall c hsettled, later_setCall s c _⟩
    case h_2 =>
      injection h with h
      rw [← h]
      exact ⟨hs.setCall c trivial, later_setCall s c _⟩
    case h_3 => exact absurd h (by simp)
  case h_4 => exact absurd h (by simp)

/-- Any step of the driver. -/
theorem SettledInv.step {s s' : GlobalState} (hs : SettledInv s)
    {a : StartStep} (h : startStep registry s a = some s') :
    SettledInv s' ∧ Later s s' := by
  cases a with
  | startActor =>
      injection h with h
      rw [← h]
      exact hs.startActor
  | readFile load outcome => exact hs.readFile h
  | resume c instantiates => exact hs.resume h
  | startStage c ok => exact hs.startStage h

end GlobalState

end RivetKit.Drivers.FileSystem
