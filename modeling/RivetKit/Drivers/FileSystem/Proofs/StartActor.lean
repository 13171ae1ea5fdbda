/-
Start atomicity of `FileSystemGlobalState.startActor`: a call returns a
started instance, a joined call shares the outcome of its attempt, and a
failed attempt leaves the entry as it found it, so that the next call
makes a fresh one.

The code keeps the first two only as long as it keeps the third, and the
third breaks in two places: the `catch` around `instance.start` clears
the start promise and leaves `entry.actor`, and a read that fails with
anything but "not found" leaves its rejected promise in
`entry.loadPromise`. A step is `StartSafe` when it is neither;
`startAtomic_iff_safe` says that in a run of such steps the next one
keeps start atomicity exactly when it is one too.

# The invariant

`EntryInv` ties the entry to the promise tables: the start promise is
the one pending attempt and names its instance, and an instance without
a start promise is ready. `CallOk` says of one call what the tables owe
it. Only `beginAttempt` and `endAttempt` touch a pending attempt, and one
call at a time drives it.
-/
import RivetKit.Drivers.FileSystem.StartActor

namespace RivetKit.Drivers.FileSystem

open Transition
open Actor

variable {config : RegistryConfig}

namespace GlobalState

-- ================================================ statement vocabulary

/-- An attempt ended in failure on this step: the start did, or the
loading of the state. -/
def AttemptFailed (s s' : GlobalState) : Prop :=
  (∃ attempt : Nat, s'.starts[attempt]? = some .failed
    ∧ s.starts[attempt]? ≠ some .failed) ∨
  ∃ load : Nat, s.loads[load]? = some .reading
    ∧ (s'.loads[load]? = some .notFound ∨ s'.loads[load]? = some .failed)

/-- The entry has no instance and no start promise. -/
def EntryClean (s : GlobalState) : Prop :=
  s.upsertEntry.actor = none ∧ s.upsertEntry.startPromise = none

/-- A call made now makes an attempt of its own: it starts the actor if
its state is known, and reads the state if it is not. -/
def FreshAttempt (config : RegistryConfig) (s : GlobalState) : Prop :=
  if s.upsertEntry.state.isSome then
    ∀ instantiates, ∃ s',
      s.startActor.resume config s.calls.length instantiates = some s'
        ∧ s'.starts.length = s.starts.length + 1
  else s.startActor.loads.length = s.loads.length + 1

/-- Start atomicity of one step, from `s` to `s'`. -/
structure StartAtomic (config : RegistryConfig) (s s' : GlobalState) :
    Prop where
  returned : ∀ call ∈ s'.calls, ∀ actor : Nat, call.pc = .returned actor →
    s'.instances[actor]? = some .ready
  joined : ∀ call ∈ s'.calls, ∀ attempt : Nat, call.joined = some attempt →
    (∀ actor : Nat, call.pc = .returned actor →
      s'.starts[attempt]? = some (.started actor)) ∧
    (∀ error : StartError, call.pc = .threw error →
      error = .startFailed attempt ∧ s'.starts[attempt]? = some .failed)
  failed : AttemptFailed s s' → EntryClean s' ∧ FreshAttempt config s'

/-- The step is no `instance.start` that throws, and no file read that
fails with an error other than not finding the file. -/
def StartSafe (_ : GlobalState) : StartStep → Prop
  | .readFile _ outcome => outcome ≠ .error
  | .startStage _ ok => ok = true
  | _ => True

instance (s : GlobalState) : (a : StartStep) → Decidable (s.StartSafe a)
  | .readFile _ (.found _) => .isTrue (by simp [StartSafe])
  | .readFile _ .enoent => .isTrue (by simp [StartSafe])
  | .readFile _ .error => .isFalse (by simp [StartSafe])
  | .startStage _ ok => inferInstanceAs (Decidable (ok = true))
  | .startActor => .isTrue trivial
  | .resume _ _ => .isTrue trivial

-- ======================================================= the invariant

/-- The entry and the promises it refers to. -/
structure EntryInv (s : GlobalState) : Prop where
  promise_pending : ∀ a : Nat, s.upsertEntry.startPromise = some a →
    ∃ (i : Nat) (stage : StartStage), s.starts[a]? = some (.pending i)
      ∧ s.upsertEntry.actor = some i
      ∧ s.instances[i]? = some (.starting stage)
  pending_promise : ∀ a i : Nat, s.starts[a]? = some (.pending i) →
    s.upsertEntry.startPromise = some a
  started_actor : ∀ a i : Nat, s.starts[a]? = some (.started i) →
    s.upsertEntry.actor = some i ∧ s.upsertEntry.startPromise = none
  actor_ready : ∀ i : Nat, s.upsertEntry.actor = some i →
    s.upsertEntry.startPromise = none → s.instances[i]? = some .ready
  no_state : s.upsertEntry.state = none →
    s.upsertEntry.actor = none ∧ s.upsertEntry.startPromise = none
  reading_promise : ∀ p : Nat, s.loads[p]? = some .reading →
    s.upsertEntry.loadPromise = some p
  reading_state : ∀ p : Nat, s.loads[p]? = some .reading →
    s.upsertEntry.state = none ∧ s.persist = true
  load_promise : ∀ p : Nat, s.upsertEntry.loadPromise = some p →
    s.loads[p]? = some .reading ∨ s.upsertEntry.state.isSome = true
  no_failed : ∀ p : Nat, s.loads[p]? ≠ some .failed

/-- What the tables owe one call. -/
def CallOk (s : GlobalState) (call : StartCall) : Prop :=
  match call.pc with
  | .awaitLoad _ => call.joined = none
  | .awaitStart a => call.joined = some a
  | .starting a i => call.joined = none ∧ s.starts[a]? = some (.pending i)
  | .returned i => s.instances[i]? = some .ready ∧
      ∀ a : Nat, call.joined = some a → s.starts[a]? = some (.started i)
  | .threw e => ∀ a : Nat, call.joined = some a →
      e = .startFailed a ∧ s.starts[a]? = some .failed

/-- The call drives an attempt. -/
def Drives (s : GlobalState) (c : Nat) : Prop :=
  ∃ (call : StartCall) (a i : Nat), s.calls[c]? = some call ∧ call.pc = .starting a i

/-- The invariant of the guarded runs. -/
structure StartInv (s : GlobalState) : Prop extends EntryInv s where
  calls_ok : ∀ call ∈ s.calls, CallOk s call
  one_driver : ∀ c c', s.Drives c → s.Drives c' → c = c'

/-- No call drives an attempt while there is no start promise. -/
theorem StartInv.no_driver {s : GlobalState} (h : StartInv s)
    (hp : s.upsertEntry.startPromise = none) (c : Nat) : ¬ s.Drives c := by
  rintro ⟨call, a, i, hc, hpc⟩
  have hok := h.calls_ok call (List.mem_of_getElem? hc)
  unfold CallOk at hok
  rw [hpc] at hok
  have hsome := h.pending_promise a i hok.2
  rw [hp] at hsome
  cases hsome

/-- What a call is owed survives as long as the tables only gain: the
case of a driving call needs its attempt still pending. -/
theorem CallOk.mono {s s' : GlobalState} {call : StartCall}
    (h : CallOk s call)
    (hready : ∀ i : Nat, s.instances[i]? = some .ready →
      s'.instances[i]? = some .ready)
    (hstarted : ∀ a i : Nat, s.starts[a]? = some (.started i) →
      s'.starts[a]? = some (.started i))
    (hfailed : ∀ a : Nat, s.starts[a]? = some .failed →
      s'.starts[a]? = some .failed)
    (hpending : ∀ a i : Nat, call.pc = .starting a i →
      s.starts[a]? = some (.pending i) → s'.starts[a]? = some (.pending i)) :
    CallOk s' call := by
  unfold CallOk at h ⊢
  cases hpc : call.pc with
  | awaitLoad load =>
      rw [hpc] at h
      exact h
  | awaitStart a =>
      rw [hpc] at h
      exact h
  | starting a i =>
      rw [hpc] at h
      exact ⟨h.1, hpending a i hpc h.2⟩
  | returned i =>
      rw [hpc] at h
      exact ⟨hready i h.1, fun a ha => hstarted a i (h.2 a ha)⟩
  | threw e =>
      rw [hpc] at h
      exact fun a ha => ⟨(h a ha).1, hfailed a (h a ha).2⟩

/-- It reads two tables. -/
theorem CallOk.congr {s s' : GlobalState} {call : StartCall}
    (h : CallOk s call) (hstarts : s'.starts = s.starts)
    (hinstances : s'.instances = s.instances) : CallOk s' call := by
  refine h.mono ?_ ?_ ?_ ?_
  · intro i hi
    rw [hinstances]
    exact hi
  · intro a i ha
    rw [hstarts]
    exact ha
  · intro a ha
    rw [hstarts]
    exact ha
  · intro a i _ ha
    rw [hstarts]
    exact ha

/-- The start of a run. -/
theorem startInv_init {s : GlobalState}
    (h : (startSystem config).init s) : StartInv s := by
  obtain ⟨persist, rfl | ⟨state, rfl⟩⟩ := h
  · refine ⟨⟨?_, ?_, ?_, ?_, ?_, ?_, ?_, ?_, ?_⟩, ?_, ?_⟩ <;>
      simp [upsertEntry, Drives]
  · refine ⟨⟨?_, ?_, ?_, ?_, ?_, ?_, ?_, ?_, ?_⟩, ?_, ?_⟩ <;>
      simp [upsertEntry, Drives]

-- ============================================== the invariant, per effect

/-- Membership after a call moved on. -/
private theorem mem_setCall {s : GlobalState} {c : Nat}
    {call call' : StartCall} (h : call' ∈ (s.setCall c call).calls) :
    call' ∈ s.calls ∨ call' = call := by
  rcases List.mem_or_eq_of_mem_set h with h | h
  · exact Or.inl h
  · exact Or.inr h

/-- After a call moved on, the others drive what they drove. -/
private theorem drives_setCall {s : GlobalState} {c c' : Nat}
    {call : StartCall} (h : (s.setCall c call).Drives c') :
    (c' = c ∧ ∃ a i, call.pc = .starting a i) ∨ (c' ≠ c ∧ s.Drives c') := by
  obtain ⟨call', a, i, hc', hpc⟩ := h
  simp only [setCall, List.getElem?_set] at hc'
  by_cases hcc : c = c'
  · rw [if_pos hcc] at hc'
    split at hc'
    · injection hc' with hc'
      rw [← hc'] at hpc
      exact Or.inl ⟨hcc.symm, a, i, hpc⟩
    · cases hc'
  · rw [if_neg hcc] at hc'
    exact Or.inr ⟨fun heq => hcc heq.symm, call', a, i, hc', hpc⟩

/-- Moving a call on to a point where it is owed what it gets. -/
theorem StartInv.setCall {s : GlobalState} (h : StartInv s) (c : Nat)
    {call : StartCall} (hok : CallOk s call)
    (hcall : ∀ a i : Nat, call.pc ≠ .starting a i) :
    StartInv (s.setCall c call) := by
  refine ⟨⟨h.promise_pending, h.pending_promise, h.started_actor,
    h.actor_ready, h.no_state, h.reading_promise, h.reading_state,
    h.load_promise, h.no_failed⟩, ?_, ?_⟩
  · intro call' hc'
    rcases mem_setCall hc' with hc' | rfl
    · exact (h.calls_ok call' hc').congr rfl rfl
    · exact hok.congr rfl rfl
  · have hdrives : ∀ c', (s.setCall c call).Drives c' → s.Drives c' := by
      intro c' hd
      rcases drives_setCall hd with ⟨-, a, i, hpc⟩ | ⟨-, hd⟩
      · exact absurd hpc (hcall a i)
      · exact hd
    intro c₁ c₂ h₁ h₂
    exact h.one_driver c₁ c₂ (hdrives c₁ h₁) (hdrives c₂ h₂)

/-- A call is made: it enters at its first `await`. -/
theorem StartInv.pushCall {s : GlobalState} (h : StartInv s)
    (load : Option Nat) :
    StartInv { s with calls := s.calls ++ [{ pc := .awaitLoad load }] } := by
  have hdrives : ∀ c, Drives
      { s with calls := s.calls ++ [{ pc := .awaitLoad load }] } c →
      s.Drives c := by
    rintro c ⟨call, a, i, hc, hpc⟩
    simp only [List.getElem?_append] at hc
    split at hc
    · exact ⟨call, a, i, hc, hpc⟩
    · have hmem := List.mem_of_getElem? hc
      rw [List.mem_singleton.mp hmem] at hpc
      cases hpc
  refine ⟨⟨h.promise_pending, h.pending_promise, h.started_actor,
    h.actor_ready, h.no_state, h.reading_promise, h.reading_state,
    h.load_promise, h.no_failed⟩, ?_, ?_⟩
  · intro call hc
    rcases List.mem_append.mp hc with hc | hc
    · exact (h.calls_ok call hc).congr rfl rfl
    · rw [List.mem_singleton.mp hc]
      rfl
  · intro c c' hd hd'
    exact h.one_driver c c' (hdrives c hd) (hdrives c' hd')

/-- `loadActor` begins a read only when no state is known and no read is
under way. -/
theorem StartInv.loadActor {s : GlobalState} (h : StartInv s) :
    StartInv s.loadActor.1 := by
  have hset : StartInv (s.setEntry s.upsertEntry) :=
    ⟨⟨h.promise_pending, h.pending_promise, h.started_actor, h.actor_ready,
      h.no_state, h.reading_promise, h.reading_state, h.load_promise,
      h.no_failed⟩,
      fun call hc => (h.calls_ok call hc).congr rfl rfl, h.one_driver⟩
  unfold GlobalState.loadActor
  dsimp only
  split
  case isTrue => exact hset
  case isFalse hstate =>
    split
    case isTrue => exact hset
    case isFalse hpersist =>
      split
      case h_1 => exact hset
      case h_2 hp =>
        have hnone : ∀ p : Nat, s.loads[p]? ≠ some .reading := by
          intro p hr
          rw [h.reading_promise p hr] at hp
          cases hp
        refine ⟨⟨h.promise_pending, h.pending_promise, h.started_actor,
          h.actor_ready, h.no_state, ?_, ?_, ?_, ?_⟩,
          fun call hc => (h.calls_ok call hc).congr rfl rfl, h.one_driver⟩
        · intro p hr
          replace hr : (s.loads ++ [.reading])[p]? = some .reading := hr
          show some s.loads.length = some p
          simp only [List.getElem?_append] at hr
          split at hr
          · exact absurd hr (hnone p)
          · have hlt := (List.getElem?_eq_some_iff.mp hr).1
            simp only [List.length_singleton] at hlt
            congr 1
            omega
        · intro p _
          constructor
          · show s.upsertEntry.state = none
            simpa using hstate
          · show (s.setEntry s.upsertEntry).persist = true
            simpa using hpersist
        · intro p hr
          left
          injection hr with hr
          subst hr
          show (s.loads ++ [LoadState.reading])[s.loads.length]? = _
          simp
        · intro p hf
          rcases List.mem_append.mp (List.mem_of_getElem? hf) with hm | hm
          · obtain ⟨q, hq⟩ := List.mem_iff_getElem?.mp hm
            exact h.no_failed q hq
          · rw [List.mem_singleton] at hm
            cases hm

/-- A read ends, finding a state or none. -/
theorem StartInv.readFile {s s' : GlobalState} {load : Nat}
    {outcome : ReadOutcome} (h : StartInv s) (hsafe : outcome ≠ .error)
    (hs : s.readFile load outcome = some s') : StartInv s' := by
  unfold GlobalState.readFile at hs
  split at hs
  case isFalse => cases hs
  case isTrue hr =>
    have hp := h.reading_promise load hr
    have hone : ∀ p : Nat, s.loads[p]? = some .reading → p = load := by
      intro p hpr
      rw [h.reading_promise p hpr] at hp
      injection hp
    have hfailed : ∀ (l : LoadState), l ≠ .failed →
        ∀ p : Nat, (s.loads.set load l)[p]? ≠ some .failed := by
      intro l hl p hf
      rcases List.mem_or_eq_of_mem_set (List.mem_of_getElem? hf) with hm | hm
      · obtain ⟨q, hq⟩ := List.mem_iff_getElem?.mp hm
        exact h.no_failed q hq
      · exact hl hm.symm
    have hreading : ∀ (l : LoadState), l ≠ .reading →
        ∀ p : Nat, (s.loads.set load l)[p]? ≠ some .reading := by
      intro l hl p hf
      rw [List.getElem?_set] at hf
      split at hf
      · split at hf
        · injection hf with hf
          exact hl hf
        · cases hf
      case isFalse hne => exact hne (hone p hf).symm
    cases outcome with
    | error => exact absurd rfl hsafe
    | found state =>
        injection hs with hs
        subst hs
        refine ⟨⟨h.promise_pending, h.pending_promise, h.started_actor,
          h.actor_ready, ?_, ?_, ?_, fun p _ => Or.inr rfl,
          hfailed .loaded (by simp)⟩,
          fun call hc => (h.calls_ok call hc).congr rfl rfl, h.one_driver⟩
        · intro hnone
          cases hnone
        · intro p hpr
          exact absurd hpr (hreading .loaded (by simp) p)
        · intro p hpr
          exact absurd hpr (hreading .loaded (by simp) p)
    | enoent =>
        injection hs with hs
        subst hs
        refine ⟨⟨h.promise_pending, h.pending_promise, h.started_actor,
          h.actor_ready, h.no_state, ?_, ?_, ?_, hfailed .notFound (by simp)⟩,
          fun call hc => (h.calls_ok call hc).congr rfl rfl, h.one_driver⟩
        · intro p hpr
          exact absurd hpr (hreading .notFound (by simp) p)
        · intro p hpr
          exact absurd hpr (hreading .notFound (by simp) p)
        · intro p hpr
          cases hpr

/-- An attempt that throws before it has an instance changes nothing in
the entry. -/
theorem StartInv.failAttempt {s : GlobalState} (h : StartInv s) (c : Nat) :
    StartInv (s.failAttempt c) := by
  have hget : ∀ {a : Nat} {t : AttemptState}, t ≠ .failed →
      (s.starts ++ [AttemptState.failed])[a]? = some t →
      s.starts[a]? = some t := by
    intro a t ht ha
    rw [List.getElem?_append] at ha
    split at ha
    · exact ha
    · have hm := List.mem_singleton.mp (List.mem_of_getElem? ha)
      exact absurd hm ht
  have hkeep : ∀ {a : Nat} {t : AttemptState}, s.starts[a]? = some t →
      (s.starts ++ [AttemptState.failed])[a]? = some t := by
    intro a t ha
    rw [List.getElem?_append_left (List.getElem?_eq_some_iff.mp ha).1]
    exact ha
  have hfail : StartInv { s with starts := s.starts ++ [.failed] } := by
    refine ⟨⟨?_, ?_, ?_, h.actor_ready, h.no_state, h.reading_promise,
      h.reading_state, h.load_promise, h.no_failed⟩, ?_, h.one_driver⟩
    · intro a ha
      obtain ⟨i, stage, hst, hact, hins⟩ := h.promise_pending a ha
      exact ⟨i, stage, hkeep hst, hact, hins⟩
    · intro a i ha
      exact h.pending_promise a i (hget (by simp) ha)
    · intro a i ha
      exact h.started_actor a i (hget (by simp) ha)
    · intro call hc
      exact (h.calls_ok call hc).mono (fun _ hi => hi)
        (fun _ _ ha => hkeep ha) (fun _ ha => hkeep ha)
        (fun _ _ _ ha => hkeep ha)
  refine hfail.setCall c ?_ (by simp)
  intro a ha
  cases ha

/-- An attempt begins when the entry has neither instance nor promise. -/
theorem StartInv.beginAttempt {s : GlobalState} (h : StartInv s) (c : Nat)
    (hactor : s.upsertEntry.actor = none)
    (hpromise : s.upsertEntry.startPromise = none)
    (hstate : s.upsertEntry.state ≠ none) :
    StartInv (s.beginAttempt c) := by
  have hkeep : ∀ {a : Nat} {t t' : AttemptState}, s.starts[a]? = some t →
      (s.starts ++ [t'])[a]? = some t := by
    intro a t t' ha
    rw [List.getElem?_append_left (List.getElem?_eq_some_iff.mp ha).1]
    exact ha
  have hnew : ∀ {a : Nat} {t : AttemptState},
      (s.starts ++ [.pending s.instances.length])[a]? = some t →
      s.starts[a]? = some t
        ∨ (a = s.starts.length ∧ t = .pending s.instances.length) := by
    intro a t ha
    rw [List.getElem?_append] at ha
    split at ha
    · exact Or.inl ha
    · right
      have hlt := (List.getElem?_eq_some_iff.mp ha).1
      have hm := List.mem_singleton.mp (List.mem_of_getElem? ha)
      simp only [List.length_singleton] at hlt
      exact ⟨by omega, hm⟩
  have hready : ∀ {i : Nat} {t : InstanceState}, s.instances[i]? = some t →
      (s.instances ++ [.starting .initialization])[i]? = some t := by
    intro i t hi
    rw [List.getElem?_append_left (List.getElem?_eq_some_iff.mp hi).1]
    exact hi
  unfold GlobalState.beginAttempt
  refine ⟨⟨?_, ?_, ?_, ?_, ?_, h.reading_promise, h.reading_state,
    h.load_promise, h.no_failed⟩, ?_, ?_⟩
  · intro a ha
    injection ha with ha
    subst ha
    refine ⟨s.instances.length, .initialization, ?_, rfl, ?_⟩
    · show (s.starts ++ _)[s.starts.length]? = _
      simp
    · show (s.instances ++ _)[s.instances.length]? = _
      simp
  · intro a i ha
    rcases hnew ha with ha | ⟨rfl, -⟩
    · have hsome := h.pending_promise a i ha
      rw [hpromise] at hsome
      cases hsome
    · rfl
  · intro a i ha
    rcases hnew ha with ha | ⟨-, ht⟩
    · have hsome := (h.started_actor a i ha).1
      rw [hactor] at hsome
      cases hsome
    · cases ht
  · intro i _ hnone
    cases hnone
  · intro hnone
    exact absurd hnone hstate
  · intro call hc
    rcases mem_setCall hc with hc | rfl
    · exact (h.calls_ok call hc).mono (fun _ hi => hready hi)
        (fun _ _ ha => hkeep ha) (fun _ ha => hkeep ha)
        (fun _ _ _ ha => hkeep ha)
    · refine ⟨rfl, ?_⟩
      show (s.starts ++ _)[s.starts.length]? = _
      simp
  · -- no other call drives an attempt
    intro c₁ c₂ h₁ h₂
    rcases drives_setCall h₁ with ⟨rfl, -⟩ | ⟨-, h₁⟩
    · rcases drives_setCall h₂ with ⟨rfl, -⟩ | ⟨-, h₂⟩
      · rfl
      · exact absurd h₂ (h.no_driver hpromise c₂)
    · exact absurd h₁ (h.no_driver hpromise c₁)

/-- A call passes `await this.loadActor(actorId)`. -/
theorem StartInv.afterLoad {s : GlobalState} (h : StartInv s) (c : Nat)
    (instantiates : Bool) : StartInv (s.afterLoad config c instantiates) := by
  unfold GlobalState.afterLoad
  dsimp only
  split
  case h_1 =>
    refine h.setCall c ?_ (by simp)
    intro a ha
    cases ha
  case h_2 state hstate =>
    split
    case h_1 attempt _ => exact h.setCall c rfl (by simp)
    case h_2 hpromise =>
      split
      case h_1 actor hactor =>
        refine h.setCall c ⟨h.actor_ready actor hactor hpromise, ?_⟩ (by simp)
        intro a ha
        cases ha
      case h_2 hactor =>
        split
        · exact h.beginAttempt c hactor hpromise (by rw [hstate]; simp)
        · exact h.failAttempt c

/-- A call resumes: after a load, or after the attempt it joined. -/
theorem StartInv.resume {s s' : GlobalState} {c : Nat} {instantiates : Bool}
    (h : StartInv s) (hs : s.resume config c instantiates = some s') :
    StartInv s' := by
  unfold GlobalState.resume at hs
  split at hs
  case h_1 =>
    injection hs with hs
    subst hs
    exact h.afterLoad c instantiates
  case h_2 load _ _ =>
    split at hs
    case h_1 | h_2 =>
      injection hs with hs
      subst hs
      exact h.afterLoad c instantiates
    case h_3 hl => exact absurd hl (h.no_failed load)
    case h_4 => cases hs
  case h_3 attempt joined hc =>
    have hok := h.calls_ok _ (List.mem_of_getElem? hc)
    have hjoined : joined = some attempt := hok
    split at hs
    case h_1 actor hst =>
      obtain ⟨hactor, hnone⟩ := h.started_actor attempt actor hst
      rw [hactor] at hs
      injection hs with hs
      subst hs
      refine h.setCall c ⟨h.actor_ready actor hactor hnone, ?_⟩ (by simp)
      intro a ha
      rw [show joined = some a from ha] at hjoined
      injection hjoined with hjoined
      rw [hjoined]
      exact hst
    case h_2 hst =>
      injection hs with hs
      subst hs
      refine h.setCall c ?_ (by simp)
      intro a ha
      rw [show joined = some a from ha] at hjoined
      injection hjoined with hjoined
      subst hjoined
      exact ⟨rfl, hst⟩
    case h_3 => cases hs
  case h_4 => cases hs

/-- The driver of an attempt, and the attempt it drives. -/
theorem StartInv.driver {s : GlobalState} (h : StartInv s) {c a i : Nat}
    {joined : Option Nat} (hc : s.calls[c]? = some ⟨.starting a i, joined⟩) :
    s.starts[a]? = some (.pending i) ∧ s.upsertEntry.startPromise = some a
      ∧ s.upsertEntry.actor = some i := by
  have hok := h.calls_ok _ (List.mem_of_getElem? hc)
  have hpending : s.starts[a]? = some (.pending i) := hok.2
  have hpromise := h.pending_promise a i hpending
  obtain ⟨i', stage, hst, hactor, -⟩ := h.promise_pending a hpromise
  rw [hpending] at hst
  injection hst with hst
  injection hst with hst
  rw [hst]
  exact ⟨by rw [← hst]; exact hpending, hpromise, hactor⟩

/-- The last stage of `instance.start` ends: the attempt succeeds. -/
theorem StartInv.endAttempt {s : GlobalState} (h : StartInv s) {c a i : Nat}
    {joined : Option Nat} {stage : StartStage}
    (hc : s.calls[c]? = some ⟨.starting a i, joined⟩)
    (hstage : s.instances[i]? = some (.starting stage)) :
    StartInv (s.endAttempt c a i .ready) := by
  obtain ⟨hpending, hpromise, hactor⟩ := h.driver hc
  have hlt := (List.getElem?_eq_some_iff.mp hpending).1
  have hilt := (List.getElem?_eq_some_iff.mp hstage).1
  have hdrives : s.Drives c := ⟨_, a, i, hc, rfl⟩
  have hset : ∀ {b : Nat} {t : AttemptState}, s.starts[b]? = some t →
      t ≠ .pending i → (s.starts.set a (.started i))[b]? = some t := by
    intro b t hb ht
    rw [List.getElem?_set]
    by_cases hab : a = b
    · subst hab
      rw [hpending] at hb
      injection hb with hb
      exact absurd hb.symm ht
    · rw [if_neg hab]
      exact hb
  have hget : ∀ {b : Nat} {t : AttemptState},
      (s.starts.set a (.started i))[b]? = some t →
      (b = a ∧ t = .started i) ∨ (b ≠ a ∧ s.starts[b]? = some t) := by
    intro b t hb
    rw [List.getElem?_set] at hb
    by_cases hab : a = b
    · rw [if_pos hab, if_pos (hab ▸ hlt)] at hb
      injection hb with hb
      exact Or.inl ⟨hab.symm, hb.symm⟩
    · rw [if_neg hab] at hb
      exact Or.inr ⟨fun heq => hab heq.symm, hb⟩
  have hready : (s.instances.set i .ready)[i]? = some .ready := by
    rw [List.getElem?_set_self hilt]
  have hkeep : ∀ j : Nat, s.instances[j]? = some .ready →
      (s.instances.set i .ready)[j]? = some .ready := by
    intro j hj
    rw [List.getElem?_set]
    by_cases hij : i = j
    · subst hij
      rw [if_pos rfl, if_pos hilt]
    · rw [if_neg hij]
      exact hj
  have hpc : s.upsertEntry.actor.getD i = i := by
    rw [hactor]
    rfl
  unfold GlobalState.endAttempt
  simp only [if_true, hpc]
  refine ⟨⟨?_, ?_, ?_, ?_, ?_, h.reading_promise, h.reading_state,
    h.load_promise, h.no_failed⟩, ?_, ?_⟩
  · intro b hb
    cases hb
  · intro b j hb
    rcases hget hb with ⟨-, ht⟩ | ⟨hne, hb⟩
    · cases ht
    · have hsome := h.pending_promise b j hb
      rw [hpromise] at hsome
      injection hsome with hsome
      exact absurd hsome.symm hne
  · intro b j hb
    rcases hget hb with ⟨-, ht⟩ | ⟨-, hb⟩
    · injection ht with ht
      rw [ht]
      exact ⟨hactor, rfl⟩
    · have hnone := (h.started_actor b j hb).2
      rw [hpromise] at hnone
      cases hnone
  · intro j hj _
    replace hj : s.upsertEntry.actor = some j := hj
    rw [hactor] at hj
    injection hj with hj
    rw [← hj]
    exact hready
  · intro hnone
    exact ⟨(h.no_state hnone).1, rfl⟩
  · intro call hcall
    obtain ⟨c', hc'⟩ := List.mem_iff_getElem?.mp hcall
    simp only [GlobalState.setCall, List.getElem?_set] at hc'
    by_cases hcc : c = c'
    · rw [if_pos hcc] at hc'
      split at hc'
      · injection hc' with hc'
        rw [← hc']
        refine ⟨hready, ?_⟩
        intro b hb
        cases hb
      · cases hc'
    · rw [if_neg hcc] at hc'
      refine (h.calls_ok call (List.mem_of_getElem? hc')).mono hkeep ?_ ?_ ?_
      · intro b j hb
        exact hset hb (by simp)
      · intro b hb
        exact hset hb (by simp)
      · intro b j hdrive _
        exact absurd (h.one_driver c c' hdrives ⟨call, b, j, hc', hdrive⟩) hcc
  · intro c₁ c₂ h₁ h₂
    rcases drives_setCall h₁ with ⟨-, b, j, hpc⟩ | ⟨hne, h₁⟩
    · cases hpc
    · exact absurd (h.one_driver c₁ c h₁ hdrives) hne

/-- A stage of `instance.start` ends without throwing. -/
theorem StartInv.startStage {s s' : GlobalState} {c : Nat}
    (h : StartInv s) (hs : s.startStage c true = some s') : StartInv s' := by
  unfold GlobalState.startStage at hs
  split at hs
  case h_2 => cases hs
  case h_1 a i joined hc =>
    split at hs
    case h_2 => cases hs
    case h_1 stage hstage =>
      rw [if_pos rfl] at hs
      cases hnext : stage.next with
      | none =>
          rw [hnext] at hs
          injection hs with hs
          rw [← hs]
          exact h.endAttempt hc hstage
      | some next =>
          rw [hnext] at hs
          injection hs with hs
          rw [← hs]
          have hilt := (List.getElem?_eq_some_iff.mp hstage).1
          have hkeep : ∀ j : Nat, s.instances[j]? = some .ready →
              (s.instances.set i (.starting next))[j]? = some .ready := by
            intro j hj
            rw [List.getElem?_set]
            by_cases hij : i = j
            · rw [← hij, hstage] at hj
              cases hj
            · rw [if_neg hij]
              exact hj
          refine ⟨⟨?_, h.pending_promise, h.started_actor, ?_, h.no_state,
            h.reading_promise, h.reading_state, h.load_promise,
            h.no_failed⟩, ?_, h.one_driver⟩
          · intro b hb
            obtain ⟨j, stage', hst, hact, hins⟩ := h.promise_pending b hb
            by_cases hij : i = j
            · refine ⟨j, next, hst, hact, ?_⟩
              rw [← hij]
              exact List.getElem?_set_self hilt
            · refine ⟨j, stage', hst, hact, ?_⟩
              show (s.instances.set i _)[j]? = _
              rw [List.getElem?_set_ne hij]
              exact hins
          · intro j hj hnone
            exact hkeep j (h.actor_ready j hj hnone)
          · intro call hcall
            exact (h.calls_ok call hcall).mono hkeep (fun _ _ hb => hb)
              (fun _ hb => hb) (fun _ _ _ hb => hb)

-- ======================================================== step and run

/-- One guarded step preserves the invariant. -/
theorem startInv_step {s s' : GlobalState} {a : StartStep}
    (h : StartInv s) (hsafe : s.StartSafe a)
    (hstep : startStep config s a = some s') : StartInv s' := by
  cases a with
  | startActor =>
      injection hstep with hstep
      rw [← hstep]
      exact h.loadActor.pushCall _
  | readFile load outcome => exact h.readFile hsafe hstep
  | resume c instantiates => exact h.resume hstep
  | startStage c ok =>
      have hok : ok = true := hsafe
      subst hok
      exact h.startStage hstep

/-- The invariant holds along every guarded run. -/
theorem startInv_reaches {s : GlobalState}
    (h : (startSystem config).Reaches StartSafe s) : StartInv s := by
  refine System.Reaches.invariant (P := StartInv) ?_ ?_ h
  · intro s hs
    exact startInv_init hs
  · intro s a s' _ hinv hsafe hstep
    exact startInv_step hinv hsafe hstep

-- ======================================================= failed attempts

/-- No attempt fails on a step that rejects no start promise and ends no
read without a state. -/
theorem not_attemptFailed {s s' : GlobalState}
    (hstarts : ∀ a : Nat, s'.starts[a]? = some .failed →
      s.starts[a]? = some .failed)
    (hloads : ∀ p : Nat, s.loads[p]? = some .reading →
      s'.loads[p]? = some .reading ∨ s'.loads[p]? = some .loaded) :
    ¬ AttemptFailed s s' := by
  rintro (⟨a, hf, hne⟩ | ⟨p, hr, hf⟩)
  · exact hne (hstarts a hf)
  · rcases hloads p hr with hl | hl <;> rw [hl] at hf <;> simp at hf

/-- `loadActor` leaves the known part of the entry alone. -/
private theorem loadActor_entry (s : GlobalState) :
    s.loadActor.1.upsertEntry.state = s.upsertEntry.state
      ∧ s.loadActor.1.upsertEntry.actor = s.upsertEntry.actor
      ∧ s.loadActor.1.upsertEntry.startPromise = s.upsertEntry.startPromise
      ∧ s.loadActor.1.starts = s.starts ∧ s.loadActor.1.calls = s.calls := by
  unfold GlobalState.loadActor
  dsimp only
  split
  · exact ⟨rfl, rfl, rfl, rfl, rfl⟩
  · split
    · exact ⟨rfl, rfl, rfl, rfl, rfl⟩
    · split <;> exact ⟨rfl, rfl, rfl, rfl, rfl⟩

/-- With the state known and the entry clean, the next call makes an
attempt. -/
theorem freshAttempt_of_state {s : GlobalState} (hclean : EntryClean s)
    (hstate : s.upsertEntry.state.isSome = true) :
    FreshAttempt config s := by
  unfold FreshAttempt
  rw [if_pos hstate]
  intro instantiates
  obtain ⟨state, hst⟩ := Option.isSome_iff_exists.mp hstate
  have hload : s.loadActor = (s.setEntry s.upsertEntry, none) := by
    unfold GlobalState.loadActor
    dsimp only
    rw [if_pos hstate]
  have hcall : s.startActor.calls[s.calls.length]?
      = some { pc := .awaitLoad none } := by
    unfold GlobalState.startActor
    rw [hload]
    show (s.calls ++ _)[s.calls.length]? = _
    simp
  have hentry : s.startActor.upsertEntry = s.upsertEntry := by
    unfold GlobalState.startActor
    rw [hload]
    rfl
  have hstarts : s.startActor.starts = s.starts := by
    unfold GlobalState.startActor
    rw [hload]
    rfl
  unfold GlobalState.resume
  rw [hcall]
  refine ⟨_, rfl, ?_⟩
  unfold GlobalState.afterLoad
  rw [hentry]
  dsimp only
  rw [hst, hclean.2, hclean.1]
  dsimp only
  split
  · show (s.startActor.starts ++ _).length = _
    rw [hstarts]
    simp
  · show (s.startActor.starts ++ _).length = _
    rw [hstarts]
    simp

/-- With no state known and no load promise left, the next call reads. -/
theorem freshAttempt_of_noState {s : GlobalState}
    (hstate : s.upsertEntry.state = none)
    (hload : s.upsertEntry.loadPromise = none) (hpersist : s.persist = true) :
    FreshAttempt config s := by
  unfold FreshAttempt
  rw [if_neg (by rw [hstate]; simp)]
  unfold GlobalState.startActor GlobalState.loadActor
  dsimp only
  rw [if_neg (by rw [hstate]; simp),
    if_neg (by show ¬ ((!s.persist) = true); rw [hpersist]; simp), hload]
  show (s.loads ++ _).length = _
  simp

/-- A call that passes its load fails an attempt only by failing to make
an instance. -/
theorem afterLoad_failed {s : GlobalState} {c : Nat} {instantiates : Bool}
    (h : AttemptFailed s (s.afterLoad config c instantiates)) :
    s.afterLoad config c instantiates = s.failAttempt c
      ∧ s.upsertEntry.state.isSome = true ∧ EntryClean s := by
  have hsame : ∀ call, ¬ AttemptFailed s (s.setCall c call) := fun call =>
    not_attemptFailed (fun _ ha => ha) fun _ hp => Or.inl hp
  unfold GlobalState.afterLoad at h ⊢
  cases hstate : s.upsertEntry.state with
  | none =>
      simp only [hstate] at h
      exact absurd h (hsame _)
  | some state =>
      cases hpromise : s.upsertEntry.startPromise with
      | some attempt =>
          simp only [hstate, hpromise] at h
          exact absurd h (hsame _)
      | none =>
          cases hactor : s.upsertEntry.actor with
          | some actor =>
              simp only [hstate, hpromise, hactor] at h
              exact absurd h (hsame _)
          | none =>
              simp only [hstate, hpromise, hactor] at h ⊢
              by_cases hlookup :
                  (config.lookup state.name && instantiates) = true
              · rw [if_pos hlookup] at h
                refine absurd h (not_attemptFailed ?_ fun _ hp => Or.inl hp)
                intro a ha
                replace ha : (s.starts ++ [.pending _])[a]? = some .failed :=
                  ha
                rw [List.getElem?_append] at ha
                split at ha
                · exact ha
                · have hm := List.mem_singleton.mp (List.mem_of_getElem? ha)
                  cases hm
              · rw [if_neg hlookup]
                exact ⟨rfl, rfl, hactor, hpromise⟩

/-- A guarded step that fails an attempt leaves the entry clean and the
next call fresh. -/
theorem StartInv.failed {s s' : GlobalState} {a : StartStep}
    (h : StartInv s) (hsafe : s.StartSafe a)
    (hstep : startStep config s a = some s') (hfailed : AttemptFailed s s') :
    EntryClean s' ∧ FreshAttempt config s' := by
  cases a with
  | startActor =>
      injection hstep with hstep
      subst hstep
      refine absurd hfailed (not_attemptFailed ?_ ?_)
      · intro a ha
        rw [← (loadActor_entry s).2.2.2.1]
        exact ha
      · intro p hp
        left
        have hlt := (List.getElem?_eq_some_iff.mp hp).1
        unfold GlobalState.startActor GlobalState.loadActor
        dsimp only
        split
        · exact hp
        · split
          · exact hp
          · split
            · exact hp
            · show (s.loads ++ _)[p]? = _
              rw [List.getElem?_append_left hlt]
              exact hp
  | readFile load outcome =>
      simp only [startStep, GlobalState.readFile] at hstep
      split at hstep
      case isFalse => cases hstep
      case isTrue hr =>
        obtain ⟨hstate, hpersist⟩ := h.reading_state load hr
        have hlt := (List.getElem?_eq_some_iff.mp hr).1
        cases outcome with
        | error => exact absurd rfl hsafe
        | found state =>
            injection hstep with hstep
            subst hstep
            refine absurd hfailed (not_attemptFailed (fun _ ha => ha) ?_)
            intro p hp
            show (s.loads.set load .loaded)[p]? = _ ∨ _
            by_cases hpl : load = p
            · subst hpl
              exact Or.inr (List.getElem?_set_self hlt)
            · left
              rw [List.getElem?_set_ne hpl]
              exact hp
        | enoent =>
            injection hstep with hstep
            subst hstep
            refine ⟨h.no_state hstate, ?_⟩
            exact freshAttempt_of_noState hstate rfl hpersist
  | resume c instantiates =>
      have hsame : ∀ call, ¬ AttemptFailed s (s.setCall c call) := fun call =>
        not_attemptFailed (fun _ ha => ha) fun _ hp => Or.inl hp
      have hafter : s.afterLoad config c instantiates = s' →
          EntryClean s' ∧ FreshAttempt config s' := by
        rintro rfl
        obtain ⟨heq, hstate, hclean⟩ := afterLoad_failed hfailed
        rw [heq]
        exact ⟨hclean, freshAttempt_of_state hclean hstate⟩
      simp only [startStep, GlobalState.resume] at hstep
      split at hstep
      case h_1 =>
        injection hstep with hstep
        exact hafter hstep
      case h_2 load _ _ =>
        split at hstep
        case h_1 | h_2 =>
          injection hstep with hstep
          exact hafter hstep
        case h_3 =>
          injection hstep with hstep
          rw [← hstep] at hfailed
          exact absurd hfailed (hsame _)
        case h_4 => cases hstep
      case h_3 attempt joined _ =>
        split at hstep
        case h_1 =>
          split at hstep <;>
          · injection hstep with hstep
            rw [← hstep] at hfailed
            exact absurd hfailed (hsame _)
        case h_2 =>
          injection hstep with hstep
          rw [← hstep] at hfailed
          exact absurd hfailed (hsame _)
        case h_3 => cases hstep
      case h_4 => cases hstep
  | startStage c ok =>
      have hok : ok = true := hsafe
      subst hok
      simp only [startStep, GlobalState.startStage] at hstep
      split at hstep
      case h_2 => cases hstep
      case h_1 attempt actor joined _ =>
        split at hstep
        case h_2 => cases hstep
        case h_1 stage _ =>
          simp only [if_true] at hstep
          refine absurd hfailed ?_
          cases hnext : stage.next with
          | none =>
              rw [hnext] at hstep
              injection hstep with hstep
              rw [← hstep]
              refine not_attemptFailed ?_ fun _ hp => Or.inl hp
              intro a ha
              replace ha : (s.starts.set attempt (.started actor))[a]?
                  = some .failed := ha
              rw [List.getElem?_set] at ha
              split at ha
              · split at ha
                · injection ha with ha
                  cases ha
                · cases ha
              · exact ha
          | some next =>
              rw [hnext] at hstep
              injection hstep with hstep
              rw [← hstep]
              exact not_attemptFailed (fun _ ha => ha) fun _ hp => Or.inl hp

/-- A start that throws leaves its instance in the entry. -/
theorem StartInv.startStage_unclean {s s' : GlobalState} {c : Nat}
    (h : StartInv s) (hs : s.startStage c false = some s') :
    AttemptFailed s s' ∧ ¬ EntryClean s' := by
  unfold GlobalState.startStage at hs
  split at hs
  case h_2 => cases hs
  case h_1 attempt actor joined hc =>
    split at hs
    case h_2 => cases hs
    case h_1 stage hstage =>
      obtain ⟨hpending, -, hactor⟩ := h.driver hc
      have hlt := (List.getElem?_eq_some_iff.mp hpending).1
      rw [if_neg (by simp)] at hs
      injection hs with hs
      rw [← hs]
      constructor
      · left
        refine ⟨attempt, ?_, by rw [hpending]; simp⟩
        show (s.starts.set attempt .failed)[attempt]? = _
        exact List.getElem?_set_self hlt
      · rintro ⟨hnone, -⟩
        replace hnone : s.upsertEntry.actor = none := hnone
        rw [hactor] at hnone
        cases hnone

/-- A read that fails leaves its rejected promise for the next call. -/
theorem StartInv.readFile_stale {s s' : GlobalState} {load : Nat}
    (h : StartInv s) (hs : s.readFile load .error = some s') :
    AttemptFailed s s' ∧ ¬ FreshAttempt config s' := by
  unfold GlobalState.readFile at hs
  split at hs
  case isFalse => cases hs
  case isTrue hr =>
    have hlt := (List.getElem?_eq_some_iff.mp hr).1
    obtain ⟨hstate, hpersist⟩ := h.reading_state load hr
    have hpromise := h.reading_promise load hr
    injection hs with hs
    rw [← hs]
    constructor
    · right
      exact ⟨load, hr, Or.inr (List.getElem?_set_self hlt)⟩
    · intro hfresh
      unfold FreshAttempt at hfresh
      rw [if_neg (by
        show ¬ s.upsertEntry.state.isSome = true
        rw [hstate]
        simp)] at hfresh
      unfold GlobalState.startActor GlobalState.loadActor at hfresh
      dsimp only at hfresh
      rw [if_neg (by
          show ¬ s.upsertEntry.state.isSome = true
          rw [hstate]
          simp),
        if_neg (by show ¬ ((!s.persist) = true); rw [hpersist]; simp)]
        at hfresh
      split at hfresh
      case h_1 =>
        replace hfresh : (s.loads.set load .failed).length
          = (s.loads.set load .failed).length + 1 := hfresh
        omega
      case h_2 hnone =>
        replace hnone : s.upsertEntry.loadPromise = none := hnone
        rw [hpromise] at hnone
        cases hnone

/-- A guarded step is atomic. -/
theorem startAtomic_of_safe {s s' : GlobalState} {a : StartStep}
    (h : StartInv s) (hsafe : s.StartSafe a)
    (hstep : startStep config s a = some s') : StartAtomic config s s' := by
  have h' := startInv_step h hsafe hstep
  refine ⟨?_, ?_, h.failed hsafe hstep⟩
  · intro call hc actor hpc
    have hok := h'.calls_ok call hc
    unfold CallOk at hok
    rw [hpc] at hok
    exact hok.1
  · intro call hc attempt hjoined
    have hok := h'.calls_ok call hc
    unfold CallOk at hok
    constructor
    · intro actor hpc
      rw [hpc] at hok
      exact hok.2 attempt hjoined
    · intro error hpc
      rw [hpc] at hok
      exact hok attempt hjoined

end GlobalState

open GlobalState

/-- In a run whose steps were all `StartSafe`, the next step keeps start
atomicity exactly when it is `StartSafe`. -/
theorem startAtomic_iff_safe {s s' : GlobalState} {a : StartStep}
    (h : (startSystem config).Reaches StartSafe s)
    (hstep : startStep config s a = some s') :
    StartAtomic config s s' ↔ s.StartSafe a := by
  have hinv := startInv_reaches h
  constructor
  · intro hatomic
    cases a with
    | startActor => trivial
    | resume c instantiates => trivial
    | readFile load outcome =>
        rintro rfl
        obtain ⟨hfailed, hstale⟩ :=
          @StartInv.readFile_stale config s s' load hinv hstep
        exact hstale (hatomic.failed hfailed).2
    | startStage c ok =>
        cases ok with
        | true => rfl
        | false =>
            obtain ⟨hfailed, hunclean⟩ := hinv.startStage_unclean hstep
            exact absurd (hatomic.failed hfailed).1 hunclean
  · intro hsafe
    exact GlobalState.startAtomic_of_safe hinv hsafe hstep

/-- An actor whose state is in memory, not started. -/
def createdEntry : GlobalState :=
  let state : ActorState :=
    { actorId := "id"
      name := "counter"
      key := []
      createdAt := 0
      persistedData := [] }
  { persist := true, entry := some { state := some state } }

/-- Two concurrent calls, up to the point where the second, which joined
the attempt of the first, is about to resume. -/
def joinedStart : List StartStep :=
  [.startActor, .startActor, .resume 0 true, .resume 1 true,
    .startStage 0 true, .startStage 0 true, .startStage 0 true,
    .startStage 0 true, .startStage 0 true]

/-- The second call returns the instance the first one started. -/
theorem startAtomic_iff_safe_joined :
    ∃ s s' : GlobalState,
      (startSystem ⟨["counter"]⟩).run createdEntry joinedStart = some s
      ∧ s'.calls = [{ pc := .returned 0 }, { pc := .returned 0, joined := some 0 }]
      ∧ (StartAtomic ⟨["counter"]⟩ s s' ↔ s.StartSafe (.resume 1 true)) := by
  obtain ⟨s, hs⟩ : ∃ s, (startSystem ⟨["counter"]⟩).run createdEntry
      joinedStart = some s := ⟨_, rfl⟩
  have hreach : (startSystem ⟨["counter"]⟩).Reaches StartSafe s := by
    refine System.Reaches.run joinedStart
      (.init ⟨true, Or.inr ⟨_, rfl⟩⟩) ?_ hs
    decide
  injection hs with hs
  subst hs
  exact ⟨_, _, rfl, rfl, startAtomic_iff_safe hreach rfl⟩

/-- After a start that threw, the next call returns its instance, which
is not started. -/
theorem startAtomic_fails :
    ¬ ∀ (s s' : GlobalState) (a : StartStep),
      (startSystem ⟨["counter"]⟩).Reachable s →
      startStep ⟨["counter"]⟩ s a = some s' →
        StartAtomic ⟨["counter"]⟩ s s' := by
  intro hall
  have hatomic := hall _ _ (.resume 1 true)
    (System.Reachable.run
      [.startActor, .resume 0 true, .startStage 0 false, .startActor]
      (.init (s := createdEntry) ⟨true, Or.inr ⟨_, rfl⟩⟩) rfl) rfl
  have hready := hatomic.returned { pc := .returned 0 } (by decide) 0 rfl
  exact absurd hready (by decide)

end RivetKit.Drivers.FileSystem
