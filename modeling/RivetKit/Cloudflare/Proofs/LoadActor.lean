/-
What `loadActor` of the Cloudflare driver keeps, as long as the attempt
does not fail under a call that awaits its promise and no call comes
after it failed (`LoadSafe`).

# The invariant

`DriverInv` reads the handler off the attempt: which of its two fields is
set says how far the attempt got. One call carries the attempt (the
`owner`), and every other call is where the attempt allows it to be.
-/
import RivetKit.Cloudflare.ActorDriver
import RivetKit.Lib.Lists

namespace RivetKit.Cloudflare

open Transition
open ActorDriver
open Lists

-- ============================================================ the contract

/-- No call got an instance whose start has not completed, none awaits
the promise of an attempt that failed, and none joined such a promise. -/
def ActorDriver.NotStuck (s : ActorDriver) : Prop :=
  ∀ call ∈ s.calls,
    (call.pc = .returned → s.attempt = some .started)
      ∧ (call.pc = .awaitActor → s.attempt ≠ some .failed)
      ∧ call.joinedDead = false

/-- The steps that do not reach the missing error path. -/
def LoadSafe (s : ActorDriver) : LoadStep → Prop
  | .loadActor _ => s.attempt ≠ some .failed
  | .metadataRead _ ok => ok = false → ¬ s.Waiting
  | .startEnds _ ok => ok = false → ¬ s.Waiting
  | .resume _ => True

instance (s : ActorDriver) (a : LoadStep) : Decidable (LoadSafe s a) := by
  cases a <;> unfold LoadSafe <;> infer_instance

-- =========================================================== the invariant

/-- The handler of an attempt. -/
def handlerOf : Option AttemptState → Option DriverHandler → Prop
  | none, handler => handler = none
  | some .readingMetadata, handler => handler = some ⟨false, true⟩
  | some .starting, handler => handler = some ⟨true, true⟩
  | some .started, handler => handler = some ⟨true, false⟩
  | some .failed, handler => ∃ actor : Bool, handler = some ⟨actor, true⟩

/-- A call is where the attempt allows. -/
def CallOk (attempt : Option AttemptState) (call : LoadCall) : Prop :=
  call.joinedDead = false
    ∧ match call.pc with
      | .awaitActor => attempt ≠ some .failed
      | .readingMetadata => attempt = some .readingMetadata
      | .starting => attempt = some .starting
      | .returned => attempt = some .started
      | .threw => True

/-- A call carries the attempt. -/
def Carries (call : LoadCall) : Prop :=
  call.pc = .readingMetadata ∨ call.pc = .starting

/-- Handler, attempt and calls agree. -/
structure DriverInv (s : ActorDriver) : Prop where
  handler : handlerOf s.attempt s.handler
  idle : s.handler = none → s.calls = []
  calls : ∀ call ∈ s.calls, CallOk s.attempt call
  owner : ∀ (i j : Nat) (x y : LoadCall), s.calls[i]? = some x →
    s.calls[j]? = some y → Carries x → Carries y → i = j

/-- The contract is a part of the invariant. -/
theorem DriverInv.notStuck {s : ActorDriver} (hs : DriverInv s) :
    s.NotStuck := by
  intro call hcall
  obtain ⟨hjoined, hpc⟩ := hs.calls call hcall
  refine ⟨?_, ?_, hjoined⟩
  · intro heq
    rw [heq] at hpc
    exact hpc
  · intro heq
    rw [heq] at hpc
    exact hpc

theorem driverInv_init : DriverInv {} where
  handler := rfl
  idle := by simp
  calls := by simp
  owner := by simp

-- ============================================================ one new call

/-- A new call that does not carry the attempt. -/
theorem DriverInv.pushCall {s : ActorDriver} (hs : DriverInv s)
    (hsome : s.handler ≠ none) {call : LoadCall}
    (hcall : CallOk s.attempt call) (hcarries : ¬ Carries call) :
    DriverInv { s with calls := s.calls ++ [call] } where
  handler := hs.handler
  idle := fun hnone => absurd hnone hsome
  calls := by
    intro call' hmem
    rcases List.mem_append.1 hmem with hmem | hmem
    · exact hs.calls call' hmem
    · rw [List.mem_singleton.1 hmem]
      exact hcall
  owner := by
    intro i j x y hi hj hx hy
    rcases getElem?_concat hi with hi | ⟨-, hnew⟩
    · rcases getElem?_concat hj with hj | ⟨-, hnew⟩
      · exact hs.owner i j x y hi hj hx hy
      · exact absurd (hnew ▸ hy) hcarries
    · exact absurd (hnew ▸ hx) hcarries

/-- The first call makes the handler and the attempt. -/
theorem driverInv_first {attempt : AttemptState} {call : LoadCall}
    (hattempt : handlerOf (some attempt) (some {}))
    (hcall : CallOk (some attempt) call) :
    DriverInv {
      handler := some {}
      attempt := some attempt
      calls := [call] } where
  handler := hattempt
  idle := by simp
  calls := by
    intro call' hmem
    rw [List.mem_singleton.1 hmem]
    exact hcall
  owner := by
    intro i j x y hi hj _ _
    have hi' := (List.getElem?_eq_some_iff.1 hi).1
    have hj' := (List.getElem?_eq_some_iff.1 hj).1
    simp only [List.length_cons, List.length_nil] at hi' hj'
    omega

/-- What a call finds at a handler. -/
theorem DriverInv.joined {s : ActorDriver} (hs : DriverInv s)
    {handler : DriverHandler} (hhandler : s.handler = some handler)
    (hlive : s.attempt ≠ some .failed) :
    CallOk s.attempt
      { pc := if handler.actorPromise then .awaitActor
          else if handler.actor then .returned
          else .threw } := by
  refine ⟨rfl, ?_⟩
  have hof := hs.handler
  rw [hhandler] at hof
  cases hattempt : s.attempt with
  | none =>
      rw [hattempt] at hof
      exact absurd hof (by simp [handlerOf])
  | some attempt =>
      rw [hattempt] at hof hlive
      cases attempt with
      | readingMetadata =>
          injection hof with hof
          rw [hof]
          simp
      | starting =>
          injection hof with hof
          rw [hof]
          simp
      | started =>
          injection hof with hof
          rw [hof]
          simp
      | failed => exact absurd rfl hlive

theorem DriverInv.loadActor {s : ActorDriver} (hs : DriverInv s)
    {stateFound : Bool} (hlive : s.attempt ≠ some .failed) :
    DriverInv (s.loadActor stateFound) := by
  unfold ActorDriver.loadActor
  split
  case h_1 handler hhandler =>
    have hjoined : decide (s.attempt = some .failed) = false :=
      decide_eq_false hlive
    dsimp only
    rw [hjoined]
    apply hs.pushCall
    · rw [hhandler]
      simp
    · exact hs.joined hhandler hlive
    · unfold Carries
      split
      · simp
      · split
        · simp
        · simp
  case h_2 hnone =>
    rw [hs.idle hnone]
    by_cases hfound : stateFound = true
    · rw [if_pos hfound]
      apply driverInv_first
      · rfl
      · exact ⟨rfl, rfl⟩
    · rw [if_neg hfound]
      apply driverInv_first
      · exact ⟨false, rfl⟩
      · exact ⟨rfl, trivial⟩

-- ====================================================== the attempt moves

/-- A call moves on to where it does not carry the attempt. -/
theorem DriverInv.resume {s s' : ActorDriver} (hs : DriverInv s) {c : Nat}
    (h : s.resume c = some s') : DriverInv s' := by
  unfold ActorDriver.resume at h
  split at h
  case h_2 => exact absurd h (by simp)
  case h_1 joinedDead actor hcall hhandler =>
    injection h with h
    rw [← h]
    have hold := hs.calls _ (List.mem_of_getElem? hcall)
    -- only a started attempt has resolved the promise
    have hof := hs.handler
    rw [hhandler] at hof
    have hstarted : s.attempt = some .started ∧ actor = true := by
      cases hattempt : s.attempt with
      | none =>
          rw [hattempt] at hof
          exact absurd hof (by simp [handlerOf])
      | some attempt =>
          rw [hattempt] at hof
          cases attempt <;> simp [handlerOf] at hof
          exact ⟨rfl, hof⟩
    obtain ⟨hattempt, hactor⟩ := hstarted
    rw [hactor, if_pos rfl]
    exact {
      handler := hs.handler
      idle := by
        intro hnone
        rw [show s.handler = none from hnone] at hhandler
        exact absurd hhandler (by simp)
      calls := by
        intro call hmem
        obtain ⟨i, hi⟩ := List.getElem?_of_mem hmem
        rcases getElem?_modify_cases hi with ⟨hi, -⟩ | ⟨-, y, hy, hnew⟩
        · exact hs.calls call (List.mem_of_getElem? hi)
        · rw [hnew]
          rw [hcall] at hy
          injection hy with hy
          rw [← hy]
          exact ⟨hold.1, hattempt⟩
      owner := by
        intro i j x y hi hj hx hy
        rcases getElem?_modify_cases hi with ⟨hi, -⟩ | ⟨-, z, -, hnew⟩
        · rcases getElem?_modify_cases hj with ⟨hj, -⟩ | ⟨-, z, -, hnew⟩
          · exact hs.owner i j x y hi hj hx hy
          · rw [hnew] at hy
            exact absurd hy (by simp [Carries])
        · rw [hnew] at hx
          exact absurd hx (by simp [Carries]) }

/-- The call that carries the attempt moves it on, to a failure only
while no other call awaits the promise. -/
theorem DriverInv.move {s : ActorDriver} (hs : DriverInv s) {c : Nat}
    {call : LoadCall} (hcall : s.calls[c]? = some call)
    (hcarries : Carries call) {attempt : AttemptState}
    {handler : Option DriverHandler} {pc : LoadPc}
    (hhandler : handlerOf (some attempt) handler)
    (hpc : CallOk (some attempt) { pc := pc })
    (hnotFirst : attempt ≠ .readingMetadata)
    (hend : attempt = .failed → ¬ s.Waiting)
    (hlive : s.attempt ≠ some .started ∧ s.attempt ≠ some .failed) :
    DriverInv ({ s with handler := handler, attempt := some attempt }.setPc
      c pc) := by
  have hothers : ∀ (i : Nat) (x : LoadCall), s.calls[i]? = some x →
      i ≠ c → CallOk (some attempt) x := by
    intro i x hi hne
    obtain ⟨hjoined, hx⟩ := hs.calls x (List.mem_of_getElem? hi)
    refine ⟨hjoined, ?_⟩
    cases hcase : x.pc with
    | awaitActor =>
        intro hfailed
        injection hfailed with hfailed
        exact hend hfailed ⟨x, List.mem_of_getElem? hi, hcase⟩
    | readingMetadata =>
        exact absurd
          (hs.owner i c x call hi hcall (Or.inl hcase) hcarries) hne
    | starting =>
        exact absurd
          (hs.owner i c x call hi hcall (Or.inr hcase) hcarries) hne
    | returned =>
        rw [hcase] at hx
        exact absurd hx hlive.1
    | threw => trivial
  exact {
    handler := hhandler
    idle := by
      intro hnone
      rw [show handler = none from hnone] at hhandler
      cases attempt <;> simp [handlerOf] at hhandler
    calls := by
      intro x hmem
      obtain ⟨i, hi⟩ := List.getElem?_of_mem hmem
      rcases getElem?_modify_cases hi with ⟨hi, hne⟩ | ⟨-, y, hy, hnew⟩
      · exact hothers i x hi hne
      · rw [hcall] at hy
        injection hy with hy
        rw [hnew, ← hy]
        exact ⟨(hs.calls call (List.mem_of_getElem? hcall)).1, hpc.2⟩
    owner := by
      -- what carries the attempt now carried it before
      have hback : ∀ (i : Nat) (x : LoadCall),
          (s.calls.modify c fun call => { call with pc := pc })[i]?
            = some x →
          Carries x → i = c := by
        intro i x hi hx
        rcases getElem?_modify_cases hi with ⟨hi, -⟩ | ⟨hic, -⟩
        · exact hs.owner i c x call hi hcall hx hcarries
        · exact hic
      intro i j x y hi hj hx hy
      rw [hback i x hi hx, hback j y hj hy] }

theorem DriverInv.metadataRead {s s' : ActorDriver} (hs : DriverInv s)
    {c : Nat} {ok : Bool} (hok : ok = false → ¬ s.Waiting)
    (h : s.metadataRead c ok = some s') : DriverInv s' := by
  unfold ActorDriver.metadataRead at h
  split at h
  case h_2 => exact absurd h (by simp)
  case h_1 joinedDead hcall =>
    have hattempt := (hs.calls _ (List.mem_of_getElem? hcall)).2
    dsimp only at hattempt
    have hhandler := hs.handler
    rw [hattempt] at hhandler
    have hhandler : s.handler = some ⟨false, true⟩ := hhandler
    have hlive : s.attempt ≠ some .started ∧ s.attempt ≠ some .failed := by
      rw [hattempt]
      simp
    cases ok with
    | true =>
        rw [if_pos rfl] at h
        injection h with h
        rw [← h]
        apply hs.move hcall (Or.inl rfl) _ _ (by simp) (by simp) hlive
        · rw [hhandler]
          rfl
        · exact ⟨rfl, rfl⟩
    | false =>
        rw [if_neg (by simp)] at h
        injection h with h
        rw [← h]
        apply hs.move hcall (Or.inl rfl) _ _ (by simp) _ hlive
        · rw [hhandler]
          exact ⟨false, rfl⟩
        · exact ⟨rfl, trivial⟩
        · intro _
          exact hok rfl

theorem DriverInv.startEnds {s s' : ActorDriver} (hs : DriverInv s)
    {c : Nat} {ok : Bool} (hok : ok = false → ¬ s.Waiting)
    (h : s.startEnds c ok = some s') : DriverInv s' := by
  unfold ActorDriver.startEnds at h
  split at h
  case h_2 => exact absurd h (by simp)
  case h_1 joinedDead hcall =>
    have hattempt := (hs.calls _ (List.mem_of_getElem? hcall)).2
    dsimp only at hattempt
    have hhandler := hs.handler
    rw [hattempt] at hhandler
    have hhandler : s.handler = some ⟨true, true⟩ := hhandler
    have hlive : s.attempt ≠ some .started ∧ s.attempt ≠ some .failed := by
      rw [hattempt]
      simp
    cases ok with
    | true =>
        rw [if_pos rfl] at h
        injection h with h
        rw [← h]
        apply hs.move hcall (Or.inr rfl) _ _ (by simp) (by simp) hlive
        · rw [hhandler]
          rfl
        · exact ⟨rfl, rfl⟩
    | false =>
        rw [if_neg (by simp)] at h
        injection h with h
        rw [← h]
        apply hs.move hcall (Or.inr rfl) _ _ (by simp) _ hlive
        · rw [hhandler]
          exact ⟨true, rfl⟩
        · exact ⟨rfl, trivial⟩
        · intro _
          exact hok rfl

-- ================================================================ the runs

/-- One safe step keeps the invariant. -/
theorem driverInv_step {s s' : ActorDriver} {a : LoadStep}
    (hs : DriverInv s) (hok : LoadSafe s a)
    (h : loadStep s a = some s') : DriverInv s' := by
  cases a with
  | loadActor stateFound =>
      injection h with h
      rw [← h]
      exact hs.loadActor hok
  | metadataRead c ok => exact hs.metadataRead hok h
  | startEnds c ok => exact hs.startEnds hok h
  | resume c => exact hs.resume h

/-- Safe runs keep the contract. -/
theorem notStuck_of_reaches {s : ActorDriver}
    (h : loadSystem.Reaches LoadSafe s) : s.NotStuck := by
  apply DriverInv.notStuck
  apply System.Reaches.invariant _ _ h
  · intro s hs
    rw [show s = {} from hs]
    exact driverInv_init
  · intro s a s' _ hs hok hstep
    exact driverInv_step hs hok hstep

end RivetKit.Cloudflare
