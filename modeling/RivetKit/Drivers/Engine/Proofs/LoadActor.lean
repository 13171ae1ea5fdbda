/-
What `loadActor` of the engine driver keeps, as long as no attempt fails
under a waiting call, no call comes to a handler whose attempts have all
failed, and no start callback comes for a handler that is starting or
started (`LoaderSafe`).

# The invariant

`LoaderInv` ties the two fields of a handler to its attempts: an attempt
that is starting is the handler's instance with the promise still there,
one that has started is its instance with the promise gone. So a handler
has at most one attempt that has not failed, and the instance that a call
finds behind the promise is the one that started.
-/
import RivetKit.Drivers.Engine.LoadActor
import RivetKit.Lib.Lists

namespace RivetKit.Drivers.Engine

open Transition
open ActorLoader
open Lists

-- ============================================================ the contract

/-- No call got an instance whose start has not completed, none awaits a
promise whose attempts have all failed, and none joined such a promise. -/
def ActorLoader.NotStuck (s : ActorLoader) : Prop :=
  ∀ call ∈ s.calls,
    (∀ i, call.pc = .returned i →
        ∃ h : Nat, s.attempts[i]? = some ⟨h, .started⟩)
      ∧ (∀ h, call.pc = .awaitStart h → ¬ s.Dead h)
      ∧ call.joinedDead = false

/-- The steps that do not reach the missing error path. -/
def LoaderSafe (s : ActorLoader) : LoaderStep → Prop
  | .loadActor => ∀ h, s.actors = some h → ¬ s.Dead h
  | .onActorStart inputDecodes found =>
      inputDecodes = true → found = true →
        ∀ h, s.actors = some h → s.Dead h
  | .startEnds a ok =>
      ok = false → ∀ attempt, s.attempts[a]? = some attempt →
        ¬ s.Waiting attempt.handler
  | _ => True

-- =========================================================== the invariant

/-- A call is where its handler's attempts allow. -/
def CallOk (s : ActorLoader) (call : LoadCall) : Prop :=
  call.joinedDead = false
    ∧ match call.pc with
      | .awaitStart h => ∃ (i : Nat) (status : AttemptStatus),
          s.attempts[i]? = some ⟨h, status⟩
          ∧ status ≠ .failed
      | .awaitHandler h => ∃ i : Nat, s.attempts[i]? = some ⟨h, .started⟩
      | .returned i => ∃ h : Nat, s.attempts[i]? = some ⟨h, .started⟩
      | .threw => True

/-- Handlers and attempts agree, and calls with them. -/
structure LoaderInv (s : ActorLoader) : Prop where
  current : ∀ h, s.actors = some h → h < s.handlers.length
  bound : ∀ (i : Nat) (a : StartAttempt), s.attempts[i]? = some a →
    a.handler < s.handlers.length
  starting : ∀ i h : Nat, s.attempts[i]? = some ⟨h, .starting⟩ →
    s.handlers[h]? = some ⟨some i, true⟩
  started : ∀ i h : Nat, s.attempts[i]? = some ⟨h, .started⟩ →
    s.handlers[h]? = some ⟨some i, false⟩
  cleared : ∀ (h : Nat) (actor : Option Nat),
    s.handlers[h]? = some ⟨actor, false⟩ →
      ∃ i : Nat, s.attempts[i]? = some ⟨h, .started⟩
  calls : ∀ call ∈ s.calls, CallOk s call

/-- A handler that is not dead has an attempt that has not failed. -/
theorem not_dead_iff (s : ActorLoader) (h : Nat) :
    ¬ s.Dead h ↔ ∃ (i : Nat) (status : AttemptStatus),
          s.attempts[i]? = some ⟨h, status⟩
      ∧ status ≠ .failed := by
  unfold Dead
  constructor
  · intro hdead
    by_contra hnone
    apply hdead
    intro a ha hh
    by_contra hstatus
    obtain ⟨i, hi⟩ := List.getElem?_of_mem ha
    obtain ⟨handler, status⟩ := a
    apply hnone
    refine ⟨i, status, ?_, hstatus⟩
    rw [hi, show handler = h from hh]
  · rintro ⟨i, status, hi, hstatus⟩ hdead
    exact hstatus (hdead _ (List.mem_of_getElem? hi) rfl)

/-- The contract is a part of the invariant. -/
theorem LoaderInv.notStuck {s : ActorLoader} (hs : LoaderInv s) :
    s.NotStuck := by
  intro call hcall
  obtain ⟨hjoined, hpc⟩ := hs.calls call hcall
  refine ⟨?_, ?_, hjoined⟩
  · intro i heq
    rw [heq] at hpc
    exact hpc
  · intro h heq
    rw [heq] at hpc
    exact (not_dead_iff s h).2 hpc

theorem loaderInv_init : LoaderInv {} where
  current := by simp
  bound := by simp
  starting := by simp
  started := by simp
  cleared := by simp
  calls := by simp

/-- A new call. -/
theorem LoaderInv.pushCall {s : ActorLoader} (hs : LoaderInv s)
    {call : LoadCall} (hcall : CallOk s call) :
    LoaderInv { s with calls := s.calls ++ [call] } where
  current := hs.current
  bound := hs.bound
  starting := hs.starting
  started := hs.started
  cleared := hs.cleared
  calls := by
    intro call' hmem
    rcases List.mem_append.1 hmem with hmem | hmem
    · exact hs.calls call' hmem
    · rw [List.mem_singleton.1 hmem]
      exact hcall

/-- A call moves on. -/
theorem LoaderInv.setCall {s : ActorLoader} (hs : LoaderInv s) (c : Nat)
    {call : LoadCall} (hcall : CallOk s call) :
    LoaderInv { s with calls := s.calls.set c call } where
  current := hs.current
  bound := hs.bound
  starting := hs.starting
  started := hs.started
  cleared := hs.cleared
  calls := by
    intro call' hmem
    rcases List.mem_or_eq_of_mem_set hmem with hmem | rfl
    · exact hs.calls call' hmem
    · exact hcall

-- ============================================================ the callers

/-- Behind the promise of a started handler. -/
theorem LoaderInv.afterStart {s : ActorLoader} (hs : LoaderInv s) {h : Nat}
    {actor : Option Nat} (hh : s.handlers[h]? = some ⟨actor, false⟩) :
    s.afterStart h = .awaitHandler h
      ∧ ∃ i : Nat, s.attempts[i]? = some ⟨h, .started⟩ := by
  obtain ⟨i, hi⟩ := hs.cleared h actor hh
  refine ⟨?_, i, hi⟩
  unfold ActorLoader.afterStart
  rw [hs.started i h hi]
  rfl

theorem LoaderInv.loadActor {s : ActorLoader} (hs : LoaderInv s)
    (hok : LoaderSafe s .loadActor) : LoaderInv s.loadActor := by
  unfold ActorLoader.loadActor
  split
  case h_1 =>
      have hthrew : CallOk s { pc := .threw } := ⟨rfl, trivial⟩
      exact hs.pushCall hthrew
  case h_2 h hcur =>
      have hlive := hok h hcur
      have hjoined : decide (s.Dead h) = false := decide_eq_false hlive
      rw [hjoined]
      apply hs.pushCall
      refine ⟨rfl, ?_⟩
      have hlt := hs.current h hcur
      rw [List.getElem?_eq_getElem hlt]
      dsimp only
      by_cases hpromise : s.handlers[h].actorStartPromise = true
      · rw [if_pos hpromise]
        exact (not_dead_iff s h).1 hlive
      · rw [if_neg hpromise]
        have hh : s.handlers[h]? = some ⟨s.handlers[h].actor, false⟩ := by
          rw [List.getElem?_eq_getElem hlt]
          rw [← Bool.eq_false_iff.2 hpromise]
        obtain ⟨hpc, hstarted⟩ := hs.afterStart hh
        rw [hpc]
        exact hstarted

theorem LoaderInv.resume {s s' : ActorLoader} (hs : LoaderInv s) {c : Nat}
    (h : s.resume c = some s') : LoaderInv s' := by
  unfold ActorLoader.resume at h
  split at h
  case h_1 handler joinedDead hcall =>
    have hold := hs.calls _ (List.mem_of_getElem? hcall)
    split at h
    case h_1 actor hh =>
      injection h with h
      rw [← h]
      apply hs.setCall
      obtain ⟨hpc, hstarted⟩ := hs.afterStart hh
      refine ⟨hold.1, ?_⟩
      dsimp only
      rw [hpc]
      exact hstarted
    case h_2 => exact absurd h (by simp)
  case h_2 handler joinedDead hcall =>
    have hold := hs.calls _ (List.mem_of_getElem? hcall)
    injection h with h
    rw [← h]
    apply hs.setCall
    -- the instance behind the handler is the one that started
    obtain ⟨i, hi⟩ := hold.2
    refine ⟨hold.1, ?_⟩
    dsimp only
    rw [hs.started i handler hi]
    exact ⟨handler, hi⟩
  case h_3 => exact absurd h (by simp)

-- ======================================================= runner callbacks

/-- A call stays where it may be when attempts are added. -/
theorem CallOk.append {s s' : ActorLoader} {call : LoadCall}
    {attempt : StartAttempt} (hcall : CallOk s call)
    (happend : s'.attempts = s.attempts ++ [attempt]) :
    CallOk s' call := by
  have hkeep : ∀ (i : Nat) (a : StartAttempt), s.attempts[i]? = some a →
      s'.attempts[i]? = some a := by
    intro i a hi
    rw [happend]
    exact getElem?_concat_of_some hi
  obtain ⟨hjoined, hpc⟩ := hcall
  refine ⟨hjoined, ?_⟩
  cases hcase : call.pc with
  | awaitStart h =>
      rw [hcase] at hpc
      obtain ⟨i, status, hi, hstatus⟩ := hpc
      exact ⟨i, status, hkeep _ _ hi, hstatus⟩
  | awaitHandler h =>
      rw [hcase] at hpc
      obtain ⟨i, hi⟩ := hpc
      exact ⟨i, hkeep _ _ hi⟩
  | returned i =>
      rw [hcase] at hpc
      obtain ⟨h, hi⟩ := hpc
      exact ⟨h, hkeep _ _ hi⟩
  | threw => trivial

/-- The start callback gets or creates a handler. A new one has no
attempts yet. -/
theorem LoaderInv.upsertHandler {s : ActorLoader} (hs : LoaderInv s) :
    LoaderInv s.upsertHandler.1
      ∧ s.upsertHandler.2 < s.upsertHandler.1.handlers.length
      ∧ s.upsertHandler.1.attempts = s.attempts
      ∧ (s.actors = none → s.upsertHandler.1.Dead s.upsertHandler.2)
      ∧ (∀ h, s.actors = some h →
          s.upsertHandler.1 = s ∧ s.upsertHandler.2 = h) := by
  unfold ActorLoader.upsertHandler
  cases hcur : s.actors with
  | some h =>
      refine ⟨hs, hs.current h hcur, rfl, by simp, ?_⟩
      intro h' heq
      injection heq with heq
      exact ⟨rfl, heq⟩
  | none =>
      refine ⟨?_, by simp, rfl, ?_, by simp⟩
      · exact {
          current := by
            intro h heq
            injection heq with heq
            rw [← heq, List.length_append]
            simp
          bound := by
            intro i a hi
            have hlt := hs.bound i a hi
            rw [List.length_append]
            omega
          starting := fun i h hi =>
            getElem?_concat_of_some (hs.starting i h hi)
          started := fun i h hi =>
            getElem?_concat_of_some (hs.started i h hi)
          cleared := by
            intro h actor hh
            rcases getElem?_concat hh with hh | ⟨-, hnew⟩
            · exact hs.cleared h actor hh
            · injection hnew with _ hpromise
              exact absurd hpromise (by simp)
          calls := fun call hcall => hs.calls call hcall }
      · intro _ a ha hh
        obtain ⟨i, hi⟩ := List.getElem?_of_mem ha
        have hlt := hs.bound i a hi
        rw [show a.handler = s.handlers.length from hh] at hlt
        omega

/-- An attempt that fails for want of a key or a definition. -/
theorem LoaderInv.pushFailed {s : ActorLoader} (hs : LoaderInv s) {h : Nat}
    (hh : h < s.handlers.length) :
    LoaderInv { s with attempts := s.attempts ++ [⟨h, .failed⟩] } where
  current := hs.current
  bound := by
    intro i a hi
    rcases getElem?_concat hi with hi | ⟨-, rfl⟩
    · exact hs.bound i a hi
    · exact hh
  starting := by
    intro i h' hi
    rcases getElem?_concat hi with hi | ⟨-, hnew⟩
    · exact hs.starting i h' hi
    · injection hnew with _ hstatus
      exact absurd hstatus (by simp)
  started := by
    intro i h' hi
    rcases getElem?_concat hi with hi | ⟨-, hnew⟩
    · exact hs.started i h' hi
    · injection hnew with _ hstatus
      exact absurd hstatus (by simp)
  cleared := by
    intro h' actor hh'
    obtain ⟨i, hi⟩ := hs.cleared h' actor hh'
    exact ⟨i, getElem?_concat_of_some hi⟩
  calls := fun call hcall => (hs.calls call hcall).append rfl

/-- An attempt on a dead handler whose start begins. -/
theorem LoaderInv.pushStarting {s : ActorLoader} (hs : LoaderInv s)
    {h : Nat} (hh : h < s.handlers.length) (hdead : s.Dead h) :
    LoaderInv { s with
      handlers := s.handlers.modify h fun handler =>
        { handler with actor := some s.attempts.length }
      attempts := s.attempts ++ [⟨h, .starting⟩] } := by
  -- the handler has an attempt that started only if it is not dead
  have hpromise : ∀ actor : Option Nat, s.handlers[h]? ≠ some ⟨actor, false⟩ := by
    intro actor hcleared
    obtain ⟨i, hi⟩ := hs.cleared h actor hcleared
    have hfailed := hdead _ (List.mem_of_getElem? hi) rfl
    exact absurd hfailed (by simp)
  have hother : ∀ (h' : Nat) (handler : LoadHandler), h' ≠ h →
      s.handlers[h']? = some handler →
      (s.handlers.modify h fun handler =>
        { handler with actor := some s.attempts.length })[h']?
          = some handler := by
    intro h' handler hne hh'
    rw [getElem?_modify_of_ne _ hne]
    exact hh'
  have hlive : ∀ (i h' : Nat) (status : AttemptStatus),
      s.attempts[i]? = some ⟨h', status⟩ →
      status ≠ .failed → h' ≠ h := by
    rintro i h' status hi hstatus rfl
    exact hstatus (hdead _ (List.mem_of_getElem? hi) rfl)
  exact {
    current := by
      intro h' hcur
      rw [List.length_modify]
      exact hs.current h' hcur
    bound := by
      intro i a hi
      rw [List.length_modify]
      rcases getElem?_concat hi with hi | ⟨-, rfl⟩
      · exact hs.bound i a hi
      · exact hh
    starting := by
      intro i h' hi
      rcases getElem?_concat hi with hi | ⟨hlast, hnew⟩
      · exact hother h' _ (hlive i h' _ hi (by simp)) (hs.starting i h' hi)
      · injection hnew with hsame _
        rw [hsame, hlast, getElem?_modify_self]
        rw [List.getElem?_eq_getElem hh]
        have htrue : s.handlers[h].actorStartPromise = true := by
          by_contra hfalse
          apply hpromise s.handlers[h].actor
          rw [List.getElem?_eq_getElem hh]
          rw [← Bool.eq_false_iff.2 hfalse]
        simp [htrue]
    started := by
      intro i h' hi
      rcases getElem?_concat hi with hi | ⟨-, hnew⟩
      · exact hother h' _ (hlive i h' _ hi (by simp)) (hs.started i h' hi)
      · injection hnew with _ hstatus
        exact absurd hstatus (by simp)
    cleared := by
      intro h' actor hh'
      rcases getElem?_modify_cases hh' with ⟨hh', -⟩ | ⟨-, y, hy, heq⟩
      case inr =>
        injection heq with _ hcleared
        exact absurd (hcleared ▸ hy) (hpromise y.actor)
      obtain ⟨i, hi⟩ := hs.cleared h' actor hh'
      exact ⟨i, getElem?_concat_of_some hi⟩
    calls := fun call hcall => (hs.calls call hcall).append rfl }

theorem LoaderInv.onActorStart {s : ActorLoader} (hs : LoaderInv s)
    {inputDecodes found : Bool}
    (hok : LoaderSafe s (.onActorStart inputDecodes found)) :
    LoaderInv (s.onActorStart inputDecodes found) := by
  unfold ActorLoader.onActorStart
  cases inputDecodes with
  | false => exact hs
  | true =>
      obtain ⟨hupsert, hlt, hattempts, hnew, hsame⟩ := hs.upsertHandler
      rw [if_pos rfl]
      dsimp only
      cases found with
      | false => exact hupsert.pushFailed hlt
      | true =>
          apply hupsert.pushStarting hlt
          cases hcur : s.actors with
          | none => exact hnew hcur
          | some h =>
              obtain ⟨hself, hhandler⟩ := hsame h hcur
              rw [hself, hhandler]
              exact hok rfl rfl h hcur

/-- An attempt that started stays where it is when one that is starting
ends. -/
theorem started_set {s : ActorLoader} {a i handler h : Nat}
    {attempt : StartAttempt}
    (hstarting : s.attempts[a]? = some ⟨handler, .starting⟩)
    (hi : s.attempts[i]? = some ⟨h, .started⟩) :
    (s.attempts.set a attempt)[i]? = some ⟨h, .started⟩ := by
  have hne : a ≠ i := by
    intro hai
    rw [← hai, hstarting] at hi
    exact absurd hi (by simp)
  rw [List.getElem?_set_ne hne]
  exact hi

/-- A call stays where it may be when the attempt `a` ends, unless the
attempt fails and the call awaits its promise. -/
theorem CallOk.set {s s' : ActorLoader} {call : LoadCall} {a h : Nat}
    {status : AttemptStatus} (hcall : CallOk s call)
    (hstarting : s.attempts[a]? = some ⟨h, .starting⟩)
    (hset : s'.attempts = s.attempts.set a ⟨h, status⟩)
    (hend : status ≠ .failed ∨ call.pc ≠ .awaitStart h) :
    CallOk s' call := by
  obtain ⟨hjoined, hpc⟩ := hcall
  refine ⟨hjoined, ?_⟩
  cases hcase : call.pc with
  | awaitStart h' =>
      rw [hcase] at hpc
      obtain ⟨i, old, hi, hold⟩ := hpc
      by_cases hia : i = a
      · -- the attempt that the call relies on is the one that ends
        rw [hia, hstarting] at hi
        injection hi with hi
        injection hi with hsame _
        have hstatus : status ≠ .failed := by
          rcases hend with hstatus | hpc'
          · exact hstatus
          · exact absurd hsame.symm (by simpa [hcase] using hpc')
        refine ⟨a, status, ?_, hstatus⟩
        rw [hset, ← hsame]
        exact List.getElem?_set_self (List.getElem?_eq_some_iff.1 hstarting).1
      · refine ⟨i, old, ?_, hold⟩
        rw [hset, List.getElem?_set_ne (Ne.symm hia)]
        exact hi
  | awaitHandler h' =>
      rw [hcase] at hpc
      obtain ⟨i, hi⟩ := hpc
      refine ⟨i, ?_⟩
      rw [hset]
      exact started_set hstarting hi
  | returned i =>
      rw [hcase] at hpc
      obtain ⟨h', hi⟩ := hpc
      refine ⟨h', ?_⟩
      rw [hset]
      exact started_set hstarting hi
  | threw => trivial

/-- A start that ends without an error. -/
theorem LoaderInv.startSucceeds {s : ActorLoader} (hs : LoaderInv s)
    {a handler : Nat}
    (hattempt : s.attempts[a]? = some ⟨handler, .starting⟩) :
    LoaderInv { s with
      handlers := s.handlers.modify handler fun handler =>
        { handler with actorStartPromise := false }
      attempts := s.attempts.set a ⟨handler, .started⟩ } := by
  have halt := (List.getElem?_eq_some_iff.1 hattempt).1
  have hhandler := hs.starting a handler hattempt
  -- the handler's other attempts have failed
  have hother : ∀ (i h' : Nat) (status : AttemptStatus), i ≠ a →
      s.attempts[i]? = some ⟨h', status⟩ → status ≠ .failed →
      (s.handlers.modify handler fun handler =>
        { handler with actorStartPromise := false })[h']?
          = s.handlers[h']? := by
    intro i h' status hne hi hstatus
    apply getElem?_modify_of_ne
    intro hsame
    rw [hsame] at hi
    cases status with
    | starting =>
        have hi' := hs.starting i handler hi
        rw [hhandler] at hi'
        simp at hi'
        exact hne hi'.symm
    | started =>
        have hi' := hs.started i handler hi
        rw [hhandler] at hi'
        exact absurd hi' (by simp)
    | failed => exact hstatus rfl
  exact {
    current := by
      intro h' hcur
      rw [List.length_modify]
      exact hs.current h' hcur
    bound := by
      intro i x hi
      rw [List.length_modify]
      rcases getElem?_set_cases hi with ⟨hi, -⟩ | ⟨-, hx⟩
      · exact hs.bound i x hi
      · rw [hx]
        have hlt := hs.bound a _ hattempt
        exact hlt
    starting := by
      intro i h' hi
      rcases getElem?_set_cases hi with ⟨hi, hne⟩ | ⟨-, hx⟩
      · rw [hother i h' _ hne hi (by simp)]
        exact hs.starting i h' hi
      · injection hx with _ hstatus
        exact absurd hstatus (by simp)
    started := by
      intro i h' hi
      rcases getElem?_set_cases hi with ⟨hi, hne⟩ | ⟨hia, hx⟩
      · rw [hother i h' _ hne hi (by simp)]
        exact hs.started i h' hi
      · injection hx with hsame _
        rw [hsame, hia, getElem?_modify_self, hhandler]
        rfl
    cleared := by
      intro h' actor hh'
      rcases getElem?_modify_cases hh' with ⟨hh', -⟩ | ⟨hsame, -⟩
      · obtain ⟨i, hi⟩ := hs.cleared h' actor hh'
        exact ⟨i, started_set hattempt hi⟩
      · rw [hsame]
        exact ⟨a, List.getElem?_set_self halt⟩
    calls := fun call hcall =>
      (hs.calls call hcall).set hattempt rfl (Or.inl (by simp)) }

/-- A start that fails while no call awaits its promise. -/
theorem LoaderInv.startFails {s : ActorLoader} (hs : LoaderInv s)
    {a handler : Nat}
    (hattempt : s.attempts[a]? = some ⟨handler, .starting⟩)
    (hnobody : ¬ s.Waiting handler) :
    LoaderInv { s with
      attempts := s.attempts.set a ⟨handler, .failed⟩ } where
  current := hs.current
  bound := by
    intro i x hi
    rcases getElem?_set_cases hi with ⟨hi, -⟩ | ⟨-, hx⟩
    · exact hs.bound i x hi
    · rw [hx]
      have hlt := hs.bound a _ hattempt
      exact hlt
  starting := by
    intro i h' hi
    rcases getElem?_set_cases hi with ⟨hi, -⟩ | ⟨-, hx⟩
    · exact hs.starting i h' hi
    · injection hx with _ hstatus
      exact absurd hstatus (by simp)
  started := by
    intro i h' hi
    rcases getElem?_set_cases hi with ⟨hi, -⟩ | ⟨-, hx⟩
    · exact hs.started i h' hi
    · injection hx with _ hstatus
      exact absurd hstatus (by simp)
  cleared := by
    intro h' actor hh'
    obtain ⟨i, hi⟩ := hs.cleared h' actor hh'
    exact ⟨i, started_set hattempt hi⟩
  calls := by
    intro call hcall
    apply (hs.calls call hcall).set hattempt rfl
    right
    intro hpc
    exact hnobody ⟨call, hcall, hpc⟩

theorem LoaderInv.startEnds {s s' : ActorLoader} (hs : LoaderInv s)
    {a : Nat} {ok : Bool} (hok : LoaderSafe s (.startEnds a ok))
    (h : s.startEnds a ok = some s') : LoaderInv s' := by
  unfold ActorLoader.startEnds at h
  split at h
  case h_2 => exact absurd h (by simp)
  case h_1 handler hattempt =>
    cases ok with
    | true =>
        rw [if_pos rfl] at h
        injection h with h
        rw [← h]
        exact hs.startSucceeds hattempt
    | false =>
        rw [if_neg (by simp)] at h
        injection h with h
        rw [← h]
        exact hs.startFails hattempt (hok rfl _ hattempt)

-- ================================================================ the runs

theorem LoaderInv.onActorStop {s : ActorLoader} (hs : LoaderInv s) :
    LoaderInv s.onActorStop := by
  unfold ActorLoader.onActorStop
  split
  · split
    · exact ⟨hs.current, hs.bound, hs.starting, hs.started, hs.cleared,
        hs.calls⟩
    · exact hs
  · exact hs

theorem LoaderInv.actorStopped {s s' : ActorLoader} (hs : LoaderInv s)
    (h : s.actorStopped = some s') : LoaderInv s' := by
  unfold ActorLoader.actorStopped at h
  split at h
  · exact absurd h (by simp)
  · injection h with h
    rw [← h]
    exact ⟨by simp, hs.bound, hs.starting, hs.started, hs.cleared,
      hs.calls⟩

/-- One safe step keeps the invariant. -/
theorem loaderInv_step {s s' : ActorLoader} {a : LoaderStep}
    (hs : LoaderInv s) (hok : LoaderSafe s a)
    (h : loaderStep s a = some s') : LoaderInv s' := by
  cases a with
  | loadActor =>
      injection h with h
      rw [← h]
      exact hs.loadActor hok
  | resume c => exact hs.resume h
  | onActorStart inputDecodes found =>
      injection h with h
      rw [← h]
      exact hs.onActorStart hok
  | startEnds a ok => exact hs.startEnds hok h
  | onActorStop =>
      injection h with h
      rw [← h]
      exact hs.onActorStop
  | actorStopped => exact hs.actorStopped h

/-- Safe runs keep the contract. -/
theorem notStuck_of_reaches {s : ActorLoader}
    (h : loaderSystem.Reaches LoaderSafe s) : s.NotStuck := by
  apply LoaderInv.notStuck
  apply System.Reaches.invariant _ _ h
  · intro s hs
    rw [show s = {} from hs]
    exact loaderInv_init
  · intro s a s' _ hs hok hstep
    exact loaderInv_step hs hok hstep

end RivetKit.Drivers.Engine
