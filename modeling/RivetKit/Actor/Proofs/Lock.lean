/-
What a `Lock` keeps, and when it excludes.

# Every run

No waiter is lost: who is at a promise in `_waiting` is in the list once
(`Queued`), and while the list is not empty there is someone whose turn it
is, as only a caller that finds `_locked` set gets into it, and every
`finally` takes one out and makes it its turn (`Turns`).

# Runs without a call in between

Behind a `finally` that wakes a waiter `_locked` is not set, so a call that
comes before the waiter goes on starts its callback beside that of the
waiter (`lock_before_resume`). Where no call comes then, it is one
caller's turn at a time (`Owned`): the turn is a mutex that the `finally`
hands from one caller to the next.
-/
import RivetKit.Actor.Lock
import RivetKit.Lib.Mutex

namespace RivetKit.Actor

open Transition

namespace Lock

variable {s s' : Lock} {i j : Nat}

-- =============================================================== the callers

theorem getElem?_push {callers : List LockPc} (pc : LockPc) (j : Nat) :
    (callers ++ [pc])[j]?
      = if j = callers.length then some pc else callers[j]? := by
  by_cases heq : j = callers.length
  · rw [if_pos heq, heq, List.getElem?_concat_length]
  · rw [if_neg heq, List.getElem?_append]
    by_cases hlt : j < callers.length
    · rw [if_pos hlt]
    · rw [if_neg hlt, List.getElem?_eq_none (by simp; omega),
        List.getElem?_eq_none (by omega)]

theorem getElem?_move {callers : List LockPc} {old : LockPc}
    (h : callers[i]? = some old) (pc : LockPc) (j : Nat) :
    (callers.set i pc)[j]? = if j = i then some pc else callers[j]? := by
  obtain ⟨hi, _⟩ := List.getElem?_eq_some_iff.1 h
  by_cases heq : j = i
  · rw [if_pos heq, heq, List.getElem?_set_self hi]
  · rw [if_neg heq, List.getElem?_set_ne (Ne.symm heq)]

/-- What holds of the place of a caller. -/
def placed (callers : List LockPc) (f : LockPc → Bool) (i : Nat) : Bool :=
  callers[i]?.any f

section

variable {callers : List LockPc} {f : LockPc → Bool}

theorem placed_eq_true :
    placed callers f i = true ↔ ∃ pc, callers[i]? = some pc ∧ f pc = true :=
  Option.any_eq_true _ _

theorem placed_of {pc : LockPc} (h : callers[i]? = some pc) :
    placed callers f i = f pc := by
  unfold placed
  rw [h]
  rfl

theorem placed_length : placed callers f callers.length = false := by
  unfold placed
  rw [List.getElem?_eq_none (Nat.le_refl _)]
  rfl

theorem placed_push (pc : LockPc) (j : Nat) :
    placed (callers ++ [pc]) f j
      = if j = callers.length then f pc else placed callers f j := by
  unfold placed
  rw [getElem?_push]
  split
  · rfl
  · rfl

theorem placed_move {old : LockPc} (h : callers[i]? = some old) (pc : LockPc)
    (j : Nat) :
    placed (callers.set i pc) f j
      = if j = i then f pc else placed callers f j := by
  unfold placed
  rw [getElem?_move h]
  split
  · rfl
  · rfl

/-- A holder's turn it is. -/
theorem active_of_holds (h : placed callers LockPc.holds i = true) :
    placed callers LockPc.active i = true := by
  obtain ⟨pc, hpc, hholds⟩ := placed_eq_true.1 h
  refine placed_eq_true.2 ⟨pc, hpc, ?_⟩
  cases pc with
  | inside => rfl
  | ended threw => rfl
  | waiting => cases hholds
  | woken => cases hholds
  | settled threw => cases hholds

end

-- ================================================================= the steps

/-- What a step does to the fields: a call waits or begins, a waiter begins,
a callback ends, a holder leaves alone or wakes the first waiter. -/
theorem step_cases {a : LockStep} (h : lockSystem.step s a = some s') :
    (a = .lock ∧ s.locked = true
      ∧ s' = { s with
        waiting := s.waiting ++ [s.callers.length]
        callers := s.callers ++ [.waiting] })
    ∨ (a = .lock ∧ s.locked = false
      ∧ s' = { s with
        locked := true
        callers := s.callers ++ [.inside] })
    ∨ (∃ i, a = .resume i ∧ s.callers[i]? = some .woken
      ∧ s' = { s with
        locked := true
        callers := s.callers.set i .inside })
    ∨ (∃ i threw, a = .ends i threw ∧ s.callers[i]? = some .inside
      ∧ s' = { s with callers := s.callers.set i (.ended threw) })
    ∨ (∃ i threw, a = .leave i ∧ s.callers[i]? = some (.ended threw)
      ∧ s' = wakeNext { s with
        locked := false
        callers := s.callers.set i (.settled threw) }) := by
  cases a with
  | lock =>
      have hs' : s.lock = s' := Option.some.inj h
      unfold lock at hs'
      split at hs'
      · rename_i hlocked
        exact .inl ⟨rfl, hlocked, hs'.symm⟩
      · rename_i hlocked
        exact .inr (.inl ⟨rfl, by simpa using hlocked, hs'.symm⟩)
  | resume i =>
      have hs' : s.resume i = some s' := h
      unfold resume at hs'
      split at hs'
      · rename_i hi
        exact .inr (.inr (.inl ⟨i, rfl, hi, (Option.some.inj hs').symm⟩))
      · cases hs'
  | ends i threw =>
      have hs' : s.ends i threw = some s' := h
      unfold ends at hs'
      split at hs'
      · rename_i hi
        exact .inr (.inr (.inr (.inl
          ⟨i, threw, rfl, hi, (Option.some.inj hs').symm⟩)))
      · cases hs'
  | leave i =>
      have hs' : s.leave i = some s' := h
      unfold leave at hs'
      split at hs'
      · rename_i threw hi
        exact .inr (.inr (.inr (.inr
          ⟨i, threw, rfl, hi, (Option.some.inj hs').symm⟩)))
      · cases hs'

-- ========================================================== no waiter is lost

/-- Who waits is in `_waiting`, once. -/
structure Queued (s : Lock) : Prop where
  nodup : s.waiting.Nodup
  mem : ∀ i, i ∈ s.waiting ↔ s.callers[i]? = some .waiting

/-- A caller that does not wait goes somewhere else. -/
theorem Queued.move (h : Queued s) {old pc : LockPc}
    (hi : s.callers[i]? = some old) (hold : old ≠ .waiting)
    (hpc : pc ≠ .waiting) (b : Bool) :
    Queued { s with locked := b, callers := s.callers.set i pc } where
  nodup := h.nodup
  mem j := by
    show j ∈ s.waiting ↔ (s.callers.set i pc)[j]? = some .waiting
    rw [getElem?_move hi, h.mem]
    by_cases heq : j = i
    · rw [if_pos heq, heq, hi]
      simp [hold, hpc]
    · rw [if_neg heq]

/-- The first waiter is taken out. -/
theorem Queued.wakeNext (h : Queued s) : Queued s.wakeNext := by
  unfold Lock.wakeNext
  split
  · rename_i next waiting hwaiting
    obtain ⟨hnext, hnodup⟩ := List.nodup_cons.1 (hwaiting ▸ h.nodup)
    have hplace : s.callers[next]? = some .waiting :=
      (h.mem next).1 (hwaiting ▸ List.mem_cons_self)
    constructor
    case nodup => exact hnodup
    case mem =>
      intro j
      show j ∈ waiting ↔ (s.callers.set next .woken)[j]? = some .waiting
      rw [getElem?_move hplace]
      by_cases heq : j = next
      · rw [if_pos heq, heq]
        simp [hnext]
      · rw [if_neg heq, ← h.mem, hwaiting, List.mem_cons]
        simp [heq]
  · exact h

/-- Every step keeps the list. -/
theorem Queued.step (h : Queued s) {a : LockStep}
    (hs : lockSystem.step s a = some s') : Queued s' := by
  have hfresh : s.callers.length ∉ s.waiting := by
    rw [h.mem, List.getElem?_eq_none (Nat.le_refl _)]
    simp
  rcases step_cases hs with ⟨_, _, rfl⟩ | ⟨_, _, rfl⟩ | ⟨i, _, hi, rfl⟩
    | ⟨i, threw, _, hi, rfl⟩ | ⟨i, threw, _, hi, rfl⟩
  · -- a call waits
    constructor
    case nodup =>
      exact List.nodup_append.2 ⟨h.nodup, by simp,
        fun j hj k hk heq => hfresh (List.mem_singleton.1 hk ▸ heq ▸ hj)⟩
    case mem =>
      intro j
      show j ∈ s.waiting ++ [s.callers.length]
        ↔ (s.callers ++ [LockPc.waiting])[j]? = some .waiting
      rw [getElem?_push, List.mem_append, List.mem_singleton, h.mem]
      by_cases heq : j = s.callers.length
      · simp [heq]
      · simp [heq]
  · -- a call begins
    constructor
    case nodup => exact h.nodup
    case mem =>
      intro j
      show j ∈ s.waiting ↔ (s.callers ++ [LockPc.inside])[j]? = some .waiting
      rw [getElem?_push]
      by_cases heq : j = s.callers.length
      · rw [if_pos heq, heq]
        simp [hfresh]
      · rw [if_neg heq, h.mem]
  · exact h.move hi (by simp) (by simp) true
  · exact h.move hi (by simp) (by simp) s.locked
  · exact (h.move hi (by simp) (by simp) false).wakeNext

/-- Somebody's turn it is. -/
structure Turns (s : Lock) : Prop where
  locked : s.locked = true → ∃ i, placed s.callers LockPc.holds i = true
  waiting : s.waiting ≠ [] → ∃ i, placed s.callers LockPc.active i = true

/-- Who is there stays there while another one comes. -/
theorem placed_push_of {callers : List LockPc} {f : LockPc → Bool}
    (pc : LockPc) (h : placed callers f i = true) :
    placed (callers ++ [pc]) f i = true := by
  rw [placed_push]
  split
  · rename_i heq
    rw [heq, placed_length] at h
    cases h
  · exact h

/-- The first waiter's turn it is. -/
theorem Turns.wakeNext (hq : Queued s) (hlocked : s.locked = false) :
    Turns s.wakeNext := by
  unfold Lock.wakeNext
  split
  · rename_i next waiting hwaiting
    have hplace : s.callers[next]? = some .waiting :=
      (hq.mem next).1 (hwaiting ▸ List.mem_cons_self)
    constructor
    case locked =>
      intro h
      rw [show s.locked = true from h] at hlocked
      cases hlocked
    case waiting =>
      intro _
      refine ⟨next, ?_⟩
      rw [placed_move hplace, if_pos rfl]
      rfl
  · rename_i hwaiting
    constructor
    case locked =>
      intro h
      rw [h] at hlocked
      cases hlocked
    case waiting =>
      intro h
      exact absurd hwaiting h

/-- Every step leaves somebody's turn. -/
theorem Turns.step (h : Turns s) (hq : Queued s) {a : LockStep}
    (hs : lockSystem.step s a = some s') : Turns s' := by
  rcases step_cases hs with ⟨_, hlocked, rfl⟩ | ⟨_, _, rfl⟩ | ⟨i, _, hi, rfl⟩
    | ⟨i, threw, _, hi, rfl⟩ | ⟨i, threw, _, hi, rfl⟩
  · -- a call waits for the holder
    obtain ⟨i, hi⟩ := h.locked hlocked
    exact ⟨fun _ => ⟨i, placed_push_of _ hi⟩,
      fun _ => ⟨i, placed_push_of _ (active_of_holds hi)⟩⟩
  · have hholds : placed (s.callers ++ [LockPc.inside]) LockPc.holds
        s.callers.length = true := by
      rw [placed_push, if_pos rfl]
      rfl
    exact ⟨fun _ => ⟨_, hholds⟩, fun _ => ⟨_, active_of_holds hholds⟩⟩
  · have hholds : placed (s.callers.set i LockPc.inside) LockPc.holds i
        = true := by
      rw [placed_move hi, if_pos rfl]
      rfl
    exact ⟨fun _ => ⟨i, hholds⟩, fun _ => ⟨i, active_of_holds hholds⟩⟩
  · have hholds : placed (s.callers.set i (LockPc.ended threw)) LockPc.holds i
        = true := by
      rw [placed_move hi, if_pos rfl]
      rfl
    exact ⟨fun _ => ⟨i, hholds⟩, fun _ => ⟨i, active_of_holds hholds⟩⟩
  · exact .wakeNext (hq.move hi (by simp) (by simp) false) rfl

/-- In every run. -/
theorem turns_of_reachable (h : lockSystem.Reachable s) :
    Queued s ∧ Turns s := by
  refine System.Reaches.invariant (P := fun s => Queued s ∧ Turns s) ?_ ?_ h
  · rintro s rfl
    exact ⟨⟨List.nodup_nil, fun i => by simp⟩, ⟨nofun, fun h => absurd rfl h⟩⟩
  · intro s a s' _ hinv _ hs
    exact ⟨hinv.1.step hs, hinv.2.step hinv.1 hs⟩

-- ============================================================ one turn at a time

/-- No call comes while a waiter that was woken has not gone on. -/
def NoneWoken (s : Lock) (a : LockStep) : Prop :=
  a = .lock → .woken ∉ s.callers

instance (s : Lock) (a : LockStep) : Decidable (NoneWoken s a) :=
  inferInstanceAs (Decidable (_ → _))

/-- The turn is a mutex, and `_locked` is set for the holder. -/
structure Owned (s : Lock) : Prop where
  turn : ∃ owner, Held owner (placed s.callers LockPc.active)
  free : s.locked = false → ∀ i, placed s.callers LockPc.holds i = false

/-- Whose turn it is goes on and keeps it. -/
theorem Owned.keep (h : Owned s) {old pc : LockPc}
    (hi : s.callers[i]? = some old) (hold : old.active = true)
    (hpc : pc.active = true) {b : Bool}
    (hfree : b = false → s.locked = false ∧ old.holds = true) :
    Owned { s with locked := b, callers := s.callers.set i pc } := by
  have hsame : placed (s.callers.set i pc) LockPc.active
      = placed s.callers LockPc.active := by
    funext j
    rw [placed_move hi]
    split
    · rename_i heq
      rw [heq, placed_of hi, hold, hpc]
    · rfl
  constructor
  case turn =>
    show ∃ owner, Held owner (placed (s.callers.set i pc) LockPc.active)
    rw [hsame]
    exact h.turn
  case free =>
    intro hb
    obtain ⟨hlocked, hholds⟩ := hfree hb
    have hnone := h.free hlocked i
    rw [placed_of hi, hholds] at hnone
    cases hnone

/-- A holder leaves, and nobody's turn it is. -/
theorem Owned.leave (h : Owned s) {threw : Bool}
    (hi : s.callers[i]? = some (.ended threw)) :
    Held none (placed (s.callers.set i (.settled threw)) LockPc.active) := by
  obtain ⟨owner, howner⟩ := h.turn
  have hactive : placed s.callers LockPc.active i = true := placed_of hi
  refine howner.move (t := i) ?_ ?_ ?_
  · intro j hj
    rw [placed_move hi, if_neg hj]
  · intro hnew
    rw [placed_move hi, if_pos rfl] at hnew
    cases hnew
  · rw [placed_move hi, if_pos rfl, hactive]
    rfl

/-- The turn is handed to the first waiter. -/
theorem owned_wakeNext (hq : Queued s)
    (hfree : Held none (placed s.callers LockPc.active)) :
    Owned s.wakeNext := by
  have hholds : ∀ j, placed s.callers LockPc.holds j = false := by
    intro j
    cases hj : placed s.callers LockPc.holds j with
    | false => rfl
    | true =>
        have hactive := active_of_holds hj
        rw [hfree.free rfl j] at hactive
        cases hactive
  unfold Lock.wakeNext
  split
  · rename_i next waiting hwaiting
    have hplace : s.callers[next]? = some .waiting :=
      (hq.mem next).1 (hwaiting ▸ List.mem_cons_self)
    constructor
    case turn =>
      refine ⟨some next, hfree.move (t := next) ?_ ?_ ?_⟩
      · intro j hj
        rw [placed_move hplace, if_neg hj]
      · intro _
        exact .inr rfl
      · rw [placed_move hplace, if_pos rfl]
        rfl
    case free =>
      intro _ j
      rw [placed_move hplace, hholds]
      split
      · rfl
      · rfl
  · exact ⟨⟨none, hfree⟩, fun _ => hholds⟩

/-- A call begins where it is nobody's turn. -/
theorem Owned.begins (h : Owned s) (hlocked : s.locked = false)
    (hwoken : .woken ∉ s.callers) :
    Owned { s with locked := true, callers := s.callers ++ [.inside] } := by
  have hnone : ∀ j, placed s.callers LockPc.active j = false := by
    intro j
    cases hj : placed s.callers LockPc.active j with
    | false => rfl
    | true =>
        obtain ⟨pc, hpc, hactive⟩ := placed_eq_true.1 hj
        have hholds := h.free hlocked j
        rw [placed_of hpc] at hholds
        cases pc with
        | woken => exact absurd (List.mem_of_getElem? hpc) hwoken
        | inside => cases hholds
        | ended threw => cases hholds
        | waiting => cases hactive
        | settled threw => cases hactive
  have hheld : Held none (placed s.callers LockPc.active) := by
    intro j
    rw [hnone j]
    simp
  constructor
  case turn =>
    refine ⟨some s.callers.length, hheld.move (t := s.callers.length) ?_ ?_ ?_⟩
    · intro j hj
      rw [placed_push, if_neg hj]
    · intro _
      exact .inr rfl
    · rw [placed_push, if_pos rfl]
      rfl
  case free => nofun

/-- A call that waits takes no turn. -/
theorem Owned.waits (h : Owned s) (hlocked : s.locked = true)
    (waiting : List Nat) :
    Owned { s with waiting := waiting, callers := s.callers ++ [.waiting] } := by
  have hsame : placed (s.callers ++ [LockPc.waiting]) LockPc.active
      = placed s.callers LockPc.active := by
    funext j
    rw [placed_push]
    split
    · rename_i heq
      rw [heq, placed_length]
      rfl
    · rfl
  constructor
  case turn =>
    show ∃ owner, Held owner
      (placed (s.callers ++ [LockPc.waiting]) LockPc.active)
    rw [hsame]
    exact h.turn
  case free =>
    intro hfree
    rw [show s.locked = false from hfree] at hlocked
    cases hlocked

/-- Every step but a call that comes in between. -/
theorem Owned.step (h : Owned s) (hq : Queued s) {a : LockStep}
    (hok : NoneWoken s a) (hs : lockSystem.step s a = some s') :
    Owned s' := by
  rcases step_cases hs with ⟨_, hlocked, rfl⟩ | ⟨ha, hlocked, rfl⟩
    | ⟨i, _, hi, rfl⟩ | ⟨i, threw, _, hi, rfl⟩ | ⟨i, threw, _, hi, rfl⟩
  · exact h.waits hlocked _
  · exact h.begins hlocked (hok ha)
  · exact h.keep hi rfl rfl nofun
  · exact h.keep hi rfl rfl fun hlocked => ⟨hlocked, rfl⟩
  · exact owned_wakeNext (hq.move hi (by simp) (by simp) false) (h.leave hi)

/-- In every run without such a call. -/
theorem owned_of_reaches (h : lockSystem.Reaches NoneWoken s) : Owned s := by
  refine System.Reaches.invariant (P := Owned) ?_ ?_ h
  · rintro s rfl
    exact ⟨⟨none, fun i => by simp [placed]⟩, fun _ i => by simp [placed]⟩
  · intro s a s' hreach hinv hok hs
    exact hinv.step (turns_of_reachable hreach.reachable).1 hok hs

-- ======================================================== a call in between

/-- A call in between starts its callback beside that of the waiter. -/
theorem lock_before_resume (h : lockSystem.Reaches NoneWoken s)
    (hi : s.callers[i]? = some .woken) :
    ∃ s', lockSystem.run s [.lock, .resume i] = some s'
      ∧ s'.Inside i ∧ s'.Inside s.callers.length ∧ i ≠ s.callers.length := by
  obtain ⟨owner, howner⟩ := (owned_of_reaches h).turn
  have hturn : placed s.callers LockPc.active i = true := placed_of hi
  -- the waiter's turn it is, so no holder is there
  have hlocked : s.locked = false := by
    cases hlocked : s.locked with
    | false => rfl
    | true =>
        obtain ⟨j, hj⟩ := (turns_of_reachable h.reachable).2.locked hlocked
        obtain rfl := howner.unique hturn (active_of_holds hj)
        rw [placed_of hi] at hj
        cases hj
  have hne : i ≠ s.callers.length := by
    have hlt := (List.getElem?_eq_some_iff.1 hi).1
    omega
  have hcall : s.lock
      = { s with locked := true, callers := s.callers ++ [.inside] } := by
    unfold lock
    rw [if_neg (by simp [hlocked])]
  have hi' : (s.callers ++ [LockPc.inside])[i]? = some .woken := by
    rw [getElem?_push, if_neg hne]
    exact hi
  have hresume : s.lock.resume i = some
      { s with
        locked := true
        callers := (s.callers ++ [LockPc.inside]).set i LockPc.inside } := by
    unfold resume
    rw [hcall]
    dsimp only
    rw [hi']
  refine ⟨{ s with
    locked := true
    callers := (s.callers ++ [LockPc.inside]).set i LockPc.inside },
    ?_, ?_, ?_, hne⟩
  · show lockSystem.run s.lock [.resume i] = _
    rw [System.run, show lockSystem.step s.lock (.resume i) = _ from hresume]
    rfl
  · show ((s.callers ++ [LockPc.inside]).set i LockPc.inside)[i]? = _
    rw [getElem?_move hi', if_pos rfl]
  · show ((s.callers ++ [LockPc.inside]).set i LockPc.inside)[s.callers.length]?
      = _
    rw [getElem?_move hi', if_neg (Ne.symm hne), getElem?_push, if_pos rfl]

-- ======================================================== who waits is resumed

/-- Who is not waiting does not wait again. -/
def Gone (s : Lock) (i : Nat) : Prop :=
  ∃ pc, s.callers[i]? = some pc ∧ pc ≠ .waiting

theorem Gone.push (h : Gone s i) (pc : LockPc) {b : Bool}
    {waiting : List Nat} :
    Gone ⟨b, waiting, s.callers ++ [pc]⟩ i := by
  obtain ⟨old, hi, hold⟩ := h
  have hlt := (List.getElem?_eq_some_iff.1 hi).1
  refine ⟨old, ?_, hold⟩
  show (s.callers ++ [pc])[i]? = some old
  rw [getElem?_push, if_neg (by omega), hi]

theorem Gone.move (h : Gone s i) {pc : LockPc} (hpc : pc ≠ .waiting)
    (j : Nat) {b : Bool} {waiting : List Nat} :
    Gone ⟨b, waiting, s.callers.set j pc⟩ i := by
  obtain ⟨old, hi, hold⟩ := h
  by_cases heq : i = j
  · refine ⟨pc, ?_, hpc⟩
    show (s.callers.set j pc)[i]? = some pc
    rw [← heq, getElem?_move hi, if_pos rfl]
  · refine ⟨old, ?_, hold⟩
    show (s.callers.set j pc)[i]? = some old
    rw [List.getElem?_set_ne (Ne.symm heq), hi]

theorem Gone.wakeNext (h : Gone s i) : Gone s.wakeNext i := by
  unfold Lock.wakeNext
  split
  · exact h.move (by simp) _
  · exact h

theorem Gone.step (h : Gone s i) {a : LockStep}
    (hs : lockSystem.step s a = some s') : Gone s' i := by
  rcases step_cases hs with ⟨_, _, rfl⟩ | ⟨_, _, rfl⟩ | ⟨j, _, _, rfl⟩
    | ⟨j, threw, _, _, rfl⟩ | ⟨j, threw, _, _, rfl⟩
  · exact h.push _
  · exact h.push _
  · exact h.move (by simp) j
  · exact h.move (by simp) j
  · exact (show Gone ⟨false, s.waiting, s.callers.set j (.settled threw)⟩ i
      from h.move (by simp) j).wakeNext

/-- One step on, a waiter has one holder less before it if one ended, and
no more in any case. -/
theorem waiting_step {k : Nat} (hq : Queued s) (hk : s.waiting[k]? = some i)
    {a : LockStep} (hs : lockSystem.step s a = some s') :
    (leaves [a] = 0 ∧ s'.waiting[k]? = some i)
      ∨ leaves [a] = 1 ∧ (k = 0 ∧ Gone s' i
        ∨ ∃ k', k = k' + 1 ∧ s'.waiting[k']? = some i) := by
  rcases step_cases hs with ⟨rfl, _, rfl⟩ | ⟨rfl, _, rfl⟩ | ⟨j, rfl, _, rfl⟩
    | ⟨j, threw, rfl, _, rfl⟩ | ⟨j, threw, rfl, hj, rfl⟩
  · refine .inl ⟨rfl, ?_⟩
    have hlt := (List.getElem?_eq_some_iff.1 hk).1
    show (s.waiting ++ [s.callers.length])[k]? = some i
    rw [List.getElem?_append_left hlt, hk]
  · exact .inl ⟨rfl, hk⟩
  · exact .inl ⟨rfl, hk⟩
  · exact .inl ⟨rfl, hk⟩
  · refine .inr ⟨rfl, ?_⟩
    have hq' := hq.move hj (by simp) (show LockPc.settled threw ≠ .waiting
      by simp) false
    unfold Lock.wakeNext
    split
    · rename_i next waiting hwaiting
      rw [show s.waiting = next :: waiting from hwaiting] at hk
      cases k with
      | zero =>
          obtain rfl := Option.some.inj hk
          have hplace := (hq'.mem next).1 (hwaiting ▸ List.mem_cons_self)
          refine .inl ⟨rfl, .woken, ?_, by simp⟩
          show ((s.callers.set j (.settled threw)).set next .woken)[next]? = _
          rw [getElem?_move hplace, if_pos rfl]
      | succ k => exact .inr ⟨k, rfl, hk⟩
    · rename_i hwaiting
      rw [show s.waiting = [] from hwaiting] at hk
      cases hk

theorem Gone.run (steps : List LockStep) (h : Gone s i)
    (hrun : lockSystem.run s steps = some s') : Gone s' i :=
  System.run_keeps (P := fun s => Gone s i)
    (fun _ _ _ h hs => h.step hs) steps h hrun

/-- Behind as many holders as wait before it and one more, a waiter waits
no longer. -/
theorem gone_of_leaves (steps : List LockStep) {k : Nat} (hq : Queued s)
    (hk : s.waiting[k]? = some i) (hleaves : k < leaves steps)
    (hrun : lockSystem.run s steps = some s') : Gone s' i := by
  induction steps generalizing s k with
  | nil => exact absurd hleaves (Nat.not_lt_zero k)
  | cons a steps ih =>
      obtain ⟨s₁, hs₁, hrun⟩ := System.run_cons hrun
      have hsum : leaves (a :: steps) = leaves [a] + leaves steps := by
        unfold leaves
        rw [← List.countP_append]
        rfl
      rcases waiting_step hq hk hs₁ with ⟨hzero, hk'⟩ | ⟨hone, hgone⟩
      · exact ih (hq.step hs₁) hk' (by omega) hrun
      · rcases hgone with ⟨_, hgone⟩ | ⟨k', rfl, hk'⟩
        · exact hgone.run steps hrun
        · exact ih (hq.step hs₁) hk' (by omega) hrun

-- ================================================== without calls it drains

/-- What is left, when one caller goes on. -/
theorem remaining_move {callers : List LockPc} {old : LockPc}
    (h : callers[i]? = some old) (pc : LockPc) :
    ((callers.set i pc).map LockPc.remaining).sum + old.remaining
      = (callers.map LockPc.remaining).sum + pc.remaining := by
  induction callers generalizing i with
  | nil => cases h
  | cons c callers ih =>
      cases i with
      | zero =>
          obtain rfl := Option.some.inj h
          simp only [List.set_cons_zero, List.map_cons, List.sum_cons]
          omega
      | succ i =>
          have hrest := ih h
          simp only [List.set_cons_succ, List.map_cons, List.sum_cons]
          omega

theorem remaining_wakeNext (hq : Queued s) :
    s.wakeNext.remaining ≤ s.remaining := by
  unfold Lock.wakeNext
  split
  · rename_i next waiting hwaiting
    have hplace := (hq.mem next).1 (hwaiting ▸ List.mem_cons_self)
    have hsum := remaining_move hplace .woken
    have hless : LockPc.woken.remaining < LockPc.waiting.remaining := by decide
    show ((s.callers.set next .woken).map LockPc.remaining).sum
      ≤ (s.callers.map LockPc.remaining).sum
    omega
  · exact Nat.le_refl _

/-- Every step but a call has less left. -/
theorem remaining_step (hq : Queued s) {a : LockStep} (ha : a ≠ .lock)
    (hs : lockSystem.step s a = some s') : s'.remaining < s.remaining := by
  rcases step_cases hs with ⟨rfl, _, _⟩ | ⟨rfl, _, _⟩ | ⟨i, _, hi, rfl⟩
    | ⟨i, threw, _, hi, rfl⟩ | ⟨i, threw, _, hi, rfl⟩
  · exact absurd rfl ha
  · exact absurd rfl ha
  · have hsum := remaining_move hi .inside
    have hless : LockPc.inside.remaining < LockPc.woken.remaining := by decide
    show ((s.callers.set i .inside).map LockPc.remaining).sum
      < (s.callers.map LockPc.remaining).sum
    omega
  · have hsum := remaining_move hi (.ended threw)
    have hless : (LockPc.ended threw).remaining < LockPc.inside.remaining :=
      Nat.lt_succ_self 1
    show ((s.callers.set i (.ended threw)).map LockPc.remaining).sum
      < (s.callers.map LockPc.remaining).sum
    omega
  · have hsum := remaining_move hi (.settled threw)
    have hless : (LockPc.settled threw).remaining
        < (LockPc.ended threw).remaining := Nat.lt_succ_self 0
    have hwake := remaining_wakeNext
      (hq.move hi (by simp) (show LockPc.settled threw ≠ .waiting by simp) false)
    refine Nat.lt_of_le_of_lt hwake ?_
    show ((s.callers.set i (.settled threw)).map LockPc.remaining).sum
      < (s.callers.map LockPc.remaining).sum
    omega

theorem length_le_remaining (steps : List LockStep) (hq : Queued s)
    (hcalls : .lock ∉ steps) (hrun : lockSystem.run s steps = some s') :
    steps.length ≤ s.remaining := by
  induction steps generalizing s with
  | nil => exact Nat.zero_le _
  | cons a steps ih =>
      obtain ⟨s₁, hs₁, hrun⟩ := System.run_cons hrun
      rw [List.mem_cons, not_or] at hcalls
      have hless := remaining_step hq (Ne.symm hcalls.1) hs₁
      have hrest := ih (hq.step hs₁) hcalls.2 hrun
      rw [List.length_cons]
      omega

/-- Where nothing but a call is possible every caller is through. -/
theorem settled_of_stuck (hq : Queued s) (ht : Turns s)
    (hstuck : ∀ a, a ≠ .lock → lockSystem.step s a = none) :
    ∀ pc ∈ s.callers, ∃ threw, pc = .settled threw := by
  have hturn : ∀ i, placed s.callers LockPc.active i = false := by
    intro i
    cases hi : placed s.callers LockPc.active i with
    | false => rfl
    | true =>
        obtain ⟨pc, hpc, hactive⟩ := placed_eq_true.1 hi
        cases pc with
        | woken =>
            have hnone : s.resume i = none := hstuck (.resume i) (by simp)
            unfold resume at hnone
            rw [hpc] at hnone
            cases hnone
        | inside =>
            have hnone : s.ends i false = none :=
              hstuck (.ends i false) (by simp)
            unfold ends at hnone
            rw [hpc] at hnone
            cases hnone
        | ended threw =>
            have hnone : s.leave i = none := hstuck (.leave i) (by simp)
            unfold Lock.leave at hnone
            rw [hpc] at hnone
            cases hnone
        | waiting => cases hactive
        | settled threw => cases hactive
  intro pc hpc
  obtain ⟨i, hi⟩ := List.mem_iff_getElem?.1 hpc
  have hi' := hturn i
  rw [placed_of hi] at hi'
  cases pc with
  | woken => cases hi'
  | inside => cases hi'
  | ended threw => cases hi'
  | settled threw => exact ⟨threw, rfl⟩
  | waiting =>
      have hmem := (hq.mem i).2 hi
      obtain ⟨j, hj⟩ := ht.waiting (List.ne_nil_of_mem hmem)
      rw [hturn j] at hj
      cases hj

-- ================================================================= the result

/-- Without a call between a `finally` and the waiter that it woke, the
callbacks exclude each other and every waiter is resumed. -/
theorem excludes (h : lockSystem.Reaches NoneWoken s) : Excludes s := by
  obtain ⟨hq, ht⟩ := turns_of_reachable h.reachable
  have hafter : ∀ steps s', lockSystem.run s steps = some s' →
      Queued s' ∧ Turns s' := fun steps s' hrun =>
    turns_of_reachable (System.Reachable.run steps h.reachable hrun)
  constructor
  case one =>
    intro i j hi hj
    obtain ⟨owner, howner⟩ := (owned_of_reaches h).turn
    exact howner.unique (placed_of hi) (placed_of hj)
  case held =>
    intro hwaiting
    obtain ⟨i, hi⟩ := ht.waiting hwaiting
    obtain ⟨pc, hpc, hactive⟩ := placed_eq_true.1 hi
    exact ⟨pc, List.mem_of_getElem? hpc, hactive⟩
  case resumed =>
    intro steps s' hrun k i hk hleaves
    obtain ⟨pc, hpc, hne⟩ := gone_of_leaves steps hq hk hleaves hrun
    have hplace : s'.callers[i]? ≠ some .waiting := by
      rw [hpc]
      simpa using hne
    exact ⟨fun hmem => hplace (((hafter steps s' hrun).1.mem i).1 hmem), hplace⟩
  case drained =>
    intro steps s' hrun hcalls
    obtain ⟨hq', ht'⟩ := hafter steps s' hrun
    exact ⟨length_le_remaining steps hq hcalls hrun,
      settled_of_stuck hq' ht'⟩

/-- Three callers, the second one throws, and a fourth that comes late. -/
theorem excludes_three : Excludes ((lockSystem.run {}
    [.lock, .lock, .lock, .ends 0 false, .leave 0, .resume 1, .lock,
      .ends 1 true, .leave 1, .resume 2]).getD {}) := by
  have hok : lockSystem.RunOk NoneWoken {}
      [.lock, .lock, .lock, .ends 0 false, .leave 0, .resume 1, .lock,
        .ends 1 true, .leave 1, .resume 2] := by decide
  exact excludes (System.Reaches.run _ (.init rfl) hok rfl)

/-- The second caller is woken, the third one begins, the second one goes
on: two callbacks run. -/
theorem two_inside : ∃ s, lockSystem.Reachable s ∧ ¬ Excludes s := by
  have hrun : lockSystem.run {}
      [.lock, .lock, .ends 0 false, .leave 0, .lock, .resume 1]
      = some ⟨true, [], [.settled false, .inside, .inside]⟩ := by decide
  refine ⟨_, System.Reachable.run _ (.init rfl) hrun, ?_⟩
  intro h
  have heq : (1 : Nat) = 2 := h.one 1 2 rfl rfl
  cases heq

end Lock

end RivetKit.Actor
