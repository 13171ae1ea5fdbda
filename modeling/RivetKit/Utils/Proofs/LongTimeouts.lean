/-
Which delays `setLongTimeout` keeps.

# The runs

There is never more than one timer, it is the one that `timeout` names,
and what was armed so far and what is left of the delay are the beginning
and the end of its chunks (`Inv`). So an `abort` leaves no timer, and a
run without one arms all chunks there are.

# What is left

The runs keep the contract exactly when the chunks of the delay exist and
make it up (`splits_iff`), which is a question of the rounding alone.
-/
import RivetKit.Utils.Proofs.Chunks

namespace RivetKit.Utils

open Js Transition

-- ================================================================ the steps

/-- What the timer of a chunk calls. -/
def chunkCallback (x : Int) : TimerCallback :=
  if x ≤ timeoutMax then .listener else .next (.ofInt x)

namespace LongTimeout

variable {s s' : LongTimeout} {x id : Int}

theorem le_ofInt (x y : Int) :
    (Number.ofInt x).le (.ofInt y) = decide (x ≤ y) := by
  show (!decide ((y : Rat) < x)) = decide (x ≤ y)
  rw [← decide_not]
  simp

/-- `start` of an integer arms its first chunk. -/
theorem start_ofInt (s : LongTimeout) (x : Int) :
    s.start (.ofInt x)
      = s.setTimeout (chunkCallback x) (.ofInt (min x timeoutMax)) := by
  unfold start chunkCallback
  rw [le_ofInt]
  by_cases h : x ≤ timeoutMax
  · rw [if_pos (decide_eq_true h), if_pos h, min_eq_left h]
  · rw [if_neg (by simpa using h), if_neg h,
      min_eq_right (le_of_lt (not_le.1 h))]

theorem timers_start (s : LongTimeout) (x : Int) :
    (s.start (.ofInt x)).timers
      = s.timers ++ [(s.armed.length, chunkCallback x)] := by
  rw [start_ofInt]
  rfl

theorem armed_start (s : LongTimeout) (x : Int) :
    (s.start (.ofInt x)).armed
      = s.armed ++ [.ofInt (min x timeoutMax)] := by
  rw [start_ofInt]
  rfl

theorem timeout_start (s : LongTimeout) (x : Int) :
    (s.start (.ofInt x)).timeout = some s.armed.length := by
  rw [start_ofInt]
  rfl

theorem calls_start (s : LongTimeout) (x : Int) :
    (s.start (.ofInt x)).calls = s.calls := by
  rw [start_ofInt]
  rfl

variable {callback : TimerCallback} {i : Nat}

theorem clearTimeout_of_timers (h : s.timers = [(i, callback)]) :
    s.clearTimeout i = { s with timers := [] } := by
  unfold clearTimeout
  rw [h]
  simp

/-- Only the timer that there is fires. -/
theorem eq_of_fire {j : Nat} (h : s.timers = [(i, callback)])
    (hs : s.fire j = some s') : j = i := by
  unfold fire at hs
  rw [h] at hs
  by_cases heq : i = j
  · exact heq.symm
  · rw [List.find?_cons_of_neg (by simpa using heq)] at hs
    cases hs

theorem fire_of_listener (h : s.timers = [(i, .listener)]) :
    s.fire i = some { s with timers := [], calls := s.calls + 1 } := by
  unfold fire
  rw [clearTimeout_of_timers h, h, List.find?_cons_of_pos (by simp)]

theorem fire_of_next {remaining : Number}
    (h : s.timers = [(i, .next remaining)]) :
    s.fire i = some ({ s with timers := [] }.start
      (remaining.add (.ofInt (-timeoutMax)))) := by
  unfold fire
  rw [clearTimeout_of_timers h, h, List.find?_cons_of_pos (by simp)]

theorem fire_of_empty {j : Nat} (h : s.timers = []) : s.fire j = none := by
  unfold fire
  rw [h]
  rfl

theorem abort_of_timers (h : s.timers = [(i, callback)])
    (htimeout : s.timeout = some i) : s.abort = { s with timers := [] } := by
  have habort : s.abort = s.clearTimeout i := by
    unfold abort
    rw [htimeout]
  rw [habort, clearTimeout_of_timers h]

/-- The handle of a timer that fired clears nothing. -/
theorem clearTimeout_of_empty (h : s.timers = []) (j : Nat) :
    s.clearTimeout j = s := by
  cases s with
  | mk timeout timers armed calls =>
      dsimp only at h
      subst h
      rfl

theorem abort_of_empty (h : s.timers = []) : s.abort = s := by
  unfold abort
  split
  · exact clearTimeout_of_empty h _
  · rfl

-- ============================================================ the invariant

/-- What is armed first, and what is left behind it. -/
def Behind (delay : Int) (done : List Int) (x : Int) : Prop :=
  ∀ l, Chunks delay l ↔ ∃ tail, Chunks x tail ∧ l = done ++ tail

theorem behind_nil (delay : Int) : Behind delay [] delay := by
  intro l
  constructor
  · intro h
    exact ⟨l, h, rfl⟩
  · rintro ⟨tail, h, rfl⟩
    exact h

/-- A full chunk is done. -/
theorem Behind.next {delay x y : Int} {done : List Int}
    (h : Behind delay done x) (hgt : timeoutMax < x)
    (hrest : rest x = .ofInt y) :
    Behind delay (done ++ [timeoutMax]) y := by
  intro l
  rw [h l]
  constructor
  · rintro ⟨tail, htail, rfl⟩
    cases htail with
    | last hle => omega
    | next _ hrest' hchunks =>
        rw [hrest] at hrest'
        obtain rfl := ofInt_injective hrest'
        exact ⟨_, hchunks, by simp⟩
  · rintro ⟨tail, htail, rfl⟩
    exact ⟨_, .next hgt hrest htail, by simp⟩

/-- Where a run is: a timer waits, or the caller aborted it, or the
listener was called. -/
inductive Inv (delay : Int) (s : LongTimeout) : Prop
  | waiting (done : List Int) (x : Int) :
      Behind delay done x → (Number.ofInt x).IsDouble →
      s.armed = (done ++ [min x timeoutMax]).map .ofInt →
      s.timers = [(done.length, chunkCallback x)] →
      s.timeout = some done.length → s.calls = 0 → Inv delay s
  | aborted (done : List Int) (x : Int) :
      Behind delay done x →
      s.armed = (done ++ [min x timeoutMax]).map .ofInt →
      s.timers = [] → s.calls = 0 → Inv delay s
  | called (l : List Int) :
      Chunks delay l → s.armed = l.map .ofInt →
      s.timers = [] → s.calls = 1 → Inv delay s

/-- `start` of what is left waits for its first chunk. -/
theorem inv_start {delay x : Int} {done : List Int}
    (hbehind : Behind delay done x) (hx : (Number.ofInt x).IsDouble)
    (harmed : s.armed = done.map .ofInt) (htimers : s.timers = [])
    (hcalls : s.calls = 0) : Inv delay (s.start (.ofInt x)) := by
  have hlength : s.armed.length = done.length := by
    rw [harmed, List.length_map]
  refine .waiting done x hbehind hx ?_ ?_ ?_ ?_
  · rw [armed_start, harmed, List.map_append]
    rfl
  · rw [timers_start, htimers, hlength]
    rfl
  · rw [timeout_start, hlength]
  · rw [calls_start, hcalls]

theorem inv_setLongTimeout {delay : Int}
    (hdelay : (Number.ofInt delay).IsDouble) :
    Inv delay (setLongTimeout (.ofInt delay)) :=
  inv_start (behind_nil delay) hdelay rfl rfl rfl

/-- A timer fires: the last one calls the listener, another one starts the
next chunk. -/
theorem Inv.fire {delay : Int} {j : Nat} (h : Inv delay s)
    (hs : s.fire j = some s') : Inv delay s' := by
  cases h with
  | waiting done x hbehind hx harmed htimers htimeout hcalls =>
      obtain rfl := eq_of_fire htimers hs
      unfold chunkCallback at htimers
      by_cases hle : x ≤ timeoutMax
      · rw [if_pos hle] at htimers
        rw [fire_of_listener htimers] at hs
        obtain rfl := Option.some.inj hs
        refine .called (done ++ [x]) ((hbehind _).2 ⟨[x], .last hle, rfl⟩)
          ?_ rfl (by rw [hcalls])
        rw [min_eq_left hle] at harmed
        exact harmed
      · have hgt : timeoutMax < x := not_le.1 hle
        obtain ⟨y, hy, _⟩ := exists_rest hx hgt
        rw [if_neg hle] at htimers
        rw [fire_of_next htimers] at hs
        obtain rfl := Option.some.inj hs
        rw [show (Number.ofInt x).add (.ofInt (-timeoutMax)) = .ofInt y from hy]
        rw [min_eq_right (le_of_lt hgt)] at harmed
        exact inv_start (hbehind.next hgt hy) (isDouble_rest hy) harmed rfl
          hcalls
  | aborted done x hbehind harmed htimers hcalls =>
      rw [fire_of_empty htimers] at hs
      cases hs
  | called l hl harmed htimers hcalls =>
      rw [fire_of_empty htimers] at hs
      cases hs

/-- The handle clears the timer of the current chunk. -/
theorem Inv.abort {delay : Int} (h : Inv delay s) : Inv delay s.abort := by
  cases h with
  | waiting done x hbehind hx harmed htimers htimeout hcalls =>
      rw [abort_of_timers htimers htimeout]
      exact .aborted done x hbehind harmed rfl hcalls
  | aborted done x hbehind harmed htimers hcalls =>
      rw [abort_of_empty htimers]
      exact .aborted done x hbehind harmed htimers hcalls
  | called l hl harmed htimers hcalls =>
      rw [abort_of_empty htimers]
      exact .called l hl harmed htimers hcalls

theorem inv_of_reachable {delay : Int}
    (hdelay : (Number.ofInt delay).IsDouble)
    (h : (longTimeoutSystem (.ofInt delay)).Reachable s) : Inv delay s := by
  refine System.Reaches.invariant ?_ ?_ h
  · rintro s rfl
    exact inv_setLongTimeout hdelay
  · intro s a s' _ hinv _ hs
    cases a with
    | fire id => exact hinv.fire hs
    | abort =>
        obtain rfl := Option.some.inj hs
        exact hinv.abort

-- ============================================================ what the runs do

/-- What a run arms is the beginning of what `start` would. -/
theorem Behind.armed {delay x : Int} {done l : List Int}
    (hbehind : Behind delay done x) (h : Chunks delay l) :
    done ++ [min x timeoutMax] <+: l := by
  obtain ⟨tail, htail, rfl⟩ := (hbehind l).1 h
  exact (List.prefix_append_right_inj done).2 htail.head

/-- One timer at most, and the chunks in their order. -/
theorem Inv.order {delay : Int} {l : List Int} (hinv : Inv delay s)
    (h : Chunks delay l) :
    s.timers.length ≤ 1 ∧ s.armed <+: l.map .ofInt := by
  cases hinv with
  | waiting done x hbehind _ harmed htimers _ _ =>
      rw [htimers, harmed]
      exact ⟨le_refl 1, (hbehind.armed h).map _⟩
  | aborted done x hbehind harmed htimers _ =>
      rw [htimers, harmed]
      exact ⟨Nat.zero_le 1, (hbehind.armed h).map _⟩
  | called l' hl' harmed htimers _ =>
      rw [htimers, harmed, hl'.unique h]
      exact ⟨Nat.zero_le 1, List.prefix_refl _⟩

/-- Behind an `abort` there is no timer. -/
theorem Inv.timers_abort {delay : Int} (h : Inv delay s) :
    s.abort.timers = [] ∧ s.abort.calls = s.calls := by
  cases h with
  | waiting done x hbehind hx harmed htimers htimeout hcalls =>
      rw [abort_of_timers htimers htimeout]
      exact ⟨rfl, rfl⟩
  | aborted done x hbehind harmed htimers hcalls =>
      rw [abort_of_empty htimers]
      exact ⟨htimers, rfl⟩
  | called l hl harmed htimers hcalls =>
      rw [abort_of_empty htimers]
      exact ⟨htimers, rfl⟩

/-- Without a timer nothing is called any more. -/
theorem calls_of_run {after : Number} (steps : List TimeoutStep)
    (h : s.timers = [])
    (hrun : (longTimeoutSystem after).run s steps = some s') :
    s'.calls = s.calls := by
  have hkeeps : s'.timers = [] ∧ s'.calls = s.calls := by
    refine System.run_keeps (P := fun t => t.timers = [] ∧ t.calls = s.calls)
      ?_ steps ⟨h, rfl⟩ hrun
    rintro t a t' ⟨htimers, hcalls⟩ hs
    cases a with
    | fire id =>
        rw [show (longTimeoutSystem after).step t (.fire id) = none
          from fire_of_empty htimers] at hs
        cases hs
    | abort =>
        have hsame : t.abort = t' := Option.some.inj hs
        rw [← hsame, abort_of_empty htimers]
        exact ⟨htimers, hcalls⟩
  exact hkeeps.2

/-- Chunk by chunk the listener is called. -/
theorem run_of_chunks {after : Number} {x : Int} {l : List Int}
    (h : Chunks x l) (htimers : s.timers = []) :
    ∃ s', (longTimeoutSystem after).run (s.start (.ofInt x))
        ((List.range' s.armed.length l.length).map .fire) = some s'
      ∧ s'.calls = s.calls + 1 := by
  induction h generalizing s with
  | @last x hle =>
      have hone : (s.start (.ofInt x)).timers
          = [(s.armed.length, .listener)] := by
        rw [timers_start, htimers, chunkCallback, if_pos hle]
        rfl
      have hstep : (longTimeoutSystem after).step (s.start (.ofInt x))
          (.fire s.armed.length) = some { s.start (.ofInt x) with
            timers := []
            calls := (s.start (.ofInt x)).calls + 1 } :=
        fire_of_listener hone
      refine ⟨{ s.start (.ofInt x) with
        timers := []
        calls := (s.start (.ofInt x)).calls + 1 }, ?_, ?_⟩
      · show (longTimeoutSystem after).run _ [.fire s.armed.length] = _
        rw [System.run, hstep]
        rfl
      · rw [← calls_start s x]
  | @next x y lengths hgt hrest hchunks ih =>
      have hone : (s.start (.ofInt x)).timers
          = [(s.armed.length, .next (.ofInt x))] := by
        rw [timers_start, htimers, chunkCallback, if_neg (not_le.2 hgt)]
        rfl
      have hstep : (longTimeoutSystem after).step (s.start (.ofInt x))
          (.fire s.armed.length) = some
            ({ s.start (.ofInt x) with timers := [] }.start (rest x)) :=
        fire_of_next hone
      rw [hrest] at hstep
      have hlength : (s.start (.ofInt x)).armed.length
          = s.armed.length + 1 := by
        rw [armed_start, List.length_append]
        rfl
      obtain ⟨s', hrun, hs'⟩ :=
        @ih { s.start (.ofInt x) with timers := [] } rfl
      refine ⟨s', ?_, by rw [hs', ← calls_start s x]⟩
      rw [List.length_cons, List.range'_succ, List.map_cons, System.run, hstep]
      dsimp only at hrun
      rw [hlength] at hrun
      exact hrun

end LongTimeout

-- ============================================================ the contract

variable {delay : Int}

/-- The contract for one list of lengths. -/
theorem splits_iff (hnonneg : 0 ≤ delay)
    (hdelay : (Number.ofInt delay).IsDouble) (l : List Int) :
    Splits delay l ↔ Chunks delay l ∧ l.sum = delay := by
  constructor
  · intro h
    refine ⟨?_, h.total⟩
    obtain ⟨s, hrun, hcalls⟩ := h.called
    have hreach : (longTimeoutSystem (.ofInt delay)).Reachable s :=
      System.Reachable.run _ (.init rfl) hrun
    cases LongTimeout.inv_of_reachable hdelay hreach with
    | waiting _ _ _ _ _ _ _ hzero => omega
    | aborted _ _ _ _ _ hzero => omega
    | called l' hl' harmed _ _ =>
        rcases h.once s hreach with hzero | ⟨_, _, hall⟩
        · omega
        · have hsame : l'.map Number.ofInt = l.map .ofInt := by
            rw [← harmed, hall]
          rw [← List.map_injective_iff.2 (fun _ _ => ofInt_injective) hsame]
          exact hl'
  · rintro ⟨h, hsum⟩
    constructor
    case total => exact hsum
    case range => exact h.range hnonneg hdelay
    case order =>
      intro s hs
      exact (LongTimeout.inv_of_reachable hdelay hs).order h
    case once =>
      intro s hs
      cases LongTimeout.inv_of_reachable hdelay hs with
      | waiting _ _ _ _ _ _ _ hzero => exact .inl hzero
      | aborted _ _ _ _ _ hzero => exact .inl hzero
      | called l' hl' harmed htimers hone =>
          rw [hl'.unique h] at harmed
          exact .inr ⟨hone, htimers, harmed⟩
    case called =>
      obtain ⟨s, hrun, hs⟩ := @LongTimeout.run_of_chunks {} (.ofInt delay) _ _
        h rfl
      refine ⟨s, ?_, hs⟩
      rw [List.range_eq_range']
      exact hrun
    case aborted =>
      intro s hs hzero steps s' hrun
      obtain ⟨htimers, hcalls⟩ :=
        (LongTimeout.inv_of_reachable hdelay hs).timers_abort
      rw [LongTimeout.calls_of_run steps htimers hrun, hcalls, hzero]

/-- The delays that `setLongTimeout` keeps are the exact ones. -/
theorem keepsDelay_iff (hnonneg : 0 ≤ delay)
    (hdelay : (Number.ofInt delay).IsDouble) :
    KeepsDelay delay ↔ Exact delay := by
  constructor
  · rintro ⟨l, hl⟩
    obtain ⟨hchunks, hsum⟩ := (splits_iff hnonneg hdelay l).1 hl
    exact exact_of_chunks hdelay hchunks hsum
  · intro h
    obtain ⟨l, hl, hsum⟩ := exists_chunks_of_exact hdelay h
    exact ⟨l, (splits_iff hnonneg hdelay l).2 ⟨hl, hsum⟩⟩

/-- Two full chunks and five seconds. -/
theorem keepsDelay_long : KeepsDelay (2 * timeoutMax + 5000) :=
  (keepsDelay_iff (by decide) (Number.isDouble_ofInt (by decide))).2
    (.inl (by decide))

/-- `2 ^ 53 + 2 ^ 31` comes out one short. -/
theorem not_keepsDelay : ¬ KeepsDelay (2 ^ 53 + 2 ^ 31) := by
  have hdelay : (Number.ofInt (2 ^ 53 + 2 ^ 31)).IsDouble := by
    refine ⟨⟨2 ^ 22 + 1, 31, by norm_num, by norm_num, by norm_num⟩, ?_⟩
    have hle : |((2 ^ 53 + 2 ^ 31 : Int) : Rat)| ≤ (2 : Rat) ^ 54 := by
      norm_num
    exact lt_of_le_of_lt hle (pow_lt_pow_right₀ (by norm_num) (by omega))
  rintro ⟨l, hl⟩
  obtain ⟨hchunks, hsum⟩ := (splits_iff (by norm_num) hdelay l).1 hl
  have hlt := hchunks.sum_lt hdelay (by norm_num) (by decide)
  omega

end RivetKit.Utils
