/-
The chunks of a delay.

# One subtraction

Up to `2 ^ 53 + TIMEOUT_MAX` the difference is an integer that a double
can be. Beyond, the delay is even and `TIMEOUT_MAX` is odd. Where the
doubles are two apart, the difference is half way between two of them and
the multiple of four is taken, so the rest is one too long or one too
short. Where they are further apart it is rounded to `2 ^ 31` less, one
too short, and from `2 ^ 84` on, where `2 ^ 31` is half of the last place
at most, nothing is taken off (`next_cases`).

# The whole delay

A rest that is a multiple of four stays one while it is rounded, so from
there on every error is on the same side and the chunks fall short of the
delay (`sum_lt_of_chunks`). Only the first rest can be too long, and then
the second one takes that back.
-/
import RivetKit.Utils.LongTimeouts

namespace RivetKit.Utils

open Js

-- ======================================================== one subtraction

/-- `remaining - TIMEOUT_MAX`. -/
def rest (x : Int) : Number := (Number.ofInt x).add (.ofInt (-timeoutMax))

theorem rest_eq (x : Int) :
    rest x = Number.ofRat ((x - timeoutMax : Int) : Rat) := by
  have hsum : (x : Rat) + ((-timeoutMax : Int) : Rat)
      = ((x - timeoutMax : Int) : Rat) := by
    push_cast
    ring
  rw [← hsum]
  rfl

/-- What `start` is called with is a double. -/
theorem isDouble_rest {x y : Int} (h : rest x = .ofInt y) :
    (Number.ofInt y).IsDouble := by
  rw [← h]
  exact Number.isDouble_add _ _

/-- Nothing is rounded up to `2 ^ 53`. -/
theorem rest_of_le {x : Int} (hgt : timeoutMax < x)
    (hle : x ≤ 2 ^ 53 + timeoutMax) : rest x = .ofInt (x - timeoutMax) := by
  rw [rest_eq]
  exact Number.ofRat_of_small (by omega) (by omega)

/-- The last place is two: half way between two doubles. -/
theorem round_quotient_two (X : Int) :
    roundHalfEven ((X : Rat) - (2 ^ 31 - 1) / 2 ^ 1)
      = X - 2 ^ 30 + (X - 2 ^ 30) % 2 := by
  have hhalf : (X : Rat) - (2 ^ 31 - 1) / 2 ^ 1
      = ((X - 2 ^ 30 : Int) : Rat) + 1 / 2 := by
    push_cast
    ring
  rw [hhalf]
  exact roundHalfEven_half _

/-- The last place divides `2 ^ 31`: that is the nearest. -/
theorem round_quotient_mid (X : Int) {j k : Nat} (hk : 2 ≤ k)
    (hj : j + k = 31) :
    roundHalfEven ((X : Rat) - (2 ^ 31 - 1) / 2 ^ k) = X - 2 ^ j := by
  have hpos : (0 : Rat) < 2 ^ k := by positivity
  have hfour : (2 : Rat) ^ 2 ≤ 2 ^ k := pow_le_pow_right₀ (by norm_num) hk
  have hquarter : (0 : Rat) < 1 / 2 ^ k ∧ (1 : Rat) / 2 ^ k ≤ 1 / 4 := by
    constructor
    · positivity
    · rw [div_le_div_iff_of_pos_left (by norm_num) hpos (by norm_num)]
      linarith
  have hsplit : ((2 : Rat) ^ 31 - 1) / 2 ^ k = 2 ^ j - 1 / 2 ^ k := by
    rw [← hj, pow_add]
    field_simp
  apply roundHalfEven_of_near
  · rw [hsplit]
    push_cast
    linarith [hquarter.1]
  · rw [hsplit]
    push_cast
    linarith [hquarter.2]

/-- `TIMEOUT_MAX` is less than half of the last place. -/
theorem round_quotient_high (X : Int) {k : Nat} (hk : 32 ≤ k) :
    roundHalfEven ((X : Rat) - (2 ^ 31 - 1) / 2 ^ k) = X := by
  have hpos : (0 : Rat) < 2 ^ k := by positivity
  have hpow : (2 : Rat) ^ 32 ≤ 2 ^ k := pow_le_pow_right₀ (by norm_num) hk
  have hhalf : ((2 : Rat) ^ 31 - 1) / 2 ^ k < 1 / 2 := by
    rw [div_lt_iff₀ hpos]
    linarith
  have hnonneg : (0 : Rat) ≤ (2 ^ 31 - 1) / 2 ^ k := by positivity
  apply roundHalfEven_of_near
  · linarith
  · linarith

/-- Beyond, the rest takes one of three ways. -/
theorem rest_of_gt {x : Int} (hx : (Number.ofInt x).IsDouble)
    (hgt : 2 ^ 53 + timeoutMax < x) :
    ∃ y, rest x = .ofInt y
      ∧ (x % 4 = 2 ∧ y = x - timeoutMax + 1
        ∨ x % 4 = 0 ∧ y = x - timeoutMax - 1
        ∨ 2 ^ 84 < x ∧ y = x) := by
  have hmax : timeoutMax = 2 ^ 31 - 1 := rfl
  obtain ⟨k, hk, hlow, hhigh⟩ :=
    Number.exists_places (show 2 ^ 53 ≤ x - timeoutMax by omega)
  obtain ⟨X, hX⟩ :=
    Number.exists_mul_of_le hx hlow hhigh (show x - timeoutMax ≤ x by omega)
  have hquotient : ((x - timeoutMax : Int) : Rat) / 2 ^ k
      = X - (2 ^ 31 - 1) / 2 ^ k := by
    rw [hX, hmax]
    push_cast
    field_simp
    norm_num
  have hround : ∀ m, roundHalfEven ((X : Rat) - (2 ^ 31 - 1) / 2 ^ k) = m →
      0 ≤ m * 2 ^ k → m * 2 ^ k ≤ x → rest x = .ofInt (m * 2 ^ k) := by
    intro m hm hm0 hmx
    rw [rest_eq]
    refine Number.ofRat_of_quotient hlow hhigh (by rw [hquotient, hm]) ?_
    refine lt_of_le_of_lt ?_ hx.2
    rw [abs_of_nonneg (by exact_mod_cast hm0)]
    exact le_trans (by exact_mod_cast hmx) (le_abs_self _)
  rcases (show k = 1 ∨ 2 ≤ k ∧ k ≤ 31 ∨ 32 ≤ k by omega) with
    hone | ⟨htwo, hle⟩ | hhuge
  · subst hone
    have hm := hround _ (round_quotient_two X) (by omega) (by omega)
    refine ⟨_, hm, ?_⟩
    omega
  · obtain ⟨j, hj⟩ := Nat.exists_eq_add_of_le' hle
    have hmul : (X - 2 ^ j) * 2 ^ k = x - 2 ^ 31 := by
      rw [sub_mul, ← pow_add, ← hj, ← hX]
    have hm := hround _ (round_quotient_mid X htwo hj.symm)
      (by rw [hmul]; omega) (by rw [hmul]; omega)
    refine ⟨_, hm, .inr (.inl ⟨?_, ?_⟩)⟩
    · have hdvd : (4 : Int) ∣ x := by
        rw [hX]
        exact Dvd.dvd.mul_left (pow_dvd_pow 2 htwo) X
      exact Int.emod_eq_zero_of_dvd hdvd
    · rw [hmul, hmax]
      ring
  · have hm := hround _ (round_quotient_high X hhuge)
      (by rw [← hX]; omega) (le_of_eq hX.symm)
    refine ⟨_, hm, .inr (.inr ⟨?_, hX.symm⟩)⟩
    have hpow : (2 : Int) ^ 84 ≤ 2 ^ (52 + k) :=
      pow_le_pow_right₀ (by norm_num) (by omega)
    omega

/-- Always there is an integer left, and it is not negative. -/
theorem exists_rest {x : Int} (hx : (Number.ofInt x).IsDouble)
    (hgt : timeoutMax < x) : ∃ y, rest x = .ofInt y ∧ 0 ≤ y := by
  by_cases hle : x ≤ 2 ^ 53 + timeoutMax
  · exact ⟨_, rest_of_le hgt hle, by omega⟩
  · obtain ⟨y, hy, hways⟩ := rest_of_gt hx (not_le.1 hle)
    exact ⟨y, hy, by omega⟩

-- ========================================================== the whole delay

/-- The lengths that `start` arms one behind the other. -/
inductive Chunks : Int → List Int → Prop
  | last {x : Int} : x ≤ timeoutMax → Chunks x [x]
  | next {x y : Int} {lengths : List Int} : timeoutMax < x →
      rest x = .ofInt y → Chunks y lengths →
      Chunks x (timeoutMax :: lengths)

theorem ofInt_injective {x y : Int} (h : Number.ofInt x = .ofInt y) :
    x = y := by
  unfold Number.ofInt at h
  injection h with h
  exact_mod_cast h

/-- There is one way. -/
theorem Chunks.unique {x : Int} {l l' : List Int} (h : Chunks x l)
    (h' : Chunks x l') : l = l' := by
  induction h generalizing l' with
  | last hle =>
      cases h' with
      | last _ => rfl
      | next hgt _ _ => omega
  | next hgt hrest _ ih =>
      cases h' with
      | last hle => omega
      | next _ hrest' hchunks =>
          rw [hrest] at hrest'
          obtain rfl := ofInt_injective hrest'
          rw [ih hchunks]

/-- The first chunk is what `start` arms. -/
theorem Chunks.head {x : Int} {l : List Int} (h : Chunks x l) :
    [min x timeoutMax] <+: l := by
  cases h with
  | last hle =>
      rw [min_eq_left hle]
  | next hgt _ _ =>
      rw [min_eq_right (le_of_lt hgt)]
      exact ⟨_, rfl⟩

/-- Every chunk is in the range of a native timer. -/
theorem Chunks.range {x : Int} {l : List Int} (h : Chunks x l)
    (hnonneg : 0 ≤ x) (hx : (Number.ofInt x).IsDouble) :
    ∀ length ∈ l, 0 ≤ length ∧ length ≤ timeoutMax := by
  have hmax : 0 ≤ timeoutMax := by decide
  induction h with
  | last hle =>
      intro length hlength
      rw [List.mem_singleton] at hlength
      rw [hlength]
      exact ⟨hnonneg, hle⟩
  | next hgt hrest _ ih =>
      intro length hlength
      obtain ⟨y, hy, hy0⟩ := exists_rest hx hgt
      rw [hrest] at hy
      obtain rfl := ofInt_injective hy
      rcases List.mem_cons.1 hlength with heq | hmem
      · rw [heq]
        exact ⟨hmax, le_refl _⟩
      · exact ih hy0 (isDouble_rest hrest) length hmem

/-- As long as nothing is rounded, the chunks make up the delay. -/
theorem exists_chunks {x : Int} (hle : x ≤ 2 ^ 53 + timeoutMax) :
    ∃ l, Chunks x l ∧ l.sum = x := by
  have hmax : 0 < timeoutMax := by decide
  -- the rest is smaller
  induction hn : x.toNat using Nat.strong_induction_on generalizing x with
  | _ n ih =>
    by_cases hlast : x ≤ timeoutMax
    · exact ⟨[x], .last hlast, by simp⟩
    · have hgt : timeoutMax < x := not_le.1 hlast
      obtain ⟨l, hl, hsum⟩ :=
        ih (x - timeoutMax).toNat (by omega) (by omega) rfl
      refine ⟨timeoutMax :: l, .next hgt (rest_of_le hgt hle) hl, ?_⟩
      rw [List.sum_cons, hsum]
      ring

theorem Chunks.sum_eq {x : Int} {l : List Int} (h : Chunks x l)
    (hle : x ≤ 2 ^ 53 + timeoutMax) : l.sum = x := by
  obtain ⟨l', hl', hsum⟩ := exists_chunks hle
  rw [h.unique hl']
  exact hsum

/-- A delay that the subtraction does not change has no end. -/
theorem not_chunks_of_stuck {x : Int} {l : List Int}
    (hgt : timeoutMax < x) (hstuck : rest x = .ofInt x) : ¬ Chunks x l := by
  intro h
  induction h with
  | last hle => omega
  | next _ hrest _ ih =>
      rw [hstuck] at hrest
      obtain rfl := ofInt_injective hrest
      exact ih hgt hstuck

/-- A multiple of four that is rounded is never made up. -/
theorem Chunks.sum_lt {x : Int} {l : List Int} (h : Chunks x l)
    (hx : (Number.ofInt x).IsDouble) (hfour : x % 4 = 0)
    (hbig : 2 ^ 53 + timeoutMax < x) : l.sum < x := by
  have hmax : timeoutMax = 2 ^ 31 - 1 := rfl
  induction h with
  | last hle => omega
  | @next x y lengths hgt hrest hchunks ih =>
      obtain ⟨y', hy', hways⟩ := rest_of_gt hx hbig
      rw [hrest] at hy'
      obtain rfl := ofInt_injective hy'
      rw [List.sum_cons]
      rcases hways with ⟨hodd, _⟩ | ⟨_, hshort⟩ | ⟨_, hstuck⟩
      · omega
      · by_cases hsmall : y ≤ 2 ^ 53 + timeoutMax
        · rw [hchunks.sum_eq hsmall]
          omega
        · have hlt := ih (isDouble_rest hrest) (by omega) (not_le.1 hsmall)
          omega
      · subst hstuck
        exact absurd hchunks (not_chunks_of_stuck hgt hrest)

-- ============================================================ when it is exact

/-- The delays that come out exactly: those that are not rounded, and those
whose first rest is one too long and whose second one is one too short. -/
def Exact (delay : Int) : Prop :=
  delay ≤ 2 ^ 53 + timeoutMax
    ∨ delay % 4 = 2 ∧ 2 ^ 53 + 2 * timeoutMax ≤ delay
      ∧ delay ≤ 2 ^ 53 + 3 * timeoutMax

/-- Beyond `2 ^ 53` a double is even. -/
theorem even_of_gt {x : Int} (hx : (Number.ofInt x).IsDouble)
    (hgt : 2 ^ 53 < x) : x % 2 = 0 := by
  obtain ⟨k, hk, hlow, hhigh⟩ :=
    Number.exists_places (show 2 ^ 53 ≤ x by omega)
  obtain ⟨X, hX⟩ := Number.exists_mul_of_le hx hlow hhigh (le_refl x)
  have hdvd : (2 : Int) ∣ x := by
    rw [hX]
    exact Dvd.dvd.mul_left (dvd_pow_self 2 (by omega)) X
  exact Int.emod_eq_zero_of_dvd hdvd

/-- The chunks make up these delays. -/
theorem exists_chunks_of_exact {x : Int} (hx : (Number.ofInt x).IsDouble)
    (h : Exact x) : ∃ l, Chunks x l ∧ l.sum = x := by
  have hmax : timeoutMax = 2 ^ 31 - 1 := rfl
  rcases h with hle | ⟨htwo, hlow, hhigh⟩
  · exact exists_chunks hle
  · obtain ⟨y, hy, hlong⟩ := rest_of_gt hx (by omega)
    have hydouble := isDouble_rest hy
    have hyx : y = x - timeoutMax + 1 := by omega
    obtain ⟨z, hz, hshort⟩ := rest_of_gt hydouble (by omega)
    have hzy : z = y - timeoutMax - 1 := by omega
    obtain ⟨l, hl, hsum⟩ :=
      exists_chunks (show z ≤ 2 ^ 53 + timeoutMax by omega)
    refine ⟨timeoutMax :: timeoutMax :: l,
      .next (by omega) hy (.next (by omega) hz hl), ?_⟩
    rw [List.sum_cons, List.sum_cons, hsum]
    omega

/-- What is short by one is rounded once. -/
theorem Chunks.le_of_sum {x : Int} {l : List Int} (h : Chunks x l)
    (hx : (Number.ofInt x).IsDouble) (hfour : x % 4 = 0)
    (hbig : 2 ^ 53 + timeoutMax < x) (hsum : x - 1 ≤ l.sum) :
    x ≤ 2 ^ 53 + 2 * timeoutMax + 1 := by
  have hmax : timeoutMax = 2 ^ 31 - 1 := rfl
  cases h with
  | last hlast => omega
  | @next _ y lengths hgt hrest hchunks =>
      obtain ⟨y', hy', hways⟩ := rest_of_gt hx hbig
      rw [hrest] at hy'
      obtain rfl := ofInt_injective hy'
      rw [List.sum_cons] at hsum
      rcases hways with ⟨htwo, _⟩ | ⟨_, hshort⟩ | ⟨_, hstuck⟩
      · omega
      · by_cases hsmall : y ≤ 2 ^ 53 + timeoutMax
        · omega
        · have hlt := hchunks.sum_lt (isDouble_rest hrest) (by omega)
            (not_le.1 hsmall)
          omega
      · subst hstuck
        exact absurd hchunks (not_chunks_of_stuck hgt hrest)

/-- And no others. -/
theorem exact_of_chunks {x : Int} {l : List Int}
    (hx : (Number.ofInt x).IsDouble) (h : Chunks x l) (hsum : l.sum = x) :
    Exact x := by
  have hmax : timeoutMax = 2 ^ 31 - 1 := rfl
  by_cases hle : x ≤ 2 ^ 53 + timeoutMax
  · exact .inl hle
  have hgt : 2 ^ 53 + timeoutMax < x := not_le.1 hle
  have heven := even_of_gt hx (by omega)
  by_cases hfour : x % 4 = 0
  · exact absurd hsum (ne_of_lt (h.sum_lt hx hfour hgt))
  have htwo : x % 4 = 2 := by omega
  refine .inr ⟨htwo, ?_⟩
  cases h with
  | last hlast => omega
  | @next _ y lengths _ hrest hchunks =>
      obtain ⟨y', hy', hways⟩ := rest_of_gt hx hgt
      rw [hrest] at hy'
      obtain rfl := ofInt_injective hy'
      rw [List.sum_cons] at hsum
      rcases hways with ⟨_, hlong⟩ | ⟨hzero, _⟩ | ⟨_, hstuck⟩
      · by_cases hsmall : y ≤ 2 ^ 53 + timeoutMax
        · rw [hchunks.sum_eq hsmall] at hsum
          omega
        · -- the second rest has to be one too short
          have hle := hchunks.le_of_sum (isDouble_rest hrest) (by omega)
            (not_le.1 hsmall) (by omega)
          omega
      · omega
      · subst hstuck
        exact absurd hchunks
          (not_chunks_of_stuck (show timeoutMax < y by omega) hrest)

end RivetKit.Utils
