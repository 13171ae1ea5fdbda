/-
How the rounding of an integer to a double comes out.

# Reading a rounding off

Between `2 ^ (52 + k)` and `2 ^ (53 + k)` the doubles are the multiples of
`2 ^ k` (`ulpExponent_intCast`). So an integer there rounds to the
multiple that is less than half of `2 ^ k` away (`roundHalfEven_of_near`),
and half way between two of them to the one with an even quotient
(`roundHalfEven_half`). What is exact above is exact below too: a double
is a multiple of the last place of every smaller number
(`exists_mul_of_le`).
-/
import RivetKit.Lib.Double
import Mathlib.Data.Nat.Log

namespace Js

-- ========================================================== the quotients

/-- What is less than a half away is the nearest integer. -/
theorem roundHalfEven_of_near {q : Rat} {m : Int}
    (hlow : (m : Rat) - 1 / 2 < q) (hhigh : q < m + 1 / 2) :
    roundHalfEven q = m := by
  unfold roundHalfEven
  dsimp only
  by_cases h : (m : Rat) ≤ q
  · have hfloor : ⌊q⌋ = m := by
      rw [Int.floor_eq_iff]
      exact ⟨h, by linarith⟩
    rw [hfloor, if_pos]
    linarith
  · have hlt : q < m := not_le.1 h
    have hfloor : ⌊q⌋ = m - 1 := by
      rw [Int.floor_eq_iff]
      push_cast
      exact ⟨by linarith, by linarith⟩
    rw [hfloor]
    push_cast
    rw [if_neg (by linarith), if_pos (by linarith)]
    omega

/-- Of two the even one is taken. -/
theorem roundHalfEven_half (b : Int) :
    roundHalfEven (b + 1 / 2) = b + b % 2 := by
  have hfloor : ⌊(b : Rat) + 1 / 2⌋ = b := by
    rw [Int.floor_eq_iff]
    exact ⟨by linarith, by linarith⟩
  unfold roundHalfEven
  dsimp only
  rw [hfloor, if_neg (by linarith), if_neg (by linarith)]

namespace Number

-- ========================================================= the last places

/-- The powers of two around an integer. -/
theorem exists_places {n : Int} (h : 2 ^ 53 ≤ n) :
    ∃ k : Nat, 1 ≤ k ∧ 2 ^ (52 + k) ≤ n ∧ n < 2 ^ (53 + k) := by
  obtain ⟨N, hN⟩ := Int.eq_ofNat_of_zero_le (show 0 ≤ n by omega)
  have hge : 2 ^ 53 ≤ N := by omega
  have hlog : 53 ≤ Nat.log 2 N := Nat.le_log_of_pow_le (by omega) hge
  obtain ⟨k, hk⟩ := Nat.exists_eq_add_of_le hlog
  have hlow := Nat.pow_log_le_self 2 (show N ≠ 0 by omega)
  have hhigh := Nat.lt_pow_succ_log_self (show 1 < 2 by omega) N
  refine ⟨k + 1, by omega, ?_, ?_⟩
  · rw [hN, show 52 + (k + 1) = Nat.log 2 N by omega]
    exact_mod_cast hlow
  · rw [hN, show 53 + (k + 1) = (Nat.log 2 N).succ by omega]
    exact_mod_cast hhigh

/-- The last place of an integer of `53 + k` binary places. -/
theorem ulpExponent_intCast {n : Int} {k : Nat}
    (hlow : 2 ^ (52 + k) ≤ n) (hhigh : n < 2 ^ (53 + k)) :
    ulpExponent n = k := by
  have hn : 0 < n := lt_of_lt_of_le (by positivity) hlow
  have hpos : (0 : Rat) < n := by exact_mod_cast hn
  have hge : ((52 + k : Nat) : Int) ≤ Int.log 2 (n : Rat) := by
    apply (Int.zpow_le_iff_le_log (show 1 < 2 by omega) hpos).1
    rw [zpow_natCast]
    exact_mod_cast hlow
  have hlt : Int.log 2 (n : Rat) < ((53 + k : Nat) : Int) := by
    apply (Int.lt_zpow_iff_log_lt (show 1 < 2 by omega) hpos).1
    rw [zpow_natCast]
    exact_mod_cast hhigh
  unfold ulpExponent
  rw [abs_of_pos hpos]
  omega

/-- A smaller number has no higher last place. -/
theorem ulpExponent_mono {p q : Rat} (hp : 0 < p) (h : p ≤ q) :
    ulpExponent p ≤ ulpExponent q := by
  have hlog : Int.log 2 p ≤ Int.log 2 q := Int.log_mono_right hp h
  unfold ulpExponent
  rw [abs_of_pos hp, abs_of_pos (lt_of_lt_of_le hp h)]
  omega

/-- A double is a multiple of the last place of what is below it. -/
theorem exists_mul_of_le {x n : Int} {k : Nat} (hx : (ofInt x).IsDouble)
    (hlow : 2 ^ (52 + k) ≤ n) (hhigh : n < 2 ^ (53 + k)) (h : n ≤ x) :
    ∃ X : Int, x = X * 2 ^ k := by
  obtain ⟨⟨m, e, hm, he, heq⟩, -⟩ := hx
  obtain ⟨X, hX⟩ := exists_mul_ulp hm he heq
  have hn : 0 < n := lt_of_lt_of_le (by positivity) hlow
  have hle : (k : Int) ≤ ulpExponent x := by
    rw [← ulpExponent_intCast hlow hhigh]
    exact ulpExponent_mono (by exact_mod_cast hn) (by exact_mod_cast h)
  obtain ⟨j, hj⟩ := Int.le.dest hle
  refine ⟨X * 2 ^ j, ?_⟩
  rw [← hj, zpow_add₀ (by norm_num), zpow_natCast, zpow_natCast] at hX
  have hcast : (x : Rat) = ((X * 2 ^ j * 2 ^ k : Int) : Rat) := by
    rw [hX]
    push_cast
    ring
  exact_mod_cast hcast

-- =========================================================== the roundings

/-- The rounding of an integer, from that of its quotient. -/
theorem ofRat_of_quotient {n m : Int} {k : Nat}
    (hlow : 2 ^ (52 + k) ≤ n) (hhigh : n < 2 ^ (53 + k))
    (hm : roundHalfEven ((n : Rat) / 2 ^ k) = m)
    (hfinite : |((m * 2 ^ k : Int) : Rat)| < 2 ^ 1024) :
    ofRat n = ofInt (m * 2 ^ k) := by
  unfold ofRat
  dsimp only
  rw [ulpExponent_intCast hlow hhigh, zpow_natCast, hm]
  have hcast : (m : Rat) * 2 ^ k = ((m * 2 ^ k : Int) : Rat) := by push_cast; rfl
  rw [hcast, if_pos hfinite]
  rfl

/-- An integer up to `2 ^ 53` is not rounded. -/
theorem ofRat_of_small {n : Int} (hlow : 0 ≤ n) (hhigh : n ≤ 2 ^ 53) :
    ofRat n = ofInt n := by
  apply ofRat_of_isDouble
  by_cases hlt : n < 2 ^ 53
  · exact isDouble_ofInt (by rw [abs_of_nonneg hlow]; exact hlt)
  · have hn : n = 2 ^ 53 := by omega
    refine ⟨⟨1, 53, by norm_num, by norm_num, ?_⟩, ?_⟩
    · rw [hn]
      norm_num
    · have hpow : |(n : Rat)| = (2 : Rat) ^ 53 := by
        rw [hn]
        norm_num
      rw [hpow]
      exact pow_lt_pow_right₀ (by norm_num) (by omega)

end Number

end Js
