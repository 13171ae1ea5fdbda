/-
IEEE 754 doubles as the rationals they denote: rounding to the nearest
double with ties to even, the sum of two numbers, and `Number(bigint)`.

# Rounding

A finite double is `m * 2 ^ e` with `|m| < 2 ^ 53` and `-1074 ≤ e`, below
`2 ^ 1024`. The last place of a rational `q` has the exponent
`ulpExponent q`: 52 places below its leading one, and not below the last
place of a subnormal. Rounding takes the nearest multiple of that place,
and what reaches `2 ^ 1024` is an infinity. So a double is its own
rounding (`ofRat_of_isDouble`), and a rounding is a double
(`isDouble_ofRat`).
-/
import RivetKit.Lib.Js
import Mathlib.Algebra.Order.Field.Power
import Mathlib.Algebra.Order.Ring.Rat
import Mathlib.Data.Int.Log
import Mathlib.Data.Rat.Floor
import Mathlib.Tactic.FieldSimp
import Mathlib.Tactic.Linarith
import Mathlib.Tactic.Positivity

namespace Js

-- ============================================================ the integers

/-- The nearest integer, the even one of two. -/
def roundHalfEven (q : Rat) : Int :=
  let below := ⌊q⌋
  if q - below < 1 / 2 then below
  else if 1 / 2 < q - below then below + 1
  else below + below % 2

theorem roundHalfEven_intCast (n : Int) : roundHalfEven n = n := by
  unfold roundHalfEven
  simp

/-- Rounding stays next to the number. -/
theorem roundHalfEven_bounds (q : Rat) :
    ⌊q⌋ ≤ roundHalfEven q ∧ roundHalfEven q ≤ ⌊q⌋ + 1 := by
  have hnonneg := Int.emod_nonneg ⌊q⌋ (show (2 : Int) ≠ 0 by omega)
  have hlt := Int.emod_lt_of_pos ⌊q⌋ (show (0 : Int) < 2 by omega)
  unfold roundHalfEven
  dsimp only
  split
  · omega
  · split
    · omega
    · omega

/-- Rounding does not pass an integer. -/
theorem roundHalfEven_le {q : Rat} {n : Int} (h : q ≤ n) :
    roundHalfEven q ≤ n := by
  by_cases heq : q = n
  · rw [heq, roundHalfEven_intCast]
  · have hlt : q < n := lt_of_le_of_ne h heq
    have hfloor : ⌊q⌋ < n := Int.floor_lt.2 hlt
    have hbound := (roundHalfEven_bounds q).2
    omega

theorem le_roundHalfEven {q : Rat} {n : Int} (h : (n : Rat) ≤ q) :
    n ≤ roundHalfEven q := by
  have hfloor : n ≤ ⌊q⌋ := Int.le_floor.2 h
  have hbound := (roundHalfEven_bounds q).1
  omega

-- ============================================================= the doubles

/-- The exponent of the last place of `q`. -/
def ulpExponent (q : Rat) : Int := max (Int.log 2 |q|) (-1022) - 52

namespace Number

/-- The double next to `q`. -/
def ofRat (q : Rat) : Number :=
  let ulp := (2 : Rat) ^ ulpExponent q
  let r := roundHalfEven (q / ulp) * ulp
  if |r| < 2 ^ 1024 then .finite r else .infinity (decide (r < 0))

/-- `x + y`. -/
def add : Number → Number → Number
  | .nan, _ => .nan
  | _, .nan => .nan
  | .finite x, .finite y => ofRat (x + y)
  | .infinity x, .infinity y => if x = y then .infinity x else .nan
  | .infinity x, .finite _ => .infinity x
  | .finite _, .infinity y => .infinity y

/-- `Number(i)` of a bigint. -/
def ofBigInt (i : Int) : Number := ofRat i

/-- A number that there is. -/
def IsDouble : Number → Prop
  | .finite q => (∃ m e : Int, |m| < 2 ^ 53 ∧ -1074 ≤ e
      ∧ q = m * (2 : Rat) ^ e) ∧ |q| < 2 ^ 1024
  | .infinity _ => True
  | .nan => True

/-- Integers of at most 53 binary places are doubles. -/
theorem isDouble_ofInt {i : Int} (h : |i| < 2 ^ 53) :
    (ofInt i).IsDouble := by
  refine ⟨⟨i, 0, h, by omega, by simp⟩, ?_⟩
  have hcast : ((|i| : Int) : Rat) < ((2 ^ 53 : Int) : Rat) :=
    Int.cast_lt.2 h
  have hpow : ((2 ^ 53 : Int) : Rat) = (2 : Rat) ^ 53 := by norm_cast
  rw [Int.cast_abs, hpow] at hcast
  exact lt_trans hcast (pow_lt_pow_right₀ (by norm_num) (by omega))

-- ============================================================ no rounding

/-- A double is a multiple of its last place. -/
theorem exists_mul_ulp {q : Rat} {m e : Int} (hm : |m| < 2 ^ 53)
    (he : -1074 ≤ e) (hq : q = m * (2 : Rat) ^ e) :
    ∃ n : Int, q = n * (2 : Rat) ^ ulpExponent q := by
  by_cases hzero : q = 0
  · exact ⟨0, by rw [hzero]; simp⟩
  have hpos : 0 < |q| := abs_pos.2 hzero
  have hlog := Int.zpow_log_le_self (show 1 < 2 by omega) hpos
  -- the last place is not above the one of `m`
  have hle : ulpExponent q ≤ e := by
    by_contra hgt
    have hgt : e < max (Int.log 2 |q|) (-1022) - 52 := not_le.1 hgt
    have hmax : max (Int.log 2 |q|) (-1022) = Int.log 2 |q| := by omega
    rw [hmax] at hgt
    have hq' : |q| < (2 : Rat) ^ (53 + e) := by
      rw [hq, abs_mul, abs_of_pos (show (0 : Rat) < 2 ^ e by positivity)]
      rw [zpow_add₀ (by norm_num)]
      apply mul_lt_mul_of_pos_right
      · have hcast : ((|m| : Int) : Rat) < ((2 ^ 53 : Int) : Rat) :=
          Int.cast_lt.2 hm
        rw [Int.cast_abs] at hcast
        exact_mod_cast hcast
      · positivity
    have hpow : (2 : Rat) ^ (53 + e) ≤ (2 : Rat) ^ Int.log 2 |q| :=
      zpow_le_zpow_right₀ (by norm_num) (by omega)
    exact absurd (lt_of_lt_of_le hq' (le_trans hpow hlog)) (lt_irrefl _)
  obtain ⟨k, hk⟩ := Int.eq_ofNat_of_zero_le (sub_nonneg.2 hle)
  refine ⟨m * 2 ^ k, ?_⟩
  have he' : e = k + ulpExponent q := by omega
  calc q = m * (2 : Rat) ^ e := hq
    _ = m * (2 : Rat) ^ ((k : Int) + ulpExponent q) := by rw [← he']
    _ = _ := by
      rw [zpow_add₀ (by norm_num), zpow_natCast, ← mul_assoc]
      push_cast
      rfl

/-- A double is its own rounding. -/
theorem ofRat_of_isDouble {q : Rat} (h : IsDouble (.finite q)) :
    ofRat q = .finite q := by
  obtain ⟨⟨m, e, hm, he, hq⟩, hlt⟩ := h
  obtain ⟨n, hn⟩ := exists_mul_ulp hm he hq
  have hulp : (2 : Rat) ^ ulpExponent q ≠ 0 := by positivity
  have hdiv : q / (2 : Rat) ^ ulpExponent q = n := by
    rw [div_eq_iff hulp]
    exact hn
  unfold ofRat
  dsimp only
  rw [hdiv, roundHalfEven_intCast, ← hn, if_pos hlt]

-- ================================================================ rounding

/-- The quotient by the last place has at most 53 binary places. -/
theorem abs_div_ulp_lt (q : Rat) :
    |q / (2 : Rat) ^ ulpExponent q| < 2 ^ 53 := by
  have hulp : (0 : Rat) < (2 : Rat) ^ ulpExponent q := by positivity
  have hlog := Int.lt_zpow_succ_log_self (show 1 < 2 by omega) |q|
  rw [abs_div, abs_of_pos hulp, div_lt_iff₀ hulp]
  have hle : Int.log 2 |q| + 1 ≤ 53 + ulpExponent q := by
    unfold ulpExponent
    omega
  have hpow : (2 : Rat) ^ (Int.log 2 |q| + 1)
      ≤ (2 : Rat) ^ (53 + ulpExponent q) :=
    zpow_le_zpow_right₀ (by norm_num) hle
  have hsplit : (2 : Rat) ^ (53 + ulpExponent q)
      = 2 ^ 53 * (2 : Rat) ^ ulpExponent q := by
    rw [zpow_add₀ (by norm_num)]
    norm_num
  rw [← hsplit]
  exact lt_of_lt_of_le (by exact_mod_cast hlog) hpow

/-- The rounded quotient may carry into one place more. -/
theorem abs_roundHalfEven_le (q : Rat) :
    |roundHalfEven (q / (2 : Rat) ^ ulpExponent q)| ≤ 2 ^ 53 := by
  obtain ⟨hlow, hhigh⟩ := abs_lt.1 (abs_div_ulp_lt q)
  apply abs_le.2
  constructor
  · apply le_roundHalfEven
    push_cast
    linarith
  · apply roundHalfEven_le
    push_cast
    linarith

/-- A rounding is a double. -/
theorem isDouble_ofRat (q : Rat) : IsDouble (ofRat q) := by
  unfold ofRat
  dsimp only
  split
  case isFalse => trivial
  case isTrue hlt =>
    refine ⟨?_, hlt⟩
    have hle := abs_roundHalfEven_le q
    have hlow : -1074 ≤ ulpExponent q := by
      unfold ulpExponent
      omega
    generalize roundHalfEven (q / (2 : Rat) ^ ulpExponent q) = m at hle
    by_cases hcarry : |m| = 2 ^ 53
    · -- the carry is a power of two
      have htwo : ∃ n : Int, m = n * 2 ∧ |n| < 2 ^ 53 := by
        rcases abs_eq (show (0 : Int) ≤ 2 ^ 53 by omega) |>.1 hcarry
          with hm | hm
        · exact ⟨2 ^ 52, by omega, by rw [abs_lt]; omega⟩
        · exact ⟨-2 ^ 52, by omega, by rw [abs_lt]; omega⟩
      obtain ⟨n, hn, hlt'⟩ := htwo
      refine ⟨n, ulpExponent q + 1, hlt', by omega, ?_⟩
      rw [hn, zpow_add₀ (by norm_num)]
      push_cast
      ring
    · exact ⟨m, ulpExponent q, lt_of_le_of_ne hle hcarry, hlow, rfl⟩

/-- A sum is a double, if its operands are. -/
theorem isDouble_add (x y : Number) : IsDouble (x.add y) := by
  cases x with
  | finite p =>
      cases y with
      | finite q => exact isDouble_ofRat (p + q)
      | infinity b => trivial
      | nan => trivial
  | infinity a =>
      cases y with
      | finite q => trivial
      | infinity b =>
          show IsDouble (if a = b then .infinity a else .nan)
          split
          · trivial
          · trivial
      | nan => trivial
  | nan =>
      cases y with
      | finite q => trivial
      | infinity b => trivial
      | nan => trivial

-- ======================================================== unsigned integers

/-- What `Number` makes of 64 bits. -/
theorem ofBigInt_range {i : Int} (hlow : 0 ≤ i) (hhigh : i < 2 ^ 64) :
    ∃ r : Rat, ofBigInt i = .finite r ∧ 0 ≤ r ∧ r ≤ 2 ^ 64 := by
  have hi : (0 : Rat) ≤ i := by exact_mod_cast hlow
  have hulp : (0 : Rat) < (2 : Rat) ^ ulpExponent i := by positivity
  -- `2 ^ 64` is a multiple of the last place
  have hexp : ulpExponent i ≤ 64 := by
    have hlog : Int.log 2 |(i : Rat)| ≤ 64 := by
      by_cases hzero : i = 0
      · rw [hzero]
        simp
      · have hpos : (0 : Rat) < |(i : Rat)| := by
          rw [abs_pos]
          exact_mod_cast hzero
        have hself := Int.zpow_log_le_self (show 1 < 2 by omega) hpos
        rw [abs_of_nonneg hi] at hself ⊢
        by_contra hgt
        have hpow : (2 : Rat) ^ (64 : Int) ≤ (2 : Rat) ^ Int.log 2 (i : Rat) :=
          zpow_le_zpow_right₀ (by norm_num) (by omega)
        have hlt : (i : Rat) < (2 : Rat) ^ (64 : Int) := by
          exact_mod_cast hhigh
        have hle : (2 : Rat) ^ Int.log 2 (i : Rat) ≤ i := by
          exact_mod_cast hself
        linarith
    unfold ulpExponent
    omega
  obtain ⟨k, hk⟩ := Int.eq_ofNat_of_zero_le (sub_nonneg.2 hexp)
  have hmul : (2 : Rat) ^ k * (2 : Rat) ^ ulpExponent i = 2 ^ 64 := by
    rw [← zpow_natCast, ← zpow_add₀ (by norm_num)]
    rw [show (k : Int) + ulpExponent i = 64 by omega]
    norm_num
  have hround : 0 ≤ roundHalfEven ((i : Rat) / (2 : Rat) ^ ulpExponent i) := by
    apply le_roundHalfEven
    push_cast
    positivity
  have hround' : roundHalfEven ((i : Rat) / (2 : Rat) ^ ulpExponent i)
      ≤ 2 ^ k := by
    apply roundHalfEven_le
    push_cast
    rw [div_le_iff₀ hulp, hmul]
    exact_mod_cast le_of_lt hhigh
  have hlow' : (0 : Rat) ≤ (roundHalfEven ((i : Rat)
      / (2 : Rat) ^ ulpExponent i) : Rat) := by exact_mod_cast hround
  have hhigh' : ((roundHalfEven ((i : Rat)
      / (2 : Rat) ^ ulpExponent i) : Int) : Rat) ≤ 2 ^ k := by
    exact_mod_cast hround'
  have hle : (roundHalfEven ((i : Rat) / (2 : Rat) ^ ulpExponent i) : Rat)
      * (2 : Rat) ^ ulpExponent i ≤ 2 ^ 64 := by
    rw [← hmul]
    exact mul_le_mul_of_nonneg_right hhigh' (le_of_lt hulp)
  refine ⟨_, ?_, mul_nonneg hlow' (le_of_lt hulp), hle⟩
  unfold ofBigInt ofRat
  dsimp only
  rw [if_pos]
  rw [abs_of_nonneg (mul_nonneg hlow' (le_of_lt hulp))]
  exact lt_of_le_of_lt hle (pow_lt_pow_right₀ (by norm_num) (by omega))

/-- An integer that is a double comes back from its bigint. -/
theorem ofBigInt_of_isDouble {i : Int} (h : IsDouble (.ofInt i)) :
    ofBigInt i = .ofInt i :=
  ofRat_of_isDouble h

/-- What `BigInt` takes is an integer. -/
theorem eq_ofInt_of_toBigInt {n : Number} {i : Int}
    (h : n.toBigInt = some i) : n = .ofInt i := by
  cases n with
  | finite q =>
      by_cases hden : q.den = 1
      · rw [toBigInt, if_pos hden] at h
        injection h with h
        rw [← h]
        unfold ofInt
        rw [Rat.coe_int_num_of_den_eq_one hden]
      · rw [toBigInt, if_neg hden] at h
        exact absurd h (by simp)
  | infinity b => exact absurd h (by simp [toBigInt])
  | nan => exact absurd h (by simp [toBigInt])

/-- A number that 64 bits come back as is an integer in their range. -/
theorem range_of_ofBigInt {t : Int} (h : ofBigInt (t % 2 ^ 64) = .ofInt t) :
    0 ≤ t ∧ t < 2 ^ 64 := by
  have hlow := Int.emod_nonneg t (show (2 : Int) ^ 64 ≠ 0 by omega)
  have hhigh := Int.emod_lt_of_pos t (show (0 : Int) < 2 ^ 64 by omega)
  obtain ⟨r, hr, hr0, hr64⟩ := ofBigInt_range hlow hhigh
  rw [hr] at h
  injection h with h
  rw [h] at hr0 hr64
  have ht0 : 0 ≤ t := by exact_mod_cast hr0
  have ht64 : t ≤ 2 ^ 64 := by exact_mod_cast hr64
  refine ⟨ht0, lt_of_le_of_ne ht64 ?_⟩
  intro heq
  -- `2 ^ 64` is written as zero
  rw [heq] at hr
  simp only [Int.emod_self] at hr
  rw [ofBigInt_of_isDouble] at hr
  · injection hr with hr
    rw [← hr] at h
    rw [heq] at h
    norm_num at h
  · refine ⟨⟨0, 0, by norm_num, by norm_num, by simp⟩, by simp⟩

end Number

end Js
