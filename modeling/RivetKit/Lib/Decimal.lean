/-
One text of numbers: exact decimals.

A double is a fraction `n / 2 ^ k`, which is `n * 5 ^ k` shifted by `k`
decimal places, so `3/8` is written `375e-3`. Integers are written as
ECMAScript writes them up to 21 digits.
-/
import Mathlib.Algebra.Order.Field.Basic
import Mathlib.Algebra.Order.Ring.Rat
import Mathlib.Data.List.TakeWhile
import Mathlib.Data.Nat.Prime.Basic
import Mathlib.Data.Rat.Lemmas
import Mathlib.Tactic.FieldSimp
import Mathlib.Tactic.Ring
import RivetKit.Lib.Json

namespace Js

namespace Decimal

-- ============================================================ the text

/-- The text of `n / 10 ^ k`. -/
def printScaled (n k : Nat) : List Char :=
  if k = 0 then Nat.toDigits 10 n
  else Nat.toDigits 10 n ++ 'e' :: '-' :: Nat.toDigits 10 k

/-- The text of a double. -/
def print (q : Rat) : List Char :=
  let k := Nat.log2 q.den
  let body := printScaled (q.num.natAbs * 5 ^ k) k
  if q.num < 0 then '-' :: body else body

/-- A number without its sign. -/
def parseScaled (cs : List Char) : Option Rat :=
  let n := Nat.ofDigitChars 10 (cs.takeWhile Char.isDigit) 0
  match cs.dropWhile Char.isDigit with
  | [] => some n
  | 'e' :: '-' :: cs => some (n / 10 ^ Nat.ofDigitChars 10 cs 0)
  | _ => none

/-- A number token. -/
def parse (cs : List Char) : Option Rat :=
  match cs with
  | '-' :: cs => (parseScaled cs).map fun q => -q
  | cs => parseScaled cs

-- ======================================================= digits and signs

theorem isDigit_toDigits (n : Nat) :
    ∀ c ∈ Nat.toDigits 10 n, c.isDigit = true := by
  intro c hc
  exact Nat.isDigit_of_mem_toDigits (by decide) (by decide) hc

theorem parseScaled_printScaled (n k : Nat) :
    parseScaled (printScaled n k) = some ((n : Rat) / 10 ^ k) := by
  have hdigits := isDigit_toDigits n
  unfold parseScaled printScaled
  by_cases hk : k = 0
  · subst hk
    rw [if_pos rfl]
    have htake : (Nat.toDigits 10 n).takeWhile Char.isDigit
        = Nat.toDigits 10 n := List.takeWhile_eq_self_iff.mpr hdigits
    have hdrop : (Nat.toDigits 10 n).dropWhile Char.isDigit = [] :=
      List.dropWhile_eq_nil_iff.mpr hdigits
    simp only [htake, hdrop, Nat.ofDigitChars_ten_toDigits]
    simp
  · rw [if_neg hk]
    have htake : (Nat.toDigits 10 n ++ 'e' :: '-'
        :: Nat.toDigits 10 k).takeWhile Char.isDigit = Nat.toDigits 10 n := by
      rw [List.takeWhile_append_of_pos hdigits]
      simp
    have hdrop : (Nat.toDigits 10 n ++ 'e' :: '-'
        :: Nat.toDigits 10 k).dropWhile Char.isDigit
        = 'e' :: '-' :: Nat.toDigits 10 k := by
      rw [List.dropWhile_append_of_pos hdigits]
      simp
    simp only [htake, hdrop, Nat.ofDigitChars_ten_toDigits]

theorem toDigits_cons (n : Nat) :
    ∃ c cs, Nat.toDigits 10 n = c :: cs ∧ c.isDigit = true := by
  cases hn : Nat.toDigits 10 n with
  | nil =>
      exact absurd hn Nat.toDigits_ne_nil
  | cons c cs =>
      refine ⟨c, cs, rfl, isDigit_toDigits n c ?_⟩
      rw [hn]
      exact List.mem_cons_self ..

/-- A text without its sign starts with a digit. -/
theorem printScaled_cons (n k : Nat) :
    ∃ c cs, printScaled n k = c :: cs ∧ c.isDigit = true := by
  obtain ⟨c, cs, hn, hc⟩ := toDigits_cons n
  unfold printScaled
  split
  · exact ⟨c, cs, hn, hc⟩
  · exact ⟨c, cs ++ 'e' :: '-' :: Nat.toDigits 10 k, by rw [hn]; rfl, hc⟩

theorem parse_of_digit {c : Char} {cs : List Char} (hc : c.isDigit = true) :
    parse (c :: cs) = parseScaled (c :: cs) := by
  unfold parse
  split
  · next heq =>
      injection heq with heq _
      rw [heq] at hc
      cases hc
  · rfl

-- ============================================================== doubles

/-- The denominator of a double is a power of two. -/
theorem den_eq_two_pow {q : Rat} (h : IsDouble q) :
    q.den = 2 ^ Nat.log2 q.den := by
  obtain ⟨m, a, b, _, _, _, hq⟩ := h
  have hdvd : q.den ∣ 2 ^ b := by
    have hint : ((q.den : Int)) ∣ ((2 ^ b : Nat) : Int) := by
      have hden := Rat.den_dvd (m * 2 ^ a) (2 ^ b)
      have hcast : ((m * 2 ^ a : Int) : Rat) / ((2 ^ b : Int) : Rat) = q := by
        rw [hq]
        push_cast
        rfl
      rw [Rat.divInt_eq_div, hcast] at hden
      push_cast
      exact hden
    exact Int.natCast_dvd_natCast.mp hint
  obtain ⟨k, _, hk⟩ := (Nat.dvd_prime_pow Nat.prime_two).mp hdvd
  rw [hk, Nat.log2_two_pow]

/-- The digits of a double stand for its absolute value. -/
theorem scaled_eq {q : Rat} (h : IsDouble q) :
    ((q.num.natAbs * 5 ^ Nat.log2 q.den : Nat) : Rat) / 10 ^ Nat.log2 q.den
      = (q.num.natAbs : Rat) / q.den := by
  have hden : (q.den : Rat) = 2 ^ Nat.log2 q.den := by
    exact_mod_cast congrArg (Nat.cast (R := Rat)) (den_eq_two_pow h)
  have hten : (10 : Rat) ^ Nat.log2 q.den
      = 2 ^ Nat.log2 q.den * 5 ^ Nat.log2 q.den := by
    rw [← mul_pow]
    norm_num
  rw [hden, hten]
  push_cast
  field_simp

/-- Reading undoes writing. -/
theorem parse_print {q : Rat} (h : IsDouble q) :
    parse (print q) = some q := by
  have hscaled := parseScaled_printScaled
    (q.num.natAbs * 5 ^ Nat.log2 q.den) (Nat.log2 q.den)
  rw [scaled_eq h] at hscaled
  have hfraction := Rat.num_div_den q
  unfold print
  dsimp only
  by_cases hneg : q.num < 0
  · rw [if_pos hneg]
    show (parseScaled _).map _ = _
    rw [hscaled, Option.map_some]
    have habs : (q.num.natAbs : Rat) = -(q.num : Rat) := by
      have hint : (q.num.natAbs : Int) = -q.num := by omega
      rw [← Int.cast_natCast, hint, Int.cast_neg]
    rw [habs, neg_div, neg_neg, hfraction]
  · rw [if_neg hneg]
    obtain ⟨c, cs, hcons, hc⟩ := printScaled_cons
      (q.num.natAbs * 5 ^ Nat.log2 q.den) (Nat.log2 q.den)
    rw [hcons] at hscaled ⊢
    rw [parse_of_digit hc, hscaled]
    have habs : (q.num.natAbs : Rat) = (q.num : Rat) := by
      have hint : (q.num.natAbs : Int) = q.num := by omega
      rw [← Int.cast_natCast, hint]
    rw [habs, hfraction]

theorem isNumberChar_printScaled (n k : Nat) :
    ∀ c ∈ printScaled n k, isNumberChar c = true := by
  have hdigit : ∀ (m : Nat) (c : Char), c ∈ Nat.toDigits 10 m →
      isNumberChar c = true := by
    intro m c hc
    unfold isNumberChar
    simp [isDigit_toDigits m c hc]
  intro c hc
  unfold printScaled at hc
  split at hc
  · exact hdigit n c hc
  · rcases List.mem_append.mp hc with hc | hc
    · exact hdigit n c hc
    · rcases List.mem_cons.mp hc with rfl | hc
      · rfl
      · rcases List.mem_cons.mp hc with rfl | hc
        · rfl
        · exact hdigit k c hc

end Decimal

/-- Numbers as exact decimals. -/
def NumberText.decimal : NumberText where
  print := Decimal.print
  parse := Decimal.parse
  parse_print q h := Decimal.parse_print h
  print_start := by
    intro q _
    unfold Decimal.print
    dsimp only
    split
    · exact ⟨'-', _, rfl, rfl⟩
    · obtain ⟨c, cs, hcons, hc⟩ := Decimal.printScaled_cons
        (q.num.natAbs * 5 ^ Nat.log2 q.den) (Nat.log2 q.den)
      refine ⟨c, cs, hcons, ?_⟩
      unfold isNumberStart
      rw [hc]
      rfl
  print_chars := by
    intro q _ c hc
    unfold Decimal.print at hc
    dsimp only at hc
    split at hc
    · rcases List.mem_cons.mp hc with rfl | hc
      · rfl
      · exact Decimal.isNumberChar_printScaled _ _ c hc
    · exact Decimal.isNumberChar_printScaled _ _ c hc

end Js
