/-
Base64 with padding: four characters for three bytes, as
`buffer.toString("base64")` writes them.

# Groups

A group of three bytes is four numbers below 64. The last group may be
short; its missing bytes count as zero, and a `=` stands for every
character that has none of its bits. `decode_encode`: what was encoded is
read back, group by group.
-/
import Mathlib.Data.List.Basic

namespace Base64

-- ============================================================= characters

/-- The character of a number below 64. -/
def digit (n : Nat) : Char :=
  if n < 26 then Char.ofNat (65 + n)
  else if n < 52 then Char.ofNat (97 + (n - 26))
  else if n < 62 then Char.ofNat (48 + (n - 52))
  else if n = 62 then '+'
  else '/'

/-- The number of a character. `=` has none. -/
def digitValue (c : Char) : Option Nat :=
  if 'A' ≤ c ∧ c ≤ 'Z' then some (c.toNat - 65)
  else if 'a' ≤ c ∧ c ≤ 'z' then some (c.toNat - 97 + 26)
  else if '0' ≤ c ∧ c ≤ '9' then some (c.toNat - 48 + 52)
  else if c = '+' then some 62
  else if c = '/' then some 63
  else none

theorem digitValue_digit {n : Nat} (hn : n < 64) :
    digitValue (digit n) = some n := by
  have h : ∀ i : Fin 64, digitValue (digit i) = some i.val := by decide
  exact h ⟨n, hn⟩

-- ================================================================= groups

/-- The bytes to their characters. -/
def encode : List UInt8 → List Char
  | a :: b :: c :: rest =>
      digit (a.toNat / 4) :: digit (a.toNat % 4 * 16 + b.toNat / 16)
        :: digit (b.toNat % 16 * 4 + c.toNat / 64) :: digit (c.toNat % 64)
        :: encode rest
  | [a, b] =>
      [digit (a.toNat / 4), digit (a.toNat % 4 * 16 + b.toNat / 16),
        digit (b.toNat % 16 * 4), '=']
  | [a] => [digit (a.toNat / 4), digit (a.toNat % 4 * 16), '=', '=']
  | [] => []

/-- The first, second and third byte of a group. -/
def first (w x : Nat) : UInt8 := UInt8.ofNat (w * 4 + x / 16)

def second (x y : Nat) : UInt8 := UInt8.ofNat (x % 16 * 16 + y / 4)

def third (y z : Nat) : UInt8 := UInt8.ofNat (y % 4 * 64 + z)

/-- The characters to their bytes, or `none`. The last group alone may be
padded. -/
def decode : List Char → Option (List UInt8)
  | [] => some []
  | w :: x :: y :: z :: rest =>
      match digitValue w, digitValue x, digitValue y, digitValue z with
      | some w, some x, some y, some z =>
          (decode rest).map fun bytes =>
            first w x :: second x y :: third y z :: bytes
      | some w, some x, some y, none =>
          if z = '=' ∧ rest = [] then some [first w x, second x y] else none
      | some w, some x, none, none =>
          if y = '=' ∧ z = '=' ∧ rest = [] then some [first w x] else none
      | _, _, _, _ => none
  | _ => none

-- ============================================================= round trip

/-- A byte from the two numbers it was split into. -/
theorem first_eq (a : UInt8) {low : Nat} (hlow : low < 16) :
    first (a.toNat / 4) (a.toNat % 4 * 16 + low) = a := by
  unfold first
  rw [show a.toNat / 4 * 4 + (a.toNat % 4 * 16 + low) / 16 = a.toNat by omega]
  exact UInt8.ofNat_toNat

theorem second_eq (b : UInt8) {high low : Nat} (hlow : low < 4) :
    second (high * 16 + b.toNat / 16) (b.toNat % 16 * 4 + low) = b := by
  have hb := b.toNat_lt
  unfold second
  rw [show (high * 16 + b.toNat / 16) % 16 * 16 + (b.toNat % 16 * 4 + low) / 4
    = b.toNat by omega]
  exact UInt8.ofNat_toNat

theorem third_eq (c : UInt8) {high : Nat} :
    third (high * 4 + c.toNat / 64) (c.toNat % 64) = c := by
  have hc := c.toNat_lt
  unfold third
  rw [show (high * 4 + c.toNat / 64) % 4 * 64 + c.toNat % 64 = c.toNat by omega]
  exact UInt8.ofNat_toNat

/-- What was encoded is read back. -/
theorem decode_encode (bytes : List UInt8) :
    decode (encode bytes) = some bytes := by
  have hpad : digitValue '=' = none := by decide
  fun_induction encode bytes with
  | case1 a b c rest ih =>
    have ha := a.toNat_lt
    have hb := b.toNat_lt
    have hc := c.toNat_lt
    unfold decode
    rw [digitValue_digit (by omega), digitValue_digit (by omega),
      digitValue_digit (by omega), digitValue_digit (by omega)]
    dsimp only
    rw [ih, Option.map_some, first_eq a (by omega), second_eq b (by omega),
      third_eq c]
  | case2 a b =>
    have ha := a.toNat_lt
    have hb := b.toNat_lt
    unfold decode
    rw [digitValue_digit (by omega), digitValue_digit (by omega),
      digitValue_digit (by omega), hpad]
    dsimp only
    rw [if_pos ⟨rfl, rfl⟩, first_eq a (by omega)]
    exact congrArg (fun byte => some [a, byte])
      (second_eq b (by omega : 0 < 4))
  | case3 a =>
    have ha := a.toNat_lt
    unfold decode
    rw [digitValue_digit (by omega), digitValue_digit (by omega), hpad]
    dsimp only
    rw [if_pos ⟨rfl, rfl, rfl⟩]
    exact congrArg (fun byte => some [byte])
      (first_eq a (by omega : 0 < 16))
  | case4 => rfl

end Base64
