/-
The JavaScript values that programs store, test and convert, and the
promises they await.

A number is an IEEE double; only its value matters here, so a finite one
is the rational it denotes (`-0` and `0` are one value: no operation
below tells them apart). `BigInt(x)` throws a `RangeError` unless `x` is
an integer, so `toBigInt` is partial.
-/

namespace Js

-- ============================================================= numbers

/-- A JavaScript number. -/
inductive Number
  | finite (q : Rat)
  | infinity (negative : Bool)
  | nan
  deriving DecidableEq

namespace Number

/-- The number of an integer. -/
def ofInt (n : Int) : Number := .finite n

/-- `x < y`. -/
def lt : Number → Number → Bool
  | .finite x, .finite y => decide (x < y)
  | .finite _, .infinity negative => !negative
  | .infinity negative, .finite _ => negative
  | .infinity x, .infinity y => x && !y
  | _, _ => false

/-- `x <= y`. Both comparisons are false when an operand is `NaN`. -/
def le : Number → Number → Bool
  | .nan, _ => false
  | _, .nan => false
  | x, y => !y.lt x

/-- `x - y`. -/
def sub : Number → Number → Number
  | .finite x, .finite y => .finite (x - y)
  | .finite _, .infinity negative => .infinity (!negative)
  | .infinity negative, .finite _ => .infinity negative
  | .infinity x, .infinity y => if x = y then .nan else .infinity x
  | _, _ => .nan

/-- `BigInt(x)`, or `none` where it throws. -/
def toBigInt : Number → Option Int
  | .finite q => if q.den = 1 then some q.num else none
  | _ => none

@[simp] theorem toBigInt_ofInt (n : Int) : (ofInt n).toBigInt = some n :=
  rfl

end Number

-- ============================================================== values

/-- A JavaScript value, as far as the codecs and the truth tests see it.
`bytes` is an `ArrayBuffer` or a view of one; an object is the list of
its own enumerable members in their order. -/
inductive Value
  | undefined
  | null
  | bool (b : Bool)
  | num (n : Number)
  | bigint (i : Int)
  | str (s : String)
  | bytes (b : List UInt8)
  | arr (xs : List Value)
  | obj (members : List (String × Value))

namespace Value

/-- `Boolean(v)`. -/
def truthy : Value → Bool
  | .undefined => false
  | .null => false
  | .bool b => b
  | .num (.finite q) => decide (q ≠ 0)
  | .num (.infinity _) => true
  | .num .nan => false
  | .bigint i => decide (i ≠ 0)
  | .str s => decide (s ≠ "")
  | .bytes _ => true
  | .arr _ => true
  | .obj _ => true

/-- `v || w`. -/
def or (v w : Value) : Value := if v.truthy then v else w

/-- `v.name`, of a value that has members at all. -/
def member (v : Value) (name : String) : Value :=
  match v with
  | .obj members =>
      match members.find? fun m => m.1 = name with
      | some m => m.2
      | none => .undefined
  | _ => .undefined

/-- `v !== undefined`. -/
def isDefined : Value → Bool
  | .undefined => false
  | _ => true

end Value

-- ============================================================= strings

/-- `s.replace(pattern, replacement)` of strings: the first occurrence
only. -/
def replaceFirst (pattern replacement : List Char) :
    List Char → List Char
  | [] => if pattern.isPrefixOf [] then replacement else []
  | c :: cs =>
      if pattern.isPrefixOf (c :: cs) then
        replacement ++ (c :: cs).drop pattern.length
      else c :: replaceFirst pattern replacement cs

-- ============================================================ promises

/-- A promise that is only ever resolved. -/
inductive PromiseState
  | pending
  | resolved
  deriving DecidableEq

end Js
