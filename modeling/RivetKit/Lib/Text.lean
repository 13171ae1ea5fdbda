/-
JavaScript strings: `split`, `trim`, `encodeURIComponent` and
`decodeURIComponent`, the string that a value becomes as the key of a
property, and the order of strings: that of their UTF-16 code units, which
`sort()` and `<` go by. Two strings have the same code units if they are
the same (`utf16_injective`), so it is a linear order.
-/
import Mathlib.Data.List.Lex
import RivetKit.Lib.Bare
import RivetKit.Lib.Json

namespace Js

-- ============================================================ splitting

/-- The parts of a string between the occurrences of a separator that is
not empty. `skip` characters of an occurrence are still to come; `part`
is the part so far, backwards. -/
def splitFrom (separator : List Char) :
    Nat → List Char → List Char → List (List Char)
  | _, part, [] => [part.reverse]
  | skip + 1, part, _ :: cs => splitFrom separator skip part cs
  | 0, part, c :: cs =>
      if separator.isPrefixOf (c :: cs) then
        part.reverse :: splitFrom separator (separator.length - 1) [] cs
      else splitFrom separator 0 (c :: part) cs

/-- `s.split(separator)`. -/
def split (separator s : String) : List String :=
  (splitFrom separator.toList 0 [] s.toList).map String.ofList

/-- White space, and the ends of lines. -/
def isSpace (c : Char) : Bool :=
  let n := c.toNat
  (0x09 ≤ n && n ≤ 0x0d) || n = 0x20 || n = 0xa0 || n = 0x1680
    || (0x2000 ≤ n && n ≤ 0x200a) || n = 0x2028 || n = 0x2029
    || n = 0x202f || n = 0x205f || n = 0x3000 || n = 0xfeff

/-- `s.trim()`. -/
def trim (s : String) : String :=
  String.ofList ((s.toList.dropWhile isSpace).reverse.dropWhile
    isSpace).reverse

/-- `s.startsWith(prefix)`, with what follows. -/
def afterStart (start s : String) : Option String :=
  if start.toList.isPrefixOf s.toList then
    some (String.ofList (s.toList.drop start.toList.length))
  else none

-- ================================================================== URIs

/-- `decodeURIComponent` behind `bytes` that are read but not yet
decoded. The bytes of one run of escapes are UTF-8. -/
def decodeUri : List UInt8 → List Char → Option (List Char)
  | bytes, [] => Bare.Codec.readUtf8 bytes.length bytes
  | bytes, '%' :: a :: b :: cs =>
      match hexValue a, hexValue b with
      | some a, some b =>
          decodeUri (bytes ++ [UInt8.ofNat (a * 16 + b)]) cs
      | _, _ => none
  | bytes, c :: cs =>
      if c = '%' then none
      else
        match Bare.Codec.readUtf8 bytes.length bytes, decodeUri [] cs with
        | some s, some cs => some (s ++ c :: cs)
        | _, _ => none

/-- `decodeURIComponent(s)`, or `none` where it throws. -/
def decodeURIComponent (s : String) : Option String :=
  (decodeUri [] s.toList).map String.ofList

/-- A character that `encodeURIComponent` leaves as it is: `'` is
U+0027. -/
def isUnescaped (c : Char) : Bool :=
  c.isAlphanum
    || ['-', '_', '.', '!', '~', '*', Char.ofNat 0x27, '(', ')'].contains c

/-- A hexadecimal digit of an escape. -/
def upperHexDigit (n : Nat) : Char :=
  if n < 10 then Char.ofNat (0x30 + n) else Char.ofNat (0x37 + n)

/-- The escape of a byte. -/
def percentEncode (b : UInt8) : List Char :=
  ['%', upperHexDigit (b.toNat / 16), upperHexDigit (b.toNat % 16)]

/-- One character of a component: itself, or its UTF-8 escaped. -/
def encodeUriChar (c : Char) : List Char :=
  if isUnescaped c then [c]
  else (String.utf8EncodeChar c).flatMap percentEncode

/-- `encodeURIComponent(s)`. It throws on lone surrogates only, and these
are not represented. -/
def encodeURIComponent (s : String) : String :=
  String.ofList (s.toList.flatMap encodeUriChar)

-- ======================================================== property keys

variable (text : NumberText)

mutual

/-- `String(v)`. -/
def Value.toText : Value → String
  | .undefined => "undefined"
  | .null => "null"
  | .bool b => if b then "true" else "false"
  | .num (.finite q) => String.ofList (text.print q)
  | .num (.infinity negative) =>
      if negative then "-Infinity" else "Infinity"
  | .num .nan => "NaN"
  | .bigint i => i.repr
  | .str s => s
  | .bytes _ => "[object ArrayBuffer]"
  | .arr vs =>
      String.ofList ([','].intercalate (elementsToText vs))
  | .obj _ => "[object Object]"

/-- The elements as `join` writes them. -/
def elementsToText : List Value → List (List Char)
  | [] => []
  | .undefined :: vs => [] :: elementsToText vs
  | .null :: vs => [] :: elementsToText vs
  | v :: vs => v.toText.toList :: elementsToText vs

end

/-- `v.name`, or `none` where it throws. -/
def Value.get (v : Value) (name : String) : Option Value :=
  match v with
  | .undefined => none
  | .null => none
  | v => some (v.member name)

/-- `name in v`, or `none` where it throws: `in` wants an object. -/
def Value.has (v : Value) (name : String) : Option Bool :=
  match v with
  | .obj members => some (members.any (·.1 = name))
  | .arr _ => some false
  | .bytes _ => some false
  | _ => none

-- =============================================================== code units

/-- The code units of a character. -/
def codeUnits (c : Char) : List Nat :=
  if c.toNat < 0x10000 then [c.toNat]
  else
    [0xd800 + (c.toNat - 0x10000) / 0x400,
      0xdc00 + (c.toNat - 0x10000) % 0x400]

/-- The code units of a string. -/
def utf16 (s : String) : List Nat := s.toList.flatMap codeUnits

/-- A character is no surrogate. -/
theorem not_surrogate (c : Char) :
    c.toNat < 0xd800 ∨ 0xdfff < c.toNat ∧ c.toNat < 0x110000 := c.valid

/-- A character can be read off the head of some code units. -/
theorem codeUnits_append {c d : Char} {us vs : List Nat}
    (h : codeUnits c ++ us = codeUnits d ++ vs) : c = d ∧ us = vs := by
  have hc := not_surrogate c
  have hd := not_surrogate d
  have hchar : c.toNat = d.toNat → c = d := fun h => Char.toNat_inj.1 h
  unfold codeUnits at h
  by_cases hcs : c.toNat < 0x10000
  · by_cases hds : d.toNat < 0x10000
    · simp only [hcs, hds, if_true, List.cons_append, List.nil_append,
        List.cons.injEq] at h
      exact ⟨hchar h.1, h.2⟩
    · simp only [hcs, hds, if_true, if_false, List.cons_append,
        List.nil_append, List.cons.injEq] at h
      omega
  · by_cases hds : d.toNat < 0x10000
    · simp only [hcs, hds, if_true, if_false, List.cons_append,
        List.nil_append, List.cons.injEq] at h
      omega
    · simp only [hcs, hds, if_false, List.cons_append, List.nil_append,
        List.cons.injEq] at h
      exact ⟨hchar (by omega), h.2.2⟩

theorem flatMap_codeUnits_injective {cs : List Char} :
    ∀ {ds : List Char}, cs.flatMap codeUnits = ds.flatMap codeUnits →
      cs = ds := by
  have hne : ∀ c, codeUnits c ≠ [] := by
    intro c
    unfold codeUnits
    split <;> simp
  induction cs with
  | nil =>
      intro ds h
      cases ds with
      | nil => rfl
      | cons d ds =>
          rw [List.flatMap_nil, List.flatMap_cons] at h
          exact absurd (List.append_eq_nil_iff.1 h.symm).1 (hne d)
  | cons c cs ih =>
      intro ds h
      cases ds with
      | nil =>
          rw [List.flatMap_nil, List.flatMap_cons] at h
          exact absurd (List.append_eq_nil_iff.1 h).1 (hne c)
      | cons d ds =>
          rw [List.flatMap_cons, List.flatMap_cons] at h
          obtain ⟨hcd, hrest⟩ := codeUnits_append h
          rw [hcd, ih hrest]

theorem utf16_injective : Function.Injective utf16 := by
  intro s t h
  exact String.toList_inj.1 (flatMap_codeUnits_injective h)

end Js
