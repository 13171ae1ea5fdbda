/-
`JSON.stringify` and `JSON.parse`.

# The two halves

`Value.toJson` is what `JSON.stringify` makes of a JavaScript value
(SerializeJSONProperty: members that are `undefined` go, other places
that are become `null`, and so do numbers that are not finite), and
`Json.print` its text. `parse` reads a text, and `Json.toValue` is the
value it builds.

# Numbers

How a number is written is left to a `NumberText`: the text that
`Number::toString` gives for a finite double, and what a number token of
a JSON text means. What is relied on is that reading undoes writing.

# Strings

A string is a list of Unicode scalar values: lone surrogates are not
represented, and an escape that would make one is rejected.
-/
import RivetKit.Lib.Js
import Mathlib.Data.Rat.Lemmas

namespace Js

-- ============================================================= the values

/-- A JSON value. -/
inductive Json
  | null
  | bool (b : Bool)
  | num (q : Rat)
  | str (s : String)
  | arr (xs : List Json)
  | obj (members : List (String × Json))

/-- The rationals that are finite doubles. -/
def IsDouble (q : Rat) : Prop :=
  ∃ (m : Int) (a b : Nat),
    m.natAbs < 2 ^ 53 ∧ a ≤ 971 ∧ b ≤ 1074 ∧ q = m * 2 ^ a / 2 ^ b

/-- A character a number token is made of. -/
def isNumberChar (c : Char) : Bool :=
  c.isDigit || c == '-' || c == '+' || c == '.' || c == 'e' || c == 'E'

/-- A character a number token starts with. -/
def isNumberStart (c : Char) : Bool := c.isDigit || c == '-'

/-- The text of numbers. -/
structure NumberText where
  print : Rat → List Char
  parse : List Char → Option Rat
  parse_print : ∀ q, IsDouble q → parse (print q) = some q
  print_start : ∀ q, IsDouble q →
    ∃ c cs, print q = c :: cs ∧ isNumberStart c = true
  print_chars : ∀ q, IsDouble q → ∀ c ∈ print q, isNumberChar c = true

-- =============================================================== printing

/-- A hexadecimal digit. -/
def hexDigit (n : Nat) : Char :=
  if n < 10 then Char.ofNat (0x30 + n) else Char.ofNat (0x57 + n)

/-- One character of a string, escaped. -/
def escapeChar (c : Char) : List Char :=
  if c = '"' then ['\\', '"']
  else if c = '\\' then ['\\', '\\']
  else if c.toNat = 0x08 then ['\\', 'b']
  else if c.toNat = 0x0c then ['\\', 'f']
  else if c.toNat = 0x0a then ['\\', 'n']
  else if c.toNat = 0x0d then ['\\', 'r']
  else if c.toNat = 0x09 then ['\\', 't']
  else if c.toNat < 0x20 then
    ['\\', 'u', '0', '0', hexDigit (c.toNat / 16), hexDigit (c.toNat % 16)]
  else [c]

/-- QuoteJSONString. -/
def quote (s : String) : List Char :=
  '"' :: (s.toList.flatMap escapeChar ++ ['"'])

variable (text : NumberText)

mutual

/-- The text of a JSON value. -/
def Json.print : Json → List Char
  | .null => ['n', 'u', 'l', 'l']
  | .bool true => ['t', 'r', 'u', 'e']
  | .bool false => ['f', 'a', 'l', 's', 'e']
  | .num q => text.print q
  | .str s => quote s
  | .arr [] => ['[', ']']
  | .arr (x :: xs) => '[' :: (x.print ++ printElements xs)
  | .obj [] => ['{', '}']
  | .obj ((k, x) :: members) =>
      '{' :: (quote k ++ ':' :: (x.print ++ printMembers members))

/-- The elements of an array behind the first, and the bracket. -/
def printElements : List Json → List Char
  | [] => [']']
  | x :: xs => ',' :: (x.print ++ printElements xs)

/-- The members of an object behind the first, and the brace. -/
def printMembers : List (String × Json) → List Char
  | [] => ['}']
  | (k, x) :: members =>
      ',' :: (quote k ++ ':' :: (x.print ++ printMembers members))

end

-- ================================================================ parsing

/-- White space of a JSON text. -/
def isWhitespace (c : Char) : Bool :=
  c == ' ' || c == '\t' || c == '\n' || c == '\r'

/-- Skip white space. -/
def skipWhitespace (cs : List Char) : List Char := cs.dropWhile isWhitespace

/-- The value of a hexadecimal digit. -/
def hexValue (c : Char) : Option Nat :=
  if '0' ≤ c ∧ c ≤ '9' then some (c.toNat - 0x30)
  else if 'a' ≤ c ∧ c ≤ 'f' then some (c.toNat - 0x57)
  else if 'A' ≤ c ∧ c ≤ 'F' then some (c.toNat - 0x37)
  else none

/-- Four hexadecimal digits: a UTF-16 code unit. -/
def parseCodeUnit : List Char → Option (Nat × List Char)
  | a :: b :: c :: d :: cs =>
      match hexValue a, hexValue b, hexValue c, hexValue d with
      | some a, some b, some c, some d =>
          some (((a * 16 + b) * 16 + c) * 16 + d, cs)
      | _, _, _, _ => none
  | _ => none

/-- What follows `\u`: a code unit, or the two of a surrogate pair. -/
def parseUnicode (cs : List Char) : Option (Char × List Char) :=
  match parseCodeUnit cs with
  | some (u, cs) =>
      if u < 0xd800 ∨ 0xdfff < u then some (Char.ofNat u, cs)
      else if u < 0xdc00 then
        match cs with
        | '\\' :: 'u' :: cs =>
            match parseCodeUnit cs with
            | some (v, cs) =>
                if 0xdc00 ≤ v ∧ v ≤ 0xdfff then
                  let code := 0x10000 + (u - 0xd800) * 0x400 + (v - 0xdc00)
                  some (Char.ofNat code, cs)
                else none
            | none => none
        | _ => none
      else none
  | none => none

/-- What follows a backslash. -/
def parseEscape : List Char → Option (Char × List Char)
  | '"' :: cs => some ('"', cs)
  | '\\' :: cs => some ('\\', cs)
  | '/' :: cs => some ('/', cs)
  | 'b' :: cs => some (Char.ofNat 0x08, cs)
  | 'f' :: cs => some (Char.ofNat 0x0c, cs)
  | 'n' :: cs => some (Char.ofNat 0x0a, cs)
  | 'r' :: cs => some (Char.ofNat 0x0d, cs)
  | 't' :: cs => some (Char.ofNat 0x09, cs)
  | 'u' :: cs => parseUnicode cs
  | _ => none

/-- One character of a string, or the quote that ends it. -/
def parseChar : List Char → Option (Option Char × List Char)
  | [] => none
  | c :: cs =>
      if c = '"' then some (none, cs)
      else if c = '\\' then
        match parseEscape cs with
        | some (c, cs) => some (some c, cs)
        | none => none
      else if c.toNat < 0x20 then none
      else some (some c, cs)

/-- A string behind its opening quote. -/
def parseString : Nat → List Char → Option (List Char × List Char)
  | 0, _ => none
  | n + 1, cs =>
      match parseChar cs with
      | some (some c, cs) =>
          match parseString n cs with
          | some (s, cs) => some (c :: s, cs)
          | none => none
      | some (none, cs) => some ([], cs)
      | none => none

/-- The elements of an array that is not empty, read by `p`. -/
def parseElements (p : List Char → Option (Json × List Char)) :
    Nat → List Char → Option (List Json × List Char)
  | 0, _ => none
  | n + 1, cs =>
      match p cs with
      | some (x, cs) =>
          match skipWhitespace cs with
          | ']' :: cs => some ([x], cs)
          | ',' :: cs =>
              match parseElements p n cs with
              | some (xs, cs) => some (x :: xs, cs)
              | none => none
          | _ => none
      | none => none

/-- A name, its colon and the value read by `p`. -/
def parseMember (p : List Char → Option (Json × List Char))
    (cs : List Char) : Option ((String × Json) × List Char) :=
  match skipWhitespace cs with
  | '"' :: cs =>
      match parseString cs.length cs with
      | some (k, cs) =>
          match skipWhitespace cs with
          | ':' :: cs =>
              match p cs with
              | some (x, cs) => some ((String.ofList k, x), cs)
              | none => none
          | _ => none
      | none => none
  | _ => none

/-- The members of an object that is not empty. -/
def parseMembers (p : List Char → Option (Json × List Char)) :
    Nat → List Char → Option (List (String × Json) × List Char)
  | 0, _ => none
  | n + 1, cs =>
      match parseMember p cs with
      | some (m, cs) =>
          match skipWhitespace cs with
          | '}' :: cs => some ([m], cs)
          | ',' :: cs =>
              match parseMembers p n cs with
              | some (ms, cs) => some (m :: ms, cs)
              | none => none
          | _ => none
      | none => none

/-- A member of an object that may have it already: a later value takes
the place of the earlier one. -/
def setMember (members : List (String × Json)) (m : String × Json) :
    List (String × Json) :=
  if members.any (·.1 = m.1) then
    members.map fun m' => if m'.1 = m.1 then m else m'
  else members ++ [m]

/-- `true`, `false` or `null`. -/
def parseLiteral : List Char → Option (Json × List Char)
  | 'n' :: 'u' :: 'l' :: 'l' :: cs => some (.null, cs)
  | 't' :: 'r' :: 'u' :: 'e' :: cs => some (.bool true, cs)
  | 'f' :: 'a' :: 'l' :: 's' :: 'e' :: cs => some (.bool false, cs)
  | _ => none

/-- A JSON value at the head of a text. The fuel bounds how deep values
nest and how long they are; the length of the text is enough. -/
def parseValue : Nat → List Char → Option (Json × List Char)
  | 0, _ => none
  | n + 1, cs =>
      match skipWhitespace cs with
      | [] => none
      | c :: cs =>
          if c = '"' then
            match parseString cs.length cs with
            | some (s, cs) => some (.str (String.ofList s), cs)
            | none => none
          else if c = '[' then
            match skipWhitespace cs with
            | ']' :: cs => some (.arr [], cs)
            | cs =>
                match parseElements (parseValue n) n cs with
                | some (xs, cs) => some (.arr xs, cs)
                | none => none
          else if c = '{' then
            match skipWhitespace cs with
            | '}' :: cs => some (.obj [], cs)
            | cs =>
                match parseMembers (parseValue n) n cs with
                | some (ms, cs) => some (.obj (ms.foldl setMember []), cs)
                | none => none
          else if isNumberStart c then
            match text.parse ((c :: cs).takeWhile isNumberChar) with
            | some q => some (.num q, (c :: cs).dropWhile isNumberChar)
            | none => none
          else parseLiteral (c :: cs)

/-- A JSON text. -/
def parse (s : String) : Option Json :=
  match parseValue text (s.toList.length + 1) s.toList with
  | some (x, cs) => if skipWhitespace cs = [] then some x else none
  | none => none

-- ======================================================= JavaScript values

mutual

/-- The JSON value that `JSON.stringify` writes, `none` where it throws
and `some none` where it has nothing to write. `replace` is a replacer
that touches `bigint`s only; where it leaves one, `JSON.stringify`
throws. A byte buffer has no members of its own. -/
def Value.toJson (replace : Int → Option Json) :
    Value → Option (Option Json)
  | .undefined => some none
  | .null => some (some .null)
  | .bool b => some (some (.bool b))
  | .num (.finite q) => some (some (.num q))
  | .num _ => some (some .null)
  | .bigint i =>
      match replace i with
      | some x => some (some x)
      | none => none
  | .str s => some (some (.str s))
  | .bytes _ => some (some (.obj []))
  | .arr xs =>
      match elementsToJson replace xs with
      | some xs => some (some (.arr xs))
      | none => none
  | .obj members =>
      match membersToJson replace members with
      | some members => some (some (.obj members))
      | none => none

/-- The elements of an array. -/
def elementsToJson (replace : Int → Option Json) :
    List Value → Option (List Json)
  | [] => some []
  | v :: vs =>
      match v.toJson replace, elementsToJson replace vs with
      | some x, some xs => some (x.getD .null :: xs)
      | _, _ => none

/-- The members of an object. -/
def membersToJson (replace : Int → Option Json) :
    List (String × Value) → Option (List (String × Json))
  | [] => some []
  | (k, v) :: vs =>
      match v.toJson replace, membersToJson replace vs with
      | some (some x), some xs => some ((k, x) :: xs)
      | some none, some xs => some xs
      | _, _ => none

end

mutual

/-- The value of a JSON value. -/
def Json.toValue : Json → Value
  | .null => .null
  | .bool b => .bool b
  | .num q => .num (.finite q)
  | .str s => .str s
  | .arr xs => .arr (elementsToValue xs)
  | .obj members => .obj (membersToValue members)

def elementsToValue : List Json → List Value
  | [] => []
  | x :: xs => x.toValue :: elementsToValue xs

def membersToValue : List (String × Json) → List (String × Value)
  | [] => []
  | (k, x) :: xs => (k, x.toValue) :: membersToValue xs

end

/-- `JSON.stringify(v, replacer)`. -/
def stringify (replace : Int → Option Json) (v : Value) :
    Option (Option String) :=
  match v.toJson replace with
  | some (some x) => some (some (String.ofList (x.print text)))
  | some none => some none
  | none => none

end Js
