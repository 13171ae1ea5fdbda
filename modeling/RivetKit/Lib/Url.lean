/-
URLs of the schemes `http` and `ws`: how the URL parser reads the path and
the query, and what their getters give.

A string is given without its scheme and authority, that is, from the
slash in front of the path on (`parseUrl`), or as a reference that begins
with a slash and is resolved against an origin (`resolveUrl`).
-/
import RivetKit.Lib.Text

namespace Js

-- ========================================================== characters

/-- A slash, or a backslash, which is as good as one. -/
def isSlash (c : Char) : Bool := c = '/' || c = '\\'

/-- The query percent-encode set. -/
def inQuerySet (c : Char) : Bool :=
  c.toNat ≤ 0x20 || 0x7e < c.toNat || ['"', '#', '<', '>'].contains c

/-- The path percent-encode set; the grave accent is U+0060, and the
braces are U+007B and U+007D. -/
def inPathSet (c : Char) : Bool :=
  inQuerySet c
    || ['?', '^', Char.ofNat 0x60, Char.ofNat 0x7b, Char.ofNat 0x7d].contains
        c

/-- The special-query percent-encode set; `'` is U+0027. -/
def inSpecialQuerySet (c : Char) : Bool :=
  inQuerySet c || c = Char.ofNat 0x27

/-- UTF-8 percent-encoding. -/
def encodeUrlChar (set : Char → Bool) (c : Char) : List Char :=
  if set c then (String.utf8EncodeChar c).flatMap percentEncode else [c]

-- ============================================================ segments

/-- A single-dot path segment. -/
def isSingleDot (segment : List Char) : Bool :=
  [['.'], ['%', '2', 'e']].contains (segment.map Char.toLower)

/-- A double-dot path segment. -/
def isDoubleDot (segment : List Char) : Bool :=
  [['.', '.'], ['.', '%', '2', 'e'], ['%', '2', 'e', '.'],
    ['%', '2', 'e', '%', '2', 'e']].contains (segment.map Char.toLower)

/-- The end of a segment, at a slash or at the end of the path. -/
def endSegment (path : List (List Char)) (segment : List Char)
    (slash : Bool) : List (List Char) :=
  if isDoubleDot segment then
    if slash then path.dropLast else path.dropLast ++ [[]]
  else if isSingleDot segment then
    if slash then path else path ++ [[]]
  else path ++ [segment]

/-- The query state: up to the fragment. -/
def queryState (cs : List Char) : List Char :=
  (cs.takeWhile (· ≠ '#')).flatMap (encodeUrlChar inSpecialQuerySet)

/-- The path state, with the segment so far: the path, and the query,
which is empty where there is none. -/
def pathState : List (List Char) → List Char → List Char →
    List (List Char) × List Char
  | path, segment, [] => (endSegment path segment false, [])
  | path, segment, c :: cs =>
      if isSlash c then pathState (endSegment path segment true) [] cs
      else if c = '?' then (endSegment path segment false, queryState cs)
      else if c = '#' then (endSegment path segment false, [])
      else pathState path (segment ++ encodeUrlChar inPathSet c) cs

/-- The path start state. -/
def pathStartState (cs : List Char) : List (List Char) × List Char :=
  match cs with
  | c :: rest => pathState [] [] (if isSlash c then rest else c :: rest)
  | [] => pathState [] [] []

/-- The segments of a path as they are written, behind what there is of
the first. -/
def segmentsFrom : List Char → List Char → List (List Char)
  | segment, [] => [segment]
  | segment, c :: cs =>
      if isSlash c then segment :: segmentsFrom [] cs
      else if c = '?' ∨ c = '#' then [segment]
      else segmentsFrom (segment ++ encodeUrlChar inPathSet c) cs

/-- Neither of the dot segments. -/
def IsDotless (segment : List Char) : Prop :=
  isSingleDot segment = false ∧ isDoubleDot segment = false

instance (segment : List Char) : Decidable (IsDotless segment) :=
  inferInstanceAs (Decidable (_ ∧ _))

-- ============================================================== strings

/-- The characters that the parser drops wherever they are. -/
def isTabOrNewline (c : Char) : Bool :=
  c.toNat = 0x09 || c.toNat = 0x0a || c.toNat = 0x0d

/-- What is parsed of a string whose first character is none of the ones
that are dropped: not the controls and spaces at its end, and no tab or
newline. -/
def cleanUrl (cs : List Char) : List Char :=
  ((cs.reverse.dropWhile (·.toNat ≤ 0x20)).reverse).filter
    (!isTabOrNewline ·)

/-- `url.pathname`. -/
def pathnameOf (path : List (List Char)) : List Char :=
  path.flatMap ('/' :: ·)

/-- `url.search`. -/
def searchOf (query : List Char) : List Char :=
  if query = [] then [] else '?' :: query

/-- A URL, without its scheme and authority. -/
structure Url where
  pathname : String
  search : String
deriving DecidableEq

/-- What the getters give. -/
def Url.ofPath (parsed : List (List Char) × List Char) : Url where
  pathname := String.ofList (pathnameOf parsed.1)
  search := String.ofList (searchOf parsed.2)

/-- `new URL("http://host" + s)`, where `s` begins with a slash. -/
def parseUrl (s : String) : Url :=
  .ofPath (pathStartState (cleanUrl s.toList))

/-- The path of `s`, which begins with a slash, has no dot segments. -/
def HasNoDots (s : String) : Prop :=
  ∀ segment ∈ segmentsFrom [] (cleanUrl s.toList), IsDotless segment

instance (s : String) : Decidable (HasNoDots s) :=
  inferInstanceAs (Decidable (∀ segment ∈ _, IsDotless segment))

/-- The end of an authority. -/
def endsAuthority (c : Char) : Bool := isSlash c || c = '?' || c = '#'

variable (accepts : List Char → Bool)

/-- `new URL(s, "http://host")`, where `s` begins with a slash: behind two
slashes there is another authority, of which `accepts` says whether it can
be parsed. `none` where it throws. -/
def resolveUrl (s : String) : Option Url :=
  match cleanUrl s.toList with
  | c :: d :: rest =>
      if isSlash c && isSlash d then
        let rest := rest.dropWhile isSlash
        if accepts (rest.takeWhile (!endsAuthority ·)) then
          some (.ofPath (pathStartState (rest.dropWhile (!endsAuthority ·))))
        else none
      else some (.ofPath (pathStartState (c :: d :: rest)))
  | cs => some (.ofPath (pathStartState cs))

end Js
