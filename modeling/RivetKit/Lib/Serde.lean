/-
What serde's derive macros make of the types they stand on, over serde's
data model.

# Structs

A derived struct is written as a map of its fields in their order. It is
read from a map, or from a sequence of just its fields. In a map a field
that comes twice is an error, one that is not known is skipped, and one
that is missing is an error unless its type is an `Option`.

# Enumerations without a tag

A variant is written as the map of its fields, and read from a map only.
The first variant that can be read is the one that is read.
-/
import RivetKit.Lib.Json

namespace Serde

open Js

-- ========================================================= the data model

/-- What a format hands to serde, and serde to a format. The keys of maps
are strings. -/
inductive Content
  | unit
  | bool (b : Bool)
  | int (i : Int)
  | float (x : Number)
  | str (s : String)
  | bytes (b : List UInt8)
  | seq (xs : List Content)
  | map (entries : List (String × Content))

/-- The keys of a map. -/
def Content.keys : Content → List String
  | .map entries => entries.map Prod.fst
  | _ => []

-- ================================================================= fields

/-- A field of a map: absent, or what it holds. Twice is an error. -/
def lookup (entries : List (String × Content)) (name : String) :
    Option (Option Content) :=
  match entries.filter fun e => e.1 = name with
  | [] => some none
  | [e] => some (some e.2)
  | _ => none

/-- The fields of a variant without a tag. -/
def variantFields (names : List String) :
    Content → Option (List (Option Content))
  | .map entries => names.mapM (lookup entries)
  | _ => none

/-- The fields of a struct. -/
def structFields (names : List String) :
    Content → Option (List (Option Content))
  | .seq xs => if xs.length = names.length then some (xs.map some) else none
  | c => variantFields names c

section

variable {α : Type} (read : Content → Option α)

/-- A field that has to be there. -/
def required : Option Content → Option α
  | some c => read c
  | none => none

/-- A field whose type is an `Option`. -/
def optional : Option Content → Option (Option α)
  | some .unit => some none
  | some c => (read c).map some
  | none => some none

end

theorem structFields_map (names : List String)
    (entries : List (String × Content)) :
    structFields names (.map entries) = variantFields names (.map entries) :=
  rfl

/-- A field that is in no entry is absent. -/
theorem lookup_of_notMem {entries : List (String × Content)} {name : String}
    (h : name ∉ entries.map Prod.fst) : lookup entries name = some none := by
  have hfilter : entries.filter (fun e => e.1 = name) = [] := by
    apply List.filter_eq_nil_iff.mpr
    intro e he hname
    apply h
    exact List.mem_map.mpr ⟨e, he, of_decide_eq_true hname⟩
  unfold lookup
  rw [hfilter]

/-- The one field of a variant, where the map does not have it. -/
theorem variantFields_of_notMem {c : Content} {name : String}
    (h : name ∉ c.keys) {fields : List (Option Content)}
    (hfields : variantFields [name] c = some fields) : fields = [none] := by
  cases c with
  | map entries =>
      have hread : [name].mapM (lookup entries) = some fields := hfields
      rw [List.mapM_cons, lookup_of_notMem h] at hread
      exact (Option.some.inj hread).symm
  | _ => cases hfields

-- ================================================================= values

/-- `String`: text, or bytes that are text. -/
def string : Content → Option String
  | .str s => some s
  | .bytes b => String.fromUTF8? ⟨b.toArray⟩
  | _ => none

/-- `i64`. -/
def int64 : Content → Option Int
  | .int i => if -2 ^ 63 ≤ i ∧ i < 2 ^ 63 then some i else none
  | _ => none

/-- `Vec`. -/
def vec {α : Type} (read : Content → Option α) : Content → Option (List α)
  | .seq xs => xs.mapM read
  | _ => none

mutual

/-- `serde_json::Value`, read. It has no bytes; a float that is not finite
is its `Null`, and of two entries with one key the later one stays. -/
def readJson : Content → Option Json
  | .unit => some .null
  | .bool b => some (.bool b)
  | .int i => if -2 ^ 63 ≤ i ∧ i < 2 ^ 64 then some (.num i) else none
  | .float (.finite q) => some (.num q)
  | .float _ => some .null
  | .str s => some (.str s)
  | .bytes _ => none
  | .seq xs => (readElements xs).map .arr
  | .map entries =>
      (readMembers entries).map fun ms => .obj (ms.foldl setMember [])

def readElements : List Content → Option (List Json)
  | [] => some []
  | c :: cs =>
      match readJson c, readElements cs with
      | some x, some xs => some (x :: xs)
      | _, _ => none

def readMembers : List (String × Content) → Option (List (String × Json))
  | [] => some []
  | (k, c) :: cs =>
      match readJson c, readMembers cs with
      | some x, some xs => some ((k, x) :: xs)
      | _, _ => none

end

mutual

/-- `serde_json::Value`, written. -/
def writeJson : Json → Content
  | .null => .unit
  | .bool b => .bool b
  | .num q => if q.den = 1 then .int q.num else .float (.finite q)
  | .str s => .str s
  | .arr xs => .seq (writeElements xs)
  | .obj members => .map (writeMembers members)

def writeElements : List Json → List Content
  | [] => []
  | x :: xs => writeJson x :: writeElements xs

def writeMembers : List (String × Json) → List (String × Content)
  | [] => []
  | (k, x) :: xs => (k, writeJson x) :: writeMembers xs

end

end Serde
