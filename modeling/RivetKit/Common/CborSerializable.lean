/-
`isCborSerializable` (common/utils.ts), over the values that a state can
have in it.

# The values

A state is a tree here: an object that is at two places, or inside itself,
is not represented. A string is its UTF-16 code units, so that it may have
half a surrogate pair; a property's name has none. An object's members are
those that `for (… in …)` goes through. A `Date`, a `RegExp`, an `Error` and
a typed array are one kind of value: they are accepted as they are. A hole
of an array reads as `undefined`.

# The path

`onInvalid` is called once at most, with the path of the first part that
is rejected. The text of a map's key, `String(key)`, is a parameter.
-/
import RivetKit.Lib.Js

namespace RivetKit.Common

open Js

-- ============================================================== the values

/-- A value that a program may put in a state. -/
inductive StateValue
  | undefined
  | null
  | bool (b : Bool)
  | num (n : Number)
  | bigint (i : Int)
  | str (units : List UInt16)
  | symbol (description : String)
  | function
  | builtin
  | map (entries : List (StateValue × StateValue))
  | set (items : List StateValue)
  | array (items : List StateValue)
  | object (members : List (String × StateValue))

/-- `Number.isFinite`. -/
def Number.isFinite : Number → Bool
  | .finite _ => true
  | _ => false

-- =============================================================== the check

/-- `currentPath ? currentPath.part : part`. -/
def joinPath (currentPath part : String) : String :=
  if currentPath = "" then part else currentPath ++ "." ++ part

/-- The path of an element of a `Set`. -/
def setPath (currentPath : String) (index : Nat) : String :=
  joinPath currentPath ("set[" ++ toString index ++ "]")

/-- The path of an element of an array. -/
def arrayPath (currentPath : String) (index : Nat) : String :=
  currentPath ++ "[" ++ toString index ++ "]"

section

variable (keyText : StateValue → String)

mutual

/-- `isCborSerializable`, by the path that it calls `onInvalid` with; `none`
where it returns `true`. -/
def findInvalid : StateValue → String → Option String
  | .num n, currentPath => if Number.isFinite n then none else some currentPath
  | .symbol _, currentPath => some currentPath
  | .function, currentPath => some currentPath
  | .map entries, currentPath => findInvalidEntry currentPath entries
  | .set items, currentPath => findInvalidItem (setPath currentPath) 0 items
  | .array items, currentPath =>
      findInvalidItem (arrayPath currentPath) 0 items
  | .object members, currentPath => findInvalidMember currentPath members
  | _, _ => none

/-- The loop over the entries of a `Map`, a key before its value. -/
def findInvalidEntry (currentPath : String) :
    List (StateValue × StateValue) → Option String
  | [] => none
  | (key, val) :: entries =>
      let text := keyText key
      match findInvalid key (joinPath currentPath ("key(" ++ text ++ ")")) with
      | some path => some path
      | none =>
          match findInvalid val
              (joinPath currentPath ("value(" ++ text ++ ")")) with
          | some path => some path
          | none => findInvalidEntry currentPath entries

/-- The loop over the elements of a `Set` or an array, from the index
`i`. -/
def findInvalidItem (itemPath : Nat → String) :
    Nat → List StateValue → Option String
  | _, [] => none
  | i, item :: items =>
      match findInvalid item (itemPath i) with
      | some path => some path
      | none => findInvalidItem itemPath (i + 1) items

/-- The loop over the properties of an object. -/
def findInvalidMember (currentPath : String) :
    List (String × StateValue) → Option String
  | [] => none
  | (key, val) :: members =>
      match findInvalid val (joinPath currentPath key) with
      | some path => some path
      | none => findInvalidMember currentPath members

end

/-- `isCborSerializable(value)`. -/
def isCborSerializable (value : StateValue) : Bool :=
  (findInvalid keyText value "").isNone

-- ============================================================ what it means

/-- `onInvalid` is not called, whatever the path. -/
def Serializable (value : StateValue) : Prop :=
  ∀ currentPath, findInvalid keyText value currentPath = none

variable {keyText}

/-- The check of a list of elements. -/
theorem findInvalidItem_eq_none {itemPath : Nat → String}
    {items : List StateValue} : ∀ {i : Nat},
      (∀ item ∈ items, Serializable keyText item) →
        findInvalidItem keyText itemPath i items = none := by
  induction items with
  | nil => exact fun _ => rfl
  | cons item items ih =>
      intro i h
      obtain ⟨hitem, hitems⟩ := List.forall_mem_cons.1 h
      unfold findInvalidItem
      rw [hitem (itemPath i)]
      exact ih hitems

theorem findInvalidMember_eq_none {currentPath : String}
    {members : List (String × StateValue)}
    (h : ∀ m ∈ members, Serializable keyText m.2) :
    findInvalidMember keyText currentPath members = none := by
  induction members with
  | nil => rfl
  | cons m members ih =>
      obtain ⟨hm, hmembers⟩ := List.forall_mem_cons.1 h
      unfold findInvalidMember
      rw [hm (joinPath currentPath m.1)]
      exact ih hmembers

theorem findInvalidEntry_eq_none {currentPath : String}
    {entries : List (StateValue × StateValue)}
    (h : ∀ e ∈ entries, Serializable keyText e.1 ∧ Serializable keyText e.2) :
    findInvalidEntry keyText currentPath entries = none := by
  induction entries with
  | nil => rfl
  | cons e entries ih =>
      obtain ⟨⟨hkey, hval⟩, hentries⟩ := List.forall_mem_cons.1 h
      unfold findInvalidEntry
      dsimp only
      rw [hkey (joinPath currentPath ("key(" ++ keyText e.1 ++ ")"))]
      dsimp only
      rw [hval (joinPath currentPath ("value(" ++ keyText e.1 ++ ")"))]
      exact ih hentries

mutual

/-- Whether a value is accepted does not depend on its path. -/
theorem serializable_of_none : ∀ (value : StateValue) {currentPath : String},
    findInvalid keyText value currentPath = none → Serializable keyText value
  | .undefined, _, _ => fun _ => rfl
  | .null, _, _ => fun _ => rfl
  | .bool _, _, _ => fun _ => rfl
  | .num n, _, h => by
      intro currentPath
      unfold findInvalid at h ⊢
      split at h
      case isTrue hfinite => rw [if_pos hfinite]
      case isFalse => cases h
  | .bigint _, _, _ => fun _ => rfl
  | .str _, _, _ => fun _ => rfl
  | .symbol _, _, h => by cases h
  | .function, _, h => by cases h
  | .builtin, _, _ => fun _ => rfl
  | .map entries, _, h => by
      intro currentPath
      exact findInvalidEntry_eq_none (entries_of_none entries h)
  | .set items, _, h => by
      intro currentPath
      exact findInvalidItem_eq_none (items_of_none items h)
  | .array items, _, h => by
      intro currentPath
      exact findInvalidItem_eq_none (items_of_none items h)
  | .object members, _, h => by
      intro currentPath
      exact findInvalidMember_eq_none (members_of_none members h)

theorem entries_of_none : ∀ (entries : List (StateValue × StateValue))
    {currentPath : String},
    findInvalidEntry keyText currentPath entries = none →
      ∀ e ∈ entries, Serializable keyText e.1 ∧ Serializable keyText e.2
  | [], _, _ => fun _ h => absurd h List.not_mem_nil
  | (key, val) :: entries, currentPath, h => by
      unfold findInvalidEntry at h
      dsimp only at h
      split at h
      · cases h
      · rename_i hkey
        split at h
        · cases h
        · rename_i hval
          exact List.forall_mem_cons.2
            ⟨⟨serializable_of_none key hkey, serializable_of_none val hval⟩,
              entries_of_none entries h⟩

theorem items_of_none : ∀ (items : List StateValue)
    {itemPath : Nat → String} {i : Nat},
    findInvalidItem keyText itemPath i items = none →
      ∀ item ∈ items, Serializable keyText item
  | [], _, _, _ => fun _ h => absurd h List.not_mem_nil
  | item :: items, itemPath, i, h => by
      unfold findInvalidItem at h
      split at h
      · cases h
      · rename_i hitem
        exact List.forall_mem_cons.2
          ⟨serializable_of_none item hitem, items_of_none items h⟩

theorem members_of_none : ∀ (members : List (String × StateValue))
    {currentPath : String},
    findInvalidMember keyText currentPath members = none →
      ∀ m ∈ members, Serializable keyText m.2
  | [], _, _ => fun _ h => absurd h List.not_mem_nil
  | (key, val) :: members, currentPath, h => by
      unfold findInvalidMember at h
      split at h
      · cases h
      · rename_i hval
        exact List.forall_mem_cons.2
          ⟨serializable_of_none val hval, members_of_none members h⟩

end

/-- So the check decides it. -/
theorem isCborSerializable_iff {value : StateValue} :
    isCborSerializable keyText value = true ↔ Serializable keyText value := by
  unfold isCborSerializable
  rw [Option.isNone_iff_eq_none]
  constructor
  · exact serializable_of_none value
  · exact fun h => h ""

/-- An array is accepted if its elements are, -/
theorem serializable_array {items : List StateValue} :
    Serializable keyText (.array items)
      ↔ ∀ item ∈ items, Serializable keyText item := by
  constructor
  · exact fun h => items_of_none items (h "")
  · exact fun h _ => findInvalidItem_eq_none h

/-- and an object if its members are. -/
theorem serializable_object {members : List (String × StateValue)} :
    Serializable keyText (.object members)
      ↔ ∀ m ∈ members, Serializable keyText m.2 := by
  constructor
  · exact fun h => members_of_none members (h "")
  · exact fun h _ => findInvalidMember_eq_none h

end

end RivetKit.Common
