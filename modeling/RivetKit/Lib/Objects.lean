/-
Objects of JavaScript, as far as a property is looked up in them: the own
properties, and behind them those of the prototypes, the nearest first.

A property stands with what reading it of the object gives, so a getter
stands with its result.
-/

namespace Js

universe u

/-- An object and its prototypes. -/
structure Object (V : Type u) where
  own : List (String × V)
  prototypes : List (List (String × V)) := []

namespace Object

variable {V : Type u}

/-- `Object.hasOwn(o, key)`. -/
def hasOwn (o : Object V) (key : String) : Bool :=
  (o.own.lookup key).isSome

/-- What the prototypes have under a key. -/
def inherited (o : Object V) (key : String) : Option V :=
  o.prototypes.findSome? fun properties => properties.lookup key

/-- `o[key]`, `none` where that is `undefined` for want of a property. -/
def get (o : Object V) (key : String) : Option V :=
  (o.own :: o.prototypes).findSome? fun properties => properties.lookup key

/-- `key in o`. -/
def has (o : Object V) (key : String) : Bool :=
  (o.own :: o.prototypes).any fun properties =>
    (properties.lookup key).isSome

-- =============================================================== the lookup

/-- What is in an object can be read. -/
theorem has_eq (o : Object V) (key : String) :
    o.has key = (o.get key).isSome := by
  unfold has get
  induction o.own :: o.prototypes with
  | nil => rfl
  | cons properties rest ih =>
      rw [List.any_cons, List.findSome?_cons, ih]
      cases properties.lookup key with
      | none => rfl
      | some v => rfl

/-- The own keys. -/
theorem hasOwn_iff {o : Object V} {key : String} :
    o.hasOwn key = true ↔ key ∈ o.own.map Prod.fst := by
  unfold hasOwn
  rw [List.lookup_isSome_iff, List.mem_map]
  constructor
  · rintro ⟨property, hmem, hkey⟩
    exact ⟨property, hmem, (eq_of_beq hkey).symm⟩
  · rintro ⟨property, hmem, hkey⟩
    exact ⟨property, hmem, beq_iff_eq.2 hkey.symm⟩

/-- Without one the prototypes answer. -/
theorem get_of_not_own {o : Object V} {key : String}
    (h : o.hasOwn key = false) : o.get key = o.inherited key := by
  have hnone : o.own.lookup key = none :=
    Option.not_isSome_iff_eq_none.1 (Bool.not_eq_true _ ▸ h)
  unfold get inherited
  rw [List.findSome?_cons, hnone]

-- ============================================================ plain objects

/-- The names of the functions of `Object.prototype`. -/
def prototypeFunctions : List String :=
  ["constructor", "__defineGetter__", "__defineSetter__", "hasOwnProperty",
    "__lookupGetter__", "__lookupSetter__", "isPrototypeOf",
    "propertyIsEnumerable", "toString", "valueOf", "toLocaleString"]

/-- `Object.prototype`: its functions, and `__proto__`, which gives an
object its prototype. -/
def objectPrototype (native : String → V) (proto : V) : List (String × V) :=
  ("__proto__", proto) ::
    prototypeFunctions.map fun name => (name, native name)

/-- An object as `{}` makes it, with the properties that it was given. -/
def plain (native : String → V) (proto : V) (own : List (String × V)) :
    Object V :=
  { own, prototypes := [objectPrototype native proto] }

/-- The lookup of a key in a list of values by name. -/
theorem lookup_map_name (native : String → V) (names : List String)
    (key : String) :
    (names.map fun name => (name, native name)).lookup key
      = if key ∈ names then some (native key) else none := by
  induction names with
  | nil => rfl
  | cons name names ih =>
      rw [List.map_cons, List.lookup_cons, ih]
      by_cases h : key = name
      · rw [h]
        simp
      · simp [beq_eq_false_iff_ne.2 h, h]

/-- What a plain object inherits. -/
theorem inherited_plain (native : String → V) (proto : V)
    (own : List (String × V)) (key : String) :
    (plain native proto own).inherited key
      = if key = "__proto__" then some proto
        else if key ∈ prototypeFunctions then some (native key) else none := by
  unfold plain inherited objectPrototype
  rw [List.findSome?_cons, List.lookup_cons]
  by_cases h : key = "__proto__"
  · simp [h]
  · rw [beq_eq_false_iff_ne.2 h, if_neg h]
    dsimp only
    rw [lookup_map_name]
    by_cases hmem : key ∈ prototypeFunctions
    · rw [if_pos hmem]
    · rw [if_neg hmem]
      rfl

end Object

end Js
