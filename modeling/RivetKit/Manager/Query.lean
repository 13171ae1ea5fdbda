/-
Actor queries (manager/protocol/query.ts).

A query is a JavaScript value: the schema gives an object with the one
member of the alternative that fits, and two routes use the client's JSON
as it is.
-/
import RivetKit.Lib.Text
import Mathlib.Algebra.Order.Ring.Nat

namespace RivetKit.Manager

open Js

/-- `MAX_ACTOR_KEY_SIZE`. -/
def maxActorKeySize : Nat := 128

/-- `s.length`: UTF-16 code units. -/
def utf16Length (s : String) : Nat :=
  (s.toList.map fun c => if c.toNat < 0x10000 then 1 else 2).sum

/-- `z.string()`. -/
def stringSchema : Value → Option Value
  | .str s => some (.str s)
  | _ => none

/-- `ActorKeySchema`. -/
def actorKeySchema : Value → Option Value
  | .arr vs =>
      if vs.all fun
        | .str s => utf16Length s ≤ maxActorKeySize
        | _ => false
      then some (.arr vs) else none
  | _ => none

/-- An object with these members, other members left out. A member whose
schema is `none` is `z.unknown().optional()`, one that is not required
may be absent. -/
def objectSchema (fields : List (String × Bool × (Value → Option Value)))
    (v : Value) : Option Value :=
  match v with
  | .obj members =>
      let parsed := fields.mapM fun field =>
        match members.find? fun m => m.1 = field.1 with
        | some m => (field.2.2 m.2).map fun x => [(field.1, x)]
        | none => if field.2.1 then none else some []
      parsed.map fun parts => .obj parts.flatten
  | _ => none

/-- `CreateRequestSchema`, and `GetOrCreateRequestSchema`. -/
def createRequestSchema : Value → Option Value :=
  objectSchema [("name", true, stringSchema), ("key", true, actorKeySchema),
    ("input", false, some), ("region", false, stringSchema)]

/-- `GetForKeyRequestSchema`. -/
def getForKeyRequestSchema : Value → Option Value :=
  objectSchema [("name", true, stringSchema), ("key", true, actorKeySchema)]

/-- `ActorQuerySchema`: the first alternative that fits. -/
def actorQuerySchema (v : Value) : Option Value :=
  objectSchema [("getForId", true, objectSchema
    [("name", true, stringSchema), ("actorId", true, stringSchema)])] v
  <|> objectSchema [("getForKey", true, getForKeyRequestSchema)] v
  <|> objectSchema [("getOrCreateForKey", true, createRequestSchema)] v
  <|> objectSchema [("create", true, createRequestSchema)] v

end RivetKit.Manager
