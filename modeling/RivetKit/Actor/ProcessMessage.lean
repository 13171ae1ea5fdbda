/-
What `processMessage` (actor/protocol/old.ts) reads of a message.

The message is what `deserializeWithEncoding` gave: of the json and the
cbor encoding any value at all, so every access below can meet one that
is not what its type says.
-/
import RivetKit.Protocol.Serde

namespace RivetKit.Actor

open Js
open Protocol

/-- `v.name`. Of `undefined` and `null` it throws. -/
def memberOf (v : Value) (name : String) : Option Value :=
  match v with
  | .undefined => none
  | .null => none
  | v => some (v.member name)

/-- `v === s`, for a string. -/
def isString (v : Value) (s : String) : Bool :=
  match v with
  | .str t => t = s
  | _ => false

/-- What is asked of the actor. -/
inductive MessageRequest
  | action (id name args : Value)
  | subscription (eventName : Value) (subscribe : Bool)

/-- `cbor.decode(new Uint8Array(argsRaw))`. What the constructor makes of a
value that is no buffer is left to `uint8Array`. -/
def decodeArgs (platform : Platform)
    (uint8Array : Value → Option (List UInt8)) (argsRaw : Value) :
    Option Value :=
  (uint8Array argsRaw).bind platform.cborDecode

/-- `processMessage` up to the call of its handler; `none` where it
throws. -/
def readRequest (platform : Platform)
    (uint8Array : Value → Option (List UInt8)) (message : Value) :
    Option MessageRequest := do
  let body ← memberOf message "body"
  let tag ← memberOf body "tag"
  if isString tag "ActionRequest" then
    let val ← memberOf body "val"
    let id ← memberOf val "id"
    let name ← memberOf val "name"
    let argsRaw ← memberOf val "args"
    let args ← decodeArgs platform uint8Array argsRaw
    some (.action id name args)
  else if isString tag "SubscriptionRequest" then
    let val ← memberOf body "val"
    let eventName ← memberOf val "eventName"
    let subscribe ← memberOf val "subscribe"
    some (.subscription eventName subscribe.truthy)
  else none

/-- A message without a `body` is read as nothing. -/
theorem readRequest_of_notMem {platform : Platform}
    {uint8Array : Value → Option (List UInt8)}
    {members : List (String × Value)} (h : "body" ∉ members.map Prod.fst) :
    readRequest platform uint8Array (.obj members) = none := by
  have hfind : members.find? (fun m => m.1 = "body") = none := by
    apply List.find?_eq_none.mpr
    intro m hm hname
    apply h
    exact List.mem_map.mpr ⟨m, hm, of_decide_eq_true hname⟩
  have hbody : memberOf (.obj members) "body" = some .undefined := by
    simp only [memberOf, Value.member, hfind]
  unfold readRequest
  rw [hbody]
  rfl

end RivetKit.Actor
