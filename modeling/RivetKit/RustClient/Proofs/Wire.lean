/-
The Rust client and the server on the wire: neither reads anything that
the other writes.

# The reason

Everything a Rust client writes is a map with the one key `b`, and
everything it reads has to have that key. Everything the server writes is
an object with the one member `body`, and `processMessage` looks at
nothing else. So whatever the libraries make of the rest of a message, it
is enough that they bring its outer map back as a map with the same keys
(`MapKept`): the server finds no `body` (`toServer_unread`), and the
client no `b` (`toClient_unread`).
-/
import RivetKit.Actor.ProcessMessage
import RivetKit.Lib.Decimal
import RivetKit.Lib.Proofs.Json
import RivetKit.Protocol.Schema
import RivetKit.RustClient.Protocol

namespace RivetKit.RustClient

open Js
open Serde
open Protocol

-- ==================================================== statement vocabulary

/-- A message on its way from one side to the other. -/
inductive WireMessage
  | toServer (m : RustClient.ToServer)
  | toClient (m : Protocol.ToClient)

/-- The same request: the kind, the id, the name and the arguments. -/
def SameRequest : RustClient.ToServer → Actor.MessageRequest → Prop
  | ⟨.actionRequest ar⟩, .action id name args =>
      (id = .num (.ofInt ar.i) ∨ id = .bigint ar.i) ∧ name = .str ar.n
        ∧ args = .arr (elementsToValue ar.a)
  | ⟨.subscriptionRequest sr⟩, .subscription eventName subscribe =>
      eventName = .str sr.e ∧ subscribe = sr.s
  | _, _ => False

variable (platform : Platform) (bare : GeneratedCode) (crates : Crates)
variable (uint8Array : Value → Option (List UInt8))

/-- The same metadata, where there is any. -/
def SameMetadata : Option (List UInt8) → Option Json → Prop
  | none, md => md = none
  | some bytes, none => platform.cborDecode bytes = some .undefined
  | some bytes, some md => platform.cborDecode bytes = some md.toValue

/-- The same message to a client: the kind and the contents. -/
def SameMessage : Protocol.ToClient → RustClient.ToClient → Prop
  | ⟨.init m⟩, ⟨.init n⟩ =>
      n.ai = m.actorId ∧ n.ci = m.connectionId ∧ n.ct = m.connectionToken
  | ⟨.error m⟩, ⟨.error n⟩ =>
      n.c = m.code ∧ n.m = m.message
        ∧ SameMetadata platform m.metadata n.md
        ∧ n.ai = m.actionId.map fun id => (id.toNat : Int)
  | ⟨.actionResponse m⟩, ⟨.actionResponse n⟩ =>
      n.i = m.id.toNat ∧ platform.cborDecode m.output = some n.o.toValue
  | ⟨.event m⟩, ⟨.eventMessage n⟩ =>
      n.n = m.name
        ∧ platform.cborDecode m.args = some (.arr (elementsToValue n.a))
  | _, _ => False

/-- What is sent. -/
def WireMessage.written (encoding : EncodingKind) :
    WireMessage → Option OutputData
  | .toServer m => serialize crates encoding m
  | .toClient m =>
      serializeWithEncoding platform encoding.encoding m.toValue
        (toClientVersioned bare)

/-- The other side reads the same from `data`. -/
def WireMessage.ReadAlike (encoding : EncodingKind) (data : OutputData) :
    WireMessage → Prop
  | .toServer m =>
      ∃ v request,
        deserializeWithEncoding platform encoding.encoding data
            (toServerVersioned bare) = some v
          ∧ Actor.readRequest platform uint8Array v = some request
          ∧ SameRequest m request
  | .toClient m =>
      ∃ n, deserialize crates encoding data = some n
        ∧ SameMessage platform m n

/-- An object and a map with the same keys. -/
def SameKeys (v : Value) (c : Content) : Prop :=
  ∃ members entries, v = .obj members ∧ c = .map entries
    ∧ ∀ k, k ∈ members.map Prod.fst ↔ k ∈ entries.map Prod.fst

/-- What the libraries of the other side make of `data` has the keys of
the message. -/
def MapKept (encoding : EncodingKind) (data : OutputData) :
    WireMessage → Prop
  | .toServer m =>
      ∀ v, deserializeWithEncoding platform encoding.encoding data
          (toServerVersioned bare) = some v → SameKeys v m.serialize
  | .toClient m =>
      ∀ c, content crates encoding data = some c → SameKeys m.toValue c

-- ======================================================= either direction

section

variable {platform : Platform} {bare : GeneratedCode} {crates : Crates}
variable {uint8Array : Value → Option (List UInt8)}
variable {encoding : EncodingKind} {data : OutputData}

/-- `processMessage` finds no request in what a Rust client sends. -/
theorem toServer_unread {m : RustClient.ToServer} {v : Value}
    (h : SameKeys v m.serialize) :
    Actor.readRequest platform uint8Array v = none := by
  obtain ⟨members, entries, hv, hc, hkeys⟩ := h
  have hentries : entries = [("b", m.b.serialize)] := by
    injection hc with hc
    exact hc.symm
  have hbody : "body" ∉ members.map Prod.fst := by
    intro hmem
    have hb := (hkeys "body").mp hmem
    rw [hentries] at hb
    simp at hb
  rw [hv]
  exact Actor.readRequest_of_notMem hbody

/-- A Rust client finds no message in what the server sends. -/
theorem toClient_unread {m : Protocol.ToClient} {c : Content}
    (h : SameKeys m.toValue c) : ToClient.deserialize c = none := by
  obtain ⟨members, entries, hv, hc, hkeys⟩ := h
  have hmembers : members.map Prod.fst = ["body"] := by
    injection hv with hv
    rw [← hv]
    rfl
  have hb : "b" ∉ (Content.map entries).keys := by
    intro hmem
    have hbody := (hkeys "b").mpr hmem
    rw [hmembers] at hbody
    simp at hbody
  rw [hc]
  cases hfields : variantFields ["b"] (.map entries) with
  | none =>
      unfold ToClient.deserialize
      rw [structFields_map, hfields]
  | some fields =>
      have hnone := variantFields_of_notMem hb hfields
      unfold ToClient.deserialize
      rw [structFields_map, hfields, hnone]
      rfl

-- ============================================================= the result

/-- No message of either side is read by the other as what it is. -/
theorem wire_never_readAlike {m : WireMessage}
    (hdata : m.written platform bare crates encoding = some data)
    (hkept : MapKept platform bare crates encoding data m) :
    ¬ m.ReadAlike platform bare crates uint8Array encoding data := by
  intro hread
  cases m with
  | toServer m =>
      obtain ⟨v, request, hv, hrequest, hsame⟩ := hread
      have hnone : Actor.readRequest platform uint8Array v = none :=
        toServer_unread (hkept v hv)
      rw [hnone] at hrequest
      cases hrequest
  | toClient m =>
      obtain ⟨n, hn, hsame⟩ := hread
      unfold deserialize at hn
      cases hc : content crates encoding data with
      | none =>
          rw [hc] at hn
          cases hn
      | some c =>
          have hnone : ToClient.deserialize c = none :=
            toClient_unread (hkept c hc)
          rw [hc] at hn
          have hread : ToClient.deserialize c = some n := hn
          rw [hnone] at hread
          cases hread

end

-- ============================================================== one message

/-- A subscription to the event `a`. -/
def subscribe : RustClient.ToServer :=
  ⟨.subscriptionRequest { e := "a", s := true }⟩

/-- The same, as JSON. -/
def subscribeJson : Json :=
  .obj [("b", .obj [("sr", .obj [("e", .str "a"), ("s", .bool true)])])]

/-- The text of `subscribe`. -/
def subscribeText : String :=
  String.ofList (subscribeJson.print .decimal)

/-- The libraries, as far as that message needs them. -/
def subscribePlatform : Platform where
  number := .decimal
  cborEncode := fun _ => none
  cborDecode := fun _ => none
  textDecode := fun _ => ""

def subscribeCrates : Crates where
  jsonToString := fun _ => some subscribeText
  jsonFromStr := fun _ => none
  jsonFromSlice := fun _ => none
  cborToVec := fun _ => none
  cborFromSlice := fun _ => none
  base64Decode := fun _ => none

/-- The server's `JSON.parse` has the value that was written. -/
theorem parse_subscribe :
    deserializeWithEncoding subscribePlatform .json (.text subscribeText)
      (toServerVersioned schemaBare) = some subscribeJson.toValue := by
  have hvalid : subscribeJson.Valid := by
    simp [subscribeJson, Json.Valid, MembersValid]
  show (parse .decimal subscribeText).map Json.toValue = _
  unfold subscribeText
  rw [parse_print hvalid]
  rfl

/-- It has the keys of the message. -/
theorem subscribe_sameKeys :
    SameKeys subscribeJson.toValue subscribe.serialize :=
  ⟨_, _, rfl, rfl, fun _ => Iff.rfl⟩

/-- The subscription arrives as it was written, and is not read. -/
theorem wire_never_readAlike_subscribe :
    ¬ (WireMessage.toServer subscribe).ReadAlike subscribePlatform schemaBare
      subscribeCrates (fun _ => none) .json (.text subscribeText) := by
  apply wire_never_readAlike
  · rfl
  · intro v hv
    have hparse : some v = some subscribeJson.toValue :=
      hv.symm.trans parse_subscribe
    rw [Option.some.inj hparse]
    exact subscribe_sameKeys

/-- A Rust client subscribes to an event: the server parses exactly what
was written and has no request for it. -/
theorem subscribe_lost :
    (WireMessage.toServer subscribe).written subscribePlatform schemaBare
        subscribeCrates .json = some (.text subscribeText)
      ∧ deserializeWithEncoding subscribePlatform .json (.text subscribeText)
          (toServerVersioned schemaBare) = some subscribeJson.toValue
      ∧ ¬ (WireMessage.toServer subscribe).ReadAlike subscribePlatform
          schemaBare subscribeCrates (fun _ => none) .json
          (.text subscribeText) := by
  refine ⟨rfl, parse_subscribe, ?_⟩
  intro hread
  obtain ⟨v, request, hv, hrequest, hsame⟩ := hread
  have hparse : some v = some subscribeJson.toValue :=
    hv.symm.trans parse_subscribe
  have hnone : Actor.readRequest subscribePlatform (fun _ => none) v = none := by
    rw [Option.some.inj hparse]
    exact toServer_unread subscribe_sameKeys
  rw [hnone] at hrequest
  cases hrequest

end RivetKit.RustClient
