/-
What one end of a connection reads of what the other end sent.

Under cbor and bare that is the message. Under json it is the message
with its ids as digits and its byte payloads as empty objects: the ids
still tell the calls apart, and the arguments no longer decode, so the
server answers every request with an error.
-/
import RivetKit.Client.ActorConn
import RivetKit.Protocol.Proofs.RoundTrip

namespace RivetKit.Client

open Js
open Common
open Protocol

variable {env : Setup}

-- ============================================================ the codecs

/-- What is relied on: the codec that the encoding uses brings messages
back, and cbor-x does not decode an empty input. -/
def Setup.Faithful (env : Setup) : Prop :=
  match env.encoding with
  | .json => env.platform.cborDecode [] = none
  | .cbor => ∀ m : Message, ∃ bytes,
      env.platform.cborEncode m.toValue = some bytes
      ∧ env.platform.cborDecode bytes = some m.toValue
  | .bare => ∀ m : Message, ∃ bytes,
      (m.codec env.bare).encode m.toValue = some bytes
      ∧ (m.codec env.bare).decode bytes = some m.toValue

/-- What arrives of a `uint`. -/
def Setup.arrivedUint (env : Setup) (n : UInt64) : Value :=
  match env.encoding with
  | .json => .str (n.toNat : Int).repr
  | _ => uint n

/-- What arrives of a byte payload. -/
def Setup.arrivedBytes (env : Setup) (b : List UInt8) : Value :=
  match env.encoding with
  | .json => .obj []
  | _ => .bytes b

/-- `v` is sent, and arrives as `w`. -/
def Delivers (env : Setup) (handler : VersionedDataConfig Value)
    (v w : Value) : Prop :=
  ∃ data, serializeWithEncoding env.platform env.encoding v handler
      = some data
    ∧ deserializeWithEncoding env.platform env.encoding data handler
      = some w

/-- Under json, what arrives is what the text stands for. -/
theorem delivers_json {handler : VersionedDataConfig Value} {v : Value}
    {x : Json} (hjson : env.encoding = .json)
    (hx : v.toJson compatReplacer = some (some x)) (hvalid : x.Valid) :
    Delivers env handler v x.toValue := by
  unfold Delivers
  rw [hjson]
  refine ⟨.text (String.ofList (x.print env.platform.number)), ?_, ?_⟩
  · unfold serializeWithEncoding jsonStringifyCompat stringify
    rw [hx]
  · show (parse env.platform.number _).map Json.toValue = _
    rw [parse_print hvalid]
    rfl

/-- Under cbor and bare, a message arrives as it is. -/
theorem delivers_message (h : env.Faithful) (hbinary : env.encoding ≠ .json)
    (m : Message) : Delivers env (m.handler env.bare) m.toValue m.toValue := by
  unfold Delivers
  unfold Setup.Faithful at h
  cases hencoding : env.encoding with
  | json => exact absurd hencoding hbinary
  | cbor =>
      rw [hencoding] at h
      exact roundTrip_cbor (h m)
  | bare =>
      rw [hencoding] at h
      exact roundTrip_bare (h m)

-- =========================================================== the messages

/-- The value of an action request. -/
def actionRequest (id : Value) (name : String) (args : Value) : Value :=
  .obj [("body", union "ActionRequest"
    (.obj [("id", id), ("name", .str name), ("args", args)]))]

theorem delivers_request (h : env.Faithful) (id : UInt64) (name : String)
    (args : List UInt8) :
    Delivers env (toServerVersioned env.bare)
      (actionRequest (uint id) name (.bytes args))
      (actionRequest (env.arrivedUint id) name (env.arrivedBytes args)) := by
  by_cases hjson : env.encoding = .json
  · unfold Setup.arrivedUint Setup.arrivedBytes
    rw [hjson]
    exact delivers_json (x := .obj [("body", .obj [("tag", .str
        "ActionRequest"), ("val", .obj [("id", .str (id.toNat : Int).repr),
        ("name", .str name), ("args", .obj [])])])])
      hjson rfl (by simp [Json.Valid, MembersValid])
  · have hid : env.arrivedUint id = uint id := by
      unfold Setup.arrivedUint
      split <;> simp_all
    have hargs : env.arrivedBytes args = .bytes args := by
      unfold Setup.arrivedBytes
      split <;> simp_all
    rw [hid, hargs]
    exact delivers_message h hjson
      (.toServer ⟨.actionRequest ⟨id, name, args⟩⟩)

theorem delivers_output (h : env.Faithful) (hbinary : env.encoding ≠ .json)
    (id : UInt64) (output : List UInt8) :
    Delivers env (toClientVersioned env.bare)
      (actionResponse (uint id) (.bytes output))
      (actionResponse (uint id) (.bytes output)) :=
  delivers_message h hbinary
    (.toClient ⟨.actionResponse ⟨id, output⟩⟩)

/-- The error response to a request, by the id that arrived with it. -/
theorem delivers_error (h : env.Faithful) (id : UInt64) (e : ServerError) :
    Delivers env (toClientVersioned env.bare)
      (ActorConn.replyValue (env.arrivedUint id) (.error e))
      (errorResponse (env.arrivedUint id) (.str e.code) (.str e.message)
        (env.arrivedBytes e.metadata)) := by
  by_cases hjson : env.encoding = .json
  · unfold Setup.arrivedUint Setup.arrivedBytes
    rw [hjson]
    exact delivers_json (x := .obj [("body", .obj [("tag", .str "Error"),
        ("val", .obj [("code", .str e.code), ("message", .str e.message),
        ("metadata", .obj []), ("actionId", .str (id.toNat : Int).repr)])])])
      hjson rfl (by simp [Json.Valid, MembersValid])
  · have hid : env.arrivedUint id = uint id := by
      unfold Setup.arrivedUint
      split <;> simp_all
    have hmetadata : env.arrivedBytes e.metadata = .bytes e.metadata := by
      unfold Setup.arrivedBytes
      split <;> simp_all
    rw [hid, hmetadata]
    exact delivers_message h hjson (.toClient ⟨.error
      ⟨e.code, e.message, some e.metadata, some id⟩⟩)

theorem delivers_init (h : env.Faithful) (init : Protocol.Init) :
    Delivers env (toClientVersioned env.bare)
      (ToClient.toValue ⟨.init init⟩) (ToClient.toValue ⟨.init init⟩) := by
  by_cases hjson : env.encoding = .json
  · exact delivers_json (x := .obj [("body", .obj [("tag", .str "Init"),
        ("val", .obj [("actorId", .str init.actorId),
        ("connectionId", .str init.connectionId),
        ("connectionToken", .str init.connectionToken)])])])
      hjson rfl (by simp [Json.Valid, MembersValid])
  · exact delivers_message h hjson (.toClient ⟨.init init⟩)

end RivetKit.Client
