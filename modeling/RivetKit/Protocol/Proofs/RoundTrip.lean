/-
The wire round trip: what `deserializeWithEncoding` makes of what
`serializeWithEncoding` wrote is the message.

The cbor and bare paths hand the message to a codec and keep whatever
that codec keeps. The json path has a replacer on the way out and no
reviver on the way back: a `bigint` returns as a string, and a byte
payload as an empty object (`wireRoundTrip_fails`).
-/
import RivetKit.Lib.Decimal
import RivetKit.Lib.Proofs.Json
import RivetKit.Protocol.Schema
import RivetKit.Protocol.Serde

namespace RivetKit.Protocol

open Js
open Common

-- ==================================================== statement vocabulary

/-- The message comes back equal. -/
def WireRoundTrip (platform : Platform) (bare : GeneratedCode) (encoding : Encoding)
    (m : Message) : Prop :=
  ∃ data, serializeWithEncoding platform encoding m.toValue (m.handler bare)
      = some data
    ∧ deserializeWithEncoding platform encoding data (m.handler bare)
      = some m.toValue

/-- cbor-x and the generated code bring this message back. -/
structure CodecsRoundTrip (platform : Platform) (bare : GeneratedCode)
    (m : Message) : Prop where
  cbor : ∃ bytes, platform.cborEncode m.toValue = some bytes
    ∧ platform.cborDecode bytes = some m.toValue
  bare : ∃ bytes, (m.codec bare).encode m.toValue = some bytes
    ∧ (m.codec bare).decode bytes = some m.toValue

/-- The message has no byte payload and no 64-bit integer. -/
def Message.Plain : Message → Prop
  | .toServer ⟨.actionRequest _⟩ => False
  | .toServer ⟨.subscriptionRequest _⟩ => True
  | .toClient ⟨.init _⟩ => True
  | .toClient ⟨.error e⟩ => e.metadata = none ∧ e.actionId = none
  | .toClient ⟨.actionResponse _⟩ => False
  | .toClient ⟨.event _⟩ => False
  | .httpActionRequest _ => False
  | .httpActionResponse _ => False
  | .httpResponseError e => e.metadata = none
  | .httpResolveResponse _ => True

-- ============================================================ binary paths

/-- Every handler is `versionedHandler` of its codec. -/
theorem handler_eq (bare : GeneratedCode) (m : Message) :
    m.handler bare = versionedHandler (m.codec bare) := by
  cases m <;> rfl

/-- The bare path keeps what the generated code keeps. -/
theorem roundTrip_bare {platform : Platform} {bare : GeneratedCode}
    {m : Message}
    (h : ∃ bytes, (m.codec bare).encode m.toValue = some bytes
      ∧ (m.codec bare).decode bytes = some m.toValue) :
    WireRoundTrip platform bare .bare m := by
  obtain ⟨bytes, hencode, hdecode⟩ := h
  have hserialize : (m.handler bare).serializeVersion m.toValue
      = some bytes := by
    rw [handler_eq]
    exact hencode
  obtain ⟨wire, hout, hback⟩ := deserialize_serialize _ hserialize
  refine ⟨.binary wire, ?_, ?_⟩
  · show ((m.handler bare).serializeWithEmbeddedVersion m.toValue).map _ = _
    rw [hout]
    rfl
  · show (m.handler bare).deserializeWithEmbeddedVersion wire = _
    rw [hback, handler_eq]
    exact hdecode

/-- The cbor path keeps what cbor-x keeps. -/
theorem roundTrip_cbor {platform : Platform} {bare : GeneratedCode}
    {m : Message}
    (h : ∃ bytes, platform.cborEncode m.toValue = some bytes
      ∧ platform.cborDecode bytes = some m.toValue) :
    WireRoundTrip platform bare .cbor m := by
  obtain ⟨bytes, hencode, hdecode⟩ := h
  refine ⟨.binary bytes, ?_, hdecode⟩
  show (platform.cborEncode m.toValue).map _ = _
  rw [hencode]
  rfl

-- ================================================================ json path

/-- What the json path writes of a message, a valid JSON value: the kinds
and their optional fields are gone through, and the names in each object
differ. -/
theorem toJson_message (m : Message) :
    ∃ x, m.toValue.toJson compatReplacer = some (some x) ∧ x.Valid := by
  rcases m with ⟨_ | _⟩
    | ⟨_ | ⟨_, _, _ | _, _ | _⟩ | _ | _⟩ | _ | _ | ⟨_, _, _ | _⟩ | _
  all_goals exact ⟨_, rfl, by simp [Json.Valid, MembersValid]⟩

/-- The plain messages are the JSON values. -/
theorem plain_iff_isJson (m : Message) : m.Plain ↔ m.toValue.IsJson := by
  rcases m with ⟨_ | _⟩
    | ⟨_ | ⟨_, _, _ | _, _ | _⟩ | _ | _⟩ | _ | _ | ⟨_, _, _ | _⟩ | _
  all_goals
    simp [Message.Plain, Message.toValue, ToServer.toValue,
      ActionRequest.toValue, SubscriptionRequest.toValue, ToClient.toValue,
      Init.toValue, Error.toValue, ActionResponse.toValue, Event.toValue,
      HttpActionRequest.toValue, HttpActionResponse.toValue,
      HttpResponseError.toValue, HttpResolveResponse.toValue, union, uint,
      optional, Value.IsJson, MembersAreJson]

/-- The json path brings back exactly the plain messages. -/
theorem roundTrip_json_iff {platform : Platform} {bare : GeneratedCode}
    {m : Message} :
    WireRoundTrip platform bare .json m ↔ m.Plain := by
  obtain ⟨x, hx, hvalid⟩ := toJson_message m
  have htext : jsonStringifyCompat platform m.toValue
      = some (some (String.ofList (x.print platform.number))) := by
    unfold jsonStringifyCompat stringify
    rw [hx]
  have hback : jsonParse platform (String.ofList (x.print platform.number))
        = some m.toValue ↔ m.Plain := by
    rw [plain_iff_isJson]
    exact parse_stringify_iff hx hvalid
  have hout : serializeWithEncoding platform .json m.toValue (m.handler bare)
      = some (.text (String.ofList (x.print platform.number))) := by
    unfold serializeWithEncoding
    dsimp only
    rw [htext]
  constructor
  · rintro ⟨data, hdata, hreturn⟩
    rw [hout] at hdata
    injection hdata with hdata
    rw [← hdata] at hreturn
    exact hback.mp hreturn
  · intro hplain
    exact ⟨_, hout, hback.mpr hplain⟩

-- ============================================================= the result

/-- A message comes back equal exactly if it is not sent as json, or has
no byte payload and no 64-bit integer. -/
theorem wireRoundTrip_iff {platform : Platform} {bare : GeneratedCode}
    {encoding : Encoding} {m : Message}
    (h : CodecsRoundTrip platform bare m) :
    WireRoundTrip platform bare encoding m ↔ encoding ≠ .json ∨ m.Plain := by
  cases encoding with
  | json =>
      rw [roundTrip_json_iff]
      simp
  | cbor =>
      have hcbor := @roundTrip_cbor platform bare m h.cbor
      simp [hcbor]
  | bare =>
      have hbare := @roundTrip_bare platform bare m h.bare
      simp [hbare]

/-- A platform whose cbor-x knows one value and its bytes. -/
def singlePlatform (v : Value) (bytes : List UInt8) : Platform where
  number := .decimal
  cborEncode := fun _ => some bytes
  cborDecode := fun b => if b = bytes then some v else none
  textDecode := fun _ => ""

/-- The response that resolves to the actor `a`. -/
def resolveResponse : Message := .httpResolveResponse ⟨"a"⟩

/-- A resolve response has nothing that json loses. -/
theorem wireRoundTrip_iff_resolve :
    WireRoundTrip
      (singlePlatform resolveResponse.toValue
        [0xb9, 0, 1, 0x67, 0x61, 0x63, 0x74, 0x6f, 0x72, 0x49, 0x64,
          0x61, 0x61]) schemaBare .json resolveResponse := by
  refine (wireRoundTrip_iff ?_).mpr (.inr trivial)
  exact ⟨⟨_, rfl, rfl⟩, schemaBare_roundTrip _⟩

/-- An action request whose arguments are one byte: json returns an empty
object for them. -/
theorem wireRoundTrip_fails :
    ¬ ∀ (platform : Platform) (bare : GeneratedCode) (encoding : Encoding)
        (m : Message), CodecsRoundTrip platform bare m →
        WireRoundTrip platform bare encoding m := by
  intro hall
  have hrequest := hall
    (singlePlatform (HttpActionRequest.toValue ⟨[0x80]⟩)
      [0xb9, 0, 1, 0x64, 0x61, 0x72, 0x67, 0x73, 0x41, 0x80])
    schemaBare .json (.httpActionRequest ⟨[0x80]⟩)
    ⟨⟨_, rfl, rfl⟩, schemaBare_roundTrip _⟩
  exact roundTrip_json_iff.mp hrequest

end RivetKit.Protocol
