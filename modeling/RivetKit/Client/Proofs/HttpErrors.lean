/-
What the caller of an action throws for an instance of `Error` that is
thrown in the actor.

A request's encoding decides. With bare and cbor an error keeps its code,
its message and its metadata on the wire, and so through any number of
actors that call one another (`nested_error`); with json the bytes of the
metadata are lost, and what the caller throws is the complaint of cbor-x
about them. The last step to a client outside keeps a public error of the
actor's own, and masks everything else, so also a public error that comes
out of a call of another actor (`client_error`).

# Sections

  - one response
  - one call of the inline driver
  - nested calls
  - the client
-/
import RivetKit.Client.HttpCalls
import RivetKit.Manager.Proofs.ErrorsHidden
import RivetKit.Manager.Proofs.ConnParams
import RivetKit.Protocol.Proofs.RoundTrip

namespace RivetKit.Client

open Http
open Js
open Actor
open Manager
open Protocol
open Common

-- ==================================================== statement vocabulary

/-- cbor-x and the generated code bring an error's metadata and its
message back. -/
def Carries (runtime : Runtime) (error : ErrorBody) : Prop :=
  ∃ metadata, runtime.platform.cborEncode error.metadata = some metadata
    ∧ runtime.platform.cborDecode metadata = some error.metadata
    ∧ CodecsRoundTrip runtime.platform runtime.bare
      (errorMessage error metadata)

/-- What is used of `TextDecoder` and of cbor-x on the path of json:
UTF-8 comes back but for a byte order mark, and there is no value in no
bytes. -/
structure ReadsText (runtime : Runtime) : Prop where
  text : ∀ c cs, c ≠ '\uFEFF' →
    runtime.platform.textDecode (Bare.Codec.utf8 (c :: cs))
      = String.ofList (c :: cs)
  empty : runtime.platform.cborDecode [] = none

/-- The client's `ActorError` of a body. -/
def ofBody (error : ErrorBody) : Thrown :=
  clientActorError error.code error.message error.metadata

/-- What `deconstructError` makes of the complaint about no bytes. -/
def lostError (runtime : Runtime) : ErrorBody :=
  { code := internalErrorCode
    message := runtime.cborError []
    metadata := .undefined }

/-- The response to an error is one: an actor's public error does not come
with the status code of a success. -/
def Fails (error : Thrown) : Prop :=
  ∀ e, error = .actorError e → e.isPublic = true →
    ¬(200 ≤ e.statusCode ∧ e.statusCode < 300)

-- =========================================================== one response

section

variable {runtime : Runtime} {error : ErrorBody}

theorem structuredError_toValue {metadata : List UInt8} {v : Value}
    (h : runtime.platform.cborDecode metadata = some v) :
    structuredError runtime (errorMessage error metadata).toValue
      = some (clientActorError error.code error.message v) := by
  simp [structuredError, errorMessage, Message.toValue,
    HttpResponseError.toValue, Value.member, Protocol.optional,
    newUint8Array, Value.truthy, h]

/-- The binary encodings bring a message back. -/
theorem binary_roundTrip {encoding : Encoding} (hencoding : encoding ≠ .json)
    {m : Message} (h : CodecsRoundTrip runtime.platform runtime.bare m) :
    ∃ bytes, serializeWithEncoding runtime.platform encoding m.toValue
        (m.handler runtime.bare) = some (.binary bytes)
      ∧ deserializeWithEncoding runtime.platform encoding (.binary bytes)
        (m.handler runtime.bare) = some m.toValue := by
  cases encoding with
  | json => exact absurd rfl hencoding
  | cbor =>
      obtain ⟨data, hout, hback⟩ := roundTrip_cbor h.cbor
      cases data with
      | binary bytes => exact ⟨bytes, hout, hback⟩
      | text t => cases hback
  | bare =>
      obtain ⟨data, hout, hback⟩ := roundTrip_bare h.bare
      cases data with
      | binary bytes => exact ⟨bytes, hout, hback⟩
      | text t => cases hback

/-- The binary encodings bring the error. -/
theorem sendError_binary {encoding : Encoding} (hencoding : encoding ≠ .json)
    (h : Carries runtime error) {statusCode : Nat}
    (hstatus : ¬(200 ≤ statusCode ∧ statusCode < 300)) :
    ∃ response, sendError runtime { statusCode, encoding, error }
        = some response
      ∧ sendHttpRequestError runtime encoding response
        = some (ofBody error) := by
  obtain ⟨metadata, hencode, hdecode, hcodecs⟩ := h
  obtain ⟨bytes, hout, hback⟩ := binary_roundTrip hencoding hcodecs
  have hserialize : serializeWithEncoding runtime.platform encoding
      (errorMessage error metadata).toValue
      (httpResponseErrorVersioned runtime.bare) = some (.binary bytes) := hout
  have hdeserialize : deserializeWithEncoding runtime.platform encoding
      (.binary bytes) (httpResponseErrorVersioned runtime.bare)
        = some (errorMessage error metadata).toValue := hback
  refine ⟨{ statusCode, body := bytes }, ?_, ?_⟩
  · unfold sendError
    simp only [hencode, hserialize]
    rfl
  · unfold sendHttpRequestError
    rw [if_neg hstatus]
    simp only [hdeserialize]
    exact structuredError_toValue hdecode

/-- The JSON that is written of an error. -/
def errorJson (error : ErrorBody) : Json :=
  .obj [("code", .str error.code), ("message", .str error.message),
    ("metadata", .obj [])]

theorem valid_errorJson (error : ErrorBody) : (errorJson error).Valid := by
  simp [errorJson, Json.Valid, MembersValid]

/-- json brings what cbor-x says of no bytes. -/
theorem sendError_json (htext : ReadsText runtime)
    (h : Carries runtime error) {statusCode : Nat}
    (hstatus : ¬(200 ≤ statusCode ∧ statusCode < 300)) :
    ∃ response, sendError runtime { statusCode, encoding := .json, error }
        = some response
      ∧ sendHttpRequestError runtime .json response
        = some (plainError (runtime.cborError [])) := by
  obtain ⟨metadata, hencode, -, -⟩ := h
  have hjson : (errorMessage error metadata).toValue.toJson compatReplacer
      = some (some (errorJson error)) := rfl
  obtain ⟨cs, hprint⟩ : ∃ cs, (errorJson error).print
      runtime.platform.number = '{' :: cs := ⟨_, rfl⟩
  have hserialize : serializeWithEncoding runtime.platform .json
      (errorMessage error metadata).toValue
      (httpResponseErrorVersioned runtime.bare)
        = some (.text (String.ofList ('{' :: cs))) := by
    simp only [serializeWithEncoding, jsonStringifyCompat, stringify, hjson,
      hprint]
  have hdecoded := htext.text '{' cs (by decide)
  have hparsed : jsonParse runtime.platform (String.ofList ('{' :: cs))
      = some (errorJson error).toValue := by
    unfold jsonParse
    rw [← hprint, parse_print (valid_errorJson error)]
    rfl
  refine ⟨{ statusCode, body := Bare.Codec.utf8 ('{' :: cs) }, ?_, ?_⟩
  · unfold sendError
    simp only [hencode, hserialize, bodyBytes, String.toList_ofList]
  · unfold sendHttpRequestError
    rw [if_neg hstatus]
    simp only [deserializeWithEncoding, hdecoded, hparsed]
    simp [structuredError, errorJson, Json.toValue, membersToValue,
      Value.member, newUint8Array, Value.truthy, htext.empty]

end

-- ============================================ one call of the inline driver

/-- The headers that an inline call sets ask for its encoding, and for
internal errors. -/
theorem inlineHeaders_read {encoding : Encoding} {connParams : Option String}
    {headers : Headers}
    (h : inlineHeaders encoding connParams = some headers) :
    requestEncoding headers = some encoding
      ∧ getRequestExposeInternalError headers = true := by
  have hnames : ([(headerEncoding, encodingText encoding)]
      ++ connParams.toList.map (fun s => (headerConnParams, s))
      ++ [(headerExposeInternalError, "true")]).Pairwise
        fun a b => lowerName a.1 ≠ lowerName b.1 := by
    cases connParams <;> simp
  constructor
  · have hget := Headers.get_setAll
      (e := (headerEncoding, encodingText encoding)) _ h hnames (by simp)
    simp only [(isValue_encodingText encoding).1] at hget
    unfold requestEncoding getRequestEncoding
    simp only [hget, encodingSchema_encodingText]
  · have hget := Headers.get_setAll
      (e := (headerExposeInternalError, "true")) _ h hnames (by simp)
    have hnormal : normalizeValue "true" = "true" := by decide
    simp only [hnormal] at hget
    unfold getRequestExposeInternalError
    simp [hget]

/-- The status code of an error's response. -/
theorem failing_statusCode {error : Thrown} (h : Fails error)
    (expose : Bool) :
    ¬(200 ≤ (deconstructError error expose).statusCode
      ∧ (deconstructError error expose).statusCode < 300) := by
  cases error with
  | other text message stringified =>
      cases expose <;> simp [deconstructError, internalError]
  | actorError e =>
      have hfails := h e rfl
      cases hpublic : e.isPublic with
      | true =>
          have hcode := hfails hpublic
          by_cases hzero : e.statusCode = 0
          · simp [deconstructError, hpublic, hzero]
          · simpa [deconstructError, hpublic, hzero] using hcode
      | false =>
          cases expose <;> simp [deconstructError, hpublic, internalError]

/-- A client's error is not public, so it comes through with its code only
where internal errors are asked for. -/
theorem deconstructError_ofBody (error : ErrorBody) :
    (deconstructError (ofBody error) true).body = error
      ∧ deconstructError (ofBody error) false = internalError :=
  ⟨rfl, rfl⟩

theorem fails_ofBody (error : ErrorBody) : Fails (ofBody error) := by
  intro e he hpublic
  injection he with he
  rw [← he] at hpublic
  cases hpublic

variable {runtime : Runtime}

/-- One call: what it throws. -/
theorem inlineAction_error (htext : ReadsText runtime) {call : InlineCall}
    (hmade : (inlineHeaders call.encoding call.connParams).isSome = true)
    {error : Thrown} (hfails : Fails error)
    (h : Carries runtime (deconstructError error true).body) :
    inlineActionThrows runtime call error
      = some (ofBody (if call.encoding = .json then lostError runtime
          else (deconstructError error true).body)) := by
  obtain ⟨headers, hheaders⟩ := Option.isSome_iff_exists.1 hmade
  obtain ⟨hencoding, hexpose⟩ := inlineHeaders_read hheaders
  have hresponse : handleRouteError true error headers
      = { statusCode := (deconstructError error true).statusCode
          encoding := call.encoding
          error := (deconstructError error true).body } := by
    unfold handleRouteError
    rw [hexpose, hencoding]
    rfl
  have hstatus := failing_statusCode hfails true
  unfold inlineActionThrows
  by_cases hjson : call.encoding = .json
  · obtain ⟨response, hsend, hthrow⟩ := sendError_json htext h hstatus
    rw [if_pos hjson, hheaders]
    simp only [Option.bind_eq_bind, Option.bind_some, hresponse, hjson, hsend,
      hthrow]
    rfl
  · obtain ⟨response, hsend, hthrow⟩ := sendError_binary hjson h hstatus
    rw [if_neg hjson, hheaders]
    simp only [Option.bind_eq_bind, Option.bind_some, hresponse, hsend,
      hthrow]
    rfl

-- ========================================================== nested calls

/-- The calls behind the first. -/
theorem inlineActions_ofBody (htext : ReadsText runtime)
    (hlost : Carries runtime (lostError runtime)) (calls : List InlineCall) :
    ∀ {error : ErrorBody}, Carries runtime error →
      (∀ call ∈ calls,
        (inlineHeaders call.encoding call.connParams).isSome = true) →
      inlineActionsThrow runtime calls (ofBody error)
        = some (ofBody (if ∃ call ∈ calls, call.encoding = .json then
            lostError runtime else error)) := by
  induction calls with
  | nil =>
      intro error _ _
      simp [inlineActionsThrow]
  | cons call calls ih =>
      intro error herror hmade
      rw [List.forall_mem_cons] at hmade
      have hone := inlineAction_error htext hmade.1 (fails_ofBody error)
        herror
      unfold inlineActionsThrow
      rw [hone, Option.bind_some]
      by_cases hjson : call.encoding = .json
      · rw [if_pos hjson, ih hlost hmade.2]
        simp [hjson]
      · rw [if_neg hjson]
        exact (ih herror hmade.2).trans (by simp [hjson])

/-- One call, and those above it. -/
theorem inlineActions_cons (htext : ReadsText runtime) {error : Thrown}
    (hfails : Fails error)
    (h : Carries runtime (deconstructError error true).body)
    (hlost : Carries runtime (lostError runtime)) {call : InlineCall}
    {calls : List InlineCall}
    (hmade : ∀ c ∈ call :: calls,
      (inlineHeaders c.encoding c.connParams).isSome = true) :
    inlineActionsThrow runtime (call :: calls) error
      = some (ofBody (if ∃ c ∈ call :: calls, c.encoding = .json then
          lostError runtime else (deconstructError error true).body)) := by
  rw [List.forall_mem_cons] at hmade
  unfold inlineActionsThrow
  rw [inlineAction_error htext hmade.1 hfails h, Option.bind_some]
  by_cases hjson : call.encoding = .json
  · rw [if_pos hjson, inlineActions_ofBody htext hlost calls hlost hmade.2]
    simp [hjson]
  · rw [if_neg hjson]
    exact (inlineActions_ofBody htext hlost calls h hmade.2).trans
      (by simp [hjson])

/-- What the outermost of nested calls throws: the error of the innermost
actor, unless one of the calls is made in json. -/
theorem nested_error (htext : ReadsText runtime) {error : Thrown}
    (hfails : Fails error)
    (h : Carries runtime (deconstructError error true).body)
    (hlost : Carries runtime (lostError runtime)) {calls : List InlineCall}
    (hcalls : calls ≠ [])
    (hmade : ∀ call ∈ calls,
      (inlineHeaders call.encoding call.connParams).isSome = true) :
    inlineActionsThrow runtime calls error
      = some (ofBody (if ∃ call ∈ calls, call.encoding = .json then
          lostError runtime else (deconstructError error true).body)) := by
  cases calls with
  | nil => exact absurd rfl hcalls
  | cons call calls => exact inlineActions_cons htext hfails h hlost hmade

-- ============================================================ the client

/-- Headers that are set leave the others. -/
theorem get_of_setJson {registry : Registry} {headers headers' : Headers}
    {name other : String} {v : Value} (hname : lowerName other ≠ lowerName name)
    (h : setJson registry headers name v = .ok headers') :
    headers'.get other = headers.get other := by
  cases hv : v.truthy with
  | true => exact (setJson_get registry other hv h).2 hname
  | false =>
      rw [setJson_falsy registry headers name hv] at h
      injection h with h
      rw [h]

theorem encoding_ne_authData :
    lowerName headerEncoding ≠ lowerName headerAuthData := by simp

theorem encoding_ne_connParams :
    lowerName headerEncoding ≠ lowerName headerConnParams := by simp

/-- The encoding that the actor answers in. -/
theorem freshHeaders_encoding {registry : Registry} {authorized : Authorized}
    {headers : Headers}
    (h : freshHeaders registry authorized = .ok headers) :
    headers.get headerEncoding
      = some (encodingText authorized.encoding) := by
  unfold freshHeaders at h
  obtain ⟨encoded, hencoded, h⟩ := bind_ok h
  have hget : encoded.get headerEncoding
      = some (encodingText authorized.encoding) := by
    rw [Headers.get_set (orThrow_ok hencoded) rfl,
      (isValue_encodingText authorized.encoding).1]
  split at h
  · split at h
    · rw [get_of_setJson encoding_ne_authData h]
      exact hget
    · obtain ⟨withParams, hset, h⟩ := bind_ok h
      rw [get_of_setJson encoding_ne_authData h,
        Headers.get_set_of_ne (orThrow_ok hset) encoding_ne_connParams]
      exact hget
  · rw [get_of_setJson encoding_ne_authData h]
    exact hget

/-- What a client's action throws, where the actor's request fails. -/
theorem httpAction_error (htext : ReadsText runtime) {registry : Registry}
    {authorized : Authorized} {headers : Headers}
    (hheaders : freshHeaders registry authorized = .ok headers)
    {error : Thrown} (hfails : Fails error)
    (h : Carries runtime (deconstructError error false).body) :
    httpActionThrows runtime registry authorized error
      = some (if authorized.encoding = .json then
          plainError (runtime.cborError [])
        else ofBody (deconstructError error false).body) := by
  have hexpose : getRequestExposeInternalError headers = false := by
    unfold getRequestExposeInternalError
    rw [exposes_of_freshHeaders registry hheaders]
    rfl
  have hencoding : requestEncoding headers = some authorized.encoding := by
    unfold requestEncoding getRequestEncoding
    simp only [freshHeaders_encoding hheaders, encodingSchema_encodingText]
  have hresponse : handleRouteError true error headers
      = { statusCode := (deconstructError error false).statusCode
          encoding := authorized.encoding
          error := (deconstructError error false).body } := by
    unfold handleRouteError
    rw [hexpose, hencoding]
    rfl
  have hstatus := failing_statusCode hfails false
  unfold httpActionThrows
  by_cases hjson : authorized.encoding = .json
  · obtain ⟨response, hsend, hthrow⟩ := sendError_json htext h hstatus
    rw [if_pos hjson, hheaders]
    simp only [hresponse, hjson, hsend, Option.bind_some, hthrow]
  · obtain ⟨response, hsend, hthrow⟩ := sendError_binary hjson h hstatus
    rw [if_neg hjson, hheaders]
    simp only [hresponse, hsend, Option.bind_some, hthrow]

/-- What a client throws for an error behind any number of calls between
actors. Only the actor's own public errors reach it. -/
theorem client_error (htext : ReadsText runtime) {registry : Registry}
    {authorized : Authorized} {headers : Headers}
    (hheaders : freshHeaders registry authorized = .ok headers)
    {error : Thrown} (hfails : Fails error)
    (h : Carries runtime (deconstructError error true).body)
    (hlost : Carries runtime (lostError runtime))
    (hinternal : Carries runtime internalError.body)
    {calls : List InlineCall} (hmade : ∀ call ∈ calls,
      (inlineHeaders call.encoding call.connParams).isSome = true) :
    (inlineActionsThrow runtime calls error).bind
        (httpActionThrows runtime registry authorized)
      = some (if authorized.encoding = .json then
          plainError (runtime.cborError [])
        else if calls = [] ∧ error.isPublic = true then
          ofBody (deconstructError error true).body
        else ofBody internalError.body) := by
  by_cases hcalls : calls = []
  · subst hcalls
    have hbody : (deconstructError error false).body
        = if error.isPublic = true then (deconstructError error true).body
          else internalError.body := by
      cases error with
      | other text message stringified => rfl
      | actorError e =>
          cases hpublic : e.isPublic <;>
            simp [deconstructError, Thrown.isPublic, hpublic]
    have hcarries : Carries runtime (deconstructError error false).body := by
      rw [hbody]
      split
      · exact h
      · exact hinternal
    rw [inlineActionsThrow, Option.bind_some,
      httpAction_error htext hheaders hfails hcarries, hbody]
    by_cases hpublic : error.isPublic = true <;> simp [hpublic]
  · cases calls with
    | nil => exact absurd rfl hcalls
    | cons call calls =>
        rw [inlineActions_cons htext hfails h hlost hmade, Option.bind_some,
          httpAction_error htext hheaders (fails_ofBody _) hinternal]
        simp [(deconstructError_ofBody _).2]

-- ========================================================== two examples

/-- A text as cbor-x writes it, and the three members of an error. -/
def cborText (s : String) : List UInt8 :=
  let bytes := Bare.Codec.utf8 s.toList
  (if bytes.length < 24 then [UInt8.ofNat (0x60 + bytes.length)]
    else [0x78, UInt8.ofNat bytes.length]) ++ bytes

def cborError (code message : String) (metadata : List UInt8) :
    List UInt8 :=
  [0xb9, 0, 3] ++ cborText "code" ++ cborText code ++ cborText "message"
    ++ cborText message ++ cborText "metadata"
    ++ [UInt8.ofNat (0x40 + metadata.length)] ++ metadata

/-- What cbor-x writes of the values that are encoded here. -/
def cborOf : Value → Option (List UInt8)
  | .undefined => some [0xf7]
  | .obj [] => some [0xb9, 0, 0]
  | .obj [(_, .str code), (_, .str message), (_, .bytes metadata)] =>
      some (cborError code message metadata)
  | _ => none

/-- An error of an action, the complaint of cbor-x, and the error that
masks. -/
def noFunds : ErrorBody :=
  { code := "no_funds", message := "Not enough", metadata := .undefined }

def endOfData : ErrorBody :=
  { code := internalErrorCode, message := "Unexpected end of CBOR data"
    metadata := .undefined }

def knownValues : List Value :=
  [.undefined, .obj [], (errorMessage noFunds [0xf7]).toValue,
    (errorMessage endOfData [0xf7]).toValue,
    (errorMessage internalError.body [0xb9, 0, 0]).toValue]

/-- The libraries, as far as these values need them. -/
def knownRuntime : Runtime where
  platform :=
    { number := .decimal
      cborEncode := cborOf
      cborDecode := fun b => knownValues.find? fun v => cborOf v = some b
      textDecode := fun b =>
        match Bare.Codec.readUtf8 b.length b with
        | some cs => String.ofList cs
        | none => "" }
  bare := schemaBare
  statusText := fun _ => "Bad Request"
  cborError := fun _ => endOfData.message

theorem readsText_known : ReadsText knownRuntime where
  text c cs _ := by
    simp [knownRuntime, Bare.Codec.readUtf8_utf8 (c :: cs) _ (Nat.le_refl _)]
  empty := by decide

theorem carries_known {error : ErrorBody} {metadata : List UInt8}
    (hencode : cborOf error.metadata = some metadata)
    (hdecode : knownRuntime.platform.cborDecode metadata
      = some error.metadata)
    (hmessage : knownRuntime.platform.cborDecode
        (cborError error.code error.message metadata)
      = some (errorMessage error metadata).toValue) :
    Carries knownRuntime error :=
  ⟨metadata, hencode, hdecode, ⟨_, rfl, hmessage⟩, schemaBare_roundTrip _⟩

theorem carries_noFunds : Carries knownRuntime noFunds :=
  @carries_known noFunds [0xf7] rfl rfl rfl

theorem carries_endOfData : Carries knownRuntime endOfData :=
  @carries_known endOfData [0xf7] rfl rfl rfl

theorem carries_internal : Carries knownRuntime internalError.body :=
  @carries_known internalError.body [0xb9, 0, 0] rfl rfl rfl

/-- A public error of an action. -/
def noFundsError : Thrown :=
  .actorError (publicError noFunds.code noFunds.message)

theorem fails_noFunds : Fails noFundsError := by
  intro e he _
  injection he with he
  rw [← he]
  decide

/-- Two calls above each other, the outer one in bare. -/
theorem nested_error_noFunds :
    inlineActionsThrow knownRuntime
        [{ encoding := .cbor, connParams := some "{}" }, { encoding := .bare }]
        noFundsError
      = some (ofBody noFunds) := by
  refine (@nested_error knownRuntime readsText_known noFundsError
    fails_noFunds carries_noFunds carries_endOfData _ (by simp) ?_).trans ?_
  · intro call hcall
    simp only [List.mem_cons, List.not_mem_nil, or_false] at hcall
    rcases hcall with rfl | rfl <;> decide
  · simp
    rfl

/-- The actor that a client calls in cbor. -/
def cborCall : Authorized :=
  { encoding := .cbor
    connParamsRaw := none
    connParams := .undefined
    authData := .undefined
    actorId := "id" }

/-- The same error, of the actor that is called and of one behind it. -/
theorem client_error_noFunds :
    (inlineActionsThrow knownRuntime [] noFundsError).bind
        (httpActionThrows knownRuntime openRegistry cborCall)
      = some (ofBody noFunds)
    ∧ (inlineActionsThrow knownRuntime [{ encoding := .bare }]
          noFundsError).bind
        (httpActionThrows knownRuntime openRegistry cborCall)
      = some (ofBody internalError.body) := by
  obtain ⟨headers, hheaders⟩ : ∃ headers,
      freshHeaders openRegistry cborCall = .ok headers := ⟨_, rfl⟩
  constructor
  · exact @client_error knownRuntime readsText_known openRegistry cborCall
      headers hheaders noFundsError fails_noFunds carries_noFunds
      carries_endOfData carries_internal [] (by simp)
  · exact @client_error knownRuntime readsText_known openRegistry cborCall
      headers hheaders noFundsError fails_noFunds carries_noFunds
      carries_endOfData carries_internal [{ encoding := .bare }]
      (by
        intro call hcall
        rw [List.mem_singleton.1 hcall]
        decide)

end RivetKit.Client
