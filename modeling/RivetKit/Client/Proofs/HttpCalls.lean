/-
A call of an action over HTTP is a call of a function (`calls_transparent`):
the action gets the arguments that were passed, and the caller what the
action returned, or its error in the shape that the caller is to see. So a
program of actors that call one another, and throw nothing but instances of
`Error`, does what the same calls would do without the wire between.

The exception is the encoding json, which loses the bytes of the arguments:
such a call fails before the action runs, with the complaint of cbor-x about
no bytes.

# Sections

  - one body
  - one request
  - programs
  - the client
-/
import RivetKit.Client.HttpCalls
import RivetKit.Client.Proofs.HttpErrors

namespace RivetKit.Client

open Http
open Js
open Actor
open Manager
open Protocol
open Common

-- ==================================================== statement vocabulary

/-- cbor-x and the generated code bring a value back, in a message. -/
def CarriesValue (runtime : Runtime) (message : List UInt8 → Message)
    (value : Value) : Prop :=
  ∃ bytes, runtime.platform.cborEncode value = some bytes
    ∧ runtime.platform.cborDecode bytes = some value
    ∧ CodecsRoundTrip runtime.platform runtime.bare (message bytes)

/-- And an outcome, with or without its internal errors. -/
def CarriesOutcome (runtime : Runtime) (expose : Bool) : Outcome → Prop
  | .ok output => CarriesValue runtime responseMessage output
  | .error error =>
      Fails error ∧ Carries runtime (deconstructError error expose).body

/-- What is seen of an outcome from outside the actor. -/
def seen (expose : Bool) : Outcome → Outcome
  | .ok output => .ok output
  | .error error => .error (ofBody (deconstructError error expose).body)

/-- The complaint of cbor-x. -/
def noBytes (runtime : Runtime) : Thrown :=
  plainError (runtime.cborError [])

namespace Program

/-- The values of a program's calls come back, and the headers of its calls
can be made. -/
def Carried (runtime : Runtime) : Program → Prop
  | .returns _ => True
  | .throws _ => True
  | .calls call action args next =>
      (inlineHeaders call.encoding call.connParams).isSome = true
        ∧ CarriesValue runtime requestMessage args
        ∧ (call.encoding ≠ .json → (action args).Carried runtime
          ∧ CarriesOutcome runtime true ((action args).direct runtime))
        ∧ (next (received (match call.encoding with
            | .json => .error (noBytes runtime)
            | _ => (action args).direct runtime))).Carried runtime

end Program

section

variable {runtime : Runtime}

-- ================================================================= one body

/-- A body in a binary encoding. -/
theorem sendBytes_binary {encoding : Encoding} (hencoding : encoding ≠ .json)
    {message : List UInt8 → Message} {name : String}
    {handler : VersionedDataConfig Value}
    (hmessage : ∀ bytes, (message bytes).toValue = .obj [(name, .bytes bytes)]
      ∧ (message bytes).handler runtime.bare = handler)
    {value : Value} (h : CarriesValue runtime message value) :
    ∃ body, sendBytes runtime encoding message value = some body
      ∧ readBytes runtime encoding handler name body = some (.ok value) := by
  obtain ⟨bytes, hencode, hdecode, hcodecs⟩ := h
  obtain ⟨wire, hout, hback⟩ := binary_roundTrip hencoding hcodecs
  obtain ⟨hvalue, hhandler⟩ := hmessage bytes
  refine ⟨wire, ?_, ?_⟩
  · unfold sendBytes
    simp only [hencode, hout, Option.map_some, bodyBytes]
  · unfold readBytes
    rw [← hhandler, hback]
    simp [hvalue, Value.member, newUint8Array, hdecode]

/-- In json the bytes are lost. -/
theorem sendBytes_json (htext : ReadsText runtime)
    {message : List UInt8 → Message} {name : String}
    {handler : VersionedDataConfig Value}
    (hmessage : ∀ bytes, (message bytes).toValue = .obj [(name, .bytes bytes)]
      ∧ (message bytes).handler runtime.bare = handler)
    {value : Value} (h : CarriesValue runtime message value) :
    ∃ body, sendBytes runtime .json message value = some body
      ∧ readBytes runtime .json handler name body
        = some (.error (noBytes runtime)) := by
  obtain ⟨bytes, hencode, -, -⟩ := h
  obtain ⟨hvalue, -⟩ := hmessage bytes
  have hjson : (message bytes).toValue.toJson compatReplacer
      = some (some (.obj [(name, .obj [])])) := by
    rw [hvalue]
    rfl
  have hvalid : (Json.obj [(name, .obj [])]).Valid := by
    simp [Json.Valid, MembersValid]
  obtain ⟨cs, hprint⟩ : ∃ cs, (Json.obj [(name, .obj [])]).print
      runtime.platform.number = '{' :: cs := ⟨_, rfl⟩
  have hserialize : serializeWithEncoding runtime.platform .json
      (message bytes).toValue ((message bytes).handler runtime.bare)
        = some (.text (String.ofList ('{' :: cs))) := by
    simp only [serializeWithEncoding, jsonStringifyCompat, stringify, hjson,
      hprint]
  have hparsed : jsonParse runtime.platform (String.ofList ('{' :: cs))
      = some (Json.obj [(name, .obj [])]).toValue := by
    unfold jsonParse
    rw [← hprint, parse_print hvalid]
    rfl
  refine ⟨Bare.Codec.utf8 ('{' :: cs), ?_, ?_⟩
  · unfold sendBytes
    simp only [hencode, hserialize, Option.map_some, bodyBytes,
      String.toList_ofList]
  · unfold readBytes
    simp only [deserializeWithEncoding, htext.text '{' cs (by decide), hparsed]
    simp [Json.toValue, membersToValue, Value.member, newUint8Array,
      htext.empty, noBytes]

theorem requestMessage_eq (bytes : List UInt8) :
    (requestMessage bytes).toValue = .obj [("args", .bytes bytes)]
      ∧ (requestMessage bytes).handler runtime.bare
        = httpActionRequestVersioned runtime.bare := ⟨rfl, rfl⟩

theorem responseMessage_eq (bytes : List UInt8) :
    (responseMessage bytes).toValue = .obj [("output", .bytes bytes)]
      ∧ (responseMessage bytes).handler runtime.bare
        = httpActionResponseVersioned runtime.bare := ⟨rfl, rfl⟩

-- ============================================================== one request

/-- A request in a binary encoding brings what is seen of the outcome. -/
theorem handleAction_binary {encoding : Encoding}
    (hencoding : encoding ≠ .json) {headers : Headers}
    (hasks : requestEncoding headers = some encoding) {args : Value}
    (hargs : CarriesValue runtime requestMessage args)
    {action : Value → Option Outcome} {outcome : Outcome}
    (haction : action args = some outcome)
    (houtcome : CarriesOutcome runtime
      (getRequestExposeInternalError headers) outcome) :
    ∃ body response, sendBytes runtime encoding requestMessage args = some body
      ∧ handleAction runtime headers body action = some response
      ∧ readResponse runtime encoding response
        = some (seen (getRequestExposeInternalError headers) outcome) := by
  obtain ⟨body, hsend, hread⟩ :=
    sendBytes_binary hencoding requestMessage_eq hargs
  cases outcome with
  | ok output =>
      obtain ⟨answer, hanswer, hback⟩ :=
        sendBytes_binary hencoding responseMessage_eq houtcome
      refine ⟨body, .ok answer, hsend, ?_, hback⟩
      unfold handleAction
      simp [hasks, hread, haction, hanswer]
  | error error =>
      obtain ⟨hfails, hcarries⟩ := houtcome
      obtain ⟨response, hanswer, hback⟩ := sendError_binary hencoding hcarries
        (failing_statusCode hfails (getRequestExposeInternalError headers))
      refine ⟨body, .error response, hsend, ?_, ?_⟩
      · unfold handleAction
        simp [hasks, hread, haction, handleRouteError, hanswer]
      · simp only [readResponse, hback, Option.map_some]
        rfl

theorem fails_noBytes : Fails (noBytes runtime) := by
  intro e he
  cases he

/-- A request in json fails before the action runs. -/
theorem handleAction_json (htext : ReadsText runtime) {headers : Headers}
    (hasks : requestEncoding headers = some .json) {args : Value}
    (hargs : CarriesValue runtime requestMessage args)
    (action : Value → Option Outcome)
    (hcarries : Carries runtime (deconstructError (noBytes runtime)
      (getRequestExposeInternalError headers)).body) :
    ∃ body response, sendBytes runtime .json requestMessage args = some body
      ∧ handleAction runtime headers body action = some response
      ∧ readResponse runtime .json response
        = some (.error (noBytes runtime)) := by
  obtain ⟨body, hsend, hread⟩ := sendBytes_json htext requestMessage_eq hargs
  have hstatus := failing_statusCode (@fails_noBytes runtime)
    (getRequestExposeInternalError headers)
  obtain ⟨response, hanswer, hback⟩ := sendError_json htext hcarries hstatus
  refine ⟨body, .error response, hsend, ?_, ?_⟩
  · unfold handleAction
    simp [hasks, hread, handleRouteError, hanswer]
  · simp only [readResponse, hback, Option.map_some]
    rfl

-- ================================================================= programs

/-- A call of the inline driver is a call of the action, or of nothing. -/
theorem inlineAction_direct (htext : ReadsText runtime)
    (hlost : Carries runtime (lostError runtime)) {call : InlineCall}
    (hmade : (inlineHeaders call.encoding call.connParams).isSome = true)
    {args : Value} (hargs : CarriesValue runtime requestMessage args)
    {action : Value → Option Outcome} {outcome : Outcome}
    (haction : call.encoding ≠ .json → action args = some outcome
      ∧ CarriesOutcome runtime true outcome) :
    inlineAction runtime call action args
      = some (Program.received (match call.encoding with
        | .json => .error (noBytes runtime)
        | _ => outcome)) := by
  obtain ⟨headers, hheaders⟩ := Option.isSome_iff_exists.1 hmade
  obtain ⟨hasks, hexpose⟩ := inlineHeaders_read hheaders
  unfold inlineAction
  by_cases hjson : call.encoding = .json
  · rw [hjson] at hasks hheaders
    have hcarries : Carries runtime (deconstructError (noBytes runtime)
        (getRequestExposeInternalError headers)).body := by
      rw [hexpose]
      exact hlost
    obtain ⟨body, response, hsend, hanswer, hback⟩ :=
      handleAction_json htext hasks hargs action hcarries
    simp only [hjson, hheaders, hsend, hanswer, hback, Option.bind_eq_bind,
      Option.bind_some]
    rfl
  · obtain ⟨haction, houtcome⟩ := haction hjson
    rw [← hexpose] at houtcome
    obtain ⟨body, response, hsend, hanswer, hback⟩ :=
      handleAction_binary hjson hasks hargs haction houtcome
    rw [hexpose] at hback
    simp only [hheaders, hsend, hanswer, hback, Option.bind_eq_bind,
      Option.bind_some]
    cases hencoding : call.encoding with
    | json => exact absurd hencoding hjson
    | cbor | bare => cases outcome <;> rfl

/-- A program's calls over HTTP are calls of functions. -/
theorem overHttp_direct (htext : ReadsText runtime)
    (hlost : Carries runtime (lostError runtime)) {program : Program}
    (h : program.Carried runtime) :
    program.overHttp runtime = some (program.direct runtime) := by
  induction program with
  | returns output => rfl
  | throws error => rfl
  | calls call action args next ihaction ihnext =>
      obtain ⟨hmade, hargs, hcall, hnext⟩ := h
      have hdirect : call.encoding ≠ .json →
          (action args).overHttp runtime
              = some ((action args).direct runtime)
            ∧ CarriesOutcome runtime true ((action args).direct runtime) :=
        fun hjson => ⟨ihaction args (hcall hjson).1, (hcall hjson).2⟩
      unfold Program.overHttp Program.direct
      rw [@inlineAction_direct runtime htext hlost call hmade args hargs
        (fun args => (action args).overHttp runtime) _ hdirect,
        Option.bind_some]
      exact ihnext _ hnext

-- =============================================================== the client

/-- The headers that the manager builds ask for the client's encoding, and
for no internal errors. -/
theorem freshHeaders_read {registry : Registry} {authorized : Authorized}
    {headers : Headers}
    (h : freshHeaders registry authorized = .ok headers) :
    requestEncoding headers = some authorized.encoding
      ∧ getRequestExposeInternalError headers = false := by
  constructor
  · unfold requestEncoding getRequestEncoding
    simp only [freshHeaders_encoding h, encodingSchema_encodingText]
  · unfold getRequestExposeInternalError
    rw [exposes_of_freshHeaders registry h]
    rfl

/-- What a client's call of an action comes to, if the action's program is
run behind the wire: what the program comes to with its calls made as calls
of functions, and of its error what an outsider is to see. In json nothing
is run. -/
theorem calls_transparent (htext : ReadsText runtime)
    (hlost : Carries runtime (lostError runtime))
    (hinternal : Carries runtime internalError.body) {registry : Registry}
    {authorized : Authorized} {headers : Headers}
    (hheaders : freshHeaders registry authorized = .ok headers)
    {args : Value} (hargs : CarriesValue runtime requestMessage args)
    {action : Value → Program} (hcarried : (action args).Carried runtime)
    (houtcome : CarriesOutcome runtime false ((action args).direct runtime)) :
    httpAction runtime registry authorized
        (fun args => (action args).overHttp runtime) args
      = some (match authorized.encoding with
        | .json => .error (noBytes runtime)
        | _ => seen false ((action args).direct runtime)) := by
  obtain ⟨hasks, hexpose⟩ := freshHeaders_read hheaders
  unfold httpAction
  by_cases hjson : authorized.encoding = .json
  · rw [hjson] at hasks
    have hcarries : Carries runtime (deconstructError (noBytes runtime)
        (getRequestExposeInternalError headers)).body := by
      rw [hexpose]
      exact hinternal
    obtain ⟨body, response, hsend, hanswer, hback⟩ :=
      handleAction_json htext hasks hargs
        (fun args => (action args).overHttp runtime) hcarries
    simp only [hjson, hheaders, hsend, hanswer, hback, Except.toOption,
      Option.bind_eq_bind, Option.bind_some]
  · rw [← hexpose] at houtcome
    obtain ⟨body, response, hsend, hanswer, hback⟩ :=
      @handleAction_binary runtime authorized.encoding hjson headers hasks args
        hargs (fun args => (action args).overHttp runtime) _
        (overHttp_direct htext hlost hcarried) houtcome
    rw [hexpose] at hback
    simp only [hheaders, hsend, hanswer, hback, Except.toOption,
      Option.bind_eq_bind, Option.bind_some]

end

-- ============================================================= an example

/-- What cbor-x writes of an empty list of arguments, of `true`, and of a
message with one member. -/
def cborOfCalls : Value → Option (List UInt8)
  | .arr [] => some [0x80]
  | .bool true => some [0xf5]
  | .obj [(name, .bytes bytes)] =>
      some ([0xb9, 0, 1] ++ cborText name
        ++ [UInt8.ofNat (0x40 + bytes.length)] ++ bytes)
  | value => cborOf value

def callValues : List Value :=
  [.arr [], .bool true, (requestMessage [0x80]).toValue,
    (responseMessage [0xf5]).toValue] ++ knownValues

/-- The libraries, as far as these values need them. -/
def callRuntime : Runtime :=
  { knownRuntime with
    platform :=
      { knownRuntime.platform with
        cborEncode := cborOfCalls
        cborDecode := fun b =>
          callValues.find? fun v => cborOfCalls v = some b } }

theorem carries_call {error : ErrorBody} {metadata : List UInt8}
    (hencode : cborOfCalls error.metadata = some metadata)
    (hdecode : callRuntime.platform.cborDecode metadata
      = some error.metadata)
    (hmessage : callRuntime.platform.cborDecode
        (cborError error.code error.message metadata)
      = some (errorMessage error metadata).toValue) :
    Carries callRuntime error :=
  ⟨metadata, hencode, hdecode, ⟨_, rfl, hmessage⟩, schemaBare_roundTrip _⟩

/-- An action that calls another one, which throws, and returns `true`
then. -/
def catching (_args : Value) : Program :=
  .calls { encoding := .bare } (fun _ => .throws noFundsError) (.arr [])
    fun
      | .ok output => .returns output
      | .error _ => .returns (.bool true)

/-- A client in cbor gets `true`. -/
theorem calls_transparent_catching :
    httpAction callRuntime openRegistry cborCall
        (fun args => (catching args).overHttp callRuntime) (.arr [])
      = some (.ok (.bool true)) := by
  have htext : ReadsText callRuntime :=
    ⟨readsText_known.text, by decide⟩
  have hlost : Carries callRuntime (lostError callRuntime) :=
    @carries_call endOfData [0xf7] rfl rfl rfl
  have hinternal : Carries callRuntime internalError.body :=
    @carries_call internalError.body [0xb9, 0, 0] rfl rfl rfl
  have hargs : CarriesValue callRuntime requestMessage (.arr []) :=
    ⟨[0x80], rfl, rfl, ⟨_, rfl, rfl⟩, schemaBare_roundTrip _⟩
  have houtput : CarriesValue callRuntime responseMessage (.bool true) :=
    ⟨[0xf5], rfl, rfl, ⟨_, rfl, rfl⟩, schemaBare_roundTrip _⟩
  have hcarried : (catching (.arr [])).Carried callRuntime := by
    refine ⟨by decide, hargs, fun _ => ⟨trivial, fails_noFunds, ?_⟩, trivial⟩
    exact @carries_call noFunds [0xf7] rfl rfl rfl
  obtain ⟨headers, hheaders⟩ : ∃ headers,
      freshHeaders openRegistry cborCall = .ok headers := ⟨_, rfl⟩
  exact calls_transparent htext hlost hinternal hheaders hargs hcarried houtput

end RivetKit.Client
