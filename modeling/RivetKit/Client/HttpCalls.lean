/-
Calls of actions between actors and what they come to (`handleRouteError`
of common/router.ts, `handleAction` of actor/router-endpoints.ts,
`sendHttpRequest` of client/utils.ts, client/errors.ts, `action` of
inline-client-driver/mod.ts and of client/http-client-driver.ts).

A caller encodes the arguments, and puts the bytes into a request in the
encoding that the request names. The actor takes them out again, runs the
action, and answers with the bytes of its output. It answers a failed
request with the error's code, its message and the bytes that cbor-x makes
of its metadata; the caller takes these out of the response and throws an
`ActorError` of its own. An actor that calls another one does so through
the inline driver, whose requests ask for internal errors as well; what
comes out of that call and is not caught is the error of its own request.
An action may as well catch it, throw another one, or call again.

A response without success is here one that `handleRouteError` has built:
of its members `code` and `message` are strings. An action throws instances
of `Error`; of any other value the actor's router makes no response
(`Common.Thrown`). Finding the actor and what happens to it beside the
action is left out. Only what cbor-x throws of bytes that it cannot read is
followed, since the encoding json makes it do so; `none` is any other
failure of a codec.

# Sections

  - the response
  - the caller
  - the inline driver
  - the client's driver
  - the bytes
  - the actor
  - the callers
  - programs
-/
import RivetKit.Common.Errors
import RivetKit.Lib.Bare

namespace RivetKit.Client

open Http
open Js
open Actor
open Manager
open Protocol
open Common

-- ============================================================ the response

/-- The bytes of a body. -/
def bodyBytes : OutputData → List UInt8
  | .text s => Bare.Codec.utf8 s.toList
  | .binary bytes => bytes

/-- A response without success. -/
structure FailedResponse where
  statusCode : Nat
  body : List UInt8

/-- What is not in the repository: the platform, the generated code, the
text of a status code, and what `cbor.decode` throws. -/
structure Runtime where
  platform : Platform
  bare : GeneratedCode
  statusText : Nat → String
  cborError : List UInt8 → String

variable (runtime : Runtime)

/-- The message of an error's response. -/
def errorMessage (error : ErrorBody) (metadata : List UInt8) : Message :=
  .httpResponseError
    { code := error.code
      message := error.message
      metadata := some metadata }

/-- What `handleRouteError` puts on the wire. -/
def sendError (response : ErrorResponse) : Option FailedResponse :=
  match runtime.platform.cborEncode response.error.metadata with
  | some metadata =>
      match serializeWithEncoding runtime.platform response.encoding
          (errorMessage response.error metadata).toValue
          (httpResponseErrorVersioned runtime.bare) with
      | some output =>
          some { statusCode := response.statusCode
                 body := bodyBytes output }
      | none => none
  | none => none

-- ============================================================== the caller

/-- `ActorError` of the client: it is an actor's error by its `__type`, and
has neither `public` nor `statusCode`. -/
def clientActorError (code message : String) (metadata : Value) : Thrown :=
  .actorError
    { statusCode := 0
      isPublic := false
      code
      message
      metadata }

/-- An `Error` that is not an actor's. -/
def plainError (message : String) : Thrown :=
  .other ("Error: " ++ message) message ("Error: " ++ message)

/-- `HttpRequestError`. -/
def httpRequestError (error : String) : Thrown :=
  plainError ("HTTP request error: " ++ error)

/-- `new Uint8Array(value)`: of an `ArrayBuffer` or a view its bytes, of an
object without `length` none. -/
def newUint8Array (value : Value) : Option (List UInt8) :=
  match value with
  | .bytes b => some b
  | .obj _ =>
      match value.member "length" with
      | .undefined => some []
      | _ => none
  | _ => none

/-- The structured error of a response. -/
def structuredError (data : Value) : Option Thrown :=
  match data.member "code", data.member "message" with
  | .str code, .str message =>
      let metadata := data.member "metadata"
      if metadata.truthy then
        match newUint8Array metadata with
        | some bytes =>
            match runtime.platform.cborDecode bytes with
            | some metadata => some (clientActorError code message metadata)
            | none => some (plainError (runtime.cborError bytes))
        | none => none
      else some (clientActorError code message .undefined)
  | _, _ => none

/-- What `sendHttpRequest` throws for a response that is not `ok`. -/
def sendHttpRequestError (encoding : Encoding) (response : FailedResponse) :
    Option Thrown :=
  if 200 ≤ response.statusCode ∧ response.statusCode < 300 then none
  else
    match deserializeWithEncoding runtime.platform encoding
        (.binary response.body) (httpResponseErrorVersioned runtime.bare) with
    | some data => structuredError runtime data
    | none =>
        some (httpRequestError (runtime.statusText response.statusCode
          ++ " (" ++ toString response.statusCode ++ "):\n"
          ++ runtime.platform.textDecode response.body))

-- ======================================================= the inline driver

/-- The headers of the inline driver's request for an action, the two apart
that no part of the error depends on. -/
def inlineHeaders (encoding : Encoding) (connParams : Option String) :
    Option Headers :=
  Headers.empty.setAll
    ([(headerEncoding, encodingText encoding)]
      ++ connParams.toList.map (fun s => (headerConnParams, s))
      ++ [(headerExposeInternalError, "true")])

/-- The `catch` of the inline driver's `action`. -/
def inlineCatch (error : Thrown) : Thrown :=
  let deconstructed := deconstructError error true
  clientActorError deconstructed.code deconstructed.message
    deconstructed.metadata

/-- A call of the inline driver. -/
structure InlineCall where
  encoding : Encoding
  connParams : Option String := none

/-- What the inline driver's `action` throws, where the actor's request
fails with an `Error`. -/
def inlineActionThrows (call : InlineCall) (error : Thrown) :
    Option Thrown := do
  let headers ← inlineHeaders call.encoding call.connParams
  let response ← sendError runtime (handleRouteError true error headers)
  let thrown ← sendHttpRequestError runtime call.encoding response
  return inlineCatch thrown

/-- The calls of actors that call one another, the innermost first, none of
which catches what the next one throws. -/
def inlineActionsThrow : List InlineCall → Thrown → Option Thrown
  | [], error => some error
  | call :: calls, error =>
      (inlineActionThrows runtime call error).bind (inlineActionsThrow calls)

-- ====================================================== the client's driver

variable (registry : Registry)

/-- What the client's `action` throws, where the actor's request fails with
an error: the manager hands the actor's response on. -/
def httpActionThrows (authorized : Authorized) (error : Thrown) :
    Option Thrown :=
  match freshHeaders registry authorized with
  | .ok headers =>
      (sendError runtime (handleRouteError true error headers)).bind
        (sendHttpRequestError runtime authorized.encoding)
  | .error _ => none

-- ================================================================ the bytes

/-- A body: the message around some bytes. -/
def sendBytes (encoding : Encoding) (message : List UInt8 → Message)
    (value : Value) : Option (List UInt8) :=
  match runtime.platform.cborEncode value with
  | some bytes =>
      (serializeWithEncoding runtime.platform encoding (message bytes).toValue
        ((message bytes).handler runtime.bare)).map bodyBytes
  | none => none

/-- The value in a body: `cbor.decode(new Uint8Array(data[name]))`. -/
def readBytes (encoding : Encoding) (handler : VersionedDataConfig Value)
    (name : String) (body : List UInt8) : Option (Except Thrown Value) :=
  match deserializeWithEncoding runtime.platform encoding (.binary body)
      handler with
  | some data =>
      match newUint8Array (data.member name) with
      | some bytes =>
          match runtime.platform.cborDecode bytes with
          | some value => some (.ok value)
          | none => some (.error (plainError (runtime.cborError bytes)))
      | none => none
  | none => none

/-- `HttpActionRequest`, `HttpActionResponse`. -/
def requestMessage (args : List UInt8) : Message :=
  .httpActionRequest { args := args }

def responseMessage (output : List UInt8) : Message :=
  .httpActionResponse { output := output }

-- ================================================================ the actor

/-- What an action comes to. -/
abbrev Outcome := Except Thrown Value

/-- `handleAction`, with what is behind the actor's router: the body of a
response with success, or a response without. -/
def handleAction (headers : Headers) (body : List UInt8)
    (action : Value → Option Outcome) :
    Option (Except FailedResponse (List UInt8)) := do
  let encoding ← requestEncoding headers
  let args ← readBytes runtime encoding
    (httpActionRequestVersioned runtime.bare) "args" body
  let outcome ← match args with
    | .ok args => action args
    | .error error => some (.error error)
  match outcome with
  | .ok output =>
      return .ok (← sendBytes runtime encoding responseMessage output)
  | .error error =>
      return .error (← sendError runtime (handleRouteError true error headers))

-- =============================================================== the callers

/-- `sendHttpRequest` behind the request, and what the drivers make of its
result. -/
def readResponse (encoding : Encoding) :
    Except FailedResponse (List UInt8) → Option Outcome
  | .ok body =>
      readBytes runtime encoding (httpActionResponseVersioned runtime.bare)
        "output" body
  | .error response =>
      (sendHttpRequestError runtime encoding response).map .error

/-- `action` of the inline driver. -/
def inlineAction (call : InlineCall) (action : Value → Option Outcome)
    (args : Value) : Option Outcome := do
  let headers ← inlineHeaders call.encoding call.connParams
  let body ← sendBytes runtime call.encoding requestMessage args
  let response ← handleAction runtime headers body action
  match ← readResponse runtime call.encoding response with
  | .ok output => return .ok output
  | .error error => return .error (inlineCatch error)

/-- `action` of the client's driver. The manager hands on the body, and
builds the headers. -/
def httpAction (authorized : Authorized)
    (action : Value → Option Outcome) (args : Value) : Option Outcome := do
  let headers ← (freshHeaders registry authorized).toOption
  let body ← sendBytes runtime authorized.encoding requestMessage args
  let response ← handleAction runtime headers body action
  readResponse runtime authorized.encoding response

-- ================================================================== programs

/-- What the code of an action does, as far as others see it: it returns, it
throws an `Error`, or it calls an action of another actor and goes on with
what that came to. -/
inductive Program
  | returns (output : Value)
  | throws (error : Thrown)
  | calls (call : InlineCall) (action : Value → Program) (args : Value)
      (next : Outcome → Program)

namespace Program

/-- A program whose calls go over HTTP. -/
def overHttp : Program → Option Outcome
  | .returns output => some (.ok output)
  | .throws error => some (.error error)
  | .calls call action args next =>
      (inlineAction runtime call (fun args => (action args).overHttp)
        args).bind fun outcome => (next outcome).overHttp

/-- What the caller gets of a call's outcome. -/
def received : Outcome → Outcome
  | .ok output => .ok output
  | .error error =>
      .error (clientActorError (deconstructError error true).code
        (deconstructError error true).message
        (deconstructError error true).metadata)

/-- A program whose calls are calls of functions, but for those that are
made in json: they are not made at all. -/
def direct : Program → Outcome
  | .returns output => .ok output
  | .throws error => .error error
  | .calls call action args next =>
      let outcome := match call.encoding with
        | .json => .error (plainError (runtime.cborError []))
        | _ => (action args).direct
      (next (received outcome)).direct

end Program

end RivetKit.Client
