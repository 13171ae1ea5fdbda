/-
What is thrown, and the error that a response is built from
(actor/errors.ts, common/utils.ts, common/router.ts).

What is thrown is here an instance of `Error`. An `ActorError` is one whose
`__type` is `"ActorError"`; any other is known by its texts. Hono runs
`onError` for instances of `Error` alone: for a string or any other value
that a hook or an action throws it rejects the router's `fetch`, and nothing
here says what a client gets then.
-/
import RivetKit.Lib.Js
import RivetKit.Manager.Router

namespace RivetKit.Common

open Http
open Js
open Actor
open Manager
open Protocol

/-- `ActorError`, and `DeconstructedError`. -/
structure ActorError where
  statusCode : Nat
  isPublic : Bool
  code : String
  message : String
  metadata : Value

/-- What is thrown, an instance of `Error`. Of one that is not an
`ActorError`: what a template puts into a string, what `getErrorMessage`
gives, and what `stringifyError` gives. -/
inductive Thrown
  | actorError (error : ActorError)
  | other (text message stringified : String)

namespace Thrown

/-- `ActorError.isActorError(error) && error.public`. -/
def isPublic : Thrown → Bool
  | actorError error => error.isPublic
  | other _ _ _ => false

/-- `${error}`, which for an `ActorError` is its message. -/
def text : Thrown → String
  | actorError error => error.message
  | other text _ _ => text

/-- `stringifyError`. -/
def stringified : Thrown → String
  | actorError error => "Error: " ++ error.message
  | other _ _ stringified => stringified

end Thrown

-- ========================================================= the classes

/-- `INTERNAL_ERROR_CODE`. -/
def internalErrorCode : String := "internal_error"

/-- `INTERNAL_ERROR_DESCRIPTION`. -/
def internalErrorDescription : String :=
  "Internal error. Read the server logs for more details."

/-- A public error: `new ActorError(code, message, { public: true })`. -/
def publicError (code message : String) : ActorError :=
  { statusCode := 400
    isPublic := true
    code
    message
    metadata := .undefined }

/-- `ProxyError`. -/
def proxyError (operation : String) (error : Thrown) : ActorError :=
  publicError "proxy_error"
    ("Error proxying " ++ operation
      ++ ", this is likely an internal error: " ++ error.text)

/-- `InvalidQueryJSON`. -/
def invalidQueryJson (error : Thrown) : ActorError :=
  publicError "invalid_query_json" ("Invalid query JSON: " ++ error.text)

/-- `InvalidParams`, of what `JSON.parse` throws. -/
def invalidParams (error : Thrown) : ActorError :=
  publicError "invalid_params"
    ("Invalid params JSON: " ++ error.stringified)

-- ====================================================== deconstructing

/-- What `deconstructError` gives for an error that is not exposed. -/
def internalError : ActorError :=
  { statusCode := 500
    isPublic := false
    code := internalErrorCode
    message := internalErrorDescription
    metadata := .obj [] }

/-- `deconstructError`. -/
def deconstructError (error : Thrown) (exposeInternalError : Bool) :
    ActorError :=
  match error with
  | .actorError error =>
      if error.isPublic then
        { error with
          statusCode :=
            if error.statusCode = 0 then 400 else error.statusCode }
      else if exposeInternalError then { error with statusCode := 500 }
      else internalError
  | .other _ message _ =>
      if exposeInternalError then
        { statusCode := 500
          isPublic := false
          code := internalErrorCode
          message
          metadata := .undefined }
      else internalError

/-- `getRequestExposeInternalError`. -/
def getRequestExposeInternalError (headers : Headers) : Bool :=
  headers.get headerExposeInternalError = some "true"

/-- The parts of an error that are sent. -/
structure ErrorBody where
  code : String
  message : String
  metadata : Value

/-- The error of a response. -/
def ActorError.body (error : ActorError) : ErrorBody :=
  { code := error.code, message := error.message,
    metadata := error.metadata }

/-- The encoding that a request asks for. -/
def requestEncoding (headers : Headers) : Option Encoding :=
  match getRequestEncoding { path := "", search := "", headers } with
  | .ok encoding => some encoding
  | .error _ => none

/-- A response that `handleRouteError` builds. -/
structure ErrorResponse where
  statusCode : Nat
  encoding : Encoding
  error : ErrorBody

/-- `handleRouteError`. -/
def handleRouteError (enableExposeInternalError : Bool) (error : Thrown)
    (headers : Headers) : ErrorResponse :=
  let exposeInternalError := enableExposeInternalError
    && getRequestExposeInternalError headers
  let deconstructed := deconstructError error exposeInternalError
  { statusCode := deconstructed.statusCode
    encoding := (requestEncoding headers).getD .json
    error := deconstructed.body }

-- ================================================================ hiding

/-- An error that is neither public nor exposed leaves nothing of
itself. -/
theorem deconstructError_internal {error : Thrown}
    (h : error.isPublic = false) :
    deconstructError error false = internalError := by
  cases error with
  | actorError error =>
    have hpublic : error.isPublic = false := h
    unfold deconstructError
    simp only [hpublic, Bool.false_eq_true, if_false]
  | other text message stringified => rfl

/-- The same of a response. -/
theorem handleRouteError_internal {error : Thrown} {enable : Bool}
    {headers : Headers} (h : error.isPublic = false)
    (hexpose : (enable && getRequestExposeInternalError headers) = false) :
    handleRouteError enable error headers
      = { statusCode := 500
          encoding := (requestEncoding headers).getD .json
          error := internalError.body } := by
  unfold handleRouteError
  rw [hexpose]
  dsimp only
  rw [deconstructError_internal h]
  rfl

end RivetKit.Common
