/-
The headers that the manager and an actor's router exchange
(actor/router-endpoints.ts), and the encodings they name.
-/
import RivetKit.Lib.Headers
import RivetKit.Protocol.Serde

namespace RivetKit.Actor

open Http
open Protocol

/-- `HEADER_ACTOR_QUERY`. -/
def headerActorQuery : String := "X-RivetKit-Query"

/-- `HEADER_ENCODING`. -/
def headerEncoding : String := "X-RivetKit-Encoding"

/-- `HEADER_EXPOSE_INTERNAL_ERROR`. -/
def headerExposeInternalError : String :=
  "X-RivetKit-Expose-Internal-Error"

/-- `HEADER_CONN_PARAMS`. -/
def headerConnParams : String := "X-RivetKit-Conn-Params"

/-- `HEADER_AUTH_DATA`. -/
def headerAuthData : String := "X-RivetKit-Auth-Data"

@[simp] theorem lowerName_headerActorQuery :
    lowerName headerActorQuery = "x-rivetkit-query" := by decide

@[simp] theorem lowerName_headerEncoding :
    lowerName headerEncoding = "x-rivetkit-encoding" := by decide

@[simp] theorem lowerName_headerExposeInternalError :
    lowerName headerExposeInternalError
      = "x-rivetkit-expose-internal-error" := by decide

@[simp] theorem lowerName_headerConnParams :
    lowerName headerConnParams = "x-rivetkit-conn-params" := by decide

@[simp] theorem lowerName_headerAuthData :
    lowerName headerAuthData = "x-rivetkit-auth-data" := by decide

/-- The string of an encoding. -/
def encodingText : Encoding → String
  | .json => "json"
  | .cbor => "cbor"
  | .bare => "bare"

/-- `EncodingSchema`. -/
def encodingSchema (s : String) : Option Encoding :=
  if s = "json" then some .json
  else if s = "cbor" then some .cbor
  else if s = "bare" then some .bare
  else none

theorem encodingSchema_encodingText (encoding : Encoding) :
    encodingSchema (encodingText encoding) = some encoding := by
  cases encoding with
  | json => rfl
  | cbor => rfl
  | bare => rfl

end RivetKit.Actor
