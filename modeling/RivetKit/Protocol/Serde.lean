/-
Encoding messages (serde.ts, and `jsonStringifyCompat` of
actor/protocol/serde.ts).

What the program uses of cbor-x and of the platform's text decoder are
the fields of `Platform`.
-/
import RivetKit.Lib.Json
import RivetKit.Protocol.ClientProtocol

namespace RivetKit.Protocol

open Js
open Common

/-- `Encoding`. -/
inductive Encoding
  | json
  | cbor
  | bare
  deriving DecidableEq

/-- What is sent: a string, or bytes. -/
inductive OutputData
  | text (s : String)
  | binary (bytes : List UInt8)
  deriving DecidableEq

/-- What is not in the repository: how numbers are written, cbor-x, and
`TextDecoder.decode`. -/
structure Platform where
  number : NumberText
  cborEncode : Value → Option (List UInt8)
  cborDecode : List UInt8 → Option Value
  textDecode : List UInt8 → String

variable (platform : Platform)

/-- The replacer of `jsonStringifyCompat`: a `bigint` as its digits. -/
def compatReplacer (i : Int) : Option Json := some (.str i.repr)

/-- `jsonStringifyCompat`. -/
def jsonStringifyCompat (input : Value) : Option (Option String) :=
  stringify platform.number compatReplacer input

/-- `JSON.parse`. -/
def jsonParse (s : String) : Option Value :=
  (parse platform.number s).map Json.toValue

/-- `serializeWithEncoding`, where it returns data. -/
def serializeWithEncoding (encoding : Encoding) (value : Value)
    (handler : VersionedDataConfig Value) : Option OutputData :=
  match encoding with
  | .json =>
      match jsonStringifyCompat platform value with
      | some (some s) => some (.text s)
      | _ => none
  | .cbor => (platform.cborEncode value).map .binary
  | .bare => (handler.serializeWithEmbeddedVersion value).map .binary

/-- `deserializeWithEncoding`. -/
def deserializeWithEncoding (encoding : Encoding) (buffer : OutputData)
    (handler : VersionedDataConfig Value) : Option Value :=
  match encoding, buffer with
  | .json, .text s => jsonParse platform s
  | .json, .binary bytes => jsonParse platform (platform.textDecode bytes)
  | .cbor, .binary bytes => platform.cborDecode bytes
  | .cbor, .text _ => none
  | .bare, .binary bytes => handler.deserializeWithEmbeddedVersion bytes
  | .bare, .text _ => none

end RivetKit.Protocol
