/-
Actor keys as the engine's API takes them (drivers/engine/keys.ts): one
string for a list of strings.

A JavaScript string is the list of its UTF-16 code units here, which is
what the reading loop steps over; any list of units is one.
-/
import RivetKit.Lib.Escapes

namespace RivetKit.Drivers.Engine

open Escapes

/-- A JavaScript string, by its code units. -/
abbrev JsString := List UInt16

/-- `/`. -/
def slash : UInt16 := 0x2f

/-- `\`. -/
def backslash : UInt16 := 0x5c

/-- `0`. -/
def zero : UInt16 := 0x30

/-- `EMPTY_KEY`. -/
def emptyKey : JsString := [slash]

/-- `KEY_SEPARATOR`. -/
def keySeparator : UInt16 := slash

-- =============================================================== writing

/-- One part: a marker for an empty one, else backslashes escaped first,
then separators. -/
def escapedPart (part : JsString) : JsString :=
  if part = [] then [backslash, zero]
  else
    let escaped := replaceAll backslash [backslash, backslash] part
    replaceAll slash [backslash, keySeparator] escaped

/-- `serializeActorKey`. -/
def serializeActorKey (key : List JsString) : JsString :=
  if key = [] then emptyKey
  else [keySeparator].intercalate (key.map escapedPart)

-- =============================================================== reading

/-- The variables of the loop of `deserializeActorKey`. -/
structure KeyReader where
  parts : List JsString := []
  currentPart : JsString := []
  escaping : Bool := false
  isEmptyStringMarker : Bool := false
  deriving DecidableEq

namespace KeyReader

/-- One turn of the loop. -/
def read (r : KeyReader) (char : UInt16) : KeyReader :=
  if r.escaping then
    if char = zero then
      { r with isEmptyStringMarker := true, escaping := false }
    else
      { r with currentPart := r.currentPart ++ [char], escaping := false }
  else if char = backslash then { r with escaping := true }
  else if char = keySeparator then
    if r.isEmptyStringMarker then
      { r with
        parts := r.parts ++ [[]]
        isEmptyStringMarker := false
        currentPart := [] }
    else
      { r with parts := r.parts ++ [r.currentPart], currentPart := [] }
  else { r with currentPart := r.currentPart ++ [char] }

/-- The last part. -/
def finish (r : KeyReader) : List JsString :=
  if r.escaping then r.parts ++ [r.currentPart ++ [backslash]]
  else if r.isEmptyStringMarker then r.parts ++ [[]]
  else if r.currentPart ≠ [] ∨ r.parts.length > 0 then
    r.parts ++ [r.currentPart]
  else r.parts

end KeyReader

/-- `deserializeActorKey`. The string may be `undefined` or `null`. -/
def deserializeActorKey (keyString : Option JsString) : List JsString :=
  match keyString with
  | none => []
  | some s =>
      if s = emptyKey then []
      else (s.foldl KeyReader.read {}).finish

end RivetKit.Drivers.Engine
