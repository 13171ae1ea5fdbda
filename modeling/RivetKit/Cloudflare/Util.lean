/-
The names of Durable Objects (util.ts): an actor's name and key as one
string, and a key read back from one.
-/

namespace RivetKit.Cloudflare

/-- `EMPTY_KEY`. -/
def emptyKey : List Char := ['(', 'n', 'o', 'n', 'e', ')']

/-- `KEY_SEPARATOR`. -/
def keySeparator : Char := ','

/-- `s.replace(/c/g, "\\c")`. -/
def escape (c : Char) (s : List Char) : List Char :=
  s.flatMap fun x => if x = c then ['\\', c] else [x]

/-- One part of a key, escaped: the empty key marker as a whole, else
backslashes first, then separators. -/
def escapePart (part : List Char) : List Char :=
  if part = emptyKey then '\\' :: emptyKey
  else escape keySeparator (escape '\\' part)

/-- `serializeKey`. -/
def serializeKey (key : List String) : String :=
  match key with
  | [] => String.ofList emptyKey
  | _ =>
      String.ofList
        ([keySeparator].intercalate (key.map (escapePart ·.toList)))

/-- `serializeNameAndKey`. -/
def serializeNameAndKey (name : String) (key : List String) : String :=
  let escapedName := escape ':' name.toList
  match key with
  | [] => String.ofList (escapedName ++ ':' :: emptyKey)
  | _ => String.ofList (escapedName ++ ':' :: (serializeKey key).toList)

/-- The variables of the loop of `deserializeKey`. -/
structure KeyReader where
  parts : List String := []
  currentPart : List Char := []
  escaping : Bool := false

namespace KeyReader

/-- One turn of the loop. -/
def read (r : KeyReader) (char : Char) : KeyReader :=
  if r.escaping then
    { r with currentPart := r.currentPart ++ [char], escaping := false }
  else if char = '\\' then { r with escaping := true }
  else if char = keySeparator then
    { r with
      parts := r.parts ++ [String.ofList r.currentPart]
      currentPart := [] }
  else { r with currentPart := r.currentPart ++ [char] }

/-- The last part, if it exists. -/
def finish (r : KeyReader) : List String :=
  if r.currentPart ≠ [] ∨ r.parts.length > 0 then
    r.parts ++ [String.ofList r.currentPart]
  else r.parts

end KeyReader

/-- `deserializeKey`. -/
def deserializeKey (keyString : String) : List String :=
  if keyString = "" then []
  else if keyString.toList = emptyKey then []
  else (keyString.toList.foldl KeyReader.read {}).finish

end RivetKit.Cloudflare
