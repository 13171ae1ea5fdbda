/-
Keys of the engine come back as they were.

# One part

Reading an escaped part adds the part itself, or passes the marker of an
empty one: either way the reader is `behind` it (`foldl_escapedPart`). An
escaped part does not begin with a separator, so no key is written like
the empty one.

# All parts

A separator takes the reader to a new part (`read_separator`), so behind
the whole key it has all parts but the last, and that one is `behind`
(`foldl_parts`, by induction over the parts). `finish` adds it.
-/
import RivetKit.Drivers.Engine.Keys

namespace RivetKit.Drivers.Engine

open Escapes

-- ============================================================== one part

/-- An escaped part that is not empty. -/
theorem escapedPart_eq {part : JsString} (h : part ≠ []) :
    escapedPart part
      = escapeAll backslash (fun x => x = backslash || x = slash) part := by
  unfold escapedPart
  rw [if_neg h]
  exact replaceAll_replaceAll (by decide) part

/-- An escaped part begins with no separator. -/
theorem escapedPart_head (part : JsString) :
    ∃ c cs, escapedPart part = c :: cs ∧ c ≠ slash := by
  cases part with
  | nil => exact ⟨backslash, [zero], rfl, by decide⟩
  | cons x part =>
    rw [escapedPart_eq (by simp), escapeAll_cons]
    by_cases hx : (x = backslash || x = slash) = true
    · rw [if_pos hx]
      exact ⟨backslash, _, rfl, by decide⟩
    · rw [if_neg hx]
      refine ⟨x, _, rfl, ?_⟩
      intro hslash
      rw [hslash] at hx
      exact hx (by decide)

/-- The reader with one character more. -/
def KeyReader.add (r : KeyReader) (char : UInt16) : KeyReader :=
  { r with currentPart := r.currentPart ++ [char] }

theorem KeyReader.foldl_add (part : JsString) :
    ∀ r : KeyReader, part.foldl KeyReader.add r
      = { r with currentPart := r.currentPart ++ part } := by
  induction part with
  | nil =>
    intro r
    simp
  | cons char part ih =>
    intro r
    rw [List.foldl_cons, ih]
    simp [KeyReader.add]

/-- The reader behind a part: in it, or past the marker. -/
def behind (parts : List JsString) (part : JsString) : KeyReader :=
  { parts, currentPart := part, isEmptyStringMarker := part = [] }

/-- Reading an escaped part. -/
theorem foldl_escapedPart (parts : List JsString) (part : JsString) :
    (escapedPart part).foldl KeyReader.read { parts }
      = behind parts part := by
  by_cases h : part = []
  · rw [h]
    rfl
  · rw [escapedPart_eq h]
    have hread : (escapeAll backslash
          (fun x => x = backslash || x = slash) part).foldl
          KeyReader.read { parts }
        = part.foldl KeyReader.add { parts } := by
      apply foldl_escapeAll (P := fun r => r.escaping = false)
      · intro r x hr hx
        simp only [Bool.or_eq_false_iff, decide_eq_false_iff_not] at hx
        unfold KeyReader.read keySeparator
        rw [if_neg (by simp [hr]), if_neg hx.1, if_neg hx.2]
        rfl
      · intro r x hr hx
        have hzero : x ≠ zero := by
          intro hzero
          rw [hzero] at hx
          exact absurd hx (by decide)
        unfold KeyReader.read KeyReader.add
        simp [hr, hzero]
      · intro r x hr
        exact hr
      · rfl
    rw [hread, KeyReader.foldl_add]
    unfold behind
    simp [h]

-- ============================================================= all parts

/-- A separator begins a new part. -/
theorem read_separator (parts : List JsString) (part : JsString) :
    (behind parts part).read keySeparator = { parts := parts ++ [part] } := by
  unfold KeyReader.read behind
  by_cases h : part = []
  · rw [h]
    rfl
  · have hseparator : keySeparator ≠ backslash := by decide
    simp [h, hseparator]

/-- What is added at the end. -/
theorem finish_behind (parts : List JsString) (part : JsString) :
    (behind parts part).finish = parts ++ [part] := by
  unfold KeyReader.finish behind
  by_cases h : part = []
  · rw [h]
    rfl
  · simp [h]

/-- The reader behind a part and all that follow. -/
theorem foldl_parts (rest : List JsString) :
    ∀ (parts : List JsString) (part : JsString),
      ((rest.map escapedPart).foldl
          (fun r escaped => escaped.foldl KeyReader.read
            ([keySeparator].foldl KeyReader.read r))
          (behind parts part)).finish
        = parts ++ part :: rest := by
  induction rest with
  | nil =>
    intro parts part
    exact finish_behind parts part
  | cons other rest ih =>
    intro parts part
    rw [List.map_cons, List.foldl_cons, List.foldl_cons, List.foldl_nil,
      read_separator, foldl_escapedPart, ih]
    simp

/-- No other key is written like the empty one. -/
theorem serializeActorKey_ne_emptyKey {key : List JsString}
    (h : key ≠ []) : serializeActorKey key ≠ emptyKey := by
  unfold serializeActorKey
  rw [if_neg h]
  cases key with
  | nil => exact absurd rfl h
  | cons part rest =>
    obtain ⟨c, cs, hpart, hc⟩ := escapedPart_head part
    intro hempty
    rw [List.map_cons, hpart] at hempty
    cases rest with
    | nil =>
      rw [List.map_nil, List.intercalate_singleton] at hempty
      exact hc (List.cons.inj hempty).1
    | cons other rest =>
      rw [List.map_cons, List.intercalate_cons_cons] at hempty
      exact hc (List.cons.inj hempty).1

/-- No key is written as the empty string. -/
theorem serializeActorKey_ne_nil (key : List JsString) :
    serializeActorKey key ≠ [] := by
  unfold serializeActorKey
  cases key with
  | nil => decide
  | cons part rest =>
    obtain ⟨c, cs, hpart, -⟩ := escapedPart_head part
    rw [if_neg (List.cons_ne_nil part rest), List.map_cons, hpart]
    cases rest with
    | nil =>
      rw [List.map_nil, List.intercalate_singleton]
      exact List.cons_ne_nil c cs
    | cons other rest =>
      rw [List.map_cons, List.intercalate_cons_cons]
      exact List.cons_ne_nil c _

/-- Every key is read back. -/
theorem deserializeActorKey_serializeActorKey (key : List JsString) :
    deserializeActorKey (some (serializeActorKey key)) = key := by
  unfold deserializeActorKey
  dsimp only
  by_cases h : key = []
  · rw [h]
    rfl
  · rw [if_neg (serializeActorKey_ne_emptyKey h)]
    unfold serializeActorKey
    rw [if_neg h]
    cases key with
    | nil => exact absurd rfl h
    | cons part rest =>
      rw [List.map_cons, foldl_intercalate, foldl_escapedPart, foldl_parts]
      rfl

/-- Every key is read back, so no two are written alike. -/
theorem actorKey_roundTrip :
    (∀ key : List JsString,
        deserializeActorKey (some (serializeActorKey key)) = key)
      ∧ ∀ key key' : List JsString,
        serializeActorKey key = serializeActorKey key' → key = key' := by
  constructor
  · exact deserializeActorKey_serializeActorKey
  · intro key key' h
    rw [← deserializeActorKey_serializeActorKey key, h,
      deserializeActorKey_serializeActorKey]

end RivetKit.Drivers.Engine
