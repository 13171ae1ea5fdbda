/-
Which actors get the same Durable Object: names and keys that are written
as one string.

# Keys

A written key says its parts: reading adds each part as it was
(`foldl_escapePart`), and the marker of the empty key is escaped as a
part. So two keys are not written alike (`serializeKey_inj`), although
`deserializeKey` does not read all of them back
(`deserializeKey_serializeKey_iff`).

# Names

A name has its colons escaped, but not its backslashes. So it is read up
to the first colon without a backslash before it, unless it ends in a
backslash itself (`overlap_of_eq`, by induction over both names). Then
another name may have an escaped colon there and go on in the key of the
first one. `joined` parts have a colon where a part has one
(`exists_of_joined_eq`), so `Clash` says which pairs of actors these are.
-/
import RivetKit.Cloudflare.Util
import RivetKit.Lib.Escapes

namespace RivetKit.Cloudflare

open Escapes

-- ============================================================ one part

/-- A part with backslashes and separators escaped. -/
def plainPart (part : List Char) : List Char :=
  escape keySeparator (escape '\\' part)

theorem plainPart_eq (part : List Char) :
    plainPart part
      = escapeAll '\\' (fun x => x = '\\' || x = keySeparator) part :=
  replaceAll_replaceAll (by decide) part

theorem escapePart_eq {part : List Char} (h : part ≠ emptyKey) :
    escapePart part = plainPart part := by
  unfold escapePart
  exact if_neg h

/-- The reader with one character more. -/
def KeyReader.add (r : KeyReader) (char : Char) : KeyReader :=
  { r with currentPart := r.currentPart ++ [char] }

theorem KeyReader.foldl_add (part : List Char) :
    ∀ r : KeyReader, part.foldl KeyReader.add r
      = { r with currentPart := r.currentPart ++ part } := by
  induction part with
  | nil =>
    intro r
    simp
  | cons char part ih =>
    intro r
    rw [List.foldl_cons, ih]
    simp [KeyReader.add]

/-- Reading an escaped part. -/
theorem foldl_plainPart (parts : List String) (part : List Char) :
    (plainPart part).foldl KeyReader.read { parts }
      = { parts, currentPart := part } := by
  rw [plainPart_eq]
  have hread : (escapeAll '\\'
        (fun x => x = '\\' || x = keySeparator) part).foldl
        KeyReader.read { parts }
      = part.foldl KeyReader.add { parts } := by
    apply foldl_escapeAll (P := fun r => r.escaping = false)
    · intro r x hr hx
      simp only [Bool.or_eq_false_iff, decide_eq_false_iff_not] at hx
      unfold KeyReader.read
      rw [if_neg (by simp [hr]), if_neg hx.1, if_neg hx.2]
      rfl
    · intro r x hr hx
      unfold KeyReader.read KeyReader.add
      simp [hr]
    · intro r x hr
      exact hr
    · rfl
  rw [hread, KeyReader.foldl_add]
  rfl

theorem foldl_escapePart (parts : List String) (part : List Char) :
    (escapePart part).foldl KeyReader.read { parts }
      = { parts, currentPart := part } := by
  by_cases h : part = emptyKey
  · rw [h]
    rfl
  · rw [escapePart_eq h]
    exact foldl_plainPart parts part

-- ============================================================ all parts

/-- A part as it is written. -/
def escapeString (part : String) : List Char := escapePart part.toList

/-- Parts between separators. -/
def joined (parts : List (List Char)) : List Char :=
  [keySeparator].intercalate parts

theorem joined_singleton (part : List Char) : joined [part] = part :=
  List.intercalate_singleton

theorem joined_cons (part : List Char) {rest : List (List Char)}
    (h : rest ≠ []) :
    joined (part :: rest) = part ++ keySeparator :: joined rest := by
  cases rest with
  | nil => exact absurd rfl h
  | cons other rest =>
    unfold joined
    rw [List.intercalate_cons_cons, List.append_assoc]
    rfl

/-- The first part comes first. -/
theorem exists_joined_eq (part : List Char) (rest : List (List Char)) :
    ∃ t, joined (part :: rest) = part ++ t := by
  by_cases h : rest = []
  · rw [h, joined_singleton]
    exact ⟨[], (List.append_nil part).symm⟩
  · rw [joined_cons _ h]
    exact ⟨_, rfl⟩

theorem serializeKey_cons (part : String) (rest : List String) :
    (serializeKey (part :: rest)).toList
      = joined ((part :: rest).map escapeString) :=
  String.toList_ofList

theorem foldl_escapeString (parts : List String) (part : String) :
    (escapeString part).foldl KeyReader.read { parts }
      = { parts, currentPart := part.toList } :=
  foldl_escapePart parts part.toList

/-- All parts that were read. -/
def KeyReader.all (r : KeyReader) : List String :=
  r.parts ++ [String.ofList r.currentPart]

/-- Reading what is written behind a part. -/
theorem foldl_escapeStrings (rest : List String) :
    ∀ (parts : List String) (part : List Char),
      ((rest.map escapeString).foldl
          (fun (r : KeyReader) (escaped : List Char) =>
            escaped.foldl KeyReader.read
              ([keySeparator].foldl KeyReader.read r))
          { parts, currentPart := part }).all
        = parts ++ String.ofList part :: rest := by
  induction rest with
  | nil =>
    intro parts part
    rfl
  | cons other rest ih =>
    intro parts part
    have hseparator : ({ parts, currentPart := part } : KeyReader).read
        keySeparator = { parts := parts ++ [String.ofList part] } := rfl
    rw [List.map_cons, List.foldl_cons, List.foldl_cons, List.foldl_nil,
      hseparator, foldl_escapeString, ih, String.ofList_toList]
    simp

/-- A first part, however it is escaped, and the others. -/
theorem all_joined {escaped part : List Char}
    (h : escaped.foldl KeyReader.read {} = { currentPart := part })
    (rest : List String) :
    ((joined (escaped :: rest.map escapeString)).foldl
        KeyReader.read {}).all
      = String.ofList part :: rest := by
  unfold joined
  rw [foldl_intercalate, h, foldl_escapeStrings, List.nil_append]

/-- What a key is written as says its parts. -/
theorem all_serializeKey {key : List String} (h : key ≠ []) :
    ((serializeKey key).toList.foldl KeyReader.read {}).all = key := by
  cases key with
  | nil => exact absurd rfl h
  | cons part rest =>
    rw [serializeKey_cons, List.map_cons,
      all_joined (foldl_escapeString [] part), String.ofList_toList]

/-- No other key is written like the empty one. -/
theorem serializeKey_ne_emptyKey {key : List String} (h : key ≠ []) :
    (serializeKey key).toList ≠ emptyKey := by
  intro hempty
  have hall := all_serializeKey h
  rw [hempty] at hall
  have hkey : key = ["(none)"] := by
    rw [← hall]
    rfl
  rw [hkey] at hempty
  exact absurd hempty (by decide)

/-- Two keys are not written alike. -/
theorem serializeKey_inj {key key' : List String}
    (h : (serializeKey key).toList = (serializeKey key').toList) :
    key = key' := by
  by_cases hkey : key = []
  · by_cases hkey' : key' = []
    · rw [hkey, hkey']
    · rw [hkey] at h
      exact absurd h.symm (serializeKey_ne_emptyKey hkey')
  · by_cases hkey' : key' = []
    · rw [hkey'] at h
      exact absurd h (serializeKey_ne_emptyKey hkey)
    · rw [← all_serializeKey hkey, h, all_serializeKey hkey']

/-- The last part is lost if it is empty and the only one. -/
theorem deserializeKey_serializeKey_iff (key : List String) :
    deserializeKey (serializeKey key) = key ↔ key ≠ [""] := by
  constructor
  · intro h hkey
    rw [hkey] at h
    exact absurd h (by decide)
  · intro h
    by_cases hkey : key = []
    · rw [hkey]
      rfl
    have hall := all_serializeKey hkey
    unfold deserializeKey
    by_cases hempty : serializeKey key = ""
    · rw [hempty] at hall
      exact absurd hall.symm h
    rw [if_neg hempty, if_neg (serializeKey_ne_emptyKey hkey)]
    unfold KeyReader.finish
    split
    · exact hall
    · rename_i hlast
      rw [not_or, Classical.not_not] at hlast
      obtain ⟨hpart, hparts⟩ := hlast
      have hnil := List.eq_nil_of_length_eq_zero
        (Nat.eq_zero_of_not_pos hparts)
      unfold KeyReader.all at hall
      rw [hpart, hnil] at hall
      exact absurd hall.symm h

/-- The key of one empty string is read as the key of none. -/
theorem empty_string_lost :
    ¬ ∀ key : List String, deserializeKey (serializeKey key) = key := by
  intro hall
  exact absurd (hall [""]) (by decide)

-- ============================================================ colons

/-- A colon is written as it is. -/
theorem plainPart_eq_append {part before after : List Char}
    (h : plainPart part = before ++ ':' :: after) :
    ∃ x y, part = x ++ ':' :: y ∧ before = plainPart x
      ∧ after = plainPart y := by
  rw [plainPart_eq] at h
  obtain ⟨x, y, hpart, hbefore, hafter⟩ :=
    escapeAll_eq_append (by decide) (by decide) h
  exact ⟨x, y, hpart, by rw [hbefore, plainPart_eq],
    by rw [hafter, plainPart_eq]⟩

theorem plainPart_append (x y : List Char) :
    plainPart (x ++ ':' :: y) = plainPart x ++ ':' :: plainPart y := by
  rw [plainPart_eq, plainPart_eq, plainPart_eq, escapeAll_append,
    escapeAll_cons]
  rfl

/-- A part with a colon is not the marker. -/
theorem ne_emptyKey_of_colon (x y : List Char) :
    x ++ ':' :: y ≠ emptyKey := by
  intro h
  have hmem : ':' ∈ emptyKey := by
    rw [← h]
    exact List.mem_append_right _ (List.mem_cons_self)
  exact absurd hmem (by decide)

/-- Where a written part has a colon, the part has it. -/
theorem escapeString_eq_append {part : String} {before after : List Char}
    (h : escapeString part = before ++ ':' :: after) :
    ∃ x y, part = String.ofList (x ++ ':' :: y) ∧ before = plainPart x
      ∧ after = plainPart y := by
  unfold escapeString at h
  have hpart : part.toList ≠ emptyKey := by
    intro hempty
    rw [hempty] at h
    have hmem : ':' ∈ escapePart emptyKey := by
      rw [h]
      exact List.mem_append_right _ (List.mem_cons_self)
    exact absurd hmem (by decide)
  rw [escapePart_eq hpart] at h
  obtain ⟨x, y, hpart, hbefore, hafter⟩ := plainPart_eq_append h
  exact ⟨x, y, by rw [← hpart, String.ofList_toList], hbefore, hafter⟩

theorem escapeString_append (x y : List Char) :
    escapeString (String.ofList (x ++ ':' :: y))
      = plainPart x ++ ':' :: plainPart y := by
  unfold escapeString
  rw [String.toList_ofList, escapePart_eq (ne_emptyKey_of_colon x y),
    plainPart_append]

/-- Where written parts have a colon, one of them has it. -/
theorem exists_of_joined_eq {parts : List String} :
    ∀ {before after : List Char},
      joined (parts.map escapeString) = before ++ ':' :: after →
        ∃ ps x y qs, parts = ps ++ String.ofList (x ++ ':' :: y) :: qs
          ∧ before = joined (ps.map escapeString ++ [plainPart x])
          ∧ after = joined (plainPart y :: qs.map escapeString) := by
  induction parts with
  | nil =>
    intro before after h
    exact absurd h.symm (by simp [joined])
  | cons part parts ih =>
    intro before after h
    by_cases hparts : parts = []
    · rw [hparts, List.map_cons, List.map_nil, joined_singleton] at h
      obtain ⟨x, y, hpart, hbefore, hafter⟩ := escapeString_eq_append h
      refine ⟨[], x, y, [], by rw [hpart, hparts]; rfl, ?_, ?_⟩
      · rw [hbefore, List.map_nil, List.nil_append, joined_singleton]
      · rw [hafter, List.map_nil, joined_singleton]
    · have hmap : parts.map escapeString ≠ [] := by
        intro hnil
        exact hparts (List.map_eq_nil_iff.1 hnil)
      rw [List.map_cons, joined_cons _ hmap,
        List.append_eq_append_iff] at h
      rcases h with ⟨skipped, hbefore, h⟩ | ⟨kept, hpart, h⟩
      · -- the colon is behind this part
        cases skipped with
        | nil => exact absurd (List.cons.inj h).1 (by decide)
        | cons c skipped =>
          obtain ⟨hc, h⟩ := List.cons.inj h
          obtain ⟨ps, x, y, qs, hps, hskipped, hafter⟩ := ih h
          refine ⟨part :: ps, x, y, qs, by rw [hps]; rfl, ?_, hafter⟩
          rw [hbefore, ← hc, hskipped, List.map_cons, List.cons_append,
            joined_cons _ (by simp)]
      · -- it is in this part
        cases kept with
        | nil => exact absurd (List.cons.inj h).1 (by decide)
        | cons c kept =>
          obtain ⟨hc, h⟩ := List.cons.inj h
          rw [← hc] at hpart
          obtain ⟨x, y, hpart, hbefore, hkept⟩ :=
            escapeString_eq_append hpart
          refine ⟨[], x, y, parts, by rw [hpart]; rfl, ?_, ?_⟩
          · rw [hbefore, List.map_nil, List.nil_append, joined_singleton]
          · rw [h, hkept, joined_cons _ hmap]
            rfl

/-- A part with a colon, and the parts around it. -/
theorem joined_append (ps qs : List String) (x y : List Char) :
    joined ((ps ++ String.ofList (x ++ ':' :: y) :: qs).map escapeString)
      = joined (ps.map escapeString ++ [plainPart x])
        ++ ':' :: joined (plainPart y :: qs.map escapeString) := by
  induction ps with
  | nil =>
    rw [List.nil_append, List.map_cons, escapeString_append, List.map_nil,
      List.nil_append, joined_singleton]
    by_cases hqs : qs.map escapeString = []
    · rw [hqs, joined_singleton, joined_singleton]
    · rw [joined_cons _ hqs, joined_cons _ hqs, List.append_assoc,
        List.cons_append]
  | cons p ps ih =>
    have hbefore : ps.map escapeString ++ [plainPart x] ≠ [] := by simp
    have hall : (ps ++ String.ofList (x ++ ':' :: y) :: qs).map
        escapeString ≠ [] := by simp
    rw [List.cons_append, List.map_cons, joined_cons _ hall, ih,
      List.map_cons, List.cons_append, joined_cons _ hbefore,
      List.append_assoc]
    rfl

-- ============================================================== the rest

/-- The rest of a key behind a colon is written as this key: it is the
key, unless its first part is a marker, which is not escaped there. -/
def RestIs (y : List Char) (qs key : List String) : Prop :=
  (y ≠ emptyKey ∧ key = String.ofList y :: qs)
    ∨ (y = emptyKey ∧ qs = [] ∧ key = [])

theorem joined_rest_iff (y : List Char) (qs key : List String) :
    joined (plainPart y :: qs.map escapeString)
        = (serializeKey key).toList ↔ RestIs y qs key := by
  unfold RestIs
  by_cases hy : y = emptyKey
  · rw [hy]
    constructor
    · intro h
      refine Or.inr ⟨rfl, ?_⟩
      by_cases hkey : key = []
      · refine ⟨?_, hkey⟩
        rw [hkey] at h
        by_cases hqs : qs.map escapeString = []
        · exact List.map_eq_nil_iff.1 hqs
        · rw [joined_cons _ hqs] at h
          have hlength := congrArg List.length h
          rw [List.length_append, List.length_cons] at hlength
          have hsame : (plainPart emptyKey).length
            = (serializeKey []).toList.length := by decide
          omega
      · -- the marker as a part of a key is escaped
        have hread := all_joined (foldl_plainPart [] emptyKey) qs
        rw [h, all_serializeKey hkey] at hread
        rw [hread, serializeKey_cons, List.map_cons] at h
        obtain ⟨t, ht⟩ := exists_joined_eq (plainPart emptyKey)
          (qs.map escapeString)
        obtain ⟨t', ht'⟩ := exists_joined_eq
          (escapeString (String.ofList emptyKey)) (qs.map escapeString)
        rw [ht, ht'] at h
        replace h : some '(' = some '\\' := congrArg List.head? h
        exact absurd h (by decide)
    · intro h
      rcases h with ⟨hne, -⟩ | ⟨-, hqs, hkey⟩
      · exact absurd rfl hne
      · rw [hqs, hkey]
        rfl
  · have hpart : plainPart y = escapeString (String.ofList y) := by
      unfold escapeString
      rw [String.toList_ofList, escapePart_eq hy]
    rw [hpart, ← List.map_cons, ← serializeKey_cons]
    constructor
    · intro h
      exact Or.inl ⟨hy, (serializeKey_inj h).symm⟩
    · intro h
      rcases h with ⟨-, hkey⟩ | ⟨hempty, -⟩
      · rw [hkey]
      · exact absurd hempty hy

-- ============================================================= the names

theorem escape_colon_cons {c : Char} (h : c ≠ ':') (s : List Char) :
    escape ':' (c :: s) = c :: escape ':' s := by
  unfold escape
  rw [List.flatMap_cons, if_neg h]
  rfl

theorem escape_colon_colon (s : List Char) :
    escape ':' (':' :: s) = '\\' :: ':' :: escape ':' s := rfl

/-- A name ends in a backslash where another has a colon, and what is
behind the first goes on as the second does. -/
def Overlap (n₁ s₁ n₂ s₂ : List Char) : Prop :=
  ∃ m u, n₁ = m ++ ['\\'] ∧ n₂ = m ++ ':' :: u
    ∧ s₁ = escape ':' u ++ ':' :: s₂

theorem Overlap.cons {n₁ s₁ n₂ s₂ : List Char}
    (h : Overlap n₁ s₁ n₂ s₂) (c : Char) :
    Overlap (c :: n₁) s₁ (c :: n₂) s₂ := by
  obtain ⟨m, u, h₁, h₂, hs⟩ := h
  exact ⟨c :: m, u, by rw [h₁]; rfl, by rw [h₂]; rfl, hs⟩

/-- A name is read up to its colon, unless it ends in a backslash. -/
theorem overlap_of_eq (n₁ : List Char) :
    ∀ {n₂ s₁ s₂ : List Char},
      escape ':' n₁ ++ ':' :: s₁ = escape ':' n₂ ++ ':' :: s₂ →
        (n₁ = n₂ ∧ s₁ = s₂) ∨ Overlap n₁ s₁ n₂ s₂
          ∨ Overlap n₂ s₂ n₁ s₁ := by
  -- a backslash of one name is the escape of a colon of the other
  have hlast : ∀ {n s n' s' : List Char},
      ':' :: (escape ':' n' ++ ':' :: s') = escape ':' n ++ ':' :: s →
        Overlap ('\\' :: n) s (':' :: n') s' := by
    intro n s n' s' h
    cases n with
    | nil =>
      obtain ⟨-, hs⟩ := List.cons.inj h
      exact ⟨[], n', rfl, rfl, hs.symm⟩
    | cons c n =>
      by_cases hc : c = ':'
      · rw [hc, escape_colon_colon] at h
        exact absurd (List.cons.inj h).1 (by decide)
      · rw [escape_colon_cons hc] at h
        exact absurd (List.cons.inj h).1.symm hc
  induction n₁ with
  | nil =>
    intro n₂ s₁ s₂ h
    cases n₂ with
    | nil => exact Or.inl ⟨rfl, (List.cons.inj h).2⟩
    | cons c n₂ =>
      by_cases hc : c = ':'
      · rw [hc, escape_colon_colon] at h
        exact absurd (List.cons.inj h).1 (by decide)
      · rw [escape_colon_cons hc] at h
        exact absurd (List.cons.inj h).1.symm hc
  | cons a n₁ ih =>
    intro n₂ s₁ s₂ h
    cases n₂ with
    | nil =>
      by_cases ha : a = ':'
      · rw [ha, escape_colon_colon] at h
        exact absurd (List.cons.inj h).1 (by decide)
      · rw [escape_colon_cons ha] at h
        exact absurd (List.cons.inj h).1 ha
    | cons b n₂ =>
      by_cases ha : a = ':'
      · by_cases hb : b = ':'
        · rw [ha, hb, escape_colon_colon, escape_colon_colon] at h
          rcases ih (List.cons.inj (List.cons.inj h).2).2 with
            ⟨hn, hs⟩ | hfirst | hsecond
          · exact Or.inl ⟨by rw [ha, hb, hn], hs⟩
          · rw [ha, hb]
            exact Or.inr (Or.inl (hfirst.cons ':'))
          · rw [ha, hb]
            exact Or.inr (Or.inr (hsecond.cons ':'))
        · rw [ha, escape_colon_colon, escape_colon_cons hb] at h
          obtain ⟨hb', h⟩ := List.cons.inj h
          rw [ha, ← hb']
          exact Or.inr (Or.inr (hlast h))
      · by_cases hb : b = ':'
        · rw [hb, escape_colon_colon, escape_colon_cons ha] at h
          obtain ⟨ha', h⟩ := List.cons.inj h
          rw [hb, ha']
          exact Or.inr (Or.inl (hlast h.symm))
        · rw [escape_colon_cons ha, escape_colon_cons hb] at h
          obtain ⟨hab, h⟩ := List.cons.inj h
          rw [hab]
          rcases ih h with ⟨hn, hs⟩ | hfirst | hsecond
          · exact Or.inl ⟨by rw [hn], hs⟩
          · exact Or.inr (Or.inl (hfirst.cons b))
          · exact Or.inr (Or.inr (hsecond.cons b))

/-- Names that overlap are written alike. -/
theorem eq_of_overlap {n₁ s₁ n₂ s₂ : List Char}
    (h : Overlap n₁ s₁ n₂ s₂) :
    escape ':' n₁ ++ ':' :: s₁ = escape ':' n₂ ++ ':' :: s₂ := by
  obtain ⟨m, u, h₁, h₂, hs⟩ := h
  have happend : ∀ s t : List Char,
      escape ':' (s ++ t) = escape ':' s ++ escape ':' t :=
    fun s t => List.flatMap_append
  rw [h₁, h₂, hs, happend, happend, escape_colon_colon]
  simp [escape]

-- ============================================================ the result

/-- Two actors whose names overlap: the first name ends in a backslash
where the second has a colon, and goes on in the first key, up to a colon
in one of its parts, as the second name does when it is written. Behind
that colon the first key is the second one. -/
def Clash (name : String) (key : List String) (name' : String)
    (key' : List String) : Prop :=
  ∃ m u ps x y qs, name.toList = m ++ ['\\']
    ∧ name'.toList = m ++ ':' :: u
    ∧ key = ps ++ String.ofList (x ++ ':' :: y) :: qs
    ∧ escape ':' u = joined (ps.map escapeString ++ [plainPart x])
    ∧ RestIs y qs key'

theorem serializeNameAndKey_toList (name : String) (key : List String) :
    (serializeNameAndKey name key).toList
      = escape ':' name.toList ++ ':' :: (serializeKey key).toList := by
  unfold serializeNameAndKey
  cases key with
  | nil => exact String.toList_ofList
  | cons part rest => exact String.toList_ofList

theorem overlap_iff_clash (name name' : String) (key key' : List String) :
    Overlap name.toList (serializeKey key).toList name'.toList
        (serializeKey key').toList ↔ Clash name key name' key' := by
  constructor
  · intro h
    obtain ⟨m, u, hname, hname', hkey⟩ := h
    cases key with
    | nil =>
      -- the marker has no colon
      have hmem : ':' ∈ (serializeKey []).toList := by
        rw [hkey]
        exact List.mem_append_right _ (List.mem_cons_self)
      exact absurd hmem (by decide)
    | cons part rest =>
      rw [serializeKey_cons] at hkey
      obtain ⟨ps, x, y, qs, hparts, hbefore, hafter⟩ :=
        exists_of_joined_eq hkey
      exact ⟨m, u, ps, x, y, qs, hname, hname', hparts, hbefore,
        (joined_rest_iff y qs key').1 hafter.symm⟩
  · intro h
    obtain ⟨m, u, ps, x, y, qs, hname, hname', hkey, hbefore, hrest⟩ := h
    refine ⟨m, u, hname, hname', ?_⟩
    have hwritten : (serializeKey key).toList
        = joined (key.map escapeString) := by
      cases key with
      | nil => exact absurd hkey (by simp)
      | cons part rest => exact serializeKey_cons part rest
    rw [hwritten, hkey, joined_append, ← hbefore,
      (joined_rest_iff y qs key').2 hrest]

/-- Two pairs are told apart if and only if neither clashes with the
other. -/
theorem serializeNameAndKey_inj_iff (name name' : String)
    (key key' : List String) :
    (serializeNameAndKey name key = serializeNameAndKey name' key' →
        name = name' ∧ key = key')
      ↔ ¬ Clash name key name' key' ∧ ¬ Clash name' key' name key := by
  rw [← overlap_iff_clash, ← overlap_iff_clash]
  have hne : ∀ {name name' : String} {s s' : List Char},
      Overlap name.toList s name'.toList s' → name ≠ name' := by
    intro name name' s s' h heq
    obtain ⟨m, u, h₁, h₂, -⟩ := h
    rw [heq, h₂] at h₁
    have hsame := List.append_cancel_left h₁
    exact absurd (List.cons.inj hsame).1 (by decide)
  constructor
  · intro h
    constructor
    · intro hclash
      have heq := eq_of_overlap hclash
      rw [← serializeNameAndKey_toList, ← serializeNameAndKey_toList,
        String.toList_inj] at heq
      exact hne hclash (h heq).1
    · intro hclash
      have heq := eq_of_overlap hclash
      rw [← serializeNameAndKey_toList, ← serializeNameAndKey_toList,
        String.toList_inj] at heq
      exact hne hclash (h heq.symm).1.symm
  · intro ⟨hfirst, hsecond⟩ heq
    have hlist := congrArg String.toList heq
    rw [serializeNameAndKey_toList, serializeNameAndKey_toList] at hlist
    rcases overlap_of_eq _ hlist with ⟨hname, hkey⟩ | hclash | hclash
    · exact ⟨String.toList_inj.1 hname, serializeKey_inj hkey⟩
    · exact absurd hclash hfirst
    · exact absurd hclash hsecond

/-- Both are written `a\:b:c`. -/
theorem serializeNameAndKey_backslash :
    ¬ ∀ (name name' : String) (key key' : List String),
      serializeNameAndKey name key = serializeNameAndKey name' key' →
        name = name' ∧ key = key' := by
  intro h
  have hsame : serializeNameAndKey "a\\" ["b:c"]
      = serializeNameAndKey "a:b" ["c"] := by decide
  have hname := (h _ _ _ _ hsame).1
  exact absurd hname (by decide)

end RivetKit.Cloudflare
