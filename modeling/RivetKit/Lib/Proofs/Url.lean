/-
What the URL parser gives of a path without dot segments: its segments,
percent-encoded, so that it reads back what the getters give
(`parseUrl_ofPath`). As a reference such a path stands for itself unless
it begins with two slashes (`resolveUrl_ofPath`); then what is left of it
is shorter (`length_lt_of_resolveUrl`).
-/
import RivetKit.Lib.Url

namespace Js

-- =========================================================== characters

/-- A character that a path can have in a segment. -/
def IsPathChar (c : Char) : Prop := inPathSet c = false ∧ isSlash c = false

private theorem upperHexDigit_plain : ∀ n : Nat, n < 16 →
    (inPathSet (upperHexDigit n) = false
        ∧ isSlash (upperHexDigit n) = false)
      ∧ inSpecialQuerySet (upperHexDigit n) = false := by
  decide

/-- An escape has nothing to escape. -/
theorem plain_percentEncode {b : UInt8} {c : Char}
    (hc : c ∈ percentEncode b) :
    IsPathChar c ∧ inSpecialQuerySet c = false := by
  have hlt := b.toNat_lt
  unfold percentEncode at hc
  rcases List.mem_cons.1 hc with rfl | hc
  · exact ⟨⟨by decide, by decide⟩, by decide⟩
  · rcases List.mem_cons.1 hc with rfl | hc
    · exact upperHexDigit_plain _ (by omega)
    · rw [List.mem_singleton] at hc
      rw [hc]
      exact upperHexDigit_plain _ (by omega)

/-- What is written for a character of a segment. -/
theorem isPathChar_of_mem_encode {c d : Char} (hslash : isSlash c = false)
    (hd : d ∈ encodeUrlChar inPathSet c) : IsPathChar d := by
  unfold encodeUrlChar at hd
  split at hd
  · obtain ⟨b, -, hd⟩ := List.mem_flatMap.1 hd
    exact (plain_percentEncode hd).1
  · rename_i hset
    rw [List.mem_singleton] at hd
    rw [hd]
    exact ⟨Bool.eq_false_iff.2 hset, hslash⟩

/-- What is written for a character of a query. -/
theorem plain_of_mem_encode {c d : Char}
    (hd : d ∈ encodeUrlChar inSpecialQuerySet c) :
    inSpecialQuerySet d = false := by
  unfold encodeUrlChar at hd
  split at hd
  · obtain ⟨b, -, hd⟩ := List.mem_flatMap.1 hd
    exact (plain_percentEncode hd).2
  · rename_i hset
    rw [List.mem_singleton] at hd
    rw [hd]
    exact Bool.eq_false_iff.2 hset

theorem encodeUrlChar_plain {set : Char → Bool} {c : Char}
    (h : set c = false) : encodeUrlChar set c = [c] := by
  unfold encodeUrlChar
  rw [h]
  rfl

/-- A character that neither set has is visible, and no `#`. -/
theorem bounds_of_inQuerySet {c : Char} (h : inQuerySet c = false) :
    0x20 < c.toNat ∧ c ≠ '#' := by
  unfold inQuerySet at h
  simp only [Bool.or_eq_false_iff, decide_eq_false_iff_not] at h
  obtain ⟨⟨hlow, -⟩, hmem⟩ := h
  refine ⟨Nat.lt_of_not_le hlow, ?_⟩
  rintro rfl
  exact absurd hmem (by decide)

theorem bounds_of_inPathSet {c : Char} (h : inPathSet c = false) :
    0x20 < c.toNat ∧ c ≠ '#' ∧ c ≠ '?' := by
  unfold inPathSet at h
  rw [Bool.or_eq_false_iff] at h
  obtain ⟨hquery, hmem⟩ := h
  obtain ⟨hlow, hhash⟩ := bounds_of_inQuerySet hquery
  refine ⟨hlow, hhash, ?_⟩
  rintro rfl
  exact absurd hmem (by decide)

theorem bounds_of_inSpecialQuerySet {c : Char}
    (h : inSpecialQuerySet c = false) : 0x20 < c.toNat ∧ c ≠ '#' := by
  unfold inSpecialQuerySet at h
  rw [Bool.or_eq_false_iff] at h
  exact bounds_of_inQuerySet h.1

-- ============================================================= cleaning

/-- A string of visible characters is clean. -/
theorem cleanUrl_visible {cs : List Char}
    (h : ∀ c ∈ cs, 0x20 < c.toNat) : cleanUrl cs = cs := by
  have hkeep : cs.reverse.dropWhile (·.toNat ≤ 0x20) = cs.reverse := by
    cases hcs : cs.reverse with
    | nil => rfl
    | cons c rest =>
        have hc : c ∈ cs := by
          rw [← List.mem_reverse, hcs]
          exact List.mem_cons_self
        have hlow := h c hc
        rw [List.dropWhile_cons_of_neg]
        simp only [decide_eq_true_eq]
        omega
  unfold cleanUrl
  rw [hkeep, List.reverse_reverse, List.filter_eq_self]
  intro c hc
  have hlow := h c hc
  unfold isTabOrNewline
  simp only [Bool.not_eq_true', Bool.or_eq_false_iff,
    decide_eq_false_iff_not]
  omega

/-- Cleaning leaves visible characters in front as they are. -/
theorem cleanUrl_append {start : List Char}
    (h : ∀ c ∈ start, 0x20 < c.toNat) (cs : List Char) :
    cleanUrl (start ++ cs) = start ++ cleanUrl cs := by
  have hstart := cleanUrl_visible h
  have hfilter : start.filter (!isTabOrNewline ·) = start := by
    rw [List.filter_eq_self]
    intro c hc
    have hlow := h c hc
    unfold isTabOrNewline
    simp only [Bool.not_eq_true', Bool.or_eq_false_iff,
      decide_eq_false_iff_not]
    omega
  unfold cleanUrl at hstart ⊢
  rw [List.reverse_append, List.dropWhile_append]
  split
  · rename_i hall
    have hnil : cs.reverse.dropWhile (·.toNat ≤ 0x20) = [] :=
      List.isEmpty_iff.1 hall
    rw [hstart, hnil]
    exact (List.append_nil start).symm
  · rw [List.reverse_append, List.reverse_reverse, List.filter_append,
      hfilter]

-- ============================================================= segments

/-- The segments of a path, and its query, as the parser gives them. -/
structure IsPath (segments : List (List Char)) : Prop where
  chars : ∀ segment ∈ segments, ∀ c ∈ segment, IsPathChar c
  dotless : ∀ segment ∈ segments, IsDotless segment

/-- A query as the parser gives it. -/
def IsQuery (query : List Char) : Prop :=
  ∀ c ∈ query, inSpecialQuerySet c = false

theorem IsPath.tail {segment : List Char} {segments : List (List Char)}
    (h : IsPath (segment :: segments)) : IsPath segments where
  chars := fun s hs => h.chars s (List.mem_cons_of_mem _ hs)
  dotless := fun s hs => h.dotless s (List.mem_cons_of_mem _ hs)

theorem IsPath.take {segments : List (List Char)} (h : IsPath segments)
    (k : Nat) : IsPath (segments.take k) where
  chars := fun s hs => h.chars s (List.mem_of_mem_take hs)
  dotless := fun s hs => h.dotless s (List.mem_of_mem_take hs)

theorem IsPath.append {p q : List (List Char)} (hp : IsPath p)
    (hq : IsPath q) : IsPath (p ++ q) where
  chars := fun s hs => (List.mem_append.1 hs).elim (hp.chars s)
    (hq.chars s)
  dotless := fun s hs => (List.mem_append.1 hs).elim (hp.dotless s)
    (hq.dotless s)

/-- A segment that is no dot segment is one more. -/
theorem endSegment_dotless {segment : List Char} (h : IsDotless segment)
    (path : List (List Char)) (slash : Bool) :
    endSegment path segment slash = path ++ [segment] := by
  unfold endSegment
  rw [h.1, h.2]
  rfl

/-- Without dot segments, the path is its segments. -/
theorem pathState_fst (cs : List Char) :
    ∀ (path : List (List Char)) (segment : List Char),
      (∀ s ∈ segmentsFrom segment cs, IsDotless s) →
      (pathState path segment cs).1 = path ++ segmentsFrom segment cs := by
  induction cs with
  | nil =>
    intro path segment h
    exact endSegment_dotless (h segment (List.mem_singleton.2 rfl)) _ _
  | cons c cs ih =>
    intro path segment h
    unfold segmentsFrom at h ⊢
    unfold pathState
    by_cases hslash : isSlash c = true
    · rw [if_pos hslash] at h ⊢
      rw [if_pos hslash]
      have hrest := ih (path ++ [segment]) [] fun s hs =>
        h s (List.mem_cons_of_mem _ hs)
      rw [endSegment_dotless (h segment List.mem_cons_self), hrest]
      rw [List.append_assoc]
      rfl
    · rw [if_neg hslash] at h ⊢
      rw [if_neg hslash]
      by_cases hquery : c = '?'
      · have heither : c = '?' ∨ c = '#' := .inl hquery
        rw [if_pos heither] at h ⊢
        rw [if_pos hquery]
        exact endSegment_dotless (h segment (List.mem_singleton.2 rfl)) _ _
      · rw [if_neg hquery]
        by_cases hhash : c = '#'
        · have heither : c = '?' ∨ c = '#' := .inr hhash
          rw [if_pos heither] at h ⊢
          rw [if_pos hhash]
          exact endSegment_dotless (h segment (List.mem_singleton.2 rfl))
            _ _
        · have hneither : ¬ (c = '?' ∨ c = '#') := fun hc =>
            hc.elim hquery hhash
          rw [if_neg hneither] at h ⊢
          rw [if_neg hhash]
          exact ih path _ h

/-- The query does not depend on the path. -/
theorem pathState_snd (cs : List Char) :
    ∀ (path path' : List (List Char)) (segment segment' : List Char),
      (pathState path segment cs).2 = (pathState path' segment' cs).2 := by
  induction cs with
  | nil =>
    intro path path' segment segment'
    rfl
  | cons c cs ih =>
    intro path path' segment segment'
    unfold pathState
    split
    · exact ih _ _ _ _
    · split
      · rfl
      · split
        · rfl
        · exact ih _ _ _ _

/-- It is escaped. -/
theorem isQuery_pathState (cs : List Char) :
    ∀ (path : List (List Char)) (segment : List Char),
      IsQuery (pathState path segment cs).2 := by
  induction cs with
  | nil =>
    intro path segment c hc
    cases hc
  | cons c cs ih =>
    intro path segment
    unfold pathState
    split
    · exact ih _ _
    · split
      · intro d hd
        obtain ⟨e, -, hd⟩ := List.mem_flatMap.1
          (show d ∈ (cs.takeWhile (· ≠ '#')).flatMap
            (encodeUrlChar inSpecialQuerySet) from hd)
        exact plain_of_mem_encode hd
      · split
        · intro d hd
          cases hd
        · exact ih _ _

/-- The characters of the segments. -/
theorem isPathChar_segmentsFrom (cs : List Char) :
    ∀ segment : List Char, (∀ c ∈ segment, IsPathChar c) →
      ∀ s ∈ segmentsFrom segment cs, ∀ c ∈ s, IsPathChar c := by
  induction cs with
  | nil =>
    intro segment h s hs
    rw [List.mem_singleton.1 hs]
    exact h
  | cons c cs ih =>
    intro segment h s hs
    unfold segmentsFrom at hs
    split at hs
    · rcases List.mem_cons.1 hs with rfl | hs
      · exact h
      · exact ih [] (fun d hd => nomatch hd) s hs
    · rename_i hslash
      split at hs
      · rw [List.mem_singleton.1 hs]
        exact h
      · refine ih _ ?_ s hs
        intro d hd
        rcases List.mem_append.1 hd with hd | hd
        · exact h d hd
        · exact isPathChar_of_mem_encode (Bool.eq_false_iff.2 hslash) hd

/-- There is at least one. -/
theorem segmentsFrom_ne_nil (cs : List Char) :
    ∀ segment : List Char, segmentsFrom segment cs ≠ [] := by
  induction cs with
  | nil =>
    intro segment
    exact List.cons_ne_nil _ _
  | cons c cs ih =>
    intro segment
    unfold segmentsFrom
    split
    · exact List.cons_ne_nil _ _
    · split
      · exact List.cons_ne_nil _ _
      · exact ih _

-- ========================================================= reading back

/-- A character of a segment. -/
theorem pathState_char {c : Char} (hc : IsPathChar c)
    (path : List (List Char)) (segment cs : List Char) :
    pathState path segment (c :: cs)
      = pathState path (segment ++ [c]) cs := by
  obtain ⟨hset, hslash⟩ := hc
  obtain ⟨-, hhash, hquery⟩ := bounds_of_inPathSet hset
  rw [pathState, hslash, if_neg Bool.false_ne_true, if_neg hquery,
    if_neg hhash, encodeUrlChar_plain hset]

/-- The characters of a segment. -/
theorem pathState_chars (s : List Char) (hs : ∀ c ∈ s, IsPathChar c) :
    ∀ (path : List (List Char)) (segment cs : List Char),
      pathState path segment (s ++ cs)
        = pathState path (segment ++ s) cs := by
  induction s with
  | nil =>
    intro path segment cs
    rw [List.append_nil]
    rfl
  | cons c s ih =>
    intro path segment cs
    have hrest := ih (fun d hd => hs d (List.mem_cons_of_mem _ hd)) path
      (segment ++ [c]) cs
    rw [List.cons_append, pathState_char (hs c List.mem_cons_self), hrest,
      List.append_assoc]
    rfl

/-- A query is read as it is. -/
theorem queryState_isQuery {query : List Char} (h : IsQuery query) :
    queryState query = query := by
  unfold queryState
  induction query with
  | nil => rfl
  | cons c query ih =>
    have hc := h c List.mem_cons_self
    have hhash := (bounds_of_inSpecialQuerySet hc).2
    have htake : (c :: query).takeWhile (· ≠ '#')
        = c :: query.takeWhile (· ≠ '#') :=
      List.takeWhile_cons_of_pos (decide_eq_true hhash)
    have hrest := ih fun d hd => h d (List.mem_cons_of_mem _ hd)
    rw [htake, List.flatMap_cons, encodeUrlChar_plain hc, hrest]
    rfl

/-- The query. -/
theorem pathState_searchOf {query : List Char} (hquery : IsQuery query)
    (path : List (List Char)) (segment : List Char) :
    pathState path segment (searchOf query)
      = (endSegment path segment false, query) := by
  unfold searchOf
  split
  · rename_i hnil
    rw [hnil]
    rfl
  · show (endSegment path segment false, queryState query) = _
    rw [queryState_isQuery hquery]

/-- The segments behind one that has been read, and the query. -/
theorem pathState_pathnameOf {query : List Char} (hquery : IsQuery query)
    (segments : List (List Char)) (h : IsPath segments) :
    ∀ (path : List (List Char)) (segment : List Char),
      IsDotless segment →
      pathState path segment (pathnameOf segments ++ searchOf query)
        = (path ++ segment :: segments, query) := by
  induction segments with
  | nil =>
    intro path segment hsegment
    show pathState path segment (searchOf query) = _
    rw [pathState_searchOf hquery, endSegment_dotless hsegment]
  | cons s segments ih =>
    intro path segment hsegment
    have hs := h.chars s List.mem_cons_self
    have hdotless := h.dotless s List.mem_cons_self
    have htext : pathnameOf (s :: segments) ++ searchOf query
        = '/' :: (s ++ (pathnameOf segments ++ searchOf query)) := by
      unfold pathnameOf
      rw [List.flatMap_cons, List.append_assoc]
      rfl
    have hrest := ih h.tail (path ++ [segment]) s hdotless
    rw [htext]
    show pathState (endSegment path segment true) [] _ = _
    rw [endSegment_dotless hsegment, pathState_chars s hs, List.nil_append,
      hrest, List.append_assoc]
    rfl

/-- The path and the query, from their start. -/
theorem pathStartState_pathnameOf {query : List Char}
    (hquery : IsQuery query) {segments : List (List Char)}
    (h : IsPath segments) (hne : segments ≠ []) :
    pathStartState (pathnameOf segments ++ searchOf query)
      = (segments, query) := by
  obtain ⟨s, rest, rfl⟩ := List.exists_cons_of_ne_nil hne
  have hs := h.chars s List.mem_cons_self
  have hdotless := h.dotless s List.mem_cons_self
  have htext : pathnameOf (s :: rest) ++ searchOf query
      = '/' :: (s ++ (pathnameOf rest ++ searchOf query)) := by
    unfold pathnameOf
    rw [List.flatMap_cons, List.append_assoc]
    rfl
  rw [htext]
  show pathState [] [] (s ++ _) = _
  rw [pathState_chars s hs, List.nil_append,
    pathState_pathnameOf hquery rest h.tail [] s hdotless]
  rfl

/-- The characters of a path are visible. -/
theorem visible_pathnameOf {segments : List (List Char)}
    (h : IsPath segments) : ∀ c ∈ pathnameOf segments, 0x20 < c.toNat := by
  intro c hc
  obtain ⟨s, hs, hc⟩ := List.mem_flatMap.1 hc
  rcases List.mem_cons.1 hc with rfl | hc
  · decide
  · exact (bounds_of_inPathSet (h.chars s hs c hc).1).1

theorem visible_searchOf {query : List Char} (h : IsQuery query) :
    ∀ c ∈ searchOf query, 0x20 < c.toNat := by
  intro c hc
  unfold searchOf at hc
  split at hc
  · cases hc
  · rcases List.mem_cons.1 hc with rfl | hc
    · decide
    · exact (bounds_of_inSpecialQuerySet (h c hc)).1

/-- Both are clean. -/
theorem cleanUrl_ofPath {segments : List (List Char)} {query : List Char}
    (h : IsPath segments) (hquery : IsQuery query) :
    cleanUrl (pathnameOf segments ++ searchOf query)
      = pathnameOf segments ++ searchOf query := by
  apply cleanUrl_visible
  intro c hc
  rcases List.mem_append.1 hc with hc | hc
  · exact visible_pathnameOf h c hc
  · exact visible_searchOf hquery c hc

/-- What the getters give is read back. -/
theorem parseUrl_ofPath {segments : List (List Char)} {query : List Char}
    (h : IsPath segments) (hne : segments ≠ []) (hquery : IsQuery query) :
    parseUrl (String.ofList (pathnameOf segments)
        ++ String.ofList (searchOf query))
      = .ofPath (segments, query) := by
  unfold parseUrl
  rw [String.toList_append, String.toList_ofList, String.toList_ofList,
    cleanUrl_ofPath h hquery, pathStartState_pathnameOf hquery h hne]

/-- Behind a start whose own segments are `front`, a path without dot
segments is its segments. -/
theorem parseUrl_append {start : List Char} {front : List (List Char)}
    (hvisible : ∀ c ∈ start, 0x20 < c.toNat)
    (hstart : ∀ cs, pathStartState (start ++ cs) = pathState front [] cs)
    {cs : List Char}
    (hdots : ∀ s ∈ segmentsFrom [] (cleanUrl cs), IsDotless s) :
    parseUrl (String.ofList (start ++ cs))
      = .ofPath (front ++ segmentsFrom [] (cleanUrl cs),
          (pathState [] [] (cleanUrl cs)).2) := by
  unfold parseUrl
  rw [String.toList_ofList, cleanUrl_append hvisible, hstart]
  congr 1
  apply Prod.ext
  · exact pathState_fst _ _ _ hdots
  · exact pathState_snd _ _ _ _ _

-- ============================================================ prefixes

theorem pathnameOf_append (p q : List (List Char)) :
    pathnameOf (p ++ q) = pathnameOf p ++ pathnameOf q :=
  List.flatMap_append

/-- What is in front of a slash is a number of segments. -/
theorem exists_take_of_pathnameOf (segments : List (List Char))
    (h : IsPath segments) :
    ∀ start rest : List Char, pathnameOf segments = start ++ '/' :: rest →
      ∃ k, start = pathnameOf (segments.take k) := by
  induction segments with
  | nil =>
    intro start rest heq
    have hlength := congrArg List.length heq
    rw [List.length_append] at hlength
    exact nomatch hlength
  | cons s segments ih =>
    intro start rest heq
    have hcons : pathnameOf (s :: segments)
        = ('/' :: s) ++ pathnameOf segments := List.flatMap_cons
    rw [hcons, List.append_eq_append_iff] at heq
    rcases heq with ⟨mid, hstart, hmid⟩ | ⟨mid, hs, hmid⟩
    · -- the slash is behind this segment
      obtain ⟨k, hk⟩ := ih h.tail mid rest hmid
      refine ⟨k + 1, ?_⟩
      rw [hstart, hk]
      exact (List.flatMap_cons).symm
    · cases mid with
      | nil =>
          rw [List.append_nil] at hs
          refine ⟨1, ?_⟩
          rw [← hs]
          exact (List.append_nil _).symm
      | cons c mid =>
          injection hmid with hc hmid
          subst hc
          cases start with
          | nil => exact ⟨0, rfl⟩
          | cons d start =>
              -- a slash in the segment
              rw [List.cons_append] at hs
              injection hs with hd hs
              have hslash := h.chars s List.mem_cons_self '/' (by
                rw [hs]
                exact List.mem_append_right _ List.mem_cons_self)
              exact absurd hslash.2 (by decide)

-- =========================================================== references

variable {accepts : List Char → Bool}

/-- The second character is no slash, unless the path begins with two. -/
theorem resolveUrl_ofPath {segments : List (List Char)}
    {query : List Char} (h : IsPath segments) (hne : segments ≠ [])
    (hquery : IsQuery query)
    (hone : ¬ ['/', '/'] <+: pathnameOf segments) :
    resolveUrl accepts (String.ofList (pathnameOf segments)
        ++ String.ofList (searchOf query))
      = some (.ofPath (segments, query)) := by
  have hstart := pathStartState_pathnameOf hquery h hne
  have hclean := cleanUrl_ofPath h hquery
  have hsecond : ∀ c d rest,
      pathnameOf segments ++ searchOf query = c :: d :: rest →
        isSlash d = false := by
    obtain ⟨s, segments, rfl⟩ := List.exists_cons_of_ne_nil hne
    intro c d rest heq
    cases s with
    | cons e s =>
        injection heq with hc heq
        injection heq with hd heq
        rw [← hd]
        exact (h.chars _ List.mem_cons_self e List.mem_cons_self).2
    | nil =>
        cases segments with
        | cons s segments =>
            exact absurd ⟨s ++ pathnameOf segments, rfl⟩ hone
        | nil =>
            injection heq with hc heq
            replace heq : searchOf query = d :: rest := heq
            unfold searchOf at heq
            split at heq
            · exact absurd heq (by simp)
            · injection heq with hd heq
              rw [← hd]
              rfl
  unfold resolveUrl
  rw [String.toList_append, String.toList_ofList, String.toList_ofList,
    hclean]
  split
  · rename_i c d rest heq
    rw [hsecond c d rest heq, Bool.and_false, if_neg Bool.false_ne_true,
      ← heq, hstart]
  · rw [hstart]

/-- The end of a segment adds a slash at most. -/
theorem length_endSegment (path : List (List Char)) (segment : List Char)
    (slash : Bool) :
    (pathnameOf (endSegment path segment slash)).length
      ≤ (pathnameOf path).length + 1 + segment.length := by
  have hdrop : (pathnameOf path.dropLast).length
      ≤ (pathnameOf path).length := by
    obtain ⟨last, hlast⟩ := List.dropLast_prefix path
    have hall := congrArg (List.length ∘ pathnameOf) hlast
    simp only [Function.comp_apply, pathnameOf_append,
      List.length_append] at hall
    omega
  have happend : ∀ (p : List (List Char)) (s : List Char),
      (pathnameOf (p ++ [s])).length
        = (pathnameOf p).length + 1 + s.length := by
    intro p s
    rw [pathnameOf_append, List.length_append]
    show _ + ('/' :: s ++ []).length = _
    rw [List.append_nil, List.length_cons]
    omega
  unfold endSegment
  split
  · split
    · omega
    · rw [happend, List.length_nil]
      omega
  · split
    · split
      · omega
      · rw [happend, List.length_nil]
        omega
    · exact Nat.le_of_eq (happend _ _)

/-- Characters that stand for themselves make no path longer than they
are. -/
theorem length_pathState (query cs : List Char)
    (hcs : ∀ c ∈ cs, inPathSet c = false) :
    ∀ (path : List (List Char)) (segment : List Char),
      (pathnameOf (pathState path segment (cs ++ searchOf query)).1).length
        ≤ (pathnameOf path).length + 1 + segment.length + cs.length := by
  induction cs with
  | nil =>
    intro path segment
    have hend := length_endSegment path segment false
    have hread : (pathState path segment ([] ++ searchOf query)).1
        = endSegment path segment false := by
      unfold searchOf
      split <;> rfl
    rw [hread]
    omega
  | cons c cs ih =>
    intro path segment
    have hset := hcs c List.mem_cons_self
    have hrest := ih fun d hd => hcs d (List.mem_cons_of_mem _ hd)
    rw [List.cons_append, List.length_cons]
    by_cases hslash : isSlash c = true
    · have hend := length_endSegment path segment true
      have hpath := hrest (endSegment path segment true) []
      rw [pathState, if_pos hslash]
      rw [List.length_nil] at hpath
      omega
    · have hpath := hrest path (segment ++ [c])
      rw [pathState_char ⟨hset, Bool.eq_false_iff.2 hslash⟩]
      rw [List.length_append, List.length_singleton] at hpath
      omega

/-- Dropping stops at the query. -/
theorem dropWhile_append_searchOf {p : Char → Bool} (hp : p '?' = false)
    (cs query : List Char) :
    (cs ++ searchOf query).dropWhile p
      = cs.dropWhile p ++ searchOf query := by
  have hsearch : (searchOf query).dropWhile p = searchOf query := by
    unfold searchOf
    split
    · rfl
    · rw [List.dropWhile_cons_of_neg]
      rw [hp]
      exact Bool.false_ne_true
  rw [List.dropWhile_append, hsearch]
  split
  · rename_i hnil
    rw [List.isEmpty_iff.1 hnil]
    rfl
  · rfl

/-- Behind two slashes and an authority there is less of the path. -/
theorem length_lt_of_resolveUrl {segments : List (List Char)}
    {query : List Char} (h : IsPath segments) (hquery : IsQuery query)
    (htwo : ['/', '/'] <+: pathnameOf segments) {url : Url}
    (hurl : resolveUrl accepts (String.ofList (pathnameOf segments)
        ++ String.ofList (searchOf query)) = some url) :
    url.pathname.toList.length < (pathnameOf segments).length := by
  obtain ⟨cs, hcs⟩ := htwo
  have hcs : pathnameOf segments = '/' :: '/' :: cs := hcs.symm
  have hset : ∀ c ∈ cs, inPathSet c = false := by
    intro c hc
    have hmem : c ∈ pathnameOf segments := by
      rw [hcs]
      exact List.mem_cons_of_mem _ (List.mem_cons_of_mem _ hc)
    obtain ⟨s, hs, hc⟩ := List.mem_flatMap.1 hmem
    rcases List.mem_cons.1 hc with rfl | hc
    · decide
    · exact (h.chars s hs c hc).1
  unfold resolveUrl at hurl
  rw [String.toList_append, String.toList_ofList, String.toList_ofList,
    cleanUrl_ofPath h hquery, hcs] at hurl
  replace hurl : (if accepts _ then some (Url.ofPath (pathStartState
      (((cs ++ searchOf query).dropWhile isSlash).dropWhile
        (!endsAuthority ·)))) else none) = some url := hurl
  rw [dropWhile_append_searchOf (by decide),
    dropWhile_append_searchOf (by decide)] at hurl
  generalize hleft :
    (cs.dropWhile isSlash).dropWhile (!endsAuthority ·) = left at hurl
  have hsuffix : left <:+ cs := by
    rw [← hleft]
    exact (List.dropWhile_suffix _).trans (List.dropWhile_suffix _)
  have hshort := hsuffix.length_le
  have hplain : ∀ c ∈ left, inPathSet c = false := fun c hc =>
    hset c (hsuffix.subset hc)
  split at hurl
  · injection hurl with hurl
    rw [← hurl, hcs]
    show (String.ofList (pathnameOf _)).toList.length < _
    rw [String.toList_ofList, List.length_cons, List.length_cons]
    cases left with
    | nil =>
        have hbound := length_pathState query [] (fun c hc => nomatch hc)
          [] []
        have hstart : pathStartState ([] ++ searchOf query)
            = pathState [] [] ([] ++ searchOf query) := by
          unfold searchOf
          split <;> rfl
        rw [hstart]
        replace hbound : _ ≤ 0 + 1 + 0 + 0 := hbound
        omega
    | cons c left =>
        -- the authority ended at a slash
        have hends : endsAuthority c = true := by
          have hhead := List.head?_dropWhile_not (!endsAuthority ·)
            (cs.dropWhile isSlash)
          rw [hleft] at hhead
          simpa using hhead
        have hslash : isSlash c = true := by
          obtain ⟨-, hhash, hmark⟩ :=
            bounds_of_inPathSet (hplain c List.mem_cons_self)
          unfold endsAuthority at hends
          simp only [Bool.or_eq_true, decide_eq_true_eq] at hends
          rcases hends with (hends | hends) | hends
          · exact hends
          · exact absurd hends hmark
          · exact absurd hends hhash
        have hbound := length_pathState query left
          (fun d hd => hplain d (List.mem_cons_of_mem _ hd)) [] []
        have hstart : pathStartState (c :: left ++ searchOf query)
            = pathState [] [] (left ++ searchOf query) := by
          show pathState [] [] (if isSlash c then _ else _) = _
          rw [if_pos hslash]
          rfl
        rw [hstart]
        rw [List.length_cons] at hshort
        replace hbound : _ ≤ 0 + 1 + 0 + left.length := hbound
        omega
  · exact absurd hurl (by simp)

end Js
