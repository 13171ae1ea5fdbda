/-
The subprotocols of a WebSocket handshake: what `new WebSocket(url,
protocols)` takes, and the header it sends.

# Reading the list back

The elements are tokens, so none of them has a comma or white space in
it: splitting the header at commas and trimming the parts gives the list
that was sent (`map_trim_split`). Of any list at all it gives the parts of
its entries (`partsOf_joinProtocols`).
-/
import RivetKit.Lib.Headers
import RivetKit.Lib.Text

namespace Js

-- ============================================================== tokens

/-- A character of a token; `'` is U+0027 and the grave accent is
U+0060. -/
def isTokenChar (c : Char) : Bool :=
  c.isAlphanum
    || ['!', '#', '$', '%', '&', Char.ofNat 0x27, '*', '+', '-', '.', '^',
        '_', Char.ofNat 0x60, '|', '~'].contains c

/-- What `new WebSocket` takes for a subprotocol. -/
def IsToken (s : String) : Prop :=
  s ≠ "" ∧ ∀ c ∈ s.toList, isTokenChar c = true

/-- A test of the characters in turn. -/
theorem isToken_iff (s : String) :
    s ≠ "" ∧ s.toList.all isTokenChar = true ↔ IsToken s := by
  unfold IsToken
  rw [List.all_eq_true]

instance (s : String) : Decidable (IsToken s) :=
  decidable_of_iff _ (isToken_iff s)

/-- A property of characters, tested in turn. -/
theorem forall_mem_of_all {p : Char → Prop} [DecidablePred p]
    {cs : List Char} (h : (cs.all fun c => decide (p c)) = true) :
    ∀ c ∈ cs, p c := by
  intro c hc
  exact of_decide_eq_true (List.all_eq_true.1 h c hc)

/-- A token's characters are neither commas nor white space, and are
bytes. -/
theorem bounds_of_isTokenChar {c : Char} (h : isTokenChar c = true) :
    0x20 < c.toNat ∧ c.toNat < 0x7f ∧ c ≠ ',' := by
  unfold isTokenChar at h
  rw [Bool.or_eq_true] at h
  rcases h with h | h
  · unfold Char.isAlphanum Char.isAlpha Char.isUpper Char.isLower
      Char.isDigit at h
    simp only [ge_iff_le, Bool.or_eq_true, Bool.and_eq_true,
      decide_eq_true_eq, UInt32.le_iff_toNat_le] at h
    have hA : ('A'.val : UInt32).toNat = 65 := rfl
    have hZ : ('Z'.val : UInt32).toNat = 90 := rfl
    have ha : ('a'.val : UInt32).toNat = 97 := rfl
    have hz : ('z'.val : UInt32).toNat = 122 := rfl
    have h0 : ('0'.val : UInt32).toNat = 48 := rfl
    have h9 : ('9'.val : UInt32).toNat = 57 := rfl
    have hval : c.val.toNat = c.toNat := rfl
    rw [hA, hZ, ha, hz, h0, h9, hval] at h
    refine ⟨by omega, by omega, ?_⟩
    rintro rfl
    exact absurd h (by decide)
  · have hall : ∀ d ∈ ['!', '#', '$', '%', '&', Char.ofNat 0x27, '*', '+',
        '-', '.', '^', '_', Char.ofNat 0x60, '|', '~'],
        0x20 < d.toNat ∧ d.toNat < 0x7f ∧ d ≠ ',' :=
      forall_mem_of_all rfl
    exact hall c (List.contains_iff_mem.1 h)

theorem isSpace_of_isTokenChar {c : Char} (h : isTokenChar c = true) :
    isSpace c = false := by
  obtain ⟨hlow, hhigh, -⟩ := bounds_of_isTokenChar h
  unfold isSpace
  simp only [Bool.or_eq_false_iff, Bool.and_eq_false_iff,
    decide_eq_false_iff_not]
  omega

-- ============================================================== the list

/-- `Sec-WebSocket-Protocol`, of a list that is not empty: `none` where
`new WebSocket` throws a `SyntaxError`. -/
def protocolHeader (protocols : List String) : Option String :=
  if (∀ p ∈ protocols, IsToken p) ∧ protocols.Nodup then
    some (String.ofList
      ([',', ' '].intercalate (protocols.map String.toList)))
  else none

/-- The rest of a part, up to the comma behind it. -/
theorem splitFrom_comma (p rest : List Char) (hp : ',' ∉ p) :
    ∀ part : List Char, splitFrom [','] 0 part (p ++ ',' :: rest)
      = (part.reverse ++ p) :: splitFrom [','] 0 [] rest := by
  induction p with
  | nil =>
    intro part
    rw [List.append_nil]
    rfl
  | cons c p ih =>
    intro part
    have hc : (',' == c) = false := by
      rw [beq_eq_false_iff_ne]
      rintro rfl
      exact hp List.mem_cons_self
    have hrest := ih (fun h => hp (List.mem_cons_of_mem _ h)) (c :: part)
    rw [List.cons_append]
    simp only [splitFrom, List.isPrefixOf, hc, Bool.false_and,
      Bool.false_eq_true, if_false]
    rw [hrest, List.reverse_cons, List.append_assoc]
    rfl

/-- The last part. -/
theorem splitFrom_last (p : List Char) (hp : ',' ∉ p) :
    ∀ part : List Char,
      splitFrom [','] 0 part p = [part.reverse ++ p] := by
  induction p with
  | nil =>
    intro part
    rw [List.append_nil]
    rfl
  | cons c p ih =>
    intro part
    have hc : (',' == c) = false := by
      rw [beq_eq_false_iff_ne]
      rintro rfl
      exact hp List.mem_cons_self
    have hrest := ih (fun h => hp (List.mem_cons_of_mem _ h)) (c :: part)
    simp only [splitFrom, List.isPrefixOf, hc, Bool.false_and,
      Bool.false_eq_true, if_false]
    rw [hrest, List.reverse_cons, List.append_assoc]
    rfl

/-- The parts of a joined list: every one but the first behind a
blank. -/
theorem splitFrom_intercalate (ps : List (List Char)) :
    ∀ p part : List Char, (∀ q ∈ p :: ps, ',' ∉ q) →
      splitFrom [','] 0 part ([',', ' '].intercalate (p :: ps))
        = (part.reverse ++ p) :: ps.map (' ' :: ·) := by
  induction ps with
  | nil =>
    intro p part hps
    rw [List.intercalate_singleton]
    exact splitFrom_last p (hps p List.mem_cons_self) part
  | cons q ps ih =>
    intro p part hps
    have hp := hps p List.mem_cons_self
    have hrest := ih q [' '] fun r hr =>
      hps r (List.mem_cons_of_mem _ hr)
    rw [List.intercalate_cons_cons, List.append_assoc]
    show splitFrom [','] 0 part (p ++ ',' :: ' ' :: _) = _
    rw [splitFrom_comma p _ hp]
    show (part.reverse ++ p)
      :: splitFrom [','] 0 [' '] ([',', ' '].intercalate (q :: ps)) = _
    rw [hrest]
    rfl

/-- A comma parts what is in front of it from what is behind it. -/
theorem splitFrom_append_comma (p rest : List Char) :
    ∀ part : List Char, splitFrom [','] 0 part (p ++ ',' :: rest)
      = splitFrom [','] 0 part p ++ splitFrom [','] 0 [] rest := by
  induction p with
  | nil =>
    intro part
    rfl
  | cons c p ih =>
    intro part
    rw [List.cons_append]
    simp only [splitFrom]
    have hsame : [','].isPrefixOf (c :: (p ++ ',' :: rest))
        = [','].isPrefixOf (c :: p) := by
      simp [List.isPrefixOf]
    rw [hsame]
    split
    · rw [List.cons_append]
      congr 1
      exact ih []
    · exact ih (c :: part)

/-- What has been read is in front of the first part. -/
theorem splitFrom_part (p : List Char) :
    ∃ first rest, ∀ part : List Char,
      splitFrom [','] 0 part p = (part.reverse ++ first) :: rest := by
  induction p with
  | nil => exact ⟨[], [], fun part => by simp [splitFrom]⟩
  | cons c p ih =>
    obtain ⟨first, rest, hsplit⟩ := ih
    by_cases hc : [','].isPrefixOf (c :: p) = true
    · refine ⟨[], splitFrom [','] 0 [] p, ?_⟩
      intro part
      simp only [splitFrom, hc, if_true, List.append_nil]
      rfl
    · refine ⟨c :: first, rest, ?_⟩
      intro part
      simp only [splitFrom, hc, Bool.false_eq_true, if_false]
      rw [hsplit, List.reverse_cons, List.append_assoc]
      rfl

/-- Trimming takes the blank in front. -/
theorem trim_blank (p : List Char) :
    trim (String.ofList (' ' :: p)) = trim (String.ofList p) := by
  unfold trim
  rw [String.toList_ofList, String.toList_ofList]
  rw [List.dropWhile_cons_of_pos rfl]

/-- Trimming takes the blank in front of a token. -/
theorem trim_token {p : List Char} (start : List Char)
    (hstart : ∀ c ∈ start, isSpace c = true)
    (hp : ∀ c ∈ p, isSpace c = false) :
    trim (String.ofList (start ++ p)) = String.ofList p := by
  have hkeep : ∀ cs : List Char, (∀ c ∈ cs, isSpace c = false) →
      cs.dropWhile isSpace = cs := by
    intro cs hcs
    cases cs with
    | nil => rfl
    | cons c cs =>
      rw [List.dropWhile_cons_of_neg]
      rw [hcs c List.mem_cons_self]
      exact Bool.false_ne_true
  unfold trim
  rw [String.toList_ofList, List.dropWhile_append_of_pos hstart]
  rw [hkeep p hp, hkeep p.reverse, List.reverse_reverse]
  intro c hc
  exact hp c (List.mem_reverse.1 hc)

/-- What the server reads is what was sent. -/
theorem map_trim_split {protocols : List String} {s : String}
    (hne : protocols ≠ []) (h : protocolHeader protocols = some s) :
    (split "," s).map trim = protocols := by
  unfold protocolHeader at h
  split at h
  · rename_i htokens
    obtain ⟨htokens, -⟩ := htokens
    injection h with h
    obtain ⟨p, ps, rfl⟩ : ∃ p ps, protocols = p :: ps :=
      List.exists_cons_of_ne_nil hne
    have hcomma : ∀ q ∈ p.toList :: ps.map String.toList, ',' ∉ q := by
      intro q hq hmem
      obtain ⟨r, hr, rfl⟩ := List.mem_map.1
        (show q ∈ (p :: ps).map String.toList from hq)
      have hbounds := bounds_of_isTokenChar ((htokens r hr).2 ',' hmem)
      exact hbounds.2.2 rfl
    have htrim : ∀ start : List Char, (∀ c ∈ start, isSpace c = true) →
        ∀ q ∈ p :: ps, trim (String.ofList (start ++ q.toList)) = q := by
      intro start hstart q hq
      rw [trim_token start hstart fun c hc =>
        isSpace_of_isTokenChar ((htokens q hq).2 c hc)]
      exact String.ofList_toList
    have hlist : s.toList
        = [',', ' '].intercalate ((p :: ps).map String.toList) := by
      rw [← h, String.toList_ofList]
    unfold split
    rw [hlist]
    show List.map trim (List.map String.ofList (splitFrom [','] 0 []
      ([',', ' '].intercalate (p.toList :: ps.map String.toList)))) = _
    rw [splitFrom_intercalate _ _ _ hcomma]
    simp only [List.map_cons, List.map_map, List.reverse_nil]
    rw [htrim [] (fun _ hc => nomatch hc) p List.mem_cons_self]
    congr 1
    calc ps.map (trim ∘ String.ofList ∘ (' ' :: ·) ∘ String.toList)
        = ps.map id := by
          apply List.map_congr_left
          intro q hq
          exact htrim [' '] (forall_mem_of_all rfl) q
            (List.mem_cons_of_mem _ hq)
      _ = ps := List.map_id ps
  · exact absurd h (by simp)

/-- The entries of a list, joined by comma and blank. -/
def joinProtocols (protocols : List String) : String :=
  String.ofList ([',', ' '].intercalate (protocols.map String.toList))

/-- What is read of one entry: a comma in it makes more of it. -/
def partsOf (protocol : String) : List String :=
  (split "," protocol).map trim

theorem partsOf_ofList (cs : List Char) :
    partsOf (String.ofList cs)
      = ((splitFrom [','] 0 [] cs).map String.ofList).map trim := by
  have hcs : (String.ofList cs).toList = cs := String.toList_ofList
  unfold partsOf split
  rw [hcs]
  rfl

/-- What is read of the joined list is what is read of its entries. -/
theorem partsOf_joinProtocols (ps : List String) :
    ∀ p : String, partsOf (joinProtocols (p :: ps))
      = (p :: ps).flatMap partsOf := by
  induction ps with
  | nil =>
    intro p
    unfold joinProtocols
    rw [List.map_singleton, List.intercalate_singleton,
      String.ofList_toList, List.flatMap_singleton]
  | cons q ps ih =>
    intro p
    have hsplit : ∀ cs : List Char,
        ((splitFrom [','] 0 [' '] cs).map String.ofList).map trim
          = ((splitFrom [','] 0 [] cs).map String.ofList).map trim := by
      intro cs
      obtain ⟨first, rest, hparts⟩ := splitFrom_part cs
      rw [hparts, hparts]
      simp only [List.map_cons]
      exact congrArg (· :: _) (trim_blank first)
    have hrest := ih q
    have hp : partsOf p
        = ((splitFrom [','] 0 [] p.toList).map String.ofList).map trim := by
      rw [← partsOf_ofList, String.ofList_toList]
    unfold joinProtocols at hrest ⊢
    rw [partsOf_ofList] at hrest ⊢
    rw [List.flatMap_cons, ← hrest, hp]
    simp only [List.map_cons, List.intercalate_cons_cons]
    rw [List.append_assoc, List.cons_append, splitFrom_append_comma,
      List.map_append, List.map_append]
    exact congrArg (_ ++ ·) (hsplit _)

/-- An entry without commas and white space. -/
theorem partsOf_plain {p : String}
    (hp : ∀ c ∈ p.toList, c ≠ ',' ∧ isSpace c = false) :
    partsOf p = [p] := by
  rw [← String.ofList_toList (s := p), partsOf_ofList, String.ofList_toList]
  rw [splitFrom_last p.toList (fun hmem => (hp ',' hmem).1 rfl) []]
  have htrim := trim_token [] (fun _ hc => nomatch hc) fun c hc => (hp c hc).2
  rw [List.nil_append, String.ofList_toList] at htrim
  simp only [List.reverse_nil, List.nil_append, String.ofList_toList,
    List.map_cons, List.map_nil, htrim]

/-- A joined list of tokens starts and ends with characters of theirs,
and beside these only has commas and blanks. -/
theorem intercalate_tokens (ps : List (List Char)) :
    ∀ p : List Char, (∀ q ∈ p :: ps, q ≠ []
        ∧ ∀ c ∈ q, isTokenChar c = true) →
      (∃ c cs, [',', ' '].intercalate (p :: ps) = c :: cs
          ∧ isTokenChar c = true)
        ∧ (∃ c, ([',', ' '].intercalate (p :: ps)).getLast? = some c
          ∧ isTokenChar c = true)
        ∧ ∀ c ∈ [',', ' '].intercalate (p :: ps),
          isTokenChar c = true ∨ c = ',' ∨ c = ' ' := by
  have hhead : ∀ p : List Char, p ≠ [] → (∀ c ∈ p, isTokenChar c = true) →
      ∀ rest, ∃ c cs, p ++ rest = c :: cs ∧ isTokenChar c = true := by
    intro p hne hp rest
    obtain ⟨c, p, rfl⟩ := List.exists_cons_of_ne_nil hne
    exact ⟨c, p ++ rest, rfl, hp c List.mem_cons_self⟩
  induction ps with
  | nil =>
    intro p hps
    obtain ⟨hne, hp⟩ := hps p List.mem_cons_self
    rw [List.intercalate_singleton]
    refine ⟨?_, ?_, fun c hc => Or.inl (hp c hc)⟩
    · have h := hhead p hne hp []
      rw [List.append_nil] at h
      exact h
    · exact ⟨p.getLast hne, List.getLast?_eq_some_getLast hne,
        hp _ (List.getLast_mem hne)⟩
  | cons q ps ih =>
    intro p hps
    obtain ⟨hne, hp⟩ := hps p List.mem_cons_self
    obtain ⟨⟨d, ds, hfirst, -⟩, ⟨e, hlast, he⟩, hmem⟩ := ih q fun r hr =>
      hps r (List.mem_cons_of_mem _ hr)
    rw [List.intercalate_cons_cons]
    refine ⟨?_, ⟨e, ?_, he⟩, ?_⟩
    · rw [List.append_assoc]
      exact hhead p hne hp _
    · rw [List.getLast?_append, hlast]
      rfl
    · intro c hc
      rcases List.mem_append.1 hc with hc | hc
      · rcases List.mem_append.1 hc with hc | hc
        · exact Or.inl (hp c hc)
        · exact Or.inr (by simpa using hc)
      · exact hmem c hc

/-- The list is a header value. -/
theorem isValue_protocolHeader {protocols : List String} {s : String}
    (hne : protocols ≠ []) (h : protocolHeader protocols = some s) :
    Http.IsValue s := by
  unfold protocolHeader at h
  split at h
  · rename_i htokens
    obtain ⟨htokens, -⟩ := htokens
    injection h with h
    obtain ⟨p, ps, rfl⟩ : ∃ p ps, protocols = p :: ps :=
      List.exists_cons_of_ne_nil hne
    obtain ⟨⟨c, cs, hfirst, hc⟩, ⟨d, hlast, hd⟩, hmem⟩ :=
      intercalate_tokens (ps.map String.toList) p.toList fun q hq => by
        obtain ⟨r, hr, rfl⟩ := List.mem_map.1
          (show q ∈ (p :: ps).map String.toList from hq)
        refine ⟨fun hnil => (htokens r hr).1 ?_, (htokens r hr).2⟩
        exact String.toList_eq_nil_iff.1 hnil
    have hends : ∀ e : Char, isTokenChar e = true →
        Http.isWhitespace e = false := by
      intro e he
      obtain ⟨hlow, -, -⟩ := bounds_of_isTokenChar he
      unfold Http.isWhitespace
      simp only [Bool.or_eq_false_iff, decide_eq_false_iff_not]
      refine ⟨⟨⟨?_, ?_⟩, ?_⟩, ?_⟩
      all_goals
        rintro rfl
        exact absurd hlow (by decide)
    rw [← h]
    refine ⟨Http.normalizeValue_of_ends (congrArg List.head? hfirst)
      hlast (hends c hc) (hends d hd), ?_⟩
    intro e he
    rw [String.toList_ofList] at he
    unfold Http.isValueChar
    rcases hmem e he with he | rfl | rfl
    · obtain ⟨hlow, hhigh, -⟩ := bounds_of_isTokenChar he
      simp only [Bool.and_eq_true, decide_eq_true_eq]
      refine ⟨⟨⟨by omega, by omega⟩, ?_⟩, ?_⟩
      · rintro rfl
        exact absurd hlow (by decide)
      · rintro rfl
        exact absurd hlow (by decide)
    · rfl
    · rfl
  · exact absurd h (by simp)

end Js
