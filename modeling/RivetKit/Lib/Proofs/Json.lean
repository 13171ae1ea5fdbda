/-
Reading undoes writing: `parse` of the text of a JSON value is that
value (`parse_print`), for every value whose objects have no name twice
and whose numbers are doubles (`Json.Valid`).

# Shape of the proof

One lemma for each layer of the parser, about the printed text followed
by anything: a character of a string, a string, a list of elements, a
list of members, a value. The layers of lists take the reader of values
as an argument, so each is an induction on the list alone. The fuel is
measured against the length of the text.
-/
import RivetKit.Lib.Json

namespace Js

variable {text : NumberText}

-- ============================================================ validity

mutual

/-- The values JSON texts stand for. -/
def Json.Valid : Json → Prop
  | .num q => IsDouble q
  | .arr xs => ElementsValid xs
  | .obj members => (members.map (·.1)).Nodup ∧ MembersValid members
  | _ => True

/-- The elements are valid. -/
def ElementsValid : List Json → Prop
  | [] => True
  | x :: xs => x.Valid ∧ ElementsValid xs

/-- The values of the members are valid. -/
def MembersValid : List (String × Json) → Prop
  | [] => True
  | (_, x) :: xs => x.Valid ∧ MembersValid xs

end

-- ============================================================= strings

private theorem hexValue_hexDigit_all :
    ∀ n : Nat, n < 16 → hexValue (hexDigit n) = some n := by
  decide

/-- The escape of a control character. -/
theorem parseUnicode_escape (c : Char) (hc : c.toNat < 0x20)
    (rest : List Char) :
    parseUnicode ('0' :: '0' :: hexDigit (c.toNat / 16)
      :: hexDigit (c.toNat % 16) :: rest) = some (c, rest) := by
  have hhigh := hexValue_hexDigit_all (c.toNat / 16) (by omega)
  have hlow := hexValue_hexDigit_all (c.toNat % 16) (by omega)
  have hzero : hexValue '0' = some 0 := by decide
  have hunit : ((0 * 16 + 0) * 16 + c.toNat / 16) * 16 + c.toNat % 16
      = c.toNat := by omega
  unfold parseUnicode parseCodeUnit
  simp only [hzero, hhigh, hlow, hunit]
  rw [if_pos (Or.inl (by omega)), Char.ofNat_toNat]

private theorem char_eq_ofNat {c : Char} {n : Nat} (h : c.toNat = n) :
    c = Char.ofNat n := by
  rw [← h, Char.ofNat_toNat]

/-- Behind a backslash. -/
theorem parseChar_escape {cs rest : List Char} {c : Char}
    (h : parseEscape cs = some (c, rest)) :
    parseChar ('\\' :: cs) = some (some c, rest) := by
  unfold parseChar
  dsimp only
  rw [if_neg (by decide), if_pos rfl, h]

/-- A printed character reads as itself. -/
theorem parseChar_escapeChar (c : Char) (rest : List Char) :
    parseChar (escapeChar c ++ rest) = some (some c, rest) := by
  unfold escapeChar
  by_cases hquote : c = '"'
  · subst hquote
    rfl
  rw [if_neg hquote]
  by_cases hslash : c = '\\'
  · subst hslash
    rfl
  rw [if_neg hslash]
  by_cases hb : c.toNat = 0x08
  · rw [if_pos hb, char_eq_ofNat hb]
    rfl
  rw [if_neg hb]
  by_cases hf : c.toNat = 0x0c
  · rw [if_pos hf, char_eq_ofNat hf]
    rfl
  rw [if_neg hf]
  by_cases hn : c.toNat = 0x0a
  · rw [if_pos hn, char_eq_ofNat hn]
    rfl
  rw [if_neg hn]
  by_cases hr : c.toNat = 0x0d
  · rw [if_pos hr, char_eq_ofNat hr]
    rfl
  rw [if_neg hr]
  by_cases ht : c.toNat = 0x09
  · rw [if_pos ht, char_eq_ofNat ht]
    rfl
  rw [if_neg ht]
  by_cases hcontrol : c.toNat < 0x20
  · -- a control character without a letter of its own
    rw [if_pos hcontrol]
    have hunicode := parseUnicode_escape c hcontrol rest
    exact parseChar_escape (show parseEscape ('u' :: '0' :: '0'
      :: hexDigit (c.toNat / 16) :: hexDigit (c.toNat % 16) :: rest) = _
      from hunicode)
  · rw [if_neg hcontrol]
    show parseChar (c :: rest) = _
    unfold parseChar
    dsimp only
    rw [if_neg hquote, if_neg hslash, if_neg hcontrol]

/-- The characters of a printed string, and its closing quote. -/
theorem parseString_flatMap (s : List Char) :
    ∀ (n : Nat) (rest : List Char), s.length < n →
      parseString n (s.flatMap escapeChar ++ '"' :: rest)
        = some (s, rest) := by
  induction s with
  | nil =>
      intro n rest hn
      obtain ⟨n, rfl⟩ := Nat.exists_eq_succ_of_ne_zero (by omega : n ≠ 0)
      rfl
  | cons c s ih =>
      intro n rest hn
      simp only [List.length_cons] at hn
      obtain ⟨n, rfl⟩ := Nat.exists_eq_succ_of_ne_zero (by omega : n ≠ 0)
      rw [List.flatMap_cons, List.append_assoc]
      unfold parseString
      rw [parseChar_escapeChar]
      dsimp only
      rw [ih n rest (by omega)]

theorem length_le_flatMap_escapeChar (s : List Char) :
    s.length ≤ (s.flatMap escapeChar).length := by
  induction s with
  | nil => exact Nat.le_refl _
  | cons c s ih =>
      have hone : 1 ≤ (escapeChar c).length := by
        unfold escapeChar
        repeat' split
        all_goals simp
      rw [List.flatMap_cons, List.length_append, List.length_cons]
      omega

/-- A printed string, behind its opening quote. -/
theorem parseString_quote (s : String) (rest : List Char) :
    parseString (s.toList.flatMap escapeChar ++ '"' :: rest).length
        (s.toList.flatMap escapeChar ++ '"' :: rest)
      = some (s.toList, rest) := by
  apply parseString_flatMap
  have hle := length_le_flatMap_escapeChar s.toList
  rw [List.length_append, List.length_cons]
  omega

-- =========================================================== the layers

/-- The text behind a value does not go on with a number. -/
def NumberEnds (rest : List Char) : Prop :=
  ∀ c cs, rest = c :: cs → isNumberChar c = false

theorem numberEnds_nil : NumberEnds [] := nofun

theorem numberEnds_cons {c : Char} {cs : List Char}
    (h : isNumberChar c = false) : NumberEnds (c :: cs) := by
  intro c' cs' heq
  injection heq with hc _
  rw [← hc]
  exact h

theorem skipWhitespace_cons {c : Char} {cs : List Char}
    (h : isWhitespace c = false) : skipWhitespace (c :: cs) = c :: cs := by
  unfold skipWhitespace
  rw [List.dropWhile_cons_of_neg]
  rw [h]
  exact Bool.false_ne_true

/-- `p` reads the text of `x`, whatever follows it. -/
def Reads (text : NumberText) (p : List Char → Option (Json × List Char))
    (x : Json) : Prop :=
  ∀ rest, NumberEnds rest → p (x.print text ++ rest) = some (x, rest)

theorem numberEnds_printElements (xs : List Json) (rest : List Char) :
    NumberEnds (printElements text xs ++ rest) := by
  cases xs with
  | nil => exact numberEnds_cons (by decide)
  | cons x xs => exact numberEnds_cons (by decide)

theorem numberEnds_printMembers (ms : List (String × Json))
    (rest : List Char) : NumberEnds (printMembers text ms ++ rest) := by
  cases ms with
  | nil => exact numberEnds_cons (by decide)
  | cons m ms => exact numberEnds_cons (by decide)

/-- Behind a comma. -/
theorem parseElements_comma {p : List Char → Option (Json × List Char)}
    {n : Nat} {cs rest end' : List Char} {x : Json} {xs : List Json}
    (hx : p cs = some (x, ',' :: rest))
    (hxs : parseElements p n rest = some (xs, end')) :
    parseElements p (n + 1) cs = some (x :: xs, end') := by
  have hcomma : skipWhitespace (',' :: rest) = ',' :: rest :=
    skipWhitespace_cons (by decide)
  simp only [parseElements, hx, hcomma, hxs]

/-- The elements of an array. -/
theorem parseElements_print {p : List Char → Option (Json × List Char)}
    (xs : List Json) :
    ∀ (x : Json) (n : Nat) (rest : List Char), xs.length < n →
      Reads text p x → (∀ y ∈ xs, Reads text p y) →
      parseElements p n (x.print text ++ (printElements text xs ++ rest))
        = some (x :: xs, rest) := by
  induction xs with
  | nil =>
      intro x n rest hn hx _
      obtain ⟨n, rfl⟩ := Nat.exists_eq_succ_of_ne_zero (by omega : n ≠ 0)
      unfold parseElements
      rw [hx _ (numberEnds_printElements [] rest)]
      rfl
  | cons y xs ih =>
      intro x n rest hn hx hxs
      simp only [List.length_cons] at hn
      obtain ⟨n, rfl⟩ := Nat.exists_eq_succ_of_ne_zero (by omega : n ≠ 0)
      have hy := ih y n rest (by omega) (hxs y (List.mem_cons_self ..))
        fun z hz => hxs z (List.mem_cons_of_mem _ hz)
      have hcomma : printElements text (y :: xs) ++ rest
          = ',' :: (y.print text ++ (printElements text xs ++ rest)) := by
        simp [printElements]
      have hfirst := hx (printElements text (y :: xs) ++ rest)
        (numberEnds_printElements (y :: xs) rest)
      rw [hcomma] at hfirst ⊢
      exact parseElements_comma hfirst hy

/-- A name, its colon and its value. -/
theorem parseMember_quoted {p : List Char → Option (Json × List Char)}
    {k cs end' rest : List Char} {x : Json}
    (hk : parseString cs.length cs = some (k, ':' :: end'))
    (hx : p end' = some (x, rest)) :
    parseMember p ('"' :: cs) = some ((String.ofList k, x), rest) := by
  have hquote : skipWhitespace ('"' :: cs) = '"' :: cs :=
    skipWhitespace_cons (by decide)
  have hcolon : skipWhitespace (':' :: end') = ':' :: end' :=
    skipWhitespace_cons (by decide)
  simp only [parseMember, hquote, hk, hcolon, hx]

/-- One member. -/
theorem parseMember_print {p : List Char → Option (Json × List Char)}
    (k : String) {x : Json} (hx : Reads text p x) {rest : List Char}
    (hrest : NumberEnds rest) :
    parseMember p (quote k ++ ':' :: (x.print text ++ rest))
      = some ((k, x), rest) := by
  have hquote : quote k ++ ':' :: (x.print text ++ rest)
      = '"' :: (k.toList.flatMap escapeChar
          ++ '"' :: ':' :: (x.print text ++ rest)) := by
    simp [quote]
  rw [hquote]
  have hmember := parseMember_quoted (parseString_quote k _) (hx rest hrest)
  rw [String.ofList_toList] at hmember
  exact hmember

/-- Behind a comma. -/
theorem parseMembers_comma {p : List Char → Option (Json × List Char)}
    {n : Nat} {cs rest end' : List Char} {m : String × Json}
    {ms : List (String × Json)}
    (hm : parseMember p cs = some (m, ',' :: rest))
    (hms : parseMembers p n rest = some (ms, end')) :
    parseMembers p (n + 1) cs = some (m :: ms, end') := by
  have hcomma : skipWhitespace (',' :: rest) = ',' :: rest :=
    skipWhitespace_cons (by decide)
  simp only [parseMembers, hm, hcomma, hms]

/-- The members of an object. -/
theorem parseMembers_print {p : List Char → Option (Json × List Char)}
    (ms : List (String × Json)) :
    ∀ (k : String) (x : Json) (n : Nat) (rest : List Char), ms.length < n →
      Reads text p x → (∀ m ∈ ms, Reads text p m.2) →
      parseMembers p n
          (quote k ++ ':' :: (x.print text ++ (printMembers text ms ++ rest)))
        = some ((k, x) :: ms, rest) := by
  induction ms with
  | nil =>
      intro k x n rest hn hx _
      obtain ⟨n, rfl⟩ := Nat.exists_eq_succ_of_ne_zero (by omega : n ≠ 0)
      unfold parseMembers
      rw [parseMember_print k hx (numberEnds_printMembers [] rest)]
      rfl
  | cons m ms ih =>
      intro k x n rest hn hx hms
      obtain ⟨k', y⟩ := m
      simp only [List.length_cons] at hn
      obtain ⟨n, rfl⟩ := Nat.exists_eq_succ_of_ne_zero (by omega : n ≠ 0)
      have hy := ih k' y n rest (by omega) (hms _ (List.mem_cons_self ..))
        fun m hm => hms m (List.mem_cons_of_mem _ hm)
      have hcomma : printMembers text ((k', y) :: ms) ++ rest
          = ',' :: (quote k'
              ++ ':' :: (y.print text ++ (printMembers text ms ++ rest))) := by
        simp [printMembers]
      have hends : NumberEnds (printMembers text ((k', y) :: ms) ++ rest) :=
        numberEnds_printMembers ((k', y) :: ms) rest
      have hfirst := parseMember_print k hx hends
      rw [hcomma] at hfirst ⊢
      exact parseMembers_comma hfirst hy

/-- A number token ends where the text of the number does. -/
theorem number_token {ds rest : List Char}
    (hds : ∀ c ∈ ds, isNumberChar c = true) (hrest : NumberEnds rest) :
    (ds ++ rest).takeWhile isNumberChar = ds
      ∧ (ds ++ rest).dropWhile isNumberChar = rest := by
  induction ds with
  | nil =>
      cases rest with
      | nil => exact ⟨rfl, rfl⟩
      | cons c cs =>
          have hc := hrest c cs rfl
          simp [hc]
  | cons d ds ih =>
      have hd := hds d (List.mem_cons_self ..)
      have htail := ih fun c hc => hds c (List.mem_cons_of_mem _ hc)
      simp [hd, htail.1, htail.2]

theorem setMember_of_new {ms : List (String × Json)} {m : String × Json}
    (h : m.1 ∉ ms.map (·.1)) : setMember ms m = ms ++ [m] := by
  unfold setMember
  rw [if_neg]
  intro hany
  obtain ⟨m', hm', heq⟩ := List.any_eq_true.mp hany
  apply h
  rw [← of_decide_eq_true heq]
  exact List.mem_map_of_mem hm'

/-- Members without a name twice are kept as they are. -/
theorem foldl_setMember (ms : List (String × Json)) :
    ∀ init : List (String × Json), ((init ++ ms).map (·.1)).Nodup →
      ms.foldl setMember init = init ++ ms := by
  induction ms with
  | nil =>
      intro init _
      simp
  | cons m ms ih =>
      intro init h
      have hsplit : init ++ m :: ms = (init ++ [m]) ++ ms := by simp
      have hnew : m.1 ∉ init.map (·.1) := by
        rw [List.map_append, List.nodup_append] at h
        intro hmem
        exact h.2.2 _ hmem _ (List.mem_cons_self ..) rfl
      rw [List.foldl_cons, setMember_of_new hnew, hsplit]
      apply ih
      rw [← hsplit]
      exact h

-- ============================================================== a value

private theorem numberStart_ne {c d : Char} (h : isNumberStart c = true)
    (hd : isNumberStart d = false) : c ≠ d := by
  rintro rfl
  rw [h] at hd
  cases hd

private theorem numberStart_not_whitespace {c : Char}
    (h : isNumberStart c = true) : isWhitespace c = false := by
  have hspace := numberStart_ne h (by decide : isNumberStart ' ' = false)
  have htab := numberStart_ne h (by decide : isNumberStart '\t' = false)
  have hline := numberStart_ne h (by decide : isNumberStart '\n' = false)
  have hreturn := numberStart_ne h (by decide : isNumberStart '\r' = false)
  simp [isWhitespace, hspace, htab, hline, hreturn]

/-- A printed value starts with neither white space nor a bracket that
would close an array. -/
theorem print_head {x : Json} (h : x.Valid) :
    ∃ c cs, x.print text = c :: cs ∧ isWhitespace c = false ∧ c ≠ ']' := by
  cases x with
  | null => exact ⟨'n', _, rfl, by decide, by decide⟩
  | bool b =>
      cases b with
      | true => exact ⟨'t', _, rfl, by decide, by decide⟩
      | false => exact ⟨'f', _, rfl, by decide, by decide⟩
  | num q =>
      simp only [Json.Valid] at h
      obtain ⟨c, cs, hprint, hstart⟩ := text.print_start q h
      refine ⟨c, cs, ?_, numberStart_not_whitespace hstart,
        numberStart_ne hstart (by decide)⟩
      simp only [Json.print]
      exact hprint
  | str s =>
      refine ⟨'"', s.toList.flatMap escapeChar ++ ['"'], ?_, by decide,
        by decide⟩
      simp only [Json.print]
      rfl
  | arr xs =>
      cases xs with
      | nil =>
          exact ⟨'[', [']'], by simp only [Json.print], by decide, by decide⟩
      | cons x xs =>
          exact ⟨'[', x.print text ++ printElements text xs,
            by simp only [Json.print], by decide, by decide⟩
  | obj ms =>
      cases ms with
      | nil =>
          exact ⟨'{', ['}'], by simp only [Json.print], by decide, by decide⟩
      | cons m ms =>
          obtain ⟨k, x⟩ := m
          exact ⟨'{', quote k ++ ':' :: (x.print text ++ printMembers text ms),
            by simp only [Json.print], by decide, by decide⟩

theorem length_lt_printElements (xs : List Json) :
    xs.length < (printElements text xs).length := by
  induction xs with
  | nil => simp [printElements]
  | cons x xs ih =>
      simp only [printElements, List.length_cons, List.length_append]
      omega

theorem length_lt_printMembers (ms : List (String × Json)) :
    ms.length < (printMembers text ms).length := by
  induction ms with
  | nil => simp [printMembers]
  | cons m ms ih =>
      obtain ⟨k, x⟩ := m
      simp only [printMembers, List.length_cons, List.length_append]
      omega

/-- A number. -/
theorem parseValue_num {q : Rat} (h : IsDouble q) (n : Nat) :
    Reads text (parseValue text (n + 1)) (.num q) := by
  intro rest hrest
  obtain ⟨c, cs, hprint, hstart⟩ := text.print_start q h
  obtain ⟨htake, hdrop⟩ := number_token (text.print_chars q h) hrest
  have hne : ∀ {d : Char}, isNumberStart d = false → c ≠ d :=
    fun hd => numberStart_ne hstart hd
  simp only [Json.print]
  rw [hprint] at htake hdrop ⊢
  rw [List.cons_append] at htake hdrop ⊢
  unfold parseValue
  rw [skipWhitespace_cons (numberStart_not_whitespace hstart)]
  dsimp only
  rw [if_neg (hne (by decide)), if_neg (hne (by decide)),
    if_neg (hne (by decide)), if_pos hstart, htake, hdrop, ← hprint,
    text.parse_print q h]

/-- A string. -/
theorem parseValue_str (s : String) (n : Nat) :
    Reads text (parseValue text (n + 1)) (.str s) := by
  intro rest _
  have hquote : (Json.str s).print text ++ rest
      = '"' :: (s.toList.flatMap escapeChar ++ '"' :: rest) := by
    simp only [Json.print, quote]
    simp
  rw [hquote]
  unfold parseValue
  rw [skipWhitespace_cons (by decide)]
  dsimp only
  rw [if_pos rfl, parseString_quote]
  dsimp only
  rw [String.ofList_toList]

/-- An array whose elements are read. -/
theorem parseValue_arr {x : Json} {xs : List Json} {n : Nat} (hx : x.Valid)
    (hn : xs.length < n) (hreads : Reads text (parseValue text n) x)
    (hrest : ∀ y ∈ xs, Reads text (parseValue text n) y) :
    Reads text (parseValue text (n + 1)) (.arr (x :: xs)) := by
  intro rest _
  have hprint : (Json.arr (x :: xs)).print text ++ rest
      = '[' :: (x.print text ++ (printElements text xs ++ rest)) := by
    simp only [Json.print]
    simp
  obtain ⟨c, cs, hhead, hspace, hclose⟩ := @print_head text x hx
  have helems := parseElements_print xs x n rest hn hreads hrest
  rw [hprint]
  unfold parseValue
  rw [skipWhitespace_cons (by decide)]
  dsimp only
  rw [if_neg (by decide), if_pos rfl]
  rw [hhead, List.cons_append] at helems ⊢
  rw [skipWhitespace_cons hspace]
  split
  · next heq =>
      injection heq with hc _
      exact absurd hc hclose
  · rw [helems]

/-- An object whose members are read. -/
theorem parseValue_obj {k : String} {x : Json} {ms : List (String × Json)}
    {n : Nat} (hkeys : (((k, x) :: ms).map (·.1)).Nodup) (hn : ms.length < n)
    (hreads : Reads text (parseValue text n) x)
    (hrest : ∀ m ∈ ms, Reads text (parseValue text n) m.2) :
    Reads text (parseValue text (n + 1)) (.obj ((k, x) :: ms)) := by
  intro rest _
  have hprint : (Json.obj ((k, x) :: ms)).print text ++ rest
      = '{' :: (quote k
          ++ ':' :: (x.print text ++ (printMembers text ms ++ rest))) := by
    simp only [Json.print]
    simp
  have hmembers := parseMembers_print ms k x n rest hn hreads hrest
  have hhead : quote k
        ++ ':' :: (x.print text ++ (printMembers text ms ++ rest))
      = '"' :: (k.toList.flatMap escapeChar ++ '"'
          :: ':' :: (x.print text ++ (printMembers text ms ++ rest))) := by
    simp [quote]
  rw [hprint]
  unfold parseValue
  rw [skipWhitespace_cons (by decide)]
  dsimp only
  rw [if_neg (by decide), if_neg (by decide), if_pos rfl]
  rw [hhead] at hmembers ⊢
  rw [skipWhitespace_cons (by decide)]
  split
  · next heq =>
      injection heq with hc _
      exact absurd hc (by decide)
  · rw [hmembers]
    dsimp only
    rw [foldl_setMember _ [] hkeys, List.nil_append]

mutual

/-- A printed value reads as itself, with fuel for its length. -/
theorem parseValue_print : ∀ (x : Json) (n : Nat), x.Valid →
    (x.print text).length ≤ n → Reads text (parseValue text n) x
  | x, 0, hvalid, hn => by
      obtain ⟨c, cs, hprint, _⟩ := @print_head text x hvalid
      rw [hprint, List.length_cons] at hn
      omega
  | .null, n + 1, _, _ => fun _ _ => rfl
  | .bool true, n + 1, _, _ => fun _ _ => rfl
  | .bool false, n + 1, _, _ => fun _ _ => rfl
  | .num q, n + 1, hvalid, _ => by
      simp only [Json.Valid] at hvalid
      exact parseValue_num hvalid n
  | .str s, n + 1, _, _ => parseValue_str s n
  | .arr [], n + 1, _, _ => fun _ _ => rfl
  | .arr (x :: xs), n + 1, hvalid, hn => by
      simp only [Json.Valid, ElementsValid] at hvalid
      simp only [Json.print, List.length_cons, List.length_append] at hn
      have hlen := @length_lt_printElements text xs
      exact parseValue_arr hvalid.1 (by omega)
        (parseValue_print x n hvalid.1 (by omega))
        (parseValue_elements xs n hvalid.2 (by omega))
  | .obj [], n + 1, _, _ => fun _ _ => rfl
  | .obj ((k, x) :: ms), n + 1, hvalid, hn => by
      simp only [Json.Valid, MembersValid] at hvalid
      simp only [Json.print, List.length_cons, List.length_append] at hn
      have hlen := @length_lt_printMembers text ms
      exact parseValue_obj hvalid.1 (by omega)
        (parseValue_print x n hvalid.2.1 (by omega))
        (parseValue_members ms n hvalid.2.2 (by omega))

theorem parseValue_elements : ∀ (xs : List Json) (n : Nat),
    ElementsValid xs → (printElements text xs).length ≤ n →
    ∀ y ∈ xs, Reads text (parseValue text n) y
  | [], _, _, _, _, hy => nomatch hy
  | x :: xs, n, hvalid, hn, y, hy => by
      simp only [ElementsValid] at hvalid
      simp only [printElements, List.length_cons, List.length_append] at hn
      rcases List.mem_cons.mp hy with heq | hmem
      · rw [heq]
        exact parseValue_print x n hvalid.1 (by omega)
      · exact parseValue_elements xs n hvalid.2 (by omega) y hmem

theorem parseValue_members : ∀ (ms : List (String × Json)) (n : Nat),
    MembersValid ms → (printMembers text ms).length ≤ n →
    ∀ m ∈ ms, Reads text (parseValue text n) m.2
  | [], _, _, _, _, hm => nomatch hm
  | (k, x) :: ms, n, hvalid, hn, m, hm => by
      simp only [MembersValid] at hvalid
      simp only [printMembers, List.length_cons, List.length_append] at hn
      rcases List.mem_cons.mp hm with heq | hmem
      · rw [heq]
        exact parseValue_print x n hvalid.1 (by omega)
      · exact parseValue_members ms n hvalid.2 (by omega) m hmem

end

/-- Reading undoes writing. -/
theorem parse_print {x : Json} (h : x.Valid) :
    parse text (String.ofList (x.print text)) = some x := by
  have hreads := @parseValue_print text x
    ((x.print text).length + 1) h (by omega) [] numberEnds_nil
  rw [List.append_nil] at hreads
  unfold parse
  rw [String.toList_ofList, hreads]
  rfl

-- ====================================================== JavaScript values

mutual

/-- The values a JSON text can stand for. -/
def Value.IsJson : Value → Prop
  | .undefined => False
  | .num (.finite _) => True
  | .num _ => False
  | .bigint _ => False
  | .bytes _ => False
  | .arr vs => ElementsAreJson vs
  | .obj members => MembersAreJson members
  | _ => True

/-- The elements are JSON values. -/
def ElementsAreJson : List Value → Prop
  | [] => True
  | v :: vs => v.IsJson ∧ ElementsAreJson vs

/-- The values of the members are JSON values. -/
def MembersAreJson : List (String × Value) → Prop
  | [] => True
  | (_, v) :: members => v.IsJson ∧ MembersAreJson members

end

variable {replace : Int → Option Json}

theorem length_membersToValue (xs : List (String × Json)) :
    (membersToValue xs).length = xs.length := by
  induction xs with
  | nil => rfl
  | cons m xs ih =>
      obtain ⟨k, x⟩ := m
      simp only [membersToValue, List.length_cons, ih]

/-- Members are only ever left out. -/
theorem length_membersToJson (vs : List (String × Value)) :
    ∀ xs, membersToJson replace vs = some xs → xs.length ≤ vs.length := by
  induction vs with
  | nil =>
      intro xs h
      simp only [membersToJson] at h
      injection h with h
      rw [← h]
      exact Nat.le_refl _
  | cons m vs ih =>
      obtain ⟨k, v⟩ := m
      intro xs h
      simp only [membersToJson] at h
      split at h
      case h_1 x xs' _ hxs =>
        injection h with h
        have hle := ih xs' hxs
        rw [← h, List.length_cons, List.length_cons]
        omega
      case h_2 xs' _ hxs =>
        injection h with h
        have hle := ih xs' hxs
        rw [← h, List.length_cons]
        omega
      case h_3 => cases h

/-- Only `undefined` has nothing to write. -/
theorem eq_undefined_of_toJson {v : Value}
    (h : v.toJson replace = some none) : v = .undefined := by
  cases v with
  | undefined => rfl
  | num n => cases n <;> simp [Value.toJson] at h
  | bigint i =>
      simp only [Value.toJson] at h
      split at h <;> cases h
  | arr vs =>
      simp only [Value.toJson] at h
      split at h <;> cases h
  | obj members =>
      simp only [Value.toJson] at h
      split at h <;> cases h
  | _ => simp [Value.toJson] at h

mutual

/-- What `JSON.stringify` wrote stands for the value itself exactly if
that is a JSON value. -/
theorem toValue_toJson_iff : ∀ (v : Value) (x : Json),
    v.toJson replace = some (some x) → (x.toValue = v ↔ v.IsJson)
  | .undefined, x, h => by
      simp only [Value.toJson] at h
      cases h
  | .null, x, h => by
      simp only [Value.toJson] at h
      cases h
      simp [Json.toValue, Value.IsJson]
  | .bool b, x, h => by
      simp only [Value.toJson] at h
      cases h
      simp [Json.toValue, Value.IsJson]
  | .num (.finite q), x, h => by
      simp only [Value.toJson] at h
      cases h
      simp [Json.toValue, Value.IsJson]
  | .num (.infinity _), x, h => by
      simp only [Value.toJson] at h
      cases h
      simp [Json.toValue, Value.IsJson]
  | .num .nan, x, h => by
      simp only [Value.toJson] at h
      cases h
      simp [Json.toValue, Value.IsJson]
  | .bigint i, x, _ => by
      -- no JSON text stands for a bigint
      cases x <;> simp [Json.toValue, Value.IsJson]
  | .str s, x, h => by
      simp only [Value.toJson] at h
      cases h
      simp [Json.toValue, Value.IsJson]
  | .bytes b, x, h => by
      simp only [Value.toJson] at h
      cases h
      simp [Json.toValue, Value.IsJson]
  | .arr vs, x, h => by
      simp only [Value.toJson] at h
      split at h
      case h_1 xs hxs =>
        cases h
        have helems := elementsToValue_iff vs xs hxs
        simpa [Json.toValue, Value.IsJson] using helems
      case h_2 => cases h
  | .obj members, x, h => by
      simp only [Value.toJson] at h
      split at h
      case h_1 xs hxs =>
        cases h
        have hmembers := membersToValue_iff members xs hxs
        simpa [Json.toValue, Value.IsJson] using hmembers
      case h_2 => cases h

theorem elementsToValue_iff : ∀ (vs : List Value) (xs : List Json),
    elementsToJson replace vs = some xs →
      (elementsToValue xs = vs ↔ ElementsAreJson vs)
  | [], xs, h => by
      simp only [elementsToJson] at h
      cases h
      simp [elementsToValue, ElementsAreJson]
  | v :: vs, xs, h => by
      simp only [elementsToJson] at h
      split at h
      case h_1 x xs' hx hxs =>
        cases h
        have htail := elementsToValue_iff vs xs' hxs
        cases x with
        | some x =>
            have hhead := toValue_toJson_iff v x hx
            simp [elementsToValue, ElementsAreJson, hhead, htail]
        | none =>
            -- an undefined element is written as null
            rw [eq_undefined_of_toJson hx]
            simp [elementsToValue, ElementsAreJson, Value.IsJson,
              Json.toValue]
      case h_2 => cases h

theorem membersToValue_iff : ∀ (vs : List (String × Value))
    (xs : List (String × Json)), membersToJson replace vs = some xs →
      (membersToValue xs = vs ↔ MembersAreJson vs)
  | [], xs, h => by
      simp only [membersToJson] at h
      cases h
      simp [membersToValue, MembersAreJson]
  | (k, v) :: vs, xs, h => by
      simp only [membersToJson] at h
      split at h
      case h_1 x xs' hx hxs =>
        cases h
        have hhead := toValue_toJson_iff v x hx
        have htail := membersToValue_iff vs xs' hxs
        simp [membersToValue, MembersAreJson, hhead, htail]
      case h_2 xs' hx hxs =>
        -- an undefined member is left out
        cases h
        have hle := length_membersToJson vs xs hxs
        have hlen := length_membersToValue xs
        constructor
        · intro heq
          rw [heq, List.length_cons] at hlen
          omega
        · intro hjson
          rw [eq_undefined_of_toJson hx] at hjson
          exact hjson.1.elim
      case h_3 => cases h

end

/-- What `JSON.parse` makes of a text that `JSON.stringify` wrote is the
value itself exactly if that is a JSON value. -/
theorem parse_stringify_iff {v : Value} {x : Json}
    (h : v.toJson replace = some (some x)) (hvalid : x.Valid) :
    (parse text (String.ofList (x.print text))).map Json.toValue = some v
      ↔ v.IsJson := by
  rw [parse_print hvalid, Option.map_some, Option.some.injEq]
  exact toValue_toJson_iff v x h

end Js
