/-
What `encodeURIComponent` writes: `decodeURIComponent` reads it back
(`decodeURIComponent_encodeURIComponent`), and it is made of token
characters unless there is a parenthesis in it, which it leaves as it is
(`isToken_encodeURIComponent`).
-/
import RivetKit.Lib.Subprotocols

namespace Js

-- ============================================================== escapes

private theorem upperHexDigit_all : ∀ n : Nat, n < 16 →
    hexValue (upperHexDigit n) = some n
      ∧ isTokenChar (upperHexDigit n) = true := by
  decide

/-- An escape is a byte read. -/
theorem decodeUri_percentEncode (b : UInt8) (bytes : List UInt8)
    (cs : List Char) :
    decodeUri bytes (percentEncode b ++ cs)
      = decodeUri (bytes ++ [b]) cs := by
  have hlt := b.toNat_lt
  obtain ⟨hhigh, -⟩ := upperHexDigit_all (b.toNat / 16) (by omega)
  obtain ⟨hlow, -⟩ := upperHexDigit_all (b.toNat % 16) (by omega)
  have hbyte : b.toNat / 16 * 16 + b.toNat % 16 = b.toNat := by omega
  show decodeUri bytes ('%' :: upperHexDigit (b.toNat / 16)
    :: upperHexDigit (b.toNat % 16) :: cs) = _
  simp only [decodeUri, hhigh, hlow]
  rw [hbyte, UInt8.ofNat_toNat]

/-- A run of escapes. -/
theorem decodeUri_flatMap_percentEncode (bs : List UInt8) :
    ∀ (bytes : List UInt8) (cs : List Char),
      decodeUri bytes (bs.flatMap percentEncode ++ cs)
        = decodeUri (bytes ++ bs) cs := by
  induction bs with
  | nil =>
    intro bytes cs
    rw [List.append_nil]
    rfl
  | cons b bs ih =>
    intro bytes cs
    rw [List.flatMap_cons, List.append_assoc]
    rw [decodeUri_percentEncode, ih, List.append_assoc]
    rfl

-- =========================================================== round trip

theorem ne_percent_of_isUnescaped {c : Char} (h : isUnescaped c = true) :
    c ≠ '%' := by
  rintro rfl
  exact absurd h (by decide)

/-- A character that is not escaped ends the run of escapes before
it. -/
theorem decodeUri_cons {c : Char} (hc : c ≠ '%') (bytes : List UInt8)
    (cs : List Char) :
    decodeUri bytes (c :: cs)
      = match Bare.Codec.readUtf8 bytes.length bytes, decodeUri [] cs with
        | some s, some cs => some (s ++ c :: cs)
        | _, _ => none := by
  rw [decodeUri.eq_def]
  split
  · rename_i heq
    exact absurd heq (List.cons_ne_nil c cs)
  · rename_i heq
    injection heq with heq
    exact absurd heq hc
  · rename_i heq
    injection heq with hhead htail
    rw [← hhead, ← htail]
    exact if_neg hc

/-- Reading what was written, behind characters `p` whose bytes are read
but not yet decoded. -/
theorem decodeUri_encodeUri (s : List Char) :
    ∀ p : List Char,
      decodeUri (Bare.Codec.utf8 p) (s.flatMap encodeUriChar)
        = some (p ++ s) := by
  have hread : ∀ p : List Char, Bare.Codec.readUtf8
      (Bare.Codec.utf8 p).length (Bare.Codec.utf8 p) = some p :=
    fun p => Bare.Codec.readUtf8_utf8 p _ (Nat.le_refl _)
  induction s with
  | nil =>
    intro p
    rw [List.append_nil, List.flatMap_nil]
    unfold decodeUri
    exact hread p
  | cons c s ih =>
    intro p
    rw [List.flatMap_cons]
    unfold encodeUriChar
    split
    · rename_i hc
      show decodeUri _ (c :: s.flatMap encodeUriChar) = _
      rw [decodeUri_cons (ne_percent_of_isUnescaped hc), hread p]
      have hrest : decodeUri [] (s.flatMap encodeUriChar) = some s :=
        ih []
      rw [hrest]
    · -- its bytes join the run
      have hbytes : Bare.Codec.utf8 p ++ String.utf8EncodeChar c
          = Bare.Codec.utf8 (p ++ [c]) := by
        unfold Bare.Codec.utf8
        rw [List.flatMap_append, List.flatMap_singleton]
      rw [decodeUri_flatMap_percentEncode, hbytes]
      have hrest := ih (p ++ [c])
      rw [List.append_assoc] at hrest
      exact hrest

/-- `decodeURIComponent(encodeURIComponent(s))`. -/
theorem decodeURIComponent_encodeURIComponent (s : String) :
    decodeURIComponent (encodeURIComponent s) = some s := by
  unfold decodeURIComponent encodeURIComponent
  rw [String.toList_ofList]
  have hread : decodeUri [] (s.toList.flatMap encodeUriChar)
      = some s.toList := decodeUri_encodeUri s.toList []
  rw [hread]
  show some (String.ofList s.toList) = _
  rw [String.ofList_toList]

-- =============================================================== tokens

/-- The one kind of character that stays as it is and is none of a
token's. -/
theorem isTokenChar_of_isUnescaped {c : Char} (h : isUnescaped c = true) :
    isTokenChar c = true ↔ c ≠ '(' ∧ c ≠ ')' := by
  constructor
  · intro hc
    refine ⟨?_, ?_⟩
    · rintro rfl
      exact absurd hc (by decide)
    · rintro rfl
      exact absurd hc (by decide)
  · rintro ⟨hopen, hclose⟩
    unfold isUnescaped at h
    rw [Bool.or_eq_true] at h
    rcases h with h | h
    · unfold isTokenChar
      rw [h]
      rfl
    · have hall : ∀ d ∈ ['-', '_', '.', '!', '~', '*', Char.ofNat 0x27, '(',
          ')'], isTokenChar d = true ∨ d = '(' ∨ d = ')' :=
        forall_mem_of_all rfl
      rcases hall c (List.contains_iff_mem.1 h) with hc | hc | hc
      · exact hc
      · exact absurd hc hopen
      · exact absurd hc hclose

/-- What is written for a character is of a token unless the character
is a parenthesis. -/
theorem isTokenChar_encodeUriChar (c : Char) :
    (∀ d ∈ encodeUriChar c, isTokenChar d = true)
      ↔ c ≠ '(' ∧ c ≠ ')' := by
  unfold encodeUriChar
  split
  · rename_i hc
    rw [← isTokenChar_of_isUnescaped hc]
    simp
  · rename_i hc
    constructor
    · intro _
      refine ⟨?_, ?_⟩
      · rintro rfl
        exact hc (by decide)
      · rintro rfl
        exact hc (by decide)
    · intro _ d hd
      obtain ⟨b, -, hd⟩ := List.mem_flatMap.1 hd
      have hlt := b.toNat_lt
      have hhigh := upperHexDigit_all (b.toNat / 16) (by omega)
      have hlow := upperHexDigit_all (b.toNat % 16) (by omega)
      unfold percentEncode at hd
      simp only [List.mem_cons, List.not_mem_nil, or_false] at hd
      rcases hd with rfl | rfl | rfl
      · decide
      · exact hhigh.2
      · exact hlow.2

/-- What is written for a character is neither a comma nor white space. -/
theorem plain_encodeUriChar (c : Char) :
    ∀ d ∈ encodeUriChar c, d ≠ ',' ∧ isSpace d = false := by
  by_cases hc : c ≠ '(' ∧ c ≠ ')'
  · intro d hd
    have htoken := (isTokenChar_encodeUriChar c).2 hc d hd
    exact ⟨(bounds_of_isTokenChar htoken).2.2,
      isSpace_of_isTokenChar htoken⟩
  · have hparen : c = '(' ∨ c = ')' := by
      by_cases hopen : c = '('
      · exact .inl hopen
      · exact .inr (by
          by_contra hclose
          exact hc ⟨hopen, hclose⟩)
    rcases hparen with rfl | rfl
    · intro d hd
      rw [List.mem_singleton.1 hd]
      decide
    · intro d hd
      rw [List.mem_singleton.1 hd]
      decide

/-- Nor is anything in an encoded text. -/
theorem plain_encodeURIComponent (s : String) :
    ∀ d ∈ (encodeURIComponent s).toList, d ≠ ',' ∧ isSpace d = false := by
  unfold encodeURIComponent
  rw [String.toList_ofList]
  intro d hd
  obtain ⟨c, -, hd⟩ := List.mem_flatMap.1 hd
  exact plain_encodeUriChar c d hd

/-- A protocol of a name and an encoded text is a token exactly if there
is no parenthesis in the text. -/
theorem isToken_encodeURIComponent {start : String} (s : String)
    (hstart : IsToken start) :
    IsToken (start ++ encodeURIComponent s)
      ↔ ∀ c ∈ s.toList, c ≠ '(' ∧ c ≠ ')' := by
  have hlist : (start ++ encodeURIComponent s).toList
      = start.toList ++ s.toList.flatMap encodeUriChar := by
    unfold encodeURIComponent
    rw [String.toList_append, String.toList_ofList]
  unfold IsToken
  rw [hlist]
  constructor
  · rintro ⟨-, hall⟩ c hc
    apply (isTokenChar_encodeUriChar c).1
    intro d hd
    apply hall
    exact List.mem_append.2 (Or.inr (List.mem_flatMap.2 ⟨c, hc, hd⟩))
  · intro hall
    constructor
    · intro hempty
      rw [hempty] at hlist
      have hnil := (List.append_eq_nil_iff.1 hlist.symm).1
      exact hstart.1 (String.toList_eq_nil_iff.1 hnil)
    · intro d hd
      rcases List.mem_append.1 hd with hd | hd
      · exact hstart.2 d hd
      · obtain ⟨c, hc, hd⟩ := List.mem_flatMap.1 hd
        exact (isTokenChar_encodeUriChar c).2 (hall c hc) d hd

-- ============================================================ splitting

/-- The first part is what is in front of the first separator, or all
there is. -/
theorem splitFrom_head {separator : List Char} (hne : separator ≠ [])
    (cs : List Char) :
    ∃ first rest,
      (∀ part : List Char,
        splitFrom separator 0 part cs = (part.reverse ++ first) :: rest)
      ∧ ((¬ separator <:+: cs ∧ first = cs)
        ∨ ∃ behind, cs = first ++ separator ++ behind) := by
  induction cs with
  | nil =>
    refine ⟨[], [], fun part => by simp [splitFrom], .inl ⟨?_, rfl⟩⟩
    intro hinfix
    exact hne (List.eq_nil_of_infix_nil hinfix)
  | cons c cs ih =>
    by_cases hc : separator.isPrefixOf (c :: cs) = true
    · obtain ⟨behind, hbehind⟩ := List.isPrefixOf_iff_prefix.1 hc
      refine ⟨[], splitFrom separator (separator.length - 1) [] cs, ?_,
        .inr ⟨behind, hbehind.symm⟩⟩
      intro part
      rw [splitFrom, if_pos hc, List.append_nil]
    · obtain ⟨first, rest, hsplit, hfirst⟩ := ih
      refine ⟨c :: first, rest, ?_, ?_⟩
      · intro part
        rw [splitFrom, if_neg hc, hsplit, List.reverse_cons,
          List.append_assoc]
        rfl
      · rcases hfirst with ⟨hnone, rfl⟩ | ⟨behind, rfl⟩
        · refine .inl ⟨?_, rfl⟩
          intro hinfix
          rcases List.infix_cons_iff.1 hinfix with hprefix | hinfix
          · exact hc (List.isPrefixOf_iff_prefix.2 hprefix)
          · exact hnone hinfix
        · exact .inr ⟨behind, rfl⟩

end Js
