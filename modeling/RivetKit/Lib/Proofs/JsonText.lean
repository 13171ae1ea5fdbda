/-
What a JSON text looks like from outside: it neither starts nor ends with
white space (`print_ends`), and no control character is in it
(`print_ge`). So a text can be a header value unless it has characters
beyond bytes.
-/
import RivetKit.Lib.Proofs.Json

namespace Js

variable {text : NumberText}

-- ========================================================= the characters

theorem ge_of_isNumberChar {c : Char} (h : isNumberChar c = true) :
    0x20 < c.toNat := by
  unfold isNumberChar at h
  simp only [Bool.or_eq_true, beq_iff_eq] at h
  rcases h with ((((h | h) | h) | h) | h) | h
  · unfold Char.isDigit at h
    simp only [ge_iff_le, Bool.and_eq_true, decide_eq_true_eq,
      UInt32.le_iff_toNat_le] at h
    have hzero : ('0'.val : UInt32).toNat = 48 := rfl
    rw [hzero] at h
    have hval : c.val.toNat = c.toNat := rfl
    omega
  all_goals
    rw [h]
    decide

private theorem hexDigit_ge_all :
    ∀ n : Nat, n < 16 → 0x20 ≤ (hexDigit n).toNat := by
  decide

/-- A text without control characters, tested in turn. -/
theorem ge_of_all {cs : List Char}
    (h : (cs.all fun c => decide (0x20 ≤ c.toNat)) = true) :
    ∀ c ∈ cs, 0x20 ≤ c.toNat := by
  intro c hc
  exact of_decide_eq_true (List.all_eq_true.1 h c hc)

theorem escapeChar_ge (c : Char) : ∀ d ∈ escapeChar c, 0x20 ≤ d.toNat := by
  intro d hd
  unfold escapeChar at hd
  split at hd
  · exact ge_of_all rfl d hd
  split at hd
  · exact ge_of_all rfl d hd
  split at hd
  · exact ge_of_all rfl d hd
  split at hd
  · exact ge_of_all rfl d hd
  split at hd
  · exact ge_of_all rfl d hd
  split at hd
  · exact ge_of_all rfl d hd
  split at hd
  · exact ge_of_all rfl d hd
  split at hd
  · rename_i hcontrol
    have hhigh := hexDigit_ge_all (c.toNat / 16) (by omega)
    have hlow := hexDigit_ge_all (c.toNat % 16) (by omega)
    simp only [List.mem_cons, List.not_mem_nil, or_false] at hd
    rcases hd with rfl | rfl | rfl | rfl | rfl | rfl
    · decide
    · decide
    · decide
    · decide
    · exact hhigh
    · exact hlow
  · rename_i hcontrol
    rw [List.mem_singleton.1 hd]
    omega

theorem quote_ge (s : String) : ∀ c ∈ quote s, 0x20 ≤ c.toNat := by
  intro c hc
  unfold quote at hc
  rcases List.mem_cons.1 hc with rfl | hc
  · decide
  rcases List.mem_append.1 hc with hc | hc
  · obtain ⟨d, -, hc⟩ := List.mem_flatMap.1 hc
    exact escapeChar_ge d c hc
  · rw [List.mem_singleton.1 hc]
    decide

mutual

/-- No control character is in a JSON text. -/
theorem print_ge : ∀ (x : Json), x.Valid →
    ∀ c ∈ x.print text, 0x20 ≤ c.toNat
  | .null, _ => by
      simp only [Json.print]
      exact ge_of_all rfl
  | .bool true, _ => by
      simp only [Json.print]
      exact ge_of_all rfl
  | .bool false, _ => by
      simp only [Json.print]
      exact ge_of_all rfl
  | .num q, h => by
      intro c hc
      simp only [Json.print] at hc
      simp only [Json.Valid] at h
      have hgt := ge_of_isNumberChar (text.print_chars q h c hc)
      omega
  | .str s, _ => by
      simp only [Json.print]
      exact quote_ge s
  | .arr [], _ => by
      simp only [Json.print]
      exact ge_of_all rfl
  | .arr (x :: xs), h => by
      intro c hc
      simp only [Json.Valid, ElementsValid] at h
      simp only [Json.print] at hc
      rcases List.mem_cons.1 hc with rfl | hc
      · decide
      rcases List.mem_append.1 hc with hc | hc
      · exact print_ge x h.1 c hc
      · exact printElements_ge xs h.2 c hc
  | .obj [], _ => by
      simp only [Json.print]
      exact ge_of_all rfl
  | .obj ((k, x) :: members), h => by
      intro c hc
      simp only [Json.Valid, MembersValid] at h
      simp only [Json.print] at hc
      rcases List.mem_cons.1 hc with rfl | hc
      · decide
      rcases List.mem_append.1 hc with hc | hc
      · exact quote_ge k c hc
      rcases List.mem_cons.1 hc with rfl | hc
      · decide
      rcases List.mem_append.1 hc with hc | hc
      · exact print_ge x h.2.1 c hc
      · exact printMembers_ge members h.2.2 c hc

theorem printElements_ge : ∀ (xs : List Json), ElementsValid xs →
    ∀ c ∈ printElements text xs, 0x20 ≤ c.toNat
  | [], _ => by
      simp only [printElements]
      exact ge_of_all rfl
  | x :: xs, h => by
      intro c hc
      simp only [ElementsValid] at h
      simp only [printElements] at hc
      rcases List.mem_cons.1 hc with rfl | hc
      · decide
      rcases List.mem_append.1 hc with hc | hc
      · exact print_ge x h.1 c hc
      · exact printElements_ge xs h.2 c hc

theorem printMembers_ge : ∀ (members : List (String × Json)),
    MembersValid members → ∀ c ∈ printMembers text members, 0x20 ≤ c.toNat
  | [], _ => by
      simp only [printMembers]
      exact ge_of_all rfl
  | (k, x) :: members, h => by
      intro c hc
      simp only [MembersValid] at h
      simp only [printMembers] at hc
      rcases List.mem_cons.1 hc with rfl | hc
      · decide
      rcases List.mem_append.1 hc with hc | hc
      · exact quote_ge k c hc
      rcases List.mem_cons.1 hc with rfl | hc
      · decide
      rcases List.mem_append.1 hc with hc | hc
      · exact print_ge x h.1 c hc
      · exact printMembers_ge members h.2 c hc

end

-- =============================================================== the ends

theorem getLast_append {cs ds : List Char} {d : Char}
    (h : ds.getLast? = some d) : (cs ++ ds).getLast? = some d := by
  rw [List.getLast?_append, h]
  rfl

theorem getLast_printElements (xs : List Json) :
    (printElements text xs).getLast? = some ']' := by
  induction xs with
  | nil => simp only [printElements, List.getLast?_singleton]
  | cons x xs ih =>
      simp only [printElements]
      rw [← List.cons_append]
      exact getLast_append ih

theorem getLast_printMembers (members : List (String × Json)) :
    (printMembers text members).getLast? = some '}' := by
  induction members with
  | nil => simp only [printMembers, List.getLast?_singleton]
  | cons m members ih =>
      obtain ⟨k, x⟩ := m
      simp only [printMembers]
      rw [← List.cons_append]
      apply getLast_append
      rw [← List.cons_append]
      exact getLast_append ih

/-- A JSON text ends as no white space does. -/
theorem print_last {x : Json} (h : x.Valid) :
    ∃ c, (x.print text).getLast? = some c ∧ isWhitespace c = false := by
  cases x with
  | null => exact ⟨'l', by simp [Json.print], by decide⟩
  | bool b =>
      cases b with
      | true => exact ⟨'e', by simp [Json.print], by decide⟩
      | false => exact ⟨'e', by simp [Json.print], by decide⟩
  | num q =>
      simp only [Json.Valid] at h
      obtain ⟨c, cs, hprint, -⟩ := text.print_start q h
      have hne : text.print q ≠ [] := by
        rw [hprint]
        exact List.cons_ne_nil c cs
      refine ⟨(text.print q).getLast hne, ?_, ?_⟩
      · simp only [Json.print]
        exact List.getLast?_eq_some_getLast hne
      · have hgt := ge_of_isNumberChar
          (text.print_chars q h _ (List.getLast_mem hne))
        unfold isWhitespace
        simp only [Bool.or_eq_false_iff, beq_eq_false_iff_ne]
        refine ⟨⟨⟨?_, ?_⟩, ?_⟩, ?_⟩
        all_goals
          intro heq
          rw [heq] at hgt
          exact absurd hgt (by decide)
  | str s =>
      refine ⟨'"', ?_, by decide⟩
      simp only [Json.print, quote]
      rw [← List.cons_append]
      exact getLast_append rfl
  | arr xs =>
      refine ⟨']', ?_, by decide⟩
      cases xs with
      | nil => simp [Json.print]
      | cons x xs =>
          simp only [Json.print]
          rw [← List.cons_append]
          exact getLast_append (getLast_printElements xs)
  | obj members =>
      refine ⟨'}', ?_, by decide⟩
      cases members with
      | nil => simp [Json.print]
      | cons m members =>
          obtain ⟨k, x⟩ := m
          simp only [Json.print]
          rw [← List.cons_append]
          apply getLast_append
          rw [← List.cons_append]
          exact getLast_append (getLast_printMembers members)

-- ================================================= the value of a JSON value

variable {replace : Int → Option Json}

mutual

/-- `JSON.stringify` writes the value of a JSON value as that value. -/
theorem toJson_toValue : ∀ x : Json,
    x.toValue.toJson replace = some (some x)
  | .null => rfl
  | .bool _ => rfl
  | .num _ => rfl
  | .str _ => rfl
  | .arr xs => by
      simp only [Json.toValue, Value.toJson, elementsToJson_toValue xs]
  | .obj members => by
      simp only [Json.toValue, Value.toJson, membersToJson_toValue members]

theorem elementsToJson_toValue : ∀ xs : List Json,
    elementsToJson replace (elementsToValue xs) = some xs
  | [] => rfl
  | x :: xs => by
      simp only [elementsToValue, elementsToJson, toJson_toValue x,
        elementsToJson_toValue xs, Option.getD_some]

theorem membersToJson_toValue : ∀ members : List (String × Json),
    membersToJson replace (membersToValue members) = some members
  | [] => rfl
  | (k, x) :: members => by
      simp only [membersToValue, membersToJson, toJson_toValue x,
        membersToJson_toValue members]

end

end Js
