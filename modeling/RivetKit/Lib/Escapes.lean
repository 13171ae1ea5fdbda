/-
Escaping the characters of a list, and reading it back.

# Escaping

`escapeAll` puts an escape before every special character. A program that
escapes by one `replaceAll` after another, the escape itself first, does
the same (`replaceAll_replaceAll`).

# Reading

A reader is a fold over the characters, with a state that may be behind an
escape. `foldl_escapeAll`: if it takes an escape with the character behind
it, and any other character, for one step of `add`, then reading what was
escaped is adding what was there. `foldl_intercalate` is the same for
parts with a separator between them.
-/
import Mathlib.Data.List.Basic

namespace Escapes

universe u v

variable {α : Type u} {σ : Type v}

-- ============================================================= escaping

/-- Every occurrence of `c`, replaced. -/
def replaceAll [DecidableEq α] (c : α) (new s : List α) : List α :=
  s.flatMap fun x => if x = c then new else [x]

/-- Every special character, with an escape before it. -/
def escapeAll (escape : α) (special : α → Bool) (s : List α) : List α :=
  s.flatMap fun x => if special x then [escape, x] else [x]

theorem escapeAll_cons (escape : α) (special : α → Bool) (x : α)
    (s : List α) :
    escapeAll escape special (x :: s)
      = (if special x then [escape, x] else [x])
        ++ escapeAll escape special s := rfl

/-- The escape first, then another character. -/
theorem replaceAll_replaceAll [DecidableEq α] {escape c : α}
    (h : escape ≠ c) (s : List α) :
    replaceAll c [escape, c] (replaceAll escape [escape, escape] s)
      = escapeAll escape (fun x => x = escape || x = c) s := by
  induction s with
  | nil => rfl
  | cons x s ih =>
    unfold replaceAll at ih ⊢
    rw [List.flatMap_cons, List.flatMap_append, ih, escapeAll_cons]
    congr 1
    by_cases hescape : x = escape
    · simp [hescape, h]
    · by_cases hc : x = c
      · simp [hc, Ne.symm h]
      · simp [hescape, hc]

/-- Two lists, one behind the other. -/
theorem escapeAll_append (escape : α) (special : α → Bool)
    (s t : List α) :
    escapeAll escape special (s ++ t)
      = escapeAll escape special s ++ escapeAll escape special t :=
  List.flatMap_append

/-- What is written around a character that is neither an escape nor
special was around it before. -/
theorem escapeAll_eq_append {escape c : α} {special : α → Bool}
    (hescape : c ≠ escape) (hc : special c = false) {s : List α} :
    ∀ {before after : List α},
      escapeAll escape special s = before ++ c :: after →
        ∃ x y, s = x ++ c :: y ∧ before = escapeAll escape special x
          ∧ after = escapeAll escape special y := by
  induction s with
  | nil =>
    intro before after h
    exact absurd h.symm (by simp [escapeAll])
  | cons z s ih =>
    intro before after h
    rw [escapeAll_cons] at h
    cases hz : special z with
    | true =>
      rw [hz, if_pos rfl] at h
      -- neither the escape nor what it is before is `c`
      have hne : c ≠ z := by
        intro hcz
        rw [hcz, hz] at hc
        exact absurd hc (by simp)
      cases before with
      | nil => exact absurd (List.cons.inj h).1.symm hescape
      | cons b before =>
        obtain ⟨hb, h⟩ := List.cons.inj h
        cases before with
        | nil => exact absurd (List.cons.inj h).1.symm hne
        | cons b' before =>
          obtain ⟨hb', h⟩ := List.cons.inj h
          obtain ⟨x, y, hs, hbefore, hafter⟩ := ih h
          refine ⟨z :: x, y, by rw [hs]; rfl, ?_, hafter⟩
          rw [escapeAll_cons, hz, if_pos rfl, ← hbefore, ← hb, ← hb']
          rfl
    | false =>
      rw [hz, if_neg (by simp)] at h
      cases before with
      | nil =>
        obtain ⟨hzc, h⟩ := List.cons.inj h
        exact ⟨[], s, by rw [hzc]; rfl, rfl, h.symm⟩
      | cons b before =>
        obtain ⟨hb, h⟩ := List.cons.inj h
        obtain ⟨x, y, hs, hbefore, hafter⟩ := ih h
        refine ⟨z :: x, y, by rw [hs]; rfl, ?_, hafter⟩
        rw [escapeAll_cons, hz, if_neg (by simp), ← hbefore, ← hb]
        rfl

-- ============================================================== reading

section Reading

variable {escape : α} {special : α → Bool} {step add : σ → α → σ}
  {P : σ → Prop}

/-- Reading what was escaped is adding what was there. `P` says that the
reader is not behind an escape. -/
theorem foldl_escapeAll
    (hplain : ∀ st x, P st → special x = false → step st x = add st x)
    (hspecial : ∀ st x, P st → special x = true →
      step (step st escape) x = add st x)
    (hadd : ∀ st x, P st → P (add st x)) (s : List α) :
    ∀ {st : σ}, P st →
      (escapeAll escape special s).foldl step st = s.foldl add st := by
  induction s with
  | nil =>
    intro st _
    rfl
  | cons x s ih =>
    intro st hst
    rw [escapeAll_cons, List.foldl_append, List.foldl_cons,
      ← ih (hadd st x hst)]
    cases hx : special x with
    | true =>
      rw [if_pos rfl, List.foldl_cons, List.foldl_cons,
        hspecial st x hst hx, List.foldl_nil]
    | false =>
      rw [if_neg (by simp), List.foldl_cons, hplain st x hst hx,
        List.foldl_nil]

/-- Reading parts with a separator between them: each is read on its own,
and `next` is what a separator does. -/
theorem foldl_intercalate (separator part : List α)
    (parts : List (List α)) (st : σ) :
    (separator.intercalate (part :: parts)).foldl step st
      = parts.foldl
        (fun st part => part.foldl step (separator.foldl step st))
        (part.foldl step st) := by
  induction parts generalizing part st with
  | nil => simp
  | cons other parts ih =>
    rw [List.intercalate_cons_cons, List.foldl_append, List.foldl_append,
      ih, List.foldl_cons]

end Reading

end Escapes
