/-
Lists that are changed at one place: what an index finds after an
element is added, replaced or modified.
-/
import Mathlib.Data.List.Basic

universe u

namespace Lists

variable {α : Type u}

/-- Behind a longer list: an old element, or the one added. -/
theorem getElem?_concat {l : List α} {x y : α} {i : Nat}
    (h : (l ++ [x])[i]? = some y) :
    l[i]? = some y ∨ (i = l.length ∧ y = x) := by
  by_cases hlt : i < l.length
  · rw [List.getElem?_append_left hlt] at h
    exact Or.inl h
  · rw [List.getElem?_append_right (by omega)] at h
    have hzero : i - l.length = 0 := by
      by_contra hne
      rw [List.getElem?_eq_none (by simp; omega)] at h
      exact absurd h (by simp)
    rw [hzero] at h
    injection h with h
    exact Or.inr ⟨by omega, h.symm⟩

/-- Elements stay when one is added. -/
theorem getElem?_concat_of_some {l : List α} {x y : α} {i : Nat}
    (h : l[i]? = some y) : (l ++ [x])[i]? = some y := by
  have hlt := (List.getElem?_eq_some_iff.1 h).1
  rw [List.getElem?_append_left hlt]
  exact h

/-- Behind a replacement: another element, or the new one. -/
theorem getElem?_set_cases {l : List α} {a i : Nat} {new x : α}
    (h : (l.set a new)[i]? = some x) :
    (l[i]? = some x ∧ i ≠ a) ∨ (i = a ∧ x = new) := by
  rw [List.getElem?_set] at h
  by_cases hia : a = i
  · rw [if_pos hia] at h
    split at h
    · injection h with h
      exact Or.inr ⟨hia.symm, h.symm⟩
    · exact absurd h (by simp)
  · rw [if_neg hia] at h
    exact Or.inl ⟨h, Ne.symm hia⟩

/-- A modification elsewhere. -/
theorem getElem?_modify_of_ne {l : List α} {i j : Nat} (f : α → α)
    (h : j ≠ i) : (l.modify i f)[j]? = l[j]? := by
  rw [List.getElem?_modify]
  simp [Ne.symm h]

/-- A modification here. -/
theorem getElem?_modify_self (l : List α) (i : Nat) (f : α → α) :
    (l.modify i f)[i]? = l[i]?.map f := by
  rw [List.getElem?_modify]
  simp

/-- A modification of the last element. -/
theorem modify_append_length (l : List α) (x : α) (f : α → α) :
    (l ++ [x]).modify l.length f = l ++ [f x] := by
  induction l with
  | nil => rfl
  | cons y l ih =>
      rw [List.cons_append, List.length_cons, List.modify_succ_cons, ih]
      rfl

/-- Behind a modification: another element, or the modified one. -/
theorem getElem?_modify_cases {l : List α} {i j : Nat} {f : α → α} {x : α}
    (h : (l.modify i f)[j]? = some x) :
    (l[j]? = some x ∧ j ≠ i) ∨ (j = i ∧ ∃ y, l[i]? = some y ∧ x = f y) := by
  by_cases hji : j = i
  · rw [hji, getElem?_modify_self] at h
    obtain ⟨y, hy, hx⟩ := Option.map_eq_some_iff.1 h
    exact Or.inr ⟨hji, y, hy, hx.symm⟩
  · rw [getElem?_modify_of_ne f hji] at h
    exact Or.inl ⟨h, hji⟩

-- ============================================================== searches

/-- Around the first element that satisfies `p`. -/
theorem findIdx?_split {p : α → Bool} {l : List α} {i : Nat}
    (h : l.findIdx? p = some i) :
    ∃ pre x post, l = pre ++ x :: post ∧ pre.length = i ∧ p x = true
      ∧ ∀ y ∈ pre, p y = false := by
  induction l generalizing i with
  | nil => exact absurd h (by simp)
  | cons a l ih =>
      rw [List.findIdx?_cons] at h
      by_cases ha : p a = true
      · rw [if_pos ha] at h
        injection h with h
        exact ⟨[], a, l, rfl, h, ha, by simp⟩
      · rw [if_neg ha] at h
        obtain ⟨j, hj, hi⟩ := Option.map_eq_some_iff.1 h
        obtain ⟨pre, x, post, hl, hlen, hx, hpre⟩ := ih hj
        refine ⟨a :: pre, x, post, by rw [hl]; rfl, ?_, hx, ?_⟩
        · rw [List.length_cons, hlen]
          exact hi
        · intro y hy
          rcases List.mem_cons.1 hy with hy | hy
          · rw [hy]
            exact Bool.eq_false_iff.2 ha
          · exact hpre y hy

/-- An insertion behind a prefix. -/
theorem insertIdx_append (pre post : List α) (x : α) :
    (pre ++ post).insertIdx pre.length x = pre ++ x :: post := by
  induction pre with
  | nil => rfl
  | cons a pre ih =>
      show a :: (pre ++ post).insertIdx pre.length x = _
      rw [ih]
      rfl

/-- Behind a replacement whose parts are what is left of the old parts. -/
theorem flatMap_set_perm {β : Type u} {f : α → List β} {l : List α}
    {k : Nat} {x y : α} {front : List β} (hk : l[k]? = some x)
    (hf : f x = front ++ f y) :
    (l.flatMap f).Perm (front ++ (l.set k y).flatMap f) := by
  induction l generalizing k with
  | nil => exact absurd hk (by simp)
  | cons a l ih =>
      cases k with
      | zero =>
          injection hk with hk
          rw [List.set_cons_zero, List.flatMap_cons, List.flatMap_cons]
          rw [hk, hf, List.append_assoc]
      | succ k =>
          rw [List.set_cons_succ, List.flatMap_cons, List.flatMap_cons]
          have hrest := ih hk
          refine (hrest.append_left (f a)).trans ?_
          exact List.perm_append_comm_assoc _ _ _

-- ============================================================== conversions

/-- A conversion of a list that succeeds. -/
theorem mapM_cons_eq_some {β : Type u} {f : α → Option β} {x : α}
    {l : List α} {l' : List β} :
    (x :: l).mapM f = some l'
      ↔ ∃ y ys, f x = some y ∧ l.mapM f = some ys ∧ l' = y :: ys := by
  rw [List.mapM_cons]
  constructor
  · intro h
    obtain ⟨y, hy, h⟩ := Option.bind_eq_some_iff.1 h
    obtain ⟨ys, hys, h⟩ := Option.bind_eq_some_iff.1 h
    injection h with h
    exact ⟨y, ys, hy, hys, h.symm⟩
  · intro h
    obtain ⟨y, ys, hy, hys, hl⟩ := h
    rw [hy, hl]
    show Option.bind (l.mapM f) _ = _
    rw [hys]
    rfl

/-- A list comes back from a conversion if and only if its elements
do. -/
theorem mapM_round_trip {β : Type u} {f : α → Option β} {g : β → Option α}
    {P : α → Prop} {l : List α}
    (h : ∀ x ∈ l, (∃ y, f x = some y ∧ g y = some x) ↔ P x) :
    (∃ ys, l.mapM f = some ys ∧ ys.mapM g = some l) ↔ ∀ x ∈ l, P x := by
  induction l with
  | nil => exact ⟨fun _ => by simp, fun _ => ⟨[], rfl, rfl⟩⟩
  | cons x l ih =>
      have hx := h x (by simp)
      have hl := ih fun x' hx' => h x' (by simp [hx'])
      rw [List.forall_mem_cons]
      rw [← hx, ← hl]
      constructor
      · intro hall
        obtain ⟨ys, hys, hback⟩ := hall
        obtain ⟨y, ys', hy, hys', heq⟩ := mapM_cons_eq_some.1 hys
        rw [heq] at hback
        obtain ⟨x', xs, hx', hxs, heq'⟩ := mapM_cons_eq_some.1 hback
        injection heq' with hhead htail
        rw [← hhead] at hx'
        rw [← htail] at hxs
        exact ⟨⟨y, hy, hx'⟩, ys', hys', hxs⟩
      · intro hall
        obtain ⟨⟨y, hy, hback⟩, ys, hys, hbacks⟩ := hall
        exact ⟨y :: ys, mapM_cons_eq_some.2 ⟨y, ys, hy, hys, rfl⟩,
          mapM_cons_eq_some.2 ⟨x, l, hback, hbacks, rfl⟩⟩

/-- The elements of a conversion. -/
theorem mem_of_mapM {β : Type u} {f : α → Option β} {l : List α}
    {ys : List β} (h : l.mapM f = some ys) {y : β} (hy : y ∈ ys) :
    ∃ x ∈ l, f x = some y := by
  induction l generalizing ys with
  | nil =>
      injection h with h
      rw [← h] at hy
      exact absurd hy (by simp)
  | cons x l ih =>
      obtain ⟨y', ys', hy', hys', heq⟩ := mapM_cons_eq_some.1 h
      rw [heq] at hy
      rcases List.mem_cons.1 hy with hy | hy
      · exact ⟨x, by simp, by rw [hy]; exact hy'⟩
      · obtain ⟨x', hx', hfx'⟩ := ih hys' hy
        exact ⟨x', by simp [hx'], hfx'⟩

/-- A conversion succeeds if it does for every element. -/
theorem exists_mapM {β : Type u} {f : α → Option β} {l : List α}
    (h : ∀ x ∈ l, ∃ y, f x = some y) : ∃ ys, l.mapM f = some ys := by
  induction l with
  | nil => exact ⟨[], rfl⟩
  | cons x l ih =>
      obtain ⟨y, hy⟩ := h x (by simp)
      obtain ⟨ys, hys⟩ := ih fun x' hx' => h x' (by simp [hx'])
      exact ⟨y :: ys, mapM_cons_eq_some.2 ⟨y, ys, hy, hys, rfl⟩⟩

/-- The converted element at an index. -/
theorem getElem?_mapM {β : Type u} {f : α → Option β} {l : List α}
    {ys : List β} (h : l.mapM f = some ys) {i : Nat} {x : α}
    (hx : l[i]? = some x) : ∃ y, ys[i]? = some y ∧ f x = some y := by
  induction l generalizing ys i with
  | nil => exact absurd hx (by simp)
  | cons a l ih =>
      obtain ⟨y, ys', hy, hys', heq⟩ := mapM_cons_eq_some.1 h
      rw [heq]
      cases i with
      | zero =>
          injection hx with hx
          rw [← hx]
          exact ⟨y, rfl, hy⟩
      | succ i => exact ih hys' hx

end Lists
