/-
JavaScript's `Set`, and loops over one that changes while they run.

A set keeps the places of its elements in the order they were added. The
place of a deleted element stays, empty, and an element that is added again
gets a new place behind all others. A loop (`for … of`, `forEach`) has only
the next place in hand: it passes over empty ones, and reaches what is
added while it runs.

# The contract of a loop

`Loop` has the history of a loop beside its place: who was in the set when
it began, every deletion since, and everyone it has called. `Follows` is
the invariant that adding, deleting and calling keep, and `Loop.Fair` what
it says at the end: those that stayed all the time have been called once
and in order, nobody has been called more often than they were deleted and
once, and whoever is in the set at the end has been called.
-/
import Mathlib.Data.List.Nodup

namespace Js

variable {α : Type}

-- ================================================================ the set

/-- The elements in a list of places. -/
def elementsOf (places : List (Option α)) : List α := places.filterMap id

@[simp] theorem elementsOf_nil : elementsOf ([] : List (Option α)) = [] := rfl

@[simp] theorem elementsOf_none (places : List (Option α)) :
    elementsOf (none :: places) = elementsOf places := rfl

@[simp] theorem elementsOf_some (a : α) (places : List (Option α)) :
    elementsOf (some a :: places) = a :: elementsOf places := rfl

@[simp] theorem elementsOf_append (places places' : List (Option α)) :
    elementsOf (places ++ places')
      = elementsOf places ++ elementsOf places' :=
  List.filterMap_append

/-- `Set`, by its places. -/
structure LiveSet (α : Type) where
  places : List (Option α)
  distinct : (elementsOf places).Nodup

/-- An element leaves its place. -/
def vacate [DecidableEq α] (a : α) (place : Option α) : Option α :=
  if place = some a then none else place

/-- The others stay. -/
theorem elementsOf_vacate [DecidableEq α] (a : α)
    (places : List (Option α)) :
    elementsOf (places.map (vacate a))
      = (elementsOf places).filter fun x => decide (x ≠ a) := by
  induction places with
  | nil => rfl
  | cons place places ih =>
      cases place with
      | none => simpa [vacate] using ih
      | some x =>
          by_cases hxa : x = a
          · simp [vacate, hxa, ih]
          · simp [vacate, hxa, ih]

namespace LiveSet

/-- `new Set()`. -/
def empty : LiveSet α := ⟨[], List.nodup_nil⟩

/-- The elements, in order. -/
def elements (s : LiveSet α) : List α := elementsOf s.places

@[simp] theorem elements_empty : (empty : LiveSet α).elements = [] := rfl

variable [DecidableEq α]

/-- `s.add(a)`. -/
def add (a : α) (s : LiveSet α) : LiveSet α :=
  if h : a ∈ s.elements then s
  else
    { places := s.places ++ [some a]
      distinct := by
        rw [elementsOf_append]
        exact List.nodup_append.2 ⟨s.distinct, List.nodup_singleton a,
          fun x hx y hy hxy => h (List.mem_singleton.1 hy ▸ hxy ▸ hx)⟩ }

/-- `s.delete(a)`. -/
def delete (a : α) (s : LiveSet α) : LiveSet α :=
  { places := s.places.map (vacate a)
    distinct := by
      rw [elementsOf_vacate]
      exact s.distinct.filter _ }

theorem add_of_mem {a : α} {s : LiveSet α} (h : a ∈ s.elements) :
    s.add a = s := dif_pos h

theorem places_add {a : α} {s : LiveSet α} (h : a ∉ s.elements) :
    (s.add a).places = s.places ++ [some a] := by
  unfold add
  rw [dif_neg h]

@[simp] theorem mem_elements_add {a x : α} {s : LiveSet α} :
    x ∈ (s.add a).elements ↔ x ∈ s.elements ∨ x = a := by
  by_cases h : a ∈ s.elements
  · rw [add_of_mem h]
    exact ⟨Or.inl, fun hx => hx.elim id fun hxa => hxa ▸ h⟩
  · unfold elements
    rw [places_add h, elementsOf_append]
    simp

theorem delete_of_not_mem {a : α} {s : LiveSet α} (h : a ∉ s.elements) :
    s.delete a = s := by
  have hplaces : s.places.map (vacate a) = s.places := by
    refine (List.map_congr_left ?_).trans (List.map_id _)
    intro place hplace
    by_cases hsome : place = some a
    · exact absurd (List.mem_filterMap.2 ⟨place, hplace, hsome⟩) h
    · exact if_neg hsome
  unfold delete
  simp only [hplaces]

theorem elements_delete (a : α) (s : LiveSet α) :
    (s.delete a).elements
      = s.elements.filter fun x => decide (x ≠ a) :=
  elementsOf_vacate a s.places

@[simp] theorem mem_elements_delete {a x : α} {s : LiveSet α} :
    x ∈ (s.delete a).elements ↔ x ∈ s.elements ∧ x ≠ a := by
  rw [elements_delete, List.mem_filter, decide_eq_true_iff]

end LiveSet

-- =============================================================== the loop

/-- The first element at a place or behind it, with the place behind
that. -/
def nextFrom : List (Option α) → Nat → Option (α × Nat)
  | [], _ => none
  | none :: places, i => nextFrom places (i + 1)
  | some a :: _, i => some (a, i + 1)

/-- What a loop at a place of a set gets next. -/
def LiveSet.next (s : LiveSet α) (i : Nat) : Option (α × Nat) :=
  nextFrom (s.places.drop i) i

/-- What is still before a loop. -/
def LiveSet.rest (s : LiveSet α) (i : Nat) : List α :=
  elementsOf (s.places.drop i)

/-- What is behind it. -/
def LiveSet.passed (s : LiveSet α) (i : Nat) : List α :=
  elementsOf (s.places.take i)

theorem LiveSet.passed_rest (s : LiveSet α) (i : Nat) :
    s.passed i ++ s.rest i = s.elements := by
  unfold passed rest elements
  rw [← elementsOf_append, List.take_append_drop]

/-- Nothing is before a loop that is at the end. -/
theorem nextFrom_none {places : List (Option α)} :
    ∀ {i : Nat}, nextFrom places i = none → elementsOf places = [] := by
  induction places with
  | nil => exact fun _ => rfl
  | cons place places ih =>
      intro i h
      cases place with
      | none => exact ih h
      | some a => cases h

/-- The empty places that a loop passes over, the element, and the rest. -/
theorem nextFrom_some {places : List (Option α)} {a : α} :
    ∀ {i j : Nat}, nextFrom places i = some (a, j) →
      ∃ skipped after, places = skipped ++ some a :: after
        ∧ elementsOf skipped = [] ∧ j = i + skipped.length + 1 := by
  induction places with
  | nil =>
      intro i j h
      cases h
  | cons place places ih =>
      intro i j h
      cases place with
      | none =>
          obtain ⟨skipped, after, hplaces, hskipped, hj⟩ := ih h
          refine ⟨none :: skipped, after, ?_, hskipped, ?_⟩
          · rw [hplaces]
            rfl
          · rw [hj, List.length_cons]
            omega
      | some b =>
          injection h with h
          injection h with hb hi
          exact ⟨[], places, by rw [hb]; rfl, rfl, hi.symm⟩

theorem LiveSet.rest_of_next_none {s : LiveSet α} {i : Nat}
    (h : s.next i = none) : s.rest i = [] := nextFrom_none h

/-- What a loop gets is the first of what was before it. -/
theorem LiveSet.next_some {s : LiveSet α} {i j : Nat} {a : α}
    (h : s.next i = some (a, j)) :
    i < j ∧ j ≤ s.places.length ∧ s.rest i = a :: s.rest j
      ∧ s.passed j = s.passed i ++ [a] := by
  obtain ⟨skipped, after, hplaces, hskipped, hj⟩ := nextFrom_some h
  have hdrop : s.places.drop j = after := by
    rw [show j = i + (skipped.length + 1) by omega, ← List.drop_drop,
      hplaces, List.append_cons]
    exact List.drop_left' (by simp)
  have hrest : s.rest i = a :: s.rest j := by
    unfold rest
    rw [hdrop, hplaces, elementsOf_append, hskipped]
    rfl
  have hlength : skipped.length + (after.length + 1) + i
      ≤ s.places.length := by
    have := congrArg List.length hplaces
    simp only [List.length_drop, List.length_append,
      List.length_cons] at this
    omega
  refine ⟨by omega, by omega, hrest, ?_⟩
  have hall := (s.passed_rest i).trans (s.passed_rest j).symm
  rw [hrest] at hall
  have hcut : s.passed i ++ [a] ++ s.rest j = s.passed j ++ s.rest j := by
    rw [List.append_assoc]
    exact hall
  exact (List.append_cancel_right hcut).symm

/-- A loop: its place, and its history. -/
structure Loop (α : Type) where
  index : Nat := 0
  registered : List α
  deleted : List α := []
  called : List α := []
  deriving DecidableEq

/-- A loop over a set begins. -/
def LiveSet.loop (s : LiveSet α) : Loop α := { registered := s.elements }

variable [DecidableEq α]

/-- Someone was there when the loop began and has not been deleted. -/
def Loop.stays (l : Loop α) (a : α) : Bool :=
  decide (a ∈ l.registered) && decide (a ∉ l.deleted)

/-- Those of a list that were there and have stayed. -/
def Loop.staying (l : Loop α) (as : List α) : List α := as.filter l.stays

/-- A deletion from the set that a loop is over. -/
def Loop.delete (a : α) (s : LiveSet α) (l : Loop α) : Loop α :=
  if a ∈ s.elements then { l with deleted := l.deleted ++ [a] } else l

@[simp] theorem Loop.registered_delete (a : α) (s : LiveSet α)
    (l : Loop α) : (l.delete a s).registered = l.registered := by
  unfold Loop.delete
  split <;> rfl

@[simp] theorem Loop.called_delete (a : α) (s : LiveSet α) (l : Loop α) :
    (l.delete a s).called = l.called := by
  unfold Loop.delete
  split <;> rfl

/-- A deletion of another. -/
theorem Loop.not_mem_deleted {a x : α} {s : LiveSet α} {l : Loop α}
    (h : x ∉ l.deleted) (hxa : x ≠ a) : x ∉ (l.delete a s).deleted := by
  unfold Loop.delete
  split
  · intro hmem
    rcases List.mem_append.1 hmem with hold | hnew
    · exact h hold
    · exact hxa (List.mem_singleton.1 hnew)
  · exact h

/-- A call. -/
def Loop.call (a : α) (i : Nat) (l : Loop α) : Loop α :=
  { l with index := i, called := l.called ++ [a] }

/-- Whether someone is among the members, as a number. -/
def holds (members : List α) (a : α) : Nat := if a ∈ members then 1 else 0

/-- What is to hold of a loop over `s`. -/
structure Follows (s : LiveSet α) (l : Loop α) : Prop where
  index : l.index ≤ s.places.length
  /-- Whoever has stayed is in the set. -/
  present : ∀ a ∈ l.registered, a ∉ l.deleted → a ∈ s.elements
  /-- In order: called, or still before the loop. -/
  order : l.staying l.called ++ l.staying (s.rest l.index)
    = l.staying l.registered
  /-- Whoever is behind the loop has been called. -/
  passed : ∀ a ∈ s.passed l.index, a ∈ l.called
  /-- A call more than deletions is for one that is in the set. -/
  count : ∀ a, l.called.count a + (s.rest l.index).count a
    ≤ l.deleted.count a + holds s.elements a

/-- What is to hold of a loop at whose end `members` are in the set. -/
structure Loop.Fair (members : List α) (l : Loop α) : Prop where
  order : l.staying l.called = l.staying l.registered
  reached : ∀ a ∈ members, a ∈ l.called
  count : ∀ a, l.called.count a ≤ l.deleted.count a + holds members a

-- ============================================================== the rules

/-- A loop that begins. -/
theorem follows_loop (s : LiveSet α) : Follows s s.loop where
  index := Nat.zero_le _
  present _ ha _ := ha
  order := rfl
  passed a ha := by cases ha
  count a := by
    show 0 + s.elements.count a ≤ 0 + holds s.elements a
    rw [Nat.zero_add, Nat.zero_add]
    exact Nat.le_of_eq (s.distinct.count)

/-- Someone is added. -/
theorem Follows.add {s : LiveSet α} {l : Loop α} (h : Follows s l)
    (a : α) : Follows (s.add a) l := by
  by_cases hmem : a ∈ s.elements
  · rw [LiveSet.add_of_mem hmem]
    exact h
  have hplaces := LiveSet.places_add hmem
  have hrest : (s.add a).rest l.index = s.rest l.index ++ [a] := by
    unfold LiveSet.rest
    rw [hplaces, List.drop_append_of_le_length h.index, elementsOf_append]
    rfl
  have hpassed : (s.add a).passed l.index = s.passed l.index := by
    unfold LiveSet.passed
    rw [hplaces, List.take_append_of_le_length h.index]
  -- a newcomer that was there before has been deleted
  have hgone : l.stays a = false := by
    rw [Bool.eq_false_iff]
    intro hstays
    simp only [Loop.stays, Bool.and_eq_true, decide_eq_true_eq] at hstays
    exact hmem (h.present a hstays.1 hstays.2)
  constructor
  · rw [hplaces, List.length_append]
    exact Nat.le_trans h.index (Nat.le_add_right _ _)
  · intro x hx hnot
    exact LiveSet.mem_elements_add.2 (Or.inl (h.present x hx hnot))
  · have hnone : l.staying [a] = [] := by simp [Loop.staying, hgone]
    rw [hrest]
    unfold Loop.staying at hnone ⊢
    rw [List.filter_append, hnone, List.append_nil]
    exact h.order
  · rw [hpassed]
    exact h.passed
  · intro x
    have hx := h.count x
    rw [hrest, List.count_append, List.count_singleton]
    unfold holds at hx ⊢
    simp only [LiveSet.mem_elements_add]
    by_cases hxa : x = a
    · subst hxa
      rw [if_neg hmem] at hx
      simp only [or_true, if_true, beq_self_eq_true]
      omega
    · rw [if_neg (by simpa using Ne.symm hxa)]
      simpa [hxa] using hx

/-- Someone is deleted. -/
theorem Follows.delete {s : LiveSet α} {l : Loop α} (h : Follows s l)
    (a : α) : Follows (s.delete a) (l.delete a s) := by
  have hdrop : (s.delete a).rest l.index
      = (s.rest l.index).filter fun x => decide (x ≠ a) := by
    unfold LiveSet.rest LiveSet.delete
    rw [← List.map_drop, elementsOf_vacate]
  have htake : (s.delete a).passed l.index
      = (s.passed l.index).filter fun x => decide (x ≠ a) := by
    unfold LiveSet.passed LiveSet.delete
    rw [← List.map_take, elementsOf_vacate]
  by_cases hmem : a ∈ s.elements
  · have hloop : l.delete a s = { l with deleted := l.deleted ++ [a] } :=
      if_pos hmem
    rw [hloop]
    -- who stays now is who stayed before, `a` apart
    have hstays : ∀ as : List α,
        Loop.staying { l with deleted := l.deleted ++ [a] } as
          = (l.staying as).filter fun x => decide (x ≠ a) := by
      intro as
      unfold Loop.staying
      rw [List.filter_filter]
      apply List.filter_congr
      intro x _
      simp only [Loop.stays, List.mem_append, List.mem_singleton]
      by_cases hxa : x = a <;> simp [hxa]
    constructor
    · exact Nat.le_trans h.index (Nat.le_of_eq (List.length_map _).symm)
    · intro x hx hnot
      rw [List.mem_append, List.mem_singleton, not_or] at hnot
      exact LiveSet.mem_elements_delete.2
        ⟨h.present x hx hnot.1, hnot.2⟩
    · rw [hstays, hstays, hstays, hdrop, ← h.order, List.filter_append]
      congr 1
      unfold Loop.staying
      rw [List.filter_filter, List.filter_filter, List.filter_filter]
      apply List.filter_congr
      intro x _
      cases l.stays x <;> simp
    · rw [htake]
      exact fun x hx => h.passed x (List.mem_of_mem_filter hx)
    · intro x
      have hx := h.count x
      unfold holds at hx ⊢
      simp only [LiveSet.mem_elements_delete]
      rw [hdrop, List.count_append, List.count_singleton]
      by_cases hxa : x = a
      · subst hxa
        rw [if_pos hmem] at hx
        have hzero : ((s.rest l.index).filter
            fun y => decide (y ≠ x)).count x = 0 := by
          apply List.count_eq_zero_of_not_mem
          simp
        simp only [hzero, beq_self_eq_true, if_true]
        omega
      · rw [List.count_filter (by simpa using hxa),
          if_neg (by simpa using Ne.symm hxa)]
        simpa [hxa] using hx
  · have hloop : l.delete a s = l := if_neg hmem
    rw [hloop, LiveSet.delete_of_not_mem hmem]
    exact h

/-- The next one is called. -/
theorem Follows.call {s : LiveSet α} {l : Loop α} (h : Follows s l)
    {a : α} {i : Nat} (hnext : s.next l.index = some (a, i)) :
    Follows s (l.call a i) := by
  obtain ⟨_, hi, hrest, hpassed⟩ := LiveSet.next_some hnext
  have hstays : ∀ as, (l.call a i).staying as = l.staying as :=
    fun _ => rfl
  constructor
  · exact hi
  · exact h.present
  · show l.staying (l.called ++ [a]) ++ l.staying (s.rest i)
      = l.staying l.registered
    rw [← h.order, hrest]
    unfold Loop.staying
    rw [List.filter_append, List.append_assoc, ← List.filter_append]
    rfl
  · intro x hx
    rw [show (l.call a i).index = i from rfl, hpassed] at hx
    rcases List.mem_append.1 hx with hx | hx
    · exact List.mem_append_left _ (h.passed x hx)
    · exact List.mem_append_right _ hx
  · intro x
    have hx := h.count x
    rw [hrest, List.count_cons] at hx
    show (l.called ++ [a]).count x + (s.rest i).count x
      ≤ l.deleted.count x + holds s.elements x
    rw [List.count_append, List.count_singleton]
    omega

/-- Whoever is next and has not been deleted has not been called. -/
theorem Follows.not_called {s : LiveSet α} {l : Loop α} (h : Follows s l)
    {a : α} {i : Nat} (hnext : s.next l.index = some (a, i))
    (hdeleted : a ∉ l.deleted) : a ∉ l.called := by
  obtain ⟨_, _, hrest, _⟩ := LiveSet.next_some hnext
  have hcount := h.count a
  rw [hrest, List.count_cons_self, List.count_eq_zero_of_not_mem hdeleted]
    at hcount
  have hholds : holds s.elements a ≤ 1 := by
    unfold holds
    split <;> omega
  rw [← List.count_eq_zero]
  omega

/-- Whoever was there and has stayed has been called. -/
theorem Loop.Fair.called {members : List α} {l : Loop α}
    (h : l.Fair members) {a : α} (hregistered : a ∈ l.registered)
    (hdeleted : a ∉ l.deleted) : a ∈ l.called := by
  have hstays : a ∈ l.staying l.registered :=
    List.mem_filter.2 ⟨hregistered, by simp [stays, hregistered, hdeleted]⟩
  rw [← h.order] at hstays
  exact List.mem_of_mem_filter hstays

/-- Nobody is left. -/
theorem Follows.fair {s : LiveSet α} {l : Loop α} (h : Follows s l)
    (hnext : s.next l.index = none) : l.Fair s.elements := by
  have hrest := LiveSet.rest_of_next_none hnext
  constructor
  · have horder := h.order
    rw [hrest] at horder
    rw [← horder]
    exact (List.append_nil _).symm
  · intro a ha
    apply h.passed
    rw [← s.passed_rest l.index, hrest, List.append_nil] at ha
    exact ha
  · intro a
    exact Nat.le_trans (Nat.le_add_right _ _) (h.count a)

end Js
