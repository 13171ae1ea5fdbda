/-
Pages of a sorted collection that grows while they are read, each behind
the last element of the one before (a cursor).

A page is what can be read of the elements behind its cursor, in order, up
to a limit. In a sorted list without repetition what is behind an element
is what is greater (`behind_some`), whatever has been added in between. So
the pages together are sorted and list nothing twice, and once one of them
is not full, they have everything that was there from the first one on and
could be read each time (`pages_sorted`, `mem_pages`).
-/
import Mathlib.Data.List.Sort

namespace Pages

variable {α : Type} [LinearOrder α]

-- ================================================================ one page

/-- A collection at one time, and what of it can be read. -/
structure Snapshot (α : Type) where
  elements : List α
  distinct : elements.Nodup
  readable : α → Bool

/-- A collection in order. -/
def sorted (elements : List α) : List α :=
  elements.mergeSort fun a b => decide (a ≤ b)

/-- Where a page starts: behind its cursor, or with the first element if
there is no cursor, or none such. -/
def startIndex (cursor : Option α) (elements : List α) : Nat :=
  match cursor with
  | none => 0
  | some c =>
      match elements.idxOf? c with
      | some i => i + 1
      | none => 0

/-- What a page goes through. -/
def behind (cursor : Option α) (elements : List α) : List α :=
  elements.drop (startIndex cursor elements)

/-- What of it can be read. -/
def candidates (cursor : Option α) (s : Snapshot α) : List α :=
  (behind cursor (sorted s.elements)).filter s.readable

/-- A page. -/
def page (limit : Nat) (cursor : Option α) (s : Snapshot α) : List α :=
  (candidates cursor s).take limit

/-- The cursor behind a page. -/
def nextCursor (cursor : Option α) (page : List α) : Option α :=
  match page.getLast? with
  | some last => some last
  | none => cursor

/-- One page after another, each of the collection at its time. -/
def pages (limit : Nat) : Option α → List (Snapshot α) → List (List α)
  | _, [] => []
  | cursor, s :: rest =>
      page limit cursor s
        :: pages limit (nextCursor cursor (page limit cursor s)) rest

/-- Nothing is removed. -/
def Growing (snapshots : List (Snapshot α)) : Prop :=
  snapshots.Pairwise fun s t => ∀ a ∈ s.elements, a ∈ t.elements

/-- What is greater than a cursor. -/
def Behind (cursor : Option α) (a : α) : Prop := ∀ c ∈ cursor, c < a

-- ============================================================ the elements

theorem mem_sorted {elements : List α} {a : α} :
    a ∈ sorted elements ↔ a ∈ elements := List.mem_mergeSort

theorem pairwise_sorted {elements : List α} (h : elements.Nodup) :
    (sorted elements).Pairwise (· < ·) := by
  have hle : (sorted elements).Pairwise fun a b => decide (a ≤ b) = true :=
    List.pairwise_mergeSort
      (fun a b c hab hbc => by
        rw [decide_eq_true_iff] at hab hbc ⊢
        exact le_trans hab hbc)
      (fun a b => by
        rw [Bool.or_eq_true, decide_eq_true_iff, decide_eq_true_iff]
        exact le_total a b) elements
  have hne : (sorted elements).Nodup :=
    (List.mergeSort_perm elements _).nodup_iff.2 h
  refine hle.imp₂ (fun a b hab hab' => ?_) hne
  exact lt_of_le_of_ne (decide_eq_true_iff.1 hab) hab'

theorem behind_of_idxOf {c : α} {elements : List α} {i : Nat}
    (h : elements.idxOf? c = some i) :
    behind (some c) elements = elements.drop (i + 1) := by
  simp only [behind, startIndex, h]

/-- Behind an element is what is greater. -/
theorem behind_some {c : α} {elements : List α}
    (h : elements.Pairwise (· < ·)) (hmem : c ∈ elements) :
    behind (some c) elements = elements.filter fun a => decide (c < a) := by
  induction elements with
  | nil => cases hmem
  | cons x elements ih =>
      rw [List.pairwise_cons] at h
      by_cases hx : x = c
      · subst hx
        have hall : elements.filter (fun a => decide (x < a)) = elements := by
          apply List.filter_eq_self.2
          intro a ha
          exact decide_eq_true (h.1 a ha)
        rw [List.filter_cons_of_neg (by simp), hall]
        exact behind_of_idxOf (i := 0) (by simp [List.idxOf?_cons])
      · have htail : c ∈ elements :=
          (List.mem_cons.1 hmem).resolve_left (Ne.symm hx)
        have hlt : ¬c < x := not_lt_of_gt (h.1 c htail)
        obtain ⟨i, hi⟩ := Option.isSome_iff_exists.1
          (List.isSome_idxOf?.2 htail)
        rw [List.filter_cons_of_neg (by simpa using hlt), ← ih h.2 htail,
          behind_of_idxOf hi]
        exact behind_of_idxOf (by simp [List.idxOf?_cons, hx, hi])

/-- The elements of a page in order. -/
theorem pairwise_candidates (cursor : Option α) (s : Snapshot α) :
    (candidates cursor s).Pairwise (· < ·) :=
  ((pairwise_sorted s.distinct).sublist (List.drop_sublist _ _)).filter _

/-- What a page can list. -/
theorem mem_candidates {cursor : Option α} {s : Snapshot α} {a : α}
    (h : ∀ c ∈ cursor, c ∈ s.elements) :
    a ∈ candidates cursor s
      ↔ a ∈ s.elements ∧ Behind cursor a ∧ s.readable a = true := by
  unfold candidates
  rw [List.mem_filter]
  cases cursor with
  | none => simp [behind, startIndex, Behind, mem_sorted]
  | some c =>
      rw [behind_some (pairwise_sorted s.distinct)
        (mem_sorted.2 (h c rfl)), List.mem_filter, mem_sorted]
      simp [Behind, and_assoc]

/-- Of a sorted list, the part that is taken has what is not greater than
its last element. -/
theorem mem_take_of_le {as : List α} (h : as.Pairwise (· < ·)) {n : Nat}
    {a last : α} (ha : a ∈ as) (hlast : (as.take n).getLast? = some last)
    (hle : a ≤ last) : a ∈ as.take n := by
  rw [← List.take_append_drop n as] at ha h
  rcases List.mem_append.1 ha with hmem | hmem
  · exact hmem
  · have hlt := (List.pairwise_append.1 h).2.2 last
      (List.mem_of_getLast? hlast) a hmem
    exact absurd hle (not_le_of_gt hlt)

theorem le_last {as : List α} (h : as.Pairwise (· < ·)) {a last : α}
    (ha : a ∈ as) (hlast : as.getLast? = some last) : a ≤ last := by
  obtain ⟨init, rfl⟩ := List.getLast?_eq_some_iff.1 hlast
  rcases List.mem_append.1 ha with hmem | hmem
  · exact le_of_lt ((List.pairwise_append.1 h).2.2 a hmem last (by simp))
  · exact le_of_eq (List.mem_singleton.1 hmem)

-- =============================================================== the pages

/-- Cursors that have been listed, in what follows. -/
theorem cursor_of_growing {s : Snapshot α} {rest : List (Snapshot α)}
    {cursor : Option α} {limit : Nat} (h : Growing (s :: rest))
    (hcursor : ∀ t ∈ s :: rest, ∀ c ∈ cursor, c ∈ t.elements) :
    ∀ t ∈ rest, ∀ c ∈ nextCursor cursor (page limit cursor s),
      c ∈ t.elements := by
  intro t ht c hc
  unfold nextCursor at hc
  cases hlast : (page limit cursor s).getLast? with
  | none =>
      rw [hlast] at hc
      exact hcursor t (List.mem_cons_of_mem _ ht) c hc
  | some last =>
      rw [hlast] at hc
      rw [← Option.mem_some_iff.1 hc]
      have hmem := List.mem_of_mem_take (List.mem_of_getLast? hlast)
      exact (List.pairwise_cons.1 h).1 t ht last
        ((mem_candidates (hcursor s List.mem_cons_self)).1 hmem).1

/-- What is behind the next cursor is behind this one, and behind the
page. -/
theorem behind_next {s : Snapshot α} {cursor : Option α} {limit : Nat}
    (hcursor : ∀ c ∈ cursor, c ∈ s.elements) {a : α}
    (h : Behind (nextCursor cursor (page limit cursor s)) a) :
    Behind cursor a ∧ ∀ b ∈ page limit cursor s, b < a := by
  unfold nextCursor at h
  have hpairwise : (page limit cursor s).Pairwise (· < ·) :=
    (pairwise_candidates cursor s).sublist (List.take_sublist _ _)
  cases hlast : (page limit cursor s).getLast? with
  | none =>
      rw [hlast] at h
      refine ⟨h, fun b hb => ?_⟩
      rw [List.getLast?_eq_none_iff.1 hlast] at hb
      cases hb
  | some last =>
      rw [hlast] at h
      have hlt : last < a := h last rfl
      have hmem := List.mem_of_mem_take (List.mem_of_getLast? hlast)
      have hbehind := ((mem_candidates hcursor).1 hmem).2.1
      exact ⟨fun c hc => lt_trans (hbehind c hc) hlt, fun b hb =>
        lt_of_le_of_lt (le_last hpairwise hb hlast) hlt⟩

/-- The pages together are in order, so they list nothing twice. -/
theorem pages_sorted {limit : Nat} {snapshots : List (Snapshot α)} :
    ∀ {cursor : Option α}, Growing snapshots →
      (∀ s ∈ snapshots, ∀ c ∈ cursor, c ∈ s.elements) →
      (pages limit cursor snapshots).flatten.Pairwise (· < ·)
        ∧ ∀ a ∈ (pages limit cursor snapshots).flatten, Behind cursor a := by
  induction snapshots with
  | nil =>
      intro cursor _ _
      simp [pages]
  | cons s rest ih =>
      intro cursor hgrowing hcursor
      have hhere := hcursor s List.mem_cons_self
      have hnext := @cursor_of_growing _ _ s rest cursor limit hgrowing hcursor
      obtain ⟨hsorted, hbehind⟩ := ih (List.pairwise_cons.1 hgrowing).2 hnext
      have hpage : (page limit cursor s).Pairwise (· < ·) :=
        (pairwise_candidates cursor s).sublist (List.take_sublist _ _)
      rw [pages, List.flatten_cons]
      constructor
      · refine List.pairwise_append.2 ⟨hpage, hsorted, fun b hb a ha => ?_⟩
        exact (behind_next hhere (hbehind a ha)).2 b hb
      · intro a ha
        rcases List.mem_append.1 ha with ha | ha
        · exact ((mem_candidates hhere).1 (List.mem_of_mem_take ha)).2.1
        · exact (behind_next hhere (hbehind a ha)).1

/-- Once a page is not full, everything is listed that was there from the
first page on, and could be read each time. -/
theorem mem_pages {limit : Nat} {snapshots : List (Snapshot α)} {a : α} :
    ∀ {cursor : Option α}, Growing snapshots →
      (∀ s ∈ snapshots, ∀ c ∈ cursor, c ∈ s.elements) →
      (∀ s ∈ snapshots, a ∈ s.elements ∧ s.readable a = true) →
      Behind cursor a →
      (∃ p ∈ pages limit cursor snapshots, p.length < limit) →
      a ∈ (pages limit cursor snapshots).flatten := by
  induction snapshots with
  | nil =>
      rintro cursor _ _ _ _ ⟨p, hp, _⟩
      cases hp
  | cons s rest ih =>
      rintro cursor hgrowing hcursor hthere ha ⟨p, hp, hshort⟩
      have hhere := hcursor s List.mem_cons_self
      have hmem : a ∈ candidates cursor s :=
        (mem_candidates hhere).2 ⟨(hthere s List.mem_cons_self).1, ha,
          (hthere s List.mem_cons_self).2⟩
      rw [pages, List.flatten_cons]
      by_cases hlisted : a ∈ page limit cursor s
      · exact List.mem_append_left _ hlisted
      · -- the page is full, and `a` is behind its last element
        have hfull : ¬(page limit cursor s).length < limit := by
          intro hlt
          have hall : page limit cursor s = candidates cursor s :=
            List.take_of_length_le (by
              unfold page at hlt
              rw [List.length_take] at hlt
              omega)
          exact hlisted (hall ▸ hmem)
        have hp' : p ∈ pages limit (nextCursor cursor (page limit cursor s))
            rest := by
          rcases List.mem_cons.1 hp with rfl | hp
          · exact absurd hshort hfull
          · exact hp
        have hafter : Behind (nextCursor cursor (page limit cursor s)) a := by
          unfold nextCursor
          cases hlast : (page limit cursor s).getLast? with
          | none => exact ha
          | some last =>
              intro c hc
              rw [← Option.mem_some_iff.1 hc]
              by_contra hle
              exact hlisted (mem_take_of_le (pairwise_candidates cursor s)
                hmem hlast (not_lt.1 hle))
        exact List.mem_append_right _ (ih (List.pairwise_cons.1 hgrowing).2
          (cursor_of_growing hgrowing hcursor)
          (fun t ht => hthere t (List.mem_cons_of_mem _ ht)) hafter
          ⟨p, hp', hshort⟩)

end Pages
