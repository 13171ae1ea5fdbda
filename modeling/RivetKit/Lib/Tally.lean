/-
Counting the entries of a list by the name each one carries: the ledger
of a system in which things with names move between places.

A move takes an entry out of one list by its index and appends it to
another; the two rules for that turn a balance over all places into
linear arithmetic.
-/

namespace Transition

variable {α : Type} (f : α → Option Nat)

/-- How many entries carry the name `c`. -/
def tally (l : List α) (c : Nat) : Nat :=
  l.countP fun x => f x == some c

@[simp] theorem tally_nil (c : Nat) : tally f [] c = 0 := rfl

@[simp] theorem tally_cons (x : α) (l : List α) (c : Nat) :
    tally f (x :: l) c
      = tally f l c + (if f x = some c then 1 else 0) := by
  unfold tally
  rw [List.countP_cons]
  simp only [beq_iff_eq]

@[simp] theorem tally_append (l l' : List α) (c : Nat) :
    tally f (l ++ l') c = tally f l c + tally f l' c := by
  unfold tally
  exact List.countP_append

variable {f}

/-- An entry that is taken out is counted no more. -/
theorem tally_eraseIdx {l : List α} {x : α} (c : Nat) :
    ∀ i : Nat, l[i]? = some x →
      tally f (l.eraseIdx i) c + (if f x = some c then 1 else 0)
        = tally f l c := by
  induction l with
  | nil =>
      intro i h
      cases h
  | cons y l ih =>
      intro i h
      cases i with
      | zero =>
          injection h with h
          rw [h]
          simp
      | succ i =>
          have htail := ih i h
          rw [List.eraseIdx_cons_succ]
          simp only [tally_cons]
          omega

/-- An entry is counted. -/
theorem tally_pos {l : List α} {x : α} {c : Nat} (hmem : x ∈ l)
    (hname : f x = some c) : 0 < tally f l c := by
  unfold tally
  apply List.countP_pos_iff.mpr
  exact ⟨x, hmem, by simp [hname]⟩

end Transition
