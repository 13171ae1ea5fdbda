/-
The laws of a JavaScript `Map` with string keys, as the association lists of
`mapSet` and `mapDelete`: what `get` finds after `set` and after `delete`,
and which entries there are.
-/
import RivetKit.Actor.Connections

namespace RivetKit.Actor

namespace LiveInstance

-- ============================================================== the maps

/-- `Map.set` of a key that is there. -/
private theorem lookup_replace {β : Type} (map : List (String × β))
    (key k : String) (v : β) :
    (map.map fun entry => if entry.1 == key then (key, v) else entry).lookup k
      = if k = key then if map.any (·.1 == key) then some v else none
        else map.lookup k := by
  induction map with
  | nil => simp
  | cons entry map ih =>
      obtain ⟨k', v'⟩ := entry
      by_cases hentry : k' = key
      · subst hentry
        rw [List.map_cons, if_pos (by simp), List.lookup_cons, ih,
          List.lookup_cons]
        by_cases hk : k = k'
        · simp [hk]
        · have hne : (k == k') = false := beq_eq_false_iff_ne.2 hk
          rw [hne, if_neg hk, if_neg hk]
      · have hne' : (k' == key) = false := beq_eq_false_iff_ne.2 hentry
        rw [List.map_cons, if_neg (by simpa using hentry), List.lookup_cons,
          ih, List.lookup_cons, List.any_cons, hne', Bool.false_or]
        by_cases hk : k = key
        · have hne : (k == k') = false := by
            rw [hk]
            exact beq_eq_false_iff_ne.2 (Ne.symm hentry)
          rw [hne, if_pos hk]
        · rw [if_neg hk, if_neg hk]

theorem lookup_mapSet {β : Type} (map : List (String × β)) (key k : String)
    (v : β) : (mapSet map key v).lookup k
      = if k = key then some v else map.lookup k := by
  unfold mapSet
  split
  case isTrue hany => rw [lookup_replace, hany, if_pos rfl]
  case isFalse hany =>
    rw [List.lookup_append]
    by_cases hk : k = key
    · have hnone : map.lookup k = none := by
        rw [List.lookup_eq_none_iff]
        intro entry hmem
        rw [hk]
        apply bne_iff_ne.2
        rintro rfl
        exact hany (List.any_eq_true.2 ⟨entry, hmem, by simp⟩)
      rw [hnone, if_pos hk, hk]
      simp
    · have hne : (k == key) = false := beq_eq_false_iff_ne.2 hk
      simp [List.lookup_cons, hne, hk]

theorem lookup_mapDelete {β : Type} (map : List (String × β))
    (key k : String) : (mapDelete map key).lookup k
      = if k = key then none else map.lookup k := by
  unfold mapDelete
  induction map with
  | nil => simp
  | cons entry map ih =>
      obtain ⟨k', v⟩ := entry
      by_cases hkey : k' = key
      · rw [List.filter_cons_of_neg (by simpa using hkey), ih, List.lookup_cons]
        by_cases hk : k = key
        · rw [if_pos hk, if_pos hk]
        · have hne : (k == k') = false := by
            rw [hkey]
            exact beq_eq_false_iff_ne.2 hk
          rw [if_neg hk, if_neg hk, hne]
      · rw [List.filter_cons_of_pos (by simpa using hkey), List.lookup_cons,
          List.lookup_cons, ih]
        by_cases hk : k = key
        · have hne : (k == k') = false := by
            rw [hk]
            exact beq_eq_false_iff_ne.2 (Ne.symm hkey)
          rw [if_pos hk, if_pos hk, hne]
        · rw [if_neg hk, if_neg hk]

/-- What is in a map behind `Map.set`: the entry, and the others with other
keys. -/
theorem mem_mapSet_cases {β : Type} {map : List (String × β)} {key : String}
    {v : β} {entry : String × β} (h : entry ∈ mapSet map key v) :
    entry = (key, v) ∨ (entry ∈ map ∧ entry.1 ≠ key) := by
  unfold mapSet at h
  split at h
  · obtain ⟨old, hold, heq⟩ := List.mem_map.1 h
    split at heq
    · exact Or.inl heq.symm
    · rename_i hkey
      rw [← heq]
      exact Or.inr ⟨hold, by simpa using hkey⟩
  · rename_i hany
    rcases List.mem_append.1 h with h | h
    · refine Or.inr ⟨h, ?_⟩
      intro hkey
      exact hany (List.any_eq_true.2 ⟨entry, h, by simpa using hkey⟩)
    · exact Or.inl (List.mem_singleton.1 h)

theorem mem_mapSet {β : Type} {map : List (String × β)} {key : String}
    {v : β} {entry : String × β} (h : entry ∈ mapSet map key v) :
    entry ∈ map ∨ entry = (key, v) := by
  obtain heq | ⟨hmem, -⟩ := mem_mapSet_cases h
  · exact Or.inr heq
  · exact Or.inl hmem

theorem mapSet_of_fresh {β : Type} {map : List (String × β)} {key : String}
    (h : ∀ entry ∈ map, entry.1 ≠ key) (v : β) :
    mapSet map key v = map ++ [(key, v)] := by
  unfold mapSet
  rw [if_neg]
  intro hany
  obtain ⟨entry, hmem, heq⟩ := List.any_eq_true.1 hany
  exact h entry hmem (by simpa using heq)

theorem mem_mapDelete {β : Type} {map : List (String × β)} {key : String}
    {entry : String × β} :
    entry ∈ mapDelete map key ↔ entry ∈ map ∧ entry.1 ≠ key := by
  unfold mapDelete
  rw [List.mem_filter]
  simp

/-- `Map.keys`: those that `get` finds. -/
theorem mem_keys_iff {β : Type} {map : List (String × β)} {key : String} :
    key ∈ map.map (·.1) ↔ ∃ v, map.lookup key = some v := by
  induction map with
  | nil => simp
  | cons entry map ih =>
      obtain ⟨k, v⟩ := entry
      rw [List.map_cons, List.mem_cons, ih, List.lookup_cons]
      by_cases hkey : key = k
      · simp [hkey]
      · have hne : (key == k) = false := beq_eq_false_iff_ne.2 hkey
        simp [hkey, hne]

end LiveInstance

end RivetKit.Actor
