/-
HTTP headers: the `Headers` of the fetch standard, and plain objects of
names and values.

# Two ways of telling names apart

A `Headers` compares names in lower case and holds one entry a name
(`set-cookie` apart, which may come several times). A plain object tells
its properties apart as they are spelled: two spellings of one name are
two properties, and whoever reads the object as headers sees both.

# Values

A value is a string of bytes: `set` strips white space at both ends and
throws a `TypeError` if a character above U+00FF, a NUL or the end of a
line is left.
-/
import Mathlib.Data.List.DropRight

namespace Http

-- =============================================================== names

/-- A header name in lower case. -/
def lowerName (name : String) : String :=
  String.ofList (name.toList.map Char.toLower)

theorem toLower_toLower (c : Char) : c.toLower.toLower = c.toLower := by
  by_cases hc : c.val ≥ 'A'.val ∧ c.val ≤ 'Z'.val
  · have hlow : ¬ (c.toLower.val ≥ 'A'.val ∧ c.toLower.val ≤ 'Z'.val) := by
      have hval : c.toLower.val = c.val + ('a'.val - 'A'.val) :=
        congrArg Char.val (dif_pos hc)
      rw [hval]
      obtain ⟨h1, h2⟩ := hc
      simp only [ge_iff_le, UInt32.le_iff_toNat_le] at h1 h2 ⊢
      have hA : ('A'.val : UInt32).toNat = 65 := rfl
      have hZ : ('Z'.val : UInt32).toNat = 90 := rfl
      rw [hA] at h1 ⊢
      rw [hZ] at h2 ⊢
      rw [UInt32.toNat_add]
      have ha : ('a'.val - 'A'.val : UInt32).toNat = 32 := rfl
      rw [ha]
      omega
    exact dif_neg hlow
  · have hid : c.toLower = c := dif_neg hc
    rw [hid, hid]

@[simp] theorem lowerName_lowerName (name : String) :
    lowerName (lowerName name) = lowerName name := by
  unfold lowerName
  rw [String.toList_ofList, List.map_map]
  congr 1
  apply List.map_congr_left
  intro c _
  exact toLower_toLower c

-- ============================================================== values

/-- A character that a header value may hold. -/
def isValueChar (c : Char) : Bool :=
  c.toNat ≤ 0xff && c.toNat ≠ 0 && c ≠ '\n' && c ≠ '\r'

/-- White space at the ends of a value. -/
def isWhitespace (c : Char) : Bool :=
  c = ' ' || c = '\t' || c = '\n' || c = '\r'

/-- A value without the white space at its ends. -/
def normalizeValue (value : String) : String :=
  String.ofList
    ((value.toList.dropWhile isWhitespace).rdropWhile isWhitespace)

/-- A string that is a header value. -/
def IsValue (value : String) : Prop :=
  normalizeValue value = value ∧ ∀ c ∈ value.toList, isValueChar c = true

/-- A test of the characters in turn. -/
theorem isValue_iff (value : String) :
    normalizeValue value = value ∧ value.toList.all isValueChar = true
      ↔ IsValue value := by
  unfold IsValue
  rw [List.all_eq_true]

instance (value : String) : Decidable (IsValue value) :=
  decidable_of_iff _ (isValue_iff value)

theorem normalizeValue_of_ends {cs : List Char} {first last : Char}
    (hhead : cs.head? = some first) (hlast : cs.getLast? = some last)
    (hfirst : isWhitespace first = false)
    (hend : isWhitespace last = false) :
    normalizeValue (String.ofList cs) = String.ofList cs := by
  obtain ⟨rest, rfl⟩ : ∃ rest, cs = first :: rest := by
    cases cs with
    | nil => exact absurd hhead (by simp)
    | cons c rest =>
      injection hhead with h
      exact ⟨rest, by rw [h]⟩
  unfold normalizeValue
  rw [String.toList_ofList, List.dropWhile_cons_of_neg (by simp [hfirst])]
  rw [List.rdropWhile_eq_self_iff.2]
  intro hne
  rw [List.getLast?_eq_some_getLast hne] at hlast
  injection hlast with hlast
  rw [hlast, hend]
  simp

-- ============================================================= headers

/-- A `Headers`. Its entries are what iterating it shows; where an entry
stands in the list is not observable (iteration sorts by name). -/
structure Headers where
  entries : List (String × String)
  lower : ∀ e ∈ entries, lowerName e.1 = e.1
  distinct : entries.Pairwise fun a b => a.1 = b.1 → a.1 = "set-cookie"
  valid : ∀ e ∈ entries, IsValue e.2

namespace Headers

/-- `new Headers()`. -/
def empty : Headers :=
  { entries := []
    lower := fun _ h => nomatch h
    distinct := List.Pairwise.nil
    valid := fun _ h => nomatch h }

/-- `headers.get(name)`, of a name other than `set-cookie`. -/
def get (headers : Headers) (name : String) : Option String :=
  (headers.entries.find? fun e => e.1 = lowerName name).map (·.2)

/-- `headers.set(name, value)`, or `none` where it throws. The names
that are set are constants; none of them is refused. -/
def set (headers : Headers) (name value : String) : Option Headers :=
  let rest := headers.entries.filter fun e => e.1 ≠ lowerName name
  if h : IsValue (normalizeValue value) then
    some
      { entries := rest ++ [(lowerName name, normalizeValue value)]
        lower := by
          intro e he
          rcases List.mem_append.1 he with he | he
          · exact headers.lower e (List.mem_of_mem_filter he)
          · rw [List.mem_singleton.1 he]
            exact lowerName_lowerName name
        distinct := by
          apply List.pairwise_append.2
          refine ⟨headers.distinct.filter _, List.pairwise_singleton _ _, ?_⟩
          intro a ha b hb heq
          rw [List.mem_singleton.1 hb] at heq
          have hne := (List.mem_filter.1 ha).2
          exact absurd heq (of_decide_eq_true hne)
        valid := by
          intro e he
          rcases List.mem_append.1 he with he | he
          · exact headers.valid e (List.mem_of_mem_filter he)
          · rw [List.mem_singleton.1 he]
            exact h }
  else none

@[simp] theorem get_empty (name : String) : empty.get name = none :=
  rfl

@[simp] theorem get_lowerName (headers : Headers) (name : String) :
    headers.get (lowerName name) = headers.get name := by
  unfold get
  rw [lowerName_lowerName]

/-- A value that `get` finds is a header value. -/
theorem valid_of_get {headers : Headers} {name value : String}
    (h : headers.get name = some value) : IsValue value := by
  obtain ⟨e, he, rfl⟩ := Option.map_eq_some_iff.1 h
  exact headers.valid e (List.mem_of_find?_eq_some he)

/-- What is set is what is got. -/
theorem get_set {headers headers' : Headers} {name value other : String}
    (hset : headers.set name value = some headers')
    (hname : lowerName other = lowerName name) :
    headers'.get other = some (normalizeValue value) := by
  unfold set at hset
  dsimp only at hset
  split at hset
  · injection hset with hset
    rw [← hset]
    unfold get
    dsimp only
    rw [hname, List.find?_append]
    have hnone : (headers.entries.filter fun e =>
        e.1 ≠ lowerName name).find? (fun e => e.1 = lowerName name)
          = none := by
      apply List.find?_eq_none.2
      intro e he heq
      have hne := (List.mem_filter.1 he).2
      exact absurd (of_decide_eq_true heq) (of_decide_eq_true hne)
    rw [hnone, Option.none_or]
    simp
  · exact absurd hset (by simp)

/-- Other names keep their values. -/
theorem get_set_of_ne {headers headers' : Headers}
    {name value other : String}
    (hset : headers.set name value = some headers')
    (hname : lowerName other ≠ lowerName name) :
    headers'.get other = headers.get other := by
  unfold set at hset
  dsimp only at hset
  split at hset
  · injection hset with hset
    rw [← hset]
    unfold get
    dsimp only
    rw [List.find?_append, List.find?_filter]
    have hsame : (fun e : String × String => decide
        (decide (e.1 ≠ lowerName name) = true
          ∧ decide (e.1 = lowerName other) = true))
          = fun e => decide (e.1 = lowerName other) := by
      funext e
      by_cases he : e.1 = lowerName other
      · simp [he, hname]
      · simp [he]
    rw [hsame]
    have hlast : [(lowerName name, normalizeValue value)].find?
        (fun e => decide (e.1 = lowerName other)) = none := by
      simp [Ne.symm hname]
    rw [hlast, Option.or_none]
  · exact absurd hset (by simp)

/-- `set` throws exactly where the value is none. -/
theorem set_eq_none_iff (headers : Headers) (name value : String) :
    headers.set name value = none ↔ ¬ IsValue (normalizeValue value) := by
  unfold set
  dsimp only
  split
  · rename_i h
    simp [h]
  · rename_i h
    simp [h]

/-- Headers set in turn, or `none` where one of them throws. -/
def setAll (headers : Headers) (entries : List (String × String)) :
    Option Headers :=
  entries.foldlM (fun headers e => headers.set e.1 e.2) headers

/-- None throws exactly if all of them are values. -/
theorem exists_setAll_iff (entries : List (String × String)) :
    ∀ headers : Headers, (∃ headers', headers.setAll entries = some headers')
      ↔ ∀ e ∈ entries, IsValue (normalizeValue e.2) := by
  induction entries with
  | nil =>
    intro headers
    simp [setAll]
  | cons e entries ih =>
    intro headers
    rw [List.forall_mem_cons]
    unfold setAll at ih ⊢
    rw [List.foldlM_cons]
    cases hset : headers.set e.1 e.2 with
    | none =>
      have hnot := (set_eq_none_iff headers e.1 e.2).1 hset
      simp [hnot]
    | some headers' =>
      have hvalue : IsValue (normalizeValue e.2) := by
        apply Classical.not_not.1
        intro hnot
        rw [(set_eq_none_iff headers e.1 e.2).2 hnot] at hset
        exact absurd hset (by simp)
      rw [Option.bind_eq_bind, Option.bind_some]
      exact (ih headers').trans ⟨fun h => ⟨hvalue, h⟩, fun h => h.2⟩

/-- Other names keep their values. -/
theorem get_setAll_of_ne {other : String}
    (entries : List (String × String)) :
    ∀ {headers headers' : Headers},
      headers.setAll entries = some headers' →
      (∀ e ∈ entries, lowerName other ≠ lowerName e.1) →
      headers'.get other = headers.get other := by
  induction entries with
  | nil =>
    intro headers headers' h _
    injection h with h
    rw [h]
  | cons e entries ih =>
    intro headers headers' h hother
    unfold setAll at h
    rw [List.foldlM_cons] at h
    obtain ⟨middle, hset, hrest⟩ := Option.bind_eq_some_iff.1 h
    rw [ih hrest fun e' he' => hother e' (List.mem_cons_of_mem _ he')]
    exact get_set_of_ne hset (hother e List.mem_cons_self)

/-- Each of them is got, where no two have one name. -/
theorem get_setAll {e : String × String}
    (entries : List (String × String)) :
    ∀ {headers headers' : Headers},
      headers.setAll entries = some headers' →
      (entries.Pairwise fun a b => lowerName a.1 ≠ lowerName b.1) →
      e ∈ entries → headers'.get e.1 = some (normalizeValue e.2) := by
  induction entries with
  | nil =>
    intro headers headers' _ _ he
    exact absurd he List.not_mem_nil
  | cons d entries ih =>
    intro headers headers' h hnames he
    rw [List.pairwise_cons] at hnames
    unfold setAll at h
    rw [List.foldlM_cons] at h
    obtain ⟨middle, hset, hrest⟩ := Option.bind_eq_some_iff.1 h
    rcases List.mem_cons.1 he with rfl | he
    · rw [get_setAll_of_ne entries hrest hnames.1]
      exact get_set hset rfl
    · exact ih hrest hnames.2 he

/-- All entries under one name, `set-cookie` apart, are the one that
`get` reads. -/
theorem filter_entries {headers : Headers} {name : String}
    (hname : lowerName name = name) (hcookie : name ≠ "set-cookie") :
    (headers.entries.filter fun e => e.1 = name)
      = ((headers.get name).map fun value => (name, value)).toList := by
  unfold get
  rw [hname]
  have hdistinct := headers.distinct
  generalize headers.entries = entries at hdistinct ⊢
  induction entries with
  | nil => rfl
  | cons e entries ih =>
    rw [List.pairwise_cons] at hdistinct
    by_cases he : e.1 = name
    · rw [List.filter_cons_of_pos (by simpa using he)]
      rw [List.find?_cons_of_pos (by simpa using he)]
      have hrest : (entries.filter fun e => e.1 = name) = [] := by
        apply List.filter_eq_nil_iff.2
        intro e' he' heq
        have hsame : e.1 = e'.1 := by rw [he, of_decide_eq_true heq]
        exact hcookie (he ▸ hdistinct.1 e' he' hsame)
      rw [hrest, ← he]
      rfl
    · rw [List.filter_cons_of_neg (by simpa using he)]
      rw [List.find?_cons_of_neg (by simpa using he)]
      exact ih hdistinct.2

end Headers

-- ============================================================= records

/-- A plain object of headers: its own properties, in their order. -/
abbrev Record := List (String × String)

namespace Record

/-- `record[k] = v`, of a string `v`: a property that is there keeps its
place. The setter of `__proto__` ignores strings. -/
def assign (record : Record) (k v : String) : Record :=
  if k = "__proto__" then record
  else if record.any (·.1 = k) then
    record.map fun e => if e.1 = k then (k, v) else e
  else record ++ [(k, v)]

/-- Assign every entry, in order. -/
def assignAll (record : Record) (entries : List (String × String)) :
    Record :=
  entries.foldl (fun record e => record.assign e.1 e.2) record

/-- The values that a record holds for a header, names compared in lower
case. -/
def values (record : Record) (name : String) : List String :=
  (record.filter fun e => lowerName e.1 = lowerName name).map (·.2)

/-- A new property comes last. -/
theorem assign_new {record : Record} {k : String} (v : String)
    (hproto : k ≠ "__proto__") (hnew : ∀ e ∈ record, e.1 ≠ k) :
    record.assign k v = record ++ [(k, v)] := by
  unfold assign
  rw [if_neg hproto, if_neg]
  intro hany
  obtain ⟨e, he, hk⟩ := List.any_eq_true.1 hany
  exact hnew e he (of_decide_eq_true hk)

/-- What an assignment does to the properties that pass a test of their
names. -/
theorem filter_assign (record : Record) (k v : String)
    (p : String → Bool) :
    (record.assign k v).filter (fun e => p e.1)
      = if p k then assign (record.filter fun e => p e.1) k v
        else record.filter fun e => p e.1 := by
  unfold assign
  by_cases hproto : k = "__proto__"
  · simp [hproto]
  rw [if_neg hproto, if_neg hproto]
  by_cases hp : p k = true
  · have hany : (record.filter fun e => p e.1).any (·.1 = k)
        = record.any (·.1 = k) := by
      rw [List.any_filter]
      congr 1
      funext e
      by_cases he : e.1 = k
      · simp [he, hp]
      · simp [he]
    rw [if_pos hp, hany]
    split
    · rw [List.filter_map]
      congr 1
      apply List.filter_congr
      intro e _
      by_cases he : e.1 = k
      · simp [he]
      · simp [he]
    · rw [List.filter_append]
      simp [hp]
  · rw [if_neg hp]
    split
    · -- the property that changes does not pass before or after
      rw [List.filter_map]
      have hsame : (record.filter
          ((fun e => p e.1) ∘ fun e => if e.1 = k then (k, v) else e))
            = record.filter fun e => p e.1 := by
        apply List.filter_congr
        intro e _
        by_cases he : e.1 = k
        · simp [he]
        · simp [he]
      rw [hsame]
      have hid : ∀ e ∈ record.filter fun e => p e.1,
          (if e.1 = k then (k, v) else e) = e := by
        intro e he
        rw [if_neg]
        intro heq
        exact hp (heq ▸ (List.mem_filter.1 he).2)
      exact (List.map_congr_left hid).trans (List.map_id _)
    · rw [List.filter_append]
      simp [hp]

/-- The properties that pass a test of their names, after assignments. -/
theorem filter_assignAll (record : Record)
    (entries : List (String × String)) (p : String → Bool) :
    (record.assignAll entries).filter (fun e => p e.1)
      = assignAll (record.filter fun e => p e.1)
          (entries.filter fun e => p e.1) := by
  induction entries generalizing record with
  | nil => rfl
  | cons e entries ih =>
    show ((record.assign e.1 e.2).assignAll entries).filter _ = _
    rw [ih, filter_assign]
    by_cases he : p e.1 = true
    · rw [if_pos he, List.filter_cons, if_pos he]
      rfl
    · rw [if_neg he, List.filter_cons, if_neg he]

/-- What a record holds for a header after the entries of a `Headers`
were assigned to it: its own values if the header is not among them. Else
an own property that is spelled in lower case gets the new value, and
beside any other spelling the new value is added. -/
theorem values_assignAll_one (record : Record) (name value : String)
    (own : Option (String × String))
    (hproto : name ≠ "__proto__") (hlower : lowerName name = name)
    (entries : List (String × String))
    (hown : (record.filter fun e => lowerName e.1 = name) = own.toList)
    (hentries : (entries.filter fun e => lowerName e.1 = name)
      = [(name, value)]) :
    (record.assignAll entries).values name
      = own.elim [value] fun e =>
          if e.1 = name then [value] else [e.2, value] := by
  have hfilter := filter_assignAll record entries
    fun k => decide (lowerName k = name)
  unfold values
  rw [hlower, hfilter, hown, hentries]
  show (assign own.toList name value).map _ = _
  unfold assign
  rw [if_neg hproto]
  cases own with
  | none => rfl
  | some e =>
    by_cases he : e.1 = name
    · simp [he]
    · simp [he]

/-- A header that is not among the entries keeps its values. -/
theorem values_assignAll_none (record : Record) (name : String)
    (entries : List (String × String))
    (hentries : (entries.filter fun e => lowerName e.1 = lowerName name)
      = []) :
    (record.assignAll entries).values name = record.values name := by
  have hfilter := filter_assignAll record entries
    fun k => decide (lowerName k = lowerName name)
  unfold values
  rw [hfilter, hentries]
  rfl

end Record

end Http
