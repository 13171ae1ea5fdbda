/-
An assignment to the state is clean if and only if the check accepts the
value (`assignment_clean_iff`), in every state that accepted assignments
lead to.

# The argument

- A state that the check accepts is accepted with an accepted value
  anywhere in it (`serializable_setAt`), and it has no other in it
  (`serializable_of_setAt`).
- The callback looks at the new value when it is in the state already. So
  what it rejects stays there.
-/
import RivetKit.Actor.StateProxy

namespace RivetKit.Actor

open Common
open Transition

variable {keyText : StateValue → String}

-- =============================================================== one member

/-- What is set is among the elements, and all others were there or are
holes. -/
theorem mem_setItem {items : List StateValue} {i : Nat}
    {value item : StateValue} (h : item ∈ setItem items i value) :
    item = value ∨ item = .undefined ∨ item ∈ items := by
  unfold setItem at h
  split at h
  · rcases List.mem_or_eq_of_mem_set h with hitem | hitem
    · exact Or.inr (Or.inr hitem)
    · exact Or.inl hitem
  · rcases List.mem_append.1 h with h | h
    · rcases List.mem_append.1 h with h | h
      · exact Or.inr (Or.inr h)
      · exact Or.inr (Or.inl (List.eq_of_mem_replicate h))
    · exact Or.inl (List.mem_singleton.1 h)

theorem value_mem_setItem (items : List StateValue) (i : Nat)
    (value : StateValue) : value ∈ setItem items i value := by
  unfold setItem
  split
  · rename_i hi
    exact List.mem_set hi value
  · exact List.mem_append_right _ (List.mem_singleton.2 rfl)

theorem mem_upsertMember {members : List (String × StateValue)}
    {name : String} {value : StateValue} {m : String × StateValue}
    (h : m ∈ upsertMember members name value) :
    m.2 = value ∨ m ∈ members := by
  unfold upsertMember at h
  split at h
  · obtain ⟨old, hold, hm⟩ := List.mem_map.1 h
    split at hm
    · rw [← hm]
      exact Or.inl rfl
    · rw [← hm]
      exact Or.inr hold
  · rcases List.mem_append.1 h with h | h
    · exact Or.inr h
    · rw [List.mem_singleton.1 h]
      exact Or.inl rfl

theorem value_mem_upsertMember (members : List (String × StateValue))
    (name : String) (value : StateValue) :
    ∃ m ∈ upsertMember members name value, m.2 = value := by
  unfold upsertMember
  split
  · rename_i hany
    obtain ⟨m, hm, hname⟩ := List.any_eq_true.1 hany
    refine ⟨(m.1, value), List.mem_map.2 ⟨m, hm, ?_⟩, rfl⟩
    rw [if_pos (of_decide_eq_true hname)]
  · exact ⟨(name, value),
      List.mem_append_right _ (List.mem_singleton.2 rfl), rfl⟩

/-- A part of an accepted value is accepted. -/
theorem serializable_getMember {value child : StateValue} {key : PathKey}
    (h : Serializable keyText value)
    (hchild : getMember value key = some child) :
    Serializable keyText child := by
  unfold getMember at hchild
  split at hchild
  · exact serializable_array.1 h child (List.mem_of_getElem? hchild)
  · obtain ⟨m, hm, hchild⟩ := Option.map_eq_some_iff.1 hchild
    rw [← hchild]
    exact serializable_object.1 h m (List.mem_of_find?_eq_some hm)
  · cases hchild

/-- An accepted value with an accepted part set is accepted. -/
theorem serializable_setMember {target value target' : StateValue}
    {key : PathKey} (h : Serializable keyText target)
    (hvalue : Serializable keyText value)
    (hset : setMember target key value = some target') :
    Serializable keyText target' := by
  unfold setMember at hset
  split at hset
  · injection hset with hset
    rw [← hset]
    refine serializable_array.2 ?_
    intro item hitem
    rcases mem_setItem hitem with heq | heq | hmem
    · rw [heq]
      exact hvalue
    · rw [heq]
      exact fun _ => rfl
    · exact serializable_array.1 h item hmem
  · injection hset with hset
    rw [← hset]
    refine serializable_object.2 ?_
    intro m hm
    rcases mem_upsertMember hm with heq | hmem
    · rw [heq]
      exact hvalue
    · exact serializable_object.1 h m hmem
  · cases hset

/-- Only an accepted part can have been set in what is accepted. -/
theorem serializable_of_setMember {target value target' : StateValue}
    {key : PathKey} (h : Serializable keyText target')
    (hset : setMember target key value = some target') :
    Serializable keyText value := by
  unfold setMember at hset
  split at hset
  · injection hset with hset
    rw [← hset] at h
    exact serializable_array.1 h value (value_mem_setItem _ _ value)
  · injection hset with hset
    rw [← hset] at h
    obtain ⟨m, hm, hvalue⟩ := value_mem_upsertMember _ _ value
    rw [← hvalue]
    exact serializable_object.1 h m hm
  · cases hset

-- ================================================================== a path

theorem setAt_cons_cons (state : StateValue) (key key' : PathKey)
    (path : List PathKey) (value : StateValue) :
    setAt state (key :: key' :: path) value
      = (getMember state key).bind fun child =>
        (setAt child (key' :: path) value).bind fun child =>
          setMember state key child := rfl

/-- So it is at any path: the state with the value in it is accepted, -/
theorem serializable_setAt {value : StateValue}
    (hvalue : Serializable keyText value) (path : List PathKey) :
    ∀ {state state' : StateValue}, Serializable keyText state →
      setAt state path value = some state' → Serializable keyText state' := by
  induction path with
  | nil =>
      intro state state' _ hset
      injection hset with hset
      rw [← hset]
      exact hvalue
  | cons key path ih =>
      intro state state' h hset
      cases path with
      | nil => exact serializable_setMember h hvalue hset
      | cons key' path =>
          rw [setAt_cons_cons] at hset
          obtain ⟨child, hchild, hset⟩ := Option.bind_eq_some_iff.1 hset
          obtain ⟨child', hchild', hset⟩ := Option.bind_eq_some_iff.1 hset
          have hold := serializable_getMember h hchild
          exact serializable_setMember h (ih hold hchild') hset

/-- and only if the value is. -/
theorem serializable_of_setAt {value : StateValue} (path : List PathKey) :
    ∀ {state state' : StateValue}, Serializable keyText state' →
      setAt state path value = some state' → Serializable keyText value := by
  induction path with
  | nil =>
      intro state state' h hset
      injection hset with hset
      rw [hset]
      exact h
  | cons key path ih =>
      intro state state' h hset
      cases path with
      | nil => exact serializable_of_setMember h hset
      | cons key' path =>
          rw [setAt_cons_cons] at hset
          obtain ⟨child, hchild, hset⟩ := Option.bind_eq_some_iff.1 hset
          obtain ⟨child', hchild', hset⟩ := Option.bind_eq_some_iff.1 hset
          exact ih (serializable_of_setMember h hset) hchild'

/-- What is at a path of an accepted state is accepted. -/
theorem serializable_getAt (path : List PathKey) :
    ∀ {state value : StateValue}, Serializable keyText state →
      getAt state path = some value → Serializable keyText value := by
  induction path with
  | nil =>
      intro state value h hget
      injection hget with hget
      rw [← hget]
      exact h
  | cons key path ih =>
      intro state value h hget
      obtain ⟨child, hchild, hget⟩ := Option.bind_eq_some_iff.1 hget
      exact ih (serializable_getMember h hchild) hget

theorem eq_of_sameValue {a b : StateValue} (h : sameValue a b = true) :
    a = b := by
  unfold sameValue at h
  split at h
  · rfl
  · rfl
  · rw [eq_of_beq h]
  · rw [of_decide_eq_true h]
  · rw [eq_of_beq h]
  · rw [eq_of_beq h]
  · cases h

-- ============================================================ the callback

/-- No path under the state is passed over. -/
theorem isStatePath_onChangePath (path : List PathKey) :
    isStatePath (onChangePath path) = true := by
  have hfold : ∀ (path : List PathKey) (text : String),
      "state.".toList <+: text.toList →
        "state.".toList <+: (path.foldl
          (fun text key => text ++ "." ++ key.text) text).toList := by
    intro path
    induction path with
    | nil => exact fun _ h => h
    | cons key path ih =>
        intro text h
        refine ih _ ?_
        rw [String.toList_append, String.toList_append]
        exact (h.trans (List.prefix_append _ _)).trans
          (List.prefix_append _ _)
  unfold isStatePath onChangePath
  cases path with
  | nil => rfl
  | cons key path =>
      rw [Bool.or_eq_true]
      refine Or.inr (List.isPrefixOf_iff_prefix.2 (hfold path _ ?_))
      rw [String.toList_append]
      exact List.prefix_append _ _

/-- An assignment: it changes nothing, or the value is in the state, and
rejected if and only if the check rejects it. -/
theorem assign_cases {s : StateProxy} {path : List PathKey}
    {value : StateValue} {result : AssignOutcome × StateProxy}
    (h : s.assign keyText path value = some result) :
    getAt s.state path = some value ∧ result = (.returned, s)
      ∨ ∃ state, setAt s.state path value = some state
        ∧ if isCborSerializable keyText value then
            result = (.returned, { state := state, persistChanged := true })
          else ∃ invalidPath, result
            = (.invalidStateType invalidPath, { s with state := state }) := by
  unfold StateProxy.assign at h
  split at h
  case isTrue hsame =>
    injection h with h
    cases hget : getAt s.state path with
    | none =>
        rw [hget] at hsame
        cases hsame
    | some old =>
        rw [hget] at hsame
        rw [eq_of_sameValue hsame]
        exact Or.inl ⟨rfl, h.symm⟩
  case isFalse =>
    obtain ⟨state, hset, hresult⟩ := Option.map_eq_some_iff.1 h
    refine Or.inr ⟨state, hset, ?_⟩
    unfold StateProxy.onChange at hresult
    rw [if_pos (isStatePath_onChangePath path)] at hresult
    unfold isCborSerializable
    cases hinvalid : findInvalid keyText value "" with
    | none =>
        rw [hinvalid] at hresult
        exact hresult.symm
    | some invalidPath =>
        rw [hinvalid] at hresult
        exact ⟨_, hresult.symm⟩

-- ================================================================= the runs

theorem savePersist_state (encode : StateValue → Option Bytes)
    (writes : Bytes → Bool) (s : StateProxy) :
    (s.savePersist encode writes).2.state = s.state := by
  unfold StateProxy.savePersist
  dsimp only
  split
  · cases encode s.state with
    | none => rfl
    | some data => rfl
  · rfl

/-- Accepted assignments keep the state accepted. -/
theorem serializable_reached {encode : StateValue → Option Bytes}
    {initial : StateValue}
    (hinitial : isCborSerializable keyText initial = true) {s : StateProxy}
    (h : (stateProxySystem keyText encode initial).Reaches
      (assignsSerializable keyText) s) :
    Serializable keyText s.state := by
  refine h.invariant (P := fun s => Serializable keyText s.state) ?_ ?_
  · intro s hs
    have hs : s = { state := initial } := hs
    rw [hs]
    exact isCborSerializable_iff.1 hinitial
  · intro s op s' _ hserializable hok hstep
    cases op with
    | assign path value =>
        obtain ⟨result, hassign, hs⟩ := Option.map_eq_some_iff.1 hstep
        rw [← hs]
        rcases assign_cases hassign with ⟨-, hresult⟩ | ⟨state, hset, hresult⟩
        · rw [hresult]
          exact hserializable
        · have hok : isCborSerializable keyText value = true := hok
          rw [if_pos hok] at hresult
          rw [hresult]
          exact serializable_setAt (isCborSerializable_iff.1 hok) path
            hserializable hset
    | save writes =>
        injection hstep with hs
        rw [← hs, savePersist_state]
        exact hserializable

/-- Where all assigned so far was accepted, the next assignment is clean
if and only if its value is accepted too. -/
theorem assignment_clean_iff {encode : StateValue → Option Bytes}
    {initial : StateValue}
    (hinitial : isCborSerializable keyText initial = true) {s : StateProxy}
    (h : (stateProxySystem keyText encode initial).Reaches
      (assignsSerializable keyText) s)
    {path : List PathKey} {value : StateValue}
    {result : AssignOutcome × StateProxy}
    (hassign : s.assign keyText path value = some result) :
    CleanAssignment keyText s result
      ↔ isCborSerializable keyText value = true := by
  have hstate := serializable_reached hinitial h
  rcases assign_cases hassign with ⟨hsame, hresult⟩ | ⟨state, hset, hresult⟩
  · have hvalue := serializable_getAt path hstate hsame
    rw [hresult]
    exact iff_of_true (isCborSerializable_iff.2 hstate)
      (isCborSerializable_iff.2 hvalue)
  · by_cases hvalue : isCborSerializable keyText value = true
    · rw [if_pos hvalue] at hresult
      rw [hresult]
      refine iff_of_true ?_ hvalue
      exact isCborSerializable_iff.2
        (serializable_setAt (isCborSerializable_iff.1 hvalue) path hstate hset)
    · rw [if_neg hvalue] at hresult
      obtain ⟨invalidPath, hresult⟩ := hresult
      rw [hresult]
      refine iff_of_false ?_ hvalue
      intro hclean
      -- the state would have the rejected value in it
      have heq : state = s.state := congrArg StateProxy.state hclean
      rw [heq] at hset
      exact hvalue
        (isCborSerializable_iff.2 (serializable_of_setAt path hstate hset))

/-- The text of no key. -/
def sampleKeyText (_ : StateValue) : String := ""

/-- A state with one member. -/
def sampleProxy (value : StateValue) (persistChanged : Bool) : StateProxy :=
  { state := .object [("n", value)], persistChanged := persistChanged }

/-- A `Map` is assigned in the place of a number. -/
theorem map_clean :
    CleanAssignment sampleKeyText (sampleProxy (.num (.finite 2)) true)
      (.returned, sampleProxy (.map [(.str [0x61], .bigint 1)]) true) := by
  have hreached : (stateProxySystem sampleKeyText (fun _ => none)
      (sampleProxy (.num (.finite 1)) false).state).Reaches
        (assignsSerializable sampleKeyText)
        (sampleProxy (.num (.finite 2)) true) :=
    .step (.assign [.name "n"] (.num (.finite 2))) (.init rfl) rfl rfl
  exact (@assignment_clean_iff sampleKeyText (fun _ => none) _ rfl _ hreached
    [.name "n"] (.map [(.str [0x61], .bigint 1)]) _ rfl).2 rfl

/-- A function that is rejected stays in the state. -/
theorem rejected_function_stays :
    ¬ ∀ s, (stateProxySystem sampleKeyText (fun _ => none)
        (sampleProxy .null false).state).Reachable s →
      ∀ path value result, s.assign sampleKeyText path value = some result →
        CleanAssignment sampleKeyText s result := by
  intro h
  have hclean : sampleProxy .function false = sampleProxy .null false :=
    h _ (.init rfl) [.name "n"] .function
      (.invalidStateType "state.n", sampleProxy .function false) rfl
  injection hclean with hstate
  injection hstate with hmembers
  injection hmembers with hmember
  injection hmember with _ hvalue
  cases hvalue

end RivetKit.Actor
