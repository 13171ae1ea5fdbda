/-
A dispatch calls every listener that it is to call once, and leaves every
registered one where the next dispatch finds it, in every run in which no
listener throws in front of others and no dispatch ends with another set
in the map than the one it has emptied (`dispatched_of_safe`).

# The invariant

The registry is that of the agreement with the server, `RegistryInv`, here
with any set to spare: a set may be empty in the map. `CallsInv` adds the
calls: the listeners called and those behind the one that is being called
are the snapshot, and what is not registered any more among those behind
is `early`.

# Steps on the listeners

`Touches` says what a step leaves of the listeners: all keep their `once`
and stay removed once they are, and all but one are as they were.
-/
import RivetKit.Client.Dispatches
import RivetKit.Client.Proofs.Subscriptions

namespace RivetKit.Client

open Transition
open Actor.LiveInstance

namespace EventConn

variable {s s' : EventConn}

-- =========================================================== the listeners

/-- Only the listener `i` changes, and it is not registered anew. -/
def Touches (i : Option Nat) (s s' : EventConn) : Prop :=
  ∀ j l, s.listeners[j]? = some l →
    ∃ l', s'.listeners[j]? = some l' ∧ l'.once = l.once
      ∧ (l.removed = true → l'.removed = true) ∧ (i ≠ some j → l' = l)

theorem touches_of_eq {i : Option Nat} (h : s'.listeners = s.listeners) :
    Touches i s s' := by
  intro j l hl
  exact ⟨l, by rw [h]; exact hl, rfl, id, fun _ => rfl⟩

theorem touches_add (s : EventConn) (eventName : String) (once : Bool) :
    Touches none s (s.addEventSubscription eventName once) := by
  intro j l hl
  refine ⟨l, ?_, rfl, id, fun _ => rfl⟩
  unfold addEventSubscription
  cases s.eventSubscriptions.lookup eventName with
  | some set => exact Lists.getElem?_concat_of_some hl
  | none =>
      dsimp only
      rw [sendSubscription_eq]
      exact Lists.getElem?_concat_of_some hl

/-- A listener that is done with. -/
theorem touches_of_done {i : Nat} {l l' : Listener}
    (hl : s.listeners[i]? = some l) (hself : s'.listeners[i]? = some l')
    (hother : ∀ j, j ≠ i → s'.listeners[j]? = s.listeners[j]?)
    (honce : l'.once = l.once) (hremoved : l'.removed = true) :
    Touches (some i) s s' := by
  intro j k hk
  by_cases hj : j = i
  · subst hj
    obtain rfl := Option.some.inj (hl.symm.trans hk)
    exact ⟨l', hself, honce, fun _ => hremoved, fun h => absurd rfl h⟩
  · exact ⟨k, (hother j hj).trans hk, rfl, id, fun _ => rfl⟩

/-- The function that unsubscribes. -/
theorem touches_unsubscribe {i : Nat} (hstep : s.unsubscribe i = some s') :
    Touches (some i) s s' := by
  obtain ⟨l, hl, ⟨hlookup, rfl⟩ | ⟨set, hlookup, hcases⟩⟩ :=
    unsubscribe_cases hstep
  · obtain ⟨hself, hother⟩ := s.retire_listeners hl
    exact touches_of_done hl hself hother rfl rfl
  · obtain ⟨hself, hother⟩ := s.drop_listeners hl set
    have hdone : Touches (some i) s ((s.retire i).delete i set) :=
      touches_of_done hl hself hother rfl rfl
    rcases hcases with ⟨_, rfl⟩ | ⟨_, rfl⟩
    · unfold forgetEvent
      rw [sendSubscription_eq]
      exact hdone
    · exact hdone

/-- The listener that returns, removed if it was a one-time listener. -/
theorem touches_afterCall {i : Nat} {l : Listener}
    (hl : s.listeners[i]? = some l) (set : Nat) :
    Touches (some i) s (s.afterCall i l set)
      ∧ ∃ l', (s.afterCall i l set).listeners[i]? = some l'
        ∧ (l'.once = true → l'.removed = true) := by
  unfold afterCall
  by_cases honce : l.once = true
  · rw [if_pos honce]
    obtain ⟨hself, hother⟩ := s.drop_listeners hl set
    exact ⟨touches_of_done hl hself hother rfl rfl, _, hself, fun _ => rfl⟩
  · rw [if_neg honce]
    exact ⟨touches_of_eq rfl, l, hl, fun h => absurd h honce⟩

-- ============================================================ the registry

/-- A listener is registered exactly if the next dispatch finds it. -/
theorem found_iff {spare : Nat → Prop} (h : s.RegistryInv spare) {i : Nat}
    {l : Listener} (hl : s.listeners[i]? = some l) :
    s.Found i ↔ l.removed = false := by
  rw [h.registered i l hl]
  constructor
  · intro hfound
    obtain ⟨l', set, hl', hlookup, hmem⟩ := hfound
    obtain rfl := Option.some.inj (hl.symm.trans hl')
    obtain ⟨l', hl', hset, hpresent⟩ := mem_snapshot.1 hmem
    obtain rfl := Option.some.inj (hl.symm.trans hl')
    exact ⟨hpresent, by rw [hset]; exact hlookup⟩
  · intro hgiven
    exact ⟨l, l.set, hl, hgiven.2, mem_snapshot.2 ⟨l, hl, rfl, hgiven.1⟩⟩

theorem mem_registeredFor {name : String} {i : Nat} :
    i ∈ s.registeredFor name ↔ ∃ l, s.listeners[i]? = some l
      ∧ l.eventName = name ∧ l.removed = false := by
  unfold registeredFor
  rw [List.mem_filter, List.mem_range, Option.any_eq_true]
  constructor
  · intro hgiven
    obtain ⟨-, l, hl, hboth⟩ := hgiven
    exact ⟨l, hl, by simpa using hboth⟩
  · intro hgiven
    obtain ⟨l, hl, hname, hremoved⟩ := hgiven
    refine ⟨(List.getElem?_eq_some_iff.1 hl).1, l, hl, ?_⟩
    simp [hname, hremoved]

/-- The registered listeners of an event are in its set. -/
theorem registeredFor_subset {spare : Nat → Prop} (h : s.RegistryInv spare)
    {name : String} {set : Nat}
    (hlookup : s.eventSubscriptions.lookup name = some set) :
    ∀ i ∈ s.registeredFor name, i ∈ s.snapshot set := by
  intro i hi
  obtain ⟨l, hl, hname, hremoved⟩ := mem_registeredFor.1 hi
  obtain ⟨hpresent, hset⟩ := (h.registered i l hl).1 hremoved
  rw [hname, hlookup] at hset
  exact mem_snapshot.2 ⟨l, hl, (Option.some.inj hset).symm, hpresent⟩

theorem registeredFor_none {spare : Nat → Prop} (h : s.RegistryInv spare)
    {name : String} (hlookup : s.eventSubscriptions.lookup name = none) :
    s.registeredFor name = [] := by
  apply List.eq_nil_iff_forall_not_mem.2
  intro i hi
  obtain ⟨l, hl, hname, hremoved⟩ := mem_registeredFor.1 hi
  have hset := ((h.registered i l hl).1 hremoved).2
  rw [hname, hlookup] at hset
  cases hset

theorem nodup_snapshot (s : EventConn) (set : Nat) :
    (s.snapshot set).Nodup :=
  List.nodup_range.filter _

/-- Any set of the map may be empty. -/
abbrev Registered (s : EventConn) : Prop := s.RegistryInv fun _ => True

/-- The end of a dispatch. -/
theorem registered_endDispatch {frame : DispatchFrame} (h : s.Registered)
    (hnames : ∀ name, s.eventSubscriptions.lookup name = some frame.set →
      name = frame.name)
    (hsafe : s.isEmpty frame.set = true →
      s.eventSubscriptions.lookup frame.name = none
        ∨ s.eventSubscriptions.lookup frame.name = some frame.set) :
    (s.endDispatch frame).Registered := by
  unfold endDispatch
  by_cases hempty : s.isEmpty frame.set = true
  · rw [if_pos hempty]
    have hspare : s.RegistryInv fun set => True ∨ set = frame.set :=
      h.mono fun _ _ _ _ _ => .inl trivial
    exact hspare.forget hempty (hsafe hempty) hnames rfl rfl rfl
  · rw [if_neg hempty]
    exact h.congr rfl rfl rfl

/-- A dispatch goes on or ends. -/
theorem registered_callNext {frame : DispatchFrame} (h : s.Registered)
    (hnames : ∀ name, s.eventSubscriptions.lookup name = some frame.set →
      name = frame.name)
    (hsafe : frame.listeners = [] → s.isEmpty frame.set = true →
      s.eventSubscriptions.lookup frame.name = none
        ∨ s.eventSubscriptions.lookup frame.name = some frame.set) :
    (s.callNext frame).Registered := by
  unfold callNext
  split
  · next hnil => exact registered_endDispatch h hnames (hsafe hnil)
  · exact h.congr rfl rfl rfl

theorem frameInv_callNext {frame : DispatchFrame}
    (hnames : ∀ name, s.eventSubscriptions.lookup name = some frame.set →
      name = frame.name)
    (hlt : frame.set < s.sets)
    (hcalled : ∀ i ∈ frame.listeners, ∃ l, s.listeners[i]? = some l
      ∧ l.set = frame.set ∧ l.eventName = frame.name) :
    (s.callNext frame).FrameInv := by
  unfold callNext
  split
  · intro f hf
    cases hf
  · next hsome =>
    intro f hf
    obtain rfl := Option.some.inj hf
    exact ⟨hsome, hnames, hlt, hcalled⟩

/-- The calls that `callNext` makes. -/
theorem callNext_eq (s : EventConn) (frame : DispatchFrame) :
    (s.callNext frame).listeners = s.listeners
      ∧ (s.callNext frame).dispatching
        = (if frame.listeners = [] then none else some frame)
      ∧ (s.callNext frame).calling = frame.listeners.head?.toList := by
  unfold callNext
  split
  · next hnil =>
    rw [hnil]
    exact ⟨rfl, rfl, rfl⟩
  · exact ⟨rfl, rfl, rfl⟩

end EventConn

open EventConn

namespace DispatchRun

-- ============================================================ the invariant

/-- The listeners called, with the one that is being called, and those
behind it. -/
structure CallsInv (s : DispatchRun) : Prop where
  registry : s.Registered
  frame : s.FrameInv
  calling : ∀ f, s.dispatching = some f →
    (∀ i, f.listeners.head? = some i → i ∈ s.called)
      ∧ (s.called ++ f.listeners.tail).Nodup
      ∧ (∀ i ∈ s.due, i ∈ s.called ++ f.listeners.tail)
      ∧ ∀ j ∈ f.listeners.tail, ∀ k, s.listeners[j]? = some k →
        k.removed = true → j ∈ s.early
  ended : s.dispatching = none →
    s.called.Nodup ∧ ∀ i ∈ s.due, i ∉ s.early → i ∈ s.called
  once : ∀ i ∈ s.called,
    (∀ f, s.dispatching = some f → f.listeners.head? ≠ some i) →
    ∃ l, s.listeners[i]? = some l ∧ (l.once = true → l.removed = true)

theorem callsInv_empty : CallsInv {} where
  registry := by constructor <;> intros <;> simp_all
  frame := fun _ hf => by cases hf
  calling := fun _ hf => by cases hf
  ended := fun _ => ⟨List.nodup_nil, by simp⟩
  once := by simp

/-- The result. -/
theorem CallsInv.dispatched {s : DispatchRun} (h : s.CallsInv) :
    s.Dispatched where
  called := by
    intro hidle i hi hearly
    obtain ⟨hnodup, hall⟩ := h.ended hidle
    exact List.count_eq_one_of_mem hnodup (hall i hi hearly)
  once := by
    intro hidle i hi l hl honce hfound
    obtain ⟨l', hl', hremoved⟩ := h.once i hi fun f hf => by
      rw [hidle] at hf
      cases hf
    obtain rfl := Option.some.inj (hl.symm.trans hl')
    have hgone := (found_iff h.registry hl).1 hfound
    rw [hremoved honce] at hgone
    cases hgone
  registered := fun i l hl => (found_iff h.registry hl).2

/-- A step that leaves the dispatch alone and touches one listener at most,
which is not behind the one that is being called. -/
theorem CallsInv.touched {s t : DispatchRun} (h : s.CallsInv)
    {i : Option Nat} (hregistry : t.Registered) (hframe : t.FrameInv)
    (htouches : Touches i s.toEventConn t.toEventConn)
    (hdispatching : t.dispatching = s.dispatching)
    (hcalled : t.called = s.called) (hdue : t.due = s.due)
    (hearly : ∀ j ∈ s.early, j ∈ t.early)
    (hended : s.dispatching = none → t.early = s.early)
    (hbehind : ∀ f j, s.dispatching = some f → j ∈ f.listeners.tail →
      i = some j → j ∈ t.early) : t.CallsInv where
  registry := hregistry
  frame := hframe
  calling := by
    intro f hf
    rw [hdispatching] at hf
    obtain ⟨hhead, hnodup, hall, hgone⟩ := h.calling f hf
    rw [hcalled, hdue]
    refine ⟨hhead, hnodup, hall, ?_⟩
    intro j hj k hk hremoved
    by_cases hi : i = some j
    · exact hbehind f j hf hj hi
    · obtain ⟨-, -, -, hlisteners⟩ := h.frame f hf
      obtain ⟨l, hl, -⟩ := hlisteners j (List.mem_of_mem_tail hj)
      obtain ⟨l', hl', -, -, hsame⟩ := htouches j l hl
      obtain rfl := Option.some.inj (hk.symm.trans hl')
      rw [hsame hi] at hremoved
      exact hearly j (hgone j hj l hl hremoved)
  ended := by
    intro hidle
    rw [hdispatching] at hidle
    obtain ⟨hnodup, hall⟩ := h.ended hidle
    rw [hcalled, hdue, hended hidle]
    exact ⟨hnodup, hall⟩
  once := by
    intro j hj hhead
    rw [hdispatching] at hhead
    rw [hcalled] at hj
    obtain ⟨l, hl, hremoved⟩ := h.once j hj hhead
    obtain ⟨l', hl', honce, hkept, -⟩ := htouches j l hl
    exact ⟨l', hl', fun h' => hkept (hremoved (honce ▸ h'))⟩

-- ================================================================ the steps

/-- An event is received. -/
theorem CallsInv.dispatchEvent {s : DispatchRun} {conn : EventConn}
    {name : String} (h : s.CallsInv)
    (hs : s.toEventConn.dispatchEvent name = some conn) :
    (s.record conn (.dispatchEvent name)).CallsInv := by
  unfold EventConn.dispatchEvent at hs
  split at hs
  case isFalse => cases hs
  case isTrue hidle =>
    cases hlookup : s.eventSubscriptions.lookup name with
    | none =>
        rw [hlookup] at hs
        obtain rfl := Option.some.inj hs
        have hcalling : s.toEventConn.calling = [] := by
          unfold EventConn.calling
          rw [hidle]
        refine ⟨h.registry, h.frame, ?_, ?_, ?_⟩
        · intro f hf
          have hf : s.dispatching = some f := hf
          rw [hidle] at hf
          cases hf
        · intro _
          simp [record, hcalling, registeredFor_none h.registry hlookup]
        · intro i hi
          have hi : i ∈ s.toEventConn.calling := hi
          rw [hcalling] at hi
          cases hi
    | some set =>
        rw [hlookup] at hs
        obtain rfl := Option.some.inj hs
        have hnames : ∀ name', s.eventSubscriptions.lookup name' = some set →
            name' = name := by
          intro name' hname'
          exact h.registry.distinct name' name set hname' hlookup
        have hsubset := registeredFor_subset h.registry hlookup
        have hnodup := s.nodup_snapshot set
        obtain ⟨hlisteners, hdispatching, hcalling⟩ :=
          s.toEventConn.callNext_eq ⟨name, set, s.snapshot set⟩
        refine ⟨?_, ?_, ?_, ?_, ?_⟩
        · exact registered_callNext h.registry hnames
            fun _ _ => .inr hlookup
        · refine frameInv_callNext hnames
            (h.registry.allocated name set hlookup) ?_
          intro i hi
          obtain ⟨l, hl, hset, -⟩ := mem_snapshot.1 hi
          refine ⟨l, hl, hset, ?_⟩
          refine (h.registry.named i l name hl ?_).symm
          rw [hset]
          exact hlookup
        · intro f hf
          have hf := hdispatching.symm.trans hf
          split at hf
          · cases hf
          · next hsome =>
            obtain rfl := Option.some.inj hf
            have hcons : (s.snapshot set).head?.toList
                ++ (s.snapshot set).tail = s.snapshot set := by
              cases hsnap : s.snapshot set with
              | nil => exact absurd hsnap hsome
              | cons i rest => rfl
            refine ⟨?_, ?_, ?_, ?_⟩
            · intro i hi
              show i ∈ EventConn.calling _
              rw [hcalling]
              simpa using hi
            · show (EventConn.calling _ ++ _).Nodup
              rw [hcalling]
              dsimp only
              rw [hcons]
              exact hnodup
            · intro i hi
              show i ∈ EventConn.calling _ ++ _
              rw [hcalling]
              dsimp only
              rw [hcons]
              exact hsubset i hi
            · intro j hj k hk hremoved
              -- nothing of the snapshot has been removed
              have hk : s.listeners[j]? = some k := hlisteners ▸ hk
              obtain ⟨l, hl, hset, hpresent⟩ :=
                mem_snapshot.1 (List.mem_of_mem_tail hj)
              obtain rfl := Option.some.inj (hk.symm.trans hl)
              have hname := h.registry.named j k name hk
                (by rw [hset]; exact hlookup)
              have hregistered := (h.registry.registered j k hk).2
                ⟨hpresent, by rw [← hname, hset]; exact hlookup⟩
              rw [hregistered] at hremoved
              cases hremoved
        · intro hended
          have hended := hdispatching.symm.trans hended
          split at hended
          · next hnil =>
            show (EventConn.calling _).Nodup ∧ _
            rw [hcalling]
            have hnil : s.snapshot set = [] := hnil
            rw [hnil]
            refine ⟨List.nodup_nil, ?_⟩
            intro i hi
            have hmem := hsubset i hi
            rw [hnil] at hmem
            cases hmem
          · cases hended
        · intro i hi hhead
          have hi : i ∈ EventConn.calling _ := hi
          rw [hcalling] at hi
          have hmem : (s.snapshot set).head? = some i := by simpa using hi
          refine absurd hmem (hhead ⟨name, set, s.snapshot set⟩ ?_)
          refine hdispatching.trans (if_neg ?_)
          intro hnil
          have hnil : s.snapshot set = [] := hnil
          rw [hnil] at hmem
          cases hmem

/-- The listener that is being called returns. -/
theorem CallsInv.returned {s : DispatchRun} {conn : EventConn}
    (h : s.CallsInv) (hsafe : s.DispatchSafe .returned)
    (hs : s.toEventConn.returned = some conn) :
    (s.record conn .returned).CallsInv := by
  unfold EventConn.returned at hs
  split at hs
  case h_2 => cases hs
  case h_1 name set i rest hdispatching =>
    obtain ⟨-, hnames, hlt, hlisteners⟩ := h.frame _ hdispatching
    obtain ⟨l, hl, hset, -⟩ := hlisteners i List.mem_cons_self
    rw [hl] at hs
    obtain rfl := Option.some.inj hs
    obtain ⟨htouches, l', hl', honce⟩ := touches_afterCall hl set
    obtain ⟨hsame, hmap, -⟩ := s.toEventConn.afterCall_rest i l set
    obtain ⟨hkept, hnext, hcalling⟩ :=
      (s.afterCall i l set).callNext_eq ⟨name, set, rest⟩
    obtain ⟨hhead, hnodup, hall, hgone⟩ := h.calling _ hdispatching
    dsimp only [List.tail_cons] at hnodup hall hgone
    have hregistry : (s.afterCall i l set).Registered := by
      unfold EventConn.afterCall
      split
      · exact (h.registry.dropped hl fun _ => hset.symm).mono
          fun _ _ _ _ _ => trivial
      · exact h.registry
    have hnames' : ∀ name', (s.afterCall i l set).eventSubscriptions.lookup
        name' = some set → name' = name := by
      rw [hmap]
      exact hnames
    refine ⟨?_, ?_, ?_, ?_, ?_⟩
    · refine registered_callNext hregistry hnames' ?_
      intro hnil hempty
      have hnil : rest = [] := hnil
      rw [hmap]
      exact hsafe name set i l (hnil ▸ hdispatching) hl hempty
    · refine frameInv_callNext hnames' ?_ ?_
      · unfold EventConn.afterCall
        split <;> exact hlt
      · intro j hj
        obtain ⟨k, hk, hkset, hkname⟩ :=
          hlisteners j (List.mem_cons_of_mem i hj)
        unfold EventConn.afterCall
        split
        · obtain ⟨k', hk', hset', hname'⟩ :=
            s.toEventConn.drop_kept hl set j k hk
          exact ⟨k', hk', hset'.trans hkset, hname'.trans hkname⟩
        · exact ⟨k, hk, hkset, hkname⟩
    · intro f hf
      have hf := hnext.symm.trans hf
      split at hf
      · cases hf
      · next hsome =>
        obtain rfl := Option.some.inj hf
        have hcons : s.called
            ++ ((s.afterCall i l set).callNext ⟨name, set, rest⟩).calling
            ++ rest.tail = s.called ++ rest := by
          rw [hcalling, List.append_assoc]
          cases hrest : rest with
          | nil => exact absurd hrest hsome
          | cons j rest' => rfl
        refine ⟨?_, ?_, ?_, ?_⟩
        · intro j hj
          show j ∈ s.called ++ EventConn.calling _
          rw [hcalling]
          exact List.mem_append_right _ (by simpa using hj)
        · exact hcons ▸ hnodup
        · exact hcons ▸ hall
        · intro j hj k hk hremoved
          have hmem : j ∈ rest := List.mem_of_mem_tail hj
          obtain ⟨k', hk', -⟩ := hlisteners j (List.mem_cons_of_mem i hmem)
          obtain ⟨k'', hk'', -, -, hunchanged⟩ := htouches j k' hk'
          have hk : (s.afterCall i l set).listeners[j]? = some k := hkept ▸ hk
          obtain rfl := Option.some.inj (hk.symm.trans hk'')
          have hne : some i ≠ some j := by
            intro heq
            obtain rfl := Option.some.inj heq
            -- the one that was called is not called again
            exact (List.nodup_append.1 hnodup).2.2 i (hhead i rfl) i hmem rfl
          rw [hunchanged hne] at hremoved
          exact hgone j hmem k' hk' hremoved
    · intro hended
      have hended := hnext.symm.trans hended
      split at hended
      · next hnil =>
        have hnil : rest = [] := hnil
        show (s.called ++ EventConn.calling _).Nodup
          ∧ ∀ j ∈ s.due, j ∉ s.early → j ∈ s.called ++ EventConn.calling _
        rw [hcalling]
        dsimp only
        rw [hnil] at hnodup hall ⊢
        exact ⟨hnodup, fun j hj _ => hall j hj⟩
      · cases hended
    · intro j hj hbehind
      have hj : j ∈ s.called ++ EventConn.calling _ := hj
      rw [hcalling] at hj
      show ∃ k, (EventConn.callNext _ _).listeners[j]? = some k ∧ _
      rw [hkept]
      rcases List.mem_append.1 hj with hj | hj
      · by_cases hji : j = i
        · subst hji
          exact ⟨l', hl', honce⟩
        · obtain ⟨k, hk, hremoved⟩ := h.once j hj fun f hf => by
            obtain rfl := Option.some.inj (hdispatching.symm.trans hf)
            intro heq
            exact hji (Option.some.inj heq).symm
          obtain ⟨k', hk', hsameOnce, hmono, -⟩ := htouches j k hk
          exact ⟨k', hk', fun h' => hmono (hremoved (hsameOnce ▸ h'))⟩
      · -- the next one is being called
        have hhead' : rest.head? = some j := by simpa using hj
        refine absurd hhead' (hbehind ⟨name, set, rest⟩ ?_)
        refine hnext.trans (if_neg ?_)
        intro hnil
        have hnil : rest = [] := hnil
        rw [hnil] at hhead'
        cases hhead'

/-- It throws. -/
theorem CallsInv.threw {s : DispatchRun} {conn : EventConn}
    (h : s.CallsInv) (hsafe : s.DispatchSafe .threw)
    (hs : s.toEventConn.threw = some conn) :
    (s.record conn .threw).CallsInv := by
  unfold EventConn.threw at hs
  split at hs
  case h_2 => cases hs
  case h_1 frame hdispatching =>
    obtain rfl := Option.some.inj hs
    obtain ⟨hsome, -, -, hlisteners⟩ := h.frame frame hdispatching
    obtain ⟨hhead, hnodup, hall, hgone⟩ := h.calling frame hdispatching
    obtain ⟨name, set, listeners⟩ := frame
    cases listeners with
    | nil => exact absurd rfl hsome
    | cons i rest =>
    obtain ⟨l, hl, -⟩ := hlisteners i List.mem_cons_self
    obtain ⟨honce, hremoved⟩ := hsafe name set i rest l hdispatching hl
    dsimp only [List.tail_cons] at hnodup hall hgone
    refine ⟨h.registry.congr rfl rfl rfl, ?_, ?_, ?_, ?_⟩
    · exact fun _ hf => by cases hf
    · exact fun _ hf => by cases hf
    · intro _
      refine ⟨(List.nodup_append.1 hnodup).1, ?_⟩
      intro j hj hearly
      rcases List.mem_append.1 (hall j hj) with hcalled | hbehind
      · exact hcalled
      · -- it was unsubscribed before its turn
        obtain ⟨k, hk, -⟩ := hlisteners j (List.mem_cons_of_mem i hbehind)
        exact absurd (hgone j hbehind k hk (hremoved j hbehind k hk)) hearly
    · intro j hj _
      by_cases hji : j = i
      · subst hji
        exact ⟨l, hl, honce⟩
      · exact h.once j hj fun f hf => by
          obtain rfl := Option.some.inj (hdispatching.symm.trans hf)
          intro heq
          exact hji (Option.some.inj heq).symm

/-- A listener is unsubscribed. -/
theorem CallsInv.unsubscribe {s : DispatchRun} {conn : EventConn} {i : Nat}
    (h : s.CallsInv) (hs : s.toEventConn.unsubscribe i = some conn) :
    (s.record conn (.unsubscribe i)).CallsInv := by
  refine h.touched (h.registry.unsubscribe hs) (h.frame.unsubscribe hs)
    (touches_unsubscribe hs) (unsubscribe_dispatching hs) rfl rfl ?_ ?_ ?_
  · intro j hj
    dsimp only [record]
    split
    · exact List.mem_append_left _ hj
    · exact hj
  · intro hidle
    dsimp only [record]
    rw [hidle]
    rfl
  · intro f j hf hj heq
    obtain rfl := Option.some.inj heq
    obtain ⟨-, hnodup, -, -⟩ := h.calling f hf
    have hnot : i ∉ s.called := fun hcalled =>
      (List.nodup_append.1 hnodup).2.2 i hcalled i hj rfl
    dsimp only [record]
    rw [if_pos ⟨by rw [hf]; rfl, hnot⟩]
    exact List.mem_append_right _ (List.mem_singleton.2 rfl)

/-- A step on the way to the server, or of the socket. -/
theorem CallsInv.rest {s : DispatchRun} {conn : EventConn} (h : s.CallsInv)
    (hlisteners : conn.listeners = s.listeners) (hsets : conn.sets = s.sets)
    (hmap : conn.eventSubscriptions = s.eventSubscriptions)
    (hdispatching : conn.dispatching = s.dispatching) :
    CallsInv { s with toEventConn := conn } := by
  refine h.touched (h.registry.congr hlisteners hsets hmap) ?_
    (touches_of_eq (i := none) hlisteners) hdispatching rfl rfl (fun _ => id)
    (fun _ => rfl) (fun _ _ _ _ heq => by cases heq)
  refine h.frame.of_listeners hdispatching (Nat.le_of_eq hsets.symm) ?_ ?_
  · intro name set _ hname
    rw [← hmap]
    exact hname
  · intro i l hl
    exact ⟨l, by rw [hlisteners]; exact hl, rfl, rfl⟩

/-- What a step keeps. -/
theorem CallsInv.step {s s' : DispatchRun} {a : EventStep} (h : s.CallsInv)
    (hsafe : s.DispatchSafe a) (hs : dispatchSystem.step s a = some s') :
    s'.CallsInv := by
  obtain ⟨conn, hconn, rfl⟩ := Option.map_eq_some_iff.1 hs
  cases a with
  | addEventSubscription eventName once =>
      obtain rfl := Option.some.inj hconn
      exact h.touched (h.registry.add eventName once)
        (h.frame.add eventName once) (touches_add _ eventName once)
        (s.toEventConn.add_dispatching eventName once) rfl rfl (fun _ => id)
        (fun _ => rfl) (fun _ _ _ _ heq => by cases heq)
  | unsubscribe i => exact h.unsubscribe hconn
  | dispatchEvent name => exact h.dispatchEvent hconn
  | returned => exact h.returned hsafe hconn
  | threw => exact h.threw hsafe hconn
  | serverReceive =>
      simp only [eventStep, serverReceive] at hconn
      split at hconn <;> cases hconn
      exact h.rest rfl rfl rfl rfl
  | connect =>
      simp only [eventStep, connect] at hconn
      split at hconn <;> cases hconn
      exact h.rest rfl rfl rfl rfl
  | handleOnOpen =>
      simp only [eventStep, handleOnOpen] at hconn
      split at hconn <;> cases hconn
      exact h.rest rfl rfl rfl rfl
  | disconnect =>
      simp only [eventStep, disconnect] at hconn
      split at hconn <;> cases hconn
      exact h.rest rfl rfl rfl rfl

/-- And so does every guarded run. -/
theorem callsInv_reaches {s : DispatchRun}
    (h : dispatchSystem.Reaches DispatchSafe s) : s.CallsInv := by
  refine h.invariant ?_ ?_
  · intro s hs
    have hs : s = {} := hs
    rw [hs]
    exact callsInv_empty
  · intro s a s' _ hinv hsafe hstep
    exact hinv.step hsafe hstep

end DispatchRun

open DispatchRun

-- ================================================================= the runs

/-- In every run whose steps are `DispatchSafe`. -/
theorem dispatched_of_safe {s : DispatchRun}
    (h : dispatchSystem.Reaches DispatchSafe s) : s.Dispatched :=
  (callsInv_reaches h).dispatched

/-- The first of three listeners unsubscribes the last one and registers
another; the second one is one-time. -/
def unsubscribingRun : List EventStep :=
  [.addEventSubscription "moved" false, .addEventSubscription "moved" true,
    .addEventSubscription "moved" false, .dispatchEvent "moved",
    .unsubscribe 2, .addEventSubscription "moved" false, .returned, .returned,
    .returned]

/-- The guard admits that run. -/
theorem dispatched_of_safe_unsubscribing :
    ∃ s, dispatchSystem.run {} unsubscribingRun = some s
      ∧ s.called = [0, 1, 2] ∧ s.early = [2] ∧ s.Dispatched := by
  have hok : dispatchSystem.RunOk DispatchSafe {} unsubscribingRun := by
    refine ⟨trivial, trivial, trivial, trivial, trivial, trivial, ?_, ?_, ?_,
      trivial⟩
    · intro name set i l hframe
      cases hframe
    · intro name set i l hframe
      cases hframe
    · intro name set i l hframe _ _
      cases hframe
      exact .inr rfl
  exact ⟨_, rfl, rfl, rfl,
    dispatched_of_safe (System.Reaches.run _ (.init rfl) hok rfl)⟩

/-- A listener that throws: the one behind it is not called. And the only
listener of an event replaces itself: the new one is registered and not in
the map. -/
theorem dispatch_misses :
    (∃ s, dispatchSystem.Reachable s ∧ s.dispatching = none
        ∧ s.due = [0, 1] ∧ s.early = [] ∧ s.called = [0] ∧ ¬ s.Dispatched)
      ∧ ∃ s, dispatchSystem.Reachable s ∧ s.dispatching = none
        ∧ s.listeners[1]?
          = some { eventName := "moved", once := false, set := 1 }
        ∧ s.eventSubscriptions = [] ∧ ¬ s.Dispatched := by
  constructor
  · refine ⟨_, System.Reachable.run
      [.addEventSubscription "moved" false,
        .addEventSubscription "moved" false, .dispatchEvent "moved", .threw]
      (.init rfl) rfl, rfl, rfl, rfl, rfl, ?_⟩
    intro h
    exact absurd (h.called rfl 1 (by decide) (by decide)) (by decide)
  · refine ⟨_, System.Reachable.run
      [.addEventSubscription "moved" false, .dispatchEvent "moved",
        .unsubscribe 0, .addEventSubscription "moved" false, .returned]
      (.init rfl) rfl, rfl, rfl, rfl, ?_⟩
    intro h
    obtain ⟨l, set, hl, hlookup, -⟩ := h.registered 1 _ rfl rfl
    cases hlookup

end RivetKit.Client
