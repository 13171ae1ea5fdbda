/-
The two ends of a connection agree on the subscriptions in every run in which
no dispatch ends by forgetting, without a word, an event the server is
subscribed to (`subscriptions_agree`).

`#dispatchEvent` removes a one-time listener and then its empty set, and
sends nothing, where the function that unsubscribes sends the request
(`subscriptions_disagree`): the server goes on sending an event that nobody
listens to.

# The invariant

`RegistryInv` ties the listeners to the map; a set in it is empty only while
a dispatch goes through that set. `HeardInv` ties the map to what the server
will have heard once everything has arrived.
-/
import RivetKit.Client.Subscriptions
import RivetKit.Actor.Proofs.Maps
import RivetKit.Actor.Proofs.Metadata
import RivetKit.Actor.SubscriptionIndex
import RivetKit.Lib.Lists
import Mathlib.Data.List.Nodup

namespace RivetKit.Client

open Transition
open Actor (LiveInstance ActorOptions)
open Actor.LiveInstance

-- ============================================================= the server

namespace EventConn

/-- `serverApply` is what `#addSubscription` does to the set of a `Conn`. -/
theorem subscriptionsOf_addSubscription {opts : ActorOptions}
    (s : LiveInstance) (eventName : String) {c : Nat} {conn : Actor.Conn}
    (hconn : s.conns[c]? = some conn) :
    (s.addSubscription opts eventName c false).subscriptionsOf c
      = serverApply (s.subscriptionsOf c) ⟨eventName, true⟩ := by
  have hsubs : s.subscriptionsOf c = conn.subscriptions := by
    unfold subscriptionsOf
    rw [hconn]
    rfl
  unfold LiveInstance.addSubscription serverApply
  rw [hconn, hsubs]
  dsimp only
  by_cases hmem : eventName ∈ conn.subscriptions
  · simp only [hmem, if_true]
    exact hsubs
  · simp only [hmem, if_false, if_true, Bool.false_eq_true, callSaveState]
    rw [mutateConn_eq]
    unfold subscriptionsOf
    rw [List.getElem?_modify_eq, hconn]
    rfl

/-- And `#removeSubscription`. -/
theorem subscriptionsOf_removeSubscription {opts : ActorOptions}
    (s : LiveInstance) (eventName : String) {c : Nat} {conn : Actor.Conn}
    (hconn : s.conns[c]? = some conn) :
    (s.removeSubscription opts eventName c false).subscriptionsOf c
      = serverApply (s.subscriptionsOf c) ⟨eventName, false⟩ := by
  have hsubs : s.subscriptionsOf c = conn.subscriptions := by
    unfold subscriptionsOf
    rw [hconn]
    rfl
  unfold LiveInstance.removeSubscription serverApply
  rw [hconn, hsubs]
  dsimp only
  by_cases hmem : eventName ∈ conn.subscriptions
  · simp only [hmem, not_true_eq_false, if_false, Bool.false_eq_true,
      callSaveState]
    rw [mutateConn_eq]
    unfold subscriptionsOf
    rw [List.getElem?_modify_eq, hconn]
    rfl
  · simp only [hmem, not_false_eq_true, if_true, Bool.false_eq_true, if_false]
    rw [hsubs, List.erase_of_not_mem hmem]

theorem nodup_serverApply {subs : List String} (h : subs.Nodup)
    (m : SubscriptionRequest) : (serverApply subs m).Nodup := by
  unfold serverApply
  split
  · split
    · exact h
    case isFalse hmem =>
      refine h.append (List.nodup_singleton _) ?_
      intro name hname hname'
      exact hmem (List.mem_singleton.1 hname' ▸ hname)
  · exact h.erase m.eventName

theorem mem_serverApply {subs : List String} (h : subs.Nodup)
    (m : SubscriptionRequest) (name : String) :
    name ∈ serverApply subs m
      ↔ if name = m.eventName then m.subscribe = true else name ∈ subs := by
  unfold serverApply
  by_cases hname : name = m.eventName
  · rw [if_pos hname, hname]
    by_cases hsubscribe : m.subscribe = true
    · rw [if_pos hsubscribe]
      refine ⟨fun _ => hsubscribe, fun _ => ?_⟩
      split
      case isTrue hmem => exact hmem
      case isFalse => exact List.mem_append_right _ List.mem_cons_self
    · rw [if_neg hsubscribe, h.mem_erase_iff]
      simp [hsubscribe]
  · rw [if_neg hname]
    split
    · split
      · exact Iff.rfl
      · simp [hname]
    · rw [h.mem_erase_iff]
      simp [hname]

/-- All events, subscribed to. -/
theorem mem_foldl_subscribe (names : List String) (name : String) :
    ∀ subs : List String, subs.Nodup →
      (name ∈ (names.map fun n => SubscriptionRequest.mk n true).foldl
        serverApply subs ↔ name ∈ subs ∨ name ∈ names) := by
  induction names with
  | nil => simp
  | cons n names ih =>
      intro subs h
      rw [List.map_cons, List.foldl_cons, ih _ (nodup_serverApply h _),
        mem_serverApply h, List.mem_cons]
      by_cases hname : name = n
      · simp [hname]
      · simp [hname]

theorem nodup_foldl_serverApply (ms : List SubscriptionRequest) :
    ∀ subs : List String, subs.Nodup → (ms.foldl serverApply subs).Nodup := by
  induction ms with
  | nil => exact fun subs h => h
  | cons m ms ih => exact fun subs h => ih _ (nodup_serverApply h m)

-- ================================================== what the server hears

variable {s s' : EventConn}

/-- An event is in the map. -/
def Known (s : EventConn) (name : String) : Prop :=
  ∃ set, s.eventSubscriptions.lookup name = some set

/-- What the server hears is what is in the map. -/
structure HeardInv (s : EventConn) : Prop where
  nodup : s.server.Nodup
  ready : s.phase = .ready → ∀ name, name ∈ s.heard ↔ s.Known name
  opened : s.phase = .opened → ∀ name ∈ s.heard, s.Known name
  disconnected : s.phase = .disconnected → s.heard = []

theorem HeardInv.heard_nodup (h : s.HeardInv) : s.heard.Nodup :=
  nodup_foldl_serverApply s.toServer s.server h.nodup

/-- A step that leaves the messages, and which events are in the map. -/
theorem HeardInv.congr (h : s.HeardInv) (hserver : s'.server = s.server)
    (htoServer : s'.toServer = s.toServer) (hphase : s'.phase = s.phase)
    (hknown : ∀ name, s'.Known name ↔ s.Known name) : s'.HeardInv := by
  have hheard : s'.heard = s.heard := by
    unfold heard
    rw [hserver, htoServer]
  constructor
  case nodup => rw [hserver]; exact h.nodup
  case ready =>
    rw [hphase, hheard]
    exact fun hready name => (h.ready hready name).trans (hknown name).symm
  case opened =>
    rw [hphase, hheard]
    exact fun hopened name hmem =>
      (hknown name).2 (h.opened hopened name hmem)
  case disconnected =>
    rw [hphase, hheard]
    exact h.disconnected

/-- A request is sent, and the map changes as it says. -/
theorem HeardInv.send (h : s.HeardInv) (eventName : String) (subscribe : Bool)
    (hserver : s'.server = s.server)
    (htoServer : s'.toServer = (s.sendSubscription eventName subscribe).toServer)
    (hphase : s'.phase = s.phase)
    (hknown : ∀ name, s'.Known name
      ↔ if name = eventName then subscribe = true else s.Known name) :
    s'.HeardInv := by
  by_cases hdown : s.phase = .disconnected
  · have hheard : s'.heard = [] := by
      unfold sendSubscription at htoServer
      rw [if_pos hdown] at htoServer
      unfold heard
      rw [hserver, htoServer]
      exact h.disconnected hdown
    refine ⟨by rw [hserver]; exact h.nodup, ?_, ?_, fun _ => hheard⟩
    · rw [hphase, hdown]
      exact fun hready => by cases hready
    · rw [hphase, hdown]
      exact fun hopened => by cases hopened
  · have hheard : s'.heard = serverApply s.heard ⟨eventName, subscribe⟩ := by
      unfold sendSubscription at htoServer
      rw [if_neg hdown] at htoServer
      unfold heard
      rw [hserver, htoServer]
      exact List.foldl_append
    have hmem := mem_serverApply h.heard_nodup ⟨eventName, subscribe⟩
    refine ⟨by rw [hserver]; exact h.nodup, ?_, ?_, ?_⟩
    · rw [hphase, hheard]
      intro hready name
      rw [hmem, hknown, h.ready hready]
    · rw [hphase, hheard]
      intro hopened name hname
      rw [hmem] at hname
      rw [hknown]
      by_cases heq : name = eventName
      · rw [if_pos heq] at hname ⊢
        exact hname
      · rw [if_neg heq] at hname ⊢
        exact h.opened hopened name hname
    · rw [hphase]
      exact fun hdisconnected => absurd hdisconnected hdown

/-- An event the server does not hear of leaves the map. -/
theorem HeardInv.forget (h : s.HeardInv) {eventName : String}
    (hserver : s'.server = s.server) (htoServer : s'.toServer = s.toServer)
    (hphase : s'.phase = s.phase) (hnot : eventName ∉ s.heard)
    (hknown : ∀ name, s'.Known name ↔ name ≠ eventName ∧ s.Known name) :
    s'.HeardInv := by
  have hheard : s'.heard = s.heard := by
    unfold heard
    rw [hserver, htoServer]
  constructor
  case nodup => rw [hserver]; exact h.nodup
  case ready =>
    rw [hphase, hheard]
    intro hready name
    rw [hknown, ← h.ready hready]
    constructor
    · intro hmem
      refine ⟨?_, hmem⟩
      rintro rfl
      exact hnot hmem
    · exact And.right
  case opened =>
    rw [hphase, hheard]
    intro hopened name hmem
    refine (hknown name).2 ⟨?_, h.opened hopened name hmem⟩
    rintro rfl
    exact hnot hmem
  case disconnected =>
    rw [hphase, hheard]
    exact h.disconnected

-- ========================================================= the registry

/-- No listener is in the set. -/
theorem isEmpty_iff {set : Nat} : s.isEmpty set = true
    ↔ ∀ (i : Nat) (l : Listener), s.listeners[i]? = some l → l.set = set →
        l.present = false := by
  unfold isEmpty
  rw [List.all_eq_true]
  constructor
  · intro h i l hl hset
    have hnot := h l (List.mem_of_getElem? hl)
    simpa [hset] using hnot
  · intro h l hmem
    obtain ⟨i, hl⟩ := List.mem_iff_getElem?.1 hmem
    by_cases hset : l.set = set
    · simp [hset, h i l hl hset]
    · simp [hset]

/-- The listeners and the map, where the sets of `spare` may be empty. -/
structure RegistryInv (spare : Nat → Prop) (s : EventConn) : Prop where
  allocated : ∀ (name : String) (set : Nat),
    s.eventSubscriptions.lookup name = some set → set < s.sets
  distinct : ∀ (name name' : String) (set : Nat),
    s.eventSubscriptions.lookup name = some set →
    s.eventSubscriptions.lookup name' = some set → name = name'
  made : ∀ (i : Nat) (l : Listener), s.listeners[i]? = some l → l.set < s.sets
  named : ∀ (i : Nat) (l : Listener) (name : String),
    s.listeners[i]? = some l →
    s.eventSubscriptions.lookup name = some l.set → name = l.eventName
  registered : ∀ (i : Nat) (l : Listener), s.listeners[i]? = some l →
    (l.removed = false ↔ l.present = true
      ∧ s.eventSubscriptions.lookup l.eventName = some l.set)
  nonempty : ∀ (name : String) (set : Nat),
    s.eventSubscriptions.lookup name = some set → s.isEmpty set = true →
    spare set

variable {spare : Nat → Prop}

theorem RegistryInv.mono (h : s.RegistryInv spare) {spare' : Nat → Prop}
    (himp : ∀ name set, s.eventSubscriptions.lookup name = some set →
      s.isEmpty set = true → spare set → spare' set) :
    s.RegistryInv spare' := by
  refine { h with nonempty := ?_ }
  intro name set hset hempty
  exact himp name set hset hempty (h.nonempty name set hset hempty)

/-- It reads three things. -/
theorem RegistryInv.congr (h : s.RegistryInv spare)
    (hlisteners : s'.listeners = s.listeners) (hsets : s'.sets = s.sets)
    (hmap : s'.eventSubscriptions = s.eventSubscriptions) :
    s'.RegistryInv spare where
  allocated := by rw [hmap, hsets]; exact h.allocated
  distinct := by rw [hmap]; exact h.distinct
  made := by rw [hlisteners, hsets]; exact h.made
  named := by rw [hlisteners, hmap]; exact h.named
  registered := by rw [hlisteners, hmap]; exact h.registered
  nonempty := by
    unfold isEmpty
    rw [hlisteners, hmap]
    exact h.nonempty

/-- With no set to spare, the events in the map are those that have a
listener. -/
theorem RegistryInv.known_iff (h : s.RegistryInv fun _ => False)
    (name : String) : s.Known name ↔ s.HasListener name := by
  constructor
  · intro hgiven
    obtain ⟨set, hset⟩ := hgiven
    by_cases hempty : s.isEmpty set = true
    · exact (h.nonempty name set hset hempty).elim
    · rw [isEmpty_iff] at hempty
      simp only [not_forall] at hempty
      obtain ⟨i, l, hl, hlset, hpresent⟩ := hempty
      have hname : name = l.eventName := by
        refine h.named i l name hl ?_
        rw [hlset, hset]
      refine ⟨l, List.mem_of_getElem? hl, hname.symm, ?_⟩
      refine (h.registered i l hl).2 ⟨by simpa using hpresent, ?_⟩
      rw [← hname, hlset, hset]
  · intro hgiven
    obtain ⟨l, hmem, hname, hremoved⟩ := hgiven
    obtain ⟨i, hl⟩ := List.mem_iff_getElem?.1 hmem
    exact ⟨l.set, hname ▸ ((h.registered i l hl).1 hremoved).2⟩

-- ========================================================== on and once

/-- A listener joins the set of its event. -/
theorem RegistryInv.join (h : s.RegistryInv spare) {eventName : String}
    (once : Bool) {set : Nat}
    (hset : s.eventSubscriptions.lookup eventName = some set) :
    RegistryInv spare { s with
      listeners := s.listeners ++ [⟨eventName, once, set, true, false⟩] } := by
  have hget : ∀ (i : Nat) (l : Listener),
      (s.listeners ++ [⟨eventName, once, set, true, false⟩])[i]? = some l →
      s.listeners[i]? = some l ∨ l = ⟨eventName, once, set, true, false⟩ := by
    intro i l hl
    by_cases hlt : i < s.listeners.length
    · rw [List.getElem?_append_left hlt] at hl
      exact Or.inl hl
    · have hmem := List.mem_of_getElem? hl
      rcases List.mem_append.1 hmem with _ | hnew
      · rw [List.getElem?_append_right (by omega)] at hl
        exact Or.inr (List.mem_singleton.1 (List.mem_of_getElem? hl))
      · exact Or.inr (List.mem_singleton.1 hnew)
  constructor
  case allocated => exact h.allocated
  case distinct => exact h.distinct
  case made =>
    intro i l hl
    rcases hget i l hl with hold | rfl
    · exact h.made i l hold
    · exact h.allocated eventName set hset
  case named =>
    intro i l name hl hname
    rcases hget i l hl with hold | rfl
    · exact h.named i l name hold hname
    · exact h.distinct name eventName set hname hset
  case registered =>
    intro i l hl
    rcases hget i l hl with hold | rfl
    · exact h.registered i l hold
    · exact iff_of_true rfl ⟨rfl, hset⟩
  case nonempty =>
    intro name set' hset' hempty
    refine h.nonempty name set' hset' ?_
    rw [isEmpty_iff] at hempty ⊢
    intro i l hl
    refine hempty i l ?_
    dsimp only
    rw [List.getElem?_append_left (List.getElem?_eq_some_iff.1 hl).1]
    exact hl

/-- A listener opens a set of its own. -/
theorem RegistryInv.open (h : s.RegistryInv spare) {eventName : String}
    (hnone : s.eventSubscriptions.lookup eventName = none) :
    RegistryInv (fun set => spare set ∨ set = s.sets) { s with
      sets := s.sets + 1
      eventSubscriptions :=
        mapSet s.eventSubscriptions eventName s.sets } := by
  have hlookup : ∀ (name : String) (set : Nat),
      (mapSet s.eventSubscriptions eventName s.sets).lookup name = some set →
      name = eventName ∧ set = s.sets
        ∨ name ≠ eventName ∧ s.eventSubscriptions.lookup name = some set := by
    intro name set hset
    rw [lookup_mapSet] at hset
    by_cases hname : name = eventName
    · rw [if_pos hname] at hset
      injection hset with hset
      exact Or.inl ⟨hname, hset.symm⟩
    · rw [if_neg hname] at hset
      exact Or.inr ⟨hname, hset⟩
  constructor
  case allocated =>
    intro name set hset
    show set < s.sets + 1
    rcases hlookup name set hset with ⟨-, hnew⟩ | ⟨-, hold⟩
    · omega
    · have hlt := h.allocated name set hold
      omega
  case distinct =>
    intro name name' set hset hset'
    rcases hlookup name set hset with ⟨hname, hnew⟩ | ⟨-, hold⟩
    · rcases hlookup name' set hset' with ⟨hname', -⟩ | ⟨-, hold'⟩
      · rw [hname, hname']
      · have hlt := h.allocated name' set hold'
        omega
    · rcases hlookup name' set hset' with ⟨-, hnew'⟩ | ⟨-, hold'⟩
      · have hlt := h.allocated name set hold
        omega
      · exact h.distinct name name' set hold hold'
  case made =>
    intro i l hl
    have hlt := h.made i l hl
    show l.set < s.sets + 1
    omega
  case named =>
    intro i l name hl hname
    rcases hlookup name l.set hname with ⟨-, hnew⟩ | ⟨-, hold⟩
    · have hlt := h.made i l hl
      omega
    · exact h.named i l name hl hold
  case registered =>
    intro i l hl
    rw [h.registered i l hl]
    show _ ↔ _ ∧ (mapSet s.eventSubscriptions eventName s.sets).lookup _ = _
    rw [lookup_mapSet]
    by_cases hname : l.eventName = eventName
    · have hlt := h.made i l hl
      rw [if_pos hname, hname, hnone]
      have hne : s.sets ≠ l.set := by omega
      simp [hne]
    · rw [if_neg hname]
  case nonempty =>
    intro name set hset hempty
    rcases hlookup name set hset with ⟨-, hnew⟩ | ⟨-, hold⟩
    · exact Or.inr hnew
    · exact Or.inl (h.nonempty name set hold hempty)

-- ============================================================== removing

/-- A listener is done with: it has left its set, or that is not in the
map. -/
theorem RegistryInv.drop (h : s.RegistryInv spare) {i set : Nat}
    {l l' : Listener} (hl : s.listeners[i]? = some l)
    (hself : s'.listeners[i]? = some l')
    (hother : ∀ j, j ≠ i → s'.listeners[j]? = s.listeners[j]?)
    (hlset : l'.set = l.set) (hname : l'.eventName = l.eventName)
    (hremoved : l'.removed = true)
    (hgone : s.eventSubscriptions.lookup l.eventName = some l.set →
      l'.present = false)
    (hkept : l.set ≠ set → l'.present = l.present)
    (hsets : s'.sets = s.sets)
    (hmap : s'.eventSubscriptions = s.eventSubscriptions) :
    s'.RegistryInv fun set' => spare set' ∨ set' = set := by
  constructor
  case allocated => rw [hmap, hsets]; exact h.allocated
  case distinct => rw [hmap]; exact h.distinct
  case made =>
    intro j k hk
    rw [hsets]
    by_cases hj : j = i
    · rw [hj, hself] at hk
      injection hk with hk
      rw [← hk, hlset]
      exact h.made i l hl
    · rw [hother j hj] at hk
      exact h.made j k hk
  case named =>
    intro j k name hk hlookup
    rw [hmap] at hlookup
    by_cases hj : j = i
    · rw [hj, hself] at hk
      injection hk with hk
      rw [← hk, hlset] at hlookup
      rw [← hk, hname]
      exact h.named i l name hl hlookup
    · rw [hother j hj] at hk
      exact h.named j k name hk hlookup
  case registered =>
    intro j k hk
    rw [hmap]
    by_cases hj : j = i
    · rw [hj, hself] at hk
      injection hk with hk
      rw [← hk, hname, hlset]
      refine iff_of_false (by simp [hremoved]) ?_
      intro hgiven
      obtain ⟨hpresent, hlookup⟩ := hgiven
      rw [hgone hlookup] at hpresent
      cases hpresent
    · rw [hother j hj] at hk
      exact h.registered j k hk
  case nonempty =>
    intro name set' hlookup hempty
    rw [hmap] at hlookup
    by_cases hspare : set' = set
    · exact Or.inr hspare
    · refine Or.inl (h.nonempty name set' hlookup ?_)
      rw [isEmpty_iff] at hempty ⊢
      intro j k hk hkset
      by_cases hj : j = i
      · rw [hj, hl] at hk
        injection hk with hk
        rw [hk] at hlset hkept
        rw [← hkept (by rw [hkset]; exact hspare)]
        exact hempty i l' hself (hlset.trans hkset)
      · exact hempty j k ((hother j hj).trans hk) hkset

/-- The event of an empty set leaves the map. -/
theorem RegistryInv.forget {set : Nat} {eventName : String}
    (h : s.RegistryInv fun set' => spare set' ∨ set' = set)
    (hempty : s.isEmpty set = true)
    (hname : s.eventSubscriptions.lookup eventName = none
      ∨ s.eventSubscriptions.lookup eventName = some set)
    (hset : ∀ name, s.eventSubscriptions.lookup name = some set →
      name = eventName)
    (hlisteners : s'.listeners = s.listeners) (hsets : s'.sets = s.sets)
    (hmap : s'.eventSubscriptions
      = mapDelete s.eventSubscriptions eventName) :
    s'.RegistryInv spare := by
  have hlookup : ∀ (name : String) (set' : Nat),
      s'.eventSubscriptions.lookup name = some set' →
      name ≠ eventName ∧ s.eventSubscriptions.lookup name = some set' := by
    intro name set' hset'
    rw [hmap, lookup_mapDelete] at hset'
    split at hset'
    · cases hset'
    case isFalse hne => exact ⟨hne, hset'⟩
  constructor
  case allocated =>
    intro name set' hset'
    rw [hsets]
    exact h.allocated name set' (hlookup name set' hset').2
  case distinct =>
    intro name name' set' hset' hset''
    exact h.distinct name name' set' (hlookup name set' hset').2
      (hlookup name' set' hset'').2
  case made => rw [hlisteners, hsets]; exact h.made
  case named =>
    intro i l name hl hset'
    rw [hlisteners] at hl
    exact h.named i l name hl (hlookup name l.set hset').2
  case registered =>
    intro i l hl
    rw [hlisteners] at hl
    rw [h.registered i l hl, hmap, lookup_mapDelete]
    by_cases heq : l.eventName = eventName
    · rw [if_pos heq, heq]
      refine iff_of_false ?_ (by simp)
      intro hgiven
      obtain ⟨hpresent, hl'⟩ := hgiven
      -- its set is the empty one
      rcases hname with hnone | hsome
      · rw [hnone] at hl'
        cases hl'
      · rw [hsome] at hl'
        injection hl' with hl'
        rw [isEmpty_iff.1 hempty i l hl hl'.symm] at hpresent
        cases hpresent
    · rw [if_neg heq]
  case nonempty =>
    intro name set' hset' hempty'
    obtain ⟨hne, hold⟩ := hlookup name set' hset'
    have hempty'' : s.isEmpty set' = true := by
      unfold isEmpty at hempty' ⊢
      rw [hlisteners] at hempty'
      exact hempty'
    refine (h.nonempty name set' hold hempty'').resolve_right ?_
    rintro rfl
    exact hne (hset name hold)

-- ======================================================== the invariant

/-- A dispatch has somebody to call, all of the set it found, which no other
event has. -/
def FrameInv (s : EventConn) : Prop :=
  ∀ f, s.dispatching = some f →
    f.listeners ≠ []
      ∧ (∀ name, s.eventSubscriptions.lookup name = some f.set → name = f.name)
      ∧ f.set < s.sets
      ∧ ∀ i ∈ f.listeners, ∃ l, s.listeners[i]? = some l ∧ l.set = f.set
        ∧ l.eventName = f.name

/-- A dispatch goes through the set. -/
def InDispatch (s : EventConn) (set : Nat) : Prop :=
  ∃ f, s.dispatching = some f ∧ f.set = set

/-- All of it. -/
structure SubscriptionsInv (s : EventConn) : Prop where
  registry : s.RegistryInv s.InDispatch
  frame : s.FrameInv
  heard : s.HeardInv

theorem SubscriptionsInv.agreement (h : s.SubscriptionsInv) : s.Agreement := by
  intro hready harrived hidle name
  have hregistry : s.RegistryInv fun _ => False := by
    refine h.registry.mono fun _ set _ _ hin => ?_
    obtain ⟨f, hf, -⟩ := hin
    rw [hidle] at hf
    cases hf
  have hserver : s.heard = s.server := by
    unfold EventConn.heard
    rw [harrived]
    rfl
  rw [← hserver, h.heard.ready hready name]
  exact hregistry.known_iff name

/-- The listeners keep their sets and names, and the map gets no set of the
dispatch under another name. -/
theorem FrameInv.of_listeners (h : s.FrameInv)
    (hdispatching : s'.dispatching = s.dispatching)
    (hsets : s.sets ≤ s'.sets)
    (hmap : ∀ name set, set < s.sets →
      s'.eventSubscriptions.lookup name = some set →
      s.eventSubscriptions.lookup name = some set)
    (hlisteners : ∀ (i : Nat) (l : Listener), s.listeners[i]? = some l →
      ∃ l', s'.listeners[i]? = some l' ∧ l'.set = l.set
        ∧ l'.eventName = l.eventName) : s'.FrameInv := by
  intro f hf
  rw [hdispatching] at hf
  obtain ⟨hsome, hnames, hlt, hcalled⟩ := h f hf
  refine ⟨hsome, ?_, Nat.lt_of_lt_of_le hlt hsets, ?_⟩
  · intro name hname
    exact hnames name (hmap name f.set hlt hname)
  · intro i hi
    obtain ⟨l, hl, hset, hname⟩ := hcalled i hi
    obtain ⟨l', hl', hset', hname'⟩ := hlisteners i l hl
    exact ⟨l', hl', hset'.trans hset, hname'.trans hname⟩

theorem known_mapSet {name eventName : String} {set : Nat}
    (hmap : s'.eventSubscriptions = mapSet s.eventSubscriptions eventName set) :
    s'.Known name ↔ if name = eventName then true = true else s.Known name := by
  unfold Known
  rw [hmap, lookup_mapSet]
  by_cases hname : name = eventName
  · rw [if_pos hname, if_pos hname]
    exact iff_of_true ⟨set, rfl⟩ rfl
  · rw [if_neg hname, if_neg hname]

theorem known_mapDelete {name eventName : String}
    (hmap : s'.eventSubscriptions = mapDelete s.eventSubscriptions eventName) :
    s'.Known name ↔ name ≠ eventName ∧ s.Known name := by
  unfold Known
  rw [hmap, lookup_mapDelete]
  by_cases hname : name = eventName
  · rw [if_pos hname]
    simp [hname]
  · rw [if_neg hname]
    simp [hname]

/-- Sending a request changes what is on its way. -/
theorem sendSubscription_eq (s : EventConn) (eventName : String)
    (subscribe : Bool) : s.sendSubscription eventName subscribe = { s with
      toServer := (s.sendSubscription eventName subscribe).toServer } := by
  unfold sendSubscription
  split <;> rfl

theorem sendSubscription_toServer {t : EventConn} (hphase : t.phase = s.phase)
    (htoServer : t.toServer = s.toServer) (eventName : String)
    (subscribe : Bool) : (t.sendSubscription eventName subscribe).toServer
      = (s.sendSubscription eventName subscribe).toServer := by
  unfold sendSubscription
  rw [hphase]
  split
  · exact htoServer
  · dsimp only
    rw [htoServer]

/-- `on` and `once`. -/
theorem RegistryInv.add (h : s.RegistryInv spare) (eventName : String)
    (once : Bool) :
    (s.addEventSubscription eventName once).RegistryInv spare := by
  unfold addEventSubscription
  cases hlookup : s.eventSubscriptions.lookup eventName with
  | some set => exact h.join once hlookup
  | none =>
      dsimp only
      rw [sendSubscription_eq]
      have hnew : (mapSet s.eventSubscriptions eventName s.sets).lookup
          eventName = some s.sets := by
        rw [lookup_mapSet, if_pos rfl]
      have hjoin := (h.open hlookup).join once hnew
      refine RegistryInv.congr (hjoin.mono ?_) rfl rfl rfl
      rintro name set - hempty (hin | hset)
      · exact hin
      · -- the new set has the new listener
        have hgone := isEmpty_iff.1 hempty s.listeners.length
          ⟨eventName, once, s.sets, true, false⟩ List.getElem?_concat_length
          hset.symm
        cases hgone

theorem add_dispatching (s : EventConn) (eventName : String) (once : Bool) :
    (s.addEventSubscription eventName once).dispatching = s.dispatching := by
  unfold addEventSubscription
  cases s.eventSubscriptions.lookup eventName with
  | some set => rfl
  | none =>
      dsimp only
      rw [sendSubscription_eq]

theorem FrameInv.add (h : s.FrameInv) (eventName : String) (once : Bool) :
    (s.addEventSubscription eventName once).FrameInv := by
  unfold addEventSubscription
  cases hlookup : s.eventSubscriptions.lookup eventName with
  | some set =>
      refine h.of_listeners rfl (Nat.le_refl _) (fun _ _ _ hn => hn) ?_
      exact fun i l hl => ⟨l, Lists.getElem?_concat_of_some hl, rfl, rfl⟩
  | none =>
      dsimp only
      rw [sendSubscription_eq]
      refine h.of_listeners rfl (Nat.le_succ _) ?_ ?_
      · intro name set hlt hname
        replace hname : (mapSet s.eventSubscriptions eventName
          s.sets).lookup name = some set := hname
        rw [lookup_mapSet] at hname
        split at hname
        · injection hname with hname
          omega
        · exact hname
      · exact fun i l hl => ⟨l, Lists.getElem?_concat_of_some hl, rfl, rfl⟩

theorem HeardInv.add (h : s.HeardInv) (eventName : String) (once : Bool) :
    (s.addEventSubscription eventName once).HeardInv := by
  unfold addEventSubscription
  cases hlookup : s.eventSubscriptions.lookup eventName with
  | some set => exact h.congr rfl rfl rfl fun name => Iff.rfl
  | none =>
      dsimp only
      rw [sendSubscription_eq]
      refine h.send eventName true rfl ?_ rfl fun name => known_mapSet rfl
      exact @sendSubscription_toServer s { s with
        sets := s.sets + 1
        eventSubscriptions :=
          mapSet s.eventSubscriptions eventName s.sets } rfl rfl eventName true

-- ====================================================== unsubscribing

/-- A listener leaves a set. -/
theorem drop_listeners (s : EventConn) {i : Nat} {l : Listener}
    (hl : s.listeners[i]? = some l) (set : Nat) :
    ((s.retire i).delete i set).listeners[i]? = some { l with
        present := l.present && l.set != set, removed := true }
      ∧ ∀ j, j ≠ i → ((s.retire i).delete i set).listeners[j]?
        = s.listeners[j]? := by
  unfold delete retire
  constructor
  · rw [Lists.getElem?_modify_self, Lists.getElem?_modify_self, hl]
    rfl
  · intro j hj
    rw [Lists.getElem?_modify_of_ne _ hj, Lists.getElem?_modify_of_ne _ hj]

theorem RegistryInv.dropped (h : s.RegistryInv spare) {i set : Nat}
    {l : Listener} (hl : s.listeners[i]? = some l)
    (hset : s.eventSubscriptions.lookup l.eventName = some l.set →
      set = l.set) :
    ((s.retire i).delete i set).RegistryInv
      fun set' => spare set' ∨ set' = set := by
  obtain ⟨hself, hother⟩ := s.drop_listeners hl set
  refine h.drop hl hself hother rfl rfl rfl ?_ ?_ rfl rfl
  · intro hlookup
    simp [hset hlookup]
  · intro hne
    simp [hne]

/-- The listeners of a dispatch keep their sets. -/
theorem drop_kept (s : EventConn) {i : Nat} {l : Listener}
    (hl : s.listeners[i]? = some l) (set : Nat) (j : Nat) (k : Listener)
    (hk : s.listeners[j]? = some k) :
    ∃ k', ((s.retire i).delete i set).listeners[j]? = some k'
      ∧ k'.set = k.set ∧ k'.eventName = k.eventName := by
  obtain ⟨hself, hother⟩ := s.drop_listeners hl set
  by_cases hj : j = i
  · rw [hj, hl] at hk
    injection hk with hk
    rw [hj, hself, ← hk]
    exact ⟨_, rfl, rfl, rfl⟩
  · rw [hother j hj]
    exact ⟨k, hk, rfl, rfl⟩

/-- The map loses an event. -/
theorem lookup_of_mapDelete {name eventName : String} {set : Nat}
    (h : (mapDelete s.eventSubscriptions eventName).lookup name = some set) :
    s.eventSubscriptions.lookup name = some set := by
  rw [lookup_mapDelete] at h
  split at h
  · cases h
  · exact h

/-- What the function that unsubscribes does: the event is not in the map,
its set becomes empty, or it does not. -/
theorem unsubscribe_cases {i : Nat} (hstep : s.unsubscribe i = some s') :
    ∃ l, s.listeners[i]? = some l ∧
      ((s.eventSubscriptions.lookup l.eventName = none ∧ s' = s.retire i)
        ∨ ∃ set, s.eventSubscriptions.lookup l.eventName = some set ∧
          ((((s.retire i).delete i set).isEmpty set = true
              ∧ s' = ((s.retire i).delete i set).forgetEvent l.eventName)
            ∨ (((s.retire i).delete i set).isEmpty set = false
              ∧ s' = (s.retire i).delete i set))) := by
  unfold EventConn.unsubscribe at hstep
  cases hl : s.listeners[i]? with
  | none =>
      rw [hl] at hstep
      cases hstep
  | some l =>
      rw [hl] at hstep
      dsimp only at hstep
      refine ⟨l, rfl, ?_⟩
      have hretire : (s.retire i).eventSubscriptions = s.eventSubscriptions :=
        rfl
      rw [hretire] at hstep
      cases hlookup : s.eventSubscriptions.lookup l.eventName with
      | none =>
          rw [hlookup] at hstep
          exact .inl ⟨rfl, (Option.some.inj hstep).symm⟩
      | some set =>
          rw [hlookup] at hstep
          refine .inr ⟨set, rfl, ?_⟩
          dsimp only at hstep
          by_cases hempty : ((s.retire i).delete i set).isEmpty set = true
          · rw [if_pos hempty] at hstep
            exact .inl ⟨hempty, (Option.some.inj hstep).symm⟩
          · rw [if_neg hempty] at hstep
            exact .inr ⟨Bool.eq_false_iff.2 hempty,
              (Option.some.inj hstep).symm⟩

theorem unsubscribe_dispatching {i : Nat}
    (hstep : s.unsubscribe i = some s') :
    s'.dispatching = s.dispatching := by
  obtain ⟨l, hl, ⟨hlookup, rfl⟩ | ⟨set, hlookup, hcases⟩⟩ :=
    unsubscribe_cases hstep
  · rfl
  · rcases hcases with ⟨hempty, rfl⟩ | ⟨hempty, rfl⟩
    · unfold forgetEvent
      rw [sendSubscription_eq]
      rfl
    · rfl

/-- A listener whose event is not in the map. -/
theorem retire_listeners (s : EventConn) {i : Nat} {l : Listener}
    (hl : s.listeners[i]? = some l) :
    (s.retire i).listeners[i]? = some { l with removed := true }
      ∧ ∀ j, j ≠ i → (s.retire i).listeners[j]? = s.listeners[j]? := by
  unfold retire
  constructor
  · rw [Lists.getElem?_modify_self, hl]
    rfl
  · intro j hj
    rw [Lists.getElem?_modify_of_ne _ hj]

/-- The function that unsubscribes. -/
theorem RegistryInv.unsubscribe (h : s.RegistryInv spare) {i : Nat}
    (hstep : s.unsubscribe i = some s') : s'.RegistryInv spare := by
  obtain ⟨l, hl, ⟨hlookup, rfl⟩ | ⟨set, hlookup, hcases⟩⟩ :=
    unsubscribe_cases hstep
  · obtain ⟨hself, hother⟩ := s.retire_listeners hl
    have hdrop := h.drop hl hself hother rfl rfl rfl (by rw [hlookup]; simp)
      (fun hne : l.set ≠ l.set => absurd rfl hne) rfl rfl
    refine hdrop.mono ?_
    rintro name set hname - (hin | rfl)
    · exact hin
    · -- the set of the listener is not in the map
      rw [h.named i l name hl hname] at hname
      have hnone : s.eventSubscriptions.lookup l.eventName = some l.set :=
        hname
      rw [hlookup] at hnone
      cases hnone
  · have hset : s.eventSubscriptions.lookup l.eventName = some l.set →
        set = l.set := by
      intro hsame
      rw [hlookup] at hsame
      injection hsame
    have hdropped := h.dropped hl hset
    rcases hcases with ⟨hempty, rfl⟩ | ⟨hempty, rfl⟩
    · unfold forgetEvent
      rw [sendSubscription_eq]
      refine RegistryInv.forget hdropped hempty (Or.inr hlookup) ?_ rfl rfl rfl
      intro name hname
      exact h.distinct name l.eventName set hname hlookup
    · refine hdropped.mono ?_
      rintro name set' - hempty' (hin | rfl)
      · exact hin
      · rw [hempty] at hempty'
        cases hempty'

theorem FrameInv.unsubscribe (h : s.FrameInv) {i : Nat}
    (hstep : s.unsubscribe i = some s') : s'.FrameInv := by
  obtain ⟨l, hl, ⟨hlookup, rfl⟩ | ⟨set, hlookup, hcases⟩⟩ :=
    unsubscribe_cases hstep
  · obtain ⟨hself, hother⟩ := s.retire_listeners hl
    refine h.of_listeners rfl (Nat.le_refl _) (fun _ _ _ hn => hn) ?_
    intro j k hk
    by_cases hj : j = i
    · rw [hj, hl] at hk
      injection hk with hk
      rw [hj, hself, ← hk]
      exact ⟨_, rfl, rfl, rfl⟩
    · rw [hother j hj]
      exact ⟨k, hk, rfl, rfl⟩
  · have hframe : ((s.retire i).delete i set).FrameInv :=
      h.of_listeners rfl (Nat.le_refl _) (fun _ _ _ hn => hn)
        (s.drop_kept hl set)
    rcases hcases with ⟨hempty, rfl⟩ | ⟨hempty, rfl⟩
    · unfold forgetEvent
      rw [sendSubscription_eq]
      refine hframe.of_listeners rfl (Nat.le_refl _) ?_ ?_
      · exact fun name set' _ hname => lookup_of_mapDelete hname
      · exact fun j k hk => ⟨k, hk, rfl, rfl⟩
    · exact hframe

theorem HeardInv.unsubscribe (h : s.HeardInv) {i : Nat}
    (hstep : s.unsubscribe i = some s') : s'.HeardInv := by
  obtain ⟨l, hl, ⟨hlookup, rfl⟩ | ⟨set, hlookup, hcases⟩⟩ :=
    unsubscribe_cases hstep
  · exact h.congr rfl rfl rfl fun name => Iff.rfl
  · rcases hcases with ⟨hempty, rfl⟩ | ⟨hempty, rfl⟩
    · unfold forgetEvent
      rw [sendSubscription_eq]
      refine h.send l.eventName false rfl ?_ rfl ?_
      · exact @sendSubscription_toServer s
          { (s.retire i).delete i set with
            eventSubscriptions :=
              mapDelete s.eventSubscriptions l.eventName }
          rfl rfl l.eventName false
      · intro name
        refine (known_mapDelete rfl).trans ?_
        by_cases hname : name = l.eventName
        · simp [hname]
        · rw [if_neg hname]
          exact and_iff_right hname
    · exact h.congr rfl rfl rfl fun name => Iff.rfl

-- =========================================================== dispatching

theorem mem_snapshot {set i : Nat} : i ∈ s.snapshot set
    ↔ ∃ l, s.listeners[i]? = some l ∧ l.set = set ∧ l.present = true := by
  unfold snapshot
  rw [List.mem_filter, List.mem_range, Option.any_eq_true]
  constructor
  · intro hgiven
    obtain ⟨-, l, hl, hboth⟩ := hgiven
    exact ⟨l, hl, by simpa using hboth⟩
  · intro hgiven
    obtain ⟨l, hl, hset, hpresent⟩ := hgiven
    refine ⟨(List.getElem?_eq_some_iff.1 hl).1, l, hl, ?_⟩
    simp [hset, hpresent]

/-- An event is received. -/
theorem SubscriptionsInv.dispatchEvent (h : s.SubscriptionsInv) {name : String}
    (hstep : s.dispatchEvent name = some s') : s'.SubscriptionsInv := by
  unfold EventConn.dispatchEvent at hstep
  split at hstep
  case isFalse => cases hstep
  case isTrue hidle =>
    cases hlookup : s.eventSubscriptions.lookup name with
    | none =>
        rw [hlookup] at hstep
        cases hstep
        exact h
    | some set =>
        rw [hlookup] at hstep
        cases hstep
        have hsome : s.snapshot set ≠ [] := by
          intro hnone
          have hempty : s.isEmpty set = true := by
            rw [isEmpty_iff]
            intro i l hl hset
            by_cases hpresent : l.present = true
            · have hin := mem_snapshot.2 ⟨l, hl, hset, hpresent⟩
              rw [hnone] at hin
              cases hin
            · simpa using hpresent
          obtain ⟨f, hf, -⟩ := h.registry.nonempty name set hlookup hempty
          rw [hidle] at hf
          cases hf
        unfold callNext
        rw [if_neg hsome]
        refine ⟨?_, ?_, ?_⟩
        · refine RegistryInv.congr (h.registry.mono ?_) rfl rfl rfl
          rintro name' set' - - ⟨f, hf, -⟩
          rw [hidle] at hf
          cases hf
        · intro f hf
          cases hf
          refine ⟨hsome, ?_, h.registry.allocated name set hlookup, ?_⟩
          · intro name' hname'
            exact h.registry.distinct name' name set hname' hlookup
          · intro i hi
            obtain ⟨l, hl, hset, -⟩ := mem_snapshot.1 hi
            refine ⟨l, hl, hset, ?_⟩
            refine (h.registry.named i l name hl ?_).symm
            rw [hset, hlookup]
        · exact h.heard.congr rfl rfl rfl fun _ => Iff.rfl

/-- What the call of a listener leaves: the set of the dispatch may have
become empty. -/
theorem SubscriptionsInv.afterCall (h : s.SubscriptionsInv) {i set : Nat}
    {l : Listener} (hl : s.listeners[i]? = some l) (hset : l.set = set) :
    ((s.afterCall i l set).RegistryInv fun set' =>
        s.InDispatch set' ∨ set' = set)
      ∧ (s.afterCall i l set).FrameInv ∧ (s.afterCall i l set).HeardInv := by
  unfold EventConn.afterCall
  by_cases honce : l.once = true
  · rw [if_pos honce]
    refine ⟨h.registry.dropped hl fun _ => hset.symm, ?_, ?_⟩
    · exact h.frame.of_listeners rfl (Nat.le_refl _) (fun _ _ _ hn => hn)
        (s.drop_kept hl set)
    · exact h.heard.congr rfl rfl rfl fun _ => Iff.rfl
  · rw [if_neg honce]
    exact ⟨h.registry.mono fun _ _ _ _ hin => Or.inl hin, h.frame, h.heard⟩

theorem afterCall_rest (s : EventConn) (i : Nat) (l : Listener) (set : Nat) :
    (s.afterCall i l set).dispatching = s.dispatching
      ∧ (s.afterCall i l set).eventSubscriptions = s.eventSubscriptions
      ∧ (s.afterCall i l set).heard = s.heard := by
  unfold afterCall
  split <;> exact ⟨rfl, rfl, rfl⟩

/-- A dispatch ends. -/
theorem subscriptionsInv_endDispatch {t : EventConn} {frame : DispatchFrame}
    (hregistry : t.RegistryInv fun set => set = frame.set)
    (hnames : ∀ name, t.eventSubscriptions.lookup name = some frame.set →
      name = frame.name)
    (hheard : t.HeardInv)
    (hsafe : t.isEmpty frame.set = true →
      t.eventSubscriptions.lookup frame.name = none
        ∨ t.eventSubscriptions.lookup frame.name = some frame.set
          ∧ frame.name ∉ t.heard) : (t.endDispatch frame).SubscriptionsInv := by
  have hframe : (t.endDispatch frame).FrameInv := fun f hf => by cases hf
  unfold endDispatch at hframe ⊢
  by_cases hempty : t.isEmpty frame.set = true
  · simp only [hempty, if_true] at hframe ⊢
    have hregistry' : RegistryInv (fun _ => False) { t with
        dispatching := none
        eventSubscriptions :=
          mapDelete t.eventSubscriptions frame.name } := by
      have hspare : t.RegistryInv fun set' => False ∨ set' = frame.set :=
        hregistry.mono fun _ _ _ _ hset => Or.inr hset
      exact hspare.forget hempty ((hsafe hempty).imp id And.left) hnames
        rfl rfl rfl
    refine ⟨hregistry'.mono fun _ _ _ _ hfalse => hfalse.elim, hframe, ?_⟩
    rcases hsafe hempty with hnone | ⟨-, hnot⟩
    · refine hheard.congr rfl rfl rfl fun name => ?_
      refine (known_mapDelete rfl).trans (and_iff_right_of_imp ?_)
      rintro ⟨set, hset⟩ rfl
      rw [hnone] at hset
      cases hset
    · exact hheard.forget rfl rfl rfl hnot fun name => known_mapDelete rfl
  · simp only [hempty] at hframe ⊢
    refine ⟨?_, hframe, hheard.congr rfl rfl rfl fun _ => Iff.rfl⟩
    refine RegistryInv.congr (hregistry.mono ?_) rfl rfl rfl
    rintro name set - hempty' rfl
    exact absurd hempty' hempty

/-- The listener that is being called returns. -/
theorem SubscriptionsInv.returned (h : s.SubscriptionsInv)
    (hsafe : s.SubscriptionSafe .returned) (hstep : s.returned = some s') :
    s'.SubscriptionsInv := by
  unfold EventConn.returned at hstep
  split at hstep
  case h_2 => cases hstep
  case h_1 name set i rest hdispatching =>
    obtain ⟨-, hnames, hlt, hcalled⟩ := h.frame _ hdispatching
    obtain ⟨l, hl, hset, -⟩ := hcalled i List.mem_cons_self
    rw [hl] at hstep
    cases hstep
    obtain ⟨hregistry, hframe, hheard⟩ := h.afterCall hl hset
    obtain ⟨hsame, hmap, hsameHeard⟩ := s.afterCall_rest i l set
    have hin : ∀ set', s.InDispatch set' ↔ set' = set := by
      intro set'
      constructor
      · intro hgiven
        obtain ⟨f, hf, rfl⟩ := hgiven
        rw [hdispatching] at hf
        cases hf
        rfl
      · rintro rfl
        exact ⟨_, hdispatching, rfl⟩
    have hspare : (s.afterCall i l set).RegistryInv fun set' => set' = set := by
      refine hregistry.mono ?_
      rintro name' set' - - (hin' | hset')
      · exact (hin set').1 hin'
      · exact hset'
    unfold callNext
    dsimp only
    by_cases hrest : rest = []
    · rw [if_pos hrest]
      refine subscriptionsInv_endDispatch hspare ?_ hheard ?_
      · rw [hmap]
        exact hnames
      · rw [hmap, hsameHeard]
        intro hempty
        exact hsafe name set i l (hrest ▸ hdispatching) hl hempty
    · rw [if_neg hrest]
      obtain ⟨-, hnames', hlt', hcalled'⟩ :=
        hframe _ (hsame.trans hdispatching)
      refine ⟨?_, ?_, hheard.congr rfl rfl rfl fun _ => Iff.rfl⟩
      · refine RegistryInv.congr (hspare.mono ?_) rfl rfl rfl
        rintro name' set' - - rfl
        exact ⟨_, rfl, rfl⟩
      · intro f hf
        cases hf
        exact ⟨hrest, hnames', hlt', fun j hj =>
          hcalled' j (List.mem_cons_of_mem i hj)⟩

/-- It throws. -/
theorem SubscriptionsInv.threw (h : s.SubscriptionsInv)
    (hsafe : s.SubscriptionSafe .threw) (hstep : s.threw = some s') :
    s'.SubscriptionsInv := by
  unfold EventConn.threw at hstep
  split at hstep
  case h_2 => cases hstep
  case h_1 frame hdispatching =>
    cases hstep
    obtain ⟨-, hnames, -, -⟩ := h.frame frame hdispatching
    refine ⟨?_, fun f (hf : none = some f) => (by cases hf),
      h.heard.congr rfl rfl rfl fun _ => Iff.rfl⟩
    refine RegistryInv.congr (h.registry.mono ?_) rfl rfl rfl
    rintro name set hset hempty ⟨f, hf, rfl⟩
    rw [hdispatching] at hf
    injection hf with hf
    rw [← hf] at hset hempty
    have hname := hnames name hset
    rw [hname] at hset
    exact absurd hset (hsafe frame hdispatching hempty)

-- ============================================================ the machine

/-- Every guarded step keeps the invariant. -/
theorem subscriptionsInv_step {a : EventStep} (h : s.SubscriptionsInv)
    (hsafe : s.SubscriptionSafe a) (hstep : eventStep s a = some s') :
    s'.SubscriptionsInv := by
  cases a with
  | addEventSubscription eventName once =>
      cases hstep
      refine ⟨?_, h.frame.add eventName once, h.heard.add eventName once⟩
      have hregistry := h.registry.add eventName once
      unfold InDispatch at hregistry ⊢
      rw [s.add_dispatching]
      exact hregistry
  | unsubscribe i =>
      have hdispatching := unsubscribe_dispatching hstep
      refine ⟨?_, h.frame.unsubscribe hstep, h.heard.unsubscribe hstep⟩
      have hregistry := h.registry.unsubscribe hstep
      unfold InDispatch at hregistry ⊢
      rw [hdispatching]
      exact hregistry
  | dispatchEvent name => exact h.dispatchEvent hstep
  | returned => exact h.returned hsafe hstep
  | threw => exact h.threw hsafe hstep
  | serverReceive =>
      simp only [eventStep, serverReceive] at hstep
      split at hstep
      case h_2 => cases hstep
      case h_1 m rest htoServer =>
        cases hstep
        refine ⟨h.registry.congr rfl rfl rfl, h.frame, ?_⟩
        have hheard : heard { s with
            toServer := rest, server := serverApply s.server m } = s.heard := by
          unfold EventConn.heard
          rw [htoServer]
          rfl
        refine ⟨nodup_serverApply h.heard.nodup m, ?_, ?_, ?_⟩
        · rw [hheard]
          exact h.heard.ready
        · rw [hheard]
          exact h.heard.opened
        · rw [hheard]
          exact h.heard.disconnected
  | connect =>
      simp only [eventStep, connect] at hstep
      split at hstep <;> cases hstep
      refine ⟨h.registry.congr rfl rfl rfl, h.frame, ?_⟩
      refine ⟨List.nodup_nil, ?_, ?_, ?_⟩
      · exact fun hready => by cases hready
      · exact fun _ name hmem => by cases hmem
      · exact fun hdown => by cases hdown
  | handleOnOpen =>
      simp only [eventStep, handleOnOpen] at hstep
      split at hstep
      case isFalse => cases hstep
      case isTrue hopened =>
        cases hstep
        refine ⟨h.registry.congr rfl rfl rfl, h.frame, ?_⟩
        refine ⟨h.heard.nodup, ?_, ?_, ?_⟩
        · intro _ name
          have hheard : heard { s with
              phase := .ready
              toServer := s.toServer
                ++ s.eventSubscriptions.map fun entry => ⟨entry.1, true⟩ }
              = ((s.eventSubscriptions.map (·.1)).map fun n =>
                  SubscriptionRequest.mk n true).foldl serverApply s.heard := by
            rw [List.map_map]
            exact List.foldl_append
          rw [hheard, mem_foldl_subscribe _ _ _ h.heard.heard_nodup,
            mem_keys_iff]
          exact or_iff_right_of_imp (h.heard.opened hopened.1 name)
        · exact fun hphase => by cases hphase
        · exact fun hphase => by cases hphase
  | disconnect =>
      simp only [eventStep, disconnect] at hstep
      split at hstep <;> cases hstep
      refine ⟨h.registry.congr rfl rfl rfl, h.frame, ?_⟩
      refine ⟨List.nodup_nil, ?_, ?_, fun _ => rfl⟩
      · exact fun hready => by cases hready
      · exact fun hopened => by cases hopened

/-- And so does every guarded run. -/
theorem subscriptionsInv_reaches
    (h : eventSystem.Reaches SubscriptionSafe s) : s.SubscriptionsInv := by
  refine System.Reaches.invariant (P := SubscriptionsInv) ?_ ?_ h
  · rintro s rfl
    have hnone : ∀ (i : Nat) (l : Listener),
        ({} : EventConn).listeners[i]? ≠ some l := by
      intro i l hl
      cases hl
    refine ⟨?_, fun f hf => (by cases hf), ?_⟩
    · constructor
      · exact fun name set hset => by cases hset
      · exact fun name name' set hset => by cases hset
      · exact fun i l hl => absurd hl (hnone i l)
      · exact fun i l name hl => absurd hl (hnone i l)
      · exact fun i l hl => absurd hl (hnone i l)
      · exact fun name set hset => by cases hset
    · refine ⟨List.nodup_nil, ?_, ?_, fun _ => rfl⟩
      · exact fun hready => by cases hready
      · exact fun hopened => by cases hopened
  · intro s a s' _ hinv hsafe hstep
    exact subscriptionsInv_step hinv hsafe hstep

end EventConn

open EventConn

/-- In every run whose steps are `SubscriptionSafe`, the two ends agree. -/
theorem subscriptions_agree {s : EventConn}
    (h : eventSystem.Reaches SubscriptionSafe s) : s.Agreement :=
  (subscriptionsInv_reaches h).agreement

/-- A one-time listener beside one that stays, and its event. -/
def onceRun : List EventStep :=
  [.connect, .handleOnOpen, .addEventSubscription "newCount" false,
    .addEventSubscription "newCount" true, .serverReceive,
    .dispatchEvent "newCount", .returned, .returned]

/-- The guard admits that run: the set is not empty at its end. -/
theorem subscriptions_agree_once :
    ∃ s, eventSystem.run {} onceRun = some s
      ∧ s.server = ["newCount"] ∧ s.Agreement := by
  refine ⟨_, rfl, by decide, @subscriptions_agree _
    (System.Reaches.run onceRun (.init rfl) ?_ rfl)⟩
  refine ⟨trivial, trivial, trivial, trivial, trivial, trivial, ?_, ?_, trivial⟩
  · intro name set i l hframe
    cases hframe
  · intro name set i l hframe hl hempty
    cases hframe
    cases hl
    exact absurd hempty (by decide)

/-- The only listener of an event is one-time: the server is never told that
it is gone. -/
theorem subscriptions_disagree :
    ¬ ∀ s : EventConn, eventSystem.Reachable s → s.Agreement := by
  intro hall
  have h := hall _ (System.Reachable.run
    [.connect, .handleOnOpen, .addEventSubscription "newCount" true,
      .serverReceive, .dispatchEvent "newCount", .returned] (.init rfl) rfl)
  obtain ⟨l, hmem, -, hremoved⟩ := (h rfl rfl rfl "newCount").1 (by decide)
  rw [List.mem_singleton.1 hmem] at hremoved
  cases hremoved

end RivetKit.Client
