/-
The index of subscriptions, the connection map and the persisted lists of
an instance agree in every run in which a `subscribe` finds its connection
in the map (`subscriptions_indexed`), from a record without duplicates.

`#addSubscription` does not look whether its connection has been removed
(`subscriptions_not_indexed`), and `#removeSubscription` of a removed one
finds nothing left in the index.

# The invariant

`SubscriptionInv` orders what the contract says up to order: the persisted
list is the map's, entry for entry, and a persisted subscription list is
the connection's own. `refs` stands for the persisted list, which is there
at once when the connections are restored one by one.
-/
import RivetKit.Actor.SubscriptionIndex
import RivetKit.Actor.Proofs.Maps
import RivetKit.Actor.Proofs.Metadata
import RivetKit.Lib.Lists
import Mathlib.Data.List.Nodup

namespace RivetKit.Actor

open Transition
open Js

variable {codec : Codec} {opts : ActorOptions}

namespace LiveInstance

-- ============================================================= the index

/-- The subscribers in an index. -/
def members (index : List (String × List Nat)) (eventName : String) :
    List Nat :=
  (index.lookup eventName).getD []

/-- Every set of an index is a set, and has somebody. -/
def IndexShape (index : List (String × List Nat)) : Prop :=
  ∀ entry ∈ index, entry.2 ≠ [] ∧ entry.2.Nodup

theorem IndexShape.of_lookup {index : List (String × List Nat)}
    (h : IndexShape index) {eventName : String} {cs : List Nat}
    (hcs : index.lookup eventName = some cs) : cs ≠ [] ∧ cs.Nodup := by
  obtain ⟨pre, post, heq, -⟩ := List.lookup_eq_some_iff.1 hcs
  exact h (eventName, cs) (by rw [heq]; simp)

theorem IndexShape.members_nodup {index : List (String × List Nat)}
    (h : IndexShape index) (eventName : String) :
    (members index eventName).Nodup := by
  unfold members
  cases hlookup : index.lookup eventName with
  | none => exact List.nodup_nil
  | some cs => exact (h.of_lookup hlookup).2

theorem IndexShape.indexAdd {index : List (String × List Nat)}
    (h : IndexShape index) (eventName : String) (c : Nat) :
    IndexShape (indexAdd index eventName c) := by
  intro entry hmem
  rcases mem_mapSet hmem with hmem | heq
  · exact h entry hmem
  · rw [heq]
    refine ⟨List.ne_nil_of_mem List.mem_insert_self, ?_⟩
    exact List.Nodup.insert (h.members_nodup eventName)

theorem mem_indexAdd {index : List (String × List Nat)}
    {eventName e : String} {c x : Nat} :
    x ∈ members (indexAdd index eventName c) e
      ↔ x ∈ members index e ∨ e = eventName ∧ x = c := by
  unfold members LiveInstance.indexAdd
  rw [lookup_mapSet]
  by_cases he : e = eventName
  · rw [if_pos he, he]
    simp only [Option.getD_some, List.mem_insert_iff, true_and]
    exact or_comm
  · simp [he]

theorem IndexShape.indexDelete {index : List (String × List Nat)}
    (h : IndexShape index) (eventName : String) (c : Nat) :
    IndexShape (indexDelete index eventName c) := by
  unfold LiveInstance.indexDelete
  split
  case h_1 cs hcs =>
    dsimp only
    split
    case isTrue =>
      intro entry hmem
      exact h entry (mem_mapDelete.1 hmem).1
    case isFalse hempty =>
      intro entry hmem
      rcases mem_mapSet hmem with hmem | heq
      · exact h entry hmem
      · rw [heq]
        exact ⟨by simpa using hempty, (h.of_lookup hcs).2.erase c⟩
  case h_2 => exact h

theorem mem_indexDelete {index : List (String × List Nat)}
    (h : IndexShape index) {eventName e : String} {c x : Nat} :
    x ∈ members (indexDelete index eventName c) e
      ↔ x ∈ members index e ∧ ¬ (e = eventName ∧ x = c) := by
  unfold members LiveInstance.indexDelete
  split
  case h_1 cs hcs =>
    have herase : x ∈ cs.erase c ↔ x ∈ cs ∧ x ≠ c := by
      rw [(h.of_lookup hcs).2.mem_erase_iff]
      exact and_comm
    dsimp only
    split
    case isTrue hempty =>
      rw [lookup_mapDelete]
      by_cases he : e = eventName
      · rw [List.isEmpty_iff.1 hempty] at herase
        rw [if_pos he, he, hcs]
        simpa using herase
      · simp [he]
    case isFalse =>
      rw [lookup_mapSet]
      by_cases he : e = eventName
      · rw [if_pos he, he, hcs]
        simpa using herase
      · simp [he]
  case h_2 hnone =>
    constructor
    · intro hx
      refine ⟨hx, ?_⟩
      intro hgiven
      obtain ⟨rfl, -⟩ := hgiven
      rw [hnone] at hx
      cases hx
    · exact And.left

/-- All events of one connection, added. -/
theorem foldl_indexAdd (es : List String) (c : Nat) :
    ∀ index : List (String × List Nat), IndexShape index →
      IndexShape (es.foldl (fun index e => indexAdd index e c) index)
      ∧ ∀ e x, x ∈ members (es.foldl (fun index e => indexAdd index e c)
            index) e
          ↔ x ∈ members index e ∨ e ∈ es ∧ x = c := by
  induction es with
  | nil => exact fun index h => ⟨h, fun e x => by simp⟩
  | cons eventName es ih =>
      intro index h
      obtain ⟨hshape, hmem⟩ := ih _ (h.indexAdd eventName c)
      refine ⟨hshape, ?_⟩
      intro e x
      rw [List.foldl_cons, hmem, mem_indexAdd, List.mem_cons]
      constructor
      · rintro ((h | ⟨he, hx⟩) | ⟨he, hx⟩)
        · exact Or.inl h
        · exact Or.inr ⟨Or.inl he, hx⟩
        · exact Or.inr ⟨Or.inr he, hx⟩
      · rintro (h | ⟨he | he, hx⟩)
        · exact Or.inl (Or.inl h)
        · exact Or.inl (Or.inr ⟨he, hx⟩)
        · exact Or.inr ⟨he, hx⟩

/-- All events of one connection, deleted. -/
theorem foldl_indexDelete (es : List String) (c : Nat) :
    ∀ index : List (String × List Nat), IndexShape index →
      IndexShape (es.foldl (fun index e => indexDelete index e c) index)
      ∧ ∀ e x, x ∈ members (es.foldl (fun index e => indexDelete index e c)
            index) e
          ↔ x ∈ members index e ∧ ¬ (e ∈ es ∧ x = c) := by
  induction es with
  | nil => exact fun index h => ⟨h, fun e x => by simp⟩
  | cons eventName es ih =>
      intro index h
      obtain ⟨hshape, hmem⟩ := ih _ (h.indexDelete eventName c)
      refine ⟨hshape, ?_⟩
      intro e x
      rw [List.foldl_cons, hmem, mem_indexDelete h, List.mem_cons]
      constructor
      · intro hgiven
        obtain ⟨⟨h, hne⟩, hnot⟩ := hgiven
        refine ⟨h, ?_⟩
        intro hgiven
        obtain ⟨he | he, hx⟩ := hgiven
        · exact hne ⟨he, hx⟩
        · exact hnot ⟨he, hx⟩
      · intro hgiven
        obtain ⟨h, hnot⟩ := hgiven
        exact ⟨⟨h, fun hne => hnot ⟨Or.inl hne.1, hne.2⟩⟩,
          fun hin => hnot ⟨Or.inr hin.1, hin.2⟩⟩

-- ======================================================== the invariant

/-- What the invariant reads of the connection objects: the id and the
subscriptions of each. -/
def views (p : PersistedActor) : List (String × List String) :=
  p.connObjects.map fun p => (p.connId, p.subscriptions)

/-- The object of the `Conn` `c`. -/
def refOf (s : LiveInstance) (c : Nat) : Nat :=
  (s.conns[c]?.map (·.persist)).getD 0

/-- The structures agree, entry for entry. -/
structure SubscriptionInv (refs : List Nat) (s : LiveInstance) : Prop where
  ids : ((views s.persistRaw).map (·.1)).Nodup
  own : (s.conns.map (·.persist)).Nodup
  object : ∀ (c : Nat) (conn : Conn), s.conns[c]? = some conn →
    (∃ id, (views s.persistRaw)[conn.persist]?
        = some (id, conn.subscriptions))
      ∧ conn.subscriptions.Nodup
  entry : ∀ (id : String) (c : Nat), (id, c) ∈ s.connections →
    ∃ (conn : Conn) (subs : List String), s.conns[c]? = some conn
      ∧ (views s.persistRaw)[conn.persist]? = some (id, subs)
  keys : (s.connections.map (·.1)).Nodup
  listed : refs = s.connections.map fun entry => s.refOf entry.2
  indexed : ∀ e c, c ∈ members s.subscriptionIndex e
    ↔ s.InMap c ∧ e ∈ s.subscriptionsOf c
  shape : IndexShape s.subscriptionIndex

variable {refs : List Nat} {s s' : LiveInstance}

/-- It reads five things. -/
theorem SubscriptionInv.congr (h : SubscriptionInv refs s)
    (hviews : views s'.persistRaw = views s.persistRaw)
    (hconns : s'.conns = s.conns)
    (hconnections : s'.connections = s.connections)
    (hindex : s'.subscriptionIndex = s.subscriptionIndex) :
    SubscriptionInv refs s' where
  ids := by rw [hviews]; exact h.ids
  own := by rw [hconns]; exact h.own
  object := by rw [hconns, hviews]; exact h.object
  entry := by rw [hconns, hviews, hconnections]; exact h.entry
  keys := by rw [hconnections]; exact h.keys
  listed := by
    unfold refOf
    rw [hconnections, hconns]
    exact h.listed
  indexed := by
    unfold InMap subscriptionsOf
    rw [hindex, hconnections, hconns]
    exact h.indexed
  shape := by rw [hindex]; exact h.shape

/-- Two objects with one id are one. -/
theorem SubscriptionInv.eq_of_id (h : SubscriptionInv refs s) {i j : Nat}
    {id : String} {a b : List String}
    (hi : (views s.persistRaw)[i]? = some (id, a))
    (hj : (views s.persistRaw)[j]? = some (id, b)) : i = j := by
  have hlt : i < ((views s.persistRaw).map (·.1)).length := by
    rw [List.length_map]
    exact (List.getElem?_eq_some_iff.1 hi).1
  refine (List.getElem?_inj hlt h.ids).1 ?_
  rw [List.getElem?_map, List.getElem?_map, hi, hj]
  rfl

/-- And so are two `Conn`s of one object. -/
theorem SubscriptionInv.eq_of_persist (h : SubscriptionInv refs s)
    {c d : Nat} {conn conn' : Conn} (hc : s.conns[c]? = some conn)
    (hd : s.conns[d]? = some conn') (heq : conn.persist = conn'.persist) :
    c = d := by
  have hlt : c < (s.conns.map (·.persist)).length := by
    rw [List.length_map]
    exact (List.getElem?_eq_some_iff.1 hc).1
  refine (List.getElem?_inj hlt h.own).1 ?_
  rw [List.getElem?_map, List.getElem?_map, hc, hd]
  exact congrArg some heq

/-- `conn.id`, read off the view. -/
theorem connId_of_view {conn : Conn} {id : String} {subs : List String}
    (hview : (views s.persistRaw)[conn.persist]? = some (id, subs)) :
    s.connId conn = id := by
  unfold views at hview
  rw [List.getElem?_map] at hview
  obtain ⟨p, hp, heq⟩ := Option.map_eq_some_iff.1 hview
  unfold connId
  rw [hp]
  exact congrArg Prod.fst heq

/-- An entry with the id of a connection is that connection. -/
theorem SubscriptionInv.entry_of_id (h : SubscriptionInv refs s)
    {c d : Nat} {conn : Conn} (hconn : s.conns[c]? = some conn)
    (hmem : (s.connId conn, d) ∈ s.connections) : d = c := by
  obtain ⟨⟨id, hview⟩, -⟩ := h.object c conn hconn
  obtain ⟨conn', subs, hconn', hview'⟩ := h.entry _ d hmem
  rw [connId_of_view hview] at hview'
  exact h.eq_of_persist hconn' hconn (h.eq_of_id hview' hview)

-- ========================================================== the contract

/-- With the persisted list for `refs`, the invariant gives the
contract. -/
theorem SubscriptionInv.contract
    (h : SubscriptionInv s.persistRaw.connections s) : s.Indexed := by
  have hids : s.persistedIds = s.connections.map (·.1) := by
    unfold persistedIds
    rw [h.listed, List.map_map]
    apply List.map_congr_left
    rintro ⟨id, c⟩ hmem
    obtain ⟨conn, subs, hconn, hview⟩ := h.entry id c hmem
    have hid := connId_of_view hview
    unfold connId at hid
    show (s.persistRaw.connObjects[s.refOf c]?.map _).getD "" = id
    unfold refOf
    rw [hconn]
    exact hid
  refine ⟨h.indexed, fun entry hmem => (h.shape entry hmem).1, ?_, ?_, ?_⟩
  · rw [hids]
    exact h.keys
  · intro id
    rw [hids]
  · intro ref hmem
    rw [h.listed] at hmem
    obtain ⟨⟨id, c⟩, hentry, href⟩ := List.mem_map.1 hmem
    obtain ⟨conn, subs, hconn, hview⟩ := h.entry id c hentry
    obtain ⟨⟨id', hview'⟩, hnodup⟩ := h.object c conn hconn
    rw [hview] at hview'
    injection hview' with hview'
    injection hview' with hid hsubs
    have href' : ref = conn.persist := by
      rw [← href]
      show s.refOf c = _
      unfold refOf
      rw [hconn]
      rfl
    unfold views at hview
    rw [List.getElem?_map] at hview
    obtain ⟨p, hp, hpair⟩ := Option.map_eq_some_iff.1 hview
    injection hpair with hpid hpsubs
    refine ⟨p, c, by rw [href', hp], by rw [hpid]; exact hentry, ?_, ?_⟩
    · rw [hpsubs, hsubs]
      exact hnodup
    · intro e
      unfold subscriptionsOf
      rw [hconn, hpsubs, hsubs]
      rfl

-- ================================================================ restore

/-- The events of a restored connection, registered one by one. -/
theorem foldl_addSubscription {c : Nat} (es : List String) :
    ∀ (s : LiveInstance) (conn : Conn), s.conns[c]? = some conn →
      es.Nodup → (∀ e ∈ es, e ∉ conn.subscriptions) →
      es.foldl (fun s e => s.addSubscription opts e c true) s
        = { s with
            conns := s.conns.modify c fun conn =>
              { conn with subscriptions := conn.subscriptions ++ es }
            subscriptionIndex :=
              es.foldl (fun index e => indexAdd index e c)
                s.subscriptionIndex } := by
  induction es with
  | nil =>
      intro s conn _ _ _
      have hsame : s.conns.modify c (fun conn =>
          { conn with subscriptions := conn.subscriptions ++ [] })
          = s.conns := by
        refine List.ext_getElem? fun i => ?_
        rw [List.getElem?_modify]
        cases s.conns[i]? <;> simp
      rw [hsame]
      rfl
  | cons eventName es ih =>
      intro s conn hconn hnodup hnew
      obtain ⟨hfirst, hrest⟩ := List.nodup_cons.1 hnodup
      have hstep : s.addSubscription opts eventName c true = { s with
          conns := s.conns.modify c fun conn =>
            { conn with subscriptions := conn.subscriptions ++ [eventName] }
          subscriptionIndex :=
            indexAdd s.subscriptionIndex eventName c } := by
        unfold addSubscription
        rw [hconn]
        dsimp only
        rw [if_neg (hnew eventName List.mem_cons_self)]
        rfl
      have hconn' : (s.conns.modify c fun conn =>
          { conn with subscriptions := conn.subscriptions ++ [eventName] })[c]?
          = some { conn with
              subscriptions := conn.subscriptions ++ [eventName] } := by
        rw [List.getElem?_modify_eq, hconn]
        rfl
      rw [List.foldl_cons, hstep, ih _ _ hconn' hrest ?disjoint]
      case disjoint =>
        intro e he hmem
        rcases List.mem_append.1 hmem with hmem | hmem
        · exact hnew e (List.mem_cons_of_mem eventName he) hmem
        · rw [List.mem_singleton.1 hmem] at he
          exact hfirst he
      dsimp only
      rw [List.modify_modify_eq, List.foldl_cons]
      simp only [Function.comp_def, List.append_assoc, List.singleton_append]

/-- A connection is put in the map, with its subscriptions in the index.
The objects may have grown. -/
theorem SubscriptionInv.push (h : SubscriptionInv refs s) {ref : Nat}
    {id : String} {conn : Conn}
    (hfresh : ∀ entry ∈ s.connections, entry.1 ≠ id)
    (hown : ref ∉ s.conns.map (·.persist))
    (hids : ((views s'.persistRaw).map (·.1)).Nodup)
    (hext : ∀ (i : Nat) (v : String × List String),
      (views s.persistRaw)[i]? = some v → (views s'.persistRaw)[i]? = some v)
    (hview : (views s'.persistRaw)[ref]? = some (id, conn.subscriptions))
    (hnodup : conn.subscriptions.Nodup) (href : conn.persist = ref)
    (hconns : s'.conns = s.conns ++ [conn])
    (hconnections : s'.connections = s.connections ++ [(id, s.conns.length)])
    (hindex : s'.subscriptionIndex = conn.subscriptions.foldl
      (fun index e => indexAdd index e s.conns.length) s.subscriptionIndex) :
    SubscriptionInv (refs ++ [ref]) s' := by
  have hold : ∀ (c : Nat) (old : Conn), s.conns[c]? = some old →
      s'.conns[c]? = some old := by
    intro c old hc
    rw [hconns, List.getElem?_append_left (List.getElem?_eq_some_iff.1 hc).1]
    exact hc
  have hnew : s'.conns[s.conns.length]? = some conn := by
    rw [hconns, List.getElem?_concat_length]
  have hentries : ∀ (k : String) (c : Nat), (k, c) ∈ s'.connections ↔
      (k, c) ∈ s.connections ∨ k = id ∧ c = s.conns.length := by
    intro k c
    rw [hconnections, List.mem_append, List.mem_singleton, Prod.mk.injEq]
  have hlt : ∀ (k : String) (c : Nat), (k, c) ∈ s.connections →
      c < s.conns.length := by
    intro k c hmem
    obtain ⟨old, subs, hc, -⟩ := h.entry k c hmem
    exact (List.getElem?_eq_some_iff.1 hc).1
  obtain ⟨hshape, hmembers⟩ :=
    foldl_indexAdd conn.subscriptions s.conns.length s.subscriptionIndex h.shape
  constructor
  case ids => exact hids
  case own =>
    rw [hconns, List.map_append]
    refine h.own.append (List.nodup_singleton _) ?_
    intro r hr hr'
    rw [List.mem_singleton.1 hr'] at hr
    exact hown (href ▸ hr)
  case object =>
    intro c conn' hc
    by_cases hclt : c < s.conns.length
    · rw [hconns, List.getElem?_append_left hclt] at hc
      obtain ⟨⟨k, hk⟩, hn⟩ := h.object c conn' hc
      exact ⟨⟨k, hext _ _ hk⟩, hn⟩
    · have hlast : c = s.conns.length := by
        have := (List.getElem?_eq_some_iff.1 hc).1
        rw [hconns, List.length_append, List.length_singleton] at this
        omega
      rw [hlast, hnew] at hc
      injection hc with hc
      rw [← hc, href]
      exact ⟨⟨id, hview⟩, hnodup⟩
  case entry =>
    intro k c hmem
    rcases (hentries k c).1 hmem with hmem | ⟨rfl, rfl⟩
    · obtain ⟨old, subs, hc, hk⟩ := h.entry k c hmem
      exact ⟨old, subs, hold c old hc, hext _ _ hk⟩
    · exact ⟨conn, conn.subscriptions, hnew, by rw [href]; exact hview⟩
  case keys =>
    rw [hconnections, List.map_append]
    refine h.keys.append (List.nodup_singleton _) ?_
    intro k hk hk'
    obtain ⟨entry, hentry, rfl⟩ := List.mem_map.1 hk
    exact hfresh entry hentry (List.mem_singleton.1 hk')
  case listed =>
    rw [hconnections, List.map_append, h.listed]
    have hsame : ∀ entry ∈ s.connections,
        s.refOf entry.2 = s'.refOf entry.2 := by
      rintro ⟨k, c⟩ hmem
      obtain ⟨old, subs, hc, -⟩ := h.entry k c hmem
      unfold refOf
      rw [hc, hold c old hc]
    have hlast : s'.refOf s.conns.length = ref := by
      unfold refOf
      rw [hnew]
      exact href
    rw [List.map_congr_left hsame, List.map_singleton, hlast]
  case indexed =>
    intro e c
    rw [hindex, hmembers, h.indexed]
    have hmap : s'.InMap c ↔ s.InMap c ∨ c = s.conns.length := by
      unfold InMap
      constructor
      · intro hgiven
        obtain ⟨k, hk⟩ := hgiven
        rcases (hentries k c).1 hk with hk | ⟨-, hc⟩
        · exact Or.inl ⟨k, hk⟩
        · exact Or.inr hc
      · rintro (⟨k, hk⟩ | hc)
        · exact ⟨k, (hentries k c).2 (Or.inl hk)⟩
        · exact ⟨id, (hentries id c).2 (Or.inr ⟨rfl, hc⟩)⟩
    by_cases hc : c = s.conns.length
    · have hnot : ¬ s.InMap s.conns.length := by
        intro hgiven
        obtain ⟨k, hk⟩ := hgiven
        have := hlt k s.conns.length hk
        omega
      have hsubs : s'.subscriptionsOf c = conn.subscriptions := by
        unfold subscriptionsOf
        rw [hc, hnew]
        rfl
      rw [hmap, hsubs]
      simp [hnot, hc]
    · have hsubs : s'.subscriptionsOf c = s.subscriptionsOf c := by
        unfold subscriptionsOf
        by_cases hclt : c < s.conns.length
        · rw [hconns, List.getElem?_append_left hclt]
        · rw [List.getElem?_eq_none (Nat.le_of_not_lt hclt),
            List.getElem?_eq_none]
          rw [hconns, List.length_append, List.length_singleton]
          omega
      rw [hmap, hsubs]
      simp [hc]
  case shape =>
    rw [hindex]
    exact hshape

/-- A restored connection, written out. -/
theorem loadConnection_eq {ref : Nat} {p : PersistedConn}
    (hp : s.persistRaw.connObjects[ref]? = some p)
    (hfresh : ∀ entry ∈ s.connections, entry.1 ≠ p.connId)
    (hnodup : p.subscriptions.Nodup) :
    s.loadConnection opts ref = { s with
      conns := s.conns ++
        [{ persist := ref, proxied := true, subscriptions := p.subscriptions }]
      connections := s.connections ++ [(p.connId, s.conns.length)]
      subscriptionIndex := p.subscriptions.foldl
        (fun index e => indexAdd index e s.conns.length)
        s.subscriptionIndex } := by
  have hid : s.connId { persist := ref, proxied := true } = p.connId := by
    unfold connId
    rw [hp]
    rfl
  unfold loadConnection
  dsimp only
  rw [hp, Option.map_some, Option.getD_some,
    foldl_addSubscription p.subscriptions _ { persist := ref, proxied := true }
      List.getElem?_concat_length hnodup (fun e _ => List.not_mem_nil)]
  dsimp only
  rw [hid, mapSet_of_fresh hfresh, Lists.modify_append_length]
  rfl

/-- Restoring one connection. -/
theorem subscriptionInv_load (h : SubscriptionInv refs s) {ref : Nat}
    {p : PersistedConn} (hp : s.persistRaw.connObjects[ref]? = some p)
    (hown : ref ∉ s.conns.map (·.persist)) (hnodup : p.subscriptions.Nodup) :
    SubscriptionInv (refs ++ [ref]) (s.loadConnection opts ref)
      ∧ (s.loadConnection opts ref).persistRaw = s.persistRaw
      ∧ (s.loadConnection opts ref).conns.map (·.persist)
        = s.conns.map (·.persist) ++ [ref] := by
  have hview : (views s.persistRaw)[ref]?
      = some (p.connId, p.subscriptions) := by
    unfold views
    rw [List.getElem?_map, hp]
    rfl
  have hfresh : ∀ entry ∈ s.connections, entry.1 ≠ p.connId := by
    rintro ⟨k, c⟩ hmem rfl
    obtain ⟨old, subs, hc, hk⟩ := h.entry _ c hmem
    apply hown
    rw [← h.eq_of_id hk hview]
    exact List.mem_map.2 ⟨old, List.mem_of_getElem? hc, rfl⟩
  rw [loadConnection_eq hp hfresh hnodup]
  refine ⟨?_, rfl, List.map_append⟩
  exact h.push hfresh hown h.ids (fun _ _ hv => hv) hview hnodup rfl rfl rfl
    rfl

/-- Restoring the connections of a record in turn. -/
theorem subscriptionInv_loads (rs : List Nat) :
    ∀ (refs : List Nat) (s : LiveInstance), SubscriptionInv refs s →
      s.conns.map (·.persist) = refs → (refs ++ rs).Nodup →
      (∀ ref ∈ rs, ref < s.persistRaw.connObjects.length) →
      (∀ p ∈ s.persistRaw.connObjects, p.subscriptions.Nodup) →
      SubscriptionInv (refs ++ rs) (rs.foldl (loadConnection opts) s) := by
  induction rs with
  | nil =>
      intro refs s h _ _ _ _
      rw [List.append_nil]
      exact h
  | cons ref rs ih =>
      intro refs s h hown hnodup hlt hsubs
      have hp := List.getElem?_eq_getElem (hlt ref List.mem_cons_self)
      have hnot : ref ∉ s.conns.map (·.persist) := by
        rw [hown]
        intro hmem
        exact (List.nodup_append.1 hnodup).2.2 ref hmem ref
          List.mem_cons_self rfl
      obtain ⟨hload, hraw, hpersist⟩ := @subscriptionInv_load opts refs s h
        ref _ hp hnot (hsubs _ (List.getElem_mem _))
      have hassoc : refs ++ ref :: rs = refs ++ [ref] ++ rs := by simp
      rw [List.foldl_cons, hassoc]
      refine ih _ _ hload ?_ (hassoc ▸ hnodup) ?_ ?_
      · rw [hpersist, hown]
      · rw [hraw]
        exact fun r hr => hlt r (List.mem_cons_of_mem ref hr)
      · rw [hraw]
        exact hsubs

/-- An instance with no connection yet. -/
theorem subscriptionInv_start {r : PersistedActor}
    (hids : (r.connObjects.map (·.connId)).Nodup) :
    SubscriptionInv [] { toActorInstance := .initialized r } where
  ids := by
    unfold views
    rw [List.map_map]
    exact hids
  own := List.nodup_nil
  object := fun c conn hc => by cases hc
  entry := fun id c hmem => by cases hmem
  keys := List.nodup_nil
  listed := rfl
  indexed := by
    intro e c
    constructor
    · intro hmem
      cases hmem
    · intro hgiven
      obtain ⟨⟨id, hmem⟩, -⟩ := hgiven
      cases hmem
  shape := fun entry hmem => by cases hmem

/-- `#initialize`. -/
theorem subscriptionInv_restored {r : PersistedActor} (hread : r.AsRead)
    (hdistinct : r.Distinct) (stateData : Value) :
    SubscriptionInv (restored opts r stateData).persistRaw.connections
      (restored opts r stateData) := by
  unfold restored
  by_cases hinit : r.hasInitiated = true
  · have hraw : (initialized opts r).persistRaw = r := by
      rw [initialized_toActorInstance]
      rfl
    have hloads := @subscriptionInv_loads opts r.connections []
      { toActorInstance := .initialized r }
      (subscriptionInv_start hdistinct.ids) rfl ?nodup ?lt
      hdistinct.subscriptions
    case nodup =>
      rw [hread]
      exact List.nodup_range
    case lt =>
      rw [hread]
      exact fun ref hmem => List.mem_range.1 hmem
    rw [if_pos hinit, hraw]
    exact hloads
  · have hnone : r.connections = [] := hdistinct.initiated.resolve_left hinit
    rw [if_neg hinit]
    show SubscriptionInv r.connections _
    rw [hnone]
    exact subscriptionInv_start hdistinct.ids

-- ============================================================= createConn

/-- The id of a view is the id of an object. -/
theorem views_ids (p : PersistedActor) :
    (views p).map (·.1) = p.connObjects.map (·.connId) := by
  unfold views
  rw [List.map_map]
  rfl

theorem subscriptionInv_createConn
    (h : SubscriptionInv s.persistRaw.connections s) {id token : String}
    {params state : Value} {driver : ConnectionDriver}
    {driverState auth : Value} (hfreshId : s.FreshId id)
    (hstep : s.createConn opts id token params state driver driverState auth
      = some s') : SubscriptionInv s'.persistRaw.connections s' := by
  have hfresh : ∀ entry ∈ s.connections, entry.1 ≠ id := by
    rintro ⟨k, c⟩ hmem rfl
    obtain ⟨old, subs, -, hk⟩ := h.entry _ c hmem
    unfold views at hk
    rw [List.getElem?_map] at hk
    obtain ⟨p, hp, heq⟩ := Option.map_eq_some_iff.1 hk
    exact hfreshId p (List.mem_of_getElem? hp) (congrArg Prod.fst heq)
  have hown : s.persistRaw.connObjects.length
      ∉ s.conns.map (·.persist) := by
    intro hmem
    obtain ⟨conn, hconn, hlen⟩ := List.mem_map.1 hmem
    obtain ⟨c, hc⟩ := List.mem_iff_getElem?.1 hconn
    obtain ⟨⟨k, hk⟩, -⟩ := h.object c conn hc
    have hlt := (List.getElem?_eq_some_iff.1 hk).1
    unfold views at hlt
    rw [List.length_map, hlen] at hlt
    omega
  unfold createConn at hstep
  split at hstep
  case isFalse => cases hstep
  case isTrue =>
    injection hstep with hstep
    subst hstep
    unfold callSaveState
    dsimp only
    rw [saveState_persistRaw, mutate_eq _ (by simp), mutate_eq _ (by simp)]
    refine @SubscriptionInv.push _ _ _ h _ id
      { persist := s.persistRaw.connObjects.length, proxied := false }
      hfresh hown ?ids ?ext ?view List.nodup_nil rfl rfl ?connections rfl
    case ids =>
      dsimp only
      rw [saveState_persistRaw, views_ids]
      show ((s.persistRaw.connObjects ++ [_]).map PersistedConn.connId).Nodup
      rw [List.map_append, List.map_singleton]
      refine (views_ids s.persistRaw ▸ h.ids).append (List.nodup_singleton _) ?_
      intro k hk hk'
      obtain ⟨p, hp, rfl⟩ := List.mem_map.1 hk
      exact hfreshId p hp (List.mem_singleton.1 hk')
    case ext =>
      intro i v hv
      dsimp only
      rw [saveState_persistRaw]
      show ((s.persistRaw.connObjects ++ [_]).map _)[i]? = some v
      rw [List.map_append]
      exact Lists.getElem?_concat_of_some hv
    case view =>
      dsimp only
      rw [saveState_persistRaw]
      show ((s.persistRaw.connObjects ++ [_]).map _)[_]? = _
      rw [List.getElem?_map, List.getElem?_concat_length]
      rfl
    case connections => exact mapSet_of_fresh hfresh _

-- =========================================================== __removeConn

/-- Where the first element with `p` is erased, and the element stands for
the only entry of `id`. -/
theorem eraseIdx_map {β γ : Type} {map : List (String × β)} {id : String}
    (f : String × β → γ) (p : γ → Bool)
    (hp : ∀ entry ∈ map, p (f entry) = (entry.1 == id))
    (hkeys : (map.map (·.1)).Nodup) :
    (match (map.map f).findIdx? p with
      | some i => (map.map f).eraseIdx i
      | none => map.map f) = (mapDelete map id).map f := by
  induction map with
  | nil => rfl
  | cons entry map ih =>
      obtain ⟨hnot, hkeys⟩ := List.nodup_cons.1 hkeys
      have hhead := hp entry List.mem_cons_self
      rw [List.map_cons, List.findIdx?_cons, hhead]
      by_cases hid : entry.1 = id
      · have hrest : mapDelete map id = map := by
          unfold mapDelete
          rw [List.filter_eq_self]
          intro other hmem
          apply bne_iff_ne.2
          rintro rfl
          exact hnot (List.mem_map.2 ⟨other, hmem, hid.symm⟩)
        have hdel : mapDelete (entry :: map) id = mapDelete map id := by
          unfold mapDelete
          rw [List.filter_cons_of_neg (by simpa using hid)]
        rw [hid, hdel, hrest]
        simp
      · have hdel : mapDelete (entry :: map) id
            = entry :: mapDelete map id := by
          unfold mapDelete
          rw [List.filter_cons_of_pos (by simpa using hid)]
        have htail := ih (fun e he => hp e (List.mem_cons_of_mem entry he)) hkeys
        rw [beq_eq_false_iff_ne.2 hid, hdel, List.map_cons, ← htail]
        cases (map.map f).findIdx? p <;> rfl

/-- The subscriptions of a connection being removed, one by one. -/
theorem foldl_removeSubscription {c : Nat} {conn : Conn} (es : List String) :
    ∀ s : LiveInstance, s.conns[c]? = some conn →
      (∀ e ∈ es, e ∈ conn.subscriptions) →
      es.foldl (fun s e => s.removeSubscription opts e c true) s
        = { s with
            subscriptionIndex :=
              es.foldl (fun index e => indexDelete index e c)
                s.subscriptionIndex } := by
  induction es with
  | nil => intros; rfl
  | cons eventName es ih =>
      intro s hconn hmem
      have hstep : s.removeSubscription opts eventName c true = { s with
          subscriptionIndex :=
            indexDelete s.subscriptionIndex eventName c } := by
        unfold removeSubscription
        rw [hconn]
        dsimp only
        rw [if_neg (not_not_intro (hmem eventName List.mem_cons_self))]
        rfl
      rw [List.foldl_cons, hstep]
      refine ih _ ?_ fun e he => hmem e (List.mem_cons_of_mem eventName he)
      exact hconn

/-- `__removeConn`, written out: the persisted list loses the object with
the id of the connection. -/
theorem removeConn_eq (s : LiveInstance) {c : Nat} {conn : Conn}
    (hconn : s.conns[c]? = some conn) : ∃ t : ActorInstance PersistedActor,
    t.persistRaw = { s.persistRaw with
        connections := match s.findConnIdx (s.connId conn) with
          | some connIdx => s.persistRaw.connections.eraseIdx connIdx
          | none => s.persistRaw.connections }
      ∧ s.removeConn opts c = { s with
          toActorInstance := t
          connections := mapDelete s.connections (s.connId conn)
          subscriptionIndex := conn.subscriptions.foldl
            (fun index e => indexDelete index e c) s.subscriptionIndex } := by
  unfold removeConn
  rw [hconn]
  dsimp only
  cases s.findConnIdx (s.connId conn) with
  | none =>
      exact ⟨s.toActorInstance, rfl,
        foldl_removeSubscription _ _ hconn fun e he => he⟩
  | some connIdx =>
      dsimp only
      rw [mutate_eq _ (by simp)]
      refine ⟨_, ?_, foldl_removeSubscription _ _ hconn fun e he => he⟩
      exact saveState_persistRaw _ _

theorem subscriptionInv_removeConn
    (h : SubscriptionInv s.persistRaw.connections s) (c : Nat) :
    SubscriptionInv (s.removeConn opts c).persistRaw.connections
      (s.removeConn opts c) := by
  cases hconn : s.conns[c]? with
  | none =>
      unfold removeConn
      rw [hconn]
      exact h
  | some conn =>
  obtain ⟨t, hraw, heq⟩ := @removeConn_eq opts s c conn hconn
  obtain ⟨⟨id, hview⟩, hnodup⟩ := h.object c conn hconn
  have hid := connId_of_view hview
  obtain ⟨hshape, hmembers⟩ :=
    foldl_indexDelete conn.subscriptions c s.subscriptionIndex h.shape
  have hviews : views t.persistRaw = views s.persistRaw := by
    rw [hraw]
    rfl
  have hmap : ∀ d, (∃ k, (k, d) ∈ mapDelete s.connections id)
      ↔ s.InMap d ∧ d ≠ c := by
    intro d
    constructor
    · intro hgiven
      obtain ⟨k, hk⟩ := hgiven
      obtain ⟨hk, hne⟩ := mem_mapDelete.1 hk
      refine ⟨⟨k, hk⟩, ?_⟩
      rintro rfl
      obtain ⟨conn', subs, hconn', hview'⟩ := h.entry k d hk
      rw [hconn] at hconn'
      injection hconn' with hconn'
      rw [← hconn', hview] at hview'
      injection hview' with hview'
      exact hne (congrArg Prod.fst hview').symm
    · intro hgiven
      obtain ⟨⟨k, hk⟩, hne⟩ := hgiven
      refine ⟨k, mem_mapDelete.2 ⟨hk, ?_⟩⟩
      rintro rfl
      exact hne (h.entry_of_id hconn (hid.symm ▸ hk))
  rw [heq, hid]
  constructor
  case ids =>
    rw [hviews]
    exact h.ids
  case own => exact h.own
  case object =>
    intro d conn' hd
    rw [hviews]
    exact h.object d conn' hd
  case entry =>
    intro k d hk
    rw [hviews]
    exact h.entry k d (mem_mapDelete.1 hk).1
  case keys => exact (List.filter_sublist.map _).nodup h.keys
  case listed =>
    rw [hraw]
    unfold findConnIdx
    dsimp only
    rw [h.listed, hid]
    refine eraseIdx_map (fun entry => s.refOf entry.2) _ ?_ h.keys
    rintro ⟨k, d⟩ hmem
    obtain ⟨conn', subs, hconn', hview'⟩ := h.entry k d hmem
    have href : s.refOf d = conn'.persist := by
      unfold refOf
      rw [hconn']
      rfl
    unfold views at hview'
    rw [List.getElem?_map] at hview'
    obtain ⟨p, hp, hpair⟩ := Option.map_eq_some_iff.1 hview'
    rw [href, hp, ← congrArg Prod.fst hpair]
    rfl
  case indexed =>
    intro e d
    rw [hmembers, h.indexed]
    unfold InMap
    rw [hmap]
    show _ ↔ (s.InMap d ∧ d ≠ c) ∧ e ∈ s.subscriptionsOf d
    constructor
    · intro hgiven
      obtain ⟨⟨hin, he⟩, hnot⟩ := hgiven
      refine ⟨⟨hin, ?_⟩, he⟩
      rintro rfl
      refine hnot ⟨?_, rfl⟩
      unfold subscriptionsOf at he
      rw [hconn] at he
      exact he
    · intro hgiven
      obtain ⟨⟨hin, hne⟩, he⟩ := hgiven
      exact ⟨⟨hin, he⟩, fun hboth => hne hboth.2⟩
  case shape => exact hshape

-- ==================================================== (un)subscribing

/-- A mutation of the subscriptions of one object, in the views. -/
theorem views_modifyConn (p : PersistedActor) (ref : Nat)
    (f : List String → List String) :
    views (p.modifyConn ref fun p =>
        { p with subscriptions := f p.subscriptions })
      = (views p).modify ref fun v => (v.1, f v.2) := by
  unfold views PersistedActor.modifyConn
  refine List.ext_getElem? fun i => ?_
  simp only [List.getElem?_map, List.getElem?_modify]
  cases p.connObjects[i]? with
  | none => rfl
  | some old => by_cases hi : ref = i <;> simp [hi]

/-- The subscriptions of one connection change, in its set and in its
object, and the index follows. -/
theorem SubscriptionInv.modify (h : SubscriptionInv refs s) {c : Nat}
    {conn : Conn} (hconn : s.conns[c]? = some conn)
    {f : List String → List String} (hnodup : (f conn.subscriptions).Nodup)
    (hviews : views s'.persistRaw
      = (views s.persistRaw).modify conn.persist fun v => (v.1, f v.2))
    (hconns : s'.conns = s.conns.modify c fun conn =>
      { conn with subscriptions := f conn.subscriptions })
    (hconnections : s'.connections = s.connections)
    (hshape : IndexShape s'.subscriptionIndex)
    (hother : ∀ e d, d ≠ c → (d ∈ members s'.subscriptionIndex e
      ↔ d ∈ members s.subscriptionIndex e))
    (hself : ∀ e, c ∈ members s'.subscriptionIndex e
      ↔ s.InMap c ∧ e ∈ f conn.subscriptions) :
    SubscriptionInv refs s' := by
  have hself' : s'.conns[c]?
      = some { conn with subscriptions := f conn.subscriptions } := by
    rw [hconns, Lists.getElem?_modify_self, hconn]
    rfl
  have hother' : ∀ d, d ≠ c → s'.conns[d]? = s.conns[d]? := by
    intro d hd
    rw [hconns, Lists.getElem?_modify_of_ne _ hd]
  have hid : ∀ i : Nat, (views s'.persistRaw)[i]?.map Prod.fst
      = (views s.persistRaw)[i]?.map Prod.fst := by
    intro i
    rw [hviews, List.getElem?_modify]
    cases (views s.persistRaw)[i]? with
    | none => rfl
    | some v => by_cases hi : conn.persist = i <;> simp [hi]
  have hpersist : s'.conns.map (·.persist) = s.conns.map (·.persist) := by
    refine List.ext_getElem? fun d => ?_
    rw [List.getElem?_map, List.getElem?_map]
    by_cases hd : d = c
    · rw [hd, hself', hconn]
      rfl
    · rw [hother' d hd]
  constructor
  case ids =>
    have hsame : (views s'.persistRaw).map (·.1)
        = (views s.persistRaw).map (·.1) := by
      refine List.ext_getElem? fun i => ?_
      rw [List.getElem?_map, List.getElem?_map, hid]
    rw [hsame]
    exact h.ids
  case own =>
    rw [hpersist]
    exact h.own
  case object =>
    intro d conn' hd
    by_cases hdc : d = c
    · rw [hdc, hself'] at hd
      injection hd with hd
      obtain ⟨⟨id, hview⟩, -⟩ := h.object c conn hconn
      rw [← hd]
      refine ⟨⟨id, ?_⟩, hnodup⟩
      rw [hviews, List.getElem?_modify_eq, hview]
      rfl
    · rw [hother' d hdc] at hd
      obtain ⟨⟨id, hview⟩, hn⟩ := h.object d conn' hd
      refine ⟨⟨id, ?_⟩, hn⟩
      have hne : conn'.persist ≠ conn.persist :=
        fun heq => hdc (h.eq_of_persist hd hconn heq)
      rw [hviews, Lists.getElem?_modify_of_ne _ hne]
      exact hview
  case entry =>
    intro id d hmem
    rw [hconnections] at hmem
    obtain ⟨conn', subs, hd, hview⟩ := h.entry id d hmem
    have hsome : ∃ conn'', s'.conns[d]? = some conn''
        ∧ conn''.persist = conn'.persist := by
      by_cases hdc : d = c
      · rw [hdc, hconn] at hd
        injection hd with hd
        exact ⟨_, hdc ▸ hself', by rw [← hd]⟩
      · exact ⟨conn', by rw [hother' d hdc, hd], rfl⟩
    obtain ⟨conn'', hd', heq⟩ := hsome
    have hfst := hid conn'.persist
    rw [hview] at hfst
    obtain ⟨⟨id', subs'⟩, hview', hpair⟩ := Option.map_eq_some_iff.1 hfst
    cases hpair
    exact ⟨conn'', subs', hd', heq ▸ hview'⟩
  case keys =>
    rw [hconnections]
    exact h.keys
  case listed =>
    rw [hconnections, h.listed]
    refine List.map_congr_left fun entry _ => ?_
    have hget := congrArg (·[entry.2]?) hpersist
    rw [List.getElem?_map, List.getElem?_map] at hget
    unfold refOf
    rw [hget]
  case indexed =>
    intro e d
    unfold InMap
    rw [hconnections]
    by_cases hd : d = c
    · rw [hd, hself]
      unfold subscriptionsOf
      rw [hself']
      rfl
    · rw [hother e d hd, h.indexed]
      unfold subscriptionsOf
      rw [hother' d hd]
      rfl
  case shape => exact hshape

/-- `#addSubscription` of a connection in the map. -/
theorem subscriptionInv_addSubscription
    (h : SubscriptionInv s.persistRaw.connections s) {eventName : String}
    {c : Nat} (hsafe : s.InMap c ∨ eventName ∈ s.subscriptionsOf c) :
    SubscriptionInv
      (s.addSubscription opts eventName c false).persistRaw.connections
      (s.addSubscription opts eventName c false) := by
  unfold addSubscription
  cases hconn : s.conns[c]? with
  | none => exact h
  | some conn =>
  dsimp only
  by_cases hmem : eventName ∈ conn.subscriptions
  · rw [if_pos hmem]
    exact h
  · rw [if_neg hmem]
    simp only [Bool.false_eq_true, if_false, callSaveState]
    rw [mutateConn_eq, saveState_persistRaw]
    have hin : s.InMap c := by
      refine hsafe.resolve_right ?_
      unfold subscriptionsOf
      rw [hconn]
      exact hmem
    have hmembers : ∀ e, c ∈ members s.subscriptionIndex e
        ↔ s.InMap c ∧ e ∈ conn.subscriptions := by
      intro e
      rw [h.indexed]
      unfold subscriptionsOf
      rw [hconn]
      rfl
    refine h.modify (f := (· ++ [eventName])) hconn ?nodup ?views rfl rfl
      (h.shape.indexAdd eventName c) ?other ?self
    case nodup =>
      refine (h.object c conn hconn).2.append (List.nodup_singleton _) ?_
      intro e he he'
      rw [List.mem_singleton.1 he'] at he
      exact hmem he
    case views =>
      dsimp only
      rw [saveState_persistRaw]
      exact views_modifyConn s.persistRaw conn.persist (· ++ [eventName])
    case other =>
      intro e d hd
      rw [mem_indexAdd]
      simp [hd]
    case self =>
      intro e
      rw [mem_indexAdd, hmembers, List.mem_append, List.mem_singleton]
      constructor
      · rintro (⟨hin, he⟩ | ⟨he, -⟩)
        · exact ⟨hin, Or.inl he⟩
        · exact ⟨hin, Or.inr he⟩
      · intro hgiven
        obtain ⟨hin, he | he⟩ := hgiven
        · exact Or.inl ⟨hin, he⟩
        · exact Or.inr ⟨he, rfl⟩

/-- `#removeSubscription`, of any connection. -/
theorem subscriptionInv_removeSubscription
    (h : SubscriptionInv s.persistRaw.connections s) (eventName : String)
    (c : Nat) :
    SubscriptionInv
      (s.removeSubscription opts eventName c false).persistRaw.connections
      (s.removeSubscription opts eventName c false) := by
  unfold removeSubscription
  cases hconn : s.conns[c]? with
  | none => exact h
  | some conn =>
  dsimp only
  by_cases hmem : eventName ∉ conn.subscriptions
  · rw [if_pos hmem]
    exact h
  · rw [if_neg hmem]
    simp only [Bool.false_eq_true, if_false, callSaveState]
    rw [mutateConn_eq, saveState_persistRaw]
    have hnodup := (h.object c conn hconn).2
    refine h.modify (f := (·.erase eventName)) hconn (hnodup.erase eventName)
      ?views rfl rfl (h.shape.indexDelete eventName c) ?other ?self
    case views =>
      dsimp only
      rw [saveState_persistRaw]
      exact views_modifyConn s.persistRaw conn.persist (·.erase eventName)
    case other =>
      intro e d hd
      rw [mem_indexDelete h.shape]
      simp [hd]
    case self =>
      intro e
      rw [mem_indexDelete h.shape, h.indexed, hnodup.mem_erase_iff]
      unfold subscriptionsOf
      rw [hconn]
      constructor
      · intro hgiven
        obtain ⟨⟨hin, he⟩, hne⟩ := hgiven
        exact ⟨hin, fun heq => hne ⟨heq, rfl⟩, he⟩
      · intro hgiven
        obtain ⟨hin, hne, he⟩ := hgiven
        exact ⟨⟨hin, he⟩, fun hboth => hne hboth.1⟩

-- ========================================================= step and run

/-- A step of the save path that leaves the record. -/
theorem saveStep_persistRaw {a : SaveStep PersistedActor}
    (hkeeps : keepsRecord a = true) {i t : ActorInstance PersistedActor}
    (hstep : saveStep opts i a = some t) : t.persistRaw = i.persistRaw := by
  cases a with
  | onChange => cases hkeeps
  | saveState o =>
      injection hstep with hstep
      rw [← hstep, saveState_persistRaw]
  | savePersistThrottled =>
      injection hstep with hstep
      rw [← hstep, savePersistThrottled_persistRaw]
  | saveTimeout =>
      simp only [saveStep, ActorInstance.saveTimeout] at hstep
      split at hstep
      · injection hstep with hstep
        rw [← hstep, savePersistInner_persistRaw]
      · cases hstep
  | driverWrite ok =>
      simp only [saveStep, ActorInstance.driverWrite] at hstep
      split at hstep <;> cases hstep
      rfl
  | drainLoop =>
      simp only [saveStep, ActorInstance.drainLoop] at hstep
      split at hstep
      · injection hstep with hstep
        rw [← hstep]
        split <;> rfl
      · cases hstep
  | resumeInner i =>
      simp only [saveStep, ActorInstance.resumeInner] at hstep
      split at hstep
      · split at hstep
        · injection hstep with hstep
          rw [← hstep]
          split <;> rfl
        · cases hstep
      · cases hstep
  | resumeSaveState c =>
      simp only [saveStep, ActorInstance.resumeSaveState] at hstep
      split at hstep
      · cases hstep
        rfl
      · split at hstep <;> cases hstep
        rfl
      · cases hstep
  | dateNow _ | ready | sleepCalled | stopCalled =>
      injection hstep with hstep
      rw [← hstep]
  | clearSaveTimeout =>
      injection hstep with hstep
      rw [← hstep]
      rfl

/-- A mutation of something else of an object. -/
theorem views_modifyConn_of_same (p : PersistedActor) (ref : Nat)
    {f : PersistedConn → PersistedConn}
    (hf : ∀ old, (f old).connId = old.connId
      ∧ (f old).subscriptions = old.subscriptions) :
    views (p.modifyConn ref f) = views p := by
  unfold views PersistedActor.modifyConn
  refine List.ext_getElem? fun i => ?_
  simp only [List.getElem?_map, List.getElem?_modify]
  cases p.connObjects[i]? with
  | none => rfl
  | some old =>
      by_cases hi : ref = i
      · simp [hi, hf old]
      · simp [hi]

/-- The persisted list and the structures that go with it. -/
def SubscriptionSound (s : LiveInstance) : Prop :=
  SubscriptionInv s.persistRaw.connections s

/-- A step of another part of the instance. -/
theorem SubscriptionSound.congr (h : s.SubscriptionSound)
    (hlist : s'.persistRaw.connections = s.persistRaw.connections)
    (hviews : views s'.persistRaw = views s.persistRaw)
    (hconns : s'.conns = s.conns)
    (hconnections : s'.connections = s.connections)
    (hindex : s'.subscriptionIndex = s.subscriptionIndex) :
    s'.SubscriptionSound := by
  unfold SubscriptionSound
  rw [hlist]
  exact SubscriptionInv.congr h hviews hconns hconnections hindex

/-- A mutation of one object. -/
theorem SubscriptionSound.mutateConn (h : s.SubscriptionSound) (conn : Conn)
    {key : String} {f : PersistedConn → PersistedConn}
    (hf : ∀ old, (f old).connId = old.connId
      ∧ (f old).subscriptions = old.subscriptions) :
    (s.mutateConn conn key f).SubscriptionSound := by
  rw [mutateConn_eq]
  exact h.congr rfl (views_modifyConn_of_same s.persistRaw conn.persist hf)
    rfl rfl rfl

/-- Every guarded step keeps the structures in agreement. -/
theorem subscriptionSound_step {a : LiveStep} (h : s.SubscriptionSound)
    (hsafe : s.IndexSafe a) (hstep : indexStep codec opts s a = some s') :
    s'.SubscriptionSound := by
  cases a with
  | stateChange path valid f =>
      simp only [indexStep, liveStep] at hstep
      split at hstep
      · injection hstep with hstep
        subst hstep
        unfold mutate ActorInstance.onChange
        dsimp only
        split <;> exact h.congr rfl rfl rfl rfl rfl
      · cases hstep
  | createConn id token params state driver driverState auth =>
      simp only [indexStep] at hstep
      split at hstep
      case isTrue hfresh => exact subscriptionInv_createConn h hfresh hstep
      case isFalse => cases hstep
  | removeConn c =>
      injection hstep with hstep
      subst hstep
      exact subscriptionInv_removeConn h c
  | addSubscription eventName c =>
      injection hstep with hstep
      subst hstep
      exact subscriptionInv_addSubscription h hsafe
  | removeSubscription eventName c =>
      injection hstep with hstep
      subst hstep
      exact subscriptionInv_removeSubscription h eventName c
  | setConnState c f =>
      injection hstep with hstep
      subst hstep
      unfold setConnState
      split
      · exact h
      case h_2 conn _ => exact h.mutateConn conn fun old => ⟨rfl, rfl⟩
  | scheduleEvent event =>
      injection hstep with hstep
      subst hstep
      unfold scheduleEvent
      rw [mutate_eq _ (by simp)]
      exact h.congr rfl rfl rfl rfl rfl
  | onAlarm =>
      injection hstep with hstep
      subst hstep
      unfold onAlarm
      rw [mutate_eq _ (by simp)]
      exact h.congr rfl rfl rfl rfl rfl
  | checkLiveness c =>
      injection hstep with hstep
      subst hstep
      unfold checkLiveness
      split
      · exact h
      case h_2 conn _ => exact h.mutateConn conn fun old => ⟨rfl, rfl⟩
  | stop =>
      injection hstep with hstep
      subst hstep
      have hraw : (s.stop opts).persistRaw = s.persistRaw :=
        saveState_persistRaw _ _
      exact h.congr (by rw [hraw]) (by rw [hraw]) rfl rfl rfl
  | save a =>
      simp only [indexStep] at hstep
      split at hstep
      case isFalse => cases hstep
      case isTrue hkeeps =>
        obtain ⟨t, ht, rfl⟩ := Option.map_eq_some_iff.1 hstep
        have hraw : t.persistRaw = s.persistRaw :=
          saveStep_persistRaw hkeeps ht
        refine h.congr ?_ ?_ rfl rfl rfl
        · exact congrArg PersistedActor.connections hraw
        · exact congrArg views hraw

/-- And so does every guarded run. -/
theorem subscriptionSound_reaches {r : PersistedActor} (hread : r.AsRead)
    (hdistinct : r.Distinct)
    (h : (indexSystem codec opts r).Reaches IndexSafe s) :
    s.SubscriptionSound := by
  refine System.Reaches.invariant (P := SubscriptionSound) ?_ ?_ h
  · rintro s ⟨stateData, rfl⟩
    exact subscriptionInv_restored hread hdistinct stateData
  · intro s a s' _ hinv hsafe hstep
    exact subscriptionSound_step hinv hsafe hstep

/-- The contract needs a record without duplicates. -/
theorem distinct_of_indexed {r : PersistedActor} (hread : r.AsRead)
    {stateData : Value} (h : (restored opts r stateData).Indexed) :
    r.Distinct := by
  have hraw : ∃ v b, (restored opts r stateData).persistRaw
      = { r with state := v, hasInitiated := b } := by
    unfold restored
    split
    · refine ⟨r.state, r.hasInitiated, ?_⟩
      rw [initialized_toActorInstance]
      rfl
    · exact ⟨_, _, rfl⟩
  obtain ⟨v, b, hraw⟩ := hraw
  have hids : (restored opts r stateData).persistedIds
      = r.connObjects.map (·.connId) := by
    unfold persistedIds
    rw [hraw, hread]
    refine List.ext_getElem? fun i => ?_
    rw [List.getElem?_map, List.getElem?_map]
    by_cases hi : i < r.connObjects.length
    · rw [List.getElem?_range hi, List.getElem?_eq_getElem hi]
      simp [hi]
    · rw [List.getElem?_eq_none (by simpa using hi),
        List.getElem?_eq_none (by omega)]
      rfl
  constructor
  case ids =>
    rw [← hids]
    exact h.persisted_once
  case subscriptions =>
    intro p hp
    obtain ⟨i, hi⟩ := List.mem_iff_getElem?.1 hp
    have hlt := (List.getElem?_eq_some_iff.1 hi).1
    have hlisted := h.persisted_subscriptions i
    rw [hraw] at hlisted
    obtain ⟨p', c, hp', -, hnodup, -⟩ := hlisted (by
      rw [hread]
      exact List.mem_range.2 hlt)
    rw [hi] at hp'
    injection hp' with hp'
    rw [hp']
    exact hnodup
  case initiated =>
    by_cases hinit : r.hasInitiated = true
    · exact Or.inl hinit
    · -- nothing is in the map, so no object is in the list
      have hmap : (restored opts r stateData).connections = [] := by
        unfold restored
        rw [if_neg hinit]
      have hnone : r.connObjects = [] := by
        refine List.eq_nil_iff_forall_not_mem.2 fun p hp => ?_
        have hin := (h.persisted_ids p.connId).1
          (by rw [hids]; exact List.mem_map.2 ⟨p, hp, rfl⟩)
        rw [hmap] at hin
        cases hin
      rw [hread, hnone]
      exact Or.inr rfl

end LiveInstance

open LiveInstance

/-- A restored instance has its structures in agreement exactly when the
record has no duplicates, and then so does every state of a run in which
each `subscribe` finds its connection in the map. -/
theorem subscriptions_indexed {r : PersistedActor} (hread : r.AsRead) :
    (∀ stateData, (restored opts r stateData).Indexed ↔ r.Distinct)
      ∧ (r.Distinct → ∀ s, (indexSystem codec opts r).Reaches IndexSafe s →
        s.Indexed) := by
  refine ⟨fun stateData => ⟨distinct_of_indexed hread, ?_⟩, ?_⟩
  · intro hdistinct
    exact (subscriptionInv_restored hread hdistinct stateData).contract
  · intro hdistinct s h
    exact (subscriptionSound_reaches hread hdistinct h).contract

/-- A client connects and subscribes. -/
def subscribeRun : List LiveStep :=
  [.save .ready, connect, .addSubscription "news" 0]

/-- The guard admits that run; the index ends with the connection. -/
theorem subscriptions_indexed_subscribe :
    ∃ s, (indexSystem sampleCodec ⟨10000⟩ {}).run
        (.restored ⟨10000⟩ {} .undefined) subscribeRun = some s
      ∧ s.subscriptionIndex = [("news", [0])] ∧ s.Indexed := by
  refine ⟨_, rfl, by decide, ?_⟩
  refine (@subscriptions_indexed sampleCodec ⟨10000⟩ {} rfl).2 ?_ _
    (System.Reaches.run subscribeRun (.init ⟨.undefined, rfl⟩) ?_ rfl)
  · exact ⟨List.nodup_nil, fun p hp => (List.not_mem_nil hp).elim, Or.inr rfl⟩
  · exact ⟨trivial, trivial, Or.inl ⟨"conn", by decide⟩, trivial⟩

/-- The client is removed before its `subscribe` is handled. -/
theorem subscriptions_not_indexed :
    ¬ ∀ (r : PersistedActor) (s : LiveInstance), r.AsRead →
      (indexSystem sampleCodec ⟨10000⟩ r).Reachable s → s.Indexed := by
  intro hall
  have h := hall {} _ rfl (System.Reachable.run
    [.save .ready, connect, .removeConn 0, .addSubscription "news" 0]
    (.init ⟨.undefined, rfl⟩) rfl)
  obtain ⟨⟨id, hmem⟩, -⟩ := (h.index "news" 0).1 (by decide)
  exact List.not_mem_nil hmem

end RivetKit.Actor
