/-
The sweep reclaims what a record left behind (`restored_reclaimed`), but
for the connections of the http driver, which it always takes for open.

`Kept` is what a run keeps of the restored connections: their objects keep
ids and drivers, and whatever else still has one of them, the persisted
list or the index, has it only while the map does. A sweep that is late
enough takes every one of them out of the map; nothing puts one back.

# Sections

  - the invariant
  - the record is read
  - one operation
  - the sweep
  - every run
-/
import RivetKit.Actor.Liveness
import RivetKit.Actor.Proofs.SubscriptionIndex

namespace RivetKit.Actor

open Transition
open Js

variable {codec : Codec} {opts : ActorOptions} {timeout : Number}

namespace LiveInstance

-- ========================================================= the invariant

/-- What never changes of the connection objects: id and driver. -/
def idents (p : PersistedActor) : List (String × ConnectionDriver) :=
  p.connObjects.map fun p => (p.connId, p.connDriver)

/-- The restored connections: those of the record in front, each the
`Conn` of the object with its number; the persisted list and the index
have them only while the map does. -/
structure Kept (r : PersistedActor) (s : LiveInstance) : Prop where
  objects : ∃ new, idents s.persistRaw = idents r ++ new
    ∧ ∀ x ∈ new, x.1 ∉ r.connObjects.map (·.connId)
  own : ∀ (c : Nat) (conn : Conn), s.conns[c]? = some conn →
    conn.persist < s.persistRaw.connObjects.length
      ∧ (c < r.connObjects.length → conn.persist = c)
      ∧ (r.connObjects.length ≤ c → r.connObjects.length ≤ conn.persist)
  length : r.connObjects.length ≤ s.conns.length
  entry : ∀ id c, (id, c) ∈ s.connections →
    ∀ p, r.connObjects[c]? = some p → p.connId = id
  indexed : ∀ e c, c < r.connObjects.length →
    c ∈ members s.subscriptionIndex e → s.InMap c ∧ e ∈ s.subscriptionsOf c
  shape : IndexShape s.subscriptionIndex
  listed : ∀ c, c < r.connObjects.length →
    c ∈ s.persistRaw.connections → s.InMap c
  once : s.persistRaw.connections.Nodup
  refs : ∀ ref ∈ s.persistRaw.connections,
    ref < s.persistRaw.connObjects.length

variable {r : PersistedActor} {s s' : LiveInstance}

/-- With none of them in the map, none is left. -/
theorem Kept.reclaimed (h : Kept r s)
    (hgone : ∀ c, c < r.connObjects.length → ¬ s.InMap c) :
    s.Reclaimed r where
  connections id c hmem := by
    by_contra hlt
    exact hgone c (by omega) ⟨id, hmem⟩
  persisted ref hmem := by
    by_contra hlt
    exact hgone ref (by omega) (h.listed ref (by omega) hmem)
  index e c hmem := by
    by_contra hlt
    exact hgone c (by omega) (h.indexed e c (by omega) hmem).1

/-- It reads six things. -/
theorem Kept.congr (h : Kept r s)
    (hidents : idents s'.persistRaw = idents s.persistRaw)
    (hlist : s'.persistRaw.connections = s.persistRaw.connections)
    (hconns : s'.conns = s.conns)
    (hconnections : s'.connections = s.connections)
    (hindex : s'.subscriptionIndex = s.subscriptionIndex) : Kept r s' := by
  have hlen : s'.persistRaw.connObjects.length
      = s.persistRaw.connObjects.length := by
    have := congrArg List.length hidents
    unfold idents at this
    simpa only [List.length_map] using this
  constructor
  · rw [hidents]
    exact h.objects
  · rw [hconns, hlen]
    exact h.own
  · rw [hconns]
    exact h.length
  · rw [hconnections]
    exact h.entry
  · unfold InMap subscriptionsOf
    rw [hindex, hconnections, hconns]
    exact h.indexed
  · rw [hindex]
    exact h.shape
  · unfold InMap
    rw [hlist, hconnections]
    exact h.listed
  · rw [hlist]
    exact h.once
  · rw [hlist, hlen]
    exact h.refs

/-- The object of a restored connection. -/
theorem Kept.object (h : Kept r s) {c : Nat} {p : PersistedConn}
    (hp : r.connObjects[c]? = some p) :
    ∃ p', s.persistRaw.connObjects[c]? = some p'
      ∧ p'.connId = p.connId ∧ p'.connDriver = p.connDriver := by
  obtain ⟨new, hobjects, -⟩ := h.objects
  have hlt := (List.getElem?_eq_some_iff.1 hp).1
  have hget : (idents s.persistRaw)[c]? = some (p.connId, p.connDriver) := by
    rw [hobjects, List.getElem?_append_left (by simpa [idents] using hlt)]
    unfold idents
    rw [List.getElem?_map, hp]
    rfl
  unfold idents at hget
  rw [List.getElem?_map] at hget
  obtain ⟨p', hp', heq⟩ := Option.map_eq_some_iff.1 hget
  injection heq with hid hdriver
  exact ⟨p', hp', hid, hdriver⟩

/-- An object with the id of a restored connection is its object. -/
theorem Kept.ref_of_id (h : Kept r s)
    (hids : (r.connObjects.map (·.connId)).Nodup) {c ref : Nat}
    {p p' : PersistedConn} (hp : r.connObjects[c]? = some p)
    (hp' : s.persistRaw.connObjects[ref]? = some p')
    (hid : p'.connId = p.connId) : ref = c := by
  obtain ⟨new, hobjects, hnew⟩ := h.objects
  have hlt := (List.getElem?_eq_some_iff.1 hp).1
  have hget : (idents s.persistRaw)[ref]?
      = some (p'.connId, p'.connDriver) := by
    unfold idents
    rw [List.getElem?_map, hp']
    rfl
  rw [hobjects] at hget
  by_cases hold : ref < (idents r).length
  · rw [List.getElem?_append_left hold] at hget
    have hr : (r.connObjects.map (·.connId))[ref]? = some p'.connId := by
      unfold idents at hget
      rw [List.getElem?_map] at hget ⊢
      obtain ⟨q, hq, heq⟩ := Option.map_eq_some_iff.1 hget
      injection heq with hqid hqdriver
      rw [hq, ← hqid]
      rfl
    have hc : (r.connObjects.map (·.connId))[c]? = some p.connId := by
      rw [List.getElem?_map, hp]
      rfl
    have hrefs : ref < (r.connObjects.map (·.connId)).length := by
      simpa [idents] using hold
    rw [hid, ← hc] at hr
    exact (List.getElem?_inj hrefs hids).1 hr
  · rw [List.getElem?_append_right (by omega)] at hget
    exfalso
    apply hnew _ (List.mem_of_getElem? hget)
    rw [hid]
    exact List.mem_map.2 ⟨p, List.mem_of_getElem? hp, rfl⟩

/-- Only the `Conn` of a restored connection has its id. -/
theorem Kept.conn_of_id (h : Kept r s)
    (hids : (r.connObjects.map (·.connId)).Nodup) {c d : Nat}
    {conn : Conn} {p : PersistedConn} (hconn : s.conns[d]? = some conn)
    (hp : r.connObjects[c]? = some p) (hid : s.connId conn = p.connId) :
    d = c := by
  obtain ⟨hlt, hold, hnew⟩ := h.own d conn hconn
  have hget := List.getElem?_eq_getElem hlt
  have href : conn.persist = c := by
    apply h.ref_of_id hids hp hget
    rw [← hid]
    unfold connId
    rw [hget]
    rfl
  have hc := (List.getElem?_eq_some_iff.1 hp).1
  by_cases hd : d < r.connObjects.length
  · rw [← hold hd]
    exact href
  · have := hnew (by omega)
    omega

-- ==================================================== the record is read

/-- The first `m` connections of the record have been restored. -/
structure Loaded (r : PersistedActor) (m : Nat) (s : LiveInstance) :
    Prop where
  record : s.persistRaw = r
  length : s.conns.length = m
  own : ∀ (c : Nat) (conn : Conn), s.conns[c]? = some conn →
    conn.persist = c
  entry : ∀ id c, (id, c) ∈ s.connections →
    ∃ p, r.connObjects[c]? = some p ∧ p.connId = id ∧ c < m
  present : ∀ c, c < m → s.InMap c
  indexed : ∀ e c, c ∈ members s.subscriptionIndex e →
    s.InMap c ∧ e ∈ s.subscriptionsOf c
  shape : IndexShape s.subscriptionIndex

/-- A subscription of a restored connection. -/
theorem Loaded.addSubscription {m c : Nat} (h : Loaded r m s) (hc : c < m)
    (eventName : String) :
    Loaded r m (s.addSubscription opts eventName c true) := by
  unfold LiveInstance.addSubscription
  cases hconn : s.conns[c]? with
  | none => exact h
  | some conn =>
  dsimp only
  by_cases hmem : eventName ∈ conn.subscriptions
  · rw [if_pos hmem]
    exact h
  · rw [if_neg hmem]
    simp only [if_true]
    constructor
    · exact h.record
    · rw [List.length_modify]
      exact h.length
    · intro d conn' hd
      rcases Lists.getElem?_modify_cases hd with ⟨hd, -⟩ | ⟨rfl, y, hy, rfl⟩
      · exact h.own d conn' hd
      · exact h.own d y hy
    · exact h.entry
    · exact h.present
    · intro e d hd
      have hgrown : e ∈ s.subscriptionsOf d ∨ e = eventName ∧ d = c →
          e ∈ subscriptionsOf { s with
            conns := s.conns.modify c fun conn =>
              { conn with
                subscriptions := conn.subscriptions ++ [eventName] }
            subscriptionIndex := indexAdd s.subscriptionIndex eventName c }
            d := by
        intro hgiven
        unfold subscriptionsOf at hgiven ⊢
        dsimp only
        by_cases hdc : d = c
        · rw [hdc, Lists.getElem?_modify_self, hconn]
          rw [hdc, hconn] at hgiven
          rcases hgiven with hold | ⟨rfl, -⟩
          · exact List.mem_append_left _ hold
          · exact List.mem_append_right _ (List.mem_singleton.2 rfl)
        · rw [Lists.getElem?_modify_of_ne _ hdc]
          rcases hgiven with hold | ⟨-, hd⟩
          · exact hold
          · exact absurd hd hdc
      rcases mem_indexAdd.1 hd with hold | hnew
      · obtain ⟨hin, hsub⟩ := h.indexed e d hold
        exact ⟨hin, hgrown (Or.inl hsub)⟩
      · refine ⟨?_, hgrown (Or.inr hnew)⟩
        rw [hnew.2]
        exact h.present c hc
    · exact h.shape.indexAdd eventName c

/-- The subscriptions of a restored connection, one by one. -/
theorem Loaded.addSubscriptions {m c : Nat} (hc : c < m)
    (es : List String) : ∀ s, Loaded r m s →
      Loaded r m
        (es.foldl (fun s e => s.addSubscription opts e c true) s) := by
  induction es with
  | nil => exact fun s h => h
  | cons eventName es ih =>
      intro s h
      exact ih _ (h.addSubscription hc eventName)

/-- Restoring one connection. -/
theorem Loaded.loadConnection {m : Nat} (h : Loaded r m s)
    (hids : (r.connObjects.map (·.connId)).Nodup) {p : PersistedConn}
    (hp : r.connObjects[m]? = some p) :
    Loaded r (m + 1) (s.loadConnection opts m) := by
  unfold LiveInstance.loadConnection
  apply Loaded.addSubscriptions
  · rw [h.length]
    omega
  have hid : s.connId { persist := m, proxied := true } = p.connId := by
    unfold connId
    rw [h.record, hp]
    rfl
  have hfresh : ∀ entry ∈ s.connections, entry.1 ≠ p.connId := by
    rintro ⟨id, c⟩ hmem heq
    obtain ⟨q, hq, hqid, hc⟩ := h.entry id c hmem
    have hlt : c < (r.connObjects.map (·.connId)).length := by
      rw [List.length_map]
      exact (List.getElem?_eq_some_iff.1 hq).1
    have hcm : c = m := by
      apply (List.getElem?_inj hlt hids).1
      rw [List.getElem?_map, List.getElem?_map, hq, hp]
      exact congrArg some (hqid.trans heq)
    omega
  rw [hid, mapSet_of_fresh hfresh, h.length]
  constructor
  · exact h.record
  · rw [List.length_append, h.length]
    rfl
  · intro c conn hc
    rcases Lists.getElem?_concat hc with hold | ⟨hc, hnew⟩
    · exact h.own c conn hold
    · rw [hnew, hc]
      exact h.length.symm
  · intro id c hmem
    rcases List.mem_append.1 hmem with hold | hnew
    · obtain ⟨q, hq, hqid, hc⟩ := h.entry id c hold
      exact ⟨q, hq, hqid, by omega⟩
    · injection List.mem_singleton.1 hnew with hid' hc
      exact ⟨p, by rw [hc]; exact hp, hid'.symm, by omega⟩
  · intro c hc
    by_cases hold : c < m
    · obtain ⟨id, hmem⟩ := h.present c hold
      exact ⟨id, List.mem_append_left _ hmem⟩
    · have hcm : c = m := by omega
      rw [hcm]
      exact ⟨p.connId, List.mem_append_right _ (List.mem_singleton.2 rfl)⟩
  · intro e c hc
    obtain ⟨⟨id, hmem⟩, hsub⟩ := h.indexed e c hc
    refine ⟨⟨id, List.mem_append_left _ hmem⟩, ?_⟩
    obtain ⟨q, -, -, hlt⟩ := h.entry id c hmem
    unfold subscriptionsOf at hsub ⊢
    rw [List.getElem?_append_left (by rw [h.length]; exact hlt)]
    exact hsub
  · exact h.shape

/-- Restoring the connections from `m` on. -/
theorem Loaded.loadConnections
    (hids : (r.connObjects.map (·.connId)).Nodup) (k : Nat) :
    ∀ (m : Nat) (s : LiveInstance), Loaded r m s →
      m + k = r.connObjects.length →
      Loaded r (m + k)
        ((List.range' m k).foldl (LiveInstance.loadConnection opts) s) := by
  induction k with
  | zero =>
      intro m s h _
      exact h
  | succ k ih =>
      intro m s h hlen
      have hp := List.getElem?_eq_getElem
        (show m < r.connObjects.length by omega)
      have hnext := ih (m + 1) (s.loadConnection opts m)
        (h.loadConnection hids hp) (by omega)
      rw [List.range'_succ, List.foldl_cons]
      rw [show m + (k + 1) = m + 1 + k by omega]
      exact hnext

/-- The instance that `#initialize` leaves. -/
theorem kept_restored (hread : r.AsRead) (hrecord : r.Reclaimable)
    (stateData : Value) : Kept r (restored opts r stateData) := by
  have hrefs : ∀ ref ∈ r.connections, ref < r.connObjects.length := by
    rw [hread]
    exact fun ref hmem => List.mem_range.1 hmem
  have honce : r.connections.Nodup := by
    rw [hread]
    exact List.nodup_range
  unfold restored
  by_cases hinit : r.hasInitiated = true
  · rw [if_pos hinit]
    have hstart : Loaded r 0
        ({ toActorInstance := .initialized r } : LiveInstance) := by
      constructor
      · rfl
      · rfl
      · intro c conn hc
        cases hc
      · intro id c hmem
        cases hmem
      · intro c hc
        omega
      · intro e c hmem
        cases hmem
      · intro entry hmem
        cases hmem
    have hloaded : Loaded r r.connObjects.length (initialized opts r) := by
      have hall := @Loaded.loadConnections opts r hrecord.ids
        r.connObjects.length 0 _ hstart (by omega)
      rw [Nat.zero_add, ← List.range_eq_range', ← hread] at hall
      exact hall
    have hraw := hloaded.record
    constructor
    · exact ⟨[], by rw [hraw, List.append_nil], by simp⟩
    · intro c conn hc
      have hpersist := hloaded.own c conn hc
      have hlt := (List.getElem?_eq_some_iff.1 hc).1
      rw [hloaded.length] at hlt
      rw [hraw]
      exact ⟨by omega, fun _ => hpersist, fun hle => by omega⟩
    · exact Nat.le_of_eq hloaded.length.symm
    · intro id c hmem p hp
      obtain ⟨q, hq, hid, -⟩ := hloaded.entry id c hmem
      rw [hp] at hq
      rw [Option.some.inj hq]
      exact hid
    · intro e c _ hmem
      exact hloaded.indexed e c hmem
    · exact hloaded.shape
    · intro c hc _
      exact hloaded.present c hc
    · rw [hraw]
      exact honce
    · rw [hraw]
      exact hrefs
  · rw [if_neg hinit]
    have hnone : r.connections = [] := hrecord.initiated.resolve_left hinit
    have hlen : r.connObjects.length = 0 := by
      have := congrArg List.length (hread.symm.trans hnone)
      simpa using this
    constructor
    · exact ⟨[], by rw [List.append_nil]; rfl, by simp⟩
    · intro c conn hc
      cases hc
    · rw [hlen]
      exact Nat.zero_le _
    · intro id c hmem
      cases hmem
    · intro e c hc
      omega
    · intro entry hmem
      cases hmem
    · intro c hc
      omega
    · exact honce
    · exact hrefs

-- ========================================================== one operation

/-- What an operation keeps: the invariant, and that a restored connection
does not come back. -/
def Follows (r : PersistedActor) (s s' : LiveInstance) : Prop :=
  Kept r s' ∧ ∀ c, c < r.connObjects.length → s'.InMap c → s.InMap c

/-- `Kept.congr`, for an operation. -/
theorem Kept.follows (h : Kept r s)
    (hidents : idents s'.persistRaw = idents s.persistRaw)
    (hlist : s'.persistRaw.connections = s.persistRaw.connections)
    (hconns : s'.conns = s.conns)
    (hconnections : s'.connections = s.connections)
    (hindex : s'.subscriptionIndex = s.subscriptionIndex) :
    Follows r s s' := by
  refine ⟨h.congr hidents hlist hconns hconnections hindex, ?_⟩
  intro c _ hin
  unfold InMap at hin ⊢
  rw [hconnections] at hin
  exact hin

/-- A mutation of something else of an object. -/
theorem idents_modifyConn (p : PersistedActor) (ref : Nat)
    {f : PersistedConn → PersistedConn}
    (hf : ∀ old, (f old).connId = old.connId
      ∧ (f old).connDriver = old.connDriver) :
    idents (p.modifyConn ref f) = idents p := by
  unfold idents PersistedActor.modifyConn
  refine List.ext_getElem? fun i => ?_
  simp only [List.getElem?_map, List.getElem?_modify]
  cases p.connObjects[i]? with
  | none => rfl
  | some old =>
      by_cases hi : ref = i
      · simp [hi, hf old]
      · simp [hi]

/-- A mutation of one object. -/
theorem Kept.mutateConn (h : Kept r s) (conn : Conn) {key : String}
    {f : PersistedConn → PersistedConn}
    (hf : ∀ old, (f old).connId = old.connId
      ∧ (f old).connDriver = old.connDriver) :
    Follows r s (s.mutateConn conn key f) := by
  rw [mutateConn_eq]
  exact h.follows (idents_modifyConn s.persistRaw conn.persist hf) rfl rfl
    rfl rfl

/-- The subscriptions of a connection that is not of the record. -/
theorem Kept.subscribes (h : Kept r s) {c : Nat} {conn : Conn}
    {f : List String → List String}
    (hconn : s.conns[c]? = some conn) (hc : r.connObjects.length ≤ c)
    (hidents : idents s'.persistRaw = idents s.persistRaw)
    (hlist : s'.persistRaw.connections = s.persistRaw.connections)
    (hconns : s'.conns = s.conns.modify c fun conn =>
      { conn with subscriptions := f conn.subscriptions })
    (hconnections : s'.connections = s.connections)
    (hshape : IndexShape s'.subscriptionIndex)
    (hindex : ∀ e d, d ≠ c → d ∈ members s'.subscriptionIndex e →
      d ∈ members s.subscriptionIndex e) : Follows r s s' := by
  have hlen : s'.persistRaw.connObjects.length
      = s.persistRaw.connObjects.length := by
    have := congrArg List.length hidents
    unfold idents at this
    simpa only [List.length_map] using this
  have hin : ∀ d, s'.InMap d ↔ s.InMap d := by
    intro d
    unfold InMap
    rw [hconnections]
  refine ⟨?_, fun d _ => (hin d).1⟩
  constructor
  · rw [hidents]
    exact h.objects
  · intro d conn' hd
    rw [hconns] at hd
    rw [hlen]
    rcases Lists.getElem?_modify_cases hd with ⟨hd, -⟩ | ⟨rfl, y, hy, rfl⟩
    · exact h.own d conn' hd
    · exact h.own d y hy
  · rw [hconns, List.length_modify]
    exact h.length
  · rw [hconnections]
    exact h.entry
  · intro e d hd hmem
    have hne : d ≠ c := by omega
    obtain ⟨hpresent, hsub⟩ := h.indexed e d hd (hindex e d hne hmem)
    refine ⟨(hin d).2 hpresent, ?_⟩
    unfold subscriptionsOf at hsub ⊢
    rw [hconns, Lists.getElem?_modify_of_ne _ hne]
    exact hsub
  · exact hshape
  · intro d hd hmem
    rw [hlist] at hmem
    exact (hin d).2 (h.listed d hd hmem)
  · rw [hlist]
    exact h.once
  · rw [hlist, hlen]
    exact h.refs

/-- `#addSubscription` of a connection that is not of the record. -/
theorem Kept.addSubscription (h : Kept r s) {c : Nat} (eventName : String)
    (hc : r.connObjects.length ≤ c) :
    Follows r s (s.addSubscription opts eventName c false) := by
  unfold LiveInstance.addSubscription
  cases hconn : s.conns[c]? with
  | none => exact ⟨h, fun _ _ hin => hin⟩
  | some conn =>
  dsimp only
  by_cases hmem : eventName ∈ conn.subscriptions
  · rw [if_pos hmem]
    exact ⟨h, fun _ _ hin => hin⟩
  · rw [if_neg hmem]
    simp only [Bool.false_eq_true, if_false, callSaveState]
    rw [mutateConn_eq]
    apply h.subscribes (f := (· ++ [eventName])) hconn hc
    · dsimp only
      rw [saveState_persistRaw]
      exact idents_modifyConn s.persistRaw conn.persist
        fun old => ⟨rfl, rfl⟩
    · dsimp only
      rw [saveState_persistRaw]
      rfl
    · rfl
    · rfl
    · exact h.shape.indexAdd eventName c
    · intro e d hd hin
      rcases mem_indexAdd.1 hin with hold | hnew
      · exact hold
      · exact absurd hnew.2 hd

/-- `#removeSubscription` of a connection that is not of the record. -/
theorem Kept.removeSubscription (h : Kept r s) {c : Nat}
    (eventName : String) (hc : r.connObjects.length ≤ c) :
    Follows r s (s.removeSubscription opts eventName c false) := by
  unfold LiveInstance.removeSubscription
  cases hconn : s.conns[c]? with
  | none => exact ⟨h, fun _ _ hin => hin⟩
  | some conn =>
  dsimp only
  by_cases hmem : eventName ∉ conn.subscriptions
  · rw [if_pos hmem]
    exact ⟨h, fun _ _ hin => hin⟩
  · rw [if_neg hmem]
    simp only [Bool.false_eq_true, if_false, callSaveState]
    rw [mutateConn_eq]
    apply h.subscribes (f := (·.erase eventName)) hconn hc
    · dsimp only
      rw [saveState_persistRaw]
      exact idents_modifyConn s.persistRaw conn.persist
        fun old => ⟨rfl, rfl⟩
    · dsimp only
      rw [saveState_persistRaw]
      rfl
    · rfl
    · rfl
    · exact h.shape.indexDelete eventName c
    · intro e d hd hin
      exact ((mem_indexDelete h.shape).1 hin).1

/-- `createConn` of a fresh id. -/
theorem Kept.createConn (h : Kept r s) {id token : String}
    {params state : Value} {driver : ConnectionDriver}
    {driverState auth : Value} (hfreshId : s.FreshId id)
    (hstep : s.createConn opts id token params state driver driverState auth
      = some s') : Follows r s s' := by
  obtain ⟨new, hobjects, hnew⟩ := h.objects
  have hlen : r.connObjects.length ≤ s.persistRaw.connObjects.length := by
    have := congrArg List.length hobjects
    unfold idents at this
    simp only [List.length_append, List.length_map] at this
    omega
  unfold LiveInstance.createConn at hstep
  split at hstep
  case isFalse => cases hstep
  case isTrue hready =>
    have hnone : s.connections.lookup id = none := by
      simp only [Bool.and_eq_true, Option.isNone_iff_eq_none] at hready
      exact hready.2
    have hfresh : ∀ entry ∈ s.connections, entry.1 ≠ id := by
      rintro entry hmem heq
      obtain ⟨v, hv⟩ := mem_keys_iff.1 (List.mem_map.2 ⟨entry, hmem, heq⟩)
      rw [hnone] at hv
      cases hv
    injection hstep with hstep
    subst hstep
    unfold callSaveState
    dsimp only
    rw [mutate_eq _ (by simp), mutate_eq _ (by simp)]
    dsimp only
    rw [mapSet_of_fresh hfresh]
    have hin : ∀ c, c < r.connObjects.length →
        (∃ k, (k, c) ∈ s.connections ++ [(id, s.conns.length)]) →
        s.InMap c := by
      rintro c hc ⟨k, hk⟩
      rcases List.mem_append.1 hk with hold | hlast
      · exact ⟨k, hold⟩
      · injection List.mem_singleton.1 hlast with _ hcs
        have := h.length
        omega
    refine ⟨?_, hin⟩
    constructor
    · dsimp only
      rw [saveState_persistRaw]
      refine ⟨new ++ [(id, driver)], ?_, ?_⟩
      · show List.map _ (s.persistRaw.connObjects ++ [_]) = _
        rw [List.map_append, ← List.append_assoc, ← hobjects]
        rfl
      · intro x hx
        rcases List.mem_append.1 hx with hx | hx
        · exact hnew x hx
        · rw [List.mem_singleton.1 hx]
          intro hmem
          obtain ⟨p, hp, hpid⟩ := List.mem_map.1 hmem
          obtain ⟨c, hc⟩ := List.mem_iff_getElem?.1 hp
          obtain ⟨p', hp', hid, -⟩ := h.object hc
          exact hfreshId p' (List.mem_of_getElem? hp') (hid.trans hpid)
    · dsimp only
      rw [saveState_persistRaw]
      intro c conn hc
      show _ < (s.persistRaw.connObjects ++ [_]).length ∧ _
      rw [List.length_append, List.length_singleton]
      rcases Lists.getElem?_concat hc with hold | ⟨hlast, hconn⟩
      · obtain ⟨hlt, hown⟩ := h.own c conn hold
        exact ⟨by omega, hown⟩
      · have hconns := h.length
        rw [hconn]
        dsimp only
        exact ⟨by omega, fun hlt => by omega, fun _ => hlen⟩
    · dsimp only
      rw [List.length_append]
      exact Nat.le_trans h.length (Nat.le_add_right _ _)
    · intro k c hmem p hp
      rcases List.mem_append.1 hmem with hold | hlast
      · exact h.entry k c hold p hp
      · injection List.mem_singleton.1 hlast with _ hcs
        have hlt := (List.getElem?_eq_some_iff.1 hp).1
        have := h.length
        omega
    · intro e c hc hmem
      obtain ⟨⟨k, hk⟩, hsub⟩ := h.indexed e c hc hmem
      refine ⟨⟨k, List.mem_append_left _ hk⟩, ?_⟩
      have hconns := h.length
      unfold subscriptionsOf at hsub ⊢
      rw [List.getElem?_append_left (by omega)]
      exact hsub
    · exact h.shape
    · dsimp only
      rw [saveState_persistRaw]
      intro c hc hmem
      rcases List.mem_append.1 hmem with hold | hlast
      · obtain ⟨k, hk⟩ := h.listed c hc hold
        exact ⟨k, List.mem_append_left _ hk⟩
      · have := List.mem_singleton.1 hlast
        omega
    · dsimp only
      rw [saveState_persistRaw]
      apply h.once.append (List.nodup_singleton _)
      intro ref href hlast
      have := h.refs ref href
      have := List.mem_singleton.1 hlast
      omega
    · dsimp only
      rw [saveState_persistRaw]
      intro ref href
      show ref < (s.persistRaw.connObjects ++ [_]).length
      rw [List.length_append, List.length_singleton]
      rcases List.mem_append.1 href with hold | hlast
      · have := h.refs ref hold
        omega
      · have := List.mem_singleton.1 hlast
        omega

/-- Where `__removeConn` finds a persisted connection. -/
theorem findConnIdx_some {id : String} {i : Nat}
    (hfind : s.findConnIdx id = some i) :
    ∃ ref p, s.persistRaw.connections[i]? = some ref
      ∧ s.persistRaw.connObjects[ref]? = some p ∧ p.connId = id := by
  unfold findConnIdx at hfind
  obtain ⟨pre, ref, post, hlist, hlen, hid, -⟩ := Lists.findIdx?_split hfind
  refine ⟨ref, ?_⟩
  cases hp : s.persistRaw.connObjects[ref]? with
  | none =>
      rw [hp] at hid
      cases hid
  | some p =>
      rw [hp] at hid
      refine ⟨p, ?_, rfl, by simpa using hid⟩
      rw [hlist, ← hlen]
      simp

/-- `__removeConn`, of any connection: a restored one is gone. -/
theorem Kept.removeConn (h : Kept r s)
    (hids : (r.connObjects.map (·.connId)).Nodup) (d : Nat) :
    Follows r s (s.removeConn opts d)
      ∧ (d < r.connObjects.length → ¬ (s.removeConn opts d).InMap d) := by
  cases hconn : s.conns[d]? with
  | none =>
      unfold LiveInstance.removeConn
      rw [hconn]
      refine ⟨⟨h, fun _ _ hin => hin⟩, ?_⟩
      intro hd
      have hlen := h.length
      rw [List.getElem?_eq_none_iff] at hconn
      omega
  | some conn =>
  obtain ⟨t, hraw, heq⟩ := @removeConn_eq opts s d conn hconn
  obtain ⟨hshape, hmembers⟩ :=
    foldl_indexDelete conn.subscriptions d s.subscriptionIndex h.shape
  rw [heq]
  have hin : ∀ c, (∃ k, (k, c) ∈ mapDelete s.connections (s.connId conn)) →
      s.InMap c := by
    rintro c ⟨k, hk⟩
    exact ⟨k, (mem_mapDelete.1 hk).1⟩
  -- another restored connection has another id
  have hstays : ∀ c, c < r.connObjects.length → c ≠ d → s.InMap c →
      ∃ k, (k, c) ∈ mapDelete s.connections (s.connId conn) := by
    rintro c hc hne ⟨k, hk⟩
    have hp := List.getElem?_eq_getElem hc
    refine ⟨k, mem_mapDelete.2 ⟨hk, ?_⟩⟩
    rintro rfl
    exact hne (h.conn_of_id hids hconn hp (h.entry _ c hk _ hp).symm).symm
  have hgone : d < r.connObjects.length →
      ¬ ∃ k, (k, d) ∈ mapDelete s.connections (s.connId conn) := by
    rintro hd ⟨k, hk⟩
    obtain ⟨hmem, hne⟩ := mem_mapDelete.1 hk
    have hp := List.getElem?_eq_getElem hd
    have hpersist := (h.own d conn hconn).2.1 hd
    obtain ⟨p', hp', hid, -⟩ := h.object hp
    apply hne
    rw [← h.entry k d hmem _ hp, ← hid]
    unfold connId
    rw [hpersist, hp']
    rfl
  have hlist : t.persistRaw.connections.Sublist
      s.persistRaw.connections := by
    rw [hraw]
    dsimp only
    split
    · exact List.eraseIdx_sublist _ _
    · exact List.Sublist.refl _
  -- a restored connection that is removed leaves the persisted list
  have hunlisted : d < r.connObjects.length →
      d ∉ t.persistRaw.connections := by
    intro hd hmem
    have hp := List.getElem?_eq_getElem hd
    have hpersist := (h.own d conn hconn).2.1 hd
    obtain ⟨p', hp', hid, -⟩ := h.object hp
    have hconnId : s.connId conn = p'.connId := by
      unfold connId
      rw [hpersist, hp']
      rfl
    rw [hraw] at hmem
    dsimp only at hmem
    split at hmem
    case h_1 i hfind =>
      obtain ⟨ref, q, href, hq, hqid⟩ := findConnIdx_some hfind
      have hrefd : ref = d := by
        apply h.ref_of_id hids hp hq
        rw [hqid, hconnId, hid]
      rw [hrefd] at href
      obtain ⟨hlt, hget⟩ := List.getElem?_eq_some_iff.1 href
      have herase : s.persistRaw.connections.eraseIdx i
          = s.persistRaw.connections.erase d := by
        rw [← hget, List.Nodup.erase_getElem h.once]
      rw [herase] at hmem
      exact h.once.not_mem_erase hmem
    case h_2 hfind =>
      unfold findConnIdx at hfind
      rw [List.findIdx?_eq_none_iff] at hfind
      have hfalse := hfind d hmem
      rw [hp', hconnId] at hfalse
      simp at hfalse
  refine ⟨⟨?_, fun c _ hc => hin c hc⟩, hgone⟩
  constructor
  · dsimp only
    rw [hraw]
    exact h.objects
  · dsimp only
    rw [hraw]
    exact h.own
  · exact h.length
  · intro k c hmem
    exact h.entry k c (mem_mapDelete.1 hmem).1
  · intro e c hc hmem
    obtain ⟨hold, hnot⟩ := (hmembers e c).1 hmem
    obtain ⟨hpresent, hsub⟩ := h.indexed e c hc hold
    refine ⟨hstays c hc ?_ hpresent, hsub⟩
    rintro rfl
    apply hnot
    unfold subscriptionsOf at hsub
    rw [hconn] at hsub
    exact ⟨hsub, rfl⟩
  · exact hshape
  · intro c hc hmem
    refine hstays c hc ?_ (h.listed c hc (hlist.subset hmem))
    rintro rfl
    exact hunlisted hc hmem
  · exact h.once.sublist hlist
  · intro ref hmem
    dsimp only
    rw [hraw]
    exact h.refs ref (hlist.subset hmem)

-- ============================================================== the sweep

/-- One operation after another. -/
theorem Follows.trans {s'' : LiveInstance} (h : Follows r s s')
    (h' : Follows r s' s'') : Follows r s s'' :=
  ⟨h'.1, fun c hc hin => h.2 c hc (h'.2 c hc hin)⟩

/-- The probe of a connection that is not closed. -/
theorem Kept.checkLiveness (h : Kept r s) (c : Nat) :
    Follows r s (s.checkLiveness c) := by
  unfold LiveInstance.checkLiveness
  split
  · exact ⟨h, fun _ _ hin => hin⟩
  · next conn _ => exact h.mutateConn conn fun old => ⟨rfl, rfl⟩

/-- One check of the sweep. -/
theorem Kept.checkConnection (h : Kept r s)
    (hids : (r.connObjects.map (·.connId)).Nodup)
    (globalState : GenericConnGlobalState) (now : Int) (c : Nat) :
    Follows r s (s.checkConnection opts timeout globalState now c) := by
  unfold LiveInstance.checkConnection
  split
  · exact ⟨h, fun _ _ hin => hin⟩
  · split
    · exact ⟨h, fun _ _ hin => hin⟩
    · split
      · split
        · exact ⟨h, fun _ _ hin => hin⟩
        · exact (h.removeConn hids c).1
      · exact h.checkLiveness c

/-- The driver of a restored connection finds no transport, and the sweep
takes the connection for closed. -/
theorem PersistedActor.NoTransport.closed
    {globalState : GenericConnGlobalState}
    (hnone : r.NoTransport globalState)
    (hdrivers : ∀ p ∈ r.connObjects, p.connDriver ≠ .http)
    {p p' : PersistedConn} (hp : p ∈ r.connObjects)
    (hid : p'.connId = p.connId) (hdriver : p'.connDriver = p.connDriver) :
    isConnectionClosed (globalState.readyState p') = true := by
  obtain ⟨hws, hsse⟩ := hnone p hp
  unfold GenericConnGlobalState.readyState getConnectionReadyState
  rw [hid, hdriver, hws, hsse]
  cases hd : p.connDriver with
  | webSocket => rfl
  | sse => rfl
  | http => exact absurd hd (hdrivers p hp)

/-- What a check leaves of the objects of the record. -/
theorem Kept.checkConnection_object (h : Kept r s)
    (hrecord : r.Reclaimable) {globalState : GenericConnGlobalState}
    (hnone : r.NoTransport globalState) (now : Int) (d : Nat) {c : Nat}
    (hc : c < r.connObjects.length) :
    (s.checkConnection opts timeout globalState now d).persistRaw.connObjects[c]?
      = s.persistRaw.connObjects[c]? := by
  unfold LiveInstance.checkConnection
  split
  · rfl
  · next conn hconn =>
    split
    · rfl
    · next p hp =>
      split
      · split
        · rfl
        · obtain ⟨t, hraw, heq⟩ := @removeConn_eq opts s d conn hconn
          rw [heq]
          dsimp only
          rw [hraw]
      · next hopen =>
        unfold LiveInstance.checkLiveness
        rw [hconn]
        dsimp only
        rw [mutateConn_eq]
        apply Lists.getElem?_modify_of_ne
        -- an open connection is not of the record
        obtain ⟨-, hold, hnew⟩ := h.own d conn hconn
        by_cases hd : d < r.connObjects.length
        · exfalso
          have hq := List.getElem?_eq_getElem hd
          obtain ⟨p', hp', hid, hdriver⟩ := h.object hq
          rw [hold hd, hp'] at hp
          rw [Option.some.inj hp] at hid hdriver
          apply hopen
          exact PersistedActor.NoTransport.closed hnone hrecord.drivers
            (List.getElem_mem hd) hid hdriver
        · have := hnew (by omega)
          omega

/-- A late check removes a restored connection. -/
theorem Kept.checkConnection_gone (h : Kept r s)
    (hrecord : r.Reclaimable) {globalState : GenericConnGlobalState}
    (hnone : r.NoTransport globalState) {now : Int} {c : Nat}
    (hc : c < r.connObjects.length)
    (hlate : ∀ p, s.persistRaw.connObjects[c]? = some p →
      seenLately timeout now p = false) :
    ¬ (s.checkConnection opts timeout globalState now c).InMap c := by
  have hconn := List.getElem?_eq_getElem
    (Nat.lt_of_lt_of_le hc h.length)
  have hpersist := (h.own c _ hconn).2.1 hc
  obtain ⟨p, hp, hid, hdriver⟩ := h.object (List.getElem?_eq_getElem hc)
  have hclosed := PersistedActor.NoTransport.closed hnone hrecord.drivers
    (List.getElem_mem hc) hid hdriver
  unfold LiveInstance.checkConnection
  rw [hconn]
  dsimp only
  rw [hpersist, hp]
  dsimp only
  rw [if_pos hclosed, hlate p hp, if_neg (by simp)]
  exact (h.removeConn hrecord.ids c).2 hc

/-- The sweep over some entries. -/
theorem Kept.checkConnections (hrecord : r.Reclaimable)
    {globalState : GenericConnGlobalState}
    (hnone : r.NoTransport globalState) (now : Int)
    (entries : List (String × Nat)) : ∀ s, Kept r s →
      Follows r s (entries.foldl (fun t entry =>
        t.checkConnection opts timeout globalState now entry.2) s)
      ∧ ((∀ (c : Nat) (p : PersistedConn), c < r.connObjects.length →
            s.persistRaw.connObjects[c]? = some p →
            seenLately timeout now p = false) →
          ∀ entry ∈ entries, entry.2 < r.connObjects.length →
            ¬ (entries.foldl (fun t entry =>
              t.checkConnection opts timeout globalState now entry.2)
              s).InMap entry.2) := by
  induction entries with
  | nil =>
      intro s h
      refine ⟨⟨h, fun _ _ hin => hin⟩, ?_⟩
      intro _ entry hmem
      cases hmem
  | cons entry entries ih =>
      intro s h
      have hfirst := @Kept.checkConnection opts timeout r s h hrecord.ids
        globalState now entry.2
      obtain ⟨hrest, hgone⟩ := ih _ hfirst.1
      refine ⟨hfirst.trans hrest, ?_⟩
      intro hlate x hx hlt
      rcases List.mem_cons.1 hx with rfl | hx
      · intro hin
        exact h.checkConnection_gone hrecord hnone hlt
          (fun p hp => hlate x.2 p hlt hp) (hrest.2 x.2 hlt hin)
      · apply hgone _ x hx hlt
        intro c p hc hp
        rw [h.checkConnection_object hrecord hnone now entry.2 hc] at hp
        exact hlate c p hc hp

/-- A sweep that is late enough leaves nothing of the record's
connections. -/
theorem Kept.sweep (h : Kept r s) (hrecord : r.Reclaimable)
    {globalState : GenericConnGlobalState}
    (hnone : r.NoTransport globalState) :
    Follows r s (s.checkConnectionsLiveness opts timeout globalState)
      ∧ (s.Overdue timeout r → ∀ c, c < r.connObjects.length →
        ¬ (s.checkConnectionsLiveness opts timeout globalState).InMap c) := by
  obtain ⟨hfollows, hgone⟩ := @Kept.checkConnections opts timeout r hrecord
    globalState hnone s.now s.connections s h
  refine ⟨hfollows, ?_⟩
  intro hlate c hc hin
  obtain ⟨id, hmem⟩ := hfollows.2 c hc hin
  exact hgone hlate (id, c) hmem hc hin

-- ============================================================ every run

/-- One step. -/
theorem Kept.step {a : SweepStep} (h : Kept r s) (hrecord : r.Reclaimable)
    (hstep : sweepStep codec opts timeout r s a = some s') :
    Follows r s s' := by
  cases a with
  | checkConnectionsLiveness globalState =>
      simp only [sweepStep] at hstep
      split at hstep
      · next hnone =>
        rw [← Option.some.inj hstep]
        exact (h.sweep hrecord hnone).1
      · cases hstep
  | live a =>
      simp only [sweepStep] at hstep
      split at hstep
      case isFalse => cases hstep
      case isTrue hadmits =>
      cases a with
      | stateChange path valid f =>
          simp only [indexStep, liveStep] at hstep
          split at hstep
          · rw [← Option.some.inj hstep]
            unfold mutate ActorInstance.onChange
            dsimp only
            split
            · exact h.follows rfl rfl rfl rfl rfl
            · exact h.follows rfl rfl rfl rfl rfl
          · cases hstep
      | createConn id token params state driver driverState auth =>
          simp only [indexStep] at hstep
          split at hstep
          · next hfresh => exact h.createConn hfresh hstep
          · cases hstep
      | removeConn c =>
          rw [← Option.some.inj hstep]
          exact (h.removeConn hrecord.ids c).1
      | addSubscription eventName c =>
          rw [← Option.some.inj hstep]
          exact h.addSubscription eventName (of_decide_eq_true hadmits)
      | removeSubscription eventName c =>
          rw [← Option.some.inj hstep]
          exact h.removeSubscription eventName (of_decide_eq_true hadmits)
      | setConnState c f =>
          rw [← Option.some.inj hstep]
          unfold setConnState
          split
          · exact ⟨h, fun _ _ hin => hin⟩
          · next conn _ => exact h.mutateConn conn fun old => ⟨rfl, rfl⟩
      | scheduleEvent event =>
          rw [← Option.some.inj hstep]
          unfold scheduleEvent
          rw [mutate_eq _ (by simp)]
          exact h.follows rfl rfl rfl rfl rfl
      | onAlarm =>
          rw [← Option.some.inj hstep]
          unfold onAlarm
          rw [mutate_eq _ (by simp)]
          exact h.follows rfl rfl rfl rfl rfl
      | checkLiveness c => cases hadmits
      | stop =>
          rw [← Option.some.inj hstep]
          have hraw : (s.stop opts).persistRaw = s.persistRaw :=
            saveState_persistRaw _ _
          exact h.follows (by rw [hraw]) (by rw [hraw]) rfl rfl rfl
      | save a =>
          simp only [indexStep] at hstep
          split at hstep
          case isFalse => cases hstep
          case isTrue hkeeps =>
            obtain ⟨t, ht, rfl⟩ := Option.map_eq_some_iff.1 hstep
            have hraw : t.persistRaw = s.persistRaw :=
              saveStep_persistRaw hkeeps ht
            apply h.follows
            · exact congrArg idents hraw
            · exact congrArg PersistedActor.connections hraw
            · rfl
            · rfl
            · rfl

/-- A run. -/
theorem Kept.run (hrecord : r.Reclaimable) (as : List SweepStep) :
    ∀ {s s' : LiveInstance}, Kept r s →
      (sweepSystem codec opts timeout r).run s as = some s' →
      Follows r s s' := by
  induction as with
  | nil =>
      intro s s' h hrun
      rw [← Option.some.inj hrun]
      exact ⟨h, fun _ _ hin => hin⟩
  | cons a as ih =>
      intro s s' h hrun
      obtain ⟨s₁, hstep, hrun⟩ := System.run_cons hrun
      have hfirst := h.step hrecord hstep
      exact hfirst.trans (ih hfirst.1 hrun)

end LiveInstance

open LiveInstance

/-- An instance is started from a record without http connections, and no
transport attaches again to the connections of the record. From the first
sweep on that is late enough for all of them, the connection map, the
persisted list and the index have none of them, whatever else the
instance does. -/
theorem restored_reclaimed {r : PersistedActor} (hread : r.AsRead)
    (hrecord : r.Reclaimable) {s s' s'' : LiveInstance}
    (hs : (sweepSystem codec opts timeout r).Reachable s)
    (hlate : s.Overdue timeout r) {globalState : GenericConnGlobalState}
    (hsweep : sweepStep codec opts timeout r s
      (.checkConnectionsLiveness globalState) = some s')
    {as : List SweepStep}
    (hrun : (sweepSystem codec opts timeout r).run s' as = some s'') :
    s''.Reclaimed r := by
  have hkept : Kept r s := by
    apply System.Reaches.invariant _ _ hs
    · rintro s₀ ⟨stateData, rfl⟩
      exact kept_restored hread hrecord stateData
    · intro s₁ a s₂ _ hinv _ hstep
      exact (hinv.step hrecord hstep).1
  simp only [sweepStep] at hsweep
  split at hsweep
  case isFalse => cases hsweep
  case isTrue hnone =>
    obtain ⟨hfollows, hgone⟩ := @Kept.sweep opts timeout r s hkept hrecord
      globalState hnone
    rw [Option.some.inj hsweep] at hfollows hgone
    have hafter := Kept.run hrecord as hfollows.1 hrun
    apply hafter.1.reclaimed
    intro c hc hin
    exact hgone hlate c hc (hafter.2 c hc hin)

/-- A connection as it was stored, last seen at 0. -/
def storedConn (id : String) (driver : ConnectionDriver)
    (subscriptions : List String) : PersistedConn where
  connId := id
  token := "t"
  connDriver := driver
  connDriverState := .obj []
  params := .undefined
  state := .undefined
  authData := .undefined
  subscriptions := subscriptions
  lastSeen := .ofInt 0

/-- An actor that slept with these connections. -/
def sleptWith (conns : List PersistedConn) : PersistedActor where
  hasInitiated := true
  connObjects := conns
  connections := List.range conns.length

/-- Nothing in the global state. -/
def noTransports : GenericConnGlobalState := ⟨fun _ => none, fun _ => none⟩

/-- A time at which each of these is overdue. -/
theorem not_seenLately (id : String) (driver : ConnectionDriver)
    (subscriptions : List String) :
    seenLately (.ofInt 2500) 2500 (storedConn id driver subscriptions)
      = false := by
  have hzero : (2500 : Rat) - 0 = 2500 := by
    rw [Rat.sub_eq_add_neg, Rat.neg_zero, Rat.add_zero]
  show decide ((2500 : Rat) - 0 < 2500) = false
  rw [hzero, decide_eq_false_iff_not]
  exact Rat.lt_irrefl

/-- The instance that a record starts, at that time. -/
def wokenAt (r : PersistedActor) : LiveInstance :=
  { LiveInstance.restored ⟨10000⟩ r .undefined with now := 2500 }

/-- It is reached. -/
theorem wokenAt_reachable (r : PersistedActor) :
    (sweepSystem sampleCodec ⟨10000⟩ (.ofInt 2500) r).Reachable
      (wokenAt r) :=
  System.Reachable.run [.live (.save (.dateNow 2500))]
    (.init ⟨.undefined, rfl⟩) rfl

/-- A socket that was subscribed to an event, and a stream. -/
def sleptTwo : PersistedActor :=
  sleptWith [storedConn "a" .webSocket ["news"], storedConn "b" .sse []]

/-- The sweep takes both out. -/
theorem restored_reclaimed_two :
    ∃ s', sweepStep sampleCodec ⟨10000⟩ (.ofInt 2500) sleptTwo
          (wokenAt sleptTwo) (.checkConnectionsLiveness noTransports)
        = some s' ∧ s'.Reclaimed sleptTwo := by
  refine ⟨_, rfl, @restored_reclaimed sampleCodec ⟨10000⟩ (.ofInt 2500)
    sleptTwo rfl ⟨by decide, by decide, Or.inl rfl⟩ _ _ _
    (wokenAt_reachable sleptTwo) ?_ noTransports rfl [] rfl⟩
  intro c p hc hp
  have hmem : p ∈ sleptTwo.connObjects :=
    List.mem_of_getElem? hp
  rcases List.mem_cons.1 hmem with rfl | hmem
  · exact not_seenLately _ _ _
  · rw [List.mem_singleton.1 hmem]
    exact not_seenLately _ _ _

/-- An HTTP connection that was stored while its action ran: every sweep
takes it for open. -/
theorem restored_not_reclaimed :
    ¬ ∀ (r : PersistedActor) (s s' : LiveInstance)
        (globalState : GenericConnGlobalState), r.AsRead →
        (sweepSystem sampleCodec ⟨10000⟩ (.ofInt 2500) r).Reachable s →
        s.Overdue (.ofInt 2500) r →
        sweepStep sampleCodec ⟨10000⟩ (.ofInt 2500) r s
          (.checkConnectionsLiveness globalState) = some s' →
        s'.Reclaimed r := by
  intro hall
  have hoverdue : (wokenAt (sleptWith [storedConn "a" .http []])).Overdue
      (.ofInt 2500) (sleptWith [storedConn "a" .http []]) := by
    intro c p hc hp
    have hmem : p ∈ [storedConn "a" .http []] := List.mem_of_getElem? hp
    rw [List.mem_singleton.1 hmem]
    exact not_seenLately _ _ _
  have h := hall (sleptWith [storedConn "a" .http []]) _ _ noTransports rfl
    (wokenAt_reachable _) hoverdue rfl
  have hle := h.connections "a" 0 (List.mem_singleton.2 rfl)
  exact absurd hle (by decide)

end RivetKit.Actor
