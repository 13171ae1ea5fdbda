/-
HTTP actions leave nothing of their connections behind
(`http_action_leaves_nothing`), whatever else the instance does, unless
`onConnect` throws what `stringifyError` throws on
(`failed_hook_leaves_connection`).

# The invariant

`RequestsInv` is about the tables of `ConnTables`: the connection that was
made for a request is `Owned` from then on, and `Released` from the
`finally` on. The others may do to the tables what they like but subscribe a
connection that is gone.
-/
import RivetKit.Actor.HttpActions
import RivetKit.Actor.Proofs.ConnTables

namespace RivetKit.Actor

open Transition
open Js
open LiveInstance (mapSet members IndexShape mem_mapSet)

variable {codec : Codec} {opts : ActorOptions}

-- ================================================================ the start

namespace ConnTables

/-- A subscription leaves the objects. -/
theorem subscribe_ids (t : ConnTables) (eventName : String) (c : Nat) :
    (t.subscribe eventName c).ids = t.ids := by
  unfold subscribe
  split
  · rfl
  · split
    · rfl
    · rfl

end ConnTables

namespace LiveInstance

/-- The subscriptions of a connection that is restored. -/
theorem bounded_addSubscriptions (c : Nat) (es : List String) :
    ∀ {s : LiveInstance}, s.tables.Bounded →
      (es.foldl (fun s e => s.addSubscription opts e c true) s).tables.Bounded
        ∧ (es.foldl (fun s e => s.addSubscription opts e c true)
            s).tables.ids = s.tables.ids := by
  induction es with
  | nil => exact fun h => ⟨h, rfl⟩
  | cons e es ih =>
      intro s h
      have hstep := @tables_addSubscription opts s e c true
      obtain ⟨hbounded, hids⟩ := ih (s := s.addSubscription opts e c true)
        (hstep ▸ h.subscribe e c)
      refine ⟨hbounded, hids.trans ?_⟩
      rw [hstep]
      exact ConnTables.subscribe_ids _ e c

/-- A connection that is restored. -/
theorem bounded_loadConnection {s : LiveInstance} (h : s.tables.Bounded)
    {ref : Nat} (href : ref < s.tables.ids.length) :
    (s.loadConnection opts ref).tables.Bounded
      ∧ (s.loadConnection opts ref).tables.ids = s.tables.ids := by
  unfold loadConnection
  refine bounded_addSubscriptions _ _ ?_
  have hlength : s.tables.conns.length = s.conns.length := List.length_map _
  unfold tables
  dsimp only
  rw [List.map_append]
  constructor
  case entries =>
    intro k d hmem
    rw [List.length_append, List.length_map, List.map_singleton,
      List.length_singleton]
    rcases mem_mapSet hmem with hmem | heq
    · have hlt := h.entries k d hmem
      rw [hlength] at hlt
      exact Nat.lt_succ_of_lt hlt
    · injection heq with hk hd
      rw [hd]
      exact Nat.lt_succ_self _
  case persisted => exact h.persisted
  case objects =>
    intro conn hmem
    rcases List.mem_append.1 hmem with hmem | hmem
    · exact h.objects conn hmem
    · rw [List.mem_singleton.1 hmem]
      exact href
  case index =>
    intro e d hmem
    have hlt := h.index e d hmem
    rw [hlength] at hlt
    rw [List.length_append, List.length_map, List.map_singleton,
      List.length_singleton]
    exact Nat.lt_succ_of_lt hlt
  case shape => exact h.shape

/-- The connections of a record, one by one. -/
theorem bounded_loadConnections (refs : List Nat) :
    ∀ {s : LiveInstance}, s.tables.Bounded →
      (∀ ref ∈ refs, ref < s.tables.ids.length) →
      (refs.foldl (loadConnection opts) s).tables.Bounded := by
  induction refs with
  | nil => exact fun h _ => h
  | cons ref refs ih =>
      intro s h hlt
      obtain ⟨hbounded, hids⟩ := @bounded_loadConnection opts s h ref
        (hlt ref List.mem_cons_self)
      refine ih hbounded ?_
      rw [hids]
      exact fun r hr => hlt r (List.mem_cons_of_mem ref hr)

/-- `#initialize`. -/
theorem bounded_restored {r : PersistedActor} (hread : r.AsRead)
    (stateData : Value) : (restored opts r stateData).tables.Bounded := by
  have hlt : ∀ ref ∈ r.connections,
      ref < (r.connObjects.map (·.connId)).length := by
    rw [hread, List.length_map]
    exact fun ref hmem => List.mem_range.1 hmem
  have hempty : ∀ i : ActorInstance PersistedActor,
      i.persistRaw.connections = r.connections →
      i.persistRaw.connObjects = r.connObjects →
      (LiveInstance.tables { toActorInstance := i }).Bounded := by
    intro i hconnections hobjects
    unfold tables
    dsimp only
    rw [hconnections, hobjects]
    refine ⟨?_, hlt, ?_, ?_, ?_⟩
    · exact fun k d hmem => absurd hmem List.not_mem_nil
    · exact fun conn hmem => absurd hmem List.not_mem_nil
    · exact fun e d hmem => absurd hmem List.not_mem_nil
    · exact fun entry hmem => absurd hmem List.not_mem_nil
  unfold restored
  split
  · exact bounded_loadConnections _ (hempty _ rfl rfl) hlt
  · exact hempty _ rfl rfl

-- ============================================================== createConn

/-- The map has no entry of the new id. -/
theorem createConn_new {s s' : LiveInstance} {id token : String}
    {params state : Value} {driver : ConnectionDriver}
    {driverState auth : Value}
    (hstep : s.createConn opts id token params state driver driverState auth
      = some s') : ∀ entry ∈ s.connections, entry.1 ≠ id := by
  unfold createConn at hstep
  split at hstep
  · rename_i hguard
    have hnone := (Bool.and_eq_true _ _ ▸ hguard).2
    rw [Option.isNone_iff_eq_none, List.lookup_eq_none_iff] at hnone
    exact fun entry hmem => (bne_iff_ne.1 (hnone entry hmem)).symm
  · cases hstep

/-- An id that no object has. -/
theorem fresh_of_freshId {s : LiveInstance} {id : String}
    (h : s.FreshId id) : id ∉ s.tables.ids := by
  intro hmem
  obtain ⟨p, hp, heq⟩ := List.mem_map.1 hmem
  exact h p hp heq

/-- The contract, read off the tables. -/
theorem not_remains {s : LiveInstance} {c ref : Nat} {id : String}
    (howned : s.tables.Owned c ref id) (h : s.tables.Released c ref) :
    ¬ s.Remains c := by
  rintro (⟨k, hmem⟩ | ⟨conn, hconn, hmem⟩ | ⟨e, hmem⟩)
  · exact h.map k hmem
  · obtain ⟨subs, hsubs⟩ := howned.conn
    rw [tables_conns, hconn] at hsubs
    injection hsubs with hsubs
    injection hsubs with href
    rw [href] at hmem
    exact h.persisted hmem
  · exact h.index e hmem

theorem sameBut_of_tables {s s' : LiveInstance} {c ref : Nat} {id : String}
    (howned : s'.tables.Owned c ref id)
    (h : ConnTables.SameBut s.tables s'.tables c ref) : s.SameBut s' c := by
  obtain ⟨subs, hsubs⟩ := howned.conn
  rw [tables_conns] at hsubs
  obtain ⟨conn, hconn, heq⟩ := Option.map_eq_some_iff.1 hsubs
  injection heq with href
  refine ⟨h.map, ⟨conn, hconn, ?_⟩, h.index⟩
  rw [href]
  exact h.persisted

end LiveInstance

-- ============================================================ the invariant

namespace HttpActor

/-- What is said of the requests, and of the request `i` in particular. -/
structure RequestsInv (i : Nat) (s : HttpActor) : Prop where
  bounded : s.actor.tables.Bounded
  owned : ∀ request ∈ s.requests, ∀ c, request.made = some c →
    ∃ ref id, s.actor.tables.Owned c ref id
  preparing : ∀ request ∈ s.requests, request.pc = .preparing →
    request.made = none
  holds : ∀ request ∈ s.requests, ∀ c,
    request.pc = .connecting c ∨ request.pc = .connected c →
      request.made = some c
  settled : ∀ request, s.requests[i]? = some request →
    request.pc = .settled → ∀ c, request.made = some c →
      ∃ ref id, s.actor.tables.Owned c ref id
        ∧ s.actor.tables.Released c ref

variable {i : Nat} {s : HttpActor}

/-- The instance takes a step that subscribes no connection that is gone. -/
theorem RequestsInv.actor (h : RequestsInv i s) {actor : LiveInstance}
    {op : TableOp} (htables : actor.tables = s.actor.tables.apply op)
    (hfresh : s.actor.tables.Fresh op)
    (hop : ∀ request, s.requests[i]? = some request →
      request.pc = .settled → ∀ c, request.made = some c →
        ∀ eventName, op ≠ .subscribe eventName c) :
    RequestsInv i { s with actor := actor } := by
  constructor
  case bounded =>
    show actor.tables.Bounded
    rw [htables]
    exact h.bounded.apply op
  case owned =>
    intro request hmem c hmade
    obtain ⟨ref, id, howned⟩ := h.owned request hmem c hmade
    refine ⟨ref, id, ?_⟩
    show actor.tables.Owned c ref id
    rw [htables]
    exact howned.apply h.bounded hfresh
  case preparing => exact h.preparing
  case holds => exact h.holds
  case settled =>
    intro request hrequest hpc c hmade
    obtain ⟨ref, id, howned, hreleased⟩ :=
      h.settled request hrequest hpc c hmade
    refine ⟨ref, id, ?_⟩
    show actor.tables.Owned c ref id ∧ actor.tables.Released c ref
    rw [htables]
    exact ⟨howned.apply h.bounded hfresh,
      hreleased.apply howned h.bounded (hop request hrequest hpc c hmade)⟩

/-- A request takes a step. -/
theorem RequestsInv.setRequest (h : RequestsInv i s) {j : Nat}
    {next : HandleAction}
    (howned : ∀ c, next.made = some c →
      ∃ ref id, s.actor.tables.Owned c ref id)
    (hpreparing : next.pc ≠ .preparing)
    (hholds : ∀ c, next.pc = .connecting c ∨ next.pc = .connected c →
      next.made = some c)
    (hsettled : j = i → next.pc = .settled → ∀ c, next.made = some c →
      ∃ ref id, s.actor.tables.Owned c ref id
        ∧ s.actor.tables.Released c ref) :
    RequestsInv i (s.setRequest j next) := by
  constructor
  case bounded => exact h.bounded
  case owned =>
    intro request hmem
    rcases List.mem_or_eq_of_mem_set hmem with hmem | rfl
    · exact h.owned request hmem
    · exact howned
  case preparing =>
    intro request hmem
    rcases List.mem_or_eq_of_mem_set hmem with hmem | rfl
    · exact h.preparing request hmem
    · exact fun hpc => absurd hpc hpreparing
  case holds =>
    intro request hmem
    rcases List.mem_or_eq_of_mem_set hmem with hmem | rfl
    · exact h.holds request hmem
    · exact hholds
  case settled =>
    intro request hrequest
    by_cases hj : j = i
    · have hlt := (List.getElem?_eq_some_iff.1 hrequest).1
      have hlt : i < s.requests.length := by
        unfold HttpActor.setRequest at hlt
        rwa [List.length_set] at hlt
      have hself : (s.setRequest j next).requests[i]? = some next := by
        unfold HttpActor.setRequest
        rw [hj]
        exact List.getElem?_set_self hlt
      rw [hself] at hrequest
      obtain rfl := Option.some.inj hrequest
      exact hsettled hj
    · have hother : (s.setRequest j next).requests[i]? = s.requests[i]? :=
        List.getElem?_set_ne hj
      rw [hother] at hrequest
      exact h.settled request hrequest

/-- A request that has no connection settles. -/
theorem RequestsInv.settles (h : RequestsInv i s) {j : Nat}
    {request : HandleAction} (hrequest : s.requests[j]? = some request)
    (hpc : request.pc = .preparing) :
    RequestsInv i (s.setRequest j { request with pc := .settled }) := by
  have hnone := h.preparing request (List.mem_of_getElem? hrequest) hpc
  refine h.setRequest ?_ (by simp) (by simp) ?_
  · intro c hmade
    rw [hnone] at hmade
    cases hmade
  · intro _ _ c hmade
    rw [hnone] at hmade
    cases hmade

theorem RequestsInv.handleAction (h : RequestsInv i s) :
    RequestsInv i { s with requests := s.requests ++ [{}] } := by
  constructor
  case bounded => exact h.bounded
  case owned =>
    intro request hmem c hmade
    rcases List.mem_append.1 hmem with hmem | hmem
    · exact h.owned request hmem c hmade
    · rw [List.mem_singleton.1 hmem] at hmade
      cases hmade
  case preparing =>
    intro request hmem hpc
    rcases List.mem_append.1 hmem with hmem | hmem
    · exact h.preparing request hmem hpc
    · rw [List.mem_singleton.1 hmem]
  case holds =>
    intro request hmem c hpc
    rcases List.mem_append.1 hmem with hmem | hmem
    · exact h.holds request hmem c hpc
    · rw [List.mem_singleton.1 hmem] at hpc
      rcases hpc with hpc | hpc <;> cases hpc
  case settled =>
    intro request hrequest hpc
    rcases Lists.getElem?_concat hrequest with hrequest | ⟨-, rfl⟩
    · exact h.settled request hrequest hpc
    · cases hpc

theorem RequestsInv.createConn {s' : HttpActor} (h : RequestsInv i s)
    {j : Nat} {id token : String} {params state auth : Value}
    (hstep : s.createConn opts j id token params state auth = some s') :
    RequestsInv i s' := by
  unfold HttpActor.createConn at hstep
  split at hstep
  · rename_i request hrequest
    split at hstep
    · rename_i hguard
      obtain ⟨hpc, hfreshId⟩ := hguard
      have hfresh := LiveInstance.fresh_of_freshId hfreshId
      split at hstep
      · rename_i actor hcreate
        obtain rfl := Option.some.inj hstep
        have htables := LiveInstance.tables_createConn hcreate
        have hconns : s.actor.conns.length = s.actor.tables.conns.length :=
          (List.length_map _).symm
        have hactor := @RequestsInv.actor _ _ h _ (.create id) htables hfresh
          (fun _ _ _ _ _ _ heq => by cases heq)
        have howned : actor.tables.Owned s.actor.conns.length
            s.actor.tables.ids.length id := by
          rw [htables, hconns]
          exact ConnTables.owned_created h.bounded hfresh
        refine hactor.setRequest ?_ (by simp) ?_ ?_
        · intro c hmade
          injection hmade with hmade
          exact ⟨_, _, hmade ▸ howned⟩
        · rintro c (hpc | hpc)
          · injection hpc with hpc
            rw [hpc]
          · cases hpc
        · intro _ hpc
          cases hpc
      · obtain rfl := Option.some.inj hstep
        exact h.settles hrequest hpc
    · cases hstep
  · cases hstep

theorem RequestsInv.onConnect {s' : HttpActor} (h : RequestsInv i s)
    {j : Nat} {thrown : Option (Raised Value)}
    (hprints : HookPrints i s (.onConnect j thrown))
    (hstep : s.onConnect j thrown = some s') : RequestsInv i s' := by
  unfold HttpActor.onConnect at hstep
  split at hstep
  · rename_i request hrequest
    have hmem := List.mem_of_getElem? hrequest
    split at hstep
    · rename_i c hpc
      have hmade := h.holds request hmem c (.inl hpc)
      split at hstep
      · rename_i error herror
        obtain rfl := Option.some.inj hstep
        refine h.setRequest (h.owned request hmem) (by simp) (by simp) ?_
        -- what the hook of this request throws can be printed
        intro hj
        obtain ⟨raised, rfl, hraised⟩ := Option.map_eq_some_iff.1 herror
        obtain ⟨text, htext⟩ := hprints hj
        rw [htext] at hraised
        cases hraised
      · obtain rfl := Option.some.inj hstep
        refine h.setRequest (h.owned request hmem) (by simp) ?_ (by simp)
        rintro d (hd | hd)
        · cases hd
        · injection hd with hd
          rw [← hd]
          exact hmade
    · cases hstep
  · cases hstep

theorem RequestsInv.actionEnds {s' : HttpActor} (h : RequestsInv i s)
    {j : Nat} (hstep : s.actionEnds opts j = some s') : RequestsInv i s' := by
  unfold HttpActor.actionEnds at hstep
  split at hstep
  · rename_i request hrequest
    have hmem := List.mem_of_getElem? hrequest
    split at hstep
    · rename_i c hpc
      obtain rfl := Option.some.inj hstep
      have hmade := h.holds request hmem c (.inr hpc)
      have htables := @LiveInstance.tables_removeConn opts s.actor c
      have hactor := @RequestsInv.actor _ _ h _ (.remove c) htables trivial
        (fun _ _ _ _ _ _ heq => by cases heq)
      refine hactor.setRequest (hactor.owned request hmem) (by simp) (by simp)
        ?_
      intro _ _ d hd
      rw [hmade] at hd
      obtain rfl := Option.some.inj hd
      obtain ⟨ref, id, howned⟩ := h.owned request hmem c hmade
      refine ⟨ref, id, ?_⟩
      show (s.actor.removeConn opts c).tables.Owned c ref id
        ∧ (s.actor.removeConn opts c).tables.Released c ref
      rw [htables]
      exact ⟨howned.remove h.bounded.shape c,
        howned.released h.bounded.shape⟩
    · cases hstep
  · cases hstep

theorem RequestsInv.other {a : LiveStep} {actor : LiveInstance}
    (h : RequestsInv i s) (hadmits : s.admits a = true)
    (hstep : indexStep codec opts s.actor a = some actor) :
    RequestsInv i { s with actor := actor } := by
  refine h.actor (LiveInstance.tables_indexStep hstep) ?fresh ?subscribe
  case fresh =>
    cases a with
    | createConn id token params state driver driverState auth =>
        simp only [indexStep] at hstep
        split at hstep
        · rename_i hfreshId
          exact LiveInstance.fresh_of_freshId hfreshId
        · cases hstep
    | _ => trivial
  case subscribe =>
    intro request hrequest hpc c hmade eventName hop
    obtain ⟨ref, id, -, hreleased⟩ := h.settled request hrequest hpc c hmade
    cases a with
    | addSubscription e d =>
        injection hop with he hd
        rw [hd] at hadmits
        unfold HttpActor.admits at hadmits
        rcases Bool.or_eq_true_iff.1 hadmits with hnone | hany
        · have hne := List.all_eq_true.1 hnone request
            (List.mem_of_getElem? hrequest)
          rw [hmade] at hne
          simp at hne
        · obtain ⟨⟨k, b⟩, hentry, hb⟩ := List.any_eq_true.1 hany
          obtain rfl : b = c := of_decide_eq_true hb
          exact hreleased.map k hentry
    | _ => cases hop

/-- Every step keeps it. -/
theorem RequestsInv.step {s' : HttpActor} {a : HttpStep}
    (h : RequestsInv i s) (hprints : HookPrints i s a)
    (hstep : HttpActor.step codec opts s a = some s') : RequestsInv i s' := by
  cases a with
  | handleAction =>
      obtain rfl := Option.some.inj hstep
      exact h.handleAction
  | prepareFails j =>
      have hstep : s.prepareFails j = some s' := hstep
      unfold HttpActor.prepareFails at hstep
      split at hstep
      · rename_i request hrequest
        split at hstep
        · rename_i hpc
          obtain rfl := Option.some.inj hstep
          exact h.settles hrequest hpc
        · cases hstep
      · cases hstep
  | createConn j id token params state authData => exact h.createConn hstep
  | onConnect j thrown => exact h.onConnect hprints hstep
  | actionEnds j => exact h.actionEnds hstep
  | other a =>
      simp only [HttpActor.step] at hstep
      split at hstep
      · rename_i hadmits
        obtain ⟨actor, hactor, rfl⟩ := Option.map_eq_some_iff.1 hstep
        exact h.other hadmits hactor
      · cases hstep

/-- And every run. -/
theorem requestsInv_reaches
    (h : (httpSystem codec opts).Reaches (HookPrints i) s) :
    RequestsInv i s := by
  refine System.Reaches.invariant (P := RequestsInv i) ?_ ?_ h
  · rintro s ⟨r, stateData, hread, rfl⟩
    refine ⟨LiveInstance.bounded_restored hread stateData, ?_, ?_, ?_, ?_⟩
    · exact fun request hmem => absurd hmem List.not_mem_nil
    · exact fun request hmem => absurd hmem List.not_mem_nil
    · exact fun request hmem => absurd hmem List.not_mem_nil
    · exact fun request hrequest => absurd hrequest (by simp)
  · exact fun s a s' _ hinv hprints hstep => hinv.step hprints hstep

-- =================================================================== frames

/-- The request that was replaced. -/
theorem getElem?_setRequest {j : Nat} {request next found : HandleAction}
    (hrequest : s.requests[j]? = some request)
    (h : (s.setRequest j next).requests[j]? = some found) : found = next := by
  have hself : (s.setRequest j next).requests[j]? = some next :=
    List.getElem?_set_self (List.getElem?_eq_some_iff.1 hrequest).1
  rw [hself] at h
  exact (Option.some.inj h).symm

/-- A step of a request that leaves the tables. -/
theorem RequestsInv.sameBut_self (h : RequestsInv i s)
    {request : HandleAction} (hmem : request ∈ s.requests) :
    match request.made with
    | none => s.actor = s.actor
    | some c => s.actor.SameBut s.actor c := by
  cases hmade : request.made with
  | none => rfl
  | some c =>
      obtain ⟨ref, id, howned⟩ := h.owned request hmem c hmade
      exact LiveInstance.sameBut_of_tables howned
        ⟨rfl, rfl, fun _ _ _ => Iff.rfl⟩

/-- A step of a request touches its connection only. -/
theorem RequestsInv.sameBut (h : RequestsInv i s) {a : HttpStep}
    {s' : HttpActor} {found : HandleAction} (hown : a.request? = some i)
    (hstep : s.step codec opts a = some s')
    (hfound : s'.requests[i]? = some found) :
    match found.made with
    | none => s'.actor = s.actor
    | some c => s.actor.SameBut s'.actor c := by
  cases a with
  | handleAction => cases hown
  | other a => cases hown
  | prepareFails j =>
      obtain rfl := Option.some.inj hown
      have hstep : s.prepareFails j = some s' := hstep
      unfold HttpActor.prepareFails at hstep
      split at hstep
      · rename_i request hrequest
        have hsame := h.sameBut_self (List.mem_of_getElem? hrequest)
        split at hstep
        · obtain rfl := Option.some.inj hstep
          obtain rfl := getElem?_setRequest hrequest hfound
          exact hsame
        · cases hstep
      · cases hstep
  | createConn j id token params state auth =>
      obtain rfl := Option.some.inj hown
      have hstep : s.createConn opts j id token params state auth = some s' :=
        hstep
      unfold HttpActor.createConn at hstep
      split at hstep
      · rename_i request hrequest
        have hsame := h.sameBut_self (List.mem_of_getElem? hrequest)
        split at hstep
        · rename_i hguard
          have hfresh := LiveInstance.fresh_of_freshId hguard.2
          split at hstep
          · rename_i actor hcreate
            obtain rfl := Option.some.inj hstep
            obtain rfl := getElem?_setRequest hrequest hfound
            have htables := LiveInstance.tables_createConn hcreate
            have hconns : s.actor.conns.length
                = s.actor.tables.conns.length := (List.length_map _).symm
            refine @LiveInstance.sameBut_of_tables s.actor actor
              s.actor.conns.length s.actor.tables.ids.length id ?_ ?_
            · rw [htables, hconns]
              exact ConnTables.owned_created h.bounded hfresh
            · rw [htables, hconns]
              exact ConnTables.sameBut_create s.actor.tables
                (LiveInstance.createConn_new hcreate)
          · obtain rfl := Option.some.inj hstep
            obtain rfl := getElem?_setRequest hrequest hfound
            exact hsame
        · cases hstep
      · cases hstep
  | onConnect j thrown =>
      obtain rfl := Option.some.inj hown
      have hstep : s.onConnect j thrown = some s' := hstep
      unfold HttpActor.onConnect at hstep
      split at hstep
      · rename_i request hrequest
        have hsame := h.sameBut_self (List.mem_of_getElem? hrequest)
        split at hstep
        · split at hstep
          · obtain rfl := Option.some.inj hstep
            obtain rfl := getElem?_setRequest hrequest hfound
            exact hsame
          · obtain rfl := Option.some.inj hstep
            obtain rfl := getElem?_setRequest hrequest hfound
            exact hsame
        · cases hstep
      · cases hstep
  | actionEnds j =>
      obtain rfl := Option.some.inj hown
      have hstep : s.actionEnds opts j = some s' := hstep
      unfold HttpActor.actionEnds at hstep
      split at hstep
      · rename_i request hrequest
        have hmem := List.mem_of_getElem? hrequest
        split at hstep
        · rename_i c hpc
          obtain rfl := Option.some.inj hstep
          obtain rfl := getElem?_setRequest hrequest hfound
          have hmade := h.holds request hmem c (.inr hpc)
          obtain ⟨ref, id, howned⟩ := h.owned request hmem c hmade
          have htables := @LiveInstance.tables_removeConn opts s.actor c
          dsimp only
          rw [hmade]
          refine @LiveInstance.sameBut_of_tables s.actor
            (s.actor.removeConn opts c) c ref id ?_ ?_
          · rw [htables]
            exact howned.remove h.bounded.shape c
          · rw [htables]
            exact howned.sameBut h.bounded.shape
        · cases hstep
      · cases hstep

end HttpActor

-- ================================================================ the result

open HttpActor

/-- In every run in which what the hook of a request throws can be printed,
nothing is left of the connection of that request. -/
theorem http_action_leaves_nothing {i : Nat} {s : HttpActor}
    (h : (httpSystem codec opts).Reaches (HookPrints i) s) :
    s.LeavesNothing codec opts i := by
  have hinv := requestsInv_reaches h
  refine ⟨?_, fun a s' request hown hstep hfound =>
    hinv.sameBut hown hstep hfound⟩
  intro request hrequest hpc c hmade
  obtain ⟨ref, id, howned, hreleased⟩ :=
    hinv.settled request hrequest hpc c hmade
  exact LiveInstance.not_remains howned hreleased

/-- An action over HTTP, up to the hook. A message subscribes its
connection meanwhile. -/
def httpActionRun : List HttpStep :=
  [.other (.save .ready), .handleAction,
    .createConn 0 "http" "token" .null .null .null,
    .other (.addSubscription "news" 0)]

/-- The guard admits a hook that throws an error, and the connection is
gone. -/
theorem http_action_leaves_nothing_refused :
    ∃ s, (httpSystem sampleCodec ⟨10000⟩).run
        { actor := .restored ⟨10000⟩ {} .undefined }
        (httpActionRun ++
          [.onConnect 0 (some (.value (.error .null) (.ok "Error: full"))),
            .actionEnds 0])
        = some s
      ∧ s.requests = [{ pc := .settled, made := some 0 }]
      ∧ s.LeavesNothing sampleCodec ⟨10000⟩ 0 := by
  refine ⟨_, rfl, by decide, ?_⟩
  refine http_action_leaves_nothing (System.Reaches.run
    (httpActionRun ++
      [.onConnect 0 (some (.value (.error .null) (.ok "Error: full"))),
        .actionEnds 0])
    (.init ⟨{}, .undefined, rfl, rfl⟩) ?_ rfl)
  exact ⟨trivial, trivial, trivial, trivial, fun _ => ⟨_, rfl⟩, trivial,
    trivial⟩

/-- The hook throws an error that cannot be printed. -/
theorem failed_hook_leaves_connection :
    ¬ ∀ s, (httpSystem sampleCodec ⟨10000⟩).Reachable s →
      s.LeavesNothing sampleCodec ⟨10000⟩ 0 := by
  intro hall
  have h := hall _ (System.Reachable.run (httpActionRun ++
      [.onConnect 0 (some (.value (.error .null) (.error .null)))])
    (.init ⟨{}, .undefined, rfl, rfl⟩) rfl)
  refine h.1 { pc := .settled, made := some 0 } (by decide) rfl 0 rfl ?_
  exact .inl ⟨"http", by decide⟩

end RivetKit.Actor
