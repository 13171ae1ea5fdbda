/-
The tables of connections keep a connection's entries together: what one
operation keeps of them, and that `remove` takes them all away.

`Owned` is what the tables say of one connection whose id is no other's. It
asks nothing of the rest, which other operations may have left in any state.
-/
import RivetKit.Actor.ConnTables
import RivetKit.Actor.Proofs.SubscriptionIndex

namespace RivetKit.Actor

open Transition
open Js
open LiveInstance (mapSet mapDelete indexAdd indexDelete members IndexShape
  mem_mapSet mapSet_of_fresh mem_mapDelete mem_indexAdd mem_indexDelete
  foldl_indexDelete)

variable {codec : Codec} {opts : ActorOptions}

namespace LiveInstance

variable {s s' : LiveInstance}

-- ========================================================= the refinement

/-- The ids of the objects stay where one of them is changed. -/
theorem ids_modifyConn (p : PersistedActor) (ref : Nat)
    {f : PersistedConn → PersistedConn}
    (hf : ∀ old, (f old).connId = old.connId) :
    (p.modifyConn ref f).connObjects.map (·.connId)
      = p.connObjects.map (·.connId) := by
  unfold PersistedActor.modifyConn
  refine List.ext_getElem? fun i => ?_
  rw [List.getElem?_map, List.getElem?_map, List.getElem?_modify]
  cases p.connObjects[i]? with
  | none => rfl
  | some old =>
      by_cases hi : ref = i
      · simp [hi, hf old]
      · simp [hi]

/-- A mutation of one object. -/
theorem tables_mutateConn (s : LiveInstance) (conn : Conn) {key : String}
    {f : PersistedConn → PersistedConn}
    (hf : ∀ old, (f old).connId = old.connId) :
    (s.mutateConn conn key f).tables = s.tables := by
  rw [mutateConn_eq]
  unfold tables
  dsimp only
  rw [ids_modifyConn s.persistRaw conn.persist hf]
  rfl

/-- A call of `saveState`. -/
theorem tables_callSaveState (s : LiveInstance) (o : SaveStateOptions) :
    (s.callSaveState opts o).tables = s.tables := by
  unfold tables callSaveState
  dsimp only
  rw [saveState_persistRaw]

/-- Both, one after the other. -/
theorem tables_mutateSaved (s : LiveInstance) (conn : Conn) {key : String}
    {f : PersistedConn → PersistedConn}
    (hf : ∀ old, (f old).connId = old.connId) (o : SaveStateOptions) :
    ((s.mutateConn conn key f).callSaveState opts o).tables = s.tables :=
  (tables_callSaveState _ o).trans (tables_mutateConn s conn hf)

/-- The `Conn`s of the tables. -/
theorem tables_conns (s : LiveInstance) (c : Nat) :
    s.tables.conns[c]?
      = s.conns[c]?.map fun conn => (conn.persist, conn.subscriptions) :=
  List.getElem?_map

theorem tables_createConn {id token : String} {params state : Value}
    {driver : ConnectionDriver} {driverState auth : Value}
    (hstep : s.createConn opts id token params state driver driverState auth
      = some s') : s'.tables = s.tables.create id := by
  unfold createConn at hstep
  split at hstep
  · injection hstep with hstep
    rw [← hstep, tables_callSaveState, mutate_eq _ (by simp),
      mutate_eq _ (by simp)]
    unfold tables ConnTables.create PersistedActor.allocConn
    dsimp only
    rw [List.map_append, List.map_append, List.length_map, List.length_map]
    rfl
  · cases hstep

/-- The subscriptions of one `Conn` change, and the index. -/
theorem tables_setSubscriptions (s : LiveInstance) (c : Nat)
    (f : List String → List String) (index : List (String × List Nat)) :
    LiveInstance.tables { s with
        conns := s.conns.modify c fun conn =>
          { conn with subscriptions := f conn.subscriptions }
        subscriptionIndex := index }
      = { s.tables with
          conns := s.tables.conns.modify c fun conn => (conn.1, f conn.2)
          index := index } := by
  unfold tables
  dsimp only
  congr 1
  refine List.ext_getElem? fun d => ?_
  rw [List.getElem?_map, List.getElem?_modify, List.getElem?_modify,
    List.getElem?_map]
  cases s.conns[d]? with
  | none => rfl
  | some conn =>
      by_cases hd : c = d
      · simp [hd]
      · simp [hd]

/-- `#addSubscription`, whoever calls it. -/
theorem tables_addSubscription (s : LiveInstance) (eventName : String)
    (c : Nat) (fromPersist : Bool) :
    (s.addSubscription opts eventName c fromPersist).tables
      = s.tables.subscribe eventName c := by
  unfold addSubscription ConnTables.subscribe
  rw [tables_conns]
  cases hconn : s.conns[c]? with
  | none => rfl
  | some conn =>
      dsimp only [Option.map_some]
      by_cases hmem : eventName ∈ conn.subscriptions
      · rw [if_pos hmem, if_pos hmem]
      · rw [if_neg hmem, if_neg hmem]
        cases fromPersist with
        | true => exact tables_setSubscriptions s c (· ++ [eventName]) _
        | false =>
            have hsaved := @tables_mutateSaved opts s conn "subscriptions"
              (fun p =>
                { p with subscriptions := p.subscriptions ++ [eventName] })
              (fun _ => rfl) { immediate := true }
            simp only [Bool.false_eq_true, if_false]
            rw [mutateConn_eq] at hsaved ⊢
            refine (tables_setSubscriptions _ c (· ++ [eventName]) _).trans ?_
            rw [hsaved]
            rfl

/-- `#removeSubscription`, of a message. -/
theorem tables_removeSubscription (s : LiveInstance) (eventName : String)
    (c : Nat) :
    (s.removeSubscription opts eventName c false).tables
      = s.tables.unsubscribe eventName c := by
  unfold removeSubscription ConnTables.unsubscribe
  rw [tables_conns]
  cases hconn : s.conns[c]? with
  | none => rfl
  | some conn =>
      dsimp only [Option.map_some]
      by_cases hmem : eventName ∉ conn.subscriptions
      · rw [if_pos hmem, if_pos hmem]
      · rw [if_neg hmem, if_neg hmem]
        have herased := tables_setSubscriptions s c (·.erase eventName)
          s.subscriptionIndex
        have hsaved := @tables_mutateSaved opts { s with
            conns := s.conns.modify c fun conn =>
              { conn with subscriptions := conn.subscriptions.erase eventName } }
          conn "subscriptions"
          (fun p => { p with subscriptions := p.subscriptions.erase eventName })
          (fun _ => rfl) { immediate := true }
        simp only [Bool.false_eq_true, if_false]
        rw [mutateConn_eq] at hsaved ⊢
        have htables := congrArg (fun t : ConnTables =>
          { t with index := indexDelete t.index eventName c })
          (hsaved.trans herased)
        exact htables

/-- `__removeConn`. -/
theorem tables_removeConn (s : LiveInstance) (c : Nat) :
    (s.removeConn opts c).tables = s.tables.remove c := by
  cases hconn : s.conns[c]? with
  | none =>
      unfold removeConn ConnTables.remove
      rw [tables_conns, hconn]
      rfl
  | some conn =>
      obtain ⟨t, hraw, heq⟩ := @removeConn_eq opts s c conn hconn
      unfold ConnTables.remove
      rw [heq, tables_conns, hconn]
      have hid : s.connId conn
          = s.tables.ids[conn.persist]?.getD "" := by
        unfold connId tables
        rw [List.getElem?_map]
      have hfind : s.findConnIdx (s.connId conn)
          = s.tables.persisted.findIdx? fun ref =>
            s.tables.ids[ref]?.any (· == s.connId conn) := by
        unfold findConnIdx tables
        dsimp only
        congr 1
        funext ref
        rw [List.getElem?_map]
        cases s.persistRaw.connObjects[ref]? with
        | none => rfl
        | some p => rfl
      have hunlist : s.tables.unlist (s.connId conn)
          = t.persistRaw.connections := by
        unfold ConnTables.unlist
        rw [← hfind, hraw]
        rfl
      dsimp only [Option.map_some]
      rw [← hid, hunlist]
      unfold tables
      dsimp only
      rw [hraw]

/-- Every step does to the tables what `tableOp` says. -/
theorem tables_indexStep {a : LiveStep}
    (hstep : indexStep codec opts s a = some s') :
    s'.tables = s.tables.apply a.tableOp := by
  cases a with
  | stateChange path valid f =>
      simp only [indexStep, liveStep] at hstep
      split at hstep
      · injection hstep with hstep
        rw [← hstep]
        unfold mutate ActorInstance.onChange
        dsimp only
        split <;> rfl
      · cases hstep
  | createConn id token params state driver driverState auth =>
      simp only [indexStep] at hstep
      split at hstep
      · exact tables_createConn hstep
      · cases hstep
  | removeConn c =>
      injection hstep with hstep
      rw [← hstep]
      exact tables_removeConn s c
  | addSubscription eventName c =>
      injection hstep with hstep
      rw [← hstep]
      exact tables_addSubscription s eventName c false
  | removeSubscription eventName c =>
      injection hstep with hstep
      rw [← hstep]
      exact tables_removeSubscription s eventName c
  | setConnState c f =>
      injection hstep with hstep
      rw [← hstep]
      unfold setConnState
      split
      · rfl
      · exact tables_mutateConn s _ fun _ => rfl
  | scheduleEvent event =>
      injection hstep with hstep
      rw [← hstep]
      unfold scheduleEvent
      rw [mutate_eq _ (by simp)]
      rfl
  | onAlarm =>
      injection hstep with hstep
      rw [← hstep]
      unfold onAlarm
      rw [mutate_eq _ (by simp)]
      rfl
  | checkLiveness c =>
      injection hstep with hstep
      rw [← hstep]
      unfold checkLiveness
      split
      · rfl
      · exact tables_mutateConn s _ fun _ => rfl
  | stop =>
      injection hstep with hstep
      rw [← hstep]
      exact tables_callSaveState _ _
  | save a =>
      simp only [indexStep] at hstep
      split at hstep
      · rename_i hkeeps
        obtain ⟨t, ht, rfl⟩ := Option.map_eq_some_iff.1 hstep
        unfold tables
        dsimp only
        rw [saveStep_persistRaw hkeeps ht]
        rfl
      · cases hstep

end LiveInstance

-- ============================================================ all the tables

namespace ConnTables

variable {t : ConnTables}

/-- The tables name nothing that was not allocated, and the sets of the
index are sets. -/
structure Bounded (t : ConnTables) : Prop where
  entries : ∀ k d, (k, d) ∈ t.connections → d < t.conns.length
  persisted : ∀ ref ∈ t.persisted, ref < t.ids.length
  objects : ∀ conn ∈ t.conns, conn.1 < t.ids.length
  index : ∀ e d, d ∈ members t.index e → d < t.conns.length
  shape : IndexShape t.index

/-- Where the persisted list and the allocations stay. -/
theorem Bounded.subscriptions (h : t.Bounded) {c : Nat}
    {f : List String → List String} {index : List (String × List Nat)}
    (hindex : ∀ e d, d ∈ members index e → d < t.conns.length)
    (hshape : IndexShape index) :
    Bounded { t with
      conns := t.conns.modify c fun conn => (conn.1, f conn.2)
      index := index } := by
  constructor
  case entries =>
    rw [List.length_modify]
    exact h.entries
  case persisted => exact h.persisted
  case objects =>
    intro conn hconn
    obtain ⟨d, hd⟩ := List.mem_iff_getElem?.1 hconn
    rw [List.getElem?_modify] at hd
    obtain ⟨old, hold, heq⟩ := Option.map_eq_some_iff.1 hd
    have hlt := h.objects old (List.mem_of_getElem? hold)
    split at heq
    · rw [← heq]
      exact hlt
    · rw [← heq]
      exact hlt
  case index =>
    rw [List.length_modify]
    exact hindex
  case shape => exact hshape

theorem Bounded.create (h : t.Bounded) (id : String) :
    (t.create id).Bounded := by
  unfold ConnTables.create
  constructor
  case entries =>
    intro k d hmem
    rw [List.length_append, List.length_singleton]
    rcases mem_mapSet hmem with hmem | heq
    · exact Nat.lt_succ_of_lt (h.entries k d hmem)
    · injection heq with hk hd
      rw [hd]
      exact Nat.lt_succ_self _
  case persisted =>
    intro ref hmem
    rw [List.length_append, List.length_singleton]
    rcases List.mem_append.1 hmem with hmem | hmem
    · exact Nat.lt_succ_of_lt (h.persisted ref hmem)
    · rw [List.mem_singleton.1 hmem]
      exact Nat.lt_succ_self _
  case objects =>
    intro conn hmem
    rw [List.length_append, List.length_singleton]
    rcases List.mem_append.1 hmem with hmem | hmem
    · exact Nat.lt_succ_of_lt (h.objects conn hmem)
    · rw [List.mem_singleton.1 hmem]
      exact Nat.lt_succ_self _
  case index =>
    intro e d hmem
    rw [List.length_append, List.length_singleton]
    exact Nat.lt_succ_of_lt (h.index e d hmem)
  case shape => exact h.shape

/-- The persisted list only gets shorter. -/
theorem unlist_sublist (t : ConnTables) (id : String) :
    (t.unlist id).Sublist t.persisted := by
  unfold unlist
  split
  · exact List.eraseIdx_sublist _ _
  · exact List.Sublist.refl _

theorem Bounded.remove (h : t.Bounded) (c : Nat) : (t.remove c).Bounded := by
  unfold ConnTables.remove
  cases hconn : t.conns[c]? with
  | none => exact h
  | some conn =>
      obtain ⟨hshape, hmembers⟩ := foldl_indexDelete conn.2 c t.index h.shape
      constructor
      case entries =>
        exact fun k d hmem => h.entries k d (mem_mapDelete.1 hmem).1
      case persisted =>
        intro ref hmem
        exact h.persisted ref ((t.unlist_sublist _).subset hmem)
      case objects => exact h.objects
      case index => exact fun e d hmem => h.index e d ((hmembers e d).1 hmem).1
      case shape => exact hshape

theorem Bounded.subscribe (h : t.Bounded) (eventName : String) (c : Nat) :
    (t.subscribe eventName c).Bounded := by
  unfold ConnTables.subscribe
  cases hconn : t.conns[c]? with
  | none => exact h
  | some conn =>
      dsimp only
      split
      · exact h
      · refine h.subscriptions (f := (· ++ [eventName])) ?_
          (h.shape.indexAdd eventName c)
        intro e d hmem
        rcases mem_indexAdd.1 hmem with hmem | ⟨-, rfl⟩
        · exact h.index e d hmem
        · exact (List.getElem?_eq_some_iff.1 hconn).1

theorem Bounded.unsubscribe (h : t.Bounded) (eventName : String) (c : Nat) :
    (t.unsubscribe eventName c).Bounded := by
  unfold ConnTables.unsubscribe
  cases hconn : t.conns[c]? with
  | none => exact h
  | some conn =>
      dsimp only
      split
      · exact h
      · refine h.subscriptions (f := (·.erase eventName)) ?_
          (h.shape.indexDelete eventName c)
        intro e d hmem
        exact h.index e d ((mem_indexDelete h.shape).1 hmem).1

theorem Bounded.apply (h : t.Bounded) (op : TableOp) : (t.apply op).Bounded := by
  cases op with
  | keep => exact h
  | create id => exact h.create id
  | remove c => exact h.remove c
  | subscribe eventName c => exact h.subscribe eventName c
  | unsubscribe eventName c => exact h.unsubscribe eventName c

-- ========================================================= one connection

/-- The `Conn` `c` of the object `ref` is the only one of its id: an entry
with its id is its own, it is listed once, and the index has it only under
its subscriptions. -/
structure Owned (t : ConnTables) (c ref : Nat) (id : String) : Prop where
  conn : ∃ subs, t.conns[c]? = some (ref, subs)
  own : ∀ d subs, t.conns[d]? = some (ref, subs) → d = c
  object : t.ids[ref]? = some id
  unique : ∀ r, t.ids[r]? = some id → r = ref
  entry : ∀ k d, (k, d) ∈ t.connections → (k = id ↔ d = c)
  once : t.persisted.count ref ≤ 1
  indexed : ∀ e, c ∈ members t.index e →
    ∃ subs, t.conns[c]? = some (ref, subs) ∧ e ∈ subs

/-- Nothing of it is left. -/
structure Released (t : ConnTables) (c ref : Nat) : Prop where
  map : ∀ k, (k, c) ∉ t.connections
  persisted : ref ∉ t.persisted
  index : ∀ e, c ∉ members t.index e

variable {c ref : Nat} {id : String}

/-- `createConn` with an id that is new. -/
theorem owned_created (h : t.Bounded) (hnew : id ∉ t.ids) :
    (t.create id).Owned t.conns.length t.ids.length id := by
  unfold ConnTables.create
  constructor
  case conn => exact ⟨[], List.getElem?_concat_length⟩
  case own =>
    intro d subs hd
    rcases Lists.getElem?_concat hd with hd | ⟨hd, -⟩
    · exact absurd (h.objects _ (List.mem_of_getElem? hd)) (Nat.lt_irrefl _)
    · exact hd
  case object => exact List.getElem?_concat_length
  case unique =>
    intro r hr
    rcases Lists.getElem?_concat hr with hr | ⟨hr, -⟩
    · exact absurd (List.mem_of_getElem? hr) hnew
    · exact hr
  case entry =>
    intro k d hmem
    rcases LiveInstance.mem_mapSet_cases hmem with heq | ⟨hmem, hne⟩
    · injection heq with hk hd
      exact ⟨fun _ => hd, fun _ => hk⟩
    · refine ⟨fun hk => absurd hk hne, ?_⟩
      intro hd
      have hlt := h.entries k d hmem
      rw [hd] at hlt
      exact absurd hlt (Nat.lt_irrefl _)
  case once =>
    have hnone : t.persisted.count t.ids.length = 0 := by
      rw [List.count_eq_zero]
      intro hmem
      exact absurd (h.persisted _ hmem) (Nat.lt_irrefl _)
    have hone : (t.persisted ++ [t.ids.length]).count t.ids.length = 0 + 1 := by
      rw [List.count_append, hnone, List.count_singleton_self]
    exact Nat.le_of_eq hone
  case indexed =>
    intro e hmem
    exact absurd (h.index e _ hmem) (Nat.lt_irrefl _)

/-- A connection is made beside it. -/
theorem Owned.create (h : t.Owned c ref id) {id' : String}
    (hnew : id' ∉ t.ids) : (t.create id').Owned c ref id := by
  obtain ⟨subs, hconn⟩ := h.conn
  have hc := (List.getElem?_eq_some_iff.1 hconn).1
  have href := (List.getElem?_eq_some_iff.1 h.object).1
  have hne : id' ≠ id := by
    rintro rfl
    exact hnew (List.mem_of_getElem? h.object)
  have hkeep : ∀ subs, t.conns[c]? = some (ref, subs) →
      (t.create id').conns[c]? = some (ref, subs) :=
    fun subs hs => Lists.getElem?_concat_of_some hs
  unfold ConnTables.create at hkeep ⊢
  constructor
  case conn => exact ⟨subs, hkeep subs hconn⟩
  case own =>
    intro d subs' hd
    rcases Lists.getElem?_concat hd with hd | ⟨-, heq⟩
    · exact h.own d subs' hd
    · injection heq with heq
      rw [heq] at href
      exact absurd href (Nat.lt_irrefl _)
  case object => exact Lists.getElem?_concat_of_some h.object
  case unique =>
    intro r hr
    rcases Lists.getElem?_concat hr with hr | ⟨-, heq⟩
    · exact h.unique r hr
    · exact absurd heq.symm hne
  case entry =>
    intro k d hmem
    rcases mem_mapSet hmem with hmem | heq
    · exact h.entry k d hmem
    · injection heq with hk hd
      rw [hk, hd]
      refine ⟨fun heq => absurd heq hne, ?_⟩
      intro heq
      rw [heq] at hc
      exact absurd hc (Nat.lt_irrefl _)
  case once =>
    rw [List.count_append, List.count_singleton]
    rw [if_neg (by simpa using Nat.ne_of_gt href)]
    exact h.once
  case indexed =>
    intro e hmem
    obtain ⟨subs', hs, he⟩ := h.indexed e hmem
    exact ⟨subs', hkeep subs' hs, he⟩

/-- A connection is removed, this one or another. -/
theorem Owned.remove (h : t.Owned c ref id) (hshape : IndexShape t.index)
    (d : Nat) : (t.remove d).Owned c ref id := by
  unfold ConnTables.remove
  cases hconn : t.conns[d]? with
  | none => exact h
  | some conn =>
      obtain ⟨-, hmembers⟩ := foldl_indexDelete conn.2 d t.index hshape
      refine ⟨h.conn, h.own, h.object, h.unique, ?_, ?_, ?_⟩
      · exact fun k e hmem => h.entry k e (mem_mapDelete.1 hmem).1
      · exact Nat.le_trans ((t.unlist_sublist _).count_le ref) h.once
      · exact fun e hmem => h.indexed e ((hmembers e c).1 hmem).1

/-- The subscriptions of a connection change, of this one or another. -/
theorem Owned.subscriptions (h : t.Owned c ref id) {d : Nat}
    {f : List String → List String} {index : List (String × List Nat)}
    (hindex : ∀ e subs, c ∈ members index e →
      t.conns[c]? = some (ref, subs) → e ∈ if d = c then f subs else subs) :
    Owned { t with
      conns := t.conns.modify d fun conn => (conn.1, f conn.2)
      index := index } c ref id := by
  obtain ⟨subs, hconn⟩ := h.conn
  have hself : (t.conns.modify d fun conn => (conn.1, f conn.2))[c]?
      = some (ref, if d = c then f subs else subs) := by
    rw [List.getElem?_modify, hconn]
    by_cases hd : d = c
    · simp [hd]
    · simp [hd]
  refine ⟨⟨_, hself⟩, ?_, h.object, h.unique, h.entry, h.once, ?_⟩
  · intro b subs' hb
    rw [List.getElem?_modify] at hb
    obtain ⟨old, hold, heq⟩ := Option.map_eq_some_iff.1 hb
    have hold' : t.conns[b]? = some (ref, old.2) := by
      rw [hold]
      split at heq
      · injection heq with href
        rw [← href]
      · rw [heq]
    exact h.own b _ hold'
  · exact fun e hmem => ⟨_, hself, hindex e subs hmem hconn⟩

theorem Owned.subscribe (h : t.Owned c ref id) (eventName : String)
    (d : Nat) : (t.subscribe eventName d).Owned c ref id := by
  unfold ConnTables.subscribe
  cases hconn : t.conns[d]? with
  | none => exact h
  | some conn =>
      dsimp only
      split
      · exact h
      · refine h.subscriptions (f := (· ++ [eventName])) ?_
        intro e subs hmem hsubs
        rcases mem_indexAdd.1 hmem with hmem | ⟨rfl, rfl⟩
        · obtain ⟨subs', hs, he⟩ := h.indexed e hmem
          obtain rfl : subs' = subs := by
            injection hs.symm.trans hsubs with heq
            exact congrArg Prod.snd heq
          split
          · exact List.mem_append_left _ he
          · exact he
        · rw [if_pos rfl]
          exact List.mem_append_right _ (List.mem_singleton_self e)

theorem Owned.unsubscribe (h : t.Owned c ref id)
    (hshape : IndexShape t.index) (eventName : String) (d : Nat) :
    (t.unsubscribe eventName d).Owned c ref id := by
  unfold ConnTables.unsubscribe
  cases hconn : t.conns[d]? with
  | none => exact h
  | some conn =>
      dsimp only
      split
      · exact h
      · refine h.subscriptions (f := (·.erase eventName)) ?_
        intro e subs hmem hsubs
        obtain ⟨hmem, hnot⟩ := (mem_indexDelete hshape).1 hmem
        obtain ⟨subs', hs, he⟩ := h.indexed e hmem
        obtain rfl : subs' = subs := by
          injection hs.symm.trans hsubs with heq
          exact congrArg Prod.snd heq
        split
        · rename_i hd
          refine (List.mem_erase_of_ne ?_).2 he
          rintro rfl
          exact hnot ⟨rfl, hd.symm⟩
        · exact he

/-- What an operation may be while the connection is looked after: an id is
given once. -/
def Fresh (t : ConnTables) : TableOp → Prop
  | .create id => id ∉ t.ids
  | _ => True

theorem Owned.apply (h : t.Owned c ref id) (hbounded : t.Bounded)
    {op : TableOp} (hfresh : t.Fresh op) : (t.apply op).Owned c ref id := by
  cases op with
  | keep => exact h
  | create id => exact h.create hfresh
  | remove d => exact h.remove hbounded.shape d
  | subscribe eventName d => exact h.subscribe eventName d
  | unsubscribe eventName d => exact h.unsubscribe hbounded.shape eventName d

-- ================================================================= released

/-- In the persisted list the object is the only one of its id. -/
theorem Owned.listed (h : t.Owned c ref id) {r : Nat} :
    (t.ids[r]?.any (· == id)) = true ↔ r = ref := by
  constructor
  · intro hany
    obtain ⟨id', hid', heq⟩ := (Option.any_eq_true _ _).1 hany
    exact h.unique r (by rw [hid', eq_of_beq heq])
  · rintro rfl
    rw [h.object]
    exact beq_self_eq_true id

/-- The persisted list without it. -/
theorem Owned.unlist (h : t.Owned c ref id) :
    t.unlist id = t.persisted.filter (· ≠ ref) := by
  unfold ConnTables.unlist
  cases hfind : t.persisted.findIdx? fun r => t.ids[r]?.any (· == id) with
  | none =>
      rw [List.findIdx?_eq_none_iff] at hfind
      refine (List.filter_eq_self.2 fun r hr => ?_).symm
      have hne : r ≠ ref := by
        intro heq
        have hnone := hfind r hr
        rw [h.listed.2 heq] at hnone
        cases hnone
      simpa using hne
  | some connIdx =>
      obtain ⟨pre, x, post, hlist, hlen, hx, hpre⟩ :=
        Lists.findIdx?_split hfind
      obtain rfl := h.listed.1 hx
      have hnone : x ∉ pre ∧ x ∉ post := by
        have honce := h.once
        rw [hlist, List.count_append, List.count_cons_self] at honce
        exact ⟨List.count_eq_zero.1 (by omega),
          List.count_eq_zero.1 (by omega)⟩
      have hkeep : ∀ l : List Nat, x ∉ l → l.filter (· ≠ x) = l := by
        intro l hl
        refine List.filter_eq_self.2 fun r hr => ?_
        have hne : r ≠ x := by
          rintro rfl
          exact hl hr
        simpa using hne
      dsimp only
      rw [hlist, ← hlen, List.eraseIdx_append_of_length_le (Nat.le_refl _),
        Nat.sub_self, List.eraseIdx_cons_zero, List.filter_append,
        List.filter_cons_of_neg (by simp), hkeep pre hnone.1,
        hkeep post hnone.2]

/-- `__removeConn` leaves nothing of its connection. -/
theorem Owned.released (h : t.Owned c ref id) (hshape : IndexShape t.index) :
    (t.remove c).Released c ref := by
  obtain ⟨subs, hconn⟩ := h.conn
  have hid : t.ids[ref]?.getD "" = id := by
    rw [h.object]
    rfl
  unfold ConnTables.remove
  rw [hconn]
  dsimp only
  rw [hid]
  obtain ⟨-, hmembers⟩ := foldl_indexDelete subs c t.index hshape
  constructor
  case map =>
    intro k hmem
    obtain ⟨hmem, hne⟩ := mem_mapDelete.1 hmem
    exact hne ((h.entry k c hmem).2 rfl)
  case persisted =>
    show ref ∉ t.unlist id
    rw [h.unlist]
    intro hmem
    simpa using (List.mem_filter.1 hmem).2
  case index =>
    intro e hmem
    obtain ⟨hmem, hnot⟩ := (hmembers e c).1 hmem
    obtain ⟨subs', hs, he⟩ := h.indexed e hmem
    obtain rfl : subs' = subs := by
      injection hs.symm.trans hconn with heq
      exact congrArg Prod.snd heq
    exact hnot ⟨he, rfl⟩

/-- No operation brings it back but a subscription of its own. -/
theorem Released.apply (h : t.Released c ref) (howned : t.Owned c ref id)
    (hbounded : t.Bounded) {op : TableOp}
    (hop : ∀ eventName, op ≠ .subscribe eventName c) :
    (t.apply op).Released c ref := by
  obtain ⟨subs, hconn⟩ := howned.conn
  have hc := (List.getElem?_eq_some_iff.1 hconn).1
  have href := (List.getElem?_eq_some_iff.1 howned.object).1
  cases op with
  | keep => exact h
  | create id =>
      constructor
      case map =>
        intro k hmem
        rcases mem_mapSet hmem with hmem | heq
        · exact h.map k hmem
        · injection heq with hk heq
          rw [heq] at hc
          exact absurd hc (Nat.lt_irrefl _)
      case persisted =>
        intro hmem
        rcases List.mem_append.1 hmem with hmem | hmem
        · exact h.persisted hmem
        · rw [List.mem_singleton.1 hmem] at href
          exact absurd href (Nat.lt_irrefl _)
      case index => exact h.index
  | remove d =>
      show (t.remove d).Released c ref
      unfold ConnTables.remove
      cases hd : t.conns[d]? with
      | none => exact h
      | some conn =>
          obtain ⟨-, hmembers⟩ :=
            foldl_indexDelete conn.2 d t.index hbounded.shape
          constructor
          case map => exact fun k hmem => h.map k (mem_mapDelete.1 hmem).1
          case persisted =>
            intro hmem
            exact h.persisted ((t.unlist_sublist _).subset hmem)
          case index => exact fun e hmem => h.index e ((hmembers e c).1 hmem).1
  | subscribe eventName d =>
      show (t.subscribe eventName d).Released c ref
      unfold ConnTables.subscribe
      cases hd : t.conns[d]? with
      | none => exact h
      | some conn =>
          dsimp only
          split
          · exact h
          · refine ⟨h.map, h.persisted, fun e hmem => ?_⟩
            rcases mem_indexAdd.1 hmem with hmem | ⟨-, rfl⟩
            · exact h.index e hmem
            · exact hop eventName rfl
  | unsubscribe eventName d =>
      show (t.unsubscribe eventName d).Released c ref
      unfold ConnTables.unsubscribe
      cases hd : t.conns[d]? with
      | none => exact h
      | some conn =>
          dsimp only
          split
          · exact h
          · refine ⟨h.map, h.persisted, fun e hmem => ?_⟩
            exact h.index e ((mem_indexDelete hbounded.shape).1 hmem).1

-- =================================================================== frames

/-- The tables are the same but for one connection. -/
structure SameBut (t t' : ConnTables) (c ref : Nat) : Prop where
  map : t'.connections.filter (·.2 ≠ c) = t.connections.filter (·.2 ≠ c)
  persisted : t'.persisted.filter (· ≠ ref) = t.persisted.filter (· ≠ ref)
  index : ∀ e d, d ≠ c → (d ∈ members t'.index e ↔ d ∈ members t.index e)

/-- `createConn` adds the entries of its connection, where the map has no
other of the id. -/
theorem sameBut_create (t : ConnTables)
    (hnew : ∀ entry ∈ t.connections, entry.1 ≠ id) :
    SameBut t (t.create id) t.conns.length t.ids.length := by
  unfold ConnTables.create
  constructor
  case map =>
    dsimp only
    rw [mapSet_of_fresh hnew, List.filter_append,
      List.filter_cons_of_neg (by simp), List.filter_nil, List.append_nil]
  case persisted =>
    dsimp only
    rw [List.filter_append, List.filter_cons_of_neg (by simp),
      List.filter_nil, List.append_nil]
  case index => exact fun e d _ => Iff.rfl

/-- `__removeConn` takes away those of its connection. -/
theorem Owned.sameBut (h : t.Owned c ref id) (hshape : IndexShape t.index) :
    SameBut t (t.remove c) c ref := by
  obtain ⟨subs, hconn⟩ := h.conn
  have hid : t.ids[ref]?.getD "" = id := by
    rw [h.object]
    rfl
  unfold ConnTables.remove
  rw [hconn]
  dsimp only
  rw [hid]
  obtain ⟨-, hmembers⟩ := foldl_indexDelete subs c t.index hshape
  constructor
  case map =>
    unfold LiveInstance.mapDelete
    dsimp only
    rw [List.filter_filter]
    refine List.filter_congr fun entry hmem => ?_
    obtain ⟨k, d⟩ := entry
    have hentry := h.entry k d hmem
    by_cases hd : d = c
    · simp [hd]
    · have hk : k ≠ id := fun heq => hd (hentry.1 heq)
      simp [hd, hk]
  case persisted =>
    show (t.unlist id).filter _ = _
    rw [h.unlist, List.filter_filter]
    refine List.filter_congr fun r _ => ?_
    exact Bool.and_self _
  case index =>
    intro e d hd
    rw [hmembers]
    constructor
    · exact And.left
    · exact fun hmem => ⟨hmem, fun hself => hd hself.2⟩

end ConnTables

end RivetKit.Actor
