/-
The actions in flight: in every run whose steps are `OrphanSafe`, the request
of each is queued, or sent on the connection there is, and an action is
pending exactly while it is in the map (`no_orphaned_action`).

`#handleOnClose` forgets the requests sent on the transport that closes, a
transport that is replaced takes its requests with it, `dispose()` rejects
nothing, and an `action()` that throws leaves its entry (`orphaned_action`).
-/
import RivetKit.Client.Proofs.Sending
import Mathlib.Data.List.Nodup

namespace RivetKit.Client

open Transition

variable {kind : Transport} {throws : ToServerMessage → Bool}

namespace ActorConnRaw

-- ============================================================ the contract

/-- The request of `call` waits in the queue, or was sent on the current
connection. -/
def Placed (s : ActorConnRaw) (call : Nat) : Prop :=
  call ∈ s.messageQueue ∨ s.CarriedByCurrent call

/-- No action in flight is without its request, none is in flight once the
connection is disposed, and those in flight are those that are pending. -/
structure NoOrphan (s : ActorConnRaw) : Prop where
  placed : ∀ e ∈ s.actionsInFlight, s.Placed e.2
  disposed : s.disposed = true → s.actionsInFlight = []
  pending : ∀ call, s.calls[call]? = some .pending
    ↔ ∃ id, (id, call) ∈ s.actionsInFlight

-- ============================================================= the guard

/-- No request in flight has been sent. -/
def AllQueued (s : ActorConnRaw) : Prop :=
  ∀ e ∈ s.actionsInFlight, e.2 ∈ s.messageQueue

/-- A post, if one can be made, is to the connection of the transport. -/
def PostsHere (kind : Transport) (s : ActorConnRaw) : Prop :=
  kind = .sse → s.IsOpen → s.connectionId = none
    ∨ s.connectionId = s.currentConn

/-- A transport closes, loses its stream or is replaced while no request in
flight has been sent; `dispose()` finds no action in flight; `action()` is
not called after it, with arguments that can be encoded and an id that is
free; and posts are to the connection of the transport. -/
def OrphanSafe (kind : Transport) (s : ActorConnRaw) : RawStep → Prop
  | .driverResolve _ => s.AllQueued
  | .socketClose _ => s.AllQueued
  | .socketReconnecting i => s.transport = some i → s.AllQueued
  | .dispose => s.disposed = true ∨ s.actionsInFlight = []
  | .action encodes _ =>
      encodes = true ∧ s.disposed = false
        ∧ (∀ e ∈ s.actionsInFlight, e.1 ≠ s.actionIdCounter)
        ∧ PostsHere kind s
  | .messageParsed k _ =>
      ∀ frame conn, s.frames[k]? = some frame → frame.body = .init conn →
        s.messageQueue = [] ∨ PostsHere kind { s with connectionId := some conn }
  | _ => True

-- =============================================================== sending

variable {s s' : ActorConnRaw}

theorem CarriedByCurrent.of_rest {c : Nat} (h : s.CarriedByCurrent c)
    (hrest : s.Rest s') (hcarried : ∀ e ∈ s.carried, e ∈ s'.carried) :
    s'.CarriedByCurrent c := by
  obtain ⟨conn, hconn, hmem⟩ := h
  refine ⟨conn, ?_, hcarried _ hmem⟩
  rw [currentConn_of_rest hrest, hconn]

/-- Sending adds to the queue, or to what is carried. -/
theorem sendMessage_grows (s : ActorConnRaw) (m : ToServerMessage) :
    (∀ c ∈ s.messageQueue, c ∈ (sendMessage kind throws s m).messageQueue)
      ∧ ∀ e ∈ s.carried, e ∈ (sendMessage kind throws s m).carried := by
  have hpush : (∀ c ∈ s.messageQueue, c ∈ (s.pushMessage m).messageQueue)
      ∧ ∀ e ∈ s.carried, e ∈ (s.pushMessage m).carried := by
    cases m with
    | action call =>
        exact ⟨fun c hc => List.mem_append_left _ hc, fun e he => he⟩
    | subscription name subscribed => exact ⟨fun c hc => hc, fun e he => he⟩
  have hunshift : (∀ c ∈ s.messageQueue, c ∈ (s.unshiftMessage m).messageQueue)
      ∧ ∀ e ∈ s.carried, e ∈ (s.unshiftMessage m).carried := by
    cases m with
    | action call =>
        exact ⟨fun c hc => List.mem_cons_of_mem _ hc, fun e he => he⟩
    | subscription name subscribed => exact ⟨fun c hc => hc, fun e he => he⟩
  have htransmit : ∀ conn,
      (∀ c ∈ s.messageQueue, c ∈ (s.transmit conn m).messageQueue)
        ∧ ∀ e ∈ s.carried, e ∈ (s.transmit conn m).carried := by
    intro conn
    cases m with
    | action call =>
        exact ⟨fun c hc => hc, fun e he => List.mem_append_left _ he⟩
    | subscription name subscribed => exact ⟨fun c hc => hc, fun e he => he⟩
  unfold sendMessage
  split
  case h_1 conn _ =>
    cases kind with
    | websocket =>
        dsimp only
        split
        · exact hpush
        · exact htransmit conn
    | sse =>
        dsimp only
        unfold sendHttpMessage
        split
        case h_1 id _ => exact htransmit id
        case h_2 => exact hunshift
  case h_2 => exact hpush

theorem Placed.sendMessage {c : Nat} (h : s.Placed c) (m : ToServerMessage) :
    (sendMessage kind throws s m).Placed c := by
  obtain ⟨hqueue, hcarried⟩ := @sendMessage_grows kind throws s m
  rcases h with h | h
  · exact Or.inl (hqueue c h)
  · exact Or.inr (h.of_rest (sendMessage_sending s m).rest hcarried)

theorem Placed.foldl_sendMessage {β : Type} (f : β → ToServerMessage)
    (ms : List β) {c : Nat} : ∀ {t : ActorConnRaw}, t.Placed c →
      (ms.foldl (fun s m => ActorConnRaw.sendMessage kind throws s (f m))
        t).Placed c := by
  induction ms with
  | nil => exact fun h => h
  | cons m ms ih => exact fun h => ih (h.sendMessage (f m))

theorem postsHere_of_sending (h : s.Sending s') :
    PostsHere kind s' ↔ PostsHere kind s := by
  unfold PostsHere
  rw [isOpen_of_rest h.rest, currentConn_of_rest h.rest]
  obtain ⟨queue, posts, sent, carried, rfl⟩ := h
  exact Iff.rfl

/-- A request is sent on the current connection, or queued. -/
theorem sendMessage_placed (s : ActorConnRaw) (hposts : PostsHere kind s)
    (c : Nat) : (sendMessage kind throws s (.action c)).Placed c := by
  have htransmit : ∀ conn, s.currentConn = some conn →
      (s.transmit conn (.action c)).Placed c := by
    intro conn hconn
    exact Or.inr ⟨conn, hconn, List.mem_append_right _ List.mem_cons_self⟩
  have hpush : (s.pushMessage (.action c)).Placed c :=
    Or.inl (List.mem_append_right _ List.mem_cons_self)
  unfold sendMessage
  split
  case h_1 conn hsocket =>
    have hconn : s.currentConn = some conn := by
      unfold currentConn
      rw [hsocket]
      rfl
    cases kind with
    | websocket =>
        dsimp only
        split
        · exact hpush
        · exact htransmit conn hconn
    | sse =>
        dsimp only
        unfold sendHttpMessage
        split
        case h_1 id hid =>
          have hhere : s.currentConn = some id := by
            rcases hposts rfl ⟨conn, hsocket⟩ with hnone | hsame
            · rw [hid] at hnone
              cases hnone
            · rw [← hsame, hid]
          exact htransmit id hhere
        case h_2 => exact Or.inl List.mem_cons_self
  case h_2 => exact hpush

/-- Requests sent one by one. -/
theorem foldl_sendMessage_placed (cs : List Nat) :
    ∀ t : ActorConnRaw, PostsHere kind t → ∀ c ∈ cs,
      (cs.foldl (fun s c => sendMessage kind throws s (.action c)) t).Placed
        c := by
  induction cs with
  | nil => exact fun t _ c hc => by cases hc
  | cons d cs ih =>
      intro t hposts c hc
      rw [List.foldl_cons]
      rcases List.mem_cons.1 hc with rfl | hc
      · exact (t.sendMessage_placed hposts c).foldl_sendMessage .action cs
      · refine ih _ ?_ c hc
        exact (postsHere_of_sending (sendMessage_sending t _)).2 hposts

/-- The queue, flushed. -/
theorem Placed.flushQueue {c : Nat} (h : s.Placed c)
    (hposts : s.messageQueue = [] ∨ PostsHere kind s) :
    (s.flushQueue kind throws).Placed c := by
  unfold ActorConnRaw.flushQueue
  rcases h with hqueued | hcarried
  · refine foldl_sendMessage_placed s.messageQueue _ ?_ c hqueued
    refine hposts.resolve_left fun hnil => ?_
    rw [hnil] at hqueued
    cases hqueued
  · have hplaced : Placed { s with messageQueue := [] } c := Or.inr hcarried
    exact hplaced.foldl_sendMessage .action s.messageQueue

/-- A subscription that is not sent is forgotten. -/
theorem sendMessage_subscription_queue (s : ActorConnRaw) (name : String)
    (subscribed : Bool) :
    (sendMessage kind throws s (.subscription name subscribed)).messageQueue
      = s.messageQueue := by
  unfold sendMessage
  split
  case h_1 conn _ =>
    cases kind with
    | websocket =>
        dsimp only
        split <;> rfl
    | sse =>
        dsimp only
        unfold sendHttpMessage
        split <;> rfl
  case h_2 => rfl

theorem resubscribe_queue (s : ActorConnRaw) :
    (s.resubscribe kind throws).messageQueue = s.messageQueue := by
  have hfold : ∀ (names : List String) (t : ActorConnRaw),
      (names.foldl (fun s name =>
        sendMessage kind throws s (.subscription name true)) t).messageQueue
        = t.messageQueue := by
    intro names
    induction names with
    | nil => exact fun t => rfl
    | cons name names ih =>
        exact fun t => (ih _).trans (t.sendMessage_subscription_queue name true)
  exact hfold s.eventSubscriptions s

/-- `#handleOnOpen`. -/
theorem Placed.handleOnOpen {c : Nat} (h : s.Placed c)
    (hdisposed : s.disposed = false)
    (hposts : s.messageQueue = [] ∨ PostsHere kind s) :
    (handleOnOpen kind s throws).Placed c := by
  have hresubscribed : ∀ t : ActorConnRaw, t.Placed c →
      t.messageQueue = [] ∨ PostsHere kind t →
      ((t.resubscribe kind throws).flushQueue kind throws).Placed c := by
    intro t ht hposts
    refine Placed.flushQueue ?_ ?_
    · exact ht.foldl_sendMessage (fun name => .subscription name true) _
    · rw [resubscribe_queue, postsHere_of_sending (resubscribe_sending t)]
      exact hposts
  unfold ActorConnRaw.handleOnOpen
  dsimp only
  rw [if_neg (by simp [hdisposed])]
  exact hresubscribed _ h hposts

-- ============================================================== settling

/-- The calls that are settled are no longer pending, the others are as they
were. -/
theorem settle_pending (s : ActorConnRaw) (call c : Nat) {outcome : CallPromise}
    (houtcome : outcome ≠ .pending) :
    (s.settle call outcome).calls[c]? = some .pending
      ↔ s.calls[c]? = some .pending ∧ c ≠ call := by
  unfold settle
  rw [List.getElem?_modify]
  by_cases hc : call = c
  · subst hc
    cases hget : s.calls[call]? with
    | none => simp
    | some p => cases p <;> simp [houtcome]
  · cases hget : s.calls[c]? with
    | none => simp
    | some p => simp [hc, Ne.symm hc]

theorem foldl_settle_pending (entries : List (Nat × Nat)) (c : Nat)
    {outcome : CallPromise} (houtcome : outcome ≠ .pending) :
    ∀ t : ActorConnRaw,
      (entries.foldl (fun s entry => s.settle entry.2 outcome) t).calls[c]?
          = some .pending
        ↔ t.calls[c]? = some .pending ∧ ∀ e ∈ entries, e.2 ≠ c := by
  induction entries with
  | nil => simp
  | cons entry entries ih =>
      intro t
      rw [List.foldl_cons, ih, settle_pending t entry.2 c houtcome,
        List.forall_mem_cons]
      constructor
      · intro hgiven
        obtain ⟨⟨hpending, hne⟩, hrest⟩ := hgiven
        exact ⟨hpending, Ne.symm hne, hrest⟩
      · intro hgiven
        obtain ⟨hpending, hne, hrest⟩ := hgiven
        exact ⟨⟨hpending, Ne.symm hne⟩, hrest⟩

-- =========================================================== the invariant

/-- The contract, with what it takes to keep it: an action has one id, and an
id one action. -/
structure OrphanInv (s : ActorConnRaw) : Prop extends NoOrphan s where
  ids : (s.actionsInFlight.map (·.1)).Nodup
  actions : (s.actionsInFlight.map (·.2)).Nodup
  disposing : s.disposing ≠ none → s.disposed = true

/-- A step that leaves the actions and their promises. -/
theorem OrphanInv.of_placed (h : s.OrphanInv)
    (hflight : s'.actionsInFlight = s.actionsInFlight)
    (hcalls : s'.calls = s.calls) (hdisposed : s'.disposed = s.disposed)
    (hdisposing : s'.disposing = s.disposing)
    (hplaced : ∀ e ∈ s.actionsInFlight, s'.Placed e.2) : s'.OrphanInv where
  placed := by rw [hflight]; exact hplaced
  disposed := by rw [hflight, hdisposed]; exact h.disposed
  pending := by rw [hflight, hcalls]; exact h.pending
  ids := by rw [hflight]; exact h.ids
  actions := by rw [hflight]; exact h.actions
  disposing := by rw [hdisposing, hdisposed]; exact h.disposing

/-- A step that leaves what has been sent, and the transport. -/
theorem OrphanInv.congr (h : s.OrphanInv)
    (hflight : s'.actionsInFlight = s.actionsInFlight)
    (hcalls : s'.calls = s.calls) (hdisposed : s'.disposed = s.disposed)
    (hdisposing : s'.disposing = s.disposing)
    (hqueue : s'.messageQueue = s.messageQueue)
    (hconn : s'.currentConn = s.currentConn)
    (hcarried : s'.carried = s.carried) : s'.OrphanInv := by
  refine h.of_placed hflight hcalls hdisposed hdisposing fun e he => ?_
  unfold Placed CarriedByCurrent
  rw [hqueue, hconn, hcarried]
  exact h.placed e he

/-- One action leaves the map, and its promise settles. -/
theorem OrphanInv.takeActionInFlight (h : s.OrphanInv) (id : Nat)
    {outcome : CallPromise} (houtcome : outcome ≠ .pending) :
    (s.takeActionInFlight id outcome).OrphanInv := by
  unfold ActorConnRaw.takeActionInFlight
  split
  case h_2 => exact h
  case h_1 entry hfind =>
    have hentry := List.mem_of_find?_eq_some hfind
    have hid : entry.1 = id := by simpa using List.find?_some hfind
    -- an entry that stays is of another action
    have hother : ∀ e ∈ s.actionsInFlight, e.1 ≠ id ↔ e.2 ≠ entry.2 := by
      intro e he
      have hone : e.1 = entry.1 ↔ e.2 = entry.2 := by
        constructor
        · intro heq
          rw [List.inj_on_of_nodup_map h.ids he hentry heq]
        · intro heq
          rw [List.inj_on_of_nodup_map h.actions he hentry heq]
      rw [← hid]
      exact not_congr hone
    have hfilter : ∀ e, e ∈ s.actionsInFlight.filter (·.1 ≠ id)
        ↔ e ∈ s.actionsInFlight ∧ e.2 ≠ entry.2 := by
      intro e
      rw [List.mem_filter, decide_eq_true_iff]
      constructor
      · exact fun hboth => ⟨hboth.1, (hother e hboth.1).1 hboth.2⟩
      · exact fun hboth => ⟨hboth.1, (hother e hboth.1).2 hboth.2⟩
    refine { placed := ?placed, disposed := ?disposed, pending := ?pending,
             ids := ?ids, actions := ?actions, disposing := ?disposing }
    case placed => exact fun e he => h.placed e ((hfilter e).1 he).1
    case disposed =>
      intro hdisposed
      have hnil := h.disposed hdisposed
      rw [hnil] at hentry
      cases hentry
    case pending =>
      intro call
      rw [settle_pending _ entry.2 call houtcome]
      show s.calls[call]? = some .pending ∧ call ≠ entry.2
        ↔ ∃ k, (k, call) ∈ s.actionsInFlight.filter (·.1 ≠ id)
      rw [h.pending]
      constructor
      · intro hgiven
        obtain ⟨⟨k, hk⟩, hne⟩ := hgiven
        exact ⟨k, (hfilter _).2 ⟨hk, hne⟩⟩
      · intro hgiven
        obtain ⟨k, hk⟩ := hgiven
        obtain ⟨hk, hne⟩ := (hfilter _).1 hk
        exact ⟨⟨k, hk⟩, hne⟩
    case ids => exact (List.filter_sublist.map _).nodup h.ids
    case actions => exact (List.filter_sublist.map _).nodup h.actions
    case disposing => exact h.disposing

/-- All actions are rejected. -/
theorem OrphanInv.connectionError (h : s.OrphanInv) :
    s.connectionError.OrphanInv := by
  have hpending := fun c => @foldl_settle_pending s.actionsInFlight c
    .rejected (by simp) { s with
      onOpenPromise := s.onOpenPromise.map (OpenPromise.settle .rejected) }
  obtain ⟨calls, heq⟩ := foldl_settle_eq s.actionsInFlight .rejected
    { s with
      onOpenPromise := s.onOpenPromise.map (OpenPromise.settle .rejected) }
  unfold ActorConnRaw.connectionError
  dsimp only
  rw [heq] at hpending ⊢
  refine { placed := ?placed, disposed := ?disposed, pending := ?pending,
           ids := ?ids, actions := ?actions, disposing := ?disposing }
  case placed => exact fun e he => by cases he
  case disposed => exact fun _ => rfl
  case pending =>
    intro c
    refine (hpending c).trans ⟨?_, ?_⟩
    · intro hgiven
      obtain ⟨hc, hnone⟩ := hgiven
      obtain ⟨id, hmem⟩ := (h.pending c).1 hc
      exact absurd rfl (hnone _ hmem)
    · intro hgiven
      obtain ⟨id, hmem⟩ := hgiven
      cases hmem
  case ids => exact List.nodup_nil
  case actions => exact List.nodup_nil
  case disposing => exact h.disposing

/-- `action()`. -/
theorem OrphanInv.action (h : s.OrphanInv) (hdisposed : s.disposed = false)
    (hfree : ∀ e ∈ s.actionsInFlight, e.1 ≠ s.actionIdCounter)
    (hposts : PostsHere kind s) :
    (s.action kind true throws).OrphanInv := by
  have hflight : (s.register true).actionsInFlight
      = s.actionsInFlight ++ [(s.actionIdCounter, s.calls.length)] := by
    unfold register
    dsimp only
    rw [List.filter_eq_self.2 fun e he => by simpa using hfree e he]
  have hbound : ∀ e ∈ s.actionsInFlight, e.2 < s.calls.length := by
    intro e he
    have hpending := (h.pending e.2).2 ⟨e.1, he⟩
    exact (List.getElem?_eq_some_iff.1 hpending).1
  have hsending := @sendMessage_sending kind throws (s.register true)
    (.action s.calls.length)
  have hlast := @sendMessage_placed kind throws (s.register true) hposts
    s.calls.length
  have hold : ∀ e ∈ s.actionsInFlight, (sendMessage kind throws
      (s.register true) (.action s.calls.length)).Placed e.2 := by
    intro e he
    have hregistered : (s.register true).Placed e.2 := h.placed e he
    exact hregistered.sendMessage _
  unfold ActorConnRaw.action
  rw [if_pos ⟨rfl, hdisposed⟩]
  obtain ⟨queue, posts, sent, carried, heq⟩ := hsending
  rw [heq] at hlast hold ⊢
  refine { placed := ?placed, disposed := ?disposed, pending := ?pending,
           ids := ?ids, actions := ?actions, disposing := ?disposing }
  case placed =>
    intro e he
    replace he : e ∈ (s.register true).actionsInFlight := he
    rw [hflight] at he
    rcases List.mem_append.1 he with he | he
    · exact hold e he
    · rw [List.mem_singleton.1 he]
      exact hlast
  case disposed =>
    intro hd
    replace hd : s.disposed = true := hd
    rw [hdisposed] at hd
    cases hd
  case pending =>
    intro c
    show (s.calls ++ [CallPromise.pending])[c]? = some .pending
      ↔ ∃ id, (id, c) ∈ (s.register true).actionsInFlight
    rw [hflight]
    by_cases hc : c = s.calls.length
    · rw [hc, List.getElem?_concat_length]
      refine ⟨fun _ => ⟨s.actionIdCounter, ?_⟩, fun _ => rfl⟩
      exact List.mem_append_right _ List.mem_cons_self
    · have hget : (s.calls ++ [CallPromise.pending])[c]? = s.calls[c]? := by
        by_cases hlt : c < s.calls.length
        · rw [List.getElem?_append_left hlt]
        · rw [List.getElem?_eq_none (by simp; omega),
            List.getElem?_eq_none (by omega)]
      rw [hget, h.pending]
      constructor
      · intro hgiven
        obtain ⟨id, hid⟩ := hgiven
        exact ⟨id, List.mem_append_left _ hid⟩
      · intro hgiven
        obtain ⟨id, hid⟩ := hgiven
        rcases List.mem_append.1 hid with hid | hid
        · exact ⟨id, hid⟩
        · cases List.mem_singleton.1 hid
          exact absurd rfl hc
  case ids =>
    show ((s.register true).actionsInFlight.map (·.1)).Nodup
    rw [hflight, List.map_append]
    refine h.ids.append (List.nodup_singleton _) ?_
    intro id hid hid'
    obtain ⟨e, he, rfl⟩ := List.mem_map.1 hid
    exact hfree e he (List.mem_singleton.1 hid')
  case actions =>
    show ((s.register true).actionsInFlight.map (·.2)).Nodup
    rw [hflight, List.map_append]
    refine h.actions.append (List.nodup_singleton _) ?_
    intro c hc hc'
    obtain ⟨e, he, rfl⟩ := List.mem_map.1 hc
    have hlt := hbound e he
    rw [List.mem_singleton.1 hc'] at hlt
    exact Nat.lt_irrefl _ hlt
  case disposing => exact h.disposing

-- ============================================================= the steps

/-- A request whose post fails is queued again. -/
theorem postSettled_placed {i : Nat} {ok : Bool}
    (hstep : s.postSettled i ok = some s') {c : Nat} (h : s.Placed c) :
    s'.Placed c := by
  have hconn := currentConn_of_rest (postSettled_sending hstep).rest
  unfold postSettled at hstep
  split at hstep
  case h_2 => cases hstep
  case h_1 conn message _ =>
    dsimp only at hstep
    split at hstep
    · cases hstep
      exact h
    · split at hstep <;> cases hstep
      case h_1 call _ =>
        by_cases hc : c = call
        · rw [hc]
          exact Or.inl List.mem_cons_self
        · rcases h with hqueued | ⟨conn', hcurrent, hcarried⟩
          · exact Or.inl (List.mem_cons_of_mem call hqueued)
          · refine Or.inr ⟨conn', hconn.trans hcurrent, ?_⟩
            refine (List.mem_erase_of_ne ?_).2 hcarried
            simp [hc]
      case h_2 => exact h

theorem subscribe_placed {name : String}
    (hstep : s.subscribe kind name throws = some s') {c : Nat}
    (h : s.Placed c) : s'.Placed c := by
  unfold subscribe at hstep
  split at hstep <;> cases hstep
  have hnamed : Placed
      { s with eventSubscriptions := s.eventSubscriptions ++ [name] } c := h
  split
  · exact hnamed
  · exact hnamed.sendMessage _

theorem unsubscribe_placed {name : String}
    (hstep : s.unsubscribe kind name throws = some s') {c : Nat}
    (h : s.Placed c) : s'.Placed c := by
  unfold unsubscribe at hstep
  split at hstep <;> cases hstep
  have hnamed : Placed
      { s with eventSubscriptions := s.eventSubscriptions.erase name } c := h
  split
  · exact hnamed
  · exact hnamed.sendMessage _

/-- The socket of the transport, or another one, is given another state. -/
theorem currentConn_set (s : ActorConnRaw) (i : Nat) {old new : Socket}
    (hold : s.sockets[i]? = some old)
    (hsame : s.transport = some i → new.conn = old.conn) :
    currentConn { s with sockets := s.sockets.set i new } = s.currentConn := by
  unfold currentConn transportSocket
  dsimp only
  cases htransport : s.transport with
  | none => rfl
  | some j =>
      simp only [Option.bind_some]
      by_cases hij : i = j
      · subst hij
        rw [List.getElem?_set_self (List.getElem?_eq_some_iff.1 hold).1, hold]
        exact hsame htransport
      · rw [List.getElem?_set_ne hij]

/-- An attempt starts. -/
theorem OrphanInv.connectAndWait (h : s.OrphanInv) :
    s.connectAndWait.OrphanInv := by
  unfold ActorConnRaw.connectAndWait
  dsimp only
  split <;> exact h.congr rfl rfl rfl rfl rfl rfl rfl

/-- `dispose()`, with no action in flight. -/
theorem OrphanInv.dispose (h : s.OrphanInv)
    (hsafe : s.disposed = true ∨ s.actionsInFlight = []) :
    (s.dispose kind).OrphanInv := by
  by_cases hdisposed : s.disposed = true
  · unfold ActorConnRaw.dispose
    rw [if_pos hdisposed]
    exact h
  · have hnil := hsafe.resolve_left hdisposed
    have hsame : (s.dispose kind).actionsInFlight = s.actionsInFlight
        ∧ (s.dispose kind).calls = s.calls := by
      unfold ActorConnRaw.dispose
      rw [if_neg hdisposed]
      dsimp only
      cases s.transport with
      | none => exact ⟨rfl, rfl⟩
      | some i =>
          cases kind with
          | sse => exact ⟨rfl, rfl⟩
          | websocket =>
              dsimp only
              split <;> exact ⟨rfl, rfl⟩
    obtain ⟨hflight, hcalls⟩ := hsame
    refine { placed := ?placed, disposed := ?disposed, pending := ?pending,
             ids := ?ids, actions := ?actions, disposing := ?disposing }
    case placed =>
      rw [hflight, hnil]
      exact fun e he => by cases he
    case disposed => exact fun _ => hflight.trans hnil
    case pending =>
      rw [hflight, hcalls]
      exact h.pending
    case ids =>
      rw [hflight]
      exact h.ids
    case actions =>
      rw [hflight]
      exact h.actions
    case disposing => exact fun _ => s.dispose_disposed

/-- A socket opens, which is not the one that requests were sent on. -/
theorem orphanInv_socketOpen (h : s.OrphanInv) {i : Nat}
    (hstep : rawStep kind s (.socketOpen i) = some s') :
    s'.OrphanInv := by
  simp only [rawStep, socketOpen] at hstep
  split at hstep
  case isFalse => cases hstep
  case isTrue hi =>
    cases hstep
    refine h.of_placed rfl rfl rfl rfl fun e he => ?_
    rcases h.placed e he with hqueued | ⟨conn, hcurrent, hcarried⟩
    · exact Or.inl hqueued
    · refine Or.inr ⟨conn, ?_, hcarried⟩
      -- the transport had a connection, so it is another socket
      unfold currentConn transportSocket at hcurrent ⊢
      dsimp only
      cases htransport : s.transport with
      | none =>
          rw [htransport] at hcurrent
          cases hcurrent
      | some j =>
          rw [htransport] at hcurrent
          simp only [Option.bind_some] at hcurrent ⊢
          have hij : i ≠ j := by
            rintro rfl
            rw [hi] at hcurrent
            cases hcurrent
          rw [List.getElem?_set_ne hij, hcurrent]

/-- A socket closes, with every request in the queue. -/
theorem orphanInv_socketClose (h : s.OrphanInv) {i : Nat}
    (hsafe : OrphanSafe kind s (.socketClose i))
    (hstep : rawStep kind s (.socketClose i) = some s') :
    s'.OrphanInv := by
  have hclosed : OrphanInv { s with
      sockets := s.sockets.set i .closed
      onOpenPromise := s.onOpenPromise.map (OpenPromise.settle .rejected)
      transport := none } :=
    h.of_placed rfl rfl rfl rfl fun e he => Or.inl (hsafe e he)
  simp only [rawStep, socketClose] at hstep
  split at hstep <;> cases hstep
  unfold handleOnClose
  dsimp only
  split
  · exact OrphanInv.connectAndWait
      (hclosed.congr rfl rfl rfl rfl rfl rfl rfl)
  · exact hclosed

/-- A message is handled. -/
theorem orphanInv_messageParsed (h : s.OrphanInv) {k : Nat}
    (hsafe : OrphanSafe kind s (.messageParsed k throws))
    (hstep : rawStep kind s (.messageParsed k throws) = some s') :
    s'.OrphanInv := by
  simp only [rawStep, messageParsed] at hstep
  split at hstep <;> cases hstep
  case h_1 frame hframe =>
    have h : OrphanInv { s with frames := s.frames.eraseIdx k } :=
      h.congr rfl rfl rfl rfl rfl rfl rfl
    unfold handleMessage
    split
    case h_1 conn hbody =>
      have hrest := @handleOnOpen_rest kind throws
        { s with
          frames := s.frames.eraseIdx k, connectionId := some conn }
      have hplaced : ∀ e ∈ s.actionsInFlight, (handleOnOpen kind
          { s with
            frames := s.frames.eraseIdx k, connectionId := some conn }
          throws).Placed e.2 := by
        intro e he
        refine Placed.handleOnOpen (h.placed e he) ?_ ?_
        · show s.disposed = false
          by_cases hdisposed : s.disposed = true
          · have hnil : s.actionsInFlight = [] := h.disposed hdisposed
            rw [hnil] at he
            cases he
          · simpa using hdisposed
        · exact hsafe frame conn hframe hbody
      obtain ⟨queue, posts, sent, carried, heq⟩ :=
        @handleOnOpen_sending kind throws
          { s with
            frames := s.frames.eraseIdx k, connectionId := some conn }
      rw [heq] at hplaced ⊢
      exact h.of_placed rfl rfl rfl rfl hplaced
    case h_2 actionId _ =>
      split
      case h_1 id _ => exact h.takeActionInFlight id (by simp)
      case h_2 => exact h.connectionError
    case h_3 id _ => exact h.takeActionInFlight id (by simp)
    case h_4 => exact h

/-- `dispose()` goes on. No action is in flight. -/
theorem orphanInv_disposeResume (h : s.OrphanInv)
    (hstep : rawStep kind s .disposeResume = some s') :
    s'.OrphanInv := by
  simp only [rawStep, disposeResume] at hstep
  split at hstep
  case h_2 => cases hstep
  case h_1 i hdisposing =>
    split at hstep <;> cases hstep
    have hdisposed := h.disposing (by rw [hdisposing]; simp)
    have hnil := h.disposed hdisposed
    refine { h with placed := ?placed, disposing := ?disposing }
    case placed =>
      intro e he
      replace he : e ∈ s.actionsInFlight := he
      rw [hnil] at he
      cases he
    case disposing => exact fun hsome => absurd rfl hsome

/-- Every guarded step keeps the invariant. -/
theorem orphanInv_step {a : RawStep} (h : s.OrphanInv)
    (hsafe : OrphanSafe kind s a) (hstep : rawStep kind s a = some s') :
    s'.OrphanInv := by
  cases a with
  | driverResolve isOpen =>
      simp only [rawStep, driverResolve] at hstep
      split at hstep <;> cases hstep
      exact h.of_placed rfl rfl rfl rfl fun e he => Or.inl (hsafe e he)
  | driverReject final =>
      simp only [rawStep, driverReject] at hstep
      split at hstep <;> cases hstep
      cases final <;> exact h.congr rfl rfl rfl rfl rfl rfl rfl
  | openSettled =>
      simp only [rawStep, openSettled] at hstep
      split at hstep
      · split at hstep <;> cases hstep <;>
          exact h.congr rfl rfl rfl rfl rfl rfl rfl
      · cases hstep
  | loopEnd =>
      simp only [rawStep, loopEnd] at hstep
      split at hstep <;> cases hstep
      exact h.congr rfl rfl rfl rfl rfl rfl rfl
  | retryTimer =>
      simp only [rawStep, retryTimer] at hstep
      split at hstep <;> cases hstep
      exact OrphanInv.connectAndWait (h.congr rfl rfl rfl rfl rfl rfl rfl)
  | socketOpen i =>
      exact orphanInv_socketOpen h hstep
  | socketReconnecting i =>
      simp only [rawStep, socketReconnecting] at hstep
      split at hstep <;> cases hstep
      case h_1 conn hi =>
        by_cases htransport : s.transport = some i
        · exact h.of_placed rfl rfl rfl rfl fun e he =>
            Or.inl (hsafe htransport e he)
        · exact h.congr rfl rfl rfl rfl rfl
            (currentConn_set s i hi fun heq => absurd heq htransport) rfl
  | socketClosing i =>
      simp only [rawStep, socketClosing] at hstep
      split at hstep <;> cases hstep
      case h_1 conn hi =>
        exact h.congr rfl rfl rfl rfl rfl (currentConn_set s i hi fun _ => rfl)
          rfl
      case h_2 hi =>
        exact h.congr rfl rfl rfl rfl rfl (currentConn_set s i hi fun _ => rfl)
          rfl
  | socketClose i =>
      exact orphanInv_socketClose h hsafe hstep
  | socketError i =>
      simp only [rawStep, socketError] at hstep
      split at hstep <;> cases hstep
      exact h
  | socketMessage i body =>
      simp only [rawStep, socketMessage] at hstep
      split at hstep <;> cases hstep
      split <;> exact h.congr rfl rfl rfl rfl rfl rfl rfl
  | messageParsed k throws =>
      exact orphanInv_messageParsed h hsafe hstep
  | action encodes throws =>
      cases hstep
      obtain ⟨rfl, hdisposed, hfree, hposts⟩ := hsafe
      exact h.action hdisposed hfree hposts
  | subscribe name throws =>
      have hplaced : ∀ e ∈ s.actionsInFlight, s'.Placed e.2 :=
        fun e he => subscribe_placed hstep (h.placed e he)
      obtain ⟨queue, posts, sent, carried, rfl⟩ := subscribe_sending hstep
      exact h.of_placed rfl rfl rfl rfl hplaced
  | unsubscribe name throws =>
      have hplaced : ∀ e ∈ s.actionsInFlight, s'.Placed e.2 :=
        fun e he => unsubscribe_placed hstep (h.placed e he)
      obtain ⟨queue, posts, sent, carried, rfl⟩ := unsubscribe_sending hstep
      exact h.of_placed rfl rfl rfl rfl hplaced
  | cleanUp name =>
      cases hstep
      exact h.congr rfl rfl rfl rfl rfl rfl rfl
  | postSettled i ok =>
      have hplaced : ∀ e ∈ s.actionsInFlight, s'.Placed e.2 :=
        fun e he => postSettled_placed hstep (h.placed e he)
      obtain ⟨queue, posts, sent, carried, rfl⟩ := postSettled_sending hstep
      exact h.of_placed rfl rfl rfl rfl hplaced
  | dispose =>
      cases hstep
      exact h.dispose hsafe
  | disposeResume =>
      exact orphanInv_disposeResume h hstep
/-- And so does every guarded run. -/
theorem orphanInv_reaches
    (h : (rawSystem kind).Reaches (OrphanSafe kind) s) : s.OrphanInv := by
  refine System.Reaches.invariant (P := OrphanInv) ?_ ?_ h
  · rintro s rfl
    refine { placed := ?_, disposed := ?_, pending := ?_, ids := List.nodup_nil,
             actions := List.nodup_nil, disposing := fun hsome => absurd rfl hsome }
    · exact fun e he => by cases he
    · exact fun hdisposed => by cases hdisposed
    · intro c
      constructor
      · exact fun hpending => by cases hpending
      · intro hgiven
        obtain ⟨id, hmem⟩ := hgiven
        cases hmem
  · intro s a s' _ hinv hsafe hstep
    exact orphanInv_step hinv hsafe hstep

end ActorConnRaw

open ActorConnRaw

/-- In every run whose steps are `OrphanSafe`, no action is orphaned. -/
theorem no_orphaned_action {s : ActorConnRaw}
    (h : (rawSystem kind).Reaches (OrphanSafe kind) s) : s.NoOrphan :=
  (orphanInv_reaches h).toNoOrphan

/-- An action queued before the socket is open, sent at `Init`, and
answered. -/
def answeredRun : List RawStep :=
  [.action true fun _ => false, .driverResolve false, .socketOpen 0,
    .socketMessage 0 (.init 0), .messageParsed 0 fun _ => false,
    .socketMessage 0 (.actionResponse 0), .messageParsed 0 fun _ => false]

/-- The guard admits that run. -/
theorem no_orphaned_action_answered :
    ∃ s, (rawSystem .websocket).run .connected answeredRun = some s
      ∧ s.calls = [.resolved] ∧ s.NoOrphan := by
  refine ⟨_, rfl, by decide, @no_orphaned_action .websocket _
    (System.Reaches.run answeredRun (.init rfl) ?_ rfl)⟩
  refine ⟨⟨rfl, rfl, ?_, ?_⟩, ?_, trivial, trivial, ?_, trivial, ?_, trivial⟩
  · exact fun e he => by cases he
  · exact fun hkind => by cases hkind
  · intro e he
    rw [List.mem_singleton.1 he]
    decide
  · exact fun frame conn _ _ => Or.inr fun hkind => by cases hkind
  · exact fun frame conn _ _ => Or.inr fun hkind => by cases hkind

/-- The transport an action was sent on closes. -/
theorem orphaned_action :
    ¬ ∀ s : ActorConnRaw,
      (rawSystem .websocket).Reachable s → s.NoOrphan := by
  intro hall
  have h := hall _ (System.Reachable.run
    [.driverResolve true, .action true fun _ => false, .socketClose 0]
    (.init rfl) rfl)
  rcases h.placed (0, 0) (by decide) with hqueued | ⟨conn, hconn, -⟩
  · exact absurd hqueued (by decide)
  · cases hconn

end RivetKit.Client
