/-
The replies that a Rust client's connection gets.

# Two ways to lose one

`try_connect` leaves its loop when the `select!` takes the end of the
driver task, whatever is still in the incoming channel; and nothing but
`disconnect` takes an action out of `in_flight_rpcs` without its reply.
So a reply that is in the channel when the driver task ends can be
dropped, and its action waits for good (`reply_lost`); and so does one
whose reply the server had no time to send.

# Accounts

`Replying` has the two accounts of an attempt: what the driver has read
is what `on_message` was called with and what is on its way to it, and an
action that was answered is settled, or its answer is on its way. At the
end nothing is on its way (`ReplySafe`), so both are even.
-/
import RivetKit.RustClient.Proofs.Requests

namespace RivetKit.RustClient

open Transition

-- ==================================================== statement vocabulary

/-- The message that the driver task is about to deliver. -/
def DriverTask.delivering : DriverTask → List ToClient
  | .deliver msg => [msg]
  | _ => []

/-- A `disconnect` that has still to clear the table. -/
def Caller.clears : Caller → Bool
  | .abort => true
  | .clearRpcs => true
  | _ => false

/-- The action that a reply is for. -/
def RpcResponse.id : RpcResponse → Option Int
  | .ok ar => some ar.i
  | .err e => e.ai

namespace ActorConnection

/-- The action `id` has its reply, or was failed. -/
def Settled (s : ActorConnection) (id : Int) : Prop :=
  id ∈ s.settled.map Prod.fst

/-- A `disconnect` is about to fail what is in the table. -/
def clearPending (s : ActorConnection) : Bool :=
  s.callers.any Caller.clears

end ActorConnection

/-- The `select!` takes the end of the driver task when no message is left
in the incoming channel, and when the server has answered every action
that the driver was given, or `disconnect` clears the table; and the
driver task is not aborted while it waits for room for a message. -/
def ReplySafe (s : ActorConnection) : ConnectionStep → Prop
  | .takeEnd =>
      s.incoming.length = 0
        ∧ ∀ id ∈ s.handed, id ∈ s.answered ∨ id < s.cleared
          ∨ s.clearPending = true
  | .endDriver => s.driverTask.delivering.length = 0
  | _ => True

instance (s : ActorConnection) :
    (a : ConnectionStep) → Decidable (ReplySafe s a)
  | .takeEnd => inferInstanceAs (Decidable (_ ∧ _))
  | .endDriver => inferInstanceAs (Decidable (_ = _))
  | .action _ _ | .onEvent _ | .disconnect | .addEventSubscription _
  | .lockDriver _ | .sendOk _ | .sendFails _ | .pushQueue _ | .abort _
  | .clearRpcs _ | .clearSubscriptions _ | .finishAction _ | .connect _
  | .setDriver | .recv | .event | .openSubscriptions _ | .openQueue
  | .destroyDriver | .takeOutgoing | .wrote | .receive _ | .deliver =>
      .isTrue trivial

-- ============================================================= the accounts

/-- The accounts of an attempt. -/
structure Replying (s : ActorConnection) : Prop where
  table : ∀ id, s.Called id → id ∈ s.inFlightRpcs ∨ s.Settled id
  own : ∀ id r, (id, some r) ∈ s.settled → r.id = some id
  counter : s.cleared ≤ s.rpcCounter
  cleared : ∀ id, 0 ≤ id → id < s.cleared → s.Settled id
  received : s.received
    = s.onMessages ++ s.incoming ++ s.driverTask.delivering
  answered : ∀ id ∈ s.answered, id ∈ s.handed ∧ (s.Settled id
    ∨ ∃ msg ∈ s.incoming ++ s.driverTask.delivering,
      ActorConnection.replyId msg = some id)
  ended : s.connectionTask.isOver = true → s.driverTask.isEnded = true
    ∧ s.incoming = []
    ∧ ∀ id ∈ s.handed, s.Settled id ∨ s.clearPending = true

section

variable {s s' : ActorConnection} {t : Task} {c : Nat}

/-- A task that has ended delivers nothing. -/
theorem delivering_of_ended {task : DriverTask}
    (h : task.isEnded = true) : task.delivering = [] := by
  cases task with
  | ended => rfl
  | _ => cases h

/-- A caller that is no `disconnect` goes on, or one that goes on to its
`clear`. -/
theorem clearPending_set {x y : Caller} (hx : s.callers[c]? = some x)
    (hset : s'.callers = s.callers.set c y)
    (hxy : x.clears = true → y.clears = true)
    (h : s.clearPending = true) : s'.clearPending = true := by
  unfold ActorConnection.clearPending at h ⊢
  obtain ⟨caller, hmem, hclears⟩ := List.any_eq_true.mp h
  obtain ⟨i, hi⟩ := List.mem_iff_getElem?.mp hmem
  apply List.any_eq_true.mpr
  rw [hset]
  by_cases hic : i = c
  · rw [hic, hx] at hi
    rw [← Option.some.inj hi] at hclears
    have hlt := (List.getElem?_eq_some_iff.1 hx).1
    refine ⟨y, ?_, hxy hclears⟩
    apply List.mem_iff_getElem?.mpr
    exact ⟨c, List.getElem?_set_self hlt⟩
  · refine ⟨caller, ?_, hclears⟩
    apply List.mem_iff_getElem?.mpr
    exact ⟨i, by rw [List.getElem?_set_ne (Ne.symm hic)]; exact hi⟩

theorem clearPending_append {y : Caller}
    (happend : s'.callers = s.callers ++ [y]) (h : s.clearPending = true) :
    s'.clearPending = true := by
  unfold ActorConnection.clearPending at h ⊢
  rw [happend, List.any_append, h]
  rfl

/-- What a `send_msg` leaves of the accounts. -/
structure SendKeeps (s s' : ActorConnection) : Prop where
  finished : s'.connectionTask.isOver = true → s.connectionTask.isOver = true
  pending : s.clearPending = true → s'.clearPending = true

/-- Within a `send_msg`. -/
theorem setSendMsg_keeps (s : ActorConnection) (t : Task) (call : SendMsg) :
    SendKeeps s (s.setSendMsg t call) := by
  cases t with
  | connection =>
      unfold ActorConnection.setSendMsg
      dsimp only
      split
      · exact ⟨nofun, id⟩
      · exact ⟨nofun, id⟩
      · exact ⟨id, id⟩
  | driver => exact ⟨id, id⟩
  | caller c =>
      unfold ActorConnection.setSendMsg
      dsimp only
      split
      · next hx => exact ⟨id, clearPending_set hx rfl nofun⟩
      · next hx => exact ⟨id, clearPending_set hx rfl nofun⟩
      · exact ⟨id, id⟩

/-- Behind a `send_msg`. -/
theorem sendReturns_keeps (s : ActorConnection) (t : Task) :
    SendKeeps s (s.sendReturns t) := by
  cases t with
  | connection =>
      unfold ActorConnection.sendReturns
      dsimp only
      split
      · unfold ActorConnection.nextSubscription
        split <;> exact ⟨nofun, id⟩
      · unfold ActorConnection.nextMessage
        split <;> exact ⟨nofun, id⟩
      · exact ⟨id, id⟩
  | driver => exact ⟨id, id⟩
  | caller c =>
      unfold ActorConnection.sendReturns
      dsimp only
      split
      · next hx => exact ⟨id, clearPending_set hx rfl nofun⟩
      · next hx => exact ⟨id, clearPending_set hx rfl nofun⟩
      · exact ⟨id, id⟩

/-- A step beside the accounts. -/
theorem Replying.frame (h : Replying s)
    (htable : s'.inFlightRpcs = s.inFlightRpcs)
    (hsettled : s'.settled = s.settled)
    (hcounter : s'.rpcCounter = s.rpcCounter)
    (hcleared : s'.cleared = s.cleared)
    (hreceived : s'.received = s.received)
    (honMessages : s'.onMessages = s.onMessages)
    (hincoming : s'.incoming = s.incoming)
    (hhanded : s'.handed = s.handed) (hanswered : s'.answered = s.answered)
    (hdelivering : s'.driverTask.delivering = s.driverTask.delivering)
    (hended : s.driverTask.isEnded = true → s'.driverTask.isEnded = true)
    (hkeeps : SendKeeps s s') : Replying s' := by
  have hsettled' : ∀ id, s'.Settled id ↔ s.Settled id := by
    intro id
    unfold ActorConnection.Settled
    rw [hsettled]
  refine ⟨?_, ?_, ?_, ?_, ?_, ?_, ?_⟩
  · intro id hid
    unfold ActorConnection.Called at hid
    rw [hcounter] at hid
    rw [htable, hsettled']
    exact h.table id hid
  · rw [hsettled]
    exact h.own
  · rw [hcleared, hcounter]
    exact h.counter
  · intro id hpos hlt
    rw [hcleared] at hlt
    exact (hsettled' id).mpr (h.cleared id hpos hlt)
  · rw [hreceived, honMessages, hincoming, hdelivering]
    exact h.received
  · intro id hid
    rw [hanswered] at hid
    rw [hhanded, hsettled', hincoming, hdelivering]
    exact h.answered id hid
  · intro hover
    obtain ⟨hold, hempty, hall⟩ := h.ended (hkeeps.finished hover)
    refine ⟨hended hold, by rw [hincoming]; exact hempty, ?_⟩
    intro id hid
    rw [hhanded] at hid
    rcases hall id hid with hid | hpending
    · exact .inl ((hsettled' id).mpr hid)
    · exact .inr (hkeeps.pending hpending)

/-- A caller goes on, beside the accounts. -/
theorem Replying.caller {x y : Caller} (h : Replying s)
    (hx : s.callers[c]? = some x) (hset : s'.callers = s.callers.set c y)
    (hxy : x.clears = true → y.clears = true)
    (hconnection : s'.connectionTask = s.connectionTask)
    (htask : s'.driverTask = s.driverTask)
    (htable : s'.inFlightRpcs = s.inFlightRpcs)
    (hsettled : s'.settled = s.settled)
    (hcounter : s'.rpcCounter = s.rpcCounter)
    (hcleared : s'.cleared = s.cleared)
    (hreceived : s'.received = s.received)
    (honMessages : s'.onMessages = s.onMessages)
    (hincoming : s'.incoming = s.incoming)
    (hhanded : s'.handed = s.handed)
    (hanswered : s'.answered = s.answered) : Replying s' := by
  refine h.frame htable hsettled hcounter hcleared hreceived honMessages
    hincoming hhanded hanswered ?_ ?_ ⟨?_, ?_⟩
  · rw [htask]
  · rw [htask]
    exact id
  · rw [hconnection]
    exact id
  · exact clearPending_set hx hset hxy

end

-- ================================================================ the steps

section

variable {s s' : ActorConnection} {t : Task} {c : Nat}

theorem Replying.otherwiseQueue (h : Replying s) (call : SendMsg) :
    Replying (s.otherwiseQueue t call) := by
  unfold ActorConnection.otherwiseQueue
  split
  · have hkeeps := sendReturns_keeps s t
    obtain ⟨_, _, _, _, _, heq⟩ := s.sendReturns_eq t
    rw [heq] at hkeeps ⊢
    exact h.frame rfl rfl rfl rfl rfl rfl rfl rfl rfl rfl id hkeeps
  · have hkeeps := setSendMsg_keeps { s with driverLock := some t } t
      { call with point := .lockQueue }
    obtain ⟨_, _, heq⟩ := { s with driverLock := some t }.setSendMsg_eq t
      { call with point := .lockQueue }
    rw [heq] at hkeeps ⊢
    exact h.frame rfl rfl rfl rfl rfl rfl rfl rfl rfl rfl id
      ⟨hkeeps.finished, hkeeps.pending⟩

theorem Replying.lockDriver (h : Replying s)
    (hs : s.lockDriver t = some s') : Replying s' := by
  unfold ActorConnection.lockDriver at hs
  split at hs
  · next call _ =>
    split at hs
    · split at hs
      · cases hs
        have hkeeps := setSendMsg_keeps { s with driverLock := some t } t
          { call with point := .send }
        obtain ⟨_, _, heq⟩ := { s with driverLock := some t }.setSendMsg_eq t
          { call with point := .send }
        rw [heq] at hkeeps ⊢
        exact h.frame rfl rfl rfl rfl rfl rfl rfl rfl rfl rfl id
          ⟨hkeeps.finished, hkeeps.pending⟩
      · cases hs
        exact h.otherwiseQueue call
    · cases hs
  · cases hs

theorem Replying.sendFails (h : Replying s) (hs : s.sendFails t = some s') :
    Replying s' := by
  unfold ActorConnection.sendFails at hs
  split at hs
  · next call _ =>
    split at hs
    · cases hs
      exact h.otherwiseQueue call
    · cases hs
  · cases hs

theorem Replying.pushQueue (h : Replying s) (hs : s.pushQueue t = some s') :
    Replying s' := by
  unfold ActorConnection.pushQueue at hs
  split at hs
  · next call _ =>
    split at hs
    · cases hs
      have hkeeps := sendReturns_keeps { s with
        msgQueue := s.msgQueue ++ [call.msg]
        flush := s.noteReturned t call.msg } t
      obtain ⟨_, _, _, _, _, heq⟩ := ActorConnection.sendReturns_eq { s with
        msgQueue := s.msgQueue ++ [call.msg]
        flush := s.noteReturned t call.msg } t
      rw [heq] at hkeeps ⊢
      exact h.frame rfl rfl rfl rfl rfl rfl rfl rfl rfl rfl id
        ⟨hkeeps.finished, hkeeps.pending⟩
    · cases hs
  · cases hs

/-- The driver is given a message: the attempt is not over. -/
theorem Replying.sendOk (h : Replying s) (hs : s.sendOk t = some s') :
    Replying s' := by
  unfold ActorConnection.sendOk at hs
  split at hs
  · next call _ =>
    split at hs
    · next hsend =>
      cases hs
      have hkeeps := sendReturns_keeps { s with
        outgoing := s.outgoing ++ [call.msg]
        handed := s.handed ++ ActorConnection.requestId call.msg
        flush := s.noteHanded t call.msg } t
      obtain ⟨_, _, _, _, _, heq⟩ := ActorConnection.sendReturns_eq { s with
        outgoing := s.outgoing ++ [call.msg]
        handed := s.handed ++ ActorConnection.requestId call.msg
        flush := s.noteHanded t call.msg } t
      rw [heq] at hkeeps ⊢
      refine ⟨h.table, h.own, h.counter, h.cleared, h.received, ?_, ?_⟩
      · intro id hid
        obtain ⟨hhanded, hanswer⟩ := h.answered id hid
        exact ⟨List.mem_append_left _ hhanded, hanswer⟩
      · intro hover
        have hended := (h.ended (hkeeps.finished hover)).1
        rw [hsend.2.1] at hended
        cases hended
    · cases hs
  · cases hs

/-- An action is called: it is in the table. -/
theorem Replying.action (h : Replying s) (method : String)
    (params : List Js.Json) : Replying (s.action method params) := by
  refine ⟨?_, h.own, ?_, h.cleared, h.received, h.answered, ?_⟩
  · intro id hid
    by_cases hnew : id = s.rpcCounter
    · left
      rw [hnew]
      exact List.mem_append_right _ List.mem_cons_self
    · have hlt : id < s.rpcCounter + 1 := hid.2
      rcases h.table id ⟨hid.1, by omega⟩ with hid | hid
      · exact .inl (List.mem_append_left _ hid)
      · exact .inr hid
  · have hcounter := h.counter
    show s.cleared ≤ s.rpcCounter + 1
    omega
  · intro hover
    obtain ⟨hended, hempty, hall⟩ := h.ended hover
    refine ⟨hended, hempty, ?_⟩
    intro id hid
    rcases hall id hid with hid | hpending
    · exact .inl hid
    · exact .inr (clearPending_append rfl hpending)

/-- A call of another method. -/
theorem Replying.call {y : Caller} (h : Replying s)
    (callers : List Caller) (happend : callers = s.callers ++ [y])
    (disconnecting : Bool) :
    Replying { s with callers, disconnecting } :=
  h.frame rfl rfl rfl rfl rfl rfl rfl rfl rfl rfl id
    ⟨id, clearPending_append happend⟩

theorem Replying.addEventSubscription (h : Replying s)
    (hs : s.addEventSubscription c = some s') : Replying s' := by
  unfold ActorConnection.addEventSubscription at hs
  split at hs
  · next hx =>
    split at hs
    · split at hs
      all_goals
        cases hs
        exact h.caller hx rfl nofun rfl rfl rfl rfl rfl rfl rfl rfl rfl rfl
          rfl
    · cases hs
  · cases hs

theorem Replying.abort (h : Replying s) (hs : s.abort c = some s') :
    Replying s' := by
  unfold ActorConnection.abort at hs
  split at hs
  · next hx =>
    split at hs
    · cases hs
      exact h.caller hx rfl (fun _ => rfl) rfl rfl rfl rfl rfl rfl rfl rfl
        rfl rfl rfl
    · cases hs
  · cases hs

theorem Replying.clearSubscriptions (h : Replying s)
    (hs : s.clearSubscriptions c = some s') : Replying s' := by
  unfold ActorConnection.clearSubscriptions at hs
  split at hs
  · next hx =>
    split at hs
    · cases hs
      exact h.caller hx rfl nofun rfl rfl rfl rfl rfl rfl rfl rfl rfl rfl rfl
    · cases hs
  · cases hs

theorem Replying.finishAction (h : Replying s)
    (hs : s.finishAction c = some s') : Replying s' := by
  unfold ActorConnection.finishAction at hs
  split at hs
  · next hx =>
    split at hs
    · cases hs
      exact h.caller hx rfl nofun rfl rfl rfl rfl rfl rfl rfl rfl rfl rfl rfl
    · cases hs
  · cases hs

/-- `disconnect` clears the table: every action that was called is settled
now. -/
theorem Replying.clearRpcs (h : Replying s) (hr : Requests s)
    (hs : s.clearRpcs c = some s') : Replying s' := by
  unfold ActorConnection.clearRpcs at hs
  split at hs
  · cases hs
    have hall : ∀ id, s.Called id →
        id ∈ (s.settled ++ s.inFlightRpcs.map fun id =>
          (id, (none : Option RpcResponse))).map Prod.fst := by
      intro id hid
      rw [List.map_append]
      rcases h.table id hid with hid | hid
      · apply List.mem_append_right
        rw [List.map_map]
        exact List.mem_map.mpr ⟨id, hid, rfl⟩
      · exact List.mem_append_left _ hid
    refine ⟨?_, ?_, ?_, ?_, h.received, ?_, ?_⟩
    · intro id hid
      exact .inr (hall id hid)
    · intro id r hmem
      rcases List.mem_append.mp hmem with hmem | hmem
      · exact h.own id r hmem
      · obtain ⟨_, _, heq⟩ := List.mem_map.mp hmem
        cases heq
    · exact Int.le_refl _
    · intro id hpos hlt
      exact hall id ⟨hpos, hlt⟩
    · intro id hid
      have hhanded := (h.answered id hid).1
      exact ⟨hhanded, .inl (hall id (hr.handed id hhanded))⟩
    · intro hover
      obtain ⟨hended, hempty, _⟩ := h.ended hover
      exact ⟨hended, hempty, fun id hid => .inl (hall id (hr.handed id hid))⟩
  · cases hs

/-- An attempt begins. -/
theorem Replying.connect (h : Replying s) {init : Option ToServer}
    (hs : s.connect init = some s') : Replying s' := by
  unfold ActorConnection.connect at hs
  split at hs
  · cases hs
    exact ⟨h.table, h.own, h.counter, h.cleared, rfl, nofun, nofun⟩
  · cases hs

theorem Replying.setDriver (h : Replying s) (hs : s.setDriver = some s') :
    Replying s' := by
  unfold ActorConnection.setDriver at hs
  split at hs
  · split at hs
    · cases hs
      exact h.frame rfl rfl rfl rfl rfl rfl rfl rfl rfl rfl id ⟨nofun, id⟩
    · cases hs
  · cases hs

/-- A reply is taken out of the table, or was. -/
theorem settled_resolve (s : ActorConnection) (id : Int) (r : RpcResponse)
    (id' : Int) (h : s.Settled id') : (s.resolve id r).Settled id' := by
  unfold ActorConnection.resolve
  split
  · show id' ∈ (s.settled ++ [(id, some r)]).map Prod.fst
    rw [List.map_append]
    exact List.mem_append_left _ h
  · exact h

/-- The accounts behind a reply that `on_message` was called with. -/
theorem Replying.resolve (h : Replying s) {id : Int} {r : RpcResponse}
    (hr : r.id = some id) (hover : s.connectionTask.isOver = false)
    (incoming onMessages : List ToClient)
    (hreceived : s.received
      = onMessages ++ incoming ++ s.driverTask.delivering)
    (hcalled : ∀ id ∈ s.answered, s.Called id)
    (hincoming : ∀ msg ∈ s.incoming, msg ∈ incoming
      ∨ ActorConnection.replyId msg = some id) :
    Replying ({ s with incoming, onMessages }.resolve id r) := by
  have hmono := settled_resolve { s with incoming, onMessages } id r
  -- an action that was called is settled behind its reply
  have hsettles : s.Called id →
      ({ s with incoming, onMessages }.resolve id r).Settled id := by
    intro hid
    rcases h.table id hid with hmem | hmem
    · unfold ActorConnection.resolve
      rw [if_pos hmem]
      show id ∈ (s.settled ++ [(id, some r)]).map Prod.fst
      rw [List.map_append]
      exact List.mem_append_right _ List.mem_cons_self
    · exact hmono id hmem
  have hfields : ({ s with incoming, onMessages }.resolve id r).answered
        = s.answered
      ∧ ({ s with incoming, onMessages }.resolve id r).handed = s.handed
      ∧ ({ s with incoming, onMessages }.resolve id r).incoming = incoming
      ∧ ({ s with incoming, onMessages }.resolve id r).driverTask
        = s.driverTask
      ∧ ({ s with incoming, onMessages }.resolve id r).connectionTask
        = s.connectionTask
      ∧ ({ s with incoming, onMessages }.resolve id r).rpcCounter
        = s.rpcCounter
      ∧ ({ s with incoming, onMessages }.resolve id r).cleared = s.cleared
      ∧ ({ s with incoming, onMessages }.resolve id r).received = s.received
      ∧ ({ s with incoming, onMessages }.resolve id r).onMessages
        = onMessages := by
    unfold ActorConnection.resolve
    split <;> exact ⟨rfl, rfl, rfl, rfl, rfl, rfl, rfl, rfl, rfl⟩
  obtain ⟨hanswered, hhanded, hin, htask, hconnection, hcounter, hcleared,
    hrec, hon⟩ := hfields
  refine ⟨?_, ?_, ?_, ?_, ?_, ?_, ?_⟩
  · intro id' hid
    unfold ActorConnection.Called at hid
    rw [hcounter] at hid
    rcases h.table id' hid with hmem | hmem
    · by_cases heq : id' = id
      · rw [heq] at hid ⊢
        exact .inr (hsettles hid)
      · left
        unfold ActorConnection.resolve
        split
        · apply List.mem_filter.mpr
          exact ⟨hmem, by simpa using heq⟩
        · exact hmem
    · exact .inr (hmono id' hmem)
  · intro id' r' hmem
    unfold ActorConnection.resolve at hmem
    split at hmem
    · rcases List.mem_append.mp hmem with hmem | hmem
      · exact h.own id' r' hmem
      · cases List.mem_singleton.mp hmem
        exact hr
    · exact h.own id' r' hmem
  · rw [hcleared, hcounter]
    exact h.counter
  · intro id' hpos hlt
    rw [hcleared] at hlt
    exact hmono id' (h.cleared id' hpos hlt)
  · rw [hrec, hon, hin, htask]
    exact hreceived
  · intro id' hid
    rw [hanswered] at hid
    rw [hhanded, hin, htask]
    obtain ⟨hmem, hanswer⟩ := h.answered id' hid
    refine ⟨hmem, ?_⟩
    rcases hanswer with hsettled | ⟨msg, hmsg, hreply⟩
    · exact .inl (hmono id' hsettled)
    · rcases List.mem_append.mp hmsg with hmsg | hmsg
      · rcases hincoming msg hmsg with hmsg | hthis
        · exact .inr ⟨msg, List.mem_append_left _ hmsg, hreply⟩
        · left
          have heq : id' = id := by
            rw [hreply] at hthis
            exact Option.some.inj hthis
          rw [heq] at hid ⊢
          exact hsettles (hcalled id hid)
      · exact .inr ⟨msg, List.mem_append_right _ hmsg, hreply⟩
  · intro hend
    rw [hconnection, hover] at hend
    cases hend

end

-- --------------------------------------------------- the connection task

section

variable {s s' : ActorConnection}

/-- `on_message` of a message that is no reply. -/
theorem Replying.pass (h : Replying s) {msg : ToClient}
    {incoming : List ToClient} (hincoming : s.incoming = msg :: incoming)
    (hreply : ActorConnection.replyId msg = none)
    (connectionTask : ConnectionTask)
    (hnew : connectionTask.isOver = false) :
    Replying { s with
      incoming
      onMessages := s.onMessages ++ [msg]
      connectionTask } := by
  refine ⟨h.table, h.own, h.counter, h.cleared, ?_, ?_, ?_⟩
  · show s.received = _
    rw [h.received, hincoming]
    simp
  · intro id hid
    obtain ⟨hhanded, hanswer⟩ := h.answered id hid
    refine ⟨hhanded, ?_⟩
    rcases hanswer with hsettled | ⟨msg', hmsg, hid'⟩
    · exact .inl hsettled
    · rw [hincoming] at hmsg
      rcases List.mem_cons.mp hmsg with hmsg | hmsg
      · rw [hmsg, hreply] at hid'
        cases hid'
      · exact .inr ⟨msg', hmsg, hid'⟩
  · intro hend
    have hend : connectionTask.isOver = true := hend
    rw [hnew] at hend
    cases hend

theorem Replying.recv (h : Replying s) (hr : Requests s)
    (hs : s.recv = some s') : Replying s' := by
  unfold ActorConnection.recv at hs
  split at hs
  · next msg incoming hc hincoming =>
    cases hs
    have hover : s.connectionTask.isOver = false := by
      rw [hc]
      rfl
    have hreceived : s.received = (s.onMessages ++ [msg]) ++ incoming
        ++ s.driverTask.delivering := by
      rw [h.received, hincoming]
      simp
    have hcalled : ∀ id ∈ s.answered, s.Called id :=
      fun id hid => hr.handed id (h.answered id hid).1
    have hmem : ∀ id, ActorConnection.replyId msg = some id →
        ∀ msg' ∈ s.incoming, msg' ∈ incoming
          ∨ ActorConnection.replyId msg' = some id := by
      intro id hid msg' hmsg
      rw [hincoming] at hmsg
      rcases List.mem_cons.mp hmsg with hmsg | hmsg
      · rw [hmsg]
        exact .inr hid
      · exact .inl hmsg
    unfold ActorConnection.onMessage
    split
    · next hb =>
      refine h.pass hincoming ?_ _ rfl
      unfold ActorConnection.replyId
      rw [hb]
    · next ar hb =>
      have hid : ActorConnection.replyId msg = some ar.i := by
        unfold ActorConnection.replyId
        rw [hb]
      exact h.resolve rfl hover incoming _ hreceived hcalled (hmem _ hid)
    · next hb =>
      refine h.pass hincoming ?_ _ rfl
      unfold ActorConnection.replyId
      rw [hb]
    · next e hb =>
      have hid : ActorConnection.replyId msg = e.ai := by
        unfold ActorConnection.replyId
        rw [hb]
      split
      · next id hai =>
        rw [hai] at hid
        exact h.resolve (r := .err e) hai hover incoming _ hreceived hcalled
          (hmem _ hid)
      · next hai =>
        rw [hai] at hid
        exact h.pass hincoming hid s.connectionTask hover
  · cases hs

theorem Replying.event (h : Replying s) (hs : s.event = some s') :
    Replying s' := by
  unfold ActorConnection.event at hs
  split at hs
  · split at hs
    · cases hs
      exact h.frame rfl rfl rfl rfl rfl rfl rfl rfl rfl rfl id ⟨nofun, id⟩
    · cases hs
  · cases hs

theorem Replying.openSubscriptions (h : Replying s) {names : List String}
    (hs : s.openSubscriptions names = some s') : Replying s' := by
  unfold ActorConnection.openSubscriptions at hs
  split at hs
  · split at hs
    · cases hs
      cases names
      all_goals
        exact h.frame rfl rfl rfl rfl rfl rfl rfl rfl rfl rfl id ⟨nofun, id⟩
    · cases hs
  · cases hs

theorem Replying.openQueue (h : Replying s) (hs : s.openQueue = some s') :
    Replying s' := by
  unfold ActorConnection.openQueue at hs
  split at hs
  · split at hs
    · cases hs
      cases s.msgQueue
      all_goals
        exact h.frame rfl rfl rfl rfl rfl rfl rfl rfl rfl rfl id ⟨nofun, id⟩
    · cases hs
  · cases hs

/-- The loop ends: nothing is on its way, so the accounts are even. -/
theorem Replying.takeEnd (h : Replying s) (hr : Requests s)
    (hok : s.incoming.length = 0
      ∧ ∀ id ∈ s.handed, id ∈ s.answered ∨ id < s.cleared
        ∨ s.clearPending = true)
    (hs : s.takeEnd = some s') : Replying s' := by
  unfold ActorConnection.takeEnd at hs
  split at hs
  · split at hs
    · next hended =>
      cases hs
      have hempty : s.incoming = [] := List.eq_nil_of_length_eq_zero hok.1
      refine ⟨h.table, h.own, h.counter, h.cleared, h.received, h.answered,
        fun _ => ⟨hended, hempty, ?_⟩⟩
      intro id hid
      rcases hok.2 id hid with hanswered | hcleared | hpending
      · rcases (h.answered id hanswered).2 with hsettled | ⟨msg, hmsg, _⟩
        · exact .inl hsettled
        · rw [hempty, delivering_of_ended hended] at hmsg
          cases hmsg
      · exact .inl (h.cleared id (hr.handed id hid).1 hcleared)
      · exact .inr hpending
    · cases hs
  · cases hs

theorem Replying.destroyDriver (h : Replying s)
    (hs : s.destroyDriver = some s') : Replying s' := by
  unfold ActorConnection.destroyDriver at hs
  split at hs
  · next hc =>
    split at hs
    · cases hs
      refine h.frame rfl rfl rfl rfl rfl rfl rfl rfl rfl rfl id ⟨?_, id⟩
      intro _
      rw [hc]
      rfl
    · cases hs
  · cases hs

-- -------------------------------------------------------- the driver task

theorem Replying.takeOutgoing (h : Replying s)
    (hs : s.takeOutgoing = some s') : Replying s' := by
  unfold ActorConnection.takeOutgoing at hs
  split at hs
  · next htask _ =>
    cases hs
    refine h.frame rfl rfl rfl rfl rfl rfl rfl rfl rfl ?_ ?_ ⟨id, id⟩
    all_goals rw [htask]
    · rfl
    · nofun
  · cases hs

theorem Replying.wrote (h : Replying s) (hs : s.wrote = some s') :
    Replying s' := by
  unfold ActorConnection.wrote at hs
  split at hs
  · next htask =>
    cases hs
    refine h.frame rfl rfl rfl rfl rfl rfl rfl rfl rfl ?_ ?_ ⟨id, id⟩
    all_goals rw [htask]
    · rfl
    · nofun
  · cases hs

/-- The driver has read a message. -/
theorem Replying.receive (h : Replying s) {msg : ToClient}
    (hs : s.receive msg = some s') : Replying s' := by
  unfold ActorConnection.receive at hs
  split at hs
  · next htask =>
    cases hs
    have hnone : s.driverTask.delivering = [] := by
      rw [htask]
      rfl
    refine ⟨h.table, h.own, h.counter, h.cleared, ?_, ?_, ?_⟩
    · show s.received ++ [msg] = s.onMessages ++ s.incoming ++ [msg]
      rw [h.received, hnone, List.append_nil]
    · intro id hid
      rcases List.mem_append.mp hid with hid | hid
      · obtain ⟨hhanded, hanswer⟩ := h.answered id hid
        refine ⟨hhanded, ?_⟩
        rw [hnone, List.append_nil] at hanswer
        rcases hanswer with hsettled | ⟨msg', hmsg, hreply⟩
        · exact .inl hsettled
        · exact .inr ⟨msg', List.mem_append_left _ hmsg, hreply⟩
      · obtain ⟨hmem, hhanded⟩ := List.mem_filter.mp hid
        refine ⟨of_decide_eq_true hhanded, .inr ⟨msg, ?_, ?_⟩⟩
        · exact List.mem_append_right _ List.mem_cons_self
        · exact Option.mem_toList.mp hmem
    · intro hover
      have hended := (h.ended hover).1
      rw [htask] at hended
      cases hended
  · cases hs

theorem Replying.deliver (h : Replying s) (hs : s.deliver = some s') :
    Replying s' := by
  unfold ActorConnection.deliver at hs
  split at hs
  · next msg htask =>
    split at hs
    · cases hs
      have hone : s.driverTask.delivering = [msg] := by
        rw [htask]
        rfl
      refine ⟨h.table, h.own, h.counter, h.cleared, ?_, ?_, ?_⟩
      · show s.received = s.onMessages ++ (s.incoming ++ [msg]) ++ []
        rw [h.received, hone]
        simp
      · intro id hid
        have hanswered := h.answered id hid
        rw [hone] at hanswered
        show id ∈ s.handed ∧ (s.Settled id
          ∨ ∃ msg' ∈ s.incoming ++ [msg] ++ [], _)
        rw [List.append_nil]
        exact hanswered
      · intro hover
        have hended := (h.ended hover).1
        rw [htask] at hended
        cases hended
    · cases hs
  · cases hs

/-- The driver task ends, and has nothing to deliver. -/
theorem Replying.endDriver (h : Replying s)
    (hok : s.driverTask.delivering.length = 0)
    (hs : s.endDriver = some s') : Replying s' := by
  have hnone : s.driverTask.delivering = [] :=
    List.eq_nil_of_length_eq_zero hok
  have heq : s' = { s with driverTask := .ended } := by
    unfold ActorConnection.endDriver at hs
    split at hs
    · exact (Option.some.inj hs).symm
    · cases hs
    · split at hs
      · exact (Option.some.inj hs).symm
      · cases hs
  rw [heq]
  exact h.frame rfl rfl rfl rfl rfl rfl rfl rfl rfl hnone.symm (fun _ => rfl)
    ⟨id, id⟩

-- ================================================================ the runs

theorem Requests.init : Requests {} where
  counter := Int.le_refl _
  sends := by
    intro t kind call hp
    cases t <;> cases hp
  rest := nofun
  queue := nofun
  handed := nofun

theorem Replying.init : Replying {} where
  table := by
    intro id hid
    have hpos : 0 ≤ id := hid.1
    have hlt : id < 0 := hid.2
    omega
  own := nofun
  counter := Int.le_refl _
  cleared := by
    intro id hpos hlt
    have hlt : id < 0 := hlt
    omega
  received := rfl
  answered := nofun
  ended := fun _ => ⟨rfl, rfl, nofun⟩

/-- One step. -/
theorem Replying.step {a : ConnectionStep} (h : Replying s)
    (hr : Requests s) (hok : ReplySafe s a)
    (hs : connectionStep s a = some s') : Replying s' := by
  cases a with
  | action method params =>
      cases hs
      exact h.action method params
  | onEvent eventName =>
      cases hs
      exact h.call _ rfl s.disconnecting
  | disconnect =>
      cases hs
      unfold ActorConnection.disconnect
      split
      · exact h
      · exact h.call _ rfl true
  | addEventSubscription c => exact h.addEventSubscription hs
  | lockDriver t => exact h.lockDriver hs
  | sendOk t => exact h.sendOk hs
  | sendFails t => exact h.sendFails hs
  | pushQueue t => exact h.pushQueue hs
  | abort c => exact h.abort hs
  | clearRpcs c => exact h.clearRpcs hr hs
  | clearSubscriptions c => exact h.clearSubscriptions hs
  | finishAction c => exact h.finishAction hs
  | connect init => exact h.connect hs
  | setDriver => exact h.setDriver hs
  | recv => exact h.recv hr hs
  | event => exact h.event hs
  | openSubscriptions names => exact h.openSubscriptions hs
  | openQueue => exact h.openQueue hs
  | takeEnd => exact h.takeEnd hr hok hs
  | destroyDriver => exact h.destroyDriver hs
  | takeOutgoing => exact h.takeOutgoing hs
  | wrote => exact h.wrote hs
  | receive msg => exact h.receive hs
  | deliver => exact h.deliver hs
  | endDriver => exact h.endDriver hok hs

/-- The runs that are safe. -/
theorem replying_of_safe (h : connectionSystem.Reaches ReplySafe s) :
    Requests s ∧ Replying s := by
  apply h.invariant
  · intro s hinit
    rw [hinit]
    exact ⟨.init, .init⟩
  · intro s a s' _ hboth hok hs
    exact ⟨hboth.1.step hs, hboth.2.step hboth.1 hok hs⟩

-- ============================================================= the result

/-- In every run that is safe: when an attempt is over, `on_message` was
called with every message that its driver has read, and every action that
the driver was given is settled, or a `disconnect` is about to fail it;
and a reply settles no action but its own. -/
theorem replies_of_safe (h : connectionSystem.Reaches ReplySafe s) :
    (s.connectionTask.isOver = true → s.onMessages = s.received
      ∧ ∀ id ∈ s.handed, s.Settled id ∨ s.clearPending = true)
    ∧ ∀ id r, (id, some r) ∈ s.settled → r.id = some id := by
  obtain ⟨_, hreplying⟩ := replying_of_safe h
  refine ⟨?_, hreplying.own⟩
  intro hover
  obtain ⟨hended, hempty, hall⟩ := hreplying.ended hover
  refine ⟨?_, hall⟩
  rw [hreplying.received, hempty, delivering_of_ended hended,
    List.append_nil, List.append_nil]

end

-- =============================================================== two runs

/-- The reply to the first action. -/
def firstReply : ToClient :=
  ⟨.actionResponse { i := 0, o := .num 1 }⟩

/-- An action is sent, the reply is in the incoming channel, and the driver
task has ended. -/
def replyRun : List ConnectionStep :=
  [.connect none, .setDriver, .action "increment" [],
    .lockDriver (.caller 0), .sendOk (.caller 0), .takeOutgoing, .wrote,
    .receive firstReply, .deliver, .endDriver]

/-- The loop takes the reply first. -/
theorem replies_of_safe_first :
    ∃ s, connectionSystem.run {}
        (replyRun ++ [.recv, .takeEnd, .destroyDriver]) = some s
      ∧ s.onMessages = [firstReply] ∧ s.handed = [0]
      ∧ (s.connectionTask.isOver = true → s.onMessages = s.received
        ∧ ∀ id ∈ s.handed, s.Settled id ∨ s.clearPending = true)
      ∧ ∀ id r, (id, some r) ∈ s.settled → r.id = some id := by
  refine ⟨_, rfl, rfl, rfl, replies_of_safe ?_⟩
  exact System.Reaches.run (replyRun ++ [.recv, .takeEnd, .destroyDriver])
    (.init rfl) (by decide) rfl

/-- The `select!` takes the end of the driver task first: the attempt is
over, the reply was dropped, and its action waits. -/
theorem reply_lost :
    ∃ s, connectionSystem.Reachable s ∧ s.connectionTask.isOver = true
      ∧ s.received = [firstReply] ∧ s.onMessages = []
      ∧ s.handed = [0] ∧ ¬ s.Settled 0 ∧ s.clearPending = false := by
  refine ⟨_, System.Reachable.run (replyRun ++ [.takeEnd, .destroyDriver])
    (.init rfl) rfl, rfl, rfl, rfl, rfl, ?_, rfl⟩
  nofun

end RivetKit.RustClient
