/-
What a step of a Rust client's connection, or of its callers, leaves of
the rest: of the driver task, of the two channels and of the requests on
their way.

# What is used of it

A driver is seen by the connection through the channels alone (`Beside`):
a step puts messages at the end of the outgoing one, and takes what it
hands to `on_message` from the front of the incoming one. `Attempt` is the
invariant of the whole machine: the driver task has ended where an attempt
is over, and the handle is in the connection meanwhile.

# Requests

`pending` are the ids of the action requests that the connection still has
to hand to a driver. A step moves a request between its places and out
into the channel; only `action` brings a new one.

# Sections

  - the requests of a connection
  - send_msg
  - the steps of the connection
  - the invariant of an attempt
-/
import RivetKit.Lib.Lists
import RivetKit.RustClient.Drivers
import RivetKit.RustClient.Proofs.Locks

namespace RivetKit.RustClient

open Transition
open Js

-- ============================================= the requests of a connection

/-- The ids of the requests that a caller has still to send. -/
def Caller.requests : Caller → List Int
  | .action _ send => ActorConnection.requestId send.msg
  | .subscribe send => ActorConnection.requestId send.msg
  | _ => []

/-- Those of the connection task. -/
def ConnectionTask.requests : ConnectionTask → List Int
  | .subscribe send _ => ActorConnection.requestId send.msg
  | .flush send rest =>
      ActorConnection.requestId send.msg
        ++ rest.flatMap ActorConnection.requestId
  | _ => []

namespace ActorConnection

/-- The ids of the requests that no driver was given yet. -/
def pending (s : ActorConnection) : List Int :=
  s.callers.flatMap Caller.requests
    ++ (s.connectionTask.requests ++ s.msgQueue.flatMap requestId)

/-- How often an id is pending, place by place. -/
theorem count_pending (s : ActorConnection) (id : Int) :
    s.pending.count id
      = (s.callers.flatMap Caller.requests).count id
        + (s.connectionTask.requests.count id
          + (s.msgQueue.flatMap requestId).count id) := by
  unfold pending
  rw [List.count_append, List.count_append]

/-- A caller goes on, and what is left of its requests stays. -/
theorem count_set {callers : List Caller} {c : Nat} {x y : Caller}
    {front : List Int} (hx : callers[c]? = some x)
    (hrequests : x.requests = front ++ y.requests) (id : Int) :
    ((callers.set c y).flatMap Caller.requests).count id + front.count id
      = (callers.flatMap Caller.requests).count id := by
  have hperm := Lists.flatMap_set_perm hx hrequests
  rw [hperm.count_eq, List.count_append]
  omega

theorem requests_subscription (eventName : String) :
    requestId (sendSubscription eventName).msg = [] := rfl

end ActorConnection

-- ================================================================= send_msg

/-- What the awaits of a `send_msg` leave of the rest. -/
structure Sends (s s' : ActorConnection) : Prop where
  isOver : s'.connectionTask.isOver = s.connectionTask.isOver
  hasDriver : s'.connectionTask.hasDriver = s.connectionTask.hasDriver
  abort : Caller.abort ∈ s'.callers → Caller.abort ∈ s.callers
  driver : s'.driver = s.driver
  driverTask : s'.driverTask = s.driverTask
  aborted : s'.aborted = s.aborted
  disconnecting : s'.disconnecting = s.disconnecting
  outgoing : s'.outgoing = s.outgoing
  incoming : s'.onMessages ++ s'.incoming = s.onMessages ++ s.incoming
  counter : s'.rpcCounter = s.rpcCounter

/-- A caller that goes on is not about to abort. -/
theorem abort_of_set {callers : List Caller} {c : Nat} {y : Caller}
    (hy : y ≠ .abort) (h : Caller.abort ∈ callers.set c y) :
    Caller.abort ∈ callers := by
  rcases List.mem_or_eq_of_mem_set h with hmem | heq
  · exact hmem
  · exact absurd heq.symm hy

namespace ActorConnection

variable {s s' : ActorConnection} {t : Task} {send : SendMsg}

theorem setSendMsg_sends (s : ActorConnection) (t : Task) (send : SendMsg) :
    Sends s (s.setSendMsg t send) := by
  unfold setSendMsg
  split
  · split
    · next hc =>
      exact ⟨by rw [hc]; rfl, by rw [hc]; rfl, id, rfl, rfl, rfl, rfl, rfl,
        rfl, rfl⟩
    · next hc =>
      exact ⟨by rw [hc]; rfl, by rw [hc]; rfl, id, rfl, rfl, rfl, rfl, rfl,
        rfl, rfl⟩
    · exact ⟨rfl, rfl, id, rfl, rfl, rfl, rfl, rfl, rfl, rfl⟩
  · exact ⟨rfl, rfl, id, rfl, rfl, rfl, rfl, rfl, rfl, rfl⟩
  · split
    · exact ⟨rfl, rfl, abort_of_set nofun, rfl, rfl, rfl, rfl, rfl, rfl, rfl⟩
    · exact ⟨rfl, rfl, abort_of_set nofun, rfl, rfl, rfl, rfl, rfl, rfl, rfl⟩
    · exact ⟨rfl, rfl, id, rfl, rfl, rfl, rfl, rfl, rfl, rfl⟩

theorem sendReturns_sends (s : ActorConnection) (t : Task) :
    Sends s (s.sendReturns t) := by
  unfold sendReturns
  dsimp only
  split
  · split
    · next hc =>
      unfold nextSubscription
      split <;> exact ⟨by rw [hc]; rfl, by rw [hc]; rfl, id, rfl, rfl, rfl,
        rfl, rfl, rfl, rfl⟩
    · next hc =>
      unfold nextMessage
      split <;> exact ⟨by rw [hc]; rfl, by rw [hc]; rfl, id, rfl, rfl, rfl,
        rfl, rfl, rfl, rfl⟩
    · exact ⟨rfl, rfl, id, rfl, rfl, rfl, rfl, rfl, rfl, rfl⟩
  · exact ⟨rfl, rfl, id, rfl, rfl, rfl, rfl, rfl, rfl, rfl⟩
  · split
    · exact ⟨rfl, rfl, abort_of_set nofun, rfl, rfl, rfl, rfl, rfl, rfl, rfl⟩
    · exact ⟨rfl, rfl, abort_of_set nofun, rfl, rfl, rfl, rfl, rfl, rfl, rfl⟩
    · exact ⟨rfl, rfl, id, rfl, rfl, rfl, rfl, rfl, rfl, rfl⟩

/-- Another await of the same `send_msg`. -/
theorem pending_setSendMsg {send' : SendMsg} (h : s.sendMsg? t = some send)
    (hmsg : send'.msg = send.msg) (id : Int) :
    (s.setSendMsg t send').pending.count id = s.pending.count id := by
  rw [count_pending, count_pending]
  unfold sendMsg? at h
  unfold setSendMsg
  cases t with
  | connection =>
      dsimp only at h ⊢
      cases hc : s.connectionTask with
      | subscribe send₀ rest =>
          rw [hc] at h
          cases h
          simp [ConnectionTask.requests, hmsg]
      | flush send₀ rest =>
          rw [hc] at h
          cases h
          simp [ConnectionTask.requests, hmsg]
      | _ =>
          rw [hc] at h
          cases h
  | driver => cases h
  | caller c =>
      dsimp only at h ⊢
      cases hx : s.callers[c]? with
      | none => rfl
      | some x =>
          rw [hx] at h
          cases x with
          | action n send₀ =>
              cases h
              have hcount := @count_set s.callers c _ (.action n send') [] hx
                (by simp [Caller.requests, hmsg]) id
              rw [List.count_nil] at hcount
              dsimp only
              omega
          | subscribe send₀ =>
              cases h
              have hcount := @count_set s.callers c _ (.subscribe send') [] hx
                (by simp [Caller.requests, hmsg]) id
              rw [List.count_nil] at hcount
              dsimp only
              omega
          | _ => cases h

/-- The message of a `send_msg` that returns is pending no more. -/
theorem pending_sendReturns (h : s.sendMsg? t = some send) (id : Int) :
    (s.sendReturns t).pending.count id + (requestId send.msg).count id
      = s.pending.count id := by
  rw [count_pending, count_pending]
  unfold sendMsg? at h
  unfold sendReturns
  cases t with
  | connection =>
      dsimp only at h ⊢
      cases hc : s.connectionTask with
      | subscribe send₀ rest =>
          rw [hc] at h
          cases h
          unfold nextSubscription
          cases rest with
          | nil => simp [ConnectionTask.requests]; omega
          | cons eventName rest =>
              simp [ConnectionTask.requests, requests_subscription]; omega
      | flush send₀ rest =>
          rw [hc] at h
          cases h
          unfold nextMessage
          cases rest with
          | nil => simp [ConnectionTask.requests]; omega
          | cons msg rest => simp [ConnectionTask.requests]; omega
      | _ =>
          rw [hc] at h
          cases h
  | driver => cases h
  | caller c =>
      dsimp only at h ⊢
      cases hx : s.callers[c]? with
      | none =>
          rw [hx] at h
          cases h
      | some x =>
          rw [hx] at h
          cases x with
          | action n send₀ =>
              cases h
              have hcount := @count_set s.callers c _ (.reply n)
                (requestId send.msg) hx (List.append_nil _).symm id
              dsimp only
              omega
          | subscribe send₀ =>
              cases h
              have hcount := @count_set s.callers c _ .returned
                (requestId send.msg) hx (List.append_nil _).symm id
              dsimp only
              omega
          | _ => cases h

end ActorConnection

-- ============================================== the steps of the connection

/-- What holds of an attempt: its driver task has ended where it is over,
the handle is in the connection meanwhile, and a driver is aborted by a
`disconnect` alone. -/
structure Attempt (s : ActorConnection) : Prop where
  ended : s.connectionTask.isOver = true → s.driverTask.isEnded = true
  driver : s.driver = s.connectionTask.hasDriver
  aborting : Caller.abort ∈ s.callers → s.disconnecting = true
  aborted : s.aborted = true → s.disconnecting = true

/-- What a step of the connection or of its callers leaves of the driver
task, with what it puts in the outgoing channel. -/
structure Beside (s s' : ActorConnection) (puts : List ToServer) : Prop where
  driverTask : s'.driverTask = s.driverTask
  outgoing : s'.outgoing = s.outgoing ++ puts
  incoming : s'.onMessages ++ s'.incoming = s.onMessages ++ s.incoming
  attempt : Attempt s → Attempt s'
  counter : s.rpcCounter ≤ s'.rpcCounter
  pending : ∀ id, s'.pending.count id
      + (puts.flatMap ActorConnection.requestId).count id
    ≤ s.pending.count id
      + if s.rpcCounter ≤ id ∧ id < s'.rpcCounter then 1 else 0

section

variable {s s' : ActorConnection} {t : Task} {c : Nat}
variable {puts : List ToServer}

theorem Attempt.sends (h : Attempt s) (hs : Sends s s') : Attempt s' where
  ended hover := by
    rw [hs.driverTask]
    exact h.ended (hs.isOver ▸ hover)
  driver := by rw [hs.driver, hs.hasDriver, h.driver]
  aborting habort := by
    rw [hs.disconnecting]
    exact h.aborting (hs.abort habort)
  aborted habort := by
    rw [hs.disconnecting]
    exact h.aborted (hs.aborted ▸ habort)

/-- A step within a `send_msg` that hands nothing over. -/
theorem Beside.of_sends (hs : Sends s s')
    (hpending : ∀ id, s'.pending.count id ≤ s.pending.count id) :
    Beside s s' [] where
  driverTask := hs.driverTask
  outgoing := by rw [hs.outgoing, List.append_nil]
  incoming := hs.incoming
  attempt h := h.sends hs
  counter := hs.counter.ge
  pending id := by
    have := hpending id
    simp only [List.flatMap_nil, List.count_nil]
    omega

/-- A caller goes on, and sends nothing. -/
theorem Beside.of_caller {x y : Caller} (hx : s.callers[c]? = some x)
    (hrequests : y.requests = x.requests) (hy : y ≠ .abort)
    (hcallers : s'.callers = s.callers.set c y)
    (hsame : s' = { s with
      callers := s'.callers
      subscriptionsLock := s'.subscriptionsLock
      eventSubscriptions := s'.eventSubscriptions
      aborted := s'.aborted
      inFlightRpcs := s'.inFlightRpcs
      settled := s'.settled
      cleared := s'.cleared })
    (haborted : s'.aborted = true → s.aborted = true ∨ s.disconnecting = true) :
    Beside s s' [] := by
  have hcount := fun id =>
    @ActorConnection.count_set s.callers c x y [] hx hrequests.symm id
  rw [hsame]
  refine ⟨rfl, (List.append_nil _).symm, rfl, ?_, le_rfl, ?_⟩
  · intro h
    refine ⟨h.ended, h.driver, ?_, ?_⟩
    · intro habort
      rw [hcallers] at habort
      exact h.aborting (abort_of_set hy habort)
    · intro habort
      exact (haborted habort).elim h.aborted id
  · intro id
    have := hcount id
    rw [ActorConnection.count_pending, ActorConnection.count_pending,
      hcallers]
    simp only [List.flatMap_nil, List.count_nil] at this ⊢
    omega

/-- A call begins. -/
theorem Beside.of_call {y : Caller} (hy : y.requests = [])
    (habort : y = .abort → s'.disconnecting = true)
    (hsame : s' = { s with
      callers := s.callers ++ [y], disconnecting := s'.disconnecting })
    (hdisconnecting : s.disconnecting = true → s'.disconnecting = true) :
    Beside s s' [] := by
  rw [hsame]
  refine ⟨rfl, (List.append_nil _).symm, rfl, ?_, le_rfl, ?_⟩
  · intro h
    refine ⟨h.ended, h.driver, ?_, fun ha => hdisconnecting (h.aborted ha)⟩
    intro hmem
    rcases List.mem_append.mp hmem with hold | hnew
    · exact hdisconnecting (h.aborting hold)
    · exact habort (List.mem_singleton.mp hnew).symm
  · intro id
    rw [ActorConnection.count_pending, ActorConnection.count_pending]
    simp [hy]

/-- The connection task goes on. -/
theorem Beside.of_task {connectionTask : ConnectionTask}
    (htask : s'.connectionTask = connectionTask)
    (hcallers : s'.callers = s.callers)
    (hdriverTask : s'.driverTask = s.driverTask)
    (hflags : s'.aborted = s.aborted ∧ s'.disconnecting = s.disconnecting)
    (hcounter : s'.rpcCounter = s.rpcCounter)
    (houtgoing : s'.outgoing = s.outgoing)
    (hincoming : s'.onMessages ++ s'.incoming = s.onMessages ++ s.incoming)
    (hover : connectionTask.isOver = true →
      s.connectionTask.isOver = true ∨ s.driverTask.isEnded = true)
    (hdriver : s.driver = s.connectionTask.hasDriver →
      s'.driver = connectionTask.hasDriver)
    (hrequests : ∀ id, connectionTask.requests.count id
        + (s'.msgQueue.flatMap ActorConnection.requestId).count id
      ≤ s.connectionTask.requests.count id
        + (s.msgQueue.flatMap ActorConnection.requestId).count id) :
    Beside s s' [] := by
  refine ⟨hdriverTask, ?_, hincoming, ?_, hcounter.ge, ?_⟩
  · rw [houtgoing, List.append_nil]
  · intro h
    refine ⟨?_, ?_, ?_, ?_⟩
    · intro hover'
      rw [hdriverTask]
      rw [htask] at hover'
      exact (hover hover').elim h.ended id
    · rw [htask]
      exact hdriver h.driver
    · rw [hcallers, hflags.2]
      exact h.aborting
    · rw [hflags.1, hflags.2]
      exact h.aborted
  · intro id
    have := hrequests id
    rw [ActorConnection.count_pending, ActorConnection.count_pending, htask,
      hcallers]
    simp only [List.flatMap_nil, List.count_nil]
    omega

namespace ActorConnection

theorem otherwiseQueue_beside {send : SendMsg}
    (h : s.sendMsg? t = some send) : Beside s (s.otherwiseQueue t send) [] := by
  unfold otherwiseQueue
  split
  · refine .of_sends (s.sendReturns_sends t) fun id => ?_
    have := pending_sendReturns h id
    omega
  · have hsends := setSendMsg_sends { s with driverLock := some t } t
      { send with point := .lockQueue }
    refine .of_sends ⟨hsends.1, hsends.2, hsends.3, hsends.4, hsends.5,
      hsends.6, hsends.7, hsends.8, hsends.9, hsends.10⟩ fun id => ?_
    exact (@pending_setSendMsg { s with driverLock := some t } t send
      { send with point := .lockQueue } h rfl id).le

theorem lockDriver_beside (h : s.lockDriver t = some s') :
    Beside s s' [] := by
  unfold lockDriver at h
  cases hsend : s.sendMsg? t with
  | none =>
      rw [hsend] at h
      cases h
  | some send =>
      rw [hsend] at h
      dsimp only at h
      split at h
      · split at h
        · injection h with h
          rw [← h]
          have hsends := setSendMsg_sends { s with driverLock := some t } t
            { send with point := .send }
          refine .of_sends ⟨hsends.1, hsends.2, hsends.3, hsends.4, hsends.5,
            hsends.6, hsends.7, hsends.8, hsends.9, hsends.10⟩ fun id => ?_
          exact (@pending_setSendMsg { s with driverLock := some t } t send
            { send with point := .send } hsend rfl id).le
        · injection h with h
          rw [← h]
          exact otherwiseQueue_beside hsend
      · cases h

/-- The message goes from its `send_msg` to the channel. -/
theorem sendOk_beside (h : s.sendOk t = some s') :
    Beside s s' (s.puts (.sendOk t)) := by
  unfold sendOk at h
  cases hsend : s.sendMsg? t with
  | none =>
      rw [hsend] at h
      cases h
  | some send =>
      rw [hsend] at h
      obtain ⟨_, h⟩ := Option.ite_none_right_eq_some.1 h
      injection h with h
      have hputs : s.puts (.sendOk t) = [send.msg] := by
        simp [puts, hsend]
      rw [hputs, ← h]
      have hsends := sendReturns_sends { s with
        outgoing := s.outgoing ++ [send.msg]
        handed := s.handed ++ requestId send.msg
        flush := s.noteHanded t send.msg } t
      refine ⟨hsends.driverTask, hsends.outgoing, hsends.incoming, ?_,
        hsends.counter.ge, ?_⟩
      · intro h
        refine Attempt.sends ?_ hsends
        exact ⟨h.ended, h.driver, h.aborting, h.aborted⟩
      · intro id
        have hcount := @pending_sendReturns { s with
          outgoing := s.outgoing ++ [send.msg]
          handed := s.handed ++ requestId send.msg
          flush := s.noteHanded t send.msg } t send hsend id
        rw [count_pending s, List.flatMap_singleton]
        rw [count_pending { s with
          outgoing := s.outgoing ++ [send.msg]
          handed := s.handed ++ requestId send.msg
          flush := s.noteHanded t send.msg }] at hcount
        dsimp only at hcount
        omega

theorem sendFails_beside (h : s.sendFails t = some s') :
    Beside s s' [] := by
  unfold sendFails at h
  cases hsend : s.sendMsg? t with
  | none =>
      rw [hsend] at h
      cases h
  | some send =>
      rw [hsend] at h
      obtain ⟨_, h⟩ := Option.ite_none_right_eq_some.1 h
      injection h with h
      rw [← h]
      exact otherwiseQueue_beside hsend

/-- The message goes from its `send_msg` to the queue. -/
theorem pushQueue_beside (h : s.pushQueue t = some s') :
    Beside s s' [] := by
  unfold pushQueue at h
  cases hsend : s.sendMsg? t with
  | none =>
      rw [hsend] at h
      cases h
  | some send =>
      rw [hsend] at h
      obtain ⟨_, h⟩ := Option.ite_none_right_eq_some.1 h
      injection h with h
      rw [← h]
      have hsends := sendReturns_sends { s with
        msgQueue := s.msgQueue ++ [send.msg]
        flush := s.noteReturned t send.msg } t
      refine .of_sends ⟨hsends.1, hsends.2, hsends.3, hsends.4, hsends.5,
        hsends.6, hsends.7, hsends.8, hsends.9, hsends.10⟩ fun id => ?_
      have hcount := @pending_sendReturns { s with
        msgQueue := s.msgQueue ++ [send.msg]
        flush := s.noteReturned t send.msg } t send hsend id
      rw [count_pending s]
      rw [count_pending { s with
        msgQueue := s.msgQueue ++ [send.msg]
        flush := s.noteReturned t send.msg }] at hcount
      simp only [List.flatMap_append, List.flatMap_singleton,
        List.count_append] at hcount
      omega

/-- A new id is pending once. -/
theorem action_beside (s : ActorConnection) (method : String)
    (params : List Json) : Beside s (s.action method params) [] := by
  refine ⟨rfl, (List.append_nil _).symm, rfl, ?_, ?_, ?_⟩
  · intro h
    refine ⟨h.ended, h.driver, ?_, h.aborted⟩
    intro hmem
    rcases List.mem_append.mp hmem with hold | hnew
    · exact h.aborting hold
    · cases List.mem_singleton.mp hnew
  · show s.rpcCounter ≤ s.rpcCounter + 1
    omega
  · intro id
    have hcounter : (s.action method params).rpcCounter
        = s.rpcCounter + 1 := rfl
    rw [count_pending, count_pending, hcounter]
    simp only [action, List.flatMap_append, List.flatMap_singleton,
      List.flatMap_nil, List.count_append, List.count_nil, Caller.requests,
      requestId, List.count_singleton, beq_iff_eq]
    by_cases hid : s.rpcCounter = id
    · rw [if_pos hid, if_pos (by omega)]
      omega
    · rw [if_neg hid]
      omega

theorem addEventSubscription_beside
    (h : s.addEventSubscription c = some s') : Beside s s' [] := by
  unfold addEventSubscription at h
  split at h
  · next eventName hx =>
    obtain ⟨_, h⟩ := Option.ite_none_right_eq_some.1 h
    split at h
    · injection h with h
      rw [← h]
      exact .of_caller (y := .returned) hx rfl nofun rfl rfl .inl
    · injection h with h
      rw [← h]
      exact .of_caller (y := .subscribe (sendSubscription eventName)) hx rfl
        nofun rfl rfl .inl
  · cases h

theorem disconnect_beside (s : ActorConnection) :
    Beside s s.disconnect [] := by
  unfold disconnect
  split
  · exact .of_sends ⟨rfl, rfl, id, rfl, rfl, rfl, rfl, rfl, rfl, rfl⟩
      fun _ => le_rfl
  · exact .of_call (y := .abort) rfl (fun _ => rfl) rfl fun _ => rfl

/-- The loop over the queue begins with all of it. -/
theorem openQueue_beside (h : s.openQueue = some s') : Beside s s' [] := by
  unfold openQueue at h
  split at h
  · next htask =>
    obtain ⟨_, h⟩ := Option.ite_none_right_eq_some.1 h
    injection h with h
    rw [← h]
    unfold nextMessage
    cases hqueue : s.msgQueue with
    | nil =>
        refine .of_task rfl rfl rfl ⟨rfl, rfl⟩ rfl rfl rfl nofun ?_ ?_
        · rw [htask]
          exact id
        · intro id
          simp [ConnectionTask.requests]
    | cons msg rest =>
        refine .of_task rfl rfl rfl ⟨rfl, rfl⟩ rfl rfl rfl nofun ?_ ?_
        · rw [htask]
          exact id
        · intro id
          rw [htask, hqueue]
          simp [ConnectionTask.requests]
  · cases h

theorem openSubscriptions_beside {names : List String}
    (h : s.openSubscriptions names = some s') : Beside s s' [] := by
  unfold openSubscriptions at h
  split at h
  · next htask =>
    obtain ⟨_, h⟩ := Option.ite_none_right_eq_some.1 h
    injection h with h
    rw [← h]
    unfold nextSubscription
    split
    · refine .of_task rfl rfl rfl ⟨rfl, rfl⟩ rfl rfl rfl nofun ?_ ?_
      · rw [htask]
        exact id
      · intro id
        simp [ConnectionTask.requests]
    · refine .of_task rfl rfl rfl ⟨rfl, rfl⟩ rfl rfl rfl nofun ?_ ?_
      · rw [htask]
        exact id
      · intro id
        simp [ConnectionTask.requests, requests_subscription]
  · cases h

/-- The steps of `disconnect` behind its first. -/
theorem abort_beside (h : s.abort c = some s') : Beside s s' [] := by
  unfold abort at h
  split at h
  · next hx =>
    obtain ⟨_, h⟩ := Option.ite_none_right_eq_some.1 h
    injection h with h
    rw [← h]
    refine ⟨rfl, (List.append_nil _).symm, rfl, ?_, le_rfl, ?_⟩
    · intro ha
      have hdisconnecting := ha.aborting (List.mem_of_getElem? hx)
      exact ⟨ha.ended, ha.driver, fun _ => hdisconnecting,
        fun _ => hdisconnecting⟩
    · intro id
      have := @count_set s.callers c .abort .clearRpcs [] hx rfl id
      rw [count_pending, count_pending]
      simp only [List.flatMap_nil, List.count_nil] at this ⊢
      omega
  · cases h

theorem clearRpcs_beside (h : s.clearRpcs c = some s') :
    Beside s s' [] := by
  unfold clearRpcs at h
  split at h
  · next hx =>
    injection h with h
    rw [← h]
    exact .of_caller (y := .clearSubscriptions) hx rfl nofun rfl rfl .inl
  · cases h

theorem clearSubscriptions_beside (h : s.clearSubscriptions c = some s') :
    Beside s s' [] := by
  unfold clearSubscriptions at h
  split at h
  · next hx =>
    obtain ⟨_, h⟩ := Option.ite_none_right_eq_some.1 h
    injection h with h
    rw [← h]
    exact .of_caller (y := .returned) hx rfl nofun rfl rfl .inl
  · cases h

theorem finishAction_beside (h : s.finishAction c = some s') :
    Beside s s' [] := by
  unfold finishAction at h
  split at h
  · next hx =>
    obtain ⟨_, h⟩ := Option.ite_none_right_eq_some.1 h
    injection h with h
    rw [← h]
    exact .of_caller (y := .returned) hx rfl nofun rfl rfl .inl
  · cases h

theorem setDriver_beside (h : s.setDriver = some s') : Beside s s' [] := by
  unfold setDriver at h
  split at h
  · next htask =>
    obtain ⟨_, h⟩ := Option.ite_none_right_eq_some.1 h
    injection h with h
    rw [← h]
    refine .of_task rfl rfl rfl ⟨rfl, rfl⟩ rfl rfl rfl nofun (fun _ => rfl) ?_
    intro id
    rw [htask]
    exact le_rfl
  · cases h

/-- A message goes from the channel to `on_message`. -/
theorem recv_beside (h : s.recv = some s') : Beside s s' [] := by
  unfold recv at h
  split at h
  · next msg incoming htask hincoming =>
    injection h with h
    rw [← h]
    obtain ⟨connectionTask, inFlightRpcs, settled, htaskOf, heq⟩ :
        ∃ connectionTask inFlightRpcs settled,
          (connectionTask = .lockSubscriptions
            ∨ (∃ ev, connectionTask = .event ev) ∨ connectionTask = .select)
          ∧ ActorConnection.onMessage { s with
              incoming, onMessages := s.onMessages ++ [msg] } msg
            = { s with
              incoming, onMessages := s.onMessages ++ [msg]
              connectionTask, inFlightRpcs, settled } := by
      unfold onMessage
      split
      · exact ⟨_, _, _, .inl rfl, rfl⟩
      · unfold resolve
        split
        · exact ⟨_, _, _, .inr (.inr htask), rfl⟩
        · exact ⟨_, _, _, .inr (.inr htask), rfl⟩
      · next ev _ => exact ⟨_, _, _, .inr (.inl ⟨ev, rfl⟩), rfl⟩
      · split
        · unfold resolve
          split
          · exact ⟨_, _, _, .inr (.inr htask), rfl⟩
          · exact ⟨_, _, _, .inr (.inr htask), rfl⟩
        · exact ⟨_, _, _, .inr (.inr htask), rfl⟩
    rw [heq]
    have hnone : connectionTask.isOver = false
        ∧ connectionTask.hasDriver = true ∧ connectionTask.requests = [] := by
      rcases htaskOf with rfl | ⟨ev, rfl⟩ | rfl <;> exact ⟨rfl, rfl, rfl⟩
    refine .of_task rfl rfl rfl ⟨rfl, rfl⟩ rfl rfl ?_ ?_ ?_ ?_
    · rw [hincoming, List.append_assoc]
      rfl
    · intro hover
      rw [hnone.1] at hover
      cases hover
    · rw [htask, hnone.2.1]
      exact id
    · intro id
      rw [htask, hnone.2.2]
      exact le_rfl
  · cases h

theorem event_beside (h : s.event = some s') : Beside s s' [] := by
  unfold event at h
  split at h
  · next htask =>
    obtain ⟨_, h⟩ := Option.ite_none_right_eq_some.1 h
    injection h with h
    rw [← h]
    refine .of_task rfl rfl rfl ⟨rfl, rfl⟩ rfl rfl rfl nofun ?_ ?_
    · rw [htask]
      exact id
    · intro id
      rw [htask]
      exact le_rfl
  · cases h

/-- An attempt is over when its driver task has ended. -/
theorem takeEnd_beside (h : s.takeEnd = some s') : Beside s s' [] := by
  unfold takeEnd at h
  split at h
  · next htask =>
    obtain ⟨hended, h⟩ := Option.ite_none_right_eq_some.1 h
    injection h with h
    rw [← h]
    refine .of_task rfl rfl rfl ⟨rfl, rfl⟩ rfl rfl rfl (fun _ => .inr hended)
      ?_ ?_
    · rw [htask]
      exact id
    · intro id
      rw [htask]
      exact le_rfl
  · cases h

theorem destroyDriver_beside (h : s.destroyDriver = some s') :
    Beside s s' [] := by
  unfold destroyDriver at h
  split at h
  · next htask =>
    obtain ⟨_, h⟩ := Option.ite_none_right_eq_some.1 h
    injection h with h
    rw [← h]
    refine .of_task rfl rfl rfl ⟨rfl, rfl⟩ rfl rfl rfl ?_ (fun _ => rfl) ?_
    · rw [htask]
      exact fun _ => .inl rfl
    · intro id
      rw [htask]
      exact le_rfl
  · cases h

end ActorConnection

/-- A step of the connection or of its callers. -/
theorem connectionStep_beside {a : ConnectionStep} (ha : a.isDriver = false)
    (h : connectionStep s a = some s') : Beside s s' (s.puts a) := by
  cases a with
  | action method params =>
      injection h with h
      exact h ▸ s.action_beside method params
  | onEvent eventName =>
      injection h with h
      rw [← h]
      exact .of_call (y := .lockSubscriptions eventName) rfl nofun rfl id
  | disconnect =>
      injection h with h
      exact h ▸ s.disconnect_beside
  | addEventSubscription c =>
      exact ActorConnection.addEventSubscription_beside h
  | lockDriver t => exact ActorConnection.lockDriver_beside h
  | sendOk t => exact ActorConnection.sendOk_beside h
  | sendFails t => exact ActorConnection.sendFails_beside h
  | pushQueue t => exact ActorConnection.pushQueue_beside h
  | abort c => exact ActorConnection.abort_beside h
  | clearRpcs c => exact ActorConnection.clearRpcs_beside h
  | clearSubscriptions c => exact ActorConnection.clearSubscriptions_beside h
  | finishAction c => exact ActorConnection.finishAction_beside h
  | setDriver => exact ActorConnection.setDriver_beside h
  | recv => exact ActorConnection.recv_beside h
  | event => exact ActorConnection.event_beside h
  | openSubscriptions names => exact ActorConnection.openSubscriptions_beside h
  | openQueue => exact ActorConnection.openQueue_beside h
  | takeEnd => exact ActorConnection.takeEnd_beside h
  | destroyDriver => exact ActorConnection.destroyDriver_beside h
  | _ => cases ha

-- ============================================== the invariant of an attempt

/-- A step of a driver task that runs. -/
theorem Attempt.running (h : Attempt s)
    (hrunning : s.driverTask.isEnded = false)
    (htask : s'.connectionTask = s.connectionTask)
    (hdriver : s'.driver = s.driver) (hcallers : s'.callers = s.callers)
    (haborted : s'.aborted = s.aborted)
    (hdisconnecting : s'.disconnecting = s.disconnecting) : Attempt s' where
  ended hover := by
    rw [htask] at hover
    rw [h.ended hover] at hrunning
    cases hrunning
  driver := by rw [hdriver, htask, h.driver]
  aborting := by
    rw [hcallers, hdisconnecting]
    exact h.aborting
  aborted := by
    rw [haborted, hdisconnecting]
    exact h.aborted

/-- One step. -/
theorem Attempt.step {a : ConnectionStep} (h : Attempt s)
    (hs : connectionStep s a = some s') : Attempt s' := by
  cases a with
  | connect init =>
      simp only [connectionStep, ActorConnection.connect] at hs
      split at hs
      · next htask =>
        injection hs with hs
        rw [← hs]
        refine ⟨nofun, ?_, h.aborting, nofun⟩
        show s.driver = false
        rw [h.driver, htask]
        rfl
      · cases hs
  | takeOutgoing =>
      simp only [connectionStep, ActorConnection.takeOutgoing] at hs
      split at hs
      · next htask _ =>
        injection hs with hs
        rw [← hs]
        exact h.running (by rw [htask]; rfl) rfl rfl rfl rfl rfl
      · cases hs
  | wrote =>
      simp only [connectionStep, ActorConnection.wrote] at hs
      split at hs
      · next htask =>
        injection hs with hs
        rw [← hs]
        exact h.running (by rw [htask]; rfl) rfl rfl rfl rfl rfl
      · cases hs
  | receive msg =>
      simp only [connectionStep, ActorConnection.receive] at hs
      split at hs
      · next htask =>
        injection hs with hs
        rw [← hs]
        exact h.running (by rw [htask]; rfl) rfl rfl rfl rfl rfl
      · cases hs
  | deliver =>
      simp only [connectionStep, ActorConnection.deliver] at hs
      split at hs
      · next htask =>
        obtain ⟨_, hs⟩ := Option.ite_none_right_eq_some.1 hs
        injection hs with hs
        rw [← hs]
        exact h.running (by rw [htask]; rfl) rfl rfl rfl rfl rfl
      · cases hs
  | endDriver =>
      simp only [connectionStep, ActorConnection.endDriver] at hs
      split at hs
      · injection hs with hs
        rw [← hs]
        exact ⟨fun _ => rfl, h.driver, h.aborting, h.aborted⟩
      · cases hs
      · obtain ⟨_, hs⟩ := Option.ite_none_right_eq_some.1 hs
        injection hs with hs
        rw [← hs]
        exact ⟨fun _ => rfl, h.driver, h.aborting, h.aborted⟩
  | _ => exact (connectionStep_beside rfl hs).attempt h

/-- Every run. -/
theorem reachable_attempt (h : connectionSystem.Reachable s) : Attempt s := by
  refine System.Reaches.invariant ?_ ?_ h
  · intro s hs
    rw [hs]
    exact ⟨fun _ => rfl, rfl, nofun, nofun⟩
  · intro s a s' _ ih _ hs
    exact ih.step hs

end

end RivetKit.RustClient
