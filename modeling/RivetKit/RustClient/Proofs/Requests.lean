/-
The requests on their way through a Rust client's connection.

Every action request in a `send_msg`, in the queue, in the loop of
`on_open` and with the driver has an id that `action` gave out. A step
puts a new one into one of these places at most (`Requests.action`) and
moves the others, so the step lemmas are one rule a kind of task.
-/
import RivetKit.RustClient.Proofs.Locks

namespace RivetKit.RustClient

open Transition

-- ============================================================ the requests

namespace ActorConnection

/-- The action `id` was called. -/
def Called (s : ActorConnection) (id : Int) : Prop :=
  0 ≤ id ∧ id < s.rpcCounter

/-- A message is a request of an action that was called, if of any. -/
def Known (s : ActorConnection) (msg : ToServer) : Prop :=
  ∀ id ∈ requestId msg, s.Called id

end ActorConnection

/-- Every request on its way is that of an action that was called. -/
structure Requests (s : ActorConnection) : Prop where
  counter : 0 ≤ s.rpcCounter
  sends : ∀ t kind call, s.place t = .send kind call → s.Known call.msg
  rest : ∀ call rest, s.connectionTask = .flush call rest →
    ∀ msg ∈ rest, s.Known msg
  queue : ∀ msg ∈ s.msgQueue, s.Known msg
  handed : ∀ id ∈ s.handed, s.Called id

section

variable {s s' : ActorConnection} {t : Task} {c : Nat}

theorem known_subscription (s : ActorConnection) (eventName : String) :
    s.Known (sendSubscription eventName).msg := by
  intro id hid
  cases hid

/-- A step that calls no action. -/
theorem Requests.frame (h : Requests s)
    (hcounter : s'.rpcCounter = s.rpcCounter)
    (hsends : ∀ t kind call, s'.place t = .send kind call →
      s.Known call.msg)
    (hrest : ∀ call rest, s'.connectionTask = .flush call rest →
      ∀ msg ∈ rest, s.Known msg)
    (hqueue : ∀ msg ∈ s'.msgQueue, s.Known msg)
    (hhanded : ∀ id ∈ s'.handed, s.Called id) : Requests s' := by
  have hcalled : ∀ id, s.Called id → s'.Called id := by
    intro id hid
    unfold ActorConnection.Called at hid ⊢
    rw [hcounter]
    exact hid
  refine ⟨?_, ?_, ?_, ?_, ?_⟩
  · rw [hcounter]
    exact h.counter
  · intro t kind call hp id hid
    exact hcalled id (hsends t kind call hp id hid)
  · intro call rest hc msg hmsg id hid
    exact hcalled id (hrest call rest hc msg hmsg id hid)
  · intro msg hmsg id hid
    exact hcalled id (hqueue msg hmsg id hid)
  · intro id hid
    exact hcalled id (hhanded id hid)

/-- A caller goes on, outside `send_msg` or to a subscription. -/
theorem Requests.caller {x y : Caller} (h : Requests s)
    (hx : s.callers[c]? = some x)
    (hset : s'.callers = s.callers.set c y)
    (hy : ∀ kind call, y.place = .send kind call → s.Known call.msg)
    (hconnection : s'.connectionTask = s.connectionTask)
    (hcounter : s'.rpcCounter = s.rpcCounter)
    (hqueue : s'.msgQueue = s.msgQueue) (hhanded : s'.handed = s.handed) :
    Requests s' := by
  refine h.frame hcounter ?_ ?_ ?_ ?_
  · intro t kind call hp
    by_cases ht : t = .caller c
    · rw [ht, ActorConnection.place_set hset hx] at hp
      exact hy kind call hp
    · rw [ActorConnection.place_of_set hconnection hset t ht] at hp
      exact h.sends t kind call hp
  · rw [hconnection]
    exact h.rest
  · rw [hqueue]
    exact h.queue
  · rw [hhanded]
    exact h.handed

/-- A call of another method than `action`. -/
theorem Requests.call {y : Caller} (h : Requests s)
    (happend : s'.callers = s.callers ++ [y])
    (hy : ∀ kind call, y.place ≠ .send kind call)
    (hconnection : s'.connectionTask = s.connectionTask)
    (hcounter : s'.rpcCounter = s.rpcCounter)
    (hqueue : s'.msgQueue = s.msgQueue) (hhanded : s'.handed = s.handed) :
    Requests s' := by
  refine h.frame hcounter ?_ ?_ ?_ ?_
  · intro t kind call hp
    by_cases ht : t = .caller s.callers.length
    · rw [ht, ActorConnection.place_append happend] at hp
      exact absurd hp (hy kind call)
    · rw [ActorConnection.place_of_append hconnection happend t ht] at hp
      exact h.sends t kind call hp
  · rw [hconnection]
    exact h.rest
  · rw [hqueue]
    exact h.queue
  · rw [hhanded]
    exact h.handed

/-- The connection task goes on. -/
theorem Requests.connection (h : Requests s)
    (hcallers : s'.callers = s.callers)
    (hsend : ∀ kind call, s'.connectionTask.place = .send kind call →
      s.Known call.msg)
    (hrest : ∀ call rest, s'.connectionTask = .flush call rest →
      ∀ msg ∈ rest, s.Known msg)
    (hcounter : s'.rpcCounter = s.rpcCounter)
    (hqueue : ∀ msg ∈ s'.msgQueue, s.Known msg)
    (hhanded : ∀ id ∈ s'.handed, s.Called id) : Requests s' := by
  refine h.frame hcounter ?_ hrest hqueue hhanded
  intro t kind call hp
  by_cases ht : t = .connection
  · rw [ht] at hp
    exact hsend kind call hp
  · rw [ActorConnection.place_of_connection hcallers t ht] at hp
    exact h.sends t kind call hp

/-- The driver task goes on. -/
theorem Requests.task (h : Requests s) (hcallers : s'.callers = s.callers)
    (hconnection : s'.connectionTask = s.connectionTask)
    (hcounter : s'.rpcCounter = s.rpcCounter)
    (hqueue : s'.msgQueue = s.msgQueue) (hhanded : s'.handed = s.handed) :
    Requests s' := by
  refine h.connection hcallers ?_ ?_ hcounter ?_ ?_
  · rw [hconnection]
    exact h.sends .connection
  · rw [hconnection]
    exact h.rest
  · rw [hqueue]
    exact h.queue
  · rw [hhanded]
    exact h.handed

/-- A task goes on within its `send_msg`. -/
theorem Requests.moveOn {kind : SendKind} {call : SendMsg}
    {point : SendPoint} (h : Requests s) (hp : s.place t = .send kind call) :
    Requests ({ s with driverLock := some t }.setSendMsg t
      { call with point }) := by
  have hnew : ({ s with driverLock := some t }.setSendMsg t
      { call with point }).place t = .send kind { call with point } :=
    ActorConnection.place_setSendMsg (s := { s with driverLock := some t }) hp
  have hother := @ActorConnection.place_setSendMsg_other
    { s with driverLock := some t } t { call with point }
  have hloop := @ActorConnection.setSendMsg_loop
    { s with driverLock := some t } t { call with point }
  obtain ⟨connectionTask, callers, heq⟩ :=
    { s with driverLock := some t }.setSendMsg_eq t { call with point }
  rw [heq] at hnew hother hloop ⊢
  refine h.frame rfl ?_ ?_ h.queue h.handed
  · intro t' kind' call' hp'
    by_cases ht : t' = t
    · rw [ht, hnew] at hp'
      injection hp' with _ hcall
      rw [← hcall]
      exact h.sends t kind call hp
    · rw [hother t' ht] at hp'
      exact h.sends t' kind' call' hp'
  · intro call' rest hc
    have hc : connectionTask = .flush call' rest := hc
    rcases hloop with hsame | ⟨_, _, _, hsub⟩ | ⟨call₀, rest₀, _, hold, hflush⟩
    · have hsame : connectionTask = s.connectionTask := hsame
      rw [hsame] at hc
      exact h.rest call' rest hc
    · have hsub : connectionTask = _ := hsub
      rw [hsub] at hc
      cases hc
    · have hflush : connectionTask = _ := hflush
      rw [hflush] at hc
      injection hc with _ hrest
      rw [← hrest]
      exact h.rest call₀ rest₀ hold

/-- A `send_msg` returns. -/
theorem Requests.returns {kind : SendKind} {call : SendMsg} (h : Requests s)
    (hp : s.place t = .send kind call) (outgoing msgQueue : List ToServer)
    (handed : List Int) (flush : Flush)
    (hqueue : ∀ msg ∈ msgQueue, s.Known msg)
    (hhanded : ∀ id ∈ handed, s.Called id) :
    Requests ({ s with outgoing, msgQueue, handed, flush }.sendReturns t) := by
  have hother := @ActorConnection.place_sendReturns_other
    { s with outgoing, msgQueue, handed, flush } t
  by_cases hkind : kind = .flush
  · rw [hkind] at hp
    obtain ⟨ht, rest, hc⟩ := ActorConnection.place_flush hp
    have heq : { s with outgoing, msgQueue, handed, flush }.sendReturns t
        = { s with outgoing, msgQueue, handed, flush,
                   driverLock := none }.nextMessage rest := by
      rw [ht]
      exact ActorConnection.sendReturns_flush
        (s := { s with outgoing, msgQueue, handed, flush }) hc
    have hrest := h.rest call rest hc
    rw [heq]
    cases rest with
    | nil =>
        exact h.connection rfl nofun nofun rfl hqueue hhanded
    | cons msg rest =>
        refine h.connection rfl ?_ ?_ rfl hqueue hhanded
        · intro kind' call' hcall
          injection hcall with _ hcall
          rw [← hcall]
          exact hrest msg List.mem_cons_self
        · intro call' rest' hcall msg' hmsg'
          injection hcall with _ hrest'
          rw [← hrest'] at hmsg'
          exact hrest msg' (List.mem_cons_of_mem _ hmsg')
  · obtain ⟨halong, _⟩ := ActorConnection.sendReturns_along
      (s := { s with outgoing, msgQueue, handed, flush }) hp hkind
    have hnew : ∀ kind' call',
        ({ s with outgoing, msgQueue, handed, flush }.sendReturns t).place t
          = .send kind' call' → s.Known call'.msg := by
      intro kind' call' hp'
      cases kind with
      | action =>
          have haction := (ActorConnection.sendReturns_action
            (s := { s with outgoing, msgQueue, handed, flush }) hp).1
          rw [haction] at hp'
          cases hp'
      | subscription =>
          obtain ⟨_, ⟨hgone | hgone, _⟩ | ⟨eventName, hnext, _⟩⟩ :=
            ActorConnection.sendReturns_subscription
              (s := { s with outgoing, msgQueue, handed, flush }) hp
          · rw [hgone] at hp'
            cases hp'
          · rw [hgone] at hp'
            cases hp'
          · rw [hnext] at hp'
            injection hp' with _ hcall
            rw [← hcall]
            exact known_subscription s eventName
      | flush => exact absurd rfl hkind
    obtain ⟨connectionTask, callers, queueLock, subscriptionsLock, flushes,
      heq⟩ := { s with outgoing, msgQueue, handed, flush }.sendReturns_eq t
    rw [heq] at hother hnew halong ⊢
    refine h.frame rfl ?_ ?_ hqueue hhanded
    · intro t' kind' call' hp'
      by_cases ht : t' = t
      · rw [ht] at hp'
        exact hnew kind' call' hp'
      · rw [hother t' ht] at hp'
        exact h.sends t' kind' call' hp'
    · intro call' rest hc
      exact h.rest call' rest (halong.flush hc)

theorem Requests.otherwiseQueue {kind : SendKind} {call : SendMsg}
    (h : Requests s) (hp : s.place t = .send kind call) :
    Requests (s.otherwiseQueue t call) := by
  unfold ActorConnection.otherwiseQueue
  split
  · exact h.returns hp _ _ _ _ h.queue h.handed
  · exact h.moveOn hp

end

section

variable {s s' : ActorConnection} {t : Task} {c : Nat}

theorem Requests.lockDriver (h : Requests s)
    (hs : s.lockDriver t = some s') : Requests s' := by
  unfold ActorConnection.lockDriver at hs
  split at hs
  · next call hcall =>
    obtain ⟨kind, hp⟩ := ActorConnection.sendMsg?_eq_some.mp hcall
    split at hs
    · split at hs
      · cases hs
        exact h.moveOn hp
      · cases hs
        exact h.otherwiseQueue hp
    · cases hs
  · cases hs

theorem Requests.sendOk (h : Requests s) (hs : s.sendOk t = some s') :
    Requests s' := by
  unfold ActorConnection.sendOk at hs
  split at hs
  · next call hcall =>
    obtain ⟨kind, hp⟩ := ActorConnection.sendMsg?_eq_some.mp hcall
    split at hs
    · cases hs
      refine h.returns hp _ s.msgQueue _ _ h.queue ?_
      intro id hid
      rcases List.mem_append.mp hid with hid | hid
      · exact h.handed id hid
      · exact h.sends t kind call hp id hid
    · cases hs
  · cases hs

theorem Requests.sendFails (h : Requests s) (hs : s.sendFails t = some s') :
    Requests s' := by
  unfold ActorConnection.sendFails at hs
  split at hs
  · next call hcall =>
    obtain ⟨kind, hp⟩ := ActorConnection.sendMsg?_eq_some.mp hcall
    split at hs
    · cases hs
      exact h.otherwiseQueue hp
    · cases hs
  · cases hs

theorem Requests.pushQueue (h : Requests s) (hs : s.pushQueue t = some s') :
    Requests s' := by
  unfold ActorConnection.pushQueue at hs
  split at hs
  · next call hcall =>
    obtain ⟨kind, hp⟩ := ActorConnection.sendMsg?_eq_some.mp hcall
    split at hs
    · cases hs
      refine h.returns hp s.outgoing _ s.handed _ ?_ h.handed
      intro msg hmsg
      rcases List.mem_append.mp hmsg with hmsg | hmsg
      · exact h.queue msg hmsg
      · rw [List.mem_singleton.mp hmsg]
        exact h.sends t kind call hp
    · cases hs
  · cases hs

/-- An action is called: its id is the counter. -/
theorem Requests.action (h : Requests s) (method : String)
    (params : List Js.Json) : Requests (s.action method params) := by
  have hcalled : ∀ id, s.Called id → (s.action method params).Called id := by
    intro id hid
    have hlt : id < s.rpcCounter + 1 := by
      have := hid.2
      omega
    exact ⟨hid.1, hlt⟩
  have hcounter := h.counter
  refine ⟨?_, ?_, ?_, ?_, ?_⟩
  · show 0 ≤ s.rpcCounter + 1
    omega
  · intro t kind call hp id hid
    by_cases ht : t = .caller s.callers.length
    · rw [ht, ActorConnection.place_append (by rfl)] at hp
      injection hp with _ hcall
      rw [← hcall] at hid
      have hid : id = s.rpcCounter := List.mem_singleton.mp hid
      rw [hid]
      exact ⟨hcounter, Int.lt_succ _⟩
    · rw [ActorConnection.place_of_append (s := s) (by rfl) (by rfl) t ht] at hp
      exact hcalled id (h.sends t kind call hp id hid)
  · intro call rest hc msg hmsg id hid
    exact hcalled id (h.rest call rest hc msg hmsg id hid)
  · intro msg hmsg id hid
    exact hcalled id (h.queue msg hmsg id hid)
  · intro id hid
    exact hcalled id (h.handed id hid)

theorem Requests.addEventSubscription (h : Requests s)
    (hs : s.addEventSubscription c = some s') : Requests s' := by
  unfold ActorConnection.addEventSubscription at hs
  split at hs
  · next eventName hx =>
    split at hs
    · split at hs
      · cases hs
        exact h.caller (y := .returned) hx rfl nofun rfl rfl rfl rfl
      · cases hs
        refine h.caller (y := .subscribe (sendSubscription eventName)) hx
          rfl ?_ rfl rfl rfl rfl
        intro kind call hcall
        injection hcall with _ hcall
        rw [← hcall]
        exact known_subscription s eventName
    · cases hs
  · cases hs

theorem Requests.abort (h : Requests s) (hs : s.abort c = some s') :
    Requests s' := by
  unfold ActorConnection.abort at hs
  split at hs
  · next hx =>
    split at hs
    · cases hs
      exact h.caller (y := .clearRpcs) hx rfl nofun rfl rfl rfl rfl
    · cases hs
  · cases hs


theorem Requests.clearRpcs (h : Requests s) (hs : s.clearRpcs c = some s') :
    Requests s' := by
  unfold ActorConnection.clearRpcs at hs
  split at hs
  · next hx =>
    cases hs
    exact h.caller (y := .clearSubscriptions) hx rfl nofun rfl rfl rfl rfl
  · cases hs


theorem Requests.clearSubscriptions (h : Requests s)
    (hs : s.clearSubscriptions c = some s') : Requests s' := by
  unfold ActorConnection.clearSubscriptions at hs
  split at hs
  · next hx =>
    split at hs
    · cases hs
      exact h.caller (y := .returned) hx rfl nofun rfl rfl rfl rfl
    · cases hs
  · cases hs


theorem Requests.finishAction (h : Requests s)
    (hs : s.finishAction c = some s') : Requests s' := by
  unfold ActorConnection.finishAction at hs
  split at hs
  · next hx =>
    split at hs
    · cases hs
      exact h.caller (y := .returned) hx rfl nofun rfl rfl rfl rfl
    · cases hs
  · cases hs


theorem Requests.connect (h : Requests s) {init : Option ToServer}
    (hs : s.connect init = some s') : Requests s' := by
  unfold ActorConnection.connect at hs
  split at hs
  · cases hs
    exact h.connection rfl nofun nofun rfl h.queue nofun
  · cases hs


theorem Requests.setDriver (h : Requests s) (hs : s.setDriver = some s') :
    Requests s' := by
  unfold ActorConnection.setDriver at hs
  split at hs
  · split at hs
    · cases hs
      exact h.connection rfl nofun nofun rfl h.queue h.handed
    · cases hs
  · cases hs


/-- `on_message`. -/
theorem Requests.onMessage (h : Requests s) (msg : ToClient)
    (incoming onMessages : List ToClient) :
    Requests ({ s with incoming, onMessages }.onMessage msg) := by
  have hresolve : ∀ id r,
      Requests ({ s with incoming, onMessages }.resolve id r) := by
    intro id r
    unfold ActorConnection.resolve
    split
    all_goals exact h.task rfl rfl rfl rfl rfl
  unfold ActorConnection.onMessage
  split
  · exact h.connection rfl nofun nofun rfl h.queue h.handed
  · exact hresolve _ _
  · exact h.connection rfl nofun nofun rfl h.queue h.handed
  · split
    · exact hresolve _ _
    · exact h.task rfl rfl rfl rfl rfl

theorem Requests.recv (h : Requests s) (hs : s.recv = some s') :
    Requests s' := by
  unfold ActorConnection.recv at hs
  split at hs
  · next msg incoming _ _ =>
    cases hs
    exact h.onMessage msg incoming _
  · cases hs

theorem Requests.event (h : Requests s) (hs : s.event = some s') :
    Requests s' := by
  unfold ActorConnection.event at hs
  split at hs
  · split at hs
    · cases hs
      exact h.connection rfl nofun nofun rfl h.queue h.handed
    · cases hs
  · cases hs


theorem Requests.openSubscriptions (h : Requests s) {names : List String}
    (hs : s.openSubscriptions names = some s') : Requests s' := by
  unfold ActorConnection.openSubscriptions at hs
  split at hs
  · split at hs
    · cases hs
      cases names with
      | nil => exact h.connection rfl nofun nofun rfl h.queue h.handed
      | cons eventName rest =>
          refine h.connection rfl ?_ nofun rfl h.queue h.handed
          intro kind call hcall
          injection hcall with _ hcall
          rw [← hcall]
          exact known_subscription s eventName
    · cases hs
  · cases hs

theorem Requests.openQueue (h : Requests s) (hs : s.openQueue = some s') :
    Requests s' := by
  unfold ActorConnection.openQueue at hs
  split at hs
  · split at hs
    · cases hs
      have hqueue := h.queue
      cases hm : s.msgQueue with
      | nil => exact h.connection rfl nofun nofun rfl nofun h.handed
      | cons msg rest =>
          rw [hm] at hqueue
          refine h.connection rfl ?_ ?_ rfl nofun h.handed
          · intro kind call hcall
            injection hcall with _ hcall
            rw [← hcall]
            exact hqueue msg List.mem_cons_self
          · intro call rest' hcall msg' hmsg'
            injection hcall with _ hrest
            rw [← hrest] at hmsg'
            exact hqueue msg' (List.mem_cons_of_mem _ hmsg')
    · cases hs
  · cases hs

theorem Requests.takeEnd (h : Requests s) (hs : s.takeEnd = some s') :
    Requests s' := by
  unfold ActorConnection.takeEnd at hs
  split at hs
  · split at hs
    · cases hs
      exact h.connection rfl nofun nofun rfl h.queue h.handed
    · cases hs
  · cases hs


theorem Requests.destroyDriver (h : Requests s)
    (hs : s.destroyDriver = some s') : Requests s' := by
  unfold ActorConnection.destroyDriver at hs
  split at hs
  · split at hs
    · cases hs
      exact h.connection rfl nofun nofun rfl h.queue h.handed
    · cases hs
  · cases hs


theorem Requests.takeOutgoing (h : Requests s)
    (hs : s.takeOutgoing = some s') : Requests s' := by
  unfold ActorConnection.takeOutgoing at hs
  split at hs
  · cases hs
    exact h.task rfl rfl rfl rfl rfl
  · cases hs


theorem Requests.wrote (h : Requests s) (hs : s.wrote = some s') :
    Requests s' := by
  unfold ActorConnection.wrote at hs
  split at hs
  · cases hs
    exact h.task rfl rfl rfl rfl rfl
  · cases hs


theorem Requests.receive (h : Requests s) {msg : ToClient}
    (hs : s.receive msg = some s') : Requests s' := by
  unfold ActorConnection.receive at hs
  split at hs
  · cases hs
    exact h.task rfl rfl rfl rfl rfl
  · cases hs


theorem Requests.deliver (h : Requests s) (hs : s.deliver = some s') :
    Requests s' := by
  unfold ActorConnection.deliver at hs
  split at hs
  · split at hs
    · cases hs
      exact h.task rfl rfl rfl rfl rfl
    · cases hs
  · cases hs


theorem Requests.endDriver (h : Requests s) (hs : s.endDriver = some s') :
    Requests s' := by
  unfold ActorConnection.endDriver at hs
  split at hs
  · cases hs
    exact h.task rfl rfl rfl rfl rfl
  · cases hs
  · split at hs
    · cases hs
      exact h.task rfl rfl rfl rfl rfl
    · cases hs

/-- One step. -/
theorem Requests.step {a : ConnectionStep} (h : Requests s)
    (hs : connectionStep s a = some s') : Requests s' := by
  cases a with
  | action method params =>
      cases hs
      exact h.action method params
  | onEvent eventName =>
      cases hs
      exact h.call (y := .lockSubscriptions eventName) rfl nofun rfl rfl rfl
        rfl
  | disconnect =>
      cases hs
      unfold ActorConnection.disconnect
      split
      · exact h
      · exact h.call (y := .abort) rfl nofun rfl rfl rfl rfl
  | addEventSubscription c => exact h.addEventSubscription hs
  | lockDriver t => exact h.lockDriver hs
  | sendOk t => exact h.sendOk hs
  | sendFails t => exact h.sendFails hs
  | pushQueue t => exact h.pushQueue hs
  | abort c => exact h.abort hs
  | clearRpcs c => exact h.clearRpcs hs
  | clearSubscriptions c => exact h.clearSubscriptions hs
  | finishAction c => exact h.finishAction hs
  | connect init => exact h.connect hs
  | setDriver => exact h.setDriver hs
  | recv => exact h.recv hs
  | event => exact h.event hs
  | openSubscriptions names => exact h.openSubscriptions hs
  | openQueue => exact h.openQueue hs
  | takeEnd => exact h.takeEnd hs
  | destroyDriver => exact h.destroyDriver hs
  | takeOutgoing => exact h.takeOutgoing hs
  | wrote => exact h.wrote hs
  | receive msg => exact h.receive hs
  | deliver => exact h.deliver hs
  | endDriver => exact h.endDriver hs

end

end RivetKit.RustClient
