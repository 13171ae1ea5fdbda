/-
Who holds the locks of a Rust client's connection.

# Places

What a task holds and what it waits for is read off its place: in a
`send_msg` for one of its three callers, at the lock of something else,
or elsewhere. A step changes the place of one task at most (`TaskStep`),
and leaves each lock with its holder, takes it or gives it back. So in
every run a lock is held by exactly the task whose place holds it
(`Ruled.locked`).
-/
import RivetKit.Lib.Lists
import RivetKit.Lib.Mutex
import RivetKit.RustClient.Connection

namespace RivetKit.RustClient

open Transition

-- ================================================================= places

/-- What a `send_msg` is called for. -/
inductive SendKind
  | action
  | subscription
  | flush
  deriving DecidableEq

/-- Where a task is. -/
inductive Place
  | send (kind : SendKind) (send : SendMsg)
  | atDriver
  | atSubscriptions
  | atQueue
  | elsewhere

def ConnectionTask.place : ConnectionTask → Place
  | .idle => .elsewhere
  | .setDriver => .atDriver
  | .select => .elsewhere
  | .lockSubscriptions => .atSubscriptions
  | .subscribe send _ => .send .subscription send
  | .lockQueue => .atQueue
  | .flush send _ => .send .flush send
  | .event _ => .atSubscriptions
  | .destroyDriver => .atDriver

def Caller.place : Caller → Place
  | .action _ send => .send .action send
  | .reply _ => .elsewhere
  | .lockSubscriptions _ => .atSubscriptions
  | .subscribe send => .send .subscription send
  | .abort => .atDriver
  | .clearRpcs => .elsewhere
  | .clearSubscriptions => .atSubscriptions
  | .returned => .elsewhere

/-- The lock of the driver is held at this place. -/
def Place.holdsDriver : Place → Bool
  | .send _ call => call.point ≠ .lockDriver
  | _ => false

/-- The lock of the queue is held at this place. -/
def Place.holdsQueue : Place → Bool
  | .send .flush _ => true
  | _ => false

/-- The lock of the subscriptions is held at this place. -/
def Place.holdsSubscriptions : Place → Bool
  | .send .subscription _ => true
  | _ => false

namespace ActorConnection

def place (s : ActorConnection) : Task → Place
  | .connection => s.connectionTask.place
  | .driver => .elsewhere
  | .caller c =>
      match s.callers[c]? with
      | some caller => caller.place
      | none => .elsewhere

/-- The driver task waits for room in the incoming channel. -/
def driverBlocked (s : ActorConnection) : Bool :=
  match s.driverTask with
  | .deliver _ => capacity ≤ s.incoming.length
  | _ => false

/-- The task that a task waits for: the holder of the lock it is at, or
the other end of a channel that is full. -/
def waitsFor (s : ActorConnection) (t : Task) : Option Task :=
  match s.place t with
  | .send _ send =>
      match send.point with
      | .lockDriver => s.driverLock
      | .send =>
          if s.driverTask.isEnded = false ∧ capacity ≤ s.outgoing.length then
            some .driver
          else none
      | .lockQueue => s.queueLock
  | .atDriver => s.driverLock
  | .atSubscriptions => s.subscriptionsLock
  | .atQueue => s.queueLock
  | .elsewhere =>
      if t = .driver ∧ s.driverBlocked = true then some .connection else none

-- ======================================================= reading off places

/-- The `send_msg` of a task is the one of its place. -/
theorem sendMsg?_eq_some {s : ActorConnection} {t : Task} {send : SendMsg} :
    s.sendMsg? t = some send ↔ ∃ kind, s.place t = .send kind send := by
  cases t with
  | connection =>
      unfold sendMsg? place
      cases s.connectionTask <;> simp [ConnectionTask.place]
  | driver => simp [sendMsg?, place]
  | caller c =>
      unfold sendMsg? place
      dsimp only
      cases s.callers[c]? with
      | none => simp
      | some caller => cases caller <;> simp [Caller.place]

/-- Only the connection task flushes. -/
theorem place_flush {s : ActorConnection} {t : Task} {send : SendMsg}
    (h : s.place t = .send .flush send) :
    t = .connection ∧ ∃ rest, s.connectionTask = .flush send rest := by
  cases t with
  | connection =>
      unfold place at h
      dsimp only at h
      cases hc : s.connectionTask with
      | flush send' rest =>
          rw [hc] at h
          injection h with _ h
          exact ⟨rfl, rest, by rw [h]⟩
      | _ =>
          rw [hc] at h
          simp [ConnectionTask.place] at h
  | driver => cases h
  | caller c =>
      unfold place at h
      dsimp only at h
      cases hc : s.callers[c]? with
      | none =>
          rw [hc] at h
          cases h
      | some caller =>
          rw [hc] at h
          cases caller <;> simp [Caller.place] at h

section

variable {s s' : ActorConnection} {c : Nat} {x y : Caller}

/-- A step of the connection task. -/
theorem place_of_connection (h : s'.callers = s.callers) (t : Task)
    (ht : t ≠ .connection) : s'.place t = s.place t := by
  cases t with
  | connection => exact absurd rfl ht
  | driver => rfl
  | caller c =>
      unfold place
      rw [h]

/-- A step of a caller. -/
theorem place_of_set (hc : s'.connectionTask = s.connectionTask)
    (h : s'.callers = s.callers.set c y) (t : Task) (ht : t ≠ .caller c) :
    s'.place t = s.place t := by
  cases t with
  | connection =>
      unfold place
      rw [hc]
  | driver => rfl
  | caller i =>
      have hi : c ≠ i := by
        intro hi
        exact ht (by rw [hi])
      unfold place
      dsimp only
      rw [h, List.getElem?_set_ne hi]

theorem place_set (h : s'.callers = s.callers.set c y)
    (hx : s.callers[c]? = some x) : s'.place (.caller c) = y.place := by
  have hlt := (List.getElem?_eq_some_iff.1 hx).1
  unfold place
  dsimp only
  rw [h, List.getElem?_set_self hlt]

/-- A call. -/
theorem place_of_append (hc : s'.connectionTask = s.connectionTask)
    (h : s'.callers = s.callers ++ [y]) (t : Task)
    (ht : t ≠ .caller s.callers.length) : s'.place t = s.place t := by
  cases t with
  | connection =>
      unfold place
      rw [hc]
  | driver => rfl
  | caller i =>
      have hi : i ≠ s.callers.length := by
        intro hi
        exact ht (by rw [hi])
      unfold place
      dsimp only
      rw [h]
      by_cases hlt : i < s.callers.length
      · rw [List.getElem?_append_left hlt]
      · rw [List.getElem?_eq_none (by simp; omega),
          List.getElem?_eq_none (by omega)]

theorem place_append (h : s'.callers = s.callers ++ [y]) :
    s'.place (.caller s.callers.length) = y.place := by
  unfold place
  dsimp only
  rw [h]
  simp

theorem place_new (s : ActorConnection) :
    s.place (.caller s.callers.length) = .elsewhere := by
  unfold place
  simp

theorem place_caller (hx : s.callers[c]? = some x) :
    s.place (.caller c) = x.place := by
  unfold place
  dsimp only
  rw [hx]

end

end ActorConnection

-- ================================================================== steps

/-- A step of the task `t`: no other task moves, and of each lock `t`
takes it, gives it back or leaves it. -/
structure TaskStep (s s' : ActorConnection) (t : Task) : Prop where
  other : ∀ t', t' ≠ t → s'.place t' = s.place t'
  driver : (s'.place t).holdsDriver = true →
    (s.place t).holdsDriver = true ∨ s.driverLock = none
  queue : (s'.place t).holdsQueue = true →
    (s.place t).holdsQueue = true ∨ s.queueLock = none
  subscriptions : (s'.place t).holdsSubscriptions = true →
    (s.place t).holdsSubscriptions = true ∨ s.subscriptionsLock = none
  driverLock : s'.driverLock = if (s'.place t).holdsDriver then some t
    else if (s.place t).holdsDriver then none else s.driverLock
  queueLock : s'.queueLock = if (s'.place t).holdsQueue then some t
    else if (s.place t).holdsQueue then none else s.queueLock
  subscriptionsLock :
    s'.subscriptionsLock = if (s'.place t).holdsSubscriptions then some t
      else if (s.place t).holdsSubscriptions then none
      else s.subscriptionsLock

/-- Each lock is held by the task whose place holds it. -/
structure Locked (s : ActorConnection) : Prop where
  driver : Held s.driverLock fun t => (s.place t).holdsDriver
  queue : Held s.queueLock fun t => (s.place t).holdsQueue
  subscriptions : Held s.subscriptionsLock
    fun t => (s.place t).holdsSubscriptions

/-- It stays so. -/
theorem Locked.step {s s' : ActorConnection} {t : Task} (h : Locked s)
    (hs : TaskStep s s' t) : Locked s' where
  driver := h.driver.move
    (fun t' ht' => by rw [hs.other t' ht']) hs.driver hs.driverLock
  queue := h.queue.move
    (fun t' ht' => by rw [hs.other t' ht']) hs.queue hs.queueLock
  subscriptions := h.subscriptions.move
    (fun t' ht' => by rw [hs.other t' ht']) hs.subscriptions
    hs.subscriptionsLock

/-- No lock is held at this place. -/
def Place.Bare (p : Place) : Prop :=
  p.holdsDriver = false ∧ p.holdsQueue = false
    ∧ p.holdsSubscriptions = false

section

variable {s s' : ActorConnection} {t : Task}

/-- A task that holds nothing goes where it holds nothing. -/
theorem TaskStep.of_bare
    (hother : ∀ t', t' ≠ t → s'.place t' = s.place t')
    (hold : (s.place t).Bare) (hnew : (s'.place t).Bare)
    (hdriver : s'.driverLock = s.driverLock)
    (hqueue : s'.queueLock = s.queueLock)
    (hsubscriptions : s'.subscriptionsLock = s.subscriptionsLock) :
    TaskStep s s' t where
  other := hother
  driver := by
    rw [hnew.1]
    nofun
  queue := by
    rw [hnew.2.1]
    nofun
  subscriptions := by
    rw [hnew.2.2]
    nofun
  driverLock := by rw [hnew.1, hold.1, hdriver]; rfl
  queueLock := by rw [hnew.2.1, hold.2.1, hqueue]; rfl
  subscriptionsLock := by rw [hnew.2.2, hold.2.2, hsubscriptions]; rfl

/-- Nothing moves. -/
theorem TaskStep.of_same (hplace : ∀ t, s'.place t = s.place t)
    (hdriver : s'.driverLock = s.driverLock)
    (hqueue : s'.queueLock = s.queueLock)
    (hsubscriptions : s'.subscriptionsLock = s.subscriptionsLock) :
    TaskStep s s' .driver :=
  .of_bare (fun t _ => hplace t) ⟨rfl, rfl, rfl⟩ ⟨rfl, rfl, rfl⟩ hdriver
    hqueue hsubscriptions

end

-- ========================================================= send_msg, returned

/-- A `send_msg` that begins. -/
def SendMsg.Fresh (call : SendMsg) (kind : SendKind) : Prop :=
  call.point = .lockDriver ∧ (call.ephemeral = true ↔ kind = .subscription)

/-- Where a task begins a `send_msg`, or is in none. -/
def Place.Fresh (p : Place) : Prop :=
  ∀ kind call, p = .send kind call → call.Fresh kind

theorem fresh_subscription (eventName : String) :
    (sendSubscription eventName).Fresh .subscription := by
  simp [SendMsg.Fresh, sendSubscription]

theorem fresh_send {kind : SendKind} {call : SendMsg} (h : call.Fresh kind) :
    (Place.send kind call).Fresh := by
  intro kind' call' heq
  injection heq with hkind hcall
  rw [← hkind, ← hcall]
  exact h

namespace ActorConnection

/-- What `setSendMsg` leaves. -/
theorem setSendMsg_eq (s : ActorConnection) (t : Task) (call : SendMsg) :
    ∃ connectionTask callers,
      s.setSendMsg t call = { s with connectionTask, callers } := by
  unfold setSendMsg
  split
  · split <;> exact ⟨_, _, rfl⟩
  · exact ⟨_, _, rfl⟩
  · split <;> exact ⟨_, _, rfl⟩

/-- What `sendReturns` leaves. -/
theorem sendReturns_eq (s : ActorConnection) (t : Task) :
    ∃ connectionTask callers queueLock subscriptionsLock flushes,
      s.sendReturns t = { s with
        driverLock := none, connectionTask, callers, queueLock,
        subscriptionsLock, flushes } := by
  unfold sendReturns
  dsimp only
  split
  · split
    · unfold nextSubscription
      split <;> exact ⟨_, _, _, _, _, rfl⟩
    · unfold nextMessage
      split <;> exact ⟨_, _, _, _, _, rfl⟩
    · exact ⟨_, _, _, _, _, rfl⟩
  · exact ⟨_, _, _, _, _, rfl⟩
  · split <;> exact ⟨_, _, _, _, _, rfl⟩

section

variable {s : ActorConnection} {t : Task} {kind : SendKind}
variable {call call' : SendMsg}

/-- A task moves on within its `send_msg`. -/
theorem place_setSendMsg (h : s.place t = .send kind call) :
    (s.setSendMsg t call').place t = .send kind call' := by
  cases t with
  | connection =>
      unfold place at h ⊢
      unfold setSendMsg
      dsimp only at h ⊢
      cases hc : s.connectionTask <;> rw [hc] at h <;>
        simp_all [ConnectionTask.place]
  | driver => cases h
  | caller c =>
      cases hx : s.callers[c]? with
      | none =>
          unfold place at h
          dsimp only at h
          rw [hx] at h
          cases h
      | some x =>
          rw [place_caller hx] at h
          cases x with
          | action id call₀ =>
              have hset : (s.setSendMsg (.caller c) call').callers
                  = s.callers.set c (.action id call') := by
                unfold setSendMsg
                dsimp only
                rw [hx]
              rw [place_set hset hx]
              injection h with hkind _
              rw [← hkind]
              rfl
          | subscribe call₀ =>
              have hset : (s.setSendMsg (.caller c) call').callers
                  = s.callers.set c (.subscribe call') := by
                unfold setSendMsg
                dsimp only
                rw [hx]
              rw [place_set hset hx]
              injection h with hkind _
              rw [← hkind]
              rfl
          | _ => cases h

/-- The others stay. -/
theorem place_setSendMsg_other (t' : Task) (ht : t' ≠ t) :
    (s.setSendMsg t call').place t' = s.place t' := by
  unfold setSendMsg
  split
  · split <;> first | rfl | exact place_of_connection (by rfl) t' ht
  · rfl
  · split <;> first | rfl | exact place_of_set (by rfl) (by rfl) t' ht

/-- A `send_msg` returns: the others stay. -/
theorem place_sendReturns_other (t' : Task) (ht : t' ≠ t) :
    (s.sendReturns t).place t' = s.place t' := by
  unfold sendReturns
  dsimp only
  split
  · split
    · unfold nextSubscription
      split <;> exact place_of_connection (by rfl) t' ht
    · unfold nextMessage
      split <;> exact place_of_connection (by rfl) t' ht
    · rfl
  · rfl
  · split <;> first | rfl | exact place_of_set (by rfl) (by rfl) t' ht

/-- That of an action returns. -/
theorem sendReturns_action (h : s.place t = .send .action call) :
    (s.sendReturns t).place t = .elsewhere
      ∧ (s.sendReturns t).queueLock = s.queueLock
      ∧ (s.sendReturns t).subscriptionsLock = s.subscriptionsLock := by
  cases t with
  | connection =>
      unfold place at h
      dsimp only at h
      cases hc : s.connectionTask <;> rw [hc] at h <;> cases h
  | driver => cases h
  | caller c =>
      cases hx : s.callers[c]? with
      | none =>
          unfold place at h
          dsimp only at h
          rw [hx] at h
          cases h
      | some x =>
          rw [place_caller hx] at h
          cases x with
          | action id call₀ =>
              have hs : s.sendReturns (.caller c) = { s with
                  driverLock := none
                  callers := s.callers.set c (.reply id) } := by
                unfold sendReturns
                dsimp only
                rw [hx]
              rw [hs]
              exact ⟨place_set (y := .reply id) (by rfl) hx, rfl, rfl⟩
          | _ => cases h

/-- That of a subscription returns. -/
theorem sendReturns_subscription
    (h : s.place t = .send .subscription call) :
    (s.sendReturns t).queueLock = s.queueLock
      ∧ ((((s.sendReturns t).place t = .elsewhere
            ∨ (s.sendReturns t).place t = .atQueue)
          ∧ (s.sendReturns t).subscriptionsLock = none)
        ∨ ∃ eventName, (s.sendReturns t).place t
            = .send .subscription (sendSubscription eventName)
          ∧ (s.sendReturns t).subscriptionsLock = s.subscriptionsLock) := by
  cases t with
  | connection =>
      unfold place at h
      dsimp only at h
      cases hc : s.connectionTask with
      | subscribe call₀ rest =>
          have hs : s.sendReturns .connection
              = { s with driverLock := none }.nextSubscription rest := by
            unfold sendReturns
            dsimp only
            rw [hc]
          rw [hs]
          cases rest with
          | nil => exact ⟨rfl, .inl ⟨.inr rfl, rfl⟩⟩
          | cons eventName rest => exact ⟨rfl, .inr ⟨eventName, rfl, rfl⟩⟩
      | _ =>
          rw [hc] at h
          cases h
  | driver => cases h
  | caller c =>
      cases hx : s.callers[c]? with
      | none =>
          unfold place at h
          dsimp only at h
          rw [hx] at h
          cases h
      | some x =>
          rw [place_caller hx] at h
          cases x with
          | subscribe call₀ =>
              have hs : s.sendReturns (.caller c) = { s with
                  driverLock := none
                  subscriptionsLock := none
                  callers := s.callers.set c .returned } := by
                unfold sendReturns
                dsimp only
                rw [hx]
              rw [hs]
              exact ⟨rfl, .inl ⟨.inl (place_set (y := .returned) (by rfl) hx), rfl⟩⟩
          | _ => cases h

/-- That of the loop over the queue returns. -/
theorem sendReturns_flush {rest : List ToServer}
    (h : s.connectionTask = .flush call rest) :
    s.sendReturns .connection
      = { s with driverLock := none }.nextMessage rest := by
  unfold sendReturns
  dsimp only
  rw [h]

end

end ActorConnection

-- ============================================================ quiet steps

/-- A step of the task `t` behind which it is at the beginning of a
`send_msg`, or in none. -/
structure QuietStep (s s' : ActorConnection) (t : Task) : Prop
    extends TaskStep s s' t where
  fresh : (s'.place t).Fresh

section

variable {s s' : ActorConnection} {t : Task}

/-- Whoever is further in a `send_msg` is another task, and was there
before. -/
theorem QuietStep.kept (h : QuietStep s s' t) {t' : Task} {kind : SendKind}
    {call : SendMsg} (hp : s'.place t' = .send kind call)
    (hpoint : call.point ≠ .lockDriver) :
    t' ≠ t ∧ s.place t' = .send kind call := by
  by_cases ht : t' = t
  · rw [ht] at hp
    exact absurd (h.fresh kind call hp).1 hpoint
  · rw [← h.other t' ht]
    exact ⟨ht, hp⟩

theorem fresh_of_bare {p : Place} (h : ∀ kind call, p ≠ .send kind call) :
    p.Fresh := by
  intro kind call hp
  exact absurd hp (h kind call)

/-- Nothing moves. -/
theorem QuietStep.of_same (hplace : ∀ t, s'.place t = s.place t)
    (hdriver : s'.driverLock = s.driverLock)
    (hqueue : s'.queueLock = s.queueLock)
    (hsubscriptions : s'.subscriptionsLock = s.subscriptionsLock) :
    QuietStep s s' .driver where
  toTaskStep := .of_same hplace hdriver hqueue hsubscriptions
  fresh := fresh_of_bare nofun

/-- The connection task goes on, without locks. -/
theorem QuietStep.of_connection (hold : s.connectionTask.place.Bare)
    (hnew : s'.connectionTask.place.Bare)
    (hfresh : s'.connectionTask.place.Fresh)
    (hcallers : s'.callers = s.callers)
    (hdriver : s'.driverLock = s.driverLock)
    (hqueue : s'.queueLock = s.queueLock)
    (hsubscriptions : s'.subscriptionsLock = s.subscriptionsLock) :
    QuietStep s s' .connection where
  toTaskStep := .of_bare (ActorConnection.place_of_connection hcallers) hold
    hnew hdriver hqueue hsubscriptions
  fresh := hfresh

/-- A caller goes on, without locks. -/
theorem QuietStep.of_caller {c : Nat} {x y : Caller}
    (hx : s.callers[c]? = some x) (hold : x.place.Bare)
    (hnew : y.place.Bare) (hfresh : y.place.Fresh)
    (hset : s'.callers = s.callers.set c y)
    (hconnection : s'.connectionTask = s.connectionTask)
    (hdriver : s'.driverLock = s.driverLock)
    (hqueue : s'.queueLock = s.queueLock)
    (hsubscriptions : s'.subscriptionsLock = s.subscriptionsLock) :
    QuietStep s s' (.caller c) := by
  have hplace := ActorConnection.place_set hset hx
  constructor
  · apply TaskStep.of_bare (ActorConnection.place_of_set hconnection hset) _ _
      hdriver hqueue hsubscriptions
    · rw [ActorConnection.place_caller hx]
      exact hold
    · rw [hplace]
      exact hnew
  · rw [hplace]
    exact hfresh

/-- A call. -/
theorem QuietStep.of_call {y : Caller} (hnew : y.place.Bare)
    (hfresh : y.place.Fresh) (happend : s'.callers = s.callers ++ [y])
    (hconnection : s'.connectionTask = s.connectionTask)
    (hdriver : s'.driverLock = s.driverLock)
    (hqueue : s'.queueLock = s.queueLock)
    (hsubscriptions : s'.subscriptionsLock = s.subscriptionsLock) :
    QuietStep s s' (.caller s.callers.length) := by
  have hplace := ActorConnection.place_append happend
  constructor
  · apply TaskStep.of_bare
      (ActorConnection.place_of_append hconnection happend) _ _ hdriver
      hqueue hsubscriptions
    · rw [ActorConnection.place_new]
      exact ⟨rfl, rfl, rfl⟩
    · rw [hplace]
      exact hnew
  · rw [hplace]
    exact hfresh

/-- A `send_msg` returns. -/
theorem sendReturns_step {kind : SendKind} {call : SendMsg} (hl : Locked s)
    (hp : s.place t = .send kind call)
    (hheld : call.point ≠ .lockDriver ∨ s.driverLock = none) :
    QuietStep s (s.sendReturns t) t := by
  have hother := @ActorConnection.place_sendReturns_other s t
  have hlock : (s.sendReturns t).driverLock = none := by
    obtain ⟨_, _, _, _, _, heq⟩ := s.sendReturns_eq t
    rw [heq]
  have hdriver : none = if (s.place t).holdsDriver then none
      else s.driverLock := by
    rcases hheld with hpoint | hnone
    · rw [hp]
      simp [Place.holdsDriver, hpoint]
    · rw [hnone]
      simp
  cases kind with
  | action =>
      obtain ⟨hnew, hqueue, hsubscriptions⟩ :=
        ActorConnection.sendReturns_action hp
      refine ⟨⟨hother, ?_, ?_, ?_, ?_, ?_, ?_⟩, ?_⟩
      all_goals rw [hnew]
      · nofun
      · nofun
      · nofun
      · rw [hlock]
        exact hdriver
      · rw [hqueue, hp]
        rfl
      · rw [hsubscriptions, hp]
        rfl
      · exact fresh_of_bare nofun
  | subscription =>
      obtain ⟨hqueue, ⟨hnew, hsubscriptions⟩ | ⟨eventName, hnew,
        hsubscriptions⟩⟩ := ActorConnection.sendReturns_subscription hp
      · have hbare : ((s.sendReturns t).place t).Bare := by
          rcases hnew with hnew | hnew
          all_goals
            rw [hnew]
            exact ⟨rfl, rfl, rfl⟩
        refine ⟨⟨hother, ?_, ?_, ?_, ?_, ?_, ?_⟩, ?_⟩
        · rw [hbare.1]
          nofun
        · rw [hbare.2.1]
          nofun
        · rw [hbare.2.2]
          nofun
        · rw [hbare.1, hlock]
          exact hdriver
        · rw [hbare.2.1, hqueue, hp]
          rfl
        · rw [hbare.2.2, hsubscriptions, hp]
          rfl
        · rcases hnew with hnew | hnew
          all_goals
            rw [hnew]
            exact fresh_of_bare nofun
      · have hheldBy : s.subscriptionsLock = some t := by
          apply (hl.subscriptions t).mpr
          show (s.place t).holdsSubscriptions = true
          rw [hp]
          rfl
        refine ⟨⟨hother, ?_, ?_, ?_, ?_, ?_, ?_⟩, ?_⟩
        all_goals rw [hnew]
        · nofun
        · nofun
        · intro _
          exact .inl (by rw [hp]; rfl)
        · rw [hlock]
          exact hdriver
        · rw [hqueue, hp]
          rfl
        · rw [hsubscriptions, hheldBy]
          rfl
        · exact fresh_send (fresh_subscription eventName)
  | flush =>
      obtain ⟨ht, rest, hc⟩ := ActorConnection.place_flush hp
      rw [ht] at hp hdriver hother ⊢
      have hheldBy : s.queueLock = some .connection := by
        apply (hl.queue .connection).mpr
        show (s.place .connection).holdsQueue = true
        rw [hp]
        rfl
      have heq := ActorConnection.sendReturns_flush hc
      rw [heq] at hother ⊢
      cases rest with
      | nil =>
          refine ⟨⟨hother, nofun, nofun, nofun, hdriver, ?_, ?_⟩,
            fresh_of_bare nofun⟩
          · rw [hp]
            rfl
          · rw [hp]
            rfl
      | cons msg rest =>
          refine ⟨⟨hother, nofun, ?_, nofun, hdriver, ?_, ?_⟩,
            fresh_send ⟨rfl, nofun, nofun⟩⟩
          · intro _
            exact .inl (by rw [hp]; rfl)
          · show s.queueLock = _
            rw [hheldBy]
            rfl
          · show s.subscriptionsLock = _
            rw [hp]
            rfl

end

-- ====================================================== within a send_msg

section

variable {s : ActorConnection} {t : Task} {kind : SendKind}
variable {call : SendMsg} {point : SendPoint}

/-- A `send_msg` goes on with the lock of the driver. -/
theorem setSendMsg_step (hl : Locked s) (hp : s.place t = .send kind call)
    (hheld : call.point ≠ .lockDriver ∨ s.driverLock = none)
    (hpoint : point ≠ .lockDriver) :
    TaskStep s ({ s with driverLock := some t }.setSendMsg t
      { call with point }) t := by
  have hp' : { s with driverLock := some t }.place t = .send kind call := hp
  have hnew : ({ s with driverLock := some t }.setSendMsg t
      { call with point }).place t = .send kind { call with point } :=
    ActorConnection.place_setSendMsg hp'
  have hholds : (Place.send kind { call with point }).holdsDriver = true := by
    simp [Place.holdsDriver, hpoint]
  obtain ⟨_, _, heq⟩ := { s with driverLock := some t }.setSendMsg_eq t
    { call with point }
  have hqueue := hl.queue t
  have hsubscriptions := hl.subscriptions t
  refine ⟨?_, ?_, ?_, ?_, ?_, ?_, ?_⟩
  · intro t' ht'
    exact ActorConnection.place_setSendMsg_other (s := { s with
      driverLock := some t }) t' ht'
  · intro _
    rcases hheld with hheld | hheld
    · left
      rw [hp]
      simp [Place.holdsDriver, hheld]
    · exact .inr hheld
  · intro hq
    left
    rw [hnew] at hq
    rw [hp]
    cases kind <;> exact hq
  · intro hs
    left
    rw [hnew] at hs
    rw [hp]
    cases kind <;> exact hs
  · rw [hnew, hholds, heq]
    rfl
  · rw [hnew, heq]
    show s.queueLock = _
    cases kind with
    | flush =>
        have hsome : s.queueLock = some t := by
          apply hqueue.mpr
          show (s.place t).holdsQueue = true
          rw [hp]
          rfl
        rw [hsome]
        rfl
    | _ =>
        rw [hp]
        rfl
  · rw [hnew, heq]
    show s.subscriptionsLock = _
    cases kind with
    | subscription =>
        have hsome : s.subscriptionsLock = some t := by
          apply hsubscriptions.mpr
          show (s.place t).holdsSubscriptions = true
          rw [hp]
          rfl
        rw [hsome]
        rfl
    | _ =>
        rw [hp]
        rfl

end

-- ====================================================== the connection task

def ConnectionTask.isFlush : ConnectionTask → Bool
  | .flush _ _ => true
  | _ => false

/-- In `on_message`. -/
def ConnectionTask.inOnMessage : ConnectionTask → Bool
  | .lockSubscriptions => true
  | .subscribe _ _ => true
  | .lockQueue => true
  | .flush _ _ => true
  | .event _ => true
  | _ => false

/-- Behind `*my_driver = Some(driver)`. -/
def ConnectionTask.hasDriver : ConnectionTask → Bool
  | .idle => false
  | .setDriver => false
  | _ => true

/-- Behind the end of the driver task. -/
def ConnectionTask.isOver : ConnectionTask → Bool
  | .idle => true
  | .destroyDriver => true
  | _ => false

/-- What a `send_msg` that does not flush makes of the connection task. -/
inductive Along : ConnectionTask → ConnectionTask → Prop
  | same (a : ConnectionTask) : Along a a
  | subscribe (call call' : SendMsg) (rest rest' : List String) :
      Along (.subscribe call rest) (.subscribe call' rest')
  | lockQueue (call : SendMsg) (rest : List String) :
      Along (.subscribe call rest) .lockQueue

section

variable {a b : ConnectionTask}

theorem Along.hasDriver (h : Along a b) : b.hasDriver = a.hasDriver := by
  cases h <;> rfl

theorem Along.inOnMessage (h : Along a b) :
    b.inOnMessage = a.inOnMessage := by
  cases h <;> rfl

theorem Along.isOver (h : Along a b) : b.isOver = a.isOver := by
  cases h <;> rfl

theorem Along.isFlush (h : Along a b) : b.isFlush = a.isFlush := by
  cases h <;> rfl

theorem Along.flush (h : Along a b) {call : SendMsg} {rest : List ToServer}
    (hb : b = .flush call rest) : a = .flush call rest := by
  cases h with
  | same => exact hb
  | subscribe => cases hb
  | lockQueue => cases hb

end

namespace ActorConnection

/-- A `send_msg` that does not flush returns. -/
theorem sendReturns_along {s : ActorConnection} {t : Task} {kind : SendKind}
    {call : SendMsg} (hp : s.place t = .send kind call)
    (hkind : kind ≠ .flush) :
    Along s.connectionTask (s.sendReturns t).connectionTask
      ∧ (s.sendReturns t).flushes = s.flushes := by
  cases t with
  | connection =>
      unfold place at hp
      dsimp only at hp
      cases hc : s.connectionTask with
      | subscribe call₀ rest =>
          have hs : s.sendReturns .connection
              = { s with driverLock := none }.nextSubscription rest := by
            unfold sendReturns
            dsimp only
            rw [hc]
          rw [hs]
          cases rest with
          | nil => exact ⟨.lockQueue _ _, rfl⟩
          | cons eventName rest => exact ⟨.subscribe _ _ _ _, rfl⟩
      | flush call₀ rest =>
          rw [hc] at hp
          injection hp with hp _
          exact absurd hp.symm hkind
      | _ =>
          rw [hc] at hp
          cases hp
  | driver => cases hp
  | caller c =>
      unfold sendReturns
      dsimp only
      split <;> exact ⟨.same _, rfl⟩

/-- Within a `send_msg` the connection task keeps its loop. -/
theorem setSendMsg_loop {s : ActorConnection} {t : Task} {call : SendMsg} :
    (s.setSendMsg t call).connectionTask = s.connectionTask
      ∨ (∃ call₀ rest, s.connectionTask = .subscribe call₀ rest
        ∧ (s.setSendMsg t call).connectionTask = .subscribe call rest)
      ∨ (∃ call₀ rest, t = .connection
        ∧ s.connectionTask = .flush call₀ rest
        ∧ (s.setSendMsg t call).connectionTask = .flush call rest) := by
  cases t with
  | connection =>
      unfold setSendMsg
      dsimp only
      cases hc : s.connectionTask with
      | subscribe call₀ rest => exact .inr (.inl ⟨_, _, rfl, rfl⟩)
      | flush call₀ rest => exact .inr (.inr ⟨_, _, rfl, rfl, rfl⟩)
      | _ => exact .inl hc
  | driver => exact .inl rfl
  | caller c =>
      unfold setSendMsg
      dsimp only
      split <;> exact .inl rfl

end ActorConnection

end RivetKit.RustClient
