/-
The task that keeps a connection of the Rust client alive
(`connection_kept`): its pauses, and what a `disconnect` stops.

An attempt begins at one place each of three of the task's steps, and the
connection is not idle within an attempt only (`Inv.alone`), so what is to
hold of attempts is shown where they begin (`tryConnect_inv`). A step of
the connection leaves an idle one idle, but for `connect`, and does not
take back a `disconnect` (`Aside`).

# Sections

  - steps of the connection
  - where an attempt begins
  - the steps of the task, every run
-/
import RivetKit.RustClient.Proofs.Locks
import RivetKit.RustClient.StartConnection

namespace RivetKit.RustClient

open Transition
open Js
open StartConnection

-- ================================================ steps of the connection

/-- A step leaves an idle connection idle, and takes no `disconnect`
back. -/
structure Aside (s s' : ActorConnection) : Prop where
  idle : s.connectionTask = .idle → s'.connectionTask = .idle
  disconnecting : s.disconnecting = true → s'.disconnecting = true

theorem Aside.trans {s s' s'' : ActorConnection} (h : Aside s s')
    (h' : Aside s' s'') : Aside s s'' :=
  ⟨h'.idle ∘ h.idle, h'.disconnecting ∘ h.disconnecting⟩

/-- A step of another task. -/
theorem Aside.of_eq {s s' : ActorConnection}
    (htask : s'.connectionTask = s.connectionTask)
    (hdisconnecting : s'.disconnecting = s.disconnecting) : Aside s s' :=
  ⟨fun h => htask ▸ h, fun h => hdisconnecting ▸ h⟩

/-- A step of the connection task, which is not idle. -/
theorem Aside.of_busy {s s' : ActorConnection}
    (hbusy : s.connectionTask ≠ .idle)
    (hdisconnecting : s'.disconnecting = s.disconnecting) : Aside s s' :=
  ⟨fun h => absurd h hbusy, fun h => hdisconnecting ▸ h⟩

namespace ActorConnection

variable {s s' : ActorConnection} {t : Task}

theorem setSendMsg_aside (s : ActorConnection) (t : Task) (send : SendMsg) :
    Aside s (s.setSendMsg t send) := by
  constructor
  · intro hidle
    unfold setSendMsg
    cases t with
    | connection => simp [hidle]
    | driver => exact hidle
    | caller c =>
        dsimp only
        split <;> exact hidle
  · obtain ⟨_, _, heq⟩ := setSendMsg_eq s t send
    rw [heq]
    exact id

theorem sendReturns_aside (s : ActorConnection) (t : Task) :
    Aside s (s.sendReturns t) := by
  constructor
  · intro hidle
    unfold sendReturns
    cases t with
    | connection => simp [hidle]
    | driver => exact hidle
    | caller c =>
        dsimp only
        split <;> exact hidle
  · obtain ⟨_, _, _, _, _, heq⟩ := sendReturns_eq s t
    rw [heq]
    exact id

theorem otherwiseQueue_aside (s : ActorConnection) (t : Task)
    (send : SendMsg) : Aside s (s.otherwiseQueue t send) := by
  unfold otherwiseQueue
  split
  · exact sendReturns_aside s t
  · have hlock : Aside s { s with driverLock := some t } := .of_eq rfl rfl
    exact hlock.trans (setSendMsg_aside _ t _)

theorem lockDriver_aside (h : s.lockDriver t = some s') : Aside s s' := by
  unfold lockDriver at h
  cases hsend : s.sendMsg? t with
  | none => simp [hsend] at h
  | some send =>
      simp only [hsend] at h
      obtain ⟨_, h⟩ := Option.ite_none_right_eq_some.1 h
      have hlock : Aside s { s with driverLock := some t } := .of_eq rfl rfl
      by_cases hdriver : s.driver = true
      · rw [if_pos hdriver] at h
        injection h with h
        exact h ▸ hlock.trans (setSendMsg_aside _ t _)
      · rw [if_neg hdriver] at h
        injection h with h
        exact h ▸ otherwiseQueue_aside s t send

theorem sendOk_aside (h : s.sendOk t = some s') : Aside s s' := by
  unfold sendOk at h
  cases hsend : s.sendMsg? t with
  | none => simp [hsend] at h
  | some send =>
      simp only [hsend] at h
      obtain ⟨_, h⟩ := Option.ite_none_right_eq_some.1 h
      injection h with h
      have hhand : Aside s { s with
          outgoing := s.outgoing ++ [send.msg]
          handed := s.handed ++ requestId send.msg
          flush := s.noteHanded t send.msg } := .of_eq rfl rfl
      exact h ▸ hhand.trans (sendReturns_aside _ t)

theorem sendFails_aside (h : s.sendFails t = some s') : Aside s s' := by
  unfold sendFails at h
  cases hsend : s.sendMsg? t with
  | none => simp [hsend] at h
  | some send =>
      simp only [hsend] at h
      obtain ⟨_, h⟩ := Option.ite_none_right_eq_some.1 h
      injection h with h
      exact h ▸ otherwiseQueue_aside s t send

theorem pushQueue_aside (h : s.pushQueue t = some s') : Aside s s' := by
  unfold pushQueue at h
  cases hsend : s.sendMsg? t with
  | none => simp [hsend] at h
  | some send =>
      simp only [hsend] at h
      obtain ⟨_, h⟩ := Option.ite_none_right_eq_some.1 h
      injection h with h
      have hpush : Aside s { s with
          msgQueue := s.msgQueue ++ [send.msg]
          flush := s.noteReturned t send.msg } := .of_eq rfl rfl
      exact h ▸ hpush.trans (sendReturns_aside _ t)

theorem recv_aside (h : s.recv = some s') : Aside s s' := by
  unfold recv at h
  split at h
  · next msg incoming htask hincoming =>
      have hbusy : s.connectionTask ≠ .idle := by simp [htask]
      injection h with h
      refine .of_busy hbusy ?_
      rw [← h]
      unfold onMessage resolve
      split
      · rfl
      · split <;> rfl
      · rfl
      · split
        · split <;> rfl
        · rfl
  · cases h

/-- A step of a caller, behind its guard. -/
theorem guarded_aside {guard : Prop} [Decidable guard]
    {s₁ : ActorConnection}
    (h : (if guard then some s₁ else none) = some s')
    (haside : Aside s s₁) : Aside s s' := by
  obtain ⟨_, h⟩ := Option.ite_none_right_eq_some.1 h
  injection h with h
  exact h ▸ haside

theorem addEventSubscription_aside {c : Nat}
    (h : s.addEventSubscription c = some s') : Aside s s' := by
  unfold addEventSubscription at h
  split at h
  · obtain ⟨_, h⟩ := Option.ite_none_right_eq_some.1 h
    split at h <;> (injection h with h; exact h ▸ .of_eq rfl rfl)
  · cases h

theorem disconnect_aside (s : ActorConnection) : Aside s s.disconnect := by
  unfold disconnect
  split
  · exact .of_eq rfl rfl
  · exact ⟨id, fun _ => rfl⟩

theorem openSubscriptions_aside {names : List String}
    (h : s.openSubscriptions names = some s') : Aside s s' := by
  unfold openSubscriptions at h
  split at h
  · next htask =>
      refine guarded_aside h (.of_busy (by simp [htask]) ?_)
      unfold nextSubscription
      split <;> rfl
  · cases h

theorem openQueue_aside (h : s.openQueue = some s') : Aside s s' := by
  unfold openQueue at h
  split at h
  · next htask =>
      refine guarded_aside h (.of_busy (by simp [htask]) ?_)
      unfold nextMessage
      split <;> rfl
  · cases h

end ActorConnection

open ActorConnection in
/-- Every step but `connect`. -/
theorem connectionStep_aside {s s' : ActorConnection} {a : ConnectionStep}
    (hconnect : ∀ init, a ≠ .connect init)
    (h : connectionStep s a = some s') : Aside s s' := by
  cases a with
  | action method params =>
      injection h with h
      exact h ▸ .of_eq rfl rfl
  | onEvent eventName =>
      injection h with h
      exact h ▸ .of_eq rfl rfl
  | disconnect =>
      injection h with h
      exact h ▸ disconnect_aside s
  | addEventSubscription c => exact addEventSubscription_aside h
  | lockDriver t => exact lockDriver_aside h
  | sendOk t => exact sendOk_aside h
  | sendFails t => exact sendFails_aside h
  | pushQueue t => exact pushQueue_aside h
  | abort c =>
      simp only [connectionStep, abort] at h
      split at h
      · exact guarded_aside h (.of_eq rfl rfl)
      · cases h
  | clearRpcs c =>
      simp only [connectionStep, clearRpcs] at h
      split at h
      · injection h with h
        exact h ▸ .of_eq rfl rfl
      · cases h
  | clearSubscriptions c =>
      simp only [connectionStep, clearSubscriptions] at h
      split at h
      · exact guarded_aside h (.of_eq rfl rfl)
      · cases h
  | finishAction c =>
      simp only [connectionStep, finishAction] at h
      split at h
      · exact guarded_aside h (.of_eq rfl rfl)
      · cases h
  | connect init => exact absurd rfl (hconnect init)
  | setDriver =>
      simp only [connectionStep, setDriver] at h
      split at h
      · next htask =>
          exact guarded_aside h (.of_busy (by simp [htask]) rfl)
      · cases h
  | recv => exact recv_aside h
  | event =>
      simp only [connectionStep, event] at h
      split at h
      · next htask =>
          exact guarded_aside h (.of_busy (by simp [htask]) rfl)
      · cases h
  | openSubscriptions names => exact openSubscriptions_aside h
  | openQueue => exact openQueue_aside h
  | takeEnd =>
      simp only [connectionStep, takeEnd] at h
      split at h
      · next htask =>
          exact guarded_aside h (.of_busy (by simp [htask]) rfl)
      · cases h
  | destroyDriver =>
      simp only [connectionStep, destroyDriver] at h
      split at h
      · next htask =>
          exact guarded_aside h (.of_busy (by simp [htask]) rfl)
      · cases h
  | takeOutgoing =>
      simp only [connectionStep, takeOutgoing] at h
      split at h
      · injection h with h
        exact h ▸ .of_eq rfl rfl
      · cases h
  | wrote =>
      simp only [connectionStep, wrote] at h
      split at h
      · injection h with h
        exact h ▸ .of_eq rfl rfl
      · cases h
  | receive msg =>
      simp only [connectionStep, receive] at h
      split at h
      · injection h with h
        exact h ▸ .of_eq rfl rfl
      · cases h
  | deliver =>
      simp only [connectionStep, deliver] at h
      split at h
      · exact guarded_aside h (.of_eq rfl rfl)
      · cases h
  | endDriver =>
      simp only [connectionStep, endDriver] at h
      split at h
      · injection h with h
        exact h ▸ .of_eq rfl rfl
      · cases h
      · exact guarded_aside h (.of_eq rfl rfl)

/-- `connect` takes no `disconnect` back. -/
theorem connect_disconnecting {s s' : ActorConnection}
    {init : Option ToServer}
    (h : connectionStep s (.connect init) = some s') :
    s'.disconnecting = s.disconnecting := by
  simp only [connectionStep, ActorConnection.connect] at h
  split at h
  · injection h with h
    rw [← h]
  · cases h

/-- `destroyDriver` is the last step of an attempt. -/
theorem destroyDriver_idle {s s' : ActorConnection}
    (h : connectionStep s .destroyDriver = some s') :
    s.connectionTask ≠ .idle ∧ s'.connectionTask = .idle := by
  simp only [connectionStep, ActorConnection.destroyDriver] at h
  split at h
  · next htask =>
      obtain ⟨_, h⟩ := Option.ite_none_right_eq_some.1 h
      injection h with h
      exact ⟨by simp [htask], h ▸ rfl⟩
  · cases h

-- ================================================ where an attempt begins

/-- Whether the task is in an attempt or before what it does with it. -/
def StartConnection.Point.inRetry : Point → Bool
  | .connecting | .returned _ | .waiting => true
  | _ => false

/-- Whether the task begins no attempt that is not followed by
`break 'keepalive`, once `disconnect` has been called. -/
def StartConnection.Point.isLast : Point → Bool
  | .connecting | .returned _ | .leaving | .sent | .ended => true
  | _ => false

/-- The invariant. -/
structure KeptConnection.Inv (s : KeptConnection) : Prop where
  runs : connectionSystem.Reachable s.conn
  alone : s.conn.connectionTask ≠ .idle → s.task = .connecting
  paced : Paced s.attempts
  /-- The delay is that of the streak of attempts that failed. -/
  backoff : s.task.inRetry = true →
    s.backoff = .ticked 1 30 (failures s.attempts)
  fresh : s.task = .spawned → s.attempts = []
  late : s.late.length ≤ 1 ∧ .returned true ∉ s.late
  calm : s.conn.disconnecting = false → s.late = []
  last : s.late ≠ [] → s.task.isLast = true
  awaited : s.closing = .returned true → s.task.isOver = true
  ends : s.task.isOver = true →
    s.conn.disconnecting = true ∨ s.shutdown = true

namespace KeptConnection

variable {s s' : KeptConnection}

/-- Where attempts begin. `s` is the state before. -/
theorem tryConnect_inv (h : s.Inv) (hlast : s.task.isLast = false)
    {attempts : List (Bool × Nat)}
    (hpaced : Paced attempts) {backoff : Backoff} {retryAttempt : Nat}
    (hbackoff : backoff = .ticked 1 30 (failures attempts))
    (disconnectionRx : Bool) :
    Inv (tryConnect { s with
      attempts, backoff, retryAttempt, disconnectionRx }) := by
  have hnone : s.late = [] := by
    by_contra hne
    rw [h.last hne] at hlast
    cases hlast
  have hover : s.task.isOver = false := by
    cases htask : s.task <;> simp_all [Point.isOver, Point.isLast]
  have hlate : (tryConnect { s with
      attempts, backoff, retryAttempt, disconnectionRx }).late
        = if s.conn.disconnecting then [s.closing] else [] := by
    show (if s.conn.disconnecting = true then s.closing :: s.late
      else s.late) = _
    rw [hnone]
  constructor
  · exact h.runs
  · exact fun _ => rfl
  · exact hpaced
  · exact fun _ => hbackoff
  · intro hspawned
    cases hspawned
  · rw [hlate]
    split
    · refine ⟨Nat.le_refl 1, fun hmem => ?_⟩
      rw [h.awaited (List.mem_singleton.1 hmem).symm] at hover
      cases hover
    · exact ⟨Nat.zero_le 1, List.not_mem_nil⟩
  · intro hcalm
    have hfree : s.conn.disconnecting = false := hcalm
    rw [hlate, if_neg (Bool.eq_false_iff.1 hfree)]
  · exact fun _ => rfl
  · intro hreturned
    rw [h.awaited hreturned] at hover
    cases hover
  · intro hends
    cases hends

/-- The task goes from one point to the next, within an attempt or behind
one. -/
theorem goOn_inv (h : s.Inv) {task : Point}
    (hbusy : s.task = .connecting → s.conn.connectionTask = .idle)
    (hretry : task.inRetry = true → s.task.inRetry = true)
    (hspawned : task ≠ .spawned)
    (hlast : s.conn.disconnecting = true → s.task.isLast = true →
      task.isLast = true)
    (hover : s.task.isOver = true → task.isOver = true)
    (hends : task.isOver = true →
      s.conn.disconnecting = true ∨ s.shutdown = true) :
    Inv { s with task } where
  runs := h.runs
  alone hne := absurd (hbusy (h.alone hne)) hne
  paced := h.paced
  backoff hin := h.backoff (hretry hin)
  fresh heq := absurd heq hspawned
  late := h.late
  calm := h.calm
  last hne := by
    cases hdisconnecting : s.conn.disconnecting with
    | false => exact absurd (h.calm hdisconnecting) hne
    | true => exact hlast hdisconnecting (h.last hne)
  awaited hreturned := hover (h.awaited hreturned)
  ends := hends

-- ======================================== the steps of the task, every run

/-- The connection takes a step, and the task stays where it is. -/
theorem conn_inv (h : s.Inv) {a : ConnectionStep} {conn : ActorConnection}
    (hstep : connectionStep s.conn a = some conn)
    (halone : conn.connectionTask ≠ .idle → s.task = .connecting)
    (hdisconnecting : s.conn.disconnecting = true →
      conn.disconnecting = true) : Inv { s with conn } where
  runs := .step a h.runs trivial hstep
  alone := halone
  paced := h.paced
  backoff := h.backoff
  fresh := h.fresh
  late := h.late
  calm hfree := h.calm (Bool.eq_false_iff.2 fun htrue =>
    Bool.eq_false_iff.1 hfree (hdisconnecting htrue))
  last := h.last
  awaited := h.awaited
  ends hover := (h.ends hover).imp_left hdisconnecting

/-- `disconnect` is elsewhere. -/
theorem closing_inv (h : s.Inv) (closing : Closing) (disconnectionRx : Bool)
    (hawaited : closing = .returned true → s.task.isOver = true) :
    Inv { s with closing, disconnectionRx } :=
  { h with awaited := hawaited }

/-- A step of the connection or of its callers. -/
theorem connStep_inv (h : s.Inv) {a : ConnectionStep}
    (hstep : s.connStep a = some s') : s'.Inv := by
  unfold connStep at hstep
  cases hconn : connectionStep s.conn a with
  | none =>
      rw [hconn] at hstep
      cases hstep
  | some conn =>
      simp only [hconn] at hstep
      have haside : (∀ init, a ≠ .connect init) → Inv { s with conn } := by
        intro hne
        have haside := connectionStep_aside hne hconn
        exact conn_inv h hconn
          (fun hbusy => h.alone (hbusy ∘ haside.idle))
          haside.disconnecting
      cases a with
      | connect init =>
          obtain ⟨htask, hstep⟩ := Option.ite_none_right_eq_some.1 hstep
          injection hstep with hstep
          rw [← hstep]
          exact conn_inv h hconn (fun _ => htask)
            fun hd => (connect_disconnecting hconn).trans hd
      | destroyDriver =>
          injection hstep with hstep
          rw [← hstep]
          obtain ⟨hbusy, hidle⟩ := destroyDriver_idle hconn
          have htask := h.alone hbusy
          exact goOn_inv (haside (by simp)) (fun _ => hidle)
            (fun _ => by simp [htask, Point.inRetry]) (by simp)
            (fun _ _ => rfl) (by simp [htask, Point.isOver])
            (by simp [Point.isOver])
      | clearSubscriptions c =>
          injection hstep with hstep
          rw [← hstep]
          exact closing_inv (haside (by simp)) .takeRx s.disconnectionRx
            (by simp)
      | _ =>
          injection hstep with hstep
          exact hstep ▸ haside (by simp)

/-- Behind an attempt: it leaves, goes on at once, or waits. -/
theorem check_inv (h : s.Inv) (hstep : s.check = some s') : s'.Inv := by
  unfold check at hstep
  split at hstep
  · next didOpen htask =>
      have hin : s.task.inRetry = true := by simp [htask, Point.inRetry]
      have hover : s.task.isOver = false := by simp [htask, Point.isOver]
      have hnot : s.task ≠ .connecting := by simp [htask]
      cases hdisconnecting : s.conn.disconnecting with
      | true =>
          rw [hdisconnecting, if_pos rfl] at hstep
          injection hstep with hstep
          rw [← hstep]
          exact goOn_inv h (fun hc => absurd hc hnot) (fun _ => hin)
            (by simp) (fun _ _ => rfl) (fun _ => rfl)
            (fun _ => Or.inl hdisconnecting)
      | false =>
          rw [hdisconnecting, if_neg Bool.false_ne_true] at hstep
          have hgo : ∀ task : Point, task ≠ .spawned →
              task.isOver = false → Inv { s with task } :=
            fun task hspawned hgo => goOn_inv h
              (fun hc => absurd hc hnot) (fun _ => hin) hspawned
              (fun hd => by simp [hdisconnecting] at hd)
              (fun hso => by simp [hover] at hso)
              (fun hto => by simp [hgo] at hto)
          cases didOpen with
          | true =>
              injection hstep with hstep
              exact hstep ▸ hgo .again (by simp) rfl
          | false =>
              injection hstep with hstep
              exact hstep ▸ hgo .waiting (by simp) rfl
  · cases hstep

/-- `backoff.tick()` has waited. -/
theorem tick_inv (h : s.Inv) (hstep : s.tick = some s') : s'.Inv := by
  obtain ⟨htask, hstep⟩ := Option.ite_none_right_eq_some.1 hstep
  injection hstep with hstep
  rw [← hstep]
  have hbackoff := h.backoff (by simp [htask, Point.inRetry])
  have hdelay : s.backoff.delay = min (2 ^ failures s.attempts) 30 := by
    rw [hbackoff, Backoff.ticked, Nat.one_mul]
  have hpaced : Paced ((false, s.backoff.delay) :: s.attempts) :=
    ⟨hdelay, h.paced⟩
  refine tryConnect_inv h (by simp [htask, Point.isLast]) hpaced ?_
    s.disconnectionRx
  rw [hbackoff]
  exact Backoff.tick_ticked 1 30 (failures s.attempts)

/-- One step. -/
theorem step_inv (h : s.Inv) {a : StartConnection.Step}
    (hstep : keptStep s a = some s') : s'.Inv := by
  cases a with
  | conn a => exact connStep_inv h hstep
  | store =>
      obtain ⟨htask, hstep⟩ := Option.ite_none_right_eq_some.1 hstep
      injection hstep with hstep
      rw [← hstep]
      refine tryConnect_inv h (by simp [htask, Point.isLast]) h.paced ?_ true
      rw [h.fresh htask]
      exact (Backoff.ticked_zero (by decide)).symm
  | connectFails =>
      simp only [keptStep, connectFails] at hstep
      split at hstep
      · next htask hidle =>
          injection hstep with hstep
          rw [← hstep]
          exact goOn_inv h (fun _ => hidle)
            (fun _ => by simp [htask, Point.inRetry]) (by simp)
            (fun _ _ => rfl) (by simp [htask, Point.isOver])
            (by simp [Point.isOver])
      · cases hstep
  | check => exact check_inv h hstep
  | again =>
      obtain ⟨htask, hstep⟩ := Option.ite_none_right_eq_some.1 hstep
      injection hstep with hstep
      rw [← hstep]
      have hpaced : Paced ((true, 0) :: s.attempts) := ⟨rfl, h.paced⟩
      exact tryConnect_inv h (by simp [htask, Point.isLast]) hpaced
        (Backoff.ticked_zero (by decide)).symm s.disconnectionRx
  | tick => exact tick_inv h hstep
  | takeDisconnect =>
      obtain ⟨hcan, hstep⟩ := Option.ite_none_right_eq_some.1 hstep
      injection hstep with hstep
      rw [← hstep]
      exact goOn_inv h (by simp [hcan.1]) (by simp [Point.inRetry]) (by simp)
        (fun _ _ => rfl) (fun _ => rfl) (fun _ => Or.inl hcan.2)
  | takeShutdown =>
      obtain ⟨hcan, hstep⟩ := Option.ite_none_right_eq_some.1 hstep
      injection hstep with hstep
      rw [← hstep]
      exact goOn_inv h (by simp [hcan.1]) (by simp [Point.inRetry]) (by simp)
        (fun _ _ => rfl) (fun _ => rfl) (fun _ => Or.inr hcan.2)
  | send =>
      obtain ⟨htask, hstep⟩ := Option.ite_none_right_eq_some.1 hstep
      injection hstep with hstep
      rw [← hstep]
      exact goOn_inv h (by simp [htask]) (by simp [Point.inRetry]) (by simp)
        (fun _ _ => rfl) (fun _ => rfl)
        (fun _ => h.ends (by simp [htask, Point.isOver]))
  | clear =>
      obtain ⟨htask, hstep⟩ := Option.ite_none_right_eq_some.1 hstep
      injection hstep with hstep
      rw [← hstep]
      have hended : Inv { s with task := .ended } :=
        goOn_inv h (by simp [htask]) (by simp [Point.inRetry]) (by simp)
          (fun _ _ => rfl) (fun _ => rfl)
          (fun _ => h.ends (by simp [htask, Point.isOver]))
      exact closing_inv hended s.closing false (fun _ => rfl)
  | takeRx =>
      obtain ⟨_, hstep⟩ := Option.ite_none_right_eq_some.1 hstep
      cases hrx : s.disconnectionRx with
      | true =>
          rw [if_pos hrx] at hstep
          injection hstep with hstep
          exact hstep ▸ closing_inv h .awaiting false (by simp)
      | false =>
          rw [if_neg (by simp [hrx])] at hstep
          injection hstep with hstep
          exact hstep ▸ closing_inv h (.returned false) s.disconnectionRx
            (by simp)
  | awaited =>
      obtain ⟨hcan, hstep⟩ := Option.ite_none_right_eq_some.1 hstep
      injection hstep with hstep
      refine hstep ▸ closing_inv h (.returned true) s.disconnectionRx
        fun _ => ?_
      rcases hcan.2 with htask | htask <;> simp [htask, Point.isOver]
  | shutdown =>
      injection hstep with hstep
      exact hstep ▸ { h with ends := fun _ => Or.inr rfl }

/-- A connection whose task has not begun. -/
theorem inv_init : ({} : KeptConnection).Inv where
  runs := .init rfl
  alone hne := absurd rfl hne
  paced := trivial
  backoff hin := by cases hin
  fresh _ := rfl
  late := ⟨Nat.zero_le 1, List.not_mem_nil⟩
  calm _ := rfl
  last hne := absurd rfl hne
  awaited heq := by cases heq
  ends hover := by cases hover

/-- Every run. -/
theorem reachable_inv (h : keptSystem.Reachable s) : s.Inv :=
  h.invariant (P := KeptConnection.Inv)
    (fun _ hinit => by rw [hinit]; exact inv_init)
    (fun _ _ _ _ hs _ hstep => step_inv hs hstep)

end KeptConnection

/-- What the task keeps in every run, whatever the attempts give and
whenever `disconnect` and the shutdown come. -/
theorem connection_kept {s : KeptConnection} (h : keptSystem.Reachable s) :
    s.Kept := by
  have hinv := KeptConnection.reachable_inv h
  exact ⟨hinv.runs, hinv.alone, hinv.paced, hinv.late, hinv.awaited,
    hinv.ends⟩

/-- Two attempts fail, the third opens, the fourth fails; `disconnect` is
called while the task waits, and it makes a fifth. -/
def reconnects : List StartConnection.Step :=
  [.store, .connectFails, .check, .tick, .connectFails, .check, .tick,
    .conn (.connect none), .conn .setDriver,
    .conn (.receive ⟨.init { ai := "a", ci := "c", ct := "t" }⟩),
    .conn .deliver, .conn .recv, .conn (.openSubscriptions []),
    .conn .openQueue, .conn .endDriver, .conn .takeEnd,
    .conn .destroyDriver, .check, .again, .connectFails, .check,
    .conn .disconnect, .tick, .conn (.abort 0), .conn (.clearRpcs 0),
    .conn (.clearSubscriptions 0), .takeRx, .connectFails, .check, .send,
    .awaited, .clear]

theorem connection_kept_reconnects :
    ∃ s, keptSystem.run {} reconnects = some s
      ∧ s.attempts = [(false, 1), (true, 0), (false, 2), (false, 1)]
      ∧ s.late = [.before] ∧ s.closing = .returned true
      ∧ s.task = .ended ∧ s.Kept := by
  have hrun : (keptSystem.run {} reconnects).map (fun s =>
        (s.attempts, s.late, s.closing, s.task))
      = some ([(false, 1), (true, 0), (false, 2), (false, 1)], [.before],
        .returned true, .ended) := by decide
  cases hs : keptSystem.run {} reconnects with
  | none =>
      rw [hs] at hrun
      cases hrun
  | some s =>
      rw [hs] at hrun
      simp only [Option.map_some, Option.some.injEq, Prod.mk.injEq] at hrun
      obtain ⟨hattempts, hlate, hclosing, htask⟩ := hrun
      exact ⟨s, rfl, hattempts, hlate, hclosing, htask,
        connection_kept (System.Reachable.run _ (.init rfl) hs)⟩

end RivetKit.RustClient
