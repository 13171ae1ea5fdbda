/-
What `on_open` makes of the queue.

# Three circles

A send of the loop over the queue that fails waits for the lock that the
loop itself holds (`flush_deadlocks`), and one of another task that fails
meanwhile waits for `on_open`, which waits for it. The third circle has
no lock of the queue: a sender waits for room in the outgoing channel,
the driver task for room in the incoming one, and the connection task,
that would make it, is in `on_message`, behind the sender.

# The order of the waits

In the runs without these steps a task that waits for the subscriptions
waits for one that holds no more than these, one that waits for the
driver for one that is in its send or at the queue, and nobody who is at
the queue finds `on_open` there. `rank` is that order; the driver task is
at its top when it waits for an `on_message`, and else at its bottom.
-/
import RivetKit.RustClient.Proofs.Flowing

namespace RivetKit.RustClient

open Transition

-- ============================================================ the steps

section

variable {s s' : ActorConnection} {t : Task} {c : Nat}

/-- An action that begins holds nothing. -/
theorem bare_of_action {call : SendMsg} (hcall : call.Fresh .action) :
    (Place.send .action call).Bare := by
  refine ⟨?_, rfl, rfl⟩
  simp [Place.holdsDriver, hcall.1]

theorem Flowing.action (h : Flowing s) (method : String)
    (params : List Js.Json) : Flowing (s.action method params) := by
  refine h.caller (.of_call ?_ ?_ (by rfl) rfl rfl rfl rfl) rfl rfl rfl rfl
    rfl rfl rfl
  · exact bare_of_action ⟨rfl, nofun, nofun⟩
  · exact fresh_send ⟨rfl, nofun, nofun⟩

theorem Flowing.onEvent (h : Flowing s) (eventName : String) :
    Flowing (s.onEvent eventName) :=
  h.caller (.of_call (y := .lockSubscriptions eventName) ⟨rfl, rfl, rfl⟩
    (fresh_of_bare nofun) rfl rfl rfl rfl rfl) rfl rfl rfl rfl rfl rfl rfl

theorem Flowing.disconnect (h : Flowing s) : Flowing s.disconnect := by
  unfold ActorConnection.disconnect
  split
  · exact h
  · exact h.caller (.of_call (y := .abort) ⟨rfl, rfl, rfl⟩
      (fresh_of_bare nofun) rfl rfl rfl rfl rfl) rfl rfl rfl rfl rfl rfl rfl

theorem Flowing.addEventSubscription (h : Flowing s)
    (hs : s.addEventSubscription c = some s') : Flowing s' := by
  unfold ActorConnection.addEventSubscription at hs
  split at hs
  · next eventName hx =>
    split at hs
    · next hfree =>
      split at hs
      · cases hs
        exact h.caller (.of_caller (y := .returned) hx ⟨rfl, rfl, rfl⟩
          ⟨rfl, rfl, rfl⟩ (fresh_of_bare nofun) rfl rfl rfl rfl rfl) rfl rfl
          rfl rfl rfl rfl rfl
      · cases hs
        refine h.caller (t := .caller c) ?_ rfl rfl rfl rfl rfl rfl rfl
        have hold := ActorConnection.place_caller hx
        have hother := @ActorConnection.place_of_set s
          { s with
            subscriptionsLock := some (.caller c)
            eventSubscriptions := s.eventSubscriptions ++ [eventName]
            callers := s.callers.set c
              (.subscribe (sendSubscription eventName)) } c _ rfl rfl
        have hnew : ActorConnection.place { s with
            subscriptionsLock := some (.caller c)
            eventSubscriptions := s.eventSubscriptions ++ [eventName]
            callers := s.callers.set c
              (.subscribe (sendSubscription eventName)) } (.caller c)
            = .send .subscription (sendSubscription eventName) :=
          ActorConnection.place_set
            (y := .subscribe (sendSubscription eventName)) (by rfl) hx
        refine ⟨⟨hother, ?_, ?_, ?_, ?_, ?_, ?_⟩, ?_⟩
        all_goals rw [hnew]
        · nofun
        · nofun
        · exact fun _ => .inr hfree
        · rw [hold]
          rfl
        · rw [hold]
          rfl
        · rfl
        · exact fresh_send (fresh_subscription eventName)
    · cases hs
  · cases hs

theorem Flowing.abort (h : Flowing s) (hs : s.abort c = some s') :
    Flowing s' := by
  unfold ActorConnection.abort at hs
  split at hs
  · next hx =>
    split at hs
    · cases hs
      exact h.caller (.of_caller (y := .clearRpcs) hx ⟨rfl, rfl, rfl⟩
        ⟨rfl, rfl, rfl⟩ (fresh_of_bare nofun) rfl rfl rfl rfl rfl) rfl rfl
        rfl rfl rfl rfl rfl
    · cases hs
  · cases hs

theorem Flowing.clearRpcs (h : Flowing s) (hs : s.clearRpcs c = some s') :
    Flowing s' := by
  unfold ActorConnection.clearRpcs at hs
  split at hs
  · next hx =>
    cases hs
    exact h.caller (.of_caller (y := .clearSubscriptions) hx ⟨rfl, rfl, rfl⟩
      ⟨rfl, rfl, rfl⟩ (fresh_of_bare nofun) rfl rfl rfl rfl rfl) rfl rfl rfl
      rfl rfl rfl rfl
  · cases hs

theorem Flowing.clearSubscriptions (h : Flowing s)
    (hs : s.clearSubscriptions c = some s') : Flowing s' := by
  unfold ActorConnection.clearSubscriptions at hs
  split at hs
  · next hx =>
    split at hs
    · cases hs
      exact h.caller (.of_caller (y := .returned) hx ⟨rfl, rfl, rfl⟩
        ⟨rfl, rfl, rfl⟩ (fresh_of_bare nofun) rfl rfl rfl rfl rfl) rfl rfl
        rfl rfl rfl rfl rfl
    · cases hs
  · cases hs

theorem Flowing.finishAction (h : Flowing s)
    (hs : s.finishAction c = some s') : Flowing s' := by
  unfold ActorConnection.finishAction at hs
  split at hs
  · next hx =>
    split at hs
    · cases hs
      exact h.caller (.of_caller (y := .returned) hx ⟨rfl, rfl, rfl⟩
        ⟨rfl, rfl, rfl⟩ (fresh_of_bare nofun) rfl rfl rfl rfl rfl) rfl rfl
        rfl rfl rfl rfl rfl
    · cases hs
  · cases hs

-- -------------------------------------------------------------- send_msg

theorem Flowing.otherwiseQueue {kind : SendKind} {call : SendMsg}
    (h : Flowing s) (hp : s.place t = .send kind call)
    (hheld : call.point ≠ .lockDriver ∨ s.driverLock = none)
    (hsafe : call.ephemeral = true ∨ s.connectionTask.isFlush = false) :
    Flowing (s.otherwiseQueue t call) := by
  unfold ActorConnection.otherwiseQueue
  split
  · next hephemeral =>
    have hkind : kind ≠ .flush := by
      rw [(h.calls t kind call hp).1.mp hephemeral]
      nofun
    exact h.returns hp hheld _ _ _ _ (fun _ _ hk => absurd hk hkind)
      (fun _ => rfl)
  · next hephemeral =>
    have hfalse : call.ephemeral = false := Bool.not_eq_true _ ▸ hephemeral
    refine h.moveOn hp hheld nofun nofun (fun _ => hfalse) ?_ nofun
    intro _
    rcases hsafe with hsafe | hsafe
    · exact absurd hsafe hephemeral
    · exact hsafe

theorem Flowing.lockDriver (h : Flowing s)
    (hok : s.driverBlocked = false ∨ s.outgoing.length < capacity
      ∨ s.connectionTask.inOnMessage = false)
    (hs : s.lockDriver t = some s') : Flowing s' := by
  unfold ActorConnection.lockDriver at hs
  split at hs
  · next call hcall =>
    obtain ⟨kind, hp⟩ := ActorConnection.sendMsg?_eq_some.mp hcall
    split at hs
    · next hfree =>
      obtain ⟨hpoint, hfree⟩ := hfree
      split at hs
      · next hdriver =>
        cases hs
        refine h.moveOn hp (.inr hfree) nofun (fun _ => hdriver) nofun nofun ?_
        intro _ hblocked hfull
        rcases hok with hok | hok | hok
        · rw [hok] at hblocked
          cases hblocked
        · omega
        · exact hok
      · next hdriver =>
        cases hs
        refine h.otherwiseQueue hp (.inr hfree) (.inr ?_)
        -- without a driver the connection task is not in `on_open`
        have hnone : s.connectionTask.hasDriver = false := by
          rw [← h.driver]
          exact Bool.not_eq_true _ ▸ hdriver
        cases hc : s.connectionTask with
        | flush call rest =>
            rw [hc] at hnone
            cases hnone
        | _ => rfl
    · cases hs
  · cases hs

theorem Flowing.sendOk (h : Flowing s) (hs : s.sendOk t = some s') :
    Flowing s' := by
  unfold ActorConnection.sendOk at hs
  split at hs
  · next call hcall =>
    obtain ⟨kind, hp⟩ := ActorConnection.sendMsg?_eq_some.mp hcall
    split at hs
    · next hpoint =>
      cases hs
      refine h.returns hp (.inl (by rw [hpoint.1]; nofun)) _ s.msgQueue _ _
        ?_ ?_
      · intro rest hc hkind
        rw [hkind] at hp
        obtain ⟨ht, _⟩ := ActorConnection.place_flush hp
        obtain ⟨hdrained, hreturned⟩ := h.flushing call rest hc
        have hnote : s.noteHanded t call.msg
            = { s.flush with handed := s.flush.handed ++ [call.msg] } := by
          unfold ActorConnection.noteHanded
          rw [ht, hc]
        rw [hnote]
        refine ⟨?_, hreturned⟩
        show s.flush.drained = s.flush.handed ++ [call.msg] ++ rest
        rw [hdrained, List.append_assoc]
        rfl
      · intro hkind
        unfold ActorConnection.noteHanded
        split
        · next call₀ rest hc =>
          unfold ActorConnection.place at hp
          dsimp only at hp
          rw [hc] at hp
          injection hp with hp _
          exact absurd hp.symm hkind
        · rfl
    · cases hs
  · cases hs

theorem Flowing.sendFails (h : Flowing s)
    (hok : s.isEphemeral t = true ∨ s.connectionTask.isFlush = false)
    (hs : s.sendFails t = some s') : Flowing s' := by
  unfold ActorConnection.sendFails at hs
  split at hs
  · next call hcall =>
    obtain ⟨kind, hp⟩ := ActorConnection.sendMsg?_eq_some.mp hcall
    split at hs
    · next hpoint =>
      cases hs
      refine h.otherwiseQueue hp (.inl (by rw [hpoint.1]; nofun)) ?_
      rcases hok with hok | hok
      · left
        unfold ActorConnection.isEphemeral at hok
        rw [hcall] at hok
        exact hok
      · exact .inr hok
    · cases hs
  · cases hs

theorem Flowing.pushQueue (h : Flowing s) (hs : s.pushQueue t = some s') :
    Flowing s' := by
  unfold ActorConnection.pushQueue at hs
  split at hs
  · next call hcall =>
    obtain ⟨kind, hp⟩ := ActorConnection.sendMsg?_eq_some.mp hcall
    split at hs
    · next hpoint =>
      cases hs
      have hflush := h.queue t kind call hp hpoint.1
      refine h.returns hp (.inl (by rw [hpoint.1]; nofun)) s.outgoing _
        s.handed _ ?_ ?_
      · intro rest hc _
        rw [hc] at hflush
        cases hflush
      · intro _
        unfold ActorConnection.noteReturned
        split
        · next hc =>
          rw [hc] at hflush
          cases hflush
        · rfl
    · cases hs
  · cases hs

-- --------------------------------------------------- the connection task

theorem Flowing.connect (h : Flowing s) {init : Option ToServer}
    (hs : s.connect init = some s') : Flowing s' := by
  unfold ActorConnection.connect at hs
  split at hs
  · next hc =>
    cases hs
    refine h.connection (.of_connection ?_ ⟨rfl, rfl, rfl⟩
      (fresh_of_bare nofun) rfl rfl rfl rfl) rfl ?_ nofun (Nat.zero_le _) rfl
      nofun rfl
    · rw [hc]
      exact ⟨rfl, rfl, rfl⟩
    · rw [hc]
      rfl
  · cases hs

/-- The connection task sets or takes the driver, while nobody has its
lock. -/
theorem Flowing.changeDriver (h : Flowing s)
    (hs : QuietStep s s' .connection) (hfree : s.driverLock = none)
    (hdriver : s'.driver = s'.connectionTask.hasDriver)
    (hover : s'.connectionTask.isOver = true → s'.driverTask.isEnded = true)
    (hincoming : s'.incoming = s.incoming)
    (hflush : s'.connectionTask.isFlush = false)
    (hflushes : s'.flushes = s.flushes) : Flowing s' := by
  have hnone : ∀ t' kind call, s'.place t' = .send kind call →
      call.point = .lockDriver := by
    intro t' kind call hp
    by_cases hpoint : call.point = .lockDriver
    · exact hpoint
    · have hkept := hs.kept hp hpoint
      have hholds : (s.place t').holdsDriver = true := by
        rw [hkept.2]
        simp [Place.holdsDriver, hpoint]
      have hfalse : (s.place t').holdsDriver = false :=
        h.locked.driver.free hfree t'
      rw [hfalse] at hholds
      cases hholds
  refine ⟨h.locked.step hs.toTaskStep, ?_, ?_, hdriver, hover, ?_, ?_, ?_, ?_,
    ?_⟩
  · intro t' kind call hp
    by_cases ht : t' = .connection
    · rw [ht] at hp
      obtain ⟨hpoint, hephemeral⟩ := hs.fresh kind call hp
      refine ⟨hephemeral, ?_⟩
      intro hqueue
      rw [hpoint] at hqueue
      cases hqueue
    · rw [hs.other t' ht] at hp
      exact h.calls t' kind call hp
  · intro t' kind call hp hpoint
    rw [hnone t' kind call hp] at hpoint
    cases hpoint
  · rw [hincoming]
    exact h.room
  · intro t' kind call hp hpoint
    rw [hnone t' kind call hp] at hpoint
    cases hpoint
  · intro _ _ t' kind call hp hpoint
    rw [hnone t' kind call hp] at hpoint
    cases hpoint
  · intro call rest hc
    rw [hc] at hflush
    cases hflush
  · rw [hflushes]
    exact h.flushes

theorem Flowing.setDriver (h : Flowing s) (hs : s.setDriver = some s') :
    Flowing s' := by
  unfold ActorConnection.setDriver at hs
  split at hs
  · next hc =>
    split at hs
    · next hfree =>
      cases hs
      refine h.changeDriver (.of_connection ?_ ⟨rfl, rfl, rfl⟩
        (fresh_of_bare nofun) rfl rfl rfl rfl) hfree rfl nofun rfl rfl rfl
      rw [hc]
      exact ⟨rfl, rfl, rfl⟩
    · cases hs
  · cases hs

theorem Flowing.destroyDriver (h : Flowing s)
    (hs : s.destroyDriver = some s') : Flowing s' := by
  unfold ActorConnection.destroyDriver at hs
  split at hs
  · next hc =>
    split at hs
    · next hfree =>
      cases hs
      refine h.changeDriver (.of_connection ?_ ⟨rfl, rfl, rfl⟩
        (fresh_of_bare nofun) rfl rfl rfl rfl) hfree rfl ?_ rfl rfl rfl
      · rw [hc]
        exact ⟨rfl, rfl, rfl⟩
      · intro _
        apply h.ended
        rw [hc]
        rfl
    · cases hs
  · cases hs

theorem Flowing.takeEnd (h : Flowing s) (hs : s.takeEnd = some s') :
    Flowing s' := by
  unfold ActorConnection.takeEnd at hs
  split at hs
  · next hc =>
    split at hs
    · next hended =>
      cases hs
      refine h.connection (.of_connection ?_ ⟨rfl, rfl, rfl⟩
        (fresh_of_bare nofun) rfl rfl rfl rfl) rfl ?_ (fun _ => hended)
        h.room rfl (fun _ _ _ _ _ _ _ => rfl) rfl
      · rw [hc]
        exact ⟨rfl, rfl, rfl⟩
      · rw [hc]
        rfl
    · cases hs
  · cases hs

theorem Flowing.event (h : Flowing s) (hs : s.event = some s') :
    Flowing s' := by
  unfold ActorConnection.event at hs
  split at hs
  · next hc =>
    split at hs
    · cases hs
      refine h.connection (.of_connection ?_ ⟨rfl, rfl, rfl⟩
        (fresh_of_bare nofun) rfl rfl rfl rfl) rfl ?_ nofun h.room rfl
        (fun _ _ _ _ _ _ _ => rfl) rfl
      · rw [hc]
        exact ⟨rfl, rfl, rfl⟩
      · rw [hc]
        rfl
    · cases hs
  · cases hs

end

section

variable {s s' : ActorConnection}

/-- What `on_message` leaves. -/
theorem onMessage_eq (s : ActorConnection) (msg : ToClient) :
    ∃ connectionTask inFlightRpcs settled,
      s.onMessage msg = { s with connectionTask, inFlightRpcs, settled }
        ∧ (connectionTask = s.connectionTask
          ∨ connectionTask = .lockSubscriptions
          ∨ ∃ ev, connectionTask = .event ev) := by
  have hresolve : ∀ id r, ∃ connectionTask inFlightRpcs settled,
      s.resolve id r = { s with connectionTask, inFlightRpcs, settled }
        ∧ connectionTask = s.connectionTask := by
    intro id r
    unfold ActorConnection.resolve
    split <;> exact ⟨_, _, _, rfl, rfl⟩
  unfold ActorConnection.onMessage
  split
  · exact ⟨_, _, _, rfl, .inr (.inl rfl)⟩
  · next ar _ =>
    obtain ⟨connectionTask, inFlightRpcs, settled, heq, hc⟩ :=
      hresolve ar.i (.ok ar)
    exact ⟨_, _, _, heq, .inl hc⟩
  · next ev _ => exact ⟨_, _, _, rfl, .inr (.inr ⟨ev, rfl⟩)⟩
  · next e _ =>
    split
    · next id _ =>
      obtain ⟨connectionTask, inFlightRpcs, settled, heq, hc⟩ :=
        hresolve id (.err e)
      exact ⟨_, _, _, heq, .inl hc⟩
    · exact ⟨_, _, _, rfl, .inl rfl⟩

theorem Flowing.recv (h : Flowing s) (hs : s.recv = some s') :
    Flowing s' := by
  unfold ActorConnection.recv at hs
  split at hs
  · next msg incoming hc hincoming =>
    cases hs
    have hroom := h.room
    rw [hincoming, List.length_cons] at hroom
    obtain ⟨connectionTask, inFlightRpcs, settled, heq, htask⟩ :=
      onMessage_eq { s with
        incoming
        onMessages := s.onMessages ++ [msg] } msg
    have htask : connectionTask = .select
        ∨ connectionTask = .lockSubscriptions
        ∨ ∃ ev, connectionTask = .event ev := by
      rcases htask with htask | htask
      · exact .inl (htask.trans hc)
      · exact .inr htask
    have hnew : connectionTask.place.Bare ∧ connectionTask.place.Fresh
        ∧ connectionTask.hasDriver = true ∧ connectionTask.isOver = false
        ∧ connectionTask.isFlush = false := by
      rcases htask with htask | htask | ⟨ev, htask⟩
      all_goals
        rw [htask]
        exact ⟨⟨rfl, rfl, rfl⟩, fresh_of_bare nofun, rfl, rfl, rfl⟩
    rw [heq]
    refine h.connection (.of_connection ?_ hnew.1 hnew.2.1 rfl rfl rfl rfl)
      rfl ?_ ?_ ?_ hnew.2.2.2.2 ?_ rfl
    · rw [hc]
      exact ⟨rfl, rfl, rfl⟩
    · show connectionTask.hasDriver = _
      rw [hnew.2.2.1, hc]
      rfl
    · intro hover
      have hover : connectionTask.isOver = true := hover
      rw [hnew.2.2.2.1] at hover
      cases hover
    · show incoming.length ≤ capacity
      omega
    · -- the incoming channel has room now
      intro hblocked
      have hfull : capacity ≤ incoming.length := by
        unfold ActorConnection.driverBlocked at hblocked
        split at hblocked
        · exact of_decide_eq_true hblocked
        · cases hblocked
      omega
  · cases hs

theorem Flowing.openSubscriptions (h : Flowing s) {names : List String}
    (hs : s.openSubscriptions names = some s') : Flowing s' := by
  unfold ActorConnection.openSubscriptions at hs
  split at hs
  · next hc =>
    split at hs
    · next hfree =>
      cases hs
      have hold : s.place .connection = .atSubscriptions := by
        unfold ActorConnection.place
        dsimp only
        rw [hc]
        rfl
      have hinside : s.connectionTask.inOnMessage = true := by
        rw [hc]
        rfl
      have hchannels : s.driverBlocked = true →
          capacity ≤ s.outgoing.length → ∀ t kind call,
            s.place t = .send kind call → call.point ≠ .send := by
        intro hblocked hfull t kind call hp hpoint
        have hfalse := h.channels hblocked hfull t kind call hp hpoint
        rw [hinside] at hfalse
        cases hfalse
      cases names with
      | nil =>
          refine h.connection (t := .connection) ⟨⟨?_, nofun, nofun, nofun,
            ?_, ?_, ?_⟩, fresh_of_bare nofun⟩ rfl ?_ nofun h.room rfl ?_ rfl
          · exact ActorConnection.place_of_connection rfl
          · rw [hold]
            rfl
          · rw [hold]
            rfl
          · rw [hold]
            exact hfree.1.symm
          · rw [hc]
            rfl
          · intro hblocked hfull t kind call hp hpoint
            exact absurd hpoint (hchannels hblocked hfull t kind call hp)
      | cons eventName rest =>
          refine h.connection (t := .connection) ⟨⟨?_, nofun, nofun, ?_,
            ?_, ?_, rfl⟩, fresh_send (fresh_subscription eventName)⟩ rfl ?_
            nofun h.room rfl ?_ rfl
          · exact ActorConnection.place_of_connection rfl
          · exact fun _ => .inr hfree.1
          · rw [hold]
            rfl
          · rw [hold]
            rfl
          · rw [hc]
            rfl
          · intro hblocked hfull t kind call hp hpoint
            exact absurd hpoint (hchannels hblocked hfull t kind call hp)
    · cases hs
  · cases hs

theorem Flowing.openQueue (h : Flowing s)
    (hok : s.msgQueue.length = 0 ∨ s.heldAt .lockQueue = false)
    (hs : s.openQueue = some s') : Flowing s' := by
  unfold ActorConnection.openQueue at hs
  split at hs
  · next hc =>
    split at hs
    · next hfree =>
      cases hs
      have hold : s.place .connection = .atQueue := by
        unfold ActorConnection.place
        dsimp only
        rw [hc]
        rfl
      have hinside : s.connectionTask.inOnMessage = true := by
        rw [hc]
        rfl
      have hchannels : s.driverBlocked = true →
          capacity ≤ s.outgoing.length → ∀ t kind call,
            s.place t = .send kind call → call.point ≠ .send := by
        intro hblocked hfull t kind call hp hpoint
        have hfalse := h.channels hblocked hfull t kind call hp hpoint
        rw [hinside] at hfalse
        cases hfalse
      cases hqueue : s.msgQueue with
      | nil =>
          refine h.quiet (t := .connection) ⟨⟨?_, nofun, nofun, nofun,
            ?_, ?_, ?_⟩, fresh_of_bare nofun⟩ rfl ?_ nofun h.room
            (fun _ _ _ _ _ _ => rfl) ?_ nofun ?_
          · exact ActorConnection.place_of_connection rfl
          · rw [hold]
            rfl
          · rw [hold]
            exact hfree.symm
          · rw [hold]
            rfl
          · rw [hc]
            rfl
          · intro hblocked hfull t _ kind call hp hpoint
            exact absurd hpoint (hchannels hblocked hfull t kind call hp)
          · intro f hf
            rcases List.mem_append.mp hf with hf | hf
            · exact h.flushes f hf
            · rw [List.mem_singleton.mp hf]
              exact ⟨rfl, rfl⟩
      | cons msg rest =>
          -- nobody else is at the lock of the queue
          have hnobody : s.heldAt .lockQueue = false := by
            rcases hok with hok | hok
            · rw [hqueue] at hok
              cases hok
            · exact hok
          refine h.quiet (t := .connection) ⟨⟨?_, nofun, ?_, nofun,
            ?_, rfl, ?_⟩, fresh_send ⟨rfl, nofun, nofun⟩⟩ rfl ?_ nofun h.room
            ?_ ?_ ?_ h.flushes
          · exact ActorConnection.place_of_connection rfl
          · exact fun _ => .inr hfree
          · rw [hold]
            rfl
          · rw [hold]
            rfl
          · rw [hc]
            rfl
          · intro t _ kind call hp hpoint
            have hheld := (heldAt_iff h.locked (by nofun)).mpr
              ⟨t, kind, call, hp, hpoint⟩
            rw [hnobody] at hheld
            cases hheld
          · intro hblocked hfull t _ kind call hp hpoint
            exact absurd hpoint (hchannels hblocked hfull t kind call hp)
          · intro call rest' hflush
            injection hflush with hcall hrest
            rw [← hcall, ← hrest]
            exact ⟨rfl, rfl⟩
    · cases hs
  · cases hs

-- -------------------------------------------------------- the driver task

theorem Flowing.takeOutgoing (h : Flowing s)
    (hs : s.takeOutgoing = some s') : Flowing s' := by
  unfold ActorConnection.takeOutgoing at hs
  split at hs
  · next msg outgoing htask hout =>
    cases hs
    refine h.task (fun _ => rfl) rfl rfl rfl rfl rfl ?_ h.room nofun rfl rfl
    rw [htask]
    nofun
  · cases hs

theorem Flowing.wrote (h : Flowing s) (hs : s.wrote = some s') :
    Flowing s' := by
  unfold ActorConnection.wrote at hs
  split at hs
  · next msg htask =>
    cases hs
    refine h.task (fun _ => rfl) rfl rfl rfl rfl rfl ?_ h.room nofun rfl rfl
    rw [htask]
    nofun
  · cases hs

theorem Flowing.receive (h : Flowing s) {msg : ToClient}
    (hok : s.incoming.length < capacity ∨ s.outgoing.length < capacity
      ∨ s.heldAt .send = false ∨ s.connectionTask.inOnMessage = false)
    (hs : s.receive msg = some s') : Flowing s' := by
  unfold ActorConnection.receive at hs
  split at hs
  · next htask =>
    cases hs
    refine h.task (fun _ => rfl) rfl rfl rfl rfl rfl ?_ h.room ?_ rfl rfl
    · rw [htask]
      nofun
    · intro hblocked hfull t kind call hp hpoint
      have hincoming : capacity ≤ s.incoming.length :=
        of_decide_eq_true hblocked
      have hout : capacity ≤ s.outgoing.length := hfull
      rcases hok with hok | hok | hok | hok
      · omega
      · omega
      · have hheld := (heldAt_iff h.locked (by nofun)).mpr
          ⟨t, kind, call, hp, hpoint⟩
        rw [hok] at hheld
        cases hheld
      · exact hok
  · cases hs

theorem Flowing.deliver (h : Flowing s) (hs : s.deliver = some s') :
    Flowing s' := by
  unfold ActorConnection.deliver at hs
  split at hs
  · next msg htask =>
    split at hs
    · next hroom =>
      cases hs
      refine h.task (fun _ => rfl) rfl rfl rfl rfl rfl ?_ ?_ nofun rfl rfl
      · rw [htask]
        nofun
      · show (s.incoming ++ [msg]).length ≤ capacity
        rw [List.length_append, List.length_singleton]
        omega
    · cases hs
  · cases hs

theorem Flowing.endDriver (h : Flowing s) (hs : s.endDriver = some s') :
    Flowing s' := by
  have heq : s' = { s with driverTask := .ended } := by
    unfold ActorConnection.endDriver at hs
    split at hs
    · exact (Option.some.inj hs).symm
    · cases hs
    · split at hs
      · exact (Option.some.inj hs).symm
      · cases hs
  rw [heq]
  exact h.task (fun _ => rfl) rfl rfl rfl rfl rfl (fun _ => rfl) h.room
    nofun rfl rfl

-- ================================================================ the runs

theorem Flowing.init : Flowing {} where
  locked := by
    have hplace : ∀ t, ActorConnection.place {} t = .elsewhere := by
      intro t
      cases t <;> rfl
    refine ⟨?_, ?_, ?_⟩
    all_goals
      intro t
      dsimp only
      rw [hplace]
      exact ⟨nofun, nofun⟩
  calls := by
    intro t kind call hp
    cases t <;> cases hp
  present := by
    intro t kind call hp
    cases t <;> cases hp
  driver := rfl
  ended := fun _ => rfl
  room := Nat.zero_le _
  queue := by
    intro t kind call hp
    cases t <;> cases hp
  channels := nofun
  flushing := nofun
  flushes := nofun

/-- One step. -/
theorem Flowing.step {a : ConnectionStep} (h : Flowing s)
    (hok : FlushSafe s a) (hs : connectionStep s a = some s') :
    Flowing s' := by
  cases a with
  | action method params =>
      cases hs
      exact h.action method params
  | onEvent eventName =>
      cases hs
      exact h.onEvent eventName
  | disconnect =>
      cases hs
      exact h.disconnect
  | addEventSubscription c => exact h.addEventSubscription hs
  | lockDriver t => exact h.lockDriver hok hs
  | sendOk t => exact h.sendOk hs
  | sendFails t => exact h.sendFails hok hs
  | pushQueue t => exact h.pushQueue hs
  | abort c => exact h.abort hs
  | clearRpcs c => exact h.clearRpcs hs
  | clearSubscriptions c => exact h.clearSubscriptions hs
  | finishAction c => exact h.finishAction hs
  | connect init => exact h.connect hs
  | setDriver => exact h.setDriver hs
  | recv => exact h.recv hs
  | event => exact h.event hs
  | openSubscriptions names => exact h.openSubscriptions hs
  | openQueue => exact h.openQueue hok hs
  | takeEnd => exact h.takeEnd hs
  | destroyDriver => exact h.destroyDriver hs
  | takeOutgoing => exact h.takeOutgoing hs
  | wrote => exact h.wrote hs
  | receive msg => exact h.receive hok hs
  | deliver => exact h.deliver hs
  | endDriver => exact h.endDriver hs

/-- The runs that are safe. -/
theorem flowing_of_safe (h : connectionSystem.Reaches FlushSafe s) :
    Flowing s := by
  apply h.invariant
  · intro s hinit
    rw [hinit]
    exact .init
  · intro s a s' _ hflowing hok hs
    exact hflowing.step hok hs

end

-- ================================================================== waits

/-- At a lock or in a `send_msg`. -/
def ConnectionTask.isAway : ConnectionTask → Bool
  | .idle => false
  | .select => false
  | _ => true

section

variable {s : ActorConnection}

/-- Where a task is in the order of the waits. -/
def rank (s : ActorConnection) (t : Task) : Nat :=
  match s.place t with
  | .atSubscriptions => 5
  | .atDriver => 4
  | .send _ call =>
      match call.point with
      | .lockDriver => 4
      | .lockQueue => 3
      | .send => 2
  | .atQueue => 1
  | .elsewhere =>
      if t = .driver then
        if s.driverBlocked = true ∧ s.connectionTask.isAway = true then 6
        else 1
      else 0

theorem rank_send {t : Task} {kind : SendKind} {call : SendMsg}
    (hp : s.place t = .send kind call) :
    rank s t = match call.point with
      | .lockDriver => 4
      | .lockQueue => 3
      | .send => 2 := by
  unfold rank
  rw [hp]

/-- The holder of the driver's lock is in its send or at the queue. -/
theorem Flowing.rank_driver (h : Flowing s) {t : Task}
    (hlock : s.driverLock = some t) : rank s t < 4 := by
  have hholds : (s.place t).holdsDriver = true := (h.locked.driver t).mp hlock
  cases hp : s.place t with
  | send kind call =>
      rw [rank_send hp]
      rw [hp] at hholds
      have hpoint : call.point ≠ .lockDriver := of_decide_eq_true hholds
      cases hc : call.point with
      | lockDriver => exact absurd hc hpoint
      | lockQueue => decide
      | send => decide
  | _ =>
      rw [hp] at hholds
      cases hholds

/-- The holder of the subscriptions is in a `send_msg`. -/
theorem Flowing.rank_subscriptions (h : Flowing s) {t : Task}
    (hlock : s.subscriptionsLock = some t) : rank s t < 5 := by
  have hholds : (s.place t).holdsSubscriptions = true :=
    (h.locked.subscriptions t).mp hlock
  cases hp : s.place t with
  | send kind call =>
      rw [rank_send hp]
      cases call.point <;> decide
  | _ =>
      rw [hp] at hholds
      cases hholds

/-- The holder of the queue is the connection task, in its flush. -/
theorem Flowing.holder_queue (h : Flowing s) {t : Task}
    (hlock : s.queueLock = some t) :
    t = .connection ∧ ∃ call rest, s.connectionTask = .flush call rest := by
  have hholds : (s.place t).holdsQueue = true := (h.locked.queue t).mp hlock
  cases hp : s.place t with
  | send kind call =>
      rw [hp] at hholds
      cases kind with
      | flush =>
          obtain ⟨ht, rest, hc⟩ := ActorConnection.place_flush hp
          exact ⟨ht, call, rest, hc⟩
      | _ => cases hholds
  | _ =>
      rw [hp] at hholds
      cases hholds

theorem rank_elsewhere {t : Task} (hp : s.place t = .elsewhere) :
    rank s t = if t = .driver then
        if s.driverBlocked = true ∧ s.connectionTask.isAway = true then 6
        else 1
      else 0 := by
  unfold rank
  rw [hp]

/-- The connection task is below the driver task that waits for it. -/
theorem rank_connection (s : ActorConnection) :
    rank s .connection < if s.connectionTask.isAway then 6 else 1 := by
  unfold rank ActorConnection.place
  dsimp only
  cases s.connectionTask with
  | subscribe call rest =>
      simp only [ConnectionTask.place, ConnectionTask.isAway]
      cases call.point <;> decide
  | flush call rest =>
      simp only [ConnectionTask.place, ConnectionTask.isAway]
      cases call.point <;> decide
  | _ => simp [ConnectionTask.place, ConnectionTask.isAway]

/-- A sender that waits for room: the driver task does not wait for it. -/
theorem Flowing.rank_full (h : Flowing s) {t : Task} {kind : SendKind}
    {call : SendMsg} (hp : s.place t = .send kind call)
    (hpoint : call.point = .send) (hrunning : s.driverTask.isEnded = false)
    (hfull : capacity ≤ s.outgoing.length) : rank s .driver = 1 := by
  rw [rank_elsewhere rfl, if_pos rfl]
  apply if_neg
  intro hboth
  obtain ⟨hblocked, haway⟩ := hboth
  have hinside := h.channels hblocked hfull t kind call hp hpoint
  have hpresent := h.present t kind call hp hpoint
  rw [h.driver] at hpresent
  cases hc : s.connectionTask with
  | idle =>
      rw [hc] at haway
      cases haway
  | setDriver =>
      rw [hc] at hpresent
      cases hpresent
  | select =>
      rw [hc] at haway
      cases haway
  | destroyDriver =>
      have hended := h.ended (by rw [hc]; rfl)
      rw [hended] at hrunning
      cases hrunning
  | _ =>
      rw [hc] at hinside
      cases hinside

/-- Every wait goes down. -/
theorem Flowing.rank_lt (h : Flowing s) (a b : Task)
    (hwait : s.waitsFor a = some b) : rank s b < rank s a := by
  unfold ActorConnection.waitsFor at hwait
  cases hp : s.place a with
  | send kind call =>
      rw [hp] at hwait
      dsimp only at hwait
      rw [rank_send hp]
      cases hpoint : call.point with
      | lockDriver =>
          rw [hpoint] at hwait
          exact h.rank_driver hwait
      | send =>
          rw [hpoint] at hwait
          dsimp only at hwait
          split at hwait
          · next hfull =>
            cases hwait
            rw [h.rank_full hp hpoint hfull.1 hfull.2]
            decide
          · cases hwait
      | lockQueue =>
          rw [hpoint] at hwait
          obtain ⟨_, _, _, hc⟩ := h.holder_queue hwait
          have hflush := h.queue a kind call hp hpoint
          rw [hc] at hflush
          cases hflush
  | atDriver =>
      rw [hp] at hwait
      have hrank : rank s a = 4 := by
        unfold rank
        rw [hp]
      rw [hrank]
      exact h.rank_driver hwait
  | atSubscriptions =>
      rw [hp] at hwait
      have hrank : rank s a = 5 := by
        unfold rank
        rw [hp]
      rw [hrank]
      exact h.rank_subscriptions hwait
  | atQueue =>
      rw [hp] at hwait
      obtain ⟨_, call, rest, hc⟩ := h.holder_queue hwait
      cases a with
      | connection =>
          unfold ActorConnection.place at hp
          dsimp only at hp
          rw [hc] at hp
          cases hp
      | driver => cases hp
      | caller c =>
          unfold ActorConnection.place at hp
          dsimp only at hp
          split at hp
          · next caller _ => cases caller <;> cases hp
          · cases hp
  | elsewhere =>
      rw [hp] at hwait
      dsimp only at hwait
      split at hwait
      · next hdriver =>
        cases hwait
        have hconnection := rank_connection s
        rw [rank_elsewhere hp, if_pos hdriver.1]
        cases haway : s.connectionTask.isAway with
        | true =>
            rw [haway] at hconnection
            rw [if_pos ⟨hdriver.2, rfl⟩]
            exact hconnection
        | false =>
            rw [haway] at hconnection
            rw [if_neg (by simp)]
            exact hconnection
      · cases hwait

-- ============================================================= the result

/-- In every run that is safe no tasks wait for each other in a circle,
and every flush of the queue keeps every message and their order. -/
theorem flush_of_safe (h : connectionSystem.Reaches FlushSafe s) :
    ¬ Deadlocked s.waitsFor ∧ ∀ f ∈ s.flushes, f.InOrder := by
  have hflowing := flowing_of_safe h
  constructor
  · exact not_deadlocked hflowing.rank_lt
  · intro f hf
    exact Flush.inOrder (hflowing.flushes f hf)

end

-- =============================================================== two runs

/-- The request of the first action. -/
def firstRequest : ToServer :=
  ⟨.actionRequest { i := 0, n := "increment", a := [] }⟩

/-- The first message of a server. -/
def initMessage : ToClient :=
  ⟨.init { ai := "actor", ci := "conn", ct := "token" }⟩

/-- An action is called before the connection is up, and the server's first
message comes: `on_open` has the request to flush. -/
def openRun : List ConnectionStep :=
  [.action "increment" [], .lockDriver (.caller 0), .pushQueue (.caller 0),
    .connect none, .setDriver, .receive initMessage, .deliver, .recv,
    .openSubscriptions [], .openQueue, .lockDriver .connection]

/-- Behind `openRun`. -/
def opened : ActorConnection where
  driver := true
  rpcCounter := 1
  inFlightRpcs := [0]
  driverLock := some .connection
  queueLock := some .connection
  connectionTask := .flush { msg := firstRequest, point := .send } []
  driverTask := .select
  callers := [.reply 0]
  flush := { drained := [firstRequest] }
  received := [initMessage]
  onMessages := [initMessage]

/-- The driver takes the request, and `on_open` is done. -/
theorem flush_of_safe_opened :
    ∃ s, connectionSystem.run {} (openRun ++ [.sendOk .connection]) = some s
      ∧ s.flushes = [{ drained := [firstRequest], handed := [firstRequest] }]
      ∧ ¬ Deadlocked s.waitsFor ∧ ∀ f ∈ s.flushes, f.InOrder := by
  refine ⟨_, rfl, rfl, flush_of_safe ?_⟩
  exact System.Reaches.run (openRun ++ [.sendOk .connection]) (.init rfl)
    (by decide) rfl

/-- The driver task ends behind the server's first message: the send fails
under the lock of the queue, and `on_open` waits for that lock. -/
theorem flush_deadlocks :
    ∃ s, connectionSystem.Reachable s ∧ Deadlocked s.waitsFor := by
  have hrun : connectionSystem.run {}
      (openRun ++ [.endDriver, .sendFails .connection]) = some { opened with
        driverTask := .ended
        connectionTask := .flush { msg := firstRequest, point := .lockQueue }
          [] } := rfl
  refine ⟨_, System.Reachable.run _ (.init rfl) hrun, ?_⟩
  exact Deadlocked.self (t := .connection) rfl

end RivetKit.RustClient
