/-
`send_msg` and the queue of a Rust client's connection, in the runs in
which nobody is left waiting.

# The condition

A `send_msg` that fails takes the lock of the queue under the lock of the
driver, and the second loop of `on_open` holds the lock of the queue over
all its calls of `send_msg`. `FlushSafe` leaves out the steps that make
two of these meet, and the one that closes the circle of the two bounded
channels around an `on_message`.

# The invariant

Of `Flowing` the fields `queue` and `channels` are what the condition
gives; `flushing` and `flushes` are the ledger of the loop: what the
driver was given and what is left is what was drained. A quiet step is
one rule (`Flowing.quiet`); within a `send_msg` a task moves on with the
driver's lock (`Flowing.moveOn`) or returns (`Flowing.returns`).
-/
import RivetKit.RustClient.Proofs.Locks

namespace RivetKit.RustClient

open Transition

-- ==================================================== statement vocabulary

namespace ActorConnection

/-- The holder of the driver's lock is at this await. -/
def heldAt (s : ActorConnection) (point : SendPoint) : Bool :=
  match s.driverLock with
  | some t =>
      match s.sendMsg? t with
      | some call => call.point = point
      | none => false
  | none => false

/-- The `send_msg` of a task is ephemeral. -/
def isEphemeral (s : ActorConnection) (t : Task) : Bool :=
  match s.sendMsg? t with
  | some call => call.ephemeral
  | none => false

end ActorConnection

/-- A step that closes none of the circles: no send fails that is to be
queued while `on_open` flushes the queue; `on_open` does not begin to
flush while a caller whose send has failed is at the lock of the queue;
and no sender comes to wait for room while the driver task waits for an
`on_message`. -/
def FlushSafe (s : ActorConnection) : ConnectionStep → Prop
  | .sendFails t =>
      s.isEphemeral t = true ∨ s.connectionTask.isFlush = false
  | .openQueue => s.msgQueue.length = 0 ∨ s.heldAt .lockQueue = false
  | .lockDriver _ =>
      s.driverBlocked = false ∨ s.outgoing.length < capacity
        ∨ s.connectionTask.inOnMessage = false
  | .receive _ =>
      s.incoming.length < capacity ∨ s.outgoing.length < capacity
        ∨ s.heldAt .send = false ∨ s.connectionTask.inOnMessage = false
  | _ => True

instance (s : ActorConnection) (a : ConnectionStep) :
    Decidable (FlushSafe s a) := by
  cases a <;> unfold FlushSafe <;> infer_instance

/-- Every message that was drained was handed to the driver once, or is
back in the queue, in the order of the queue. -/
def Flush.InOrder (f : Flush) : Prop :=
  f.handed.Sublist f.drained ∧ f.returned.Sublist f.drained
    ∧ (f.handed ++ f.returned).Perm f.drained

-- ========================================================== the invariant

/-- What holds in the runs that are safe. -/
structure Flowing (s : ActorConnection) : Prop where
  locked : Locked s
  calls : ∀ t kind call, s.place t = .send kind call →
    (call.ephemeral = true ↔ kind = .subscription)
      ∧ (call.point = .lockQueue → call.ephemeral = false)
  present : ∀ t kind call, s.place t = .send kind call →
    call.point = .send → s.driver = true
  driver : s.driver = s.connectionTask.hasDriver
  ended : s.connectionTask.isOver = true → s.driverTask.isEnded = true
  room : s.incoming.length ≤ capacity
  /-- Nobody is at the lock of the queue while it is flushed. -/
  queue : ∀ t kind call, s.place t = .send kind call →
    call.point = .lockQueue → s.connectionTask.isFlush = false
  /-- The circle of the channels is open. -/
  channels : s.driverBlocked = true → capacity ≤ s.outgoing.length →
    ∀ t kind call, s.place t = .send kind call → call.point = .send →
      s.connectionTask.inOnMessage = false
  flushing : ∀ call rest, s.connectionTask = .flush call rest →
    s.flush.drained = s.flush.handed ++ call.msg :: rest
      ∧ s.flush.returned = []
  flushes : ∀ f ∈ s.flushes, f.handed = f.drained ∧ f.returned = []

/-- What was flushed in a safe run was flushed in order. -/
theorem Flush.inOrder {f : Flush} (h : f.handed = f.drained ∧ f.returned = []) :
    f.InOrder := by
  obtain ⟨hhanded, hreturned⟩ := h
  refine ⟨?_, ?_, ?_⟩
  · rw [hhanded]
  · rw [hreturned]
    exact List.nil_sublist _
  · rw [hhanded, hreturned, List.append_nil]

section

variable {s s' : ActorConnection} {t : Task}

/-- The holder of the driver's lock is at its place. -/
theorem heldAt_iff (h : Locked s) {point : SendPoint}
    (hpoint : point ≠ .lockDriver) :
    s.heldAt point = true
      ↔ ∃ t kind call, s.place t = .send kind call ∧ call.point = point := by
  unfold ActorConnection.heldAt
  constructor
  · intro hheld
    split at hheld
    · next t _ =>
      split at hheld
      · next call hcall =>
        obtain ⟨kind, hp⟩ := ActorConnection.sendMsg?_eq_some.mp hcall
        exact ⟨t, kind, call, hp, of_decide_eq_true hheld⟩
      · cases hheld
    · cases hheld
  · intro hex
    obtain ⟨t, kind, call, hp, hcall⟩ := hex
    have hlock : s.driverLock = some t := by
      apply (h.driver t).mpr
      show (s.place t).holdsDriver = true
      rw [hp]
      simp [Place.holdsDriver, hcall, hpoint]
    have hsend : s.sendMsg? t = some call :=
      ActorConnection.sendMsg?_eq_some.mpr ⟨kind, hp⟩
    rw [hlock]
    dsimp only
    rw [hsend]
    exact decide_eq_true hcall

-- ============================================================ quiet steps

/-- A quiet step that leaves the driver. -/
theorem Flowing.quiet (h : Flowing s) (hs : QuietStep s s' t)
    (hdriver : s'.driver = s.driver)
    (hhas : s'.connectionTask.hasDriver = s.connectionTask.hasDriver)
    (hover : s'.connectionTask.isOver = true → s'.driverTask.isEnded = true)
    (hroom : s'.incoming.length ≤ capacity)
    (hqueue : ∀ t', t' ≠ t → ∀ kind call, s.place t' = .send kind call →
      call.point = .lockQueue → s'.connectionTask.isFlush = false)
    (hchannels : s'.driverBlocked = true → capacity ≤ s'.outgoing.length →
      ∀ t', t' ≠ t → ∀ kind call, s.place t' = .send kind call →
        call.point = .send → s'.connectionTask.inOnMessage = false)
    (hflushing : ∀ call rest, s'.connectionTask = .flush call rest →
      s'.flush.drained = s'.flush.handed ++ call.msg :: rest
        ∧ s'.flush.returned = [])
    (hflushes : ∀ f ∈ s'.flushes, f.handed = f.drained ∧ f.returned = []) :
    Flowing s' where
  locked := h.locked.step hs.toTaskStep
  calls := by
    intro t' kind call hp
    by_cases ht : t' = t
    · rw [ht] at hp
      obtain ⟨hpoint, hephemeral⟩ := hs.fresh kind call hp
      refine ⟨hephemeral, ?_⟩
      intro hqueue
      rw [hpoint] at hqueue
      cases hqueue
    · rw [hs.other t' ht] at hp
      exact h.calls t' kind call hp
  present := by
    intro t' kind call hp hpoint
    have hkept := hs.kept hp (by rw [hpoint]; nofun)
    rw [hdriver]
    exact h.present t' kind call hkept.2 hpoint
  driver := by rw [hdriver, hhas, h.driver]
  ended := hover
  room := hroom
  queue := by
    intro t' kind call hp hpoint
    have hkept := hs.kept hp (by rw [hpoint]; nofun)
    exact hqueue t' hkept.1 kind call hkept.2 hpoint
  channels := by
    intro hblocked hfull t' kind call hp hpoint
    have hkept := hs.kept hp (by rw [hpoint]; nofun)
    exact hchannels hblocked hfull t' hkept.1 kind call hkept.2 hpoint
  flushing := hflushing
  flushes := hflushes

/-- A step of a caller outside `send_msg`. -/
theorem Flowing.caller (h : Flowing s) (hs : QuietStep s s' t)
    (hdriver : s'.driver = s.driver)
    (hconnection : s'.connectionTask = s.connectionTask)
    (htask : s'.driverTask = s.driverTask)
    (hincoming : s'.incoming = s.incoming)
    (houtgoing : s'.outgoing = s.outgoing) (hflush : s'.flush = s.flush)
    (hflushes : s'.flushes = s.flushes) : Flowing s' := by
  have hblocked : s'.driverBlocked = s.driverBlocked := by
    unfold ActorConnection.driverBlocked
    rw [htask, hincoming]
  refine h.quiet hs hdriver (by rw [hconnection]) ?_ ?_ ?_ ?_ ?_ ?_
  · rw [hconnection, htask]
    exact h.ended
  · rw [hincoming]
    exact h.room
  · rw [hconnection]
    exact fun t' _ => h.queue t'
  · rw [hblocked, houtgoing, hconnection]
    exact fun hblocked hfull t' _ => h.channels hblocked hfull t'
  · rw [hconnection, hflush]
    exact h.flushing
  · rw [hflushes]
    exact h.flushes

/-- A step of the connection task outside `send_msg` that leaves the
driver and does not come to flush. -/
theorem Flowing.connection (h : Flowing s) (hs : QuietStep s s' t)
    (hdriver : s'.driver = s.driver)
    (hhas : s'.connectionTask.hasDriver = s.connectionTask.hasDriver)
    (hover : s'.connectionTask.isOver = true → s'.driverTask.isEnded = true)
    (hroom : s'.incoming.length ≤ capacity)
    (hflush : s'.connectionTask.isFlush = false)
    (hchannels : s'.driverBlocked = true → capacity ≤ s'.outgoing.length →
      ∀ t kind call, s.place t = .send kind call → call.point = .send →
        s'.connectionTask.inOnMessage = false)
    (hflushes : s'.flushes = s.flushes) : Flowing s' := by
  refine h.quiet hs hdriver hhas hover hroom (fun _ _ _ _ _ _ => hflush)
    (fun hblocked hfull t' _ => hchannels hblocked hfull t') ?_ ?_
  · intro call rest hc
    rw [hc] at hflush
    cases hflush
  · rw [hflushes]
    exact h.flushes

/-- A step of the driver task. -/
theorem Flowing.task (h : Flowing s)
    (hplace : ∀ t, s'.place t = s.place t)
    (hdriverLock : s'.driverLock = s.driverLock)
    (hqueueLock : s'.queueLock = s.queueLock)
    (hsubscriptionsLock : s'.subscriptionsLock = s.subscriptionsLock)
    (hdriver : s'.driver = s.driver)
    (hconnection : s'.connectionTask = s.connectionTask)
    (hover : s.driverTask.isEnded = true → s'.driverTask.isEnded = true)
    (hroom : s'.incoming.length ≤ capacity)
    (hchannels : s'.driverBlocked = true → capacity ≤ s'.outgoing.length →
      ∀ t kind call, s.place t = .send kind call → call.point = .send →
        s'.connectionTask.inOnMessage = false)
    (hflush : s'.flush = s.flush) (hflushes : s'.flushes = s.flushes) :
    Flowing s' := by
  refine h.quiet (.of_same hplace hdriverLock hqueueLock hsubscriptionsLock)
    hdriver (by rw [hconnection]) ?_ hroom ?_
    (fun hblocked hfull t' _ => hchannels hblocked hfull t') ?_ ?_
  · intro hc
    rw [hconnection] at hc
    exact hover (h.ended hc)
  · rw [hconnection]
    exact fun t' _ => h.queue t'
  · rw [hconnection, hflush]
    exact h.flushing
  · rw [hflushes]
    exact h.flushes

end

-- ============================================================ in send_msg

section

variable {s : ActorConnection} {t : Task} {kind : SendKind}
variable {call : SendMsg} {point : SendPoint}

/-- Beside a task that can have the driver's lock, none has it. -/
theorem Locked.alone (h : Locked s) (hp : s.place t = .send kind call)
    (hheld : call.point ≠ .lockDriver ∨ s.driverLock = none) {t' : Task}
    {kind' : SendKind} {call' : SendMsg}
    (hp' : s.place t' = .send kind' call')
    (hpoint : call'.point ≠ .lockDriver) : t' = t := by
  have hholds' : (s.place t').holdsDriver = true := by
    rw [hp']
    simp [Place.holdsDriver, hpoint]
  rcases hheld with hheld | hfree
  · have hholds : (s.place t).holdsDriver = true := by
      rw [hp]
      simp [Place.holdsDriver, hheld]
    exact h.driver.unique hholds' hholds
  · have hfalse : (s.place t').holdsDriver = false := h.driver.free hfree t'
    rw [hfalse] at hholds'
    cases hholds'

/-- A task goes to its send, or to the lock of the queue. -/
theorem Flowing.moveOn (h : Flowing s) (hp : s.place t = .send kind call)
    (hheld : call.point ≠ .lockDriver ∨ s.driverLock = none)
    (hpoint : point ≠ .lockDriver)
    (hpresent : point = .send → s.driver = true)
    (hephemeral : point = .lockQueue → call.ephemeral = false)
    (hqueue : point = .lockQueue → s.connectionTask.isFlush = false)
    (hchannels : point = .send → s.driverBlocked = true →
      capacity ≤ s.outgoing.length → s.connectionTask.inOnMessage = false) :
    Flowing ({ s with driverLock := some t }.setSendMsg t
      { call with point }) := by
  have hstep := setSendMsg_step h.locked hp hheld hpoint
  have hnew : ({ s with driverLock := some t }.setSendMsg t
      { call with point }).place t = .send kind { call with point } :=
    ActorConnection.place_setSendMsg (s := { s with driverLock := some t }) hp
  have hloop := @ActorConnection.setSendMsg_loop
    { s with driverLock := some t } t { call with point }
  obtain ⟨connectionTask, callers, heq⟩ :=
    { s with driverLock := some t }.setSendMsg_eq t { call with point }
  rw [heq] at hstep hnew hloop ⊢
  have hloop : connectionTask = s.connectionTask
      ∨ (∃ call₀ rest, s.connectionTask = .subscribe call₀ rest
        ∧ connectionTask = .subscribe { call with point } rest)
      ∨ (∃ call₀ rest, t = .connection ∧ s.connectionTask = .flush call₀ rest
        ∧ connectionTask = .flush { call with point } rest) := hloop
  have hhas : connectionTask.hasDriver = s.connectionTask.hasDriver
      ∧ connectionTask.isOver = s.connectionTask.isOver
      ∧ connectionTask.isFlush = s.connectionTask.isFlush
      ∧ connectionTask.inOnMessage = s.connectionTask.inOnMessage := by
    rcases hloop with hsame | ⟨_, _, hold, hsub⟩ | ⟨_, _, _, hold, hflush⟩
    · rw [hsame]
      exact ⟨rfl, rfl, rfl, rfl⟩
    · rw [hold, hsub]
      exact ⟨rfl, rfl, rfl, rfl⟩
    · rw [hold, hflush]
      exact ⟨rfl, rfl, rfl, rfl⟩
  -- whoever else is in a `send_msg` has not the lock of the driver
  have hothers : ∀ t' kind' call', t' ≠ t →
      s.place t' = .send kind' call' → call'.point = .lockDriver := by
    intro t' kind' call' ht' hp'
    by_cases hpoint' : call'.point = .lockDriver
    · exact hpoint'
    · exact absurd (h.locked.alone hp hheld hp' hpoint') ht'
  refine ⟨h.locked.step hstep, ?_, ?_, ?_, ?_, h.room, ?_, ?_, ?_, h.flushes⟩
  · intro t' kind' call' hp'
    by_cases ht' : t' = t
    · rw [ht', hnew] at hp'
      injection hp' with hkind hcall
      rw [← hkind, ← hcall]
      exact ⟨(h.calls t kind call hp).1, hephemeral⟩
    · rw [hstep.other t' ht'] at hp'
      exact h.calls t' kind' call' hp'
  · intro t' kind' call' hp' hsend
    by_cases ht' : t' = t
    · rw [ht', hnew] at hp'
      injection hp' with hkind hcall
      rw [← hcall] at hsend
      exact hpresent hsend
    · rw [hstep.other t' ht'] at hp'
      exact h.present t' kind' call' hp' hsend
  · show s.driver = _
    rw [hhas.1]
    exact h.driver
  · intro hover
    rw [hhas.2.1] at hover
    exact h.ended hover
  · intro t' kind' call' hp' hatQueue
    by_cases ht' : t' = t
    · rw [ht', hnew] at hp'
      injection hp' with hkind hcall
      rw [← hcall] at hatQueue
      show connectionTask.isFlush = false
      rw [hhas.2.2.1]
      exact hqueue hatQueue
    · rw [hstep.other t' ht'] at hp'
      rw [hothers t' kind' call' ht' hp'] at hatQueue
      cases hatQueue
  · intro hblocked hfull t' kind' call' hp' hsend
    by_cases ht' : t' = t
    · rw [ht', hnew] at hp'
      injection hp' with hkind hcall
      rw [← hcall] at hsend
      show connectionTask.inOnMessage = false
      rw [hhas.2.2.2]
      exact hchannels hsend hblocked hfull
    · rw [hstep.other t' ht'] at hp'
      rw [hothers t' kind' call' ht' hp'] at hsend
      cases hsend
  · intro call₁ rest₁ hc
    have hc : connectionTask = .flush call₁ rest₁ := hc
    rcases hloop with hsame | ⟨_, _, _, hsub⟩ | ⟨call₀, rest, ht, hold, hflush⟩
    · rw [hsame] at hc
      exact h.flushing call₁ rest₁ hc
    · rw [hsub] at hc
      cases hc
    · -- the message of the loop stays
      have hmsg : call₀ = call := by
        rw [ht] at hp
        unfold ActorConnection.place at hp
        dsimp only at hp
        rw [hold] at hp
        injection hp
      rw [hflush] at hc
      injection hc with hcall hrest
      rw [← hcall, ← hrest]
      have hflushing := h.flushing call₀ rest hold
      rw [hmsg] at hflushing
      exact hflushing

/-- A `send_msg` returns. Where it was one of the loop over the queue, the
loop has noted its message. -/
theorem Flowing.returns (h : Flowing s) (hp : s.place t = .send kind call)
    (hheld : call.point ≠ .lockDriver ∨ s.driverLock = none)
    (outgoing msgQueue : List ToServer) (handed : List Int) (flush : Flush)
    (hloop : ∀ rest, s.connectionTask = .flush call rest → kind = .flush →
      flush.drained = flush.handed ++ rest ∧ flush.returned = [])
    (hother : kind ≠ .flush → flush = s.flush) :
    Flowing ({ s with outgoing, msgQueue, handed, flush }.sendReturns t) := by
  have hlocked : Locked { s with outgoing, msgQueue, handed, flush } :=
    ⟨h.locked.driver, h.locked.queue, h.locked.subscriptions⟩
  have hquiet : QuietStep s
      ({ s with outgoing, msgQueue, handed, flush }.sendReturns t) t := by
    have hstep := sendReturns_step
      (s := { s with outgoing, msgQueue, handed, flush }) hlocked hp hheld
    exact ⟨⟨hstep.other, hstep.driver, hstep.queue, hstep.subscriptions,
      hstep.driverLock, hstep.queueLock, hstep.subscriptionsLock⟩,
      hstep.fresh⟩
  have halone : ∀ t' kind' call', t' ≠ t →
      s.place t' = .send kind' call' → call'.point = .lockDriver := by
    intro t' kind' call' ht' hp'
    by_cases hpoint' : call'.point = .lockDriver
    · exact hpoint'
    · exact absurd (h.locked.alone hp hheld hp' hpoint') ht'
  have hqueue : ∀ t', t' ≠ t → ∀ kind' call',
      s.place t' = .send kind' call' → call'.point = .lockQueue →
      ({ s with outgoing, msgQueue, handed, flush }.sendReturns
        t).connectionTask.isFlush = false := by
    intro t' ht' kind' call' hp' hpoint'
    rw [halone t' kind' call' ht' hp'] at hpoint'
    cases hpoint'
  have hchannels : ∀ t', t' ≠ t → ∀ kind' call',
      s.place t' = .send kind' call' → call'.point = .send →
      ({ s with outgoing, msgQueue, handed, flush }.sendReturns
        t).connectionTask.inOnMessage = false := by
    intro t' ht' kind' call' hp' hpoint'
    rw [halone t' kind' call' ht' hp'] at hpoint'
    cases hpoint'
  by_cases hkind : kind = .flush
  · rw [hkind] at hp
    obtain ⟨ht, rest, hc⟩ := ActorConnection.place_flush hp
    have heq : { s with outgoing, msgQueue, handed, flush }.sendReturns t
        = { s with outgoing, msgQueue, handed, flush,
                   driverLock := none }.nextMessage rest := by
      rw [ht]
      exact ActorConnection.sendReturns_flush
        (s := { s with outgoing, msgQueue, handed, flush }) hc
    obtain ⟨hdrained, hreturned⟩ := hloop rest hc hkind
    rw [heq] at hquiet hqueue hchannels ⊢
    cases rest with
    | nil =>
        refine h.quiet hquiet rfl (by rw [hc]; rfl) nofun h.room hqueue
          (fun _ _ => hchannels) nofun ?_
        intro f hf
        rcases List.mem_append.mp hf with hf | hf
        · exact h.flushes f hf
        · rw [List.mem_singleton.mp hf]
          rw [List.append_nil] at hdrained
          exact ⟨hdrained.symm, hreturned⟩
    | cons msg rest =>
        refine h.quiet hquiet rfl (by rw [hc]; rfl) nofun h.room hqueue
          (fun _ _ => hchannels) ?_ h.flushes
        intro call₁ rest₁ hc₁
        injection hc₁ with hcall hrest
        rw [← hcall, ← hrest]
        exact ⟨hdrained, hreturned⟩
  · obtain ⟨halong, hflushes⟩ := ActorConnection.sendReturns_along
      (s := { s with outgoing, msgQueue, handed, flush }) hp hkind
    obtain ⟨connectionTask, callers, queueLock, subscriptionsLock, flushes,
      heq⟩ := { s with outgoing, msgQueue, handed, flush }.sendReturns_eq t
    rw [heq] at hquiet hqueue hchannels halong hflushes ⊢
    have hflushes : flushes = s.flushes := hflushes
    have halong : Along s.connectionTask connectionTask := halong
    refine h.quiet hquiet rfl halong.hasDriver ?_ h.room hqueue
      (fun _ _ => hchannels) ?_ ?_
    · intro hover
      have hover : connectionTask.isOver = true := hover
      rw [halong.isOver] at hover
      exact h.ended hover
    · intro call₁ rest₁ hc
      rw [hother hkind]
      exact h.flushing call₁ rest₁ (halong.flush hc)
    · intro f hf
      have hf : f ∈ flushes := hf
      rw [hflushes] at hf
      exact h.flushes f hf

end

end RivetKit.RustClient
