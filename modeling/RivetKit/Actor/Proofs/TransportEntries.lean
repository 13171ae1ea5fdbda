/-
The entries of `websockets` and `sseStreams` against the connections of
the actor.

An entry is set before `createConn` and deleted with the connection, by
the callback of `onClose` or the abort of the stream. Two things leave an
entry behind (`Clean` excludes them): a WebSocket whose `createConn`
throws, for its `catch` deletes nothing; and a connection that the sweep
removes although no close event or abort is still to come that would
delete its entry.

# Sections

  - the contract and the condition
  - one operation, one step
  - every run
-/
import RivetKit.Actor.Proofs.Disconnects

namespace RivetKit.Actor

open Transition

-- ============================================ the contract, the condition

namespace Connect

/-- Nothing of a connection is under way: its handler is not between two
steps, and a WebSocket that is not open has had its close event handled,
if it has one. -/
def Quiet (k : Connect) : Prop :=
  k.phase ≠ .preparing ∧ k.phase ≠ .created
    ∧ (k.driver = .webSocket → k.phase ≠ .restored →
        k.closeEvent ≠ .waiting
          ∧ (k.inline = false → k.socket ≠ .opened →
            k.closeEvent = .handled))

/-- An entry belongs to a connection that is present, and a connection
that is present has an entry if its transport is open. -/
def Matched (k : Connect) : Prop :=
  (k.entry = true → k.present = true)
    ∧ (k.present = true → k.driver ≠ .http → k.socket = .opened →
        k.entry = true)

/-- The condition on an operation: `createConn` does not throw for a
WebSocket; and the sweep removes a connection that has an entry only if
it is a WebSocket whose close event is still to come, or still to be
handled. -/
def Clean (timeout now : Nat) (ready : Bool) (k : Connect) :
    ConnectOp → Prop
  | .create _ initFails =>
      k.driver = .webSocket → ready = true ∧ initFails = false
  | .checkLiveness =>
      isConnectionClosed k.readyState = true →
        timeout ≤ now - k.lastSeen → k.entry = true →
          k.driver = .webSocket
            ∧ (k.inline = false ∨ k.closeEvent = .waiting)
  | _ => True

instance (timeout now : Nat) (ready : Bool) (k : Connect) :
    (o : ConnectOp) → Decidable (k.Clean timeout now ready o)
  | .create _ _ => inferInstanceAs (Decidable (_ → _))
  | .checkLiveness => inferInstanceAs (Decidable (_ → _ → _ → _))
  | .prepareFails => .isTrue trivial
  | .resume => .isTrue trivial
  | .socketClosing => .isTrue trivial
  | .socketClose => .isTrue trivial
  | .onClose => .isTrue trivial
  | .messageFails => .isTrue trivial
  | .abort => .isTrue trivial
  | .finish => .isTrue trivial
  | .disconnect => .isTrue trivial

end Connect

namespace ConnectedActor

/-- Nothing is under way. -/
def Quiescent (s : ConnectedActor) : Prop :=
  ∀ k ∈ s.connects, k.Quiet

/-- No leaked entry in a quiescent state, and none missing. -/
def EntriesMatch (s : ConnectedActor) : Prop :=
  s.Quiescent → ∀ k ∈ s.connects, k.Matched

/-- `Connect.Clean` of the operation of a step. -/
def CleanStep (timeout : Nat) (s : ConnectedActor) : TransportStep → Prop
  | .op c o => ∀ k ∈ s.connects[c]?, k.Clean timeout s.now s.ready o
  | _ => True

instance (timeout : Nat) (s : ConnectedActor) :
    (l : TransportStep) → Decidable (s.CleanStep timeout l)
  | .op c o => inferInstanceAs
      (Decidable (∀ k ∈ s.connects[c]?, k.Clean timeout s.now s.ready o))
  | .connect _ _ => .isTrue trivial
  | .advance _ => .isTrue trivial
  | .stop => .isTrue trivial

end ConnectedActor

namespace Connect

/-- What a run keeps of each connection: an entry stands for a handler
between `createConn` and its end, whose connection is present or will
have its close event handled. -/
structure Tidy (k : Connect) : Prop where
  entry : k.entry = true ↔
    k.driver ≠ .http ∧ (k.phase = .created ∨ k.phase = .connected)
  present : k.present = true → k.driver ≠ .http →
    k.entry = true ∨ k.socket ≠ .opened
  gone : k.entry = true → k.present = true
    ∨ (k.driver = .webSocket ∧ k.socket ≠ .opened
      ∧ (k.inline = false ∨ k.closeEvent = .waiting))
  waiting : k.phase = .preparing ∨ k.entry = true →
    k.closeEvent ≠ .handled

/-- A handler behind `createConn` is not a restored connection. -/
theorem Tidy.matched {k : Connect} (h : k.Tidy) (hquiet : k.Quiet) :
    k.Matched := by
  constructor
  · intro hentry
    rcases h.gone hentry with hpresent | ⟨hdriver, hsocket, hend⟩
    · exact hpresent
    · exfalso
      have hphase : k.phase ≠ .restored := by
        rcases (h.entry.1 hentry).2 with hp | hp
        · simp [hp]
        · simp [hp]
      obtain ⟨hwaiting, hhandled⟩ := hquiet.2.2 hdriver hphase
      rcases hend with hinline | hw
      · exact h.waiting (Or.inr hentry) (hhandled hinline hsocket)
      · exact hwaiting hw
  · intro hpresent hdriver hopen
    rcases h.present hpresent hdriver with hentry | hsocket
    · exact hentry
    · exact absurd hopen hsocket

-- ========================================================= one operation

/-- A connection without an entry whose transport, if it is present, is
closed. -/
theorem tidy_without {k : Connect} (hentry : k.entry = false)
    (hphase : k.driver = .http
      ∨ k.phase ≠ .created ∧ k.phase ≠ .connected)
    (hpresent : k.present = true → k.driver ≠ .http → k.socket ≠ .opened)
    (hwaiting : k.phase = .preparing → k.closeEvent ≠ .handled) :
    k.Tidy where
  entry := by
    rw [hentry]
    constructor
    · intro h
      cases h
    · rintro ⟨hdriver, hp⟩
      rcases hphase with hhttp | ⟨hc, ho⟩
      · exact absurd hhttp hdriver
      · rcases hp with hp | hp
        · exact absurd hp hc
        · exact absurd hp ho
  present hp hdriver := Or.inr (hpresent hp hdriver)
  gone h := by
    rw [hentry] at h
    cases h
  waiting := by
    rintro (hp | h)
    · exact hwaiting hp
    · rw [hentry] at h
      cases h

/-- A connection with an entry, behind `createConn`. -/
theorem tidy_created {k : Connect} (hentry : k.entry = true)
    (hdriver : k.driver ≠ .http)
    (hphase : k.phase = .created ∨ k.phase = .connected)
    (hpresent : k.present = true) (hwaiting : k.closeEvent ≠ .handled) :
    k.Tidy where
  entry := ⟨fun _ => ⟨hdriver, hphase⟩, fun _ => hentry⟩
  present _ _ := Or.inl hentry
  gone _ := Or.inl hpresent
  waiting _ := hwaiting

/-- The socket closes, or the status changes. -/
theorem Tidy.closes {k : Connect} (h : k.Tidy)
    {socket : ConnectionReadyState} {status : ConnectionStatus}
    {aborted : Bool} (hsocket : socket = .opened → k.socket = .opened) :
    ({ k with socket := socket, status := status,
              aborted := aborted } : Connect).Tidy where
  entry := h.entry
  present hp hdriver := by
    rcases h.present hp hdriver with hentry | hs
    · exact Or.inl hentry
    · exact Or.inr fun ho => hs (hsocket ho)
  gone hentry := by
    rcases h.gone hentry with hp | ⟨hdriver, hs, hend⟩
    · exact Or.inl hp
    · exact Or.inr ⟨hdriver, fun ho => hs (hsocket ho), hend⟩
  waiting := h.waiting

/-- The `catch` of a handler whose entry is gone with it. -/
theorem tidy_connectFails {k : Connect}
    (hentry : k.driver = .sse ∨ k.entry = false) : k.connectFails.Tidy := by
  obtain ⟨entry, socket, heq, hsocket, hsse⟩ := connectFails_eq k
  have hnone : k.connectFails.entry = false := by
    rcases hentry with hdriver | hentry
    · rw [heq]
      exact hsse hdriver
    · unfold connectFails
      split
      · obtain ⟨socket, heq, -⟩ := closeSocket_eq { k with phase := .failed }
        rw [heq]
        exact hentry
      · rfl
      · exact hentry
  rw [heq] at hnone ⊢
  apply tidy_without
  · exact hnone
  · exact Or.inr ⟨by simp, by simp⟩
  · intro _ hdriver
    exact hsocket hdriver
  · intro hp
    cases hp

/-- No entry in front of `createConn`. -/
theorem Tidy.no_entry {k : Connect} (h : k.Tidy)
    (hphase : k.phase ≠ .created ∧ k.phase ≠ .connected) :
    k.entry = false := by
  rw [Bool.eq_false_iff]
  intro hentry
  rcases (h.entry.1 hentry).2 with hp | hp
  · exact hphase.1 hp
  · exact hphase.2 hp

/-- `createConn`, with what comes before and behind it. -/
theorem Tidy.create {k : Connect} {ready : Bool} {timeout now : Nat}
    {disconnects initFails : Bool} (h : k.Tidy)
    (hok : k.Clean timeout now ready (.create disconnects initFails))
    (hphase : k.phase = .preparing) :
    (k.create ready now disconnects initFails).Tidy := by
  have hwaiting := h.waiting (Or.inl hphase)
  rcases create_cases k ready now disconnects initFails with
    ⟨hready, heq⟩ | ⟨status, socket, k₁, rfl, ⟨hfails, hdriver, heq⟩ | heq⟩
  · rw [heq]
    apply tidy_connectFails
    cases hdriver : k.driver with
    | webSocket =>
        exact absurd ((hok hdriver).1.symm.trans hready) (by simp)
    | sse => exact Or.inl rfl
    | http => exact Or.inr (by simp)
  · rw [heq]
    apply tidy_connectFails
    cases hd : k.driver with
    | webSocket => exact absurd ((hok hd).2.symm.trans hfails) (by simp)
    | sse => exact Or.inl rfl
    | http => exact absurd hd hdriver
  · rw [heq]
    by_cases hhttp : k.driver = .http
    · apply tidy_without
      · simp [hhttp]
      · exact Or.inl hhttp
      · intro _ hdriver
        exact absurd hhttp hdriver
      · intro hp
        cases hp
    · apply tidy_created
      · simp [hhttp]
      · exact hhttp
      · exact Or.inl rfl
      · rfl
      · exact hwaiting

/-- A probe keeps the entries tidy under the condition. -/
theorem Tidy.checkLiveness {k : Connect} {ready : Bool} {timeout now : Nat}
    (h : k.Tidy) (hok : k.Clean timeout now ready .checkLiveness) :
    (k.checkLiveness timeout now).Tidy := by
  unfold Connect.checkLiveness
  split
  · next hclosed =>
    dsimp only
    split
    · exact h.closes id
    · next hstale =>
      have hremoved : k.entry = true → k.driver = .webSocket
          ∧ k.socket ≠ .opened
          ∧ (k.inline = false ∨ k.closeEvent = .waiting) := by
        intro hentry
        obtain ⟨hdriver, hend⟩ := hok hclosed (by omega) hentry
        refine ⟨hdriver, ?_, hend⟩
        intro hopen
        simp [isConnectionClosed, readyState, getConnectionReadyState,
          hdriver, hentry, hopen] at hclosed
      constructor
      · exact h.entry
      · intro hp
        cases hp
      · intro hentry
        exact Or.inr (hremoved hentry)
      · exact h.waiting
  · exact ⟨h.entry, h.present, h.gone, h.waiting⟩

/-- One operation under the condition. -/
theorem Tidy.apply {k k' : Connect} {timeout now : Nat} {ready : Bool}
    {o : ConnectOp} (h : k.Tidy) (hok : k.Clean timeout now ready o)
    (hstep : k.apply timeout now ready o = some k') : k'.Tidy := by
  cases o with
  | prepareFails =>
      simp only [Connect.apply] at hstep
      split at hstep
      · next hphase =>
        rw [← Option.some.inj hstep]
        apply tidy_connectFails
        exact Or.inr (h.no_entry (by simp [hphase]))
      · cases hstep
  | create disconnects initFails =>
      simp only [Connect.apply] at hstep
      split at hstep
      · next hphase =>
        rw [← Option.some.inj hstep]
        exact h.create hok hphase
      · cases hstep
  | resume =>
      simp only [Connect.apply] at hstep
      split at hstep
      · next hphase =>
        rw [← Option.some.inj hstep]
        constructor
        · rw [h.entry]
          simp [hphase]
        · exact h.present
        · exact h.gone
        · rintro (hp | hentry)
          · cases hp
          · exact h.waiting (Or.inr hentry)
      · cases hstep
  | socketClosing =>
      simp only [Connect.apply] at hstep
      split at hstep
      · rw [← Option.some.inj hstep]
        have hclosing : (ConnectionReadyState.closing = .opened →
            k.socket = .opened) := by simp
        exact h.closes hclosing
      · cases hstep
  | socketClose =>
      simp only [Connect.apply] at hstep
      split at hstep
      · next hsocket =>
        rw [← Option.some.inj hstep]
        constructor
        · exact h.entry
        · intro _ _
          exact Or.inr (by simp)
        · intro _
          rcases h.gone ‹_› with hp | hgone
          · exact Or.inl hp
          · exact Or.inr ⟨hgone.1, by simp, Or.inr rfl⟩
        · intro _
          simp
      · cases hstep
  | onClose =>
      simp only [Connect.apply] at hstep
      split at hstep
      · split at hstep
        · rw [← Option.some.inj hstep]
          apply tidy_without
          · rfl
          · exact Or.inr ⟨by simp [Connect.removeConn],
              by simp [Connect.removeConn]⟩
          · intro hp
            cases hp
          · intro hp
            cases hp
        · next hphase =>
          rw [← Option.some.inj hstep]
          have hentry := h.no_entry (by simp [hphase])
          apply tidy_without
          · exact hentry
          · exact Or.inr ⟨by simp [hphase], by simp [hphase]⟩
          · intro hp hdriver
            rcases h.present hp hdriver with he | hs
            · rw [hentry] at he
              cases he
            · exact hs
          · intro hp
            rw [hphase] at hp
            cases hp
        · cases hstep
      · cases hstep
  | messageFails =>
      simp only [Connect.apply] at hstep
      split at hstep
      · rw [← Option.some.inj hstep]
        obtain ⟨socket, heq, hsocket⟩ := closeSocket_eq k
        rw [heq]
        exact h.closes fun ho => absurd ho hsocket
      · cases hstep
  | abort =>
      simp only [Connect.apply] at hstep
      split at hstep
      · split at hstep
        · rw [← Option.some.inj hstep]
          apply tidy_without
          · rfl
          · exact Or.inr ⟨by simp [Connect.removeConn],
              by simp [Connect.removeConn]⟩
          · intro hp
            cases hp
          · intro hp
            cases hp
        · rw [← Option.some.inj hstep]
          have hclosed : (ConnectionReadyState.closed = .opened →
              k.socket = .opened) := by simp
          exact h.closes hclosed
      · cases hstep
  | finish =>
      simp only [Connect.apply] at hstep
      split at hstep
      · next hhttp =>
        rw [← Option.some.inj hstep]
        apply tidy_without
        · show k.entry = false
          rw [Bool.eq_false_iff]
          intro hentry
          exact (h.entry.1 hentry).1 hhttp.1
        · exact Or.inl hhttp.1
        · intro hp
          cases hp
        · intro hp
          cases hp
      · cases hstep
  | disconnect =>
      simp only [Connect.apply] at hstep
      split at hstep
      · rw [← Option.some.inj hstep]
        obtain ⟨socket, heq, hsocket⟩ := disconnect_eq k
        rw [heq]
        exact h.closes hsocket
      · cases hstep
  | checkLiveness =>
      simp only [Connect.apply] at hstep
      split at hstep
      · rw [← Option.some.inj hstep]
        exact h.checkLiveness hok
      · cases hstep

end Connect

-- ============================================================ every run

namespace ConnectedActor

variable {timeout : Nat}

/-- What a run keeps. -/
def TidyAll (s : ConnectedActor) : Prop :=
  ∀ k ∈ s.connects, k.Tidy

/-- An initial state. -/
theorem tidyAll_init {s : ConnectedActor}
    (h : (system timeout).init s) : s.TidyAll := by
  intro k hk
  obtain ⟨hphase, hsocket, hclose, hentry, -, -, -⟩ := h.2 k hk
  apply Connect.tidy_without
  · exact hentry
  · rw [hphase]
    exact Or.inr ⟨by simp, by simp⟩
  · intro _ _
    rw [hsocket]
    simp
  · intro _
    rw [hclose]
    simp

/-- One step. -/
theorem TidyAll.step {s s' : ConnectedActor} {l : TransportStep}
    (h : s.TidyAll) (hok : s.CleanStep timeout l)
    (hstep : ConnectedActor.step timeout s l = some s') : s'.TidyAll := by
  cases l with
  | connect driver inline =>
      rw [← Option.some.inj hstep]
      intro k hk
      rcases List.mem_append.1 hk with hold | hnew
      · exact h k hold
      · rw [List.mem_singleton.1 hnew]
        apply Connect.tidy_without
        · rfl
        · exact Or.inr ⟨by simp, by simp⟩
        · intro hp
          cases hp
        · intro _
          simp
  | op c o =>
      obtain ⟨k, k', hk, hk', rfl⟩ := step_op_cases hstep
      have htidy := h k (List.mem_of_getElem? hk)
      intro x hx
      rcases List.mem_or_eq_of_mem_set hx with hold | hnew
      · exact h x hold
      · rw [hnew]
        exact htidy.apply (hok k hk) hk'
  | advance d =>
      rw [← Option.some.inj hstep]
      exact h
  | stop =>
      rw [← Option.some.inj hstep]
      exact h

end ConnectedActor

open ConnectedActor

/-- In every run under the condition a quiescent state has no entry
without its connection, and no connection with an open transport without
an entry. -/
theorem entries_match {timeout : Nat} {s : ConnectedActor}
    (h : (system timeout).Reaches (CleanStep timeout) s) :
    s.EntriesMatch := by
  have htidy : s.TidyAll := by
    apply System.Reaches.invariant _ _ h
    · intro s₀ hs₀
      exact tidyAll_init hs₀
    · intro s₁ l s₂ _ hinv hok hstep
      exact hinv.step hok hstep
  intro hquiet k hk
  exact (htidy k hk).matched (hquiet k hk)

/-- A socket that closes, one whose preparation fails, a stream whose
`Init` cannot be sent and a stream that stays. -/
def settledTransports : List TransportStep :=
  [.connect .webSocket false, .connect .webSocket false,
    .connect .sse false, .connect .sse false, .op 0 (.create false false),
    .op 1 .prepareFails, .op 2 (.create false true),
    .op 3 (.create false false), .op 0 .resume, .op 3 .resume,
    .op 0 .socketClose, .op 0 .onClose, .op 1 .socketClose,
    .op 1 .onClose, .advance 2500, .op 2 .checkLiveness,
    .op 3 .checkLiveness]

/-- The condition admits that run; one entry is left, of the stream that
stays. -/
theorem entries_match_settled :
    ∃ s, (system 2500).run ⟨[], true, 0⟩ settledTransports = some s
      ∧ s.connects.map (·.entry) = [false, false, false, true]
      ∧ s.EntriesMatch := by
  refine ⟨_, rfl, rfl, @entries_match 2500 _ ?_⟩
  refine System.Reaches.run settledTransports
    (.init (s := ⟨[], true, 0⟩)
      ⟨rfl, fun k hk => absurd hk List.not_mem_nil⟩) ?_ rfl
  decide

/-- A WebSocket that connects to an actor that is going to stop:
`createConn` throws, the socket is closed, and its entry stays. -/
theorem entries_match_fails :
    ¬ ∀ (timeout : Nat) (s : ConnectedActor),
        (system timeout).Reachable s → s.EntriesMatch := by
  intro hall
  have h := hall 2500 _ (System.Reachable.run
    [.connect .webSocket false, .stop, .op 0 (.create false false),
      .op 0 .socketClose, .op 0 .onClose]
    (.init (s := ⟨[], true, 0⟩)
      ⟨rfl, fun k hk => absurd hk List.not_mem_nil⟩) rfl)
  have hquiet : ∀ k ∈ [
      ({ driver := .webSocket, phase := .failed, socket := .closed,
         closeEvent := .handled, entry := true } : Connect)],
      k.Quiet := by
    intro k hk
    rw [List.mem_singleton.1 hk]
    exact ⟨by simp, by simp, fun _ _ => ⟨by simp, fun _ _ => rfl⟩⟩
  have hpresent := (h hquiet _ (List.mem_singleton.2 rfl)).1 rfl
  cases hpresent

end RivetKit.Actor
