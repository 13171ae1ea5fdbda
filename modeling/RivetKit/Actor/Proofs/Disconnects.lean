/-
How often `onDisconnect` runs for a connection.

`__removeConn` does not look whether its connection is still in
`#connections`. The sweep takes its connections from there, and an HTTP
connection is never swept, so what remains is the callback of `onClose`
and the abort of a stream (`RemovesPresent`). `disconnects_once` is exact:
the first of these that finds its connection removed runs the hook a
second time.

# Sections

  - the contract and the condition
  - one operation, one step
  - every run
-/
import RivetKit.Actor.ConnTransports
import RivetKit.Lib.Lists

namespace RivetKit.Actor

open Transition

-- ============================================ the contract, the condition

/-- `onDisconnect` has run at most once, and not without the connection
having been added. -/
def Connect.DisconnectOnce (k : Connect) : Prop :=
  k.disconnects ≤ 1 ∧ (k.disconnects ≠ 0 → k.added = true)

/-- `DisconnectOnce` of every connection. -/
def ConnectedActor.DisconnectsOnce (s : ConnectedActor) : Prop :=
  ∀ k ∈ s.connects, k.DisconnectOnce

/-- The operation removes the connection behind a close event or an
abort. -/
def Connect.Ends (k : Connect) : ConnectOp → Bool
  | .onClose => k.phase = .connected
  | .abort => k.phase = .connected
  | _ => false

/-- A close event or an abort that removes its connection finds it in
`#connections`. -/
def ConnectedActor.RemovesPresent (s : ConnectedActor) :
    TransportStep → Prop
  | .op c o =>
      ∀ k ∈ s.connects[c]?, k.Ends o = true → k.present = true
  | _ => True

instance (s : ConnectedActor) :
    (l : TransportStep) → Decidable (s.RemovesPresent l)
  | .op c _ => inferInstanceAs (Decidable (∀ k ∈ s.connects[c]?, _ → _))
  | .connect _ _ => .isTrue trivial
  | .advance _ => .isTrue trivial
  | .stop => .isTrue trivial

namespace Connect

/-- What a run keeps of each connection: a connection that was added is
present and its hook has not run, or is gone and it has; an HTTP
connection is not gone before its action has ended. -/
structure Counted (k : Connect) : Prop where
  count : k.disconnects = if k.added = true ∧ k.present = false then 1 else 0
  present : k.present = true → k.added = true
  connected : k.phase = .created ∨ k.phase = .connected → k.added = true
  preparing : k.phase = .preparing → k.added = false
  http : k.driver = .http → k.phase = .created ∨ k.phase = .connected →
    k.present = true

/-- The ledger is the contract. -/
theorem Counted.disconnectOnce {k : Connect} (h : k.Counted) :
    k.DisconnectOnce := by
  unfold DisconnectOnce
  rw [h.count]
  split
  · next hgone => exact ⟨by omega, fun _ => hgone.1⟩
  · exact ⟨by omega, fun hne => absurd rfl hne⟩

-- ========================================================= one operation

/-- A new run of a handler. -/
theorem counted_new (driver : ConnectionDriver) (inline : Bool) :
    ({ driver := driver, inline := inline } : Connect).Counted := by
  constructor
  · rfl
  · intro h
    cases h
  · rintro (h | h)
    · cases h
    · cases h
  · intro _
    rfl
  · rintro - (h | h)
    · cases h
    · cases h

/-- Closing the socket changes nothing else. -/
theorem closeSocket_eq (k : Connect) :
    ∃ socket, k.closeSocket = { k with socket := socket }
      ∧ socket ≠ .opened := by
  unfold closeSocket
  cases hsocket : k.socket with
  | connecting =>
      refine ⟨_, rfl, ?_⟩
      cases k.inline <;> simp
  | opened =>
      refine ⟨_, rfl, ?_⟩
      cases k.inline <;> simp
  | closing =>
      refine ⟨.closing, ?_, by simp⟩
      cases k
      cases hsocket
      rfl
  | closed =>
      refine ⟨.closed, ?_, by simp⟩
      cases k
      cases hsocket
      rfl

/-- `disconnect` changes the status and the socket, which it can only
close. -/
theorem disconnect_eq (k : Connect) :
    ∃ socket, k.disconnect
        = { k with status := .reconnecting, socket := socket }
      ∧ (socket = .opened → k.socket = .opened) := by
  unfold disconnect driverDisconnect
  dsimp only
  split
  · split
    · obtain ⟨socket, heq, hsocket⟩ :=
        closeSocket_eq { k with status := .reconnecting }
      exact ⟨socket, heq, fun h => absurd h hsocket⟩
    · exact ⟨k.socket, rfl, id⟩
  · split
    · exact ⟨.closed, rfl, by simp⟩
    · exact ⟨k.socket, rfl, id⟩
  · exact ⟨k.socket, rfl, id⟩

/-- The `catch` changes the phase, the entry of a stream and the socket,
which it closes if there is one. -/
theorem connectFails_eq (k : Connect) :
    ∃ entry socket, k.connectFails
        = { k with phase := .failed, entry := entry, socket := socket }
      ∧ (k.driver ≠ .http → socket ≠ .opened)
      ∧ (k.driver = .sse → entry = false) := by
  unfold connectFails
  split
  · next hdriver =>
    obtain ⟨socket, heq, hsocket⟩ :=
      closeSocket_eq { k with phase := .failed }
    refine ⟨k.entry, socket, heq, fun _ => hsocket, ?_⟩
    rw [hdriver]
    simp
  · exact ⟨false, .closed, rfl, by simp, by simp⟩
  · next hdriver =>
    refine ⟨k.entry, k.socket, rfl, ?_, ?_⟩
    · simp [hdriver]
    · simp [hdriver]

/-- The ledger does not read the socket, the entry or the status. -/
theorem Counted.same {k k' : Connect} (h : k.Counted)
    (hdriver : k'.driver = k.driver) (hphase : k'.phase = k.phase)
    (hpresent : k'.present = k.present) (hadded : k'.added = k.added)
    (hcount : k'.disconnects = k.disconnects) : k'.Counted := by
  constructor
  · rw [hcount, hadded, hpresent]
    exact h.count
  · rw [hpresent, hadded]
    exact h.present
  · rw [hphase, hadded]
    exact h.connected
  · rw [hphase, hadded]
    exact h.preparing
  · rw [hdriver, hphase, hpresent]
    exact h.http

/-- The removal of a connection that is present and no HTTP
connection. -/
theorem Counted.removeConn {k : Connect} (h : k.Counted)
    (hpresent : k.present = true) (hdriver : k.driver ≠ .http) :
    k.removeConn.Counted := by
  have hadded := h.present hpresent
  have hcount := h.count
  unfold Connect.removeConn
  constructor
  · simp [hadded, hcount, hpresent]
  · intro hfalse
    cases hfalse
  · intro _
    exact hadded
  · exact h.preparing
  · intro hhttp
    exact absurd hhttp hdriver

/-- The end of a handler whose connection is present. -/
theorem Counted.ends {k k' : Connect} (h : k.Counted)
    (hpresent : k.present = true) (hphase : k'.phase = .ended)
    (hadded : k'.added = k.added) (hgone : k'.present = false)
    (hcount : k'.disconnects = k.disconnects + 1) : k'.Counted := by
  have hk := h.present hpresent
  have hnone := h.count
  constructor
  · simp [hcount, hadded, hgone, hk, hnone, hpresent]
  · intro hpresent'
    rw [hgone] at hpresent'
    cases hpresent'
  · intro _
    rw [hadded]
    exact hk
  · intro hp
    rw [hphase] at hp
    cases hp
  · intro _ hp
    rw [hphase] at hp
    rcases hp with hp | hp
    · cases hp
    · cases hp

/-- Another phase, without a removal. -/
theorem Counted.moved {k : Connect} (h : k.Counted) {phase : ConnectPhase}
    (hphase : phase = .created ∨ phase = .connected →
      k.added = true ∧ (k.driver = .http → k.present = true))
    (hpreparing : phase ≠ .preparing) :
    ({ k with phase := phase } : Connect).Counted where
  count := h.count
  present := h.present
  connected hp := (hphase hp).1
  preparing hp := absurd hp hpreparing
  http hdriver hp := (hphase hp).2 hdriver

/-- The `catch`. -/
theorem Counted.connectFails {k : Connect} (h : k.Counted) :
    k.connectFails.Counted := by
  obtain ⟨entry, socket, heq, -, -⟩ := connectFails_eq k
  rw [heq]
  have hmoved : ({ k with phase := .failed } : Connect).Counted := by
    apply h.moved
    · rintro (hp | hp)
      · cases hp
      · cases hp
    · simp
  exact hmoved.same rfl rfl rfl rfl rfl

/-- `disconnect`. -/
theorem Counted.disconnect {k : Connect} (h : k.Counted) :
    k.disconnect.Counted := by
  obtain ⟨socket, heq, -⟩ := disconnect_eq k
  rw [heq]
  exact h.same rfl rfl rfl rfl rfl

/-- A probe removes no HTTP connection. -/
theorem Counted.checkLiveness {k : Connect} {timeout now : Nat}
    (h : k.Counted) (hpresent : k.present = true) :
    (k.checkLiveness timeout now).Counted := by
  unfold Connect.checkLiveness
  split
  · next hclosed =>
    dsimp only
    split
    · exact h.same rfl rfl rfl rfl rfl
    · have hsame : ({ k with status := .reconnecting } : Connect).Counted :=
        h.same rfl rfl rfl rfl rfl
      apply hsame.removeConn hpresent
      intro hdriver
      have hhttp : k.driver = .http := hdriver
      simp [isConnectionClosed, readyState, getConnectionReadyState,
        hhttp] at hclosed
  · exact h.same rfl rfl rfl rfl rfl

/-- A connection that was added and not removed. -/
theorem counted_present {k : Connect} (hphase : k.phase ≠ .preparing)
    (hpresent : k.present = true) (hadded : k.added = true)
    (hcount : k.disconnects = 0) : k.Counted where
  count := by simp [hcount, hpresent]
  present _ := hadded
  connected _ := hadded
  preparing hp := absurd hp hphase
  http _ _ := hpresent

/-- The connection that `createConn` makes. -/
theorem createConn_eq (k : Connect) (now : Nat) (disconnects : Bool) :
    ∃ status socket, k.createConn now disconnects
      = { k with present := true, added := true, lastSeen := now,
                 status := status, socket := socket } := by
  unfold createConn
  dsimp only
  split
  · obtain ⟨socket, heq, -⟩ := disconnect_eq { k with
      present := true, added := true, lastSeen := now,
      status := .connected }
    exact ⟨_, socket, heq⟩
  · exact ⟨_, _, rfl⟩

/-- `createConn` throws before it has added the connection, or behind it,
or it returns. -/
theorem create_cases (k : Connect) (ready : Bool) (now : Nat)
    (disconnects initFails : Bool) :
    (ready = false ∧ k.create ready now disconnects initFails
        = ({ k with entry := decide (k.driver ≠ ConnectionDriver.http) }
          : Connect).connectFails)
      ∨ ∃ status socket k₁,
        k₁ = { k with entry := decide (k.driver ≠ ConnectionDriver.http),
                      present := true, added := true, lastSeen := now,
                      status := status, socket := socket }
          ∧ ((initFails = true ∧ k.driver ≠ .http
              ∧ k.create ready now disconnects initFails = k₁.connectFails)
            ∨ k.create ready now disconnects initFails
              = { k₁ with phase := .created }) := by
  unfold create
  cases ready with
  | false => exact Or.inl ⟨rfl, rfl⟩
  | true =>
      right
      obtain ⟨status, socket, heq⟩ := createConn_eq
        { k with entry := decide (k.driver ≠ ConnectionDriver.http) } now
        disconnects
      refine ⟨status, socket, _, rfl, ?_⟩
      dsimp only at heq ⊢
      rw [if_pos rfl, heq]
      by_cases hfails : initFails = true ∧ k.driver ≠ .http
      · exact Or.inl ⟨hfails.1, hfails.2, if_pos hfails⟩
      · exact Or.inr (if_neg hfails)

/-- `createConn`, with what comes before and behind it. -/
theorem Counted.create {k : Connect} {ready : Bool} {now : Nat}
    {disconnects initFails : Bool} (h : k.Counted)
    (hphase : k.phase = .preparing) :
    (k.create ready now disconnects initFails).Counted := by
  have hcount := h.count
  simp [h.preparing hphase] at hcount
  rcases create_cases k ready now disconnects initFails with
    ⟨-, heq⟩ | ⟨status, socket, k₁, rfl, ⟨-, -, heq⟩ | heq⟩
  · rw [heq]
    apply Counted.connectFails
    exact h.same rfl rfl rfl rfl rfl
  · obtain ⟨entry, socket', hfails, -, -⟩ := connectFails_eq { k with
      entry := decide (k.driver ≠ ConnectionDriver.http), present := true,
      added := true, lastSeen := now, status := status, socket := socket }
    rw [heq, hfails]
    exact counted_present (by simp) rfl rfl hcount
  · rw [heq]
    exact counted_present (by simp) rfl rfl hcount

/-- One operation keeps the ledger, if a close event or an abort that
removes finds its connection. -/
theorem Counted.apply {k k' : Connect} {timeout now : Nat} {ready : Bool}
    {o : ConnectOp} (h : k.Counted)
    (hok : k.Ends o = true → k.present = true)
    (hstep : k.apply timeout now ready o = some k') : k'.Counted := by
  cases o with
  | prepareFails =>
      simp only [Connect.apply] at hstep
      split at hstep
      · rw [← Option.some.inj hstep]
        exact h.connectFails
      · cases hstep
  | create disconnects initFails =>
      simp only [Connect.apply] at hstep
      split at hstep
      · next hphase =>
        rw [← Option.some.inj hstep]
        exact h.create hphase
      · cases hstep
  | resume =>
      simp only [Connect.apply] at hstep
      split at hstep
      · next hphase =>
        rw [← Option.some.inj hstep]
        apply h.moved
        · intro _
          exact ⟨h.connected (Or.inl hphase),
            fun hdriver => h.http hdriver (Or.inl hphase)⟩
        · simp
      · cases hstep
  | socketClosing =>
      simp only [Connect.apply] at hstep
      split at hstep
      · rw [← Option.some.inj hstep]
        exact h.same rfl rfl rfl rfl rfl
      · cases hstep
  | socketClose =>
      simp only [Connect.apply] at hstep
      split at hstep
      · rw [← Option.some.inj hstep]
        exact h.same rfl rfl rfl rfl rfl
      · cases hstep
  | onClose =>
      simp only [Connect.apply] at hstep
      split at hstep
      · split at hstep
        · next hphase =>
          rw [← Option.some.inj hstep]
          have hpresent := hok (by simp [Ends, hphase])
          exact h.ends hpresent rfl rfl rfl rfl
        · rw [← Option.some.inj hstep]
          exact h.same rfl rfl rfl rfl rfl
        · cases hstep
      · cases hstep
  | messageFails =>
      simp only [Connect.apply] at hstep
      split at hstep
      · rw [← Option.some.inj hstep]
        obtain ⟨socket, heq, -⟩ := closeSocket_eq k
        rw [heq]
        exact h.same rfl rfl rfl rfl rfl
      · cases hstep
  | abort =>
      simp only [Connect.apply] at hstep
      split at hstep
      · split at hstep
        · next hphase =>
          rw [← Option.some.inj hstep]
          have hpresent := hok (by simp [Ends, hphase])
          exact h.ends hpresent rfl rfl rfl rfl
        · rw [← Option.some.inj hstep]
          exact h.same rfl rfl rfl rfl rfl
      · cases hstep
  | finish =>
      simp only [Connect.apply] at hstep
      split at hstep
      · next hhttp =>
        rw [← Option.some.inj hstep]
        have hpresent := h.http hhttp.1 (Or.inr hhttp.2)
        exact h.ends hpresent rfl rfl rfl rfl
      · cases hstep
  | disconnect =>
      simp only [Connect.apply] at hstep
      split at hstep
      · rw [← Option.some.inj hstep]
        exact h.disconnect
      · cases hstep
  | checkLiveness =>
      simp only [Connect.apply] at hstep
      split at hstep
      · next hpresent =>
        rw [← Option.some.inj hstep]
        exact h.checkLiveness hpresent
      · cases hstep

end Connect

-- ============================================================ every run

namespace ConnectedActor

variable {timeout : Nat}

/-- What a run keeps. -/
def CountedAll (s : ConnectedActor) : Prop :=
  ∀ k ∈ s.connects, k.Counted

/-- What an operation of one connection does to the actor. -/
theorem step_op_cases {s s' : ConnectedActor} {c : Nat} {o : ConnectOp}
    (h : step timeout s (.op c o) = some s') :
    ∃ k k', s.connects[c]? = some k
      ∧ k.apply timeout s.now s.ready o = some k'
      ∧ s' = { s with connects := s.connects.set c k' } := by
  simp only [step] at h
  cases hk : s.connects[c]? with
  | none => rw [hk] at h; cases h
  | some k =>
      rw [hk] at h
      dsimp only at h
      cases hk' : k.apply timeout s.now s.ready o with
      | none => rw [hk'] at h; cases h
      | some k' =>
          rw [hk'] at h
          exact ⟨k, k', rfl, hk', (Option.some.inj h).symm⟩

/-- An initial state. -/
theorem countedAll_init {s : ConnectedActor}
    (h : (system timeout).init s) : s.CountedAll := by
  intro k hk
  obtain ⟨hphase, -, -, -, hpresent, hadded, hcount⟩ := h.2 k hk
  apply Connect.counted_present
  · rw [hphase]
    simp
  · exact hpresent
  · exact hadded
  · exact hcount

/-- One step. -/
theorem CountedAll.step {s s' : ConnectedActor} {l : TransportStep}
    (h : s.CountedAll) (hok : s.RemovesPresent l)
    (hstep : step timeout s l = some s') : s'.CountedAll := by
  cases l with
  | connect driver inline =>
      rw [← Option.some.inj hstep]
      intro k hk
      rcases List.mem_append.1 hk with hold | hnew
      · exact h k hold
      · rw [List.mem_singleton.1 hnew]
        exact Connect.counted_new driver inline
  | op c o =>
      obtain ⟨k, k', hk, hk', rfl⟩ := step_op_cases hstep
      have hcounted := h k (List.mem_of_getElem? hk)
      intro x hx
      rcases List.mem_or_eq_of_mem_set hx with hold | hnew
      · exact h x hold
      · rw [hnew]
        exact hcounted.apply (hok k hk) hk'
  | advance d =>
      rw [← Option.some.inj hstep]
      exact h
  | stop =>
      rw [← Option.some.inj hstep]
      exact h

/-- Every state of a run under the condition. -/
theorem countedAll_reaches {s : ConnectedActor}
    (h : (system timeout).Reaches RemovesPresent s) : s.CountedAll := by
  apply System.Reaches.invariant _ _ h
  · intro s₀ hs₀
    exact countedAll_init hs₀
  · intro s₁ l s₂ _ hinv hok hstep
    exact hinv.step hok hstep

/-- A close event or an abort that finds its connection removed runs the
hook again. -/
theorem CountedAll.twice {s s' : ConnectedActor} {l : TransportStep}
    (h : s.CountedAll) (hbad : ¬ s.RemovesPresent l)
    (hstep : ConnectedActor.step timeout s l = some s') : ¬ s'.DisconnectsOnce := by
  intro honce
  cases l with
  | connect driver inline => exact hbad trivial
  | advance d => exact hbad trivial
  | stop => exact hbad trivial
  | op c o =>
      obtain ⟨k, k', hk, hk', rfl⟩ := step_op_cases hstep
      apply hbad
      intro k₀ hk₀ hends
      rw [hk] at hk₀
      rw [← Option.some.inj hk₀] at hends ⊢
      by_contra hgone
      have hcounted := h k (List.mem_of_getElem? hk)
      have hlt := (List.getElem?_eq_some_iff.1 hk).1
      have hmem : k' ∈ s.connects.set c k' := by
        apply List.mem_of_getElem? (i := c)
        rw [List.getElem?_set_self hlt]
      have hle := (honce k' hmem).1
      have hone : k.disconnects = 1 := by
        have hphase : k.phase = .connected := by
          cases o <;> simp_all [Connect.Ends]
        have hadded := hcounted.connected (Or.inr hphase)
        rw [hcounted.count, if_pos ⟨hadded, by simpa using hgone⟩]
      have htwo : k'.disconnects = k.disconnects + 1 := by
        cases o with
        | onClose =>
            have hphase : k.phase = .connected := by
              simpa [Connect.Ends] using hends
            simp only [Connect.apply, hphase] at hk'
            split at hk'
            · rw [← Option.some.inj hk']
              rfl
            · cases hk'
        | abort =>
            have hphase : k.phase = .connected := by
              simpa [Connect.Ends] using hends
            simp only [Connect.apply, hphase] at hk'
            split at hk'
            · rw [← Option.some.inj hk']
              rfl
            · cases hk'
        | prepareFails => cases hends
        | create disconnects initFails => cases hends
        | resume => cases hends
        | socketClosing => cases hends
        | socketClose => cases hends
        | messageFails => cases hends
        | finish => cases hends
        | disconnect => cases hends
        | checkLiveness => cases hends
      omega

end ConnectedActor

open ConnectedActor

/-- Exactly while every close event and abort that removes a connection
finds it in `#connections`, `onDisconnect` runs at most once for each,
and only for those that were added. -/
theorem disconnects_once {timeout : Nat} {s : ConnectedActor}
    (h : (system timeout).Reaches RemovesPresent s) :
    s.DisconnectsOnce
      ∧ ∀ l s', step timeout s l = some s' →
        (s.RemovesPresent l ↔ s'.DisconnectsOnce) := by
  have hinv := countedAll_reaches h
  refine ⟨fun k hk => (hinv k hk).disconnectOnce, ?_⟩
  intro l s' hstep
  constructor
  · intro hok k hk
    exact ((hinv.step hok hstep) k hk).disconnectOnce
  · intro honce
    by_contra hbad
    exact hinv.twice hbad hstep honce

/-- A WebSocket that closes, an SSE connection that the sweep removes and
an HTTP action, one after the other. -/
def mixedTransports : List TransportStep :=
  [.connect .webSocket false, .connect .sse false, .connect .http false,
    .op 0 (.create false false), .op 1 (.create false false),
    .op 2 (.create false false), .op 0 .resume, .op 1 .resume,
    .op 2 .resume, .op 1 .disconnect, .op 0 .socketClose, .op 0 .onClose,
    .op 2 .finish, .advance 2500, .op 1 .checkLiveness]

/-- The condition admits that run, and each hook has run once. -/
theorem disconnects_once_mixed :
    ∃ s, (system 2500).run ⟨[], true, 0⟩ mixedTransports = some s
      ∧ s.connects.map (·.disconnects) = [1, 1, 1]
      ∧ s.DisconnectsOnce := by
  refine ⟨_, rfl, rfl, (@disconnects_once 2500 _ ?_).1⟩
  refine System.Reaches.run mixedTransports
    (.init (s := ⟨[], true, 0⟩)
      ⟨rfl, fun k hk => absurd hk List.not_mem_nil⟩) ?_ rfl
  decide

/-- A socket that is closing for as long as the liveness timeout: the
sweep removes its connection, and the close event does so again. -/
theorem disconnects_once_fails :
    ¬ ∀ (timeout : Nat) (s : ConnectedActor),
        (system timeout).Reachable s → s.DisconnectsOnce := by
  intro hall
  have h := hall 2500 _ (System.Reachable.run
    [.connect .webSocket false, .op 0 (.create false false), .op 0 .resume,
      .op 0 .socketClosing, .advance 2500, .op 0 .checkLiveness,
      .op 0 .socketClose, .op 0 .onClose]
    (.init (s := ⟨[], true, 0⟩)
      ⟨rfl, fun k hk => absurd hk List.not_mem_nil⟩) rfl)
  exact absurd (h _ (List.mem_singleton.2 rfl)).1 (by decide)

end RivetKit.Actor
