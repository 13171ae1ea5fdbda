/-
`dispose()` is final in every run in which no call of the driver it finds
awaited gives a socket afterwards, and it finds no open socket but the
transport (`dispose_final`).

`#connectWebSocket` and `#connectSse` install what the driver gives without
looking at `#disposed` (`dispose_not_final`), and `dispose()` closes the
current transport only.
-/
import RivetKit.Client.Proofs.Sending
import RivetKit.Lib.Lists

namespace RivetKit.Client

open Transition

variable {kind : Transport} {throws : ToServerMessage → Bool}

/-- `CLOSING` or `CLOSED`. -/
def Socket.isShut : Socket → Bool
  | .closing _ => true
  | .closed => true
  | _ => false

namespace ActorConnRaw

-- ============================================================ the contract

/-- Since `dispose()`, no transport has been installed, none is open, no
attempt has started and nothing has been sent. -/
def DisposeFinal (s : ActorConnRaw) : Prop :=
  ∀ d, s.disposedAt = some d →
    s.sockets.length = d.sockets ∧ (∀ socket ∈ s.sockets, socket.isShut = true)
      ∧ s.attempts = d.attempts ∧ s.sent.length = d.sent

/-- The driver gives no socket after `dispose()`, which finds every socket
but the transport closed or closing. -/
def DisposeSafe (s : ActorConnRaw) : RawStep → Prop
  | .driverResolve _ => s.disposed = false
  | .dispose => s.disposed = true ∨
      ∀ i socket, s.sockets[i]? = some socket →
        s.transport = some i ∨ socket.isShut = true
  | _ => True

-- =========================================================== the invariant

variable {s s' : ActorConnRaw}

/-- A connection that is disposed has no loop to start an attempt. -/
structure DisposeInv (s : ActorConnRaw) : Prop where
  recorded : s.disposedAt.isSome = s.disposed
  ended : s.disposed = true → s.loop ≠ .running ∧ s.loop ≠ .backoff
  final : s.DisposeFinal

/-- A step of a connection that is not disposed, and is not after it. -/
theorem DisposeInv.of_live (h : s.DisposeInv) (hdisposed : s.disposed = false)
    (hsame : s'.disposed = s.disposed) (hat : s'.disposedAt = s.disposedAt) :
    s'.DisposeInv where
  recorded := by rw [hsame, hat, h.recorded]
  ended := by
    rw [hsame, hdisposed]
    exact fun hnot => by cases hnot
  final := by
    intro d hd
    have hnone := h.recorded
    rw [hdisposed, ← hat, hd] at hnone
    cases hnone

/-- A step that sends nothing and leaves the sockets and the loop. -/
theorem DisposeInv.of_rest (h : s.DisposeInv) (hrest : s.Rest s')
    (hsent : s'.sent = s.sent) : s'.DisposeInv where
  recorded := by rw [hrest.disposed, hrest.disposedAt, h.recorded]
  ended := by
    rw [hrest.disposed, hrest.loop]
    exact h.ended
  final := by
    unfold DisposeFinal
    rw [hrest.disposedAt, hrest.sockets, hrest.attempts, hsent]
    exact h.final

/-- A step that leaves the sockets and the loop, and sends nothing once the
connection is disposed. -/
theorem DisposeInv.of_restSent (h : s.DisposeInv) (hrest : s.Rest s')
    (hsent : s.disposed = true → s'.sent = s.sent) : s'.DisposeInv := by
  by_cases hdisposed : s.disposed = true
  · exact h.of_rest hrest (hsent hdisposed)
  · exact h.of_live (by simpa using hdisposed) hrest.disposed
      hrest.disposedAt

/-- A connection that is disposed sends nothing. -/
theorem handleMessage_sent (hdisposed : s.disposed = true)
    (body : ToClientBody) :
    (handleMessage kind s throws body).sent = s.sent := by
  unfold handleMessage
  split
  case h_1 conn =>
    unfold handleOnOpen
    dsimp only
    rw [if_pos hdisposed]
    split <;> rfl
  case h_2 actionId =>
    split
    case h_1 id _ =>
      unfold takeActionInFlight
      split <;> rfl
    case h_2 =>
      unfold connectionError
      obtain ⟨calls, heq⟩ := foldl_settle_eq s.actionsInFlight .rejected
        { s with
          onOpenPromise :=
            s.onOpenPromise.map (OpenPromise.settle .rejected) }
      dsimp only
      rw [heq]
  case h_3 id =>
    unfold takeActionInFlight
    split <;> rfl
  case h_4 => rfl

theorem action_sent (hdisposed : s.disposed = true) (encodes : Bool) :
    (s.action kind encodes throws).sent = s.sent := by
  unfold action
  rw [if_neg (by simp [hdisposed])]
  rfl

theorem subscribe_sent (hdisposed : s.disposed = true) {name : String}
    (h : s.subscribe kind name throws = some s') : s'.sent = s.sent := by
  unfold subscribe at h
  simp only [hdisposed, if_true] at h
  split at h <;> cases h
  rfl

theorem unsubscribe_sent (hdisposed : s.disposed = true) {name : String}
    (h : s.unsubscribe kind name throws = some s') : s'.sent = s.sent := by
  unfold unsubscribe at h
  simp only [hdisposed, if_true] at h
  split at h <;> cases h
  rfl

theorem postSettled_sent {i : Nat} {ok : Bool}
    (h : s.postSettled i ok = some s') : s'.sent = s.sent := by
  unfold postSettled at h
  split at h
  case h_1 conn message _ =>
    dsimp only at h
    split at h
    · cases h
      rfl
    · split at h <;> cases h <;> rfl
  case h_2 => cases h

/-- An attempt fails. -/
theorem DisposeInv.attemptFailed (h : s.DisposeInv) :
    s.attemptFailed.DisposeInv where
  recorded := h.recorded
  ended := by
    intro hdisposed
    obtain ⟨hrunning, hbackoff⟩ := h.ended hdisposed
    unfold ActorConnRaw.attemptFailed
    rw [if_neg hrunning]
    exact ⟨hrunning, hbackoff⟩
  final := h.final

/-- A connection that is disposed has no socket that could open. -/
theorem DisposeInv.shut (h : s.DisposeInv) (hdisposed : s.disposed = true)
    {i : Nat} {socket : Socket} (hsocket : s.sockets[i]? = some socket) :
    socket.isShut = true := by
  have hsome := h.recorded
  rw [hdisposed] at hsome
  obtain ⟨d, hd⟩ := Option.isSome_iff_exists.1 hsome
  exact (h.final d hd).2.1 socket (List.mem_of_getElem? hsocket)

/-- A step of a socket that is not shut: the connection is not
disposed. -/
theorem DisposeInv.of_socket (h : s.DisposeInv) {i : Nat} {socket : Socket}
    (hsocket : s.sockets[i]? = some socket) (hopen : socket.isShut = false)
    (hsame : s'.disposed = s.disposed) (hat : s'.disposedAt = s.disposedAt) :
    s'.DisposeInv := by
  by_cases hdisposed : s.disposed = true
  · have hshut := h.shut hdisposed hsocket
    rw [hopen] at hshut
    cases hshut
  · exact h.of_live (by simpa using hdisposed) hsame hat

/-- A socket closes. -/
theorem DisposeInv.close (h : s.DisposeInv) (i : Nat) :
    DisposeInv (handleOnClose { s with sockets := s.sockets.set i .closed }) := by
  unfold handleOnClose
  dsimp only
  by_cases hdisposed : s.disposed = true
  · rw [if_neg (by simp [hdisposed])]
    refine ⟨h.recorded, h.ended, ?_⟩
    intro d hd
    obtain ⟨hlength, hshut, hattempts, hsent⟩ := h.final d hd
    refine ⟨?_, ?_, hattempts, hsent⟩
    · rw [← hlength]
      exact List.length_set
    · intro socket hmem
      rcases List.mem_or_eq_of_mem_set hmem with hold | hnew
      · exact hshut socket hold
      · rw [hnew]
        rfl
  · have hlive : s.disposed = false := by simpa using hdisposed
    split
    · refine h.of_live hlive ?_ ?_
      all_goals
        unfold connectWithRetry connectAndWait
        dsimp only
        split <;> rfl
    · exact h.of_live hlive rfl rfl

/-- A loop that is stopped does not run or wait. -/
theorem loop_stopped (loop : RetryLoop) :
    (match loop with
      | .running | .backoff => RetryLoop.stopped
      | loop => loop) ≠ .running
    ∧ (match loop with
      | .running | .backoff => RetryLoop.stopped
      | loop => loop) ≠ .backoff := by
  cases loop <;> simp

/-- `dispose()` itself. -/
theorem DisposeInv.dispose (h : s.DisposeInv)
    (hsafe : s.disposed = true ∨
      ∀ i socket, s.sockets[i]? = some socket →
        s.transport = some i ∨ socket.isShut = true) :
    (s.dispose kind).DisposeInv := by
  unfold ActorConnRaw.dispose
  by_cases hdisposed : s.disposed = true
  · rw [if_pos hdisposed]
    exact h
  · rw [if_neg hdisposed]
    have hsockets := hsafe.resolve_left hdisposed
    have hset : ∀ (i : Nat) (new : Socket), s.transport = some i →
        new.isShut = true →
        ∀ socket ∈ s.sockets.set i new, socket.isShut = true := by
      intro i new hi hnew socket hmem
      obtain ⟨j, hj⟩ := List.mem_iff_getElem?.1 hmem
      rcases Lists.getElem?_set_cases hj with ⟨hold, hne⟩ | ⟨-, heq⟩
      · refine (hsockets j socket hold).resolve_left ?_
        rw [hi]
        simpa using Ne.symm hne
      · rw [heq]
        exact hnew
    dsimp only
    cases htransport : s.transport with
    | none =>
        refine ⟨rfl, fun _ => loop_stopped s.loop, ?_⟩
        intro d hd
        cases hd
        refine ⟨rfl, ?_, rfl, rfl⟩
        intro socket hmem
        obtain ⟨j, hj⟩ := List.mem_iff_getElem?.1 hmem
        refine (hsockets j socket hj).resolve_left ?_
        simp [htransport]
    | some i =>
        cases kind with
        | sse =>
            refine ⟨rfl, fun _ => loop_stopped s.loop, ?_⟩
            intro d hd
            cases hd
            exact ⟨List.length_set, hset i .closed htransport rfl, rfl, rfl⟩
        | websocket =>
            dsimp only
            split
            case h_1 conn hi =>
              refine ⟨rfl, fun _ => loop_stopped s.loop, ?_⟩
              intro d hd
              cases hd
              exact ⟨List.length_set, hset i _ htransport rfl, rfl, rfl⟩
            case h_2 hi =>
              refine ⟨rfl, fun _ => loop_stopped s.loop, ?_⟩
              intro d hd
              cases hd
              exact ⟨List.length_set, hset i _ htransport rfl, rfl, rfl⟩
            case h_3 hnopen hnconnecting =>
              refine ⟨rfl, fun _ => loop_stopped s.loop, ?_⟩
              intro d hd
              cases hd
              refine ⟨rfl, ?_, rfl, rfl⟩
              intro socket hmem
              obtain ⟨j, hj⟩ := List.mem_iff_getElem?.1 hmem
              rcases hsockets j socket hj with hsame | hshut
              · rw [htransport] at hsame
                injection hsame with hsame
                rw [← hsame] at hj
                cases socket with
                | connecting => exact absurd hj hnconnecting
                | opened conn => exact absurd hj (hnopen conn)
                | closing conn => rfl
                | closed => rfl
              · exact hshut

-- ========================================================= step and run

/-- Every guarded step keeps the invariant. -/
theorem disposeInv_step {a : RawStep} (h : s.DisposeInv)
    (hsafe : s.DisposeSafe a) (hstep : rawStep kind s a = some s') :
    s'.DisposeInv := by
  cases a with
  | driverResolve isOpen =>
      simp only [rawStep, driverResolve] at hstep
      split at hstep <;> cases hstep
      exact h.of_live hsafe rfl rfl
  | driverReject final =>
      simp only [rawStep, driverReject] at hstep
      split at hstep <;> cases hstep
      have hfailed := h.attemptFailed
      cases final with
      | false => exact hfailed
      | true =>
          refine ⟨hfailed.recorded, fun _ => ⟨?_, ?_⟩, hfailed.final⟩
          · simp
          · simp
  | openSettled =>
      simp only [rawStep, openSettled] at hstep
      split at hstep
      case isFalse => cases hstep
      case isTrue =>
        split at hstep <;> cases hstep
        case h_1 =>
          refine ⟨h.recorded, ?_, h.final⟩
          intro hdisposed
          obtain ⟨hrunning, hbackoff⟩ := h.ended hdisposed
          dsimp only
          rw [if_neg hrunning]
          exact ⟨hrunning, hbackoff⟩
        case h_2 => exact h.attemptFailed
  | loopEnd =>
      simp only [rawStep, loopEnd] at hstep
      split at hstep <;> cases hstep
      exact ⟨h.recorded, fun _ => by simp, h.final⟩
  | retryTimer =>
      simp only [rawStep, retryTimer] at hstep
      split at hstep
      case isFalse => cases hstep
      case isTrue hloop =>
        have hlive : s.disposed = false := by
          by_cases hdisposed : s.disposed = true
          · exact absurd hloop (h.ended hdisposed).2
          · simpa using hdisposed
        injection hstep with hstep
        refine h.of_live hlive ?_ ?_
        all_goals
          rw [← hstep]
          unfold connectAndWait
          dsimp only
          split <;> rfl
  | socketOpen i =>
      simp only [rawStep, socketOpen] at hstep
      split at hstep
      case isFalse => cases hstep
      case isTrue hi =>
        cases hstep
        exact h.of_socket hi rfl rfl rfl
  | socketReconnecting i =>
      simp only [rawStep, socketReconnecting] at hstep
      split at hstep
      case h_1 conn hi =>
        cases hstep
        exact h.of_socket hi rfl rfl rfl
      case h_2 => cases hstep
  | socketClosing i =>
      simp only [rawStep, socketClosing] at hstep
      split at hstep
      case h_1 conn hi =>
        cases hstep
        exact h.of_socket hi rfl rfl rfl
      case h_2 hi =>
        cases hstep
        exact h.of_socket hi rfl rfl rfl
      case h_3 => cases hstep
  | socketClose i =>
      simp only [rawStep, socketClose] at hstep
      split at hstep <;> cases hstep
      exact h.close i
  | socketError i =>
      simp only [rawStep, socketError] at hstep
      split at hstep <;> cases hstep
      exact h
  | socketMessage i body =>
      simp only [rawStep, socketMessage] at hstep
      split at hstep <;> cases hstep
      refine h.of_rest ?_ ?_
      · split <;> constructor <;> rfl
      · split <;> rfl
  | messageParsed k throws =>
      simp only [rawStep, messageParsed] at hstep
      split at hstep <;> cases hstep
      case h_1 frame _ =>
        have hrest := @handleMessage_rest kind throws
          { s with frames := s.frames.eraseIdx k } frame.body
        refine h.of_restSent (.trans ?_ hrest) fun hdisposed =>
          @handleMessage_sent kind throws
            { s with frames := s.frames.eraseIdx k } hdisposed frame.body
        constructor <;> rfl
  | action encodes throws =>
      cases hstep
      exact h.of_restSent (action_rest s encodes) fun hdisposed =>
        action_sent hdisposed encodes
  | subscribe name throws =>
      refine h.of_restSent (.trans ?_ (subscribe_sending hstep).rest)
        fun hdisposed => subscribe_sent hdisposed hstep
      constructor <;> rfl
  | unsubscribe name throws =>
      refine h.of_restSent (.trans ?_ (unsubscribe_sending hstep).rest)
        fun hdisposed => unsubscribe_sent hdisposed hstep
      constructor <;> rfl
  | cleanUp name =>
      cases hstep
      refine h.of_rest ?_ rfl
      constructor <;> rfl
  | postSettled i ok =>
      exact h.of_rest (postSettled_sending hstep).rest (postSettled_sent hstep)
  | dispose =>
      cases hstep
      exact h.dispose hsafe
  | disposeResume =>
      simp only [rawStep, disposeResume] at hstep
      split at hstep
      case h_1 =>
        split at hstep <;> cases hstep
        exact ⟨h.recorded, h.ended, h.final⟩
      case h_2 => cases hstep

/-- And so does every guarded run. -/
theorem disposeInv_reaches (h : (rawSystem kind).Reaches DisposeSafe s) :
    s.DisposeInv := by
  refine System.Reaches.invariant (P := DisposeInv) ?_ ?_ h
  · rintro s rfl
    refine ⟨rfl, fun hdisposed => ?_, fun d hd => ?_⟩
    · cases hdisposed
    · cases hd
  · intro s a s' _ hinv hsafe hstep
    exact disposeInv_step hinv hsafe hstep

end ActorConnRaw

open ActorConnRaw

/-- In every run whose steps are `DisposeSafe`, `dispose()` is final. -/
theorem dispose_final {s : ActorConnRaw}
    (h : (rawSystem kind).Reaches DisposeSafe s) : s.DisposeFinal :=
  (disposeInv_reaches h).final

/-- A connection is disposed while its attempt waits for `Init`. -/
def disposeRun : List RawStep :=
  [.driverResolve true, .action true fun _ => false, .dispose, .socketClose 0,
    .openSettled, .disposeResume]

/-- The guard admits that run. -/
theorem dispose_final_open :
    ∃ s, (rawSystem .websocket).run .connected disposeRun = some s
      ∧ s.disposedAt = some ⟨1, 1, 1⟩ ∧ s.DisposeFinal := by
  refine ⟨_, rfl, rfl, @dispose_final .websocket _
    (System.Reaches.run disposeRun (.init rfl) ?_ rfl)⟩
  refine ⟨rfl, trivial, Or.inr ?_, trivial, trivial, trivial, trivial⟩
  intro i socket hi
  cases i with
  | zero => exact Or.inl rfl
  | succ i => cases hi

/-- The driver gives its socket after `dispose()`. -/
theorem dispose_not_final :
    ¬ ∀ s : ActorConnRaw,
      (rawSystem .websocket).Reachable s → s.DisposeFinal := by
  intro hall
  have h := hall _ (System.Reachable.run [.dispose, .driverResolve true]
    (.init rfl) rfl)
  exact absurd (h ⟨0, 1, 0⟩ rfl).1 (by decide)

end RivetKit.Client
