/-
The events of a socket that is no longer the transport, and the connection
that is never given up.

`#handleOnClose` and the connection error of `#handleOnMessage` act on the
fields of the connection, whichever socket they come from: a late close of an
earlier socket clears the transport that has replaced it, and a late error
rejects what was sent on it (`stale_events_harm`). Everything else an earlier
socket does is harmless, and there is always a live transport or an attempt,
in every run whose steps are `TransportSafe` (`stale_events_harmless`).

# The invariant

`LiveInv` says where the retry loop is for each thing the rest of the state
can look like. A close must not come between the success of an attempt and
the end of its loop: `#connecting` is still set and nothing connects again.
-/
import RivetKit.Client.Proofs.Sending

namespace RivetKit.Client

open Transition

variable {kind : Transport} {throws : ToServerMessage → Bool}

-- ============================================================ the contract

/-- The socket a step is an event of. -/
def RawStep.socketOf (s : ActorConnRaw) : RawStep → Option Nat
  | .socketOpen i => some i
  | .socketReconnecting i => some i
  | .socketClosing i => some i
  | .socketClose i => some i
  | .socketError i => some i
  | .socketMessage i _ => some i
  | .messageParsed k _ => s.frames[k]?.map (·.socket)
  | _ => none

namespace ActorConnRaw

/-- The transport is a socket that has not closed. -/
def LiveTransport (s : ActorConnRaw) : Prop :=
  ∃ i socket, s.transport = some i ∧ s.sockets[i]? = some socket
    ∧ socket ≠ .closed

/-- The transport is still `i`, and no action sent on it is rejected. -/
structure Harmless (s s' : ActorConnRaw) (i : Nat) : Prop where
  transport : s'.transport = some i
  calls : ∀ call, s.CarriedByCurrent call →
    s.calls[call]? = some .pending → s'.calls[call]? ≠ some .rejected

/-- The steps `ok` admits that are events of another socket than the
transport are harmless, and a connection that is not disposed has a live
transport, or an attempt that runs or is scheduled. -/
structure TransportContract (kind : Transport)
    (ok : ActorConnRaw → RawStep → Prop) (s : ActorConnRaw) : Prop where
  stale : ∀ a s' i j, ok s a → rawStep kind s a = some s' →
    a.socketOf s = some j → s.transport = some i → j ≠ i → s.Harmless s' i
  connected : s.disposed = false →
    s.LiveTransport ∨ s.attempt.isSome = true ∨ s.loop = .backoff

-- ============================================================= the guard

/-- An attempt has succeeded, and its loop has not ended. -/
def Succeeding (s : ActorConnRaw) : Prop :=
  s.loop = .succeeded
    ∨ s.attempt = some .awaitOpen ∧ s.onOpenPromise = some .resolved

/-- An error, from a socket that is not the transport, is about no action
sent on the transport. One without a truthy id is about all of them. -/
def ErrorSafe (s : ActorConnRaw) : ToClientBody → Prop
  | .error actionId => ∀ e ∈ s.actionsInFlight,
      (∀ id ∈ actionId.bind ActionId.truthy, e.1 = id) →
        ¬ s.CarriedByCurrent e.2
  | _ => True

/-- A close comes from the transport, or there is none, and not before the
loop of an attempt that succeeded has ended; an error of another socket
concerns no action sent on the transport; the driver throws nothing that
`pRetry` gives up on. -/
def TransportSafe (s : ActorConnRaw) : RawStep → Prop
  | .socketClose i =>
      (s.transport = none ∨ s.transport = some i)
        ∧ (s.disposed = true ∨ ¬ s.Succeeding)
  | .messageParsed k _ =>
      ∀ frame, s.frames[k]? = some frame →
        s.transport ≠ some frame.socket → s.ErrorSafe frame.body
  | .driverReject final => s.disposed = true ∨ final = false
  | _ => True

-- ======================================================== stale events

variable {s s' : ActorConnRaw}

/-- A step that leaves the transport and the calls. -/
theorem Harmless.of_same {i : Nat} (hi : s.transport = some i)
    (htransport : s'.transport = s.transport) (hcalls : s'.calls = s.calls) :
    s.Harmless s' i where
  transport := by rw [htransport, hi]
  calls := by
    intro call _ hpending
    rw [hcalls, hpending]
    simp

/-- The calls one action or one error is about. -/
theorem takeActionInFlight_calls (s : ActorConnRaw) {id call : Nat}
    (outcome : CallPromise) (h : ∀ e ∈ s.actionsInFlight, e.1 = id → e.2 ≠ call) :
    (s.takeActionInFlight id outcome).calls[call]? = s.calls[call]? := by
  unfold takeActionInFlight
  split
  case h_1 entry hfind =>
    have hmem := List.mem_of_find?_eq_some hfind
    have hid := List.find?_some hfind
    have hne := h entry hmem (by simpa using hid)
    exact settle_calls_of_ne _ (Ne.symm hne) outcome
  case h_2 => rfl

/-- Settling with a response rejects nothing. -/
theorem takeActionInFlight_resolved (s : ActorConnRaw) (id call : Nat)
    (hpending : s.calls[call]? = some .pending) :
    (s.takeActionInFlight id .resolved).calls[call]? ≠ some .rejected := by
  unfold takeActionInFlight
  split
  case h_1 entry _ =>
    by_cases hcall : call = entry.2
    · unfold settle
      dsimp only
      rw [hcall] at hpending ⊢
      rw [List.getElem?_modify_eq, hpending]
      simp
    · rw [settle_calls_of_ne _ hcall]
      dsimp only
      rw [hpending]
      simp
  case h_2 =>
    rw [hpending]
    simp

theorem connectionError_calls (s : ActorConnRaw) {call : Nat}
    (h : ∀ e ∈ s.actionsInFlight, e.2 ≠ call) :
    s.connectionError.calls[call]? = s.calls[call]? := by
  unfold connectionError
  dsimp only
  rw [foldl_settle_calls_of_notMem .rejected _ h]

/-- `#handleOnOpen` settles no call. -/
theorem handleOnOpen_calls (s : ActorConnRaw) :
    (handleOnOpen kind s throws).calls = s.calls := by
  obtain ⟨queue, posts, sent, carried, heq⟩ :=
    @handleOnOpen_sending kind throws s
  rw [heq]
  rfl

/-- A message of another socket, handled. -/
theorem handleMessage_harmless {i : Nat} (hi : s.transport = some i)
    {body : ToClientBody} (hsafe : s.ErrorSafe body) :
    s.Harmless (handleMessage kind s throws body) i := by
  constructor
  case transport => rw [(handleMessage_rest s body).transport, hi]
  case calls =>
    intro call hcarried hpending
    unfold handleMessage
    split
    case h_1 conn =>
      rw [handleOnOpen_calls, hpending]
      simp
    case h_2 actionId =>
      split
      case h_1 id hid =>
        have hne : ∀ e ∈ s.actionsInFlight, e.1 = id → e.2 ≠ call := by
          intro e he heq hcall
          refine hsafe e he ?_ (hcall ▸ hcarried)
          intro id' hmem
          rw [hid] at hmem
          exact heq.trans (Option.some.inj hmem)
        rw [takeActionInFlight_calls s .rejected hne, hpending]
        simp
      case h_2 hnone =>
        have hne : ∀ e ∈ s.actionsInFlight, e.2 ≠ call := by
          intro e he hcall
          refine hsafe e he ?_ (hcall ▸ hcarried)
          intro id hmem
          rw [hnone] at hmem
          cases hmem
        rw [connectionError_calls s hne, hpending]
        simp
    case h_3 id => exact s.takeActionInFlight_resolved id call hpending
    case h_4 =>
      rw [hpending]
      simp

/-- Every event of another socket that is `TransportSafe`. -/
theorem stale_harmless {a : RawStep} {i j : Nat} (hsafe : s.TransportSafe a)
    (hstep : rawStep kind s a = some s') (hj : a.socketOf s = some j)
    (hi : s.transport = some i) (hne : j ≠ i) : s.Harmless s' i := by
  cases a with
  | socketOpen k =>
      simp only [rawStep, socketOpen] at hstep
      split at hstep <;> cases hstep
      exact .of_same hi rfl rfl
  | socketReconnecting k =>
      simp only [rawStep, socketReconnecting] at hstep
      split at hstep <;> cases hstep
      exact .of_same hi rfl rfl
  | socketClosing k =>
      simp only [rawStep, socketClosing] at hstep
      split at hstep <;> cases hstep <;> exact .of_same hi rfl rfl
  | socketClose k =>
      cases hj
      rcases hsafe.1 with hnone | hsame
      · rw [hi] at hnone
        cases hnone
      · rw [hi] at hsame
        injection hsame with hsame
        exact absurd hsame.symm hne
  | socketError k =>
      simp only [rawStep, socketError] at hstep
      split at hstep <;> cases hstep
      exact .of_same hi rfl rfl
  | socketMessage k body =>
      simp only [rawStep, socketMessage] at hstep
      split at hstep <;> cases hstep
      split <;> exact .of_same hi rfl rfl
  | messageParsed k throws =>
      simp only [rawStep, messageParsed] at hstep
      cases hframe : s.frames[k]? with
      | none =>
          rw [hframe] at hstep
          cases hstep
      | some frame =>
          rw [hframe] at hstep
          simp only [RawStep.socketOf, hframe, Option.map_some,
            Option.some.injEq] at hj
          injection hstep with hstep
          have herror : s.ErrorSafe frame.body := by
            refine hsafe frame hframe ?_
            rw [hi, hj]
            simpa using Ne.symm hne
          have h := @handleMessage_harmless kind throws
            { s with frames := s.frames.eraseIdx k } i hi frame.body herror
          rw [← hstep]
          exact ⟨h.transport, h.calls⟩
  | _ => cases hj

-- ======================================================== the invariant

/-- Where the loop is. -/
structure LiveInv (s : ActorConnRaw) : Prop where
  running : s.attempt.isSome = true ↔ s.loop = .running
  promise : s.onOpenPromise.isSome = s.attempt.isSome
  connecting : s.connecting = true ↔ s.loop ≠ .idle
  going : s.loop ≠ .stopped
  disposing : s.disposing = none
  awaiting : s.attempt = some .awaitOpen →
    s.onOpenPromise ≠ some .rejected → s.LiveTransport
  settled : s.loop = .idle ∨ s.loop = .succeeded → s.LiveTransport

/-- Until the connection is disposed. -/
def TransportInv (s : ActorConnRaw) : Prop :=
  s.disposed = false → s.LiveInv

theorem LiveInv.connected (h : s.LiveInv) :
    s.LiveTransport ∨ s.attempt.isSome = true ∨ s.loop = .backoff := by
  cases hloop : s.loop with
  | idle => exact Or.inl (h.settled (Or.inl hloop))
  | running => exact Or.inr (Or.inl (h.running.2 hloop))
  | backoff => exact Or.inr (Or.inr rfl)
  | succeeded => exact Or.inl (h.settled (Or.inr hloop))
  | stopped => exact absurd hloop h.going

theorem LiveInv.not_running (h : s.LiveInv) (hloop : s.loop ≠ .running) :
    s.attempt = none ∧ s.onOpenPromise = none := by
  have hattempt : s.attempt = none := by
    cases hattempt : s.attempt with
    | none => rfl
    | some pc => exact absurd (h.running.1 (by rw [hattempt]; rfl)) hloop
  have hpromise := h.promise
  rw [hattempt] at hpromise
  exact ⟨hattempt, by simpa using hpromise⟩

theorem LiveTransport.of_rest (h : s.LiveTransport) (hrest : s.Rest s') :
    s'.LiveTransport := by
  obtain ⟨i, socket, hi, hsocket, hopen⟩ := h
  exact ⟨i, socket, by rw [hrest.transport, hi],
    by rw [hrest.sockets, hsocket], hopen⟩

/-- A step that leaves the sockets and the loop, and may settle the open
promise. -/
theorem LiveInv.of_rest (h : s.LiveInv) (hrest : s.Rest s')
    (hpromise : s'.onOpenPromise = s.onOpenPromise
      ∨ ∃ outcome, s'.onOpenPromise
        = s.onOpenPromise.map (OpenPromise.settle outcome)) : s'.LiveInv where
  running := by rw [hrest.attempt, hrest.loop, h.running]
  promise := by
    rw [hrest.attempt, ← h.promise]
    rcases hpromise with heq | ⟨outcome, heq⟩
    · rw [heq]
    · rw [heq, Option.isSome_map]
  connecting := by rw [hrest.connecting, hrest.loop, h.connecting]
  going := by rw [hrest.loop]; exact h.going
  disposing := by rw [hrest.disposing]; exact h.disposing
  awaiting := by
    intro hattempt hnot
    rw [hrest.attempt] at hattempt
    refine (h.awaiting hattempt ?_).of_rest hrest
    intro hrejected
    apply hnot
    rcases hpromise with heq | ⟨outcome, heq⟩
    · rw [heq, hrejected]
    · rw [heq, hrejected]
      rfl
  settled := by
    rw [hrest.loop]
    exact fun hloop => (h.settled hloop).of_rest hrest

/-- A socket changes and does not close. -/
theorem LiveInv.of_socket (h : s.LiveInv) {i conns : Nat} {socket : Socket}
    (hopen : socket ≠ .closed) :
    LiveInv
      { s with sockets := s.sockets.set i socket, connections := conns } := by
  have hlive : s.LiveTransport → LiveTransport
      { s with sockets := s.sockets.set i socket, connections := conns } := by
    intro hgiven
    obtain ⟨j, old, hj, hold, hne⟩ := hgiven
    by_cases hij : i = j
    · refine ⟨j, socket, hj, ?_, hopen⟩
      dsimp only
      rw [hij, List.getElem?_set_self (List.getElem?_eq_some_iff.1 hold).1]
    · refine ⟨j, old, hj, ?_, hne⟩
      dsimp only
      rw [List.getElem?_set_ne hij, hold]
  exact ⟨h.running, h.promise, h.connecting, h.going, h.disposing,
    fun ha hp => hlive (h.awaiting ha hp), fun hl => hlive (h.settled hl)⟩

/-- An attempt starts in a loop that has none. -/
theorem liveInv_connectAndWait (hpromise : s.onOpenPromise = none)
    (hloop : s.loop = .running) (hconnecting : s.connecting = true)
    (hdisposing : s.disposing = none) : s.connectAndWait.LiveInv := by
  unfold connectAndWait
  dsimp only
  rw [hpromise]
  constructor
  case running => simp [hloop]
  case promise => rfl
  case connecting => simp [hloop, hconnecting]
  case going => simp [hloop]
  case disposing => exact hdisposing
  case awaiting => exact fun hattempt => by cases hattempt
  case settled => simp [hloop]

/-- An attempt fails. -/
theorem LiveInv.attemptFailed (h : s.LiveInv) (hattempt : s.attempt.isSome) :
    s.attemptFailed.LiveInv := by
  have hloop : s.loop = .running := h.running.1 hattempt
  unfold ActorConnRaw.attemptFailed
  rw [if_pos hloop]
  constructor
  case running => simp
  case promise => rfl
  case connecting =>
    have hconnecting := h.connecting
    rw [hloop] at hconnecting
    simpa using hconnecting
  case going => simp
  case disposing => exact h.disposing
  case awaiting => exact fun hnone => by cases hnone
  case settled => simp

/-- A transport closes, not in the gap. -/
theorem LiveInv.handleOnClose (h : s.LiveInv) (hdisposed : s.disposed = false)
    (hgap : ¬ s.Succeeding) (sockets : List Socket) :
    LiveInv (handleOnClose { s with sockets := sockets }) := by
  unfold ActorConnRaw.handleOnClose
  dsimp only
  by_cases hconnecting : s.connecting = false
  · rw [if_pos ⟨hdisposed, hconnecting⟩]
    have hidle : s.loop = .idle := by
      by_cases hloop : s.loop = .idle
      · exact hloop
      · rw [h.connecting.2 hloop] at hconnecting
        cases hconnecting
    have hpromise := (h.not_running (by rw [hidle]; simp)).2
    unfold connectWithRetry
    refine liveInv_connectAndWait ?_ rfl rfl h.disposing
    dsimp only
    rw [hpromise]
    rfl
  · rw [if_neg fun hboth => hconnecting hboth.2]
    have hloop : s.loop ≠ .idle :=
      h.connecting.1 (by simpa using hconnecting)
    constructor
    case running => exact h.running
    case promise =>
      dsimp only
      rw [Option.isSome_map, h.promise]
    case connecting => exact h.connecting
    case going => exact h.going
    case disposing => exact h.disposing
    case awaiting =>
      -- the promise was pending or rejected, and is rejected now
      intro hattempt hnot
      refine absurd ?_ hnot
      have hsome := h.promise
      have hawait : s.attempt = some .awaitOpen := hattempt
      rw [hawait] at hsome
      obtain ⟨p, hp⟩ := Option.isSome_iff_exists.1 hsome
      dsimp only
      rw [hp]
      cases p with
      | pending => rfl
      | rejected => rfl
      | resolved => exact absurd (Or.inr ⟨hawait, hp⟩) hgap
    case settled =>
      rintro (hidle | hsucceeded)
      · exact absurd hidle hloop
      · exact absurd (Or.inl hsucceeded) hgap

/-- What handling a message does to the open promise. -/
theorem handleMessage_promise (s : ActorConnRaw) (body : ToClientBody) :
    (handleMessage kind s throws body).onOpenPromise = s.onOpenPromise
      ∨ ∃ outcome, (handleMessage kind s throws body).onOpenPromise
        = s.onOpenPromise.map (OpenPromise.settle outcome) := by
  unfold handleMessage
  split
  case h_1 conn =>
    obtain ⟨queue, posts, sent, carried, heq⟩ :=
      @handleOnOpen_sending kind throws { s with connectionId := some conn }
    rw [heq]
    exact Or.inr ⟨.resolved, rfl⟩
  case h_2 actionId =>
    split
    case h_1 id _ =>
      unfold takeActionInFlight
      split <;> exact Or.inl rfl
    case h_2 =>
      unfold connectionError
      obtain ⟨calls, heq⟩ := foldl_settle_eq s.actionsInFlight .rejected
        { s with
          onOpenPromise :=
            s.onOpenPromise.map (OpenPromise.settle .rejected) }
      dsimp only
      rw [heq]
      exact Or.inr ⟨.rejected, rfl⟩
  case h_3 id =>
    unfold takeActionInFlight
    split <;> exact Or.inl rfl
  case h_4 => exact Or.inl rfl

-- ========================================================= step and run

/-- Sending settles no open promise. -/
theorem LiveInv.of_sending {t : ActorConnRaw} (h : t.LiveInv)
    (hsending : t.Sending s') : s'.LiveInv := by
  refine h.of_rest hsending.rest (Or.inl ?_)
  obtain ⟨queue, posts, sent, carried, rfl⟩ := hsending
  rfl

/-- The driver gives a socket, which is the transport then. -/
theorem transportInv_driverResolve (h : s.TransportInv) {isOpen : Bool}
    (hstep : rawStep kind s (.driverResolve isOpen) = some s') :
    s'.TransportInv := by
  intro hdisposed'
  simp only [rawStep, driverResolve] at hstep
  split at hstep
  case isFalse => cases hstep
  case isTrue hattempt =>
    injection hstep with hstep
    subst hstep
    have h := h hdisposed'
    have hloop : s.loop = .running := h.running.1 (by rw [hattempt]; rfl)
    have hpromise := h.promise
    rw [hattempt] at hpromise
    constructor
    case running => simp [hloop]
    case promise => exact hpromise
    case connecting => exact h.connecting
    case going => exact h.going
    case disposing => exact h.disposing
    case awaiting =>
      intro _ _
      refine ⟨s.sockets.length, _, rfl, List.getElem?_concat_length, ?_⟩
      cases isOpen <;> simp
    case settled => simp [hloop]

/-- The driver throws, and the loop goes on. -/
theorem transportInv_driverReject (h : s.TransportInv) {final : Bool}
    (hsafe : s.TransportSafe (.driverReject final))
    (hstep : rawStep kind s (.driverReject final) = some s') :
    s'.TransportInv := by
  intro hdisposed'
  simp only [rawStep, driverReject] at hstep
  split at hstep
  case isFalse => cases hstep
  case isTrue hattempt =>
    injection hstep with hstep
    have hdisposed : s.disposed = false := by
      rw [← hstep] at hdisposed'
      cases final <;> exact hdisposed'
    have hfinal : final = false :=
      hsafe.resolve_left (by simp [hdisposed])
    subst hstep
    subst hfinal
    exact (h hdisposed).attemptFailed (by rw [hattempt]; rfl)

/-- An attempt ends with its open promise. -/
theorem transportInv_openSettled (h : s.TransportInv)
    (hstep : rawStep kind s .openSettled = some s') :
    s'.TransportInv := by
  intro hdisposed'
  simp only [rawStep, openSettled] at hstep
  split at hstep
  case isFalse => cases hstep
  case isTrue hattempt =>
    split at hstep
    case h_1 hresolved =>
      injection hstep with hstep
      subst hstep
      have h := h hdisposed'
      have hloop : s.loop = .running := h.running.1 (by rw [hattempt]; rfl)
      have hlive := h.awaiting hattempt (by rw [hresolved]; simp)
      constructor
      case running => simp [hloop]
      case promise => rfl
      case connecting =>
        have hconnecting := h.connecting
        rw [hloop] at hconnecting
        simpa [hloop] using hconnecting
      case going => simp [hloop]
      case disposing => exact h.disposing
      case awaiting => exact fun hnone => by cases hnone
      case settled => exact fun _ => hlive
    case h_2 =>
      injection hstep with hstep
      subst hstep
      exact LiveInv.attemptFailed (h hdisposed') (by rw [hattempt]; rfl)
    case h_3 => cases hstep

/-- The loop ends that has succeeded. -/
theorem transportInv_loopEnd (h : s.TransportInv)
    (hstep : rawStep kind s .loopEnd = some s') :
    s'.TransportInv := by
  intro hdisposed'
  simp only [rawStep, loopEnd] at hstep
  split at hstep
  case isFalse => cases hstep
  case isTrue hloop =>
    injection hstep with hstep
    subst hstep
    have h := h hdisposed'
    obtain ⟨hattempt, hpromise⟩ := h.not_running (by rw [hloop]; simp)
    constructor
    case running => simp [hattempt]
    case promise => rw [hattempt, hpromise]; rfl
    case connecting => simp
    case going => simp
    case disposing => exact h.disposing
    case awaiting => simp [hattempt]
    case settled => exact fun _ => h.settled (Or.inr hloop)

/-- The next attempt. -/
theorem transportInv_retryTimer (h : s.TransportInv)
    (hstep : rawStep kind s .retryTimer = some s') :
    s'.TransportInv := by
  intro hdisposed'
  simp only [rawStep, retryTimer] at hstep
  split at hstep
  case isFalse => cases hstep
  case isTrue hloop =>
    injection hstep with hstep
    subst hstep
    have hdisposed : s.disposed = false := by
      unfold connectAndWait at hdisposed'
      dsimp only at hdisposed'
      split at hdisposed' <;> exact hdisposed'
    have h := h hdisposed
    refine liveInv_connectAndWait ?_ rfl ?_ h.disposing
    · exact (h.not_running (by rw [hloop]; simp)).2
    · exact h.connecting.2 (by rw [hloop]; simp)

/-- A transport closes. -/
theorem transportInv_socketClose (h : s.TransportInv) {i : Nat}
    (hsafe : s.TransportSafe (.socketClose i))
    (hstep : rawStep kind s (.socketClose i) = some s') :
    s'.TransportInv := by
  intro hdisposed'
  have hclose : s' = handleOnClose
      { s with sockets := s.sockets.set i .closed } := by
    simp only [rawStep, socketClose] at hstep
    split at hstep <;> cases hstep
    rfl
  have hdisposed : s.disposed = false := by
    rw [hclose] at hdisposed'
    by_cases hd : s.disposed = false
    · exact hd
    · unfold handleOnClose at hdisposed'
      dsimp only at hdisposed'
      rw [if_neg fun hboth => hd hboth.1] at hdisposed'
      exact hdisposed'
  rw [hclose]
  exact (h hdisposed).handleOnClose hdisposed
    (hsafe.2.resolve_left (by simp [hdisposed])) _

/-- A message arrives. -/
theorem transportInv_socketMessage (h : s.TransportInv) {i : Nat}
    {body : ToClientBody}
    (hstep : rawStep kind s (.socketMessage i body) = some s') :
    s'.TransportInv := by
  intro hdisposed'
  simp only [rawStep, socketMessage] at hstep
  split at hstep <;> cases hstep
  split at hdisposed' <;> refine (h hdisposed').of_rest ?_ (Or.inl ?_)
  · split <;> constructor <;> rfl
  · split <;> rfl
  · split <;> constructor <;> rfl
  · split <;> rfl

/-- A message is handled. -/
theorem transportInv_messageParsed (h : s.TransportInv) {k : Nat}
    (hstep : rawStep kind s (.messageParsed k throws) = some s') :
    s'.TransportInv := by
  intro hdisposed'
  simp only [rawStep, messageParsed] at hstep
  split at hstep <;> cases hstep
  case h_1 frame _ =>
    have hrest := @handleMessage_rest kind throws
      { s with frames := s.frames.eraseIdx k } frame.body
    rw [hrest.disposed] at hdisposed'
    have h : LiveInv { s with frames := s.frames.eraseIdx k } := by
      refine (h hdisposed').of_rest ?_ (Or.inl rfl)
      constructor <;> rfl
    exact h.of_rest hrest (handleMessage_promise _ _)

/-- An action is sent or queued. -/
theorem transportInv_action (h : s.TransportInv) {encodes : Bool}
    (hstep : rawStep kind s (.action encodes throws) = some s') :
    s'.TransportInv := by
  intro hdisposed'
  injection hstep with hstep
  subst hstep
  have hrest := @action_rest kind throws s encodes
  rw [hrest.disposed] at hdisposed'
  refine (h hdisposed').of_rest hrest (Or.inl ?_)
  unfold action
  split
  · obtain ⟨queue, posts, sent, carried, heq⟩ :=
      @sendMessage_sending kind throws _ (.action s.calls.length)
    rw [heq]
    rfl
  · rfl

/-- Every guarded step keeps the invariant. -/
theorem transportInv_step {a : RawStep} (h : s.TransportInv)
    (hsafe : s.TransportSafe a) (hstep : rawStep kind s a = some s') :
    s'.TransportInv := by
  intro hdisposed'
  cases a with
  | driverResolve isOpen =>
      exact transportInv_driverResolve h hstep hdisposed'
  | driverReject final =>
      exact transportInv_driverReject h hsafe hstep hdisposed'
  | openSettled =>
      exact transportInv_openSettled h hstep hdisposed'
  | loopEnd =>
      exact transportInv_loopEnd h hstep hdisposed'
  | retryTimer =>
      exact transportInv_retryTimer h hstep hdisposed'
  | socketOpen i =>
      simp only [rawStep, socketOpen] at hstep
      split at hstep <;> cases hstep
      exact (h hdisposed').of_socket (by simp)
  | socketReconnecting i =>
      simp only [rawStep, socketReconnecting] at hstep
      split at hstep <;> cases hstep
      exact (h hdisposed').of_socket (by simp)
  | socketClosing i =>
      simp only [rawStep, socketClosing] at hstep
      split at hstep <;> cases hstep <;>
        exact (h hdisposed').of_socket (by simp)
  | socketClose i =>
      exact transportInv_socketClose h hsafe hstep hdisposed'
  | socketError i =>
      simp only [rawStep, socketError] at hstep
      split at hstep <;> cases hstep
      exact h hdisposed'
  | socketMessage i body =>
      exact transportInv_socketMessage h hstep hdisposed'
  | messageParsed k throws =>
      exact transportInv_messageParsed h hstep hdisposed'
  | action encodes throws =>
      exact transportInv_action h hstep hdisposed'
  | subscribe name throws =>
      have hsending := subscribe_sending hstep
      rw [hsending.rest.disposed] at hdisposed'
      refine LiveInv.of_sending ?_ hsending
      refine (h hdisposed').of_rest ?_ (Or.inl rfl)
      constructor <;> rfl
  | unsubscribe name throws =>
      have hsending := unsubscribe_sending hstep
      rw [hsending.rest.disposed] at hdisposed'
      refine LiveInv.of_sending ?_ hsending
      refine (h hdisposed').of_rest ?_ (Or.inl rfl)
      constructor <;> rfl
  | cleanUp name =>
      injection hstep with hstep
      subst hstep
      refine (h hdisposed').of_rest ?_ (Or.inl rfl)
      constructor <;> rfl
  | postSettled i ok =>
      have hsending := postSettled_sending hstep
      rw [hsending.rest.disposed] at hdisposed'
      exact (h hdisposed').of_sending hsending
  | dispose =>
      injection hstep with hstep
      rw [← hstep, dispose_disposed] at hdisposed'
      cases hdisposed'
  | disposeResume =>
      simp only [rawStep, disposeResume] at hstep
      split at hstep
      case h_1 i hdisposing =>
        split at hstep <;> cases hstep
        rw [(h hdisposed').disposing] at hdisposing
        cases hdisposing
      case h_2 => cases hstep

/-- And so does every guarded run. -/
theorem transportInv_reaches
    (h : (rawSystem kind).Reaches TransportSafe s) : s.TransportInv := by
  refine System.Reaches.invariant (P := TransportInv) ?_ ?_ h
  · rintro s rfl _
    unfold connected connectWithRetry
    exact liveInv_connectAndWait rfl rfl rfl rfl
  · intro s a s' _ hinv hsafe hstep
    exact transportInv_step hinv hsafe hstep

end ActorConnRaw

open ActorConnRaw

/-- In every run whose steps are `TransportSafe`, the events of another
socket than the transport do no harm, and the connection stays connected or
connects again. -/
theorem stale_events_harmless {s : ActorConnRaw}
    (h : (rawSystem kind).Reaches TransportSafe s) :
    s.TransportContract kind TransportSafe where
  stale := fun _ _ _ _ hsafe hstep hj hi hne =>
    stale_harmless hsafe hstep hj hi hne
  connected := fun hdisposed => (transportInv_reaches h hdisposed).connected

/-- An attempt the server refuses, and the one that replaces it. -/
def retryRun : List RawStep :=
  [.driverResolve true, .socketMessage 0 (.error none),
    .messageParsed 0 fun _ => false, .openSettled, .retryTimer,
    .driverResolve true]

/-- The guard admits that run. -/
theorem stale_events_harmless_retry :
    ∃ s, (rawSystem .websocket).run .connected retryRun = some s
      ∧ s.transport = some 1
      ∧ s.TransportContract .websocket TransportSafe := by
  refine ⟨_, rfl, rfl, @stale_events_harmless .websocket _
    (System.Reaches.run retryRun (.init rfl) ?_ rfl)⟩
  refine ⟨trivial, trivial, ?_, trivial, trivial, trivial, trivial⟩
  intro frame hframe hother
  cases hframe
  exact absurd rfl hother

/-- The first socket closes after the second has replaced it. -/
theorem stale_events_harm :
    ¬ ∀ s : ActorConnRaw, (rawSystem .websocket).Reachable s →
      s.TransportContract .websocket fun _ _ => True := by
  intro hall
  have h := hall _ (System.Reachable.run retryRun (.init rfl) rfl)
  have hclose := h.stale (.socketClose 0) _ 1 0 trivial rfl rfl rfl (by decide)
  exact absurd hclose.transport (by decide)

end RivetKit.Client
