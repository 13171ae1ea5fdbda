/-
What the operations of an `ActorConnRaw` leave alone. Sending changes the
queue, the posts and the records of what was sent (`Sending`); handling a
message changes these, the actions in flight and their promises, and may
settle the open promise (`handleMessage_rest`). The sockets, the transport
and the retry loop are the business of the other steps.
-/
import RivetKit.Client.ActorConnRaw

namespace RivetKit.Client

namespace ActorConnRaw

variable {kind : Transport} {throws : ToServerMessage → Bool}

-- ============================================================== sending

/-- `s` with the fields that sending changes. -/
def sending (s : ActorConnRaw) (queue : List Nat)
    (posts sent : List (Nat × ToServerMessage)) (carried : List (Nat × Nat)) :
    ActorConnRaw :=
  { s with
    messageQueue := queue, posts := posts, sent := sent, carried := carried }

/-- `t` is `s` after some sending. -/
def Sending (s t : ActorConnRaw) : Prop :=
  ∃ queue posts sent carried, t = s.sending queue posts sent carried

theorem Sending.refl (s : ActorConnRaw) : s.Sending s :=
  ⟨_, _, _, _, rfl⟩

theorem Sending.trans {s t u : ActorConnRaw} (h : s.Sending t)
    (h' : t.Sending u) : s.Sending u := by
  obtain ⟨q, p, x, c, rfl⟩ := h
  obtain ⟨q', p', x', c', rfl⟩ := h'
  exact ⟨q', p', x', c', rfl⟩

theorem pushMessage_sending (s : ActorConnRaw) (m : ToServerMessage) :
    s.Sending (s.pushMessage m) := by
  cases m with
  | action call => exact ⟨_, _, _, _, rfl⟩
  | subscription name subscribed => exact .refl s

theorem unshiftMessage_sending (s : ActorConnRaw) (m : ToServerMessage) :
    s.Sending (s.unshiftMessage m) := by
  cases m with
  | action call => exact ⟨_, _, _, _, rfl⟩
  | subscription name subscribed => exact .refl s

theorem sendHttpMessage_sending (s : ActorConnRaw) (m : ToServerMessage) :
    s.Sending (s.sendHttpMessage m) := by
  unfold sendHttpMessage
  cases s.connectionId with
  | some conn => exact ⟨_, _, _, _, rfl⟩
  | none => exact s.unshiftMessage_sending m

theorem sendMessage_sending (s : ActorConnRaw) (m : ToServerMessage) :
    s.Sending (sendMessage kind throws s m) := by
  unfold sendMessage
  split
  case h_1 conn _ =>
    cases kind with
    | websocket =>
        by_cases hthrows : throws m = true
        · simp only [hthrows, if_true]
          exact s.pushMessage_sending m
        · simp only [hthrows]
          exact ⟨_, _, _, _, rfl⟩
    | sse => exact s.sendHttpMessage_sending m
  case h_2 => exact s.pushMessage_sending m

/-- A loop of sends. -/
theorem foldl_sendMessage_sending {β : Type} (f : β → ToServerMessage)
    (ms : List β) : ∀ s : ActorConnRaw,
    s.Sending (ms.foldl (fun s m => sendMessage kind throws s (f m)) s) := by
  induction ms with
  | nil => exact fun s => .refl s
  | cons m ms ih =>
      intro s
      exact (s.sendMessage_sending (f m)).trans (ih _)

theorem resubscribe_sending (s : ActorConnRaw) :
    s.Sending (s.resubscribe kind throws) :=
  foldl_sendMessage_sending (fun name => .subscription name true) _ s

theorem flushQueue_sending (s : ActorConnRaw) :
    s.Sending (s.flushQueue kind throws) := by
  have hempty : s.Sending { s with messageQueue := [] } := ⟨_, _, _, _, rfl⟩
  exact hempty.trans (foldl_sendMessage_sending .action _ _)

/-- `#handleOnOpen`. -/
theorem handleOnOpen_sending (s : ActorConnRaw) :
    Sending
      { s with
        onOpenPromise := s.onOpenPromise.map (OpenPromise.settle .resolved) }
      (handleOnOpen kind s throws) := by
  unfold handleOnOpen
  dsimp only
  by_cases hdisposed : s.disposed = true
  · rw [if_pos hdisposed]
    split
    · exact ⟨_, _, _, _, rfl⟩
    · exact .refl _
  · rw [if_neg hdisposed]
    exact (resubscribe_sending _).trans (flushQueue_sending _)

/-- The first listener of an event, and the last. -/
theorem subscribe_sending {s s' : ActorConnRaw} {name : String}
    (h : s.subscribe kind name throws = some s') :
    Sending
      { s with eventSubscriptions := s.eventSubscriptions ++ [name] } s' := by
  unfold subscribe at h
  split at h
  · cases h
  · injection h with h
    rw [← h]
    split
    · exact .refl _
    · exact sendMessage_sending _ _

theorem unsubscribe_sending {s s' : ActorConnRaw} {name : String}
    (h : s.unsubscribe kind name throws = some s') :
    Sending
      { s with eventSubscriptions := s.eventSubscriptions.erase name } s' := by
  unfold unsubscribe at h
  split at h
  · injection h with h
    rw [← h]
    split
    · exact .refl _
    · exact sendMessage_sending _ _
  · cases h

/-- A post that settles. -/
theorem postSettled_sending {s s' : ActorConnRaw} {i : Nat} {ok : Bool}
    (h : s.postSettled i ok = some s') : s.Sending s' := by
  unfold postSettled at h
  split at h
  case h_1 conn message _ =>
    dsimp only at h
    split at h
    · cases h
      exact ⟨_, _, _, _, rfl⟩
    · split at h <;> cases h <;> exact ⟨_, _, _, _, rfl⟩
  case h_2 => cases h

-- ============================================================== settling

/-- Settling calls leaves what is not a call. -/
theorem foldl_settle_eq (entries : List (Nat × Nat)) (outcome : CallPromise) :
    ∀ s : ActorConnRaw, ∃ calls : List CallPromise,
      entries.foldl (fun s entry => s.settle entry.2 outcome) s
        = { s with calls := calls } := by
  induction entries with
  | nil => exact fun s => ⟨s.calls, rfl⟩
  | cons entry entries ih =>
      intro s
      obtain ⟨calls, heq⟩ := ih (s.settle entry.2 outcome)
      exact ⟨calls, heq⟩

/-- And leaves a call it does not settle. -/
theorem settle_calls_of_ne (s : ActorConnRaw) {call c : Nat} (h : c ≠ call)
    (outcome : CallPromise) : (s.settle call outcome).calls[c]? = s.calls[c]? := by
  unfold settle
  rw [List.getElem?_modify]
  simp [Ne.symm h]

theorem foldl_settle_calls_of_notMem {entries : List (Nat × Nat)} {c : Nat}
    (outcome : CallPromise) : ∀ s : ActorConnRaw, (∀ e ∈ entries, e.2 ≠ c) →
      (entries.foldl (fun s entry => s.settle entry.2 outcome) s).calls[c]?
        = s.calls[c]? := by
  induction entries with
  | nil => exact fun s _ => rfl
  | cons entry entries ih =>
      intro s hne
      rw [List.foldl_cons,
        ih _ fun e he => hne e (List.mem_cons_of_mem entry he)]
      exact s.settle_calls_of_ne (Ne.symm (hne entry List.mem_cons_self)) outcome

-- ============================================================= receiving

/-- What handling a message leaves alone. -/
structure Rest (s t : ActorConnRaw) : Prop where
  disposed : t.disposed = s.disposed
  connecting : t.connecting = s.connecting
  loop : t.loop = s.loop
  attempt : t.attempt = s.attempt
  sockets : t.sockets = s.sockets
  transport : t.transport = s.transport
  connections : t.connections = s.connections
  attempts : t.attempts = s.attempts
  disposedAt : t.disposedAt = s.disposedAt
  disposing : t.disposing = s.disposing

theorem Rest.refl (s : ActorConnRaw) : s.Rest s := by
  constructor <;> rfl

theorem Rest.trans {s t u : ActorConnRaw} (h : s.Rest t) (h' : t.Rest u) :
    s.Rest u where
  disposed := h'.disposed.trans h.disposed
  connecting := h'.connecting.trans h.connecting
  loop := h'.loop.trans h.loop
  attempt := h'.attempt.trans h.attempt
  sockets := h'.sockets.trans h.sockets
  transport := h'.transport.trans h.transport
  connections := h'.connections.trans h.connections
  attempts := h'.attempts.trans h.attempts
  disposedAt := h'.disposedAt.trans h.disposedAt
  disposing := h'.disposing.trans h.disposing

theorem Sending.rest {s t : ActorConnRaw} (h : s.Sending t) : s.Rest t := by
  obtain ⟨queue, posts, sent, carried, rfl⟩ := h
  constructor <;> rfl

theorem isOpen_of_rest {s t : ActorConnRaw} (h : s.Rest t) :
    t.IsOpen ↔ s.IsOpen := by
  unfold IsOpen transportSocket
  rw [h.transport, h.sockets]

theorem currentConn_of_rest {s t : ActorConnRaw} (h : s.Rest t) :
    t.currentConn = s.currentConn := by
  unfold currentConn transportSocket
  rw [h.transport, h.sockets]

theorem takeActionInFlight_rest (s : ActorConnRaw) (id : Nat)
    (outcome : CallPromise) : s.Rest (s.takeActionInFlight id outcome) := by
  unfold takeActionInFlight
  split
  · constructor <;> rfl
  · exact .refl s

theorem connectionError_rest (s : ActorConnRaw) :
    s.Rest s.connectionError := by
  unfold connectionError
  obtain ⟨calls, heq⟩ := foldl_settle_eq s.actionsInFlight .rejected
    { s with
      onOpenPromise := s.onOpenPromise.map (OpenPromise.settle .rejected) }
  dsimp only
  rw [heq]
  constructor <;> rfl

theorem handleOnOpen_rest (s : ActorConnRaw) :
    s.Rest (handleOnOpen kind s throws) := by
  refine Rest.trans ?_ s.handleOnOpen_sending.rest
  constructor <;> rfl

/-- `#handleOnMessage` leaves the sockets and the retry loop. -/
theorem handleMessage_rest (s : ActorConnRaw) (body : ToClientBody) :
    s.Rest (handleMessage kind s throws body) := by
  unfold handleMessage
  split
  case h_1 conn =>
    refine Rest.trans ?_ (handleOnOpen_rest _)
    constructor <;> rfl
  case h_2 actionId =>
    split
    case h_1 id _ => exact s.takeActionInFlight_rest id .rejected
    case h_2 => exact s.connectionError_rest
  case h_3 id => exact s.takeActionInFlight_rest id .resolved
  case h_4 => exact .refl s

/-- `action()` too. -/
theorem action_rest (s : ActorConnRaw) (encodes : Bool) :
    s.Rest (s.action kind encodes throws) := by
  unfold action
  split
  · refine Rest.trans ?_ (sendMessage_sending _ _).rest
    constructor <;> rfl
  · constructor <;> rfl

theorem dispose_disposed (s : ActorConnRaw) :
    (s.dispose kind).disposed = true := by
  unfold dispose
  by_cases hdisposed : s.disposed = true
  · rw [if_pos hdisposed]
    exact hdisposed
  · rw [if_neg hdisposed]
    dsimp only
    cases s.transport with
    | none => rfl
    | some i =>
        cases kind with
        | sse => rfl
        | websocket =>
            dsimp only
            split <;> rfl

end ActorConnRaw

end RivetKit.Client
