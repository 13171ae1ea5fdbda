/-
The order of requests over a WebSocket: in every run in which no `action()`
goes past a queue that is not empty, and no flush goes on after a send that
failed, the requests are sent in the order in which they were submitted, and
the rest is queued (`messages_fifo`).

`#sendMessage` sends as soon as the socket is open, and the queue is flushed
only when `Init` has been handled (`messages_overtaken`).
-/
import RivetKit.Client.Proofs.Sending
import Mathlib.Data.List.Nodup

namespace RivetKit.Client

open Transition

variable {throws : ToServerMessage → Bool}

/-- The steps of a connection that is not disposed. -/
def fifoStep (s : ActorConnRaw) : RawStep → Option ActorConnRaw
  | .dispose => none
  | a => rawStep .websocket s a

/-- The runs of a WebSocket connection that is not disposed. -/
def fifoSystem : System ActorConnRaw RawStep where
  init s := s = .connected
  step := fifoStep

namespace ActorConnRaw

-- ============================================================ the contract

/-- The call whose request a message is. -/
def requestOf (entry : Nat × ToServerMessage) : Option Nat :=
  match entry.2 with
  | .action call => some call
  | .subscription _ _ => none

/-- The calls whose requests have been sent, in the order they were. -/
def sentCalls (s : ActorConnRaw) : List Nat :=
  s.sent.filterMap requestOf

/-- The requests are sent in the order in which they were submitted, each
once, and those not sent are queued. -/
structure Fifo (s : ActorConnRaw) : Prop where
  order : s.sentCalls <+: s.submitted
  kept : (s.sentCalls ++ s.messageQueue).Perm s.submitted
  once : (s.sentCalls ++ s.messageQueue).Nodup

/-- From the first message of the queue that fails on, all fail. -/
def FlushesInOrder (throws : ToServerMessage → Bool) (queue : List Nat) :
    Prop :=
  ∀ c ∈ queue.dropWhile (fun c => !throws (.action c)),
    throws (.action c) = true

/-- An `action()` that sends at once finds the queue empty, and a flush sends
nothing after a message that failed. -/
def FifoSafe (s : ActorConnRaw) : RawStep → Prop
  | .action _ throws =>
      s.IsOpen → s.messageQueue = [] ∨ throws (.action s.calls.length) = true
  | .messageParsed k throws =>
      ∀ frame conn, s.frames[k]? = some frame → frame.body = .init conn →
        s.IsOpen → FlushesInOrder throws s.messageQueue
  | _ => True

-- =========================================================== the invariant

variable {s s' : ActorConnRaw}

/-- What has been sent, and behind it the queue, is what was submitted. -/
structure FifoInv (s : ActorConnRaw) : Prop where
  live : s.disposed = false
  posts : s.posts = []
  split : s.sentCalls ++ s.messageQueue = s.submitted
  sorted : s.submitted.Pairwise (· < ·)
  bound : ∀ c ∈ s.submitted, c < s.calls.length

theorem FifoInv.contract (h : s.FifoInv) : s.Fifo where
  order := ⟨s.messageQueue, h.split⟩
  kept := by rw [h.split]
  once := by
    rw [h.split]
    exact h.sorted.imp fun hlt => Nat.ne_of_lt hlt

/-- A step that leaves the records of messages. -/
theorem FifoInv.congr (h : s.FifoInv) (hlive : s'.disposed = s.disposed)
    (hposts : s'.posts = s.posts) (hsent : s'.sent = s.sent)
    (hqueue : s'.messageQueue = s.messageQueue)
    (hsubmitted : s'.submitted = s.submitted)
    (hcalls : s'.calls.length = s.calls.length) : s'.FifoInv where
  live := by rw [hlive, h.live]
  posts := by rw [hposts, h.posts]
  split := by
    unfold sentCalls
    rw [hsent, hqueue, hsubmitted]
    exact h.split
  sorted := by rw [hsubmitted]; exact h.sorted
  bound := by rw [hsubmitted, hcalls]; exact h.bound

-- =============================================================== sending

/-- A message that is not sent at once. -/
theorem sendMessage_queued (s : ActorConnRaw) {c : Nat}
    (h : ¬ s.IsOpen ∨ throws (.action c) = true) :
    sendMessage .websocket throws s (.action c)
      = { s with messageQueue := s.messageQueue ++ [c] } := by
  unfold sendMessage
  split
  case h_1 conn hconn =>
    dsimp only
    rw [if_pos (h.resolve_left (not_not_intro ⟨conn, hconn⟩))]
    rfl
  case h_2 => rfl

/-- A message that is. -/
theorem sendMessage_sent (s : ActorConnRaw) {c : Nat} (hopen : s.IsOpen)
    (hok : throws (.action c) = false) :
    ∃ conn, sendMessage .websocket throws s (.action c)
      = s.transmit conn (.action c) := by
  obtain ⟨conn, hconn⟩ := hopen
  refine ⟨conn, ?_⟩
  unfold sendMessage
  rw [hconn]
  dsimp only
  rw [if_neg (by simp [hok])]

/-- A subscription is no request, and is not queued. -/
theorem sendMessage_subscription (s : ActorConnRaw) (name : String)
    (subscribed : Bool) :
    (sendMessage .websocket throws s (.subscription name subscribed)).sentCalls
        = s.sentCalls
      ∧ (sendMessage .websocket throws s
          (.subscription name subscribed)).messageQueue = s.messageQueue
      ∧ (sendMessage .websocket throws s (.subscription name subscribed)).posts
        = s.posts := by
  unfold sendMessage
  split
  case h_1 conn _ =>
    dsimp only
    split
    · exact ⟨rfl, rfl, rfl⟩
    · refine ⟨?_, rfl, rfl⟩
      unfold sentCalls transmit
      simp [requestOf]
  case h_2 => exact ⟨rfl, rfl, rfl⟩

theorem resubscribe_fifo (s : ActorConnRaw) :
    (s.resubscribe .websocket throws).sentCalls = s.sentCalls
      ∧ (s.resubscribe .websocket throws).messageQueue = s.messageQueue
      ∧ (s.resubscribe .websocket throws).posts = s.posts := by
  unfold resubscribe
  have hfold : ∀ (names : List String) (t : ActorConnRaw),
      let t' := names.foldl (fun s name =>
        sendMessage .websocket throws s (.subscription name true)) t
      t'.sentCalls = t.sentCalls ∧ t'.messageQueue = t.messageQueue
        ∧ t'.posts = t.posts := by
    intro names
    induction names with
    | nil => exact fun t => ⟨rfl, rfl, rfl⟩
    | cons name names ih =>
        intro t
        obtain ⟨hsent, hqueue, hposts⟩ := ih
          (sendMessage .websocket throws t (.subscription name true))
        obtain ⟨hsent', hqueue', hposts'⟩ :=
          @sendMessage_subscription throws t name true
        exact ⟨hsent.trans hsent', hqueue.trans hqueue',
          hposts.trans hposts'⟩
  exact hfold s.eventSubscriptions s

theorem transmit_sentCalls (s : ActorConnRaw) (conn c : Nat) :
    (s.transmit conn (.action c)).sentCalls = s.sentCalls ++ [c] := by
  unfold sentCalls transmit
  simp [requestOf]

/-- Messages sent one by one: those that are sent come before those that are
queued. -/
theorem foldl_sendMessage_split (cs : List Nat) :
    ∀ t : ActorConnRaw,
      (t.IsOpen → t.messageQueue = [] ∧ FlushesInOrder throws cs
        ∨ ∀ c ∈ cs, throws (.action c) = true) →
      let t' := cs.foldl (fun s c =>
        sendMessage .websocket throws s (.action c)) t
      t'.sentCalls ++ t'.messageQueue = t.sentCalls ++ t.messageQueue ++ cs
        ∧ t'.posts = t.posts := by
  induction cs with
  | nil => exact fun t _ => ⟨(List.append_nil _).symm, rfl⟩
  | cons c cs ih =>
      intro t h
      dsimp only
      rw [List.foldl_cons]
      have hrest := (@sendMessage_sending .websocket throws t (.action c)).rest
      by_cases hsent : t.IsOpen ∧ throws (.action c) = false
      · obtain ⟨hopen, hok⟩ := hsent
        obtain ⟨conn, heq⟩ := t.sendMessage_sent hopen hok
        -- so nothing has failed yet
        have hfirst : t.messageQueue = []
            ∧ FlushesInOrder throws (c :: cs) := by
          refine (h hopen).resolve_right fun hall => ?_
          rw [hall c List.mem_cons_self] at hok
          cases hok
        have horder : FlushesInOrder throws cs := by
          have hcons := hfirst.2
          unfold FlushesInOrder at hcons
          rw [List.dropWhile_cons_of_pos (by simp [hok])] at hcons
          exact hcons
        have hempty : (sendMessage .websocket throws t
            (.action c)).messageQueue = [] := by
          rw [heq]
          exact hfirst.1
        obtain ⟨hsplit, hposts⟩ := ih _ fun _ => Or.inl ⟨hempty, horder⟩
        refine ⟨?_, ?_⟩
        · rw [hsplit, heq, transmit_sentCalls]
          show t.sentCalls ++ [c] ++ t.messageQueue ++ cs = _
          rw [hfirst.1]
          simp
        · rw [hposts, heq]
          rfl
      · have hqueued : ¬ t.IsOpen ∨ throws (.action c) = true := by
          by_cases hopen : t.IsOpen
          · refine Or.inr ?_
            cases hthrows : throws (.action c) with
            | true => rfl
            | false => exact absurd ⟨hopen, hthrows⟩ hsent
          · exact Or.inl hopen
        have heq := t.sendMessage_queued hqueued
        have hlater : t.IsOpen → ∀ d ∈ cs, throws (.action d) = true := by
          intro hopen d hd
          have hc := hqueued.resolve_left (not_not_intro hopen)
          rcases h hopen with ⟨-, horder⟩ | hall
          · unfold FlushesInOrder at horder
            rw [List.dropWhile_cons_of_neg (by simp [hc])] at horder
            exact horder d (List.mem_cons_of_mem c hd)
          · exact hall d (List.mem_cons_of_mem c hd)
        obtain ⟨hsplit, hposts⟩ := ih _ fun hopen =>
          Or.inr (hlater ((isOpen_of_rest hrest).1 hopen))
        refine ⟨?_, ?_⟩
        · rw [hsplit, heq]
          show t.sentCalls ++ (t.messageQueue ++ [c]) ++ cs = _
          simp
        · rw [hposts, heq]

/-- The queue, flushed. -/
theorem flushQueue_split (t : ActorConnRaw)
    (h : t.IsOpen → FlushesInOrder throws t.messageQueue) :
    (t.flushQueue .websocket throws).sentCalls
        ++ (t.flushQueue .websocket throws).messageQueue
        = t.sentCalls ++ t.messageQueue
      ∧ (t.flushQueue .websocket throws).posts = t.posts := by
  obtain ⟨hsplit, hposts⟩ := foldl_sendMessage_split t.messageQueue
    { t with messageQueue := [] } fun hopen => Or.inl ⟨rfl, h hopen⟩
  refine ⟨hsplit.trans ?_, hposts⟩
  show t.sentCalls ++ [] ++ t.messageQueue = _
  rw [List.append_nil]

-- ============================================================= the steps

/-- `#handleOnOpen`. -/
theorem FifoInv.handleOnOpen (h : s.FifoInv)
    (hflush : s.IsOpen → FlushesInOrder throws s.messageQueue) :
    (handleOnOpen .websocket s throws).FifoInv := by
  have hrest := @handleOnOpen_rest .websocket throws s
  have hsame : (ActorConnRaw.handleOnOpen .websocket s throws).calls = s.calls
      ∧ (ActorConnRaw.handleOnOpen .websocket s throws).submitted
        = s.submitted := by
    obtain ⟨queue, posts, sent, carried, heq⟩ :=
      @handleOnOpen_sending .websocket throws s
    rw [heq]
    exact ⟨rfl, rfl⟩
  obtain ⟨t, ht, hopen, hsent, hqueue, hposts⟩ : ∃ t : ActorConnRaw,
      ActorConnRaw.handleOnOpen .websocket s throws
          = t.flushQueue .websocket throws
        ∧ (t.IsOpen → s.IsOpen) ∧ t.sentCalls = s.sentCalls
        ∧ t.messageQueue = s.messageQueue ∧ t.posts = s.posts := by
    refine ⟨resubscribe .websocket throws { s with
      onOpenPromise := s.onOpenPromise.map (OpenPromise.settle .resolved) },
      ?_, ?_, ?_⟩
    · unfold ActorConnRaw.handleOnOpen
      dsimp only
      rw [if_neg (by simp [h.live])]
    · intro ho
      exact (isOpen_of_rest (s := { s with
        onOpenPromise := s.onOpenPromise.map (OpenPromise.settle .resolved) })
        (resubscribe_sending _).rest).1 ho
    · exact resubscribe_fifo _
  obtain ⟨hsplit, hposts'⟩ := t.flushQueue_split fun ho => by
    rw [hqueue]
    exact hflush (hopen ho)
  constructor
  case live => rw [hrest.disposed, h.live]
  case posts => rw [ht, hposts', hposts, h.posts]
  case split => rw [hsame.2, ht, hsplit, hsent, hqueue, h.split]
  case sorted =>
    rw [hsame.2]
    exact h.sorted
  case bound =>
    rw [hsame.1, hsame.2]
    exact h.bound

/-- `action()`. -/
theorem FifoInv.action (h : s.FifoInv) {encodes : Bool}
    (hsafe : s.IsOpen → s.messageQueue = []
      ∨ throws (.action s.calls.length) = true) :
    (s.action .websocket encodes throws).FifoInv := by
  unfold ActorConnRaw.action
  split
  case isFalse =>
    refine ⟨h.live, h.posts, h.split, h.sorted, ?_⟩
    intro c hc
    have hlt := h.bound c hc
    show c < (s.calls ++ [_]).length
    rw [List.length_append, List.length_singleton]
    omega
  case isTrue =>
    have hsorted : (s.submitted ++ [s.calls.length]).Pairwise (· < ·) := by
      refine List.pairwise_append.2 ⟨h.sorted, List.pairwise_singleton _ _, ?_⟩
      intro c hc d hd
      rw [List.mem_singleton.1 hd]
      exact h.bound c hc
    have hbound : ∀ c ∈ s.submitted ++ [s.calls.length],
        c < (s.calls ++ [CallPromise.pending]).length := by
      intro c hc
      rw [List.length_append, List.length_singleton]
      rcases List.mem_append.1 hc with hc | hc
      · have hlt := h.bound c hc
        omega
      · rw [List.mem_singleton.1 hc]
        omega
    have horder : (s.register true).IsOpen →
        (s.register true).messageQueue = []
          ∧ FlushesInOrder throws [s.calls.length]
        ∨ ∀ c ∈ [s.calls.length], throws (.action c) = true := by
      intro hopen
      rcases hsafe hopen with hempty | hthrows
      · refine Or.inl ⟨hempty, ?_⟩
        unfold FlushesInOrder
        by_cases hc : throws (.action s.calls.length) = true
        · simp [hc]
        · simp [hc]
      · refine Or.inr fun c hc => ?_
        rw [List.mem_singleton.1 hc]
        exact hthrows
    obtain ⟨hsplit, hposts⟩ :=
      foldl_sendMessage_split [s.calls.length] (s.register true) horder
    simp only [List.foldl_cons, List.foldl_nil] at hsplit hposts
    obtain ⟨queue, posts, sent, carried, heq⟩ :=
      @sendMessage_sending .websocket throws (s.register true)
        (.action s.calls.length)
    rw [heq] at hsplit hposts ⊢
    refine ⟨h.live, hposts.trans h.posts, hsplit.trans ?_, hsorted, hbound⟩
    show s.sentCalls ++ s.messageQueue ++ _ = s.submitted ++ _
    rw [h.split]

/-- A subscription is sent, or forgotten. -/
theorem FifoInv.subscription (h : s.FifoInv) (names : List String)
    (name : String) (subscribed : Bool) :
    (sendMessage .websocket throws { s with eventSubscriptions := names }
      (.subscription name subscribed)).FifoInv := by
  obtain ⟨hsent, hqueue, hposts⟩ := @sendMessage_subscription throws
    { s with eventSubscriptions := names } name subscribed
  obtain ⟨queue, posts, sent, carried, heq⟩ := @sendMessage_sending .websocket
    throws { s with eventSubscriptions := names } (.subscription name subscribed)
  rw [heq] at hsent hqueue hposts ⊢
  refine ⟨h.live, hposts.trans h.posts, ?_, h.sorted, h.bound⟩
  rw [hsent, hqueue]
  exact h.split

/-- Settling calls makes no call. -/
theorem foldl_settle_length (entries : List (Nat × Nat)) (outcome : CallPromise) :
    ∀ t : ActorConnRaw, (entries.foldl (fun s entry => s.settle entry.2 outcome)
      t).calls.length = t.calls.length := by
  induction entries with
  | nil => exact fun t => rfl
  | cons entry entries ih =>
      intro t
      rw [List.foldl_cons, ih]
      exact List.length_modify _ _ _

/-- Taking an action out of flight sends nothing. -/
theorem FifoInv.takeActionInFlight (h : s.FifoInv) (id : Nat)
    (outcome : CallPromise) : (s.takeActionInFlight id outcome).FifoInv := by
  unfold ActorConnRaw.takeActionInFlight
  split
  · exact h.congr rfl rfl rfl rfl rfl (List.length_modify _ _ _)
  · exact h

/-- A connection error sends nothing. -/
theorem FifoInv.connectionError (h : s.FifoInv) :
    s.connectionError.FifoInv := by
  have hlength := foldl_settle_length s.actionsInFlight .rejected
    { s with
      onOpenPromise := s.onOpenPromise.map (OpenPromise.settle .rejected) }
  obtain ⟨calls, heq⟩ := foldl_settle_eq s.actionsInFlight .rejected
    { s with
      onOpenPromise := s.onOpenPromise.map (OpenPromise.settle .rejected) }
  unfold ActorConnRaw.connectionError
  dsimp only
  rw [heq] at hlength ⊢
  exact h.congr rfl rfl rfl rfl rfl hlength

/-- Every guarded step keeps the invariant. -/
theorem fifoInv_step {a : RawStep} (h : s.FifoInv) (hsafe : s.FifoSafe a)
    (hstep : fifoStep s a = some s') : s'.FifoInv := by
  cases a with
  | dispose => cases hstep
  | driverResolve isOpen =>
      simp only [fifoStep, rawStep, driverResolve] at hstep
      split at hstep <;> cases hstep
      exact h.congr rfl rfl rfl rfl rfl rfl
  | driverReject final =>
      simp only [fifoStep, rawStep, driverReject] at hstep
      split at hstep <;> cases hstep
      cases final <;> exact h.congr rfl rfl rfl rfl rfl rfl
  | openSettled =>
      simp only [fifoStep, rawStep, openSettled] at hstep
      split at hstep
      · split at hstep <;> cases hstep <;>
          exact h.congr rfl rfl rfl rfl rfl rfl
      · cases hstep
  | loopEnd =>
      simp only [fifoStep, rawStep, loopEnd] at hstep
      split at hstep <;> cases hstep
      exact h.congr rfl rfl rfl rfl rfl rfl
  | retryTimer =>
      simp only [fifoStep, rawStep, retryTimer] at hstep
      split at hstep <;> cases hstep
      unfold connectAndWait
      dsimp only
      split <;> exact h.congr rfl rfl rfl rfl rfl rfl
  | socketOpen i =>
      simp only [fifoStep, rawStep, socketOpen] at hstep
      split at hstep <;> cases hstep
      exact h.congr rfl rfl rfl rfl rfl rfl
  | socketReconnecting i =>
      simp only [fifoStep, rawStep, socketReconnecting] at hstep
      cases hstep
  | socketClosing i =>
      simp only [fifoStep, rawStep, socketClosing] at hstep
      split at hstep <;> cases hstep <;>
        exact h.congr rfl rfl rfl rfl rfl rfl
  | socketClose i =>
      simp only [fifoStep, rawStep, socketClose] at hstep
      split at hstep <;> cases hstep
      unfold handleOnClose
      dsimp only
      split
      · unfold connectWithRetry connectAndWait
        dsimp only
        split <;> exact h.congr rfl rfl rfl rfl rfl rfl
      · exact h.congr rfl rfl rfl rfl rfl rfl
  | socketError i =>
      simp only [fifoStep, rawStep, socketError] at hstep
      split at hstep <;> cases hstep
      exact h
  | socketMessage i body =>
      simp only [fifoStep, rawStep, socketMessage] at hstep
      split at hstep <;> cases hstep
      split <;> exact h.congr rfl rfl rfl rfl rfl rfl
  | messageParsed k throws =>
      simp only [fifoStep, rawStep, messageParsed] at hstep
      split at hstep <;> cases hstep
      case h_1 frame hframe =>
        have h : FifoInv { s with frames := s.frames.eraseIdx k } :=
          h.congr rfl rfl rfl rfl rfl rfl
        unfold handleMessage
        split
        case h_1 conn hbody =>
          refine FifoInv.handleOnOpen (h.congr rfl rfl rfl rfl rfl rfl) ?_
          exact hsafe frame conn hframe hbody
        case h_2 actionId _ =>
          split
          case h_1 id _ => exact h.takeActionInFlight id .rejected
          case h_2 => exact h.connectionError
        case h_3 id _ => exact h.takeActionInFlight id .resolved
        case h_4 => exact h
  | action encodes throws =>
      cases hstep
      exact h.action hsafe
  | subscribe name throws =>
      simp only [fifoStep, rawStep, subscribe] at hstep
      split at hstep <;> cases hstep
      rw [if_neg (by simp [h.live])]
      exact h.subscription _ name true
  | unsubscribe name throws =>
      simp only [fifoStep, rawStep, unsubscribe] at hstep
      split at hstep <;> cases hstep
      rw [if_neg (by simp [h.live])]
      exact h.subscription _ name false
  | cleanUp name =>
      cases hstep
      exact h.congr rfl rfl rfl rfl rfl rfl
  | postSettled i ok =>
      simp only [fifoStep, rawStep, postSettled, h.posts] at hstep
      cases hstep
  | disposeResume =>
      simp only [fifoStep, rawStep, disposeResume] at hstep
      split at hstep
      · split at hstep <;> cases hstep
        exact h.congr rfl rfl rfl rfl rfl rfl
      · cases hstep

/-- And so does every guarded run. -/
theorem fifoInv_reaches (h : fifoSystem.Reaches FifoSafe s) : s.FifoInv := by
  refine System.Reaches.invariant (P := FifoInv) ?_ ?_ h
  · rintro s rfl
    exact ⟨rfl, rfl, rfl, List.Pairwise.nil, fun c hc => by cases hc⟩
  · intro s a s' _ hinv hsafe hstep
    exact fifoInv_step hinv hsafe hstep

end ActorConnRaw

open ActorConnRaw

/-- In every run whose steps are `FifoSafe`, requests are sent in order and
once, or queued. -/
theorem messages_fifo {s : ActorConnRaw} (h : fifoSystem.Reaches FifoSafe s) :
    s.Fifo :=
  (fifoInv_reaches h).contract

/-- Two actions before the socket is open, and `Init`. -/
def queuedRun : List RawStep :=
  [.action true fun _ => false, .action true fun _ => false,
    .driverResolve false, .socketOpen 0, .socketMessage 0 (.init 0),
    .messageParsed 0 fun _ => false]

/-- The guard admits that run. -/
theorem messages_fifo_queued :
    ∃ s, fifoSystem.run .connected queuedRun = some s
      ∧ s.sentCalls = [0, 1] ∧ s.messageQueue = [] ∧ s.Fifo := by
  refine ⟨_, rfl, by decide, by decide, @messages_fifo _
    (System.Reaches.run queuedRun (.init rfl) ?_ rfl)⟩
  refine ⟨?_, ?_, trivial, trivial, trivial, ?_, trivial⟩
  · intro hgiven
    obtain ⟨conn, hconn⟩ := hgiven
    cases hconn
  · intro hgiven
    obtain ⟨conn, hconn⟩ := hgiven
    cases hconn
  · rintro frame conn - - - c hc
    cases hc

/-- An action after the socket is open and before `Init` overtakes one
before. -/
theorem messages_overtaken :
    ¬ ∀ s : ActorConnRaw, fifoSystem.Reachable s → s.Fifo := by
  intro hall
  have h := hall _ (System.Reachable.run
    [.action true fun _ => false, .driverResolve false, .socketOpen 0,
      .action true fun _ => false, .socketMessage 0 (.init 0),
      .messageParsed 0 fun _ => false] (.init rfl) rfl)
  exact absurd h.order (by decide)

end RivetKit.Client
