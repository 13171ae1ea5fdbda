/-
The order in which the actor is called for one WebSocket connection.

`expected` is what the order of the events says: `processMessage` of
every message that parses, in the order received, then `__removeConn` if
the socket has closed. `InOrder` says that the actor has been called with
a beginning of it, and with all of it once nothing is left to run.

The calls still to come stand in a line (`Line`): the parsed messages in
the order of the queue, then those with their buffers, then those that
are not Blobs or have been read, then the Blobs being read, then the
Blobs whose callback has not run. Every continuation takes a call from
the head of one part to the end of the part before it. What breaks the
line is an event that arrives too early (`Orderly`): a message behind a
Blob, a Blob read before an earlier one, a close before a message has
been parsed.

# Sections

  - the contract and the condition
  - the parts of the line
  - the connection is not prepared
  - one continuation, one event
  - every run
-/
import RivetKit.Actor.ConnectWebSocket
import RivetKit.Protocol.Proofs.RoundTrip

namespace RivetKit.Actor

open Transition
open Js
open Protocol

namespace SocketHandlers

variable (opts : MessageOpts)

-- ============================================ the contract, the condition

/-- The call that a message leads to if its buffer deserializes. -/
def readable (r : Received) : List ConnCall :=
  match parseBuffer opts r.data with
  | .ok message => [.processMessage r.id message]
  | .error _ => []

/-- The call that a message leads to. -/
def accepted (r : Received) : List ConnCall :=
  match parseMessage opts r.data with
  | .ok message => [.processMessage r.id message]
  | .error _ => []

/-- The calls that the events ask for, in their order. -/
def expected (s : SocketHandlers) : List ConnCall :=
  s.received.flatMap (accepted opts)
    ++ if s.closed then [.removeConn] else []

/-- Nothing is left to run. -/
def Settled (s : SocketHandlers) : Prop :=
  s.reactions = [] ∧ s.queue = [] ∧ s.reading = []

/-- The actor has been called in the order of the events, once for each;
and for all of them when nothing is left to run and the connection has
been prepared. -/
structure InOrder (s : SocketHandlers) : Prop where
  order : s.log <+: expected opts s
  complete : s.Settled → s.handlersPromise = .fulfilled →
    s.log = expected opts s

/-- What a job leads to without another suspension. -/
def upcoming : Job → List ConnCall
  | .parsed r message => [.processMessage r.id message]
  | .onClose => [.removeConn]
  | _ => []

/-- The message of a job whose buffer is there. -/
def parsing : Job → List ConnCall
  | .buffered r => readable opts r
  | _ => []

/-- The message of a job whose buffer is ready at its turn. -/
def direct : Job → List ConnCall
  | .onMessage r => if r.data.isBlob then [] else accepted opts r
  | .blobRead r => readable opts r
  | _ => []

/-- The Blob of a job whose read has not begun. -/
def toRead : Job → List ConnCall
  | .onMessage r => if r.data.isBlob then accepted opts r else []
  | _ => []

/-- The Blobs that have not been read, in their order. -/
def unread (s : SocketHandlers) : List ConnCall :=
  s.reading.flatMap (readable opts) ++ s.queue.flatMap (toRead opts)

/-- The messages that have not been parsed, in their order. -/
def awaiting (s : SocketHandlers) : List ConnCall :=
  s.queue.flatMap (parsing opts) ++ s.queue.flatMap (direct opts)
    ++ unread opts s

/-- A Blob that parses is followed only by Blobs, and by messages that do
not parse. -/
def BlobsLast (received : List Received) : Prop :=
  received.Pairwise fun r r' =>
    r.data.isBlob = true → accepted opts r ≠ [] →
      r'.data.isBlob = true ∨ accepted opts r' = []

/-- The condition on an event. The connection is prepared when no Blob
waits ahead of a message of another kind, and no message ahead of the
close. A message that is no Blob arrives when every Blob before it has
been read, a Blob is read when those before it have been, and the close
arrives when every message has been parsed. Messages that do not parse
do not count. -/
def Orderly (s : SocketHandlers) : Label → Prop
  | .prepared =>
      BlobsLast opts s.received
        ∧ (s.closed = true → s.received.flatMap (accepted opts) = [])
  | .message data =>
      s.handlersPromise = .fulfilled → data.isBlob = false →
        accepted opts ⟨s.received.length, data⟩ ≠ [] → unread opts s = []
  | .close => s.handlersPromise = .fulfilled → awaiting opts s = []
  | .blobSettled k =>
      s.reading[k]?.toList.flatMap (readable opts) ≠ [] →
        (s.reading.take k).flatMap (readable opts) = []
  | _ => True

instance (received : List Received) :
    Decidable (BlobsLast opts received) :=
  inferInstanceAs (Decidable (List.Pairwise _ _))

instance (s : SocketHandlers) : (l : Label) → Decidable (Orderly opts s l)
  | .prepared => inferInstanceAs (Decidable (_ ∧ (_ → _)))
  | .message _ => inferInstanceAs (Decidable (_ → _ → _ → _))
  | .close => inferInstanceAs (Decidable (_ → _))
  | .blobSettled _ => inferInstanceAs (Decidable (_ → _))
  | .failed => .isTrue trivial
  | .tick => .isTrue trivial

-- ================================================= the parts of the line

/-- A message that is too long is not accepted. -/
theorem accepted_of_long {r : Received}
    (h : getValueLength r.data > opts.maxIncomingMessageSize) :
    accepted opts r = [] := by
  unfold accepted parseMessage
  rw [if_pos h]

/-- Behind the check of its length a message is accepted if its buffer
deserializes. -/
theorem accepted_of_short {r : Received}
    (h : ¬ getValueLength r.data > opts.maxIncomingMessageSize) :
    accepted opts r = readable opts r := by
  unfold accepted parseMessage readable
  rw [if_neg h]

/-- The line of a connection that has been prepared. -/
structure Line (s : SocketHandlers) : Prop where
  reactions : s.reactions = []
  line : expected opts s
    = s.log ++ s.queue.flatMap upcoming ++ awaiting opts s
  closed : s.closed = true → awaiting opts s = []

/-- A connection that is being prepared: everything waits. -/
structure Unprepared (s : SocketHandlers) : Prop where
  queue : s.queue = []
  reading : s.reading = []
  log : s.log = []
  reactions : s.reactions = s.received.map Job.onMessage
    ++ if s.closed then [.onClose] else []

/-- The steps of a rejection. -/
def isRefusal : Job → Bool
  | .passOn _ _ => true
  | .caught _ _ => true
  | _ => false

/-- A connection that could not be prepared: nothing but rejections
runs. -/
structure Refused (s : SocketHandlers) : Prop where
  queue : ∀ job ∈ s.queue, isRefusal job = true
  reading : s.reading = []
  log : s.log = []

/-- What a run keeps. -/
def OrderInv (s : SocketHandlers) : Prop :=
  match s.handlersPromise with
  | .pending => Unprepared s
  | .fulfilled => Line opts s
  | .rejected => Refused s

variable {opts}

-- ================================================== one continuation

/-- A job that takes its call one part forward keeps the line. -/
theorem Line.moved {s s' : SocketHandlers} (h : Line opts s)
    (hreactions : s'.reactions = s.reactions)
    (hreceived : s'.received = s.received) (hclosed : s'.closed = s.closed)
    (hcalls : s'.log ++ s'.queue.flatMap upcoming ++ awaiting opts s'
      = s.log ++ s.queue.flatMap upcoming ++ awaiting opts s)
    (hnil : awaiting opts s = [] → awaiting opts s' = []) :
    Line opts s' where
  reactions := by rw [hreactions]; exact h.reactions
  line := by
    rw [hcalls, ← h.line]
    unfold expected
    rw [hreceived, hclosed]
  closed hc := by
    rw [hclosed] at hc
    exact hnil (h.closed hc)

/-- The callback of `onMessage`. -/
theorem Line.startParse {s : SocketHandlers} (h : Line opts s)
    {r : Received} {queue : List Job}
    (hqueue : s.queue = .onMessage r :: queue) :
    Line opts (startParse opts { s with queue := queue } r) := by
  unfold SocketHandlers.startParse
  by_cases hlong : getValueLength r.data > opts.maxIncomingMessageSize
  · have hr := accepted_of_long opts hlong
    rw [if_pos hlong]
    apply h.moved
    · rfl
    · rfl
    · rfl
    · simp [enqueue, hqueue, awaiting, unread, upcoming, parsing, direct,
        toRead, hr]
    · simp [enqueue, hqueue, awaiting, unread, parsing, direct, toRead,
        hr]
  · have hr := accepted_of_short opts hlong
    rw [if_neg hlong]
    by_cases hblob : r.data.isBlob = true
    · -- the first Blob without a read is the last one being read
      rw [if_pos hblob]
      apply h.moved
      · rfl
      · rfl
      · rfl
      · simp [hqueue, awaiting, unread, upcoming, parsing, direct, toRead,
          hr, hblob]
      · simp [hqueue, awaiting, unread, parsing, direct, toRead, hr,
          hblob]
    · rw [if_neg hblob]
      apply h.moved
      · rfl
      · rfl
      · rfl
      · simp [enqueue, hqueue, awaiting, unread, upcoming, parsing, direct,
          toRead, hr, hblob]
      · simp +contextual [enqueue, hqueue, awaiting, unread, parsing,
          direct, toRead, hr, hblob]

/-- The continuation of `parseMessage`. -/
theorem Line.buffered {s : SocketHandlers} (h : Line opts s)
    {r : Received} {queue : List Job}
    (hqueue : s.queue = .buffered r :: queue) :
    Line opts (runJob opts { s with queue := queue } (.buffered r)) := by
  cases hparse : parseBuffer opts r.data with
  | ok message =>
      have hr : readable opts r = [.processMessage r.id message] := by
        simp [readable, hparse]
      simp only [runJob, hparse]
      apply h.moved
      · rfl
      · rfl
      · rfl
      · simp [enqueue, hqueue, awaiting, unread, upcoming, parsing, direct,
          toRead, hr]
      · simp [enqueue, hqueue, awaiting, unread, parsing, direct, toRead,
          hr]
  | error error =>
      have hr : readable opts r = [] := by simp [readable, hparse]
      simp only [runJob, hparse]
      apply h.moved
      · rfl
      · rfl
      · rfl
      · simp [enqueue, hqueue, awaiting, unread, upcoming, parsing, direct,
          toRead, hr]
      · simp [enqueue, hqueue, awaiting, unread, parsing, direct, toRead,
          hr]

/-- The `catch` calls nothing. -/
theorem Line.caught {s : SocketHandlers} (h : Line opts s)
    {error : MessageError} {closes : Bool} {queue : List Job}
    (hqueue : s.queue = .caught error closes :: queue) :
    Line opts (runJob opts { s with queue := queue }
      (.caught error closes)) := by
  cases closes with
  | true =>
      apply h.moved
      · rfl
      · rfl
      · rfl
      · simp [runJob, hqueue, awaiting, unread, upcoming, parsing, direct,
          toRead]
      · simp [runJob, hqueue, awaiting, unread, parsing, direct, toRead]
  | false =>
      apply h.moved
      · rfl
      · rfl
      · rfl
      · simp [runJob, hqueue, awaiting, unread, upcoming, parsing, direct,
          toRead]
      · simp [runJob, hqueue, awaiting, unread, parsing, direct, toRead]

/-- One continuation. -/
theorem Line.runJob {s : SocketHandlers} (h : Line opts s) {job : Job}
    {queue : List Job} (hqueue : s.queue = job :: queue) :
    Line opts (runJob opts { s with queue := queue } job) := by
  cases job with
  | onMessage r => exact h.startParse hqueue
  | blobRead r =>
      apply h.moved
      · rfl
      · rfl
      · rfl
      · simp [SocketHandlers.runJob, enqueue, hqueue, awaiting, unread,
          upcoming, parsing, direct, toRead]
      · simp +contextual [SocketHandlers.runJob, enqueue, hqueue, awaiting,
          unread, parsing, direct, toRead]
  | buffered r => exact h.buffered hqueue
  | parsed r message =>
      apply h.moved
      · rfl
      · rfl
      · rfl
      · simp [SocketHandlers.runJob, hqueue, awaiting, unread, upcoming,
          parsing, direct, toRead]
      · simp [SocketHandlers.runJob, hqueue, awaiting, unread, parsing,
          direct, toRead]
  | passOn error closes =>
      apply h.moved
      · rfl
      · rfl
      · rfl
      · simp [SocketHandlers.runJob, enqueue, hqueue, awaiting, unread,
          upcoming, parsing, direct, toRead]
      · simp [SocketHandlers.runJob, enqueue, hqueue, awaiting, unread,
          parsing, direct, toRead]
  | caught error closes => exact h.caught hqueue
  | onClose =>
      apply h.moved
      · rfl
      · rfl
      · rfl
      · simp [SocketHandlers.runJob, hqueue, awaiting, unread, upcoming,
          parsing, direct, toRead]
      · simp [SocketHandlers.runJob, hqueue, awaiting, unread, parsing,
          direct, toRead]

-- ========================================================= one event

/-- Messages without Blobs ahead of them stand in line as they were
received. -/
theorem flatMap_accepted_of_blobsLast {received : List Received}
    (h : BlobsLast opts received) :
    received.flatMap (accepted opts)
      = received.flatMap (fun r => direct opts (.onMessage r))
        ++ received.flatMap (fun r => toRead opts (.onMessage r)) := by
  induction received with
  | nil => rfl
  | cons r received ih =>
      obtain ⟨hr, hrest⟩ := List.pairwise_cons.1 h
      simp only [List.flatMap_cons, ih hrest]
      by_cases hblob : r.data.isBlob = true
      · by_cases hnil : accepted opts r = []
        · simp [direct, toRead, hnil]
        · -- nothing behind an accepted Blob is direct
          have hdirect : received.flatMap
              (fun r => direct opts (.onMessage r)) = [] := by
            apply List.flatMap_eq_nil_iff.2
            intro r' hr'
            rcases hr r' hr' hblob hnil with hb | hn
            · simp [direct, hb]
            · simp [direct, hn]
          rw [hdirect]
          simp [direct, toRead, hblob]
      · simp [direct, toRead, hblob]

/-- Nothing is parsed or called while the connection is prepared. -/
theorem Unprepared.parts {s : SocketHandlers} (h : Unprepared s) :
    s.reactions.flatMap upcoming = (if s.closed then [.removeConn] else [])
      ∧ s.reactions.flatMap (parsing opts) = []
      ∧ s.reactions.flatMap (direct opts)
        = s.received.flatMap (fun r => direct opts (.onMessage r))
      ∧ s.reactions.flatMap (toRead opts)
        = s.received.flatMap (fun r => toRead opts (.onMessage r)) := by
  rw [h.reactions]
  cases s.closed with
  | false =>
      refine ⟨?_, ?_, ?_, ?_⟩
      · simp [List.flatMap_map, upcoming]
      · simp [List.flatMap_map, parsing]
      · simp [List.flatMap_map]
      · simp [List.flatMap_map]
  | true =>
      refine ⟨?_, ?_, ?_, ?_⟩
      · simp [List.flatMap_map, upcoming]
      · simp [List.flatMap_map, parsing]
      · rw [List.flatMap_append, List.flatMap_map]
        exact List.append_nil _
      · rw [List.flatMap_append, List.flatMap_map]
        exact List.append_nil _

/-- The callbacks that wait for the connection join the line. -/
theorem Unprepared.prepared {s : SocketHandlers} (h : Unprepared s)
    (hok : Orderly opts s .prepared) :
    Line opts { s with handlersPromise := .fulfilled, reactions := [],
                       queue := s.queue ++ s.reactions } := by
  obtain ⟨hupcoming, hparsing, hdirect, hread⟩ :=
    @Unprepared.parts opts s h
  have hreceived := flatMap_accepted_of_blobsLast hok.1
  rw [← hdirect, ← hread] at hreceived
  constructor
  · rfl
  · cases hclosed : s.closed with
    | false =>
        simp [expected, awaiting, unread, hreceived, h.queue, h.reading,
          h.log, hupcoming, hparsing, hclosed]
    | true =>
        have hnone := hok.2 hclosed
        obtain ⟨hd, hr⟩ := List.append_eq_nil_iff.1
          (hreceived.symm.trans hnone)
        simp [expected, awaiting, unread, hnone, h.queue, h.reading,
          h.log, hupcoming, hparsing, hd, hr, hclosed]
  · intro hclosed
    obtain ⟨hd, hr⟩ := List.append_eq_nil_iff.1
      (hreceived.symm.trans (hok.2 hclosed))
    simp [awaiting, unread, h.queue, h.reading, hparsing, hd, hr]

/-- A message on a connection that is prepared joins the line where its
kind puts it. -/
theorem Line.message {s : SocketHandlers} (h : Line opts s)
    {data : InputData} (hfulfilled : s.handlersPromise = .fulfilled)
    (hopen : s.closed = false) (hok : Orderly opts s (.message data)) :
    Line opts (enqueue
      { s with received := s.received ++ [⟨s.received.length, data⟩] }
      (.onMessage ⟨s.received.length, data⟩)) := by
  have hline := h.line
  simp only [expected, hopen] at hline
  constructor
  · exact h.reactions
  · by_cases hblob : data.isBlob = true
    · simp only [expected, enqueue, hopen, List.flatMap_append]
      simp [awaiting, unread] at hline
      simp [hline, awaiting, unread, upcoming, parsing, direct, toRead,
        hblob]
    · by_cases hnil : accepted opts ⟨s.received.length, data⟩ = []
      · simp only [expected, enqueue, hopen, List.flatMap_append]
        simp [awaiting, unread] at hline
        simp [hline, awaiting, unread, upcoming, parsing, direct, toRead,
          hblob, hnil]
      · have hunread := hok hfulfilled (by simpa using hblob) hnil
        obtain ⟨hreading, hread⟩ := List.append_eq_nil_iff.1 hunread
        simp only [expected, enqueue, hopen, List.flatMap_append]
        simp [awaiting, unread, hreading, hread] at hline
        simp [hline, awaiting, unread, hreading, hread, upcoming, parsing,
          direct, toRead, hblob]
  · intro hclosed
    exact absurd (hopen.symm.trans hclosed) (by simp)

/-- A close behind messages that are all parsed. -/
theorem Line.close {s : SocketHandlers} (h : Line opts s)
    (hopen : s.closed = false) (hnone : awaiting opts s = []) :
    Line opts (enqueue { s with closed := true } .onClose) := by
  have hline := h.line
  simp [expected, hopen, hnone] at hline
  have hparts := hnone
  simp only [awaiting, unread, List.append_eq_nil_iff] at hparts
  obtain ⟨⟨hparsing, hdirect⟩, hreading, hread⟩ := hparts
  constructor
  · exact h.reactions
  · simp [expected, enqueue, hline, awaiting, unread, hparsing, hdirect,
      hreading, hread, upcoming, parsing, direct, toRead]
  · intro _
    simp [enqueue, awaiting, unread, hparsing, hdirect, hreading, hread,
      parsing, direct, toRead]

/-- A Blob that has been read, behind the ones read before. -/
theorem Line.blobSettled {s : SocketHandlers} (h : Line opts s) {k : Nat}
    {r : Received} (hk : s.reading[k]? = some r)
    (hok : Orderly opts s (.blobSettled k)) :
    Line opts (enqueue { s with reading := s.reading.eraseIdx k }
      (.blobRead r)) := by
  obtain ⟨hlt, hget⟩ := List.getElem?_eq_some_iff.1 hk
  have hsplit : s.reading.flatMap (readable opts)
      = (s.reading.take k).flatMap (readable opts)
        ++ (readable opts r
          ++ (s.reading.drop (k + 1)).flatMap (readable opts)) := by
    calc s.reading.flatMap (readable opts)
        = (s.reading.take k ++ s.reading.drop k).flatMap
            (readable opts) := by rw [List.take_append_drop]
      _ = _ := by
          rw [List.drop_eq_getElem_cons hlt, hget, List.flatMap_append,
            List.flatMap_cons]
  have herase : (s.reading.eraseIdx k).flatMap (readable opts)
      = (s.reading.take k).flatMap (readable opts)
        ++ (s.reading.drop (k + 1)).flatMap (readable opts) := by
    rw [List.eraseIdx_eq_take_drop_succ, List.flatMap_append]
  have hahead : readable opts r = []
      ∨ (s.reading.take k).flatMap (readable opts) = [] := by
    by_cases hnil : readable opts r = []
    · exact Or.inl hnil
    · refine Or.inr (hok ?_)
      simpa [hk] using hnil
  apply h.moved
  · rfl
  · rfl
  · rfl
  · rcases hahead with hnil | hfirst
    · simp [enqueue, awaiting, unread, hsplit, herase, hnil, upcoming,
        parsing, direct, toRead]
    · simp [enqueue, awaiting, unread, hsplit, herase, hfirst, upcoming,
        parsing, direct, toRead]
  · simp +contextual [enqueue, awaiting, unread, hsplit, herase, parsing,
      direct, toRead]

/-- A callback whose connection is refused. -/
theorem isRefusal_rejectJob (job : Job) :
    isRefusal (rejectJob job) = true := by
  cases job <;> rfl

/-- A callback behind the preparation, before it has ended. -/
theorem then_pending {s : SocketHandlers} (job : Job)
    (h : s.handlersPromise = .pending) :
    s.then_ job = { s with reactions := s.reactions ++ [job] } := by
  unfold then_
  rw [h]

/-- A callback behind a preparation that succeeded. -/
theorem then_fulfilled {s : SocketHandlers} (job : Job)
    (h : s.handlersPromise = .fulfilled) :
    s.then_ job = s.enqueue job := by
  unfold then_
  rw [h]

/-- A callback behind a preparation that failed. -/
theorem then_rejected {s : SocketHandlers} (job : Job)
    (h : s.handlersPromise = .rejected) :
    s.then_ job = s.enqueue (rejectJob job) := by
  unfold then_
  rw [h]

/-- One event while the connection is prepared. -/
theorem Unprepared.step {s s' : SocketHandlers} {l : Label}
    (hp : s.handlersPromise = .pending) (h : Unprepared s)
    (hok : Orderly opts s l) (hstep : step opts s l = some s') :
    OrderInv opts s' := by
  cases l with
  | prepared =>
      simp only [SocketHandlers.step, hp] at hstep
      have heq := Option.some.inj hstep
      rw [← heq]
      exact h.prepared hok
  | failed =>
      simp only [SocketHandlers.step, hp] at hstep
      have heq := Option.some.inj hstep
      rw [← heq]
      refine ⟨?_, h.reading, h.log⟩
      intro job hjob
      simp only [h.queue, List.nil_append, List.mem_map] at hjob
      obtain ⟨job', -, rfl⟩ := hjob
      exact isRefusal_rejectJob job'
  | message data =>
      simp only [SocketHandlers.step] at hstep
      split at hstep
      · cases hstep
      · next hopen =>
        rw [← Option.some.inj hstep, then_pending]
        · unfold OrderInv
          simp only [hp]
          refine ⟨h.queue, h.reading, h.log, ?_⟩
          simp [h.reactions, hopen]
        · exact hp
  | close =>
      simp only [SocketHandlers.step] at hstep
      split at hstep
      · cases hstep
      · next hopen =>
        rw [← Option.some.inj hstep, then_pending]
        · unfold OrderInv
          simp only [hp]
          refine ⟨h.queue, h.reading, h.log, ?_⟩
          simp [h.reactions, hopen]
        · exact hp
  | blobSettled k =>
      simp [SocketHandlers.step, h.reading] at hstep
  | tick =>
      simp [SocketHandlers.step, h.queue] at hstep

/-- One event of a connection that is prepared. -/
theorem Line.step {s s' : SocketHandlers} {l : Label}
    (hf : s.handlersPromise = .fulfilled) (h : Line opts s)
    (hok : Orderly opts s l) (hstep : step opts s l = some s') :
    Line opts s' := by
  cases l with
  | prepared => simp [SocketHandlers.step, hf] at hstep
  | failed => simp [SocketHandlers.step, hf] at hstep
  | message data =>
      simp only [SocketHandlers.step] at hstep
      split at hstep
      · cases hstep
      · next hopen =>
        rw [← Option.some.inj hstep, then_fulfilled]
        · exact h.message hf (by simpa using hopen) hok
        · exact hf
  | close =>
      simp only [SocketHandlers.step] at hstep
      split at hstep
      · cases hstep
      · next hopen =>
        rw [← Option.some.inj hstep, then_fulfilled]
        · exact h.close (by simpa using hopen) (hok hf)
        · exact hf
  | blobSettled k =>
      simp only [SocketHandlers.step] at hstep
      split at hstep
      · next r hk =>
        have heq := Option.some.inj hstep
        rw [← heq]
        exact h.blobSettled hk hok
      · cases hstep
  | tick =>
      simp only [SocketHandlers.step] at hstep
      split at hstep
      · next job queue hqueue =>
        have heq := Option.some.inj hstep
        rw [← heq]
        exact h.runJob hqueue
      · cases hstep

/-- What a continuation leaves of `handlersPromise`. -/
@[simp] theorem runJob_handlersPromise (s : SocketHandlers) (job : Job) :
    (runJob opts s job).handlersPromise = s.handlersPromise := by
  cases job with
  | onMessage r =>
      show (SocketHandlers.startParse opts s r).handlersPromise = _
      unfold SocketHandlers.startParse
      split
      · rfl
      · split
        · rfl
        · rfl
  | buffered r =>
      simp only [runJob]
      split
      · rfl
      · rfl
  | caught error closes =>
      cases closes with
      | true => rfl
      | false => rfl
  | blobRead r => rfl
  | parsed r message => rfl
  | passOn error closes => rfl
  | onClose => rfl

/-- An event keeps a preparation that has ended as it is. -/
theorem step_handlersPromise {s s' : SocketHandlers} {l : Label}
    (hp : s.handlersPromise ≠ .pending)
    (hstep : step opts s l = some s') :
    s'.handlersPromise = s.handlersPromise := by
  have hthen : ∀ (t : SocketHandlers) (job : Job),
      (t.then_ job).handlersPromise = t.handlersPromise := by
    intro t job
    unfold then_
    split
    · rfl
    · rfl
    · rfl
  cases l with
  | prepared =>
      cases hs : s.handlersPromise with
      | pending => exact absurd hs hp
      | fulfilled => simp [step, hs] at hstep
      | rejected => simp [step, hs] at hstep
  | failed =>
      cases hs : s.handlersPromise with
      | pending => exact absurd hs hp
      | fulfilled => simp [step, hs] at hstep
      | rejected => simp [step, hs] at hstep
  | message data =>
      simp only [step] at hstep
      split at hstep
      · cases hstep
      · rw [← Option.some.inj hstep, hthen]
  | close =>
      simp only [step] at hstep
      split at hstep
      · cases hstep
      · rw [← Option.some.inj hstep, hthen]
  | blobSettled k =>
      simp only [step] at hstep
      split at hstep
      · rw [← Option.some.inj hstep]
        rfl
      · cases hstep
  | tick =>
      simp only [step] at hstep
      split at hstep
      · rw [← Option.some.inj hstep, runJob_handlersPromise]
      · cases hstep

/-- One event behind a preparation that failed. -/
theorem Refused.step {s s' : SocketHandlers} {l : Label}
    (hr : s.handlersPromise = .rejected) (h : Refused s)
    (hstep : step opts s l = some s') : Refused s' := by
  have henqueue : ∀ (t : SocketHandlers) (job : Job), Refused t →
      isRefusal job = true → Refused (t.enqueue job) := by
    intro t job ht hjob
    refine ⟨?_, ht.reading, ht.log⟩
    intro job' hjob'
    rcases List.mem_append.1 hjob' with hold | hnew
    · exact ht.queue job' hold
    · rw [List.mem_singleton.1 hnew]
      exact hjob
  cases l with
  | prepared => simp [SocketHandlers.step, hr] at hstep
  | failed => simp [SocketHandlers.step, hr] at hstep
  | message data =>
      simp only [SocketHandlers.step] at hstep
      split at hstep
      · cases hstep
      · rw [← Option.some.inj hstep, then_rejected]
        · exact henqueue _ _ ⟨h.queue, h.reading, h.log⟩
            (isRefusal_rejectJob _)
        · exact hr
  | close =>
      simp only [SocketHandlers.step] at hstep
      split at hstep
      · cases hstep
      · rw [← Option.some.inj hstep, then_rejected]
        · exact henqueue _ _ ⟨h.queue, h.reading, h.log⟩
            (isRefusal_rejectJob _)
        · exact hr
  | blobSettled k =>
      simp [SocketHandlers.step, h.reading] at hstep
  | tick =>
      simp only [SocketHandlers.step] at hstep
      split at hstep
      · next job queue hqueue =>
        rw [← Option.some.inj hstep]
        have hrest : Refused { s with queue := queue } := by
          refine ⟨?_, h.reading, h.log⟩
          intro job' hjob'
          exact h.queue job' (by rw [hqueue]; simp [hjob'])
        have hjob : isRefusal job = true :=
          h.queue job (by rw [hqueue]; simp)
        cases job with
        | passOn error closes => exact henqueue _ _ hrest rfl
        | caught error closes =>
            cases closes with
            | true => exact ⟨hrest.queue, hrest.reading, hrest.log⟩
            | false => exact hrest
        | onMessage r => cases hjob
        | blobRead r => cases hjob
        | buffered r => cases hjob
        | parsed r message => cases hjob
        | onClose => cases hjob
      · cases hstep

-- ============================================================ every run

/-- One event. -/
theorem OrderInv.step {s s' : SocketHandlers} {l : Label}
    (h : OrderInv opts s) (hok : Orderly opts s l)
    (hstep : step opts s l = some s') : OrderInv opts s' := by
  unfold OrderInv at h
  cases hs : s.handlersPromise with
  | pending =>
      rw [hs] at h
      exact Unprepared.step hs h hok hstep
  | fulfilled =>
      rw [hs] at h
      have hs' := step_handlersPromise (by rw [hs]; simp) hstep
      unfold OrderInv
      rw [hs', hs]
      exact Line.step hs h hok hstep
  | rejected =>
      rw [hs] at h
      have hs' := step_handlersPromise (by rw [hs]; simp) hstep
      unfold OrderInv
      rw [hs', hs]
      exact Refused.step hs h hstep

/-- New handlers. -/
theorem orderInv_init : OrderInv opts {} where
  queue := rfl
  reading := rfl
  log := rfl
  reactions := rfl

/-- The line is the contract. -/
theorem OrderInv.inOrder {s : SocketHandlers} (h : OrderInv opts s) :
    InOrder opts s := by
  unfold OrderInv at h
  cases hs : s.handlersPromise with
  | pending =>
      rw [hs] at h
      refine ⟨?_, ?_⟩
      · rw [Unprepared.log h]
        exact List.nil_prefix
      · intro _ hf
        rw [hs] at hf
        cases hf
  | fulfilled =>
      rw [hs] at h
      refine ⟨?_, ?_⟩
      · rw [Line.line h, List.append_assoc]
        exact List.prefix_append _ _
      · intro hsettled _
        obtain ⟨-, hqueue, hreading⟩ := hsettled
        rw [Line.line h]
        simp [awaiting, unread, hqueue, hreading]
  | rejected =>
      rw [hs] at h
      refine ⟨?_, ?_⟩
      · rw [Refused.log h]
        exact List.nil_prefix
      · intro _ hf
        rw [hs] at hf
        cases hf

/-- Whatever the order of messages, close, preparation and reads of
Blobs: when each event meets the condition, the actor processes the
messages in the order received, each once, all of them before the
connection is removed. -/
theorem processed_in_order {s : SocketHandlers}
    (h : (system opts).Reaches (Orderly opts) s) : InOrder opts s := by
  have hinv : OrderInv opts s := by
    apply Transition.System.Reaches.invariant _ _ h
    · intro s₀ hs₀
      rw [hs₀]
      exact orderInv_init
    · intro s₁ l s₂ _ hinv hok hstep
      exact hinv.step hok hstep
  exact hinv.inOrder

/-- A subscription to the event `e`. -/
def subscribeRequest : ToServer := ⟨.subscriptionRequest ⟨"e", true⟩⟩

/-- What cbor-x writes for it. -/
def subscribeBytes : List UInt8 :=
  [0xb9, 0, 1, 0x64, 0x62, 0x6f, 0x64, 0x79, 0xb9, 0, 2, 0x63, 0x74, 0x61,
    0x67, 0x73, 0x53, 0x75, 0x62, 0x73, 0x63, 0x72, 0x69, 0x70, 0x74, 0x69,
    0x6f, 0x6e, 0x52, 0x65, 0x71, 0x75, 0x65, 0x73, 0x74, 0x63, 0x76, 0x61,
    0x6c, 0xb9, 0, 2, 0x69, 0x65, 0x76, 0x65, 0x6e, 0x74, 0x4e, 0x61, 0x6d,
    0x65, 0x61, 0x65, 0x69, 0x73, 0x75, 0x62, 0x73, 0x63, 0x72, 0x69, 0x62,
    0x65, 0xf5]

/-- A connection whose encoding is cbor. -/
def cborOpts : MessageOpts :=
  ⟨singlePlatform subscribeRequest.toValue subscribeBytes, schemaBare, .cbor,
    65536⟩

/-- A Blob that arrives while the connection is prepared, a buffer behind
it when it has been read, and a close when both have been parsed. -/
def mixedRun : List Label :=
  [.message (.blob 65 (some subscribeBytes)), .prepared, .tick,
    .blobSettled 0, .message (.bytes subscribeBytes), .tick, .tick, .tick,
    .tick, .close, .tick, .tick, .tick]

/-- The condition admits that run. -/
theorem processed_in_order_mixed :
    ∃ s, (system cborOpts).run {} mixedRun = some s ∧ s.closed = true
      ∧ s.Settled ∧ InOrder cborOpts s := by
  refine ⟨_, rfl, rfl, ⟨rfl, rfl, rfl⟩, @processed_in_order _ _
    (Transition.System.Reaches.run mixedRun (.init rfl) ?_ rfl)⟩
  decide

/-- A message and a close that arrive before the connection is prepared:
the connection is removed, and then the message is processed. -/
theorem processed_in_order_fails :
    ¬ ∀ (opts : MessageOpts) (s : SocketHandlers),
        (system opts).Reachable s → InOrder opts s := by
  intro hall
  have hrun : (system cborOpts).run {}
      [.message (.bytes subscribeBytes), .close, .prepared, .tick, .tick,
        .tick, .tick]
      = some { handlersPromise := .fulfilled, closed := true,
               received := [⟨0, .bytes subscribeBytes⟩],
               log := [.removeConn, .processMessage 0
                 subscribeRequest.toValue] } := rfl
  have h := hall cborOpts _ (Transition.System.Reachable.run _ (.init rfl)
    hrun)
  have horder := h.complete ⟨rfl, rfl, rfl⟩ rfl
  have hexpected : expected cborOpts
      { handlersPromise := .fulfilled, closed := true,
        received := [⟨0, .bytes subscribeBytes⟩],
        log := [.removeConn, .processMessage 0 subscribeRequest.toValue] }
      = [.processMessage 0 subscribeRequest.toValue, .removeConn] := rfl
  rw [hexpected] at horder
  injection horder with hfirst
  cases hfirst

end SocketHandlers

end RivetKit.Actor
