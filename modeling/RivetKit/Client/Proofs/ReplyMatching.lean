/-
Reply matching: every `action()` settles with the server's reply to its
own request and with nothing else, however the calls interleave and
however the server orders and mixes its replies.

One reply goes astray (`replyMatching_fails`): the client takes an error
for one of the connection unless its `actionId` is truthy, the first id
it allocates is 0, and `0n` is falsy. Under json the id arrives as the
string `"0"`, which is truthy. The guard is that a request the server
fails has a truthy id, and that the counter is still exact.

# The invariant

A pending call is in exactly one place: queued, on its way, at the
server, or answered (`ConnInv.balance`). What is in a place is what the
call put there, as it arrives at the other end, and its id is the number
of the call.
-/
import RivetKit.Client.Proofs.Delivery
import RivetKit.Lib.Tally
import RivetKit.Protocol.Schema

namespace RivetKit.Client

open Transition
open Js
open Common
open Protocol

variable {env : Setup}

-- ==================================================== statement vocabulary

/-- How a call settles that is given this reply. -/
def Setup.outcome (env : Setup) : ServerReply → CallState
  | .output output => .returned (env.arrivedBytes output)
  | .error e =>
      .threw ⟨.str e.code, .str e.message, env.arrivedBytes e.metadata⟩

namespace ActorConn

/-- Each call that settled did so with the one reply to its own request,
no error went to the connection, and no call is left behind: when nothing
is queued, under way or at the server, every call has settled, and what
is there moves on. -/
structure ReplyMatching (env : Setup) (s : ActorConn) : Prop where
  own_reply : ∀ (c : Nat) (call : Call), s.calls[c]? = some call →
    call.state ≠ .pending →
    ∃ r, (c, r) ∈ s.replied ∧ call.state = env.outcome r
  one_reply : (s.replied.map (·.1)).Nodup
  no_connection_error : s.connectionErrors = []
  none_lost : s.messageQueue = [] → s.toServer = [] → s.tasks = [] →
    s.toClient = [] → ∀ call ∈ s.calls, call.state ≠ .pending
  flushed : s.ids ≠ none → s.messageQueue = []
  received : ∀ (i : Nat) (m : Sent), s.toServer[i]? = some m →
    ∀ e, (s.receive env i e).isSome = true
  completed : ∀ (i : Nat) (t : ServerTask), s.tasks[i]? = some t →
    ∀ r, (s.complete env i r).isSome = true

/-- The id of the request that the server fails in this step. -/
def failedId (env : Setup) (s : ActorConn) : ConnStep → Option Value
  | .receive i _ =>
      match s.toServer[i]? with
      | some m =>
          match readRequest env m.data with
          | some (id, none) => some id
          | _ => none
      | none => none
  | .complete i (.error _) => s.tasks[i]?.map (·.id)
  | _ => none

/-- The action counter is exact, and a request that the server fails has
a truthy id. -/
def ReplySafe (env : Setup) (s : ActorConn) (a : ConnStep) : Prop :=
  (match a with
    | .action _ _ => s.actionIdCounter < 2 ^ 53
    | _ => True)
  ∧ match s.failedId env a with
    | some id => id.truthy = true
    | none => True

instance (s : ActorConn) (a : ConnStep) : Decidable (s.ReplySafe env a) := by
  unfold ReplySafe
  refine @instDecidableAnd _ _ ?_ ?_
  · cases a <;> dsimp only <;> infer_instance
  · cases s.failedId env a <;> dsimp only <;> infer_instance

-- ============================================================ the balance

/-- 1 while the call `c` is pending. -/
def pendingCount (s : ActorConn) (c : Nat) : Nat :=
  match s.calls[c]? with
  | some ⟨_, .pending⟩ => 1
  | _ => 0

/-- Where the request of `c` waits for its answer. -/
def unanswered (s : ActorConn) (c : Nat) : Nat :=
  tally (fun q : Queued => some q.call) s.messageQueue c
    + tally (fun m : Sent => some m.call) s.toServer c
    + tally (fun t : ServerTask => some t.call) s.tasks c

/-- The answers to `c` on their way. -/
def answers (s : ActorConn) (c : Nat) : Nat :=
  tally (fun a : Answer => a.call) s.toClient c

/-- The client can send: the transport is open and `Init` was handled. -/
def Ready (s : ActorConn) : Prop :=
  s.isOpen = true ∧ ∃ ids, s.ids = some ids ∧ ids.actorId.truthy = true
    ∧ ids.connectionId.truthy = true ∧ ids.connectionToken.truthy = true

end ActorConn

-- ============================================================ the contents

/-- A queued request is that of its call. -/
def Queued.Valid (q : Queued) : Prop :=
  ∃ name args, q.message = ⟨.actionRequest ⟨UInt64.ofNat q.call, name, args⟩⟩

/-- A request under way arrives as that of its call. -/
def Sent.Valid (env : Setup) (m : Sent) : Prop :=
  ∃ name args, deserializeWithEncoding env.platform env.encoding m.data
      (toServerVersioned env.bare)
    = some (actionRequest (env.arrivedUint (UInt64.ofNat m.call)) name
        (env.arrivedBytes args))

/-- What arrives of a reply to the request `c`. -/
def arrivedReply (env : Setup) (c : Nat) : ServerReply → Value
  | .output output =>
      actionResponse (env.arrivedUint (UInt64.ofNat c))
        (env.arrivedBytes output)
  | .error e =>
      errorResponse (env.arrivedUint (UInt64.ofNat c)) (.str e.code)
        (.str e.message) (env.arrivedBytes e.metadata)

/-- The client takes the reply for one to an action: an output, whose id
is compared with that of the call, or an error with a truthy id. -/
def Matchable (env : Setup) (c : Nat) : ServerReply → Prop
  | .output _ => env.encoding ≠ .json
  | .error _ => (env.arrivedUint (UInt64.ofNat c)).truthy = true

/-- A message under way to the client is an `Init`, or a reply. -/
def Answer.Valid (env : Setup) (s : ActorConn) (a : Answer) : Prop :=
  match a.call with
  | none => ∃ init : Protocol.Init,
      init.actorId ≠ "" ∧ init.connectionId ≠ ""
      ∧ init.connectionToken ≠ "" ∧ s.isOpen = true
      ∧ deserializeWithEncoding env.platform env.encoding a.data
          (toClientVersioned env.bare)
        = some (ToClient.toValue ⟨.init init⟩)
  | some c => ∃ r, (c, r) ∈ s.replied ∧ Matchable env c r
      ∧ deserializeWithEncoding env.platform env.encoding a.data
          (toClientVersioned env.bare) = some (arrivedReply env c r)

/-- The invariant of a guarded run. -/
structure ConnInv (env : Setup) (s : ActorConn) : Prop where
  counter_eq : s.actionIdCounter = s.calls.length
  calls_le : s.calls.length ≤ 2 ^ 53
  id_eq : ∀ (c : Nat) (call : Call), s.calls[c]? = some call → call.id = c
  balance : ∀ c, s.unanswered c + s.answers c = s.pendingCount c
  in_flight : ∀ k c, (k, c) ∈ s.actionsInFlight
    ↔ k = c ∧ s.pendingCount c = 1
  queued : ∀ q ∈ s.messageQueue, q.Valid
  sent : ∀ m ∈ s.toServer, m.Valid env
  running : ∀ t ∈ s.tasks, t.id = env.arrivedUint (UInt64.ofNat t.call)
    ∧ env.encoding ≠ .json
  answered : ∀ a ∈ s.toClient, a.Valid env s
  settled : ∀ (c : Nat) (call : Call), s.calls[c]? = some call →
    call.state ≠ .pending →
    ∃ r, (c, r) ∈ s.replied ∧ call.state = env.outcome r
  replied_once : (s.replied.map (·.1)).Nodup
  replied_done : ∀ p ∈ s.replied,
    s.unanswered p.1 = 0 ∧ p.1 < s.calls.length
  no_errors : s.connectionErrors = []
  ready : s.ids ≠ none → s.Ready ∧ s.messageQueue = []

-- ================================================================= the ids

theorem toNat_ofNat {c : Nat} (h : c ≤ 2 ^ 53) :
    (UInt64.ofNat c).toNat = c := by
  rw [UInt64.toNat_ofNat']
  exact Nat.mod_eq_of_lt (by omega)

/-- The id that arrives with an answer finds the call. -/
theorem actionKey_arrivedUint {c : Nat} (h : c ≤ 2 ^ 53) :
    actionKey (env.arrivedUint (UInt64.ofNat c)) = some c := by
  unfold Setup.arrivedUint
  split
  · rw [toNat_ofNat h]
    have hrepr : (c : Int).repr = String.ofList (Nat.toDigits 10 c) :=
      Nat.repr_eq_ofList_toDigits
    have hdigits : (Nat.toDigits 10 c).all Char.isDigit = true := by
      rw [List.all_eq_true]
      intro d hd
      exact Nat.isDigit_of_mem_toDigits (by decide) (by decide) hd
    unfold actionKey
    rw [hrepr]
    dsimp only
    rw [String.toList_ofList, if_pos ⟨Nat.toDigits_ne_nil, hdigits⟩,
      Nat.ofDigitChars_ten_toDigits]
  · unfold uint
    rw [toNat_ofNat h]
    unfold actionKey
    dsimp only
    rw [if_pos (Int.natCast_nonneg c), Int.toNat_natCast]

/-- A response carries the id of its call. -/
theorem responseState_output {c : Nat} (h : c ≤ 2 ^ 53)
    (hbinary : env.encoding ≠ .json) (output : Value) :
    ActorConn.responseState c
        (.obj [("id", env.arrivedUint (UInt64.ofNat c)), ("output", output)])
      = .returned output := by
  have hid : env.arrivedUint (UInt64.ofNat c) = .bigint c := by
    unfold Setup.arrivedUint
    split
    · next hjson => exact absurd hjson hbinary
    · unfold uint
      rw [toNat_ofNat h]
  rw [hid]
  show (if (c : Int) = c then _ else _) = _
  rw [if_pos rfl]
  rfl

namespace ActorConn

-- ============================================================== sending

/-- A request that can be sent is under way. -/
theorem sendMessage_ready (hf : env.Faithful) {s : ActorConn} (hs : s.Ready)
    {q : Queued} (hq : q.Valid) :
    ∃ m : Sent, s.sendMessage env q = { s with toServer := s.toServer ++ [m] }
      ∧ m.call = q.call ∧ m.Valid env := by
  obtain ⟨name, args, hmessage⟩ := hq
  obtain ⟨data, hdata, hback⟩ :=
    delivers_request hf (UInt64.ofNat q.call) name args
  obtain ⟨hopen, ids, hids, hactor, hconn, htoken⟩ := hs
  refine ⟨⟨q.call, data⟩, ?_, rfl, name, args, hback⟩
  have hserialize : serializeWithEncoding env.platform env.encoding
      q.message.toValue (toServerVersioned env.bare) = some data := by
    rw [hmessage]
    exact hdata
  unfold sendMessage
  rw [hserialize, if_pos hopen]
  split
  · rfl
  · rw [hids]
    dsimp only
    rw [hactor, hconn, htoken]
    rfl

/-- A request is sent, or it is queued by a client that is not ready. -/
theorem sendMessage_cases (hf : env.Faithful) (s : ActorConn) {q : Queued}
    (hq : q.Valid) :
    (∃ m : Sent, s.sendMessage env q = { s with toServer := s.toServer ++ [m] }
      ∧ m.call = q.call ∧ m.Valid env)
    ∨ (¬ s.Ready ∧ ∃ queue,
        s.sendMessage env q = { s with messageQueue := queue }
        ∧ (queue = s.messageQueue ++ [q] ∨ queue = q :: s.messageQueue)) := by
  by_cases hready : s.Ready
  · exact .inl (sendMessage_ready hf hready hq)
  · obtain ⟨name, args, hmessage⟩ := hq
    obtain ⟨data, hdata, hback⟩ :=
      delivers_request hf (UInt64.ofNat q.call) name args
    have hserialize : serializeWithEncoding env.platform env.encoding
        q.message.toValue (toServerVersioned env.bare) = some data := by
      rw [hmessage]
      exact hdata
    unfold sendMessage
    rw [hserialize]
    dsimp only
    split
    · split
      · -- a socket takes messages before `Init` was handled
        left
        exact ⟨⟨q.call, data⟩, rfl, rfl, name, args, hback⟩
      · cases s.ids with
        | none => exact .inr ⟨hready, _, rfl, .inr rfl⟩
        | some ids =>
            dsimp only
            split
            · left
              exact ⟨⟨q.call, data⟩, rfl, rfl, name, args, hback⟩
            · exact .inr ⟨hready, _, rfl, .inr rfl⟩
    · exact .inr ⟨hready, _, rfl, .inl rfl⟩

/-- The queue of a ready client is sent. -/
theorem foldl_sendMessage (hf : env.Faithful) (queue : List Queued) :
    ∀ s : ActorConn, s.Ready → (∀ q ∈ queue, q.Valid) →
      ∃ ms : List Sent,
        queue.foldl (sendMessage env) s
          = { s with toServer := s.toServer ++ ms }
        ∧ (∀ c, tally (fun m : Sent => some m.call) ms c
          = tally (fun q : Queued => some q.call) queue c)
        ∧ ∀ m ∈ ms, m.Valid env := by
  induction queue with
  | nil =>
      intro s _ _
      exact ⟨[], by simp, fun _ => rfl, nofun⟩
  | cons q queue ih =>
      intro s hs hvalid
      obtain ⟨m, hsend, hcall, hm⟩ :=
        sendMessage_ready hf hs (hvalid q (List.mem_cons_self ..))
      have hs' : Ready { s with toServer := s.toServer ++ [m] } := hs
      obtain ⟨ms, hfold, htally, hms⟩ := ih _ hs'
        fun q' hq' => hvalid q' (List.mem_cons_of_mem _ hq')
      refine ⟨m :: ms, ?_, ?_, ?_⟩
      · rw [List.foldl_cons, hsend, hfold]
        simp
      · intro c
        simp only [tally_cons, htally c, hcall]
      · intro m' hm'
        rcases List.mem_cons.mp hm' with rfl | hm'
        · exact hm
        · exact hms m' hm'

-- ============================================================== pending

theorem pendingCount_eq_one {s : ActorConn} {c : Nat} :
    s.pendingCount c = 1
      ↔ ∃ call, s.calls[c]? = some call ∧ call.state = .pending := by
  unfold pendingCount
  split
  · next id hcall =>
      simp [hcall]
  · next hother =>
      constructor
      · intro h
        cases h
      · rintro ⟨⟨id, state⟩, hcall, rfl⟩
        exact absurd hcall (hother id)

theorem pendingCount_le (s : ActorConn) (c : Nat) : s.pendingCount c ≤ 1 := by
  unfold pendingCount
  split <;> omega

/-- A settled call is pending no more, and the others are as they were. -/
theorem pendingCount_settle {s : ActorConn} {c : Nat} {state : CallState}
    (hstate : state ≠ .pending) (c' : Nat) :
    (s.settle c state).pendingCount c'
      = if c = c' then 0 else s.pendingCount c' := by
  unfold pendingCount settle
  dsimp only
  rw [List.getElem?_modify]
  by_cases hc : c = c'
  · subst hc
    rw [if_pos rfl]
    cases hcall : s.calls[c]? with
    | none => rfl
    | some call =>
        obtain ⟨id, st⟩ := call
        cases st with
        | pending => cases state <;> simp_all
        | _ => simp
  · rw [if_neg hc]
    cases hcall : s.calls[c']? with
    | none => simp [hc]
    | some call => simp [hc]

-- =========================================================== one more call

theorem pendingCount_push {s s' : ActorConn} {id : Nat}
    (hcalls : s'.calls = s.calls ++ [⟨id, .pending⟩]) (c : Nat) :
    s'.pendingCount c
      = s.pendingCount c + (if s.calls.length = c then 1 else 0) := by
  unfold pendingCount
  rw [hcalls]
  rcases Nat.lt_trichotomy c s.calls.length with hlt | heq | hgt
  · rw [List.getElem?_append_left hlt, if_neg (by omega)]
    rfl
  · subst heq
    simp
  · have hnew : (s.calls ++ [⟨id, .pending⟩])[c]? = none := by
      apply List.getElem?_eq_none
      rw [List.length_append, List.length_singleton]
      omega
    have hold : s.calls[c]? = none := List.getElem?_eq_none (by omega)
    rw [hnew, hold, if_neg (by omega)]

end ActorConn

open ActorConn

/-- A call is made, and its request queued or sent. -/
theorem ConnInv.push {s s' : ActorConn} (h : ConnInv env s)
    (hlt : s.calls.length < 2 ^ 53)
    (hcalls : s'.calls = s.calls ++ [⟨s.calls.length, .pending⟩])
    (hcounter : s'.actionIdCounter = s.calls.length + 1)
    (hflight : s'.actionsInFlight
      = s.actionsInFlight.filter (·.1 ≠ s.calls.length)
        ++ [(s.calls.length, s.calls.length)])
    (hun : ∀ c, s'.unanswered c
      = s.unanswered c + (if s.calls.length = c then 1 else 0))
    (hqueue : ∀ q ∈ s'.messageQueue, q.Valid)
    (hsent : ∀ m ∈ s'.toServer, m.Valid env)
    (htasks : s'.tasks = s.tasks) (hclient : s'.toClient = s.toClient)
    (hreplied : s'.replied = s.replied)
    (herrors : s'.connectionErrors = s.connectionErrors)
    (hopen : s'.isOpen = s.isOpen)
    (hready : s'.ids ≠ none → s'.Ready ∧ s'.messageQueue = []) :
    ConnInv env s' := by
  have hpend := pendingCount_push hcalls
  have hfresh : s.pendingCount s.calls.length = 0 := by
    unfold pendingCount
    rw [List.getElem?_eq_none (Nat.le_refl _)]
  refine ⟨?_, ?_, ?_, ?_, ?_, hqueue, hsent, ?_, ?_, ?_, ?_, ?_, ?_, hready⟩
  · rw [hcounter, hcalls]
    simp
  · rw [hcalls, List.length_append, List.length_singleton]
    omega
  · intro c call hcall
    rw [hcalls, List.getElem?_append] at hcall
    split at hcall
    · exact h.id_eq c call hcall
    · next hge =>
        have hmem := List.mem_of_getElem? hcall
        rw [List.mem_singleton.mp hmem]
        have hlen := (List.getElem?_eq_some_iff.mp hcall).1
        simp only [List.length_singleton] at hlen
        show s.calls.length = c
        omega
  · intro c
    have hbalance := h.balance c
    have hanswers : s'.answers c = s.answers c := by
      unfold answers
      rw [hclient]
    rw [hun, hanswers, hpend]
    omega
  · intro k c
    have hold := h.in_flight k c
    rw [hflight, hpend, List.mem_append, List.mem_filter, List.mem_singleton,
      hold]
    by_cases hc : s.calls.length = c
    · subst hc
      rw [hfresh]
      simp
    · rw [if_neg hc]
      constructor
      · rintro (⟨⟨hkc, hone⟩, _⟩ | heq)
        · exact ⟨hkc, hone⟩
        · injection heq with _ heq
          exact absurd heq.symm hc
      · rintro ⟨hkc, hone⟩
        refine .inl ⟨⟨hkc, hone⟩, ?_⟩
        simp only [ne_eq, decide_not, Bool.not_eq_true', decide_eq_false_iff_not]
        omega
  · rw [htasks]
    exact h.running
  · intro a ha
    rw [hclient] at ha
    have hold := h.answered a ha
    unfold Answer.Valid at hold ⊢
    rw [hreplied, hopen]
    exact hold
  · intro c call hcall hstate
    rw [hcalls, List.getElem?_append] at hcall
    rw [hreplied]
    split at hcall
    · exact h.settled c call hcall hstate
    · have hmem := List.mem_of_getElem? hcall
      rw [List.mem_singleton.mp hmem] at hstate
      exact absurd rfl hstate
  · rw [hreplied]
    exact h.replied_once
  · intro p hp
    rw [hreplied] at hp
    obtain ⟨hzero, hcall⟩ := h.replied_done p hp
    rw [hun, hcalls, List.length_append, List.length_singleton]
    rw [if_neg (by omega)]
    omega
  · rw [herrors]
    exact h.no_errors

/-- `action()`. -/
theorem ConnInv.action (hf : env.Faithful) {s : ActorConn}
    (h : ConnInv env s) (hlt : s.actionIdCounter < 2 ^ 53) (name : String)
    (args : List UInt8) : ConnInv env (s.action env name args) := by
  rw [h.counter_eq] at hlt
  have hcounter : nextNumber s.actionIdCounter = s.calls.length + 1 := by
    unfold nextNumber
    rw [h.counter_eq, if_pos hlt]
  unfold ActorConn.action
  dsimp only
  rw [hcounter, h.counter_eq]
  have hq : Queued.Valid ⟨s.calls.length, ⟨.actionRequest
      ⟨UInt64.ofNat s.calls.length, name, args⟩⟩⟩ := ⟨name, args, rfl⟩
  rcases sendMessage_cases hf { s with
      actionIdCounter := s.calls.length + 1
      calls := s.calls ++ [⟨s.calls.length, .pending⟩]
      actionsInFlight := s.actionsInFlight.filter (·.1 ≠ s.calls.length)
        ++ [(s.calls.length, s.calls.length)] } hq
    with ⟨m, hsend, hcall, hm⟩ | ⟨hnot, queue, hsend, hqueue⟩
  · rw [hsend]
    refine h.push hlt rfl rfl rfl ?_ h.queued ?_ rfl rfl rfl rfl rfl h.ready
    · intro c
      unfold unanswered
      simp only [tally_append, tally_cons, tally_nil, hcall,
        Option.some.injEq]
      omega
    · intro m' hm'
      rcases List.mem_append.mp hm' with hm' | hm'
      · exact h.sent m' hm'
      · rw [List.mem_singleton.mp hm']
        exact hm
  · rw [hsend]
    refine h.push hlt rfl rfl rfl ?_ ?_ h.sent rfl rfl rfl rfl rfl ?_
    · intro c
      unfold unanswered
      rcases hqueue with rfl | rfl
      · simp only [tally_append, tally_cons, tally_nil, Option.some.injEq]
        omega
      · simp only [tally_cons, Option.some.injEq]
        omega
    · intro q hmem
      replace hmem : q ∈ queue := hmem
      rcases hqueue with rfl | rfl
      · rcases List.mem_append.mp hmem with hmem | hmem
        · exact h.queued q hmem
        · rw [List.mem_singleton.mp hmem]
          exact hq
      · rcases List.mem_cons.mp hmem with rfl | hmem
        · exact hq
        · exact h.queued q hmem
    · intro hids
      exact absurd (h.ready hids).1 hnot

-- ============================================================= the server

/-- Replies stay, and so does an open transport: what is under way to the
client stays valid. -/
theorem Answer.Valid.mono {s s' : ActorConn} {a : Answer} (h : a.Valid env s)
    (hreplied : ∀ p ∈ s.replied, p ∈ s'.replied)
    (hopen : s.isOpen = true → s'.isOpen = true) : a.Valid env s' := by
  unfold Answer.Valid at h ⊢
  split
  · next hcall =>
      rw [hcall] at h
      obtain ⟨init, hactor, hconn, htoken, hisOpen, hdata⟩ := h
      exact ⟨init, hactor, hconn, htoken, hopen hisOpen, hdata⟩
  · next c hcall =>
      rw [hcall] at h
      obtain ⟨r, hr, hmatch, hdata⟩ := h
      exact ⟨r, hreplied _ hr, hmatch, hdata⟩

/-- `toServer` and `tasks` are those of `s` with the request of `c` taken
out. -/
structure Taken (s : ActorConn) (c : Nat) (toServer : List Sent)
    (tasks : List ServerTask) : Prop where
  sent : ∀ m ∈ toServer, m ∈ s.toServer
  running : ∀ t ∈ tasks, t ∈ s.tasks
  balance : ∀ c', tally (fun m : Sent => some m.call) toServer c'
      + tally (fun t : ServerTask => some t.call) tasks c'
      + (if c = c' then 1 else 0)
    = tally (fun m : Sent => some m.call) s.toServer c'
      + tally (fun t : ServerTask => some t.call) s.tasks c'

theorem taken_sent {s : ActorConn} {i : Nat} {m : Sent}
    (hm : s.toServer[i]? = some m) :
    Taken s m.call (s.toServer.eraseIdx i) s.tasks := by
  refine ⟨?_, fun _ ht => ht, ?_⟩
  · intro m' hm'
    exact List.mem_of_mem_eraseIdx hm'
  · intro c
    have htally := tally_eraseIdx (f := fun m : Sent => some m.call) c i hm
    simp only [Option.some.injEq] at htally
    omega

theorem taken_task {s : ActorConn} {i : Nat} {t : ServerTask}
    (ht : s.tasks[i]? = some t) :
    Taken s t.call s.toServer (s.tasks.eraseIdx i) := by
  refine ⟨fun _ hm => hm, ?_, ?_⟩
  · intro t' ht'
    exact List.mem_of_mem_eraseIdx ht'
  · intro c
    have htally :=
      tally_eraseIdx (f := fun t : ServerTask => some t.call) c i ht
    simp only [Option.some.injEq] at htally
    omega

/-- The call of a request that was taken out is pending, and was not
answered. -/
theorem Taken.pending {s : ActorConn} {c : Nat} {toServer : List Sent}
    {tasks : List ServerTask} (h : ConnInv env s)
    (ht : Taken s c toServer tasks) :
    s.pendingCount c = 1 ∧ s.answers c = 0 ∧ c < s.calls.length
      ∧ ∀ r, (c, r) ∉ s.replied := by
  have hsum := ht.balance c
  rw [if_pos rfl] at hsum
  have hbalance := h.balance c
  have hle := s.pendingCount_le c
  have hun : 1 ≤ s.unanswered c := by
    unfold unanswered
    omega
  have hone : s.pendingCount c = 1 := by omega
  refine ⟨hone, by omega, ?_, ?_⟩
  · obtain ⟨call, hcall, _⟩ := pendingCount_eq_one.mp hone
    exact (List.getElem?_eq_some_iff.mp hcall).1
  · intro r hr
    have hzero : s.unanswered c = 0 := (h.replied_done _ hr).1
    omega

/-- The server starts on a request. -/
theorem ConnInv.run {s : ActorConn} (h : ConnInv env s) {c : Nat}
    {toServer : List Sent} {tasks : List ServerTask}
    (ht : Taken s c toServer tasks) (hbinary : env.encoding ≠ .json) :
    ConnInv env { s with
      toServer := toServer
      tasks := tasks ++ [⟨c, env.arrivedUint (UInt64.ofNat c)⟩] } := by
  have hun : ∀ c', unanswered { s with
      toServer := toServer
      tasks := tasks ++ [⟨c, env.arrivedUint (UInt64.ofNat c)⟩] } c'
      = s.unanswered c' := by
    intro c'
    have hsum := ht.balance c'
    unfold unanswered
    simp only [tally_append, tally_cons, tally_nil, Option.some.injEq]
    omega
  refine ⟨h.counter_eq, h.calls_le, h.id_eq, ?_, h.in_flight, h.queued, ?_,
    ?_, ?_, h.settled, h.replied_once, ?_, h.no_errors, h.ready⟩
  · intro c'
    rw [hun]
    exact h.balance c'
  · intro m hm
    exact h.sent m (ht.sent m hm)
  · intro t hmem
    rcases List.mem_append.mp hmem with hmem | hmem
    · exact h.running t (ht.running t hmem)
    · rw [List.mem_singleton.mp hmem]
      exact ⟨rfl, hbinary⟩
  · intro a ha
    exact (h.answered a ha).mono (fun _ hp => hp) id
  · intro p hp
    rw [hun]
    exact h.replied_done p hp

/-- The server answers a request. -/
theorem ConnInv.reply (hf : env.Faithful) {s : ActorConn}
    (h : ConnInv env s) {c : Nat} {toServer : List Sent}
    {tasks : List ServerTask} (ht : Taken s c toServer tasks)
    {r : ServerReply} (hmatch : Matchable env c r) :
    ∃ s', ActorConn.reply env { s with toServer := toServer, tasks := tasks } c
        (env.arrivedUint (UInt64.ofNat c)) r = some s' ∧ ConnInv env s' := by
  obtain ⟨hpend, _, hlt, hnew⟩ := ht.pending h
  -- what is sent, and that it arrives
  have hdeliver : Delivers env (toClientVersioned env.bare)
      (replyValue (env.arrivedUint (UInt64.ofNat c)) r)
      (arrivedReply env c r) := by
    cases r with
    | error e => exact delivers_error hf _ e
    | output output =>
        have hbinary : env.encoding ≠ .json := hmatch
        have hid : env.arrivedUint (UInt64.ofNat c)
            = uint (UInt64.ofNat c) := by
          unfold Setup.arrivedUint
          split
          · next hjson => exact absurd hjson hbinary
          · rfl
        have hbytes : env.arrivedBytes output = .bytes output := by
          unfold Setup.arrivedBytes
          split
          · next hjson => exact absurd hjson hbinary
          · rfl
        unfold arrivedReply replyValue
        dsimp only
        rw [hid, hbytes]
        exact delivers_output hf hbinary _ output
  obtain ⟨data, hdata, hback⟩ := hdeliver
  unfold ActorConn.reply
  rw [hdata]
  refine ⟨_, rfl, ?_⟩
  have hun : ∀ c', unanswered { s with
      toServer := toServer
      tasks := tasks
      toClient := s.toClient ++ [⟨some c, data⟩]
      replied := s.replied ++ [(c, r)] } c' + (if c = c' then 1 else 0)
      = s.unanswered c' := by
    intro c'
    have hsum := ht.balance c'
    unfold unanswered
    dsimp only
    omega
  refine ⟨h.counter_eq, h.calls_le, h.id_eq, ?_, h.in_flight, h.queued, ?_,
    ?_, ?_, ?_, ?_, ?_, h.no_errors, h.ready⟩
  · intro c'
    have hsum := hun c'
    have hbalance := h.balance c'
    show _ = s.pendingCount c'
    unfold answers at hbalance ⊢
    simp only [tally_append, tally_cons, tally_nil, Option.some.injEq]
    omega
  · intro m hm
    exact h.sent m (ht.sent m hm)
  · intro t hmem
    exact h.running t (ht.running t hmem)
  · intro a ha
    rcases List.mem_append.mp ha with ha | ha
    · refine (h.answered a ha).mono ?_ id
      intro p hp
      exact List.mem_append_left _ hp
    · rw [List.mem_singleton.mp ha]
      exact ⟨r, List.mem_append_right _ (List.mem_singleton_self _), hmatch,
        hback⟩
  · intro c' call hcall hstate
    obtain ⟨r', hr', houtcome⟩ := h.settled c' call hcall hstate
    exact ⟨r', List.mem_append_left _ hr', houtcome⟩
  · show ((s.replied ++ [(c, r)]).map (·.1)).Nodup
    rw [List.map_append, List.nodup_append]
    refine ⟨h.replied_once, by simp, ?_⟩
    intro c' hc' c'' hc'' heq
    obtain ⟨⟨c₀, r₀⟩, hp, rfl⟩ := List.mem_map.mp hc'
    rw [List.map_singleton, List.mem_singleton] at hc''
    have hc : c₀ = c := heq.trans hc''
    rw [hc] at hp
    exact hnew r₀ hp
  · intro p hp
    rcases List.mem_append.mp hp with hp | hp
    · obtain ⟨hzero, hcall⟩ := h.replied_done p hp
      have hle : _ ≤ s.unanswered p.1 :=
        Nat.le_trans (Nat.le_add_right _ _) (Nat.le_of_eq (hun p.1))
      rw [hzero] at hle
      exact ⟨Nat.le_zero.mp hle, hcall⟩
    · rw [List.mem_singleton.mp hp]
      have hsum := hun c
      rw [if_pos rfl] at hsum
      have hbalance := h.balance c
      have hle : s.unanswered c ≤ 1 := by omega
      rw [← hsum] at hle
      exact ⟨Nat.le_zero.mp (Nat.le_of_succ_le_succ hle), hlt⟩

/-- The server answers a request with an error: it can, and where the
client can match its id, the invariant holds. -/
theorem ConnInv.replyError (hf : env.Faithful) {s : ActorConn}
    (h : ConnInv env s) {c : Nat} {toServer : List Sent}
    {tasks : List ServerTask} (ht : Taken s c toServer tasks)
    (e : ServerError) :
    ∃ s', ActorConn.reply env { s with toServer := toServer, tasks := tasks } c
        (env.arrivedUint (UInt64.ofNat c)) (.error e) = some s'
      ∧ ((env.arrivedUint (UInt64.ofNat c)).truthy = true →
        ConnInv env s') := by
  by_cases htruthy : (env.arrivedUint (UInt64.ofNat c)).truthy = true
  · obtain ⟨s', hs', hinv⟩ := h.reply hf ht (r := .error e) htruthy
    exact ⟨s', hs', fun _ => hinv⟩
  · obtain ⟨data, hdata, _⟩ := @delivers_error env hf (UInt64.ofNat c) e
    unfold ActorConn.reply
    dsimp only
    rw [hdata]
    exact ⟨_, rfl, fun htrue => absurd htrue htruthy⟩

/-- What the server reads from a request under way. -/
theorem readRequest_sent {m : Sent} (hm : m.Valid env) :
    ∃ args, readRequest env m.data
      = some (env.arrivedUint (UInt64.ofNat m.call),
          env.platform.cborDecode (toBytes (env.arrivedBytes args))) := by
  obtain ⟨name, args, hdata⟩ := hm
  refine ⟨args, ?_⟩
  unfold readRequest
  rw [hdata]
  rfl

/-- Under json no arguments decode. -/
theorem cborDecode_json (hf : env.Faithful) (hjson : env.encoding = .json)
    (args : List UInt8) :
    env.platform.cborDecode (toBytes (env.arrivedBytes args)) = none := by
  unfold Setup.Faithful at hf
  unfold Setup.arrivedBytes
  rw [hjson] at hf ⊢
  exact hf

/-- The server takes a request: it can, and if the guard lets it, the
invariant holds. -/
theorem ConnInv.receive (hf : env.Faithful) {s : ActorConn}
    (h : ConnInv env s) {i : Nat} {m : Sent}
    (hm : s.toServer[i]? = some m) (e : ServerError) :
    ∃ s', s.receive env i e = some s'
      ∧ (s.ReplySafe env (.receive i e) → ConnInv env s') := by
  have htaken := taken_sent hm
  obtain ⟨args, hread⟩ :=
    readRequest_sent (h.sent m (List.mem_of_getElem? hm))
  unfold ActorConn.receive
  rw [hm]
  dsimp only
  rw [hread]
  cases hdecode : env.platform.cborDecode (toBytes (env.arrivedBytes args)) with
  | some decoded =>
      refine ⟨_, rfl, fun _ => h.run htaken ?_⟩
      intro hjson
      rw [cborDecode_json hf hjson] at hdecode
      cases hdecode
  | none =>
      -- the arguments do not decode: the answer is an error with the id
      obtain ⟨s', hs', hinv⟩ := h.replyError hf htaken e
      refine ⟨s', hs', ?_⟩
      rintro ⟨_, hfailed⟩
      have hid : s.failedId env (.receive i e)
          = some (env.arrivedUint (UInt64.ofNat m.call)) := by
        unfold failedId
        dsimp only
        rw [hm]
        dsimp only
        rw [hread, hdecode]
      rw [hid] at hfailed
      exact hinv hfailed

/-- An action ends: its request can be answered, and if the guard lets
it, the invariant holds. -/
theorem ConnInv.complete (hf : env.Faithful) {s : ActorConn}
    (h : ConnInv env s) {i : Nat} {t : ServerTask}
    (ht : s.tasks[i]? = some t) (r : ServerReply) :
    ∃ s', s.complete env i r = some s'
      ∧ (s.ReplySafe env (.complete i r) → ConnInv env s') := by
  have htaken := taken_task ht
  obtain ⟨hid, hbinary⟩ := h.running t (List.mem_of_getElem? ht)
  unfold ActorConn.complete
  rw [ht]
  dsimp only
  rw [hid]
  cases r with
  | output output =>
      obtain ⟨s', hs', hinv⟩ :=
        h.reply hf htaken (r := .output output) hbinary
      exact ⟨s', hs', fun _ => hinv⟩
  | error e =>
      obtain ⟨s', hs', hinv⟩ := h.replyError hf htaken e
      refine ⟨s', hs', ?_⟩
      rintro ⟨_, hfailed⟩
      have hfail : s.failedId env (.complete i (.error e))
          = some (env.arrivedUint (UInt64.ofNat t.call)) := by
        unfold failedId
        dsimp only
        rw [ht, Option.map_some, hid]
      rw [hfail] at hfailed
      exact hinv hfailed

-- ============================================================= the client

/-- The client connects. -/
theorem ConnInv.connect (hf : env.Faithful) {s s' : ActorConn}
    (h : ConnInv env s) {init : Protocol.Init}
    (hs : s.connect env init = some s') : ConnInv env s' := by
  obtain ⟨data, hdata, hback⟩ := @delivers_init env hf init
  unfold ActorConn.connect at hs
  by_cases hcond : s.isOpen = false ∧ init.actorId ≠ ""
      ∧ init.connectionId ≠ "" ∧ init.connectionToken ≠ ""
  · rw [if_pos hcond] at hs
    dsimp only at hs
    rw [hdata] at hs
    injection hs with hs
    obtain ⟨hclosed, hactor, hconn, htoken⟩ := hcond
    rw [← hs]
    refine ⟨h.counter_eq, h.calls_le, h.id_eq, ?_, h.in_flight, h.queued,
      h.sent, h.running, ?_, h.settled, h.replied_once, h.replied_done,
      h.no_errors, ?_⟩
    · intro c
      have hbalance := h.balance c
      show s.unanswered c + tally _ (s.toClient ++ [_]) c = s.pendingCount c
      unfold answers at hbalance
      simp only [tally_append, tally_cons, tally_nil, reduceCtorEq, if_false]
      omega
    · intro a ha
      rcases List.mem_append.mp ha with ha | ha
      · exact (h.answered a ha).mono (fun _ hp => hp) fun _ => rfl
      · rw [List.mem_singleton.mp ha]
        exact ⟨init, hactor, hconn, htoken, rfl, hback⟩
    · intro hids
      have hopen := (h.ready hids).1.1
      rw [hclosed] at hopen
      cases hopen
  · rw [if_neg hcond] at hs
    cases hs

/-- `Init` makes the client ready, and its queue is sent. -/
theorem ConnInv.handleInit (hf : env.Faithful) {s : ActorConn}
    (h : ConnInv env s) {i : Nat} {a : Answer}
    (ha : s.toClient[i]? = some a) (hcall : a.call = none)
    {init : Protocol.Init} (hactor : init.actorId ≠ "")
    (hconn : init.connectionId ≠ "") (htoken : init.connectionToken ≠ "")
    (hopen : s.isOpen = true) :
    ConnInv env (handleOnOpen env { s with
      toClient := s.toClient.eraseIdx i
      ids := some ⟨.str init.actorId, .str init.connectionId,
        .str init.connectionToken⟩ }) := by
  have hready : Ready { s with
      toClient := s.toClient.eraseIdx i
      ids := some ⟨.str init.actorId, .str init.connectionId,
        .str init.connectionToken⟩
      messageQueue := [] } := by
    refine ⟨hopen, _, rfl, ?_, ?_, ?_⟩
    · exact decide_eq_true hactor
    · exact decide_eq_true hconn
    · exact decide_eq_true htoken
  obtain ⟨ms, hfold, htally, hms⟩ :=
    foldl_sendMessage hf s.messageQueue _ hready h.queued
  unfold handleOnOpen
  dsimp only
  rw [hfold]
  have hun : ∀ c, unanswered { s with
      toClient := s.toClient.eraseIdx i
      ids := some ⟨.str init.actorId, .str init.connectionId,
        .str init.connectionToken⟩
      messageQueue := []
      toServer := s.toServer ++ ms } c = s.unanswered c := by
    intro c
    unfold unanswered
    simp only [tally_append, tally_nil, htally c]
    omega
  refine ⟨h.counter_eq, h.calls_le, h.id_eq, ?_, h.in_flight, nofun, ?_,
    h.running, ?_, h.settled, h.replied_once, ?_, h.no_errors, ?_⟩
  · intro c
    rw [hun]
    have hbalance := h.balance c
    have htaken := tally_eraseIdx (f := fun a : Answer => a.call) c i ha
    rw [hcall] at htaken
    simp only [reduceCtorEq, if_false] at htaken
    unfold answers at hbalance ⊢
    show _ = s.pendingCount c
    dsimp only
    omega
  · intro m hm
    rcases List.mem_append.mp hm with hm | hm
    · exact h.sent m hm
    · exact hms m hm
  · intro a' ha'
    exact (h.answered a' (List.mem_of_mem_eraseIdx ha')).mono
      (fun _ hp => hp) id
  · intro p hp
    rw [hun]
    exact h.replied_done p hp
  · intro _
    exact ⟨hready, rfl⟩

/-- A pending call is found under the id that arrives. -/
theorem ConnInv.takeActionInFlight {s : ActorConn} (h : ConnInv env s)
    {c : Nat} (hpend : s.pendingCount c = 1) (erased : List Answer) :
    ActorConn.takeActionInFlight { s with toClient := erased }
        (env.arrivedUint (UInt64.ofNat c))
      = some ({ s with
          toClient := erased
          actionsInFlight := s.actionsInFlight.filter (·.1 ≠ c) }, c) := by
  have hle : c ≤ 2 ^ 53 := by
    obtain ⟨call, hcall, _⟩ := pendingCount_eq_one.mp hpend
    have hlt := (List.getElem?_eq_some_iff.mp hcall).1
    have hcalls := h.calls_le
    omega
  unfold ActorConn.takeActionInFlight
  rw [actionKey_arrivedUint hle]
  dsimp only
  have hmem : (c, c) ∈ s.actionsInFlight := (h.in_flight c c).mpr ⟨rfl, hpend⟩
  cases hfind : s.actionsInFlight.find? (·.1 = c) with
  | none =>
      have hno := List.find?_eq_none.mp hfind _ hmem
      simp at hno
  | some entry =>
      obtain ⟨k, c'⟩ := entry
      have hk := List.find?_some hfind
      have hentry := (h.in_flight k c').mp (List.mem_of_find?_eq_some hfind)
      have hc : c' = c := by
        rw [← hentry.1]
        exact of_decide_eq_true hk
      rw [hc]

/-- What `#handleOnMessage` does with an action response. -/
theorem handleMessage_actionResponse (s : ActorConn) (id output : Value) :
    handleMessage env s (actionResponse id output)
      = match s.takeActionInFlight id with
        | some (s, c) =>
            match s.calls[c]? with
            | some call => s.settle c (responseState call.id
                (.obj [("id", id), ("output", output)]))
            | none => s
        | none => s :=
  rfl

/-- And with an error that has the id of an action. -/
theorem handleMessage_errorResponse (s : ActorConn) {id : Value}
    (h : id.truthy = true) (code message metadata : Value) :
    handleMessage env s (errorResponse id code message metadata)
      = match s.takeActionInFlight id with
        | some (s, c) => s.settle c (.threw ⟨code, message, metadata⟩)
        | none => s :=
  if_pos h

/-- The client handles a reply: its call settles with it. -/
theorem ConnInv.handleReply {s : ActorConn} (h : ConnInv env s) {c : Nat}
    {r : ServerReply} (hpend : s.pendingCount c = 1)
    (hmatch : Matchable env c r) (erased : List Answer) :
    handleMessage env { s with toClient := erased } (arrivedReply env c r)
      = settle { s with
          toClient := erased
          actionsInFlight := s.actionsInFlight.filter (·.1 ≠ c) }
        c (env.outcome r) := by
  have htake := h.takeActionInFlight hpend erased
  cases r with
  | output output =>
      obtain ⟨call, hcall, _⟩ := pendingCount_eq_one.mp hpend
      have hlt := (List.getElem?_eq_some_iff.mp hcall).1
      have hcalls := h.calls_le
      have hstate := @responseState_output env c (by omega) hmatch
        (env.arrivedBytes output)
      show handleMessage env { s with toClient := erased }
        (actionResponse _ _) = _
      rw [handleMessage_actionResponse, htake]
      dsimp only
      rw [hcall]
      dsimp only
      rw [h.id_eq c call hcall, hstate]
      rfl
  | error e =>
      have htruthy : (env.arrivedUint (UInt64.ofNat c)).truthy = true := hmatch
      show handleMessage env { s with toClient := erased }
        (errorResponse _ _ _ _) = _
      rw [handleMessage_errorResponse _ htruthy, htake]
      rfl

theorem outcome_ne_pending (r : ServerReply) : env.outcome r ≠ .pending := by
  cases r <;> simp [Setup.outcome]

/-- A call settles with its reply. -/
theorem ConnInv.settle {s : ActorConn} (h : ConnInv env s) {i c : Nat}
    {a : Answer} (ha : s.toClient[i]? = some a) (hcall : a.call = some c)
    {r : ServerReply} (hr : (c, r) ∈ s.replied) :
    ConnInv env (ActorConn.settle { s with
      toClient := s.toClient.eraseIdx i
      actionsInFlight := s.actionsInFlight.filter (·.1 ≠ c) }
      c (env.outcome r)) := by
  have hpend := fun c' => pendingCount_settle (s := { s with
    toClient := s.toClient.eraseIdx i
    actionsInFlight := s.actionsInFlight.filter (·.1 ≠ c) }) (c := c)
    (@outcome_ne_pending env r) c'
  have hbefore : ∀ c', pendingCount { s with
    toClient := s.toClient.eraseIdx i
    actionsInFlight := s.actionsInFlight.filter (·.1 ≠ c) } c'
    = s.pendingCount c' := fun _ => rfl
  -- a call after the step, and the same one before
  have hback : ∀ (c' : Nat) (call : Call),
      (ActorConn.settle { s with
        toClient := s.toClient.eraseIdx i
        actionsInFlight := s.actionsInFlight.filter (·.1 ≠ c) }
        c (env.outcome r)).calls[c']? = some call →
      ∃ old, s.calls[c']? = some old ∧ call.id = old.id
        ∧ (call.state = old.state
          ∨ c' = c ∧ call.state = env.outcome r) := by
    intro c' call hc'
    unfold ActorConn.settle at hc'
    dsimp only at hc'
    rw [List.getElem?_modify] at hc'
    obtain ⟨old, hold, heq⟩ := Option.map_eq_some_iff.mp hc'
    refine ⟨old, hold, ?_⟩
    by_cases hcc : c = c'
    · rw [if_pos hcc] at heq
      obtain ⟨id, state⟩ := old
      rw [← heq]
      cases state with
      | pending => exact ⟨rfl, .inr ⟨hcc.symm, rfl⟩⟩
      | _ => exact ⟨rfl, .inl rfl⟩
    · rw [if_neg hcc] at heq
      rw [← heq]
      exact ⟨rfl, .inl rfl⟩
  have hlen : (ActorConn.settle { s with
      toClient := s.toClient.eraseIdx i
      actionsInFlight := s.actionsInFlight.filter (·.1 ≠ c) }
      c (env.outcome r)).calls.length = s.calls.length := by
    unfold ActorConn.settle
    exact List.length_modify ..
  refine ⟨?_, ?_, ?_, ?_, ?_, h.queued, h.sent, h.running, ?_, ?_,
    h.replied_once, ?_, h.no_errors, h.ready⟩
  · rw [hlen]
    exact h.counter_eq
  · rw [hlen]
    exact h.calls_le
  · intro c' call hc'
    obtain ⟨old, hold, hid, _⟩ := hback c' call hc'
    rw [hid]
    exact h.id_eq c' old hold
  · intro c'
    have hbalance := h.balance c'
    have hle := s.pendingCount_le c'
    have htaken := tally_eraseIdx (f := fun a : Answer => a.call) c' i ha
    rw [hcall] at htaken
    simp only [Option.some.injEq] at htaken
    rw [hpend, hbefore]
    show s.unanswered c' + tally _ (s.toClient.eraseIdx i) c' = _
    unfold answers at hbalance
    by_cases hcc : c = c'
    · rw [if_pos hcc] at htaken ⊢
      omega
    · rw [if_neg hcc] at htaken ⊢
      omega
  · intro k c'
    rw [hpend, hbefore]
    show (k, c') ∈ s.actionsInFlight.filter (·.1 ≠ c) ↔ _
    rw [List.mem_filter, h.in_flight k c']
    by_cases hcc : c = c'
    · rw [if_pos hcc]
      constructor
      · rintro ⟨⟨hk, _⟩, hne⟩
        have hkc : k ≠ c := of_decide_eq_true hne
        omega
      · rintro ⟨_, hzero⟩
        omega
    · rw [if_neg hcc]
      constructor
      · rintro ⟨hold, _⟩
        exact hold
      · rintro ⟨hk, hone⟩
        refine ⟨⟨hk, hone⟩, decide_eq_true ?_⟩
        show k ≠ c
        omega
  · intro a' ha'
    exact (h.answered a' (List.mem_of_mem_eraseIdx ha')).mono
      (fun _ hp => hp) id
  · intro c' call hc' hstate
    obtain ⟨old, hold, _, hsame | ⟨rfl, hout⟩⟩ := hback c' call hc'
    · rw [hsame] at hstate ⊢
      exact h.settled c' old hold hstate
    · exact ⟨r, hr, hout⟩
  · intro p hp
    rw [hlen]
    exact h.replied_done p hp

/-- The client handles a message. -/
theorem ConnInv.deliver (hf : env.Faithful) {s s' : ActorConn}
    (h : ConnInv env s) {i : Nat} (hs : s.deliver env i = some s') :
    ConnInv env s' := by
  unfold ActorConn.deliver at hs
  cases ha : s.toClient[i]? with
  | none =>
      rw [ha] at hs
      cases hs
  | some a =>
      rw [ha] at hs
      dsimp only at hs
      have hvalid := h.answered a (List.mem_of_getElem? ha)
      unfold Answer.Valid at hvalid
      split at hvalid
      · next hcall =>
          obtain ⟨init, hactor, hconn, htoken, hopen, hdata⟩ := hvalid
          rw [hdata] at hs
          injection hs with hs
          rw [← hs]
          exact h.handleInit hf ha hcall hactor hconn htoken hopen
      · next c hcall =>
          obtain ⟨r, hr, hmatch, hdata⟩ := hvalid
          rw [hdata] at hs
          injection hs with hs
          have hcount := tally_pos (f := fun a : Answer => a.call)
            (List.mem_of_getElem? ha) hcall
          have hbalance := h.balance c
          have hle := s.pendingCount_le c
          have hpend : s.pendingCount c = 1 := by
            unfold answers at hbalance
            omega
          rw [← hs, h.handleReply hpend hmatch]
          exact h.settle ha hcall hr

-- ================================================================ every run

theorem connInv_init : ConnInv env {} := by
  refine ⟨rfl, Nat.zero_le _, nofun, fun _ => rfl, ?_, nofun, nofun, nofun,
    nofun, nofun, List.nodup_nil, nofun, rfl, ?_⟩
  · intro k c
    constructor
    · intro hmem
      cases hmem
    · rintro ⟨_, hone⟩
      cases hone
  · intro hids
    exact absurd rfl hids

/-- One guarded step preserves the invariant. -/
theorem connInv_step (hf : env.Faithful) {s s' : ActorConn} {a : ConnStep}
    (h : ConnInv env s) (hsafe : s.ReplySafe env a)
    (hstep : connStep env s a = some s') : ConnInv env s' := by
  cases a with
  | action name args =>
      injection hstep with hstep
      rw [← hstep]
      exact h.action hf hsafe.1 name args
  | connect init => exact h.connect hf hstep
  | receive i e =>
      cases hm : s.toServer[i]? with
      | none =>
          simp only [connStep, ActorConn.receive, hm] at hstep
          cases hstep
      | some m =>
          obtain ⟨s₁, hs₁, hinv⟩ := h.receive hf hm e
          have heq : s₁ = s' := by
            rw [← Option.some.injEq, ← hs₁]
            exact hstep
          rw [← heq]
          exact hinv hsafe
  | complete i r =>
      cases ht : s.tasks[i]? with
      | none =>
          simp only [connStep, ActorConn.complete, ht] at hstep
          cases hstep
      | some t =>
          obtain ⟨s₁, hs₁, hinv⟩ := h.complete hf ht r
          have heq : s₁ = s' := by
            rw [← Option.some.injEq, ← hs₁]
            exact hstep
          rw [← heq]
          exact hinv hsafe
  | deliver i => exact h.deliver hf hstep

/-- The invariant holds along every guarded run. -/
theorem connInv_reaches (hf : env.Faithful) {s : ActorConn}
    (h : (connSystem env).Reaches (ReplySafe env) s) : ConnInv env s := by
  refine System.Reaches.invariant (P := ConnInv env) ?_ ?_ h
  · rintro s rfl
    exact connInv_init
  · intro s a s' _ hinv hsafe hstep
    exact connInv_step hf hinv hsafe hstep

/-- In every run in which the server fails no request with a falsy id
and the counter is exact, replies are matched. -/
theorem replyMatching_of_safe (hf : env.Faithful) {s : ActorConn}
    (h : (connSystem env).Reaches (ReplySafe env) s) :
    s.ReplyMatching env := by
  have hinv := connInv_reaches hf h
  refine ⟨hinv.settled, hinv.replied_once, hinv.no_errors, ?_,
    fun hids => (hinv.ready hids).2, ?_, ?_⟩
  · intro hqueue hserver htasks hclient call hmem hpending
    obtain ⟨c, hc⟩ := List.mem_iff_getElem?.mp hmem
    have hone := pendingCount_eq_one.mpr ⟨call, hc, hpending⟩
    have hbalance := hinv.balance c
    unfold unanswered answers at hbalance
    rw [hqueue, hserver, htasks, hclient, hone] at hbalance
    simp only [tally_nil] at hbalance
    omega
  · intro i m hm e
    obtain ⟨s', hs', _⟩ := hinv.receive hf hm e
    rw [hs']
    rfl
  · intro i t ht r
    obtain ⟨s', hs', _⟩ := hinv.complete hf ht r
    rw [hs']
    rfl

/-- A WebSocket under bare, where cbor-x decodes the empty list of
arguments. -/
def bareSetup : Setup where
  platform :=
    { number := .decimal
      cborEncode := fun _ => none
      cborDecode := fun b => if b = [0x80] then some (.arr []) else none
      textDecode := fun _ => "" }
  bare := schemaBare
  encoding := .bare
  transport := .websocket

/-- An error of an action. -/
def userError : ServerError := ⟨"user_error", "no", [0xf7]⟩

/-- Two calls, answered in the other order: the second one fails. -/
def twoCalls : List ConnStep :=
  [.connect ⟨"actor", "conn", "token"⟩, .deliver 0, .action "inc" [0x80],
    .action "inc" [0x80], .receive 0 userError, .receive 0 userError,
    .complete 1 (.error userError), .complete 0 (.output [0x01]),
    .deliver 0, .deliver 0]

/-- Each of them settles with its own reply. -/
theorem replyMatching_of_safe_twoCalls :
    ∃ s : ActorConn, (connSystem bareSetup).run {} twoCalls = some s
      ∧ s.calls = [⟨0, .returned (.bytes [0x01])⟩,
          ⟨1, .threw ⟨.str "user_error", .str "no", .bytes [0xf7]⟩⟩]
      ∧ s.ReplyMatching bareSetup := by
  refine ⟨_, rfl, rfl,
    @replyMatching_of_safe bareSetup schemaBare_roundTrip _ ?_⟩
  refine System.Reaches.run twoCalls (.init rfl) ?_ rfl
  decide

/-- The first call fails: its error goes to the connection. -/
theorem replyMatching_fails :
    ¬ ∀ env : Setup, env.Faithful → ∀ s : ActorConn,
      (connSystem env).Reachable s → s.ReplyMatching env := by
  intro hall
  have hmatch := hall bareSetup schemaBare_roundTrip _ (System.Reachable.run
    [.connect ⟨"actor", "conn", "token"⟩, .deliver 0, .action "inc" [0x80],
      .receive 0 userError, .complete 0 (.error userError), .deliver 0]
    (.init rfl) rfl)
  exact absurd hmatch.no_connection_error (List.cons_ne_nil _ _)

end RivetKit.Client
