/-
A broadcast is isolated from its failures if and only if no send that
throws comes before one that would not (`broadcast_isolated_iff`): the
loop of `_broadcast` ends at the first send that throws.

# The argument

- The cache of the serializer changes nothing: what a send comes to is
  what it comes to by itself (`sendMessage_spec`).
- So what is sent is the list of the subscribers up to the first that
  throws, those passed over left out (`sendAll_sent`).
- In every reachable state a set of the index has nobody twice
  (`indexShape_reachable`).
-/
import RivetKit.Actor.Broadcast
import RivetKit.Actor.Proofs.SubscriptionIndex
import RivetKit.Lib.Decimal

namespace RivetKit.Actor

open Transition
open Js
open Protocol

variable {ctx : ConnContext}

-- ================================================================ the cache

/-- A serializer of `data`: it has cached nothing but what serializing
would give. -/
def CachedSerializer.Of (ctx : ConnContext) (data : Value)
    (message : CachedSerializer) : Prop :=
  message.data = data ∧ ∀ encoding cached,
    message.cache.lookup encoding = some cached →
      serializeWithEncoding ctx.platform encoding data
        (toClientVersioned ctx.bare) = some cached

theorem CachedSerializer.of_empty (data : Value) :
    CachedSerializer.Of ctx data { data := data } := by
  refine ⟨rfl, ?_⟩
  intro encoding cached h
  cases h

/-- Serializing gives what it would give without the cache. -/
theorem CachedSerializer.Of.serialize {data : Value}
    {message : CachedSerializer} (h : message.Of ctx data)
    (encoding : Encoding) :
    match serializeWithEncoding ctx.platform encoding data
        (toClientVersioned ctx.bare) with
    | some serialized => ∃ message', message'.Of ctx data
        ∧ message.serialize ctx encoding = some (serialized, message')
    | none => message.serialize ctx encoding = none := by
  obtain ⟨hdata, hcache⟩ := h
  unfold CachedSerializer.serialize
  rw [hdata]
  cases hlookup : message.cache.lookup encoding with
  | some cached =>
      rw [hcache encoding cached hlookup]
      exact ⟨message, ⟨hdata, hcache⟩, rfl⟩
  | none =>
      cases hserialized : serializeWithEncoding ctx.platform encoding data
          (toClientVersioned ctx.bare) with
      | none => rfl
      | some serialized =>
          refine ⟨{ data := data
                    cache := (encoding, serialized) :: message.cache },
            ⟨rfl, ?_⟩, rfl⟩
          intro encoding' cached hcached
          rw [List.lookup_cons] at hcached
          split at hcached
          · rename_i heq
            injection hcached with hcached
            rw [eq_of_beq heq, ← hcached]
            exact hserialized
          · exact hcache encoding' cached hcached

/-- The serialization in the encoding that a driver's state has. -/
theorem CachedSerializer.Of.bind {data : Value} {message : CachedSerializer}
    (h : message.Of ctx data) (state : Value) :
    match (driverStateEncoding state).bind
        (CachedSerializer.serialize ctx { data := data }) with
    | some (serialized, _) => ∃ message', message'.Of ctx data
        ∧ (driverStateEncoding state).bind (message.serialize ctx)
          = some (serialized, message')
    | none => (driverStateEncoding state).bind (message.serialize ctx)
        = none := by
  cases driverStateEncoding state with
  | none => rfl
  | some encoding =>
      rw [Option.bind_some, Option.bind_some]
      have hempty : CachedSerializer.Of ctx data { data := data } :=
        CachedSerializer.of_empty data
      have hfresh := hempty.serialize encoding
      have hcached := h.serialize encoding
      cases hserialized : serializeWithEncoding ctx.platform encoding data
          (toClientVersioned ctx.bare) with
      | none =>
          rw [hserialized] at hfresh hcached
          rw [hfresh]
          exact hcached
      | some serialized =>
          rw [hserialized] at hfresh hcached
          obtain ⟨fresh, -, hfresh⟩ := hfresh
          rw [hfresh]
          exact hcached

/-- A send comes to what it comes to by itself. -/
theorem connSendMessage_spec {data : Value} {message : CachedSerializer}
    (h : message.Of ctx data) (conn : PersistedConn) :
    (connSendMessage ctx conn message).1
        = (connSendMessage ctx conn { data := data }).1
      ∧ (connSendMessage ctx conn message).2.Of ctx data := by
  have hbind := h.bind conn.connDriverState
  unfold connSendMessage
  cases conn.connDriver with
  | http => exact ⟨rfl, h⟩
  | webSocket =>
      dsimp only
      unfold webSocketSendMessage
      cases ctx.websockets conn.connId with
      | none => exact ⟨rfl, h⟩
      | some send =>
          dsimp only
          revert hbind
          cases (driverStateEncoding conn.connDriverState).bind
              (CachedSerializer.serialize ctx { data := data }) with
          | none =>
              intro hnone
              dsimp only at hnone
              rw [hnone]
              exact ⟨rfl, h⟩
          | some fresh =>
              rintro ⟨message', hof, heq⟩
              rw [heq]
              exact ⟨rfl, hof⟩
  | sse =>
      dsimp only
      unfold sseSendMessage
      cases ctx.sseStreams conn.connId with
      | none => exact ⟨rfl, h⟩
      | some writeSSE =>
          dsimp only
          revert hbind
          cases (driverStateEncoding conn.connDriverState).bind
              (CachedSerializer.serialize ctx { data := data }) with
          | none =>
              intro hnone
              dsimp only at hnone
              rw [hnone]
              exact ⟨rfl, h⟩
          | some fresh =>
              rintro ⟨message', hof, heq⟩
              rw [heq]
              exact ⟨rfl, hof⟩

namespace LiveInstance

variable {s s' : LiveInstance}

theorem sendMessage_spec {data : Value} {message : CachedSerializer}
    (h : message.Of ctx data) (s : LiveInstance) (c : Nat) :
    (s.sendMessage ctx c message).1
        = (s.sendMessage ctx c { data := data }).1
      ∧ (s.sendMessage ctx c message).2.Of ctx data := by
  unfold sendMessage
  cases s.persistOf c with
  | none => exact ⟨rfl, h⟩
  | some conn => exact connSendMessage_spec h conn

-- ================================================================= the loop

/-- What a subscriber gets. -/
def sentTo (outcome : Nat → SendOutcome) (c : Nat) :
    Option (Nat × OutputData) :=
  match outcome c with
  | .sent data => some (c, data)
  | _ => none

theorem sentTo_eq_some {outcome : Nat → SendOutcome} {c d : Nat}
    {data : OutputData} :
    sentTo outcome c = some (d, data) ↔ c = d ∧ outcome c = .sent data := by
  unfold sentTo
  cases hsent : outcome c with
  | sent sent =>
      dsimp only
      constructor
      · intro h
        injection h with h
        injection h with hc hdata
        exact ⟨hc, by rw [hdata]⟩
      · rintro ⟨hc, hdata⟩
        injection hdata with hdata
        rw [hc, hdata]
  | unsent =>
      constructor
      · intro h
        cases h
      · rintro ⟨-, h⟩
        cases h
  | threw =>
      constructor
      · intro h
        cases h
      · rintro ⟨-, h⟩
        cases h

/-- The loop goes on until a send throws. -/
theorem sendAll_sent {data : Value} (s : LiveInstance) (cs : List Nat) :
    ∀ {message : CachedSerializer}, message.Of ctx data →
      (s.sendAll ctx cs message).1
        = (cs.takeWhile fun c =>
            (s.sendMessage ctx c { data := data }).1 ≠ .threw).filterMap
          (sentTo fun c => (s.sendMessage ctx c { data := data }).1) := by
  induction cs with
  | nil => exact fun _ => rfl
  | cons c cs ih =>
      intro message h
      obtain ⟨houtcome, hof⟩ := sendMessage_spec h s c
      rw [List.takeWhile_cons, ← houtcome]
      unfold sendAll
      split
      · rename_i next hsend
        rw [hsend]
        rfl
      · rename_i next hsend
        rw [hsend] at houtcome hof ⊢
        have hnone : sentTo (fun c =>
            (s.sendMessage ctx c { data := data }).1) c = none := by
          unfold sentTo
          dsimp only
          rw [← houtcome]
        rw [if_pos (by simp), List.filterMap_cons, hnone]
        exact ih hof
      · rename_i sent next hsend
        rw [hsend] at houtcome hof ⊢
        have hsome : sentTo (fun c =>
            (s.sendMessage ctx c { data := data }).1) c = some (c, sent) :=
          sentTo_eq_some.2 ⟨rfl, houtcome.symm⟩
        rw [if_pos (by simp), List.filterMap_cons, hsome]
        exact congrArg ((c, sent) :: ·) (ih hof)

/-- What is sent: nothing by an actor that is not ready, else to each
subscriber up to the first that throws. -/
theorem broadcast_sent (s : LiveInstance) (name : String)
    (args : List Value) :
    (s.broadcast ctx name args).sent
      = if s.assertReady false then
          ((s.subscribers name).reverse.takeWhile fun c =>
            s.sendOutcome ctx name args c ≠ .threw).filterMap
              (sentTo (s.sendOutcome ctx name args))
        else [] := by
  unfold broadcast subscribers
  split
  case isFalse => rfl
  case isTrue =>
    cases s.subscriptionIndex.lookup name with
    | none => rfl
    | some subscriptions =>
        unfold sendOutcome
        dsimp only
        cases ctx.platform.cborEncode (.arr args) with
        | none =>
            have hnil : ∀ cs : List Nat, cs.takeWhile
                (fun _ => decide (SendOutcome.threw ≠ .threw)) = [] := by
              intro cs
              cases cs with
              | nil => rfl
              | cons c cs => rfl
            exact (congrArg (List.filterMap _)
              (hnil subscriptions.reverse)).symm
        | some args =>
            exact sendAll_sent s subscriptions.reverse
              (CachedSerializer.of_empty _)

-- ========================================================== the reachable

theorem subscriptionIndex_mutate (s : LiveInstance)
    (path : Option (List String)) (valid : Bool)
    (f : PersistedActor → PersistedActor) :
    (s.mutate path valid f).subscriptionIndex = s.subscriptionIndex := by
  unfold mutate
  split
  · rfl
  · rfl

/-- The sets of the index are sets. -/
def Shaped (s : LiveInstance) : Prop := IndexShape s.subscriptionIndex

theorem Shaped.of_eq (h : s.Shaped)
    (heq : s'.subscriptionIndex = s.subscriptionIndex) : s'.Shaped := by
  unfold Shaped
  rw [heq]
  exact h

theorem Shaped.addSubscription {opts : ActorOptions} (h : s.Shaped)
    (eventName : String) (c : Nat) (fromPersist : Bool) :
    (s.addSubscription opts eventName c fromPersist).Shaped := by
  unfold LiveInstance.addSubscription
  split
  · exact h
  · rename_i conn hconn
    split
    · exact h
    · refine IndexShape.indexAdd ?_ eventName c
      cases fromPersist with
      | true => exact h
      | false => exact h.of_eq (subscriptionIndex_mutate s _ true _)

theorem Shaped.removeSubscription {opts : ActorOptions} (h : s.Shaped)
    (eventName : String) (c : Nat) (fromRemoveConn : Bool) :
    (s.removeSubscription opts eventName c fromRemoveConn).Shaped := by
  unfold LiveInstance.removeSubscription
  split
  · exact h
  · rename_i conn hconn
    split
    · exact h
    · refine IndexShape.indexDelete ?_ eventName c
      cases fromRemoveConn with
      | true => exact h
      | false => exact h.of_eq (subscriptionIndex_mutate _ _ true _)

/-- A loop whose steps keep the sets. -/
theorem shaped_foldl {α : Type} {f : LiveInstance → α → LiveInstance}
    (hf : ∀ s a, Shaped s → (f s a).Shaped) (as : List α) :
    ∀ {s : LiveInstance}, s.Shaped → (as.foldl f s).Shaped := by
  induction as with
  | nil => exact fun h => h
  | cons a as ih => exact fun h => ih (hf _ a h)

theorem Shaped.removeConn {opts : ActorOptions} (h : s.Shaped) (c : Nat) :
    (s.removeConn opts c).Shaped := by
  unfold LiveInstance.removeConn
  split
  · exact h
  · rename_i conn hconn
    refine shaped_foldl
      (fun s eventName hs => hs.removeSubscription eventName c true) _ ?_
    split
    · exact h.of_eq (subscriptionIndex_mutate s _ true _)
    · exact h

theorem Shaped.loadConnection {opts : ActorOptions} (h : s.Shaped)
    (ref : Nat) : (s.loadConnection opts ref).Shaped := by
  unfold LiveInstance.loadConnection
  exact shaped_foldl
    (fun s eventName hs => hs.addSubscription eventName _ true) _ h

theorem shaped_restored (opts : ActorOptions) (r : PersistedActor)
    (stateData : Value) : (restored opts r stateData).Shaped := by
  have hempty : IndexShape [] := fun _ h => absurd h List.not_mem_nil
  unfold restored
  split
  · exact shaped_foldl (fun s ref hs => hs.loadConnection ref) _ hempty
  · exact hempty

theorem Shaped.createConn {opts : ActorOptions} (h : s.Shaped)
    {id token : String} {params state : Value} {driver : ConnectionDriver}
    {driverState auth : Value}
    (hstep : s.createConn opts id token params state driver driverState auth
      = some s') : s'.Shaped := by
  unfold LiveInstance.createConn at hstep
  split at hstep
  · injection hstep with hs
    rw [← hs]
    exact h.of_eq (subscriptionIndex_mutate _ _ _ _)
  · cases hstep

theorem Shaped.mutateConn (h : s.Shaped) (conn : Conn) (key : String)
    (f : PersistedConn → PersistedConn) : (s.mutateConn conn key f).Shaped :=
  h.of_eq (subscriptionIndex_mutate s _ true _)

/-- Every step keeps them. -/
theorem Shaped.step {codec : Codec} {opts : ActorOptions} (h : s.Shaped)
    {a : LiveStep} (hstep : indexStep codec opts s a = some s') :
    s'.Shaped := by
  cases a with
  | stateChange path valid f =>
      simp only [indexStep, liveStep] at hstep
      split at hstep
      · injection hstep with hs
        rw [← hs]
        exact h.of_eq (subscriptionIndex_mutate s _ _ _)
      · cases hstep
  | createConn id token params state driver driverState auth =>
      simp only [indexStep] at hstep
      split at hstep
      · exact h.createConn hstep
      · cases hstep
  | removeConn c =>
      injection hstep with hs
      rw [← hs]
      exact h.removeConn c
  | addSubscription eventName c =>
      injection hstep with hs
      rw [← hs]
      exact h.addSubscription eventName c false
  | removeSubscription eventName c =>
      injection hstep with hs
      rw [← hs]
      exact h.removeSubscription eventName c false
  | setConnState c f =>
      injection hstep with hs
      rw [← hs]
      unfold setConnState
      split
      · exact h
      · exact h.mutateConn _ _ _
  | scheduleEvent event =>
      injection hstep with hs
      rw [← hs]
      exact h.of_eq (subscriptionIndex_mutate s _ _ _)
  | onAlarm =>
      injection hstep with hs
      rw [← hs]
      exact h.of_eq (subscriptionIndex_mutate s _ _ _)
  | checkLiveness c =>
      injection hstep with hs
      rw [← hs]
      unfold checkLiveness
      split
      · exact h
      · exact h.mutateConn _ _ _
  | stop =>
      injection hstep with hs
      rw [← hs]
      exact h
  | save a =>
      simp only [indexStep] at hstep
      split at hstep
      · obtain ⟨t, ht, hs⟩ := Option.map_eq_some_iff.1 hstep
        rw [← hs]
        exact h
      · cases hstep

/-- So nobody is in a set twice. -/
theorem nodup_subscribers {codec : Codec} {opts : ActorOptions}
    {r : PersistedActor} (h : (indexSystem codec opts r).Reachable s)
    (eventName : String) : (s.subscribers eventName).Nodup := by
  have hshaped : s.Shaped := by
    refine h.invariant (P := Shaped) ?_ ?_
    · rintro s ⟨stateData, hs⟩
      rw [hs]
      exact shaped_restored opts r stateData
    · intro s a s' _ hs _ hstep
      exact hs.step hstep
  exact IndexShape.members_nodup hshaped eventName

-- ============================================================= the property

/-- What is in front of an element that is taken was taken. -/
theorem forall_of_mem_takeWhile {α : Type} {p : α → Bool} {c : α}
    {post : List α} : ∀ {pre : List α}, c ∉ pre →
      c ∈ (pre ++ c :: post).takeWhile p → ∀ x ∈ pre, p x = true := by
  intro pre
  induction pre with
  | nil => exact fun _ _ x hx => absurd hx List.not_mem_nil
  | cons y pre ih =>
      intro hpre hmem
      have hne : c ≠ y := by
        intro heq
        rw [heq] at hpre
        exact hpre List.mem_cons_self
      have hpre : c ∉ pre := fun h => hpre (List.mem_cons_of_mem y h)
      rw [List.cons_append, List.takeWhile_cons] at hmem
      split at hmem
      · rename_i hy
        rcases List.mem_cons.1 hmem with heq | hmem
        · exact absurd heq hne
        · exact List.forall_mem_cons.2 ⟨hy, ih hpre hmem⟩
      · exact absurd hmem List.not_mem_nil

/-- Who is sent the event. -/
theorem mem_broadcast_sent {name : String} {args : List Value} {c : Nat}
    {data : OutputData} :
    (c, data) ∈ (s.broadcast ctx name args).sent
      ↔ s.assertReady false = true
        ∧ c ∈ (s.subscribers name).reverse.takeWhile
          (fun c => decide (s.sendOutcome ctx name args c ≠ .threw))
        ∧ s.sendOutcome ctx name args c = .sent data := by
  rw [broadcast_sent]
  split
  · rename_i hready
    rw [List.mem_filterMap]
    constructor
    · rintro ⟨d, hd, hsent⟩
      obtain ⟨hcd, hsent⟩ := sentTo_eq_some.1 hsent
      rw [← hcd]
      exact ⟨hready, hd, hsent⟩
    · rintro ⟨-, hc, hsent⟩
      exact ⟨c, hc, sentTo_eq_some.2 ⟨rfl, hsent⟩⟩
  · rename_i hready
    constructor
    · intro h
      exact absurd h List.not_mem_nil
    · intro h
      exact absurd h.1 hready

/-- Nobody is sent it twice. -/
theorem broadcast_once {name : String} {args : List Value}
    (hnodup : (s.subscribers name).Nodup) :
    ((s.broadcast ctx name args).sent.map (·.1)).Nodup := by
  rw [broadcast_sent]
  split
  · have hsub : ∀ cs : List Nat,
        ((cs.filterMap (sentTo (s.sendOutcome ctx name args))).map
          (·.1)).Sublist cs := by
      intro cs
      induction cs with
      | nil => exact List.Sublist.slnil
      | cons c cs ih =>
          rw [List.filterMap_cons]
          cases hsent : sentTo (s.sendOutcome ctx name args) c with
          | none => exact ih.cons c
          | some sent =>
              have hc := (@sentTo_eq_some _ c sent.1 sent.2).1 hsent
              rw [List.map_cons, ← hc.1]
              exact ih.cons_cons c
    have hreverse := List.nodup_reverse.2 hnodup
    exact hreverse.sublist
      ((hsub _).trans (List.takeWhile_sublist _))
  · exact List.nodup_nil

end LiveInstance

open LiveInstance

/-- In every reachable state a broadcast is isolated if and only if it is
undisturbed. -/
theorem broadcast_isolated_iff {codec : Codec} {opts : ActorOptions}
    {r : PersistedActor} {s : LiveInstance}
    (h : (indexSystem codec opts r).Reachable s) (ctx : ConnContext)
    (name : String) (args : List Value) :
    s.Isolated ctx name args ↔ s.Undisturbed ctx name args := by
  have hnodup := nodup_subscribers h name
  constructor
  · intro hisolated earlier c later data hsplit hsent
    have hc : c ∈ s.subscribers name := by
      rw [← List.mem_reverse, hsplit]
      exact List.mem_append_right _ List.mem_cons_self
    obtain ⟨hready, htaken, -⟩ :=
      mem_broadcast_sent.1 (hisolated.all c hc data hsent)
    refine ⟨hready, ?_⟩
    rw [hsplit] at htaken
    have hfront : c ∉ earlier := by
      intro hmem
      have hsplit' := List.nodup_reverse.2 hnodup
      rw [hsplit] at hsplit'
      exact (List.nodup_append.1 hsplit').2.2 c hmem c List.mem_cons_self rfl
    intro d hd
    exact of_decide_eq_true (forall_of_mem_takeWhile hfront htaken d hd)
  · intro hundisturbed
    refine ⟨?_, ?_, broadcast_once hnodup, ?_⟩
    · intro c hc data hsent
      obtain ⟨earlier, later, hsplit⟩ :=
        List.append_of_mem (List.mem_reverse.2 hc)
      obtain ⟨hready, hearlier⟩ := hundisturbed _ _ _ _ hsplit hsent
      refine mem_broadcast_sent.2 ⟨hready, ?_, hsent⟩
      rw [hsplit, List.takeWhile_append_of_pos fun d hd =>
        decide_eq_true (hearlier d hd)]
      refine List.mem_append_right _ ?_
      rw [List.takeWhile_cons, if_pos (by simp [hsent])]
      exact List.mem_cons_self
    · intro c data hmem
      obtain ⟨-, htaken, hsent⟩ := mem_broadcast_sent.1 hmem
      exact ⟨List.mem_reverse.1 (List.takeWhile_sublist _ |>.subset htaken),
        hsent⟩
    · unfold broadcast
      split
      · split
        · rfl
        · split
          · rfl
          · rfl
      · rfl

-- ================================================================ two sockets

/-- A client connects with a WebSocket. -/
def connectSocket (id : String) : LiveStep :=
  .createConn id "token" .undefined .undefined .webSocket
    (.obj [("encoding", .str "cbor")]) .undefined

/-- Two clients connect and subscribe. -/
def twoSubscribers : List LiveStep :=
  [.save .ready, connectSocket "a", connectSocket "b",
    .addSubscription "news" 0, .addSubscription "news" 1]

/-- Sockets that send, or of which the first throws. -/
def sampleSockets (throws : Bool) : ConnContext where
  platform :=
    { number := .decimal
      cborEncode := fun _ => some [1]
      cborDecode := fun _ => none
      textDecode := fun _ => "" }
  bare :=
    let none : BareCodec := ⟨fun _ => none, fun _ => none⟩
    ⟨none, none, none, none, none, none⟩
  websockets := fun id => some fun _ => !(throws && id = "a")
  sseStreams := fun _ => none

/-- Both are sent the event. -/
theorem two_sockets_isolated : ∃ s,
    (indexSystem sampleCodec ⟨10000⟩ {}).run
        (.restored ⟨10000⟩ {} .undefined) twoSubscribers = some s
      ∧ (s.broadcast (sampleSockets false) "news" []).sent
        = [(0, .binary [1]), (1, .binary [1])]
      ∧ s.Isolated (sampleSockets false) "news" [] := by
  refine ⟨_, rfl, rfl, (@broadcast_isolated_iff sampleCodec ⟨10000⟩ {} _
    (System.Reachable.run twoSubscribers (.init ⟨.undefined, rfl⟩) rfl)
    _ _ _).2 ?_⟩
  intro earlier c later data hsplit _
  refine ⟨rfl, ?_⟩
  intro d hd
  have hmem : d ∈ [0, 1] := by
    have hall := List.mem_append_left (c :: later) hd
    rw [← hsplit] at hall
    exact hall
  rcases List.mem_cons.1 hmem with heq | hmem
  · rw [heq]
    decide
  · rw [List.mem_singleton.1 hmem]
    decide

/-- The socket of the first subscriber throws, and the second is sent
nothing. -/
theorem second_socket_unsent :
    ¬ ∀ s, (indexSystem sampleCodec ⟨10000⟩ {}).Reachable s →
      ∀ ctx name args, s.Isolated ctx name args := by
  intro h
  have hall := (h _ (@System.Reachable.run _ _
    (indexSystem sampleCodec ⟨10000⟩ {}) _ _ twoSubscribers
    (.init ⟨.undefined, rfl⟩) rfl) (sampleSockets true) "news" []).all
  exact absurd (hall 1 (by decide) (.binary [1]) rfl) (by decide)

end RivetKit.Actor
