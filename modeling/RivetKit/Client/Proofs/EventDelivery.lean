/-
A listener hears every event that is broadcast while it is registered
(`events_delivered`): each once, in the order of the broadcasts, whatever
the other listeners and the other clients do, as long as its own connection
is up, no send to a connection before it throws, and what arrives can be
decoded. Over json nothing can, and no listener is called
(`unheard_of_json`).

# The two ends

They are those of the actor and of the wire: a broadcast sends to whom
`_broadcast` sends (`sent_iff_subscribed`), and the arguments arrive as
what `new Uint8Array` makes of them (`newUint8Array_arrivedBytes`).

# The invariants

`Kept` is of one connection: the registry of its listeners, and that the
server will have heard of every event in the map. It holds with any
listeners that throw or unsubscribe.

`Attentive` is of one listener, from a settled state on. The server is
subscribed to its event, and no request on its way takes that back, because
its set is not empty. What it has been called with and what is on its way
to it (`awaited`) are the events that were broadcast.
-/
import RivetKit.Actor.Broadcast
import RivetKit.Actor.Proofs.Broadcast
import RivetKit.Client.EventDelivery
import RivetKit.Client.HttpCalls
import RivetKit.Client.Proofs.Delivery
import RivetKit.Client.Proofs.Dispatches
import RivetKit.Client.Proofs.HttpErrors

namespace RivetKit.Client

open Transition
open Protocol (Event Platform)
open Actor.LiveInstance

-- ============================================================ the two ends

/-- A `Broadcast` of the actor: the loop takes the index in the order of its
insertions. -/
def broadcastOfActor (ctx : Actor.ConnContext) (actor : Actor.LiveInstance)
    (event : Event) (args : List Js.Value) : Broadcast :=
  let order := (actor.subscribers event.name).reverse
  { event
    order
    throws := order.filter fun c =>
      decide (actor.sendOutcome ctx event.name args c = .threw) }

/-- What is taken is not behind an element that fails. -/
theorem mem_takeWhile_iff {p : Nat → Bool} {c : Nat} {cs : List Nat}
    (hc : c ∈ cs) :
    c ∈ cs.takeWhile p
      ↔ ∀ d ∈ cs.takeWhile (· ≠ c) ++ [c], p d = true := by
  induction cs with
  | nil => cases hc
  | cons d cs ih =>
      rw [List.takeWhile_cons, List.takeWhile_cons]
      by_cases hd : d = c
      · subst hd
        cases hp : p d <;> simp [hp]
      · have hmem : c ∈ cs := (List.mem_cons.1 hc).resolve_left (Ne.symm hd)
        cases hp : p d <;> simp [hd, hp, Ne.symm hd, ih hmem]

/-- `broadcast` at one connection is what `_broadcast` does: a connection
with a socket is sent the event exactly if it is subscribed, and no send
throws up to its own. -/
theorem sent_iff_subscribed {ctx : Actor.ConnContext}
    {actor : Actor.LiveInstance} (hindexed : actor.Indexed)
    (hready : actor.assertReady false = true) {event : Event}
    {args : List Js.Value} {c : Nat} (hmap : actor.InMap c)
    (hsocket : actor.sendOutcome ctx event.name args c ≠ .unsent) :
    (∃ data, (c, data) ∈ (actor.broadcast ctx event.name args).sent)
      ↔ event.name ∈ actor.subscriptionsOf c
        ∧ (broadcastOfActor ctx actor event args).SendsTo c := by
  have horder : c ∈ (actor.subscribers event.name).reverse
      ↔ event.name ∈ actor.subscriptionsOf c := by
    rw [List.mem_reverse]
    exact ⟨fun h => ((hindexed.index _ c).1 h).2,
      fun h => (hindexed.index _ c).2 ⟨hmap, h⟩⟩
  constructor
  · rintro ⟨data, hsent⟩
    obtain ⟨-, htaken, -⟩ := mem_broadcast_sent.1 hsent
    have hmem := (List.takeWhile_sublist _).subset htaken
    refine ⟨horder.1 hmem, ?_⟩
    intro d hd hthrows
    have hreturns := (mem_takeWhile_iff hmem).1 htaken d hd
    exact of_decide_eq_true hreturns
      (of_decide_eq_true (List.mem_filter.1 hthrows).2)
  · rintro ⟨hsubscribed, hsends⟩
    have hmem := horder.2 hsubscribed
    have hfront : ∀ d ∈ (actor.subscribers event.name).reverse.takeWhile
          (· ≠ c) ++ [c], d ∈ (actor.subscribers event.name).reverse := by
      intro d hd
      rcases List.mem_append.1 hd with hd | hd
      · exact (List.takeWhile_sublist _).subset hd
      · exact List.mem_singleton.1 hd ▸ hmem
    have hreturns : ∀ d ∈ (actor.subscribers event.name).reverse.takeWhile
          (· ≠ c) ++ [c],
        decide (actor.sendOutcome ctx event.name args d ≠ .threw)
          = true := by
      intro d hd
      refine decide_eq_true fun hthrew => hsends d hd ?_
      exact List.mem_filter.2 ⟨hfront d hd, decide_eq_true hthrew⟩
    have htaken := (mem_takeWhile_iff hmem).2 hreturns
    cases hown : actor.sendOutcome ctx event.name args c with
    | sent data =>
        exact ⟨data, mem_broadcast_sent.2 ⟨hready, htaken, hown⟩⟩
    | unsent => exact absurd hown hsocket
    | threw =>
        have hreturned := of_decide_eq_true
          (hreturns c (List.mem_append_right _ List.mem_cons_self))
        exact absurd hown hreturned

/-- What `new Uint8Array` makes of the arguments that arrive. -/
theorem newUint8Array_arrivedBytes {env : Setup} {s : EventDelivery}
    (h : s.encoding = env.encoding) (event : Event) :
    newUint8Array (env.arrivedBytes event.args)
      = some (s.arrivedArgs event) := by
  unfold Setup.arrivedBytes EventDelivery.arrivedArgs
  rw [h]
  cases env.encoding <;> rfl

-- ========================================================== one connection

namespace EventConn

variable {s s' : EventConn}

/-- What every run keeps of a connection. -/
structure Kept (s : EventConn) : Prop where
  registry : s.Registered
  frame : s.FrameInv
  nodup : ∀ f, s.dispatching = some f → f.listeners.Nodup
  server : s.server.Nodup
  hears : s.phase = .ready → ∀ name, s.Known name → name ∈ s.heard

theorem Kept.heard_nodup (h : s.Kept) : s.heard.Nodup :=
  nodup_foldl_serverApply s.toServer s.server h.server

/-- A request is sent, and the map has nothing more than it says. -/
theorem Kept.hears_send (h : s.Kept) {eventName : String} {subscribe : Bool}
    (hserver : s'.server = s.server)
    (htoServer : s'.toServer
      = (s.sendSubscription eventName subscribe).toServer)
    (hphase : s'.phase = s.phase)
    (hknown : ∀ name, s'.Known name →
      if name = eventName then subscribe = true else s.Known name) :
    s'.phase = .ready → ∀ name, s'.Known name → name ∈ s'.heard := by
  intro hready name hname
  rw [hphase] at hready
  have hheard : s'.heard = serverApply s.heard ⟨eventName, subscribe⟩ := by
    unfold sendSubscription at htoServer
    rw [if_neg (by rw [hready]; decide)] at htoServer
    unfold heard
    rw [hserver, htoServer]
    exact List.foldl_append
  rw [hheard, mem_serverApply h.heard_nodup]
  have hgiven := hknown name hname
  by_cases heq : name = eventName
  · rw [if_pos heq] at hgiven ⊢
    exact hgiven
  · rw [if_neg heq] at hgiven ⊢
    exact h.hears hready name hgiven

/-- A step that sends nothing, and adds nothing to the map. -/
theorem Kept.hears_quiet (h : s.Kept) (hserver : s'.server = s.server)
    (htoServer : s'.toServer = s.toServer) (hphase : s'.phase = s.phase)
    (hknown : ∀ name, s'.Known name → s.Known name) :
    s'.phase = .ready → ∀ name, s'.Known name → name ∈ s'.heard := by
  have hheard : s'.heard = s.heard := by
    unfold heard
    rw [hserver, htoServer]
  rw [hphase, hheard]
  exact fun hready name hname => h.hears hready name (hknown name hname)

-- ---------------------------------------------------------- on and once

theorem add_server (s : EventConn) (eventName : String) (once : Bool) :
    (s.addEventSubscription eventName once).server = s.server
      ∧ (s.addEventSubscription eventName once).phase = s.phase := by
  unfold addEventSubscription
  cases s.eventSubscriptions.lookup eventName with
  | some set => exact ⟨rfl, rfl⟩
  | none =>
      dsimp only
      rw [sendSubscription_eq]
      exact ⟨rfl, rfl⟩

theorem Kept.add (h : s.Kept) (eventName : String) (once : Bool) :
    (s.addEventSubscription eventName once).Kept := by
  have hdispatching := s.add_dispatching eventName once
  obtain ⟨hserver, hphase⟩ := s.add_server eventName once
  refine ⟨h.registry.add eventName once, h.frame.add eventName once, ?_,
    by rw [hserver]; exact h.server, ?_⟩
  · intro f hf
    exact h.nodup f (hdispatching ▸ hf)
  · unfold addEventSubscription
    cases hlookup : s.eventSubscriptions.lookup eventName with
    | some set => exact h.hears_quiet rfl rfl rfl fun _ hname => hname
    | none =>
        dsimp only
        rw [sendSubscription_eq]
        refine @hears_send s _ h eventName true rfl ?_ rfl ?_
        · exact @sendSubscription_toServer s { s with
              sets := s.sets + 1
              eventSubscriptions :=
                mapSet s.eventSubscriptions eventName s.sets }
            rfl rfl eventName true
        · exact fun name hname => (known_mapSet rfl).1 hname

-- -------------------------------------------------------- unsubscribing

/-- The function that unsubscribes leaves the server, and sends at most that
its event, with no listener left, is not wanted any more. -/
theorem unsubscribe_sends {i : Nat} (hstep : s.unsubscribe i = some s') :
    s'.server = s.server ∧ s'.phase = s.phase
      ∧ (s'.toServer = s.toServer ∨
        ∃ l set, s.listeners[i]? = some l
          ∧ s.eventSubscriptions.lookup l.eventName = some set
          ∧ ((s.retire i).delete i set).isEmpty set = true
          ∧ s'.toServer = (s.sendSubscription l.eventName false).toServer
          ∧ ∀ name, s'.Known name ↔ name ≠ l.eventName ∧ s.Known name) := by
  obtain ⟨l, hl, ⟨hlookup, rfl⟩ | ⟨set, hlookup, hcases⟩⟩ :=
    unsubscribe_cases hstep
  · exact ⟨rfl, rfl, .inl rfl⟩
  · rcases hcases with ⟨hempty, rfl⟩ | ⟨-, rfl⟩
    · unfold forgetEvent
      rw [sendSubscription_eq]
      refine ⟨rfl, rfl, .inr ⟨l, set, hl, hlookup, hempty, ?_, ?_⟩⟩
      · exact @sendSubscription_toServer s
          { (s.retire i).delete i set with
            eventSubscriptions :=
              mapDelete s.eventSubscriptions l.eventName }
          rfl rfl l.eventName false
      · exact fun name => known_mapDelete rfl
    · exact ⟨rfl, rfl, .inl rfl⟩

/-- And it leaves the map where it sends nothing. -/
theorem unsubscribe_known {i : Nat} (hstep : s.unsubscribe i = some s')
    (name : String) (hname : s'.Known name) : s.Known name := by
  obtain ⟨l, hl, ⟨hlookup, rfl⟩ | ⟨set, hlookup, hcases⟩⟩ :=
    unsubscribe_cases hstep
  · exact hname
  · rcases hcases with ⟨hempty, rfl⟩ | ⟨-, rfl⟩
    · unfold forgetEvent at hname
      rw [sendSubscription_eq] at hname
      exact ((known_mapDelete rfl).1 hname).2
    · exact hname

theorem Kept.unsubscribe (h : s.Kept) {i : Nat}
    (hstep : s.unsubscribe i = some s') : s'.Kept := by
  have hdispatching := unsubscribe_dispatching hstep
  obtain ⟨hserver, hphase, hsends⟩ := unsubscribe_sends hstep
  refine ⟨h.registry.unsubscribe hstep, h.frame.unsubscribe hstep, ?_,
    by rw [hserver]; exact h.server, ?_⟩
  · intro f hf
    exact h.nodup f (hdispatching ▸ hf)
  · rcases hsends with hquiet | ⟨l, set, -, -, -, hsent, hknown⟩
    · exact h.hears_quiet hserver hquiet hphase (unsubscribe_known hstep)
    · refine h.hears_send hserver hsent hphase fun name hname => ?_
      obtain ⟨hne, hname⟩ := (hknown name).1 hname
      rw [if_neg hne]
      exact hname

-- ---------------------------------------------------------- dispatching

/-- `callNext` sends nothing, and adds nothing to the map. -/
theorem callNext_quiet (s : EventConn) (frame : DispatchFrame) :
    (s.callNext frame).server = s.server
      ∧ (s.callNext frame).toServer = s.toServer
      ∧ (s.callNext frame).phase = s.phase
      ∧ ∀ name, (s.callNext frame).Known name → s.Known name := by
  unfold callNext
  split
  · unfold endDispatch
    refine ⟨rfl, rfl, rfl, ?_⟩
    intro name hname
    split at hname
    · exact ((known_mapDelete rfl).1 hname).2
    · exact hname
  · exact ⟨rfl, rfl, rfl, fun _ hname => hname⟩

theorem Kept.dispatchEvent (h : s.Kept) {name : String}
    (hstep : s.dispatchEvent name = some s') : s'.Kept := by
  unfold EventConn.dispatchEvent at hstep
  split at hstep
  case isFalse => cases hstep
  case isTrue hidle =>
    cases hlookup : s.eventSubscriptions.lookup name with
    | none =>
        rw [hlookup] at hstep
        obtain rfl := Option.some.inj hstep
        exact h
    | some set =>
        rw [hlookup] at hstep
        obtain rfl := Option.some.inj hstep
        have hnames : ∀ name', s.eventSubscriptions.lookup name' = some set →
            name' = name := by
          intro name' hname'
          exact h.registry.distinct name' name set hname' hlookup
        obtain ⟨hserver, htoServer, hphase, hknown⟩ :=
          s.callNext_quiet ⟨name, set, s.snapshot set⟩
        refine ⟨registered_callNext h.registry hnames fun _ _ => .inr hlookup,
          ?_, ?_, by rw [hserver]; exact h.server,
          h.hears_quiet hserver htoServer hphase hknown⟩
        · refine frameInv_callNext hnames
            (h.registry.allocated name set hlookup) ?_
          intro i hi
          obtain ⟨l, hl, hset, -⟩ := mem_snapshot.1 hi
          refine ⟨l, hl, hset, ?_⟩
          refine (h.registry.named i l name hl ?_).symm
          rw [hset]
          exact hlookup
        · intro f hf
          rw [(s.callNext_eq _).2.1] at hf
          split at hf
          · cases hf
          · obtain rfl := Option.some.inj hf
            exact s.nodup_snapshot set

/-- The listener that is being called, and what follows it. -/
theorem returned_cases (h : s.FrameInv) (hstep : s.returned = some s') :
    ∃ name set j rest l, s.dispatching = some ⟨name, set, j :: rest⟩
      ∧ s.listeners[j]? = some l ∧ l.set = set ∧ l.eventName = name
      ∧ s' = (s.afterCall j l set).callNext ⟨name, set, rest⟩ := by
  unfold EventConn.returned at hstep
  split at hstep
  case h_2 => cases hstep
  case h_1 name set j rest hdispatching =>
    obtain ⟨-, -, -, hlisteners⟩ := h _ hdispatching
    obtain ⟨l, hl, hset, hname⟩ := hlisteners j List.mem_cons_self
    rw [hl] at hstep
    exact ⟨name, set, j, rest, l, hdispatching, hl, hset, hname,
      (Option.some.inj hstep).symm⟩

theorem afterCall_quiet (s : EventConn) (j : Nat) (l : Listener)
    (set : Nat) :
    (s.afterCall j l set).server = s.server
      ∧ (s.afterCall j l set).toServer = s.toServer
      ∧ (s.afterCall j l set).phase = s.phase
      ∧ (s.afterCall j l set).sets = s.sets := by
  unfold afterCall
  split <;> exact ⟨rfl, rfl, rfl, rfl⟩

theorem Kept.returned (h : s.Kept) (hends : s.EndsWithItsSet)
    (hstep : s.returned = some s') : s'.Kept := by
  obtain ⟨name, set, j, rest, l, hdispatching, hl, hset, -, rfl⟩ :=
    returned_cases h.frame hstep
  obtain ⟨-, hnames, hlt, hlisteners⟩ := h.frame _ hdispatching
  obtain ⟨-, hmap, -⟩ := s.afterCall_rest j l set
  obtain ⟨hserver, htoServer, hphase, hsets⟩ := s.afterCall_quiet j l set
  obtain ⟨hserver', htoServer', hphase', hknown'⟩ :=
    (s.afterCall j l set).callNext_quiet ⟨name, set, rest⟩
  have hregistry : (s.afterCall j l set).Registered := by
    unfold afterCall
    split
    · exact (h.registry.dropped hl fun _ => hset.symm).mono
        fun _ _ _ _ _ => trivial
    · exact h.registry
  have hnames' : ∀ name', (s.afterCall j l set).eventSubscriptions.lookup
      name' = some set → name' = name := by
    rw [hmap]
    exact hnames
  refine ⟨?_, ?_, ?_, by rw [hserver', hserver]; exact h.server, ?_⟩
  · refine registered_callNext hregistry hnames' ?_
    intro hnil hempty
    have hnil : rest = [] := hnil
    rw [hmap]
    exact hends name set j l (hnil ▸ hdispatching) hl hempty
  · refine frameInv_callNext hnames' (by rw [hsets]; exact hlt) ?_
    intro k hk
    obtain ⟨m, hm, hmset, hmname⟩ :=
      hlisteners k (List.mem_cons_of_mem j hk)
    unfold afterCall
    split
    · obtain ⟨m', hm', hset', hname'⟩ := s.drop_kept hl set k m hm
      exact ⟨m', hm', hset'.trans hmset, hname'.trans hmname⟩
    · exact ⟨m, hm, hmset, hmname⟩
  · intro f hf
    rw [((s.afterCall j l set).callNext_eq _).2.1] at hf
    split at hf
    · cases hf
    · obtain rfl := Option.some.inj hf
      exact (List.nodup_cons.1 (h.nodup _ hdispatching)).2
  · refine h.hears_quiet (hserver'.trans hserver)
      (htoServer'.trans htoServer) (hphase'.trans hphase) ?_
    intro name' hname'
    have hknown := hknown' name' hname'
    unfold Known at hknown ⊢
    rw [hmap] at hknown
    exact hknown

-- ------------------------------------------------------------- each step

/-- The steps that leave the listeners and the map. -/
theorem Kept.rest (h : s.Kept) (hlisteners : s'.listeners = s.listeners)
    (hsets : s'.sets = s.sets)
    (hmap : s'.eventSubscriptions = s.eventSubscriptions)
    (hdispatching : ∀ f, s'.dispatching = some f → s.dispatching = some f)
    (hserver : s'.server.Nodup)
    (hhears : s'.phase = .ready → ∀ name, s.Known name → name ∈ s'.heard) :
    s'.Kept where
  registry := h.registry.congr hlisteners hsets hmap
  frame := by
    intro f hf
    obtain ⟨hsome, hnames, hlt, hcalled⟩ := h.frame f (hdispatching f hf)
    exact ⟨hsome, by rw [hmap]; exact hnames, by rw [hsets]; exact hlt,
      by rw [hlisteners]; exact hcalled⟩
  nodup f hf := h.nodup f (hdispatching f hf)
  server := hserver
  hears := by
    intro hready name hname
    unfold Known at hname
    rw [hmap] at hname
    exact hhears hready name hname

theorem Kept.step {a : EventStep} (h : s.Kept)
    (hends : a = .returned → s.EndsWithItsSet)
    (hstep : eventStep s a = some s') : s'.Kept := by
  cases a with
  | addEventSubscription eventName once =>
      obtain rfl := Option.some.inj hstep
      exact h.add eventName once
  | unsubscribe i => exact h.unsubscribe hstep
  | dispatchEvent name => exact h.dispatchEvent hstep
  | returned => exact h.returned (hends rfl) hstep
  | threw =>
      simp only [eventStep, threw] at hstep
      split at hstep <;> cases hstep
      exact h.rest rfl rfl rfl (fun _ hf => by cases hf) h.server h.hears
  | serverReceive =>
      simp only [eventStep, serverReceive] at hstep
      split at hstep
      case h_2 => cases hstep
      case h_1 m rest htoServer =>
        obtain rfl := Option.some.inj hstep
        refine h.rest rfl rfl rfl (fun _ hf => hf)
          (nodup_serverApply h.server m) ?_
        intro hready name hname
        have hheard := h.hears hready name hname
        unfold heard at hheard
        rw [htoServer] at hheard
        exact hheard
  | connect =>
      simp only [eventStep, connect] at hstep
      split at hstep <;> cases hstep
      exact h.rest rfl rfl rfl (fun _ hf => hf) List.nodup_nil
        (fun hready => by cases hready)
  | handleOnOpen =>
      simp only [eventStep, handleOnOpen] at hstep
      split at hstep <;> cases hstep
      refine h.rest rfl rfl rfl (fun _ hf => hf) h.server ?_
      intro _ name hname
      have hheard : heard { s with
          phase := .ready
          toServer := s.toServer
            ++ s.eventSubscriptions.map fun entry => ⟨entry.1, true⟩ }
          = ((s.eventSubscriptions.map (·.1)).map fun n =>
              SubscriptionRequest.mk n true).foldl serverApply s.heard := by
        rw [List.map_map]
        exact List.foldl_append
      rw [hheard, mem_foldl_subscribe _ _ _ h.heard_nodup]
      exact .inr (mem_keys_iff.2 hname)
  | disconnect =>
      simp only [eventStep, disconnect] at hstep
      split at hstep <;> cases hstep
      exact h.rest rfl rfl rfl (fun _ hf => hf) List.nodup_nil
        (fun hready => by cases hready)

theorem kept_empty : Kept {} where
  registry := by constructor <;> intros <;> simp_all
  frame := fun _ hf => by cases hf
  nodup := fun _ hf => by cases hf
  server := List.nodup_nil
  hears := fun hready => by cases hready

end EventConn

open EventConn

namespace EventDelivery

variable {platform : Platform} {c : Nat} {s s' : EventDelivery}

/-- The client `c` with the broadcasts of its actor. -/
abbrev clientSteps (platform : Platform) (c : Nat) :
    System EventDelivery (DeliveryStep ⊕ Broadcast) :=
  (deliverySystem platform).withAll (broadcast c)

/-- A step of a client is one of its subscriptions, or leaves them. -/
theorem step_conn {a : DeliveryStep} (h : s.step platform a = some s') :
    eventStep s.toEventConn (s.eventStepOf a) = some s'.toEventConn
      ∨ s'.toEventConn = s.toEventConn := by
  cases a with
  | receive =>
      unfold step receive at h
      dsimp only at h
      unfold eventStepOf
      cases htoClient : s.toClient with
      | nil =>
          rw [htoClient] at h
          cases h
      | cons m rest =>
          rw [htoClient] at h
          cases m with
          | init =>
              obtain ⟨conn, hconn, rfl⟩ := Option.map_eq_some_iff.1 h
              exact .inl hconn
          | event event =>
              dsimp only at h
              cases hargs : platform.cborDecode (s.arrivedArgs event) with
              | some args =>
                  rw [hargs] at h
                  obtain ⟨conn, hconn, rfl⟩ := Option.map_eq_some_iff.1 h
                  exact .inl hconn
              | none =>
                  rw [hargs] at h
                  obtain ⟨-, h⟩ := Option.ite_none_right_eq_some.1 h
                  obtain rfl := Option.some.inj h
                  exact .inr rfl
  | addEventSubscription _ _ | unsubscribe _ | returned | threw
  | serverReceive | connect | disconnect =>
      simp only [step] at h
      obtain ⟨conn, hconn, rfl⟩ := Option.map_eq_some_iff.1 h
      exact .inl hconn

theorem broadcast_conn (c : Nat) (s : EventDelivery) (b : Broadcast) :
    (s.broadcast c b).toEventConn = s.toEventConn := by
  unfold broadcast
  split <;> rfl

theorem kept_step {b : DeliveryStep ⊕ Broadcast} (h : s.Kept)
    (hok : s.KeepsSets b)
    (hstep : (clientSteps platform c).step s b = some s') : s'.Kept := by
  cases b with
  | inr b =>
      obtain rfl := Option.some.inj hstep
      rw [broadcast_conn]
      exact h
  | inl a =>
      rcases step_conn hstep with hconn | hsame
      case inr =>
        rw [hsame]
        exact h
      refine h.step ?_ hconn
      intro hreturned
      cases a with
      | returned => exact hok
      | receive =>
          unfold eventStepOf at hreturned
          dsimp only at hreturned
          split at hreturned <;> cases hreturned
      | addEventSubscription _ _ | unsubscribe _ | threw | serverReceive
      | connect | disconnect => cases hreturned

theorem kept_reaches (h : (clientSteps platform c).Reaches KeepsSets s) :
    s.Kept := by
  refine h.invariant (P := fun s => s.Kept) ?_ ?_
  · intro s hs
    have hs : s = { encoding := s.encoding } := hs
    rw [hs]
    exact kept_empty
  · intro s b s' _ hkept hok hstep
    exact kept_step hkept hok hstep

/-- Only a broadcast sends an event. -/
theorem toClient_step {a : DeliveryStep}
    (hstep : s.step platform a = some s') :
    s'.encoding = s.encoding
      ∧ ∀ event, .event event ∈ s'.toClient → .event event ∈ s.toClient := by
  cases a with
  | receive =>
      unfold EventDelivery.step EventDelivery.receive at hstep
      dsimp only at hstep
      cases htoClient : s.toClient with
      | nil =>
          rw [htoClient] at hstep
          cases hstep
      | cons m rest =>
          rw [htoClient] at hstep
          have htail : ∀ event, Downstream.event event ∈ rest →
              .event event ∈ m :: rest :=
            fun event hevent => List.mem_cons_of_mem m hevent
          cases m with
          | init =>
              obtain ⟨conn, -, rfl⟩ := Option.map_eq_some_iff.1 hstep
              exact ⟨rfl, htail⟩
          | event event =>
              dsimp only at hstep
              cases hargs : platform.cborDecode (s.arrivedArgs event) with
              | some args =>
                  rw [hargs] at hstep
                  obtain ⟨conn, -, rfl⟩ := Option.map_eq_some_iff.1 hstep
                  exact ⟨rfl, htail⟩
              | none =>
                  rw [hargs] at hstep
                  obtain ⟨-, hstep⟩ := Option.ite_none_right_eq_some.1 hstep
                  obtain rfl := Option.some.inj hstep
                  exact ⟨rfl, htail⟩
  | connect | disconnect =>
      obtain ⟨conn, -, rfl⟩ := Option.map_eq_some_iff.1 hstep
      exact ⟨rfl, fun event hevent => by simp at hevent⟩
  | addEventSubscription _ _ | unsubscribe _ | returned | threw
  | serverReceive =>
      simp only [EventDelivery.step] at hstep
      obtain ⟨conn, -, rfl⟩ := Option.map_eq_some_iff.1 hstep
      exact ⟨rfl, fun event hevent => hevent⟩

-- ================================================================== json

/-- No dispatch gets beyond its `cbor.decode`. -/
structure Unheard (s : EventDelivery) : Prop where
  dispatching : s.dispatching = none
  calls : s.calls = []

theorem Unheard.step {a : DeliveryStep} (h : Unheard s)
    (hempty : platform.cborDecode [] = none) (hjson : s.encoding = .json)
    (hstep : s.step platform a = some s') : Unheard s' := by
  have hkeep : ∀ {conn : EventConn}, conn.dispatching = s.dispatching →
      Unheard { s with toEventConn := conn } :=
    fun hconn => ⟨hconn.trans h.dispatching, h.calls⟩
  cases a with
  | receive =>
      unfold EventDelivery.step EventDelivery.receive at hstep
      dsimp only at hstep
      cases htoClient : s.toClient with
      | nil =>
          rw [htoClient] at hstep
          cases hstep
      | cons m rest =>
          rw [htoClient] at hstep
          cases m with
          | init =>
              obtain ⟨conn, hconn, rfl⟩ := Option.map_eq_some_iff.1 hstep
              unfold EventConn.handleOnOpen at hconn
              obtain ⟨-, hconn⟩ := Option.ite_none_right_eq_some.1 hconn
              obtain rfl := Option.some.inj hconn
              exact ⟨h.dispatching, h.calls⟩
          | event event =>
              have hargs : platform.cborDecode (s.arrivedArgs event)
                  = none := by
                unfold arrivedArgs
                rw [hjson]
                exact hempty
              dsimp only at hstep
              rw [hargs] at hstep
              obtain ⟨-, hstep⟩ := Option.ite_none_right_eq_some.1 hstep
              obtain rfl := Option.some.inj hstep
              exact ⟨h.dispatching, h.calls⟩
  | returned =>
      obtain ⟨conn, hconn, -⟩ := Option.map_eq_some_iff.1 hstep
      unfold EventConn.returned at hconn
      rw [h.dispatching] at hconn
      cases hconn
  | threw =>
      obtain ⟨conn, hconn, -⟩ := Option.map_eq_some_iff.1 hstep
      replace hconn : s.toEventConn.threw = some conn := hconn
      unfold EventConn.threw at hconn
      rw [h.dispatching] at hconn
      cases hconn
  | addEventSubscription eventName once =>
      simp only [EventDelivery.step] at hstep
      obtain ⟨conn, hconn, rfl⟩ := Option.map_eq_some_iff.1 hstep
      obtain rfl := Option.some.inj hconn
      exact hkeep (s.add_dispatching eventName once)
  | unsubscribe i =>
      obtain ⟨conn, hconn, rfl⟩ := Option.map_eq_some_iff.1 hstep
      exact hkeep (unsubscribe_dispatching hconn)
  | serverReceive =>
      obtain ⟨conn, hconn, rfl⟩ := Option.map_eq_some_iff.1 hstep
      replace hconn : s.toEventConn.serverReceive = some conn := hconn
      unfold EventConn.serverReceive at hconn
      split at hconn <;> cases hconn
      exact hkeep rfl
  | connect =>
      obtain ⟨conn, hconn, rfl⟩ := Option.map_eq_some_iff.1 hstep
      unfold EventConn.connect at hconn
      obtain ⟨-, hconn⟩ := Option.ite_none_right_eq_some.1 hconn
      obtain rfl := Option.some.inj hconn
      exact ⟨h.dispatching, h.calls⟩
  | disconnect =>
      obtain ⟨conn, hconn, rfl⟩ := Option.map_eq_some_iff.1 hstep
      unfold EventConn.disconnect at hconn
      obtain ⟨-, hconn⟩ := Option.ite_none_right_eq_some.1 hconn
      obtain rfl := Option.some.inj hconn
      exact ⟨h.dispatching, h.calls⟩

/-- Over json no listener is called, whatever is broadcast: cbor-x finds no
value in no bytes. -/
theorem unheard_of_json (hempty : platform.cborDecode [] = none)
    (h : (clientSteps platform c).Reachable s)
    (hjson : s.encoding = .json) : Unheard s := by
  refine h.invariant (P := fun s => s.encoding = .json → Unheard s)
    ?_ ?_ hjson
  · intro s hs _
    have hs : s = { encoding := s.encoding } := hs
    rw [hs]
    exact ⟨rfl, rfl⟩
  · intro s b s' _ hunheard _ hstep hjson
    cases b with
    | inl a =>
        rw [(toClient_step hstep).1] at hjson
        exact (hunheard hjson).step hempty hjson hstep
    | inr b =>
        obtain rfl := Option.some.inj hstep
        unfold EventDelivery.broadcast at hjson ⊢
        split at hjson
        · rw [if_pos ‹_›]
          exact ⟨(hunheard hjson).dispatching, (hunheard hjson).calls⟩
        · rw [if_neg ‹_›]
          exact hunheard hjson

-- ========================================================== one listener

/-- The event that is being dispatched, if the listener is behind the one
that is being called. -/
def behind (conn : EventConn) (i : Nat) (event : Event) : List Event :=
  match conn.dispatching with
  | some frame => if i ∈ frame.listeners.tail then [event] else []
  | none => []

/-- The events of a name that are on their way. -/
def onTheWay (s : EventDelivery) (name : String) : List Event :=
  s.toClient.filterMap fun
    | .event event => if event.name = name then some event else none
    | .init => none

/-- What a listener is still to be called with. -/
def awaited (s : EventDelivery) (i : Nat) (name : String) : List Event :=
  behind s.toEventConn i s.current ++ s.onTheWay name

/-- What is on its way to the client can be decoded there. -/
def Decodes (platform : Platform) (s : EventDelivery) : Prop :=
  s.encoding ≠ .json ∧ ∀ event, .event event ∈ s.toClient →
    (platform.cborDecode event.args).isSome = true

/-- A listener hears, and is to hear, `events`. -/
structure Attentive (s : EventDelivery) (i : Nat) (name : String)
    (events : List Event) : Prop where
  listens : s.Listens i name
  ready : s.phase = .ready
  subscribed : name ∈ s.server
  requests : ∀ m ∈ s.toServer, m.eventName = name → m.subscribe = true
  events : s.heardBy i ++ s.awaited i name = events

/-- A listener that is registered is in the set of its event. -/
theorem Listens.set {i : Nat} {name : String} (h : s.Listens i name)
    (hkept : s.Kept) : ∃ l, s.listeners[i]? = some l ∧ l.present = true
      ∧ l.eventName = name ∧ l.once = false
      ∧ s.eventSubscriptions.lookup name = some l.set := by
  obtain ⟨l, hl, rfl, honce, hremoved⟩ := h
  obtain ⟨hpresent, hset⟩ := (hkept.registry.registered i l hl).1 hremoved
  exact ⟨l, hl, hpresent, rfl, honce, hset⟩

/-- It stays registered in a step that touches another one. -/
theorem Listens.of_touches {i : Nat} {j : Option Nat} {name : String}
    (h : s.Listens i name)
    (htouches : Touches j s.toEventConn s'.toEventConn)
    (hne : j ≠ some i) : s'.Listens i name := by
  obtain ⟨l, hl, hname, honce, hremoved⟩ := h
  obtain ⟨l', hl', -, -, hsame⟩ := htouches i l hl
  rw [hsame hne] at hl'
  exact ⟨l, hl', hname, honce, hremoved⟩

/-- Over cbor and bare the arguments arrive. -/
theorem arrivedArgs_of_binary (h : s.encoding ≠ .json) (event : Event) :
    s.arrivedArgs event = event.args := by
  unfold arrivedArgs
  split
  · rename_i hjson
    exact absurd hjson h
  · rfl

/-- The calls of a listener. -/
theorem heardBy_callOf (s : EventDelivery) (conn : EventConn)
    (event : Event) (i : Nat) :
    (s.callOf conn event).heardBy i
      = s.heardBy i ++ (conn.calling.filter (· = i)).map fun _ => event := by
  unfold heardBy callOf
  rw [List.filter_append, List.map_append, List.filter_map, List.map_map]
  rfl

/-- Whoever is called next, the listeners of a frame are called, or behind
the one that is. -/
theorem calling_behind (conn : EventConn) {frame : DispatchFrame}
    (hnodup : frame.listeners.Nodup) (event : Event) (i : Nat) :
    ((conn.callNext frame).calling.filter (· = i)).map (fun _ => event)
        ++ behind (conn.callNext frame) i event
      = if i ∈ frame.listeners then [event] else [] := by
  obtain ⟨-, hdispatching, hcalling⟩ := conn.callNext_eq frame
  unfold behind
  rw [hdispatching, hcalling]
  cases hlisteners : frame.listeners with
  | nil => simp
  | cons j rest =>
      rw [hlisteners, List.nodup_cons] at hnodup
      rw [if_neg (List.cons_ne_nil j rest)]
      dsimp only
      rw [hlisteners]
      by_cases hj : j = i
      · subst hj
        simp [hnodup.1]
      · by_cases hi : i ∈ rest <;> simp [hj, Ne.symm hj, hi]

-- ----------------------------------------------------------- the steps

/-- A step on the way to the server, or of the registry. -/
theorem Attentive.quiet {i : Nat} {name : String} {events : List Event}
    (h : s.Attentive i name events) (hlistens : s'.Listens i name)
    (hphase : s'.phase = s.phase) (hsubscribed : name ∈ s'.server)
    (hrequests : ∀ m ∈ s'.toServer, m.eventName = name →
      m.subscribe = true)
    (hdispatching : s'.dispatching = s.dispatching)
    (htoClient : s'.toClient = s.toClient)
    (hcurrent : s'.current = s.current) (hcalls : s'.calls = s.calls) :
    s'.Attentive i name events where
  listens := hlistens
  ready := hphase.trans h.ready
  subscribed := hsubscribed
  requests := hrequests
  events := by
    have hevents := h.events
    unfold heardBy awaited behind onTheWay at hevents ⊢
    rw [hdispatching, htoClient, hcurrent, hcalls]
    exact hevents

/-- A request that is sent. -/
theorem requests_send {conn : EventConn} {name eventName : String}
    {subscribe : Bool}
    (h : ∀ m ∈ s.toServer, m.eventName = name → m.subscribe = true)
    (hsent : conn.toServer
      = (s.sendSubscription eventName subscribe).toServer)
    (hsubscribe : eventName = name → subscribe = true) :
    ∀ m ∈ conn.toServer, m.eventName = name → m.subscribe = true := by
  intro m hm hname
  rw [hsent] at hm
  unfold sendSubscription at hm
  split at hm
  · exact h m hm hname
  · rcases List.mem_append.1 hm with hm | hm
    · exact h m hm hname
    · obtain rfl := List.mem_singleton.1 hm
      exact hsubscribe hname

theorem Attentive.add {i : Nat} {name : String} {events : List Event}
    (h : s.Attentive i name events) (eventName : String) (once : Bool) :
    Attentive { s with
      toEventConn := s.addEventSubscription eventName once }
      i name events := by
  obtain ⟨hserver, hphase⟩ := s.add_server eventName once
  refine h.quiet ?_ hphase ?_ ?_ (s.add_dispatching eventName once)
    rfl rfl rfl
  · exact h.listens.of_touches (touches_add _ eventName once) (by simp)
  · rw [hserver]
    exact h.subscribed
  · have hsent : (s.addEventSubscription eventName once).toServer
          = s.toServer
        ∨ (s.addEventSubscription eventName once).toServer
          = (s.sendSubscription eventName true).toServer := by
      unfold addEventSubscription
      cases s.eventSubscriptions.lookup eventName with
      | some set => exact .inl rfl
      | none =>
          exact .inr (@sendSubscription_toServer s.toEventConn
            { s.toEventConn with
              sets := s.sets + 1
              eventSubscriptions :=
                mapSet s.eventSubscriptions eventName s.sets }
            rfl rfl eventName true)
    rcases hsent with hsent | hsent
    · rw [hsent]
      exact h.requests
    · exact requests_send h.requests hsent fun _ => rfl

/-- The server is not told that the event is not wanted any more: the
listener is still in the set. -/
theorem Attentive.unsubscribe {i j : Nat} {name : String}
    {events : List Event} {conn : EventConn} (hkept : s.Kept)
    (h : s.Attentive i name events) (hne : j ≠ i)
    (hstep : s.toEventConn.unsubscribe j = some conn) :
    Attentive { s with toEventConn := conn } i name events := by
  obtain ⟨hserver, hphase, hsends⟩ := unsubscribe_sends hstep
  have hlistens : Listens { s with toEventConn := conn } i name :=
    h.listens.of_touches (touches_unsubscribe hstep) fun heq =>
      hne (Option.some.inj heq)
  refine h.quiet hlistens hphase (by rw [hserver]; exact h.subscribed) ?_
    (unsubscribe_dispatching hstep) rfl rfl rfl
  rcases hsends with hquiet | ⟨l, set, hl, hlookup, hempty, hsent, -⟩
  · rw [hquiet]
    exact h.requests
  · refine requests_send h.requests hsent fun hname => ?_
    obtain ⟨k, hk, hpresent, -, -, hset⟩ := h.listens.set hkept
    rw [hname, hset] at hlookup
    have hgone := isEmpty_iff.1 hempty i k
      ((s.drop_listeners hl set).2 i (Ne.symm hne) ▸ hk)
      (Option.some.inj hlookup)
    rw [hpresent] at hgone
    cases hgone

/-- An event is dispatched: to the listener, if it has its name. -/
theorem dispatchEvent_calls {i : Nat} {name : String} {event : Event}
    {conn : EventConn} (hkept : s.Kept) (hlistens : s.Listens i name)
    (hstep : s.dispatchEvent event.name = some conn) :
    s.dispatching = none ∧ conn.listeners = s.listeners
      ∧ conn.server = s.server ∧ conn.toServer = s.toServer
      ∧ conn.phase = s.phase
      ∧ (conn.calling.filter (· = i)).map (fun _ => event)
          ++ behind conn i event
        = if event.name = name then [event] else [] := by
  obtain ⟨l, hl, hpresent, hname, -, hset⟩ := hlistens.set hkept
  unfold EventConn.dispatchEvent at hstep
  split at hstep
  case isFalse => cases hstep
  case isTrue hidle =>
    refine ⟨hidle, ?_⟩
    cases hlookup : s.eventSubscriptions.lookup event.name with
    | none =>
        rw [hlookup] at hstep
        obtain rfl := Option.some.inj hstep
        have hne : event.name ≠ name := by
          intro heq
          rw [heq, hset] at hlookup
          cases hlookup
        refine ⟨rfl, rfl, rfl, rfl, ?_⟩
        rw [if_neg hne]
        unfold EventConn.calling behind
        rw [hidle]
        rfl
    | some set =>
        rw [hlookup] at hstep
        obtain rfl := Option.some.inj hstep
        obtain ⟨hserver, htoServer, hphase, -⟩ :=
          s.callNext_quiet ⟨event.name, set, s.snapshot set⟩
        refine ⟨(s.callNext_eq _).1, hserver, htoServer, hphase, ?_⟩
        rw [calling_behind _ (s.nodup_snapshot set)]
        have hmem : i ∈ s.snapshot set ↔ event.name = name := by
          constructor
          · intro hi
            obtain ⟨k, hk, hkset, -⟩ := mem_snapshot.1 hi
            obtain rfl := Option.some.inj (hl.symm.trans hk)
            rw [← hname]
            exact hkept.registry.named i l event.name hl
              (by rw [hkset]; exact hlookup)
          · intro heq
            rw [heq, hset] at hlookup
            exact mem_snapshot.2
              ⟨l, hl, Option.some.inj hlookup, hpresent⟩
        simp only [hmem]

theorem Attentive.receive {i : Nat} {name : String} {events : List Event}
    (hkept : s.Kept) (hdecodes : Decodes platform s)
    (h : s.Attentive i name events)
    (hstep : s.receive platform = some s') :
    s'.Attentive i name events := by
  unfold EventDelivery.receive at hstep
  cases htoClient : s.toClient with
  | nil =>
      rw [htoClient] at hstep
      cases hstep
  | cons m rest =>
      rw [htoClient] at hstep
      cases m with
      | init =>
          obtain ⟨conn, hconn, -⟩ := Option.map_eq_some_iff.1 hstep
          unfold EventConn.handleOnOpen at hconn
          rw [if_neg (by rw [h.ready]; simp)] at hconn
          cases hconn
      | event event =>
          obtain ⟨args, hargs⟩ := Option.isSome_iff_exists.1
            (hdecodes.2 event (htoClient ▸ List.mem_cons_self))
          rw [← arrivedArgs_of_binary hdecodes.1 event] at hargs
          dsimp only at hstep
          rw [hargs] at hstep
          obtain ⟨conn, hconn, rfl⟩ := Option.map_eq_some_iff.1 hstep
          obtain ⟨hidle, hlisteners, hserver, htoServer, hphase, hcalls⟩ :=
            dispatchEvent_calls hkept h.listens hconn
          refine ⟨?_, hphase.trans h.ready, ?_, ?_, ?_⟩
          · exact h.listens.of_touches
              (touches_of_eq (i := none) hlisteners) (by simp)
          · show name ∈ conn.server
            rw [hserver]
            exact h.subscribed
          · show ∀ m ∈ conn.toServer, _
            rw [htoServer]
            exact h.requests
          · have hevents := h.events
            have hbefore : behind s.toEventConn i s.current = [] := by
              unfold behind
              rw [hidle]
            rw [← hevents]
            show (s.callOf conn event).heardBy i
              ++ (behind conn i event ++ rest.filterMap _) = _
            rw [heardBy_callOf, List.append_assoc, ← List.append_assoc _ _
              (rest.filterMap _), hcalls]
            unfold awaited onTheWay
            rw [hbefore, htoClient, List.nil_append]
            by_cases heq : event.name = name <;> simp [heq]

/-- The listener before it returns: the next one may be this one. -/
theorem returned_calls {i : Nat} {name : String} {event : Event}
    {conn : EventConn} (hkept : s.Kept) (hlistens : s.Listens i name)
    (hstep : s.toEventConn.returned = some conn) :
    Listens { s with toEventConn := conn } i name
      ∧ conn.server = s.server ∧ conn.toServer = s.toServer
      ∧ conn.phase = s.phase
      ∧ (conn.calling.filter (· = i)).map (fun _ => event)
          ++ behind conn i event
        = behind s.toEventConn i event := by
  obtain ⟨dispatched, set, j, rest, l, hdispatching, hl, -, -, rfl⟩ :=
    returned_cases hkept.frame hstep
  obtain ⟨hserver, htoServer, hphase, -⟩ :=
    s.toEventConn.afterCall_quiet j l set
  obtain ⟨hserver', htoServer', hphase', -⟩ :=
    (s.afterCall j l set).callNext_quiet ⟨dispatched, set, rest⟩
  refine ⟨?_, hserver'.trans hserver, htoServer'.trans htoServer,
    hphase'.trans hphase, ?_⟩
  · obtain ⟨k, hk, hname, honce, hremoved⟩ := hlistens
    refine ⟨k, ?_, hname, honce, hremoved⟩
    show ((s.afterCall j l set).callNext _).listeners[i]? = some k
    rw [((s.afterCall j l set).callNext_eq _).1]
    by_cases hij : j = i
    · -- it is no one-time listener
      subst hij
      obtain rfl := Option.some.inj (hl.symm.trans hk)
      unfold afterCall
      rw [if_neg (by rw [honce]; decide)]
      exact hl
    · obtain ⟨k', hk', -, -, hsame⟩ :=
        (touches_afterCall hl set).1 i k hk
      rw [hk', hsame fun heq => hij (Option.some.inj heq)]
  · have hnodup := List.nodup_cons.1 (hkept.nodup _ hdispatching)
    rw [calling_behind _ hnodup.2]
    unfold behind
    rw [hdispatching]
    rfl

theorem Attentive.returned {i : Nat} {name : String}
    {events : List Event} {conn : EventConn} (hkept : s.Kept)
    (h : s.Attentive i name events)
    (hstep : s.toEventConn.returned = some conn) :
    (s.callOf conn s.current).Attentive i name events := by
  obtain ⟨hlistens, hserver, htoServer, hphase, hcalls⟩ :=
    returned_calls hkept h.listens hstep
  refine ⟨hlistens, hphase.trans h.ready, ?_, ?_, ?_⟩
  · show name ∈ conn.server
    rw [hserver]
    exact h.subscribed
  · show ∀ m ∈ conn.toServer, _
    rw [htoServer]
    exact h.requests
  · rw [← h.events, heardBy_callOf, List.append_assoc]
    unfold awaited
    rw [← hcalls, List.append_assoc]
    rfl

theorem Attentive.threw {i : Nat} {name : String} {events : List Event}
    {conn : EventConn} (h : s.Attentive i name events)
    (hbehind : ∀ frame, s.dispatching = some frame →
      i ∉ frame.listeners.tail)
    (hstep : s.toEventConn.threw = some conn) :
    Attentive { s with toEventConn := conn } i name events := by
  unfold EventConn.threw at hstep
  split at hstep
  case h_2 => cases hstep
  case h_1 frame hdispatching =>
    obtain rfl := Option.some.inj hstep
    refine ⟨h.listens, h.ready, h.subscribed, h.requests, ?_⟩
    rw [← h.events]
    have hnone : behind s.toEventConn i s.current = [] := by
      unfold behind
      rw [hdispatching]
      exact if_neg (hbehind frame hdispatching)
    unfold awaited
    rw [hnone]
    rfl

theorem Attentive.serverReceive {i : Nat} {name : String}
    {events : List Event} {conn : EventConn} (hkept : s.Kept)
    (h : s.Attentive i name events)
    (hstep : s.toEventConn.serverReceive = some conn) :
    Attentive { s with toEventConn := conn } i name events := by
  unfold EventConn.serverReceive at hstep
  split at hstep
  case h_2 => cases hstep
  case h_1 m rest htoServer =>
    obtain rfl := Option.some.inj hstep
    refine h.quiet h.listens rfl ?_ ?_ rfl rfl rfl rfl
    · refine (mem_serverApply hkept.server m name).2 ?_
      split
      case isTrue heq =>
        exact h.requests m (by rw [htoServer]; simp) heq.symm
      case isFalse => exact h.subscribed
    · intro m' hm'
      exact h.requests m' (htoServer ▸ List.mem_cons_of_mem m hm')

theorem Attentive.broadcast {i : Nat} {name : String}
    {events : List Event} (h : s.Attentive i name events)
    {b : Broadcast} (hsends : b.SendsTo c) :
    (s.broadcast c b).Attentive i name
      (events ++ if b.event.name = name then [b.event] else []) := by
  have hconn := s.broadcast_conn c b
  have hcalls : (s.broadcast c b).calls = s.calls
      ∧ (s.broadcast c b).current = s.current := by
    unfold EventDelivery.broadcast
    split <;> exact ⟨rfl, rfl⟩
  have hway : (s.broadcast c b).onTheWay name = s.onTheWay name
      ++ if b.event.name = name then [b.event] else [] := by
    unfold EventDelivery.broadcast onTheWay
    by_cases heq : b.event.name = name
    · rw [if_pos ⟨by rw [heq]; exact h.subscribed, hsends⟩]
      simp [heq]
    · split <;> simp [heq]
  refine ⟨?_, by rw [hconn]; exact h.ready, by rw [hconn]; exact h.subscribed,
    by rw [hconn]; exact h.requests, ?_⟩
  · unfold Listens
    rw [hconn]
    exact h.listens
  · rw [← h.events]
    unfold heardBy awaited
    rw [hconn, hcalls.1, hcalls.2, hway]
    simp only [List.append_assoc]

-- ------------------------------------------------------------- decoding

theorem Decodes.step {i : Nat} {b : DeliveryStep ⊕ Broadcast}
    (h : Decodes platform s) (hok : s.Undisturbed platform c i b)
    (hstep : (clientSteps platform c).step s b = some s') :
    Decodes platform s' := by
  cases b with
  | inl a =>
      obtain ⟨hencoding, hevents⟩ := toClient_step hstep
      exact ⟨hencoding ▸ h.1, fun event hevent => h.2 event
        (hevents event hevent)⟩
  | inr b =>
      obtain rfl := Option.some.inj hstep
      unfold EventDelivery.broadcast
      split
      · refine ⟨h.1, ?_⟩
        intro event hevent
        rcases List.mem_append.1 hevent with hevent | hevent
        · exact h.2 event hevent
        · injection List.mem_singleton.1 hevent with heq
          exact heq ▸ hok.2
      · exact h

-- --------------------------------------------------------------- the runs

/-- What a step of the schedule broadcasts under a name. -/
def broadcastOf (name : String) : DeliveryStep ⊕ Broadcast → List Event
  | .inr b => if b.event.name = name then [b.event] else []
  | .inl _ => []

theorem Attentive.step {i : Nat} {name : String} {events : List Event}
    {b : DeliveryStep ⊕ Broadcast} (hkept : s.Kept)
    (hdecodes : Decodes platform s) (h : s.Attentive i name events)
    (hok : s.Undisturbed platform c i b)
    (hstep : (clientSteps platform c).step s b = some s') :
    s'.Attentive i name (events ++ broadcastOf name b) := by
  cases b with
  | inr b =>
      obtain rfl := Option.some.inj hstep
      exact h.broadcast hok.1
  | inl a =>
      rw [broadcastOf, List.append_nil]
      have hstep : s.step platform a = some s' := hstep
      cases a with
      | receive => exact h.receive hkept hdecodes hstep
      | disconnect => exact absurd hok id
      | addEventSubscription eventName once =>
          simp only [EventDelivery.step] at hstep
          obtain ⟨conn, hconn, rfl⟩ := Option.map_eq_some_iff.1 hstep
          exact Option.some.inj hconn ▸ h.add eventName once
      | unsubscribe j =>
          simp only [EventDelivery.step] at hstep
          obtain ⟨conn, hconn, rfl⟩ := Option.map_eq_some_iff.1 hstep
          exact h.unsubscribe hkept hok hconn
      | returned =>
          obtain ⟨conn, hconn, rfl⟩ := Option.map_eq_some_iff.1 hstep
          exact h.returned hkept hconn
      | threw =>
          simp only [EventDelivery.step] at hstep
          obtain ⟨conn, hconn, rfl⟩ := Option.map_eq_some_iff.1 hstep
          exact h.threw hok hconn
      | serverReceive =>
          simp only [EventDelivery.step] at hstep
          obtain ⟨conn, hconn, rfl⟩ := Option.map_eq_some_iff.1 hstep
          exact h.serverReceive hkept hconn
      | connect =>
          obtain ⟨conn, hconn, -⟩ := Option.map_eq_some_iff.1 hstep
          unfold EventConn.connect at hconn
          rw [if_neg (by rw [h.ready]; simp)] at hconn
          cases hconn

theorem Undisturbed.keepsSets {i : Nat} {b : DeliveryStep ⊕ Broadcast}
    (h : s.Undisturbed platform c i b) : s.KeepsSets b := by
  cases b with
  | inr b => trivial
  | inl a => cases a <;> trivial

/-- What a run of a client has its listener hear. -/
theorem Attentive.run {i : Nat} {name : String}
    {bs : List (DeliveryStep ⊕ Broadcast)} :
    ∀ {s s' : EventDelivery} {events : List Event}, s.Kept →
      Decodes platform s → s.Attentive i name events →
      (clientSteps platform c).RunOk (Undisturbed platform c i) s bs →
      (clientSteps platform c).run s bs = some s' →
      s'.Attentive i name (events ++ bs.flatMap (broadcastOf name)) := by
  induction bs with
  | nil =>
      intro s s' events _ _ h _ hrun
      obtain rfl := Option.some.inj hrun
      rw [List.flatMap_nil, List.append_nil]
      exact h
  | cons b bs ih =>
      intro s s' events hkept hdecodes h hok hrun
      obtain ⟨s₁, hstep, hrun⟩ := System.run_cons hrun
      simp only [System.RunOk, hstep] at hok
      have hkept₁ := kept_step hkept hok.1.keepsSets hstep
      rw [List.flatMap_cons, ← List.append_assoc]
      exact ih hkept₁ (hdecodes.step hok.1 hstep)
        (h.step hkept hdecodes hok.1 hstep) hok.2 hrun

/-- A settled client with a listener. -/
theorem attentive_of_settled {i : Nat} {name : String} (hkept : s.Kept)
    (hsettled : s.Settled) (hlistens : s.Listens i name) :
    s.Attentive i name (s.heardBy i) := by
  have hserver : s.heard = s.server := by
    unfold heard
    rw [hsettled.toServer]
    rfl
  obtain ⟨l, -, -, -, -, hset⟩ := hlistens.set hkept
  refine ⟨hlistens, hsettled.ready, ?_, ?_, ?_⟩
  · rw [← hserver]
    exact hkept.hears hsettled.ready name ⟨l.set, hset⟩
  · rw [hsettled.toServer]
    exact fun m hm => by cases hm
  · unfold awaited behind onTheWay
    rw [hsettled.dispatching, hsettled.toClient]
    simp

/-- The broadcasts are in the schedule of each client. -/
theorem flatMap_own (c : Nat) (name : String)
    (as : List (System.Joint DeliveryStep Broadcast)) :
    (System.own c as).flatMap (broadcastOf name)
      = (broadcasts as).filter fun event => event.name = name := by
  induction as with
  | nil => rfl
  | cons a as ih =>
      unfold System.own broadcasts at ih ⊢
      cases a with
      | all b =>
          simp only [List.filterMap_cons, System.Joint.own, List.flatMap_cons,
            ih, List.filter_cons, broadcastOf]
          by_cases heq : b.event.name = name <;> simp [heq]
      | one j a =>
          simp only [List.filterMap_cons, System.Joint.own]
          by_cases hj : j = c <;> simp [hj, broadcastOf, ih]

end EventDelivery

open EventDelivery

/-- From a settled state on, a registered listener is called with each event
of its name that is broadcast, once and in order, whatever the other
listeners and the other clients do. -/
theorem events_delivered {platform : Platform} {ss ss' : List EventDelivery}
    {c i : Nat} {s s' : EventDelivery} {name : String}
    {as : List (System.Joint DeliveryStep Broadcast)}
    (hreaches : (roomSystem platform).Reaches
      (System.OfCopy c KeepsSets) ss)
    (hs : ss[c]? = some s) (hencoding : s.encoding ≠ .json)
    (hsettled : s.Settled) (hlistens : s.Listens i name)
    (hok : (roomSystem platform).RunOk
      (System.OfCopy c (Undisturbed platform c i)) ss as)
    (hrun : (roomSystem platform).run ss as = some ss')
    (hs' : ss'[c]? = some s')
    (hidle : s'.dispatching = none) (harrived : s'.toClient = []) :
    s'.heardBy i = s.heardBy i
      ++ (broadcasts as).filter fun event => event.name = name := by
  have hkept := kept_reaches (System.reaches_own hreaches hs)
  obtain ⟨t, ht, hrun'⟩ := System.run_own hrun hs
  obtain rfl := Option.some.inj (ht.symm.trans hs')
  have hdecodes : Decodes platform s :=
    ⟨hencoding, fun event hevent => by simp [hsettled.toClient] at hevent⟩
  have hend := (attentive_of_settled hkept hsettled hlistens).run hkept
    hdecodes (System.runOk_own hrun hok hs) hrun'
  have hevents := hend.events
  unfold awaited behind onTheWay at hevents
  rw [hidle, harrived, flatMap_own] at hevents
  simpa using hevents

/-- cbor-x, of the arrays `["a"]` and `["b"]`. -/
def twoArrays : Platform :=
  { knownRuntime.platform with
    cborDecode := fun
      | [0x81, 0x61, 0x61] => some (.arr [.str "a"])
      | [0x81, 0x61, 0x62] => some (.arr [.str "b"])
      | _ => none }

/-- The first of two clients listens, and both are subscribed. The second
one's encoding is json. -/
def listening : List (System.Joint DeliveryStep Broadcast) :=
  [.one 0 .connect, .one 0 .receive,
    .one 0 (.addEventSubscription "newCount" false), .one 0 .serverReceive,
    .one 1 (.addEventSubscription "newCount" false), .one 1 .connect,
    .one 1 .receive, .one 1 .serverReceive]

/-- Two events, and a one-time listener beside the one that stays. The
second client cannot decode the first event; sending it the second one
throws. -/
def twoEvents : List (System.Joint DeliveryStep Broadcast) :=
  [.all { event := ⟨"newCount", [0x81, 0x61, 0x61]⟩, order := [0, 1] },
    .one 0 (.addEventSubscription "newCount" true), .one 0 .receive,
    .all { event := ⟨"newCount", [0x81, 0x61, 0x62]⟩, order := [0, 1]
           throws := [1] },
    .one 0 .returned, .one 1 .receive, .one 0 .returned, .one 0 .receive,
    .one 0 .returned]

/-- The listener that stays hears both, the other client's none. -/
theorem events_delivered_two :
    ∃ ss ss' s s' s₂,
      (roomSystem twoArrays).run [{}, { encoding := .json }] listening
          = some ss
      ∧ (roomSystem twoArrays).run ss twoEvents = some ss'
      ∧ ss[0]? = some s ∧ ss'[0]? = some s' ∧ ss'[1]? = some s₂
      ∧ s'.heardBy 0 = s.heardBy 0
        ++ (broadcasts twoEvents).filter (fun event => event.name = "newCount")
      ∧ (s'.heardBy 0).map (·.args) = [[0x81, 0x61, 0x61], [0x81, 0x61, 0x62]]
      ∧ s₂.calls = [] := by
  have hinit : (roomSystem twoArrays).init [{}, { encoding := .json }] := by
    intro s hs
    rcases List.mem_cons.1 hs with rfl | hs
    · rfl
    · rw [List.mem_singleton.1 hs]
      rfl
  have hreaches : (roomSystem twoArrays).Reaches (System.OfCopy 0 KeepsSets)
      (((roomSystem twoArrays).run [{}, { encoding := .json }]
        listening).getD []) := by
    refine System.Reaches.run listening (.init hinit) ?_ rfl
    refine ⟨?_, ?_, ?_, ?_, ?_, ?_, ?_, ?_, trivial⟩
    all_goals
      intro s _ b hb
      cases hb
      try trivial
  refine ⟨_, _, _, _, _, rfl, rfl, rfl, rfl, rfl,
    @events_delivered twoArrays _ _ 0 0 _ _ "newCount" twoEvents hreaches rfl
      (by decide) ⟨rfl, rfl, rfl, rfl⟩ ⟨_, rfl, rfl, rfl, rfl⟩ ?_ rfl rfl rfl
      rfl, rfl, rfl⟩
  -- only the second of these steps ends a dispatch
  refine ⟨?_, ?_, ?_, ?_, ?_, ?_, ?_, ?_, ?_, trivial⟩
  all_goals
    intro s hs b hb
    cases hb
    try trivial
  all_goals
    intro name set i l hframe
    cases hs
    cases hframe
  · exact fun _ _ => .inr rfl
  · exact fun _ _ => .inr rfl

end RivetKit.Client
