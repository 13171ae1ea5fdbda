/-
The connections and subscriptions of an `ActorInstance`
(actor/instance.ts), and what the structures that hold them say of each
other: the map `#connections`, the `#subscriptionIndex`, the set of each
`Conn`, and the persisted connections with their lists.

# Steps

Those of the instance, with driver writes that may fail. A message for a
connection that is removed finds its `Conn` all the same, so `subscribe`
and `unsubscribe` take any `Conn` made. Connection ids come from
`generateConnId`, which is `crypto.randomUUID()`: a new one is fresh.
-/
import RivetKit.Actor.Connections

namespace RivetKit.Actor

open Transition
open Js

-- ============================================================ the records

/-- A record as `#initialize` reads it: each connection is an object of its
own. -/
def PersistedActor.AsRead (r : PersistedActor) : Prop :=
  r.connections = List.range r.connObjects.length

/-- Its connections have ids of their own, none lists a subscription twice,
and there are none before the actor has been initiated. -/
structure PersistedActor.Distinct (r : PersistedActor) : Prop where
  ids : (r.connObjects.map (·.connId)).Nodup
  subscriptions : ∀ p ∈ r.connObjects, p.subscriptions.Nodup
  initiated : r.hasInitiated = true ∨ r.connections = []

/-- The instance as `#initialize` leaves it, having read `r`. Only a record
that has been initiated has its connections loaded; another gets the state
of a new actor. -/
def LiveInstance.restored (opts : ActorOptions) (r : PersistedActor)
    (stateData : Value) : LiveInstance :=
  if r.hasInitiated then .initialized opts r
  else
    { toActorInstance :=
        .initialized { r with state := stateData, hasInitiated := true } }

-- ============================================================ the machine

/-- Steps of the save path that leave the record. -/
def keepsRecord : SaveStep PersistedActor → Bool
  | .onChange _ _ _ => false
  | _ => true

/-- No connection made or restored has this id. -/
def LiveInstance.FreshId (s : LiveInstance) (id : String) : Prop :=
  ∀ p ∈ s.persistRaw.connObjects, p.connId ≠ id

instance (s : LiveInstance) (id : String) : Decidable (s.FreshId id) :=
  inferInstanceAs (Decidable (∀ p ∈ s.persistRaw.connObjects, p.connId ≠ id))

/-- One step. -/
def indexStep (codec : Codec) (opts : ActorOptions) (s : LiveInstance) :
    LiveStep → Option LiveInstance
  | .createConn id token params state driverId driverState authData =>
      if s.FreshId id then
        s.createConn opts id token params state driverId driverState authData
      else none
  | .save a =>
      if keepsRecord a then
        (saveStep opts s.toActorInstance a).map fun t =>
          { s with toActorInstance := t }
      else none
  | a => liveStep codec opts s a

/-- The runs of an instance from the record `r`. -/
def indexSystem (codec : Codec) (opts : ActorOptions) (r : PersistedActor) :
    System LiveInstance LiveStep where
  init s := ∃ stateData, s = .restored opts r stateData
  step := indexStep codec opts

-- ============================================================ the contract

namespace LiveInstance

/-- The `Conn` object `c` is in the map `#connections`. -/
def InMap (s : LiveInstance) (c : Nat) : Prop :=
  ∃ id, (id, c) ∈ s.connections

/-- The set of the `Conn` object `c`. -/
def subscriptionsOf (s : LiveInstance) (c : Nat) : List String :=
  (s.conns[c]?.map (·.subscriptions)).getD []

/-- `#subscriptionIndex.get(eventName)`, empty where there is none. -/
def subscribers (s : LiveInstance) (eventName : String) : List Nat :=
  (s.subscriptionIndex.lookup eventName).getD []

/-- The ids in the persisted list. -/
def persistedIds (s : LiveInstance) : List String :=
  s.persistRaw.connections.map fun ref =>
    (s.persistRaw.connObjects[ref]?.map (·.connId)).getD ""

/-- The structures agree. -/
structure Indexed (s : LiveInstance) : Prop where
  index : ∀ eventName c, c ∈ s.subscribers eventName
    ↔ s.InMap c ∧ eventName ∈ s.subscriptionsOf c
  no_empty : ∀ entry ∈ s.subscriptionIndex, entry.2 ≠ []
  persisted_once : s.persistedIds.Nodup
  persisted_ids : ∀ id, id ∈ s.persistedIds ↔ id ∈ s.connections.map (·.1)
  persisted_subscriptions : ∀ ref ∈ s.persistRaw.connections,
    ∃ p c, s.persistRaw.connObjects[ref]? = some p
      ∧ (p.connId, c) ∈ s.connections ∧ p.subscriptions.Nodup
      ∧ ∀ eventName, eventName ∈ p.subscriptions
          ↔ eventName ∈ s.subscriptionsOf c

/-- A `subscribe` that is handled finds its connection in the map, or
already subscribed. -/
def IndexSafe (s : LiveInstance) : LiveStep → Prop
  | .addSubscription eventName c =>
      s.InMap c ∨ eventName ∈ s.subscriptionsOf c
  | _ => True

end LiveInstance

end RivetKit.Actor
