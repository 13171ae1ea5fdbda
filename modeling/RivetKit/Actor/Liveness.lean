/-
`#checkConnectionsLiveness` of an instance that was started from a record
(actor/instance.ts), with the liveness probe of a `Conn`
(actor/connection.ts) over the generic connection drivers
(actor/generic-conn-driver.ts).

A `Conn` that `#initialize` restored has no transport: nothing puts its id
in `websockets` or `sseStreams`, no handler removes it, and no message of
it arrives. Connections that are made later come and go as they like.
-/
import RivetKit.Actor.ConnTransports
import RivetKit.Actor.SubscriptionIndex

namespace RivetKit.Actor

open Transition
open Js

-- ============================================================= the sweep

/-- `GenericConnGlobalState`, as far as the drivers' ready states read it:
the state of each socket, and whether a stream has been aborted or
closed. -/
structure GenericConnGlobalState where
  websockets : String → Option ConnectionReadyState
  sseStreams : String → Option Bool

/-- What the driver of a persisted connection finds. -/
def GenericConnGlobalState.readyState (globalState : GenericConnGlobalState)
    (p : PersistedConn) : Option ConnectionReadyState :=
  getConnectionReadyState p.connDriver (globalState.websockets p.connId)
    (globalState.sseStreams p.connId)

namespace LiveInstance

variable (opts : ActorOptions) (timeout : Number)

/-- `sinceLastSeen < connectionLivenessTimeout`. -/
def seenLately (now : Int) (p : PersistedConn) : Bool :=
  ((Number.ofInt now).sub p.lastSeen).lt timeout

/-- The body of the loop, for the `Conn` object `c`. -/
def checkConnection (globalState : GenericConnGlobalState) (now : Int)
    (s : LiveInstance) (c : Nat) : LiveInstance :=
  match s.conns[c]? with
  | none => s
  | some conn =>
      match s.persistRaw.connObjects[conn.persist]? with
      | none => s
      | some p =>
          if isConnectionClosed (globalState.readyState p) then
            if seenLately timeout now p then s
            -- Connection is dead, remove it
            else s.removeConn opts c
          else s.checkLiveness c

/-- `#checkConnectionsLiveness`. The loop deletes the entries it is at,
and no other. -/
def checkConnectionsLiveness (globalState : GenericConnGlobalState)
    (s : LiveInstance) : LiveInstance :=
  s.connections.foldl
    (fun t entry =>
      t.checkConnection opts timeout globalState s.now entry.2) s

end LiveInstance

-- ============================================================ the machine

/-- The steps of an instance with its sweeps. -/
inductive SweepStep
  | live (a : LiveStep)
  | checkConnectionsLiveness (globalState : GenericConnGlobalState)

/-- The global state has nothing for the connections of the record. -/
def PersistedActor.NoTransport (r : PersistedActor)
    (globalState : GenericConnGlobalState) : Prop :=
  ∀ p ∈ r.connObjects, globalState.websockets p.connId = none
    ∧ globalState.sseStreams p.connId = none

/-- Steps that are not a part of the sweep, and not of a transport of a
connection of the record. -/
def PersistedActor.admits (r : PersistedActor) : LiveStep → Bool
  | .checkLiveness _ => false
  | .removeConn c => decide (r.connObjects.length ≤ c)
  | .addSubscription _ c => decide (r.connObjects.length ≤ c)
  | .removeSubscription _ c => decide (r.connObjects.length ≤ c)
  | _ => true

instance (r : PersistedActor) (globalState : GenericConnGlobalState) :
    Decidable (r.NoTransport globalState) :=
  inferInstanceAs (Decidable (∀ p ∈ r.connObjects, _ ∧ _))

/-- One step. -/
def sweepStep (codec : Codec) (opts : ActorOptions) (timeout : Number)
    (r : PersistedActor) (s : LiveInstance) :
    SweepStep → Option LiveInstance
  | .live a => if r.admits a then indexStep codec opts s a else none
  | .checkConnectionsLiveness globalState =>
      if r.NoTransport globalState then
        some (s.checkConnectionsLiveness opts timeout globalState)
      else none

/-- The runs of an instance from the record `r` to whose connections no
transport attaches again. -/
def sweepSystem (codec : Codec) (opts : ActorOptions) (timeout : Number)
    (r : PersistedActor) : System LiveInstance SweepStep where
  init s := ∃ stateData, s = .restored opts r stateData
  step := sweepStep codec opts timeout r

-- ============================================================ the contract

/-- The instance has nothing left of the connections of the record: their
`Conn` objects are the first ones made, and their persisted objects the
first ones read. -/
structure LiveInstance.Reclaimed (r : PersistedActor) (s : LiveInstance) :
    Prop where
  connections : ∀ id c, (id, c) ∈ s.connections → r.connObjects.length ≤ c
  persisted : ∀ ref ∈ s.persistRaw.connections, r.connObjects.length ≤ ref
  index : ∀ eventName c, c ∈ s.subscribers eventName →
    r.connObjects.length ≤ c

/-- The timeout has passed since each connection of the record was last
seen. -/
def LiveInstance.Overdue (timeout : Number) (r : PersistedActor)
    (s : LiveInstance) : Prop :=
  ∀ (c : Nat) (p : PersistedConn), c < r.connObjects.length →
    s.persistRaw.connObjects[c]? = some p → seenLately timeout s.now p = false

/-- The condition on a record: no connection of the http driver, ids of
their own, and no connections before the actor has been initiated. -/
structure PersistedActor.Reclaimable (r : PersistedActor) : Prop where
  drivers : ∀ p ∈ r.connObjects, p.connDriver ≠ .http
  ids : (r.connObjects.map (·.connId)).Nodup
  initiated : r.hasInitiated = true ∨ r.connections = []

end RivetKit.Actor
