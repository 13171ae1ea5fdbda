/-
The metadata operations of `ActorInstance` (actor/instance.ts) over its
save path: `createConn`, `__removeConn`, `#addSubscription`,
`#removeSubscription`, assignments to `conn.state`,
`#scheduleEventInner`, the removal of due events in `_onAlarm`, and the
liveness probe.

# Through the proxy or not

A mutation of the record reaches the on-change callback only when it is
made through the proxy. `createConn` keeps the raw object in its `Conn`,
`#initialize` the proxied one, so a `Conn` remembers which it has
(`proxied`). `mutate` takes the path the proxy would report.

# Steps

Each operation is one step: none of them awaits between its mutation and
its call of `saveState`, whose promise none of them awaits either. A
call that throws is a disabled step. User code (hooks, actions) is the
arbitrary interleaving of the steps it can take.
-/
import RivetKit.Actor.Instance
import RivetKit.Actor.Persisted
import RivetKit.Lib.Lists

namespace RivetKit.Actor

open Transition
open Utils
open Js

/-- `Conn`: its subscription set and its `__persist` object. -/
structure Conn where
  persist : Nat
  proxied : Bool
  subscriptions : List String := []

/-- `ActorInstance` with its connections. -/
structure LiveInstance extends ActorInstance PersistedActor where
  /-- every `Conn` made, by allocation -/
  conns : List Conn := []
  /-- the map `#connections` -/
  connections : List (String × Nat) := []
  subscriptionIndex : List (String × List Nat) := []

namespace LiveInstance

variable {opts : ActorOptions}

-- ============================================================ the record

/-- A mutation of the record, through the proxy at `path` or of the raw
object. `valid` is what `isCborSerializable` says of the value. -/
def mutate (s : LiveInstance) (path : Option (List String)) (valid : Bool)
    (f : PersistedActor → PersistedActor) : LiveInstance :=
  match path with
  | some path => { s with toActorInstance := s.onChange path valid f }
  | none => { s with persistRaw := f s.persistRaw }

/-- A mutation of `conn.__persist` below `key`. -/
def mutateConn (s : LiveInstance) (conn : Conn) (key : String)
    (f : PersistedConn → PersistedConn) : LiveInstance :=
  s.mutate
    (if conn.proxied then some ["connections", key] else none) true
    (·.modifyConn conn.persist f)

/-- A call of `saveState` whose promise is not awaited. -/
def callSaveState (opts : ActorOptions) (s : LiveInstance)
    (o : SaveStateOptions) : LiveInstance :=
  { s with toActorInstance := s.saveState opts o }

/-- `conn.id`. -/
def connId (s : LiveInstance) (conn : Conn) : String :=
  (s.persistRaw.connObjects[conn.persist]?.map (·.connId)).getD ""

-- ============================================================= the maps

/-- `Map.set`: replace the entry of `key` or append one. -/
def mapSet {β : Type} (map : List (String × β)) (key : String) (v : β) :
    List (String × β) :=
  if map.any (·.1 == key) then
    map.map fun entry => if entry.1 == key then (key, v) else entry
  else map ++ [(key, v)]

/-- `Map.delete`. -/
def mapDelete {β : Type} (map : List (String × β)) (key : String) :
    List (String × β) :=
  map.filter (·.1 != key)

/-- Add `c` to the subscribers of `eventName`. -/
def indexAdd (index : List (String × List Nat)) (eventName : String)
    (c : Nat) : List (String × List Nat) :=
  mapSet index eventName (((index.lookup eventName).getD []).insert c)

/-- Delete `c` from the subscribers of `eventName`, and their set once
empty. -/
def indexDelete (index : List (String × List Nat)) (eventName : String)
    (c : Nat) : List (String × List Nat) :=
  match index.lookup eventName with
  | some subscribers =>
      let subscribers := subscribers.erase c
      if subscribers.isEmpty then mapDelete index eventName
      else mapSet index eventName subscribers
  | none => index

-- ======================================================== the operations

/-- `#addSubscription`, for the `Conn` object `c`. -/
def addSubscription (opts : ActorOptions) (s : LiveInstance)
    (eventName : String) (c : Nat) (fromPersist : Bool) : LiveInstance :=
  match s.conns[c]? with
  | none => s
  | some conn =>
      if eventName ∈ conn.subscriptions then s
      else
        let s :=
          -- Don't update persistence if already restoring from persistence
          if fromPersist then s
          else
            (s.mutateConn conn "subscriptions" fun p =>
                { p with subscriptions := p.subscriptions ++ [eventName] })
              |>.callSaveState opts { immediate := true }
        { s with
          conns := s.conns.modify c fun conn =>
            { conn with subscriptions := conn.subscriptions ++ [eventName] }
          subscriptionIndex := indexAdd s.subscriptionIndex eventName c }

/-- `#removeSubscription`, for the `Conn` object `c`. -/
def removeSubscription (opts : ActorOptions) (s : LiveInstance)
    (eventName : String) (c : Nat) (fromRemoveConn : Bool) :
    LiveInstance :=
  match s.conns[c]? with
  | none => s
  | some conn =>
      if eventName ∉ conn.subscriptions then s
      else
        let s :=
          -- Don't update the connection itself if the connection is
          -- already being removed
          if fromRemoveConn then s
          else
            let s := { s with
              conns := s.conns.modify c fun conn =>
                { conn with
                  subscriptions := conn.subscriptions.erase eventName } }
            (s.mutateConn conn "subscriptions" fun p =>
                { p with subscriptions := p.subscriptions.erase eventName })
              |>.callSaveState opts { immediate := true }
        { s with
          subscriptionIndex := indexDelete s.subscriptionIndex eventName c }

/-- `createConn` up to the `onConnect` hook; `none` where it throws. -/
def createConn (opts : ActorOptions) (s : LiveInstance)
    (connectionId connectionToken : String) (params state : Value)
    (driverId : ConnectionDriver) (driverState authData : Value) :
    Option LiveInstance :=
  if s.assertReady false && (s.connections.lookup connectionId).isNone then
    let persist : PersistedConn :=
      { connId := connectionId
        token := connectionToken
        connDriver := driverId
        connDriverState := driverState
        params := params
        state := state
        authData := authData
        lastSeen := .ofInt s.now
        subscriptions := [] }
    let ref := s.persistRaw.connObjects.length
    let s := s.mutate none true (·.allocConn persist)
    let s : LiveInstance := { s with
      conns := s.conns ++ [{ persist := ref, proxied := false }]
      connections := mapSet s.connections connectionId s.conns.length }
    -- Add to persistence & save immediately
    let s := s.mutate (some ["connections"]) true fun p =>
      { p with connections := p.connections ++ [ref] }
    some (s.callSaveState opts { immediate := true })
  else none

/-- The position in `persist.connections` of the first object with this
`connId`. -/
def findConnIdx (s : LiveInstance) (id : String) : Option Nat :=
  s.persistRaw.connections.findIdx? fun ref =>
    s.persistRaw.connObjects[ref]?.any (·.connId == id)

/-- `__removeConn` up to the `onDisconnect` hook. -/
def removeConn (opts : ActorOptions) (s : LiveInstance) (c : Nat) :
    LiveInstance :=
  match s.conns[c]? with
  | none => s
  | some conn =>
      let id := s.connId conn
      -- Remove from persist & save immediately
      let s := match s.findConnIdx id with
        | some connIdx =>
            (s.mutate (some ["connections"]) true fun p =>
                { p with connections := p.connections.eraseIdx connIdx })
              |>.callSaveState opts
                { immediate := true, allowStoppingState := true }
        | none => s
      -- Remove from state
      let s := { s with connections := mapDelete s.connections id }
      -- Remove subscriptions
      conn.subscriptions.foldl
        (fun s eventName => s.removeSubscription opts eventName c true) s

/-- An assignment to `conn.state`, or a mutation inside it. -/
def setConnState (s : LiveInstance) (c : Nat) (f : Value → Value) :
    LiveInstance :=
  match s.conns[c]? with
  | none => s
  | some conn =>
      s.mutateConn conn "state" fun p => { p with state := f p.state }

/-- The insertion of `#scheduleEventInner`: before the first later event. -/
def insertEvent (events : List PersistedScheduleEvent)
    (newEvent : PersistedScheduleEvent) : List PersistedScheduleEvent :=
  match events.findIdx? fun x => newEvent.timestamp.lt x.timestamp with
  | none => events ++ [newEvent]
  | some insertIndex => events.insertIdx insertIndex newEvent

/-- The new event is in the list once more, and the others are as they
were. -/
theorem perm_insertEvent (events : List PersistedScheduleEvent)
    (newEvent : PersistedScheduleEvent) :
    (insertEvent events newEvent).Perm (events ++ [newEvent]) := by
  unfold insertEvent
  split
  · exact List.Perm.refl _
  case h_2 i hfind =>
    obtain ⟨pre, x, post, hl, hlen, -, -⟩ := Lists.findIdx?_split hfind
    rw [hl, ← hlen, Lists.insertIdx_append]
    refine List.perm_middle.trans ?_
    exact (List.perm_append_singleton newEvent (pre ++ x :: post)).symm

theorem mem_insertEvent {events : List PersistedScheduleEvent}
    {newEvent x : PersistedScheduleEvent} :
    x ∈ insertEvent events newEvent ↔ x = newEvent ∨ x ∈ events := by
  rw [(perm_insertEvent events newEvent).mem_iff, List.mem_append,
    List.mem_singleton]
  exact or_comm

/-- `#scheduleEventInner`, the alarm aside. -/
def scheduleEvent (s : LiveInstance) (newEvent : PersistedScheduleEvent) :
    LiveInstance :=
  s.mutate (some ["scheduledEvents"]) true fun p =>
    { p with scheduledEvents := insertEvent p.scheduledEvents newEvent }

/-- The events `_onAlarm` leaves at the time `now`. -/
def remainingEvents (events : List PersistedScheduleEvent) (now : Int) :
    List PersistedScheduleEvent :=
  match events.findIdx? fun x => x.timestamp.le (.ofInt now) with
  | none => events
  | some runIndex => events.drop (runIndex + 1)

/-- The removal of due events in `_onAlarm`. -/
def onAlarm (s : LiveInstance) : LiveInstance :=
  s.mutate (some ["scheduledEvents"]) true fun p =>
    { p with scheduledEvents := remainingEvents p.scheduledEvents s.now }

/-- `[CONNECTION_CHECK_LIVENESS_SYMBOL]` of a connection that is not
closed. -/
def checkLiveness (s : LiveInstance) (c : Nat) : LiveInstance :=
  match s.conns[c]? with
  | none => s
  | some conn =>
      s.mutateConn conn "lastSeen" fun p => { p with lastSeen := .ofInt s.now }

/-- The part of `_stop` between its awaits that writes the state:
`clearTimeout`, then `saveState`. -/
def stop (opts : ActorOptions) (s : LiveInstance) : LiveInstance :=
  { s with toActorInstance := s.clearSaveTimeout }.callSaveState opts
    { immediate := true, allowStoppingState := true }

/-- The body of the `Load connections` loop of `#initialize`: a `Conn`
around the proxied object, and its subscriptions. -/
def loadConnection (opts : ActorOptions) (s : LiveInstance) (ref : Nat) :
    LiveInstance :=
  let conn : Conn := { persist := ref, proxied := true }
  let c := s.conns.length
  let subscriptions :=
    (s.persistRaw.connObjects[ref]?.map (·.subscriptions)).getD []
  let s := { s with
    conns := s.conns ++ [conn]
    connections := mapSet s.connections (s.connId conn) c }
  subscriptions.foldl
    (fun s eventName => s.addSubscription opts eventName c true) s

/-- The instance as `#initialize` leaves it, with the record `r` just
read or just written. A fresh record has no connections to load. -/
def initialized (opts : ActorOptions) (r : PersistedActor) : LiveInstance :=
  r.connections.foldl (loadConnection opts)
    { toActorInstance := .initialized r }

end LiveInstance

-- ============================================================ the machine

/-- The steps of an instance. -/
inductive LiveStep
  | stateChange (path : List String) (valid : Bool) (f : Value → Value)
  | createConn (connectionId connectionToken : String)
      (params state : Value) (driverId : ConnectionDriver)
      (driverState authData : Value)
  | removeConn (c : Nat)
  | addSubscription (eventName : String) (c : Nat)
  | removeSubscription (eventName : String) (c : Nat)
  | setConnState (c : Nat) (f : Value → Value)
  | scheduleEvent (event : PersistedScheduleEvent)
  | onAlarm
  | checkLiveness (c : Nat)
  | stop
  | save (a : SaveStep PersistedActor)

/-- Steps of the save path that stand by themselves here. Mutations are
steps of their own and `clearTimeout` is part of `stop`. The running
operation fails exactly when its conversion threw: every call of the
driver succeeds. -/
def LiveInstance.admits (codec : Codec) (s : LiveInstance) :
    SaveStep PersistedActor → Bool
  | .onChange _ _ _ => false
  | .clearSaveTimeout => false
  | .driverWrite ok =>
      s.write.all fun w => ok == encodes codec w.snapshot.persist
  | _ => true

/-- One step of an instance. -/
def liveStep (codec : Codec) (opts : ActorOptions) (s : LiveInstance) :
    LiveStep → Option LiveInstance
  | .stateChange path valid f =>
      -- a mutation of the user state, at or below `state`
      if path.head? = some "state" then
        some (s.mutate (some path) valid fun p => { p with state := f p.state })
      else none
  | .createConn id token params state driverId driverState authData =>
      s.createConn opts id token params state driverId driverState authData
  | .removeConn c => some (s.removeConn opts c)
  | .addSubscription eventName c =>
      some (s.addSubscription opts eventName c false)
  | .removeSubscription eventName c =>
      some (s.removeSubscription opts eventName c false)
  | .setConnState c f => some (s.setConnState c f)
  | .scheduleEvent event => some (s.scheduleEvent event)
  | .onAlarm => some s.onAlarm
  | .checkLiveness c => some (s.checkLiveness c)
  | .stop => some (s.stop opts)
  | .save a =>
      if s.admits codec a then
        (saveStep opts s.toActorInstance a).map fun t =>
          { s with toActorInstance := t }
      else none

/-- The runs of an instance whose driver writes all succeed, from a
record that can be encoded. -/
def liveSystem (codec : Codec) (opts : ActorOptions) :
    System LiveInstance LiveStep where
  init s := ∃ r, encodes codec r = true ∧ s = .initialized opts r
  step := liveStep codec opts

end RivetKit.Actor
