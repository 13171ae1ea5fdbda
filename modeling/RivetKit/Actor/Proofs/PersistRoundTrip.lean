/-
A persisted record on its way to the bytes and back: it comes back equal
if and only if every connection's parameters, state and driver state are
truthy and every time is a 64-bit integer (`persisted_round_trip_iff`).

The converter writes `v || {}` for the three fields of a connection, so a
falsy one comes back as an empty object, while `input` and `authData` are
tested for `undefined`.
-/
import RivetKit.Actor.PersistSchema
import RivetKit.Lib.Lists

namespace RivetKit.Actor

open Js
open Common
open Lists

variable {codec : PersistCodec} {serializable : Value → Prop}

-- =============================================================== the values

/-- The bigint of a time. -/
theorem isUint64_of_toBigInt {n : Number} {i : Int}
    (h : n.toBigInt = some i) (hn : IsTimestamp n) : IsUint64 i := by
  obtain ⟨j, hj, heq⟩ := hn
  rw [heq, Number.toBigInt_ofInt] at h
  injection h with h
  rw [← h]
  exact hj

/-- A time comes back if and only if 64 bits hold it. -/
theorem time_round_trip {n : Number} (hdouble : n.IsDouble) :
    (∃ i, n.toBigInt = some i ∧ Number.ofBigInt (i % 2 ^ 64) = n)
      ↔ IsTimestamp n := by
  constructor
  · intro h
    obtain ⟨i, hi, hback⟩ := h
    have hn := Number.eq_ofInt_of_toBigInt hi
    rw [hn] at hback
    exact ⟨i, Number.range_of_ofBigInt hback, hn⟩
  · intro h
    obtain ⟨i, ⟨hlow, hhigh⟩, hn⟩ := h
    refine ⟨i, by rw [hn]; rfl, ?_⟩
    rw [Int.emod_eq_of_lt hlow hhigh, hn]
    rw [hn] at hdouble
    exact Number.ofBigInt_of_isDouble hdouble

/-- A field that is written as `v || {}` comes back if and only if it is
truthy. -/
theorem or_empty_iff (v : Value) : v.or (.obj []) = v ↔ v.truthy = true := by
  unfold Value.or
  constructor
  · intro h
    by_contra hfalsy
    rw [if_neg hfalsy] at h
    rw [← h] at hfalsy
    exact hfalsy rfl
  · intro h
    rw [if_pos h]

/-- What is written for such a field is serializable. -/
theorem serializable_or (hcodec : codec.RoundTrips serializable) {v : Value}
    (hv : serializable v) : serializable (v.or (.obj [])) := by
  unfold Value.or
  split
  · exact hv
  · exact hcodec.empty

/-- A field that is tested for `undefined` comes back. -/
theorem decodeDefined_encodeDefined (hcodec : codec.RoundTrips serializable)
    {v : Value} (hv : serializable v) :
    decodeDefined codec (encodeDefined codec.cborEncode v) = some v := by
  unfold encodeDefined
  cases v with
  | undefined => rfl
  | null => exact hcodec.cbor _ hv
  | bool b => exact hcodec.cbor _ hv
  | num n => exact hcodec.cbor _ hv
  | bigint i => exact hcodec.cbor _ hv
  | str s => exact hcodec.cbor _ hv
  | bytes b => exact hcodec.cbor _ hv
  | arr xs => exact hcodec.cbor _ hv
  | obj members => exact hcodec.cbor _ hv

theorem ofString_toString (driver : ConnectionDriver) :
    ConnectionDriver.ofString driver.toString = some driver := by
  cases driver with
  | webSocket => rfl
  | sse => rfl
  | http => rfl

-- ========================================================== the connections

/-- The values of a connection, and its time. -/
structure PersistedConn.WellTyped (serializable : Value → Prop)
    (conn : PersistedConn) : Prop where
  connDriverState : serializable conn.connDriverState
  params : serializable conn.params
  state : serializable conn.state
  authData : serializable conn.authData
  lastSeen : conn.lastSeen.IsDouble

/-- A connection that is kept. -/
structure PersistedConn.Kept (conn : PersistedConn) : Prop where
  connDriverState : conn.connDriverState.truthy = true
  params : conn.params.truthy = true
  state : conn.state.truthy = true
  lastSeen : IsTimestamp conn.lastSeen

/-- The conversion of a connection. -/
theorem toBare_eq_some {conn : PersistedConn}
    {bare : BarePersistedConnection} :
    conn.toBare codec.toCodec = some bare
      ↔ ∃ lastSeen, conn.lastSeen.toBigInt = some lastSeen ∧ bare =
        { id := conn.connId
          token := conn.token
          driver := conn.connDriver.toString
          driverState :=
            codec.cborEncode (conn.connDriverState.or (.obj []))
          parameters := codec.cborEncode (conn.params.or (.obj []))
          state := codec.cborEncode (conn.state.or (.obj []))
          auth := encodeDefined codec.cborEncode conn.authData
          subscriptions := conn.subscriptions
          lastSeen := lastSeen } := by
  unfold PersistedConn.toBare
  constructor
  · intro h
    obtain ⟨lastSeen, hlast, h⟩ := Option.bind_eq_some_iff.1 h
    injection h with h
    exact ⟨lastSeen, hlast, h.symm⟩
  · intro h
    obtain ⟨lastSeen, hlast, h⟩ := h
    rw [hlast, h]
    rfl

/-- What a connection comes back as. -/
theorem toPersisted_toBare (hcodec : codec.RoundTrips serializable)
    {conn : PersistedConn} (hconn : conn.WellTyped serializable)
    {bare : BarePersistedConnection}
    (h : conn.toBare codec.toCodec = some bare) :
    ∃ lastSeen, conn.lastSeen.toBigInt = some lastSeen
      ∧ bare.asUint64.toPersisted codec = some
        { conn with
          connDriverState := conn.connDriverState.or (.obj [])
          params := conn.params.or (.obj [])
          state := conn.state.or (.obj [])
          lastSeen := .ofBigInt (lastSeen % 2 ^ 64) } := by
  obtain ⟨lastSeen, hlast, hbare⟩ := toBare_eq_some.1 h
  refine ⟨lastSeen, hlast, ?_⟩
  rw [hbare]
  unfold BarePersistedConnection.toPersisted
    BarePersistedConnection.asUint64
  dsimp only
  rw [ofString_toString]
  rw [hcodec.cbor _ (serializable_or hcodec hconn.connDriverState)]
  rw [hcodec.cbor _ (serializable_or hcodec hconn.params)]
  rw [hcodec.cbor _ (serializable_or hcodec hconn.state)]
  rw [decodeDefined_encodeDefined hcodec hconn.authData]
  rfl

theorem conn_round_trip (hcodec : codec.RoundTrips serializable)
    {conn : PersistedConn} (hconn : conn.WellTyped serializable) :
    (∃ bare, conn.toBare codec.toCodec = some bare
        ∧ bare.asUint64.toPersisted codec = some conn) ↔ conn.Kept := by
  constructor
  · intro h
    obtain ⟨bare, hbare, hback⟩ := h
    obtain ⟨lastSeen, hlast, heq⟩ := toPersisted_toBare hcodec hconn hbare
    rw [hback] at heq
    injection heq with heq
    have hdriver := congrArg PersistedConn.connDriverState heq
    have hparams := congrArg PersistedConn.params heq
    have hstate := congrArg PersistedConn.state heq
    have htime := congrArg PersistedConn.lastSeen heq
    exact {
      connDriverState := (or_empty_iff _).1 hdriver.symm
      params := (or_empty_iff _).1 hparams.symm
      state := (or_empty_iff _).1 hstate.symm
      lastSeen := (time_round_trip hconn.lastSeen).1
        ⟨lastSeen, hlast, htime.symm⟩ }
  · intro h
    obtain ⟨lastSeen, hlast, htime⟩ :=
      (time_round_trip hconn.lastSeen).2 h.lastSeen
    have hbare := (@toBare_eq_some codec conn _).2 ⟨lastSeen, hlast, rfl⟩
    refine ⟨_, hbare, ?_⟩
    obtain ⟨lastSeen', hlast', heq⟩ := toPersisted_toBare hcodec hconn hbare
    rw [hlast] at hlast'
    injection hlast' with hlast'
    rw [heq, ← hlast', htime, (or_empty_iff _).2 h.connDriverState]
    rw [(or_empty_iff _).2 h.params, (or_empty_iff _).2 h.state]

-- =============================================================== the events

theorem event_toBare_eq_some {event : PersistedScheduleEvent}
    {bare : BarePersistedScheduleEvent} :
    event.toBare = some bare
      ↔ ∃ timestamp, event.timestamp.toBigInt = some timestamp ∧ bare =
        { eventId := event.eventId
          timestamp := timestamp
          kind := event.kind } := by
  unfold PersistedScheduleEvent.toBare
  constructor
  · intro h
    obtain ⟨timestamp, htime, h⟩ := Option.bind_eq_some_iff.1 h
    injection h with h
    exact ⟨timestamp, htime, h.symm⟩
  · intro h
    obtain ⟨timestamp, htime, h⟩ := h
    rw [htime, h]
    rfl

theorem event_round_trip {event : PersistedScheduleEvent}
    (hdouble : event.timestamp.IsDouble) :
    (∃ bare, event.toBare = some bare
        ∧ some bare.asUint64.toPersisted = some event)
      ↔ IsTimestamp event.timestamp := by
  rw [← time_round_trip hdouble]
  constructor
  · intro h
    obtain ⟨bare, hbare, hback⟩ := h
    obtain ⟨timestamp, htime, heq⟩ := event_toBare_eq_some.1 hbare
    injection hback with hback
    rw [heq] at hback
    exact ⟨timestamp, htime,
      congrArg PersistedScheduleEvent.timestamp hback⟩
  · intro h
    obtain ⟨timestamp, htime, hback⟩ := h
    refine ⟨_, (@event_toBare_eq_some event _).2 ⟨timestamp, htime, rfl⟩, ?_⟩
    unfold BarePersistedScheduleEvent.asUint64
      BarePersistedScheduleEvent.toPersisted
    dsimp only
    rw [hback]

-- =============================================================== the record

/-- The values of a record, and its times. -/
structure PersistedActor.WellTyped (serializable : Value → Prop)
    (persist : PersistedActor) : Prop where
  input : serializable persist.input
  state : serializable persist.state
  connections : ∀ conn ∈ persist.connectionObjects,
    conn.WellTyped serializable
  scheduledEvents : ∀ event ∈ persist.scheduledEvents,
    event.timestamp.IsDouble

/-- A record that is kept. -/
structure PersistedActor.Kept (persist : PersistedActor) : Prop where
  connections : ∀ conn ∈ persist.connectionObjects, conn.Kept
  scheduledEvents : ∀ event ∈ persist.scheduledEvents,
    IsTimestamp event.timestamp

/-- The conversion of a record. -/
theorem convertToBarePersisted_eq_some {c : Codec}
    {persist : PersistedActor} {bare : BarePersistedActor} :
    convertToBarePersisted c persist = some bare
      ↔ ∃ connections scheduledEvents,
        persist.connectionObjects.mapM (·.toBare c) = some connections
        ∧ persist.scheduledEvents.mapM (·.toBare) = some scheduledEvents
        ∧ bare =
          { input := encodeDefined c.cborEncode persist.input
            hasInitialized := persist.hasInitiated
            state := c.cborEncode persist.state
            connections := connections
            scheduledEvents := scheduledEvents } := by
  unfold convertToBarePersisted
  constructor
  · intro h
    obtain ⟨connections, hconns, h⟩ := Option.bind_eq_some_iff.1 h
    obtain ⟨events, hevents, h⟩ := Option.bind_eq_some_iff.1 h
    injection h with h
    exact ⟨connections, events, hconns, hevents, h.symm⟩
  · intro h
    obtain ⟨connections, events, hconns, hevents, h⟩ := h
    rw [hconns, hevents, h]
    rfl

/-- The objects of a record that was read. -/
theorem connectionObjects_range {persist : PersistedActor}
    (h : persist.connections = List.range persist.connObjects.length) :
    persist.connectionObjects = persist.connObjects := by
  unfold PersistedActor.connectionObjects
  rw [h]
  generalize persist.connObjects = conns
  induction conns with
  | nil => rfl
  | cons conn conns ih =>
      rw [List.length_cons, List.range_succ_eq_map, List.filterMap_cons]
      rw [List.filterMap_map]
      show conn :: _ = _
      have htail : ((fun i => (conn :: conns)[i]?) ∘ Nat.succ)
          = fun i => conns[i]? := by
        funext i
        rfl
      rw [htail, ih]

/-- Reading a record whose bytes came back. -/
theorem convertFromBarePersisted_eq_some
    (hcodec : codec.RoundTrips serializable) {persist : PersistedActor}
    (hpersist : persist.WellTyped serializable)
    {bare : BarePersistedActor} {connections : List PersistedConn}
    (hinput : bare.input = encodeDefined codec.cborEncode persist.input)
    (hstate : bare.state = codec.cborEncode persist.state)
    (hconns : bare.connections.mapM (·.toPersisted codec)
      = some connections) :
    convertFromBarePersisted codec bare = some
      { input := persist.input
        hasInitiated := bare.hasInitialized
        state := persist.state
        connObjects := connections
        connections := List.range connections.length
        scheduledEvents := bare.scheduledEvents.map (·.toPersisted) } := by
  unfold convertFromBarePersisted
  rw [hinput, decodeDefined_encodeDefined hcodec hpersist.input]
  rw [hstate, hcodec.cbor _ hpersist.state, hconns]
  rfl

/-- Bytes that were written are read as the record cut to 64 bits. -/
theorem readData_of_encode (hcodec : codec.RoundTrips serializable)
    {bare : BarePersistedActor} {data : Bytes}
    (h : codec.encodePersistedActor bare = some data) :
    ∃ bytes,
      codec.persistedActorVersioned.serializeWithEmbeddedVersion bare
        = some bytes
      ∧ readData codec bytes = convertFromBarePersisted codec bare.asUint64 := by
  obtain ⟨bytes, hwrite, hread⟩ :=
    deserialize_serialize codec.persistedActorVersioned h
  refine ⟨bytes, hwrite, ?_⟩
  unfold readData
  rw [hread]
  have hdecoded : codec.persistedActorVersioned.deserializeVersion data
      = some bare.asUint64 := hcodec.decodes bare data h
  rw [hdecoded]

/-- The elements of a record that is kept are in range. -/
theorem fits_of_kept {persist : PersistedActor} (h : persist.Kept)
    {bare : BarePersistedActor}
    (hbare : convertToBarePersisted codec.toCodec persist = some bare) :
    bare.Fits := by
  obtain ⟨conns, events, hconns, hevents, hbare⟩ :=
    convertToBarePersisted_eq_some.1 hbare
  rw [hbare]
  constructor
  · intro conn hconn
    obtain ⟨x, hx, hbare⟩ := mem_of_mapM hconns hconn
    obtain ⟨lastSeen, hlast, heq⟩ := toBare_eq_some.1 hbare
    rw [heq]
    exact isUint64_of_toBigInt hlast (h.connections x hx).lastSeen
  · intro event hevent
    obtain ⟨x, hx, hbare⟩ := mem_of_mapM hevents hevent
    obtain ⟨timestamp, htime, heq⟩ := event_toBare_eq_some.1 hbare
    rw [heq]
    exact isUint64_of_toBigInt htime (h.scheduledEvents x hx)

/-- Reading a record cut to 64 bits: the connections come back one by
one, and so do the events. -/
theorem convertFrom_asUint64 (hcodec : codec.RoundTrips serializable)
    {persist back : PersistedActor}
    (hpersist : persist.WellTyped serializable)
    {bare : BarePersistedActor}
    (hbare : convertToBarePersisted codec.toCodec persist = some bare) :
    convertFromBarePersisted codec bare.asUint64 = some back
      ↔ ∃ conns,
        bare.connections.mapM (fun c => c.asUint64.toPersisted codec)
          = some conns
        ∧ back =
          { input := persist.input
            hasInitiated := persist.hasInitiated
            state := persist.state
            connObjects := conns
            connections := List.range conns.length
            scheduledEvents :=
              bare.scheduledEvents.map fun e => e.asUint64.toPersisted } := by
  obtain ⟨_, _, -, -, heq⟩ := convertToBarePersisted_eq_some.1 hbare
  have hinput : bare.asUint64.input
      = encodeDefined codec.cborEncode persist.input := by
    rw [heq]
    rfl
  have hstate : bare.asUint64.state = codec.cborEncode persist.state := by
    rw [heq]
    rfl
  have hinitiated : bare.asUint64.hasInitialized = persist.hasInitiated := by
    rw [heq]
    rfl
  have hmap : bare.asUint64.connections.mapM (·.toPersisted codec)
      = bare.connections.mapM fun c => c.asUint64.toPersisted codec :=
    List.mapM_map
  have hevents : bare.asUint64.scheduledEvents.map (·.toPersisted)
      = bare.scheduledEvents.map fun e => e.asUint64.toPersisted :=
    List.map_map
  cases hconns : bare.connections.mapM
      fun c => c.asUint64.toPersisted codec with
  | none =>
      have hnone : convertFromBarePersisted codec bare.asUint64 = none := by
        unfold convertFromBarePersisted
        rw [hinput, decodeDefined_encodeDefined hcodec hpersist.input]
        rw [hstate, hcodec.cbor _ hpersist.state, hmap, hconns]
        rfl
      rw [hnone]
      simp
  | some conns =>
      rw [convertFromBarePersisted_eq_some hcodec hpersist hinput hstate
        (hmap.trans hconns)]
      rw [hevents, hinitiated]
      constructor
      · intro h
        injection h with h
        exact ⟨conns, rfl, h.symm⟩
      · intro h
        obtain ⟨conns', hconns', h⟩ := h
        injection hconns' with hconns'
        rw [h, hconns']

/-- What comes back equal was kept. -/
theorem kept_of_round_trip (hcodec : codec.RoundTrips serializable)
    {persist back : PersistedActor} {bytes : Bytes}
    (hpersist : persist.WellTyped serializable)
    (hwritten : writtenData codec persist = some bytes)
    (hread : readData codec bytes = some back)
    (hsame : back.Same persist) : persist.Kept := by
  have hconnsIff := mapM_round_trip fun conn hconn =>
    conn_round_trip hcodec (hpersist.connections conn hconn)
  have heventsIff := mapM_round_trip fun event hevent =>
    event_round_trip (hpersist.scheduledEvents event hevent)
  unfold writtenData at hwritten
  split at hwritten
  case h_2 => exact absurd hwritten (by simp)
  case h_1 bare hbare =>
    obtain ⟨conns, events, hconns, hevents, heq⟩ :=
      convertToBarePersisted_eq_some.1 hbare
    cases hencode : codec.encodePersistedActor bare with
    | none =>
        unfold VersionedDataConfig.serializeWithEmbeddedVersion at hwritten
        rw [show codec.persistedActorVersioned.serializeVersion bare = none
          from hencode] at hwritten
        exact absurd hwritten (by simp)
    | some data =>
        obtain ⟨bytes', hwrite, hback⟩ := readData_of_encode hcodec hencode
        rw [hwrite] at hwritten
        injection hwritten with hbytes
        rw [← hbytes, hback] at hread
        obtain ⟨cs, hcs, hrecord⟩ :=
          (convertFrom_asUint64 hcodec hpersist hbare).1 hread
        rw [hrecord] at hsame
        have hobjects := hsame.connections
        rw [connectionObjects_range rfl] at hobjects
        rw [heq, show cs = persist.connectionObjects from hobjects] at hcs
        refine ⟨hconnsIff.1 ⟨conns, hconns, hcs⟩,
          heventsIff.1 ⟨events, hevents, ?_⟩⟩
        have hsameEvents := hsame.scheduledEvents
        rw [heq] at hsameEvents
        exact List.mapM_pure.trans (congrArg some hsameEvents)

/-- What is kept comes back equal. -/
theorem round_trip_of_kept (hcodec : codec.RoundTrips serializable)
    {persist : PersistedActor} (hpersist : persist.WellTyped serializable)
    (h : persist.Kept) :
    ∃ bytes back, writtenData codec persist = some bytes
      ∧ readData codec bytes = some back ∧ back.Same persist := by
  have hconnsIff := mapM_round_trip fun conn hconn =>
    conn_round_trip hcodec (hpersist.connections conn hconn)
  have heventsIff := mapM_round_trip fun event hevent =>
    event_round_trip (hpersist.scheduledEvents event hevent)
  obtain ⟨conns, hconns, hcs⟩ := hconnsIff.2 h.connections
  obtain ⟨events, hevents, hes⟩ := heventsIff.2 h.scheduledEvents
  have hbare := (@convertToBarePersisted_eq_some codec.toCodec persist
    _).2 ⟨conns, events, hconns, hevents, rfl⟩
  obtain ⟨data, hencode⟩ :=
    Option.isSome_iff_exists.1 (hcodec.encodes _ (fits_of_kept h hbare))
  obtain ⟨bytes, hwrite, hback⟩ := readData_of_encode hcodec hencode
  have hes' := List.mapM_pure.symm.trans hes
  injection hes' with hes'
  refine ⟨bytes, _, ?_, hback.trans
    ((convertFrom_asUint64 hcodec hpersist hbare).2 ⟨_, hcs, rfl⟩), ?_⟩
  · unfold writtenData
    rw [hbare]
    exact hwrite
  · exact {
      input := rfl
      hasInitiated := rfl
      state := rfl
      connections := connectionObjects_range rfl
      scheduledEvents := hes' }

/-- A record comes back equal if and only if its connections and times
are kept. -/
theorem persisted_round_trip_iff (hcodec : codec.RoundTrips serializable)
    {persist : PersistedActor} (hpersist : persist.WellTyped serializable) :
    (∃ bytes back, writtenData codec persist = some bytes
        ∧ readData codec bytes = some back ∧ back.Same persist)
      ↔ persist.Kept := by
  constructor
  · intro h
    obtain ⟨bytes, back, hwritten, hread, hsame⟩ := h
    exact kept_of_round_trip hcodec hpersist hwritten hread hsame
  · intro h
    exact round_trip_of_kept hcodec hpersist h

-- ============================================================ two records

/-- A connection with these parameters. -/
def connWith (params : Value) : PersistedConn where
  connId := "c"
  token := "t"
  connDriver := .webSocket
  connDriverState := .obj []
  params := params
  state := .bool true
  authData := .bool false
  subscriptions := ["news"]
  lastSeen := .ofInt 1700000000000

/-- A record with one such connection and one event. -/
def recordWith (params : Value) : PersistedActor where
  input := .null
  hasInitiated := true
  state := .bool false
  connObjects := [connWith params]
  connections := [0]
  scheduledEvents := [⟨"e", .ofInt 1700000001000, .generic "tick" none⟩]

theorem recordWith_wellTyped {params : Value} (h : IsSimple params) :
    (recordWith params).WellTyped IsSimple where
  input := Or.inr (Or.inl rfl)
  state := Or.inr (Or.inr (Or.inl ⟨false, rfl⟩))
  connections := by
    intro conn hconn
    rw [List.mem_singleton.1 hconn]
    exact {
      connDriverState := Or.inr (Or.inr (Or.inr rfl))
      params := h
      state := Or.inr (Or.inr (Or.inl ⟨true, rfl⟩))
      authData := Or.inr (Or.inr (Or.inl ⟨false, rfl⟩))
      lastSeen := Number.isDouble_ofInt (by decide) }
  scheduledEvents := by
    intro event hevent
    rw [List.mem_singleton.1 hevent]
    exact Number.isDouble_ofInt (by decide)

/-- Falsy input, state and auth data come back. -/
theorem persisted_round_trip_iff_recordWith :
    ∃ bytes back, writtenData schemaCodec (recordWith (.obj [])) = some bytes
      ∧ readData schemaCodec bytes = some back
      ∧ back.Same (recordWith (.obj [])) := by
  apply (persisted_round_trip_iff schemaCodec_roundTrips
    (recordWith_wellTyped (Or.inr (Or.inr (Or.inr rfl))))).2
  refine ⟨?_, ?_⟩
  · intro conn hconn
    rw [List.mem_singleton.1 hconn]
    exact ⟨rfl, rfl, rfl, ⟨_, by decide, rfl⟩⟩
  · intro event hevent
    rw [List.mem_singleton.1 hevent]
    exact ⟨_, by decide, rfl⟩

/-- Parameters `false` do not. -/
theorem falsy_params_lost :
    schemaCodec.RoundTrips IsSimple
      ∧ (recordWith (.bool false)).WellTyped IsSimple
      ∧ ¬ ∃ bytes back,
        writtenData schemaCodec (recordWith (.bool false)) = some bytes
          ∧ readData schemaCodec bytes = some back
          ∧ back.Same (recordWith (.bool false)) := by
  have htyped := recordWith_wellTyped
    (Or.inr (Or.inr (Or.inl ⟨false, rfl⟩)))
  refine ⟨schemaCodec_roundTrips, htyped, ?_⟩
  intro h
  obtain ⟨bytes, back, hwritten, hread, hsame⟩ := h
  have hkept := kept_of_round_trip schemaCodec_roundTrips htyped hwritten
    hread hsame
  have hparams := (hkept.connections _ (List.mem_singleton.2 rfl)).params
  exact absurd hparams (by decide)

end RivetKit.Actor
