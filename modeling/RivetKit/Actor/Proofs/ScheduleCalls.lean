/-
A call of `schedule.at` or `schedule.after` is safe for later saves if and
only if it is rejected or its timestamp is a 64-bit integer
(`schedule_safe_iff`).

Nothing tests the number on its way into the list. `BigInt` throws on it
when the record is converted for the next save, or the encoder does for
want of a 64-bit value.
-/
import RivetKit.Actor.ScheduleCalls
import RivetKit.Actor.Proofs.PersistRoundTrip

namespace RivetKit.Actor

open Js
open Common
open Lists
open LiveInstance (insertEvent mem_insertEvent)

variable {codec : PersistCodec} {serializable : Value → Prop}
variable {Args : Type} {encodeArgs : Args → Option Bytes}

-- ============================================================== the record

/-- What `#scheduleEventInner` makes of the record. -/
theorem scheduleEvent_persistRaw (s : LiveInstance)
    (event : PersistedScheduleEvent) :
    (s.scheduleEvent event).persistRaw
      = { s.persistRaw with
          scheduledEvents :=
            insertEvent s.persistRaw.scheduledEvents event } := by
  unfold LiveInstance.scheduleEvent LiveInstance.mutate
    ActorInstance.onChange
  dsimp only
  split
  · rfl
  · rfl

/-- The record with the event has a BARE form if the event has. -/
theorem Encodable.insertEvent {persist : PersistedActor}
    (h : Encodable codec persist) {event : PersistedScheduleEvent}
    (hevent : IsTimestamp event.timestamp) :
    Encodable codec { persist with
      scheduledEvents := insertEvent persist.scheduledEvents event } := by
  obtain ⟨bare, hbare, hfits⟩ := h
  obtain ⟨conns, events, hconns, hevents, heq⟩ :=
    convertToBarePersisted_eq_some.1 hbare
  rw [heq] at hfits
  -- each event has a bare form with a time that fits
  have hall : ∀ x ∈ LiveInstance.insertEvent persist.scheduledEvents event,
      ∃ y, x.toBare = some y ∧ IsUint64 y.timestamp := by
    intro x hx
    rcases mem_insertEvent.1 hx with hx | hx
    · obtain ⟨i, hi, htime⟩ := hevent
      rw [hx]
      refine ⟨_, event_toBare_eq_some.2 ⟨i, ?_, rfl⟩, hi⟩
      rw [htime]
      rfl
    · obtain ⟨i, hi⟩ := List.getElem?_of_mem hx
      obtain ⟨y, hy, hbare⟩ := getElem?_mapM hevents hi
      exact ⟨y, hbare, hfits.2 y (List.mem_of_getElem? hy)⟩
  obtain ⟨events', hevents'⟩ := exists_mapM fun x hx =>
    let ⟨y, hy, _⟩ := hall x hx
    ⟨y, hy⟩
  refine ⟨_, convertToBarePersisted_eq_some.2
    ⟨conns, events', hconns, hevents', rfl⟩, hfits.1, ?_⟩
  intro y hy
  obtain ⟨x, hx, hbare⟩ := mem_of_mapM hevents' hy
  obtain ⟨y', hy', hfit⟩ := hall x hx
  rw [hbare] at hy'
  injection hy' with hy'
  rw [hy']
  exact hfit

-- ============================================================= the saving

/-- A record with a BARE form is saved, and an event whose time is a
double comes back. -/
theorem saves_of_encodable (hcodec : codec.RoundTrips serializable)
    {persist : PersistedActor} (h : Encodable codec persist)
    {event : PersistedScheduleEvent} (htime : IsTimestamp event.timestamp)
    (hdouble : event.timestamp.IsDouble) : Saves codec persist event := by
  obtain ⟨bare, hbare, hfits⟩ := h
  obtain ⟨data, hencode⟩ :=
    Option.isSome_iff_exists.1 (hcodec.encodes bare hfits)
  obtain ⟨bytes, hwrite, hread⟩ :=
    deserialize_serialize codec.persistedActorVersioned hencode
  refine ⟨bare, bytes, bare.asUint64, hbare, hfits, hwrite, ?_, ?_⟩
  · rw [hread]
    exact hcodec.decodes bare data hencode
  · intro i hi
    obtain ⟨conns, events, -, hevents, heq⟩ :=
      convertToBarePersisted_eq_some.1 hbare
    obtain ⟨y, hy, hfy⟩ := getElem?_mapM hevents hi
    obtain ⟨y', hy', hback⟩ := (event_round_trip hdouble).2 htime
    rw [hfy] at hy'
    injection hy' with hy'
    rw [← hy'] at hback
    rw [heq]
    show ((events.map (·.asUint64))[i]?).map _ = _
    rw [List.getElem?_map, hy]
    exact hback

/-- The time of a saved event is a 64-bit integer. -/
theorem isTimestamp_of_saves {persist : PersistedActor}
    {event : PersistedScheduleEvent} (h : Saves codec persist event)
    (hmem : event ∈ persist.scheduledEvents) :
    IsTimestamp event.timestamp := by
  obtain ⟨bare, -, -, hbare, hfits, -⟩ := h
  obtain ⟨conns, events, -, hevents, heq⟩ :=
    convertToBarePersisted_eq_some.1 hbare
  obtain ⟨i, hi⟩ := List.getElem?_of_mem hmem
  obtain ⟨y, hy, hfy⟩ := getElem?_mapM hevents hi
  obtain ⟨timestamp, htime, hy'⟩ := event_toBare_eq_some.1 hfy
  rw [heq] at hfits
  have hfit := hfits.2 y (List.mem_of_getElem? hy)
  rw [hy'] at hfit
  exact ⟨timestamp, hfit, Number.eq_ofInt_of_toBigInt htime⟩

/-- The call that both make. -/
theorem scheduleAction_safe_iff (hcodec : codec.RoundTrips serializable)
    {s : LiveInstance} (hs : Encodable codec s.persistRaw)
    {eventId action : String} {args : Args} {timestamp : Number}
    (hdouble : timestamp.IsDouble) :
    SchedulesSafely codec s
        (s.scheduleAction encodeArgs eventId timestamp action args)
      ↔ encodeArgs args = none ∨ IsTimestamp timestamp := by
  unfold LiveInstance.scheduleAction
  cases hencode : encodeArgs args with
  | none =>
      constructor
      · intro _
        exact Or.inl rfl
      · intro _
        exact rfl
  | some bytes =>
      dsimp only [SchedulesSafely]
      rw [scheduleEvent_persistRaw]
      constructor
      · intro h
        right
        exact isTimestamp_of_saves h (mem_insertEvent.2 (Or.inl rfl))
      · intro h
        rcases h with h | h
        · exact absurd h (by simp)
        · exact saves_of_encodable hcodec (hs.insertEvent h) h hdouble

/-- A call on an instance whose record can be encoded leaves a record that
can be saved, with the event's time as it was, or is rejected with the
record unchanged, if and only if its arguments cannot be encoded or its
timestamp is an integer of 64 bits. -/
theorem schedule_safe_iff (hcodec : codec.RoundTrips serializable)
    {s : LiveInstance} (hs : Encodable codec s.persistRaw)
    (eventId fn : String) (args : Args) :
    (∀ timestamp : Number, timestamp.IsDouble →
        (SchedulesSafely codec s
            (s.scheduleAt encodeArgs eventId timestamp fn args)
          ↔ encodeArgs args = none ∨ IsTimestamp timestamp))
      ∧ ∀ duration : Number,
        SchedulesSafely codec s
            (s.scheduleAfter encodeArgs eventId duration fn args)
          ↔ encodeArgs args = none
            ∨ IsTimestamp ((Number.ofInt s.now).add duration) := by
  constructor
  · intro timestamp hdouble
    exact scheduleAction_safe_iff hcodec hs hdouble
  · intro duration
    exact scheduleAction_safe_iff hcodec hs (Number.isDouble_add _ _)

-- ============================================================ the examples

/-- An actor that has nothing scheduled yet. -/
def freshRecord : PersistedActor where
  input := .null
  hasInitiated := true
  state := .bool false
  connObjects := []
  connections := []
  scheduledEvents := []

/-- Its instance. -/
def freshInstance : LiveInstance :=
  { toActorInstance := .initialized freshRecord }

theorem encodable_freshRecord : Encodable schemaCodec freshRecord := by
  refine ⟨_, rfl, ?_, ?_⟩
  · intro conn hconn
    exact absurd hconn List.not_mem_nil
  · intro event hevent
    exact absurd hevent List.not_mem_nil

/-- A time as `Date.now()` gives it is scheduled safely. -/
theorem schedule_safe_iff_freshInstance :
    SchedulesSafely schemaCodec freshInstance
      (freshInstance.scheduleAt (fun bytes : Bytes => some bytes) "e"
        (.ofInt 1700000001000) "tick" []) := by
  apply ((schedule_safe_iff schemaCodec_roundTrips encodable_freshRecord
    "e" "tick" []).1 _ (Number.isDouble_ofInt (by decide))).2
  exact Or.inr ⟨_, by decide, rfl⟩

/-- `schedule.at(1.5, "tick")` is accepted, and the record cannot be saved
any more. -/
theorem schedule_at_fraction_poisons :
    Encodable schemaCodec freshInstance.persistRaw
      ∧ ¬ SchedulesSafely schemaCodec freshInstance
        (freshInstance.scheduleAt (fun bytes : Bytes => some bytes) "e"
          (.finite (3 / 2)) "tick" []) := by
  refine ⟨encodable_freshRecord, ?_⟩
  intro h
  let event : PersistedScheduleEvent :=
    ⟨"e", .finite (3 / 2), .generic "tick" (some [])⟩
  have hsaved : Saves schemaCodec
      (freshInstance.scheduleEvent event).persistRaw event := h
  have hmem : event ∈ (freshInstance.scheduleEvent
      event).persistRaw.scheduledEvents := by
    rw [scheduleEvent_persistRaw]
    dsimp only
    exact mem_insertEvent.2 (Or.inl rfl)
  obtain ⟨i, -, hi⟩ := isTimestamp_of_saves hsaved hmem
  injection hi with hi
  -- no integer is half of 3
  have hdouble : (3 : Int) = 2 * i := by
    have := congrArg (2 * ·) hi
    norm_num at this
    exact_mod_cast this
  omega

end RivetKit.Actor
