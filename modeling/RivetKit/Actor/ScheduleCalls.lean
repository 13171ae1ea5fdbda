/-
The calls `schedule.at` and `schedule.after` (actor/schedule.ts) and
`scheduleEvent` (actor/instance.ts), up to the record they leave.

The arguments are encoded before there is an event, so a call whose
arguments cannot be encoded leaves the record. Setting the alarm does not
reject a call either: the alarm queue swallows what its operation throws.
-/
import RivetKit.Actor.Connections
import RivetKit.Actor.PersistedVersioned

namespace RivetKit.Actor

open Js

variable {Args : Type} (encodeArgs : Args → Option Bytes)

namespace LiveInstance

/-- `scheduleEvent`. `encodeArgs` is `cbor.encode`, `none` where it
throws, and `eventId` is `crypto.randomUUID()`. Returns the accepted
event. -/
def scheduleAction (s : LiveInstance) (eventId : String)
    (timestamp : Number) (action : String) (args : Args) :
    LiveInstance × Option PersistedScheduleEvent :=
  match encodeArgs args with
  | none => (s, none)
  | some bytes =>
      let newEvent : PersistedScheduleEvent :=
        { eventId := eventId
          timestamp := timestamp
          kind := .generic action (some bytes) }
      (s.scheduleEvent newEvent, some newEvent)

/-- `schedule.at`. -/
def scheduleAt (s : LiveInstance) (eventId : String) (timestamp : Number)
    (fn : String) (args : Args) :
    LiveInstance × Option PersistedScheduleEvent :=
  s.scheduleAction encodeArgs eventId timestamp fn args

/-- `schedule.after`. -/
def scheduleAfter (s : LiveInstance) (eventId : String)
    (duration : Number) (fn : String) (args : Args) :
    LiveInstance × Option PersistedScheduleEvent :=
  s.scheduleAction encodeArgs eventId ((Number.ofInt s.now).add duration) fn
    args

end LiveInstance

-- ============================================================ the contract

/-- The record has a BARE form, a value of the schema. -/
def Encodable (codec : PersistCodec) (persist : PersistedActor) : Prop :=
  ∃ bare, convertToBarePersisted codec.toCodec persist = some bare
    ∧ bare.Fits

/-- The record is saved, every time in it a `u64`, and the event comes
back wherever it is. -/
def Saves (codec : PersistCodec) (persist : PersistedActor)
    (event : PersistedScheduleEvent) : Prop :=
  ∃ bare bytes back,
    convertToBarePersisted codec.toCodec persist = some bare ∧ bare.Fits
      ∧ codec.persistedActorVersioned.serializeWithEmbeddedVersion bare
        = some bytes
      ∧ codec.persistedActorVersioned.deserializeWithEmbeddedVersion bytes
        = some back
      ∧ ∀ i : Nat, persist.scheduledEvents[i]? = some event →
        back.scheduledEvents[i]?.map (·.toPersisted) = some event

/-- A call is rejected with the record unchanged, or accepted and
saved. -/
def SchedulesSafely (codec : PersistCodec) (s : LiveInstance)
    (result : LiveInstance × Option PersistedScheduleEvent) : Prop :=
  match result.2 with
  | none => result.1.persistRaw = s.persistRaw
  | some event => Saves codec result.1.persistRaw event

end RivetKit.Actor
