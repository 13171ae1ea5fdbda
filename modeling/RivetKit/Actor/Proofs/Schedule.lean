/-
The schedule of an instance over whole runs: the list stays sorted with
ties in the order of insertion, no event is lost, taken twice or taken
early (`schedule_ok`), and the driver's alarm is the head of the list
(`alarm_tracking`).

# Insertion and removal

`insertEvent` puts an event behind all that are not later, which keeps a
sorted list sorted and ties in order. The first due event of a sorted
list is its head, so `_onAlarm` takes the head and nothing else.

# The alarm

From the initial alarm on, the last timestamp that was enqueued is the
head of the list, whether it still waits in the slot of the queue or was
handed to the driver.
-/
import RivetKit.Actor.Schedule
import RivetKit.Lib.Lists
import Mathlib.Algebra.Order.Ring.Rat
import Mathlib.Data.List.Nodup

namespace RivetKit.Actor

open Transition
open Utils
open Js
open Lists
open LiveInstance (insertEvent remainingEvents perm_insertEvent)

-- ============================================================ the numbers

theorem le_of_not_lt {x y : Number} (hx : Finite x) (hy : Finite y)
    (h : y.lt x = false) : x.le y = true := by
  obtain ⟨p, hp⟩ := hx
  obtain ⟨q, hq⟩ := hy
  rw [hp, hq] at h ⊢
  show (!(Number.finite q).lt (Number.finite p)) = true
  rw [h]
  rfl

theorem not_lt_of_le {x y : Number} (h : x.le y = true) :
    y.lt x = false := by
  unfold Number.le at h
  split at h
  · exact absurd h (by simp)
  · exact absurd h (by simp)
  · exact Bool.not_eq_true' _ ▸ h

theorem lt_of_le_of_lt {x y z : Number} (hx : Finite x) (hy : Finite y)
    (hz : Finite z) (hxy : x.lt y = true) (hyz : y.le z = true) :
    x.lt z = true := by
  obtain ⟨p, hp⟩ := hx
  obtain ⟨q, hq⟩ := hy
  obtain ⟨r, hr⟩ := hz
  have hle := not_lt_of_le hyz
  rw [hq, hr] at hle
  rw [hp, hq] at hxy
  rw [hp, hr]
  unfold Number.lt at hxy hle ⊢
  simp only [decide_eq_true_eq, decide_eq_false_iff_not] at hxy hle ⊢
  exact lt_of_lt_of_le hxy (not_lt.1 hle)

theorem not_lt_of_lt {x y : Number} (hx : Finite x) (hy : Finite y)
    (h : x.lt y = true) : y.lt x = false := by
  obtain ⟨p, hp⟩ := hx
  obtain ⟨q, hq⟩ := hy
  rw [hp, hq] at h ⊢
  unfold Number.lt at h ⊢
  simp only [decide_eq_true_eq, decide_eq_false_iff_not] at h ⊢
  exact not_lt.2 (le_of_lt h)

theorem not_lt_self {x : Number} (hx : Finite x) : x.lt x = false := by
  obtain ⟨p, hp⟩ := hx
  rw [hp]
  unfold Number.lt
  simp

theorem le_trans_finite {x y z : Number} (hx : Finite x) (hy : Finite y)
    (hz : Finite z) (hxy : x.le y = true) (hyz : y.le z = true) :
    x.le z = true := by
  apply le_of_not_lt hx hz
  by_contra hlt
  have hzx := Bool.not_eq_false _ ▸ hlt
  have hzy := lt_of_le_of_lt hz hx hy hzx hxy
  rw [not_lt_of_le hyz] at hzy
  exact absurd hzy (by simp)

-- ========================================================== the insertion

/-- All events have finite timestamps. -/
def AllFinite (events : List PersistedScheduleEvent) : Prop :=
  ∀ e ∈ events, Finite e.timestamp

/-- Insertion splits a sorted list into what is not later and what is. -/
theorem insertEvent_split {events : List PersistedScheduleEvent}
    {e : PersistedScheduleEvent} (hsorted : Sorted events)
    (hfinite : AllFinite events) (he : Finite e.timestamp) :
    ∃ pre post, events = pre ++ post
      ∧ insertEvent events e = pre ++ e :: post
      ∧ (∀ x ∈ pre, e.timestamp.lt x.timestamp = false)
      ∧ ∀ x ∈ post, e.timestamp.lt x.timestamp = true := by
  unfold LiveInstance.insertEvent
  cases hfind : events.findIdx? fun x => e.timestamp.lt x.timestamp with
  | none =>
      refine ⟨events, [], by simp, rfl, ?_, by simp⟩
      exact List.findIdx?_eq_none_iff.1 hfind
  | some i =>
      obtain ⟨pre, x, post, hl, hlen, hx, hpre⟩ := findIdx?_split hfind
      refine ⟨pre, x :: post, hl, ?_, hpre, ?_⟩
      · dsimp only
        rw [hl, ← hlen]
        exact insertIdx_append pre (x :: post) e
      · intro y hy
        rcases List.mem_cons.1 hy with heq | hy
        · rw [heq]
          exact hx
        · have hxy : x.timestamp.le y.timestamp = true := by
            rw [hl] at hsorted
            have htail := (List.pairwise_append.1 hsorted).2.1
            exact (List.pairwise_cons.1 htail).1 y hy
          apply lt_of_le_of_lt he _ _ hx hxy
          · apply hfinite
            rw [hl]
            simp
          · apply hfinite
            rw [hl]
            simp [hy]

theorem Sorted.insertEvent {events : List PersistedScheduleEvent}
    {e : PersistedScheduleEvent} (hsorted : Sorted events)
    (hfinite : AllFinite events) (he : Finite e.timestamp) :
    Sorted (insertEvent events e) := by
  obtain ⟨pre, post, hl, hinsert, hpre, hpost⟩ :=
    insertEvent_split hsorted hfinite he
  have hfin : ∀ x, x ∈ pre ∨ x ∈ post → Finite x.timestamp := by
    intro x hx
    apply hfinite
    rw [hl]
    exact List.mem_append.2 hx
  rw [hl] at hsorted
  obtain ⟨hsortedPre, hsortedPost, hcross⟩ := List.pairwise_append.1 hsorted
  rw [hinsert]
  apply List.pairwise_append.2
  refine ⟨hsortedPre, List.pairwise_cons.2 ⟨?_, hsortedPost⟩, ?_⟩
  · intro y hy
    apply le_of_not_lt he (hfin y (Or.inr hy))
    exact not_lt_of_lt he (hfin y (Or.inr hy)) (hpost y hy)
  · intro x hx y hy
    rcases List.mem_cons.1 hy with heq | hy
    · rw [heq]
      exact le_of_not_lt (hfin x (Or.inl hx)) he (hpre x hx)
    · exact hcross x hx y hy

/-- An event comes behind those with its timestamp, and every other
timestamp keeps its events as they are. -/
theorem filter_insertEvent {events : List PersistedScheduleEvent}
    {e : PersistedScheduleEvent} (hsorted : Sorted events)
    (hfinite : AllFinite events) (he : Finite e.timestamp) (t : Number) :
    (insertEvent events e).filter (fun x => decide (x.timestamp = t))
      = events.filter (fun x => decide (x.timestamp = t))
        ++ [e].filter (fun x => decide (x.timestamp = t)) := by
  obtain ⟨pre, post, hl, hinsert, -, hpost⟩ :=
    insertEvent_split hsorted hfinite he
  rw [hinsert, hl, List.filter_append, List.filter_append]
  by_cases ht : e.timestamp = t
  · -- nothing behind the new event has its timestamp
    have hnone : post.filter (fun x => decide (x.timestamp = t)) = [] := by
      apply List.filter_eq_nil_iff.2
      intro x hx hxt
      have hlt := hpost x hx
      rw [of_decide_eq_true hxt, ← ht, not_lt_self he] at hlt
      exact absurd hlt (by simp)
    simp [ht, hnone]
  · simp [ht]

-- ============================================================ the removal

/-- What is taken and what is left. -/
theorem due_append_remaining (events : List PersistedScheduleEvent)
    (now : Int) : dueEvents events now ++ remainingEvents events now
      = events := by
  unfold dueEvents LiveInstance.remainingEvents
  cases events.findIdx? fun x => x.timestamp.le (.ofInt now) with
  | none => rfl
  | some i => exact List.take_append_drop (i + 1) events

/-- Of a sorted list only due events are taken. -/
theorem due_of_sorted {events : List PersistedScheduleEvent} {now : Int}
    (hsorted : Sorted events) (hfinite : AllFinite events) :
    ∀ e ∈ dueEvents events now, e.timestamp.le (.ofInt now) = true := by
  unfold dueEvents
  cases hfind : events.findIdx? fun x => x.timestamp.le (.ofInt now) with
  | none => simp
  | some i =>
      obtain ⟨pre, x, post, hl, hlen, hx, -⟩ := findIdx?_split hfind
      have htake : events.take (i + 1) = pre ++ [x] := by
        have hcons : pre ++ x :: post = (pre ++ [x]) ++ post := by simp
        rw [hl, hcons]
        apply List.take_left'
        rw [List.length_append, hlen]
        rfl
      intro e he
      dsimp only at he
      rw [htake] at he
      rcases List.mem_append.1 he with he | he
      · -- what stands before a due event is due
        rw [hl] at hsorted hfinite
        have hex := (List.pairwise_append.1 hsorted).2.2 e he x (by simp)
        refine le_trans_finite ?_ ?_ ⟨_, rfl⟩ hex hx
        · exact hfinite e (by simp [he])
        · exact hfinite x (by simp)
      · rw [List.mem_singleton.1 he]
        exact hx

-- ============================================================ the contract

/-- The list is sorted with ties in the order of acceptance, every
accepted event is in one place, none was taken before its time, and what
was taken is executed once. -/
structure ScheduledActor.ScheduleOk (s : ScheduledActor) : Prop where
  sorted : Sorted s.scheduledEvents
  ties : ∀ t : Number,
    s.accepted.filter (fun x => decide (x.timestamp = t))
      = s.takenEvents.filter (fun x => decide (x.timestamp = t))
        ++ s.scheduledEvents.filter (fun x => decide (x.timestamp = t))
  one_place : s.accepted.Perm (s.takenEvents ++ s.scheduledEvents)
  due : ∀ x ∈ s.taken, x.1.timestamp.le (.ofInt x.2) = true
  once : s.takenEvents.Perm (s.executed ++ s.alarms.flatMap (·.events))

/-- Every accepted event is pending or taken, not both, and none was
taken or executed twice. -/
def ScheduledActor.AtMostOnce (s : ScheduledActor) : Prop :=
  (∀ e ∈ s.accepted, (e ∈ s.scheduledEvents ∧ e ∉ s.takenEvents)
      ∨ (e ∉ s.scheduledEvents ∧ e ∈ s.takenEvents))
    ∧ s.takenEvents.Nodup ∧ s.executed.Nodup

/-- Events with ids of their own can be told apart, so one place is one
occurrence. -/
theorem ScheduledActor.ScheduleOk.atMostOnce {s : ScheduledActor}
    (hs : s.ScheduleOk) (hids : (s.accepted.map (·.eventId)).Nodup) :
    s.AtMostOnce := by
  have hnodup : (s.takenEvents ++ s.scheduledEvents).Nodup :=
    hs.one_place.nodup_iff.1 (List.Nodup.of_map _ hids)
  obtain ⟨htaken, -, hdisjoint⟩ := List.nodup_append.1 hnodup
  refine ⟨?_, htaken, ?_⟩
  · intro e he
    rcases List.mem_append.1 (hs.one_place.mem_iff.1 he) with he | he
    · exact Or.inr ⟨fun hpending => hdisjoint e he e hpending rfl, he⟩
    · exact Or.inl ⟨he, fun htaken => hdisjoint e htaken e he rfl⟩
  · have hrun := hs.once.nodup_iff.1 htaken
    exact (List.nodup_append.1 hrun).1

/-- The contract with what keeps it. -/
structure ScheduledActor.ScheduleInv (s : ScheduledActor) : Prop
    extends s.ScheduleOk where
  finite : AllFinite s.scheduledEvents

open ScheduledActor

theorem scheduleInv_init {events : List PersistedScheduleEvent}
    (hsorted : Sorted events) (hfinite : AllFinite events) :
    ScheduleInv { scheduledEvents := events, accepted := events } where
  sorted := hsorted
  ties := by
    intro t
    simp [takenEvents]
  one_place := List.Perm.refl _
  due := by simp
  once := List.Perm.refl _
  finite := hfinite

-- ============================================================== the steps

/-- The contract does not read the alarm. -/
theorem ScheduledActor.ScheduleInv.withAlarm {s : ScheduledActor}
    (hs : s.ScheduleInv) (q : SinglePromiseQueue Number)
    (handed : List Number) (started : Bool) :
    ScheduleInv { s with
      alarmWriteQueue := q, handed := handed, started := started } :=
  ⟨⟨hs.sorted, hs.ties, hs.one_place, hs.due, hs.once⟩, hs.finite⟩

theorem ScheduledActor.ScheduleInv.initialAlarm {s : ScheduledActor}
    (hs : s.ScheduleInv) : s.initialAlarm.ScheduleInv := by
  unfold ScheduledActor.initialAlarm
  dsimp only
  split
  · exact hs.withAlarm _ _ _
  · exact hs.withAlarm _ _ _

/-- An event is inserted. -/
theorem ScheduledActor.ScheduleInv.insert {s : ScheduledActor}
    (hs : s.ScheduleInv) {e : PersistedScheduleEvent}
    (he : Finite e.timestamp) :
    ScheduleInv { s with
      scheduledEvents := insertEvent s.scheduledEvents e
      accepted := s.accepted ++ [e] } where
  sorted := hs.sorted.insertEvent hs.finite he
  ties := by
    intro t
    dsimp only
    rw [filter_insertEvent hs.sorted hs.finite he, List.filter_append]
    rw [hs.ties t, List.append_assoc]
    rfl
  one_place := by
    have hperm := perm_insertEvent s.scheduledEvents e
    show (s.accepted ++ [e]).Perm
      (s.takenEvents ++ insertEvent s.scheduledEvents e)
    refine (hs.one_place.append_right [e]).trans ?_
    rw [List.append_assoc]
    exact hperm.symm.append_left s.takenEvents
  due := hs.due
  once := hs.once
  finite := by
    intro x hx
    have hmem := (perm_insertEvent s.scheduledEvents e).mem_iff.1 hx
    rcases List.mem_append.1 hmem with hx | hx
    · exact hs.finite x hx
    · rw [List.mem_singleton.1 hx]
      exact he

theorem ScheduledActor.ScheduleInv.scheduleEvent {s : ScheduledActor}
    (hs : s.ScheduleInv) {e : PersistedScheduleEvent}
    (he : Finite e.timestamp) : (s.scheduleEvent e).ScheduleInv := by
  unfold ScheduledActor.scheduleEvent
  dsimp only
  split
  · exact (hs.insert he).withAlarm _ _ _
  · exact hs.insert he

/-- Due events are taken by a new call of `_onAlarm`. -/
theorem ScheduledActor.ScheduleInv.take {s : ScheduledActor}
    (hs : s.ScheduleInv) (now : Int) {pc : OnAlarmPc}
    (hpc : pc.events = dueEvents s.scheduledEvents now) :
    ScheduleInv { s with
      scheduledEvents := remainingEvents s.scheduledEvents now
      taken := s.taken ++ (dueEvents s.scheduledEvents now).map (·, now)
      alarms := s.alarms ++ [pc] } := by
  have hsplit := due_append_remaining s.scheduledEvents now
  have htaken : takenEvents { s with
        scheduledEvents := remainingEvents s.scheduledEvents now
        taken := s.taken ++ (dueEvents s.scheduledEvents now).map (·, now)
        alarms := s.alarms ++ [pc] }
      = s.takenEvents ++ dueEvents s.scheduledEvents now := by
    unfold takenEvents
    rw [List.map_append, List.map_map]
    simp [Function.comp_def]
  have hsuffix : ∀ x ∈ remainingEvents s.scheduledEvents now,
      x ∈ s.scheduledEvents := by
    intro x hx
    rw [← hsplit]
    exact List.mem_append.2 (Or.inr hx)
  exact {
    sorted := by
      have hsorted := hs.sorted
      rw [← hsplit] at hsorted
      exact (List.pairwise_append.1 hsorted).2.1
    ties := by
      intro t
      have hfilter := congrArg
        (List.filter fun x => decide (x.timestamp = t)) hsplit
      rw [List.filter_append] at hfilter
      rw [htaken, List.filter_append, List.append_assoc]
      dsimp only
      rw [hfilter]
      exact hs.ties t
    one_place := by
      rw [htaken, List.append_assoc, hsplit]
      exact hs.one_place
    due := by
      intro x hx
      rcases List.mem_append.1 hx with hx | hx
      · exact hs.due x hx
      · obtain ⟨e, he, heq⟩ := List.mem_map.1 hx
        rw [← heq]
        exact due_of_sorted hs.sorted hs.finite e he
    once := by
      rw [htaken]
      show (s.takenEvents ++ _).Perm
        (s.executed ++ (s.alarms ++ [pc]).flatMap (·.events))
      rw [List.flatMap_append, ← List.append_assoc]
      apply hs.once.append
      rw [List.flatMap_singleton, hpc]
    finite := fun x hx => hs.finite x (hsuffix x hx) }

theorem ScheduledActor.ScheduleInv.onAlarm {s : ScheduledActor}
    (hs : s.ScheduleInv) (now : Int) : (s.onAlarm now).ScheduleInv := by
  unfold ScheduledActor.onAlarm
  dsimp only
  split
  · exact hs.take now rfl
  · exact ScheduleInv.withAlarm (hs.take now rfl) _ _ _

/-- A call of `_onAlarm` goes on to a place with the events `rest`, and
executes those before them. -/
theorem ScheduledActor.ScheduleInv.advance {s : ScheduledActor}
    (hs : s.ScheduleInv) {k : Nat} {pc pc' : OnAlarmPc}
    {done : List PersistedScheduleEvent} (hpc : s.alarms[k]? = some pc)
    (hevents : pc.events = done ++ pc'.events) :
    ScheduleInv { s with
      alarms := s.alarms.set k pc'
      executed := s.executed ++ done } where
  sorted := hs.sorted
  ties := hs.ties
  one_place := hs.one_place
  due := hs.due
  once := by
    have hperm := flatMap_set_perm hpc hevents
    show s.takenEvents.Perm (s.executed ++ done ++ _)
    rw [List.append_assoc]
    exact hs.once.trans (hperm.append_left s.executed)
  finite := hs.finite

theorem ScheduledActor.ScheduleInv.resumeAlarm {s s' : ScheduledActor}
    (hs : s.ScheduleInv) {k : Nat} (h : s.resumeAlarm k = some s') :
    s'.ScheduleInv := by
  unfold ScheduledActor.resumeAlarm at h
  split at h
  case h_1 r events hpc =>
    split at h
    · injection h with h
      rw [← h]
      have hnext := @ScheduleInv.advance s hs k _ (.running events) []
        hpc rfl
      rw [List.append_nil] at hnext
      exact hnext
    · exact absurd h (by simp)
  case h_2 event events hpc =>
    injection h with h
    rw [← h]
    exact hs.advance hpc rfl
  case h_3 => exact absurd h (by simp)

theorem ScheduledActor.ScheduleInv.setAlarmSettled {s s' : ScheduledActor}
    (hs : s.ScheduleInv) (h : s.setAlarmSettled = some s') :
    s'.ScheduleInv := by
  unfold ScheduledActor.setAlarmSettled at h
  split at h
  · exact absurd h (by simp)
  · injection h with h
    rw [← h]
    exact hs.withAlarm _ _ _

/-- What a step of the schedule can be. -/
inductive ScheduleCase (s s' : ScheduledActor) : ScheduleStep → Prop
  | initialAlarm : s.started = false → s' = s.initialAlarm →
      ScheduleCase s s' .initialAlarm
  | scheduleEvent (event : PersistedScheduleEvent) :
      Finite event.timestamp → s' = s.scheduleEvent event →
      ScheduleCase s s' (.scheduleEvent event)
  | onAlarm (now : Int) :
      s' = s.onAlarm now → ScheduleCase s s' (.onAlarm now)
  | resumeAlarm (k : Nat) :
      s.resumeAlarm k = some s' → ScheduleCase s s' (.resumeAlarm k)
  | setAlarmSettled :
      s.setAlarmSettled = some s' → ScheduleCase s s' .setAlarmSettled

theorem scheduleStep_cases {s s' : ScheduledActor} {a : ScheduleStep}
    (h : scheduleStep s a = some s') : ScheduleCase s s' a := by
  cases a with
  | initialAlarm =>
      simp only [scheduleStep] at h
      split at h
      case isTrue => exact absurd h (by simp)
      case isFalse hstarted =>
        injection h with h
        exact .initialAlarm (Bool.eq_false_iff.2 hstarted) h.symm
  | scheduleEvent event =>
      simp only [scheduleStep] at h
      split at h
      case isTrue hfinite =>
        injection h with h
        exact .scheduleEvent event hfinite h.symm
      case isFalse => exact absurd h (by simp)
  | onAlarm now =>
      injection h with h
      exact .onAlarm now h.symm
  | resumeAlarm k => exact .resumeAlarm k h
  | setAlarmSettled => exact .setAlarmSettled h

/-- One step keeps the contract. -/
theorem scheduleInv_step {s s' : ScheduledActor} {a : ScheduleStep}
    (hs : s.ScheduleInv) (h : scheduleStep s a = some s') :
    s'.ScheduleInv := by
  cases scheduleStep_cases h with
  | initialAlarm _ heq =>
      rw [heq]
      exact hs.initialAlarm
  | scheduleEvent event hfinite heq =>
      rw [heq]
      exact hs.scheduleEvent hfinite
  | onAlarm now heq =>
      rw [heq]
      exact hs.onAlarm now
  | resumeAlarm k hresume => exact hs.resumeAlarm hresume
  | setAlarmSettled hsettled => exact hs.setAlarmSettled hsettled

theorem scheduleInv_reaches {s : ScheduledActor}
    (h : scheduleSystem.Reachable s) : s.ScheduleInv := by
  apply System.Reaches.invariant _ _ h
  · intro s hs
    obtain ⟨events, hsorted, hfinite, heq⟩ := hs
    rw [heq]
    exact scheduleInv_init hsorted hfinite
  · intro s a s' _ hs _ hstep
    exact scheduleInv_step hs hstep

/-- An event for the action `tick`. -/
def tick (eventId : String) (timestamp : Int) : PersistedScheduleEvent where
  eventId := eventId
  timestamp := .ofInt timestamp
  kind := .generic "tick" none

/-- Two events with one timestamp and an earlier one are scheduled, and
the alarm fires when all three are due. -/
def tickSteps : List ScheduleStep :=
  [.initialAlarm, .scheduleEvent (tick "a" 5), .scheduleEvent (tick "b" 5),
    .scheduleEvent (tick "c" 3), .onAlarm 7, .setAlarmSettled,
    .setAlarmSettled, .resumeAlarm 0, .resumeAlarm 0]

/-- What they make of an empty schedule. -/
def tickActor : ScheduledActor :=
  (scheduleSystem.run { scheduledEvents := [], accepted := [] }
    tickSteps).getD { scheduledEvents := [], accepted := [] }

/-- In every run: the list is sorted with ties in the order of
acceptance, every accepted event is in one place, none is taken before
its time, and, events having ids of their own, none is taken or executed
twice. -/
theorem schedule_ok {s : ScheduledActor}
    (h : scheduleSystem.Reachable s) :
    s.ScheduleOk ∧ ((s.accepted.map (·.eventId)).Nodup → s.AtMostOnce) := by
  have hs := scheduleInv_reaches h
  refine ⟨hs.toScheduleOk, ?_⟩
  intro hids
  exact hs.toScheduleOk.atMostOnce hids

/-- The earliest event was executed, and the others wait in order. -/
theorem schedule_ok_ticks :
    tickActor.ScheduleOk ∧ tickActor.AtMostOnce
      ∧ tickActor.executed = [tick "c" 3]
      ∧ tickActor.scheduledEvents = [tick "a" 5, tick "b" 5] := by
  have hreach : scheduleSystem.Reachable tickActor :=
    System.Reachable.run tickSteps
      (.init ⟨[], List.Pairwise.nil, by simp, rfl⟩) rfl
  obtain ⟨hok, honce⟩ := schedule_ok hreach
  exact ⟨hok, honce (by decide), by decide, by decide⟩

-- =============================================================== the alarm

/-- The last timestamp that was enqueued: in the slot, or handed over. -/
def ScheduledActor.lastAlarm (s : ScheduledActor) : Option Number :=
  s.alarmWriteQueue.queuedOp.or s.handed.getLast?

/-- From the initial alarm on, the last alarm is the head of the list. -/
structure ScheduledActor.AlarmInv (s : ScheduledActor) : Prop where
  queue : s.alarmWriteQueue.WellFormed
  head : s.started = true → ∀ e rest, s.scheduledEvents = e :: rest →
    s.lastAlarm = some e.timestamp

/-- A queued alarm is the last one. -/
theorem queueSetAlarm_spec {s : ScheduledActor}
    (hq : s.alarmWriteQueue.WellFormed) (timestamp : Number) :
    (s.queueSetAlarm timestamp).1.alarmWriteQueue.WellFormed
      ∧ (s.queueSetAlarm timestamp).1.lastAlarm = some timestamp := by
  refine ⟨hq.enqueue timestamp, ?_⟩
  unfold lastAlarm ScheduledActor.queueSetAlarm
  cases hrun : s.alarmWriteQueue.runningDrainLoop with
  | none =>
      have hslot : s.alarmWriteQueue.queuedOp = none := by
        have hqueued := hq.queued_running
        rw [hrun] at hqueued
        simpa using hqueued
      rw [SinglePromiseQueue.enqueue_idle hq hrun]
      simp [hslot]
  | some d =>
      rw [SinglePromiseQueue.enqueue_busy hrun]
      simp

/-- The queue takes up what was enqueued last. -/
theorem ScheduledActor.AlarmInv.setAlarmSettled {s s' : ScheduledActor}
    (hs : s.AlarmInv) (h : s.setAlarmSettled = some s') : s'.AlarmInv := by
  unfold ScheduledActor.setAlarmSettled at h
  split at h
  case h_1 => exact absurd h (by simp)
  case h_2 d hrun =>
    injection h with h
    rw [← h]
    refine ⟨hs.queue.settle, ?_⟩
    intro hstarted e rest hevents
    rw [← hs.head hstarted e rest hevents]
    obtain ⟨r, hr, -⟩ := hs.queue.running_resolver d hrun
    unfold lastAlarm
    dsimp only
    rw [SinglePromiseQueue.settle_eq hrun hr]
    cases s.alarmWriteQueue.queuedOp with
    | none => simp
    | some op => simp

theorem ScheduledActor.AlarmInv.initialAlarm {s : ScheduledActor}
    (hs : s.AlarmInv) : s.initialAlarm.AlarmInv := by
  unfold ScheduledActor.initialAlarm
  dsimp only
  split
  case h_1 hempty =>
    refine ⟨hs.queue, ?_⟩
    intro _ e rest hevents
    rw [show s.scheduledEvents = e :: rest from hevents] at hempty
    exact absurd hempty (by simp)
  case h_2 e rest hcons =>
    obtain ⟨hqueue, hlast⟩ := queueSetAlarm_spec hs.queue e.timestamp
    refine ⟨hqueue, ?_⟩
    intro _ e' rest' hevents
    rw [show s.scheduledEvents = e' :: rest' from hevents] at hcons
    injection hcons with hhead _
    rw [hhead]
    exact hlast

/-- An event that does not come first leaves the head. -/
theorem head_insertEvent {events : List PersistedScheduleEvent}
    {newEvent e : PersistedScheduleEvent}
    {rest : List PersistedScheduleEvent}
    (hfirst : (events.findIdx? fun x =>
      newEvent.timestamp.lt x.timestamp) ≠ some 0)
    (hlength : (insertEvent events newEvent).length ≠ 1)
    (h : insertEvent events newEvent = e :: rest) :
    ∃ rest', events = e :: rest' := by
  cases events with
  | nil => exact absurd rfl hlength
  | cons x xs =>
      unfold LiveInstance.insertEvent at h
      cases hfind : (x :: xs).findIdx? fun y =>
          newEvent.timestamp.lt y.timestamp with
      | none =>
          rw [hfind] at h
          injection h with hx _
          rw [hx]
          exact ⟨xs, rfl⟩
      | some i =>
          rw [hfind] at h
          cases i with
          | zero => exact absurd hfind hfirst
          | succ i =>
              injection h with hx _
              rw [hx]
              exact ⟨xs, rfl⟩

/-- An event that comes first is the head. -/
theorem head_of_insertEvent {events : List PersistedScheduleEvent}
    {newEvent e : PersistedScheduleEvent}
    {rest : List PersistedScheduleEvent}
    (hfirst : (events.findIdx? fun x =>
        newEvent.timestamp.lt x.timestamp) = some 0
      ∨ (insertEvent events newEvent).length = 1)
    (h : insertEvent events newEvent = e :: rest) : e = newEvent := by
  rcases hfirst with hfirst | hlength
  · unfold LiveInstance.insertEvent at h
    rw [hfirst] at h
    injection h with hx _
    exact hx.symm
  · have hmem := (perm_insertEvent events newEvent).mem_iff.2
      (List.mem_append.2 (Or.inr (List.mem_singleton.2 rfl)))
    rw [h] at hmem hlength
    have hrest : rest = [] := by simpa using hlength
    rw [hrest] at hmem
    exact (List.mem_singleton.1 hmem).symm

theorem ScheduledActor.AlarmInv.scheduleEvent {s : ScheduledActor}
    (hs : s.AlarmInv) (newEvent : PersistedScheduleEvent) :
    (s.scheduleEvent newEvent).AlarmInv := by
  unfold ScheduledActor.scheduleEvent
  dsimp only
  split
  case isTrue hfirst =>
    obtain ⟨hqueue, hlast⟩ := @queueSetAlarm_spec { s with
      scheduledEvents := insertEvent s.scheduledEvents newEvent
      accepted := s.accepted ++ [newEvent] } hs.queue newEvent.timestamp
    refine ⟨hqueue, ?_⟩
    intro _ e rest hevents
    rw [head_of_insertEvent hfirst hevents]
    exact hlast
  case isFalse hother =>
    refine ⟨hs.queue, ?_⟩
    intro hstarted e rest hevents
    have hsplit := not_or.1 hother
    obtain ⟨rest', hold⟩ := head_insertEvent hsplit.1 hsplit.2 hevents
    exact hs.head hstarted e rest' hold

/-- Whatever is left, `_onAlarm` sets its alarm. -/
theorem ScheduledActor.AlarmInv.onAlarm {s : ScheduledActor}
    (hs : s.AlarmInv) (now : Int) : (s.onAlarm now).AlarmInv := by
  unfold ScheduledActor.onAlarm
  dsimp only
  split
  case h_1 hempty =>
    refine ⟨hs.queue, ?_⟩
    intro _ e rest hevents
    rw [show remainingEvents s.scheduledEvents now = e :: rest
      from hevents] at hempty
    exact absurd hempty (by simp)
  case h_2 e rest hcons =>
    obtain ⟨hqueue, hlast⟩ := @queueSetAlarm_spec { s with
      scheduledEvents := remainingEvents s.scheduledEvents now
      taken := s.taken ++ (dueEvents s.scheduledEvents now).map (·, now) }
      hs.queue e.timestamp
    refine ⟨hqueue, ?_⟩
    intro _ e' rest' hevents
    rw [show remainingEvents s.scheduledEvents now = e' :: rest'
      from hevents] at hcons
    injection hcons with hhead _
    rw [hhead]
    exact hlast

theorem ScheduledActor.AlarmInv.resumeAlarm {s s' : ScheduledActor}
    (hs : s.AlarmInv) {k : Nat} (h : s.resumeAlarm k = some s') :
    s'.AlarmInv := by
  unfold ScheduledActor.resumeAlarm at h
  split at h
  · split at h
    · injection h with h
      rw [← h]
      exact ⟨hs.queue, hs.head⟩
    · exact absurd h (by simp)
  · injection h with h
    rw [← h]
    exact ⟨hs.queue, hs.head⟩
  · exact absurd h (by simp)

/-- One step keeps the alarm at the head. -/
theorem alarmInv_step {s s' : ScheduledActor} {a : ScheduleStep}
    (hs : s.AlarmInv) (h : scheduleStep s a = some s') : s'.AlarmInv := by
  cases scheduleStep_cases h with
  | initialAlarm _ heq =>
      rw [heq]
      exact hs.initialAlarm
  | scheduleEvent event _ heq =>
      rw [heq]
      exact hs.scheduleEvent event
  | onAlarm now heq =>
      rw [heq]
      exact hs.onAlarm now
  | resumeAlarm k hresume => exact hs.resumeAlarm hresume
  | setAlarmSettled hsettled => exact hs.setAlarmSettled hsettled

/-- Once `start` is past its alarm, and whenever the alarm queue has
drained, the last timestamp handed to the driver is the head of the
list. -/
theorem alarm_tracking {s : ScheduledActor}
    (h : alarmSystem.Reachable s) (hstarted : s.started = true)
    (hdrained : s.alarmWriteQueue.runningDrainLoop = none)
    {e : PersistedScheduleEvent} {rest : List PersistedScheduleEvent}
    (hevents : s.scheduledEvents = e :: rest) :
    s.handed.getLast? = some e.timestamp := by
  have hs : s.AlarmInv := by
    apply System.Reaches.invariant _ _ h
    · intro s hs
      obtain ⟨events, heq⟩ := hs
      rw [heq]
      exact ⟨SinglePromiseQueue.wellFormed_empty, by simp⟩
    · intro s a s' _ hs _ hstep
      exact alarmInv_step hs hstep
  have hslot : s.alarmWriteQueue.queuedOp = none := by
    have hqueued := hs.queue.queued_running
    rw [hdrained] at hqueued
    simpa using hqueued
  have hlast := hs.head hstarted e rest hevents
  unfold lastAlarm at hlast
  rw [hslot] at hlast
  simpa using hlast

/-- The driver was last called for the head of what waits. -/
theorem alarm_tracking_ticks :
    tickActor.handed.getLast? = some (.ofInt 5)
      ∧ tickActor.alarmWriteQueue.runningDrainLoop = none := by
  have hreach : alarmSystem.Reachable tickActor :=
    System.Reachable.run tickSteps (.init ⟨[], rfl⟩) rfl
  have hdrained : tickActor.alarmWriteQueue.runningDrainLoop = none := rfl
  exact ⟨alarm_tracking hreach rfl hdrained rfl, hdrained⟩

end RivetKit.Actor
