/-
One call of `_onAlarm` on a sorted list removes the due events and calls
their actions if and only if at most one event is due
(`due_events_iff`).

# The split point

`findIndex` gives the first event that is due. The due events of a sorted
list are in front, so that is the head, and one event is taken however
many are due. The others wait for the alarm that is set for them.

# The actions

What a call has taken is one event or none, so no failure of an action is
in front of another event: `Progress` says that a call has its one event
in front of it or behind it.
-/
import RivetKit.Actor.AlarmRuns
import RivetKit.Actor.Proofs.Schedule

namespace RivetKit.Actor

open Transition
open Js
open LiveInstance (insertEvent remainingEvents)

variable {V : Type} {cfg : AlarmConfig V}

-- ======================================================== the split point

/-- `x.timestamp <= now`. -/
def isDue (now : Int) (x : PersistedScheduleEvent) : Bool :=
  x.timestamp.le (.ofInt now)

theorem le_trans_due {x y : Number} {now : Int} (hxy : x.le y = true)
    (hy : y.le (.ofInt now) = true) : x.le (.ofInt now) = true := by
  cases x with
  | nan => simp [Number.le] at hxy
  | infinity negative =>
      cases negative with
      | true => rfl
      | false =>
          cases y with
          | nan => simp [Number.le] at hy
          | infinity other =>
              cases other
              · exact hy
              · exact absurd hxy (by decide)
          | finite q => exact absurd hxy (by simp [Number.le, Number.lt])
  | finite p =>
      cases y with
      | nan => simp [Number.le] at hy
      | infinity other =>
          cases other
          · exact absurd hy (by simp [Number.le, Number.lt, Number.ofInt])
          · exact absurd hxy (by simp [Number.le, Number.lt])
      | finite q =>
          exact le_trans_finite ⟨p, rfl⟩ ⟨q, rfl⟩ ⟨now, rfl⟩ hxy hy

/-- The due events of a sorted list are in front. -/
theorem due_append_others {events : List PersistedScheduleEvent}
    (hsorted : Sorted events) (now : Int) :
    events.filter (isDue now) ++ events.filter (fun x => !isDue now x)
      = events := by
  induction events with
  | nil => rfl
  | cons e events ih =>
      obtain ⟨hhead, htail⟩ := List.pairwise_cons.1 hsorted
      by_cases hdue : isDue now e = true
      · simp only [List.filter_cons, hdue, if_true, Bool.not_true,
          Bool.false_eq_true, if_false, List.cons_append]
        rw [ih htail]
      · -- behind an event that is not due there is none that is
        have hnone : ∀ x ∈ e :: events, isDue now x = false := by
          intro x hx
          rcases List.mem_cons.1 hx with heq | hx
          · rw [heq]
            exact Bool.eq_false_iff.2 hdue
          · apply Bool.eq_false_iff.2
            intro hx'
            exact hdue (le_trans_due (hhead x hx) hx')
        have hfilter : (e :: events).filter (isDue now) = [] :=
          List.filter_eq_nil_iff.2 fun x hx => by simp [hnone x hx]
        have hothers : (e :: events).filter (fun x => !isDue now x)
            = e :: events :=
          List.filter_eq_self.2 fun x hx => by simp [hnone x hx]
        rw [hfilter, hothers]
        rfl

/-- The head is taken if it is due. -/
theorem dueEvents_of_sorted {events : List PersistedScheduleEvent}
    (hsorted : Sorted events) (now : Int) :
    dueEvents events now = (events.filter (isDue now)).take 1
      ∧ remainingEvents events now
        = (events.filter (isDue now)).drop 1
          ++ events.filter (fun x => !isDue now x) := by
  have hsplit := due_append_others hsorted now
  unfold dueEvents LiveInstance.remainingEvents
  cases hdue : events.filter (isDue now) with
  | nil =>
      rw [hdue] at hsplit
      have hnone : events.findIdx? (isDue now) = none := by
        apply List.findIdx?_eq_none_iff.2
        intro x hx
        have := List.filter_eq_nil_iff.1 hdue x hx
        exact Bool.eq_false_iff.2 this
      change events.findIdx? (fun x => x.timestamp.le (.ofInt now)) = none
        at hnone
      rw [hnone]
      exact ⟨rfl, hsplit.symm⟩
  | cons d rest =>
      rw [hdue] at hsplit
      have hd : isDue now d = true := by
        have hmem : d ∈ events.filter (isDue now) := by
          rw [hdue]
          exact List.mem_cons_self
        exact (List.mem_filter.1 hmem).2
      have hindex : events.findIdx? (isDue now) = some 0 := by
        rw [← hsplit, List.cons_append, List.findIdx?_cons, if_pos hd]
      change events.findIdx? (fun x => x.timestamp.le (.ofInt now)) = some 0
        at hindex
      rw [hindex]
      dsimp only
      generalize events.filter (fun x => !isDue now x) = others at hsplit ⊢
      rw [← hsplit]
      exact ⟨rfl, rfl⟩

-- ============================================================ one call

/-- A call with the events `taken` is in front of them, or has called what
they ask for. -/
def Progress (cfg : AlarmConfig V) (taken : List PersistedScheduleEvent)
    (run : OnAlarmCall V) : Prop :=
  (run.pc = .settingAlarm ∧ run.left = taken ∧ run.ran = [])
    ∨ (run.pc ≠ .settingAlarm ∧ run.left = []
      ∧ run.ran = taken.filterMap (eventCall cfg))

/-- The loop of a call with one event or none. -/
theorem progress_runEvents {taken : List PersistedScheduleEvent}
    (hone : taken.length ≤ 1) {run : OnAlarmCall V} (hran : run.ran = []) :
    Progress cfg taken (runEvents cfg run taken) := by
  match taken with
  | [] => exact .inr ⟨by simp [runEvents], rfl, hran⟩
  | [event] =>
      right
      unfold runEvents eventCall
      by_cases haction : cfg.isAction (eventAction event) = true
      · cases hargs : eventArgs cfg event with
        | ok args => simp [haction, hargs, hran]
        | error error =>
            by_cases hcaught : caught error = true
            · simp [runEvents, haction, hargs, hcaught, hran]
            · simp [haction, hargs, hcaught, hran]
      · simp [runEvents, haction, hran]
  | _ :: _ :: _ =>
      simp only [List.length_cons] at hone
      omega

/-- Behind its event a call calls nothing any more. -/
theorem progress_behind {taken : List PersistedScheduleEvent}
    {run run' : OnAlarmCall V} (h : Progress cfg taken run)
    (hpc : run.pc ≠ .settingAlarm) (hpc' : run'.pc ≠ .settingAlarm)
    (hleft : run'.left = []) (hran : run'.ran = run.ran) :
    Progress cfg taken run' := by
  rcases h with ⟨hpc'', _, _⟩ | ⟨_, _, hcalls⟩
  · exact absurd hpc'' hpc
  · exact .inr ⟨hpc', hleft, hran.trans hcalls⟩

/-- The call `k` in a state. -/
def ProgressAt (cfg : AlarmConfig V) (taken : List PersistedScheduleEvent)
    (k : Nat) (s : AlarmSchedule V) : Prop :=
  ∃ run, s.runs[k]? = some run ∧ Progress cfg taken run

/-- Another value at the place of a call. -/
theorem progressAt_set {taken : List PersistedScheduleEvent} {k j : Nat}
    {s : AlarmSchedule V} {run run' : OnAlarmCall V}
    (h : ProgressAt cfg taken k s) (hj : s.runs[j]? = some run)
    (hset : Progress cfg taken run → Progress cfg taken run') :
    ProgressAt cfg taken k { s with runs := s.runs.set j run' } := by
  obtain ⟨run₀, hk, hprogress⟩ := h
  by_cases hjk : j = k
  · subst hjk
    obtain rfl := Option.some.inj (hk.symm.trans hj)
    have hlt := (List.getElem?_eq_some_iff.mp hj).1
    exact ⟨run', List.getElem?_set_self hlt, hset hprogress⟩
  · refine ⟨run₀, ?_, hprogress⟩
    dsimp only
    rw [List.getElem?_set_ne hjk]
    exact hk

/-- What a step keeps. -/
theorem progressAt_step {taken : List PersistedScheduleEvent}
    (hone : taken.length ≤ 1) {k : Nat} {s s' : AlarmSchedule V}
    {a : OnAlarmStep V} (h : ProgressAt cfg taken k s)
    (hs : (onAlarmSystem cfg).step s a = some s') :
    ProgressAt cfg taken k s' := by
  cases a with
  | scheduleEvent event =>
      obtain rfl := Option.some.inj hs
      exact h
  | onAlarm now =>
      obtain rfl := Option.some.inj hs
      obtain ⟨run, hk, hprogress⟩ := h
      refine ⟨run, ?_, hprogress⟩
      have hlt := (List.getElem?_eq_some_iff.mp hk).1
      unfold AlarmSchedule.onAlarm
      dsimp only
      rw [List.getElem?_append_left hlt]
      exact hk
  | alarmSet j =>
      have hs : s.alarmSet cfg j = some s' := hs
      unfold AlarmSchedule.alarmSet at hs
      split at hs
      · next run hj =>
        split at hs
        · next hpc =>
          obtain rfl := Option.some.inj hs
          refine progressAt_set h hj ?_
          intro hprogress
          rcases hprogress with ⟨_, hleft, hran⟩ | ⟨hne, _, _⟩
          · rw [hleft]
            exact progress_runEvents hone hran
          · exact absurd hpc hne
        · cases hs
      · cases hs
  | actionEnds j error =>
      have hs : s.actionEnds cfg j error = some s' := hs
      unfold AlarmSchedule.actionEnds at hs
      split at hs
      · next run hj =>
        split at hs
        · next hpc =>
          have hne : run.pc ≠ .settingAlarm := by
            rw [hpc]
            simp
          split at hs
          · obtain rfl := Option.some.inj hs
            refine progressAt_set h hj ?_
            intro hprogress
            have hleft : run.left = [] := by
              rcases hprogress with ⟨hpc', _, _⟩ | ⟨_, hleft, _⟩
              · exact absurd hpc' hne
              · exact hleft
            rw [hleft]
            exact progress_behind hprogress hne (by simp [runEvents]) rfl rfl
          · obtain rfl := Option.some.inj hs
            refine progressAt_set h hj ?_
            intro hprogress
            refine progress_behind hprogress hne (by simp) ?_ rfl
            rcases hprogress with ⟨hpc', _, _⟩ | ⟨_, hleft, _⟩
            · exact absurd hpc' hne
            · exact hleft
        · cases hs
      · cases hs

/-- What a run keeps. -/
theorem progressAt_run {taken : List PersistedScheduleEvent}
    (hone : taken.length ≤ 1) {k : Nat} (steps : List (OnAlarmStep V)) :
    ∀ {s s' : AlarmSchedule V}, ProgressAt cfg taken k s →
      (onAlarmSystem cfg).run s steps = some s' →
      ProgressAt cfg taken k s' :=
  System.run_keeps (P := ProgressAt cfg taken k)
    (fun _ _ _ h hstep => progressAt_step hone h hstep) steps

/-- A call at its start. -/
theorem progressAt_onAlarm {s : AlarmSchedule V} {now : Int}
    (hone : (dueEvents s.scheduledEvents now).length ≤ 1) :
    ProgressAt cfg (dueEvents s.scheduledEvents now) s.runs.length
      (s.onAlarm cfg now) := by
  refine ⟨_, List.getElem?_concat_length, ?_⟩
  split
  · exact progress_runEvents hone rfl
  · exact .inl ⟨rfl, rfl, rfl⟩

-- ============================================================== the result

/-- A call of `_onAlarm` at the time `now` removes the events that are due
and no others, and whatever happens from then on, it calls their actions
in their order: what it has called is the beginning of that, and all of it
when the call ends. -/
def RunsDue (cfg : AlarmConfig V) (s : AlarmSchedule V) (now : Int) :
    Prop :=
  (s.onAlarm cfg now).scheduledEvents
      = s.scheduledEvents.filter (fun x => !isDue now x)
    ∧ ∀ steps s', (onAlarmSystem cfg).run (s.onAlarm cfg now) steps = some s' →
      ∃ run, s'.runs[s.runs.length]? = some run
        ∧ run.ran <+: (s.scheduledEvents.filter (isDue now)).filterMap
          (eventCall cfg)
        ∧ (run.pc = .done ∨ run.pc = .rejected →
          run.ran = (s.scheduledEvents.filter (isDue now)).filterMap
            (eventCall cfg))

/-- It does if and only if one event is due or none. -/
theorem due_events_iff {s : AlarmSchedule V}
    (hsorted : Sorted s.scheduledEvents) (now : Int) :
    RunsDue cfg s now
      ↔ (s.scheduledEvents.filter (isDue now)).length ≤ 1 := by
  obtain ⟨htaken, hleft⟩ := dueEvents_of_sorted hsorted now
  constructor
  · intro h
    have hremoved : remainingEvents s.scheduledEvents now
        = s.scheduledEvents.filter (fun x => !isDue now x) := h.1
    rw [hleft] at hremoved
    have hlength := congrArg List.length hremoved
    simp only [List.length_append, List.length_drop] at hlength
    omega
  · intro hone
    have hdrop : (s.scheduledEvents.filter (isDue now)).drop 1 = [] :=
      List.drop_eq_nil_of_le hone
    have hall : dueEvents s.scheduledEvents now
        = s.scheduledEvents.filter (isDue now) := by
      rw [htaken]
      exact List.take_of_length_le hone
    refine ⟨?_, ?_⟩
    · show remainingEvents s.scheduledEvents now = _
      rw [hleft, hdrop, List.nil_append]
    · intro steps s' hrun
      rw [← hall] at hone ⊢
      obtain ⟨run, hk, hprogress⟩ :=
        progressAt_run hone steps (progressAt_onAlarm hone) hrun
      refine ⟨run, hk, ?_, ?_⟩
      · rcases hprogress with ⟨_, _, hran⟩ | ⟨_, _, hran⟩
        · rw [hran]
          exact List.nil_prefix
        · exact hran ▸ List.prefix_rfl
      · intro hend
        rcases hprogress with ⟨hpc, _, _⟩ | ⟨_, _, hran⟩
        · rw [hpc] at hend
          simp at hend
        · exact hran

/-- Any action, called without arguments. -/
def anyAction : AlarmConfig Unit where
  isAction _ := true
  decodeArgs _ := .ok []

/-- One of two events is due. -/
theorem due_events_iff_one :
    RunsDue anyAction { scheduledEvents := [tick "a" 5, tick "b" 9] } 7 :=
  (due_events_iff (by unfold Sorted; decide) 7).2 (by decide)

/-- Both events are due, and the call leaves the second one in the list. -/
theorem due_event_left :
    let s : AlarmSchedule Unit :=
      { scheduledEvents := [tick "a" 3, tick "b" 5] }
    (onAlarmSystem anyAction).Reachable s ∧ Sorted s.scheduledEvents
      ∧ (s.onAlarm anyAction 7).scheduledEvents = [tick "b" 5]
      ∧ ¬ RunsDue anyAction s 7 := by
  refine ⟨.init ⟨_, rfl⟩, by unfold Sorted; decide, by decide, ?_⟩
  intro h
  exact absurd h.1 (by decide)

end RivetKit.Actor
