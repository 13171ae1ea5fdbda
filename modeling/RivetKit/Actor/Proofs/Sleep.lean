/-
The idle timer calls the driver's `sleep` of an actor that is busy exactly
where a run is not attended: `sleeps_idle` and `unattended_busy`.

A reset arms the timer only where the actor is unattended
(`Counted.canSleep_eq`): no connection is connected, no raw request runs
and no raw WebSocket is open without an error event. Each of these begins
with a reset of its own, so none of them is there when the timer is due,
and while a connection stays the timer is away
(`attended_while_connected`). Nothing of the kind holds of actions: the
timer does not know them, and the connection of one may be gone, or there
may be none.

# Sections

  - one reset
  - the invariant
  - one step
  - every run
  - a connection that stays
  - a run that is not attended
-/
import RivetKit.Actor.Sleep
import RivetKit.Lib.Lists

namespace RivetKit.Actor

open Transition

variable {opts : SleepOptions}

/-- `setTimeout` waits. -/
theorem SleepOptions.delay_pos : 0 < opts.delay := by
  unfold SleepOptions.delay
  split
  · next h => omega
  · omega

namespace SleepInstance

variable {s s' : SleepInstance}

-- ============================================================= one reset

/-- What a reset does. -/
theorem resetSleepTimer_cases (opts : SleepOptions) (s : SleepInstance) :
    ((opts.noSleep || !opts.sleepingSupported) = true
        ∧ s.resetSleepTimer opts = s)
      ∨ ((opts.noSleep || !opts.sleepingSupported) = false
        ∧ ∃ sleepTimeout, s.resetSleepTimer opts = { s with sleepTimeout }
          ∧ (s.sleepCalled = false → sleepTimeout
            = if s.canSleep then some (s.now + opts.delay) else none)) := by
  unfold resetSleepTimer
  cases hoff : opts.noSleep || !opts.sleepingSupported with
  | true => exact Or.inl ⟨rfl, if_pos rfl⟩
  | false =>
      right
      rw [if_neg (by simp)]
      by_cases hcalled : s.sleepCalled
      · rw [if_pos hcalled]
        refine ⟨rfl, none, rfl, fun hawake => ?_⟩
        rw [hcalled] at hawake
        cases hawake
      · rw [if_neg hcalled]
        by_cases hcan : s.canSleep
        · rw [if_pos hcan]
          exact ⟨rfl, _, rfl, fun _ => (if_pos hcan).symm⟩
        · rw [if_neg hcan]
          exact ⟨rfl, _, rfl, fun _ => (if_neg hcan).symm⟩

/-- While the actor is unattended there are no raw requests and no sockets
but those that had an error event. -/
theorem quiet_of_unattended (h : s.unattended = true) :
    s.fetches = 0 ∧ ∀ socket ∈ s.rawWebSockets,
      (socket.isOpen && !socket.errored) = false := by
  unfold unattended at h
  rw [Bool.and_eq_true, Bool.and_eq_true, Bool.not_eq_true',
    List.any_eq_false] at h
  obtain ⟨⟨-, hfetches⟩, hsockets⟩ := h
  refine ⟨of_decide_eq_true hfetches, ?_⟩
  intro socket hmem
  exact Bool.eq_false_iff.2 (hsockets socket hmem)

/-- What `#assertReady` lets through has not begun to sleep. -/
theorem assertReady_awake (h : s.assertReady = true) :
    s.sleepCalled = false := by
  unfold assertReady at h
  rw [Bool.and_eq_true, Bool.and_eq_true, Bool.not_eq_true'] at h
  exact h.1.2

-- ========================================================= the invariant

/-- What holds in front of a reset: the count is that of the handlers that
run, the list has the sockets that are open and had no error event, nothing
is in progress when the driver is about to be called, and an actor that
never sleeps has no timer. -/
structure Counted (opts : SleepOptions) (s : SleepInstance) : Prop where
  counted : s.activeRawFetchCount = s.fetches
  listed : ∀ socket ∈ s.rawWebSockets,
    socket.active = (socket.isOpen && !socket.errored)
  sleeping : s.sleeping = true → s.sleepCalled = true ∧ s.Idle
  off : (opts.noSleep || !opts.sleepingSupported) = true →
    s.sleepTimeout = none

/-- What holds behind it: until the sleep begins the timer is pending as
long as the actor is unattended, and due a delay after it came to be so;
then there is no raw request and no listed socket, and once the timer is
due nothing else is in progress either. -/
structure TimerInv (opts : SleepOptions) (s : SleepInstance) : Prop
    extends Counted opts s where
  timeout : (opts.noSleep || !opts.sleepingSupported) = false →
    s.sleepCalled = false →
    s.sleepTimeout = s.unattendedSince.map (· + opts.delay)
  quiet : ∀ since ∈ s.unattendedSince, s.fetches = 0
    ∧ ∀ socket ∈ s.rawWebSockets, (socket.isOpen && !socket.errored) = false
  attended : s.Due opts s.now → s.acting = false ∧ s.errored = false

/-- In front of the driver's call, where nothing of it has changed. -/
theorem Counted.sleeping_of_same (h : Counted opts s)
    (hsleeping : s'.sleeping = s.sleeping)
    (hcalled : s.sleepCalled = true → s'.sleepCalled = true)
    (hacting : s'.acting = s.acting) (hfetches : s'.fetches = s.fetches)
    (hsockets : s'.rawWebSockets = s.rawWebSockets) :
    s'.sleeping = true → s'.sleepCalled = true ∧ s'.Idle := by
  intro hnow
  rw [hsleeping] at hnow
  obtain ⟨hbefore, hidle⟩ := h.sleeping hnow
  refine ⟨hcalled hbefore, hacting.trans hidle.acting,
    hfetches.trans hidle.fetches, ?_⟩
  rw [hsockets]
  exact hidle.sockets

/-- The timer has not fired at an actor that is ready. -/
theorem Counted.not_sleeping (h : Counted opts s)
    (hready : s.assertReady = true) : s.sleeping = false := by
  by_contra hsleeping
  have hcalled := (h.sleeping (eq_true_of_ne_false hsleeping)).1
  rw [assertReady_awake hready] at hcalled
  cases hcalled

/-- The actor can sleep exactly while it is unattended: a connected
connection, a raw request or a socket without an error event keeps it
awake. -/
theorem Counted.canSleep_eq (h : Counted opts s) :
    s.canSleep = s.unattended := by
  have hsockets : s.rawWebSockets.any (·.active)
      = s.rawWebSockets.any fun socket =>
        socket.isOpen && !socket.errored := by
    rw [Bool.eq_iff_iff, List.any_eq_true, List.any_eq_true]
    constructor
    · rintro ⟨socket, hmem, hactive⟩
      exact ⟨socket, hmem, h.listed socket hmem ▸ hactive⟩
    · rintro ⟨socket, hmem, hopen⟩
      exact ⟨socket, hmem, (h.listed socket hmem).trans hopen⟩
  unfold canSleep unattended
  rw [h.counted, hsockets]

/-- A sleep-related event and its reset. -/
theorem Counted.sleepEvent (h : Counted opts s) :
    TimerInv opts (s.sleepEvent.resetSleepTimer opts) := by
  have hquiet : ∀ since ∈ s.sleepEvent.unattendedSince, s.fetches = 0
      ∧ ∀ socket ∈ s.rawWebSockets,
        (socket.isOpen && !socket.errored) = false := by
    intro since hmem
    apply quiet_of_unattended
    by_contra hattended
    replace hmem : (if s.unattended then some s.now else none)
      = some since := hmem
    rw [if_neg hattended] at hmem
    cases hmem
  -- a timer that was just armed is not due
  have hfresh : ¬ ∃ since ∈ s.sleepEvent.unattendedSince,
      since + opts.delay ≤ s.now := by
    rintro ⟨since, hmem, hdue⟩
    have hnow : s.now = since := by
      replace hmem : (if s.unattended then some s.now else none)
        = some since := hmem
      split at hmem
      · exact Option.some.inj hmem
      · cases hmem
    have hpos : 0 < opts.delay := SleepOptions.delay_pos
    omega
  rcases resetSleepTimer_cases opts s.sleepEvent
    with ⟨hoff, heq⟩ | ⟨hon, sleepTimeout, heq, htimeout⟩
  · rw [heq]
    refine ⟨⟨h.counted, h.listed, ?_, h.off⟩, ?_, hquiet, ?_⟩
    · exact h.sleeping_of_same rfl id rfl rfl rfl
    · intro hon
      rw [hoff] at hon
      cases hon
    · exact fun hdue => absurd hdue.2.2 hfresh
  · rw [heq]
    refine ⟨⟨h.counted, h.listed, ?_, ?_⟩, ?_, hquiet, ?_⟩
    · exact h.sleeping_of_same rfl id rfl rfl rfl
    · intro hoff
      rw [hon] at hoff
      cases hoff
    · intro _ hawake
      have hcan : s.sleepEvent.canSleep = s.unattended := h.canSleep_eq
      have hsince : s.sleepEvent.unattendedSince
        = if s.unattended then some s.now else none := rfl
      show sleepTimeout = s.sleepEvent.unattendedSince.map (· + opts.delay)
      rw [htimeout hawake, hcan, hsince]
      split
      · rfl
      · rfl
    · exact fun hdue => absurd hdue.2.2 hfresh

/-- The timer does not read the connections while it is pending. -/
theorem TimerInv.withConnections (h : TimerInv opts s)
    (connections : List SleepConn) :
    TimerInv opts { s with connections } := by
  refine ⟨⟨h.counted, h.listed, ?_, h.off⟩, h.timeout, h.quiet, h.attended⟩
  exact h.sleeping_of_same rfl id rfl rfl rfl

/-- Actions that begin and end: none may begin once the timer is due, or in
front of the driver's call. -/
theorem TimerInv.withActions (h : TimerInv opts s) (actions : List Nat)
    (alarms : List AlarmRun)
    (hacting : s.sleeping = true ∨ s.Due opts s.now → s.acting = false →
      acting { s with actions, alarms } = false) :
    TimerInv opts { s with actions, alarms } := by
  refine ⟨⟨h.counted, h.listed, ?_, h.off⟩, h.timeout, h.quiet, ?_⟩
  · intro hsleeping
    obtain ⟨hcalled, hidle⟩ := h.sleeping hsleeping
    exact ⟨hcalled, hacting (Or.inl hsleeping) hidle.acting, hidle.fetches,
      hidle.sockets⟩
  · intro hdue
    obtain ⟨hnone, herrored⟩ := h.attended hdue
    exact ⟨hacting (Or.inr hdue) hnone, herrored⟩

/-- A socket that is not listed stays so. -/
theorem Counted.listed_set (h : Counted opts s) {w : Nat}
    {socket : RawWebSocket}
    (hlisted : socket.active = (socket.isOpen && !socket.errored)) :
    ∀ x ∈ s.rawWebSockets.set w socket,
      x.active = (x.isOpen && !x.errored) := by
  intro x hx
  rcases List.mem_or_eq_of_mem_set hx with hold | rfl
  · exact h.listed x hold
  · exact hlisted

/-- A socket that is not listed closes, or has one more error event. -/
theorem TimerInv.withSocket (h : TimerInv opts s) {w : Nat}
    {socket socket' : RawWebSocket}
    (hsocket : s.rawWebSockets[w]? = some socket)
    (hinactive : socket.active = false) (hinactive' : socket'.active = false)
    (hunlisted : (socket'.isOpen && !socket'.errored) = false)
    (hle : socket'.isOpen = true → socket.isOpen = true) :
    TimerInv opts
      { s with rawWebSockets := s.rawWebSockets.set w socket' } := by
  have hmem : socket ∈ s.rawWebSockets := List.mem_of_getElem? hsocket
  refine ⟨⟨h.counted, h.listed_set (hinactive'.trans hunlisted.symm), ?_,
    h.off⟩, h.timeout, ?_, ?_⟩
  · intro hsleeping
    obtain ⟨hcalled, hidle⟩ := h.sleeping hsleeping
    refine ⟨hcalled, hidle.acting, hidle.fetches, ?_⟩
    intro x hx
    rcases List.mem_or_eq_of_mem_set hx with hold | rfl
    · exact hidle.sockets x hold
    · by_contra hopen
      have := hle (eq_true_of_ne_false hopen)
      rw [hidle.sockets socket hmem] at this
      cases this
  · intro since hsince
    obtain ⟨hfetches, hsockets⟩ := h.quiet since hsince
    refine ⟨hfetches, ?_⟩
    intro x hx
    rcases List.mem_or_eq_of_mem_set hx with hold | rfl
    · exact hsockets x hold
    · exact hunlisted
  · intro hdue
    obtain ⟨hacting, herrored⟩ := h.attended hdue
    refine ⟨hacting, ?_⟩
    unfold errored at herrored ⊢
    rw [List.any_eq_false] at herrored ⊢
    intro x hx
    rcases List.mem_or_eq_of_mem_set hx with hold | rfl
    · exact herrored x hold
    · intro hopen
      -- it had an error event, since it is open and not listed
      have hlisted := h.listed socket hmem
      have hwas := hle (Bool.and_eq_true_iff.1 hopen).1
      rw [hinactive, hwas, Bool.true_and, Eq.comm, Bool.not_eq_false']
        at hlisted
      apply herrored socket hmem
      rw [hwas, hlisted]
      rfl

-- ============================================================== one step

/-- A run that begins or goes on in place of another. -/
theorem acting_set {run : AlarmRun} (a : Nat)
    (hrunning : run.running = false) (h : s.acting = false) :
    acting { s with alarms := s.alarms.set a run } = false := by
  unfold acting at h ⊢
  rw [Bool.or_eq_false_iff] at h ⊢
  refine ⟨h.1, ?_⟩
  rw [List.any_eq_false] at ⊢
  intro x hx
  rcases List.mem_or_eq_of_mem_set hx with hold | rfl
  · exact List.any_eq_false.1 h.2 x hold
  · rw [hrunning]
    exact Bool.false_ne_true

/-- A call of `_onAlarm` whose first action has not begun. -/
theorem acting_concat (events : Nat) (h : s.acting = false) :
    acting { s with alarms := s.alarms ++ [⟨events, false⟩] } = false := by
  unfold acting at h ⊢
  rw [Bool.or_eq_false_iff] at h ⊢
  refine ⟨h.1, ?_⟩
  rw [List.any_append, h.2]
  rfl

/-- An action of a client that ends. -/
theorem acting_eraseIdx (i : Nat) (h : s.acting = false) :
    acting { s with actions := s.actions.eraseIdx i } = false := by
  unfold acting at h ⊢
  rw [Bool.or_eq_false_iff, Bool.not_eq_false', List.isEmpty_iff] at h ⊢
  refine ⟨?_, h.2⟩
  show s.actions.eraseIdx i = []
  rw [h.1]
  rfl

/-- The timer fires. -/
theorem TimerInv.sleepTimerFires (h : TimerInv opts s) {due : Nat}
    (htimeout : s.sleepTimeout = some due) (hnow : due ≤ s.now) :
    TimerInv opts s.sleepTimerFires := by
  have hon : (opts.noSleep || !opts.sleepingSupported) = false := by
    by_contra hoff
    have hnone := h.off (eq_true_of_ne_false hoff)
    rw [htimeout] at hnone
    cases hnone
  unfold SleepInstance.sleepTimerFires
  dsimp only
  cases hcalled : s.sleepCalled with
  | true =>
      rw [if_pos rfl]
      refine ⟨⟨h.counted, h.listed, ?_, fun _ => rfl⟩, ?_, h.quiet, ?_⟩
      · exact h.sleeping_of_same rfl (fun _ => rfl) rfl rfl rfl
      · intro _ hawake
        cases hawake
      · rintro ⟨-, hawake, -⟩
        cases hawake
  | false =>
      rw [if_neg Bool.false_ne_true]
      have hmap := h.timeout hon hcalled
      rw [htimeout] at hmap
      obtain ⟨since, hsince, hdue⟩ := Option.map_eq_some_iff.1 hmap.symm
      have hover : s.Due opts s.now := by
        refine ⟨hon, hcalled, since, hsince, ?_⟩
        omega
      obtain ⟨hacting, herrored⟩ := h.attended hover
      obtain ⟨hfetches, hsockets⟩ := h.quiet since hsince
      refine ⟨⟨h.counted, h.listed, ?_, fun _ => rfl⟩, ?_, h.quiet, ?_⟩
      · refine fun _ => ⟨rfl, hacting, hfetches, ?_⟩
        intro socket hmem
        -- a socket that is open is listed or has had an error event
        by_contra hopen
        apply List.any_eq_false.1 herrored socket hmem
        have hunlisted := hsockets socket hmem
        rw [eq_true_of_ne_false hopen, Bool.true_and, Bool.not_eq_false']
          at hunlisted
        rw [eq_true_of_ne_false hopen, hunlisted]
        rfl
      · intro _ hawake
        cases hawake
      · rintro ⟨-, hawake, -⟩
        cases hawake

/-- One step of an attended run. -/
theorem TimerInv.step {a : SleepStep} (h : TimerInv opts s)
    (hattended : s.Attended opts a)
    (hstep : s.step opts a = some s') : TimerInv opts s' := by
  have hawake : s.assertReady = true → s.sleeping = false :=
    h.toCounted.not_sleeping
  cases a with
  | start =>
      simp only [SleepInstance.step] at hstep
      split at hstep
      · cases hstep
      · rw [← Option.some.inj hstep]
        apply Counted.sleepEvent
        refine ⟨h.counted, h.listed, ?_, h.off⟩
        exact h.sleeping_of_same rfl id rfl rfl rfl
  | createConn =>
      simp only [SleepInstance.step] at hstep
      split at hstep
      · rw [← Option.some.inj hstep]
        exact (h.withConnections _).sleepEvent
      · cases hstep
  | removeConn c =>
      rw [← Option.some.inj hstep]
      exact (h.withConnections _).sleepEvent
  | disconnect c =>
      rw [← Option.some.inj hstep]
      exact h.withConnections _
  | checkLiveness c closed =>
      rw [← Option.some.inj hstep]
      exact h.withConnections _
  | onAlarm events =>
      rw [← Option.some.inj hstep]
      apply TimerInv.withActions h.sleepEvent
      exact fun _ hnone => acting_concat events hnone
  | eventStart a =>
      simp only [SleepInstance.step] at hstep
      split at hstep
      · cases hstep
      · split at hstep
        · rw [← Option.some.inj hstep]
          apply h.withActions
          rintro (hsleeping | hdue)
          · rw [hattended.1] at hsleeping
            cases hsleeping
          · exact absurd hdue hattended.2
        · cases hstep
  | eventEnd a =>
      simp only [SleepInstance.step] at hstep
      split at hstep
      · cases hstep
      · rw [← Option.some.inj hstep]
        apply h.withActions
        exact fun _ hnone => acting_set a rfl hnone
  | actionStart c =>
      simp only [SleepInstance.step] at hstep
      split at hstep
      · rw [← Option.some.inj hstep]
        apply h.withActions
        rintro (hsleeping | hdue)
        · rw [hattended.1] at hsleeping
          cases hsleeping
        · exact absurd hdue hattended.2
      · cases hstep
  | actionEnd i =>
      rw [← Option.some.inj hstep]
      apply h.withActions
      exact fun _ hnone => acting_eraseIdx i hnone
  | fetchStart =>
      simp only [SleepInstance.step] at hstep
      split at hstep
      · next hready =>
        rw [← Option.some.inj hstep]
        apply Counted.sleepEvent
        refine ⟨congrArg (· + 1) h.counted, h.listed, ?_, h.off⟩
        intro hsleeping
        rw [hawake hready] at hsleeping
        cases hsleeping
      · cases hstep
  | fetchEnd =>
      simp only [SleepInstance.step] at hstep
      split at hstep
      · cases hstep
      · next hrun =>
        rw [← Option.some.inj hstep]
        apply Counted.sleepEvent
        refine ⟨congrArg (· - 1) h.counted, h.listed, ?_, h.off⟩
        intro hsleeping
        exact absurd (h.sleeping hsleeping).2.fetches hrun
  | socketStart =>
      simp only [SleepInstance.step] at hstep
      split at hstep
      · next hready =>
        rw [← Option.some.inj hstep]
        apply Counted.sleepEvent
        refine ⟨h.counted, ?_, ?_, h.off⟩
        · intro socket hmem
          rcases List.mem_append.1 hmem with hold | hnew
          · exact h.listed socket hold
          · rw [List.mem_singleton.1 hnew]
            rfl
        · intro hsleeping
          rw [hawake hready] at hsleeping
          cases hsleeping
      · cases hstep
  | socketClose w =>
      simp only [SleepInstance.step] at hstep
      split at hstep
      case h_1 => cases hstep
      case h_2 socket hsocket =>
      split at hstep
      case isFalse => cases hstep
      case isTrue hopen =>
      split at hstep
      · rw [← Option.some.inj hstep]
        apply Counted.sleepEvent
        refine ⟨h.counted, h.listed_set rfl, ?_, h.off⟩
        intro hsleeping
        obtain ⟨hcalled, hidle⟩ := h.sleeping hsleeping
        have hclosed := hidle.sockets socket (List.mem_of_getElem? hsocket)
        rw [hopen] at hclosed
        cases hclosed
      · next hinactive =>
        rw [← Option.some.inj hstep]
        exact h.withSocket hsocket (Bool.eq_false_iff.2 hinactive) rfl rfl
          (fun himp => absurd himp Bool.false_ne_true)
  | socketError w =>
      simp only [SleepInstance.step] at hstep
      split at hstep
      case h_1 => cases hstep
      case h_2 socket hsocket =>
      split at hstep
      case isFalse => cases hstep
      case isTrue hopen =>
      split at hstep
      · rw [← Option.some.inj hstep]
        apply Counted.sleepEvent
        refine ⟨h.counted, h.listed_set (Bool.and_false _).symm, ?_, h.off⟩
        intro hsleeping
        obtain ⟨hcalled, hidle⟩ := h.sleeping hsleeping
        have hclosed := hidle.sockets socket (List.mem_of_getElem? hsocket)
        rw [hopen] at hclosed
        cases hclosed
      · next hinactive =>
        rw [← Option.some.inj hstep]
        exact h.withSocket hsocket (Bool.eq_false_iff.2 hinactive) rfl
          (Bool.and_false _) (fun _ => hopen)
  | sleepTimer =>
      simp only [SleepInstance.step] at hstep
      split at hstep
      · cases hstep
      · next due htimeout =>
        split at hstep
        · next hnow =>
          rw [← Option.some.inj hstep]
          exact h.sleepTimerFires htimeout hnow
        · cases hstep
  | driverSleep =>
      simp only [SleepInstance.step] at hstep
      split at hstep
      · rw [← Option.some.inj hstep]
        refine ⟨⟨h.counted, h.listed, ?_, h.off⟩, h.timeout, h.quiet,
          h.attended⟩
        exact fun hsleeping => absurd hsleeping Bool.false_ne_true
      · cases hstep
  | sleep =>
      simp only [SleepInstance.step] at hstep
      split at hstep
      · rw [← Option.some.inj hstep]
        refine ⟨⟨h.counted, h.listed, ?_, h.off⟩, ?_, h.quiet, ?_⟩
        · exact h.sleeping_of_same rfl (fun _ => rfl) rfl rfl rfl
        · intro _ hawake
          cases hawake
        · rintro ⟨-, hawake, -⟩
          cases hawake
      · cases hstep
  | stop =>
      rw [← Option.some.inj hstep]
      refine ⟨⟨h.counted, h.listed, ?_, h.off⟩, h.timeout, h.quiet,
        h.attended⟩
      exact h.sleeping_of_same rfl id rfl rfl rfl
  | clearTimeouts =>
      simp only [SleepInstance.step] at hstep
      split at hstep
      · rw [← Option.some.inj hstep]
        refine ⟨⟨h.counted, h.listed, ?_, fun _ => rfl⟩, fun _ _ => rfl, ?_,
          ?_⟩
        · exact h.sleeping_of_same rfl id rfl rfl rfl
        · intro since hmem
          cases hmem
        · rintro ⟨-, -, since, hmem, -⟩
          cases hmem
      · cases hstep
  | advance d =>
      rw [← Option.some.inj hstep]
      refine ⟨⟨h.counted, h.listed, ?_, h.off⟩, h.timeout, h.quiet,
        hattended⟩
      exact h.sleeping_of_same rfl id rfl rfl rfl

-- ============================================================= every run

/-- The invariant of an attended run. -/
theorem timerInv_reaches
    (h : (sleepSystem opts).Reaches (fun s a => s.Attended opts a) s) :
    TimerInv opts s := by
  apply System.Reaches.invariant _ _ h
  · rintro s₀ ⟨connections, now, rfl⟩
    refine ⟨⟨rfl, ?_, ?_, fun _ => rfl⟩, fun _ _ => rfl, ?_, ?_⟩
    · exact fun _ hmem => absurd hmem List.not_mem_nil
    · exact fun hsleeping => absurd hsleeping Bool.false_ne_true
    · intro since hmem
      cases hmem
    · rintro ⟨-, -, since, hmem, -⟩
      cases hmem
  · intro s₁ a s₂ _ hinv hok hstep
    exact hinv.step hok hstep

-- ============================================== a connection that stays

/-- A step that neither removes nor disconnects the connection `c`, nor
finds it closed. -/
def Leaves (c : Nat) : SleepStep → Prop
  | .removeConn d => d ≠ c
  | .disconnect d => d ≠ c
  | .checkLiveness d closed => d ≠ c ∨ closed = false
  | _ => True

/-- The connection `c` is connected, and no timer has been pending since it
was made. -/
structure KeptAwake (c : Nat) (s : SleepInstance) : Prop where
  connected : s.connections[c]? = some ⟨true, .connected⟩
  attended : s.unattendedSince = none
  sleepTimeout : s.sleepTimeout = none
  sleeping : s.sleeping = false

/-- A connected connection keeps the timer away at a sleep-related
event. -/
theorem KeptAwake.sleepEvent {c : Nat}
    (hconn : s.connections[c]? = some ⟨true, .connected⟩)
    (htimeout : (opts.noSleep || !opts.sleepingSupported) = true →
      s.sleepTimeout = none) (hsleeping : s.sleeping = false) :
    KeptAwake c (s.sleepEvent.resetSleepTimer opts) := by
  have hany : s.connections.any (fun conn =>
      conn.present && decide (conn.status = .connected)) = true :=
    List.any_eq_true.2 ⟨_, List.mem_of_getElem? hconn, rfl⟩
  have hcan : s.sleepEvent.canSleep = false := by
    unfold canSleep SleepInstance.sleepEvent
    dsimp only
    rw [hany]
    simp
  have hsince : s.sleepEvent.unattendedSince = none := by
    have hattended : s.unattended = false := by
      unfold unattended
      rw [hany]
      simp
    show (if s.unattended then some s.now else none) = none
    rw [hattended]
    rfl
  unfold SleepInstance.resetSleepTimer
  split
  · next hoff => exact ⟨hconn, hsince, htimeout hoff, hsleeping⟩
  · split
    · exact ⟨hconn, hsince, rfl, hsleeping⟩
    · rw [hcan, if_neg Bool.false_ne_true]
      exact ⟨hconn, hsince, rfl, hsleeping⟩

/-- So every step that leaves it is attended. -/
theorem KeptAwake.attended_step {c : Nat} (h : KeptAwake c s)
    (a : SleepStep) : s.Attended opts a := by
  have hdue : ∀ time, ¬ s.Due opts time := by
    rintro time ⟨-, -, since, hmem, -⟩
    rw [h.attended] at hmem
    cases hmem
  cases a with
  | advance d => exact fun hover => absurd hover (hdue _)
  | actionStart c => exact ⟨h.sleeping, hdue _⟩
  | eventStart a => exact ⟨h.sleeping, hdue _⟩
  | start | createConn | removeConn _ | disconnect _ | checkLiveness _ _
  | onAlarm _ | eventEnd _ | actionEnd _ | fetchStart | fetchEnd
  | socketStart | socketClose _ | socketError _ | sleepTimer | driverSleep
  | sleep | stop | clearTimeouts => exact trivial

theorem KeptAwake.step {c : Nat} {a : SleepStep} (h : KeptAwake c s)
    (hleaves : Leaves c a) (hstep : s.step opts a = some s') :
    KeptAwake c s' := by
  obtain ⟨hconn, hattended, htimeout, hsleeping⟩ := h
  -- another connection is modified, or this one is found open
  have hmodify : ∀ (d : Nat) (f : SleepConn → SleepConn),
      (d = c → f ⟨true, .connected⟩ = ⟨true, .connected⟩) →
      (s.connections.modify d f)[c]? = some ⟨true, .connected⟩ := by
    intro d f hf
    rw [List.getElem?_modify, hconn]
    split
    · next heq => exact congrArg some (hf heq)
    · rfl
  cases a with
  | start =>
      simp only [SleepInstance.step] at hstep
      split at hstep
      · cases hstep
      · rw [← Option.some.inj hstep]
        exact KeptAwake.sleepEvent hconn (fun _ => htimeout) hsleeping
  | createConn =>
      simp only [SleepInstance.step] at hstep
      split at hstep
      · rw [← Option.some.inj hstep]
        refine KeptAwake.sleepEvent ?_ (fun _ => htimeout) hsleeping
        exact (List.getElem?_append_left
          (List.getElem?_eq_some_iff.1 hconn).1).trans hconn
      · cases hstep
  | removeConn d =>
      rw [← Option.some.inj hstep]
      refine KeptAwake.sleepEvent ?_ (fun _ => htimeout) hsleeping
      exact hmodify d _ fun heq => absurd heq hleaves
  | disconnect d =>
      rw [← Option.some.inj hstep]
      refine ⟨?_, hattended, htimeout, hsleeping⟩
      exact hmodify d _ fun heq => absurd heq hleaves
  | checkLiveness d closed =>
      rw [← Option.some.inj hstep]
      refine ⟨?_, hattended, htimeout, hsleeping⟩
      apply hmodify
      intro heq
      rw [hleaves.resolve_left fun hne => hne heq]
      rfl
  | onAlarm events =>
      rw [← Option.some.inj hstep]
      obtain ⟨hconn', hattended', htimeout', hsleeping'⟩ :=
        @KeptAwake.sleepEvent opts s c hconn (fun _ => htimeout) hsleeping
      exact ⟨hconn', hattended', htimeout', hsleeping'⟩
  | fetchStart =>
      simp only [SleepInstance.step] at hstep
      split at hstep
      · rw [← Option.some.inj hstep]
        exact KeptAwake.sleepEvent hconn (fun _ => htimeout) hsleeping
      · cases hstep
  | fetchEnd =>
      simp only [SleepInstance.step] at hstep
      split at hstep
      · cases hstep
      · rw [← Option.some.inj hstep]
        exact KeptAwake.sleepEvent hconn (fun _ => htimeout) hsleeping
  | socketStart =>
      simp only [SleepInstance.step] at hstep
      split at hstep
      · rw [← Option.some.inj hstep]
        exact KeptAwake.sleepEvent hconn (fun _ => htimeout) hsleeping
      · cases hstep
  | socketClose w | socketError w =>
      simp only [SleepInstance.step] at hstep
      split at hstep
      · cases hstep
      · split at hstep
        · split at hstep
          · rw [← Option.some.inj hstep]
            exact KeptAwake.sleepEvent hconn (fun _ => htimeout) hsleeping
          · rw [← Option.some.inj hstep]
            exact ⟨hconn, hattended, htimeout, hsleeping⟩
        · cases hstep
  | sleepTimer =>
      simp only [SleepInstance.step] at hstep
      rw [htimeout] at hstep
      cases hstep
  | driverSleep =>
      simp only [SleepInstance.step] at hstep
      rw [hsleeping, if_neg Bool.false_ne_true] at hstep
      cases hstep
  | eventStart a =>
      simp only [SleepInstance.step] at hstep
      split at hstep
      · cases hstep
      · split at hstep
        · rw [← Option.some.inj hstep]
          exact ⟨hconn, hattended, htimeout, hsleeping⟩
        · cases hstep
  | eventEnd a =>
      simp only [SleepInstance.step] at hstep
      split at hstep
      · cases hstep
      · rw [← Option.some.inj hstep]
        exact ⟨hconn, hattended, htimeout, hsleeping⟩
  | actionStart d =>
      simp only [SleepInstance.step] at hstep
      split at hstep
      · rw [← Option.some.inj hstep]
        exact ⟨hconn, hattended, htimeout, hsleeping⟩
      · cases hstep
  | sleep =>
      simp only [SleepInstance.step] at hstep
      split at hstep
      · rw [← Option.some.inj hstep]
        exact ⟨hconn, hattended, htimeout, hsleeping⟩
      · cases hstep
  | clearTimeouts =>
      simp only [SleepInstance.step] at hstep
      split at hstep
      · rw [← Option.some.inj hstep]
        exact ⟨hconn, rfl, rfl, hsleeping⟩
      · cases hstep
  | actionEnd _ | stop | advance _ =>
      rw [← Option.some.inj hstep]
      exact ⟨hconn, hattended, htimeout, hsleeping⟩

/-- The connection that is made. -/
theorem keptAwake_createConn (h : TimerInv opts s)
    (hstep : s.step opts .createConn = some s') :
    KeptAwake s.connections.length s' := by
  simp only [SleepInstance.step] at hstep
  split at hstep
  · next hready =>
    rw [← Option.some.inj hstep]
    apply KeptAwake.sleepEvent
    · exact List.getElem?_concat_length
    · exact h.off
    · exact h.toCounted.not_sleeping hready
  · cases hstep

/-- While a connection stays, every step is attended, whatever actions
there are, and the timer stays away. -/
theorem keptAwake_run {c : Nat} {as : List SleepStep} :
    ∀ {s t : SleepInstance},
      (sleepSystem opts).Reaches (fun s a => s.Attended opts a) s →
      KeptAwake c s → (∀ a ∈ as, Leaves c a) →
      (sleepSystem opts).run s as = some t →
      (sleepSystem opts).Reaches (fun s a => s.Attended opts a) t
        ∧ KeptAwake c t := by
  induction as with
  | nil =>
      intro s t hs h _ hrun
      cases hrun
      exact ⟨hs, h⟩
  | cons a as ih =>
      intro s t hs h hleaves hrun
      obtain ⟨s₁, hstep, hrun⟩ := System.run_cons hrun
      obtain ⟨hleave, hrest⟩ := List.forall_mem_cons.1 hleaves
      exact ih (.step a hs (h.attended_step a) hstep) (h.step hleave hstep)
        hrest hrun

end SleepInstance

open SleepInstance

/-- From a connect on, as long as the connection stays, no action needs
attention and the timer stays away. -/
theorem attended_while_connected {s s' t : SleepInstance}
    {as : List SleepStep}
    (hs : (sleepSystem opts).Reaches (fun s a => s.Attended opts a) s)
    (hconn : (sleepSystem opts).step s .createConn = some s')
    (hleaves : ∀ a ∈ as, Leaves s.connections.length a)
    (hrun : (sleepSystem opts).run s' as = some t) :
    (sleepSystem opts).Reaches (fun s a => s.Attended opts a) t
      ∧ t.sleepTimeout = none := by
  have hkept := keptAwake_createConn (timerInv_reaches hs) hconn
  obtain ⟨hreaches, hkept⟩ :=
    keptAwake_run (.step .createConn hs trivial hconn) hkept hleaves hrun
  exact ⟨hreaches, hkept.sleepTimeout⟩

/-- In a run whose steps are all attended the idle timer has the driver
called only while nothing is in progress: no action of a client or of an
alarm, no handler of a raw request and no open raw WebSocket. -/
theorem sleeps_idle {s s' : SleepInstance}
    (hs : (sleepSystem opts).Reaches (fun s a => s.Attended opts a) s)
    (hsleep : (sleepSystem opts).step s .driverSleep = some s') :
    s.Idle := by
  simp only [sleepSystem, SleepInstance.step] at hsleep
  split at hsleep
  · next hsleeping => exact ((timerInv_reaches hs).sleeping hsleeping).2
  · cases hsleep

/-- The options of an actor that sleeps after a second. -/
def sleepsAfterSecond : SleepOptions := ⟨false, true, 1000⟩

/-- An action of the http driver that takes longer than the sleep timeout,
an event of an alarm, a raw request and a raw WebSocket, one inside the
other, and then nothing for a second. -/
def busyThenIdle : List SleepStep :=
  [.start, .createConn, .actionStart 0, .advance 3000, .onAlarm 1,
    .eventStart 0, .actionEnd 0, .fetchStart, .removeConn 0,
    .advance 2000, .eventEnd 0, .socketStart, .fetchEnd, .advance 2000,
    .socketClose 0, .advance 1000, .sleepTimer]

/-- Then the driver is called, with nothing in progress. -/
theorem sleeps_idle_after_busy :
    ∃ s s', (sleepSystem sleepsAfterSecond).run
        { connections := [], now := 0 } busyThenIdle = some s
      ∧ (sleepSystem sleepsAfterSecond).step s .driverSleep = some s'
      ∧ s.Idle := by
  refine ⟨_, _, rfl, rfl, @sleeps_idle sleepsAfterSecond _ _
    (System.Reaches.run busyThenIdle (.init ⟨[], 0, rfl⟩) ?_ rfl) rfl⟩
  decide

/-- The event of an alarm of an actor without connections, whose action is
not over when the sleep timeout has passed. -/
def slowEvent : List SleepStep :=
  [.start, .advance 500, .onAlarm 1, .eventStart 0, .advance 1000,
    .sleepTimer]

/-- The driver is called in the middle of it. -/
theorem sleeps_during_event :
    ¬ ∀ (opts : SleepOptions) (s s' : SleepInstance),
        opts.noSleep = false → opts.sleepingSupported = true →
        (sleepSystem opts).Reachable s →
        (sleepSystem opts).step s .driverSleep = some s' → s.Idle := by
  intro hall
  have hidle := hall sleepsAfterSecond _ _ rfl rfl
    (System.Reachable.run slowEvent
      (.init (s := { connections := [], now := 0 }) ⟨[], 0, rfl⟩) rfl) rfl
  exact absurd hidle.acting (by decide)

-- ========================================= a run that is not attended

namespace SleepInstance

/-- What the timer does not know of is something in progress. -/
theorem not_idle {s : SleepInstance}
    (h : ¬ (s.acting = false ∧ s.errored = false)) : ¬ s.Idle := by
  intro hidle
  apply h
  refine ⟨hidle.acting, ?_⟩
  unfold errored
  rw [List.any_eq_false]
  intro socket hmem
  rw [hidle.sockets socket hmem, Bool.false_and]
  exact Bool.false_ne_true

/-- A timer that is due fires, and the driver is to be called. -/
theorem Due.fires {s : SleepInstance} (hdue : s.Due opts s.now)
    (htimeout : s.sleepTimeout = s.unattendedSince.map (· + opts.delay))
    (hbusy : ¬ s.Idle) :
    ∃ s', (sleepSystem opts).step s .sleepTimer = some s'
      ∧ s'.sleeping = true ∧ ¬ s'.Idle := by
  obtain ⟨-, hawake, since, hsince, hover⟩ := hdue
  have hsome : s.unattendedSince = some since := hsince
  rw [hsome] at htimeout
  refine ⟨s.sleepTimerFires, ?_, ?_, ?_⟩
  · simp only [sleepSystem, SleepInstance.step]
    rw [htimeout]
    exact if_pos hover
  · unfold sleepTimerFires
    dsimp only
    rw [hawake]
    rfl
  · intro hidle
    apply hbusy
    unfold sleepTimerFires at hidle
    dsimp only at hidle
    rw [hawake] at hidle
    exact ⟨hidle.acting, hidle.fetches, hidle.sockets⟩

end SleepInstance

/-- From a step that is not attended on, nothing but the timer and its
callback is needed for the driver to be called while something is in
progress. -/
theorem unattended_busy {s s' : SleepInstance} {a : SleepStep}
    (hs : (sleepSystem opts).Reaches (fun s a => s.Attended opts a) s)
    (hstep : (sleepSystem opts).step s a = some s')
    (hunattended : ¬ s.Attended opts a) :
    ∃ as t t', (sleepSystem opts).run s' as = some t
      ∧ (sleepSystem opts).step t .driverSleep = some t'
      ∧ ¬ t.Idle := by
  have hinv := timerInv_reaches hs
  -- the timer fires first, if it has not already
  have hcalled : ∀ r : SleepInstance, r.sleepTimeout = s.sleepTimeout →
      r.unattendedSince = s.unattendedSince →
      r.sleepCalled = s.sleepCalled → ¬ r.Idle →
      r.sleeping = true ∨ r.Due opts r.now →
      ∃ as t t', (sleepSystem opts).run r as = some t
        ∧ (sleepSystem opts).step t .driverSleep = some t'
        ∧ ¬ t.Idle := by
    rintro r htimeout hsince hcall hbusy (hsleeping | hdue)
    · exact ⟨[], r, _, rfl, if_pos hsleeping, hbusy⟩
    · have hmap : r.sleepTimeout
          = r.unattendedSince.map (· + opts.delay) := by
        rw [htimeout, hsince]
        exact hinv.timeout hdue.1 (hcall.symm.trans hdue.2.1)
      obtain ⟨t, hfire, hsleeping, hbusy'⟩ := hdue.fires hmap hbusy
      refine ⟨[.sleepTimer], t, _, ?_, if_pos hsleeping, hbusy'⟩
      simp only [System.run]
      rw [hfire]
  have hor : ¬ (s.sleeping = false ∧ ¬ s.Due opts s.now) →
      s.sleeping = true ∨ s.Due opts s.now := by
    intro h
    by_cases hsleeping : s.sleeping = true
    · exact Or.inl hsleeping
    · right
      by_contra hdue
      exact h ⟨Bool.eq_false_iff.2 hsleeping, hdue⟩
  cases a with
  | advance d =>
      rw [← Option.some.inj hstep]
      simp only [Attended, Classical.not_imp] at hunattended
      apply hcalled
      · rfl
      · rfl
      · rfl
      · exact not_idle hunattended.2
      · exact Or.inr hunattended.1
  | actionStart c =>
      simp only [sleepSystem, SleepInstance.step] at hstep
      split at hstep
      · rw [← Option.some.inj hstep]
        apply hcalled
        · rfl
        · rfl
        · rfl
        · apply not_idle
          intro hnone
          have := hnone.1
          simp [acting] at this
        · exact hor hunattended
      · cases hstep
  | eventStart a =>
      simp only [sleepSystem, SleepInstance.step] at hstep
      split at hstep
      case h_1 => cases hstep
      case h_2 run hrun =>
      split at hstep
      · rw [← Option.some.inj hstep]
        apply hcalled
        · rfl
        · rfl
        · rfl
        · apply not_idle
          intro hnone
          have hlt : a < s.alarms.length :=
            (List.getElem?_eq_some_iff.1 hrun).1
          have hnot := hnone.1
          unfold acting at hnot
          rw [Bool.or_eq_false_iff, List.any_eq_false] at hnot
          exact hnot.2 { run with running := true }
            (List.mem_set hlt _) rfl
        · exact hor hunattended
      · cases hstep
  | start | createConn | removeConn _ | disconnect _ | checkLiveness _ _
  | onAlarm _ | eventEnd _ | actionEnd _ | fetchStart | fetchEnd
  | socketStart | socketClose _ | socketError _ | sleepTimer | driverSleep
  | sleep | stop | clearTimeouts => exact absurd trivial hunattended

end RivetKit.Actor
