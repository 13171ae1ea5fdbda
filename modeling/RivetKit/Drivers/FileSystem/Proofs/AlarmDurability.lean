/-
The alarm file is there for what is armed, and for what was accepted and
not taken when the process stops, in every run whose steps meet `alarmOk`
(`alarm_durable`). `AlarmInv` carries it: a call between its rename and its
return has its file too, no file is of a time behind an accepted alarm, and
there is one unless a firing has unlinked it.
-/
import RivetKit.Drivers.FileSystem.Alarms
import RivetKit.Lib.Lists

namespace RivetKit.Drivers.FileSystem

open Transition
open Js
open Lists

namespace AlarmStore

variable {s s' : AlarmStore}

-- ============================================================ the timeouts

/-- What is armed after an abort was armed before. -/
theorem mem_of_mem_abort {timeouts : List AlarmTimeout} {o : Option Nat}
    {timeout : AlarmTimeout} (h : timeout ∈ abort timeouts o)
    (harmed : timeout.armed = true) : timeout ∈ timeouts := by
  cases o with
  | none => exact h
  | some i =>
      obtain ⟨j, hj⟩ := List.getElem?_of_mem h
      rcases getElem?_modify_cases hj with ⟨hj, -⟩ | ⟨-, x, -, heq⟩
      · exact List.mem_of_getElem? hj
      · rw [heq] at harmed
        cases harmed

theorem upsertEntry_eq (s : AlarmStore) :
    ∃ entries actors, s.upsertEntry.1 = { s with entries, actors } := by
  unfold upsertEntry
  split
  · exact ⟨_, _, rfl⟩
  · exact ⟨_, _, rfl⟩

/-- `#scheduleAlarmTimeout` changes entries and timeouts, and arms none but
its own. -/
theorem scheduleAlarmTimeout_eq (s : AlarmStore) (t : Int) :
    ∃ entries actors timeouts,
      s.scheduleAlarmTimeout t = { s with entries, actors, timeouts }
        ∧ ∀ timeout ∈ timeouts, timeout.armed = true →
          timeout ∈ s.timeouts ∨ timeout.timestamp = t := by
  obtain ⟨entries, actors, h⟩ := upsertEntry_eq s
  unfold scheduleAlarmTimeout
  dsimp only
  rw [h]
  split
  · refine ⟨_, _, _, rfl, ?_⟩
    intro timeout hmem _
    exact Or.inl hmem
  · refine ⟨_, _, _, rfl, ?_⟩
    intro timeout hmem harmed
    rcases List.mem_append.1 hmem with hmem | hmem
    · exact Or.inl (mem_of_mem_abort hmem harmed)
    · rw [List.mem_singleton.1 hmem]
      exact Or.inr rfl

-- =========================================================== the invariant

structure AlarmInv (s : AlarmStore) : Prop where
  armed : ∀ timeout ∈ s.timeouts, timeout.armed = true →
    s.FileBy timeout.timestamp
  renamed : ∀ t, s.Renamed t → s.FileBy t
  accepted : ∀ t ∈ s.accepted, ∀ data, s.alarmFile = some data → data ≤ t
  unlinked : s.alarmFile = none → s.accepted ≠ [] → s.unlinked = true
  stopped : s.running = false → s.unlinked = false
  file : ∀ data, s.alarmFile = some data → (Number.ofInt data).IsDouble

/-- Unless a firing has unlinked it, there is a file for what is
accepted. -/
theorem AlarmInv.fileBy (h : AlarmInv s) (hunlinked : s.unlinked = false)
    {t : Int} (ht : t ∈ s.accepted) : s.FileBy t := by
  cases hfile : s.alarmFile with
  | some data => exact ⟨data, hfile, h.accepted t ht data hfile⟩
  | none =>
      rw [h.unlinked hfile (List.ne_nil_of_mem ht)] at hunlinked
      cases hunlinked

theorem AlarmInv.durable (h : AlarmInv s) : s.Durable :=
  ⟨h.armed, fun hstopped _ ht => h.fileBy (h.stopped hstopped) ht⟩

/-- Entries do not matter. -/
theorem AlarmInv.entries (h : AlarmInv s) (entries : List AlarmEntry)
    (actors : Option Nat) : AlarmInv { s with entries, actors } :=
  ⟨h.armed, h.renamed, h.accepted, h.unlinked, h.stopped, h.file⟩

theorem AlarmInv.upsertEntry (h : AlarmInv s) :
    AlarmInv s.upsertEntry.1 := by
  obtain ⟨entries, actors, heq⟩ := upsertEntry_eq s
  rw [heq]
  exact h.entries entries actors

/-- A timeout may be armed for a time that the file has. -/
theorem AlarmInv.scheduleAlarmTimeout (h : AlarmInv s) {t : Int}
    (ht : s.FileBy t) : AlarmInv (s.scheduleAlarmTimeout t) := by
  obtain ⟨entries, actors, timeouts, heq, hmem⟩ :=
    scheduleAlarmTimeout_eq s t
  rw [heq]
  refine ⟨?_, h.renamed, h.accepted, h.unlinked, h.stopped, h.file⟩
  intro timeout htimeout harmed
  rcases hmem timeout htimeout harmed with hold | hnew
  · exact h.armed timeout hold harmed
  · rw [hnew]
    exact ht

/-- A call that settles is not between its rename and its return. -/
theorem AlarmInv.setSettled (h : AlarmInv s) (c : Nat) :
    AlarmInv { s with sets := s.sets.set c .settled } := by
  refine ⟨h.armed, ?_, h.accepted, h.unlinked, h.stopped, h.file⟩
  intro t ht
  rcases List.mem_or_eq_of_mem_set ht with ht | ht
  · exact h.renamed t ht
  · cases ht

-- =============================================================== the steps

theorem setActorAlarm_inv (h : AlarmInv s) {timestamp : Double}
    (hstep : s.setActorAlarm timestamp = some s') : AlarmInv s' := by
  unfold setActorAlarm at hstep
  split at hstep
  · injection hstep with hstep
    rw [← hstep]
    refine ⟨h.armed, ?_, h.accepted, h.unlinked, h.stopped, h.file⟩
    intro t ht
    rcases List.mem_append.1 ht with ht | ht
    · exact h.renamed t ht
    · cases List.mem_singleton.1 ht
  · cases hstep

/-- What is written is a double. -/
theorem isDouble_written {timestamp : Double} {t : Int}
    (ht : encodeTimestamp timestamp = some t) :
    (Number.ofInt t).IsDouble := by
  unfold encodeTimestamp at ht
  obtain ⟨ht, -⟩ := Option.filter_eq_some_iff.1 ht
  rw [← Number.eq_ofInt_of_toBigInt ht]
  exact timestamp.2

/-- The rename is what writes a file. It is due by its own time, which is
due by all that is armed or renamed. -/
theorem renameAlarm_inv (h : AlarmInv s) {c : Nat} {ok : Bool}
    (hok : alarmOk s (.renameAlarm c ok))
    (hstep : s.renameAlarm c ok = some s') : AlarmInv s' := by
  unfold renameAlarm at hstep
  split at hstep
  case h_1 timestamp hc =>
    split at hstep
    case h_1 t ht =>
      obtain ⟨harmed, hrenamed, haccepted⟩ := hok timestamp t hc ht
      injection hstep with hstep
      rw [← hstep]
      refine ⟨?_, ?_, ?_, ?_, fun _ => rfl, ?_⟩
      · intro timeout hmem htimeout
        exact ⟨t, rfl, harmed timeout hmem htimeout⟩
      · intro t' ht'
        rcases List.mem_or_eq_of_mem_set ht' with ht' | ht'
        · exact ⟨t, rfl, hrenamed t' ht'⟩
        · injection ht' with ht'
          exact ⟨t, rfl, le_of_eq ht'.symm⟩
      · intro t' ht' data hdata
        injection hdata with hdata
        rw [← hdata]
        exact haccepted t' ht'
      · intro hnone
        cases hnone
      · intro data hdata
        injection hdata with hdata
        rw [← hdata]
        exact isDouble_written ht
    case h_2 =>
      injection hstep with hstep
      rw [← hstep]
      exact h.setSettled c
  case h_2 => cases hstep

theorem returnAlarm_inv (h : AlarmInv s) {c : Nat}
    (hstep : s.returnAlarm c = some s') : AlarmInv s' := by
  unfold returnAlarm at hstep
  split at hstep
  case h_1 t hc =>
    have ht : s.FileBy t := h.renamed t (List.mem_of_getElem? hc)
    have h' := (h.scheduleAlarmTimeout ht).setSettled c
    obtain ⟨entries, actors, timeouts, heq, -⟩ :=
      scheduleAlarmTimeout_eq s t
    injection hstep with hstep
    rw [← hstep]
    obtain ⟨data, hdata, hle⟩ := ht
    refine ⟨h'.armed, h'.renamed, ?_, ?_, h'.stopped, h'.file⟩
    · intro t' ht' data' hdata'
      rcases List.mem_append.1 ht' with ht' | ht'
      · exact h'.accepted t' ht' data' hdata'
      · rw [heq] at hdata'
        rw [Option.some.inj (hdata'.symm.trans hdata),
          List.mem_singleton.1 ht']
        exact hle
    · intro hnone
      rw [heq] at hnone
      cases hdata.symm.trans hnone
  case h_2 => cases hstep

theorem fire_inv (h : AlarmInv s) {i : Nat}
    (hstep : s.fire i = some s') : AlarmInv s' := by
  unfold fire at hstep
  split at hstep
  · split at hstep
    · injection hstep with hstep
      rw [← hstep]
      refine ⟨?_, h.renamed, h.accepted, h.unlinked, h.stopped, h.file⟩
      intro timeout hmem harmed
      rcases List.mem_or_eq_of_mem_set hmem with hmem | heq
      · exact h.armed timeout hmem harmed
      · rw [heq] at harmed
        cases harmed
    · cases hstep
  · cases hstep

/-- Without a file nothing may be armed or renamed. -/
theorem unlinkAlarm_inv (h : AlarmInv s) {f : Nat} {ok : Bool}
    (hok : alarmOk s (.unlinkAlarm f ok)) (hrunning : s.running = true)
    (hstep : s.unlinkAlarm f ok = some s') : AlarmInv s' := by
  unfold unlinkAlarm at hstep
  split at hstep
  · split at hstep
    case isTrue hunlinked =>
      rw [hunlinked] at hok
      injection hstep with hstep
      rw [← hstep]
      refine ⟨?_, ?_, ?_, fun _ _ => rfl, ?_, ?_⟩
      · intro timeout hmem harmed
        rw [hok.1 timeout hmem] at harmed
        cases harmed
      · intro t ht
        exact absurd ht (hok.2 t)
      · intro t _ data hdata
        cases hdata
      · intro hstopped
        rw [hrunning] at hstopped
        cases hstopped
      · intro data hdata
        cases hdata
    case isFalse =>
      injection hstep with hstep
      rw [← hstep]
      exact ⟨h.armed, h.renamed, h.accepted, h.unlinked, h.stopped, h.file⟩
  · cases hstep

/-- What is not taken stays accepted, and the file is as it was. -/
theorem onAlarm_inv (h : AlarmInv s) {f : Nat} {taken : List Int}
    (hrunning : s.running = true)
    (hstep : s.onAlarm f taken = some s') : AlarmInv s' := by
  unfold onAlarm at hstep
  split at hstep
  · obtain ⟨entries, actors, heq⟩ := upsertEntry_eq s
    injection hstep with hstep
    rw [← hstep, heq]
    refine ⟨h.armed, h.renamed, ?_, ?_, ?_, h.file⟩
    · intro t ht
      exact h.accepted t (List.mem_filter.1 ht).1
    · intro hnone hleft
      obtain ⟨t, ht⟩ := List.exists_mem_of_ne_nil _ hleft
      obtain ⟨ht, hnot⟩ := List.mem_filter.1 ht
      have hunlinked := h.unlinked hnone (List.ne_nil_of_mem ht)
      exact Bool.and_eq_true_iff.2
        ⟨hunlinked, List.any_eq_true.2 ⟨t, ht, hnot⟩⟩
    · intro hstopped
      rw [show _ = true from hrunning] at hstopped
      cases hstopped
  · cases hstep

theorem failAlarm_inv (h : AlarmInv s) {f : Nat}
    (hstep : s.failAlarm f = some s') : AlarmInv s' := by
  unfold failAlarm at hstep
  split at hstep
  · have h' := h.upsertEntry
    injection hstep with hstep
    rw [← hstep]
    exact ⟨h'.armed, h'.renamed, h'.accepted, h'.unlinked, h'.stopped,
      h'.file⟩
  · cases hstep

theorem crash_inv (h : AlarmInv s) (hok : alarmOk s .crash) :
    AlarmInv s.crash := by
  refine ⟨?_, ?_, h.accepted, h.unlinked, fun _ => hok, h.file⟩
  · intro timeout hmem
    cases hmem
  · intro t ht
    cases ht

/-- A restart arms the time that is in the file. -/
theorem loadAlarmsSync_inv (h : AlarmInv s) (ok : Bool) :
    AlarmInv (s.loadAlarmsSync ok) := by
  have h' : AlarmInv { s with running := true } := by
    refine ⟨h.armed, h.renamed, h.accepted, h.unlinked, ?_, h.file⟩
    intro hstopped
    cases hstopped
  unfold loadAlarmsSync
  dsimp only
  split
  case h_1 data hdata =>
    rw [Number.ofBigInt_of_isDouble (h.file data hdata),
      Number.toBigInt_ofInt]
    exact h'.scheduleAlarmTimeout ⟨data, hdata, le_refl data⟩
  case h_2 => exact h'

theorem alarmStep_inv (h : AlarmInv s) {a : AlarmStep} (hok : alarmOk s a)
    (hstep : alarmStep s a = some s') : AlarmInv s' := by
  unfold alarmStep at hstep
  split at hstep
  case isTrue hrunning =>
    cases a with
    | lookup =>
        injection hstep with hstep
        rw [← hstep]
        exact h.upsertEntry
    | setActorAlarm timestamp => exact setActorAlarm_inv h hstep
    | renameAlarm c ok => exact renameAlarm_inv h hok hstep
    | returnAlarm c => exact returnAlarm_inv h hstep
    | fire i => exact fire_inv h hstep
    | unlinkAlarm f ok => exact unlinkAlarm_inv h hok hrunning hstep
    | onAlarm f taken => exact onAlarm_inv h hrunning hstep
    | failAlarm f => exact failAlarm_inv h hstep
    | endSleep =>
        injection hstep with hstep
        rw [← hstep]
        exact h.entries s.entries none
    | crash =>
        injection hstep with hstep
        rw [← hstep]
        exact crash_inv h hok
    | restart ok => cases hstep
  case isFalse =>
    cases a with
    | restart ok =>
        injection hstep with hstep
        rw [← hstep]
        exact loadAlarmsSync_inv h ok
    | _ => cases hstep

end AlarmStore

open AlarmStore

-- ============================================================= every run

/-- In every run whose steps meet `alarmOk`, each state is durable. -/
theorem alarm_durable {s : AlarmStore}
    (h : alarmSystem.Reaches alarmOk s) : s.Durable := by
  apply AlarmInv.durable
  refine System.Reaches.invariant ?_ ?_ h
  · intro s hs
    rw [show s = {} from hs]
    refine ⟨?_, ?_, ?_, ?_, fun _ => rfl, ?_⟩
    · intro timeout hmem
      cases hmem
    · intro t ht
      cases ht
    · intro t ht
      cases ht
    · intro _ hleft
      exact absurd rfl hleft
    · intro data hdata
      cases hdata
  · intro s a s' _ h hok hstep
    exact alarmStep_inv h hok hstep

/-- A time in milliseconds, and one ten seconds later. -/
def soon : Double :=
  ⟨.ofInt 1700000010000, Number.isDouble_ofInt (by decide)⟩

def later : Double :=
  ⟨.ofInt 1700000020000, Number.isDouble_ofInt (by decide)⟩

/-- An alarm that is set. -/
def setSoon : List AlarmStep :=
  [.lookup, .setActorAlarm soon, .renameAlarm 0 true, .returnAlarm 0]

/-- The process stops while an alarm is armed. -/
theorem alarm_durable_soon :
    ((alarmSystem.run {} (setSoon ++ [.crash])).getD {}).Durable := by
  have hinit : alarmSystem.Reaches alarmOk {} := .init rfl
  refine alarm_durable (hinit.run (setSoon ++ [.crash]) ?_ rfl)
  refine ⟨trivial, trivial, ?_, trivial, rfl, trivial⟩
  intro timestamp t hc ht
  refine ⟨?_, ?_, ?_⟩
  · intro timeout hmem
    cases hmem
  · intro t' ht'
    cases List.mem_singleton.1 ht'
  · intro t' ht'
    cases ht'

/-- A later alarm replaces the file while the earlier one is armed. And
the process stops between the unlink of an alarm that fires and its
`_onAlarm`. -/
theorem alarm_not_durable :
    (∃ s, alarmSystem.run {}
        (setSoon ++ [.setActorAlarm later, .renameAlarm 1 true,
          .returnAlarm 1]) = some s ∧ ¬ s.Durable)
      ∧ ∃ s, alarmSystem.run {}
        (setSoon ++ [.fire 0, .unlinkAlarm 0 true, .crash]) = some s
        ∧ ¬ s.Durable := by
  refine ⟨⟨_, rfl, ?_⟩, ⟨_, rfl, ?_⟩⟩
  · intro h
    obtain ⟨data, hdata, hle⟩ :=
      h.1 { entry := 0, timestamp := 1700000010000 } (.head _) rfl
    injection hdata with hdata
    rw [← hdata] at hle
    exact absurd hle (by decide)
  · intro h
    obtain ⟨data, hdata, -⟩ := h.2 rfl 1700000010000 (.head _)
    cases hdata

end RivetKit.Drivers.FileSystem
