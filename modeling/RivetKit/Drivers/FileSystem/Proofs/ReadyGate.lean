/-
User code runs on started instances only, as long as no alarm with a due
action is delivered to an instance that is not ready and no connection is
prepared on an instance whose start failed (`GateSafe`).

# The invariant

A call of `startActor` returns an instance whose start has ended
(`SettledInv`). `GateInv` adds what the requests and alarms have tested
by the time they get where they are, and `Later` carries it over the
steps of the driver.
-/
import RivetKit.Drivers.FileSystem.Requests
import RivetKit.Drivers.FileSystem.Proofs.Settled

namespace RivetKit.Drivers.FileSystem

open Transition
open Actor
open Lists
open RequestState

variable {registry : RegistryConfig} {config : ActorConfig}

-- ============================================================ the contract

/-- Every call of user code found the start of its instance completed. -/
def RequestState.Gated (s : RequestState) : Prop :=
  ∀ invocation ∈ s.invoked, invocation.started = true

/-- The instance `i` is ready. -/
def RequestState.Ready (s : RequestState) (i : Nat) : Prop :=
  s.driver.instances[i]? = some .ready

/-- The steps that do not reach a missing test: a connection that calls a
hook is not prepared on an instance whose start failed, and an alarm with
a due action is not delivered to an instance that is not ready. -/
def GateSafe (config : ActorConfig) (s : RequestState) :
    RequestStep → Prop
  | .serve r _ => ∀ request i, s.requests[r]? = some request →
      request.kind.preparesConn = true →
      (config.onBeforeConnect || config.createConnState) = true →
      s.loaded r = some i →
        ∀ stage : StartStage, s.driver.instances[i]? ≠ some (.failed stage)
  | .alarm k due => ∀ i, s.alarmTarget k = some i →
      due.any config.actions = true → s.Ready i
  | _ => True

-- =========================================================== the invariant

/-- What a request has tested by now. -/
def RequestOk (s : RequestState) : RequestPc → Prop
  | .onBeforeConnect i => s.Ready i
  | .createConnState i => s.Ready i
  | .connected i => s.Ready i
  | .acted i => s.Ready i
  | _ => True

/-- What is known of the instance of an alarm. -/
def AlarmOk (config : ActorConfig) (s : RequestState) :
    AlarmPc → Prop
  | .running i events => events.any config.actions = true → s.Ready i
  | _ => True

/-- The invariant of the guarded runs. -/
structure GateInv (config : ActorConfig) (s : RequestState) : Prop where
  driver : s.driver.SettledInv
  requests : ∀ request ∈ s.requests, RequestOk s request.pc
  alarms : ∀ pc ∈ s.alarms, AlarmOk config s pc
  invoked : s.Gated

theorem gateInv_init {driver : GlobalState}
    (h : (startSystem registry).init driver) :
    GateInv config { driver := driver } where
  driver := GlobalState.settledInv_init h
  requests := by simp
  alarms := by simp
  invoked := by
    intro invocation hmem
    exact absurd hmem (by simp)

theorem ready_iff (s : RequestState) (i : Nat) :
    s.ready i = true ↔ s.Ready i := by
  unfold RequestState.ready RequestState.Ready
  exact decide_eq_true_iff

/-- What is said of a request stays true while instances go on. -/
theorem RequestOk.later {s s' : RequestState} {pc : RequestPc}
    (hpc : RequestOk s pc) (h : s.driver.Later s'.driver) :
    RequestOk s' pc := by
  cases pc with
  | onBeforeConnect i => exact h.ready i hpc
  | createConnState i => exact h.ready i hpc
  | connected i => exact h.ready i hpc
  | acted i => exact h.ready i hpc
  | loadActor call => trivial
  | prepared i => trivial
  | done => trivial

theorem AlarmOk.later {s s' : RequestState} {pc : AlarmPc}
    (hpc : AlarmOk config s pc) (h : s.driver.Later s'.driver) :
    AlarmOk config s' pc := by
  cases pc with
  | running i events => exact fun hdue => h.ready i (hpc hdue)
  | unlink => trivial
  | loadActor load => trivial
  | startActor call => trivial
  | done => trivial

-- ============================================================== the effects

/-- The driver goes on. -/
theorem GateInv.withDriver {s : RequestState} (hs : GateInv config s)
    {driver : GlobalState} (hdriver : driver.SettledInv)
    (hlater : s.driver.Later driver) :
    GateInv config { s with driver := driver } where
  driver := hdriver
  requests := fun request hmem => (hs.requests request hmem).later hlater
  alarms := fun pc hmem => (hs.alarms pc hmem).later hlater
  invoked := hs.invoked

/-- User code is called on a ready instance. -/
theorem GateInv.invoke {s : RequestState} (hs : GateInv config s)
    (handler : Handler) {i : Nat} (hready : s.Ready i) :
    GateInv config (s.invoke handler i) where
  driver := hs.driver
  requests := hs.requests
  alarms := hs.alarms
  invoked := by
    intro invocation hmem
    rcases List.mem_append.1 hmem with hmem | hmem
    · exact hs.invoked invocation hmem
    · rw [List.mem_singleton.1 hmem]
      exact (ready_iff s i).2 hready

theorem GateInv.invokeIf {s : RequestState} (hs : GateInv config s)
    {has : Bool} (handler : Handler) {i : Nat}
    (hready : has = true → s.Ready i) :
    GateInv config (s.invokeIf has handler i) := by
  unfold RequestState.invokeIf
  by_cases hhas : has = true
  · rw [if_pos hhas]
    exact hs.invoke handler (hready hhas)
  · rw [if_neg hhas]
    exact hs

/-- Calling user code leaves the driver. -/
theorem invokeIf_driver (s : RequestState) (has : Bool) (handler : Handler)
    (i : Nat) : (s.invokeIf has handler i).driver = s.driver := by
  unfold RequestState.invokeIf
  split
  · rfl
  · rfl

/-- A request moves on. -/
theorem GateInv.setRequest {s : RequestState} (hs : GateInv config s)
    (r : Nat) {pc : RequestPc} (hpc : RequestOk s pc) :
    GateInv config (s.setRequest r pc) where
  driver := hs.driver
  requests := by
    intro request hmem
    obtain ⟨j, hj⟩ := List.getElem?_of_mem hmem
    rcases getElem?_modify_cases hj with ⟨hj, -⟩ | ⟨-, old, -, heq⟩
    · exact hs.requests request (List.mem_of_getElem? hj)
    · rw [heq]
      exact hpc
  alarms := hs.alarms
  invoked := hs.invoked

/-- An alarm moves on. -/
theorem GateInv.setAlarm {s : RequestState} (hs : GateInv config s)
    (k : Nat) {pc : AlarmPc} (hpc : AlarmOk config s pc) :
    GateInv config (s.setAlarm k pc) where
  driver := hs.driver
  requests := hs.requests
  alarms := by
    intro pc' hmem
    rcases List.mem_or_eq_of_mem_set hmem with hmem | heq
    · exact hs.alarms pc' hmem
    · rw [heq]
      exact hpc
  invoked := hs.invoked

-- ============================================================ the requests

theorem GateInv.request {s : RequestState} (hs : GateInv config s)
    (kind : RequestKind) : GateInv config (s.request kind) := by
  obtain ⟨hdriver, hlater⟩ := hs.driver.startActor
  have hnext := hs.withDriver hdriver hlater
  exact {
    driver := hdriver
    requests := by
      intro request hmem
      rcases List.mem_append.1 hmem with hmem | hmem
      · exact hnext.requests request hmem
      · rw [List.mem_singleton.1 hmem]
        trivial
    alarms := hnext.alarms
    invoked := hs.invoked }

theorem GateInv.afterBeforeConnect {s : RequestState}
    (hs : GateInv config s) (r : Nat) {i : Nat}
    (hready : config.createConnState = true → s.Ready i) :
    GateInv config (s.afterBeforeConnect config r i) := by
  unfold RequestState.afterBeforeConnect
  by_cases hhas : config.createConnState = true
  · rw [if_pos hhas]
    exact (hs.invoke _ (hready hhas)).setRequest r (hready hhas)
  · rw [if_neg hhas]
    exact hs.setRequest r trivial

theorem GateInv.prepareConn {s : RequestState} (hs : GateInv config s)
    (r : Nat) {i : Nat}
    (hready : (config.onBeforeConnect || config.createConnState) = true →
      s.Ready i) : GateInv config (s.prepareConn config r i) := by
  unfold RequestState.prepareConn
  by_cases hhas : config.onBeforeConnect = true
  · rw [if_pos hhas]
    have hi := hready (by rw [hhas]; rfl)
    exact (hs.invoke _ hi).setRequest r hi
  · rw [if_neg hhas]
    apply hs.afterBeforeConnect
    intro hstate
    apply hready
    rw [hstate, Bool.or_true]

/-- `executeAction` has its own test. -/
theorem GateInv.executeAction {s : RequestState} (hs : GateInv config s)
    (i : Nat) (name : String) :
    GateInv config (s.executeAction config i name) := by
  unfold RequestState.executeAction
  by_cases hready : s.ready i = true
  · rw [if_pos hready]
    exact hs.invokeIf _ fun _ => (ready_iff s i).1 hready
  · rw [if_neg hready]
    exact hs

theorem executeAction_driver (s : RequestState) (i : Nat) (name : String) :
    (s.executeAction config i name).driver = s.driver := by
  unfold RequestState.executeAction
  split
  · exact invokeIf_driver _ _ _ _
  · rfl

/-- So have `handleFetch` and `handleWebSocket`. -/
theorem GateInv.handleRaw {s : RequestState} (hs : GateInv config s)
    (i : Nat) (stopping has : Bool) (handler : Handler) :
    GateInv config (s.handleRaw i stopping has handler) := by
  unfold RequestState.handleRaw
  by_cases hready : s.assertReady i stopping = true
  · rw [if_pos hready]
    have hi := (Bool.and_eq_true_iff.1 hready).1
    exact hs.invokeIf _ fun _ => (ready_iff s i).1 hi
  · rw [if_neg hready]
    exact hs

/-- The instance of a request has ended its start. -/
theorem GateInv.loaded {s : RequestState} (hs : GateInv config s)
    {r i : Nat} (h : s.loaded r = some i) : s.driver.Settled i := by
  unfold RequestState.loaded at h
  split at h
  case h_2 => exact absurd h (by simp)
  case h_1 kind call hrequest =>
    split at h
    case h_2 => exact absurd h (by simp)
    case h_1 j joined hcall =>
      injection h with h
      rw [← h]
      exact hs.driver.calls _ (List.mem_of_getElem? hcall)

theorem GateInv.serve {s s' : RequestState} (hs : GateInv config s)
    {r : Nat} {stopping : Bool} (hok : GateSafe config s (.serve r stopping))
    (h : s.serve config r stopping = some s') : GateInv config s' := by
  have hready : ∀ (request : RequestFrame) (i : Nat),
      s.requests[r]? = some request → request.kind.preparesConn = true →
      s.loaded r = some i →
      (config.onBeforeConnect || config.createConnState) = true →
        s.Ready i := by
    intro request i hrequest hkind hi hhas
    rcases hs.loaded hi with hready | ⟨stage, hfailed⟩
    · exact hready
    · exact absurd hfailed (hok request i hrequest hkind hhas hi stage)
  unfold RequestState.serve at h
  split at h
  case h_1 pc i hrequest hi =>
    injection h with h
    rw [← h]
    exact hs.prepareConn r (hready _ i hrequest rfl hi)
  case h_2 name pc i hrequest hi =>
    injection h with h
    rw [← h]
    exact hs.prepareConn r (hready _ i hrequest rfl hi)
  case h_3 name pc i hrequest hi =>
    injection h with h
    rw [← h]
    exact (hs.executeAction i name).setRequest r trivial
  case h_4 pc i hrequest hi =>
    injection h with h
    rw [← h]
    exact (hs.handleRaw i stopping _ _).setRequest r trivial
  case h_5 pc i hrequest hi =>
    injection h with h
    rw [← h]
    exact (hs.handleRaw i stopping _ _).setRequest r trivial
  case h_6 => exact absurd h (by simp)

theorem GateInv.hookEnds {s s' : RequestState} (hs : GateInv config s)
    {r : Nat} {ok : Bool} (h : s.hookEnds config r ok = some s') :
    GateInv config s' := by
  unfold RequestState.hookEnds at h
  split at h
  case h_1 kind i hrequest =>
    have hready := hs.requests _ (List.mem_of_getElem? hrequest)
    injection h with h
    rw [← h]
    by_cases hok : ok = true
    · rw [if_pos hok]
      exact hs.afterBeforeConnect r fun _ => hready
    · rw [if_neg hok]
      exact hs.setRequest r trivial
  case h_2 kind i hrequest =>
    injection h with h
    rw [← h]
    apply hs.setRequest r
    split
    · trivial
    · trivial
  case h_3 => exact absurd h (by simp)

theorem GateInv.createConn {s s' : RequestState} (hs : GateInv config s)
    {r : Nat} {stopping : Bool}
    (h : s.createConn config r stopping = some s') : GateInv config s' := by
  unfold RequestState.createConn at h
  split at h
  case h_2 => exact absurd h (by simp)
  case h_1 kind i hrequest =>
    injection h with h
    rw [← h]
    by_cases hassert : s.assertReady i stopping = true
    · rw [if_pos hassert]
      have hready := (ready_iff s i).1 (Bool.and_eq_true_iff.1 hassert).1
      apply (hs.invokeIf _ fun _ => hready).setRequest r
      show (s.invokeIf _ _ i).driver.instances[i]? = _
      rw [invokeIf_driver]
      exact hready
    · rw [if_neg hassert]
      exact hs.setRequest r trivial

theorem GateInv.action {s s' : RequestState} (hs : GateInv config s)
    {r : Nat} {name : String} (h : s.action config r name = some s') :
    GateInv config s' := by
  unfold RequestState.action at h
  split at h
  case h_1 i hrequest =>
    injection h with h
    rw [← h]
    exact hs.executeAction i name
  case h_2 only i hrequest =>
    have hready := hs.requests _ (List.mem_of_getElem? hrequest)
    split at h
    · injection h with h
      rw [← h]
      apply (hs.executeAction i name).setRequest r
      show (s.executeAction config i name).driver.instances[i]? = _
      rw [executeAction_driver]
      exact hready
    · exact absurd h (by simp)
  case h_3 => exact absurd h (by simp)

theorem GateInv.removeConn {s s' : RequestState} (hs : GateInv config s)
    {r : Nat} (h : s.removeConn config r = some s') :
    GateInv config s' := by
  unfold RequestState.removeConn at h
  split at h
  case h_1 i hrequest =>
    have hready := hs.requests _ (List.mem_of_getElem? hrequest)
    injection h with h
    rw [← h]
    exact (hs.invokeIf _ fun _ => hready).setRequest r trivial
  case h_2 name i hrequest =>
    have hready := hs.requests _ (List.mem_of_getElem? hrequest)
    injection h with h
    rw [← h]
    exact (hs.invokeIf _ fun _ => hready).setRequest r trivial
  case h_3 => exact absurd h (by simp)

theorem GateInv.checkLiveness {s s' : RequestState}
    (hs : GateInv config s) {i : Nat}
    (h : s.checkLiveness config i = some s') : GateInv config s' := by
  unfold RequestState.checkLiveness at h
  split at h
  case isFalse => exact absurd h (by simp)
  case isTrue hready =>
    injection h with h
    rw [← h]
    exact hs.invokeIf _ fun _ => (ready_iff s i).1 hready

-- ============================================================== the alarms

theorem GateInv.pushAlarm {s : RequestState} (hs : GateInv config s)
    {pc : AlarmPc} (hpc : AlarmOk config s pc) :
    GateInv config { s with alarms := s.alarms ++ [pc] } where
  driver := hs.driver
  requests := hs.requests
  alarms := by
    intro pc' hmem
    rcases List.mem_append.1 hmem with hmem | hmem
    · exact hs.alarms pc' hmem
    · rw [List.mem_singleton.1 hmem]
      exact hpc
  invoked := hs.invoked

theorem GateInv.fireAlarm {s : RequestState} (hs : GateInv config s) :
    GateInv config s.fireAlarm := by
  unfold RequestState.fireAlarm
  by_cases hpersist : s.driver.persist = true
  · rw [if_pos hpersist]
    exact hs.pushAlarm trivial
  · rw [if_neg hpersist]
    obtain ⟨hdriver, hlater, -⟩ := hs.driver.loadActor
    exact (hs.withDriver hdriver hlater).pushAlarm trivial

theorem GateInv.alarm {s s' : RequestState} (hs : GateInv config s)
    {k : Nat} {due : List String} (hok : GateSafe config s (.alarm k due))
    (h : s.alarm k due = some s') : GateInv config s' := by
  unfold RequestState.alarm at h
  split at h
  case h_1 i htarget =>
    injection h with h
    rw [← h]
    exact hs.setAlarm k fun hdue => hok i htarget hdue
  case h_2 =>
    injection h with h
    rw [← h]
    obtain ⟨hdriver, hlater, -⟩ := hs.driver.loadActor
    exact (hs.withDriver hdriver hlater).setAlarm k trivial
  case h_3 load _ _ =>
    split at h
    case h_1 =>
      split at h
      · injection h with h
        rw [← h]
        obtain ⟨hdriver, hlater⟩ := hs.driver.startActor
        exact (hs.withDriver hdriver hlater).setAlarm k trivial
      · injection h with h
        rw [← h]
        exact hs.setAlarm k trivial
    case h_2 =>
      injection h with h
      rw [← h]
      exact hs.setAlarm k trivial
    case h_3 => exact absurd h (by simp)
  case h_4 call _ _ =>
    split at h
    case h_1 =>
      injection h with h
      rw [← h]
      exact hs.setAlarm k trivial
    case h_2 =>
      injection h with h
      rw [← h]
      exact hs.setAlarm k trivial
    case h_3 => exact absurd h (by simp)
  case h_5 => exact absurd h (by simp)

theorem GateInv.runEvent {s s' : RequestState} (hs : GateInv config s)
    {k : Nat} (h : s.runEvent config k = some s') : GateInv config s' := by
  unfold RequestState.runEvent at h
  split at h
  case h_2 => exact absurd h (by simp)
  case h_1 i name events halarm =>
    have hready := hs.alarms _ (List.mem_of_getElem? halarm)
    injection h with h
    rw [← h]
    apply GateInv.setAlarm
    · apply hs.invokeIf
      intro hhas
      apply hready
      rw [List.any_cons, hhas]
      rfl
    · intro hdue
      show (s.invokeIf _ _ i).driver.instances[i]? = _
      rw [invokeIf_driver]
      apply hready
      rw [List.any_cons, hdue, Bool.or_true]

-- ================================================================ the runs

/-- One safe step keeps the invariant. -/
theorem gateInv_step {s s' : RequestState} {a : RequestStep}
    (hs : GateInv config s) (hok : GateSafe config s a)
    (h : requestStep registry config s a = some s') : GateInv config s' := by
  cases a with
  | start a =>
      obtain ⟨driver, hstep, heq⟩ := Option.map_eq_some_iff.1 h
      obtain ⟨hdriver, hlater⟩ := hs.driver.step hstep
      rw [← heq]
      exact hs.withDriver hdriver hlater
  | request kind =>
      injection h with h
      rw [← h]
      exact hs.request kind
  | serve r stopping => exact hs.serve hok h
  | hookEnds r ok => exact hs.hookEnds h
  | createConn r stopping => exact hs.createConn h
  | action r name => exact hs.action h
  | removeConn r => exact hs.removeConn h
  | checkLiveness i => exact hs.checkLiveness h
  | fireAlarm =>
      injection h with h
      rw [← h]
      exact hs.fireAlarm
  | alarm k due => exact hs.alarm hok h
  | runEvent k => exact hs.runEvent h

/-- In every run in which no connection with a hook is prepared on an
instance whose start failed, and no alarm with a due action is delivered
to an instance that is not ready, user code runs on started instances
only. -/
theorem ready_gate {s : RequestState}
    (h : (requestSystem registry config).Reaches (GateSafe config) s) :
    s.Gated := by
  have hinv : GateInv config s := by
    apply System.Reaches.invariant _ _ h
    · intro s hs
      obtain ⟨driver, hdriver, heq⟩ := hs
      rw [heq]
      exact gateInv_init hdriver
    · intro s a s' _ hs hok hstep
      exact gateInv_step hs hok hstep
  exact hinv.invoked

-- ============================================================ the failures

/-- The registry of one actor. -/
def counterRegistry : RegistryConfig := ⟨["counter"]⟩

/-- An actor with a connection hook and one action. -/
def counterConfig : ActorConfig where
  onBeforeConnect := true
  actions := fun name => name = "tick"

/-- The driver before anything was loaded, with the files there. -/
def sleepingCounter : RequestState := { driver := { persist := true } }

/-- The stored state of the actor. -/
def counterState : ActorState where
  actorId := "c"
  name := "counter"
  key := []
  createdAt := 0
  persistedData := []

theorem sleepingCounter_init :
    (requestSystem counterRegistry counterConfig).init sleepingCounter :=
  ⟨_, ⟨true, Or.inl rfl⟩, rfl⟩

/-- A request starts the actor. -/
def requestStarts : List RequestStep :=
  [.request .connection, .start (.readFile 0 (.found counterState)),
    .start (.resume 0 true)]

/-- The alarm fires while the instance is starting. -/
def alarmWhileStarting : List RequestStep :=
  requestStarts ++ [.fireAlarm, .alarm 0 [], .alarm 0 ["tick"], .runEvent 0]

/-- The start fails, and the next connection gets what it left. -/
def connectionAfterFailure : List RequestStep :=
  requestStarts ++ [.start (.startStage 0 false), .request .connection,
    .start (.resume 1 true), .serve 1 false]

/-- A scheduled action runs on an instance that is starting, and a
connection hook on one whose start failed. -/
theorem user_code_before_start :
    (∃ s, (requestSystem counterRegistry counterConfig).Reachable s
        ∧ s.invoked = [⟨.scheduledAction "tick", 0, false⟩] ∧ ¬ s.Gated)
      ∧ ∃ s, (requestSystem counterRegistry counterConfig).Reachable s
        ∧ s.invoked = [⟨.onBeforeConnect, 0, false⟩] ∧ ¬ s.Gated := by
  have hinit := sleepingCounter_init
  refine ⟨⟨_, System.Reachable.run alarmWhileStarting (.init hinit) rfl, ?_⟩,
    ⟨_, System.Reachable.run connectionAfterFailure (.init hinit) rfl, ?_⟩⟩
  · refine ⟨by decide, ?_⟩
    intro hgated
    have hstarted := hgated ⟨.scheduledAction "tick", 0, false⟩ (by decide)
    exact absurd hstarted (by decide)
  · refine ⟨by decide, ?_⟩
    intro hgated
    have hstarted := hgated ⟨.onBeforeConnect, 0, false⟩ (by decide)
    exact absurd hstarted (by decide)

/-- A start that goes through, with a connection behind it. -/
def connectionAfterStart : List RequestStep :=
  requestStarts ++ [.start (.startStage 0 true), .start (.startStage 0 true),
    .start (.startStage 0 true), .start (.startStage 0 true),
    .start (.startStage 0 true), .serve 0 false, .hookEnds 0 true,
    .createConn 0 false, .action 0 "tick"]

/-- What they have made of the actor. -/
def connectedCounter : RequestState :=
  ((requestSystem counterRegistry counterConfig).run sleepingCounter
    connectionAfterStart).getD sleepingCounter

theorem ready_gate_connected :
    connectedCounter.Gated ∧ connectedCounter.invoked
      = [⟨.onBeforeConnect, 0, true⟩, ⟨.action "tick", 0, true⟩] := by
  refine ⟨?_, by decide⟩
  apply @ready_gate counterRegistry counterConfig
  apply System.Reaches.run connectionAfterStart
    (.init sleepingCounter_init) _ rfl
  refine ⟨trivial, trivial, trivial, trivial, trivial, trivial, trivial,
    trivial, ?_, trivial, trivial, trivial, trivial⟩
  -- the only guarded step finds a ready instance
  intro request i _ _ _ hloaded stage
  injection hloaded with hloaded
  rw [← hloaded]
  cases stage <;> decide

end RivetKit.Drivers.FileSystem
