/-
Which functions a name can run (`only_declared_iff`). Both look-ups use
`in` and `[]`, and these ask the prototypes too, so a name that is not
declared runs the function that `Object.prototype` has under it
(`inherited_function_runs`). Of an object literal those are all the names
at fault (`only_declared_literal`).

# Beyond the look-up

What a look-up comes to is what the rest of a path makes of it: a request
that finds nothing is answered with `action_not_found`
(`not_found_replied`), and `_onAlarm` calls what it has found and nothing
else (`alarm_calls_found`).
-/
import RivetKit.Actor.ActionLookup

namespace RivetKit.Actor

open Transition
open Js

universe u v

namespace ActionsConfig

variable {F : Type u} {config : ActionsConfig F}

-- ============================================================= the look-ups

/-- The test with `in` adds nothing to the read. -/
theorem executeAction_eq (actionName : String) :
    config.executeAction actionName
      = match config.actions.get actionName with
        | some (.function actionFunction) => .call actionFunction
        | _ => .actionNotFound actionName := by
  unfold executeAction
  rw [Object.has_eq]
  cases config.actions.get actionName with
  | none => rfl
  | some property => rfl

/-- Whatever the path, a function is called where the read gives it. -/
theorem lookUp_call_iff {path : ActionPath} {actionName : String} {f : F} :
    config.lookUp path actionName = .call f
      ↔ config.actions.get actionName = some (.function f) := by
  have hexecute : config.executeAction actionName = .call f
      ↔ config.actions.get actionName = some (.function f) := by
    rw [executeAction_eq]
    cases config.actions.get actionName with
    | none => simp
    | some property =>
        cases property with
        | function g => simp
        | other truthy typeOf => simp
  cases path with
  | connection => exact hexecute
  | http => exact hexecute
  | scheduled =>
      show config.alarmAction actionName = .call f ↔ _
      unfold alarmAction
      cases config.actions.get actionName with
      | none => simp
      | some property =>
          cases property with
          | function g => simp
          | other truthy typeOf => cases truthy <;> simp

/-- A request that calls nothing fails with `ActionNotFound`. -/
theorem executeAction_notFound {actionName : String}
    (h : ∀ f, config.actions.get actionName ≠ some (.function f)) :
    config.executeAction actionName = .actionNotFound actionName := by
  rw [executeAction_eq]
  split
  · rename_i f hget
    exact absurd hget (h f)
  · rfl

/-- `_onAlarm` has errors of its own. -/
theorem alarmAction_ne (actionName name : String) :
    config.alarmAction actionName ≠ .actionNotFound name := by
  unfold alarmAction
  split <;> simp

/-- What `inheritsFunction` says. -/
theorem inheritsFunction_iff {actionName : String} :
    config.inheritsFunction actionName = true
      ↔ ∃ f, config.actions.inherited actionName = some (.function f) := by
  unfold inheritsFunction
  split
  · rename_i f h
    exact ⟨fun _ => ⟨f, h⟩, fun _ => rfl⟩
  · rename_i hnot
    constructor
    · intro h
      cases h
    · rintro ⟨f, h⟩
      exact absurd h (hnot f)

-- ============================================================= the contract

/-- A function is called only for an own key of the actions, and any other
name fails with `ActionNotFound`. -/
structure OnlyDeclared (config : ActionsConfig F) (path : ActionPath)
    (actionName : String) : Prop where
  called : ∀ f, config.lookUp path actionName = .call f →
    config.actions.hasOwn actionName = true
  refused : config.actions.hasOwn actionName = false →
    config.lookUp path actionName = .actionNotFound actionName

/-- So it is for the own keys, and for the requests of connections and of
HTTP whose name is under no function of the prototypes. -/
theorem only_declared_iff (config : ActionsConfig F) (path : ActionPath)
    (actionName : String) :
    OnlyDeclared config path actionName
      ↔ config.actions.hasOwn actionName = true
        ∨ (path ≠ .scheduled
          ∧ config.inheritsFunction actionName = false) := by
  cases hown : config.actions.hasOwn actionName with
  | true =>
      refine ⟨fun _ => .inl rfl, fun _ => ⟨fun _ _ => hown, ?_⟩⟩
      intro hnot
      rw [hown] at hnot
      cases hnot
  | false =>
      have hget := Object.get_of_not_own hown
      constructor
      · intro h
        have hrefused := h.refused hown
        refine .inr ⟨?_, ?_⟩
        · rintro rfl
          exact alarmAction_ne actionName actionName hrefused
        · rw [← Bool.not_eq_true, inheritsFunction_iff]
          rintro ⟨f, hf⟩
          rw [lookUp_call_iff.2 (hget.trans hf)] at hrefused
          cases hrefused
      · intro hcond
        obtain hcond | ⟨hpath, hinherits⟩ := hcond
        · cases hcond
        have hnone : ∀ f,
            config.actions.get actionName ≠ some (.function f) := by
          intro f hf
          rw [inheritsFunction_iff.2 ⟨f, hget.symm.trans hf⟩] at hinherits
          cases hinherits
        refine ⟨fun f hf => absurd (lookUp_call_iff.1 hf) (hnone f), ?_⟩
        intro _
        cases path with
        | connection => exact executeAction_notFound hnone
        | http => exact executeAction_notFound hnone
        | scheduled => exact absurd rfl hpath

/-- `toString` is called over a connection and over HTTP, `constructor` by
the schedule, and none of them is declared; an event of the schedule does
not fail with `ActionNotFound` at all. -/
theorem inherited_function_runs :
    ¬ OnlyDeclared
        (.ofLiteral ("Object.prototype." ++ ·) [("increment", "increment")])
        .connection "toString"
      ∧ ¬ OnlyDeclared
        (.ofLiteral ("Object.prototype." ++ ·) [("increment", "increment")])
        .http "toString"
      ∧ ¬ OnlyDeclared
        (.ofLiteral ("Object.prototype." ++ ·) [("increment", "increment")])
        .scheduled "constructor"
      ∧ ¬ OnlyDeclared
        (.ofLiteral ("Object.prototype." ++ ·) [("increment", "increment")])
        .scheduled "decrement" := by
  refine ⟨?_, ?_, ?_, ?_⟩
  · intro h
    cases h.called "Object.prototype.toString" (by rfl)
  · intro h
    cases h.called "Object.prototype.toString" (by rfl)
  · intro h
    cases h.called "Object.prototype.constructor" (by rfl)
  · intro h
    cases h.refused (by rfl)

/-- Of actions that are written as an object literal the names at fault are
those of the functions of `Object.prototype`. -/
theorem only_declared_literal (native : String → F)
    (actions : List (String × F)) {path : ActionPath} {actionName : String}
    (hpath : path ≠ .scheduled) :
    OnlyDeclared (.ofLiteral native actions) path actionName
      ↔ actionName ∈ actions.map Prod.fst
        ∨ actionName ∉ Object.prototypeFunctions := by
  have hown : (ofLiteral native actions).actions.hasOwn actionName = true
      ↔ actionName ∈ actions.map Prod.fst := by
    rw [Object.hasOwn_iff]
    show actionName ∈ (actions.map _).map Prod.fst ↔ _
    rw [List.map_map]
    rfl
  have hinherits : (ofLiteral native actions).inheritsFunction actionName
        = false ↔ actionName ∉ Object.prototypeFunctions := by
    rw [← Bool.not_eq_true, inheritsFunction_iff]
    unfold ofLiteral
    dsimp only
    rw [Object.inherited_plain]
    by_cases hproto : actionName = "__proto__"
    · rw [hproto]
      simp [Object.prototypeFunctions]
    · rw [if_neg hproto]
      simp
  rw [only_declared_iff]
  exact or_congr hown ⟨fun h => hinherits.1 h.2, fun h => ⟨hpath, hinherits.2 h⟩⟩

-- ============================================================ beyond the call

/-- A request has not begun, or it was answered with `ActionNotFound`. -/
def NotFoundReply {V : Type v} (r : ActionSetup V) (s : ActionReply V) :
    Prop :=
  (s.phase = .idle ∧ s.sent = [])
    ∨ (s.phase = .done ∧ ∃ metadata, s.sent =
        [.error "action_not_found"
          ("Action '" ++ r.name
            ++ "' not found. Validate the action exists on your actor.")
          metadata r.id])

/-- The answer to a request whose name is not found. -/
theorem start_notFound {V : Type v} {invoke : F → V → Called V}
    {r : ActionSetup V} {args : V} (hready : r.ready = true)
    (hargs : r.args = .ok args)
    (hnot : config.executeAction r.name = .actionNotFound r.name)
    {s : ActionReply V} (hsent : s.sent = []) :
    (s.start (config.request invoke r)).phase = .done
      ∧ ∃ metadata, (s.start (config.request invoke r)).sent =
        [.error "action_not_found"
          ("Action '" ++ r.name
            ++ "' not found. Validate the action exists on your actor.")
          metadata r.id] := by
  obtain ⟨metadata, hmetadata⟩ := r.cbor.encode_undefined
  have hrequest : config.request invoke r = { r with action := none } := by
    unfold request
    rw [hnot]
    rfl
  have hstart : s.start (config.request invoke r)
      = { s with
          phase := .done
          sent := s.sent ++
            [.error "action_not_found"
              ("Action '" ++ r.name
                ++ "' not found. Validate the action exists on your actor.")
              metadata r.id] } := by
    rw [hrequest]
    simp [ActionReply.start, hargs, ActionReply.callAction, hready,
      ActionReply.replyError, Raised.actionNotFound, Raised.publicError,
      Raised.deconstructError, Raised.expose, hmetadata]
  rw [hstart, hsent]
  exact ⟨rfl, metadata, rfl⟩

/-- That is all that becomes of the request of a connection whose name is
not found. -/
theorem not_found_replied {V : Type v} {invoke : F → V → Called V}
    {r : ActionSetup V} {args : V} (hready : r.ready = true)
    (hargs : r.args = .ok args)
    (hnot : config.executeAction r.name = .actionNotFound r.name)
    {s : ActionReply V}
    (h : (replySystem (config.request invoke r)).Reachable s) :
    NotFoundReply r s := by
  refine System.Reaches.invariant (P := NotFoundReply r) ?_ ?_ h
  · rintro s rfl
    exact .inl ⟨rfl, rfl⟩
  · intro s a s' _ hinv _ hstep
    cases a with
    | start =>
        simp only [replySystem, replyStep] at hstep
        split at hstep
        · rename_i hphase
          obtain rfl := Option.some.inj hstep
          obtain ⟨-, hsent⟩ | ⟨hdone, -⟩ := hinv
          · exact .inr (start_notFound hready hargs hnot hsent)
          · rw [hphase] at hdone
            cases hdone
        · cases hstep
    | actionSettles result =>
        obtain ⟨hphase, hsent⟩ | ⟨hphase, hsent⟩ := hinv
        · simp [replySystem, replyStep, ActionReply.actionSettles, hphase]
            at hstep
        · simp [replySystem, replyStep, ActionReply.actionSettles, hphase]
            at hstep
          rw [← hstep]
          exact .inr ⟨hphase, hsent⟩
    | timeout =>
        obtain ⟨hphase, hsent⟩ | ⟨hphase, hsent⟩ := hinv
        · simp [replySystem, replyStep, ActionReply.timeout, hphase] at hstep
        · simp [replySystem, replyStep, ActionReply.timeout, hphase] at hstep
          rw [← hstep]
          exact .inr ⟨rfl, hsent⟩
    | hookSettles result =>
        obtain ⟨hphase, hsent⟩ | ⟨hphase, hsent⟩ := hinv <;>
          simp [replySystem, replyStep, ActionReply.hookSettles, hphase]
            at hstep
    | thenableSettles result =>
        obtain ⟨hphase, hsent⟩ | ⟨hphase, hsent⟩ := hinv <;>
          simp [replySystem, replyStep, ActionReply.thenableSettles, hphase]
            at hstep

/-- What a call of `_onAlarm` has called was found. -/
def CallsFound {V : Type} (config : ActionsConfig F) (run : OnAlarmCall V) :
    Prop :=
  ∀ call ∈ run.ran, ∃ f, config.actions.get call.1 = some (.function f)

/-- The loop calls an action that it has found. -/
theorem CallsFound.runEvents {V : Type}
    {decodeArgs : Bytes → Except (Raised V) (List V)}
    (events : List PersistedScheduleEvent) :
    ∀ {run : OnAlarmCall V}, CallsFound config run →
      CallsFound config (runEvents (config.alarmConfig decodeArgs) run
        events) := by
  induction events with
  | nil => exact fun h => h
  | cons event events ih =>
      intro run h
      unfold RivetKit.Actor.runEvents
      split
      · rename_i haction
        split
        · rename_i args hargs
          intro call hcall
          rcases List.mem_append.1 hcall with hcall | hcall
          · exact h call hcall
          · rw [List.mem_singleton.1 hcall]
            have hfound : (config.alarmAction
                (eventAction event)).function?.isSome = true := haction
            cases hlookup : config.alarmAction (eventAction event) with
            | call f =>
                exact ⟨f, (@lookUp_call_iff F config .scheduled _ f).1 hlookup⟩
            | actionNotFound name =>
                rw [hlookup] at hfound
                cases hfound
            | error message =>
                rw [hlookup] at hfound
                cases hfound
        · split
          · exact ih h
          · exact h
      · exact ih h

/-- The calls of `_onAlarm` in a list, one of them replaced. -/
theorem callsFound_set {V : Type} {runs : List (OnAlarmCall V)} {k : Nat}
    {next : OnAlarmCall V} (h : ∀ run ∈ runs, CallsFound config run)
    (hnext : CallsFound config next) :
    ∀ run ∈ runs.set k next, CallsFound config run := by
  intro run hmem
  rcases List.mem_or_eq_of_mem_set hmem with hmem | heq
  · exact h run hmem
  · rw [heq]
    exact hnext

/-- `_onAlarm` calls only what its look-up finds. -/
theorem alarm_calls_found {V : Type}
    {decodeArgs : Bytes → Except (Raised V) (List V)} {s : AlarmSchedule V}
    (h : (onAlarmSystem (config.alarmConfig decodeArgs)).Reachable s) :
    ∀ run ∈ s.runs, CallsFound config run := by
  refine System.Reaches.invariant
    (P := fun s : AlarmSchedule V => ∀ run ∈ s.runs, CallsFound config run)
    ?_ ?_ h
  · rintro s ⟨events, rfl⟩ run hrun
    cases hrun
  · intro s a s' _ hinv _ hstep
    cases a with
    | scheduleEvent event =>
        obtain rfl := Option.some.inj hstep
        exact hinv
    | onAlarm now =>
        obtain rfl := Option.some.inj hstep
        intro run hrun
        rcases List.mem_append.1 hrun with hrun | hrun
        · exact hinv run hrun
        · rw [List.mem_singleton.1 hrun]
          have hempty : CallsFound config ({
              pc := .settingAlarm
              left := dueEvents s.scheduledEvents now } : OnAlarmCall V) := by
            intro call hcall
            cases hcall
          split
          · exact hempty.runEvents _
          · exact hempty
    | alarmSet k =>
        have hstep : s.alarmSet (config.alarmConfig decodeArgs) k
            = some s' := hstep
        unfold AlarmSchedule.alarmSet at hstep
        split at hstep
        · rename_i run hk
          split at hstep
          · obtain rfl := Option.some.inj hstep
            refine callsFound_set hinv ?_
            exact (hinv run (List.mem_of_getElem? hk)).runEvents _
          · cases hstep
        · cases hstep
    | actionEnds k error =>
        have hstep : s.actionEnds (config.alarmConfig decodeArgs) k error
            = some s' := hstep
        unfold AlarmSchedule.actionEnds at hstep
        split at hstep
        · rename_i run hk
          have hrun := hinv run (List.mem_of_getElem? hk)
          split at hstep
          · split at hstep
            · obtain rfl := Option.some.inj hstep
              exact callsFound_set hinv (hrun.runEvents _)
            · obtain rfl := Option.some.inj hstep
              exact callsFound_set hinv hrun
          · cases hstep
        · cases hstep

end ActionsConfig

end RivetKit.Actor
