/-
One instance at a time under the file-system driver (`one_instance`).

# The argument

`sleepActor` removes the entry from the map when `_stop` has resolved, and
only then may a newer instance read the record. By then `_stop` has waited
for `onStop` and the background promises, for the drain loop of the persist
queue and for the alarm queue; what it does not wait for, or not long
enough, is what the guard speaks of. An instance that has stopped so
starts no write but for a save that finds something to write.
-/
import RivetKit.Actor.PersistSchema
import RivetKit.Drivers.FileSystem.Proofs.InstanceSteps

namespace RivetKit.Drivers.FileSystem

open Transition
open Actor
open Js
open ActorInstances

variable {codec : PersistCodec} {opts : ActorOptions}
  {s s' : ActorInstances} {i : Nat}

-- =========================================================== sleepActor

/-- Every call of `sleepActor` but the one at `k` has ended. -/
def OthersEnded (s : ActorInstances) (k : Nat) : Prop :=
  ∀ (k' : Nat) call, s.sleeps[k']? = some call → call.pc ≠ .ended → k' = k

theorem SleepsOk.othersEnded (h : SleepsOk s) {k : Nat} {call : SleepCall}
    (hk : s.sleeps[k]? = some call) (hpc : call.pc ≠ .ended) :
    OthersEnded s k :=
  fun k' call' hk' hpc' => h.single k' k call' call hk' hk hpc' hpc

/-- The invariant where the calls of `sleepActor` change. -/
theorem InstancesInv.resleep (h : InstancesInv s) {sleeps : List SleepCall}
    (hsleeps : SleepsOk { s with sleeps := sleeps }) :
    InstancesInv { s with sleeps := sleeps } := by
  refine h.owned ⟨rfl, fun _ => rfl, Or.inl ⟨rfl, rfl⟩⟩
    (fun _ _ _ _ => rfl) hsleeps h.entries.starts h.applied

/-- The call under way, where the others have ended. -/
theorem OthersEnded.setSleep {k k' : Nat} {call call' : SleepCall}
    {pc : SleepPc} (h : OthersEnded s k) (hk : s.sleeps[k]? = some call)
    (hk' : (s.setSleep k pc).sleeps[k']? = some call')
    (hpc : call'.pc ≠ .ended) :
    k' = k ∧ call' = { call with pc := pc } := by
  rcases Lists.getElem?_modify_cases hk' with ⟨hk', hne⟩ |
    ⟨hkk, old, hold, heq⟩
  · exact absurd (h k' call' hk' hpc) hne
  · rw [hk] at hold
    rw [heq, Option.some.inj hold]
    exact ⟨hkk, rfl⟩

/-- One call moves on, and the others have ended. -/
theorem InstancesInv.setSleep (h : InstancesInv s) {k : Nat}
    {call : SleepCall} {pc : SleepPc} (hk : s.sleeps[k]? = some call)
    (hothers : OthersEnded s k) (hactors : s.actors = some call.entry)
    (hok : pc ≠ .ended → SleepOk s call.entry pc) :
    InstancesInv (s.setSleep k pc) := by
  have howned : Owned s (s.setSleep k pc) :=
    ⟨rfl, fun _ => rfl, Or.inl ⟨rfl, rfl⟩⟩
  refine h.resleep ?_
  constructor
  case current =>
    intro call' hcall hpc
    obtain ⟨k', hk'⟩ := List.mem_iff_getElem?.1 hcall
    obtain ⟨-, heq⟩ := hothers.setSleep hk hk' hpc
    rw [heq] at hpc ⊢
    exact ⟨hactors, howned.sleepOk (hok hpc)⟩
  case single =>
    intro k₁ k₂ call₁ call₂ hk₁ hk₂ hpc₁ hpc₂
    rw [(hothers.setSleep hk hk₁ hpc₁).1, (hothers.setSleep hk hk₂ hpc₂).1]

/-- `sleepActor` calls `_stop` of the instance of the entry, which is
behind `#initialize`. -/
theorem InstancesInv.sleepStop (h : InstancesInv s) {k e : Nat}
    {pc : SleepPc} (hk : s.sleeps[k]? = some ⟨e, pc⟩)
    (hothers : OthersEnded s k) (hactors : s.actors = some e)
    (hopen : NotStopping s e)
    (hearly : ∀ inst, s.actorOf e = some inst →
      inst.stage.early = false) :
    InstancesInv (s.sleepStop k e) := by
  have hends : InstancesInv (s.setSleep k .ended) :=
    h.setSleep hk hothers hactors (fun hne => absurd rfl hne)
  unfold ActorInstances.sleepStop
  split
  case h_1 => exact hends
  case h_2 i howner =>
    split
    case h_1 => exact hends
    case h_2 body hread =>
      obtain ⟨inst, hi, hbody⟩ := Option.bind_eq_some_iff.1 hread
      have hentry := h.entry_eq hi howner
      have hat : s.actorOf e = some inst := (actorOf_eq howner).trans hi
      have hfalse := hopen inst body hat hbody
      rw [if_neg (by rw [hfalse]; simp)]
      have hok := h.instances i inst hi
      have hstop : body.stop.write = body.write := by
        unfold StoppingInstance.stop
        split
        · rfl
        · rfl
      have hawait : InstancesInv (s.setSleep k (.awaitStop i)) :=
        h.setSleep hk hothers hactors (fun _ => howner)
      have hstopping : InstancesInv
          ((s.setSleep k (.awaitStop i)).modifyInstance i fun inst =>
            { inst with
              body := some body.stop
              userCode := { inst.userCode with onStop := true } }) := by
        have hstage : inst.stage ≠ .initializing := by
          intro hinit
          have hstage := hearly inst hat
          rw [hinit] at hstage
          cases hstage
        refine hawait.modify hi ⟨rfl, fun hstage => hstage, ?_, ?_⟩ ?_
        · intro hgone
          rw [hentry] at hgone
          exact absurd hactors hgone
        · constructor
          case blank =>
            intro e' load hreading
            rw [hok.blank e' load hreading] at hbody
            cases hbody
          case fresh => exact fun hinit => absurd hinit hstage
          case flight =>
            intro body' snapshot hbody' hflight
            rw [← Option.some.inj hbody', hstop] at hflight
            exact hok.flight body snapshot hbody hflight
          case driver =>
            intro hsome
            obtain ⟨body', snapshot, hbody', hflight⟩ :=
              (hok.driver hsome).resolve_left hstage
            rw [hbody] at hbody'
            rw [← Option.some.inj hbody', ← hstop] at hflight
            exact Or.inr ⟨body.stop, snapshot, rfl, hflight⟩
          case unread => exact fun hnone => nomatch hnone
          case body =>
            intro body' hbody'
            rw [← Option.some.inj hbody']
            exact (hok.body body hbody).stop hfalse
        · constructor
          case current =>
            intro call hcall hpc
            obtain ⟨k', hk'⟩ := List.mem_iff_getElem?.1 hcall
            obtain ⟨-, heq⟩ := hothers.setSleep hk hk' hpc
            rw [heq]
            exact ⟨hactors, howner⟩
          case single => exact hawait.sleeps.single
      exact hstopping

theorem InstancesInv.sleepStart (h : InstancesInv s) {k e : Nat}
    {pc : SleepPc} (hk : s.sleeps[k]? = some ⟨e, pc⟩)
    (hothers : OthersEnded s k) (hactors : s.actors = some e)
    (hopen : NotStopping s e) : InstancesInv (s.sleepStart k e) := by
  unfold ActorInstances.sleepStart
  split
  case isTrue => exact h.setSleep hk hothers hactors (fun _ => hopen)
  case isFalse hstart =>
    refine h.sleepStop hk hothers hactors hopen ?_
    intro inst hinst
    obtain ⟨i, howner, hi⟩ := Option.bind_eq_some_iff.1 hinst
    have hentry := h.entry_eq hi howner
    cases hstage : inst.stage.early with
    | false => rfl
    | true =>
        have hpromise := (h.instances i inst hi).early hstage
        rw [hentry] at hpromise
        rw [hpromise] at hstart
        exact absurd rfl hstart

/-- A new call of `sleepActor`, where every other has ended. -/
theorem InstancesInv.pushSleep (h : InstancesInv s) {e : Nat} {pc : SleepPc}
    (hended : ∀ call ∈ s.sleeps, call.pc = .ended)
    (hactors : s.actors = some e) (hok : pc ≠ .ended → SleepOk s e pc) :
    InstancesInv { s with sleeps := s.sleeps ++ [⟨e, pc⟩] } := by
  have howned : Owned s { s with sleeps := s.sleeps ++ [⟨e, pc⟩] } :=
    ⟨rfl, fun _ => rfl, Or.inl ⟨rfl, rfl⟩⟩
  have hnew : ∀ (k : Nat) call, (s.sleeps ++ [⟨e, pc⟩])[k]? = some call →
      call.pc ≠ .ended → k = s.sleeps.length ∧ call = ⟨e, pc⟩ := by
    intro k call hk hpc
    rcases Lists.getElem?_concat hk with hold | hnew
    · exact absurd (hended call (List.mem_of_getElem? hold)) hpc
    · exact hnew
  refine h.resleep ?_
  constructor
  case current =>
    intro call hcall hpc
    obtain ⟨k, hk⟩ := List.mem_iff_getElem?.1 hcall
    obtain ⟨-, heq⟩ := hnew k call hk hpc
    rw [heq] at hpc ⊢
    exact ⟨hactors, howned.sleepOk (hok hpc)⟩
  case single =>
    intro k₁ k₂ call₁ call₂ hk₁ hk₂ hpc₁ hpc₂
    rw [(hnew k₁ call₁ hk₁ hpc₁).1, (hnew k₂ call₂ hk₂ hpc₂).1]

theorem InstancesInv.sleepActor (h : InstancesInv s)
    (hsafe : instancesSafe s .sleepActor)
    (hstep : s.sleepActor = some s') : InstancesInv s' := by
  obtain ⟨hended, hcalled⟩ := hsafe
  unfold ActorInstances.sleepActor at hstep
  split at hstep
  case h_1 => cases hstep
  case h_2 e he =>
    have hopen : NotStopping s e :=
      fun inst body hinst hbody => hcalled e inst body he hinst hbody
    dsimp only at hstep
    split at hstep
    · rw [← Option.some.inj hstep]
      exact h.pushSleep hended he (fun _ => hopen)
    · rw [← Option.some.inj hstep]
      have hpush : InstancesInv
          { s with sleeps := s.sleeps ++ [⟨e, .ended⟩] } :=
        h.pushSleep hended he (fun hne => absurd rfl hne)
      have hlast : (s.sleeps ++ [⟨e, .ended⟩])[s.sleeps.length]?
          = some ⟨e, .ended⟩ := by
        rw [List.getElem?_append_right (Nat.le_refl _), Nat.sub_self]
        rfl
      refine hpush.sleepStart hlast ?_ he hopen
      · intro k call hk hpc
        rcases Lists.getElem?_concat hk with hold | ⟨hk, -⟩
        · exact absurd (hended call (List.mem_of_getElem? hold)) hpc
        · exact hk

/-- The entry leaves the map when the `_stop` of its instance has
resolved. -/
theorem InstancesInv.deleteEntry (h : InstancesInv s) {k e : Nat}
    {pc : SleepPc} {inst : DriverInstance}
    (hk : s.sleeps[k]? = some ⟨e, pc⟩) (hothers : OthersEnded s k)
    (hactors : s.actors = some e) (hinst : s.actorOf e = some inst)
    (hstopped : inst.Stopped) :
    InstancesInv { s.setSleep k .ended with actors := none } := by
  have hends : InstancesInv (s.setSleep k .ended) :=
    h.setSleep hk hothers hactors (fun hne => absurd rfl hne)
  constructor
  case entries =>
    constructor
    case last => exact fun _ hnone => nomatch hnone
    case gone =>
      intro e' he' _
      by_cases hee : e' = e
      · rw [hee]
        exact ⟨inst, hinst, hstopped⟩
      · refine h.entries.gone e' he' ?_
        rw [hactors]
        intro heq
        exact hee (Option.some.inj heq).symm
    case made => exact h.entries.made
    case starts => exact h.entries.starts
  case sleeps =>
    constructor
    case current =>
      intro call hcall hpc
      obtain ⟨k', hk'⟩ := List.mem_iff_getElem?.1 hcall
      obtain ⟨-, heq⟩ := hothers.setSleep hk hk' hpc
      rw [heq] at hpc
      exact absurd rfl hpc
    case single => exact hends.sleeps.single
  case instances =>
    intro i inst hi
    obtain ⟨halone, hlt, howner, hearly⟩ := h.instances i inst hi
    exact ⟨halone, hlt, howner, hearly⟩
  case order => exact h.order
  case applied => exact h.applied

/-- A call of `sleepActor` goes on. -/
theorem InstancesInv.resumeSleep (h : InstancesInv s) {k : Nat}
    (hstep : s.resumeSleep k = some s') : InstancesInv s' := by
  unfold ActorInstances.resumeSleep at hstep
  split at hstep
  case h_1 e load hk =>
    obtain ⟨hactors, hopen⟩ :=
      h.sleeps.current _ (List.mem_of_getElem? hk) (by simp)
    have hothers := h.sleeps.othersEnded hk (by simp)
    split at hstep
    · rw [← Option.some.inj hstep]
      exact h.sleepStart hk hothers hactors hopen
    · rw [← Option.some.inj hstep]
      exact h.setSleep hk hothers hactors (fun hne => absurd rfl hne)
    · cases hstep
  case h_2 e hk =>
    obtain ⟨hactors, hopen⟩ :=
      h.sleeps.current _ (List.mem_of_getElem? hk) (by simp)
    have hothers := h.sleeps.othersEnded hk (by simp)
    split at hstep
    case h_2 => cases hstep
    case h_1 inst hinst =>
      split at hstep
      case isTrue hstarted =>
        rw [← Option.some.inj hstep]
        refine h.sleepStop hk hothers hactors hopen ?_
        intro inst' hinst'
        rw [hinst] at hinst'
        rw [← Option.some.inj hinst', hstarted]
        rfl
      case isFalse =>
        split at hstep
        · rw [← Option.some.inj hstep]
          exact h.setSleep hk hothers hactors (fun hne => absurd rfl hne)
        · cases hstep
  case h_3 e i hk =>
    obtain ⟨hactors, howner⟩ :=
      h.sleeps.current _ (List.mem_of_getElem? hk) (by simp)
    have hothers := h.sleeps.othersEnded hk (by simp)
    split at hstep
    case h_1 hresolved =>
      obtain ⟨body, hread, hresolved⟩ := Option.bind_eq_some_iff.1 hresolved
      obtain ⟨inst, hi, hbody⟩ := Option.bind_eq_some_iff.1 hread
      rw [← Option.some.inj hstep]
      have hinst : s.actorOf e = some inst := (actorOf_eq howner).trans hi
      exact h.deleteEntry hk hothers hactors hinst
        ⟨body, hbody, hresolved⟩
    case h_2 =>
      rw [← Option.some.inj hstep]
      exact h.setSleep hk hothers hactors (fun hne => absurd rfl hne)
    case h_3 => cases hstep
  case h_4 e hk =>
    obtain ⟨-, hfalse⟩ :=
      h.sleeps.current _ (List.mem_of_getElem? hk) (by simp)
    exact hfalse.elim
  case h_5 => cases hstep

-- ============================================================= the theorem

theorem InstancesInv.init {stateFile : Option ActorState} :
    InstancesInv { stateFile := stateFile } := by
  constructor
  case entries =>
    constructor
    case last => exact fun _ hnone => nomatch hnone
    case gone => exact fun _ hlt => absurd hlt (Nat.not_lt_zero _)
    case made =>
      intro e i howner
      cases howner
    case starts => exact fun _ _ hmem => nomatch hmem
  case sleeps =>
    constructor
    case current => exact fun _ hcall => nomatch hcall
    case single =>
      intro k k' call call' hk
      cases hk
  case instances =>
    intro i inst hi
    cases hi
  case order =>
    intro i j a b ha
    cases ha
  case applied => exact fun _ hw => nomatch hw

/-- Each step preserves the invariant. -/
theorem InstancesInv.step (h : InstancesInv s) {a : InstanceStep}
    (hsafe : instancesSafe s a)
    (hstep : instanceStep codec opts s a = some s') : InstancesInv s' := by
  cases a with
  | loadActor =>
      rw [← Option.some.inj hstep]
      exact h.loadActor
  | readFile load ok => exact h.readFile hstep
  | loadActorState load => exact h.loadActorState hstep
  | startActor =>
      rw [← Option.some.inj hstep]
      exact h.startActor
  | resumeStart k instantiates => exact h.resumeStart hstep
  | readPersistedData i => exact h.readPersistedData hstep
  | initialWrite i state => exact h.initialWrite hstep
  | initialWritten i => exact h.initialWritten hstep
  | startEnds i ok => exact h.startEnds hstep
  | live i a => exact h.live hsafe hstep
  | resumeWrite i => exact h.resumeWrite hstep
  | rename i ok => exact h.rename hstep
  | queueSetAlarm i => exact h.queueSetAlarm hsafe hstep
  | renameAlarm i ok => exact h.renameAlarm hstep
  | deadline i => exact h.deadline hsafe hstep
  | userCode i => exact h.userCode hsafe hstep
  | waitUntil i => exact h.waitUntil hstep
  | userCodeEnds i kind => exact h.userCodeEnds hstep
  | sleepActor => exact h.sleepActor hsafe hstep
  | resumeSleep k => exact h.resumeSleep hstep

theorem instancesInv_of_reaches
    (h : (instanceSystem codec opts).Reaches instancesSafe s) :
    InstancesInv s := by
  refine h.invariant ?_ ?_
  · rintro _ ⟨stateFile, rfl⟩
    exact InstancesInv.init
  · intro t a t' _ hinv hsafe hstep
    exact hinv.step hsafe hstep

/-- Of two instances that run user code none is the older one. -/
theorem InstancesInv.userCode_unique (h : InstancesInv s) {i j : Nat}
    {a b : DriverInstance} (ha : s.instances[i]? = some a)
    (hb : s.instances[j]? = some b) (hrun : a.userCode.runs = true)
    (hrun' : b.userCode.runs = true) : ¬ i < j := by
  intro hlt
  have hread : b.body.isSome = true := by
    cases hbody : b.body with
    | none =>
        rw [(h.instances j b hb).unread hbody] at hrun'
        cases hrun'
    | some body => rfl
  rw [(h.superseded_quiet ha ⟨j, b, hlt, hb, hread⟩).userCode] at hrun
  cases hrun

/-- Under the guard no write of an instance is applied when a newer one
has read its record, and one instance at most is running user code. -/
theorem one_instance
    (h : (instanceSystem codec opts).Reaches instancesSafe s) :
    s.OneInstance := by
  have hinv := instancesInv_of_reaches h
  constructor
  case applied => exact hinv.applied
  case userCode =>
    intro i j a b ha hb hrun hrun'
    have hle := hinv.userCode_unique ha hb hrun hrun'
    have hge := hinv.userCode_unique hb ha hrun' hrun
    omega

/-- An actor whose state is a switch. -/
def switchState : ActorState :=
  ⟨"f1c3", "switch", [], 1700000000000,
    [1, 0, 0, 0, 1, 1, 0xf6, 1, 1, 0xf4, 0, 0]⟩

/-- `startActor` makes the instance `i`, which reads its record. -/
def startInstance (i : Nat) : List InstanceStep :=
  [.startActor, .readFile i true, .loadActorState i, .resumeStart i true,
    .readPersistedData i, .startEnds i true]

/-- An action turns the switch on and gives `waitUntil` a promise. `_stop`
waits for its hook and the promise and writes the state, and the actor
starts again. -/
def restart : List InstanceStep :=
  startInstance 0
    ++ [.userCode 0, .live 0 turnOn, .userCodeEnds 0 .other, .waitUntil 0,
      .live 0 (.save .sleepCalled), .sleepActor, .resumeSleep 0,
      .userCodeEnds 0 .onStop, .live 0 .onStopEnds,
      .userCodeEnds 0 .backgroundPromise, .live 0 .backgroundEnds,
      .resumeWrite 0, .rename 0 true, .live 0 (.save (.driverWrite true)),
      .live 0 (.save .drainLoop), .live 0 (.save (.resumeInner 0)),
      .live 0 (.save (.resumeSaveState 0)), .live 0 .saveStateEnds,
      .live 0 .closed, .live 0 .alarmQueueEnds, .resumeSleep 0]
    ++ startInstance 1 ++ [.userCode 1]

theorem one_instance_restart :
    ∃ s, (instanceSystem schemaCodec ⟨1000⟩).run
        { stateFile := some switchState } restart = some s
      ∧ s.applied = [⟨0, [0]⟩] ∧ s.OneInstance := by
  refine ⟨_, rfl, rfl, ?_⟩
  refine @one_instance schemaCodec ⟨1000⟩ _ ?_
  refine System.Reaches.run restart (.init ⟨some switchState, rfl⟩) ?_ rfl
  have hstops : ∀ {inst : DriverInstance} {body : StoppingInstance},
      inst.body = some body → body.stopPc = none → ¬ inst.Stopped := by
    intro inst body hbody hpc hstopped
    obtain ⟨body', hbody', hresolved⟩ := hstopped
    rw [hbody] at hbody'
    rw [← Option.some.inj hbody', hpc] at hresolved
    cases hresolved
  -- no step but those of `sleepActor`, user code and `_stop` has a guard
  refine ⟨trivial, trivial, trivial, trivial, trivial, trivial, ?_,
    fun hasks => (nomatch hasks), trivial, trivial,
    fun hasks => (nomatch hasks), ?_, trivial, trivial,
    fun hasks => (nomatch hasks), trivial, fun hasks => (nomatch hasks),
    trivial, trivial, fun hasks => (nomatch hasks),
    fun hasks => (nomatch hasks), fun hasks => (nomatch hasks),
    fun hasks => (nomatch hasks), fun hasks => (nomatch hasks),
    fun hasks => (nomatch hasks), ?_, trivial, trivial, trivial, trivial,
    trivial, trivial, trivial, ?_, trivial⟩
  · intro inst hinst
    rw [← Option.some.inj hinst]
    exact hstops rfl rfl
  · refine ⟨(fun _ hcall => nomatch hcall), ?_⟩
    intro e inst body he hinst hbody
    rw [← Option.some.inj he] at hinst
    rw [← Option.some.inj hinst] at hbody
    rw [← Option.some.inj hbody]
    rfl
  · intro inst hinst
    rw [← Option.some.inj hinst]
    rfl
  · intro inst hinst
    rw [← Option.some.inj hinst]
    exact hstops rfl rfl

/-- An action is running on an instance when it sleeps, and one of its
sockets has not closed. The actor starts again; then the action turns the
switch on, and the socket closes. -/
def lateClose : List InstanceStep :=
  startInstance 0
    ++ [.live 0 (.live
        (.createConn "c" "t" .null .null .webSocket .null .null)),
      .userCode 0, .live 0 (.save .sleepCalled), .sleepActor,
      .resumeSleep 0, .userCodeEnds 0 .onStop, .live 0 .onStopEnds,
      .live 0 .backgroundEnds, .live 0 .saveStateEnds, .live 0 .closed,
      .live 0 .alarmQueueEnds, .resumeSleep 0]
    ++ startInstance 1
    ++ [.userCode 1, .live 0 turnOn, .live 0 (.live (.removeConn 0)),
      .resumeWrite 0, .rename 0 true]

/-- The save of `__removeConn` is applied over what the new instance has
read, and the two instances run user code. -/
theorem stopped_instance_writes :
    ∃ s, (instanceSystem schemaCodec ⟨1000⟩).Reachable s
      ∧ s.applied = [⟨0, [0, 1]⟩]
      ∧ s.instances.map (·.userCode.others) = [1, 1]
      ∧ ¬ s.OneInstance := by
  have hreach : ∀ s, (instanceSystem schemaCodec ⟨1000⟩).run
      { stateFile := some switchState } lateClose = some s →
      (instanceSystem schemaCodec ⟨1000⟩).Reachable s :=
    fun s hrun => System.Reachable.run lateClose (.init ⟨_, rfl⟩) hrun
  refine ⟨_, hreach _ rfl, rfl, rfl, ?_⟩
  intro h
  have hle : 1 ≤ 0 := h.applied ⟨0, [0, 1]⟩ (.head _) 1 (.tail _ (.head _))
  omega

end RivetKit.Drivers.FileSystem
