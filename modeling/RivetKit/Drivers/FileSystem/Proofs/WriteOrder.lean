/-
The state file and the order in which the writes of one actor were issued
(`last_write_held`). The instance has one write under way at a time, so
its writes cannot overtake each other. What they can overtake is the
write of the state just created: the entry has the state before its write
ends, a second caller goes on at once, and the instance that it starts
writes while the first write is still pending.

# The invariant

A write of a created state is the first one issued (`initialFirst`), as a
creation finds the entry without a state and before that there is no
instance. A pending write of the instance is the last one issued and the
one it awaits (`current`). So a rename that is not of the last write is
that of the first.
-/
import RivetKit.Drivers.FileSystem.Proofs.SingleState

namespace RivetKit.Drivers.FileSystem

open Transition
open Actor
open Js

variable {ser : Serializer}

namespace StateCalls

variable {s s' : StateCalls}

-- ============================================== what the calls can change

/-- Neither the writes nor the file change, and the entry keeps that it
has a state. -/
structure Quiet (s s' : StateCalls) : Prop where
  writes : s'.writes = s.writes
  stateFile : s'.stateFile = s.stateFile
  actor : s'.upsertEntry.actor = s.upsertEntry.actor
  state : s.upsertEntry.state.isSome = true →
    s'.upsertEntry.state.isSome = true

/-- The entry gets its first state, and a write of it is issued unless
nothing is persisted. -/
structure Creates (s s' : StateCalls) : Prop where
  before : s.upsertEntry.state = none
  state : s'.upsertEntry.state.isSome = true
  actor : s'.upsertEntry.actor = s.upsertEntry.actor
  stateFile : s'.stateFile = s.stateFile
  writes : s'.writes = s.writes
    ∨ ∃ state, s'.writes = s.writes ++ [{ state, initial := true }]

theorem loadActor_quiet (s : StateCalls) : Quiet s s.loadActor.1 := by
  rcases s.loadActor_cases with ⟨heq, -⟩ | ⟨load, heq⟩ | ⟨-, heq⟩
  all_goals
    rw [heq]
    exact ⟨rfl, rfl, rfl, fun h => h⟩

theorem create_creates (c : Nat) (params : CreateParams) (now : Nat)
    (hstate : s.upsertEntry.state = none) :
    Creates s (s.create ser c params now).1 := by
  obtain ⟨writes, heq, hwrites⟩ := s.create_cases ser c params now
  rw [heq]
  refine ⟨hstate, rfl, rfl, rfl, ?_⟩
  rcases hwrites with hsame | hissued
  · exact Or.inl hsame
  · exact Or.inr ⟨_, hissued⟩

theorem createActor_cases {params : CreateParams} {now : Nat} :
    Quiet s (s.createActor ser params now)
      ∨ Creates s (s.createActor ser params now) := by
  unfold createActor
  by_cases hentry : s.entry.isSome = true
  · rw [if_pos hentry]
    exact Or.inl ⟨rfl, rfl, rfl, fun h => h⟩
  · rw [if_neg hentry]
    have hstate : s.upsertEntry.state = none := by
      unfold upsertEntry
      cases hcase : s.entry with
      | none => rfl
      | some entry =>
          rw [hcase] at hentry
          exact absurd rfl hentry
    obtain ⟨hbefore, hsome, hactor, hfile, hwrites⟩ := @create_creates ser s
      s.calls.length params now hstate
    exact Or.inr ⟨hbefore, hsome, hactor, hfile, hwrites⟩

theorem afterLoad_cases {c now : Nat} {params : CreateParams} :
    Quiet s (s.afterLoad ser c params now)
      ∨ Creates s (s.afterLoad ser c params now) := by
  unfold afterLoad
  split
  case h_1 => exact Or.inl ⟨rfl, rfl, rfl, fun h => h⟩
  case h_2 hstate =>
    obtain ⟨hbefore, hsome, hactor, hfile, hwrites⟩ :=
      @create_creates ser s c params now hstate
    exact Or.inr ⟨hbefore, hsome, hactor, hfile, hwrites⟩

theorem resume_cases {c now : Nat} (hstep : s.resume ser c now = some s') :
    Quiet s s' ∨ Creates s s' := by
  have hquiet : ∀ pc, Quiet s (s.setPc c pc) :=
    fun _ => ⟨rfl, rfl, rfl, fun h => h⟩
  unfold resume at hstep
  split at hstep
  · split at hstep
    · injection hstep with hstep
      rw [← hstep]
      exact afterLoad_cases
    · injection hstep with hstep
      rw [← hstep]
      exact Or.inl (hquiet _)
    · injection hstep with hstep
      rw [← hstep]
      exact Or.inl (hquiet _)
    · cases hstep
  · split at hstep
    · injection hstep with hstep
      rw [← hstep]
      exact Or.inl (hquiet _)
    · injection hstep with hstep
      rw [← hstep]
      exact Or.inl (hquiet _)
    · cases hstep
  · cases hstep

theorem readFile_quiet {load : Nat} {ok : Bool}
    (hstep : s.readFile load ok = some s') : Quiet s s' := by
  unfold readFile at hstep
  split at hstep
  · injection hstep with hstep
    rw [← hstep]
    exact ⟨rfl, rfl, rfl, fun h => h⟩
  · cases hstep

theorem loadActorState_quiet {load : Nat}
    (hstep : s.loadActorState load = some s') : Quiet s s' := by
  unfold loadActorState at hstep
  split at hstep
  · injection hstep with hstep
    rw [← hstep]
    exact ⟨rfl, rfl, rfl, fun _ => rfl⟩
  · injection hstep with hstep
    rw [← hstep]
    exact ⟨rfl, rfl, rfl, fun h => h⟩
  · cases hstep

/-- What a step of the calls does to the writes, unless it ends one. -/
theorem stateStep_cases {a : StateStep}
    (hstep : stateStep ser s a = some s')
    (hend : ∀ w ok, a ≠ .endWrite w ok) : Quiet s s' ∨ Creates s s' := by
  cases a with
  | createActor params now =>
      injection hstep with hstep
      rw [← hstep]
      exact createActor_cases
  | loadActor =>
      injection hstep with hstep
      obtain ⟨hwrites, hfile, hactor, hstate⟩ := s.loadActor_quiet
      rw [← hstep]
      exact Or.inl ⟨hwrites, hfile, hactor, hstate⟩
  | loadOrCreateActor params =>
      injection hstep with hstep
      obtain ⟨hwrites, hfile, hactor, hstate⟩ := s.loadActor_quiet
      rw [← hstep]
      exact Or.inl ⟨hwrites, hfile, hactor, hstate⟩
  | readFile load ok => exact Or.inl (readFile_quiet hstep)
  | loadActorState load => exact Or.inl (loadActorState_quiet hstep)
  | resume c now => exact resume_cases hstep
  | endWrite w ok => exact absurd rfl (hend w ok)

/-- The end of a write that was pending. -/
theorem endWrite_cases {w : Nat} {ok : Bool}
    (hstep : s.endWrite w ok = some s') :
    ∃ state initial, s.writes[w]? = some ⟨state, initial, .pending⟩
      ∧ s'.entry = s.entry
      ∧ if ok then
          s'.writes = s.writes.set w ⟨state, initial, .renamed⟩
            ∧ s'.stateFile = some state
        else
          s'.writes = s.writes.set w ⟨state, initial, .failed⟩
            ∧ s'.stateFile = s.stateFile := by
  unfold endWrite at hstep
  split at hstep
  case h_2 => cases hstep
  case h_1 state initial hw =>
    cases ok with
    | true =>
        injection hstep with hstep
        rw [← hstep]
        exact ⟨state, initial, hw, rfl, rfl, rfl⟩
    | false =>
        injection hstep with hstep
        rw [← hstep]
        exact ⟨state, initial, hw, rfl, rfl, rfl⟩

end StateCalls

-- =========================================================== the invariant

/-- The invariant of the writes. `held` is what the guard keeps. -/
structure WriterInv (s : RunningActor) : Prop where
  noState : s.store.upsertEntry.state = none →
    s.store.writes = [] ∧ s.store.upsertEntry.actor = false
  initialFirst : ∀ (w : Nat) write, s.store.writes[w]? = some write →
    write.initial = true → w = 0
  current : ∀ (w : Nat) write, s.store.writes[w]? = some write →
    write.initial = false → write.phase = .pending →
    s.writer = .awaitWrite (some w) ∧ w + 1 = s.store.writes.length
  held : ∀ last, s.store.writes.getLast? = some last →
    last.phase = .renamed →
    (∃ other ∈ s.store.writes, other.phase = .failed)
      ∨ s.store.stateFile = some last.state

namespace WriterInv

variable {s s' : RunningActor}

/-- The writes and the file stay, and a pending write of the instance is
still awaited. -/
theorem congr (h : WriterInv s)
    (hwrites : s'.store.writes = s.store.writes)
    (hfile : s'.store.stateFile = s.store.stateFile)
    (hstate : s'.store.upsertEntry.state = none →
      s.store.upsertEntry.state = none
        ∧ s'.store.upsertEntry.actor = s.store.upsertEntry.actor)
    (hwriter : ∀ (w : Nat) write, s.store.writes[w]? = some write →
      write.phase = .pending → s.writer = .awaitWrite (some w) →
      s'.writer = .awaitWrite (some w)) : WriterInv s' := by
  constructor
  case noState =>
    intro hnone
    obtain ⟨hbefore, hactor⟩ := hstate hnone
    rw [hwrites, hactor]
    exact h.noState hbefore
  case initialFirst =>
    rw [hwrites]
    exact h.initialFirst
  case current =>
    rw [hwrites]
    intro w write hw hinitial hpending
    obtain ⟨hthis, hlast⟩ := h.current w write hw hinitial hpending
    exact ⟨hwriter w write hw hpending hthis, hlast⟩
  case held =>
    rw [hwrites, hfile]
    exact h.held

/-- A quiet step of the calls. -/
theorem quiet (h : WriterInv s) {store : StateCalls}
    (hquiet : StateCalls.Quiet s.store store) (starts : List CallPc) :
    WriterInv { s with store := store, starts := starts } := by
  apply h.congr hquiet.writes hquiet.stateFile
  · intro hnone
    refine ⟨?_, hquiet.actor⟩
    cases hstate : s.store.upsertEntry.state with
    | none => rfl
    | some state =>
        have hsome := hquiet.state (by rw [hstate]; rfl)
        have hnone' : store.upsertEntry.state = none := hnone
        rw [hnone'] at hsome
        cases hsome
  · exact fun _ _ _ _ hthis => hthis

/-- A write is issued where no write of the instance is pending. -/
theorem issue (h : WriterInv s) {state : ActorState} {initial : Bool}
    (hwrites : s'.store.writes
      = s.store.writes ++ [⟨state, initial, .pending⟩])
    (hstate : s'.store.upsertEntry.state.isSome = true)
    (hfirst : initial = true → s.store.writes = [])
    (hidle : ∀ write ∈ s.store.writes, write.initial = false →
      write.phase ≠ .pending)
    (hwriter : initial = false →
      s'.writer = .awaitWrite (some s.store.writes.length)) :
    WriterInv s' := by
  constructor
  case noState =>
    intro hnone
    rw [hnone] at hstate
    cases hstate
  case initialFirst =>
    intro w write hw hinitial
    rw [hwrites] at hw
    rcases Lists.getElem?_concat hw with hold | ⟨hw', hnew⟩
    · exact h.initialFirst w write hold hinitial
    · rw [hnew] at hinitial
      rw [hw', hfirst hinitial]
      rfl
  case current =>
    intro w write hw hinitial hpending
    rw [hwrites] at hw ⊢
    rcases Lists.getElem?_concat hw with hold | ⟨hw', hnew⟩
    · exact absurd hpending
        (hidle write (List.mem_of_getElem? hold) hinitial)
    · rw [hnew] at hinitial
      rw [hw', List.length_append]
      exact ⟨hwriter hinitial, rfl⟩
  case held =>
    intro last hlast hrenamed
    rw [hwrites, List.getLast?_append] at hlast
    injection hlast with hlast
    rw [← hlast] at hrenamed
    cases hrenamed

/-- A creation. -/
theorem creates (h : WriterInv s) {store : StateCalls}
    (hcreates : StateCalls.Creates s.store store) :
    WriterInv { s with store := store } := by
  have hempty := (h.noState hcreates.before).1
  rcases hcreates.writes with hwrites | ⟨state, hwrites⟩
  · apply h.congr hwrites hcreates.stateFile
    · intro hnone
      have hsome := hcreates.state
      have hnone' : store.upsertEntry.state = none := hnone
      rw [hnone'] at hsome
      cases hsome
    · exact fun _ _ _ _ hthis => hthis
  · apply h.issue hwrites hcreates.state
    · exact fun _ => hempty
    · intro write hwrite
      rw [hempty] at hwrite
      cases hwrite
    · intro hinitial
      cases hinitial

/-- A pending write ends. -/
theorem ended (h : WriterInv s) {store : StateCalls} {w : Nat}
    {state : ActorState} {initial : Bool} {phase : FileWritePhase}
    (hw : s.store.writes[w]? = some ⟨state, initial, .pending⟩)
    (hphase : phase ≠ .pending) (hentry : store.entry = s.store.entry)
    (hwrites : store.writes = s.store.writes.set w ⟨state, initial, phase⟩)
    (hheld : ∀ last, store.writes.getLast? = some last →
      last.phase = .renamed →
      (∃ other ∈ store.writes, other.phase = .failed)
        ∨ store.stateFile = some last.state) :
    WriterInv { s with store := store } := by
  constructor
  case noState =>
    intro hnone
    have hnone' : s.store.upsertEntry.state = none := by
      unfold StateCalls.upsertEntry at hnone ⊢
      rw [← hentry]
      exact hnone
    rw [(h.noState hnone').1] at hw
    cases hw
  case initialFirst =>
    intro i write hi hinitial
    have hi' : (s.store.writes.set w ⟨state, initial, phase⟩)[i]?
        = some write := hwrites ▸ hi
    rcases Lists.getElem?_set_cases hi' with ⟨hold, -⟩ | ⟨heq, hnew⟩
    · exact h.initialFirst i write hold hinitial
    · rw [hnew] at hinitial
      rw [heq]
      exact h.initialFirst w _ hw hinitial
  case current =>
    intro i write hi hinitial hpending
    have hi' : (s.store.writes.set w ⟨state, initial, phase⟩)[i]?
        = some write := hwrites ▸ hi
    rcases Lists.getElem?_set_cases hi' with ⟨hold, -⟩ | ⟨-, hnew⟩
    · obtain ⟨hthis, hlast⟩ := h.current i write hold hinitial hpending
      refine ⟨hthis, ?_⟩
      rw [hlast]
      show _ = store.writes.length
      rw [hwrites, List.length_set]
    · rw [hnew] at hpending
      exact absurd hpending hphase
  case held => exact hheld

/-- The last write when the one at `w` is replaced. -/
theorem getLast_set {writes : List IssuedWrite} {w : Nat}
    {write last : IssuedWrite}
    (h : (writes.set w write).getLast? = some last) :
    (writes.getLast? = some last ∧ writes.length ≠ w + 1)
      ∨ last = write := by
  rw [List.getLast?_eq_getElem?, List.length_set] at h
  rcases Lists.getElem?_set_cases h with ⟨hold, hne⟩ | ⟨-, hnew⟩
  · rw [List.getLast?_eq_getElem?]
    exact Or.inl ⟨hold, by omega⟩
  · exact Or.inr hnew

/-- A rename that the guard lets through. -/
theorem renamed (h : WriterInv s) {store : StateCalls} {w : Nat}
    {state : ActorState} {initial : Bool}
    (hw : s.store.writes[w]? = some ⟨state, initial, .pending⟩)
    (hentry : store.entry = s.store.entry)
    (hwrites : store.writes
      = s.store.writes.set w ⟨state, initial, .renamed⟩)
    (hfile : store.stateFile = some state)
    (hsafe : writeOrderSafe s (.state (.endWrite w true))) :
    WriterInv { s with store := store } := by
  apply h.ended hw (by simp) hentry hwrites
  intro last hlast hrenamed
  rw [hwrites] at hlast
  rcases getLast_set hlast with ⟨hold, hne⟩ | hnew
  · cases initial with
    | false =>
        -- a pending write of the instance is the last one
        have hthis := (h.current w _ hw rfl rfl).2
        exact absurd hthis.symm hne
    | true =>
        rcases hsafe _ last hw rfl hold hrenamed with
          ⟨other, hother, hfailed⟩ | hsame
        · refine Or.inl ⟨other, ?_, hfailed⟩
          obtain ⟨i, hi⟩ := List.mem_iff_getElem?.1 hother
          have hiw : i ≠ w := by
            intro heq
            rw [heq, hw] at hi
            injection hi with hi
            rw [← hi] at hfailed
            cases hfailed
          rw [hwrites]
          apply List.mem_of_getElem?
          rw [List.getElem?_set_ne (Ne.symm hiw)]
          exact hi
        · rw [hfile, ← hsame]
          exact Or.inr rfl
  · rw [hfile, hnew]
    exact Or.inr rfl

/-- A write that fails. -/
theorem failed (h : WriterInv s) {store : StateCalls} {w : Nat}
    {state : ActorState} {initial : Bool}
    (hw : s.store.writes[w]? = some ⟨state, initial, .pending⟩)
    (hentry : store.entry = s.store.entry)
    (hwrites : store.writes
      = s.store.writes.set w ⟨state, initial, .failed⟩) :
    WriterInv { s with store := store } := by
  apply h.ended hw (by simp) hentry hwrites
  intro last _ _
  have hlt := (List.getElem?_eq_some_iff.1 hw).1
  refine Or.inl ⟨⟨state, initial, .failed⟩, ?_, rfl⟩
  rw [hwrites]
  apply List.mem_of_getElem?
  rw [List.getElem?_set_self hlt]

/-- A step of the calls. -/
theorem stateStep (h : WriterInv s) {a : StateStep} {store : StateCalls}
    (hsafe : writeOrderSafe s (.state a))
    (hstep : FileSystem.stateStep ser s.store a = some store) :
    WriterInv { s with store := store } := by
  by_cases hend : ∃ w ok, a = .endWrite w ok
  · obtain ⟨w, ok, rfl⟩ := hend
    obtain ⟨state, initial, hw, hentry, heffect⟩ :=
      StateCalls.endWrite_cases hstep
    cases ok with
    | true => exact h.renamed hw hentry heffect.1 heffect.2 hsafe
    | false => exact h.failed hw hentry heffect.1
  · rcases StateCalls.stateStep_cases hstep
      (fun w ok heq => hend ⟨w, ok, heq⟩) with hquiet | hcreates
    · exact h.quiet hquiet s.starts
    · exact h.creates hcreates

-- ========================================================== the instance

/-- `startActor` behind its load. -/
theorem instantiate (h : WriterInv s) {c : Nat} {instantiates : Bool}
    (hstep : s.instantiate c instantiates = some s') : WriterInv s' := by
  have hstarts : ∀ starts : List CallPc,
      WriterInv { s with starts := starts } := fun starts =>
    h.congr rfl rfl (fun hnone => ⟨hnone, rfl⟩) fun _ _ _ _ hthis => hthis
  unfold RunningActor.instantiate at hstep
  dsimp only at hstep
  split at hstep
  case h_2 => cases hstep
  case h_1 load hc =>
    split at hstep
    case h_1 state hsettled hstate =>
      split at hstep
      · have hstep := Option.some.inj hstep
        rw [← hstep]
        refine h.congr ?_ ?_ ?_ ?_
        · rfl
        · rfl
        · intro hnone
          have hnone' : s.store.upsertEntry.state = none := hnone
          rw [hstate] at hnone'
          cases hnone'
        · exact fun _ _ _ _ hthis => hthis
      · injection hstep with hstep
        rw [← hstep]
        exact hstarts _
    case h_2 =>
      injection hstep with hstep
      rw [← hstep]
      exact hstarts _
    case h_3 =>
      injection hstep with hstep
      rw [← hstep]
      exact hstarts _
    case h_4 => cases hstep

/-- The instance begins a `writePersistedData`. -/
theorem writePersistedData (h : WriterInv s) {data : Bytes}
    (hstep : s.writePersistedData data = some s') : WriterInv s' := by
  unfold RunningActor.writePersistedData at hstep
  split at hstep
  case isFalse => cases hstep
  case isTrue hidle =>
    have hstep := Option.some.inj hstep
    have hload := h.quiet s.store.loadActor_quiet s.starts
    rw [← hstep]
    refine hload.congr rfl rfl (fun hnone => ⟨hnone, rfl⟩) ?_
    intro w write hw hpending hthis
    have hthis' : s.writer = .awaitWrite (some w) := hthis
    rw [hidle.2] at hthis'
    cases hthis'

/-- The instance goes on. -/
theorem resumeWriter (h : WriterInv s)
    (hstep : s.resumeWriter = some s') : WriterInv s' := by
  unfold RunningActor.resumeWriter at hstep
  split at hstep
  case h_1 => cases hstep
  case h_2 load data hwriter =>
    -- no write of the instance is pending
    have hnone : ∀ w : Nat, s.writer ≠ .awaitWrite (some w) := by
      intro w hthis
      rw [hwriter] at hthis
      cases hthis
    have hidle : ∀ write ∈ s.store.writes, write.initial = false →
        write.phase ≠ .pending := by
      intro write hwrite hinitial hpending
      obtain ⟨w, hw⟩ := List.mem_iff_getElem?.1 hwrite
      exact hnone w (h.current w write hw hinitial hpending).1
    have hthrows : WriterInv { s with writer := .idle } :=
      h.congr rfl rfl (fun hstate => ⟨hstate, rfl⟩)
        fun w _ _ _ hthis => absurd hthis (hnone w)
    split at hstep
    case h_1 state hsettled hstate =>
      rcases s.store.writeActor_cases
        { state with persistedData := data } false with heq | heq
      · rw [heq] at hstep
        rw [← Option.some.inj hstep]
        apply h.issue rfl
        · show s.store.upsertEntry.state.isSome = true
          rw [hstate]
          rfl
        · intro hinitial
          cases hinitial
        · exact hidle
        · exact fun _ => rfl
      · rw [heq] at hstep
        rw [← Option.some.inj hstep]
        exact h.congr rfl rfl (fun hstate => ⟨hstate, rfl⟩)
          fun w _ _ _ hthis => absurd hthis (hnone w)
    case h_2 =>
      injection hstep with hstep
      rw [← hstep]
      exact hthrows
    case h_3 =>
      injection hstep with hstep
      rw [← hstep]
      exact hthrows
    case h_4 => cases hstep
  case h_3 write hwriter =>
    split at hstep
    case isFalse => cases hstep
    case isTrue hsettled =>
      injection hstep with hstep
      rw [← hstep]
      refine h.congr rfl rfl (fun hstate => ⟨hstate, rfl⟩) ?_
      intro w issued hw hpending hthis
      rw [hwriter] at hthis
      injection hthis with hthis
      rw [hthis] at hsettled
      unfold StateCalls.writeSettled at hsettled
      dsimp only at hsettled
      obtain ⟨state, initial, phase⟩ := issued
      have hpending' : phase = .pending := hpending
      subst hpending'
      rw [hw] at hsettled
      cases hsettled

end WriterInv

variable {s s' : RunningActor}

/-- One step that the guard lets through. -/
theorem writerInv_step {a : WriterStep} (h : WriterInv s)
    (hsafe : writeOrderSafe s a) (hstep : writerStep ser s a = some s') :
    WriterInv s' := by
  cases a with
  | state a =>
      obtain ⟨store, hstore, heq⟩ := Option.map_eq_some_iff.1 hstep
      rw [← heq]
      exact h.stateStep hsafe hstore
  | startActor =>
      injection hstep with hstep
      rw [← hstep]
      exact h.quiet s.store.loadActor_quiet _
  | instantiate c instantiates => exact h.instantiate hstep
  | writePersistedData data => exact h.writePersistedData hstep
  | resumeWriter => exact h.resumeWriter hstep

/-- The invariant at the beginning. -/
theorem writerInv_init (h : (writerSystem ser).init s) : WriterInv s := by
  obtain ⟨stored, store, ⟨actorId, rfl | ⟨rfl, rfl⟩⟩, rfl⟩ := h
  all_goals
    constructor
    case noState => intro _; exact ⟨rfl, rfl⟩
    case initialFirst => intro w write hw; cases hw
    case current => intro w write hw; cases hw
    case held => intro last hlast; cases hlast

/-- Every state reached within the guard has the invariant. -/
theorem writerInv_reaches
    (h : (writerSystem ser).Reaches writeOrderSafe s) : WriterInv s := by
  apply System.Reaches.invariant _ _ h
  · intro s hinit
    exact writerInv_init hinit
  · intro s a s' _ hinv hsafe hstep
    exact writerInv_step hinv hsafe hstep

/-- A rename that the guard does not let through loses the last write. -/
theorem WriterInv.lost (h : WriterInv s) {w : Nat}
    (hoverdue : ¬ writeOrderSafe s (.state (.endWrite w true)))
    (hstep : writerStep ser s (.state (.endWrite w true)) = some s') :
    ¬ s'.store.HoldsLastWrite := by
  obtain ⟨store, hstore, heq⟩ := Option.map_eq_some_iff.1 hstep
  obtain ⟨state, initial, hw, -, hwrites, hfile⟩ :=
    StateCalls.endWrite_cases hstore
  have hguard : ∃ last, s.store.writes.getLast? = some last
      ∧ last.phase = .renamed
      ∧ (¬ ∃ other ∈ s.store.writes, other.phase = .failed)
      ∧ state ≠ last.state := by
    by_contra hnot
    refine hoverdue fun write last hthis _ hlast hrenamed => ?_
    rw [hw] at hthis
    injection hthis with hthis
    rw [← hthis]
    by_contra hneither
    rw [not_or] at hneither
    exact hnot ⟨last, hlast, hrenamed, hneither.1, hneither.2⟩
  obtain ⟨last, hlast, hrenamed, hfailed, hne⟩ := hguard
  have hlast' : s.store.writes[s.store.writes.length - 1]? = some last := by
    rw [← List.getLast?_eq_getElem?]
    exact hlast
  have hlt := (List.getElem?_eq_some_iff.1 hw).1
  have hwlast : w ≠ s.store.writes.length - 1 := by
    intro hthis
    rw [← hthis, hw] at hlast'
    injection hlast' with hlast'
    rw [← hlast'] at hrenamed
    cases hrenamed
  -- a pending write of the instance is the last one, which is renamed
  have hothers : ∀ (i : Nat) write, s.store.writes[i]? = some write →
      i ≠ w → write.phase = .renamed := by
    intro i write hi hiw
    cases hphase : write.phase with
    | renamed => rfl
    | failed =>
        exact absurd ⟨write, List.mem_of_getElem? hi, hphase⟩ hfailed
    | pending =>
        cases hinitial : write.initial with
        | true =>
            -- both are the first write, or the last is the one at `w`
            have hzero := h.initialFirst i write hi hinitial
            cases initial with
            | true => exact absurd (hzero.trans
                (h.initialFirst w _ hw rfl).symm) hiw
            | false =>
                have hend := (h.current w _ hw rfl rfl).2
                exact absurd (by omega) hwlast
        | false =>
            have hend := (h.current i write hi hinitial hphase).2
            have hthis : i = s.store.writes.length - 1 := by omega
            rw [← hthis, hi] at hlast'
            injection hlast' with hlast'
            rw [hlast', hrenamed] at hphase
            cases hphase
  intro hholds
  rw [← heq] at hholds
  have hall : ∀ write ∈ store.writes, write.phase = .renamed := by
    intro write hwrite
    rw [hwrites] at hwrite
    obtain ⟨i, hi⟩ := List.mem_iff_getElem?.1 hwrite
    rcases Lists.getElem?_set_cases hi with ⟨hold, hiw⟩ | ⟨-, hnew⟩
    · exact hothers i write hold hiw
    · rw [hnew]
  have hfinal : store.writes.getLast? = some last := by
    rw [hwrites, List.getLast?_eq_getElem?, List.length_set,
      List.getElem?_set_ne hwlast]
    exact hlast'
  have hstate := hholds hall last hfinal
  have hfile' : store.stateFile = some state := hfile
  rw [hfile'] at hstate
  injection hstate with hstate
  exact hne hstate

-- ============================================================= the theorem

open Engine (sampleSerializer)

/-- In every run in which no write of a created state is renamed behind the
last write, the file holds the last write once all are renamed; and the
first rename that is behind it loses it. -/
theorem last_write_held (h : (writerSystem ser).Reaches writeOrderSafe s) :
    s.store.HoldsLastWrite
      ∧ ∀ a s', writerStep ser s a = some s' → ¬ writeOrderSafe s a →
        ¬ s'.store.HoldsLastWrite := by
  have hinv := writerInv_reaches h
  constructor
  · intro hall last hlast
    have hrenamed := hall last (List.mem_of_getLast? hlast)
    rcases hinv.held last hlast hrenamed with ⟨other, hmem, hfailed⟩ | hfile
    · rw [hall other hmem] at hfailed
      cases hfailed
    · exact hfile
  · intro a s' hstep hoverdue
    by_cases hend : ∃ w, a = .state (.endWrite w true)
    · obtain ⟨w, rfl⟩ := hend
      exact hinv.lost hoverdue hstep
    · refine absurd ?_ hoverdue
      unfold writeOrderSafe
      split
      · exact absurd ⟨_, rfl⟩ hend
      · trivial

/-- A caller creates the actor; another gets it and starts it, and the
instance writes what it initialised. The writes are renamed in the order
`order`. -/
def createAndStart (order : List Nat) : List WriterStep :=
  [.state (.createActor ⟨"counter", ["a"], .undefined⟩ 1700000000000),
    .state (.loadOrCreateActor ⟨"counter", ["a"], .undefined⟩),
    .state (.resume 1 1700000000001), .startActor, .instantiate 0 true,
    .writePersistedData [1, 0, 0, 1, 1, 0xf6, 0, 0], .resumeWriter]
    ++ order.map fun w => .state (.endWrite w true)

/-- The writes end in order. -/
theorem last_write_held_in_order :
    ∃ s, (writerSystem sampleSerializer).run
        { store := { actorId := "f1c3", persist := true } }
        (createAndStart [0, 1]) = some s
      ∧ s.store.stateFile = some { firstCreated with
        persistedData := [1, 0, 0, 1, 1, 0xf6, 0, 0] }
      ∧ s.store.HoldsLastWrite := by
  refine ⟨_, rfl, rfl, (@last_write_held sampleSerializer _ ?_).1⟩
  refine System.Reaches.run (createAndStart [0, 1])
    (.init ⟨none, _, ⟨"f1c3", Or.inl rfl⟩, rfl⟩) ?_ rfl
  refine ⟨trivial, trivial, trivial, trivial, trivial, trivial, trivial,
    ?_, ?_, trivial⟩
  · -- the last write is pending
    intro write last _ _ hlast hrenamed
    injection hlast with hlast
    rw [← hlast] at hrenamed
    cases hrenamed
  · -- the write of the instance
    intro write last hw hinitial _ _
    injection hw with hw
    rw [← hw] at hinitial
    cases hinitial

/-- The file is left with the empty record, though the instance has
written since. -/
theorem last_write_lost :
    ¬ ∀ s, (writerSystem sampleSerializer).Reachable s →
      s.store.HoldsLastWrite := by
  intro hall
  have hholds := hall _ (System.Reachable.run (createAndStart [1, 0])
    (.init ⟨none, { actorId := "f1c3", persist := true },
      ⟨"f1c3", Or.inl rfl⟩, rfl⟩) rfl) (by decide) _ rfl
  exact absurd hholds (by decide)

end RivetKit.Drivers.FileSystem
