/-
Whatever the interleaving of the calls on one actor, there is a single
initial state (`single_initial_state`).

# The argument

Every caller that gets a state gets the one of the entry, so it is enough
that the entry never changes from one state to another. What can put a
state there is a load, with what it read, and a creation. The creators
look at the entry again behind their `await`, so a creation finds it
without a state, and:

- `createActor` runs while there is no entry, hence before any load;
- `loadOrCreateActor` runs behind a load that found no file, and a load
  that found no file means that none was stored.

So every load still under way read either the file from before or the
state that was created meanwhile, and never another (`Agrees`).
-/
import RivetKit.Drivers.FileSystem.StateCalls
import RivetKit.Drivers.Engine.Proofs.Durability
import RivetKit.Lib.Lists

namespace RivetKit.Drivers.FileSystem

open Transition
open Actor
open Js

namespace StateCalls

variable {ser : Serializer} {stored : Option ActorState}
variable {s s' : StateCalls}

-- ======================================================= the definitions

/-- The state the entry is to have: the one created, if any, else the one
in the file. -/
def origin (stored : Option ActorState) (s : StateCalls) :
    Option ActorState :=
  match s.created with
  | [] => stored
  | made :: _ => some made.state

/-- What a read of the file may find: the origin, or still nothing. -/
def Agrees (stored : Option ActorState) (s : StateCalls)
    (found : Option ActorState) : Prop :=
  found = s.origin stored ∨ found = none ∧ stored = none

/-- What is true of a call by where it is. -/
def Placed (s : StateCalls) : CallPc → Prop
  | .awaitLoad none => s.persist = true → s.upsertEntry.state.isSome = true
  | .returned (some state) => s.upsertEntry.state = some state
  | _ => True

/-- The invariant of the entry, the loads and the file. -/
structure EntryInv (stored : Option ActorState) (s : StateCalls) :
    Prop where
  created_le : s.created.length ≤ 1
  made : s.created ≠ [] → s.upsertEntry.state.isSome = true
  state : ∀ state, s.upsertEntry.state = some state →
    s.origin stored = some state
  fresh : s.entry = none → s.loads = []
  file : s.loads = [] ∧ s.created ≠ [] ∨ s.Agrees stored s.stateFile
  found : ∀ (load : Nat) found, s.loads[load]? = some (.read found) →
    s.Agrees stored found
  loaded : ∀ load : Nat, s.loads[load]? = some .loaded →
    s.upsertEntry.state.isSome = true
  notFound : ∀ load : Nat, s.loads[load]? = some .notFound → stored = none
  written : ∀ write ∈ s.writes,
    s.created ≠ [] ∧ s.origin stored = some write.state
  inMemory : s.persist = false → stored = none

/-- The invariant of the calls. -/
structure CallsInv (stored : Option ActorState) (s : StateCalls) :
    Prop where
  placed : ∀ (c : Nat) kind pc, s.calls[c]? = some ⟨kind, pc⟩ → s.Placed pc
  creator : stored.isSome = true → ∀ made ∈ s.created,
    ∃ params pc, s.calls[made.call]? = some ⟨.createActor params, pc⟩

/-- Both. -/
def SingleInv (stored : Option ActorState) (s : StateCalls) : Prop :=
  s.EntryInv stored ∧ s.CallsInv stored

-- ============================================================== the parts

@[simp]
theorem upsertEntry_setEntry (s : StateCalls) (entry : StoreEntry) :
    (s.setEntry entry).upsertEntry = entry := rfl

/-- A file that was not found was not stored. -/
theorem stored_of_agrees_none (h : s.Agrees stored none) :
    stored = none := by
  rcases h with h | ⟨-, h⟩
  · unfold origin at h
    split at h
    · exact h.symm
    · cases h
  · exact h

/-- A state that was found is the one the entry is to have. -/
theorem origin_of_agrees {state : ActorState}
    (h : s.Agrees stored (some state)) :
    s.origin stored = some state := by
  rcases h with h | ⟨h, -⟩
  · exact h.symm
  · cases h

/-- The ways `loadActor` goes. -/
theorem loadActor_cases (s : StateCalls) :
    (s.loadActor = (s.setEntry s.upsertEntry, none)
        ∧ (s.persist = true → s.upsertEntry.state.isSome = true))
      ∨ (∃ load, s.loadActor = (s.setEntry s.upsertEntry, some load))
      ∨ s.upsertEntry.state = none ∧ s.loadActor =
        ({ s.setEntry { s.upsertEntry with
              loadPromise := some s.loads.length } with
            loads := s.loads ++ [.reading] }, some s.loads.length) := by
  unfold loadActor
  dsimp only [upsertEntry_setEntry]
  by_cases hstate : s.upsertEntry.state.isSome = true
  · rw [if_pos hstate]
    exact Or.inl ⟨rfl, fun _ => hstate⟩
  · rw [if_neg hstate]
    by_cases hpersist : s.persist = true
    · rw [if_neg (by simp [setEntry, hpersist])]
      cases hload : s.upsertEntry.loadPromise with
      | some load => exact Or.inr (Or.inl ⟨load, rfl⟩)
      | none =>
          refine Or.inr (Or.inr ⟨?_, rfl⟩)
          cases hnone : s.upsertEntry.state with
          | none => rfl
          | some state =>
              rw [hnone] at hstate
              exact absurd rfl hstate
    · rw [if_pos (by simp [setEntry, hpersist])]
      exact Or.inl ⟨rfl, fun h => absurd h hpersist⟩

/-- What was awaited when a load has settled without an error. -/
theorem EntryInv.settled (h : s.EntryInv stored) {load : Option Nat}
    (hplaced : s.Placed (.awaitLoad load))
    (hsettled : s.loadSettled load = some true)
    (hstate : s.upsertEntry.state = none) : stored = none := by
  cases load with
  | none =>
      by_cases hpersist : s.persist = true
      · have hsome := hplaced hpersist
        rw [hstate] at hsome
        cases hsome
      · exact h.inMemory (by simpa using hpersist)
  | some load =>
      unfold loadSettled at hsettled
      dsimp only at hsettled
      split at hsettled
      · rename_i hloaded
        have hsome := h.loaded load hloaded
        rw [hstate] at hsome
        cases hsome
      · rename_i hnot
        exact h.notFound load hnot
      · cases hsettled
      · cases hsettled

-- ==================================================== the entry and loads

/-- Only the calls change. -/
theorem EntryInv.withCalls (h : s.EntryInv stored)
    (calls : List StateCall) :
    EntryInv stored { s with calls := calls } :=
  ⟨h.created_le, h.made, h.state, h.fresh, h.file, h.found, h.loaded,
    h.notFound, h.written, h.inMemory⟩

/-- The entry is in the map. -/
theorem EntryInv.setEntry (h : s.EntryInv stored) :
    (s.setEntry s.upsertEntry).EntryInv stored :=
  ⟨h.created_le, h.made, h.state, fun hnone => (by cases hnone), h.file,
    h.found, h.loaded, h.notFound, h.written, h.inMemory⟩

/-- `loadActor` keeps the invariant. -/
theorem EntryInv.loadActor (h : s.EntryInv stored) :
    s.loadActor.1.EntryInv stored := by
  rcases s.loadActor_cases with ⟨heq, -⟩ | ⟨load, heq⟩ | ⟨hstate, heq⟩
  · rw [heq]
    exact h.setEntry
  · rw [heq]
    exact h.setEntry
  · have hcreated : s.created = [] := by
      by_contra hne
      have hsome := h.made hne
      rw [hstate] at hsome
      cases hsome
    have hnew : ∀ (load : Nat) (phase : LoadPhase),
        (s.loads ++ [LoadPhase.reading])[load]? = some phase →
        phase ≠ .reading → s.loads[load]? = some phase := by
      intro load phase hload hne
      rcases Lists.getElem?_concat hload with hold | ⟨-, hreading⟩
      · exact hold
      · exact absurd hreading hne
    rw [heq]
    constructor
    case created_le => exact h.created_le
    case made => exact fun hne => absurd hcreated hne
    case state => exact h.state
    case fresh => intro hnone; cases hnone
    case file =>
      rcases h.file with ⟨-, hne⟩ | hagrees
      · exact absurd hcreated hne
      · exact Or.inr hagrees
    case found =>
      intro load found hload
      exact h.found load found (hnew load _ hload (by simp))
    case loaded =>
      intro load hload
      exact h.loaded load (hnew load _ hload (by simp))
    case notFound =>
      intro load hload
      exact h.notFound load (hnew load _ hload (by simp))
    case written => exact h.written
    case inMemory => exact h.inMemory

/-- The synchronous part of `loadActor` leaves the rest. -/
theorem loadActor_rest (s : StateCalls) :
    s.loadActor.1.upsertEntry.state = s.upsertEntry.state
      ∧ s.loadActor.1.persist = s.persist
      ∧ s.loadActor.1.calls = s.calls
      ∧ s.loadActor.1.created = s.created := by
  rcases s.loadActor_cases with ⟨heq, -⟩ | ⟨load, heq⟩ | ⟨-, heq⟩
  all_goals
    rw [heq]
    exact ⟨rfl, rfl, rfl, rfl⟩

/-- A caller that awaits what `loadActor` returned is well placed. -/
theorem loadActor_placed (s : StateCalls) :
    s.loadActor.1.Placed (.awaitLoad s.loadActor.2) := by
  rcases s.loadActor_cases with ⟨heq, hstate⟩ | ⟨load, heq⟩ | ⟨-, heq⟩
  · rw [heq]
    exact hstate
  · rw [heq]
    trivial
  · rw [heq]
    trivial

/-- Replacing one load that is under way by its next phase. -/
theorem EntryInv.setLoad (h : s.EntryInv stored) {load : Nat}
    {phase : LoadPhase} (hload : s.loads ≠ [])
    (hfound : ∀ found, phase = .read found → s.Agrees stored found)
    (hloaded : phase = .loaded → s.upsertEntry.state.isSome = true)
    (hnot : phase = .notFound → stored = none) :
    EntryInv stored { s with loads := s.loads.set load phase } := by
  have hcases : ∀ (i : Nat) (p : LoadPhase), (s.loads.set load phase)[i]? = some p →
      s.loads[i]? = some p ∨ p = phase := by
    intro i p hp
    rcases Lists.getElem?_set_cases hp with ⟨hold, -⟩ | ⟨-, hnew⟩
    · exact Or.inl hold
    · exact Or.inr hnew
  constructor
  case created_le => exact h.created_le
  case made => exact h.made
  case state => exact h.state
  case fresh => exact fun hnone => absurd (h.fresh hnone) hload
  case file =>
    rcases h.file with ⟨hnil, -⟩ | hagrees
    · exact absurd hnil hload
    · exact Or.inr hagrees
  case found =>
    intro i found hi
    rcases hcases i _ hi with hold | hnew
    · exact h.found i found hold
    · exact hfound found hnew.symm
  case loaded =>
    intro i hi
    rcases hcases i _ hi with hold | hnew
    · exact h.loaded i hold
    · exact hloaded hnew.symm
  case notFound =>
    intro i hi
    rcases hcases i _ hi with hold | hnew
    · exact h.notFound i hold
    · exact hnot hnew.symm
  case written => exact h.written
  case inMemory => exact h.inMemory

/-- The entry gets the state it is to have, or loses its load promise. -/
theorem EntryInv.withEntry (h : s.EntryInv stored) (entry : StoreEntry)
    (hstate : entry.state = s.upsertEntry.state
      ∨ entry.state.isSome = true ∧ entry.state = s.origin stored) :
    (s.setEntry entry).EntryInv stored := by
  constructor
  case created_le => exact h.created_le
  case made =>
    intro hne
    rcases hstate with heq | ⟨hsome, -⟩
    · rw [upsertEntry_setEntry, heq]
      exact h.made hne
    · exact hsome
  case state =>
    intro state hs
    rw [upsertEntry_setEntry] at hs
    rcases hstate with heq | ⟨-, heq⟩
    · rw [heq] at hs
      exact h.state state hs
    · rw [hs] at heq
      exact heq.symm
  case fresh => intro hnone; cases hnone
  case file => exact h.file
  case found => exact h.found
  case loaded =>
    intro load hload
    rcases hstate with heq | ⟨hsome, -⟩
    · rw [upsertEntry_setEntry, heq]
      exact h.loaded load hload
    · exact hsome
  case notFound => exact h.notFound
  case written => exact h.written
  case inMemory => exact h.inMemory

/-- `readFile` keeps the invariant. -/
theorem EntryInv.readFile (h : s.EntryInv stored) {load : Nat} {ok : Bool}
    (hstep : s.readFile load ok = some s') : s'.EntryInv stored := by
  unfold StateCalls.readFile at hstep
  split at hstep
  case h_2 => cases hstep
  case h_1 hload =>
    injection hstep with hstep
    have hne : s.loads ≠ [] := by
      intro hnil
      rw [hnil] at hload
      cases hload
    have hfile : s.Agrees stored s.stateFile := by
      rcases h.file with ⟨hnil, -⟩ | hagrees
      · exact absurd hnil hne
      · exact hagrees
    rw [← hstep]
    apply h.setLoad hne
    · intro found hphase
      cases ok with
      | false => cases hphase
      | true =>
          injection hphase with hphase
          rw [← hphase]
          exact hfile
    · intro hphase
      cases ok with
      | false => cases hphase
      | true => cases hphase
    · intro hphase
      cases ok with
      | false => cases hphase
      | true => cases hphase

/-- `loadActorState` keeps the invariant. -/
theorem EntryInv.loadActorState (h : s.EntryInv stored) {load : Nat}
    (hstep : s.loadActorState load = some s') : s'.EntryInv stored := by
  have hne : ∀ phase, s.loads[load]? = some phase → s.loads ≠ [] := by
    intro phase hload hnil
    rw [hnil] at hload
    cases hload
  unfold StateCalls.loadActorState at hstep
  split at hstep
  case h_1 state hload =>
    injection hstep with hstep
    have horigin := origin_of_agrees (h.found load _ hload)
    have hentry := h.withEntry
      { s.upsertEntry with state := some state }
      (Or.inr ⟨rfl, horigin.symm⟩)
    rw [← hstep]
    apply hentry.setLoad (hne _ hload)
    · intro found hphase
      cases hphase
    · intro _
      rfl
    · intro hphase
      cases hphase
  case h_2 hload =>
    injection hstep with hstep
    have hentry := h.withEntry
      { s.upsertEntry with loadPromise := none } (Or.inl rfl)
    rw [← hstep]
    apply hentry.setLoad (hne _ hload)
    · intro found hphase
      cases hphase
    · intro hphase
      cases hphase
    · intro _
      exact stored_of_agrees_none (h.found load _ hload)
  case h_3 => cases hstep

/-- What `loadActorState` puts in the entry is what was there, if there
was a state. -/
theorem EntryInv.loadActorState_kept (h : s.EntryInv stored) {load : Nat}
    (hstep : s.loadActorState load = some s') {state : ActorState}
    (hstate : s.upsertEntry.state = some state) :
    s'.upsertEntry.state = some state := by
  unfold StateCalls.loadActorState at hstep
  split at hstep
  case h_1 found hload =>
    injection hstep with hstep
    have horigin := origin_of_agrees (h.found load _ hload)
    rw [h.state state hstate] at horigin
    rw [← hstep]
    exact horigin.symm
  case h_2 =>
    injection hstep with hstep
    rw [← hstep]
    exact hstate
  case h_3 => cases hstep

-- ============================================================= the writes

/-- `endWrite` keeps the invariant. -/
theorem EntryInv.endWrite (h : s.EntryInv stored) {w : Nat} {ok : Bool}
    (hstep : s.endWrite w ok = some s') : s'.EntryInv stored := by
  unfold StateCalls.endWrite at hstep
  split at hstep
  case h_2 => cases hstep
  case h_1 state initial hw =>
    obtain ⟨hne, horigin⟩ := h.written _ (List.mem_of_getElem? hw)
    have hwritten : ∀ phase : FileWritePhase,
        ∀ write ∈ s.writes.set w ⟨state, initial, phase⟩,
          s.created ≠ [] ∧ s.origin stored = some write.state := by
      intro phase write hwrite
      rcases List.mem_or_eq_of_mem_set hwrite with hold | hnew
      · exact h.written write hold
      · rw [hnew]
        exact ⟨hne, horigin⟩
    split at hstep
    · injection hstep with hstep
      rw [← hstep]
      exact ⟨h.created_le, h.made, h.state, h.fresh,
        Or.inr (Or.inl horigin.symm), h.found, h.loaded, h.notFound,
        hwritten .renamed, h.inMemory⟩
    · injection hstep with hstep
      rw [← hstep]
      exact ⟨h.created_le, h.made, h.state, h.fresh, h.file, h.found,
        h.loaded, h.notFound, hwritten .failed, h.inMemory⟩

/-- What `writeActor` leaves, and what it adds. -/
theorem writeActor_cases (s : StateCalls) (state : ActorState)
    (initial : Bool) :
    s.writeActor state initial =
        ({ s with writes := s.writes ++ [{ state, initial }] },
          some s.writes.length)
      ∨ s.writeActor state initial = (s, none) := by
  unfold writeActor
  by_cases hpersist : s.persist = true
  · rw [if_pos hpersist]
    exact Or.inl rfl
  · rw [if_neg hpersist]
    exact Or.inr rfl

/-- Writing the state that the entry is to have. -/
theorem EntryInv.writeActor (h : s.EntryInv stored) {state : ActorState}
    {initial : Bool} (hne : s.created ≠ [])
    (horigin : s.origin stored = some state) :
    (s.writeActor state initial).1.EntryInv stored := by
  rcases s.writeActor_cases state initial with heq | heq
  · rw [heq]
    refine ⟨h.created_le, h.made, h.state, h.fresh, h.file, h.found,
      h.loaded, h.notFound, ?_, h.inMemory⟩
    intro write hwrite
    rcases List.mem_append.1 hwrite with hold | hnew
    · exact h.written write hold
    · rw [List.mem_singleton.1 hnew]
      exact ⟨hne, horigin⟩
  · rw [heq]
    exact h

/-- `create` fills the entry, and issues the write of the new state unless
nothing is persisted. -/
theorem create_cases (ser : Serializer) (s : StateCalls) (c : Nat)
    (params : CreateParams) (now : Nat) :
    ∃ writes, (s.create ser c params now).1
        = { s.setEntry { s.upsertEntry with
              state := some (s.initialState ser params now) } with
            created := s.created ++ [⟨c, s.initialState ser params now⟩]
            writes := writes }
      ∧ (writes = s.writes ∨ writes = s.writes
        ++ [{ state := s.initialState ser params now, initial := true }]) := by
  unfold create
  dsimp only
  rcases writeActor_cases { s.setEntry { s.upsertEntry with
      state := some (s.initialState ser params now) } with
    created := s.created ++ [⟨c, s.initialState ser params now⟩] }
    (s.initialState ser params now) true with heq | heq
  · rw [heq]
    exact ⟨_, rfl, Or.inr rfl⟩
  · rw [heq]
    exact ⟨_, rfl, Or.inl rfl⟩

/-- What `create` leaves, and what it makes of the entry. -/
theorem create_rest (ser : Serializer) (s : StateCalls) (c : Nat)
    (params : CreateParams) (now : Nat) :
    (s.create ser c params now).1.upsertEntry.state
        = some (s.initialState ser params now)
      ∧ (s.create ser c params now).1.calls = s.calls
      ∧ (s.create ser c params now).1.created
        = s.created ++ [⟨c, s.initialState ser params now⟩] := by
  obtain ⟨writes, heq, -⟩ := s.create_cases ser c params now
  rw [heq]
  exact ⟨rfl, rfl, rfl⟩

/-- A creation keeps the invariant where nothing is stored, and where no
load has begun. -/
theorem EntryInv.create (h : s.EntryInv stored) {c : Nat}
    {params : CreateParams} {now : Nat}
    (hstate : s.upsertEntry.state = none)
    (hnone : stored = none ∨ s.loads = []) :
    (s.create ser c params now).1.EntryInv stored := by
  have hcreated : s.created = [] := by
    by_contra hne
    have hsome := h.made hne
    rw [hstate] at hsome
    cases hsome
  have horigin : s.origin stored = stored := by
    unfold origin
    rw [hcreated]
  -- what a load found before is still nothing
  have hagrees : ∀ {found : Option ActorState},
      s.Agrees stored found → stored = none → found = none := by
    intro found hfound hstored
    rcases hfound with hfound | ⟨hfound, -⟩
    · rw [hfound, horigin]
      exact hstored
    · exact hfound
  have hloads : s.loads ≠ [] → stored = none := by
    intro hne
    rcases hnone with hstored | hnil
    · exact hstored
    · exact absurd hnil hne
  unfold StateCalls.create
  apply EntryInv.writeActor
  · constructor
    case created_le =>
      rw [hcreated]
      exact Nat.le_refl 1
    case made =>
      intro _
      rfl
    case state =>
      intro state hs
      unfold origin
      rw [hcreated]
      exact hs
    case fresh => intro hentry; cases hentry
    case file =>
      by_cases hnil : s.loads = []
      · exact Or.inl ⟨hnil, by simp⟩
      · refine Or.inr (Or.inr ⟨?_, hloads hnil⟩)
        rcases h.file with ⟨hempty, -⟩ | hfile
        · exact absurd hempty hnil
        · exact hagrees hfile (hloads hnil)
    case found =>
      intro load found hload
      have hget : s.loads[load]? = some (.read found) := hload
      have hne : s.loads ≠ [] := by
        intro hnil
        rw [hnil] at hget
        cases hget
      exact Or.inr ⟨hagrees (h.found load found hload) (hloads hne),
        hloads hne⟩
    case loaded =>
      intro _ _
      rfl
    case notFound => exact h.notFound
    case written =>
      intro write hwrite
      exact absurd hcreated (h.written write hwrite).1
    case inMemory => exact h.inMemory
  · simp
  · unfold origin
    rw [hcreated]
    rfl

-- ============================================================== the calls

/-- The entry keeps its state, so a call stays well placed. -/
theorem Placed.mono {pc : CallPc} (h : s.Placed pc)
    (hpersist : s'.persist = s.persist)
    (hkept : ∀ state, s.upsertEntry.state = some state →
      s'.upsertEntry.state = some state) : s'.Placed pc := by
  match pc with
  | .awaitLoad none =>
      intro hp
      rw [hpersist] at hp
      obtain ⟨state, hstate⟩ := Option.isSome_iff_exists.1 (h hp)
      rw [hkept state hstate]
      rfl
  | .awaitLoad (some _) => trivial
  | .awaitWrite _ => trivial
  | .returned none => trivial
  | .returned (some state) => exact hkept state h
  | .threw => trivial

/-- The entry gets its first state. -/
theorem Placed.created {pc : CallPc} (h : s.Placed pc)
    (hstate : s.upsertEntry.state = none)
    (hsome : s'.upsertEntry.state.isSome = true) : s'.Placed pc := by
  match pc with
  | .awaitLoad none => exact fun _ => hsome
  | .awaitLoad (some _) => trivial
  | .awaitWrite _ => trivial
  | .returned none => trivial
  | .returned (some state) =>
      have hthere : s.upsertEntry.state = some state := h
      rw [hstate] at hthere
      cases hthere
  | .threw => trivial

/-- The calls stay, and the entry keeps its state. -/
theorem CallsInv.congr (h : s.CallsInv stored)
    (hcalls : s'.calls = s.calls) (hcreated : s'.created = s.created)
    (hpersist : s'.persist = s.persist)
    (hkept : ∀ state, s.upsertEntry.state = some state →
      s'.upsertEntry.state = some state) : s'.CallsInv stored := by
  constructor
  case placed =>
    intro c kind pc hc
    rw [hcalls] at hc
    exact (h.placed c kind pc hc).mono hpersist hkept
  case creator =>
    rw [hcreated, hcalls]
    exact h.creator

/-- The calls when one begins. -/
theorem pushCall_calls {c : Nat} {kind : CallKind} {pc : CallPc}
    {call : StateCall} (hc : (s.pushCall kind pc).calls[c]? = some call) :
    s.calls[c]? = some call ∨ c = s.calls.length ∧ call = ⟨kind, pc⟩ :=
  Lists.getElem?_concat hc

/-- A call begins. -/
theorem CallsInv.pushCall (h : s.CallsInv stored) {kind : CallKind}
    {pc : CallPc} (hpc : s.Placed pc) :
    (s.pushCall kind pc).CallsInv stored := by
  constructor
  case placed =>
    intro c kind' pc' hc
    rcases pushCall_calls hc with hold | ⟨-, hnew⟩
    · exact h.placed c kind' pc' hold
    · injection hnew with _ hnew
      rw [hnew]
      exact hpc
  case creator =>
    intro hsome made hmade
    obtain ⟨params, pc', hc⟩ := h.creator hsome made hmade
    exact ⟨params, pc', Lists.getElem?_concat_of_some hc⟩

/-- A call moves on. -/
theorem CallsInv.setPc (h : s.CallsInv stored) {c : Nat} {pc : CallPc}
    (hpc : s.Placed pc) : (s.setPc c pc).CallsInv stored := by
  constructor
  case placed =>
    intro c' kind pc' hc
    rcases Lists.getElem?_modify_cases hc with ⟨hold, -⟩ | ⟨-, call, -, hnew⟩
    · exact h.placed c' kind pc' hold
    · injection hnew with _ hnew
      rw [hnew]
      exact hpc
  case creator =>
    intro hsome made hmade
    obtain ⟨params, pc', hc⟩ := h.creator hsome made hmade
    by_cases hmoved : made.call = c
    · refine ⟨params, pc, ?_⟩
      show (s.calls.modify c _)[made.call]? = _
      rw [hmoved, Lists.getElem?_modify_self, ← hmoved, hc]
      rfl
    · refine ⟨params, pc', ?_⟩
      show (s.calls.modify c _)[made.call]? = _
      rw [Lists.getElem?_modify_of_ne _ hmoved]
      exact hc

/-- A creation where nothing is stored names no call. -/
theorem CallsInv.create (h : s.CallsInv none) {c : Nat}
    {params : CreateParams} {now : Nat}
    (hstate : s.upsertEntry.state = none) :
    (s.create ser c params now).1.CallsInv none := by
  obtain ⟨hmade, hcalls, -⟩ := s.create_rest ser c params now
  constructor
  case placed =>
    intro c' kind pc hc
    rw [hcalls] at hc
    refine (h.placed c' kind pc hc).created hstate ?_
    rw [hmade]
    rfl
  case creator => intro hsome; cases hsome

-- =============================================================== the steps

/-- The beginning of a call that loads. -/
theorem SingleInv.pushLoad (h : s.SingleInv stored) (kind : CallKind) :
    (s.loadActor.1.pushCall kind (.awaitLoad s.loadActor.2)).SingleInv
      stored := by
  obtain ⟨hstate, hpersist, hcalls, hcreated⟩ := s.loadActor_rest
  refine ⟨h.1.loadActor.withCalls _, ?_⟩
  apply CallsInv.pushCall
  · apply h.2.congr hcalls hcreated hpersist
    intro state hs
    rw [hstate]
    exact hs
  · exact s.loadActor_placed

/-- `createActor`. -/
theorem SingleInv.createActor (h : s.SingleInv stored)
    {params : CreateParams} {now : Nat} :
    (s.createActor ser params now).SingleInv stored := by
  unfold StateCalls.createActor
  by_cases hentry : s.entry.isSome = true
  · rw [if_pos hentry]
    exact ⟨h.1.withCalls _, h.2.pushCall trivial⟩
  · rw [if_neg hentry]
    have hnone : s.entry = none := by
      cases hcase : s.entry with
      | none => rfl
      | some entry =>
          rw [hcase] at hentry
          exact absurd rfl hentry
    have hstate : s.upsertEntry.state = none := by
      unfold upsertEntry
      rw [hnone]
      rfl
    have hcreated : s.created = [] := by
      by_contra hne
      have hsome := h.1.made hne
      rw [hstate] at hsome
      cases hsome
    obtain ⟨hmade, hcalls, hnew⟩ :=
      s.create_rest ser s.calls.length params now
    show ((s.create ser s.calls.length params now).1.pushCall
      (.createActor params) (.awaitWrite
        (s.create ser s.calls.length params now).2)).SingleInv stored
    refine ⟨(h.1.create hstate (Or.inr (h.1.fresh hnone))).withCalls _, ?_⟩
    constructor
    case placed =>
      intro c kind pc hc
      rcases pushCall_calls hc with hold | ⟨-, hpushed⟩
      · rw [hcalls] at hold
        refine (h.2.placed c kind pc hold).created hstate ?_
        show (s.create ser _ params now).1.upsertEntry.state.isSome = true
        rw [hmade]
        rfl
      · injection hpushed with _ hpushed
        rw [hpushed]
        trivial
    case creator =>
      intro _ made hmem
      have hthis : made
          = ⟨s.calls.length, s.initialState ser params now⟩ := by
        have hmem' : made ∈ (s.create ser s.calls.length params
          now).1.created := hmem
        rw [hnew, hcreated] at hmem'
        exact List.mem_singleton.1 hmem'
      refine ⟨params, .awaitWrite (s.create ser s.calls.length params
        now).2, ?_⟩
      have hlast : ∀ call : StateCall,
          ((s.create ser s.calls.length params now).1.calls
            ++ [call])[s.calls.length]? = some call := by
        intro call
        rw [hcalls, List.getElem?_append_right (Nat.le_refl _),
          Nat.sub_self]
        rfl
      rw [hthis]
      exact hlast _

/-- `loadOrCreateActor` behind its load. -/
theorem SingleInv.afterLoad (h : s.SingleInv stored) {c : Nat}
    {params : CreateParams} {now : Nat}
    (hnone : s.upsertEntry.state = none → stored = none) :
    (s.afterLoad ser c params now).SingleInv stored := by
  unfold StateCalls.afterLoad
  split
  case h_1 state hstate =>
    exact ⟨h.1.withCalls _, h.2.setPc hstate⟩
  case h_2 hstate =>
    have hstored := hnone hstate
    subst hstored
    refine ⟨(h.1.create hstate (Or.inl rfl)).withCalls _, ?_⟩
    exact (h.2.create hstate).setPc trivial

/-- A call resumes. -/
theorem SingleInv.resume (h : s.SingleInv stored) {c now : Nat}
    (hstep : s.resume ser c now = some s') : s'.SingleInv stored := by
  have hreturned : s.Placed (.returned s.upsertEntry.state) := by
    cases hstate : s.upsertEntry.state with
    | none => trivial
    | some state => exact hstate
  have hset : ∀ pc, s.Placed pc → (s.setPc c pc).SingleInv stored :=
    fun pc hpc => ⟨h.1.withCalls _, h.2.setPc hpc⟩
  unfold StateCalls.resume at hstep
  split at hstep
  case h_1 kind load hc =>
    have hplaced := h.2.placed c kind _ hc
    split at hstep
    case h_1 params hsettled =>
      injection hstep with hstep
      rw [← hstep]
      exact h.afterLoad (h.1.settled hplaced hsettled)
    case h_2 =>
      injection hstep with hstep
      rw [← hstep]
      exact hset _ hreturned
    case h_3 =>
      injection hstep with hstep
      rw [← hstep]
      exact hset _ trivial
    case h_4 => cases hstep
  case h_2 =>
    split at hstep
    · injection hstep with hstep
      rw [← hstep]
      exact hset _ hreturned
    · injection hstep with hstep
      rw [← hstep]
      exact hset _ trivial
    · cases hstep
  case h_3 => cases hstep

/-- What the steps of the file system leave. -/
theorem readFile_rest {load : Nat} {ok : Bool}
    (hstep : s.readFile load ok = some s') :
    s'.calls = s.calls ∧ s'.created = s.created
      ∧ s'.persist = s.persist ∧ s'.entry = s.entry := by
  unfold StateCalls.readFile at hstep
  split at hstep
  · injection hstep with hstep
    rw [← hstep]
    exact ⟨rfl, rfl, rfl, rfl⟩
  · cases hstep

theorem loadActorState_rest {load : Nat}
    (hstep : s.loadActorState load = some s') :
    s'.calls = s.calls ∧ s'.created = s.created
      ∧ s'.persist = s.persist := by
  unfold StateCalls.loadActorState at hstep
  split at hstep
  · injection hstep with hstep
    rw [← hstep]
    exact ⟨rfl, rfl, rfl⟩
  · injection hstep with hstep
    rw [← hstep]
    exact ⟨rfl, rfl, rfl⟩
  · cases hstep

theorem endWrite_rest {w : Nat} {ok : Bool}
    (hstep : s.endWrite w ok = some s') :
    s'.calls = s.calls ∧ s'.created = s.created
      ∧ s'.persist = s.persist ∧ s'.entry = s.entry := by
  unfold StateCalls.endWrite at hstep
  split at hstep
  · split at hstep
    · injection hstep with hstep
      rw [← hstep]
      exact ⟨rfl, rfl, rfl, rfl⟩
    · injection hstep with hstep
      rw [← hstep]
      exact ⟨rfl, rfl, rfl, rfl⟩
  · cases hstep

/-- One step keeps the invariant. -/
theorem singleInv_step {a : StateStep} (h : s.SingleInv stored)
    (hstep : stateStep ser s a = some s') : s'.SingleInv stored := by
  cases a with
  | createActor params now =>
      injection hstep with hstep
      rw [← hstep]
      exact h.createActor
  | loadActor =>
      injection hstep with hstep
      rw [← hstep]
      exact h.pushLoad .loadActor
  | loadOrCreateActor params =>
      injection hstep with hstep
      rw [← hstep]
      exact h.pushLoad (.loadOrCreateActor params)
  | readFile load ok =>
      obtain ⟨hcalls, hcreated, hpersist, hentry⟩ := readFile_rest hstep
      refine ⟨h.1.readFile hstep, h.2.congr hcalls hcreated hpersist ?_⟩
      intro state hstate
      unfold upsertEntry
      rw [hentry]
      exact hstate
  | loadActorState load =>
      obtain ⟨hcalls, hcreated, hpersist⟩ := loadActorState_rest hstep
      refine ⟨h.1.loadActorState hstep,
        h.2.congr hcalls hcreated hpersist ?_⟩
      intro state hstate
      exact h.1.loadActorState_kept hstep hstate
  | resume c now => exact h.resume hstep
  | endWrite w ok =>
      obtain ⟨hcalls, hcreated, hpersist, hentry⟩ := endWrite_rest hstep
      refine ⟨h.1.endWrite hstep, h.2.congr hcalls hcreated hpersist ?_⟩
      intro state hstate
      unfold upsertEntry
      rw [hentry]
      exact hstate

/-- The invariant at the beginning. -/
theorem singleInv_init (h : s.Begins stored) : s.SingleInv stored := by
  have hblank : ∀ actorId persist, (persist = false → stored = none) →
      SingleInv stored { actorId, persist, stateFile := stored } := by
    intro actorId persist hmemory
    refine ⟨?_, ⟨?_, ?_⟩⟩
    · constructor
      case created_le => exact Nat.zero_le 1
      case made => intro hne; exact absurd rfl hne
      case state => intro state hs; cases hs
      case fresh => intro _; rfl
      case file => exact Or.inr (Or.inl rfl)
      case found => intro load found hload; cases hload
      case loaded => intro load hload; cases hload
      case notFound => intro load hload; cases hload
      case written => intro write hwrite; cases hwrite
      case inMemory => exact hmemory
    · intro c kind pc hc
      cases hc
    · intro _ made hmade
      cases hmade
  obtain ⟨actorId, rfl | ⟨rfl, rfl⟩⟩ := h
  · exact hblank actorId true fun hpersist => by cases hpersist
  · exact hblank actorId false fun _ => rfl

/-- Every state reached has the invariant. -/
theorem singleInv_reaches
    (h : (stateSystem ser stored).Reachable s) : s.SingleInv stored := by
  apply System.Reaches.invariant _ _ h
  · intro s hinit
    exact singleInv_init hinit
  · intro s a s' _ hinv _ hstep
    exact singleInv_step hinv hstep

end StateCalls

-- ============================================================= the theorem

open Engine (sampleSerializer)

/-- In every interleaving of `loadActor`, `loadOrCreateActor` and
`createActor` calls on one actor id, whatever was stored before, there is
a single initial state. -/
theorem single_initial_state {ser : Serializer}
    {stored : Option ActorState} {s : StateCalls}
    (h : (stateSystem ser stored).Reachable s) : s.SingleState stored := by
  have hinv := StateCalls.singleInv_reaches h
  constructor
  case created => exact hinv.1.created_le
  case stored => exact hinv.2.creator
  case same =>
    intro c c' kind kind' state state' hc hc'
    have hstate : s.upsertEntry.state = some state :=
      hinv.2.placed c kind _ hc
    have hstate' : s.upsertEntry.state = some state' :=
      hinv.2.placed c' kind' _ hc'
    rw [hstate] at hstate'
    injection hstate' with heq
    rw [heq]
    exact ⟨rfl, rfl, rfl, rfl⟩

/-- Two callers of `loadOrCreateActor` with keys of their own. The first
creates behind a load that found nothing; a third caller has begun
another load by then, which reads the file that the first one wrote. -/
def createAndReload : List StateStep :=
  [.loadOrCreateActor ⟨"counter", ["a"], .undefined⟩,
    .loadOrCreateActor ⟨"counter", ["b"], .undefined⟩,
    .readFile 0 true, .loadActorState 0, .loadActor,
    .resume 0 1700000000000, .endWrite 0 true, .readFile 1 true,
    .loadActorState 1, .resume 1 1700000000001, .resume 2 1700000000001,
    .resume 0 1700000000001]

/-- The state that the first caller creates. -/
def firstCreated : ActorState where
  actorId := "f1c3"
  name := "counter"
  key := ["a"]
  createdAt := 1700000000000
  persistedData := [1, 0, 0, 0, 1, 0xf7, 0, 0]

/-- All three get the state of the first. -/
theorem single_initial_state_reload :
    ∃ s, (stateSystem sampleSerializer none).run
        { actorId := "f1c3", persist := true } createAndReload = some s
      ∧ s.calls.map (·.pc) = [.returned (some firstCreated),
        .returned (some firstCreated), .returned (some firstCreated)]
      ∧ s.SingleState none := by
  refine ⟨_, rfl, rfl, @single_initial_state sampleSerializer none _ ?_⟩
  exact System.Reachable.run createAndReload
    (.init ⟨"f1c3", Or.inl rfl⟩) rfl

end RivetKit.Drivers.FileSystem
