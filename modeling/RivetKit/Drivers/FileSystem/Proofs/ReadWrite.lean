/-
A read of an actor's persisted data gives its last write as long as the
actor is not behind (`reads_own_writes`): `writePersistedData` writes the
file and leaves the entry, and the reads go on being served from the entry
until the actor has been put to sleep. So a write changes nothing of what is
read (`cached_writePersistedData`), and where each write is of other data
than a read gives, an actor that is behind is read wrongly
(`behind_reads_stale`).

# The argument

- `cached` is what a read gives: the state of the entry, else the file.
  No operation but a creation and a sleep changes it.
- `Tracked` says what `behind` and `unsaved` stand for: an actor that is
  not behind is read as it was last written, and the file of one that is
  not unsaved has its last write. `Lagging` is the converse.
- Two runs that agree on an actor agree on it after an operation on it,
  and an operation on another actor changes nothing of it
  (`AgreeOn.perform`, `agreeOn_perform_other`).
-/
import RivetKit.Drivers.FileSystem.ReadWrite
import RivetKit.Drivers.Engine.Proofs.Durability

namespace RivetKit.Drivers.FileSystem

open Actor
open Js

namespace DriverStore

variable {ser : Serializer} {s t : DriverStore} {a id : ActorId}

-- ========================================================== what a read gives

/-- The data that a read of the actor gives. -/
def cached (s : DriverStore) (id : ActorId) : Option Bytes :=
  match (s.upsertEntry id).state with
  | some state => some state.persistedData
  | none =>
      if s.persist then (s.stateFiles id).map (·.persistedData) else none

theorem upsertEntry_setEntry (s : DriverStore) (a id : ActorId)
    (entry : StoreEntry) : (s.setEntry a entry).upsertEntry id
      = if id = a then entry else s.upsertEntry id := by
  unfold upsertEntry setEntry
  by_cases hid : id = a
  · rw [if_pos hid, hid]
    simp
  · rw [if_neg hid]
    simp [hid]

/-- The entry `loadActor` returns is the one it leaves. -/
theorem loadActor_entry (s : DriverStore) (a : ActorId) :
    (s.loadActor a).1.upsertEntry a = (s.loadActor a).2 := by
  unfold loadActor
  dsimp only
  rw [upsertEntry_setEntry, if_pos rfl]

/-- The entry `loadActor` returns, by the data it has. -/
theorem loadActor_cached_self (s : DriverStore) (a : ActorId) :
    (s.loadActor a).2.state.map (·.persistedData) = s.cached a := by
  unfold loadActor cached
  dsimp only
  cases hstate : (s.upsertEntry a).state with
  | some state => simp [hstate]
  | none =>
      by_cases hpersist : s.persist = true
      · cases hfile : s.stateFiles a with
        | some state => simp [hpersist]
        | none => simp [hpersist, hstate]
      · simp [hpersist, hstate]

/-- `loadActor` changes nothing of what is read. -/
theorem loadActor_cached (s : DriverStore) (a id : ActorId) :
    (s.loadActor a).1.cached id = s.cached id := by
  by_cases hid : id = a
  · have hself := s.loadActor_cached_self a
    rw [hid, ← hself, ← loadActor_entry]
    unfold cached
    cases hstate : ((s.loadActor a).1.upsertEntry a).state with
    | some state => rfl
    | none =>
        -- nothing was loaded, so nothing is stored
        rw [loadActor_entry] at hstate
        rw [hstate] at hself
        unfold cached at hself
        have hrest : (s.loadActor a).1.persist = s.persist
          ∧ (s.loadActor a).1.stateFiles = s.stateFiles := ⟨rfl, rfl⟩
        rw [hrest.1, hrest.2]
        cases hbefore : (s.upsertEntry a).state with
        | some state =>
            rw [hbefore] at hself
            cases hself
        | none =>
            rw [hbefore] at hself
            exact hself.symm
  · unfold cached loadActor
    dsimp only
    rw [upsertEntry_setEntry, if_neg hid]
    rfl

/-- A read gives `cached`. -/
theorem readPersistedData_cached (s : DriverStore) (a : ActorId) :
    (s.readPersistedData a).2 = s.cached a :=
  s.loadActor_cached_self a

/-- What `writeActor` leaves. -/
theorem writeActor_rest (s : DriverStore) (a : ActorId)
    (state : ActorState) (ok : Bool) :
    (s.writeActor a state ok).1.actors = s.actors
      ∧ (s.writeActor a state ok).1.persist = s.persist
      ∧ ∀ id, id ≠ a →
        (s.writeActor a state ok).1.stateFiles id = s.stateFiles id := by
  unfold writeActor
  split
  · exact ⟨rfl, rfl, fun _ _ => rfl⟩
  · split
    · refine ⟨rfl, rfl, fun id hid => ?_⟩
      exact Function.update_of_ne hid _ _
    · exact ⟨rfl, rfl, fun _ _ => rfl⟩

/-- A write of an actor whose entry has a state changes nothing of what is
read. -/
theorem writeActor_cached {state : ActorState} {ok : Bool}
    (hstate : (s.upsertEntry a).state.isSome = true) :
    (s.writeActor a state ok).1.cached id = s.cached id := by
  obtain ⟨hactors, hpersist, hfiles⟩ := s.writeActor_rest a state ok
  have hentry : (s.writeActor a state ok).1.upsertEntry id
      = s.upsertEntry id := by
    unfold upsertEntry
    rw [hactors]
  unfold cached
  rw [hentry]
  by_cases hid : id = a
  · rw [hid]
    obtain ⟨there, hthere⟩ := Option.isSome_iff_exists.1 hstate
    rw [hthere]
  · rw [hpersist, hfiles id hid]

-- ===================================================== what each call leaves

/-- An entry that has a state is what is read. -/
theorem cached_setEntry_self {entry : StoreEntry} {state : ActorState}
    (hstate : entry.state = some state) :
    (s.setEntry a entry).cached a = some state.persistedData := by
  unfold cached
  rw [upsertEntry_setEntry, if_pos rfl, hstate]

theorem cached_setEntry_of_ne {entry : StoreEntry} (hid : id ≠ a) :
    (s.setEntry a entry).cached id = s.cached id := by
  unfold cached
  rw [upsertEntry_setEntry, if_neg hid]
  rfl

/-- What the file of an actor has. -/
def saved (s : DriverStore) (id : ActorId) : Option Bytes :=
  (s.stateFiles id).map (·.persistedData)

/-- The file after a write. -/
theorem writeActor_saved (s : DriverStore) (a id : ActorId)
    (state : ActorState) (ok : Bool) :
    (s.writeActor a state ok).1.saved id
      = if id = a ∧ s.persist = true ∧ ok = true then
          some state.persistedData
        else s.saved id := by
  unfold writeActor saved
  cases hpersist : s.persist with
  | false => simp
  | true =>
      cases ok with
      | false => simp
      | true =>
          by_cases hid : id = a
          · rw [hid]
            simp
          · simp [hid]

/-- A creation. -/
theorem create_cached (s : DriverStore) (a id : ActorId)
    (params : CreateParams) (now : Nat) (ok : Bool) :
    (s.create ser a params now ok).cached id
      = if id = a then
          some (params.initialState ser a.1 now).persistedData
        else s.cached id := by
  have hstate : ((s.setEntry a { s.upsertEntry a with
      state := some (params.initialState ser a.1 now) }).upsertEntry a).state
        = some (params.initialState ser a.1 now) := by
    rw [upsertEntry_setEntry, if_pos rfl]
  unfold DriverStore.create
  dsimp only
  rw [writeActor_cached]
  · show (s.setEntry a _).cached id = _
    by_cases hid : id = a
    · rw [hid, if_pos rfl]
      exact cached_setEntry_self rfl
    · rw [if_neg hid]
      exact cached_setEntry_of_ne hid
  · exact Option.isSome_iff_exists.2 ⟨_, hstate⟩

theorem create_saved (s : DriverStore) (a id : ActorId)
    (params : CreateParams) (now : Nat) (ok : Bool) :
    (s.create ser a params now ok).saved id
      = if id = a ∧ s.persist = true ∧ ok = true then
          some (params.initialState ser a.1 now).persistedData
        else s.saved id := by
  unfold DriverStore.create
  dsimp only
  rw [writeActor_saved]
  rfl

theorem create_history (s : DriverStore) (a : ActorId)
    (params : CreateParams) (now : Nat) (ok : Bool) :
    (s.create ser a params now ok).lastWrite = Function.update s.lastWrite a
        (some (params.initialState ser a.1 now).persistedData)
      ∧ (s.create ser a params now ok).unsaved
        = Function.update s.unsaved a (s.persist && !ok)
      ∧ (s.create ser a params now ok).behind
        = Function.update s.behind a false
      ∧ (s.create ser a params now ok).persist = s.persist := by
  unfold DriverStore.create writeActor
  dsimp only
  split
  · exact ⟨rfl, rfl, rfl, rfl⟩
  · split
    · exact ⟨rfl, rfl, rfl, rfl⟩
    · exact ⟨rfl, rfl, rfl, rfl⟩

/-- A start changes nothing of what is read. -/
theorem startActor_cached (s : DriverStore) (a id : ActorId)
    (instantiates : Bool) :
    (s.startActor a instantiates).cached id = s.cached id := by
  unfold DriverStore.startActor
  dsimp only
  split
  case isFalse => exact s.loadActor_cached a id
  case isTrue hsome =>
    rw [← s.loadActor_cached a id]
    by_cases hid : id = a
    · rw [hid]
      cases hstate : (s.loadActor a).2.state with
      | none =>
          rw [hstate] at hsome
          cases hsome
      | some state =>
          refine (cached_setEntry_self rfl).trans ?_
          unfold cached
          rw [loadActor_entry, hstate]
    · exact cached_setEntry_of_ne hid

theorem startActor_history (s : DriverStore) (a : ActorId)
    (instantiates : Bool) :
    (s.startActor a instantiates).lastWrite = s.lastWrite
      ∧ (s.startActor a instantiates).unsaved = s.unsaved
      ∧ (s.startActor a instantiates).behind = s.behind
      ∧ (s.startActor a instantiates).persist = s.persist
      ∧ (s.startActor a instantiates).stateFiles = s.stateFiles := by
  unfold DriverStore.startActor
  dsimp only
  split
  · exact ⟨rfl, rfl, rfl, rfl, rfl⟩
  · exact ⟨rfl, rfl, rfl, rfl, rfl⟩

/-- A write changes nothing of what is read. -/
theorem cached_writePersistedData (s : DriverStore) (a id : ActorId)
    (data : Bytes) (ok : Bool) :
    (s.writePersistedData a data ok).cached id = s.cached id := by
  unfold DriverStore.writePersistedData
  dsimp only
  split
  case h_1 => exact s.loadActor_cached a id
  case h_2 state hstate =>
    have hwritten : ((s.loadActor a).1.writeActor a
        { state with persistedData := data } ok).1.cached id
          = s.cached id := by
      rw [writeActor_cached, s.loadActor_cached a id]
      rw [loadActor_entry, hstate]
      rfl
    split
    · exact hwritten
    · exact hwritten

/-- A write that returns is the last write, and in the file if there is
one; any other leaves both. -/
theorem writePersistedData_cases (s : DriverStore) (a : ActorId)
    (data : Bytes) (ok : Bool) :
    let s' := s.writePersistedData a data ok
    s'.persist = s.persist
      ∧ ((s'.lastWrite = Function.update s.lastWrite a (some data)
          ∧ s'.unsaved = Function.update s.unsaved a false
          ∧ s'.behind = Function.update s.behind a
            (s.behind a || s.lastWrite a != some data)
          ∧ ∀ id, s'.saved id
            = if id = a ∧ s.persist = true then some data else s.saved id)
        ∨ (s'.lastWrite = s.lastWrite ∧ s'.unsaved = s.unsaved
          ∧ s'.behind = s.behind ∧ ∀ id, s'.saved id = s.saved id)) := by
  unfold DriverStore.writePersistedData
  dsimp only
  split
  case h_1 => exact ⟨rfl, .inr ⟨rfl, rfl, rfl, fun _ => rfl⟩⟩
  case h_2 state hstate =>
    cases hpersist : s.persist with
    | false =>
        have hwrite : (s.loadActor a).1.writeActor a
            { state with persistedData := data } ok
              = ((s.loadActor a).1, true) := by
          unfold writeActor
          rw [show (s.loadActor a).1.persist = false from hpersist]
          rfl
        rw [hwrite]
        refine ⟨hpersist, .inl ⟨rfl, rfl, rfl, fun id => ?_⟩⟩
        show s.saved id = _
        rw [if_neg fun h => Bool.false_ne_true h.2]
    | true =>
        have hdisk : (s.loadActor a).1.persist = true := hpersist
        cases ok with
        | false =>
            have hwrite : (s.loadActor a).1.writeActor a
                { state with persistedData := data } false
                  = ((s.loadActor a).1, false) := by
              unfold writeActor
              rw [hdisk]
              rfl
            rw [hwrite]
            exact ⟨hpersist, .inr ⟨rfl, rfl, rfl, fun _ => rfl⟩⟩
        | true =>
            have hwrite : (s.loadActor a).1.writeActor a
                { state with persistedData := data } true
                  = ({ (s.loadActor a).1 with
                      stateFiles := Function.update s.stateFiles a
                        (some { state with persistedData := data }) },
                    true) := by
              unfold writeActor
              rw [if_neg (by rw [hdisk]; decide), if_pos rfl]
              rfl
            rw [hwrite]
            refine ⟨hpersist, .inl ⟨rfl, rfl, rfl, fun id => ?_⟩⟩
            show (Function.update s.stateFiles a _ id).map _ = _
            by_cases hid : id = a
            · rw [hid, Function.update_self, if_pos ⟨rfl, rfl⟩]
              rfl
            · rw [Function.update_of_ne hid, if_neg fun h => hid h.1]
              rfl

/-- What a sleep does, if the actor runs on a disk. -/
theorem sleepActor_cases (s : DriverStore) (a : ActorId) :
    s.sleepActor a = s
      ∨ s.persist = true ∧ s.sleepActor a =
        { s with
          actors := Function.update s.actors a none
          behind := Function.update s.behind a (s.unsaved a) } := by
  unfold DriverStore.sleepActor
  split
  case isTrue hsleeps =>
    exact .inr ⟨(Bool.and_eq_true_iff.1 hsleeps).1, rfl⟩
  case isFalse => exact .inl rfl

/-- A sleep on a disk leaves the file to be read. -/
theorem cached_dropEntry (hpersist : s.persist = true)
    (behind : ActorId → Bool) :
    cached { s with
        actors := Function.update s.actors a none
        behind } id
      = if id = a then s.saved id else s.cached id := by
  unfold cached upsertEntry saved
  dsimp only
  by_cases hid : id = a
  · rw [hid, Function.update_self, if_pos rfl]
    exact if_pos hpersist
  · rw [Function.update_of_ne hid, if_neg hid]

-- ================================================== the invariant of a run

/-- What it means to be neither behind nor unsaved. -/
structure Tracked (s : DriverStore) : Prop where
  entry : ∀ id, s.behind id = false → s.cached id = s.lastWrite id
  file : s.persist = true → ∀ id, s.unsaved id = false →
    s.saved id = s.lastWrite id

/-- And to be one of them. -/
structure Lagging (s : DriverStore) : Prop where
  entry : ∀ id, s.behind id = true → s.cached id ≠ s.lastWrite id
  file : ∀ id, s.unsaved id = true → s.saved id ≠ s.lastWrite id

/-- The operation's data are other than what is there: a write is of other
data than a read gives, unless it is the last write again, and a creation
that cannot be written is of other data than the file has. -/
def Fresh (ser : Serializer) (s : DriverStore) : DriverOp → Prop
  | .createActor id params now false
  | .loadOrCreateActor id params now false =>
      s.saved id ≠ some (params.initialState ser id.1 now).persistedData
  | .writePersistedData id data _ =>
      s.cached id ≠ some data ∨ s.lastWrite id = some data
  | _ => True

-- ------------------------------------------------------------ one operation

theorem Tracked.loadActor (h : s.Tracked) (a : ActorId) :
    (s.loadActor a).1.Tracked :=
  ⟨fun id hid => (s.loadActor_cached a id).trans (h.entry id hid), h.file⟩

theorem Lagging.loadActor (h : s.Lagging) (a : ActorId) :
    (s.loadActor a).1.Lagging :=
  ⟨fun id hid => by rw [loadActor_cached]; exact h.entry id hid, h.file⟩

theorem Tracked.create (h : s.Tracked) {params : CreateParams} {now : Nat}
    {ok : Bool} : (s.create ser a params now ok).Tracked := by
  obtain ⟨hlast, hunsaved, hbehind, hpersist⟩ :=
    @create_history ser s a params now ok
  refine ⟨fun id hid => ?_, fun hdisk id hid => ?_⟩
  · rw [create_cached, hlast]
    by_cases heq : id = a
    · rw [heq, if_pos rfl, Function.update_self]
    · rw [hbehind, Function.update_of_ne heq] at hid
      rw [if_neg heq, Function.update_of_ne heq]
      exact h.entry id hid
  · rw [hpersist] at hdisk
    rw [create_saved, hlast]
    by_cases heq : id = a
    · rw [hunsaved, heq, Function.update_self, hdisk, Bool.true_and,
        Bool.not_eq_false'] at hid
      rw [if_pos ⟨heq, hdisk, hid⟩, heq, Function.update_self]
    · rw [hunsaved, Function.update_of_ne heq] at hid
      rw [if_neg fun hc => heq hc.1, Function.update_of_ne heq]
      exact h.file hdisk id hid

theorem Lagging.create (h : s.Lagging) {params : CreateParams} {now : Nat}
    {ok : Bool} (hfresh : ok = false →
      s.saved a ≠ some (params.initialState ser a.1 now).persistedData) :
    (s.create ser a params now ok).Lagging := by
  obtain ⟨hlast, hunsaved, hbehind, -⟩ :=
    @create_history ser s a params now ok
  refine ⟨fun id hid => ?_, fun id hid => ?_⟩
  · have heq : id ≠ a := by
      intro heq
      rw [hbehind, heq, Function.update_self] at hid
      cases hid
    rw [hbehind, Function.update_of_ne heq] at hid
    rw [create_cached, hlast, if_neg heq, Function.update_of_ne heq]
    exact h.entry id hid
  · rw [create_saved, hlast]
    by_cases heq : id = a
    · rw [hunsaved, heq, Function.update_self, Bool.and_eq_true,
        Bool.not_eq_true'] at hid
      rw [if_neg (by simp [hid.2]), heq, Function.update_self]
      exact hfresh hid.2
    · rw [hunsaved, Function.update_of_ne heq] at hid
      rw [if_neg fun hc => heq hc.1, Function.update_of_ne heq]
      exact h.file id hid

theorem Tracked.writePersistedData (h : s.Tracked) {data : Bytes}
    {ok : Bool} : (s.writePersistedData a data ok).Tracked := by
  obtain ⟨hpersist, hcases⟩ := s.writePersistedData_cases a data ok
  refine ⟨fun id hid => ?_, fun hdisk id hid => ?_⟩
  · rw [cached_writePersistedData]
    rcases hcases with ⟨hlast, -, hbehind, -⟩ | ⟨hlast, -, hbehind, -⟩
    · rw [hlast]
      by_cases heq : id = a
      · -- it was the last write already
        rw [hbehind, heq, Function.update_self, Bool.or_eq_false_iff,
          bne_eq_false_iff_eq] at hid
        rw [heq, Function.update_self, ← hid.2]
        exact h.entry a hid.1
      · rw [hbehind, Function.update_of_ne heq] at hid
        rw [Function.update_of_ne heq]
        exact h.entry id hid
    · rw [hbehind] at hid
      rw [hlast]
      exact h.entry id hid
  · rw [hpersist] at hdisk
    rcases hcases with ⟨hlast, hunsaved, -, hsaved⟩
      | ⟨hlast, hunsaved, -, hsaved⟩
    · rw [hsaved, hlast]
      by_cases heq : id = a
      · rw [if_pos ⟨heq, hdisk⟩, heq, Function.update_self]
      · rw [hunsaved, Function.update_of_ne heq] at hid
        rw [if_neg fun hc => heq hc.1, Function.update_of_ne heq]
        exact h.file hdisk id hid
    · rw [hunsaved] at hid
      rw [hsaved, hlast]
      exact h.file hdisk id hid

theorem Lagging.writePersistedData (h : s.Lagging) {data : Bytes}
    {ok : Bool}
    (hfresh : s.cached a ≠ some data ∨ s.lastWrite a = some data) :
    (s.writePersistedData a data ok).Lagging := by
  obtain ⟨-, hcases⟩ := s.writePersistedData_cases a data ok
  refine ⟨fun id hid => ?_, fun id hid => ?_⟩
  · rw [cached_writePersistedData]
    rcases hcases with ⟨hlast, -, hbehind, -⟩ | ⟨hlast, -, hbehind, -⟩
    · rw [hlast]
      by_cases heq : id = a
      · rw [hbehind, heq, Function.update_self, Bool.or_eq_true,
          bne_iff_ne] at hid
        rw [heq, Function.update_self]
        rcases hfresh with hother | hagain
        · exact hother
        · rw [← hagain]
          exact h.entry a (hid.resolve_right fun hne => hne hagain)
      · rw [hbehind, Function.update_of_ne heq] at hid
        rw [Function.update_of_ne heq]
        exact h.entry id hid
    · rw [hbehind] at hid
      rw [hlast]
      exact h.entry id hid
  · rcases hcases with ⟨hlast, hunsaved, -, hsaved⟩
      | ⟨hlast, hunsaved, -, hsaved⟩
    · have heq : id ≠ a := by
        intro heq
        rw [hunsaved, heq, Function.update_self] at hid
        cases hid
      rw [hunsaved, Function.update_of_ne heq] at hid
      rw [hsaved, hlast, if_neg fun hc => heq hc.1,
        Function.update_of_ne heq]
      exact h.file id hid
    · rw [hunsaved] at hid
      rw [hsaved, hlast]
      exact h.file id hid

theorem Tracked.startActor (h : s.Tracked) {instantiates : Bool} :
    (s.startActor a instantiates).Tracked := by
  obtain ⟨hlast, hunsaved, hbehind, hpersist, hfiles⟩ :=
    s.startActor_history a instantiates
  refine ⟨fun id hid => ?_, fun hdisk id hid => ?_⟩
  · rw [startActor_cached, hlast]
    exact h.entry id (hbehind ▸ hid)
  · unfold saved
    rw [hfiles, hlast]
    exact h.file (hpersist ▸ hdisk) id (hunsaved ▸ hid)

theorem Lagging.startActor (h : s.Lagging) {instantiates : Bool} :
    (s.startActor a instantiates).Lagging := by
  obtain ⟨hlast, hunsaved, hbehind, -, hfiles⟩ :=
    s.startActor_history a instantiates
  refine ⟨fun id hid => ?_, fun id hid => ?_⟩
  · rw [startActor_cached, hlast]
    exact h.entry id (hbehind ▸ hid)
  · unfold saved
    rw [hfiles, hlast]
    exact h.file id (hunsaved ▸ hid)

/-- Behind its entry there is the file. -/
theorem Tracked.sleepActor (h : s.Tracked) : (s.sleepActor a).Tracked := by
  rcases s.sleepActor_cases a with hsame | ⟨hpersist, hslept⟩
  · rw [hsame]
    exact h
  · rw [hslept]
    refine ⟨fun id hid => ?_, h.file⟩
    rw [cached_dropEntry hpersist]
    by_cases heq : id = a
    · rw [if_pos heq]
      replace hid : Function.update s.behind a (s.unsaved a) id = false := hid
      rw [heq, Function.update_self] at hid
      rw [heq]
      exact h.file hpersist a hid
    · rw [if_neg heq]
      replace hid : Function.update s.behind a (s.unsaved a) id = false := hid
      rw [Function.update_of_ne heq] at hid
      exact h.entry id hid

theorem Lagging.sleepActor (h : s.Lagging) : (s.sleepActor a).Lagging := by
  rcases s.sleepActor_cases a with hsame | ⟨hpersist, hslept⟩
  · rw [hsame]
    exact h
  · rw [hslept]
    refine ⟨fun id hid => ?_, h.file⟩
    rw [cached_dropEntry hpersist]
    by_cases heq : id = a
    · rw [if_pos heq]
      replace hid : Function.update s.behind a (s.unsaved a) id = true := hid
      rw [heq, Function.update_self] at hid
      rw [heq]
      exact h.file a hid
    · rw [if_neg heq]
      replace hid : Function.update s.behind a (s.unsaved a) id = true := hid
      rw [Function.update_of_ne heq] at hid
      exact h.entry id hid

theorem Tracked.perform (h : s.Tracked) (op : DriverOp) :
    (s.perform ser op).Tracked := by
  cases op with
  | createActor a params now ok =>
      unfold DriverStore.perform createActor
      dsimp only
      split
      · exact h
      · exact h.create
  | loadOrCreateActor a params now ok =>
      unfold DriverStore.perform loadOrCreateActor
      dsimp only
      split
      · exact h.loadActor a
      · exact (h.loadActor a).create
  | readPersistedData a => exact h.loadActor a
  | writePersistedData a data ok => exact h.writePersistedData
  | startActor a instantiates => exact h.startActor
  | sleepActor a => exact h.sleepActor

theorem Lagging.perform (h : s.Lagging) {op : DriverOp}
    (hfresh : Fresh ser s op) : (s.perform ser op).Lagging := by
  cases op with
  | createActor a params now ok =>
      have hdata : ok = false → s.saved a
          ≠ some (params.initialState ser a.1 now).persistedData := by
        rintro rfl
        exact hfresh
      unfold DriverStore.perform createActor
      dsimp only
      split
      · exact h
      · exact h.create hdata
  | loadOrCreateActor a params now ok =>
      have hdata : ok = false → s.saved a
          ≠ some (params.initialState ser a.1 now).persistedData := by
        rintro rfl
        exact hfresh
      unfold DriverStore.perform loadOrCreateActor
      dsimp only
      split
      · exact h.loadActor a
      · exact (h.loadActor a).create hdata
  | readPersistedData a => exact h.loadActor a
  | writePersistedData a data ok => exact h.writePersistedData hfresh
  | startActor a instantiates => exact h.startActor
  | sleepActor a => exact h.sleepActor

-- ----------------------------------------------------------------- the runs

theorem Tracked.performAll (ops : List DriverOp) :
    ∀ {s : DriverStore}, s.Tracked → (s.performAll ser ops).Tracked := by
  induction ops with
  | nil => exact fun h => h
  | cons op ops ih => exact fun h => ih (h.perform op)

theorem tracked_begin (disk : Option (ActorId → Option ActorState)) :
    (begin disk).Tracked := by
  cases disk with
  | none => exact ⟨fun _ _ => rfl, fun hdisk => by cases hdisk⟩
  | some disk => exact ⟨fun _ _ => rfl, fun _ _ _ => rfl⟩

/-- Operations that are all fresh. -/
def FreshAll (ser : Serializer) : DriverStore → List DriverOp → Prop
  | _, [] => True
  | s, op :: ops => Fresh ser s op ∧ FreshAll ser (s.perform ser op) ops

theorem Lagging.performAll {ops : List DriverOp} :
    ∀ {s : DriverStore}, s.Lagging → FreshAll ser s ops →
      (s.performAll ser ops).Lagging := by
  induction ops with
  | nil => exact fun h _ => h
  | cons op ops ih =>
      exact fun h hfresh => ih (h.perform hfresh.1) hfresh.2

theorem lagging_begin (disk : Option (ActorId → Option ActorState)) :
    (begin disk).Lagging := by
  cases disk with
  | none =>
      exact ⟨fun _ hid => absurd hid Bool.false_ne_true,
        fun _ hid => absurd hid Bool.false_ne_true⟩
  | some disk =>
      exact ⟨fun _ hid => absurd hid Bool.false_ne_true,
        fun _ hid => absurd hid Bool.false_ne_true⟩

-- ============================================================== other actors

/-- Two states agree on an actor. -/
def AgreeOn (id : ActorId) (s t : DriverStore) : Prop :=
  s.persist = t.persist ∧ s.actors id = t.actors id
    ∧ s.stateFiles id = t.stateFiles id

theorem AgreeOn.upsertEntry (h : AgreeOn a s t) :
    s.upsertEntry a = t.upsertEntry a := by
  unfold DriverStore.upsertEntry
  rw [h.2.1]

theorem AgreeOn.setEntry (h : AgreeOn a s t) (entry : StoreEntry) :
    AgreeOn a (s.setEntry a entry) (t.setEntry a entry) := by
  refine ⟨h.1, ?_, h.2.2⟩
  show Function.update s.actors a _ a = Function.update t.actors a _ a
  rw [Function.update_self, Function.update_self]

theorem AgreeOn.loadActor (h : AgreeOn a s t) :
    (s.loadActor a).2 = (t.loadActor a).2
      ∧ AgreeOn a (s.loadActor a).1 (t.loadActor a).1 := by
  have hentry : (s.loadActor a).2 = (t.loadActor a).2 := by
    unfold DriverStore.loadActor
    dsimp only
    rw [h.upsertEntry, h.1, h.2.2]
  refine ⟨hentry, ?_⟩
  show AgreeOn a (s.setEntry a (s.loadActor a).2)
    (t.setEntry a (t.loadActor a).2)
  rw [hentry]
  exact h.setEntry _

theorem AgreeOn.writeActor (h : AgreeOn a s t) (state : ActorState)
    (ok : Bool) : (s.writeActor a state ok).2 = (t.writeActor a state ok).2
      ∧ AgreeOn a (s.writeActor a state ok).1
        (t.writeActor a state ok).1 := by
  unfold DriverStore.writeActor
  rw [h.1]
  split
  · exact ⟨rfl, h⟩
  · split
    · refine ⟨rfl, rfl, h.2.1, ?_⟩
      show Function.update s.stateFiles a _ a
        = Function.update t.stateFiles a _ a
      rw [Function.update_self, Function.update_self]
    · exact ⟨rfl, h⟩

theorem AgreeOn.create (h : AgreeOn a s t) (params : CreateParams)
    (now : Nat) (ok : Bool) :
    AgreeOn a (s.create ser a params now ok)
      (t.create ser a params now ok) := by
  unfold DriverStore.create
  dsimp only
  rw [h.upsertEntry]
  apply (AgreeOn.writeActor _ _ _).2
  exact h.setEntry _

/-- An operation on the actor sees of the state only what is of the
actor. -/
theorem AgreeOn.perform {op : DriverOp} (h : AgreeOn op.actorId s t) :
    AgreeOn op.actorId (s.perform ser op) (t.perform ser op) := by
  cases op with
  | createActor a params now ok =>
      have h' : AgreeOn a s t := h
      show AgreeOn a (s.createActor ser a params now ok)
        (t.createActor ser a params now ok)
      unfold DriverStore.createActor
      rw [h'.2.1]
      split
      · exact h'
      · exact h'.create params now ok
  | loadOrCreateActor a params now ok =>
      have h' : AgreeOn a s t := h
      obtain ⟨hentry, hloaded⟩ := h'.loadActor
      show AgreeOn a (s.loadOrCreateActor ser a params now ok)
        (t.loadOrCreateActor ser a params now ok)
      unfold DriverStore.loadOrCreateActor
      dsimp only
      rw [hentry]
      split
      · exact hloaded
      · exact hloaded.create params now ok
  | readPersistedData a => exact (AgreeOn.loadActor h).2
  | writePersistedData a data ok =>
      have h' : AgreeOn a s t := h
      obtain ⟨hentry, hloaded⟩ := h'.loadActor
      show AgreeOn a (s.writePersistedData a data ok)
        (t.writePersistedData a data ok)
      unfold DriverStore.writePersistedData
      dsimp only
      rw [hentry]
      split
      case h_1 => exact hloaded
      case h_2 state hstate =>
        obtain ⟨hreturned, hwritten⟩ :=
          hloaded.writeActor { state with persistedData := data } ok
        rw [hreturned]
        split
        · exact hwritten
        · exact hwritten
  | startActor a instantiates =>
      have h' : AgreeOn a s t := h
      obtain ⟨hentry, hloaded⟩ := h'.loadActor
      show AgreeOn a (s.startActor a instantiates)
        (t.startActor a instantiates)
      unfold DriverStore.startActor
      dsimp only
      rw [hentry]
      split
      · exact hloaded.setEntry _
      · exact hloaded
  | sleepActor a =>
      have h' : AgreeOn a s t := h
      show AgreeOn a (s.sleepActor a) (t.sleepActor a)
      unfold DriverStore.sleepActor
      rw [h'.1, h'.2.1]
      split
      · refine ⟨rfl, ?_, h'.2.2⟩
        show Function.update s.actors a _ a = Function.update t.actors a _ a
        rw [Function.update_self, Function.update_self]
      · exact h'

/-- Nothing changes of another actor. -/
theorem writeActor_other {state : ActorState} {ok : Bool} (hid : id ≠ a) :
    AgreeOn id (s.writeActor a state ok).1 s := by
  obtain ⟨hactors, hpersist, hfiles⟩ := s.writeActor_rest a state ok
  exact ⟨hpersist, by rw [hactors], hfiles id hid⟩

theorem setEntry_other {entry : StoreEntry} (hid : id ≠ a) :
    AgreeOn id (s.setEntry a entry) s :=
  ⟨rfl, Function.update_of_ne hid _ _, rfl⟩

theorem loadActor_other (hid : id ≠ a) : AgreeOn id (s.loadActor a).1 s :=
  setEntry_other hid

theorem AgreeOn.trans {u : DriverStore} (h : AgreeOn id s t)
    (h' : AgreeOn id t u) : AgreeOn id s u :=
  ⟨h.1.trans h'.1, h.2.1.trans h'.2.1, h.2.2.trans h'.2.2⟩

theorem create_other {params : CreateParams} {now : Nat} {ok : Bool}
    (hid : id ≠ a) : AgreeOn id (s.create ser a params now ok) s := by
  unfold DriverStore.create
  dsimp only
  refine (writeActor_other hid).trans ?_
  exact ⟨rfl, Function.update_of_ne hid _ _, rfl⟩

theorem agreeOn_perform_other {op : DriverOp} (hid : id ≠ op.actorId) :
    AgreeOn id (s.perform ser op) s := by
  cases op with
  | createActor a params now ok =>
      show AgreeOn id (s.createActor ser a params now ok) s
      unfold DriverStore.createActor
      split
      · exact ⟨rfl, rfl, rfl⟩
      · exact create_other hid
  | loadOrCreateActor a params now ok =>
      show AgreeOn id (s.loadOrCreateActor ser a params now ok) s
      unfold DriverStore.loadOrCreateActor
      dsimp only
      split
      · exact loadActor_other hid
      · exact (create_other hid).trans (loadActor_other hid)
  | readPersistedData a => exact loadActor_other hid
  | writePersistedData a data ok =>
      show AgreeOn id (s.writePersistedData a data ok) s
      unfold DriverStore.writePersistedData
      dsimp only
      split
      · exact loadActor_other hid
      · split
        · exact (writeActor_other hid).trans (loadActor_other hid)
        · exact (writeActor_other hid).trans (loadActor_other hid)
  | startActor a instantiates =>
      show AgreeOn id (s.startActor a instantiates) s
      unfold DriverStore.startActor
      dsimp only
      split
      · exact (setEntry_other hid).trans (loadActor_other hid)
      · exact loadActor_other hid
  | sleepActor a =>
      show AgreeOn id (s.sleepActor a) s
      unfold DriverStore.sleepActor
      split
      · exact ⟨rfl, Function.update_of_ne hid _ _, rfl⟩
      · exact ⟨rfl, rfl, rfl⟩

/-- A run and the run of an actor's own operations agree on the actor. -/
theorem AgreeOn.performAll (ops : List DriverOp) :
    ∀ {s t : DriverStore}, AgreeOn id s t →
      AgreeOn id (s.performAll ser ops)
        (t.performAll ser (ops.filter fun op => op.actorId = id)) := by
  induction ops with
  | nil => exact fun h => h
  | cons op ops ih =>
      intro s t h
      by_cases hop : op.actorId = id
      · rw [List.filter_cons_of_pos (by simpa using hop)]
        subst hop
        exact ih h.perform
      · rw [List.filter_cons_of_neg (by simpa using hop)]
        exact ih ((agreeOn_perform_other (Ne.symm hop)).trans h)

end DriverStore

-- ============================================================= the theorem

open DriverStore
open Engine (sampleSerializer)

/-- A read of an actor that is not behind gives its last write, and depends
on no other actor's operations. -/
theorem reads_own_writes (ser : Serializer)
    (disk : Option (ActorId → Option ActorState)) {ops : List DriverOp}
    {actorId : ActorId}
    (h : ((begin disk).performAll ser ops).behind actorId = false) :
    ReadsOwnWrites ser disk ops actorId := by
  have hself : AgreeOn actorId (begin disk) (begin disk) := ⟨rfl, rfl, rfl⟩
  have hagree := @AgreeOn.performAll ser actorId ops _ _ hself
  have hown : ((begin disk).performAll ser ops).cached actorId
      = ((begin disk).performAll ser (ops.filter fun op =>
        op.actorId = actorId)).cached actorId := by
    unfold cached DriverStore.upsertEntry
    rw [hagree.1, hagree.2.1, hagree.2.2]
  have hread := (Tracked.performAll ops (tracked_begin disk)).entry actorId h
  unfold ReadsOwnWrites
  dsimp only
  rw [readPersistedData_cached, readPersistedData_cached]
  exact ⟨hread, hown⟩

/-- The id of an actor, and another one. -/
def counterId : ActorId := ⟨"f1c3", by decide⟩

def otherId : ActorId := ⟨"9b04", by decide⟩

/-- An actor that was written is put to sleep, and another one is not. -/
def writtenAndSlept : List DriverOp :=
  [.createActor counterId ⟨"counter", ["a"], .undefined⟩ 1700000000000 true,
    .createActor otherId ⟨"counter", ["b"], .undefined⟩ 1700000000000 true,
    .startActor counterId true,
    .writePersistedData otherId [1, 0, 0, 1, 1, 0xf6, 0, 0] true,
    .writePersistedData counterId [1, 0, 0, 1, 1, 0xf5, 0, 0] true,
    .sleepActor counterId]

/-- The actor is read as it was written. -/
theorem reads_own_writes_slept :
    ReadsOwnWrites sampleSerializer (some fun _ => none) writtenAndSlept
        counterId
      ∧ (((begin (some fun _ => none)).performAll sampleSerializer
          writtenAndSlept).readPersistedData counterId).2
        = some [1, 0, 0, 1, 1, 0xf5, 0, 0] := by
  have h := @reads_own_writes sampleSerializer (some fun _ => none)
    writtenAndSlept counterId (by decide)
  exact ⟨h, h.1.trans (by decide)⟩

/-- Where every operation's data are fresh, the others are read wrongly. -/
theorem behind_reads_stale (ser : Serializer)
    (disk : Option (ActorId → Option ActorState)) {ops : List DriverOp}
    {actorId : ActorId} (hfresh : FreshAll ser (begin disk) ops)
    (h : ((begin disk).performAll ser ops).behind actorId = true) :
    ¬ ReadsOwnWrites ser disk ops actorId := by
  intro hreads
  have hread := hreads.1
  rw [readPersistedData_cached] at hread
  exact (Lagging.performAll (lagging_begin disk) hfresh).entry actorId h hread

/-- A create and a write: a read still gives the empty record, on a disk
and in memory. -/
theorem reads_own_writes_fails :
    (¬ ∀ ops actorId,
        ReadsOwnWrites sampleSerializer (some fun _ => none) ops actorId)
      ∧ ¬ ∀ ops actorId,
        ReadsOwnWrites sampleSerializer none ops actorId := by
  have hfails : ∀ disk, disk = none ∨ disk = some (fun _ => none) →
      ¬ ReadsOwnWrites sampleSerializer disk
        [.createActor counterId ⟨"counter", ["a"], .undefined⟩
          1700000000000 true,
          .writePersistedData counterId [1, 0, 0, 1, 1, 0xf6, 0, 0] true]
        counterId := by
    intro disk hdisk hreads
    rcases hdisk with rfl | rfl
    · exact absurd hreads.1 (by decide)
    · exact absurd hreads.1 (by decide)
  constructor
  · exact fun hall => hfails _ (Or.inr rfl) (hall _ _)
  · exact fun hall => hfails _ (Or.inl rfl) (hall _ _)

end RivetKit.Drivers.FileSystem
