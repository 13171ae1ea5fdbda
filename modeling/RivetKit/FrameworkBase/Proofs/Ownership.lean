/-
The store owns its connections in every run in which `create` is not called
over a connection or an attempt and no attempt fails with its connection
open (`store_owns`). Nothing in the store disposes a connection, so an
attempt that fails leaves its own to nobody (`failed_attempt_leaks`).

# The invariant

The flags guard the effect: while an attempt is in progress `isConnecting`
is set, and once a connection is in the store `isConnected` is. What is not
disposed belongs to the attempt while there is one.
-/
import RivetKit.FrameworkBase.Store

namespace RivetKit.FrameworkBase

open Transition

namespace StoreEntry

variable {e : StoreEntry}

-- ============================================================ the invariant

/-- One owner: the store, or the one attempt. -/
structure OwnerInv (e : StoreEntry) : Prop where
  owner : (e.attempts = [] ∧ ∀ m ∈ e.live, e.state.connection = some m)
    ∨ (∃ n, e.attempts = [n] ∧ e.state.isConnecting = true
      ∧ ∀ m ∈ e.live, m = n)
  connected : e.state.connection ≠ none → e.state.isConnected = true

/-- Connections that are all one are one at most. -/
theorem length_live_le_one {n : Nat} (h : ∀ m ∈ e.live, m = n) :
    e.live.length ≤ 1 := by
  have hnodup : e.live.Nodup := List.nodup_range.filter _
  match hlive : e.live with
  | [] => exact Nat.zero_le 1
  | [_] => exact Nat.le_refl 1
  | a :: b :: rest =>
      rw [hlive] at h hnodup
      have hab : a = b := (h a (by simp)).trans (h b (by simp)).symm
      rw [hab] at hnodup
      simp at hnodup

/-- The invariant gives the contract. -/
theorem OwnerInv.owns (h : e.OwnerInv) : e.Owns := by
  obtain ⟨-, hconnection⟩ | ⟨n, hattempts, -, hlive⟩ := h.owner
  · refine ⟨?_, fun m hm => .inl (hconnection m hm)⟩
    cases hnow : e.state.connection with
    | none =>
        have hnil : e.live = [] := by
          apply List.eq_nil_iff_forall_not_mem.2
          intro m hm
          have hsome := hconnection m hm
          rw [hnow] at hsome
          cases hsome
        rw [hnil]
        exact Nat.zero_le 1
    | some n =>
        refine length_live_le_one (n := n) fun m hm => ?_
        have hsome := hconnection m hm
        rw [hnow] at hsome
        exact (Option.some.inj hsome).symm
  · refine ⟨length_live_le_one hlive, fun m hm => .inr ?_⟩
    rw [hlive m hm, hattempts]
    exact List.mem_singleton_self n

-- ================================================================= one entry

/-- It does not read `prevOpts`. -/
theorem OwnerInv.withPrevOpts (h : e.OwnerInv)
    (prevOpts : Option ActorOptions) :
    OwnerInv { e with prevOpts := prevOpts } :=
  ⟨h.owner, h.connected⟩

/-- A connection is live when it was opened and not disposed. -/
theorem mem_live {m : Nat} : m ∈ e.live ↔ m < e.opened ∧ m ∉ e.disposed := by
  unfold live
  rw [List.mem_filter, List.mem_range]
  simp

/-- An entry with nothing open and nothing under way is given an attempt. -/
theorem OwnerInv.create (h : e.OwnerInv) (hattempts : e.attempts = [])
    (hlive : e.live = []) (throws : Bool) : (e.create throws).OwnerInv := by
  have hnone : ∀ m, m < e.opened → m ∈ e.disposed := by
    intro m hm
    apply Decidable.byContradiction
    intro hnot
    have hmem := mem_live.2 ⟨hm, hnot⟩
    rw [hlive] at hmem
    cases hmem
  cases throws with
  | true =>
      refine ⟨.inl ⟨hattempts, fun m hm => ?_⟩, h.connected⟩
      have hmem : m ∈ e.live := hm
      rw [hlive] at hmem
      cases hmem
  | false =>
      refine ⟨.inr ⟨e.opened, ?_, rfl, ?_⟩, h.connected⟩
      · show e.attempts ++ [e.opened] = [e.opened]
        rw [hattempts]
        rfl
      · intro m hm
        obtain ⟨hlt, hnot⟩ := mem_live.1 hm
        have hlt : m < e.opened + 1 := hlt
        apply Decidable.byContradiction
        intro hne
        exact hnot (hnone m (by omega))

/-- The effect connects an entry that has nothing open and nothing under
way. -/
theorem OwnerInv.idle (h : e.OwnerInv) (hconnects : e.connects = true) :
    e.attempts = [] ∧ e.live = [] := by
  have hflags : e.state.isConnected = false ∧ e.state.isConnecting = false := by
    unfold connects at hconnects
    split at hconnects
    · cases hconnects
    · simp only [Bool.and_eq_true, Bool.not_eq_true'] at hconnects
      exact ⟨hconnects.1.1.1.2, hconnects.1.1.2⟩
  obtain ⟨hattempts, hconnection⟩ | ⟨n, -, hconnecting, -⟩ := h.owner
  · refine ⟨hattempts, ?_⟩
    apply List.eq_nil_iff_forall_not_mem.2
    intro m hm
    have hconnected := h.connected (by rw [hconnection m hm]; simp)
    rw [hflags.1] at hconnected
    cases hconnected
  · rw [hflags.2] at hconnecting
    cases hconnecting

/-- An attempt ends in the store. -/
theorem OwnerInv.resolved (h : e.OwnerInv) {n : Nat} (hn : n ∈ e.attempts) :
    (e.resolved n).OwnerInv := by
  obtain ⟨hattempts, -⟩ | ⟨n', hattempts, -, hlive⟩ := h.owner
  · rw [hattempts] at hn
    cases hn
  · rw [hattempts, List.mem_singleton] at hn
    rw [← hn] at hattempts hlive
    refine ⟨.inl ⟨?_, fun m hm => ?_⟩, fun _ => rfl⟩
    · show e.attempts.erase n = []
      rw [hattempts]
      simp
    · rw [hlive m hm]
      rfl

/-- An attempt fails whose connection is gone. -/
theorem OwnerInv.rejected (h : e.OwnerInv) {n : Nat} (hn : n ∈ e.attempts)
    (hdisposed : n ∈ e.disposed) (error : String) :
    (e.rejected n error).OwnerInv := by
  obtain ⟨hattempts, -⟩ | ⟨n', hattempts, -, hlive⟩ := h.owner
  · rw [hattempts] at hn
    cases hn
  · rw [hattempts, List.mem_singleton] at hn
    rw [← hn] at hattempts hlive
    refine ⟨.inl ⟨?_, fun m hm => ?_⟩, h.connected⟩
    · show e.attempts.erase n = []
      rw [hattempts]
      simp
    · have hmem : m ∈ e.live := hm
      have hnot := (mem_live.1 hmem).2
      rw [hlive m hmem] at hnot
      exact absurd hdisposed hnot

/-- A connection is disposed. -/
theorem OwnerInv.dispose (h : e.OwnerInv) (n : Nat) :
    OwnerInv { e with disposed := n :: e.disposed } := by
  have hsubset : ∀ m ∈ live { e with disposed := n :: e.disposed },
      m ∈ e.live := by
    intro m hm
    obtain ⟨hlt, hnot⟩ := mem_live.1 hm
    exact mem_live.2 ⟨hlt, fun hmem => hnot (List.mem_cons_of_mem n hmem)⟩
  refine ⟨?_, h.connected⟩
  obtain ⟨hattempts, hconnection⟩ | ⟨n', hattempts, hconnecting, hlive⟩ :=
    h.owner
  · exact .inl ⟨hattempts, fun m hm => hconnection m (hsubset m hm)⟩
  · exact .inr ⟨n', hattempts, hconnecting,
      fun m hm => hlive m (hsubset m hm)⟩

end StoreEntry

-- ================================================================= the store

namespace RivetKitStore

open StoreEntry (OwnerInv)

variable {s s' : RivetKitStore}

/-- Every entry has its owner. -/
def Owned (s : RivetKitStore) : Prop :=
  ∀ key e, s.actors key = some e → e.OwnerInv

/-- The entries behind `setState`. -/
theorem Owned.setState (h : s.Owned) {key : String}
    {updater : StoreEntry → StoreEntry}
    (hupdater : ∀ e, s.actors key = some e → ∀ prevOpts,
      (updater { e with prevOpts := prevOpts }).OwnerInv) :
    (s.setState key updater).Owned := by
  intro k e hk
  obtain ⟨old, hold, heq⟩ := Option.map_eq_some_iff.1 hk
  dsimp only at heq
  rw [← heq]
  by_cases hkey : k = key
  · rw [if_pos hkey]
    rw [hkey] at hold
    exact hupdater old hold _
  · rw [if_neg hkey]
    exact (h k old hold).withPrevOpts _

theorem Owned.getOrCreateActor (h : s.Owned) (key : String)
    (opts : ActorOptions) : (s.getOrCreateActor key opts).Owned := by
  unfold RivetKitStore.getOrCreateActor
  split
  · exact h
  · intro k e hk
    dsimp only at hk
    split at hk
    · obtain rfl := Option.some.inj hk
      refine ⟨.inl ⟨rfl, fun m hm => ?_⟩, fun hne => absurd rfl hne⟩
      cases hm
    · have hsame : (s.setState key id).Owned := h.setState
        fun e he prevOpts => (h key e he).withPrevOpts prevOpts
      exact hsame k e hk

/-- Every careful step leaves every connection its owner. -/
theorem Owned.step (h : s.Owned) {a : StoreStep} (hcareful : s.Careful a)
    (hstep : s.step a = some s') : s'.Owned := by
  cases a with
  | getOrCreateActor key opts =>
      obtain rfl := Option.some.inj hstep
      exact h.getOrCreateActor key opts
  | setOpts key inPlace opts =>
      obtain ⟨e, he, hstep⟩ := Option.bind_eq_some_iff.1 hstep
      obtain rfl := Option.some.inj hstep
      refine h.setState fun e he _ => ?_
      exact ⟨(h key e he).owner, (h key e he).connected⟩
  | effect key throws =>
      obtain ⟨e, he, hstep⟩ := Option.bind_eq_some_iff.1 hstep
      split at hstep
      · rename_i hconnects
        obtain rfl := Option.some.inj hstep
        obtain ⟨hattempts, hlive⟩ := (h key e he).idle hconnects
        refine h.setState fun e' he' prevOpts => ?_
        rw [he] at he'
        obtain rfl := Option.some.inj he'
        exact ((h key e he).withPrevOpts prevOpts).create hattempts hlive throws
      · obtain rfl := Option.some.inj hstep
        exact h
  | create key throws =>
      obtain ⟨e, he, hstep⟩ := Option.bind_eq_some_iff.1 hstep
      obtain rfl := Option.some.inj hstep
      refine h.setState fun e' he' prevOpts => ?_
      obtain ⟨hattempts, hlive⟩ := hcareful e' he'
      exact ((h key e' he').withPrevOpts prevOpts).create hattempts hlive throws
  | resolves key n =>
      obtain ⟨e, he, hstep⟩ := Option.bind_eq_some_iff.1 hstep
      split at hstep
      · rename_i hn
        obtain rfl := Option.some.inj hstep
        refine h.setState fun e' he' prevOpts => ?_
        rw [he] at he'
        obtain rfl := Option.some.inj he'
        exact ((h key e he).withPrevOpts prevOpts).resolved hn
      · cases hstep
  | rejects key n error =>
      obtain ⟨e, he, hstep⟩ := Option.bind_eq_some_iff.1 hstep
      split at hstep
      · rename_i hn
        obtain rfl := Option.some.inj hstep
        refine h.setState fun e' he' prevOpts => ?_
        have hdisposed := hcareful e' he'
        rw [he] at he'
        obtain rfl := Option.some.inj he'
        exact ((h key e he).withPrevOpts prevOpts).rejected hn hdisposed error
      · cases hstep
  | disposes key n =>
      obtain ⟨e, he, hstep⟩ := Option.bind_eq_some_iff.1 hstep
      split at hstep
      · obtain rfl := Option.some.inj hstep
        intro k e' hk
        dsimp only at hk
        split at hk
        · obtain rfl := Option.some.inj hk
          exact (h key e he).dispose n
        · exact h k e' hk
      · cases hstep

/-- And so does every careful run. -/
theorem owned_reaches (h : storeSystem.Reaches Careful s) : s.Owned := by
  refine System.Reaches.invariant (P := Owned) ?_ ?_ h
  · rintro s rfl key e he
    cases he
  · exact fun s a s' _ hinv hcareful hstep => hinv.step hcareful hstep

-- ================================================================ the result

/-- In a careful run every entry has one connection at most that was not
disposed, and it is the store's or that of the attempt in progress. -/
theorem store_owns (h : storeSystem.Reaches Careful s) :
    ∀ key e, s.actors key = some e → e.Owns :=
  fun key e he => (owned_reaches h key e he).owns

/-- Options as `useActor` sets them. -/
def chatOptions : ActorOptions := { json := "chat", enabled := true }

/-- The effect connects an entry. -/
def connectRun : List StoreStep :=
  [.getOrCreateActor "chat" chatOptions, .setOpts "chat" true chatOptions,
    .effect "chat" false]

/-- The program disposes the connection, so the attempt fails, and connects
the entry again. That attempt succeeds, the effect runs once more, and the
options change. -/
def reconnectRun : List StoreStep :=
  connectRun ++
    [.disposes "chat" 0, .rejects "chat" 0 "disposed", .create "chat" false,
      .resolves "chat" 1, .effect "chat" false,
      .setOpts "chat" false { json := "chat2", enabled := true }]

theorem store_owns_chat :
    ∃ s, storeSystem.run {} reconnectRun = some s
      ∧ ∀ key e, s.actors key = some e → e.Owns := by
  refine ⟨_, rfl,
    store_owns (System.Reaches.run reconnectRun (.init rfl) ?_ rfl)⟩
  refine ⟨trivial, trivial, trivial, trivial, ?_, ?_, trivial, trivial,
    trivial, trivial⟩
  · intro e he
    cases he
    decide
  · intro e he
    cases he
    decide

/-- Without a call of `create` an attempt that fails leaves its connection
to nobody. Without a failure a second `create` opens a second one. -/
theorem failed_attempt_leaks :
    (¬ ∀ s, storeSystem.Reaches
        (fun _ a => ∀ key throws, a ≠ .create key throws) s →
          ∀ key e, s.actors key = some e → e.Owns)
      ∧ ¬ ∀ s, storeSystem.Reaches
        (fun _ a => ∀ key n error, a ≠ .rejects key n error) s →
          ∀ key e, s.actors key = some e → e.Owns := by
  constructor
  · intro hall
    have hok : storeSystem.RunOk
        (fun _ a => ∀ key throws, a ≠ .create key throws) {}
        (connectRun ++ [.rejects "chat" 0 "no manager"]) :=
      ⟨by simp, by simp, by simp, by simp, trivial⟩
    have h := hall _ (System.Reaches.run _ (.init rfl) hok rfl) "chat" _ rfl
    obtain hstored | hattempt := h.owned 0 (by decide)
    · cases hstored
    · cases hattempt
  · intro hall
    have hok : storeSystem.RunOk
        (fun _ a => ∀ key n error, a ≠ .rejects key n error) {}
        (connectRun ++ [.create "chat" false]) :=
      ⟨by simp, by simp, by simp, by simp, trivial⟩
    have h := hall _ (System.Reaches.run _ (.init rfl) hok rfl) "chat" _ rfl
    exact absurd h.one (by decide)

end RivetKitStore

end RivetKit.FrameworkBase
