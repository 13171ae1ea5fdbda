/-
Data of an older schema version, read by a handler of a later one
(common/versioned-data.ts).

# A chain of versions

Every version has a codec and, where it has one, a migration to the next
version. A handler of version `c` is built from the codec of `c` and the
migrations. What it should make of a value of version `v` is `migrated`:
the migrations from `v` to `c`, one after another.

# What it makes of it

`deserialize` reads the bytes with its own codec, whatever version they
are of, and runs its loop on what comes out. The loop is `migrated`
(`migrate_eq`) and ends after one turn a version (`loop_ends`). So data
comes back as it should if the codec of `c` reads the bytes of `v` as a
value that is migrated to the same, and not otherwise
(`migrates_iff`).
-/
import RivetKit.Common.VersionedData

namespace RivetKit.Common

variable {α : Type}

-- ============================================================= the chain

/-- The versions of a schema. A codec reads what it wrote. -/
structure VersionChain (α : Type) where
  serializeVersion : UInt32 → α → Option (List UInt8)
  deserializeVersion : UInt32 → List UInt8 → Option α
  reads : ∀ {version data bytes},
    serializeVersion version data = some bytes →
      deserializeVersion version bytes = some data
  migrations : UInt32 → Option (α → α)

namespace VersionChain

/-- The handler whose current version this is. -/
def handler (chain : VersionChain α) (version : UInt32) :
    VersionedDataConfig α :=
  { currentVersion := version
    migrations := chain.migrations
    serializeVersion := chain.serializeVersion version
    deserializeVersion := chain.deserializeVersion version }

/-- The versions from `v` up to `c`. -/
def versions (v c : UInt32) : List UInt32 :=
  (List.range (c.toNat - v.toNat)).map fun i => v + UInt32.ofNat i

/-- One migration after another. -/
def migrated (chain : VersionChain α) (v c : UInt32) (data : α) :
    Option α :=
  (versions v c).foldlM
    (fun data version => (chain.migrations version).map fun f => f data)
    data

/-- A migration is missing between these versions. -/
def Missing (chain : VersionChain α) (v c : UInt32) : Prop :=
  ∃ w, v ≤ w ∧ w < c ∧ chain.migrations w = none

end VersionChain

-- ============================================================== the loop

namespace VersionedDataConfig

/-- Where `deserialize` is in its loop. -/
inductive LoopState (α : Type)
  | running (currentVersion : UInt32) (currentData : α)
  | returned (data : α)
  | threw

/-- One turn of the loop, or its end. -/
def loopStep (config : VersionedDataConfig α) : LoopState α → LoopState α
  | .running currentVersion currentData =>
      if currentVersion < config.currentVersion then
        match config.migrations currentVersion with
        | some migration =>
            .running (currentVersion + 1) (migration currentData)
        | none => .threw
      else .returned currentData
  | ended => ended

/-- The turns of the loop. -/
def loop (config : VersionedDataConfig α) : Nat → LoopState α → LoopState α
  | 0, s => s
  | n + 1, s => config.loop n (config.loopStep s)

/-- How the loop ended. -/
def ended : Option α → LoopState α
  | some data => .returned data
  | none => .threw

end VersionedDataConfig

open VersionedDataConfig

theorem loop_ended (config : VersionedDataConfig α) (n : Nat)
    (result : Option α) : config.loop n (ended result) = ended result := by
  induction n with
  | zero => rfl
  | succ n ih =>
    cases result with
    | some data => exact ih
    | none => exact ih

/-- The loop ends after one turn a version, with what `migrate` says. -/
theorem loop_ends (config : VersionedDataConfig α) (n : Nat) :
    ∀ (version : UInt32) (data : α),
      version.toNat + n = config.currentVersion.toNat →
        config.loop (n + 1) (.running version data)
          = ended (config.migrate n version data) := by
  induction n with
  | zero =>
    intro version data h
    have hlt : ¬ version < config.currentVersion := by
      rw [UInt32.lt_iff_toNat_lt]
      omega
    show config.loopStep (.running version data) = _
    unfold loopStep
    exact if_neg hlt
  | succ n ih =>
    intro version data h
    have hlt : version < config.currentVersion := by
      rw [UInt32.lt_iff_toNat_lt]
      omega
    have hnext : (version + 1).toNat + n = config.currentVersion.toNat := by
      have hbound := config.currentVersion.toNat_lt
      rw [UInt32.toNat_add]
      show (version.toNat + 1) % 2 ^ 32 + n = _
      omega
    show config.loop (n + 1) (config.loopStep (.running version data)) = _
    unfold loopStep migrate
    dsimp only
    rw [if_pos hlt]
    cases config.migrations version with
    | none => exact loop_ended config (n + 1) none
    | some migration => exact ih (version + 1) (migration data) hnext

-- ============================================================ the result

namespace VersionChain

variable (chain : VersionChain α)

/-- From `v` on: `v` itself first. -/
theorem versions_succ {v : UInt32} {n : Nat} {c : UInt32}
    (h : v.toNat + (n + 1) = c.toNat) :
    versions v c = v :: versions (v + 1) c := by
  have hbound := c.toNat_lt
  have hnext : (v + 1).toNat = v.toNat + 1 := by
    rw [UInt32.toNat_add]
    show (v.toNat + 1) % 2 ^ 32 = _
    omega
  unfold versions
  rw [show c.toNat - v.toNat = n + 1 by omega,
    show c.toNat - (v + 1).toNat = n by omega, List.range_succ_eq_map,
    List.map_cons, List.map_map]
  congr 1
  · simp
  · apply List.map_congr_left
    intro i _
    show v + UInt32.ofNat (i + 1) = v + 1 + UInt32.ofNat i
    rw [UInt32.ofNat_add, UInt32.add_comm (UInt32.ofNat i),
      ← UInt32.add_assoc]
    rfl

theorem versions_self (v : UInt32) : versions v v = [] := by
  unfold versions
  rw [Nat.sub_self]
  rfl

/-- The loop runs the migrations of the chain. -/
theorem migrate_eq (c : UInt32) (n : Nat) :
    ∀ (v : UInt32) (data : α), v.toNat + n = c.toNat →
      (chain.handler c).migrate n v data = chain.migrated v c data := by
  induction n with
  | zero =>
    intro v data h
    rw [UInt32.toNat_inj.1 (show v.toNat = c.toNat by omega)]
    unfold migrated
    rw [versions_self]
    rfl
  | succ n ih =>
    intro v data h
    have hbound := c.toNat_lt
    have hnext : (v + 1).toNat + n = c.toNat := by
      rw [UInt32.toNat_add]
      show (v.toNat + 1) % 2 ^ 32 + n = _
      omega
    unfold migrated migrate
    rw [versions_succ h, List.foldlM_cons]
    show (match chain.migrations v with
      | some migration => _
      | none => none) = _
    cases chain.migrations v with
    | none => rfl
    | some migration => exact ih (v + 1) (migration data) hnext

/-- A value is migrated, unless a migration is missing. -/
theorem migrated_eq_none_iff (c : UInt32) (n : Nat) :
    ∀ (v : UInt32) (data : α), v.toNat + n = c.toNat →
      (chain.migrated v c data = none ↔ chain.Missing v c) := by
  induction n with
  | zero =>
    intro v data h
    have hsame := UInt32.toNat_inj.1 (show v.toNat = c.toNat by omega)
    rw [hsame]
    unfold migrated
    rw [versions_self]
    constructor
    · intro hnone
      exact absurd hnone (by simp)
    · intro ⟨w, hle, hlt, _⟩
      rw [UInt32.le_iff_toNat_le] at hle
      rw [UInt32.lt_iff_toNat_lt] at hlt
      omega
  | succ n ih =>
    intro v data h
    have hbound := c.toNat_lt
    have hnext : (v + 1).toNat = v.toNat + 1 := by
      rw [UInt32.toNat_add]
      show (v.toNat + 1) % 2 ^ 32 = _
      omega
    unfold migrated
    rw [versions_succ h, List.foldlM_cons]
    cases hmigration : chain.migrations v with
    | none =>
      constructor
      · intro _
        refine ⟨v, UInt32.le_refl v, ?_, hmigration⟩
        rw [UInt32.lt_iff_toNat_lt]
        omega
      · intro _
        rfl
    | some migration =>
      have hrest := ih (v + 1) (migration data) (by omega)
      show chain.migrated (v + 1) c (migration data) = none ↔ _
      rw [hrest]
      constructor
      · intro ⟨w, hle, hlt, hnone⟩
        refine ⟨w, ?_, hlt, hnone⟩
        rw [UInt32.le_iff_toNat_le] at hle ⊢
        omega
      · intro ⟨w, hle, hlt, hnone⟩
        refine ⟨w, ?_, hlt, hnone⟩
        have hne : w ≠ v := by
          intro hwv
          rw [hwv, hmigration] at hnone
          exact absurd hnone (by simp)
        have hneNat : w.toNat ≠ v.toNat :=
          fun heq => hne (UInt32.toNat_inj.1 heq)
        rw [UInt32.le_iff_toNat_le] at hle ⊢
        omega

/-- What reading data of version `v` at version `c` should come to. -/
structure Migrates (v c : UInt32) (data : α) (wire : List UInt8) :
    Prop where
  result : v ≤ c → ¬ chain.Missing v c →
    (chain.handler c).deserializeWithEmbeddedVersion wire
      = chain.migrated v c data
  error : (chain.handler c).deserializeWithEmbeddedVersion wire = none
    ↔ c < v ∨ chain.Missing v c
  ends : ∀ (version : UInt32) (data : α), version ≤ c →
    ∃ n result, (chain.handler c).loop n (.running version data)
      = ended result

/-- The codec of `c` reads the bytes of `v` as a value that is migrated
to the same. -/
def ReadsAlike (v c : UInt32) (data : α) : Prop :=
  ∀ bytes, chain.serializeVersion v data = some bytes →
    ∃ read, chain.deserializeVersion c bytes = some read
      ∧ chain.migrated v c read = chain.migrated v c data

/-- What the code makes of data of an older version. -/
theorem deserialize_older {v c : UInt32} (h : v < c) (bytes : List UInt8) :
    (chain.handler c).deserializeWithEmbeddedVersion (embedVersion v bytes)
      = (chain.deserializeVersion c bytes).bind (chain.migrated v c) := by
  rw [UInt32.lt_iff_toNat_lt] at h
  have hne : v ≠ (chain.handler c).currentVersion := by
    intro heq
    rw [heq] at h
    exact Nat.lt_irrefl _ h
  have hnot : ¬ (chain.handler c).currentVersion < v := by
    rw [UInt32.lt_iff_toNat_lt]
    exact Nat.not_lt.2 (Nat.le_of_lt h)
  unfold deserializeWithEmbeddedVersion
  rw [extractVersion_embedVersion]
  show (chain.handler c).deserialize bytes v = _
  unfold deserialize
  rw [if_neg hne, if_neg hnot]
  show (match chain.deserializeVersion c bytes with
    | some data => (chain.handler c).migrate (c.toNat - v.toNat) v data
    | none => none) = _
  cases chain.deserializeVersion c bytes with
  | none => rfl
  | some read => exact chain.migrate_eq c _ v read (by omega)

/-- Data of the handler's own version comes back. -/
theorem deserialize_same (v : UInt32) {data : α} {bytes : List UInt8}
    (h : chain.serializeVersion v data = some bytes) :
    (chain.handler v).deserializeWithEmbeddedVersion (embedVersion v bytes)
      = some data := by
  unfold deserializeWithEmbeddedVersion
  rw [extractVersion_embedVersion]
  show (chain.handler v).deserialize bytes v = _
  unfold deserialize
  rw [if_pos (show v = (chain.handler v).currentVersion from rfl)]
  exact chain.reads h

/-- Data of a later version is refused. -/
theorem deserialize_later {v c : UInt32} (h : c < v) (bytes : List UInt8) :
    (chain.handler c).deserializeWithEmbeddedVersion (embedVersion v bytes)
      = none := by
  have hne : v ≠ (chain.handler c).currentVersion := by
    intro heq
    rw [heq, UInt32.lt_iff_toNat_lt] at h
    exact Nat.lt_irrefl _ h
  unfold deserializeWithEmbeddedVersion
  rw [extractVersion_embedVersion]
  show (chain.handler c).deserialize bytes v = _
  unfold deserialize
  rw [if_neg hne]
  exact if_pos h

/-- The loop ends from every version on. -/
theorem loop_terminates (c version : UInt32) (data : α)
    (h : version ≤ c) :
    ∃ n result, (chain.handler c).loop n (.running version data)
      = ended result := by
  rw [UInt32.le_iff_toNat_le] at h
  refine ⟨c.toNat - version.toNat + 1, _, loop_ends _ _ _ _ ?_⟩
  show version.toNat + (c.toNat - version.toNat) = c.toNat
  omega

/-- Data that a handler of version `v` wrote is read at version `c` as it
should be if and only if it is not older, or a migration is missing, or
the codec of `c` reads it alike. -/
theorem migrates_iff (v c : UInt32) {data : α} {wire : List UInt8}
    (h : (chain.handler v).serializeWithEmbeddedVersion data = some wire) :
    chain.Migrates v c data wire
      ↔ c ≤ v ∨ chain.Missing v c ∨ chain.ReadsAlike v c data := by
  obtain ⟨bytes, hbytes, hwire⟩ : ∃ bytes,
      chain.serializeVersion v data = some bytes
        ∧ wire = embedVersion v bytes := by
    unfold serializeWithEmbeddedVersion at h
    split at h
    · next bytes hbytes =>
      exact ⟨bytes, hbytes, (Option.some.inj h).symm⟩
    · cases h
  have hends : ∀ (version : UInt32) (data : α), version ≤ c →
      ∃ n result, (chain.handler c).loop n (.running version data)
        = ended result :=
    fun version data h => chain.loop_terminates c version data h
  rw [hwire]
  by_cases hlater : c < v
  · have hread := chain.deserialize_later hlater bytes
    have hle : ¬ v ≤ c := by
      rw [UInt32.lt_iff_toNat_lt] at hlater
      rw [UInt32.le_iff_toNat_le]
      omega
    constructor
    · intro _
      exact Or.inl (UInt32.le_of_lt hlater)
    · intro _
      exact ⟨fun h => absurd h hle, ⟨fun _ => Or.inl hlater, fun _ => hread⟩,
        hends⟩
  by_cases hsame : v = c
  · rw [← hsame] at hends ⊢
    have hread := chain.deserialize_same v hbytes
    have hmigrated : chain.migrated v v data = some data := by
      unfold migrated
      rw [versions_self]
      rfl
    constructor
    · intro _
      exact Or.inl (UInt32.le_refl v)
    · intro _
      refine ⟨fun _ _ => by rw [hread, hmigrated], ?_, hends⟩
      rw [hread, ← chain.migrated_eq_none_iff v 0 v data rfl, hmigrated]
      constructor
      · intro hnone
        exact absurd hnone (by simp)
      · intro hnone
        rcases hnone with hlt | hnone
        · exact absurd hlt (UInt32.lt_irrefl v)
        · exact hnone
  -- older
  have hlt : v.toNat < c.toNat := by
    rw [UInt32.lt_iff_toNat_lt] at hlater
    have hne : v.toNat ≠ c.toNat := fun heq => hsame (UInt32.toNat_inj.1 heq)
    omega
  have hle : v ≤ c := by
    rw [UInt32.le_iff_toNat_le]
    omega
  have hnot : ¬ c ≤ v := by
    rw [UInt32.le_iff_toNat_le]
    omega
  have hnone : ∀ data, chain.migrated v c data = none ↔ chain.Missing v c :=
    fun data => chain.migrated_eq_none_iff c (c.toNat - v.toNat) v data
      (by omega)
  have hread := chain.deserialize_older (UInt32.lt_iff_toNat_lt.2 hlt) bytes
  constructor
  · intro hmigrates
    by_cases hmissing : chain.Missing v c
    · exact Or.inr (Or.inl hmissing)
    refine Or.inr (Or.inr ?_)
    intro bytes' hbytes'
    rw [hbytes] at hbytes'
    have hresult := hmigrates.result hle hmissing
    rw [hread, Option.some.inj hbytes'] at hresult
    cases hdecode : chain.deserializeVersion c bytes' with
    | none =>
      rw [hdecode] at hresult
      exact absurd ((hnone data).1 hresult.symm) hmissing
    | some read =>
      rw [hdecode] at hresult
      exact ⟨read, rfl, hresult⟩
  · intro hcond
    rcases hcond with hcond | hmissing | halike
    · exact absurd hcond hnot
    · refine ⟨fun _ h => absurd hmissing h, ?_, hends⟩
      have hthrows : (chain.deserializeVersion c bytes).bind
          (chain.migrated v c) = none := by
        cases chain.deserializeVersion c bytes with
        | none => rfl
        | some read => exact (hnone read).2 hmissing
      rw [hread, hthrows]
      exact ⟨fun _ => Or.inr hmissing, fun _ => rfl⟩
    · obtain ⟨read, hdecode, hmigrated⟩ := halike bytes hbytes
      have hresult : (chain.deserializeVersion c bytes).bind
          (chain.migrated v c) = chain.migrated v c data := by
        rw [hdecode]
        exact hmigrated
      refine ⟨fun _ _ => by rw [hread, hresult], ?_, hends⟩
      rw [hread, hresult, hnone data]
      exact ⟨Or.inr, fun h => h.resolve_left hlater⟩

/-- A chain of two versions: the second has a field more. -/
def twoVersions : VersionChain (UInt8 × Option UInt8) where
  serializeVersion version data :=
    match version, data with
    | 1, (x, none) => some [x]
    | 2, (x, some y) => some [x, y]
    | _, _ => none
  deserializeVersion version bytes :=
    match version, bytes with
    | 1, [x] => some (x, none)
    | 2, [x, y] => some (x, some y)
    | _, _ => none
  reads := by
    intro version data bytes h
    split at h
    · cases h
      rfl
    · cases h
      rfl
    · exact absurd h (by simp)
  migrations version := if version = 1 then some fun data => (data.1, some 0)
    else none

theorem migrates_iff_twoVersions :
    twoVersions.Migrates 1 2 (7, none) [1, 0, 0, 0, 7]
      ↔ (2 : UInt32) ≤ 1 ∨ twoVersions.Missing 1 2
        ∨ twoVersions.ReadsAlike 1 2 (7, none) :=
  twoVersions.migrates_iff 1 2 rfl

/-- The codec of the second version does not read the first. -/
theorem twoVersions_throws :
    ¬ ∀ (chain : VersionChain (UInt8 × Option UInt8)) (v c : UInt32)
        (data : UInt8 × Option UInt8) (wire : List UInt8),
      (chain.handler v).serializeWithEmbeddedVersion data = some wire →
        chain.Migrates v c data wire := by
  intro h
  have hmigrates := h twoVersions 1 2 (7, none) [1, 0, 0, 0, 7] rfl
  have hresult := hmigrates.result (by decide) (by
    intro ⟨w, hle, hlt, hnone⟩
    have hw : w = 1 := by
      rw [UInt32.le_iff_toNat_le] at hle
      rw [UInt32.lt_iff_toNat_lt] at hlt
      apply UInt32.toNat_inj.1
      show w.toNat = 1
      replace hle : 1 ≤ w.toNat := hle
      replace hlt : w.toNat < 2 := hlt
      omega
    rw [hw] at hnone
    exact absurd hnone (by simp [twoVersions]))
  exact absurd hresult (by decide)

end VersionChain

end RivetKit.Common
