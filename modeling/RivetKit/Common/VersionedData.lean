/-
Versioned data (common/versioned-data.ts): bytes behind the number of the
schema version they were written with, and the migrations from older
versions on.
-/

namespace RivetKit.Common

/-- `VersionedDataConfig`. Serializing and deserializing one version may
throw; the migrations go from the version they are found under to the
next. -/
structure VersionedDataConfig (α : Type) where
  currentVersion : UInt32
  migrations : UInt32 → Option (α → α)
  serializeVersion : α → Option (List UInt8)
  deserializeVersion : List UInt8 → Option α

variable {α : Type}

/-- `embedVersion`: four bytes, little endian. -/
def embedVersion (version : UInt32) (data : List UInt8) : List UInt8 :=
  let n := version.toNat
  UInt8.ofNat n :: UInt8.ofNat (n / 256) :: UInt8.ofNat (n / 65536)
    :: UInt8.ofNat (n / 16777216) :: data

/-- `extractVersion`. -/
def extractVersion : List UInt8 → Option (UInt32 × List UInt8)
  | a :: b :: c :: d :: data =>
      some (UInt32.ofNat (a.toNat + 256 * b.toNat + 65536 * c.toNat
        + 16777216 * d.toNat), data)
  | _ => none

namespace VersionedDataConfig

/-- The loop of `deserialize`: one migration after another, over this
many versions. -/
def migrate (config : VersionedDataConfig α) :
    Nat → UInt32 → α → Option α
  | 0, _, data => some data
  | n + 1, version, data =>
      match config.migrations version with
      | some migration => config.migrate n (version + 1) (migration data)
      | none => none

/-- `deserialize`. -/
def deserialize (config : VersionedDataConfig α) (bytes : List UInt8)
    (version : UInt32) : Option α :=
  if version = config.currentVersion then config.deserializeVersion bytes
  else if config.currentVersion < version then none
  else
    match config.deserializeVersion bytes with
    | some data =>
        config.migrate (config.currentVersion.toNat - version.toNat) version
          data
    | none => none

/-- `serializeWithEmbeddedVersion`. -/
def serializeWithEmbeddedVersion (config : VersionedDataConfig α)
    (data : α) : Option (List UInt8) :=
  match config.serializeVersion data with
  | some bytes => some (embedVersion config.currentVersion bytes)
  | none => none

/-- `deserializeWithEmbeddedVersion`. -/
def deserializeWithEmbeddedVersion (config : VersionedDataConfig α)
    (bytes : List UInt8) : Option α :=
  match extractVersion bytes with
  | some (version, data) => config.deserialize data version
  | none => none

end VersionedDataConfig

-- ============================================================ round trip

/-- The version and the data come back. -/
theorem extractVersion_embedVersion (version : UInt32) (data : List UInt8) :
    extractVersion (embedVersion version data) = some (version, data) := by
  have hlt := version.toNat_lt
  have hsum : (UInt8.ofNat version.toNat).toNat
      + 256 * (UInt8.ofNat (version.toNat / 256)).toNat
      + 65536 * (UInt8.ofNat (version.toNat / 65536)).toNat
      + 16777216 * (UInt8.ofNat (version.toNat / 16777216)).toNat
      = version.toNat := by
    simp only [UInt8.toNat_ofNat']
    omega
  unfold extractVersion embedVersion
  dsimp only
  rw [hsum, UInt32.ofNat_toNat]

/-- Data of the current version comes back as its own codec returns it. -/
theorem deserialize_serialize (config : VersionedDataConfig α) {data : α}
    {bytes : List UInt8} (h : config.serializeVersion data = some bytes) :
    ∃ wire, config.serializeWithEmbeddedVersion data = some wire
      ∧ config.deserializeWithEmbeddedVersion wire
        = config.deserializeVersion bytes := by
  refine ⟨embedVersion config.currentVersion bytes, ?_, ?_⟩
  · unfold VersionedDataConfig.serializeWithEmbeddedVersion
    rw [h]
  · unfold VersionedDataConfig.deserializeWithEmbeddedVersion
    rw [extractVersion_embedVersion]
    show config.deserialize bytes config.currentVersion = _
    unfold VersionedDataConfig.deserialize
    rw [if_pos rfl]

end RivetKit.Common
