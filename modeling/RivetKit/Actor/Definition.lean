/-
Actor definitions and their registry (actor/definition.ts).
-/

namespace RivetKit.Actor

/-- `RegistryConfig`: the names of its actor definitions. -/
structure RegistryConfig where
  use : List String

/-- `lookupInRegistry` finds a definition. -/
def RegistryConfig.lookup (config : RegistryConfig) (name : String) : Bool :=
  name ∈ config.use

end RivetKit.Actor
