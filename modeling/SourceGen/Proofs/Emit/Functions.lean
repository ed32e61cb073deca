import SourceGen.Emit.Functions
import SourceGen.Proofs.Outcome
import SourceGen.Proofs.Spec.Emittable

/-!
# Functions with one name

The check on functions passes exactly if each of them bears either a name or an operator symbol.
-/

namespace SourceGen.Emit

open Spec

theorem failure?_checkShape_eq_none_iff {function : FunctionDecl} {key : String} :
    failure? (checkShape function key) = none ↔ NamedOnce function := by
  rw [checkShape, NamedOnce]
  cases function.name <;> cases function.operator <;> simp

theorem checkShape_failsOnly (function : FunctionDecl) (key : String) :
    FailsOnly GenError.IsMalformedSpec (checkShape function key) := by
  rw [checkShape]
  split
  · exact .error ⟨_, _, rfl⟩
  · exact .error ⟨_, _, rfl⟩
  · exact .ok _

theorem failure?_checkShapes_eq_none_iff {key : String} {i : Nat} {functions : List FunctionDecl} :
    failure? (checkShapes key i functions) = none ↔ ∀ function ∈ functions, NamedOnce function := by
  induction functions generalizing i with
  | nil => simp [checkShapes]
  | cons function rest ih =>
    rw [checkShapes, failure?_bind fun _ _ ↦ rfl, Option.or_eq_none_iff,
      failure?_checkShape_eq_none_iff, ih, List.forall_mem_cons]

theorem checkShapes_failsOnly (key : String) (i : Nat) (functions : List FunctionDecl) :
    FailsOnly GenError.IsMalformedSpec (checkShapes key i functions) := by
  induction functions generalizing i with
  | nil => exact .ok _
  | cons function rest ih => exact (checkShape_failsOnly _ _).bind fun _ ↦ ih (i + 1)

end SourceGen.Emit
