import SourceGen.Emit.Classes
import SourceGen.Proofs.Emit.Functions
import SourceGen.Proofs.Template.Filling
import Mathlib.Tactic.ByContra

/-!
# When a class can be emitted

A class is emitted exactly if each of its functions bears one name and the init lists of its constructor,
its copy and its move name declared members.
-/

namespace SourceGen.Emit

open Spec Template

variable {cls : ClassDecl} {namespaceName field : String}

/-! ## Init lists -/

theorem memberPosition?_eq_none_iff {name : String} :
    memberPosition? cls name = none ↔ ¬ ∃ member ∈ cls.members, member.name = name := by
  simp [memberPosition?, List.findIdx?_eq_none_iff]

theorem failure?_placeEntries_eq_none_iff {entries : Entries String} :
    failure? (placeEntries namespaceName cls field entries) = none ↔
      ∀ key ∈ entries.keys, ∃ member ∈ cls.members, member.name = key := by
  induction entries with
  | nil => simp [placeEntries, Entries.keys]
  | cons entry rest ih =>
    obtain ⟨name, value⟩ := entry
    have hkeys : Entries.keys ((name, value) :: rest) = name :: Entries.keys rest := rfl
    rw [placeEntries, hkeys, List.forall_mem_cons, ← ih]
    split
    · next hposition => simp [memberPosition?_eq_none_iff.mp hposition]
    · next i hposition =>
      have hmember : ∃ member ∈ cls.members, member.name = name := by
        by_contra hnone
        rw [memberPosition?_eq_none_iff.mpr hnone] at hposition
        cases hposition
      simp only [failure?_map, hmember, true_and]

theorem placeEntries_failsOnly (entries : Entries String) :
    FailsOnly GenError.IsMalformedSpec (placeEntries namespaceName cls field entries) := by
  induction entries with
  | nil => exact .ok _
  | cons entry rest ih =>
    rw [placeEntries]
    split
    · exact .error ⟨_, _, rfl⟩
    · exact ih.map _

theorem failure?_orderEntries_eq_none_iff {initList : OrderedMap String} :
    failure? (orderEntries namespaceName cls field initList) = none ↔ NamesMembers cls initList := by
  rw [orderEntries, failure?_map, failure?_placeEntries_eq_none_iff]
  rfl

theorem orderEntries_failsOnly (initList : OrderedMap String) :
    FailsOnly GenError.IsMalformedSpec (orderEntries namespaceName cls field initList) :=
  (placeEntries_failsOnly _).map _

/-! ## Definitions -/

theorem failure?_constructDefinition_eq_none_iff :
    failure? (constructDefinition namespaceName cls) = none ↔
      ∀ spec, cls.init = some spec → NamesMembers cls spec.initList := by
  rw [constructDefinition]
  cases cls.init with
  | none => simp
  | some spec => simp [failure?_orderEntries_eq_none_iff]

theorem failure?_transferDefinition_eq_none_iff {kind : TransferKind} {transfer : Option Transfer} :
    failure? (transferDefinition namespaceName cls kind field transfer) = none ↔
      ∀ spec, transfer = some spec → NamesMembers cls spec.initList := by
  cases transfer with
  | none => simp [transferDefinition]
  | some spec => simp [transferDefinition, failure?_orderEntries_eq_none_iff]

theorem specialDefinitions_failsOnly :
    FailsOnly GenError.IsMalformedSpec (specialDefinitions namespaceName cls) := by
  have hconstruct : FailsOnly GenError.IsMalformedSpec (constructDefinition namespaceName cls) := by
    rw [constructDefinition]
    split
    · exact .ok _
    · exact (orderEntries_failsOnly _).map _
  have htransfer : ∀ kind field spec,
      FailsOnly GenError.IsMalformedSpec (transferDefinition namespaceName cls kind field spec) := by
    intro kind field spec
    cases spec with
    | none => exact .ok _
    | some spec => exact (orderEntries_failsOnly _).map _
  exact hconstruct.bind fun _ ↦ (htransfer _ _ _).bind fun _ ↦ (htransfer _ _ _).bind fun _ ↦ .ok _

theorem failure?_specialDefinitions_eq_none_iff :
    failure? (specialDefinitions namespaceName cls) = none ↔
      (∀ spec, cls.init = some spec → NamesMembers cls spec.initList) ∧ TransfersNameMembers cls := by
  rw [specialDefinitions, failure?_bind fun _ _ ↦ failure?_bind fun _ _ ↦ failure?_bind fun _ _ ↦
    failure?_ok _]
  simp only [Option.or_eq_none_iff, failure?_constructDefinition_eq_none_iff,
    failure?_transferDefinition_eq_none_iff, and_true]
  constructor
  · rintro ⟨hinit, hcopy, hmove⟩
    exact ⟨hinit, hcopy, hmove⟩
  · rintro ⟨hinit, htransfers⟩
    exact ⟨hinit, htransfers.copy, htransfers.move⟩

/-! ## Classes -/

theorem ClassUnit.ofClass_failsOnly :
    FailsOnly GenError.IsMalformedSpec (ClassUnit.ofClass namespaceName cls) := by
  refine (checkShapes_failsOnly _ _ _).bind fun _ ↦ specialDefinitions_failsOnly.bind fun _ ↦ ?_
  split
  · exact .ok _
  · exact .ok _

theorem ClassUnit.failure?_ofClass_eq_none_iff :
    failure? (ClassUnit.ofClass namespaceName cls) = none ↔ ClassEmittable cls := by
  have hunit : ∀ special, failure? (if cls.usedTemplate.isSome then
        (.ok ⟨cls, special ++ cls.functions.map .function, []⟩ : Except GenError ClassUnit)
      else .ok ⟨cls, (cls.functions.filter isTemplated).map .function,
        special ++ (cls.functions.filter fun function ↦ !isTemplated function).map .function⟩) =
        none := by
    intro special
    split <;> rfl
  rw [ClassUnit.ofClass, failure?_bind fun _ _ ↦ failure?_bind fun special _ ↦ hunit special]
  simp only [Option.or_eq_none_iff, failure?_checkShapes_eq_none_iff,
    failure?_specialDefinitions_eq_none_iff, and_true]
  constructor
  · rintro ⟨hfunctions, hinit, htransfers⟩
    exact ⟨hfunctions, hinit, htransfers⟩
  · intro h
    exact ⟨h.functions, h.init, h.transfers⟩

/-! ## The declaration -/

theorem failure?_classDeclaration (cls : ClassDecl) (api : Api) :
    failure? (classDeclaration cls api) = none := by
  refine failure?_eq_none_iff.mpr (fill_of_readsWithin ?_)
  simp only [classLines, Entries.keys, List.map_cons, List.map_nil]
  repeat refine .forall_cons (by decide +kernel) ?_
  exact List.forall_mem_nil _

end SourceGen.Emit
