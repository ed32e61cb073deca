import SourceGen.Proofs.Pipeline.Failures
import SourceGen.Proofs.Validation.Acceptance

/-!
# Overrides under validation and generation

Validation goes through the overrides opcode by opcode and tells every fault; the opcode plugin resolves
them behaviour by behaviour and stops at the first. Of a section with opcodes both accept the same
overrides, and the override that the plugin stops at is one that validation has objected to.
-/

namespace SourceGen

open Spec Emit Validation

variable {ops : OpcodeSection}

/-! ## Problems with overrides -/

namespace Validation

theorem mem_overrideProblems_iff {problem : Problem} :
    problem ∈ overrideProblems ops ↔ ∃ name opcode behaviour given cause,
      (name, opcode) ∈ ops.opcodes.entries ∧ (behaviour, given) ∈ opcode.overrides.entries ∧
        overrideProblem ops name behaviour given = some cause ∧
          problem = ⟨"$." ++ overrideKey name behaviour, cause⟩ := by
  simp only [overrideProblems, opcodeOverrideProblems, List.mem_flatMap, Option.mem_toList,
    Option.map_eq_some_iff, Prod.exists]
  constructor
  · rintro ⟨name, opcode, hopcode, behaviour, given, hgiven, cause, hcause, rfl⟩
    exact ⟨name, opcode, behaviour, given, cause, hopcode, hgiven, hcause, rfl⟩
  · rintro ⟨name, opcode, behaviour, given, cause, hopcode, hgiven, hcause, rfl⟩
    exact ⟨name, opcode, hopcode, behaviour, given, hgiven, cause, hcause, rfl⟩

theorem severity_of_mem_overrideProblems {problem : Problem} (h : problem ∈ overrideProblems ops) :
    problem.cause.severity = .error := by
  obtain ⟨name, opcode, behaviour, given, cause, -, -, hcause, rfl⟩ := mem_overrideProblems_iff.mp h
  exact severity_overrideProblem hcause

/-- There is no lesser fault of an override than an error. -/
theorem overrideProblems_eq_nil_iff : overrideProblems ops = [] ↔ OverridesResolve ops := by
  rw [← errorFree_overrideProblems_iff, List.eq_nil_iff_forall_not_mem]
  constructor
  · intro h problem hproblem
    exact absurd hproblem (h problem)
  · intro h problem hproblem
    exact h problem hproblem (severity_of_mem_overrideProblems hproblem)

/-- Validation objects to an override. -/
def ObjectsTo (ops : OpcodeSection) (name behaviour : String) : Prop :=
  ∃ problem ∈ overrideProblems ops, problem.path = "$." ++ overrideKey name behaviour

theorem objects_of_overrideProblem_ne_none {name behaviour : String} {opcode : Opcode} {given : Override}
    (hopcode : (name, opcode) ∈ ops.opcodes.entries)
    (hgiven : (behaviour, given) ∈ opcode.overrides.entries)
    (h : overrideProblem ops name behaviour given ≠ none) : ObjectsTo ops name behaviour := by
  obtain ⟨cause, hcause⟩ := Option.ne_none_iff_exists'.mp h
  exact ⟨_, mem_overrideProblems_iff.mpr
    ⟨name, opcode, behaviour, given, cause, hopcode, hgiven, hcause, rfl⟩, rfl⟩

end Validation

/-! ## Refused overrides -/

namespace Emit

/-- The error lies at an override that validation objects to. -/
def AtObjection (ops : OpcodeSection) (error : GenError) : Prop :=
  ∃ name behaviour reason, error = .malformedSpec (overrideKey name behaviour) reason ∧
    ObjectsTo ops name behaviour

theorem exists_reason_of_failure?_aliasedBody {key behaviour aliased : String} {error : GenError}
    (h : failure? (aliasedBody ops key behaviour aliased) = some error) :
    ∃ reason, error = .malformedSpec key reason := by
  rw [aliasedBody] at h
  split at h
  · cases h
    exact ⟨_, rfl⟩
  · split at h <;> cases h
    · exact ⟨_, rfl⟩
    · exact ⟨_, rfl⟩

theorem atObjection_of_overrideBody {name behaviour : String} {opcode : Opcode} {error : GenError}
    (hopcode : (name, opcode) ∈ ops.opcodes.entries)
    (h : failure? (overrideBody ops name opcode behaviour) = some error) : AtObjection ops error := by
  rw [overrideBody] at h
  split at h
  · cases h
  · cases h
  · next aliased halias =>
    rw [failure?_map] at h
    obtain ⟨reason, rfl⟩ := exists_reason_of_failure?_aliasedBody h
    refine ⟨name, behaviour, reason, rfl, ?_⟩
    have hbody : ¬ HasBody ops aliased behaviour := by
      rw [← failure?_aliasedBody_eq_none_iff, h]
      exact Option.some_ne_none _
    have hproblem : overrideProblem ops name behaviour (.sameAs aliased) ≠ none := by
      rw [Ne, overrideProblem_eq_none_iff]
      exact fun haccepted ↦ hbody (haccepted.2 aliased rfl)
    exact objects_of_overrideProblem_ne_none hopcode (OrderedMap.get?_eq_some_iff.mp halias) hproblem

theorem atObjection_of_behaviourUnits {behaviours : Entries Behaviour} {error : GenError}
    (h : failure? (behaviourUnits ops behaviours) = some error) : AtObjection ops error := by
  rw [failure?_behaviourUnits] at h
  obtain ⟨behaviour, -, hbehaviour⟩ := List.exists_of_findSome?_eq_some h
  rw [failure?_specializationsOf] at hbehaviour
  obtain ⟨entry, hentry, hfails⟩ := List.exists_of_findSome?_eq_some hbehaviour
  exact atObjection_of_overrideBody hentry hfails

/-- Before it resolves anything, the plugin looks for overrides of behaviours that are not declared. -/
theorem atObjection_of_checkOverrides (hdeclared : ops.opcodes.entries ≠ []) {error : GenError}
    (h : failure? (checkOverrides ops) = some error) : AtObjection ops error := by
  rw [checkOverrides, if_neg (mt OrderedMap.isEmpty_iff.mp hdeclared)] at h
  split at h
  · next name behaviour hstray =>
    cases h
    refine ⟨name, behaviour, _, rfl, ?_⟩
    obtain ⟨⟨name', opcode⟩, hopcode, hfirst⟩ := List.exists_of_findSome?_eq_some hstray
    obtain ⟨behaviour', hfound, heq⟩ := Option.map_eq_some_iff.mp hfirst
    obtain ⟨rfl, rfl⟩ := Prod.mk.inj heq
    obtain ⟨⟨_, given⟩, hgiven, rfl⟩ := List.mem_map.mp (List.mem_of_find?_eq_some hfound)
    have hundeclared := List.find?_some hfound
    refine objects_of_overrideProblem_ne_none hopcode hgiven ?_
    rw [Ne, overrideProblem_eq_none_iff, ← OrderedMap.contains_iff]
    simp only [Bool.not_eq_true'] at hundeclared
    exact fun haccepted ↦ absurd haccepted.1 (by simp [hundeclared])
  · cases h

theorem OpcodeUnit.atObjection_of_ofSection (hdeclared : ops.opcodes.entries ≠ []) {error : GenError}
    (h : failure? (OpcodeUnit.ofSection ops) = some error) : AtObjection ops error := by
  rw [OpcodeUnit.ofSection, failure?_bind fun _ _ ↦ failure?_bind fun _ _ ↦ failure?_ok _,
    Option.or_none] at h
  rcases Option.or_eq_some_iff.mp h with hcheck | ⟨-, hunits⟩
  · exact atObjection_of_checkOverrides hdeclared hcheck
  · exact atObjection_of_behaviourUnits hunits

end Emit

/-! ## The plugin -/

namespace Plugin

variable {document : Document}

theorem result_process_opcodes (hops : document.opcode = some ops) (generated : FileSet)
    (config : Config) :
    (opcodes.process generated document config).result =
      (fun added ↦ some (generated.putAll added)) <$> opcodeFiles ops config := by
  simp only [opcodes, ofSection, hops, Run.result_bind, Run.result_ofExcept, Run.result_pure]
  cases opcodeFiles ops config <;> rfl

/-- With opcodes declared, the opcode plugin succeeds exactly if validation has nothing to say about the
overrides, and otherwise fails at an override that validation reports as an error. -/
theorem opcodes_succeeds_iff_overridesProblems_eq_nil (hops : document.opcode = some ops)
    (hdeclared : ops.opcodes.entries ≠ []) (generated : FileSet) (config : Config) (file : String) :
    ((∃ outcome, (opcodes.process generated document config).result = .ok outcome) ↔
        (overridesProblems document).map (·.entry file) = []) ∧
      ∀ error, (opcodes.process generated document config).result = .error error →
        ∃ key reason, error = .malformedSpec key reason ∧
          ∃ entry ∈ (overridesProblems document).map (·.entry file),
            entry.severity = .error ∧ entry.path = "$." ++ key := by
  have hproblems : overridesProblems document = overrideProblems ops := by
    rw [overridesProblems, hops]
    rfl
  rw [hproblems, List.map_eq_nil_iff, overrideProblems_eq_nil_iff,
    result_process_opcodes hops generated config]
  constructor
  · have hresolve : (∃ added, opcodeFiles ops config = .ok added) ↔ OverridesResolve ops := by
      rw [← failure?_eq_none_iff, failure?_opcodeFiles, OpcodeUnit.failure?_ofSection_eq_none_iff,
        and_iff_right hdeclared]
    simp only [map_eq_ok, ← hresolve]
    constructor
    · rintro ⟨outcome, added, hadded, -⟩
      exact ⟨added, hadded⟩
    · rintro ⟨added, hadded⟩
      exact ⟨_, added, hadded, rfl⟩
  · intro error herror
    have hfails : failure? (OpcodeUnit.ofSection ops) = some error := by
      rw [← failure?_opcodeFiles config, ← failure?_map, herror, failure?_error]
    obtain ⟨name, behaviour, reason, rfl, problem, hproblem, hpath⟩ :=
      OpcodeUnit.atObjection_of_ofSection hdeclared hfails
    exact ⟨_, reason, rfl, problem.entry file, List.mem_map_of_mem hproblem,
      severity_of_mem_overrideProblems hproblem, hpath⟩

/-- One opcode with a body for a behaviour, a second that takes it from the first, a third that takes it
from the second, and a fourth that takes it from itself. -/
def chainedOpcodes : OpcodeSection where
  params := "T* out"
  opcodes := .ofEntries [
    ("ADD", { statement := ";", overrides := .ofEntries [("shape", .body "return 1;")] }),
    ("SUB", { statement := ";", overrides := .ofEntries [("shape", .sameAs "ADD")] }),
    ("MUL", { statement := ";", overrides := .ofEntries [("shape", .sameAs "SUB")] }),
    ("DIV", { statement := ";", overrides := .ofEntries [("shape", .sameAs "DIV")] })]
  behaviours := .ofEntries [("shape", { fallback := "return 0;" })]

theorem opcodes_refuses_chainedOpcodes :
    chainedOpcodes.opcodes.entries ≠ [] ∧
      (opcodes.process ∅ { opcode := some chainedOpcodes } {}).result =
        .error (.malformedSpec "opcode.opcalls.MUL.per_op_overrides.shape"
          "'SUB' is itself an alias; aliases cannot be chained") ∧
      ∃ entry ∈ (overridesProblems { opcode := some chainedOpcodes }).map (·.entry "ops.yml"),
        entry.severity = .error ∧ entry.path = "$.opcode.opcalls.MUL.per_op_overrides.shape" := by
  have hdeclared : chainedOpcodes.opcodes.entries ≠ [] := by decide
  have hresult : (opcodes.process ∅ { opcode := some chainedOpcodes } {}).result =
      .error (.malformedSpec "opcode.opcalls.MUL.per_op_overrides.shape"
        "'SUB' is itself an alias; aliases cannot be chained") := by
    rw [result_process_opcodes rfl]
    rfl
  have hops : ({ opcode := some chainedOpcodes } : Document).opcode = some chainedOpcodes := rfl
  obtain ⟨-, hfails⟩ := opcodes_succeeds_iff_overridesProblems_eq_nil hops hdeclared ∅ {} "ops.yml"
  obtain ⟨key, reason, herror, hentry⟩ := hfails _ hresult
  obtain ⟨rfl, -⟩ := GenError.malformedSpec.inj herror
  exact ⟨hdeclared, hresult, hentry⟩

end Plugin

end SourceGen
