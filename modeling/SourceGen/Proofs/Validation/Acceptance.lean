import SourceGen.Proofs.Spec.Emittable
import SourceGen.Validation.Rules

/-!
# What validation grants

A report is in order exactly if no problem behind it is an error. Overrides without errors resolve, a
default type without errors is declared, a function bears one name, and the init list of a constructor
names members: that much of a document the emitters need not look at again.
-/

namespace SourceGen.Validation

open Spec Text

/-- Among the problems there is no error. -/
def ErrorFree (problems : List Problem) : Prop :=
  ∀ problem ∈ problems, problem.cause.severity ≠ .error

@[simp] theorem errorFree_nil : ErrorFree [] := fun _ h ↦ absurd h List.not_mem_nil

@[simp] theorem errorFree_singleton {path : String} {cause : Cause} :
    ErrorFree [⟨path, cause⟩] ↔ cause.severity ≠ .error := by
  simp [ErrorFree]

@[simp] theorem errorFree_append {front back : List Problem} :
    ErrorFree (front ++ back) ↔ ErrorFree front ∧ ErrorFree back :=
  List.forall_mem_append

@[simp] theorem errorFree_flatMap {α : Type} {items : List α} {check : α → List Problem} :
    ErrorFree (items.flatMap check) ↔ ∀ item ∈ items, ErrorFree (check item) := by
  unfold ErrorFree
  constructor
  · intro h item hitem problem hproblem
    exact h problem (List.mem_flatMap.mpr ⟨item, hitem, hproblem⟩)
  · intro h problem hproblem
    obtain ⟨item, hitem, hmem⟩ := List.mem_flatMap.mp hproblem
    exact h item hitem problem hmem

/-- Problems of a section that a document need not have. -/
theorem errorFree_getD {α : Type} {part : Option α} {check : α → List Problem} :
    ErrorFree ((part.map check).getD []) ↔ ∀ a, part = some a → ErrorFree (check a) := by
  cases part <;> simp

/-! ## Reports -/

theorem ok_foldl_push (report : Report) (entries : List Entry) :
    (entries.foldl Report.push report).ok = (report.ok && entries.all fun entry ↦ !entry.isError) := by
  induction entries generalizing report with
  | nil => simp
  | cons entry rest ih => rw [List.foldl_cons, ih, Report.push, List.all_cons, Bool.and_assoc]

theorem entries_foldl_push (report : Report) (entries : List Entry) :
    (entries.foldl Report.push report).entries = report.entries ++ entries := by
  induction entries generalizing report with
  | nil => simp
  | cons entry rest ih => rw [List.foldl_cons, ih, Report.push, List.append_assoc, List.singleton_append]

theorem entries_validateFile_iff {document : Document} {file : String} :
    (∀ entry ∈ (validateFile document file).entries, entry.severity ≠ .error) ↔
      ErrorFree (problems document) := by
  rw [validateFile, entries_foldl_push]
  simp only [Report.success, List.nil_append, List.forall_mem_map, Problem.entry]
  rfl

/-- The file to which the entries are laid has no part in the verdict. -/
theorem ok_validateFile_iff {document : Document} {file : String} :
    (validateFile document file).ok = true ↔ ErrorFree (problems document) := by
  have hentry : ∀ problem : Problem,
      (!(problem.entry file).isError) = true ↔ problem.cause.severity ≠ .error := by
    intro problem
    simp [Problem.entry, Entry.isError]
  rw [validateFile, ok_foldl_push]
  simp only [Report.success, Bool.true_and, List.all_map, List.all_eq_true, Function.comp_apply,
    hentry]
  rfl

/-! ## Overrides and the default type -/

theorem aliasProblem_eq_none_iff {ops : OpcodeSection} {opcode behaviour aliased : String} :
    aliasProblem ops opcode behaviour aliased = none ↔ HasBody ops aliased behaviour := by
  rw [hasBody_iff, aliasProblem]
  cases ops.opcodes.get? aliased with
  | none => simp
  | some target =>
    cases htarget : target.overrides.get? behaviour with
    | none => simp [htarget]
    | some given => cases given <;> simp [htarget]

theorem overrideProblem_eq_none_iff {ops : OpcodeSection} {opcode behaviour : String}
    {given : Override} :
    overrideProblem ops opcode behaviour given = none ↔
      behaviour ∈ ops.behaviours.keys ∧
        ∀ aliased, given = .sameAs aliased → HasBody ops aliased behaviour := by
  unfold overrideProblem
  rw [← OrderedMap.contains_iff]
  split
  · next hdeclared => cases given <;> simp [hdeclared, aliasProblem_eq_none_iff]
  · next hstray => simp [hstray]

/-- Whatever is wrong with an override is an error. -/
theorem severity_overrideProblem {ops : OpcodeSection} {opcode behaviour : String}
    {given : Override} {cause : Cause} (h : overrideProblem ops opcode behaviour given = some cause) :
    cause.severity = .error := by
  unfold overrideProblem at h
  split at h
  · cases given with
    | body text => cases h
    | sameAs aliased =>
      simp only [aliasProblem] at h
      split at h
      · cases h
        rfl
      · split at h <;> cases h <;> rfl
  · cases h
    rfl

theorem errorFree_overrideProblems_iff {ops : OpcodeSection} :
    ErrorFree (overrideProblems ops) ↔ OverridesResolve ops := by
  have hoverride : ∀ name behaviour given,
      ErrorFree ((overrideProblem ops name behaviour given).map fun cause ↦
        (⟨"$." ++ overrideKey name behaviour, cause⟩ : Problem)).toList ↔
          overrideProblem ops name behaviour given = none := by
    intro name behaviour given
    cases hproblem : overrideProblem ops name behaviour given with
    | none => simp
    | some cause => simp [severity_overrideProblem hproblem]
  simp only [overrideProblems, opcodeOverrideProblems, errorFree_flatMap, hoverride,
    overrideProblem_eq_none_iff, Prod.forall]
  constructor
  · intro h
    constructor
    · intro name opcode hopcode behaviour hbehaviour
      obtain ⟨⟨_, given⟩, hgiven, rfl⟩ := List.mem_map.mp hbehaviour
      exact (h name opcode hopcode _ given hgiven).1
    · intro name opcode hopcode behaviour aliased halias
      exact (h name opcode hopcode behaviour _ halias).2 aliased rfl
  · intro h name opcode hopcode behaviour given hgiven
    refine ⟨h.declared name opcode hopcode behaviour (List.mem_map.mpr ⟨_, hgiven, rfl⟩), ?_⟩
    rintro aliased rfl
    exact h.direct name opcode hopcode behaviour aliased hgiven

theorem errorFree_defaultTypeProblems_iff {document : Document} :
    ErrorFree (defaultTypeProblems document) ↔
      ∀ name, document.defaultType = some name →
        ∃ dtypes, document.dtype = some dtypes ∧ name ∈ dtypes.keys := by
  rw [defaultTypeProblems]
  cases document.defaultType with
  | none => simp
  | some name =>
    cases document.dtype with
    | none => simp [Cause.severity]
    | some dtypes =>
      by_cases hdeclared : dtypes.contains name = true
      · simp [hdeclared, OrderedMap.contains_iff.mp hdeclared]
      · simp [hdeclared, mt OrderedMap.contains_iff.mpr hdeclared, Cause.severity]

/-! ## Functions -/

theorem errorFree_functionNameProblems_iff {path : String} {function : FunctionDecl} :
    ErrorFree (functionNameProblems path function) ↔
      (∃ name, function.name = some name ∧ function.operator = none ∧ isIdentifier name) ∨
        (∃ symbol, function.name = none ∧ function.operator = some symbol ∧
          ¬ isBlankText symbol) := by
  unfold functionNameProblems
  cases function.name with
  | none =>
    cases function.operator with
    | none => simp [Cause.severity]
    | some symbol => by_cases hblank : isBlankText symbol = true <;> simp [hblank, Cause.severity]
  | some name =>
    cases function.operator with
    | none => by_cases hname : isIdentifier name = true <;> simp [hname, Cause.severity]
    | some symbol => simp [Cause.severity]

/-! ## Init lists -/

theorem errorFree_initListProblems_iff {path : String} {cls : ClassDecl} :
    ErrorFree (initListProblems path cls) ↔
      ∀ spec, cls.init = some spec → ∀ key ∈ spec.initList.keys, key ∈ memberNames cls := by
  rw [initListProblems]
  cases cls.init with
  | none => simp
  | some spec =>
    have hkey : ∀ key, ErrorFree (if key ∈ memberNames cls then ([] : List Problem)
        else [⟨path ++ ".init.initlist." ++ key, .unknownMember key cls.name⟩]) ↔
          key ∈ memberNames cls := by
      intro key
      by_cases hmember : key ∈ memberNames cls <;> simp [hmember, Cause.severity]
    simp only [errorFree_flatMap, hkey, Option.some.injEq, forall_eq']

/-! ## Documents -/

/-- What the emitters need and validation has already seen to. -/
structure Granted (document : Document) : Prop where
  overrides : ∀ ops, document.opcode = some ops → OverridesResolve ops
  defaultType : ∀ name, document.defaultType = some name →
    ∃ dtypes, document.dtype = some dtypes ∧ name ∈ dtypes.keys
  functions : ∀ api, document.api = some api →
    ∀ name content, (name, content) ∈ api.namespaces.entries →
      (∀ function ∈ content.functions, NamedOnce function) ∧
        ∀ cls ∈ content.classes, ∀ function ∈ cls.functions, NamedOnce function
  init : ∀ api, document.api = some api →
    ∀ name content, (name, content) ∈ api.namespaces.entries →
      ∀ cls ∈ content.classes, ∀ spec, cls.init = some spec → NamesMembers cls spec.initList

end SourceGen.Validation
