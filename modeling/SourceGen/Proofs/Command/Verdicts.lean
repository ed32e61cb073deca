import SourceGen.Proofs.Command.Traces
import SourceGen.Proofs.Validation.Acceptance

/-!
# Verdicts of reports

A report keeps its verdict beside its entries. However a report came about, the verdict is the one that the
entries call for: it neither depends on the order in which they came nor on what the verdicts of merged reports
were. So the command, which counts errors, decides as the verdict does.
-/

namespace SourceGen

open Spec

namespace Spec.Report

/-- How a report comes about, with the entries that were given to it: it starts empty or with entries, and
entries are added, one by one or as those of another report, whatever the verdict of that. -/
inductive Built : Report → List Entry → Prop
  | success : Built .success []
  | ofEntries (entries : List Entry) : Built (.ofEntries entries) entries
  | push {report : Report} {given : List Entry} (h : Built report given) (entry : Entry) :
      Built (report.push entry) (given ++ [entry])
  | merge {report : Report} {given : List Entry} (h : Built report given) (other : Report) :
      Built (report.merge other) (given ++ other.entries)

/-- The verdict is the one that the entries call for. -/
def InStep (report : Report) : Prop :=
  report.hasErrors = true ↔ ∃ entry ∈ report.entries, entry.severity = .error

variable {report : Report} {given : List Entry}

theorem inStep_success : InStep .success := by
  simp [InStep, success, hasErrors]

theorem inStep_ofEntries (entries : List Entry) : InStep (.ofEntries entries) := by
  simp [InStep, ofEntries, hasErrors, Entry.isError]

theorem InStep.push (h : report.InStep) (entry : Entry) : (report.push entry).InStep := by
  have hpush : (report.push entry).hasErrors = true ↔ report.hasErrors = true ∨ entry.severity = .error := by
    simp [hasErrors, Report.push, Entry.isError]
  rw [InStep] at h ⊢
  rw [hpush, h]
  simp [Report.push, or_and_right, exists_or]

theorem InStep.foldl_push (h : report.InStep) (entries : List Entry) :
    (entries.foldl Report.push report).InStep := by
  induction entries generalizing report with
  | nil => exact h
  | cons entry rest ih => exact ih (h.push entry)

namespace Built

theorem inStep (h : Built report given) : report.InStep := by
  induction h with
  | success => exact inStep_success
  | ofEntries entries => exact inStep_ofEntries entries
  | push _ entry ih => exact ih.push entry
  | merge _ other ih => exact ih.foldl_push other.entries

theorem entries_eq (h : Built report given) : report.entries = given := by
  induction h with
  | success => rfl
  | ofEntries entries => rfl
  | push _ entry ih => rw [Report.push, ih]
  | merge _ other ih => rw [Report.merge, Validation.entries_foldl_push, ih]

theorem foldl_push (h : Built report given) (entries : List Entry) :
    Built (entries.foldl Report.push report) (given ++ entries) := by
  induction entries generalizing report given with
  | nil => rwa [List.append_nil]
  | cons entry rest ih =>
    rw [List.append_cons]
    exact ih (h.push entry)

theorem hasErrors_iff (h : Built report given) :
    report.hasErrors = true ↔ ∃ entry ∈ given, entry.severity = .error :=
  h.entries_eq ▸ h.inStep

end Built

theorem firstError_iff : (∃ entry, report.firstError = some entry) ↔
    ∃ entry ∈ report.entries, entry.severity = .error := by
  rw [← Option.isSome_iff_exists, firstError, List.find?_isSome]
  simp only [Entry.isError, beq_iff_eq]

theorem count_pos_iff {severity : Severity} :
    0 < report.count severity ↔ ∃ entry ∈ report.entries, entry.severity = severity := by
  rw [count, List.countP_pos_iff]
  simp only [beq_iff_eq]

end Spec.Report

namespace Command

open Validation

theorem built_validateFile (document : Document) (file : String) :
    Report.Built (validateFile document file) ((problems document).map (·.entry file)) :=
  Report.Built.success.foldl_push _

/-- The command counts the errors of the report on a loaded document, and decides as its verdict does. -/
theorem value_checkedDocument_of_loadDocument {workspace : Workspace} {paths : List String}
    {document : Document} {file : String} (h : loadDocument workspace paths = .ok (document, file)) :
    (checkedDocument workspace paths).value =
      if (validateFile document file).hasErrors = true then .error none else .ok document := by
  have hbuilt := built_validateFile document file
  have hcount : 0 < (validateFile document file).count .error ↔
      (validateFile document file).hasErrors = true := by
    rw [Report.count_pos_iff, hbuilt.entries_eq, hbuilt.hasErrors_iff]
  rw [checkedDocument, h]
  simp only [Step.value_bind, Step.value_say, ok_bind, hcount]
  split
  · rfl
  · simp only [apply_ite Step.value, Step.value_bind, Step.value_say, ok_bind, Step.value_pure, ite_self]

/-- Whatever was given to a report is what it holds, in that order, and its verdict, its first error and the
number of its errors all say whether an error is among that. Where a document is loaded, the command withholds
it exactly if the verdict of the report on it is that it has errors. -/
theorem verdicts_follow_entries :
    (∀ (report : Report) (given : List Entry), Report.Built report given →
      report.entries = given ∧
      (report.hasErrors = true ↔ ∃ entry ∈ given, entry.severity = .error) ∧
      (report.hasErrors = true ↔ ∃ entry, report.firstError = some entry) ∧
      (report.hasErrors = true ↔ 0 < report.count .error) ∧
      (report.ok = true ↔ report.count .error = 0)) ∧
    ∀ (workspace : Workspace) (paths : List String) (document : Document) (file : String),
      loadDocument workspace paths = .ok (document, file) →
        (checkedDocument workspace paths).value =
          if (validateFile document file).hasErrors = true then .error none else .ok document := by
  refine ⟨fun report given h ↦ ?_, fun _ _ _ _ ↦ value_checkedDocument_of_loadDocument⟩
  have hcount : report.hasErrors = true ↔ 0 < report.count .error := by
    rw [Report.count_pos_iff, h.entries_eq, h.hasErrors_iff]
  have hok : report.ok = true ↔ ¬ report.hasErrors = true := by simp [Report.hasErrors]
  refine ⟨h.entries_eq, h.hasErrors_iff, ?_, hcount, ?_⟩
  · rw [Report.firstError_iff, h.entries_eq, h.hasErrors_iff]
  · rw [hok, hcount, Nat.pos_iff_ne_zero, not_not]

def selfWarning : Entry := .warning "E_REF_CYCLE" "class 'Dense' requires itself" "" "$.api"

def repeatError : Entry := .error "E_DUPLICATE_SYMBOL" "class 'Dense' is declared twice" "" "$.api"

/-- A warning, then a report that holds an error but says that it has none. -/
def patchedReport : Report :=
  (Report.success.push selfWarning).merge ⟨true, [repeatError]⟩

/-- A document with a dtype that bears a reserved name, on the standard input. -/
def reservedWorkspace : Workspace where
  tree := { root := .folder [], here := [] }
  input := "dtype:\n  BAD_TYPE:\n    ctype: float\n".toUTF8

theorem verdicts_follow_entries_patched :
    (Report.Built patchedReport [selfWarning, repeatError] ∧ patchedReport.count .error = 1 ∧
      patchedReport.hasErrors = true ∧ ¬ patchedReport.ok = true) ∧
    ∃ document file, loadDocument reservedWorkspace [] = .ok (document, file) ∧
      (checkedDocument reservedWorkspace []).value = .error none := by
  obtain ⟨hreports, hcommand⟩ := verdicts_follow_entries
  constructor
  · have hbuilt : Report.Built patchedReport [selfWarning, repeatError] :=
      (Report.Built.success.push selfWarning).merge ⟨true, [repeatError]⟩
    obtain ⟨-, -, -, hcount, hok⟩ := hreports _ _ hbuilt
    have hone : patchedReport.count .error = 1 := by decide
    rw [hcount, hok, hone]
    exact ⟨hbuilt, rfl, Nat.one_pos, Nat.one_ne_zero⟩
  · have hfound : (loadDocument reservedWorkspace []).toOption.any
        (fun loaded ↦ (validateFile loaded.1 loaded.2).hasErrors) = true := by decide +kernel
    cases hload : loadDocument reservedWorkspace [] with
    | error error => simp [hload, Except.toOption] at hfound
    | ok loaded =>
      obtain ⟨document, file⟩ := loaded
      rw [hload] at hfound
      have herrors : (validateFile document file).hasErrors = true := hfound
      have hvalue := hcommand _ _ document file hload
      rw [if_pos herrors] at hvalue
      exact ⟨document, file, rfl, hvalue⟩

end Command

end SourceGen
