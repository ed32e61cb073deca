import SourceGen.Pipeline.Basic
import SourceGen.Proofs.Binding.Failures
import SourceGen.Proofs.Emit.Dtypes
import SourceGen.Proofs.Emit.Opcodes

/-!
# When the built-in plugins succeed

A built-in plugin looks at no files generated before it, so a pipeline of built-in plugins fails with the
refusal of the first plugin that refuses the document. All four succeed exactly where every section of the
document can be emitted.
-/

namespace SourceGen

open Spec Emit

variable {document : Document} {config : Config}

/-- The error with which a plugin refuses a document. -/
def Plugin.refusal? (plugin : Plugin) (document : Document) (config : Config) : Option GenError :=
  failure? (plugin.process ∅ document config).result

/-! ## Single plugins -/

namespace Plugin

/-- What the built-in plugin of an identifier needs of a document. -/
def Admits (id : String) (document : Document) : Prop :=
  match id with
  | "OPCODE" =>
    ∀ ops, document.opcode = some ops → ops.opcodes.entries ≠ [] ∧ OverridesResolve ops
  | "DTYPE" =>
    ∀ dtypes, document.dtype = some dtypes → DefaultResolves dtypes document.defaultType
  | "API" =>
    ∀ api, document.api = some api →
      ∀ name content, (name, content) ∈ api.namespaces.entries → NamespaceEmittable content
  | "PYBINDER" =>
    ∀ api, document.api = some api →
      ∀ name content, (name, content) ∈ api.namespaces.entries → Binding.NamespaceBindable content
  | _ => True

theorem failure?_ofSection {σ : Type} {id : String} {area : Area} {find : Document → Option σ}
    {files : σ → Document → Config → Run (Entries SourceFile)} (generated : FileSet) :
    failure? ((ofSection id area find files).process generated document config).result =
      (find document).bind fun part ↦ failure? (files part document config).result := by
  simp only [ofSection]
  cases find document with
  | none => rfl
  | some part =>
    simp only [Run.result_bind, Run.result_pure, Option.bind_some]
    rw [failure?_bind fun _ _ ↦ failure?_ok _, Option.or_none]

theorem failure?_process_ofSection {σ : Type} {id : String} {area : Area}
    {find : Document → Option σ} {files : σ → Document → Config → Run (Entries SourceFile)}
    (generated : FileSet) :
    failure? ((ofSection id area find files).process generated document config).result =
      (ofSection id area find files).refusal? document config := by
  rw [refusal?, failure?_ofSection, failure?_ofSection]

theorem refusal?_opcodes :
    opcodes.refusal? document config =
      document.opcode.bind fun ops ↦ failure? (OpcodeUnit.ofSection ops) := by
  simp only [refusal?, opcodes, failure?_ofSection, Run.result_ofExcept, failure?_opcodeFiles]

theorem refusal?_dtypes :
    dtypes.refusal? document config = document.dtype.bind fun dtypes ↦
      failure? (DtypeUnit.ofDtypes dtypes document.defines document.defaultType) := by
  simp only [refusal?, dtypes, failure?_ofSection, Run.result_ofExcept, failure?_dtypeFiles]

theorem refusal?_interface :
    interface.refusal? document config = document.api.bind fun api ↦
      api.namespaces.entries.findSome? fun entry ↦
        failure? (NamespaceUnit.ofContent entry.1 entry.2).result := by
  simp only [refusal?, interface, failure?_ofSection, failure?_interfaceFiles]

theorem refusal?_binding :
    binding.refusal? document config =
      document.api.bind fun api ↦ failure? (Binding.files api config).result := by
  simp only [refusal?, binding, failure?_ofSection]

/-- A built-in plugin refuses what it does not admit. -/
theorem refusal?_eq_none_iff {plugin : Plugin} (hbuiltin : plugin ∈ builtin) :
    plugin.refusal? document config = none ↔ Admits plugin.id document := by
  simp only [builtin, List.mem_cons, List.not_mem_nil, or_false] at hbuiltin
  rcases hbuiltin with rfl | rfl | rfl | rfl
  · simp only [refusal?_opcodes, Option.bind_eq_none_iff, OpcodeUnit.failure?_ofSection_eq_none_iff]
    rfl
  · simp only [refusal?_dtypes, Option.bind_eq_none_iff, DtypeUnit.failure?_ofDtypes_eq_none_iff]
    rfl
  · simp only [refusal?_interface, Option.bind_eq_none_iff, List.findSome?_eq_none_iff,
      NamespaceUnit.failure?_ofContent_eq_none_iff, Prod.forall]
    rfl
  · simp only [refusal?_binding, Option.bind_eq_none_iff, Binding.failure?_files_eq_none_iff]
    rfl

/-- The files generated before have no part in whether a built-in plugin fails. -/
theorem failure?_process {plugin : Plugin} (hbuiltin : plugin ∈ builtin) (generated : FileSet) :
    failure? (plugin.process generated document config).result =
      plugin.refusal? document config := by
  simp only [builtin, List.mem_cons, List.not_mem_nil, or_false] at hbuiltin
  rcases hbuiltin with rfl | rfl | rfl | rfl
  · exact failure?_process_ofSection generated
  · exact failure?_process_ofSection generated
  · exact failure?_process_ofSection generated
  · exact failure?_process_ofSection generated

end Plugin

/-! ## Pipelines -/

namespace Pipeline

/-- A run of built-in plugins fails like the first of them that refuses the document. -/
theorem failure?_runFrom {plugins : List Plugin} (hbuiltin : ∀ plugin ∈ plugins, plugin ∈ Plugin.builtin)
    (i : Nat) (generated : FileSet) :
    failure? (runFrom document config i generated plugins).2.result =
      plugins.findSome? (·.refusal? document config) := by
  induction plugins generalizing i generated with
  | nil => rfl
  | cons plugin rest ih =>
    have hrest : ∀ other ∈ rest, other ∈ Plugin.builtin := fun other hother ↦
      hbuiltin other (List.mem_cons_of_mem plugin hother)
    have hplugin : failure? (plugin.process generated document config).result =
        plugin.refusal? document config :=
      Plugin.failure?_process (hbuiltin plugin List.mem_cons_self) generated
    rw [List.findSome?_cons, ← hplugin, runFrom]
    cases (plugin.process generated document config).result with
    | error error => rfl
    | ok files =>
      cases files with
      | none => exact ih hrest (i + 1) generated
      | some files => exact ih hrest (i + 1) files

theorem failure?_run {plugins : List Plugin} (hbuiltin : ∀ plugin ∈ plugins, plugin ∈ Plugin.builtin)
    (document : Document) (config : Config) :
    failure? (({ plugins } : Pipeline).run document config).2.result =
      plugins.findSome? (·.refusal? document config) :=
  failure?_runFrom hbuiltin 0 ∅

/-- Built-in plugins succeed one after the other exactly where each admits the document. -/
theorem exists_run_iff_admits {plugins : List Plugin}
    (hbuiltin : ∀ plugin ∈ plugins, plugin ∈ Plugin.builtin) :
    (∃ files, (({ plugins } : Pipeline).run document config).2.result = .ok files) ↔
      ∀ plugin ∈ plugins, Plugin.Admits plugin.id document := by
  rw [← failure?_eq_none_iff, failure?_run hbuiltin, List.findSome?_eq_none_iff]
  exact forall₂_congr fun plugin hplugin ↦ Plugin.refusal?_eq_none_iff (hbuiltin plugin hplugin)

/-! ## All built-in plugins -/

/-- Binding asks for nothing that the interface does not ask for. -/
theorem namespaceBindable_of_emittable {content : NamespaceContent}
    (h : NamespaceEmittable content) : Binding.NamespaceBindable content where
  acyclic := h.acyclic
  classes cls hcls := (h.classes cls hcls).functions
  functions := h.functions

theorem emittable_iff_admits :
    Emittable document ↔ ∀ plugin ∈ Plugin.builtin, Plugin.Admits plugin.id document := by
  constructor
  · intro h plugin hbuiltin
    simp only [Plugin.builtin, List.mem_cons, List.not_mem_nil, or_false] at hbuiltin
    rcases hbuiltin with rfl | rfl | rfl | rfl
    · exact h.opcodes
    · exact h.dtypes
    · exact h.interface
    · intro api hapi name content hcontent
      exact namespaceBindable_of_emittable (h.interface api hapi name content hcontent)
  · intro h
    exact ⟨h Plugin.opcodes (by simp [Plugin.builtin]), h Plugin.dtypes (by simp [Plugin.builtin]),
      h Plugin.interface (by simp [Plugin.builtin])⟩

/-- The built-in plugins succeed one after the other exactly where every section can be emitted. -/
theorem run_builtin_ok_iff_emittable (document : Document) (config : Config) :
    (∃ files, (({ plugins := Plugin.builtin } : Pipeline).run document config).2.result = .ok files) ↔
      Emittable document :=
  (exists_run_iff_admits fun _ h ↦ h).trans emittable_iff_admits.symm

end Pipeline

end SourceGen
