import SourceGen.Proofs.Pipeline.Failures

/-!
# The files of a plugin

A built-in plugin that admits a document puts the same files into whatever set it is given. The names of
its files are told apart, and each begins with the letter that the plugin's identifier begins with, so
that no two plugins have a file in common.
-/

namespace SourceGen

open Spec Emit

variable {document : Document} {config : Config}

/-! ## Names of files -/

namespace Emit

theorem keys_opcodeFiles {ops : OpcodeSection} {files : Entries SourceFile}
    (h : opcodeFiles ops config = .ok files) : files.keys = [opcodeHeader, opcodeSource] := by
  obtain ⟨unit, -, hunit⟩ := bind_eq_ok.mp h
  obtain ⟨header, -, hheader⟩ := bind_eq_ok.mp hunit
  obtain ⟨source, -, hsource⟩ := bind_eq_ok.mp hheader
  cases hsource
  rfl

theorem keys_dtypeFiles {dtypes : OrderedMap Dtype} {files : Entries SourceFile}
    (h : dtypeFiles dtypes document config = .ok files) : files.keys = [dtypeHeader, dtypeSource] := by
  obtain ⟨unit, -, hunit⟩ := bind_eq_ok.mp h
  obtain ⟨header, -, hheader⟩ := bind_eq_ok.mp hunit
  obtain ⟨source, -, hsource⟩ := bind_eq_ok.mp hheader
  cases hsource
  rfl

theorem keys_interfaceFiles {api : Api} {files : Entries SourceFile}
    (h : (interfaceFiles api config).result = .ok files) :
    files.keys = [interfaceHeader, interfaceSource] := by
  rw [interfaceFiles, Run.result_bind] at h
  obtain ⟨unit, -, hunit⟩ := bind_eq_ok.mp h
  obtain ⟨header, -, hheader⟩ := bind_eq_ok.mp hunit
  obtain ⟨source, -, hsource⟩ := bind_eq_ok.mp hheader
  cases hsource
  rfl

end Emit

namespace Binding

theorem keys_unitFiles {api : Api} {groups : Entries (Entries NamespaceContent)}
    {files : Entries SourceFile} (h : (unitFiles api config groups).result = .ok files) :
    files.keys = groups.keys.map unitFile := by
  induction groups generalizing files with
  | nil =>
    cases h
    rfl
  | cons entry rest ih =>
    simp only [unitFiles, Run.result_bind, Run.result_pure, Run.result_ofExcept] at h
    obtain ⟨binder, -, hbinder⟩ := bind_eq_ok.mp h
    obtain ⟨content, -, hcontent⟩ := bind_eq_ok.mp hbinder
    obtain ⟨later, hlater, hfiles⟩ := bind_eq_ok.mp hcontent
    cases hfiles
    exact congrArg (unitFile entry.1 :: ·) (ih hlater)

theorem keys_files {api : Api} {files : Entries SourceFile}
    (h : (Binding.files api config).result = .ok files) :
    files.keys = bindingHeader :: (groups api).keys.map unitFile := by
  simp only [Binding.files, Run.result_bind, Run.result_pure] at h
  obtain ⟨units, hunits, hfiles⟩ := bind_eq_ok.mp h
  cases hfiles
  exact congrArg (bindingHeader :: ·) (keys_unitFiles hunits)

theorem unitFile_injective {group other : String} (h : unitFile group = unitFile other) :
    group = other := by
  have htext := congrArg String.toList h
  have hchars : group.toList = other.toList := by simpa [unitFile] using htext
  exact String.toList_inj.mp hchars

theorem unitFile_ne_bindingHeader (group : String) : unitFile group ≠ bindingHeader := by
  intro h
  have htext := congrArg String.toList h
  simp [unitFile, bindingHeader] at htext

theorem nodup_keys_files {api : Api} {files : Entries SourceFile}
    (h : (Binding.files api config).result = .ok files) : files.keys.Nodup := by
  rw [keys_files h, List.nodup_cons]
  refine ⟨fun hmem ↦ ?_, (groups api).nodup.map fun _ _ ↦ unitFile_injective⟩
  obtain ⟨group, -, hgroup⟩ := List.mem_map.mp hmem
  exact unitFile_ne_bindingHeader group hgroup

end Binding

/-! ## What a plugin adds -/

namespace Plugin

/-- The first letter of a name, as a capital. -/
def initial (name : String) : Option Char :=
  name.toList.head?.map Char.toUpper

theorem id_eq_of_initial {plugin other : Plugin} (hplugin : plugin ∈ builtin) (hother : other ∈ builtin)
    (h : initial plugin.id = initial other.id) : plugin.id = other.id := by
  have hids : ∀ name ∈ builtinIds, ∀ name' ∈ builtinIds,
      initial name = initial name' → name = name' := by decide
  exact hids _ (List.mem_map_of_mem hplugin) _ (List.mem_map_of_mem hother) h

/-- To every set of files the plugin adds the same ones, named apart and after itself. -/
structure Adds (plugin : Plugin) (document : Document) (config : Config)
    (added : Entries SourceFile) : Prop where
  nodup : added.keys.Nodup
  named : ∀ name ∈ added.keys, initial name = initial plugin.id
  process : ∀ generated, ∃ outcome, (plugin.process generated document config).result = .ok outcome ∧
    outcome.getD generated = generated.putAll added

section Section

variable {σ : Type} {id : String} {area : Area} {find : Document → Option σ}
  {files : σ → Document → Config → Run (Entries SourceFile)}

/-- Without its section a plugin adds nothing. -/
theorem adds_nil_ofSection (hfind : find document = none) :
    (ofSection id area find files).Adds document config [] where
  nodup := List.nodup_nil
  named _ hname := absurd hname List.not_mem_nil
  process _ := ⟨none, by simp only [ofSection, hfind]; rfl, rfl⟩

theorem adds_ofSection {part : σ} {added : Entries SourceFile} (hfind : find document = some part)
    (hadded : (files part document config).result = .ok added) (hnodup : added.keys.Nodup)
    (hnamed : ∀ name ∈ added.keys, initial name = initial id) :
    (ofSection id area find files).Adds document config added where
  nodup := hnodup
  named := hnamed
  process generated :=
    ⟨some (generated.putAll added),
      by simp only [ofSection, hfind, Run.result_bind, hadded, ok_bind, Run.result_pure], rfl⟩

/-- A plugin that does not refuse a document with its section makes files of it. -/
theorem exists_files_ofSection {part : σ} (hfind : find document = some part)
    (hadmitted : (ofSection id area find files).refusal? document config = none) :
    ∃ added, (files part document config).result = .ok added := by
  rwa [refusal?, failure?_ofSection, hfind, Option.bind_some, failure?_eq_none_iff] at hadmitted

theorem exists_adds_ofSection
    (hadds : ∀ part added, find document = some part → (files part document config).result = .ok added →
      (ofSection id area find files).Adds document config added)
    (hadmitted : (ofSection id area find files).refusal? document config = none) :
    ∃ added, (ofSection id area find files).Adds document config added := by
  cases hfind : find document with
  | none => exact ⟨[], adds_nil_ofSection hfind⟩
  | some part =>
    obtain ⟨added, hadded⟩ := exists_files_ofSection hfind hadmitted
    exact ⟨added, hadds part added hfind hadded⟩

end Section

theorem adds_opcodes {ops : OpcodeSection} {added : Entries SourceFile}
    (hops : document.opcode = some ops) (h : opcodeFiles ops config = .ok added) :
    opcodes.Adds document config added := by
  refine adds_ofSection hops h ?_ ?_ <;> rw [keys_opcodeFiles h] <;> decide

theorem adds_dtypes {types : OrderedMap Dtype} {added : Entries SourceFile}
    (htypes : document.dtype = some types) (h : dtypeFiles types document config = .ok added) :
    dtypes.Adds document config added := by
  refine adds_ofSection htypes h ?_ ?_ <;> rw [keys_dtypeFiles h] <;> decide

theorem adds_interface {api : Api} {added : Entries SourceFile} (hapi : document.api = some api)
    (h : (interfaceFiles api config).result = .ok added) : interface.Adds document config added := by
  refine adds_ofSection hapi h ?_ ?_ <;> rw [keys_interfaceFiles h] <;> decide

theorem adds_binding {api : Api} {added : Entries SourceFile} (hapi : document.api = some api)
    (h : (Binding.files api config).result = .ok added) : binding.Adds document config added := by
  refine adds_ofSection hapi h (Binding.nodup_keys_files h) fun name hname ↦ ?_
  rw [Binding.keys_files h] at hname
  rcases List.mem_cons.mp hname with rfl | hunit
  · decide
  · obtain ⟨group, -, rfl⟩ := List.mem_map.mp hunit
    simp [initial, Binding.unitFile]

theorem exists_adds {plugin : Plugin} (hbuiltin : plugin ∈ builtin)
    (hadmitted : plugin.refusal? document config = none) :
    ∃ added, plugin.Adds document config added := by
  simp only [builtin, List.mem_cons, List.not_mem_nil, or_false] at hbuiltin
  rcases hbuiltin with rfl | rfl | rfl | rfl
  · exact exists_adds_ofSection (fun _ _ ↦ adds_opcodes) hadmitted
  · exact exists_adds_ofSection (fun _ _ ↦ adds_dtypes) hadmitted
  · exact exists_adds_ofSection (fun _ _ ↦ adds_interface) hadmitted
  · exact exists_adds_ofSection (fun _ _ ↦ adds_binding) hadmitted

end Plugin

end SourceGen
