import SourceGen.Proofs.Pipeline.References
import SourceGen.Proofs.Text.Characters
import SourceGen.Proofs.Validation.Validity

/-!
# Which generated files can be written

The files generated from a valid document have names without separators and refer to other files only, so
that nothing but a blank include can keep one from being written. The only includes that can be blank are
those that the document asks for: those of the interface stand in its header, and those of the binding in the
units of all groups.
-/

namespace SourceGen

open Spec Emit Text

variable {document : Document} {config : Config} {entries : Entries SourceFile}

/-- Every file can be written under its name. -/
def Faultless (entries : Entries SourceFile) : Prop :=
  ∀ entry ∈ entries, entry.2.fault? entry.1 = none

/-- The binding asks for an include that is blank, and there is a namespace to bind. -/
def HasBlankBindingInclude (document : Document) : Prop :=
  ∃ api, document.api = some api ∧ api.namespaces.keys ≠ [] ∧
    ∃ target ∈ api.binding.includes, isBlankText target = true

/-- A file of the plugin has a blank include that the document asks for. -/
def Skips (document : Document) (id : String) : Prop :=
  id = Plugin.interface.id ∧ HasBlankInclude document ∨
    id = Plugin.binding.id ∧ HasBlankBindingInclude document

/-! ## Files without a fault -/

theorem writable_eq_self_iff : writable entries = entries ↔ Faultless entries := by
  simp only [writable, List.filter_eq_self, Option.isNone_iff_eq_none, Faultless]

/-- A header with its source file. -/
theorem faultless_pair_iff {header source content : String} {includes : List String} {file : SourceFile}
    (hheader : header ∈ referredHeaders) (hsource : file.fault? source = none) :
    Faultless [(header, { content, includes }), (source, file)] ↔
      ∀ target ∈ includes, ¬ isBlankText target = true := by
  rw [Faultless, List.forall_mem_cons, fault?_header_eq_none_iff hheader]
  exact and_iff_left (List.forall_mem_singleton.mpr hsource)

/-! ## The files of each section -/

theorem faultless_opcodeFiles {ops : OpcodeSection} (h : opcodeFiles ops config = .ok entries) :
    Faultless entries := by
  obtain ⟨unit, -, hunit⟩ := bind_eq_ok.mp h
  obtain ⟨header, -, hheader⟩ := bind_eq_ok.mp hunit
  obtain ⟨source, -, hsource⟩ := bind_eq_ok.mp hheader
  cases hsource
  exact (faultless_pair_iff (by decide) rfl).mpr (not_isBlankText_headerIncludes unit)

theorem faultless_dtypeFiles {dtypes : OrderedMap Dtype}
    (h : dtypeFiles dtypes document config = .ok entries) : Faultless entries := by
  obtain ⟨unit, -, hunit⟩ := bind_eq_ok.mp h
  obtain ⟨header, -, hheader⟩ := bind_eq_ok.mp hunit
  obtain ⟨source, -, hsource⟩ := bind_eq_ok.mp hheader
  cases hsource
  exact (faultless_pair_iff (by decide) rfl).mpr (by decide)

theorem faultless_interfaceFiles_iff {api : Api} (h : (interfaceFiles api config).result = .ok entries) :
    Faultless entries ↔ ∀ target ∈ api.includes, ¬ isBlankText target = true := by
  rw [interfaceFiles, Run.result_bind] at h
  obtain ⟨unit, -, hunit⟩ := bind_eq_ok.mp h
  obtain ⟨header, -, hheader⟩ := bind_eq_ok.mp hunit
  obtain ⟨source, -, hsource⟩ := bind_eq_ok.mp hheader
  cases hsource
  exact faultless_pair_iff (by decide) rfl

/-- Groups go by segments of namespaces, which are identifiers in a valid document. -/
theorem any_isSeparator_groupOf {name : String} {content : NamespaceContent}
    (hvalid : Validation.ValidNamespace name content) :
    (Binding.groupOf name).toList.any SourceFile.isSeparator = false := by
  have hidentifier : ∀ c, isIdentifierChar c = true → SourceFile.isSeparator c = false := by
    intro c hc
    by_contra hseparator
    rw [Bool.not_eq_false, SourceFile.isSeparator, Bool.or_eq_true, beq_iff_eq, beq_iff_eq] at hseparator
    rcases hseparator with rfl | rfl <;> revert hc <;> decide
  rw [Binding.groupOf]
  cases hsegments : namespaceSegments name with
  | nil => decide
  | cons first rest =>
    have hfirst : first ∈ namespaceSegments name := by
      rw [hsegments]
      exact List.mem_cons_self
    obtain ⟨segment, hsegment, rfl⟩ := List.mem_map.mp hfirst
    obtain ⟨whole, hwhole, rfl⟩ := List.mem_map.mp (List.mem_filter.mp hsegment).1
    refine List.any_eq_false.mpr fun c hc ↦ ?_
    have hmem : c ∈ whole := mem_of_mem_trimChars (by simpa using hc)
    rw [Bool.not_eq_true]
    rcases hvalid.segments whole hwhole with rfl | rfl | hchars
    · exact absurd hmem List.not_mem_nil
    · rw [List.mem_singleton.mp hmem]
      decide
    · exact hidentifier c (isIdentifierChar_of_mem hchars hmem)

/-- The unit of a group can be written unless an include of it is blank. -/
theorem fault?_unitOf_eq_none_iff {api : Api} {group : String} {binder : Binding.Binder}
    (hgroup : group.toList.any SourceFile.isSeparator = false) :
    (Binding.unitOf api config group binder).fault? (Binding.unitFile group) = none ↔
      ∀ target ∈ api.binding.includes, ¬ isBlankText target = true := by
  have hname : isBlankText (Binding.unitFile group) = false := by
    have hletter : isBlank 'p' = false := by decide
    simp [isBlankText, Binding.unitFile, hletter]
  have hplain : (Binding.unitFile group).toList.any SourceFile.isSeparator = false := by
    have hfront : "pyapi_".toList.any SourceFile.isSeparator = false := by decide
    have hback : ".cpp".toList.any SourceFile.isSeparator = false := by decide
    simp only [Binding.unitFile, String.toList_append, List.any_append, hfront, hgroup, hback, Bool.or_self]
  have hfixed : ∀ target ∈ ["\"pybind11/pybind11.h\"", "\"pybind11/stl.h\"", "\"pybind11/operators.h\""],
      ¬ isBlankText target = true := by decide
  have hreferences : ∀ reference ∈ (Binding.unitOf api config group binder).references,
      isBlankText reference = false ∧ reference ≠ Binding.unitFile group := by
    intro reference hreference
    have hheader : ∀ header ∈ [Binding.bindingHeader, interfaceHeader],
        isBlankText header = false ∧ header ∈ referredHeaders := by decide
    obtain ⟨hblank, hreferred⟩ := hheader reference hreference
    refine ⟨hblank, ?_⟩
    rintro rfl
    exact unitFile_not_mem_referredHeaders group hreferred
  rw [SourceFile.fault?_eq_none_iff, and_iff_right hname, and_iff_right hplain, and_iff_left hreferences]
  exact List.forall_mem_append.trans (and_iff_right hfixed)

/-- Every group has a unit, and there are groups if there are namespaces. -/
theorem faultless_bindingFiles_iff {api : Api}
    (hvalid : ∀ name content, (name, content) ∈ api.namespaces.entries →
      Validation.ValidNamespace name content)
    (h : (Binding.files api config).result = .ok entries) :
    Faultless entries ↔ (api.namespaces.keys ≠ [] →
      ∀ target ∈ api.binding.includes, ¬ isBlankText target = true) := by
  obtain ⟨binders, hkeys, -, rfl⟩ := Binding.exists_binders h
  have hheader : SourceFile.fault? { content := Binding.headerText api config } Binding.bindingHeader =
      none := rfl
  have hgroup : ∀ binder ∈ binders, ∃ name ∈ api.namespaces.keys, Binding.groupOf name = binder.1 := by
    intro binder hbinder
    have hmem : binder.1 ∈ Binding.groupNames api := by
      rw [← hkeys]
      exact List.mem_map_of_mem hbinder
    exact List.mem_map.mp (mem_distinct.mp hmem)
  have hunits : ∀ binder ∈ binders, ((Binding.unitOf api config binder.1 binder.2).fault?
      (Binding.unitFile binder.1) = none ↔
        ∀ target ∈ api.binding.includes, ¬ isBlankText target = true) := by
    intro binder hbinder
    obtain ⟨name, hname, heq⟩ := hgroup binder hbinder
    obtain ⟨entry, hentry, rfl⟩ := List.mem_map.mp hname
    refine fault?_unitOf_eq_none_iff ?_
    rw [← heq]
    exact any_isSeparator_groupOf (hvalid entry.1 entry.2 hentry)
  have hsome : (∃ binder, binder ∈ binders) ↔ api.namespaces.keys ≠ [] := by
    constructor
    · rintro ⟨binder, hbinder⟩
      obtain ⟨name, hname, -⟩ := hgroup binder hbinder
      exact List.ne_nil_of_mem hname
    · intro hne
      obtain ⟨name, hname⟩ := List.exists_mem_of_ne_nil _ hne
      have hmem : Binding.groupOf name ∈ binders.keys := by
        rw [hkeys]
        exact mem_distinct.mpr (List.mem_map_of_mem hname)
      obtain ⟨binder, hbinder, -⟩ := List.mem_map.mp hmem
      exact ⟨binder, hbinder⟩
  rw [Faultless, List.forall_mem_cons, and_iff_right hheader, Binding.unitsOf, List.forall_mem_map,
    ← hsome]
  exact ⟨fun hall ⟨binder, hbinder⟩ ↦ (hunits binder hbinder).mp (hall binder hbinder),
    fun hall binder hbinder ↦ (hunits binder hbinder).mpr (hall ⟨binder, hbinder⟩)⟩

/-! ## The files of a pipeline -/

namespace Pipeline

variable {ids : List String} {files : FileSet}

theorem skips_interface_iff {api : Api} (hapi : document.api = some api) :
    ¬ Skips document Plugin.interface.id ↔ ∀ target ∈ api.includes, ¬ isBlankText target = true := by
  have hother : Plugin.interface.id ≠ Plugin.binding.id := by decide
  simp [Skips, HasBlankInclude, hapi, hother]

theorem skips_binding_iff {api : Api} (hapi : document.api = some api) :
    ¬ Skips document Plugin.binding.id ↔ (api.namespaces.keys ≠ [] →
      ∀ target ∈ api.binding.includes, ¬ isBlankText target = true) := by
  have hother : Plugin.binding.id ≠ Plugin.interface.id := by decide
  simp [Skips, HasBlankBindingInclude, hapi, hother]

theorem not_skips_of_api_eq_none (hapi : document.api = none) (id : String) : ¬ Skips document id := by
  simp [Skips, HasBlankInclude, HasBlankBindingInclude, hapi]

theorem not_skips_of_ne {id : String} (hinterface : id ≠ Plugin.interface.id)
    (hbinding : id ≠ Plugin.binding.id) : ¬ Skips document id := by
  simp [Skips, hinterface, hbinding]

/-- Of the built-in plugins exactly those skip a file that have a blank include of the document in one. -/
theorem faultless_filesAlone_iff (hvalid : Validation.Valid document) {plugin : Plugin}
    (hplugin : plugin ∈ Plugin.builtin) (hadmitted : plugin.refusal? document config = none) :
    Faultless (filesAlone document config plugin.id) ↔ ¬ Skips document plugin.id := by
  have hnothing : Faultless [] := List.forall_mem_nil _
  have hbuiltin := hplugin
  simp only [Plugin.builtin, List.mem_cons, List.not_mem_nil, or_false] at hplugin
  rcases hplugin with rfl | rfl | rfl | rfl
  · refine iff_of_true ?_ (not_skips_of_ne (by decide) (by decide))
    exact filesAlone_ofSection (motive := Faultless) hbuiltin (fun _ _ ↦ Plugin.adds_opcodes) hadmitted
      (fun _ ↦ hnothing) fun _ _ _ ↦ faultless_opcodeFiles
  · refine iff_of_true ?_ (not_skips_of_ne (by decide) (by decide))
    exact filesAlone_ofSection (motive := Faultless) hbuiltin (fun _ _ ↦ Plugin.adds_dtypes) hadmitted
      (fun _ ↦ hnothing) fun _ _ _ ↦ faultless_dtypeFiles
  · refine filesAlone_ofSection (motive := fun files ↦ Faultless files ↔ _) hbuiltin
      (fun _ _ ↦ Plugin.adds_interface) hadmitted
      (fun hapi ↦ iff_of_true hnothing (not_skips_of_api_eq_none hapi _)) fun api added hapi hadded ↦ ?_
    rw [skips_interface_iff hapi]
    exact faultless_interfaceFiles_iff hadded
  · refine filesAlone_ofSection (motive := fun files ↦ Faultless files ↔ _) hbuiltin
      (fun _ _ ↦ Plugin.adds_binding) hadmitted
      (fun hapi ↦ iff_of_true hnothing (not_skips_of_api_eq_none hapi _)) fun api added hapi hadded ↦ ?_
    rw [skips_binding_iff hapi]
    exact faultless_bindingFiles_iff (hvalid.namespaces api hapi) hadded

/-- Of the generated files all can be written if no plugin skips one. -/
theorem faultless_outcome_iff (hvalid : Validation.Valid document)
    (h : outcome ids document config = .ok files) :
    Faultless files.entries ↔ ∀ id ∈ (ofIds ids).2.ids, ¬ Skips document id := by
  have hplugins : ∀ plugin ∈ (ofIds ids).2.plugins,
      (Faultless (filesAlone document config plugin.id) ↔ ¬ Skips document plugin.id) :=
    fun plugin hplugin ↦
      faultless_filesAlone_iff hvalid (mem_builtin_of_mem_ofIds hplugin) (refusal?_of_outcome h plugin hplugin)
  rw [entries_outcome h, Faultless, List.forall_mem_flatMap]
  simp only [mem_distinct, Pipeline.ids, List.forall_mem_map]
  exact forall₂_congr hplugins

end Pipeline

end SourceGen
