import SourceGen.Proofs.Binding.Collected
import SourceGen.Proofs.Binding.Submodules
import SourceGen.Proofs.Binding.Units
import SourceGen.Validation.Rules

/-!
# Variables that are declared once

The module, the submodules, the classes of result types and the bound classes of a unit share one scope.
Submodules are told apart among themselves and from the module and the bound classes. Types that differ in
their qualifiers only have one variable, which may also be that of a module, and classes of two namespaces
may have one name.
-/

namespace SourceGen.Binding

open Spec Validation

variable {group : Group} {namespaces : Entries NamespaceContent}

/-- The names of the classes that are bound in a unit. -/
def classNames (namespaces : Entries NamespaceContent) : List String :=
  namespaces.flatMap fun entry ↦ entry.2.classes.map (·.name)

/-- What tells the variables of a unit apart. -/
structure VariablesApart (group : Group) (namespaces : Entries NamespaceContent) : Prop where
  types : ∀ type ∈ unitTypes group namespaces, ∀ other ∈ unitTypes group namespaces,
    typeVariable type = typeVariable other → type = other
  modules : ∀ type ∈ unitTypes group namespaces,
    typeVariable type ∉ group.root :: groupVariables group namespaces
  classes : (classNames namespaces).Nodup

/-! ## Bound classes -/

theorem classVariables_perm (h : ∀ entry ∈ namespaces, NamespaceBindable entry.2) :
    (namespaces.flatMap fun entry ↦ (boundClasses entry.2).map Binder.classVariable).Perm
      ((classNames namespaces).map ("cls_" ++ ·)) := by
  rw [classNames, List.map_flatMap]
  refine List.Perm.flatMap_left _ fun entry hentry ↦ ?_
  rw [List.map_map]
  exact (boundClasses_perm (h entry hentry)).map _

/-! ## All variables -/

theorem nodup_declaredBy_groupStatements_iff (h : ∀ entry ∈ namespaces, NamespaceBindable entry.2) :
    (declaredBy (groupStatements group namespaces)).Nodup ↔ (classNames namespaces).Nodup := by
  have hclasses := classVariables_perm h
  have hapart : List.Disjoint (submodulesOf (groupStatements group namespaces))
      (namespaces.flatMap fun entry ↦ (boundClasses entry.2).map Binder.classVariable) := by
    intro var hmodule hclass
    obtain ⟨entry, -, hentry⟩ := List.mem_flatMap.mp hclass
    obtain ⟨cls, -, rfl⟩ := List.mem_map.mp hentry
    exact classVariable_not_mem_groupVariables group namespaces cls
      (mem_submodulesOf_groupStatements.mp hmodule)
  rw [(declaredBy_groupStatements_perm group namespaces).nodup_iff, List.nodup_append',
    and_iff_right (nodup_submodulesOf_groupStatements group namespaces), and_iff_left hapart,
    hclasses.nodup_iff]
  exact List.nodup_map_iff fun a b heq ↦ (String.append_right_inj "cls_").mp heq

theorem root_not_mem_declaredBy_groupStatements (group : Group) (namespaces : Entries NamespaceContent) :
    group.root ∉ declaredBy (groupStatements group namespaces) := by
  rw [mem_declaredBy_groupStatements, not_or]
  refine ⟨root_not_mem_groupVariables group namespaces, ?_⟩
  rintro ⟨entry, -, cls, -, heq⟩
  exact classVariable_ne cls group.name heq

/-- No variable of a unit is declared twice, nor that of its module again, exactly where types, classes and
modules are told apart by their last names. -/
theorem variables_distinct_iff {api : Api} {config : Config} {files : Entries SourceFile}
    (hfiles : (Binding.files api config).result = .ok files) {name : String} {file : SourceFile}
    (hfile : (unitFile name, file) ∈ files) :
    ∃ namespaces binder, IsUnit api config name file namespaces binder ∧
      (((groupNamed api config name).root :: declaredBy binder.statements).Nodup ↔
        VariablesApart (groupNamed api config name) namespaces) := by
  obtain ⟨namespaces, binder, hunit⟩ := exists_isUnit hfiles hfile
  refine ⟨namespaces, binder, hunit, ?_⟩
  have hroot := root_not_mem_declaredBy_groupStatements (groupNamed api config name) namespaces
  rw [(collected_bindGroup hunit.bound).declaredBy_statements, ← unitTypes, List.nodup_cons,
    List.mem_append, not_or, and_iff_left hroot, List.nodup_append',
    nodup_declaredBy_groupStatements_iff (namespaceBindable_of_bindGroup hunit.bound)]
  constructor
  · rintro ⟨hmodule, htypes, hclasses, hdisjoint⟩
    refine ⟨List.inj_on_of_nodup_map htypes, fun type htype hmem ↦ ?_, hclasses⟩
    have hvariable := List.mem_map_of_mem (f := typeVariable) htype
    rcases List.mem_cons.mp hmem with heq | hsubmodule
    · exact hmodule (heq ▸ hvariable)
    · exact hdisjoint hvariable (typeVariable_mem_declaredBy_iff.mpr hsubmodule)
  · rintro ⟨htypes, hmodules, hclasses⟩
    refine ⟨?_, (nodup_distinct _).map_on htypes, hclasses, ?_⟩
    · rintro hmem
      obtain ⟨type, htype, heq⟩ := List.mem_map.mp hmem
      exact hmodules type htype (heq ▸ List.mem_cons_self)
    · intro var hmem hdeclared
      obtain ⟨type, htype, rfl⟩ := List.mem_map.mp hmem
      exact hmodules type htype
        (List.mem_cons_of_mem _ (typeVariable_mem_declaredBy_iff.mp hdeclared))

/-- Two functions that return types of one name out of two namespaces. -/
def tensorsApi : Api :=
  { namespaces := .ofEntries [("g", .brief
      [{ name := some "f", out := .typed (some "a::Tensor") "" },
        { name := some "h", out := .typed (some "b::Tensor") "" }])] }

/-- What is bound of the two functions. -/
def tensorsBinder : Binder :=
  { used := [("m_g", "f"), ("m_g", "h")]
    types := .ofEntries [("a::Tensor", .classOf "a::Tensor" "m_Tensor" "m_g" "Tensor"),
      ("b::Tensor", .classOf "b::Tensor" "m_Tensor" "m_g" "Tensor")]
    blocks := [
      [.define "m_g"
        { name := "f", params := [], body := .call "g::f" [], keywords := [], description := "f ..." }],
      [.define "m_g"
        { name := "h", params := [], body := .call "g::h" [], keywords := [], description := "h ..." }]] }

def tensorsUnit : SourceFile :=
  unitOf tensorsApi {} "g" tensorsBinder

def tensorsFiles : Entries SourceFile :=
  [(bindingHeader, { content := headerText tensorsApi {} }), (unitFile "g", tensorsUnit)]

theorem result_files_tensors : (Binding.files tensorsApi {}).result = .ok tensorsFiles := by
  have hgroups : (groups tensorsApi).entries = [("g", tensorsApi.namespaces.entries)] := by
    decide +kernel
  exact result_files_of_groups_eq hgroups (by decide +kernel)

theorem variables_distinct_iff_tensors :
    ((Binding.files tensorsApi {}).result = .ok tensorsFiles ∧
        (unitFile "g", tensorsUnit) ∈ tensorsFiles) ∧
      ∃ namespaces binder, IsUnit tensorsApi {} "g" tensorsUnit namespaces binder ∧
        (((groupNamed tensorsApi {} "g").root :: declaredBy binder.statements).Nodup ↔
          VariablesApart (groupNamed tensorsApi {} "g") namespaces) := by
  have hunit : (unitFile "g", tensorsUnit) ∈ tensorsFiles := by simp [tensorsFiles]
  exact ⟨⟨result_files_tensors, hunit⟩, variables_distinct_iff result_files_tensors hunit⟩

/-- Validation accepts the two functions, and their unit declares one variable for both types. -/
theorem tensors_declared_twice :
    (validate { api := some tensorsApi }).entries = [] ∧
      (Binding.files tensorsApi {}).result = .ok tensorsFiles ∧
        IsUnit tensorsApi {} "g" tensorsUnit tensorsApi.namespaces.entries tensorsBinder ∧
          ¬ ((groupNamed tensorsApi {} "g").root :: declaredBy tensorsBinder.statements).Nodup := by
  refine ⟨by decide +kernel, result_files_tensors, ⟨?_, ?_, rfl⟩, by decide +kernel⟩
  · decide +kernel
  · decide +kernel

end SourceGen.Binding
