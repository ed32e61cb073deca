import Mathlib.Data.List.Induction
import SourceGen.Proofs.Binding.Outline

/-!
# Submodules

The submodules that the namespaces of a group need are declared once each, a submodule behind its parent.
Their variables are known by the segments that lead to them, and they are longer than the group's own.
-/

namespace SourceGen.Binding

open Spec Emit

/-- The variables of the submodules on the way down the segments. -/
def submoduleVariables (module : String) : List String → List String
  | [] => []
  | segment :: rest => (module ++ "_" ++ segment) :: submoduleVariables (module ++ "_" ++ segment) rest

/-- The variables of the submodules that namespaces need. -/
def groupVariables (group : Group) (namespaces : Entries NamespaceContent) : List String :=
  namespaces.flatMap fun entry ↦ submoduleVariables group.root (below entry.1)

section

variable {declared segments : List String} {module path var parent segment : String}

theorem moduleVariable_concat (module : String) (segments : List String) (segment : String) :
    moduleVariable module (segments ++ [segment]) =
      moduleVariable module segments ++ "_" ++ segment :=
  List.foldl_append

/-- The variable of a submodule begins with that of its module and goes on. -/
theorem exists_of_mem_submoduleVariables (h : var ∈ submoduleVariables module segments) :
    ∃ rest, var = module ++ "_" ++ rest := by
  induction segments generalizing module with
  | nil => cases h
  | cons segment rest ih =>
    rcases List.mem_cons.mp h with rfl | hmem
    · exact ⟨segment, rfl⟩
    · obtain ⟨tail, rfl⟩ := ih hmem
      exact ⟨segment ++ "_" ++ tail, by simp only [String.append_assoc]⟩

theorem not_mem_submoduleVariables (module : String) (segments : List String) :
    module ∉ submoduleVariables module segments := by
  intro hmem
  obtain ⟨rest, heq⟩ := exists_of_mem_submoduleVariables hmem
  have hlength := congrArg String.length heq
  simp only [String.length_append] at hlength
  have hjoint : "_".length = 1 := rfl
  omega

theorem moduleVariable_mem (module : String) (segments : List String) :
    moduleVariable module segments ∈ module :: submoduleVariables module segments := by
  induction segments generalizing module with
  | nil => exact List.mem_cons_self
  | cons segment rest ih => exact List.mem_cons_of_mem _ (ih _)

theorem submoduleVariables_append (module : String) (front back : List String) :
    submoduleVariables module (front ++ back) =
      submoduleVariables module front ++ submoduleVariables (moduleVariable module front) back := by
  induction front generalizing module with
  | nil => rfl
  | cons segment rest ih => exact congrArg _ (ih _)

/-- Every place on the way down but the module itself has a submodule's variable. -/
theorem moduleVariable_mem_of_isPrefix {place : List String} (h : place ++ [segment] <+: segments) :
    moduleVariable module (place ++ [segment]) ∈ submoduleVariables module segments := by
  obtain ⟨rest, rfl⟩ := h
  rw [submoduleVariables_append, submoduleVariables_append, moduleVariable_concat]
  simp [submoduleVariables]

theorem moduleVariable_concat_ne (module : String) (place : List String) (segment : String) :
    moduleVariable module (place ++ [segment]) ≠ module := by
  intro heq
  have hmem : moduleVariable module (place ++ [segment]) ∈
      submoduleVariables module (place ++ [segment]) :=
    moduleVariable_mem_of_isPrefix List.prefix_rfl
  rw [heq] at hmem
  exact not_mem_submoduleVariables _ _ hmem

/-! ## Submodules of one namespace -/

theorem declaredBy_submoduleStatements (declared : List String) (module path : String)
    (segments : List String) :
    declaredBy (submoduleStatements declared module path segments) =
      submodulesOf (submoduleStatements declared module path segments) := by
  induction segments generalizing declared module path with
  | nil => rfl
  | cons segment rest ih =>
    rw [submoduleStatements]
    split
    · exact ih ..
    · exact congrArg _ (ih ..)

/-- With those declared before, all submodules on the way are declared. -/
theorem mem_submodulesOf_submoduleStatements (declared : List String) (module path : String)
    (segments : List String) :
    var ∈ declared ++ submodulesOf (submoduleStatements declared module path segments) ↔
      var ∈ declared ∨ var ∈ submoduleVariables module segments := by
  induction segments generalizing declared module path with
  | nil => simp [submoduleStatements, submoduleVariables]
  | cons segment rest ih =>
    rw [submoduleStatements, submoduleVariables]
    split
    · next hmem =>
      rw [ih, List.mem_cons]
      constructor
      · exact Or.imp_right .inr
      · rintro (h | rfl | h)
        · exact .inl h
        · exact .inl hmem
        · exact .inr h
    · have hrest := ih (declared ++ [module ++ "_" ++ segment]) (module ++ "_" ++ segment)
        (path ++ "." ++ segment)
      simpa [submodulesOf, Statement.submodule?, or_assoc] using hrest

theorem nodup_submodulesOf_submoduleStatements (h : declared.Nodup) (module path : String)
    (segments : List String) :
    (declared ++ submodulesOf (submoduleStatements declared module path segments)).Nodup := by
  induction segments generalizing declared module path with
  | nil => simpa [submoduleStatements] using h
  | cons segment rest ih =>
    rw [submoduleStatements]
    split
    · exact ih h ..
    · next hmem =>
      have hfresh : (declared ++ [module ++ "_" ++ segment]).Nodup := by
        simpa [List.nodup_append] using ⟨h, fun var hvar ↦ fun heq ↦ hmem (heq ▸ hvar)⟩
      have hrest := ih hfresh (module ++ "_" ++ segment) (path ++ "." ++ segment)
      rwa [List.append_assoc] at hrest

/-- A submodule is declared for a place on the way: the segments that lead to its parent and its own. -/
theorem exists_place_of_mem_submoduleStatements
    (h : .submodule var parent segment path' ∈ submoduleStatements declared module path segments) :
    ∃ place, place ++ [segment] <+: segments ∧ parent = moduleVariable module place ∧
      var = moduleVariable module (place ++ [segment]) := by
  induction segments generalizing declared module path with
  | nil => cases h
  | cons first rest ih =>
    have hlater : ∀ known : List String, .submodule var parent segment path' ∈
          submoduleStatements known (module ++ "_" ++ first) (path ++ "." ++ first) rest →
        ∃ place, place ++ [segment] <+: first :: rest ∧ parent = moduleVariable module place ∧
          var = moduleVariable module (place ++ [segment]) := by
      intro known hmem
      obtain ⟨place, hplace, hparent, hvar⟩ := ih hmem
      exact ⟨first :: place, List.cons_prefix_cons.mpr ⟨rfl, hplace⟩, hparent, hvar⟩
    rw [submoduleStatements] at h
    split at h
    · exact hlater _ h
    · rcases List.mem_cons.mp h with heq | hmem
      · cases heq
        exact ⟨[], by simp, rfl, rfl⟩
      · exact hlater _ hmem

/-- The way down begins at a known module, and every submodule on it has been declared or is. -/
theorem declaredBefore_parent_submoduleStatements {known : List String} (hmodule : module ∈ known)
    (hdeclared : declared ⊆ known) :
    DeclaredBefore Statement.parent? known (submoduleStatements declared module path segments) := by
  induction segments generalizing declared module path known with
  | nil => trivial
  | cons segment rest ih =>
    rw [submoduleStatements]
    split
    · next hmem => exact ih (hdeclared hmem) hdeclared
    · refine ⟨by simpa [Statement.parent?] using hmodule, ih ?_ ?_⟩
      · simp [Statement.declared?]
      · exact List.append_subset.mpr ⟨List.Subset.trans hdeclared (List.subset_append_left _ _),
          List.subset_append_right _ _⟩

theorem receiver?_of_mem_submoduleStatements {statement : Statement}
    (h : statement ∈ submoduleStatements declared module path segments) :
    statement.receiver? = none := by
  induction segments generalizing declared module path with
  | nil => cases h
  | cons segment rest ih =>
    rw [submoduleStatements] at h
    split at h
    · exact ih h
    · rcases List.mem_cons.mp h with rfl | hmem
      · rfl
      · exact ih hmem

end

/-! ## Submodules of a group -/

section

variable {group : Group} {namespaces : Entries NamespaceContent}

theorem submodulesOf_contentStatements (group : Group) (module qualifier : String)
    (content : NamespaceContent) :
    submodulesOf (contentStatements group module qualifier content) = [] := by
  rw [contentStatements, submodulesOf_append, submodulesOf_eq_nil (declaredBy_functions ..),
    List.append_nil, submodulesOf, List.filterMap_flatMap, List.flatMap_eq_nil_iff]
  exact fun cls _ ↦ submodulesOf_classStatements group module qualifier cls

theorem submodulesOf_namespaceStatements (group : Group) (before : List Statement)
    (entry : String × NamespaceContent) :
    submodulesOf (namespaceStatements group before entry) = submodulesOf
      (submoduleStatements (submodulesOf before) group.root group.name (below entry.1)) := by
  rw [namespaceStatements, submodulesOf_append, submodulesOf_contentStatements, List.append_nil]

/-- The submodules of a unit are those that its namespaces need. -/
theorem mem_submodulesOf_groupStatements {var : String} :
    var ∈ submodulesOf (groupStatements group namespaces) ↔ var ∈ groupVariables group namespaces := by
  induction namespaces using List.reverseRecOn with
  | nil => rfl
  | append_singleton front entry ih =>
    rw [groupStatements_append_singleton, submodulesOf_append, submodulesOf_namespaceStatements,
      mem_submodulesOf_submoduleStatements, ih]
    simp [groupVariables]

theorem nodup_submodulesOf_groupStatements (group : Group) (namespaces : Entries NamespaceContent) :
    (submodulesOf (groupStatements group namespaces)).Nodup := by
  induction namespaces using List.reverseRecOn with
  | nil => exact List.nodup_nil
  | append_singleton front entry ih =>
    rw [groupStatements_append_singleton, submodulesOf_append, submodulesOf_namespaceStatements]
    exact nodup_submodulesOf_submoduleStatements ih ..

theorem root_not_mem_groupVariables (group : Group) (namespaces : Entries NamespaceContent) :
    group.root ∉ groupVariables group namespaces := by
  intro hmem
  obtain ⟨entry, -, hentry⟩ := List.mem_flatMap.mp hmem
  exact not_mem_submoduleVariables _ _ hentry

theorem classVariable_not_mem_groupVariables (group : Group) (namespaces : Entries NamespaceContent)
    (cls : ClassDecl) : Binder.classVariable cls ∉ groupVariables group namespaces := by
  intro hmem
  obtain ⟨entry, -, hentry⟩ := List.mem_flatMap.mp hmem
  obtain ⟨rest, heq⟩ := exists_of_mem_submoduleVariables hentry
  rw [Group.root, String.append_assoc, String.append_assoc] at heq
  exact classVariable_ne cls _ heq

/-- The variables that a unit declares: those of its submodules and those of its bound classes. -/
theorem declaredBy_groupStatements_perm (group : Group) (namespaces : Entries NamespaceContent) :
    (declaredBy (groupStatements group namespaces)).Perm
      (submodulesOf (groupStatements group namespaces) ++
        namespaces.flatMap fun entry ↦ (boundClasses entry.2).map Binder.classVariable) := by
  induction namespaces using List.reverseRecOn with
  | nil => exact .nil
  | append_singleton front entry ih =>
    rw [groupStatements_append_singleton, declaredBy_append, submodulesOf_append,
      submodulesOf_namespaceStatements, namespaceStatements, declaredBy_append,
      declaredBy_submoduleStatements, declaredBy_contentStatements, List.flatMap_append,
      List.flatMap_singleton, List.append_assoc]
    refine (ih.append_right _).trans ?_
    rw [List.append_assoc]
    exact (List.perm_append_comm_assoc ..).append_left _

theorem mem_declaredBy_groupStatements {var : String} :
    var ∈ declaredBy (groupStatements group namespaces) ↔ var ∈ groupVariables group namespaces ∨
      ∃ entry ∈ namespaces, ∃ cls ∈ boundClasses entry.2, Binder.classVariable cls = var := by
  rw [(declaredBy_groupStatements_perm group namespaces).mem_iff, List.mem_append,
    mem_submodulesOf_groupStatements]
  simp

theorem typeVariable_mem_declaredBy_iff {type : String} :
    typeVariable type ∈ declaredBy (groupStatements group namespaces) ↔
      typeVariable type ∈ groupVariables group namespaces := by
  rw [mem_declaredBy_groupStatements, or_iff_left]
  rintro ⟨entry, -, cls, -, heq⟩
  exact classVariable_ne cls (endType type) heq

end

end SourceGen.Binding
