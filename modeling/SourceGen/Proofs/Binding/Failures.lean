import SourceGen.Binding.Files
import SourceGen.Proofs.Emit.Interface

/-!
# When the binding files can be made

What was bound before has no part in whether a namespace can be bound: its classes must be in order and its
functions bear one name each. The groups hold the namespaces of the interface and no others, so the
binding fails nowhere but where the interface does.
-/

namespace SourceGen.Binding

open Spec Template ClassGraph Emit

variable {content : NamespaceContent}

structure NamespaceBindable (content : NamespaceContent) : Prop where
  acyclic : Acyclic content.classes
  classes : ∀ cls ∈ content.classes, ∀ function ∈ cls.functions, NamedOnce function
  functions : ∀ function ∈ content.functions, NamedOnce function

/-- What keeps a namespace from being bound, whatever was bound before. -/
def namespaceFailure? (name : String) (content : NamespaceContent) : Option GenError :=
  match (orderClasses content.classes).result with
  | .error error => some error
  | .ok classes =>
    (classes.findSome? fun cls ↦ failure? (checkShapes
      ("api.namespaces." ++ name ++ ".classes." ++ cls.name ++ ".funcs") 0 cls.functions)).or
      (failure? (checkShapes ("api.namespaces." ++ name ++ ".funcs") 0 content.functions))

/-! ## Binding never fails by itself -/

namespace Binder

theorem failure?_bindMembers (binder : Binder) (lines : List Statement) (group : Group)
    (selfType : String) (cls : ClassDecl) (functions : List FunctionDecl) :
    failure? (binder.bindMembers lines group selfType cls functions).result = none := by
  induction functions generalizing binder lines with
  | nil => rfl
  | cons function rest ih =>
    have hmember : failure? (binder.bindMember lines group selfType cls function).result = none := by
      simp only [bindMember]
      split <;> rfl
    simp only [bindMembers, Run.result_bind]
    rw [failure?_bind fun next _ ↦ ih next.1 next.2, hmember]
    rfl

theorem failure?_bindClass (binder : Binder) (group : Group) (module qualifier : String)
    (cls : ClassDecl) : failure? (binder.bindClass group module qualifier cls).result = none := by
  simp only [bindClass, Run.result_bind, Run.result_pure]
  rw [failure?_bind fun _ _ ↦ failure?_ok _, failure?_bindMembers]
  rfl

theorem failure?_bindFunctions (binder : Binder) (group : Group) (module qualifier : String)
    (functions : List FunctionDecl) :
    failure? (binder.bindFunctions group module qualifier functions).result = none := by
  induction functions generalizing binder with
  | nil => rfl
  | cons function rest ih =>
    have hoperator : failure? (binder.bindOperator group function).result = none := by
      simp only [bindOperator]
      split <;> rfl
    rw [bindFunctions]
    split
    · rw [Run.result_bind, failure?_bind fun next _ ↦ ih next, hoperator]
      rfl
    · exact ih _

/-! ## Namespaces -/

theorem failure?_bindClasses (binder : Binder) (group : Group)
    (namespaceName module qualifier : String) (classes : List ClassDecl) :
    failure? (binder.bindClasses group namespaceName module qualifier classes).result =
      classes.findSome? fun cls ↦ failure? (checkShapes
        ("api.namespaces." ++ namespaceName ++ ".classes." ++ cls.name ++ ".funcs") 0
        cls.functions) := by
  induction classes generalizing binder with
  | nil => rfl
  | cons cls rest ih =>
    simp only [bindClasses, Run.result_bind, Run.result_ofExcept]
    rw [failure?_bind fun _ _ ↦ failure?_bind fun next _ ↦ ih next, failure?_bindClass,
      Option.none_or, List.findSome?_cons]
    cases failure? (checkShapes _ 0 cls.functions) <;> rfl

theorem failure?_bindNamespace (binder : Binder) (group : Group) (name : String)
    (content : NamespaceContent) :
    failure? (binder.bindNamespace group name content).result = namespaceFailure? name content := by
  simp only [bindNamespace, Run.result_bind, Run.result_ofExcept, namespaceFailure?]
  cases (orderClasses content.classes).result with
  | error error => rfl
  | ok classes =>
    rw [ok_bind, failure?_bind fun next _ ↦ failure?_bind fun _ _ ↦ failure?_bindFunctions ..,
      failure?_bindClasses, Option.or_none]

theorem failure?_bindNamespaces (binder : Binder) (group : Group)
    (namespaces : Entries NamespaceContent) :
    failure? (binder.bindNamespaces group namespaces).result =
      namespaces.findSome? fun entry ↦ namespaceFailure? entry.1 entry.2 := by
  induction namespaces generalizing binder with
  | nil => rfl
  | cons entry rest ih =>
    obtain ⟨name, content⟩ := entry
    simp only [bindNamespaces, Run.result_bind]
    rw [failure?_bind fun next _ ↦ ih next, failure?_bindNamespace, List.findSome?_cons]
    cases namespaceFailure? name content <;> rfl

end Binder

theorem failure?_bindGroup (group : Group) (namespaces : Entries NamespaceContent) :
    failure? (bindGroup group namespaces).result =
      namespaces.findSome? fun entry ↦ namespaceFailure? entry.1 entry.2 :=
  Binder.failure?_bindNamespaces {} group namespaces

theorem namespaceFailure?_eq_none_iff {name : String} :
    namespaceFailure? name content = none ↔ NamespaceBindable content := by
  rw [namespaceFailure?]
  by_cases hacyclic : Acyclic content.classes
  · obtain ⟨sorted, hresult, hperm⟩ := result_orderClasses_of_acyclic hacyclic
    simp only [hresult, Option.or_eq_none_iff, List.findSome?_eq_none_iff,
      failure?_checkShapes_eq_none_iff, hperm.mem_iff]
    exact ⟨fun h ↦ ⟨hacyclic, h.1, h.2⟩, fun h ↦ ⟨h.classes, h.functions⟩⟩
  · obtain ⟨error, hresult, _⟩ := result_orderClasses_of_not_acyclic hacyclic
    simp only [hresult, reduceCtorEq, false_iff]
    exact fun h ↦ hacyclic h.acyclic

/-- Where every function bears one name, only circular requirements are left to fail. -/
theorem isCircular_of_namespaceFailure? {name : String} {error : GenError}
    (hclasses : ∀ cls ∈ content.classes, ∀ function ∈ cls.functions, NamedOnce function)
    (hfunctions : ∀ function ∈ content.functions, NamedOnce function)
    (h : namespaceFailure? name content = some error) : error.IsCircular := by
  by_cases hacyclic : Acyclic content.classes
  · rw [namespaceFailure?_eq_none_iff.mpr ⟨hacyclic, hclasses, hfunctions⟩] at h
    cases h
  · obtain ⟨other, hresult, hcircular⟩ := result_orderClasses_of_not_acyclic hacyclic
    simp only [namespaceFailure?, hresult, Option.some.injEq] at h
    exact h ▸ hcircular

/-! ## Groups -/

/-- Some group holds the namespace. -/
def Holds (groups : Entries (Entries NamespaceContent)) (entry : String × NamespaceContent) : Prop :=
  ∃ group ∈ groups, entry ∈ group.2

theorem holds_alter (groups : Entries (Entries NamespaceContent)) (name : String)
    (added entry : String × NamespaceContent) :
    Holds (groups.alter name fun before ↦ before.getD [] ++ [added]) entry ↔
      Holds groups entry ∨ entry = added := by
  induction groups with
  | nil => simp [Holds, Entries.alter]
  | cons group rest ih =>
    obtain ⟨k, namespaces⟩ := group
    simp only [Holds, List.mem_cons, exists_eq_or_imp, Entries.alter] at ih ⊢
    split
    · simp only [List.mem_cons, exists_eq_or_imp, Option.getD_some, List.mem_append,
        List.mem_nil_iff, or_false, or_assoc]
      rw [or_comm (a := entry = added)]
    · simp only [List.mem_cons, exists_eq_or_imp, ih, or_assoc]

/-- Putting namespaces into their groups one after the other loses none and brings in no other. -/
theorem holds_foldl (found : OrderedMap (Entries NamespaceContent))
    (namespaces : Entries NamespaceContent) (entry : String × NamespaceContent) :
    Holds (namespaces.foldl (fun found entry ↦
        found.alter (groupOf entry.1) fun before ↦ before.getD [] ++ [entry]) found).entries entry ↔
      Holds found.entries entry ∨ entry ∈ namespaces := by
  induction namespaces generalizing found with
  | nil => simp
  | cons added rest ih =>
    rw [List.foldl_cons, ih, OrderedMap.alter, holds_alter, or_assoc, List.mem_cons]

theorem holds_groups {api : Api} {entry : String × NamespaceContent} :
    Holds (groups api).entries entry ↔ entry ∈ api.namespaces.entries := by
  have hempty : ¬ Holds (∅ : OrderedMap (Entries NamespaceContent)).entries entry := by
    rintro ⟨group, hgroup, _⟩
    exact List.not_mem_nil hgroup
  rw [groups, holds_foldl]
  simp only [hempty, false_or]

/-! ## The files -/

theorem failure?_unitText (binder : Binder) (group : Group) :
    failure? (binder.unitText group) = none := by
  rw [Binder.unitText]
  refine failure?_eq_none_iff.mpr (fill_of_readsWithin ?_)
  simp only [unitLines, Entries.keys, List.map_cons, List.map_nil]
  repeat refine .forall_cons (by decide +kernel) ?_
  exact List.forall_mem_nil _

theorem failure?_unitFiles (api : Api) (config : Config)
    (groups : Entries (Entries NamespaceContent)) :
    failure? (unitFiles api config groups).result = groups.findSome? fun group ↦
      group.2.findSome? fun entry ↦ namespaceFailure? entry.1 entry.2 := by
  induction groups with
  | nil => rfl
  | cons group rest ih =>
    obtain ⟨name, namespaces⟩ := group
    simp only [unitFiles, Run.result_bind, Run.result_pure, Run.result_ofExcept]
    have hrest : ∀ group : Group, ∀ binder : Binder, failure? (do
          let content ← binder.unitText group
          let files ← (unitFiles api config rest).result
          .ok ((unitFile name, { content, includes := unitIncludes api,
                                 references := [bindingHeader, interfaceHeader] }) :: files)) =
        failure? (unitFiles api config rest).result := by
      intro group binder
      rw [failure?_bind fun _ _ ↦ failure?_bind fun _ _ ↦ failure?_ok _, failure?_unitText,
        Option.none_or, Option.or_none]
    rw [failure?_bind fun binder _ ↦ hrest _ binder, failure?_bindGroup, ih, List.findSome?_cons]
    cases namespaces.findSome? fun entry ↦ namespaceFailure? entry.1 entry.2 <;> rfl

theorem failure?_files (api : Api) (config : Config) :
    failure? (files api config).result = (groups api).entries.findSome? fun group ↦
      group.2.findSome? fun entry ↦ namespaceFailure? entry.1 entry.2 := by
  simp only [files, Run.result_bind, Run.result_pure]
  rw [failure?_bind fun _ _ ↦ failure?_ok _, failure?_unitFiles, Option.or_none]

theorem failure?_files_eq_none_iff {api : Api} {config : Config} :
    failure? (files api config).result = none ↔
      ∀ name content, (name, content) ∈ api.namespaces.entries → NamespaceBindable content := by
  simp only [failure?_files, List.findSome?_eq_none_iff, namespaceFailure?_eq_none_iff]
  constructor
  · intro h name content hentry
    obtain ⟨group, hgroup, hmem⟩ := holds_groups.mpr hentry
    exact h group hgroup (name, content) hmem
  · intro h group hgroup entry hmem
    have hentry : entry ∈ api.namespaces.entries := holds_groups.mp ⟨group, hgroup, hmem⟩
    exact h entry.1 entry.2 hentry

/-- A failure of the binding is the failure of one of the namespaces. -/
theorem exists_namespaceFailure? {api : Api} {config : Config} {error : GenError}
    (h : failure? (files api config).result = some error) :
    ∃ name content, (name, content) ∈ api.namespaces.entries ∧
      namespaceFailure? name content = some error := by
  rw [failure?_files] at h
  obtain ⟨group, hgroup, hfails⟩ := List.exists_of_findSome?_eq_some h
  obtain ⟨entry, hentry, herror⟩ := List.exists_of_findSome?_eq_some hfails
  exact ⟨entry.1, entry.2, holds_groups.mp ⟨group, hgroup, hentry⟩, herror⟩

end SourceGen.Binding
