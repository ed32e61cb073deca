import SourceGen.Emit.Interface
import SourceGen.Proofs.ClassGraph.Order
import SourceGen.Proofs.Emit.Classes

/-!
# When the interface files can be made

The interface of a namespace is emitted exactly if its classes can be ordered, each of them can be emitted
and each of its functions bears one name. The namespaces are taken in their order, so the first that
cannot be emitted decides about the error.
-/

namespace SourceGen.Emit

open Spec Template ClassGraph

variable {content : NamespaceContent}

/-! ## Ordering -/

theorem result_orderClasses_of_acyclic {classes : List ClassDecl} (hacyclic : Acyclic classes) :
    ∃ sorted, (orderClasses classes).result = .ok sorted ∧ sorted.Perm classes := by
  obtain ⟨sorted, order, hresult, _, hemission, hsorted⟩ := orderClasses_of_acyclic hacyclic
  exact ⟨sorted, hresult, perm_of_isEmissionOrder hemission hsorted⟩

theorem result_orderClasses_of_not_acyclic {classes : List ClassDecl}
    (hcircle : ¬ Acyclic classes) :
    ∃ error : GenError, (orderClasses classes).result = .error error ∧ error.IsCircular := by
  obtain ⟨requirement, dependent, hresult⟩ := orderClasses_of_not_acyclic hcircle
  exact ⟨_, hresult, requirement, dependent, rfl⟩

/-! ## Namespaces -/

theorem NamespaceUnit.result_ofContent (name : String) (content : NamespaceContent) :
    (NamespaceUnit.ofContent name content).result = (do
      let ordered ← (orderClasses content.classes).result
      let classes ← ordered.mapM (ClassUnit.ofClass name)
      checkShapes ("api.namespaces." ++ name ++ ".funcs") 0 content.functions
      .ok ⟨name, classes, content.functions⟩) := by
  simp only [ofContent, Run.result_bind, Run.result_ofExcept, Run.result_pure]

/-- Once the classes are in order, they are built one after the other, and the functions are checked. -/
theorem NamespaceUnit.failure?_ofContent_of_acyclic (name : String)
    (hacyclic : Acyclic content.classes) :
    ∃ sorted : List ClassDecl, sorted.Perm content.classes ∧
      failure? (NamespaceUnit.ofContent name content).result =
        (sorted.findSome? fun cls ↦ failure? (ClassUnit.ofClass name cls)).or
          (failure? (checkShapes ("api.namespaces." ++ name ++ ".funcs") 0 content.functions)) := by
  obtain ⟨sorted, hresult, hperm⟩ := result_orderClasses_of_acyclic hacyclic
  refine ⟨sorted, hperm, ?_⟩
  rw [result_ofContent, hresult, ok_bind,
    failure?_bind fun _ _ ↦ failure?_bind fun _ _ ↦ failure?_ok _, failure?_mapM, Option.or_none]

theorem NamespaceUnit.failure?_ofContent_of_not_acyclic (name : String)
    (hcircle : ¬ Acyclic content.classes) :
    ∃ error : GenError, failure? (NamespaceUnit.ofContent name content).result = some error ∧
      error.IsCircular := by
  obtain ⟨error, hresult, hcircular⟩ := result_orderClasses_of_not_acyclic hcircle
  refine ⟨error, ?_, hcircular⟩
  rw [result_ofContent, hresult]
  rfl

theorem NamespaceUnit.failure?_ofContent_eq_none_iff {name : String} :
    failure? (NamespaceUnit.ofContent name content).result = none ↔ NamespaceEmittable content := by
  by_cases hacyclic : Acyclic content.classes
  · obtain ⟨sorted, hperm, hfailure⟩ := failure?_ofContent_of_acyclic name hacyclic
    simp only [hfailure, Option.or_eq_none_iff, List.findSome?_eq_none_iff,
      ClassUnit.failure?_ofClass_eq_none_iff, failure?_checkShapes_eq_none_iff, hperm.mem_iff]
    exact ⟨fun h ↦ ⟨hacyclic, h.1, h.2⟩, fun h ↦ ⟨h.classes, h.functions⟩⟩
  · obtain ⟨error, hfailure, _⟩ := failure?_ofContent_of_not_acyclic name hacyclic
    simp only [hfailure, reduceCtorEq, false_iff]
    exact fun h ↦ hacyclic h.acyclic

theorem NamespaceUnit.ofContent_failsOnly_of_acyclic (name : String)
    (hacyclic : Acyclic content.classes) :
    FailsOnly GenError.IsMalformedSpec (NamespaceUnit.ofContent name content).result := by
  obtain ⟨sorted, hresult, _⟩ := result_orderClasses_of_acyclic hacyclic
  rw [result_ofContent, hresult]
  exact (FailsOnly.mapM fun _ _ ↦ ClassUnit.ofClass_failsOnly).bind fun _ ↦
    (checkShapes_failsOnly _ _ _).bind fun _ ↦ .ok _

theorem failure?_namespaceUnits (namespaces : Entries NamespaceContent) :
    failure? (namespaceUnits namespaces).result = namespaces.findSome? fun entry ↦
      failure? (NamespaceUnit.ofContent entry.1 entry.2).result := by
  induction namespaces with
  | nil => rfl
  | cons entry rest ih =>
    obtain ⟨name, content⟩ := entry
    simp only [namespaceUnits, Run.result_bind, Run.result_pure]
    rw [failure?_bind fun _ _ ↦ failure?_bind fun _ _ ↦ failure?_ok _, ih, Option.or_none,
      List.findSome?_cons]
    cases failure? (NamespaceUnit.ofContent name content).result <;> rfl

theorem InterfaceUnit.failure?_ofApi (api : Api) :
    failure? (InterfaceUnit.ofApi api).result = api.namespaces.entries.findSome? fun entry ↦
      failure? (NamespaceUnit.ofContent entry.1 entry.2).result := by
  simp only [InterfaceUnit.ofApi, Run.result_bind, Run.result_pure]
  rw [failure?_bind fun _ _ ↦ failure?_ok _, failure?_namespaceUnits, Option.or_none]

/-! ## The files -/

theorem NamespaceUnit.failure?_declarations (unit : NamespaceUnit) (api : Api) :
    failure? (unit.declarations api) = none := by
  rw [declarations, failure?_bind fun _ _ ↦ failure?_ok _, failure?_mapM, Option.or_none,
    List.findSome?_eq_none_iff]
  exact fun cls _ ↦ failure?_classDeclaration cls.cls api

theorem InterfaceUnit.failure?_headerText (unit : InterfaceUnit) (api : Api) (config : Config) :
    failure? (unit.headerText api config) = none := by
  have hdeclarations : failure? (unit.namespaces.mapM fun part ↦
      part.wrap <$> part.declarations api) = none := by
    rw [failure?_mapM, List.findSome?_eq_none_iff]
    intro part _
    rw [failure?_map, part.failure?_declarations]
  rw [headerText, failure?_bind fun declarations _ ↦ failure?_eq_none_iff.mpr
    (fill_of_readsWithin ?_), hdeclarations, Option.or_none]
  simp only [interfaceHeaderLines, Entries.keys, List.map_cons, List.map_nil]
  repeat refine .forall_cons (by decide +kernel) ?_
  exact List.forall_mem_nil _

theorem InterfaceUnit.failure?_sourceText (unit : InterfaceUnit) (api : Api) (config : Config) :
    failure? (unit.sourceText api config) = none := by
  rw [sourceText]
  refine failure?_eq_none_iff.mpr (fill_of_readsWithin ?_)
  simp only [interfaceSourceLines, Entries.keys, List.map_cons, List.map_nil]
  repeat refine .forall_cons (by decide +kernel) ?_
  exact List.forall_mem_nil _

theorem InterfaceUnit.failure?_files (unit : InterfaceUnit) (api : Api) (config : Config) :
    failure? (unit.files api config) = none := by
  rw [files, failure?_bind fun _ _ ↦ failure?_bind fun _ _ ↦ failure?_ok _,
    unit.failure?_headerText, unit.failure?_sourceText]
  rfl

/-- The first namespace that cannot be emitted decides. -/
theorem failure?_interfaceFiles (api : Api) (config : Config) :
    failure? (interfaceFiles api config).result = api.namespaces.entries.findSome? fun entry ↦
      failure? (NamespaceUnit.ofContent entry.1 entry.2).result := by
  simp only [interfaceFiles, Run.result_bind, Run.result_ofExcept]
  rw [failure?_bind fun unit _ ↦ unit.failure?_files api config, Option.or_none,
    InterfaceUnit.failure?_ofApi]

end SourceGen.Emit
