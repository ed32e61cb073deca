import SourceGen.Proofs.Emit.InterfaceLayout
import SourceGen.Proofs.Emit.StatedSignatures

/-!
# Every function is declared and defined once

A namespace has a part for each of its classes, whatever their order, and its functions are operators or
have a name. So nothing is lost or doubled on the way of a function into one of the files, and its way tells
whether it is in a template. In the file it is met by its signature.
-/

namespace SourceGen.Emit

open Spec

variable {api : Api} {config : Config}

/-! ## Placement of a namespace -/

theorem perm_of_orderClasses_eq_ok {classes sorted : List ClassDecl}
    (h : (orderClasses classes).result = .ok sorted) : sorted.Perm classes := by
  by_cases hacyclic : ClassGraph.Acyclic classes
  · obtain ⟨emitted, hresult, hperm⟩ := result_orderClasses_of_acyclic hacyclic
    obtain rfl := Except.ok.inj (hresult.symm.trans h)
    exact hperm
  · obtain ⟨error, hresult, -⟩ := result_orderClasses_of_not_acyclic hacyclic
    cases hresult.symm.trans h

theorem ClassUnit.cls_of_ofClass_eq_ok {name : String} {cls : ClassDecl} {part : ClassUnit}
    (h : ClassUnit.ofClass name cls = .ok part) : part.cls = cls := by
  rw [ClassUnit.ofClass] at h
  obtain ⟨-, -, h⟩ := bind_eq_ok.mp h
  obtain ⟨special, -, h⟩ := bind_eq_ok.mp h
  split at h <;> cases h <;> rfl

namespace NamespaceUnit

variable {name : String} {content : NamespaceContent} {unit : NamespaceUnit}

/-- A unit has the functions of its content and a part for each of its classes. -/
structure IsUnitOf (name : String) (content : NamespaceContent) (unit : NamespaceUnit) : Prop where
  name : unit.name = name
  functions : unit.functions = content.functions
  classes : (unit.classes.map (·.cls)).Perm content.classes
  parts : ∀ part ∈ unit.classes, ClassUnit.ofClass unit.name part.cls = .ok part

theorem isUnitOf_of_ofContent_eq_ok (h : (ofContent name content).result = .ok unit) :
    IsUnitOf name content unit := by
  rw [result_ofContent] at h
  obtain ⟨ordered, hordered, h⟩ := bind_eq_ok.mp h
  obtain ⟨classes, hclasses, h⟩ := bind_eq_ok.mp h
  obtain ⟨-, -, h⟩ := bind_eq_ok.mp h
  cases h
  have hparts := forall₂_of_mapM hclasses
  refine ⟨rfl, rfl, ?_, fun part hpart ↦ ?_⟩
  · have hsame : List.Forall₂ (· = ·) (classes.map (·.cls)) ordered :=
      List.forall₂_map_left_iff.mpr (hparts.flip.imp fun _ _ ↦ ClassUnit.cls_of_ofClass_eq_ok)
    rw [List.forall₂_eq_eq_eq] at hsame
    exact hsame ▸ perm_of_orderClasses_eq_ok hordered
  · obtain ⟨cls, -, hcls⟩ := exists_of_mem_mapM hclasses hpart
    rwa [ClassUnit.cls_of_ofClass_eq_ok hcls]

/-- The functions of a namespace are its operators and those with a name. -/
theorem flatMap_functions_perm (unit : NamespaceUnit) (f : FunctionDecl → List Item) :
    (unit.functions.flatMap f).Perm (unit.operators.flatMap f ++ unit.named.flatMap f) := by
  have hsplit : (unit.operators ++ unit.named).Perm unit.functions := List.filter_append_perm _ _
  rw [← List.flatMap_append]
  exact (hsplit.flatMap_right f).symm

theorem allHeaderItems_perm (unit : NamespaceUnit) (api : Api) :
    (unit.functions.flatMap (fun function ↦ functionHeaderItems api (unit.freeSite function)) ++
      unit.classes.flatMap fun part ↦ structItem (unit.classSite part) ::
        memberItems api (unit.classSite part) part.header).Perm (unit.allHeaderItems api) := by
  have hfunctions := unit.flatMap_functions_perm fun function ↦
    functionHeaderItems api (unit.freeSite function)
  have hnamed : (unit.named.flatMap fun function ↦ functionHeaderItems api (unit.freeSite function)).Perm
      (unit.named.map (fun function ↦ .declaration (unit.freeSite function)) ++
        (unit.named.filter isTemplated).map fun function ↦
          definitionItem api (unit.freeSite function)) := by
    rw [map_filter_eq_flatMap]
    exact (List.map_append_flatMap_perm ..).symm
  have hclasses := List.map_append_flatMap_perm unit.classes
    (fun part ↦ structItem (unit.classSite part))
    (fun part ↦ memberItems api (unit.classSite part) part.header)
  -- The chunks of the three permutations are interleaved, so an item is counted instead of moved.
  refine List.perm_iff_count.mpr fun item ↦ ?_
  have hfunctions := hfunctions.count_eq item
  have hnamed := hnamed.count_eq item
  have hclasses := hclasses.count_eq item
  simp only [List.count_append] at hfunctions hnamed hclasses
  simp only [allHeaderItems, declarationItems, headerItems, headerOperatorItems, List.count_append]
  omega

theorem allSourceItems_perm (unit : NamespaceUnit) (api : Api) :
    (unit.functions.flatMap (fun function ↦ functionSourceItems api (unit.freeSite function)) ++
      unit.classes.flatMap fun part ↦ memberItems api (unit.classSite part) part.source).Perm
        (unit.allSourceItems api) := by
  have hfunctions := unit.flatMap_functions_perm fun function ↦
    functionSourceItems api (unit.freeSite function)
  have hnamed : unit.named.flatMap (fun function ↦ functionSourceItems api (unit.freeSite function)) =
      (unit.named.filter fun function ↦ !isTemplated function).map fun function ↦
        definitionItem api (unit.freeSite function) := by
    rw [map_filter_eq_flatMap]
    refine List.flatMap_congr fun function _ ↦ ?_
    rw [functionSourceItems, freeSite]
    cases isTemplated function <;> rfl
  rw [hnamed] at hfunctions
  refine List.perm_iff_count.mpr fun item ↦ ?_
  have hfunctions := hfunctions.count_eq item
  simp only [List.count_append] at hfunctions
  simp only [allSourceItems, sourceItems, sourceOperatorItems, List.count_append]
  omega

theorem IsUnitOf.placement (h : IsUnitOf name content unit) (api : Api) :
    Placement api (contentFunctions name content) (contentClasses name content)
      (unit.allHeaderItems api) (unit.allSourceItems api) := by
  have hfree : ∀ function ∈ unit.functions, Placement api [unit.freeSite function] []
      (functionHeaderItems api (unit.freeSite function))
      (functionSourceItems api (unit.freeSite function)) :=
    fun function _ ↦ placement_function rfl
  have hparts : ∀ part ∈ unit.classes, Placement api (unit.classSite part).functions [unit.classSite part]
      (structItem (unit.classSite part) :: memberItems api (unit.classSite part) part.header)
      (memberItems api (unit.classSite part) part.source) :=
    fun part hpart ↦ placement_class (h.parts part hpart)
  have hsites : (unit.classes.map unit.classSite).Perm (contentClasses name content) := by
    have hclasses := h.classes.map (ClassSite.mk unit.name)
    rw [List.map_map] at hclasses
    rw [contentClasses, ← h.name]
    exact hclasses
  have hfunctions : unit.functions.map unit.freeSite = content.functions.map (⟨name, none, ·⟩) := by
    rw [← h.functions, ← h.name]
    rfl
  refine ((placement_flatMap hfree).append (placement_flatMap hparts)).perm ?_ ?_
    (unit.allHeaderItems_perm api) (unit.allSourceItems_perm api)
  · rw [contentFunctions, ← hfunctions, List.map_eq_flatMap, ← List.flatMap_map]
    exact (hsites.flatMap_right _).append_left _
  · rw [List.flatMap_eq_nil_iff.mpr fun _ _ ↦ rfl, List.nil_append, ← List.map_eq_flatMap]
    exact hsites

end NamespaceUnit

/-! ## Placement of all namespaces -/

theorem forall₂_of_namespaceUnits_eq_ok {namespaces : Entries NamespaceContent}
    {units : List NamespaceUnit} (h : (namespaceUnits namespaces).result = .ok units) :
    List.Forall₂ (fun entry unit ↦ NamespaceUnit.IsUnitOf entry.1 entry.2 unit) namespaces units := by
  induction namespaces generalizing units with
  | nil =>
    cases h
    exact .nil
  | cons entry rest ih =>
    simp only [namespaceUnits, Run.result_bind, Run.result_pure] at h
    obtain ⟨unit, hunit, h⟩ := bind_eq_ok.mp h
    obtain ⟨later, hlater, h⟩ := bind_eq_ok.mp h
    cases h
    exact .cons (NamespaceUnit.isUnitOf_of_ofContent_eq_ok hunit) (ih hlater)

theorem placement_namespaces {namespaces : Entries NamespaceContent} {units : List NamespaceUnit}
    (h : List.Forall₂ (fun entry unit ↦ NamespaceUnit.IsUnitOf entry.1 entry.2 unit) namespaces units)
    (api : Api) :
    Placement api (namespaces.flatMap fun entry ↦ contentFunctions entry.1 entry.2)
      (namespaces.flatMap fun entry ↦ contentClasses entry.1 entry.2)
      (units.flatMap (·.allHeaderItems api)) (units.flatMap (·.allSourceItems api)) := by
  induction h with
  | nil => exact placement_nil
  | cons hunit _ ih => exact (hunit.placement api).append ih

namespace InterfaceUnit

theorem flatMap_items_flatMap_blocksOf (units : List NamespaceUnit) (items : NamespaceUnit → List Item) :
    (units.flatMap fun unit ↦ blocksOf unit.name (items unit)).flatMap (·.items) = units.flatMap items := by
  rw [List.flatMap_assoc]
  exact List.flatMap_congr fun unit _ ↦ flatMap_items_blocksOf unit.name (items unit)

theorem header_layout_perm (unit : InterfaceUnit) (api : Api) :
    (unit.namespaces.flatMap (·.allHeaderItems api)).Perm (unit.layout api).header := by
  rw [Layout.header, layout, flatMap_items_flatMap_blocksOf, flatMap_items_flatMap_blocksOf]
  refine (List.flatMap_append_perm ..).symm.trans ?_
  exact (List.flatMap_append_perm ..).symm.append_right _

theorem source_layout_perm (unit : InterfaceUnit) (api : Api) :
    (unit.namespaces.flatMap (·.allSourceItems api)).Perm (unit.layout api).source := by
  rw [Layout.source, layout, flatMap_items_flatMap_blocksOf]
  exact (List.flatMap_append_perm ..).symm

theorem scoped_layout (unit : InterfaceUnit) (api : Api) : (unit.layout api).Scoped := by
  have hscoped : ∀ items : NamespaceUnit → List Item,
      (∀ part, ∀ item ∈ items part, item.namespaceName = part.name) →
        ∀ block ∈ unit.namespaces.flatMap (fun part ↦ blocksOf part.name (items part)),
          ∀ item ∈ block.items, item.namespaceName = block.namespaceName := by
    intro items hitems block hblock
    obtain ⟨part, -, hpart⟩ := List.mem_flatMap.mp hblock
    rw [mem_blocksOf hpart]
    exact hitems part
  refine List.forall_mem_append.mpr ⟨List.forall_mem_append.mpr ⟨hscoped _ ?_, hscoped _ ?_⟩, hscoped _ ?_⟩
  · exact NamespaceUnit.namespaceName_of_mem_declarationItems
  · exact fun part ↦ NamespaceUnit.namespaceName_of_mem_definitionItems (·.header) _
  · exact fun part ↦ NamespaceUnit.namespaceName_of_mem_definitionItems (·.source) _

end InterfaceUnit

/-- Files that are made are the layout of a unit, in which every function and class is placed. -/
theorem exists_layout {files : Entries SourceFile} (h : (interfaceFiles api config).result = .ok files) :
    ∃ unit : InterfaceUnit, files = (unit.layout api).files api config ∧
      Placement api api.functionSites api.classSites (unit.layout api).header (unit.layout api).source := by
  simp only [interfaceFiles, InterfaceUnit.ofApi, Run.result_bind, Run.result_ofExcept,
    Run.result_pure] at h
  obtain ⟨unit, hunit, hfiles⟩ := bind_eq_ok.mp h
  obtain ⟨units, hunits, h⟩ := bind_eq_ok.mp hunit
  cases h
  rw [InterfaceUnit.files_eq_ok] at hfiles
  have hplaced := placement_namespaces (forall₂_of_namespaceUnits_eq_ok hunits) api
  refine ⟨⟨units⟩, (Except.ok.inj hfiles).symm, ?_⟩
  exact hplaced.perm (.refl _) (.refl _) (InterfaceUnit.header_layout_perm ⟨units⟩ api)
    (InterfaceUnit.source_layout_perm ⟨units⟩ api)

/-- The files are written down from items in which every function is declared once and defined once with its
tests, every class has one struct, and each of its special blocks is defined once; templates are defined in the
header. Every item states the signatures of what it declares and defines at the beginnings of lines. -/
theorem interface_placed {files : Entries SourceFile} (h : (interfaceFiles api config).result = .ok files) :
    ∃ layout : Layout, files = layout.files api config ∧ layout.Scoped ∧
      Placement api api.functionSites api.classSites layout.header layout.source ∧
        ∀ item ∈ layout.header ++ layout.source, StatesSignatures api config item := by
  obtain ⟨unit, hfiles, hplaced⟩ := exists_layout h
  exact ⟨unit.layout api, hfiles, unit.scoped_layout api, hplaced,
    fun item _ ↦ statesSignatures api config item⟩

/-- A template class with a constructor, a class with a private function, and functions in and outside of
templates, one of them an operator. -/
def shapesApi : Api :=
  { nullableTypes := ["Ptr"]
    namespaces := .ofEntries
      [("shape", .full
        [{ name := some "area", args := [{ name := "a", type := "BoxPtr" }, { name := "n", type := "int" }]
           out := .typed (some "double") "return n * a->side;" },
         { operator := some "+", args := [{ name := "a", type := "BoxPtr" }]
           out := .typed (some "BoxPtr") "return a;" }]
        [{ name := "Box", template := some "typename T", members := [{ name := "side", type := "T" }]
           init := some { args := [{ name := "a", type := "T" }], initList := .ofEntries [("side", "a")] }
           functions := [{ name := some "get", out := .typed (some "T") "return side;" }] }]),
       ("scale", .full
        [{ name := some "twice", template := some "typename T", args := [{ name := "a", type := "T" }]
           out := .typed (some "T") "return a + a;" }]
        [{ name := "Scale", copy := some {}
           functions := [{ name := some "reset", isPublic := false, out := .typed (some "void") "" }] }])] }

theorem interface_placed_shapes :
    ∃ files, (interfaceFiles shapesApi {}).result = .ok files ∧ ∃ layout : Layout,
      files = layout.files shapesApi {} ∧ layout.Scoped ∧
        Placement shapesApi shapesApi.functionSites shapesApi.classSites layout.header layout.source ∧
          ∀ item ∈ layout.header ++ layout.source, StatesSignatures shapesApi {} item := by
  have hemitted : failure? (interfaceFiles shapesApi {}).result = none := by
    rw [failure?_interfaceFiles, ← Option.isNone_iff_eq_none]
    decide +kernel
  obtain ⟨files, hfiles⟩ := failure?_eq_none_iff.mp hemitted
  exact ⟨files, hfiles, interface_placed hfiles⟩

end SourceGen.Emit
