import SourceGen.Proofs.Binding.Grouping
import SourceGen.Proofs.Spec.Sites

/-!
# Definitions and classes of bound groups

What a unit defines is told function by function, what it declares class by class. The namespaces of a
group add to both what they hold, whatever was bound before them.
-/

namespace SourceGen.Binding

open Spec Emit

/-! ## Definitions and classes among statements -/

/-- A definition without the name that it binds a function under. -/
def Statement.definition? : Statement → Option Statement
  | .define receiver method => some (.define receiver { method with name := "" })
  | _ => none

def Statement.class? : Statement → Option Statement
  | .classOf type var parent name => some (.classOf type var parent name)
  | _ => none

def definitionsOf (statements : List Statement) : List Statement :=
  statements.filterMap Statement.definition?

def classesOf (statements : List Statement) : List Statement :=
  statements.filterMap Statement.class?

section Selection

variable {select : Statement → Option Statement}

/-- What is selected among statements of a group does not come from its submodules. -/
theorem filterMap_groupStatements
    (hselect : ∀ var parent segment path, select (.submodule var parent segment path) = none)
    (group : Group) (namespaces : Entries NamespaceContent) :
    (groupStatements group namespaces).filterMap select = namespaces.flatMap fun entry ↦
      (contentStatements group (moduleOf group entry.1)
        (Text.join "::" (namespaceSegments entry.1)) entry.2).filterMap select := by
  -- Which submodules stand before a namespace depends on those declared so far; none is selected.
  have hsubmodules : ∀ declared module path segments,
      (submoduleStatements declared module path segments).filterMap select = [] := by
    intro declared module path segments
    induction segments generalizing declared module path with
    | nil => rfl
    | cons segment rest ih =>
      rw [submoduleStatements]
      split
      · exact ih ..
      · rw [List.filterMap_cons_none (hselect ..)]
        exact ih ..
  induction namespaces using List.reverseRecOn with
  | nil => rfl
  | append_singleton before entry ih =>
    rw [groupStatements_append_singleton, List.filterMap_append, ih, namespaceStatements,
      List.filterMap_append, hsubmodules, List.nil_append, List.flatMap_append, List.flatMap_singleton]

/-- Names of functions have no part in what is selected. -/
theorem filterMap_map_unnamed
    (hunnamed : ∀ statement, select (Statement.unnamed statement) = select statement)
    (statements : List Statement) :
    (statements.map Statement.unnamed).filterMap select = statements.filterMap select := by
  rw [List.filterMap_map]
  exact List.filterMap_congr fun statement _ ↦ hunnamed statement

end Selection

theorem class?_unnamed (statement : Statement) : statement.unnamed.class? = statement.class? := by
  cases statement <;> rfl

theorem definition?_unnamed (statement : Statement) :
    statement.unnamed.definition? = statement.definition? := by
  cases statement <;> rfl

theorem definitionsOf_append (front back : List Statement) :
    definitionsOf (front ++ back) = definitionsOf front ++ definitionsOf back :=
  List.filterMap_append

theorem classesOf_append (front back : List Statement) :
    classesOf (front ++ back) = classesOf front ++ classesOf back :=
  List.filterMap_append

theorem definitionsOf_flatMap {α : Type} (f : α → List Statement) (items : List α) :
    definitionsOf (items.flatMap f) = items.flatMap fun item ↦ definitionsOf (f item) :=
  List.filterMap_flatMap ..

theorem classesOf_flatMap {α : Type} (f : α → List Statement) (items : List α) :
    classesOf (items.flatMap f) = items.flatMap fun item ↦ classesOf (f item) :=
  List.filterMap_flatMap ..

/-! ## Definitions and classes of a namespace -/

section Content

variable (group : Group) (module qualifier selfType : String) (cls : ClassDecl) (function : FunctionDecl)

theorem definitionsOf_functionStatements : definitionsOf (functionStatements group module qualifier function) =
    functionStatements group module qualifier function := by
  rw [functionStatements, operatorStatements]
  split
  · split <;> rfl
  · rfl

theorem definitionsOf_memberStatements : definitionsOf (memberStatements group selfType cls function) =
    memberStatements group selfType cls function := by
  rw [memberStatements]
  split <;> rfl

theorem definitionsOf_constructor? : definitionsOf (Binder.constructor? group cls) = [] := by
  rw [Binder.constructor?]
  split <;> rfl

theorem classesOf_constructor? : classesOf (Binder.constructor? group cls) = [] := by
  rw [Binder.constructor?]
  split <;> rfl

theorem definitionsOf_classStatements : definitionsOf (classStatements group module qualifier cls) =
    (cls.functions.filter Binder.isBound).flatMap
      (memberStatements group (Binder.boundType group qualifier cls) cls) := by
  change definitionsOf (classBody group (Binder.boundType group qualifier cls) cls) = _
  rw [classBody, definitionsOf_append, definitionsOf_constructor?, List.nil_append, definitionsOf_flatMap]
  simp only [definitionsOf_memberStatements]

theorem classesOf_functionStatements :
    classesOf (functionStatements group module qualifier function) = [] := by
  rw [functionStatements, operatorStatements]
  split
  · split <;> rfl
  · rfl

theorem classesOf_memberStatements : classesOf (memberStatements group selfType cls function) = [] := by
  rw [memberStatements]
  split <;> rfl

theorem classesOf_classStatements : classesOf (classStatements group module qualifier cls) =
    [.classOf (Binder.boundType group qualifier cls) (Binder.classVariable cls) module cls.name] := by
  have hbody : classesOf (classBody group (Binder.boundType group qualifier cls) cls) = [] := by
    rw [classBody, classesOf_append, classesOf_constructor?, List.nil_append, classesOf_flatMap]
    simp only [classesOf_memberStatements, List.flatMap_eq_nil_iff, implies_true]
  calc
    _ = .classOf (Binder.boundType group qualifier cls) (Binder.classVariable cls) module cls.name ::
        classesOf (classBody group (Binder.boundType group qualifier cls) cls) := rfl
    _ = _ := by rw [hbody]

end Content

/-! ## Functions and classes as their places tell -/

/-- Functions that ask for it are left out, and so are member functions that are not public. -/
def isBoundSite (site : FunctionSite) : Bool :=
  !site.function.skipBinding && (site.owner.isNone || site.function.isPublic)

/-- What defines a function, if anything does, but for the name it is bound under. -/
def siteStatements (group : Group) (site : FunctionSite) : List Statement :=
  let qualifier := Text.join "::" (namespaceSegments site.namespaceName)
  match site.owner with
  | none => functionStatements group (moduleOf group site.namespaceName) qualifier site.function
  | some cls => memberStatements group (Binder.boundType group qualifier cls) cls site.function

/-- The declaration of a class in the module of its namespace. -/
def classStatement (group : Group) (site : ClassSite) : Statement :=
  .classOf (Binder.boundType group (Text.join "::" (namespaceSegments site.namespaceName)) site.cls)
    (Binder.classVariable site.cls) (moduleOf group site.namespaceName) site.cls.name

/-- The statements of a namespace, as they are in the unit of a group. -/
def entryStatements (group : Group) (entry : String × NamespaceContent) : List Statement :=
  contentStatements group (moduleOf group entry.1) (Text.join "::" (namespaceSegments entry.1)) entry.2

variable {group : Group} {entry : String × NamespaceContent}

theorem classesOf_entryStatements (group : Group) (entry : String × NamespaceContent) :
    classesOf (entryStatements group entry) =
      (boundClasses entry.2).map fun cls ↦ classStatement group ⟨entry.1, cls⟩ := by
  rw [entryStatements, contentStatements, classesOf_append, classesOf_flatMap, classesOf_flatMap]
  simp only [classesOf_classStatements, classesOf_functionStatements]
  rw [List.flatMap_eq_nil_iff.mpr fun _ _ ↦ rfl, List.append_nil, ← List.map_eq_flatMap]
  rfl

theorem definitionsOf_entryStatements (group : Group) (entry : String × NamespaceContent) :
    definitionsOf (entryStatements group entry) =
      ((boundClasses entry.2).flatMap fun cls ↦
        ((cls.functions.filter Binder.isBound).map (ClassSite.mk entry.1 cls).member).flatMap
          (siteStatements group)) ++
        ((boundFunctions entry.2).map (⟨entry.1, none, ·⟩)).flatMap (siteStatements group) := by
  rw [entryStatements, contentStatements, definitionsOf_append, definitionsOf_flatMap, definitionsOf_flatMap]
  simp only [definitionsOf_classStatements, definitionsOf_functionStatements, List.flatMap_map]
  rfl

theorem filter_isBoundSite_functions (site : ClassSite) :
    site.functions.filter isBoundSite = (site.cls.functions.filter Binder.isBound).map site.member := by
  rw [ClassSite.functions, List.filter_map]
  refine congrArg _ (List.filter_congr fun function _ ↦ ?_)
  exact Bool.and_comm ..

theorem filter_isBoundSite_free (name : String) (content : NamespaceContent) :
    (content.functions.map (FunctionSite.mk name none)).filter isBoundSite =
      (boundFunctions content).map (⟨name, none, ·⟩) := by
  rw [List.filter_map]
  refine congrArg _ (List.filter_congr fun function _ ↦ ?_)
  exact Bool.and_true _

/-- The definitions of a namespace are those of its functions. -/
theorem definitionsOf_entryStatements_perm (h : NamespaceBindable entry.2) :
    (definitionsOf (entryStatements group entry)).Perm
      (((contentFunctions entry.1 entry.2).filter isBoundSite).flatMap (siteStatements group)) := by
  rw [definitionsOf_entryStatements, contentFunctions, List.filter_append, List.filter_flatMap,
    List.flatMap_append, List.flatMap_assoc, contentClasses, filter_isBoundSite_free]
  simp only [filter_isBoundSite_functions, List.flatMap_map]
  exact List.perm_append_comm.trans (((boundClasses_perm h).flatMap_right _).append_left _)

/-! ## Units -/

/-- The class that is declared for a type. -/
def typeStatement (group : Group) (type : String) : Statement :=
  .classOf type (typeVariable type) group.root (endType type)

section Units

variable {namespaces : Entries NamespaceContent} {binder : Binder}

theorem definitionsOf_statements (h : (bindGroup group namespaces).result = .ok binder) :
    definitionsOf binder.statements =
      namespaces.flatMap fun entry ↦ definitionsOf (entryStatements group entry) := by
  have hcollected := collected_bindGroup h
  have htypes : definitionsOf binder.types.values = [] := by
    rw [definitionsOf, List.filterMap_eq_nil_iff]
    intro statement hstatement
    obtain ⟨type, rfl⟩ := hcollected.exists_of_mem_values hstatement
    rfl
  rw [Binder.statements, definitionsOf_append, htypes, List.nil_append, definitionsOf,
    ← filterMap_map_unnamed definition?_unnamed, hcollected.unnamed]
  exact filterMap_groupStatements (fun _ _ _ _ ↦ rfl) group namespaces

/-- A unit declares the classes of result types and then those of its namespaces. -/
theorem classesOf_statements (h : (bindGroup group namespaces).result = .ok binder) :
    classesOf binder.statements = (unitTypes group namespaces).map (typeStatement group) ++
      namespaces.flatMap fun entry ↦ classesOf (entryStatements group entry) := by
  have hcollected := collected_bindGroup h
  have htypes : classesOf binder.types.values = (unitTypes group namespaces).map (typeStatement group) := by
    rw [hcollected.values, classesOf, List.filterMap_map]
    exact congrFun List.filterMap_eq_map _
  rw [Binder.statements, classesOf_append, htypes, classesOf, ← filterMap_map_unnamed class?_unnamed,
    hcollected.unnamed]
  exact congrArg _ (filterMap_groupStatements (fun _ _ _ _ ↦ rfl) group namespaces)

end Units

end SourceGen.Binding
