import SourceGen.Binding.Files
import SourceGen.Distinct
import SourceGen.Proofs.Binding.Scoping

/-!
# Outlines of binding modules

The types that the functions of a unit ask a class for, and the statements that its namespaces amount to.
An outline leaves out the names under which functions are bound, which depend on the functions before;
nothing else of a statement does, submodules apart, and those are declared once.
-/

namespace SourceGen.Binding

open Spec Emit

/-! ## Types that are asked for -/

/-- Whether a type has a class to be declared. -/
def isClassType (type : String) : Bool :=
  !(type.isEmpty || isBuiltin type)

/-- The class of a type, filed under the type. -/
def classEntry (group : Group) (type : String) : String × Statement :=
  (type, .classOf type (typeVariable type) group.root (endType type))

/-- A class is asked for the type of a result unless it is excluded. -/
def registeredTypes (group : Group) (outType : String) : List String :=
  if typeVariable (cleanType outType) ∈ group.excluded then [] else [cleanType outType]

/-- The type of what a function outside of classes returns. -/
def resultType (group : Group) (function : FunctionDecl) : String :=
  cleanType (group.outType function.parameters function)

/-- The type whose class gets a method for an operator, if there is a method for it. -/
def operatorOwner? (group : Group) (function : FunctionDecl) : Option String :=
  match Binder.operatorMethod group function with
  | .ok _ => some (resultType group function)
  | .error _ => none

def functionTypes (group : Group) (function : FunctionDecl) : List String :=
  registeredTypes group (group.outType function.parameters function) ++
    if function.operator.isSome then (operatorOwner? group function).toList else []

def memberTypes (group : Group) (cls : ClassDecl) (function : FunctionDecl) : List String :=
  registeredTypes group (group.outType (cls.parameters ++ function.parameters) function)

def classTypes (group : Group) (cls : ClassDecl) : List String :=
  (cls.functions.filter Binder.isBound).flatMap (memberTypes group cls)

/-- The functions of a namespace that are bound. -/
def boundFunctions (content : NamespaceContent) : List FunctionDecl :=
  content.functions.filter (!·.skipBinding)

/-- The classes of a namespace in the order in which they are bound. -/
def boundClasses (content : NamespaceContent) : List ClassDecl :=
  (orderClasses content.classes).result.toOption.getD []

def contentTypes (group : Group) (content : NamespaceContent) : List String :=
  (boundClasses content).flatMap (classTypes group) ++
    (boundFunctions content).flatMap (functionTypes group)

/-- The types of a unit that have a class, in the order in which the classes are declared. -/
def unitTypes (group : Group) (namespaces : Entries NamespaceContent) : List String :=
  distinct ((namespaces.flatMap fun entry ↦ contentTypes group entry.2).filter isClassType)

/-! ## Statements up to names -/

namespace Statement

/-- The statement without the name that it binds a function under. -/
def unnamed : Statement → Statement
  | .define receiver method => .define receiver { method with name := "" }
  | statement => statement

@[simp] theorem declared?_unnamed (statement : Statement) :
    statement.unnamed.declared? = statement.declared? := by
  cases statement <;> rfl

@[simp] theorem receiver?_unnamed (statement : Statement) :
    statement.unnamed.receiver? = statement.receiver? := by
  cases statement <;> rfl

@[simp] theorem parent?_unnamed (statement : Statement) :
    statement.unnamed.parent? = statement.parent? := by
  cases statement <;> rfl

@[simp] theorem submodule?_unnamed (statement : Statement) :
    statement.unnamed.submodule? = statement.submodule? := by
  cases statement <;> rfl

end Statement

@[simp] theorem declaredBy_map_unnamed (statements : List Statement) :
    declaredBy (statements.map Statement.unnamed) = declaredBy statements := by
  have hsame : Statement.declared? ∘ Statement.unnamed = Statement.declared? :=
    funext Statement.declared?_unnamed
  rw [declaredBy, declaredBy, List.filterMap_map, hsame]

@[simp] theorem submodulesOf_map_unnamed (statements : List Statement) :
    submodulesOf (statements.map Statement.unnamed) = submodulesOf statements := by
  have hsame : Statement.submodule? ∘ Statement.unnamed = Statement.submodule? :=
    funext Statement.submodule?_unnamed
  rw [submodulesOf, submodulesOf, List.filterMap_map, hsame]

theorem declaredBefore_map_unnamed {uses : Statement → Option String}
    (huses : ∀ statement, uses (Statement.unnamed statement) = uses statement) {known : List String}
    {statements : List Statement} :
    DeclaredBefore uses known (statements.map Statement.unnamed) ↔
      DeclaredBefore uses known statements := by
  induction statements generalizing known with
  | nil => rfl
  | cons statement rest ih =>
    rw [List.map_cons, DeclaredBefore, DeclaredBefore, huses, Statement.declared?_unnamed, ih]

/-- The definition of a function that bears a name. -/
def namedStatement (group : Group) (module qualifier : String) (function : FunctionDecl) : Statement :=
  let name := function.name.getD ""
  .define module
    { name := ""
      params := group.params function.parameters function.args
      body := .call (Binder.qualified qualifier name ++
          group.instantiation (!function.parameters.isEmpty)) (function.args.map (·.name))
      keywords := group.keywords function.parameters function.args
      description := function.description.getD (name ++ " ...") }

/-- The definition of an operator, if there is a method for it. -/
def operatorStatements (group : Group) (function : FunctionDecl) : List Statement :=
  match Binder.operatorMethod group function with
  | .ok method => [(Statement.define (typeVariable (resultType group function)) method).unnamed]
  | .error _ => []

def functionStatements (group : Group) (module qualifier : String) (function : FunctionDecl) :
    List Statement :=
  if function.operator.isSome then operatorStatements group function
  else [namedStatement group module qualifier function]

def memberStatements (group : Group) (selfType : String) (cls : ClassDecl) (function : FunctionDecl) :
    List Statement :=
  let templates := cls.parameters ++ function.parameters
  match Binder.memberBody [] group cls function with
  | .ok (_, body, usual, _) =>
    [.define (Binder.classVariable cls)
      { name := ""
        params := ⟨selfType ++ "&", "self"⟩ :: group.params templates function.args
        body
        keywords := group.keywords templates function.args
        description := function.description.getD usual }]
  | .error _ => []

/-- What is defined on a class, its constructor first. -/
def classBody (group : Group) (selfType : String) (cls : ClassDecl) : List Statement :=
  Binder.constructor? group cls ++
    (cls.functions.filter Binder.isBound).flatMap (memberStatements group selfType cls)

def classStatements (group : Group) (module qualifier : String) (cls : ClassDecl) : List Statement :=
  let selfType := Binder.boundType group qualifier cls
  .classOf selfType (Binder.classVariable cls) module cls.name :: classBody group selfType cls

/-- The classes and then the functions of a namespace. -/
def contentStatements (group : Group) (module qualifier : String) (content : NamespaceContent) :
    List Statement :=
  (boundClasses content).flatMap (classStatements group module qualifier) ++
    (boundFunctions content).flatMap (functionStatements group module qualifier)

theorem declaredBy_functionStatements (group : Group) (module qualifier : String)
    (function : FunctionDecl) :
    declaredBy (functionStatements group module qualifier function) = [] := by
  rw [functionStatements, operatorStatements]
  split
  · split <;> rfl
  · rfl

theorem declaredBy_functions (group : Group) (module qualifier : String)
    (functions : List FunctionDecl) :
    declaredBy (functions.flatMap (functionStatements group module qualifier)) = [] := by
  rw [declaredBy_flatMap, List.flatMap_eq_nil_iff]
  exact fun function _ ↦ declaredBy_functionStatements group module qualifier function

theorem declaredBy_classBody (group : Group) (selfType : String) (cls : ClassDecl) :
    declaredBy (classBody group selfType cls) = [] := by
  have hconstructor : declaredBy (Binder.constructor? group cls) = [] := by
    rw [Binder.constructor?]
    split <;> rfl
  have hmember : ∀ function, declaredBy (memberStatements group selfType cls function) = [] := by
    intro function
    rw [memberStatements]
    split <;> rfl
  rw [classBody, declaredBy_append, hconstructor, declaredBy_flatMap, List.nil_append,
    List.flatMap_eq_nil_iff]
  exact fun function _ ↦ hmember function

theorem declaredBy_classStatements (group : Group) (module qualifier : String) (cls : ClassDecl) :
    declaredBy (classStatements group module qualifier cls) = [Binder.classVariable cls] := by
  rw [classStatements, declaredBy_cons, declaredBy_classBody]
  rfl

theorem submodulesOf_classStatements (group : Group) (module qualifier : String) (cls : ClassDecl) :
    submodulesOf (classStatements group module qualifier cls) = [] := by
  change submodulesOf (classBody group (Binder.boundType group qualifier cls) cls) = []
  exact submodulesOf_eq_nil (declaredBy_classBody ..)

theorem declaredBy_contentStatements (group : Group) (module qualifier : String)
    (content : NamespaceContent) :
    declaredBy (contentStatements group module qualifier content) =
      (boundClasses content).map Binder.classVariable := by
  rw [contentStatements, declaredBy_append, declaredBy_functions, List.append_nil, declaredBy_flatMap]
  simp only [declaredBy_classStatements]
  exact List.map_eq_flatMap.symm

/-- No module and no class of a result type has the variable of a bound class. -/
theorem classVariable_ne (cls : ClassDecl) (text : String) : Binder.classVariable cls ≠ "m_" ++ text := by
  intro h
  have hchars := congrArg String.toList h
  simp [Binder.classVariable] at hchars

/-! ## Submodules -/

/-- The segments of a namespace below its group. -/
def below (name : String) : List String :=
  (namespaceSegments name).tail

/-- The variable for the segments below a module. -/
def moduleVariable (module : String) (segments : List String) : String :=
  segments.foldl (fun module segment ↦ module ++ "_" ++ segment) module

/-- The variable of the module that a namespace is bound in. -/
def moduleOf (group : Group) (name : String) : String :=
  moduleVariable group.root (below name)

/-- The submodules on the way down the segments whose variables have not been declared. -/
def submoduleStatements (declared : List String) (module path : String) : List String → List Statement
  | [] => []
  | segment :: rest =>
    let var := module ++ "_" ++ segment
    let path' := path ++ "." ++ segment
    if var ∈ declared then submoduleStatements declared var path' rest
    else .submodule var module segment path :: submoduleStatements (declared ++ [var]) var path' rest

/-! ## Namespaces -/

/-- What a namespace adds to the statements before it. -/
def namespaceStatements (group : Group) (before : List Statement)
    (entry : String × NamespaceContent) : List Statement :=
  submoduleStatements (submodulesOf before) group.root group.name (below entry.1) ++
    contentStatements group (moduleOf group entry.1) (Text.join "::" (namespaceSegments entry.1)) entry.2

/-- The statements of namespaces that are bound one after the other. -/
def groupStatements (group : Group) (namespaces : Entries NamespaceContent) : List Statement :=
  namespaces.foldl (fun before entry ↦ before ++ namespaceStatements group before entry) []

@[simp] theorem groupStatements_nil (group : Group) : groupStatements group [] = [] := rfl

theorem groupStatements_append_singleton (group : Group) (namespaces : Entries NamespaceContent)
    (entry : String × NamespaceContent) :
    groupStatements group (namespaces ++ [entry]) = groupStatements group namespaces ++
      namespaceStatements group (groupStatements group namespaces) entry :=
  List.foldl_append

end SourceGen.Binding
