import SourceGen.Binding.Names
import SourceGen.Binding.Statement
import SourceGen.Binding.Types
import SourceGen.Config.Basic
import SourceGen.Emit.ClassOrder
import SourceGen.Emit.Functions

/-!
# Binding a group of namespaces

A binder goes through the namespaces of one group and collects the statements of its unit. Submodules are
declared on first use, classes of result types once per type, and operators become methods of the class
of their result. What has no counterpart is left out with a note.
-/

namespace SourceGen.Binding

open Spec

/-- What is fixed while a group is bound. -/
structure Group where
  name : String
  api : Api
  aliasText : String
deriving DecidableEq

/-- What has been bound so far: the names given out, the submodules declared, a class for every result
type, and the statements in blocks. -/
structure Binder where
  used : UsedNames := []
  submodules : List String := []
  types : OrderedMap Statement := ∅
  blocks : List (List Statement) := []
deriving DecidableEq

namespace Group

def root (group : Group) : String :=
  "m_" ++ group.name

def clean (group : Group) (params : List String) (text : String) : String :=
  cleanTemplates params group.aliasText text

/-- The variables of types that get no class by being returned. -/
def excluded (group : Group) : List String :=
  ((group.api.binding.ignoredTypes ++ [group.api.defaultOut, group.aliasText]).map fun type ↦
      typeVariable (cleanType type)) ++
    group.api.namespaces.values.flatMap fun content ↦ content.classes.map fun cls ↦ "m_" ++ cls.name

def outType (group : Group) (params : List String) (function : FunctionDecl) : String :=
  group.clean params (function.outType group.api.defaultOut)

def params (group : Group) (templates : List String) (args : List Argument) : List Param :=
  args.map fun arg ↦ ⟨group.clean templates arg.type, arg.name⟩

def keywords (group : Group) (templates : List String) (args : List Argument) : List Keyword :=
  args.map fun arg ↦ ⟨arg.name, arg.fallback.map (group.clean templates)⟩

/-- How a template is named once its parameters are the alias. -/
def instantiation (group : Group) (templated : Bool) : String :=
  if templated then "<" ++ group.aliasText ++ ">" else ""

end Group

namespace Binder

def push (binder : Binder) (block : List Statement) : Binder :=
  { binder with blocks := binder.blocks ++ [block] }

/-! ## Modules -/

def addSubmodule (binder : Binder) (var parent segment path : String) : Binder :=
  if var ∈ binder.submodules then binder
  else
    { binder.push [.submodule var parent segment path] with
      submodules := binder.submodules ++ [var] }

/-- The variable for the segments below a module, and the binder with all submodules on the way. -/
def descend (binder : Binder) (module path : String) : List String → String × Binder
  | [] => (module, binder)
  | segment :: rest =>
    let var := module ++ "_" ++ segment
    (binder.addSubmodule var module segment path).descend var (path ++ "." ++ segment) rest

def moduleFor (binder : Binder) (group : Group) (segments : List String) : String × Binder :=
  binder.descend group.root group.name segments.tail

/-! ## Classes of result types -/

/-- Declares a class for a type unless it is built in or has one. -/
def declareType (binder : Binder) (group : Group) (type : String) : Binder :=
  if type.isEmpty || isBuiltin type || binder.types.contains type then binder
  else
    { binder with
      types := binder.types.put type
        (.classOf type (typeVariable type) group.root (endType type)) }

def registerOut (binder : Binder) (group : Group) (outType : String) : Binder :=
  let type := cleanType outType
  if typeVariable type ∈ group.excluded then binder else binder.declareType group type

/-! ## Functions -/

def qualified (qualifier name : String) : String :=
  if qualifier.isEmpty then name else qualifier ++ "::" ++ name

def bindFunction (binder : Binder) (group : Group) (module qualifier : String)
    (function : FunctionDecl) : Binder :=
  let templates := function.parameters
  let binder := binder.registerOut group (group.outType templates function)
  let name := function.name.getD ""
  let (boundName, used) := binder.used.assign module name
  let method : Method :=
    { name := boundName
      params := group.params templates function.args
      body := .call (qualified qualifier name ++ group.instantiation (!templates.isEmpty))
        (function.args.map (·.name))
      keywords := group.keywords templates function.args
      description := function.description.getD (name ++ " ...") }
  { binder with used }.push [.define module method]

/-! ## Operators -/

/-- The expression of an operator over named operands. -/
def operatorBody (symbol : String) (operands : List String) : Expression :=
  match operands with
  | [operand] => .unary symbol operand
  | operands => .chain symbol operands

/-- Whether the left operand is of another type than the result. -/
def isReflected (params : List Param) (type : String) : Bool :=
  match params with
  | first :: _ :: _ => !Text.contains first.type type
  | _ => false

/-- The method that an operator becomes, or why there is none. -/
def operatorMethod (group : Group) (function : FunctionDecl) : Except Note Method :=
  let templates := function.parameters
  let symbol := function.operator.getD ""
  let type := cleanType (group.outType templates function)
  let params := group.params templates function.args
  let body := operatorBody symbol (function.args.map (·.name))
  let method (name : String) (params : List Param) (args : List Argument) : Method :=
    { name, params, body
      keywords := group.keywords templates args.tail
      description := function.description.getD (name ++ " ...") }
  if isReflected params type then
    match reflectedMethod? symbol with
    | some name => .ok (method name params.reverse function.args.reverse)
    | none =>
      .error ⟨.debug, .binding,
        "no reflected python operator for '" ++ symbol ++ "', skipping"⟩
  else
    match specialMethod? symbol params.length with
    | some name => .ok (method name params function.args)
    | none =>
      .error ⟨.warn, .binding,
        "no python operator for '" ++ symbol ++ "' with " ++ toString params.length ++
          " arguments, skipping"⟩

/-- Binds an operator as a method of the class of its result, which is then declared in any case. -/
def bindOperator (binder : Binder) (group : Group) (function : FunctionDecl) : Run Binder :=
  let outType := group.outType function.parameters function
  let binder := binder.registerOut group outType
  match operatorMethod group function with
  | .error note => ⟨[note], .ok binder⟩
  | .ok method =>
    let type := cleanType outType
    pure ((binder.declareType group type).push [.define (typeVariable type) method])

/-! ## Classes -/

def classVariable (cls : ClassDecl) : String :=
  "cls_" ++ cls.name

def boundType (group : Group) (qualifier : String) (cls : ClassDecl) : String :=
  qualified qualifier cls.name ++ group.instantiation cls.usedTemplate.isSome

def constructor? (group : Group) (cls : ClassDecl) : List Statement :=
  match cls.init with
  | none => []
  | some init =>
    [.construct (classVariable cls) ((group.params cls.parameters init.args).map (·.type))
      (group.keywords cls.parameters init.args)]

/-- The name, the body and the usual description of a member function, or a note that an operator has
no counterpart; only names are given out. -/
def memberBody (used : UsedNames) (group : Group) (cls : ClassDecl) (function : FunctionDecl) :
    Except (Option Note) (String × Expression × String × UsedNames) :=
  let operands := function.args.map (·.name)
  match function.name, function.operator with
  | some name, _ =>
    let (boundName, used) := used.assign (classVariable cls) name
    let target := "self." ++ name ++ group.instantiation function.usedTemplate.isSome
    .ok (boundName, .call target operands, name ++ " ...", used)
  | none, some symbol =>
    match specialMethod? symbol (operands.length + 1) with
    | some name => .ok (name, operatorBody symbol ("self" :: operands), name ++ " ...", used)
    | none =>
      .error (some ⟨.warn, .binding,
        "no python operator for '" ++ symbol ++ "' on " ++ cls.name ++ ", skipping"⟩)
  | none, none => .error none

/-- Binds a member function; the lines of the class so far come and go with the binder. -/
def bindMember (binder : Binder) (lines : List Statement) (group : Group) (selfType : String)
    (cls : ClassDecl) (function : FunctionDecl) : Run (Binder × List Statement) :=
  let templates := cls.parameters ++ function.parameters
  let binder := binder.registerOut group (group.outType templates function)
  match memberBody binder.used group cls function with
  | .error note => ⟨note.toList, .ok (binder, lines)⟩
  | .ok (name, body, usual, used) =>
    let method : Method :=
      { name, body
        params := ⟨selfType ++ "&", "self"⟩ :: group.params templates function.args
        keywords := group.keywords templates function.args
        description := function.description.getD usual }
    pure ({ binder with used }, lines ++ [.define (classVariable cls) method])

def bindMembers (binder : Binder) (lines : List Statement) (group : Group) (selfType : String)
    (cls : ClassDecl) : List FunctionDecl → Run (Binder × List Statement)
  | [] => pure (binder, lines)
  | function :: rest => do
    let (binder, lines) ← binder.bindMember lines group selfType cls function
    bindMembers binder lines group selfType cls rest

/-- Whether a member function is bound at all. -/
def isBound (function : FunctionDecl) : Bool :=
  function.isPublic && !function.skipBinding

def bindClass (binder : Binder) (group : Group) (module qualifier : String) (cls : ClassDecl) :
    Run Binder := do
  let selfType := boundType group qualifier cls
  let lines := .classOf selfType (classVariable cls) module cls.name :: constructor? group cls
  let (binder, lines) ← binder.bindMembers lines group selfType cls (cls.functions.filter isBound)
  pure (binder.push lines)

/-! ## Namespaces -/

def bindClasses (binder : Binder) (group : Group) (namespaceName module qualifier : String) :
    List ClassDecl → Run Binder
  | [] => pure binder
  | cls :: rest => do
    Run.ofExcept (Emit.checkShapes
      ("api.namespaces." ++ namespaceName ++ ".classes." ++ cls.name ++ ".funcs") 0 cls.functions)
    let binder ← binder.bindClass group module qualifier cls
    bindClasses binder group namespaceName module qualifier rest

def bindFunctions (binder : Binder) (group : Group) (module qualifier : String) :
    List FunctionDecl → Run Binder
  | [] => pure binder
  | function :: rest => do
    let binder ←
      if function.operator.isSome then binder.bindOperator group function
      else pure (binder.bindFunction group module qualifier function)
    bindFunctions binder group module qualifier rest

def bindNamespace (binder : Binder) (group : Group) (name : String) (content : NamespaceContent) :
    Run Binder := do
  let segments := Emit.namespaceSegments name
  let (module, binder) := binder.moduleFor group segments
  let qualifier := Text.join "::" segments
  let classes ← Emit.orderClasses content.classes
  let binder ← binder.bindClasses group name module qualifier classes
  Run.ofExcept (Emit.checkShapes ("api.namespaces." ++ name ++ ".funcs") 0 content.functions)
  binder.bindFunctions group module qualifier (content.functions.filter (!·.skipBinding))

def bindNamespaces (binder : Binder) (group : Group) : Entries NamespaceContent → Run Binder
  | [] => pure binder
  | (name, content) :: rest => do
    let binder ← binder.bindNamespace group name content
    bindNamespaces binder group rest

end Binder

end SourceGen.Binding
