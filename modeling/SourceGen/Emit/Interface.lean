import SourceGen.Emit.ClassOrder
import SourceGen.Emit.Classes
import SourceGen.Output.SourceFile

/-!
# The interface files

The header declares the classes and functions of every namespace and defines what is templated; the source
file defines the rest. Operators stand outside of all namespaces.
-/

namespace SourceGen.Emit

open Spec Text

def interfaceHeader : String := "api.hpp"

def interfaceSource : String := "api.cpp"

/-! ## Units -/

/-- A namespace with its classes in order. -/
structure NamespaceUnit where
  name : String
  classes : List ClassUnit
  functions : List FunctionDecl
deriving DecidableEq

structure InterfaceUnit where
  namespaces : List NamespaceUnit
deriving DecidableEq

def isOperator (function : FunctionDecl) : Bool :=
  function.operator.isSome

namespace NamespaceUnit

def operators (unit : NamespaceUnit) : List FunctionDecl :=
  unit.functions.filter isOperator

def named (unit : NamespaceUnit) : List FunctionDecl :=
  unit.functions.filter fun function ↦ !isOperator function

def ofContent (name : String) (content : NamespaceContent) : Run NamespaceUnit := do
  let ordered ← orderClasses content.classes
  let classes ← Run.ofExcept (ordered.mapM (ClassUnit.ofClass name))
  Run.ofExcept (checkShapes ("api.namespaces." ++ name ++ ".funcs") 0 content.functions)
  pure ⟨name, classes, content.functions⟩

end NamespaceUnit

def namespaceUnits : Entries NamespaceContent → Run (List NamespaceUnit)
  | [] => pure []
  | (name, content) :: rest => do
    let unit ← NamespaceUnit.ofContent name content
    let units ← namespaceUnits rest
    pure (unit :: units)

def InterfaceUnit.ofApi (api : Api) : Run InterfaceUnit := do
  let namespaces ← namespaceUnits api.namespaces.entries
  pure ⟨namespaces⟩

/-! ## Pieces of a namespace -/

namespace NamespaceUnit

def declarations (unit : NamespaceUnit) (api : Api) : Except GenError (List String) := do
  let classes ← unit.classes.mapM fun cls ↦ classDeclaration cls.cls api
  .ok (classes ++ unit.named.map (functionDeclaration · api))

/-- The definitions that have to stay in the header. -/
def headerDefinitions (unit : NamespaceUnit) (api : Api) (config : Config) : List String :=
  unit.classes.flatMap (fun cls ↦ cls.header.map (·.text cls.cls api config)) ++
    (unit.named.filter isTemplated).map (functionDefinition · api config none)

def sourceDefinitions (unit : NamespaceUnit) (api : Api) (config : Config) : List String :=
  unit.classes.flatMap (fun cls ↦ cls.source.map (·.text cls.cls api config)) ++
    (unit.named.filter fun function ↦ !isTemplated function).map
      (functionDefinition · api config none)

/-- The pieces inside the blocks of the namespace, if there are any. -/
def wrap (unit : NamespaceUnit) (pieces : List String) : List String :=
  match pieces with
  | [] => []
  | pieces => [wrapNamespace unit.name (join "\n\n" pieces)]

end NamespaceUnit

/-! ## The files -/

def interfaceHeaderLines : List String := [
  "#ifndef ${guard}",
  "#define ${guard}",
  "",
  "${hdr_namespaces}",
  "",
  "${template_namespaces}",
  "",
  "${operators}",
  "",
  "#endif // ${guard}",
  ""]

def interfaceSourceLines : List String := [
  "#ifdef ${guard}",
  "",
  "${src_namespaces}",
  "",
  "${operators}",
  "",
  "#endif",
  ""]

namespace InterfaceUnit

def operators (unit : InterfaceUnit) : List FunctionDecl :=
  unit.namespaces.flatMap (·.operators)

/-- Operators are declared in the header, and the templated ones are defined there too. -/
def headerOperators (unit : InterfaceUnit) (api : Api) (config : Config) : List String :=
  unit.operators.flatMap fun function ↦
    functionDeclaration function api ::
      if isTemplated function then [functionDefinition function api config none] else []

def sourceOperators (unit : InterfaceUnit) (api : Api) (config : Config) : List String :=
  (unit.operators.filter fun function ↦ !isTemplated function).map
    (functionDefinition · api config none)

def headerText (unit : InterfaceUnit) (api : Api) (config : Config) : Except GenError String := do
  let declarations ← unit.namespaces.mapM fun part ↦ part.wrap <$> part.declarations api
  let definitions := unit.namespaces.flatMap fun part ↦ part.wrap (part.headerDefinitions api config)
  fill interfaceHeaderLines
    [("guard", config.guard interfaceHeader),
      ("hdr_namespaces", join "\n\n" declarations.flatten),
      ("template_namespaces", join "\n\n" definitions),
      ("operators", join "\n\n" (unit.headerOperators api config))]

def sourceText (unit : InterfaceUnit) (api : Api) (config : Config) : Except GenError String :=
  let definitions := unit.namespaces.flatMap fun part ↦ part.wrap (part.sourceDefinitions api config)
  fill interfaceSourceLines
    [("guard", config.guard interfaceHeader),
      ("src_namespaces", join "\n\n" definitions),
      ("operators", join "\n\n" (unit.sourceOperators api config))]

def files (unit : InterfaceUnit) (api : Api) (config : Config) :
    Except GenError (Entries SourceFile) := do
  let header ← unit.headerText api config
  let source ← unit.sourceText api config
  .ok [(interfaceHeader, { content := header, includes := api.includes }),
    (interfaceSource, { content := source, references := [interfaceHeader] })]

end InterfaceUnit

def interfaceFiles (api : Api) (config : Config) : Run (Entries SourceFile) := do
  let unit ← InterfaceUnit.ofApi api
  Run.ofExcept (unit.files api config)

end SourceGen.Emit
