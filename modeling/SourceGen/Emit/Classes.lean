import SourceGen.Emit.Fill
import SourceGen.Emit.Functions

/-!
# Classes

A class is declared with its constructors, functions and members, and defined piece by piece outside. An
init list follows the order of the members, and every entry of it names one. The definitions of a
template class stay in the header; of any other class only those of its templated functions do.
-/

namespace SourceGen.Emit

open Spec Text

/-- How another object of the class is taken over. -/
inductive TransferKind where
  | copy
  | move
deriving DecidableEq, Repr

/-- A definition that belongs to a class. -/
inductive MemberDefinition where
  | construct (init : Construction) (entries : Entries String)
  | transfer (kind : TransferKind) (spec : Transfer) (entries : Entries String)
  | function (decl : FunctionDecl)
deriving DecidableEq

/-- A class with its definitions, init lists put in order. -/
structure ClassUnit where
  cls : ClassDecl
  header : List MemberDefinition
  source : List MemberDefinition
deriving DecidableEq

/-! ## Init lists -/

def memberPosition? (cls : ClassDecl) (name : String) : Option Nat :=
  cls.members.findIdx? (·.name == name)

/-- Where a class keeps one of its fields. -/
def classKey (namespaceName : String) (cls : ClassDecl) (field : String) : String :=
  "api.namespaces." ++ namespaceName ++ ".classes." ++ cls.name ++ "." ++ field

/-- The entries of an init list with the positions of their members. -/
def placeEntries (namespaceName : String) (cls : ClassDecl) (field : String) :
    Entries String → Except GenError (List (Nat × String × String))
  | [] => .ok []
  | (name, value) :: rest =>
    match memberPosition? cls name with
    | none =>
      .error (.malformedSpec (classKey namespaceName cls (field ++ ".initlist." ++ name))
        ("'" ++ name ++ "' is not a member of " ++ cls.name))
    | some i => ((i, name, value) :: ·) <$> placeEntries namespaceName cls field rest

/-- An init list in the order of the members. -/
def orderEntries (namespaceName : String) (cls : ClassDecl) (field : String)
    (initList : OrderedMap String) : Except GenError (Entries String) :=
  (fun placed ↦ (placed.mergeSort fun a b ↦ decide (a.1 ≤ b.1)).map Prod.snd) <$>
    placeEntries namespaceName cls field initList.entries

/-! ## Building the unit -/

def constructDefinition (namespaceName : String) (cls : ClassDecl) :
    Except GenError (List MemberDefinition) :=
  match cls.init with
  | none => .ok []
  | some init =>
    (fun entries ↦ [.construct init entries]) <$>
      orderEntries namespaceName cls "init" init.initList

def transferDefinition (namespaceName : String) (cls : ClassDecl) (kind : TransferKind)
    (field : String) (spec : Option Transfer) : Except GenError (List MemberDefinition) :=
  match spec with
  | none => .ok []
  | some spec =>
    (fun entries ↦ [.transfer kind spec entries]) <$>
      orderEntries namespaceName cls field spec.initList

def specialDefinitions (namespaceName : String) (cls : ClassDecl) :
    Except GenError (List MemberDefinition) := do
  let construct ← constructDefinition namespaceName cls
  let copy ← transferDefinition namespaceName cls .copy "copy" cls.copy
  let move ← transferDefinition namespaceName cls .move "move" cls.move
  .ok (construct ++ copy ++ move)

def isTemplated (function : FunctionDecl) : Bool :=
  function.usedTemplate.isSome

def ClassUnit.ofClass (namespaceName : String) (cls : ClassDecl) : Except GenError ClassUnit := do
  checkShapes (classKey namespaceName cls "funcs") 0 cls.functions
  let special ← specialDefinitions namespaceName cls
  if cls.usedTemplate.isSome then
    .ok ⟨cls, special ++ cls.functions.map .function, []⟩
  else
    .ok ⟨cls, (cls.functions.filter isTemplated).map .function,
      special ++ (cls.functions.filter fun function ↦ !isTemplated function).map .function⟩

/-! ## Text of definitions -/

/-- The type that a class declares, its template parameters filled in by their own names. -/
def classType (cls : ClassDecl) : String :=
  match cls.parameters with
  | [] => cls.name
  | params => cls.name ++ "<" ++ join ", " (params.map parameterName) ++ ">"

def memberScope (cls : ClassDecl) : MemberScope :=
  ⟨cls.usedTemplate, classType cls⟩

/-- The parameter for the object that is taken over. -/
def TransferKind.parameter (kind : TransferKind) (cls : ClassDecl) (other : String) : Argument :=
  match kind with
  | .copy => { name := other, type := "const " ++ classType cls ++ "&" }
  | .move => { name := other, type := classType cls ++ "&&" }

def transferArguments (kind : TransferKind) (cls : ClassDecl) (spec : Transfer) : List Argument :=
  kind.parameter cls spec.other :: spec.args

def initListText : Entries String → String
  | [] => ""
  | entries => " : " ++ join ", " (entries.map fun entry ↦ entry.1 ++ "(" ++ entry.2 ++ ")")

def constructText (cls : ClassDecl) (init : Construction) (entries : Entries String) : String :=
  templateHead cls.usedTemplate ++ classType cls ++ "::" ++ cls.name ++ " (" ++
    renderArguments init.args false ++ ")" ++ initListText entries ++ "\n\x7b\n    " ++
    reindent init.body "    " ++ "\n\x7d"

/-- The constructor and the assignment. -/
def transferText (cls : ClassDecl) (kind : TransferKind) (spec : Transfer)
    (entries : Entries String) : String :=
  let head := templateHead cls.usedTemplate
  let type := classType cls
  let body := reindent spec.body "    "
  head ++ type ++ "::" ++ cls.name ++ " (" ++
    renderArguments (transferArguments kind cls spec) false ++ ")" ++ initListText entries ++
    "\n\x7b\n    " ++ body ++ "\n\x7d\n\n" ++
    head ++ type ++ "& " ++ type ++ "::operator = (" ++
    (kind.parameter cls spec.other).render false ++ ")\n\x7b\n    " ++ body ++
    "\n    return *this;\n\x7d"

def MemberDefinition.text (cls : ClassDecl) (api : Api) (config : Config) :
    MemberDefinition → String
  | .construct init entries => constructText cls init entries
  | .transfer kind spec entries => transferText cls kind spec entries
  | .function decl => functionDefinition decl api config (some (memberScope cls))

/-! ## Text of the declaration -/

def constructDeclaration (cls : ClassDecl) (init : Construction) : String :=
  cls.name ++ " (" ++ renderArguments init.args true ++ ");"

/-- Without a specification the taking over is left to its usual form. -/
def transferDeclaration (cls : ClassDecl) (kind : TransferKind) (spec : Option Transfer) : String :=
  match spec with
  | none =>
    let param := (kind.parameter cls "other").render false
    cls.name ++ " (" ++ param ++ ") = default;\n" ++ classType cls ++ "& operator = (" ++ param ++
      ") = default;"
  | some spec =>
    cls.name ++ " (" ++ renderArguments (transferArguments kind cls spec) true ++ ");\n" ++
      classType cls ++ "& operator = (" ++ (kind.parameter cls spec.other).render true ++ ");"

/-- A specified copy brings the usual move with it, and the other way round. -/
def transferDeclarations (cls : ClassDecl) : String :=
  if cls.copy.isNone && cls.move.isNone then ""
  else transferDeclaration cls .copy cls.copy ++ "\n\n" ++ transferDeclaration cls .move cls.move

/-- Items under a label, if there are any. -/
def labelled (label separator : String) (items : List String) : List String :=
  match items with
  | [] => []
  | items => [label ++ "\n" ++ join separator items]

def functionDeclarations (cls : ClassDecl) (api : Api) : String :=
  let declared (functions : List FunctionDecl) := functions.map (functionDeclaration · api)
  join "\n\n" (labelled "public:" "\n\n" (declared (cls.functions.filter (·.isPublic))) ++
    labelled "private:" "\n\n" (declared (cls.functions.filter (!·.isPublic))))

def memberDeclarations (cls : ClassDecl) : String :=
  let declared (members : List Argument) := members.map fun member ↦ member.render true ++ ";"
  join "\n\n" (labelled "public:" "\n" (declared (cls.members.filter (·.isPublic))) ++
    labelled "private:" "\n" (declared (cls.members.filter (!·.isPublic))))

/-- Labels stay at the margin. -/
def indentBodyLine (line : String) : String :=
  if line.isEmpty || line == "public:" || line == "private:" then line else "    " ++ line

def indentBody (part : String) : String :=
  join "\n" ((lines part).map indentBodyLine)

def classBody (cls : ClassDecl) (api : Api) : String :=
  let parts := [(cls.init.map (constructDeclaration cls)).getD "", transferDeclarations cls,
    functionDeclarations cls api, memberDeclarations cls]
  join "\n\n" ((parts.filter (!·.isEmpty)).map indentBody)

def classLines : List String := [
  "${template_decl}struct ${class_name}",
  "\x7b",
  "${body}",
  "\x7d;"]

def classDeclaration (cls : ClassDecl) (api : Api) : Except GenError String :=
  fill classLines [("template_decl", templateHead cls.usedTemplate), ("class_name", cls.name),
    ("body", classBody cls api)]

end SourceGen.Emit
