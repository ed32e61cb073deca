import SourceGen.Config.Basic
import SourceGen.Emit.Layout
import SourceGen.Generation.Error

/-!
# Functions

A function is declared with its defaults and defined without them; its definition first refuses null
arguments. A member function is defined under the name of its class.
-/

namespace SourceGen.Emit

open Spec Text

/-- A function has either a name or an operator symbol. -/
def checkShape (function : FunctionDecl) (key : String) : Except GenError Unit :=
  match function.name, function.operator with
  | some _, some _ =>
    .error (.malformedSpec key "function declares both 'name' and 'operator'")
  | none, none =>
    .error (.malformedSpec key "function declares neither 'name' nor 'operator'")
  | _, _ => .ok ()

/-- Checks the functions from number `i` on, `key` being the key of their list. -/
def checkShapes (key : String) (i : Nat) : List FunctionDecl → Except GenError Unit
  | [] => .ok ()
  | function :: rest => do
    checkShape function (key ++ "[" ++ toString i ++ "]")
    checkShapes key (i + 1) rest

/-- The class around a member function: its template list and its type. -/
structure MemberScope where
  template : Option String
  type : String
deriving DecidableEq, Repr

def functionDeclaration (function : FunctionDecl) (api : Api) : String :=
  docComment function.comment ++ "\n" ++ templateHead function.usedTemplate ++
    function.outType api.defaultOut ++ " " ++ function.ident ++ " (" ++
    renderArguments function.args true ++ ");"

/-- The lines of template parameters before a definition, those of the class first. -/
def definitionHead (function : FunctionDecl) (scope : Option MemberScope) : String :=
  (scope.map fun scope ↦ templateHead scope.template).getD "" ++
    templateHead function.usedTemplate

def definedName (function : FunctionDecl) (scope : Option MemberScope) : String :=
  match scope with
  | some scope => scope.type ++ "::" ++ function.ident
  | none => function.ident

def functionDefinition (function : FunctionDecl) (api : Api) (config : Config)
    (scope : Option MemberScope) : String :=
  definitionHead function scope ++ function.outType api.defaultOut ++ " " ++
    definedName function scope ++ " (" ++ renderArguments function.args false ++ ")\n" ++
    "\x7b\n    if (" ++ nullGuard api function.args ++ ")\n    \x7b\n        " ++ config.fatal ++
    "(\"cannot " ++ function.ident ++ " with a null argument\");\n    \x7d\n    " ++
    reindent function.out.text "    " ++ "\n\x7d"

end SourceGen.Emit
