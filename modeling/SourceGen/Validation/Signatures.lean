import SourceGen.Spec.Model
import SourceGen.Text.Identifier
import SourceGen.Validation.Problem

/-!
# Rules for signatures

Namespaces consist of identifiers, a function has either a name or an operator symbol, the arguments of
a list are told apart by their names and have types, and no template parameter is empty.
-/

namespace SourceGen.Validation

open Spec Text

def indexed (path : String) (i : Nat) : String :=
  path ++ "[" ++ toString i ++ "]"

/-! ## Arguments and templates -/

def argumentNameProblems (seen : List String) (path name : String) : List Problem :=
  if !isIdentifier name then [⟨path, .invalidArgument name⟩]
  else if name ∈ seen then [⟨path, .repeatedArgument name⟩]
  else []

def argumentProblems (seen : List String) (path : String) (arg : Argument) : List Problem :=
  argumentNameProblems seen path arg.name ++
    if isBlankText arg.type then [⟨path, .untypedArgument arg.name⟩] else []

/-- The problems of the arguments from number `i` on, `seen` being the names before them. -/
def argumentsProblemsFrom (seen : List String) (path : String) (i : Nat) :
    List Argument → List Problem
  | [] => []
  | arg :: rest =>
    argumentProblems seen (indexed (path ++ ".args") i) arg ++
      argumentsProblemsFrom (seen ++ [arg.name]) path (i + 1) rest

def argumentsProblems (path : String) (args : List Argument) : List Problem :=
  argumentsProblemsFrom [] path 0 args

def templateProblems (path : String) (template : Option String) : List Problem :=
  match template with
  | none => []
  | some text =>
    if "" ∈ parameters text then [⟨path ++ ".template", .emptyParameter text⟩] else []

/-! ## Functions -/

def functionNameProblems (path : String) (function : FunctionDecl) : List Problem :=
  match function.name, function.operator with
  | some _, some _ => [⟨path, .nameAndOperator function.ident⟩]
  | none, none => [⟨path, .nameless⟩]
  | some name, none =>
    if isIdentifier name then [] else [⟨path ++ ".name", .invalidFunction name⟩]
  | none, some symbol =>
    if isBlankText symbol then [⟨path ++ ".operator", .blankOperator⟩] else []

def functionProblems (path : String) (function : FunctionDecl) : List Problem :=
  functionNameProblems path function ++ argumentsProblems path function.args ++
    templateProblems path function.usedTemplate

/-- The problems of the items from number `i` on, each at its own path. -/
def numberedProblems {α : Type} (path : String) (check : String → α → List Problem) (i : Nat) :
    List α → List Problem
  | [] => []
  | item :: rest => check (indexed path i) item ++ numberedProblems path check (i + 1) rest

def functionsProblems (path : String) (functions : List FunctionDecl) : List Problem :=
  numberedProblems (path ++ ".funcs") functionProblems 0 functions

/-! ## Namespaces -/

/-- A segment may be empty or an underscore beside an identifier. -/
def isSegment (segment : List Char) : Bool :=
  segment.isEmpty || segment == ['_'] || isIdentifierChars segment

def namespaceNameProblems (path name : String) : List Problem :=
  if (splitScope name.toList).all isSegment then [] else [⟨path, .invalidNamespace name⟩]

def classSignatureProblems (path : String) (cls : ClassDecl) : List Problem :=
  templateProblems path cls.usedTemplate ++ functionsProblems path cls.functions

def namespaceProblems (name : String) (content : NamespaceContent) : List Problem :=
  let path := "$.api.namespaces." ++ name
  namespaceNameProblems path name ++ functionsProblems path content.functions ++
    numberedProblems (path ++ ".classes") classSignatureProblems 0 content.classes

def behaviourArgumentProblems (name : String) (behaviour : Behaviour) : List Problem :=
  argumentsProblems ("$.opcode.per_op." ++ name) behaviour.args

def signatureProblems (document : Document) : List Problem :=
  (document.opcode.map fun ops ↦
      ops.behaviours.entries.flatMap fun entry ↦ behaviourArgumentProblems entry.1 entry.2).getD [] ++
    (document.api.map fun api ↦
      api.namespaces.entries.flatMap fun entry ↦ namespaceProblems entry.1 entry.2).getD []

end SourceGen.Validation
