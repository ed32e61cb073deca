import SourceGen.Text.Pieces
import SourceGen.Text.Blank

/-!
# Statements of binding modules

A statement declares a variable for a submodule or a class, or it defines something on a variable. The
text of a statement is made only when a unit is written.
-/

namespace SourceGen.Binding

open Text

structure Param where
  type : String
  name : String
deriving DecidableEq, Repr

/-- A named argument of a bound function with its default. -/
structure Keyword where
  name : String
  fallback : Option String
deriving DecidableEq, Repr

/-- What a bound function returns. -/
inductive Expression where
  | call (target : String) (args : List String)
  | unary (symbol operand : String)
  | chain (symbol : String) (operands : List String)
deriving DecidableEq, Repr

/-- A bound function: the name it is bound under, what it takes and returns, and what is told of it. -/
structure Method where
  name : String
  params : List Param
  body : Expression
  keywords : List Keyword
  description : String
deriving DecidableEq, Repr

inductive Statement where
  | submodule (var parent segment path : String)
  | classOf (type var parent name : String)
  | construct (receiver : String) (types : List String) (keywords : List Keyword)
  | define (receiver : String) (method : Method)
deriving DecidableEq, Repr

namespace Statement

/-- The variable that a statement declares. -/
def declared? : Statement → Option String
  | .submodule var _ _ _ => some var
  | .classOf _ var _ _ => some var
  | .construct .. => none
  | .define .. => none

/-- The variable on which a statement defines something. -/
def receiver? : Statement → Option String
  | .construct receiver _ _ => some receiver
  | .define receiver _ => some receiver
  | _ => none

end Statement

/-! ## Text -/

def Param.text (param : Param) : String :=
  param.type ++ " " ++ param.name

def Keyword.text (keyword : Keyword) : String :=
  match keyword.fallback with
  | some value => "py::arg(\"" ++ keyword.name ++ "\")=" ++ value
  | none => "py::arg(\"" ++ keyword.name ++ "\")"

def Expression.text : Expression → String
  | .call target args => target ++ "(" ++ join ", " args ++ ")"
  | .unary symbol operand => symbol ++ operand
  | .chain symbol operands => join (" " ++ symbol ++ " ") operands

/-- The characters of a text within a literal. -/
def literalChar (c : Char) : List Char :=
  if c = '\\' then ['\\', '\\'] else if c = '"' then ['\\', '"'] else [c]

def literal (line : String) : String :=
  "\"" ++ substituteChars literalChar line ++ "\""

/-- The lines of a description, each a literal of its own. -/
def docString (description : String) : String :=
  join "\n" ((lines (trim description)).map literal)

def Method.text (method : Method) : String :=
  let function := "[](" ++ join ", " (method.params.map Param.text) ++ ") \x7b return " ++
    method.body.text ++ "; \x7d"
  "\"" ++ method.name ++ "\", " ++
    join ", " (function :: method.keywords.map Keyword.text ++ [docString method.description])

def Statement.text : Statement → String
  | .submodule var parent segment path =>
    "py::module " ++ var ++ " = " ++ parent ++ ".def_submodule(\"" ++ segment ++
      "\", \"A submodule of '" ++ path ++ "'\");"
  | .classOf type var parent name =>
    "py::class_<" ++ type ++ "> " ++ var ++ "(" ++ parent ++ ", \"" ++ name ++ "\");"
  | .construct receiver types keywords =>
    receiver ++ ".def(" ++
      join ", " (("py::init<" ++ join ", " types ++ ">()") :: keywords.map Keyword.text) ++ ");"
  | .define receiver method => receiver ++ ".def(" ++ method.text ++ ");"

end SourceGen.Binding
