import SourceGen.Binding.Statement
import SourceGen.Proofs.Text.Joining

/-!
# Statements as calls

Every statement of a unit is one call. A submodule is what a call on its parent gives, a class is made by a call
of its type, and `def` is called for each constructor and each function. What these calls are given is told
argument by argument.
-/

namespace SourceGen.Binding

open Text

/-- A call of something with arguments between commas. -/
def callOf (callee : String) (arguments : List String) : String :=
  callee ++ "(" ++ join ", " arguments ++ ")"

def quoted (text : String) : String :=
  "\"" ++ text ++ "\""

/-! ## Parts of a definition -/

/-- A parameter as the list of a lambda states it. -/
def Param.taken (param : Param) : String :=
  param.type ++ " " ++ param.name

/-- A named argument is made by a call, behind which its default is assigned. -/
def Keyword.argument (keyword : Keyword) : String :=
  callOf "py::arg" [quoted keyword.name] ++ (keyword.fallback.map ("=" ++ ·)).getD ""

/-- What a lambda returns, with its operands in their order. -/
def Expression.returned : Expression → String
  | .call target operands => callOf target operands
  | .unary symbol operand => symbol ++ operand
  | .chain symbol operands => join (" " ++ symbol ++ " ") operands

/-- A lambda that captures nothing. -/
def Method.lambda (method : Method) : String :=
  callOf "[]" (method.params.map Param.taken) ++ " \x7b return " ++ method.body.returned ++ "; \x7d"

/-- What a definition is given: the name, the lambda, the named arguments, and what is told of it. -/
def Method.arguments (method : Method) : List String :=
  quoted method.name :: method.lambda ::
    (method.keywords.map Keyword.argument ++ [docString method.description])

theorem Param.text_eq (param : Param) : param.text = param.taken := rfl

theorem Keyword.text_eq (keyword : Keyword) : keyword.text = keyword.argument := by
  have hcall : "py::arg(\"" ++ keyword.name ++ "\")" = callOf "py::arg" [quoted keyword.name] := by
    have hopen : "py::arg(\"" = "py::arg" ++ ("(" ++ "\"") := rfl
    have hclose : "\")" = "\"" ++ ")" := rfl
    rw [callOf, join_singleton, quoted, hopen, hclose]
    simp only [String.append_assoc]
  have hassign : "\")=" = "\")" ++ "=" := rfl
  rw [Keyword.text, argument, ← hcall]
  cases keyword.fallback with
  | none => exact String.append_empty.symm
  | some value => simp only [hassign, Option.map_some, Option.getD_some, String.append_assoc]

theorem Expression.text_eq (body : Expression) : body.text = body.returned := by
  cases body <;> rfl

/-- The arguments of a definition stand between commas. -/
theorem Method.text_eq_join (method : Method) : method.text = join ", " method.arguments := by
  have hlambda : "[](" ++ join ", " (method.params.map Param.text) ++ ") \x7b return " ++
      method.body.text ++ "; \x7d" = method.lambda := by
    have hopen : "[](" = "[]" ++ "(" := rfl
    have hclose : ") \x7b return " = ")" ++ " \x7b return " := rfl
    rw [lambda, callOf, Expression.text_eq, hopen, hclose, funext Param.text_eq]
    simp only [String.append_assoc]
  have hquote : "\", " = "\"" ++ ", " := rfl
  calc
    method.text = quoted method.name ++ (", " ++ join ", " (method.lambda ::
        (method.keywords.map Keyword.argument ++ [docString method.description]))) := by
      rw [Method.text, List.cons_append, hquote, quoted, funext Keyword.text_eq, hlambda]
      simp only [String.append_assoc]
    _ = join ", " method.arguments := (join_cons_cons ..).symm

/-! ## Statements -/

namespace Statement

/-- What a statement calls, behind the variable that it declares. -/
def callee : Statement → String
  | .submodule var parent _ _ => "py::module " ++ var ++ " = " ++ parent ++ ".def_submodule"
  | .classOf type var _ _ => "py::class_<" ++ type ++ "> " ++ var
  | .construct receiver _ _ => receiver ++ ".def"
  | .define receiver _ => receiver ++ ".def"

def arguments : Statement → List String
  | .submodule _ _ segment path => [quoted segment, quoted ("A submodule of '" ++ path ++ "'")]
  | .classOf _ _ parent name => [parent, quoted name]
  | .construct _ types keywords =>
    callOf ("py::init<" ++ join ", " types ++ ">") [] :: keywords.map Keyword.argument
  | .define _ method => method.arguments

/-- The call of a statement, as it is written into a unit. -/
def written (statement : Statement) : String :=
  callOf statement.callee statement.arguments ++ ";"

theorem text_eq (statement : Statement) : statement.text = statement.written := by
  have hdef : ".def(" = ".def" ++ "(" := rfl
  have hend : ");" = ")" ++ ";" := rfl
  unfold written callOf
  cases statement with
  | submodule var parent segment path =>
    have hopen : ".def_submodule(\"" = ".def_submodule" ++ ("(" ++ "\"") := rfl
    have hmiddle : "\", \"A submodule of '" = "\"" ++ (", " ++ ("\"" ++ "A submodule of '")) := rfl
    have hclose : "'\");" = "'" ++ ("\"" ++ (")" ++ ";")) := rfl
    unfold text callee arguments quoted
    simp only [hopen, hmiddle, hclose, join_cons_cons, join_singleton, String.append_assoc]
  | classOf type var parent name =>
    have hmiddle : ", \"" = ", " ++ "\"" := rfl
    have hclose : "\");" = "\"" ++ (")" ++ ";") := rfl
    unfold text callee arguments quoted
    simp only [hmiddle, hclose, join_cons_cons, join_singleton, String.append_assoc]
  | construct receiver types keywords =>
    have hinit : "py::init<" ++ join ", " types ++ ">()" =
        callOf ("py::init<" ++ join ", " types ++ ">") [] := by
      have hempty : ">()" = ">" ++ ("(" ++ (join ", " [] ++ ")")) := rfl
      unfold callOf
      simp only [hempty, String.append_assoc]
    unfold text callee arguments
    simp only [hinit, hdef, hend, funext Keyword.text_eq, String.append_assoc]
  | define receiver method =>
    unfold text callee arguments
    simp only [Method.text_eq_join, hdef, hend, String.append_assoc]

end Statement

end SourceGen.Binding
