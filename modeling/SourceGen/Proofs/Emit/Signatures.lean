import SourceGen.Proofs.Emit.Bodies
import SourceGen.Proofs.Spec.Sites

/-!
# Signatures of declarations and definitions

Functions and operators, the constructors of classes and their assignments are routines: each of them has a
signature by which it is declared and one by which it is defined. A definition leaves the defaults of the
parameters out and names the class that the routine belongs to, but the template lists, its own and the one
that the struct of its class states, are repeated as they are.
-/

namespace SourceGen.Emit

open Spec Text

/-! ## Parameter lists -/

/-- A parameter as a list states it: its type, its name and, if it has one, its default. -/
def parameterText (arg : Argument) : String :=
  arg.type ++ " " ++ arg.name ++ (arg.fallback.map (" = " ++ ·)).getD ""

def parametersText (args : List Argument) : String :=
  join ", " (args.map parameterText)

def withoutDefault (arg : Argument) : Argument :=
  { arg with fallback := none }

theorem render_true (arg : Argument) : arg.render true = parameterText arg := by
  rw [Argument.render, parameterText]
  cases arg.fallback with
  | none => exact String.append_empty.symm
  | some value => simp [String.append_assoc]

theorem render_false (arg : Argument) : arg.render false = parameterText (withoutDefault arg) := by
  rw [Argument.render, parameterText, withoutDefault]
  cases arg.fallback <;> exact String.append_empty.symm

theorem renderArguments_true (args : List Argument) : renderArguments args true = parametersText args := by
  rw [renderArguments, parametersText]
  simp only [render_true]

theorem renderArguments_false (args : List Argument) :
    renderArguments args false = parametersText (args.map withoutDefault) := by
  rw [renderArguments, parametersText, List.map_map]
  simp only [render_false]
  rfl

/-! ## Template lists -/

/-- A line for each template list. -/
def templateLines : List String → String
  | [] => ""
  | list :: rest => "template <" ++ list ++ ">\n" ++ templateLines rest

theorem templateHead_eq (template : Option String) :
    templateHead template = templateLines template.toList := by
  cases template with
  | none => rfl
  | some list => exact String.append_empty.symm

theorem templateLines_append (front back : List String) :
    templateLines (front ++ back) = templateLines front ++ templateLines back := by
  induction front with
  | nil => exact String.empty_append.symm
  | cons list rest ih => simp only [List.cons_append, templateLines, ih, String.append_assoc]

/-- A class as it is named outside of itself, with its template parameters filled in by their own names. -/
def ownType (cls : ClassDecl) : String :=
  if cls.parameters = [] then cls.name
  else cls.name ++ "<" ++ join ", " (cls.parameters.map parameterName) ++ ">"

theorem classType_eq (cls : ClassDecl) : classType cls = ownType cls := by
  rw [classType, ownType]
  cases cls.parameters <;> rfl

/-! ## Signatures -/

/-- What stands before the body of a function: its template lists, what it gives and how it is called, and its
parameters. -/
structure Signature where
  templates : List String
  front : String
  params : List Argument
deriving DecidableEq

def Signature.text (signature : Signature) : String :=
  templateLines signature.templates ++ signature.front ++ " (" ++ parametersText signature.params ++ ")"

/-- Something with parameters, in a class or not; what it gives stands with a blank behind it, or is nothing. -/
structure Routine where
  owner : Option ClassDecl
  template : Option String
  result : String
  name : String
  params : List Argument
deriving DecidableEq

namespace Routine

/-- The template lists of a routine, that of its class first, which the struct of the class states. -/
def templates (routine : Routine) : List String :=
  (routine.owner.bind ClassDecl.usedTemplate).toList ++ routine.template.toList

/-- What stands before the name where a routine is defined outside of its class. -/
def qualifier (routine : Routine) : String :=
  (routine.owner.map fun cls ↦ ownType cls ++ "::").getD ""

def declaration (routine : Routine) : Signature :=
  ⟨routine.template.toList, routine.result ++ routine.name, routine.params⟩

def definition (routine : Routine) : Signature :=
  ⟨routine.templates, routine.result ++ (routine.qualifier ++ routine.name),
    routine.params.map withoutDefault⟩

end Routine

/-! ## Routines of functions and classes -/

def functionRoutine (api : Api) (site : FunctionSite) : Routine where
  owner := site.owner
  template := site.function.usedTemplate
  result := site.function.outType api.defaultOut ++ " "
  name := site.function.ident
  params := site.function.args

def constructorRoutine (cls : ClassDecl) (args : List Argument) : Routine where
  owner := some cls
  template := none
  result := ""
  name := cls.name
  params := args

def assignmentRoutine (cls : ClassDecl) (arg : Argument) : Routine where
  owner := some cls
  template := none
  result := ownType cls ++ "& "
  name := "operator ="
  params := [arg]

/-- The parameter for the object that a copy or a move takes over. -/
def takenParameter (cls : ClassDecl) (other : String) : TransferKind → Argument
  | .copy => { name := other, type := "const " ++ ownType cls ++ "&" }
  | .move => { name := other, type := ownType cls ++ "&&" }

/-- The constructor of a copy or a move. -/
def takingRoutine (cls : ClassDecl) (kind : TransferKind) (spec : Transfer) : Routine :=
  constructorRoutine cls (takenParameter cls spec.other kind :: spec.args)

theorem parameter_eq (cls : ClassDecl) (other : String) (kind : TransferKind) :
    kind.parameter cls other = takenParameter cls other kind := by
  cases kind with
  | copy => rw [TransferKind.parameter, takenParameter, classType_eq]
  | move => rw [TransferKind.parameter, takenParameter, classType_eq]

/-! ## Declarations -/

/-- A function as it is declared, behind the comment on it. -/
def declarationText (api : Api) (site : FunctionSite) : String :=
  docComment site.function.comment ++ ("\n" ++ ((functionRoutine api site).declaration.text ++ ";"))

theorem functionDeclaration_eq_text (api : Api) (site : FunctionSite) :
    functionDeclaration site.function api = declarationText api site := by
  have hend : ");" = ")" ++ ";" := rfl
  unfold functionDeclaration declarationText
  simp only [hend, Signature.text, Routine.declaration, functionRoutine, templateHead_eq, renderArguments_true,
    String.append_assoc]

theorem constructDeclaration_eq (cls : ClassDecl) (init : Construction) :
    constructDeclaration cls init = (constructorRoutine cls init.args).declaration.text ++ ";" := by
  have hend : ");" = ")" ++ ";" := rfl
  unfold constructDeclaration
  simp only [hend, Signature.text, Routine.declaration, constructorRoutine, Option.toList_none, templateLines,
    renderArguments_true, String.empty_append, String.append_assoc]

/-- A copy or a move without a specification is declared in its usual form. -/
def takingEnding (spec : Option Transfer) : String :=
  if spec.isNone then " = default;" else ";"

/-- The constructor and the assignment of a copy or a move as they are declared. -/
def takingDeclaration (cls : ClassDecl) (kind : TransferKind) (spec : Option Transfer) : String :=
  (takingRoutine cls kind (spec.getD {})).declaration.text ++ takingEnding spec ++ ("\n" ++
    ((assignmentRoutine cls (takenParameter cls (spec.getD {}).other kind)).declaration.text ++
      takingEnding spec))

theorem transferDeclaration_eq (cls : ClassDecl) (kind : TransferKind) (spec : Option Transfer) :
    transferDeclaration cls kind spec = takingDeclaration cls kind spec := by
  have hassignment : "& operator = (" = "& " ++ ("operator =" ++ " (") := rfl
  have hparameters : ∀ args, parametersText args = renderArguments args true :=
    fun args ↦ (renderArguments_true args).symm
  rw [takingDeclaration, takingRoutine, ← parameter_eq]
  simp only [Signature.text, Routine.declaration, constructorRoutine, assignmentRoutine, Option.toList_none,
    templateLines, hparameters, ← classType_eq, String.empty_append]
  cases spec with
  | none =>
    have hending : takingEnding none = " = default;" := rfl
    have hline : ") = default;\n" = ")" ++ (" = default;" ++ "\n") := rfl
    have hend : ") = default;" = ")" ++ " = default;" := rfl
    have husual : renderArguments [kind.parameter cls "other"] true =
        (kind.parameter cls "other").render false := by cases kind <;> rfl
    unfold transferDeclaration
    simp only [hassignment, hline, hend, hending, Option.getD_none, husual, String.append_assoc]
  | some spec =>
    have hending : takingEnding (some spec) = ";" := rfl
    have hline : ");\n" = ")" ++ (";" ++ "\n") := rfl
    have hend : ");" = ")" ++ ";" := rfl
    have hsingle : renderArguments [kind.parameter cls spec.other] true =
        (kind.parameter cls spec.other).render true := rfl
    unfold transferDeclaration transferArguments
    simp only [hassignment, hline, hend, hending, Option.getD_some, hsingle, String.append_assoc]

/-! ## Definitions -/

/-- What a function is defined by, up to its parameters. -/
theorem definition_functionRoutine (api : Api) (site : FunctionSite) :
    (functionRoutine api site).definition.text =
      definitionHead site.function (site.owner.map memberScope) ++ site.function.outType api.defaultOut ++
        " " ++ definedName site.function (site.owner.map memberScope) ++ " (" ++
          renderArguments site.function.args false ++ ")" := by
  rw [Signature.text, Routine.definition, Routine.templates, Routine.qualifier, templateLines_append,
    ← templateHead_eq, ← templateHead_eq, ← renderArguments_false, definitionHead]
  simp only [functionRoutine, String.append_assoc]
  cases howner : site.owner with
  | none => simp [definedName, templateHead]
  | some cls => simp [definedName, memberScope, classType_eq, String.append_assoc]

/-- What is defined for a class shows the class's template list and no other. -/
theorem definition_of_member {routine : Routine} {cls : ClassDecl} (howner : routine.owner = some cls)
    (htemplate : routine.template = none) : routine.definition.text = templateHead cls.usedTemplate ++
      (routine.result ++ (classType cls ++ "::" ++ routine.name)) ++ " (" ++
        renderArguments routine.params false ++ ")" := by
  rw [Signature.text, Routine.definition, Routine.templates, Routine.qualifier, howner, htemplate,
    Option.toList_none, List.append_nil, Option.bind_some, ← templateHead_eq, ← renderArguments_false,
    classType_eq]
  rfl

theorem definition_constructorRoutine (cls : ClassDecl) (args : List Argument) :
    (constructorRoutine cls args).definition.text = templateHead cls.usedTemplate ++ classType cls ++ "::" ++
      cls.name ++ " (" ++ renderArguments args false ++ ")" := by
  rw [definition_of_member rfl rfl]
  simp only [constructorRoutine, String.empty_append, String.append_assoc]

theorem definition_takingRoutine (cls : ClassDecl) (kind : TransferKind) (spec : Transfer) :
    (takingRoutine cls kind spec).definition.text = templateHead cls.usedTemplate ++ classType cls ++ "::" ++
      cls.name ++ " (" ++ renderArguments (transferArguments kind cls spec) false ++ ")" := by
  rw [takingRoutine, definition_constructorRoutine, ← parameter_eq]
  rfl

theorem definition_assignmentRoutine (cls : ClassDecl) (kind : TransferKind) (other : String) :
    (assignmentRoutine cls (takenParameter cls other kind)).definition.text =
      templateHead cls.usedTemplate ++ classType cls ++ "& " ++ classType cls ++ "::operator = (" ++
        (kind.parameter cls other).render false ++ ")" := by
  have hname : "::operator = (" = "::" ++ ("operator =" ++ " (") := rfl
  have hsingle : renderArguments [kind.parameter cls other] false =
      (kind.parameter cls other).render false := rfl
  rw [definition_of_member rfl rfl, ← parameter_eq]
  simp only [assignmentRoutine, hname, hsingle, classType_eq, String.append_assoc]

end SourceGen.Emit
