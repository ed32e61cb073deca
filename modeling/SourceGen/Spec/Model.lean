import SourceGen.OrderedMap
import SourceGen.Spec.Parameters

/-!
# Specifications

A document has up to three sections: the opcodes with their per-opcode behaviours, the scalar types, and
the functions and classes of the interface. The order of every map counts, because it becomes the order
of enumerators and of emitted text.
-/

namespace SourceGen.Spec

/-- An argument, or a member of a class. -/
structure Argument where
  name : String
  type : String
  fallback : Option String := none
  checkNull : Bool := true
  isPublic : Bool := false
deriving DecidableEq, Repr

namespace Argument

/-- The argument as a parameter list states it, with or without its default. -/
def render (arg : Argument) (withDefault : Bool) : String :=
  match arg.fallback with
  | some value =>
    if withDefault then arg.type ++ " " ++ arg.name ++ " = " ++ value else arg.type ++ " " ++ arg.name
  | none => arg.type ++ " " ++ arg.name

end Argument

/-- What a function gives: its body, alone or with the type of the result. -/
inductive Output where
  | body (text : String)
  | typed (type : Option String) (text : String)
deriving DecidableEq, Repr

namespace Output

def type : Output → Option String
  | .body _ => none
  | .typed type _ => type

def text : Output → String
  | .body text => text
  | .typed _ text => text

end Output

/-! ## Opcodes and scalar types -/

/-- A special body of a behaviour for one opcode: written out, or taken from another opcode. -/
inductive Override where
  | body (text : String)
  | sameAs (opcode : String)
deriving DecidableEq, Repr

structure Opcode where
  statement : String
  commutative : Bool := false
  idempotent : Bool := true
  overrides : OrderedMap Override := ∅
deriving DecidableEq

/-- A behaviour that every opcode has, with the body of those that do not override it. -/
structure Behaviour where
  out : String := "void"
  args : List Argument := []
  fallback : String
  description : Option String := none
deriving DecidableEq, Repr

structure OpcodeSection where
  params : String
  operatorPath : Option String := none
  opcodes : OrderedMap Opcode
  behaviours : OrderedMap Behaviour := ∅
deriving DecidableEq

/-- The key of an override within the document. -/
def overrideKey (opcode behaviour : String) : String :=
  "opcode.opcalls." ++ opcode ++ ".per_op_overrides." ++ behaviour

structure Dtype where
  ctype : String
  precision : Option UInt32 := none
deriving DecidableEq, Repr

/-- The enumerator of opcode zero, which no opcode may take. -/
def badOp : String := "BAD_OP"

/-- The enumerator of dtype zero, which no dtype may take. -/
def badType : String := "BAD_TYPE"

/-! ## Functions and classes -/

/-- A template list that says something, without the blanks around it. -/
def usedTemplate (template : Option String) : Option String :=
  (template.map Text.trim).filter fun text ↦ !text.isEmpty

structure FunctionDecl where
  name : Option String := none
  operator : Option String := none
  args : List Argument := []
  out : Output
  template : Option String := none
  description : Option String := none
  isPublic : Bool := true
  skipBinding : Bool := false
deriving DecidableEq, Repr

namespace FunctionDecl

/-- The function's name, or the keyword and symbol of an operator. -/
def ident (function : FunctionDecl) : String :=
  match function.name, function.operator with
  | some name, _ => name
  | none, some symbol => "operator " ++ symbol
  | none, none => ""

def outType (function : FunctionDecl) (fallback : String) : String :=
  function.out.type.getD fallback

def usedTemplate (function : FunctionDecl) : Option String :=
  Spec.usedTemplate function.template

def parameters (function : FunctionDecl) : List String :=
  (function.usedTemplate.map Spec.parameters).getD []

def comment (function : FunctionDecl) : String :=
  function.description.getD (function.ident ++ " ...")

end FunctionDecl

/-- A constructor; the init list names members. -/
structure Construction where
  args : List Argument := []
  initList : OrderedMap String := ∅
  body : String := ""
deriving DecidableEq

/-- A copy or move constructor together with the assignment; `other` names the source object. -/
structure Transfer where
  other : String := "other"
  args : List Argument := []
  initList : OrderedMap String := ∅
  body : String := ""
deriving DecidableEq

structure ClassDecl where
  name : String
  template : Option String := none
  requires : List String := []
  init : Option Construction := none
  copy : Option Transfer := none
  move : Option Transfer := none
  functions : List FunctionDecl := []
  members : List Argument := []
deriving DecidableEq

namespace ClassDecl

def usedTemplate (cls : ClassDecl) : Option String :=
  Spec.usedTemplate cls.template

def parameters (cls : ClassDecl) : List String :=
  (cls.usedTemplate.map Spec.parameters).getD []

end ClassDecl

/-- The functions and classes of a namespace; a bare list of functions is a short form. -/
inductive NamespaceContent where
  | brief (functions : List FunctionDecl)
  | full (functions : List FunctionDecl) (classes : List ClassDecl)
deriving DecidableEq

namespace NamespaceContent

def functions : NamespaceContent → List FunctionDecl
  | .brief functions => functions
  | .full functions _ => functions

def classes : NamespaceContent → List ClassDecl
  | .brief _ => []
  | .full _ classes => classes

end NamespaceContent

/-- Settings of the binding module. -/
structure BindingSettings where
  bindType : String := "double"
  includes : List String := []
  ignoredTypes : List String := []
deriving DecidableEq, Repr

structure Api where
  includes : List String := []
  namespaces : OrderedMap NamespaceContent := ∅
  nullableTypes : List String := ["teq::TensptrT", "eteq::ETensor"]
  defaultOut : String := "teq::TensptrT"
  binding : BindingSettings := {}
deriving DecidableEq

/-- Whether an argument takes part in the null guard. -/
def Api.isNullable (api : Api) (arg : Argument) : Bool :=
  arg.checkNull && api.nullableTypes.any (Text.contains arg.type)

/-! ## Documents -/

structure Document where
  opcode : Option OpcodeSection := none
  dtype : Option (OrderedMap Dtype) := none
  defines : List String := []
  defaultType : Option String := none
  api : Option Api := none
deriving DecidableEq

/-- The names of the sections that a document has. -/
def Document.sections (document : Document) : List String :=
  (if document.opcode.isSome then ["opcode"] else []) ++
    (if document.dtype.isSome then ["dtype"] else []) ++
    (if document.api.isSome then ["api"] else [])

end SourceGen.Spec
