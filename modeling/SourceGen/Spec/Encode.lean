import SourceGen.Spec.Model
import SourceGen.Spec.Report
import SourceGen.Value.Basic

/-!
# Specifications as values

The raw value of a typed datum. Fields stand in a fixed order; an absent option is left out, and so are
most fields that hold their usual value.
-/

namespace SourceGen.Spec

/-- A field that is written only if `written` holds. -/
def fieldIf (written : Bool) (name : String) (value : Value) : List (String × Value) :=
  if written then [(name, value)] else []

def optionField (name : String) : Option String → List (String × Value)
  | some text => [(name, .text text)]
  | none => []

def mapValue {α : Type} (encode : α → Value) (m : OrderedMap α) : Value :=
  .record (m.entries.map fun entry ↦ (entry.1, encode entry.2))

def listValue {α : Type} (encode : α → Value) (items : List α) : Value :=
  .list (items.map encode)

def Argument.toValue (arg : Argument) : Value :=
  .record ([("name", .text arg.name), ("type", .text arg.type)] ++
    optionField "default" arg.fallback ++
    fieldIf (!arg.checkNull) "check_null" (.bool arg.checkNull) ++
    fieldIf arg.isPublic "public" (.bool arg.isPublic))

def Output.toValue : Output → Value
  | .body text => .text text
  | .typed type text => .record (optionField "type" type ++ [("val", .text text)])

def Override.toValue : Override → Value
  | .body text => .text text
  | .sameAs opcode => .record [("alias", .text opcode)]

def Opcode.toValue (opcode : Opcode) : Value :=
  .record ([("stmt", .text opcode.statement)] ++
    fieldIf opcode.commutative "commutative" (.bool opcode.commutative) ++
    fieldIf (!opcode.idempotent) "idempotent" (.bool opcode.idempotent) ++
    fieldIf (!opcode.overrides.isEmpty) "per_op_overrides"
      (mapValue Override.toValue opcode.overrides))

def Behaviour.toValue (behaviour : Behaviour) : Value :=
  .record ([("out", .text behaviour.out),
      ("args", listValue Argument.toValue behaviour.args),
      ("default", .text behaviour.fallback)] ++
    optionField "description" behaviour.description)

def OpcodeSection.toValue (ops : OpcodeSection) : Value :=
  .record ([("params", .text ops.params)] ++
    optionField "operator_path" ops.operatorPath ++
    [("opcalls", mapValue Opcode.toValue ops.opcodes)] ++
    fieldIf (!ops.behaviours.isEmpty) "per_op" (mapValue Behaviour.toValue ops.behaviours))

def Dtype.toValue (dtype : Dtype) : Value :=
  .record (("ctype", .text dtype.ctype) ::
    match dtype.precision with
    | some rank => [("precision", Value.ofNat rank.toNat)]
    | none => [])

def FunctionDecl.toValue (function : FunctionDecl) : Value :=
  .record (optionField "name" function.name ++
    optionField "operator" function.operator ++
    [("args", listValue Argument.toValue function.args), ("out", function.out.toValue)] ++
    optionField "template" function.template ++
    optionField "description" function.description ++
    fieldIf (!function.isPublic) "public" (.bool function.isPublic) ++
    fieldIf function.skipBinding "skip_binding" (.bool function.skipBinding))

def Construction.toValue (init : Construction) : Value :=
  .record [("args", listValue Argument.toValue init.args),
    ("initlist", mapValue .text init.initList), ("do", .text init.body)]

def Transfer.toValue (transfer : Transfer) : Value :=
  .record [("other", .text transfer.other),
    ("args", listValue Argument.toValue transfer.args),
    ("initlist", mapValue .text transfer.initList), ("do", .text transfer.body)]

def ClassDecl.toValue (cls : ClassDecl) : Value :=
  .record ([("name", .text cls.name)] ++
    optionField "template" cls.template ++
    fieldIf (!cls.requires.isEmpty) "requires" (Value.texts cls.requires) ++
    (cls.init.map fun init ↦ ("init", init.toValue)).toList ++
    (cls.copy.map fun copy ↦ ("copy", copy.toValue)).toList ++
    (cls.move.map fun move ↦ ("move", move.toValue)).toList ++
    [("funcs", listValue FunctionDecl.toValue cls.functions),
      ("members", listValue Argument.toValue cls.members)])

def NamespaceContent.toValue : NamespaceContent → Value
  | .brief functions => listValue FunctionDecl.toValue functions
  | .full functions classes =>
    .record [("funcs", listValue FunctionDecl.toValue functions),
      ("classes", listValue ClassDecl.toValue classes)]

def BindingSettings.toValue (binding : BindingSettings) : Value :=
  .record ([("bind_type", .text binding.bindType)] ++
    fieldIf (!binding.includes.isEmpty) "includes" (Value.texts binding.includes) ++
    fieldIf (!binding.ignoredTypes.isEmpty) "ignore_types" (Value.texts binding.ignoredTypes))

def Api.toValue (api : Api) : Value :=
  .record (fieldIf (!api.includes.isEmpty) "includes" (Value.texts api.includes) ++
    [("namespaces", mapValue NamespaceContent.toValue api.namespaces),
      ("nullable_types", Value.texts api.nullableTypes),
      ("default_out", .text api.defaultOut),
      ("binding", api.binding.toValue)])

def Document.toValue (document : Document) : Value :=
  .record ((document.opcode.map fun ops ↦ ("opcode", ops.toValue)).toList ++
    (document.dtype.map fun dtypes ↦ ("dtype", mapValue Dtype.toValue dtypes)).toList ++
    fieldIf (!document.defines.isEmpty) "defines" (Value.texts document.defines) ++
    optionField "default_type" document.defaultType ++
    (document.api.map fun api ↦ ("api", api.toValue)).toList)

/-! ## Reports -/

def Entry.toValue (entry : Entry) : Value :=
  .record ([("code", .text entry.code), ("severity", .text entry.severity.name),
      ("message", .text entry.message), ("file", .text entry.file), ("path", .text entry.path)] ++
    optionField "suggestion" entry.suggestion)

def Report.toValue (report : Report) : Value :=
  .record [("ok", .bool report.ok), ("errors", listValue Entry.toValue report.entries)]

end SourceGen.Spec
