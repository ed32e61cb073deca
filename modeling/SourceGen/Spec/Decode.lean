import SourceGen.Spec.Model
import SourceGen.Spec.Report
import SourceGen.Value.Decode

/-!
# Specifications from values

One decoder per type of the model. Fields that the types do not know are passed over.
-/

namespace SourceGen.Spec

open Decoder (text bool list map oneOf openRecord)

def Argument.fields : RecordType :=
  ⟨"ArgSpec", ["name", "type", "default", "check_null", "public"]⟩

def Argument.decode : Decoder Argument :=
  Decoder.record fields fun given ↦
    mk <$> given.required "name" text
      <*> given.required "type" text
      <*> given.optional "default" text
      <*> given.defaulted "check_null" bool true
      <*> given.defaulted "public" bool false

def Output.decode : Decoder Output :=
  oneOf "OutSpec" (fun value ↦ Output.body <$> Decoder.text value)
    (openRecord ⟨"OutSpec", ["type", "val"]⟩ fun given ↦
      Output.typed <$> given.optional "type" Decoder.text <*> given.required "val" Decoder.text)

/-! ## Opcodes and scalar types -/

def Override.decode : Decoder Override :=
  oneOf "OverrideSpec" (fun value ↦ Override.body <$> text value)
    (openRecord ⟨"OverrideSpec", ["alias"]⟩ fun given ↦
      Override.sameAs <$> given.required "alias" text)

def Opcode.fields : RecordType :=
  ⟨"OpSpec", ["stmt", "commutative", "idempotent", "per_op_overrides"]⟩

def Opcode.decode : Decoder Opcode :=
  Decoder.record fields fun given ↦
    mk <$> given.required "stmt" text
      <*> given.defaulted "commutative" bool false
      <*> given.defaulted "idempotent" bool true
      <*> given.defaulted "per_op_overrides" (map Override.decode) ∅

def Behaviour.fields : RecordType := ⟨"PerOpSpec", ["out", "args", "default", "description"]⟩

def Behaviour.decode : Decoder Behaviour :=
  Decoder.record fields fun given ↦
    mk <$> given.defaulted "out" text "void"
      <*> given.defaulted "args" (list Argument.decode) []
      <*> given.required "default" text
      <*> given.optional "description" text

def OpcodeSection.fields : RecordType :=
  ⟨"OpcodeSection", ["params", "operator_path", "opcalls", "per_op"]⟩

def OpcodeSection.decode : Decoder OpcodeSection :=
  Decoder.record fields fun given ↦
    mk <$> given.required "params" text
      <*> given.optional "operator_path" text
      <*> given.required "opcalls" (map Opcode.decode)
      <*> given.defaulted "per_op" (map Behaviour.decode) ∅

def Dtype.fields : RecordType := ⟨"DTypeSpec", ["ctype", "precision"]⟩

def Dtype.decode : Decoder Dtype :=
  Decoder.record fields fun given ↦
    mk <$> given.required "ctype" text <*> given.optional "precision" Decoder.word

/-! ## Functions and classes -/

def FunctionDecl.fields : RecordType :=
  ⟨"FuncSpec", ["name", "operator", "args", "out", "template", "description", "public",
    "skip_binding"]⟩

/-- The last field has an older name beside its own. -/
def FunctionDecl.decode : Decoder FunctionDecl :=
  Decoder.record fields fun given ↦
    mk <$> given.optional "name" text
      <*> given.optional "operator" text
      <*> given.defaulted "args" (list Argument.decode) []
      <*> given.required "out" Output.decode
      <*> given.optional "template" text
      <*> given.optional "description" text
      <*> given.defaulted "public" bool true
      <*> given.read "skip_binding" ["pyignores"] bool (.ok false)

def Construction.fields : RecordType := ⟨"InitSpec", ["args", "initlist", "do"]⟩

def Construction.decode : Decoder Construction :=
  Decoder.record fields fun given ↦
    mk <$> given.defaulted "args" (list Argument.decode) []
      <*> given.defaulted "initlist" (map text) ∅
      <*> given.defaulted "do" text ""

def Transfer.fields : RecordType := ⟨"CopySpec", ["other", "args", "initlist", "do"]⟩

def Transfer.decode : Decoder Transfer :=
  Decoder.record fields fun given ↦
    mk <$> given.defaulted "other" text "other"
      <*> given.defaulted "args" (list Argument.decode) []
      <*> given.defaulted "initlist" (map text) ∅
      <*> given.defaulted "do" text ""

def ClassDecl.fields : RecordType :=
  ⟨"ClassSpec", ["name", "template", "requires", "init", "copy", "move", "funcs", "members"]⟩

def ClassDecl.decode : Decoder ClassDecl :=
  Decoder.record fields fun given ↦
    mk <$> given.required "name" text
      <*> given.optional "template" text
      <*> given.defaulted "requires" (list text) []
      <*> given.optional "init" Construction.decode
      <*> given.optional "copy" Transfer.decode
      <*> given.optional "move" Transfer.decode
      <*> given.defaulted "funcs" (list FunctionDecl.decode) []
      <*> given.defaulted "members" (list Argument.decode) []

def NamespaceContent.decode : Decoder NamespaceContent :=
  oneOf "NamespaceSpec" (fun value ↦ NamespaceContent.brief <$> list FunctionDecl.decode value)
    (openRecord ⟨"NamespaceSpec", ["funcs", "classes"]⟩ fun given ↦
      NamespaceContent.full <$> given.defaulted "funcs" (list FunctionDecl.decode) []
        <*> given.defaulted "classes" (list ClassDecl.decode) [])

def BindingSettings.fields : RecordType := ⟨"BindingSpec", ["bind_type", "includes", "ignore_types"]⟩

def BindingSettings.decode : Decoder BindingSettings :=
  Decoder.record fields fun given ↦
    mk <$> given.defaulted "bind_type" text "double"
      <*> given.defaulted "includes" (list text) []
      <*> given.defaulted "ignore_types" (list text) []

def Api.fields : RecordType :=
  ⟨"ApiSpec", ["includes", "namespaces", "nullable_types", "default_out", "binding"]⟩

def Api.decode : Decoder Api :=
  Decoder.record fields fun given ↦
    mk <$> given.defaulted "includes" (list text) []
      <*> given.defaulted "namespaces" (map NamespaceContent.decode) ∅
      <*> given.defaulted "nullable_types" (list text) ["teq::TensptrT", "eteq::ETensor"]
      <*> given.defaulted "default_out" text "teq::TensptrT"
      <*> given.defaulted "binding" BindingSettings.decode {}

/-! ## Documents and reports -/

def Document.fields : RecordType :=
  ⟨"SpecDocument", ["opcode", "dtype", "defines", "default_type", "api"]⟩

def Document.decode : Decoder Document :=
  Decoder.record fields fun given ↦
    mk <$> given.optional "opcode" OpcodeSection.decode
      <*> given.optional "dtype" (map Dtype.decode)
      <*> given.defaulted "defines" (list text) []
      <*> given.optional "default_type" text
      <*> given.optional "api" Api.decode

/-- A severity is written as its name; a record with that name and null is read as well. -/
def Severity.decode : Decoder Severity
  | .text name => known name
  | .record [(name, value)] => do
    let severity ← known name
    if value.isNull then .ok severity else .error (.wrongType value "unit")
  | .record fields => .error (.outOfRange (.record fields) "map with a single key")
  | value => .error (.wrongType value "string or map")
where
  known (name : String) : Except DecodeError Severity :=
    match [Severity.error, .warning, .info].find? (·.name == name) with
    | some severity => .ok severity
    | none => .error (.unknownVariant name ["error", "warning", "info"])

def Entry.fields : RecordType :=
  ⟨"ErrorEntry", ["code", "severity", "message", "file", "path", "suggestion"]⟩

/-- An entry given by position states its suggestion too, be it null. -/
def Entry.decode : Decoder Entry :=
  Decoder.record fields fun given ↦
    mk <$> given.required "code" text
      <*> given.required "severity" Severity.decode
      <*> given.required "message" text
      <*> given.required "file" text
      <*> given.required "path" text
      <*> given.read "suggestion" [] text.nullable
        (if given.positional then .error (given.absent "suggestion") else .ok none)

def Report.fields : RecordType := ⟨"ValidationReport", ["ok", "errors"]⟩

def Report.decode : Decoder Report :=
  Decoder.record fields fun given ↦
    mk <$> given.required "ok" bool <*> given.required "errors" (list Entry.decode)

end SourceGen.Spec
