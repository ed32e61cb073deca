import SourceGen.Spec.Schema

/-!
# The schema of specification documents

What a raw document has to look like before its parts are read into the model. Every type of the model has
a named schema; the document itself has the five top-level keys.
-/

namespace SourceGen.Spec

namespace Schema

def text : Schema := .scalar [.text]

def optionalText : Schema := .scalar [.text, .null]

def boolean : Schema := .scalar [.boolean]

def map (values : Schema) : Schema := .table [.record] values

def orNull (schema : Schema) : Schema := .anyOf [schema, .scalar [.null]]

def about (description : String) (schema : Schema) : Schema := .noted (some description) none schema

def usually (value : Value) (schema : Schema) : Schema := .noted none (some value) schema

/-- A named type: its reference where it is used, its body among the definitions. -/
def type (name description : String) (schema : Schema) : Schema :=
  .named name (.noted (some description) none schema)

def noItems : Value := .list []

def noFields : Value := .record []

def argument : Schema :=
  .type "ArgSpec" "A single argument (or class member) declaration." <|
    .record ["name", "type"]
      [("check_null", .about "Whether this argument takes part in the null guard" boolean),
        ("default",
          .about "Default value expression (only rendered in declarations)" optionalText),
        ("name", .about "Argument name" text),
        ("public",
          .about "Visibility when used as a class member (members are private by default)" boolean),
        ("type", .about "Native type, e.g. `teq::TensptrT` or `const eteq::ETensor<T>&`" text)]

def arguments : Schema := .usually noItems (.list argument)

def binding : Schema :=
  .type "BindingSpec" "Settings of the foreign-binding module." <|
    .record []
      [("bind_type", .noted (some "Scalar type template functions are instantiated at")
          (some (.text "double")) text),
        ("ignore_types",
          .about "Output types never registered as opaque binding classes" (.list text)),
        ("includes", .list text)]

def transfer : Schema :=
  .type "CopySpec" "Copy or move constructor/assignment declaration." <|
    .record []
      [("args", arguments),
        ("do", .usually (.text "") text),
        ("initlist", .usually noFields (map text)),
        ("other", .noted (some "Name of the source object parameter") (some (.text "other")) text)]

def dtype : Schema :=
  .type "DTypeSpec" "A single dtype entry." <|
    .record ["ctype"]
      [("ctype", .about "Native scalar type name (e.g. `double`, `int32_t`)" text),
        ("precision",
          .about "Precision rank used for implicit promotion" (.natural [.integer, .null]))]

def output : Schema :=
  .type "OutSpec" "Function output: either a bare body expression or a typed body." <|
    .anyOf [text, .record ["val"] [("type", optionalText), ("val", text)]]

def function : Schema :=
  .type "FuncSpec" "A free or member function. Exactly one of `name` and `operator` is set." <|
    .record ["out"]
      [("args", arguments),
        ("description", optionalText),
        ("name", optionalText),
        ("operator",
          .about "Operator symbol (`+`, `==`, ...) for operator overloads" optionalText),
        ("out", output),
        ("public", .about "Visibility when declared inside a class" boolean),
        ("skip_binding", .about "Leave this function out of the binding module" boolean),
        ("template", .about "Template parameter list, e.g. `typename T`" optionalText)]

def functions : Schema := .usually noItems (.list function)

def construction : Schema :=
  .type "InitSpec" "Constructor declaration." <|
    .record []
      [("args", arguments),
        ("do", .usually (.text "") text),
        ("initlist",
          .noted (some "Member initializers keyed by member name") (some noFields) (map text))]

def classDecl : Schema :=
  .type "ClassSpec" "A class (struct) declaration." <|
    .record ["name"]
      [("copy", .orNull transfer),
        ("funcs", functions),
        ("init", .orNull construction),
        ("members", arguments),
        ("move", .orNull transfer),
        ("name", text),
        ("requires", .about "Classes that must be emitted before this one" (.list text)),
        ("template", optionalText)]

def namespaceContent : Schema :=
  .type "NamespaceSpec"
    "Content of one namespace. A bare list is shorthand for functions only." <|
    .anyOf [.list function,
      .record [] [("classes", .usually noItems (.list classDecl)), ("funcs", functions)]]

def override : Schema :=
  .type "OverrideSpec" ("A per-op specialization: either its own body or a reference to the " ++
      "override another opcode declares for the same behaviour.") <|
    .anyOf [text, .record ["alias"] [("alias", text)]]

def opcode : Schema :=
  .type "OpSpec" "A single opcode entry." <|
    .record ["stmt"]
      [("commutative", boolean),
        ("idempotent", boolean),
        ("per_op_overrides",
          .about "Per-op behaviour specializations keyed by behaviour name" (map override)),
        ("stmt", .about "Statement executed inside the dispatch switch" text)]

def behaviour : Schema :=
  .type "PerOpSpec" "A per-op behaviour: the generic fallback and its signature." <|
    .record ["default"]
      [("args", arguments),
        ("default", .about "Body used by every opcode without an override" text),
        ("description", optionalText),
        ("out", .usually (.text "void") text)]

def opcodeSection : Schema :=
  .type "OpcodeSection" "The `opcode` section." <|
    .record ["opcalls", "params"]
      [("opcalls", .about "Opcodes in enum order" (map opcode)),
        ("operator_path", .about
          "Header providing the operator implementations referenced by `stmt`s" optionalText),
        ("params", .about "Parameter list of the generated `typed_exec` dispatch function" text),
        ("per_op", .about ("Named per-op behaviours, each with a generic body that individual " ++
          "opcodes may specialize") (map behaviour))]

def api : Schema :=
  .type "ApiSpec" "The `api` section." <|
    .record []
      [("binding", .usually (.record [("bind_type", .text "double")]) binding),
        ("default_out", .noted (some "Output type of functions that do not declare one")
          (some (.text "teq::TensptrT")) text),
        ("includes", .about "Includes of the generated API header" (.list text)),
        ("namespaces",
          .noted (some "Namespace (`a::b`) to its functions and classes, in emission order")
            (some noFields) (map namespaceContent)),
        ("nullable_types",
          .noted (some "Type substrings marking an argument as nullable (null-guarded)")
            (some (Value.texts ["teq::TensptrT", "eteq::ETensor"])) (.list text))]

def document : Schema :=
  .about ("The merged specification document. Every section is optional; a missing section " ++
      "disables the plugin that consumes it.") <|
    .record []
      [("api", .orNull api),
        ("default_type",
          .about "Default dtype code (first declared dtype when absent)" optionalText),
        ("defines",
          .about "Preprocessor defines emitted at the top of the dtype header" (.list text)),
        ("dtype", .about "Dtype codes in enum order" (.table [.record, .null] dtype)),
        ("opcode", .orNull opcodeSection)]

/-- The named types in the order of their names. -/
def definitions : List Schema :=
  [api, argument, binding, classDecl, transfer, dtype, function, construction, namespaceContent,
    opcode, opcodeSection, output, override, behaviour]

def definition : Schema → List (String × Value)
  | .named name schema => [(name, .record schema.keywords)]
  | _ => []

/-- The dialect that the schema is written in. -/
def dialect : String := "http:" ++ "//json-schema.org/draft-07/schema#"

end Schema

def documentSchema : Value :=
  .record ([("$schema", .text Schema.dialect), ("title", .text "SpecDocument")] ++
    Schema.document.keywords ++
    [("definitions", .record (Schema.definitions.flatMap Schema.definition))])

end SourceGen.Spec
