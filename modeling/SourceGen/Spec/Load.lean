import SourceGen.Files.Tree
import SourceGen.Json.Reader
import SourceGen.Spec.Decode
import SourceGen.Spec.DocumentSchema
import SourceGen.Value.Merge
import SourceGen.Yaml.Reader

/-!
# Loading specifications

A specification is spread over files and folders. Each file is read as a raw document, the documents are
merged in order, the merged document is checked against the schema, and only then read into the model.
-/

namespace SourceGen.Spec

/-! ## Raw documents -/

inductive Format where
  | json
  | yaml
deriving DecidableEq, Repr

/-- The format that a file name promises. -/
def Format.ofPath? (path : String) : Option Format :=
  match Files.extension? path with
  | some "json" => some .json
  | some "yml" => some .yaml
  | some "yaml" => some .yaml
  | _ => none

def placePath (line column : Nat) : String :=
  "$.line:" ++ toString line ++ ":col:" ++ toString column

def jsonEntry (error : Json.TextError) (file : String) : Entry :=
  (Entry.error "E_PARSE_ERROR" ("JSON parse error: " ++ error.message) file
    (placePath error.position.line error.position.column)).withSuggestion
    "Check JSON syntax and field types"

def yamlEntry (error : Yaml.ReadError) (file : String) : Entry :=
  let path := match error.location with
    | some place => placePath (place.line + 1) (place.column + 1)
    | none => "$"
  (Entry.error "E_PARSE_ERROR" ("YAML parse error: " ++ error.message) file path).withSuggestion
    "Check YAML indentation and field types"

def readFormat (text : String) (format : Format) (file : String) : Except Entry Value :=
  match format with
  | .json => (Json.read text).mapError (jsonEntry · file)
  | .yaml => (Yaml.read text).mapError (yamlEntry · file)

/-- Reads one document; its root is a record, and an empty document is the empty record. -/
def readRoot (text : String) (format : Format) (file : String) : Except Entry Value := do
  match ← readFormat text format file with
  | .null => .ok (.record [])
  | .record fields => .ok (.record fields)
  | other =>
    .error ((Entry.error "E_SCHEMA_VIOLATION"
      ("cannot parse non-object root document: " ++ Json.compact other) file "$").withSuggestion
      "The root of a spec must be a map with opcode, dtype or api sections")

/-! ## Checked documents -/

/-- Every violation of the document schema. -/
def checkDocument (value : Value) (file : String) : List Entry :=
  (Schema.document.violations [] value).map fun violation ↦
    Entry.error "E_SCHEMA_VIOLATION" violation.message file violation.path

def typeDocument (value : Value) (file : String) : Except Entry Document :=
  (Document.decode value).mapError fun error ↦
    Entry.error "E_SCHEMA_VIOLATION" ("malformed spec: " ++ error.message) file "$"

inductive LoadError where
  | notFound (path : String)
  | noDocuments (path : String)
  | notText (source : String)
  | malformed (entry : Entry)
  | violations (entries : List Entry)
deriving DecidableEq, Repr

namespace LoadError

def summary (entries : List Entry) : String :=
  "; ".intercalate (entries.map fun entry ↦ entry.message ++ " (" ++ entry.path ++ ")")

def message : LoadError → String
  | .notFound path => "spec path not found: " ++ path
  | .noDocuments path => "no spec documents (*.json, *.yml, *.yaml) found under " ++ path
  | .notText source => "I/O error reading " ++ source ++ ": stream did not contain valid UTF-8"
  | .malformed entry => entry.file ++ ": " ++ entry.message
  | .violations entries => "spec does not match the document schema: " ++ summary entries

def entries : LoadError → List Entry
  | .malformed entry => [entry]
  | .violations entries => entries
  | _ => []

end LoadError

/-- Checks a raw document against the schema, then reads it into the model. -/
def buildDocument (value : Value) (source : String) : Except LoadError Document :=
  match checkDocument value source with
  | [] => (typeDocument value source).mapError .malformed
  | entries => .error (.violations entries)

/-! ## Files -/

/-- The spec files below a folder in the order of their paths. -/
def folderFiles (path : String) (folder : Files.Node) : List String :=
  let found := (folder.filesBelow path).map Prod.fst
  (found.filter fun file ↦ (Format.ofPath? file).isSome).mergeSort fun a b ↦
    Files.pathLe (Files.components a) (Files.components b)

/-- A file stands for itself, a folder for the spec files below it. -/
def pathFiles (tree : Files.Tree) (path : String) : Except LoadError (List String) :=
  match tree.find? path with
  | some (.file _) => .ok [path]
  | some (.folder entries) =>
    match folderFiles path (.folder entries) with
    | [] => .error (.noDocuments path)
    | files => .ok files
  | none => .error (.notFound path)

def collectFiles (tree : Files.Tree) (paths : List String) : Except LoadError (List String) :=
  List.flatten <$> paths.mapM (pathFiles tree)

def readSource (content : ByteArray) (format : Format) (source : String) :
    Except LoadError Value :=
  match String.fromUTF8? content with
  | some text => (readRoot text format source).mapError .malformed
  | none => .error (.notText source)

/-- A file without a known extension is read as the more general format. -/
def readFile (tree : Files.Tree) (path : String) : Except LoadError Value :=
  match tree.find? path with
  | some (.file content) => readSource content ((Format.ofPath? path).getD .yaml) path
  | _ => .error (.notFound path)

def loadFiles (tree : Files.Tree) (paths : List String) : Except LoadError Document := do
  let files ← collectFiles tree paths
  let documents ← files.mapM (readFile tree)
  buildDocument (Value.mergeAll documents) (", ".intercalate files)

/-- The name that documents from the standard input go by. -/
def inputName : String := "<stdin>"

def loadInput (content : ByteArray) : Except LoadError Document := do
  let value ← readSource content .yaml inputName
  buildDocument value inputName

end SourceGen.Spec
