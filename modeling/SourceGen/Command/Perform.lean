import SourceGen.Command.Arguments
import SourceGen.Config.Reader
import SourceGen.Output.Sink
import SourceGen.Pipeline.Basic
import SourceGen.Spec.Load
import SourceGen.Validation.Rules

/-!
# What the command does

The command works on a directory tree and the bytes of the standard input. It gives an exit status, the
text of both output streams, and the tree as it leaves it. Only generating into a folder changes the
tree, and only after everything else has succeeded.
-/

namespace SourceGen.Command

open Spec Text

/-- Where the command runs. -/
structure Workspace where
  tree : Files.Tree
  input : ByteArray

structure Result where
  status : Nat
  output : String
  errors : String
  tree : Files.Tree

/-- What a step of the command has to say on the error stream, and its value or the reason that ends the
command: a text to report, or nothing more to say. -/
structure Step (α : Type) where
  errors : String
  value : Except (Option String) α

namespace Step

variable {α β : Type}

def done (value : α) : Step α := ⟨"", .ok value⟩

def say (text : String) : Step Unit := ⟨text, .ok ()⟩

/-- Ends the command with a reason. -/
def fail (reason : String) : Step α := ⟨"", .error (some reason)⟩

/-- Ends the command, all having been said. -/
def give : Step α := ⟨"", .error none⟩

def andThen (step : Step α) (next : α → Step β) : Step β :=
  match step.value with
  | .error reason => ⟨step.errors, .error reason⟩
  | .ok value =>
    let later := next value
    ⟨step.errors ++ later.errors, later.value⟩

instance : Monad Step where
  pure := done
  bind := andThen

end Step

/-! ## Messages -/

/-- The notes shown at a verbosity. -/
def shownLevel (verbosity : Nat) : Level :=
  match verbosity with
  | 0 => .warn
  | 1 => .info
  | _ => .debug

def padTo (width : Nat) (text : String) : String :=
  text ++ String.ofList (List.replicate (width - text.length) ' ')

def noteLine (note : Note) : String :=
  "[" ++ padTo 5 note.level.name ++ " " ++ note.area.name ++ "] " ++ note.text ++ "\n"

def notesText (verbosity : Nat) (notes : List Note) : String :=
  String.join ((notesUpTo (shownLevel verbosity) notes).map noteLine)

def entryText (entry : Entry) : String :=
  let place := if entry.file.isEmpty then entry.path else entry.file ++ ":" ++ entry.path
  "  " ++ entry.severity.name ++ " [" ++ entry.code ++ "] " ++ entry.message ++ " (" ++ place ++ ")\n" ++
    match entry.suggestion with
    | some suggestion => "    hint: " ++ suggestion ++ "\n"
    | none => ""

def entriesText (entries : List Entry) : String :=
  String.join (entries.map entryText)

/-! ## Loading -/

/-- The document that the paths name, or the one on the standard input, and the file that the findings
about it are laid to. -/
def loadDocument (workspace : Workspace) (paths : List String) :
    Except LoadError (Document × String) :=
  match paths with
  | [] => (·, inputName) <$> loadInput workspace.input
  | [path] => (·, path) <$> loadFiles workspace.tree [path]
  | paths => (·, "") <$> loadFiles workspace.tree paths

/-- Loads and validates a document and tells every problem; a document with errors is not given. -/
def checkedDocument (workspace : Workspace) (paths : List String) : Step Document := do
  match loadDocument workspace paths with
  | .error (.violations entries) =>
    Step.say (entriesText entries ++ "✗ " ++ toString entries.length ++ " schema violation(s)\n")
    Step.give
  | .error error => Step.fail ("failed to load specification: " ++ error.message)
  | .ok (document, source) =>
    let report := Validation.validateFile document source
    let errors := report.count .error
    let warnings := report.count .warning
    Step.say (entriesText report.entries)
    if 0 < errors then
      Step.say ("✗ " ++ toString errors ++ " error(s), " ++ toString warnings ++ " warning(s)\n")
      Step.give
    else
      if 0 < warnings then
        Step.say ("⚠ Valid with " ++ toString warnings ++ " warning(s)\n")
      pure document

/-- Settings from a file; without one the usual settings. -/
def readConfig (tree : Files.Tree) (path : String) : Except GenError Config :=
  match tree.find? path with
  | some (.file content) =>
    match String.fromUTF8? content with
    | some text => (Config.read text).mapError (.config path)
    | none => .error (.io "stream did not contain valid UTF-8")
  | some (.folder _) => .error (.io "Is a directory (os error 21)")
  | none => .error (.io "No such file or directory (os error 2)")

def loadConfig (workspace : Workspace) (path : Option String) : Step Config :=
  match path with
  | none => pure {}
  | some path =>
    match readConfig workspace.tree path with
    | .ok config => pure config
    | .error error => Step.fail ("failed to load config '" ++ path ++ "': " ++ error.report)

/-! ## Subcommands -/

/-- The outcome of a subcommand that leaves the tree as it is. -/
def conclude (workspace : Workspace) (step : Step String) : Result :=
  match step.value with
  | .ok output => ⟨0, output, step.errors, workspace.tree⟩
  | .error none => ⟨1, "", step.errors, workspace.tree⟩
  | .error (some reason) => ⟨1, "", step.errors ++ "error: " ++ reason ++ "\n", workspace.tree⟩

def validSummary (document : Document) : String :=
  let opcodes := (document.opcode.map (·.opcodes.size)).getD 0
  let dtypes := (document.dtype.map (·.size)).getD 0
  let namespaces := (document.api.map (·.namespaces.size)).getD 0
  "✓ Specification is valid (" ++ toString opcodes ++ " opcodes, " ++ toString dtypes ++ " dtypes, " ++
    toString namespaces ++ " namespaces)\n"

def validate (workspace : Workspace) (paths : List String) : Result :=
  conclude workspace (validSummary <$> checkedDocument workspace paths)

def printSchema (workspace : Workspace) : Result :=
  conclude workspace (pure (Json.pretty documentSchema ++ "\n"))

/-- The document to generate from; its problems are told together with what follows from them. -/
def generatedDocument (workspace : Workspace) (paths : List String) : Step Document :=
  let step := checkedDocument workspace paths
  match step.value with
  | .error none => { step with errors := step.errors ++ "✗ fix the errors above before generating\n" }
  | _ => step

/-- Everything that is generated, with what is said on the way. -/
def generateFiles (workspace : Workspace) (verbosity : Nat) (options : GenerateOptions) :
    Step FileSet := do
  let config ← loadConfig workspace options.config
  let document ← generatedDocument workspace options.specs
  let ids := if options.plugins.isEmpty then Plugin.builtinIds else options.plugins
  let (notes, pipeline) := Pipeline.ofIds ids
  Step.say (notesText verbosity
    (notes ++ [⟨.info, .command, "running plugins " ++ Pipeline.idsText pipeline.ids⟩]))
  let (_, run) := pipeline.run document config
  Step.say (notesText verbosity run.notes)
  match run.result with
  | .ok files => pure files
  | .error error => Step.fail ("code generation failed: " ++ error.report)

def filesSummary (count : Nat) (folder : String) (files : FileSet) : String :=
  "✓ Generated " ++ toString count ++ " file(s) → " ++ folder ++ "\n" ++
    String.join (files.keys.map fun name ↦ "  → " ++ name ++ "\n")

def emitToFolder (workspace : Workspace) (verbosity : Nat) (errors : String) (folder front : String)
    (files : FileSet) : Result :=
  let (tree, run) := (folderSink folder front).emit workspace.tree files
  let errors := errors ++ notesText verbosity run.notes
  match run.result with
  | .ok count => ⟨0, filesSummary count folder files, errors, tree⟩
  | .error error =>
    ⟨1, "", errors ++ "error: failed to write to '" ++ folder ++ "': " ++ error.report ++ "\n", tree⟩

def emitToOutput (workspace : Workspace) (verbosity : Nat) (errors front : String)
    (files : FileSet) : Result :=
  let (output, run) := (textSink (includePath "" front)).emit "" files
  ⟨0, output, errors ++ notesText verbosity run.notes, workspace.tree⟩

def generate (workspace : Workspace) (verbosity : Nat) (options : GenerateOptions) : Result :=
  let step := generateFiles workspace verbosity options
  let front := options.stripped.getD ""
  match step.value with
  | .error _ => conclude workspace ((fun _ ↦ "") <$> step)
  | .ok files =>
    match options.out with
    | some folder => emitToFolder workspace verbosity step.errors folder front files
    | none => emitToOutput workspace verbosity step.errors front files

/-! ## The command -/

def versionText : String := "0.1.0"

def usageText : String := String.join [
  "Usage: egen [OPTIONS] <COMMAND>\n\n",
  "Commands:\n",
  "  generate  Generate sources from specification documents\n",
  "  validate  Validate specification documents\n",
  "  schema    Print the schema of specification documents\n"]

def perform (workspace : Workspace) : Request → Result
  | .perform verbosity (.generate options) => generate workspace verbosity options
  | .perform _ (.validate paths) => validate workspace paths
  | .perform _ .schema => printSchema workspace
  | .version command => ⟨0, command ++ " " ++ versionText ++ "\n", "", workspace.tree⟩
  | .help => ⟨0, usageText, "", workspace.tree⟩
  | .usage => ⟨2, "", usageText, workspace.tree⟩

def run (workspace : Workspace) (args : List String) : Result :=
  perform workspace (readArguments args)

end SourceGen.Command
