/-!
# Reports

Findings about a specification with their severity and place. A report is in order while it holds no
error; warnings and notes leave it so. The verdict is kept beside the entries, and every way to build or
extend a report keeps the two in step.
-/

namespace SourceGen.Spec

inductive Severity where
  | error
  | warning
  | info
deriving DecidableEq, Repr, Inhabited

def Severity.name : Severity → String
  | .error => "error"
  | .warning => "warning"
  | .info => "info"

/-- A finding: a stable code, a message, the file it concerns and the path to the offending key. -/
structure Entry where
  code : String
  severity : Severity
  message : String
  file : String
  path : String
  suggestion : Option String
deriving DecidableEq, Repr

namespace Entry

def error (code message file path : String) : Entry :=
  { code, severity := .error, message, file, path, suggestion := none }

def warning (code message file path : String) : Entry :=
  { code, severity := .warning, message, file, path, suggestion := none }

def withSuggestion (entry : Entry) (suggestion : String) : Entry :=
  { entry with suggestion := some suggestion }

def isError (entry : Entry) : Bool :=
  entry.severity == .error

end Entry

structure Report where
  ok : Bool
  entries : List Entry
deriving DecidableEq, Repr

namespace Report

def success : Report := ⟨true, []⟩

def ofEntries (entries : List Entry) : Report :=
  ⟨!entries.any Entry.isError, entries⟩

def push (report : Report) (entry : Entry) : Report :=
  ⟨report.ok && !entry.isError, report.entries ++ [entry]⟩

/-- Takes over the entries of another report; its own verdict does not count. -/
def merge (report other : Report) : Report :=
  other.entries.foldl push report

def count (report : Report) (severity : Severity) : Nat :=
  report.entries.countP (·.severity == severity)

def hasErrors (report : Report) : Bool :=
  !report.ok

def firstError (report : Report) : Option Entry :=
  report.entries.find? Entry.isError

end Report

end SourceGen.Spec
