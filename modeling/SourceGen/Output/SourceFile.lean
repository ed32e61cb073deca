import SourceGen.OrderedMap
import SourceGen.Text.Blank

/-!
# Generated files

A generated file has a text, the headers it includes as they are written, and the names of other generated
files that it refers to. Files are kept by name in the order in which they first came.
-/

namespace SourceGen

open Text (isBlankText)

structure SourceFile where
  content : String
  includes : List String := []
  references : List String := []
deriving DecidableEq, Repr

abbrev FileSet := OrderedMap SourceFile

namespace SourceFile

/-- How a file of the same set is included, `includePath` being the directory of the set. -/
def includeTarget (includePath file : String) : String :=
  let base := String.ofList (Text.dropEndWhile (· == '/') includePath.toList)
  if base.isEmpty then file else base ++ "/" ++ file

/-- The text to write: includes, references, a blank line and the content. -/
def render (file : SourceFile) (includePath : String) : String :=
  String.join (file.includes.map fun target ↦ "#include " ++ target ++ "\n") ++
    String.join (file.references.map fun name ↦
      "#include \"" ++ includeTarget includePath name ++ "\"\n") ++
    "\n" ++ file.content

/-! ## Files that cannot be written -/

inductive Fault where
  | noName
  | separator (name : String)
  | emptyInclude (target name : String)
  | emptyReference (name : String)
  | includesItself (name : String)
deriving DecidableEq, Repr

def Fault.message : Fault → String
  | .noName => "empty file name"
  | .separator name => "file name '" ++ name ++ "' must not contain a path separator"
  | .emptyInclude target name => "empty include '" ++ target ++ "' in '" ++ name ++ "'"
  | .emptyReference name => "empty internal reference in '" ++ name ++ "'"
  | .includesItself name => "'" ++ name ++ "' includes itself"

def isSeparator (c : Char) : Bool :=
  c == '/' || c == '\\'

def referenceFault? (name reference : String) : Option Fault :=
  if isBlankText reference then some (.emptyReference name)
  else if reference = name then some (.includesItself name)
  else none

/-- What keeps a file from being written under a name; the first fault counts. -/
def fault? (file : SourceFile) (name : String) : Option Fault :=
  if isBlankText name then some .noName
  else if name.toList.any isSeparator then some (.separator name)
  else
    match file.includes.find? isBlankText with
    | some target => some (.emptyInclude target name)
    | none => file.references.findSome? (referenceFault? name)

end SourceFile

end SourceGen
