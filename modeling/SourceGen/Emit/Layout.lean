import SourceGen.Spec.Model

/-!
# Layout of emitted text

Comments, indented bodies, parameter lists, template heads and namespace blocks.
-/

namespace SourceGen.Emit

open Spec Text

/-! ## Lines -/

/-- A documentation comment over the lines of a text. -/
def docComment (text : String) : String :=
  join "\n" ((lines (trim text)).map fun line ↦ trimEnd ("/// " ++ trimEnd line))

/-- Lines behind the first with `front` before them, blank lines apart. -/
def indentLine (front line : String) : String :=
  if isBlankText line then trimEnd line else front ++ trimEnd line

/-- A trimmed text whose lines behind the first are indented. -/
def reindent (text front : String) : String :=
  match lines (trim text) with
  | [] => ""
  | first :: rest => join "\n" (trimEnd first :: rest.map (indentLine front))

/-! ## Parameters -/

def renderArguments (args : List Argument) (withDefaults : Bool) : String :=
  join ", " (args.map (·.render withDefaults))

def argumentNames (args : List Argument) : String :=
  join ", " (args.map (·.name))

/-- The line before a templated declaration. -/
def templateHead : Option String → String
  | some params => "template <" ++ params ++ ">\n"
  | none => ""

/-- The arguments that a function refuses to take as null. -/
def guarded (api : Api) (args : List Argument) : List Argument :=
  args.filter api.isNullable

/-- The condition under which a function refuses its arguments. -/
def nullGuard (api : Api) (args : List Argument) : String :=
  match guarded api args with
  | [] => "false"
  | checked => join " || " (checked.map fun arg ↦ arg.name ++ " == nullptr")

/-! ## Namespaces -/

/-- The segments of a namespace; blanks around them, empty ones and underscores do not count. -/
def namespaceSegments (name : String) : List String :=
  (((splitScope name.toList).map trimChars).filter fun segment ↦
    !segment.isEmpty && segment != ['_']).map String.ofList

def qualify (namespaceName name : String) : String :=
  join "::" (namespaceSegments namespaceName ++ [name])

def wrapSegment (segment body : String) : String :=
  "namespace " ++ segment ++ "\n\x7b\n\n" ++ body ++ "\n\n\x7d"

/-- A body inside the blocks of its namespace, the outermost segment first. -/
def wrapNamespace (name body : String) : String :=
  (namespaceSegments name).foldr wrapSegment body

end SourceGen.Emit
