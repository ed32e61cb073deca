import SourceGen.Spec.Parameters
import SourceGen.Text.Replacement
import SourceGen.Text.Word

/-!
# Types in binding modules

Template parameters give way to one alias, and a type is known by its bare form: without qualifiers,
pointers and references for its class, without template and scope for its variable.
-/

namespace SourceGen.Binding

open Text

/-- Puts the alias in place of every occurrence of the names that the parameters introduce. -/
def cleanTemplates (params : List String) (aliasText : String) (text : String) : String :=
  String.ofList (params.foldl (fun cs param ↦
    let name := Spec.parameterNameChars param.toList
    replaceWord name (expand name aliasText.toList) cs) text.toList)

def isTypeGap (c : Char) : Bool :=
  c == '*' || c == '&' || isBlank c

/-- A type without indirections and `const`. -/
def cleanType (type : String) : String :=
  join " " (((wordsBy isTypeGap type.toList).map String.ofList).filter (· != "const"))

/-- The last segment of a type's name. -/
def endType (type : String) : String :=
  String.ofList (trimChars (afterLastScope (type.toList.takeWhile (· != '<'))))

/-- The variable that holds the class of a type. -/
def typeVariable (type : String) : String :=
  "m_" ++ endType type

def builtinTypes : List String :=
  ["void", "bool", "char", "short", "int", "long", "unsigned", "signed", "float", "double", "size_t",
    "std::string"]

/-- Whether a type needs no class, as its first word tells. -/
def isBuiltin (type : String) : Bool :=
  let first := (words type).head?.getD ""
  builtinTypes.contains first ||
    ("_t".toList.isSuffixOf first.toList &&
      ("int".toList.isPrefixOf first.toList || "uint".toList.isPrefixOf first.toList))

end SourceGen.Binding
