import SourceGen.Text.Pieces

/-!
# Template parameter lists

A list such as `typename T, size_t N = 8` is cut at its top-level commas, those outside of `<…>` and
`(…)`. A parameter introduces the last word before its default.
-/

namespace SourceGen.Spec

open Text

/-- The bracket depth behind a character; a closing bracket too many is ignored. -/
def depthAfter (depth : Nat) (c : Char) : Nat :=
  if c = '<' ∨ c = '(' then depth + 1
  else if c = '>' ∨ c = ')' then depth - 1
  else depth

/-- The pieces between the top-level commas; always at least one piece. -/
def splitTopLevel (depth : Nat) : List Char → List (List Char)
  | [] => [[]]
  | c :: rest =>
    if c = ',' ∧ depth = 0 then [] :: splitTopLevel 0 rest
    else match splitTopLevel (depthAfter depth c) rest with
      | [] => [[c]]
      | piece :: more => (c :: piece) :: more

/-- The trimmed parameters of a list; a blank list has none. -/
def parameterList (template : List Char) : List (List Char) :=
  match (splitTopLevel 0 template).map trimChars with
  | [[]] => []
  | pieces => pieces

def parameters (template : String) : List String :=
  (parameterList template.toList).map String.ofList

/-- What stands after the last blank of a text. -/
def afterLastBlank (cs : List Char) : List Char :=
  (cs.reverse.takeWhile (!isBlank ·)).reverse

def isPointerMark (c : Char) : Bool :=
  c == '*' || c == '&'

/-- The name that a parameter introduces: `T` for `typename T`, `N` for `size_t N = 8`. -/
def parameterNameChars (parameter : List Char) : List Char :=
  (afterLastBlank (trimChars (parameter.takeWhile (· != '=')))).dropWhile isPointerMark

def parameterName (parameter : String) : String :=
  String.ofList (parameterNameChars parameter.toList)

end SourceGen.Spec
