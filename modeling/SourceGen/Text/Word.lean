import SourceGen.Text.WordTable

/-!
# Word characters and whole-word replacement

A word boundary lies between a word character and a character that is none, or an end of the text
next to a word character. `replaceWord` puts a text in place of the occurrences of a name that both
begin and end at a boundary.
-/

namespace SourceGen.Text

/-- Letters, marks, decimal digits, connectors and joiners. -/
def isWordChar (c : Char) : Bool :=
  c.isAlphanum || c == '_' ||
    (0x80 ≤ c.toNat && wordRanges.any fun range ↦ range.1 ≤ c.toNat && c.toNat ≤ range.2)

/-- Whether a boundary lies between a character and the next, `none` being an end of the text. -/
def isBoundary (before after : Option Char) : Bool :=
  before.any isWordChar != after.any isWordChar

/-- Whether `name` stands at the front of `cs` between two boundaries, `before` being the character
that comes first. -/
def wordAt (name : List Char) (before : Option Char) (cs : List Char) : Bool :=
  name.isPrefixOf cs && isBoundary before cs.head? &&
    isBoundary (name.getLast?.or before) (cs.drop name.length).head?

/-- Replaces from left to right; `skip` characters still belong to the last occurrence. An empty
name occurs at every boundary. -/
def replaceWordFrom (name value : List Char) (before : Option Char) (skip : Nat) :
    List Char → List Char
  | [] => if skip = 0 && wordAt name before [] then value else []
  | c :: rest =>
    match skip with
    | skip + 1 => replaceWordFrom name value (some c) skip rest
    | 0 =>
      if wordAt name before (c :: rest) then
        match name.length with
        | 0 => value ++ c :: replaceWordFrom name value (some c) 0 rest
        | length + 1 => value ++ replaceWordFrom name value (some c) length rest
      else c :: replaceWordFrom name value (some c) 0 rest

def replaceWord (name value : List Char) (cs : List Char) : List Char :=
  replaceWordFrom name value none 0 cs

end SourceGen.Text
