/-!
# Identifiers

The names that a C-family declaration may introduce: an ASCII letter or underscore, then letters,
digits and underscores.
-/

namespace SourceGen.Text

def isIdentifierStart (c : Char) : Bool :=
  c.isAlpha || c == '_'

def isIdentifierChar (c : Char) : Bool :=
  c.isAlphanum || c == '_'

def isIdentifierChars : List Char → Bool
  | [] => false
  | c :: rest => isIdentifierStart c && rest.all isIdentifierChar

def isIdentifier (s : String) : Bool :=
  isIdentifierChars s.toList

end SourceGen.Text
