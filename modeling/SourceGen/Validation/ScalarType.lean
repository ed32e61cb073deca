import SourceGen.Text.Blank
import SourceGen.Text.Identifier

/-!
# Names of scalar types

A scalar type is named by identifiers with blanks or `::` between them, and may end in one `<…>` over
letters, digits, underscores, colons, commas and blanks: `double`, `unsigned char`,
`std::complex<double>`. The name is recognised by a machine that reads it once.
-/

namespace SourceGen.Validation

open Text

inductive NamePart where
  | start
  | name
  | gap
  | colon
  | scope
  | opened
  | inside
  | closed
deriving DecidableEq, Repr

def isTemplateChar (c : Char) : Bool :=
  isIdentifierChar c || c == ':' || c == ',' || isBlank c

/-- The part of the name behind one more character. -/
def NamePart.next : NamePart → Char → Option NamePart
  | .start, c => if isIdentifierStart c then some .name else none
  | .name, c =>
    if isIdentifierChar c then some .name
    else if isBlank c then some .gap
    else if c = ':' then some .colon
    else if c = '<' then some .opened
    else none
  | .gap, c =>
    if isBlank c then some .gap
    else if c = ':' then some .colon
    else if isIdentifierStart c then some .name
    else none
  | .colon, c => if c = ':' then some .scope else none
  | .scope, c =>
    if isBlank c then some .scope
    else if isIdentifierStart c then some .name
    else none
  | .opened, c => if isTemplateChar c then some .inside else none
  | .inside, c =>
    if isTemplateChar c then some .inside
    else if c = '>' then some .closed
    else none
  | .closed, _ => none

def NamePart.mayEnd : NamePart → Bool
  | .name => true
  | .closed => true
  | _ => false

def isScalarChars (cs : List Char) : Bool :=
  (cs.foldlM NamePart.next .start).any NamePart.mayEnd

/-- Whether a type without the blanks around it is a scalar type. -/
def isScalarType (type : String) : Bool :=
  isScalarChars (trimChars type.toList)

end SourceGen.Validation
