import SourceGen.Text.Identifier

/-!
# Replacement texts

A replacement may cite the occurrence that it stands for: `$0` or `${0}` is the occurrence, any other name
behind a dollar sign is empty, and `$$` is a dollar sign. A bare name is as long as it can be; a dollar
sign that begins neither stands for itself.
-/

namespace SourceGen.Text

/-- Whether a name cites the occurrence: zeros, behind an optional plus sign. -/
def citesAll (name : List Char) : Bool :=
  let digits := if name.head? = some '+' then name.tail else name
  !digits.isEmpty && digits.all (· == '0')

/-- Where reading a replacement stands; names are kept with the last character first. -/
inductive ReplacementMode where
  | text
  | dollar
  | bare (read : List Char)
  | braces (read : List Char)
deriving DecidableEq, Repr

def cited (found read : List Char) : List Char :=
  if citesAll read.reverse then found else []

/-- The replacement of an occurrence `found`. -/
def expandFrom (found : List Char) : ReplacementMode → List Char → List Char
  | .text, [] => []
  | .text, c :: rest =>
    if c = '$' then expandFrom found .dollar rest else c :: expandFrom found .text rest
  | .dollar, [] => ['$']
  | .dollar, c :: rest =>
    if c = '$' then '$' :: expandFrom found .text rest
    else if c = '{' ∧ '}' ∈ rest then expandFrom found (.braces []) rest
    else if isIdentifierChar c then expandFrom found (.bare [c]) rest
    else '$' :: c :: expandFrom found .text rest
  | .bare read, [] => cited found read
  | .bare read, c :: rest =>
    if isIdentifierChar c then expandFrom found (.bare (c :: read)) rest
    else if c = '$' then cited found read ++ expandFrom found .dollar rest
    else cited found read ++ c :: expandFrom found .text rest
  | .braces _, [] => []
  | .braces read, c :: rest =>
    if c = '}' then cited found read ++ expandFrom found .text rest
    else expandFrom found (.braces (c :: read)) rest

def expand (found replacement : List Char) : List Char :=
  expandFrom found .text replacement

end SourceGen.Text
