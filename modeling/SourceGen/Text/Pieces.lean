import SourceGen.Text.Blank

/-!
# Cutting and joining text

Pieces between separators, lines, words, and the qualified names written with `::`.
-/

namespace SourceGen.Text

/-- The pieces between the separators; always at least one piece. -/
def splitWhere (separator : Char → Bool) : List Char → List (List Char)
  | [] => [[]]
  | c :: rest =>
    if separator c then [] :: splitWhere separator rest
    else match splitWhere separator rest with
      | [] => [[c]]
      | piece :: more => (c :: piece) :: more

/-- The pieces between the occurrences of `::`, found from the left. -/
def splitScope : List Char → List (List Char)
  | [] => [[]]
  | ':' :: ':' :: rest => [] :: splitScope rest
  | c :: rest => match splitScope rest with
    | [] => [[c]]
    | piece :: more => (c :: piece) :: more

/-- What stands before the first `::` of a text. -/
def beforeScope : List Char → List Char
  | [] => []
  | ':' :: ':' :: _ => []
  | c :: rest => c :: beforeScope rest

/-- What follows the last `::` of a text. -/
def afterLastScope (cs : List Char) : List Char :=
  (beforeScope cs.reverse).reverse

/-- The lines of a text: a final line break ends the last line and opens no other, and a carriage
return before a line break belongs to the break. -/
def lineList (cs : List Char) : List (List Char) :=
  let pieces := splitWhere (· == '\n') cs
  let ended := pieces.dropLast.map fun line ↦
    if line.getLast? = some '\r' then line.dropLast else line
  match pieces.getLast? with
  | some (c :: open_) => ended ++ [c :: open_]
  | _ => ended

def lines (s : String) : List String :=
  (lineList s.toList).map String.ofList

/-- The runs of characters that are no separator. -/
def wordsBy (separator : Char → Bool) (cs : List Char) : List (List Char) :=
  (splitWhere separator cs).filter fun piece ↦ !piece.isEmpty

def words (s : String) : List String :=
  (wordsBy isBlank s.toList).map String.ofList

/-- Whether `needle` occurs in `hay`; the empty text occurs everywhere. -/
def occursIn (needle : List Char) : List Char → Bool
  | [] => needle.isEmpty
  | c :: rest => needle.isPrefixOf (c :: rest) || occursIn needle rest

def contains (s needle : String) : Bool :=
  occursIn needle.toList s.toList

/-- Writes every character as `f` says. -/
def substituteChars (f : Char → List Char) (s : String) : String :=
  String.ofList (s.toList.flatMap f)

def join (separator : String) (pieces : List String) : String :=
  separator.intercalate pieces

end SourceGen.Text
