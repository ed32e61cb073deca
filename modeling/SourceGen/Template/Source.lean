import SourceGen.Text.Identifier
import SourceGen.Text.Pieces

/-!
# Reading templates

A template is text with placeholders. `${name}` is a slot that a value fills, `${#name}` is a
marker that leaves no text, and `$$` is a dollar sign; a dollar sign before anything else stands for
itself. A line of blanks around one marker is no line of the result: only the marker remains of it.
-/

namespace SourceGen.Template

open Text

inductive Piece where
  | char (c : Char)
  | slot (name : String)
  | marker (name : String)
deriving DecidableEq, Repr

inductive Fault where
  | unterminated (near : String)
  | invalidName (written : String)
  | unhandled (name : String)
deriving DecidableEq, Repr

/-! ## Pieces -/

/-- What stands between the braces of a placeholder; `none` if it names nothing. -/
def placeholder (written : List Char) : Option Piece :=
  match written with
  | '#' :: name => if isIdentifierChars name then some (.marker (String.ofList name)) else none
  | name => if isIdentifierChars name then some (.slot (String.ofList name)) else none

/-- Where the reader is: in plain text, behind a dollar sign, or inside braces with what it has read
there, the last character first. -/
inductive Mode where
  | text
  | dollar
  | braces (read : List Char)
deriving DecidableEq, Repr

def firstLine (cs : List Char) : String :=
  String.ofList ((lineList cs).head?.getD [])

def readPieces : Mode → List Char → Except Fault (List Piece)
  | .text, [] => .ok []
  | .text, c :: rest =>
    if c = '$' then readPieces .dollar rest
    else (.char c :: ·) <$> readPieces .text rest
  | .dollar, [] => .ok [.char '$']
  | .dollar, c :: rest =>
    if c = '$' then (.char '$' :: ·) <$> readPieces .text rest
    else if c = '{' then readPieces (.braces []) rest
    else (fun pieces ↦ .char '$' :: .char c :: pieces) <$> readPieces .text rest
  | .braces read, [] => .error (.unterminated (firstLine read.reverse))
  | .braces read, c :: rest =>
    if c = '}' then
      match placeholder read.reverse with
      | some piece => (piece :: ·) <$> readPieces .text rest
      | none => .error (.invalidName (String.ofList read.reverse))
    else readPieces (.braces (c :: read)) rest

/-! ## Lines -/

/-- Cuts pieces into lines, each with the break that ends it. -/
def cutLines : List Piece → List (List Piece)
  | [] => []
  | piece :: rest =>
    if piece = .char '\n' then [piece] :: cutLines rest
    else match cutLines rest with
      | [] => [[piece]]
      | line :: more => (piece :: line) :: more

def Piece.isMarker : Piece → Bool
  | .marker _ => true
  | _ => false

def Piece.isBlank : Piece → Bool
  | .char c => Text.isBlank c
  | _ => false

/-- Whether a line holds one marker and otherwise only blanks. -/
def isMarkerLine (line : List Piece) : Bool :=
  line.all (fun piece ↦ piece.isBlank || piece.isMarker) && line.countP Piece.isMarker == 1

def tidyLine (line : List Piece) : List Piece :=
  if isMarkerLine line then line.filter Piece.isMarker else line

/-- The pieces of a template's source. -/
def readSource (source : String) : Except Fault (List Piece) :=
  (fun pieces ↦ (cutLines pieces).flatMap tidyLine) <$> readPieces .text source.toList

end SourceGen.Template
