/-!
# Reading JSON text: cursors and faults

A cursor is what is left of the text with the number of bytes already read. A fault carries the byte
offset at which it was noticed; line and column are counted in bytes and found from the offset only
when the fault is reported.
-/

namespace SourceGen.Json

inductive Fault where
  | listCutOff
  | recordCutOff
  | textCutOff
  | valueCutOff
  | expectedColon
  | expectedListEnd
  | expectedRecordEnd
  | expectedWord
  | expectedValue
  | invalidEscape
  | invalidNumber
  | numberOutOfRange
  | controlCharacter
  | keyNotText
  | loneSurrogate
  | trailingComma
  | trailingCharacters
  | hexEscapeCutOff
  | tooDeep
deriving DecidableEq, Repr

def Fault.message : Fault → String
  | .listCutOff => "EOF while parsing a list"
  | .recordCutOff => "EOF while parsing an object"
  | .textCutOff => "EOF while parsing a string"
  | .valueCutOff => "EOF while parsing a value"
  | .expectedColon => "expected `:`"
  | .expectedListEnd => "expected `,` or `]`"
  | .expectedRecordEnd => "expected `,` or `\x7d`"
  | .expectedWord => "expected ident"
  | .expectedValue => "expected value"
  | .invalidEscape => "invalid escape"
  | .invalidNumber => "invalid number"
  | .numberOutOfRange => "number out of range"
  | .controlCharacter => "control character (\\u0000-\\u001F) found while parsing a string"
  | .keyNotText => "key must be a string"
  | .loneSurrogate => "lone leading surrogate in hex escape"
  | .trailingComma => "trailing comma"
  | .trailingCharacters => "trailing characters"
  | .hexEscapeCutOff => "unexpected end of hex escape"
  | .tooDeep => "recursion limit exceeded"

structure Position where
  line : Nat
  column : Nat
deriving DecidableEq, Repr

def Position.text (p : Position) : String :=
  "line " ++ toString p.line ++ " column " ++ toString p.column

/-- The position after the first `offset` bytes: lines count from one, and the column is the number
of bytes since the last line break. -/
def Position.after (text : String) (offset : Nat) : Position :=
  let bytes := text.toUTF8.toList.take offset
  { line := 1 + bytes.count 10
    column := (bytes.reverse.takeWhile (· != 10)).length }

structure Cursor where
  rest : List Char
  offset : Nat

def Cursor.start (text : String) : Cursor := ⟨text.toList, 0⟩

/-- The cursor after `count` more characters. -/
def Cursor.skip (c : Cursor) : Nat → Cursor
  | 0 => c
  | count + 1 =>
    match c.rest with
    | [] => c
    | head :: rest => Cursor.skip ⟨rest, c.offset + head.utf8Size⟩ count

/-- The offset just behind the next byte, or the end of the text. -/
def Cursor.nextOffset (c : Cursor) : Nat :=
  if c.rest.isEmpty then c.offset else c.offset + 1

/-- Steps over `predicate`'s characters, which are single bytes. -/
def Cursor.skipWhile (predicate : Char → Bool) (c : Cursor) : Cursor :=
  ⟨c.rest.dropWhile predicate, c.offset + (c.rest.takeWhile predicate).length⟩

def isSpace (c : Char) : Bool :=
  c == ' ' || c == '\n' || c == '\t' || c == '\r'

def Cursor.skipSpace (c : Cursor) : Cursor :=
  c.skipWhile isSpace

/-- A fault and the byte offset it is reported at. -/
structure Failure (φ : Type) where
  fault : φ
  offset : Nat
deriving Repr

/-- The fault noticed at the cursor itself. -/
def Cursor.fail {φ α : Type} (c : Cursor) (fault : φ) : Except (Failure φ) α :=
  .error ⟨fault, c.offset⟩

/-- The fault noticed on looking at the next byte. -/
def Cursor.failNext {φ α : Type} (c : Cursor) (fault : φ) : Except (Failure φ) α :=
  .error ⟨fault, c.nextOffset⟩

end SourceGen.Json
