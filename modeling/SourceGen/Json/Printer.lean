import SourceGen.Decimal.Shortest
import SourceGen.Value.Basic

/-!
# JSON text of a value

`compact` writes no blank; `pretty` indents by two spaces. Only quotes, backslashes and the control
characters below U+0020 are escaped.
-/

namespace SourceGen.Json

open Decimal (Layout)

/-- Reals from `1e-5` up to below `1e16` are written positionally. -/
def realLayout : Layout := ⟨-5, 15⟩

def hexDigit (n : Nat) : Char :=
  if n < 10 then Char.ofNat (48 + n) else Char.ofNat (87 + n)

def escapeChar (c : Char) : List Char :=
  match c with
  | '"' => ['\\', '"']
  | '\\' => ['\\', '\\']
  | '\n' => ['\\', 'n']
  | '\r' => ['\\', 'r']
  | '\t' => ['\\', 't']
  | c =>
    if c.toNat = 8 then ['\\', 'b']
    else if c.toNat = 12 then ['\\', 'f']
    else if c.toNat < 32 then
      ['\\', 'u', '0', '0', hexDigit (c.toNat / 16), hexDigit (c.toNat % 16)]
    else [c]

def quote (s : String) : String :=
  String.ofList ('"' :: s.toList.flatMap escapeChar ++ ['"'])

def numberText : Number → String
  | .integer n => toString n
  | .real x => realLayout.write x

mutual

def compact : Value → String
  | .null => "null"
  | .bool true => "true"
  | .bool false => "false"
  | .number n => numberText n
  | .text s => quote s
  | .list items => "[" ++ ",".intercalate (compactItems items) ++ "]"
  | .record fields => "\x7b" ++ ",".intercalate (compactFields fields) ++ "\x7d"

def compactItems : List Value → List String
  | [] => []
  | item :: rest => compact item :: compactItems rest

def compactFields : List (String × Value) → List String
  | [] => []
  | (key, value) :: rest => (quote key ++ ":" ++ compact value) :: compactFields rest

end

def newline (depth : Nat) : String :=
  "\n" ++ String.ofList (List.replicate (2 * depth) ' ')

/-- The pieces on lines of their own, one level deeper than the brackets. -/
def block (opening closing : String) (depth : Nat) (pieces : List String) : String :=
  match pieces with
  | [] => opening ++ closing
  | pieces =>
    opening ++ newline (depth + 1) ++ ("," ++ newline (depth + 1)).intercalate pieces ++
      newline depth ++ closing

mutual

def prettyAt (depth : Nat) : Value → String
  | .list items => block "[" "]" depth (prettyItems depth items)
  | .record fields => block "\x7b" "\x7d" depth (prettyFields depth fields)
  | value => compact value

def prettyItems (depth : Nat) : List Value → List String
  | [] => []
  | item :: rest => prettyAt (depth + 1) item :: prettyItems depth rest

def prettyFields (depth : Nat) : List (String × Value) → List String
  | [] => []
  | (key, value) :: rest =>
    (quote key ++ ": " ++ prettyAt (depth + 1) value) :: prettyFields depth rest

end

def pretty (value : Value) : String :=
  prettyAt 0 value

end SourceGen.Json
