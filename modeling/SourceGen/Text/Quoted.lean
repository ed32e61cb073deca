import SourceGen.Text.HiddenTable

/-!
# Quoted text in messages

A text that a message cites stands between quotes on one line: quotes and backslashes are escaped, and
every character that would not show is written by its code.
-/

namespace SourceGen.Text

def isHidden (c : Char) : Bool :=
  c.toNat < 0x20 ||
    (0x7F ≤ c.toNat && hiddenRanges.any fun range ↦ range.1 ≤ c.toNat && c.toNat ≤ range.2)

/-- The hexadecimal digits of a code point, as few as there are. -/
def codeDigits (n : Nat) : List Char :=
  Nat.toDigits 16 n

def escapeShown (c : Char) : List Char :=
  match c with
  | '"' => ['\\', '"']
  | '\\' => ['\\', '\\']
  | '\n' => ['\\', 'n']
  | '\r' => ['\\', 'r']
  | '\t' => ['\\', 't']
  | c =>
    if c.toNat = 0 then ['\\', '0']
    else if isHidden c then '\\' :: 'u' :: '{' :: codeDigits c.toNat ++ ['}']
    else [c]

def quoted (s : String) : String :=
  String.ofList ('"' :: s.toList.flatMap escapeShown ++ ['"'])

end SourceGen.Text
