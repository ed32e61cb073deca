/-!
# Blank characters

Unicode white space, and what a text loses or falls into when it is cut there: the trimmed text and
its words. The functions on character lists carry the rules; those on strings only wrap them.
-/

namespace SourceGen.Text

/-- Unicode `White_Space`. -/
def isBlank (c : Char) : Bool :=
  let n := c.toNat
  (9 ≤ n && n ≤ 13) || n == 0x20 || n == 0x85 || n == 0xA0 || n == 0x1680 ||
    (0x2000 ≤ n && n ≤ 0x200A) || n == 0x2028 || n == 0x2029 || n == 0x202F || n == 0x205F ||
    n == 0x3000

def dropEndWhile (p : Char → Bool) (cs : List Char) : List Char :=
  (cs.reverse.dropWhile p).reverse

def trimEndChars (cs : List Char) : List Char :=
  dropEndWhile isBlank cs

def trimChars (cs : List Char) : List Char :=
  trimEndChars (cs.dropWhile isBlank)

def trim (s : String) : String :=
  String.ofList (trimChars s.toList)

def trimEnd (s : String) : String :=
  String.ofList (trimEndChars s.toList)

def isBlankText (s : String) : Bool :=
  s.toList.all isBlank

end SourceGen.Text
