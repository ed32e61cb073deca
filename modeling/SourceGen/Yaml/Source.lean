/-!
# YAML text: places, breaks and faults

A source is what is left of a text with the place reached. A place counts the bytes before it, the lines
and the characters of its line; any of the five line breaks, a carriage return with its line feed as one,
begins a new line. A fault names what was wrong and, if a construct was under way, which one and where it
began.
-/

namespace SourceGen.Yaml

structure Place where
  /-- The number of bytes before the place. -/
  index : Nat
  line : Nat
  column : Nat
deriving DecidableEq, Repr

def Place.start : Place := ⟨0, 0, 0⟩

def Place.isLineStart (p : Place) : Bool := p.line == 0 && p.column == 0

/-- Lines and columns are counted from one in messages. -/
def Place.text (p : Place) : String :=
  "line " ++ toString (p.line + 1) ++ " column " ++ toString (p.column + 1)

inductive Fault where
  | unknownStart
  | blockEntryNotAllowed
  | keyNotAllowed
  | valueNotAllowed
  | expectedColon
  | expectedName
  | zeroIndent
  | expectedLineBreak
  | tabInsteadOfSpace
  | tabInIndent
  | documentMark
  | endOfText
  | unknownEscape
  | expectedHex
  | invalidEscapeCode
  | unexpectedColon
  | expectedDirectiveName
  | directiveNameGoesOn
  | unknownDirective
  | expectedPoint
  | expectedNumber
  | longNumber
  | incompatibleVersion
  | repeatedVersion
  | expectedMark
  | expectedTagName
  | expectedTagEnd
  | expectedBlank
  | expectedBlankOrBreak
  | expectedOctet
  | wrongFirstOctet
  | wrongLaterOctet
  | repeatedHandle
  | unknownHandle
  | expectedDocumentStart
  | expectedContent
  | expectedDash
  | expectedKey
  | expectedSequenceEnd
  | expectedMappingEnd
  | controlCharacter (offset : Nat)
deriving DecidableEq, Repr

def Fault.message : Fault → String
  | .unknownStart => "found character that cannot start any token"
  | .blockEntryNotAllowed => "block sequence entries are not allowed in this context"
  | .keyNotAllowed => "mapping keys are not allowed in this context"
  | .valueNotAllowed => "mapping values are not allowed in this context"
  | .expectedColon => "could not find expected ':'"
  | .expectedName => "did not find expected alphabetic or numeric character"
  | .zeroIndent => "found an indentation indicator equal to 0"
  | .expectedLineBreak => "did not find expected comment or line break"
  | .tabInsteadOfSpace => "found a tab character where an indentation space is expected"
  | .tabInIndent => "found a tab character that violates indentation"
  | .documentMark => "found unexpected document indicator"
  | .endOfText => "found unexpected end of stream"
  | .unknownEscape => "found unknown escape character"
  | .expectedHex => "did not find expected hexadecimal number"
  | .invalidEscapeCode => "found invalid Unicode character escape code"
  | .unexpectedColon => "found unexpected ':'"
  | .expectedDirectiveName => "could not find expected directive name"
  | .directiveNameGoesOn => "found unexpected non-alphabetical character"
  | .unknownDirective => "found unknown directive name"
  | .expectedPoint => "did not find expected digit or '.' character"
  | .expectedNumber => "did not find expected version number"
  | .longNumber => "found extremely long version number"
  | .incompatibleVersion => "found incompatible YAML document"
  | .repeatedVersion => "found duplicate %YAML directive"
  | .expectedMark => "did not find expected '!'"
  | .expectedTagName => "did not find expected tag URI"
  | .expectedTagEnd => "did not find the expected '>'"
  | .expectedBlank => "did not find expected whitespace"
  | .expectedBlankOrBreak => "did not find expected whitespace or line break"
  | .expectedOctet => "did not find URI escaped octet"
  | .wrongFirstOctet => "found an incorrect leading UTF-8 octet"
  | .wrongLaterOctet => "found an incorrect trailing UTF-8 octet"
  | .repeatedHandle => "found duplicate %TAG directive"
  | .unknownHandle => "found undefined tag handle"
  | .expectedDocumentStart => "did not find expected <document start>"
  | .expectedContent => "did not find expected node content"
  | .expectedDash => "did not find expected '-' indicator"
  | .expectedKey => "did not find expected key"
  | .expectedSequenceEnd => "did not find expected ',' or ']'"
  | .expectedMappingEnd => "did not find expected ',' or '\x7d'"
  | .controlCharacter _ => "control characters are not allowed"

inductive Activity where
  | nextToken
  | simpleKey
  | anchor
  | alias
  | blockScalar
  | quotedScalar
  | escape
  | plainScalar
  | directive
  | versionDirective
  | tagDirective
  | handleMark
  | handle
  | tagFront
  | tag
  | tagName
  | node
  | blockNode
  | flowNode
  | blockSequence
  | blockMapping
  | flowSequence
  | flowMapping
deriving DecidableEq, Repr

def Activity.message : Activity → String
  | .nextToken => "while scanning for the next token"
  | .simpleKey => "while scanning a simple key"
  | .anchor => "while scanning an anchor"
  | .alias => "while scanning an alias"
  | .blockScalar => "while scanning a block scalar"
  | .quotedScalar => "while scanning a quoted scalar"
  | .escape => "while parsing a quoted scalar"
  | .plainScalar => "while scanning a plain scalar"
  | .directive => "while scanning a directive"
  | .versionDirective => "while scanning a %YAML directive"
  | .tagDirective => "while scanning a %TAG directive"
  | .handleMark => "while scanning a tag directive"
  | .handle => "while parsing a tag directive"
  | .tagFront => "while parsing a %TAG directive"
  | .tag => "while scanning a tag"
  | .tagName => "while parsing a tag"
  | .node => "while parsing a node"
  | .blockNode => "while parsing a block node"
  | .flowNode => "while parsing a flow node"
  | .blockSequence => "while parsing a block collection"
  | .blockMapping => "while parsing a block mapping"
  | .flowSequence => "while parsing a flow sequence"
  | .flowMapping => "while parsing a flow mapping"

structure Failure where
  fault : Fault
  place : Place
  during : Option (Activity × Place) := none
deriving DecidableEq, Repr

/-- A place at the very start of the text is left out; so is the start of the construct where it is
the place of the fault. -/
def Failure.message (f : Failure) : String :=
  let at_ := if f.place.isLineStart then
      match f.fault with
      | .controlCharacter 0 => ""
      | .controlCharacter offset => " at position " ++ toString offset
      | _ => ""
    else " at " ++ f.place.text
  let during := match f.during with
    | none => ""
    | some (activity, start) =>
      let at_ :=
        if start.isLineStart || (start.line == f.place.line && start.column == f.place.column)
        then "" else " at " ++ start.text
      ", " ++ activity.message ++ at_
  f.fault.message ++ at_ ++ during

/-! ## Characters -/

def isBreak (c : Char) : Bool :=
  c == '\n' || c == '\r' || c == '\u0085' || c == '\u2028' || c == '\u2029'

def isGap (c : Char) : Bool := c == ' ' || c == '\t'

/-- Whether a character, or the end of the text, ends a run of visible characters. -/
def endsRun (c : Option Char) : Bool :=
  match c with
  | none => true
  | some c => isGap c || isBreak c

def isNameChar (c : Char) : Bool := c.isAlphanum || c == '_' || c == '-'

/-- Whether a text may hold the character at all. -/
def isAllowed (c : Char) : Bool :=
  let n := c.toNat
  n == 9 || n == 10 || n == 13 || (0x20 ≤ n && n ≤ 0x7E) || n == 0x85 ||
    (0xA0 ≤ n && n ≤ 0xD7FF) || (0xE000 ≤ n && n ≤ 0xFFFD) || 0x10000 ≤ n

/-! ## Blocks -/

/-- The size of a block in bytes. -/
def blockSize : Nat := 16384

/-- What can be read of a text: all of it, or the blocks in front of the first one that holds a forbidden
character, together with the byte offset of that character. -/
structure Readable where
  text : List Char
  forbidden : Option Nat
deriving DecidableEq, Repr

/-- `done` are the characters before the block that begins at `block`, `pending` those of the block up to
`offset`, both with the last one first. A block is as long as it can be. -/
def readableFrom (offset block : Nat) (done pending : List Char) : List Char → Readable
  | [] => ⟨(pending ++ done).reverse, none⟩
  | c :: rest =>
    let next := offset + c.utf8Size
    if block + blockSize < next then
      if isAllowed c then readableFrom next offset (pending ++ done) [c] rest
      else ⟨(pending ++ done).reverse, some offset⟩
    else if isAllowed c then readableFrom next block done (c :: pending) rest
    else ⟨done.reverse, some offset⟩

def readable (cs : List Char) : Readable := readableFrom 0 0 [] [] cs

/-! ## Sources -/

structure Source where
  rest : List Char
  place : Place
  /-- The number of characters of the whole text, which bounds every reader's steps. -/
  length : Nat

/-- The length of a text in bytes. -/
def byteCount (cs : List Char) : Nat :=
  cs.foldl (fun bytes c ↦ bytes + c.utf8Size) 0

def Source.start (cs : List Char) : Source := ⟨cs, .start, cs.length⟩

def Source.peek (s : Source) : Option Char := s.rest.head?

def Source.peekAt (s : Source) (n : Nat) : Option Char := (s.rest.drop n).head?

def Source.looksAt (s : Source) (c : Char) : Bool := s.peek == some c

/-- The source after `count` characters of one line. -/
def Source.skip (s : Source) (count : Nat) : Source :=
  let p := s.place
  { s with
    rest := s.rest.drop count
    place := ⟨p.index + byteCount (s.rest.take count), p.line, p.column + count⟩ }

/-- The run of `predicate`'s characters, none of which is a break, and the source behind it. -/
def Source.span (s : Source) (predicate : Char → Bool) : List Char × Source :=
  let run := s.rest.takeWhile predicate
  (run, s.skip run.length)

def Source.skipWhile (s : Source) (predicate : Char → Bool) : Source :=
  (s.span predicate).2

/-- Takes a line break as one character; the common breaks all read as a line feed. -/
def Source.readBreak (s : Source) : Option (Char × Source) :=
  let next (bytes : Nat) (rest : List Char) : Source :=
    { s with rest := rest, place := ⟨s.place.index + bytes, s.place.line + 1, 0⟩ }
  match s.rest with
  | '\r' :: '\n' :: rest => some ('\n', next 2 rest)
  | c :: rest =>
    if isBreak c then
      some (if c == '\u2028' || c == '\u2029' then c else '\n', next c.utf8Size rest)
    else none
  | [] => none

/-- Whether `mark` stands three times at the start of the line and ends there. -/
def Source.atDocumentMark (s : Source) (mark : Char) : Bool :=
  s.place.column == 0 && s.rest.take 3 == [mark, mark, mark] && endsRun (s.peekAt 3)

def Source.atAnyDocumentMark (s : Source) : Bool :=
  s.atDocumentMark '-' || s.atDocumentMark '.'

def Source.fail {α : Type} (s : Source) (fault : Fault) (during : Option (Activity × Place)) :
    Except Failure α :=
  .error ⟨fault, s.place, during⟩

end SourceGen.Yaml
