import SourceGen.Yaml.Directive

/-!
# YAML tokens

A lexer hands out tokens one by one. A scalar, alias or bracket may turn out to be a key only when
the colon behind it is met, so a token stays in the queue while it may still have to be preceded by a
key mark; a key fits on one line and within 1024 bytes.
-/

namespace SourceGen.Yaml

inductive TokenKind where
  | streamEnd
  | directive (directive : Directive)
  | documentStart
  | documentEnd
  | blockSequenceStart
  | blockMappingStart
  | blockEnd
  | flowSequenceStart
  | flowSequenceEnd
  | flowMappingStart
  | flowMappingEnd
  | blockEntry
  | flowEntry
  | key
  | value
  | alias (name : String)
  | anchor (name : String)
  | tag (tag : WrittenTag)
  | scalar (text : String) (plain : Bool)
deriving DecidableEq, Repr

structure Token where
  kind : TokenKind
  start : Place
  stop : Place
deriving Repr

/-- A place where a key may have begun. -/
structure KeyStart where
  required : Bool
  /-- The number of tokens handed out or queued before it. -/
  position : Nat
  place : Place

structure Lexer where
  source : Source
  /-- Open brackets, innermost first, each with the key that may have begun in it. -/
  brackets : List (Option KeyStart)
  /-- The key that may have begun outside of all brackets. -/
  outer : Option KeyStart
  indent : Int
  indents : List Int
  keyAllowed : Bool
  queue : List Token
  taken : Nat
  ended : Bool
  /-- Where the text was cut off in front of a forbidden character, and what is wrong there. -/
  cut : Option (Nat × Failure)

namespace Lexer

def start (text : Readable) : Lexer where
  source := Source.start text.text
  brackets := []
  outer := none
  indent := -1
  indents := []
  keyAllowed := true
  queue := []
  taken := 0
  ended := false
  cut := text.forbidden.map fun offset ↦
    (byteCount text.text, ⟨.controlCharacter offset, .start, none⟩)

def inFlow (l : Lexer) : Bool := !l.brackets.isEmpty

def place (l : Lexer) : Place := l.source.place

def currentKey (l : Lexer) : Option KeyStart :=
  match l.brackets with
  | key :: _ => key
  | [] => l.outer

def setKey (l : Lexer) (key : Option KeyStart) : Lexer :=
  match l.brackets with
  | _ :: rest => { l with brackets := key :: rest }
  | [] => { l with outer := key }

def fail {α : Type} (l : Lexer) (fault : Fault) (during : Option (Activity × Place) := none) :
    Except Failure α :=
  l.source.fail fault during

def push (l : Lexer) (kind : TokenKind) (start : Place) : Lexer :=
  { l with queue := l.queue ++ [⟨kind, start, l.place⟩] }

/-- Puts a token in front of the one that has `position` tokens before it. -/
def insertAt (l : Lexer) (position : Nat) (token : Token) : Lexer :=
  let count := position - l.taken
  { l with queue := l.queue.take count ++ token :: l.queue.drop count }

/-! ## Keys -/

/-- A key that began on an earlier line or too far back is none; where one was required that is a
fault. -/
def checkKey (l : Lexer) (key : Option KeyStart) : Except Failure (Option KeyStart) :=
  match key with
  | none => .ok none
  | some k =>
    if k.place.line < l.place.line || k.place.index + 1024 < l.place.index then
      if k.required then l.fail .expectedColon (some (.simpleKey, k.place)) else .ok none
    else .ok (some k)

def dropStaleKeys (l : Lexer) : Except Failure Lexer := do
  let outer ← l.checkKey l.outer
  let brackets ← l.brackets.reverse.mapM l.checkKey
  .ok { l with outer := outer, brackets := brackets.reverse }

def removeKey (l : Lexer) : Except Failure Lexer :=
  match l.currentKey with
  | some k =>
    if k.required then l.fail .expectedColon (some (.simpleKey, k.place))
    else .ok (l.setKey none)
  | none => .ok l

def saveKey (l : Lexer) : Except Failure Lexer :=
  if l.keyAllowed then do
    let required := !l.inFlow && l.indent == l.place.column
    let l ← l.removeKey
    .ok (l.setKey (some ⟨required, l.taken + l.queue.length, l.place⟩))
  else .ok l

/-! ## Indentation -/

/-- Opens a block of the given kind at `column` unless one that deep is open; `position` as in
`insertAt`, the end of the queue by default. -/
def openBlock (l : Lexer) (column : Nat) (kind : TokenKind) (at_ : Place)
    (position : Option Nat := none) : Lexer :=
  if !l.inFlow && l.indent < column then
    let l := { l with indents := l.indent :: l.indents, indent := column }
    l.insertAt (position.getD (l.taken + l.queue.length)) ⟨kind, at_, at_⟩
  else l

/-- Ends the blocks that are indented deeper than `column`. -/
def closeBlocks (l : Lexer) (column : Int) : Lexer :=
  if l.inFlow then l
  else
    let rec go (indent : Int) (queue : List Token) : List Int → Int × List Int × List Token
      | [] => (indent, [], queue)
      | outer :: rest =>
        if column < indent then go outer (queue ++ [⟨.blockEnd, l.place, l.place⟩]) rest
        else (indent, outer :: rest, queue)
    let (indent, indents, queue) := go l.indent l.queue l.indents
    { l with indent := indent, indents := indents, queue := queue }

/-! ## Single tokens -/

/-- Steps over blanks, comments and breaks, and over a byte order mark in front of a line. A tab is a
blank only where no key may begin. -/
def skipToToken (l : Lexer) : Nat → Lexer
  | 0 => l
  | fuel + 1 =>
    let tabs := l.inFlow || !l.keyAllowed
    let s := if l.place.column == 0 && l.source.looksAt '\uFEFF' then l.source.skip 1 else l.source
    let s := s.skipWhile fun c ↦ c == ' ' || (tabs && c == '\t')
    let s := if s.looksAt '#' then s.skipWhile fun c ↦ !isBreak c else s
    match s.readBreak with
    | some (_, next) =>
      skipToToken { l with source := next, keyAllowed := l.keyAllowed || !l.inFlow } fuel
    | none => { l with source := s }

/-- A token of `count` characters. -/
def mark (l : Lexer) (kind : TokenKind) (count : Nat) : Lexer :=
  push { l with source := l.source.skip count } kind l.place

def readStreamEnd (l : Lexer) : Except Failure Lexer := do
  let p := l.place
  let p := if p.column = 0 then p else ⟨p.index, p.line + 1, 0⟩
  let l := closeBlocks { l with source := { l.source with place := p } } (-1)
  let l ← l.removeKey
  .ok { l.push .streamEnd p with keyAllowed := false, ended := true }

def readDocumentMark (l : Lexer) (kind : TokenKind) : Except Failure Lexer := do
  let l ← (l.closeBlocks (-1)).removeKey
  .ok ({ l with keyAllowed := false }.mark kind 3)

def readDirectiveLine (l : Lexer) : Except Failure Lexer := do
  let l ← (l.closeBlocks (-1)).removeKey
  let (directive, s) ← readDirective l.source
  .ok (push { l with source := s, keyAllowed := false } (.directive directive) l.place)

def openBracket (l : Lexer) (kind : TokenKind) : Except Failure Lexer := do
  let l ← l.saveKey
  .ok ({ l with brackets := none :: l.brackets, keyAllowed := true }.mark kind 1)

def closeBracket (l : Lexer) (kind : TokenKind) : Except Failure Lexer := do
  let l ← l.removeKey
  .ok ({ l with brackets := l.brackets.tail, keyAllowed := false }.mark kind 1)

def readFlowEntry (l : Lexer) : Except Failure Lexer := do
  let l ← l.removeKey
  .ok ({ l with keyAllowed := true }.mark .flowEntry 1)

def readBlockEntry (l : Lexer) : Except Failure Lexer := do
  if !l.inFlow && !l.keyAllowed then l.fail .blockEntryNotAllowed
  else
    let l ← (l.openBlock l.place.column .blockSequenceStart l.place).removeKey
    .ok ({ l with keyAllowed := true }.mark .blockEntry 1)

def readKey (l : Lexer) : Except Failure Lexer := do
  if !l.inFlow && !l.keyAllowed then l.fail .keyNotAllowed
  else
    let l ← (l.openBlock l.place.column .blockMappingStart l.place).removeKey
    .ok ({ l with keyAllowed := !l.inFlow }.mark .key 1)

/-- A colon: what began as a possible key is one now. -/
def readValue (l : Lexer) : Except Failure Lexer :=
  match l.currentKey with
  | some k =>
    let l := l.insertAt k.position ⟨.key, k.place, k.place⟩
    let l := l.openBlock k.place.column .blockMappingStart k.place (some k.position)
    .ok ({ l.setKey none with keyAllowed := false }.mark .value 1)
  | none =>
    if !l.inFlow && !l.keyAllowed then l.fail .valueNotAllowed
    else
      let l := l.openBlock l.place.column .blockMappingStart l.place
      .ok ({ l with keyAllowed := !l.inFlow }.mark .value 1)

/-- The name behind `&` or `*`. -/
def readName (l : Lexer) (activity : Activity) (kind : String → TokenKind) :
    Except Failure Lexer := do
  let l ← l.saveKey
  let (name, s) := (l.source.skip 1).span isNameChar
  let ended := endsRun s.peek || s.peek.any fun c ↦
    c == '?' || c == ':' || c == ',' || c == ']' || c == '}' || c == '%' || c == '@' || c == '\x60'
  if name.isEmpty || !ended then s.fail .expectedName (some (activity, l.place))
  else .ok (push { l with source := s, keyAllowed := false } (kind (String.ofList name)) l.place)

def readTag (l : Lexer) : Except Failure Lexer := do
  let l ← l.saveKey
  let (tag, s) ← readWrittenTag l.inFlow l.source
  .ok (push { l with source := s, keyAllowed := false } (.tag tag) l.place)

def readBlockScalar (l : Lexer) (literal : Bool) : Except Failure Lexer := do
  let l ← l.removeKey
  let (text, stop, s) ← readBlock literal l.indent l.source
  let token : Token := ⟨.scalar (String.ofList text) false, l.place, stop⟩
  .ok { l with source := s, keyAllowed := true, queue := l.queue ++ [token] }

def readQuotedScalar (l : Lexer) (single : Bool) : Except Failure Lexer := do
  let l ← l.saveKey
  let (text, s) ← readQuoted single l.source
  .ok (push { l with source := s, keyAllowed := false } (.scalar (String.ofList text) false) l.place)

def readPlainScalar (l : Lexer) : Except Failure Lexer := do
  let l ← l.saveKey
  let (scalar, s) ← readPlain l.inFlow (l.indent + 1).toNat l.source
  let token : Token := ⟨.scalar (String.ofList scalar.text) true, l.place, scalar.stop⟩
  .ok { l with source := s, keyAllowed := scalar.broken, queue := l.queue ++ [token] }

/-! ## The next token -/

def isIndicator (c : Char) : Bool :=
  "-?:,[]\x7b\x7d#&*!|>'\"%@\x60".toList.contains c

/-- Whether a plain scalar begins here. -/
def startsPlain (l : Lexer) (c : Char) (next : Option Char) : Bool :=
  !(isIndicator c || isGap c) || (c == '-' && !next.any isGap) ||
    (!l.inFlow && (c == '?' || c == ':') && !endsRun next)

def readToken (l : Lexer) : Except Failure Lexer := do
  let l := l.skipToToken (l.source.length + 1)
  let l ← l.dropStaleKeys
  let l := l.closeBlocks l.place.column
  let s := l.source
  match s.peek with
  | none => l.readStreamEnd
  | some c =>
    let next := s.peekAt 1
    if c == '%' && s.place.column == 0 then l.readDirectiveLine
    else if s.atDocumentMark '-' then l.readDocumentMark .documentStart
    else if s.atDocumentMark '.' then l.readDocumentMark .documentEnd
    else if c == '[' then l.openBracket .flowSequenceStart
    else if c == '{' then l.openBracket .flowMappingStart
    else if c == ']' then l.closeBracket .flowSequenceEnd
    else if c == '}' then l.closeBracket .flowMappingEnd
    else if c == ',' then l.readFlowEntry
    else if c == '-' && endsRun next then l.readBlockEntry
    else if c == '?' && (l.inFlow || endsRun next) then l.readKey
    else if c == ':' && (l.inFlow || endsRun next) then l.readValue
    else if c == '*' then l.readName .alias .alias
    else if c == '&' then l.readName .anchor .anchor
    else if c == '!' then l.readTag
    else if c == '|' && !l.inFlow then l.readBlockScalar true
    else if c == '>' && !l.inFlow then l.readBlockScalar false
    else if c == '\'' then l.readQuotedScalar true
    else if c == '"' then l.readQuotedScalar false
    else if l.startsPlain c next then l.readPlainScalar
    else l.fail .unknownStart (some (.nextToken, l.place))

/-- Reads a token that ends in front of the cut. -/
def readUncut (l : Lexer) : Except Failure Lexer :=
  match l.cut, l.readToken with
  | none, result => result
  | some (stop, failure), .ok next =>
    if stop ≤ next.place.index then .error failure else .ok next
  | some (stop, failure), .error other =>
    .error (if stop ≤ other.place.index then failure else other)

/-- Whether the first token of the queue may still become a key. -/
def headMayBeKey (l : Lexer) : Bool :=
  (l.outer :: l.brackets).any fun key ↦ key.any (·.position == l.taken)

/-- Reads tokens until the first one of the queue is settled. -/
def settle (l : Lexer) : Nat → Except Failure Lexer
  | 0 => .ok l
  | fuel + 1 =>
    if l.queue.isEmpty then do
      if l.ended then .ok l else settle (← l.readUncut) fuel
    else do
      let l ← l.dropStaleKeys
      if l.headMayBeKey then settle (← l.readUncut) fuel else .ok l

/-- The next token, which stays in the queue; behind the end there is only the end. -/
def peek (l : Lexer) : Except Failure (Token × Lexer) := do
  let l ← l.settle (l.source.length + 2)
  match l.queue with
  | token :: _ => .ok (token, l)
  | [] => .ok (⟨.streamEnd, l.place, l.place⟩, l)

def advance (l : Lexer) : Lexer :=
  { l with queue := l.queue.tail, taken := l.taken + 1 }

end Lexer

end SourceGen.Yaml
