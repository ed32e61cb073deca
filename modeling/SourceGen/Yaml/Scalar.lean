import SourceGen.Yaml.Source

/-!
# YAML scalars

The readers of plain, quoted and block scalars. A break between two lines of a plain, quoted or folded
scalar reads as a blank, and further breaks read as themselves; a literal scalar keeps all of them.
-/

namespace SourceGen.Yaml

/-- The blanks and breaks between two runs of visible characters. -/
structure Gap where
  blanks : List Char := []
  first : Option Char := none
  more : List Char := []
  broken : Bool := false

/-- What a gap reads as. -/
def Gap.fold (g : Gap) : List Char :=
  if g.broken then
    match g.first with
    | some '\n' => if g.more.isEmpty then [' '] else g.more
    | some c => c :: g.more
    | none => g.more
  else g.blanks

/-- Reads a gap to its end. With `indent`, a tab left of that column on a new line is a fault. -/
def readGap (indent : Option Nat) (begun : Place) (g : Gap) :
    Nat → Source → Except Failure (Gap × Source)
  | 0, s => .ok (g, s)
  | fuel + 1, s =>
    match s.readBreak with
    | some (c, next) =>
      if g.broken then readGap indent begun { g with more := g.more ++ [c] } fuel next
      else readGap indent begun { g with blanks := [], first := some c, broken := true } fuel next
    | none =>
      match s.peek with
      | some c =>
        if isGap c then
          if g.broken then
            if c == '\t' && indent.any (s.place.column < ·) then
              s.fail .tabInIndent (some (.plainScalar, begun))
            else readGap indent begun g fuel (s.skip 1)
          else readGap indent begun { g with blanks := g.blanks ++ [c] } fuel (s.skip 1)
        else .ok (g, s)
      | none => .ok (g, s)

/-! ## Plain scalars -/

structure PlainScalar where
  text : List Char
  stop : Place
  /-- The scalar was left on a new line. -/
  broken : Bool

def isFlowIndicator (c : Char) : Bool :=
  c == ',' || c == '[' || c == ']' || c == '{' || c == '}'

/-- The visible characters up to an indicator that ends a plain scalar; what is already read stands in
`run`, last character first. -/
def plainRun (flow : Bool) (begun : Place) (run : List Char) :
    Nat → Source → Except Failure (List Char × Source)
  | 0, s => .ok (run.reverse, s)
  | fuel + 1, s =>
    match s.peek with
    | none => .ok (run.reverse, s)
    | some c =>
      if isGap c || isBreak c then .ok (run.reverse, s)
      else if flow && c == ':' && (s.peekAt 1).any (fun d ↦ isFlowIndicator d || d == '?') then
        s.fail .unexpectedColon (some (.plainScalar, begun))
      else if c == ':' && endsRun (s.peekAt 1) then .ok (run.reverse, s)
      else if flow && isFlowIndicator c then .ok (run.reverse, s)
      else plainRun flow begun (c :: run) fuel (s.skip 1)

def readPlainFrom (flow : Bool) (indent : Nat) (begun : Place) (text : List Char) (stop : Place)
    (gap : Gap) : Nat → Source → Except Failure (PlainScalar × Source)
  | 0, s => .ok (⟨text, stop, gap.broken⟩, s)
  | fuel + 1, s =>
    if s.atAnyDocumentMark || s.looksAt '#' then .ok (⟨text, stop, gap.broken⟩, s)
    else do
      let (run, s) ← plainRun flow begun [] s.length s
      let (text, stop, gap) :=
        if run.isEmpty then (text, stop, gap) else (text ++ gap.fold ++ run, s.place, ({} : Gap))
      if s.peek.any (fun c ↦ isGap c || isBreak c) then
        let (gap, s) ← readGap (some indent) begun gap s.length s
        if !flow && s.place.column < indent then .ok (⟨text, stop, gap.broken⟩, s)
        else readPlainFrom flow indent begun text stop gap fuel s
      else .ok (⟨text, stop, gap.broken⟩, s)

/-- A plain scalar inside brackets or, outside of them, indented at least `indent` columns. -/
def readPlain (flow : Bool) (indent : Nat) (s : Source) : Except Failure (PlainScalar × Source) :=
  readPlainFrom flow indent s.place [] s.place {} (s.length + 1) s

/-! ## Quoted scalars -/

def escapedChar? (c : Char) : Option Char :=
  match c with
  | '0' => some (Char.ofNat 0)
  | 'a' => some (Char.ofNat 7)
  | 'b' => some (Char.ofNat 8)
  | 't' | '\t' => some '\t'
  | 'n' => some '\n'
  | 'v' => some (Char.ofNat 11)
  | 'f' => some (Char.ofNat 12)
  | 'r' => some '\r'
  | 'e' => some (Char.ofNat 27)
  | ' ' => some ' '
  | '"' => some '"'
  | '/' => some '/'
  | '\\' => some '\\'
  | 'N' => some '\u0085'
  | '_' => some '\u00A0'
  | 'L' => some '\u2028'
  | 'P' => some '\u2029'
  | _ => none

def hexLength? (c : Char) : Option Nat :=
  match c with
  | 'x' => some 2
  | 'u' => some 4
  | 'U' => some 8
  | _ => none

def hexValue? (c : Char) : Option Nat :=
  if '0' ≤ c && c ≤ '9' then some (c.toNat - 48)
  else if 'a' ≤ c && c ≤ 'f' then some (c.toNat - 87)
  else if 'A' ≤ c && c ≤ 'F' then some (c.toNat - 55)
  else none

/-- The character of the escape that starts at a backslash. -/
def readEscape (begun : Place) (s : Source) : Except Failure (Char × Source) :=
  match s.peekAt 1 with
  | none => s.fail .unknownEscape (some (.escape, begun))
  | some c =>
    match escapedChar? c, hexLength? c with
    | some value, _ => .ok (value, s.skip 2)
    | none, none => s.fail .unknownEscape (some (.escape, begun))
    | none, some length =>
      let s := s.skip 2
      match (s.rest.take length).mapM hexValue? with
      | none => s.fail .expectedHex (some (.escape, begun))
      | some digits =>
        let value := digits.foldl (fun n d ↦ n * 16 + d) 0
        if digits.length < length then s.fail .expectedHex (some (.escape, begun))
        else if (0xD800 ≤ value && value ≤ 0xDFFF) || 0x10FFFF < value then
          s.fail .invalidEscapeCode (some (.escape, begun))
        else .ok (Char.ofNat value, s.skip length)

/-- The characters of a quoted scalar up to a blank, a break or its closing quote; the flag says that
the run ended with an escaped break. What is already read stands in `run`, last character first. -/
def quotedRun (single : Bool) (begun : Place) (run : List Char) :
    Nat → Source → Except Failure (List Char × Bool × Source)
  | 0, s => .ok (run.reverse, false, s)
  | fuel + 1, s =>
    match s.peek with
    | none => .ok (run.reverse, false, s)
    | some c =>
      if isGap c || isBreak c then .ok (run.reverse, false, s)
      else if single then
        if c == '\'' then
          if s.peekAt 1 == some '\'' then quotedRun single begun ('\'' :: run) fuel (s.skip 2)
          else .ok (run.reverse, false, s)
        else quotedRun single begun (c :: run) fuel (s.skip 1)
      else if c == '"' then .ok (run.reverse, false, s)
      else if c == '\\' then
        match (s.skip 1).readBreak with
        | some (_, next) => .ok (run.reverse, true, next)
        | none => do
          let (value, s) ← readEscape begun s
          quotedRun single begun (value :: run) fuel s
      else quotedRun single begun (c :: run) fuel (s.skip 1)

def readQuotedFrom (single : Bool) (begun : Place) (text : List Char) :
    Nat → Source → Except Failure (List Char × Source)
  | 0, s => s.fail .endOfText (some (.quotedScalar, begun))
  | fuel + 1, s =>
    if s.atAnyDocumentMark then s.fail .documentMark (some (.quotedScalar, begun))
    else if s.rest.isEmpty then s.fail .endOfText (some (.quotedScalar, begun))
    else do
      let (run, escaped, s) ← quotedRun single begun [] s.length s
      if s.looksAt (if single then '\'' else '"') then .ok (text ++ run, s.skip 1)
      else
        let (gap, s) ← readGap none begun { broken := escaped } s.length s
        readQuotedFrom single begun (text ++ run ++ gap.fold) fuel s

/-- A quoted scalar from its opening quote on. -/
def readQuoted (single : Bool) (s : Source) : Except Failure (List Char × Source) :=
  readQuotedFrom single s.place [] (s.length + 1) (s.skip 1)

/-! ## Block scalars -/

/-- Which of the breaks at the end of a block scalar stay. -/
inductive Chomp where
  | strip
  | clip
  | keep
deriving DecidableEq, Repr

structure BlockHeader where
  chomp : Chomp
  increment : Option Nat

def chomp? (c : Option Char) : Option Chomp :=
  match c with
  | some '+' => some .keep
  | some '-' => some .strip
  | _ => none

def readIncrement (begun : Place) (s : Source) : Except Failure (Option Nat × Source) :=
  match s.peek with
  | some c =>
    if c == '0' then s.fail .zeroIndent (some (.blockScalar, begun))
    else if c.isDigit then .ok (some (c.toNat - 48), s.skip 1)
    else .ok (none, s)
  | none => .ok (none, s)

/-- The indicators behind `|` or `>`, in either order. -/
def readBlockHeader (begun : Place) (s : Source) : Except Failure (BlockHeader × Source) := do
  match chomp? s.peek with
  | some chomp =>
    let (increment, s) ← readIncrement begun (s.skip 1)
    .ok (⟨chomp, increment⟩, s)
  | none =>
    let (increment, s) ← readIncrement begun s
    match increment, chomp? s.peek with
    | some _, some chomp => .ok (⟨chomp, increment⟩, s.skip 1)
    | _, _ => .ok (⟨.clip, increment⟩, s)

/-- The indentation and empty lines in front of a line of content: the breaks, the greatest column
reached and the end of the last empty line. -/
def readEmptyLines (indent : Option Nat) (begun : Place) (breaks : List Char) (widest : Nat)
    (stop : Place) : Nat → Source → Except Failure (List Char × Nat × Place × Source)
  | 0, s => .ok (breaks, widest, stop, s)
  | fuel + 1, s =>
    let spaces := (s.rest.takeWhile (· == ' ')).length
    let s := match indent with
      | none => s.skip spaces
      | some indent => s.skip (min spaces (indent - s.place.column))
    let widest := max widest s.place.column
    let within := indent.all fun indent ↦ s.place.column < indent
    if within && s.looksAt '\t' then s.fail .tabInsteadOfSpace (some (.blockScalar, begun))
    else
      match s.readBreak with
      | some (c, s) => readEmptyLines indent begun (breaks ++ [c]) widest s.place fuel s
      | none => .ok (breaks, widest, stop, s)

structure BlockText where
  text : List Char := []
  first : List Char := []
  more : List Char := []
  indented : Bool := false

/-- The breaks in front of a line of content; one break between two lines that start at the indent
folds into a blank. -/
def BlockText.joint (b : BlockText) (literal indented : Bool) : List Char :=
  if !literal && b.first == ['\n'] && !b.indented && !indented then
    if b.more.isEmpty then [' '] else b.more
  else b.first ++ b.more

def readBlockLines (literal : Bool) (indent : Nat) (begun : Place) (b : BlockText) (stop : Place) :
    Nat → Source → Except Failure (BlockText × Place × Source)
  | 0, s => .ok (b, stop, s)
  | fuel + 1, s =>
    if s.place.column != indent || s.rest.isEmpty then .ok (b, stop, s)
    else do
      let indented := s.peek.any isGap
      let joint := b.joint literal indented
      let (line, s) := s.span fun c ↦ !isBreak c
      let (first, s) := match s.readBreak with
        | some (c, s) => ([c], s)
        | none => ([], s)
      let (more, _, stop, s) ← readEmptyLines (some indent) begun [] 0 s.place s.length s
      readBlockLines literal indent begun
        { text := b.text ++ joint ++ line, first := first, more := more, indented := indented }
        stop fuel s

/-- A block scalar from its indicator on; `parent` is the indentation of the block it stands in, `-1`
outside every block. -/
def readBlock (literal : Bool) (parent : Int) (s : Source) :
    Except Failure (List Char × Place × Source) := do
  let begun := s.place
  let (header, s) ← readBlockHeader begun (s.skip 1)
  let s := s.skipWhile isGap
  let s := if s.looksAt '#' then s.skipWhile fun c ↦ !isBreak c else s
  if !s.rest.isEmpty && s.readBreak.isNone then
    s.fail .expectedLineBreak (some (.blockScalar, begun))
  else
    let s := match s.readBreak with
      | some (_, s) => s
      | none => s
    let given := header.increment.map fun n ↦ (max parent 0).toNat + n
    let (more, widest, stop, s) ← readEmptyLines given begun [] 0 s.place (s.length + 1) s
    let indent := given.getD (max widest (max (parent + 1) 1).toNat)
    let (b, stop, s) ← readBlockLines literal indent begun { more := more } stop
      (s.length + 1) s
    let tail := match header.chomp with
      | .strip => []
      | .clip => b.first
      | .keep => b.first ++ b.more
    .ok (b.text ++ tail, stop, s)

end SourceGen.Yaml
