import SourceGen.OrderedMap
import SourceGen.Yaml.Token

/-!
# YAML events

The tokens of a text as the beginnings, ends and scalars of its documents. `Walk.step` gives one event
at a time; what the walk expects next and what it returns to are the grammar's positions. A document
holds the events up to its end or up to the fault that cut it off.
-/

namespace SourceGen.Yaml

/-- What a node carries besides its content. -/
structure Properties where
  anchor : Option String := none
  tag : Option Tag := none
deriving Repr

inductive Event where
  | alias (name : String)
  | scalar (text : String) (plain : Bool) (properties : Properties)
  | sequenceStart (properties : Properties)
  | sequenceEnd
  | mappingStart (properties : Properties)
  | mappingEnd
  | documentStart
  | documentEnd
  | streamEnd
deriving Repr

def Event.empty : Event := .scalar "" true {}

/-- What the walk expects next. -/
inductive Expected where
  | documentStart (first : Bool)
  | documentContent
  | documentEnd
  | blockNode
  | sequenceEntry
  | dashEntry
  | mappingKey
  | mappingValue
  | flowEntry (first : Bool)
  | pairKey
  | pairValue
  | pairEnd
  | flowKey (first : Bool)
  | flowValue
  | flowEmptyValue
  | nothing
deriving Repr

structure Walk where
  lexer : Lexer
  expected : Expected
  /-- What is expected after the enclosing nodes, innermost first. -/
  outer : List Expected
  /-- Where the open collections began, innermost first. -/
  begun : List Place
  /-- What the directives of the document say about handles. -/
  handles : Handles

namespace Walk

def start (text : Readable) : Walk := ⟨Lexer.start text, .documentStart true, [], [], []⟩

/-- One step's outcome: the event, its place, and the walk behind it. -/
abbrev Step := Except Failure (Event × Place × Walk)

def peek (w : Walk) : Except Failure (Token × Walk) := do
  let (token, lexer) ← w.lexer.peek
  .ok (token, { w with lexer := lexer })

def advance (w : Walk) : Walk := { w with lexer := w.lexer.advance }

def expect (w : Walk) (expected : Expected) : Walk := { w with expected := expected }

def later (w : Walk) (expected : Expected) : Walk := { w with outer := expected :: w.outer }

/-- Goes back to what the enclosing node expects. -/
def resume (w : Walk) : Walk :=
  { w with expected := w.outer.head?.getD .nothing, outer := w.outer.tail }

def open_ (w : Walk) (at_ : Place) : Walk := { w with begun := at_ :: w.begun }

def close (w : Walk) : Walk := { w.resume with begun := w.begun.tail }

def failAt (token : Token) (fault : Fault) (during : Option (Activity × Place)) : Step :=
  .error ⟨fault, token.start, during⟩

/-- A collection that goes on with the wrong token. -/
def failInside (w : Walk) (token : Token) (fault : Fault) (activity : Activity) : Step :=
  failAt token fault (some (activity, w.begun.head?.getD .start))

def empty (w : Walk) (expected : Expected) (at_ : Place) : Step :=
  .ok (Event.empty, at_, w.expect expected)

/-! ## Documents -/

/-- Takes in the directives in front of a document; `versioned` says that one has given the version. -/
def readDirectives (w : Walk) (versioned : Bool) : Nat → Except Failure (Token × Walk)
  | 0 => w.peek
  | fuel + 1 => do
    let (token, w) ← w.peek
    match token.kind with
    | .directive (.version major minor) =>
      if versioned then .error ⟨.repeatedVersion, token.start, none⟩
      else if major = 1 && (minor = 1 || minor = 2) then readDirectives w.advance true fuel
      else .error ⟨.incompatibleVersion, token.start, none⟩
    | .directive (.handle name front) =>
      if (w.handles.lookup name).isSome then .error ⟨.repeatedHandle, token.start, none⟩
      else
        readDirectives { w.advance with handles := w.handles ++ [(name, front)] } versioned fuel
    | _ => .ok (token, w)

def skipDocumentEnds (w : Walk) : Nat → Except Failure (Token × Walk)
  | 0 => w.peek
  | fuel + 1 => do
    let (token, w) ← w.peek
    match token.kind with
    | .documentEnd => skipDocumentEnds w.advance fuel
    | _ => .ok (token, w)

def stepDocumentStart (w : Walk) (first : Bool) : Step := do
  let fuel := w.lexer.source.length + 2
  let (token, w) ← if first then w.peek else w.skipDocumentEnds fuel
  match token.kind with
  | .streamEnd => .ok (.streamEnd, token.start, (w.advance).expect .nothing)
  | .directive _ | .documentStart =>
    let (marker, w) ← w.readDirectives false fuel
    match marker.kind with
    | .documentStart =>
      .ok (.documentStart, token.start, ((w.later .documentEnd).expect .documentContent).advance)
    | _ => failAt marker .expectedDocumentStart none
  | _ =>
    if first then .ok (.documentStart, token.start, (w.later .documentEnd).expect .blockNode)
    else failAt token .expectedDocumentStart none

def stepDocumentEnd (w : Walk) : Step := do
  let (token, w) ← w.peek
  let w := match token.kind with
    | .documentEnd => w.advance
    | _ => w
  .ok (.documentEnd, token.start, { w with handles := [] }.expect (.documentStart false))

/-! ## Nodes -/

/-- The anchor and the tag in front of a node, in either order, the tag with its place. -/
def readProperties (w : Walk) :
    Except Failure (Option String × Option (WrittenTag × Place) × Walk) := do
  let (token, w) ← w.peek
  match token.kind with
  | .anchor name =>
    let (next, w) ← w.advance.peek
    match next.kind with
    | .tag tag => .ok (some name, some (tag, next.start), w.advance)
    | _ => .ok (some name, none, w)
  | .tag tag =>
    let (next, w) ← w.advance.peek
    match next.kind with
    | .anchor name => .ok (some name, some (tag, token.start), w.advance)
    | _ => .ok (none, some (tag, token.start), w)
  | _ => .ok (none, none, w)

/-- The tag of a node that begins at `begun`. -/
def resolveTag (w : Walk) (begun : Place) : Option (WrittenTag × Place) → Except Failure (Option Tag)
  | none => .ok none
  | some (written, place) =>
    match written.resolve? w.handles with
    | some tag => .ok (some tag)
    | none => .error ⟨.unknownHandle, place, some (.node, begun)⟩

/-- A node; `block` allows indented collections and `dashes` a sequence that is indented no deeper than
the key in front of it. -/
def stepNode (w : Walk) (block dashes : Bool) : Step := do
  let (head, w) ← w.peek
  match head.kind with
  | .alias name => .ok (.alias name, head.start, w.resume.advance)
  | _ =>
    let (anchor, written, w) ← w.readProperties
    let (token, w) ← w.peek
    let tag ← w.resolveTag head.start written
    let properties : Properties := ⟨anchor, tag⟩
    match token.kind, block, dashes with
    | .blockEntry, _, true => .ok (.sequenceStart properties, head.start, w.expect .dashEntry)
    | .scalar text plain, _, _ =>
      .ok (.scalar text plain properties, head.start, w.resume.advance)
    | .flowSequenceStart, _, _ =>
      .ok (.sequenceStart properties, head.start,
        ((w.open_ token.start).expect (.flowEntry true)).advance)
    | .flowMappingStart, _, _ =>
      .ok (.mappingStart properties, head.start,
        ((w.open_ token.start).expect (.flowKey true)).advance)
    | .blockSequenceStart, true, _ =>
      .ok (.sequenceStart properties, head.start,
        ((w.open_ token.start).expect .sequenceEntry).advance)
    | .blockMappingStart, true, _ =>
      .ok (.mappingStart properties, head.start,
        ((w.open_ token.start).expect .mappingKey).advance)
    | _, _, _ =>
      if anchor.isSome || tag.isSome then
        .ok (.scalar "" true properties, head.start, w.resume)
      else
        failAt token .expectedContent
          (some (if block then .blockNode else .flowNode, head.start))

def stepDocumentContent (w : Walk) : Step := do
  let (token, w) ← w.peek
  match token.kind with
  | .directive _ | .documentStart | .documentEnd | .streamEnd =>
    .ok (Event.empty, token.start, w.resume)
  | _ => w.stepNode true false

/-! ## Block collections -/

def stepSequenceEntry (w : Walk) : Step := do
  let (token, w) ← w.peek
  match token.kind with
  | .blockEntry =>
    let (next, w) ← w.advance.peek
    match next.kind with
    | .blockEntry | .blockEnd => w.empty .sequenceEntry token.stop
    | _ => (w.later .sequenceEntry).stepNode true false
  | .blockEnd => .ok (.sequenceEnd, token.start, w.close.advance)
  | _ => w.failInside token .expectedDash .blockSequence

def stepDashEntry (w : Walk) : Step := do
  let (token, w) ← w.peek
  match token.kind with
  | .blockEntry =>
    let (next, w) ← w.advance.peek
    match next.kind with
    | .blockEntry | .key | .value | .blockEnd => w.empty .dashEntry token.stop
    | _ => (w.later .dashEntry).stepNode true false
  | _ => .ok (.sequenceEnd, token.start, w.resume)

def stepMappingKey (w : Walk) : Step := do
  let (token, w) ← w.peek
  match token.kind with
  | .key =>
    let (next, w) ← w.advance.peek
    match next.kind with
    | .key | .value | .blockEnd => w.empty .mappingValue token.stop
    | _ => (w.later .mappingValue).stepNode true true
  | .blockEnd => .ok (.mappingEnd, token.start, w.close.advance)
  | _ => w.failInside token .expectedKey .blockMapping

def stepMappingValue (w : Walk) : Step := do
  let (token, w) ← w.peek
  match token.kind with
  | .value =>
    let (next, w) ← w.advance.peek
    match next.kind with
    | .key | .value | .blockEnd => w.empty .mappingKey token.stop
    | _ => (w.later .mappingKey).stepNode true true
  | _ => w.empty .mappingKey token.start

/-! ## Flow collections -/

/-- Steps over the comma in front of every entry but the first. -/
def skipComma (w : Walk) (first : Bool) (fault : Fault) (activity : Activity) :
    Except Failure (Token × Walk) := do
  let (token, w) ← w.peek
  if first then .ok (token, w)
  else
    match token.kind with
    | .flowEntry => w.advance.peek
    | _ => .error ⟨fault, token.start, some (activity, w.begun.head?.getD .start)⟩

def stepFlowEntry (w : Walk) (first : Bool) : Step := do
  let (token, w) ← w.peek
  match token.kind with
  | .flowSequenceEnd => .ok (.sequenceEnd, token.start, w.close.advance)
  | _ =>
    let (token, w) ← w.skipComma first .expectedSequenceEnd .flowSequence
    match token.kind with
    | .flowSequenceEnd => .ok (.sequenceEnd, token.start, w.close.advance)
    | .key => .ok (.mappingStart {}, token.start, (w.expect .pairKey).advance)
    | _ => (w.later (.flowEntry false)).stepNode false false

def stepPairKey (w : Walk) : Step := do
  let (token, w) ← w.peek
  match token.kind with
  | .value | .flowEntry | .flowSequenceEnd => w.advance.empty .pairValue token.stop
  | _ => (w.later .pairValue).stepNode false false

def stepPairValue (w : Walk) : Step := do
  let (token, w) ← w.peek
  match token.kind with
  | .value =>
    let (next, w) ← w.advance.peek
    match next.kind with
    | .flowEntry | .flowSequenceEnd => w.empty .pairEnd next.start
    | _ => (w.later .pairEnd).stepNode false false
  | _ => w.empty .pairEnd token.start

def stepPairEnd (w : Walk) : Step := do
  let (token, w) ← w.peek
  .ok (.mappingEnd, token.start, w.expect (.flowEntry false))

def stepFlowKey (w : Walk) (first : Bool) : Step := do
  let (token, w) ← w.peek
  match token.kind with
  | .flowMappingEnd => .ok (.mappingEnd, token.start, w.close.advance)
  | _ =>
    let (token, w) ← w.skipComma first .expectedMappingEnd .flowMapping
    match token.kind with
    | .flowMappingEnd => .ok (.mappingEnd, token.start, w.close.advance)
    | .key =>
      let (next, w) ← w.advance.peek
      match next.kind with
      | .value | .flowEntry | .flowMappingEnd => w.empty .flowValue next.start
      | _ => (w.later .flowValue).stepNode false false
    | _ => (w.later .flowEmptyValue).stepNode false false

def stepFlowValue (w : Walk) : Step := do
  let (token, w) ← w.peek
  match token.kind with
  | .value =>
    let (next, w) ← w.advance.peek
    match next.kind with
    | .flowEntry | .flowMappingEnd => w.empty (.flowKey false) next.start
    | _ => (w.later (.flowKey false)).stepNode false false
  | _ => w.empty (.flowKey false) token.start

def stepFlowEmptyValue (w : Walk) : Step := do
  let (token, w) ← w.peek
  w.empty (.flowKey false) token.start

def step (w : Walk) : Step :=
  match w.expected with
  | .documentStart first => w.stepDocumentStart first
  | .documentContent => w.stepDocumentContent
  | .documentEnd => w.stepDocumentEnd
  | .blockNode => w.stepNode true false
  | .sequenceEntry => w.stepSequenceEntry
  | .dashEntry => w.stepDashEntry
  | .mappingKey => w.stepMappingKey
  | .mappingValue => w.stepMappingValue
  | .flowEntry first => w.stepFlowEntry first
  | .pairKey => w.stepPairKey
  | .pairValue => w.stepPairValue
  | .pairEnd => w.stepPairEnd
  | .flowKey first => w.stepFlowKey first
  | .flowValue => w.stepFlowValue
  | .flowEmptyValue => w.stepFlowEmptyValue
  | .nothing => .ok (.streamEnd, w.lexer.place, w)

end Walk

/-- Why a document was cut off. -/
inductive Cutoff where
  | malformed (failure : Failure)
  | unknownAnchor (place : Place)
deriving Repr

/-- The events of one document. An alias is known by its position and an anchored node by its number;
an alias stands for the last node of its number. -/
structure Document where
  events : Array (Event × Place)
  aliases : List (Nat × Nat)
  nodes : List (Nat × Nat)
  cutoff : Option Cutoff

def Document.empty : Document := ⟨#[], [], [], none⟩

/-- The position of the node that the alias at a position stands for. -/
def Document.target? (doc : Document) (position : Nat) : Option Nat := do
  doc.nodes.lookup (← doc.aliases.lookup position)

def Document.add (doc : Document) (event : Event) (place : Place) : Document :=
  { doc with events := doc.events.push (event, place) }

/-- Numbers the node that comes next, if it has an anchor, by how many names are known before it. -/
def Document.name (doc : Document) (anchors : Entries Nat) (properties : Properties) :
    Entries Nat × Document :=
  match properties.anchor with
  | some name =>
    let number := anchors.length
    (anchors.put name number, { doc with nodes := (number, doc.events.size) :: doc.nodes })
  | none => (anchors, doc)

/-- The document that begins here: `none` at the end of the text. -/
def Walk.document (w : Walk) (anchors : Entries Nat) (doc : Document) (begun : Bool) :
    Nat → Option Document × Walk
  | 0 => (some doc, w)
  | fuel + 1 =>
    match w.step with
    | .error failure => (some { doc with cutoff := some (.malformed failure) }, w)
    | .ok (event, place, next) =>
      match event with
      | .streamEnd => (if begun then some doc else none, next)
      | .documentStart => Walk.document next anchors doc true fuel
      | .documentEnd => (some doc, next)
      | .alias name =>
        match anchors.get? name with
        | some number =>
          let doc := { doc with aliases := (doc.events.size, number) :: doc.aliases }
          Walk.document next anchors (doc.add event place) begun fuel
        | none => (some { doc with cutoff := some (.unknownAnchor place) }, next)
      | .scalar _ _ properties | .sequenceStart properties | .mappingStart properties =>
        let (anchors, doc) := doc.name anchors properties
        Walk.document next anchors (doc.add event place) begun fuel
      | .sequenceEnd | .mappingEnd =>
        Walk.document next anchors (doc.add event place) begun fuel

end SourceGen.Yaml
