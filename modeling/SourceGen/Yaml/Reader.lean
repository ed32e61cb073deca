import SourceGen.Text.Quoted
import SourceGen.Yaml.Event
import SourceGen.Yaml.Plain

/-!
# Reading a YAML document

`Yaml.read` turns the events of a text's only document into a value. An alias reads what its anchor
stands on once more. Keys are scalars, whatever they look like, and a repeated key keeps its first
position and takes its last value.
-/

namespace SourceGen.Yaml

inductive ReadFault where
  | cutoff (cutoff : Cutoff)
  | endOfText
  | severalDocuments
  | tooDeep (place : Place)
  | tooManyAliases
  | keyNotText (kind : String)
  | taggedNode
  | integerOutOfRange
  | notOfTag (text expected : String)
deriving Repr

/-- The keys and positions above a node; `none` for the root. -/
abbrev NodePath := Option String

namespace NodePath

def key (path : NodePath) (name : String) : NodePath :=
  match path with
  | none => some name
  | some path => some (path ++ "." ++ name)

def item (path : NodePath) (i : Nat) : NodePath :=
  some (path.getD "." ++ "[" ++ toString i ++ "]")

/-- What a message begins with. -/
def front (path : NodePath) : String :=
  match path with
  | none | some "." => ""
  | some path => path ++ ": "

end NodePath

structure ReadError where
  fault : ReadFault
  path : NodePath := none
  place : Option Place := none
deriving Repr

def atPlace (place : Place) : String :=
  if place.isLineStart then "" else " at " ++ place.text

def ReadError.message (e : ReadError) : String :=
  let located (text : String) : String :=
    e.path.front ++ text ++ (e.place.map atPlace).getD ""
  match e.fault with
  | .cutoff (.malformed failure) => failure.message
  | .cutoff (.unknownAnchor place) => "unknown anchor" ++ atPlace place
  | .endOfText => "EOF while parsing a value"
  | .severalDocuments =>
    "deserializing from YAML containing more than one document is not supported"
  | .tooDeep place => "recursion limit exceeded" ++ atPlace place
  | .tooManyAliases => "repetition limit exceeded"
  | .keyNotText kind => located ("invalid type: " ++ kind ++ ", expected a string key")
  | .taggedNode => located "invalid type: enum, expected any valid JSON value"
  | .integerOutOfRange => located "JSON number out of range"
  | .notOfTag text expected =>
    located ("invalid value: string " ++ Text.quoted text ++ ", expected " ++ expected)

/-- The place a message points at, if it points at one. -/
def ReadError.location (e : ReadError) : Option Place :=
  match e.fault with
  | .cutoff (.malformed failure) => some failure.place
  | .cutoff (.unknownAnchor place) => some place
  | .tooDeep place => some place
  | .endOfText | .severalDocuments | .tooManyAliases => none
  | _ => e.place

structure ReadState where
  position : Nat
  jumps : Nat

/-- A part of a document read at a position: the value and the position behind it. -/
abbrev NodeReader := NodePath → ReadState → Except ReadError (Value × ReadState)

namespace Document

/-- The event at a position; behind the last one stands what cut the document off. -/
def event (doc : Document) (position : Nat) : Except ReadError (Event × Place) :=
  match doc.events[position]? with
  | some event => .ok event
  | none =>
    match doc.cutoff with
    | some cutoff => .error { fault := .cutoff cutoff }
    | none => .error { fault := .endOfText }

/-- Follows an alias at the position; the second position is where reading goes on afterwards. -/
def follow (doc : Document) (s : ReadState) :
    Except ReadError (Event × Place × ReadState × Option Nat) := do
  let (event, place) ← doc.event s.position
  match event with
  | .alias _ =>
    let jumps := s.jumps + 1
    if doc.events.size * 100 < jumps then .error { fault := .tooManyAliases }
    else
      let target := (doc.target? s.position).getD 0
      let (event, place) ← doc.event target
      .ok (event, place, ⟨target, jumps⟩, some (s.position + 1))
  | _ => .ok (event, place, s, none)

def resumeAt (behind : Option Nat) (s : ReadState) : ReadState :=
  match behind with
  | some position => { s with position := position }
  | none => s

def ofPlainFault : PlainFault → ReadFault
  | .integerOutOfRange => .integerOutOfRange

/-- The tags of the standard names say how to read a scalar. Any other tag makes it a text, unless it is
marked as the writer's own and the scalar is plain. -/
def taggedValue (tag : Tag) (text : String) (plain : Bool) : Except ReadFault Value :=
  let wanted (value : Option Value) (expected : String) : Except ReadFault Value :=
    match value with
    | some value => .ok value
    | none => .error (.notOfTag text expected)
  if tag == .standard "bool" then wanted ((truth? text).map .bool) "a boolean"
  else if tag == .standard "int" then
    match integerValue? text with
    | some value => value.mapError ofPlainFault
    | none => .error (.notOfTag text "an integer")
  else if tag == .standard "float" then wanted (realValue? text) "a float"
  else if tag == .standard "null" then
    wanted (if isNull text && text != "" then some .null else none) "null"
  else if tag.isMarked && plain then (plainValue text).mapError ofPlainFault
  else .ok (.text text)

def scalarValue (text : String) (plain : Bool) (tag : Option Tag) : Except ReadFault Value :=
  match tag with
  | some tag => taggedValue tag text plain
  | none => if plain then (plainValue text).mapError ofPlainFault else .ok (.text text)

/-- A key is written out or an alias of one; the text in the path says which. -/
def keyName (behind : Option Nat) (text : String) : String :=
  if behind.isSome then "?" else text

/-- The key at a position and how the path names it. -/
def readKey (doc : Document) (path : NodePath) (s : ReadState) :
    Except ReadError (String × String × ReadState) := do
  let (event, place, target, behind) ← doc.follow s
  match event with
  | .scalar text _ _ =>
    .ok (text, keyName behind text,
      resumeAt behind { target with position := target.position + 1 })
  | .sequenceStart _ =>
    .error { fault := .keyNotText "sequence", path := path, place := some place }
  | _ => .error { fault := .keyNotText "map", path := path, place := some place }

def readItems (doc : Document) (item : NodeReader) (path : NodePath) (done : List Value) :
    Nat → ReadState → Except ReadError (Value × ReadState)
  | 0, _ => .error { fault := .endOfText }
  | fuel + 1, s => do
    let (event, _) ← doc.event s.position
    match event with
    | .sequenceEnd => .ok (.list done.reverse, { s with position := s.position + 1 })
    | _ =>
      let (value, s) ← item (path.item done.length) s
      readItems doc item path (value :: done) fuel s

def readFields (doc : Document) (item : NodeReader) (path : NodePath)
    (done : List (String × Value)) : Nat → ReadState → Except ReadError (Value × ReadState)
  | 0, _ => .error { fault := .endOfText }
  | fuel + 1, s => do
    let (event, _) ← doc.event s.position
    match event with
    | .mappingEnd => .ok (.record done, { s with position := s.position + 1 })
    | _ =>
      let (key, name, s) ← doc.readKey path s
      let (value, s) ← item (path.key name) s
      readFields doc item path (Entries.put key value done) fuel s

/-- The node at a position, with at most `depth` levels of collections in it. -/
def readNode (doc : Document) : Nat → NodeReader
  | depth, path, s => do
    let (event, place, s, behind) ← doc.follow s
    let inside : ReadState := { s with position := s.position + 1 }
    match event with
    | .scalar text plain properties =>
      if properties.tag.any Tag.isOwn then
        .error { fault := .taggedNode, path := path, place := some place }
      else
        match scalarValue text plain properties.tag with
        | .ok value => .ok (value, resumeAt behind inside)
        | .error fault => .error { fault := fault, path := path, place := some place }
    | .sequenceStart properties =>
      if properties.tag.any Tag.isOwn then
        .error { fault := .taggedNode, path := path, place := some place }
      else
        match depth with
        | 0 => .error { fault := .tooDeep place }
        | depth + 1 =>
          let (value, s) ← doc.readItems (readNode doc depth) path [] doc.events.size.succ inside
          .ok (value, resumeAt behind s)
    | .mappingStart properties =>
      if properties.tag.any Tag.isOwn then
        .error { fault := .taggedNode, path := path, place := some place }
      else
        match depth with
        | 0 => .error { fault := .tooDeep place }
        | depth + 1 =>
          let (value, s) ← doc.readFields (readNode doc depth) path [] doc.events.size.succ inside
          .ok (value, resumeAt behind s)
    | _ => .error { fault := .endOfText }

end Document

def deepest : Nat := 128

/-- A text without a document is null. -/
def read (text : String) : Except ReadError Value := do
  let text := readable text.toList
  let fuel := 4 * text.text.length + 16
  let (document, walk) := Walk.document (Walk.start text) [] .empty false fuel
  match document with
  | none => .ok .null
  | some document =>
    let (value, _) ← document.readNode deepest none ⟨0, 0⟩
    match document.cutoff with
    | some cutoff => .error { fault := .cutoff cutoff }
    | none =>
      match Walk.document walk [] .empty false fuel with
      | (none, _) => .ok value
      | (some _, _) => .error { fault := .severalDocuments }

end SourceGen.Yaml
