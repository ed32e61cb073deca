import SourceGen.Yaml.Scalar

/-!
# YAML tags

A tag is written in full between `!<` and `>`, or as a handle with a name behind it; the handle is short
for the front part that a directive or custom gives it. In a name a percent sign with two hexadecimal
digits is a byte, so a tag consists of bytes and need not be a text. A zero byte ends it.
-/

namespace SourceGen.Yaml

/-- The bytes of a tag. -/
abbrev Tag := List UInt8

/-- A tag as it is written; the handle of one that is written in full is empty. -/
structure WrittenTag where
  handle : String
  name : Tag
deriving DecidableEq, Repr

/-- Handles with the front parts they are short for. -/
abbrev Handles := List (String × Tag)

namespace Tag

def ofText (s : String) : Tag := s.toUTF8.toList

/-- The tag of this name among the standard ones. -/
def standard (name : String) : Tag := ofText ("tag:yaml.org,2002:" ++ name)

/-- Whether a tag begins with an exclamation mark. -/
def isMarked (tag : Tag) : Bool := tag.head? == some '!'.toUInt8

/-- Whether a tag names a shape of the writer's own: a text behind an exclamation mark. -/
def isOwn (tag : Tag) : Bool :=
  tag.isMarked && (String.fromUTF8? ⟨tag.tail.toArray⟩).isSome

end Tag

/-- The handles that need no directive. -/
def usualHandles : Handles := [("!", Tag.ofText "!"), ("!!", Tag.standard "")]

/-- What a written tag stands for, if its handle is known. -/
def WrittenTag.resolve? (tag : WrittenTag) (handles : Handles) : Option Tag :=
  if tag.handle.isEmpty then some tag.name
  else ((handles ++ usualHandles).lookup tag.handle).map (· ++ tag.name)

/-! ## Handles -/

/-- An exclamation mark with a name and a second exclamation mark behind it, or the first mark with what
there is of a name. A directive is content only with a mark alone or a whole handle. -/
def readHandle (directive : Bool) (begun : Place) (s : Source) :
    Except Failure (List Char × Source) :=
  if !s.looksAt '!' then
    s.fail .expectedMark (some (if directive then .handleMark else .tag, begun))
  else
    let (name, s) := (s.skip 1).span isNameChar
    if s.looksAt '!' then .ok ('!' :: name ++ ['!'], s.skip 1)
    else if directive && !name.isEmpty then s.fail .expectedMark (some (.handle, begun))
    else .ok ('!' :: name, s)

/-- Whether what `readHandle` gave is a whole handle. -/
def isWholeHandle (handle : List Char) : Bool :=
  1 < handle.length && handle.getLast? == some '!'

/-! ## Names -/

/-- What is under way while a name is read. -/
def nameActivity (directive : Bool) : Activity :=
  if directive then .tagFront else .tagName

/-- A percent sign with two hexadecimal digits. -/
def readOctet (directive : Bool) (begun : Place) (s : Source) : Except Failure (Nat × Source) :=
  match s.rest with
  | '%' :: high :: low :: _ =>
    match hexValue? high, hexValue? low with
    | some high, some low => .ok (16 * high + low, s.skip 3)
    | _, _ => s.fail .expectedOctet (some (nameActivity directive, begun))
  | _ => s.fail .expectedOctet (some (nameActivity directive, begun))

/-- How many octets follow the first one of a character. -/
def laterOctets? (first : Nat) : Option Nat :=
  if first < 0x80 then some 0
  else if first < 0xC0 then none
  else if first < 0xE0 then some 1
  else if first < 0xF0 then some 2
  else if first < 0xF8 then some 3
  else none

def readLaterOctets (directive : Bool) (begun : Place) (octets : Tag) :
    Nat → Source → Except Failure (Tag × Source)
  | 0, s => .ok (octets, s)
  | count + 1, s => do
    let (octet, next) ← readOctet directive begun s
    if 0x80 ≤ octet && octet < 0xC0 then
      readLaterOctets directive begun (octets ++ [octet.toUInt8]) count next
    else s.fail .wrongLaterOctet (some (nameActivity directive, begun))

/-- The octets of one character. -/
def readOctets (directive : Bool) (begun : Place) (s : Source) : Except Failure (Tag × Source) := do
  let (first, next) ← readOctet directive begun s
  match laterOctets? first with
  | some count => readLaterOctets directive begun [first.toUInt8] count next
  | none => s.fail .wrongFirstOctet (some (nameActivity directive, begun))

/-- The characters of a name besides the percent sign; `full` allows those that are indicators
elsewhere. -/
def isTagChar (full : Bool) (c : Char) : Bool :=
  isNameChar c || ";/?:@&=+$.!~*'()".toList.contains c || (full && ",[]".toList.contains c)

def readNameFrom (full directive : Bool) (begun : Place) (name : Tag) :
    Nat → Source → Except Failure (Tag × Source)
  | 0, s => .ok (name, s)
  | fuel + 1, s =>
    match s.peek with
    | none => .ok (name, s)
    | some c =>
      if c == '%' then do
        let (octets, s) ← readOctets directive begun s
        readNameFrom full directive begun (name ++ octets) fuel s
      else if isTagChar full c then
        readNameFrom full directive begun (name ++ [c.toUInt8]) fuel (s.skip 1)
      else .ok (name, s)

/-- A name up to a character that none may hold. Behind the beginning of what was no whole handle it may be
empty; that beginning is then its front, the exclamation mark aside. -/
def readTagName (full directive : Bool) (begun : Place) (beginning : List Char) (s : Source) :
    Except Failure (Tag × Source) := do
  let (name, s) ← readNameFrom full directive begun [] s.length s
  if beginning.isEmpty && name.isEmpty then
    s.fail .expectedTagName (some (nameActivity directive, begun))
  else .ok ((beginning.tail.map Char.toUInt8 ++ name).takeWhile (· != 0), s)

/-! ## Tags -/

/-- A tag in front of a node. An exclamation mark alone is a tag written in full. -/
def readWrittenTag (flow : Bool) (s : Source) : Except Failure (WrittenTag × Source) := do
  let begun := s.place
  let (tag, s) ←
    if s.peekAt 1 == some '<' then do
      let (name, s) ← readTagName true false begun [] (s.skip 2)
      if s.looksAt '>' then .ok ((⟨"", name⟩ : WrittenTag), s.skip 1)
      else s.fail .expectedTagEnd (some (.tag, begun))
    else do
      let (handle, s) ← readHandle false begun s
      if isWholeHandle handle then do
        let (name, s) ← readTagName false false begun [] s
        .ok (⟨String.ofList handle, name⟩, s)
      else do
        let (name, s) ← readTagName false false begun handle s
        .ok (if name.isEmpty then ⟨"", Tag.ofText "!"⟩ else ⟨"!", name⟩, s)
  if endsRun s.peek || (flow && s.looksAt ',') then .ok (tag, s)
  else s.fail .expectedBlankOrBreak (some (.tag, begun))

end SourceGen.Yaml
