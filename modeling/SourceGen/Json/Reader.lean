import SourceGen.Json.Lexeme

/-!
# Reading a JSON document

`Json.read` accepts one value with blanks around it, containers nested at most `deepest` levels. A
repeated key keeps its first position and takes its last value.
-/

namespace SourceGen.Json

def deepest : Nat := 127

/-- Looks behind the blanks for the next item of a list: its cursor, or the cursor behind the closing
bracket. -/
def nextItem (first : Bool) (c : Cursor) : Except (Failure Fault) (Bool × Cursor) :=
  let c := c.skipSpace
  match c.rest with
  | [] => c.fail .listCutOff
  | ']' :: _ => .ok (false, c.skip 1)
  | head :: _ =>
    if first then .ok (true, c)
    else if head = ',' then
      let c := (c.skip 1).skipSpace
      match c.rest with
      | [] => c.fail .valueCutOff
      | ']' :: _ => c.failNext .trailingComma
      | _ => .ok (true, c)
    else c.failNext .expectedListEnd

/-- Looks for the next key of a record: the cursor behind its opening quote, or behind the closing
brace. -/
def nextKey (first : Bool) (c : Cursor) : Except (Failure Fault) (Bool × Cursor) :=
  let c := c.skipSpace
  match c.rest with
  | [] => c.fail .recordCutOff
  | '}' :: _ => .ok (false, c.skip 1)
  | head :: _ =>
    if first then
      if head = '"' then .ok (true, c.skip 1) else c.failNext .keyNotText
    else if head = ',' then
      let c := (c.skip 1).skipSpace
      match c.rest with
      | [] => c.fail .valueCutOff
      | '"' :: _ => .ok (true, c.skip 1)
      | '}' :: _ => c.failNext .trailingComma
      | _ => c.failNext .keyNotText
    else c.failNext .expectedRecordEnd

def readColon (c : Cursor) : Except (Failure Fault) Cursor :=
  let c := c.skipSpace
  match c.rest with
  | [] => c.fail .recordCutOff
  | ':' :: _ => .ok (c.skip 1)
  | _ => c.failNext .expectedColon

/-- The items of a list from behind its bracket or its last item on; every item takes a character,
so the length of the rest bounds their number. -/
def readItems (item : Cursor → Except (Failure Fault) (Value × Cursor)) (done : List Value) :
    Nat → Cursor → Except (Failure Fault) (Value × Cursor)
  | 0, c => c.fail .listCutOff
  | fuel + 1, c => do
    let (more, c) ← nextItem done.isEmpty c
    if more then
      let (value, c) ← item c
      readItems item (value :: done) fuel c
    else .ok (.list done.reverse, c)

def readFields (item : Cursor → Except (Failure Fault) (Value × Cursor)) (first : Bool)
    (done : List (String × Value)) : Nat → Cursor → Except (Failure Fault) (Value × Cursor)
  | 0, c => c.fail .recordCutOff
  | fuel + 1, c => do
    let (more, c) ← nextKey first c
    if more then
      let (key, c) ← readText c
      let c ← readColon c
      let (value, c) ← item c
      readFields item false (Entries.put key value done) fuel c
    else .ok (.record done, c)

/-- A value that may hold `depth` levels of containers. -/
def readValue : Nat → Cursor → Except (Failure Fault) (Value × Cursor)
  | depth, c =>
    let c := c.skipSpace
    match c.rest with
    | [] => c.fail .valueCutOff
    | 'n' :: _ => do
      let c ← readWord ['u', 'l', 'l'] (c.skip 1)
      .ok (.null, c)
    | 't' :: _ => do
      let c ← readWord ['r', 'u', 'e'] (c.skip 1)
      .ok (.bool true, c)
    | 'f' :: _ => do
      let c ← readWord ['a', 'l', 's', 'e'] (c.skip 1)
      .ok (.bool false, c)
    | '"' :: _ => do
      let (s, c) ← readText (c.skip 1)
      .ok (.text s, c)
    | '-' :: _ => do
      let (n, c) ← readNumber true (c.skip 1)
      .ok (.number n, c)
    | '[' :: _ =>
      match depth with
      | 0 => c.failNext .tooDeep
      | depth + 1 => readItems (readValue depth) [] c.rest.length (c.skip 1)
    | '{' :: _ =>
      match depth with
      | 0 => c.failNext .tooDeep
      | depth + 1 => readFields (readValue depth) true [] c.rest.length (c.skip 1)
    | head :: _ =>
      if head.isDigit then do
        let (n, c) ← readNumber false c
        .ok (.number n, c)
      else c.failNext .expectedValue

/-- Nothing but blanks may follow. -/
def readEnd (c : Cursor) : Except (Failure Fault) Unit :=
  let c := c.skipSpace
  match c.rest with
  | [] => .ok ()
  | _ => c.failNext .trailingCharacters

def readDocument (c : Cursor) : Except (Failure Fault) Value := do
  let (value, c) ← readValue deepest c
  readEnd c
  .ok value

/-- A fault with the place it was found at. -/
structure TextError where
  fault : Fault
  position : Position
deriving Repr

def TextError.message (e : TextError) : String :=
  e.fault.message ++ " at " ++ e.position.text

def read (text : String) : Except TextError Value :=
  match readDocument (Cursor.start text) with
  | .ok value => .ok value
  | .error failure => .error ⟨failure.fault, Position.after text failure.offset⟩

end SourceGen.Json
