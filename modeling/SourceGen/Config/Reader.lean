import SourceGen.Config.Basic
import SourceGen.Json.Skip

/-!
# Reading settings from JSON text

The settings are read while the text is, so a fault of form and a fault of type are met in the order of
the text and both are reported with their place.
-/

namespace SourceGen.Config

open Json (Cursor Failure)

inductive Fault where
  | form (fault : Json.Fault)
  | type (error : DecodeError)
deriving Repr

def Fault.message : Fault → String
  | .form fault => fault.message
  | .type error => error.message

def formed {α : Type} : Except (Failure Json.Fault) α → Except (Failure Fault) α :=
  Except.mapError fun failure ↦ ⟨.form failure.fault, failure.offset⟩

/-- Faults a value of the wrong type. What is no container is read first, and its own faults come before;
a container is faulted where it begins. -/
def wrongType {α : Type} (expected : String) (c : Cursor) : Except (Failure Fault) α := do
  let found (value : Value) (c : Cursor) : Except (Failure Fault) α :=
    c.fail (.type (.wrongType value expected))
  match c.rest with
  | '[' :: _ => found (.list []) c
  | '{' :: _ => found (.record []) c
  | _ =>
    let (value, c) ← formed (Json.readValue 0 c)
    found value c

def readSetting (c : Cursor) : Except (Failure Fault) (String × Cursor) :=
  let c := c.skipSpace
  match c.rest with
  | [] => c.fail (.form .valueCutOff)
  | '"' :: _ => formed (Json.readText (c.skip 1))
  | _ => wrongType "a string" c

/-- Where a repeated key is faulted: behind the key, its blanks and a closing brace. -/
def behindKey (c : Cursor) : Cursor :=
  let c := c.skipSpace
  match c.rest with
  | '}' :: _ => c.skip 1
  | _ => c

/-- The settings of a record from behind its brace or its last setting on; every setting takes a
character. -/
def readNamed (first : Bool) (done : Entries String) :
    Nat → Cursor → Except (Failure Fault) (Entries String × Cursor)
  | 0, c => c.fail (.form .recordCutOff)
  | fuel + 1, c => do
    let (more, c) ← formed (Json.nextKey first c)
    if more then
      let (key, c) ← formed (Json.readText c)
      if (done.get? key).isSome then (behindKey c).fail (.type (.repeatedField key))
      else
        let c ← formed (Json.readColon c)
        if key ∈ fields.fields then
          let (text, c) ← readSetting c
          readNamed false (done.put key text) fuel c
        else
          let c ← formed (Json.skipValue c)
          readNamed false done fuel c
    else .ok (done, c)

/-- Nothing but the bracket may follow the last field. -/
def readListEnd (c : Cursor) : Except (Failure Fault) Cursor :=
  let c := c.skipSpace
  match c.rest with
  | [] => c.fail (.form .listCutOff)
  | ']' :: _ => .ok (c.skip 1)
  | ',' :: _ =>
    let c := (c.skip 1).skipSpace
    match c.rest with
    | ']' :: _ => c.failNext (.form .trailingComma)
    | _ => c.failNext (.form .trailingCharacters)
  | _ => c.failNext (.form .trailingCharacters)

/-- The settings of a list, by position. -/
def readPositional (first : Bool) :
    List String → Cursor → Except (Failure Fault) (Entries String × Cursor)
  | [], c => do
    let c ← readListEnd c
    .ok ([], c)
  | name :: names, c => do
    let (more, c) ← formed (Json.nextItem first c)
    if more then
      let (text, c) ← readSetting c
      let (entries, c) ← readPositional false names c
      .ok ((name, text) :: entries, c)
    else .ok ([], c)

def readRoot (c : Cursor) : Except (Failure Fault) (Entries String × Cursor) :=
  let c := c.skipSpace
  match c.rest with
  | [] => c.fail (.form .valueCutOff)
  | '{' :: _ => readNamed true [] (c.rest.length + 1) (c.skip 1)
  | '[' :: _ => readPositional true fields.fields (c.skip 1)
  | _ => wrongType ("struct " ++ fields.name) c

def readFrom (c : Cursor) : Except (Failure Fault) Config := do
  let (entries, c) ← readRoot c
  formed (Json.readEnd c)
  .ok (ofEntries entries)

/-- Reads settings, or tells the fault and its place. -/
def read (text : String) : Except String Config :=
  (readFrom (Cursor.start text)).mapError fun failure ↦
    failure.fault.message ++ " at " ++ (Json.Position.after text failure.offset).text

end SourceGen.Config
