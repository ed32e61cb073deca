import SourceGen.Json.Printer
import SourceGen.Text.Quoted

/-!
# Typed reading of values

A decoder makes a typed datum of a raw value or says what is wrong with it. A record type lists its
fields once; a value gives them by name, as a record, or by position, as a list. Of several faults the
one that stands first in the document is reported, and a missing field only if no field is faulty.
-/

namespace SourceGen

inductive DecodeError where
  | wrongType (found : Value) (expected : String)
  | outOfRange (found : Value) (expected : String)
  | missingField (name : String)
  | repeatedField (name : String)
  | tooShort (length : Nat) (type : String) (fields : Nat)
  | tooLong (length : Nat)
  | unknownVariant (name : String) (known : List String)
  | noVariant (type : String)
deriving Repr

namespace DecodeError

def describe : Value → String
  | .null => "null"
  | .bool b => "boolean `" ++ toString b ++ "`"
  | .number (.integer n) => "integer `" ++ toString n ++ "`"
  | .number (.real x) => "floating point `" ++ Json.numberText (.real x) ++ "`"
  | .text s => "string " ++ Text.quoted s
  | .list _ => "sequence"
  | .record _ => "map"

def message : DecodeError → String
  | .wrongType found expected => "invalid type: " ++ describe found ++ ", expected " ++ expected
  | .outOfRange found expected => "invalid value: " ++ describe found ++ ", expected " ++ expected
  | .missingField name => "missing field `" ++ name ++ "`"
  | .repeatedField name => "duplicate field `" ++ name ++ "`"
  | .tooShort length type fields =>
    "invalid length " ++ toString length ++ ", expected struct " ++ type ++ " with " ++
      toString fields ++ " elements"
  | .tooLong length => "invalid length " ++ toString length ++ ", expected fewer elements in array"
  | .unknownVariant name known =>
    "unknown variant `" ++ name ++ "`, expected one of " ++
      ", ".intercalate (known.map fun variant ↦ "`" ++ variant ++ "`")
  | .noVariant type => "data did not match any variant of untagged enum " ++ type

end DecodeError

abbrev Decoder (α : Type) := Value → Except DecodeError α

namespace Decoder

variable {α β : Type}

def text : Decoder String
  | .text s => .ok s
  | value => .error (.wrongType value "a string")

def bool : Decoder Bool
  | .bool b => .ok b
  | value => .error (.wrongType value "a boolean")

/-- Integers of 32 bits without a sign. -/
def word : Decoder UInt32
  | .number (.integer n) =>
    if 0 ≤ n ∧ n < 4294967296 then .ok (UInt32.ofNat n.toNat)
    else .error (.outOfRange (.number (.integer n)) "u32")
  | value => .error (.wrongType value "u32")

def nullable (decode : Decoder α) : Decoder (Option α)
  | .null => .ok none
  | value => some <$> decode value

def decodeItems (decode : Decoder α) : List Value → Except DecodeError (List α)
  | [] => .ok []
  | value :: rest => do
    let item ← decode value
    let items ← decodeItems decode rest
    .ok (item :: items)

def list (decode : Decoder α) : Decoder (List α)
  | .list values => decodeItems decode values
  | value => .error (.wrongType value "a sequence")

def decodeFields (decode : Decoder α) : List (String × Value) → Except DecodeError (Entries α)
  | [] => .ok []
  | (key, value) :: rest => do
    let item ← decode value
    let items ← decodeFields decode rest
    .ok ((key, item) :: items)

def map (decode : Decoder α) : Decoder (OrderedMap α)
  | .record fields => OrderedMap.ofEntries <$> decodeFields decode fields
  | value => .error (.wrongType value "a map")

end Decoder

/-! ## Record types -/

/-- What comes of reading some fields; `place` counts the fields of the document before the fault. -/
inductive Outcome (α : Type) where
  | ok (value : α)
  | fault (place : Nat) (error : DecodeError)

namespace Outcome

variable {α β : Type}

def map (f : α → β) : Outcome α → Outcome β
  | .ok value => .ok (f value)
  | .fault place error => .fault place error

instance : Functor Outcome where
  map := map

/-- Of two faults the earlier counts, and of two in one place the first. -/
def seq (f : Outcome (α → β)) (x : Outcome α) : Outcome β :=
  match f, x with
  | .ok f, .ok value => .ok (f value)
  | .ok _, .fault place error => .fault place error
  | .fault place error, .ok _ => .fault place error
  | .fault place error, .fault place' error' =>
    if place ≤ place' then .fault place error else .fault place' error'

instance : Seq Outcome where
  seq f x := f.seq (x ())

def toExcept : Outcome α → Except DecodeError α
  | .ok value => .ok value
  | .fault _ error => .error error

end Outcome

/-- The name and the field names of a record type, in the order of positions. -/
structure RecordType where
  name : String
  fields : List String
deriving DecidableEq, Repr

/-- The values that a document gives for the fields of a record type. -/
structure Given where
  type : RecordType
  values : List (String × Value)
  positional : Bool

namespace Given

variable {α : Type}

def absent (given : Given) (name : String) : DecodeError :=
  if given.positional then
    .tooShort (given.type.fields.idxOf name) given.type.name given.type.fields.length
  else .missingField name

/-- The values under some names, each with the number of fields before it. -/
def valuesOf (names : List String) : Nat → List (String × Value) → List (Nat × Value)
  | _, [] => []
  | place, (key, value) :: rest =>
    if key ∈ names then (place, value) :: valuesOf names (place + 1) rest
    else valuesOf names (place + 1) rest

/-- Reads the field `name`, which `others` name too; `fallback` stands in for a field that is not
given. -/
def read (given : Given) (name : String) (others : List String) (decode : Decoder α)
    (fallback : Except DecodeError α) : Outcome α :=
  match valuesOf (name :: others) 0 given.values with
  | [] =>
    match fallback with
    | .ok value => .ok value
    | .error error => .fault given.values.length error
  | (place, value) :: more =>
    match decode value, more with
    | .error error, _ => .fault place error
    | .ok value, [] => .ok value
    | .ok _, (place', _) :: _ => .fault place' (.repeatedField name)

def required (given : Given) (name : String) (decode : Decoder α) : Outcome α :=
  given.read name [] decode (.error (given.absent name))

def defaulted (given : Given) (name : String) (decode : Decoder α) (value : α) : Outcome α :=
  given.read name [] decode (.ok value)

def optional (given : Given) (name : String) (decode : Decoder α) : Outcome (Option α) :=
  given.defaulted name decode.nullable none

end Given

namespace Decoder

variable {α : Type}

/-- Reads a record type from a record or from a list that gives its fields by position. -/
def record (type : RecordType) (decode : Given → Outcome α) : Decoder α
  | .record fields => (decode ⟨type, fields, false⟩).toExcept
  | .list items => do
    let value ← (decode ⟨type, type.fields.zip items, true⟩).toExcept
    if type.fields.length < items.length then .error (.tooLong items.length) else .ok value
  | value => .error (.wrongType value ("struct " ++ type.name))

/-- Reads a variant that is written as a record of the given fields, and never by position. -/
def openRecord (type : RecordType) (decode : Given → Outcome α) : Decoder α
  | .record fields => (decode ⟨type, fields, false⟩).toExcept
  | _ => .error (.noVariant type.name)

/-- The first of two readings that succeeds; if none does, only the type's name is reported. -/
def oneOf (type : String) (first second : Decoder α) : Decoder α := fun value ↦
  match first value with
  | .ok a => .ok a
  | .error _ =>
    match second value with
    | .ok a => .ok a
    | .error _ => .error (.noVariant type)

end Decoder

end SourceGen
