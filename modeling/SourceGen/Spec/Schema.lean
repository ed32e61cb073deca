import SourceGen.Json.Printer

/-!
# Schemas

A schema says which raw values a place of a document may hold. It can be checked (`accepts`), it can tell
every way in which a value breaks it (`violations`), and it has a raw value of its own to be printed as.
Inside alternatives a fault is not followed up: the value as a whole then fits none of them.
-/

namespace SourceGen.Spec

/-- The kinds of raw values, as a schema names them. -/
inductive Kind where
  | null
  | boolean
  | integer
  | text
  | list
  | record
deriving DecidableEq, Repr

namespace Kind

def name : Kind → String
  | .null => "null"
  | .boolean => "boolean"
  | .integer => "integer"
  | .text => "string"
  | .list => "array"
  | .record => "object"

/-- A real number without a fractional part counts as an integer. -/
def holds : Kind → Value → Bool
  | .null, .null => true
  | .boolean, .bool _ => true
  | .integer, .number (.integer _) => true
  | .integer, .number (.real x) => x == x.floor
  | .text, .text _ => true
  | .list, .list _ => true
  | .record, .record _ => true
  | _, _ => false

end Kind

inductive Schema where
  | scalar (kinds : List Kind)
  | natural (kinds : List Kind)
  | list (items : Schema)
  | table (kinds : List Kind) (values : Schema)
  | record (required : List String) (properties : List (String × Schema))
  | anyOf (choices : List Schema)
  | named (name : String) (schema : Schema)
  | noted (description : Option String) (usual : Option Value) (schema : Schema)
deriving Inhabited

namespace Schema

def isOfKind (kinds : List Kind) (value : Value) : Bool :=
  kinds.any (·.holds value)

def isBelowZero : Value → Bool
  | .number (.integer n) => n < 0
  | .number (.real x) => x < 0
  | _ => false

/-! ## Accepted values -/

mutual

def accepts : Schema → Value → Bool
  | .scalar kinds, value => isOfKind kinds value
  | .natural kinds, value => isOfKind kinds value && !isBelowZero value
  | .list items, value =>
    match value with
    | .list values => values.all fun item ↦ items.accepts item
    | _ => false
  | .table kinds values, value =>
    match value with
    | .record fields => isOfKind kinds value && fields.all fun field ↦ values.accepts field.2
    | _ => isOfKind kinds value
  | .record required properties, value =>
    match value with
    | .record fields =>
      required.all (fun name ↦ (Entries.get? name fields).isSome) &&
        acceptsProperties properties fields
    | _ => false
  | .anyOf choices, value => acceptsAny choices value
  | .named _ schema, value => schema.accepts value
  | .noted _ _ schema, value => schema.accepts value

def acceptsProperties : List (String × Schema) → List (String × Value) → Bool
  | [], _ => true
  | (name, schema) :: rest, fields =>
    (match Entries.get? name fields with
      | some value => schema.accepts value
      | none => true) && acceptsProperties rest fields

def acceptsAny : List Schema → Value → Bool
  | [], _ => false
  | schema :: rest, value => schema.accepts value || acceptsAny rest value

end

/-! ## Violations -/

inductive Cause where
  | wrongKind (allowed : List Kind)
  | missing (property : String)
  | belowMinimum
  | noChoice
deriving DecidableEq, Repr

/-- A value that breaks a schema, and the keys that lead to it. -/
structure Violation where
  place : List String
  value : Value
  cause : Cause
deriving Repr

def sortedNames (names : List String) : List String :=
  names.mergeSort fun a b ↦ decide (a ≤ b)

def inQuotes (name : String) : String :=
  "\"" ++ name ++ "\""

def Violation.message (violation : Violation) : String :=
  match violation.cause with
  | .wrongKind [kind] =>
    Json.compact violation.value ++ " is not of type " ++ inQuotes kind.name
  | .wrongKind kinds =>
    Json.compact violation.value ++ " is not of types " ++
      ", ".intercalate ((sortedNames (kinds.map Kind.name)).map inQuotes)
  | .missing property => inQuotes property ++ " is a required property"
  | .belowMinimum => Json.compact violation.value ++ " is less than the minimum of 0.0"
  | .noChoice =>
    Json.compact violation.value ++
      " is not valid under any of the schemas listed in the 'anyOf' keyword"

/-- A key as a path shows it: a tilde is escaped, and so is a slash before it would be taken for the
start of a step. -/
def stepText (key : String) : String :=
  String.ofList (key.toList.flatMap fun c ↦
    if c = '~' then ['~', '0'] else if c = '/' then ['~', '1'] else [c])

def Violation.path (violation : Violation) : String :=
  "$" ++ String.join (violation.place.map fun key ↦ "." ++ stepText key)

def kindViolations (kinds : List Kind) (place : List String) (value : Value) : List Violation :=
  if isOfKind kinds value then [] else [⟨place, value, .wrongKind kinds⟩]

def itemViolations (check : List String → Value → List Violation) (place : List String) (i : Nat) :
    List Value → List Violation
  | [] => []
  | value :: rest =>
    check (place ++ [toString i]) value ++ itemViolations check place (i + 1) rest

mutual

def violations : Schema → List String → Value → List Violation
  | .scalar kinds, place, value => kindViolations kinds place value
  | .natural kinds, place, value =>
    kindViolations kinds place value ++
      if isBelowZero value then [⟨place, value, .belowMinimum⟩] else []
  | .list items, place, value =>
    match value with
    | .list values => itemViolations (fun place item ↦ items.violations place item) place 0 values
    | _ => kindViolations [.list] place value
  | .table kinds values, place, value =>
    match value with
    | .record fields =>
      kindViolations kinds place value ++
        fields.flatMap fun field ↦ values.violations (place ++ [field.1]) field.2
    | _ => kindViolations kinds place value
  | .record required properties, place, value =>
    match value with
    | .record fields =>
      ((required.filter fun name ↦ (Entries.get? name fields).isNone).map fun name ↦
          ⟨place, value, .missing name⟩) ++
        propertyViolations properties place fields
    | _ => kindViolations [.record] place value
  | .anyOf choices, place, value =>
    if acceptsAny choices value then [] else [⟨place, value, .noChoice⟩]
  | .named _ schema, place, value => schema.violations place value
  | .noted _ _ schema, place, value => schema.violations place value

def propertyViolations :
    List (String × Schema) → List String → List (String × Value) → List Violation
  | [], _, _ => []
  | (name, schema) :: rest, place, fields =>
    (match Entries.get? name fields with
      | some value => schema.violations (place ++ [name]) value
      | none => []) ++ propertyViolations rest place fields

end

/-! ## The schema as a value -/

def kindsValue : List Kind → Value
  | [kind] => .text kind.name
  | kinds => Value.texts (kinds.map Kind.name)

def reference (name : String) : Value :=
  .record [("$ref", .text ("#/definitions/" ++ name))]

mutual

/-- The keywords of a schema. A reference that carries notes stands in a list of its own. -/
def keywords : Schema → List (String × Value)
  | .scalar kinds => [("type", kindsValue kinds)]
  | .natural kinds =>
    [("type", kindsValue kinds), ("format", .text "uint32"), ("minimum", .number (.real 0))]
  | .list items => [("type", kindsValue [.list]), ("items", .record items.keywords)]
  | .table kinds values =>
    [("type", kindsValue kinds), ("additionalProperties", .record values.keywords)]
  | .record required properties =>
    [("type", kindsValue [.record])] ++
      (if required.isEmpty then [] else [("required", Value.texts required)]) ++
      (if properties.isEmpty then [] else [("properties", .record (propertyValues properties))])
  | .anyOf choices => [("anyOf", .list (choiceValues choices))]
  | .named name _ => [("$ref", .text ("#/definitions/" ++ name))]
  | .noted description usual schema =>
    (description.map fun text ↦ ("description", .text text)).toList ++
      (usual.map fun value ↦ ("default", value)).toList ++
      match schema with
      | .named name _ => [("allOf", .list [reference name])]
      | schema => schema.keywords

def propertyValues : List (String × Schema) → List (String × Value)
  | [] => []
  | (name, schema) :: rest => (name, .record schema.keywords) :: propertyValues rest

def choiceValues : List Schema → List Value
  | [] => []
  | schema :: rest => .record schema.keywords :: choiceValues rest

end

end Schema

end SourceGen.Spec
