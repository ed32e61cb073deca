import SourceGen.OrderedMap

/-!
# Raw document values

What a document says before it is read as a specification: null, truth values, numbers, texts, lists
and records. A record keeps its fields in the order in which they were first written.
-/

namespace SourceGen

/-- Integers and binary64 reals stay apart: `1` and `1.0` are different documents. -/
inductive Number where
  | integer (value : Int)
  | real (value : Float)
deriving DecidableEq, Repr, Inhabited

inductive Value where
  | null
  | bool (value : Bool)
  | number (value : Number)
  | text (value : String)
  | list (items : List Value)
  | record (fields : List (String × Value))
deriving Repr, Inhabited

namespace Value

def ofNat (n : Nat) : Value := .number (.integer n)

def isNull : Value → Bool
  | .null => true
  | _ => false

def texts (items : List String) : Value := .list (items.map .text)

end Value

end SourceGen
