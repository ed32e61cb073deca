import SourceGen.Emit.Layout

/-!
# Names in binding modules

The special methods that operators are bound as, the numbering of names that repeat within a scope, and
the group that a namespace belongs to.
-/

namespace SourceGen.Binding

/-- The special method of an operator with a number of operands. -/
def specialMethod? (symbol : String) (operands : Nat) : Option String :=
  match symbol, operands with
  | "-", 1 => some "__neg__"
  | "+", 2 => some "__add__"
  | "*", 2 => some "__mul__"
  | "-", 2 => some "__sub__"
  | "/", 2 => some "__truediv__"
  | "==", 2 => some "__eq__"
  | "!=", 2 => some "__ne__"
  | "<", 2 => some "__lt__"
  | ">", 2 => some "__gt__"
  | _, _ => none

/-- The special method for an operator whose left operand is not of the result type. -/
def reflectedMethod? : String → Option String
  | "+" => some "__radd__"
  | "*" => some "__rmul__"
  | "-" => some "__rsub__"
  | "/" => some "__rtruediv__"
  | _ => none

/-! ## Repeated names -/

/-- The names given out so far, each with its scope. -/
abbrev UsedNames := List (String × String)

/-- The first use of a name in a scope keeps it bare, later ones number it from zero on. -/
def UsedNames.nameFor (used : UsedNames) (scope name : String) : String :=
  match used.count (scope, name) with
  | 0 => name
  | again + 1 => name ++ toString again

def UsedNames.assign (used : UsedNames) (scope name : String) : String × UsedNames :=
  (used.nameFor scope name, used ++ [(scope, name)])

/-- The names for a list of requests, one after the other. -/
def UsedNames.assignAll (used : UsedNames) : List (String × String) → List String
  | [] => []
  | (scope, name) :: rest =>
    let (given, used) := used.assign scope name
    given :: assignAll used rest

/-! ## Groups -/

/-- The group of what stands in no namespace. -/
def globalGroup : String := "api"

/-- The outermost segment of a namespace. -/
def groupOf (namespaceName : String) : String :=
  (Emit.namespaceSegments namespaceName).head?.getD globalGroup

end SourceGen.Binding
