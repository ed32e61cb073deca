import SourceGen.CodeTable
import SourceGen.Generation.Error
import SourceGen.Spec.Model

/-!
# The dtype unit

What the dtype files are made of: the declared types in order, and the default among them, which is the
first unless the specification names another.
-/

namespace SourceGen.Emit

open Spec

structure DtypeUnit where
  dtypes : OrderedMap Dtype
  defines : List String
  default_ : String
deriving DecidableEq

namespace DtypeUnit

def table (unit : DtypeUnit) : CodeTable :=
  ⟨badType, unit.dtypes.keys⟩

def ofDtypes (dtypes : OrderedMap Dtype) (defines : List String) (named : Option String) :
    Except GenError DtypeUnit :=
  match dtypes.keys with
  | [] => .error (.malformedSpec "dtype" "no dtypes declared")
  | first :: _ =>
    let name := named.getD first
    if dtypes.contains name then .ok ⟨dtypes, defines, name⟩
    else .error (.malformedSpec "default_type" ("'" ++ name ++ "' is not a declared dtype"))

end DtypeUnit

end SourceGen.Emit
