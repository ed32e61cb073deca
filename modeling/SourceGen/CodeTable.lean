/-!
# Code tables

Declared names have the codes 1, 2, … in the order of their declaration. Code 0 belongs to the sentinel,
which stands for every code and name that was not declared.
-/

namespace SourceGen

structure CodeTable where
  sentinel : String
  names : List String
deriving DecidableEq, Repr

namespace CodeTable

/-- The code of the last declaration of a name among those from code `code` on. -/
def lastCode (name : String) (code : Nat) : List String → Option Nat
  | [] => none
  | declared :: rest =>
    (lastCode name (code + 1) rest).or (if declared = name then some code else none)

def encode (table : CodeTable) (name : String) : Nat :=
  (lastCode name 1 table.names).getD 0

def decode (table : CodeTable) : Nat → String
  | 0 => table.sentinel
  | code + 1 => table.names[code]?.getD table.sentinel

/-- Names with the codes from `code` on. -/
def numbered (code : Nat) : List String → List (String × Nat)
  | [] => []
  | name :: rest => (name, code) :: numbered (code + 1) rest

/-- The names with their codes, in the order of the codes. -/
def entries (table : CodeTable) : List (String × Nat) :=
  numbered 1 table.names

def size (table : CodeTable) : Nat := table.names.length

def isEmpty (table : CodeTable) : Bool := table.names.isEmpty

end CodeTable

end SourceGen
