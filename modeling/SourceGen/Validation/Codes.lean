import SourceGen.Spec.Model
import SourceGen.Text.Identifier
import SourceGen.Validation.Problem
import SourceGen.Validation.ScalarType

/-!
# Rules for opcodes and dtypes

Codes and behaviours are identifiers, no code takes a name that the generated enumeration declares by
itself, every ctype names a scalar type, and the default type is declared.
-/

namespace SourceGen.Validation

open Spec Text

def reservedOpcodes : List String := [badOp, "_N_GENERATED_OPCODES"]

def reservedDtypes : List String := [badType, "_N_GENERATED_DTYPES"]

def codeProblems (reserved : List String) (path name : String) : List Problem :=
  if !isIdentifier name then [⟨path, .invalidCode name⟩]
  else if name ∈ reserved then [⟨path, .reservedCode name⟩]
  else []

def behaviourNameProblems (name : String) : List Problem :=
  if isIdentifier name then [] else [⟨"$.opcode.per_op." ++ name, .invalidBehaviour name⟩]

def opcodeNameProblems (ops : OpcodeSection) : List Problem :=
  ops.opcodes.keys.flatMap (fun name ↦
      codeProblems reservedOpcodes ("$.opcode.opcalls." ++ name) name) ++
    ops.behaviours.keys.flatMap behaviourNameProblems

def dtypeProblems (code : String) (dtype : Dtype) : List Problem :=
  let path := "$.dtype." ++ code
  codeProblems reservedDtypes path code ++
    if isScalarType dtype.ctype then []
    else [⟨path ++ ".ctype", .notScalar dtype.ctype code⟩]

def defaultTypeProblems (document : Document) : List Problem :=
  match document.defaultType with
  | none => []
  | some name =>
    if document.dtype.any (·.contains name) then [] else [⟨"$.default_type", .unknownDefault name⟩]

def codesProblems (document : Document) : List Problem :=
  (document.opcode.map opcodeNameProblems).getD [] ++
    (document.dtype.map fun dtypes ↦
      dtypes.entries.flatMap fun entry ↦ dtypeProblems entry.1 entry.2).getD [] ++
    defaultTypeProblems document

end SourceGen.Validation
