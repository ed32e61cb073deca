import SourceGen.CodeTable
import SourceGen.Generation.Error
import SourceGen.Spec.Model

/-!
# The opcode unit

What the opcode files are made of: the code table, and every behaviour with the opcodes that specialise
it. A specialisation's body is the opcode's own or, behind an alias, the body of the opcode it names; an
alias of an alias is refused.
-/

namespace SourceGen.Emit

open Spec

/-- An opcode with a body of its own for some behaviour. -/
structure Specialization where
  opcode : String
  body : String
deriving DecidableEq, Repr

structure BehaviourUnit where
  name : String
  behaviour : Behaviour
  specializations : List Specialization
deriving DecidableEq, Repr

structure OpcodeUnit where
  source : OpcodeSection
  behaviours : List BehaviourUnit
deriving DecidableEq

def OpcodeUnit.table (unit : OpcodeUnit) : CodeTable :=
  ⟨badOp, unit.source.opcodes.keys⟩

/-! ## Specialisations -/

def aliasedBody (ops : OpcodeSection) (key behaviour aliased : String) : Except GenError String :=
  match ops.opcodes.get? aliased with
  | none => .error (.malformedSpec key ("alias to undeclared opcode '" ++ aliased ++ "'"))
  | some target =>
    match target.overrides.get? behaviour with
    | some (.body body) => .ok body
    | some (.sameAs _) =>
      .error (.malformedSpec key
        ("'" ++ aliased ++ "' is itself an alias; aliases cannot be chained"))
    | none =>
      .error (.malformedSpec key ("'" ++ aliased ++ "' has no '" ++ behaviour ++ "' override"))

/-- The body of an opcode for a behaviour that it overrides. -/
def overrideBody (ops : OpcodeSection) (name : String) (opcode : Opcode) (behaviour : String) :
    Except GenError (Option String) :=
  match opcode.overrides.get? behaviour with
  | none => .ok none
  | some (.body body) => .ok (some body)
  | some (.sameAs aliased) =>
    some <$> aliasedBody ops (overrideKey name behaviour) behaviour aliased

/-- The specialisations of a behaviour among the given opcodes. -/
def specializationsOf (ops : OpcodeSection) (behaviour : String) :
    Entries Opcode → Except GenError (List Specialization)
  | [] => .ok []
  | (name, opcode) :: rest => do
    let body ← overrideBody ops name opcode behaviour
    let more ← specializationsOf ops behaviour rest
    .ok ((body.map fun body ↦ ⟨name, body⟩).toList ++ more)

def behaviourUnits (ops : OpcodeSection) :
    Entries Behaviour → Except GenError (List BehaviourUnit)
  | [] => .ok []
  | (name, behaviour) :: rest => do
    let specializations ← specializationsOf ops name ops.opcodes.entries
    let more ← behaviourUnits ops rest
    .ok (⟨name, behaviour, specializations⟩ :: more)

/-! ## The unit -/

/-- An override that belongs to no declared behaviour, as its opcode and its behaviour. -/
def strayOverride? (ops : OpcodeSection) : Option (String × String) :=
  ops.opcodes.entries.findSome? fun entry ↦
    (entry.2.overrides.keys.find? fun behaviour ↦ !ops.behaviours.contains behaviour).map
      fun behaviour ↦ (entry.1, behaviour)

def checkOverrides (ops : OpcodeSection) : Except GenError Unit :=
  if ops.opcodes.isEmpty then .error (.malformedSpec "opcode.opcalls" "no opcodes declared")
  else
    match strayOverride? ops with
    | some (opcode, behaviour) =>
      .error (.malformedSpec (overrideKey opcode behaviour)
        ("'" ++ behaviour ++ "' is not a declared per_op behaviour"))
    | none => .ok ()

def OpcodeUnit.ofSection (ops : OpcodeSection) : Except GenError OpcodeUnit := do
  checkOverrides ops
  let behaviours ← behaviourUnits ops ops.behaviours.entries
  .ok ⟨ops, behaviours⟩

end SourceGen.Emit
