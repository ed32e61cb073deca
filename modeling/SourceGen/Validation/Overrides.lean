import SourceGen.Spec.Model
import SourceGen.Validation.Problem

/-!
# Rules for behaviour overrides

An override belongs to a declared behaviour, and an alias names an opcode that has a body of its own for
that behaviour: one step leads to the body.
-/

namespace SourceGen.Validation

open Spec

def aliasProblem (ops : OpcodeSection) (opcode behaviour aliased : String) : Option Cause :=
  match ops.opcodes.get? aliased with
  | none => some (.undeclaredAlias aliased opcode)
  | some target =>
    match target.overrides.get? behaviour with
    | some (.body _) => none
    | some (.sameAs next) => some (.aliasChain opcode aliased behaviour next)
    | none => some (.nothingToAlias aliased behaviour opcode)

def overrideProblem (ops : OpcodeSection) (opcode behaviour : String) (given : Override) :
    Option Cause :=
  if ops.behaviours.contains behaviour then
    match given with
    | .body _ => none
    | .sameAs aliased => aliasProblem ops opcode behaviour aliased
  else some (.undeclaredBehaviour opcode behaviour)

def opcodeOverrideProblems (ops : OpcodeSection) (name : String) (opcode : Opcode) :
    List Problem :=
  opcode.overrides.entries.flatMap fun entry ↦
    ((overrideProblem ops name entry.1 entry.2).map fun cause ↦
      ⟨"$." ++ overrideKey name entry.1, cause⟩).toList

def overrideProblems (ops : OpcodeSection) : List Problem :=
  ops.opcodes.entries.flatMap fun entry ↦ opcodeOverrideProblems ops entry.1 entry.2

def overridesProblems (document : Document) : List Problem :=
  (document.opcode.map overrideProblems).getD []

end SourceGen.Validation
