import SourceGen.Spec.Report

/-!
# Problems of a specification

What a rule can object to, each with its code, its wording and, where there is one, a way to mend it.
-/

namespace SourceGen.Validation

open Spec (Entry)

inductive Cause where
  | invalidCode (name : String)
  | reservedCode (name : String)
  | invalidBehaviour (name : String)
  | notScalar (ctype code : String)
  | unknownDefault (name : String)
  | undeclaredBehaviour (opcode behaviour : String)
  | undeclaredAlias (aliased opcode : String)
  | aliasChain (opcode aliased behaviour next : String)
  | nothingToAlias (aliased behaviour opcode : String)
  | invalidNamespace (name : String)
  | nameAndOperator (ident : String)
  | nameless
  | invalidFunction (name : String)
  | blankOperator
  | invalidArgument (name : String)
  | repeatedArgument (name : String)
  | untypedArgument (name : String)
  | emptyParameter (template : String)
  | invalidClass (name : String)
  | repeatedClass (name namespaceName : String)
  | requiresItself (name : String)
  | invalidMember (name className : String)
  | repeatedMember (name className : String)
  | unknownMember (key className : String)
deriving DecidableEq, Repr

namespace Cause

def code : Cause → String
  | invalidCode _ | invalidBehaviour _ | invalidNamespace _ | invalidFunction _ | invalidArgument _
  | invalidClass _ | invalidMember .. => "E_INVALID_IDENTIFIER"
  | reservedCode _ => "E_RESERVED_NAME"
  | notScalar .. => "E_INVALID_TYPE"
  | unknownDefault _ | undeclaredBehaviour .. | undeclaredAlias .. | nothingToAlias ..
  | unknownMember .. => "E_REF_NOT_FOUND"
  | aliasChain .. => "E_ALIAS_CHAIN"
  | nameAndOperator _ => "E_EXCLUSIVE_FIELDS"
  | nameless | blankOperator | untypedArgument _ => "E_MISSING_FIELD"
  | repeatedArgument _ | repeatedClass .. | repeatedMember .. => "E_DUPLICATE_SYMBOL"
  | emptyParameter _ => "E_INVALID_TEMPLATE"
  | requiresItself _ => "E_REF_CYCLE"

def inTicks (name : String) : String :=
  "'" ++ name ++ "'"

def message : Cause → String
  | invalidCode name => inTicks name ++ " is not a valid identifier"
  | reservedCode name => inTicks name ++ " is reserved by the generated enum"
  | invalidBehaviour name => "per-op behaviour " ++ inTicks name ++ " is not a valid identifier"
  | notScalar ctype code =>
    "ctype " ++ inTicks ctype ++ " of dtype " ++ inTicks code ++ " is not a scalar type name"
  | unknownDefault name => "default_type " ++ inTicks name ++ " is not a declared dtype"
  | undeclaredBehaviour opcode behaviour =>
    "opcode " ++ inTicks opcode ++ " overrides undeclared per-op behaviour " ++ inTicks behaviour
  | undeclaredAlias aliased opcode =>
    "per-op alias " ++ inTicks aliased ++ " of opcode " ++ inTicks opcode ++
      " is not a declared opcode"
  | aliasChain opcode aliased behaviour next =>
    "opcode " ++ inTicks opcode ++ " aliases " ++ inTicks aliased ++ " for " ++
      inTicks behaviour ++ ", which itself aliases " ++ inTicks next
  | nothingToAlias aliased behaviour opcode =>
    "opcode " ++ inTicks aliased ++ " has no " ++ inTicks behaviour ++ " override for " ++
      inTicks opcode ++ " to alias"
  | invalidNamespace name =>
    "namespace " ++ inTicks name ++ " has a segment that is not an identifier"
  | nameAndOperator ident => "function " ++ inTicks ident ++ " declares both name and operator"
  | nameless => "function declares neither name nor operator"
  | invalidFunction name => "function name " ++ inTicks name ++ " is not a valid identifier"
  | blankOperator => "operator symbol is empty"
  | invalidArgument name => "argument name " ++ inTicks name ++ " is not a valid identifier"
  | repeatedArgument name => "argument " ++ inTicks name ++ " is declared twice"
  | untypedArgument name => "argument " ++ inTicks name ++ " has an empty type"
  | emptyParameter template =>
    "template parameter list " ++ inTicks template ++ " has an empty parameter"
  | invalidClass name => "class name " ++ inTicks name ++ " is not a valid identifier"
  | repeatedClass name namespaceName =>
    "class " ++ inTicks name ++ " is declared twice in namespace " ++ inTicks namespaceName
  | requiresItself name => "class " ++ inTicks name ++ " requires itself"
  | invalidMember name className =>
    "member " ++ inTicks name ++ " of class " ++ inTicks className ++
      " is not a valid identifier"
  | repeatedMember name className =>
    "member " ++ inTicks name ++ " of class " ++ inTicks className ++ " is declared twice"
  | unknownMember key className =>
    "init-list entry " ++ inTicks key ++ " is not a member of class " ++ inTicks className

def suggestion : Cause → Option String
  | reservedCode _ => some "Sentinels are implicit; remove the entry"
  | notScalar .. => some "Use a native scalar type such as double or int32_t"
  | unknownDefault _ => some "Declare it under dtype or remove default_type"
  | undeclaredBehaviour _ behaviour => some ("Declare " ++ inTicks behaviour ++ " under opcode.per_op")
  | undeclaredAlias aliased _ =>
    some ("Declare opcode " ++ inTicks aliased ++ " or alias an existing one")
  | aliasChain _ _ _ next => some ("Alias " ++ inTicks next ++ " directly")
  | nameAndOperator _ => some "Split it into a named function and an operator overload"
  | emptyParameter _ => some "Remove the stray comma"
  | unknownMember .. => some "Declare it under members"
  | _ => none

/-- A class that requires itself only draws a warning here; ordering the classes rejects it. -/
def severity : Cause → Spec.Severity
  | requiresItself _ => .warning
  | _ => .error

end Cause

/-- A cause and the path to the key it was found at. -/
structure Problem where
  path : String
  cause : Cause
deriving DecidableEq, Repr

def Problem.entry (problem : Problem) (file : String) : Entry :=
  { code := problem.cause.code
    severity := problem.cause.severity
    message := problem.cause.message
    file
    path := problem.path
    suggestion := problem.cause.suggestion }

end SourceGen.Validation
