import SourceGen.Config.Basic
import SourceGen.Emit.Fill
import SourceGen.Emit.Layout
import SourceGen.Emit.Opcodes
import SourceGen.Generation.Run
import SourceGen.Output.SourceFile

/-!
# The opcode files

The header declares the enumeration of the opcodes, their dispatch and their behaviours; the source file
holds the tables between codes and names and the bodies of the behaviours.
-/

namespace SourceGen.Emit

open Spec Text

def opcodeHeader : String := "opcode.hpp"

def opcodeSource : String := "opcode.cpp"

/-! ## Lines of the tables -/

def enumeratorLine (entry : String × Nat) : String :=
  entry.1 ++ " = " ++ toString entry.2 ++ ","

def codeToNameLine (entry : String × Nat) : String :=
  "\x7b " ++ entry.1 ++ ", \"" ++ entry.1 ++ "\" \x7d"

def nameToCodeLine (entry : String × Nat) : String :=
  "\x7b \"" ++ entry.1 ++ "\", " ++ entry.1 ++ " \x7d"

def execLine (entry : String × Opcode) : String :=
  "case " ++ entry.1 ++ ": " ++ trim entry.2.statement ++ " break;"

def lookupLine (tableNamespace name : String) : String :=
  "case " ++ tableNamespace ++ "::" ++ name ++ ": GENERIC_MACRO(::" ++ tableNamespace ++ "::" ++
    name ++ ") break;"

namespace OpcodeUnit

def commutative (unit : OpcodeUnit) : List String :=
  (unit.source.opcodes.entries.filter (·.2.commutative)).map Prod.fst

def idempotent (unit : OpcodeUnit) : List String :=
  (unit.source.opcodes.entries.filter (·.2.idempotent)).map Prod.fst

end OpcodeUnit

/-! ## Behaviours -/

/-- The argument by which a dispatcher chooses. -/
def opcodeArgument : Argument := { name := "opcode", type := "_GENERATED_OPCODE" }

namespace BehaviourUnit

def dispatchArguments (unit : BehaviourUnit) : List Argument :=
  opcodeArgument :: unit.behaviour.args

def genericText (unit : BehaviourUnit) : String :=
  let comment := docComment (unit.behaviour.description.getD "")
  let generic := "template <_GENERATED_OPCODE OPCODE>\n" ++ unit.behaviour.out ++ " " ++
    unit.name ++ " (" ++ renderArguments unit.behaviour.args false ++ ")\n\x7b\n    " ++
    reindent unit.behaviour.fallback "    " ++ "\n\x7d"
  if comment.isEmpty then generic else comment ++ "\n" ++ generic

/-- The head of a specialisation, the same in its declaration and in its definition. -/
def specializationHead (unit : BehaviourUnit) (opcode : String) : String :=
  "template <>\n" ++ unit.behaviour.out ++ " " ++ unit.name ++ "<" ++ opcode ++ "> (" ++
    renderArguments unit.behaviour.args false ++ ")"

def dispatcherHead (unit : BehaviourUnit) (withDefaults : Bool) : String :=
  unit.behaviour.out ++ " " ++ unit.name ++ " (" ++
    renderArguments unit.dispatchArguments withDefaults ++ ")"

def declarations (unit : BehaviourUnit) : List String :=
  unit.genericText ::
    unit.specializations.map (fun spec ↦ unit.specializationHead spec.opcode ++ ";") ++
    [unit.dispatcherHead true ++ ";"]

def specializationText (unit : BehaviourUnit) (spec : Specialization) : String :=
  unit.specializationHead spec.opcode ++ "\n\x7b\n    " ++ reindent spec.body "    " ++ "\n\x7d"

def dispatchLine (unit : BehaviourUnit) (opcode : String) : String :=
  "case " ++ opcode ++ ": return " ++ unit.name ++ "<" ++ opcode ++ ">(" ++
    argumentNames unit.behaviour.args ++ ");"

def dispatcherText (unit : BehaviourUnit) (opcodes : List String) (fatal : String) : String :=
  unit.dispatcherHead false ++ "\n\x7b\n    switch (opcode)\n    \x7b\n        " ++
    join "\n        " (opcodes.map unit.dispatchLine) ++
    "\n        default: break;\n    \x7d\n    " ++ fatal ++ "(\"cannot " ++ unit.name ++
    " with a bad opcode\");\n\x7d"

def definitions (unit : BehaviourUnit) (opcodes : List String) (fatal : String) : List String :=
  unit.specializations.map unit.specializationText ++ [unit.dispatcherText opcodes fatal]

end BehaviourUnit

/-! ## The files -/

def opcodeHeaderLines : List String := [
  "#ifndef ${guard}",
  "#define ${guard}",
  "",
  "namespace ${namespace}",
  "\x7b",
  "",
  "enum _GENERATED_OPCODE",
  "\x7b",
  "    BAD_OP = 0,",
  "    ${opcodes}",
  "    _N_GENERATED_OPCODES,",
  "\x7d;",
  "",
  "std::string name_op (_GENERATED_OPCODE code);",
  "",
  "_GENERATED_OPCODE get_op (const std::string& name);",
  "",
  "bool is_commutative (_GENERATED_OPCODE code);",
  "",
  "bool is_commutative (const std::string& name);",
  "",
  "bool is_idempotent (_GENERATED_OPCODE code);",
  "",
  "bool is_idempotent (const std::string& name);",
  "",
  "template <typename T>",
  "void typed_exec (_GENERATED_OPCODE opcode, ${params})",
  "\x7b",
  "    switch (opcode)",
  "    \x7b",
  "        ${ops}",
  "        default: ${fatal}(\"unknown opcode\");",
  "    \x7d",
  "\x7d",
  "",
  "// Maps a runtime OPCODE onto GENERIC_MACRO(<compile-time opcode>), e.g.",
  "// #define GENERIC_MACRO(COMPILE_OPCODE) run<COMPILE_OPCODE>(args...);",
  "// OPCODE_LOOKUP(GENERIC_MACRO, rt_opcode)",
  "#define OPCODE_LOOKUP(GENERIC_MACRO, OPCODE)\\",
  "switch (OPCODE)\\",
  "\x7b\\",
  "    ${cases}\\",
  "    default: ${fatal}(\"executing bad op\");\\",
  "\x7d",
  "",
  "$\x7b#per_op_decls\x7d",
  "${per_op_decls}",
  "",
  "\x7d",
  "",
  "#endif // ${guard}",
  ""]

def opcodeSourceLines : List String := [
  "#ifdef ${guard}",
  "",
  "namespace ${namespace}",
  "\x7b",
  "",
  "static const std::unordered_map<_GENERATED_OPCODE,std::string,estd::EnumHash> code2name =",
  "\x7b",
  "    ${code2names}",
  "\x7d;",
  "",
  "static const std::unordered_map<std::string,_GENERATED_OPCODE> name2code =",
  "\x7b",
  "    ${name2codes}",
  "\x7d;",
  "",
  "static const std::unordered_set<_GENERATED_OPCODE,estd::EnumHash> commutatives =",
  "\x7b",
  "    ${commcodes}",
  "\x7d;",
  "",
  "static const std::unordered_set<_GENERATED_OPCODE,estd::EnumHash> idempotents =",
  "\x7b",
  "    ${idemcodes}",
  "\x7d;",
  "",
  "std::string name_op (_GENERATED_OPCODE code)",
  "\x7b",
  "    return estd::try_get(code2name, code, \"${sentinel}\");",
  "\x7d",
  "",
  "_GENERATED_OPCODE get_op (const std::string& name)",
  "\x7b",
  "    return estd::try_get(name2code, name, ${sentinel});",
  "\x7d",
  "",
  "bool is_commutative (_GENERATED_OPCODE code)",
  "\x7b",
  "    return estd::has(commutatives, code);",
  "\x7d",
  "",
  "bool is_commutative (const std::string& name)",
  "\x7b",
  "    if (estd::has(name2code, name))",
  "    \x7b",
  "        return is_commutative(name2code.at(name));",
  "    \x7d",
  "    return false;",
  "\x7d",
  "",
  "bool is_idempotent (_GENERATED_OPCODE code)",
  "\x7b",
  "    return estd::has(idempotents, code);",
  "\x7d",
  "",
  "bool is_idempotent (const std::string& name)",
  "\x7b",
  "    if (estd::has(name2code, name))",
  "    \x7b",
  "        return is_idempotent(name2code.at(name));",
  "    \x7d",
  "    return false;",
  "\x7d",
  "",
  "$\x7b#per_op_defns\x7d",
  "${per_op_defns}",
  "",
  "\x7d",
  "",
  "#endif",
  ""]

namespace OpcodeUnit

def headerValues (unit : OpcodeUnit) (config : Config) : Entries String :=
  [("guard", config.guard opcodeHeader),
    ("namespace", config.tableNamespace),
    ("fatal", config.fatal),
    ("opcodes", join "\n    " (unit.table.entries.map enumeratorLine)),
    ("params", trim unit.source.params),
    ("ops", join "\n        " (unit.source.opcodes.entries.map execLine)),
    ("cases",
      join "\\\n    " (unit.source.opcodes.keys.map (lookupLine config.tableNamespace))),
    ("per_op_decls",
      join "\n\n" (unit.behaviours.map fun behaviour ↦ join "\n\n" behaviour.declarations))]

def sourceValues (unit : OpcodeUnit) (config : Config) : Entries String :=
  [("guard", config.guard opcodeHeader),
    ("namespace", config.tableNamespace),
    ("sentinel", unit.table.sentinel),
    ("code2names", join ",\n    " (unit.table.entries.map codeToNameLine)),
    ("name2codes", join ",\n    " (unit.table.entries.map nameToCodeLine)),
    ("commcodes", join ",\n    " unit.commutative),
    ("idemcodes", join ",\n    " unit.idempotent),
    ("per_op_defns",
      join "\n\n" (unit.behaviours.map fun behaviour ↦
        join "\n\n" (behaviour.definitions unit.source.opcodes.keys config.fatal)))]

def headerIncludes (unit : OpcodeUnit) : List String :=
  ["<string>", "\"internal/global/global.hpp\""] ++
    (unit.source.operatorPath.map fun path ↦ "\"" ++ trim path ++ "\"").toList

def files (unit : OpcodeUnit) (config : Config) : Except GenError (Entries SourceFile) := do
  let header ← fill opcodeHeaderLines (unit.headerValues config)
  let source ← fill opcodeSourceLines (unit.sourceValues config)
  .ok [(opcodeHeader, { content := header, includes := unit.headerIncludes }),
    (opcodeSource, { content := source, includes := ["\"estd/contain.hpp\""],
                     references := [opcodeHeader] })]

end OpcodeUnit

def opcodeFiles (ops : OpcodeSection) (config : Config) : Except GenError (Entries SourceFile) := do
  let unit ← OpcodeUnit.ofSection ops
  unit.files config

end SourceGen.Emit
