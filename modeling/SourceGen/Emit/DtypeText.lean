import SourceGen.Emit.Dtypes
import SourceGen.Emit.OpcodeText

/-!
# The dtype files

The header declares the enumeration of the dtypes, the traits that tie it to the scalar types and the
conversion between them; the source file holds the tables between codes and names, sizes and precisions.
-/

namespace SourceGen.Emit

open Spec Text

def dtypeHeader : String := "dtype.hpp"

def dtypeSource : String := "dtype.cpp"

/-! ## Lines of the tables -/

def defineLine (define_ : String) : String :=
  "#define " ++ trim define_

def traitsText (entry : String × Dtype) : String :=
  "template <>\n_GENERATED_DTYPE get_type<" ++ entry.2.ctype ++ "> (void);\n\n" ++
    "template <>\nstruct TypeInfo<" ++ entry.2.ctype ++ ">\n\x7b\n    " ++
    "static const _GENERATED_DTYPE type = " ++ entry.1 ++ ";\n\n    " ++
    "TypeInfo (void) = delete;\n\x7d;"

def conversionText (entry : String × Dtype) : String :=
  "case " ++ entry.1 ++ ":\n        \x7b\n            " ++
    "std::vector<OUTTYPE> temp((" ++ entry.2.ctype ++ "*) input, (" ++ entry.2.ctype ++
    "*) input + nelems);\n            " ++
    "std::memcpy(out, temp.data(), sizeof(OUTTYPE) * nelems);\n        " ++
    "\x7d\n            break;"

def everyTypeLine (entry : String × Dtype) : String :=
  "GENERIC_MACRO(" ++ entry.2.ctype ++ ")"

def typeLookupLine (tableNamespace : String) (entry : String × Dtype) : String :=
  "case " ++ tableNamespace ++ "::" ++ entry.1 ++ ": GENERIC_MACRO(" ++ entry.2.ctype ++ ") break;"

def typeSizeLine (tableNamespace : String) (entry : String × Dtype) : String :=
  "case " ++ tableNamespace ++ "::" ++ entry.1 ++ ": return sizeof(" ++ entry.2.ctype ++ ");"

/-- The rank of a dtype among the others; without one it ranks lowest. -/
def precisionRank (dtype : Dtype) : Nat :=
  (dtype.precision.map UInt32.toNat).getD 0

def precisionLine (tableNamespace : String) (entry : String × Dtype) : String :=
  "case " ++ tableNamespace ++ "::" ++ entry.1 ++ ": return " ++
    toString (precisionRank entry.2) ++ ";"

def getTypeText (entry : String × Dtype) : String :=
  "template <>\n_GENERATED_DTYPE get_type<" ++ entry.2.ctype ++ "> (void)\n\x7b\n    return " ++
    entry.1 ++ ";\n\x7d"

/-! ## The files -/

def dtypeHeaderLines : List String := [
  "#ifndef ${guard}",
  "#define ${guard}",
  "",
  "namespace ${namespace}",
  "\x7b",
  "",
  "${config_defines}",
  "",
  "enum _GENERATED_DTYPE",
  "\x7b",
  "    BAD_TYPE = 0,",
  "    ${enumeration}",
  "    _N_GENERATED_DTYPES,",
  "\x7d;",
  "",
  "const _GENERATED_DTYPE default_dtype = ${default_dtype};",
  "",
  "std::string name_type (_GENERATED_DTYPE type);",
  "",
  "uint8_t type_size (_GENERATED_DTYPE type);",
  "",
  "size_t type_precision (_GENERATED_DTYPE type);",
  "",
  "_GENERATED_DTYPE get_type (const std::string& name);",
  "",
  "template <typename T>",
  "_GENERATED_DTYPE get_type (void)",
  "\x7b",
  "    return BAD_TYPE;",
  "\x7d",
  "",
  "template <typename T>",
  "struct TypeInfo",
  "\x7b",
  "    static const _GENERATED_DTYPE type = BAD_TYPE;",
  "",
  "    TypeInfo (void) = delete;",
  "\x7d;",
  "",
  "${mapping}",
  "",
  "// Converts nelems values of type intype at input into OUTTYPE.",
  "template <typename OUTTYPE>",
  "void type_convert (OUTTYPE* out, const void* input,",
  "    _GENERATED_DTYPE intype, size_t nelems)",
  "\x7b",
  "    switch (intype)",
  "    \x7b",
  "        ${conversions}",
  "        default:",
  "            ${fatalf}(\"invalid input type %s\",",
  "                name_type(intype).c_str());",
  "    \x7d",
  "\x7d",
  "",
  "#define EVERY_TYPE(GENERIC_MACRO)\\",
  "${apply_everytype}",
  "",
  "// Maps a runtime DTYPE onto GENERIC_MACRO(<real type>), e.g.",
  "// #define GENERIC_MACRO(REAL_TYPE) run<REAL_TYPE>(args...);",
  "// TYPE_LOOKUP(GENERIC_MACRO, type_code)",
  "#define TYPE_LOOKUP(GENERIC_MACRO, DTYPE)\\",
  "switch (DTYPE)\\",
  "\x7b\\",
  "    ${cases}\\",
  "    default: ${fatal}(\"executing bad type\");\\",
  "\x7d",
  "",
  "\x7d",
  "",
  "#endif // ${guard}",
  ""]

def dtypeSourceLines : List String := [
  "#ifdef ${guard}",
  "",
  "namespace ${namespace}",
  "\x7b",
  "",
  "static const std::unordered_map<_GENERATED_DTYPE,std::string,estd::EnumHash> type2name =",
  "\x7b",
  "    ${type2names}",
  "\x7d;",
  "",
  "static const std::unordered_map<std::string,_GENERATED_DTYPE> name2type =",
  "\x7b",
  "    ${name2types}",
  "\x7d;",
  "",
  "std::string name_type (_GENERATED_DTYPE type)",
  "\x7b",
  "    return estd::try_get(type2name, type, \"${sentinel}\");",
  "\x7d",
  "",
  "_GENERATED_DTYPE get_type (const std::string& name)",
  "\x7b",
  "    return estd::try_get(name2type, name, ${sentinel});",
  "\x7d",
  "",
  "uint8_t type_size (_GENERATED_DTYPE type)",
  "\x7b",
  "    switch (type)",
  "    \x7b",
  "        ${typesizes}",
  "        default: ${fatal}(\"cannot get size of bad type\");",
  "    \x7d",
  "    return 0;",
  "\x7d",
  "",
  "size_t type_precision (_GENERATED_DTYPE type)",
  "\x7b",
  "    switch (type)",
  "    \x7b",
  "        ${precisions}",
  "        default: break;",
  "    \x7d",
  "    return 0;",
  "\x7d",
  "",
  "${get_types}",
  "",
  "\x7d",
  "",
  "#endif",
  ""]

namespace DtypeUnit

/-- One text for every dtype. -/
def each (unit : DtypeUnit) (separator : String) (text : String × Dtype → String) : String :=
  join separator (unit.dtypes.entries.map text)

def headerValues (unit : DtypeUnit) (config : Config) : Entries String :=
  [("guard", config.guard dtypeHeader),
    ("namespace", config.tableNamespace),
    ("config_defines", join "\n" (unit.defines.map defineLine)),
    ("enumeration", join "\n    " (unit.table.entries.map enumeratorLine)),
    ("default_dtype", unit.default_),
    ("mapping", unit.each "\n\n" traitsText),
    ("conversions", unit.each "\n        " conversionText),
    ("fatalf", config.fatalFormat),
    ("apply_everytype", unit.each "\\\n" everyTypeLine),
    ("cases", unit.each "\\\n    " (typeLookupLine config.tableNamespace)),
    ("fatal", config.fatal)]

def sourceValues (unit : DtypeUnit) (config : Config) : Entries String :=
  [("guard", config.guard dtypeHeader),
    ("namespace", config.tableNamespace),
    ("type2names", join ",\n    " (unit.table.entries.map codeToNameLine)),
    ("name2types", join ",\n    " (unit.table.entries.map nameToCodeLine)),
    ("sentinel", unit.table.sentinel),
    ("typesizes", unit.each "\n        " (typeSizeLine config.tableNamespace)),
    ("fatal", config.fatal),
    ("precisions", unit.each "\n        " (precisionLine config.tableNamespace)),
    ("get_types", unit.each "\n\n" getTypeText)]

def headerIncludes : List String :=
  ["<string>", "<cstring>", "<vector>", "\"internal/global/global.hpp\""]

def files (unit : DtypeUnit) (config : Config) : Except GenError (Entries SourceFile) := do
  let header ← fill dtypeHeaderLines (unit.headerValues config)
  let source ← fill dtypeSourceLines (unit.sourceValues config)
  .ok [(dtypeHeader, { content := header, includes := headerIncludes }),
    (dtypeSource, { content := source, includes := ["\"estd/contain.hpp\""],
                    references := [dtypeHeader] })]

end DtypeUnit

/-- The files of a document's dtypes. -/
def dtypeFiles (dtypes : OrderedMap Dtype) (document : Document) (config : Config) :
    Except GenError (Entries SourceFile) := do
  let unit ← DtypeUnit.ofDtypes dtypes document.defines document.defaultType
  unit.files config

end SourceGen.Emit
