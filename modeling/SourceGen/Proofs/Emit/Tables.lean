import SourceGen.Proofs.CodeTable
import SourceGen.Proofs.Emit.Behaviours
import SourceGen.Proofs.Emit.Dtypes
import SourceGen.Proofs.Emit.Opcodes
import SourceGen.Proofs.Template.Passages
import SourceGen.Proofs.Validation.Validity

/-!
# Codes in the generated files

What the files of opcodes and of scalar types make of a code table: an enumeration, a map in either
direction, and switches with one case for each declared name. That the names are told apart, and from the
sentinel, is what validation asks of a document.
-/

namespace SourceGen.Emit

open Spec Text Template Validation

/-! ## Lists in a file -/

/-- A list between the lines of a file, its items one behind the other with separators between them. -/
structure Listing where
  before : List String
  indent : String
  separator : String
  items : List String
  closing : String := ""
  after : List String

def Listing.lines (listing : Listing) : List String :=
  listing.before ++ (listing.indent ++ join listing.separator listing.items ++ listing.closing) ::
    listing.after

def Listing.text (listing : Listing) : String :=
  join "\n" listing.lines

/-- A file has a switch with exactly the given cases, each a label and what is done there, in their order and
with labels that are told apart. -/
structure HasSwitch (file : String) (cases : Entries String) (switch : Listing) : Prop where
  within : Within switch.text file
  nodup : (cases.map Prod.fst).Nodup
  items_eq : switch.items = cases.map fun entry ↦ caseText entry.1 entry.2

/-! ## Enumerations and maps -/

/-- What the codes of a kind are called in the generated files. -/
structure CodeKind where
  type : String
  stem : String

def opcodeKind : CodeKind := ⟨"_GENERATED_OPCODE", "code"⟩

def dtypeKind : CodeKind := ⟨"_GENERATED_DTYPE", "type"⟩

namespace CodeKind

/-- The enumeration in which every name of a table has its code. -/
def enumeration (kind : CodeKind) (table : CodeTable) : Listing where
  before := ["enum " ++ kind.type, "\x7b", "    " ++ table.sentinel ++ " = 0,"]
  indent := "    "
  separator := "\n    "
  items := table.names.map fun name ↦ name ++ " = " ++ toString (table.encode name) ++ ","
  after := ["    _N" ++ kind.type ++ "S,", "\x7d;"]

/-- A map from codes to names. A code is written as the name that the enumeration has for it. -/
def codeToName (kind : CodeKind) (table : CodeTable) (pairs : List (Nat × String)) : Listing where
  before := ["static const std::unordered_map<" ++ kind.type ++ ",std::string,estd::EnumHash> " ++
    kind.stem ++ "2name =", "\x7b"]
  indent := "    "
  separator := ",\n    "
  items := pairs.map fun pair ↦ "\x7b " ++ table.decode pair.1 ++ ", \"" ++ pair.2 ++ "\" \x7d"
  after := ["\x7d;"]

/-- A map from names to codes, which are written as in the other direction. -/
def nameToCode (kind : CodeKind) (table : CodeTable) (pairs : List (String × Nat)) : Listing where
  before := ["static const std::unordered_map<std::string," ++ kind.type ++ "> name2" ++ kind.stem ++
    " =", "\x7b"]
  indent := "    "
  separator := ",\n    "
  items := pairs.map fun pair ↦ "\x7b \"" ++ pair.1 ++ "\", " ++ table.decode pair.2 ++ " \x7d"
  after := ["\x7d;"]

end CodeKind

/-- The header enumerates the codes of a table, and the source maps them to their names and back. -/
structure Tabulates (kind : CodeKind) (table : CodeTable) (header source : String) : Prop where
  enumeration : Within (kind.enumeration table).text header
  codeToName : Within (kind.codeToName table table.codeEntries).text source
  nameToCode : Within (kind.nameToCode table table.entries).text source

section Kind

variable {table : CodeTable} (kind : CodeKind)

theorem items_enumeration (hnodup : table.names.Nodup) :
    (kind.enumeration table).items = table.entries.map enumeratorLine := by
  rw [CodeTable.entries_eq_map hnodup, List.map_map]
  rfl

theorem items_nameToCode (hnodup : table.names.Nodup) (hsentinel : table.sentinel ∉ table.names) :
    (kind.nameToCode table table.entries).items = table.entries.map nameToCodeLine := by
  refine List.map_congr_left fun entry hentry ↦ ?_
  rw [CodeTable.decode_of_mem_entries hnodup hsentinel hentry]
  rfl

theorem items_codeToName (hnodup : table.names.Nodup) (hsentinel : table.sentinel ∉ table.names) :
    (kind.codeToName table table.codeEntries).items = table.entries.map codeToNameLine := by
  rw [CodeKind.codeToName, CodeTable.codeEntries, List.map_map]
  refine List.map_congr_left fun entry hentry ↦ ?_
  rw [Function.comp_apply, Prod.fst_swap, CodeTable.decode_of_mem_entries hnodup hsentinel hentry]
  rfl

end Kind

/-! ## Switches -/

/-- The label of a name in the namespace of the tables. -/
def qualifiedLabel (config : Config) (name : String) : String :=
  config.tableNamespace ++ "::" ++ name

theorem nodup_map_qualifiedLabel (config : Config) {names : List String} (h : names.Nodup) :
    (names.map (qualifiedLabel config)).Nodup := by
  refine h.map fun name name' heq ↦ ?_
  have hchars := congrArg String.toList heq
  simp only [qualifiedLabel, String.toList_append, List.append_cancel_left_eq] at hchars
  exact String.toList_inj.mp hchars

/-- The cases of `typed_exec`, which have the statements of the opcodes. -/
def executionCases (ops : OpcodeSection) : Entries String :=
  ops.opcodes.entries.map fun entry ↦ (entry.1, " " ++ trim entry.2.statement ++ " break;")

/-- The switch of `typed_exec`. -/
def executionSwitch (ops : OpcodeSection) (config : Config) : Listing where
  before := ["void typed_exec (_GENERATED_OPCODE opcode, " ++ trim ops.params ++ ")", "\x7b",
    "    switch (opcode)", "    \x7b"]
  indent := "        "
  separator := "\n        "
  items := (executionCases ops).map fun entry ↦ caseText entry.1 entry.2
  after := ["        default: " ++ config.fatal ++ "(\"unknown opcode\");", "    \x7d", "\x7d"]

/-- The cases of `OPCODE_LOOKUP`, which give a macro the code of the label. -/
def opcodeLookupCases (ops : OpcodeSection) (config : Config) : Entries String :=
  ops.opcodes.keys.map fun name ↦
    (qualifiedLabel config name, " GENERIC_MACRO(::" ++ qualifiedLabel config name ++ ") break;")

/-- The switch of `OPCODE_LOOKUP`. -/
def opcodeLookup (ops : OpcodeSection) (config : Config) : Listing where
  before := ["#define OPCODE_LOOKUP(GENERIC_MACRO, OPCODE)\\", "switch (OPCODE)\\", "\x7b\\"]
  indent := "    "
  separator := "\\\n    "
  items := (opcodeLookupCases ops config).map fun entry ↦ caseText entry.1 entry.2
  closing := "\\"
  after := ["    default: " ++ config.fatal ++ "(\"executing bad op\");\\", "\x7d"]

/-- The cases of a dispatcher, which call the behaviour for the opcode. -/
def dispatchCases (name : String) (behaviour : Behaviour) (opcodes : List String) : Entries String :=
  opcodes.map fun opcode ↦
    (opcode, " return " ++ name ++ "<" ++ opcode ++ ">(" ++ join ", " (behaviour.args.map (·.name)) ++ ");")

/-- The switch with which a behaviour chooses its specialisation. -/
def dispatchSwitch (name : String) (behaviour : Behaviour) (opcodes : List String) : Listing where
  before := [(dispatcherRoutine name behaviour).definition.text, "\x7b", "    switch (opcode)", "    \x7b"]
  indent := "        "
  separator := "\n        "
  items := (dispatchCases name behaviour opcodes).map fun entry ↦ caseText entry.1 entry.2
  after := ["        default: break;", "    \x7d"]

/-- The cases of `TYPE_LOOKUP`, which give a macro the type of the label. -/
def typeLookupCases (dtypes : OrderedMap Dtype) (config : Config) : Entries String :=
  dtypes.entries.map fun entry ↦
    (qualifiedLabel config entry.1, " GENERIC_MACRO(" ++ entry.2.ctype ++ ") break;")

/-- The switch of `TYPE_LOOKUP`. -/
def typeLookup (dtypes : OrderedMap Dtype) (config : Config) : Listing where
  before := ["#define TYPE_LOOKUP(GENERIC_MACRO, DTYPE)\\", "switch (DTYPE)\\", "\x7b\\"]
  indent := "    "
  separator := "\\\n    "
  items := (typeLookupCases dtypes config).map fun entry ↦ caseText entry.1 entry.2
  closing := "\\"
  after := ["    default: " ++ config.fatal ++ "(\"executing bad type\");\\", "\x7d"]

/-- The cases of `type_convert`, which read the input as values of the type of the label. -/
def conversionCases (dtypes : OrderedMap Dtype) : Entries String :=
  dtypes.entries.map fun entry ↦ (entry.1, "\n        \x7b\n            std::vector<OUTTYPE> temp((" ++
    entry.2.ctype ++ "*) input, (" ++ entry.2.ctype ++ "*) input + nelems);\n            " ++
    "std::memcpy(out, temp.data(), sizeof(OUTTYPE) * nelems);\n        \x7d\n            break;")

/-- The switch of `type_convert`. -/
def conversionSwitch (dtypes : OrderedMap Dtype) (config : Config) : Listing where
  before := ["void type_convert (OUTTYPE* out, const void* input,",
    "    _GENERATED_DTYPE intype, size_t nelems)", "\x7b", "    switch (intype)", "    \x7b"]
  indent := "        "
  separator := "\n        "
  items := (conversionCases dtypes).map fun entry ↦ caseText entry.1 entry.2
  after := ["        default:", "            " ++ config.fatalFormat ++ "(\"invalid input type %s\",",
    "                name_type(intype).c_str());", "    \x7d", "\x7d"]

def sizeCases (dtypes : OrderedMap Dtype) (config : Config) : Entries String :=
  dtypes.entries.map fun entry ↦
    (qualifiedLabel config entry.1, " return sizeof(" ++ entry.2.ctype ++ ");")

/-- The switch of `type_size`. -/
def sizeSwitch (dtypes : OrderedMap Dtype) (config : Config) : Listing where
  before := ["uint8_t type_size (_GENERATED_DTYPE type)", "\x7b", "    switch (type)", "    \x7b"]
  indent := "        "
  separator := "\n        "
  items := (sizeCases dtypes config).map fun entry ↦ caseText entry.1 entry.2
  after := ["        default: " ++ config.fatal ++ "(\"cannot get size of bad type\");", "    \x7d",
    "    return 0;", "\x7d"]

/-- The cases of `type_precision`. A type without a rank has the lowest. -/
def precisionCases (dtypes : OrderedMap Dtype) (config : Config) : Entries String :=
  dtypes.entries.map fun entry ↦ (qualifiedLabel config entry.1,
    " return " ++ toString ((entry.2.precision.map UInt32.toNat).getD 0) ++ ";")

/-- The switch of `type_precision`. -/
def precisionSwitch (dtypes : OrderedMap Dtype) (config : Config) : Listing where
  before := ["size_t type_precision (_GENERATED_DTYPE type)", "\x7b", "    switch (type)", "    \x7b"]
  indent := "        "
  separator := "\n        "
  items := (precisionCases dtypes config).map fun entry ↦ caseText entry.1 entry.2
  after := ["        default: break;", "    \x7d", "    return 0;", "\x7d"]

/-! ## Labels -/

theorem labels_executionCases (ops : OpcodeSection) :
    (executionCases ops).map Prod.fst = ops.opcodes.keys :=
  List.map_map

theorem labels_opcodeLookupCases (ops : OpcodeSection) (config : Config) :
    (opcodeLookupCases ops config).map Prod.fst = ops.opcodes.keys.map (qualifiedLabel config) :=
  List.map_map

theorem labels_dispatchCases (name : String) (behaviour : Behaviour) (opcodes : List String) :
    (dispatchCases name behaviour opcodes).map Prod.fst = opcodes :=
  List.map_map.trans (List.map_id opcodes)

theorem labels_conversionCases (dtypes : OrderedMap Dtype) :
    (conversionCases dtypes).map Prod.fst = dtypes.keys :=
  List.map_map

/-- The labels of the cases over types in the namespace of the tables. -/
theorem labels_qualified (dtypes : OrderedMap Dtype) (config : Config) (action : String × Dtype → String) :
    (dtypes.entries.map fun entry ↦ (qualifiedLabel config entry.1, action entry)).map Prod.fst =
      dtypes.keys.map (qualifiedLabel config) := by
  rw [OrderedMap.keys, Entries.keys, List.map_map, List.map_map]
  rfl

theorem nodup_labels_qualified (dtypes : OrderedMap Dtype) (config : Config)
    (action : String × Dtype → String) :
    ((dtypes.entries.map fun entry ↦ (qualifiedLabel config entry.1, action entry)).map Prod.fst).Nodup := by
  rw [labels_qualified]
  exact nodup_map_qualifiedLabel config dtypes.nodup

/-! ## Opcodes -/

/-- The files of opcodes tabulate the codes and have the switches over them. -/
structure OpcodesTabulated (ops : OpcodeSection) (config : Config) (header source : String) :
    Prop where
  tabulates : Tabulates opcodeKind ⟨badOp, ops.opcodes.keys⟩ header source
  execution : HasSwitch header (executionCases ops) (executionSwitch ops config)
  lookup : HasSwitch header (opcodeLookupCases ops config) (opcodeLookup ops config)
  dispatch : ∀ name behaviour, (name, behaviour) ∈ ops.behaviours.entries →
    HasSwitch source (dispatchCases name behaviour ops.opcodes.keys)
      (dispatchSwitch name behaviour ops.opcodes.keys)

section Opcodes

variable {ops : OpcodeSection} {unit : OpcodeUnit} {config : Config} {text : String}

theorem OpcodeUnit.within_header {texts : List String}
    (hfill : fill opcodeHeaderLines (unit.headerValues config) = .ok text) (first count : Nat)
    (hfirst : 0 < first) (hlast : first + count < opcodeHeaderLines.length)
    (h : List.Forall₂ (FillsTo (unit.headerValues config)) ((opcodeHeaderLines.drop first).take count)
      texts) : Within (join "\n" texts) text :=
  within_of_fillsTo (opcodeHeaderLines_readWithin unit config)
    (by simp [OpcodeUnit.headerValues, Entries.keys]) hfill first count hfirst hlast h

theorem OpcodeUnit.within_source {texts : List String}
    (hfill : fill opcodeSourceLines (unit.sourceValues config) = .ok text) (first count : Nat)
    (hfirst : 0 < first) (hlast : first + count < opcodeSourceLines.length)
    (h : List.Forall₂ (FillsTo (unit.sourceValues config)) ((opcodeSourceLines.drop first).take count)
      texts) : Within (join "\n" texts) text :=
  within_of_fillsTo (opcodeSourceLines_readWithin unit config)
    (by simp [OpcodeUnit.sourceValues, Entries.keys]) hfill first count hfirst hlast h

theorem OpcodeUnit.within_enumeration
    (hfill : fill opcodeHeaderLines (unit.headerValues config) = .ok text) :
    Within (opcodeKind.enumeration unit.table).text text := by
  refine unit.within_header hfill 6 6 (by decide) (by decide) ?_
  rw [Listing.lines, items_enumeration opcodeKind unit.source.opcodes.nodup]
  repeat refine .cons (FillsTo.plain (by decide) rfl) ?_
  refine .cons (.slot "    " "opcodes" "" rfl) ?_
  repeat refine .cons (FillsTo.plain (by decide) rfl) ?_
  exact .nil

theorem items_executionSwitch (ops : OpcodeSection) (config : Config) :
    (executionSwitch ops config).items = ops.opcodes.entries.map execLine := by
  have hlabel : ": " = ":" ++ " " := rfl
  rw [executionSwitch, executionCases, List.map_map]
  refine List.map_congr_left fun entry _ ↦ ?_
  unfold execLine
  simp only [Function.comp_apply, caseText, hlabel, String.append_assoc]

theorem items_opcodeLookup (ops : OpcodeSection) (config : Config) :
    (opcodeLookup ops config).items = ops.opcodes.keys.map (lookupLine config.tableNamespace) := by
  have hlabel : ": GENERIC_MACRO(::" = ":" ++ " GENERIC_MACRO(::" := rfl
  rw [opcodeLookup, opcodeLookupCases, List.map_map]
  refine List.map_congr_left fun name _ ↦ ?_
  unfold lookupLine
  simp only [Function.comp_apply, caseText, qualifiedLabel, hlabel, String.append_assoc]

theorem OpcodeUnit.within_executionSwitch
    (hfill : fill opcodeHeaderLines (unit.headerValues config) = .ok text) :
    Within (executionSwitch unit.source config).text text := by
  refine unit.within_header hfill 26 8 (by decide) (by decide) ?_
  rw [Listing.lines, items_executionSwitch]
  refine .cons (.slot "void typed_exec (_GENERATED_OPCODE opcode, " "params" ")" rfl) ?_
  repeat refine .cons (FillsTo.plain (by decide) rfl) ?_
  refine .cons (.slot "        " "ops" "" rfl) ?_
  refine .cons (.slot "        default: " "fatal" "(\"unknown opcode\");" rfl) ?_
  repeat refine .cons (FillsTo.plain (by decide) rfl) ?_
  exact .nil

theorem OpcodeUnit.within_opcodeLookup
    (hfill : fill opcodeHeaderLines (unit.headerValues config) = .ok text) :
    Within (opcodeLookup unit.source config).text text := by
  refine unit.within_header hfill 38 6 (by decide) (by decide) ?_
  rw [Listing.lines, items_opcodeLookup]
  repeat refine .cons (FillsTo.plain (by decide) rfl) ?_
  refine .cons (.slot "    " "cases" "\\" rfl) ?_
  refine .cons (.slot "    default: " "fatal" "(\"executing bad op\");\\" rfl) ?_
  repeat refine .cons (FillsTo.plain (by decide) rfl) ?_
  exact .nil

theorem OpcodeUnit.within_codeToName (hfresh : badOp ∉ unit.source.opcodes.keys)
    (hfill : fill opcodeSourceLines (unit.sourceValues config) = .ok text) :
    Within (opcodeKind.codeToName unit.table unit.table.codeEntries).text text := by
  refine unit.within_source hfill 5 4 (by decide) (by decide) ?_
  rw [Listing.lines, items_codeToName opcodeKind unit.source.opcodes.nodup hfresh]
  repeat refine .cons (FillsTo.plain (by decide) rfl) ?_
  refine .cons (.slot "    " "code2names" "" rfl) ?_
  repeat refine .cons (FillsTo.plain (by decide) rfl) ?_
  exact .nil

theorem OpcodeUnit.within_nameToCode (hfresh : badOp ∉ unit.source.opcodes.keys)
    (hfill : fill opcodeSourceLines (unit.sourceValues config) = .ok text) :
    Within (opcodeKind.nameToCode unit.table unit.table.entries).text text := by
  refine unit.within_source hfill 10 4 (by decide) (by decide) ?_
  rw [Listing.lines, items_nameToCode opcodeKind unit.source.opcodes.nodup hfresh]
  repeat refine .cons (FillsTo.plain (by decide) rfl) ?_
  refine .cons (.slot "    " "name2codes" "" rfl) ?_
  repeat refine .cons (FillsTo.plain (by decide) rfl) ?_
  exact .nil

theorem OpcodeUnit.hasSwitch_opcodeLookup
    (hfill : fill opcodeHeaderLines (unit.headerValues config) = .ok text) :
    HasSwitch text (opcodeLookupCases unit.source config) (opcodeLookup unit.source config) where
  within := unit.within_opcodeLookup hfill
  nodup := by
    rw [labels_opcodeLookupCases]
    exact nodup_map_qualifiedLabel config unit.source.opcodes.nodup
  items_eq := rfl

theorem within_dispatchingText (name : String) (behaviour : Behaviour) (opcodes : List String)
    (fatal : String) : Within (dispatchSwitch name behaviour opcodes).text
      (dispatchingText name behaviour (opcodes.map (dispatchCase name behaviour)) fatal) := by
  refine ⟨[], ("\n    " ++ fatal ++ "(\"cannot " ++ name ++ " with a bad opcode\");\n\x7d").toList, ?_⟩
  have hitems : (dispatchSwitch name behaviour opcodes).items = opcodes.map (dispatchCase name behaviour) :=
    List.map_map
  rw [Listing.text, Listing.lines, hitems]
  simp [dispatchSwitch, dispatchingText, braces, join_cons_cons]

theorem OpcodeUnit.within_dispatchSwitch
    (hfill : fill opcodeSourceLines (unit.sourceValues config) = .ok text) {behaviour : BehaviourUnit}
    (h : behaviour ∈ unit.behaviours) :
    Within (dispatchSwitch behaviour.name behaviour.behaviour unit.source.opcodes.keys).text text := by
  have hdispatcher : behaviour.dispatcherText unit.source.opcodes.keys config.fatal ∈
      behaviour.definitions unit.source.opcodes.keys config.fatal :=
    List.mem_append_right _ (List.mem_singleton_self _)
  have hdefinitions : join "\n\n" (behaviour.definitions unit.source.opcodes.keys config.fatal) ∈
      unit.behaviours.map fun behaviour ↦
        join "\n\n" (behaviour.definitions unit.source.opcodes.keys config.fatal) :=
    List.mem_map_of_mem h
  have hline := unit.within_source hfill 64 1 (by decide) (by decide)
    (.cons (.slot "" "per_op_defns" "" rfl) .nil)
  rw [join_singleton, String.empty_append, String.append_empty] at hline
  rw [behaviour.dispatcherText_eq] at hdispatcher
  exact (within_dispatchingText ..).trans <| (within_join hdispatcher).trans <|
    (within_join hdefinitions).trans hline

theorem opcodesTabulated {unit : OpcodeUnit} {header source : String}
    (hunit : OpcodeUnit.ofSection ops = .ok unit) (hfresh : badOp ∉ ops.opcodes.keys)
    (hheader : fill opcodeHeaderLines (unit.headerValues config) = .ok header)
    (hsource : fill opcodeSourceLines (unit.sourceValues config) = .ok source) :
    OpcodesTabulated ops config header source := by
  obtain ⟨rfl, hbehaviours⟩ := OpcodeUnit.ofSection_eq_ok hunit
  refine ⟨⟨unit.within_enumeration hheader, unit.within_codeToName hfresh hsource,
    unit.within_nameToCode hfresh hsource⟩, ?_, ?_, ?_⟩
  · exact ⟨unit.within_executionSwitch hheader, (labels_executionCases unit.source).symm ▸ unit.source.opcodes.nodup,
      rfl⟩
  · exact unit.hasSwitch_opcodeLookup hheader
  · intro name behaviour hmem
    rw [← map_behaviourUnits hbehaviours] at hmem
    obtain ⟨⟨name, behaviour, specializations⟩, hspecialized, heq⟩ := List.mem_map.mp hmem
    cases heq
    have hlabels := labels_dispatchCases name behaviour unit.source.opcodes.keys
    exact ⟨unit.within_dispatchSwitch hsource hspecialized, hlabels.symm ▸ unit.source.opcodes.nodup, rfl⟩

end Opcodes

/-! ## Scalar types -/

/-- The files of scalar types tabulate the codes and have the switches over them. -/
structure DtypesTabulated (dtypes : OrderedMap Dtype) (config : Config) (header source : String) :
    Prop where
  tabulates : Tabulates dtypeKind ⟨badType, dtypes.keys⟩ header source
  lookup : HasSwitch header (typeLookupCases dtypes config) (typeLookup dtypes config)
  conversion : HasSwitch header (conversionCases dtypes) (conversionSwitch dtypes config)
  size : HasSwitch source (sizeCases dtypes config) (sizeSwitch dtypes config)
  precision : HasSwitch source (precisionCases dtypes config) (precisionSwitch dtypes config)

section Dtypes

variable {unit : DtypeUnit} {config : Config} {text : String}

theorem DtypeUnit.within_header {texts : List String}
    (hfill : fill dtypeHeaderLines (unit.headerValues config) = .ok text) (first count : Nat)
    (hfirst : 0 < first) (hlast : first + count < dtypeHeaderLines.length)
    (h : List.Forall₂ (FillsTo (unit.headerValues config)) ((dtypeHeaderLines.drop first).take count)
      texts) : Within (join "\n" texts) text :=
  within_of_fillsTo (dtypeHeaderLines_readWithin unit config)
    (by simp [DtypeUnit.headerValues, Entries.keys]) hfill first count hfirst hlast h

theorem DtypeUnit.within_source {texts : List String}
    (hfill : fill dtypeSourceLines (unit.sourceValues config) = .ok text) (first count : Nat)
    (hfirst : 0 < first) (hlast : first + count < dtypeSourceLines.length)
    (h : List.Forall₂ (FillsTo (unit.sourceValues config)) ((dtypeSourceLines.drop first).take count)
      texts) : Within (join "\n" texts) text :=
  within_of_fillsTo (dtypeSourceLines_readWithin unit config)
    (by simp [DtypeUnit.sourceValues, Entries.keys]) hfill first count hfirst hlast h

theorem DtypeUnit.within_enumeration
    (hfill : fill dtypeHeaderLines (unit.headerValues config) = .ok text) :
    Within (dtypeKind.enumeration unit.table).text text := by
  refine unit.within_header hfill 8 6 (by decide) (by decide) ?_
  rw [Listing.lines, items_enumeration dtypeKind unit.dtypes.nodup]
  repeat refine .cons (FillsTo.plain (by decide) rfl) ?_
  refine .cons (.slot "    " "enumeration" "" rfl) ?_
  repeat refine .cons (FillsTo.plain (by decide) rfl) ?_
  exact .nil

theorem items_conversionSwitch (dtypes : OrderedMap Dtype) (config : Config) :
    (conversionSwitch dtypes config).items = dtypes.entries.map conversionText := by
  rw [conversionSwitch, conversionCases, List.map_map]
  refine List.map_congr_left fun entry _ ↦ ?_
  unfold conversionText
  simp only [Function.comp_apply, caseText, String.append_assoc]
  rfl

theorem items_typeLookup (dtypes : OrderedMap Dtype) (config : Config) :
    (typeLookup dtypes config).items = dtypes.entries.map (typeLookupLine config.tableNamespace) := by
  have hlabel : ": GENERIC_MACRO(" = ":" ++ " GENERIC_MACRO(" := rfl
  rw [typeLookup, typeLookupCases, List.map_map]
  refine List.map_congr_left fun entry _ ↦ ?_
  unfold typeLookupLine
  simp only [Function.comp_apply, caseText, qualifiedLabel, hlabel, String.append_assoc]

theorem items_sizeSwitch (dtypes : OrderedMap Dtype) (config : Config) :
    (sizeSwitch dtypes config).items = dtypes.entries.map (typeSizeLine config.tableNamespace) := by
  have hlabel : ": return sizeof(" = ":" ++ " return sizeof(" := rfl
  rw [sizeSwitch, sizeCases, List.map_map]
  refine List.map_congr_left fun entry _ ↦ ?_
  unfold typeSizeLine
  simp only [Function.comp_apply, caseText, qualifiedLabel, hlabel, String.append_assoc]

theorem items_precisionSwitch (dtypes : OrderedMap Dtype) (config : Config) :
    (precisionSwitch dtypes config).items = dtypes.entries.map (precisionLine config.tableNamespace) := by
  have hlabel : ": return " = ":" ++ " return " := rfl
  rw [precisionSwitch, precisionCases, List.map_map]
  refine List.map_congr_left fun entry _ ↦ ?_
  unfold precisionLine precisionRank
  simp only [Function.comp_apply, caseText, qualifiedLabel, hlabel, String.append_assoc]

theorem DtypeUnit.within_conversionSwitch
    (hfill : fill dtypeHeaderLines (unit.headerValues config) = .ok text) :
    Within (conversionSwitch unit.dtypes config).text text := by
  refine unit.within_header hfill 43 11 (by decide) (by decide) ?_
  rw [Listing.lines, items_conversionSwitch]
  repeat refine .cons (FillsTo.plain (by decide) rfl) ?_
  refine .cons (.slot "        " "conversions" "" rfl) ?_
  refine .cons (.plain (by decide) rfl) ?_
  refine .cons (.slot "            " "fatalf" "(\"invalid input type %s\"," rfl) ?_
  repeat refine .cons (FillsTo.plain (by decide) rfl) ?_
  exact .nil

theorem DtypeUnit.within_typeLookup
    (hfill : fill dtypeHeaderLines (unit.headerValues config) = .ok text) :
    Within (typeLookup unit.dtypes config).text text := by
  refine unit.within_header hfill 61 6 (by decide) (by decide) ?_
  rw [Listing.lines, items_typeLookup]
  repeat refine .cons (FillsTo.plain (by decide) rfl) ?_
  refine .cons (.slot "    " "cases" "\\" rfl) ?_
  refine .cons (.slot "    default: " "fatal" "(\"executing bad type\");\\" rfl) ?_
  repeat refine .cons (FillsTo.plain (by decide) rfl) ?_
  exact .nil

theorem DtypeUnit.within_codeToName (hfresh : badType ∉ unit.dtypes.keys)
    (hfill : fill dtypeSourceLines (unit.sourceValues config) = .ok text) :
    Within (dtypeKind.codeToName unit.table unit.table.codeEntries).text text := by
  refine unit.within_source hfill 5 4 (by decide) (by decide) ?_
  rw [Listing.lines, items_codeToName dtypeKind unit.dtypes.nodup hfresh]
  repeat refine .cons (FillsTo.plain (by decide) rfl) ?_
  refine .cons (.slot "    " "type2names" "" rfl) ?_
  repeat refine .cons (FillsTo.plain (by decide) rfl) ?_
  exact .nil

theorem DtypeUnit.within_nameToCode (hfresh : badType ∉ unit.dtypes.keys)
    (hfill : fill dtypeSourceLines (unit.sourceValues config) = .ok text) :
    Within (dtypeKind.nameToCode unit.table unit.table.entries).text text := by
  refine unit.within_source hfill 10 4 (by decide) (by decide) ?_
  rw [Listing.lines, items_nameToCode dtypeKind unit.dtypes.nodup hfresh]
  repeat refine .cons (FillsTo.plain (by decide) rfl) ?_
  refine .cons (.slot "    " "name2types" "" rfl) ?_
  repeat refine .cons (FillsTo.plain (by decide) rfl) ?_
  exact .nil

theorem DtypeUnit.within_sizeSwitch
    (hfill : fill dtypeSourceLines (unit.sourceValues config) = .ok text) :
    Within (sizeSwitch unit.dtypes config).text text := by
  refine unit.within_source hfill 25 9 (by decide) (by decide) ?_
  rw [Listing.lines, items_sizeSwitch]
  repeat refine .cons (FillsTo.plain (by decide) rfl) ?_
  refine .cons (.slot "        " "typesizes" "" rfl) ?_
  refine .cons (.slot "        default: " "fatal" "(\"cannot get size of bad type\");"
    rfl) ?_
  repeat refine .cons (FillsTo.plain (by decide) rfl) ?_
  exact .nil

theorem DtypeUnit.within_precisionSwitch
    (hfill : fill dtypeSourceLines (unit.sourceValues config) = .ok text) :
    Within (precisionSwitch unit.dtypes config).text text := by
  refine unit.within_source hfill 35 9 (by decide) (by decide) ?_
  rw [Listing.lines, items_precisionSwitch]
  repeat refine .cons (FillsTo.plain (by decide) rfl) ?_
  refine .cons (.slot "        " "precisions" "" rfl) ?_
  repeat refine .cons (FillsTo.plain (by decide) rfl) ?_
  exact .nil

theorem DtypeUnit.hasSwitch_typeLookup
    (hfill : fill dtypeHeaderLines (unit.headerValues config) = .ok text) :
    HasSwitch text (typeLookupCases unit.dtypes config) (typeLookup unit.dtypes config) where
  within := unit.within_typeLookup hfill
  nodup := nodup_labels_qualified unit.dtypes config _
  items_eq := rfl

theorem dtypesTabulated {header source : String} (hfresh : badType ∉ unit.dtypes.keys)
    (hheader : fill dtypeHeaderLines (unit.headerValues config) = .ok header)
    (hsource : fill dtypeSourceLines (unit.sourceValues config) = .ok source) :
    DtypesTabulated unit.dtypes config header source where
  tabulates := ⟨unit.within_enumeration hheader, unit.within_codeToName hfresh hsource,
    unit.within_nameToCode hfresh hsource⟩
  lookup := unit.hasSwitch_typeLookup hheader
  conversion := ⟨unit.within_conversionSwitch hheader,
    (labels_conversionCases unit.dtypes).symm ▸ unit.dtypes.nodup, rfl⟩
  size := ⟨unit.within_sizeSwitch hsource, nodup_labels_qualified unit.dtypes config _, rfl⟩
  precision := ⟨unit.within_precisionSwitch hsource, nodup_labels_qualified unit.dtypes config _, rfl⟩

end Dtypes

/-! ## Documents -/

theorem badOp_not_mem_keys {ops : OpcodeSection} (h : ValidOpcodes ops) : badOp ∉ ops.opcodes.keys :=
  fun hmem ↦ (h.codes badOp hmem).2 List.mem_cons_self

theorem badType_not_mem_keys {dtypes : OrderedMap Dtype}
    (h : ∀ code dtype, (code, dtype) ∈ dtypes.entries → ValidDtype code dtype) :
    badType ∉ dtypes.keys := by
  intro hmem
  obtain ⟨⟨code, dtype⟩, hentry, rfl⟩ := List.mem_map.mp hmem
  exact (h badType dtype hentry).code.2 List.mem_cons_self

theorem exists_opcodeFiles {ops : OpcodeSection} (config : Config) (hvalid : ValidOpcodes ops)
    (hdeclared : ops.opcodes.entries ≠ []) : ∃ unit header source,
      OpcodeUnit.ofSection ops = .ok unit ∧
        fill opcodeHeaderLines (unit.headerValues config) = .ok header.content ∧
          fill opcodeSourceLines (unit.sourceValues config) = .ok source.content ∧
            opcodeFiles ops config = .ok [(opcodeHeader, header), (opcodeSource, source)] := by
  obtain ⟨unit, hunit⟩ := failure?_eq_none_iff.mp
    (OpcodeUnit.failure?_ofSection_eq_none_iff.mpr ⟨hdeclared, hvalid.overrides⟩)
  obtain ⟨header, hheader⟩ := fill_of_readsWithin (opcodeHeaderLines_readWithin unit config)
  obtain ⟨source, hsource⟩ := fill_of_readsWithin (opcodeSourceLines_readWithin unit config)
  refine ⟨unit, { content := header, includes := unit.headerIncludes },
    { content := source, includes := ["\"estd/contain.hpp\""], references := [opcodeHeader] }, hunit,
    hheader, hsource, ?_⟩
  rw [opcodeFiles, hunit, ok_bind, OpcodeUnit.files, hheader, ok_bind, hsource, ok_bind]

theorem exists_dtypeFiles {dtypes : OrderedMap Dtype} {document : Document} (config : Config)
    (hdefault : DefaultResolves dtypes document.defaultType) : ∃ unit header source,
      DtypeUnit.ofDtypes dtypes document.defines document.defaultType = .ok unit ∧
        fill dtypeHeaderLines (unit.headerValues config) = .ok header.content ∧
          fill dtypeSourceLines (unit.sourceValues config) = .ok source.content ∧
            dtypeFiles dtypes document config = .ok [(dtypeHeader, header), (dtypeSource, source)] := by
  obtain ⟨unit, hunit⟩ : ∃ unit, DtypeUnit.ofDtypes dtypes document.defines document.defaultType =
      .ok unit := failure?_eq_none_iff.mp (DtypeUnit.failure?_ofDtypes_eq_none_iff.mpr hdefault)
  obtain ⟨header, hheader⟩ := fill_of_readsWithin (dtypeHeaderLines_readWithin unit config)
  obtain ⟨source, hsource⟩ := fill_of_readsWithin (dtypeSourceLines_readWithin unit config)
  refine ⟨unit, { content := header, includes := DtypeUnit.headerIncludes },
    { content := source, includes := ["\"estd/contain.hpp\""], references := [dtypeHeader] }, hunit,
    hheader, hsource, ?_⟩
  rw [dtypeFiles, hunit, ok_bind, DtypeUnit.files, hheader, ok_bind, hsource, ok_bind]

theorem opcodeFiles_tabulated {ops : OpcodeSection} (config : Config) (hvalid : ValidOpcodes ops)
    (hdeclared : ops.opcodes.entries ≠ []) : ∃ header source,
      opcodeFiles ops config = .ok [(opcodeHeader, header), (opcodeSource, source)] ∧
        OpcodesTabulated ops config header.content source.content := by
  obtain ⟨unit, header, source, hunit, hheader, hsource, hfiles⟩ :=
    exists_opcodeFiles config hvalid hdeclared
  exact ⟨header, source, hfiles,
    opcodesTabulated hunit (badOp_not_mem_keys hvalid) hheader hsource⟩

theorem dtypeFiles_tabulated {dtypes : OrderedMap Dtype} {document : Document} (config : Config)
    (hvalid : ∀ code dtype, (code, dtype) ∈ dtypes.entries → ValidDtype code dtype)
    (hdefault : DefaultResolves dtypes document.defaultType) : ∃ header source,
      dtypeFiles dtypes document config = .ok [(dtypeHeader, header), (dtypeSource, source)] ∧
        DtypesTabulated dtypes config header.content source.content := by
  obtain ⟨unit, header, source, hunit, hheader, hsource, hfiles⟩ := exists_dtypeFiles config hdefault
  obtain rfl := DtypeUnit.dtypes_of_ofDtypes_eq_ok hunit
  exact ⟨header, source, hfiles,
    dtypesTabulated (badType_not_mem_keys hvalid) hheader hsource⟩

/-- The default type that a valid document names is declared. -/
theorem defaultResolves_of_valid {document : Document} (hvalid : Valid document)
    {dtypes : OrderedMap Dtype} (hdtypes : document.dtype = some dtypes)
    (hdeclared : dtypes.entries ≠ []) : DefaultResolves dtypes document.defaultType := by
  refine ⟨hdeclared, fun name hname ↦ ?_⟩
  obtain ⟨given, hgiven, hmem⟩ := hvalid.defaultType name hname
  obtain rfl : given = dtypes := Option.some.inj (hgiven.symm.trans hdtypes)
  exact hmem

/-- In the files of a document that validation accepts, the codes of opcodes and of scalar types lose
nothing, and all parts of the files agree on them. -/
theorem codes_tabulated (document : Document) (config : Config)
    (haccepted : (validate document).ok = true) :
    (∀ ops, document.opcode = some ops → ops.opcodes.entries ≠ [] →
      ops.opcodes.keys.length < 2 ^ 32 - 1 →
        CodeTable.IsLossless ⟨badOp, ops.opcodes.keys⟩ ∧ ∃ header source,
          opcodeFiles ops config = .ok [(opcodeHeader, header), (opcodeSource, source)] ∧
            OpcodesTabulated ops config header.content source.content) ∧
      ∀ dtypes, document.dtype = some dtypes → dtypes.entries ≠ [] →
        dtypes.keys.length < 2 ^ 32 - 1 →
          CodeTable.IsLossless ⟨badType, dtypes.keys⟩ ∧ ∃ header source,
            dtypeFiles dtypes document config = .ok [(dtypeHeader, header), (dtypeSource, source)] ∧
              DtypesTabulated dtypes config header.content source.content := by
  have hvalid : Valid document := errorFree_problems_iff.mp (ok_validateFile_iff.mp haccepted)
  refine ⟨fun ops hops hdeclared hsize ↦ ?_, fun dtypes hdtypes hdeclared hsize ↦ ?_⟩
  · have hopcodes := hvalid.opcodes ops hops
    exact ⟨CodeTable.isLossless ops.opcodes.nodup (badOp_not_mem_keys hopcodes) hsize,
      opcodeFiles_tabulated config hopcodes hdeclared⟩
  · have hentries := hvalid.dtypes dtypes hdtypes
    exact ⟨CodeTable.isLossless dtypes.nodup (badType_not_mem_keys hentries) hsize,
      dtypeFiles_tabulated config hentries (defaultResolves_of_valid hvalid hdtypes hdeclared)⟩

/-- Two opcodes that may be told to print themselves. -/
def arithmeticOpcodes : OpcodeSection where
  params := "std::ostream& out, T a, T b"
  opcodes := .ofEntries [("ADD", { statement := "out << a + b;", commutative := true }),
    ("SUB", { statement := "out << a - b;" })]
  behaviours := .ofEntries [("symbol", { out := "std::string", fallback := "return std::string();" })]

def floatingTypes : OrderedMap Dtype :=
  .ofEntries [("DOUBLE", { ctype := "double", precision := some 1 }), ("FLOAT", { ctype := "float" })]

def arithmeticDocument : Document :=
  { opcode := some arithmeticOpcodes, dtype := some floatingTypes, defaultType := some "FLOAT" }

theorem codes_tabulated_arithmetic :
    (validate arithmeticDocument).ok = true ∧
      (CodeTable.IsLossless ⟨badOp, ["ADD", "SUB"]⟩ ∧ ∃ header source,
        opcodeFiles arithmeticOpcodes {} = .ok [(opcodeHeader, header), (opcodeSource, source)] ∧
          OpcodesTabulated arithmeticOpcodes {} header.content source.content) ∧
        CodeTable.IsLossless ⟨badType, ["DOUBLE", "FLOAT"]⟩ ∧ ∃ header source,
          dtypeFiles floatingTypes arithmeticDocument {} =
            .ok [(dtypeHeader, header), (dtypeSource, source)] ∧
              DtypesTabulated floatingTypes {} header.content source.content := by
  have haccepted : (validate arithmeticDocument).ok = true := by decide +kernel
  obtain ⟨hopcodes, hdtypes⟩ := codes_tabulated arithmeticDocument {} haccepted
  exact ⟨haccepted, hopcodes arithmeticOpcodes rfl (by decide) (by decide),
    hdtypes floatingTypes rfl (by decide) (by decide)⟩

end SourceGen.Emit
