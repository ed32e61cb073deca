import SourceGen.Proofs.Emit.Tables

/-!
# Names in the namespace of the tables

The enumerations of opcodes and of scalar types stand in one namespace and are not scoped, so their
enumerators are told apart only if the names of both sections are, and from what either enumeration declares
by itself. The traits are specialised for what is spelled as a scalar type, whatever its code.
-/

namespace SourceGen.Emit

open Spec Text Template Validation

/-! ## Enumerations in their namespace -/

namespace CodeKind

/-- What an enumeration declares: the sentinel, the names of the table and the mark of their number. -/
def enumerators (kind : CodeKind) (table : CodeTable) : List String :=
  table.sentinel :: (table.names ++ ["_N" ++ kind.type ++ "S"])

/-- The beginning of the namespace of the tables up to the end of an enumeration. -/
def namespaceOpening (kind : CodeKind) (config : Config) (preamble : List String) (table : CodeTable) :
    Listing :=
  { kind.enumeration table with
    before := ["namespace " ++ config.tableNamespace, "\x7b", ""] ++ preamble ++
      (kind.enumeration table).before }

end CodeKind

/-- A line of an enumeration declares an enumerator, with a value or without. -/
def IsEnumerator (name line : String) : Prop :=
  ∃ value, (value = "" ∨ ∃ code : Nat, value = " = " ++ toString code) ∧
    line = "    " ++ name ++ value ++ ","

/-- A header opens the namespace of the tables and there has an enumeration of exactly the given names, a
preamble being between. -/
def Enumerates (header : String) (config : Config) (preamble : List String) (kind : CodeKind)
    (names : List String) : Prop :=
  ∃ lines, List.Forall₂ IsEnumerator names lines ∧
    Within (join "\n" (["namespace " ++ config.tableNamespace, "\x7b", ""] ++ preamble ++
      ["enum " ++ kind.type, "\x7b"] ++ lines ++ ["\x7d;"])) header

/-- Items that stand on lines of their own are lines with the indent. -/
theorem indent_join {indent : String} {items : List String} (h : items ≠ []) :
    indent ++ join ("\n" ++ indent) items = join "\n" (items.map (indent ++ ·)) := by
  induction items with
  | nil => exact absurd rfl h
  | cons first rest ih =>
    by_cases hrest : rest = []
    · rw [hrest, List.map_singleton, join_singleton, join_singleton]
    · rw [join_cons hrest, List.map_cons, join_cons (by simpa using hrest), ← ih hrest]
      simp only [String.append_assoc]

theorem enumerates_of_within {kind : CodeKind} {config : Config} {preamble : List String}
    {table : CodeTable} {header : String} (hdeclared : table.names ≠ [])
    (h : Within (kind.namespaceOpening config preamble table).text header) :
    Enumerates header config preamble kind (kind.enumerators table) := by
  have hitems : (kind.enumeration table).items ≠ [] := by
    simpa [CodeKind.enumeration] using hdeclared
  refine ⟨["    " ++ table.sentinel ++ " = 0,"] ++
    ((kind.enumeration table).items.map ("    " ++ ·)) ++ ["    _N" ++ kind.type ++ "S,"], ?_, ?_⟩
  · refine .cons ⟨" = 0", .inr ⟨0, rfl⟩, by simp only [String.append_assoc]; rfl⟩
      (List.rel_append ?_ (.cons ⟨"", .inl rfl, by simp only [String.append_assoc]; rfl⟩ .nil))
    simp only [CodeKind.enumeration, List.map_map]
    refine List.forall₂_map_right_iff.mpr (List.forall₂_same.mpr fun name _ ↦ ?_)
    exact ⟨_, .inr ⟨table.encode name, rfl⟩, by simp only [Function.comp_apply, String.append_assoc]⟩
  · have htext : (kind.namespaceOpening config preamble table).text = join "\n"
        ((kind.namespaceOpening config preamble table).before ++
          (join "\n" ((kind.enumeration table).items.map ("    " ++ ·)) ::
            (kind.enumeration table).after)) := by
      rw [← indent_join hitems]
      simp only [Listing.text, Listing.lines, CodeKind.namespaceOpening, CodeKind.enumeration,
        String.append_empty]
      rfl
    rw [htext, join_append_join (by simpa using hitems)] at h
    simpa [CodeKind.namespaceOpening, CodeKind.enumeration] using h

theorem OpcodeUnit.enumerates {unit : OpcodeUnit} {config : Config} {header : String}
    (hdeclared : unit.source.opcodes.entries ≠ [])
    (hfill : fill opcodeHeaderLines (unit.headerValues config) = .ok header) :
    Enumerates header config [] opcodeKind (opcodeKind.enumerators unit.table) := by
  refine enumerates_of_within (by simpa [OpcodeUnit.table, OrderedMap.keys, Entries.keys]) ?_
  refine unit.within_header hfill 3 9 (by decide) (by decide) ?_
  rw [Listing.lines, CodeKind.namespaceOpening, items_enumeration opcodeKind unit.source.opcodes.nodup]
  refine .cons (.slot_end "namespace " "namespace" rfl) ?_
  repeat refine .cons (FillsTo.plain (by decide) rfl) ?_
  refine .cons (.slot "    " "opcodes" "" rfl) ?_
  repeat refine .cons (FillsTo.plain (by decide) rfl) ?_
  exact .nil

/-- What stands before the enumeration of scalar types. -/
def definesPreamble (defines : List String) : List String :=
  [join "\n" (defines.map defineLine), ""]

theorem DtypeUnit.enumerates {unit : DtypeUnit} {config : Config} {header : String}
    (hdeclared : unit.dtypes.entries ≠ [])
    (hfill : fill dtypeHeaderLines (unit.headerValues config) = .ok header) :
    Enumerates header config (definesPreamble unit.defines) dtypeKind
      (dtypeKind.enumerators unit.table) := by
  refine enumerates_of_within (by simpa [DtypeUnit.table, OrderedMap.keys, Entries.keys]) ?_
  refine unit.within_header hfill 3 11 (by decide) (by decide) ?_
  rw [Listing.lines, CodeKind.namespaceOpening, items_enumeration dtypeKind unit.dtypes.nodup]
  refine .cons (.slot_end "namespace " "namespace" rfl) ?_
  repeat refine .cons (FillsTo.plain (by decide) rfl) ?_
  refine .cons (.slot_alone "config_defines" rfl) ?_
  repeat refine .cons (FillsTo.plain (by decide) rfl) ?_
  refine .cons (.slot "    " "enumeration" "" rfl) ?_
  repeat refine .cons (FillsTo.plain (by decide) rfl) ?_
  exact .nil

/-! ## Traits -/

/-- A text specialises `get_type` and `TypeInfo` for a type. -/
def Specializes (ctype text : String) : Prop :=
  ∃ body, text = "template <>\n_GENERATED_DTYPE get_type<" ++ ctype ++ "> (void);\n\n" ++
    "template <>\nstruct TypeInfo<" ++ ctype ++ ">\n\x7b\n    " ++ body

/-- A header has one specialisation after the other, each for its type. -/
def SpecializesEach (header : String) (ctypes : List String) : Prop :=
  ∃ texts, List.Forall₂ Specializes ctypes texts ∧ Within (join "\n\n" texts) header

/-- The spellings of the declared types in the order of their codes. -/
def ctypesOf (dtypes : OrderedMap Dtype) : List String :=
  dtypes.entries.map (·.2.ctype)

theorem specializes_traitsText (entry : String × Dtype) :
    Specializes entry.2.ctype (traitsText entry) :=
  ⟨"static const _GENERATED_DTYPE type = " ++ entry.1 ++ ";\n\n    " ++
    "TypeInfo (void) = delete;\n\x7d;", by unfold traitsText; simp only [String.append_assoc]⟩

theorem DtypeUnit.specializesEach {unit : DtypeUnit} {config : Config} {header : String}
    (hfill : fill dtypeHeaderLines (unit.headerValues config) = .ok header) :
    SpecializesEach header (ctypesOf unit.dtypes) := by
  refine ⟨unit.dtypes.entries.map traitsText, ?_, ?_⟩
  · rw [ctypesOf, List.forall₂_map_left_iff, List.forall₂_map_right_iff, List.forall₂_same]
    exact fun entry _ ↦ specializes_traitsText entry
  · rw [← join_singleton "\n" (join _ _)]
    refine unit.within_header hfill 39 1 (by decide) (by decide) ?_
    exact .cons (.slot_alone "mapping" rfl) .nil

/-- The spelled types denote different types if and only if no two codes share one. -/
theorem nodup_denoted_iff {τ : Type} (denotes : String → τ) (dtypes : OrderedMap Dtype) :
    ((ctypesOf dtypes).map denotes).Nodup ↔
      ∀ code code' dtype dtype', (code, dtype) ∈ dtypes.entries → (code', dtype') ∈ dtypes.entries →
        denotes dtype.ctype = denotes dtype'.ctype → code = code' := by
  have hentries : dtypes.entries.Nodup := .of_map _ dtypes.nodup
  rw [ctypesOf, List.map_map, List.nodup_map_iff_inj_on hentries]
  constructor
  · intro hinjective code code' dtype dtype' hdtype hdtype' hsame
    exact congrArg Prod.fst (hinjective _ hdtype _ hdtype' hsame)
  · rintro hcodes ⟨code, dtype⟩ hdtype ⟨code', dtype'⟩ hdtype' hsame
    obtain rfl := hcodes code code' dtype dtype' hdtype hdtype' hsame
    have hlookup := Entries.get?_eq_some_of_mem dtypes.nodup hdtype
    rw [Entries.get?_eq_some_of_mem dtypes.nodup hdtype', Option.some.injEq] at hlookup
    rw [hlookup]

/-! ## Enumerators -/

theorem mem_enumerators {kind : CodeKind} {table : CodeTable} {name : String} :
    name ∈ kind.enumerators table ↔
      name ∈ table.names ∨ name ∈ [table.sentinel, "_N" ++ kind.type ++ "S"] := by
  simp only [CodeKind.enumerators, List.mem_cons, List.mem_append, List.not_mem_nil, or_false]
  tauto

/-- The names of an enumeration are told apart if those of its table are and are not its own. -/
theorem nodup_enumerators {kind : CodeKind} {table : CodeTable} (hnodup : table.names.Nodup)
    (hmark : table.sentinel ≠ "_N" ++ kind.type ++ "S")
    (hfree : ∀ name ∈ table.names, name ∉ [table.sentinel, "_N" ++ kind.type ++ "S"]) :
    (kind.enumerators table).Nodup := by
  have hsentinel : table.sentinel ∉ table.names := fun h ↦ hfree _ h List.mem_cons_self
  have hcount : "_N" ++ kind.type ++ "S" ∉ table.names := fun h ↦
    hfree _ h (List.mem_cons_of_mem _ List.mem_cons_self)
  rw [CodeKind.enumerators, List.nodup_cons, List.mem_append, List.mem_singleton, not_or,
    ← List.concat_eq_append, List.nodup_concat]
  exact ⟨⟨hsentinel, hmark⟩, hcount, hnodup⟩

section Sections

variable {ops : OpcodeSection} {dtypes : OrderedMap Dtype}

def opcodeEnumerators (ops : OpcodeSection) : List String :=
  opcodeKind.enumerators ⟨badOp, ops.opcodes.keys⟩

def dtypeEnumerators (dtypes : OrderedMap Dtype) : List String :=
  dtypeKind.enumerators ⟨badType, dtypes.keys⟩

theorem mem_opcodeEnumerators {name : String} :
    name ∈ opcodeEnumerators ops ↔ name ∈ ops.opcodes.keys ∨ name ∈ reservedOpcodes :=
  mem_enumerators

theorem mem_dtypeEnumerators {name : String} :
    name ∈ dtypeEnumerators dtypes ↔ name ∈ dtypes.keys ∨ name ∈ reservedDtypes :=
  mem_enumerators

theorem nodup_opcodeEnumerators (hvalid : ValidOpcodes ops) : (opcodeEnumerators ops).Nodup :=
  nodup_enumerators ops.opcodes.nodup (show badOp ≠ _ by decide) fun name hname ↦ (hvalid.codes name hname).2

theorem nodup_dtypeEnumerators
    (hvalid : ∀ code dtype, (code, dtype) ∈ dtypes.entries → ValidDtype code dtype) :
    (dtypeEnumerators dtypes).Nodup := by
  refine nodup_enumerators dtypes.nodup (show badType ≠ _ by decide) fun name hname ↦ ?_
  obtain ⟨⟨code, dtype⟩, hentry, rfl⟩ := List.mem_map.mp hname
  exact (hvalid code dtype hentry).code.2

/-- Neither section has a name that the other section or its enumeration has. -/
structure SectionsApart (ops : OpcodeSection) (dtypes : OrderedMap Dtype) : Prop where
  opcodes : ∀ name ∈ ops.opcodes.keys, name ∉ dtypes.keys ∧ name ∉ reservedDtypes
  dtypes : ∀ code ∈ dtypes.keys, code ∉ reservedOpcodes

theorem nodup_enumerators_iff_sectionsApart (hops : ValidOpcodes ops)
    (hdtypes : ∀ code dtype, (code, dtype) ∈ dtypes.entries → ValidDtype code dtype) :
    (opcodeEnumerators ops ++ dtypeEnumerators dtypes).Nodup ↔ SectionsApart ops dtypes := by
  have hreserved : ∀ name ∈ reservedOpcodes, name ∉ reservedDtypes := by decide
  rw [List.nodup_append']
  constructor
  · rintro ⟨-, -, hdisjoint⟩
    refine ⟨fun name hname ↦ ?_, fun code hcode hreserved ↦ ?_⟩
    · rw [← not_or, ← mem_dtypeEnumerators]
      exact hdisjoint (mem_opcodeEnumerators.mpr (.inl hname))
    · exact hdisjoint (mem_opcodeEnumerators.mpr (.inr hreserved)) (mem_dtypeEnumerators.mpr (.inl hcode))
  · intro hapart
    refine ⟨nodup_opcodeEnumerators hops, nodup_dtypeEnumerators hdtypes, fun name hop hdtype ↦ ?_⟩
    rcases mem_opcodeEnumerators.mp hop with hname | hown
    · obtain ⟨hfree, hother⟩ := hapart.opcodes name hname
      exact (mem_dtypeEnumerators.mp hdtype).elim hfree hother
    · exact (mem_dtypeEnumerators.mp hdtype).elim (hapart.dtypes name · hown) (hreserved name hown)

end Sections

/-! ## Documents -/

/-- Both headers are generated; in the namespace of the tables they enumerate the names of their sections,
and the header of the types specialises the traits for each of them. -/
def HeadersDeclare (document : Document) (config : Config) (ops : OpcodeSection)
    (dtypes : OrderedMap Dtype) : Prop :=
  ∃ opcodes opcodesSource types typesSource,
    opcodeFiles ops config = .ok [(opcodeHeader, opcodes), (opcodeSource, opcodesSource)] ∧
      dtypeFiles dtypes document config = .ok [(dtypeHeader, types), (dtypeSource, typesSource)] ∧
        Enumerates opcodes.content config [] opcodeKind (opcodeEnumerators ops) ∧
          Enumerates types.content config (definesPreamble document.defines) dtypeKind
              (dtypeEnumerators dtypes) ∧
            SpecializesEach types.content (ctypesOf dtypes)

theorem headersDeclare_of_valid {document : Document} (config : Config) (hvalid : Valid document)
    {ops : OpcodeSection} {dtypes : OrderedMap Dtype} (hops : document.opcode = some ops)
    (hdtypes : document.dtype = some dtypes) (hnames : ops.opcodes.entries ≠ [])
    (hcodes : dtypes.entries ≠ []) : HeadersDeclare document config ops dtypes := by
  obtain ⟨opcodeUnit, opcodes, opcodesSource, hunit, hopcodes, -, hopcodeFiles⟩ :=
    exists_opcodeFiles config (hvalid.opcodes ops hops) hnames
  obtain ⟨rfl, -⟩ := OpcodeUnit.ofSection_eq_ok hunit
  obtain ⟨dtypeUnit, types, typesSource, hunit', htypes, -, hdtypeFiles⟩ :=
    exists_dtypeFiles config (defaultResolves_of_valid hvalid hdtypes hcodes)
  obtain ⟨rfl, hdefines⟩ := DtypeUnit.parts_of_ofDtypes_eq_ok hunit'
  exact ⟨opcodes, opcodesSource, types, typesSource, hopcodeFiles, hdtypeFiles,
    opcodeUnit.enumerates hnames hopcodes, hdefines ▸ dtypeUnit.enumerates hcodes htypes,
    dtypeUnit.specializesEach htypes⟩

/-- In the headers of a document that validation accepts, each enumeration tells its own enumerators apart.
Those of both are told apart exactly if neither section has a name of the other or of its enumeration, and
the traits are specialised for different types exactly if no two codes are spelled as the same type. -/
theorem enumerators_apart_iff (document : Document) (config : Config)
    (haccepted : (validate document).ok = true) {ops : OpcodeSection} {dtypes : OrderedMap Dtype}
    (hops : document.opcode = some ops) (hdtypes : document.dtype = some dtypes)
    (hnames : ops.opcodes.entries ≠ []) (hcodes : dtypes.entries ≠ []) :
    HeadersDeclare document config ops dtypes ∧
      ((opcodeEnumerators ops).Nodup ∧ (dtypeEnumerators dtypes).Nodup) ∧
        ((opcodeEnumerators ops ++ dtypeEnumerators dtypes).Nodup ↔ SectionsApart ops dtypes) ∧
          ∀ (τ : Type) (denotes : String → τ), ((ctypesOf dtypes).map denotes).Nodup ↔
            ∀ code code' dtype dtype', (code, dtype) ∈ dtypes.entries →
              (code', dtype') ∈ dtypes.entries → denotes dtype.ctype = denotes dtype'.ctype →
                code = code' := by
  have hvalid : Valid document := errorFree_problems_iff.mp (ok_validateFile_iff.mp haccepted)
  have hopcodes := hvalid.opcodes ops hops
  have htypes := hvalid.dtypes dtypes hdtypes
  exact ⟨headersDeclare_of_valid config hvalid hops hdtypes hnames hcodes,
    ⟨nodup_opcodeEnumerators hopcodes, nodup_dtypeEnumerators htypes⟩,
    nodup_enumerators_iff_sectionsApart hopcodes htypes, fun _ denotes ↦ nodup_denoted_iff denotes dtypes⟩

theorem enumerators_apart_iff_arithmetic :
    (validate arithmeticDocument).ok = true ∧
      HeadersDeclare arithmeticDocument {} arithmeticOpcodes floatingTypes ∧
        ((opcodeEnumerators arithmeticOpcodes ++ dtypeEnumerators floatingTypes).Nodup ↔
          SectionsApart arithmeticOpcodes floatingTypes) := by
  have haccepted : (validate arithmeticDocument).ok = true := by decide +kernel
  obtain ⟨hheaders, -, hapart, -⟩ :=
    enumerators_apart_iff arithmeticDocument {} haccepted rfl rfl (by decide) (by decide)
  exact ⟨haccepted, hheaders, hapart⟩

/-- An opcode with the name of the sentinel of the types, and one that is a type as well. -/
def clashingOpcodes : OpcodeSection where
  params := "T a, T b"
  opcodes := .ofEntries [("BAD_TYPE", { statement := "a;" }), ("SUM", { statement := "a + b;" })]

/-- Two codes for the same type, one of them the name of an opcode. -/
def clashingTypes : OrderedMap Dtype :=
  .ofEntries [("SUM", { ctype := "double" }), ("REAL", { ctype := "double" })]

def clashingDocument : Document :=
  { opcode := some clashingOpcodes, dtype := some clashingTypes }

/-- Validation has nothing to say about the document, and its headers declare enumerators twice and
specialise the traits for one type twice. -/
theorem clashing_declared_twice :
    (validate clashingDocument).entries = [] ∧
      HeadersDeclare clashingDocument {} clashingOpcodes clashingTypes ∧
        ¬ (opcodeEnumerators clashingOpcodes ++ dtypeEnumerators clashingTypes).Nodup ∧
          ∀ (τ : Type) (denotes : String → τ), ¬ ((ctypesOf clashingTypes).map denotes).Nodup := by
  have haccepted : (validate clashingDocument).ok = true := by decide +kernel
  have hvalid : Valid clashingDocument := errorFree_problems_iff.mp (ok_validateFile_iff.mp haccepted)
  have hctypes : ctypesOf clashingTypes = ["double", "double"] := by decide
  refine ⟨by decide +kernel, headersDeclare_of_valid {} hvalid rfl rfl (by decide) (by decide),
    by decide, fun τ denotes ↦ ?_⟩
  simp [hctypes]

end SourceGen.Emit
