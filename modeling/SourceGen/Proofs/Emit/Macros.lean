import SourceGen.Proofs.Emit.Tables
import SourceGen.Proofs.Text.PhysicalLines

/-!
# Macros of the tables

The macros over opcodes and scalar types are lists on continued lines, one line for each name. What they are
made of has no line breaks in it, except for the spelling of a type: validation judges it trimmed and takes
any blank in it, and the macros have it as it was written. A line break in one of the types cuts both macros
over types short.
-/

namespace SourceGen.Emit

open Spec Text Template Validation

/-- The list of `EVERY_TYPE`. -/
def everyType (dtypes : OrderedMap Dtype) : Listing where
  before := ["#define EVERY_TYPE(GENERIC_MACRO)\\"]
  indent := ""
  separator := "\\\n"
  items := dtypes.entries.map fun entry ↦ "GENERIC_MACRO(" ++ entry.2.ctype ++ ")"
  after := []

/-- A list stands in a file on lines of its own. -/
def OwnLines (file : String) (listing : Listing) : Prop :=
  ∃ before after, physicalLines file = before ++ physicalLines listing.text ++ after

/-- The lines of the list are all that a directive takes up that begins on the first of them. -/
def Listing.IsWhole (listing : Listing) : Prop :=
  Whole (physicalLines listing.text)

/-! ## Lists on continued lines -/

section Listings

variable {listing : Listing}

theorem ownLines_of_within {file : String} (before after : String)
    (h : Within (join "\n" (before :: (listing.lines ++ [after]))) file) : OwnLines file listing := by
  have hlines : listing.lines ≠ [] := List.append_ne_nil_of_right_ne_nil _ (List.cons_ne_nil _ _)
  have hjoin : join "\n" (before :: (listing.lines ++ [after])) =
      before ++ ("\n" ++ (listing.text ++ ("\n" ++ after))) := by
    rw [join_cons (by simp), join_append hlines (List.cons_ne_nil _ _), join_singleton]
    rfl
  rw [hjoin] at h
  exact exists_physicalLines_of_within h

/-- Items behind each other with continued line breaks between them are lines with the indent. -/
theorem join_continued (indent closing last : String) (front : List String) :
    indent ++ join ("\\\n" ++ indent) (front ++ [last]) ++ closing =
      join "\n" (front.map (fun item ↦ indent ++ item ++ "\\") ++ [indent ++ last ++ closing]) := by
  have hbreak : "\\\n" = "\\" ++ "\n" := rfl
  induction front with
  | nil => rfl
  | cons first rest ih =>
    rw [List.cons_append, join_cons (by simp), List.map_cons, List.cons_append, join_cons (by simp), ← ih,
      hbreak]
    simp only [String.append_assoc]

theorem physicalLines_listing {front : List String} {last : String}
    (hseparator : listing.separator = "\\\n" ++ listing.indent) (hitems : listing.items = front ++ [last]) :
    physicalLines listing.text =
      (listing.before ++ (front.map (fun item ↦ listing.indent ++ item ++ "\\") ++
        [listing.indent ++ last ++ listing.closing]) ++ listing.after).flatMap physicalLines := by
  have hitem : front.map (fun item ↦ listing.indent ++ item ++ "\\") ++
      [listing.indent ++ last ++ listing.closing] ≠ [] :=
    List.append_ne_nil_of_right_ne_nil _ (List.cons_ne_nil _ _)
  rw [Listing.text, Listing.lines, hseparator, hitems, join_continued, join_append_join hitem,
    ← List.append_assoc, physicalLines_join]
  exact List.append_ne_nil_of_left_ne_nil (List.append_ne_nil_of_right_ne_nil _ hitem) _

/-- A line without a break in it that goes on in the next one. -/
def IsContinuedLine (line : String) : Prop :=
  '\n' ∉ line.toList ∧ EndsInBackslash line

instance (line : String) : Decidable (IsContinuedLine line) :=
  inferInstanceAs (Decidable (_ ∧ _))

theorem forall_endsInBackslash_of_isContinuedLine {lines : List String}
    (h : ∀ line ∈ lines, IsContinuedLine line) :
    ∀ line ∈ lines.flatMap physicalLines, EndsInBackslash line := by
  intro line hline
  obtain ⟨text, htext, hmem⟩ := List.mem_flatMap.mp hline
  rw [physicalLines_of_not_mem (h text htext).1, List.mem_singleton] at hmem
  exact hmem ▸ (h text htext).2

/-- Lines that end in a backslash are continued where each of them is. -/
theorem forall_cases_iff {indent : String} {items : List String} :
    (∀ line ∈ items.flatMap (fun item ↦ physicalLines (indent ++ item ++ "\\")), EndsInBackslash line) ↔
      ∀ item ∈ items, Continued (physicalLines (indent ++ item ++ "\\")) := by
  have hslash : EndsInBackslash "\\" := by decide
  rw [List.forall_mem_flatMap]
  exact forall₂_congr fun item _ ↦ forall_endsInBackslash_iff (hslash.append _)

/-- The frame of a switch over the names of a table. -/
structure IsLookup (listing : Listing) (default_ : String) : Prop where
  separator : listing.separator = "\\\n" ++ listing.indent
  closing : listing.closing = "\\"
  after : listing.after = [default_, "\x7d"]
  before : ∀ line ∈ listing.before, IsContinuedLine line
  default_ : IsContinuedLine default_

/-- A switch is whole if and only if each of its cases is continued. -/
theorem IsLookup.isWhole_iff {default_ : String} (h : IsLookup listing default_)
    (hitems : listing.items ≠ []) :
    listing.IsWhole ↔
      ∀ item ∈ listing.items, Continued (physicalLines (listing.indent ++ item ++ "\\")) := by
  obtain ⟨front, last, hsplit⟩ : ∃ front last, listing.items = front ++ [last] :=
    ⟨_, _, (List.dropLast_concat_getLast hitems).symm⟩
  have hend : physicalLines "\x7d" = ["\x7d"] := rfl
  have hlines : physicalLines listing.text =
      (listing.before.flatMap physicalLines ++
        listing.items.flatMap (fun item ↦ physicalLines (listing.indent ++ item ++ "\\")) ++
          [default_].flatMap physicalLines) ++ ["\x7d"] := by
    rw [physicalLines_listing h.separator hsplit, h.closing, h.after, hsplit]
    simp [List.flatMap_append, List.flatMap_map, hend]
  rw [Listing.IsWhole, whole_iff_continued hlines (by decide), hlines,
    continued_append (List.cons_ne_nil _ _), List.forall_mem_append, List.forall_mem_append,
    forall_cases_iff]
  have hbefore := forall_endsInBackslash_of_isContinuedLine h.before
  have hdefault := forall_endsInBackslash_of_isContinuedLine
    (List.forall_mem_singleton.mpr h.default_)
  have hlast : Continued ["\x7d"] := fun _ hline ↦ (List.not_mem_nil hline).elim
  exact ⟨fun hall ↦ hall.1.1.2, fun hitem ↦ ⟨⟨⟨hbefore, hitem⟩, hdefault⟩, hlast⟩⟩

/-- The frame of a list that its last item ends. -/
structure IsOpenList (listing : Listing) : Prop where
  separator : listing.separator = "\\\n" ++ listing.indent
  closing : listing.closing = ""
  after : listing.after = []
  before : ∀ line ∈ listing.before, IsContinuedLine line

/-- Such a list is whole if and only if its items are continued, the last one up to its end. -/
theorem IsOpenList.isWhole_iff (h : IsOpenList listing) {front : List String} {last : String} {sign : Char}
    (hitems : listing.items = front ++ [last]) (hsign : last.toList.getLast? = some sign)
    (hbreak : sign ≠ '\n') (hslash : sign ≠ '\\') :
    listing.IsWhole ↔
      (∀ item ∈ front, Continued (physicalLines (listing.indent ++ item ++ "\\"))) ∧
        Continued (physicalLines (listing.indent ++ last)) := by
  have hlines : physicalLines listing.text = listing.before.flatMap physicalLines ++
      front.flatMap (fun item ↦ physicalLines (listing.indent ++ item ++ "\\")) ++
        physicalLines (listing.indent ++ last) := by
    rw [physicalLines_listing h.separator hitems, h.closing, h.after]
    simp [List.flatMap_append, List.flatMap_map]
  obtain ⟨start, hstart⟩ := List.getLast?_eq_some_iff.mp (getLast?_toList_append hsign listing.indent)
  obtain ⟨earlier, line, hlast⟩ := exists_physicalLines_concat hstart hbreak
  have hclosed : ¬ EndsInBackslash (String.ofList (line ++ [sign])) := by
    simpa [EndsInBackslash] using hslash
  have hwhole : physicalLines listing.text = listing.before.flatMap physicalLines ++
      front.flatMap (fun item ↦ physicalLines (listing.indent ++ item ++ "\\")) ++ earlier ++
        [String.ofList (line ++ [sign])] := by
    rw [hlines, hlast, ← List.append_assoc]
  have hbefore := forall_endsInBackslash_of_isContinuedLine h.before
  rw [Listing.IsWhole, whole_iff_continued hwhole hclosed, hlines,
    continued_append (physicalLines_ne_nil _), List.forall_mem_append, forall_cases_iff]
  exact and_congr_left fun _ ↦ and_iff_right hbefore

end Listings

/-! ## Names and types -/

theorem newline_not_mem_of_isIdentifier {name : String} (h : isIdentifier name = true) :
    '\n' ∉ name.toList :=
  not_mem_of_isIdentifierChars h (by decide)

theorem backslash_not_mem_ctype {code : String} {dtype : Dtype} (h : ValidDtype code dtype) :
    '\\' ∉ dtype.ctype.toList := by
  intro hmem
  rcases isBlank_or_mem_trimChars hmem with hblank | htrimmed
  · exact absurd hblank (by decide)
  · exact absurd (h.ctype.char_of_mem htrimmed) (by decide)

section Macros

variable {config : Config}

theorem isLookup_opcodeLookup (ops : OpcodeSection) (hfatal : '\n' ∉ config.fatal.toList) :
    IsLookup (opcodeLookup ops config) ("    default: " ++ config.fatal ++ "(\"executing bad op\");\\") where
  separator := rfl
  closing := rfl
  after := rfl
  before := show ∀ line ∈ ["#define OPCODE_LOOKUP(GENERIC_MACRO, OPCODE)\\", "switch (OPCODE)\\",
    "\x7b\\"], IsContinuedLine line by decide
  default_ := ⟨by simp [hfatal], .append (by decide) _⟩

theorem isLookup_typeLookup (dtypes : OrderedMap Dtype) (hfatal : '\n' ∉ config.fatal.toList) :
    IsLookup (typeLookup dtypes config)
      ("    default: " ++ config.fatal ++ "(\"executing bad type\");\\") where
  separator := rfl
  closing := rfl
  after := rfl
  before := show ∀ line ∈ ["#define TYPE_LOOKUP(GENERIC_MACRO, DTYPE)\\", "switch (DTYPE)\\",
    "\x7b\\"], IsContinuedLine line by decide
  default_ := ⟨by simp [hfatal], .append (by decide) _⟩

/-- Every opcode has a line of its own, so that nothing cuts the switch over them short. -/
theorem isWhole_opcodeLookup {ops : OpcodeSection} (hvalid : ValidOpcodes ops)
    (hdeclared : ops.opcodes.entries ≠ []) (hnamespace : '\n' ∉ config.tableNamespace.toList)
    (hfatal : '\n' ∉ config.fatal.toList) : (opcodeLookup ops config).IsWhole := by
  have hitems : (opcodeLookup ops config).items ≠ [] := by
    rw [items_opcodeLookup]
    simpa [OrderedMap.keys, Entries.keys] using hdeclared
  rw [(isLookup_opcodeLookup ops hfatal).isWhole_iff hitems, items_opcodeLookup]
  intro item hitem
  obtain ⟨name, hname, rfl⟩ := List.mem_map.mp hitem
  have hbreak := newline_not_mem_of_isIdentifier (hvalid.codes name hname).1
  refine continued_of_not_mem ?_
  simp [opcodeLookup, lookupLine, hnamespace, hbreak]

/-- The switch over types is whole if and only if no type is spelled with a line break. -/
theorem isWhole_typeLookup_iff {dtypes : OrderedMap Dtype}
    (hvalid : ∀ code dtype, (code, dtype) ∈ dtypes.entries → ValidDtype code dtype)
    (hdeclared : dtypes.entries ≠ []) (hnamespace : '\n' ∉ config.tableNamespace.toList)
    (hfatal : '\n' ∉ config.fatal.toList) :
    (typeLookup dtypes config).IsWhole ↔
      ∀ code dtype, (code, dtype) ∈ dtypes.entries → '\n' ∉ dtype.ctype.toList := by
  have hitems : (typeLookup dtypes config).items ≠ [] := by
    rw [items_typeLookup]
    simpa using hdeclared
  rw [(isLookup_typeLookup dtypes hfatal).isWhole_iff hitems, items_typeLookup]
  simp only [typeLookup, List.forall_mem_map, Prod.forall]
  refine forall₃_congr fun code dtype hentry ↦ ?_
  have hcode := newline_not_mem_of_isIdentifier (hvalid code dtype hentry).code.1
  have hline : "    " ++ typeLookupLine config.tableNamespace (code, dtype) ++ "\\" =
      ("    case " ++ config.tableNamespace ++ "::" ++ code ++ ": GENERIC_MACRO(") ++ dtype.ctype ++
        ") break;\\" := by
    rw [← String.toList_inj]
    simp [typeLookupLine]
  rw [hline]
  have hsign : (": GENERIC_MACRO(").toList.getLast? = some '(' := by decide
  refine continued_insert_iff (getLast?_toList_append hsign _) (by decide) ?_ (by decide)
    (backslash_not_mem_ctype (hvalid code dtype hentry))
  simp [hnamespace, hcode]

theorem isOpenList_everyType (dtypes : OrderedMap Dtype) : IsOpenList (everyType dtypes) where
  separator := rfl
  closing := rfl
  after := rfl
  before := show ∀ line ∈ ["#define EVERY_TYPE(GENERIC_MACRO)\\"], IsContinuedLine line by decide

/-- So is the list of all types, in which the last one ends the macro. -/
theorem isWhole_everyType_iff {dtypes : OrderedMap Dtype}
    (hvalid : ∀ code dtype, (code, dtype) ∈ dtypes.entries → ValidDtype code dtype)
    (hdeclared : dtypes.entries ≠ []) :
    (everyType dtypes).IsWhole ↔
      ∀ code dtype, (code, dtype) ∈ dtypes.entries → '\n' ∉ dtype.ctype.toList := by
  obtain ⟨front, last, hsplit⟩ : ∃ front last, dtypes.entries = front ++ [last] :=
    ⟨_, _, (List.dropLast_concat_getLast hdeclared).symm⟩
  have hitems : (everyType dtypes).items = front.map everyTypeLine ++ [everyTypeLine last] := by
    have hall : (everyType dtypes).items = dtypes.entries.map everyTypeLine := rfl
    rw [hall, hsplit, List.map_append, List.map_singleton]
  have hbracket : (")").toList.getLast? = some ')' := by decide
  have hclosed : (everyTypeLine last).toList.getLast? = some ')' :=
    getLast?_toList_append hbracket _
  have hcontinued : ∀ entry ∈ dtypes.entries, ∀ back : String, '\n' ∉ back.toList →
      (Continued (physicalLines ("GENERIC_MACRO(" ++ entry.2.ctype ++ back)) ↔
        '\n' ∉ entry.2.ctype.toList) := by
    have hsign : ("GENERIC_MACRO(").toList.getLast? = some '(' := by decide
    intro entry hentry back hback
    exact continued_insert_iff hsign (by decide) (by decide) hback
      (backslash_not_mem_ctype (hvalid entry.1 entry.2 hentry))
  have hfront : ∀ entry ∈ front, (Continued (physicalLines ("" ++ everyTypeLine entry ++ "\\")) ↔
      '\n' ∉ entry.2.ctype.toList) := by
    intro entry hentry
    have hline : "" ++ everyTypeLine entry ++ "\\" = "GENERIC_MACRO(" ++ entry.2.ctype ++ ")\\" := by
      rw [← String.toList_inj]
      simp [everyTypeLine]
    rw [hline]
    exact hcontinued entry (by simp [hsplit, hentry]) _ (by decide)
  have hlast : Continued (physicalLines ("" ++ everyTypeLine last)) ↔ '\n' ∉ last.2.ctype.toList := by
    rw [String.empty_append]
    exact hcontinued last (by simp [hsplit]) ")" (by decide)
  calc
    _ ↔ (∀ entry ∈ front, '\n' ∉ entry.2.ctype.toList) ∧ '\n' ∉ last.2.ctype.toList := by
      rw [(isOpenList_everyType dtypes).isWhole_iff hitems hclosed (by decide) (by decide),
        List.forall_mem_map]
      exact and_congr (forall₂_congr hfront) hlast
    _ ↔ ∀ entry ∈ dtypes.entries, '\n' ∉ entry.2.ctype.toList := by
      rw [hsplit, List.forall_mem_append, List.forall_mem_singleton]
    _ ↔ _ := Prod.forall

end Macros

/-! ## Headers -/

theorem OpcodeUnit.ownLines_opcodeLookup {unit : OpcodeUnit} {config : Config} {header : String}
    (hfill : fill opcodeHeaderLines (unit.headerValues config) = .ok header) :
    OwnLines header (opcodeLookup unit.source config) := by
  refine ownLines_of_within "// OPCODE_LOOKUP(GENERIC_MACRO, rt_opcode)" ""
    (unit.within_header hfill 37 8 (by decide) (by decide) ?_)
  rw [Listing.lines, items_opcodeLookup]
  repeat refine .cons (FillsTo.plain (by decide) rfl) ?_
  refine .cons (.slot "    " "cases" "\\" rfl) ?_
  refine .cons (.slot "    default: " "fatal" "(\"executing bad op\");\\" rfl) ?_
  repeat refine .cons (FillsTo.plain (by decide) rfl) ?_
  exact .nil

theorem DtypeUnit.ownLines_typeLookup {unit : DtypeUnit} {config : Config} {header : String}
    (hfill : fill dtypeHeaderLines (unit.headerValues config) = .ok header) :
    OwnLines header (typeLookup unit.dtypes config) := by
  refine ownLines_of_within "// TYPE_LOOKUP(GENERIC_MACRO, type_code)" ""
    (unit.within_header hfill 60 8 (by decide) (by decide) ?_)
  rw [Listing.lines, items_typeLookup]
  repeat refine .cons (FillsTo.plain (by decide) rfl) ?_
  refine .cons (.slot "    " "cases" "\\" rfl) ?_
  refine .cons (.slot "    default: " "fatal" "(\"executing bad type\");\\" rfl) ?_
  repeat refine .cons (FillsTo.plain (by decide) rfl) ?_
  exact .nil

theorem DtypeUnit.ownLines_everyType {unit : DtypeUnit} {config : Config} {header : String}
    (hfill : fill dtypeHeaderLines (unit.headerValues config) = .ok header) :
    OwnLines header (everyType unit.dtypes) := by
  refine ownLines_of_within "" "" (unit.within_header hfill 54 4 (by decide) (by decide) ?_)
  repeat refine .cons (FillsTo.plain (by decide) rfl) ?_
  refine .cons (.slot "" "apply_everytype" "" rfl) ?_
  repeat refine .cons (FillsTo.plain (by decide) rfl) ?_
  exact .nil

/-! ## Documents -/

/-- No type is spelled with a line break. -/
def SpelledOnOneLine (dtypes : OrderedMap Dtype) : Prop :=
  ∀ code dtype, (code, dtype) ∈ dtypes.entries → '\n' ∉ dtype.ctype.toList

/-- The header of opcodes has the switch over them on lines of its own. -/
theorem exists_opcodeHeader {ops : OpcodeSection} (config : Config) (hvalid : ValidOpcodes ops)
    (hdeclared : ops.opcodes.entries ≠ []) : ∃ header source,
      opcodeFiles ops config = .ok [(opcodeHeader, header), (opcodeSource, source)] ∧
        OwnLines header.content (opcodeLookup ops config) ∧
          HasSwitch header.content (opcodeLookupCases ops config) (opcodeLookup ops config) := by
  obtain ⟨unit, header, source, hunit, hheader, -, hfiles⟩ := exists_opcodeFiles config hvalid hdeclared
  obtain ⟨rfl, -⟩ := OpcodeUnit.ofSection_eq_ok hunit
  exact ⟨header, source, hfiles, unit.ownLines_opcodeLookup hheader, unit.hasSwitch_opcodeLookup hheader⟩

/-- The header of types has both macros over them on lines of their own. -/
theorem exists_dtypeHeader {dtypes : OrderedMap Dtype} {document : Document} (config : Config)
    (hdefault : DefaultResolves dtypes document.defaultType) : ∃ header source,
      dtypeFiles dtypes document config = .ok [(dtypeHeader, header), (dtypeSource, source)] ∧
        OwnLines header.content (everyType dtypes) ∧
          OwnLines header.content (typeLookup dtypes config) ∧
            HasSwitch header.content (typeLookupCases dtypes config) (typeLookup dtypes config) := by
  obtain ⟨unit, header, source, hunit, hheader, -, hfiles⟩ := exists_dtypeFiles config hdefault
  obtain rfl := DtypeUnit.dtypes_of_ofDtypes_eq_ok hunit
  exact ⟨header, source, hfiles, unit.ownLines_everyType hheader, unit.ownLines_typeLookup hheader,
    unit.hasSwitch_typeLookup hheader⟩

/-- In the headers of a document that validation accepts, the macros stand on lines of their own and have
every declared name. As long as the configuration has no line break, the macro over opcodes is whole, and
those over types are exactly if no type is spelled with a line break. -/
theorem macros_whole_iff (document : Document) (config : Config)
    (haccepted : (validate document).ok = true) (hnamespace : '\n' ∉ config.tableNamespace.toList)
    (hfatal : '\n' ∉ config.fatal.toList) :
    (∀ ops, document.opcode = some ops → ops.opcodes.entries ≠ [] → ∃ header source,
      opcodeFiles ops config = .ok [(opcodeHeader, header), (opcodeSource, source)] ∧
        (OwnLines header.content (opcodeLookup ops config) ∧
          HasSwitch header.content (opcodeLookupCases ops config) (opcodeLookup ops config)) ∧
          (opcodeLookup ops config).IsWhole) ∧
      ∀ dtypes, document.dtype = some dtypes → dtypes.entries ≠ [] → ∃ header source,
        dtypeFiles dtypes document config = .ok [(dtypeHeader, header), (dtypeSource, source)] ∧
          (OwnLines header.content (everyType dtypes) ∧
            OwnLines header.content (typeLookup dtypes config) ∧
              HasSwitch header.content (typeLookupCases dtypes config) (typeLookup dtypes config)) ∧
            ((everyType dtypes).IsWhole ↔ SpelledOnOneLine dtypes) ∧
              ((typeLookup dtypes config).IsWhole ↔ SpelledOnOneLine dtypes) := by
  have hvalid : Valid document := errorFree_problems_iff.mp (ok_validateFile_iff.mp haccepted)
  refine ⟨fun ops hops hdeclared ↦ ?_, fun dtypes hdtypes hdeclared ↦ ?_⟩
  · obtain ⟨header, source, hfiles, hplace⟩ := exists_opcodeHeader config (hvalid.opcodes ops hops) hdeclared
    exact ⟨header, source, hfiles, hplace,
      isWhole_opcodeLookup (hvalid.opcodes ops hops) hdeclared hnamespace hfatal⟩
  · have hentries := hvalid.dtypes dtypes hdtypes
    obtain ⟨header, source, hfiles, hplaces⟩ :=
      exists_dtypeHeader config (defaultResolves_of_valid hvalid hdtypes hdeclared)
    exact ⟨header, source, hfiles, hplaces, isWhole_everyType_iff hentries hdeclared,
      isWhole_typeLookup_iff hentries hdeclared hnamespace hfatal⟩

theorem macros_whole_iff_arithmetic :
    (validate arithmeticDocument).ok = true ∧
      (∃ header source,
        opcodeFiles arithmeticOpcodes {} = .ok [(opcodeHeader, header), (opcodeSource, source)] ∧
          (opcodeLookup arithmeticOpcodes {}).IsWhole) ∧
        ∃ header source,
          dtypeFiles floatingTypes arithmeticDocument {} =
              .ok [(dtypeHeader, header), (dtypeSource, source)] ∧
            ((everyType floatingTypes).IsWhole ↔ SpelledOnOneLine floatingTypes) ∧
              ((typeLookup floatingTypes {}).IsWhole ↔ SpelledOnOneLine floatingTypes) := by
  have haccepted : (validate arithmeticDocument).ok = true := by decide +kernel
  obtain ⟨hopcodes, hdtypes⟩ :=
    macros_whole_iff arithmeticDocument {} haccepted (by decide) (by decide)
  obtain ⟨header, source, hfiles, -, hwhole⟩ := hopcodes arithmeticOpcodes rfl (by decide)
  obtain ⟨header', source', hfiles', -, hwhole'⟩ := hdtypes floatingTypes rfl (by decide)
  exact ⟨haccepted, ⟨header, source, hfiles, hwhole⟩, header', source', hfiles', hwhole'⟩

/-- A type that is spelled with a line break behind its name. -/
def brokenTypes : OrderedMap Dtype :=
  .ofEntries [("DOUBLE", { ctype := "double\n" })]

def brokenDocument : Document :=
  { dtype := some brokenTypes }

/-- Validation has nothing to say about the document, and both macros over its types end within its type. -/
theorem broken_cuts_macros :
    (validate brokenDocument).entries = [] ∧
      (∃ header source,
        dtypeFiles brokenTypes brokenDocument {} = .ok [(dtypeHeader, header), (dtypeSource, source)] ∧
          OwnLines header.content (everyType brokenTypes) ∧
            OwnLines header.content (typeLookup brokenTypes {})) ∧
        (∀ after, directiveLines (physicalLines (everyType brokenTypes).text ++ after) =
          ["#define EVERY_TYPE(GENERIC_MACRO)\\", "GENERIC_MACRO(double"]) ∧
          ∀ after, directiveLines (physicalLines (typeLookup brokenTypes {}).text ++ after) =
            ["#define TYPE_LOOKUP(GENERIC_MACRO, DTYPE)\\", "switch (DTYPE)\\", "\x7b\\",
              "    case egen::DOUBLE: GENERIC_MACRO(double"] := by
  have heveryType : physicalLines (everyType brokenTypes).text =
      ["#define EVERY_TYPE(GENERIC_MACRO)\\", "GENERIC_MACRO(double", ")"] := by decide +kernel
  have htypeLookup : physicalLines (typeLookup brokenTypes {}).text =
      ["#define TYPE_LOOKUP(GENERIC_MACRO, DTYPE)\\", "switch (DTYPE)\\", "\x7b\\",
        "    case egen::DOUBLE: GENERIC_MACRO(double", ") break;\\",
        "    default: global::fatal(\"executing bad type\");\\", "\x7d"] := by decide +kernel
  have hdefault : DefaultResolves brokenTypes brokenDocument.defaultType := ⟨by decide, nofun⟩
  obtain ⟨header, source, hfiles, heach, hlookup, -⟩ := exists_dtypeHeader {} hdefault
  refine ⟨by decide +kernel, ⟨header, source, hfiles, heach, hlookup⟩, fun after ↦ ?_, fun after ↦ ?_⟩
  · rw [heveryType]
    rfl
  · rw [htypeLookup]
    rfl

end SourceGen.Emit
