import SourceGen.Proofs.CodeTable
import SourceGen.Proofs.Spec.Acceptance
import SourceGen.Proofs.Spec.Agreement
import SourceGen.Proofs.Value.Decoded
import SourceGen.Proofs.Value.MergedFields
import SourceGen.Spec.Load

/-!
# Codes that later documents leave alone

A specification file that is loaded behind the others may override what they say of an opcode or of a
scalar type, and it may declare new ones. It moves none of theirs: their names stay at the front in their
order, so that the codes which the tables give them are the same with and without the file.
-/

namespace SourceGen.Spec

variable {value : Value} {source : String} {document : Document}

/-! ## Sections of a document that was built -/

theorem of_buildDocument_eq_ok (h : buildDocument value source = .ok document) :
    Schema.document.accepts value = true ∧ Document.decode value = .ok document := by
  unfold buildDocument at h
  split at h
  · next hnone =>
    rw [checkDocument, List.map_eq_nil_iff, Schema.violations_eq_nil_iff] at hnone
    exact ⟨hnone, mapError_eq_ok.mp (mapError_eq_ok.mp h)⟩
  · cases h

/-- A record type that a schema wants as a record was read from one. -/
theorem exists_record_of_accepts {required : List String} {properties : List (String × Schema)}
    (h : (Schema.record required properties).accepts value = true) :
    ∃ fields : Entries Value, value = .record fields := by
  cases value with
  | record fields => exact ⟨fields, rfl⟩
  | _ => simp [Schema.accepts] at h

/-- A part of a named record type is a record or null. -/
theorem exists_record_of_accepts_orNull {name description : String} {required : List String}
    {properties : List (String × Schema)}
    (h : (Schema.orNull (.type name description (.record required properties))).accepts value = true)
    (hvalue : value ≠ .null) : ∃ fields : Entries Value, value = .record fields := by
  cases value with
  | record fields => exact ⟨fields, rfl⟩
  | null => exact absurd rfl hvalue
  | _ =>
    simp [Schema.orNull, Schema.type, Schema.accepts, Schema.acceptsAny, Schema.isOfKind,
      Kind.holds] at h

/-- The fields that a document was built from, and the readings of its tables. -/
theorem exists_fields_of_buildDocument (h : buildDocument value source = .ok document) :
    ∃ fields : Entries Value, value = .record fields ∧
      (∀ part, fields.get? "opcode" = some part → part ≠ .null → ∃ inner, part = .record inner) ∧
        Given.optional ⟨Document.fields, fields, false⟩ "opcode" OpcodeSection.decode =
            .ok document.opcode ∧
          Given.optional ⟨Document.fields, fields, false⟩ "dtype" (Decoder.map Dtype.decode) =
            .ok document.dtype := by
  obtain ⟨haccepts, hdecode⟩ := of_buildDocument_eq_ok h
  rw [Schema.document, Agrees.accepts_about] at haccepts
  obtain ⟨fields, rfl⟩ := exists_record_of_accepts haccepts
  obtain ⟨-, hproperties⟩ := Agrees.accepts_record_iff.mp haccepts
  obtain ⟨_, hdefaultType, api, -, rfl⟩ := Outcome.seq_eq_ok.mp (Outcome.toExcept_eq_ok.mp hdecode)
  obtain ⟨_, hdefines, defaultType, -, rfl⟩ := Outcome.seq_eq_ok.mp hdefaultType
  obtain ⟨_, hsections, defines, -, rfl⟩ := Outcome.seq_eq_ok.mp hdefines
  obtain ⟨_, hfirst, dtype, hdtype, rfl⟩ := Outcome.seq_eq_ok.mp hsections
  obtain ⟨opcode, hopcode, rfl⟩ := Outcome.map_eq_ok.mp hfirst
  refine ⟨fields, rfl, fun part hget hpart ↦ ?_, hopcode, hdtype⟩
  have hfits := hproperties ("opcode", .orNull Schema.opcodeSection) (by simp) part hget
  exact exists_record_of_accepts_orNull hfits hpart

/-- The raw table behind the opcodes of a document. -/
theorem exists_opcalls_of_buildDocument (h : buildDocument value source = .ok document)
    {ops : OpcodeSection} (hops : document.opcode = some ops) :
    ∃ fields part calls : Entries Value, value = .record fields ∧ fields.get? "opcode" = some (.record part) ∧
      Entries.get? "opcalls" part = some (.record calls) ∧
        ops.opcodes.keys = distinct (Entries.keys calls) := by
  obtain ⟨fields, rfl, hrecord, hopcode, -⟩ := exists_fields_of_buildDocument h
  rw [hops] at hopcode
  obtain ⟨part, hget, hpart, hdecode⟩ := Given.optional_eq_ok_some hopcode
  obtain ⟨part, rfl⟩ := hrecord part hget hpart
  obtain ⟨_, htable, behaviours, -, rfl⟩ := Outcome.seq_eq_ok.mp (Outcome.toExcept_eq_ok.mp hdecode)
  obtain ⟨_, hpath, opcodes, hopcodes, rfl⟩ := Outcome.seq_eq_ok.mp htable
  obtain ⟨_, hparams, operatorPath, -, rfl⟩ := Outcome.seq_eq_ok.mp hpath
  obtain ⟨params, -, rfl⟩ := Outcome.map_eq_ok.mp hparams
  obtain ⟨calls, hcalls, hmap⟩ := Given.required_eq_ok hopcodes
  obtain ⟨calls, rfl, hkeys⟩ := exists_record_of_map hmap
  exact ⟨fields, part, calls, rfl, hget, hcalls, hkeys⟩

/-- The raw table behind the scalar types of a document. -/
theorem exists_dtype_of_buildDocument (h : buildDocument value source = .ok document)
    {dtypes : OrderedMap Dtype} (hdtypes : document.dtype = some dtypes) :
    ∃ fields codes : Entries Value, value = .record fields ∧ fields.get? "dtype" = some (.record codes) ∧
      dtypes.keys = distinct (Entries.keys codes) := by
  obtain ⟨fields, rfl, -, -, hdtype⟩ := exists_fields_of_buildDocument h
  rw [hdtypes] at hdtype
  obtain ⟨codes, hget, -, hmap⟩ := Given.optional_eq_ok_some hdtype
  obtain ⟨codes, rfl, hkeys⟩ := exists_record_of_map hmap
  exact ⟨fields, codes, rfl, hget, hkeys⟩

/-! ## One more document -/

/-- Names of a table that was merged further extend to the names of the result. -/
theorem extends_of_mergeFields {sentinel : String} {table part : Entries Value}
    {names names' : List String} (hnames : names = distinct table.keys)
    (hnames' : names' = distinct (Entries.keys (Value.mergeFields table part))) :
    CodeTable.Extends ⟨sentinel, names⟩ ⟨sentinel, names'⟩ := by
  subst hnames hnames'
  exact CodeTable.extends_of_isPrefix (distinct_isPrefix (Value.keys_prefix_mergeFields table part))
    (nodup_distinct _)

/-- A document that is loaded behind others keeps the codes of their opcodes and scalar types, whatever it
overrides. -/
theorem codes_extend_of_later_document {documents : List Value} {later : Value}
    (hkeys : later.KeysDistinct) {source source' : String} {before after : Document}
    (hbefore : buildDocument (Value.mergeAll documents) source = .ok before)
    (hafter : buildDocument (Value.mergeAll (documents ++ [later])) source' = .ok after) :
    (∀ ops ops', before.opcode = some ops → after.opcode = some ops' →
        CodeTable.Extends ⟨badOp, ops.opcodes.keys⟩ ⟨badOp, ops'.opcodes.keys⟩) ∧
      ∀ dtypes dtypes', before.dtype = some dtypes → after.dtype = some dtypes' →
        CodeTable.Extends ⟨badType, dtypes.keys⟩ ⟨badType, dtypes'.keys⟩ := by
  rw [Value.mergeAll_append_singleton] at hafter
  constructor
  · intro ops ops' hops hops'
    obtain ⟨fields, part, calls, hfields, hpart, hcalls, hnames⟩ :=
      exists_opcalls_of_buildDocument hbefore hops
    obtain ⟨fields', part', calls', hfields', hpart', hcalls', hnames'⟩ :=
      exists_opcalls_of_buildDocument hafter hops'
    rw [hfields] at hfields'
    -- The document, its section and the table in it are records before and after the merge.
    obtain ⟨given, hgiven, rfl⟩ := Value.exists_mergeFields_of_merge hkeys hfields'
    obtain ⟨given, hgiven, rfl⟩ := Value.exists_mergeFields_of_get? hgiven hpart hpart'
    obtain ⟨given, -, rfl⟩ := Value.exists_mergeFields_of_get? hgiven hcalls hcalls'
    exact extends_of_mergeFields hnames hnames'
  · intro dtypes dtypes' hdtypes hdtypes'
    obtain ⟨fields, codes, hfields, hcodes, hnames⟩ := exists_dtype_of_buildDocument hbefore hdtypes
    obtain ⟨fields', codes', hfields', hcodes', hnames'⟩ :=
      exists_dtype_of_buildDocument hafter hdtypes'
    rw [hfields] at hfields'
    obtain ⟨given, hgiven, rfl⟩ := Value.exists_mergeFields_of_merge hkeys hfields'
    obtain ⟨given, -, rfl⟩ := Value.exists_mergeFields_of_get? hgiven hcodes hcodes'
    exact extends_of_mergeFields hnames hnames'

/-- A file that declares two opcodes and a scalar type. -/
def firstFile : Value :=
  .record [("opcode", .record [("params", .text ""),
      ("opcalls", .record [("SIN", .record [("stmt", .text "sin(out, in);")]),
        ("COS", .record [("stmt", .text "cos(out, in);")])])]),
    ("dtype", .record [("DOUBLE", .record [("ctype", .text "double")])])]

/-- A file that declares more and names it before what it overrides. -/
def secondFile : Value :=
  .record [("dtype", .record [("FLOAT", .record [("ctype", .text "float")]),
      ("DOUBLE", .record [("precision", .number (.integer 2))])]),
    ("opcode", .record [("opcalls", .record [("TAN", .record [("stmt", .text "tan(out, in);")]),
      ("COS", .record [("commutative", .bool true)])])])]

def opcodesOfFirstFile : OpcodeSection :=
  { params := ""
    opcodes := .ofEntries [("SIN", { statement := "sin(out, in);" }),
      ("COS", { statement := "cos(out, in);" })] }

def opcodesOfBothFiles : OpcodeSection :=
  { params := ""
    opcodes := .ofEntries [("SIN", { statement := "sin(out, in);" }),
      ("COS", { statement := "cos(out, in);", commutative := true }),
      ("TAN", { statement := "tan(out, in);" })] }

def dtypesOfFirstFile : OrderedMap Dtype :=
  .ofEntries [("DOUBLE", { ctype := "double" })]

def dtypesOfBothFiles : OrderedMap Dtype :=
  .ofEntries [("DOUBLE", { ctype := "double", precision := some 2 }), ("FLOAT", { ctype := "float" })]

theorem codes_extend_of_secondFile :
    (secondFile.KeysDistinct ∧
      buildDocument (Value.mergeAll [firstFile]) "" =
          .ok { opcode := some opcodesOfFirstFile, dtype := some dtypesOfFirstFile } ∧
        buildDocument (Value.mergeAll ([firstFile] ++ [secondFile])) "" =
          .ok { opcode := some opcodesOfBothFiles, dtype := some dtypesOfBothFiles }) ∧
      CodeTable.Extends ⟨badOp, opcodesOfFirstFile.opcodes.keys⟩
          ⟨badOp, opcodesOfBothFiles.opcodes.keys⟩ ∧
        CodeTable.Extends ⟨badType, dtypesOfFirstFile.keys⟩ ⟨badType, dtypesOfBothFiles.keys⟩ := by
  have hkeys : secondFile.KeysDistinct := by simp [secondFile, Entries.keys]
  have hbefore : buildDocument (Value.mergeAll [firstFile]) "" =
      .ok { opcode := some opcodesOfFirstFile, dtype := some dtypesOfFirstFile } := by
    decide +kernel
  have hafter : buildDocument (Value.mergeAll ([firstFile] ++ [secondFile])) "" =
      .ok { opcode := some opcodesOfBothFiles, dtype := some dtypesOfBothFiles } := by
    decide +kernel
  obtain ⟨hopcodes, hdtypes⟩ := codes_extend_of_later_document hkeys hbefore hafter
  exact ⟨⟨hkeys, hbefore, hafter⟩, hopcodes _ _ rfl rfl, hdtypes _ _ rfl rfl⟩

end SourceGen.Spec
