import Mathlib
import SourceGen.Proofs.Spec.Acceptance
import SourceGen.Proofs.Spec.Agreement
import SourceGen.Proofs.Value.RawDocuments

/-!
# Plain documents are read exactly when they are accepted

Schema and decoders differ in three things only: a decoder takes a list for a record type, reads the older
name of a field, and holds a rank to 32 bits. A document that makes use of none of them passes the check
against the schema exactly if it is read into the model.
-/

namespace SourceGen.Spec

open Agrees

/-! ## Plain values -/

namespace Plain

/-- No real number, and no integer beyond 32 bits. -/
def rank : Value → Prop
  | .number (.integer n) => n ≤ 4294967295
  | .number (.real _) => False
  | _ => True

def dtype : Value → Prop := ByName [("precision", rank)]

def argument : Value → Prop := ByName []

def arguments : Value → Prop := Items argument

def behaviour : Value → Prop := ByName [("args", arguments)]

def opcode : Value → Prop := ByName []

def opcodeSection : Value → Prop := ByName [("opcalls", Values opcode), ("per_op", Values behaviour)]

/-- A function without the older name of its last field. -/
def function : Value → Prop := ByName [("args", arguments), ("pyignores", fun _ ↦ False)]

def construction : Value → Prop := ByName [("args", arguments)]

def transfer : Value → Prop := ByName [("args", arguments)]

def classDecl : Value → Prop :=
  ByName [("init", construction), ("copy", transfer), ("move", transfer), ("funcs", Items function),
    ("members", arguments)]

/-- A list is the short form of a namespace and stands for its functions. -/
def namespaceContent (value : Value) : Prop :=
  Items function value ∧ Parts [("funcs", Items function), ("classes", Items classDecl)] value

def binding : Value → Prop := ByName []

def api : Value → Prop := ByName [("namespaces", Values namespaceContent), ("binding", binding)]

def document : Value → Prop :=
  ByName [("opcode", opcodeSection), ("dtype", Values dtype), ("api", api)]

end Plain

/-! ## Arguments -/

theorem Argument.agrees : Agrees Plain.argument Schema.argument Argument.decode := by
  refine .type (.record fun fields hkeys _ ↦ ?_)
  simp [hkeys.nodup, text.field_iff hkeys, boolean.field_iff hkeys, optionalText.field_iff hkeys,
    and_assoc, and_comm, and_left_comm]

theorem Argument.listAgrees :
    Agrees Plain.arguments Schema.arguments (Decoder.list Argument.decode) := by
  intro value
  rw [Schema.arguments, accepts_usually]
  exact (Argument.agrees).list value

/-! ## Opcodes and scalar types -/

theorem Override.agrees {domain : Value → Prop} :
    Agrees domain Schema.override Override.decode := by
  refine .type (.oneOf text.mapped (.openRecord_of_forall fun fields hkeys ↦ ?_))
  simp [hkeys.nodup, text.field_iff hkeys]

theorem Opcode.agrees : Agrees Plain.opcode Schema.opcode Opcode.decode := by
  refine .type (.record fun fields hkeys _ ↦ ?_)
  have hoverrides := (Override.agrees).map_of_forall.field_iff hkeys "per_op_overrides"
  simp [hkeys.nodup, text.field_iff hkeys, boolean.field_iff hkeys, hoverrides, and_assoc, and_comm,
    and_left_comm]

theorem Behaviour.agrees : Agrees Plain.behaviour Schema.behaviour Behaviour.decode := by
  refine .type (.record fun fields hkeys hparts ↦ ?_)
  have hargs := (Argument.listAgrees).fits_iff hkeys (hparts _ List.mem_cons_self)
  simp [hkeys.nodup, text.field_iff hkeys, optionalText.field_iff hkeys, hargs, and_assoc, and_comm,
    and_left_comm]

theorem OpcodeSection.agrees :
    Agrees Plain.opcodeSection Schema.opcodeSection OpcodeSection.decode := by
  refine .type (.record fun fields hkeys hparts ↦ ?_)
  simp only [Parts, List.forall_mem_cons] at hparts
  obtain ⟨hopcodes, hbehaviours, -⟩ := hparts
  replace hopcodes := (Opcode.agrees).map.fits_iff hkeys hopcodes
  replace hbehaviours := (Behaviour.agrees).map.fits_iff hkeys hbehaviours
  simp [hkeys.nodup, text.field_iff hkeys, optionalText.field_iff hkeys, hopcodes, hbehaviours,
    and_assoc, and_comm, and_left_comm]

theorem rank_agrees :
    Agrees Plain.rank (.natural [.integer, .null]) (Decoder.nullable Decoder.word) := by
  have hword : Agrees Plain.rank (.natural [.integer]) Decoder.word := by
    intro value _ hvalue
    match value with
    | .number (.integer n) =>
      have hbound : n ≤ 4294967295 := hvalue
      have hrange : (0 ≤ n ∧ n < 4294967296) ↔ ¬ n < 0 := by omega
      simp only [Readable, Decoder.word, hrange]
      -- Below zero both refuse the number, and none is beyond the bound.
      by_cases hn : n < 0 <;>
        simp [Schema.accepts, Schema.isOfKind, Kind.holds, Schema.isBelowZero, hn]
    | .number (.real x) => exact hvalue.elim
    | .null | .bool _ | .text _ | .list _ | .record _ =>
      simp [Schema.accepts, Schema.isOfKind, Kind.holds, Readable, Decoder.word]
  refine hword.nullable fun value ↦ ?_
  cases value <;> simp [Schema.accepts, Schema.isOfKind, Kind.holds, Schema.isBelowZero]

theorem Dtype.agrees : Agrees Plain.dtype Schema.dtype Dtype.decode := by
  refine .type (.record fun fields hkeys hparts ↦ ?_)
  have hrank := (rank_agrees).fits_iff hkeys (hparts _ List.mem_cons_self)
  simp [hkeys.nodup, text.field_iff hkeys, hrank, and_assoc]

/-! ## Functions and classes -/

theorem Output.agrees {domain : Value → Prop} : Agrees domain Schema.output Output.decode := by
  refine .type (.oneOf Agrees.text.mapped (.openRecord_of_forall fun fields hkeys ↦ ?_))
  simp [hkeys.nodup, Agrees.text.field_iff hkeys, optionalText.field_iff hkeys,
    and_left_comm]

/-- Without the older name, the last field is read like any other. -/
theorem FunctionDecl.agrees : Agrees Plain.function Schema.function FunctionDecl.decode := by
  refine .type (.record fun fields hkeys hparts ↦ ?_)
  simp only [Parts, List.forall_mem_cons] at hparts
  obtain ⟨hargs, holder, -⟩ := hparts
  replace hargs := (Argument.listAgrees).fits_iff hkeys hargs
  have hout := (Output.agrees).field_iff hkeys "out"
  have hothers : ∀ other ∈ ["pyignores"], other ∉ fields.keys := by
    simp only [List.mem_singleton, forall_eq]
    exact Entries.get?_eq_none_iff.mp (Option.eq_none_iff_forall_not_mem.mpr holder)
  simp [hkeys.nodup, boolean.field_iff hkeys, optionalText.field_iff hkeys,
    Given.exists_read_iff hkeys.nodup hothers, hargs, hout, and_assoc, and_comm, and_left_comm]

theorem FunctionDecl.listAgrees :
    Agrees (Items Plain.function) Schema.functions (Decoder.list FunctionDecl.decode) := by
  intro value
  rw [Schema.functions, accepts_usually]
  exact (FunctionDecl.agrees).list value

theorem textMap_field_iff {fields : Entries Value} (hkeys : (Value.record fields).KeysDistinct)
    (name : String) :
    Fits fields name ((Schema.map .text).accepts · = true) ↔
      Fits fields name (Readable (Decoder.map Decoder.text)) :=
  text.map_of_forall.field_iff hkeys name

theorem Construction.agrees : Agrees Plain.construction Schema.construction Construction.decode := by
  refine .type (.record fun fields hkeys hparts ↦ ?_)
  have hargs := (Argument.listAgrees).fits_iff hkeys (hparts _ List.mem_cons_self)
  simp [hkeys.nodup, text.field_iff hkeys, textMap_field_iff hkeys, hargs, and_comm, and_left_comm]

theorem Transfer.agrees : Agrees Plain.transfer Schema.transfer Transfer.decode := by
  refine .type (.record fun fields hkeys hparts ↦ ?_)
  have hargs := (Argument.listAgrees).fits_iff hkeys (hparts _ List.mem_cons_self)
  simp [hkeys.nodup, text.field_iff hkeys, textMap_field_iff hkeys, hargs, and_assoc, and_comm,
    and_left_comm]

theorem ClassDecl.agrees : Agrees Plain.classDecl Schema.classDecl ClassDecl.decode := by
  refine .type (.record fun fields hkeys hparts ↦ ?_)
  simp only [Parts, List.forall_mem_cons] at hparts
  obtain ⟨hinit, hcopy, hmove, hfunctions, hmembers, -⟩ := hparts
  replace hinit := (Construction.agrees).orNull.fits_iff hkeys hinit
  replace hcopy := (Transfer.agrees).orNull.fits_iff hkeys hcopy
  replace hmove := (Transfer.agrees).orNull.fits_iff hkeys hmove
  replace hfunctions := (FunctionDecl.listAgrees).fits_iff hkeys hfunctions
  replace hmembers := (Argument.listAgrees).fits_iff hkeys hmembers
  have hrequires := text.list_of_forall.field_iff hkeys "requires"
  simp [hkeys.nodup, text.field_iff hkeys, optionalText.field_iff hkeys, hinit, hcopy, hmove,
    hfunctions, hmembers, hrequires, and_assoc, and_comm, and_left_comm]

theorem NamespaceContent.agrees :
    Agrees Plain.namespaceContent Schema.namespaceContent NamespaceContent.decode := by
  have hfull : Agrees (Parts [("funcs", Items Plain.function), ("classes", Items Plain.classDecl)])
      (.record [] [("classes", .usually Schema.noItems (.list Schema.classDecl)),
        ("funcs", Schema.functions)])
      (Decoder.openRecord ⟨"NamespaceSpec", ["funcs", "classes"]⟩ fun given ↦
        NamespaceContent.full <$> given.defaulted "funcs" (Decoder.list FunctionDecl.decode) []
          <*> given.defaulted "classes" (Decoder.list ClassDecl.decode) []) := by
    refine .openRecord fun fields hkeys hparts ↦ ?_
    simp only [Parts, List.forall_mem_cons] at hparts
    obtain ⟨hfunctions, hclasses, -⟩ := hparts
    replace hfunctions := (FunctionDecl.listAgrees).fits_iff hkeys hfunctions
    replace hclasses := (ClassDecl.agrees).list.fits_iff hkeys hclasses
    simp [hkeys.nodup, hfunctions, hclasses, and_comm]
  exact .type (.oneOf (FunctionDecl.agrees.list.mapped.mono fun _ h ↦ h.1) (hfull.mono fun _ h ↦ h.2))

/-! ## The interface and the document -/

theorem BindingSettings.agrees : Agrees Plain.binding Schema.binding BindingSettings.decode := by
  refine .type (.record fun fields hkeys _ ↦ ?_)
  simp [hkeys.nodup, text.field_iff hkeys, text.list_of_forall.field_iff hkeys, and_comm,
    and_left_comm]

theorem Api.agrees : Agrees Plain.api Schema.api Api.decode := by
  refine .type (.record fun fields hkeys hparts ↦ ?_)
  simp only [Parts, List.forall_mem_cons] at hparts
  obtain ⟨hnamespaces, hbinding, -⟩ := hparts
  replace hnamespaces := (NamespaceContent.agrees).map.fits_iff hkeys hnamespaces
  replace hbinding := (BindingSettings.agrees).fits_iff hkeys hbinding
  simp [hkeys.nodup, text.field_iff hkeys, text.list_of_forall.field_iff hkeys, hnamespaces,
    hbinding, and_comm, and_left_comm]

theorem dtypes_agree :
    Agrees (Values Plain.dtype) (.table [.record, .null] Schema.dtype)
      (Decoder.nullable (Decoder.map Dtype.decode)) := by
  refine (Dtype.agrees).map.nullable fun value ↦ ?_
  cases value <;> simp [Schema.map, Schema.accepts, Schema.isOfKind, Kind.holds]

theorem Document.agrees : Agrees Plain.document Schema.document Document.decode := by
  intro value
  rw [Schema.document, accepts_about]
  refine Agrees.record (fun fields hkeys hparts ↦ ?_) value
  simp only [Parts, List.forall_mem_cons] at hparts
  obtain ⟨hopcode, hdtype, hapi, -⟩ := hparts
  replace hopcode := (OpcodeSection.agrees).orNull.fits_iff hkeys hopcode
  replace hdtype := (dtypes_agree).fits_iff hkeys hdtype
  replace hapi := (Api.agrees).orNull.fits_iff hkeys hapi
  simp [hkeys.nodup, text.list_of_forall.field_iff hkeys, optionalText.field_iff hkeys, hopcode,
    hdtype, hapi, and_comm, and_left_comm]

/-- A plain document without repeated keys has no violations exactly if it is read into the model. -/
theorem checkDocument_eq_nil_iff_typeDocument {fields : Entries Value}
    (hkeys : (Value.record fields).KeysDistinct) (hplain : Plain.document (.record fields))
    (file source : String) :
    checkDocument (.record fields) file = [] ↔
      ∃ document, typeDocument (.record fields) source = .ok document := by
  have hread : (∃ document, typeDocument (.record fields) source = .ok document) ↔
      Readable Document.decode (.record fields) := by
    rw [typeDocument, Readable]
    cases Document.decode (.record fields) with
    | ok document => exact ⟨fun _ ↦ ⟨document, rfl⟩, fun _ ↦ ⟨document, rfl⟩⟩
    | error error => constructor <;> rintro ⟨_, hok⟩ <;> cases hok
  rw [hread, ← Document.agrees _ hkeys hplain, checkDocument, List.map_eq_nil_iff,
    Schema.violations_eq_nil_iff]

/-- A document with a function in a short namespace, and a rank at the bound. -/
def plainFields : Entries Value :=
  [("dtype", .record [("DOUBLE", .record [("ctype", .text "double"),
      ("precision", .number (.integer 4294967295))])]),
    ("api", .record [("namespaces", .record [("layr", .list [.record [("name", .text "relu"),
      ("args", .list [.record [("name", .text "x"), ("type", .text "T")]]), ("out", .text "x")]])])])]

def plainText : String :=
  "\x7b\"dtype\": \x7b\"DOUBLE\": \x7b\"ctype\": \"double\", \"precision\": 4294967295\x7d\x7d, " ++
    "\"api\": \x7b\"namespaces\": \x7b\"layr\": [\x7b\"name\": \"relu\", " ++
      "\"args\": [\x7b\"name\": \"x\", \"type\": \"T\"\x7d], \"out\": \"x\"\x7d]\x7d\x7d\x7d"

theorem checkDocument_plainFields :
    (readRoot plainText .json "" = .ok (.record plainFields) ∧
      (Value.record plainFields).KeysDistinct ∧ Plain.document (.record plainFields)) ∧
      (checkDocument (.record plainFields) "" = [] ↔
        ∃ document, typeDocument (.record plainFields) "" = .ok document) := by
  have hread : readRoot plainText .json "" = .ok (.record plainFields) := by
    cbv
  have hkeys : (Value.record plainFields).KeysDistinct := by
    obtain ⟨fields, hfields, hkeys⟩ := exists_record_of_readRoot hread
    exact hfields ▸ hkeys
  have hplain : Plain.document (.record plainFields) := by
    simp [plainFields, Plain.document, Plain.dtype, Plain.rank, Plain.api, Plain.namespaceContent,
      Plain.function, Plain.arguments, Plain.argument, Plain.opcodeSection, ByName, Parts, Fits, Values, Items,
      Entries.get?]
  exact ⟨⟨hread, hkeys, hplain⟩, checkDocument_eq_nil_iff_typeDocument hkeys hplain "" ""⟩

end SourceGen.Spec
