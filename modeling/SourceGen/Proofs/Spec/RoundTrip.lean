import SourceGen.Proofs.Spec.Acceptance
import SourceGen.Proofs.Spec.Reading
import SourceGen.Spec.Load

/-!
# Documents survive being written and read

Every type of the model names its slots in the order of its fields. From them come the value that is
written, the schema's consent and the datum that is read. A document that is written, checked and
read is the same document, with every map in the same order.
-/

namespace SourceGen.Spec

open Decoder (nullable)

namespace Argument

def slots (arg : Argument) : OrderedMap (Option Value) where
  entries := [("name", some (.text arg.name)), ("type", some (.text arg.type)),
    ("default", arg.fallback.map .text),
    ("check_null", if !arg.checkNull then some (.bool arg.checkNull) else none),
    ("public", if arg.isPublic then some (.bool arg.isPublic) else none)]
  nodup := show Argument.fields.fields.Nodup by decide

theorem toValue_eq (arg : Argument) : arg.toValue = .record arg.slots.written := by
  simp [toValue, slots, OrderedMap.written, optionField_eq, fieldIf_eq]

theorem reads (arg : Argument) : Reads Schema.argument decode arg.toValue arg := by
  have hname : ReadsSlot arg.slots "name" .text Decoder.text none arg.name := .text rfl
  have htype : ReadsSlot arg.slots "type" .text Decoder.text none arg.type := .text rfl
  have hdefault : ReadsSlot arg.slots "default" .optionalText (nullable Decoder.text) (some none)
      arg.fallback := .optionalText rfl
  have hnull : ReadsSlot arg.slots "check_null" .boolean Decoder.bool (some true) arg.checkNull :=
    .boolean rfl (by cases arg.checkNull <;> simp)
  have hpublic : ReadsSlot arg.slots "public" .boolean Decoder.bool (some false) arg.isPublic :=
    .boolean rfl (by cases arg.isPublic <;> simp)
  rw [toValue_eq]
  refine .type (.record rfl ?_ ?_)
  · simp only [List.forall_mem_cons]
    exact ⟨hnull.accepts, hdefault.accepts, hname.accepts, hpublic.accepts, htype.accepts,
      List.forall_mem_nil _⟩
  · simp only [hname.required, htype.required, hdefault.optional,
      hnull.defaulted, hpublic.defaulted]
    rfl

end Argument

theorem Argument.listReads (args : List Argument) :
    Reads Schema.arguments (Decoder.list decode) (listValue toValue args) args :=
  .noted (.list reads args)

theorem textMapReads (m : OrderedMap String) :
    Reads (.usually Schema.noFields (.map .text)) (Decoder.map Decoder.text) (mapValue .text m) m :=
  .noted (.map .text m)

/-! ## Opcodes and scalar types -/

theorem Override.reads (given : Override) : Reads Schema.override decode given.toValue given := by
  cases given with
  | body text => exact .type (.first ⟨rfl, rfl⟩)
  | sameAs opcode => exact .type (.second rfl ⟨rfl, rfl⟩)

namespace Opcode

def slots (opcode : Opcode) : OrderedMap (Option Value) where
  entries := [("stmt", some (.text opcode.statement)),
    ("commutative", if opcode.commutative then some (.bool opcode.commutative) else none),
    ("idempotent", if !opcode.idempotent then some (.bool opcode.idempotent) else none),
    ("per_op_overrides", if !opcode.overrides.isEmpty then
      some (mapValue Override.toValue opcode.overrides) else none)]
  nodup := show Opcode.fields.fields.Nodup by decide

theorem toValue_eq (opcode : Opcode) : opcode.toValue = .record opcode.slots.written := by
  simp [toValue, slots, OrderedMap.written, fieldIf_eq]

theorem reads (opcode : Opcode) : Reads Schema.opcode decode opcode.toValue opcode := by
  have hstatement : ReadsSlot opcode.slots "stmt" .text Decoder.text none opcode.statement :=
    .text rfl
  have hcommutative : ReadsSlot opcode.slots "commutative" .boolean Decoder.bool (some false)
      opcode.commutative := .boolean rfl (by cases opcode.commutative <;> simp)
  have hidempotent : ReadsSlot opcode.slots "idempotent" .boolean Decoder.bool (some true)
      opcode.idempotent := .boolean rfl (by cases opcode.idempotent <;> simp)
  have hoverrides : ReadsSlot opcode.slots "per_op_overrides" (.map Schema.override)
      (Decoder.map Override.decode) (some ∅) opcode.overrides :=
    .map rfl Override.reads
  rw [toValue_eq]
  refine .type (.record rfl ?_ ?_)
  · simp only [List.forall_mem_cons]
    exact ⟨hcommutative.accepts, hidempotent.accepts, hoverrides.accepts, hstatement.accepts,
      List.forall_mem_nil _⟩
  · simp only [hstatement.required, hcommutative.defaulted,
      hidempotent.defaulted, hoverrides.defaulted]
    rfl

end Opcode

namespace Behaviour

def slots (behaviour : Behaviour) : OrderedMap (Option Value) where
  entries := [("out", some (.text behaviour.out)),
    ("args", some (listValue Argument.toValue behaviour.args)),
    ("default", some (.text behaviour.fallback)),
    ("description", behaviour.description.map .text)]
  nodup := show Behaviour.fields.fields.Nodup by decide

theorem toValue_eq (behaviour : Behaviour) :
    behaviour.toValue = .record behaviour.slots.written := by
  simp [toValue, slots, OrderedMap.written, optionField_eq]

theorem reads (behaviour : Behaviour) :
    Reads Schema.behaviour decode behaviour.toValue behaviour := by
  have hout : ReadsSlot behaviour.slots "out" .text Decoder.text (some "void") behaviour.out :=
    .text rfl
  have hargs : ReadsSlot behaviour.slots "args" Schema.arguments (Decoder.list Argument.decode)
      (some []) behaviour.args := .given rfl (Argument.listReads _)
  have hfallback : ReadsSlot behaviour.slots "default" .text Decoder.text none behaviour.fallback :=
    .text rfl
  have hdescription : ReadsSlot behaviour.slots "description" .optionalText (nullable Decoder.text)
      (some none) behaviour.description := .optionalText rfl
  rw [toValue_eq]
  refine .type (.record rfl ?_ ?_)
  · simp only [List.forall_mem_cons]
    exact ⟨hargs.accepts, hfallback.accepts, hdescription.accepts, hout.accepts,
      List.forall_mem_nil _⟩
  · simp only [hout.defaulted, hargs.defaulted, hfallback.required,
      hdescription.optional]
    rfl

end Behaviour

namespace OpcodeSection

def slots (ops : OpcodeSection) : OrderedMap (Option Value) where
  entries := [("params", some (.text ops.params)),
    ("operator_path", ops.operatorPath.map .text),
    ("opcalls", some (mapValue Opcode.toValue ops.opcodes)),
    ("per_op", if !ops.behaviours.isEmpty then
      some (mapValue Behaviour.toValue ops.behaviours) else none)]
  nodup := show OpcodeSection.fields.fields.Nodup by decide

theorem toValue_eq (ops : OpcodeSection) : ops.toValue = .record ops.slots.written := by
  simp [toValue, slots, OrderedMap.written, optionField_eq, fieldIf_eq]

theorem reads (ops : OpcodeSection) : Reads Schema.opcodeSection decode ops.toValue ops := by
  have hparams : ReadsSlot ops.slots "params" .text Decoder.text none ops.params :=
    .text rfl
  have hpath : ReadsSlot ops.slots "operator_path" .optionalText (nullable Decoder.text)
      (some none) ops.operatorPath := .optionalText rfl
  have hopcodes : ReadsSlot ops.slots "opcalls" (.map Schema.opcode) (Decoder.map Opcode.decode)
      none ops.opcodes := .given rfl (.map Opcode.reads _)
  have hbehaviours : ReadsSlot ops.slots "per_op" (.map Schema.behaviour)
      (Decoder.map Behaviour.decode) (some ∅) ops.behaviours :=
    .map rfl Behaviour.reads
  rw [toValue_eq]
  refine .type (.record rfl ?_ ?_)
  · simp only [List.forall_mem_cons]
    exact ⟨hopcodes.accepts, hpath.accepts, hparams.accepts, hbehaviours.accepts,
      List.forall_mem_nil _⟩
  · simp only [hparams.required, hpath.optional, hopcodes.required,
      hbehaviours.defaulted]
    rfl

end OpcodeSection

/-- A rank fits into 32 bits and is read as itself. -/
theorem precisionReads (rank : UInt32) :
    Reads (.natural [.integer, .null]) Decoder.word (Value.ofNat rank.toNat) rank where
  accepts := by
    have hpositive : ¬ ((rank.toNat : Int) < 0) := by omega
    simp only [Value.ofNat, Schema.accepts, Schema.isBelowZero, decide_eq_false hpositive]
    rfl
  decodes := by
    have hbound := rank.toNat_lt
    have hrange : (0 : Int) ≤ rank.toNat ∧ (rank.toNat : Int) < 4294967296 := by omega
    rw [Value.ofNat, Decoder.word, if_pos hrange, Int.toNat_natCast, UInt32.ofNat_toNat]

namespace Dtype

def slots (dtype : Dtype) : OrderedMap (Option Value) where
  entries := [("ctype", some (.text dtype.ctype)),
    ("precision", dtype.precision.map fun rank ↦ Value.ofNat rank.toNat)]
  nodup := show Dtype.fields.fields.Nodup by decide

theorem toValue_eq (dtype : Dtype) : dtype.toValue = .record dtype.slots.written := by
  cases hprecision : dtype.precision <;>
    simp [toValue, slots, OrderedMap.written, hprecision]

theorem reads (dtype : Dtype) : Reads Schema.dtype decode dtype.toValue dtype := by
  have hctype : ReadsSlot dtype.slots "ctype" .text Decoder.text none dtype.ctype :=
    .text rfl
  have hprecision : ReadsSlot dtype.slots "precision" (.natural [.integer, .null])
      (nullable Decoder.word) (some none) dtype.precision :=
    .option rfl (fun _ ↦ nofun) precisionReads
  rw [toValue_eq]
  refine .type (.record rfl ?_ ?_)
  · simp only [List.forall_mem_cons]
    exact ⟨hctype.accepts, hprecision.accepts, List.forall_mem_nil _⟩
  · simp only [hctype.required, hprecision.optional]
    rfl

end Dtype

/-! ## Functions -/

namespace Output

def typedSlots (type : Option String) (text : String) : OrderedMap (Option Value) where
  entries := [("type", type.map .text), ("val", some (.text text))]
  nodup := show ["type", "val"].Nodup by decide

theorem toValue_typed_eq (type : Option String) (text : String) :
    (typed type text).toValue = .record (typedSlots type text).written := by
  simp [toValue, typedSlots, OrderedMap.written, optionField_eq]

theorem reads (out : Output) : Reads Schema.output decode out.toValue out := by
  cases out with
  | body text => exact .type (.first ⟨rfl, rfl⟩)
  | typed type text =>
    have htype : ReadsSlot (typedSlots type text) "type" .optionalText (nullable Decoder.text)
        (some none) type := .optionalText rfl
    have htext : ReadsSlot (typedSlots type text) "val" .text Decoder.text none text :=
      .text rfl
    rw [toValue_typed_eq]
    refine .type (.second rfl (.openRecord rfl ?_ ?_))
    · simp only [List.forall_mem_cons]
      exact ⟨htype.accepts, htext.accepts, List.forall_mem_nil _⟩
    · simp only [htype.optional, htext.required]
      rfl

end Output

namespace FunctionDecl

def slots (function : FunctionDecl) : OrderedMap (Option Value) where
  entries := [("name", function.name.map .text), ("operator", function.operator.map .text),
    ("args", some (listValue Argument.toValue function.args)), ("out", some function.out.toValue),
    ("template", function.template.map .text),
    ("description", function.description.map .text),
    ("public", if !function.isPublic then some (.bool function.isPublic) else none),
    ("skip_binding", if function.skipBinding then some (.bool function.skipBinding) else none)]
  nodup := show FunctionDecl.fields.fields.Nodup by decide

theorem toValue_eq (function : FunctionDecl) : function.toValue = .record function.slots.written := by
  simp [toValue, slots, OrderedMap.written, optionField_eq, fieldIf_eq]

theorem reads (function : FunctionDecl) :
    Reads Schema.function decode function.toValue function := by
  have hname : ReadsSlot function.slots "name" .optionalText (nullable Decoder.text) (some none)
      function.name := .optionalText rfl
  have hoperator : ReadsSlot function.slots "operator" .optionalText (nullable Decoder.text)
      (some none) function.operator := .optionalText rfl
  have hargs : ReadsSlot function.slots "args" Schema.arguments (Decoder.list Argument.decode)
      (some []) function.args := .given rfl (Argument.listReads _)
  have hout : ReadsSlot function.slots "out" Schema.output Output.decode none function.out :=
    .given rfl (Output.reads _)
  have htemplate : ReadsSlot function.slots "template" .optionalText (nullable Decoder.text)
      (some none) function.template := .optionalText rfl
  have hdescription : ReadsSlot function.slots "description" .optionalText (nullable Decoder.text)
      (some none) function.description := .optionalText rfl
  have hpublic : ReadsSlot function.slots "public" .boolean Decoder.bool (some true)
      function.isPublic := .boolean rfl (by cases function.isPublic <;> simp)
  have hskip : ReadsSlot function.slots "skip_binding" .boolean Decoder.bool (some false)
      function.skipBinding := .boolean rfl (by cases function.skipBinding <;> simp)
  -- The older name of the last field is never written.
  have holder : ∀ older ∈ ["pyignores"], older ∉ function.slots.keys :=
    show ∀ older ∈ ["pyignores"], older ∉ FunctionDecl.fields.fields by decide
  rw [toValue_eq]
  refine .type (.record rfl ?_ ?_)
  · simp only [List.forall_mem_cons]
    exact ⟨hargs.accepts, hdescription.accepts, hname.accepts, hoperator.accepts, hout.accepts,
      hpublic.accepts, hskip.accepts, htemplate.accepts, List.forall_mem_nil _⟩
  · simp only [hname.optional, hoperator.optional, hargs.defaulted,
      hout.required, htemplate.optional, hdescription.optional, hpublic.defaulted,
      hskip.read holder]
    rfl

theorem listReads (functions : List FunctionDecl) :
    Reads Schema.functions (Decoder.list decode) (listValue toValue functions) functions :=
  .noted (.list reads functions)

end FunctionDecl

/-! ## Classes -/

namespace Construction

def slots (init : Construction) : OrderedMap (Option Value) where
  entries := [("args", some (listValue Argument.toValue init.args)),
    ("initlist", some (mapValue .text init.initList)), ("do", some (.text init.body))]
  nodup := show Construction.fields.fields.Nodup by decide

theorem toValue_eq (init : Construction) : init.toValue = .record init.slots.written := rfl

theorem reads (init : Construction) : Reads Schema.construction decode init.toValue init := by
  have hargs : ReadsSlot init.slots "args" Schema.arguments (Decoder.list Argument.decode)
      (some []) init.args := .given rfl (Argument.listReads _)
  have hinitList : ReadsSlot init.slots "initlist" (.usually Schema.noFields (.map .text))
      (Decoder.map Decoder.text) (some ∅) init.initList := .given rfl (textMapReads _)
  have hbody : ReadsSlot init.slots "do" .text Decoder.text (some "") init.body :=
    .text rfl
  rw [toValue_eq]
  refine .type (.record rfl ?_ ?_)
  · simp only [List.forall_mem_cons]
    exact ⟨hargs.accepts, hbody.accepts, hinitList.accepts, List.forall_mem_nil _⟩
  · simp only [hargs.defaulted, hinitList.defaulted, hbody.defaulted]
    rfl

end Construction

namespace Transfer

def slots (transfer : Transfer) : OrderedMap (Option Value) where
  entries := [("other", some (.text transfer.other)),
    ("args", some (listValue Argument.toValue transfer.args)),
    ("initlist", some (mapValue .text transfer.initList)), ("do", some (.text transfer.body))]
  nodup := show Transfer.fields.fields.Nodup by decide

theorem toValue_eq (transfer : Transfer) : transfer.toValue = .record transfer.slots.written := rfl

theorem reads (transfer : Transfer) : Reads Schema.transfer decode transfer.toValue transfer := by
  have hother : ReadsSlot transfer.slots "other" .text Decoder.text (some "other") transfer.other :=
    .text rfl
  have hargs : ReadsSlot transfer.slots "args" Schema.arguments (Decoder.list Argument.decode)
      (some []) transfer.args := .given rfl (Argument.listReads _)
  have hinitList : ReadsSlot transfer.slots "initlist" (.usually Schema.noFields (.map .text))
      (Decoder.map Decoder.text) (some ∅) transfer.initList := .given rfl (textMapReads _)
  have hbody : ReadsSlot transfer.slots "do" .text Decoder.text (some "") transfer.body :=
    .text rfl
  rw [toValue_eq]
  refine .type (.record rfl ?_ ?_)
  · simp only [List.forall_mem_cons]
    exact ⟨hargs.accepts, hbody.accepts, hinitList.accepts, hother.accepts, List.forall_mem_nil _⟩
  · simp only [hother.defaulted, hargs.defaulted, hinitList.defaulted,
      hbody.defaulted]
    rfl

end Transfer

namespace ClassDecl

def slots (cls : ClassDecl) : OrderedMap (Option Value) where
  entries := [("name", some (.text cls.name)), ("template", cls.template.map .text),
    ("requires", if !cls.requires.isEmpty then some (Value.texts cls.requires) else none),
    ("init", cls.init.map Construction.toValue), ("copy", cls.copy.map Transfer.toValue),
    ("move", cls.move.map Transfer.toValue),
    ("funcs", some (listValue FunctionDecl.toValue cls.functions)),
    ("members", some (listValue Argument.toValue cls.members))]
  nodup := show ClassDecl.fields.fields.Nodup by decide

theorem toValue_eq (cls : ClassDecl) : cls.toValue = .record cls.slots.written := by
  simp [toValue, slots, OrderedMap.written, optionField_eq, fieldIf_eq, Function.comp_def]

theorem reads (cls : ClassDecl) : Reads Schema.classDecl decode cls.toValue cls := by
  have hname : ReadsSlot cls.slots "name" .text Decoder.text none cls.name := .text rfl
  have htemplate : ReadsSlot cls.slots "template" .optionalText (nullable Decoder.text) (some none)
      cls.template := .optionalText rfl
  have hrequires : ReadsSlot cls.slots "requires" (.list .text) (Decoder.list Decoder.text)
      (some []) cls.requires := .texts rfl
  have hinit : ReadsSlot cls.slots "init" (.orNull Schema.construction)
      (nullable Construction.decode) (some none) cls.init :=
    .option rfl (fun _ ↦ nofun) fun init ↦ init.reads.orNull
  have hcopy : ReadsSlot cls.slots "copy" (.orNull Schema.transfer) (nullable Transfer.decode)
      (some none) cls.copy := .option rfl (fun _ ↦ nofun) fun copy ↦ copy.reads.orNull
  have hmove : ReadsSlot cls.slots "move" (.orNull Schema.transfer) (nullable Transfer.decode)
      (some none) cls.move := .option rfl (fun _ ↦ nofun) fun move ↦ move.reads.orNull
  have hfunctions : ReadsSlot cls.slots "funcs" Schema.functions (Decoder.list FunctionDecl.decode)
      (some []) cls.functions := .given rfl (FunctionDecl.listReads _)
  have hmembers : ReadsSlot cls.slots "members" Schema.arguments (Decoder.list Argument.decode)
      (some []) cls.members := .given rfl (Argument.listReads _)
  rw [toValue_eq]
  refine .type (.record rfl ?_ ?_)
  · simp only [List.forall_mem_cons]
    exact ⟨hcopy.accepts, hfunctions.accepts, hinit.accepts, hmembers.accepts, hmove.accepts,
      hname.accepts, hrequires.accepts, htemplate.accepts, List.forall_mem_nil _⟩
  · simp only [hname.required, htemplate.optional, hrequires.defaulted,
      hinit.optional, hcopy.optional, hmove.optional, hfunctions.defaulted, hmembers.defaulted]
    rfl

end ClassDecl

/-! ## The interface -/

namespace NamespaceContent

def fullSlots (functions : List FunctionDecl) (classes : List ClassDecl) :
    OrderedMap (Option Value) where
  entries := [("funcs", some (listValue FunctionDecl.toValue functions)),
    ("classes", some (listValue ClassDecl.toValue classes))]
  nodup := show ["funcs", "classes"].Nodup by decide

/-- The two forms of a namespace are told apart, since one is a list and the other a record. -/
theorem reads (content : NamespaceContent) :
    Reads Schema.namespaceContent decode content.toValue content := by
  cases content with
  | brief functions =>
    have hfunctions := Reads.list FunctionDecl.reads functions
    refine .type (.first ⟨hfunctions.accepts, ?_⟩)
    simp only [toValue, hfunctions.decodes]
    rfl
  | full functions classes =>
    have hfunctions : ReadsSlot (fullSlots functions classes) "funcs" Schema.functions
        (Decoder.list FunctionDecl.decode) (some []) functions :=
      .given rfl (FunctionDecl.listReads _)
    have hclasses : ReadsSlot (fullSlots functions classes) "classes"
        (.usually Schema.noItems (.list Schema.classDecl)) (Decoder.list ClassDecl.decode)
        (some []) classes := .given rfl (.noted (.list ClassDecl.reads _))
    have hvalue : (full functions classes).toValue =
        .record (fullSlots functions classes).written := rfl
    rw [hvalue]
    refine .type (.second rfl (.openRecord rfl ?_ ?_))
    · simp only [List.forall_mem_cons]
      exact ⟨hclasses.accepts, hfunctions.accepts, List.forall_mem_nil _⟩
    · simp only [hfunctions.defaulted, hclasses.defaulted]
      rfl

end NamespaceContent

namespace BindingSettings

def slots (binding : BindingSettings) : OrderedMap (Option Value) where
  entries := [("bind_type", some (.text binding.bindType)),
    ("includes", if !binding.includes.isEmpty then some (Value.texts binding.includes) else none),
    ("ignore_types",
      if !binding.ignoredTypes.isEmpty then some (Value.texts binding.ignoredTypes) else none)]
  nodup := show BindingSettings.fields.fields.Nodup by decide

theorem toValue_eq (binding : BindingSettings) : binding.toValue = .record binding.slots.written := by
  simp [toValue, slots, OrderedMap.written, fieldIf_eq]

theorem reads (binding : BindingSettings) : Reads Schema.binding decode binding.toValue binding := by
  have hbindType : ReadsSlot binding.slots "bind_type" .text Decoder.text (some "double")
      binding.bindType := .text rfl
  have hincludes : ReadsSlot binding.slots "includes" (.list .text) (Decoder.list Decoder.text)
      (some []) binding.includes := .texts rfl
  have hignored : ReadsSlot binding.slots "ignore_types" (.list .text) (Decoder.list Decoder.text)
      (some []) binding.ignoredTypes := .texts rfl
  rw [toValue_eq]
  refine .type (.record rfl ?_ ?_)
  · simp only [List.forall_mem_cons]
    exact ⟨hbindType.accepts, hignored.accepts, hincludes.accepts, List.forall_mem_nil _⟩
  · simp only [hbindType.defaulted, hincludes.defaulted,
      hignored.defaulted]
    rfl

end BindingSettings

namespace Api

def slots (api : Api) : OrderedMap (Option Value) where
  entries := [("includes", if !api.includes.isEmpty then some (Value.texts api.includes) else none),
    ("namespaces", some (mapValue NamespaceContent.toValue api.namespaces)),
    ("nullable_types", some (Value.texts api.nullableTypes)),
    ("default_out", some (.text api.defaultOut)), ("binding", some api.binding.toValue)]
  nodup := show Api.fields.fields.Nodup by decide

theorem toValue_eq (api : Api) : api.toValue = .record api.slots.written := by
  simp [toValue, slots, OrderedMap.written, fieldIf_eq]

theorem reads (api : Api) : Reads Schema.api decode api.toValue api := by
  have hincludes : ReadsSlot api.slots "includes" (.list .text) (Decoder.list Decoder.text)
      (some []) api.includes := .texts rfl
  have hnamespaces : ReadsSlot api.slots "namespaces" (.map Schema.namespaceContent)
      (Decoder.map NamespaceContent.decode) (some ∅) api.namespaces :=
    .given rfl (.map NamespaceContent.reads _)
  have hnullable : ReadsSlot api.slots "nullable_types" (.list .text) (Decoder.list Decoder.text)
      (some ["teq::TensptrT", "eteq::ETensor"]) api.nullableTypes := .given rfl (.texts _)
  have hdefaultOut : ReadsSlot api.slots "default_out" .text Decoder.text (some "teq::TensptrT")
      api.defaultOut := .text rfl
  have hbinding : ReadsSlot api.slots "binding" Schema.binding BindingSettings.decode (some {})
      api.binding := .given rfl (BindingSettings.reads _)
  rw [toValue_eq]
  refine .type (.record rfl ?_ ?_)
  · simp only [List.forall_mem_cons]
    exact ⟨hbinding.accepts, hdefaultOut.accepts, hincludes.accepts, hnamespaces.accepts,
      hnullable.accepts, List.forall_mem_nil _⟩
  · simp only [hincludes.defaulted, hnamespaces.defaulted,
      hnullable.defaulted, hdefaultOut.defaulted, hbinding.defaulted]
    rfl

end Api

/-! ## Documents -/

namespace Document

def slots (document : Document) : OrderedMap (Option Value) where
  entries := [("opcode", document.opcode.map OpcodeSection.toValue),
    ("dtype", document.dtype.map (mapValue Dtype.toValue)),
    ("defines", if !document.defines.isEmpty then some (Value.texts document.defines) else none),
    ("default_type", document.defaultType.map .text), ("api", document.api.map Api.toValue)]
  nodup := show Document.fields.fields.Nodup by decide

theorem toValue_eq (document : Document) : document.toValue = .record document.slots.written := by
  simp [toValue, slots, OrderedMap.written, optionField_eq, fieldIf_eq, Function.comp_def]

theorem reads (document : Document) : Reads Schema.document decode document.toValue document := by
  have hopcode : ReadsSlot document.slots "opcode" (.orNull Schema.opcodeSection)
      (nullable OpcodeSection.decode) (some none) document.opcode :=
    .option rfl (fun _ ↦ nofun) fun ops ↦ ops.reads.orNull
  have hdtype : ReadsSlot document.slots "dtype" (.table [.record, .null] Schema.dtype)
      (nullable (Decoder.map Dtype.decode)) (some none) document.dtype :=
    .option rfl (fun _ ↦ nofun) (.table List.mem_cons_self Dtype.reads)
  have hdefines : ReadsSlot document.slots "defines" (.list .text) (Decoder.list Decoder.text)
      (some []) document.defines := .texts rfl
  have hdefault : ReadsSlot document.slots "default_type" .optionalText (nullable Decoder.text)
      (some none) document.defaultType := .optionalText rfl
  have hapi : ReadsSlot document.slots "api" (.orNull Schema.api) (nullable Api.decode) (some none)
      document.api := .option rfl (fun _ ↦ nofun) fun api ↦ api.reads.orNull
  rw [toValue_eq]
  refine .noted (.record rfl ?_ ?_)
  · simp only [List.forall_mem_cons]
    exact ⟨hapi.accepts, hdefault.accepts, hdefines.accepts, hdtype.accepts, hopcode.accepts,
      List.forall_mem_nil _⟩
  · simp only [hopcode.optional, hdtype.optional, hdefines.defaulted,
      hdefault.optional, hapi.optional]
    rfl

end Document

/-- A document that is written as a value passes the check against the schema and is read back as it was,
every map in its order. -/
theorem buildDocument_toValue (document : Document) (source : String) :
    buildDocument document.toValue source = .ok document := by
  have hreads := document.reads
  have hviolations : Schema.document.violations [] document.toValue = [] :=
    (Schema.violations_eq_nil_iff _ _ _).mpr hreads.accepts
  simp only [buildDocument, checkDocument, hviolations, List.map_nil, typeDocument, hreads.decodes]
  rfl

end SourceGen.Spec
