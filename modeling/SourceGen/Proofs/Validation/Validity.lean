import SourceGen.Proofs.Validation.Acceptance
import SourceGen.Proofs.Validation.ScalarType

/-!
# Valid specifications

What a specification without errors is, said without the order in which the rules go through it: names are
identifiers and told apart, references lead to what is declared, and every part is given that a
declaration needs. Validation reports success exactly for the valid specifications.
-/

namespace SourceGen.Validation

open Spec Text

/-! ## Names -/

/-- Names that are identifiers and differ from each other. -/
structure DistinctIdentifiers (names : List String) : Prop where
  identifiers : ∀ name ∈ names, isIdentifier name
  nodup : names.Nodup

instance {names : List String} : Decidable (DistinctIdentifiers names) :=
  decidable_of_iff ((∀ name ∈ names, isIdentifier name) ∧ names.Nodup)
    ⟨fun h ↦ ⟨h.1, h.2⟩, fun h ↦ ⟨h.identifiers, h.nodup⟩⟩

/-- Identifiers that differ from each other and from the names seen before. -/
structure FreshIdentifiers (seen names : List String) : Prop extends DistinctIdentifiers names where
  fresh : ∀ name ∈ names, name ∉ seen

@[simp] theorem freshIdentifiers_nil {seen : List String} : FreshIdentifiers seen [] :=
  ⟨⟨fun _ h ↦ absurd h List.not_mem_nil, List.nodup_nil⟩, fun _ h ↦ absurd h List.not_mem_nil⟩

/-- One name is looked up among those before it and then joins them. -/
theorem freshIdentifiers_cons {seen names : List String} {name : String} :
    FreshIdentifiers seen (name :: names) ↔
      (isIdentifier name ∧ name ∉ seen) ∧ FreshIdentifiers (seen ++ [name]) names := by
  constructor
  · rintro ⟨⟨hidentifiers, hnodup⟩, hfresh⟩
    obtain ⟨hidentifier, hrest⟩ := List.forall_mem_cons.mp hidentifiers
    obtain ⟨hnew, hnodup⟩ := List.nodup_cons.mp hnodup
    obtain ⟨hseen, hfresh⟩ := List.forall_mem_cons.mp hfresh
    refine ⟨⟨hidentifier, hseen⟩, ⟨hrest, hnodup⟩, fun other hother hmem ↦ ?_⟩
    rcases List.mem_append.mp hmem with hmem | hmem
    · exact hfresh other hother hmem
    · exact hnew (List.mem_singleton.mp hmem ▸ hother)
  · rintro ⟨⟨hidentifier, hseen⟩, ⟨hrest, hnodup⟩, hfresh⟩
    have hnew : name ∉ names := fun hmem ↦ hfresh name hmem (by simp)
    exact ⟨⟨List.forall_mem_cons.mpr ⟨hidentifier, hrest⟩, List.nodup_cons.mpr ⟨hnew, hnodup⟩⟩,
      List.forall_mem_cons.mpr ⟨hseen, fun other hother hmem ↦
        hfresh other hother (List.mem_append_left _ hmem)⟩⟩

theorem freshIdentifiers_nil_seen {names : List String} :
    FreshIdentifiers [] names ↔ DistinctIdentifiers names :=
  ⟨fun h ↦ h.toDistinctIdentifiers, fun h ↦ ⟨h, fun _ _ ↦ List.not_mem_nil⟩⟩

/-! ## Sections -/

/-- A code is an identifier that the generated enumeration does not declare by itself. -/
def IsFreeCode (reserved : List String) (name : String) : Prop :=
  isIdentifier name ∧ name ∉ reserved

structure ValidArguments (args : List Argument) : Prop where
  names : DistinctIdentifiers (args.map (·.name))
  types : ∀ arg ∈ args, ¬ isBlankText arg.type

structure ValidOpcodes (ops : OpcodeSection) : Prop where
  codes : ∀ name ∈ ops.opcodes.keys, IsFreeCode reservedOpcodes name
  behaviours : ∀ name ∈ ops.behaviours.keys, isIdentifier name
  arguments : ∀ name behaviour, (name, behaviour) ∈ ops.behaviours.entries → ValidArguments behaviour.args
  overrides : OverridesResolve ops

structure ValidDtype (code : String) (dtype : Dtype) : Prop where
  code : IsFreeCode reservedDtypes code
  ctype : IsScalarName (trimChars dtype.ctype.toList)

/-- No parameter of a template list is empty. -/
def ValidTemplate (template : Option String) : Prop :=
  ∀ text, template = some text → "" ∉ parameters text

/-- A function has a name that is an identifier or an operator symbol that is not blank, never both. -/
def ProperlyNamed (function : FunctionDecl) : Prop :=
  (∃ name, function.name = some name ∧ function.operator = none ∧ isIdentifier name) ∨
    (∃ symbol, function.name = none ∧ function.operator = some symbol ∧ ¬ isBlankText symbol)

theorem ProperlyNamed.namedOnce {function : FunctionDecl} (h : ProperlyNamed function) :
    NamedOnce function := by
  rcases h with ⟨name, hname, hoperator, -⟩ | ⟨symbol, hname, hoperator, -⟩
  · exact .inl ⟨by rw [hname]; rfl, hoperator⟩
  · exact .inr ⟨hname, by rw [hoperator]; rfl⟩

structure ValidFunction (function : FunctionDecl) : Prop where
  named : ProperlyNamed function
  arguments : ValidArguments function.args
  template : ValidTemplate function.usedTemplate

structure ValidClass (cls : ClassDecl) : Prop where
  members : DistinctIdentifiers (cls.members.map (·.name))
  init : ∀ spec, cls.init = some spec → NamesMembers cls spec.initList
  functions : ∀ function ∈ cls.functions, ValidFunction function
  template : ValidTemplate cls.usedTemplate

structure ValidNamespace (name : String) (content : NamespaceContent) : Prop where
  segments : ∀ segment ∈ splitScope name.toList,
    segment = [] ∨ segment = ['_'] ∨ isIdentifierChars segment
  functions : ∀ function ∈ content.functions, ValidFunction function
  classNames : DistinctIdentifiers (content.classes.map (·.name))
  classes : ∀ cls ∈ content.classes, ValidClass cls

structure Valid (document : Document) : Prop where
  opcodes : ∀ ops, document.opcode = some ops → ValidOpcodes ops
  dtypes : ∀ dtypes, document.dtype = some dtypes →
    ∀ code dtype, (code, dtype) ∈ dtypes.entries → ValidDtype code dtype
  defaultType : ∀ name, document.defaultType = some name →
    ∃ dtypes, document.dtype = some dtypes ∧ name ∈ dtypes.keys
  namespaces : ∀ api, document.api = some api →
    ∀ name content, (name, content) ∈ api.namespaces.entries → ValidNamespace name content

/-- The emitters find all in a valid document that they rely on validation for. -/
theorem Valid.granted {document : Document} (h : Valid document) : Granted document where
  overrides ops hops := (h.opcodes ops hops).overrides
  defaultType := h.defaultType
  functions api hapi name content hcontent := by
    have hvalid := h.namespaces api hapi name content hcontent
    refine ⟨fun function hfunction ↦ (hvalid.functions function hfunction).named.namedOnce, ?_⟩
    intro cls hcls function hfunction
    exact ((hvalid.classes cls hcls).functions function hfunction).named.namedOnce
  init api hapi name content hcontent cls hcls :=
    ((h.namespaces api hapi name content hcontent).classes cls hcls).init

/-! ## Codes -/

/-- A check with an error in store passes exactly if its condition does not hold and the rest passes. -/
theorem errorFree_ite_iff {bad : Prop} [Decidable bad] {problem : Problem} {others : List Problem}
    (hsevere : problem.cause.severity = .error) :
    ErrorFree (if bad then [problem] else others) ↔ ¬ bad ∧ ErrorFree others := by
  by_cases hbad : bad
  · simp [hbad, ErrorFree, hsevere]
  · simp [hbad]

theorem errorFree_codeProblems_iff {reserved : List String} {path name : String} :
    ErrorFree (codeProblems reserved path name) ↔ IsFreeCode reserved name := by
  rw [codeProblems, errorFree_ite_iff rfl, errorFree_ite_iff rfl]
  simp [IsFreeCode]

theorem errorFree_behaviourNameProblems_iff {name : String} :
    ErrorFree (behaviourNameProblems name) ↔ isIdentifier name := by
  unfold behaviourNameProblems
  by_cases hname : isIdentifier name = true <;> simp [hname, Cause.severity]

theorem errorFree_dtypeProblems_iff {code : String} {dtype : Dtype} :
    ErrorFree (dtypeProblems code dtype) ↔ ValidDtype code dtype := by
  have hscalar : isScalarType dtype.ctype = true ↔ IsScalarName (trimChars dtype.ctype.toList) :=
    isScalarChars_iff
  rw [dtypeProblems, errorFree_append, errorFree_codeProblems_iff]
  constructor
  · rintro ⟨hcode, hctype⟩
    refine ⟨hcode, hscalar.mp ?_⟩
    by_cases htype : isScalarType dtype.ctype = true
    · exact htype
    · simp [htype, Cause.severity] at hctype
  · rintro ⟨hcode, hctype⟩
    exact ⟨hcode, by rw [if_pos (hscalar.mpr hctype)]; exact errorFree_nil⟩

/-! ## Lists of arguments and members -/

theorem errorFree_argumentNameProblems_iff {seen : List String} {path name : String} :
    ErrorFree (argumentNameProblems seen path name) ↔ isIdentifier name ∧ name ∉ seen := by
  rw [argumentNameProblems, errorFree_ite_iff rfl, errorFree_ite_iff rfl]
  simp

theorem errorFree_argumentProblems_iff {seen : List String} {path : String} {arg : Argument} :
    ErrorFree (argumentProblems seen path arg) ↔
      (isIdentifier arg.name ∧ arg.name ∉ seen) ∧ ¬ isBlankText arg.type := by
  rw [argumentProblems, errorFree_append, errorFree_argumentNameProblems_iff, errorFree_ite_iff rfl]
  simp

theorem errorFree_argumentsProblemsFrom_iff {seen : List String} {path : String} {i : Nat}
    {args : List Argument} :
    ErrorFree (argumentsProblemsFrom seen path i args) ↔
      FreshIdentifiers seen (args.map (·.name)) ∧ ∀ arg ∈ args, ¬ isBlankText arg.type := by
  induction args generalizing seen i with
  | nil => simp [argumentsProblemsFrom]
  | cons arg rest ih =>
    rw [argumentsProblemsFrom, errorFree_append, errorFree_argumentProblems_iff, ih, List.map_cons,
      freshIdentifiers_cons, List.forall_mem_cons]
    exact and_and_and_comm

theorem errorFree_argumentsProblems_iff {path : String} {args : List Argument} :
    ErrorFree (argumentsProblems path args) ↔ ValidArguments args := by
  rw [argumentsProblems, errorFree_argumentsProblemsFrom_iff, freshIdentifiers_nil_seen]
  exact ⟨fun h ↦ ⟨h.1, h.2⟩, fun h ↦ ⟨h.names, h.types⟩⟩

theorem errorFree_memberNameProblems_iff {seen : List String} {path className name : String} :
    ErrorFree (memberNameProblems seen path className name) ↔ isIdentifier name ∧ name ∉ seen := by
  rw [memberNameProblems, errorFree_ite_iff rfl, errorFree_ite_iff rfl]
  simp

theorem errorFree_membersProblemsFrom_iff {seen : List String} {path className : String}
    {members : List Argument} :
    ErrorFree (membersProblemsFrom seen path className members) ↔
      FreshIdentifiers seen (members.map (·.name)) := by
  induction members generalizing seen with
  | nil => simp [membersProblemsFrom]
  | cons member rest ih =>
    rw [membersProblemsFrom, errorFree_append, errorFree_memberNameProblems_iff, ih, List.map_cons,
      freshIdentifiers_cons]

/-! ## Functions -/

theorem errorFree_templateProblems_iff {path : String} {template : Option String} :
    ErrorFree (templateProblems path template) ↔ ValidTemplate template := by
  cases template with
  | none => simp [templateProblems, ValidTemplate]
  | some text =>
    rw [templateProblems, errorFree_ite_iff rfl]
    simp [ValidTemplate]

theorem errorFree_functionProblems_iff {path : String} {function : FunctionDecl} :
    ErrorFree (functionProblems path function) ↔ ValidFunction function := by
  rw [functionProblems, errorFree_append, errorFree_append, errorFree_functionNameProblems_iff,
    errorFree_argumentsProblems_iff, errorFree_templateProblems_iff]
  exact ⟨fun h ↦ ⟨h.1.1, h.1.2, h.2⟩, fun h ↦ ⟨⟨h.named, h.arguments⟩, h.template⟩⟩

/-- The place of an item has no part in its being good. -/
theorem errorFree_numberedProblems_iff {α : Type} {path : String} {check : String → α → List Problem}
    {good : α → Prop} (hcheck : ∀ place item, ErrorFree (check place item) ↔ good item) {i : Nat}
    {items : List α} :
    ErrorFree (numberedProblems path check i items) ↔ ∀ item ∈ items, good item := by
  induction items generalizing i with
  | nil => simp [numberedProblems]
  | cons item rest ih => rw [numberedProblems, errorFree_append, hcheck, ih, List.forall_mem_cons]

theorem errorFree_functionsProblems_iff {path : String} {functions : List FunctionDecl} :
    ErrorFree (functionsProblems path functions) ↔ ∀ function ∈ functions, ValidFunction function := by
  have hcheck : ∀ place function,
      ErrorFree (functionProblems place function) ↔ ValidFunction function :=
    fun _ _ ↦ errorFree_functionProblems_iff
  exact errorFree_numberedProblems_iff hcheck

/-! ## Classes -/

theorem errorFree_classNameProblems_iff {seen : List String} {namespaceName path name : String} :
    ErrorFree (classNameProblems seen namespaceName path name) ↔ isIdentifier name ∧ name ∉ seen := by
  rw [classNameProblems, errorFree_ite_iff rfl, errorFree_ite_iff rfl]
  simp

/-- A class that requires itself is only warned of. -/
theorem errorFree_requiresProblems {path : String} {cls : ClassDecl} :
    ErrorFree (requiresProblems path cls) := by
  unfold requiresProblems
  split <;> simp [Cause.severity]

/-- Where all members bear identifiers, an init list may name any of them. -/
theorem mem_memberNames_iff {cls : ClassDecl} {key : String}
    (h : DistinctIdentifiers (cls.members.map (·.name))) :
    key ∈ memberNames cls ↔ ∃ member ∈ cls.members, member.name = key := by
  rw [memberNames, List.mem_filter, ← List.mem_map]
  exact ⟨fun hkey ↦ hkey.1, fun hkey ↦ ⟨hkey, h.identifiers key hkey⟩⟩

/-- What the rules for classes ask of one class apart from its name. -/
def MembersResolve (cls : ClassDecl) : Prop :=
  DistinctIdentifiers (cls.members.map (·.name)) ∧
    ∀ spec, cls.init = some spec → NamesMembers cls spec.initList

theorem errorFree_classProblems_iff {seen : List String} {namespaceName path : String}
    {cls : ClassDecl} :
    ErrorFree (classProblems seen namespaceName path cls) ↔
      (isIdentifier cls.name ∧ cls.name ∉ seen) ∧ MembersResolve cls := by
  simp only [classProblems, errorFree_append, errorFree_classNameProblems_iff,
    errorFree_requiresProblems, errorFree_membersProblemsFrom_iff, freshIdentifiers_nil_seen,
    errorFree_initListProblems_iff, and_true, and_assoc, MembersResolve]
  -- The rule compares with the members that bear identifiers; given the conjunct before, these are all.
  refine and_congr_right fun _ ↦ and_congr_right fun _ ↦ and_congr_right fun hmembers ↦ ?_
  simp only [NamesMembers, mem_memberNames_iff hmembers]

theorem errorFree_classesProblemsFrom_iff {seen : List String} {namespaceName : String} {i : Nat}
    {classes : List ClassDecl} :
    ErrorFree (classesProblemsFrom seen namespaceName i classes) ↔
      FreshIdentifiers seen (classes.map (·.name)) ∧ ∀ cls ∈ classes, MembersResolve cls := by
  induction classes generalizing seen i with
  | nil => simp [classesProblemsFrom]
  | cons cls rest ih =>
    rw [classesProblemsFrom, errorFree_append, errorFree_classProblems_iff, ih, List.map_cons,
      freshIdentifiers_cons, List.forall_mem_cons]
    exact and_and_and_comm

theorem errorFree_classSignatureProblems_iff {path : String} {cls : ClassDecl} :
    ErrorFree (classSignatureProblems path cls) ↔
      ValidTemplate cls.usedTemplate ∧ ∀ function ∈ cls.functions, ValidFunction function := by
  rw [classSignatureProblems, errorFree_append, errorFree_templateProblems_iff,
    errorFree_functionsProblems_iff]

/-! ## Namespaces -/

theorem errorFree_namespaceNameProblems_iff {path name : String} :
    ErrorFree (namespaceNameProblems path name) ↔ ∀ segment ∈ splitScope name.toList,
      segment = [] ∨ segment = ['_'] ∨ isIdentifierChars segment := by
  have hsegments : (splitScope name.toList).all isSegment = true ↔
      ∀ segment ∈ splitScope name.toList,
        segment = [] ∨ segment = ['_'] ∨ isIdentifierChars segment := by
    simp [isSegment, or_assoc]
  rw [← hsegments, namespaceNameProblems]
  split
  · next h => simp [h]
  · next h => simp [h, Cause.severity]

/-- Two rules go through a namespace, one for the signatures and one for the classes. -/
theorem validNamespace_iff {name : String} {content : NamespaceContent} :
    ValidNamespace name content ↔ ErrorFree (namespaceProblems name content) ∧
      ErrorFree (classesProblemsFrom [] name 0 content.classes) := by
  have hsignature : ∀ place cls, ErrorFree (classSignatureProblems place cls) ↔
      ValidTemplate cls.usedTemplate ∧ ∀ function ∈ cls.functions, ValidFunction function :=
    fun _ _ ↦ errorFree_classSignatureProblems_iff
  simp only [namespaceProblems, errorFree_append, errorFree_namespaceNameProblems_iff,
    errorFree_functionsProblems_iff, errorFree_numberedProblems_iff hsignature,
    errorFree_classesProblemsFrom_iff, freshIdentifiers_nil_seen]
  constructor
  · rintro ⟨hsegments, hfunctions, hnames, hclasses⟩
    exact ⟨⟨⟨hsegments, hfunctions⟩, fun cls hcls ↦ ⟨(hclasses cls hcls).template,
      (hclasses cls hcls).functions⟩⟩, hnames, fun cls hcls ↦ ⟨(hclasses cls hcls).members,
        (hclasses cls hcls).init⟩⟩
  · rintro ⟨⟨⟨hsegments, hfunctions⟩, hsignatures⟩, hnames, hmembers⟩
    refine ⟨hsegments, hfunctions, hnames, fun cls hcls ↦ ?_⟩
    obtain ⟨htemplate, hmethods⟩ := hsignatures cls hcls
    obtain ⟨hdistinct, hinit⟩ := hmembers cls hcls
    exact ⟨hdistinct, hinit, hmethods, htemplate⟩

/-! ## Documents -/

/-- Three rules go through the opcodes: for their names, their overrides and the signatures. -/
theorem validOpcodes_iff {ops : OpcodeSection} :
    ValidOpcodes ops ↔ ErrorFree (opcodeNameProblems ops) ∧ ErrorFree (overrideProblems ops) ∧
      ∀ name behaviour, (name, behaviour) ∈ ops.behaviours.entries →
        ErrorFree (behaviourArgumentProblems name behaviour) := by
  simp only [opcodeNameProblems, errorFree_append, errorFree_flatMap, errorFree_codeProblems_iff,
    errorFree_behaviourNameProblems_iff, errorFree_overrideProblems_iff, behaviourArgumentProblems,
    errorFree_argumentsProblems_iff]
  exact ⟨fun h ↦ ⟨⟨h.codes, h.behaviours⟩, h.overrides, h.arguments⟩,
    fun h ↦ ⟨h.1.1, h.1.2, h.2.2, h.2.1⟩⟩

theorem errorFree_problems_iff {document : Document} :
    ErrorFree (problems document) ↔ Valid document := by
  simp only [problems, codesProblems, overridesProblems, signatureProblems, classesProblems,
    errorFree_append, errorFree_getD, errorFree_flatMap, errorFree_dtypeProblems_iff,
    errorFree_defaultTypeProblems_iff, Prod.forall]
  constructor
  · rintro ⟨⟨⟨⟨⟨hnames, hdtypes⟩, hdefault⟩, hoverrides⟩, harguments, hsignatures⟩, hclasses⟩
    exact ⟨fun ops hops ↦ validOpcodes_iff.mpr ⟨hnames ops hops, hoverrides ops hops,
      harguments ops hops⟩, hdtypes, hdefault, fun api hapi name content hcontent ↦
        validNamespace_iff.mpr ⟨hsignatures api hapi name content hcontent,
          hclasses api hapi name content hcontent⟩⟩
  · rintro ⟨hopcodes, hdtypes, hdefault, hnamespaces⟩
    refine ⟨⟨⟨⟨⟨?_, hdtypes⟩, hdefault⟩, ?_⟩, ?_, ?_⟩, ?_⟩
    · exact fun ops hops ↦ (validOpcodes_iff.mp (hopcodes ops hops)).1
    · exact fun ops hops ↦ (validOpcodes_iff.mp (hopcodes ops hops)).2.1
    · exact fun ops hops ↦ (validOpcodes_iff.mp (hopcodes ops hops)).2.2
    · exact fun api hapi name content hcontent ↦
        (validNamespace_iff.mp (hnamespaces api hapi name content hcontent)).1
    · exact fun api hapi name content hcontent ↦
        (validNamespace_iff.mp (hnamespaces api hapi name content hcontent)).2

theorem granted_of_errorFree {document : Document} (h : ErrorFree (problems document)) :
    Granted document :=
  (errorFree_problems_iff.mp h).granted

/-- Validation reports success exactly for the valid specifications. -/
theorem ok_validate_iff_valid (document : Document) :
    (validate document).ok = true ↔ Valid document :=
  ok_validateFile_iff.trans errorFree_problems_iff

end SourceGen.Validation
