import SourceGen.Proofs.Emit.ParameterLists
import SourceGen.Proofs.Validation.Validity

/-!
# Names within a parameter list

Validation tells the arguments of functions and of behaviours apart. It does not look at those of special
blocks, and the argument by which a dispatcher chooses comes on top of those of its behaviour. So the lists in
which a name may occur twice are those of constructors, which include the object that is copied or moved, and
those of dispatchers.
-/

namespace SourceGen.Emit

open Spec Text Validation

/-! ## Names -/

/-- The parameters of a list are named by identifiers that tell them apart. -/
def NamedApart (args : List Argument) : Prop :=
  DistinctIdentifiers (args.map (·.name))

instance {args : List Argument} : Decidable (NamedApart args) :=
  inferInstanceAs (Decidable (DistinctIdentifiers _))

theorem NamedApart.of_cons {arg : Argument} {args : List Argument} (h : NamedApart (arg :: args)) :
    NamedApart [arg] where
  identifiers := List.forall_mem_singleton.mpr (h.identifiers arg.name List.mem_cons_self)
  nodup := List.nodup_singleton arg.name

/-- Before arguments that are told apart, an argument is told apart if its name is not among theirs. -/
theorem namedApart_cons_iff {arg : Argument} {args : List Argument} (hname : isIdentifier arg.name)
    (h : NamedApart args) : NamedApart (arg :: args) ↔ ∀ other ∈ args, other.name ≠ arg.name := by
  have hnames : arg.name ∉ args.map (·.name) ↔ ∀ other ∈ args, other.name ≠ arg.name := by simp
  rw [← hnames]
  exact ⟨fun happart ↦ (List.nodup_cons.mp happart.nodup).1, fun hfree ↦
    ⟨List.forall_mem_cons.mpr ⟨hname, h.identifiers⟩, List.nodup_cons.mpr ⟨hfree, h.nodup⟩⟩⟩

/-! ## Behaviours -/

section Opcodes

variable {ops : OpcodeSection}

/-- The lists that the opcode files show. -/
def behaviourLists (ops : OpcodeSection) : List (List Argument) :=
  declaredBehaviourLists ops ++ definedBehaviourLists ops

theorem forall_dispatchedLists_iff {entry : String × Behaviour} (h : NamedApart entry.2.args) :
    (∀ args ∈ dispatchedLists ops entry, NamedApart args) ↔ ∀ arg ∈ entry.2.args, arg.name ≠ "opcode" := by
  rw [dispatchedLists, List.forall_mem_append, List.forall_mem_singleton, List.forall_mem_map,
    namedApart_cons_iff (by decide) h]
  exact and_iff_right fun _ _ ↦ h

/-- Behaviours whose arguments are told apart are shown so, unless one is named as the dispatcher names its
own. -/
theorem forall_behaviourLists_iff
    (h : ∀ name behaviour, (name, behaviour) ∈ ops.behaviours.entries → NamedApart behaviour.args) :
    (∀ args ∈ behaviourLists ops, NamedApart args) ↔
      ∀ name behaviour, (name, behaviour) ∈ ops.behaviours.entries →
        ∀ arg ∈ behaviour.args, arg.name ≠ "opcode" := by
  simp only [behaviourLists, declaredBehaviourLists, definedBehaviourLists, List.forall_mem_append,
    List.forall_mem_flatMap, List.forall_mem_cons, Prod.forall]
  constructor
  · rintro ⟨-, hdefined⟩ name behaviour hentry
    exact (forall_dispatchedLists_iff (h name behaviour hentry)).mp (hdefined name behaviour hentry)
  · intro hfree
    have hdispatched : ∀ name behaviour, (name, behaviour) ∈ ops.behaviours.entries →
        ∀ args ∈ dispatchedLists ops (name, behaviour), NamedApart args := fun name behaviour hentry ↦
      (forall_dispatchedLists_iff (h name behaviour hentry)).mpr (hfree name behaviour hentry)
    exact ⟨fun name behaviour hentry ↦ ⟨h name behaviour hentry, hdispatched name behaviour hentry⟩,
      hdispatched⟩

end Opcodes

/-! ## Special blocks -/

/-- The object that is taken over and the arguments of its constructor are told apart. -/
def TransferNamedApart (spec : Transfer) : Prop :=
  DistinctIdentifiers (spec.other :: spec.args.map (·.name))

/-- The parameters of a class's constructors are told apart, copied and moved objects included. -/
structure SpecialsNamedApart (cls : ClassDecl) : Prop where
  init : ∀ init, cls.init = some init → NamedApart init.args
  copy : ∀ spec, cls.copy = some spec → TransferNamedApart spec
  move : ∀ spec, cls.move = some spec → TransferNamedApart spec

section Classes

variable {cls : ClassDecl}

theorem name_takenParameter (cls : ClassDecl) (other : String) (kind : TransferKind) :
    (takenParameter cls other kind).name = other := by
  cases kind <;> rfl

theorem namedApart_takenParameter_iff {kind : TransferKind} {spec : Transfer} :
    NamedApart (takenParameter cls spec.other kind :: spec.args) ↔ TransferNamedApart spec := by
  rw [NamedApart, List.map_cons, name_takenParameter, TransferNamedApart]

theorem forall_transferLists_iff {kind : TransferKind} {spec : Transfer} :
    (∀ args ∈ transferLists cls kind spec, NamedApart args) ↔ TransferNamedApart spec := by
  rw [transferLists, List.forall_mem_cons, List.forall_mem_singleton, namedApart_takenParameter_iff]
  -- The only parameter of the assignment is the first one of the constructor.
  exact and_iff_left_of_imp fun h ↦ (namedApart_takenParameter_iff.mpr h).of_cons

/-- What is left to its usual form has the usual name alone. -/
theorem namedApart_getD_iff {spec : Option Transfer} :
    TransferNamedApart (spec.getD {}) ↔ ∀ given, spec = some given → TransferNamedApart given := by
  have husual : TransferNamedApart {} := ⟨by decide, by decide⟩
  cases spec with
  | none => simpa using husual
  | some given => simp

theorem forall_declaredSpecialLists_iff :
    (∀ args ∈ declaredSpecialLists cls, NamedApart args) ↔ SpecialsNamedApart cls := by
  have hinit : (∀ args ∈ (cls.init.map (·.args)).toList, NamedApart args) ↔
      ∀ init, cls.init = some init → NamedApart init.args := by
    cases cls.init <;> simp
  have htransfers : (∀ args ∈ (if cls.copy.isNone && cls.move.isNone then []
      else transferLists cls .copy (cls.copy.getD {}) ++ transferLists cls .move (cls.move.getD {})),
        NamedApart args) ↔
      TransferNamedApart (cls.copy.getD {}) ∧ TransferNamedApart (cls.move.getD {}) := by
    split
    · next hnone =>
      obtain ⟨hcopy, hmove⟩ : cls.copy = none ∧ cls.move = none := by simpa using hnone
      rw [namedApart_getD_iff, namedApart_getD_iff, hcopy, hmove]
      simp
    · rw [List.forall_mem_append, forall_transferLists_iff, forall_transferLists_iff]
  rw [declaredSpecialLists, List.forall_mem_append, hinit, htransfers, namedApart_getD_iff,
    namedApart_getD_iff]
  exact ⟨fun h ↦ ⟨h.1, h.2.1, h.2.2⟩, fun h ↦ ⟨h.init, h.copy, h.move⟩⟩

theorem forall_definedSpecialLists_of_namedApart (h : SpecialsNamedApart cls) :
    ∀ args ∈ definedSpecialLists cls, NamedApart args := by
  have hblocks : ∀ kind : TransferKind, ∀ transfer : Option Transfer,
      (∀ spec, transfer = some spec → TransferNamedApart spec) →
        ∀ block ∈ (transfer.map (SpecialBlock.transfer kind)).toList, ∀ args ∈ block.parameterLists cls,
          NamedApart args := by
    intro kind transfer htransfer block hblock
    obtain ⟨spec, hspec, rfl⟩ := Option.map_eq_some_iff.mp (Option.mem_toList.mp hblock)
    exact forall_transferLists_iff.mpr (htransfer spec hspec)
  rw [definedSpecialLists, List.forall_mem_flatMap, specialBlocks]
  refine List.forall_mem_append.mpr ⟨List.forall_mem_append.mpr ⟨?_, hblocks .copy _ h.copy⟩,
    hblocks .move _ h.move⟩
  intro block hblock
  obtain ⟨init, hinit, rfl⟩ := Option.map_eq_some_iff.mp (Option.mem_toList.mp hblock)
  exact List.forall_mem_singleton.mpr (h.init init hinit)

end Classes

/-! ## Interfaces -/

section Interfaces

variable {api : Api}

/-- The lists that the interface files show. -/
def interfaceLists (api : Api) : List (List Argument) :=
  declaredLists api ++ definedLists api

theorem forall_interfaceLists_iff :
    (∀ args ∈ interfaceLists api, NamedApart args) ↔
      (∀ site ∈ api.functionSites, NamedApart site.function.args) ∧
        ∀ site ∈ api.classSites, SpecialsNamedApart site.cls := by
  simp only [interfaceLists, declaredLists, definedLists, List.forall_mem_append, List.forall_mem_map,
    List.forall_mem_flatMap, forall_declaredSpecialLists_iff]
  constructor
  · rintro ⟨hdeclared, -⟩
    exact hdeclared
  · rintro ⟨hfunctions, hclasses⟩
    exact ⟨⟨hfunctions, hclasses⟩, hfunctions, fun site hsite ↦
      forall_definedSpecialLists_of_namedApart (hclasses site hsite)⟩

end Interfaces

/-! ## Documents -/

theorem namedApart_of_mem_functionSites {api : Api}
    (h : ∀ name content, (name, content) ∈ api.namespaces.entries → ValidNamespace name content) :
    ∀ site ∈ api.functionSites, NamedApart site.function.args := by
  intro site hsite
  obtain ⟨⟨name, content⟩, hentry, hcontent⟩ := List.mem_flatMap.mp hsite
  have hvalid := h name content hentry
  rcases List.mem_append.mp hcontent with hfree | hmember
  · obtain ⟨function, hfunction, rfl⟩ := List.mem_map.mp hfree
    exact (hvalid.functions function hfunction).arguments.names
  · obtain ⟨classSite, hclass, hsites⟩ := List.mem_flatMap.mp hmember
    obtain ⟨cls, hcls, rfl⟩ := List.mem_map.mp hclass
    obtain ⟨function, hfunction, rfl⟩ := List.mem_map.mp hsites
    exact ((hvalid.classes cls hcls).functions function hfunction).arguments.names

/-- In the files of a document that validation accepts, the parameters of functions, operators and member
functions are told apart, and those of behaviours as far as they are declared. All parameters that the opcode
files show are told apart exactly if no behaviour names an argument as its dispatcher names the opcode, and all
that the interface files show are exactly if those of every constructor are, with the object that it takes
over. -/
theorem parameters_apart_iff (document : Document) (config : Config)
    (haccepted : (validate document).ok = true) :
    (∀ ops, document.opcode = some ops →
      (∀ files, opcodeFiles ops config = .ok files → ShowsLists files (behaviourLists ops)) ∧
        (∀ name behaviour, (name, behaviour) ∈ ops.behaviours.entries → NamedApart behaviour.args) ∧
          ((∀ args ∈ behaviourLists ops, NamedApart args) ↔
            ∀ name behaviour, (name, behaviour) ∈ ops.behaviours.entries →
              ∀ arg ∈ behaviour.args, arg.name ≠ "opcode")) ∧
      ∀ api, document.api = some api →
        (∀ files, (interfaceFiles api config).result = .ok files →
          ShowsLists files (interfaceLists api)) ∧
          (∀ site ∈ api.functionSites, NamedApart site.function.args) ∧
            ((∀ args ∈ interfaceLists api, NamedApart args) ↔
              ∀ site ∈ api.classSites, SpecialsNamedApart site.cls) := by
  have hvalid : Valid document := errorFree_problems_iff.mp (ok_validateFile_iff.mp haccepted)
  refine ⟨fun ops hops ↦ ?_, fun api hapi ↦ ?_⟩
  · have hbehaviours : ∀ name behaviour, (name, behaviour) ∈ ops.behaviours.entries →
        NamedApart behaviour.args := fun name behaviour hentry ↦
      ((hvalid.opcodes ops hops).arguments name behaviour hentry).names
    exact ⟨fun _ ↦ showsLists_opcodeFiles, hbehaviours, forall_behaviourLists_iff hbehaviours⟩
  · have hfunctions := namedApart_of_mem_functionSites (hvalid.namespaces api hapi)
    rw [forall_interfaceLists_iff]
    exact ⟨fun _ ↦ showsLists_interfaceFiles, hfunctions, and_iff_right hfunctions⟩

/-- An opcode that overrides a behaviour with one argument. -/
def gradedOpcodes (argument : String) : OpcodeSection where
  params := "T a, T b"
  opcodes := .ofEntries
    [("ADD", { statement := "a + b;", overrides := .ofEntries [("grad", .body "return 1;")] })]
  behaviours := .ofEntries
    [("grad", { out := "double", args := [{ name := argument, type := "double" }], fallback := "return 0;" })]

/-- A constructor with two arguments and a copy with one beside the box that is copied. -/
def boxApi (second other : String) : Api :=
  { namespaces := .ofEntries
      [("shape", .full
        [{ name := some "area", args := [{ name := "a", type := "Box" }], out := .body "return 1;" }]
        [{ name := "Box"
           init := some { args := [{ name := "a", type := "double" }, { name := second, type := "double" }] }
           copy := some { other, args := [{ name := "a", type := "double" }] } }])] }

def boxDocument (argument second other : String) : Document :=
  { opcode := some (gradedOpcodes argument), api := some (boxApi second other) }

theorem exists_opcodeFiles_graded (argument : String) :
    ∃ files, opcodeFiles (gradedOpcodes argument) {} = .ok files := by
  rw [← failure?_eq_none_iff, failure?_opcodeFiles]
  rfl

theorem parameters_apart_iff_box :
    (validate (boxDocument "seed" "b" "box")).ok = true ∧
      ((∃ files, opcodeFiles (gradedOpcodes "seed") {} = .ok files ∧
        ShowsLists files (behaviourLists (gradedOpcodes "seed"))) ∧
          ∀ args ∈ behaviourLists (gradedOpcodes "seed"), NamedApart args) ∧
        (∃ files, (interfaceFiles (boxApi "b" "box") {}).result = .ok files ∧
          ShowsLists files (interfaceLists (boxApi "b" "box"))) ∧
          ∀ site ∈ (boxApi "b" "box").classSites, SpecialsNamedApart site.cls := by
  have haccepted : (validate (boxDocument "seed" "b" "box")).ok = true := by decide +kernel
  obtain ⟨⟨hshown, -, hapart⟩, hinterface⟩ :=
    (parameters_apart_iff (boxDocument "seed" "b" "box") {} haccepted).imp_left (· _ rfl)
  obtain ⟨hshown', -, hapart'⟩ := hinterface _ rfl
  have hfree : ∀ entry ∈ (gradedOpcodes "seed").behaviours.entries, ∀ arg ∈ entry.2.args,
      arg.name ≠ "opcode" := by decide
  have hemitted : failure? (interfaceFiles (boxApi "b" "box") {}).result = none := by
    rw [failure?_interfaceFiles, ← Option.isNone_iff_eq_none]
    decide +kernel
  obtain ⟨files, hfiles⟩ := exists_opcodeFiles_graded "seed"
  obtain ⟨files', hfiles'⟩ := failure?_eq_none_iff.mp hemitted
  exact ⟨haccepted, ⟨⟨files, hfiles, hshown files hfiles⟩, hapart.mpr fun name behaviour ↦
    hfree (name, behaviour)⟩, ⟨files', hfiles', hshown' files' hfiles'⟩, hapart'.mp (by decide +kernel)⟩

/-- Validation has nothing to say about a document in which a constructor names two arguments alike, a copy
names one as the object that is copied, and a behaviour names one as its dispatcher names the opcode. All these
lists are in the files. -/
theorem repeated_parameters_shown :
    (validate (boxDocument "opcode" "a" "a")).entries = [] ∧
      (∃ files, opcodeFiles (gradedOpcodes "opcode") {} = .ok files ∧
        ShowsLists files (behaviourLists (gradedOpcodes "opcode"))) ∧
        (∃ files, (interfaceFiles (boxApi "a" "a") {}).result = .ok files ∧
          ShowsLists files (interfaceLists (boxApi "a" "a"))) ∧
          (∃ args ∈ behaviourLists (gradedOpcodes "opcode"), ¬ NamedApart args ∧
            parametersText args = "_GENERATED_OPCODE opcode, double opcode") ∧
            (∃ args ∈ interfaceLists (boxApi "a" "a"), ¬ NamedApart args ∧
              parametersText args = "double a, double a") ∧
              ∃ args ∈ interfaceLists (boxApi "a" "a"), ¬ NamedApart args ∧
                parametersText args = "const Box& a, double a" := by
  have hemitted : failure? (interfaceFiles (boxApi "a" "a") {}).result = none := by
    rw [failure?_interfaceFiles, ← Option.isNone_iff_eq_none]
    decide +kernel
  obtain ⟨files, hfiles⟩ := exists_opcodeFiles_graded "opcode"
  obtain ⟨files', hfiles'⟩ := failure?_eq_none_iff.mp hemitted
  exact ⟨by decide +kernel, ⟨files, hfiles, showsLists_opcodeFiles hfiles⟩,
    ⟨files', hfiles', showsLists_interfaceFiles hfiles'⟩, by decide +kernel, by decide +kernel,
    by decide +kernel⟩

end SourceGen.Emit
