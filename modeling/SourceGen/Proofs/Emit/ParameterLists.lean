import SourceGen.Proofs.Emit.Behaviours
import SourceGen.Proofs.Emit.InterfacePlacement
import SourceGen.Proofs.Emit.Tables

/-!
# Parameter lists of the generated files

Every declaration and definition of the files has its parameter list in parentheses, and texts that are put
together show the lists of their parts. A function shows its list twice; so does a behaviour, and in addition
for every opcode that overrides it. A class shows those of its special blocks where it declares them and
where it defines them.
-/

namespace SourceGen.Emit

open Spec Text Template

/-! ## Shown lists -/

/-- A text shows parameter lists one behind the other, with other text around them; the lines may have been
set in afterwards. -/
inductive Shows : List (List Argument) → String → Prop where
  | plain (text : String) : Shows [] text
  | parameters (args : List Argument) : Shows [args] ("(" ++ parametersText args ++ ")")
  | bareParameters (args : List Argument) :
    Shows [args] ("(" ++ parametersText (args.map withoutDefault) ++ ")")
  | append {front back : List (List Argument)} {text text' : String} (h : Shows front text)
    (h' : Shows back text') : Shows (front ++ back) (text ++ text')
  | setIn {lists : List (List Argument)} {text : String} (h : Shows lists text) :
    Shows lists (setIn text)

/-- Texts show lists if each of them shows its part of them. -/
def ShowsEach (lists : List (List Argument)) (texts : List String) : Prop :=
  ∃ parts, List.Forall₂ Shows parts texts ∧ parts.flatten = lists

section Shows

variable {lists front back : List (List Argument)} {text : String} {texts texts' : List String}

theorem Shows.prepend (h : Shows lists text) (before : String) : Shows lists (before ++ text) :=
  (Shows.plain before).append h

theorem Shows.extend (h : Shows lists text) (after : String) : Shows lists (text ++ after) := by
  have happend := h.append (.plain after)
  rwa [List.append_nil] at happend

theorem Shows.of_within {part : String} (h : Shows lists part) (hpart : Within part text) :
    Shows lists text := by
  obtain ⟨before, after, hwhole⟩ := hpart
  have htext : text = String.ofList before ++ part ++ String.ofList after := by
    rw [← String.toList_inj, ← hwhole]
    simp
  exact htext ▸ (h.prepend _).extend _

/-- A signature shows its list behind what it begins with. -/
theorem Shows.signature {signature : Signature}
    (h : Shows lists ("(" ++ parametersText signature.params ++ ")")) : Shows lists signature.text := by
  have hopening : " (" = " " ++ "(" := rfl
  have hfront := h.prepend (templateLines signature.templates ++ signature.front ++ " ")
  rw [Signature.text, hopening]
  simpa only [String.append_assoc] using hfront

theorem shows_declaration (routine : Routine) : Shows [routine.params] routine.declaration.text :=
  (Shows.parameters routine.params).signature

theorem shows_definition (routine : Routine) : Shows [routine.params] routine.definition.text :=
  (Shows.bareParameters routine.params).signature

theorem showsEach_nil : ShowsEach [] [] :=
  ⟨[], .nil, rfl⟩

theorem showsEach_singleton (h : Shows lists text) : ShowsEach lists [text] :=
  ⟨[lists], .cons h .nil, by rw [List.flatten_singleton]⟩

theorem ShowsEach.append (h : ShowsEach front texts) (h' : ShowsEach back texts') :
    ShowsEach (front ++ back) (texts ++ texts') := by
  obtain ⟨parts, hparts, rfl⟩ := h
  obtain ⟨parts', hparts', rfl⟩ := h'
  exact ⟨parts ++ parts', List.rel_append hparts hparts', List.flatten_append⟩

theorem showsEach_map {α : Type} {items : List α} {listsOf : α → List (List Argument)}
    {textOf : α → String} (h : ∀ item ∈ items, Shows (listsOf item) (textOf item)) :
    ShowsEach (items.flatMap listsOf) (items.map textOf) :=
  ⟨items.map listsOf, List.forall₂_map_left_iff.mpr (List.forall₂_map_right_iff.mpr
    (List.forall₂_same.mpr h)), List.flatMap_def.symm⟩

theorem ShowsEach.join (h : ShowsEach lists texts) (separator : String) :
    Shows lists (join separator texts) := by
  obtain ⟨parts, hparts, rfl⟩ := h
  induction hparts with
  | nil => exact .plain _
  | @cons part text parts texts hpart hrest ih =>
    cases hrest with
    | nil => simpa using hpart
    | @cons part' text' parts texts hpart' hrest =>
      rw [join_cons_cons, List.flatten_cons]
      exact hpart.append (ih.prepend separator)

theorem ShowsEach.underLabel (h : ShowsEach lists texts) (label separator : String) :
    ShowsEach lists (underLabel label separator texts) := by
  rw [Emit.underLabel]
  split
  · next hnil => rwa [hnil] at h
  · exact showsEach_singleton (((h.join separator).prepend "\n").prepend label)

theorem ShowsEach.setIn (h : ShowsEach lists texts) : ShowsEach lists (texts.map setIn) := by
  obtain ⟨parts, hparts, hlists⟩ := h
  exact ⟨parts, List.forall₂_map_right_iff.mpr (hparts.imp fun _ _ ↦ Shows.setIn), hlists⟩

theorem showsEach_plain (texts : List String) : ShowsEach [] texts := by
  have hplain : ShowsEach (texts.flatMap fun _ ↦ []) (texts.map id) := showsEach_map fun text _ ↦ .plain text
  rwa [List.map_id, List.flatMap_eq_nil_iff.mpr fun _ _ ↦ rfl] at hplain

theorem Shows.enclosed (h : Shows lists text) (segments : List String) :
    Shows lists (enclosed segments text) := by
  induction segments with
  | nil => exact h
  | cons segment rest ih => exact (ih.prepend ("namespace " ++ segment ++ "\n\x7b\n\n")).extend "\n\n\x7d"

end Shows

/-! ## Special blocks -/

/-- The lists of a copy or move: that of the constructor and that of the assignment. -/
def transferLists (cls : ClassDecl) (kind : TransferKind) (spec : Transfer) : List (List Argument) :=
  [takenParameter cls spec.other kind :: spec.args, [takenParameter cls spec.other kind]]

def SpecialBlock.parameterLists (cls : ClassDecl) : SpecialBlock → List (List Argument)
  | .construct init => [init.args]
  | .transfer kind spec => transferLists cls kind spec

/-- The lists in the declaration of a class that are not those of its functions. A copy alone comes with the
usual move and a move with the usual copy. -/
def declaredSpecialLists (cls : ClassDecl) : List (List Argument) :=
  (cls.init.map (·.args)).toList ++
    if cls.copy.isNone && cls.move.isNone then []
    else transferLists cls .copy (cls.copy.getD {}) ++ transferLists cls .move (cls.move.getD {})

def definedSpecialLists (cls : ClassDecl) : List (List Argument) :=
  (specialBlocks cls).flatMap (·.parameterLists cls)

theorem shows_takingDeclaration (cls : ClassDecl) (kind : TransferKind) (spec : Option Transfer) :
    Shows (transferLists cls kind (spec.getD {})) (takingDeclaration cls kind spec) := by
  have hconstructor := (shows_declaration (takingRoutine cls kind (spec.getD {}))).extend (takingEnding spec)
  have hassignment := ((shows_declaration (assignmentRoutine cls
    (takenParameter cls (spec.getD {}).other kind))).extend (takingEnding spec)).prepend "\n"
  exact hconstructor.append hassignment

theorem shows_specialText (cls : ClassDecl) (entries : Entries String) (block : SpecialBlock) :
    Shows (block.parameterLists cls) (block.text cls entries) := by
  cases block with
  | construct init =>
    have hconstructor := shows_definition (constructorRoutine cls init.args)
    exact (hconstructor.extend (clauseText entries)).extend (braces (bodyText init.body))
  | transfer kind spec =>
    have hconstructor := (shows_definition (takingRoutine cls kind spec)).extend (clauseText entries)
    have hassignment := ((shows_definition (assignmentRoutine cls
      (takenParameter cls spec.other kind))).extend
        (braces (bodyText spec.body ++ "\n    return *this;"))).prepend (braces (bodyText spec.body) ++ "\n\n")
    exact hconstructor.append hassignment

/-! ## Structs -/

theorem shows_declarationText (api : Api) (site : FunctionSite) :
    Shows [site.function.args] (declarationText api site) :=
  (((shows_declaration (functionRoutine api site)).extend ";").prepend "\n").prepend _

theorem showsEach_constructorDeclarations (cls : ClassDecl) :
    ShowsEach (cls.init.map (·.args)).toList (constructorDeclarations cls) := by
  rw [constructorDeclarations]
  cases cls.init with
  | none => exact showsEach_nil
  | some init => exact showsEach_singleton ((shows_declaration (constructorRoutine cls init.args)).extend ";")

theorem showsEach_takingDeclarations (cls : ClassDecl) :
    ShowsEach (if cls.copy.isNone && cls.move.isNone then []
      else transferLists cls .copy (cls.copy.getD {}) ++ transferLists cls .move (cls.move.getD {}))
      (takingDeclarations cls) := by
  rw [takingDeclarations]
  split
  · exact showsEach_nil
  · exact (showsEach_singleton (shows_takingDeclaration cls .copy cls.copy)).append
      (showsEach_singleton (shows_takingDeclaration cls .move cls.move))

theorem showsEach_functionSections (api : Api) (site : ClassSite) (publics privates : List FunctionDecl) :
    ShowsEach ((publics ++ privates).map (·.args)) (functionSections api site publics privates) := by
  have hdeclared : ∀ functions : List FunctionDecl, ShowsEach (functions.map (·.args))
      (functions.map fun function ↦ declarationText api (site.member function)) := by
    intro functions
    rw [List.map_eq_flatMap]
    exact showsEach_map fun function _ ↦ shows_declarationText api (site.member function)
  rw [List.map_append]
  exact ((hdeclared publics).underLabel "public:" "\n\n").append
    ((hdeclared privates).underLabel "private:" "\n\n")

theorem shows_structText (api : Api) (site : ClassSite) (publics privates : List FunctionDecl) :
    Shows (declaredSpecialLists site.cls ++ (publics ++ privates).map (·.args))
      (structText api site publics privates) := by
  have hspecials : ShowsEach (declaredSpecialLists site.cls)
      (constructorDeclarations site.cls ++ takingDeclarations site.cls) :=
    (showsEach_constructorDeclarations site.cls).append (showsEach_takingDeclarations site.cls)
  have hfunctions := hspecials.append (showsEach_functionSections api site publics privates)
  -- Members are declared without parameters.
  have hparts := hfunctions.append (showsEach_plain (memberSections site.cls))
  rw [List.append_nil] at hparts
  exact ((hparts.setIn.join "\n\n").prepend _).extend "\n\x7d;"

/-! ## Items -/

/-- The lists of the parts of the interface files, in the order in which the parts show them. -/
def Item.parameterLists : Item → List (List Argument)
  | .struct site publics privates => declaredSpecialLists site.cls ++ (publics ++ privates).map (·.args)
  | .declaration site => [site.function.args]
  | .definition site _ => [site.function.args]
  | .special site _ => site.block.parameterLists site.classSite.cls

theorem shows_text (api : Api) (config : Config) (item : Item) :
    Shows item.parameterLists (item.text api config) := by
  cases item with
  | struct site publics privates => exact shows_structText api site publics privates
  | declaration site => exact shows_declarationText api site
  | definition site tested => exact (shows_definition (functionRoutine api site)).extend _
  | special site entries => exact shows_specialText site.classSite.cls entries site.block

/-! ## The interface files -/

/-- The contents of files show the given lists, each of them as often as it is given. -/
def ShowsLists (files : Entries SourceFile) (lists : List (List Argument)) : Prop :=
  ∃ shown, ShowsEach shown (files.map (·.2.content)) ∧ shown.Perm lists

section Layout

theorem shows_itemTexts (api : Api) (config : Config) (items : List Item) :
    Shows (items.flatMap Item.parameterLists) (Layout.itemTexts api config items) :=
  (showsEach_map fun item _ ↦ shows_text api config item).join "\n\n"

theorem shows_blockTexts (api : Api) (config : Config) (blocks : List Block) :
    Shows ((blocks.flatMap (·.items)).flatMap Item.parameterLists) (Layout.blockTexts api config blocks) := by
  rw [List.flatMap_assoc]
  refine (showsEach_map fun block _ ↦ ?_).join "\n\n"
  exact (shows_itemTexts api config block.items).enclosed (namespaceSegments block.namespaceName)

theorem Layout.shows_headerText (layout : Layout) (api : Api) (config : Config) :
    Shows (layout.header.flatMap Item.parameterLists) (layout.headerText api config) := by
  have hdeclarations := (shows_blockTexts api config layout.declarations).extend "\n\n"
  have htemplates := (shows_blockTexts api config layout.templates).extend "\n\n"
  have hoperators := shows_itemTexts api config layout.headerOperators
  have hall := (((hdeclarations.append htemplates).append hoperators).prepend
    ("#ifndef " ++ config.guard interfaceHeader ++ "\n#define " ++ config.guard interfaceHeader ++
      "\n\n")).extend ("\n\n#endif // " ++ config.guard interfaceHeader ++ "\n")
  rw [header, List.flatMap_append, List.flatMap_append]
  unfold headerText
  simpa only [String.append_assoc] using hall

theorem Layout.shows_sourceText (layout : Layout) (api : Api) (config : Config) :
    Shows (layout.source.flatMap Item.parameterLists) (layout.sourceText api config) := by
  have hdefinitions := (shows_blockTexts api config layout.definitions).extend "\n\n"
  have hoperators := shows_itemTexts api config layout.sourceOperators
  have hall := ((hdefinitions.append hoperators).prepend
    ("#ifdef " ++ config.guard interfaceHeader ++ "\n\n")).extend "\n\n#endif\n"
  rw [source, List.flatMap_append]
  unfold sourceText
  simpa only [String.append_assoc] using hall

/-- What an item shows is what it declares and defines. -/
theorem Item.parameterLists_perm (item : Item) : item.parameterLists.Perm
    (item.declares.map (·.function.args) ++ item.structs.flatMap (declaredSpecialLists ·.cls) ++
      (item.defines.map (·.function.args) ++
        item.specials.flatMap fun site ↦ site.block.parameterLists site.classSite.cls)) := by
  cases item with
  | struct site publics privates =>
    have hfunctions : (publics ++ privates).map (·.args) =
        ((publics ++ privates).map site.member).map (·.function.args) := by
      rw [List.map_map]
      rfl
    simp only [parameterLists, declares, structs, defines, specials, hfunctions, List.flatMap_singleton,
      List.flatMap_nil, List.map_nil, List.append_nil]
    exact List.perm_append_comm
  | declaration site => exact .refl _
  | definition site tested => exact .refl _
  | special site entries => simp [parameterLists, declares, structs, defines, specials]

theorem flatMap_parameterLists_perm (items : List Item) :
    (items.flatMap Item.parameterLists).Perm
      ((items.flatMap Item.declares).map (·.function.args) ++
        (items.flatMap Item.structs).flatMap (declaredSpecialLists ·.cls) ++
          ((items.flatMap Item.defines).map (·.function.args) ++
            (items.flatMap Item.specials).flatMap fun site ↦
              site.block.parameterLists site.classSite.cls)) := by
  induction items with
  | nil => exact .refl []
  | cons item rest ih =>
    refine List.perm_iff_count.mpr fun args ↦ ?_
    have hitem := item.parameterLists_perm.count_eq args
    have ih := ih.count_eq args
    simp only [List.flatMap_cons, List.map_append, List.flatMap_append, List.count_append] at hitem ih ⊢
    omega

/-- The lists in the declarations of an interface: of every function, and of every class those of what it says
about its construction, copy and move. -/
def declaredLists (api : Api) : List (List Argument) :=
  api.functionSites.map (·.function.args) ++ api.classSites.flatMap (declaredSpecialLists ·.cls)

def definedLists (api : Api) : List (List Argument) :=
  api.functionSites.map (·.function.args) ++ api.classSites.flatMap (definedSpecialLists ·.cls)

theorem flatMap_specialSites (sites : List ClassSite) :
    (sites.flatMap specialSites).flatMap (fun site ↦ site.block.parameterLists site.classSite.cls) =
      sites.flatMap (definedSpecialLists ·.cls) := by
  rw [List.flatMap_assoc]
  refine List.flatMap_congr fun site _ ↦ ?_
  rw [specialSites, List.flatMap_map, definedSpecialLists]

/-- Placed items show each list where its function or class is declared and where it is defined. -/
theorem Placement.parameterLists_perm {api : Api} {functions : List FunctionSite}
    {classes : List ClassSite} {header source : List Item}
    (h : Placement api functions classes header source) :
    (header.flatMap Item.parameterLists ++ source.flatMap Item.parameterLists).Perm
      (functions.map (·.function.args) ++ classes.flatMap (declaredSpecialLists ·.cls) ++
        (functions.map (·.function.args) ++ classes.flatMap (definedSpecialLists ·.cls))) := by
  -- The four kinds of lists are interleaved over both files, so a list is counted instead of moved.
  refine List.perm_iff_count.mpr fun args ↦ ?_
  have hheader := (flatMap_parameterLists_perm header).count_eq args
  have hsource := (flatMap_parameterLists_perm source).count_eq args
  rw [h.source_declares, h.source_structs] at hsource
  have hdeclared := (h.declared.map (·.function.args)).count_eq args
  have hstructs := (h.structs.flatMap_right (declaredSpecialLists ·.cls)).count_eq args
  have hdefined := (h.defined.map (·.function.args)).count_eq args
  have hspecials := (h.specials.flatMap_right fun site ↦
    site.block.parameterLists site.classSite.cls).count_eq args
  rw [flatMap_specialSites] at hspecials
  simp only [List.count_append, List.map_append, List.flatMap_append, List.map_nil, List.flatMap_nil,
    List.count_nil] at *
  omega

theorem showsLists_interfaceFiles {api : Api} {config : Config} {files : Entries SourceFile}
    (h : (interfaceFiles api config).result = .ok files) :
    ShowsLists files (declaredLists api ++ definedLists api) := by
  obtain ⟨unit, rfl, hplaced⟩ := exists_layout h
  have hshown := (showsEach_singleton ((unit.layout api).shows_headerText api config)).append
    (showsEach_singleton ((unit.layout api).shows_sourceText api config))
  exact ⟨_, hshown, hplaced.parameterLists_perm⟩

end Layout

/-! ## The opcode files -/

section Opcodes

variable {ops : OpcodeSection} {config : Config}

/-- The opcodes that override a behaviour. -/
def overriders (ops : OpcodeSection) (behaviour : String) : List String :=
  (ops.opcodes.entries.filter (·.2.overrides.contains behaviour)).map Prod.fst

/-- The lists of what a behaviour has for the opcodes that override it, and of its dispatcher. -/
def dispatchedLists (ops : OpcodeSection) (entry : String × Behaviour) : List (List Argument) :=
  (overriders ops entry.1).map (fun _ ↦ entry.2.args) ++ [opcodeArgument :: entry.2.args]

/-- The lists of the declared behaviours. What is overridden is declared in general as well, with the body of
the opcodes that do not override it. -/
def declaredBehaviourLists (ops : OpcodeSection) : List (List Argument) :=
  ops.behaviours.entries.flatMap fun entry ↦ entry.2.args :: dispatchedLists ops entry

def definedBehaviourLists (ops : OpcodeSection) : List (List Argument) :=
  ops.behaviours.entries.flatMap (dispatchedLists ops)

theorem isSome_of_overrideBody_eq_ok {name behaviour : String} {opcode : Opcode} {body : Option String}
    (h : overrideBody ops name opcode behaviour = .ok body) :
    body.isSome = opcode.overrides.contains behaviour := by
  rw [overrideBody] at h
  rw [OrderedMap.contains]
  split at h
  · next hnone =>
    cases h
    rw [hnone]
    rfl
  · next hbody =>
    cases h
    rw [hbody]
    rfl
  · next hsame =>
    obtain ⟨text, -, rfl⟩ := map_eq_ok.mp h
    rw [hsame]
    rfl

theorem map_opcode_specializationsOf {behaviour : String} {opcodes : Entries Opcode}
    {specializations : List Specialization}
    (h : specializationsOf ops behaviour opcodes = .ok specializations) :
    specializations.map (·.opcode) = (opcodes.filter (·.2.overrides.contains behaviour)).map Prod.fst := by
  induction opcodes generalizing specializations with
  | nil =>
    cases h
    rfl
  | cons entry rest ih =>
    obtain ⟨name, opcode⟩ := entry
    rw [specializationsOf] at h
    obtain ⟨body, hbody, h⟩ := bind_eq_ok.mp h
    obtain ⟨more, hmore, h⟩ := bind_eq_ok.mp h
    cases h
    rw [List.map_append, ih hmore, List.filter_cons, ← isSome_of_overrideBody_eq_ok hbody]
    cases body <;> rfl

theorem forall₂_of_behaviourUnits_eq_ok {behaviours : Entries Behaviour} {units : List BehaviourUnit}
    (h : behaviourUnits ops behaviours = .ok units) :
    List.Forall₂ (fun entry unit ↦ unit.behaviour = entry.2 ∧
      unit.specializations.map (·.opcode) = overriders ops entry.1) behaviours units := by
  rw [← map_behaviourUnits h, List.forall₂_map_left_iff, List.forall₂_same]
  intro unit hunit
  exact ⟨rfl, map_opcode_specializationsOf (specializationsOf_of_behaviourUnits h unit hunit)⟩

section Behaviours

variable (name : String) (behaviour : Behaviour)

theorem shows_generalText : Shows [behaviour.args] (generalText name behaviour) := by
  have hsignature : Shows [behaviour.args] (generalSignature name behaviour).text :=
    (Shows.bareParameters behaviour.args).signature
  have hdefinition := hsignature.extend (braces (bodyText behaviour.fallback))
  rw [generalText]
  split
  · exact hdefinition
  · exact hdefinition.prepend _

theorem shows_specializedSignature (opcode : String) :
    Shows [behaviour.args] (specializedSignature name behaviour opcode).text :=
  (Shows.bareParameters behaviour.args).signature

theorem showsEach_specializations (specializations : List Specialization) (textOf : Specialization → String)
    (h : ∀ spec, Shows [behaviour.args] (textOf spec)) :
    ShowsEach ((specializations.map (·.opcode)).map fun _ ↦ behaviour.args)
      (specializations.map textOf) := by
  rw [List.map_map, List.map_eq_flatMap]
  exact showsEach_map fun spec _ ↦ h spec

end Behaviours

namespace BehaviourUnit

theorem shows_declarations {unit : BehaviourUnit} {entry : String × Behaviour}
    (hbehaviour : unit.behaviour = entry.2)
    (hopcodes : unit.specializations.map (·.opcode) = overriders ops entry.1) :
    Shows (entry.2.args :: dispatchedLists ops entry) (join "\n\n" unit.declarations) := by
  have hspecializations := showsEach_specializations unit.behaviour unit.specializations _ fun spec ↦
    (shows_specializedSignature unit.name unit.behaviour spec.opcode).extend ";"
  have hdispatcher := (shows_declaration (dispatcherRoutine unit.name unit.behaviour)).extend ";"
  rw [declarations_eq, dispatchedLists, ← hopcodes, ← hbehaviour]
  exact (((showsEach_singleton (shows_generalText unit.name unit.behaviour)).append hspecializations).append
    (showsEach_singleton hdispatcher)).join "\n\n"

theorem shows_definitions {unit : BehaviourUnit} {entry : String × Behaviour}
    (hbehaviour : unit.behaviour = entry.2)
    (hopcodes : unit.specializations.map (·.opcode) = overriders ops entry.1) (opcodes : List String)
    (fatal : String) :
    Shows (dispatchedLists ops entry) (join "\n\n" (unit.definitions opcodes fatal)) := by
  have hspecializations := showsEach_specializations unit.behaviour unit.specializations _ fun spec ↦
    (shows_specializedSignature unit.name unit.behaviour spec.opcode).extend (braces (bodyText spec.body))
  have hdispatcher := shows_definition (dispatcherRoutine unit.name unit.behaviour)
  rw [definitions_eq, dispatchedLists, ← hopcodes, ← hbehaviour]
  exact (hspecializations.append (showsEach_singleton (hdispatcher.extend _))).join "\n\n"

end BehaviourUnit

theorem OpcodeUnit.shows_header {unit : OpcodeUnit} {header : String}
    (hunit : behaviourUnits unit.source unit.source.behaviours.entries = .ok unit.behaviours)
    (hfill : fill opcodeHeaderLines (unit.headerValues config) = .ok header) :
    Shows (declaredBehaviourLists unit.source) header := by
  have hdeclarations : Within (join "\n\n" (unit.behaviours.map fun behaviour ↦
      join "\n\n" behaviour.declarations)) header := by
    rw [← join_singleton "\n" (join _ _)]
    exact unit.within_header hfill 46 1 (by decide) (by decide) (.cons (.slot_alone "per_op_decls" rfl) .nil)
  refine Shows.of_within (ShowsEach.join ?_ "\n\n") hdeclarations
  refine ⟨_, ?_, List.flatMap_def.symm⟩
  rw [List.forall₂_map_left_iff, List.forall₂_map_right_iff]
  exact (forall₂_of_behaviourUnits_eq_ok hunit).imp fun entry behaviour h ↦
    BehaviourUnit.shows_declarations h.1 h.2

theorem OpcodeUnit.shows_source {unit : OpcodeUnit} {source : String}
    (hunit : behaviourUnits unit.source unit.source.behaviours.entries = .ok unit.behaviours)
    (hfill : fill opcodeSourceLines (unit.sourceValues config) = .ok source) :
    Shows (definedBehaviourLists unit.source) source := by
  have hdefinitions : Within (join "\n\n" (unit.behaviours.map fun behaviour ↦
      join "\n\n" (behaviour.definitions unit.source.opcodes.keys config.fatal))) source := by
    rw [← join_singleton "\n" (join _ _)]
    exact unit.within_source hfill 64 1 (by decide) (by decide) (.cons (.slot_alone "per_op_defns" rfl) .nil)
  refine Shows.of_within (ShowsEach.join ?_ "\n\n") hdefinitions
  refine ⟨_, ?_, List.flatMap_def.symm⟩
  rw [List.forall₂_map_left_iff, List.forall₂_map_right_iff]
  exact (forall₂_of_behaviourUnits_eq_ok hunit).imp fun entry behaviour h ↦
    BehaviourUnit.shows_definitions h.1 h.2 _ _

theorem showsLists_opcodeFiles {files : Entries SourceFile} (h : opcodeFiles ops config = .ok files) :
    ShowsLists files (declaredBehaviourLists ops ++ definedBehaviourLists ops) := by
  rw [opcodeFiles] at h
  obtain ⟨unit, hunit, hfiles⟩ := bind_eq_ok.mp h
  obtain ⟨rfl, hbehaviours⟩ := OpcodeUnit.ofSection_eq_ok hunit
  rw [OpcodeUnit.files] at hfiles
  obtain ⟨header, hheader, hfiles⟩ := bind_eq_ok.mp hfiles
  obtain ⟨source, hsource, hfiles⟩ := bind_eq_ok.mp hfiles
  cases hfiles
  have hshown := (showsEach_singleton (unit.shows_header hbehaviours hheader)).append
    (showsEach_singleton (unit.shows_source hbehaviours hsource))
  exact ⟨_, hshown, .refl _⟩

end Opcodes

end SourceGen.Emit
