import SourceGen.Proofs.Emit.Items

/-!
# Where declarations and definitions are placed

The interface files are made of items: structs and declarations, which belong in the header, and
definitions, which are there only for templates. A function alone, a class alone and whole namespaces are
placed alike, because the items of two parts are placed where each part's are.
-/

namespace SourceGen.Emit

open Spec Text

/-! ## Placement -/

/-- Items of the header and of the source file that belong to given functions and classes: each function is
declared once, in the header, and defined once, in the header exactly if it is in a template; each class has
one struct and one definition for each of its special blocks, in the header exactly if it is a template. -/
structure Placement (api : Api) (functions : List FunctionSite) (classes : List ClassSite)
    (header source : List Item) : Prop where
  declared : (header.flatMap Item.declares).Perm functions
  structs : (header.flatMap Item.structs).Perm classes
  source_declares : source.flatMap Item.declares = []
  source_structs : source.flatMap Item.structs = []
  defined : (header.flatMap Item.defines ++ source.flatMap Item.defines).Perm functions
  header_defines : ∀ site ∈ header.flatMap Item.defines, site.InTemplate
  source_defines : ∀ site ∈ source.flatMap Item.defines, ¬ site.InTemplate
  specials : (header.flatMap Item.specials ++ source.flatMap Item.specials).Perm
    (classes.flatMap specialSites)
  header_specials : ∀ site ∈ header.flatMap Item.specials, HasTemplate site.classSite.cls.template
  source_specials : ∀ site ∈ source.flatMap Item.specials, ¬ HasTemplate site.classSite.cls.template
  header_tests : ∀ item ∈ header, item.TestsArguments api
  source_tests : ∀ item ∈ source, item.TestsArguments api

section Placement

variable {api : Api} {functions functions' : List FunctionSite} {classes classes' : List ClassSite}
  {header header' source source' : List Item}

theorem placement_nil : Placement api [] [] [] [] := by
  constructor <;> simp

theorem perm_append_append {α : Type} {front front' back back' whole whole' : List α}
    (h : (front ++ back).Perm whole) (h' : (front' ++ back').Perm whole') :
    ((front ++ front') ++ (back ++ back')).Perm (whole ++ whole') := by
  have hswap : ((front ++ front') ++ (back ++ back')).Perm ((front ++ back) ++ (front' ++ back')) := by
    rw [List.append_assoc, List.append_assoc]
    exact (List.perm_append_comm_assoc front' back back').append_left front
  exact hswap.trans (h.append h')

theorem forall_mem_flatMap_append {α β : Type} {f : α → List β} {p : β → Prop} {front back : List α}
    (h : ∀ b ∈ front.flatMap f, p b) (h' : ∀ b ∈ back.flatMap f, p b) :
    ∀ b ∈ (front ++ back).flatMap f, p b := by
  rw [List.flatMap_append]
  exact List.forall_mem_append.mpr ⟨h, h'⟩

/-- The items of two parts are placed together where each part's are. -/
theorem Placement.append (h : Placement api functions classes header source)
    (h' : Placement api functions' classes' header' source') :
    Placement api (functions ++ functions') (classes ++ classes') (header ++ header')
      (source ++ source') where
  declared := by
    rw [List.flatMap_append]
    exact h.declared.append h'.declared
  structs := by
    rw [List.flatMap_append]
    exact h.structs.append h'.structs
  source_declares := by
    rw [List.flatMap_append, h.source_declares, h'.source_declares, List.append_nil]
  source_structs := by
    rw [List.flatMap_append, h.source_structs, h'.source_structs, List.append_nil]
  defined := by
    rw [List.flatMap_append, List.flatMap_append]
    exact perm_append_append h.defined h'.defined
  header_defines := forall_mem_flatMap_append h.header_defines h'.header_defines
  source_defines := forall_mem_flatMap_append h.source_defines h'.source_defines
  specials := by
    rw [List.flatMap_append, List.flatMap_append, List.flatMap_append]
    exact perm_append_append h.specials h'.specials
  header_specials := forall_mem_flatMap_append h.header_specials h'.header_specials
  source_specials := forall_mem_flatMap_append h.source_specials h'.source_specials
  header_tests := List.forall_mem_append.mpr ⟨h.header_tests, h'.header_tests⟩
  source_tests := List.forall_mem_append.mpr ⟨h.source_tests, h'.source_tests⟩

/-- The order of the items, and of what they belong to, does not count. -/
theorem Placement.perm (h : Placement api functions classes header source)
    (hfunctions : functions.Perm functions') (hclasses : classes.Perm classes')
    (hheader : header.Perm header') (hsource : source.Perm source') :
    Placement api functions' classes' header' source' where
  declared := (hheader.flatMap_right _).symm.trans (h.declared.trans hfunctions)
  structs := (hheader.flatMap_right _).symm.trans (h.structs.trans hclasses)
  source_declares := List.nil_perm.mp (h.source_declares ▸ hsource.flatMap_right Item.declares)
  source_structs := List.nil_perm.mp (h.source_structs ▸ hsource.flatMap_right Item.structs)
  defined := ((hheader.flatMap_right _).append (hsource.flatMap_right _)).symm.trans
    (h.defined.trans hfunctions)
  header_defines site hsite := h.header_defines site ((hheader.flatMap_right _).mem_iff.mpr hsite)
  source_defines site hsite := h.source_defines site ((hsource.flatMap_right _).mem_iff.mpr hsite)
  specials := ((hheader.flatMap_right _).append (hsource.flatMap_right _)).symm.trans
    (h.specials.trans (hclasses.flatMap_right _))
  header_specials site hsite := h.header_specials site ((hheader.flatMap_right _).mem_iff.mpr hsite)
  source_specials site hsite := h.source_specials site ((hsource.flatMap_right _).mem_iff.mpr hsite)
  header_tests item hitem := h.header_tests item (hheader.mem_iff.mpr hitem)
  source_tests item hitem := h.source_tests item (hsource.mem_iff.mpr hitem)

/-- Parts that are placed one by one are placed together. -/
theorem placement_flatMap {α : Type} {parts : List α} {functions : α → List FunctionSite}
    {classes : α → List ClassSite} {header source : α → List Item}
    (h : ∀ part ∈ parts, Placement api (functions part) (classes part) (header part) (source part)) :
    Placement api (parts.flatMap functions) (parts.flatMap classes) (parts.flatMap header)
      (parts.flatMap source) := by
  induction parts with
  | nil => exact placement_nil
  | cons part rest ih =>
    obtain ⟨hpart, hrest⟩ := List.forall_mem_cons.mp h
    exact hpart.append (ih hrest)

end Placement

/-! ## Functions -/

theorem isTemplated_iff {function : FunctionDecl} :
    isTemplated function = true ↔ HasTemplate function.template :=
  isSome_usedTemplate_iff

/-- The items of a function outside classes. -/
def functionHeaderItems (api : Api) (site : FunctionSite) : List Item :=
  .declaration site :: if isTemplated site.function then [definitionItem api site] else []

def functionSourceItems (api : Api) (site : FunctionSite) : List Item :=
  if isTemplated site.function then [] else [definitionItem api site]

theorem placement_function {api : Api} {site : FunctionSite} (h : site.owner = none) :
    Placement api [site] [] (functionHeaderItems api site) (functionSourceItems api site) := by
  have htemplate : site.InTemplate ↔ isTemplated site.function = true := by
    rw [isTemplated_iff, FunctionSite.InTemplate, h]
    simp
  have htests := testsArguments_definitionItem api site
  have hdeclaration : (Item.declaration site).TestsArguments api := trivial
  by_cases hsite : isTemplated site.function = true
  · rw [functionHeaderItems, functionSourceItems, if_pos hsite, if_pos hsite]
    constructor
    case header_tests => simp [hdeclaration, htests]
    all_goals
      simp [definitionItem, Item.declares, Item.defines, Item.structs, Item.specials, htemplate, hsite]
  · rw [functionHeaderItems, functionSourceItems, if_neg hsite, if_neg hsite]
    constructor
    case header_tests => simp [hdeclaration]
    case source_tests => simp [htests]
    all_goals
      simp [definitionItem, Item.declares, Item.defines, Item.structs, Item.specials, htemplate, hsite]

/-! ## Classes -/

/-- Items that define special blocks of a class, and nothing else. -/
structure AreSpecial (api : Api) (site : ClassSite) (blocks : List SpecialBlock)
    (items : List Item) : Prop where
  specials : items.flatMap Item.specials = blocks.map (⟨site, ·⟩)
  defines : items.flatMap Item.defines = []
  declares : items.flatMap Item.declares = []
  structs : items.flatMap Item.structs = []
  tests : ∀ item ∈ items, item.TestsArguments api

section Classes

variable {api : Api} {site : ClassSite}

theorem AreSpecial.append {blocks blocks' : List SpecialBlock} {items items' : List Item}
    (h : AreSpecial api site blocks items) (h' : AreSpecial api site blocks' items') :
    AreSpecial api site (blocks ++ blocks') (items ++ items') := by
  constructor
  case tests => exact List.forall_mem_append.mpr ⟨h.tests, h'.tests⟩
  all_goals rw [List.flatMap_append]
  case specials => rw [List.map_append, h.specials, h'.specials]
  case defines => rw [h.defines, h'.defines, List.append_nil]
  case declares => rw [h.declares, h'.declares, List.append_nil]
  case structs => rw [h.structs, h'.structs, List.append_nil]

theorem areSpecial_nil : AreSpecial api site [] [] := by
  constructor <;> simp

theorem areSpecial_singleton (block : SpecialBlock) (entries : Entries String) :
    AreSpecial api site [block] [.special ⟨site, block⟩ entries] where
  specials := rfl
  defines := rfl
  declares := rfl
  structs := rfl
  tests := List.forall_mem_singleton.mpr trivial

theorem areSpecial_constructDefinition {definitions : List MemberDefinition}
    (h : constructDefinition site.namespaceName site.cls = .ok definitions) :
    AreSpecial api site (site.cls.init.map .construct).toList (definitions.map (memberItem api site)) := by
  rw [constructDefinition] at h
  split at h
  · next hnone =>
    cases h
    rw [hnone]
    exact areSpecial_nil
  · next init hinit =>
    obtain ⟨entries, -, rfl⟩ := map_eq_ok.mp h
    rw [hinit]
    exact areSpecial_singleton (.construct init) entries

theorem areSpecial_transferDefinition {kind : TransferKind} {field : String} {spec : Option Transfer}
    {definitions : List MemberDefinition}
    (h : transferDefinition site.namespaceName site.cls kind field spec = .ok definitions) :
    AreSpecial api site (spec.map (.transfer kind)).toList (definitions.map (memberItem api site)) := by
  cases spec with
  | none =>
    cases h
    exact areSpecial_nil
  | some spec =>
    obtain ⟨entries, -, rfl⟩ := map_eq_ok.mp h
    exact areSpecial_singleton (.transfer kind spec) entries

theorem areSpecial_specialDefinitions {special : List MemberDefinition}
    (h : specialDefinitions site.namespaceName site.cls = .ok special) :
    AreSpecial api site (specialBlocks site.cls) (special.map (memberItem api site)) := by
  obtain ⟨construct, hconstruct, h⟩ := bind_eq_ok.mp h
  obtain ⟨copy, hcopy, h⟩ := bind_eq_ok.mp h
  obtain ⟨move, hmove, h⟩ := bind_eq_ok.mp h
  cases h
  rw [List.map_append, List.map_append]
  exact ((areSpecial_constructDefinition hconstruct).append
    (areSpecial_transferDefinition hcopy)).append (areSpecial_transferDefinition hmove)

/-- The items of the functions that a class defines in one of the files. -/
def functionItems (api : Api) (site : ClassSite) (functions : List FunctionDecl) : List Item :=
  functions.map fun function ↦ definitionItem api (site.member function)

@[simp] theorem defines_functionItems (functions : List FunctionDecl) :
    (functionItems api site functions).flatMap Item.defines = functions.map site.member := by
  rw [functionItems, List.flatMap_map]
  exact List.map_eq_flatMap.symm

@[simp] theorem specials_functionItems (functions : List FunctionDecl) :
    (functionItems api site functions).flatMap Item.specials = [] := by
  rw [functionItems, List.flatMap_map]
  exact List.flatMap_eq_nil_iff.mpr fun _ _ ↦ rfl

@[simp] theorem declares_functionItems (functions : List FunctionDecl) :
    (functionItems api site functions).flatMap Item.declares = [] := by
  rw [functionItems, List.flatMap_map]
  exact List.flatMap_eq_nil_iff.mpr fun _ _ ↦ rfl

@[simp] theorem structs_functionItems (functions : List FunctionDecl) :
    (functionItems api site functions).flatMap Item.structs = [] := by
  rw [functionItems, List.flatMap_map]
  exact List.flatMap_eq_nil_iff.mpr fun _ _ ↦ rfl

theorem tests_functionItems (functions : List FunctionDecl) :
    ∀ item ∈ functionItems api site functions, item.TestsArguments api :=
  List.forall_mem_map.mpr fun _ _ ↦ testsArguments_definitionItem api _

theorem inTemplate_member_iff {function : FunctionDecl} : (site.member function).InTemplate ↔
    isTemplated function = true ∨ HasTemplate site.cls.template := by
  rw [isTemplated_iff, FunctionSite.InTemplate]
  simp [ClassSite.member]

/-- The definitions of a template class are all in the header. -/
theorem placement_templateClass {special : List Item} (htemplate : HasTemplate site.cls.template)
    (hspecial : AreSpecial api site (specialBlocks site.cls) special) :
    Placement api site.functions [site]
      (structItem site :: (special ++ functionItems api site site.cls.functions)) [] := by
  constructor
  case header_tests =>
    exact List.forall_mem_cons.mpr ⟨trivial, List.forall_mem_append.mpr
      ⟨hspecial.tests, tests_functionItems _⟩⟩
  case source_tests => exact List.forall_mem_nil _
  all_goals
    simp only [List.flatMap_cons, List.flatMap_append, List.flatMap_nil, hspecial.specials,
      hspecial.defines, hspecial.declares, hspecial.structs, defines_functionItems,
      specials_functionItems, declares_functionItems, structs_functionItems, List.append_nil]
  case declared => exact declares_structItem site
  case structs => exact List.Perm.refl [site]
  case defined => exact List.Perm.refl site.functions
  case specials => exact List.Perm.refl (specialSites site)
  case source_defines | source_specials => exact List.forall_mem_nil _
  case header_defines =>
    exact List.forall_mem_map.mpr fun function _ ↦ inTemplate_member_iff.mpr (.inr htemplate)
  case header_specials => exact List.forall_mem_map.mpr fun block _ ↦ htemplate

/-- Of any other class only the definitions of its templated functions are. -/
theorem placement_plainClass {special : List Item} (htemplate : ¬ HasTemplate site.cls.template)
    (hspecial : AreSpecial api site (specialBlocks site.cls) special) :
    Placement api site.functions [site]
      (structItem site :: functionItems api site (site.cls.functions.filter isTemplated))
      (special ++
        functionItems api site (site.cls.functions.filter fun function ↦ !isTemplated function)) := by
  constructor
  case header_tests => exact List.forall_mem_cons.mpr ⟨trivial, tests_functionItems _⟩
  case source_tests => exact List.forall_mem_append.mpr ⟨hspecial.tests, tests_functionItems _⟩
  all_goals
    simp only [List.flatMap_cons, List.flatMap_append, List.flatMap_nil, hspecial.specials,
      hspecial.defines, hspecial.declares, hspecial.structs, defines_functionItems,
      specials_functionItems, declares_functionItems, structs_functionItems, List.append_nil]
  case declared => exact declares_structItem site
  case structs => exact List.Perm.refl [site]
  case defined =>
    have hfunctions := (List.filter_append_perm isTemplated site.cls.functions).map site.member
    rw [List.map_append] at hfunctions
    exact hfunctions
  case specials => exact List.Perm.refl (specialSites site)
  case header_specials => exact List.forall_mem_nil _
  case header_defines =>
    refine List.forall_mem_map.mpr fun function hfunction ↦ ?_
    exact inTemplate_member_iff.mpr (.inl (List.mem_filter.mp hfunction).2)
  case source_defines =>
    refine List.forall_mem_map.mpr fun function hfunction ↦ ?_
    have hplain := (List.mem_filter.mp hfunction).2
    rw [inTemplate_member_iff, not_or]
    exact ⟨by simpa using hplain, htemplate⟩
  case source_specials => exact List.forall_mem_map.mpr fun block _ ↦ htemplate

/-- The items of the definitions that a class unit has for one of the files. -/
def memberItems (api : Api) (site : ClassSite) (definitions : List MemberDefinition) : List Item :=
  definitions.map (memberItem api site)

theorem memberItems_functions (functions : List FunctionDecl) :
    memberItems api site (functions.map .function) = functionItems api site functions := by
  rw [memberItems, List.map_map]
  rfl

theorem memberItems_append (front back : List MemberDefinition) :
    memberItems api site (front ++ back) = memberItems api site front ++ memberItems api site back :=
  List.map_append

theorem placement_class {part : ClassUnit}
    (h : ClassUnit.ofClass site.namespaceName site.cls = .ok part) :
    Placement api site.functions [site] (structItem site :: memberItems api site part.header)
      (memberItems api site part.source) := by
  rw [ClassUnit.ofClass] at h
  obtain ⟨-, -, h⟩ := bind_eq_ok.mp h
  obtain ⟨special, hspecial, h⟩ := bind_eq_ok.mp h
  by_cases htemplate : site.cls.usedTemplate.isSome = true
  · rw [if_pos htemplate] at h
    cases h
    rw [memberItems_append, memberItems_functions]
    exact placement_templateClass (isSome_usedTemplate_iff.mp htemplate)
      (areSpecial_specialDefinitions hspecial)
  · rw [if_neg htemplate] at h
    cases h
    rw [memberItems_append, memberItems_functions, memberItems_functions]
    exact placement_plainClass (fun hclass ↦ htemplate (isSome_usedTemplate_iff.mpr hclass))
      (areSpecial_specialDefinitions hspecial)

end Classes

end SourceGen.Emit
