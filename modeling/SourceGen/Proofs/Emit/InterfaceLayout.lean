import SourceGen.Proofs.Emit.Interface
import SourceGen.Proofs.Emit.Placement

/-!
# Layout of the interface files

The items of a namespace stand inside its blocks, those of its operators behind all namespaces. Both files
are written down from their items, so what the items declare and define is what the files do.
-/

namespace SourceGen.Emit

open Spec Text Template

variable {api : Api} {config : Config}

/-! ## Blocks -/

/-- Items inside the blocks of a namespace. -/
structure Block where
  namespaceName : String
  items : List Item
deriving DecidableEq

/-- A text inside the blocks of nested namespaces, the outermost first. -/
def enclosed : List String → String → String
  | [], body => body
  | segment :: rest, body => "namespace " ++ segment ++ "\n\x7b\n\n" ++ enclosed rest body ++ "\n\n\x7d"

theorem wrapNamespace_eq (name body : String) :
    wrapNamespace name body = enclosed (namespaceSegments name) body := by
  rw [wrapNamespace]
  induction namespaceSegments name with
  | nil => rfl
  | cons segment rest ih => rw [List.foldr_cons, ih, wrapSegment, enclosed]

def Block.text (api : Api) (config : Config) (block : Block) : String :=
  enclosed (namespaceSegments block.namespaceName) (join "\n\n" (block.items.map (·.text api config)))

/-- A namespace without items has no block. -/
def blocksOf (name : String) (items : List Item) : List Block :=
  if items = [] then [] else [⟨name, items⟩]

theorem flatMap_items_blocksOf (name : String) (items : List Item) :
    (blocksOf name items).flatMap Block.items = items := by
  rw [blocksOf]
  split
  · next hnil => rw [hnil, List.flatMap_nil]
  · rw [List.flatMap_singleton]

theorem mem_blocksOf {name : String} {items : List Item} {block : Block}
    (h : block ∈ blocksOf name items) : block = ⟨name, items⟩ := by
  rw [blocksOf] at h
  split at h
  · cases h
  · exact List.mem_singleton.mp h

theorem NamespaceUnit.wrap_map_text (unit : NamespaceUnit) (items : List Item) :
    unit.wrap (items.map (·.text api config)) = (blocksOf unit.name items).map (·.text api config) := by
  cases items with
  | nil => rfl
  | cons first rest => exact congrArg (fun text ↦ [text]) (wrapNamespace_eq _ _)

theorem map_filter_eq_flatMap {α β : Type} (p : α → Bool) (f : α → β) (xs : List α) :
    (xs.filter p).map f = xs.flatMap fun x ↦ if p x then [f x] else [] := by
  induction xs with
  | nil => rfl
  | cons x rest ih =>
    rw [List.flatMap_cons, ← ih]
    cases hx : p x with
    | true => rw [List.filter_cons_of_pos hx, List.map_cons, if_pos rfl, List.singleton_append]
    | false => rw [List.filter_cons_of_neg (by simp [hx]), if_neg (by decide), List.nil_append]

/-! ## Layout -/

/-- The interface files as items, each in its place. -/
structure Layout where
  declarations : List Block
  templates : List Block
  headerOperators : List Item
  definitions : List Block
  sourceOperators : List Item

namespace Layout

def header (layout : Layout) : List Item :=
  layout.declarations.flatMap (·.items) ++ layout.templates.flatMap (·.items) ++ layout.headerOperators

def source (layout : Layout) : List Item :=
  layout.definitions.flatMap (·.items) ++ layout.sourceOperators

/-- What stands inside the blocks of a namespace belongs to it. -/
def Scoped (layout : Layout) : Prop :=
  ∀ block ∈ layout.declarations ++ layout.templates ++ layout.definitions, ∀ item ∈ block.items,
    item.namespaceName = block.namespaceName

def blockTexts (api : Api) (config : Config) (blocks : List Block) : String :=
  join "\n\n" (blocks.map (·.text api config))

def itemTexts (api : Api) (config : Config) (items : List Item) : String :=
  join "\n\n" (items.map (·.text api config))

def headerText (layout : Layout) (api : Api) (config : Config) : String :=
  "#ifndef " ++ config.guard interfaceHeader ++ "\n#define " ++ config.guard interfaceHeader ++ "\n\n" ++
    blockTexts api config layout.declarations ++ "\n\n" ++ blockTexts api config layout.templates ++
    "\n\n" ++ itemTexts api config layout.headerOperators ++ "\n\n#endif // " ++
    config.guard interfaceHeader ++ "\n"

def sourceText (layout : Layout) (api : Api) (config : Config) : String :=
  "#ifdef " ++ config.guard interfaceHeader ++ "\n\n" ++ blockTexts api config layout.definitions ++
    "\n\n" ++ itemTexts api config layout.sourceOperators ++ "\n\n#endif\n"

def files (layout : Layout) (api : Api) (config : Config) : Entries SourceFile :=
  [(interfaceHeader, { content := layout.headerText api config, includes := api.includes }),
    (interfaceSource, { content := layout.sourceText api config, references := [interfaceHeader] })]

end Layout

/-! ## Items of a namespace -/

namespace NamespaceUnit

def freeSite (unit : NamespaceUnit) (function : FunctionDecl) : FunctionSite :=
  ⟨unit.name, none, function⟩

def classSite (unit : NamespaceUnit) (part : ClassUnit) : ClassSite :=
  ⟨unit.name, part.cls⟩

def declarationItems (unit : NamespaceUnit) : List Item :=
  unit.classes.map (fun part ↦ structItem (unit.classSite part)) ++
    unit.named.map fun function ↦ .declaration (unit.freeSite function)

def headerItems (unit : NamespaceUnit) (api : Api) : List Item :=
  unit.classes.flatMap (fun part ↦ memberItems api (unit.classSite part) part.header) ++
    (unit.named.filter isTemplated).map fun function ↦ definitionItem api (unit.freeSite function)

def sourceItems (unit : NamespaceUnit) (api : Api) : List Item :=
  unit.classes.flatMap (fun part ↦ memberItems api (unit.classSite part) part.source) ++
    (unit.named.filter fun function ↦ !isTemplated function).map fun function ↦
      definitionItem api (unit.freeSite function)

def headerOperatorItems (unit : NamespaceUnit) (api : Api) : List Item :=
  unit.operators.flatMap fun function ↦ functionHeaderItems api (unit.freeSite function)

def sourceOperatorItems (unit : NamespaceUnit) (api : Api) : List Item :=
  unit.operators.flatMap fun function ↦ functionSourceItems api (unit.freeSite function)

/-- The items of a namespace in the header. -/
def allHeaderItems (unit : NamespaceUnit) (api : Api) : List Item :=
  unit.declarationItems ++ unit.headerItems api ++ unit.headerOperatorItems api

def allSourceItems (unit : NamespaceUnit) (api : Api) : List Item :=
  unit.sourceItems api ++ unit.sourceOperatorItems api

theorem namespaceName_of_mem_declarationItems (unit : NamespaceUnit) :
    ∀ item ∈ unit.declarationItems, item.namespaceName = unit.name := by
  rw [declarationItems, List.forall_mem_append, List.forall_mem_map, List.forall_mem_map]
  exact ⟨fun _ _ ↦ rfl, fun _ _ ↦ rfl⟩

/-- Definitions of member functions and of functions alone belong to their namespace. -/
theorem namespaceName_of_mem_definitionItems {unit : NamespaceUnit}
    (definitions : ClassUnit → List MemberDefinition) (functions : List FunctionDecl) :
    ∀ item ∈ unit.classes.flatMap (fun part ↦ memberItems api (unit.classSite part) (definitions part)) ++
      functions.map (fun function ↦ definitionItem api (unit.freeSite function)),
        item.namespaceName = unit.name := by
  rw [List.forall_mem_append, List.forall_mem_map]
  refine ⟨fun item hitem ↦ ?_, fun _ _ ↦ rfl⟩
  obtain ⟨part, -, hpart⟩ := List.mem_flatMap.mp hitem
  obtain ⟨definition, -, rfl⟩ := List.mem_map.mp hpart
  cases definition <;> rfl

/-! ## Texts of a namespace -/

theorem map_text_memberItems (site : ClassSite) (definitions : List MemberDefinition) :
    (memberItems api site definitions).map (·.text api config) =
      definitions.map (·.text site.cls api config) := by
  rw [memberItems, List.map_map]
  exact List.map_congr_left fun definition _ ↦ text_memberItem api config site definition

theorem text_declaration (api : Api) (config : Config) (unit : NamespaceUnit) (function : FunctionDecl) :
    (Item.declaration (unit.freeSite function)).text api config = functionDeclaration function api :=
  (functionDeclaration_eq_text api (unit.freeSite function)).symm

theorem text_definition (api : Api) (config : Config) (unit : NamespaceUnit) (function : FunctionDecl) :
    (definitionItem api (unit.freeSite function)).text api config =
      functionDefinition function api config none :=
  text_definitionItem api config (unit.freeSite function)

theorem map_text_declarationItems (unit : NamespaceUnit) (functions : List FunctionDecl) :
    (functions.map fun function ↦ Item.declaration (unit.freeSite function)).map (·.text api config) =
      functions.map (functionDeclaration · api) := by
  rw [List.map_map]
  exact List.map_congr_left fun function _ ↦ unit.text_declaration api config function

theorem map_text_definitionItems (unit : NamespaceUnit) (functions : List FunctionDecl) :
    (functions.map fun function ↦ definitionItem api (unit.freeSite function)).map (·.text api config) =
      functions.map (functionDefinition · api config none) := by
  rw [List.map_map]
  exact List.map_congr_left fun function _ ↦ unit.text_definition api config function

theorem declarations_eq_ok (unit : NamespaceUnit) :
    unit.declarations api = .ok (unit.declarationItems.map (·.text api config)) := by
  have hclasses : unit.classes.mapM (fun part ↦ classDeclaration part.cls api) =
      .ok (unit.classes.map fun part ↦ (structItem (unit.classSite part)).text api config) :=
    mapM_eq_ok fun part _ ↦ classDeclaration_eq_ok api (unit.classSite part)
  rw [declarations, hclasses, ok_bind, declarationItems, List.map_append, List.map_map,
    map_text_declarationItems]
  rfl

theorem headerDefinitions_eq (unit : NamespaceUnit) :
    unit.headerDefinitions api config = (unit.headerItems api).map (·.text api config) := by
  rw [headerDefinitions, headerItems, List.map_append, List.map_flatMap, map_text_definitionItems]
  simp only [map_text_memberItems, classSite]

theorem sourceDefinitions_eq (unit : NamespaceUnit) :
    unit.sourceDefinitions api config = (unit.sourceItems api).map (·.text api config) := by
  rw [sourceDefinitions, sourceItems, List.map_append, List.map_flatMap, map_text_definitionItems]
  simp only [map_text_memberItems, classSite]

end NamespaceUnit

/-! ## Filling the lines -/

/-- The pieces that the lines of the header read as. -/
def headerPieces : List Piece :=
  textPieces "#ifndef " ++ [.slot "guard"] ++ textPieces "\n#define " ++ [.slot "guard"] ++
    textPieces "\n\n" ++ [.slot "hdr_namespaces"] ++ textPieces "\n\n" ++
    [.slot "template_namespaces"] ++ textPieces "\n\n" ++ [.slot "operators"] ++
    textPieces "\n\n#endif // " ++ [.slot "guard"] ++ textPieces "\n"

theorem readSource_interfaceHeaderLines :
    readSource (join "\n" interfaceHeaderLines) = .ok headerPieces := by
  rw [readSource_join]
  decide +kernel

def sourcePieces : List Piece :=
  textPieces "#ifdef " ++ [.slot "guard"] ++ textPieces "\n\n" ++ [.slot "src_namespaces"] ++
    textPieces "\n\n" ++ [.slot "operators"] ++ textPieces "\n\n#endif\n"

theorem readSource_interfaceSourceLines :
    readSource (join "\n" interfaceSourceLines) = .ok sourcePieces := by
  rw [readSource_join]
  decide +kernel

theorem fill_interfaceHeaderLines (guard declarations templates operators : String) :
    fill interfaceHeaderLines [("guard", guard), ("hdr_namespaces", declarations),
      ("template_namespaces", templates), ("operators", operators)] =
        .ok ("#ifndef " ++ guard ++ "\n#define " ++ guard ++ "\n\n" ++ declarations ++ "\n\n" ++
          templates ++ "\n\n" ++ operators ++ "\n\n#endif // " ++ guard ++ "\n") := by
  let values : Entries String := [("guard", guard), ("hdr_namespaces", declarations),
    ("template_namespaces", templates), ("operators", operators)]
  have hnodup : values.keys.Nodup := by simp [values, Entries.keys]
  have hslots : ∀ name ∈ slotNames headerPieces, name ∈ values.keys := by
    simp [mem_slotNames, headerPieces, textPieces, values, Entries.keys]
  rw [fill_eq_ok readSource_interfaceHeaderLines hnodup hslots, ← filled]
  simp only [headerPieces, filled_append, filled_textPieces, filled_slot]
  rfl

theorem fill_interfaceSourceLines (guard definitions operators : String) :
    fill interfaceSourceLines [("guard", guard), ("src_namespaces", definitions),
      ("operators", operators)] =
        .ok ("#ifdef " ++ guard ++ "\n\n" ++ definitions ++ "\n\n" ++ operators ++
          "\n\n#endif\n") := by
  let values : Entries String := [("guard", guard), ("src_namespaces", definitions),
    ("operators", operators)]
  have hnodup : values.keys.Nodup := by simp [values, Entries.keys]
  have hslots : ∀ name ∈ slotNames sourcePieces, name ∈ values.keys := by
    simp [mem_slotNames, sourcePieces, textPieces, values, Entries.keys]
  rw [fill_eq_ok readSource_interfaceSourceLines hnodup hslots, ← filled]
  simp only [sourcePieces, filled_append, filled_textPieces, filled_slot]
  rfl

/-! ## Layout of the files -/

namespace InterfaceUnit

def layout (unit : InterfaceUnit) (api : Api) : Layout where
  declarations := unit.namespaces.flatMap fun part ↦ blocksOf part.name part.declarationItems
  templates := unit.namespaces.flatMap fun part ↦ blocksOf part.name (part.headerItems api)
  headerOperators := unit.namespaces.flatMap (·.headerOperatorItems api)
  definitions := unit.namespaces.flatMap fun part ↦ blocksOf part.name (part.sourceItems api)
  sourceOperators := unit.namespaces.flatMap (·.sourceOperatorItems api)

theorem headerOperators_eq (unit : InterfaceUnit) : unit.headerOperators api config =
    (unit.layout api).headerOperators.map (·.text api config) := by
  rw [headerOperators, operators, List.flatMap_assoc, layout, List.map_flatMap]
  refine List.flatMap_congr fun part _ ↦ ?_
  rw [NamespaceUnit.headerOperatorItems, List.map_flatMap]
  refine List.flatMap_congr fun function _ ↦ ?_
  rw [functionHeaderItems, List.map_cons, part.text_declaration api config]
  by_cases htemplate : isTemplated function = true
  · rw [if_pos htemplate, NamespaceUnit.freeSite, if_pos htemplate, List.map_singleton]
    exact congrArg (functionDeclaration function api :: [·]) (part.text_definition api config function).symm
  · rw [if_neg htemplate, NamespaceUnit.freeSite, if_neg htemplate, List.map_nil]

theorem sourceOperators_eq (unit : InterfaceUnit) : unit.sourceOperators api config =
    (unit.layout api).sourceOperators.map (·.text api config) := by
  rw [sourceOperators, operators, List.filter_flatMap, List.map_flatMap, layout, List.map_flatMap]
  refine List.flatMap_congr fun part _ ↦ ?_
  rw [NamespaceUnit.sourceOperatorItems, List.map_flatMap, map_filter_eq_flatMap]
  refine List.flatMap_congr fun function _ ↦ ?_
  rw [functionSourceItems, ← part.text_definition api config, NamespaceUnit.freeSite]
  cases isTemplated function <;> rfl

theorem exists_declarations (unit : InterfaceUnit) (api : Api) (config : Config) :
    ∃ declarations, unit.namespaces.mapM (fun part ↦ part.wrap <$> part.declarations api) =
      .ok declarations ∧ declarations.flatten = (unit.layout api).declarations.map (·.text api config) := by
  have hparts : unit.namespaces.mapM (fun part ↦ part.wrap <$> part.declarations api) =
      .ok (unit.namespaces.map fun part ↦
        (blocksOf part.name part.declarationItems).map (·.text api config)) := by
    refine mapM_eq_ok fun part _ ↦ ?_
    rw [part.declarations_eq_ok, ← part.wrap_map_text]
    rfl
  refine ⟨_, hparts, ?_⟩
  rw [layout, List.map_flatMap, List.flatMap_def]

theorem headerText_eq_ok (unit : InterfaceUnit) :
    unit.headerText api config = .ok ((unit.layout api).headerText api config) := by
  obtain ⟨declarations, hdeclarations, hflatten⟩ :=
    unit.exists_declarations api config
  have htemplates : unit.namespaces.flatMap (fun part ↦ part.wrap (part.headerDefinitions api config)) =
      (unit.layout api).templates.map (·.text api config) := by
    simp only [layout, List.map_flatMap, NamespaceUnit.headerDefinitions_eq, NamespaceUnit.wrap_map_text]
  rw [headerText, hdeclarations, ok_bind, hflatten, htemplates, unit.headerOperators_eq]
  exact fill_interfaceHeaderLines ..

theorem sourceText_eq_ok (unit : InterfaceUnit) :
    unit.sourceText api config = .ok ((unit.layout api).sourceText api config) := by
  have hdefinitions : unit.namespaces.flatMap (fun part ↦ part.wrap (part.sourceDefinitions api config)) =
      (unit.layout api).definitions.map (·.text api config) := by
    simp only [layout, List.map_flatMap, NamespaceUnit.sourceDefinitions_eq, NamespaceUnit.wrap_map_text]
  rw [sourceText, hdefinitions, unit.sourceOperators_eq]
  exact fill_interfaceSourceLines ..

theorem files_eq_ok (unit : InterfaceUnit) :
    unit.files api config = .ok ((unit.layout api).files api config) := by
  rw [files, unit.headerText_eq_ok, unit.sourceText_eq_ok]
  rfl

end InterfaceUnit

end SourceGen.Emit
