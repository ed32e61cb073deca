import SourceGen.Proofs.Emit.InterfacePlacement

/-!
# Defaults in template lists

Functions and operators, the constructors of classes and their assignments are declared once and defined once.
A definition repeats the signature of its declaration. It leaves the defaults of the parameters out, but the
template lists, its own and the one that the struct of its class states, are repeated as they are. So a
default is stated again exactly if it stands in one of these lists.
-/

namespace SourceGen.Emit

open Spec Text Validation

/-! ## Layouts -/

/-- A layout declares every routine of an interface once, in the header, and defines it once, by its
signature. -/
structure SignsRoutines (api : Api) (config : Config) (layout : Layout) : Prop where
  declared : (layout.header.flatMap (·.declaredRoutines api)).Perm (routines api)
  source_declared : layout.source.flatMap (·.declaredRoutines api) = []
  defined : ((layout.header ++ layout.source).flatMap (·.definedRoutines api)).Perm (routines api)
  states : ∀ item ∈ layout.header ++ layout.source, StatesSignatures api config item

theorem flatMap_declaredRoutines_perm (api : Api) (items : List Item) :
    (items.flatMap (·.declaredRoutines api)).Perm
      ((items.flatMap Item.declares).map (functionRoutine api) ++
        ((items.flatMap Item.structs).flatMap specialSites).flatMap specialRoutines) := by
  rw [List.map_flatMap, List.flatMap_assoc (l := items), List.flatMap_assoc (l := items)]
  exact (List.flatMap_append_perm ..).symm

theorem flatMap_definedRoutines_perm (api : Api) (items : List Item) :
    (items.flatMap (·.definedRoutines api)).Perm
      ((items.flatMap Item.defines).map (functionRoutine api) ++
        (items.flatMap Item.specials).flatMap specialRoutines) := by
  rw [List.map_flatMap, List.flatMap_assoc]
  exact (List.flatMap_append_perm ..).symm

theorem signsRoutines_of_placement {api : Api} {config : Config} {layout : Layout}
    (h : Placement api api.functionSites api.classSites layout.header layout.source) :
    SignsRoutines api config layout where
  declared := by
    apply (flatMap_declaredRoutines_perm api layout.header).trans
    exact (h.declared.map _).append ((h.structs.flatMap_right specialSites).flatMap_right specialRoutines)
  source_declared := by
    apply List.perm_nil.mp
    have hperm := flatMap_declaredRoutines_perm api layout.source
    rwa [h.source_declares, h.source_structs] at hperm
  defined := by
    have hdefined := h.defined
    have hspecials := h.specials
    rw [← List.flatMap_append] at hdefined hspecials
    apply (flatMap_definedRoutines_perm api (layout.header ++ layout.source)).trans
    exact (hdefined.map _).append (hspecials.flatMap_right specialRoutines)
  states item _ := statesSignatures api config item

theorem exists_signsRoutines {api : Api} {config : Config} {files : Entries SourceFile}
    (h : (interfaceFiles api config).result = .ok files) :
    ∃ layout : Layout, files = layout.files api config ∧ SignsRoutines api config layout := by
  obtain ⟨unit, hfiles, hplaced⟩ := exists_layout h
  exact ⟨unit.layout api, hfiles, signsRoutines_of_placement hplaced⟩

/-! ## Defaults in template lists -/

/-- What stands before the default of a template parameter, which begins behind an equals sign outside of all
brackets. -/
def beforeDefault (depth : Nat) : List Char → List Char
  | [] => []
  | c :: rest => if c = '=' ∧ depth = 0 then [] else c :: beforeDefault (depthAfter depth c) rest

def StatesDefault (parameter : String) : Prop :=
  beforeDefault 0 parameter.toList ≠ parameter.toList

instance {parameter : String} : Decidable (StatesDefault parameter) :=
  inferInstanceAs (Decidable (_ ≠ _))

/-- A template parameter without its default. -/
def bareParameter (parameter : String) : String :=
  trimEnd (String.ofList (beforeDefault 0 parameter.toList))

theorem beforeDefault_prefix (depth : Nat) (cs : List Char) : beforeDefault depth cs <+: cs := by
  induction cs generalizing depth with
  | nil => exact List.prefix_refl []
  | cons c rest ih =>
    rw [beforeDefault]
    split
    · exact List.nil_prefix
    · exact List.prefix_cons_inj c |>.mpr (ih _)

/-- The parameters of a list are trimmed. -/
theorem trimEnd_of_mem_parameters {list parameter : String} (h : parameter ∈ parameters list) :
    trimEnd parameter = parameter := by
  obtain ⟨cs, hcs, rfl⟩ := List.mem_map.mp h
  have hpiece : ∃ piece, trimChars piece = cs := by
    rw [parameterList] at hcs
    split at hcs
    · cases hcs
    · obtain ⟨piece, -, hpiece⟩ := List.mem_map.mp hcs
      exact ⟨piece, hpiece⟩
  obtain ⟨piece, rfl⟩ := hpiece
  rw [trimEnd, String.toList_ofList]
  exact congrArg String.ofList (List.rdropWhile_idempotent isBlank _)

theorem bareParameter_eq_iff {parameter : String} (h : trimEnd parameter = parameter) :
    bareParameter parameter = parameter ↔ ¬ StatesDefault parameter := by
  rw [StatesDefault, not_not]
  constructor
  · intro hbare
    have hfront : beforeDefault 0 parameter.toList <+: parameter.toList := beforeDefault_prefix 0 _
    have hwhole : parameter.toList <+: beforeDefault 0 parameter.toList := by
      have hchars := congrArg String.toList hbare
      rw [bareParameter, trimEnd, String.toList_ofList, String.toList_ofList] at hchars
      have hkept : trimEndChars (beforeDefault 0 parameter.toList) <+: beforeDefault 0 parameter.toList :=
        List.rdropWhile_prefix isBlank _
      rwa [hchars] at hkept
    exact hfront.eq_of_length_le hwhole.length_le
  · intro hplain
    rw [bareParameter, hplain, String.ofList_toList, h]

/-- The template lists of a routine without any default. -/
def Routine.bareTemplates (routine : Routine) : List (List String) :=
  routine.templates.map fun list ↦ (parameters list).map bareParameter

/-- A definition states the template lists without defaults only if there are none in them. -/
theorem map_parameters_eq_bareTemplates_iff (routine : Routine) :
    routine.definition.templates.map parameters = routine.bareTemplates ↔
      ∀ list ∈ routine.templates, ∀ parameter ∈ parameters list, ¬ StatesDefault parameter := by
  have hlist : ∀ list, parameters list = (parameters list).map bareParameter ↔
      ∀ parameter ∈ parameters list, ¬ StatesDefault parameter := by
    intro list
    calc
      _ ↔ (parameters list).map bareParameter = (parameters list).map id := by rw [List.map_id, eq_comm]
      _ ↔ ∀ parameter ∈ parameters list, bareParameter parameter = parameter := List.map_inj_left
      _ ↔ _ := forall₂_congr fun _ h ↦ bareParameter_eq_iff (trimEnd_of_mem_parameters h)
  calc
    _ ↔ ∀ list ∈ routine.templates, parameters list = (parameters list).map bareParameter :=
      List.map_inj_left
    _ ↔ _ := forall₂_congr fun list _ ↦ hlist list

/-- Every function, operator, member function, constructor and assignment is declared once and defined once, by
its signature, and the definition names its class. It has the parameters of the declaration without their
defaults. Its template lists are those of the declaration and of the struct around it, and they are without
defaults exactly if none of their parameters states one. -/
theorem defaults_stated_once_iff {api : Api} {config : Config} {files : Entries SourceFile}
    (h : (interfaceFiles api config).result = .ok files) :
    ∃ layout : Layout, files = layout.files api config ∧ SignsRoutines api config layout ∧
      ∀ routine ∈ routines api,
        routine.definition.params = routine.declaration.params.map withoutDefault ∧
          (routine.definition.templates.map parameters = routine.bareTemplates ↔
            ∀ list ∈ routine.templates, ∀ parameter ∈ parameters list, ¬ StatesDefault parameter) := by
  obtain ⟨layout, hfiles, hsigned⟩ := exists_signsRoutines h
  exact ⟨layout, hfiles, hsigned, fun routine _ ↦ ⟨rfl, map_parameters_eq_bareTemplates_iff routine⟩⟩

/-- A class and a function with one template list. -/
def sizedApi (list : String) : Api :=
  { namespaces := .ofEntries [("g", .full
      [{ name := some "f"
         template := some list
         args := [{ name := "a", type := "T", fallback := some "0" }]
         out := .typed (some "double") "return 1;" }]
      [{ name := "Box"
         template := some list
         init := some { args := [{ name := "a", type := "T", fallback := some "0" }] }
         functions := [{ name := some "get", out := .typed (some "T") "return 0;" }] }])] }

theorem exists_interfaceFiles_sized (list : String)
    (h : (failure? (interfaceFiles (sizedApi list) {}).result).isNone = true) :
    ∃ files, (interfaceFiles (sizedApi list) {}).result = .ok files :=
  failure?_eq_none_iff.mp (Option.isNone_iff_eq_none.mp h)

theorem defaults_stated_once_iff_sized :
    ∃ files, (interfaceFiles (sizedApi "typename T, size_t N") {}).result = .ok files ∧
      ∃ layout : Layout, files = layout.files (sizedApi "typename T, size_t N") {} ∧
        SignsRoutines (sizedApi "typename T, size_t N") {} layout ∧
          ∀ routine ∈ routines (sizedApi "typename T, size_t N"),
            routine.definition.params = routine.declaration.params.map withoutDefault ∧
              routine.definition.templates.map parameters = routine.bareTemplates := by
  obtain ⟨files, hfiles⟩ := exists_interfaceFiles_sized "typename T, size_t N" (by
    rw [failure?_interfaceFiles]
    decide +kernel)
  obtain ⟨layout, heq, hsigned, hroutines⟩ := defaults_stated_once_iff hfiles
  have hplain : ∀ routine ∈ routines (sizedApi "typename T, size_t N"), ∀ list ∈ routine.templates,
      ∀ parameter ∈ parameters list, ¬ StatesDefault parameter := by decide +kernel
  refine ⟨files, hfiles, layout, heq, hsigned, fun routine hroutine ↦ ?_⟩
  obtain ⟨hparams, hiff⟩ := hroutines routine hroutine
  exact ⟨hparams, hiff.mpr (hplain routine hroutine)⟩

/-- Validation accepts a template list with a default, and the definition of the function states the default
again. -/
theorem size_default_stated_again :
    (validate { api := some (sizedApi "typename T, size_t N = 8") }).ok = true ∧
      ∃ layout : Layout, (interfaceFiles (sizedApi "typename T, size_t N = 8") {}).result =
          .ok (layout.files (sizedApi "typename T, size_t N = 8") {}) ∧
        SignsRoutines (sizedApi "typename T, size_t N = 8") {} layout ∧
          ∃ routine ∈ routines (sizedApi "typename T, size_t N = 8"),
            routine.declaration.text = "template <typename T, size_t N = 8>\ndouble f (T a = 0)" ∧
              routine.definition.text = "template <typename T, size_t N = 8>\ndouble f (T a)" ∧
                routine.definition.templates.map parameters ≠ routine.bareTemplates := by
  obtain ⟨files, hfiles⟩ := exists_interfaceFiles_sized "typename T, size_t N = 8" (by
    rw [failure?_interfaceFiles]
    decide +kernel)
  obtain ⟨layout, rfl, hsigned⟩ := exists_signsRoutines hfiles
  exact ⟨by decide +kernel, layout, hfiles, hsigned, by decide +kernel⟩

end SourceGen.Emit
