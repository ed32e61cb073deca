import Mathlib.Data.List.Count
import SourceGen.Proofs.Emit.ParameterLists

/-!
# Specialisations of behaviours

The header declares a specialisation of a behaviour for exactly those opcodes for which the source defines
one: the opcodes that override it. Each is defined with the body of its own or with that of the opcode it is
an alias of, and the dispatcher of the behaviour leads every opcode to its specialisation in one case.
-/

namespace SourceGen.Emit

open Spec Text Template

variable {ops : OpcodeSection} {config : Config}

/-! ## Overriding opcodes -/

/-- The opcodes that override a behaviour, in the order of their declaration and each once. -/
structure AreOverriders (ops : OpcodeSection) (behaviour : String) (opcodes : List String) : Prop where
  sublist : opcodes.Sublist ops.opcodes.keys
  nodup : opcodes.Nodup
  mem_iff : ∀ name, name ∈ opcodes ↔
    ∃ opcode, (name, opcode) ∈ ops.opcodes.entries ∧ behaviour ∈ opcode.overrides.keys

/-- The body of an opcode for a behaviour: its own, or the own body of the opcode that it is an alias of. -/
inductive TakesBody (ops : OpcodeSection) (behaviour : String) : String → String → Prop where
  | own {name body : String} {opcode : Opcode} (h : (name, opcode) ∈ ops.opcodes.entries)
    (hbody : (behaviour, .body body) ∈ opcode.overrides.entries) : TakesBody ops behaviour name body
  | alias {name aliased body : String} {opcode target : Opcode} (h : (name, opcode) ∈ ops.opcodes.entries)
    (halias : (behaviour, .sameAs aliased) ∈ opcode.overrides.entries)
    (htarget : (aliased, target) ∈ ops.opcodes.entries)
    (hbody : (behaviour, .body body) ∈ target.overrides.entries) : TakesBody ops behaviour name body

theorem areOverriders_overriders (ops : OpcodeSection) (behaviour : String) :
    AreOverriders ops behaviour (overriders ops behaviour) := by
  have hsublist : (overriders ops behaviour).Sublist ops.opcodes.keys := List.filter_sublist.map _
  refine ⟨hsublist, ops.opcodes.nodup.sublist hsublist, fun name ↦ ?_⟩
  simp [overriders, OrderedMap.contains_iff]

theorem takesBody_of_overrideBody {name behaviour body : String} {opcode : Opcode}
    (hopcode : (name, opcode) ∈ ops.opcodes.entries)
    (h : overrideBody ops name opcode behaviour = .ok (some body)) : TakesBody ops behaviour name body := by
  rw [overrideBody] at h
  split at h
  · cases h
  · next hown =>
    cases h
    exact .own hopcode (OrderedMap.get?_eq_some_iff.mp hown)
  · next aliased halias =>
    obtain ⟨text, htext, heq⟩ := map_eq_ok.mp h
    cases heq
    rw [aliasedBody] at htext
    split at htext
    · cases htext
    · next target htarget =>
      split at htext
      · next hbody =>
        cases htext
        exact .alias hopcode (OrderedMap.get?_eq_some_iff.mp halias) (OrderedMap.get?_eq_some_iff.mp htarget)
          (OrderedMap.get?_eq_some_iff.mp hbody)
      · cases htext
      · cases htext

theorem takesBody_of_specializationsOf {behaviour : String} {opcodes : Entries Opcode}
    {specializations : List Specialization}
    (h : specializationsOf ops behaviour opcodes = .ok specializations)
    (hopcodes : ∀ entry ∈ opcodes, entry ∈ ops.opcodes.entries) :
    ∀ spec ∈ specializations, TakesBody ops behaviour spec.opcode spec.body := by
  induction opcodes generalizing specializations with
  | nil =>
    cases h
    exact List.forall_mem_nil _
  | cons entry rest ih =>
    obtain ⟨name, opcode⟩ := entry
    rw [specializationsOf] at h
    obtain ⟨body, hbody, h⟩ := bind_eq_ok.mp h
    obtain ⟨more, hmore, h⟩ := bind_eq_ok.mp h
    cases h
    obtain ⟨hentry, hrest⟩ := List.forall_mem_cons.mp hopcodes
    refine List.forall_mem_append.mpr ⟨?_, ih hmore hrest⟩
    cases body with
    | none => exact List.forall_mem_nil _
    | some text => exact List.forall_mem_singleton.mpr (takesBody_of_overrideBody hentry hbody)

/-! ## Dispatchers -/

/-- A dispatcher takes an opcode and the arguments of its behaviour. It has as many cases as there are
opcodes; every opcode has exactly one, which calls the behaviour of this opcode with the names of the
arguments. -/
structure Dispatches (ops : OpcodeSection) (config : Config) (name : String) (behaviour : Behaviour)
    (cases : List String) (text : String) : Prop where
  text_eq : text = dispatchingText name behaviour cases config.fatal
  length_eq : cases.length = ops.opcodes.keys.length
  count_eq : ∀ opcode ∈ ops.opcodes.keys, cases.count (dispatchCase name behaviour opcode) = 1

theorem dispatchCase_injective (name : String) (behaviour : Behaviour) :
    Function.Injective (dispatchCase name behaviour) := by
  intro opcode opcode' h
  have hchars := congrArg String.toList h
  simp only [dispatchCase, caseText, String.toList_append, List.append_assoc, List.append_cancel_left_eq] at hchars
  -- The opcode stands twice in its line, so equal lines tell that opcodes are equally long.
  have hlength : opcode.toList.length = opcode'.toList.length := by
    have hlengths := congrArg List.length hchars
    simp only [List.length_append] at hlengths
    omega
  exact String.toList_inj.mp (List.append_inj hchars hlength).1

theorem dispatches_map_dispatchCase (ops : OpcodeSection) (config : Config) (name : String)
    (behaviour : Behaviour) :
    Dispatches ops config name behaviour (ops.opcodes.keys.map (dispatchCase name behaviour))
      (dispatchingText name behaviour (ops.opcodes.keys.map (dispatchCase name behaviour)) config.fatal) where
  text_eq := rfl
  length_eq := List.length_map ..
  count_eq opcode hopcode := by
    have hcount := List.count_map_of_injective ops.opcodes.keys _ (dispatchCase_injective name behaviour) opcode
    exact hcount.trans (List.count_eq_one_of_mem ops.opcodes.nodup hopcode)

/-! ## Declarations and definitions -/

/-- What the header declares of a behaviour and what the source defines of it: apart from the general form and
the dispatcher, a specialisation for every opcode that overrides it, by the same signature in both. -/
structure Specialized (ops : OpcodeSection) (config : Config) (unit : BehaviourUnit)
    (declared defined : List String) : Prop where
  overriders : AreOverriders ops unit.name (unit.specializations.map (·.opcode))
  bodies : ∀ spec ∈ unit.specializations, TakesBody ops unit.name spec.opcode spec.body
  declared_eq : declared = generalText unit.name unit.behaviour ::
    unit.specializations.map (fun spec ↦
      (specializedSignature unit.name unit.behaviour spec.opcode).text ++ ";") ++
    [(dispatcherRoutine unit.name unit.behaviour).declaration.text ++ ";"]
  defined_eq : ∃ cases dispatcher, Dispatches ops config unit.name unit.behaviour cases dispatcher ∧
    defined = unit.specializations.map (fun spec ↦
      (specializedSignature unit.name unit.behaviour spec.opcode).text ++
        braces (bodyText spec.body)) ++ [dispatcher]

theorem specialized_of_behaviourUnits {behaviours : Entries Behaviour} {units : List BehaviourUnit}
    (h : behaviourUnits ops behaviours = .ok units) : ∀ unit ∈ units,
      Specialized ops config unit unit.declarations (unit.definitions ops.opcodes.keys config.fatal) := by
  intro unit hunit
  have hspecializations := specializationsOf_of_behaviourUnits h unit hunit
  have hopcodes : unit.specializations.map (·.opcode) = overriders ops unit.name :=
    map_opcode_specializationsOf hspecializations
  exact
    { overriders := hopcodes ▸ areOverriders_overriders ops unit.name
      bodies := takesBody_of_specializationsOf hspecializations fun _ hentry ↦ hentry
      declared_eq := unit.declarations_eq
      defined_eq := ⟨_, _, dispatches_map_dispatchCase ops config unit.name unit.behaviour,
        unit.definitions_eq _ _⟩ }

/-! ## The files -/

/-- A file in which a text stands between what the rest of the file is made of. -/
def Inserted (part rest file : String) : Prop :=
  ∃ before after, rest = before ++ after ∧ file = before ++ part ++ after

theorem exists_fill_opcodeHeader (ops : OpcodeSection) (config : Config) :
    ∃ before after, ∀ behaviours, fill opcodeHeaderLines (OpcodeUnit.headerValues ⟨ops, behaviours⟩ config) =
      .ok (before ++ join "\n\n" (behaviours.map fun unit ↦ join "\n\n" unit.declarations) ++ after) := by
  have hkeys : Entries.keys ((OpcodeUnit.headerValues ⟨ops, []⟩ config).take 7) =
      ["guard", "namespace", "fatal", "opcodes", "params", "ops", "cases"] := rfl
  have hlines : ∀ line ∈ opcodeHeaderLines.take 46 ++ opcodeHeaderLines.drop 47, ReadsWithin
      (Entries.keys ((OpcodeUnit.headerValues ⟨ops, []⟩ config).take 7)) line.toList := by
    rw [hkeys]
    repeat refine .forall_cons (by decide +kernel) ?_
    exact List.forall_mem_nil _
  have hline : readPieces .text "$\x7bper_op_decls\x7d".toList = .ok [.slot "per_op_decls"] := rfl
  obtain ⟨before, after, hfill⟩ := exists_fill_slot_alone (by decide) (by decide) hlines hline
    (by rw [hkeys]; decide)
  exact ⟨before, after, fun behaviours ↦ hfill _⟩

theorem exists_fill_opcodeSource (ops : OpcodeSection) (config : Config) :
    ∃ before after, ∀ behaviours, fill opcodeSourceLines (OpcodeUnit.sourceValues ⟨ops, behaviours⟩ config) =
      .ok (before ++ join "\n\n" (behaviours.map fun unit ↦
        join "\n\n" (unit.definitions ops.opcodes.keys config.fatal)) ++ after) := by
  have hkeys : Entries.keys ((OpcodeUnit.sourceValues ⟨ops, []⟩ config).take 7) =
      ["guard", "namespace", "sentinel", "code2names", "name2codes", "commcodes", "idemcodes"] := rfl
  have hlines : ∀ line ∈ opcodeSourceLines.take 64 ++ opcodeSourceLines.drop 65, ReadsWithin
      (Entries.keys ((OpcodeUnit.sourceValues ⟨ops, []⟩ config).take 7)) line.toList := by
    rw [hkeys]
    repeat refine .forall_cons (by decide +kernel) ?_
    exact List.forall_mem_nil _
  have hline : readPieces .text "$\x7bper_op_defns\x7d".toList = .ok [.slot "per_op_defns"] := rfl
  obtain ⟨before, after, hfill⟩ := exists_fill_slot_alone (by decide) (by decide) hlines hline
    (by rw [hkeys]; decide)
  exact ⟨before, after, fun behaviours ↦ hfill _⟩

/-- With other behaviours the files of a section differ in the texts of the behaviours only. -/
theorem exists_opcodeFiles_around (ops : OpcodeSection) (config : Config) :
    ∃ before after before' after' includes, ∀ behaviours, OpcodeUnit.files ⟨ops, behaviours⟩ config =
      .ok [(opcodeHeader, { content := before ++ join "\n\n" (behaviours.map fun unit ↦
          join "\n\n" unit.declarations) ++ after, includes := includes }),
        (opcodeSource, { content := before' ++ join "\n\n" (behaviours.map fun unit ↦
          join "\n\n" (unit.definitions ops.opcodes.keys config.fatal)) ++ after',
                         includes := ["\"estd/contain.hpp\""], references := [opcodeHeader] })] := by
  obtain ⟨before, after, hheader⟩ := exists_fill_opcodeHeader ops config
  obtain ⟨before', after', hsource⟩ := exists_fill_opcodeSource ops config
  refine ⟨before, after, before', after', OpcodeUnit.headerIncludes ⟨ops, []⟩, fun behaviours ↦ ?_⟩
  rw [OpcodeUnit.files, hheader, ok_bind, hsource, ok_bind]
  rfl

/-- The files of a section have the declarations and definitions of its behaviours, in the order of these,
and apart from them are the files of the section without behaviours. -/
def FilesSpecialized (ops : OpcodeSection) (config : Config) (files : Entries SourceFile) : Prop :=
  ∃ (units : List BehaviourUnit) (declared defined : BehaviourUnit → List String)
    (header source plainHeader plainSource : SourceFile),
    files = [(opcodeHeader, header), (opcodeSource, source)] ∧
      OpcodeUnit.files ⟨ops, []⟩ config = .ok [(opcodeHeader, plainHeader), (opcodeSource, plainSource)] ∧
        units.map (fun unit ↦ (unit.name, unit.behaviour)) = ops.behaviours.entries ∧
          (∀ unit ∈ units, Specialized ops config unit (declared unit) (defined unit)) ∧
            Inserted (join "\n\n" (units.map fun unit ↦ join "\n\n" (declared unit)))
              plainHeader.content header.content ∧
              Inserted (join "\n\n" (units.map fun unit ↦ join "\n\n" (defined unit)))
                plainSource.content source.content

/-- For every behaviour of a section that is emitted, the header declares and the source defines
specialisations for the opcodes that override it and no others, and the dispatcher has all opcodes. -/
theorem files_specialized {files : Entries SourceFile} (h : opcodeFiles ops config = .ok files) :
    FilesSpecialized ops config files := by
  rw [opcodeFiles] at h
  obtain ⟨⟨section', units⟩, hunit, hfiles⟩ := bind_eq_ok.mp h
  obtain ⟨rfl, hbehaviours⟩ := OpcodeUnit.ofSection_eq_ok hunit
  obtain ⟨before, after, before', after', includes, haround⟩ := exists_opcodeFiles_around section' config
  rw [haround] at hfiles
  cases hfiles
  refine ⟨units, _, _, _, _, _, _, rfl, haround [], map_behaviourUnits hbehaviours,
    specialized_of_behaviourUnits hbehaviours, ⟨before, after, ?_, rfl⟩, ⟨before', after', ?_, rfl⟩⟩ <;>
    simp [join]

/-- An opcode with a body of its own, one that is an alias of it, and one that overrides nothing. -/
def summedOpcodes : OpcodeSection where
  params := "T a, T b"
  opcodes := .ofEntries
    [("SUM", { statement := "a + b;", overrides := .ofEntries [("grad", .sameAs "ADD")] }),
      ("ADD", { statement := "a + b;", overrides := .ofEntries [("grad", .body "return seed;")] }),
      ("MAX", { statement := "a > b ? a : b;" })]
  behaviours := .ofEntries
    [("grad", { out := "double", args := [{ name := "seed", type := "double" }], fallback := "return 0;" })]

theorem files_specialized_summed :
    ∃ files, opcodeFiles summedOpcodes {} = .ok files ∧ FilesSpecialized summedOpcodes {} files ∧
      AreOverriders summedOpcodes "grad" ["SUM", "ADD"] ∧
        TakesBody summedOpcodes "grad" "SUM" "return seed;" := by
  obtain ⟨files, hfiles⟩ : ∃ files, opcodeFiles summedOpcodes {} = .ok files := by
    rw [← failure?_eq_none_iff, failure?_opcodeFiles]
    rfl
  have hbody : overrideBody summedOpcodes "SUM"
      { statement := "a + b;", overrides := .ofEntries [("grad", .sameAs "ADD")] } "grad" =
        .ok (some "return seed;") := rfl
  exact ⟨files, hfiles, files_specialized hfiles, areOverriders_overriders summedOpcodes "grad",
    takesBody_of_overrideBody List.mem_cons_self hbody⟩

end SourceGen.Emit
