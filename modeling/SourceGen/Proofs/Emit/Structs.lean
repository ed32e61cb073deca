import SourceGen.Emit.Classes
import SourceGen.Proofs.Emit.Signatures
import SourceGen.Proofs.Template.Passages

/-!
# Structs

A struct declares the constructors of its class, the functions and the members. Setting in its body goes line
by line, and every declaration ends in the middle of a line. So the body holds the declarations as they are,
each of them set in by itself.
-/

namespace SourceGen.Emit

open Spec Text Template

/-! ## Sections -/

/-- Texts one behind the other under a label, if there are any. -/
def underLabel (label separator : String) (texts : List String) : List String :=
  if texts = [] then [] else [label ++ ("\n" ++ join separator texts)]

/-- The public part and the private part, each under its label. -/
def sections (separator : String) (publics privates : List String) : List String :=
  underLabel "public:" separator publics ++ underLabel "private:" separator privates

theorem labelled_eq (label separator : String) (texts : List String) :
    labelled label separator texts = underLabel label separator texts := by
  cases texts with
  | nil => rfl
  | cons first rest =>
    rw [underLabel, if_neg (List.cons_ne_nil first rest), ← String.append_assoc]
    rfl

theorem endsInLine_of_mem_underLabel {label separator : String} {texts : List String}
    (h : ∀ text ∈ texts, EndsInLine text) : ∀ text ∈ underLabel label separator texts, EndsInLine text := by
  rw [underLabel]
  split
  · exact List.forall_mem_nil _
  · next hne => exact List.forall_mem_singleton.mpr (((EndsInLine.join hne h).append "\n").append label)

theorem endsInLine_of_mem_sections {separator : String} {publics privates : List String}
    (hpublics : ∀ text ∈ publics, EndsInLine text) (hprivates : ∀ text ∈ privates, EndsInLine text) :
    ∀ text ∈ sections separator publics privates, EndsInLine text :=
  List.forall_mem_append.mpr
    ⟨endsInLine_of_mem_underLabel hpublics, endsInLine_of_mem_underLabel hprivates⟩

/-! ## Parts of a struct -/

def constructorDeclarations (cls : ClassDecl) : List String :=
  (cls.init.map fun init ↦ (constructorRoutine cls init.args).declaration.text ++ ";").toList

/-- A copy comes with a move, and a move with a copy. -/
def takingDeclarations (cls : ClassDecl) : List String :=
  if cls.copy.isNone && cls.move.isNone then []
  else [takingDeclaration cls .copy cls.copy, takingDeclaration cls .move cls.move]

def publicFunctions (cls : ClassDecl) : List FunctionDecl :=
  cls.functions.filter (·.isPublic)

def privateFunctions (cls : ClassDecl) : List FunctionDecl :=
  cls.functions.filter (!·.isPublic)

/-- Every function of a class is either public or private. -/
theorem publicFunctions_append_perm (cls : ClassDecl) :
    (publicFunctions cls ++ privateFunctions cls).Perm cls.functions :=
  List.filter_append_perm _ _

/-- The declarations of member functions. -/
def functionSections (api : Api) (site : ClassSite) (publics privates : List FunctionDecl) : List String :=
  sections "\n\n" (publics.map fun function ↦ declarationText api (site.member function))
    (privates.map fun function ↦ declarationText api (site.member function))

def memberText (member : Argument) : String :=
  parameterText member ++ ";"

def memberSections (cls : ClassDecl) : List String :=
  sections "\n" ((cls.members.filter (·.isPublic)).map memberText)
    ((cls.members.filter (!·.isPublic)).map memberText)

/-- What the body of a struct is made of. -/
def structParts (api : Api) (site : ClassSite) (publics privates : List FunctionDecl) : List String :=
  constructorDeclarations site.cls ++ takingDeclarations site.cls ++
    functionSections api site publics privates ++ memberSections site.cls

/-- A struct with its constructors, the given functions and its members. -/
def structText (api : Api) (site : ClassSite) (publics privates : List FunctionDecl) : String :=
  templateLines site.cls.usedTemplate.toList ++ "struct " ++ site.cls.name ++ "\n\x7b\n" ++
    join "\n\n" ((structParts api site publics privates).map setIn) ++ "\n\x7d;"

theorem endsInLine_semicolon (text : String) : EndsInLine (text ++ ";") :=
  EndsInLine.append ⟨[], ';', rfl, by decide, by decide⟩ text

theorem endsInLine_takingEnding (spec : Option Transfer) : EndsInLine (takingEnding spec) := by
  rw [takingEnding]
  split
  · exact ⟨" = default".toList, ';', rfl, by decide, by decide⟩
  · exact endsInLine_semicolon ""

theorem endsInLine_of_mem_constructorDeclarations (cls : ClassDecl) :
    ∀ text ∈ constructorDeclarations cls, EndsInLine text := by
  rw [constructorDeclarations]
  cases cls.init with
  | none => exact List.forall_mem_nil _
  | some init => exact List.forall_mem_singleton.mpr (endsInLine_semicolon _)

theorem endsInLine_of_mem_takingDeclarations (cls : ClassDecl) :
    ∀ text ∈ takingDeclarations cls, EndsInLine text := by
  have hends : ∀ kind spec, EndsInLine (takingDeclaration cls kind spec) := fun kind spec ↦
    (((endsInLine_takingEnding spec).append _).append "\n").append _
  rw [takingDeclarations]
  split
  · exact List.forall_mem_nil _
  · exact List.forall_mem_cons.mpr ⟨hends .copy cls.copy, List.forall_mem_singleton.mpr (hends .move cls.move)⟩

theorem endsInLine_declarationText (api : Api) (site : FunctionSite) :
    EndsInLine (declarationText api site) :=
  ((endsInLine_semicolon _).append "\n").append _

theorem endsInLine_of_mem_functionSections {api : Api} {site : ClassSite}
    (publics privates : List FunctionDecl) :
    ∀ text ∈ functionSections api site publics privates, EndsInLine text :=
  endsInLine_of_mem_sections
    (List.forall_mem_map.mpr fun function _ ↦ endsInLine_declarationText api (site.member function))
    (List.forall_mem_map.mpr fun function _ ↦ endsInLine_declarationText api (site.member function))

theorem endsInLine_of_mem_memberSections (cls : ClassDecl) :
    ∀ text ∈ memberSections cls, EndsInLine text :=
  endsInLine_of_mem_sections (List.forall_mem_map.mpr fun _ _ ↦ endsInLine_semicolon _)
    (List.forall_mem_map.mpr fun _ _ ↦ endsInLine_semicolon _)

/-! ## The body -/

theorem constructors_eq (cls : ClassDecl) : (cls.init.map (constructDeclaration cls)).getD "" =
    join "\n\n" (constructorDeclarations cls) := by
  rw [constructorDeclarations]
  cases cls.init with
  | none => rfl
  | some init => exact (constructDeclaration_eq cls init).trans (join_singleton ..).symm

theorem transferDeclarations_eq (cls : ClassDecl) :
    transferDeclarations cls = join "\n\n" (takingDeclarations cls) := by
  rw [transferDeclarations, takingDeclarations]
  split
  · rfl
  · rw [join_cons_cons, join_singleton, transferDeclaration_eq, transferDeclaration_eq, String.append_assoc]

theorem functionDeclarations_eq (api : Api) (site : ClassSite) : functionDeclarations site.cls api =
    join "\n\n" (functionSections api site (publicFunctions site.cls) (privateFunctions site.cls)) := by
  have hdeclared : ∀ functions : List FunctionDecl, functions.map (functionDeclaration · api) =
      functions.map fun function ↦ declarationText api (site.member function) := by
    intro functions
    exact List.map_congr_left fun function _ ↦ functionDeclaration_eq_text api (site.member function)
  rw [functionDeclarations, functionSections, sections]
  simp only [labelled_eq, hdeclared]
  rfl

theorem memberDeclarations_eq (cls : ClassDecl) :
    memberDeclarations cls = join "\n\n" (memberSections cls) := by
  rw [memberDeclarations, memberSections, sections]
  simp only [labelled_eq, render_true]
  rfl

/-- The parts of groups are joined whether or not those of each group have been joined before. -/
theorem join_filter_map_setIn {groups : List (List String)}
    (h : ∀ group ∈ groups, ∀ text ∈ group, EndsInLine text) (front : List String) :
    join "\n\n" (front ++ ((groups.map (join "\n\n")).filter (!·.isEmpty)).map setIn) =
      join "\n\n" (front ++ groups.flatten.map setIn) := by
  induction groups generalizing front with
  | nil => rfl
  | cons group rest ih =>
    obtain ⟨hgroup, hrest⟩ := List.forall_mem_cons.mp h
    rw [List.map_cons, List.flatten_cons]
    by_cases hnil : group = []
    · rw [hnil]
      exact ih hrest front
    · have hne : join "\n\n" group ≠ "" := (EndsInLine.join hnil hgroup).ne_empty
      rw [List.filter_cons_of_pos (by simpa using hne), List.map_cons, setIn_join hgroup,
        join_append_join (mt List.map_eq_nil_iff.mp hnil), ← List.append_assoc, ih hrest, List.append_assoc,
        List.map_append]

theorem classBody_eq (api : Api) (site : ClassSite) : classBody site.cls api =
    join "\n\n" ((structParts api site (publicFunctions site.cls) (privateFunctions site.cls)).map setIn) := by
  let groups : List (List String) := [constructorDeclarations site.cls, takingDeclarations site.cls,
    functionSections api site (publicFunctions site.cls) (privateFunctions site.cls),
    memberSections site.cls]
  have hends : ∀ group ∈ groups, ∀ text ∈ group, EndsInLine text := by
    simp only [groups, List.forall_mem_cons]
    exact ⟨endsInLine_of_mem_constructorDeclarations site.cls, endsInLine_of_mem_takingDeclarations site.cls,
      endsInLine_of_mem_functionSections _ _, endsInLine_of_mem_memberSections site.cls, List.forall_mem_nil _⟩
  have hflatten : groups.flatten =
      structParts api site (publicFunctions site.cls) (privateFunctions site.cls) := by
    simp [groups, structParts]
  have hset : indentBody = setIn := funext indentBody_eq
  have hjoined := join_filter_map_setIn hends []
  rw [List.nil_append, List.nil_append, hflatten] at hjoined
  rw [← hjoined, classBody, constructors_eq, transferDeclarations_eq, functionDeclarations_eq api site,
    memberDeclarations_eq, hset]
  rfl

/-! ## The struct -/

/-- The pieces that the lines of a class read as. -/
def classPieces : List Piece :=
  [.slot "template_decl"] ++ textPieces "struct " ++ [.slot "class_name"] ++ textPieces "\n\x7b\n" ++
    [.slot "body"] ++ textPieces "\n\x7d;"

theorem readSource_classLines : readSource (join "\n" classLines) = .ok classPieces := by
  rw [readSource_join]
  decide +kernel

/-- A class is declared by a struct with its public functions and then its private ones. -/
theorem classDeclaration_eq_ok (api : Api) (site : ClassSite) : classDeclaration site.cls api =
    .ok (structText api site (publicFunctions site.cls) (privateFunctions site.cls)) := by
  let values : Entries String := [("template_decl", templateHead site.cls.usedTemplate),
    ("class_name", site.cls.name), ("body", classBody site.cls api)]
  have hnodup : values.keys.Nodup := by simp [values, Entries.keys]
  have hslots : ∀ name ∈ slotNames classPieces, name ∈ values.keys := by
    simp [mem_slotNames, classPieces, textPieces, values, Entries.keys]
  rw [classDeclaration, fill_eq_ok readSource_classLines hnodup hslots]
  refine congrArg _ ?_
  rw [← filled, structText, ← classBody_eq, ← templateHead_eq]
  simp only [classPieces, filled_append, filled_textPieces, filled_slot]
  rfl

end SourceGen.Emit
