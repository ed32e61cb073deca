import SourceGen.Proofs.Emit.DocComments
import SourceGen.Proofs.Emit.Items

/-!
# Signatures in the text

Every part of the interface files states the signatures of what it declares and defines, each at the beginning
of a line. The struct of a class states its template list, and the declarations in it are set in.
-/

namespace SourceGen.Emit

open Spec Text

/-! ## Beginnings of lines -/

/-- A part of a text stands at the beginning of a line. -/
def BeginsLine (part text : String) : Prop :=
  ∃ before after, text = before ++ (part ++ after) ∧ (before = "" ∨ ∃ front, before = front ++ "\n")

theorem beginsLine_append (part after : String) : BeginsLine part (part ++ after) :=
  ⟨"", after, String.empty_append.symm, .inl rfl⟩

theorem beginsLine_refl (text : String) : BeginsLine text text :=
  ⟨"", "", by rw [String.append_empty, String.empty_append], .inl rfl⟩

theorem beginsLine_newline_append (front part : String) : BeginsLine part (front ++ ("\n" ++ part)) :=
  ⟨front ++ "\n", "", by rw [String.append_empty, String.append_assoc], .inr ⟨front, rfl⟩⟩

theorem BeginsLine.trans {part middle text : String} (h : BeginsLine part middle)
    (h' : BeginsLine middle text) : BeginsLine part text := by
  obtain ⟨before, after, rfl, hbefore⟩ := h
  obtain ⟨before', after', rfl, hbefore'⟩ := h'
  refine ⟨before' ++ before, after ++ after', by simp only [String.append_assoc], ?_⟩
  rcases hbefore with rfl | ⟨front, rfl⟩
  · rwa [String.append_empty]
  · exact .inr ⟨before' ++ front, (String.append_assoc ..).symm⟩

theorem BeginsLine.prepend {part text : String} (h : BeginsLine part text) (front : String) :
    BeginsLine part (front ++ ("\n" ++ text)) :=
  h.trans (beginsLine_newline_append front text)

theorem BeginsLine.extend {part text : String} (h : BeginsLine part text) (after : String) :
    BeginsLine part (text ++ after) :=
  h.trans (beginsLine_append text after)

/-- Each of the texts that are joined by empty lines begins a line. -/
theorem beginsLine_join {text : String} {texts : List String} (h : text ∈ texts) :
    BeginsLine text (join "\n\n" texts) := by
  induction texts with
  | nil => cases h
  | cons first rest ih =>
    cases rest with
    | nil =>
      obtain rfl := List.mem_singleton.mp h
      rw [join_singleton]
      exact beginsLine_refl text
    | cons next more =>
      rw [join_cons_cons]
      rcases List.mem_cons.mp h with rfl | hrest
      · exact beginsLine_append text _
      · rw [newline_newline_append, ← String.append_assoc]
        exact (ih hrest).prepend (first ++ "\n")

/-! ## Routines of items -/

def specialRoutines (site : SpecialSite) : List Routine :=
  site.block.routines site.classSite.cls

/-- The routines of an interface. -/
def routines (api : Api) : List Routine :=
  api.functionSites.map (functionRoutine api) ++ (api.classSites.flatMap specialSites).flatMap specialRoutines

namespace Item

def declaredRoutines (api : Api) (item : Item) : List Routine :=
  item.declares.map (functionRoutine api) ++ (item.structs.flatMap specialSites).flatMap specialRoutines

def definedRoutines (api : Api) (item : Item) : List Routine :=
  item.defines.map (functionRoutine api) ++ item.specials.flatMap specialRoutines

/-- How an item shows what it declares. -/
def setIn : Item → String → String
  | struct .. => Emit.setIn
  | _ => id

end Item

/-- An item states the signatures of what it declares and defines, and the template list of a class with its
struct. -/
structure StatesSignatures (api : Api) (config : Config) (item : Item) : Prop where
  structs : ∀ site ∈ item.structs, BeginsLine
    (templateLines site.cls.usedTemplate.toList ++ "struct " ++ site.cls.name ++ "\n") (item.text api config)
  declares : ∀ routine ∈ item.declaredRoutines api,
    BeginsLine (item.setIn (routine.declaration.text ++ ";")) (item.text api config)
  defines : ∀ routine ∈ item.definedRoutines api, BeginsLine routine.definition.text (item.text api config)

/-! ## Structs -/

section Structs

variable {api : Api} {site : ClassSite} {publics privates : List FunctionDecl}

theorem beginsLine_structText {part : String} (h : part ∈ structParts api site publics privates) :
    BeginsLine (setIn part) (structText api site publics privates) := by
  have hbody := (beginsLine_join (List.mem_map_of_mem (f := setIn) h)).prepend
    (templateLines site.cls.usedTemplate.toList ++ "struct " ++ site.cls.name ++ "\n\x7b")
  have hline : "\n\x7b\n" = "\n\x7b" ++ "\n" := rfl
  rw [structText, hline]
  simpa only [String.append_assoc] using hbody.extend "\n\x7d;"

theorem beginsLine_head (api : Api) (site : ClassSite) (publics privates : List FunctionDecl) :
    BeginsLine (templateLines site.cls.usedTemplate.toList ++ "struct " ++ site.cls.name ++ "\n")
      (structText api site publics privates) := by
  have hline : "\n\x7b\n" = "\n" ++ "\x7b\n" := rfl
  have hhead := beginsLine_append
    (templateLines site.cls.usedTemplate.toList ++ "struct " ++ site.cls.name ++ "\n")
    ("\x7b\n" ++ join "\n\n" ((structParts api site publics privates).map setIn) ++ "\n\x7d;")
  rw [structText, hline]
  simpa only [String.append_assoc] using hhead

/-- The constructor and the assignment of a copy or move are set in on lines of their own. -/
theorem beginsLine_takingDeclaration {cls : ClassDecl} {kind : TransferKind} {spec : Transfer}
    {routine : Routine} (h : routine ∈ (SpecialBlock.transfer kind spec).routines cls) :
    BeginsLine (setIn (routine.declaration.text ++ ";"))
      (setIn (takingDeclaration cls kind (some spec))) := by
  have hending : takingEnding (some spec) = ";" := rfl
  rw [takingDeclaration, hending, setIn_newline_append (.inr (endsInLine_semicolon _))
    (endsInLine_semicolon _).ne_empty]
  rcases List.mem_cons.mp h with rfl | hassignment
  · exact beginsLine_append _ _
  · obtain rfl := List.mem_singleton.mp hassignment
    exact beginsLine_newline_append _ _

theorem transfer_mem_specialBlocks_iff {cls : ClassDecl} {kind : TransferKind} {spec : Transfer} :
    SpecialBlock.transfer kind spec ∈ specialBlocks cls ↔
      kind = .copy ∧ cls.copy = some spec ∨ kind = .move ∧ cls.move = some spec := by
  cases kind <;> simp [specialBlocks]

theorem takingDeclaration_mem {cls : ClassDecl} {kind : TransferKind} {spec : Transfer}
    (h : SpecialBlock.transfer kind spec ∈ specialBlocks cls) :
    takingDeclaration cls kind (some spec) ∈ takingDeclarations cls := by
  rw [takingDeclarations]
  rcases transfer_mem_specialBlocks_iff.mp h with ⟨rfl, hcopy⟩ | ⟨rfl, hmove⟩
  · simp [hcopy]
  · simp [hmove]

/-- A special block is declared in the struct of its class. -/
theorem beginsLine_special {block : SpecialBlock} (hblock : block ∈ specialBlocks site.cls)
    {routine : Routine} (h : routine ∈ block.routines site.cls) :
    BeginsLine (setIn (routine.declaration.text ++ ";")) (structText api site publics privates) := by
  cases block with
  | construct init =>
    obtain rfl := List.mem_singleton.mp h
    have hinit : site.cls.init = some init := by
      simpa [specialBlocks] using hblock
    apply beginsLine_structText
    simp [structParts, constructorDeclarations, hinit]
  | transfer kind spec =>
    apply (beginsLine_takingDeclaration h).trans
    apply beginsLine_structText
    simp [structParts, takingDeclaration_mem hblock]

theorem beginsLine_underLabel {text : String} {texts : List String} {label : String} (hlabel : IsLabel label)
    (hends : ∀ text ∈ texts, EndsInLine text) (h : text ∈ texts) :
    ∃ part ∈ underLabel label "\n\n" texts, BeginsLine (setIn text) (setIn part) := by
  have hne : texts ≠ [] := List.ne_nil_of_mem h
  refine ⟨label ++ ("\n" ++ join "\n\n" texts), ?_, ?_⟩
  · rw [underLabel, if_neg hne]
    exact List.mem_singleton_self _
  · rw [setIn_label_append hlabel (EndsInLine.join hne hends).ne_empty, setIn_join hends]
    exact (beginsLine_join (List.mem_map_of_mem h)).prepend label

/-- The declaration of a function stands on its own line behind the comment, also where both are set in. -/
theorem beginsLine_declarationText (api : Api) (site : FunctionSite) :
    BeginsLine (setIn ((functionRoutine api site).declaration.text ++ ";"))
      (setIn (declarationText api site)) := by
  rw [declarationText, setIn_newline_append (endsInLine_docComment _) (endsInLine_semicolon _).ne_empty]
  exact beginsLine_newline_append _ _

theorem beginsLine_member {function : FunctionDecl} (h : function ∈ publics ++ privates) :
    BeginsLine (setIn ((functionRoutine api (site.member function)).declaration.text ++ ";"))
      (structText api site publics privates) := by
  have hends : ∀ functions : List FunctionDecl, ∀ text ∈
      functions.map (fun function ↦ declarationText api (site.member function)), EndsInLine text :=
    fun functions ↦ List.forall_mem_map.mpr fun function _ ↦ endsInLine_declarationText _ _
  have hsection : ∃ part ∈ functionSections api site publics privates,
      BeginsLine (setIn (declarationText api (site.member function))) (setIn part) := by
    rcases List.mem_append.mp h with hpublic | hprivate
    · obtain ⟨part, hpart, hbegins⟩ :=
        beginsLine_underLabel .isPublic (hends publics) (List.mem_map_of_mem hpublic)
      exact ⟨part, List.mem_append_left _ hpart, hbegins⟩
    · obtain ⟨part, hpart, hbegins⟩ :=
        beginsLine_underLabel .isPrivate (hends privates) (List.mem_map_of_mem hprivate)
      exact ⟨part, List.mem_append_right _ hpart, hbegins⟩
  obtain ⟨part, hpart, hbegins⟩ := hsection
  apply (beginsLine_declarationText api (site.member function)).trans
  apply hbegins.trans
  apply beginsLine_structText
  exact List.mem_append_left _ (List.mem_append_right _ hpart)

end Structs

/-! ## Items -/

/-- A special block begins with its constructor, and the assignment begins a line behind it. -/
theorem beginsLine_specialText {cls : ClassDecl} {block : SpecialBlock} {routine : Routine}
    (h : routine ∈ block.routines cls) (entries : Entries String) :
    BeginsLine routine.definition.text (block.text cls entries) := by
  cases block with
  | construct init =>
    obtain rfl := List.mem_singleton.mp h
    exact (beginsLine_append _ _).extend _
  | transfer kind spec =>
    rcases List.mem_cons.mp h with rfl | hmem
    · exact (beginsLine_append _ _).extend _
    · obtain rfl := List.mem_singleton.mp hmem
      have hassignment := (beginsLine_append
        (assignmentRoutine cls (takenParameter cls spec.other kind)).definition.text
        (braces (bodyText spec.body ++ "\n    return *this;"))).prepend
          ((SpecialBlock.transfer kind spec).opening cls ++ clauseText entries ++
            (braces (bodyText spec.body) ++ "\n"))
      have hline : "\n\n" = "\n" ++ "\n" := rfl
      rw [SpecialBlock.text, SpecialBlock.closing, hline]
      simpa only [String.append_assoc] using hassignment

/-- Every item states the signatures of what it declares and defines. -/
theorem statesSignatures (api : Api) (config : Config) (item : Item) : StatesSignatures api config item := by
  cases item with
  | struct site publics privates =>
    refine ⟨?_, ?_, List.forall_mem_nil _⟩
    · intro shown hshown
      obtain rfl := List.mem_singleton.mp hshown
      exact beginsLine_head api shown publics privates
    · intro routine hroutine
      rcases List.mem_append.mp hroutine with hfunction | hspecial
      · obtain ⟨member, hmember, rfl⟩ := List.mem_map.mp hfunction
        obtain ⟨function, hmem, rfl⟩ := List.mem_map.mp hmember
        exact beginsLine_member hmem
      · obtain ⟨special, hmem, hroutine⟩ := List.mem_flatMap.mp hspecial
        rw [Item.structs, List.flatMap_singleton] at hmem
        obtain ⟨block, hblock, rfl⟩ := List.mem_map.mp hmem
        exact beginsLine_special hblock hroutine
  | declaration site =>
    refine ⟨List.forall_mem_nil _, List.forall_mem_singleton.mpr ?_, List.forall_mem_nil _⟩
    exact beginsLine_newline_append _ _
  | definition site tested =>
    refine ⟨List.forall_mem_nil _, List.forall_mem_nil _, List.forall_mem_singleton.mpr ?_⟩
    exact beginsLine_append _ _
  | special site entries =>
    refine ⟨List.forall_mem_nil _, List.forall_mem_nil _, fun routine hroutine ↦ ?_⟩
    rw [Item.definedRoutines, Item.specials, List.flatMap_singleton] at hroutine
    exact beginsLine_specialText hroutine entries

end SourceGen.Emit
