import SourceGen.Proofs.Text.Characters
import SourceGen.Validation.ScalarType

/-!
# The grammar of scalar types

A scalar type is a path of identifiers with blanks or `::` between them, alone or with one list of template
arguments behind it. The machine that reads a name once accepts exactly these names, because at every point
its part tells the shape of what it has read.
-/

namespace SourceGen.Validation

open Text

/-! ## The grammar -/

/-- What may stand between two identifiers: blanks, or `::` with or without blanks around it. -/
inductive IsJoint : List Char → Prop where
  | blanks {cs : List Char} (hne : cs ≠ []) (hblank : Blank cs) : IsJoint cs
  | scope {before after : List Char} (hbefore : Blank before) (hafter : Blank after) :
    IsJoint (before ++ ':' :: ':' :: after)

/-- Identifiers with a joint between any two neighbours. -/
inductive IsTypePath : List Char → Prop where
  | single {name : List Char} (hname : isIdentifierChars name = true) : IsTypePath name
  | join {path joint name : List Char} (hpath : IsTypePath path) (hjoint : IsJoint joint)
    (hname : isIdentifierChars name = true) : IsTypePath (path ++ joint ++ name)

/-- A list of template arguments with what is between its brackets. -/
def IsTemplateList (cs : List Char) : Prop :=
  ∃ inner, inner ≠ [] ∧ (∀ c ∈ inner, isTemplateChar c = true) ∧ cs = '<' :: (inner ++ ['>'])

/-- A path of identifiers, and behind it at most one list of template arguments. -/
def IsScalarName (cs : List Char) : Prop :=
  ∃ path template, IsTypePath path ∧ (template = [] ∨ IsTemplateList template) ∧ cs = path ++ template

theorem IsTypePath.append {path : List Char} {c : Char} (hpath : IsTypePath path)
    (hc : isIdentifierChar c = true) : IsTypePath (path ++ [c]) := by
  cases hpath with
  | single hname => exact .single (isIdentifierChars_append hname hc)
  | join hfront hjoint hname =>
    rw [List.append_assoc _ _ [c]]
    exact .join hfront hjoint (isIdentifierChars_append hname hc)

theorem IsJoint.isTemplateChar_of_mem {joint : List Char} (h : IsJoint joint) {c : Char}
    (hc : c ∈ joint) : isTemplateChar c = true := by
  have hblank : ∀ {cs : List Char}, Blank cs → c ∈ cs → isTemplateChar c = true := fun hblank hmem ↦ by
    simp [isTemplateChar, hblank c hmem]
  cases h with
  | blanks hne hjoint => exact hblank hjoint hc
  | scope hbefore hafter =>
    simp only [List.mem_append, List.mem_cons] at hc
    rcases hc with hc | rfl | rfl | hc
    · exact hblank hbefore hc
    · rfl
    · rfl
    · exact hblank hafter hc

theorem IsTypePath.isTemplateChar_of_mem {path : List Char} (h : IsTypePath path) {c : Char}
    (hc : c ∈ path) : isTemplateChar c = true := by
  induction h with
  | single hname => simp [isTemplateChar, isIdentifierChar_of_mem hname hc]
  | join hpath hjoint hname ih =>
    simp only [List.mem_append] at hc
    rcases hc with (hc | hc) | hc
    · exact ih hc
    · exact hjoint.isTemplateChar_of_mem hc
    · simp [isTemplateChar, isIdentifierChar_of_mem hname hc]

/-- A scalar name has the characters of template arguments and angle brackets. -/
theorem IsScalarName.char_of_mem {cs : List Char} (h : IsScalarName cs) {c : Char} (hc : c ∈ cs) :
    isTemplateChar c = true ∨ c = '<' ∨ c = '>' := by
  obtain ⟨path, template, hpath, htemplate, rfl⟩ := h
  rcases List.mem_append.mp hc with hc | hc
  · exact .inl (hpath.isTemplateChar_of_mem hc)
  · rcases htemplate with rfl | ⟨inner, -, hinner, rfl⟩
    · cases hc
    · simp only [List.mem_cons, List.mem_append, List.not_mem_nil, or_false] at hc
      rcases hc with rfl | hc | rfl
      · exact .inr (.inl rfl)
      · exact .inl (hinner c hc)
      · exact .inr (.inr rfl)

/-! ## What has been read -/

/-- The text that the machine has read when it is in a part. -/
inductive HasRead : NamePart → List Char → Prop where
  | start : HasRead .start []
  | name {path : List Char} (hpath : IsTypePath path) : HasRead .name path
  | gap {path blanks : List Char} (hpath : IsTypePath path) (hne : blanks ≠ [])
    (hblank : Blank blanks) : HasRead .gap (path ++ blanks)
  | colon {path blanks : List Char} (hpath : IsTypePath path) (hblank : Blank blanks) :
    HasRead .colon (path ++ (blanks ++ [':']))
  | scope {path before after : List Char} (hpath : IsTypePath path) (hbefore : Blank before)
    (hafter : Blank after) : HasRead .scope (path ++ (before ++ ':' :: ':' :: after))
  | opened {path : List Char} (hpath : IsTypePath path) : HasRead .opened (path ++ ['<'])
  | inside {path inner : List Char} (hpath : IsTypePath path) (hne : inner ≠ [])
    (hinner : ∀ c ∈ inner, isTemplateChar c = true) : HasRead .inside (path ++ '<' :: inner)
  | closed {path template : List Char} (hpath : IsTypePath path)
    (htemplate : IsTemplateList template) : HasRead .closed (path ++ template)

/-- One more character leads from text to text. -/
theorem HasRead.next {part part' : NamePart} {cs : List Char} {c : Char} (h : HasRead part cs)
    (hnext : part.next c = some part') : HasRead part' (cs ++ [c]) := by
  cases h with
  | start =>
    simp only [NamePart.next, Option.ite_none_right_eq_some, Option.some.injEq] at hnext
    obtain ⟨hc, rfl⟩ := hnext
    exact .name (.single (by simp [isIdentifierChars, hc]))
  | name hpath =>
    simp only [NamePart.next] at hnext
    split at hnext
    · next hc =>
      cases hnext
      exact .name (hpath.append hc)
    · split at hnext
      · next hc =>
        cases hnext
        exact .gap hpath (List.cons_ne_nil c []) (by simpa [Blank] using hc)
      · split at hnext
        · next hc =>
          cases hnext
          subst hc
          exact .colon hpath blank_nil
        · simp only [Option.ite_none_right_eq_some, Option.some.injEq] at hnext
          obtain ⟨rfl, rfl⟩ := hnext
          exact .opened hpath
  | gap hpath hne hblank =>
    simp only [NamePart.next] at hnext
    rw [List.append_assoc]
    split at hnext
    · next hc =>
      cases hnext
      exact .gap hpath (by simp) (blank_append hblank hc)
    · split at hnext
      · next hc =>
        cases hnext
        subst hc
        exact .colon hpath hblank
      · simp only [Option.ite_none_right_eq_some, Option.some.injEq] at hnext
        obtain ⟨hc, rfl⟩ := hnext
        -- Only now the blanks turn out to be a joint.
        rw [← List.append_assoc]
        exact .name (.join hpath (.blanks hne hblank) (by simp [isIdentifierChars, hc]))
  | colon hpath hblank =>
    simp only [NamePart.next, Option.ite_none_right_eq_some, Option.some.injEq] at hnext
    obtain ⟨rfl, rfl⟩ := hnext
    simpa using HasRead.scope hpath hblank blank_nil
  | scope hpath hbefore hafter =>
    simp only [NamePart.next] at hnext
    split at hnext
    · next hc =>
      cases hnext
      simpa using HasRead.scope hpath hbefore (blank_append hafter hc)
    · simp only [Option.ite_none_right_eq_some, Option.some.injEq] at hnext
      obtain ⟨hc, rfl⟩ := hnext
      exact .name (.join hpath (.scope hbefore hafter) (by simp [isIdentifierChars, hc]))
  | opened hpath =>
    simp only [NamePart.next, Option.ite_none_right_eq_some, Option.some.injEq] at hnext
    obtain ⟨hc, rfl⟩ := hnext
    simpa using HasRead.inside hpath (List.cons_ne_nil c []) (by simpa using hc)
  | inside hpath hne hinner =>
    simp only [NamePart.next] at hnext
    rw [List.append_assoc, List.cons_append]
    split at hnext
    · next hc =>
      cases hnext
      refine .inside hpath (by simp) fun d hd ↦ ?_
      rcases List.mem_append.mp hd with hd | hd
      · exact hinner d hd
      · rw [List.mem_singleton.mp hd]
        exact hc
    · simp only [Option.ite_none_right_eq_some, Option.some.injEq] at hnext
      obtain ⟨rfl, rfl⟩ := hnext
      exact .closed hpath ⟨_, hne, hinner, rfl⟩
  | closed _ _ => cases hnext

/-- The way through a text from part to part. -/
def Leads (part : NamePart) (cs : List Char) (part' : NamePart) : Prop :=
  cs.foldlM NamePart.next part = some part'

theorem HasRead.leads {part part' : NamePart} {front cs : List Char} (h : HasRead part front)
    (hleads : Leads part cs part') : HasRead part' (front ++ cs) := by
  induction cs generalizing part front with
  | nil =>
    cases hleads
    rwa [List.append_nil]
  | cons c rest ih =>
    obtain ⟨between, hnext, hrest⟩ := Option.bind_eq_some_iff.mp hleads
    rw [List.append_cons]
    exact ih (h.next hnext) hrest

/-! ## What is read to the end -/

/-- An identifier may begin in this part. -/
def Begins (part : NamePart) : Prop :=
  ∀ c, isIdentifierStart c = true → part.next c = some .name

namespace Leads

variable {part between part' : NamePart} {cs ds : List Char} {c : Char}

theorem cons (hc : part.next c = some between) (hcs : Leads between cs part') :
    Leads part (c :: cs) part' := by
  rw [Leads, List.foldlM_cons, hc]
  exact hcs

theorem append (hcs : Leads part cs between) (hds : Leads between ds part') :
    Leads part (cs ++ ds) part' := by
  rw [Leads, List.foldlM_append, hcs]
  exact hds

theorem stay (h : ∀ c ∈ cs, part.next c = some part) : Leads part cs part := by
  induction cs with
  | nil => rfl
  | cons c rest ih =>
    exact cons (h c List.mem_cons_self) (ih fun d hd ↦ h d (List.mem_cons_of_mem c hd))

theorem identifier {name : List Char} (hpart : Begins part) (hname : isIdentifierChars name = true) :
    Leads part name .name := by
  cases name with
  | nil => cases hname
  | cons first rest =>
    simp only [isIdentifierChars, Bool.and_eq_true, List.all_eq_true] at hname
    refine cons (hpart first hname.1) (stay fun c hc ↦ ?_)
    simp only [NamePart.next, hname.2 c hc, if_true]

theorem blanks_of_gap {blanks : List Char} (h : Blank blanks) : Leads .gap blanks .gap := by
  refine stay fun c hc ↦ ?_
  simp only [NamePart.next, h c hc, if_true]

theorem blanks_of_name {blanks : List Char} (hne : blanks ≠ []) (h : Blank blanks) :
    Leads .name blanks .gap := by
  cases blanks with
  | nil => exact absurd rfl hne
  | cons first rest =>
    have hfirst := h first List.mem_cons_self
    have hnext : NamePart.next .name first = some .gap := by
      simp [NamePart.next, isIdentifierChar_of_isBlank hfirst, hfirst]
    exact cons hnext (blanks_of_gap fun c hc ↦ h c (List.mem_cons_of_mem first hc))

theorem scope {before after : List Char} (hbefore : Blank before) (hafter : Blank after) :
    Leads .name (before ++ ':' :: ':' :: after) .scope := by
  have hrest : Leads .colon (':' :: after) .scope := by
    refine cons rfl (stay fun c hc ↦ ?_)
    simp only [NamePart.next, hafter c hc, if_true]
  -- Blanks in front of the colons lead through the gap, their absence does not.
  by_cases hne : before = []
  · subst hne
    exact cons rfl hrest
  · exact (blanks_of_name hne hbefore).append (cons rfl hrest)

/-- Behind a joint the next identifier may begin. -/
theorem joint {joint : List Char} (h : IsJoint joint) :
    ∃ behind, Leads .name joint behind ∧ Begins behind := by
  cases h with
  | blanks hne hblank =>
    refine ⟨.gap, blanks_of_name hne hblank, fun c hc ↦ ?_⟩
    simp [NamePart.next, isBlank_of_isIdentifierStart hc, ne_colon_of_isIdentifierStart hc, hc]
  | scope hbefore hafter =>
    refine ⟨.scope, scope hbefore hafter, fun c hc ↦ ?_⟩
    simp [NamePart.next, isBlank_of_isIdentifierStart hc, hc]

theorem path {path : List Char} (h : IsTypePath path) : Leads .start path .name := by
  induction h with
  | single hname => exact identifier (fun c hc ↦ by simp [NamePart.next, hc]) hname
  | join _ hjoint hname ih =>
    obtain ⟨behind, hleads, hbegins⟩ := joint hjoint
    exact (ih.append hleads).append (identifier hbegins hname)

theorem template {template : List Char} (h : IsTemplateList template) : Leads .name template .closed := by
  obtain ⟨inner, hne, hinner, rfl⟩ := h
  have hclose : Leads .inside ['>'] .closed := rfl
  cases inner with
  | nil => exact absurd rfl hne
  | cons first rest =>
    have hfirst : NamePart.next .opened first = some .inside := by
      simp only [NamePart.next, hinner first List.mem_cons_self, if_true]
    refine cons rfl (cons hfirst (append (stay fun c hc ↦ ?_) hclose))
    simp only [NamePart.next, hinner c (List.mem_cons_of_mem first hc), if_true]

end Leads

/-- The machine accepts exactly the names of the grammar. -/
theorem isScalarChars_iff {cs : List Char} : isScalarChars cs = true ↔ IsScalarName cs := by
  rw [isScalarChars, Option.any_eq_true]
  constructor
  · rintro ⟨part, hleads, hend⟩
    have hread : HasRead part cs := HasRead.start.leads hleads
    cases hread with
    | name hpath => exact ⟨cs, [], hpath, .inl rfl, (List.append_nil cs).symm⟩
    | closed hpath htemplate => exact ⟨_, _, hpath, .inr htemplate, rfl⟩
    | _ => cases hend
  · rintro ⟨path, template, hpath, rfl | htemplate, rfl⟩
    · exact ⟨.name, (List.append_nil path).symm ▸ Leads.path hpath, rfl⟩
    · exact ⟨.closed, (Leads.path hpath).append (Leads.template htemplate), rfl⟩

end SourceGen.Validation
