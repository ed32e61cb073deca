import SourceGen.Proofs.Binding.Collected
import SourceGen.Proofs.Binding.Submodules
import SourceGen.Proofs.Binding.Units

/-!
# Where modules lead to

The module of a namespace should be reached from the group's by submodules that are named like the segments
of the namespace. Its variable joins the segments with underscores, which segments may hold themselves, and a
submodule whose variable is known is not declared again. So the names lead to the namespace exactly where no
two places on the way down have one variable.
-/

namespace SourceGen.Binding

open Spec Emit

variable {group : Group} {namespaces : Entries NamespaceContent} {statements : List Statement}

/-- The names of submodules that lead to a variable, each declared in the module before. -/
inductive LeadsTo (group : Group) (statements : List Statement) : String → List String → Prop where
  | root : LeadsTo group statements group.root [group.name]
  | submodule {var parent segment path : String} {segments : List String}
    (h : LeadsTo group statements parent segments)
    (hmem : .submodule var parent segment path ∈ statements) :
    LeadsTo group statements var (segments ++ [segment])

/-- No two places on the way down to namespaces have one variable. -/
def Unambiguous (group : Group) (namespaces : Entries NamespaceContent) : Prop :=
  ∀ entry ∈ namespaces, ∀ other ∈ namespaces, ∀ place place', place <+: below entry.1 →
    place' <+: below other.1 →
      moduleVariable group.root place = moduleVariable group.root place' → place = place'

/-! ## One name for one variable -/

/-- Of submodules that are told apart by their variables, one variable belongs to one declaration. -/
theorem eq_of_submodule? (hnodup : (submodulesOf statements).Nodup) {statement statement' : Statement}
    (hmem : statement ∈ statements) (hmem' : statement' ∈ statements) {var : String}
    (hvar : statement.submodule? = some var) (hvar' : statement'.submodule? = some var) :
    statement = statement' := by
  induction statements with
  | nil => cases hmem
  | cons first rest ih =>
    have hof : ∀ later ∈ rest, later.submodule? = some var → var ∈ submodulesOf rest :=
      fun later hlater heq ↦ List.mem_filterMap.mpr ⟨later, hlater, heq⟩
    have hfirst : first.submodule? = some var → var ∉ submodulesOf rest := by
      intro heq
      rw [submodulesOf, List.filterMap_cons_some heq] at hnodup
      exact (List.nodup_cons.mp hnodup).1
    have hrest : (submodulesOf rest).Nodup :=
      hnodup.sublist ((List.sublist_cons_self first rest).filterMap _)
    rcases List.mem_cons.mp hmem with rfl | hin
    · rcases List.mem_cons.mp hmem' with rfl | hin'
      · rfl
      · exact absurd (hof _ hin' hvar') (hfirst hvar)
    · rcases List.mem_cons.mp hmem' with rfl | hin'
      · exact absurd (hof _ hin hvar) (hfirst hvar')
      · exact ih hrest hin hin'

namespace LeadsTo

variable {var : String} {segments segments' : List String}

theorem mono {statements' : List Statement}
    (hstatements : ∀ var parent segment path, .submodule var parent segment path ∈ statements →
      .submodule var parent segment path ∈ statements')
    (h : LeadsTo group statements var segments) : LeadsTo group statements' var segments := by
  induction h with
  | root => exact .root
  | submodule _ hmem ih => exact .submodule ih (hstatements _ _ _ _ hmem)

theorem of_concat {segment : String} (h : LeadsTo group statements var (segments ++ [segment]))
    (hsegments : segments ≠ []) :
    ∃ parent path, LeadsTo group statements parent segments ∧
      .submodule var parent segment path ∈ statements := by
  generalize hall : segments ++ [segment] = all at h
  cases h with
  | root =>
    have hlength := congrArg List.length hall
    simp [hsegments] at hlength
  | submodule hparent hmem =>
    obtain ⟨rfl, heq⟩ := List.append_inj' hall rfl
    cases heq
    exact ⟨_, _, hparent, hmem⟩

/-- A variable that is declared once is led to in one way. -/
theorem unique (hnodup : (submodulesOf statements).Nodup) (hroot : group.root ∉ submodulesOf statements)
    (h : LeadsTo group statements var segments) (h' : LeadsTo group statements var segments') :
    segments = segments' := by
  have hdeclared : ∀ {var parent segment path : String},
      .submodule var parent segment path ∈ statements → var ∈ submodulesOf statements :=
    fun hmem ↦ List.mem_filterMap.mpr ⟨_, hmem, rfl⟩
  induction h generalizing segments' with
  | root =>
    cases h' with
    | root => rfl
    | submodule _ hmem => exact absurd (hdeclared hmem) hroot
  | submodule _ hmem ih =>
    cases h' with
    | root => exact absurd (hdeclared hmem) hroot
    | submodule hparent' hmem' =>
      cases eq_of_submodule? hnodup hmem hmem' rfl rfl
      rw [ih hparent']

end LeadsTo

/-! ## Submodules of a group -/

/-- A submodule of a group is declared for a place on the way down to some namespace. -/
theorem exists_place_of_mem_groupStatements {var parent segment path : String}
    (h : .submodule var parent segment path ∈ groupStatements group namespaces) :
    ∃ entry ∈ namespaces, ∃ place, place ++ [segment] <+: below entry.1 ∧
      parent = moduleVariable group.root place ∧
        var = moduleVariable group.root (place ++ [segment]) := by
  induction namespaces using List.reverseRecOn with
  | nil => cases h
  | append_singleton front last ih =>
    rw [groupStatements_append_singleton, namespaceStatements, List.mem_append, List.mem_append] at h
    rcases h with hfront | hmodules | hcontent
    · obtain ⟨entry, hentry, hplace⟩ := ih hfront
      exact ⟨entry, List.mem_append_left _ hentry, hplace⟩
    · exact ⟨last, by simp, exists_place_of_mem_submoduleStatements hmodules⟩
    · have hmem := List.mem_filterMap.mpr ⟨_, hcontent, (rfl : Statement.submodule? _ = some var)⟩
      rw [← submodulesOf, submodulesOf_contentStatements] at hmem
      cases hmem

/-- What leads to a namespace leads to every place on the way. -/
theorem leadsTo_of_isPrefix {segments place : List String}
    (h : LeadsTo group (groupStatements group namespaces) (moduleVariable group.root segments)
      (group.name :: segments)) (hplace : place <+: segments) :
    LeadsTo group (groupStatements group namespaces) (moduleVariable group.root place)
      (group.name :: place) := by
  induction segments using List.reverseRecOn with
  | nil =>
    rw [List.prefix_nil.mp hplace]
    exact .root
  | append_singleton front segment ih =>
    rcases List.prefix_concat_iff.mp hplace with rfl | hfront
    · exact h
    · rw [← List.cons_append] at h
      obtain ⟨parent, path, hparent, hmem⟩ := h.of_concat (List.cons_ne_nil _ _)
      obtain ⟨_, -, before, -, rfl, hvar⟩ := exists_place_of_mem_groupStatements hmem
      rw [moduleVariable_concat, moduleVariable_concat, String.append_left_inj,
        String.append_left_inj] at hvar
      exact ih (hvar ▸ hparent) hfront

/-- Every place on the way down to a namespace has its submodule declared. -/
theorem exists_submodule_of_place (group : Group) {entry : String × NamespaceContent}
    (hentry : entry ∈ namespaces)
    {place : List String} {segment : String} (hplace : place ++ [segment] <+: below entry.1) :
    ∃ parent name path, .submodule (moduleVariable group.root (place ++ [segment])) parent name path ∈
      groupStatements group namespaces := by
  have hvariable : moduleVariable group.root (place ++ [segment]) ∈ groupVariables group namespaces :=
    List.mem_flatMap.mpr ⟨entry, hentry, moduleVariable_mem_of_isPrefix hplace⟩
  rw [← mem_submodulesOf_groupStatements] at hvariable
  obtain ⟨statement, hmem, hvar⟩ := List.mem_filterMap.mp hvariable
  cases statement with
  | submodule var parent name path =>
    cases hvar
    exact ⟨parent, name, path, hmem⟩
  | _ => cases hvar

/-- Names lead to all namespaces exactly where no two places have one variable. -/
theorem forall_leadsTo_iff :
    (∀ entry ∈ namespaces, LeadsTo group (groupStatements group namespaces) (moduleOf group entry.1)
        (group.name :: below entry.1)) ↔ Unambiguous group namespaces := by
  have hnodup := nodup_submodulesOf_groupStatements group namespaces
  have hroot : group.root ∉ submodulesOf (groupStatements group namespaces) := by
    rw [mem_submodulesOf_groupStatements]
    exact root_not_mem_groupVariables group namespaces
  constructor
  · intro hleads entry hentry other hother place place' hplace hplace' heq
    have hto := leadsTo_of_isPrefix (hleads entry hentry) hplace
    have hto' := leadsTo_of_isPrefix (hleads other hother) hplace'
    rw [heq] at hto
    exact (List.cons.inj (hto.unique hnodup hroot hto')).2
  · intro hunambiguous entry hentry
    have hplaces : ∀ place, place <+: below entry.1 → LeadsTo group (groupStatements group namespaces)
        (moduleVariable group.root place) (group.name :: place) := by
      intro place
      induction place using List.reverseRecOn with
      | nil => exact fun _ ↦ .root
      | append_singleton front segment ih =>
        intro hplace
        obtain ⟨parent, name, path, hmem⟩ := exists_submodule_of_place group hentry hplace
        obtain ⟨other, hother, place', hplace', rfl, heq⟩ := exists_place_of_mem_groupStatements hmem
        -- Another place with this variable is the same place, so the submodule has the right name.
        have hsame := hunambiguous _ hentry _ hother _ _ hplace hplace' heq
        obtain ⟨rfl, hname⟩ := List.append_inj' hsame rfl
        cases hname
        exact .submodule (ih ((List.prefix_append _ _).trans hplace)) hmem
    exact hplaces _ List.prefix_rfl

/-! ## Segments without underscores -/

/-- Equal lists in which a mark does not stand behind the given place are cut there alike. -/
theorem append_cons_inj_of_not_mem {α : Type} {mark : α} {front front' back back' : List α}
    (hback : mark ∉ back) (hback' : mark ∉ back')
    (heq : front ++ mark :: back = front' ++ mark :: back') :
    front = front' ∧ back = back' := by
  have hmiddle : ∀ {middle ends ends' : List α}, mark ∉ ends →
      mark :: ends = middle ++ mark :: ends' → middle = [] := by
    intro middle ends ends' hends hsplit
    cases middle with
    | nil => rfl
    | cons first rest =>
      obtain ⟨-, hrest⟩ := List.cons.inj hsplit
      exact absurd (hrest ▸ List.mem_append_right rest List.mem_cons_self) hends
  rcases List.append_eq_append_iff.mp heq with ⟨middle, rfl, hsplit⟩ | ⟨middle, rfl, hsplit⟩
  · obtain rfl := hmiddle hback hsplit
    exact ⟨(List.append_nil _).symm, (List.cons.inj hsplit).2⟩
  · obtain rfl := hmiddle hback' hsplit
    exact ⟨List.append_nil _, (List.cons.inj hsplit).2.symm⟩

/-- Segments without an underscore can be read back from the variable. -/
theorem eq_of_moduleVariable_eq {module : String} {place place' : List String}
    (h : ∀ segment ∈ place, '_' ∉ segment.toList) (h' : ∀ segment ∈ place', '_' ∉ segment.toList)
    (heq : moduleVariable module place = moduleVariable module place') : place = place' := by
  induction place using List.reverseRecOn generalizing place' with
  | nil =>
    cases place' using List.reverseRecOn with
    | nil => rfl
    | append_singleton front segment =>
      exact absurd heq.symm (moduleVariable_concat_ne module front segment)
  | append_singleton front segment ih =>
    cases place' using List.reverseRecOn with
    | nil => exact absurd heq (moduleVariable_concat_ne module front segment)
    | append_singleton front' segment' =>
      simp only [List.forall_mem_append, List.forall_mem_singleton] at h h'
      have hchars : (moduleVariable module front).toList ++ '_' :: segment.toList =
          (moduleVariable module front').toList ++ '_' :: segment'.toList := by
        simpa [moduleVariable_concat] using congrArg String.toList heq
      obtain ⟨hfront, hsegment⟩ := append_cons_inj_of_not_mem h.2 h'.2 hchars
      rw [ih h.1 h'.1 (String.toList_inj.mp hfront), String.toList_inj.mp hsegment]

/-- Namespaces without an underscore in their segments have no two places with one variable. -/
theorem unambiguous_of_not_mem
    (h : ∀ entry ∈ namespaces, ∀ segment ∈ below entry.1, '_' ∉ segment.toList) :
    Unambiguous group namespaces := by
  intro entry hentry other hother place place' hplace hplace' heq
  refine eq_of_moduleVariable_eq (fun segment hsegment ↦ ?_) (fun segment hsegment ↦ ?_) heq
  · exact h entry hentry segment (hplace.subset hsegment)
  · exact h other hother segment (hplace'.subset hsegment)

/-! ## What stands in the modules -/

/-- Classes are declared in the module of their namespace, and nothing else there adds to a variable. -/
theorem parent_of_mem_contentStatements {module qualifier var : String} {content : NamespaceContent}
    {statement : Statement} (h : statement ∈ contentStatements group module qualifier content)
    (hvar : var ∈ statement.parent?) : var = module := by
  have hnone : ∀ {plain : List Statement}, declaredBy plain = [] → statement ∉ plain := by
    intro plain hplain hmem
    have hdeclares := List.filterMap_eq_nil_iff.mp hplain statement hmem
    cases statement <;> simp_all [Statement.declared?, Statement.parent?]
  rcases List.mem_append.mp h with hclass | hfunction
  · obtain ⟨cls, -, hcls⟩ := List.mem_flatMap.mp hclass
    rcases List.mem_cons.mp hcls with rfl | hbody
    · exact (Option.mem_some.mp hvar).symm
    · exact absurd hbody (hnone (declaredBy_classBody ..))
  · exact absurd hfunction (hnone (declaredBy_functions ..))

/-- What submodules and classes are added to is declared before. -/
theorem declaredBefore_parent_groupStatements {known : List String} (hroot : group.root ∈ known) :
    DeclaredBefore Statement.parent? known (groupStatements group namespaces) := by
  induction namespaces using List.reverseRecOn with
  | nil => trivial
  | append_singleton front entry ih =>
    rw [groupStatements_append_singleton, namespaceStatements, declaredBefore_append,
      declaredBefore_append]
    have hbefore := submodulesOf_subset_declaredBy (groupStatements group front)
    refine ⟨ih, declaredBefore_parent_submoduleStatements (List.mem_append_left _ hroot)
      (List.Subset.trans hbefore (List.subset_append_right _ _)), declaredBefore_of_forall ?_⟩
    intro statement hstatement var hvar
    rw [parent_of_mem_contentStatements hstatement hvar, declaredBy_submoduleStatements,
      List.append_assoc]
    rcases List.mem_cons.mp (moduleVariable_mem group.root (below entry.1)) with heq | hmem
    · exact List.mem_append_left _ (by rwa [moduleOf, heq])
    · have hmodule := (mem_submodulesOf_submoduleStatements (submodulesOf (groupStatements group front))
        group.root group.name (below entry.1)).mpr (.inr hmem)
      refine List.mem_append_right _ (List.append_subset.mpr ⟨?_, ?_⟩ hmodule)
      · exact List.Subset.trans hbefore (List.subset_append_left _ _)
      · exact List.subset_append_right _ _

theorem mem_groupStatements_of_content (group : Group) {entry : String × NamespaceContent}
    (hentry : entry ∈ namespaces) {statement : Statement}
    (h : statement ∈ contentStatements group (moduleOf group entry.1)
      (Text.join "::" (namespaceSegments entry.1)) entry.2) :
    statement ∈ groupStatements group namespaces := by
  induction namespaces using List.reverseRecOn with
  | nil => cases hentry
  | append_singleton front last ih =>
    rw [groupStatements_append_singleton]
    rcases List.mem_append.mp hentry with hfront | hlast
    · exact List.mem_append_left _ (ih hfront)
    · cases List.mem_singleton.mp hlast
      exact List.mem_append_right _ (List.mem_append_right _ h)

/-! ## Modules of a bound group -/

/-- What holds of the modules of a group, whatever its namespaces are called. -/
structure ModulesDeclared (group : Group) (namespaces : Entries NamespaceContent)
    (statements : List Statement) : Prop where
  once : (submodulesOf statements).Nodup
  needed : ∀ var, var ∈ submodulesOf statements ↔ var ∈ groupVariables group namespaces
  parents : DeclaredBefore Statement.parent? [group.root] statements
  classes : ∀ entry ∈ namespaces, ∀ cls ∈ entry.2.classes,
    .classOf (Binder.boundType group (Text.join "::" (namespaceSegments entry.1)) cls)
      (Binder.classVariable cls) (moduleOf group entry.1) cls.name ∈ statements
  functions : ∀ entry ∈ namespaces, ∀ function ∈ boundFunctions entry.2,
    function.operator.isSome = false → ∃ statement ∈ statements, statement.unnamed =
      namedStatement group (moduleOf group entry.1) (Text.join "::" (namespaceSegments entry.1)) function

/-- The modules of namespaces are named like them and told apart like them. -/
structure ModulesSpelled (group : Group) (namespaces : Entries NamespaceContent)
    (statements : List Statement) : Prop where
  leads : ∀ entry ∈ namespaces, namespaceSegments entry.1 ≠ [] →
    LeadsTo group statements (moduleOf group entry.1) (namespaceSegments entry.1)
  apart : ∀ entry ∈ namespaces, ∀ other ∈ namespaces, namespaceSegments entry.1 ≠ [] →
    namespaceSegments other.1 ≠ [] → (moduleOf group entry.1 = moduleOf group other.1 ↔
      namespaceSegments entry.1 = namespaceSegments other.1)

/-- A namespace of a group has the group for its outermost segment. -/
theorem namespaceSegments_eq {name : String} (hgroup : groupOf name = group.name)
    (hsegments : namespaceSegments name ≠ []) : namespaceSegments name = group.name :: below name := by
  rw [below]
  rw [groupOf] at hgroup
  cases hall : namespaceSegments name with
  | nil => exact absurd hall hsegments
  | cons first rest =>
    rw [hall] at hgroup
    exact congrArg (· :: rest) hgroup

section

variable {binder : Binder}

theorem modulesDeclared_of_bindGroup (hbound : (bindGroup group namespaces).result = .ok binder) :
    ModulesDeclared group namespaces binder.statements := by
  have hcollected := collected_bindGroup hbound
  have hvalues : ∀ statement ∈ binder.types.values, ∀ var ∈ statement.parent?, var ∈ [group.root] := by
    intro statement hstatement
    obtain ⟨type, rfl⟩ := hcollected.exists_of_mem_values hstatement
    simp [Statement.parent?]
  refine ⟨?_, fun var ↦ ?_, ?_, fun entry hentry cls hcls ↦ ?_,
    fun entry hentry function hfunction hname ↦ ?_⟩
  · rw [hcollected.submodulesOf_statements]
    exact nodup_submodulesOf_groupStatements group namespaces
  · rw [hcollected.submodulesOf_statements, mem_submodulesOf_groupStatements]
  · rw [hcollected.declaredBefore_statements_iff Statement.parent?_unnamed hvalues]
    exact declaredBefore_parent_groupStatements (by simp)
  · have hsorted : cls ∈ boundClasses entry.2 :=
      (boundClasses_perm (namespaceBindable_of_bindGroup hbound entry hentry)).mem_iff.mpr hcls
    refine hcollected.mem_statements_of_receiver?_eq_none ?_ rfl
    refine mem_groupStatements_of_content group hentry ?_
    exact List.mem_append_left _ (List.mem_flatMap.mpr ⟨cls, hsorted, List.mem_cons_self⟩)
  · refine hcollected.exists_mem_statements (mem_groupStatements_of_content group hentry ?_)
    refine List.mem_append_right _ (List.mem_flatMap.mpr ⟨function, hfunction, ?_⟩)
    simp [functionStatements, hname]

/-- The modules of a bound group are named like its namespaces and told apart like them exactly where no two
places on the way down have one variable. -/
theorem modulesSpelled_iff (hgroup : ∀ entry ∈ namespaces, groupOf entry.1 = group.name)
    (hbound : (bindGroup group namespaces).result = .ok binder) :
    ModulesSpelled group namespaces binder.statements ↔ Unambiguous group namespaces := by
  have hcollected := collected_bindGroup hbound
  have hdeclared := modulesDeclared_of_bindGroup hbound
  rw [← forall_leadsTo_iff]
  constructor
  · intro hspelled entry hentry
    cases hsegments : namespaceSegments entry.1 with
    | nil =>
      rw [moduleOf, below, hsegments]
      exact .root
    | cons first rest =>
      have hne : namespaceSegments entry.1 ≠ [] := by simp [hsegments]
      have hleads := hspelled.leads entry hentry hne
      rw [namespaceSegments_eq (hgroup entry hentry) hne] at hleads
      exact hleads.mono fun _ _ _ _ ↦ hcollected.submodule_mem_iff.mp
  · intro hall
    have hleads : ∀ entry ∈ namespaces, namespaceSegments entry.1 ≠ [] →
        LeadsTo group binder.statements (moduleOf group entry.1) (namespaceSegments entry.1) := by
      intro entry hentry hne
      rw [namespaceSegments_eq (hgroup entry hentry) hne]
      exact (hall entry hentry).mono fun _ _ _ _ ↦ hcollected.submodule_mem_iff.mpr
    have hroot : group.root ∉ submodulesOf binder.statements := by
      rw [hdeclared.needed]
      exact root_not_mem_groupVariables group namespaces
    refine ⟨hleads, fun entry hentry other hother hne hne' ↦ ⟨fun heq ↦ ?_, fun heq ↦ ?_⟩⟩
    · exact (heq ▸ hleads entry hentry hne).unique hdeclared.once hroot (hleads other hother hne')
    · rw [moduleOf, moduleOf, below, below, heq]

/-- The unit of a group reads as its statements. In these, submodules are declared once each and behind their
parents, and classes and functions stand in the module of their namespace. That module is named like the
namespace, and it is another one for another namespace, exactly where no two places on the way down have one
variable. So it is where no segment on the way holds an underscore. -/
theorem modules_spelled_iff_unambiguous (hgroup : ∀ entry ∈ namespaces, groupOf entry.1 = group.name)
    (hbound : (bindGroup group namespaces).result = .ok binder) :
    (∀ (state : Binder) (name : String),
        (state.moduleFor group (namespaceSegments name)).1 = moduleOf group name) ∧
      binder.unitText group = .ok (binder.unitContent group) ∧
        ModulesDeclared group namespaces binder.statements ∧
          (ModulesSpelled group namespaces binder.statements ↔ Unambiguous group namespaces) ∧
            ((∀ entry ∈ namespaces, ∀ segment ∈ below entry.1, '_' ∉ segment.toList) →
              ModulesSpelled group namespaces binder.statements) := by
  have hspelled := modulesSpelled_iff hgroup hbound
  exact ⟨fun state name ↦ state.moduleFor_fst group name, binder.unitText_eq_ok group,
    modulesDeclared_of_bindGroup hbound, hspelled, fun hplain ↦ hspelled.mpr (unambiguous_of_not_mem hplain)⟩

end

/-- A namespace in another one, each with a function. -/
def nestedNamespaces : Entries NamespaceContent :=
  [("a::b", .brief [{ name := some "f", out := .typed (some "double") "" }]),
    ("a::b::c", .brief [{ name := some "g", out := .typed (some "double") "" }])]

def nestedGroup : Group :=
  groupNamed { namespaces := .ofEntries nestedNamespaces } {} "a"

/-- What is bound of the two functions. -/
def nestedBinder : Binder :=
  { used := [("m_a_b", "f"), ("m_a_b_c", "g")]
    submodules := ["m_a_b", "m_a_b_c"]
    blocks := [
      [.submodule "m_a_b" "m_a" "b" "a"],
      [.define "m_a_b" { name := "f", params := [], body := .call "a::b::f" [], keywords := [],
                         description := "f ..." }],
      [.submodule "m_a_b_c" "m_a_b" "c" "a.b"],
      [.define "m_a_b_c" { name := "g", params := [], body := .call "a::b::c::g" [], keywords := [],
                           description := "g ..." }]] }

theorem modules_spelled_iff_unambiguous_nested :
    (∀ entry ∈ nestedNamespaces, groupOf entry.1 = nestedGroup.name) ∧
      (bindGroup nestedGroup nestedNamespaces).result = .ok nestedBinder ∧
        nestedBinder.unitText nestedGroup = .ok (nestedBinder.unitContent nestedGroup) ∧
          ModulesDeclared nestedGroup nestedNamespaces nestedBinder.statements ∧
            ModulesSpelled nestedGroup nestedNamespaces nestedBinder.statements := by
  have hgroup : ∀ entry ∈ nestedNamespaces, groupOf entry.1 = nestedGroup.name := by decide +kernel
  have hbound : (bindGroup nestedGroup nestedNamespaces).result = .ok nestedBinder := by decide +kernel
  have hplain : ∀ entry ∈ nestedNamespaces, ∀ segment ∈ below entry.1, '_' ∉ segment.toList := by
    decide +kernel
  obtain ⟨-, htext, hdeclared, -, hspelled⟩ := modules_spelled_iff_unambiguous hgroup hbound
  exact ⟨hgroup, hbound, htext, hdeclared, hspelled hplain⟩

/-- Two namespaces of one group, each with a function; a segment of the first reads like two of the second. -/
def underscoreNamespaces : Entries NamespaceContent :=
  [("a::b_c", .brief [{ name := some "f", out := .typed (some "double") "" }]),
    ("a::b::c", .brief [{ name := some "g", out := .typed (some "double") "" }])]

def underscoreGroup : Group :=
  groupNamed { namespaces := .ofEntries underscoreNamespaces } {} "a"

/-- The function `g` of the second namespace, as it is bound. -/
def underscoreMethod : Method :=
  { name := "g", params := [], body := .call "a::b::c::g" [], keywords := [], description := "g ..." }

/-- What is bound of the two functions. -/
def underscoreBinder : Binder :=
  { used := [("m_a_b_c", "f"), ("m_a_b_c", "g")]
    submodules := ["m_a_b_c", "m_a_b"]
    blocks := [
      [.submodule "m_a_b_c" "m_a" "b_c" "a"],
      [.define "m_a_b_c" { name := "f", params := [], body := .call "a::b_c::f" [], keywords := [],
                           description := "f ..." }],
      [.submodule "m_a_b" "m_a" "b" "a"],
      [.define "m_a_b_c" underscoreMethod]] }

/-- Two namespaces with other segments have one module, which is named like the first; the function of the
second is bound in it. -/
theorem underscore_shares_module :
    namespaceSegments "a::b_c" ≠ namespaceSegments "a::b::c" ∧
      (({} : Binder).moduleFor underscoreGroup (namespaceSegments "a::b_c")).1 =
          (underscoreBinder.moduleFor underscoreGroup (namespaceSegments "a::b::c")).1 ∧
        (bindGroup underscoreGroup underscoreNamespaces).result = .ok underscoreBinder ∧
          (∀ statement ∈ underscoreBinder.statements, statement.submodule? = some "m_a_b_c" →
              statement = .submodule "m_a_b_c" "m_a" "b_c" "a") ∧
            .define "m_a_b_c" underscoreMethod ∈ underscoreBinder.statements := by
  refine ⟨?_, ?_, ?_, ?_, ?_⟩
  · decide +kernel
  · decide +kernel
  · decide +kernel
  · decide +kernel
  · decide +kernel

end SourceGen.Binding
