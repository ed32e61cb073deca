import SourceGen.Proofs.Binding.Submodules
import SourceGen.Proofs.Binding.Units
import SourceGen.Validation.Rules

/-!
# What is defined on declared variables

A unit defines functions on the variables of its modules and classes, and operators on the class of their
result. All of these are declared before, but for the results that have no class: the variable of such an
operator is known only where something else happens to have it.
-/

namespace SourceGen.Binding

open Spec Validation

variable {group : Group} {namespaces : Entries NamespaceContent}

/-! ## Receivers of a namespace -/

/-- The types whose classes get the operators of a namespace for methods. -/
def operatorOwners (group : Group) (content : NamespaceContent) : List String :=
  (boundFunctions content).flatMap fun function ↦
    if function.operator.isSome then (operatorOwner? group function).toList else []

/-- What a bound class is given stands on its own variable. -/
theorem receiver_of_mem_classBody {selfType var : String} {cls : ClassDecl} {statement : Statement}
    (h : statement ∈ classBody group selfType cls) (hvar : var ∈ statement.receiver?) :
    var = Binder.classVariable cls := by
  rcases List.mem_append.mp h with hconstructor | hmember
  · rw [Binder.constructor?] at hconstructor
    split at hconstructor
    · cases hconstructor
    · cases List.mem_singleton.mp hconstructor
      exact (Option.mem_some.mp hvar).symm
  · obtain ⟨function, -, hfunction⟩ := List.mem_flatMap.mp hmember
    rw [memberStatements] at hfunction
    split at hfunction
    · cases List.mem_singleton.mp hfunction
      exact (Option.mem_some.mp hvar).symm
    · cases hfunction

theorem declaredBefore_receiver_classStatements (group : Group) (module qualifier : String)
    (cls : ClassDecl) (known : List String) :
    DeclaredBefore Statement.receiver? known (classStatements group module qualifier cls) := by
  refine ⟨by simp [Statement.receiver?], ?_⟩
  rw [declaredBefore_iff_of_declaredBy_eq_nil (declaredBy_classBody ..)]
  intro statement hstatement var hvar
  rw [receiver_of_mem_classBody hstatement hvar]
  simp [Statement.declared?]

/-- The functions of a namespace stand on the variable of its module or on that of an operator's owner. -/
theorem forall_receiver_functions_iff {module qualifier : String} {content : NamespaceContent}
    {known : List String} (hmodule : module ∈ known) :
    (∀ statement ∈ (boundFunctions content).flatMap (functionStatements group module qualifier),
        ∀ var ∈ statement.receiver?, var ∈ known) ↔
      ∀ owner ∈ operatorOwners group content, typeVariable owner ∈ known := by
  simp only [operatorOwners, List.forall_mem_flatMap]
  refine forall₂_congr fun function _ ↦ ?_
  rw [functionStatements, operatorStatements, operatorOwner?]
  cases function.operator.isSome with
  | false => simpa [namedStatement, Statement.receiver?] using hmodule
  | true =>
    cases Binder.operatorMethod group function with
    | error note => simp
    | ok method => simp [Statement.unnamed, Statement.receiver?]

/-! ## Receivers of a unit -/

/-- What a namespace declares before its functions, with what stands on its classes. -/
def namespaceDeclarations (group : Group) (before : List Statement)
    (entry : String × NamespaceContent) : List Statement :=
  submoduleStatements (submodulesOf before) group.root group.name (below entry.1) ++
    (boundClasses entry.2).flatMap
      (classStatements group (moduleOf group entry.1) (Text.join "::" (Emit.namespaceSegments entry.1)))

theorem namespaceStatements_eq (group : Group) (before : List Statement)
    (entry : String × NamespaceContent) :
    namespaceStatements group before entry = namespaceDeclarations group before entry ++
      (boundFunctions entry.2).flatMap (functionStatements group (moduleOf group entry.1)
        (Text.join "::" (Emit.namespaceSegments entry.1))) :=
  (List.append_assoc ..).symm

theorem declaredBefore_receiver_namespaceDeclarations (group : Group) (before : List Statement)
    (entry : String × NamespaceContent) (known : List String) :
    DeclaredBefore Statement.receiver? known (namespaceDeclarations group before entry) := by
  rw [namespaceDeclarations, declaredBefore_append]
  constructor
  · refine declaredBefore_of_forall fun statement hstatement ↦ ?_
    simp [receiver?_of_mem_submoduleStatements hstatement]
  · exact declaredBefore_flatMap fun cls _ ↦ declaredBefore_receiver_classStatements group _ _ cls

/-- Where the functions of a namespace begin, all that the namespaces up to it declare is known. -/
theorem declaredBefore_receiver_namespaceStatements {known : List String} (hroot : group.root ∈ known)
    (entry : String × NamespaceContent) :
    DeclaredBefore Statement.receiver? (known ++ declaredBy (groupStatements group namespaces))
        (namespaceStatements group (groupStatements group namespaces) entry) ↔
      ∀ owner ∈ operatorOwners group entry.2,
        typeVariable owner ∈ known ++ groupVariables group (namespaces ++ [entry]) := by
  have hknown : declaredBy (groupStatements group (namespaces ++ [entry])) =
      declaredBy (groupStatements group namespaces) ++
        declaredBy (namespaceDeclarations group (groupStatements group namespaces) entry) := by
    rw [groupStatements_append_singleton, declaredBy_append, namespaceStatements_eq,
      declaredBy_append, declaredBy_functions, List.append_nil]
  have hmodule : moduleOf group entry.1 ∈
      known ++ declaredBy (groupStatements group (namespaces ++ [entry])) := by
    rw [List.mem_append, mem_declaredBy_groupStatements]
    rcases List.mem_cons.mp (moduleVariable_mem group.root (below entry.1)) with heq | hmem
    · exact .inl (by rwa [moduleOf, heq])
    · exact .inr (.inl (List.mem_flatMap.mpr ⟨entry, by simp, hmem⟩))
  rw [namespaceStatements_eq, declaredBefore_append,
    and_iff_right (declaredBefore_receiver_namespaceDeclarations ..),
    declaredBefore_iff_of_declaredBy_eq_nil (declaredBy_functions ..), List.append_assoc, ← hknown,
    forall_receiver_functions_iff hmodule]
  refine forall₂_congr fun owner _ ↦ ?_
  rw [List.mem_append, List.mem_append, typeVariable_mem_declaredBy_iff]

theorem declaredBefore_receiver_groupStatements {known : List String} (hroot : group.root ∈ known) :
    DeclaredBefore Statement.receiver? known (groupStatements group namespaces) ↔
      ∀ front entry, front ++ [entry] <+: namespaces → ∀ owner ∈ operatorOwners group entry.2,
        typeVariable owner ∈ known ++ groupVariables group (front ++ [entry]) := by
  induction namespaces using List.reverseRecOn with
  | nil => simp [DeclaredBefore]
  | append_singleton before last ih =>
    rw [groupStatements_append_singleton, declaredBefore_append, ih,
      declaredBefore_receiver_namespaceStatements hroot]
    simp only [List.prefix_concat_iff]
    constructor
    · rintro ⟨hbefore, hlast⟩ front entry (heq | hprefix)
      · obtain ⟨rfl, hentry⟩ := List.append_inj' heq rfl
        cases hentry
        exact hlast
      · exact hbefore front entry hprefix
    · intro h
      exact ⟨fun front entry hprefix ↦ h front entry (.inr hprefix), h before last (.inl rfl)⟩

/-! ## Generated units -/

/-- Every operator that is bound and whose result has no class is bound on a variable known from elsewhere:
the module's, that of a class with the same last name, or that of a submodule up to its namespace. -/
def OwnersKnown (group : Group) (namespaces : Entries NamespaceContent) : Prop :=
  ∀ front entry, front ++ [entry] <+: namespaces → ∀ owner ∈ operatorOwners group entry.2,
    isClassType owner = false → typeVariable owner ∈
      group.root :: (unitTypes group namespaces).map typeVariable ++ groupVariables group (front ++ [entry])

theorem mem_unitTypes_of_operatorOwner {entry : String × NamespaceContent} (hentry : entry ∈ namespaces)
    {owner : String} (howner : owner ∈ operatorOwners group entry.2) (hclass : isClassType owner = true) :
    owner ∈ unitTypes group namespaces := by
  obtain ⟨function, hfunction, hof⟩ := List.mem_flatMap.mp howner
  rw [unitTypes, mem_distinct, List.mem_filter]
  refine ⟨List.mem_flatMap.mpr ⟨entry, hentry, List.mem_append_right _ ?_⟩, hclass⟩
  exact List.mem_flatMap.mpr ⟨function, hfunction, List.mem_append_right _ hof⟩

/-- In a unit everything is defined on a variable that is declared before, exactly where this holds of the
operators whose results have no class. -/
theorem receivers_declared_iff {api : Api} {config : Config} {files : Entries SourceFile}
    (hfiles : (Binding.files api config).result = .ok files) {name : String} {file : SourceFile}
    (hfile : (unitFile name, file) ∈ files) :
    ∃ namespaces binder, IsUnit api config name file namespaces binder ∧
      (DeclaredBefore Statement.receiver? [(groupNamed api config name).root] binder.statements ↔
        OwnersKnown (groupNamed api config name) namespaces) := by
  obtain ⟨namespaces, binder, hunit⟩ := exists_isUnit hfiles hfile
  refine ⟨namespaces, binder, hunit, ?_⟩
  have hcollected := collected_bindGroup hunit.bound
  have hvalues : ∀ statement ∈ binder.types.values, ∀ var ∈ statement.receiver?,
      var ∈ [(groupNamed api config name).root] := by
    intro statement hstatement
    obtain ⟨type, rfl⟩ := hcollected.exists_of_mem_values hstatement
    simp [Statement.receiver?]
  rw [hcollected.declaredBefore_statements_iff Statement.receiver?_unnamed hvalues,
    declaredBefore_receiver_groupStatements (by simp), ← unitTypes]
  refine forall₃_congr fun front entry hprefix ↦ forall₂_congr fun owner howner ↦ ?_
  constructor
  · exact fun hknown _ ↦ hknown
  · intro hknown
    cases hclass : isClassType owner with
    | false => exact hknown hclass
    | true =>
      have hentry := hprefix.subset (List.mem_append_right front List.mem_cons_self)
      have htype := mem_unitTypes_of_operatorOwner hentry howner hclass
      exact List.mem_append_left _ (List.mem_cons_of_mem _ (List.mem_map_of_mem htype))

/-- A minus sign of one operand whose result is a built-in type. -/
def negation : FunctionDecl :=
  { operator := some "-"
    args := [{ name := "a", type := "double" }]
    out := .typed (some "double") "return -a;" }

def negationApi : Api :=
  { namespaces := .ofEntries [("math", .full [negation] [])] }

/-- What is bound of the minus sign. -/
def negationBinder : Binder :=
  { blocks := [[.define "m_double"
      { name := "__neg__", params := [⟨"double", "a"⟩], body := .unary "-" "a", keywords := []
        description := "__neg__ ..." }]] }

def negationUnit : SourceFile :=
  unitOf negationApi {} "math" negationBinder

def negationFiles : Entries SourceFile :=
  [(bindingHeader, { content := headerText negationApi {} }), (unitFile "math", negationUnit)]

theorem result_files_negation : (Binding.files negationApi {}).result = .ok negationFiles := by
  have hgroups : (groups negationApi).entries = [("math", negationApi.namespaces.entries)] := by
    decide +kernel
  exact result_files_of_groups_eq hgroups (by decide +kernel)

theorem receivers_declared_iff_negation :
    ((Binding.files negationApi {}).result = .ok negationFiles ∧
        (unitFile "math", negationUnit) ∈ negationFiles) ∧
      ∃ namespaces binder, IsUnit negationApi {} "math" negationUnit namespaces binder ∧
        (DeclaredBefore Statement.receiver? [(groupNamed negationApi {} "math").root] binder.statements ↔
          OwnersKnown (groupNamed negationApi {} "math") namespaces) := by
  have hunit : (unitFile "math", negationUnit) ∈ negationFiles := by simp [negationFiles]
  exact ⟨⟨result_files_negation, hunit⟩, receivers_declared_iff result_files_negation hunit⟩

/-- Validation accepts the minus sign, and its unit defines it on a variable that nothing declares. -/
theorem negation_defined_on_undeclared :
    (validate { api := some negationApi }).entries = [] ∧
      (Binding.files negationApi {}).result = .ok negationFiles ∧
        IsUnit negationApi {} "math" negationUnit negationApi.namespaces.entries negationBinder ∧
          ¬ DeclaredBefore Statement.receiver? [(groupNamed negationApi {} "math").root]
            negationBinder.statements := by
  refine ⟨by decide +kernel, result_files_negation, ⟨?_, ?_, rfl⟩, by decide +kernel⟩
  · decide +kernel
  · decide +kernel

end SourceGen.Binding
