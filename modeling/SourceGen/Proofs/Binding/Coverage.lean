import SourceGen.Proofs.Binding.Definitions
import SourceGen.Validation.Rules

/-!
# Every function is bound once

The groups hold the namespaces of an interface without loss or repetition, so what their units define is
what the functions of the interface amount to, and what they declare is its classes and the types that
results need. A type that has the name of a bound class is declared again only where an operator returns it.
-/

namespace SourceGen.Binding

open Spec Emit ClassGraph Validation

variable {api : Api} {config : Config} {binders : Entries Binder}

/-! ## All units together -/

/-- What the units hold of their namespaces is what the interface has, each in the unit of its group. -/
theorem flatMap_binders_perm {α : Type} (hkeys : binders.keys = groupNames api)
    {own : String × Binder → List α} (added : String → String × NamespaceContent → List α)
    (h : ∀ entry ∈ binders, (own entry).Perm ((namespacesOf api entry.1).flatMap (added entry.1))) :
    (binders.flatMap own).Perm
      (api.namespaces.entries.flatMap fun entry ↦ added (groupOf entry.1) entry) := by
  have hgroup : ∀ name, (namespacesOf api name).flatMap (added name) =
      (withGroup api.namespaces.entries name).flatMap fun entry ↦ added (groupOf entry.1) entry := by
    intro name
    refine List.flatMap_congr fun entry hentry ↦ ?_
    have hname := (List.mem_filter.mp hentry).2
    rw [of_decide_eq_true hname]
  calc
    List.Perm (binders.flatMap own)
        (binders.flatMap fun entry ↦ (namespacesOf api entry.1).flatMap (added entry.1)) :=
      List.Perm.flatMap_left _ h
    _ = binders.keys.flatMap fun name ↦ (namespacesOf api name).flatMap (added name) := by
      rw [Entries.keys, List.flatMap_map]
    _ = ((groupNames api).flatMap (withGroup api.namespaces.entries)).flatMap
        fun entry ↦ added (groupOf entry.1) entry := by
      simp only [hkeys, hgroup, List.flatMap_assoc]
    List.Perm _ _ := by
      rw [groupNames_eq]
      exact (flatMap_withGroup_perm api.namespaces.entries).flatMap_right _

/-! ## Functions -/

/-- The functions of an interface that are to be bound. -/
def boundSites (api : Api) : List FunctionSite :=
  api.functionSites.filter isBoundSite

/-- The group that binds a function. -/
def siteGroup (api : Api) (config : Config) (site : FunctionSite) : Group :=
  groupNamed api config (groupOf site.namespaceName)

/-- The definitions of all units, each with the group of its unit. -/
def allDefinitions (binders : Entries Binder) : List (String × Statement) :=
  binders.flatMap fun entry ↦ (definitionsOf entry.2.statements).map (entry.1, ·)

theorem allDefinitions_perm (hkeys : binders.keys = groupNames api)
    (hbinds : BindsGroups api config binders) :
    (allDefinitions binders).Perm ((boundSites api).flatMap fun site ↦
      (siteStatements (siteGroup api config site) site).map (groupOf site.namespaceName, ·)) := by
  let added (name : String) (entry : String × NamespaceContent) : List (String × Statement) :=
    (((contentFunctions entry.1 entry.2).filter isBoundSite).flatMap
      (siteStatements (groupNamed api config name))).map (name, ·)
  have hunits : ∀ entry ∈ binders, ((definitionsOf entry.2.statements).map (entry.1, ·)).Perm
      ((namespacesOf api entry.1).flatMap (added entry.1)) := by
    intro entry hentry
    rw [definitionsOf_statements (hbinds entry hentry), List.map_flatMap]
    refine List.Perm.flatMap_left _ fun content hcontent ↦ ?_
    exact (definitionsOf_entryStatements_perm
      (namespaceBindable_of_bindGroup (hbinds entry hentry) content hcontent)).map _
  refine (flatMap_binders_perm hkeys added hunits).trans (List.Perm.of_eq ?_)
  rw [boundSites, Api.functionSites, List.filter_flatMap, List.flatMap_assoc]
  refine List.flatMap_congr fun entry _ ↦ ?_
  simp only [added, List.map_flatMap]
  refine List.flatMap_congr fun site hsite ↦ ?_
  rw [siteGroup, namespaceName_of_mem_contentFunctions (List.mem_filter.mp hsite).1]

/-- The special method for an operator outside of classes, in the form that its first operand asks for. -/
def freeMethod? (group : Group) (function : FunctionDecl) (symbol : String) : Option String :=
  if Binder.isReflected (group.params function.parameters function.args) (resultType group function)
  then reflectedMethod? symbol
  else specialMethod? symbol (group.params function.parameters function.args).length

/-- The special method for the symbol of an operator in the form in which it would be bound. -/
def methodFor? (group : Group) (site : FunctionSite) (symbol : String) : Option String :=
  match site.owner with
  | some _ => specialMethod? symbol (site.function.args.length + 1)
  | none => freeMethod? group site.function symbol

theorem operatorMethod_eq_ok_or (group : Group) {function : FunctionDecl} {symbol : String}
    (hoperator : function.operator = some symbol) :
    (∃ method, Binder.operatorMethod group function = .ok method) ∨
      (∃ note, Binder.operatorMethod group function = .error note) ∧
        freeMethod? group function symbol = none := by
  unfold Binder.operatorMethod freeMethod? resultType
  rw [hoperator, Option.getD_some]
  dsimp only
  split
  · cases reflectedMethod? symbol with
    | none => exact .inr ⟨⟨_, rfl⟩, rfl⟩
    | some name => exact .inl ⟨_, rfl⟩
  · cases specialMethod? symbol (group.params function.parameters function.args).length with
    | none => exact .inr ⟨⟨_, rfl⟩, rfl⟩
    | some name => exact .inl ⟨_, rfl⟩

theorem namedOnce_of_mem_contentFunctions {name : String} {content : NamespaceContent}
    (h : NamespaceBindable content) {site : FunctionSite} (hsite : site ∈ contentFunctions name content) :
    NamedOnce site.function := by
  rcases List.mem_append.mp hsite with hfree | hmember
  · obtain ⟨function, hfunction, rfl⟩ := List.mem_map.mp hfree
    exact h.functions function hfunction
  · obtain ⟨classSite, hclass, hfunction⟩ := List.mem_flatMap.mp hmember
    obtain ⟨cls, hcls, rfl⟩ := List.mem_map.mp hclass
    obtain ⟨function, hmem, rfl⟩ := List.mem_map.mp hfunction
    exact h.classes cls hcls function hmem

section Sites

variable {group : Group} {site : FunctionSite}

/-- A function with a name is bound. -/
theorem exists_siteStatements_of_named (hnamed : NamedOnce site.function)
    (hoperator : site.function.operator = none) :
    ∃ receiver method, siteStatements group site = [.define receiver method] := by
  obtain ⟨name, hname⟩ : ∃ name, site.function.name = some name := by
    rcases hnamed with ⟨hname, -⟩ | ⟨-, hsome⟩
    · exact Option.isSome_iff_exists.mp hname
    · rw [hoperator] at hsome
      cases hsome
  rw [siteStatements]
  cases site.owner with
  | none =>
    simp only [functionStatements, hoperator]
    exact ⟨_, _, rfl⟩
  | some cls =>
    simp only [memberStatements, Binder.memberBody, hname]
    exact ⟨_, _, rfl⟩

/-- An operator is bound unless there is no method for it. -/
theorem siteStatements_of_operator (hnamed : NamedOnce site.function) {symbol : String}
    (hoperator : site.function.operator = some symbol) :
    (∃ receiver method, siteStatements group site = [.define receiver method]) ∨
      siteStatements group site = [] ∧ methodFor? group site symbol = none := by
  have hname : site.function.name = none := by
    rcases hnamed with ⟨-, hnone⟩ | ⟨hname, -⟩
    · rw [hoperator] at hnone
      cases hnone
    · exact hname
  rw [siteStatements, methodFor?]
  cases site.owner with
  | none =>
    simp only [functionStatements, hoperator, Option.isSome_some, if_true, operatorStatements]
    obtain ⟨method, hmethod⟩ | ⟨⟨note, hnote⟩, hnone⟩ := operatorMethod_eq_ok_or group hoperator
    · rw [hmethod]
      exact .inl ⟨_, _, rfl⟩
    · rw [hnote]
      exact .inr ⟨rfl, hnone⟩
  | some cls =>
    simp only [memberStatements, Binder.memberBody, hname, hoperator, List.length_map]
    cases specialMethod? symbol (site.function.args.length + 1) with
    | none => exact .inr ⟨rfl, rfl⟩
    | some method => exact .inl ⟨_, _, rfl⟩

end Sites

/-! ## Classes -/

/-- The declarations of classes in all units, each with the group of its unit. -/
def allClasses (binders : Entries Binder) : List (String × Statement) :=
  binders.flatMap fun entry ↦ (classesOf entry.2.statements).map (entry.1, ·)

/-- The classes that a unit declares for types, with its group. -/
def typeClasses (api : Api) (config : Config) (name : String) : List (String × Statement) :=
  (unitTypes (groupNamed api config name) (namespacesOf api name)).map fun type ↦
    (name, typeStatement (groupNamed api config name) type)

theorem allClasses_perm (hkeys : binders.keys = groupNames api) (hbinds : BindsGroups api config binders) :
    (allClasses binders).Perm ((groupNames api).flatMap (typeClasses api config) ++
      api.classSites.map fun site ↦ (groupOf site.namespaceName,
        classStatement (groupNamed api config (groupOf site.namespaceName)) site)) := by
  -- A unit declares classes for types too, which no single namespace adds; they are split off first.
  let added (name : String) (entry : String × NamespaceContent) : List (String × Statement) :=
    (contentClasses entry.1 entry.2).map fun site ↦
      (name, classStatement (groupNamed api config name) site)
  have hsplit : allClasses binders = binders.flatMap fun entry ↦ typeClasses api config entry.1 ++
      ((namespacesOf api entry.1).flatMap fun content ↦
        classesOf (entryStatements (groupNamed api config entry.1) content)).map (entry.1, ·) := by
    refine List.flatMap_congr fun entry hentry ↦ ?_
    rw [classesOf_statements (hbinds entry hentry), List.map_append, List.map_map]
    rfl
  have hunits : ∀ entry ∈ binders, (((namespacesOf api entry.1).flatMap fun content ↦
      classesOf (entryStatements (groupNamed api config entry.1) content)).map (entry.1, ·)).Perm
        ((namespacesOf api entry.1).flatMap (added entry.1)) := by
    intro entry hentry
    rw [List.map_flatMap]
    refine List.Perm.flatMap_left _ fun content hcontent ↦ ?_
    have hperm := boundClasses_perm
      (namespaceBindable_of_bindGroup (hbinds entry hentry) content hcontent)
    simp only [added, contentClasses, classesOf_entryStatements, List.map_map]
    exact hperm.map _
  have htypes : binders.flatMap (fun entry ↦ typeClasses api config entry.1) =
      (groupNames api).flatMap (typeClasses api config) := by
    rw [← hkeys, Entries.keys, List.flatMap_map]
  have hsites : (api.namespaces.entries.flatMap fun entry ↦ added (groupOf entry.1) entry) =
      api.classSites.map fun site ↦ (groupOf site.namespaceName,
        classStatement (groupNamed api config (groupOf site.namespaceName)) site) := by
    rw [Api.classSites, List.map_flatMap]
    refine List.flatMap_congr fun entry _ ↦ ?_
    simp only [added, contentClasses, List.map_map]
    rfl
  rw [hsplit, ← htypes, ← hsites]
  exact (List.flatMap_append_perm ..).symm.trans
    ((flatMap_binders_perm hkeys added hunits).append_left _)

/-- The classes of a namespace are bound in an order in which requirements come first. -/
theorem boundClasses_isEmissionOrder {content : NamespaceContent} (h : NamespaceBindable content) :
    ∃ order, IsEmissionOrder content.classes order ∧
      (boundClasses content).map some = order.map (content.classes[·]?) := by
  obtain ⟨sorted, order, hresult, -, hemission, hsorted⟩ := orderClasses_of_acyclic h.acyclic
  refine ⟨order, hemission, ?_⟩
  rw [boundClasses, hresult]
  exact hsorted

theorem mem_excluded_of_mem_classSites {group : Group} {site : ClassSite}
    (h : site ∈ group.api.classSites) : "m_" ++ site.cls.name ∈ group.excluded := by
  obtain ⟨entry, hentry, hsite⟩ := List.mem_flatMap.mp h
  obtain ⟨cls, hcls, rfl⟩ := List.mem_map.mp hsite
  refine List.mem_append_right _ (List.mem_flatMap.mpr ⟨entry.2, ?_, ?_⟩)
  · exact List.mem_map_of_mem hentry
  · exact List.mem_map.mpr ⟨cls, hcls, rfl⟩

theorem typeVariable_not_mem_excluded {group : Group} {outType type : String}
    (h : type ∈ registeredTypes group outType) : typeVariable type ∉ group.excluded := by
  rw [registeredTypes] at h
  split at h
  · cases h
  · next hvariable =>
    obtain rfl := List.mem_singleton.mp h
    exact hvariable

/-- A class that is not to be declared for a type is declared where an operator needs it. -/
theorem mem_unitTypes_iff_of_excluded {group : Group} {namespaces : Entries NamespaceContent}
    {type : String} (hexcluded : typeVariable type ∈ group.excluded) :
    type ∈ unitTypes group namespaces ↔ isClassType type = true ∧ ∃ entry ∈ namespaces,
      ∃ function ∈ boundFunctions entry.2, function.operator.isSome = true ∧
        operatorOwner? group function = some type := by
  have hclass : ∀ cls, type ∉ classTypes group cls := by
    intro cls hmem
    obtain ⟨function, -, hfunction⟩ := List.mem_flatMap.mp hmem
    exact typeVariable_not_mem_excluded hfunction hexcluded
  have hfunction : ∀ function, type ∈ functionTypes group function ↔
      function.operator.isSome = true ∧ operatorOwner? group function = some type := by
    intro function
    have hregistered : type ∉ registeredTypes group (group.outType function.parameters function) :=
      fun hmem ↦ typeVariable_not_mem_excluded hmem hexcluded
    rw [functionTypes, List.mem_append, or_iff_right hregistered]
    cases function.operator.isSome <;> simp [eq_comm]
  simp only [unitTypes, mem_distinct, List.mem_filter, List.mem_flatMap, contentTypes, List.mem_append,
    hclass, hfunction, and_false, exists_false, false_or]
  rw [and_comm]

/-! ## The units -/

/-- Every function that is to be bound is defined as it should be in the unit of its group, and nothing
else is defined. A function with a name has one definition; an operator has one, or it has none because
there is no method for it. -/
structure BindsFunctions (api : Api) (config : Config) (binders : Entries Binder) : Prop where
  defined : (allDefinitions binders).Perm ((boundSites api).flatMap fun site ↦
    (siteStatements (siteGroup api config site) site).map (groupOf site.namespaceName, ·))
  named : ∀ site ∈ boundSites api, site.function.operator = none → ∃ receiver method,
    siteStatements (siteGroup api config site) site = [.define receiver method]
  operators : ∀ site ∈ boundSites api, ∀ symbol, site.function.operator = some symbol →
    (∃ receiver method, siteStatements (siteGroup api config site) site = [.define receiver method]) ∨
      siteStatements (siteGroup api config site) site = [] ∧
        methodFor? (siteGroup api config site) site symbol = none

/-- Every class has one declaration of its own, in the unit of its group and behind those of the classes it
requires. The others are declared for types; a type with the name of a class gets one in a unit exactly if
an operator that is bound there returns it. -/
structure BindsClasses (api : Api) (config : Config) (binders : Entries Binder) : Prop where
  declared : (allClasses binders).Perm ((groupNames api).flatMap (typeClasses api config) ++
    api.classSites.map fun site ↦ (groupOf site.namespaceName,
      classStatement (groupNamed api config (groupOf site.namespaceName)) site))
  ordered : ∀ entry ∈ binders, classesOf entry.2.statements =
    (unitTypes (groupNamed api config entry.1) (namespacesOf api entry.1)).map
        (typeStatement (groupNamed api config entry.1)) ++
      (namespacesOf api entry.1).flatMap fun content ↦ (boundClasses content.2).map fun cls ↦
        classStatement (groupNamed api config entry.1) ⟨content.1, cls⟩
  requirements : ∀ entry ∈ api.namespaces.entries, ∃ order, IsEmissionOrder entry.2.classes order ∧
    (boundClasses entry.2).map some = order.map (entry.2.classes[·]?)
  again : ∀ site ∈ api.classSites, ∀ name type, typeVariable type = "m_" ++ site.cls.name →
    (type ∈ unitTypes (groupNamed api config name) (namespacesOf api name) ↔ isClassType type = true ∧
      ∃ entry ∈ namespacesOf api name, ∃ function ∈ boundFunctions entry.2,
        function.operator.isSome = true ∧
          operatorOwner? (groupNamed api config name) function = some type)

theorem bindsFunctions (hkeys : binders.keys = groupNames api) (hbinds : BindsGroups api config binders)
    (hbindable : ∀ entry ∈ api.namespaces.entries, NamespaceBindable entry.2) :
    BindsFunctions api config binders := by
  have hnamed : ∀ site ∈ boundSites api, NamedOnce site.function := by
    intro site hsite
    obtain ⟨entry, hentry, hmem⟩ := List.mem_flatMap.mp (List.mem_filter.mp hsite).1
    exact namedOnce_of_mem_contentFunctions (hbindable entry hentry) hmem
  exact ⟨allDefinitions_perm hkeys hbinds,
    fun site hsite ↦ exists_siteStatements_of_named (hnamed site hsite),
    fun site hsite _ ↦ siteStatements_of_operator (hnamed site hsite)⟩

theorem bindsClasses (hkeys : binders.keys = groupNames api) (hbinds : BindsGroups api config binders)
    (hbindable : ∀ entry ∈ api.namespaces.entries, NamespaceBindable entry.2) :
    BindsClasses api config binders where
  declared := allClasses_perm hkeys hbinds
  ordered entry hentry := by
    rw [classesOf_statements (hbinds entry hentry)]
    simp only [classesOf_entryStatements]
  requirements entry hentry := boundClasses_isEmissionOrder (hbindable entry hentry)
  again _ hsite name _ hvariable :=
    mem_unitTypes_iff_of_excluded (hvariable ▸ mem_excluded_of_mem_classSites hsite)

/-- There is a unit for each group. Each function that is to be bound is bound once, in the unit of its group,
but for operators without a method, and each class has one declaration of its own. -/
theorem bindings_complete {files : Entries SourceFile} (h : (Binding.files api config).result = .ok files) :
    ∃ binders : Entries Binder, binders.keys = groupNames api ∧
      files = (bindingHeader, { content := headerText api config }) :: unitsOf api config binders ∧
        BindsFunctions api config binders ∧ BindsClasses api config binders := by
  obtain ⟨binders, hkeys, hbinds, hfiles⟩ := exists_binders h
  have hbindable : ∀ entry ∈ api.namespaces.entries, NamespaceBindable entry.2 := by
    have hnone : failure? (Binding.files api config).result = none := by rw [h, failure?_ok]
    exact fun entry ↦ failure?_files_eq_none_iff.mp hnone entry.1 entry.2
  exact ⟨binders, hkeys, hfiles, bindsFunctions hkeys hbinds hbindable,
    bindsClasses hkeys hbinds hbindable⟩

/-- A class and an operator that returns it. -/
def vectorsApi : Api :=
  { namespaces := .ofEntries [("g", .full
      [{ operator := some "+"
         args := [{ name := "a", type := "g::Vec" }, { name := "b", type := "g::Vec" }]
         out := .typed (some "g::Vec") "return a;" }]
      [{ name := "Vec" }])] }

/-- What is bound of the class and the operator. -/
def vectorsBinder : Binder :=
  { types := .ofEntries [("g::Vec", .classOf "g::Vec" "m_Vec" "m_g" "Vec")]
    blocks := [[.classOf "g::Vec" "cls_Vec" "m_g" "Vec"],
      [.define "m_Vec"
        { name := "__add__", params := [⟨"g::Vec", "a"⟩, ⟨"g::Vec", "b"⟩], body := .chain "+" ["a", "b"]
          keywords := [⟨"b", none⟩], description := "__add__ ..." }]] }

def vectorsFiles : Entries SourceFile :=
  [(bindingHeader, { content := headerText vectorsApi {} }),
    (unitFile "g", unitOf vectorsApi {} "g" vectorsBinder)]

theorem result_files_vectors : (Binding.files vectorsApi {}).result = .ok vectorsFiles := by
  have hgroups : (groups vectorsApi).entries = [("g", vectorsApi.namespaces.entries)] := by
    decide +kernel
  exact result_files_of_groups_eq hgroups (by decide +kernel)

theorem bindings_complete_vectors :
    (Binding.files vectorsApi {}).result = .ok vectorsFiles ∧
      ∃ binders : Entries Binder, binders.keys = groupNames vectorsApi ∧
        vectorsFiles = (bindingHeader, { content := headerText vectorsApi {} }) ::
            unitsOf vectorsApi {} binders ∧
          BindsFunctions vectorsApi {} binders ∧ BindsClasses vectorsApi {} binders :=
  ⟨result_files_vectors, bindings_complete result_files_vectors⟩

/-- Validation accepts the class and the operator, and their unit declares the class twice. -/
theorem vector_declared_twice :
    (validate { api := some vectorsApi }).entries = [] ∧
      (Binding.files vectorsApi {}).result = .ok vectorsFiles ∧
        IsUnit vectorsApi {} "g" (unitOf vectorsApi {} "g" vectorsBinder) vectorsApi.namespaces.entries
            vectorsBinder ∧
          classesOf vectorsBinder.statements = [.classOf "g::Vec" "m_Vec" "m_g" "Vec",
            .classOf "g::Vec" "cls_Vec" "m_g" "Vec"] := by
  refine ⟨by decide +kernel, result_files_vectors, ⟨?_, ?_, rfl⟩, by decide +kernel⟩
  · decide +kernel
  · decide +kernel

end SourceGen.Binding
