import SourceGen.Proofs.Binding.Failures
import SourceGen.Proofs.Binding.Outline
import SourceGen.Proofs.OrderedMap

/-!
# What a binder collects

But for the names under which functions are bound, the statements of a unit are its outline: every step puts
the statements of a function, a class or a submodule behind those that are there. A class is declared for
every type asked for that needs one, in the order in which they were asked for.
-/

namespace SourceGen.Binding

open Spec Emit

/-- A binder holds a class for every type that was asked for and has one, and the statements that were
collected, up to the names of bound functions. -/
structure Binder.Collected (binder : Binder) (group : Group) (types : List String)
    (statements : List Statement) : Prop where
  classes : binder.types.entries = (distinct (types.filter isClassType)).map (classEntry group)
  unnamed : binder.blocks.flatten.map Statement.unnamed = statements
  submodules : binder.submodules = submodulesOf statements

namespace Binder

variable {binder binder' : Binder} {group : Group} {types : List String}
  {statements lines lines' : List Statement} {module qualifier selfType : String}

/-- Names given out before have no part in what a member function becomes but its name. -/
theorem memberBody_used (used : UsedNames) (group : Group) (cls : ClassDecl) (function : FunctionDecl) :
    (∃ note, memberBody used group cls function = .error note ∧
        memberBody [] group cls function = .error note) ∨
      ∃ name body usual later bare first,
        memberBody used group cls function = .ok (name, body, usual, later) ∧
          memberBody [] group cls function = .ok (bare, body, usual, first) := by
  unfold memberBody
  cases function.name with
  | some name => exact .inr ⟨_, _, _, _, _, _, rfl, rfl⟩
  | none =>
    cases function.operator with
    | none => exact .inl ⟨_, rfl, rfl⟩
    | some symbol =>
      dsimp only
      cases specialMethod? symbol ((function.args.map (·.name)).length + 1) with
      | none => exact .inl ⟨_, rfl, rfl⟩
      | some name => exact .inr ⟨_, _, _, _, _, _, rfl, rfl⟩

theorem descend_fst (binder : Binder) (module path : String) (segments : List String) :
    (binder.descend module path segments).1 = moduleVariable module segments := by
  induction segments generalizing binder module path with
  | nil => rfl
  | cons segment rest ih => exact ih ..

/-- Which module a namespace is bound in does not depend on what was bound before. -/
theorem moduleFor_fst (binder : Binder) (group : Group) (name : String) :
    (binder.moduleFor group (namespaceSegments name)).1 = moduleOf group name :=
  binder.descend_fst group.root group.name (below name)

theorem collected_empty (group : Group) : ({} : Binder).Collected group [] [] := ⟨rfl, rfl, rfl⟩

namespace Collected

theorem keys (h : binder.Collected group types statements) :
    binder.types.keys = distinct (types.filter isClassType) := by
  rw [OrderedMap.keys, h.classes, Entries.keys, List.map_map]
  exact List.map_id _

theorem push (h : binder.Collected group types statements) {block added : List Statement}
    (hadded : block.map Statement.unnamed = added) (hnone : submodulesOf added = []) :
    (binder.push block).Collected group types (statements ++ added) where
  classes := h.classes
  unnamed := by simp [Binder.push, h.unnamed, hadded]
  submodules := by
    rw [submodulesOf_append, hnone, List.append_nil]
    exact h.submodules

theorem withUsed (h : binder.Collected group types statements) (used : UsedNames) :
    ({ binder with used } : Binder).Collected group types statements :=
  ⟨h.classes, h.unnamed, h.submodules⟩

/-! ### Types -/

theorem declareType (h : binder.Collected group types statements) (type : String) :
    (binder.declareType group type).Collected group (types ++ [type]) statements := by
  have hcontains : binder.types.contains type = true ↔ type ∈ types.filter isClassType := by
    rw [OrderedMap.contains_iff, h.keys, mem_distinct]
  cases hclass : isClassType type with
  | false =>
    have hnone : (type.isEmpty || isBuiltin type) = true := by
      simpa only [isClassType, Bool.not_eq_false'] using hclass
    rw [Binder.declareType, hnone, Bool.true_or, if_pos rfl]
    refine ⟨?_, h.unnamed, h.submodules⟩
    rw [h.classes, List.filter_append, List.filter_cons_of_neg (by simp [hclass])]
    simp
  | true =>
    have hsome : (type.isEmpty || isBuiltin type) = false := by
      simpa only [isClassType, Bool.not_eq_true'] using hclass
    rw [Binder.declareType, hsome, Bool.false_or]
    have hfilter : (types ++ [type]).filter isClassType = types.filter isClassType ++ [type] := by
      rw [List.filter_append, List.filter_cons_of_pos hclass, List.filter_nil]
    by_cases hmem : type ∈ types.filter isClassType
    · rw [if_pos (hcontains.mpr hmem)]
      refine ⟨?_, h.unnamed, h.submodules⟩
      rw [h.classes, hfilter, distinct_append_singleton, if_pos hmem]
    · rw [if_neg (mt hcontains.mp hmem)]
      refine ⟨?_, h.unnamed, h.submodules⟩
      have hfresh : type ∉ binder.types.entries.keys := by
        rwa [← OrderedMap.keys, h.keys, mem_distinct]
      rw [hfilter, distinct_append_singleton, if_neg hmem, List.map_append, ← h.classes]
      exact Entries.alter_of_not_mem _ hfresh

theorem registerOut (h : binder.Collected group types statements) (outType : String) :
    (binder.registerOut group outType).Collected group (types ++ registeredTypes group outType)
      statements := by
  simp only [Binder.registerOut, registeredTypes]
  split
  · rwa [List.append_nil]
  · exact h.declareType _

/-! ### Functions -/

theorem bindFunction (h : binder.Collected group types statements) {function : FunctionDecl}
    (hoperator : function.operator.isSome = false) :
    (binder.bindFunction group module qualifier function).Collected group
      (types ++ functionTypes group function)
      (statements ++ functionStatements group module qualifier function) := by
  simp only [functionTypes, functionStatements, hoperator, Bool.false_eq_true, if_false,
    List.append_nil]
  exact ((h.registerOut _).withUsed _).push rfl rfl

theorem bindOperator (h : binder.Collected group types statements) {function : FunctionDecl}
    (hoperator : function.operator.isSome = true)
    (hresult : (binder.bindOperator group function).result = .ok binder') :
    binder'.Collected group (types ++ functionTypes group function)
      (statements ++ functionStatements group module qualifier function) := by
  simp only [functionTypes, functionStatements, hoperator, if_true, operatorOwner?,
    operatorStatements]
  rw [Binder.bindOperator] at hresult
  cases hmethod : operatorMethod group function with
  | error note =>
    rw [hmethod] at hresult
    cases hresult
    simpa using h.registerOut _
  | ok method =>
    simp only [hmethod, Run.result_pure, Except.ok.injEq] at hresult
    subst hresult
    simp only [Option.toList_some, ← List.append_assoc]
    exact ((h.registerOut _).declareType _).push rfl rfl

theorem bindFunctions (h : binder.Collected group types statements) {functions : List FunctionDecl}
    (hresult : (binder.bindFunctions group module qualifier functions).result = .ok binder') :
    binder'.Collected group (types ++ functions.flatMap (functionTypes group))
      (statements ++ functions.flatMap (functionStatements group module qualifier)) := by
  induction functions generalizing binder types statements with
  | nil =>
    cases hresult
    simpa using h
  | cons function rest ih =>
    rw [Binder.bindFunctions] at hresult
    simp only [List.flatMap_cons, ← List.append_assoc]
    split at hresult
    · next hoperator =>
      rw [Run.result_bind] at hresult
      obtain ⟨next, hnext, hrest⟩ := bind_eq_ok.mp hresult
      exact ih (h.bindOperator hoperator hnext) hrest
    · next hoperator =>
      exact ih (h.bindFunction (Bool.eq_false_iff.mpr hoperator)) hresult

/-! ### Classes -/

theorem bindMember (h : binder.Collected group types statements) {cls : ClassDecl}
    {function : FunctionDecl}
    (hresult : (binder.bindMember lines group selfType cls function).result = .ok (binder', lines')) :
    binder'.Collected group (types ++ memberTypes group cls function) statements ∧
      lines'.map Statement.unnamed =
        lines.map Statement.unnamed ++ memberStatements group selfType cls function := by
  have hregistered := h.registerOut (group.outType (cls.parameters ++ function.parameters) function)
  rw [Binder.bindMember] at hresult
  rw [memberStatements]
  obtain ⟨note, hbody, hbare⟩ | ⟨name, body, usual, later, bare, first, hbody, hbare⟩ :=
    memberBody_used (binder.registerOut group
      (group.outType (cls.parameters ++ function.parameters) function)).used group cls function
  · simp only [hbody] at hresult
    cases hresult
    simp only [hbare, List.append_nil, and_true]
    exact hregistered
  · simp only [hbody] at hresult
    cases hresult
    simp only [hbare, List.map_append, List.map_cons, List.map_nil]
    exact ⟨hregistered.withUsed later, rfl⟩

theorem bindMembers (h : binder.Collected group types statements) {cls : ClassDecl}
    {functions : List FunctionDecl}
    (hresult : (binder.bindMembers lines group selfType cls functions).result =
      .ok (binder', lines')) :
    binder'.Collected group (types ++ functions.flatMap (memberTypes group cls)) statements ∧
      lines'.map Statement.unnamed =
        lines.map Statement.unnamed ++ functions.flatMap (memberStatements group selfType cls) := by
  induction functions generalizing binder types lines with
  | nil =>
    cases hresult
    simpa using h
  | cons function rest ih =>
    rw [Binder.bindMembers, Run.result_bind] at hresult
    obtain ⟨⟨next, nextLines⟩, hnext, hrest⟩ := bind_eq_ok.mp hresult
    obtain ⟨hcollected, hlines⟩ := h.bindMember hnext
    obtain ⟨hlast, hall⟩ := ih hcollected hrest
    rw [hlines] at hall
    simp only [List.flatMap_cons, ← List.append_assoc]
    exact ⟨hlast, hall⟩

theorem bindClass (h : binder.Collected group types statements) {cls : ClassDecl}
    (hresult : (binder.bindClass group module qualifier cls).result = .ok binder') :
    binder'.Collected group (types ++ classTypes group cls)
      (statements ++ classStatements group module qualifier cls) := by
  rw [Binder.bindClass, Run.result_bind] at hresult
  obtain ⟨⟨next, lines⟩, hmembers, hnext⟩ := bind_eq_ok.mp hresult
  simp only [Run.result_pure, Except.ok.injEq] at hnext
  subst hnext
  obtain ⟨hcollected, hlines⟩ := h.bindMembers hmembers
  refine hcollected.push (hlines.trans ?_) (submodulesOf_classStatements ..)
  have hconstructor : (constructor? group cls).map Statement.unnamed = constructor? group cls := by
    rw [constructor?]
    split <;> rfl
  rw [List.map_cons, hconstructor]
  rfl

theorem bindClasses (h : binder.Collected group types statements) {name : String}
    {classes : List ClassDecl}
    (hresult : (binder.bindClasses group name module qualifier classes).result = .ok binder') :
    binder'.Collected group (types ++ classes.flatMap (classTypes group))
      (statements ++ classes.flatMap (classStatements group module qualifier)) := by
  induction classes generalizing binder types statements with
  | nil =>
    cases hresult
    simpa using h
  | cons cls rest ih =>
    simp only [Binder.bindClasses, Run.result_bind] at hresult
    obtain ⟨_, -, hclass⟩ := bind_eq_ok.mp hresult
    obtain ⟨next, hnext, hrest⟩ := bind_eq_ok.mp hclass
    simp only [List.flatMap_cons, ← List.append_assoc]
    exact ih (h.bindClass hnext) hrest

/-! ### Namespaces -/

theorem addSubmodule (h : binder.Collected group types statements)
    (var parent segment path : String) :
    (binder.addSubmodule var parent segment path).Collected group types
      (statements ++ if var ∈ submodulesOf statements then []
        else [.submodule var parent segment path]) := by
  rw [Binder.addSubmodule, h.submodules]
  split
  · rwa [List.append_nil]
  · refine ⟨h.classes, ?_, ?_⟩
    · simp [Binder.push, h.unnamed, Statement.unnamed]
    · simp [submodulesOf, Statement.submodule?]

theorem descend (h : binder.Collected group types statements) (module path : String)
    (segments : List String) :
    (binder.descend module path segments).2.Collected group types
      (statements ++ submoduleStatements (submodulesOf statements) module path segments) := by
  induction segments generalizing binder statements module path with
  | nil => simpa [submoduleStatements, Binder.descend] using h
  | cons segment rest ih =>
    have hrest := ih (h.addSubmodule (module ++ "_" ++ segment) module segment path)
      (module ++ "_" ++ segment) (path ++ "." ++ segment)
    rw [submoduleStatements]
    split
    · next hmem =>
      rw [if_pos hmem, List.append_nil] at hrest
      exact hrest
    · next hmem =>
      rw [if_neg hmem, submodulesOf_append, List.append_assoc] at hrest
      exact hrest

theorem moduleFor (h : binder.Collected group types statements) (name : String) :
    (binder.moduleFor group (namespaceSegments name)).2.Collected group types
      (statements ++ submoduleStatements (submodulesOf statements) group.root group.name (below name)) :=
  h.descend group.root group.name (below name)

theorem bindNamespace (h : binder.Collected group types statements) {name : String}
    {content : NamespaceContent}
    (hresult : (binder.bindNamespace group name content).result = .ok binder') :
    binder'.Collected group (types ++ contentTypes group content)
      (statements ++ namespaceStatements group statements (name, content)) := by
  simp only [Binder.bindNamespace, Run.result_bind] at hresult
  obtain ⟨classes, horder, hclasses⟩ := bind_eq_ok.mp hresult
  obtain ⟨next, hnext, hchecked⟩ := bind_eq_ok.mp hclasses
  obtain ⟨_, -, hfunctions⟩ := bind_eq_ok.mp hchecked
  have hbound : boundClasses content = classes := by
    rw [boundClasses, horder]
    rfl
  have hlast := ((h.moduleFor name).bindClasses hnext).bindFunctions hfunctions
  rw [moduleFor_fst] at hlast
  simpa [contentTypes, contentStatements, namespaceStatements, hbound, boundFunctions] using hlast

theorem bindNamespaces (h : binder.Collected group types statements)
    {namespaces : Entries NamespaceContent}
    (hresult : (binder.bindNamespaces group namespaces).result = .ok binder') :
    binder'.Collected group (types ++ namespaces.flatMap fun entry ↦ contentTypes group entry.2)
      (namespaces.foldl (fun before entry ↦ before ++ namespaceStatements group before entry)
        statements) := by
  induction namespaces generalizing binder types statements with
  | nil =>
    cases hresult
    simpa using h
  | cons entry rest ih =>
    obtain ⟨name, content⟩ := entry
    rw [Binder.bindNamespaces, Run.result_bind] at hresult
    obtain ⟨next, hnext, hrest⟩ := bind_eq_ok.mp hresult
    simp only [List.flatMap_cons, ← List.append_assoc, List.foldl_cons]
    exact ih (h.bindNamespace hnext) hrest

end Collected

end Binder

/-! ## The statements of a unit -/

section

variable {binder : Binder} {group : Group} {types : List String} {statements : List Statement}

theorem Binder.Collected.values (h : binder.Collected group types statements) :
    binder.types.values = (distinct (types.filter isClassType)).map fun type ↦
      .classOf type (typeVariable type) group.root (endType type) := by
  rw [OrderedMap.values, h.classes, Entries.values, List.map_map]
  rfl

theorem Binder.Collected.exists_of_mem_values (h : binder.Collected group types statements)
    {statement : Statement} (hstatement : statement ∈ binder.types.values) :
    ∃ type, statement = .classOf type (typeVariable type) group.root (endType type) := by
  rw [h.values] at hstatement
  obtain ⟨type, -, rfl⟩ := List.mem_map.mp hstatement
  exact ⟨type, rfl⟩

theorem Binder.Collected.declaredBy_values (h : binder.Collected group types statements) :
    declaredBy binder.types.values = (distinct (types.filter isClassType)).map typeVariable := by
  rw [h.values, declaredBy, List.filterMap_map, ← List.filterMap_eq_map]
  rfl

/-- The classes of result types come first, then the outline. -/
theorem Binder.Collected.declaredBy_statements (h : binder.Collected group types statements) :
    declaredBy binder.statements =
      (distinct (types.filter isClassType)).map typeVariable ++ declaredBy statements := by
  rw [Binder.statements, declaredBy_append, ← h.unnamed, declaredBy_map_unnamed, h.declaredBy_values]

theorem Binder.Collected.submodulesOf_statements (h : binder.Collected group types statements) :
    submodulesOf binder.statements = submodulesOf statements := by
  have hvalues : submodulesOf binder.types.values = [] := by
    rw [submodulesOf, List.filterMap_eq_nil_iff]
    intro statement hstatement
    obtain ⟨type, rfl⟩ := h.exists_of_mem_values hstatement
    rfl
  rw [Binder.statements, submodulesOf_append, hvalues, List.nil_append, ← h.unnamed,
    submodulesOf_map_unnamed]

/-- Every statement of the outline stands in the unit, the name of its function apart. -/
theorem Binder.Collected.exists_mem_statements (h : binder.Collected group types statements)
    {statement : Statement} (hstatement : statement ∈ statements) :
    ∃ given ∈ binder.statements, given.unnamed = statement := by
  rw [← h.unnamed] at hstatement
  obtain ⟨given, hgiven, heq⟩ := List.mem_map.mp hstatement
  exact ⟨given, List.mem_append_right _ hgiven, heq⟩

/-- What stands on no variable has no name to lose. -/
theorem Binder.Collected.mem_statements_of_receiver?_eq_none (h : binder.Collected group types statements)
    {statement : Statement} (hstatement : statement ∈ statements) (hnone : statement.receiver? = none) :
    statement ∈ binder.statements := by
  obtain ⟨given, hgiven, rfl⟩ := h.exists_mem_statements hstatement
  rw [Statement.receiver?_unnamed] at hnone
  cases given with
  | define => cases hnone
  | _ => exact hgiven

theorem Binder.Collected.submodule_mem_iff (h : binder.Collected group types statements)
    {var parent segment path : String} :
    .submodule var parent segment path ∈ binder.statements ↔
      .submodule var parent segment path ∈ statements := by
  constructor
  · intro hmem
    rcases List.mem_append.mp hmem with hvalue | hblock
    · obtain ⟨type, heq⟩ := h.exists_of_mem_values hvalue
      cases heq
    · exact h.unnamed ▸ List.mem_map_of_mem (f := Statement.unnamed) hblock
  · exact fun hmem ↦ h.mem_statements_of_receiver?_eq_none hmem rfl

theorem Binder.Collected.declaredBefore_statements_iff (h : binder.Collected group types statements)
    {uses : Statement → Option String}
    (huses : ∀ statement, uses (Statement.unnamed statement) = uses statement)
    {known : List String}
    (hvalues : ∀ statement ∈ binder.types.values, ∀ var ∈ uses statement, var ∈ known) :
    DeclaredBefore uses known binder.statements ↔
      DeclaredBefore uses (known ++ (distinct (types.filter isClassType)).map typeVariable)
        statements := by
  rw [Binder.statements, declaredBefore_append, and_iff_right (declaredBefore_of_forall hvalues),
    h.declaredBy_values, ← h.unnamed, declaredBefore_map_unnamed huses]

end

/-- What a binder collects of a group is the outline of its namespaces. -/
theorem collected_bindGroup {group : Group} {namespaces : Entries NamespaceContent} {binder : Binder}
    (h : (bindGroup group namespaces).result = .ok binder) :
    binder.Collected group (namespaces.flatMap fun entry ↦ contentTypes group entry.2)
      (groupStatements group namespaces) := by
  have hall := (Binder.collected_empty group).bindNamespaces h
  rwa [List.nil_append] at hall

/-! ## Classes of a bound group -/

theorem namespaceBindable_of_bindGroup {group : Group} {namespaces : Entries NamespaceContent}
    {binder : Binder} (h : (bindGroup group namespaces).result = .ok binder) :
    ∀ entry ∈ namespaces, NamespaceBindable entry.2 := by
  have hnone : failure? (bindGroup group namespaces).result = none := by rw [h, failure?_ok]
  rw [failure?_bindGroup, List.findSome?_eq_none_iff] at hnone
  exact fun entry hentry ↦ namespaceFailure?_eq_none_iff.mp (hnone entry hentry)

theorem boundClasses_perm {content : NamespaceContent} (h : NamespaceBindable content) :
    (boundClasses content).Perm content.classes := by
  obtain ⟨sorted, hresult, hperm⟩ := result_orderClasses_of_acyclic h.acyclic
  rw [boundClasses, hresult]
  exact hperm

end SourceGen.Binding
