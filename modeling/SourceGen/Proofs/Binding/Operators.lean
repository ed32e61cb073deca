import SourceGen.Proofs.Binding.Receivers

/-!
# Operators as methods

An operator becomes a method of the class of its result, and its operands stay in their order. Whether the
method takes them in reverse is told by the text of the first operand's type. So it takes an object of its
class first exactly if the operand that this leads to is of the type of the result.
-/

namespace SourceGen.Binding

open Spec Text Validation

/-! ## Statements that stay -/

namespace Binder

variable {binder binder' : Binder} {group : Group} {module qualifier selfType : String}
  {lines lines' : List Statement}

theorem blocks_declareType (binder : Binder) (group : Group) (type : String) :
    (binder.declareType group type).blocks = binder.blocks := by
  rw [declareType]
  split <;> rfl

theorem blocks_registerOut (binder : Binder) (group : Group) (outType : String) :
    (binder.registerOut group outType).blocks = binder.blocks := by
  simp only [registerOut]
  split
  · rfl
  · exact blocks_declareType ..

theorem prefix_push (binder : Binder) (block : List Statement) :
    binder.blocks <+: (binder.push block).blocks :=
  List.prefix_append ..

theorem prefix_bindFunction (binder : Binder) (group : Group) (module qualifier : String)
    (function : FunctionDecl) :
    binder.blocks <+: (binder.bindFunction group module qualifier function).blocks := by
  have hregistered := blocks_registerOut binder group (group.outType function.parameters function)
  rw [← hregistered]
  exact List.prefix_append ..

/-- An operator leaves what is there and adds its definition. -/
theorem prefix_bindOperator {function : FunctionDecl}
    (h : (binder.bindOperator group function).result = .ok binder') :
    binder.blocks <+: binder'.blocks ∧ ∀ method, operatorMethod group function = .ok method →
      [.define (typeVariable (resultType group function)) method] ∈ binder'.blocks := by
  have hregistered := blocks_registerOut binder group (group.outType function.parameters function)
  rw [bindOperator] at h
  cases hmethod : operatorMethod group function with
  | error note =>
    rw [hmethod] at h
    cases h
    exact ⟨hregistered ▸ List.prefix_refl _, by simp⟩
  | ok method =>
    simp only [hmethod, Run.result_pure, Except.ok.injEq] at h
    subst h
    simp only [push, blocks_declareType, hregistered, Except.ok.injEq, forall_eq']
    exact ⟨List.prefix_append .., List.mem_append_right _ List.mem_cons_self⟩

/-- The functions of a list leave what is there, and each operator among them adds its definition. -/
theorem prefix_bindFunctions {functions : List FunctionDecl}
    (h : (binder.bindFunctions group module qualifier functions).result = .ok binder') :
    binder.blocks <+: binder'.blocks ∧ ∀ function ∈ functions, function.operator.isSome = true →
      ∀ method, operatorMethod group function = .ok method →
        [.define (typeVariable (resultType group function)) method] ∈ binder'.blocks := by
  induction functions generalizing binder with
  | nil =>
    cases h
    exact ⟨List.prefix_refl _, List.forall_mem_nil _⟩
  | cons first rest ih =>
    rw [bindFunctions] at h
    split at h
    · rw [Run.result_bind] at h
      obtain ⟨next, hnext, hrest⟩ := bind_eq_ok.mp h
      obtain ⟨hfirst, hdefined⟩ := prefix_bindOperator hnext
      obtain ⟨hlater, hall⟩ := ih hrest
      refine ⟨hfirst.trans hlater, List.forall_mem_cons.mpr ⟨fun _ method hmethod ↦ ?_, hall⟩⟩
      exact hlater.subset (hdefined method hmethod)
    · next hnamed =>
      obtain ⟨hlater, hall⟩ := ih h
      exact ⟨(prefix_bindFunction ..).trans hlater,
        List.forall_mem_cons.mpr ⟨fun hoperator ↦ absurd hoperator hnamed, hall⟩⟩

theorem blocks_bindMember {cls : ClassDecl} {function : FunctionDecl}
    (h : (binder.bindMember lines group selfType cls function).result = .ok (binder', lines')) :
    binder'.blocks = binder.blocks := by
  have hregistered := blocks_registerOut binder group
    (group.outType (cls.parameters ++ function.parameters) function)
  simp only [bindMember] at h
  split at h <;> cases h <;> exact hregistered

theorem blocks_bindMembers {cls : ClassDecl} {functions : List FunctionDecl}
    (h : (binder.bindMembers lines group selfType cls functions).result = .ok (binder', lines')) :
    binder'.blocks = binder.blocks := by
  induction functions generalizing binder lines with
  | nil =>
    cases h
    rfl
  | cons function rest ih =>
    rw [bindMembers, Run.result_bind] at h
    obtain ⟨⟨next, nextLines⟩, hnext, hrest⟩ := bind_eq_ok.mp h
    rw [ih hrest, blocks_bindMember hnext]

theorem prefix_bindClasses {name : String} {classes : List ClassDecl}
    (h : (binder.bindClasses group name module qualifier classes).result = .ok binder') :
    binder.blocks <+: binder'.blocks := by
  induction classes generalizing binder with
  | nil =>
    cases h
    exact List.prefix_refl _
  | cons cls rest ih =>
    simp only [bindClasses, Run.result_bind] at h
    obtain ⟨_, -, hclass⟩ := bind_eq_ok.mp h
    obtain ⟨next, hnext, hrest⟩ := bind_eq_ok.mp hclass
    rw [bindClass, Run.result_bind] at hnext
    obtain ⟨⟨filled, lines⟩, hmembers, hpushed⟩ := bind_eq_ok.mp hnext
    cases hpushed
    rw [← blocks_bindMembers hmembers]
    exact (prefix_push ..).trans (ih hrest)

theorem prefix_descend (binder : Binder) (module path : String) (segments : List String) :
    binder.blocks <+: (binder.descend module path segments).2.blocks := by
  induction segments generalizing binder module path with
  | nil => exact List.prefix_refl _
  | cons segment rest ih =>
    refine List.IsPrefix.trans ?_ (ih ..)
    rw [addSubmodule]
    split
    · exact List.prefix_refl _
    · exact prefix_push ..

/-- A namespace leaves what is there, and each operator that is bound in it adds its definition. -/
theorem prefix_bindNamespace {name : String} {content : NamespaceContent}
    (h : (binder.bindNamespace group name content).result = .ok binder') :
    binder.blocks <+: binder'.blocks ∧ ∀ function ∈ boundFunctions content,
      function.operator.isSome = true → ∀ method, operatorMethod group function = .ok method →
        [.define (typeVariable (resultType group function)) method] ∈ binder'.blocks := by
  simp only [bindNamespace, Run.result_bind] at h
  obtain ⟨classes, -, hclasses⟩ := bind_eq_ok.mp h
  obtain ⟨next, hnext, hchecked⟩ := bind_eq_ok.mp hclasses
  obtain ⟨_, -, hfunctions⟩ := bind_eq_ok.mp hchecked
  obtain ⟨hfront, hdefined⟩ := prefix_bindFunctions hfunctions
  exact ⟨((prefix_descend ..).trans (prefix_bindClasses hnext)).trans hfront, hdefined⟩

theorem prefix_bindNamespaces {namespaces : Entries NamespaceContent}
    (h : (binder.bindNamespaces group namespaces).result = .ok binder') :
    binder.blocks <+: binder'.blocks ∧ ∀ entry ∈ namespaces, ∀ function ∈ boundFunctions entry.2,
      function.operator.isSome = true → ∀ method, operatorMethod group function = .ok method →
        [.define (typeVariable (resultType group function)) method] ∈ binder'.blocks := by
  induction namespaces generalizing binder with
  | nil =>
    cases h
    exact ⟨List.prefix_refl _, List.forall_mem_nil _⟩
  | cons entry rest ih =>
    rw [bindNamespaces, Run.result_bind] at h
    obtain ⟨next, hnext, hrest⟩ := bind_eq_ok.mp h
    obtain ⟨hfirst, hdefined⟩ := prefix_bindNamespace hnext
    obtain ⟨hlater, hall⟩ := ih hrest
    refine ⟨hfirst.trans hlater, List.forall_mem_cons.mpr ⟨?_, hall⟩⟩
    intro function hfunction hoperator method hmethod
    exact hlater.subset (hdefined function hfunction hoperator method hmethod)

end Binder

/-! ## Methods of operators -/

/-- The first of some parameters is of a type, up to qualifiers and indirections. -/
def StartsWith (type : String) (params : List Param) : Prop :=
  ∃ first rest, params = first :: rest ∧ cleanType first.type = type

/-- The operands of an expression, in the order in which they appear. -/
def Expression.operands : Expression → List String
  | .call _ args => args
  | .unary _ operand => [operand]
  | .chain _ operands => operands

/-- What an operator declares for its operands, with template parameters replaced. -/
def declaredParams (group : Group) (function : FunctionDecl) : List Param :=
  group.params function.parameters function.args

/-- A method that takes the operands of an operator as they are declared. -/
structure TakesDeclared (group : Group) (function : FunctionDecl) (method : Method) : Prop where
  name : specialMethod? (function.operator.getD "") (declaredParams group function).length =
    some method.name
  params : method.params = declaredParams group function

/-- A method that takes the operands of an operator in reverse. -/
structure TakesReversed (group : Group) (function : FunctionDecl) (method : Method) : Prop where
  name : reflectedMethod? (function.operator.getD "") = some method.name
  params : method.params = (declaredParams group function).reverse

/-- A method that takes an object of its class first, in reverse exactly if the operator declares another
type first. -/
structure IsMethodOfOwner (group : Group) (function : FunctionDecl) (method : Method) : Prop where
  self : StartsWith (resultType group function) method.params
  reversed_iff : TakesReversed group function method ↔
    ¬ StartsWith (resultType group function) (declaredParams group function)

/-- Operands of which the binding makes a method of the class of a type: a single one of the type, a first
one of the type whose text holds that of the type, or a last one of the type behind a first one that is of
another type and whose text does not hold it. -/
inductive OperandsFit (type : String) : List Param → Prop where
  | single {only : Param} (h : cleanType only.type = type) : OperandsFit type [only]
  | first {first second : Param} {rest : List Param} (h : cleanType first.type = type)
    (hwithin : Within type first.type) : OperandsFit type (first :: second :: rest)
  | last {first last : Param} {rest : List Param} (hlast : rest.getLast? = some last)
    (hfirst : cleanType first.type ≠ type) (hwithin : ¬ Within type first.type)
    (h : cleanType last.type = type) : OperandsFit type (first :: rest)

section Operator

variable {group : Group} {function : FunctionDecl} {method : Method} {type : String}

theorem operands_operatorBody (symbol : String) (operands : List String) :
    (Binder.operatorBody symbol operands).operands = operands := by
  unfold Binder.operatorBody
  split <;> rfl

theorem reflectedMethod?_ne_of_specialMethod? {symbol name : String} {operands : Nat}
    (h : specialMethod? symbol operands = some name) : reflectedMethod? symbol ≠ some name := by
  unfold specialMethod? at h
  split at h <;> first | cases h; decide | cases h

/-- Which of the two forms an operator takes. -/
theorem operatorMethod_forms (h : Binder.operatorMethod group function = .ok method) :
    method.body.operands = function.args.map (·.name) ∧
      ((Binder.isReflected (declaredParams group function) (resultType group function) = true ∧
          TakesReversed group function method) ∨
        (Binder.isReflected (declaredParams group function) (resultType group function) = false ∧
          TakesDeclared group function method)) := by
  unfold Binder.operatorMethod at h
  dsimp only at h
  split at h
  · next hreflected =>
    split at h
    · next name hname =>
      cases h
      exact ⟨operands_operatorBody .., .inl ⟨hreflected, hname, rfl⟩⟩
    · cases h
  · next hplain =>
    split at h
    · next name hname =>
      cases h
      exact ⟨operands_operatorBody .., .inr ⟨Bool.eq_false_iff.mpr hplain, hname, rfl⟩⟩
    · cases h

theorem startsWith_cons {first : Param} {rest : List Param} :
    StartsWith type (first :: rest) ↔ cleanType first.type = type := by
  simp [StartsWith, eq_comm]

theorem isReflected_cons_cons {first second : Param} {rest : List Param} :
    Binder.isReflected (first :: second :: rest) type = true ↔ ¬ Within type first.type := by
  rw [Binder.isReflected, Bool.not_eq_true', ← Bool.not_eq_true, contains_iff]

/-- The operands as they are declared fit if they start with the type, unless they are taken in reverse. -/
theorem operandsFit_iff_of_declared {params : List Param} (hne : params ≠ [])
    (h : Binder.isReflected params type = false) : OperandsFit type params ↔ StartsWith type params := by
  match params, hne with
  | [only], _ =>
    rw [startsWith_cons]
    constructor
    · intro hfit
      cases hfit with
      | single h => exact h
      | last hlast => cases hlast
    · exact .single
  | first :: second :: rest, _ =>
    have hwithin : Within type first.type := by
      rw [← Bool.not_eq_true, isReflected_cons_cons, not_not] at h
      exact h
    rw [startsWith_cons]
    constructor
    · intro hfit
      cases hfit with
      | first h => exact h
      | last _ _ hfree => exact absurd hwithin hfree
    · exact fun hfirst ↦ .first hfirst hwithin

/-- Operands that are taken in reverse fit if the last is of the type and the first is not. -/
theorem operandsFit_iff_of_reversed {params : List Param}
    (h : Binder.isReflected params type = true) :
    OperandsFit type params ↔ StartsWith type params.reverse ∧ ¬ StartsWith type params := by
  match params with
  | [] => cases h
  | [only] => cases h
  | first :: second :: rest =>
    rw [isReflected_cons_cons] at h
    obtain ⟨middle, last, hlast⟩ : ∃ middle last, second :: rest = middle ++ [last] :=
      ⟨_, _, (List.dropLast_append_getLast (List.cons_ne_nil second rest)).symm⟩
    have hreverse : (first :: second :: rest).reverse = last :: (middle.reverse ++ [first]) := by
      simp [hlast]
    have hlast? : (second :: rest).getLast? = some last := by rw [hlast, List.getLast?_concat]
    rw [hreverse, startsWith_cons, startsWith_cons]
    constructor
    · intro hfit
      cases hfit with
      | first _ hwithin => exact absurd hwithin h
      | last hlast' hfirst _ htype =>
        rw [hlast?, Option.some.injEq] at hlast'
        exact ⟨hlast' ▸ htype, hfirst⟩
    · exact fun ⟨htype, hfirst⟩ ↦ .last hlast? hfirst h htype

/-- An operator becomes a method of its class exactly if its operands fit. -/
theorem isMethodOfOwner_iff (h : Binder.operatorMethod group function = .ok method) :
    IsMethodOfOwner group function method ↔
      OperandsFit (resultType group function) (declaredParams group function) := by
  obtain ⟨-, ⟨hreflected, hreversed⟩ | ⟨hplain, hdeclared⟩⟩ := operatorMethod_forms h
  · rw [operandsFit_iff_of_reversed hreflected, ← hreversed.params]
    exact ⟨fun hmethod ↦ ⟨hmethod.self, hmethod.reversed_iff.mp hreversed⟩,
      fun ⟨hself, hfirst⟩ ↦ ⟨hself, iff_of_true hreversed hfirst⟩⟩
  · have hne : declaredParams group function ≠ [] := by
      intro hnil
      have hname := hdeclared.name
      rw [hnil] at hname
      unfold specialMethod? at hname
      split at hname <;> contradiction
    have hnot : ¬ TakesReversed group function method :=
      fun hreversed ↦ reflectedMethod?_ne_of_specialMethod? hdeclared.name hreversed.name
    rw [operandsFit_iff_of_declared hne hplain, ← hdeclared.params]
    exact ⟨fun hmethod ↦ hmethod.self,
      fun hself ↦ ⟨hself, iff_of_false hnot (not_not.mpr (hdeclared.params ▸ hself))⟩⟩

end Operator

/-! ## Generated units -/

/-- In a unit every operator of its namespaces for which there is a method is defined with this method on the
class of its result, which the unit declares if the type has a class. Its operands are in their order, and
what the class gets is a method of its own exactly if the operands fit. -/
theorem operators_bound_iff {api : Api} {config : Config} {files : Entries SourceFile}
    (hfiles : (Binding.files api config).result = .ok files) {name : String} {file : SourceFile}
    (hfile : (unitFile name, file) ∈ files) :
    ∃ namespaces binder, IsUnit api config name file namespaces binder ∧
      ∀ entry ∈ namespaces, ∀ function ∈ boundFunctions entry.2, function.operator.isSome = true →
        ∀ method, Binder.operatorMethod (groupNamed api config name) function = .ok method →
          let type := resultType (groupNamed api config name) function
          .define (typeVariable type) method ∈ binder.statements ∧
            (isClassType type = true → .classOf type (typeVariable type)
              (groupNamed api config name).root (endType type) ∈ binder.statements) ∧
              method.body.operands = function.args.map (·.name) ∧
                (IsMethodOfOwner (groupNamed api config name) function method ↔
                  OperandsFit type (declaredParams (groupNamed api config name) function)) := by
  obtain ⟨namespaces, binder, hunit⟩ := exists_isUnit hfiles hfile
  refine ⟨namespaces, binder, hunit, fun entry hentry function hfunction hoperator method hmethod ↦ ?_⟩
  have hcollected := collected_bindGroup hunit.bound
  have hblock := (Binder.prefix_bindNamespaces hunit.bound).2 entry hentry function hfunction hoperator
    method hmethod
  refine ⟨List.mem_append_right _ (List.mem_flatten.mpr ⟨_, hblock, List.mem_cons_self⟩), ?_,
    (operatorMethod_forms hmethod).1, isMethodOfOwner_iff hmethod⟩
  intro hclass
  have howner : operatorOwner? (groupNamed api config name) function =
      some (resultType (groupNamed api config name) function) := by
    rw [operatorOwner?, hmethod]
  have hmem : resultType (groupNamed api config name) function ∈
      operatorOwners (groupNamed api config name) entry.2 :=
    List.mem_flatMap.mpr ⟨function, hfunction, by simp [hoperator, howner]⟩
  refine List.mem_append_left _ ?_
  rw [hcollected.values]
  exact List.mem_map_of_mem (mem_unitTypes_of_operatorOwner hentry hmem hclass)

/-- A sum of which only the right operand is of the result's type; the name of the left operand's type begins
with that of the result's. -/
def listSum : FunctionDecl :=
  { operator := some "+"
    args := [{ name := "a", type := "g::VecList" }, { name := "b", type := "g::Vec" }]
    out := .typed (some "g::Vec") "return b;" }

/-- A product with a number on the left. -/
def vecScaling : FunctionDecl :=
  { operator := some "*"
    args := [{ name := "a", type := "double" }, { name := "b", type := "const g::Vec&" }]
    out := .typed (some "g::Vec") "return b;" }

def scalingApi : Api :=
  { namespaces := .ofEntries [("g", .full [listSum, vecScaling] [])] }

def listSumMethod : Method :=
  { name := "__add__", params := [⟨"g::VecList", "a"⟩, ⟨"g::Vec", "b"⟩], body := .chain "+" ["a", "b"]
    keywords := [⟨"b", none⟩], description := "__add__ ..." }

def vecScalingMethod : Method :=
  { name := "__rmul__", params := [⟨"const g::Vec&", "b"⟩, ⟨"double", "a"⟩], body := .chain "*" ["a", "b"]
    keywords := [⟨"a", none⟩], description := "__rmul__ ..." }

/-- What is bound of the sum and the product. -/
def scalingBinder : Binder :=
  { types := .ofEntries [("g::Vec", .classOf "g::Vec" "m_Vec" "m_g" "Vec")]
    blocks := [[.define "m_Vec" listSumMethod], [.define "m_Vec" vecScalingMethod]] }

def scalingUnit : SourceFile :=
  unitOf scalingApi {} "g" scalingBinder

def scalingFiles : Entries SourceFile :=
  [(bindingHeader, { content := headerText scalingApi {} }), (unitFile "g", scalingUnit)]

theorem groups_scalingApi : (groups scalingApi).entries = [("g", scalingApi.namespaces.entries)] := by
  decide +kernel

theorem result_files_scaling : (Binding.files scalingApi {}).result = .ok scalingFiles :=
  result_files_of_groups_eq groups_scalingApi (by decide +kernel)

theorem operators_bound_iff_scaling :
    (Binding.files scalingApi {}).result = .ok scalingFiles ∧ (unitFile "g", scalingUnit) ∈ scalingFiles ∧
      ∃ binder, IsUnit scalingApi {} "g" scalingUnit scalingApi.namespaces.entries binder ∧
        .define "m_Vec" vecScalingMethod ∈ binder.statements ∧
          .classOf "g::Vec" "m_Vec" "m_g" "Vec" ∈ binder.statements ∧
            IsMethodOfOwner (groupNamed scalingApi {} "g") vecScaling vecScalingMethod := by
  have hunit : (unitFile "g", scalingUnit) ∈ scalingFiles := by simp [scalingFiles]
  obtain ⟨namespaces, binder, hbound, hoperators⟩ := operators_bound_iff result_files_scaling hunit
  have hgrouped := hbound.grouped
  rw [groups_scalingApi, List.mem_singleton, Prod.mk.injEq] at hgrouped
  obtain ⟨-, rfl⟩ := hgrouped
  have hmethod : Binder.operatorMethod (groupNamed scalingApi {} "g") vecScaling = .ok vecScalingMethod := by
    decide +kernel
  obtain ⟨hdefined, hdeclared, -, hiff⟩ := hoperators ("g", .full [listSum, vecScaling] [])
    (by decide +kernel) vecScaling (by decide +kernel) rfl vecScalingMethod hmethod
  have htype : resultType (groupNamed scalingApi {} "g") vecScaling = "g::Vec" := by decide +kernel
  have hvariable : typeVariable "g::Vec" = "m_Vec" := by decide +kernel
  have hend : endType "g::Vec" = "Vec" := by decide +kernel
  have hfree : ¬ Within "g::Vec" "double" := by
    rw [← contains_iff]
    decide +kernel
  rw [htype, hvariable] at hdefined
  rw [htype, hvariable, hend] at hdeclared
  rw [htype] at hiff
  refine ⟨result_files_scaling, hunit, binder, hbound, hdefined, hdeclared (by decide +kernel), hiff.mpr ?_⟩
  have hparams : declaredParams (groupNamed scalingApi {} "g") vecScaling =
      [⟨"double", "a"⟩, ⟨"const g::Vec&", "b"⟩] := by decide +kernel
  rw [hparams]
  exact .last rfl (by decide +kernel) hfree (by decide +kernel)

/-- Validation accepts the sum, and its unit gives the class of the result a method that takes a list. -/
theorem listSum_bound_on_vec :
    (validate { api := some scalingApi }).entries = [] ∧
      (Binding.files scalingApi {}).result = .ok scalingFiles ∧
        IsUnit scalingApi {} "g" scalingUnit scalingApi.namespaces.entries scalingBinder ∧
          Binder.operatorMethod (groupNamed scalingApi {} "g") listSum = .ok listSumMethod ∧
            .define "m_Vec" listSumMethod ∈ scalingBinder.statements ∧
              ¬ IsMethodOfOwner (groupNamed scalingApi {} "g") listSum listSumMethod := by
  refine ⟨by decide +kernel, result_files_scaling, ⟨?_, ?_, rfl⟩, by decide +kernel, by decide +kernel, ?_⟩
  · rw [groups_scalingApi]
    exact List.mem_cons_self
  · decide +kernel
  · intro hmethod
    obtain ⟨first, rest, hparams, htype⟩ := hmethod.self
    cases hparams
    exact absurd htype (by decide +kernel)

end SourceGen.Binding
