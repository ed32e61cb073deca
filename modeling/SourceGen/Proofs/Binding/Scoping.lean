import SourceGen.Binding.Statement

/-!
# Variables of binding modules

The statements of a unit stand in one scope, from top to bottom. A variable that a statement uses has to be
known from the start or be declared by a statement before, and what a list of statements uses is told apart
at any point of it.
-/

namespace SourceGen.Binding

namespace Statement

/-- The variable to which a statement adds what it declares. -/
def parent? : Statement → Option String
  | .submodule _ parent _ _ => some parent
  | .classOf _ _ parent _ => some parent
  | _ => none

/-- The variable of the submodule that a statement declares. -/
def submodule? : Statement → Option String
  | .submodule var _ _ _ => some var
  | _ => none

end Statement

/-- The variables that statements declare, in their order. -/
def declaredBy (statements : List Statement) : List String :=
  statements.filterMap Statement.declared?

@[simp] theorem declaredBy_nil : declaredBy [] = [] := rfl

theorem declaredBy_cons (statement : Statement) (rest : List Statement) :
    declaredBy (statement :: rest) = statement.declared?.toList ++ declaredBy rest := by
  cases h : statement.declared? <;> simp [declaredBy, h]

@[simp] theorem declaredBy_append (front back : List Statement) :
    declaredBy (front ++ back) = declaredBy front ++ declaredBy back :=
  List.filterMap_append

theorem declaredBy_flatMap {α : Type} (items : List α) (f : α → List Statement) :
    declaredBy (items.flatMap f) = items.flatMap fun item ↦ declaredBy (f item) :=
  List.filterMap_flatMap

/-- The variables of the submodules that statements declare. -/
def submodulesOf (statements : List Statement) : List String :=
  statements.filterMap Statement.submodule?

@[simp] theorem submodulesOf_nil : submodulesOf [] = [] := rfl

@[simp] theorem submodulesOf_append (front back : List Statement) :
    submodulesOf (front ++ back) = submodulesOf front ++ submodulesOf back :=
  List.filterMap_append

/-- Statements that declare nothing declare no submodule. -/
theorem submodulesOf_eq_nil {statements : List Statement} (h : declaredBy statements = []) :
    submodulesOf statements = [] := by
  rw [declaredBy, List.filterMap_eq_nil_iff] at h
  rw [submodulesOf, List.filterMap_eq_nil_iff]
  intro statement hmem
  have hnone := h statement hmem
  cases statement <;> simp_all [Statement.declared?, Statement.submodule?]

theorem submodulesOf_subset_declaredBy (statements : List Statement) :
    submodulesOf statements ⊆ declaredBy statements := by
  intro var hvar
  obtain ⟨statement, hmem, hsubmodule⟩ := List.mem_filterMap.mp hvar
  refine List.mem_filterMap.mpr ⟨statement, hmem, ?_⟩
  cases statement with
  | submodule => exact hsubmodule
  | _ => cases hsubmodule

/-- Whatever the statements use is known or declared by a statement before. -/
def DeclaredBefore (uses : Statement → Option String) (known : List String) : List Statement → Prop
  | [] => True
  | statement :: rest =>
    (∀ var ∈ uses statement, var ∈ known) ∧
      DeclaredBefore uses (known ++ statement.declared?.toList) rest

instance (uses : Statement → Option String) (known : List String) (statements : List Statement) :
    Decidable (DeclaredBefore uses known statements) :=
  match statements with
  | [] => .isTrue trivial
  | statement :: rest =>
    haveI : Decidable (DeclaredBefore uses (known ++ statement.declared?.toList) rest) :=
      instDecidableDeclaredBefore uses (known ++ statement.declared?.toList) rest
    inferInstanceAs (Decidable (_ ∧ _))

section

variable {uses : Statement → Option String} {known known' : List String}
  {statements front back : List Statement}

theorem declaredBefore_append :
    DeclaredBefore uses known (front ++ back) ↔
      DeclaredBefore uses known front ∧ DeclaredBefore uses (known ++ declaredBy front) back := by
  induction front generalizing known with
  | nil => simp [DeclaredBefore]
  | cons statement rest ih =>
    rw [List.cons_append, DeclaredBefore, DeclaredBefore, ih, declaredBy_cons, and_assoc,
      List.append_assoc]

theorem DeclaredBefore.mono (h : DeclaredBefore uses known statements) (hknown : known ⊆ known') :
    DeclaredBefore uses known' statements := by
  induction statements generalizing known known' with
  | nil => trivial
  | cons statement rest ih =>
    refine ⟨fun var hvar ↦ hknown (h.1 var hvar), ih h.2 ?_⟩
    exact List.append_subset.mpr ⟨List.Subset.trans hknown (List.subset_append_left _ _),
      List.subset_append_right _ _⟩

theorem declaredBefore_of_forall (h : ∀ statement ∈ statements, ∀ var ∈ uses statement, var ∈ known) :
    DeclaredBefore uses known statements := by
  induction statements generalizing known with
  | nil => trivial
  | cons statement rest ih =>
    obtain ⟨hfirst, hrest⟩ := List.forall_mem_cons.mp h
    exact ⟨hfirst, (ih hrest).mono (List.subset_append_left _ _)⟩

/-- Pieces each of which is in order wherever it stands are in order one after the other. -/
theorem declaredBefore_flatMap {α : Type} {items : List α} {f : α → List Statement}
    (h : ∀ item ∈ items, ∀ known, DeclaredBefore uses known (f item)) :
    DeclaredBefore uses known (items.flatMap f) := by
  induction items generalizing known with
  | nil => trivial
  | cons item rest ih =>
    obtain ⟨hfirst, hrest⟩ := List.forall_mem_cons.mp h
    rw [List.flatMap_cons, declaredBefore_append]
    exact ⟨hfirst known, ih hrest⟩

/-- Statements that declare nothing use what is known. -/
theorem declaredBefore_iff_of_declaredBy_eq_nil (h : declaredBy statements = []) :
    DeclaredBefore uses known statements ↔
      ∀ statement ∈ statements, ∀ var ∈ uses statement, var ∈ known := by
  refine ⟨fun hbefore ↦ ?_, declaredBefore_of_forall⟩
  induction statements with
  | nil => exact List.forall_mem_nil _
  | cons statement rest ih =>
    obtain ⟨hfirst, hrest⟩ := List.append_eq_nil_iff.mp (declaredBy_cons statement rest ▸ h)
    rw [DeclaredBefore, hfirst, List.append_nil] at hbefore
    exact List.forall_mem_cons.mpr ⟨hbefore.1, ih hrest hbefore.2⟩

end

end SourceGen.Binding
