import SourceGen.Proofs.ClassGraph.Order

/-!
# What is reported of circles

Where classes cannot be ordered, the report names a class and one that it requires. The class leads to a
circle of requirements, but need not be on one: what is reported is the first edge that the depths do not
respect, and this may be one that only leads to a circle. If all edges that lead to a circle lie on one, the
two classes do.
-/

namespace SourceGen.ClassGraph

open Spec (ClassDecl)
open Relation (ReflTransGen TransGen)

variable {graph : ClassGraph} {edge : Edge} {classes : List ClassDecl}

/-! ## The reported edge -/

/-- An edge leads to a circle, and no edge before it would do: these form no circle by themselves, and where
one of them leads to a circle, its requirement also leads to a class that nothing requires. -/
structure IsReported (graph : ClassGraph) (front : List Edge) (edge : Edge) (back : List Edge) : Prop where
  split : graph.edges = front ++ edge :: back
  leads : LeadsToCircle graph.classes edge.dependent
  acyclic : ∀ i, ¬ TransGen (fun i j ↦ (⟨i, j⟩ : Edge) ∈ front) i i
  before : ∀ other ∈ front, LeadsToCircle graph.classes other.dependent →
    ∃ count, LeadsToLast graph.classes other.requirement count

/-- Where no depth is known from the start, every class leads to a circle and the first edge is taken. -/
theorem isReported_of_all_isNone (hnone : graph.initialDepths.all Option.isNone = true) {rest : List Edge}
    (hedges : graph.edges = edge :: rest) : IsReported graph [] edge rest where
  split := hedges
  leads := by
    have hedge := (graph.mem_edges edge).mp (by rw [hedges]; exact List.mem_cons_self)
    by_contra hcircle
    obtain ⟨count, hpath⟩ := exists_leadsToLast hcircle hedge.lt_right
    exact not_all_isNone_of_leadsToLast hpath hnone
  acyclic i hcircle := by
    obtain ⟨j, hmem, -⟩ := TransGen.head'_iff.mp hcircle
    exact List.not_mem_nil hmem
  before _ hmem := absurd hmem List.not_mem_nil

theorem isReported_of_brokenEdge? (h : graph.brokenEdge? graph.relaxedDepths = some edge) :
    ∃ front back, IsReported graph front edge back := by
  obtain ⟨hbroken, front, back, hsplit, hfront⟩ := brokenEdge?_eq_some_iff.mp h
  have hedge := (graph.mem_edges edge).mp (by rw [hsplit]; simp)
  refine ⟨front, back, hsplit, ?_, Depths.Respects.acyclic hfront, fun other hother _ ↦ ?_⟩
  · by_contra hcircle
    exact hbroken (respects_relaxedDepths hedge hcircle)
  · obtain ⟨depth, hdepth⟩ := Option.isSome_iff_exists.mp (hfront other hother).2
    exact ⟨depth, graph.attained_relaxedDepths other.requirement depth hdepth⟩

theorem isReported_of_depths_eq_error (h : graph.depths = .error edge) :
    ∃ front back, IsReported graph front edge back := by
  unfold depths at h
  cases hedges : graph.edges with
  | nil =>
    rw [hedges] at h
    cases h
  | cons first rest =>
    simp only [hedges] at h
    split at h
    · next hnone =>
      cases h
      exact ⟨[], rest, isReported_of_all_isNone hnone hedges⟩
    · split at h
      · next hbroken =>
        cases h
        exact isReported_of_brokenEdge? hbroken
      · cases h

theorem IsReported.mustPrecede {front back : List Edge} (h : IsReported graph front edge back) :
    MustPrecede graph.classes edge.requirement edge.dependent :=
  (graph.mem_edges edge).mp (by rw [h.split]; simp)

/-! ## The report -/

/-- The class at `j` is called `dependent` and requires the one at `i`, the first called `requirement`. -/
structure Names (classes : List ClassDecl) (requirement dependent : String) (i j : Nat) : Prop where
  declared : FirstDeclares classes requirement i
  requires : ∃ cls, classes[j]? = some cls ∧ cls.name = dependent ∧ requirement ∈ cls.requires

/-- The two names are those of a class and one that it requires on one circle. -/
def NamesCircle (classes : List ClassDecl) (requirement dependent : String) : Prop :=
  ∃ i j, Names classes requirement dependent i j ∧ ReflTransGen (MustPrecede classes) j i

theorem names_of_mustPrecede {i j : Nat} (h : MustPrecede classes i j) :
    Names classes ((⟨classes⟩ : ClassGraph).nameAt i) ((⟨classes⟩ : ClassGraph).nameAt j) i j := by
  obtain ⟨cls, hcls, name, hname, hfirst⟩ := h
  obtain ⟨⟨required, hrequired, rfl⟩, -⟩ := id hfirst
  simp only [nameAt, hrequired, hcls, Option.map_some, Option.getD_some]
  exact ⟨hfirst, cls, hcls, rfl, hname⟩

/-- A class that requires nothing is on no circle. -/
theorem not_namesCircle {requirement dependent : String} {i : Nat} {cls : ClassDecl}
    (hfirst : FirstDeclares classes requirement i) (hcls : classes[i]? = some cls)
    (hnothing : cls.requires = []) : ¬ NamesCircle classes requirement dependent := by
  rintro ⟨k, j, ⟨hdeclared, dependent, hdependent, -, hrequires⟩, hback⟩
  have hposition := ((⟨classes⟩ : ClassGraph).position?_eq_some_iff requirement k).mpr hdeclared
  have hposition' := ((⟨classes⟩ : ClassGraph).position?_eq_some_iff requirement i).mpr hfirst
  obtain rfl : k = i := Option.some.inj (hposition.symm.trans hposition')
  have hcircle : TransGen (MustPrecede classes) k k :=
    .head' ⟨dependent, hdependent, requirement, hrequires, hdeclared⟩ hback
  obtain ⟨_, -, other, hother, name, hname, -⟩ := TransGen.tail'_iff.mp hcircle
  obtain rfl : cls = other := Option.some.inj (hcls.symm.trans hother)
  rw [hnothing] at hname
  exact List.not_mem_nil hname

/-- Where classes cannot be ordered, the report names a class that leads to a circle and one that it
requires; both lie on one circle if every edge that leads to a circle lies on one. -/
theorem orderClasses_reports_edge_to_circle {error : GenError}
    (h : (Emit.orderClasses classes).result = .error error) :
    ∃ requirement dependent front edge back, error = .circular requirement dependent ∧
      Names classes requirement dependent edge.requirement edge.dependent ∧
        IsReported ⟨classes⟩ front edge back ∧
          ((∀ i j, MustPrecede classes i j → LeadsToCircle classes j →
              ReflTransGen (MustPrecede classes) j i) → NamesCircle classes requirement dependent) := by
  simp only [Emit.orderClasses, resolve, order] at h
  cases hdepths : (⟨classes⟩ : ClassGraph).depths with
  | ok depths =>
    rw [hdepths] at h
    cases h
  | error edge =>
    rw [hdepths] at h
    cases h
    obtain ⟨front, back, hreported⟩ := isReported_of_depths_eq_error hdepths
    have hedge := hreported.mustPrecede
    have hnames := names_of_mustPrecede hedge
    exact ⟨_, _, front, edge, back, rfl, hnames, hreported, fun hcircles ↦
      ⟨_, _, hnames, hcircles _ _ hedge hreported.leads⟩⟩

/-- A circle of two classes beside a class that has to do with neither. -/
def circleBeside : List ClassDecl :=
  [{ name := "A", requires := ["B"] }, { name := "B", requires := ["A"] }, { name := "Free" }]

theorem orderClasses_reports_circleBeside :
    (Emit.orderClasses circleBeside).result = .error (.circular "B" "A") ∧
      NamesCircle circleBeside "B" "A" := by
  have hreport : (Emit.orderClasses circleBeside).result = .error (.circular "B" "A") := by
    decide +kernel
  have hedges : (⟨circleBeside⟩ : ClassGraph).edges = [⟨1, 0⟩, ⟨0, 1⟩] := by decide +kernel
  have hmem : ∀ i j, MustPrecede circleBeside i j ↔ (⟨i, j⟩ : Edge) ∈ [(⟨1, 0⟩ : Edge), ⟨0, 1⟩] :=
    fun i j ↦ by rw [← hedges, mem_edges]
  obtain ⟨_, _, _, edge, _, herror, -, -, hcircle⟩ := orderClasses_reports_edge_to_circle hreport
  cases herror
  refine ⟨hreport, hcircle fun i j hedge _ ↦ ?_⟩
  rcases List.mem_pair.mp ((hmem i j).mp hedge) with heq | heq <;> cases heq
  · exact .single ((hmem 0 1).mpr (by decide))
  · exact .single ((hmem 1 0).mpr (by decide))

/-- A class that requires itself, one that it requires besides, and what that one requires. -/
def beforeCircle : List ClassDecl :=
  [{ name := "X", requires := ["P"] }, { name := "P" }, { name := "A", requires := ["A", "X"] }]

/-- The report names two classes that are on no circle, whether or not something requires the one that is. -/
theorem beforeCircle_reported :
    ((Emit.orderClasses beforeCircle).result = .error (.circular "P" "X") ∧
        ¬ NamesCircle beforeCircle "P" "X") ∧
      (Emit.orderClasses (beforeCircle ++ [{ name := "S", requires := ["A"] }])).result =
          .error (.circular "P" "X") ∧
        ¬ NamesCircle (beforeCircle ++ [{ name := "S", requires := ["A"] }]) "P" "X" := by
  have hfirst : FirstDeclares beforeCircle "P" 1 :=
    (position?_eq_some_iff ⟨beforeCircle⟩ "P" 1).mp (by decide)
  have hfirst' : FirstDeclares (beforeCircle ++ [{ name := "S", requires := ["A"] }]) "P" 1 :=
    (position?_eq_some_iff ⟨beforeCircle ++ [{ name := "S", requires := ["A"] }]⟩ "P" 1).mp (by decide)
  exact ⟨⟨by decide +kernel, not_namesCircle hfirst rfl rfl⟩, by decide +kernel,
    not_namesCircle hfirst' rfl rfl⟩

end SourceGen.ClassGraph
