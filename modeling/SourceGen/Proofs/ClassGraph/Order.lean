import SourceGen.Emit.ClassOrder
import SourceGen.Proofs.ClassGraph.Paths
import SourceGen.Proofs.ClassGraph.Relaxation
import Mathlib.Data.Option.Basic

/-!
# Which classes can be ordered

Depths that leave no edge broken fall along every edge, so no class precedes itself. Without such circles
the rounds reach the height of every position, no edge is left broken, and sorting by decreasing height
puts every class behind the classes it requires.
-/

namespace SourceGen.ClassGraph

open Spec (ClassDecl)
open Relation (TransGen)
open Depths (Attained Reached)

/-- An order of positions in which each stands once, behind all that must precede it. -/
structure IsEmissionOrder (classes : List ClassDecl) (order : List Nat) : Prop where
  perm : order.Perm (List.range classes.length)
  precedes : ∀ i j, MustPrecede classes i j → order.idxOf i < order.idxOf j

variable {graph : ClassGraph}

/-! ## Depths that respect edges -/

namespace Depths

variable {depths : Depths} {edge : Edge}

/-- The edge shows no greater depth for its requirement, of which a depth is known. -/
def Respects (depths : Depths) (edge : Edge) : Prop :=
  depths.relax edge = none ∧ (depths.at edge.requirement).isSome = true

/-- Known depths as ranks, below which the unknown ones rank lowest. -/
def rank (depths : Depths) (i : Nat) : Nat :=
  match depths.at i with
  | none => 0
  | some depth => depth + 1

theorem Respects.rank_lt (h : depths.Respects edge) :
    depths.rank edge.dependent < depths.rank edge.requirement := by
  obtain ⟨hrelax, hrequirement⟩ := h
  obtain ⟨known, hknown⟩ := Option.isSome_iff_exists.mp hrequirement
  simp only [rank, hknown]
  cases hdependent : depths.at edge.dependent with
  | none => exact Nat.succ_pos known
  | some below =>
    by_contra hle
    have hgreater : depths.relax edge = some (below + 1) :=
      (relax_eq_some_iff depths edge (below + 1)).mpr
        ⟨below, hdependent, rfl, by rw [hknown]; rintro _ ⟨⟩; simp only at hle; omega⟩
    rw [hgreater] at hrelax
    cases hrelax

/-- Edges that depths respect form no circle. -/
theorem Respects.acyclic {edges : List Edge} (h : ∀ edge ∈ edges, depths.Respects edge) (i : Nat) :
    ¬ TransGen (fun i j ↦ (⟨i, j⟩ : Edge) ∈ edges) i i := by
  have hfalls : ∀ i j, TransGen (fun i j ↦ (⟨i, j⟩ : Edge) ∈ edges) i j →
      depths.rank j < depths.rank i := by
    intro i j hpath
    induction hpath with
    | single hedge => exact (h _ hedge).rank_lt
    | tail _ hedge ih => exact (h _ hedge).rank_lt.trans ih
  exact fun hcircle ↦ lt_irrefl _ (hfalls i i hcircle)

end Depths

theorem Depths.respects_iff {depths : Depths} {edge : Edge} : depths.Respects edge ↔
    ¬ ((depths.relax edge).isSome || (depths.at edge.requirement).isNone) = true := by
  rw [Depths.Respects]
  cases depths.relax edge <;> cases depths.at edge.requirement <;> simp

theorem brokenEdge?_eq_none_iff {depths : Depths} :
    graph.brokenEdge? depths = none ↔ ∀ edge ∈ graph.edges, depths.Respects edge := by
  simp only [brokenEdge?, List.find?_eq_none, Depths.respects_iff]

/-- The broken edge is the first that the depths do not respect. -/
theorem brokenEdge?_eq_some_iff {depths : Depths} {edge : Edge} :
    graph.brokenEdge? depths = some edge ↔ ¬ depths.Respects edge ∧
      ∃ front back, graph.edges = front ++ edge :: back ∧ ∀ other ∈ front, depths.Respects other := by
  simp only [brokenEdge?, List.find?_eq_some_iff_append, Depths.respects_iff, Bool.not_eq_true,
    Bool.not_eq_true', Bool.not_eq_false]

theorem acyclic_of_brokenEdge?_eq_none {depths : Depths}
    (h : graph.brokenEdge? depths = none) : Acyclic graph.classes := by
  intro i hcircle
  refine Depths.Respects.acyclic (brokenEdge?_eq_none_iff.mp h) i ?_
  exact TransGen.mono (fun k l ↦ (graph.mem_edges ⟨k, l⟩).mpr) i i hcircle

theorem acyclic_of_edges_eq_nil (h : graph.edges = []) : Acyclic graph.classes := by
  intro i hcircle
  obtain ⟨j, hedge, _⟩ := TransGen.head'_iff.mp hcircle
  have hmem := (graph.mem_edges ⟨i, j⟩).mpr hedge
  rw [h] at hmem
  cases hmem

/-! ## Depths of acyclic graphs -/

@[simp] theorem length_initialDepths (graph : ClassGraph) :
    graph.initialDepths.length = graph.classes.length := by
  rw [initialDepths, List.length_map, List.length_range]

@[simp] theorem length_relaxedDepths (graph : ClassGraph) :
    graph.relaxedDepths.length = graph.classes.length := by
  rw [relaxedDepths, Depths.length_rounds, length_initialDepths]

theorem initialDepths_at {i : Nat} (hi : i < graph.classes.length) :
    graph.initialDepths.at i =
      if graph.edges.any (·.requirement == i) then none else some 0 := by
  simp [Depths.at, initialDepths, hi]

theorem lt_length_of_initialDepths {i depth : Nat} (h : graph.initialDepths.at i = some depth) :
    i < graph.classes.length := by
  by_contra hle
  have hnone : graph.initialDepths[i]? = none :=
    List.getElem?_eq_none (by rw [length_initialDepths]; exact not_lt.mp hle)
  rw [Depths.at, hnone] at h
  cases h

theorem any_requirement_iff (graph : ClassGraph) (i : Nat) :
    graph.edges.any (·.requirement == i) = true ↔ ∃ j, MustPrecede graph.classes i j := by
  simp only [List.any_eq_true, beq_iff_eq]
  constructor
  · rintro ⟨edge, hmem, rfl⟩
    exact ⟨edge.dependent, (graph.mem_edges edge).mp hmem⟩
  · rintro ⟨j, hedge⟩
    exact ⟨⟨i, j⟩, (graph.mem_edges ⟨i, j⟩).mpr hedge, rfl⟩

theorem attained_initialDepths (graph : ClassGraph) : Attained graph.classes graph.initialDepths := by
  intro i depth hdepth
  have hi := lt_length_of_initialDepths hdepth
  rw [initialDepths_at hi] at hdepth
  split at hdepth
  · cases hdepth
  · next hlast =>
    cases hdepth
    exact .last hi (not_exists.mp (mt (graph.any_requirement_iff i).mpr hlast))

theorem reached_initialDepths (graph : ClassGraph) : Reached graph.classes 0 graph.initialDepths := by
  intro i count hcount hpath
  cases hpath with
  | last hi hlast =>
    rw [initialDepths_at hi, if_neg (mt (graph.any_requirement_iff i).mp (not_exists.mpr hlast))]
    exact ⟨0, rfl, le_refl 0⟩
  | edge _ _ => omega

/-- Whatever the rounds make known belongs to a path to a class that nothing requires. -/
theorem attained_relaxedDepths (graph : ClassGraph) : Attained graph.classes graph.relaxedDepths :=
  graph.attained_initialDepths.rounds (fun edge ↦ (graph.mem_edges edge).mp) _

/-- The rounds account for every path that is as long as a chain of distinct classes can be. -/
theorem reached_relaxedDepths (graph : ClassGraph) :
    Reached graph.classes (graph.classes.length - 1) graph.relaxedDepths := by
  have hrounds := graph.reached_initialDepths.rounds graph.length_initialDepths
    (fun i j ↦ (graph.mem_edges ⟨i, j⟩).mpr) (graph.classes.length - 1)
  rwa [Nat.zero_add] at hrounds

/-- The rounds end with every position at its height. -/
theorem relaxedDepths_at (hacyclic : Acyclic graph.classes) {i : Nat}
    (hi : i < graph.classes.length) :
    graph.relaxedDepths.at i = some (height graph.classes i) := by
  have hheight := height_lt_length hacyclic hi
  obtain ⟨depth, hdepth, hle⟩ := graph.reached_relaxedDepths i (height graph.classes i) (by omega)
    (leadsToLast_height hacyclic hi)
  have hge := (graph.attained_relaxedDepths i depth hdepth).le_height hacyclic hi
  rw [hdepth, le_antisymm hge hle]

/-- The rounds end with depths that respect every edge that does not lead to a circle. -/
theorem respects_relaxedDepths {i j : Nat} (hedge : MustPrecede graph.classes i j)
    (hcircle : ¬ LeadsToCircle graph.classes j) : graph.relaxedDepths.Respects ⟨i, j⟩ := by
  -- With the edge in front, a path from the dependent is still short enough to be accounted for.
  have hreached : ∀ count, LeadsToLast graph.classes j count →
      ∃ depth, graph.relaxedDepths.at i = some depth ∧ count + 1 ≤ depth := by
    intro count hpath
    have hlength := hpath.lt_length hcircle hedge
    exact graph.reached_relaxedDepths i (count + 1) (by omega) (.edge hedge hpath)
  obtain ⟨count, hpath⟩ := exists_leadsToLast hcircle hedge.lt_right
  obtain ⟨known, hknown, -⟩ := hreached count hpath
  refine ⟨Option.eq_none_iff_forall_ne_some.mpr fun greater hgreater ↦ ?_, by simp [hknown]⟩
  obtain ⟨below, hbelow, rfl, hless⟩ := (Depths.relax_eq_some_iff _ _ _).mp hgreater
  obtain ⟨depth, hdepth, hle⟩ := hreached below (graph.attained_relaxedDepths j below hbelow)
  have hlt := hless depth hdepth
  omega

theorem brokenEdge?_relaxedDepths (hacyclic : Acyclic graph.classes) :
    graph.brokenEdge? graph.relaxedDepths = none :=
  brokenEdge?_eq_none_iff.mpr fun edge hmem ↦
    respects_relaxedDepths ((graph.mem_edges edge).mp hmem) (hacyclic.not_leadsToCircle edge.dependent)

theorem relaxedDepths_values (hacyclic : Acyclic graph.classes) :
    graph.relaxedDepths.map (·.getD 0) =
      (List.range graph.classes.length).map (height graph.classes) := by
  refine List.ext_getElem (by simp) fun i hi _ ↦ ?_
  rw [List.length_map] at hi
  have hat := relaxedDepths_at hacyclic (by rwa [← length_relaxedDepths])
  rw [Depths.at, List.getElem?_eq_getElem hi, Option.join_some] at hat
  simp [hat]

/-- A path to a class that nothing requires ends where a depth is known from the start. -/
theorem not_all_isNone_of_leadsToLast {i count : Nat} (h : LeadsToLast graph.classes i count) :
    ¬ graph.initialDepths.all Option.isNone = true := by
  obtain ⟨k, hk, hlast⟩ := h.exists_last
  obtain ⟨depth, hdepth, -⟩ := graph.reached_initialDepths k 0 (le_refl 0) (.last hk hlast)
  have hlength : k < graph.initialDepths.length := by rwa [length_initialDepths]
  rw [Depths.at, List.getElem?_eq_getElem hlength, Option.join_some] at hdepth
  intro hall
  have hnone := List.all_eq_true.mp hall _ (List.getElem_mem hlength)
  rw [hdepth] at hnone
  cases hnone

/-- The depths of an acyclic graph are the heights of its positions. -/
theorem depths_eq_heights (hacyclic : Acyclic graph.classes) :
    graph.depths = .ok ((List.range graph.classes.length).map (height graph.classes)) := by
  unfold depths
  cases hedges : graph.edges with
  | nil =>
    have hrounds : ∀ (count : Nat) (depths : Depths), depths.rounds [] count = depths
      | 0, _ => rfl
      | _ + 1, _ => if_pos rfl
    have hrelaxed : graph.relaxedDepths = graph.initialDepths := by
      rw [relaxedDepths, hedges, hrounds]
    apply congrArg Except.ok
    calc graph.initialDepths.map (·.getD 0) = graph.relaxedDepths.map (·.getD 0) := by rw [hrelaxed]
      _ = (List.range graph.classes.length).map (height graph.classes) :=
        relaxedDepths_values hacyclic
  | cons edge rest =>
    have hedge := (graph.mem_edges edge).mp (by rw [hedges]; exact List.mem_cons_self)
    have hsome := not_all_isNone_of_leadsToLast (leadsToLast_height hacyclic hedge.lt_left)
    simp only [if_neg hsome, brokenEdge?_relaxedDepths hacyclic, relaxedDepths_values hacyclic]

theorem acyclic_of_depths_eq_ok {depths : List Nat} (h : graph.depths = .ok depths) :
    Acyclic graph.classes := by
  unfold ClassGraph.depths at h
  cases hedges : graph.edges with
  | nil => exact acyclic_of_edges_eq_nil hedges
  | cons edge rest =>
    simp only [hedges] at h
    split at h
    · cases h
    · split at h
      · cases h
      · next hbroken => exact acyclic_of_brokenEdge?_eq_none hbroken

/-! ## Sorting by depth -/

theorem orderBy_perm (depths : List Nat) : (orderBy depths).Perm (List.range depths.length) :=
  List.mergeSort_perm _ _

theorem atMost_trans (depths : List Nat) (i j k : Nat)
    (hij : decide (depths.getD j 0 ≤ depths.getD i 0) = true)
    (hjk : decide (depths.getD k 0 ≤ depths.getD j 0) = true) :
    decide (depths.getD k 0 ≤ depths.getD i 0) = true := by
  simp only [decide_eq_true_eq] at *
  omega

theorem atMost_total (depths : List Nat) (i j : Nat) :
    (decide (depths.getD j 0 ≤ depths.getD i 0) || decide (depths.getD i 0 ≤ depths.getD j 0)) = true := by
  simp only [Bool.or_eq_true, decide_eq_true_eq]
  omega

theorem orderBy_pairwise (depths : List Nat) :
    (orderBy depths).Pairwise fun i j ↦ depths.getD j 0 ≤ depths.getD i 0 :=
  (List.pairwise_mergeSort (atMost_trans depths) (atMost_total depths) _).imp of_decide_eq_true

/-- Of two positions the one of greater depth comes first. -/
theorem idxOf_orderBy_lt {depths : List Nat} {i j : Nat} (hi : i < depths.length)
    (hj : j < depths.length) (h : depths.getD j 0 < depths.getD i 0) :
    (orderBy depths).idxOf i < (orderBy depths).idxOf j := by
  have hmem : ∀ k < depths.length, k ∈ orderBy depths := fun k hk ↦
    (orderBy_perm depths).mem_iff.mpr (List.mem_range.mpr hk)
  have hi' := List.idxOf_lt_length_of_mem (hmem i hi)
  have hj' := List.idxOf_lt_length_of_mem (hmem j hj)
  by_contra hle
  rcases Nat.lt_or_eq_of_le (not_lt.mp hle) with hlt | heq
  · have hsorted :=
      List.pairwise_iff_getElem.mp (orderBy_pairwise depths) _ _ hj' hi' hlt
    simp only [List.getElem_idxOf] at hsorted
    omega
  · have hsame : i = j := by
      rw [← List.getElem_idxOf hi', ← List.getElem_idxOf hj']
      simp only [heq]
    rw [hsame] at h
    exact lt_irrefl _ h

theorem isEmissionOrder_orderBy_heights {classes : List ClassDecl} (hacyclic : Acyclic classes) :
    IsEmissionOrder classes (orderBy ((List.range classes.length).map (height classes))) where
  perm := by simpa using orderBy_perm ((List.range classes.length).map (height classes))
  precedes i j hedge := by
    have hi := hedge.lt_left
    have hj := hedge.lt_right
    exact idxOf_orderBy_lt (by simpa using hi) (by simpa using hj)
      (by simpa [List.getD_eq_getElem?_getD, hi, hj] using hedge.height_lt hacyclic)

/-! ## The order of classes -/

theorem order_eq_ok_of_acyclic (graph : ClassGraph) (hacyclic : Acyclic graph.classes) :
    graph.order =
      .ok (orderBy ((List.range graph.classes.length).map (height graph.classes))) := by
  rw [order, depths_eq_heights hacyclic]
  rfl

theorem order_eq_error_of_not_acyclic (graph : ClassGraph) (hcircle : ¬ Acyclic graph.classes) :
    ∃ edge, graph.order = .error edge := by
  cases hdepths : graph.depths with
  | ok depths => exact absurd (acyclic_of_depths_eq_ok hdepths) hcircle
  | error edge => exact ⟨edge, by rw [order, hdepths]; rfl⟩

/-- Positions below the number of classes pick a class each. -/
theorem map_some_filterMap_getElem? {classes : List ClassDecl} {order : List Nat}
    (h : ∀ i ∈ order, i < classes.length) :
    (order.filterMap (classes[·]?)).map some = order.map (classes[·]?) := by
  induction order with
  | nil => rfl
  | cons i order ih =>
    have hi := List.getElem?_eq_getElem (h i List.mem_cons_self)
    rw [List.filterMap_cons_some hi, List.map_cons, List.map_cons, hi,
      ih fun k hk ↦ h k (List.mem_cons_of_mem i hk)]

theorem orderClasses_of_acyclic {classes : List ClassDecl} (hacyclic : Acyclic classes) :
    ∃ sorted order, (Emit.orderClasses classes).result = .ok sorted ∧
      (⟨classes⟩ : ClassGraph).order = .ok order ∧ IsEmissionOrder classes order ∧
        sorted.map some = order.map (classes[·]?) := by
  have horder := order_eq_ok_of_acyclic ⟨classes⟩ hacyclic
  have hemission := isEmissionOrder_orderBy_heights hacyclic
  refine ⟨_, _, ?_, horder, hemission, map_some_filterMap_getElem? fun i hi ↦ ?_⟩
  · simp only [Emit.orderClasses, resolve, horder]
    rfl
  · exact List.mem_range.mp (hemission.perm.mem_iff.mp hi)

theorem orderClasses_of_not_acyclic {classes : List ClassDecl} (hcircle : ¬ Acyclic classes) :
    ∃ requirement dependent,
      (Emit.orderClasses classes).result = .error (.circular requirement dependent) := by
  obtain ⟨edge, hedge⟩ := order_eq_error_of_not_acyclic ⟨classes⟩ hcircle
  refine ⟨nameAt ⟨classes⟩ edge.requirement, nameAt ⟨classes⟩ edge.dependent, ?_⟩
  simp only [Emit.orderClasses, resolve, hedge]
  rfl

/-- An order of the positions orders the classes without loss. -/
theorem perm_of_isEmissionOrder {classes sorted : List ClassDecl} {order : List Nat}
    (h : IsEmissionOrder classes order) (hsorted : sorted.map some = order.map (classes[·]?)) :
    sorted.Perm classes := by
  have hclasses : (List.range classes.length).map (classes[·]?) = classes.map some := by
    apply List.ext_getElem
    · simp
    · intro i hi _
      rw [List.length_map, List.length_range] at hi
      simp [hi]
  apply (List.map_perm_map_iff (Option.some_injective ClassDecl)).mp
  calc sorted.map some = order.map (classes[·]?) := hsorted
    List.Perm _ ((List.range classes.length).map (classes[·]?)) := h.perm.map _
    _ = classes.map some := hclasses

/-- Ordering classes succeeds exactly on acyclic requirements. It then gives every class once, behind
the classes it requires; otherwise it reports a circular requirement. -/
theorem orderClasses_requirements_first (classes : List ClassDecl) :
    ((∃ sorted, (Emit.orderClasses classes).result = .ok sorted) ↔ Acyclic classes) ∧
      (∀ sorted, (Emit.orderClasses classes).result = .ok sorted →
        ∃ order, (⟨classes⟩ : ClassGraph).order = .ok order ∧ IsEmissionOrder classes order ∧
          sorted.map some = order.map (classes[·]?)) ∧
      (¬ Acyclic classes → ∃ requirement dependent,
        (Emit.orderClasses classes).result = .error (.circular requirement dependent)) := by
  have hacyclic : ∀ sorted, (Emit.orderClasses classes).result = .ok sorted → Acyclic classes := by
    intro sorted hsorted
    by_contra hcircle
    obtain ⟨_, _, herror⟩ := orderClasses_of_not_acyclic hcircle
    rw [hsorted] at herror
    cases herror
  refine ⟨⟨fun ⟨sorted, hsorted⟩ ↦ hacyclic sorted hsorted, fun h ↦ ?_⟩, fun sorted hsorted ↦ ?_,
    orderClasses_of_not_acyclic⟩
  · obtain ⟨sorted, _, hsorted, _⟩ := orderClasses_of_acyclic h
    exact ⟨sorted, hsorted⟩
  · obtain ⟨sorted', order, hsorted', horder, hemission, hclasses⟩ :=
      orderClasses_of_acyclic (hacyclic sorted hsorted)
    rw [hsorted, Except.ok.injEq] at hsorted'
    subst hsorted'
    exact ⟨order, horder, hemission, hclasses⟩

end SourceGen.ClassGraph
