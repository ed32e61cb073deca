import SourceGen.Proofs.ClassGraph.Order
import Mathlib.Order.Bounds.Defs

/-!
# The order by depth

The depth of a class is the greatest number of edges of a path from it to a class that nothing requires.
Classes come by decreasing depth, and those of one depth in the order of their declaration: the order is a
stable one, so that the depths determine it.
-/

namespace SourceGen.ClassGraph

open Spec (ClassDecl)

/-- Of two positions the one of greater depth comes first, and of two of one depth the earlier one. -/
def ComesFirst (depths : List Nat) (i j : Nat) : Prop :=
  depths.getD j 0 < depths.getD i 0 ∨ depths.getD i 0 = depths.getD j 0 ∧ i < j

/-- An order of all positions in which each comes before those that it comes first of. -/
structure IsDepthOrder (depths order : List Nat) : Prop where
  perm : order.Perm (List.range depths.length)
  sorted : order.Pairwise (ComesFirst depths)

variable {depths order : List Nat}

/-! ## Orders by depth -/

theorem ComesFirst.asymm {i j : Nat} (h : ComesFirst depths i j) : ¬ ComesFirst depths j i := by
  rcases h with hlt | ⟨heq, hlt⟩ <;> rintro (hlt' | ⟨heq', hlt'⟩) <;> omega

theorem IsDepthOrder.unique {other : List Nat} (h : IsDepthOrder depths order)
    (hother : IsDepthOrder depths other) : other = order :=
  List.Perm.eq_of_pairwise (fun _ _ _ _ hfirst hsecond ↦ absurd hsecond hfirst.asymm) hother.sorted
    h.sorted (hother.perm.trans h.perm.symm)

/-- Sorting by depth leaves positions of one depth in their order. -/
theorem filter_orderBy (depths : List Nat) (depth : Nat) :
    (orderBy depths).filter (fun i ↦ depths.getD i 0 = depth) =
      (List.range depths.length).filter fun i ↦ depths.getD i 0 = depth := by
  let alike : List Nat := (List.range depths.length).filter fun i ↦ depths.getD i 0 = depth
  have hdepth : ∀ i ∈ alike, depths.getD i 0 = depth := fun i hi ↦ by
    simpa using (List.mem_filter.mp hi).2
  have hpairwise : alike.Pairwise fun i j ↦ decide (depths.getD j 0 ≤ depths.getD i 0) = true :=
    List.pairwise_of_forall_mem_list fun i hi j hj ↦ by rw [hdepth i hi, hdepth j hj]; simp
  -- The sort is stable and keeps this sublist, which has all positions of the depth.
  have hsublist : alike.Sublist (orderBy depths) :=
    List.sublist_mergeSort (atMost_trans depths) (atMost_total depths) hpairwise List.filter_sublist
  have hfiltered := hsublist.filter fun i ↦ decide (depths.getD i 0 = depth)
  rw [List.filter_eq_self.mpr fun i hi ↦ decide_eq_true (hdepth i hi)] at hfiltered
  exact (hfiltered.eq_of_length ((orderBy_perm depths).filter _).length_eq.symm).symm

theorem isDepthOrder_orderBy (depths : List Nat) : IsDepthOrder depths (orderBy depths) where
  perm := orderBy_perm depths
  sorted := by
    refine List.pairwise_iff_forall_sublist.mpr fun {i j} hpair ↦ ?_
    have hle : depths.getD j 0 ≤ depths.getD i 0 :=
      List.pairwise_iff_forall_sublist.mp (orderBy_pairwise depths) hpair
    rcases Nat.lt_or_eq_of_le hle with hlt | heq
    · exact .inl hlt
    · have halike := hpair.filter fun k ↦ decide (depths.getD k 0 = depths.getD i 0)
      -- Among the positions of their depth the two stand as in the range.
      have hboth : ∀ k ∈ [i, j], decide (depths.getD k 0 = depths.getD i 0) = true := by
        rintro k hk
        rcases List.mem_pair.mp hk with rfl | rfl
        · exact decide_eq_true rfl
        · exact decide_eq_true heq
      rw [filter_orderBy, List.filter_eq_self.mpr hboth] at halike
      have hrange := List.pairwise_lt_range.sublist (halike.trans List.filter_sublist)
      exact .inr ⟨heq.symm, by simpa using hrange⟩

/-! ## Depths of classes -/

theorem isGreatest_height {classes : List ClassDecl} (hacyclic : Acyclic classes) {i : Nat}
    (hi : i < classes.length) : IsGreatest {count | LeadsToLast classes i count} (height classes i) :=
  ⟨leadsToLast_height hacyclic hi, fun _ hpath ↦ hpath.le_height hacyclic hi⟩

/-- Every class has a depth, the greatest number of edges of a path from it to a class that nothing
requires. -/
structure AreDepths (classes : List ClassDecl) (depths : List Nat) : Prop where
  length : depths.length = classes.length
  greatest : ∀ i depth, depths[i]? = some depth → IsGreatest {count | LeadsToLast classes i count} depth

theorem areDepths_heights {classes : List ClassDecl} (hacyclic : Acyclic classes) :
    AreDepths classes ((List.range classes.length).map (height classes)) where
  length := by simp
  greatest i depth hdepth := by
    obtain ⟨hi, rfl⟩ := List.getElem?_eq_some_iff.mp hdepth
    simpa using isGreatest_height hacyclic (by simpa using hi)

/-- Acyclic classes have depths, and they come in the one order that goes by these. -/
theorem orderClasses_by_greatest_depth {classes : List ClassDecl} (hacyclic : Acyclic classes) :
    ∃ depths order sorted, (⟨classes⟩ : ClassGraph).depths = .ok depths ∧ AreDepths classes depths ∧
      (⟨classes⟩ : ClassGraph).order = .ok order ∧ (∀ other, IsDepthOrder depths other ↔ other = order) ∧
        (Emit.orderClasses classes).result = .ok sorted ∧ sorted.map some = order.map (classes[·]?) := by
  obtain ⟨sorted, order, hsorted, horder, -, hclasses⟩ := orderClasses_of_acyclic hacyclic
  have hdepths : (⟨classes⟩ : ClassGraph).depths = .ok _ := depths_eq_heights hacyclic
  refine ⟨_, order, sorted, hdepths, areDepths_heights hacyclic, horder, fun other ↦ ?_, hsorted, hclasses⟩
  have horder' := order_eq_ok_of_acyclic ⟨classes⟩ hacyclic
  obtain rfl : order = _ := Except.ok.inj (horder.symm.trans horder')
  exact ⟨(isDepthOrder_orderBy _).unique, fun h ↦ h ▸ isDepthOrder_orderBy _⟩

/-- Classes two of which are of one depth above the same classes, and one that has to do with no other. -/
def wideClasses : List ClassDecl := [
  { name := "F", requires := ["E", "A"] },
  { name := "E", requires := ["D"] },
  { name := "D", requires := ["B", "C"] },
  { name := "C", requires := ["A"] },
  { name := "B", requires := ["A"] },
  { name := "A" },
  { name := "G" }]

theorem orderClasses_by_greatest_depth_wide :
    Acyclic wideClasses ∧ (⟨wideClasses⟩ : ClassGraph).depths = .ok [0, 1, 2, 3, 3, 4, 0] ∧
      IsGreatest {count | LeadsToLast wideClasses 5 count} 4 ∧
        (⟨wideClasses⟩ : ClassGraph).order = .ok [5, 3, 4, 2, 1, 0, 6] := by
  have hdepths : (⟨wideClasses⟩ : ClassGraph).depths = .ok [0, 1, 2, 3, 3, 4, 0] := by decide +kernel
  have hacyclic : Acyclic wideClasses := acyclic_of_depths_eq_ok hdepths
  obtain ⟨depths, order, _, hdepths', hareDepths, horder, hunique, -, -⟩ :=
    orderClasses_by_greatest_depth hacyclic
  obtain rfl : depths = [0, 1, 2, 3, 3, 4, 0] := Except.ok.inj (hdepths'.symm.trans hdepths)
  refine ⟨hacyclic, hdepths, hareDepths.greatest 5 4 rfl, ?_⟩
  rw [horder, (hunique [5, 3, 4, 2, 1, 0, 6]).mp ⟨by decide, ?_⟩]
  simp [ComesFirst]

end SourceGen.ClassGraph
