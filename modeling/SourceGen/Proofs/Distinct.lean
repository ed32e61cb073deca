import Mathlib.Data.List.Basic
import SourceGen.Distinct

/-!
# First occurrences

The distinct items of a list stand in the order of their first occurrence. What is first in a list to pass a
test is first among the distinct items, and the distinct items of two lists one behind the other are those of
the first and then those of the second that the first has not.
-/

namespace SourceGen

variable {α : Type} [DecidableEq α]

theorem find?_distinct (p : α → Bool) (items : List α) : (distinct items).find? p = items.find? p := by
  induction items with
  | nil => rfl
  | cons first rest ih =>
    by_cases hfirst : p first = true
    · rw [distinct, List.find?_cons_of_pos hfirst, List.find?_cons_of_pos hfirst]
    · have hother : (fun a ↦ decide (a ≠ first) && p a) = p := by
        funext a
        by_cases ha : a = first
        · simp [ha, hfirst]
        · simp [ha]
      rw [distinct, List.find?_cons_of_neg hfirst, List.find?_cons_of_neg hfirst, List.find?_filter]
      simpa only [Bool.decide_and, Bool.decide_eq_true, hother] using ih

theorem distinct_of_nodup {items : List α} (h : items.Nodup) : distinct items = items := by
  induction items with
  | nil => rfl
  | cons first rest ih =>
    obtain ⟨hfirst, hrest⟩ := List.nodup_cons.mp h
    rw [distinct, ih hrest, List.filter_eq_self.mpr]
    rintro other hother
    exact decide_eq_true fun heq ↦ hfirst (heq ▸ hother)

theorem distinct_filter (p : α → Bool) (items : List α) :
    distinct (items.filter p) = (distinct items).filter p := by
  induction items with
  | nil => rfl
  | cons first rest ih =>
    by_cases hfirst : p first = true
    · rw [List.filter_cons_of_pos hfirst, distinct, distinct, List.filter_cons_of_pos hfirst, ih,
        List.filter_filter, List.filter_filter]
      simp only [Bool.and_comm]
    · have hother : ∀ a ∈ distinct rest, (p a && decide (a ≠ first)) = p a := by
        intro a _
        by_cases ha : a = first
        · simp [ha, hfirst]
        · simp [ha]
      rw [List.filter_cons_of_neg hfirst, distinct, List.filter_cons_of_neg hfirst, ih, List.filter_filter]
      exact (List.filter_congr hother).symm

theorem distinct_append (front back : List α) :
    distinct (front ++ back) = distinct front ++ (distinct back).filter (· ∉ front) := by
  induction front with
  | nil => simp [distinct]
  | cons first rest ih =>
    rw [List.cons_append, distinct, ih, distinct, List.filter_append, List.filter_filter, List.cons_append]
    congr 2
    refine List.filter_congr fun other _ ↦ ?_
    simp [List.mem_cons, not_or]

/-- Distinct items follow one another as they do where each occurs first. -/
theorem pairwise_idxOf_distinct (items : List α) :
    (distinct items).Pairwise fun first second ↦ items.idxOf first < items.idxOf second := by
  induction items with
  | nil => exact .nil
  | cons head rest ih =>
    rw [distinct, List.pairwise_cons]
    constructor
    · intro other hother
      have hne : other ≠ head := of_decide_eq_true (List.mem_filter.mp hother).2
      rw [List.idxOf_cons_self, List.idxOf_cons_ne _ hne.symm]
      exact Nat.zero_lt_succ _
    · refine (ih.filter _).imp_of_mem fun {first second} hfirst hsecond hlt ↦ ?_
      have hfirst' : first ≠ head := of_decide_eq_true (List.mem_filter.mp hfirst).2
      have hsecond' : second ≠ head := of_decide_eq_true (List.mem_filter.mp hsecond).2
      rw [List.idxOf_cons_ne _ hfirst'.symm, List.idxOf_cons_ne _ hsecond'.symm]
      exact Nat.succ_lt_succ hlt

end SourceGen
