/-!
# Lists without repetitions

`distinct` keeps the first of equal items, so that the order of first occurrences remains.
-/

namespace SourceGen

variable {α : Type} [DecidableEq α]

def distinct : List α → List α
  | [] => []
  | x :: rest => x :: (distinct rest).filter (· ≠ x)

@[simp] theorem mem_distinct {x : α} {items : List α} : x ∈ distinct items ↔ x ∈ items := by
  induction items with
  | nil => rfl
  | cons y rest ih => by_cases h : x = y <;> simp [distinct, ih, h]

theorem nodup_distinct (items : List α) : (distinct items).Nodup := by
  induction items with
  | nil => exact List.nodup_nil
  | cons x rest ih => exact List.nodup_cons.2 ⟨by simp, List.Pairwise.filter _ ih⟩

theorem distinct_append_singleton (front : List α) (x : α) :
    distinct (front ++ [x]) = if x ∈ front then distinct front else distinct front ++ [x] := by
  induction front with
  | nil => rfl
  | cons first rest ih =>
    rw [List.cons_append, distinct, ih, distinct]
    by_cases hfirst : x = first
    · subst hfirst
      by_cases hrest : x ∈ rest <;> simp [hrest]
    · by_cases hrest : x ∈ rest <;> simp [hrest, hfirst]

end SourceGen
