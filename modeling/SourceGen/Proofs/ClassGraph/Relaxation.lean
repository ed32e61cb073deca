import SourceGen.Proofs.ClassGraph.Paths
import Mathlib.Order.Nat
import Mathlib.Tactic.ByContra

/-!
# Relaxing depths

A step never lowers a known depth, and what it makes known is the number of edges of a path to a class that
nothing requires. If the known depths account for all such paths up to some number of edges, those after one
round over the edges account for all paths with one more, in whatever order the edges stand, and no path is
missed by ending with a round that changes nothing. All this holds of circles as well.
-/

namespace SourceGen.ClassGraph.Depths

open Spec (ClassDecl)

variable {depths before after : Depths} {edges : List Edge} {edge : Edge}

/-! ## One step -/

@[simp] theorem length_step (depths : Depths) (edge : Edge) :
    (depths.step edge).length = depths.length := by
  unfold step
  split
  · rfl
  · exact List.length_set

theorem at_set (depths : Depths) (i j : Nat) (depth : Nat) :
    Depths.at (depths.set i (some depth)) j =
      if i = j ∧ i < depths.length then some depth else depths.at j := by
  simp only [Depths.at, List.getElem?_set]
  by_cases hij : i = j
  · subst hij
    by_cases hi : i < depths.length
    · simp [hi]
    · simp [hi]
  · simp [hij]

theorem relax_eq_some_iff (depths : Depths) (edge : Edge) (depth : Nat) :
    depths.relax edge = some depth ↔
      ∃ below, depths.at edge.dependent = some below ∧ depth = below + 1 ∧
        ∀ known, depths.at edge.requirement = some known → known < depth := by
  unfold relax
  cases hdependent : depths.at edge.dependent with
  | none => simp
  | some below =>
    cases hrequirement : depths.at edge.requirement with
    | none => simp [eq_comm]
    | some known =>
      by_cases hle : below + 1 ≤ known
      · simp only [if_pos hle, reduceCtorEq, Option.some.injEq, false_iff, not_exists, not_and]
        rintro _ rfl rfl hknown
        exact absurd (hknown known rfl) (by omega)
      · simp only [if_neg hle, Option.some.injEq]
        constructor
        · rintro rfl
          exact ⟨below, rfl, rfl, by rintro _ rfl; omega⟩
        · rintro ⟨_, rfl, rfl, _⟩
          rfl

/-- Whatever is known before is known after, and it is no smaller. -/
def Grows (before after : Depths) : Prop :=
  ∀ i depth, before.at i = some depth → ∃ later, after.at i = some later ∧ depth ≤ later

theorem Grows.refl (depths : Depths) : Grows depths depths :=
  fun _ depth h ↦ ⟨depth, h, le_refl depth⟩

theorem Grows.trans {middle : Depths} (h : Grows before middle) (h' : Grows middle after) :
    Grows before after := by
  intro i depth hdepth
  obtain ⟨between, hbetween, hle⟩ := h i depth hdepth
  obtain ⟨later, hlater, hle'⟩ := h' i between hbetween
  exact ⟨later, hlater, hle.trans hle'⟩

theorem grows_step (depths : Depths) (edge : Edge) : Grows depths (depths.step edge) := by
  unfold step
  cases hrelax : depths.relax edge with
  | none => exact Grows.refl depths
  | some greater =>
    obtain ⟨below, _, _, hknown⟩ := (relax_eq_some_iff depths edge greater).mp hrelax
    intro i depth hdepth
    rw [at_set]
    split
    · next h =>
      rw [← h.1] at hdepth
      exact ⟨greater, rfl, (hknown depth hdepth).le⟩
    · exact ⟨depth, hdepth, le_refl depth⟩

/-- After the step of an edge its requirement lies above its dependent. -/
theorem exists_lt_at_step {below : Nat} (hdependent : depths.at edge.dependent = some below)
    (hlength : edge.requirement < depths.length) :
    ∃ depth, (depths.step edge).at edge.requirement = some depth ∧ below < depth := by
  unfold step
  cases hrelax : depths.relax edge with
  | some greater =>
    obtain ⟨below', hbelow', rfl, _⟩ := (relax_eq_some_iff depths edge greater).mp hrelax
    rw [hdependent, Option.some.injEq] at hbelow'
    refine ⟨below' + 1, ?_, by omega⟩
    simp only [at_set, hlength, and_self, if_true]
  | none =>
    cases hrequirement : depths.at edge.requirement with
    | none => simp [relax, hdependent, hrequirement] at hrelax
    | some known =>
      refine ⟨known, rfl, ?_⟩
      by_contra hle
      simp [relax, hdependent, hrequirement, show ¬ below + 1 ≤ known by omega] at hrelax

/-! ## One round -/

@[simp] theorem length_round (edges : List Edge) (depths : Depths) :
    (depths.round edges).length = depths.length := by
  induction edges generalizing depths with
  | nil => rfl
  | cons edge rest ih => exact (ih (depths.step edge)).trans (length_step depths edge)

theorem grows_round (edges : List Edge) (depths : Depths) : Grows depths (depths.round edges) := by
  induction edges generalizing depths with
  | nil => exact Grows.refl depths
  | cons edge rest ih => exact (grows_step depths edge).trans (ih (depths.step edge))

/-! ## Paths behind known depths -/

variable {classes : List ClassDecl}

/-- Every known depth is the number of edges of a path to a class that nothing requires. -/
def Attained (classes : List ClassDecl) (depths : Depths) : Prop :=
  ∀ i depth, depths.at i = some depth → LeadsToLast classes i depth

theorem Attained.step (h : Attained classes depths)
    (hedge : MustPrecede classes edge.requirement edge.dependent) :
    Attained classes (depths.step edge) := by
  unfold Depths.step
  cases hrelax : depths.relax edge with
  | none => exact h
  | some greater =>
    obtain ⟨below, hbelow, rfl, _⟩ := (relax_eq_some_iff depths edge greater).mp hrelax
    intro i depth hdepth
    rw [at_set] at hdepth
    split at hdepth
    · next hi =>
      cases hdepth
      exact hi.1 ▸ .edge hedge (h edge.dependent below hbelow)
    · exact h i depth hdepth

theorem Attained.round (h : Attained classes depths)
    (hedges : ∀ edge ∈ edges, MustPrecede classes edge.requirement edge.dependent) :
    Attained classes (depths.round edges) := by
  induction edges generalizing depths with
  | nil => exact h
  | cons edge rest ih =>
    obtain ⟨hedge, hrest⟩ := List.forall_mem_cons.mp hedges
    exact ih (h.step hedge) hrest

theorem Attained.rounds (h : Attained classes depths)
    (hedges : ∀ edge ∈ edges, MustPrecede classes edge.requirement edge.dependent) (count : Nat) :
    Attained classes (depths.rounds edges count) := by
  induction count generalizing depths with
  | zero => exact h
  | succ count ih =>
    simp only [Depths.rounds]
    split
    · exact h
    · exact ih (h.round hedges)

/-! ## Paths that known depths account for -/

/-- No path of at most `level` edges to a class that nothing requires is longer than the known depth of the
position where it begins. -/
def Reached (classes : List ClassDecl) (level : Nat) (depths : Depths) : Prop :=
  ∀ i count, count ≤ level → LeadsToLast classes i count →
    ∃ depth, depths.at i = some depth ∧ count ≤ depth

variable {level : Nat}

theorem Reached.grow (h : Reached classes level before) (hgrows : Grows before after) :
    Reached classes level after := by
  intro i count hcount hpath
  obtain ⟨depth, hdepth, hle⟩ := h i count hcount hpath
  obtain ⟨later, hlater, hle'⟩ := hgrows i depth hdepth
  exact ⟨later, hlater, hle.trans hle'⟩

/-- One round accounts for paths of one more edge: whenever the first edge of such a path comes, the rest
of the path is accounted for already. -/
theorem Reached.round (h : Reached classes level depths) (hlength : depths.length = classes.length)
    (hedges : ∀ i j, MustPrecede classes i j → ⟨i, j⟩ ∈ edges) :
    Reached classes (level + 1) (depths.round edges) := by
  intro i count hcount hpath
  cases hpath with
  | last hi hlast => exact h.grow (grows_round edges depths) i 0 (Nat.zero_le level) (.last hi hlast)
  | @edge _ j count hedge hrest =>
    obtain ⟨front, back, rfl⟩ := List.append_of_mem (hedges i j hedge)
    have hround : depths.round (front ++ ⟨i, j⟩ :: back) =
        ((depths.round front).step ⟨i, j⟩).round back := by
      simp [Depths.round, List.foldl_append]
    obtain ⟨below, hbelow, hle⟩ := h.grow (grows_round front depths) j count (by omega) hrest
    obtain ⟨depth, hdepth, hlt⟩ :
        ∃ depth, ((depths.round front).step ⟨i, j⟩).at i = some depth ∧ below < depth :=
      exists_lt_at_step hbelow (by rw [length_round, hlength]; exact hedge.lt_left)
    obtain ⟨later, hlater, hle'⟩ := grows_round back _ _ depth hdepth
    exact ⟨later, by rw [hround]; exact hlater, by omega⟩

/-! ## All rounds -/

@[simp] theorem length_rounds (edges : List Edge) (count : Nat) (depths : Depths) :
    (depths.rounds edges count).length = depths.length := by
  induction count generalizing depths with
  | zero => rfl
  | succ count ih =>
    simp only [rounds]
    split
    · rfl
    · exact (ih (depths.round edges)).trans (length_round edges depths)

/-- Depths that a round leaves alone account for all paths: each further round would account for paths of
one more edge, and it changes nothing. -/
theorem Reached.of_round_eq (h : Reached classes level depths) (hlength : depths.length = classes.length)
    (hedges : ∀ i j, MustPrecede classes i j → ⟨i, j⟩ ∈ edges) (hfixed : depths.round edges = depths)
    (count : Nat) : Reached classes (level + count) depths := by
  induction count with
  | zero => exact h
  | succ count ih =>
    have hround := ih.round hlength hedges
    rwa [hfixed] at hround

theorem Reached.rounds (h : Reached classes level depths) (hlength : depths.length = classes.length)
    (hedges : ∀ i j, MustPrecede classes i j → ⟨i, j⟩ ∈ edges) (count : Nat) :
    Reached classes (level + count) (depths.rounds edges count) := by
  induction count generalizing depths level with
  | zero => exact h
  | succ count ih =>
    simp only [Depths.rounds]
    split
    · next hfixed => exact h.of_round_eq hlength hedges hfixed (count + 1)
    · have hround := h.round hlength hedges
      rw [show level + (count + 1) = level + 1 + count by omega]
      exact ih hround (by rwa [length_round])

end SourceGen.ClassGraph.Depths
