import Mathlib.Data.List.Lex
import Mathlib.Data.List.Nodup
import Mathlib.Data.Prod.Lex
import Mathlib.Data.String.Basic
import SourceGen.Files.Path

/-!
# The order of paths

Paths are ordered as lists of their components, the first in which they differ deciding, and components by
their kind and then by their text. That is a linear order, so sorted paths stand in one order only.
-/

namespace SourceGen.Files

namespace Component

/-- The text of a name; no other component has one. -/
def text : Component → String
  | name text => text
  | _ => ""

/-- What a component is ordered by. -/
def key (component : Component) : ℕ ×ₗ String :=
  toLex (component.rank, component.text)

theorem key_injective : Function.Injective key := by
  intro first second h
  obtain ⟨hrank, htext⟩ := Prod.mk.inj (toLex_inj.mp h)
  cases first <;> cases second <;> simp_all [rank, text]

theorem le_iff {first second : Component} : first.le second = true ↔ first.key ≤ second.key := by
  rw [key, key, Prod.Lex.toLex_le_toLex]
  cases first <;> cases second <;> simp [le, rank, text]

end Component

/-- What a path is ordered by. -/
def pathKey (path : String) : List (ℕ ×ₗ String) :=
  (components path).map Component.key

theorem pathLe_iff_map_key {first second : List Component} :
    pathLe first second = true ↔ first.map Component.key ≤ second.map Component.key := by
  induction first generalizing second with
  | nil => exact iff_of_true rfl (not_lt.mp (List.not_lt_nil _))
  | cons a rest ih =>
    cases second with
    | nil => exact iff_of_false Bool.false_ne_true (not_le.mpr (List.nil_lt_cons _ _))
    | cons b more =>
      rw [pathLe, List.map_cons, List.map_cons, ← not_lt, List.cons_lt_cons_iff]
      by_cases h : a = b
      · rw [if_pos h, ih, ← not_lt]
        simp [h]
      · have hkey : b.key ≠ a.key := Component.key_injective.ne (Ne.symm h)
        rw [if_neg h, Component.le_iff, ← not_lt]
        simp [hkey]

theorem pathLe_iff {first second : String} :
    pathLe (components first) (components second) = true ↔ pathKey first ≤ pathKey second :=
  pathLe_iff_map_key

/-- Paths that come before each other have the same components. -/
theorem components_eq_of_pathKey_eq {first second : String} (h : pathKey first = pathKey second) :
    components first = components second :=
  Component.key_injective.list_map h

/-- The paths in their order. -/
def sortPaths (paths : List String) : List String :=
  paths.mergeSort fun first second ↦ pathLe (components first) (components second)

theorem sortPaths_perm (paths : List String) : (sortPaths paths).Perm paths :=
  List.mergeSort_perm paths _

theorem pairwise_sortPaths (paths : List String) :
    (sortPaths paths).Pairwise fun first second ↦ pathKey first ≤ pathKey second := by
  refine (List.pairwise_mergeSort ?_ ?_ paths).imp pathLe_iff.mp
  · intro first second third hfirst hsecond
    exact pathLe_iff.mpr ((pathLe_iff.mp hfirst).trans (pathLe_iff.mp hsecond))
  · intro first second
    rw [Bool.or_eq_true, pathLe_iff, pathLe_iff]
    exact le_total _ _

/-- Paths with different components stand in one order only. -/
theorem eq_of_pairwise_pathKey {paths others : List String} (hperm : paths.Perm others)
    (hinj : ∀ first ∈ paths, ∀ second ∈ others, components first = components second → first = second)
    (hpaths : paths.Pairwise fun first second ↦ pathKey first ≤ pathKey second)
    (hothers : others.Pairwise fun first second ↦ pathKey first ≤ pathKey second) : paths = others := by
  refine hperm.eq_of_pairwise (fun first second hfirst hsecond hle hback ↦ ?_) hpaths hothers
  exact hinj first hfirst second hsecond (components_eq_of_pathKey_eq (le_antisymm hle hback))

/-- Sorting gives the one sorted order of paths with different components. -/
theorem sortPaths_eq_of_perm {paths sorted : List String} (hperm : paths.Perm sorted)
    (hdistinct : (sorted.map components).Nodup)
    (hsorted : sorted.Pairwise fun first second ↦ pathLe (components first) (components second) = true) :
    sortPaths paths = sorted := by
  have hsame := (sortPaths_perm paths).trans hperm
  refine eq_of_pairwise_pathKey hsame (fun first hfirst second hsecond heq ↦ ?_) (pairwise_sortPaths paths)
    (hsorted.imp pathLe_iff.mp)
  exact List.inj_on_of_nodup_map hdistinct (hsame.mem_iff.mp hfirst) hsecond heq

end SourceGen.Files
