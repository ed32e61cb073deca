import SourceGen.ClassGraph
import Mathlib.Data.List.Chain
import Mathlib.Data.List.Nodup
import Mathlib.Data.List.Perm.Subperm
import Mathlib.Data.Nat.Find
import Mathlib.Logic.Relation

/-!
# Paths through the requirements of classes

A class must precede another when the other requires its name and it is the first to declare that
name. The edges of a class graph are exactly these pairs of positions. A path that does not lead to a circle
visits no position twice, so such paths are shorter than the list of classes and end at a class that nothing
requires. Where no class precedes itself, directly or through others, every position has a greatest length of
paths that begin there, its height.
-/

namespace SourceGen.ClassGraph

open Spec (ClassDecl)
open Relation (ReflTransGen TransGen)

/-- Position `i` is the first that declares `name`. -/
def FirstDeclares (classes : List ClassDecl) (name : String) (i : Nat) : Prop :=
  (∃ cls, classes[i]? = some cls ∧ cls.name = name) ∧
    ∀ k < i, ∀ cls, classes[k]? = some cls → cls.name ≠ name

/-- The class at `j` requires a name that the class at `i` is the first to declare. -/
def MustPrecede (classes : List ClassDecl) (i j : Nat) : Prop :=
  ∃ cls, classes[j]? = some cls ∧ ∃ name ∈ cls.requires, FirstDeclares classes name i

/-- No class requires itself, be it directly or through other classes. -/
def Acyclic (classes : List ClassDecl) : Prop :=
  ∀ i, ¬ TransGen (MustPrecede classes) i i

/-- A class that requires itself stands at a position or requires, directly or through others, the class that
does. -/
def LeadsToCircle (classes : List ClassDecl) (i : Nat) : Prop :=
  ∃ k, ReflTransGen (MustPrecede classes) i k ∧ TransGen (MustPrecede classes) k k

/-- A path of the given number of edges leads from a position to that of a class that nothing requires. -/
inductive LeadsToLast (classes : List ClassDecl) : Nat → Nat → Prop
  | last {i : Nat} (hi : i < classes.length) (h : ∀ j, ¬ MustPrecede classes i j) :
      LeadsToLast classes i 0
  | edge {i j count : Nat} (h : MustPrecede classes i j) (hrest : LeadsToLast classes j count) :
      LeadsToLast classes i (count + 1)

/-- Positions each of which must precede the next. -/
def IsPath (classes : List ClassDecl) (path : List Nat) : Prop :=
  path.IsChain (MustPrecede classes)

/-! ## Edges -/

theorem position?_eq_some_iff (graph : ClassGraph) (name : String) (i : Nat) :
    graph.position? name = some i ↔ FirstDeclares graph.classes name i := by
  rw [position?, List.findIdx?_eq_some_iff_getElem]
  constructor
  · rintro ⟨hi, hname, hbefore⟩
    refine ⟨⟨_, List.getElem?_eq_getElem hi, by simpa using hname⟩, ?_⟩
    intro k hk cls hcls
    obtain ⟨hlength, rfl⟩ := List.getElem?_eq_some_iff.mp hcls
    simpa using hbefore k hk
  · rintro ⟨⟨cls, hcls, hname⟩, hbefore⟩
    obtain ⟨hi, rfl⟩ := List.getElem?_eq_some_iff.mp hcls
    refine ⟨hi, by simpa using hname, ?_⟩
    intro k hk
    simpa using hbefore k hk _ (List.getElem?_eq_getElem (hk.trans hi))

theorem mem_edgesFrom (graph : ClassGraph) (edge : Edge) (start : Nat) (classes : List ClassDecl) :
    edge ∈ graph.edgesFrom start classes ↔
      ∃ k cls, classes[k]? = some cls ∧ edge.dependent = start + k ∧
        ∃ name ∈ cls.requires, graph.position? name = some edge.requirement := by
  induction classes generalizing start with
  | nil => simp [edgesFrom]
  | cons cls rest ih =>
    obtain ⟨requirement, dependent⟩ := edge
    simp only [edgesFrom, List.mem_append, ih, List.mem_filterMap, Option.map_eq_some_iff,
      Edge.mk.injEq]
    constructor
    · rintro (⟨name, hname, j, hj, rfl, rfl⟩ | ⟨k, other, hother, rfl, hrequires⟩)
      · exact ⟨0, cls, rfl, rfl, name, hname, hj⟩
      · exact ⟨k + 1, other, hother, by omega, hrequires⟩
    · rintro ⟨k, other, hother, rfl, name, hname, hj⟩
      cases k with
      | zero =>
        obtain rfl : cls = other := by simpa using hother
        exact Or.inl ⟨name, hname, requirement, hj, rfl, rfl⟩
      | succ k => exact Or.inr ⟨k, other, hother, by omega, name, hname, hj⟩

/-- The edges are the pairs of which the first must precede the second. -/
theorem mem_edges (graph : ClassGraph) (edge : Edge) :
    edge ∈ graph.edges ↔ MustPrecede graph.classes edge.requirement edge.dependent := by
  rw [edges, mem_distinct, mem_edgesFrom]
  constructor
  · rintro ⟨k, cls, hcls, hdependent, name, hname, hposition⟩
    rw [hdependent, Nat.zero_add]
    exact ⟨cls, hcls, name, hname, (graph.position?_eq_some_iff name _).mp hposition⟩
  · rintro ⟨cls, hcls, name, hname, hfirst⟩
    exact ⟨edge.dependent, cls, hcls, (Nat.zero_add _).symm, name, hname,
      (graph.position?_eq_some_iff name _).mpr hfirst⟩

theorem MustPrecede.lt_left {classes : List ClassDecl} {i j : Nat}
    (h : MustPrecede classes i j) : i < classes.length := by
  obtain ⟨_, _, _, _, ⟨_, hcls, _⟩, _⟩ := h
  exact (List.getElem?_eq_some_iff.mp hcls).1

theorem MustPrecede.lt_right {classes : List ClassDecl} {i j : Nat}
    (h : MustPrecede classes i j) : j < classes.length := by
  obtain ⟨_, hcls, _⟩ := h
  exact (List.getElem?_eq_some_iff.mp hcls).1

/-! ## Paths -/

variable {classes : List ClassDecl}

theorem IsPath.lt_length {i j : Nat} {rest : List Nat}
    (h : IsPath classes (i :: j :: rest)) : ∀ k ∈ i :: j :: rest, k < classes.length := by
  induction rest generalizing i j with
  | nil =>
    have hedge := (List.isChain_cons_cons.mp h).1
    simp [hedge.lt_left, hedge.lt_right]
  | cons next rest ih =>
    obtain ⟨hedge, htail⟩ := List.isChain_cons_cons.mp h
    intro k hk
    rcases List.mem_cons.mp hk with rfl | hk
    · exact hedge.lt_left
    · exact ih htail k hk

theorem Acyclic.not_leadsToCircle (hacyclic : Acyclic classes) (i : Nat) :
    ¬ LeadsToCircle classes i := by
  rintro ⟨k, -, hcircle⟩
  exact hacyclic k hcircle

theorem IsPath.pairwise {path : List Nat} (h : IsPath classes path) :
    path.Pairwise (TransGen (MustPrecede classes)) :=
  (h.imp fun _ _ hedge ↦ TransGen.single hedge : path.IsChain (TransGen (MustPrecede classes))).pairwise

theorem IsPath.reaches {i : Nat} {rest : List Nat} (h : IsPath classes (i :: rest)) :
    ∀ k ∈ i :: rest, ReflTransGen (MustPrecede classes) i k := by
  intro k hk
  rcases List.mem_cons.mp hk with rfl | hk
  · exact .refl
  · exact ((List.pairwise_cons.mp h.pairwise).1 k hk).to_reflTransGen

/-- A path that does not lead to a circle visits no position twice. -/
theorem IsPath.nodup {i : Nat} {rest : List Nat} (hcircle : ¬ LeadsToCircle classes i)
    (h : IsPath classes (i :: rest)) : (i :: rest).Nodup := by
  refine h.pairwise.imp_of_mem ?_
  rintro k _ hk - hpath rfl
  exact hcircle ⟨k, h.reaches k hk, hpath⟩

/-- Positions that are told apart are no more than there are classes. -/
theorem length_le_of_nodup {path : List Nat} (hnodup : path.Nodup)
    (hbelow : ∀ k ∈ path, k < classes.length) : path.length ≤ classes.length := by
  have hsubset : path ⊆ List.range classes.length := fun k hk ↦ List.mem_range.mpr (hbelow k hk)
  calc path.length ≤ (List.range classes.length).length := (hnodup.subperm hsubset).length_le
    _ = classes.length := List.length_range

/-- Paths that do not lead to a circle have fewer edges than there are classes. -/
theorem IsPath.length_lt {i : Nat} {rest : List Nat} (hcircle : ¬ LeadsToCircle classes i)
    (hi : i < classes.length) (h : IsPath classes (i :: rest)) : rest.length < classes.length := by
  have hbelow : ∀ k ∈ i :: rest, k < classes.length := by
    cases rest with
    | nil => simpa using hi
    | cons j rest => exact IsPath.lt_length h
  exact length_le_of_nodup (h.nodup hcircle) hbelow

/-! ## Paths to classes that nothing requires -/

theorem LeadsToLast.exists_path {i count : Nat} (h : LeadsToLast classes i count) :
    ∃ rest, rest.length = count ∧ IsPath classes (i :: rest) := by
  induction h with
  | last _ _ => exact ⟨[], rfl, List.isChain_singleton _⟩
  | edge hedge _ ih =>
    obtain ⟨rest, rfl, hpath⟩ := ih
    exact ⟨_ :: rest, rfl, List.isChain_cons_cons.mpr ⟨hedge, hpath⟩⟩

theorem LeadsToLast.exists_last {i count : Nat} (h : LeadsToLast classes i count) :
    ∃ k < classes.length, ∀ j, ¬ MustPrecede classes k j := by
  induction h with
  | last hi hlast => exact ⟨_, hi, hlast⟩
  | edge _ _ ih => exact ih

/-- A path can be made longer until it ends. -/
theorem exists_leadsToLast_or_path {i : Nat} (hi : i < classes.length) (count : Nat) :
    (∃ count, LeadsToLast classes i count) ∨
      ∃ rest, rest.length = count ∧ IsPath classes (i :: rest) := by
  induction count generalizing i with
  | zero => exact .inr ⟨[], rfl, List.isChain_singleton i⟩
  | succ count ih =>
    by_cases hlast : ∀ j, ¬ MustPrecede classes i j
    · exact .inl ⟨0, .last hi hlast⟩
    · push Not at hlast
      obtain ⟨j, hedge⟩ := hlast
      rcases ih hedge.lt_right with ⟨rest, hrest⟩ | ⟨rest, hlength, hpath⟩
      · exact .inl ⟨rest + 1, .edge hedge hrest⟩
      · exact .inr ⟨j :: rest, by rw [List.length_cons, hlength],
          List.isChain_cons_cons.mpr ⟨hedge, hpath⟩⟩

theorem exists_leadsToLast {i : Nat} (hcircle : ¬ LeadsToCircle classes i)
    (hi : i < classes.length) : ∃ count, LeadsToLast classes i count := by
  refine (exists_leadsToLast_or_path hi classes.length).resolve_right ?_
  rintro ⟨rest, hlength, hpath⟩
  exact absurd (hpath.length_lt hcircle hi) (by omega)

/-- An edge does not make a path longer than the classes allow, unless it leads to a circle. -/
theorem LeadsToLast.lt_length {i j count : Nat} (hcircle : ¬ LeadsToCircle classes j)
    (hedge : MustPrecede classes i j) (h : LeadsToLast classes j count) :
    count + 1 < classes.length := by
  obtain ⟨rest, rfl, hpath⟩ := h.exists_path
  have hlonger : IsPath classes (i :: j :: rest) := List.isChain_cons_cons.mpr ⟨hedge, hpath⟩
  have hfresh : i ∉ j :: rest := fun hmem ↦
    hcircle ⟨i, hpath.reaches i hmem, TransGen.head' hedge (hpath.reaches i hmem)⟩
  exact length_le_of_nodup (List.nodup_cons.mpr ⟨hfresh, hpath.nodup hcircle⟩) hlonger.lt_length

/-! ## Heights -/

open Classical in
/-- The greatest number of edges, up to the number of classes, of a path that begins at a position. -/
noncomputable def height (classes : List ClassDecl) (i : Nat) : Nat :=
  Nat.findGreatest (fun count ↦ ∃ rest, rest.length = count ∧ IsPath classes (i :: rest))
    classes.length

theorem exists_path_of_height (classes : List ClassDecl) (i : Nat) :
    ∃ rest, rest.length = height classes i ∧ IsPath classes (i :: rest) := by
  classical
  have hstart : ∃ rest : List Nat, rest.length = 0 ∧ IsPath classes (i :: rest) :=
    ⟨[], rfl, List.isChain_singleton i⟩
  exact Nat.findGreatest_spec
    (P := fun count ↦ ∃ rest, rest.length = count ∧ IsPath classes (i :: rest))
    (Nat.zero_le classes.length) hstart

theorem IsPath.length_le_height {i : Nat} {rest : List Nat} (hacyclic : Acyclic classes)
    (hi : i < classes.length) (h : IsPath classes (i :: rest)) :
    rest.length ≤ height classes i := by
  classical
  exact Nat.le_findGreatest (h.length_lt (hacyclic.not_leadsToCircle i) hi).le ⟨rest, rfl, h⟩

theorem height_lt_length {i : Nat} (hacyclic : Acyclic classes) (hi : i < classes.length) :
    height classes i < classes.length := by
  obtain ⟨rest, hlength, hpath⟩ := exists_path_of_height classes i
  rw [← hlength]
  exact hpath.length_lt (hacyclic.not_leadsToCircle i) hi

/-- Heights fall along edges. -/
theorem MustPrecede.height_lt {i j : Nat} (hacyclic : Acyclic classes)
    (h : MustPrecede classes i j) : height classes j < height classes i := by
  obtain ⟨rest, hlength, hpath⟩ := exists_path_of_height classes j
  have hlonger : IsPath classes (i :: j :: rest) := List.isChain_cons_cons.mpr ⟨h, hpath⟩
  calc height classes j = rest.length := hlength.symm
    _ < (j :: rest).length := Nat.lt_succ_self rest.length
    _ ≤ height classes i := hlonger.length_le_height hacyclic h.lt_left

/-- Below a position that is not lowest there is one just lower. -/
theorem exists_mustPrecede_of_height {i count : Nat} (hacyclic : Acyclic classes)
    (h : height classes i = count + 1) :
    ∃ j, MustPrecede classes i j ∧ height classes j = count := by
  obtain ⟨rest, hlength, hpath⟩ := exists_path_of_height classes i
  rw [h] at hlength
  obtain ⟨j, rest, rfl⟩ := List.exists_cons_of_length_eq_add_one hlength
  obtain ⟨hedge, htail⟩ := List.isChain_cons_cons.mp hpath
  have hle : rest.length ≤ height classes j :=
    IsPath.length_le_height hacyclic hedge.lt_right htail
  have hlt := hedge.height_lt hacyclic
  rw [List.length_cons] at hlength
  exact ⟨j, hedge, by omega⟩

theorem leadsToLast_height {i : Nat} (hacyclic : Acyclic classes) (hi : i < classes.length) :
    LeadsToLast classes i (height classes i) := by
  induction hheight : height classes i generalizing i with
  | zero =>
    refine .last hi fun j hedge ↦ ?_
    have hlt := hedge.height_lt hacyclic
    omega
  | succ count ih =>
    obtain ⟨j, hedge, hj⟩ := exists_mustPrecede_of_height hacyclic hheight
    exact .edge hedge (ih hedge.lt_right hj)

theorem LeadsToLast.le_height {i count : Nat} (hacyclic : Acyclic classes) (hi : i < classes.length)
    (h : LeadsToLast classes i count) : count ≤ height classes i := by
  obtain ⟨rest, rfl, hpath⟩ := h.exists_path
  exact hpath.length_le_height hacyclic hi

end SourceGen.ClassGraph
