import SourceGen.Distinct
import SourceGen.Spec.Model

/-!
# The order of classes

A class comes after the classes it requires. An edge leads from the first class of a required name to the
class that requires it; requirements that no class of the set answers to are passed over. The depth of
a class is the length of the longest chain of dependents above it, found by relaxing edges; classes are
emitted by decreasing depth, those of one depth in the order of their declaration.
-/

namespace SourceGen

open Spec (ClassDecl)

/-- Positions of a required class and of one that requires it. -/
structure Edge where
  requirement : Nat
  dependent : Nat
deriving DecidableEq, Repr

structure ClassGraph where
  classes : List ClassDecl
deriving DecidableEq

namespace ClassGraph

/-- The position of the first class with a name. -/
def position? (graph : ClassGraph) (name : String) : Option Nat :=
  graph.classes.findIdx? (·.name == name)

/-- The edges into the classes from position `i` on, in the order of the requirements. -/
def edgesFrom (graph : ClassGraph) (i : Nat) : List ClassDecl → List Edge
  | [] => []
  | cls :: rest =>
    cls.requires.filterMap (fun name ↦ (graph.position? name).map fun j ↦ ⟨j, i⟩) ++
      edgesFrom graph (i + 1) rest

def edges (graph : ClassGraph) : List Edge :=
  distinct (graph.edgesFrom 0 graph.classes)

/-- The requirements that no class of the set answers to, each with the class that states it. -/
def outside (graph : ClassGraph) : List (String × String) :=
  graph.classes.flatMap fun cls ↦
    (cls.requires.filter fun name ↦ (graph.position? name).isNone).map fun name ↦
      (cls.name, name)

def nameAt (graph : ClassGraph) (i : Nat) : String :=
  ((graph.classes[i]?).map (·.name)).getD ""

/-- The names of the classes that directly require the first class of a name. -/
def dependents (graph : ClassGraph) (name : String) : List String :=
  match graph.position? name with
  | none => []
  | some i =>
    (graph.edges.filter (·.requirement == i)).map fun edge ↦ graph.nameAt edge.dependent

/-! ## Depths -/

/-- The depths known so far, by position. -/
abbrev Depths := List (Option Nat)

def Depths.at (depths : Depths) (i : Nat) : Option Nat :=
  (depths[i]?).join

/-- A greater depth for the requirement of an edge, if the edge shows one. -/
def Depths.relax (depths : Depths) (edge : Edge) : Option Nat :=
  match depths.at edge.dependent with
  | none => none
  | some depth =>
    match depths.at edge.requirement with
    | none => some (depth + 1)
    | some known => if depth + 1 ≤ known then none else some (depth + 1)

def Depths.step (depths : Depths) (edge : Edge) : Depths :=
  match depths.relax edge with
  | none => depths
  | some depth => depths.set edge.requirement (some depth)

/-- One round over all edges. -/
def Depths.round (edges : List Edge) (depths : Depths) : Depths :=
  edges.foldl Depths.step depths

/-- At most the given number of rounds; one that changes nothing is the last. -/
def Depths.rounds (edges : List Edge) : Nat → Depths → Depths
  | 0, depths => depths
  | count + 1, depths =>
    let next := depths.round edges
    if next = depths then depths else rounds edges count next

/-- Classes without dependents have depth zero; nothing is known yet of the others. -/
def initialDepths (graph : ClassGraph) : Depths :=
  (List.range graph.classes.length).map fun i ↦
    if graph.edges.any (·.requirement == i) then none else some 0

/-- As many rounds as a chain of distinct classes can have edges. -/
def relaxedDepths (graph : ClassGraph) : Depths :=
  graph.initialDepths.rounds graph.edges (graph.classes.length - 1)

/-- An edge that the depths do not satisfy; only a circle leaves one. -/
def brokenEdge? (graph : ClassGraph) (depths : Depths) : Option Edge :=
  graph.edges.find? fun edge ↦
    (depths.relax edge).isSome || (depths.at edge.requirement).isNone

/-- The depth of every class, or an edge that no order can respect. -/
def depths (graph : ClassGraph) : Except Edge (List Nat) :=
  let initial := graph.initialDepths
  match graph.edges with
  | edge :: _ =>
    if initial.all Option.isNone then .error edge
    else
      match graph.brokenEdge? graph.relaxedDepths with
      | some broken => .error broken
      | none => .ok (graph.relaxedDepths.map (·.getD 0))
  | [] => .ok (initial.map (·.getD 0))

/-! ## The order -/

/-- The positions by decreasing depth. -/
def orderBy (depths : List Nat) : List Nat :=
  (List.range depths.length).mergeSort fun i j ↦ decide (depths.getD j 0 ≤ depths.getD i 0)

def order (graph : ClassGraph) : Except Edge (List Nat) :=
  orderBy <$> graph.depths

/-- The classes in an order in which requirements come first. -/
def resolve (graph : ClassGraph) : Except Edge (List ClassDecl) :=
  (fun order ↦ order.filterMap fun i ↦ graph.classes[i]?) <$> graph.order

end ClassGraph

end SourceGen
