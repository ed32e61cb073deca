import SourceGen.ClassGraph
import SourceGen.Generation.Run

/-!
# The order of emitted classes

Emitters take the classes of a namespace in an order in which requirements come first, and note the
requirements that lead out of the namespace.
-/

namespace SourceGen.Emit

open Spec

def outsideNote (entry : String × String) : Note :=
  ⟨.debug, .classes,
    "class " ++ entry.1 ++ " requires " ++ entry.2 ++ " from outside its namespace"⟩

/-- The failure that an edge of a circle stands for. -/
def circularError (graph : ClassGraph) (edge : Edge) : GenError :=
  .circular (graph.nameAt edge.requirement) (graph.nameAt edge.dependent)

def orderClasses (classes : List ClassDecl) : Run (List ClassDecl) :=
  let graph : ClassGraph := ⟨classes⟩
  { notes := graph.outside.map outsideNote
    result := graph.resolve.mapError (circularError graph) }

end SourceGen.Emit
