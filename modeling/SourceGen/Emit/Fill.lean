import SourceGen.Generation.Error
import SourceGen.Template.Basic
import SourceGen.Text.Pieces

/-!
# Filling templates with texts

The sources of the emitters' templates are kept line by line, and all their slots are filled with texts
that are known beforehand.
-/

namespace SourceGen.Emit

def fill (source : List String) (values : Entries String) : Except GenError String :=
  match Template.ofSource (Text.join "\n" source)
      (values.map fun entry ↦ (entry.1, (.ok entry.2 : Except GenError String))) with
  | .error fault => .error (.template fault)
  | .ok template => template.render

end SourceGen.Emit
