import SourceGen.Validation.Classes
import SourceGen.Validation.Codes
import SourceGen.Validation.Overrides

/-!
# Validation

All rules, in a fixed order, over a loaded specification.
-/

namespace SourceGen.Validation

open Spec

def problems (document : Document) : List Problem :=
  codesProblems document ++ overridesProblems document ++ signatureProblems document ++
    classesProblems document

/-- The report on a specification, every entry laid to `file`. -/
def validateFile (document : Document) (file : String) : Report :=
  ((problems document).map (·.entry file)).foldl Report.push .success

def validate (document : Document) : Report :=
  validateFile document ""

end SourceGen.Validation
