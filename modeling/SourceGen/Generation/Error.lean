import SourceGen.Template.Source

/-!
# Why generation fails
-/

namespace SourceGen

inductive GenError where
  | malformedSpec (key reason : String)
  | template (fault : Template.Fault)
  | circular (requirement dependent : String)
  | config (path reason : String)
  | io (reason : String)
deriving DecidableEq, Repr

namespace GenError

def message : GenError → String
  | .malformedSpec key reason => "malformed spec at '" ++ key ++ "': " ++ reason
  | .template (.unhandled name) => "template placeholder '" ++ name ++ "' has no handler"
  | .template (.unterminated near) =>
    "malformed template: unterminated placeholder near '" ++ near ++ "'"
  | .template (.invalidName written) =>
    "malformed template: invalid placeholder name '" ++ written ++ "'"
  | .circular requirement dependent =>
    "circular dependency: class '" ++ dependent ++ "' requires '" ++ requirement ++ "'"
  | .config path reason => "invalid config " ++ path ++ ": " ++ reason
  | .io reason => "IO error: " ++ reason

/-- The message with what lies behind it. -/
def report (error : GenError) : String :=
  match error with
  | .io reason => error.message ++ ": " ++ reason
  | _ => error.message

end GenError

end SourceGen
