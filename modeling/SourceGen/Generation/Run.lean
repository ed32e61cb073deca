import SourceGen.Generation.Error

/-!
# Runs with notes

A run succeeds or fails, and on the way it takes notes for the user. What was noted before a failure
stays.
-/

namespace SourceGen

/-- How much a note matters; the more it matters the smaller. -/
inductive Level where
  | warn
  | info
  | debug
deriving DecidableEq, Repr

def Level.name : Level → String
  | .warn => "WARN"
  | .info => "INFO"
  | .debug => "DEBUG"

def Level.rank : Level → Nat
  | .warn => 0
  | .info => 1
  | .debug => 2

/-- The part of the program that takes a note. -/
inductive Area where
  | pipeline
  | opcodes
  | dtypes
  | interface
  | binding
  | classes
  | files
  | command
deriving DecidableEq, Repr

def Area.name : Area → String
  | .pipeline => "egen_codegen::pipeline"
  | .opcodes => "egen_codegen::emitters::opcodes"
  | .dtypes => "egen_codegen::emitters::dtypes"
  | .interface => "egen_codegen::emitters::apis"
  | .binding => "egen_codegen::emitters::pybind"
  | .classes => "egen_codegen::dep_graph"
  | .files => "egen_codegen::sink"
  | .command => "egen"

structure Note where
  level : Level
  area : Area
  text : String
deriving DecidableEq, Repr

/-- The notes that matter at least as much as `level`. -/
def notesUpTo (level : Level) (notes : List Note) : List Note :=
  notes.filter fun note ↦ note.level.rank ≤ level.rank

structure Run (α : Type) where
  notes : List Note
  result : Except GenError α

namespace Run

variable {α β : Type}

def done (value : α) : Run α := ⟨[], .ok value⟩

def fail (error : GenError) : Run α := ⟨[], .error error⟩

def note (level : Level) (area : Area) (text : String) : Run Unit :=
  ⟨[⟨level, area, text⟩], .ok ()⟩

def ofExcept (result : Except GenError α) : Run α := ⟨[], result⟩

def andThen (run : Run α) (next : α → Run β) : Run β :=
  match run.result with
  | .error error => ⟨run.notes, .error error⟩
  | .ok value =>
    let later := next value
    ⟨run.notes ++ later.notes, later.result⟩

instance : Monad Run where
  pure := done
  bind := andThen

end Run

end SourceGen
