import SourceGen.Files.Tree
import SourceGen.Generation.Run
import SourceGen.Output.SourceFile

/-!
# Writing generated files

Generated files go to a sink in their order: into a folder, or one after the other into a text. A file
that cannot be written under its name is passed over with a note.
-/

namespace SourceGen

/-- A destination that is in some state; writing a file changes it or fails. -/
structure Sink (σ : Type) where
  write : σ → String → SourceFile → Except GenError (σ × List Note)

/-- The folder as other files include it: without `front` if that is a front part of it. -/
def includePath (folder front : String) : String :=
  if front.isEmpty then folder else (Files.stripFront? folder front).getD folder

/-- Writes below a folder of a tree, creating it if need be. -/
def folderSink (folder front : String) : Sink Files.Tree where
  write tree name file :=
    match tree.writeFile folder name (file.render (includePath folder front)).toUTF8 with
    | none => .error (.io "the file cannot be written")
    | some tree => .ok (tree, [⟨.info, .files, "wrote " ++ Files.joinPath folder name⟩])

/-- Writes one file after the other, each below a line with its name. -/
def textSink (include_ : String) : Sink String where
  write written name file :=
    .ok (written ++ "============== " ++ name ++ " ==============\n" ++ file.render include_ ++ "\n",
      [])

namespace Sink

variable {σ : Type}

def skipNote (fault : SourceFile.Fault) : Note :=
  ⟨.warn, .pipeline, "skipping generated file: " ++ fault.message⟩

/-- Writes files, `count` having been written before; gives the state reached, also by a failure. -/
def emitFrom (sink : Sink σ) (state : σ) (count : Nat) : Entries SourceFile → σ × Run Nat
  | [] => (state, pure count)
  | (name, file) :: rest =>
    match file.fault? name with
    | some fault =>
      let (state, run) := emitFrom sink state count rest
      (state, { run with notes := skipNote fault :: run.notes })
    | none =>
      match sink.write state name file with
      | .error error => (state, Run.fail error)
      | .ok (state, notes) =>
        let (state, run) := emitFrom sink state (count + 1) rest
        (state, { run with notes := notes ++ run.notes })

/-- Writes every file that can be written and counts them. -/
def emit (sink : Sink σ) (state : σ) (files : FileSet) : σ × Run Nat :=
  sink.emitFrom state 0 files.entries

end Sink

end SourceGen
