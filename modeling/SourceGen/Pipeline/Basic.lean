import SourceGen.Pipeline.Plugin

/-!
# Pipelines

A pipeline runs its plugins in order over one set of files. A plugin that gives nothing leaves the set as
it was, and a plugin that fails ends the run.
-/

namespace SourceGen

open Spec (Document)

inductive PipelineState where
  | pending
  | running (plugin : Nat)
  | done
deriving DecidableEq, Repr

def PipelineState.text : PipelineState → String
  | .pending => "Pending"
  | .running plugin => "Running(" ++ toString plugin ++ ")"
  | .done => "Done"

structure Pipeline where
  plugins : List Plugin
  state : PipelineState := .pending

namespace Pipeline

def ids (pipeline : Pipeline) : List String :=
  pipeline.plugins.map (·.id)

/-- Identifiers as a list in brackets, each in quotes. -/
def idsText (ids : List String) : String :=
  "[" ++ Text.join ", " (ids.map Text.quoted) ++ "]"

def text (pipeline : Pipeline) : String :=
  "Pipeline \x7b plugins: " ++ idsText pipeline.ids ++ ", state: " ++ pipeline.state.text ++ " \x7d"

/-- What is noted of an identifier that no built-in plugin has. -/
def unknownNote (id : String) : Note :=
  ⟨.warn, .pipeline, "plugin " ++ id ++ " not found, skipping"⟩

/-- The pipeline of the built-in plugins with the given identifiers; unknown ones are noted. -/
def ofIds (ids : List String) : List Note × Pipeline :=
  ((ids.filter fun id ↦ (Plugin.find? id).isNone).map unknownNote,
    { plugins := ids.filterMap Plugin.find? })

def startNote (plugin : Plugin) : Note :=
  ⟨.debug, .pipeline, "running plugin " ++ plugin.id⟩

def discardNote (plugin : Plugin) : Note :=
  ⟨.warn, .pipeline, "plugin " ++ plugin.id ++ " produced no file set, discarding its output"⟩

/-- Notes taken before a run. -/
def withNotes {α : Type} (notes : List Note) (outcome : PipelineState × Run α) :
    PipelineState × Run α :=
  (outcome.1, { outcome.2 with notes := notes ++ outcome.2.notes })

/-- Runs the plugins from number `i` on, and tells the state in which the run ends. -/
def runFrom (document : Document) (config : Config) (i : Nat) (generated : FileSet) :
    List Plugin → PipelineState × Run FileSet
  | [] => (.done, pure generated)
  | plugin :: rest =>
    let run := plugin.process generated document config
    let notes := startNote plugin :: run.notes
    match run.result with
    | .error error => (.running i, ⟨notes, .error error⟩)
    | .ok (some files) => withNotes notes (runFrom document config (i + 1) files rest)
    | .ok none =>
      withNotes (notes ++ [discardNote plugin]) (runFrom document config (i + 1) generated rest)

/-- Runs all plugins, whatever state earlier runs left. -/
def run (pipeline : Pipeline) (document : Document) (config : Config) : Pipeline × Run FileSet :=
  let (state, run) := runFrom document config 0 ∅ pipeline.plugins
  ({ pipeline with state }, run)

end Pipeline

end SourceGen
