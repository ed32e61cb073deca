import SourceGen.Pipeline.Basic

/-!
# How files are threaded through a pipeline

Each plugin is handed the files that the plugins before it left, and what it gives takes their place. How a
run ends is told by a relation that follows the plugins up to the end or up to the first that fails; the
run is the one outcome that the relation allows, whatever was run before.
-/

namespace SourceGen.Pipeline

open Spec (Document)

variable {document : Document} {config : Config}

/-- Plugins that all succeed lead from one set of files to another and take notes. The files that a plugin
gives replace those before it, and where it gives none these stay; the second list is of the plugins that
gave files. -/
inductive Threads (document : Document) (config : Config) :
    FileSet → List Plugin → List Plugin → List Note → FileSet → Prop
  | done (files : FileSet) : Threads document config files [] [] [] files
  | replaced {before given after : FileSet} {plugin : Plugin} {rest givers : List Plugin}
      {said notes : List Note} (h : plugin.process before document config = ⟨said, .ok (some given)⟩)
      (hrest : Threads document config given rest givers notes after) :
      Threads document config before (plugin :: rest) (plugin :: givers)
        (startNote plugin :: said ++ notes) after
  | kept {before after : FileSet} {plugin : Plugin} {rest givers : List Plugin}
      {said notes : List Note} (h : plugin.process before document config = ⟨said, .ok none⟩)
      (hrest : Threads document config before rest givers notes after) :
      Threads document config before (plugin :: rest) givers
        (startNote plugin :: said ++ discardNote plugin :: notes) after

/-- How plugins end that begin without files: all of them succeed, or one is the first to fail, and those
behind it have no part in the outcome. -/
inductive Ends (document : Document) (config : Config) :
    List Plugin → PipelineState → Run FileSet → Prop
  | done {plugins givers : List Plugin} {notes : List Note} {files : FileSet}
      (h : Threads document config ∅ plugins givers notes files) :
      Ends document config plugins .done ⟨notes, .ok files⟩
  | failed {front givers : List Plugin} {notes said : List Note} {files : FileSet} {plugin : Plugin}
      {error : GenError} (h : Threads document config ∅ front givers notes files)
      (hfails : plugin.process files document config = ⟨said, .error error⟩) (rest : List Plugin) :
      Ends document config (front ++ plugin :: rest) (.running front.length)
        ⟨notes ++ startNote plugin :: said, .error error⟩

/-! ## Plugins that succeed -/

namespace Threads

variable {before after : FileSet} {plugins givers : List Plugin} {notes : List Note}

theorem sublist (h : Threads document config before plugins givers notes after) :
    givers.Sublist plugins := by
  induction h with
  | done files => exact List.Sublist.refl []
  | replaced _ _ ih => exact ih.cons_cons _
  | kept _ _ ih => exact ih.cons _

/-- Without the plugins that gave nothing the others see the same files. -/
theorem of_givers (h : Threads document config before plugins givers notes after) :
    ∃ notes, Threads document config before givers givers notes after := by
  induction h with
  | done files => exact ⟨[], .done files⟩
  | replaced hgiven _ ih =>
    obtain ⟨notes, hnotes⟩ := ih
    exact ⟨_, .replaced hgiven hnotes⟩
  | kept _ _ ih => exact ih

/-- A plugin that succeeds may stand before any plugins that go on from what it leaves. -/
theorem exists_cons {plugin : Plugin} {said : List Note} {given : Option FileSet}
    (h : plugin.process before document config = ⟨said, .ok given⟩) :
    ∃ giver noted, ∀ rest givers notes after,
      Threads document config (given.getD before) rest givers notes after →
        Threads document config before (plugin :: rest) (giver ++ givers) (noted ++ notes) after := by
  cases given with
  | none =>
    refine ⟨[], startNote plugin :: said ++ [discardNote plugin], fun rest givers notes after hrest ↦ ?_⟩
    rw [List.append_assoc]
    exact .kept h hrest
  | some given =>
    exact ⟨[plugin], startNote plugin :: said, fun rest givers notes after hrest ↦ .replaced h hrest⟩

/-- Plugins succeed all, or one is the first to fail. -/
theorem exists_or_fails (document : Document) (config : Config) (before : FileSet)
    (plugins : List Plugin) :
    (∃ givers notes after, Threads document config before plugins givers notes after) ∨
      ∃ front plugin rest givers notes after said error, plugins = front ++ plugin :: rest ∧
        Threads document config before front givers notes after ∧
          plugin.process after document config = ⟨said, .error error⟩ := by
  induction plugins generalizing before with
  | nil => exact .inl ⟨[], [], before, .done before⟩
  | cons plugin rest ih =>
    cases hrun : plugin.process before document config with
    | mk said result =>
      cases result with
      | error error => exact .inr ⟨[], plugin, rest, [], [], before, said, error, rfl, .done before, hrun⟩
      | ok given =>
        obtain ⟨giver, noted, hcons⟩ := exists_cons hrun
        rcases ih (given.getD before) with ⟨givers, notes, after, hall⟩ |
          ⟨front, failing, back, givers, notes, after, reported, error, rfl, hfront, hfails⟩
        · exact .inl ⟨_, _, _, hcons _ _ _ _ hall⟩
        · exact .inr ⟨plugin :: front, failing, back, _, _, after, reported, error, rfl,
            hcons _ _ _ _ hfront, hfails⟩

end Threads

theorem exists_ends (document : Document) (config : Config) (plugins : List Plugin) :
    ∃ state run, Ends document config plugins state run := by
  rcases Threads.exists_or_fails document config ∅ plugins with
    ⟨givers, notes, files, hall⟩ | ⟨front, plugin, rest, givers, notes, files, said, error, rfl, hfront,
      hfails⟩
  · exact ⟨_, _, .done hall⟩
  · exact ⟨_, _, .failed hfront hfails rest⟩

/-! ## Runs -/

theorem withNotes_withNotes {α : Type} (front back : List Note) (outcome : PipelineState × Run α) :
    withNotes front (withNotes back outcome) = withNotes (front ++ back) outcome := by
  simp only [withNotes, List.append_assoc]

/-- Behind plugins that succeed the run goes on with the files that they left. -/
theorem runFrom_append {before after : FileSet} {front givers : List Plugin} {notes : List Note}
    (h : Threads document config before front givers notes after) (i : Nat) (rest : List Plugin) :
    runFrom document config i before (front ++ rest) =
      withNotes notes (runFrom document config (i + front.length) after rest) := by
  induction h generalizing i with
  | done files => rfl
  | replaced hgiven _ ih =>
    rw [List.cons_append, runFrom, hgiven]
    simp only [ih, withNotes_withNotes, List.length_cons, List.cons_append, Nat.add_assoc,
      Nat.add_comm 1]
  | kept hnothing _ ih =>
    rw [List.cons_append, runFrom, hnothing]
    simp only [ih, withNotes_withNotes, List.length_cons, List.cons_append, List.append_assoc,
      List.nil_append, Nat.add_assoc, Nat.add_comm 1]

theorem runFrom_eq_of_ends {plugins : List Plugin} {state : PipelineState} {run : Run FileSet}
    (h : Ends document config plugins state run) :
    runFrom document config 0 ∅ plugins = (state, run) := by
  cases h with
  | done hall =>
    rw [← List.append_nil plugins, runFrom_append hall 0 [], runFrom, withNotes]
    simp only [pure, Run.done, List.append_nil]
  | failed hfront hfails rest => rw [runFrom_append hfront 0, runFrom, hfails, Nat.zero_add, withNotes]

theorem runFrom_eq_iff_ends {plugins : List Plugin} {state : PipelineState} {run : Run FileSet} :
    runFrom document config 0 ∅ plugins = (state, run) ↔ Ends document config plugins state run := by
  refine ⟨fun h ↦ ?_, runFrom_eq_of_ends⟩
  obtain ⟨state', run', hends⟩ := exists_ends document config plugins
  obtain ⟨rfl, rfl⟩ := Prod.mk.inj ((runFrom_eq_of_ends hends).symm.trans h)
  exact hends

/-- A pipeline that has been run on some documents, one after the other. -/
def after (pipeline : Pipeline) (uses : List (Document × Config)) : Pipeline :=
  uses.foldl (fun pipeline use ↦ (pipeline.run use.1 use.2).1) pipeline

theorem plugins_after (pipeline : Pipeline) (uses : List (Document × Config)) :
    (pipeline.after uses).plugins = pipeline.plugins := by
  induction uses generalizing pipeline with
  | nil => rfl
  | cons use rest ih => exact ih _

theorem run_eq_iff_ends {pipeline : Pipeline} {state : PipelineState} {run : Run FileSet} :
    pipeline.run document config = ({ pipeline with state }, run) ↔
      Ends document config pipeline.plugins state run := by
  rw [← runFrom_eq_iff_ends, Pipeline.run]
  simp only [Prod.ext_iff, Pipeline.mk.injEq, true_and]

/-- What ends with the plugin of a number ends so whatever comes behind that plugin. -/
theorem Ends.take_append {plugins : List Plugin} {i : Nat} {run : Run FileSet}
    (h : Ends document config plugins (.running i) run) (later : List Plugin) :
    Ends document config (plugins.take (i + 1) ++ later) (.running i) run := by
  cases h with
  | failed hfront hfails rest =>
    rw [List.take_length_add_append, List.take_succ_cons, List.take_zero, List.append_assoc]
    exact .failed hfront hfails later

/-- A run ends as the relation tells, whatever the pipeline was used for before. Running only the plugins
that gave files gives the same files, and where a plugin fails no other plugins behind it change anything. -/
theorem run_after_iff_ends (pipeline : Pipeline) (uses : List (Document × Config))
    (document : Document) (config : Config) :
    (∀ state run, (pipeline.after uses).run document config = ({ pipeline with state }, run) ↔
        Ends document config pipeline.plugins state run) ∧
      (∀ givers notes files, Threads document config ∅ pipeline.plugins givers notes files →
        givers.Sublist pipeline.plugins ∧
          ∃ notes, ({ plugins := givers } : Pipeline).run document config =
            ({ plugins := givers, state := .done }, ⟨notes, .ok files⟩)) ∧
      ∀ i run, Ends document config pipeline.plugins (.running i) run → ∀ later : List Plugin,
        ({ plugins := pipeline.plugins.take (i + 1) ++ later } : Pipeline).run document config =
          ({ plugins := pipeline.plugins.take (i + 1) ++ later, state := .running i }, run) := by
  refine ⟨fun state run ↦ ?_, fun givers notes files h ↦ ⟨h.sublist, ?_⟩, fun i run h later ↦ ?_⟩
  · have hsame : ({ pipeline with state } : Pipeline) = { pipeline.after uses with state } := by
      simp only [plugins_after]
    rw [hsame, run_eq_iff_ends, plugins_after]
  · obtain ⟨notes, hgivers⟩ := h.of_givers
    exact ⟨notes, run_eq_iff_ends.mpr (.done hgivers)⟩
  · exact run_eq_iff_ends.mpr (h.take_append later)

/-- A plugin that adds a file. -/
def adding (name : String) : Plugin where
  id := "ADD " ++ name
  process generated _ _ := pure (some (generated.put name { content := name }))

/-- A plugin that gives nothing. -/
def silent : Plugin where
  id := "SILENT"
  process _ _ _ := pure none

/-- A plugin that refuses files of a name. -/
def refusing (name : String) : Plugin where
  id := "REFUSE " ++ name
  process generated _ _ :=
    if generated.contains name then Run.fail (.malformedSpec name "refused") else pure (some generated)

theorem run_refuses_added_file :
    let plugins := [refusing "a", adding "a", silent, refusing "a", adding "b"]
    ((({ plugins } : Pipeline).after [({}, {}), ({}, {})]).run {} {}) =
      ({ plugins, state := .running 3 },
        ⟨[startNote (refusing "a"), startNote (adding "a"), startNote silent, discardNote silent,
          startNote (refusing "a")], .error (.malformedSpec "a" "refused")⟩) := by
  intro plugins
  obtain ⟨hends, -⟩ := run_after_iff_ends { plugins } [({}, {}), ({}, {})] {} {}
  let added : FileSet := (∅ : FileSet).put "a" { content := "a" }
  have hrefusing : (refusing "a").process ∅ {} {} = ⟨[], .ok (some ∅)⟩ := rfl
  have hadding : (adding "a").process ∅ {} {} = ⟨[], .ok (some added)⟩ := rfl
  have hsilent : silent.process added {} {} = ⟨[], .ok none⟩ := rfl
  have hfails : (refusing "a").process added {} {} = ⟨[], .error (.malformedSpec "a" "refused")⟩ := rfl
  exact (hends _ _).mpr
    (.failed (.replaced hrefusing (.replaced hadding (.kept hsilent (.done added)))) hfails [adding "b"])

end SourceGen.Pipeline
