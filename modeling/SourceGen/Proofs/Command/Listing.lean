import SourceGen.Proofs.Command.Traces
import SourceGen.Proofs.Pipeline.Writable

/-!
# What generating into a folder lists

A run that succeeds counts the files that it has written, and names all that it has generated. It names just
those written, and as many as it counts, exactly if none of its plugins skips a file.
-/

namespace SourceGen.Command

open Spec

/-! ## Listings -/

/-- Every name on a line of its own. -/
def nameLines (names : List String) : String :=
  String.join (names.map fun name ↦ "  → " ++ name ++ "\n")

def countLine (folder : String) (count : Nat) : String :=
  "✓ Generated " ++ toString count ++ " file(s) → " ++ folder ++ "\n"

/-- A count of files in a folder, and names below it. -/
def listing (folder : String) (count : Nat) (names : List String) : String :=
  countLine folder count ++ nameLines names

/-- Each name left out makes the lines shorter. -/
theorem length_nameLines_of_sublist {names others : List String} (h : names.Sublist others) :
    (nameLines names).length + others.length ≤ (nameLines others).length + names.length := by
  induction h with
  | slnil => exact le_refl _
  | cons name h ih =>
    simp only [nameLines, List.map_cons, String.join_cons, String.length_append, List.length_cons] at ih ⊢
    have hbullet : "  → ".length = 4 := by decide
    omega
  | cons_cons name h ih =>
    simp only [nameLines, List.map_cons, String.join_cons, String.length_append, List.length_cons] at ih ⊢
    omega

theorem listing_eq_listing_iff {folder : String} {count : Nat} {names others : List String}
    (h : names.Sublist others) :
    listing folder count others = listing folder count names ↔ names = others := by
  constructor
  · intro heq
    have hlines : nameLines others = nameLines names := by
      have hchars := congrArg String.toList heq
      simp only [listing, String.toList_append] at hchars
      exact String.toList_inj.mp (List.append_cancel_left hchars)
    have hle := length_nameLines_of_sublist h
    rw [hlines] at hle
    exact h.eq_of_length_le (Nat.le_of_add_le_add_left hle)
  · rintro rfl
    rfl

/-! ## Runs into a folder -/

variable {workspace : Workspace} {options : GenerateOptions} {verbosity : Nat} {folder : String}

theorem Accepted.valid {paths : List String} {document : Document}
    (h : Accepted workspace paths document) : Validation.Valid document :=
  Validation.errorFree_problems_iff.mp (Validation.entries_validateFile_iff.mp h.errorFree)

/-- A run into a folder that succeeds has generated files and emitted them without a failure. -/
theorem exists_emit_of_status (hout : options.out = some folder)
    (h : (generate workspace verbosity options).status = 0) :
    ∃ files count, Generates workspace options files ∧
      ((folderSink folder (options.stripped.getD "")).emit workspace.tree files).2.result = .ok count := by
  have hsucceeds : ¬ (Refused workspace options ∨ WritingFails workspace options) := by
    rw [← status_generate_iff, h]
    decide
  obtain ⟨hadmitted, hwrites⟩ := not_or.mp hsucceeds
  obtain ⟨files, hfiles⟩ : ∃ files, Generates workspace options files := by
    by_contra hnone
    exact hadmitted (refused_of_not_generates (not_exists.mp hnone))
  rcases result_emit_folderSink folder (options.stripped.getD "") workspace.tree files with
    ⟨count, hcount⟩ | ⟨reason, hreason⟩
  · exact ⟨files, count, hfiles, hcount⟩
  · exact absurd ⟨files, folder, reason, hfiles, hout, hreason⟩ hwrites

theorem generate_of_emit {files : FileSet} {count : Nat} (hout : options.out = some folder)
    (hfiles : Generates workspace options files)
    (hcount : ((folderSink folder (options.stripped.getD "")).emit workspace.tree files).2.result =
      .ok count) :
    (generate workspace verbosity options).status = 0 ∧
      (generate workspace verbosity options).output = listing folder count files.keys ∧
        (generate workspace verbosity options).tree =
          ((folderSink folder (options.stripped.getD "")).emit workspace.tree files).1 := by
  have hvalue : (generateFiles workspace verbosity options).value = .ok files :=
    value_generateFiles_eq_ok_iff.mpr hfiles
  rw [generate]
  simp only [hvalue, hout, emitToFolder, hcount]
  exact ⟨trivial, rfl, trivial⟩

/-- A run into a folder generated files from an accepted document. Those that the sink has a record of are in
the folder, in their order and each once, and the output counts them and names all that were generated. -/
structure Emitted (workspace : Workspace) (options : GenerateOptions) (folder : String) (result : Result)
    (document : Document) (files : FileSet) (written : Entries SourceFile) : Prop where
  accepted : Accepted workspace options.specs document
  generated : ∃ config, settings workspace options = .ok config ∧
    ((requestedPipeline options).run document config).2.result = .ok files
  recorded : written = (folderSink folder (options.stripped.getD "")).written workspace.tree files
  holds : HoldsWritten workspace.tree folder (options.stripped.getD "") written result.tree
  sublist : written.Sublist files.entries
  nodup : files.keys.Nodup
  output : result.output = listing folder written.length files.keys

/-- A run into a folder that succeeds tells how many files it has written, and lists all that it has
generated. These are the files written exactly if no plugin of the run skips one. -/
theorem run_lists_written_iff {args : List String}
    (hargs : readArguments args = .perform verbosity (.generate options)) (hout : options.out = some folder)
    (hstatus : (run workspace args).status = 0) :
    ∃ document files written, Emitted workspace options folder (run workspace args) document files written ∧
      ((run workspace args).output = listing folder written.length written.keys ↔
        ∀ id ∈ (requestedPipeline options).ids, ¬ Skips document id) := by
  have hrun : run workspace args = generate workspace verbosity options := by rw [run, hargs, perform]
  rw [hrun] at hstatus ⊢
  obtain ⟨files, count, hfiles, hcount⟩ := exists_emit_of_status hout hstatus
  obtain ⟨-, houtput, htree⟩ := generate_of_emit hout hfiles hcount
  obtain ⟨config, document, hconfig, haccepted, hresult⟩ := hfiles
  obtain ⟨after, hafter, rfl⟩ := map_eq_ok.mp ((Sink.result_emit workspace.tree files).symm.trans hcount)
  have hsublist : (writable files.entries).Sublist files.entries := List.filter_sublist
  have hholds : HoldsWritten workspace.tree folder (options.stripped.getD "") (writable files.entries)
      (generate workspace verbosity options).tree := by
    have hbatch : allWritable [files] = writable files.entries := List.flatMap_singleton ..
    rw [htree, Sink.emit, Sink.fst_emitFrom hafter, ← hbatch]
    exact holdsWritten_of_writeAll (hbatch ▸ hafter)
  refine ⟨document, files, writable files.entries, ⟨haccepted, ⟨config, hconfig, hresult⟩,
    (Sink.written_of_result_eq_ok hcount).symm, hholds, hsublist, files.nodup, houtput⟩, ?_⟩
  have hkeys : (writable files.entries).keys.Sublist files.keys := hsublist.map Prod.fst
  have hsame : (writable files.entries).keys = files.keys ↔ writable files.entries = files.entries := by
    refine ⟨fun heq ↦ hsublist.eq_of_length ?_, fun heq ↦ congrArg Entries.keys heq⟩
    simpa [Entries.keys, OrderedMap.keys] using congrArg List.length heq
  rw [houtput, listing_eq_listing_iff hkeys, hsame, writable_eq_self_iff]
  exact Pipeline.faultless_outcome_iff haccepted.valid hresult

/-- An interface on the standard input that asks for nothing but a blank include. -/
def blankIncludeWorkspace : Workspace where
  tree := { root := .folder [("work", .folder [])], here := ["work"] }
  input := "api:\n  includes: [' ']\n".toUTF8

theorem accepted_blankIncludeWorkspace : Accepted blankIncludeWorkspace [] blankIncludeDocument :=
  value_checkedDocument_eq_ok_iff.mp (by decide +kernel)

theorem generates_binding :
    Generates blankIncludeWorkspace { plugins := ["PYBINDER"], out := some "out" }
      (.ofEntries [(Binding.bindingHeader, blankIncludeBinding)]) :=
  ⟨{}, blankIncludeDocument, rfl, accepted_blankIncludeWorkspace, by decide +kernel⟩

/-- The binding alone has no file with the include. -/
theorem run_lists_written_binding :
    readArguments ["generate", "-p", "PYBINDER", "-o", "out"] =
        .perform 0 (.generate { plugins := ["PYBINDER"], out := some "out" }) ∧
      (run blankIncludeWorkspace ["generate", "-p", "PYBINDER", "-o", "out"]).status = 0 ∧
        ∃ written, HoldsWritten blankIncludeWorkspace.tree "out" "" written
            (run blankIncludeWorkspace ["generate", "-p", "PYBINDER", "-o", "out"]).tree ∧
          (run blankIncludeWorkspace ["generate", "-p", "PYBINDER", "-o", "out"]).output =
            listing "out" written.length written.keys := by
  have hargs : readArguments ["generate", "-p", "PYBINDER", "-o", "out"] =
      .perform 0 (.generate { plugins := ["PYBINDER"], out := some "out" }) := rfl
  have hcount : ((folderSink "out" "").emit blankIncludeWorkspace.tree
      (.ofEntries [(Binding.bindingHeader, blankIncludeBinding)])).2.result = .ok 1 := by decide +kernel
  have hstatus : (run blankIncludeWorkspace ["generate", "-p", "PYBINDER", "-o", "out"]).status = 0 := by
    rw [run, hargs, perform]
    exact (generate_of_emit rfl generates_binding hcount).1
  obtain ⟨document, _, written, hemitted, hlists⟩ := run_lists_written_iff hargs rfl hstatus
  obtain rfl := hemitted.accepted.loads.eq accepted_blankIncludeWorkspace.loads
  refine ⟨hargs, hstatus, written, hemitted.holds, hlists.mpr fun id hid ↦ ?_⟩
  obtain rfl : id = Plugin.binding.id := List.mem_singleton.mp hid
  rintro (⟨hinterface, -⟩ | ⟨-, api, hapi, hsome, -⟩)
  · exact absurd hinterface (by decide)
  · cases hapi
    exact hsome rfl

/-- Two files are written, and three are listed. -/
theorem run_lists_unwritten :
    (run blankIncludeWorkspace ["generate", "-o", "out"]).status = 0 ∧
      (run blankIncludeWorkspace ["generate", "-o", "out"]).output =
          "✓ Generated 2 file(s) → out\n  → api.hpp\n  → api.cpp\n  → pyapi.hpp\n" ∧
        ((run blankIncludeWorkspace ["generate", "-o", "out"]).tree.find? "out/api.hpp").isNone ∧
          ((run blankIncludeWorkspace ["generate", "-o", "out"]).tree.find? "out/api.cpp").isSome ∧
            ((run blankIncludeWorkspace ["generate", "-o", "out"]).tree.find? "out/pyapi.hpp").isSome := by
  have hargs : readArguments ["generate", "-o", "out"] = .perform 0 (.generate { out := some "out" }) := rfl
  have houtcome := (Pipeline.outcome_builtinIds blankIncludeDocument {}).trans run_blankIncludeDocument
  have hfiles : Generates blankIncludeWorkspace { out := some "out" } blankIncludeFiles :=
    ⟨{}, blankIncludeDocument, rfl, accepted_blankIncludeWorkspace, houtcome⟩
  have hcount : ((folderSink "out" "").emit blankIncludeWorkspace.tree blankIncludeFiles).2.result = .ok 2 := by
    decide +kernel
  have hrun : run blankIncludeWorkspace ["generate", "-o", "out"] =
      generate blankIncludeWorkspace 0 { out := some "out" } := by rw [run, hargs, perform]
  obtain ⟨hstatus, houtput, htree⟩ : (generate blankIncludeWorkspace 0 { out := some "out" }).status = 0 ∧
    _ ∧ _ := generate_of_emit rfl hfiles hcount
  rw [hrun, hstatus, houtput, htree]
  decide +kernel

end SourceGen.Command
