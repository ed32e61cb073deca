import SourceGen.Command.Perform
import SourceGen.Proofs.Output.Emission
import SourceGen.Proofs.Outcome

/-!
# What the command leaves behind

Validating and printing the schema touch no file. Generating touches none and prints nothing unless every
file has been generated before: whatever is wrong with the settings, the documents or a plugin is found
out before the first file is written.
-/

namespace SourceGen.Command

open Spec

variable {workspace : Workspace} {paths : List String} {options : GenerateOptions}
  {document : Document} {config : Config}

/-! ## Steps -/

namespace Step

variable {α β : Type}

@[simp] theorem value_pure (a : α) : (pure a : Step α).value = .ok a := rfl

@[simp] theorem value_say (text : String) : (say text).value = .ok () := rfl

@[simp] theorem value_fail (reason : String) : (fail reason : Step α).value = .error (some reason) := rfl

@[simp] theorem value_bind (step : Step α) (next : α → Step β) :
    (step >>= next).value = step.value >>= fun a ↦ (next a).value := by
  change (step.andThen next).value = _
  rw [andThen]
  cases step.value <;> rfl

@[simp] theorem value_map (f : α → β) (step : Step α) : (f <$> step).value = f <$> step.value := by
  change (step.andThen (pure ∘ f)).value = _
  rw [andThen]
  cases step.value <;> rfl

end Step

/-! ## Documents -/

/-- The raw document that the paths name, merged from all files, or the one on the standard input, and what
it goes by in messages. -/
def rawDocument (workspace : Workspace) (paths : List String) : Except LoadError (Value × String) :=
  match paths with
  | [] => (·, inputName) <$> readSource workspace.input .yaml inputName
  | paths => do
    let files ← collectFiles workspace.tree paths
    let documents ← files.mapM (readFile workspace.tree)
    pure (Value.mergeAll documents, ", ".intercalate files)

/-- The file that findings about the document are laid to. -/
def findingsFile (paths : List String) : String :=
  match paths with
  | [] => inputName
  | [path] => path
  | _ => ""

/-- The raw document is read, has no violations of the schema and is read into the model. -/
def Loads (workspace : Workspace) (paths : List String) (document : Document) : Prop :=
  ∃ value source, rawDocument workspace paths = .ok (value, source) ∧
    checkDocument value source = [] ∧ typeDocument value source = .ok document

/-- The document loads, and no finding of validation is an error. -/
structure Accepted (workspace : Workspace) (paths : List String) (document : Document) : Prop where
  loads : Loads workspace paths document
  errorFree : ∀ entry ∈ (Validation.validateFile document (findingsFile paths)).entries,
    entry.severity ≠ .error

theorem buildDocument_eq_ok_iff {value : Value} {source : String} :
    buildDocument value source = .ok document ↔
      checkDocument value source = [] ∧ typeDocument value source = .ok document := by
  rw [buildDocument]
  split
  · next hnone => rw [mapError_eq_ok, and_iff_right hnone]
  · next hsome => exact ⟨nofun, fun h ↦ absurd h.1 hsome⟩

theorem loadFiles_eq (workspace : Workspace) (first : String) (rest : List String) :
    loadFiles workspace.tree (first :: rest) =
      rawDocument workspace (first :: rest) >>= fun raw ↦ buildDocument raw.1 raw.2 := by
  simp only [loadFiles, rawDocument, bind_assoc, pure_bind]

theorem loadInput_eq (workspace : Workspace) :
    loadInput workspace.input =
      rawDocument workspace [] >>= fun raw ↦ buildDocument raw.1 raw.2 := by
  simp only [loadInput, rawDocument, bind_map_left]

theorem loadDocument_eq (workspace : Workspace) (paths : List String) :
    loadDocument workspace paths = (rawDocument workspace paths >>= fun raw ↦
      (·, findingsFile paths) <$> buildDocument raw.1 raw.2) := by
  match paths with
  | [] => exact (congrArg _ (loadInput_eq workspace)).trans (map_bind ..)
  | [path] => exact (congrArg _ (loadFiles_eq workspace path [])).trans (map_bind ..)
  | first :: second :: rest =>
    exact (congrArg _ (loadFiles_eq workspace first (second :: rest))).trans (map_bind ..)

theorem loadDocument_eq_ok_iff {file : String} :
    loadDocument workspace paths = .ok (document, file) ↔
      Loads workspace paths document ∧ file = findingsFile paths := by
  simp only [loadDocument_eq, bind_eq_ok, map_eq_ok, buildDocument_eq_ok_iff, Prod.mk.injEq, Loads,
    Prod.exists]
  constructor
  · rintro ⟨value, source, hraw, _, hbuilt, rfl, rfl⟩
    exact ⟨⟨value, source, hraw, hbuilt⟩, rfl⟩
  · rintro ⟨⟨value, source, hraw, hbuilt⟩, rfl⟩
    exact ⟨value, source, hraw, document, hbuilt, rfl, rfl⟩

/-! ## Checked documents -/

theorem count_eq_zero_iff {report : Report} {severity : Severity} :
    report.count severity = 0 ↔ ∀ entry ∈ report.entries, entry.severity ≠ severity := by
  simp [Report.count, List.countP_eq_zero]

theorem accepted_iff : Accepted workspace paths document ↔
    loadDocument workspace paths = .ok (document, findingsFile paths) ∧
      (Validation.validateFile document (findingsFile paths)).count .error = 0 := by
  rw [loadDocument_eq_ok_iff, and_iff_left rfl, count_eq_zero_iff]
  exact ⟨fun h ↦ ⟨h.loads, h.errorFree⟩, fun h ↦ ⟨h.1, h.2⟩⟩

theorem value_checkedDocument_eq_ok_iff :
    (checkedDocument workspace paths).value = .ok document ↔ Accepted workspace paths document := by
  rw [accepted_iff, checkedDocument]
  cases hload : loadDocument workspace paths with
  | error error => cases error <;> exact ⟨nofun, fun h ↦ nomatch h.1⟩
  | ok loaded =>
    obtain ⟨found, file⟩ := loaded
    obtain rfl := (loadDocument_eq_ok_iff.mp hload).2
    simp only [Step.value_bind, Step.value_say, ok_bind, Except.ok.injEq, Prod.mk.injEq, and_true]
    split
    · next herrors =>
      refine ⟨nofun, ?_⟩
      rintro ⟨rfl, hnone⟩
      exact absurd hnone (Nat.ne_of_gt herrors)
    · next herrors =>
      have hnone := Nat.eq_zero_of_not_pos herrors
      simp only [apply_ite Step.value, Step.value_bind, Step.value_say, ok_bind, Step.value_pure, ite_self,
        Except.ok.injEq]
      exact ⟨fun h ↦ ⟨h, h ▸ hnone⟩, And.left⟩

/-! ## Generated files -/

/-- The settings that the options name. -/
def settings (workspace : Workspace) (options : GenerateOptions) : Except GenError Config :=
  match options.config with
  | none => .ok {}
  | some path => readConfig workspace.tree path

/-- The pipeline that the options name; without plugins it is that of all built-in ones. -/
def requestedPipeline (options : GenerateOptions) : Pipeline :=
  (Pipeline.ofIds (if options.plugins.isEmpty then Plugin.builtinIds else options.plugins)).2

/-- All goes well up to the files: settings are read, a document is accepted and the plugins succeed. -/
def Generates (workspace : Workspace) (options : GenerateOptions) (files : FileSet) : Prop :=
  ∃ config document, settings workspace options = .ok config ∧
    Accepted workspace options.specs document ∧
      ((requestedPipeline options).run document config).2.result = .ok files

theorem value_loadConfig_eq_ok_iff :
    (loadConfig workspace options.config).value = .ok config ↔
      settings workspace options = .ok config := by
  rw [settings]
  cases options.config with
  | none => simp [loadConfig]
  | some path =>
    rw [loadConfig]
    cases hread : readConfig workspace.tree path <;> simp [hread]

theorem value_generatedDocument (workspace : Workspace) (paths : List String) :
    (generatedDocument workspace paths).value = (checkedDocument workspace paths).value := by
  rw [generatedDocument]
  split <;> rfl

theorem value_generateFiles_eq_ok_iff {verbosity : Nat} {files : FileSet} :
    (generateFiles workspace verbosity options).value = .ok files ↔
      Generates workspace options files := by
  rw [generateFiles]
  simp only [Step.value_bind, bind_eq_ok, value_loadConfig_eq_ok_iff, value_generatedDocument,
    value_checkedDocument_eq_ok_iff, Step.value_say]
  constructor
  · rintro ⟨config, hconfig, document, haccepted, -, -, -, -, hrun⟩
    split at hrun
    · next given hgiven =>
      cases hrun
      exact ⟨config, document, hconfig, haccepted, hgiven⟩
    · cases hrun
  · rintro ⟨config, document, hconfig, haccepted, hrun⟩
    refine ⟨config, hconfig, document, haccepted, (), trivial, (), trivial, ?_⟩
    rw [requestedPipeline] at hrun
    rw [hrun, Step.value_pure]

/-- Why nothing is generated: settings that cannot be read, a document that cannot be read, violates the
schema or does not fit the model, an error found by validation, or a plugin that fails. -/
inductive Refused (workspace : Workspace) (options : GenerateOptions) : Prop
  | settings {path : String} {error : GenError} (hpath : options.config = some path)
      (h : readConfig workspace.tree path = .error error)
  | unreadable {error : LoadError} (h : rawDocument workspace options.specs = .error error)
  | violations {value : Value} {source : String}
      (hraw : rawDocument workspace options.specs = .ok (value, source))
      (h : checkDocument value source ≠ [])
  | unfit {value : Value} {source : String} {entry : Entry}
      (hraw : rawDocument workspace options.specs = .ok (value, source))
      (h : typeDocument value source = .error entry)
  | invalid {document : Document} {entry : Entry} (hloads : Loads workspace options.specs document)
      (hentry : entry ∈ (Validation.validateFile document (findingsFile options.specs)).entries)
      (h : entry.severity = .error)
  | failed {config : Config} {document : Document} {error : GenError}
      (hconfig : settings workspace options = .ok config)
      (haccepted : Accepted workspace options.specs document)
      (h : ((requestedPipeline options).run document config).2.result = .error error)

theorem Loads.eq {other : Document} (h : Loads workspace paths document)
    (hother : Loads workspace paths other) : document = other := by
  have hfirst := loadDocument_eq_ok_iff.mpr ⟨h, rfl⟩
  cases hfirst.symm.trans (loadDocument_eq_ok_iff.mpr ⟨hother, rfl⟩)
  rfl

theorem Refused.not_generates (h : Refused workspace options) (files : FileSet) :
    ¬ Generates workspace options files := by
  rintro ⟨config, document, hconfig, haccepted, hrun⟩
  obtain ⟨value, source, hraw, hcheck, htype⟩ := haccepted.loads
  cases h with
  | settings hpath h =>
    rw [Command.settings, hpath] at hconfig
    exact nomatch h.symm.trans hconfig
  | unreadable h => exact nomatch h.symm.trans hraw
  | violations hraw' h =>
    cases hraw'.symm.trans hraw
    exact h hcheck
  | unfit hraw' h =>
    cases hraw'.symm.trans hraw
    exact nomatch h.symm.trans htype
  | invalid hloads hentry h =>
    obtain rfl := hloads.eq haccepted.loads
    exact haccepted.errorFree _ hentry h
  | failed hconfig' haccepted' h =>
    cases hconfig'.symm.trans hconfig
    obtain rfl := haccepted'.loads.eq haccepted.loads
    exact nomatch h.symm.trans hrun

theorem refused_of_not_generates (h : ∀ files, ¬ Generates workspace options files) :
    Refused workspace options := by
  cases hconfig : settings workspace options with
  | error error =>
    rw [settings] at hconfig
    split at hconfig
    · cases hconfig
    · next path hpath => exact .settings hpath hconfig
  | ok config =>
    cases hraw : rawDocument workspace options.specs with
    | error error => exact .unreadable hraw
    | ok raw =>
      obtain ⟨value, source⟩ := raw
      by_cases hcheck : checkDocument value source = []
      · cases htype : typeDocument value source with
        | error entry => exact .unfit hraw htype
        | ok document =>
          have hloads : Loads workspace options.specs document := ⟨value, source, hraw, hcheck, htype⟩
          by_cases herrors :
              ∀ entry ∈ (Validation.validateFile document (findingsFile options.specs)).entries,
                entry.severity ≠ .error
          · cases hrun : ((requestedPipeline options).run document config).2.result with
            | error error => exact .failed hconfig ⟨hloads, herrors⟩ hrun
            | ok files => exact absurd ⟨config, document, hconfig, ⟨hloads, herrors⟩, hrun⟩ (h files)
          · push Not at herrors
            obtain ⟨entry, hentry, herror⟩ := herrors
            exact .invalid hloads hentry herror
      · exact .violations hraw hcheck

/-! ## Outcomes -/

/-- All files are generated, but one of them cannot be written into the folder. -/
def WritingFails (workspace : Workspace) (options : GenerateOptions) : Prop :=
  ∃ files folder reason, Generates workspace options files ∧ options.out = some folder ∧
    ((folderSink folder (options.stripped.getD "")).emit workspace.tree files).2.result =
      .error (.io reason)

theorem failsOnly_writeAll_folderSink (folder front : String) (tree : Files.Tree)
    (entries : Entries SourceFile) :
    FailsOnly (fun error ↦ ∃ reason, error = .io reason)
      ((folderSink folder front).writeAll tree entries) := by
  induction entries generalizing tree with
  | nil => exact .ok tree
  | cons entry rest ih =>
    obtain ⟨name, file⟩ := entry
    rw [Sink.writeAll_cons]
    refine .bind (.map ?_ Prod.fst) fun next ↦ ih next
    simp only [folderSink]
    split
    · exact .error ⟨_, rfl⟩
    · exact .ok _

/-- Writing into a folder counts the files or fails with an error of the file system. -/
theorem result_emit_folderSink (folder front : String) (tree : Files.Tree) (files : FileSet) :
    (∃ count, ((folderSink folder front).emit tree files).2.result = .ok count) ∨
      ∃ reason, ((folderSink folder front).emit tree files).2.result = .error (.io reason) := by
  cases hresult : ((folderSink folder front).emit tree files).2.result with
  | ok count => exact .inl ⟨count, rfl⟩
  | error error =>
    right
    have hfails := (failsOnly_writeAll_folderSink folder front tree (writable files.entries)).map
      fun _ ↦ (writable files.entries).length
    rw [← Sink.result_emit, hresult] at hfails
    obtain ⟨reason, rfl⟩ := hfails error rfl
    exact ⟨reason, rfl⟩

theorem generate_of_refused (h : Refused workspace options) (verbosity : Nat) :
    (generate workspace verbosity options).status = 1 ∧
      (generate workspace verbosity options).output = "" ∧
        (generate workspace verbosity options).tree = workspace.tree := by
  cases hvalue : (generateFiles workspace verbosity options).value with
  | ok files => exact absurd (value_generateFiles_eq_ok_iff.mp hvalue) (h.not_generates files)
  | error reason =>
    rw [generate]
    simp only [hvalue, conclude, Step.value_map]
    cases reason with
    | none => exact ⟨rfl, rfl, rfl⟩
    | some reason => exact ⟨rfl, rfl, rfl⟩

theorem Generates.eq {files others : FileSet} (h : Generates workspace options files)
    (hothers : Generates workspace options others) : files = others := by
  have hvalue : (generateFiles workspace 0 options).value = .ok files :=
    value_generateFiles_eq_ok_iff.mpr h
  have hvalue' : (generateFiles workspace 0 options).value = .ok others :=
    value_generateFiles_eq_ok_iff.mpr hothers
  exact Except.ok.inj (hvalue.symm.trans hvalue')

theorem status_generate_of_generates {files : FileSet} (h : Generates workspace options files)
    (verbosity : Nat) :
    (generate workspace verbosity options).status = 1 ↔ WritingFails workspace options := by
  have hvalue : (generateFiles workspace verbosity options).value = .ok files :=
    value_generateFiles_eq_ok_iff.mpr h
  rw [generate]
  simp only [hvalue]
  cases hout : options.out with
  | none =>
    refine ⟨nofun, ?_⟩
    rintro ⟨_, _, _, _, hfolder, _⟩
    exact nomatch hout.symm.trans hfolder
  | some folder =>
    simp only [emitToFolder]
    rcases result_emit_folderSink folder (options.stripped.getD "") workspace.tree files with
      ⟨count, hcount⟩ | ⟨reason, hreason⟩
    · simp only [hcount]
      refine ⟨nofun, ?_⟩
      rintro ⟨others, _, reason, hothers, hfolder, hreason⟩
      obtain rfl := h.eq hothers
      cases hout.symm.trans hfolder
      exact nomatch hcount.symm.trans hreason
    · simp only [hreason]
      exact ⟨fun _ ↦ ⟨files, folder, reason, h, hout, hreason⟩, fun _ ↦ trivial⟩

theorem status_generate_iff {verbosity : Nat} :
    (generate workspace verbosity options).status = 1 ↔
      Refused workspace options ∨ WritingFails workspace options := by
  by_cases hgenerates : ∃ files, Generates workspace options files
  · obtain ⟨files, hfiles⟩ := hgenerates
    rw [status_generate_of_generates hfiles, or_iff_right fun h ↦ h.not_generates files hfiles]
  · have hrefused := refused_of_not_generates (not_exists.mp hgenerates)
    exact ⟨fun _ ↦ .inl hrefused, fun _ ↦ (generate_of_refused hrefused verbosity).1⟩

theorem status_validate_iff :
    (validate workspace paths).status = 0 ↔ ∃ document, Accepted workspace paths document := by
  rw [validate, conclude, Step.value_map]
  simp only [← value_checkedDocument_eq_ok_iff]
  rcases (checkedDocument workspace paths).value with (_ | reason) | document
  · exact ⟨nofun, nofun⟩
  · exact ⟨nofun, nofun⟩
  · exact ⟨fun _ ↦ ⟨document, rfl⟩, fun _ ↦ rfl⟩

theorem tree_conclude (workspace : Workspace) (step : Step String) :
    (conclude workspace step).tree = workspace.tree := by
  rw [conclude]
  split <;> rfl

/-- Nothing but generating touches a file. Generating ends with a failure if something is wrong before any
file is written, and then no file is touched and nothing printed, or else if a file cannot be written.
Validating succeeds exactly with documents that are accepted. -/
theorem run_leaves_tree (workspace : Workspace) (args : List String) :
    ((∀ verbosity options, readArguments args ≠ .perform verbosity (.generate options)) →
        (run workspace args).tree = workspace.tree) ∧
      (∀ verbosity options, readArguments args = .perform verbosity (.generate options) →
        ((run workspace args).status = 1 ↔
            Refused workspace options ∨ WritingFails workspace options) ∧
          (Refused workspace options → ¬ WritingFails workspace options ∧
            (run workspace args).tree = workspace.tree ∧ (run workspace args).output = "")) ∧
      ∀ verbosity paths, readArguments args = .perform verbosity (.validate paths) →
        ((run workspace args).status = 0 ↔ ∃ document, Accepted workspace paths document) := by
  refine ⟨fun hother ↦ ?_, fun verbosity options hargs ↦ ?_, fun verbosity paths hargs ↦ ?_⟩
  · rw [run]
    cases hargs : readArguments args with
    | perform verbosity action =>
      cases action with
      | generate options => exact absurd hargs (hother verbosity options)
      | validate paths => exact tree_conclude workspace _
      | schema => exact tree_conclude workspace _
    | version command => rfl
    | help => rfl
    | usage => rfl
  · rw [run, hargs]
    refine ⟨status_generate_iff, fun hrefused ↦ ⟨?_, ?_⟩⟩
    · rintro ⟨files, _, _, hfiles, -⟩
      exact hrefused.not_generates files hfiles
    · obtain ⟨-, houtput, htree⟩ := generate_of_refused hrefused verbosity
      exact ⟨htree, houtput⟩
  · rw [run, hargs]
    exact status_validate_iff

/-- A working folder with a file in it, and a document on the standard input. -/
def notedWorkspace : Workspace where
  tree := { root := .folder [("work", .folder [("notes", .file ⟨#[1]⟩)])], here := ["work"] }
  input := "dtype:\n  FLOAT:\n    ctype: float\n".toUTF8

/-- Arguments that name settings which are not there, and a file as the folder for the output. -/
def goneArgs : List String := ["generate", "-o", "notes", "--config", "gone.json"]

theorem run_leaves_notedWorkspace :
    (readArguments goneArgs =
        .perform 0 (.generate { out := some "notes", config := some "gone.json" }) ∧
      (run notedWorkspace goneArgs).status = 1 ∧ (run notedWorkspace goneArgs).output = "" ∧
        (run notedWorkspace goneArgs).tree = notedWorkspace.tree) ∧
      readArguments ["validate"] = .perform 0 (.validate []) ∧
        ∃ document, Accepted notedWorkspace [] document := by
  have hargs : readArguments goneArgs =
      .perform 0 (.generate { out := some "notes", config := some "gone.json" }) := rfl
  have hvalidate : readArguments ["validate"] = .perform 0 (.validate []) := rfl
  have hgone : readConfig notedWorkspace.tree "gone.json" =
      .error (.io "No such file or directory (os error 2)") := rfl
  have hrefused : Refused notedWorkspace { out := some "notes", config := some "gone.json" } :=
    .settings rfl hgone
  obtain ⟨-, hgenerate, -⟩ := run_leaves_tree notedWorkspace goneArgs
  obtain ⟨hstatus, hnothing⟩ := hgenerate _ _ hargs
  obtain ⟨-, htree, houtput⟩ := hnothing hrefused
  obtain ⟨-, -, haccepts⟩ := run_leaves_tree notedWorkspace ["validate"]
  have hvalid : (run notedWorkspace ["validate"]).status = 0 := by decide +kernel
  exact ⟨⟨hargs, hstatus.mpr (.inl hrefused), houtput, htree⟩, hvalidate,
    (haccepts _ _ hvalidate).mp hvalid⟩

end SourceGen.Command
