import SourceGen.Proofs.Binding.Grouping
import SourceGen.Proofs.Output.Recording
import SourceGen.Proofs.Pipeline.Order

/-!
# References between generated files

The built-in plugins refer to the headers of all four, and each header comes before the files that refer to
it. Whatever the files are emitted into, a header that a written file refers to is then written too, except
for the header of the interface where the document asks for a blank include: this header cannot be written,
while the files that refer to it can.
-/

namespace SourceGen

open Spec Emit Text

variable {document : Document} {config : Config}

/-- The interface asks for an include that is blank. -/
def HasBlankInclude (document : Document) : Prop :=
  ∃ api, document.api = some api ∧ ∃ target ∈ api.includes, isBlankText target = true

/-- The generated files that others refer to. -/
def referredHeaders : List String :=
  [opcodeHeader, dtypeHeader, interfaceHeader, Binding.bindingHeader]

/-- Files refer to headers of the built-in plugins, known ones or ones before them, and of these headers all
can be written but possibly that of the interface. -/
structure Linked (document : Document) (known : List String) (entries : Entries SourceFile) : Prop where
  back : RefersBack known entries
  referred : ∀ name file, (name, file) ∈ entries → ∀ reference ∈ file.references,
    reference ∈ referredHeaders
  writable : ∀ name file, (name, file) ∈ entries → name ∈ referredHeaders →
    (file.fault? name = none ↔ ¬(name = interfaceHeader ∧ HasBlankInclude document))

namespace Linked

variable {known : List String}

theorem nil : Linked document known [] :=
  ⟨trivial, fun _ _ h ↦ (List.not_mem_nil h).elim, fun _ _ h ↦ (List.not_mem_nil h).elim⟩

theorem append {front back : Entries SourceFile} (hfront : Linked document known front)
    (hback : Linked document (known ++ front.keys) back) : Linked document known (front ++ back) where
  back := hfront.back.append hback.back
  referred name file h :=
    (List.mem_append.mp h).elim (hfront.referred name file) (hback.referred name file)
  writable name file h :=
    (List.mem_append.mp h).elim (hfront.writable name file) (hback.writable name file)

/-- Where every file refers to known headers only. -/
theorem of_forall {entries : Entries SourceFile}
    (hknown : ∀ name file, (name, file) ∈ entries → ∀ reference ∈ file.references,
      reference ∈ known ∧ reference ∈ referredHeaders)
    (hnames : ∀ name ∈ entries.keys, name ∉ referredHeaders) : Linked document known entries where
  back := .of_forall fun name file hfile reference hreference ↦
    (hknown name file hfile reference hreference).1
  referred name file hfile reference hreference := (hknown name file hfile reference hreference).2
  writable name _ hfile hname := absurd hname (hnames name (List.mem_map_of_mem hfile))

end Linked

/-! ## Headers -/

/-- A header that refers to nothing can be written unless an include of it is blank. -/
theorem fault?_header_eq_none_iff {name content : String} {includes : List String}
    (hname : name ∈ referredHeaders) :
    ({ content, includes } : SourceFile).fault? name = none ↔
      ∀ target ∈ includes, ¬ isBlankText target = true := by
  have hplain : ∀ header ∈ referredHeaders,
      isBlankText header = false ∧ header.toList.any SourceFile.isSeparator = false := by decide
  obtain ⟨hblank, hseparator⟩ := hplain name hname
  simp [SourceFile.fault?_eq_none_iff, hblank, hseparator]

theorem linked_header {known : List String} {name content : String} {includes : List String}
    (hname : name ∈ referredHeaders)
    (hincludes : (∀ target ∈ includes, ¬ isBlankText target = true) ↔
      ¬(name = interfaceHeader ∧ HasBlankInclude document)) :
    Linked document known [(name, { content, includes })] where
  back := ⟨nofun, trivial⟩
  referred _ _ hfile := by
    cases List.mem_singleton.mp hfile
    exact nofun
  writable _ _ hfile _ := by
    cases List.mem_singleton.mp hfile
    exact (fault?_header_eq_none_iff hname).trans hincludes

/-- A header with its source file. -/
theorem linked_pair {header source content : String} {includes : List String} {file : SourceFile}
    {known : List String} (hheader : header ∈ referredHeaders) (hsource : source ∉ referredHeaders)
    (hincludes : (∀ target ∈ includes, ¬ isBlankText target = true) ↔
      ¬(header = interfaceHeader ∧ HasBlankInclude document))
    (hreferences : file.references = [header]) :
    Linked document known [(header, { content, includes }), (source, file)] := by
  refine .append (linked_header hheader hincludes) (.of_forall ?_ ?_)
  · intro name file' hfile reference hreference
    cases List.mem_singleton.mp hfile
    rw [hreferences, List.mem_singleton] at hreference
    subst hreference
    exact ⟨List.mem_append_right _ List.mem_cons_self, hheader⟩
  · intro name hname
    cases List.mem_singleton.mp hname
    exact hsource

/-! ## The files of each section -/

/-- The include of an operator path has quotes. -/
theorem not_isBlankText_headerIncludes (unit : OpcodeUnit) :
    ∀ target ∈ unit.headerIncludes, ¬ isBlankText target = true := by
  have hquoted : ∀ path : String, isBlankText ("\"" ++ path ++ "\"") = false := by
    intro path
    have hquote : isBlank '"' = false := by decide
    simp [isBlankText, hquote]
  intro target htarget
  rcases List.mem_append.mp htarget with hfixed | hpath
  · have hplain : ∀ target ∈ ["<string>", "\"internal/global/global.hpp\""],
        ¬ isBlankText target = true := by decide
    exact hplain target hfixed
  · obtain ⟨path, -, rfl⟩ := Option.map_eq_some_iff.mp (Option.mem_toList.mp hpath)
    simp only [hquoted, Bool.false_eq_true, not_false_iff]

theorem linked_opcodeFiles {ops : OpcodeSection} {files : Entries SourceFile} {known : List String}
    (h : opcodeFiles ops config = .ok files) : Linked document known files := by
  obtain ⟨unit, -, hunit⟩ := bind_eq_ok.mp h
  obtain ⟨header, -, hheader⟩ := bind_eq_ok.mp hunit
  obtain ⟨source, -, hsource⟩ := bind_eq_ok.mp hheader
  cases hsource
  exact linked_pair (by decide) (by decide)
    (iff_of_true (not_isBlankText_headerIncludes unit) (by simp [opcodeHeader, interfaceHeader])) rfl

theorem linked_dtypeFiles {dtypes : OrderedMap Dtype} {files : Entries SourceFile} {known : List String}
    (h : dtypeFiles dtypes document config = .ok files) : Linked document known files := by
  obtain ⟨unit, -, hunit⟩ := bind_eq_ok.mp h
  obtain ⟨header, -, hheader⟩ := bind_eq_ok.mp hunit
  obtain ⟨source, -, hsource⟩ := bind_eq_ok.mp hheader
  cases hsource
  exact linked_pair (by decide) (by decide)
    (iff_of_true (by decide) (by simp [dtypeHeader, interfaceHeader])) rfl

theorem linked_interfaceFiles {api : Api} {files : Entries SourceFile} {known : List String}
    (hapi : document.api = some api) (h : (interfaceFiles api config).result = .ok files) :
    Linked document known files := by
  rw [interfaceFiles, Run.result_bind] at h
  obtain ⟨unit, -, hunit⟩ := bind_eq_ok.mp h
  obtain ⟨header, -, hheader⟩ := bind_eq_ok.mp hunit
  obtain ⟨source, -, hsource⟩ := bind_eq_ok.mp hheader
  cases hsource
  refine linked_pair (by decide) (by decide) ?_ rfl
  simp [HasBlankInclude, hapi]

theorem unitFile_not_mem_referredHeaders (group : String) :
    Binding.unitFile group ∉ referredHeaders := by
  simp [← String.toList_inj, Binding.unitFile, referredHeaders, opcodeHeader, dtypeHeader,
    interfaceHeader, Binding.bindingHeader]

theorem linked_bindingFiles {api : Api} {files : Entries SourceFile} {known : List String}
    (hknown : interfaceHeader ∈ known) (h : (Binding.files api config).result = .ok files) :
    Linked document known files := by
  obtain ⟨binders, -, -, rfl⟩ := Binding.exists_binders h
  have hincludes : (∀ target ∈ ([] : List String), ¬ isBlankText target = true) ↔
      ¬(Binding.bindingHeader = interfaceHeader ∧ HasBlankInclude document) :=
    iff_of_true (List.forall_mem_nil _) (by simp [Binding.bindingHeader, interfaceHeader])
  refine .append (linked_header (by decide) hincludes) (.of_forall ?_ ?_)
  · intro name file hfile reference hreference
    obtain ⟨entry, -, heq⟩ := List.mem_map.mp hfile
    cases heq
    rcases List.mem_pair.mp hreference with rfl | rfl
    · exact ⟨List.mem_append_right _ List.mem_cons_self, by decide⟩
    · exact ⟨List.mem_append_left _ hknown, by decide⟩
  · intro name hname
    obtain ⟨file, hfile, rfl⟩ := List.mem_map.mp hname
    obtain ⟨entry, -, rfl⟩ := List.mem_map.mp hfile
    exact unitFile_not_mem_referredHeaders entry.1

/-! ## The default pipeline -/

namespace Pipeline

theorem outcome_builtinIds (document : Document) (config : Config) :
    outcome Plugin.builtinIds document config =
      (({ plugins := Plugin.builtin } : Pipeline).run document config).2.result := rfl

theorem entries_run_builtin {files : FileSet}
    (h : (({ plugins := Plugin.builtin } : Pipeline).run document config).2.result = .ok files) :
    files.entries = filesAlone document config Plugin.opcodes.id ++
      filesAlone document config Plugin.dtypes.id ++ filesAlone document config Plugin.interface.id ++
        filesAlone document config Plugin.binding.id := by
  have houtcome := (outcome_builtinIds document config).trans h
  have hids : distinct (ofIds Plugin.builtinIds).2.ids = Plugin.builtinIds := by decide
  rw [entries_outcome houtcome, hids]
  simp only [Plugin.builtinIds, Plugin.builtin, List.map_cons, List.map_nil, List.flatMap_cons,
    List.flatMap_nil, List.append_nil, List.append_assoc]

theorem refusal?_of_run_builtin {files : FileSet}
    (h : (({ plugins := Plugin.builtin } : Pipeline).run document config).2.result = .ok files)
    {plugin : Plugin} (hplugin : plugin ∈ Plugin.builtin) : plugin.refusal? document config = none := by
  exact refusal?_of_outcome ((outcome_builtinIds document config).trans h) plugin hplugin

/-- The files of the interface begin with its header. -/
theorem exists_filesAlone_interface {api : Api} (hapi : document.api = some api)
    (hadmitted : Plugin.interface.refusal? document config = none) :
    ∃ added, (interfaceFiles api config).result = .ok added ∧
      filesAlone document config Plugin.interface.id = added := by
  obtain ⟨added, hadded⟩ := Plugin.exists_files_ofSection hapi hadmitted
  exact ⟨added, hadded, filesAlone_id (by simp [Plugin.builtin]) (Plugin.adds_interface hapi hadded)⟩

/-- Everything that the default pipeline generates is linked. -/
theorem linked_run_builtin {files : FileSet}
    (h : (({ plugins := Plugin.builtin } : Pipeline).run document config).2.result = .ok files) :
    Linked document [] files.entries := by
  have hopcodes : Plugin.opcodes ∈ Plugin.builtin := by simp [Plugin.builtin]
  have hdtypes : Plugin.dtypes ∈ Plugin.builtin := by simp [Plugin.builtin]
  have hinterface : Plugin.interface ∈ Plugin.builtin := by simp [Plugin.builtin]
  have hbinding : Plugin.binding ∈ Plugin.builtin := by simp [Plugin.builtin]
  rw [entries_run_builtin h]
  refine .append (.append (.append ?_ ?_) ?_) ?_
  · exact filesAlone_ofSection (motive := Linked document []) hopcodes (fun _ _ ↦ Plugin.adds_opcodes)
      (refusal?_of_run_builtin h hopcodes) (fun _ ↦ .nil) fun _ _ _ ↦ linked_opcodeFiles
  · exact filesAlone_ofSection (motive := Linked document _) hdtypes (fun _ _ ↦ Plugin.adds_dtypes)
      (refusal?_of_run_builtin h hdtypes) (fun _ ↦ .nil) fun _ _ _ ↦ linked_dtypeFiles
  · exact filesAlone_ofSection (motive := Linked document _) hinterface (fun _ _ ↦ Plugin.adds_interface)
      (refusal?_of_run_builtin h hinterface) (fun _ ↦ .nil) fun _ _ ↦ linked_interfaceFiles
  · refine filesAlone_ofSection (motive := Linked document _) hbinding (fun _ _ ↦ Plugin.adds_binding)
      (refusal?_of_run_builtin h hbinding) (fun _ ↦ .nil) fun api added hapi hadded ↦ ?_
    obtain ⟨interface, hinterfaceFiles, halone⟩ :=
      exists_filesAlone_interface hapi (refusal?_of_run_builtin h hinterface)
    rw [halone]
    have hheader : interfaceHeader ∈ interface.keys := by
      rw [keys_interfaceFiles hinterfaceFiles]
      exact List.mem_cons_self
    refine linked_bindingFiles ?_ hadded
    simp only [Entries.keys, List.map_append, List.nil_append]
    exact List.mem_append_right _ hheader

/-- The source file of the interface can be written whatever the document asks for. -/
theorem exists_interfaceSource_mem {files : FileSet}
    (h : (({ plugins := Plugin.builtin } : Pipeline).run document config).2.result = .ok files)
    {api : Api} (hapi : document.api = some api) :
    ∃ content, (interfaceSource, { content, references := [interfaceHeader] }) ∈
      writable files.entries := by
  have hinterface : Plugin.interface ∈ Plugin.builtin := by simp [Plugin.builtin]
  obtain ⟨added, hadded, halone⟩ :=
    exists_filesAlone_interface hapi (refusal?_of_run_builtin h hinterface)
  rw [interfaceFiles, Run.result_bind] at hadded
  obtain ⟨unit, -, hunit⟩ := bind_eq_ok.mp hadded
  obtain ⟨header, -, hheader⟩ := bind_eq_ok.mp hunit
  obtain ⟨source, -, hsource⟩ := bind_eq_ok.mp hheader
  cases hsource
  refine ⟨source, List.mem_filter.mpr ⟨?_, rfl⟩⟩
  rw [entries_run_builtin h, halone]
  simp

end Pipeline

/-- Every file that a written file refers to is written as well. -/
def RefersToWritten (written : Entries SourceFile) : Prop :=
  ∀ name file, (name, file) ∈ written → ∀ reference ∈ file.references, reference ∈ written.keys

/-- Whatever the files of the default pipeline are emitted into, and even if that fails on the way, a file
that is written finds what it refers to written, but for the header of the interface if an include of it is
blank. So an emission that succeeds leaves no reference open exactly if no include of the interface is
blank. -/
theorem refersToWritten_iff {document : Document} {config : Config} {files : FileSet}
    (h : (({ plugins := Plugin.builtin } : Pipeline).run document config).2.result = .ok files)
    {σ : Type} (sink : Sink σ) (state : σ) :
    (∀ name file, (name, file) ∈ sink.written state files → ∀ reference ∈ file.references,
      (reference ∈ (sink.written state files).keys ↔
        ¬(reference = interfaceHeader ∧ HasBlankInclude document))) ∧
      ((∃ count, (sink.emit state files).2.result = .ok count) →
        (RefersToWritten (sink.written state files) ↔ ¬ HasBlankInclude document)) := by
  have hlinked := Pipeline.linked_run_builtin h
  have hstart := sink.written_isPrefix state files
  have hreference : ∀ name file, (name, file) ∈ sink.written state files →
      ∀ reference ∈ file.references, (reference ∈ (sink.written state files).keys ↔
        ¬(reference = interfaceHeader ∧ HasBlankInclude document)) := by
    intro name file hfile reference hmem
    have hentry : (name, file) ∈ files.entries := (List.mem_filter.mp (hstart.subset hfile)).1
    obtain hknown | ⟨target, htarget, hwritten⟩ := hlinked.back.accountedFor hstart hfile hmem
    · exact (List.not_mem_nil hknown).elim
    · rw [← hlinked.writable reference target htarget (hlinked.referred name file hentry reference hmem)]
      refine ⟨fun hkey ↦ ?_, fun hfault ↦ List.mem_map_of_mem (hwritten hfault)⟩
      obtain ⟨⟨_, other⟩, hother, rfl⟩ := List.mem_map.mp hkey
      obtain ⟨hother, hfault⟩ := List.mem_filter.mp (hstart.subset hother)
      have hsame : target = other := Option.some.inj
        ((Entries.get?_eq_some_of_mem files.nodup htarget).symm.trans
          (Entries.get?_eq_some_of_mem files.nodup hother))
      rw [hsame]
      exact Option.isNone_iff_eq_none.mp hfault
  refine ⟨hreference, ?_⟩
  rintro ⟨count, hcount⟩
  constructor
  · intro hclosed hblank
    obtain ⟨api, hapi, -⟩ := id hblank
    obtain ⟨content, hsource⟩ := Pipeline.exists_interfaceSource_mem h hapi
    rw [← Sink.written_of_result_eq_ok hcount] at hsource
    have hheader := hclosed _ _ hsource interfaceHeader List.mem_cons_self
    exact (hreference _ _ hsource interfaceHeader List.mem_cons_self).mp hheader ⟨rfl, hblank⟩
  · intro hblank name file hfile reference hmem
    exact (hreference name file hfile reference hmem).mpr fun hboth ↦ hblank hboth.2

/-- An interface with a function and an include. -/
def includingDocument : Document :=
  { api := some
      { includes := ["<vector>"]
        namespaces := .ofEntries
          [("g", .full [{ name := some "f", out := .typed (some "double") "return 1;" }] [])] } }

/-- The files that the built-in plugins make of a document, if they do. -/
def builtinFiles (document : Document) : FileSet :=
  match (({ plugins := Plugin.builtin } : Pipeline).run document {}).2.result with
  | .ok files => files
  | .error _ => .ofEntries []

/-- The unit of bindings refers to both headers, and both are written. -/
theorem refersToWritten_iff_including :
    (({ plugins := Plugin.builtin } : Pipeline).run includingDocument {}).2.result =
        .ok (builtinFiles includingDocument) ∧
      (∃ count, ((textSink "").emit "" (builtinFiles includingDocument)).2.result = .ok count) ∧
        ¬ HasBlankInclude includingDocument ∧
          RefersToWritten ((textSink "").written "" (builtinFiles includingDocument)) ∧
            ∃ entry ∈ (textSink "").written "" (builtinFiles includingDocument),
              entry.2.references = [Binding.bindingHeader, interfaceHeader] := by
  have hrun : (({ plugins := Plugin.builtin } : Pipeline).run includingDocument {}).2.result =
      .ok (builtinFiles includingDocument) := by
    decide +kernel
  have hcount : ((textSink "").emit "" (builtinFiles includingDocument)).2.result = .ok 4 := by
    decide +kernel
  have hinclude : ¬ HasBlankInclude includingDocument := by
    rintro ⟨api, hapi, hblank⟩
    cases hapi
    exact absurd hblank (by decide)
  exact ⟨hrun, ⟨4, hcount⟩, hinclude,
    ((refersToWritten_iff hrun (textSink "") "").2 ⟨4, hcount⟩).mpr hinclude, by decide +kernel⟩

/-- An interface that asks for a blank include and has nothing else. -/
def blankIncludeDocument : Document :=
  { api := some { includes := [" "] } }

def blankIncludeHeader : SourceFile where
  content := "#ifndef _GENERATED_API_HPP\n#define _GENERATED_API_HPP\n\n\n\n\n\n\n\n" ++
    "#endif // _GENERATED_API_HPP\n"
  includes := [" "]

def blankIncludeSource : SourceFile where
  content := "#ifdef _GENERATED_API_HPP\n\n\n\n\n\n#endif\n"
  references := [interfaceHeader]

def blankIncludeBinding : SourceFile where
  content := Binding.headerText { includes := [" "] } {}

def blankIncludeFiles : FileSet :=
  .ofEntries [(interfaceHeader, blankIncludeHeader), (interfaceSource, blankIncludeSource),
    (Binding.bindingHeader, blankIncludeBinding)]

theorem run_blankIncludeDocument :
    (({ plugins := Plugin.builtin } : Pipeline).run blankIncludeDocument {}).2.result =
      .ok blankIncludeFiles := by
  decide +kernel

theorem written_blankIncludeFiles :
    (textSink "").written "" blankIncludeFiles =
      [(interfaceSource, blankIncludeSource), (Binding.bindingHeader, blankIncludeBinding)] := by
  decide +kernel

/-- Validation has nothing to say about the document, and of its files the source file of the interface is
written without the header that it refers to. -/
theorem blankInclude_leaves_reference_open :
    (Validation.validate blankIncludeDocument).entries = [] ∧
      (({ plugins := Plugin.builtin } : Pipeline).run blankIncludeDocument {}).2.result =
          .ok blankIncludeFiles ∧
        ((textSink "").emit "" blankIncludeFiles).2.result = .ok 2 ∧
          ¬ RefersToWritten ((textSink "").written "" blankIncludeFiles) := by
  refine ⟨by decide +kernel, run_blankIncludeDocument, by decide +kernel, fun hclosed ↦ ?_⟩
  rw [written_blankIncludeFiles] at hclosed
  have hheader := hclosed _ _ List.mem_cons_self interfaceHeader List.mem_cons_self
  exact absurd hheader (by decide)

end SourceGen
