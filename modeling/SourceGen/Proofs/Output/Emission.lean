import SourceGen.Output.Sink
import SourceGen.Proofs.Files.Lookup
import SourceGen.Proofs.Outcome

/-!
# What emission leaves

Of the files handed to a sink exactly those that can be written are written, in their order. A folder then
holds under each name the last file written under it, and nothing outside of it is touched; a text goes on
with the files one after the other.
-/

namespace SourceGen

open Files

theorem SourceFile.referenceFault?_eq_none_iff {name reference : String} :
    referenceFault? name reference = none ↔ Text.isBlankText reference = false ∧ reference ≠ name := by
  rw [referenceFault?]
  cases Text.isBlankText reference <;> simp

/-- A file can be written under a name that is not blank and has no separator, if no include is blank and
every reference is to another file. -/
theorem SourceFile.fault?_eq_none_iff {file : SourceFile} {name : String} :
    file.fault? name = none ↔ Text.isBlankText name = false ∧ name.toList.any isSeparator = false ∧
      (∀ target ∈ file.includes, ¬ Text.isBlankText target = true) ∧
        ∀ reference ∈ file.references, Text.isBlankText reference = false ∧ reference ≠ name := by
  simp only [← referenceFault?_eq_none_iff]
  rw [fault?, ← List.find?_eq_none, ← List.findSome?_eq_none_iff]
  cases Text.isBlankText name <;> cases name.toList.any isSeparator <;>
    cases file.includes.find? Text.isBlankText <;> simp

/-- The entries whose files can be written under their names. -/
def writable (entries : Entries SourceFile) : Entries SourceFile :=
  entries.filter fun (name, file) ↦ (file.fault? name).isNone

/-- All entries of the sets that can be written, in their order. -/
def allWritable (batches : List FileSet) : Entries SourceFile :=
  batches.flatMap fun files ↦ writable files.entries

/-- What emission tells of a set when nothing fails. -/
def writtenCounts (batches : List FileSet) : List (Except GenError Nat) :=
  batches.map fun files ↦ .ok (writable files.entries).length

namespace Sink

variable {σ : Type} {sink : Sink σ}

/-- Writes files one after the other up to the first failure. -/
def writeAll (sink : Sink σ) (state : σ) (entries : Entries SourceFile) : Except GenError σ :=
  entries.foldlM (fun state entry ↦ Prod.fst <$> sink.write state entry.1 entry.2) state

/-- Emits sets one after the other, each into what the one before it left. -/
def emitAll (sink : Sink σ) (state : σ) : List FileSet → σ × List (Run Nat)
  | [] => (state, [])
  | files :: rest =>
    let emission := sink.emit state files
    let later := emitAll sink emission.1 rest
    (later.1, emission.2 :: later.2)

theorem writable_cons (name : String) (file : SourceFile) (rest : Entries SourceFile) :
    writable ((name, file) :: rest) =
      if file.fault? name = none then (name, file) :: writable rest else writable rest := by
  rw [writable, List.filter_cons]
  simp only [Option.isNone_iff_eq_none]
  rfl

theorem writeAll_cons (state : σ) (name : String) (file : SourceFile) (rest : Entries SourceFile) :
    sink.writeAll state ((name, file) :: rest) =
      (Prod.fst <$> sink.write state name file) >>= (sink.writeAll · rest) :=
  List.foldlM_cons

/-- Emission fails where writing fails, and otherwise counts what was written. -/
theorem result_emitFrom (state : σ) (count : Nat) (entries : Entries SourceFile) :
    (sink.emitFrom state count entries).2.result =
      (fun _ ↦ count + (writable entries).length) <$> sink.writeAll state (writable entries) := by
  induction entries generalizing state count with
  | nil => rfl
  | cons entry rest ih =>
    obtain ⟨name, file⟩ := entry
    rw [emitFrom, writable_cons]
    cases hfault : file.fault? name with
    | some fault => exact ih state count
    | none =>
      rw [if_pos rfl, writeAll_cons]
      cases hwrite : sink.write state name file with
      | error error => rfl
      | ok written =>
        obtain ⟨next, notes⟩ := written
        have hrest := ih next (count + 1)
        rw [Nat.add_assoc, Nat.add_comm 1] at hrest
        exact hrest

theorem fst_emitFrom {state after : σ} {entries : Entries SourceFile}
    (h : sink.writeAll state (writable entries) = .ok after) (count : Nat) :
    (sink.emitFrom state count entries).1 = after := by
  induction entries generalizing state count with
  | nil =>
    cases h
    rfl
  | cons entry rest ih =>
    obtain ⟨name, file⟩ := entry
    rw [writable_cons] at h
    rw [emitFrom]
    cases hfault : file.fault? name with
    | some fault =>
      rw [hfault, if_neg (by simp)] at h
      exact ih h count
    | none =>
      rw [hfault, if_pos rfl, writeAll_cons] at h
      obtain ⟨next, hnext, hrest⟩ := bind_eq_ok.mp h
      obtain ⟨⟨_, notes⟩, hwrite, rfl⟩ := map_eq_ok.mp hnext
      rw [hwrite]
      exact ih hrest (count + 1)

/-! ## Several sets -/

theorem result_emit (state : σ) (files : FileSet) :
    (sink.emit state files).2.result =
      (fun _ ↦ (writable files.entries).length) <$> sink.writeAll state (writable files.entries) := by
  rw [emit, result_emitFrom]
  simp only [Nat.zero_add]

theorem emitAll_of_writeAll {state after : σ} {batches : List FileSet}
    (h : sink.writeAll state (allWritable batches) = .ok after) :
    (sink.emitAll state batches).1 = after ∧
      (sink.emitAll state batches).2.map (·.result) = writtenCounts batches := by
  induction batches generalizing state with
  | nil =>
    cases h
    exact ⟨rfl, rfl⟩
  | cons files rest ih =>
    rw [allWritable, List.flatMap_cons, writeAll, List.foldlM_append] at h
    obtain ⟨next, hfirst, hrest⟩ := bind_eq_ok.mp h
    have hnext : (sink.emit state files).1 = next := fst_emitFrom hfirst 0
    have hresult : (sink.emit state files).2.result = .ok (writable files.entries).length :=
      (result_emit state files).trans (map_eq_ok.mpr ⟨next, hfirst, rfl⟩)
    obtain ⟨hafter, hresults⟩ := ih hrest
    simp only [emitAll, hnext, writtenCounts, List.map_cons, hresult]
    exact ⟨hafter, congrArg _ hresults⟩

theorem exists_writeAll_of_emitAll {state : σ} {batches : List FileSet}
    (h : ∀ run ∈ (sink.emitAll state batches).2, ∃ count, run.result = .ok count) :
    ∃ after, sink.writeAll state (allWritable batches) = .ok after := by
  induction batches generalizing state with
  | nil => exact ⟨state, rfl⟩
  | cons files rest ih =>
    rw [emitAll] at h
    obtain ⟨⟨count, hfirst⟩, hrest⟩ := List.forall_mem_cons.mp h
    obtain ⟨next, hnext, -⟩ := map_eq_ok.mp ((result_emit state files).symm.trans hfirst)
    have hstate : (sink.emit state files).1 = next := fst_emitFrom hnext 0
    rw [hstate] at hrest
    obtain ⟨after, hafter⟩ := ih hrest
    refine ⟨after, ?_⟩
    rw [allWritable, List.flatMap_cons, writeAll, List.foldlM_append]
    exact bind_eq_ok.mpr ⟨next, hnext, hafter⟩

end Sink

/-! ## Folders -/

/-- The text that a file is written with into a folder. -/
def writtenBytes (folder front : String) (file : SourceFile) : ByteArray :=
  (file.render (includePath folder front)).toUTF8

theorem wroteAll_of_writeAll {tree after : Tree} {folder front : String} {entries : Entries SourceFile}
    (h : (folderSink folder front).writeAll tree entries = .ok after) :
    Tree.WroteAll folder tree (entries.map fun entry ↦ (entry.1, writtenBytes folder front entry.2))
      after := by
  induction entries generalizing tree with
  | nil =>
    cases h
    exact .nil _
  | cons entry rest ih =>
    obtain ⟨name, file⟩ := entry
    rw [Sink.writeAll_cons] at h
    obtain ⟨next, hnext, hrest⟩ := bind_eq_ok.mp h
    refine .cons (Tree.wrote_of_writeFile ?_) (ih hrest)
    obtain ⟨⟨_, notes⟩, hwrite, rfl⟩ := map_eq_ok.mp hnext
    simp only [folderSink] at hwrite
    split at hwrite
    · cases hwrite
    · next hwritten =>
      cases hwrite
      exact hwritten

/-- What a folder and the tree around it hold when files have been written into the folder: under each name
the last file written under it, and in all other places what was there, but for new folders on the way. -/
structure HoldsWritten (tree : Tree) (folder front : String) (entries : Entries SourceFile)
    (after : Tree) : Prop where
  here : after.here = tree.here
  last : ∀ name file, Entries.get? name entries.reverse = some file →
    after.root.holds (tree.place folder ++ [name]) = .file (writtenBytes folder front file) ∧
      after.find? (joinPath folder name) = some (.file (writtenBytes folder front file))
  frame : ∀ names, (∀ name ∈ entries.keys, names ≠ tree.place folder ++ [name]) →
    Holding.Grown (tree.OnWay folder names) (tree.root.holds names) (after.root.holds names)

theorem plainName_of_fault?_eq_none {file : SourceFile} {name : String} (h : file.fault? name = none)
    (hsteps : name ≠ "." ∧ name ≠ "..") : PlainName name := by
  obtain ⟨hblank, hseparator, -, -⟩ := SourceFile.fault?_eq_none_iff.mp h
  refine ⟨?_, hsteps.1, hsteps.2, fun hslash ↦ ?_⟩
  · rintro rfl
    cases hblank
  · rw [List.any_eq_true.mpr ⟨'/', hslash, rfl⟩] at hseparator
    cases hseparator

theorem fault?_of_mem_allWritable {batches : List FileSet} {name : String} {file : SourceFile}
    (h : (name, file) ∈ allWritable batches) : file.fault? name = none := by
  obtain ⟨files, -, hfile⟩ := List.mem_flatMap.mp h
  exact Option.isNone_iff_eq_none.mp (List.mem_filter.mp hfile).2

theorem holdsWritten_of_writeAll {tree after : Tree} {folder front : String}
    {batches : List FileSet}
    (h : (folderSink folder front).writeAll tree (allWritable batches) = .ok after) :
    HoldsWritten tree folder front (allWritable batches) after := by
  have hwrote := wroteAll_of_writeAll h
  have hkeys : Entries.keys ((allWritable batches).map fun entry ↦
      (entry.1, writtenBytes folder front entry.2)) = (allWritable batches).keys := List.map_map
  refine ⟨hwrote.here_eq, fun name file hlast ↦ ?_, fun names hnames ↦ hwrote.frame (hkeys ▸ hnames)⟩
  have hmem : (name, file) ∈ allWritable batches :=
    List.mem_reverse.mp (Entries.mem_of_get?_eq_some hlast)
  have hwritten : Entries.get? name ((allWritable batches).map fun entry ↦
      (entry.1, writtenBytes folder front entry.2)).reverse = some (writtenBytes folder front file) := by
    rw [← List.map_reverse, Entries.get?_mapValues, hlast, Option.map_some]
  have hholds := hwrote.holds_last hwritten
  have hname : PlainName name := by
    refine plainName_of_fault?_eq_none (fault?_of_mem_allWritable hmem) (hwrote.not_step ?_)
    rw [hkeys]
    exact List.mem_map_of_mem hmem
  have hopen : after.IsOpen folder := by
    refine hwrote.isOpen ?_
    rw [Ne, List.map_eq_nil_iff]
    exact List.ne_nil_of_mem hmem
  refine ⟨hholds, ?_⟩
  rw [Tree.find?_joinPath hopen hname, Tree.place_eq_of_here_eq hwrote.here_eq]
  exact Node.at?_of_holds_file hholds

/-! ## Texts -/

/-- How a file stands in a text: below a line with its name. -/
def bannered (include_ name : String) (file : SourceFile) : String :=
  "============== " ++ name ++ " ==============\n" ++ file.render include_ ++ "\n"

theorem write_textSink (include_ written name : String) (file : SourceFile) :
    (textSink include_).write written name file =
      .ok (written ++ bannered include_ name file, []) := by
  have htext : written ++ bannered include_ name file = written ++ "============== " ++ name ++
      " ==============\n" ++ file.render include_ ++ "\n" := by
    unfold bannered
    simp only [String.append_assoc]
  rw [htext]
  rfl

theorem writeAll_textSink (include_ written : String) (entries : Entries SourceFile) :
    (textSink include_).writeAll written entries =
      .ok (written ++ String.join (entries.map fun (name, file) ↦ bannered include_ name file)) := by
  induction entries generalizing written with
  | nil =>
    rw [List.map_nil, String.join_nil, String.append_empty]
    rfl
  | cons entry rest ih =>
    obtain ⟨name, file⟩ := entry
    rw [Sink.writeAll_cons, write_textSink, List.map_cons, String.join_cons, ← String.append_assoc]
    exact ih _

/-! ## Sinks -/

/-- Sets emitted one after the other into a folder, if all goes well, leave there the last file written under
each name and touch nothing else; emitted into a text they leave every file in its order. Either way each set
counts the files of it that can be written, and no others are written. -/
theorem emitAll_leaves_writable (batches : List FileSet) :
    (∀ (tree : Tree) (folder front : String),
      (∀ run ∈ ((folderSink folder front).emitAll tree batches).2, ∃ count, run.result = .ok count) →
        ((folderSink folder front).emitAll tree batches).2.map (·.result) = writtenCounts batches ∧
          HoldsWritten tree folder front (allWritable batches)
            ((folderSink folder front).emitAll tree batches).1) ∧
      ∀ include_ written,
        ((textSink include_).emitAll written batches).2.map (·.result) = writtenCounts batches ∧
          ((textSink include_).emitAll written batches).1 = written ++
            String.join ((allWritable batches).map fun (name, file) ↦ bannered include_ name file) := by
  constructor
  · intro tree folder front hall
    obtain ⟨after, hafter⟩ := Sink.exists_writeAll_of_emitAll hall
    obtain ⟨rfl, hresults⟩ := Sink.emitAll_of_writeAll hafter
    exact ⟨hresults, holdsWritten_of_writeAll hafter⟩
  · intro include_ written
    obtain ⟨hstate, hresults⟩ :=
      Sink.emitAll_of_writeAll (writeAll_textSink include_ written (allWritable batches))
    exact ⟨hresults, hstate⟩

/-- A working folder with notes and a folder in which a file was written before. -/
def usedTree : Tree where
  root := .folder [("work", .folder [("notes", .file ⟨#[1]⟩),
    ("out", .folder [("a.hpp", .file ⟨#[2]⟩)])])]
  here := ["work"]

/-- In the first set a file includes itself, in the second a name leads out of the folder, and the third has
a name of the first again. -/
def overlappingSets : List FileSet :=
  [.ofEntries [("a.hpp", { content := "1", references := ["a.hpp"] }), ("b.hpp", { content := "2" })],
    .ofEntries [("a.hpp", { content := "3" }), ("../notes", { content := "4" })],
    .ofEntries [("b.hpp", { content := "5", references := ["a.hpp"] })]]

theorem emitAll_leaves_notes :
    (∀ run ∈ ((folderSink "out" "").emitAll usedTree overlappingSets).2,
        ∃ count, run.result = .ok count) ∧
      let after := ((folderSink "out" "").emitAll usedTree overlappingSets).1
      after.find? "out/a.hpp" = some (.file "\n3".toUTF8) ∧
        after.find? "out/b.hpp" = some (.file "#include \"out/a.hpp\"\n\n5".toUTF8) ∧
          after.root.holds ["work", "notes"] = .file ⟨#[1]⟩ := by
  have hresults : ((folderSink "out" "").emitAll usedTree overlappingSets).2.map (·.result) =
      [.ok 1, .ok 1, .ok 1] := rfl
  have hall : ∀ run ∈ ((folderSink "out" "").emitAll usedTree overlappingSets).2,
      ∃ count, run.result = .ok count := by
    intro run hrun
    have hmem : run.result ∈ ([.ok 1, .ok 1, .ok 1] : List (Except GenError Nat)) :=
      hresults ▸ List.mem_map_of_mem hrun
    exact ⟨1, by simpa using hmem⟩
  obtain ⟨hfolder, -⟩ := emitAll_leaves_writable overlappingSets
  obtain ⟨-, hholds⟩ := hfolder usedTree "out" "" hall
  refine ⟨hall, (hholds.last "a.hpp" { content := "3" } rfl).2,
    (hholds.last "b.hpp" { content := "5", references := ["a.hpp"] } rfl).2, ?_⟩
  have hnotes : usedTree.root.holds ["work", "notes"] = .file ⟨#[1]⟩ := rfl
  have hframe := hholds.frame ["work", "notes"] (by decide)
  rw [← hnotes]
  exact hframe.eq_of_ne_nothing (hnotes ▸ nofun)

end SourceGen
