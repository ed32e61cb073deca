import SourceGen.Proofs.Binding.Calls
import SourceGen.Proofs.Binding.Collected
import SourceGen.Proofs.Pipeline.OwnFiles
import SourceGen.Proofs.Template.Passages

/-!
# Units of the binding

Every generated unit is the text of what was bound for the namespaces of one group: the module's own
variable first, then the classes of result types, then the blocks of its namespaces. Each statement stands
there as the call that it is.
-/

namespace SourceGen.Binding

open Spec Text Template

/-! ## The text of a unit -/

/-- The pieces that the variable of the module reads as. -/
def rootPieces : List Piece :=
  textPieces "m_" ++ [.slot "modname"]

def unitPieces : List Piece :=
  textPieces "namespace py = pybind11;\n\nPYBIND11_MODULE(" ++ [.slot "modname"] ++ textPieces ", " ++
    rootPieces ++ textPieces ")\n\x7b\n" ++ rootPieces ++ textPieces ".doc() = \"pybind for " ++
    [.slot "modname"] ++ textPieces " api\";\n\n" ++ [.slot "input_defs"] ++
    textPieces "\n\n#ifdef CUSTOM_PYBIND_EXT\nCUSTOM_PYBIND_EXT(" ++ rootPieces ++
    textPieces ")\n#endif\n\n" ++ [.slot "content"] ++ textPieces "\n\n\x7d\n"

theorem readSource_unitLines : readSource (join "\n" unitLines) = .ok unitPieces := by
  rw [readSource_join]
  decide +kernel

namespace Binder

/-- The statements of a block, each on a line of its own. -/
def writtenBlock (block : List Statement) : String :=
  join "\n" (block.map Statement.written)

/-- What a unit reads. -/
def unitContent (binder : Binder) (group : Group) : String :=
  "namespace py = pybind11;\n\nPYBIND11_MODULE(" ++ group.name ++ ", " ++ group.root ++
    ")\n\x7b\n" ++ group.root ++ ".doc() = \"pybind for " ++ group.name ++ " api\";\n\n" ++
    writtenBlock binder.types.values ++
    "\n\n#ifdef CUSTOM_PYBIND_EXT\nCUSTOM_PYBIND_EXT(" ++ group.root ++ ")\n#endif\n\n" ++
    join "\n\n" (binder.blocks.map writtenBlock) ++ "\n\n\x7d\n"

theorem blockText_eq (block : List Statement) : blockText block = writtenBlock block := by
  rw [blockText, writtenBlock, funext Statement.text_eq]

def unitValues (binder : Binder) (group : Group) : Entries String :=
  [("modname", group.name), ("input_defs", blockText binder.types.values),
    ("content", join "\n\n" (binder.blocks.map blockText))]

theorem unitText_eq_ok (binder : Binder) (group : Group) :
    binder.unitText group = .ok (binder.unitContent group) := by
  have hname : (Piece.slot "modname").fill (binder.unitValues group) = group.name.toList := rfl
  have htypes : (Piece.slot "input_defs").fill (binder.unitValues group) =
      (writtenBlock binder.types.values).toList :=
    congrArg String.toList (blockText_eq binder.types.values)
  have hblocks : (Piece.slot "content").fill (binder.unitValues group) =
      (join "\n\n" (binder.blocks.map writtenBlock)).toList := by
    rw [← funext blockText_eq]
    rfl
  have hslots : ∀ name ∈ slotNames unitPieces, name ∈ (binder.unitValues group).keys := by
    simp [mem_slotNames, unitPieces, rootPieces, textPieces, unitValues, Entries.keys]
  have hnodup : (binder.unitValues group).keys.Nodup := by simp [unitValues, Entries.keys]
  have htext : String.ofList (unitPieces.flatMap (·.fill (binder.unitValues group))) =
      binder.unitContent group := by
    rw [← String.toList_inj, String.toList_ofList]
    unfold unitPieces rootPieces unitContent Group.root
    simp only [List.flatMap_append, List.flatMap_singleton, flatMap_fill_textPieces, hname, htypes,
      hblocks, String.toList_append, List.append_assoc]
  have hvalues : binder.unitText group = Emit.fill unitLines (binder.unitValues group) := rfl
  rw [hvalues, fill_eq_ok readSource_unitLines hnodup hslots, htext]

end Binder

/-! ## The files -/

/-- The group of a name under the settings of an interface. -/
def groupNamed (api : Api) (config : Config) (name : String) : Group :=
  ⟨name, api, config.bindingAlias⟩

/-- The unit of a group for which a binder has bound the namespaces. -/
def unitOf (api : Api) (config : Config) (name : String) (binder : Binder) : SourceFile :=
  { content := binder.unitContent (groupNamed api config name)
    includes := unitIncludes api
    references := [bindingHeader, Emit.interfaceHeader] }

/-- A file is the unit of a group: it has the text of what was bound for the group's namespaces. -/
structure IsUnit (api : Api) (config : Config) (name : String) (file : SourceFile)
    (namespaces : Entries NamespaceContent) (binder : Binder) : Prop where
  grouped : (name, namespaces) ∈ (groups api).entries
  bound : (bindGroup (groupNamed api config name) namespaces).result = .ok binder
  file_eq : file = unitOf api config name binder

variable {api : Api} {config : Config}

theorem exists_bound_of_mem_unitFiles {units : Entries (Entries NamespaceContent)}
    {files : Entries SourceFile} (h : (unitFiles api config units).result = .ok files)
    {name : String} {file : SourceFile} (hfile : (unitFile name, file) ∈ files) :
    ∃ namespaces binder, (name, namespaces) ∈ units ∧
      (bindGroup (groupNamed api config name) namespaces).result = .ok binder ∧
        file = unitOf api config name binder := by
  induction units generalizing files with
  | nil =>
    cases h
    cases hfile
  | cons entry rest ih =>
    obtain ⟨first, namespaces⟩ := entry
    simp only [unitFiles, Run.result_bind, Run.result_pure, Run.result_ofExcept,
      Binder.unitText_eq_ok, ok_bind] at h
    obtain ⟨binder, hbinder, hlater⟩ := bind_eq_ok.mp h
    obtain ⟨later, hrest, hfiles⟩ := bind_eq_ok.mp hlater
    cases hfiles
    rcases List.mem_cons.mp hfile with heq | hmem
    · obtain ⟨hname, rfl⟩ := Prod.mk.inj heq
      cases unitFile_injective hname
      exact ⟨namespaces, binder, List.mem_cons_self, hbinder, rfl⟩
    · obtain ⟨others, bound, hothers, hbound⟩ := ih hrest hmem
      exact ⟨others, bound, List.mem_cons_of_mem _ hothers, hbound⟩

/-- Every generated file with the name of a unit is the unit of its group. -/
theorem exists_isUnit {files : Entries SourceFile} (h : (Binding.files api config).result = .ok files)
    {name : String} {file : SourceFile} (hfile : (unitFile name, file) ∈ files) :
    ∃ namespaces binder, IsUnit api config name file namespaces binder := by
  simp only [Binding.files, Run.result_bind, Run.result_pure] at h
  obtain ⟨units, hunits, hfiles⟩ := bind_eq_ok.mp h
  cases hfiles
  rcases List.mem_cons.mp hfile with heq | hmem
  · exact absurd (Prod.mk.inj heq).1 (unitFile_ne_bindingHeader name)
  · obtain ⟨namespaces, binder, hgrouped, hbound, hfile⟩ := exists_bound_of_mem_unitFiles hunits hmem
    exact ⟨namespaces, binder, hgrouped, hbound, hfile⟩

/-- With all namespaces in one group there is one unit behind the header. -/
theorem result_files_of_groups_eq {name : String} {namespaces : Entries NamespaceContent} {binder : Binder}
    (hgroups : (groups api).entries = [(name, namespaces)])
    (hbound : (bindGroup (groupNamed api config name) namespaces).result = .ok binder) :
    (Binding.files api config).result = .ok [(bindingHeader, { content := headerText api config }),
      (unitFile name, unitOf api config name binder)] := by
  rw [groupNamed] at hbound
  simp only [Binding.files, hgroups, unitFiles, Run.result_bind, Run.result_pure, Run.result_ofExcept,
    hbound, Binder.unitText_eq_ok, ok_bind]
  rfl

theorem isUnit_of_groups_eq {name : String} {namespaces : Entries NamespaceContent} {binder : Binder}
    (hgroups : (groups api).entries = [(name, namespaces)])
    (hbound : (bindGroup (groupNamed api config name) namespaces).result = .ok binder) :
    IsUnit api config name (unitOf api config name binder) namespaces binder where
  grouped := by
    rw [hgroups]
    exact List.mem_cons_self
  bound := hbound
  file_eq := rfl

end SourceGen.Binding
