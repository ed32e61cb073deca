import SourceGen.Proofs.Files.PathOrder
import SourceGen.Proofs.Files.Walks
import SourceGen.Proofs.Outcome
import SourceGen.Proofs.Text.Characters
import SourceGen.Spec.Load

/-!
# Spec files

Of the paths that are given, a file stands for itself and a folder for the spec files at any depth below it,
sorted by their paths. In what order a walk comes to the places below a folder has no part in that. A path
that stands for nothing is refused, and the first such path decides.
-/

namespace SourceGen

namespace Files

/-! ## Extensions -/

theorem cut_at_dot_iff {cs front back : List Char} :
    cs.takeWhile (· != '.') = front ∧ cs.dropWhile (· != '.') = '.' :: back ↔
      '.' ∉ front ∧ cs = front ++ '.' :: back := by
  constructor
  · rintro ⟨rfl, hback⟩
    refine ⟨fun hmem ↦ ?_, ?_⟩
    · simpa using List.mem_takeWhile_imp hmem
    · rw [← hback, List.takeWhile_append_dropWhile]
  · rintro ⟨hfront, rfl⟩
    have hall : ∀ c ∈ front, (c != '.') = true := fun c hc ↦ bne_iff_ne.mpr fun heq ↦ hfront (heq ▸ hc)
    rw [List.takeWhile_append_of_pos hall, List.dropWhile_append_of_pos hall]
    exact ⟨List.append_nil front, rfl⟩

/-- The extension of a file stands behind the last dot of its name, in front of which there is something. -/
theorem extension?_eq_some_iff {path name ending : String} (hname : fileName? path = some name) :
    extension? path = some ending ↔
      '.' ∉ ending.toList ∧ ∃ stem, stem ≠ "" ∧ name = stem ++ "." ++ ending := by
  have hextension : extension? path =
      if ((name.toList.reverse.dropWhile (· != '.')).tail).isEmpty then none
      else some (String.ofList (name.toList.reverse.takeWhile (· != '.')).reverse) := by
    rw [extension?, hname]
    rfl
  rw [hextension]
  constructor
  · intro h
    split_ifs at h with hbare
    cases hback : name.toList.reverse.dropWhile (· != '.') with
    | nil => simp [hback] at hbare
    | cons dot stem =>
      have hhead : dot ∈ (name.toList.reverse.dropWhile (· != '.')).head? := by
        rw [hback]
        exact List.head?_cons
      obtain rfl : dot = '.' := by simpa using Text.eq_false_of_mem_head?_dropWhile hhead
      obtain ⟨hdot, hsplit⟩ := cut_at_dot_iff.mp ⟨rfl, hback⟩
      rw [hback, List.tail_cons, List.isEmpty_iff] at hbare
      rw [List.reverse_eq_iff, List.reverse_append] at hsplit
      rw [← Option.some.inj h]
      refine ⟨by simpa using hdot, String.ofList stem.reverse, fun hempty ↦ hbare ?_, ?_⟩
      · simpa using congrArg String.toList hempty
      · exact String.toList_inj.mp (hsplit.trans (by simp))
  · rintro ⟨hending, stem, hstem, rfl⟩
    have hcs : (stem ++ "." ++ ending).toList.reverse = ending.toList.reverse ++ '.' :: stem.toList.reverse := by
      simp
    obtain ⟨hfront, hback⟩ := cut_at_dot_iff.mpr ⟨by simpa using hending, hcs⟩
    rw [hfront, hback, List.tail_cons, List.reverse_reverse, String.ofList_toList, if_neg]
    simpa using hstem

end Files

namespace Spec

open Files

/-! ## Spec files of a folder -/

/-- A name of a spec file: something, a dot and one of the extensions. -/
def IsSpecName (name : String) : Prop :=
  ∃ stem ending, stem ≠ "" ∧ ending ∈ ["json", "yml", "yaml"] ∧ name = stem ++ "." ++ ending

/-- A file below a folder, at any depth, that has the name of a spec file. -/
def SpecFileBelow (path : String) (folder : Node) (file : String) : Prop :=
  ∃ names name content, folder.at? (names ++ [name]) = some (.file content) ∧ IsSpecName name ∧
    file = pathBelow path (names ++ [name])

/-- Every spec file below a folder, each once and sorted by their paths. -/
structure ListsSpecFiles (path : String) (folder : Node) (files : List String) : Prop where
  nodup : files.Nodup
  sorted : files.Pairwise fun first second ↦ pathKey first ≤ pathKey second
  mem_iff : ∀ file, file ∈ files ↔ SpecFileBelow path folder file

theorem isSome_ofPath?_iff {path : String} : (Format.ofPath? path).isSome = true ↔
    ∃ ending ∈ ["json", "yml", "yaml"], extension? path = some ending := by
  rw [Format.ofPath?]
  split <;> simp_all

theorem isSome_ofPath?_iff_of_fileName? {path name : String} (hname : fileName? path = some name) :
    (Format.ofPath? path).isSome = true ↔ IsSpecName name := by
  rw [isSome_ofPath?_iff]
  constructor
  · rintro ⟨ending, hending, hpath⟩
    obtain ⟨-, stem, hstem, heq⟩ := (extension?_eq_some_iff hname).mp hpath
    exact ⟨stem, ending, hstem, hending, heq⟩
  · rintro ⟨stem, ending, hstem, hending, heq⟩
    have hdot : ∀ ending ∈ ["json", "yml", "yaml"], '.' ∉ ending.toList := by decide
    exact ⟨ending, hending, (extension?_eq_some_iff hname).mpr ⟨hdot ending hending, stem, hstem, heq⟩⟩

theorem fileName?_pathBelow {path name : String} {names : List String} (hpath : path ≠ "")
    (hnames : ∀ other ∈ names ++ [name], PlainName other) :
    fileName? (pathBelow path (names ++ [name])) = some name := by
  rw [fileName?, components_pathBelow hpath hnames, List.map_append, ← List.append_assoc]
  simp

section Folder

variable {path : String} {folder : Node} {entries : Entries Node} {places : List (String × Node)}

/-- Spec files below a folder are told apart by the components of their paths. -/
theorem SpecFileBelow.eq_of_components_eq (hpath : path ≠ "") (hfolder : folder.Named) {first second : String}
    (hfirst : SpecFileBelow path folder first) (hsecond : SpecFileBelow path folder second)
    (h : components first = components second) : first = second := by
  obtain ⟨names, name, _, hat, -, rfl⟩ := hfirst
  obtain ⟨others, other, _, hat', -, rfl⟩ := hsecond
  rw [eq_of_components_pathBelow_eq hpath (hfolder.plainName hat) (hfolder.plainName hat') h]

/-- There is one list of the spec files below a folder. -/
theorem ListsSpecFiles.unique (hpath : path ≠ "") (hfolder : folder.Named) {files others : List String}
    (h : ListsSpecFiles path folder files) (hothers : ListsSpecFiles path folder others) :
    files = others := by
  have hperm : files.Perm others := by
    rw [List.perm_ext_iff_of_nodup h.nodup hothers.nodup]
    intro file
    rw [h.mem_iff, hothers.mem_iff]
  refine eq_of_pairwise_pathKey hperm (fun first hfirst second hsecond heq ↦ ?_) h.sorted hothers.sorted
  have hbelow := (h.mem_iff first).mp hfirst
  exact hbelow.eq_of_components_eq hpath hfolder ((hothers.mem_iff second).mp hsecond) heq

/-- The spec files among the places of a walk, in the order of their paths. -/
def specFiles (places : List (String × Node)) : List String :=
  sortPaths ((Node.filesAmong places).filter fun file ↦ (Format.ofPath? file).isSome)

theorem mem_specFiles_iff (h : Node.IsWalk path (.folder entries) places) (hpath : path ≠ "")
    (hfolder : (Node.folder entries).Named) {file : String} :
    file ∈ specFiles places ↔ SpecFileBelow path (.folder entries) file := by
  rw [specFiles, (sortPaths_perm _).mem_iff, List.mem_filter, Node.mem_filesAmong_iff]
  constructor
  · rintro ⟨⟨content, hplace⟩, hformat⟩
    obtain ⟨names, rfl, hat⟩ := (h.mem_iff _).mp hplace
    rcases List.eq_nil_or_concat names with rfl | ⟨front, name, rfl⟩
    · cases hat
    · rw [List.concat_eq_append] at hat hformat ⊢
      have hname := fileName?_pathBelow hpath (hfolder.plainName hat)
      exact ⟨front, name, content, hat, (isSome_ofPath?_iff_of_fileName? hname).mp hformat, rfl⟩
  · rintro ⟨front, name, content, hat, hspec, rfl⟩
    have hname := fileName?_pathBelow hpath (hfolder.plainName hat)
    exact ⟨⟨content, (h.mem_iff _).mpr ⟨_, rfl, hat⟩⟩, (isSome_ofPath?_iff_of_fileName? hname).mpr hspec⟩

/-- Whatever the order of a walk, its spec files are those of the folder, each once and sorted. -/
theorem listsSpecFiles_specFiles (h : Node.IsWalk path (.folder entries) places) (hpath : path ≠ "")
    (hfolder : (Node.folder entries).Named) :
    ListsSpecFiles path (.folder entries) (specFiles places) := by
  refine ⟨?_, pairwise_sortPaths _, fun _ ↦ mem_specFiles_iff h hpath hfolder⟩
  rw [specFiles, (sortPaths_perm _).nodup_iff]
  exact (h.nodup_filesAmong hpath hfolder).filter _

theorem folderFiles_eq (path : String) (entries : Entries Node) :
    folderFiles path (.folder entries) = specFiles ((Node.folder entries).placesBelow path) := by
  rw [specFiles, Node.filesAmong_placesBelow]
  rfl

theorem listsSpecFiles_folderFiles (hpath : path ≠ "") (hfolder : (Node.folder entries).Named) :
    ListsSpecFiles path (.folder entries) (folderFiles path (.folder entries)) := by
  rw [folderFiles_eq]
  exact listsSpecFiles_specFiles (Node.isWalk_placesBelow hpath hfolder) hpath hfolder

end Folder

/-! ## Files that a path stands for -/

/-- The files that a path stands for: a file for itself, and a folder for the spec files below it, of which
there has to be one. -/
inductive StandsFor (tree : Tree) (path : String) : List String → Prop
  | file {content : ByteArray} (h : tree.find? path = some (.file content)) : StandsFor tree path [path]
  | folder {entries : Entries Node} {files : List String} (h : tree.find? path = some (.folder entries))
      (hfiles : ListsSpecFiles path (.folder entries) files) (hne : files ≠ []) : StandsFor tree path files

/-- A path leads to a file, or to a folder with a spec file below it. -/
def IsSource (tree : Tree) (path : String) : Prop :=
  (∃ content, tree.find? path = some (.file content)) ∨
    ∃ entries file, tree.find? path = some (.folder entries) ∧ SpecFileBelow path (.folder entries) file

/-- The blame for a path that stands for no file: nothing is there, or a folder without spec files. -/
def refusal (tree : Tree) (path : String) : LoadError :=
  match tree.find? path with
  | none => .notFound path
  | some _ => .noDocuments path

section Paths

variable {tree : Tree} {path : String}

theorem pathFiles_of_folder {entries : Entries Node} (h : tree.find? path = some (.folder entries)) :
    pathFiles tree path = if folderFiles path (.folder entries) = [] then .error (.noDocuments path)
      else .ok (folderFiles path (.folder entries)) := by
  rw [pathFiles, h]
  dsimp only
  split
  · next hnil => rw [if_pos hnil]
  · next hne => rw [if_neg hne]

theorem listsSpecFiles_of_find? (htree : tree.root.Named) {entries : Entries Node}
    (h : tree.find? path = some (.folder entries)) :
    ListsSpecFiles path (.folder entries) (folderFiles path (.folder entries)) :=
  listsSpecFiles_folderFiles (Tree.ne_empty_of_find? h) (Tree.named_of_find? htree h)

theorem pathFiles_eq_ok_iff (htree : tree.root.Named) {files : List String} :
    pathFiles tree path = .ok files ↔ StandsFor tree path files := by
  constructor
  · intro hfiles
    cases hfind : tree.find? path with
    | none =>
      rw [pathFiles, hfind] at hfiles
      cases hfiles
    | some node =>
      cases node with
      | file content =>
        rw [pathFiles, hfind] at hfiles
        cases hfiles
        exact .file hfind
      | folder entries =>
        have hlist := listsSpecFiles_of_find? htree hfind
        rw [pathFiles_of_folder hfind] at hfiles
        split_ifs at hfiles with hnil
        cases hfiles
        exact .folder hfind hlist hnil
  · rintro (hfind | ⟨hfind, hlist, hne⟩)
    · rw [pathFiles, hfind]
    · obtain rfl := hlist.unique (Tree.ne_empty_of_find? hfind) (Tree.named_of_find? htree hfind)
        (listsSpecFiles_of_find? htree hfind)
      rw [pathFiles_of_folder hfind, if_neg hne]

theorem isSource_iff (htree : tree.root.Named) : IsSource tree path ↔ ∃ files, StandsFor tree path files := by
  constructor
  · rintro (⟨content, hfind⟩ | ⟨entries, file, hfind, hfile⟩)
    · exact ⟨_, .file hfind⟩
    · have hlist := listsSpecFiles_of_find? htree hfind
      exact ⟨_, .folder hfind hlist (List.ne_nil_of_mem ((hlist.mem_iff file).mpr hfile))⟩
  · rintro ⟨files, hfind | ⟨hfind, hlist, hne⟩⟩
    · exact .inl ⟨_, hfind⟩
    · obtain ⟨file, hfile⟩ := List.exists_mem_of_ne_nil files hne
      exact .inr ⟨_, file, hfind, (hlist.mem_iff file).mp hfile⟩

theorem eq_refusal_of_pathFiles {error : LoadError} (h : pathFiles tree path = .error error) :
    error = refusal tree path := by
  rw [refusal]
  cases hfind : tree.find? path with
  | none =>
    rw [pathFiles, hfind] at h
    cases h
    rfl
  | some node =>
    cases node with
    | file content =>
      rw [pathFiles, hfind] at h
      cases h
    | folder entries =>
      rw [pathFiles_of_folder hfind] at h
      split_ifs at h
      cases h
      rfl

theorem pathFiles_eq_error_iff (htree : tree.root.Named) {error : LoadError} :
    pathFiles tree path = .error error ↔ ¬ IsSource tree path ∧ error = refusal tree path := by
  rw [isSource_iff htree]
  constructor
  · intro h
    refine ⟨?_, eq_refusal_of_pathFiles h⟩
    rintro ⟨files, hfiles⟩
    rw [(pathFiles_eq_ok_iff htree).mpr hfiles] at h
    cases h
  · rintro ⟨hnone, rfl⟩
    cases h : pathFiles tree path with
    | ok files => exact absurd ⟨files, (pathFiles_eq_ok_iff htree).mp h⟩ hnone
    | error error => rw [eq_refusal_of_pathFiles h]

end Paths

/-! ## Collected files -/

/-- The files that a path stands for, where `walk` is how the places below a folder are come to. -/
def pathFilesAlong (walk : String → Node → List (String × Node)) (tree : Tree) (path : String) :
    Except LoadError (List String) :=
  match tree.find? path with
  | some (.file _) => .ok [path]
  | some (.folder entries) =>
    let files := specFiles (walk path (.folder entries))
    if files = [] then .error (.noDocuments path) else .ok files
  | none => .error (.notFound path)

/-- The files that paths stand for one after the other, where `walk` is how the places below a folder are come
to. -/
def collectFilesAlong (walk : String → Node → List (String × Node)) (tree : Tree) (paths : List String) :
    Except LoadError (List String) :=
  List.flatten <$> paths.mapM (pathFilesAlong walk tree)

section Collecting

variable {tree : Tree} {walk : String → Node → List (String × Node)} {paths : List String}

theorem collectFilesAlong_eq (htree : tree.root.Named)
    (hwalk : ∀ path entries, tree.find? path = some (.folder entries) →
      Node.IsWalk path (.folder entries) (walk path (.folder entries))) (paths : List String) :
    collectFilesAlong walk tree paths = collectFiles tree paths := by
  have hpath : pathFilesAlong walk tree = pathFiles tree := by
    funext path
    rw [pathFilesAlong]
    cases hfind : tree.find? path with
    | none => simp only [pathFiles, hfind]
    | some node =>
      cases node with
      | file content => simp only [pathFiles, hfind]
      | folder entries =>
        have hne := Tree.ne_empty_of_find? hfind
        have hfolder := Tree.named_of_find? htree hfind
        have hlist := listsSpecFiles_specFiles (hwalk path entries hfind) hne hfolder
        rw [pathFiles_of_folder hfind, ← hlist.unique hne hfolder (listsSpecFiles_of_find? htree hfind)]
  rw [collectFilesAlong, collectFiles, hpath]

theorem collectFiles_eq_ok_iff (htree : tree.root.Named) {files : List String} :
    collectFiles tree paths = .ok files ↔
      ∃ lists, List.Forall₂ (StandsFor tree) paths lists ∧ files = lists.flatten := by
  rw [collectFiles, map_eq_ok]
  simp only [mapM_eq_ok_iff_forall₂, pathFiles_eq_ok_iff htree, eq_comm (a := files)]

theorem collectFiles_eq_error_iff (htree : tree.root.Named) {error : LoadError} :
    collectFiles tree paths = .error error ↔
      ∃ before path after, paths = before ++ path :: after ∧ (∀ earlier ∈ before, IsSource tree earlier) ∧
        ¬ IsSource tree path ∧ error = refusal tree path := by
  have hnone : ∀ path, failure? (pathFiles tree path) = none ↔ IsSource tree path := by
    intro path
    simp only [failure?_eq_none_iff, isSource_iff htree, pathFiles_eq_ok_iff htree]
  rw [collectFiles, map_eq_error, ← failure?_eq_some_iff, failure?_mapM, List.findSome?_eq_some_iff]
  simp only [failure?_eq_some_iff, pathFiles_eq_error_iff htree, hnone]
  constructor
  · rintro ⟨before, path, after, hpaths, hpath, hbefore⟩
    exact ⟨before, path, after, hpaths, hbefore, hpath⟩
  · rintro ⟨before, path, after, hpaths, hbefore, hpath⟩
    exact ⟨before, path, after, hpaths, hpath, hbefore⟩

theorem collectFiles_fails_iff (htree : tree.root.Named) :
    (∃ error, collectFiles tree paths = .error error) ↔ ∃ path ∈ paths, ¬ IsSource tree path := by
  simp only [collectFiles, ← failure?_eq_some_iff, failure?_map, failure?_mapM]
  rw [← Option.isSome_iff_exists, List.findSome?_isSome_iff]
  refine exists_congr fun path ↦ and_congr_right fun _ ↦ ?_
  rw [Option.isSome_iff_exists]
  simp only [failure?_eq_some_iff, pathFiles_eq_error_iff htree]
  exact ⟨fun ⟨_, hpath, _⟩ ↦ hpath, fun hpath ↦ ⟨_, hpath, rfl⟩⟩

end Collecting

/-- Paths stand for the files that each of them stands for, one after the other: a file for itself as given,
and a folder for every spec file below it, each once and sorted by their paths, whatever the order in which
the places below the folder are come to. Collecting fails exactly if a path stands for nothing, and the first
such path is the one that is blamed. -/
theorem collectFiles_gives_sources {tree : Tree} (htree : tree.root.Named)
    (walk : String → Node → List (String × Node))
    (hwalk : ∀ path entries, tree.find? path = some (.folder entries) →
      Node.IsWalk path (.folder entries) (walk path (.folder entries))) (paths : List String) :
    collectFilesAlong walk tree paths = collectFiles tree paths ∧
    (∀ files, collectFiles tree paths = .ok files ↔
      ∃ lists, List.Forall₂ (StandsFor tree) paths lists ∧ files = lists.flatten) ∧
    ((∃ error, collectFiles tree paths = .error error) ↔ ∃ path ∈ paths, ¬ IsSource tree path) ∧
    ∀ error, collectFiles tree paths = .error error ↔
      ∃ before path after, paths = before ++ path :: after ∧ (∀ earlier ∈ before, IsSource tree earlier) ∧
        ¬ IsSource tree path ∧ error = refusal tree path :=
  ⟨collectFilesAlong_eq htree hwalk paths, fun _ ↦ collectFiles_eq_ok_iff htree,
    collectFiles_fails_iff htree, fun _ ↦ collectFiles_eq_error_iff htree⟩

/-- A folder with spec files at two depths in another order than that of their paths, and with files of other
names between them. -/
def shelfEntries : Entries Node :=
  [("b.yml", .file .empty), ("notes.txt", .file .empty), (".json", .file .empty),
    ("b", .folder [("types.yaml", .file .empty), ("ops.json", .file .empty)])]

/-- A working folder with that folder, with one that has no spec file but a folder with the name of one, and
with a file that has no extension. -/
def shelfTree : Tree where
  root := .folder [("work", .folder [
    ("specs", .folder shelfEntries), ("empty", .folder [("deep.json", .folder [])]), ("main", .file .empty)])]
  here := ["work"]

theorem named_shelfTree : shelfTree.root.Named := by
  simp only [shelfTree, shelfEntries, Node.named_folder_iff, Node.named_file, Entries.keys, List.map_cons, List.map_nil,
    List.forall_mem_cons, List.not_mem_nil, false_implies, implies_true]
  decide +kernel

theorem folderFiles_shelfEntries : folderFiles "specs" (.folder shelfEntries) =
    ["specs/b/ops.json", "specs/b/types.yaml", "specs/b.yml"] :=
  sortPaths_eq_of_perm (by decide +kernel) (by decide +kernel) (by decide +kernel)

theorem collectFiles_shelfTree : collectFiles shelfTree ["specs", "main"] =
    .ok ["specs/b/ops.json", "specs/b/types.yaml", "specs/b.yml", "main"] := by
  have hspecs : pathFiles shelfTree "specs" = .ok ["specs/b/ops.json", "specs/b/types.yaml", "specs/b.yml"] := by
    have hfind : shelfTree.find? "specs" = some (.folder shelfEntries) := rfl
    rw [pathFiles_of_folder hfind, folderFiles_shelfEntries]
    rfl
  have hmain : pathFiles shelfTree "main" = .ok ["main"] := rfl
  rw [collectFiles, List.mapM_cons, hspecs, List.mapM_cons, hmain]
  rfl

theorem collectFiles_gives_sources_shelf :
    (shelfTree.root.Named ∧ ∀ path entries, shelfTree.find? path = some (.folder entries) →
      Node.IsWalk path (.folder entries) ((Node.folder entries).placesBelow path)) ∧
    collectFilesAlong (fun path folder ↦ folder.placesBelow path) shelfTree ["specs", "main"] =
      .ok ["specs/b/ops.json", "specs/b/types.yaml", "specs/b.yml", "main"] ∧
    (∃ lists, List.Forall₂ (StandsFor shelfTree) ["specs", "main"] lists ∧
      ["specs/b/ops.json", "specs/b/types.yaml", "specs/b.yml", "main"] = lists.flatten) ∧
    (∃ path ∈ ["main", "empty", "gone"], ¬ IsSource shelfTree path) ∧
    ∃ before path after, ["main", "empty", "gone"] = before ++ path :: after ∧
      (∀ earlier ∈ before, IsSource shelfTree earlier) ∧ ¬ IsSource shelfTree path ∧
        LoadError.noDocuments "empty" = refusal shelfTree path := by
  have hwalk : ∀ path entries, shelfTree.find? path = some (.folder entries) →
      Node.IsWalk path (.folder entries) ((Node.folder entries).placesBelow path) :=
    fun path entries hfind ↦ Node.isWalk_placesBelow (Tree.ne_empty_of_find? hfind)
      (Tree.named_of_find? named_shelfTree hfind)
  have hbare : collectFiles shelfTree ["main", "empty", "gone"] = .error (.noDocuments "empty") := by
    decide +kernel
  obtain ⟨hsame, hok, -, -⟩ := collectFiles_gives_sources named_shelfTree
    (fun path folder ↦ folder.placesBelow path) hwalk ["specs", "main"]
  obtain ⟨-, -, hfails, herror⟩ := collectFiles_gives_sources named_shelfTree
    (fun path folder ↦ folder.placesBelow path) hwalk ["main", "empty", "gone"]
  exact ⟨⟨named_shelfTree, hwalk⟩, hsame.trans collectFiles_shelfTree, (hok _).mp collectFiles_shelfTree,
    hfails.mp ⟨_, hbare⟩, (herror _).mp hbare⟩

end Spec

end SourceGen
