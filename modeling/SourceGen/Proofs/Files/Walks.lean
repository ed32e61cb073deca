import Mathlib.Data.List.Nodup
import SourceGen.Proofs.Files.Components
import SourceGen.Proofs.Files.Lookup

/-!
# Walks through folders

In a tree as file systems have them, the entries of a folder have different plain names, so every place below
a folder has a path of its own. A walk from a folder comes to each of these places once; in what order is left
to it.
-/

namespace SourceGen.Files

instance (name : String) : Decidable (PlainName name) :=
  decidable_of_iff (name ≠ "" ∧ name ≠ "." ∧ name ≠ ".." ∧ '/' ∉ name.toList)
    ⟨fun ⟨hempty, hhere, hup, hslash⟩ ↦ ⟨hempty, hhere, hup, hslash⟩,
      fun h ↦ ⟨h.notEmpty, h.notHere, h.notUp, h.noSlash⟩⟩

/-! ## Paths below a folder -/

/-- The path of the place that names lead to from a folder with a path. -/
def pathBelow (path : String) (names : List String) : String :=
  names.foldl joinPath path

theorem pathBelow_cons (path name : String) (names : List String) :
    pathBelow path (name :: names) = pathBelow (joinPath path name) names := rfl

theorem componentOf_toList {name : String} (h : PlainName name) : componentOf name.toList = .name name := by
  rw [componentOf, h.toList_beq_up, if_neg Bool.false_ne_true, String.ofList_toList]

theorem components_joinPath {path name : String} (hpath : path ≠ "") (hname : PlainName name) :
    components (joinPath path name) = components path ++ [.name name] := by
  obtain ⟨front, hfront, hjoined, hpieces⟩ := exists_pathPieces_joinPath hpath hname.noSlash
  have hcomponents : components path = frontComponents front := by
    rcases hpieces with heq | heq
    · rw [components_eq_frontComponents hpath, heq]
    · rw [components_of_append heq (List.cons_ne_nil _ _) fun hnil ↦ absurd hnil hfront]
      exact List.append_nil _
  rw [components_of_append hjoined (List.cons_ne_nil _ _) fun hnil ↦ absurd hnil hfront, hcomponents,
    namedComponents_cons_of_named hname.isVoid_toList, componentOf_toList hname]
  rfl

theorem joinPath_ne_empty {path name : String} (hpath : path ≠ "") (hname : PlainName name) :
    joinPath path name ≠ "" := by
  intro hempty
  have hcomponents := components_joinPath hpath hname
  rw [hempty] at hcomponents
  exact List.append_ne_nil_of_right_ne_nil _ (List.cons_ne_nil _ _) hcomponents.symm

theorem components_pathBelow {path : String} {names : List String} (hpath : path ≠ "")
    (hnames : ∀ name ∈ names, PlainName name) :
    components (pathBelow path names) = components path ++ names.map .name := by
  induction names generalizing path with
  | nil => exact (List.append_nil _).symm
  | cons name rest ih =>
    obtain ⟨hname, hrest⟩ := List.forall_mem_cons.mp hnames
    rw [pathBelow_cons, ih (joinPath_ne_empty hpath hname) hrest, components_joinPath hpath hname,
      List.append_assoc]
    rfl

/-- Different names lead to paths with different components. -/
theorem eq_of_components_pathBelow_eq {path : String} {names others : List String} (hpath : path ≠ "")
    (hnames : ∀ name ∈ names, PlainName name) (hothers : ∀ name ∈ others, PlainName name)
    (h : components (pathBelow path names) = components (pathBelow path others)) : names = others := by
  rw [components_pathBelow hpath hnames, components_pathBelow hpath hothers,
    List.append_cancel_left_eq] at h
  exact List.map_injective_iff.mpr (fun _ _ ↦ Component.name.inj) h

namespace Node

/-! ## Names of places -/

/-- The entries of every folder have different names that stand for entries. -/
inductive Named : Node → Prop
  | file (content : ByteArray) : Named (.file content)
  | folder {entries : Entries Node} (hnodup : entries.keys.Nodup)
      (hplain : ∀ name ∈ entries.keys, PlainName name) (hinner : ∀ entry ∈ entries, Named entry.2) :
      Named (.folder entries)

theorem named_file (content : ByteArray) : (file content).Named := .file content

theorem named_folder_iff {entries : Entries Node} : (folder entries).Named ↔
    entries.keys.Nodup ∧ (∀ name ∈ entries.keys, PlainName name) ∧ ∀ entry ∈ entries, entry.2.Named := by
  constructor
  · rintro (_ | ⟨hnodup, hplain, hinner⟩)
    exact ⟨hnodup, hplain, hinner⟩
  · rintro ⟨hnodup, hplain, hinner⟩
    exact .folder hnodup hplain hinner

namespace Named

variable {node inner : Node} {names : List String}

theorem child {name : String} (h : node.Named) (hchild : node.child? name = some inner) :
    PlainName name ∧ inner.Named := by
  cases h with
  | file => cases hchild
  | folder hnodup hplain hinner =>
    have hmem := Entries.mem_of_get?_eq_some hchild
    exact ⟨hplain name (List.mem_map_of_mem hmem), hinner _ hmem⟩

theorem plainName (h : node.Named) (hat : node.at? names = some inner) : ∀ name ∈ names, PlainName name := by
  induction names generalizing node with
  | nil => exact List.forall_mem_nil _
  | cons name rest ih =>
    obtain ⟨next, hchild, hrest⟩ := Option.bind_eq_some_iff.mp hat
    obtain ⟨hname, hnext⟩ := h.child hchild
    exact List.forall_mem_cons.mpr ⟨hname, ih hnext hrest⟩

/-- A walk stays among named places. -/
theorem walk {open_ : List Node} {pieces : List (List Char)} (h : node.Named)
    (hopen : ∀ outer ∈ open_, outer.Named) (hwalk : node.walk open_ pieces = some inner) : inner.Named := by
  induction pieces generalizing node open_ with
  | nil =>
    cases hwalk
    exact h
  | cons piece rest ih =>
    rw [Node.walk.eq_def] at hwalk
    dsimp only at hwalk
    split_ifs at hwalk
    · exact ih h hopen hwalk
    · split at hwalk
      · exact ih h (List.forall_mem_nil _) hwalk
      · obtain ⟨houter, hrest⟩ := List.forall_mem_cons.mp hopen
        exact ih houter hrest hwalk
    · split at hwalk
      · next next hchild => exact ih (h.child hchild).2 (List.forall_mem_cons.mpr ⟨h, hopen⟩) hwalk
      · cases hwalk

end Named

/-! ## Walks -/

/-- What a walk from a folder with a path comes to, in whatever order: the folder and every place below it,
each once and with its path. -/
structure IsWalk (path : String) (folder : Node) (places : List (String × Node)) : Prop where
  nodup : places.Nodup
  mem_iff : ∀ place, place ∈ places ↔
    ∃ names, place.1 = pathBelow path names ∧ folder.at? names = some place.2

namespace IsWalk

variable {path : String} {folder : Node} {places : List (String × Node)}

/-- Every place has a path of its own. -/
theorem eq_of_components_eq (h : IsWalk path folder places) (hpath : path ≠ "") (hfolder : folder.Named)
    {first second : String × Node} (hfirst : first ∈ places) (hsecond : second ∈ places)
    (heq : components first.1 = components second.1) : first = second := by
  obtain ⟨names, hnames, hat⟩ := (h.mem_iff first).mp hfirst
  obtain ⟨others, hothers, hat'⟩ := (h.mem_iff second).mp hsecond
  rw [hnames, hothers] at heq
  obtain rfl := eq_of_components_pathBelow_eq hpath (hfolder.plainName hat) (hfolder.plainName hat') heq
  exact Prod.ext (hnames.trans hothers.symm) (Option.some.inj (hat.symm.trans hat'))

end IsWalk

/-! ## The walk from the outside in -/

mutual

/-- A folder or file with its path, and behind a folder the places below it. -/
def placesBelow (path : String) : Node → List (String × Node)
  | .file content => [(path, .file content)]
  | .folder entries => (path, .folder entries) :: placesOfEntries path entries

def placesOfEntries (path : String) : List (String × Node) → List (String × Node)
  | [] => []
  | (name, inner) :: rest => placesBelow (joinPath path name) inner ++ placesOfEntries path rest

end

theorem placesOfEntries_eq_flatMap (path : String) (entries : Entries Node) :
    placesOfEntries path entries =
      entries.flatMap fun entry ↦ entry.2.placesBelow (joinPath path entry.1) := by
  induction entries with
  | nil => rfl
  | cons entry rest ih => rw [placesOfEntries, ih, List.flatMap_cons]

theorem mem_placesBelow_iff {node : Node} (h : node.Named) {path : String} {place : String × Node} :
    place ∈ node.placesBelow path ↔
      ∃ names, place.1 = pathBelow path names ∧ node.at? names = some place.2 := by
  induction h generalizing path with
  | file content =>
    rw [placesBelow, List.mem_singleton]
    constructor
    · rintro rfl
      exact ⟨[], rfl, rfl⟩
    · rintro ⟨names, hpath, hat⟩
      cases names with
      | nil => exact Prod.ext hpath (Option.some.inj hat).symm
      | cons name rest => cases hat
  | @folder entries hnodup _ _ ih =>
    rw [placesBelow, List.mem_cons, placesOfEntries_eq_flatMap, List.mem_flatMap]
    constructor
    · rintro (rfl | ⟨⟨name, inner⟩, hentry, hplace⟩)
      · exact ⟨[], rfl, rfl⟩
      · obtain ⟨names, hpath, hat⟩ := (ih _ hentry).mp hplace
        refine ⟨name :: names, hpath, ?_⟩
        have hchild : (folder entries).child? name = some inner := Entries.get?_eq_some_of_mem hnodup hentry
        rw [at?, hchild, Option.bind_some, hat]
    · rintro ⟨names, hpath, hat⟩
      cases names with
      | nil => exact .inl (Prod.ext hpath (Option.some.inj hat).symm)
      | cons name rest =>
        obtain ⟨inner, hchild, hrest⟩ := Option.bind_eq_some_iff.mp hat
        have hentry := Entries.mem_of_get?_eq_some hchild
        exact .inr ⟨(name, inner), hentry, (ih _ hentry).mpr ⟨rest, hpath, hrest⟩⟩

theorem nodup_placesBelow {node : Node} (h : node.Named) {path : String} (hpath : path ≠ "") :
    (node.placesBelow path).Nodup := by
  induction h generalizing path with
  | file content =>
    rw [placesBelow]
    exact List.nodup_singleton _
  | @folder entries hnodup hplain hinner ih =>
    have hname : ∀ entry ∈ entries, PlainName entry.1 := fun entry hentry ↦
      hplain _ (List.mem_map_of_mem hentry)
    -- The names that lead to a place below an entry begin with the entry's own.
    have hbelow : ∀ entry ∈ entries, ∀ place ∈ entry.2.placesBelow (joinPath path entry.1),
        ∃ names, components place.1 = components path ++ .name entry.1 :: names := by
      intro entry hentry place hplace
      obtain ⟨names, hnames, hat⟩ := (mem_placesBelow_iff (hinner entry hentry)).mp hplace
      have hentered := joinPath_ne_empty hpath (hname entry hentry)
      rw [hnames, components_pathBelow hentered ((hinner entry hentry).plainName hat),
        components_joinPath hpath (hname entry hentry), List.append_assoc]
      exact ⟨_, rfl⟩
    rw [placesBelow, List.nodup_cons, placesOfEntries_eq_flatMap, List.nodup_flatMap]
    refine ⟨fun hmem ↦ ?_, fun entry hentry ↦ ?_, ?_⟩
    · obtain ⟨entry, hentry, hplace⟩ := List.mem_flatMap.mp hmem
      obtain ⟨names, hnames⟩ := hbelow entry hentry _ hplace
      exact List.cons_ne_nil _ _ (List.self_eq_append_right.mp hnames)
    · exact ih entry hentry (joinPath_ne_empty hpath (hname entry hentry))
    · have hkeys : entries.Pairwise fun first second ↦ first.1 ≠ second.1 := List.pairwise_map.mp hnodup
      refine hkeys.imp_of_mem fun hfirst hsecond hne place hplace hplace' ↦ hne ?_
      obtain ⟨names, hnames⟩ := hbelow _ hfirst place hplace
      obtain ⟨others, hothers⟩ := hbelow _ hsecond place hplace'
      rw [hnames, List.append_cancel_left_eq] at hothers
      exact Component.name.inj (List.cons.inj hothers).1

theorem isWalk_placesBelow {folder : Node} {path : String} (hpath : path ≠ "") (hfolder : folder.Named) :
    IsWalk path folder (folder.placesBelow path) :=
  ⟨nodup_placesBelow hfolder hpath, fun _ ↦ mem_placesBelow_iff hfolder⟩

/-! ## Files on a walk -/

/-- The paths of the files among the places of a walk. -/
def filesAmong (places : List (String × Node)) : List String :=
  (places.filter fun place ↦ !place.2.isFolder).map Prod.fst

theorem filesAmong_append (front back : List (String × Node)) :
    filesAmong (front ++ back) = filesAmong front ++ filesAmong back := by
  rw [filesAmong, List.filter_append, List.map_append]
  rfl

theorem filesAmong_placesOfEntries (path : String) : ∀ entries : Entries Node,
    filesAmong (placesOfEntries path entries) = (filesOfEntries path entries).map Prod.fst
  | [] => rfl
  | (name, .file content) :: rest => by
    rw [placesOfEntries, placesBelow, filesAmong_append, filesAmong_placesOfEntries path rest,
      filesOfEntries, List.map_cons]
    rfl
  | (name, .folder entries) :: rest => by
    have hinner : filesAmong ((folder entries).placesBelow (joinPath path name)) =
        filesAmong (placesOfEntries (joinPath path name) entries) := by
      rw [placesBelow]
      rfl
    rw [placesOfEntries, filesAmong_append, hinner, filesAmong_placesOfEntries path rest,
      filesAmong_placesOfEntries (joinPath path name) entries, filesOfEntries, filesBelow, List.map_append]

/-- The files below a folder are those that the walk from the outside in comes to. -/
theorem filesAmong_placesBelow (path : String) (entries : Entries Node) :
    filesAmong ((folder entries).placesBelow path) = ((folder entries).filesBelow path).map Prod.fst := by
  rw [placesBelow, filesBelow, ← filesAmong_placesOfEntries]
  rfl

theorem mem_filesAmong_iff {places : List (String × Node)} {file : String} :
    file ∈ filesAmong places ↔ ∃ content, (file, .file content) ∈ places := by
  rw [filesAmong, List.mem_map]
  constructor
  · rintro ⟨⟨_, node⟩, hmem, rfl⟩
    obtain ⟨hplace, hfile⟩ := List.mem_filter.mp hmem
    cases node with
    | file content => exact ⟨content, hplace⟩
    | folder entries => cases hfile
  · rintro ⟨content, hplace⟩
    exact ⟨(file, .file content), List.mem_filter.mpr ⟨hplace, rfl⟩, rfl⟩

/-- No file is come to twice. -/
theorem IsWalk.nodup_filesAmong {path : String} {folder : Node} {places : List (String × Node)}
    (h : IsWalk path folder places) (hpath : path ≠ "") (hfolder : folder.Named) :
    (filesAmong places).Nodup := by
  refine List.Nodup.map_on (fun first hfirst second hsecond heq ↦ ?_) (h.nodup.filter _)
  exact h.eq_of_components_eq hpath hfolder (List.mem_of_mem_filter hfirst) (List.mem_of_mem_filter hsecond)
    (congrArg components heq)

end Node

namespace Tree

variable {tree : Tree} {path : String} {node : Node}

theorem ne_empty_of_find? (h : tree.find? path = some node) : path ≠ "" := by
  rintro rfl
  cases h

theorem named_of_find? (htree : tree.root.Named) (h : tree.find? path = some node) : node.Named := by
  rw [find?] at h
  split at h
  · cases h
  · exact htree.walk (List.forall_mem_nil _) h

end Tree

end SourceGen.Files
