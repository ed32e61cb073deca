import SourceGen.Proofs.Files.Contents
import SourceGen.Proofs.Text.Joining

/-!
# Looking up written files

A path leads step by step to a place that names from the root tell, as long as every place on the way is a
folder. Writing opens the way to the folder of the file, so a file that was written is found under the path
of that folder and its name.
-/

namespace SourceGen.Files

/-! ## Following a path -/

/-- A name that stands for an entry of a folder: it is not empty and no step, and has no slash. -/
structure PlainName (name : String) : Prop where
  notEmpty : name ≠ ""
  notHere : name ≠ "."
  notUp : name ≠ ".."
  noSlash : '/' ∉ name.toList

namespace PlainName

variable {name : String}

theorem isVoid_toList (h : PlainName name) : isVoid name.toList = false := by
  have hempty : name.toList ≠ [] := fun heq ↦ h.notEmpty (String.toList_inj.mp heq)
  have hhere : name.toList ≠ ['.'] := fun heq ↦ h.notHere (String.toList_inj.mp heq)
  simp [isVoid, hempty, hhere]

theorem toList_beq_up (h : PlainName name) : (name.toList == ['.', '.']) = false :=
  beq_false_of_ne fun heq ↦ h.notUp (String.toList_inj.mp heq)

end PlainName

theorem namesAlong_append_nil (done : List String) (front : List (List Char)) :
    namesAlong done (front ++ [[]]) = namesAlong done front := by
  induction front generalizing done with
  | nil => rfl
  | cons piece rest ih => rw [List.cons_append, namesAlong, namesAlong, ih, ih, ih]

namespace Node

/-- On a walk from the root, the names that led here, the last first, and the folders that were passed. -/
inductive Passed (root : Node) : List String → Node → List Node → Prop
  | root : Passed root [] root []
  | step {done : List String} {outer inner : Node} {open_ : List Node} {name : String}
      (h : Passed root done outer open_) (hinner : outer.child? name = some inner) :
      Passed root (name :: done) inner (outer :: open_)

theorem Passed.at?_reverse {root node : Node} {done : List String} {open_ : List Node}
    (h : Passed root done node open_) : root.at? done.reverse = some node := by
  induction h with
  | root => rfl
  | step _ hinner ih => rw [List.reverse_cons, at?_append, ih, Option.bind_some, at?, hinner]; rfl

theorem isFolder_of_holds {root node : Node} {names : List String} (h : root.at? names = some node)
    (hfolder : root.holds names = .folder) : node.isFolder = true := by
  rw [holds, h] at hfolder
  exact holding_eq_folder_iff.mp hfolder

section Steps

variable {node outer : Node} {open_ : List Node} {piece : List Char}

theorem walk_void (h : node.isFolder = true) (hvoid : isVoid piece = true) (rest : List (List Char)) :
    walk node open_ (piece :: rest) = walk node open_ rest := by
  rw [walk.eq_def]
  simp only [h, hvoid, Bool.not_true, Bool.false_eq_true, if_false, if_true]

theorem walk_up_root (h : node.isFolder = true) (rest : List (List Char)) :
    walk node [] (['.', '.'] :: rest) = walk node [] rest := by
  rw [walk.eq_def]
  simp only [h, Bool.not_true, Bool.false_eq_true, if_false]
  rfl

theorem walk_up (h : node.isFolder = true) (rest : List (List Char)) :
    walk node (outer :: open_) (['.', '.'] :: rest) = walk outer open_ rest := by
  rw [walk.eq_def]
  simp only [h, Bool.not_true, Bool.false_eq_true, if_false]
  rfl

theorem walk_name (h : node.isFolder = true) (hvoid : isVoid piece = false)
    (hup : (piece == ['.', '.']) = false) (rest : List (List Char)) :
    walk node open_ (piece :: rest) =
      (node.child? (String.ofList piece)).bind fun inner ↦ walk inner (node :: open_) rest := by
  rw [walk.eq_def]
  simp only [h, hvoid, hup, Bool.not_true, Bool.false_eq_true, if_false]
  cases node.child? (String.ofList piece) <;> rfl

end Steps

/-- Where every place on the way is a folder, a walk comes to where the names lead. -/
theorem walk_append {root node : Node} {done : List String} {open_ : List Node}
    {pieces : List (List Char)} (h : Passed root done node open_)
    (hopen : ∀ passed, passed <+: pieces → root.holds (namesAlong done passed) = .folder)
    (more : List (List Char)) :
    ∃ inner later, root.at? (namesAlong done pieces) = some inner ∧
      walk node open_ (pieces ++ more) = walk inner later more := by
  induction pieces generalizing node done open_ with
  | nil => exact ⟨node, open_, h.at?_reverse, rfl⟩
  | cons piece rest ih =>
    have hfolder : node.isFolder = true :=
      isFolder_of_holds h.at?_reverse (hopen [] List.nil_prefix)
    have hnext : ∀ passed, passed <+: rest → root.holds (namesAlong done (piece :: passed)) = .folder :=
      fun passed hpassed ↦ hopen _ (List.cons_prefix_cons.mpr ⟨rfl, hpassed⟩)
    rw [List.cons_append]
    simp only [namesAlong] at hnext ⊢
    by_cases hvoid : isVoid piece = true
    · simp only [if_pos hvoid] at hnext ⊢
      rw [walk_void hfolder hvoid]
      exact ih h hnext
    · simp only [if_neg hvoid] at hnext ⊢
      by_cases hup : (piece == ['.', '.']) = true
      · simp only [if_pos hup] at hnext ⊢
        rw [eq_of_beq hup]
        cases h with
        | root =>
          rw [walk_up_root hfolder]
          exact ih .root hnext
        | step houter _ =>
          rw [walk_up hfolder]
          exact ih houter hnext
      · simp only [if_neg hup] at hnext ⊢
        rw [walk_name hfolder (Bool.not_eq_true _ ▸ hvoid) (Bool.not_eq_true _ ▸ hup)]
        have hplace := hnext [] List.nil_prefix
        rw [namesAlong, List.reverse_cons, holds, at?_append, h.at?_reverse, Option.bind_some, at?] at hplace
        cases hchild : node.child? (String.ofList piece) with
        | none => simp [hchild] at hplace
        | some inner => exact ih (.step h hchild) hnext

end Node

/-! ## Paths of files in a folder -/

theorem not_isRooted_of_noSlash {name : String} (h : '/' ∉ name.toList) : isRooted name = false := by
  rw [isRooted]
  cases hname : name.toList with
  | nil => rfl
  | cons c rest =>
    rw [hname, List.mem_cons, not_or] at h
    simpa using Ne.symm h.1

theorem isRooted_append {front : String} (h : front ≠ "") (back : String) :
    isRooted (front ++ back) = isRooted front := by
  rw [isRooted, isRooted, String.toList_append]
  cases hfront : front.toList with
  | nil => exact absurd (String.toList_inj.mp hfront) h
  | cons c rest => rfl

theorem pathPieces_append {path name : String} {front : List Char} (hpath : path.toList = front ++ ['/'])
    (hname : '/' ∉ name.toList) :
    pathPieces (path ++ name) = Text.splitWhere (· == '/') front ++ [name.toList] := by
  rw [pathPieces, String.toList_append, hpath, List.append_assoc, List.singleton_append,
    Text.splitWhere_append rfl, Text.splitWhere_of_not_mem hname]

/-- The pieces of a path in a folder are those of the folder and the name; a slash that ends the path of the
folder makes an empty piece there and none here. -/
theorem exists_pathPieces_joinPath {folder name : String} (hfolder : folder ≠ "")
    (hname : '/' ∉ name.toList) :
    ∃ front, front ≠ [] ∧ pathPieces (joinPath folder name) = front ++ [name.toList] ∧
      (pathPieces folder = front ∨ pathPieces folder = front ++ [[]]) := by
  rw [joinPath, not_isRooted_of_noSlash hname, if_neg Bool.false_ne_true]
  by_cases hslash : folder.toList.getLast? = some '/'
  · obtain ⟨front, hfront⟩ := List.getLast?_eq_some_iff.mp hslash
    rw [if_pos (by simp [hslash]), pathPieces_append hfront hname]
    refine ⟨_, Text.splitWhere_ne_nil _ front, rfl, .inr ?_⟩
    rw [pathPieces, hfront, Text.splitWhere_append rfl]
    rfl
  · have hdivided : (folder ++ "/").toList = folder.toList ++ ['/'] := by
      rw [String.toList_append]
      rfl
    rw [if_neg (by simp [hslash, hfolder]), pathPieces_append hdivided hname]
    exact ⟨_, Text.splitWhere_ne_nil _ folder.toList, rfl, .inl rfl⟩

theorem isRooted_joinPath {folder name : String} (hfolder : folder ≠ "") (hname : '/' ∉ name.toList) :
    isRooted (joinPath folder name) = isRooted folder := by
  rw [joinPath, not_isRooted_of_noSlash hname, if_neg Bool.false_ne_true]
  split
  · exact isRooted_append hfolder name
  · rw [String.append_assoc, isRooted_append hfolder]

namespace Tree

/-- The names from the root to the folder that a path names. -/
def place (tree : Tree) (path : String) : List String :=
  namesAlong [] (tree.piecesTo path)

/-- The names lead to a place that a path passes, or to a folder around it. -/
def OnWay (tree : Tree) (path : String) (names : List String) : Prop :=
  Node.OnWay [] (tree.piecesTo path) names

/-- Every place that a path passes is a folder. -/
def IsOpen (tree : Tree) (path : String) : Prop :=
  ∀ passed, passed <+: tree.piecesTo path → tree.root.holds (namesAlong [] passed) = .folder

theorem piecesTo_eq (tree : Tree) (path : String) : tree.piecesTo path =
    (if isRooted path then [] else tree.here.map String.toList) ++ pathPieces path := by
  rw [piecesTo]
  split <;> rfl

/-- The path of a file in a folder is that of the folder and the name; a slash that ends the path of the
folder makes an empty piece there and none here. -/
theorem exists_piecesTo_joinPath (tree : Tree) (folder : String) {name : String}
    (hname : '/' ∉ name.toList) :
    ∃ front, tree.piecesTo (joinPath folder name) = front ++ [name.toList] ∧
      (tree.piecesTo folder = front ∨ tree.piecesTo folder = front ++ [[]]) := by
  by_cases hempty : folder = ""
  · subst hempty
    refine ⟨tree.here.map String.toList, ?_, .inr rfl⟩
    have hempty : ("".isEmpty || "".toList.getLast? == some '/') = true := by decide
    rw [joinPath, not_isRooted_of_noSlash hname, if_neg Bool.false_ne_true, if_pos hempty,
      String.empty_append, piecesTo_eq, not_isRooted_of_noSlash hname, if_neg Bool.false_ne_true,
      pathPieces, Text.splitWhere_of_not_mem hname]
  · obtain ⟨front, -, hpath, hfolder⟩ := exists_pathPieces_joinPath hempty hname
    rw [piecesTo_eq, piecesTo_eq, isRooted_joinPath hempty hname, hpath, ← List.append_assoc]
    refine ⟨_, rfl, ?_⟩
    rcases hfolder with heq | heq
    · exact .inl (by rw [heq])
    · exact .inr (by rw [heq, List.append_assoc])

/-- A path that passes folders only and ends with a plain name leads to the entry of that name. -/
theorem find?_joinPath {tree : Tree} {folder name : String} (hopen : tree.IsOpen folder)
    (hname : PlainName name) :
    tree.find? (joinPath folder name) = tree.root.at? (tree.place folder ++ [name]) := by
  obtain ⟨front, hpath, hfolder⟩ := tree.exists_piecesTo_joinPath folder hname.noSlash
  have hplace : tree.place folder = namesAlong [] front := by
    rcases hfolder with heq | heq
    · rw [place, heq]
    · rw [place, heq, namesAlong_append_nil]
  have hfront : ∀ passed, passed <+: front → tree.root.holds (namesAlong [] passed) = .folder := by
    intro passed hpassed
    refine hopen passed ?_
    rcases hfolder with heq | heq
    · exact heq ▸ hpassed
    · exact heq ▸ hpassed.trans (List.prefix_append front _)
  obtain ⟨inner, later, hinner, hwalk⟩ := Node.walk_append .root hfront [name.toList]
  have hstands : inner.isFolder = true :=
    Node.isFolder_of_holds hinner (hfront front (List.prefix_refl front))
  have hpresent : (joinPath folder name).isEmpty = false := by
    rw [Bool.eq_false_iff, Ne, String.isEmpty_iff]
    intro hempty
    -- The empty path would have an empty piece where the name is.
    rw [hempty] at hpath
    have hlast := List.append_inj_right' hpath rfl
    exact hname.notEmpty (String.toList_inj.mp (List.singleton_inj.mp hlast).symm)
  rw [find?, hpresent, if_neg Bool.false_ne_true, hpath, hwalk, hplace, Node.at?_append, hinner,
    Option.bind_some, Node.walk_name hstands hname.isVoid_toList hname.toList_beq_up,
    String.ofList_toList]
  rfl

/-! ## Writing -/

/-- What writing a file does: its place holds the file, the way there is open, and nothing else is touched
but for new folders on that way. -/
structure Wrote (tree after : Tree) (path name : String) (content : ByteArray) : Prop where
  here : after.here = tree.here
  notHere : name ≠ "."
  notUp : name ≠ ".."
  isOpen : after.IsOpen path
  file : after.root.holds (tree.place path ++ [name]) = .file content
  frame : ∀ names, names ≠ tree.place path ++ [name] →
    Holding.Grown (tree.OnWay path names) (tree.root.holds names) (after.root.holds names)

theorem place_eq_of_here_eq {tree after : Tree} (h : after.here = tree.here) (path : String) :
    after.place path = tree.place path := by
  rw [place, place, piecesTo, piecesTo, h]

theorem onWay_iff_of_here_eq {tree after : Tree} (h : after.here = tree.here) {path : String}
    {names : List String} : after.OnWay path names ↔ tree.OnWay path names := by
  rw [OnWay, OnWay, piecesTo, piecesTo, h]

theorem wrote_of_writeFile {tree after : Tree} {path name : String} {content : ByteArray}
    (h : tree.writeFile path name content = some after) : tree.Wrote after path name content := by
  obtain ⟨grown, hgrown, h⟩ := Option.bind_eq_some_iff.mp h
  split at h
  · cases h
  · next hdots =>
    obtain ⟨root, hroot, hafter⟩ := Option.bind_eq_some_iff.mp h
    cases hafter
    rw [Bool.or_eq_true, not_or, beq_iff_eq, beq_iff_eq] at hdots
    have hholds : ∀ names, root.holds names =
        if names = tree.place path ++ [name] then .file content else grown.holds names :=
      Node.holds_putFile hroot
    have hstart : tree.root.holds [] = .folder := by
      have hgrows := Node.grown_addFoldersAlong hgrown []
      rw [← hgrows.eq_of_ne_nothing (Node.holding_ne_nothing _)]
      exact Node.holding_eq_folder_iff.mpr (Node.isFolder_of_putFile hroot)
    refine ⟨rfl, hdots.1, hdots.2, fun passed hpassed ↦ ?_, (hholds _).trans (if_pos rfl),
      fun names hnames ↦ ?_⟩
    · have hfolder : grown.holds (namesAlong [] passed) = .folder :=
        Node.holds_addFoldersAlong hgrown hstart hpassed
      have hother : namesAlong [] passed ≠ tree.place path ++ [name] := by
        intro heq
        exact Node.holds_ne_folder_of_putFile hroot (heq ▸ hfolder)
      rw [hholds, if_neg hother, hfolder]
    · rw [hholds, if_neg hnames]
      exact Node.grown_addFoldersAlong hgrown names

/-- Files written one after the other into the folder of a path. -/
inductive WroteAll (path : String) : Tree → Entries ByteArray → Tree → Prop
  | nil (tree : Tree) : WroteAll path tree [] tree
  | cons {tree next after : Tree} {name : String} {content : ByteArray} {rest : Entries ByteArray}
      (h : tree.Wrote next path name content) (hrest : WroteAll path next rest after) :
      WroteAll path tree ((name, content) :: rest) after

namespace WroteAll

variable {tree after : Tree} {path : String} {contents : Entries ByteArray}

theorem here_eq (h : WroteAll path tree contents after) : after.here = tree.here := by
  induction h with
  | nil => rfl
  | cons hfirst _ ih => exact ih.trans hfirst.here

theorem isOpen (h : WroteAll path tree contents after) (hne : contents ≠ []) : after.IsOpen path := by
  induction h with
  | nil => exact absurd rfl hne
  | cons hfirst hrest ih =>
    cases hrest with
    | nil => exact hfirst.isOpen
    | cons => exact ih (List.cons_ne_nil _ _)

theorem not_step (h : WroteAll path tree contents after) {name : String} (hname : name ∈ contents.keys) :
    name ≠ "." ∧ name ≠ ".." := by
  induction h with
  | nil => cases hname
  | cons hfirst _ ih =>
    rcases List.mem_cons.mp hname with rfl | hrest
    · exact ⟨hfirst.notHere, hfirst.notUp⟩
    · exact ih hrest

/-- Only the places of the files are touched, and those on the way there. -/
theorem frame (h : WroteAll path tree contents after) {names : List String}
    (hnames : ∀ name ∈ contents.keys, names ≠ tree.place path ++ [name]) :
    Holding.Grown (tree.OnWay path names) (tree.root.holds names) (after.root.holds names) := by
  induction h with
  | nil => exact .same _
  | cons hfirst _ ih =>
    obtain ⟨hother, hothers⟩ := List.forall_mem_cons.mp hnames
    rw [← place_eq_of_here_eq hfirst.here] at hothers
    have hway : OnWay _ path names ↔ OnWay _ path names := onWay_iff_of_here_eq hfirst.here
    exact (hfirst.frame names hother).trans ((ih hothers).mono hway.mp)

/-- A place to which files were written holds the last of them. -/
theorem holds_last (h : WroteAll path tree contents after) {name : String} {content : ByteArray}
    (hlast : Entries.get? name contents.reverse = some content) :
    after.root.holds (tree.place path ++ [name]) = .file content := by
  induction h with
  | nil => cases hlast
  | @cons tree next after first written rest hfirst hrest ih =>
    rw [List.reverse_cons, Entries.get?_append] at hlast
    have hplace := place_eq_of_here_eq hfirst.here path
    rcases Option.or_eq_some_iff.mp hlast with hlater | ⟨hnone, hhere⟩
    · rw [← hplace]
      exact ih hlater
    · rw [Entries.get?_cons] at hhere
      split at hhere
      · next hname =>
        cases hname
        cases hhere
        have hkept : ∀ other ∈ rest.keys, tree.place path ++ [name] ≠ next.place path ++ [other] := by
          rintro other hother heq
          rw [hplace] at heq
          obtain rfl := List.singleton_inj.mp (List.append_cancel_left heq)
          rw [Entries.get?_eq_none_iff] at hnone
          exact hnone (by simpa [Entries.keys] using hother)
        have hholds := (hrest.frame hkept).eq_of_ne_nothing (by simp [hfirst.file])
        exact hholds.trans hfirst.file
      · cases hhere

end WroteAll

end Tree

end SourceGen.Files
