import SourceGen.Files.Path
import SourceGen.OrderedMap

/-!
# Directory trees

A tree holds the files and folders of a file system, each name once per folder, and is looked at from one
of its folders: a path that does not begin at the root begins there. Looking a path up, listing files and
writing a file are functions on the tree; names that no file system takes are refused.
-/

namespace SourceGen.Files

inductive Node where
  | file (content : ByteArray)
  | folder (entries : List (String × Node))
deriving Inhabited

/-- The names from the root to where pieces lead, those in `done` being passed already, the last first.
A step back cancels the name before it, and behind the root there is the root again. -/
def namesAlong (done : List String) : List (List Char) → List String
  | [] => done.reverse
  | piece :: rest =>
    if isVoid piece then namesAlong done rest
    else if piece == ['.', '.'] then namesAlong done.tail rest
    else namesAlong (String.ofList piece :: done) rest

/-- Names of at most 255 bytes without the zero byte. -/
def isFileName (name : String) : Bool :=
  name.utf8ByteSize ≤ 255 && !name.toList.contains (Char.ofNat 0)

namespace Node

def isFolder : Node → Bool
  | .folder _ => true
  | .file _ => false

def child? (node : Node) (name : String) : Option Node :=
  match node with
  | .folder entries => Entries.get? name entries
  | .file _ => none

/-- What pieces lead to. Every piece but a name wants a folder to stand in, and `open_` are the folders
passed on the way, the nearest first. -/
def walk (node : Node) (open_ : List Node) : List (List Char) → Option Node
  | [] => some node
  | piece :: rest =>
    if !node.isFolder then none
    else if isVoid piece then walk node open_ rest
    else if piece == ['.', '.'] then
      match open_ with
      | [] => walk node [] rest
      | outer :: open_ => walk outer open_ rest
    else
      match node.child? (String.ofList piece) with
      | some inner => walk inner (node :: open_) rest
      | none => none

mutual

/-- The files below a folder with their paths, `path` being the folder's own. -/
def filesBelow (path : String) : Node → List (String × ByteArray)
  | .file _ => []
  | .folder entries => filesOfEntries path entries

def filesOfEntries (path : String) : List (String × Node) → List (String × ByteArray)
  | [] => []
  | (name, .file content) :: rest => (joinPath path name, content) :: filesOfEntries path rest
  | (name, .folder entries) :: rest =>
    filesBelow (joinPath path name) (.folder entries) ++ filesOfEntries path rest

end

/-! ## Writing -/

/-- Adds the folders along the names that are missing; fails where a file stands in the way. -/
def addFolders (node : Node) : List String → Option Node
  | [] => if node.isFolder then some node else none
  | name :: rest =>
    match node with
    | .file _ => none
    | .folder entries =>
      if !isFileName name then none
      else do
        let inner ← addFolders ((node.child? name).getD (.folder [])) rest
        some (.folder (Entries.put name inner entries))

/-- Adds the missing folders on the way along pieces, those too that a step back leaves again; the names
in `done` are passed already, the last first. -/
def addFoldersAlong (node : Node) (done : List String) : List (List Char) → Option Node
  | [] => some node
  | piece :: rest =>
    if isVoid piece then addFoldersAlong node done rest
    else if piece == ['.', '.'] then addFoldersAlong node done.tail rest
    else do
      let done := String.ofList piece :: done
      let node ← node.addFolders done.reverse
      addFoldersAlong node done rest

/-- Puts a file in the folder along the names, which has to be there. -/
def putFile (node : Node) (name : String) (content : ByteArray) : List String → Option Node
  | [] =>
    match node with
    | .file _ => none
    | .folder entries =>
      if (node.child? name).any isFolder || !isFileName name then none
      else some (.folder (Entries.put name (.file content) entries))
  | step :: rest =>
    match node with
    | .file _ => none
    | .folder entries => do
      let inner ← putFile (← node.child? step) name content rest
      some (.folder (Entries.put step inner entries))

/-- Adds paths with their contents, folders on the way included; a path without a content is a folder. -/
def addFiles (node : Node) (entries : List (String × Option ByteArray)) : Node :=
  entries.foldl (fun node (path, content) ↦
    let pieces := (pathPieces path).filter (!isVoid ·) |>.map String.ofList
    let grown := match content with
      | none => node.addFolders pieces
      | some content => do
        let name ← pieces.getLast?
        let node ← node.addFolders pieces.dropLast
        node.putFile name content pieces.dropLast
    grown.getD node) node

end Node

/-- A file system as it is seen from the folder that the names in `here` lead to from its root. -/
structure Tree where
  root : Node
  here : List String
deriving Inhabited

namespace Tree

/-- The pieces that lead from the root to what a path names. -/
def piecesTo (tree : Tree) (path : String) : List (List Char) :=
  if isRooted path then pathPieces path else tree.here.map String.toList ++ pathPieces path

/-- What a path names; the empty path names nothing. -/
def find? (tree : Tree) (path : String) : Option Node :=
  if path.isEmpty then none else tree.root.walk [] (tree.piecesTo path)

/-- The path that names from the root make. -/
def pathOfNames (names : List String) : String :=
  "/" ++ "/".intercalate names

/-- Every file with its path, which begins at the root only where it leads to a place that is not below
`here`. -/
def files (tree : Tree) : List (String × ByteArray) :=
  (tree.root.filesBelow "/").map fun (path, content) ↦
    ((stripFront? path (pathOfNames tree.here)).getD path, content)

/-- The files that are new in `after` or differ from those in `before`. -/
def changed (before after : Tree) : List (String × ByteArray) :=
  let old := before.files
  after.files.filter fun (path, content) ↦
    !old.any fun (path', content') ↦ path == path' && content.data == content'.data

/-- Writes a file with a plain name into the folder that `path` names; the folders on the way are
created. -/
def writeFile (tree : Tree) (path name : String) (content : ByteArray) : Option Tree := do
  let pieces := tree.piecesTo path
  let root ← tree.root.addFoldersAlong [] pieces
  if name == "." || name == ".." then none
  else
    let root ← root.putFile name content (namesAlong [] pieces)
    some { tree with root }

/-- A working folder that holds nothing but the given files, seen from there. -/
def ofFiles (entries : List (String × Option ByteArray)) : Tree where
  root := .folder [("work", (Node.folder []).addFiles entries)]
  here := ["work"]

end Tree

end SourceGen.Files
