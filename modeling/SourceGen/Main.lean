import SourceGen.Command.Perform

/-!
# The command line

Reads what the command may look at into a directory tree, runs the command on it, and carries out what it
says and writes.
-/

open SourceGen

namespace SourceGen.Main

/-- Folders are looked into up to this depth. -/
def deepestFolder : Nat := 64

/-- The file or folder at a path, if there is one. -/
def readNode : Nat → String → IO (Option Files.Node)
  | 0, _ => pure none
  | depth + 1, path => do
    try
      let place ← IO.FS.realPath path
      if ← place.isDir then
        let mut entries := []
        for entry in ← place.readDir do
          if let some inner ← readNode depth entry.path.toString then
            entries := entries ++ [(entry.fileName, inner)]
        pure (some (.folder entries))
      else
        pure (some (.file (← IO.FS.readBinFile place)))
    catch _ => pure none

/-- The paths whose content the command may need. -/
def neededPaths : Command.Request → List String
  | .perform _ (.generate options) => options.specs ++ options.config.toList ++ options.out.toList
  | .perform _ (.validate paths) => paths
  | _ => []

/-- Whether the command reads the standard input. -/
def readsInput : Command.Request → Bool
  | .perform _ (.generate options) => options.specs.isEmpty
  | .perform _ (.validate paths) => paths.isEmpty
  | _ => false

/-- Puts a file, or a folder with all that is in it, into a tree. -/
def addNode (tree : Files.Tree) (place : String) (node : Files.Node) : Files.Tree :=
  let entries := match node with
    | .file content => [(place, some content)]
    | folder => (place, none) :: (folder.filesBelow place).map fun (path, content) ↦ (path, some content)
  { tree with root := tree.root.addFiles entries }

/-- Puts what stands at a path into a tree, and the folders on the way there. -/
def addPath (tree : Files.Tree) (path : String) : IO Files.Tree := do
  let pieces := tree.piecesTo path
  let mut grown := tree
  for length in List.range (pieces.length + 1) do
    let place := Files.Tree.pathOfNames (Files.namesAlong [] (pieces.take length))
    -- Of a folder on the way only the folder itself is needed.
    let depth := if length = pieces.length then deepestFolder else 1
    if let some node ← readNode depth place then
      grown := addNode grown place node
  pure grown

/-- A tree that holds nothing yet, seen from the folder where the command runs. -/
def emptyTree : IO Files.Tree := do
  let path := (← IO.FS.realPath ".").toString
  pure { root := .folder [], here := Files.namesAlong [] (Files.pathPieces path) }

def writeChange (path : String) (content : ByteArray) : IO Unit := do
  let names := path.splitOn "/"
  if 1 < names.length then
    IO.FS.createDirAll ("/".intercalate names.dropLast)
  IO.FS.writeBinFile path content

end SourceGen.Main

def main (args : List String) : IO UInt32 := do
  let request := Command.readArguments args
  let tree ← (Main.neededPaths request).foldlM Main.addPath (← Main.emptyTree)
  let input ← if Main.readsInput request then (← IO.getStdin).readBinToEnd else pure .empty
  let result := Command.perform ⟨tree, input⟩ request
  (← IO.getStdout).putStr result.output
  (← IO.getStderr).putStr result.errors
  for (path, content) in tree.changed result.tree do
    Main.writeChange path content
  pure (UInt32.ofNat result.status)
