import SourceGen.Text.Pieces

/-!
# Paths

Paths are texts that name a place through components between slashes. Repeated slashes and inner dots
name nothing, so paths are compared and ordered by their components; what remains of a path after a
front part is taken off keeps its text.
-/

namespace SourceGen.Files

inductive Component where
  | root
  | here
  | up
  | name (text : String)
deriving DecidableEq, Repr

/-- The texts between the slashes. -/
def pathPieces (path : String) : List (List Char) :=
  Text.splitWhere (· == '/') path.toList

def isRooted (path : String) : Bool :=
  path.toList.head? == some '/'

/-- Whether a piece names nothing. -/
def isVoid (piece : List Char) : Bool :=
  piece == [] || piece == ['.']

def componentOf (piece : List Char) : Component :=
  if piece == ['.', '.'] then .up else .name (String.ofList piece)

/-- The component that only the front of a path can hold, and the pieces behind it. -/
def pathFront (path : String) : List Component × List (List Char) :=
  match pathPieces path with
  | ['.'] :: rest => ([.here], rest)
  | pieces => if isRooted path then ([.root], pieces.tail) else ([], pieces)

def components (path : String) : List Component :=
  let (front, pieces) := pathFront path
  front ++ (pieces.filter (!isVoid ·)).map componentOf

/-- The order of paths; a root comes before a dot, a dot before two dots, those before names. -/
def Component.rank : Component → Nat
  | .root => 0
  | .here => 1
  | .up => 2
  | .name _ => 3

def Component.le (a b : Component) : Bool :=
  match a, b with
  | .name s, .name t => s ≤ t
  | a, b => a.rank ≤ b.rank

def pathLe : List Component → List Component → Bool
  | [], _ => true
  | _ :: _, [] => false
  | a :: as, b :: bs => if a = b then pathLe as bs else a.le b

def dropVoidEnds (pieces : List (List Char)) : List (List Char) :=
  ((pieces.dropWhile isVoid).reverse.dropWhile isVoid).reverse

/-- Drops pieces until `count` of them have named something. -/
def dropNamed : Nat → List (List Char) → List (List Char)
  | 0, pieces => pieces
  | _ + 1, [] => []
  | count + 1, piece :: rest =>
    if isVoid piece then dropNamed (count + 1) rest else dropNamed count rest

/-- What follows the components of `front` in `path`; `none` if `path` begins otherwise. -/
def stripFront? (path front : String) : Option String :=
  let taken := components front
  if taken.isPrefixOf (components path) then
    let (first, pieces) := pathFront path
    let rest := dropNamed (taken.length - first.length) pieces
    some (String.ofList (['/'].intercalate (dropVoidEnds rest)))
  else none

/-- The last component if it is a name. -/
def fileName? (path : String) : Option String :=
  match (components path).getLast? with
  | some (.name text) => some text
  | _ => none

/-- What follows the last dot of the file name, unless that dot is its first character or only dot
there is none. -/
def extension? (path : String) : Option String := do
  let name ← fileName? path
  let cs := name.toList.reverse
  let after := cs.takeWhile (· != '.')
  let before := (cs.dropWhile (· != '.')).tail
  if before.isEmpty then none else some (String.ofList after.reverse)

def joinPath (folder name : String) : String :=
  if isRooted name then name
  else if folder.isEmpty || folder.toList.getLast? == some '/' then folder ++ name
  else folder ++ "/" ++ name

end SourceGen.Files
