import MediaShelf.Storage.Session

/-!
# Directory trees

A directory tree in memory, on which sessions can be held. It has a root, directories and files, and
one volume. A path is followed piece by piece, from the root if it is absolute and from the working
directory otherwise: a step down needs an entry of that name in a directory, `..` leads up, and the
root is above itself. Nothing leads through a file, not even a separator at the end.

Something that is not there is told apart from a path that cannot be followed at all, because it
leads through a file, or because it or one of its names is too long, or holds a null character.

Where a path leads to nothing, a directory or a file can be added, together with the directories
above it; these are the ones that the path names, also if it leads up again behind one of them.
-/

namespace MediaShelf

/-- What an entry of a tree is. -/
inductive TreeNode where
  | directory
  /-- A file with its content. -/
  | file (content : FileContent)
deriving DecidableEq

/-- A directory tree. An entry is listed by the names on the way to it from the root. -/
structure Tree where
  /-- The entries, without the root. -/
  entries : List (List (List Char) × TreeNode) := []
  /-- The directory that relative paths start from. -/
  workingDirectory : List (List Char) := []
  /-- The free bytes of the volume. -/
  free : UInt64 := 18446744073709551615

namespace Tree

/-- Where a path leads. -/
inductive Place where
  | at (names : List (List Char)) (node : TreeNode)
  | nowhere
  /-- The path cannot be followed. -/
  | blocked

/-- The greatest number of bytes in a name. -/
def nameLimit : Nat := 255

/-- The number of bytes from which on a path is too long. -/
def pathLimit : Nat := 4096

/-- The entry at the end of some names. -/
def node? (tree : Tree) (names : List (List Char)) : Option TreeNode :=
  if names.isEmpty then some .directory else tree.entries.lookup names

/-- Where some names lead. -/
def arrive (tree : Tree) (names : List (List Char)) : Place :=
  match tree.node? names with
  | some node => .at names node
  | none => .nowhere

/-- Takes the step of one piece of a path. -/
def step (tree : Tree) (place : Place) (piece : List Char) : Place :=
  match place with
  | .at names .directory =>
    if piece.isEmpty || piece == ['.'] then .at names .directory
    else if piece == ['.', '.'] then tree.arrive names.dropLast
    else if nameLimit < (String.ofList piece).utf8ByteSize then .blocked
    else tree.arrive (names ++ [piece])
  | .at _ (.file _) => .blocked
  | .nowhere => .nowhere
  | .blocked => .blocked

/-- Follows the pieces of a path. An empty piece at the start is the root. -/
def followPieces (tree : Tree) : List (List Char) → Place
  | [] :: rest => rest.foldl tree.step (.at [] .directory)
  | pieces => pieces.foldl tree.step (tree.arrive tree.workingDirectory)

/-- Follows a path. -/
def follow (tree : Tree) (path : Path) : Place :=
  if path.text.toList.contains '\x00' then .blocked
  else if path.text.isEmpty then .nowhere
  else if pathLimit ≤ path.text.utf8ByteSize then .blocked
  else tree.followPieces (Path.pieces path.text.toList)

/-- Adds an entry. -/
def addEntry (tree : Tree) (names : List (List Char)) (node : TreeNode) : Tree :=
  { tree with entries := (names, node) :: tree.entries }

/-- The names of a new entry at the end of some pieces, if there is a directory for it. Nothing new
is called `.` or `..`. -/
def newNames? (tree : Tree) (pieces : List (List Char)) : Option (List (List Char)) := do
  let name ← pieces.getLast?
  match tree.followPieces pieces.dropLast with
  | .at names .directory =>
    if Path.isStep name && name != ['.', '.'] then some (names ++ [name]) else none
  | _ => none

/-- The pieces of a path without the empty ones at its end. -/
def piecesOf (path : Path) : List (List Char) :=
  ((Path.pieces path.text.toList).reverse.dropWhile (·.isEmpty)).reverse

/-- Adds a directory where a path leads to nothing, in one that is there. -/
def makeDirectory? (tree : Tree) (path : Path) : Option Tree :=
  match tree.follow path with
  | .at _ .directory => some tree
  | .nowhere => (tree.newNames? (piecesOf path)).map fun names => tree.addEntry names .directory
  | _ => none

/-- Adds a directory and those above it that are missing, of which there are less than a number. -/
def makeDirectories? (tree : Tree) : Nat → Path → Option Tree
  | 0, _ => none
  | count + 1, path =>
    match tree.follow path, path.parent? with
    | .at _ .directory, _ => some tree
    | _, some parent =>
      if path.text.isEmpty then some tree
      else (tree.makeDirectories? count parent).bind (·.makeDirectory? path)
    | _, none => if path.text.isEmpty then some tree else none

/-- Adds a directory and those above it that are missing. -/
def addDirectory? (tree : Tree) (path : Path) : Option Tree :=
  tree.makeDirectories? (path.text.length + 1) path

/-- Adds a file, or gives it a new content, and adds the directories above it that are missing. -/
def addFile? (tree : Tree) (path : Path) (content : FileContent) : Option Tree := do
  let tree ← tree.addDirectory? (← path.parent?)
  match tree.follow path with
  | .at names (.file _) => return tree.addEntry names (.file content)
  | .nowhere =>
    return tree.addEntry (← tree.newNames? (Path.pieces path.text.toList)) (.file content)
  | _ => none

/-- What a path holds. -/
def content (tree : Tree) (path : Path) : FileContent :=
  match tree.follow path with
  | .at _ (.file content) => content
  | _ => .absent

/-- Whether a path is a directory; it is none if there is nothing. -/
def isDir (tree : Tree) (path : Path) : Reply Bool :=
  match tree.follow path with
  | .at _ .directory => .answers true
  | .at _ (.file _) => .answers false
  | .nowhere => .answers false
  | .blocked => .fails path

/-- Goes on if a path leads to an entry; otherwise the query fails. -/
def withEntry {α : Type} (tree : Tree) (path : Path) (reply : Reply α) : Reply α :=
  match tree.follow path with
  | .at _ _ => reply
  | .nowhere => .fails path
  | .blocked => .fails path

/-- The filesystem of a tree. -/
def filesystem (tree : Tree) : Filesystem where
  isDir := tree.isDir
  freeBytes path := tree.withEntry path (.answers tree.free)
  sameVolume a b := tree.withEntry a (tree.withEntry b (.answers true))

/-- Holds a session with a tree. -/
def hold {α : Type} (tree : Tree) (session : Session α) : α :=
  session.run tree.content tree.filesystem

end Tree

end MediaShelf
