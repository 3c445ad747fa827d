/-!
# Paths

A path is kept as it was written, because that is how it is shown. What it means is the list of its
components: repeated separators, trailing separators and inner `.` say nothing, so `/a//b/`,
`/a/./b` and `/a/b` are one place. A leading `.` is a component, and `..` is never resolved: only a
filesystem knows what is above a directory.

Everything here starts from the pieces between the separators. The first piece tells whether the
path is absolute (it is then empty); of the others, the empty ones and `.` are insignificant.
-/

namespace MediaShelf

/-- A path with the separator `/`. -/
structure Path where
  /-- The path as written. -/
  text : String
deriving DecidableEq, Inhabited

namespace Path

/-- One step of a path. -/
inductive Component where
  /-- The root of an absolute path. -/
  | root
  /-- The `.` that a relative path may start with. -/
  | here
  /-- A step to the directory above. -/
  | up
  /-- A step to the entry of this name. -/
  | entry (name : List Char)
deriving DecidableEq

/-- The pieces of a text between its separators: one more than there are separators. -/
def pieces : List Char → List (List Char)
  | [] => [[]]
  | c :: rest =>
    if c = '/' then [] :: pieces rest
    else
      match pieces rest with
      | [] => [[c]]
      | piece :: others => (c :: piece) :: others

/-- The text with the given pieces. -/
def joinPieces : List (List Char) → List Char
  | [] => []
  | [piece] => piece
  | piece :: rest => piece ++ '/' :: joinPieces rest

/-- Whether a piece behind the first one takes a step. -/
def isStep (piece : List Char) : Bool :=
  !piece.isEmpty && piece != ['.']

/-- The component that a piece stands for. -/
def componentOf (piece : List Char) : Component :=
  if piece = ['.', '.'] then .up else .entry piece

/-- The components that the first piece stands for, given whether others follow it. -/
def firstComponents (piece : List Char) (alone : Bool) : List Component :=
  if piece.isEmpty then (if alone then [] else [.root])
  else if piece = ['.'] then [.here]
  else [componentOf piece]

/-- The components of a text. -/
def componentsOf (text : List Char) : List Component :=
  match pieces text with
  | [] => []
  | first :: others =>
    firstComponents first others.isEmpty ++ (others.filter isStep).map componentOf

/-- The components of a path, from the outside in. -/
def components (path : Path) : List Component :=
  componentsOf path.text.toList

/-- Whether two paths are one place: they have the same components. -/
def sameAs (a b : Path) : Bool :=
  a.components == b.components

/-- Whether a path is a place or lies inside it: its components start with those of the place. -/
def isWithin (path place : Path) : Bool :=
  place.components.isPrefixOf path.components

/-- Whether a path starts at the root. -/
def isAbsolute (path : Path) : Bool :=
  path.text.toList.head? == some '/'

/-- A path read from another one. An absolute path stands by itself; any other is put behind a
separator, which is added unless the first path is empty or ends with one. -/
def join (base path : Path) : Path :=
  if path.isAbsolute then path
  else if base.text.isEmpty || base.text.toList.getLast? == some '/' then
    ⟨base.text ++ path.text⟩
  else ⟨base.text ++ "/" ++ path.text⟩

/-- The pieces up to the last one that takes a step. -/
def upToLastStep (others : List (List Char)) : List (List Char) :=
  (others.reverse.dropWhile fun piece => !isStep piece).reverse

/-- The text of the directory that holds a place, as written up to there. -/
def parentText (text : List Char) : Option (List Char) :=
  match pieces text with
  | [] => none
  | first :: others =>
    match (upToLastStep others).reverse with
    | _ :: front =>
      let kept := upToLastStep front.reverse
      if first.isEmpty && kept.isEmpty then some ['/'] else some (joinPieces (first :: kept))
    | [] => if first.isEmpty then none else some []

/-- The directory that holds a place. The root and the empty path have none. -/
def parent? (path : Path) : Option Path :=
  (parentText path.text.toList).map fun text => ⟨String.ofList text⟩

/-- The name of the entry that a path ends at. A path that ends with `..`, the root and `.` have
none. -/
def nameChars? (path : Path) : Option (List Char) :=
  match path.components.getLast? with
  | some (.entry name) => some name
  | _ => none

/-- Splits a name at its last dot into what stands before it and behind it. -/
def splitAtLastDot (name : List Char) : Option (List Char × List Char) :=
  match name.reverse.span (· != '.') with
  | (_, []) => none
  | (extension, _ :: stem) => some (stem.reverse, extension.reverse)

/-- The stem and the extension of a name. The dot in front of a hidden name separates nothing. -/
def splitName (name : List Char) : List Char × Option (List Char) :=
  match splitAtLastDot name with
  | some (stem, extension) => if stem.isEmpty then (name, none) else (stem, some extension)
  | none => (name, none)

/-- The name at the end of a path without its extension. -/
def stem? (path : Path) : Option String :=
  path.nameChars?.map fun name => String.ofList (splitName name).1

/-- The extension of the name at the end of a path, without the dot; it may be empty. -/
def extension? (path : Path) : Option String :=
  path.nameChars?.bind fun name => (splitName name).2.map String.ofList

end Path

end MediaShelf
