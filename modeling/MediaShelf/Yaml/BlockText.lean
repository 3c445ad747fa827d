import MediaShelf.Text.Numeral
import MediaShelf.Yaml.Place

/-!
# Texts of whole rows in YAML

A text behind `|` or `>` consists of the rows below, as far as they are indented. Behind `|` the
rows stay rows; behind `>` they are put together with blanks between them, except for rows that
start with a blank. The first row tells how far the text is indented, unless a digit behind the mark
does. Of the row ends behind the text one is kept; with `-` none is, and with `+` all are.
-/

namespace MediaShelf.Yaml

/-- What becomes of the row ends behind a text. -/
inductive Chomping where
  /-- One is kept. -/
  | clip
  /-- None is kept. -/
  | strip
  /-- All are kept. -/
  | keep
deriving DecidableEq, Repr

/-- What stands behind the mark of a text. -/
structure BlockHeader where
  /-- What becomes of the row ends behind the text. -/
  chomping : Chomping
  /-- How much further the text is indented than what is around it. -/
  indentation : Option Nat
deriving DecidableEq, Repr

namespace BlockHeader

/-- Reads a sign for what becomes of row ends, if there is one. -/
def readChomping : List Place → Option Chomping × List Place
  | place :: rest =>
    if place.char = '+' then (some .keep, rest)
    else if place.char = '-' then (some .strip, rest)
    else (none, place :: rest)
  | [] => (none, [])

/-- Reads the digit for the indentation, if there is one. A text cannot be indented by nothing. -/
def readIndentation : List Place → Option (Option Nat × List Place)
  | place :: rest =>
    if place.char = '0' then none
    else if Text.isAsciiDigit place.char then some (some (Text.digitValue place.char), rest)
    else some (none, place :: rest)
  | [] => some (none, [])

/-- Reads what stands behind the mark of a text up to the end of the row. The sign and the digit
come in any order. -/
def read (places : List Place) : Option (BlockHeader × List Place) := do
  let (sign, rest) := readChomping places
  let (indentation, rest) ← readIndentation rest
  let (sign, rest) := if sign.isSome then (sign, rest) else readChomping rest
  return (⟨sign.getD .clip, indentation⟩, ← behindRow? rest)

end BlockHeader

/-- The row ends between two rows of a text. -/
structure RowGap where
  /-- The end of the row in front, if there is one. -/
  first : Option Char := none
  /-- The ends of the rows between them, which are empty. -/
  others : List Char := []
  /-- Whether the row in front starts with a blank. -/
  isBehindBlank : Bool := false
deriving DecidableEq

namespace RowGap

/-- All row ends. -/
def all (gap : RowGap) : List Char :=
  gap.first.toList ++ gap.others

/-- What is between two rows that are put together. -/
def folded (gap : RowGap) : List Char :=
  if gap.others.isEmpty then [' '] else gap.others

/-- What is between two rows, where the second one may start with a blank. -/
def text (isFolded isBeforeBlank : Bool) (gap : RowGap) : List Char :=
  if isFolded && gap.first == some '\n' && !gap.isBehindBlank && !isBeforeBlank then gap.folded
  else gap.all

/-- What is kept behind the last row. -/
def chomped (gap : RowGap) : Chomping → List Char
  | .clip => gap.first.toList
  | .strip => []
  | .keep => gap.all

end RowGap

/-- What has been passed over in front of a row with something in it. -/
structure EmptyRows where
  breaks : List Char
  /-- The greatest column that blanks lead to. -/
  column : Nat
  rest : List Place

/-- Passes over empty rows and over the indentation behind them. A tab cannot be part of it. If the
indentation is not known, all blanks are part of it. -/
def skipEmptyRows (indentation : Option Nat) (column : Nat) : List Place → Option EmptyRows
  | [] => some ⟨[], column, []⟩
  | place :: rest =>
    let isInside := indentation.all (place.column < ·)
    if isInside && place.char == ' ' then skipEmptyRows indentation column rest
    else if isInside && place.char == '\t' then none
    else if place.endsRow then
      (skipEmptyRows indentation (max column place.column) rest).map fun rows =>
        { rows with breaks := place.char :: rows.breaks }
    else some ⟨[], max column place.column, place :: rest⟩

/-- Reads the rows of a text, given the gap in front of what follows, and gives the gap behind the
last one. -/
def readRows (isFolded : Bool) (indentation : Nat) :
    Nat → RowGap → List Place → Option (List Char × RowGap × List Place)
  | 0, _, _ => none
  | _, gap, [] => some ([], gap, [])
  | budget + 1, gap, place :: rest =>
    if place.column ≠ indentation then some ([], gap, place :: rest)
    else do
      let row := (place :: rest).takeWhile (!·.endsRow)
      let behind := (place :: rest).dropWhile (!·.endsRow)
      let rows ← skipEmptyRows (some indentation) 0 (behind.drop 1)
      let next : RowGap := ⟨behind.head?.map (·.char), rows.breaks, place.isSpace⟩
      let (text, last, rest) ← readRows isFolded indentation budget next rows.rest
      return (gap.text isFolded place.isSpace ++ row.map (·.char) ++ text, last, rest)

/-- Reads a text of whole rows behind its mark. It is indented further than the column of the block
around it, if there is one. -/
def readBlockText (isFolded : Bool) (block : Option Nat) (places : List Place) :
    Option (List Char × List Place) := do
  let (header, rest) ← BlockHeader.read places
  let known := header.indentation.map (block.getD 0 + ·)
  let rows ← skipEmptyRows known 0 rest
  let indentation := known.getD (max rows.column (max 1 ((block.map (· + 1)).getD 0)))
  let (text, last, rest) ←
    readRows isFolded indentation (places.length + 1) { others := rows.breaks } rows.rest
  return (text ++ last.chomped header.chomping, rest)

end MediaShelf.Yaml
