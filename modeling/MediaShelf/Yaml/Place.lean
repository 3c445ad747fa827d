import MediaShelf.Text.Ascii

/-!
# Places in a YAML document

The layout of a YAML document has a meaning, so a reader has to know where it stands. A document is
turned into a list of places, each a character with its row and its column, once and for all.

A row ends with a line feed, a carriage return, both, or a next-line character, all of which are
taken for a line feed, or with one of the two separators of Unicode, which stay what they are. A
byte order mark at the start of a row is passed over, but takes up a column.
-/

namespace MediaShelf.Yaml

/-- A character with its place in a document. -/
structure Place where
  char : Char
  /-- How many rows are above it. -/
  row : Nat
  /-- How many characters are in front of it in its row. -/
  column : Nat
deriving DecidableEq, Repr

/-- Whether a character may stand in a document. -/
def isAllowed (c : Char) : Bool :=
  let n := c.toNat
  n == 0x09 || n == 0x0A || n == 0x0D || (0x20 ≤ n && n ≤ 0x7E) || n == 0x85
    || (0xA0 ≤ n && n != 0xFFFE && n != 0xFFFF)

/-- A text in which most of what ends a row is a line feed. -/
def withLineFeeds : List Char → List Char
  | '\r' :: '\n' :: rest => '\n' :: withLineFeeds rest
  | '\r' :: rest => '\n' :: withLineFeeds rest
  | '\u0085' :: rest => '\n' :: withLineFeeds rest
  | c :: rest => c :: withLineFeeds rest
  | [] => []

/-- Whether a character ends a row. -/
def endsRow (c : Char) : Bool :=
  c == '\n' || c == '\u2028' || c == '\u2029'

/-- The places of a text that starts at a row and a column. -/
def placesFrom (row column : Nat) : List Char → List Place
  | [] => []
  | c :: rest =>
    ⟨c, row, column⟩ :: if endsRow c then placesFrom (row + 1) 0 rest
      else placesFrom row (column + 1) rest

/-- The places of a document, if all of its characters may stand in one. -/
def places? (text : List Char) : Option (List Place) :=
  if text.all isAllowed then some (placesFrom 0 0 (withLineFeeds text)) else none

namespace Place

/-- Whether a row ends at a place. -/
def endsRow (place : Place) : Bool :=
  Yaml.endsRow place.char

/-- Whether there is a blank at a place. -/
def isSpace (place : Place) : Bool :=
  place.char == ' ' || place.char == '\t'

/-- Whether a word ends in front of a place. -/
def endsWord (place : Place) : Bool :=
  place.isSpace || place.endsRow

end Place

/-- Whether a word ends here: the document does, or a row, or a blank follows. -/
def atWordEnd : List Place → Bool
  | [] => true
  | place :: _ => place.endsWord

/-- What is behind the end of a row, if nothing but blanks and a comment is in front of it. -/
def behindRow? (places : List Place) : Option (List Place) :=
  match places.dropWhile (·.isSpace) with
  | [] => some []
  | place :: rest =>
    if place.char == '#' then some ((rest.dropWhile (!·.endsRow)).drop 1)
    else if place.endsRow then some rest
    else none

/-- Whether a character may be part of a name. -/
def isNameChar (c : Char) : Bool :=
  Text.isAsciiAlphanumeric c || c == '_' || c == '-'

/-- Reads a name, which may be empty, and gives what follows it. -/
def readName (places : List Place) : List Char × List Place :=
  ((places.takeWhile (isNameChar ·.char)).map (·.char), places.dropWhile (isNameChar ·.char))

/-- Whether three marks and then the end of a word follow. -/
def startsMarks (mark : Char) : List Place → Bool
  | a :: b :: c :: rest =>
    a.char == mark && b.char == mark && c.char == mark && atWordEnd rest
  | _ => false

/-- Whether a row starts here that tells a document from the next one. -/
def atDocumentMark (places : List Place) : Bool :=
  places.head?.any (·.column == 0) && (startsMarks '-' places || startsMarks '.' places)

end MediaShelf.Yaml
