/-!
# ASCII letters and case

Content hashes, language codes and keywords are compared without regard to the case of the letters
`A` to `Z`; every other character has to match exactly. `Char.toLower` and `Char.toUpper` touch
ASCII letters only, so they are the right folding here.
-/

namespace MediaShelf.Text

/-- A text with the letters `A` to `Z` made small. -/
def lowerAscii (s : String) : String :=
  String.ofList (s.toList.map Char.toLower)

/-- Equality of characters up to the case of ASCII letters. -/
def sameLetter (a b : Char) : Bool :=
  a.toLower == b.toLower

/-- Equality of texts up to the case of ASCII letters. -/
def sameIgnoringCase (a b : String) : Bool :=
  lowerAscii a == lowerAscii b

/-- The ASCII letters. -/
def isAsciiLetter (c : Char) : Bool :=
  ('a' ≤ c && c ≤ 'z') || ('A' ≤ c && c ≤ 'Z')

/-- The ASCII decimal digits. -/
def isAsciiDigit (c : Char) : Bool :=
  '0' ≤ c && c ≤ '9'

/-- The ASCII letters and digits. -/
def isAsciiAlphanumeric (c : Char) : Bool :=
  isAsciiLetter c || isAsciiDigit c

/-- Reads the word `word` in any ASCII case from the front of a text and gives what follows. -/
def dropWord (word cs : List Char) : Option (List Char) :=
  match word, cs with
  | [], rest => some rest
  | _ :: _, [] => none
  | w :: ws, c :: rest => if sameLetter w c then dropWord ws rest else none

end MediaShelf.Text
