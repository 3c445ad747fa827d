/-!
# White space and control characters

Scripts, titles and settings are trimmed and separated by white space in the sense of the Unicode
property `White_Space`, which is wider than the six ASCII blanks: a no-break space or an
ideographic space separates words too. The twenty-five characters are listed here once, and every
other module asks `isBlankChar`.

Control characters are the general category `Cc`. They overlap with white space (a tab is both)
but neither class contains the other.
-/

namespace MediaShelf.Text

/-- The characters with the Unicode property `White_Space`. -/
def isBlankChar (c : Char) : Bool :=
  let n := c.toNat
  (9 ≤ n && n ≤ 13) || n == 0x20 || n == 0x85 || n == 0xA0 || n == 0x1680
    || (0x2000 ≤ n && n ≤ 0x200A) || n == 0x2028 || n == 0x2029 || n == 0x202F || n == 0x205F
    || n == 0x3000

/-- The characters of general category `Cc`: the two blocks of control codes. -/
def isControlChar (c : Char) : Bool :=
  let n := c.toNat
  n < 0x20 || (0x7F ≤ n && n < 0xA0)

/-- Drops the blanks that a text starts with. -/
def trimStart (cs : List Char) : List Char :=
  cs.dropWhile isBlankChar

/-- Drops the blanks that a text ends with. -/
def trimEnd (cs : List Char) : List Char :=
  (cs.reverse.dropWhile isBlankChar).reverse

/-- Drops the blanks on both ends of a text. -/
def trim (cs : List Char) : List Char :=
  trimEnd (trimStart cs)

/-- A text is blank when it holds nothing but white space. -/
def isBlank (cs : List Char) : Bool :=
  cs.all isBlankChar

/-- A string without the blanks on its ends. -/
def trimmed (s : String) : String :=
  String.ofList (trim s.toList)

/-- Whether a string shows anything: it holds a character that is not white space. -/
def isVisible (s : String) : Bool :=
  !isBlank s.toList

end MediaShelf.Text
